import CommandWrap.Settings.Literal

/-!
# Texts with references

A text may refer to other settings: `${a.b}` stands for the value to which the path `a.b` leads, and
`${name:x,y}` for what a function makes of its arguments.  A backslash in front of a reference makes it
plain text.  `pieces?` divides a text into plain parts and references; a text with a broken reference
has no such division.
-/
namespace CommandWrap.Settings

mutual

/-- A part of a text. -/
inductive Piece
  /-- Plain text. -/
  | text (cs : List Char)
  /-- A reference, whose value is shown in its place. -/
  | reference (r : Reference)

/-- A reference. -/
inductive Reference
  /-- To what a path leads; the path may hold references itself. -/
  | node (path : List Piece)
  /-- To what a function makes of arguments. -/
  | call (name : List Piece) (arguments : List Element)

/-- An argument of a function. -/
inductive Element
  /-- A literal that is no text. -/
  | literal (d : Datum)
  /-- A text. -/
  | text (parts : List Piece)
  /-- The value of a reference as it is. -/
  | value (r : Reference)
  /-- A list. -/
  | list (items : List Element)
  /-- A map. -/
  | map (entries : List (Datum × Element))

end

instance : Inhabited Element := ⟨.literal .null⟩

namespace Reference

/-- Is the character part of a key in a reference? -/
def isKeyChar (c : Char) : Bool :=
  !"\\\x7b\x7d()[]:. \t'\"".toList.contains c

/-- Put a character in front of plain text. -/
def consChar (c : Char) : List Piece → List Piece
  | .text cs :: rest => .text (c :: cs) :: rest
  | ps => .text [c] :: ps

/-- Put characters in front of plain text. -/
def consChars (cs : List Char) (ps : List Piece) : List Piece :=
  cs.foldr consChar ps

/-- Do a dollar sign and a brace begin the text? -/
def opens : List Char → Bool
  | '$' :: '\x7b' :: _ => true
  | _ => false

/-- May the key stand in the name of a function? -/
def isCallable : Piece → Bool
  | .text cs => Literal.isName cs
  | .reference _ => true

/-- Put keys together with points between them. -/
def joinKeys : List Piece → List Piece
  | [] => []
  | [k] => [k]
  | k :: rest => k :: .text ['.'] :: joinKeys rest

/-- The plain text of an unquoted value, if it holds no reference. -/
def plain? : List Piece → Option String
  | [] => some ""
  | [.text cs] => some (String.ofList cs)
  | _ => none

/-- What an unquoted value stands for.  `run` is the value as it is written. -/
def elementOf (run : List Char) (parts : List Piece) : Element :=
  match parts with
  | [.reference r] => .value r
  | parts =>
    match Literal.value? run with
    | some d => .literal d
    | none => .text parts

/-- Does a blank run at the beginning end in front of a character that ends an unquoted value? -/
def ends (inKey : Bool) (cs : List Char) : Bool :=
  match Literal.skipSpaces cs with
  | [] => true
  | c :: _ => c == ',' || c == ']' || c == '\x7d' || (inKey && c == ':')

mutual

/-- Read a text up to its end, or up to the given quote. -/
def readText (fuel : Nat) (quote : Option Char) (cs : List Char) : Option (List Piece × List Char) :=
  match fuel with
  | 0 => none
  | fuel + 1 =>
    match cs with
    | [] => if quote.isNone then some ([], []) else none
    | '\\' :: _ =>
      let n := (cs.takeWhile (· == '\\')).length
      let rest := cs.drop n
      let marks (k : Nat) := List.replicate k '\\'
      if opens rest then
        if n % 2 = 1 then do
          let (ps, tail) ← readText fuel quote (rest.drop 2)
          return (consChars (marks ((n - 1) / 2) ++ ['$', '\x7b']) ps, tail)
        else do
          let (ps, tail) ← readText fuel quote rest
          return (consChars (marks (n / 2)) ps, tail)
      else if quote.isSome ∧ rest.head? = quote then
        if n % 2 = 1 then do
          let (ps, tail) ← readText fuel quote (rest.drop 1)
          return (consChars (marks ((n - 1) / 2) ++ rest.take 1) ps, tail)
        else some (consChars (marks (n / 2)) [], rest.drop 1)
      else do
        let (ps, tail) ← readText fuel quote rest
        return (consChars (marks n) ps, tail)
    | c :: rest =>
      if opens cs then do
        let (r, tail) ← readReference fuel (rest.drop 1)
        let (ps, tail) ← readText fuel quote tail
        return (.reference r :: ps, tail)
      else if quote = some c then some ([], rest)
      else do
        let (ps, tail) ← readText fuel quote rest
        return (consChar c ps, tail)

/-- Read a reference behind its opening. -/
def readReference (fuel : Nat) (cs : List Char) : Option (Reference × List Char) :=
  match fuel with
  | 0 => none
  | fuel + 1 => do
    let cs := Literal.skipSpaces cs
    let points := cs.takeWhile (· == '.')
    let up := points.map fun _ => Piece.text ['.']
    let cs := cs.drop points.length
    let (bracketed, first, cs) ← match cs with
      | '[' :: rest => do
        let (k, tail) ← readKey fuel rest
        match tail with
        | ']' :: tail => some (true, k, tail)
        | _ => none
      | _ => do
        let (k, tail) ← readKey fuel cs
        some (false, k, tail)
    let (more, cs) ← readKeys fuel cs
    match Literal.skipSpaces cs with
    | '\x7d' :: tail =>
      let start := if bracketed then [.text ['['], first, .text [']']] else [first]
      return (.node (up ++ start ++ more.flatMap fun (isBracketed, k) =>
        if isBracketed then [.text ['['], k, .text [']']] else [.text ['.'], k]), tail)
    | _ =>
      match cs with
      | ':' :: tail =>
        let keys := first :: more.map (·.2)
        if bracketed || !points.isEmpty || more.any (·.1) || !keys.all isCallable then none
        else
          let (items, tail) ← readItems fuel '\x7d' (Literal.skipSpaces tail)
          return (.call (joinKeys keys) items, tail)
      | _ => none

/-- Read a key of a reference. -/
def readKey (fuel : Nat) (cs : List Char) : Option (Piece × List Char) :=
  match fuel with
  | 0 => none
  | fuel + 1 =>
    if opens cs then do
      let (r, tail) ← readReference fuel (cs.drop 2)
      return (.reference r, tail)
    else
      let key := cs.takeWhile isKeyChar
      if key.isEmpty then none else some (.text key, cs.drop key.length)

/-- Read further keys of a reference; each follows a point or stands between brackets. -/
def readKeys (fuel : Nat) (cs : List Char) : Option (List (Bool × Piece) × List Char) :=
  match fuel with
  | 0 => none
  | fuel + 1 =>
    match cs with
    | '.' :: rest => do
      let (k, tail) ← readKey fuel rest
      let (ks, tail) ← readKeys fuel tail
      return ((false, k) :: ks, tail)
    | '[' :: rest => do
      let (k, tail) ← readKey fuel rest
      match tail with
      | ']' :: tail =>
        let (ks, tail) ← readKeys fuel tail
        return ((true, k) :: ks, tail)
      | _ => none
    | _ => some ([], cs)

/-- Read elements up to the closing character.  An element that is left out is an empty text. -/
def readItems (fuel : Nat) (closing : Char) (cs : List Char) : Option (List Element × List Char) :=
  match fuel with
  | 0 => none
  | fuel + 1 =>
    match Literal.skipSpaces cs with
    | c :: rest => if c = closing then some ([], rest) else readSequence fuel closing cs
    | [] => none

/-- Read at least one element up to the closing character. -/
def readSequence (fuel : Nat) (closing : Char) (cs : List Char) : Option (List Element × List Char) :=
  match fuel with
  | 0 => none
  | fuel + 1 => do
    let isLeftOut := match Literal.skipSpaces cs with
      | c :: _ => c == ',' || c == closing
      | [] => false
    let (e, tail) ← if isLeftOut then some (Element.text [], cs) else readElement fuel cs
    match Literal.skipSpaces tail with
    | ',' :: tail => do
      let (es, tail) ← readSequence fuel closing (Literal.skipSpaces tail)
      return (e :: es, tail)
    | c :: tail => if c = closing then some ([e], tail) else none
    | [] => none

/-- Read an element. -/
def readElement (fuel : Nat) (cs : List Char) : Option (Element × List Char) :=
  match fuel with
  | 0 => none
  | fuel + 1 =>
    match cs with
    | [] => none
    | '[' :: rest => do
      let (es, tail) ← readItems fuel ']' (Literal.skipSpaces rest)
      return (.list es, tail)
    | '\x7b' :: rest =>
      match Literal.skipSpaces rest with
      | '\x7d' :: tail => some (.map [], tail)
      | rest => do
        let (es, tail) ← readEntries fuel rest
        return (.map es, tail)
    | c :: rest =>
      if c = '\'' ∨ c = '"' then do
        let (ps, tail) ← readText fuel (some c) rest
        return (.text ps, tail)
      else do
        let (run, ps, tail) ← readRun fuel false cs
        if run.isEmpty then none else return (elementOf run ps, tail)

/-- Read an unquoted value: the characters as they are written, the parts, and the rest. -/
def readRun (fuel : Nat) (inKey : Bool) (cs : List Char) : Option (List Char × List Piece × List Char) :=
  match fuel with
  | 0 => none
  | fuel + 1 =>
    if ends inKey cs then some ([], [], cs)
    else
      match cs with
      | [] => some ([], [], [])
      | '\\' :: d :: rest =>
        if Literal.isEscapable d then do
          let (run, ps, tail) ← readRun fuel inKey rest
          return ('\\' :: d :: run, consChar d ps, tail)
        else do
          let (run, ps, tail) ← readRun fuel inKey (d :: rest)
          return ('\\' :: run, consChar '\\' ps, tail)
      | c :: rest =>
        if opens cs then
          if inKey then none
          else do
            let (r, tail) ← readReference fuel (rest.drop 1)
            let (run, ps, tail) ← readRun fuel inKey tail
            return ('$' :: run, .reference r :: ps, tail)
        else if Literal.isPlain c || Literal.isSpace c || c == '\\' || c == ':' then do
          let (run, ps, tail) ← readRun fuel inKey rest
          return (c :: run, consChar c ps, tail)
        else none

/-- Read entries of a map up to its closing brace. -/
def readEntries (fuel : Nat) (cs : List Char) : Option (List (Datum × Element) × List Char) :=
  match fuel with
  | 0 => none
  | fuel + 1 => do
    let (run, ps, tail) ← readRun fuel true cs
    if run.isEmpty then none
    let key ← match Literal.value? run with
      | some d => some d
      | none => (plain? ps).map .text
    match Literal.skipSpaces tail with
    | ':' :: tail => do
      let (e, tail) ← readElement fuel (Literal.skipSpaces tail)
      match Literal.skipSpaces tail with
      | ',' :: tail => do
        let (es, tail) ← readEntries fuel (Literal.skipSpaces tail)
        return ((key, e) :: es, tail)
      | '\x7d' :: tail => some ([(key, e)], tail)
      | _ => none
    | _ => none

end

/-- Fuel for reading so many characters. -/
def fuelFor (cs : List Char) : Nat :=
  4 * cs.length + 8

end Reference

/-- Does a text hold what might be a reference? -/
def hasReference (cs : List Char) : Bool :=
  match cs with
  | [] => false
  | _ :: rest => Reference.opens cs || hasReference rest

/-- The parts of a text; nothing if a reference in it is broken. -/
def pieces? (s : String) : Option (List Piece) :=
  let cs := s.toList
  if hasReference cs then (Reference.readText (Reference.fuelFor cs) none cs).map (·.1)
  else some [.text cs]

/-- The element that a text is; nothing if it is broken. -/
def element? (s : String) : Option Element :=
  let cs := s.toList
  match Reference.readElement (Reference.fuelFor cs) cs with
  | some (e, []) => some e
  | _ => none

end CommandWrap.Settings
