import CommandWrap.Decimal.Reader
import CommandWrap.Parser.Declaration

/-!
# Reading a command line

A parser whose options take no value or one reads the words of a command line.  An option may be
shortened as long as only one option begins so, its value may follow an equals sign, and short options
may stand together.  `Parser.read` gives the options in order with their values, or says why reading
stops.
-/
namespace CommandWrap.Parser

/-- Why reading stops. -/
inductive Stop
  /-- The help is asked for. -/
  | help
  /-- The words are wrong. -/
  | error (message : String)
deriving DecidableEq, Repr

/-- An option as it is given: its number and its value. -/
structure GivenOption where
  /-- The number of the option. -/
  number : Nat
  /-- The value, if it takes one. -/
  value? : Option String
deriving Repr, DecidableEq

/-- A word that may be an option: the option, the name by which it is called, and a value that is
written in the same word, with whether an equals sign stands before it. -/
structure Candidate where
  /-- The option; nothing if there is no such option. -/
  option? : Option Numbered
  /-- The name. -/
  name : String
  /-- The value in the same word, and whether an equals sign stands before it. -/
  attached? : Option (Bool × String)

/-- What a word is. -/
inductive WordKind
  /-- An option. -/
  | option (c : Candidate)
  /-- A value. -/
  | value
  /-- Two hyphens, behind which all words are values. -/
  | divider

namespace Reading

/-- The options by all their names, in order. -/
def byName (info : Info) : List (String × Numbered) :=
  info.numbered.flatMap fun a => a.2.names.map (·, a)

/-- Is the character a sign? -/
def isSign (info : Info) (c : Char) : Bool :=
  info.signs.toList.contains c

/-- The text before the first equals sign, and the text behind it. -/
def splitEquals (word : String) : String × Option String :=
  let (name, rest) := word.toList.span (· != '=')
  (String.ofList name, if rest.isEmpty then none else some (String.ofList rest.tail))

/-- The options that a shortened word may mean. -/
def completions (info : Info) (word : String) : List Candidate :=
  match word.toList with
  | _ :: second :: tail =>
    if isSign info second then
      let (name, value?) := splitEquals word
      (byName info).filterMap fun (full, o) =>
        if full.startsWith name then some ⟨some o, full, value?.map (true, ·)⟩ else none
    else
      let short := String.ofList (word.toList.take 2)
      (byName info).filterMap fun (full, o) =>
        if full = short then some ⟨some o, full, some (false, String.ofList tail)⟩
        else if full.startsWith word then some ⟨some o, full, none⟩
        else none
  | _ => []

/-- Is the text a negative number? -/
def isNegative (word : String) : Bool :=
  match (word.toList : List Char) with
  | '-' :: rest =>
    let isDigit (c : Char) : Bool := (Decimal.decimalDigit? c).isSome
    let rest := if rest.getLast? = some '\n' then rest.dropLast else rest
    let (whole, tail) := rest.span isDigit
    match tail with
    | [] => !whole.isEmpty
    | '.' :: fraction => !fraction.isEmpty && fraction.all isDigit
    | _ => false
  | _ => false

/-- What a word in front of two hyphens is. -/
def kindOf (info : Info) (word : String) : Except Stop WordKind :=
  match word.toList with
  | [] => .ok .value
  | first :: rest =>
    if !isSign info first then .ok .value
    else
      match (byName info).lookup word, splitEquals word with
      | some o, _ => .ok (.option ⟨some o, word, none⟩)
      | none, (name, value?) =>
        if rest.isEmpty then .ok .value
        else
          match value?, (byName info).lookup name with
          | some value, some o => .ok (.option ⟨some o, name, some (true, value)⟩)
          | _, _ =>
            match completions info word with
            | [c] => .ok (.option c)
            | [] =>
              if isNegative word && !info.arguments.any (·.names.any isNegative) then .ok .value
              else if word.toList.contains ' ' then .ok .value
              else .ok (.option ⟨none, word, none⟩)
            | cs => .error (.error ("ambiguous option: " ++ word ++ " could match " ++
                String.intercalate ", " (cs.map (·.name))))

/-- What all words are. -/
def kinds (info : Info) : List String → Except Stop (List (String × WordKind))
  | [] => .ok []
  | "--" :: rest => .ok (("--", .divider) :: rest.map (·, .value))
  | word :: rest => do
    let kind ← kindOf info word
    return (word, kind) :: (← kinds info rest)

/-- What was read so far. -/
structure State where
  /-- The options given so far. -/
  given : List GivenOption := []
  /-- The words that nothing takes. -/
  extras : List String := []

/-- The fault of an option. -/
def optionError {α : Type} (a : Argument) (message : String) : Except Stop α :=
  .error (.error ("argument " ++ String.intercalate "/" a.names ++ ": " ++ message))

/-- Take an option with its value; an option that excludes one given before is a fault. -/
def take (info : Info) (o : Numbered) (value? : Option String) (s : State) : Except Stop State := do
  if o.2.action = .help then .error .help
  let others := info.groups.flatMap fun g =>
    if g.members.contains o.1 then g.members.filter (· != o.1) else []
  match others.find? fun n => s.given.any (·.number == n) with
  | some n =>
    let other := info.arguments[n]?.map (·.names)
    optionError o.2 ("not allowed with argument " ++ String.intercalate "/" (other.getD []))
  | none => return { s with given := s.given ++ [⟨o.1, value?⟩] }

/-- Does the option take a value? -/
def takesValue (o : Numbered) : Bool :=
  o.2.arity != .exactly 0

/-- The fault of a value that an option does not take. -/
def ignored {α : Type} (a : Argument) (value : String) : Except Stop α :=
  optionError a ("ignored explicit argument " ++ Text.quoted value)

/-- The short options that stand together in a word: the options without a value, then the last one
with what follows it in the word, or a word that nothing takes. -/
def cluster (info : Info) (sign : Char) (o : Numbered) (hasEquals : Bool) :
    List Char → Except Stop (List Numbered × (Candidate ⊕ String))
  | [] => .ok ([], .inl ⟨some o, "", none⟩)
  | first :: rest =>
    let value := String.ofList (first :: rest)
    if takesValue o then .ok ([], .inl ⟨some o, "", some (hasEquals, value)⟩)
    else if hasEquals || isSign info first then ignored o.2 value
    else
      match (byName info).lookup (String.ofList [sign, first]) with
      | none => .ok ([o], .inr (String.ofList (sign :: first :: rest)))
      | some next =>
        match rest with
        | '=' :: behind =>
          if behind.isEmpty then
            if takesValue next then .ok ([o], .inl ⟨some next, "", some (true, "")⟩)
            else ignored next.2 ""
          else do
            let (before, last) ← cluster info sign next true behind
            return (o :: before, last)
        | rest => do
          let (before, last) ← cluster info sign next false rest
          return (o :: before, last)

/-- The options that one word gives: those without a value, then the last one with its own value if it
is in the word, or a word that nothing takes. -/
def optionsOf (info : Info) (word : String) (c : Candidate) :
    Except Stop (List Numbered × (Candidate ⊕ String)) :=
  match c.option?, c.attached? with
  | none, _ => .ok ([], .inr word)
  | some _, none => .ok ([], .inl c)
  | some o, some (hasEquals, value) =>
    if takesValue o then .ok ([], .inl c)
    else
      match c.name.toList with
      | sign :: second :: _ =>
        if isSign info second || value.isEmpty then ignored o.2 value
        else cluster info sign o hasEquals value.toList
      | _ => ignored o.2 value

/-- Read the words behind each other. -/
def readFrom (info : Info) : List (String × WordKind) → State → Except Stop State
  | [], s => .ok s
  | (word, .option c) :: rest, s => do
    let (before, last) ← optionsOf info word c
    match last with
    | .inr extra =>
      let s := { s with extras := s.extras ++ [extra] }
      let s ← before.foldlM (fun s o => take info o none s) s
      readFrom info rest s
    | .inl last =>
      match last.option?, last.attached? with
      | some o, some (_, value) => do
        let s ← before.foldlM (fun s o => take info o none s) s
        readFrom info rest (← take info o (some value) s)
      | some o, none =>
        if takesValue o then
          match rest with
          | (value, .value) :: rest => do
            let s ← before.foldlM (fun s o => take info o none s) s
            readFrom info rest (← take info o (some value) s)
          | _ => optionError o.2 "expected one argument"
        else do
          let s ← before.foldlM (fun s o => take info o none s) s
          readFrom info rest (← take info o none s)
      | none, _ => readFrom info rest { s with extras := s.extras ++ [word] }
  | (word, _) :: rest, s => readFrom info rest { s with extras := s.extras ++ [word] }

end Reading

/-- The names of an argument, as errors give them. -/
def Argument.errorName (a : Argument) : String :=
  String.intercalate "/" a.names

/-- What must be given and is not. -/
def Info.missing? (info : Info) (given : List GivenOption) : Option String :=
  let isGiven (n : Nat) : Bool := given.any (·.number == n)
  let names := (info.numbered.filter fun (n, a) => a.required && !isGiven n).map (·.2.errorName)
  if !names.isEmpty then
    some ("the following arguments are required: " ++ String.intercalate ", " names)
  else
    (info.groups.find? fun g => g.required && !g.members.any isGiven).map fun g =>
      let names := g.members.filterMap fun n => info.arguments[n]?.map (·.errorName)
      "one of the arguments " ++ String.intercalate " " names ++ " is required"

/-- The options that the words of a command line give, in order. -/
def read (info : Info) (words : List String) : Except Stop (List GivenOption) := do
  let s ← Reading.readFrom info (← Reading.kinds info words) {}
  match info.missing? s.given with
  | some message => .error (.error message)
  | none =>
    if s.extras.isEmpty then return s.given
    else .error (.error ("unrecognized arguments: " ++ String.intercalate " " s.extras))

/-- What is shown when a command line is wrong. -/
def Info.errorText (info : Info) (message : String) : String :=
  let usage := match info.usage "usage: " info.numbered with
    | .ok text => text
    | .error _ => ""
  "usage: " ++ usage ++ "\n" ++ info.prog ++ ": error: " ++ message ++ "\n"

end CommandWrap.Parser
