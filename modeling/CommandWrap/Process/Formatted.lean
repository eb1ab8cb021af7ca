import CommandWrap.Process.Finished

/-!
# Printing words and formats

`printWords` prints words with spaces between them, and `printFormat` prints a format as often as it
takes to use up all values.  Both know escapes behind a backslash.
-/
namespace CommandWrap.Process

/-- The bytes of characters. -/
def bytesOf (cs : List Char) : List UInt8 :=
  (String.ofList cs).toUTF8.toList

/-- The value of an octal digit. -/
def octal? (c : Char) : Option Nat :=
  if '0' ≤ c ∧ c ≤ '7' then some (c.toNat - 48) else none

/-- Up to `most` digits of a base: their value and how many they are. -/
def digitsOf (base most : Nat) (digit? : Char → Option Nat) (cs : List Char) : Nat × Nat :=
  let digits := (cs.take most).map digit? |>.takeWhile Option.isSome |>.filterMap id
  (digits.foldl (base * · + ·) 0, digits.length)

/-- The value of a hexadecimal digit. -/
def hex? (c : Char) : Option Nat :=
  if '0' ≤ c ∧ c ≤ '9' then some (c.toNat - 48)
  else if 'a' ≤ c ∧ c ≤ 'f' then some (c.toNat - 87)
  else if 'A' ≤ c ∧ c ≤ 'F' then some (c.toNat - 55)
  else none

/-- What a letter behind a backslash stands for. -/
def escapeLetter? (c : Char) : Option UInt8 :=
  match c with
  | 'a' => some 7
  | 'b' => some 8
  | 'e' => some 27
  | 'f' => some 12
  | 'n' => some 10
  | 'r' => some 13
  | 't' => some 9
  | 'v' => some 11
  | '\\' => some 92
  | _ => none

/-- The text behind a backslash: the bytes it stands for, or nothing when printing ends there, and how
many characters it has.  `zeroFirst` says whether octal digits need a zero in front of them. -/
def escapeOf (zeroFirst : Bool) (cs : List Char) : Option (List UInt8) × Nat :=
  match cs with
  | [] => (some [92], 0)
  | 'c' :: _ => (none, 1)
  | 'x' :: rest =>
    let (n, k) := digitsOf 16 2 hex? rest
    if k = 0 then (some (bytesOf ['\\', 'x']), 1) else (some [UInt8.ofNat n], k + 1)
  | c :: rest =>
    match escapeLetter? c, octal? c with
    | some b, _ => (some [b], 1)
    | none, some _ =>
      if zeroFirst then
        if c = '0' then
          let (n, k) := digitsOf 8 3 octal? rest
          (some [UInt8.ofNat n], k + 1)
        else (some (bytesOf ['\\', c]), 1)
      else
        let (n, k) := digitsOf 8 3 octal? cs
        (some [UInt8.ofNat n], k)
    | none, none => (some (bytesOf (if c = '"' ∧ !zeroFirst then ['"'] else ['\\', c])), 1)

/-- A text with its escapes replaced, and whether printing goes on behind it. -/
def unescape (zeroFirst : Bool) : Nat → List Char → List UInt8 × Bool
  | 0, _ => ([], true)
  | _, [] => ([], true)
  | fuel + 1, c :: rest =>
    if c = '\\' then
      match escapeOf zeroFirst rest with
      | (none, _) => ([], false)
      | (some bytes, n) =>
        let (more, goesOn) := unescape zeroFirst fuel (rest.drop n)
        (bytes ++ more, goesOn)
    else
      let (more, goesOn) := unescape zeroFirst fuel rest
      (bytesOf [c] ++ more, goesOn)

/-- Print words with spaces between them and a line feed at the end. -/
def printWords (escapes newline : Bool) (words : List String) : List UInt8 :=
  let text := (String.intercalate " " words).toList
  let (bytes, goesOn) := if escapes then unescape true (text.length + 1) text else (bytesOf text, true)
  bytes ++ if newline && goesOn then [10] else []

/-- The options in front of words to print: whether escapes count, whether a line feed is printed, and
the words. -/
def printOptions (escapes newline : Bool) : List String → Bool × Bool × List String
  | [] => (escapes, newline, [])
  | w :: rest =>
    match w.toList with
    | '-' :: letters =>
      if !letters.isEmpty && letters.all fun c => c == 'n' || c == 'e' || c == 'E' then
        printOptions
          (letters.foldl (fun e c => if c = 'e' then true else if c = 'E' then false else e) escapes)
          (newline && !letters.contains 'n') rest
      else (escapes, newline, w :: rest)
    | _ => (escapes, newline, w :: rest)

/-- The layout of a value. -/
structure ValueLayout where
  /-- Are blanks added behind it? -/
  left : Bool
  /-- Are zeros added in front of it? -/
  zeros : Bool
  /-- Is a plus sign shown? -/
  plus : Bool
  /-- The least width. -/
  width : Nat
  /-- The most characters or least digits. -/
  precision? : Option Nat

/-- A text in a layout. -/
def ValueLayout.pad (l : ValueLayout) (cs : List Char) : List Char :=
  let fill := l.width - cs.length
  if l.left then cs ++ List.replicate fill ' ' else List.replicate fill ' ' ++ cs

/-- A number in a layout. -/
def ValueLayout.number (l : ValueLayout) (negative : Bool) (digits : List Char) : List Char :=
  let sign := if negative then ['-'] else if l.plus then ['+'] else []
  let least := match l.precision? with
    | some p => p
    | none => if l.zeros && !l.left then l.width - sign.length else 0
  l.pad (sign ++ List.replicate (least - digits.length) '0' ++ digits)

/-- The integer that a word begins with, and whether it is nothing else. -/
def integerOf (word : String) : Int × Bool :=
  let (negative, cs) := match word.toList with
    | '-' :: rest => (true, rest)
    | '+' :: rest => (false, rest)
    | cs => (false, cs)
  let (n, k, whole) := match cs with
    | '0' :: 'x' :: rest =>
      let (n, k) := digitsOf 16 rest.length hex? rest
      (n, k, k == rest.length && k != 0)
    | '0' :: rest =>
      let (n, k) := digitsOf 8 rest.length octal? rest
      (n, k + 1, k == rest.length)
    | cs =>
      let digits := cs.takeWhile Char.isDigit
      (digits.foldl (fun n d => 10 * n + (d.toNat - 48)) 0, digits.length,
        digits.length == cs.length && !cs.isEmpty)
  (if negative then -(n : Int) else n, whole && k != 0)

/-- One pass over a format. -/
structure Pass where
  /-- The bytes so far. -/
  bytes : List UInt8 := []
  /-- The values that are left. -/
  values : List String
  /-- Was a value asked for? -/
  tookValue : Bool := false
  /-- The fault that ended printing, if one did. -/
  fault? : Option String := none
  /-- Messages about values that are no numbers. -/
  complaints : List String := []
  /-- Does printing go on? -/
  goesOn : Bool := true

/-- The layout in front of a letter, and what follows. -/
def layoutOf (cs : List Char) : ValueLayout × List Char :=
  let (flags, cs) := cs.span fun c => c == '-' || c == '0' || c == '+' || c == ' ' || c == '#'
  let (width, cs) := cs.span Char.isDigit
  let number (ds : List Char) := ds.foldl (fun n d => 10 * n + (d.toNat - 48)) 0
  let (precision?, cs) := match cs with
    | '.' :: rest =>
      let (digits, rest) := rest.span Char.isDigit
      (some (number digits), rest)
    | _ => (none, cs)
  (⟨flags.contains '-', flags.contains '0', flags.contains '+', number width, precision?⟩, cs)

/-- The value that is next. -/
def Pass.next (p : Pass) : Option String × Pass :=
  (p.values.head?, { p with values := p.values.tail, tookValue := true })

/-- Add bytes. -/
def Pass.add (p : Pass) (bytes : List UInt8) : Pass :=
  { p with bytes := p.bytes ++ bytes }

/-- Print a value by a letter. -/
def printValue (l : ValueLayout) (letter : Char) (p : Pass) : Option Pass :=
  let (value?, p) := p.next
  let value := value?.getD ""
  let clip (cs : List Char) : List Char := match l.precision? with
    | some n => cs.take n
    | none => cs
  let checked (n : Option (Int × Bool)) (p : Pass) : Pass :=
    match n with
    | some (_, false) => { p with complaints := p.complaints ++ [value] }
    | _ => p
  let n := value?.map integerOf
  let size := (n.getD (0, true)).1
  match letter with
  | 's' => some (p.add (bytesOf (l.pad (clip value.toList))))
  | 'c' => some (p.add (bytesOf (l.pad (value.toList.take 1))))
  | 'b' =>
    let (bytes, goesOn) := unescape true (value.length + 1) value.toList
    some { p.add bytes with goesOn }
  | 'd' => some ((checked n p).add (bytesOf (l.number (size < 0) (Nat.toDigits 10 size.natAbs))))
  | 'i' => some ((checked n p).add (bytesOf (l.number (size < 0) (Nat.toDigits 10 size.natAbs))))
  | 'u' => some ((checked n p).add (bytesOf (l.number false (Nat.toDigits 10 size.natAbs))))
  | 'o' => some ((checked n p).add (bytesOf (l.number false (Nat.toDigits 8 size.natAbs))))
  | 'x' => some ((checked n p).add (bytesOf (l.number false (Nat.toDigits 16 size.natAbs))))
  | 'X' =>
    some ((checked n p).add (bytesOf (l.number false ((Nat.toDigits 16 size.natAbs).map Char.toUpper))))
  | _ => none

/-- Print a format once. -/
def printOnce : Nat → List Char → Pass → Pass
  | 0, _, p => p
  | _, [], p => p
  | fuel + 1, '%' :: '%' :: rest, p => printOnce fuel rest (p.add [37])
  | fuel + 1, '%' :: rest, p =>
    let (l, after) := layoutOf rest
    let spec := rest.take (rest.length - after.length + 1)
    match after with
    | [] => { p with fault? := some (String.ofList ('%' :: spec)), goesOn := false }
    | letter :: after =>
      match printValue l letter p with
      | some p => if p.goesOn then printOnce fuel after p else p
      | none => { p with fault? := some (String.ofList ('%' :: spec)), goesOn := false }
  | fuel + 1, '\\' :: rest, p =>
    match escapeOf false rest with
    | (none, _) => { p with goesOn := false }
    | (some bytes, n) => printOnce fuel (rest.drop n) (p.add bytes)
  | fuel + 1, c :: rest, p => printOnce fuel rest (p.add (bytesOf [c]))

/-- Print a format until all values are used up. -/
def printAll (format : List Char) : Nat → Pass → Pass
  | 0, p => p
  | fuel + 1, p =>
    let p := printOnce (format.length + 1) format { p with tookValue := false }
    if p.goesOn && p.tookValue && !p.values.isEmpty then printAll format fuel p else p

/-- The message that values are left because the format takes none. -/
def excessMessage (program : String) (p : Pass) : List String :=
  match p.values with
  | v :: _ =>
    if p.goesOn && !p.tookValue then
      [program ++ ": warning: ignoring excess arguments, starting with ‘" ++ v ++ "’\n"]
    else []
  | [] => []

/-- The process that prints a format with values; values that the format does not take are ignored, with
a message if the program `warns` of that. -/
def printFormat (program : String) (warns : Bool) : List String → Finished
  | [] =>
    ⟨.exited 1, [(.err, bytesOf (program ++ ": missing operand\nTry '" ++ program ++
      " --help' for more information.\n").toList)]⟩
  | format :: values =>
    let p := printAll format.toList (values.length + 1) { values }
    let complaints := p.complaints.map fun v => program ++ ": ‘" ++ v ++ "’: expected a numeric value\n"
    let faults := p.fault?.toList.map fun spec =>
      program ++ ": " ++ spec ++ ": invalid conversion specification\n"
    let messages := complaints ++ faults
    let warnings := if warns then excessMessage program p else []
    ⟨.exited (if messages.isEmpty then 0 else 1),
      (if p.bytes.isEmpty then [] else [(Channel.out, p.bytes)]) ++
        (messages ++ warnings).map fun m => (Channel.err, bytesOf m.toList)⟩

end CommandWrap.Process
