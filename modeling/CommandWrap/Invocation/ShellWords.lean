/-!
# Words of a shell

Words are written so that a POSIX shell reads them back: a word of letters, digits and a few signs
stands as it is, and any other is put between single quotes, where a single quote is written as a
quote that leaves the quoted text, a quote between double quotes, and a quote that enters it again.

The shell reads a line character by character (`read?`).  Characters between single quotes stand for
themselves.  A backslash takes the meaning from every character outside of quotes, and from some between
double quotes; a line break behind it goes with it.  A line that holds a special character without quotes
is more than words, and is not read.
-/
namespace CommandWrap.ShellWords

/-! ## Writing -/

/-- Does the shell read the character as itself wherever it stands in a word? -/
def isPlain (c : Char) : Bool :=
  c.isAlphanum || "_@%+=:,./-".toList.contains c

/-- One character between single quotes. -/
def escape (c : Char) : List Char :=
  if c = '\'' then ['\'', '"', '\'', '"', '\''] else [c]

/-- A word as the shell reads it. -/
def quoteWord (word : List Char) : List Char :=
  if word.isEmpty then ['\'', '\'']
  else if word.all isPlain then word
  else '\'' :: word.flatMap escape ++ ['\'']

/-- Words with one space between them. -/
def join (words : List String) : String :=
  String.intercalate " " (words.map fun w => String.ofList (quoteWord w.toList))

/-! ## Reading -/

/-- Where the shell is in a line. -/
inductive Place
  /-- Between words. -/
  | gap
  /-- Behind a backslash between words. -/
  | gapEscape
  /-- In a word, outside of quotes. -/
  | bare
  /-- Behind a backslash in a word, outside of quotes. -/
  | bareEscape
  /-- Between single quotes. -/
  | single
  /-- Between double quotes. -/
  | double
  /-- Behind a backslash between double quotes. -/
  | doubleEscape
deriving DecidableEq, Repr

/-- What a character does. -/
inductive Move
  /-- No word has begun. -/
  | between (next : Place)
  /-- A word begins or goes on, with the characters. -/
  | within (next : Place) (chars : List Char)
  /-- The word ends. -/
  | finish
deriving DecidableEq, Repr

/-- Does the character divide words? -/
def isSeparator (c : Char) : Bool :=
  c == ' ' || c == '\t'

/-- Does the character, where it is not quoted, join commands or stand for other text? -/
def isSpecial (c : Char) : Bool :=
  "|&;<>()$`\n*?[".toList.contains c

/-- Does the character, where a word begins, begin a comment or stand for other text? -/
def isSpecialInFront (c : Char) : Bool :=
  c == '#' || c == '~'

/-- Does the character stand for other text between double quotes? -/
def expandsInQuotes (c : Char) : Bool :=
  c == '$' || c == '`'

/-- Does a backslash between double quotes take the meaning from the character? -/
def isEscapable (c : Char) : Bool :=
  expandsInQuotes c || c == '"' || c == '\\'

/-- What a character does outside of quotes if it neither divides words nor is a backslash. -/
def moveBare (c : Char) : Option Move :=
  if c = '\'' then some (.within .single [])
  else if c = '"' then some (.within .double [])
  else if isSpecial c then none
  else some (.within .bare [c])

/-- What a character does at a place. -/
def move : Place → Char → Option Move
  | .gap, c =>
    if isSeparator c then some (.between .gap)
    else if c = '\\' then some (.between .gapEscape)
    else if isSpecialInFront c then none
    else moveBare c
  | .gapEscape, c => if c = '\n' then some (.between .gap) else some (.within .bare [c])
  | .bare, c =>
    if isSeparator c then some .finish
    else if c = '\\' then some (.within .bareEscape [])
    else moveBare c
  | .bareEscape, c => some (.within .bare (if c = '\n' then [] else [c]))
  | .single, c => if c = '\'' then some (.within .bare []) else some (.within .single [c])
  | .double, c =>
    if c = '"' then some (.within .bare [])
    else if c = '\\' then some (.within .doubleEscape [])
    else if expandsInQuotes c then none
    else some (.within .double [c])
  | .doubleEscape, c =>
    some (.within .double (if c = '\n' then [] else if isEscapable c then [c] else ['\\', c]))

/-- Put characters in front of the first word. -/
def extend (front : List Char) : List (List Char) → List (List Char)
  | [] => [front]
  | word :: words => (front ++ word) :: words

/-- The words in the rest of a line; inside a word, its rest comes first.  Nothing is read where a quote
is not closed, a backslash ends the line, or a special character is not quoted. -/
def readFrom? : Place → List Char → Option (List (List Char))
  | .gap, [] => some []
  | .bare, [] => some [[]]
  | _, [] => none
  | place, c :: rest =>
    match move place c with
    | none => none
    | some (.between next) => readFrom? next rest
    | some (.within next chars) => (readFrom? next rest).map (extend chars)
    | some .finish => (readFrom? .gap rest).map ([] :: ·)

/-- The words of a line, unless it is more than words. -/
def read? (line : String) : Option (List String) :=
  (readFrom? .gap line.toList).map (·.map String.ofList)

end CommandWrap.ShellWords
