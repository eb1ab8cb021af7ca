import CommandWrap.Group.Command
import CommandWrap.Text.Closeness

/-!
# Reading command lines of groups

The words of a command line give options, each with the words that belong to it, and arguments.  Options
may stand among the arguments of a command, but in front of the subcommand of a group.  Two hyphens end
the options.  Short options may be joined, and a value may follow a short option at once or a long one
behind an equals sign.
-/
namespace CommandWrap.Group

/-- What is wrong with a command line. -/
inductive UsageFault
  /-- There is no such option; other names are close. -/
  | noOption (name : String) (close : List String)
  /-- There is no such subcommand; other names are close. -/
  | noCommand (name : String) (close : List String)
  /-- An option has too few words. -/
  | noWords (name : String) (arity : Int)
  /-- An option that stands alone is given a value. -/
  | noValue (name : String)
  /-- An argument has too few words. -/
  | fewWords (name : String) (arity : Int)
  /-- An argument is missing. -/
  | missing (label : String)
  /-- There are more words than arguments. -/
  | unexpected (words : List String)
  /-- The subcommand is missing. -/
  | noSubcommand
  /-- The parameters do not go together. -/
  | other (message : String)
deriving DecidableEq, Repr

/-- The wording of a fault. -/
def UsageFault.message : UsageFault → String
  | .noOption name close => "No such option " ++ Text.quoted name ++ "." ++ Text.suggestion close
  | .noCommand name close => "No such command " ++ Text.quoted name ++ "." ++ Text.suggestion close
  | .noWords name arity =>
    "Option " ++ Text.quoted name ++ " requires " ++
      (if arity = 1 then "an argument." else toString arity ++ " arguments.")
  | .noValue name => "Option " ++ Text.quoted name ++ " does not take a value."
  | .fewWords name arity => "Argument " ++ Text.quoted name ++ " takes " ++ toString arity ++ " values."
  | .missing label => "Missing argument '" ++ label ++ "'."
  | .unexpected words =>
    "Got unexpected extra argument" ++ (if words.length = 1 then "" else "s") ++ " (" ++
      String.intercalate " " words ++ ")"
  | .noSubcommand => "Missing command."
  | .other message => message

/-- A parameter with the words that are given for it. -/
structure Given where
  /-- The name of its value. -/
  name : String
  /-- The words. -/
  words : List String
deriving DecidableEq, Repr

namespace Reading

/-- The option that shows the help, if the command has one. -/
def helpOption? (c : Command) : Option OptionInfo :=
  let taken := c.options.flatMap fun o => o.names ++ o.opposites
  if c.info.hasHelp && !taken.contains "--help" then
    some { name := "help", names := ["--help"], type := .truth, isFlag := true
           help? := some "Show this message and exit." }
  else none

/-- All options of a command. -/
def options (c : Command) : List OptionInfo :=
  c.options ++ (helpOption? c).toList

/-- Is it a short name, of one sign and one more character? -/
def isShort (name : String) : Bool :=
  let (signs, rest) := splitSigns name.toList
  signs.length = 1 && rest.length = 1

/-- The names of options that are not short. -/
def longNames (c : Command) : List String :=
  (options c).flatMap fun o => (o.names ++ o.opposites).filter (!isShort ·)

/-- The signs with which options begin. -/
def signs (c : Command) : List (List Char) :=
  [['-'], ['-', '-']] ++ (options c).flatMap fun o =>
    (o.names ++ o.opposites).flatMap fun name =>
      let s := (splitSigns name.toList).1
      [s.take 1, s]

/-- The option with a name; the last one that has it. -/
def find? (c : Command) (name : String) : Option OptionInfo :=
  ((options c).filter fun o => (o.names ++ o.opposites).contains name).getLast?

/-- Does the option take words? -/
def takesWords (o : OptionInfo) : Bool :=
  !(o.isFlag || o.isCounted)

/-- The words that belong to an option, and the rest. -/
def takeWords (name : String) (o : OptionInfo) (words : List String) :
    Except UsageFault (Given × List String) :=
  let n := o.arity.toNat
  if words.length < n then .error (.noWords name o.arity)
  else .ok (⟨o.name, words.take n⟩, words.drop n)

/-- Read a long option with the value behind its equals sign, if there is one. -/
def readLong (o : OptionInfo) (name : String) (value? : Option String) (rest : List String) :
    Except UsageFault (Given × List String) :=
  if takesWords o then takeWords name o (value?.toList ++ rest)
  else if value?.isSome then .error (.noValue name)
  else .ok (⟨o.name, []⟩, rest)

/-- Read joined short options. -/
def readShort (c : Command) (sign : Char) (rest : List String) :
    List Char → Except UsageFault (List Given × List String)
  | [] => .ok ([], rest)
  | ch :: more =>
    let name := String.ofList [sign, ch]
    match find? c name with
    | none => .error (.noOption name [])
    | some o =>
      if takesWords o then do
        let words := if more.isEmpty then rest else String.ofList more :: rest
        let (g, rest) ← takeWords name o words
        return ([g], rest)
      else do
        let (gs, rest) ← readShort c sign rest more
        return (⟨o.name, []⟩ :: gs, rest)

/-- The text in front of the first equals sign, and the text behind it. -/
def splitEquals (word : String) : String × Option String :=
  let cs := word.toList
  let name := cs.takeWhile (· != '=')
  (String.ofList name, if name.length < cs.length then some (String.ofList (cs.drop (name.length + 1))) else none)

/-- Read an option. -/
def readOption (c : Command) (word : String) (rest : List String) :
    Except UsageFault (List Given × List String) :=
  let (name, value?) := splitEquals word
  match (if (longNames c).contains name then find? c name else none) with
  | some o => do
    let (g, rest) ← readLong o name value? rest
    return ([g], rest)
  | none =>
    if (signs c).contains (word.toList.take 2) then
      .error (.noOption name (Text.closeWords name (longNames c).eraseDups))
    else
      match word.toList with
      | sign :: more => readShort c sign rest more
      | [] => .ok ([], rest)

/-- Does the word look like an option? -/
def isOption (c : Command) (word : String) : Bool :=
  1 < word.length && (signs c).contains (word.toList.take 1)

/-- The options and the other words of a command line.  Every step takes at least one word. -/
def readWords (c : Command) : Nat → List String → Except UsageFault (List Given × List String)
  | 0, words => .ok ([], words)
  | _, [] => .ok ([], [])
  | fuel + 1, word :: rest =>
    if word = "--" then .ok ([], rest)
    else if isOption c word then do
      let (gs, rest) ← readOption c word rest
      let (more, left) ← readWords c fuel rest
      return (gs ++ more, left)
    else if c.choice?.isSome then .ok ([], word :: rest)
    else do
      let (gs, left) ← readWords c fuel rest
      return (gs, word :: left)

/-- The number of words that arguments behind one with any number of words take. -/
def wordsBehind : List ArgumentInfo → Nat
  | [] => 0
  | a :: rest => a.arity.toNat + wordsBehind rest

/-- Give words to arguments, in order. -/
def assign : List ArgumentInfo → List String → Except UsageFault (List Given × List String)
  | [], words => .ok ([], words)
  | a :: rest, words =>
    let n := if a.arity < 0 then words.length - wordsBehind rest else a.arity.toNat
    let own := words.take n
    if own.isEmpty then
      if a.isRequired then .error (.missing a.label)
      else assign rest words
    else if 1 < a.arity && own.length < n then .error (.fewWords a.name a.arity)
    else do
      let (gs, left) ← assign rest (words.drop n)
      return (⟨a.name, own⟩ :: gs, left)

end Reading

/-- What a command line asks of a command. -/
inductive Asked
  /-- To show its help. -/
  | help
  /-- To run with these parameters; a group has words left for its subcommand. -/
  | run (given : List Given) (left : List String)
deriving DecidableEq, Repr

/-- What the words of a command line ask of a command. -/
def Command.read (c : Command) (words : List String) : Except UsageFault Asked := do
  let (options, left) ← Reading.readWords c words.length words
  if options.any (·.name == "help") then return .help
  let (arguments, left) ← Reading.assign c.arguments left
  if c.choice?.isNone && !left.isEmpty then .error (.unexpected left)
  return .run (options ++ arguments) left

/-- The subcommand that a word names.  A word that looks like an option is read once more, so that its
own fault counts. -/
def Command.subcommand (c : Command) (words : List String) : Except UsageFault (Option (Command × List String)) :=
  match words with
  | [] => .error .noSubcommand
  | word :: rest =>
    match c.commands.find? (·.info.name? == some word) with
    | some s => .ok (some (s, rest))
    | none =>
      let fault : UsageFault :=
        .noCommand word (Text.closeWords word (c.commands.filterMap (·.info.name?)))
      if (splitSigns word.toList).1.isEmpty then .error fault
      else
        match c.read words with
        | .error e => .error e
        | .ok .help => .ok none
        | .ok (.run _ _) => .error fault

/-- The last word given for a parameter. -/
def lastWord? (given : List Given) (name : String) : Option String :=
  ((given.filter (·.name == name)).getLast?).bind (·.words.getLast?)

/-- All words given for a parameter. -/
def allWords (given : List Given) (name : String) : List String :=
  (given.filter (·.name == name)).flatMap (·.words)

/-- Is the parameter given? -/
def isGiven (given : List Given) (name : String) : Bool :=
  given.any (·.name == name)

end CommandWrap.Group
