import CommandWrap.Parser.Usage

/-!
# Parsers

A parser has a program name, arguments in order of declaration, groups of arguments that exclude each
other, and perhaps subcommands, each with a parser of its own.  A draft says what is declared, in order;
`Parser.ofDraft` declares it.
-/
namespace CommandWrap

namespace Parser

/-- What is declared about arguments. -/
inductive ItemDraft
  /-- An argument. -/
  | argument (draft : ArgumentDraft)
  /-- Arguments under one heading. -/
  | section_ (items : List ItemDraft)
  /-- Arguments that exclude each other. -/
  | exclusive (required : Bool) (items : List ItemDraft)
deriving Inhabited

/-- What is declared about a parser itself. -/
structure InfoDraft where
  /-- The name of the program, if one is given. -/
  prog? : Option String := none
  /-- The description. -/
  description? : Option String := none
  /-- A usage template that replaces the usage line. -/
  usage? : Option String := none
  /-- Does the parser have an option that shows its help? -/
  hasHelp : Bool := true
  /-- The characters with which options begin. -/
  signs : String := "-"
deriving Inhabited

/-- What is declared about the choice of a subcommand. -/
structure ChoiceDraft where
  /-- Where the name of the chosen subcommand is kept. -/
  dest? : Option String := none
  /-- What stands for the subcommand in a usage line. -/
  metavar? : Option String := none
  /-- What the names of the programs of subcommands begin with. -/
  prog? : Option String := none

/-- The names of a subcommand. -/
structure SubcommandName where
  /-- The name. -/
  name : String
  /-- The other names. -/
  aliases : List String := []
  /-- The help text, if one is given. -/
  help? : Option String := none
deriving Repr

/-- The declaration of a parser. -/
inductive Draft
  /-- A parser with its arguments and perhaps subcommands, which stand in front of the arguments `later`. -/
  | node (info : InfoDraft) (items : List ItemDraft) (choice? : Option ChoiceDraft)
    (subcommands : List (SubcommandName × Draft)) (later : List ItemDraft := [])
deriving Inhabited

/-- What is known about a parser itself. -/
structure Info where
  /-- The name of the program. -/
  prog : String
  /-- The description. -/
  description? : Option String
  /-- A usage template that replaces the usage line. -/
  usage? : Option String
  /-- The characters with which options begin. -/
  signs : String
  /-- The arguments in order of declaration. -/
  arguments : List Argument
  /-- The groups of arguments that exclude each other. -/
  groups : List Exclusive
deriving Repr

end Parser

/-- A parser. -/
inductive Parser
  /-- A parser with its subcommands. -/
  | node (info : Parser.Info) (subcommands : List (Parser.SubcommandName × Parser))

namespace Parser

/-- The arguments that are declared so far. -/
structure Declared where
  /-- The arguments. -/
  arguments : List Argument := []
  /-- The groups of arguments that exclude each other. -/
  groups : List Exclusive := []

/-- The names that are taken already. -/
def Declared.taken (d : Declared) (names : List String) : List String :=
  names.filter fun name => d.arguments.any (·.names.contains name)

/-- Add an argument to the groups with the given numbers. -/
def Declared.add (d : Declared) (within : List Nat) (a : Argument) : Except ParserError Declared := do
  if a.required && !within.isEmpty then .error .requiredExclusive
  let taken := d.taken a.names
  if !taken.isEmpty then .error (.conflict a.names taken)
  let number := d.arguments.length
  return {
    arguments := d.arguments ++ [a]
    groups := d.groups.zipIdx.map fun (g, k) =>
      if within.contains k then { g with members := g.members ++ [number] } else g }

/-- Where an argument is declared. -/
structure Scope where
  /-- Is it declared right at the parser? -/
  isTop : Bool
  /-- The numbers of the groups around it whose arguments exclude each other. -/
  within : List Nat

mutual

/-- Declare an item. -/
def declare (signs : String) (scope : Scope) : ItemDraft → Declared → Except ParserError Declared
  | .argument draft, d => do
    let a ← draft.build signs
    if scope.isTop && a.arity = .invalid then .error .badArity
    d.add scope.within a
  | .section_ items, d => declareAll signs ⟨false, []⟩ items d
  | .exclusive required items, d =>
    declareAll signs ⟨false, d.groups.length :: scope.within⟩ items
      { d with groups := d.groups ++ [⟨[], required⟩] }

/-- Declare items in order. -/
def declareAll (signs : String) (scope : Scope) : List ItemDraft → Declared → Except ParserError Declared
  | [], d => .ok d
  | item :: rest, d => do
    let d ← declare signs scope item d
    declareAll signs scope rest d

end

/-- The option that shows the help. -/
def helpDraft (signs : String) : Except ParserError ArgumentDraft :=
  match signs.toList with
  | [] => .error .emptyName
  | first :: _ =>
    let sign := String.ofList [if signs.toList.contains '-' then '-' else first]
    .ok {
      names := [sign ++ "h", sign ++ sign ++ "help"]
      action? := some "help"
      settings := [("help", .text "show this help message and exit")] }

/-- The items in front of those that are declared: the option that shows the help, if there is one. -/
def InfoDraft.helpItems (info : InfoDraft) : Except ParserError (List ItemDraft) :=
  if info.hasHelp then (helpDraft info.signs).map ([ItemDraft.argument ·]) else .ok []

/-- The arguments with their numbers. -/
def Info.numbered (info : Info) : List Numbered :=
  info.arguments.zipIdx.map fun (a, n) => (n, a)

/-- The usage text behind the words `head`. -/
def Info.usage (info : Info) (head : String) (args : List Numbered) : Except ParserError String :=
  Usage.text head info.prog info.usage? args info.groups

/-- What the names of the programs of subcommands begin with: what is given for them, or else the usage text of
the positional arguments without options. -/
def Info.subcommandProg (info : Info) (given? : Option String) : Except ParserError String :=
  match given? with
  | some prog => .ok prog
  | none => (info.usage "" (info.numbered.filter (·.2.names.isEmpty))).map Text.strip

/-- The name of the argument that chooses a subcommand, as errors give it. -/
def choiceName? (choice : ChoiceDraft) (names : List String) : Option String :=
  let given (s? : Option String) := s?.filter (· != "==SUPPRESS==")
  match given choice.metavar?, given choice.dest? with
  | some m, _ => some m
  | none, some d => some d
  | none, none =>
    if names.isEmpty then none else some ("\x7b" ++ String.intercalate "," names ++ "\x7d")

/-- Take the names of a subcommand. -/
def takeNames (choice : ChoiceDraft) (taken : List String) (s : SubcommandName) :
    Except ParserError (List String) := do
  if taken.contains s.name then
    .error (.subcommandConflict (choiceName? choice taken) s.name false)
  match s.aliases.find? taken.contains with
  | some name => .error (.subcommandConflict (choiceName? choice taken) name true)
  | none => return taken ++ ((s.name :: s.aliases).eraseDups)

mutual

/-- Declare a parser; `prog` is the name of its program unless it is given. -/
def ofDraftNamed (prog : String) : Draft → Except ParserError Parser
  | .node info items choice? subcommands later => do
    let d ← declareAll info.signs ⟨true, []⟩ (← info.helpItems) {}
    let d ← declareAll info.signs ⟨true, []⟩ items d
    let known (d : Declared) : Info :=
      { prog := info.prog?.getD prog, description? := info.description?, usage? := info.usage?
        signs := info.signs, arguments := d.arguments, groups := d.groups }
    match choice? with
    | none => do
      let d ← declareAll info.signs ⟨true, []⟩ later d
      return .node (known d) []
    | some choice => do
      let start ← (known d).subcommandProg choice.prog?
      let (names, parsers) ← ofDrafts choice start [] subcommands
      let argument : Argument :=
        { names := [], dest := choice.dest?.getD "==SUPPRESS==", action := .subcommands
          arity := .command, choices? := some names, metavar? := choice.metavar? }
      let d ← declareAll info.signs ⟨true, []⟩ later { d with arguments := d.arguments ++ [argument] }
      return .node (known d) parsers

/-- Declare the parsers of subcommands in order: all their names, and the parsers. -/
def ofDrafts (choice : ChoiceDraft) (start : String) (taken : List String) :
    List (SubcommandName × Draft) →
    Except ParserError (List String × List (SubcommandName × Parser))
  | [] => .ok (taken, [])
  | (s, draft) :: rest => do
    let taken ← takeNames choice taken s
    let parser ← ofDraftNamed (start ++ " " ++ s.name) draft
    let (names, parsers) ← ofDrafts choice start taken rest
    return (names, (s, parser) :: parsers)

end

/-- Declare a parser. -/
def ofDraft (draft : Draft) : Except ParserError Parser :=
  ofDraftNamed "" draft

/-- What is known about the parser itself. -/
def info : Parser → Info
  | .node info _ => info

end Parser

end CommandWrap
