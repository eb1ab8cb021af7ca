import CommandWrap.Group.ParameterType
import CommandWrap.Text.Blank
import CommandWrap.Text.Dedent
import CommandWrap.Unicode.Identifier
import CommandWrap.Unicode.Upper
import CommandWrap.Unicode.Word

/-!
# Parameters

A command takes options, which have names, and arguments, which have places.  A draft says what is
declared; `OptionDraft.build` and `ArgumentDraft.build` fill in what follows from it and refuse
declarations that contradict themselves.
-/
namespace CommandWrap.Group

/-- Is something still to be used? -/
inductive Deprecation
  /-- Yes. -/
  | none
  /-- No. -/
  | plain
  /-- No, with a remark. -/
  | remark (message : String)
deriving DecidableEq, Repr, Inhabited

namespace Deprecation

/-- The words behind a help text. -/
def label? : Deprecation → Option String
  | .none => Option.none
  | .plain => some "(DEPRECATED)"
  | .remark message => some ("(DEPRECATED: " ++ message ++ ")")

/-- Is it not to be used any more? -/
def isSet (d : Deprecation) : Bool :=
  d != .none

end Deprecation

/-- What is wrong with a declaration. -/
inductive GroupError
  /-- No declared option gives a name. -/
  | noName (declarations : List String)
  /-- Two names are declared. -/
  | twoNames (name : String)
  /-- There is a name but no option. -/
  | onlyName (name : String)
  /-- The same option stands for truth and falsehood. -/
  | sameOption (declaration : String)
  /-- An option takes any number of words. -/
  | unboundedOption
  /-- An option for falsehood belongs to something that is not a truth value. -/
  | notTruth
  /-- An option that is counted takes many values. -/
  | countedMany
  /-- An option that is counted is a flag. -/
  | countedFlag
  /-- The default of many values is no list. -/
  | defaultNoList
  /-- The default of many values with several words is no list of lists. -/
  | defaultNoLists
  /-- The default of a value with several words is no list. -/
  | defaultNoWords
  /-- A default has another number of words. -/
  | defaultLength (many : Bool) (arity : Int)
  /-- The input of a truth value is asked for and hidden. -/
  | hiddenTruth
  /-- A parameter has no such setting. -/
  | unknownSetting (owner name : String)
  /-- An argument takes many values. -/
  | manyArgument
  /-- What is required cannot be deprecated. -/
  | requiredDeprecated (kind name : String)
  /-- What is asked for cannot be deprecated. -/
  | promptedDeprecated
  /-- A type fixes another number of words. -/
  | wrongArity (expected : Nat) (type : String) (given : Int)
  /-- A chained group has an argument that may be missing. -/
  | optionalInChain
  /-- Names and a missing name cannot be put in order. -/
  | unsortable (firstKind secondKind : String)
deriving Repr

/-- The wording of an error. -/
def GroupError.message : GroupError → String
  | .noName declarations =>
    "Could not determine name for option with declarations " ++ Text.quotedList declarations
  | .twoNames name => "Name '" ++ name ++ "' defined twice"
  | .onlyName name =>
    "No options defined but a name was passed (" ++ name ++
      "). Did you mean to declare an argument instead? Did you mean to pass '--" ++ name ++ "'?"
  | .sameOption declaration =>
    "Boolean option " ++ Text.quoted declaration ++ " cannot use the same flag for true/false."
  | .unboundedOption => "nargs=-1 is not supported for options."
  | .notTruth => "Secondary flag is not valid for non-boolean flag."
  | .countedMany => "'count' is not valid with 'multiple'."
  | .countedFlag => "'count' is not valid with 'is_flag'."
  | .defaultNoList => "'default' must be a list when 'multiple' is true."
  | .defaultNoLists => "'default' must be a list of lists when 'multiple' is true and 'nargs' != 1."
  | .defaultNoWords => "'default' must be a list when 'nargs' != 1."
  | .defaultLength many arity =>
    "'default' " ++ (if many then "item length" else "length") ++ " must match nargs=" ++
      toString arity ++ "."
  | .hiddenTruth => "'prompt' with 'hide_input' is not valid for boolean flag."
  | .unknownSetting owner name =>
    owner ++ ".__init__() got an unexpected keyword argument '" ++ name ++ "'"
  | .manyArgument => "__init__() got an unexpected keyword argument 'multiple'."
  | .requiredDeprecated kind name =>
    "The " ++ kind ++ " '" ++ name ++ "' is deprecated and still required. A deprecated " ++ kind ++
      " cannot be required."
  | .promptedDeprecated => "`deprecated` options cannot use `prompt`."
  | .wrongArity expected type given =>
    "'nargs' must be " ++ toString expected ++ " (or None) for type " ++ type ++ ", but it was " ++
      toString given ++ "."
  | .optionalInChain => "A group in chain mode cannot have optional arguments."
  | .unsortable firstKind secondKind =>
    "'<' not supported between instances of '" ++ firstKind ++ "' and '" ++ secondKind ++ "'"

/-- An option: a parameter that is given by a name. -/
structure OptionInfo where
  /-- The name of its value. -/
  name : String
  /-- The names by which it is given. -/
  names : List String
  /-- The names by which its contrary is given. -/
  opposites : List String := []
  /-- The type of its value. -/
  type : ParameterType := .text
  /-- How many words belong to it. -/
  arity : Int := 1
  /-- May it be given many times, each time with a value? -/
  isMany : Bool := false
  /-- Is it counted how often it is given? -/
  isCounted : Bool := false
  /-- Does it stand alone, without words? -/
  isFlag : Bool := false
  /-- The help text. -/
  help? : Option String := none
  /-- What stands for its value in a help text, if it is given. -/
  label? : Option String := none
  /-- Is it left out of a help text? -/
  isHidden : Bool := false
deriving Repr

/-- An argument: a parameter that is given by its place. -/
structure ArgumentInfo where
  /-- The name of its value. -/
  name : String
  /-- The type of its value. -/
  type : ParameterType := .text
  /-- How many words belong to it; any number is -1. -/
  arity : Int := 1
  /-- Must it be given? -/
  isRequired : Bool := true
  /-- What stands for its value in a usage line, if it is given. -/
  label? : Option String := none
  /-- Is it still to be used? -/
  deprecation : Deprecation := .none
deriving Repr

/-- A parameter of a command. -/
inductive Parameter
  /-- An option. -/
  | option (info : OptionInfo)
  /-- An argument. -/
  | argument (info : ArgumentInfo)
deriving Repr

/-! ## Names -/

/-- A name of an option, divided into the signs before it and the rest. -/
def splitSigns : List Char → List Char × List Char
  | [] => ([], [])
  | c :: rest =>
    if Unicode.isWord c && c != '_' then ([], c :: rest)
    else match rest with
      | d :: more => if d = c then ([c, d], more) else ([c], rest)
      | [] => ([c], [])

/-- What a declaration of an option gives. -/
inductive Declared
  /-- The name of its value. -/
  | name (s : String)
  /-- A name by which it is given. -/
  | single (s : String)
  /-- Names for itself and for its contrary; either may be missing. -/
  | pair (first second : String)
deriving DecidableEq, Repr

/-- Read a declaration: an identifier is the name of the value, a slash divides an option from its
contrary.  Options that begin with a slash are divided by a semicolon. -/
def Declared.ofText (s : String) : Declared :=
  let cs := s.toList
  let mark := if cs.head? = some '/' then ';' else '/'
  if Unicode.isIdentifier cs then .name s
  else if cs.contains mark then
    .pair (String.ofList (Text.stripRight (cs.takeWhile (· != mark))))
      (String.ofList (Text.stripLeft ((cs.dropWhile (· != mark)).drop 1)))
  else .single s

/-- The names of an option. -/
structure Names where
  /-- The declared name of the value. -/
  name? : Option String := none
  /-- The names by which it is given. -/
  names : List String := []
  /-- The names by which its contrary is given. -/
  opposites : List String := []

/-- Add a declaration to the names of an option. -/
def Names.add (n : Names) (declaration : String) : Except GroupError Names :=
  match Declared.ofText declaration with
  | .name s =>
    match n.name? with
    | some old => .error (.twoNames old)
    | none => .ok { n with name? := some s }
  | .single s => .ok { n with names := n.names ++ [s] }
  | .pair first second =>
    if first = second then .error (.sameOption declaration)
    else
      let given (s : String) := if s = "" then [] else [s]
      .ok { n with names := n.names ++ given first, opposites := n.opposites ++ given second }

/-- The name of a value that a name of an option stands for, in lower case as far as it is ASCII. -/
def valueName? (option : String) : Option String :=
  let cs := (splitSigns option.toList).2.map fun c => if c = '-' then '_' else c.toLower
  if Unicode.isIdentifier cs then some (String.ofList cs) else none

/-- The name of an option with the most signs; the first of several. -/
def longest? (names : List String) : Option String :=
  let signs (s : String) := (splitSigns s.toList).1.length
  let most := (names.map signs).max?.getD 0
  names.find? (signs · = most)

/-- The names that declarations give to an option, and the name of its value, which is empty if there is
none and none is needed. -/
def Names.ofDeclarations (declarations : List String) (needsName : Bool) :
    Except GroupError (String × Names) := do
  let n ← declarations.foldlM Names.add {}
  match n.name? <|> (longest? n.names).bind valueName? with
  | none => if needsName then .error (.noName declarations) else return ("", n)
  | some name =>
    if n.names.isEmpty && n.opposites.isEmpty then .error (.onlyName name) else return (name, n)

/-! ## Defaults -/

/-- The items of a list or the keys of a map. -/
def itemsOf? : Value → Option (List Value)
  | .list items => some items
  | .tuple items => some items
  | .map entries => some (entries.map Prod.fst)
  | _ => none

/-- Check the words of one default value. -/
def checkWords (many : Bool) (arity : Int) (v : Value) : Except GroupError Unit :=
  if arity = 1 then .ok ()
  else match itemsOf? v with
    | none => .error (if many then .defaultNoLists else .defaultNoWords)
    | some items => if 1 < arity ∧ items.length ≠ arity then .error (.defaultLength many arity) else .ok ()

/-- Check a default against the number of values and words; of many values, the first is looked at. -/
def checkDefault (many : Bool) (arity : Int) : Option Value → Except GroupError Unit
  | none => .ok ()
  | some .none => .ok ()
  | some v =>
    if many then
      match itemsOf? v with
      | none => .error .defaultNoList
      | some [] => .ok ()
      | some (.none :: _) => .ok ()
      | some (first :: _) => checkWords true arity first
    else checkWords false arity v

/-- The number of words, which must agree with the type. -/
def arityOf (type : ParameterType) (given? : Option Int) : Except GroupError Int :=
  match type.arity?, given? with
  | some n, none => .ok n
  | some n, some given => if given = n then .ok given else .error (.wrongArity n type.title given)
  | none, given? => .ok (given?.getD 1)

/-! ## Settings -/

/-- The settings that every parameter has. -/
def commonSettings : List String :=
  ["callback", "default", "deprecated", "envvar", "expose_value", "is_eager", "metavar", "multiple",
    "nargs", "required", "shell_complete", "type"]

/-- The settings of an option. -/
def optionSettings : List String :=
  commonSettings ++ ["allow_from_autoenv", "confirmation_prompt", "count", "flag_value", "help", "hidden",
    "hide_input", "is_flag", "prompt", "prompt_required", "show_choices", "show_default", "show_envvar"]

/-- Refuse settings that are not among the known ones. -/
def checkSettings (owner : String) (known given : List String) : Except GroupError Unit :=
  match given.find? (!known.contains ·) with
  | some name => .error (.unknownSetting owner name)
  | none => .ok ()

/-! ## Options -/

/-- What is declared about an option. -/
structure OptionDraft where
  /-- Its names. -/
  declarations : List String
  /-- The names of the settings that are given. -/
  settings : List String := []
  /-- The type of its value. -/
  type? : Option ParameterType := none
  /-- Its default. -/
  default? : Option Value := none
  /-- How many words belong to it. -/
  arity? : Option Int := none
  /-- Must it be given? -/
  isRequired : Bool := false
  /-- May it be given many times? -/
  isMany : Bool := false
  /-- Is it counted? -/
  isCounted : Bool := false
  /-- Does it stand alone? -/
  isFlag? : Option Bool := none
  /-- The value that it stands for when it stands alone. -/
  flagValue? : Option Value := none
  /-- Is its value asked for? -/
  isPrompted : Bool := false
  /-- Is its value asked for even if the option is not given? -/
  isAlwaysPrompted : Bool := true
  /-- Is the answer hidden when its value is asked for? -/
  isInputHidden : Bool := false
  /-- Does its value need a name? -/
  needsName : Bool := true
  /-- The help text. -/
  help? : Option String := none
  /-- What stands for its value in a help text. -/
  label? : Option String := none
  /-- Is it left out of a help text? -/
  isHidden : Bool := false
  /-- Is it still to be used? -/
  deprecation : Deprecation := .none

/-- The help text with the remark that something is not to be used. -/
def helpWith (help? : Option String) (d : Deprecation) : Option String :=
  match d.label?, help? with
  | some label, some help => some (if help = "" then label else help ++ " " ++ label)
  | some label, none => some label
  | none, help? => help?

/-- The type of the value of an option that stands alone. -/
def flagType : Option Value → ParameterType
  | none => .truth
  | some v => ParameterType.guessed v

/-- Does an option stand alone?  Where nothing is said, it does if a value for that is given, or a
contrary and no question that is asked only when the option is given. -/
def OptionDraft.standsAlone (d : OptionDraft) (n : Names) : Bool :=
  d.isFlag?.getD (d.flagValue?.isSome ||
    (!(d.isPrompted && !d.isAlwaysPrompted) && !n.opposites.isEmpty))

/-- The option that a draft declares. -/
def OptionDraft.build (d : OptionDraft) : Except GroupError OptionInfo := do
  checkSettings "Parameter" optionSettings d.settings
  let (name, n) ← Names.ofDeclarations d.declarations d.needsName
  let type := d.type?.getD ((d.default?.map ParameterType.guessed).getD .text)
  let arity ← arityOf type d.arity?
  checkDefault d.isMany arity d.default?
  if d.isRequired && d.deprecation.isSet then .error (.requiredDeprecated "option" name)
  let isFlag := d.standsAlone n
  let type := if d.type?.isNone && isFlag then flagType d.flagValue? else type
  let isTruth := isFlag && type.isTruth
  if d.deprecation.isSet && d.isPrompted then .error .promptedDeprecated
  if arity = -1 then .error .unboundedOption
  if !n.opposites.isEmpty && !isTruth then .error .notTruth
  if isTruth && d.isInputHidden && d.isPrompted then .error .hiddenTruth
  if d.isCounted && d.isMany then .error .countedMany
  if d.isCounted && isFlag then .error .countedFlag
  return {
    name, names := n.names, opposites := n.opposites, arity, isMany := d.isMany
    type := if d.type?.isNone && d.isCounted then .integerRange else type
    isCounted := d.isCounted, isFlag, help? := helpWith (d.help?.map Text.dedent) d.deprecation
    label? := d.label?, isHidden := d.isHidden }

/-! ## Arguments -/

/-- What is declared about an argument. -/
structure ArgumentDraft where
  /-- Its name. -/
  declaration : String
  /-- The names of the settings that are given. -/
  settings : List String := []
  /-- The type of its value. -/
  type? : Option ParameterType := none
  /-- Its default. -/
  default? : Option Value := none
  /-- How many words belong to it. -/
  arity? : Option Int := none
  /-- Must it be given? -/
  isRequired? : Option Bool := none
  /-- What stands for its value in a usage line. -/
  label? : Option String := none
  /-- Is it still to be used? -/
  deprecation : Deprecation := .none

/-- The upper case of the lower case of a character.  It differs from the upper case for a few
letters with two capital forms. -/
def capital (c : Char) : List Char :=
  match c with
  | '\u0130' => ['I', '\u0307']
  | '\u03f4' => ['\u0398']
  | '\u1e9e' => ['S', 'S']
  | '\u2126' => ['\u03a9']
  | '\u212a' => ['K']
  | '\u212b' => ['\u00c5']
  | c => Unicode.upper c

/-- What stands for an argument with this name in a usage line. -/
def nameLabel (name : String) : String :=
  String.ofList (name.toList.flatMap fun c => if c = '-' then ['_'] else capital c)

/-- The argument that a draft declares.  It must be given unless it has a default or takes any number
of words. -/
def ArgumentDraft.build (d : ArgumentDraft) : Except GroupError ArgumentInfo := do
  let isRequired := d.isRequired?.getD (d.default?.isNone && 0 < d.arity?.getD 1)
  if d.settings.contains "multiple" then .error .manyArgument
  checkSettings "Parameter" commonSettings d.settings
  let type := d.type?.getD ((d.default?.map ParameterType.guessed).getD .text)
  let arity ← arityOf type d.arity?
  checkDefault false arity d.default?
  if isRequired && d.deprecation.isSet then
    .error (.requiredDeprecated "argument" (d.label?.getD (nameLabel d.declaration)))
  return {
    name := d.declaration, type, arity, isRequired, label? := d.label?, deprecation := d.deprecation }

/-- What stands for an argument in a usage line: brackets say that it may be missing, points that
it takes several words. -/
def ArgumentInfo.label (a : ArgumentInfo) : String :=
  match a.label? with
  | some label => label
  | none =>
    let base := match a.type.label? a.isRequired with
      | some "" => nameLabel a.name
      | some label => label
      | none => nameLabel a.name
    let marked := if a.deprecation.isSet then base ++ "!" else base
    let bracketed := if a.isRequired then marked else "[" ++ marked ++ "]"
    if a.arity = 1 then bracketed else bracketed ++ "..."

/-- The first name of an option with two hyphens, without them. -/
def OptionInfo.longName? (o : OptionInfo) : Option String :=
  (o.names.find? (·.startsWith "--")).map fun name => (name.drop 2).toString

end CommandWrap.Group
