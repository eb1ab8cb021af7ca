import CommandWrap.Plan
import CommandWrap.Text.AsciiLiteral
import CommandWrap.Text.Lines
import CommandWrap.Text.TripleQuoted

/-!
# The text of a wrapper module

Plans are written as a module of the target language: a docstring, the imports that the module needs,
a block for every command, and the list of exported names.  Names that come from flags and paths are
written as string literals; usage, descriptions and help are written as comments, line by line.
-/
namespace CommandWrap

namespace ModuleText

/-- The module that wrappers import their helpers from unless told otherwise. -/
def defaultRuntime : String := "docker_wrapper.runtime"

/-- The rule above and below the description of a command. -/
def rule : String := "------------------------------"

/-- The longest signature that stays on one line. -/
def maxLine : Nat := 88

/-- The comment lines of a text, without blanks at their ends. -/
def comment (indent text : String) : List String :=
  (Text.lines text.toList).map fun line =>
    String.ofList (Text.stripRight (indent.toList ++ '#' :: ' ' :: line))

/-- The comments that introduce a command. -/
def header (p : CommandPlan) : List String :=
  ["# " ++ p.builderName ++ " is wrapper of '" ++ p.title ++ "'", "# " ++ rule] ++
    comment "" p.info.usage ++ comment "" p.info.short ++ ["# " ++ rule]

/-- The declaration of a field below its help. -/
def fieldLines (f : Field) : List String :=
  "" :: comment "    " f.flag.help ++
    ["    " ++ f.attr ++ ": " ++ f.annotation ++ " = " ++ f.helper ++ "(" ++
      Text.asciiLiteral f.flag.name ++ ")"]

/-- The option record of a command. -/
def recordLines (name : String) (p : CommandPlan) : List String :=
  ["@dataclass(kw_only=True)", "class " ++ name ++ ":",
    "    " ++ Text.tripleQuoted ("Options of " ++ Text.quoted p.title ++ ".")] ++
    p.fields.flatMap fieldLines

/-- The parameters of a builder. -/
def parameters (p : CommandPlan) : String :=
  let args := "args: Sequence[str] = ()"
  match p.optionName? with
  | some name => "opt: " ++ name ++ " | None = None, " ++ args
  | none => args

/-- The head of a builder, on one line if it fits. -/
def signature (p : CommandPlan) : List String :=
  let line := "def " ++ p.builderName ++ "(" ++ parameters p ++ ") -> Command:"
  if line.length > maxLine then
    ["def " ++ p.builderName ++ "(", "    " ++ parameters p, ") -> Command:"]
  else [line]

/-- The words between program and options; a comma follows a single one. -/
def routeText (route : List String) : String :=
  let words := String.intercalate ", " (route.map Text.asciiLiteral)
  if route.length == 1 then words ++ "," else words

/-- The builder of a command. -/
def builderLines (p : CommandPlan) : List String :=
  let opt := if p.optionName?.isSome then "opt" else "None"
  signature p ++
    ["    " ++ Text.tripleQuoted ("Build the " ++ Text.quoted p.title ++ " invocation."),
      "    return build_command(" ++ Text.asciiLiteral p.program ++ ", (" ++ routeText p.route ++
        "), " ++ opt ++ ", args)"]

/-- Everything about one command, below two empty lines. -/
def commandLines (p : CommandPlan) : List String :=
  let record := match p.optionName? with
    | some name => recordLines name p ++ ["", ""]
    | none => []
  ["", ""] ++ header p ++ record ++ builderLines p

/-- The helpers that some field calls, in alphabetical order. -/
def usedHelpers (plans : List CommandPlan) : List String :=
  Name.helpers.filter fun h => plans.any fun p => p.fields.any (·.helper == h)

/-- The imports of the module. -/
def importLines (runtime : String) (plans : List CommandPlan) : List String :=
  let helpers := usedHelpers plans
  ["from __future__ import annotations", "", "from collections.abc import Sequence"] ++
    (if helpers.isEmpty then [] else ["from dataclasses import dataclass"]) ++
    ["", "from " ++ runtime ++ " import " ++
      String.intercalate ", " ("Command" :: "build_command" :: helpers)]

/-- The list of the names that the module exports. -/
def exportLines (plans : List CommandPlan) : List String :=
  ["", "", "__all__ = ["] ++
    (plans.flatMap CommandPlan.names).map (fun name => "    " ++ Text.asciiLiteral name ++ ",") ++
    ["]"]

/-- The docstring of the module when none is given. -/
def defaultDoc (program : String) : String :=
  "Wrappers of the '" ++ program ++ "' command line (auto-generated)."

/-- The docstring of the module: the text given, unless there is none or it is empty. -/
def docText (doc : Option String) (program : String) : String :=
  match doc with
  | some text => if text.isEmpty then defaultDoc program else text
  | none => defaultDoc program

/-- All lines of the module. -/
def moduleLines (runtime : String) (doc : Option String) (first : CommandPlan)
    (rest : List CommandPlan) : List String :=
  let plans := first :: rest
  [Text.tripleQuoted (docText doc first.program), ""] ++ importLines runtime plans ++
    plans.flatMap commandLines ++ exportLines plans

/-- The lines, each ended by a line feed. -/
def joinLines (ls : List String) : String :=
  String.intercalate "\n" ls ++ "\n"

/-- The module of plans; there is none without plans. -/
def render (runtime : String) (doc : Option String) :
    List CommandPlan → Except PlanError String
  | [] => .error .nothingLeft
  | first :: rest => .ok (joinLines (moduleLines runtime doc first rest))

end ModuleText

/-- What a generated module depends on apart from the graph. -/
structure ModuleOptions where
  /-- The module that wrappers import their helpers from. -/
  runtime : String := ModuleText.defaultRuntime
  /-- The docstring of the module. -/
  doc : Option String := none
  /-- The paths of the subtrees to leave out. -/
  exclude : List String := []
deriving Repr, Inhabited

namespace CommandGraph

/-- The wrapper module of a graph. -/
def generate (g : CommandGraph) (options : ModuleOptions) : Except PlanError String := do
  let plans ← g.plan options.exclude
  ModuleText.render options.runtime options.doc plans

/-- The messages that generating the module logs. -/
def generateNotes (g : CommandGraph) (options : ModuleOptions) : List Log.Note :=
  g.planNotes options.exclude ++
    match g.plan options.exclude with
    | .ok (first :: rest) =>
      let plans := first :: rest
      [⟨.info, "docker_wrapper.codegen.emitter",
        "Generated " ++ toString plans.length ++ " wrappers (" ++
          toString (plans.filter (·.optionName?.isSome)).length ++ " option records) for " ++
          Text.quoted g.name⟩]
    | _ => []

end CommandGraph

end CommandWrap
