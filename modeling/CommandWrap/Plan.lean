import CommandWrap.Command.Walk
import CommandWrap.Log
import CommandWrap.Plan.Field

/-!
# Wrapper plans

A plan says what the wrapper of one command is called and which fields its option record has.  The
plans of a whole graph follow the walk of the graph; planning stops at the first fault, where the
faults of a command are looked for in its flags in order, then in its base name, and then against the
base names of earlier commands.
-/
namespace CommandWrap

open Log (Note)

/-- Why a graph has no wrappers. -/
inductive PlanError
  /-- A command lies below itself. -/
  | insideItself (path : List String)
  /-- A command has two flags of one name. -/
  | duplicateFlag (path : List String) (flag : String)
  /-- A command has a flag without a name. -/
  | emptyFlagName (path : List String)
  /-- Two flags of a command take one attribute. -/
  | sameField (path : List String) (first second attr : String)
  /-- The path of a command makes no identifier. -/
  | noIdentifier (path : List String)
  /-- An earlier command took the base name. -/
  | nameTaken (path : List String) (base owner : String)
  /-- Nothing is left to wrap. -/
  | nothingLeft
deriving DecidableEq, Repr

/-- The text of the error. -/
def PlanError.message : PlanError → String
  | .insideItself path => pathTitle path ++ ": command appears inside its own subtree"
  | .duplicateFlag path flag => pathTitle path ++ ": duplicate flag --" ++ flag
  | .emptyFlagName path => pathTitle path ++ ": empty flag name"
  | .sameField path first second attr =>
    pathTitle path ++ ": flags --" ++ first ++ " and --" ++ second ++ " both map to field " ++
      Text.quoted attr
  | .noIdentifier path =>
    pathTitle path ++ ": cannot derive an identifier (got " ++
      Text.quoted (String.ofList (Name.pathWord path)) ++ ")"
  | .nameTaken path base owner =>
    pathTitle path ++ ": identifier " ++ Text.quoted base ++ " already used by " ++
      Text.quoted owner
  | .nothingLeft => "nothing to generate: every command was excluded"

/-- What the wrapper of one command is made of. -/
structure CommandPlan where
  /-- The command. -/
  info : CommandInfo
  /-- The names that lead to the command, the program first. -/
  path : List String
  /-- The identifier that the option record and the builder share. -/
  base : String
  /-- The fields of the option record. -/
  fields : List Field
deriving DecidableEq, Repr, Inhabited

namespace CommandPlan

/-- The program that the wrapper calls. -/
def program (p : CommandPlan) : String :=
  p.path.headD ""

/-- The words that name the subcommand behind the program. -/
def route (p : CommandPlan) : List String :=
  p.path.tail

/-- The path as one text. -/
def title (p : CommandPlan) : String :=
  pathTitle p.path

/-- The name of the option record; a command without flags has none. -/
def optionName? (p : CommandPlan) : Option String :=
  if p.fields.isEmpty then none else some (p.base ++ Name.optionSuffix)

/-- The name of the builder. -/
def builderName (p : CommandPlan) : String :=
  p.base ++ Name.builderSuffix

/-- The names that the wrapper of the command defines, in order. -/
def names (p : CommandPlan) : List String :=
  p.optionName?.toList ++ [p.builderName]

end CommandPlan

/-- The fields of flags that come after the fields `earlier` of the same command. -/
def planFields (path : List String) (earlier : List Field) :
    List Flag → Except PlanError (List Field)
  | [] => .ok []
  | flag :: rest =>
    if earlier.any (·.flag.name == flag.name) then .error (.duplicateFlag path flag.name)
    else match Field.ofFlag? flag with
      | none => .error (.emptyFlagName path)
      | some field =>
        match earlier.find? (·.attr == field.attr) with
        | some other => .error (.sameField path other.flag.name flag.name field.attr)
        | none => do
          let fields ← planFields path (earlier ++ [field]) rest
          return field :: fields

/-- The plan of a command. -/
def planCommand (info : CommandInfo) (path : List String) : Except PlanError CommandPlan := do
  let fields ← planFields path [] info.flags
  match Name.base? path with
  | none => .error (.noIdentifier path)
  | some base => return { info, path, base, fields }

/-- The plan of a command that comes after the plans `earlier`. -/
def planNext (earlier : List CommandPlan) (info : CommandInfo) (path : List String) :
    Except PlanError CommandPlan := do
  let plan ← planCommand info path
  match earlier.find? (·.base == plan.base) with
  | some owner => .error (.nameTaken path plan.base owner.title)
  | none => return plan

namespace CommandGraph

variable (g : CommandGraph)

/-- The plans of the commands that a walk visits after those with the plans `earlier`. -/
def planEvents (earlier : List CommandPlan) :
    List (WalkEvent g.size) → Except PlanError (List CommandPlan)
  | [] => .ok []
  | .skip _ :: rest => planEvents earlier rest
  | .loop path :: _ => .error (.insideItself path)
  | .visit node path :: rest => do
    let plan ← planNext earlier (g.info node) path
    let plans ← planEvents (earlier ++ [plan]) rest
    return plan :: plans

/-- The plans of all commands of a graph, in the order of the walk. -/
def plan (exclude : List String) : Except PlanError (List CommandPlan) :=
  g.planEvents [] (g.walk exclude)

end CommandGraph

/-! ## Log messages of planning -/

namespace PlanNotes

/-- The logger of the walk and of planning. -/
def logger : String := "docker_wrapper.codegen.traversal"

/-- The message that a command is left out. -/
def skipped (path : List String) : Note :=
  ⟨.debug, logger, "Skipping excluded command " ++ Text.quoted (pathTitle path)⟩

/-- The message that a tag is not known. -/
def unknownTag (tag : String) : Note :=
  ⟨.debug, "docker_wrapper.codegen.types",
    "Unrecognised flag type " ++ Text.quoted tag ++ ", rendering as string"⟩

/-- The messages about the flags of a command, up to the first flag whose name came before or whose
field fails. -/
def ofFlags (path : List String) (earlier : List Field) : List Flag → List Note
  | [] => []
  | flag :: rest =>
    if earlier.any (·.flag.name == flag.name) then []
    else
      let note := if (FieldType.ofTag? flag.type).isNone then [unknownTag flag.type] else []
      match Field.ofFlag? flag with
      | none => note
      | some field =>
        if earlier.any (·.attr == field.attr) then note
        else note ++ ofFlags path (earlier ++ [field]) rest

/-- The messages of a walk, up to the first fault. -/
def ofEvents (g : CommandGraph) (earlier : List CommandPlan) :
    List (WalkEvent g.size) → List Note
  | [] => [⟨.debug, logger,
      "Planned " ++ toString earlier.length ++ " commands from " ++ Text.quoted g.name⟩]
  | .skip path :: rest => skipped path :: ofEvents g earlier rest
  | .loop _ :: _ => []
  | .visit node path :: rest =>
    ofFlags path [] (g.info node).flags ++
      match planNext earlier (g.info node) path with
      | .ok plan => ofEvents g (earlier ++ [plan]) rest
      | .error _ => []

end PlanNotes

/-- The messages that planning a graph logs. -/
def CommandGraph.planNotes (g : CommandGraph) (exclude : List String) : List Note :=
  PlanNotes.ofEvents g [] (g.walk exclude)

end CommandWrap
