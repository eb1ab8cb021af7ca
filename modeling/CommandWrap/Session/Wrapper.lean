import CommandWrap.Invocation.Render
import CommandWrap.Plan
import CommandWrap.Session.Attribute

/-!
# Wrappers

A plan is turned into wrappers that can be called: a type of option records, when the command has
flags, and a builder of invocations.  The wrappers of a graph are kept by their names, in the order of
its plans and the record type of a command before its builder; a wrapper takes the place of an earlier
one of its name.
-/
namespace CommandWrap

/-- A declared attribute of a record. -/
structure RecordField where
  /-- The attribute. -/
  attr : String
  /-- The flag that the attribute's value is rendered for, if any. -/
  flag? : Option FlagUse
  /-- The text of the attribute's type. -/
  annotation : String
deriving DecidableEq, Repr, Inhabited

/-- A type of records. -/
structure RecordType where
  /-- The name of the type. -/
  name : String
  /-- The declared attributes in order. -/
  fields : List RecordField
  /-- Are attributes fixed once a record is made? -/
  frozen : Bool
  /-- The description of the type. -/
  doc : String
deriving DecidableEq, Repr, Inhabited

/-- A function that builds the invocations of one command. -/
structure Builder where
  /-- The name of the function. -/
  name : String
  /-- The program. -/
  program : String
  /-- The words of the subcommand. -/
  route : List String
  /-- Does the function take an option record? -/
  takesRecord : Bool
  /-- The description of the function. -/
  doc : String
deriving DecidableEq, Repr, Inhabited

/-- Something that wraps a command. -/
inductive Wrapper
  /-- A type of option records. -/
  | record (type : RecordType)
  /-- A builder. -/
  | builder (b : Builder)
deriving DecidableEq, Repr

namespace Wrapper

/-- The name of a wrapper. -/
def name : Wrapper → String
  | .record t => t.name
  | .builder b => b.name

/-- The description of a wrapper. -/
def doc : Wrapper → String
  | .record t => t.doc
  | .builder b => b.doc

end Wrapper

/-- The attribute of a planned field.  The flag is lost when the type answers for the attribute. -/
def Field.declaration (f : Field) : RecordField :=
  { attr := f.attr
    flag? := if Attribute.answered.contains f.attr then none else some ⟨f.flag.name, f.shape.word⟩
    annotation := f.annotation }

namespace CommandPlan

/-- The type of the option records of a command, under the name that it has. -/
def recordType (p : CommandPlan) (name : String) : RecordType :=
  { name, fields := p.fields.map Field.declaration, frozen := false
    doc := "Options of " ++ Text.quoted p.title ++ "." }

/-- The builder of a command. -/
def builder (p : CommandPlan) : Builder :=
  { name := p.builderName, program := p.program, route := p.route
    takesRecord := p.optionName?.isSome
    doc := "Build the " ++ Text.quoted p.title ++ " invocation." }

/-- The wrappers of a command. -/
def wrappers (p : CommandPlan) : List Wrapper :=
  match p.optionName? with
  | some name => [.record (p.recordType name), .builder p.builder]
  | none => [.builder p.builder]

/-- Why the option records of the command cannot be declared, if they cannot. -/
def declarationFault? (p : CommandPlan) : Option DeclarationFault :=
  Attribute.fault? (p.fields.map Field.attr)

end CommandPlan

/-- Why a graph has no wrappers that can be called. -/
inductive WrapperError
  /-- The graph has no plan. -/
  | plan (e : PlanError)
  /-- Some type of records cannot be declared. -/
  | badAttribute (fault : DeclarationFault)
deriving DecidableEq, Repr

/-- The text of the error. -/
def WrapperError.message : WrapperError → String
  | .plan e => e.message
  | .badAttribute fault => fault.message

/-- The wrappers with one more, which takes the place of an earlier one of its name. -/
def putWrapper (w : Wrapper) : List Wrapper → List Wrapper
  | [] => [w]
  | v :: rest => if v.name == w.name then w :: rest else v :: putWrapper w rest

/-- The wrappers of plans. -/
def wrappersOfPlans (plans : List CommandPlan) : Except WrapperError (List Wrapper) :=
  match plans.findSome? CommandPlan.declarationFault? with
  | some fault => .error (.badAttribute fault)
  | none => .ok ((plans.flatMap CommandPlan.wrappers).foldl (fun ws w => putWrapper w ws) [])

/-- The wrappers of a graph. -/
def CommandGraph.wrappers (g : CommandGraph) (exclude : List String) :
    Except WrapperError (List Wrapper) :=
  match g.plan exclude with
  | .error e => .error (.plan e)
  | .ok plans => wrappersOfPlans plans

end CommandWrap
