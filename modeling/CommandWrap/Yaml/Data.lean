import CommandWrap.Document.DatumText
import CommandWrap.Yaml.NodeGraph
import CommandWrap.Yaml.Scalar

/-!
# From nodes to data

The type of a node shows in its tag, or in the text of a plain scalar.  Scalars are given their values
when the container around them is looked at, and containers are looked at level by level: of several
faults in a document the outermost one counts.  `Datum.ofYaml` reads a text.
-/
namespace CommandWrap.Yaml

/-- The beginning of the tags of the standard types. -/
def standardTag : String := "tag:yaml.org,2002:"

/-- The types that a node can have. -/
inductive NodeKind
  /-- A scalar. -/
  | scalar (kind : ScalarKind)
  /-- Bytes. -/
  | binary
  /-- A list. -/
  | list
  /-- A list of pairs. -/
  | pairs
  /-- A map. -/
  | map
  /-- A map of which only the keys count. -/
  | keySet
  /-- A type of which nothing is known. -/
  | unknown
deriving DecidableEq, Repr

/-- The type that a tag stands for. -/
def NodeKind.ofTag (tag : String) : NodeKind :=
  if !tag.startsWith standardTag then .unknown
  else
    match (tag.drop standardTag.length).toString with
    | "null" => .scalar .null
    | "bool" => .scalar .bool
    | "int" => .scalar .int
    | "float" => .scalar .float
    | "timestamp" => .scalar .timestamp
    | "merge" => .scalar .merge
    | "value" => .scalar .default
    | "str" => .scalar .text
    | "binary" => .binary
    | "seq" => .list
    | "omap" => .pairs
    | "pairs" => .pairs
    | "map" => .map
    | "set" => .keySet
    | _ => .unknown

/-- The type of a node. -/
def Node.kind (schema : Schema) (n : Node) : NodeKind :=
  match n.tag?, n.body with
  | some tag, _ => NodeKind.ofTag tag
  | none, .scalar text true => .scalar (schema.kindOf text)
  | none, .scalar _ false => .scalar .text
  | none, .sequence _ => .list
  | none, .mapping _ => .map

/-- What is known while nodes are given their data. -/
structure Builder where
  /-- The nodes; merged entries are put into their mappings. -/
  nodes : Array Node
  /-- The scalars among the nodes that have their value. -/
  scalars : Array (Option Datum)
  /-- Was the node reached? -/
  reached : Array Bool
  /-- The containers that wait to be looked at, the latest first. -/
  waiting : List Nat := []

namespace Builder

/-- A step of building. -/
abbrev M := StateT Builder (Except Fault)

/-- Stop with a fault. -/
def fail {α : Type} (fault : Fault) : M α := throw fault

/-- The text breaks a rule. -/
def malformed {α : Type} : M α := fail .malformed

/-- The node with a number. -/
def node (number : Nat) : M Node := do
  return (← get).nodes.getD number default

/-- The type of the node with a number. -/
def kind (schema : Schema) (number : Nat) : M NodeKind := do
  return (← node number).kind schema

/-- The entries of the node with a number, if it is a mapping. -/
def entries (number : Nat) : M (List (Nat × Nat)) := do
  match (← node number).body with
  | .mapping es => return es
  | _ => return []

/-- Change a node. -/
def change (number : Nat) (f : Node → Node) : M Unit :=
  modify fun s => { s with nodes := s.nodes.modify number f }

/-- The text of a node that should be a scalar.  A mapping stands for the value of its default key; as
many such mappings as there are nodes come back to one of them. -/
def textOf (schema : Schema) : Nat → Nat → M String
  | 0, _ => fail .endless
  | fuel + 1, number => do
    match (← node number).body with
    | .scalar text _ => return text
    | .sequence _ => malformed
    | .mapping es =>
      match ← es.findM? fun (k, _) => return (← kind schema k) == .scalar .default with
      | some (_, v) => textOf schema fuel v
      | none => malformed

/-- Is the node with a number a merge key or a default key? -/
def isMark (schema : Schema) (b : Builder) (number : Nat) : Bool :=
  let kind := (b.nodes.getD number default).kind schema
  kind == .scalar .merge || kind == .scalar .default

/-- Put the entries of merged mappings in front of the other entries of a mapping, from the entry at
`start` on.  `merged` holds the entries found so far.  A default key becomes an ordinary text. -/
def mergeFrom (schema : Schema) : Nat → Nat → Nat → List (Nat × Nat) → M Unit
  | 0, _, _, _ => malformed
  | fuel + 1, number, start, merged => do
    let es ← entries number
    let b ← get
    let index := start + (es.drop start).findIdx fun (k, _) => b.isMark schema k
    match es[index]? with
    | none =>
      if !merged.isEmpty then
        change number fun n => { n with body := .mapping (merged ++ es) }
    | some (k, v) =>
      match ← kind schema k with
      | .scalar .merge =>
        change number fun n => { n with body := .mapping (es.eraseIdx index) }
        match (← node v).body with
        | .scalar _ _ => malformed
        | .mapping _ =>
          mergeFrom schema fuel v 0 []
          mergeFrom schema fuel number index (merged ++ (← entries v))
        | .sequence items =>
          let parts ← items.mapM fun item => do
            match (← node item).body with
            | .mapping _ =>
              mergeFrom schema fuel item 0 []
              entries item
            | _ => malformed
          mergeFrom schema fuel number index (merged ++ parts.reverse.flatten)
      | _ =>
        change k fun n => { n with tag? := some (standardTag ++ "str") }
        mergeFrom schema fuel number (index + 1) merged

/-- The datum of a scalar of a known type. -/
def scalarOf (kind : ScalarKind) (text : String) : Except Fault Datum :=
  match kind with
  | .null => .ok .null
  | .bool => (Scalar.boolOf text).map .bool
  | .int => (Scalar.intOf text).map .int
  | .float => (Scalar.floatOf text).map .float
  | .timestamp => Scalar.timestampOf text
  | .text => .ok (.text text)
  | _ => .error .malformed

/-- Give a scalar its value, and let a container wait. -/
def reach (schema : Schema) (number : Nat) : M Unit := do
  if (← get).reached.getD number true then return
  let fuel := (← get).nodes.size + 1
  let keep (d : Datum) : M Unit :=
    modify fun s => { s with scalars := s.scalars.set! number (some d) }
  match ← kind schema number with
  | .scalar kind =>
    if kind = .merge ∨ kind = .default ∨ kind = .indicator then malformed
    let text ← textOf schema fuel number
    if kind = .timestamp then
      if let .mapping _ := (← node number).body then fail .mappingAsTime
    keep (← scalarOf kind text)
  | .binary =>
    let text ← textOf schema fuel number
    keep (← Scalar.bytesOf text)
  | .unknown => malformed
  | _ => modify fun s => { s with waiting := number :: s.waiting }
  modify fun s => { s with reached := s.reached.set! number true }

/-- Is the node a scalar, which can be a key? -/
def isKey (number : Nat) : M Bool := do
  return ((← get).scalars.getD number none).isSome

/-- Do two keys of a mapping have the same text? -/
def hasRepeatedKey (schema : Schema) (es : List (Nat × Nat)) : M Bool := do
  let texts ← es.filterMapM fun (k, _) => do
    let n ← node k
    match n.kind schema, n.body with
    | .scalar .text, .scalar text _ => return some text
    | _, _ => return none
  return texts.eraseDups.length < texts.length

/-- The numbers of entries that the fuel of a merge has to cover. -/
def mergeFuel : M Nat := do
  let s ← get
  let size := s.nodes.foldl (fun n node =>
    match node.body with
    | .mapping es => n + es.length
    | _ => n) 0
  return 4 * (size + s.nodes.size + 2)

/-- Look at a container: reach the nodes in it. -/
def expand (schema : Schema) (number : Nat) : M Unit := do
  match ← kind schema number with
  | .list =>
    match (← node number).body with
    | .sequence items => items.forM (reach schema)
    | _ => malformed
  | .pairs =>
    match (← node number).body with
    | .sequence items => items.forM fun item => do
      match (← node item).body with
      | .mapping [(k, v)] => do
        reach schema k
        reach schema v
      | _ => malformed
    | _ => malformed
  | _ =>
    match (← node number).body with
    | .mapping es =>
      if schema.hasUniqueKeys && (← hasRepeatedKey schema es) then malformed
      mergeFrom schema (← mergeFuel) number 0 []
      (← entries number).forM fun (k, v) => do
        reach schema k
        if !(← isKey k) then malformed
        reach schema v
    | _ => malformed

/-- Look at the waiting containers, level by level. -/
def expandAll (schema : Schema) : Nat → M Unit
  | 0 => return
  | fuel + 1 => do
    let level := (← get).waiting.reverse
    if level.isEmpty then return
    modify fun s => { s with waiting := [] }
    level.forM (expand schema)
    expandAll schema fuel

end Builder

/-! ## The data of a finished graph -/

/-- The data found so far; only what holds no reference back is kept. -/
abbrev Found := StateM (Array (Option Datum))

/-- The datum of a node inside the nodes `around`, and whether it is free of references back. -/
def unfold (schema : Schema) (b : Builder) : Nat → List Nat → Nat → Found (Datum × Bool)
  | 0, _, _ => return (.null, false)
  | fuel + 1, around, number => do
    if let some d := b.scalars.getD number none then return (d, true)
    if let some d := (← get).getD number none then return (d, true)
    let n := b.nodes.getD number default
    let kind := n.kind schema
    if around.contains number then
      let up := around.idxOf number
      return (if kind = .map then .mapAgain up else if kind = .keySet then .other "set(...)" false
        else .listAgain up, false)
    let inner := unfold schema b fuel (number :: around)
    let pair (e : Nat × Nat) : Found ((Datum × Datum) × Bool) := do
      let (k, kFree) ← inner e.1
      let (v, vFree) ← inner e.2
      return ((k, v), kFree && vFree)
    let (d, isFree) ← match kind, n.body with
      | .map, .mapping es => do
        let rs ← es.mapM pair
        pure (Datum.ofEntries (rs.map (·.1)), rs.all (·.2))
      | .keySet, .mapping es => do
        let rs ← es.mapM pair
        let keys := match Datum.ofEntries (rs.map (·.1)) with
          | .map es => es.map (·.1)
          | _ => []
        pure (.keySet keys, rs.all (·.2))
      | .pairs, .sequence items => do
        let rs ← items.mapM fun item =>
          match (b.nodes.getD item default).body with
          | .mapping [e] => pair e
          | _ => return ((.null, .null), true)
        pure (.list (rs.map fun ((k, v), _) => .other ("(" ++ k.quote ++ ", " ++ v.quote ++ ")") false),
          rs.all (·.2))
      | _, .sequence items => do
        let rs ← items.mapM inner
        pure (.list (rs.map (·.1)), rs.all (·.2))
      | _, _ => pure (.null, true)
    if isFree then modify fun found => found.set! number (some d)
    return (d, isFree)

/-- The data of a graph of nodes; a text without a document holds nothing. -/
def NodeGraph.data (schema : Schema) (g : NodeGraph) : Except Fault Datum := do
  match g.root? with
  | none => return .null
  | some root =>
    let size := g.nodes.size
    let start : Builder :=
      { nodes := g.nodes, scalars := Array.replicate size none, reached := Array.replicate size false }
    let (_, b) ← (do Builder.reach schema root; Builder.expandAll schema (size + 1)).run start
    return ((unfold schema b (size + 1) [] root).run (Array.replicate size none)).1.1

end Yaml

/-- The data of a text. -/
def Datum.ofYaml (schema : Yaml.Schema) (text : List Char) : Except Yaml.Fault Datum := do
  (← Yaml.NodeGraph.ofText text).data schema

end CommandWrap
