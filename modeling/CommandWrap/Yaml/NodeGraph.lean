import CommandWrap.Yaml.Lexer

/-!
# The nodes of a document

A document is a graph of nodes: an alias leads to the node that carries the anchor, which may be a node
around the alias.  Nodes are kept in a table and point to each other by their numbers.

`NodeGraph.ofTokens` reads the tokens of a text with exactly one document.  Where a key or value is
missing, it is an empty scalar.
-/
namespace CommandWrap.Yaml

/-- What a node holds. -/
inductive NodeBody
  /-- A scalar, and whether its type shows in its text. -/
  | scalar (text : String) (isImplicit : Bool)
  /-- A sequence of nodes. -/
  | sequence (items : List Nat)
  /-- Pairs of a key and a value. -/
  | mapping (entries : List (Nat × Nat))
deriving Inhabited, DecidableEq, Repr

/-- A node. -/
structure Node where
  /-- The tag that is written at the node, if one is. -/
  tag? : Option String := none
  /-- What it holds. -/
  body : NodeBody
deriving Inhabited, DecidableEq, Repr

/-- A table of nodes. -/
structure NodeGraph where
  /-- The nodes by number. -/
  nodes : Array Node
  /-- The number of the root; nothing when the text holds no document. -/
  root? : Option Nat
deriving Repr

/-- What is known while the tokens are read. -/
structure NodeReader where
  /-- The tokens ahead. -/
  tokens : List Token
  /-- Why no tokens follow the last one. -/
  fault? : Option Fault
  /-- The nodes so far. -/
  nodes : Array Node := #[]
  /-- The anchors so far. -/
  anchors : List (String × Nat) := []
  /-- The handles of tags. -/
  handles : List (String × String) := []

namespace NodeReader

/-- A step of reading. -/
abbrev M := StateT NodeReader (Except Fault)

/-- The text breaks a rule. -/
def malformed {α : Type} : M α := throw .malformed

/-- The token ahead. -/
def peek : M Token := do
  let s ← get
  match s.tokens with
  | t :: _ => return t
  | [] => throw (s.fault?.getD .malformed)

/-- Move behind the token ahead. -/
def skip : M Unit :=
  modify fun s => { s with tokens := s.tokens.tail }

/-- Add a node and give its number. -/
def add (node : Node) : M Nat :=
  modifyGet fun s => (s.nodes.size, { s with nodes := s.nodes.push node })

/-- Fill in what a node holds. -/
def fill (number : Nat) (body : NodeBody) : M Unit :=
  modify fun s => { s with nodes := s.nodes.modify number fun n => { n with body } }

/-- Add an empty scalar. -/
def addEmpty : M Nat :=
  add { body := .scalar "" true }

/-- Give an anchor to the node that is added next. -/
def anchorNext (anchor? : Option String) : M Unit := do
  match anchor? with
  | none => return
  | some name =>
    let s ← get
    if s.anchors.any (·.1 == name) then malformed
    else set { s with anchors := (name, s.nodes.size) :: s.anchors }

/-- What is written in front of a node. -/
structure Properties where
  /-- Its anchor. -/
  anchor? : Option String := none
  /-- Its tag. -/
  tag? : Option String := none

/-- The tag of a token: its handle is replaced by what it stands for. -/
def resolveTag (handle? : Option String) (suffix : String) : M String := do
  match handle? with
  | none => return suffix
  | some handle =>
    match (← get).handles.lookup handle with
    | some start => return start ++ suffix
    | none => malformed

/-- An anchor ahead, if there is one. -/
def takeAnchor? : M (Option String) := do
  match ← peek with
  | .anchor name => skip; return some name
  | _ => return none

/-- A tag ahead, if there is one. -/
def takeTag? : M (Option (Option String × String)) := do
  match ← peek with
  | .tag handle suffix => skip; return some (handle, suffix)
  | _ => return none

/-- The anchor and tag ahead, in either order. -/
def takeProperties : M Properties := do
  match ← takeAnchor? with
  | some name =>
    let tag? ← takeTag?
    return { anchor? := some name, tag? := ← tag?.mapM fun (h, s) => resolveTag h s }
  | none =>
    match ← takeTag? with
    | none => return {}
    | some (h, s) =>
      let anchor? ← takeAnchor?
      return { anchor?, tag? := some (← resolveTag h s) }

/-- The tag of a node; an exclamation mark alone is none. -/
def Properties.ownTag? (p : Properties) : Option String :=
  p.tag?.filter (· != "!")

/-- Add a scalar with its properties. -/
def addScalar (p : Properties) (text : String) (isPlain : Bool) : M Nat := do
  anchorNext p.anchor?
  add { tag? := p.ownTag?, body := .scalar text (isPlain || p.tag? == some "!") }

/-- Is a block collection allowed here? -/
inductive Place
  /-- Inside a flow collection. -/
  | flow
  /-- In a block. -/
  | block
  /-- A key or value of a block mapping, where a sequence needs no indentation. -/
  | mapped
deriving DecidableEq

/-- Does a key or value end before this token? -/
def endsMapped : Token → Bool
  | .key => true
  | .value => true
  | .blockEnd => true
  | _ => false

mutual

/-- The node ahead. -/
def node (place : Place) : Nat → M Nat
  | 0 => malformed
  | fuel + 1 => do
    if let .alias name ← peek then
      skip
      match (← get).anchors.lookup name with
      | some number => return number
      | none => malformed
    else
      let p ← takeProperties
      let begin_ (body : NodeBody) : M Nat := do
        anchorNext p.anchor?
        skip
        add { tag? := p.ownTag?, body }
      match ← peek with
      | .blockEntry =>
        if place = .mapped then
          anchorNext p.anchor?
          let number ← add { tag? := p.ownTag?, body := .sequence [] }
          let items ← looseItems fuel
          fill number (.sequence items)
          return number
        else emptyNode p
      | .scalar text isPlain =>
        skip
        addScalar p text isPlain
      | .flowSequenceStart =>
        let number ← begin_ (.sequence [])
        let items ← flowItems true fuel
        fill number (.sequence items)
        return number
      | .flowMappingStart =>
        let number ← begin_ (.mapping [])
        let entries ← flowEntries true fuel
        fill number (.mapping entries)
        return number
      | .blockSequenceStart =>
        if place = .flow then emptyNode p
        else
          let number ← begin_ (.sequence [])
          let items ← blockItems fuel
          fill number (.sequence items)
          return number
      | .blockMappingStart =>
        if place = .flow then emptyNode p
        else
          let number ← begin_ (.mapping [])
          let entries ← blockEntries fuel
          fill number (.mapping entries)
          return number
      | _ => emptyNode p

/-- A node of which only the anchor or tag is written. -/
def emptyNode (p : Properties) : M Nat :=
  if p.anchor?.isNone && p.tag?.isNone then malformed
  else do
    anchorNext p.anchor?
    add { tag? := p.ownTag?, body := .scalar "" true }

/-- A node, or an empty scalar when a token ahead says that it is missing. -/
def optionalNode (place : Place) (missing : Token → Bool) : Nat → M Nat
  | 0 => malformed
  | fuel + 1 => do
    if missing (← peek) then addEmpty else node place fuel

/-- The items of a block sequence. -/
def blockItems : Nat → M (List Nat)
  | 0 => malformed
  | fuel + 1 => do
    match ← peek with
    | .blockEntry =>
      skip
      let item ← optionalNode .block (fun t => t == .blockEntry || t == .blockEnd) fuel
      return item :: (← blockItems fuel)
    | .blockEnd => skip; return []
    | _ => malformed

/-- The items of a sequence that is not indented. -/
def looseItems : Nat → M (List Nat)
  | 0 => malformed
  | fuel + 1 => do
    match ← peek with
    | .blockEntry =>
      skip
      let item ← optionalNode .block (fun t => t == .blockEntry || endsMapped t) fuel
      return item :: (← looseItems fuel)
    | _ => return []

/-- The entries of a block mapping. -/
def blockEntries : Nat → M (List (Nat × Nat))
  | 0 => malformed
  | fuel + 1 => do
    match ← peek with
    | .key =>
      skip
      let k ← optionalNode .mapped endsMapped fuel
      let v ←
        if (← peek) == .value then
          skip
          optionalNode .mapped endsMapped fuel
        else addEmpty
      return (k, v) :: (← blockEntries fuel)
    | .blockEnd => skip; return []
    | _ => malformed

/-- The value behind a key in a flow collection that `closing` ends. -/
def flowValue (closing : Token) : Nat → M Nat
  | 0 => malformed
  | fuel + 1 => do
    if (← peek) == .value then
      skip
      optionalNode .flow (fun t => t == .flowEntry || t == closing) fuel
    else addEmpty

/-- The items of a flow sequence; a comma comes before each but the first. -/
def flowItems (isFirst : Bool) : Nat → M (List Nat)
  | 0 => malformed
  | fuel + 1 => do
    if (← peek) == .flowSequenceEnd then
      skip
      return []
    else
      if !isFirst then
        if (← peek) == .flowEntry then skip else malformed
      match ← peek with
      | .key =>
        skip
        let pair ← add { body := .mapping [] }
        let k ← optionalNode .flow
          (fun t => t == .value || t == .flowEntry || t == .flowSequenceEnd) fuel
        let v ← flowValue .flowSequenceEnd fuel
        fill pair (.mapping [(k, v)])
        return pair :: (← flowItems false fuel)
      | .flowSequenceEnd => skip; return []
      | _ =>
        let item ← node .flow fuel
        return item :: (← flowItems false fuel)

/-- The entries of a flow mapping; a comma comes before each but the first. -/
def flowEntries (isFirst : Bool) : Nat → M (List (Nat × Nat))
  | 0 => malformed
  | fuel + 1 => do
    if (← peek) == .flowMappingEnd then
      skip
      return []
    else
      if !isFirst then
        if (← peek) == .flowEntry then skip else malformed
      match ← peek with
      | .key =>
        skip
        let k ← optionalNode .flow
          (fun t => t == .value || t == .flowEntry || t == .flowMappingEnd) fuel
        let v ← flowValue .flowMappingEnd fuel
        return (k, v) :: (← flowEntries false fuel)
      | .flowMappingEnd => skip; return []
      | _ =>
        let k ← node .flow fuel
        let v ← addEmpty
        return (k, v) :: (← flowEntries false fuel)

end

/-- The handles that every document has. -/
def standardHandles : List (String × String) :=
  [("!", "!"), ("!!", "tag:yaml.org,2002:")]

/-- The directives ahead: whether a version was given so far, and the handles so far. -/
def directives (hasVersion : Bool) (handles : List (String × String)) :
    List Token → Except Fault (List (String × String) × List Token)
  | .directive (.version major _) :: rest =>
    if hasVersion || major != 1 then .error .malformed else directives true handles rest
  | .directive (.tag handle start) :: rest =>
    if handles.any (·.1 == handle) then .error .malformed
    else directives hasVersion ((handle, start) :: handles) rest
  | .directive .unknown :: rest => directives hasVersion handles rest
  | rest => .ok (handles, rest)

/-- Is the token the end of a document? -/
def isDocumentEnd (t : Token) : Bool :=
  t == .documentEnd

/-- Move behind the marks of the end of a document. -/
def skipDocumentEnds : M Unit :=
  modify fun s => { s with tokens := s.tokens.dropWhile isDocumentEnd }

/-- Does a token mean that the document before it holds nothing? -/
def endsDocument : Token → Bool
  | .directive _ => true
  | .documentStart => true
  | .documentEnd => true
  | .streamEnd => true
  | _ => false

/-- The document behind its directives. -/
def explicitDocument (fuel : Nat) : M (Option Nat) := do
  skipDocumentEnds
  if (← peek) == .streamEnd then return none
  let s ← get
  let (own, tokens) ← directives false [] s.tokens
  set { s with tokens, handles := own ++ standardHandles }
  if (← peek) == .documentStart then skip else malformed
  return some (← optionalNode .block endsDocument fuel)

/-- The only document of a text. -/
def document (fuel : Nat) : M (Option Nat) := do
  let isExplicit := match ← peek with
    | .directive _ => true
    | .documentStart => true
    | .streamEnd => true
    | _ => false
  let root? ←
    if isExplicit then explicitDocument fuel
    else
      modify fun s => { s with handles := standardHandles }
      pure (some (← node .block fuel))
  skipDocumentEnds
  if (← peek) == .streamEnd then return root? else malformed

end NodeReader

/-- The nodes of a text with at most one document. -/
def NodeGraph.ofText (text : List Char) : Except Fault NodeGraph := do
  let (tokens, fault?) := tokenize text
  let fuel := 8 * (tokens.length + 2)
  let (root?, s) ← (NodeReader.document fuel).run { tokens, fault? }
  return { nodes := s.nodes, root? }

end CommandWrap.Yaml
