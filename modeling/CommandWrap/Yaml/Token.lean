/-!
# Tokens of a YAML document

Indentation shows in the tokens: the start of a block collection and the end of it are tokens of their
own, and so is the mark that a scalar or collection is a key.
-/
namespace CommandWrap.Yaml

/-- What a directive says. -/
inductive Directive
  /-- The version of YAML that the document is written in. -/
  | version (major minor : Nat)
  /-- A handle for tags and what it stands for. -/
  | tag (handle start : String)
  /-- Any other directive. -/
  | unknown
deriving DecidableEq, Repr

/-- A token. -/
inductive Token
  /-- A directive line. -/
  | directive (d : Directive)
  /-- Three hyphens at the start of a document. -/
  | documentStart
  /-- Three points at the end of a document. -/
  | documentEnd
  /-- The end of the text. -/
  | streamEnd
  /-- A block sequence begins. -/
  | blockSequenceStart
  /-- A block mapping begins. -/
  | blockMappingStart
  /-- A block collection ends. -/
  | blockEnd
  /-- An opening square bracket. -/
  | flowSequenceStart
  /-- A closing square bracket. -/
  | flowSequenceEnd
  /-- An opening brace. -/
  | flowMappingStart
  /-- A closing brace. -/
  | flowMappingEnd
  /-- The hyphen of a block sequence. -/
  | blockEntry
  /-- The comma of a flow collection. -/
  | flowEntry
  /-- A key follows. -/
  | key
  /-- A value follows. -/
  | value
  /-- A reference to an anchor. -/
  | alias (name : String)
  /-- An anchor of the next node. -/
  | anchor (name : String)
  /-- A tag of the next node: its handle, if it has one, and the rest. -/
  | tag (handle : Option String) (suffix : String)
  /-- A scalar and whether it is written without quotes and indicators. -/
  | scalar (text : String) (isPlain : Bool)
deriving DecidableEq, Repr

/-- Why a text is no document. -/
inductive Fault
  /-- The text breaks a rule of YAML. -/
  | malformed
  /-- An escape gives a code point that does not exist. -/
  | noSuchCode (code : Nat)
  /-- A scalar tagged as a truth value is none. -/
  | noTruthValue (text : String)
  /-- A scalar tagged as a number is empty. -/
  | emptyNumber
  /-- A scalar tagged as a time is none. -/
  | noTimestamp
  /-- A number or time is not valid; the text says why. -/
  | badValue (message : String)
  /-- A group of a number is worth more than any floating point number. -/
  | overflow
  /-- A mapping is tagged as a time. -/
  | mappingAsTime
  /-- The value of a mapping is that mapping. -/
  | endless
deriving DecidableEq, Repr

/-- The text of a fault that is not a breach of the rules of YAML. -/
def Fault.message : Fault → String
  | .malformed => ""
  | .noSuchCode code =>
    if code < 0x80000000 then "chr() arg not in range(0x110000)"
    else "Python int too large to convert to C int"
  | .noTruthValue text => text
  | .emptyNumber => "string index out of range"
  | .noTimestamp => "'NoneType' object has no attribute 'groupdict'"
  | .badValue message => message
  | .overflow => "int too large to convert to float"
  | .mappingAsTime => "expected string or bytes-like object, got 'list'"
  | .endless => "maximum recursion depth exceeded"

end CommandWrap.Yaml
