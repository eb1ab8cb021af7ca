import CommandWrap.Text.Blank
import CommandWrap.Unicode.Upper

/-!
# Log messages and levels

A log message has a level and the name of the logger that emits it.  Levels are numbers; five of them
have names, which may be given in an environment variable in any case and with blanks around them.
-/
namespace CommandWrap.Log

/-- The named levels. -/
inductive Level
  /-- Details for debugging. -/
  | debug
  /-- Progress. -/
  | info
  /-- Something unexpected. -/
  | warning
  /-- A failure. -/
  | error
  /-- A failure that ends the program. -/
  | critical
deriving DecidableEq, Repr, Inhabited

namespace Level

/-- The number of a level. -/
def number : Level → Int
  | .debug => 10
  | .info => 20
  | .warning => 30
  | .error => 40
  | .critical => 50

/-- The name of a level. -/
def word : Level → String
  | .debug => "DEBUG"
  | .info => "INFO"
  | .warning => "WARNING"
  | .error => "ERROR"
  | .critical => "CRITICAL"

/-- All levels. -/
def all : List Level := [.debug, .info, .warning, .error, .critical]

/-- The level that a name stands for, in any case and with blanks around it. -/
def ofText? (s : String) : Option Level :=
  let word := Unicode.upperText (Text.strip s)
  all.find? (·.word == word)

end Level

/-- A log message. -/
structure Note where
  /-- How important it is. -/
  level : Level
  /-- The name of the logger. -/
  logger : String
  /-- The text. -/
  text : String
deriving DecidableEq, Repr

/-- The line of a message behind its time. -/
def Note.line (n : Note) : String :=
  "[" ++ n.level.word ++ "] " ++ n.logger ++ ": " ++ n.text

/-- The level named by the value of the environment variable, or the default when the variable is
unset or names no level. -/
def levelFromEnvironment (default : Int) (env : Option String) : Int :=
  match env.bind Level.ofText? with
  | some level => level.number
  | none => default

/-- What a caller asks of the log. -/
structure Request where
  /-- Show progress messages. -/
  verbose : Bool := false
  /-- Show debug messages. -/
  debug : Bool := false
  /-- A level given outright. -/
  level : Option Int := none
  /-- Look at the environment variable. -/
  respectsEnvironment : Bool := true
deriving Repr, Inhabited

/-- The level a request leads to: the level given outright, then debugging, then progress, then the
environment, then warnings. -/
def Request.chosen (r : Request) (env : Option String) : Int :=
  match r.level with
  | some level => level
  | none =>
    if r.debug then Level.debug.number
    else if r.verbose then Level.info.number
    else if r.respectsEnvironment then levelFromEnvironment Level.warning.number env
    else Level.warning.number

/-- Is a message of the given level shown by a log at level `threshold`? -/
def Note.shownAt (n : Note) (threshold : Int) : Bool :=
  threshold ≤ n.level.number

end CommandWrap.Log
