import CommandWrap.Invocation.Basic
import CommandWrap.Text.Quoted
import CommandWrap.Text.Utf8

/-!
# Finished processes

A finished process has ended with a number or was killed by a signal, and has written bytes to its two
outputs.  The bytes are kept in the order in which they were written, so the outputs can be looked at
together or each on its own.
-/
namespace CommandWrap.Process

/-- An output of a process. -/
inductive Channel
  /-- The output for results. -/
  | out
  /-- The output for messages. -/
  | err
deriving DecidableEq, Repr

/-- How a process ended. -/
inductive Status
  /-- It ended by itself with a number. -/
  | exited (code : Nat)
  /-- It was killed by a signal. -/
  | killed (signal : Nat)
deriving DecidableEq, Repr

/-- A finished process. -/
structure Finished where
  /-- How it ended. -/
  status : Status
  /-- What it wrote, in order. -/
  written : List (Channel × List UInt8) := []
deriving DecidableEq, Repr

/-- The number that stands for the way a process ended; it is negative for a signal. -/
def Status.code : Status → Int
  | .exited n => n
  | .killed n => -(n : Int)

/-- Did the process succeed? -/
def Finished.succeeded (p : Finished) : Bool :=
  p.status.code == 0

/-- The bytes of one output. -/
def Finished.bytes (p : Finished) (c : Channel) : List UInt8 :=
  (p.written.filter (·.1 == c)).flatMap (·.2)

/-- The bytes of both outputs together. -/
def Finished.allBytes (p : Finished) : List UInt8 :=
  p.written.flatMap (·.2)

/-- Bytes as text with line feeds only. -/
def textOf (bytes : List UInt8) : Except Text.Utf8.Fault String :=
  (Text.Utf8.decode bytes).map fun cs => String.ofList (Text.Utf8.normalizeNewlines cs)

/-- The names of the signals. -/
def signalNames : List (Nat × String) := [
  (1, "HUP"), (2, "INT"), (3, "QUIT"), (4, "ILL"), (5, "TRAP"), (6, "ABRT"), (7, "BUS"), (8, "FPE"),
  (9, "KILL"), (10, "USR1"), (11, "SEGV"), (12, "USR2"), (13, "PIPE"), (14, "ALRM"), (15, "TERM"),
  (16, "STKFLT"), (17, "CHLD"), (18, "CONT"), (19, "STOP"), (20, "TSTP"), (21, "TTIN"), (22, "TTOU"),
  (23, "URG"), (24, "XCPU"), (25, "XFSZ"), (26, "VTALRM"), (27, "PROF"), (28, "WINCH"), (29, "IO"),
  (30, "PWR"), (31, "SYS")]

/-- The words for a status that is no success. -/
def Status.words : Status → String
  | .exited n => "returned non-zero exit status " ++ toString n ++ "."
  | .killed n =>
    match signalNames.lookup n with
    | some name =>
      "died with <Signals.SIG" ++ name ++ ": " ++ toString n ++ ">."
    | none => "died with unknown signal " ++ toString n ++ "."

/-- The message about an invocation that failed. -/
def failureMessage (c : Invocation) (status : Status) : String :=
  "Command '" ++ Text.quotedList c.argv ++ "' " ++ status.words

/-- The message about a program that does not exist. -/
def missingMessage (program : String) : String :=
  "[Errno 2] No such file or directory: " ++ Text.quoted program

end CommandWrap.Process
