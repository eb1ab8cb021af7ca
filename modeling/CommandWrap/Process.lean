import CommandWrap.Process.Shell

/-!
# Running an invocation

A handful of programs is known by what they do.  An invocation of one of them gives a finished process;
any other program is missing.  A finished process is looked at in three ways: whether it succeeded, what
it left, and its outputs together, which only a success gives.
-/
namespace CommandWrap

namespace Process

/-- What the shell does with its arguments. -/
def runShell : List String → Finished
  | [] => ⟨.exited 0, []⟩
  | ["-c"] => ⟨.exited 2, [(.err, bytesOf "sh: 0: -c requires an argument\n".toList)]⟩
  | "-c" :: text :: parameters =>
    Shell.script text (if parameters.isEmpty then ["sh"] else parameters)
  | file :: _ =>
    ⟨.exited 2, [(.err, bytesOf ("sh: 0: cannot open " ++ file ++ ": No such file\n").toList)]⟩

/-- What a known program does with its arguments. -/
def ofInvocation? (c : Invocation) : Option Finished :=
  match c.program with
  | "true" => some ⟨.exited 0, []⟩
  | "false" => some ⟨.exited 1, []⟩
  | "echo" =>
    let (escapes, newline, words) := printOptions false true c.args
    some ⟨.exited 0, [(.out, printWords escapes newline words)]⟩
  | "printf" => some (printFormat "printf" true c.args)
  | "sh" => some (runShell c.args)
  | _ => none

end Process

/-- Why running an invocation gives nothing. -/
inductive RunError
  /-- There is no such program. -/
  | missing (program : String)
  /-- The program failed, with the outputs that were kept. -/
  | failed (command : Invocation) (status : Process.Status) (output : String)
  /-- The outputs are no text. -/
  | noText (fault : Text.Utf8.Fault)
deriving Repr

/-- The text of the error. -/
def RunError.message : RunError → String
  | .missing program => Process.missingMessage program
  | .failed command status _ => Process.failureMessage command status
  | .noText fault => fault.message

namespace Invocation

/-- The process of the invocation. -/
def process (c : Invocation) : Except RunError Process.Finished :=
  match Process.ofInvocation? c with
  | some p => .ok p
  | none => .error (.missing c.program)

/-- Does the program succeed? -/
def run (c : Invocation) : Except RunError Bool :=
  c.process.map (·.succeeded)

/-- What a program left: its number and its two outputs as texts. -/
structure Completed where
  /-- The number. -/
  code : Int
  /-- The output for results. -/
  stdout : String
  /-- The output for messages. -/
  stderr : String
deriving Repr

/-- What the program leaves; a failure is an error if `checks`. -/
def completed (checks : Bool) (c : Invocation) : Except RunError Completed := do
  let p ← c.process
  let stdout ← (Process.textOf (p.bytes .out)).mapError .noText
  let stderr ← (Process.textOf (p.bytes .err)).mapError .noText
  if checks && !p.succeeded then .error (.failed c p.status stdout)
  else return ⟨p.status.code, stdout, stderr⟩

/-- Both outputs of the program together; a failure is an error that carries them. -/
def combinedOutput (c : Invocation) : Except RunError String := do
  let p ← c.process
  let output ← (Process.textOf p.allBytes).mapError .noText
  if p.succeeded then return output else .error (.failed c p.status output)

end Invocation

end CommandWrap
