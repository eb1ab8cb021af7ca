import CommandWrap.Process.Formatted

/-!
# A small shell

A script is a list of commands, joined by semicolons, line breaks, `&&` and `||`.  A command is made of
words, which may be quoted and may refer to parameters, and of redirections of its outputs.  Commands in
parentheses or braces are taken together.  The shell knows how to print, to succeed, to fail, to end,
and to send a signal to itself.
-/
namespace CommandWrap.Process.Shell

/-! ## Words and marks -/

/-- A part of a word. -/
inductive Part
  /-- Characters that stand for themselves. -/
  | literal (s : String)
  /-- The value of a parameter; unless it is quoted, blanks in it divide words. -/
  | parameter (name : String) (quoted : Bool)
deriving Repr

/-- A token of a script. -/
inductive Token
  /-- A word, and whether any of it is quoted. -/
  | word (parts : List Part) (quoted : Bool)
  /-- A mark that joins or groups commands. -/
  | mark (s : String)
  /-- A redirection: the output that is redirected, whether it goes to another output, and its goal. -/
  | redirect (source : Nat) (toOutput : Bool)
deriving Repr

/-- Why a script cannot be read. -/
inductive Fault
  /-- A quote is not closed. -/
  | openQuote
  /-- A mark stands where none may. -/
  | unexpected (mark : String)
deriving Repr

/-- The words for a fault. -/
def Fault.words : Fault → String
  | .openQuote => "Unterminated quoted string"
  | .unexpected mark => "\"" ++ mark ++ "\" unexpected"

/-- The word that is being read. -/
structure Draft where
  /-- The parts so far, the latest first. -/
  parts : List Part := []
  /-- The characters since, the latest first. -/
  chars : List Char := []
  /-- Has the word begun? -/
  begun : Bool := false
  /-- Is any of it quoted? -/
  quoted : Bool := false

/-- Add a character. -/
def Draft.push (d : Draft) (c : Char) : Draft :=
  { d with chars := c :: d.chars, begun := true }

/-- Put the characters since the last part into a part. -/
def Draft.close (d : Draft) : Draft :=
  if d.chars.isEmpty then d
  else { d with parts := .literal (String.ofList d.chars.reverse) :: d.parts, chars := [] }

/-- Add a parameter. -/
def Draft.refer (d : Draft) (name : String) (quoted : Bool) : Draft :=
  let d := d.close
  { d with parts := .parameter name quoted :: d.parts, begun := true }

/-- The word as a token; nothing if it has not begun. -/
def Draft.tokens (d : Draft) : List Token :=
  if d.begun then [.word d.close.parts.reverse d.quoted] else []

/-- May the character stand in the name of a variable? -/
def isNameChar (c : Char) : Bool :=
  c.isAlphanum || c == '_'

/-- The parameter behind a dollar sign: its name and what follows. -/
def parameter? (cs : List Char) : Option (String × List Char) :=
  match cs with
  | '{' :: rest =>
    match rest.span (· != '}') with
    | (name, _ :: rest) => some (String.ofList name, rest)
    | _ => none
  | c :: rest =>
    if c == '$' || c == '?' || c == '#' || c == '@' || c == '*' || c.isDigit then
      some (String.ofList [c], rest)
    else if isNameChar c then
      let (name, rest) := cs.span isNameChar
      some (String.ofList name, rest)
    else none
  | [] => none

/-- Where the reader of words is. -/
inductive Mode
  /-- Outside of quotes. -/
  | bare
  /-- Between single quotes. -/
  | single
  /-- Between double quotes. -/
  | double

/-- A redirection ahead: the token and what follows. -/
def redirect? (source : Nat) (cs : List Char) : Option (Token × List Char) :=
  match cs with
  | '>' :: '&' :: d :: rest => if d.isDigit then some (.redirect source (d == '1' || d == '2'), rest) else none
  | _ => none

/-- Read tokens. -/
def tokenize : Nat → Mode → Draft → List Char → Except Fault (List Token)
  | 0, _, d, _ => .ok d.tokens
  | _, .bare, d, [] => .ok d.tokens
  | _, _, _, [] => .error .openQuote
  | fuel + 1, .single, d, c :: rest =>
    if c = '\'' then tokenize fuel .bare d rest else tokenize fuel .single (d.push c) rest
  | fuel + 1, .double, d, c :: rest =>
    if c = '"' then tokenize fuel .bare d rest
    else if c = '\\' then
      match rest with
      | e :: rest =>
        if e = '"' ∨ e = '\\' ∨ e = '$' then tokenize fuel .double (d.push e) rest
        else tokenize fuel .double ((d.push c).push e) rest
      | [] => .error .openQuote
    else if c = '$' then
      match parameter? rest with
      | some (name, rest) => tokenize fuel .double (d.refer name true) rest
      | none => tokenize fuel .double (d.push c) rest
    else tokenize fuel .double (d.push c) rest
  | fuel + 1, .bare, d, c :: rest => do
    let begin_ (d : Draft) : Draft := { d with begun := true, quoted := true }
    let mark (s : String) (rest : List Char) : Except Fault (List Token) := do
      return d.tokens ++ .mark s :: (← tokenize fuel .bare {} rest)
    if c = '\'' then tokenize fuel .single (begin_ d) rest
    else if c = '"' then tokenize fuel .double (begin_ d) rest
    else if c = '\\' then
      match rest with
      | e :: rest => tokenize fuel .bare (d.push e) rest
      | [] => tokenize fuel .bare (d.push c) []
    else if c = '$' then
      match parameter? rest with
      | some (name, rest) => tokenize fuel .bare (d.refer name false) rest
      | none => tokenize fuel .bare (d.push c) rest
    else if c = ' ' ∨ c = '\t' then return d.tokens ++ (← tokenize fuel .bare {} rest)
    else if c = '#' ∧ !d.begun then tokenize fuel .bare {} (rest.dropWhile (· != '\n'))
    else if c = '\n' then mark "\n" rest
    else if c = ';' ∨ c = '(' ∨ c = ')' then mark (String.ofList [c]) rest
    else if c = '&' ∧ rest.head? = some '&' then mark "&&" rest.tail
    else if c = '|' ∧ rest.head? = some '|' then mark "||" rest.tail
    else if c = '>' then
      let source := if d.chars = ['2'] ∧ d.parts.isEmpty ∧ !d.quoted then 2 else 1
      let before := if (d.chars = ['2'] ∨ d.chars = ['1']) ∧ d.parts.isEmpty ∧ !d.quoted then []
        else d.tokens
      match redirect? source (c :: rest) with
      | some (t, rest) => return before ++ t :: (← tokenize fuel .bare {} rest)
      | none =>
        let target := rest.dropWhile (· == ' ')
        let name := target.takeWhile fun c => !(c == ' ' || c == ';' || c == '\n' || c == ')')
        return before ++ .redirect source false ::
          (← tokenize fuel .bare {} (target.drop name.length))
    else tokenize fuel .bare (d.push c) rest

/-! ## Commands -/

/-- How a command is joined to the one before it. -/
inductive Join
  /-- It is run in any case. -/
  | always
  /-- It is run if the one before succeeded. -/
  | ifSuccess
  /-- It is run if the one before failed. -/
  | ifFailure
deriving Repr

/-- A command. -/
inductive Command
  /-- Words, each with whether any of it is quoted, and redirections. -/
  | simple (words : List (List Part × Bool)) (redirects : List (Nat × Bool))
  /-- Commands taken together, in a shell of their own or not. -/
  | group (isOwn : Bool) (body : List (Join × Command)) (redirects : List (Nat × Bool))
deriving Repr, Inhabited

/-- The text of a word without quotes and parameters. -/
def plainText? : Token → Option String
  | .word [.literal s] false => some s
  | _ => none

/-- The words and redirections of a simple command, and what follows. -/
def simpleParts : List Token → List (List Part × Bool) × List (Nat × Bool) × List Token
  | .word parts quoted :: rest =>
    let (ws, rs, rest) := simpleParts rest
    ((parts, quoted) :: ws, rs, rest)
  | .redirect source toOutput :: rest =>
    let (ws, rs, rest) := simpleParts rest
    (ws, (source, toOutput) :: rs, rest)
  | rest => ([], [], rest)

/-- The end of a list of commands. -/
def isEnd (closing : Option String) (ts : List Token) : Bool :=
  match ts with
  | [] => closing.isNone
  | .mark s :: _ => closing == some s
  | t :: _ => closing.isSome && plainText? t == closing

/-- The tokens without line breaks in front. -/
def dropBreaks : List Token → List Token
  | .mark "\n" :: rest => dropBreaks rest
  | ts => ts

mutual

/-- A command and what follows. -/
def command : Nat → List Token → Except Fault (Command × List Token)
  | 0, _ => .error (.unexpected "end of file")
  | fuel + 1, ts =>
    match ts with
    | .mark "(" :: rest => do
      let (body, rest) ← commands (some ")") fuel .always (dropBreaks rest)
      let (_, rs, rest) := simpleParts rest
      return (.group true body rs, rest)
    | .mark s :: _ => .error (.unexpected s)
    | t :: rest =>
      if plainText? t == some "\x7b" then do
        let (body, rest) ← commands (some "\x7d") fuel .always (dropBreaks rest)
        let (_, rs, rest) := simpleParts rest
        return (.group false body rs, rest)
      else
        let (ws, rs, rest) := simpleParts ts
        .ok (.simple ws rs, rest)
    | [] => .error (.unexpected "end of file")

/-- Commands up to a closing mark, and what follows it. -/
def commands (closing : Option String) :
    Nat → Join → List Token → Except Fault (List (Join × Command) × List Token)
  | 0, _, _ => .error (.unexpected "end of file")
  | fuel + 1, join, ts =>
    if isEnd closing ts then .ok ([], ts.tail)
    else do
      let (c, rest) ← command fuel ts
      let next (j : Join) (rest : List Token) :
          Except Fault (List (Join × Command) × List Token) := do
        let (cs, rest) ← commands closing fuel j rest
        return ((join, c) :: cs, rest)
      match rest with
      | .mark ";" :: rest => next .always (dropBreaks rest)
      | .mark "\n" :: rest => next .always (dropBreaks rest)
      | .mark "&&" :: rest => next .ifSuccess (dropBreaks rest)
      | .mark "||" :: rest => next .ifFailure (dropBreaks rest)
      | .mark s :: tail =>
        if closing == some s then return ([(join, c)], tail) else .error (.unexpected s)
      | [] => if closing.isNone then return ([(join, c)], []) else .error (.unexpected "end of file")
      | t :: tail =>
        if isEnd closing (t :: tail) then return ([(join, c)], tail)
        else .error (.unexpected "word")

end

/-! ## Running -/

/-- The state of the shell. -/
structure State where
  /-- The number of the last command. -/
  last : Nat := 0
  /-- The variables. -/
  assigned : List (String × String) := []
  /-- The name of the shell and its parameters. -/
  parameters : List String
  /-- What was written, in order. -/
  written : List (Channel × List UInt8) := []
  /-- How the shell ended, if it did. -/
  ended? : Option Status := none
deriving Inhabited

/-- The value of a parameter. -/
def State.value (s : State) (name : String) : String :=
  if name = "$" then "$$"
  else if name = "?" then toString s.last
  else if name = "#" then toString (s.parameters.length - 1)
  else if name = "@" ∨ name = "*" then String.intercalate " " (s.parameters.drop 1)
  else
    match name.toNat? with
    | some n => s.parameters.getD n ""
    | none => (s.assigned.lookup name).getD ""

/-- The text of a word. -/
def State.expand (s : State) (parts : List Part) : String :=
  String.join (parts.map fun
    | .literal t => t
    | .parameter name _ => s.value name)

/-- The characters of a word; nothing stands for a place where blanks divide it. -/
def State.marked (s : State) : Part → List (Option Char)
  | .literal t => t.toList.map some
  | .parameter name quoted =>
    (s.value name).toList.map fun c =>
      if !quoted && (c == ' ' || c == '\t' || c == '\n') then none else some c

/-- The texts between the places where a word is divided. -/
def fields : List (Option Char) → List (List Char)
  | [] => [[]]
  | none :: rest => [] :: fields rest
  | some c :: rest =>
    match fields rest with
    | field :: more => (c :: field) :: more
    | [] => [[c]]

/-- The words that a word gives: none if nothing of it is left and nothing was quoted. -/
def State.words (s : State) (parts : List Part) (quoted : Bool) : List String :=
  let found := (fields (parts.flatMap s.marked)).filter (!·.isEmpty)
  if found.isEmpty && quoted then [""] else found.map String.ofList

/-- Where the outputs of a command go: the first for results, the second for messages. -/
abbrev Targets := Option Channel × Option Channel

/-- The goals after redirections. -/
def redirected (targets : Targets) (redirects : List (Nat × Bool)) : Targets :=
  redirects.foldl (fun t (source, toOutput) =>
    if source = 2 then (t.1, if toOutput then t.1 else none)
    else (if toOutput then t.2 else none, t.2)) targets

/-- Write bytes to an output. -/
def State.write (s : State) (target : Option Channel) (bytes : List UInt8) : State :=
  match target with
  | some c => if bytes.isEmpty then s else { s with written := s.written ++ [(c, bytes)] }
  | none => s

/-- The number of a signal given by its number or name. -/
def signalOf? (name : String) : Option Nat :=
  match name.toNat? with
  | some n => some n
  | none =>
    let bare := if name.startsWith "SIG" then (name.drop 3).toString else name
    (signalNames.find? (·.2 == bare)).map (·.1)

/-- The signal that the words behind `kill` send. -/
def killSignal? : List String → Option Nat
  | ["-s", name, "$$"] => signalOf? name
  | [option, "$$"] => if option.startsWith "-" then signalOf? (option.drop 1).toString else none
  | ["$$"] => some 15
  | _ => none

/-- Does the signal leave a process as it is? -/
def isHarmless (signal : Nat) : Bool :=
  [0, 17, 18, 23, 28].contains signal

/-- Does the word give a value to a variable? -/
def assignment? (parts : List Part) : Option (String × List Part) :=
  match parts with
  | .literal t :: rest =>
    let (name, tail) := t.toList.span isNameChar
    match name, tail with
    | c :: _, '=' :: value =>
      if c.isDigit then none else some (String.ofList name, .literal (String.ofList value) :: rest)
    | _, _ => none
  | _ => none

/-- Run a command given by its words. -/
def runWords (s : State) (targets : Targets) : List String → State
  | [] => { s with last := 0 }
  | name :: args =>
    let print (escapes : Bool) : State :=
      let (newline, words) := match args with
        | "-n" :: rest => (false, rest)
        | _ => (true, args)
      { s.write targets.1 (printWords escapes newline words) with last := 0 }
    match name with
    | "echo" => print true
    | "printf" =>
      let p := printFormat "printf" false args
      let s := p.written.foldl (fun s (c, bytes) =>
        s.write (if c = .out then targets.1 else targets.2) bytes) s
      { s with last := p.status.code.toNat }
    | "true" => { s with last := 0 }
    | ":" => { s with last := 0 }
    | "false" => { s with last := 1 }
    | "exit" =>
      match args with
      | [] => { s with ended? := some (.exited s.last) }
      | n :: _ =>
        match n.toNat? with
        | some n => { s with ended? := some (.exited (n % 256)) }
        | none =>
          { s.write targets.2 (bytesOf ("sh: 1: exit: Illegal number: " ++ n ++ "\n").toList) with
            ended? := some (.exited 2) }
    | "exec" =>
      let after := runWords s targets args
      if args.isEmpty then after
      else { after with ended? := after.ended? <|> some (.exited after.last) }
    | "kill" =>
      match killSignal? args with
      | some n => if isHarmless n then { s with last := 0 } else { s with ended? := some (.killed n) }
      | none => { s with last := 1 }
    | _ =>
      { s.write targets.2 (bytesOf ("sh: 1: " ++ name ++ ": not found\n").toList) with last := 127 }

/-- Run the words of a simple command; values of variables may stand before them. -/
def runSimple (s : State) (targets : Targets) : List (List Part × Bool) → State
  | [] => { s with last := 0 }
  | (w, quoted) :: rest =>
    match assignment? w with
    | some (name, value) =>
      runSimple { s with assigned := (name, s.expand value) :: s.assigned } targets rest
    | none => runWords s targets (((w, quoted) :: rest).flatMap fun (w, q) => s.words w q)

/-- Is a command run after the one before? -/
def isDue (s : State) : Join → Bool
  | .always => true
  | .ifSuccess => s.last == 0
  | .ifFailure => s.last != 0

mutual

/-- Run a command. -/
def run (s : State) (targets : Targets) : Command → State
  | .simple words redirects => runSimple s (redirected targets redirects) words
  | .group isOwn body redirects =>
    let after := runAll s (redirected targets redirects) body
    if isOwn then
      match after.ended? with
      | some status => { s with written := after.written, last := status.code.toNat, ended? := none }
      | none => { s with written := after.written, last := after.last }
    else after

/-- Run commands in order. -/
def runAll (s : State) (targets : Targets) : List (Join × Command) → State
  | [] => s
  | (join, c) :: rest =>
    if s.ended?.isSome then s
    else runAll (if isDue s join then run s targets c else s) targets rest

end

/-- Run a script with the name of the shell and its parameters. -/
def script (text : String) (parameters : List String) : Finished :=
  let cs := text.toList
  let parsed := do
    let ts ← tokenize (cs.length + 1) .bare {} cs
    commands none (2 * ts.length + 2) .always (dropBreaks ts)
  match parsed with
  | .error f => ⟨.exited 2, [(.err, bytesOf ("sh: 1: Syntax error: " ++ f.words ++ "\n").toList)]⟩
  | .ok (body, _) =>
    let s := runAll { parameters } (some .out, some .err) body
    ⟨s.ended?.getD (.exited s.last), s.written⟩

end CommandWrap.Process.Shell
