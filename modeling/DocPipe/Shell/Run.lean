import DocPipe.CommandLine.Environment
import DocPipe.Shell.Script

/-!
# Executing lines of shell script

The shell knows a handful of commands by itself: `echo`, `test`, `exit`, `kill` for its own process,
`true` and `false`.  It starts no other programs, and says of every other command that it was not
found.
-/

namespace DocPipe
namespace Shell

open CommandLine (Ending LineResult)

/-- What has happened so far: what has been written, the last exit status, and the end, once it has
come. -/
structure State where
  stdout : String := ""
  stderr : String := ""
  status : Nat := 0
  ending : Option Ending := none
  deriving Repr

namespace State

/-- The state after a command with an exit status. -/
def finish (s : State) (status : Nat) : State := { s with status }

/-- The state after a command that complains. -/
def complain (s : State) (status : Nat) (message : String) : State :=
  { s with status, stderr := s.stderr ++ "sh: 1: " ++ message ++ "\n" }

/-- The state after output to one of the streams. -/
def write (s : State) (toErrors : Bool) (text : String) : State :=
  if toErrors then { s with stderr := s.stderr ++ text, status := 0 }
  else { s with stdout := s.stdout ++ text, status := 0 }

end State

/-- How the shell refers to its own process. -/
def processNumber : List Char := "4242".toList

/-- The text of a part of a word. -/
def Part.expand (status : Nat) : Part → List Char
  | .text cs => cs
  | .process => processNumber
  | .status => (toString status).toList

/-- The text of a word. -/
def expandWord (status : Nat) (w : Word) : String := String.ofList (w.flatMap (Part.expand status))

/-! ## Commands -/

/-- The character that a letter behind a backslash stands for in `echo`. -/
def echoEscape? : Char → Option Char
  | 'n' => some '\n'
  | 't' => some '\t'
  | 'r' => some '\r'
  | 'a' => some '\x07'
  | 'b' => some '\x08'
  | 'f' => some '\x0c'
  | 'v' => some '\x0b'
  | '\\' => some '\\'
  | _ => none

/-- The text of `echo` with escapes resolved, and whether it goes on. -/
def echoText : List Char → List Char × Bool
  | '\\' :: 'c' :: _ => ([], false)
  | '\\' :: c :: rest =>
    match echoEscape? c with
    | some d => (d :: (echoText rest).1, (echoText rest).2)
    | none => ('\\' :: c :: (echoText rest).1, (echoText rest).2)
  | c :: rest => (c :: (echoText rest).1, (echoText rest).2)
  | [] => ([], true)

/-- What `echo` writes for its arguments. -/
def echo (args : List String) : String :=
  let (args, newline) := match args with
    | "-n" :: args => (args, false)
    | args => (args, true)
  let (text, goesOn) := echoText (" ".intercalate args).toList
  String.ofList text ++ if newline && goesOn then "\n" else ""

/-- The comparison of two integers that an operator of `test` names. -/
def integerTest? (op : String) : Option (Int → Int → Bool) :=
  match op with
  | "-eq" => some (· == ·)
  | "-ne" => some (· != ·)
  | "-lt" => some (· < ·)
  | "-le" => some (· ≤ ·)
  | "-gt" => some (· > ·)
  | "-ge" => some (· ≥ ·)
  | _ => none

/-- The integer that an argument denotes. -/
def integer? (arg : String) : Option Int :=
  match arg.toList with
  | '-' :: digits =>
    if digits ≠ [] ∧ digits.all Char.isDigit then some (-(Nat.ofDigitChars 10 digits 0 : Int))
    else none
  | digits =>
    if digits ≠ [] ∧ digits.all Char.isDigit then some (Nat.ofDigitChars 10 digits 0) else none

/-- The answer of `test`, or its complaint. -/
def test : List String → Except String Bool
  | [] => .ok false
  | [a] => .ok (a != "")
  | "!" :: args => (test args).map (!·)
  | ["-n", a] => .ok (a != "")
  | ["-z", a] => .ok (a == "")
  | [a, op, b] =>
    if op = "=" ∨ op = "==" then .ok (a == b)
    else if op = "!=" then .ok (a != b)
    else match integerTest? op, integer? a, integer? b with
      | some holds, some m, some n => .ok (holds m n)
      | some _, none, _ => .error ("Illegal number: " ++ a)
      | some _, _, none => .error ("Illegal number: " ++ b)
      | none, _, _ => .error (op ++ ": unexpected operator")
  | [a, _] => .error (a ++ ": unexpected operator")
  | _ :: op :: _ => .error (op ++ ": unexpected operator")

/-- Runs `test` under one of its names. -/
def runTest (s : State) (name : String) (args : List String) : State :=
  match test args with
  | .ok answer => s.finish (if answer then 0 else 1)
  | .error message => s.complain 2 (name ++ ": " ++ message)

/-- Runs `exit`. -/
def runExit (s : State) : List String → State
  | [] => { s with ending := some (.exited s.status) }
  | arg :: _ =>
    match arg.toNat? with
    | some n => { s with ending := some (.exited (n % 256)) }
    | none => { s.complain 2 ("exit: Illegal number: " ++ arg) with ending := some (.exited 2) }

/-- The signals that a process ignores unless it asks for them. -/
def ignoredSignals : List String :=
  ["0", "17", "18", "23", "28", "CHLD", "CONT", "URG", "WINCH"]

/-- Runs `kill`, which reaches no process but the shell itself. -/
def runKill (s : State) : List String → State
  | "-s" :: signal :: [target] => send signal target
  | arg :: rest =>
    match arg.toList, rest with
    | '-' :: signal, [target] => send (String.ofList signal) target
    | _, [] => send "TERM" arg
    | _, _ => s.complain 2 "kill: Illegal number: -"
  | [] => s.complain 2 "kill: No arguments"
where
  /-- Sends a signal to a process. -/
  send (signal target : String) : State :=
    if target.toList ≠ processNumber then s.complain 1 "kill: No such process"
    else if ignoredSignals.contains signal then s.finish 0
    else { s with ending := some .signaled }

/-- Runs a command with its arguments. -/
def runCommand (s : State) (toErrors : Bool) (name : String) (args : List String) : State :=
  match name with
  | "echo" => s.write toErrors (echo args)
  | "test" => runTest s name args
  | "[" =>
    if args.getLast? = some "]" then runTest s name args.dropLast
    else s.complain 2 "[: missing ]"
  | "exit" => runExit s args
  | "kill" => runKill s args
  | "true" => s.finish 0
  | ":" => s.finish 0
  | "false" => s.finish 1
  | _ => s.complain 127 (name ++ ": not found")

/-- Whether a command is run after one with the given exit status. -/
def Connective.isMet (status : Nat) : Connective → Bool
  | .always => true
  | .ifSucceeded => status == 0
  | .ifFailed => status != 0

/-- Runs a command, unless the end has come or its connective forbids it. -/
def step (s : State) (command : Command) : State :=
  if s.ending.isSome || !command.connective.isMet s.status then s
  else match command.words.map (expandWord s.status) with
    | name :: args => runCommand s command.toErrors name args
    | [] => s.finish 0

/-- Executes a line. -/
def execute (line : String) : LineResult :=
  match parse line with
  | .error fault => { stderr := "sh: 1: " ++ fault.message ++ "\n", ending := .exited 2 }
  | .ok commands =>
    let s := commands.foldl step {}
    { stdout := s.stdout, stderr := s.stderr, ending := s.ending.getD (.exited s.status) }

/-- The names that the shell goes by. -/
def names : List String :=
  ["sh", "dash", "bash", "/bin/sh", "/bin/dash", "/bin/bash", "/usr/bin/sh"]

/-- Executes a line with the shell of a name.  A line cannot hold a character of value zero.  No
line leaves anything behind for the others, so its place does not matter. -/
def executeWith (name : String) (_place : Nat) (line : String) :
    Except CommandLine.SystemError LineResult :=
  if line.toList.contains '\x00' then .error .nulByte
  else if names.contains name then .ok (execute line)
  else .error .notFound

end Shell
end DocPipe
