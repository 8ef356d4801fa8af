import DocPipe.CommandLine.Run
import DocPipe.Shell.Run

/-!
# The program

This is the only place that touches the outside.  It gathers the environment, runs the program, and
writes what it leaves behind.  Lines are executed by the shell of this library.
-/

namespace DocPipe
namespace CommandLine

/-- The error of the system as this library knows it. -/
def SystemError.ofError : IO.Error → SystemError
  | .permissionDenied .. => .permissionDenied
  | .inappropriateType .. => .isDirectory
  | _ => .notFound

/-- What the program is told to say about its arguments. -/
def Stop.text : Stop → String
  | .version => "jpipe 0.1.2\n"
  | _ => "usage: jpipe [-v]... <select|filter|template|run|check> [arguments] [options]\n"

/-- The bytes of a file, or of the file that cannot be read. -/
def readBytes (path : String) : IO (Except SystemError (List UInt8)) := do
  try return .ok (← IO.FS.readBinFile path).toList
  catch e => return .error (SystemError.ofError e)

/-- All bytes that are left in a stream. -/
partial def readStream (stream : IO.FS.Stream) (bytes : ByteArray) : IO ByteArray := do
  let more ← stream.read 65536
  if more.isEmpty then return bytes else readStream stream (bytes ++ more)

/-- The file that arguments name, if they name one. -/
def fileOf (args : List String) : Option String :=
  match Invocation.ofArguments args with
  | .ok { command := .print _ source, .. } => source.file
  | .ok { command := .execute _ _ source, .. } => source.file
  | _ => none

/-- Whether arguments ask for a document from standard input. -/
def readsStdin (args : List String) : Bool :=
  match Invocation.ofArguments args with
  | .ok { command := .print _ source, .. } => source.file.isNone
  | .ok { command := .execute _ _ source, .. } => source.file.isNone
  | _ => false

/-- The environment in which the program runs with the given arguments. -/
def gatherEnvironment (args : List String) : IO Environment := do
  let stdin ← if readsStdin args then readStream (← IO.getStdin) .empty else pure .empty
  let bytes ← match fileOf args with
    | some path => readBytes path
    | none => pure (.error .notFound)
  let log ← IO.getEnv logVariable
  let shell ← IO.getEnv shellVariable
  return {
    stdin := stdin.toList
    contents := fun _ => bytes
    setting? := fun name =>
      if name = logVariable then log else if name = shellVariable then shell else none
    execute := Shell.executeWith }

end CommandLine
end DocPipe

open DocPipe.CommandLine in
/-- Runs the program. -/
def main (args : List String) : IO UInt32 := do
  match run (← gatherEnvironment args) args with
  | .ok shown =>
    (← IO.getStdout).putStr shown.stdout
    (← IO.getStderr).putStr shown.stderr
    return shown.code.toUInt32
  | .error .usage =>
    (← IO.getStderr).putStr Stop.usage.text
    return 2
  | .error stop =>
    (← IO.getStdout).putStr stop.text
    return 0
