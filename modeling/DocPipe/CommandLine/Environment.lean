import DocPipe.Text.Utf8

/-!
# What surrounds the program

The program sees the world through an `Environment`: the bytes of standard input, files, variables,
and shells that execute lines.  Everything else that it does is a function of that and of its
arguments.
-/

namespace DocPipe
namespace CommandLine

/-- What the system can refuse. -/
inductive SystemError where
  | notFound
  | permissionDenied
  | isDirectory
  | notText
  | nulByte
  deriving DecidableEq, Repr

/-- The refusal in words. -/
def SystemError.message : SystemError → String
  | .notFound => "No such file or directory (os error 2)"
  | .permissionDenied => "Permission denied (os error 13)"
  | .isDirectory => "Is a directory (os error 21)"
  | .notText => "stream did not contain valid UTF-8"
  | .nulByte => "nul byte found in provided data"

/-- How an executed line ends. -/
inductive Ending where
  | exited (code : Nat)
  | signaled
  deriving DecidableEq, Repr

/-- Whether a line has done what it should. -/
def Ending.isSuccess : Ending → Bool
  | .exited 0 => true
  | _ => false

/-- What an executed line writes, and how it ends. -/
structure LineResult where
  stdout : String := ""
  stderr : String := ""
  ending : Ending
  deriving DecidableEq, Repr

/-- What surrounds the program. -/
structure Environment where
  stdin : List UInt8
  contents : String → Except SystemError (List UInt8)
  setting? : String → Option String
  /-- What the shell of the given name does with the line at a place.  A line that is executed twice
  need not end the same way, which is why the place matters. -/
  execute : String → Nat → String → Except SystemError LineResult

@[simp] theorem Ending.isSuccess_exited_zero : (Ending.exited 0).isSuccess = true := rfl

@[simp] theorem Ending.isSuccess_signaled : Ending.signaled.isSuccess = false := rfl

end CommandLine
end DocPipe
