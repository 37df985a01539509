import Conform.Command.Run

/-! # The program -/
namespace Conform

/-- The text of a file, if it can be read. -/
def readFile? (file : String) : IO (Option String) := do
  match ← (IO.FS.readFile file).toBaseIO with
  | .ok text => return some text
  | .error _ => return none

end Conform

def main (args : List String) : IO UInt32 := do
  let messages ← IO.getEnv Conform.Environment.messagesVariable
  let env : Conform.Environment :=
    fun name => if name = Conform.Environment.messagesVariable then messages else none
  let outcome ← Conform.Command.run env Conform.readFile? args
  IO.print outcome.output
  match outcome with
  | .failed failure => IO.eprintln ("Error: " ++ failure.message)
  | .refused => IO.eprint Conform.Command.Topic.program.text
  | .done .. => pure ()
  return outcome.exit.toUInt32
