import Conform.Command.Run
import Conform.Proofs.Issue.Overlay
import Conform.Proofs.Path.RoundTrip

/-!
# The verdict of a run

Where the files that a validation needs can be read, the program reports the
verdict of the validation, as its exit code and in what it prints; where one
cannot be read it reports none.  Which files are needed is decided by the
arguments and by one variable of the environment.
-/
namespace Conform.Command

section
variable {env : Environment} {files : Files} {args : List String} {messages chosen : Option String}
  {schemaFile inputFile : String} {asJson : Bool}

end
end Conform.Command
