import Conform.Command.Help
import Conform.Path.Parser
import Conform.Pattern.Meaning
import Conform.Schema.Compile
import Conform.Check

/-! # Running a command

A run needs the arguments, the environment and a way to read files.  It yields
an exit code and what is printed: 0 for success, 1 for an issue about the data
and for every failure to get that far, 2 for an issue about the schema and for
refused arguments.  A variable of the environment that is set to the empty text
counts as unset, except where only its presence matters.
-/
namespace Conform

/-- The value of each variable that is set. -/
abbrev Environment := String → Option String

namespace Environment

/-- The variable whose presence turns debugging on. -/
def debugVariable : String := "SCHEMAGUARD_DEBUG"

/-- The variable that names a file of message templates. -/
def messagesVariable : String := "SCHEMAGUARD_MESSAGES"

/-- The answer to a required variable that is not set. -/
def notSetMessage (name : String) : String :=
  "environment variable `" ++ name ++ "` is not set"

def optional? (env : Environment) (name : String) : Option String :=
  (env name).filter fun value => value ≠ ""

def isDebug (env : Environment) : Bool := (env debugVariable).isSome

def messagesFile? (env : Environment) : Option String := env.optional? messagesVariable

def ofTable (t : Table String) : Environment := t.get?

end Environment

namespace Command

/-- Why a command ends without a verdict. -/
inductive Failure where
  | unreadableCatalog (file : String)
  | invalidCatalog (file : String)
  | unreadable (file : String)
  | notJson (file : String)
  | invalidPath (text : String) (error : Path.SyntaxError)
deriving DecidableEq, Repr

def Failure.message : Failure → String
  | unreadableCatalog file => "failed to read message catalog `" ++ file ++ "`"
  | invalidCatalog file => "invalid message catalog `" ++ file ++ "`"
  | unreadable file => "failed to read `" ++ file ++ "`"
  | notJson file => "`" ++ file ++ "` is not valid JSON"
  | invalidPath text error => error.message text

inductive Outcome where
  | done (exit : Nat) (output : String)
  | failed (failure : Failure)
  | refused
deriving DecidableEq, Repr

namespace Outcome

def exit : Outcome → Nat
  | done exit _ => exit
  | failed _ => 1
  | refused => 2

def output : Outcome → String
  | done _ output => output
  | _ => ""

end Outcome

/-- The catalog to use: the built-in one, overridden by a file if one is named. -/
def readCatalog {m : Type → Type} [Monad m] (read : String → m (Option String)) :
    Option String → m (Except Failure Catalog)
  | none => return .ok Catalog.builtin
  | some file => do
    match ← read file with
    | none => return .error (.unreadableCatalog file)
    | some text =>
      match Catalog.parse? text with
      | none => return .error (.invalidCatalog file)
      | some overrides => return .ok (Catalog.builtin.merge overrides)

def readJson {m : Type → Type} [Monad m] (read : String → m (Option String)) (file : String) :
    m (Except Failure Json) := do
  match ← read file with
  | none => return .error (.unreadable file)
  | some text =>
    match Json.parse? text with
    | none => return .error (.notJson file)
    | some v => return .ok v

def exitCode : Except Report Unit → Nat
  | .ok () => 0
  | .error r =>
    match r.domain with
    | .data => 1
    | .schema => 2

def verdictText (asJson : Bool) : Except Report Unit → String
  | .ok () => if asJson then (Json.object [("valid", .bool true)]).compact ++ "\n" else "valid\n"
  | .error r =>
    if asJson then
      (Json.object [("valid", .bool false), ("error", r.toJson)]).indented ++ "\n"
    else
      r.domain.name ++ " error [" ++ r.code.name ++ "] at " ++ r.path.text ++ ": " ++
        r.message ++ "\n"

def segmentLine : Segment → String
  | .key k => "key    " ++ k
  | .index n => "index  " ++ toString n

def pathText (p : Path) : String :=
  lines (p.map segmentLine ++ ["normalized: " ++ p.text])

def answer {m : Type → Type} [Monad m] (env : Environment)
    (read : String → m (Option String)) : Request → m Outcome
  | .help topic => return .done 0 topic.text
  | .version => return .done 0 versionText
  | .path expression =>
    match Path.parse expression with
    | .ok p => return .done 0 (pathText p)
    | .error e => return .failed (.invalidPath expression e)
  | .validate schema input messages asJson => do
    match ← readCatalog read (messages.or env.messagesFile?) with
    | .error f => return .failed f
    | .ok catalog =>
      match ← readJson read schema with
      | .error f => return .failed f
      | .ok schema =>
        match ← readJson read input with
        | .error f => return .failed f
        | .ok input =>
          let verdict := validateWith Pattern.matcher? catalog (Node.ofJson schema) input
          return .done (exitCode verdict) (verdictText asJson verdict)

def run {m : Type → Type} [Monad m] (env : Environment) (read : String → m (Option String))
    (args : List String) : m Outcome :=
  match Request.ofArguments? args with
  | some request => answer env read request
  | none => return .refused

end Command
end Conform
