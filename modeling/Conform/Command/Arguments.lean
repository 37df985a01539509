/-! # Command-line arguments

The command `validate` takes options, in any order and each at most once; `path`
takes one expression.  Arguments are read from left to right, and the first one
that asks for help, or that cannot be accepted, decides.
-/
namespace Conform.Command

inductive Topic where
  | program
  | validate
  | path
  | help
deriving DecidableEq, Repr

inductive Request where
  | validate (schema input : String) (messages : Option String) (asJson : Bool)
  | path (expression : String)
  | help (topic : Topic)
  | version
deriving DecidableEq, Repr

/-- Options of `validate` as far as they have been read. -/
structure Options where
  schema : Option String := none
  input : Option String := none
  messages : Option String := none
  asJson : Bool := false
deriving DecidableEq, Repr

namespace Options

/-- Give a value to an option; a repeated or unknown option and an empty value
are refused. -/
def assign? (o : Options) (name value : String) : Option Options :=
  if value = "" then none
  else if name = "--schema" ∧ o.schema = none then some { o with schema := some value }
  else if name = "--input" ∧ o.input = none then some { o with input := some value }
  else if name = "--messages" ∧ o.messages = none then some { o with messages := some value }
  else none

def request? (o : Options) : Option Request := do
  let schema ← o.schema
  let input ← o.input
  return .validate schema input o.messages o.asJson

end Options

def isFlag (arg : String) : Bool :=
  match arg.toList with
  | '-' :: _ :: _ => true
  | _ => false

/-- The flags that show help; letters after the first do not matter. -/
def asksHelp (arg : String) : Bool :=
  match arg.toList with
  | '-' :: 'h' :: _ => true
  | _ => arg = "--help"

def asksVersion (arg : String) : Bool :=
  match arg.toList with
  | '-' :: 'V' :: _ => true
  | _ => arg = "--version"

def splitOption? (arg : String) : Option (String × String) :=
  match arg.toList.span (· ≠ '=') with
  | (name, _ :: value) => some (String.ofList name, String.ofList value)
  | (_, []) => none

def readValidate (o : Options) : List String → Option Request
  | [] => o.request?
  | arg :: rest =>
    if asksHelp arg then some (.help .validate)
    else if arg = "--" then if rest.isEmpty then o.request? else none
    else if arg = "--json" then
      if o.asJson then none else readValidate { o with asJson := true } rest
    else
      match splitOption? arg with
      | some (name, value) => (o.assign? name value).bind fun o => readValidate o rest
      | none =>
        match rest with
        | value :: rest =>
          if isFlag value then none
          else (o.assign? arg value).bind fun o => readValidate o rest
        | [] => none

def readPath (expression : Option String) : List String → Option Request
  | [] => expression.map .path
  | arg :: rest =>
    if asksHelp arg then some (.help .path)
    else if arg = "--" then
      match expression, rest with
      | some e, [] => some (.path e)
      | none, [e] => some (.path e)
      | _, _ => none
    else if isFlag arg || expression.isSome then none
    else readPath (some arg) rest

/-- The page that `help` shows for the names after it. -/
def readHelp : List String → Option Request
  | [] => some (.help .program)
  | ["validate"] => some (.help .validate)
  | ["path"] => some (.help .path)
  | ["help"] => some (.help .help)
  | _ => none

/-- What the arguments ask for, unless they are refused. -/
def Request.ofArguments? : List String → Option Request
  | [] => none
  | arg :: rest =>
    if asksHelp arg then some (.help .program)
    else if asksVersion arg then some .version
    else if arg = "validate" then readValidate {} rest
    else if arg = "path" then readPath none rest
    else if arg = "help" then readHelp rest
    else none

end Conform.Command
