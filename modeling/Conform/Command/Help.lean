import Conform.Command.Arguments

/-! # Help pages -/
namespace Conform.Command

def programName : String := "schemaguard"

def versionText : String := programName ++ " 0.1.0\n"

def lines (ls : List String) : String := String.join (ls.map fun l => l ++ "\n")

def Topic.text : Topic → String
  | program => lines [
      "Schema-driven JSON validator",
      "",
      "Usage: " ++ programName ++ " <COMMAND>",
      "",
      "Commands:",
      "  validate  Validate an input document against a schema",
      "  path      Parse a path expression and print its segments",
      "  help      Print this message or the help of the given subcommand(s)",
      "",
      "Options:",
      "  -h, --help     Print help",
      "  -V, --version  Print version"]
  | validate => lines [
      "Validate an input document against a schema",
      "",
      "Usage: " ++ programName ++ " validate [OPTIONS] --schema <SCHEMA> --input <INPUT>",
      "",
      "Options:",
      "      --schema <SCHEMA>      ",
      "      --input <INPUT>        ",
      "      --messages <MESSAGES>  JSON message catalog merged over the built-in templates",
      "      --json                 Print the failure as JSON",
      "  -h, --help                 Print help"]
  | path => lines [
      "Parse a path expression and print its segments",
      "",
      "Usage: " ++ programName ++ " path <EXPRESSION>",
      "",
      "Arguments:",
      "  <EXPRESSION>  ",
      "",
      "Options:",
      "  -h, --help  Print help"]
  | help => lines [
      "Print this message or the help of the given subcommand(s)",
      "",
      "Usage: " ++ programName ++ " help [COMMAND]...",
      "",
      "Arguments:",
      "  [COMMAND]...  Print help for the subcommand(s)"]

end Conform.Command
