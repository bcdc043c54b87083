/-!
# Usage of the command line

Why a command line is not run: it is not understood, or it asks for help or for the version.
-/

namespace Snowbridge.CommandLine

/-- The reason that a command line is not run. Options are named as their usage shows them. -/
inductive UsageError where
  | help
  | nothingGiven
  | version
  | missingCommand
  | unknownCommand (name : String)
  | unknownArgument (argument : String)
  | missingArguments (arguments : List String)
  | missingValue (option : String)
  | invalidChoice (option value : String)
  | repeated (option : String)
  | unwantedValue (option value : String)
  | invalidValue (option value reason : String)

/-- Why the value of an option is refused. -/
inductive ValueFault where
  | notAChoice
  | malformed (reason : String)

namespace UsageError

/-- How the commands are called. -/
def summary : String :=
  "Usage: sb [-v] [-p DIRECTORY] [-c FILE] dsn [--header NAME=VALUE]... [--query NAME=VALUE]... " ++
    "[--json]\n       sb [-v] filter FILTER --column NAME:TYPE... [--dialect snowflake|duckdb] " ++
    "[--param NAME=VALUE]..."

/-- Help and the version were asked for; anything else is a fault. -/
def isFault : UsageError → Bool
  | help => false
  | version => false
  | _ => true

/-- The text for an operator. -/
def message : UsageError → String
  | help => summary
  | nothingGiven => summary
  | version => "sb 0.1.0"
  | missingCommand => "error: 'sb' requires a subcommand but one was not provided"
  | unknownCommand name => "error: unrecognized subcommand '" ++ name ++ "'"
  | unknownArgument argument => "error: unexpected argument '" ++ argument ++ "' found"
  | missingArguments arguments =>
    "error: the following required arguments were not provided:\n  " ++
      String.intercalate "\n  " arguments
  | missingValue option =>
    "error: a value is required for '" ++ option ++ "' but none was supplied"
  | invalidChoice option value => "error: invalid value '" ++ value ++ "' for '" ++ option ++ "'"
  | repeated option => "error: the argument '" ++ option ++ "' cannot be used multiple times"
  | unwantedValue option value =>
    "error: unexpected value '" ++ value ++ "' for '" ++ option ++ "' found; no more were expected"
  | invalidValue option value reason =>
    "error: invalid value '" ++ value ++ "' for '" ++ option ++ "': " ++ reason

end UsageError

end Snowbridge.CommandLine
