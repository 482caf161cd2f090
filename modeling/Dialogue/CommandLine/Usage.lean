/-!
# Texts about the command line

What `--help` and `--version` write, and what is written when arguments cannot
be understood.
-/

namespace Dialogue.CommandLine

/-- The name of the command. -/
def commandName : String := "aimlite"

/-- The usage of the command. -/
def usageLine : String := "Usage: " ++ commandName ++ " [OPTIONS] [INPUT]..."

/-- The lines that `--help` writes. -/
def helpLines : List String := [
  "Answer questions from rule-based conversation markup",
  "",
  usageLine,
  "",
  "Arguments:",
  "  [INPUT]...  Question to answer; reads one question per line from stdin when omitted",
  "",
  "Options:",
  "      --config <FILE>     Configuration file (default: aimlite.toml in the working directory)",
  "  -f, --file <FILE>       Rule source to load; repeat to load several, in order",
  "      --bot <NAME=VALUE>  Bot attribute, e.g. --bot name=Ada",
  "      --session <FILE>    Session snapshot to restore before and save after answering",
  "      --seed <SEED>       Seed for <random>",
  "  -v, --verbose           Print a trace of every turn and enable info logging",
  "      --color             Force ANSI color output",
  "      --no-color          Disable ANSI color output",
  "  -h, --help              Print help",
  "  -V, --version           Print version",
  "",
  "Exit codes:",
  "  0  Success.",
  "  1  Runtime error (unreadable or malformed rule source, session file).",
  "  2  Invalid arguments or configuration."]

/-- What `--help` writes. -/
def helpText : String := String.join (helpLines.map (· ++ "\n"))

/-- What `--version` writes. -/
def versionText : String := commandName ++ " 0.1.0\n"

/-- What is written when arguments cannot be understood. -/
def misuseText : String :=
  "error: invalid arguments\n\n" ++ usageLine ++ "\n\nFor more information, try '--help'.\n"

end Dialogue.CommandLine
