/-!
# How to use the command
-/

namespace HtmlNesting.Command

/-- The lines on how to call the command. -/
def usage : List String := [
  "usage: nestlint [-h] [--workers WORKERS] [--config CONFIG] [--disable CODE]",
  "                [--export EXPORT] [--list-codes] [--log-level LOG_LEVEL]",
  "                [paths ...]"]

/-- The lines that `--help` prints. -/
def helpLines : List String := usage ++ [
  "",
  "Checks HTML documents against the element nesting (content model) rules.",
  "",
  "positional arguments:",
  "  paths                 HTML files or directories to lint.",
  "",
  "options:",
  "  -h, --help            show this help message and exit",
  "  --workers WORKERS     Worker processes (default: lint.workers).",
  "  --config CONFIG       Path to a .nestlintrc JSON file.",
  "  --disable CODE        Disable a diagnostic code (repeatable).",
  "  --export EXPORT       Write all diagnostics to a CSV file.",
  "  --list-codes          Print every diagnostic code and exit.",
  "  --log-level LOG_LEVEL",
  "                        Logging level (default: debug.level)."]

end HtmlNesting.Command
