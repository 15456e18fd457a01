import Assay.CommandLine.Arguments

/-! Help pages. -/
namespace Assay.CommandLine

def Page.lines : Page → List String
  | .program =>
    ["Behavioral self-check for the toolkit utilities",
      "",
      "Usage: selfcheck <COMMAND>",
      "",
      "Commands:",
      "  list  Print the available suites",
      "  run   Run suites (all configured suites when none are named)",
      "  help  Print this message or the help of the given subcommand(s)",
      "",
      "Options:",
      "  -h, --help     Print help",
      "  -V, --version  Print version"]
  | .list =>
    ["Print the available suites",
      "",
      "Usage: selfcheck list",
      "",
      "Options:",
      "  -h, --help  Print help"]
  | .run =>
    ["Run suites (all configured suites when none are named)",
      "",
      "Usage: selfcheck run [OPTIONS] [SUITES]...",
      "",
      "Arguments:",
      "  [SUITES]...  Suites to run, in order [possible values: arithmetic, statistics, records]",
      "",
      "Options:",
      "      --config <CONFIG>  Config file; a missing file means defaults [default: selfcheck.toml]",
      "      --fail-fast        Stop at the first failing check",
      "      --json             Print the report as JSON",
      "  -h, --help             Print help"]
  | .help =>
    ["Print this message or the help of the given subcommand(s)",
      "",
      "Usage: selfcheck help [COMMAND]...",
      "",
      "Arguments:",
      "  [COMMAND]...  Print help for the subcommand(s)"]

def Page.text (page : Page) : String := "\n".intercalate page.lines ++ "\n"

def versionText : String := "selfcheck 0.1.0\n"

end Assay.CommandLine
