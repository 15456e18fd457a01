import Assay.CommandLine.Help
import Assay.Config.File
import Assay.Plan
import Assay.Report.Json
import Assay.Report.Text

/-! Carrying out a command. The exit code is 0 when all is well, 1 when a check
failed, and 2 when the arguments or the configuration are at fault; in the last
case nothing is printed but the fault. -/
namespace Assay.CommandLine

/-- What a finished program leaves behind. -/
structure Result where
  code : Nat
  output : String
  errors : String
deriving DecidableEq

/-- A line for every suite with the number of its checks. -/
def listText : String :=
  String.join <| Suite.all.map fun suite =>
    suite.name ++ "\t" ++ Decimal.intString suite.checks.length ++ " checks\n"

/-- The configuration of a run: the file's, with what the arguments override. -/
def configure (file : Config.File) (options : RunOptions) : Except Config.LoadError Config := do
  let config ← Config.load file
  (config.override options.suites options.failFast).mapError .invalid

def printed (json : Bool) (report : Report) : String :=
  if json then report.prettyJson ++ "\n" else report.text

/-- The exit code of a finished run. -/
def exitCode (report : Report) : Nat := if report.passed then 0 else 1

def runSuites (file : Config.File) (options : RunOptions) : Result :=
  match configure file options with
  | .error error => ⟨2, "", error.message options.configPath ++ "\n"⟩
  | .ok config =>
    let report := (Plan.ofSuites config.suites).run config.failFast
    ⟨exitCode report, printed options.json report, ""⟩

/-- Carries out the command; `fileAt` finds configuration files. -/
def Command.execute (fileAt : String → Config.File) : Command → Result
  | .list => ⟨0, listText, ""⟩
  | .run options => runSuites (fileAt options.configPath) options

def Stop.result : Stop → Result
  | .help page => ⟨0, page.text, ""⟩
  | .version => ⟨0, versionText, ""⟩
  | .noCommand => ⟨2, "", Page.program.text⟩
  | .misuse error => ⟨2, "", error.message ++ "\n"⟩

/-- The whole program. -/
def program (fileAt : String → Config.File) (words : List String) : Result :=
  match parse words with
  | .ok command => command.execute fileAt
  | .error stop => stop.result

end Assay.CommandLine
