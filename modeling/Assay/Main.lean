import Assay.CommandLine.Execute

/-! The self-check program: reads the configuration file and prints the result
of the command. -/
namespace Assay

/-- What stands at the path on the disk. A path that leads through a file leads
nowhere. -/
def configFileAt (path : String) : IO Config.File := do
  try
    return .ofBytes (← IO.FS.readBinFile path)
  catch
    | .noFileOrDirectory .. => return .missing
    | .inappropriateType _ _ details =>
      return if details = "Is a directory" then .directory else .missing
    | error => return .unreadable (toString error)

end Assay

open Assay in
def main (words : List String) : IO UInt32 := do
  let file ← match CommandLine.parse words with
    | .ok (.run options) => configFileAt options.configPath
    | _ => pure .missing
  let result := CommandLine.program (fun _ => file) words
  IO.print result.output
  IO.eprint result.errors
  return result.code.toUInt32
