import Assay.Config.Decode
import Assay.Toml.Parser

/-! Configuration files. A missing file means the standard configuration; a
file that is there must be readable, well-formed and valid. -/
namespace Assay.Config

/-- What is found at the place of a configuration file. -/
inductive File where
  | missing
  | unreadable (reason : String)
  | text (contents : String)

namespace File

/-- A file of bytes, which must be UTF-8 text. -/
def ofBytes (bytes : ByteArray) : File :=
  match String.fromUTF8? bytes with
  | some contents => .text contents
  | none => .unreadable "stream did not contain valid UTF-8"

def directory : File := .unreadable "Is a directory (os error 21)"

end File

inductive LoadError where
  | unreadable (reason : String)
  | malformed
  | undecodable (error : DecodeError)
  | invalid (error : Invalid)
deriving DecidableEq

/-- The message about the file at `path`. -/
def LoadError.message (path : String) : LoadError → String
  | .unreadable reason => "read " ++ path ++ ": " ++ reason
  | .malformed => "parse " ++ path ++ ": TOML parse error"
  | .undecodable error => "parse " ++ path ++ ": TOML parse error: " ++ error.message
  | .invalid error => error.message

/-- The valid configuration of a table. -/
def loadTable (entries : List (String × Toml)) : Except LoadError Config := do
  let config ← (ofTable entries).mapError .undecodable
  config.validated.mapError .invalid

def load : File → Except LoadError Config
  | .missing => .ok standard
  | .unreadable reason => .error (.unreadable reason)
  | .text contents =>
    match Toml.parse? contents with
    | some entries => loadTable entries
    | none => .error .malformed

/-- The array of names, as TOML. -/
def suitesText (suites : List Suite) : String :=
  "[" ++ ", ".intercalate (suites.map fun suite => "\"" ++ suite.tag ++ "\"") ++ "]"

/-- The configuration as a TOML file. -/
def toToml (config : Config) : String :=
  "suites = " ++ suitesText config.suites ++ "\nfail_fast = " ++
    (if config.failFast then "true" else "false") ++ "\n"

end Assay.Config
