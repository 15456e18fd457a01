import Assay.Suite.Basic

/-! What to run: a list of suites and whether to stop at the first failure. A
valid list is not empty and names no suite twice. -/
namespace Assay

structure Config where
  suites : List Suite
  failFast : Bool
deriving DecidableEq

namespace Config

/-- Every suite, to the end. -/
def standard : Config := ⟨Suite.all, false⟩

inductive Invalid where
  | noSuites
  | repeated (suite : Suite)
deriving DecidableEq

def Invalid.message : Invalid → String
  | .noSuites => "suites must be a non-empty array"
  | .repeated suite => "suite `" ++ suite.name ++ "` listed more than once"

/-- The first suite that occurred before, given the ones already seen. -/
def firstRepeat? (seen : List Suite) : List Suite → Option Suite
  | [] => none
  | suite :: rest => if suite ∈ seen then some suite else firstRepeat? (suite :: seen) rest

def validate (config : Config) : Except Invalid Unit :=
  match config.suites with
  | [] => .error .noSuites
  | suites =>
    match firstRepeat? [] suites with
    | some suite => .error (.repeated suite)
    | none => .ok ()

/-- A valid configuration as it is. -/
def validated (config : Config) : Except Invalid Config := config.validate.map fun () => config

/-- Suites that are named replace the list; failing fast can only be turned on. -/
def override (base : Config) (suites : List Suite) (failFast : Bool) : Except Invalid Config :=
  validated
    { suites := if suites = [] then base.suites else suites
      failFast := base.failFast || failFast }

end Config

end Assay
