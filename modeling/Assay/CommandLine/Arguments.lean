import Assay.Suite.Basic
import Assay.Text.Terminal

/-! The words of the command line. A command comes first. After `run`, options
may stand between the suites, `--` ends the options, and an option that takes a
value has it after an equals sign or as the next word. An argument is checked
when it is complete, that is when the next option of the command, another
argument, or the end of the line is reached; an option that the command does not
have is reported at once. -/
namespace Assay.CommandLine

inductive Page where
  | program
  | list
  | run
  | help
deriving DecidableEq

inductive UsageError where
  | invalidSuite (value : String)
  | missingValue (argument : String)
  | unexpectedArgument (argument : String)
  | unknownCommand (word : String)
  | repeatedArgument (argument : String)
  | unexpectedValue (value argument : String)
deriving DecidableEq

def suitesArgument : String := "[SUITES]..."

def configArgument : String := "--config <CONFIG>"

/-- The words of the line are quoted without the control sequences of
terminals. -/
def UsageError.message : UsageError → String
  | .invalidSuite value =>
    "error: invalid value '" ++ Text.plain value ++ "' for '" ++ suitesArgument ++ "'"
  | .missingValue argument =>
    "error: a value is required for '" ++ argument ++ "' but none was supplied"
  | .unexpectedArgument argument =>
    "error: unexpected argument '" ++ Text.plain argument ++ "' found"
  | .unknownCommand word => "error: unrecognized subcommand '" ++ Text.plain word ++ "'"
  | .repeatedArgument argument =>
    "error: the argument '" ++ argument ++ "' cannot be used multiple times"
  | .unexpectedValue value argument =>
    "error: unexpected value '" ++ Text.plain value ++ "' for '" ++ argument ++
      "' found; no more were expected"

structure RunOptions where
  suites : List Suite
  configPath : String
  failFast : Bool
  json : Bool
deriving DecidableEq

inductive Command where
  | list
  | run (options : RunOptions)
deriving DecidableEq

/-- Why there is no command to carry out. -/
inductive Stop where
  | help (page : Page)
  | version
  | noCommand
  | misuse (error : UsageError)
deriving DecidableEq

/-- The kinds of words. -/
inductive Word where
  | endOfOptions
  | long (name : String) (value : Option String)
  | short (flags : List Char)
  | plain (text : String)
deriving DecidableEq

def Word.ofText (text : String) : Word :=
  match text.toList with
  | ['-', '-'] => .endOfOptions
  | '-' :: '-' :: body =>
    let name := String.ofList (body.takeWhile (· ≠ '='))
    match body.dropWhile (· ≠ '=') with
    | [] => .long name none
    | _ :: value => .long name (some (String.ofList value))
  | '-' :: c :: flags => .short (c :: flags)
  | _ => .plain text

def misuse {α : Type} (error : UsageError) : Except Stop α := .error (.misuse error)

/-- An argument of `run` that has begun but has not been checked. -/
inductive Pending where
  | nothing
  | config (value : Option String)
  | suites (words : List String)
deriving DecidableEq

/-- The arguments of `run` as far as they have been read. -/
structure Progress where
  suites : List Suite
  configPath : Option String
  failFast : Bool
  json : Bool
  pending : Pending
  optionsEnded : Bool
deriving DecidableEq

namespace Progress

def start : Progress := ⟨[], none, false, false, .nothing, false⟩

def suite (word : String) : Except Stop Suite :=
  match Suite.select? false word with
  | some suite => .ok suite
  | none => misuse (if word = "" then .missingValue suitesArgument else .invalidSuite word)

def setConfig (progress : Progress) (value : String) : Except Stop Progress :=
  if progress.configPath.isSome then misuse (.repeatedArgument configArgument)
  else if value = "" then misuse (.missingValue configArgument)
  else .ok { progress with configPath := some value }

/-- Checks the pending argument. -/
def settle (progress : Progress) : Except Stop Progress :=
  match progress.pending with
  | .nothing => .ok progress
  | .config none => misuse (.missingValue configArgument)
  | .config (some value) => setConfig { progress with pending := .nothing } value
  | .suites words => do
    let suites ← words.mapM suite
    return { progress with suites := progress.suites ++ suites, pending := .nothing }

/-- A suite, or another one of a row. -/
def positional (progress : Progress) (word : String) : Except Stop Progress :=
  match progress.pending with
  | .suites words => .ok { progress with pending := .suites (words ++ [word]) }
  | _ => do return { ← progress.settle with pending := .suites [word] }

/-- An option that is there or not. -/
def setFlag (progress : Progress) (argument : String) (value : Option String) (given : Bool)
    (set : Progress → Progress) : Except Stop Progress :=
  match value with
  | some value => misuse (.unexpectedValue value argument)
  | none => do
    let progress ← progress.settle
    if given then misuse (.repeatedArgument argument) else return set progress

def long (progress : Progress) (name : String) (value : Option String) : Except Stop Progress :=
  if name = "config" then do
    let progress ← progress.settle
    match value with
    | some value => progress.setConfig value
    | none => return { progress with pending := .config none }
  else if name = "fail-fast" then
    progress.setFlag "--fail-fast" value progress.failFast fun p => { p with failFast := true }
  else if name = "json" then
    progress.setFlag "--json" value progress.json fun p => { p with json := true }
  else if name = "help" then
    match value with
    | some value => misuse (.unexpectedValue value "--help")
    | none => do
      let _ ← progress.settle
      .error (.help .run)
  else misuse (.unexpectedArgument ("--" ++ name))

def short (progress : Progress) : List Char → Except Stop Progress
  | 'h' :: _ => do
    let _ ← progress.settle
    .error (.help .run)
  | c :: _ => misuse (.unexpectedArgument (String.ofList ['-', c]))
  | [] => .ok progress

def step (progress : Progress) (text : String) : Except Stop Progress :=
  if progress.optionsEnded then progress.positional text
  else
    match Word.ofText text with
    | .endOfOptions => .ok { progress with optionsEnded := true }
    | .long name value => progress.long name value
    | .short flags => progress.short flags
    | .plain word =>
      match progress.pending with
      | .config none => .ok { progress with pending := .config (some word) }
      | _ => progress.positional word

def options (progress : Progress) : RunOptions where
  suites := progress.suites
  configPath := progress.configPath.getD "selfcheck.toml"
  failFast := progress.failFast
  json := progress.json

end Progress

def parseRun (words : List String) : Except Stop Command := do
  let progress ← words.foldlM Progress.step Progress.start
  return .run (← progress.settle).options

/-- The command `list` takes nothing but a request for help. -/
def parseList : List String → Except Stop Command
  | [] => .ok .list
  | word :: rest =>
    match Word.ofText word with
    | .endOfOptions =>
      match rest with
      | [] => .ok .list
      | extra :: _ => misuse (.unexpectedArgument extra)
    | .long name value =>
      if name = "help" then
        match value with
        | some value => misuse (.unexpectedValue value "--help")
        | none => .error (.help .list)
      else misuse (.unexpectedArgument ("--" ++ name))
    | .short ('h' :: _) => .error (.help .list)
    | .short flags => misuse (.unexpectedArgument (String.ofList ('-' :: flags.take 1)))
    | .plain word => misuse (.unexpectedArgument word)

/-- The help page that the words after `help` name. -/
def parseHelp : List String → Stop
  | [] => .help .program
  | word :: rest =>
    let page? : Option Page :=
      if word = "list" then some .list
      else if word = "run" then some .run
      else if word = "help" then some .help
      else none
    match page?, rest with
    | none, _ => .misuse (.unknownCommand word)
    | some page, [] => .help page
    | some _, extra :: _ => .misuse (.unknownCommand extra)

/-- The command of a whole line. -/
def parse : List String → Except Stop Command
  | [] => .error .noCommand
  | word :: rest =>
    match Word.ofText word with
    | .endOfOptions =>
      match rest with
      | [] => .error .noCommand
      | next :: _ =>
        if next = "list" ∨ next = "run" ∨ next = "help" then misuse (.unexpectedArgument next)
        else misuse (.unknownCommand next)
    | .long name value =>
      if name = "help" ∨ name = "version" then
        match value with
        | some value => misuse (.unexpectedValue value ("--" ++ name))
        | none => .error (if name = "help" then .help .program else .version)
      else misuse (.unexpectedArgument ("--" ++ name))
    | .short ('h' :: _) => .error (.help .program)
    | .short ('V' :: _) => .error .version
    | .short flags => misuse (.unexpectedArgument (String.ofList ('-' :: flags.take 1)))
    | .plain word =>
      if word = "list" then parseList rest
      else if word = "run" then parseRun rest
      else if word = "help" then .error (parseHelp rest)
      else misuse (.unknownCommand word)

end Assay.CommandLine
