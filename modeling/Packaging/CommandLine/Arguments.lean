import Packaging.Forge.GitHub
import Packaging.Release.Layout

/-! # Arguments

The first argument names a command, the others are its settings. A setting has a long name and
perhaps a letter; its value follows in the same argument or in the next one. What is not given may
be taken from the environment or from a default. -/

namespace Packaging.CommandLine

/-- What the program is called. -/
def programName : String := "tiledb-pkg"

/-- The variables of the environment. -/
abbrev Environment := String → Option String

/-- What the arguments ask for. -/
inductive Command where
  /-- Print the matrix of a plan. -/
  | matrix (plan : Option String) (api : String) (token : Option String) (pretty : Bool)
  /-- Make the release of a matrix. -/
  | release (matrix : String) (layout : Layout)
  /-- Check a release. -/
  | verify (dir : String)
  deriving DecidableEq

/-- Why the arguments name no command. -/
inductive Stop where
  /-- They ask for the version of the program. -/
  | version
  /-- They ask how the program is used. -/
  | help
  /-- They are not as they should be. -/
  | usage
  deriving DecidableEq

/-! ## Settings -/

/-- What a setting takes. -/
inductive Kind where
  | flag
  | text
  /-- A path, which is not empty. -/
  | path
  deriving DecidableEq

/-- A setting of a command. -/
structure Setting where
  name : String
  letter : Option Char := none
  kind : Kind := .text

/-- The settings that are given, by name; a flag has an empty value. -/
abbrev Given := List (String × String)

/-- The settings with one more value, if it is allowed and the first. -/
def record (s : Setting) (value : String) (given : Given) : Except Stop Given :=
  if (given.lookup s.name).isSome ∨ s.kind = .path ∧ value.isEmpty then .error .usage
  else .ok ((s.name, value) :: given)

/-- Whether an argument can be the value of the setting before it. -/
def isValue (arg : String) : Bool := arg = "-" || arg.toList.head? ≠ some '-'

/-- How an argument is to be understood. -/
inductive Argument where
  /-- A setting with its value. -/
  | complete (s : Setting) (value : String)
  /-- A setting whose value is the next argument. -/
  | open (s : Setting)
  | stop (reason : Stop)

/-- A long name, perhaps with an equals sign and a value. -/
def longArgument (settings : List Setting) (cs : List Char) : Argument :=
  let (name, value) := cs.span (· ≠ '=')
  let name := String.ofList name
  match settings.find? (·.name = name), value with
  | some s, [] => if s.kind = .flag then .complete s "" else .open s
  | some s, _ :: value => if s.kind = .flag then .stop .usage else .complete s (String.ofList value)
  | none, [] => .stop (if name = "help" then .help else .usage)
  | none, _ => .stop .usage

/-- A letter, perhaps with a value, which an equals sign may precede. -/
def shortArgument (settings : List Setting) (letter : Char) (cs : List Char) : Argument :=
  match settings.find? (·.letter = some letter), cs with
  | some s, [] => .open s
  | some s, '=' :: value => .complete s (String.ofList value)
  | some s, value => .complete s (String.ofList value)
  | none, _ => .stop (if letter = 'h' then .help else .usage)

/-- How an argument is to be understood. -/
def argumentOf (settings : List Setting) (arg : String) : Argument :=
  match arg.toList with
  | '-' :: '-' :: cs => longArgument settings cs
  | '-' :: letter :: cs => shortArgument settings letter cs
  | _ => .stop .usage

/-- Reads the settings of a command. -/
def readSettings (settings : List Setting) (given : Given) : List String → Except Stop Given
  | [] => .ok given
  | ["--"] => .ok given
  | arg :: args =>
    match argumentOf settings arg with
    | .stop reason => .error reason
    | .complete s value => do readSettings settings (← record s value given) args
    | .open s =>
      match args with
      | value :: args =>
        if isValue value then do readSettings settings (← record s value given) args
        else .error .usage
      | [] => .error .usage

/-! ## Commands -/

/-- The settings of the command that prints a matrix. -/
def matrixSettings : List Setting :=
  [{ name := "config", letter := 'c', kind := .path }, { name := "api-url" }, { name := "token" },
    { name := "pretty", kind := .flag }]

/-- The settings of the command that makes a release. -/
def releaseSettings : List Setting :=
  [{ name := "matrix" }, { name := "prebuilt-dir", kind := .path },
    { name := "artifacts-dir", kind := .path }, { name := "release-dir", kind := .path },
    { name := "download-url" }]

/-- The settings of the command that checks a release. -/
def verifySettings : List Setting := [{ name := "release-dir", kind := .path }]

/-- The command that prints a matrix. -/
def readMatrixCommand (env : Environment) (args : List String) : Except Stop Command := do
  let given ← readSettings matrixSettings [] args
  return .matrix (given.lookup "config")
    ((given.lookup "api-url" <|> env "GITHUB_API_URL").getD GitHub.defaultApi)
    (given.lookup "token" <|> env "GITHUB_TOKEN") (given.lookup "pretty").isSome

/-- The command that makes a release. -/
def readReleaseCommand (env : Environment) (args : List String) : Except Stop Command := do
  let given ← readSettings releaseSettings [] args
  match given.lookup "matrix" <|> env "RELEASE_MATRIX" with
  | none => throw .usage
  | some matrix =>
    let layout : Layout := {}
    return .release matrix
      { prebuiltDir := (given.lookup "prebuilt-dir").getD layout.prebuiltDir
        artifactsDir := (given.lookup "artifacts-dir").getD layout.artifactsDir
        releaseDir := (given.lookup "release-dir").getD layout.releaseDir
        downloadBase := (given.lookup "download-url").getD layout.downloadBase }

/-- The command that checks a release. -/
def readVerifyCommand (args : List String) : Except Stop Command := do
  let given ← readSettings verifySettings [] args
  let layout : Layout := {}
  return .verify ((given.lookup "release-dir").getD layout.releaseDir)

/-- The names of the commands. -/
def commandNames : List String := ["matrix", "release", "verify", "help"]

/-- Reads the arguments of the program. -/
def readArguments (env : Environment) : List String → Except Stop Command
  | "matrix" :: args => readMatrixCommand env args
  | "release" :: args => readReleaseCommand env args
  | "verify" :: args => readVerifyCommand args
  | ["help"] => .error .help
  | ["help", name] => .error (if commandNames.contains name then .help else .usage)
  | "--help" :: _ => .error .help
  | "--version" :: _ => .error .version
  | arg :: _ =>
    match arg.toList with
    | '-' :: 'V' :: _ => .error .version
    | '-' :: 'h' :: _ => .error .help
    | _ => .error .usage
  | [] => .error .usage

end Packaging.CommandLine
