import Packaging.CommandLine.Arguments
import Packaging.CommandLine.MessageFilter
import Packaging.Matrix
import Packaging.Release.Assembly
import Packaging.Release.Report
import Packaging.Wire.PlanFile

/-! # Running a command

A run ends with an exit code, with what is printed, and perhaps with an error. What it did to files,
what it logged and what it asked of the network is kept also when it fails. -/

namespace Packaging.CommandLine

/-- What a run leaves behind. -/
structure Outcome where
  exit : Nat := 0
  /-- What is printed. -/
  output : String := ""
  /-- The outermost message of the error. -/
  error : Option String := none
  log : List Message := []
  requests : List Http.Request := []
  files : FileSystem

namespace Outcome

/-- The line that reports the error. -/
def errorLine? (o : Outcome) : Option String :=
  o.error.map fun message =>
    "Error: " ++ String.ofList (message.toList.takeWhile (· ≠ '\n'))

/-- The run that fails with an error. -/
def fail (o : Outcome) (message : String) : Outcome := { o with exit := 1, error := some message }

end Outcome

/-- What is printed of a matrix: its JSON text, on a line of its own or over several lines. -/
def matrixOutput (pretty : Bool) (builds : List Build) : String :=
  let json := matrixToJson builds
  (if pretty then json.pretty else json.compact) ++ "\n"

/-- Makes the matrix of a plan and prints it. -/
def runMatrix (transport : Http.Transport) (files : FileSystem) (path : Option String)
    (api : String) (token : Option String) (pretty : Bool) : Outcome :=
  let o : Outcome := { files }
  let plan := match path with
    | some path => (Plan.load files path).mapError fun _ => "failed to load " ++ path
    | none => .ok defaultPlan
  match plan with
  | .error message => o.fail message
  | .ok plan =>
    match GitHub.Client.ofToken token with
    | .error e => o.fail e.message
    | .ok client =>
      let forge := GitHub.forge transport client api plan
      let (result, journal) := (plan.generate forge) {}
      let first : Message := ⟨.matrixCommand, "querying " ++ forge.key⟩
      let log := first :: journal.log.map (⟨.matrix, ·⟩)
      let o := { o with log, requests := journal.requests }
      match result with
      | .error _ => o.fail "failed to generate build matrix"
      | .ok builds => { o with output := matrixOutput pretty builds }

/-- Makes the release of a matrix. -/
def runRelease (files : FileSystem) (matrix : String) (layout : Layout) : Outcome :=
  match readMatrix matrix with
  | .error _ => Outcome.fail { files } "failed to parse RELEASE_MATRIX"
  | .ok builds =>
    let first : Message :=
      ⟨.releaseCommand, s!"assembling {builds.length} configurations into " ++ layout.releaseDir⟩
    let (result, w) := (layout.assemble builds) { files }
    let o : Outcome := { files := w.files, log := first :: w.log.map (⟨.release, ·⟩) }
    match result with
    | .error _ => o.fail "failed to assemble release"
    | .ok s =>
      let last := s!"{s.prebuilt} prebuilt, {s.built} built, manifest {s.manifest} (" ++
        s.digest.text ++ ")"
      { o with log := o.log ++ [⟨.releaseCommand, last⟩] }

/-- The line that is printed for a file. -/
def statusLine (path : String) (status : Status) : String :=
  let name := (Path.fileName? path).getD path
  match status with
  | .ok => "  ok " ++ name ++ "\n"
  | .missing => "  missing " ++ name ++ "\n"
  | .differs expected actual =>
    "  mismatch " ++ name ++ ": expected " ++ expected.text ++ ", got " ++ actual.text ++ "\n"

/-- Checks a release and prints a line for each file. -/
def runVerify (files : FileSystem) (dir : String) : Outcome :=
  let (result, w) := (checkRelease dir) { files }
  let o : Outcome := { files := w.files }
  match result with
  | .error _ => o.fail ("failed to verify " ++ dir)
  | .ok report =>
    let lines := String.join (report.entries.map fun (path, status) => statusLine path status)
    let failed := report.failures.length
    let total := report.entries.length
    if failed = 0 then { o with output := lines ++ s!"  {total} files verified\n" }
    else { o with output := lines }.fail s!"{failed} of {total} files failed verification"

/-- Runs a command. -/
def Command.run (transport : Http.Transport) (files : FileSystem) : Command → Outcome
  | .matrix plan api token pretty => runMatrix transport files plan api token pretty
  | .release text layout => runRelease files text layout
  | .verify dir => runVerify files dir

/-- The text that tells how the program is used. -/
def usageText : String :=
  "Usage: " ++ programName ++ " <matrix|release|verify> [options]\n"

/-- What happens without a command. -/
def Stop.outcome (files : FileSystem) : Stop → Outcome
  | .version => { files, output := programName ++ " " ++ GitHub.version ++ "\n" }
  | .help => { files, output := usageText }
  | .usage => { files, exit := 2 }

/-- The variable of the environment that says which messages are shown. -/
def filterVariable : String := "RUST_LOG"

/-- Runs the program. -/
def run (transport : Http.Transport) (env : Environment) (files : FileSystem)
    (args : List String) : Outcome :=
  match readArguments env args with
  | .error stop => stop.outcome files
  | .ok command =>
    let o := command.run transport files
    { o with log := o.log.filter (MessageFilter.ofSetting (env filterVariable)).shows }

end Packaging.CommandLine
