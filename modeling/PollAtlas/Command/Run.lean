import PollAtlas.Boundary.Drawing
import PollAtlas.Boundary.GeoJson
import PollAtlas.Command.Arguments
import PollAtlas.Election.Master
import PollAtlas.Json.Printer
import PollAtlas.Panel.Loader
import PollAtlas.Panel.Selection
import PollAtlas.Poll.Detail
import PollAtlas.Poll.Feed
import PollAtlas.Poll.Latest
import PollAtlas.Region.Canonical
import PollAtlas.Service.Endpoint

/-!
# Running a command

What a command answers, given the settings and the files that it can see. A command
writes at most one file, and prints its answer only when that has been written.

* `run`: the answer of a command line.
* `Action.inputs`: the files that a command may read.
* `Failure.text`: the line for a command that failed.
-/

namespace PollAtlas.Command

open PollAtlas.Service (RequestError)

/-- What a command can see. -/
structure World where
  /-- The settings of its surroundings. -/
  setting? : String → Option String
  /-- The text of a file, if there is a file with a text in it. -/
  file? : String → Option String

/-- Why a command failed. -/
inductive Failure where
  /-- A file cannot be read or written. -/
  | file (path : String)
  /-- The file of the boundaries cannot be read. -/
  | boundariesFile (path : String)
  | json (path : String)
  | boundaries (error : Boundary.LoadError)
  | request (error : RequestError)
  /-- The elections of a region were not loaded. -/
  | elections (message : String)
  | blankRegion

/-- The answer of a command. -/
structure Report where
  /-- The file to be written, and its text. -/
  document : Option (String × String)
  answer : Json

/-! ## Inputs -/

/-- A world of settings and files that are known by name. -/
def World.ofLists (settings files : List (String × String)) : World :=
  ⟨fun name => settings.lookup name, fun path => files.lookup path⟩

/-- Where the boundaries of a projection are. -/
def boundariesLocation (setting? : String → Option String) (options : ProjectOptions) :
    String :=
  Service.setting options.geojson (setting? Service.boundariesVariable)
    Service.defaultBoundaries

/-- The files that a command may read. -/
def Action.inputs (setting? : String → Option String) : Action → List String
  | .normalize _ => []
  | .project options =>
    let location := boundariesLocation setting? options
    (if Service.isRemote location then [] else [location]) ++ options.polls.toList
  | .latest options => options.polls.toList
  | .elections options => options.file.toList
  | .master path => [path]

/-- The text of a file. -/
def World.read (world : World) (path : String) : Except Failure String :=
  (world.file? path).elim (.error (.file path)) .ok

/-- The boundaries at a place. -/
def loadBoundaries (world : World) (location : String) :
    Except Failure (List (Boundary.Feature Double)) := do
  let text ←
    if Service.isRemote location then
      (Service.fetch (Service.addressOf location)).mapError Failure.request
    else (world.file? location).elim (.error (.boundariesFile location)) .ok
  (Boundary.loadFeatures text).mapError .boundaries

/-- The observations of a file. -/
def observationsOfFile (world : World) (path : String) :
    Except Failure (List Poll.Observation) := do
  match Poll.observationsOfText? (← world.read path) with
  | some observations => return observations
  | none => .error (.json path)

/-- The observations of a file, or those of the service. -/
def loadObservations (world : World) (base : String) (path : Option String)
    (limit : Option Nat) : Except Failure (List Poll.Observation) :=
  match path with
  | some path => observationsOfFile world path
  | none => do
    let text ← (Service.fetch (Service.mapLatest base limit)).mapError Failure.request
    match Poll.observationsOfText? text with
    | some observations => return observations
    | none => .error (.json base)

/-- The elections of a file. -/
def electionsOfFile (world : World) (path : String) :
    Except Failure (List Election.Candidacy) := do
  match Json.read? (← world.read path) with
  | some body => return Election.Candidacy.ofFeed body
  | none => .error (.json path)

/-- The elections of a file, or those of a region at the service. -/
def loadElections (world : World) (base regionCode : String) (options : ElectionsOptions) :
    Except Failure (List Election.Candidacy) :=
  match options.file with
  | some path => electionsOfFile world path
  | none => do
    let url := Service.regionElections base regionCode options.topology options.versionId
    let text ← (Service.fetch url).mapError Failure.request
    match Json.read? text with
    | some body => return Election.Candidacy.ofFeed body
    | none => .error (.json base)

/-! ## Failures -/

namespace Failure

/-- What is said of a file that is not there. -/
def noFileReason : String := "No such file or directory"

/-- A failure in one sentence. -/
def message : Failure → String
  | file _ => noFileReason ++ " (os error 2)"
  | boundariesFile _ => "I/O error: " ++ noFileReason ++ " (os error 2)"
  | json path => "cannot decode " ++ path
  | boundaries error => error.message
  | request error => error.message
  | elections message => message
  | blankRegion => "region code must not be empty"

/-- A file that is not there, as diagnostics show it. -/
def noFileDiagnostic : String :=
  "Os \x7b code: 2, kind: NotFound, message: " ++ Text.quoted noFileReason ++ " \x7d"

/-- A failure as diagnostics show it. -/
def diagnostic : Failure → String
  | file _ => noFileDiagnostic
  | boundariesFile _ => "Io(" ++ noFileDiagnostic ++ ")"
  | boundaries error => error.diagnostic
  | request error => error.diagnostic
  | failure => Text.quoted failure.message

/-- The line for a command that failed. -/
def text (failure : Failure) : String := "Error: " ++ failure.diagnostic

end Failure

/-! ## Commands -/

/-- Every form of a region code. -/
def normalizeAnswer (code : String) : Json :=
  let digits := Region.provinceDigits? code
  .object [("prefix", .ofOption digits), ("map_code", .ofOption (Region.mapCode? code)),
    ("api_code", .ofOption (Region.apiCode? code)),
    ("sido_name", .ofOption (digits.bind Region.provinceName?)),
    ("param", (Region.Param.ofText (some code)).toJson),
    ("canonical", (Region.Canonical.ofText code).toJson)]

/-- How a region is drawn: the shown one stands out, and so do those with an
observation. -/
def styleOf (selection : Panel.Selection) (index : Poll.Latest)
    (f : Boundary.Feature Double) : Boundary.Style :=
  if selection.isActive f.regionCode then .active
  else if (index.lookup? f.regionCode).isSome then .withData
  else .noData

/-- The drawing of a projection. -/
def drawingOf (world : World) (options : ProjectOptions)
    (features : List (Boundary.Feature Double)) : Except Failure String := do
  let observations ←
    match options.polls with
    | some path => observationsOfFile world path
    | none => pure []
  let canvas := ⟨options.width, options.height, options.padding⟩
  let selection := Panel.Selection.ofSelected options.selected
  let index := Poll.Latest.ofObservations observations
  return Boundary.drawing features (Boundary.project features canvas) canvas
    (styleOf selection index)

def projectReport (world : World) (options : ProjectOptions) : Except Failure Report := do
  let features ← loadBoundaries world (boundariesLocation world.setting? options)
  let canvas := ⟨options.width, options.height, options.padding⟩
  let shapes := (Boundary.project features canvas).toList
  let document ←
    match options.svg with
    | some path => do pure (some (path, ← drawingOf world options features))
    | none => pure none
  return ⟨document, .object (shapes.map fun (code, shape) => (code, shape.toJson))⟩

def latestAnswer (world : World) (base : String) (options : LatestOptions) :
    Except Failure Json := do
  let observations ← loadObservations world base options.polls options.limit
  let index := Poll.Latest.ofObservations observations
  match options.region with
  | some region =>
    let found := index.lookup? region
    return .object [("region_code", .string region),
      ("observation", (found.map Poll.Observation.toJson).getD .null),
      ("meta", (Poll.Detail.ofRegion found).toJson)]
  | none => return .object (index.toList.map fun (code, o) => (code, o.toJson))

/-- An election as it is listed: its record and where it leads to. -/
def listedElection (x : Election.Resolved) : Json :=
  .object (x.members ++ [("navigation_matchup_id", .ofOption x.navigationMatchupId)])

def electionsAnswer (world : World) (base : String) (options : ElectionsOptions) :
    Except Failure Json := do
  let param := Region.Param.ofText (some options.region)
  match Panel.Loader.empty.select param.normalized with
  | (_, none) => .error .blankRegion
  | (loader, some ticket) =>
    let outcome := (loadElections world base ticket.regionCode options).mapError Failure.message
    let loader := loader.complete ticket outcome
    match loader.progress with
    | .failed message => .error (.elections message)
    | _ =>
      let name := Region.displayName options.regionName options.region
      return .array ((loader.resolved name).map listedElection)

def masterAnswer (world : World) (path : String) : Except Failure Json := do
  match Election.Master.ofText? (← world.read path) with
  | some master => return .array (master.slots.map Election.Candidacy.toJson)
  | none => .error (.json path)

/-- The answer of a command line. -/
def run (world : World) (arguments : Arguments) : Except Failure Report :=
  let base := Service.setting arguments.apiBase (world.setting? Service.baseVariable)
    Service.defaultBase
  match arguments.action with
  | .normalize code => .ok ⟨none, normalizeAnswer code⟩
  | .project options => projectReport world options
  | .latest options => (latestAnswer world base options).map (⟨none, ·⟩)
  | .elections options => (electionsAnswer world base options).map (⟨none, ·⟩)
  | .master path => (masterAnswer world path).map (⟨none, ·⟩)

/-- An answer as it is printed. -/
def Report.text (report : Report) : String := report.answer.pretty ++ "\n"

end PollAtlas.Command
