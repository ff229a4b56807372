import PollAtlas.Command.Option

/-!
# The commands

The five commands, each with its options and with what it is made of from the values that
were given.

* `catalog`: the commands in the order they are listed.
-/

namespace PollAtlas.Command

/-- What a projection is made of. -/
structure ProjectOptions where
  geojson : Option String
  width : Double
  height : Double
  padding : Double
  svg : Option String
  polls : Option String
  selected : Option String
  deriving DecidableEq

/-- What an index is made of. -/
structure LatestOptions where
  polls : Option String
  region : Option String
  limit : Option Nat
  deriving DecidableEq

/-- What a region's elections are looked up by. -/
structure ElectionsOptions where
  region : String
  regionName : Option String
  file : Option String
  topology : Option String
  versionId : Option String
  deriving DecidableEq

/-- What a command is to do. -/
inductive Action where
  /-- Every form of a region code. -/
  | normalize (code : String)
  /-- The boundaries on the canvas. -/
  | project (options : ProjectOptions)
  /-- The latest observations. -/
  | latest (options : LatestOptions)
  /-- The elections of a region. -/
  | elections (options : ElectionsOptions)
  /-- The records of a code master. -/
  | master (file : String)
  deriving DecidableEq

/-- A command as it is called. -/
structure CommandSpec where
  name : String
  about : String
  /-- The values without a name, and what they are. -/
  positionals : List (String × String)
  options : List OptionSpec
  /-- The command of the values that were given. -/
  build : Given → Except UsageError Action

/-- The option that every command has, and that may stand before the command too. -/
def apiBase : OptionSpec :=
  optional "--api-base" .text "Dashboard API base URL (overrides `POLL_MAP_API_BASE`)"

/-! ## Normalize -/

def code : String × String :=
  ("CODE", "Region code in any form (e.g. \"KR-11\", \"11\", \"11-680\")")

def normalizeSpec : CommandSpec where
  name := "normalize"
  about := "Show every normalized form of a region code"
  positionals := [code]
  options := []
  build given :=
    match given.positionals with
    | value :: _ => .ok (.normalize value)
    | [] => .error (.missing code.1)

/-! ## Project -/

namespace Project

def geojson : OptionSpec :=
  optional "--geojson" .text "Boundary `GeoJSON` path or URL (overrides `POLL_MAP_GEOJSON`)"

def width : OptionSpec := defaulted "--width" .number "760"

def height : OptionSpec := defaulted "--height" .number "900"

def padding : OptionSpec := defaulted "--padding" .number "30"

def svg : OptionSpec := optional "--svg" .file "Also write a standalone SVG to this path"

def polls : OptionSpec :=
  optional "--polls" .file "Poll feed used to shade regions with data in the SVG"

def selected : OptionSpec := optional "--selected" .text "Region drawn as selected in the SVG"

/-- The options of the values that were given. -/
def optionsOf (given : Given) : ProjectOptions where
  geojson := given.value? geojson
  width := given.numberOf width
  height := given.numberOf height
  padding := given.numberOf padding
  svg := given.value? svg
  polls := given.value? polls
  selected := given.value? selected

end Project

def projectSpec : CommandSpec where
  name := "project"
  about := "Project the boundary asset onto the canvas"
  positionals := []
  options :=
    [Project.geojson, Project.width, Project.height, Project.padding, Project.svg,
      Project.polls, Project.selected]
  build given := .ok (.project (Project.optionsOf given))

/-! ## Latest -/

namespace Latest

def polls : OptionSpec :=
  optional "--polls" .file
    "Poll feed file (`\x7b\"items\": [...]\x7d` or an array). Fetched when omitted"

def region : OptionSpec :=
  optional "--region" .text "Only show the detail meta for this region"

def limit : OptionSpec :=
  optional "--limit" .count "Maximum number of observations to fetch"

/-- The options of the values that were given. -/
def optionsOf (given : Given) : LatestOptions where
  polls := given.value? polls
  region := given.value? region
  limit := given.countOf? limit

end Latest

def latestSpec : CommandSpec where
  name := "latest"
  about := "Build the latest-observation index"
  positionals := []
  options := [Latest.polls, Latest.region, Latest.limit]
  build given := .ok (.latest (Latest.optionsOf given))

/-! ## Elections -/

namespace Elections

def region : OptionSpec := mandatory "--region" .text "Region code in any form"

def regionName : OptionSpec :=
  optional "--region-name" .text "Region display name used in placeholder titles"

def file : OptionSpec :=
  optional "--file" .file "Election records file. Fetched when omitted"

def topology : OptionSpec := optional "--topology" .text "Dataset topology to query"

def versionId : OptionSpec :=
  optional "--version-id" .text "Dataset version within the topology"

/-- The options of the values that were given. -/
def optionsOf (given : Given) (regionCode : String) : ElectionsOptions where
  region := regionCode
  regionName := given.value? regionName
  file := given.value? file
  topology := given.value? topology
  versionId := given.value? versionId

end Elections

def electionsSpec : CommandSpec where
  name := "elections"
  about := "Resolve the official election slots of a region"
  positionals := []
  options :=
    [Elections.region, Elections.regionName, Elections.file, Elections.topology,
      Elections.versionId]
  build given :=
    (given.required Elections.region).map fun region =>
      .elections (Elections.optionsOf given region)

/-! ## Master -/

def masterFile : OptionSpec :=
  mandatory "--file" .file "JSON file with `regions`, `latest_matchups`, and `byelections`"

def masterSpec : CommandSpec where
  name := "master"
  about := "Generate code-master slot records"
  positionals := []
  options := [masterFile]
  build given := (given.required masterFile).map .master

/-! ## All commands -/

/-- The commands in the order they are listed. -/
def catalog : List CommandSpec :=
  [normalizeSpec, projectSpec, latestSpec, electionsSpec, masterSpec]

/-- The command with a name. -/
def commandSpec? (name : String) : Option CommandSpec := catalog.find? (·.name == name)

end PollAtlas.Command
