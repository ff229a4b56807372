import PollAtlas.Json.Feed
import PollAtlas.Json.Record
import PollAtlas.Text.Blank

/-!
# Poll observations

One published figure of a poll. Collectors differ in care: a number may arrive as a text
and a list as a single text or as `null`. Where a field cannot be used it counts as
missing, and the row is kept.

* `Observation.ofJson?`: the observation of a feed item.
* `Observation.toJson`: an observation with all its fields.
* `number?`, `count?`, `margin?`, `texts`: the fields that are read tolerantly; none of
  them can refuse a row.
-/

namespace PollAtlas.Poll

open PollAtlas.Json (Field Record)

/-- The margin of error: percentage points, or whatever text was published. -/
inductive Margin where
  | points (x : Double)
  | text (s : String)
  deriving DecidableEq

/-- One published figure for a region. -/
structure Observation where
  /-- The region that the poll was published for. -/
  regionCode : Option String
  /-- The region of its audience, where that is another one. -/
  audienceRegionCode : Option String
  /-- The last day of the survey; a later day is a greater text. -/
  surveyEndDate : Option String
  officeType : Option String
  matchupId : Option String
  title : String
  /-- The name of the leading option. -/
  optionName : Option String
  /-- The figure, in percent. -/
  valueMid : Option Double
  pollster : Option String
  /-- The number of people asked. -/
  sampleSize : Option Nat
  marginOfError : Option Margin
  /-- Where the poll was collected from. -/
  sourceChannels : List String
  deriving DecidableEq

/-! ## Tolerant fields -/

/-- The number that a text stands for, blanks around it aside. -/
def numberOfText? (s : String) : Option Double := Double.parse? (Text.trimChars s.toList)

/-- The number itself, unless it is infinite or none. -/
def finite? (x : Double) : Option Double := if x.isFinite then some x else none

/-- A finite number, given as such or as a text. -/
def number? : Json → Option Double
  | .number n => finite? n.toDouble
  | .string s => (numberOfText? s).bind finite?
  | _ => none

/-- The greatest count of 64 bits. -/
def countLimit : Nat := 0xffffffffffffffff

/-- The whole number nearest to a number that is not negative. -/
def count? (value : Json) : Option Nat :=
  ((number? value).filter fun x => !x.lt 0).map (Double.roundToNat countLimit)

/-- A finite number, or a text that is not blank. -/
def margin? : Json → Option Margin
  | .number n => (finite? n.toDouble).map .points
  | .string s => if Text.trim s = "" then none else some (.text s)
  | _ => none

/-- The texts of a list, or a single text. -/
def texts : Json → List String
  | .array items => items.filterMap Json.string?
  | .string s => [s]
  | _ => []

/-! ## Records -/

namespace Observation

/-- The fields in order. The margin of error has two names. -/
def fields : List Field :=
  [⟨"region_code", []⟩, ⟨"audience_region_code", []⟩, ⟨"survey_end_date", []⟩,
    ⟨"office_type", []⟩, ⟨"matchup_id", []⟩, ⟨"title", []⟩, ⟨"option_name", []⟩,
    ⟨"value_mid", []⟩, ⟨"pollster", []⟩, ⟨"sample_size", []⟩, ⟨"margin_of_error", ["moe"]⟩,
    ⟨"source_channels", []⟩]

/-- A text that may be left out or `null`. -/
def text? (record : Record Json) (name : String) : Option (Option String) :=
  record.orDefault name none (Json.nullable? Json.string?)

/-- The observation of a record's fields. -/
def ofRecord? (record : Record Json) : Option Observation := do
  return {
    regionCode := ← text? record "region_code"
    audienceRegionCode := ← text? record "audience_region_code"
    surveyEndDate := ← text? record "survey_end_date"
    officeType := ← text? record "office_type"
    matchupId := ← text? record "matchup_id"
    title := ← record.orDefault "title" "" Json.string?
    optionName := ← text? record "option_name"
    valueMid := (record.value? "value_mid").bind number?
    pollster := ← text? record "pollster"
    sampleSize := (record.value? "sample_size").bind count?
    marginOfError := (record.value? "margin_of_error").bind margin?
    sourceChannels := ((record.value? "source_channels").map texts).getD [] }

/-- The observation of a feed item. -/
def ofJson? (value : Json) : Option Observation := (Record.read? fields value).bind ofRecord?

end Observation

/-- The margin of error as it was published. -/
def Margin.toJson : Margin → Json
  | points x => .ofDouble x
  | text s => .string s

/-- A margin of error given on its own: any number or any text. -/
def Margin.ofJson? : Json → Option Margin
  | .number n => some (.points n.toDouble)
  | .string s => some (.text s)
  | _ => none

/-- All fields in order. -/
def Observation.members (o : Observation) : List (String × Json) :=
  [("region_code", .ofOption o.regionCode),
    ("audience_region_code", .ofOption o.audienceRegionCode),
    ("survey_end_date", .ofOption o.surveyEndDate),
    ("office_type", .ofOption o.officeType),
    ("matchup_id", .ofOption o.matchupId),
    ("title", .string o.title),
    ("option_name", .ofOption o.optionName),
    ("value_mid", (o.valueMid.map Json.ofDouble).getD .null),
    ("pollster", .ofOption o.pollster),
    ("sample_size", (o.sampleSize.map Json.ofNat).getD .null),
    ("margin_of_error", (o.marginOfError.map Margin.toJson).getD .null),
    ("source_channels", .array (o.sourceChannels.map Json.string))]

def Observation.toJson (o : Observation) : Json := .object o.members

/-! ## Feeds -/

/-- What an item of this feed is called in the journal. -/
def itemKind : String := "poll observation"

/-- The observations of a feed; what is none is left out. -/
def observations (items : List Json) : List Observation :=
  Json.Feed.readable Observation.ofJson? items

/-- The notes on what was left out of a feed. -/
def observationNotes (items : List Json) : List Note :=
  Json.Feed.notes itemKind Observation.ofJson? items

end PollAtlas.Poll
