import PollAtlas.Json.Feed
import PollAtlas.Json.Record
import PollAtlas.Text.Blank

/-!
# Election records

A prospective election of one office in one region. Several records may compete for the
same office; where they come from and what they hold decides which one is shown.

* `Candidacy.ofJson?`, `Candidacy.toJson`: a record read and written.
* `Candidacy.ofFeed`: the records of a feed.
* `Candidacy.statusText`: the status that is shown.
-/

namespace PollAtlas.Election

open PollAtlas.Json (Field Record)

/-- The data set in use. -/
def officialTopology : String := "official"

/-- A record of one election. -/
structure Candidacy where
  matchupId : String
  regionCode : String
  /-- The office in any spelling. -/
  officeType : String
  title : String
  /-- The data set; the official one if missing. -/
  topology : Option String
  topologyVersionId : Option String
  /-- Where the record comes from. -/
  source : Option String
  isActive : Bool
  isFallback : Bool
  /-- The record stands in for missing data. -/
  isPlaceholder : Bool
  hasPollData : Bool
  hasCandidateData : Bool
  /-- The last day of the latest survey; a later day is a greater text. -/
  latestSurveyEndDate : Option String
  /-- The matchup with the latest poll. -/
  latestMatchupId : Option String
  status : Option String
  deriving DecidableEq, Repr

namespace Candidacy

/-- A record with nothing in it. -/
def blank : Candidacy where
  matchupId := ""
  regionCode := ""
  officeType := ""
  title := ""
  topology := none
  topologyVersionId := none
  source := none
  isActive := false
  isFallback := false
  isPlaceholder := false
  hasPollData := false
  hasCandidateData := false
  latestSurveyEndDate := none
  latestMatchupId := none
  status := none

/-- The data set of a record. -/
def topologyName (r : Candidacy) : String := r.topology.getD officialTopology

/-! ## Reading and writing -/

/-- The fields in order. -/
def fields : List Field :=
  Field.named ["matchup_id", "region_code", "office_type", "title", "topology",
    "topology_version_id", "source", "is_active", "is_fallback", "is_placeholder",
    "has_poll_data", "has_candidate_data", "latest_survey_end_date", "latest_matchup_id",
    "status"]

/-- A field whose value is the default when it is left out or `null`. -/
def orBlank {α : Type} (record : Record Json) (name : String) (default : α)
    (read? : Json → Option α) : Option α :=
  (record.orDefault name none (Json.nullable? read?)).map fun x => x.getD default

/-- A text that may be left out or `null`. -/
def text? (record : Record Json) (name : String) : Option (Option String) :=
  record.orDefault name none (Json.nullable? Json.string?)

/-- The election of a record's fields. -/
def ofRecord? (record : Record Json) : Option Candidacy := do
  return {
    matchupId := ← orBlank record "matchup_id" "" Json.string?
    regionCode := ← orBlank record "region_code" "" Json.string?
    officeType := ← orBlank record "office_type" "" Json.string?
    title := ← orBlank record "title" "" Json.string?
    topology := ← text? record "topology"
    topologyVersionId := ← text? record "topology_version_id"
    source := ← text? record "source"
    isActive := ← orBlank record "is_active" false Json.bool?
    isFallback := ← orBlank record "is_fallback" false Json.bool?
    isPlaceholder := ← orBlank record "is_placeholder" false Json.bool?
    hasPollData := ← orBlank record "has_poll_data" false Json.bool?
    hasCandidateData := ← orBlank record "has_candidate_data" false Json.bool?
    latestSurveyEndDate := ← text? record "latest_survey_end_date"
    latestMatchupId := ← text? record "latest_matchup_id"
    status := ← text? record "status" }

def ofJson? (value : Json) : Option Candidacy := (Record.read? fields value).bind ofRecord?

/-- All fields in order. -/
def members (r : Candidacy) : List (String × Json) :=
  [("matchup_id", .string r.matchupId), ("region_code", .string r.regionCode),
    ("office_type", .string r.officeType), ("title", .string r.title),
    ("topology", .ofOption r.topology),
    ("topology_version_id", .ofOption r.topologyVersionId),
    ("source", .ofOption r.source), ("is_active", .bool r.isActive),
    ("is_fallback", .bool r.isFallback), ("is_placeholder", .bool r.isPlaceholder),
    ("has_poll_data", .bool r.hasPollData),
    ("has_candidate_data", .bool r.hasCandidateData),
    ("latest_survey_end_date", .ofOption r.latestSurveyEndDate),
    ("latest_matchup_id", .ofOption r.latestMatchupId), ("status", .ofOption r.status)]

def toJson (r : Candidacy) : Json := .object r.members

/-! ## Feeds -/

/-- What an item of this feed is called in the journal. -/
def itemKind : String := "election record"

/-- The records of a feed; what is none is left out, and a feed that is no list is
empty. -/
def ofFeed : Json → List Candidacy
  | .array items => Json.Feed.readable ofJson? items
  | _ => []

/-- The notes on what was left out of a feed. -/
def feedNotes : Json → List Note
  | .array items => Json.Feed.notes itemKind ofJson? items
  | _ => [⟨.warning, "Elections response is not an array; treating as empty"⟩]

/-! ## Status -/

/-- The status of an election with a poll. -/
def statusReady : String := "데이터 준비 완료"

/-- The status of an election without one. -/
def statusNoData : String := "조사 데이터 없음"

/-- The status as it is shown: the record's own, unless that is blank. -/
def statusText (r : Candidacy) : String :=
  (r.status.bind Text.content?).getD (if r.hasPollData then statusReady else statusNoData)

end Candidacy

end PollAtlas.Election
