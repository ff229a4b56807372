import PollAtlas.Election.Priority
import PollAtlas.Election.Title
import PollAtlas.Region.Param
import PollAtlas.Text.Quoted
import Std.Data.ExtTreeMap

/-!
# One election for each office

For a region and a list of offices exactly one election each is shown: the best record of
the office, or a placeholder where there is none.

* `resolve`: the elections of a list of offices, in order.
* `placeholder`: the record that stands in for missing data.
* `Resolved.navigationMatchupId`: where a shown election leads to.
-/

namespace PollAtlas.Election

/-- The region that elections are resolved for. -/
structure Context where
  /-- A code in any form. -/
  regionCode : String
  regionName : String
  deriving DecidableEq, Repr

namespace Context

def ofJson? (value : Json) : Option Context := do
  let record ← Json.Record.read? (Json.Field.named ["region_code", "region_name"]) value
  return {
    regionCode := ← record.required "region_code" Json.string?
    regionName := ← record.required "region_name" Json.string? }

def toJson (ctx : Context) : Json :=
  .object [("region_code", .string ctx.regionCode), ("region_name", .string ctx.regionName)]

end Context

/-- The election that is shown for an office. -/
structure Resolved where
  slot : Office
  record : Candidacy
  deriving DecidableEq, Repr

/-- The source of placeholders. -/
def generatedSource : String := "generated"

/-- The record that stands in for missing data. -/
def placeholder (office : Office) (ctx : Context) : Candidacy :=
  let regionCode := (Region.Param.ofText (some ctx.regionCode)).normalized.getD ""
  { Candidacy.blank with
    matchupId := "placeholder|" ++ office.label ++ "|" ++ regionCode
    regionCode := regionCode
    officeType := office.label
    title := titleOf regionCode ctx.regionName office
    topology := some officialTopology
    source := some generatedSource
    isActive := true
    isFallback := true
    isPlaceholder := true
    status := some Candidacy.statusNoData }

/-- The record as it is shown for an office: under the office's label and with a
status. -/
def Candidacy.shownAs (office : Office) (r : Candidacy) : Candidacy :=
  { r with officeType := office.label, status := some r.statusText }

/-- The best records so far, by their offices. -/
abbrev Choices := Std.ExtTreeMap Office Candidacy

namespace Choices

/-- One more record. It is dropped if it names no office, or one that is not asked for. -/
def add (slots : List Office) (choices : Choices) (r : Candidacy) : Choices :=
  match Office.ofText? r.officeType with
  | none => choices
  | some office =>
    if slots.contains office then
      choices.insert office (Candidacy.better choices[office]? r)
    else choices

/-- The best record of each office that is asked for. -/
def ofRecords (records : List Candidacy) (slots : List Office) : Choices :=
  records.foldl (add slots) ∅

end Choices

/-- The elections that are shown for a list of offices, in its order. -/
def resolve (records : List Candidacy) (slots : List Office) (ctx : Context) :
    List Resolved :=
  let choices := Choices.ofRecords records slots
  slots.map fun slot => ⟨slot, (choices[slot]?.getD (placeholder slot ctx)).shownAs slot⟩

/-- The elections of a province. -/
def resolveMetro (records : List Candidacy) (ctx : Context) : List Resolved :=
  resolve records Office.metro ctx

/-- The notes on the records that belong to none of the offices. -/
def resolveNotes (records : List Candidacy) (slots : List Office) : List Note :=
  records.filterMap fun r =>
    match Office.ofText? r.officeType with
    | none =>
      some ⟨.debug, s!"Dropping election {r.matchupId} with unrecognized office type " ++
        Text.quoted r.officeType⟩
    | some office =>
      if slots.contains office then none
      else some ⟨.debug,
        s!"Dropping election {r.matchupId} for office {office.label} outside the requested slots"⟩

namespace Resolved

def status (x : Resolved) : String := x.record.status.getD ""

/-- The matchup that a shown election leads to: the latest one or else its own, which a
placeholder does not have. -/
def navigationMatchupId (x : Resolved) : Option String :=
  match x.record.latestMatchupId.filter (· ≠ "") with
  | some id => some id
  | none =>
    if x.record.isPlaceholder || x.record.matchupId == "" then none else some x.record.matchupId

/-- All fields in order, the slot first. -/
def members (x : Resolved) : List (String × Json) :=
  ("slot", .string x.slot.label) :: x.record.members

def toJson (x : Resolved) : Json := .object x.members

/-- A shown election given as an object: its slot among the fields of its record. -/
def ofJson? : Json → Option Resolved
  | .object members => do
    let slot ← (← Json.Record.ofMembers? (Json.Field.named ["slot"]) members).required "slot"
      Office.ofJson?
    let record ← (← Json.Record.ofMembers? Candidacy.fields members) |> Candidacy.ofRecord?
    return ⟨slot, record⟩
  | _ => none

end Resolved

end PollAtlas.Election
