import PollAtlas.Election.Candidacy
import PollAtlas.Election.Office
import Std.Data.ExtTreeMap
import Std.Data.ExtTreeSet

/-!
# The election code master

A master file lists the regions, the matchups with the latest polls of offices in regions,
and by-elections. From it the master is collected: the latest matchup of each office in a
region, and by-elections each once. Every region gets a record for each office of its level,
and then for each other office that a by-election is held for.

* `MasterFile.ofText?`, `Master.ofFile`: a master file, and the master that it lists.
* `Master.slots`: the records of a master, in the order of its regions.
-/

namespace PollAtlas.Election

open PollAtlas.Json (Field Record Layered Document)

/-- A region of the master. -/
structure MasterRegion where
  regionCode : String
  sidoName : String
  /-- The city, county or district. -/
  sigunguName : Option String
  /-- The level; a province if missing. -/
  adminLevel : Option AdminLevel
  deriving DecidableEq, Repr

namespace MasterRegion

def ofValue? {α : Type} [Layered α] (value : α) : Option MasterRegion := do
  let record ← Record.read?
    (Field.named ["region_code", "sido_name", "sigungu_name", "admin_level"]) value
  let sidoName ← record.orDefault "sido_name" none (Json.nullable? Json.string?)
  return {
    regionCode := ← record.required "region_code" Json.string?
    sidoName := sidoName.getD ""
    sigunguName := ← record.orDefault "sigungu_name" none (Json.nullable? Json.string?)
    adminLevel := ← record.orDefault "admin_level" none
      (Json.nullable? (Json.name? AdminLevel.names)) }

/-- The labels of the offices of its level, in the order they are shown. -/
def regularOffices (region : MasterRegion) : List String :=
  (region.adminLevel.getD .sido).offices.map Office.label

def toJson (region : MasterRegion) : Json :=
  .object [("region_code", .string region.regionCode),
    ("sido_name", .string region.sidoName),
    ("sigungu_name", .ofOption region.sigunguName),
    ("admin_level", .ofOption (region.adminLevel.map AdminLevel.name))]

end MasterRegion

/-- An office in a region, by its label. -/
structure RegionOffice where
  regionCode : String
  officeType : String
  deriving DecidableEq, Repr

namespace RegionOffice

/-- Pairs are ordered by region, and within a region by office. -/
instance : Ord RegionOffice where
  compare := compareLex (compareOn regionCode) (compareOn officeType)

instance : Std.TransOrd RegionOffice :=
  inferInstanceAs <| Std.TransCmp <| compareLex (compareOn regionCode) (compareOn officeType)

instance : Std.LawfulEqOrd RegionOffice where
  eq_of_compare {a b} h := by
    obtain ⟨hregion, hoffice⟩ := Ordering.then_eq_eq.mp h
    cases a
    cases b
    exact congr (congrArg mk (Std.LawfulEqCmp.eq_of_compare hregion))
      (Std.LawfulEqCmp.eq_of_compare hoffice)

end RegionOffice

/-- A master file as it is listed. -/
structure MasterFile where
  regions : List MasterRegion
  latestMatchups : List (RegionOffice × String)
  byElections : List RegionOffice
  deriving DecidableEq, Repr

/-- A master: its regions, the matchup with the latest poll of an office in a region, and the
by-elections. -/
@[ext]
structure Master where
  regions : List MasterRegion
  latestMatchups : Std.ExtTreeMap RegionOffice String
  byElections : Std.ExtTreeSet RegionOffice

/-! ## Reading -/

namespace MasterFile

section

variable {α : Type} [Layered α]

def latestMatchup? (value : α) : Option (RegionOffice × String) := do
  let record ← Record.read? (Field.named ["region_code", "office_type", "matchup_id"]) value
  let regionCode ← record.required "region_code" Json.string?
  let officeType ← record.required "office_type" Json.string?
  let matchupId ← record.required "matchup_id" Json.string?
  return (⟨regionCode, officeType⟩, matchupId)

def byElection? (value : α) : Option RegionOffice := do
  let record ← Record.read? (Field.named ["region_code", "office_type"]) value
  let regionCode ← record.required "region_code" Json.string?
  let officeType ← record.required "office_type" Json.string?
  return ⟨regionCode, officeType⟩

def ofValue? (value : α) : Option MasterFile := do
  let record ← Record.read? (Field.named ["regions", "latest_matchups", "byelections"]) value
  return {
    regions := ← record.required "regions" (Json.list? MasterRegion.ofValue?)
    latestMatchups := ← record.orDefault "latest_matchups" [] (Json.list? latestMatchup?)
    byElections := ← record.orDefault "byelections" [] (Json.list? byElection?) }

end

/-- The master file of a text. What is no field of it has to be JSON by its grammar alone. -/
def ofText? (text : String) : Option MasterFile := (Document.parse? text).bind ofValue?

end MasterFile

namespace Master

/-- The master that is collected from a file: of several matchups for one office in a region
the last one counts, and a by-election counts once. -/
def ofFile (file : MasterFile) : Master where
  regions := file.regions
  latestMatchups := file.latestMatchups.foldl (fun latest entry => latest.insert entry.1 entry.2) ∅
  byElections := .ofList file.byElections compare

/-- The master of a text. -/
def ofText? (text : String) : Option Master := (MasterFile.ofText? text).map ofFile

/-! ## Records -/

/-- The source of a master's records. -/
def source : String := "code_master"

/-- The name given for the city, county or district of a whole province. -/
def wholeProvinceName : String := "전체"

/-- The matchup of a record of the master. -/
def slotMatchupId (regionCode office : String) : String :=
  "master|" ++ office ++ "|" ++ regionCode

/-- The title of a record of the master: the region with its district, and the office. -/
def slotTitle (region : MasterRegion) (office : String) : String :=
  let sido := Text.trim region.sidoName
  let sigungu := (region.sigunguName.bind Text.content?).filter (· ≠ wholeProvinceName)
  Text.trim <|
    match region.adminLevel, sigungu with
    | some .sigungu, some sigungu => sido ++ " " ++ sigungu ++ " " ++ office
    | _, _ => sido ++ " " ++ office

/-- The matchup with the latest poll of an office in a region, unless it is empty. -/
def latestMatchupOf? (master : Master) (pair : RegionOffice) : Option String :=
  master.latestMatchups[pair]?.filter (· ≠ "")

/-- The offices that by-elections are held for in a region, in ascending order. -/
def byElectionOffices (master : Master) (regionCode : String) : List String :=
  (master.byElections.toList.filter fun pair => pair.regionCode == regionCode).map
    RegionOffice.officeType

/-- One more office, unless it is there already. -/
def addOffice (offices : List String) (office : String) : List String :=
  if offices.contains office then offices else offices ++ [office]

/-- The labels of the offices of a region: those of its level, then those of
by-elections. -/
def officesOf (master : Master) (region : MasterRegion) (regionCode : String) : List String :=
  (master.byElectionOffices regionCode).foldl addOffice region.regularOffices

/-- The record of an office in a region. -/
def slot (master : Master) (region : MasterRegion) (regionCode office : String) :
    Candidacy :=
  let latest := master.latestMatchupOf? ⟨regionCode, office⟩
  { Candidacy.blank with
    matchupId := slotMatchupId regionCode office
    regionCode := regionCode
    officeType := office
    title := slotTitle region office
    source := some source
    isActive := true
    hasPollData := latest.isSome
    latestMatchupId := latest }

/-- The records of a region; one without a code has none. -/
def slotsOf (master : Master) (region : MasterRegion) : List Candidacy :=
  match Text.content? region.regionCode with
  | none => []
  | some regionCode =>
    (master.officesOf region regionCode).map (master.slot region regionCode)

/-- The records of a master, in the order of its regions. -/
def slots (master : Master) : List Candidacy := master.regions.flatMap master.slotsOf

/-- The notes on regions without a code. -/
def notes (master : Master) : List Note :=
  (master.regions.filter fun region => (Text.content? region.regionCode).isNone).map
    fun _ => ⟨.debug, "Skipping master region without a code"⟩

end Master

end PollAtlas.Election
