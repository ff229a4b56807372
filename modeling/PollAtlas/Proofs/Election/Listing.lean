import Mathlib.Data.List.Forall2
import Mathlib.Data.List.Induction
import PollAtlas.Election.Master
import PollAtlas.Proofs.Text.ByteOrder

/-!
# What a master lists

The records of a master, said of its file row by row. Of the entries for one office in a region
the collected table holds the last one (`getElem?_ofFile`). The by-elections of a region are cut
out of one ordered set of pairs, so their offices ascend, and adding them one at a time to the
regular offices appends those that are not regular (`foldl_addOffice`).

* `MasterFile.lastListed?`: the matchup of the last entry for a pair.
* `IsRegular`, `IsTitled`: the regular offices of a level, and the title of an office in a region.
* `MasterFile.Contributes`, `MasterFile.IsListing`: the records that a row and a file should give.
* `Master.slots_of_ofText?`: the records of every master file that can be read, and what of the
  file they depend on.
-/

namespace PollAtlas.Election

/-! ## The records that a file should give -/

/-- The labels of the regular offices of a level, in the order they are shown. -/
inductive IsRegular : Option AdminLevel → List String → Prop
  | missing : IsRegular none ["광역자치단체장", "광역의회", "교육감"]
  | sido : IsRegular (some .sido) ["광역자치단체장", "광역의회", "교육감"]
  | sigungu : IsRegular (some .sigungu) ["기초자치단체장", "기초의회"]

/-- The title of an office in a region. The name of the district stands in it where the region is of
the lower level and the name is neither blank nor that of the province itself. -/
inductive IsTitled (region : MasterRegion) (office : String) : String → Prop
  | district {name : String} (hlevel : region.adminLevel = some .sigungu)
      (hname : region.sigunguName = some name) (hproper : Text.trim name ∉ ["", "전체"]) :
      IsTitled region office
        (Text.trim (Text.trim region.sidoName ++ " " ++ Text.trim name ++ " " ++ office))
  | province (hnone : region.adminLevel = some .sigungu → ∀ name,
      region.sigunguName = some name → Text.trim name ∈ ["", "전체"]) :
      IsTitled region office (Text.trim (Text.trim region.sidoName ++ " " ++ office))

namespace MasterFile

/-- The matchup that the last entry of a file for a pair names. -/
def lastListed? (file : MasterFile) (pair : RegionOffice) : Option String :=
  (file.latestMatchups.filter fun entry => entry.1 = pair).getLast?.map Prod.snd

/-- The offices that a region has besides its regular ones: those of the by-elections that are
filed under exactly its code, each once, as texts are ordered by their bytes. -/
structure HasFurther (file : MasterFile) (regionCode : String) (regular further : List String) :
    Prop where
  ascending : further.Pairwise fun a b => Text.bytes a < Text.bytes b
  mem_iff : ∀ office, office ∈ further ↔
    ⟨regionCode, office⟩ ∈ file.byElections ∧ office ∉ regular

/-- The record of an office in a region. It has poll data just when the last entry of the file
for the two names a matchup, and then it leads there. -/
structure IsSlot (file : MasterFile) (region : MasterRegion) (regionCode office : String)
    (r : Candidacy) : Prop where
  fields : r = {
    matchupId := "master|" ++ office ++ "|" ++ regionCode
    regionCode := regionCode
    officeType := office
    title := r.title
    topology := none
    topologyVersionId := none
    source := some "code_master"
    isActive := true
    isFallback := false
    isPlaceholder := false
    hasPollData := r.hasPollData
    hasCandidateData := false
    latestSurveyEndDate := none
    latestMatchupId := r.latestMatchupId
    status := none }
  titled : IsTitled region office r.title
  polled_iff : ∀ id, r.hasPollData = true ∧ r.latestMatchupId = some id ↔
    file.lastListed? ⟨regionCode, office⟩ = some id ∧ id ≠ ""
  unpolled_iff : r.hasPollData = false ↔ r.latestMatchupId = none

/-- What a row of a file gives: nothing without a code, and else one record for each office of
its level, then one for each further office. -/
structure Contributes (file : MasterFile) (region : MasterRegion) (records : List Candidacy) :
    Prop where
  blank : Text.trim region.regionCode = "" → records = []
  offices : Text.trim region.regionCode ≠ "" → ∃ regular further,
    IsRegular region.adminLevel regular ∧
    file.HasFurther (Text.trim region.regionCode) regular further ∧
    List.Forall₂ (file.IsSlot region (Text.trim region.regionCode)) (regular ++ further) records
  nodup : (records.map Candidacy.officeType).Nodup

/-- The records are those that the rows of a file give, in the order of the rows. -/
def IsListing (file : MasterFile) (records : List Candidacy) : Prop :=
  ∃ parts, records = parts.flatten ∧ List.Forall₂ file.Contributes file.regions parts

/-- A file gives the records, and so does every file with the same rows, the same last entries
and the same set of by-elections. -/
structure Determines (file : MasterFile) (records : List Candidacy) : Prop where
  listing : file.IsListing records
  others : ∀ other : MasterFile, other.regions = file.regions →
    (∀ pair, other.lastListed? pair = file.lastListed? pair) →
    (∀ pair, pair ∈ other.byElections ↔ pair ∈ file.byElections) →
    (Master.ofFile other).slots = records

end MasterFile

/-! ## The entry that counts -/

theorem getElem?_collect (entries : List (RegionOffice × String)) (pair : RegionOffice) :
    (entries.foldl (fun latest entry => latest.insert entry.1 entry.2)
        (∅ : Std.ExtTreeMap RegionOffice String))[pair]? =
      (entries.filter fun entry => entry.1 = pair).getLast?.map Prod.snd := by
  induction entries using List.reverseRecOn with
  | nil => exact Std.ExtTreeMap.getElem?_empty
  | append_singleton entries entry ih =>
    rw [List.foldl_append, List.foldl_cons, List.foldl_nil, Std.ExtTreeMap.getElem?_insert,
      List.filter_append, ih]
    by_cases hpair : entry.1 = pair
    · simp [hpair]
    · simp [hpair]

theorem getElem?_ofFile (file : MasterFile) (pair : RegionOffice) :
    (Master.ofFile file).latestMatchups[pair]? = file.lastListed? pair :=
  getElem?_collect file.latestMatchups pair

theorem latestMatchupOf?_eq_some_iff {file : MasterFile} {pair : RegionOffice} {id : String} :
    (Master.ofFile file).latestMatchupOf? pair = some id ↔
      file.lastListed? pair = some id ∧ id ≠ "" := by
  rw [Master.latestMatchupOf?, getElem?_ofFile, Option.filter_eq_some_iff, decide_eq_true_eq]

/-! ## The offices of a region -/

theorem foldl_addOffice {further : List String} (hnodup : further.Nodup) :
    ∀ regular : List String, further.foldl Master.addOffice regular =
      regular ++ further.filter fun office => office ∉ regular := by
  induction further with
  | nil => simp
  | cons office further ih =>
    obtain ⟨hoffice, hnodup⟩ := List.nodup_cons.mp hnodup
    intro regular
    rw [List.foldl_cons, ih hnodup]
    by_cases hmem : office ∈ regular
    · simp [Master.addOffice, hmem]
    · -- the office itself does not come again, so it makes no difference to the others
      have hrest : further.filter (fun other => other ∉ regular ++ [office]) =
          further.filter fun other => other ∉ regular := by
        refine List.filter_congr fun other hother => ?_
        have hne : other ≠ office := fun heq => hoffice (heq ▸ hother)
        simp [hne]
      rw [Master.addOffice, if_neg (by simpa using hmem), hrest]
      simp [hmem]

theorem Master.mem_byElectionOffices {master : Master} {regionCode office : String} :
    office ∈ master.byElectionOffices regionCode ↔
      ⟨regionCode, office⟩ ∈ master.byElections := by
  simp only [Master.byElectionOffices, List.mem_map, List.mem_filter, Std.ExtTreeSet.mem_toList,
    beq_iff_eq]
  constructor
  · rintro ⟨⟨_, _⟩, ⟨hmem, rfl⟩, rfl⟩
    exact hmem
  · intro hmem
    exact ⟨_, ⟨hmem, rfl⟩, rfl⟩

theorem mem_byElectionOffices {file : MasterFile} {regionCode office : String} :
    office ∈ (Master.ofFile file).byElectionOffices regionCode ↔
      ⟨regionCode, office⟩ ∈ file.byElections := by
  rw [Master.mem_byElectionOffices, Master.ofFile, Std.ExtTreeSet.mem_ofList,
    List.contains_iff_mem]

theorem officeType_lt_of_compare {a b : RegionOffice} (hregion : a.regionCode = b.regionCode)
    (h : compare a b = .lt) : a.officeType < b.officeType := by
  have hfirst : compare a.regionCode b.regionCode = .eq :=
    Std.LawfulEqCmp.compare_eq_iff_eq.mpr hregion
  have hthen : (compare a.regionCode b.regionCode).then (compare a.officeType b.officeType) =
      .lt := h
  rw [hfirst] at hthen
  exact compareOfLessAndEq_eq_lt.mp hthen

theorem byElectionOffices_ascending (master : Master) (regionCode : String) :
    (master.byElectionOffices regionCode).Pairwise fun a b => Text.bytes a < Text.bytes b := by
  rw [Master.byElectionOffices, List.pairwise_map, List.pairwise_filter]
  refine Std.ExtTreeSet.ordered_toList.imp fun {a b} hlt ha hb => ?_
  have hregion : a.regionCode = b.regionCode :=
    (beq_iff_eq.mp ha).trans (beq_iff_eq.mp hb).symm
  exact Text.bytes_lt_iff.mpr (officeType_lt_of_compare hregion hlt)

theorem nodup_of_ascending {texts : List String}
    (h : texts.Pairwise fun a b => Text.bytes a < Text.bytes b) : texts.Nodup := by
  refine h.imp fun {a b} hlt heq => ?_
  subst heq
  exact List.lt_irrefl _ hlt

theorem nodup_byElectionOffices (master : Master) (regionCode : String) :
    (master.byElectionOffices regionCode).Nodup :=
  nodup_of_ascending (byElectionOffices_ascending master regionCode)

theorem officesOf_eq (master : Master) (region : MasterRegion) (regionCode : String) :
    master.officesOf region regionCode =
      region.regularOffices ++
        (master.byElectionOffices regionCode).filter (· ∉ region.regularOffices) :=
  foldl_addOffice (nodup_byElectionOffices master regionCode) _

theorem hasFurther_ofFile (file : MasterFile) (regionCode : String) (regular : List String) :
    file.HasFurther regionCode regular
      (((Master.ofFile file).byElectionOffices regionCode).filter (· ∉ regular)) where
  ascending := (byElectionOffices_ascending _ regionCode).filter _
  mem_iff office := by
    rw [List.mem_filter, mem_byElectionOffices, decide_eq_true_eq]

theorem isRegular_regularOffices (region : MasterRegion) :
    IsRegular region.adminLevel region.regularOffices := by
  rw [MasterRegion.regularOffices]
  cases region.adminLevel with
  | none => exact .missing
  | some level =>
    cases level with
    | sido => exact .sido
    | sigungu => exact .sigungu

theorem nodup_regularOffices (region : MasterRegion) : region.regularOffices.Nodup := by
  rw [MasterRegion.regularOffices]
  cases region.adminLevel.getD .sido with
  | sido => decide
  | sigungu => decide

theorem nodup_officesOf (master : Master) (region : MasterRegion) (regionCode : String) :
    (master.officesOf region regionCode).Nodup := by
  rw [officesOf_eq, List.nodup_append]
  refine ⟨nodup_regularOffices region, (nodup_byElectionOffices master regionCode).filter _, ?_⟩
  rintro office hregular other hother rfl
  exact of_decide_eq_true (List.mem_filter.mp hother).2 hregular

/-! ## The records -/

/-- The name that the title of a region gives for its district. -/
theorem districtName?_eq_some_iff {name? : Option String} {name : String} :
    (name?.bind Text.content?).filter (· ≠ Master.wholeProvinceName) = some name ↔
      ∃ text, name? = some text ∧ Text.trim text ∉ ["", "전체"] ∧ Text.trim text = name := by
  rw [Option.filter_eq_some_iff, Option.bind_eq_some_iff, decide_eq_true_eq]
  simp only [Text.content?, Master.wholeProvinceName, List.mem_cons, List.not_mem_nil, or_false,
    not_or]
  constructor
  · rintro ⟨⟨text, htext, hname⟩, hwhole⟩
    by_cases hblank : Text.trim text = ""
    · rw [if_pos hblank] at hname
      cases hname
    · rw [if_neg hblank] at hname
      obtain rfl := Option.some.inj hname
      exact ⟨text, htext, ⟨hblank, hwhole⟩, rfl⟩
  · rintro ⟨text, htext, ⟨hblank, hwhole⟩, rfl⟩
    exact ⟨⟨text, htext, if_neg hblank⟩, hwhole⟩

theorem isTitled_slotTitle (region : MasterRegion) (office : String) :
    IsTitled region office (Master.slotTitle region office) := by
  unfold Master.slotTitle
  dsimp only
  split
  · rename_i name hlevel hname
    obtain ⟨text, htext, hproper, rfl⟩ := districtName?_eq_some_iff.mp hname
    exact .district hlevel htext hproper
  · rename_i hother
    refine .province fun hlevel text htext => ?_
    by_contra hproper
    exact hother (Text.trim text) hlevel
      (districtName?_eq_some_iff.mpr ⟨text, htext, hproper, rfl⟩)

theorem isSlot_slot (file : MasterFile) (region : MasterRegion) (regionCode office : String) :
    file.IsSlot region regionCode office
      ((Master.ofFile file).slot region regionCode office) where
  fields := rfl
  titled := isTitled_slotTitle region office
  polled_iff id := by
    rw [← latestMatchupOf?_eq_some_iff]
    constructor
    · exact And.right
    · intro hlatest
      exact ⟨Option.isSome_iff_exists.mpr ⟨id, hlatest⟩, hlatest⟩
  unpolled_iff := Option.isSome_eq_false_iff.trans Option.isNone_iff_eq_none

theorem Master.slotsOf_of_blank (master : Master) {region : MasterRegion}
    (h : Text.trim region.regionCode = "") : master.slotsOf region = [] := by
  rw [slotsOf, Text.content?, if_pos h]

theorem Master.slotsOf_of_code (master : Master) {region : MasterRegion}
    (h : Text.trim region.regionCode ≠ "") :
    master.slotsOf region =
      (master.officesOf region (Text.trim region.regionCode)).map
        (master.slot region (Text.trim region.regionCode)) := by
  rw [slotsOf, Text.content?, if_neg h]

theorem contributes_slotsOf (file : MasterFile) (region : MasterRegion) :
    file.Contributes region ((Master.ofFile file).slotsOf region) := by
  by_cases hblank : Text.trim region.regionCode = ""
  · have hnone := Master.slotsOf_of_blank (Master.ofFile file) hblank
    exact {
      blank := fun _ => hnone
      offices := fun hcode => absurd hblank hcode
      nodup := by rw [hnone]; exact List.nodup_nil }
  · have hslots := Master.slotsOf_of_code (Master.ofFile file) hblank
    refine {
      blank := fun h => absurd h hblank
      offices := fun _ =>
        ⟨_, _, isRegular_regularOffices region, hasFurther_ofFile file _ _, ?_⟩
      nodup := ?_ }
    · rw [hslots, ← officesOf_eq, List.forall₂_map_right_iff, List.forall₂_same]
      exact fun office _ => isSlot_slot file region _ office
    · have hoffices : ∀ office, ((Master.ofFile file).slot region
          (Text.trim region.regionCode) office).officeType = office := fun _ => rfl
      rw [hslots, List.map_map]
      simpa [Function.comp_def, hoffices] using nodup_officesOf _ region _

theorem isListing_slots (file : MasterFile) : file.IsListing (Master.ofFile file).slots := by
  refine ⟨file.regions.map (Master.ofFile file).slotsOf, rfl, ?_⟩
  rw [List.forall₂_map_right_iff, List.forall₂_same]
  exact fun region _ => contributes_slotsOf file region

/-- A master depends on the matchups of its file only through the last entry for each pair, and
on the by-elections only as a set. -/
theorem ofFile_congr {file other : MasterFile} (hregions : other.regions = file.regions)
    (hlatest : ∀ pair, other.lastListed? pair = file.lastListed? pair)
    (hbyElections : ∀ pair, pair ∈ other.byElections ↔ pair ∈ file.byElections) :
    Master.ofFile other = Master.ofFile file := by
  have hmatchups : (Master.ofFile other).latestMatchups = (Master.ofFile file).latestMatchups :=
    Std.ExtTreeMap.ext_getElem? fun pair => by rw [getElem?_ofFile, getElem?_ofFile, hlatest]
  have hset : (Master.ofFile other).byElections = (Master.ofFile file).byElections := by
    refine Std.ExtTreeSet.ext_mem fun pair => ?_
    simp only [Master.ofFile, Std.ExtTreeSet.mem_ofList, List.contains_iff_mem, hbyElections]
  exact Master.ext hregions hmatchups hset

/-- The records of every master file that can be read are those that its rows should give, and
nothing else of the file matters to them. -/
theorem Master.slots_of_ofText? {text : String} {master : Master}
    (h : Master.ofText? text = some master) :
    ∃ file, MasterFile.ofText? text = some file ∧ file.Determines master.slots := by
  obtain ⟨file, hfile, rfl⟩ := Option.map_eq_some_iff.mp h
  exact ⟨file, hfile, {
    listing := isListing_slots file
    others := fun other hregions hlatest hbyElections => by
      rw [ofFile_congr hregions hlatest hbyElections] }⟩

/-! ## A district with a by-election -/

/-- A district with two entries for its council, of which the last one names no matchup, and
with by-elections for its council and for another office. Behind it are a row without a code and
a province without a level, whose superintendent has a matchup. -/
def jongnoText : String :=
  "[[[\" 11-110 \",\"서울특별시\",\"종로구\",\"sigungu\"],[\" \"],[\"26-000\",\"부산광역시\"]]," ++
  "[[\"11-110\",\"기초의회\",\"m-1\"],[\"11-110\",\"기초의회\",\"\"],[\"26-000\",\"교육감\",\"m-2\"]]," ++
  "[[\"11-110\",\"국회의원\"],[\"11-110\",\"기초의회\"]]]"

def jongnoFile : MasterFile where
  regions := [⟨" 11-110 ", "서울특별시", some "종로구", some .sigungu⟩, ⟨" ", "", none, none⟩,
    ⟨"26-000", "부산광역시", none, none⟩]
  latestMatchups := [(⟨"11-110", "기초의회"⟩, "m-1"), (⟨"11-110", "기초의회"⟩, ""),
    (⟨"26-000", "교육감"⟩, "m-2")]
  byElections := [⟨"11-110", "국회의원"⟩, ⟨"11-110", "기초의회"⟩]

/-- A record of a master in all its fields. -/
def masterRecord (matchupId regionCode office title : String) (latest : Option String) :
    Candidacy where
  matchupId := matchupId
  regionCode := regionCode
  officeType := office
  title := title
  topology := none
  topologyVersionId := none
  source := some "code_master"
  isActive := true
  isFallback := false
  isPlaceholder := false
  hasPollData := latest.isSome
  hasCandidateData := false
  latestSurveyEndDate := none
  latestMatchupId := latest
  status := none

def jongnoRecords : List Candidacy :=
  [masterRecord "master|기초자치단체장|11-110" "11-110" "기초자치단체장"
      "서울특별시 종로구 기초자치단체장" none,
    masterRecord "master|기초의회|11-110" "11-110" "기초의회" "서울특별시 종로구 기초의회" none,
    masterRecord "master|국회의원|11-110" "11-110" "국회의원" "서울특별시 종로구 국회의원" none,
    masterRecord "master|광역자치단체장|26-000" "26-000" "광역자치단체장"
      "부산광역시 광역자치단체장" none,
    masterRecord "master|광역의회|26-000" "26-000" "광역의회" "부산광역시 광역의회" none,
    masterRecord "master|교육감|26-000" "26-000" "교육감" "부산광역시 교육감" (some "m-2")]

theorem slots_jongno :
    Master.ofText? jongnoText = some (Master.ofFile jongnoFile) ∧
      (Master.ofFile jongnoFile).slots = jongnoRecords ∧
      ∃ file, MasterFile.ofText? jongnoText = some file ∧ file.Determines jongnoRecords := by
  have hfile : MasterFile.ofText? jongnoText = some jongnoFile := by decide +kernel
  have hmaster : Master.ofText? jongnoText = some (Master.ofFile jongnoFile) := by
    rw [Master.ofText?, hfile, Option.map_some]
  have hslots : (Master.ofFile jongnoFile).slots = jongnoRecords := by decide +kernel
  have hlisted := Master.slots_of_ofText? hmaster
  rw [hslots] at hlisted
  exact ⟨hmaster, hslots, hlisted⟩

end PollAtlas.Election
