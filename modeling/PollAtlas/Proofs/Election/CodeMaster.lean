import PollAtlas.Proofs.Election.Listing
import PollAtlas.Proofs.Election.ReadBack
import PollAtlas.Proofs.Election.Representative
import PollAtlas.Proofs.Json.ReadBack

/-!
# The elections of a province from the code master

The records that a master holds for a province are written, read back and resolved. A province
has a record for each of its offices, so no placeholder is shown. By-elections add records under
other spellings of the same offices. All these records have the same weights but for poll data,
so the one that is shown has poll data as soon as any of them has.

* `IsMasterRecord`: what all records of a province's master have in common.
* `IsMasterRecord.hasPollData_of_not_outranked`: the best of them has poll data if any has.
* `ShowsMaster`: the election that is shown for an office of the province.
* `resolveMetro_slots`: the shown elections against it.
-/

namespace PollAtlas.Election

open PollAtlas.Json (KeptWithin)

/-! ## Written records -/

namespace Candidacy

theorem keptWithin_toJson (r : Candidacy) : KeptWithin 1 r.toJson :=
  .object (by simp [members]) (by simp [members])

/-- A feed of written records has a text that it is read back from. -/
theorem read?_compact_feed (rs : List Candidacy) :
    Json.read? (Json.compact (.array (rs.map toJson))) = some (.array (rs.map toJson)) := by
  have hkept : KeptWithin 2 (.array (rs.map toJson)) :=
    .array (List.forall_mem_map.mpr fun r _ => r.keptWithin_toJson)
  exact hkept.read?_compact (by decide)

end Candidacy

/-! ## The offices of a region -/

namespace Master

/-- By-elections take no office away from a region. -/
theorem label_mem_officesOf (master : Master) {region : MasterRegion} {office : Office}
    (h : office ∈ (region.adminLevel.getD .sido).offices) (regionCode : String) :
    office.label ∈ master.officesOf region regionCode := by
  have hregular : office.label ∈ region.regularOffices := List.mem_map_of_mem h
  rw [officesOf_eq]
  exact List.mem_append_left _ hregular

theorem slots_eq {master : Master} {region : MasterRegion} {regionCode : String}
    (hregions : master.regions = [region])
    (hcode : Text.content? region.regionCode = some regionCode) :
    master.slots = (master.officesOf region regionCode).map (master.slot region regionCode) := by
  rw [slots, hregions, List.flatMap_singleton, slotsOf, hcode]

end Master

/-! ## The records of a region -/

/-- What the records of a region's master have in common. -/
structure IsMasterRecord (regionCode : String) (r : Candidacy) : Prop where
  matchupId_eq : r.matchupId = Master.slotMatchupId regionCode r.officeType
  regionCode_eq : r.regionCode = regionCode
  source_eq : r.source = some Master.source
  isPlaceholder_eq : r.isPlaceholder = false
  status_eq : r.status = none
  hasPollData_eq : r.hasPollData = r.latestMatchupId.isSome
  latest_ne_empty : ∀ id, r.latestMatchupId = some id → id ≠ ""
  priority_eq : r.priority = if r.hasPollData then 192 else 184

theorem isMasterRecord_slot (master : Master) (region : MasterRegion)
    (regionCode office : String) :
    IsMasterRecord regionCode (master.slot region regionCode office) where
  matchupId_eq := rfl
  regionCode_eq := rfl
  source_eq := rfl
  isPlaceholder_eq := rfl
  status_eq := rfl
  hasPollData_eq := rfl
  latest_ne_empty id hid := of_decide_eq_true (Option.filter_eq_some_iff.mp hid).2
  priority_eq := by
    have hofficial : (master.slot region regionCode office).isOfficial = true := rfl
    have hprimary : (master.slot region regionCode office).isPrimary = true := by
      show Election.primarySources.contains
        (String.ofList (lowerCase (Text.trim Master.source))) = true
      decide +kernel
    rw [Candidacy.priority, Candidacy.signals, hofficial, hprimary]
    cases (master.slot region regionCode office).hasPollData with
    | true => rfl
    | false => rfl

namespace IsMasterRecord

variable {regionCode : String} {r s : Candidacy}

theorem outranks_of_hasPollData (hs : IsMasterRecord regionCode s)
    (hr : IsMasterRecord regionCode r) (hpolled : s.hasPollData = true)
    (hunpolled : r.hasPollData = false) : s.Outranks r := by
  have hs' := hs.priority_eq
  have hr' := hr.priority_eq
  rw [hpolled, if_pos rfl] at hs'
  rw [hunpolled, if_neg Bool.false_ne_true] at hr'
  rw [Candidacy.Outranks, Candidacy.rank, hs', hr']
  rfl

theorem matchupId_ne_empty (h : IsMasterRecord regionCode r) : r.matchupId ≠ "" := by
  rw [h.matchupId_eq, Master.slotMatchupId]
  simp

theorem statusText_eq (h : IsMasterRecord regionCode r) :
    r.statusText =
      if r.hasPollData then Candidacy.statusReady else Candidacy.statusNoData := by
  rw [Candidacy.statusText, h.status_eq]
  rfl

/-- A record that no other one outranks has poll data if any of them has. -/
theorem hasPollData_of_not_outranked (hr : IsMasterRecord regionCode r)
    (hs : IsMasterRecord regionCode s) (hrank : ¬ s.Outranks r) (hpolled : s.hasPollData = true) :
    r.hasPollData = true := by
  cases hunpolled : r.hasPollData with
  | true => rfl
  | false => exact absurd (hs.outranks_of_hasPollData hr hpolled hunpolled) hrank

end IsMasterRecord

/-! ## The elections of a province -/

/-- A record for the office has a latest matchup. -/
def HasLatest (office : Office) (records : List Candidacy) : Prop :=
  ∃ r ∈ records, r.IsFor office ∧ r.latestMatchupId ≠ none

/-- The election that is shown for an office from the records of a region's master: the
representative of the office, with its own label and status, and no placeholder. It has poll
data if any record for the office has, and then it leads to the latest matchup of the
representative. Otherwise it leads to the representative's own matchup. -/
structure ShowsMaster (records : List Candidacy) (regionCode : String) (x : Resolved) : Prop where
  isPlaceholder_eq : x.record.isPlaceholder = false
  regionCode_eq : x.record.regionCode = regionCode
  source_eq : x.record.source = some Master.source
  hasPollData_iff : x.record.hasPollData = true ↔ HasLatest x.slot records
  ready_iff : x.status = Candidacy.statusReady ↔ HasLatest x.slot records
  chosen : ∃ r, IsRepresentative x.slot records r ∧ x.record = r.shownAs x.slot ∧
    r.matchupId = Master.slotMatchupId regionCode r.officeType ∧
    (HasLatest x.slot records → r.latestMatchupId ≠ none ∧
      x.navigationMatchupId = r.latestMatchupId) ∧
    (¬ HasLatest x.slot records → x.navigationMatchupId = some r.matchupId)

theorem IsMasterRecord.navigationMatchupId_eq {regionCode : String} {r : Candidacy}
    (h : IsMasterRecord regionCode r) (office : Office) :
    (⟨office, r.shownAs office⟩ : Resolved).navigationMatchupId =
      some (r.latestMatchupId.getD r.matchupId) := by
  have hplaceholder : (r.shownAs office).isPlaceholder = false := h.isPlaceholder_eq
  have hown : (r.shownAs office).matchupId = r.matchupId := rfl
  have hlatest : (r.shownAs office).latestMatchupId = r.latestMatchupId := rfl
  rw [Resolved.navigationMatchupId]
  dsimp only
  rw [hlatest, hplaceholder, hown, beq_false_of_ne h.matchupId_ne_empty]
  cases hid : r.latestMatchupId with
  | none => rfl
  | some id =>
    have hne : id ≠ "" := h.latest_ne_empty id hid
    simp [Option.filter, hne]

theorem hasPollData_iff_hasLatest {records : List Candidacy} {regionCode : String} {office : Office}
    (hrecords : ∀ r ∈ records, IsMasterRecord regionCode r) {r : Candidacy}
    (hrep : IsRepresentative office records r) :
    r.hasPollData = true ↔ HasLatest office records := by
  have hgreatest := hrep.isGreatest
  have hr := hrecords r hgreatest.mem
  constructor
  · intro hpoll
    rw [hr.hasPollData_eq, Option.isSome_iff_ne_none] at hpoll
    exact ⟨r, hgreatest.mem, hgreatest.isFor, hpoll⟩
  · rintro ⟨s, hmem, hfor, hlatest⟩
    have hs := hrecords s hmem
    have hspolled : s.hasPollData = true := by
      rw [hs.hasPollData_eq, Option.isSome_iff_ne_none]
      exact hlatest
    exact hr.hasPollData_of_not_outranked hs (hgreatest.not_outranked s hmem hfor) hspolled

theorem showsMaster_shownAs {records : List Candidacy} {regionCode : String} {office : Office}
    (hrecords : ∀ r ∈ records, IsMasterRecord regionCode r) {r : Candidacy}
    (hrep : IsRepresentative office records r) :
    ShowsMaster records regionCode ⟨office, r.shownAs office⟩ := by
  have hr := hrecords r hrep.isGreatest.mem
  have hpolled := hasPollData_iff_hasLatest hrecords hrep
  have hnavigation := hr.navigationMatchupId_eq office
  refine {
    isPlaceholder_eq := hr.isPlaceholder_eq
    regionCode_eq := hr.regionCode_eq
    source_eq := hr.source_eq
    hasPollData_iff := hpolled
    ready_iff := ?_
    chosen := ⟨r, hrep, rfl, hr.matchupId_eq, ?_, ?_⟩ }
  · show r.statusText = Candidacy.statusReady ↔ HasLatest office records
    rw [← hpolled, hr.statusText_eq]
    cases r.hasPollData with
    | true => simp
    | false => decide
  · intro hlatest
    rw [← hpolled, hr.hasPollData_eq] at hlatest
    obtain ⟨id, hid⟩ := Option.isSome_iff_exists.mp hlatest
    rw [hnavigation, hid]
    exact ⟨nofun, rfl⟩
  · intro hlatest
    rw [← hpolled, hr.hasPollData_eq, Bool.not_eq_true, Option.isSome_eq_false_iff,
      Option.isNone_iff_eq_none] at hlatest
    rw [hnavigation, hlatest, Option.getD_none]

/-- The records of a province's master, written and read back, are resolved to one election for
each office of the province, whatever by-elections there are and whatever region the elections
are resolved for. -/
theorem resolveMetro_slots {master : Master} {region : MasterRegion} {regionCode : String}
    (hregions : master.regions = [region])
    (hlevel : region.adminLevel = none ∨ region.adminLevel = some .sido)
    (hcode : Text.content? region.regionCode = some regionCode) (ctx : Context) :
    ∃ feed, Json.read? (Json.compact (.array (master.slots.map Candidacy.toJson))) = some feed ∧
      Candidacy.ofFeed feed = master.slots ∧
      (resolveMetro (Candidacy.ofFeed feed) ctx).map Resolved.slot = Office.metro ∧
      ∀ x ∈ resolveMetro (Candidacy.ofFeed feed) ctx, ShowsMaster master.slots regionCode x := by
  have hfeed : Candidacy.ofFeed (.array (master.slots.map Candidacy.toJson)) = master.slots :=
    (Candidacy.carries_toJson master.slots).ofFeed_eq
  refine ⟨_, Candidacy.read?_compact_feed master.slots, hfeed, ?_, ?_⟩
  · rw [resolveMetro, resolve, List.map_map]
    exact List.map_id _
  rw [hfeed]
  have hslots := Master.slots_eq hregions hcode
  have hrecords : ∀ r ∈ master.slots, IsMasterRecord regionCode r := by
    rw [hslots]
    exact List.forall_mem_map.mpr fun office _ => isMasterRecord_slot master region _ office
  refine List.forall_mem_map.mpr fun office hoffice => ?_
  have hoffices : office ∈ (region.adminLevel.getD .sido).offices := by
    rcases hlevel with hnone | hsido
    · rw [hnone]
      exact hoffice
    · rw [hsido]
      exact hoffice
  -- the record under the office's own label keeps the office from being empty
  have hregular : ∃ r ∈ master.slots, r.IsFor office := by
    rw [hslots]
    exact ⟨_, List.mem_map_of_mem (master.label_mem_officesOf hoffices regionCode),
      Office.ofText?_label office⟩
  cases hchosen : (Choices.ofRecords master.slots Office.metro)[office]? with
  | none =>
    obtain ⟨r, hmem, hfor⟩ := hregular
    exact absurd hfor ((Choices.ofRecords_eq_none_iff hoffice).mp hchosen r hmem)
  | some r =>
    exact showsMaster_shownAs hrecords (Choices.isRepresentative_of_ofRecords hoffice hchosen)

/-- A province whose only poll is one for a by-election under another spelling of an office. -/
def byElectionMaster : Master :=
  .ofFile {
    regions := [⟨" 11-000", "서울특별시", none, none⟩]
    latestMatchups := [(⟨"11-000", "시도지사"⟩, "m-7")]
    byElections := [⟨"11-000", "시도지사"⟩] }

theorem resolveMetro_slots_byElectionMaster :
    ∃ feed, Json.read? (Json.compact (.array (byElectionMaster.slots.map Candidacy.toJson))) =
        some feed ∧
      ∃ x ∈ resolveMetro (Candidacy.ofFeed feed) ⟨"", ""⟩, x.slot = .metroHead ∧
        x.record.isPlaceholder = false ∧ x.record.hasPollData = true := by
  have hcode : Text.content? " 11-000" = some "11-000" := by decide +kernel
  have hlatest : HasLatest .metroHead byElectionMaster.slots := by
    unfold HasLatest
    decide +kernel
  have hregions : byElectionMaster.regions = [⟨" 11-000", "서울특별시", none, none⟩] := rfl
  obtain ⟨feed, hread, _, hslots, hshown⟩ :=
    resolveMetro_slots hregions (Or.inl rfl) hcode ⟨"", ""⟩
  have hhead : Office.metroHead ∈ (resolveMetro (Candidacy.ofFeed feed) ⟨"", ""⟩).map
      Resolved.slot := by
    rw [hslots]
    decide
  obtain ⟨x, hx, hslot⟩ := List.mem_map.mp hhead
  have hmaster := hshown x hx
  have hpolled := hmaster.hasPollData_iff
  rw [hslot] at hpolled
  exact ⟨feed, hread, x, hx, hslot, hmaster.isPlaceholder_eq, hpolled.mpr hlatest⟩

end PollAtlas.Election
