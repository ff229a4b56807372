import PollAtlas.Proofs.Election.Representative

/-!
# The elections that are shown

For every list of offices one election each is shown, in the order of the list. It is the
representative of the office, with the label of the office and a status, or the placeholder.

* `Candidacy.HasStatus`: the status that is shown for a record.
* `Fills`: the election that should be shown for an office.
* `resolve_fills`: the shown elections against it.
-/

namespace PollAtlas.Election

/-! ## The status -/

/-- The status that is shown for a record: its own without the blanks around it, and if that
is blank, a fixed one that says whether there are surveys. -/
structure Candidacy.HasStatus (r : Candidacy) (text : String) : Prop where
  own : ∀ s, r.status = some s → Text.trim s ≠ "" → text = Text.trim s
  fixed : (∀ s, r.status = some s → Text.trim s = "") →
    text = if r.hasPollData then Candidacy.statusReady else Candidacy.statusNoData

theorem Candidacy.hasStatus_statusText (r : Candidacy) : r.HasStatus r.statusText where
  own s hs hblank := by simp [statusText, hs, Text.content?, hblank]
  fixed hblank := by
    cases hs : r.status with
    | none => simp [statusText, hs]
    | some s => simp [statusText, hs, Text.content?, hblank s hs]

theorem Candidacy.HasStatus.not_blank {r : Candidacy} {text : String} (h : r.HasStatus text) :
    Text.trim text ≠ "" := by
  have hready : Text.trim Candidacy.statusReady ≠ "" := by decide +kernel
  have hnone : Text.trim Candidacy.statusNoData ≠ "" := by decide +kernel
  by_cases hown : ∃ s, r.status = some s ∧ Text.trim s ≠ ""
  · obtain ⟨s, hs, hblank⟩ := hown
    rw [h.own s hs hblank, Text.trim_idem]
    exact hblank
  · have hfixed := h.fixed fun s hs => by
      by_contra hblank
      exact hown ⟨s, hs, hblank⟩
    rw [hfixed]
    split
    · exact hready
    · exact hnone

/-! ## Where an election leads -/

theorem navigationMatchupId_eq_some {x : Resolved} {id : String}
    (h : x.navigationMatchupId = some id) :
    id ≠ "" ∧ (x.record.latestMatchupId = some id ∨ id = x.record.matchupId) := by
  unfold Resolved.navigationMatchupId at h
  split at h
  · rename_i latest hlatest
    cases h
    obtain ⟨hlatest, hne⟩ := Option.filter_eq_some_iff.mp hlatest
    exact ⟨of_decide_eq_true hne, Or.inl hlatest⟩
  · split at h
    · cases h
    · rename_i hown
      cases h
      refine ⟨?_, Or.inr rfl⟩
      intro hempty
      exact hown (by simp [hempty])

/-! ## The placeholder -/

theorem shownAs_eq_self {office : Office} {r : Candidacy} (hlabel : r.officeType = office.label)
    (hstatus : r.status = some r.statusText) : r.shownAs office = r := by
  rw [Candidacy.shownAs, ← hlabel, ← hstatus]

/-- Showing a placeholder does not change it. -/
theorem shownAs_placeholder (office : Office) (ctx : Context) :
    (placeholder office ctx).shownAs office = placeholder office ctx := by
  have hown : (placeholder office ctx).status = some Candidacy.statusNoData := rfl
  have htrim : Text.trim Candidacy.statusNoData = Candidacy.statusNoData := by decide +kernel
  have hblank : Text.trim Candidacy.statusNoData ≠ "" := by decide +kernel
  have hstatus := (placeholder office ctx).hasStatus_statusText.own _ hown hblank
  refine shownAs_eq_self rfl ?_
  rw [hstatus, htrim, hown]

/-! ## One election for each office -/

/-- The election that should be shown for an office: the representative of the office, with
nothing changed but its label and its status, or else the placeholder, which leads nowhere. -/
structure Fills (records : List Candidacy) (ctx : Context) (office : Office) (x : Resolved) :
    Prop where
  slot_eq : x.slot = office
  representative : (∃ r ∈ records, r.IsFor office) →
    ∃ r status, IsRepresentative office records r ∧ r.HasStatus status ∧
      x.record = { r with officeType := office.label, status := some status } ∧
      ∀ id, x.navigationMatchupId = some id →
        id ≠ "" ∧ (r.latestMatchupId = some id ∨ id = r.matchupId)
  synthesized : (¬ ∃ r ∈ records, r.IsFor office) →
    x.record = placeholder office ctx ∧ x.navigationMatchupId = none
  status : ∃ status, x.record.status = some status ∧ Text.trim status ≠ ""

theorem fills_shown {records : List Candidacy} {slots : List Office} {office : Office}
    (hslot : office ∈ slots) (ctx : Context) :
    Fills records ctx office
      ⟨office, ((Choices.ofRecords records slots)[office]?.getD
        (placeholder office ctx)).shownAs office⟩ := by
  cases hchosen : (Choices.ofRecords records slots)[office]? with
  | some r =>
    have hrep := Choices.isRepresentative_of_ofRecords hslot hchosen
    have hfor : ∃ r ∈ records, r.IsFor office := by
      obtain ⟨_, _, _, hgreatest, _⟩ := hrep
      exact ⟨r, hgreatest.mem, hgreatest.isFor⟩
    exact {
      slot_eq := rfl
      representative := fun _ =>
        ⟨r, r.statusText, hrep, r.hasStatus_statusText, rfl,
          fun id hid => navigationMatchupId_eq_some hid⟩
      synthesized := fun hnone => absurd hfor hnone
      status := ⟨r.statusText, rfl, r.hasStatus_statusText.not_blank⟩ }
  | none =>
    have hnone := (Choices.ofRecords_eq_none_iff hslot).mp hchosen
    rw [Option.getD_none, shownAs_placeholder]
    exact {
      slot_eq := rfl
      representative := fun ⟨r, hr, hfor⟩ => absurd hfor (hnone r hr)
      synthesized := fun _ => ⟨rfl, rfl⟩
      status := ⟨Candidacy.statusNoData, rfl, by decide +kernel⟩ }

/-- For every list of offices, in any order and with repetitions, one election each is shown,
and it is the one that should be. -/
theorem resolve_fills (records : List Candidacy) (slots : List Office) (ctx : Context) :
    (resolve records slots ctx).length = slots.length ∧
      ∀ (i : Nat) office, slots[i]? = some office →
        ∃ x, (resolve records slots ctx)[i]? = some x ∧ Fills records ctx office x := by
  refine ⟨List.length_map _, fun i office hi => ?_⟩
  refine ⟨_, ?_, fills_shown (List.mem_of_getElem? hi) ctx⟩
  rw [resolve, List.getElem?_map, hi]
  rfl

end PollAtlas.Election
