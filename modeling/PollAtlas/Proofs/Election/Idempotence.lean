import PollAtlas.Proofs.Election.Slots

/-!
# Resolving the shown elections again

Showing a record settles it: it gets the label of its office, which reads back as that office,
and a status without blanks around it. A list that holds one settled record for each office
therefore resolves to itself. An office that is asked for twice has two copies of one record,
and which of them wins the tie does not show. Placeholders are settled too, so once they stand
in a feed they are records like any other, and the region that they were made for stays.

* `Candidacy.IsSettled`: the records that showing leaves as they are.
* `resolve_of_isSettled`: a list of settled records.
* `resolve_resolve`: the shown elections resolved again, for any region.
-/

namespace PollAtlas.Election

/-! ## Settled records -/

/-- Showing the record for the office does not change it. -/
def Candidacy.IsSettled (office : Office) (r : Candidacy) : Prop := r.shownAs office = r

namespace Candidacy

theorem HasStatus.trim_eq {r : Candidacy} {text : String} (h : r.HasStatus text) :
    Text.trim text = text := by
  by_cases hown : ∃ s, r.status = some s ∧ Text.trim s ≠ ""
  · obtain ⟨s, hs, hblank⟩ := hown
    rw [h.own s hs hblank, Text.trim_idem]
  · push Not at hown
    rw [h.fixed hown]
    cases r.hasPollData with
    | true => decide +kernel
    | false => decide +kernel

/-- A status that is shown already is shown as it is. -/
theorem statusText_shownAs (office : Office) (r : Candidacy) :
    (r.shownAs office).statusText = r.statusText := by
  have hstatus := r.hasStatus_statusText
  have hown : (r.shownAs office).status = some r.statusText := rfl
  have hagain := (r.shownAs office).hasStatus_statusText.own _ hown hstatus.not_blank
  rw [hagain, hstatus.trim_eq]

theorem isSettled_shownAs (office : Office) (r : Candidacy) :
    (r.shownAs office).IsSettled office := by
  apply shownAs_eq_self
  · rfl
  · rw [statusText_shownAs]
    rfl

theorem IsSettled.isFor_iff {office other : Office} {r : Candidacy} (h : r.IsSettled office) :
    r.IsFor other ↔ office = other := by
  have hlabel : r.officeType = office.label := by
    rw [← h]
    rfl
  rw [IsFor, hlabel, Office.ofText?_label, Option.some.injEq]

end Candidacy

/-! ## A list of settled records -/

section

variable {slots : List Office} {settled : Office → Candidacy}
  (hsettled : ∀ office, (settled office).IsSettled office)

include hsettled

theorem ofRecords_of_isSettled {office : Office} (hslot : office ∈ slots) :
    (Choices.ofRecords (slots.map settled) slots)[office]? = some (settled office) := by
  cases hchosen : (Choices.ofRecords (slots.map settled) slots)[office]? with
  | none =>
    have hnone := (Choices.ofRecords_eq_none_iff hslot).mp hchosen
    have hfor : (settled office).IsFor office := (hsettled office).isFor_iff.mpr rfl
    exact absurd hfor (hnone _ (List.mem_map_of_mem hslot))
  | some r =>
    have hgreatest := (Choices.isRepresentative_of_ofRecords hslot hchosen).isGreatest
    obtain ⟨named, _, rfl⟩ := List.mem_map.mp hgreatest.mem
    -- the only office that a settled record names is its own
    obtain rfl : named = office := (hsettled named).isFor_iff.mp hgreatest.isFor
    rfl

theorem resolve_of_isSettled (ctx : Context) :
    resolve (slots.map settled) slots ctx = slots.map fun office => ⟨office, settled office⟩ := by
  apply List.map_congr_left
  intro office hslot
  rw [ofRecords_of_isSettled hsettled hslot, Option.getD_some, hsettled office]

end

/-! ## The shown elections -/

/-- Once resolved, a list of elections stays as it is, whatever region it is resolved for
again. -/
theorem resolve_resolve (records : List Candidacy) (slots : List Office) (ctx later : Context) :
    resolve ((resolve records slots ctx).map Resolved.record) slots later =
      resolve records slots ctx := by
  let shown (office : Office) : Candidacy :=
    ((Choices.ofRecords records slots)[office]?.getD (placeholder office ctx)).shownAs office
  have hsettled : ∀ office, (shown office).IsSettled office := fun office =>
    Candidacy.isSettled_shownAs office _
  have hrecords : (resolve records slots ctx).map Resolved.record = slots.map shown := by
    rw [resolve, List.map_map]
    rfl
  rw [hrecords, resolve_of_isSettled hsettled]
  rfl

end PollAtlas.Election
