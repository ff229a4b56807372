import PollAtlas.Election.Resolution
import PollAtlas.Proofs.Survivor

/-!
# The representative of an office

The records are read once, and the best record of each office is replaced as better ones
come. The invariant holds for all offices at once: what is held for an office is what a scan
through the records of that office would hold (`getElem?_ofRecords`). The order of records is
a weak one, so such a scan ends with the first of the greatest records.

* `IsGreatest`, `IsRepresentative`: the greatest records of an office, and the first of them.
* `isRepresentative_of_ofRecords`, `ofRecords_eq_none_iff`: what is chosen for an office.
-/

namespace PollAtlas.Election

/-- The record is one for the office. -/
def Candidacy.IsFor (office : Office) (r : Candidacy) : Prop :=
  Office.ofText? r.officeType = some office

instance (office : Office) : DecidablePred (Candidacy.IsFor office) := fun r =>
  inferInstanceAs (Decidable (Office.ofText? r.officeType = some office))

/-- A record for the office that no other one outranks. -/
structure IsGreatest (office : Office) (records : List Candidacy) (r : Candidacy) : Prop where
  mem : r ∈ records
  isFor : r.IsFor office
  not_outranked : ∀ q ∈ records, q.IsFor office → Candidacy.rank q r ≠ .gt

/-- The first of the greatest records for the office. -/
def IsRepresentative (office : Office) (records : List Candidacy) (r : Candidacy) : Prop :=
  ∃ before after, records = before ++ r :: after ∧ IsGreatest office records r ∧
    ∀ q ∈ before, ¬ IsGreatest office records q

theorem IsRepresentative.isGreatest {office : Office} {records : List Candidacy} {r : Candidacy}
    (h : IsRepresentative office records r) : IsGreatest office records r := by
  obtain ⟨_, _, _, hgreatest, _⟩ := h
  exact hgreatest

namespace Candidacy

/-! ## The order of records -/

instance : Std.TransCmp rank :=
  inferInstanceAs <| Std.TransCmp <|
    compareLex (compareOn priority) (compareLex (compareOn dateKey) (compareOn matchupId))

/-- One record comes before another. -/
def Outranks (a b : Candidacy) : Prop := rank a b = .gt

instance : DecidableRel Outranks := fun a b => inferInstanceAs (Decidable (rank a b = .gt))

theorem not_outranks_iff {a b : Candidacy} : ¬ Outranks a b ↔ (rank a b).isLE = true :=
  Ordering.isLE_iff_ne_gt.symm

theorem Outranks.asymm {a b : Candidacy} (h : Outranks a b) : ¬ Outranks b a := by
  have hlt : rank b a = .lt := Std.OrientedCmp.lt_of_gt h
  intro hgt
  rw [Outranks, hlt] at hgt
  cases hgt

theorem replacement_outranks : Replacement Outranks where
  trans hxy hyz := Std.TransCmp.gt_trans hxy hyz
  between y hxz := by
    by_contra hneither
    obtain ⟨hxy, hyz⟩ := not_or.mp hneither
    have hle := Std.TransCmp.isLE_trans (not_outranks_iff.mp hxy) (not_outranks_iff.mp hyz)
    exact not_outranks_iff.mpr hle hxz

theorem better_eq_kept (held : Option Candidacy) (next : Candidacy) :
    better held next = kept Outranks held next := by
  cases held with
  | none => rfl
  | some held => rfl

end Candidacy

open Candidacy (IsFor Outranks)

theorem isGreatest_of_survives {office : Office} {records : List Candidacy} {r : Candidacy}
    (h : Survives Outranks (records.filter (IsFor office)) r) : IsGreatest office records r := by
  obtain ⟨hmem, hfor⟩ := List.mem_filter.mp h.mem
  refine ⟨hmem, of_decide_eq_true hfor, fun q hq hqfor hgt => ?_⟩
  obtain ⟨earlier, later, hsplit, hearlier, hlater⟩ := h
  have hq' : q ∈ earlier ++ r :: later := by
    rw [← hsplit]
    exact List.mem_filter.mpr ⟨hq, decide_eq_true hqfor⟩
  rcases List.mem_append.mp hq' with hq' | hq'
  · exact (hearlier q hq').asymm hgt
  · rcases List.mem_cons.mp hq' with rfl | hq'
    · exact Candidacy.Outranks.asymm hgt hgt
    · exact hlater q hq' hgt

/-- What survives a scan through the records for an office is the first of the greatest
ones. -/
theorem isRepresentative_of_survives {office : Office} {records : List Candidacy}
    {r : Candidacy} (h : Survives Outranks (records.filter (IsFor office)) r) :
    IsRepresentative office records r := by
  have hgreatest := isGreatest_of_survives h
  obtain ⟨earlier, later, hsplit, hearlier, _⟩ := h
  -- the same split of all records: others may stand between those for the office
  obtain ⟨front, back, rfl, hfront, hback⟩ := List.filter_eq_append_iff.mp hsplit
  obtain ⟨others, rest, rfl, hothers, _, _⟩ := List.filter_eq_cons_iff.mp hback
  refine ⟨front ++ others, rest, (List.append_assoc _ _ _).symm, hgreatest, ?_⟩
  intro q hq hq'
  rcases List.mem_append.mp hq with hq | hq
  · have hqearlier : q ∈ earlier := hfront ▸ List.mem_filter.mpr ⟨hq, decide_eq_true hq'.isFor⟩
    exact hq'.not_outranked r hgreatest.mem hgreatest.isFor (hearlier q hqearlier)
  · exact hothers q hq (decide_eq_true hq'.isFor)

namespace Choices

/-! ## One record -/

theorem getElem?_add {slots : List Office} {office : Office} (hslot : office ∈ slots)
    (choices : Choices) (r : Candidacy) :
    (choices.add slots r)[office]? =
      if r.IsFor office then some (Candidacy.better choices[office]? r)
      else choices[office]? := by
  cases hnamed : Office.ofText? r.officeType with
  | none =>
    have hfor : ¬ r.IsFor office := by simp [IsFor, hnamed]
    rw [add, hnamed, if_neg hfor]
  | some named =>
    by_cases heq : named = office
    · subst heq
      have hfor : r.IsFor named := hnamed
      have hasked : slots.contains named = true := List.contains_iff_mem.mpr hslot
      rw [add, hnamed, if_pos hfor]
      simp only [hasked, ↓reduceIte, Std.ExtTreeMap.getElem?_insert_self]
    · have hfor : ¬ r.IsFor office := by simp [IsFor, hnamed, heq]
      rw [add, hnamed, if_neg hfor]
      by_cases hasked : slots.contains named = true
      · have hcompare : compare named office ≠ .eq := by simp [heq]
        simp only [hasked, ↓reduceIte, Std.ExtTreeMap.getElem?_insert, hcompare]
      · simp only [hasked, Bool.false_eq_true, ↓reduceIte]

/-! ## All records -/

/-- What is held for an office that is asked for is what a scan through its records holds. -/
theorem getElem?_ofRecords {slots : List Office} {office : Office} (hslot : office ∈ slots)
    (records : List Candidacy) :
    (ofRecords records slots)[office]? = survivor? Outranks (records.filter (IsFor office)) := by
  induction records using List.reverseRecOn with
  | nil => exact Std.ExtTreeMap.getElem?_empty
  | append_singleton records r ih =>
    have hadd : ofRecords (records ++ [r]) slots = (ofRecords records slots).add slots r := by
      simp [ofRecords]
    rw [hadd, getElem?_add hslot, survivor?_filter_concat, ← ih, Candidacy.better_eq_kept]

theorem isRepresentative_of_ofRecords {slots : List Office} {office : Office}
    (hslot : office ∈ slots) {records : List Candidacy} {r : Candidacy}
    (h : (ofRecords records slots)[office]? = some r) : IsRepresentative office records r := by
  rw [getElem?_ofRecords hslot, survivor?_eq_some_iff Candidacy.replacement_outranks] at h
  exact isRepresentative_of_survives h

theorem ofRecords_eq_none_iff {slots : List Office} {office : Office} (hslot : office ∈ slots)
    {records : List Candidacy} :
    (ofRecords records slots)[office]? = none ↔ ∀ r ∈ records, ¬ r.IsFor office := by
  rw [getElem?_ofRecords hslot, survivor?_eq_none_iff, List.filter_eq_nil_iff]
  simp only [decide_eq_true_eq]

end Choices

end PollAtlas.Election
