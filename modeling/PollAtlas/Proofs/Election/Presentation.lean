import Mathlib.Logic.Relation
import PollAtlas.Proofs.Election.Representative

/-!
# Feeds that present the same records

A feed may list its records in any order, name an office in any accepted spelling, and carry
records for offices that are not asked for. None of this reaches the elections that are shown,
except through ties: the scan keeps the first of equally ranked records. What every such change
keeps, for each office that is asked for, is the bag of its records apart from the spelling of
the office (`Presents.perm_recordsFor`). The representative is a greatest element of that bag, so its
rank is fixed by the bag, and so is the record itself once equal ranks belong to equal records.

* `Rearranges`, `Presents`: one change of a feed, and any number of them.
* `Agree`: what two resolutions for the same offices have in common.
* `Presents.agree`: every two presentations of the same records agree.
-/

namespace PollAtlas.Election

open Candidacy (rank IsFor)

/-! ## Presentations -/

/-- One change in how a feed presents the records for some offices. -/
inductive Rearranges (slots : List Office) : List Candidacy → List Candidacy → Prop where
  /-- The records come in another order. -/
  | reorder {records records' : List Candidacy} (h : records.Perm records') :
      Rearranges slots records records'
  /-- A record names its office in another accepted spelling. -/
  | respell (before after : List Candidacy) {r : Candidacy} {office : Office} {text : String}
      (hfor : r.IsFor office) (htext : Office.ofText? text = some office) :
      Rearranges slots (before ++ r :: after) (before ++ { r with officeType := text } :: after)
  /-- A record is added that belongs to none of the offices. -/
  | insert (before after : List Candidacy) {r : Candidacy}
      (hother : ∀ office ∈ slots, ¬ r.IsFor office) :
      Rearranges slots (before ++ after) (before ++ r :: after)
  /-- A record is left out that belongs to none of the offices. -/
  | remove (before after : List Candidacy) {r : Candidacy}
      (hother : ∀ office ∈ slots, ¬ r.IsFor office) :
      Rearranges slots (before ++ r :: after) (before ++ after)

/-- The second feed is another presentation of the first one. -/
def Presents (slots : List Office) : List Candidacy → List Candidacy → Prop :=
  Relation.ReflTransGen (Rearranges slots)

/-- A record apart from the spelling of its office. -/
def Candidacy.unlabelled (r : Candidacy) : Candidacy := { r with officeType := "" }

/-- The records for an office, apart from the spelling of the office. -/
def recordsFor (office : Office) (records : List Candidacy) : List Candidacy :=
  (records.filter (IsFor office)).map Candidacy.unlabelled

theorem mem_recordsFor {office : Office} {records : List Candidacy} {x : Candidacy} :
    x ∈ recordsFor office records ↔ ∃ r ∈ records, r.IsFor office ∧ r.unlabelled = x := by
  simp [recordsFor, and_assoc]

theorem recordsFor_append (office : Office) (records others : List Candidacy) :
    recordsFor office (records ++ others) =
      recordsFor office records ++ recordsFor office others := by
  rw [recordsFor, List.filter_append, List.map_append, recordsFor, recordsFor]

theorem recordsFor_cons (office : Office) (r : Candidacy) (records : List Candidacy) :
    recordsFor office (r :: records) =
      (if r.IsFor office then [r.unlabelled] else []) ++ recordsFor office records := by
  by_cases hfor : r.IsFor office
  · simp [recordsFor, hfor]
  · simp [recordsFor, hfor]

theorem Rearranges.perm_recordsFor {slots : List Office} {records records' : List Candidacy}
    (h : Rearranges slots records records') {office : Office} (hslot : office ∈ slots) :
    (recordsFor office records).Perm (recordsFor office records') := by
  cases h with
  | reorder h => exact (h.filter _).map _
  | @respell before after r named text hfor htext =>
    have hsame : { r with officeType := text }.IsFor office ↔ r.IsFor office := by
      rw [IsFor, IsFor, htext, hfor]
    have hapart : { r with officeType := text }.unlabelled = r.unlabelled := rfl
    simp only [recordsFor_append, recordsFor_cons, hsame, hapart]
    exact List.Perm.refl _
  | insert before after hother =>
    simp only [recordsFor_append, recordsFor_cons, if_neg (hother office hslot), List.nil_append]
    exact List.Perm.refl _
  | remove before after hother =>
    simp only [recordsFor_append, recordsFor_cons, if_neg (hother office hslot), List.nil_append]
    exact List.Perm.refl _

theorem Presents.perm_recordsFor {slots : List Office} {records records' : List Candidacy}
    (h : Presents slots records records') {office : Office} (hslot : office ∈ slots) :
    (recordsFor office records).Perm (recordsFor office records') := by
  induction h with
  | refl => exact List.Perm.refl _
  | tail _ hstep ih => exact ih.trans (hstep.perm_recordsFor hslot)

/-- With the same records for an office, a record of one list stands in the other one too, in
some spelling. -/
theorem exists_respelled {office : Office} {records records' : List Candidacy}
    (hbag : (recordsFor office records).Perm (recordsFor office records')) {r : Candidacy}
    (hr : r ∈ records) (hfor : r.IsFor office) :
    ∃ q ∈ records', q.IsFor office ∧ q.unlabelled = r.unlabelled :=
  mem_recordsFor.mp (hbag.mem_iff.mp (mem_recordsFor.mpr ⟨r, hr, hfor, rfl⟩))

/-! ## Ranks -/

/-- Two records have the same priority, survey date and matchup. Blanks around a date do not count,
and a missing date is empty. -/
structure SameRank (r q : Candidacy) : Prop where
  priority : r.priority = q.priority
  date : (r.latestSurveyEndDate.map Text.trim).getD "" =
    (q.latestSurveyEndDate.map Text.trim).getD ""
  matchupId : r.matchupId = q.matchupId

theorem rank_eq_eq_iff {r q : Candidacy} : rank r q = .eq ↔ SameRank r q := by
  rw [rank, Ordering.then_eq_eq, Ordering.then_eq_eq, Std.LawfulEqCmp.compare_eq_iff_eq,
    Std.LawfulEqCmp.compare_eq_iff_eq, Std.LawfulEqCmp.compare_eq_iff_eq]
  exact ⟨fun ⟨hp, hd, hm⟩ => ⟨hp, hd, hm⟩, fun ⟨hp, hd, hm⟩ => ⟨hp, hd, hm⟩⟩

theorem rank_congr {r q r' q' : Candidacy} (hr : r.unlabelled = r'.unlabelled)
    (hq : q.unlabelled = q'.unlabelled) : rank r q = rank r' q' :=
  calc rank r q = rank r.unlabelled q.unlabelled := rfl
    _ = rank r'.unlabelled q'.unlabelled := by rw [hr, hq]
    _ = rank r' q' := rfl

theorem rank_eq_eq_of_not_gt {r q : Candidacy} (h : rank r q ≠ .gt) (h' : rank q r ≠ .gt) :
    rank r q = .eq := by
  cases hrank : rank r q with
  | eq => rfl
  | gt => exact absurd hrank h
  | lt => exact absurd (Std.OrientedCmp.gt_of_lt hrank) h'

theorem IsGreatest.sameRank {office : Office} {records records' : List Candidacy}
    (hbag : (recordsFor office records).Perm (recordsFor office records')) {r r' : Candidacy}
    (h : IsGreatest office records r) (h' : IsGreatest office records' r') : SameRank r r' := by
  -- each of the two stands in the other list too, and there it is not outranked
  obtain ⟨q', hq', hfor', hapart'⟩ := exists_respelled hbag h.mem h.isFor
  obtain ⟨q, hq, hfor, hapart⟩ := exists_respelled hbag.symm h'.mem h'.isFor
  have hle : rank r r' ≠ .gt := rank_congr hapart' rfl ▸ h'.not_outranked q' hq' hfor'
  have hge : rank r' r ≠ .gt := rank_congr hapart rfl ▸ h.not_outranked q hq hfor
  exact rank_eq_eq_iff.mp (rank_eq_eq_of_not_gt hle hge)

/-! ## Choices -/

/-- The record that is chosen for an office. Without one the entry of the office is
synthesized. -/
def chosen? (records : List Candidacy) (slots : List Office) (office : Office) :
    Option Candidacy :=
  (Choices.ofRecords records slots)[office]?

/-- The entry of an office: the chosen record, or the placeholder. -/
def entry (ctx : Context) (office : Office) (choice : Option Candidacy) : Resolved :=
  ⟨office, (choice.getD (placeholder office ctx)).shownAs office⟩

theorem resolve_eq_map (records : List Candidacy) (slots : List Office) (ctx : Context) :
    resolve records slots ctx =
      slots.map fun office => entry ctx office (chosen? records slots office) := rfl

section

variable {slots : List Office} {records records' : List Candidacy} {office : Office}

theorem isGreatest_of_chosen? (hslot : office ∈ slots) {r : Candidacy}
    (h : chosen? records slots office = some r) : IsGreatest office records r := by
  obtain ⟨_, _, _, hgreatest, _⟩ := Choices.isRepresentative_of_ofRecords hslot h
  exact hgreatest

theorem chosen?_eq_none_iff (hslot : office ∈ slots) :
    chosen? records slots office = none ↔ recordsFor office records = [] := by
  rw [chosen?, Choices.ofRecords_eq_none_iff hslot, recordsFor, List.map_eq_nil_iff,
    List.filter_eq_nil_iff]
  simp only [decide_eq_true_eq]

theorem chosen?_rel (hslot : office ∈ slots)
    (hbag : (recordsFor office records).Perm (recordsFor office records')) :
    Option.Rel SameRank (chosen? records slots office) (chosen? records' slots office) := by
  have hnone : chosen? records slots office = none ↔ chosen? records' slots office = none := by
    rw [chosen?_eq_none_iff hslot, chosen?_eq_none_iff hslot]
    exact ⟨fun h => (h ▸ hbag).nil_eq.symm, fun h => (h ▸ hbag).eq_nil⟩
  cases h : chosen? records slots office with
  | none =>
    rw [hnone.mp h]
    exact Option.Rel.none
  | some r =>
    cases h' : chosen? records' slots office with
    | none => rw [hnone.mpr h'] at h; cases h
    | some r' =>
      exact Option.Rel.some
        ((isGreatest_of_chosen? hslot h).sameRank hbag (isGreatest_of_chosen? hslot h'))

end

/-! ## Agreement -/

/-- Records for one of the offices that tie are the same record, apart from the spelling of
the office. -/
def TiesAreCopies (slots : List Office) (records : List Candidacy) : Prop :=
  ∀ office ∈ slots, ∀ r ∈ records, ∀ q ∈ records, r.IsFor office → q.IsFor office →
    SameRank r q → r.unlabelled = q.unlabelled

theorem entry_congr {ctx : Context} {office : Office} {r q : Candidacy}
    (h : r.unlabelled = q.unlabelled) : entry ctx office (some r) = entry ctx office (some q) :=
  calc entry ctx office (some r) = ⟨office, r.unlabelled.shownAs office⟩ := rfl
    _ = ⟨office, q.unlabelled.shownAs office⟩ := by rw [h]
    _ = entry ctx office (some q) := rfl

theorem entry_chosen?_eq {slots : List Office} {records records' : List Candidacy}
    {office : Office} (hslot : office ∈ slots)
    (hbag : (recordsFor office records).Perm (recordsFor office records'))
    (hties : TiesAreCopies slots records) (ctx : Context) :
    entry ctx office (chosen? records slots office) =
      entry ctx office (chosen? records' slots office) := by
  have hrel := chosen?_rel hslot hbag
  generalize h : chosen? records slots office = choice at hrel ⊢
  generalize h' : chosen? records' slots office = choice' at hrel ⊢
  cases hrel with
  | none => rfl
  | @some r r' hsame =>
    have hr := isGreatest_of_chosen? hslot h
    have hr' := isGreatest_of_chosen? hslot h'
    -- the second record stands in the first list, where it ties with the first record
    obtain ⟨q, hq, hfor, hapart⟩ := exists_respelled hbag.symm hr'.mem hr'.isFor
    have htie : SameRank r q := by
      rw [← rank_eq_eq_iff, rank_congr rfl hapart, rank_eq_eq_iff]
      exact hsame
    exact entry_congr ((hties office hslot r hr.mem q hq hr.isFor hfor htie).trans hapart)

/-- The order of records is total and transitive, and turning it round swaps its answers. -/
structure OrdersWeakly (cmp : Candidacy → Candidacy → Ordering) : Prop where
  total : ∀ a b, (cmp a b).isLE = true ∨ (cmp b a).isLE = true
  trans : ∀ a b c, (cmp a b).isLE = true → (cmp b c).isLE = true → (cmp a c).isLE = true
  swap : ∀ a b, cmp b a = (cmp a b).swap

theorem ordersWeakly_rank : OrdersWeakly rank where
  total a b := by
    have hswap : rank b a = (rank a b).swap := Std.OrientedCmp.eq_swap
    rw [hswap]
    cases rank a b with
    | lt => exact Or.inl rfl
    | eq => exact Or.inl rfl
    | gt => exact Or.inr rfl
  trans a b c hab hbc := Std.TransCmp.isLE_trans hab hbc
  swap a b := Std.OrientedCmp.eq_swap

/-- What the resolutions of two feeds for the same offices have in common. Entry by entry both
show a chosen record or both a placeholder, and the chosen records have the same rank. If ties
are between copies, the two resolutions are the same. -/
structure Agree (slots : List Office) (records records' : List Candidacy) (ctx : Context) :
    Prop where
  shown : ∀ (i : Nat) office, slots[i]? = some office →
    (resolve records slots ctx)[i]? = some (entry ctx office (chosen? records slots office)) ∧
    (resolve records' slots ctx)[i]? = some (entry ctx office (chosen? records' slots office))
  sameRank : ∀ office ∈ slots,
    Option.Rel SameRank (chosen? records slots office) (chosen? records' slots office)
  same : TiesAreCopies slots records → resolve records slots ctx = resolve records' slots ctx

/-- The order of records is a total preorder, and any two presentations of the same records
agree. -/
theorem Presents.agree {slots : List Office} {records records' : List Candidacy}
    (h : Presents slots records records') (ctx : Context) :
    OrdersWeakly rank ∧ Agree slots records records' ctx := by
  refine ⟨ordersWeakly_rank, {
    shown := fun i office hi => ⟨?_, ?_⟩
    sameRank := fun office hslot => chosen?_rel hslot (h.perm_recordsFor hslot)
    same := fun hties => ?_ }⟩
  · rw [resolve_eq_map, List.getElem?_map, hi, Option.map_some]
  · rw [resolve_eq_map, List.getElem?_map, hi, Option.map_some]
  · rw [resolve_eq_map, resolve_eq_map]
    refine List.map_congr_left fun office hslot => ?_
    exact entry_chosen?_eq hslot (h.perm_recordsFor hslot) hties ctx

/-! ## A feed in another presentation -/

/-- A record for the council of a province. -/
def council : Candidacy :=
  { Candidacy.blank with
    matchupId := "m-2", officeType := "광역의회", latestSurveyEndDate := some "2026-01-01" }

/-- A second one with a later date, which has blanks around it. -/
def laterCouncil : Candidacy :=
  { council with matchupId := "m-1", latestSurveyEndDate := some " 2026-02-01 " }

/-- A record for an office that is not known. -/
def president : Candidacy := { Candidacy.blank with matchupId := "m-3", officeType := "대통령" }

/-- The first record in another spelling. -/
def respelledCouncil : Candidacy := { council with officeType := " Metro_Council " }

/-- The order of the two councils is reversed, one of them is respelled, and a record for an
unknown office comes first. -/
theorem presents_council : Presents [.metroCouncil] [council, laterCouncil]
    [president, laterCouncil, respelledCouncil] := by
  have hreorder : Rearranges [.metroCouncil] [council, laterCouncil] [laterCouncil, council] :=
    .reorder (List.Perm.swap _ _ _)
  have hfor : council.IsFor .metroCouncil := by decide +kernel
  have htext : Office.ofText? " Metro_Council " = some .metroCouncil := by decide +kernel
  have hrespell : Rearranges [.metroCouncil] [laterCouncil, council]
      [laterCouncil, respelledCouncil] := .respell [laterCouncil] [] hfor htext
  have hother : ∀ office ∈ [Office.metroCouncil], ¬ president.IsFor office := by decide +kernel
  have hinsert : Rearranges [.metroCouncil] [laterCouncil, respelledCouncil]
      [president, laterCouncil, respelledCouncil] := .insert [] _ hother
  exact ((Relation.ReflTransGen.single hreorder).tail hrespell).tail hinsert

theorem tiesAreCopies_council : TiesAreCopies [.metroCouncil] [council, laterCouncil] := by
  intro office _ r hr q hq _ _ hsame
  have hdistinct : council.matchupId ≠ laterCouncil.matchupId := by decide
  simp only [List.mem_cons, List.not_mem_nil, or_false] at hr hq
  rcases hr with rfl | rfl
  · rcases hq with rfl | rfl
    · rfl
    · exact absurd hsame.matchupId hdistinct
  · rcases hq with rfl | rfl
    · exact absurd hsame.matchupId.symm hdistinct
    · rfl

theorem agree_council :
    Presents [.metroCouncil] [council, laterCouncil] [president, laterCouncil, respelledCouncil] ∧
      TiesAreCopies [.metroCouncil] [council, laterCouncil] ∧
      chosen? [council, laterCouncil] [.metroCouncil] .metroCouncil = some laterCouncil ∧
      resolve [council, laterCouncil] [.metroCouncil] ⟨"11-000", "서울특별시"⟩ =
        resolve [president, laterCouncil, respelledCouncil] [.metroCouncil]
          ⟨"11-000", "서울특별시"⟩ :=
  ⟨presents_council, tiesAreCopies_council, by decide +kernel,
    (presents_council.agree ⟨"11-000", "서울특별시"⟩).2.same tiesAreCopies_council⟩

end PollAtlas.Election
