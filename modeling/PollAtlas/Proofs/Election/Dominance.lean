import Mathlib.Algebra.GroupWithZero.Nat
import Mathlib.Algebra.Order.BigOperators.Group.List
import Mathlib.Algebra.Order.Group.Nat
import PollAtlas.Proofs.Election.Slots

/-!
# Signals that no others outweigh

The weights of a record's signals are added up, so in general several small signals may outweigh
a large one. Two of them cannot be outweighed: the weight of the data set in use is more than all
others together, and the weight of the curated sources is more than the remaining five. Whether a
record carries them can therefore be read off its priority, and the representative of an office,
whose priority is greatest, carries them as soon as any record of the office does.

* `Candidacy.InUse`, `Candidacy.Curated`: the two signals.
* `Candidacy.priority_eq`: the weights of the two signals and of the others.
* `Candidacy.inUse_iff_le_priority`, `Candidacy.curated_iff_le_priority`: the signals, read off
  the priority.
* `resolve_keepsSignals`: the elections that are shown.
-/

namespace PollAtlas.Election

namespace Candidacy

/-! ## The two signals -/

/-- The record belongs to the data set in use: it names that one or none. -/
def InUse (r : Candidacy) : Prop := r.topology = none ∨ r.topology = some "official"

/-- The record comes from a curated source. Blanks around the name of the source and the case of
the letters A to Z do not count. -/
def Curated (r : Candidacy) : Prop :=
  ∃ source, r.source = some source ∧
    String.ofList (lowerCase (Text.trim source)) ∈ ["master", "code_master"]

theorem isOfficial_iff (r : Candidacy) : r.isOfficial = true ↔ r.InUse := by
  rw [isOfficial, topologyName, InUse, beq_iff_eq]
  cases r.topology with
  | none => simp
  | some topology => simp [officialTopology]

theorem isPrimary_iff (r : Candidacy) : r.isPrimary = true ↔ r.Curated := by
  rw [isPrimary, Curated]
  cases r.source with
  | none => simp
  | some source => simp [primarySources]

/-! ## Weights -/

/-- What a signal adds to the priority. -/
def weight (signal : Bool × Nat) : Nat := if signal.1 then signal.2 else 0

/-- The signals besides the two that no others outweigh. -/
def minorSignals (r : Candidacy) : List (Bool × Nat) :=
  [(!r.isFallback, 20), (!r.isPlaceholder, 12), (r.hasPollData, 8), (r.hasCandidateData, 4),
    (r.isActive, 2)]

/-- What they add to the priority. -/
def minorWeight (r : Candidacy) : Nat := (r.minorSignals.map weight).sum

theorem foldl_weight (signals : List (Bool × Nat)) (start : Nat) :
    signals.foldl (fun sum signal => if signal.1 then sum + signal.2 else sum) start =
      start + (signals.map weight).sum := by
  induction signals generalizing start with
  | nil => rfl
  | cons signal signals ih =>
    have hstep : (if signal.1 then start + signal.2 else start) = start + weight signal := by
      rw [weight]
      split
      · rfl
      · rfl
    rw [List.foldl_cons, hstep, ih, List.map_cons, List.sum_cons, Nat.add_assoc]

theorem weight_le (signal : Bool × Nat) : weight signal ≤ signal.2 := by
  rw [weight]
  split
  · exact Nat.le_refl _
  · exact Nat.zero_le _

theorem minorWeight_le (r : Candidacy) : r.minorWeight ≤ 46 :=
  calc r.minorWeight ≤ (r.minorSignals.map Prod.snd).sum :=
        List.sum_le_sum fun signal _ => weight_le signal
    _ = 46 := rfl

theorem priority_eq (r : Candidacy) :
    r.priority = weight (r.isOfficial, 100) + weight (r.isPrimary, 50) + r.minorWeight := by
  rw [priority, foldl_weight, minorWeight, signals, minorSignals]
  simp only [List.map_cons, List.sum_cons]
  omega

/-! ## The signals in the priority -/

theorem inUse_iff_le_priority (r : Candidacy) : r.InUse ↔ 100 ≤ r.priority := by
  have hminor := r.minorWeight_le
  rw [← isOfficial_iff, priority_eq]
  cases r.isOfficial with
  | true =>
    have hweight : weight (true, 100) = 100 := rfl
    exact iff_of_true rfl (by omega)
  | false =>
    -- at most 50 and 46 are left
    have hweight : weight (false, 100) = 0 := rfl
    have hprimary : weight (r.isPrimary, 50) ≤ 50 := weight_le _
    exact iff_of_false Bool.false_ne_true (by omega)

theorem curated_iff_le_priority (r : Candidacy) : r.InUse ∧ r.Curated ↔ 150 ≤ r.priority := by
  have hminor := r.minorWeight_le
  rw [← isOfficial_iff, ← isPrimary_iff, priority_eq]
  cases r.isPrimary with
  | true =>
    have hweight : weight (true, 50) = 50 := rfl
    cases r.isOfficial with
    | true =>
      have hofficial : weight (true, 100) = 100 := rfl
      exact iff_of_true ⟨rfl, rfl⟩ (by omega)
    | false =>
      have hofficial : weight (false, 100) = 0 := rfl
      exact iff_of_false (fun h => Bool.false_ne_true h.1) (by omega)
  | false =>
    -- at most 100 and 46 are left
    have hweight : weight (false, 50) = 0 := rfl
    have hofficial : weight (r.isOfficial, 100) ≤ 100 := weight_le _
    exact iff_of_false (fun h => Bool.false_ne_true h.2) (by omega)

end Candidacy

/-! ## The elections that are shown -/

open Candidacy (IsFor)

theorem IsGreatest.priority_le {office : Office} {records : List Candidacy} {r q : Candidacy}
    (h : IsGreatest office records r) (hq : q ∈ records) (hfor : q.IsFor office) :
    q.priority ≤ r.priority := by
  by_contra hlt
  have hcompare : compare q.priority r.priority = .gt :=
    Nat.compare_eq_gt.mpr (Nat.lt_of_not_le hlt)
  have hrank : Candidacy.rank q r = .gt := by rw [Candidacy.rank, hcompare]; rfl
  exact h.not_outranked q hq hfor hrank

/-- What can be read off the priority holds of a greatest record just when it holds of any record
for the office. -/
theorem IsGreatest.reaches_iff {office : Office} {records : List Candidacy} {r : Candidacy}
    (h : IsGreatest office records r) {P : Candidacy → Prop} {least : Nat}
    (hleast : ∀ q, P q ↔ least ≤ q.priority) :
    P r ↔ ∃ q ∈ records, q.IsFor office ∧ P q := by
  constructor
  · intro hr
    exact ⟨r, h.mem, h.isFor, hr⟩
  · rintro ⟨q, hq, hfor, hPq⟩
    exact (hleast r).mpr (Nat.le_trans ((hleast q).mp hPq) (h.priority_le hq hfor))

/-- An election carries each of the two signals just when some record for its office does: the
data set in use, and that one together with a curated source. -/
structure KeepsSignals (records : List Candidacy) (office : Office) (x : Resolved) : Prop where
  slot_eq : x.slot = office
  inUse_iff : x.record.InUse ↔ ∃ r ∈ records, r.IsFor office ∧ r.InUse
  curated_iff : x.record.InUse ∧ x.record.Curated ↔
    ∃ r ∈ records, r.IsFor office ∧ r.InUse ∧ r.Curated

/-- The election shown for an office that there is a record for is in use as soon as any of its
records is, and it is in use and curated as soon as any of its records is both, whatever else the
records hold and in whatever order they come. -/
theorem resolve_keepsSignals {records : List Candidacy} {slots : List Office} {i : Nat}
    {office : Office} (hslot : slots[i]? = some office) (hrecord : ∃ r ∈ records, r.IsFor office)
    (ctx : Context) :
    ∃ x, (resolve records slots ctx)[i]? = some x ∧ KeepsSignals records office x := by
  have hfills : Fills records ctx office _ := fills_shown (List.mem_of_getElem? hslot) ctx
  obtain ⟨r, status, hrep, _, hshown, _⟩ := hfills.representative hrecord
  refine ⟨_, ?_, hfills.slot_eq, ?_, ?_⟩
  · rw [resolve, List.getElem?_map, hslot, Option.map_some]
  · rw [hshown]
    exact hrep.isGreatest.reaches_iff Candidacy.inUse_iff_le_priority
  · rw [hshown]
    exact hrep.isGreatest.reaches_iff Candidacy.curated_iff_le_priority

/-! ## A feed in which the signals count -/

/-- A record of another data set that carries all other signals and the latest survey. -/
def scenarioCouncil : Candidacy := { Candidacy.blank with
  matchupId := "m-9"
  officeType := "광역의회"
  topology := some "scenario"
  source := some "master"
  isActive := true
  hasPollData := true
  hasCandidateData := true
  latestSurveyEndDate := some "2026-05-31" }

/-- A record in use that is not curated and carries all signals but that one. -/
def articleCouncil : Candidacy := { scenarioCouncil with
  topology := none
  source := some "article" }

/-- A record in use that carries no signal but a curated source. -/
def bareCouncil : Candidacy := { Candidacy.blank with
  matchupId := "m-1"
  officeType := "metro_council"
  topology := some "official"
  source := some " Code_Master "
  isFallback := true
  isPlaceholder := true }

/-- The bare record is shown before the other two, which come with everything else. -/
theorem resolve_keepsSignals_bareCouncil :
    (∃ r ∈ [scenarioCouncil, bareCouncil, articleCouncil], r.IsFor .metroCouncil) ∧
      ∃ x, (resolve [scenarioCouncil, bareCouncil, articleCouncil] Office.metro ⟨"", ""⟩)[1]? =
        some x ∧ x.slot = .metroCouncil ∧ x.record.InUse ∧ x.record.Curated := by
  have hrecord : ∃ r ∈ [scenarioCouncil, bareCouncil, articleCouncil],
      r.IsFor .metroCouncil := by decide +kernel
  have hbare : bareCouncil.IsFor .metroCouncil := by decide +kernel
  have hcurated : bareCouncil.Curated := ⟨" Code_Master ", rfl, by decide +kernel⟩
  have hslot : Office.metro[1]? = some .metroCouncil := rfl
  obtain ⟨x, hx, hkeeps⟩ := resolve_keepsSignals hslot hrecord ⟨"", ""⟩
  exact ⟨hrecord, x, hx, hkeeps.slot_eq,
    hkeeps.curated_iff.mpr ⟨bareCouncil, by simp, hbare, Or.inr rfl, hcurated⟩⟩

end PollAtlas.Election
