import PollAtlas.Proofs.Number.Grammar
import PollAtlas.Proofs.Number.Significant
import PollAtlas.Proofs.Poll.Grouping
import PollAtlas.Proofs.Poll.Tolerance
import PollAtlas.Proofs.Text.Padding

/-!
# The number of people asked

A count may be sent as a whole number or in digits. Either way it is read as a double and rounded
to a whole number again, so what is kept of a count is the nearest number of 53 significant bits,
and the greatest count where that is too large. Counts up to `2 ^ 53` are kept as they are. Above
that only those with few enough significant bits are, and the greatest count, which is rounded up
on the way in and limited on the way out.

* `States`, `GivesSampleSize`: the values that state a count, and the items that hold one.
* `keptCount`, `count?_of_states`: what is kept of a count.
* `not_sampleSize_kept`: a count that is changed on its way to the display.
* `sampleSize_keptCount`: which counts are shown as they were sent.
-/

namespace PollAtlas.Poll

open scoped Power
open PollAtlas.Json (Record setMember)

/-- The value is a count: as a number, or in digits with nothing but blanks around them. -/
inductive States : Json → Nat → Prop
  | number (n : Nat) : States (.ofNat n) n
  | digits {cs : List Char} {s : String} (hdigits : AllDigits cs) (hne : cs ≠ [])
      (hpadded : Text.IsPadded cs s) : States (.string s) (natOfDigits cs)

/-- The item, in whatever form, gives a value for the number of people asked. -/
def GivesSampleSize (item x : Json) : Prop :=
  ∃ record, Record.read? Observation.fields item = some record ∧
    record.value? "sample_size" = some x

/-- What is kept of a count: 53 significant bits of it, up to the greatest count. -/
def keptCount (n : Nat) : Nat := Nat.min countLimit (roundUnits n 1)

/-! ## Reading -/

theorem number?_of_states {x : Json} {n : Nat} (hx : States x n)
    (h : Representable (roundUnits n 1 * Double.unitsPerOne)) :
    number? x = some (.finite false (roundUnits n 1 * Double.unitsPerOne) h) := by
  cases hx with
  | number n =>
    show finite? (Double.ofInt n) = _
    rw [Double.ofInt_eq_finite h]
    rfl
  | @digits cs s hdigits hne hpadded =>
    have htrim : Text.trimChars s.toList = cs := by
      rw [← Text.toList_trim, hpadded.trim fun c hc => Text.isBlank_of_isDigit (hdigits c hc),
        String.toList_ofList]
    have hdecimal : IsDecimal (cs ++ []) ⟨natOfDigits cs, 0⟩ := .whole hdigits hne .absent
    rw [List.append_nil] at hdecimal
    have hread := parse?_of_isNumeral (.mk .absent (.decimal hdecimal))
    rw [List.nil_append, Magnitude.toDouble, Decimal.toDouble_whole h] at hread
    show (numberOfText? s).bind finite? = _
    rw [numberOfText?, htrim, hread]
    rfl

theorem count?_of_states {x : Json} {n : Nat} (hx : States x n) (hn : n ≤ countLimit) :
    count? x = some (keptCount n) := by
  have hbits : n < 2 ^ (64 : Nat) := Nat.lt_of_le_of_lt hn (by decide)
  rw [count?_of_number? (number?_of_states hx (representable_roundUnits hbits)),
    Double.nearest_mul, keptCount]

theorem sampleSize_of_gives {item x : Json} {o : Observation}
    (h : Observation.ofJson? item = some o) (hgives : GivesSampleSize item x) :
    o.sampleSize = count? x := by
  obtain ⟨record, hrecord, hx⟩ := hgives
  obtain ⟨other, hother, ho⟩ := Option.bind_eq_some_iff.mp h
  rw [hrecord] at hother
  cases hother
  rw [(Observation.fields_of_ofRecord? ho).2.1, hx, Option.bind_some]

/-! ## Counts that are kept -/

theorem keptCount_of_le {n : Nat} (h : countLimit ≤ roundUnits n 1) : keptCount n = countLimit :=
  Nat.min_eq_left h

theorem keptCount_of_ge {n : Nat} (h : roundUnits n 1 ≤ countLimit) :
    keptCount n = roundUnits n 1 :=
  Nat.min_eq_right h

/-- A count is kept just if it has at most 53 significant bits or is the greatest. -/
theorem keptCount_eq_iff {n : Nat} (hn : n ≤ countLimit) :
    keptCount n = n ↔ IsShort n ∨ n = countLimit := by
  constructor
  · intro h
    rcases Nat.le_total countLimit (roundUnits n 1) with hlarge | hsmall
    · rw [keptCount_of_le hlarge] at h
      exact Or.inr h.symm
    · rw [keptCount_of_ge hsmall] at h
      rw [← fits53_iff, ← h]
      exact Or.inl (roundUnits_dvd n 1)
  · rintro (hshort | rfl)
    · have hround := roundUnits_of_fits53 (fits53_iff.mpr hshort) Nat.one_pos
      rw [Nat.mul_one] at hround
      rw [keptCount_of_ge (hround.trans_le hn), hround]
    · exact keptCount_of_le (by decide +kernel)

/-- No number of 53 significant bits is nearer to a count than what is kept of it. -/
theorem dist_keptCount_le {n : Nat} (hn : n ≤ countLimit) {k : Nat} (hk : IsShort k) :
    Nat.dist n (keptCount n) ≤ Nat.dist n k := by
  have hnearest := dist_roundUnits_le n hk
  rcases Nat.le_total countLimit (roundUnits n 1) with hlarge | hsmall
  · rw [keptCount_of_le hlarge]
    simp only [Nat.dist] at hnearest ⊢
    omega
  · rwa [keptCount_of_ge hsmall]

/-! ## Observations -/

/-- A count above `2 ^ 53` may be changed: the first one is. -/
theorem not_sampleSize_kept :
    ¬ ∀ x n, States x n → n ≤ countLimit → ∀ item o, Observation.ofJson? item = some o →
      GivesSampleSize item x → o.sampleSize = some n ∧
        ∃ text, IsGrouped n text ∧ sampleText o.sampleSize = "표본 " ++ text ++ "명" := by
  intro h
  have hread : ((Observation.ofJson? (.object [("sample_size", .ofNat 9007199254740993)])).map
      Observation.sampleSize) = some (some 9007199254740992) := by decide +kernel
  obtain ⟨o, ho, hkept⟩ := Option.map_eq_some_iff.mp hread
  have hgives : GivesSampleSize (.object [("sample_size", .ofNat 9007199254740993)])
      (.ofNat 9007199254740993) := ⟨_, rfl, rfl⟩
  have hcount := (h _ _ (.number 9007199254740993) (by decide) _ o ho hgives).1
  rw [hkept] at hcount
  cases hcount

/-- A count is read in every form of an item, and takes no item out of the feed. What is kept of it
is the nearest number of 53 significant bits, or the greatest count, and is shown in groups of three
digits. It is the count itself just if that has no more significant bits or is the greatest. -/
theorem sampleSize_keptCount {x : Json} {n : Nat} (hx : States x n) (hn : n ≤ countLimit) :
    (∀ item o, Observation.ofJson? item = some o → GivesSampleSize item x →
      o.sampleSize = some (keptCount n)) ∧
    (∀ members o, Observation.ofJson? (.object members) = some o →
      Observation.ofJson? (.object (setMember "sample_size" x members)) =
        some { o with sampleSize := some (keptCount n) }) ∧
    (∃ text, IsGrouped (keptCount n) text ∧
      sampleText (some (keptCount n)) = "표본 " ++ text ++ "명") ∧
    (∀ k, IsShort k → Nat.dist n (keptCount n) ≤ Nat.dist n k) ∧
    (keptCount n = n ↔ IsShort n ∨ n = countLimit) := by
  refine ⟨?_, ?_, ?_, fun k hk => dist_keptCount_le hn hk, keptCount_eq_iff hn⟩
  · intro item o h hgives
    rw [sampleSize_of_gives h hgives, count?_of_states hx hn]
  · intro members o h
    rw [Observation.ofJson?_setMember h .sampleSize (by decide) ?_ x, Observation.assign,
      count?_of_states hx hn]
    intro member _ hspelled
    exact List.mem_singleton.mp hspelled
  · exact ⟨_, isGrouped_groupThousands _, rfl⟩

/-- The greatest count in digits with blanks around them, and in an array a count that is not kept. -/
theorem sampleSize_keptCount_greatest :
    (∃ o, Observation.ofJson? (.object Observation.busanMembers) = some o ∧
      Observation.ofJson? (.object (setMember "sample_size"
        (.string " 18446744073709551615　") Observation.busanMembers)) =
          some { o with sampleSize := some countLimit }) ∧
    ∃ o, Observation.ofJson?
        (.array (List.replicate 9 (.string "26-000") ++ [.ofNat 9007199254740993])) = some o ∧
      o.sampleSize = some (keptCount 9007199254740993) := by
  have hstates : States (.string " 18446744073709551615　")
      (natOfDigits "18446744073709551615".toList) :=
    .digits (by decide) (by decide)
      ⟨[' '], ['　'], List.forall_mem_singleton.mpr (by decide),
        List.forall_mem_singleton.mpr (by decide), by decide +kernel⟩
  have hgreatest : natOfDigits "18446744073709551615".toList = countLimit := by decide +kernel
  rw [hgreatest] at hstates
  obtain ⟨_, hset, _, _, hkept⟩ := sampleSize_keptCount hstates (Nat.le_refl _)
  rw [hkept.mpr (Or.inr rfl)] at hset
  obtain ⟨busan, hbusan⟩ := Option.isSome_iff_exists.mp
    (show (Observation.ofJson? (.object Observation.busanMembers)).isSome = true by decide +kernel)
  obtain ⟨o, ho⟩ := Option.isSome_iff_exists.mp
    (show (Observation.ofJson? (.array (List.replicate 9 (.string "26-000") ++
      [.ofNat 9007199254740993]))).isSome = true by decide +kernel)
  refine ⟨⟨busan, hbusan, hset _ _ hbusan⟩, o, ho, ?_⟩
  exact (sampleSize_keptCount (.number 9007199254740993) (by decide)).1 _ o ho ⟨_, rfl, rfl⟩

end PollAtlas.Poll
