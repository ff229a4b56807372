import PollAtlas.Proofs.Poll.Freshness
import PollAtlas.Proofs.Region.Whole

/-!
# Looking up a region by any form of its code

A lookup tries a code as it is, and then the province that the code names. Only a code of
the form `NN-MMM` is kept from the second step. A whole province is found in both of its
spellings, but so are the first two adjacent digits of any other text: `KR-11-015`, a district
behind the marker of the map, is answered with its province. Such a lookup strays.

* `lookup?_eq`: the two steps.
* `not_lookup?_eq_get?`: a lookup that strays.
* `lookup?_whole_or_strays`: the answer for every text, and when it strays.
-/

namespace PollAtlas

namespace Poll.Latest

/-- The province that a text names, unless the text is the code of a district. -/
def fallback? (index : Latest) (text : String) : Option Observation :=
  if Region.isDistrictCode text then none else (Region.apiCode? text).bind index.get?

theorem lookup?_eq (index : Latest) (code : String) :
    index.lookup? code =
      (index.get? (Text.trim code)).or (index.fallback? (Text.trim code)) := by
  simp only [lookup?, fallback?]
  cases index.get? (Text.trim code) with
  | none => rfl
  | some o => rfl

theorem fallback?_eq_some_iff {index : Latest} {text : String} {o : Observation} :
    index.fallback? text = some o ↔
      (∀ a b, ¬ Region.IsDistrict text a b) ∧
        ∃ a b, Region.FirstDigitPair text.toList a b ∧
          index.get? (Region.wholeCode a b) = some o := by
  unfold fallback?
  by_cases hdistrict : Region.isDistrictCode text = true
  · obtain ⟨a, b, h⟩ := Region.isDistrictCode_iff.mp hdistrict
    rw [if_pos hdistrict]
    exact iff_of_false (by simp) fun hno => hno.1 a b h
  · have hno : ∀ a b, ¬ Region.IsDistrict text a b := fun a b h =>
      hdistrict (Region.isDistrictCode_iff.mpr ⟨a, b, h⟩)
    rw [if_neg hdistrict, and_iff_right hno, Option.bind_eq_some_iff]
    constructor
    · rintro ⟨key, hkey, ho⟩
      obtain ⟨a, b, hpair, rfl⟩ := Region.apiCode?_eq_some_iff.mp hkey
      exact ⟨a, b, hpair, ho⟩
    · rintro ⟨a, b, hpair, ho⟩
      exact ⟨_, Region.apiCode?_eq_some_iff.mpr ⟨a, b, hpair, rfl⟩, ho⟩

theorem fallback?_of_isWholeProvince {index : Latest} {text : String} {a b : Char}
    (h : Region.IsWholeProvince text a b) :
    index.fallback? text = index.get? (Region.wholeCode a b) := by
  have hkey : Region.apiCode? text = some (Region.wholeCode a b) :=
    Region.apiCode?_eq_some_iff.mpr ⟨a, b, h.firstDigitPair, rfl⟩
  rw [fallback?, h.isDistrictCode, hkey]
  rfl

/-! ## Straying -/

/-- The lookup of a text strays to an observation: the text is neither a key nor the code of
a district, and the observation is that of the province which its first two adjacent digits
name. -/
structure Strays (index : Latest) (text : String) (o : Observation) : Prop where
  absent : index.get? text = none
  not_district : ∀ a b, ¬ Region.IsDistrict text a b
  province : ∃ a b, Region.FirstDigitPair text.toList a b ∧
    index.get? (Region.wholeCode a b) = some o

theorem lookup?_of_strays {index : Latest} {code : String} {o : Observation}
    (h : index.Strays (Text.trim code) o) : index.lookup? code = some o := by
  rw [lookup?_eq, h.absent, Option.none_or]
  exact fallback?_eq_some_iff.mpr ⟨h.not_district, h.province⟩

theorem lookup?_eq_get?_iff {index : Latest} {code : String} :
    index.lookup? code = index.get? (Text.trim code) ↔
      ∀ o, ¬ index.Strays (Text.trim code) o := by
  constructor
  · intro h o hstrays
    have hfound := lookup?_of_strays hstrays
    rw [h, hstrays.absent] at hfound
    cases hfound
  · intro h
    rw [lookup?_eq]
    cases habsent : index.get? (Text.trim code) with
    | some o => rfl
    | none =>
      cases hentry : index.fallback? (Text.trim code) with
      | none => rfl
      | some o =>
        obtain ⟨hdistrict, hprovince⟩ := fallback?_eq_some_iff.mp hentry
        exact absurd ⟨habsent, hdistrict, hprovince⟩ (h o)

/-- A district behind the marker of the map is answered with its province. -/
theorem not_lookup?_eq_get? :
    ¬ ∀ (index : Latest) (code : String),
      (∀ a b, ¬ Region.IsWholeProvince (Text.trim code) a b) →
        index.lookup? code = index.get? (Text.trim code) := by
  intro h
  have hlength : (Text.trim "KR-11-015").toList.length = 9 := by decide +kernel
  have hwhole : ∀ a b, ¬ Region.IsWholeProvince (Text.trim "KR-11-015") a b := by
    rintro a b ⟨_, _, htext | htext⟩
    · rw [htext] at hlength
      cases hlength
    · rw [htext] at hlength
      cases hlength
  have hget : (ofObservations [seoul]).get? (Text.trim "KR-11-015") = none := by decide +kernel
  have hlookup : (ofObservations [seoul]).lookup? "KR-11-015" = some seoul := by decide +kernel
  have heq := h (ofObservations [seoul]) "KR-11-015" hwhole
  rw [hlookup, hget] at heq
  cases heq

/-- The answer of a lookup. A whole province is looked up under its code and then under the
key of the province. For every other text the answer is what is held under the text itself,
unless the lookup strays. -/
theorem lookup?_whole_or_strays (index : Latest) (code : String) :
    (∀ a b, Region.IsWholeProvince (Text.trim code) a b →
      index.lookup? code =
        (index.get? (Text.trim code)).or (index.get? (Region.wholeCode a b))) ∧
    ((∀ a b, ¬ Region.IsWholeProvince (Text.trim code) a b) →
      (index.lookup? code = index.get? (Text.trim code) ↔
        ∀ o, ¬ index.Strays (Text.trim code) o) ∧
      ∀ o, index.Strays (Text.trim code) o → index.lookup? code = some o) := by
  refine ⟨fun a b h => ?_, fun _ => ⟨lookup?_eq_get?_iff, fun o => lookup?_of_strays⟩⟩
  rw [lookup?_eq, fallback?_of_isWholeProvince h]

end Poll.Latest

end PollAtlas
