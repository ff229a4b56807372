import PollAtlas.Proofs.Poll.Lookup

/-!
# Provinces and their districts

What is filed under a district is filed under its province too. So the keys are closed under
going from a district to its province, and the winner of a province is at least as late as that
of each district, although every key has a winner of its own. Keys have no blanks around them. A
lookup of a whole province that no observation spells in a form of its own comes down to the one
key of the polling service.

* `Observation.FiledUnder.province`: the step from a district to its province.
* `ofObservations_provinces`: provinces against districts, keys, and the forms of a province.
-/

namespace PollAtlas

namespace Poll

/-! ## Filing -/

namespace Observation.FiledUnder

theorem trimmed {o : Observation} {key : String} (h : o.FiledUnder key) :
    key ≠ "" ∧ Text.trim key = key := by
  obtain ⟨code, _, hne, rfl | ⟨a, b, ⟨ha, hb, _⟩, rfl⟩⟩ := h
  · exact ⟨hne, Text.trim_idem code⟩
  · refine ⟨?_, Region.trim_wholeCode ha hb⟩
    intro hempty
    have hchars := congrArg String.toList hempty
    rw [Region.wholeCode, String.toList_ofList] at hchars
    cases hchars

/-- What is filed under a district is filed under its province. -/
theorem province {o : Observation} {district : String} {a b : Char}
    (h : o.FiledUnder district) (hdistrict : Region.IsDistrict district a b) :
    o.FiledUnder (Region.wholeCode a b) := by
  obtain ⟨code, hcode, hne, rfl | ⟨c, d, hcd, rfl⟩⟩ := h
  · exact ⟨code, hcode, hne, Or.inr ⟨a, b, hdistrict, rfl⟩⟩
  · -- the district is itself the key of a province
    obtain ⟨rfl, rfl⟩ := hdistrict.eq_of_wholeCode
    exact ⟨code, hcode, hne, Or.inr ⟨c, d, hcd, rfl⟩⟩

/-- Under a whole province in a form of its own only those are filed that spell it so. -/
theorem spelled {o : Observation} {key : String} {a b : Char} (h : o.FiledUnder key)
    (hwhole : Region.IsWholeProvince key a b) :
    ∃ code, (o.regionCode = some code ∨ o.audienceRegionCode = some code) ∧
      key = Text.trim code := by
  obtain ⟨code, hcode, _, hkey | ⟨c, d, ⟨hc, hd, _⟩, rfl⟩⟩ := h
  · exact ⟨code, hcode, hkey⟩
  · have hdistrict : Region.isDistrictCode (Region.wholeCode c d) = true :=
      Region.isDistrictCode_iff.mpr ⟨c, d, Region.isDistrict_wholeCode hc hd⟩
    rw [hwhole.isDistrictCode] at hdistrict
    cases hdistrict

end Observation.FiledUnder

namespace Latest

/-! ## Lookups -/

theorem fallback?_of_isDistrict {index : Latest} {text : String} {a b : Char}
    (h : Region.IsDistrict text a b) : index.fallback? text = none := by
  rw [fallback?, if_pos (Region.isDistrictCode_iff.mpr ⟨a, b, h⟩)]

theorem lookup?_of_wholeCode {index : Latest} {code : String} {a b : Char}
    (ha : a.isDigit = true) (hb : b.isDigit = true)
    (hcode : Text.trim code = Region.wholeCode a b) :
    index.lookup? code = index.get? (Region.wholeCode a b) := by
  rw [lookup?_eq, hcode, fallback?_of_isDistrict (Region.isDistrict_wholeCode ha hb),
    Option.or_none]

theorem lookup?_of_isWholeProvince {index : Latest} {code : String} {a b : Char}
    (h : Region.IsWholeProvince (Text.trim code) a b)
    (habsent : index.get? (Text.trim code) = none) :
    index.lookup? code = index.get? (Region.wholeCode a b) := by
  rw [lookup?_eq, habsent, Option.none_or, fallback?_of_isWholeProvince h]

/-- An observation gives a whole province in a form of its own, blanks aside. -/
def Spells (o : Observation) (a b : Char) : Prop :=
  ∃ code, (o.regionCode = some code ∨ o.audienceRegionCode = some code) ∧
    Region.IsWholeProvince (Text.trim code) a b

theorem get?_eq_none_of_not_spells {observations : List Observation} {key : String}
    {a b : Char} (hwhole : Region.IsWholeProvince key a b)
    (hnone : ∀ o ∈ observations, ¬ Spells o a b) :
    (ofObservations observations).get? key = none := by
  rw [Option.eq_none_iff_forall_ne_some]
  intro o ho
  obtain ⟨hmem, hfiled⟩ := List.mem_filter.mp (isFreshest_of_get? ho).mem
  obtain ⟨code, hcode, rfl⟩ := (of_decide_eq_true hfiled).spelled hwhole
  exact hnone o hmem ⟨code, hcode, hwhole⟩

/-! ## The index -/

/-- How an index of observations answers for provinces and their districts. -/
structure Provinces (index : Latest) (observations : List Observation) : Prop where
  trimmed : ∀ key ∈ index.keys, key ≠ "" ∧ Text.trim key = key
  closed : ∀ district ∈ index.keys, ∀ a b, Region.IsDistrict district a b →
    Region.wholeCode a b ∈ index.keys
  dominates : ∀ district a b o p, Region.IsDistrict district a b →
    index.get? district = some o → index.get? (Region.wholeCode a b) = some p →
      Text.bytes (o.surveyEndDate.getD "") ≤ Text.bytes (p.surveyEndDate.getD "")
  lookups : ∀ a b : Char, a.isDigit = true → b.isDigit = true →
    (∀ o ∈ observations, ¬ Spells o a b) →
      ∀ form ∈ Region.wholeForms a b, ∀ code, Text.IsPadded form code →
        index.lookup? code = index.get? (Region.wholeCode a b)

theorem filed_of_mem_keys {observations : List Observation} {key : String}
    (h : key ∈ (ofObservations observations).keys) :
    ∃ o ∈ filedUnder key observations, o.FiledUnder key := by
  obtain ⟨o, ho⟩ := Option.ne_none_iff_exists'.mp (mem_keys_iff_get?_ne_none.mp h)
  have hmem := (isFreshest_of_get? ho).mem
  exact ⟨o, hmem, of_decide_eq_true (List.mem_filter.mp hmem).2⟩

theorem mem_filedUnder_province {observations : List Observation} {district : String}
    {a b : Char} {o : Observation} (h : o ∈ filedUnder district observations)
    (hdistrict : Region.IsDistrict district a b) :
    o ∈ filedUnder (Region.wholeCode a b) observations := by
  obtain ⟨hmem, hfiled⟩ := List.mem_filter.mp h
  have hprovince := (of_decide_eq_true hfiled).province hdistrict
  exact List.mem_filter.mpr ⟨hmem, decide_eq_true hprovince⟩

theorem ofObservations_provinces (observations : List Observation) :
    (ofObservations observations).Provinces observations where
  trimmed := by
    intro key hkey
    obtain ⟨o, _, hfiled⟩ := filed_of_mem_keys hkey
    exact hfiled.trimmed
  closed := by
    intro district hkey a b hdistrict
    obtain ⟨o, hmem, _⟩ := filed_of_mem_keys hkey
    obtain ⟨p, hp⟩ := exists_get?_of_filedUnder (mem_filedUnder_province hmem hdistrict)
    rw [mem_keys_iff_get?_ne_none, hp]
    exact Option.some_ne_none p
  dominates := by
    intro district a b o p hdistrict ho hp
    have hmem := mem_filedUnder_province (isFreshest_of_get? ho).mem hdistrict
    exact Text.bytes_le_iff.mpr ((isFreshest_of_get? hp).date_le hmem)
  lookups := by
    intro a b ha hb hnone form hform code hpadded
    have htrim := hpadded.trim (Region.not_blank_of_mem_wholeForms ha hb hform)
    have hchars : (Text.trim code).toList = form := by rw [htrim, String.toList_ofList]
    simp only [Region.wholeForms, List.mem_cons, List.not_mem_nil, or_false] at hform
    rcases hform with rfl | rfl | rfl
    · have hwhole : Region.IsWholeProvince (Text.trim code) a b := ⟨ha, hb, Or.inl hchars⟩
      exact lookup?_of_isWholeProvince hwhole (get?_eq_none_of_not_spells hwhole hnone)
    · have hwhole : Region.IsWholeProvince (Text.trim code) a b := ⟨ha, hb, Or.inr hchars⟩
      exact lookup?_of_isWholeProvince hwhole (get?_eq_none_of_not_spells hwhole hnone)
    · exact lookup?_of_wholeCode ha hb htrim

/-- An observation of one of Seoul's districts. -/
def gangnam : Observation :=
  { seoul with regionCode := some "11-680", surveyEndDate := some "2026-03-01" }

theorem lookup_gangnam :
    (ofObservations [gangnam, seoul]).get? "11-000" = some gangnam ∧
      ∀ code, Text.IsPadded ['K', 'R', '-', '1', '1'] code →
        (ofObservations [gangnam, seoul]).lookup? code = some gangnam := by
  have hget : (ofObservations [gangnam, seoul]).get? "11-000" = some gangnam := by decide +kernel
  have hdistrict : ∀ text, Region.isDistrictCode (Text.trim text) = true →
      ¬ Region.IsWholeProvince (Text.trim text) '1' '1' := by
    intro text hdistrict hwhole
    rw [hwhole.isDistrictCode] at hdistrict
    cases hdistrict
  have hnone : ∀ o ∈ [gangnam, seoul], ¬ Spells o '1' '1' := by
    intro o ho
    simp only [List.mem_cons, List.not_mem_nil, or_false] at ho
    rcases ho with rfl | rfl
    · rintro ⟨code, hcode | hcode, hwhole⟩
      · cases hcode
        exact hdistrict "11-680" (by decide +kernel) hwhole
      · cases hcode
    · rintro ⟨code, hcode | hcode, hwhole⟩
      · cases hcode
        exact hdistrict "11-000" (by decide +kernel) hwhole
      · cases hcode
  refine ⟨hget, ?_⟩
  intro code hcode
  exact ((ofObservations_provinces [gangnam, seoul]).lookups '1' '1' rfl rfl hnone
    ['K', 'R', '-', '1', '1'] List.mem_cons_self code hcode).trans hget

end Latest

end Poll

end PollAtlas
