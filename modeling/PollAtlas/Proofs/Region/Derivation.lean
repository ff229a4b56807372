import PollAtlas.Proofs.Region.Whole

/-!
# Forms derived from each other

A province is written in three forms. Each of them is read off a text by the first two digits that
stand next to each other in it, and in a written form these are the digits of the province: the
marker in front has no digit, and in the code of the polling service two digits come first. So a
form that is read off another form is the one that is read off the text itself.

* `ProvinceForm.ofText?_eq_some_iff`, `ProvinceForm.ofText?_eq_none_iff`: what is read off a text.
* `ProvinceForm.firstDigitPair_code`: the digits that are found in a form.
* `ProvinceForm.ofText?_derivable`: the forms are derived from each other.
-/

namespace PollAtlas.Region

/-- The forms that the code of a whole province is written in. -/
inductive ProvinceForm where
  /-- The two digits alone. -/
  | digits
  /-- The two digits behind the marker of the map. -/
  | map
  /-- What the polling service knows the province by. -/
  | service
  deriving DecidableEq, Repr

namespace ProvinceForm

variable {a b : Char} {text : String}

/-- The province that a text names, in one of the forms. -/
def ofText? : ProvinceForm → String → Option String
  | digits => provinceDigits?
  | map => mapCode?
  | service => apiCode?

/-- The code of the province of two digits. -/
def code (a b : Char) : ProvinceForm → String
  | digits => String.ofList [a, b]
  | map => String.ofList ['K', 'R', '-', a, b]
  | service => String.ofList [a, b, '-', '0', '0', '0']

theorem ofText?_eq (form : ProvinceForm) (text : String) :
    form.ofText? text = (leftmostDigits? text.toList).map fun (a, b) => form.code a b := by
  have hmarker : ∀ a b, mapMarker ++ String.ofList [a, b] = map.code a b := by
    intro a b
    apply String.toList_injective
    simp [mapMarker, code]
  cases form with
  | digits => rfl
  | map => simp only [ofText?, mapCode?, provinceDigits?, Option.map_map, Function.comp_def, hmarker]
  | service =>
    simp only [ofText?, apiCode?, provinceDigits?, Option.map_map, Function.comp_def,
      ofList_append_wholeProvince]
    rfl

theorem ofText?_eq_some_iff {form : ProvinceForm} {found : String} :
    form.ofText? text = some found ↔
      ∃ a b, FirstDigitPair text.toList a b ∧ found = form.code a b := by
  simp only [ofText?_eq, Option.map_eq_some_iff, Prod.exists, leftmostDigits?_eq_some_iff,
    eq_comm (b := found)]

theorem ofText?_eq_none_iff {form : ProvinceForm} :
    form.ofText? text = none ↔ ¬ HasDigitPair text.toList := by
  rw [ofText?_eq, Option.map_eq_none_iff, leftmostDigits?_eq_none_iff]

/-- The digits of a province are the first that are found in each form of it. -/
theorem firstDigitPair_code (form : ProvinceForm) (ha : a.isDigit = true) (hb : b.isDigit = true) :
    FirstDigitPair (form.code a b).toList a b := by
  cases form with
  | digits =>
    have hwhole : IsWholeProvince (digits.code a b) a b :=
      ⟨ha, hb, Or.inr String.toList_ofList⟩
    exact hwhole.firstDigitPair
  | map =>
    have hwhole : IsWholeProvince (map.code a b) a b :=
      ⟨ha, hb, Or.inl String.toList_ofList⟩
    exact hwhole.firstDigitPair
  | service =>
    rw [code, String.toList_ofList, firstDigitPair_cons_cons]
    exact Or.inl ⟨ha, hb, rfl, rfl⟩

/-- Each form is read off the first two digits that stand next to each other in a text, wherever a
marker stands, and is absent just if there are none. Read off another form it is the same. -/
theorem ofText?_derivable (text : String) :
    (∀ (form : ProvinceForm) found, form.ofText? text = some found ↔
      ∃ a b, FirstDigitPair text.toList a b ∧ found = form.code a b) ∧
    (∀ form : ProvinceForm, form.ofText? text = none ↔ ¬ HasDigitPair text.toList) ∧
    ∀ form other : ProvinceForm, (form.ofText? text).bind other.ofText? = other.ofText? text := by
  refine ⟨fun form found => ofText?_eq_some_iff, fun form => ofText?_eq_none_iff, ?_⟩
  intro form other
  cases hform : form.ofText? text with
  | none =>
    have hnone := ofText?_eq_none_iff.mp hform
    rw [Option.bind_none, ofText?_eq_none_iff.mpr hnone]
  | some found =>
    obtain ⟨a, b, hfirst, rfl⟩ := ofText?_eq_some_iff.mp hform
    have hagain : FirstDigitPair (form.code a b).toList a b :=
      form.firstDigitPair_code hfirst.1 hfirst.2.1
    rw [Option.bind_some, ofText?_eq_some_iff.mpr ⟨a, b, hagain, rfl⟩,
      ofText?_eq_some_iff.mpr ⟨a, b, hfirst, rfl⟩]

end ProvinceForm

end PollAtlas.Region
