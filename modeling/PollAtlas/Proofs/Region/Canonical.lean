import PollAtlas.Proofs.Number.Digits
import PollAtlas.Proofs.Text.Capital
import PollAtlas.Proofs.Text.Padding
import PollAtlas.Region.Canonical

/-!
# The codes that texts are brought to

A text is a code if it spells one in one of four ways, behind the marker of the country or without
it. The spellings are recognised in the text in capitals. No letter beyond ASCII has a capital that
a code is written with, so a text that is recognised holds ASCII alone, and what is said of its
capitals can be said of the text.

A canonical code spells itself.

* `Spells`, `Spells.self`: the ways in which a code is spelled, by itself among them.
* `canonicalChars?_eq_some_iff`, `canonicalChars?_unmarked_iff`: what is recognised in capitals.
* `cleaned_of_ascii`, `ascii_of_cleaned`: texts and their capitals.
* `canonicalChars?_cleaned_iff`: what is recognised of a text.
* `Canonical.ofText_canonicalizes`: which texts are codes, of what, and that codes are kept.
-/

namespace PollAtlas.Region

/-! ## Spellings -/

/-- The digits of a province; a retired one has those of its successor. -/
def renumbered (a b : Char) : List Char := if a = '3' ∧ b = '2' then ['4', '2'] else [a, b]

/-- How a code may be spelled, and the code, where `dash` says what stands for a dash. -/
inductive Spells (dash : Char → Prop) : List Char → List Char → Prop where
  | province {a b : Char} : AllDigits [a, b] →
      Spells dash [a, b] (renumbered a b ++ ['-', '0', '0', '0'])
  | district {a b d x y z : Char} : AllDigits [a, b, x, y, z] → dash d →
      Spells dash [a, b, d, x, y, z] (renumbered a b ++ ['-', x, y, z])
  | compact {a b x y z : Char} : AllDigits [a, b, x, y, z] →
      Spells dash [a, b, x, y, z] (renumbered a b ++ ['-', x, y, z])
  | scenario {a b d s t e x y z : Char} : AllDigits [a, b, s, t, x, y, z] → dash d → dash e →
      Spells dash [a, b, d, s, t, e, x, y, z] (renumbered a b ++ ['-', s, t, '-', x, y, z])

/-- A dash, or an underscore in its place. -/
def IsDash (c : Char) : Prop := c = '-' ∨ c = '_'

instance (c : Char) : Decidable (IsDash c) := inferInstanceAs (Decidable (_ ∨ _))

/-- The marker of the country, which may be missing. -/
inductive IsMarker : List Char → Prop where
  | missing : IsMarker []
  | letters {k r : Char} : k = 'K' ∨ k = 'k' → r = 'R' ∨ r = 'r' → IsMarker [k, r]
  | dashed {k r d : Char} : k = 'K' ∨ k = 'k' → r = 'R' ∨ r = 'r' → IsDash d → IsMarker [k, r, d]

/-- A text is a spelling of a code, behind the marker of the country or without it. -/
def IsSpelling (text code : List Char) : Prop :=
  ∃ marker rest, text = marker ++ rest ∧ IsMarker marker ∧ Spells IsDash rest code

/-! ## Renumbered provinces -/

theorem allDigits_split {a b : Char} {cs : List Char} (h : AllDigits (a :: b :: cs)) :
    AllDigits [a, b] ∧ AllDigits cs := by
  have happend : AllDigits ([a, b] ++ cs) := h
  exact List.forall_mem_append.mp happend

theorem currentProvince_eq (a b : Char) : currentProvince [a, b] = renumbered a b := by
  have hkey : (String.ofList [a, b] == "32") = decide (a = '3' ∧ b = '2') := by
    rw [Bool.eq_iff_iff, beq_iff_eq, decide_eq_true_eq, ← String.toList_inj, String.toList_ofList]
    simp
  rw [currentProvince, successors, List.lookup_cons, hkey, renumbered]
  by_cases h : a = '3' ∧ b = '2'
  · simp [h]
  · simp [h]

/-- A province is renumbered once. -/
theorem exists_renumbered {a b : Char} (h : AllDigits [a, b]) :
    ∃ c d, renumbered a b = [c, d] ∧ AllDigits [c, d] ∧ renumbered c d = [c, d] := by
  unfold renumbered
  by_cases hretired : a = '3' ∧ b = '2'
  · exact ⟨'4', '2', if_pos hretired, by decide, rfl⟩
  · exact ⟨a, b, if_neg hretired, h, if_neg hretired⟩

/-! ## What is recognised in capitals -/

theorem exists_spells_of_isScenario {cs : List Char} (h : isScenario cs = true) :
    ∃ code, Spells (· = '-') cs code := by
  unfold isScenario at h
  split at h
  · exact ⟨_, .scenario (List.all_eq_true.mp h) rfl rfl⟩
  · cases h

theorem exists_spells_of_isSimple {cs : List Char} (h : isSimple cs = true) :
    ∃ code, Spells (· = '-') cs code := by
  unfold isSimple at h
  split at h
  · exact ⟨_, .province (List.all_eq_true.mp h)⟩
  · exact ⟨_, .district (List.all_eq_true.mp h) rfl⟩
  · cases h

theorem exists_spells_of_isCompact {cs : List Char} (h : isCompact cs = true) :
    ∃ code, Spells (· = '-') cs code := by
  rw [isCompact, Bool.and_eq_true, beq_iff_eq] at h
  obtain ⟨hlength, hdigits⟩ := h
  match cs, hlength with
  | [a, b, x, y, z], _ => exact ⟨_, .compact (List.all_eq_true.mp hdigits)⟩

theorem length_of_isScenario {cs : List Char} (h : isScenario cs = true) : cs.length = 9 := by
  unfold isScenario at h
  split at h
  · rfl
  · cases h

theorem length_of_isSimple {cs : List Char} (h : isSimple cs = true) :
    cs.length = 2 ∨ cs.length = 6 := by
  unfold isSimple at h
  split at h
  · exact Or.inl rfl
  · exact Or.inr rfl
  · cases h

theorem renewed_cons_cons (a b : Char) (rest : List Char) :
    renewed (a :: b :: rest) = renumbered a b ++ rest := by
  rw [← currentProvince_eq]
  rfl

theorem canonicalChars?_of_spells {cs code : List Char} (h : Spells (· = '-') cs code) :
    canonicalChars? cs = some code := by
  have hscenario : ∀ {cs : List Char}, cs.length ≠ 9 → ¬ isScenario cs = true :=
    fun hne h => hne (length_of_isScenario h)
  cases h with
  | @province a b hdigits =>
    have hsimple : isSimple [a, b] = true := List.all_eq_true.mpr hdigits
    have hfilter := List.filter_eq_self.mpr hdigits
    rw [canonicalChars?, if_neg (hscenario (by simp)), if_pos hsimple, hfilter]
    exact congrArg some (renewed_cons_cons _ _ _)
  | @district a b d x y z hdigits hd =>
    subst hd
    have hsimple : isSimple [a, b, '-', x, y, z] = true := List.all_eq_true.mpr hdigits
    have hfilter : [a, b, '-', x, y, z].filter Char.isDigit = [a, b, x, y, z] := by
      simp only [AllDigits, List.forall_mem_cons] at hdigits
      simp [hdigits]
    rw [canonicalChars?, if_neg (hscenario (by simp)), if_pos hsimple, hfilter]
    exact congrArg some (renewed_cons_cons _ _ _)
  | @compact a b x y z hdigits =>
    have hsimple : ¬ isSimple [a, b, x, y, z] = true :=
      fun h => absurd (length_of_isSimple h) (by simp)
    have hcompact : isCompact [a, b, x, y, z] = true := List.all_eq_true.mpr hdigits
    rw [canonicalChars?, if_neg (hscenario (by simp)), if_neg hsimple, if_pos hcompact]
    exact congrArg some (renewed_cons_cons _ _ _)
  | @scenario a b d s t e x y z hdigits hd he =>
    subst hd he
    have hall : isScenario [a, b, '-', s, t, '-', x, y, z] = true := List.all_eq_true.mpr hdigits
    rw [canonicalChars?, if_pos hall]
    exact congrArg some (renewed_cons_cons _ _ _)

theorem canonicalChars?_eq_some_iff {cs code : List Char} :
    canonicalChars? cs = some code ↔ Spells (· = '-') cs code := by
  constructor
  · intro h
    have hspells : ∃ code, Spells (· = '-') cs code := by
      by_cases hscenario : isScenario cs = true
      · exact exists_spells_of_isScenario hscenario
      · by_cases hsimple : isSimple cs = true
        · exact exists_spells_of_isSimple hsimple
        · by_cases hcompact : isCompact cs = true
          · exact exists_spells_of_isCompact hcompact
          · simp [canonicalChars?, hscenario, hsimple, hcompact] at h
    obtain ⟨code', hcode'⟩ := hspells
    rw [canonicalChars?_of_spells hcode', Option.some.injEq] at h
    rwa [← h]
  · exact canonicalChars?_of_spells

namespace Spells

variable {dash : Char → Prop} {text code : List Char}

theorem head_isDigit (h : Spells dash text code) :
    ∃ a rest, text = a :: rest ∧ a.isDigit = true := by
  cases h with
  | province hdigits => exact ⟨_, _, rfl, hdigits _ (by simp)⟩
  | district hdigits _ => exact ⟨_, _, rfl, hdigits _ (by simp)⟩
  | compact hdigits => exact ⟨_, _, rfl, hdigits _ (by simp)⟩
  | scenario hdigits _ _ => exact ⟨_, _, rfl, hdigits _ (by simp)⟩

theorem isDigit_or_dash (h : Spells dash text code) :
    ∀ c ∈ text, c.isDigit = true ∨ dash c := by
  cases h with
  | province hdigits => exact fun c hc => Or.inl (hdigits c hc)
  | district hdigits hd =>
    simp only [AllDigits, List.forall_mem_cons] at hdigits
    simp [hdigits, hd]
  | compact hdigits => exact fun c hc => Or.inl (hdigits c hc)
  | scenario hdigits hd he =>
    simp only [AllDigits, List.forall_mem_cons] at hdigits
    simp [hdigits, hd, he]

theorem district_self {a b x y z : Char} (hab : AllDigits [a, b]) (hxyz : AllDigits [x, y, z]) :
    Spells (· = '-') (renumbered a b ++ ['-', x, y, z]) (renumbered a b ++ ['-', x, y, z]) := by
  obtain ⟨c, d, hcd, hdigits, hfixed⟩ := exists_renumbered hab
  have hall : AllDigits ([c, d] ++ [x, y, z]) := List.forall_mem_append.mpr ⟨hdigits, hxyz⟩
  have hself : Spells (· = '-') [c, d, '-', x, y, z] _ := .district hall rfl
  rw [hfixed] at hself
  rw [hcd]
  exact hself

theorem scenario_self {a b s t x y z : Char} (hab : AllDigits [a, b])
    (hrest : AllDigits [s, t, x, y, z]) :
    Spells (· = '-') (renumbered a b ++ ['-', s, t, '-', x, y, z])
      (renumbered a b ++ ['-', s, t, '-', x, y, z]) := by
  obtain ⟨c, d, hcd, hdigits, hfixed⟩ := exists_renumbered hab
  have hall : AllDigits ([c, d] ++ [s, t, x, y, z]) := List.forall_mem_append.mpr ⟨hdigits, hrest⟩
  have hself : Spells (· = '-') [c, d, '-', s, t, '-', x, y, z] _ := .scenario hall rfl rfl
  rw [hfixed] at hself
  rw [hcd]
  exact hself

/-- A code spells itself. -/
theorem self (h : Spells dash text code) : Spells (· = '-') code code := by
  cases h with
  | province hdigits => exact district_self hdigits (by decide)
  | district hdigits _ => exact district_self (allDigits_split hdigits).1 (allDigits_split hdigits).2
  | compact hdigits => exact district_self (allDigits_split hdigits).1 (allDigits_split hdigits).2
  | scenario hdigits _ _ => exact scenario_self (allDigits_split hdigits).1 (allDigits_split hdigits).2

theorem mono {dash' : Char → Prop} (hdash : ∀ c, dash c → dash' c) (h : Spells dash text code) :
    Spells dash' text code := by
  cases h with
  | province hdigits => exact .province hdigits
  | district hdigits hd => exact .district hdigits (hdash _ hd)
  | compact hdigits => exact .compact hdigits
  | scenario hdigits hd he => exact .scenario hdigits (hdash _ hd) (hdash _ he)

end Spells

/-! ## Behind the marker -/

/-- The markers of the country in capitals. -/
def markers : List (List Char) := [[], ['K', 'R'], ['K', 'R', '-']]

theorem exists_marker (cs : List Char) : ∃ marker ∈ markers, cs = marker ++ unmarked cs := by
  unfold unmarked
  split
  · exact ⟨['K', 'R', '-'], by simp [markers], rfl⟩
  · exact ⟨['K', 'R'], by simp [markers], rfl⟩
  · exact ⟨[], by simp [markers], rfl⟩

/-- A marker is not taken for a part of a text that begins with a digit. -/
theorem unmarked_append {marker tail : List Char} {a : Char} (hmarker : marker ∈ markers)
    (ha : a.isDigit = true) : unmarked (marker ++ a :: tail) = a :: tail := by
  have hk : a ≠ 'K' := by
    rintro rfl
    cases ha
  have hdash : a ≠ '-' := by
    rintro rfl
    cases ha
  simp only [markers, List.mem_cons, List.not_mem_nil, or_false] at hmarker
  rcases hmarker with rfl | rfl | rfl
  · simp [unmarked, hk]
  · simp [unmarked, hdash]
  · rfl

theorem canonicalChars?_unmarked_iff {cs code : List Char} :
    canonicalChars? (unmarked cs) = some code ↔
      ∃ marker ∈ markers, ∃ rest, cs = marker ++ rest ∧ Spells (· = '-') rest code := by
  rw [canonicalChars?_eq_some_iff]
  constructor
  · intro h
    obtain ⟨marker, hmarker, hcs⟩ := exists_marker cs
    exact ⟨marker, hmarker, _, hcs, h⟩
  · rintro ⟨marker, hmarker, rest, rfl, h⟩
    obtain ⟨a, tail, rfl, ha⟩ := h.head_isDigit
    rwa [unmarked_append hmarker ha]

/-! ## In capitals -/

/-- The text without spaces. -/
def packed (cs : List Char) : List Char := cs.filter (· ≠ ' ')

/-- A character of ASCII in upper case, an underscore standing for a dash. -/
def plain (c : Char) : Char := if c = '_' then '-' else c.toUpper

theorem flatMap_capitals_of_ascii {cs : List Char} (h : ∀ c ∈ cs, c.toNat < 0x80) :
    (cs.map fun c => if c = '_' then '-' else c).flatMap Text.capitals = cs.map plain := by
  induction cs with
  | nil => rfl
  | cons c cs ih =>
    rw [List.forall_mem_cons] at h
    rw [List.map_cons, List.flatMap_cons, ih h.2, List.map_cons, plain]
    by_cases hunderscore : c = '_'
    · rw [if_pos hunderscore, if_pos hunderscore, Text.capitals_of_ascii (by decide)]
      rfl
    · rw [if_neg hunderscore, if_neg hunderscore, Text.capitals_of_ascii h.1]
      rfl

theorem cleaned_of_ascii {cs : List Char} (h : ∀ c ∈ packed cs, c.toNat < 0x80) :
    cleaned cs = (packed cs).map plain :=
  flatMap_capitals_of_ascii h

/-- A text is ASCII if no letter shows in capitals that another one became. -/
theorem ascii_of_cleaned {cs : List Char} (h : ∀ d ∈ cleaned cs, ¬ Text.IsForeign d) :
    ∀ c ∈ packed cs, c.toNat < 0x80 := by
  intro c hc
  by_contra hbeyond
  have hunderscore : c ≠ '_' := by
    rintro rfl
    exact hbeyond (by decide)
  obtain ⟨d, hd, hforeign⟩ := Text.exists_mem_capitals (not_lt.mp hbeyond)
  have hmem : c ∈ (packed cs).map fun c => if c = '_' then '-' else c :=
    List.mem_map.mpr ⟨c, hc, if_neg hunderscore⟩
  exact h d (List.mem_flatMap.mpr ⟨c, hmem, hd⟩) hforeign

theorem plain_eq_self {c : Char} (h : c.toNat < 0x80) (hdigit : (plain c).isDigit = true) :
    plain c = c :=
  Text.forall_ascii (P := fun c => (plain c).isDigit = true → plain c = c) (by decide +kernel) h
    hdigit

theorem isDash_of_plain {c : Char} (h : c.toNat < 0x80) (hdash : plain c = '-') : IsDash c :=
  Text.forall_ascii (P := fun c => plain c = '-' → IsDash c) (by decide +kernel) h hdash

theorem eq_or_of_plain_k {c : Char} (h : c.toNat < 0x80) (hk : plain c = 'K') :
    c = 'K' ∨ c = 'k' :=
  Text.forall_ascii (P := fun c => plain c = 'K' → c = 'K' ∨ c = 'k') (by decide +kernel) h hk

theorem eq_or_of_plain_r {c : Char} (h : c.toNat < 0x80) (hr : plain c = 'R') :
    c = 'R' ∨ c = 'r' :=
  Text.forall_ascii (P := fun c => plain c = 'R' → c = 'R' ∨ c = 'r') (by decide +kernel) h hr

theorem ascii_of_isDigit {c : Char} (h : c.isDigit = true) : c.toNat < 0x80 := by
  obtain ⟨_, hhigh⟩ := Char.isDigit_iff_toNat.mp h
  have hnine : '9'.toNat = 57 := rfl
  omega

theorem plain_of_isDigit {c : Char} (h : c.isDigit = true) : plain c = c :=
  Text.forall_ascii (P := fun c => c.isDigit = true → plain c = c) (by decide +kernel)
    (ascii_of_isDigit h) h

theorem plain_of_isDash {c : Char} (h : IsDash c) : plain c = '-' := by
  rcases h with rfl | rfl
  · decide
  · decide

theorem map_plain_of_allDigits {cs : List Char} (h : AllDigits cs) : cs.map plain = cs := by
  calc cs.map plain = cs.map id := List.map_congr_left fun c hc => plain_of_isDigit (h c hc)
    _ = cs := List.map_id cs

theorem map_plain_append {digits tail rest : List Char} {d : Char} (hdigits : AllDigits digits)
    (hd : IsDash d) (htail : tail.map plain = rest) :
    (digits ++ d :: tail).map plain = digits ++ '-' :: rest := by
  rw [List.map_append, List.map_cons, map_plain_of_allDigits hdigits, plain_of_isDash hd, htail]

theorem eq_of_map_plain {cs digits : List Char} (hascii : ∀ c ∈ cs, c.toNat < 0x80)
    (hdigits : AllDigits digits) (h : cs.map plain = digits) : cs = digits := by
  have hcs : AllDigits cs := by
    intro c hc
    have hdigit := hdigits (plain c) (h ▸ List.mem_map_of_mem hc)
    rwa [plain_eq_self (hascii c hc) hdigit] at hdigit
  rw [← h, map_plain_of_allDigits hcs]

theorem exists_of_map_plain_append {cs digits rest : List Char}
    (hascii : ∀ c ∈ cs, c.toNat < 0x80) (hdigits : AllDigits digits)
    (h : cs.map plain = digits ++ '-' :: rest) :
    ∃ d tail, IsDash d ∧ cs = digits ++ d :: tail ∧ tail.map plain = rest := by
  obtain ⟨before, after, rfl, hbefore, hafter⟩ := List.map_eq_append_iff.mp h
  obtain ⟨d, tail, rfl, hd, htail⟩ := List.map_eq_cons_iff.mp hafter
  rw [List.forall_mem_append, List.forall_mem_cons] at hascii
  obtain rfl := eq_of_map_plain hascii.1 hdigits hbefore
  exact ⟨d, tail, isDash_of_plain hascii.2.1 hd, rfl, htail⟩

namespace Spells

theorem map_plain {cs code : List Char} (h : Spells IsDash cs code) :
    Spells (· = '-') (cs.map plain) code := by
  cases h with
  | province hdigits =>
    rw [map_plain_of_allDigits hdigits]
    exact .province hdigits
  | district hdigits hd =>
    obtain ⟨hab, hxyz⟩ := allDigits_split hdigits
    have hspells : Spells (· = '-') _ _ := .district hdigits rfl
    have hmap := map_plain_append hab hd (map_plain_of_allDigits hxyz)
    exact hmap ▸ hspells
  | compact hdigits =>
    rw [map_plain_of_allDigits hdigits]
    exact .compact hdigits
  | scenario hdigits hd he =>
    obtain ⟨hab, hrest⟩ := allDigits_split hdigits
    obtain ⟨hst, hxyz⟩ := allDigits_split hrest
    have hspells : Spells (· = '-') _ _ := .scenario hdigits rfl rfl
    have hmap := map_plain_append hab hd
      (map_plain_append hst he (map_plain_of_allDigits hxyz))
    exact hmap ▸ hspells

theorem of_map_plain {cs code : List Char} (hascii : ∀ c ∈ cs, c.toNat < 0x80)
    (h : Spells (· = '-') (cs.map plain) code) : Spells IsDash cs code := by
  generalize htext : cs.map plain = text at h
  cases h with
  | province hdigits =>
    obtain rfl := eq_of_map_plain hascii hdigits htext
    exact .province hdigits
  | district hdigits hd =>
    subst hd
    obtain ⟨hab, hxyz⟩ := allDigits_split hdigits
    obtain ⟨d, tail, hd, rfl, htail⟩ := exists_of_map_plain_append hascii hab htext
    obtain rfl := eq_of_map_plain (fun c hc => hascii c (by simp [hc])) hxyz htail
    exact .district hdigits hd
  | compact hdigits =>
    obtain rfl := eq_of_map_plain hascii hdigits htext
    exact .compact hdigits
  | scenario hdigits hd he =>
    subst hd he
    obtain ⟨hab, hrest⟩ := allDigits_split hdigits
    obtain ⟨hst, hxyz⟩ := allDigits_split hrest
    obtain ⟨d, tail, hd, rfl, htail⟩ := exists_of_map_plain_append hascii hab htext
    have hascii' : ∀ c ∈ tail, c.toNat < 0x80 := fun c hc => hascii c (by simp [hc])
    obtain ⟨e, last, he, rfl, hlast⟩ := exists_of_map_plain_append hascii' hst htail
    have hascii'' : ∀ c ∈ last, c.toNat < 0x80 := fun c hc => hascii' c (by simp [hc])
    obtain rfl := eq_of_map_plain hascii'' hxyz hlast
    exact .scenario hdigits hd he

end Spells

namespace IsMarker

theorem map_plain {marker : List Char} (h : IsMarker marker) : marker.map plain ∈ markers := by
  cases h with
  | missing => decide
  | letters hk hr => rcases hk with rfl | rfl <;> rcases hr with rfl | rfl <;> decide
  | dashed hk hr hd =>
    rw [List.map_cons, List.map_cons, List.map_cons, plain_of_isDash hd]
    rcases hk with rfl | rfl <;> rcases hr with rfl | rfl <;> decide

theorem of_map_plain {marker : List Char} (hascii : ∀ c ∈ marker, c.toNat < 0x80)
    (h : marker.map plain ∈ markers) : IsMarker marker := by
  simp only [markers, List.mem_cons, List.not_mem_nil, or_false, List.map_eq_cons_iff,
    List.map_eq_nil_iff] at h
  rcases h with rfl | ⟨k, _, rfl, hk, r, _, rfl, hr, rfl⟩ |
    ⟨k, _, rfl, hk, r, _, rfl, hr, d, _, rfl, hd, rfl⟩
  · exact .missing
  · simp only [List.forall_mem_cons] at hascii
    exact .letters (eq_or_of_plain_k hascii.1 hk) (eq_or_of_plain_r hascii.2.1 hr)
  · simp only [List.forall_mem_cons] at hascii
    exact .dashed (eq_or_of_plain_k hascii.1 hk) (eq_or_of_plain_r hascii.2.1 hr)
      (isDash_of_plain hascii.2.2.1 hd)

theorem ascii {marker : List Char} (h : IsMarker marker) : ∀ c ∈ marker, c.toNat < 0x80 := by
  cases h with
  | missing => simp
  | letters hk hr => rcases hk with rfl | rfl <;> rcases hr with rfl | rfl <;> simp
  | dashed hk hr hd =>
    rcases hk with rfl | rfl <;> rcases hr with rfl | rfl <;> rcases hd with rfl | rfl <;> simp

end IsMarker

/-! ## Codes -/

theorem not_isForeign_of_isDigit {c : Char} (h : c.isDigit = true) : ¬ Text.IsForeign c := by
  rintro (hbeyond | hletter)
  · exact absurd (ascii_of_isDigit h) (not_lt.mpr hbeyond)
  · simp only [List.mem_cons, List.not_mem_nil, or_false] at hletter
    rcases hletter with rfl | rfl | rfl <;> cases h

theorem IsSpelling.ascii {text code : List Char} (h : IsSpelling text code) :
    ∀ c ∈ text, c.toNat < 0x80 := by
  obtain ⟨marker, rest, rfl, hmarker, hspells⟩ := h
  rw [List.forall_mem_append]
  refine ⟨hmarker.ascii, fun c hc => ?_⟩
  rcases hspells.isDigit_or_dash c hc with hdigit | rfl | rfl
  · exact ascii_of_isDigit hdigit
  · decide
  · decide

/-- What is recognised in capitals is spelled in the text. -/
theorem canonicalChars?_cleaned_iff {cs code : List Char} :
    canonicalChars? (unmarked (cleaned cs)) = some code ↔ IsSpelling (packed cs) code := by
  rw [canonicalChars?_unmarked_iff]
  constructor
  · rintro ⟨marker, hmarker, rest, hcleaned, hspells⟩
    -- none of the recognised characters is the capital of a letter beyond ASCII
    have hnative : ∀ d ∈ cleaned cs, ¬ Text.IsForeign d := by
      rw [hcleaned, List.forall_mem_append]
      constructor
      · have hmarkers : ∀ marker ∈ markers,
            marker.all (fun d => decide (¬ Text.IsForeign d)) = true := by decide
        simpa only [List.all_eq_true, decide_eq_true_eq] using hmarkers marker hmarker
      · intro d hd
        rcases hspells.isDigit_or_dash d hd with hdigit | rfl
        · exact not_isForeign_of_isDigit hdigit
        · decide
    have hascii := ascii_of_cleaned hnative
    rw [cleaned_of_ascii hascii] at hcleaned
    obtain ⟨marker', rest', hpacked, rfl, rfl⟩ := List.map_eq_append_iff.mp hcleaned
    rw [hpacked, List.forall_mem_append] at hascii
    exact ⟨marker', rest', hpacked, .of_map_plain hascii.1 hmarker,
      .of_map_plain hascii.2 hspells⟩
  · intro h
    have hascii := h.ascii
    obtain ⟨marker, rest, hpacked, hmarker, hspells⟩ := h
    refine ⟨marker.map plain, hmarker.map_plain, rest.map plain, ?_, hspells.map_plain⟩
    rw [cleaned_of_ascii hascii, hpacked, List.map_append]

namespace Canonical

theorem ofText_of_isSpelling {text : String} {code : List Char}
    (h : IsSpelling (packed (Text.trim text).toList) code) :
    ofText text = ⟨Text.trim text, some (String.ofList code), true,
      cleaned (Text.trim text).toList != code⟩ := by
  simp only [ofText, canonicalChars?_cleaned_iff.mpr h]

theorem ofText_of_not_isSpelling {text : String}
    (h : ¬ ∃ code, IsSpelling (packed (Text.trim text).toList) code) :
    ofText text = ⟨Text.trim text, none, false, false⟩ := by
  have hnone : canonicalChars? (unmarked (cleaned (Text.trim text).toList)) = none := by
    rw [Option.eq_none_iff_forall_ne_some]
    exact fun code hcode => h ⟨code, canonicalChars?_cleaned_iff.mp hcode⟩
  simp only [ofText, hnone]

/-- A code is kept: it holds no blanks, and its capitals are itself. -/
theorem ofText_ofList {text code : List Char} (h : IsSpelling text code) :
    ofText (String.ofList code) = ⟨String.ofList code, some (String.ofList code), true, false⟩ := by
  obtain ⟨_, _, _, _, hspells⟩ := h
  have hself := hspells.self
  have hsigns := hself.isDigit_or_dash
  have hblank : ∀ c ∈ code, Text.isBlank c = false := by
    intro c hc
    rcases hsigns c hc with hdigit | rfl
    · exact Text.isBlank_of_isDigit hdigit
    · decide
  have hpacked : packed code = code := by
    refine List.filter_eq_self.mpr fun c hc => ?_
    have hspace : c ≠ ' ' := by
      rintro rfl
      exact absurd (hblank ' ' hc) (by decide)
    simpa using hspace
  have hspelling : IsSpelling code code :=
    ⟨[], code, rfl, .missing, hself.mono fun c hc => Or.inl hc⟩
  have hcleaned : cleaned code = code := by
    rw [← hpacked] at hspelling
    rw [cleaned_of_ascii hspelling.ascii, hpacked]
    calc code.map plain = code.map id := List.map_congr_left fun c hc => by
          rcases hsigns c hc with hdigit | rfl
          · exact plain_of_isDigit hdigit
          · exact plain_of_isDash (Or.inl rfl)
      _ = code := List.map_id code
  have htrim : Text.trim (String.ofList code) = String.ofList code :=
    (Text.isPadded_self String.toList_ofList).trim hblank
  have hchars : (Text.trim (String.ofList code)).toList = code := by
    rw [htrim, String.toList_ofList]
  have hspelled : IsSpelling (packed (Text.trim (String.ofList code)).toList) code := by
    rwa [hchars, hpacked]
  rw [ofText_of_isSpelling hspelled, hchars, hcleaned, htrim, bne_self_eq_false]

/-- What becomes of a text, told from what is left of it without blanks around it and spaces
in it. -/
structure Canonicalizes (text : String) (x : Canonical) : Prop where
  raw : x.raw = Text.trim text
  isCodeLike_iff : x.isCodeLike = true ↔
    ∃ code, IsSpelling (packed (Text.trim text).toList) code
  canonical_iff : ∀ c, x.canonical = some c ↔
    IsSpelling (packed (Text.trim text).toList) c.toList
  /-- The code differs from the text in capitals, the marker included. -/
  wasAliased_iff : x.wasAliased = true ↔
    ∃ c, x.canonical = some c ∧ c.toList ≠ cleaned (Text.trim text).toList
  /-- The text in capitals, if it spells a code: other letters than those of ASCII are not in it. -/
  cleaned_eq : x.isCodeLike = true →
    cleaned (Text.trim text).toList = (packed (Text.trim text).toList).map plain
  of_not_isCodeLike : x.isCodeLike = false → x = ⟨Text.trim text, none, false, false⟩
  /-- A canonical code is brought to itself. -/
  fixed : ∀ c, x.canonical = some c → ofText c = ⟨c, some c, true, false⟩

/-- Every text is brought to the code that it spells, and to none if it spells none. -/
theorem ofText_canonicalizes (text : String) : Canonicalizes text (ofText text) := by
  by_cases h : ∃ code, IsSpelling (packed (Text.trim text).toList) code
  · obtain ⟨code, hcode⟩ := h
    have hunique : ∀ c, IsSpelling (packed (Text.trim text).toList) c → c = code := by
      intro c hc
      have hsome := canonicalChars?_cleaned_iff.mpr hc
      rwa [canonicalChars?_cleaned_iff.mpr hcode, Option.some.injEq, eq_comm] at hsome
    rw [ofText_of_isSpelling hcode]
    exact {
      raw := rfl
      isCodeLike_iff := iff_of_true rfl ⟨code, hcode⟩
      canonical_iff := by
        intro c
        rw [Option.some.injEq]
        constructor
        · rintro rfl
          rwa [String.toList_ofList]
        · intro hc
          rw [← hunique _ hc, String.ofList_toList]
      wasAliased_iff := by
        rw [bne_iff_ne]
        constructor
        · intro hne
          exact ⟨_, rfl, by rwa [String.toList_ofList, ne_comm]⟩
        · rintro ⟨c, hc, hne⟩
          rwa [← Option.some.inj hc, String.toList_ofList, ne_comm] at hne
      cleaned_eq := fun _ => cleaned_of_ascii hcode.ascii
      of_not_isCodeLike := fun hlike => nomatch hlike
      fixed := by
        rintro c hc
        obtain rfl := Option.some.inj hc
        exact ofText_ofList hcode }
  · rw [ofText_of_not_isSpelling h]
    exact {
      raw := rfl
      isCodeLike_iff := iff_of_false Bool.false_ne_true h
      canonical_iff := fun c => iff_of_false (fun hc => nomatch hc) fun hc => h ⟨_, hc⟩
      wasAliased_iff := iff_of_false Bool.false_ne_true fun ⟨_, hc, _⟩ => nomatch hc
      cleaned_eq := fun hlike => nomatch hlike
      of_not_isCodeLike := fun _ => rfl
      fixed := fun _ hc => nomatch hc }

example : ofText " kr_32 110" = ⟨"kr_32 110", some "42-110", true, true⟩ := by decide +kernel

end Canonical

end PollAtlas.Region
