import PollAtlas.Proofs.Region.Whole
import PollAtlas.Region.Param

/-!
# The region that is asked for

Only a whole province in one of its own two forms is rewritten, to the code that the polling
service knows it by. That code is in neither of the two forms and has no blanks around it, so
what is passed on asks for itself.

* `expanded?_eq_some_iff`: the texts that are rewritten.
* `ofText_of_whole`, `ofText_of_not_whole`: what is passed on for a text that is not blank.
* `ofText_of_normalized`: what is passed on, asked for again.
* `normalized_of_wholeForms`: what is passed on for a whole province.
-/

namespace PollAtlas.Region

/-! ## Texts of two bytes -/

theorem length_le_byteCount (cs : List Char) : cs.length ≤ byteCount cs := by
  induction cs with
  | nil => exact Nat.le_refl 0
  | cons c cs ih =>
    have hpos := c.utf8Size_pos
    rw [List.length_cons, byteCount]
    omega

theorem utf8Size_of_isDigit {c : Char} (h : c.isDigit = true) : c.utf8Size = 1 := by
  rw [Char.utf8Size_eq_one_iff]
  obtain ⟨_, hhigh⟩ := Char.isDigit_iff_toNat.mp h
  exact Nat.le_trans hhigh (by decide)

/-- Two characters in two bytes are all there is. -/
theorem eq_pair_of_byteCount {a b : Char} (before after : List Char)
    (h : byteCount (before ++ a :: b :: after) = 2) : before ++ a :: b :: after = [a, b] := by
  have hlength := length_le_byteCount (before ++ a :: b :: after)
  simp only [List.length_append, List.length_cons] at hlength
  have hbefore : before = [] := List.eq_nil_of_length_eq_zero (by omega)
  have hafter : after = [] := List.eq_nil_of_length_eq_zero (by omega)
  rw [hbefore, hafter, List.nil_append]

/-- A single digit is too short, and a single character of two bytes is no digit. -/
theorem exists_pair_of_digits {cs : List Char} (hsize : byteCount cs = 2)
    (hdigits : cs.all Char.isDigit = true) :
    ∃ a b, a.isDigit = true ∧ b.isDigit = true ∧ cs = [a, b] := by
  rw [List.all_eq_true] at hdigits
  match cs with
  | [] => cases hsize
  | [c] =>
    have hone : byteCount [c] = 1 := by
      simp [byteCount, utf8Size_of_isDigit (hdigits c List.mem_cons_self)]
    omega
  | a :: b :: rest =>
    have ha := hdigits a List.mem_cons_self
    have hb := hdigits b (List.mem_cons_of_mem a List.mem_cons_self)
    exact ⟨a, b, ha, hb, eq_pair_of_byteCount [] rest hsize⟩

theorem byteCount_pair {a b : Char} (ha : a.isDigit = true) (hb : b.isDigit = true) :
    byteCount [a, b] = 2 := by
  simp [byteCount, utf8Size_of_isDigit ha, utf8Size_of_isDigit hb]

theorem behindMarker?_eq_some_iff {cs rest : List Char} :
    behindMarker? cs = some rest ↔ cs = 'K' :: 'R' :: '-' :: rest := by
  unfold behindMarker?
  split
  · simp
  · rename_i hnone
    exact iff_of_false (by simp) fun h => hnone rest h

/-! ## The texts that are rewritten -/

/-- Behind the marker there is room for the digits that are found, and for nothing else. -/
theorem expanded?_marked_iff {cs : List Char} {code : String} :
    (((behindMarker? cs).filter fun rest => byteCount rest == 2).bind fun rest =>
        apiCode? (String.ofList rest)) = some code ↔
      ∃ a b, a.isDigit = true ∧ b.isDigit = true ∧ cs = ['K', 'R', '-', a, b] ∧
        code = wholeCode a b := by
  constructor
  · intro h
    obtain ⟨rest, hrest, hcode⟩ := Option.bind_eq_some_iff.mp h
    obtain ⟨hmarker, hsize⟩ := Option.filter_eq_some_iff.mp hrest
    obtain ⟨a, b, hpair, rfl⟩ := apiCode?_eq_some_iff.mp hcode
    obtain ⟨ha, hb, before, after, hsplit, _⟩ := hpair
    rw [String.toList_ofList] at hsplit
    rw [hsplit, beq_iff_eq] at hsize
    rw [behindMarker?_eq_some_iff, hsplit, eq_pair_of_byteCount before after hsize] at hmarker
    exact ⟨a, b, ha, hb, hmarker, rfl⟩
  · rintro ⟨a, b, ha, hb, rfl, rfl⟩
    have hpair : FirstDigitPair (String.ofList [a, b]).toList a b :=
      IsWholeProvince.firstDigitPair ⟨ha, hb, Or.inr String.toList_ofList⟩
    have hmarked : (behindMarker? ['K', 'R', '-', a, b]).filter
        (fun rest => byteCount rest == 2) = some [a, b] :=
      Option.filter_eq_some_iff.mpr ⟨rfl, beq_iff_eq.mpr (byteCount_pair ha hb)⟩
    rw [hmarked, Option.bind_some, apiCode?_eq_some_iff]
    exact ⟨a, b, hpair, rfl⟩

theorem expanded?_bare_iff {cs : List Char} {code : String} :
    (if byteCount cs == 2 && cs.all Char.isDigit then some (String.ofList cs ++ wholeProvince)
      else none) = some code ↔
      ∃ a b, a.isDigit = true ∧ b.isDigit = true ∧ cs = [a, b] ∧ code = wholeCode a b := by
  rw [Option.ite_none_right_eq_some, Bool.and_eq_true, beq_iff_eq]
  constructor
  · rintro ⟨⟨hsize, hdigits⟩, hcode⟩
    obtain ⟨a, b, ha, hb, rfl⟩ := exists_pair_of_digits hsize hdigits
    rw [ofList_append_wholeProvince, Option.some.injEq] at hcode
    exact ⟨a, b, ha, hb, rfl, hcode.symm⟩
  · rintro ⟨a, b, ha, hb, rfl, rfl⟩
    refine ⟨⟨byteCount_pair ha hb, ?_⟩, ?_⟩
    · simp [ha, hb]
    · rw [ofList_append_wholeProvince]

theorem expanded?_eq_some_iff {text code : String} :
    expanded? text.toList = some code ↔
      ∃ a b, IsWholeProvince text a b ∧ code = wholeCode a b := by
  rw [expanded?, Option.or_eq_some_iff, expanded?_marked_iff, expanded?_bare_iff]
  constructor
  · rintro (⟨a, b, ha, hb, htext, rfl⟩ | ⟨_, a, b, ha, hb, htext, rfl⟩)
    · exact ⟨a, b, ⟨ha, hb, Or.inl htext⟩, rfl⟩
    · exact ⟨a, b, ⟨ha, hb, Or.inr htext⟩, rfl⟩
  · rintro ⟨a, b, ⟨ha, hb, htext | htext⟩, rfl⟩
    · exact Or.inl ⟨a, b, ha, hb, htext, rfl⟩
    · have hnone : behindMarker? [a, b] = none := by
        rw [Option.eq_none_iff_forall_ne_some]
        intro rest h
        cases behindMarker?_eq_some_iff.mp h
      refine Or.inr ⟨?_, a, b, ha, hb, htext, rfl⟩
      rw [htext, hnone]
      rfl

theorem expanded?_eq_none_iff {text : String} :
    expanded? text.toList = none ↔ ¬ ∃ a b, IsWholeProvince text a b := by
  rw [Option.eq_none_iff_forall_ne_some]
  constructor
  · rintro h ⟨a, b, hwhole⟩
    exact h _ (expanded?_eq_some_iff.mpr ⟨a, b, hwhole, rfl⟩)
  · intro h code hcode
    obtain ⟨a, b, hwhole, _⟩ := expanded?_eq_some_iff.mp hcode
    exact h ⟨a, b, hwhole⟩

/-- The code of a whole province is longer than its other forms. -/
theorem not_isWholeProvince_wholeCode {a b c d : Char} : ¬ IsWholeProvince (wholeCode a b) c d := by
  rintro ⟨_, _, htext | htext⟩
  · simp [wholeCode] at htext
  · simp [wholeCode] at htext

namespace Param

theorem normalized_eq_none_iff {text : String} :
    (ofText (some text)).normalized = none ↔ Text.trim text = "" := by
  unfold ofText
  by_cases hblank : Text.trim text = ""
  · simp [Text.content?, hblank]
  · simp only [Option.bind_some, Text.content?, hblank, if_false]
    cases expanded? (Text.trim text).toList with
    | none => simp
    | some code => simp

theorem exists_normalized {text : String} (h : Text.trim text ≠ "") :
    ∃ code, (ofText (some text)).normalized = some code :=
  Option.ne_none_iff_exists'.mp (mt normalized_eq_none_iff.mp h)

theorem ofText_of_whole {text : String} {a b : Char} (h : IsWholeProvince (Text.trim text) a b) :
    ofText (some text) = ⟨Text.trim text, some (wholeCode a b), true⟩ := by
  have hne : Text.trim text ≠ "" := by
    intro hblank
    obtain ⟨_, _, htext | htext⟩ := h
    · rw [hblank] at htext
      cases htext
    · rw [hblank] at htext
      cases htext
  have hinput : Text.content? text = some (Text.trim text) := if_neg hne
  simp only [ofText, Option.bind_some, hinput, expanded?_eq_some_iff.mpr ⟨a, b, h, rfl⟩]

theorem ofText_of_not_whole {text : String} (hne : Text.trim text ≠ "")
    (h : ¬ ∃ a b, IsWholeProvince (Text.trim text) a b) :
    ofText (some text) = ⟨Text.trim text, some (Text.trim text), false⟩ := by
  have hinput : Text.content? text = some (Text.trim text) := if_neg hne
  simp only [ofText, Option.bind_some, hinput, expanded?_eq_none_iff.mpr h]

/-- What is passed on has no blanks around it, is not empty, and is no whole province any more. -/
theorem of_normalized {text code : String} (h : (ofText (some text)).normalized = some code) :
    Text.content? code = some code ∧ ¬ ∃ a b, IsWholeProvince code a b := by
  have hne : Text.trim text ≠ "" := fun hblank => by
    rw [normalized_eq_none_iff.mpr hblank] at h
    cases h
  by_cases hwhole : ∃ a b, IsWholeProvince (Text.trim text) a b
  · obtain ⟨a, b, hab⟩ := hwhole
    rw [ofText_of_whole hab] at h
    obtain rfl : wholeCode a b = code := Option.some.inj h
    have hcode : wholeCode a b ≠ "" := by simp [wholeCode]
    constructor
    · rw [Text.content?, trim_wholeCode hab.1 hab.2.1, if_neg hcode]
    · rintro ⟨_, _, hagain⟩
      exact not_isWholeProvince_wholeCode hagain
  · rw [ofText_of_not_whole hne hwhole] at h
    obtain rfl : Text.trim text = code := Option.some.inj h
    refine ⟨?_, hwhole⟩
    rw [Text.content?, Text.trim_idem, if_neg hne]

/-- What is passed on asks for itself. -/
theorem ofText_of_normalized {text code : String}
    (h : (ofText (some text)).normalized = some code) :
    ofText (some code) = ⟨code, some code, false⟩ := by
  obtain ⟨hcontent, hwhole⟩ := of_normalized h
  simp only [ofText, Option.bind_some, hcontent, expanded?_eq_none_iff.mpr hwhole]

/-- Every form of a whole province is passed on as the code that the polling service knows. -/
theorem normalized_of_wholeForms {a b : Char} (ha : a.isDigit = true) (hb : b.isDigit = true)
    {form : List Char} (hform : form ∈ wholeForms a b) {text : String}
    (hpadded : Text.IsPadded form text) :
    (ofText (some text)).normalized = some (wholeCode a b) := by
  have htrim := hpadded.trim (not_blank_of_mem_wholeForms ha hb hform)
  have hne : String.ofList form ≠ "" := by
    rw [ne_eq, String.ofList_eq_empty_iff]
    rintro rfl
    simp [wholeForms] at hform
  simp only [wholeForms, List.mem_cons, List.not_mem_nil, or_false] at hform
  rcases hform with rfl | rfl | rfl
  · have hwhole : IsWholeProvince (Text.trim text) a b :=
      ⟨ha, hb, Or.inl (by rw [htrim, String.toList_ofList])⟩
    rw [ofText_of_whole hwhole]
  · have hwhole : IsWholeProvince (Text.trim text) a b :=
      ⟨ha, hb, Or.inr (by rw [htrim, String.toList_ofList])⟩
    rw [ofText_of_whole hwhole]
  · rw [← wholeCode] at htrim
    rw [← wholeCode, ← htrim] at hne
    rw [ofText_of_not_whole hne]
    · rw [htrim]
    · rw [htrim]
      rintro ⟨_, _, hagain⟩
      exact not_isWholeProvince_wholeCode hagain

end Param

end PollAtlas.Region
