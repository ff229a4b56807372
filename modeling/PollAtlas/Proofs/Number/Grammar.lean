import Mathlib.Data.String.Basic
import PollAtlas.Proofs.Number.Digits
import PollAtlas.Proofs.Number.Range
import PollAtlas.Text.Blank

/-!
# The grammar of number texts

A text of a number is an optional sign and then a decimal or one of three words. A decimal has
digits with an optional point and may end in an exponent. Nothing else is read, and what is read
is what the grammar says.

* `Double.parse?_eq_some_iff`: the texts that are read, with the numbers that they stand for.
* `Magnitude.isFinite_toDouble`: such a number is finite just when it is in range.
* `Double.parse?_text_plain`: a double in running text is read back.
-/

namespace PollAtlas

open scoped Power

/-! ## Grammar -/

/-- An optional sign, and whether it is a minus. -/
inductive IsSign : List Char → Bool → Prop
  | absent : IsSign [] false
  | plus : IsSign ['+'] false
  | minus : IsSign ['-'] true

/-- Digits with an optional sign. -/
inductive IsInteger : List Char → Int → Prop
  | mk {sign digits : List Char} {negative : Bool} (hsign : IsSign sign negative)
      (hdigits : AllDigits digits) (hne : digits ≠ []) :
      IsInteger (sign ++ digits)
        (if negative then -(natOfDigits digits : Int) else natOfDigits digits)

/-- An exponent with its mark, or nothing at all. -/
inductive IsExponent : List Char → Int → Prop
  | absent : IsExponent [] 0
  | present {mark : Char} {cs : List Char} {e : Int} (hmark : mark = 'e' ∨ mark = 'E')
      (h : IsInteger cs e) : IsExponent (mark :: cs) e

/-- Digits, or digits around a point, and then an optional exponent. -/
inductive IsDecimal : List Char → Decimal → Prop
  | whole {digits rest : List Char} {e : Int} (hdigits : AllDigits digits) (hne : digits ≠ [])
      (hrest : IsExponent rest e) : IsDecimal (digits ++ rest) ⟨natOfDigits digits, e⟩
  | point {whole fraction rest : List Char} {e : Int} (hwhole : AllDigits whole)
      (hfraction : AllDigits fraction) (hne : whole ++ fraction ≠ []) (hrest : IsExponent rest e) :
      IsDecimal (whole ++ '.' :: (fraction ++ rest))
        ⟨natOfDigits (whole ++ fraction), e - fraction.length⟩

/-- What a number text says without its sign. -/
inductive Magnitude where
  | decimal (d : Decimal)
  | infinite
  | none

/-- A decimal, or a word in any case. -/
inductive IsMagnitude : List Char → Magnitude → Prop
  | decimal {cs : List Char} {d : Decimal} (h : IsDecimal cs d) : IsMagnitude cs (.decimal d)
  | inf {cs : List Char} (h : cs.map Char.toLower = "inf".toList) : IsMagnitude cs .infinite
  | infinity {cs : List Char} (h : cs.map Char.toLower = "infinity".toList) :
      IsMagnitude cs .infinite
  | nan {cs : List Char} (h : cs.map Char.toLower = "nan".toList) : IsMagnitude cs .none

/-- A number with an optional sign. -/
inductive IsNumeral : List Char → Bool → Magnitude → Prop
  | mk {sign cs : List Char} {negative : Bool} {m : Magnitude} (hsign : IsSign sign negative)
      (h : IsMagnitude cs m) : IsNumeral (sign ++ cs) negative m

namespace Magnitude

/-- The double that a number is turned into. -/
def toDouble (negative : Bool) : Magnitude → Double
  | decimal d => d.toDouble negative
  | infinite => .infinity negative
  | none => .nan

/-- The number is a decimal in the range of doubles. -/
def InRange : Magnitude → Prop
  | decimal d => d.InRange
  | _ => False

/-- A number is turned into a finite double just when it is in range. -/
theorem isFinite_toDouble (m : Magnitude) (negative : Bool) :
    (m.toDouble negative).isFinite = true ↔ m.InRange := by
  cases m with
  | decimal d => exact d.isFinite_toDouble negative
  | infinite => exact iff_of_false Bool.false_ne_true id
  | none => exact iff_of_false Bool.false_ne_true id

end Magnitude

/-! ## Integers -/

theorem AllDigits.all {cs : List Char} (h : AllDigits cs) : cs.all Char.isDigit = true :=
  List.all_eq_true.mpr h

theorem IsInteger.of_signedOfDigits? {cs : List Char} {n : Int}
    (h : signedOfDigits? cs = some n) : IsInteger cs n := by
  unfold signedOfDigits? at h
  split at h
  · cases h
  · cases h
  · cases h
  · rename_i digits hne
    split at h
    · rename_i hdigits
      cases h
      have hnil : digits ≠ [] := fun hnil => hne (by rw [hnil])
      exact @IsInteger.mk ['-'] _ true .minus (List.all_eq_true.mp hdigits) hnil
    · cases h
  · rename_i digits hne
    split at h
    · rename_i hdigits
      cases h
      have hnil : digits ≠ [] := fun hnil => hne (by rw [hnil])
      exact @IsInteger.mk ['+'] _ false .plus (List.all_eq_true.mp hdigits) hnil
    · cases h
  · rename_i hne _ _ _ _
    split at h
    · rename_i hdigits
      cases h
      exact .mk .absent (List.all_eq_true.mp hdigits) hne
    · cases h

theorem signedOfDigits?_of_isInteger {cs : List Char} {n : Int} (h : IsInteger cs n) :
    signedOfDigits? cs = some n := by
  obtain ⟨hsign, hdigits, hne⟩ := h
  obtain ⟨c, digits, rfl⟩ := List.exists_cons_of_ne_nil hne
  cases hsign with
  | absent =>
    have hc := hdigits c List.mem_cons_self
    rw [List.nil_append]
    unfold signedOfDigits?
    -- every other case has a first character that is no digit
    split
    case h_1 heq => cases heq
    case h_6 => rw [if_pos hdigits.all, if_neg Bool.false_ne_true]
    all_goals
      rename_i heq
      cases heq
      cases hc
  | plus => simp [signedOfDigits?, hdigits.all]
  | minus => simp [signedOfDigits?, hdigits.all]

/-! ## Decimals -/

theorem IsExponent.of_exponentPart? {cs : List Char} {e : Int}
    (h : Decimal.exponentPart? cs = some e) : IsExponent cs e := by
  cases cs with
  | nil =>
    cases h
    exact .absent
  | cons c digits =>
    rw [Decimal.exponentPart?] at h
    split at h
    · rename_i hmark
      exact .present hmark (.of_signedOfDigits? h)
    · cases h

theorem exponentPart?_of_isExponent {cs : List Char} {e : Int} (h : IsExponent cs e) :
    Decimal.exponentPart? cs = some e := by
  cases h with
  | absent => rfl
  | present hmark h => rw [Decimal.exponentPart?, if_pos hmark, signedOfDigits?_of_isInteger h]

/-- An exponent does not go on with a digit or a point. -/
theorem IsExponent.head? {cs : List Char} {e : Int} (h : IsExponent cs e) (c : Char)
    (hc : cs.head? = some c) : c.isDigit = false ∧ c ≠ '.' := by
  cases h with
  | absent => cases hc
  | present hmark h =>
    cases hc
    rcases hmark with rfl | rfl
    · decide
    · decide

theorem allDigits_takeWhile (cs : List Char) : AllDigits (cs.takeWhile Char.isDigit) :=
  List.all_eq_true.mp List.all_takeWhile

namespace Decimal

theorem parse?_whole {whole rest : List Char} (hwhole : AllDigits whole)
    (hrest : ∀ c, rest.head? = some c → c.isDigit = false ∧ c ≠ '.') :
    parse? (whole ++ rest) =
      if whole = [] then none else (exponentPart? rest).map fun e => ⟨natOfDigits whole, e⟩ := by
  have hdigit : ∀ c, rest.head? = some c → c.isDigit = false := fun c hc => (hrest c hc).1
  unfold parse?
  dsimp only
  rw [takeWhile_digits hwhole hdigit, dropWhile_digits hwhole hdigit]
  split
  · exact absurd rfl (hrest '.' rfl).2
  · simp

theorem parse?_point {whole : List Char} (hwhole : AllDigits whole) (after : List Char) :
    parse? (whole ++ '.' :: after) =
      if whole ++ after.takeWhile Char.isDigit = [] then none
      else (exponentPart? (after.dropWhile Char.isDigit)).map fun e =>
        ⟨natOfDigits (whole ++ after.takeWhile Char.isDigit),
          e - (after.takeWhile Char.isDigit).length⟩ := by
  have hdigit : ∀ c, ('.' :: after).head? = some c → c.isDigit = false := by
    rintro _ ⟨⟩
    rfl
  unfold parse?
  dsimp only
  rw [takeWhile_digits hwhole hdigit, dropWhile_digits hwhole hdigit]
  simp

end Decimal

theorem IsDecimal.of_parse? {cs : List Char} {d : Decimal} (h : Decimal.parse? cs = some d) :
    IsDecimal cs d := by
  have hwhole := allDigits_takeWhile cs
  have hrest := Text.head?_dropWhile (p := Char.isDigit) cs
  have hcs := List.takeWhile_append_dropWhile (p := Char.isDigit) (l := cs)
  generalize cs.takeWhile Char.isDigit = whole at hwhole hcs
  generalize cs.dropWhile Char.isDigit = rest at hrest hcs
  subst hcs
  -- the digits in front end at a point, at an exponent or at the end
  by_cases hpoint : rest.head? = some '.'
  · obtain ⟨after, rfl⟩ := List.head?_eq_some_iff.mp hpoint
    rw [Decimal.parse?_point hwhole] at h
    split at h
    · cases h
    · rename_i hne
      obtain ⟨e, he, rfl⟩ := Option.map_eq_some_iff.mp h
      have hafter := List.takeWhile_append_dropWhile (p := Char.isDigit) (l := after)
      have hdecimal := IsDecimal.point hwhole (allDigits_takeWhile after) hne (.of_exponentPart? he)
      rw [hafter] at hdecimal
      exact hdecimal
  · have hhead : ∀ c, rest.head? = some c → c.isDigit = false ∧ c ≠ '.' := by
      intro c hc
      refine ⟨hrest c hc, ?_⟩
      rintro rfl
      exact hpoint hc
    rw [Decimal.parse?_whole hwhole hhead] at h
    split at h
    · cases h
    · rename_i hne
      obtain ⟨e, he, rfl⟩ := Option.map_eq_some_iff.mp h
      exact .whole hwhole hne (.of_exponentPart? he)

theorem parse?_of_isDecimal {cs : List Char} {d : Decimal} (h : IsDecimal cs d) :
    Decimal.parse? cs = some d := by
  cases h with
  | whole hdigits hne hrest =>
    rw [Decimal.parse?_whole hdigits hrest.head?, if_neg hne, exponentPart?_of_isExponent hrest]
    rfl
  | point hwhole hfraction hne hrest =>
    have hdigit := fun c hc => (hrest.head? c hc).1
    rw [Decimal.parse?_point hwhole, takeWhile_digits hfraction hdigit,
      dropWhile_digits hfraction hdigit, if_neg hne, exponentPart?_of_isExponent hrest]
    rfl

/-! ## Words -/

theorem toLower_of_lt {c : Char} (h : c.toNat < 65) : c.toLower = c := by
  unfold Char.toLower
  rw [dif_neg]
  intro hupper
  exact absurd (UInt32.le_iff_toNat_le.mp hupper.1) (Nat.not_le.mpr h)

/-- A decimal begins with a digit or a point. -/
theorem IsDecimal.exists_head {cs : List Char} {d : Decimal} (h : IsDecimal cs d) :
    ∃ c rest, cs = c :: rest ∧ (c.isDigit = true ∨ c = '.') := by
  cases h with
  | whole hdigits hne hrest =>
    obtain ⟨c, digits, rfl⟩ := List.exists_cons_of_ne_nil hne
    exact ⟨c, _, rfl, Or.inl (hdigits c List.mem_cons_self)⟩
  | @point whole fraction rest e hwhole hfraction hne hrest =>
    cases whole with
    | nil => exact ⟨'.', _, rfl, Or.inr rfl⟩
    | cons c whole => exact ⟨c, _, rfl, Or.inl (hwhole c List.mem_cons_self)⟩

theorem IsDecimal.map_toLower_ne {cs : List Char} {d : Decimal} (h : IsDecimal cs d) {c : Char}
    {word : List Char} (hc : 65 ≤ c.toNat) : cs.map Char.toLower ≠ c :: word := by
  obtain ⟨first, rest, rfl, hfirst⟩ := h.exists_head
  have hlow : first.toNat < 65 := by
    rcases hfirst with hdigit | rfl
    · have hrange := Char.isDigit_iff_toNat.mp hdigit
      have hnine : '9'.toNat = 57 := rfl
      omega
    · decide
  intro hword
  have heq : first.toLower = c := (List.cons.inj hword).1
  rw [toLower_of_lt hlow] at heq
  rw [heq] at hlow
  omega

/-! ## Numbers -/

theorem exists_isMagnitude_of_parseMagnitude? {negative : Bool} {cs : List Char} {x : Double}
    (h : Double.parseMagnitude? negative cs = some x) :
    ∃ m, IsMagnitude cs m ∧ m.toDouble negative = x := by
  simp only [Double.parseMagnitude?, String.ofList_eq] at h
  split at h
  · rename_i hword
    cases h
    rcases hword with hword | hword
    · exact ⟨.infinite, .inf hword, rfl⟩
    · exact ⟨.infinite, .infinity hword, rfl⟩
  · split at h
    · rename_i hword
      cases h
      exact ⟨.none, .nan hword, rfl⟩
    · obtain ⟨d, hd, hx⟩ := Option.map_eq_some_iff.mp h
      exact ⟨.decimal d, .decimal (.of_parse? hd), hx⟩

theorem parseMagnitude?_of_isMagnitude {cs : List Char} {m : Magnitude} (h : IsMagnitude cs m)
    (negative : Bool) : Double.parseMagnitude? negative cs = some (m.toDouble negative) := by
  simp only [Double.parseMagnitude?, String.ofList_eq]
  cases h with
  | decimal h =>
    have hinf : ¬ (cs.map Char.toLower = "inf".toList ∨
        cs.map Char.toLower = "infinity".toList) := by
      rintro (hword | hword)
      · exact h.map_toLower_ne (by decide) hword
      · exact h.map_toLower_ne (by decide) hword
    have hnan : ¬ cs.map Char.toLower = "nan".toList := h.map_toLower_ne (by decide)
    rw [if_neg hinf, if_neg hnan, parse?_of_isDecimal h]
    rfl
  | inf h =>
    rw [if_pos (Or.inl h)]
    rfl
  | infinity h =>
    rw [if_pos (Or.inr h)]
    rfl
  | nan h =>
    rw [h]
    rfl

/-- What is read has a number text, and stands for its number. -/
theorem exists_isNumeral_of_parse? {cs : List Char} {x : Double} (h : Double.parse? cs = some x) :
    ∃ negative m, IsNumeral cs negative m ∧ m.toDouble negative = x := by
  unfold Double.parse? at h
  split at h
  · obtain ⟨m, hm, hx⟩ := exists_isMagnitude_of_parseMagnitude? h
    exact ⟨true, m, @IsNumeral.mk ['-'] _ _ _ .minus hm, hx⟩
  · obtain ⟨m, hm, hx⟩ := exists_isMagnitude_of_parseMagnitude? h
    exact ⟨false, m, @IsNumeral.mk ['+'] _ _ _ .plus hm, hx⟩
  · obtain ⟨m, hm, hx⟩ := exists_isMagnitude_of_parseMagnitude? h
    exact ⟨false, m, .mk .absent hm, hx⟩

theorem head?_ne_sign {cs word : List Char} {first : Char}
    (h : cs.map Char.toLower = first :: word) (hminus : first ≠ '-') (hplus : first ≠ '+') :
    cs.head? ≠ some '-' ∧ cs.head? ≠ some '+' := by
  constructor
  · intro hc
    obtain ⟨rest, rfl⟩ := List.head?_eq_some_iff.mp hc
    exact hminus (List.cons.inj h).1.symm
  · intro hc
    obtain ⟨rest, rfl⟩ := List.head?_eq_some_iff.mp hc
    exact hplus (List.cons.inj h).1.symm

/-- There is no second sign. -/
theorem IsMagnitude.head?_ne {cs : List Char} {m : Magnitude} (h : IsMagnitude cs m) :
    cs.head? ≠ some '-' ∧ cs.head? ≠ some '+' := by
  cases h with
  | decimal h =>
    obtain ⟨c, rest, rfl, hdigit | rfl⟩ := h.exists_head
    · constructor
      · rintro ⟨⟩
        cases hdigit
      · rintro ⟨⟩
        cases hdigit
    · exact ⟨nofun, nofun⟩
  | inf h => exact head?_ne_sign h (by decide) (by decide)
  | infinity h => exact head?_ne_sign h (by decide) (by decide)
  | nan h => exact head?_ne_sign h (by decide) (by decide)

theorem parse?_of_isNumeral {cs : List Char} {negative : Bool} {m : Magnitude}
    (h : IsNumeral cs negative m) : Double.parse? cs = some (m.toDouble negative) := by
  obtain ⟨hsign, h⟩ := h
  have hread := parseMagnitude?_of_isMagnitude h
  cases hsign with
  | absent =>
    obtain ⟨hminus, hplus⟩ := h.head?_ne
    rw [List.nil_append]
    unfold Double.parse?
    split
    · exact absurd rfl hminus
    · exact absurd rfl hplus
    · exact hread false
  | plus => exact hread false
  | minus => exact hread true

/-- The texts that are read are those of the grammar, and each stands for its number. -/
theorem Double.parse?_eq_some_iff {cs : List Char} {x : Double} :
    parse? cs = some x ↔ ∃ negative m, IsNumeral cs negative m ∧ m.toDouble negative = x := by
  constructor
  · exact exists_isNumeral_of_parse?
  · rintro ⟨negative, m, h, rfl⟩
    exact parse?_of_isNumeral h

/-! ## Running text -/

theorem isSign_signText (negative : Bool) : IsSign (Double.signText negative) negative := by
  cases negative with
  | false => exact .absent
  | true => exact .minus

/-- Running text has the digits of a decimal, or these around a point. -/
theorem exists_isDecimal_positionalText (d : Decimal) :
    ∃ d', IsDecimal (Layout.plain.positionalText d) d' ∧ d'.nearestUnits = d.nearestUnits := by
  obtain ⟨m, e⟩ := d
  cases e with
  | ofNat e =>
    have hdecimal := IsDecimal.whole ((allDigits_toDigits m).append (allDigits_zeros e))
      (List.append_ne_nil_of_left_ne_nil Nat.toDigits_ne_nil _) .absent
    refine ⟨_, hdecimal, ?_⟩
    rw [natOfDigits_append_zeros, natOfDigits_toDigits, Decimal.nearestUnits_mul_pow, Int.zero_add]
    rfl
  | negSucc e =>
    have hdigits := allDigits_leftpad (e + 2) m
    have hvalue : natOfDigits (List.leftpad (e + 2) '0' (Nat.toDigits 10 m)) = m := by
      rw [natOfDigits_leftpad, natOfDigits_toDigits]
    have hlength := length_leftpad_toDigits e m
    simp only [Layout.positionalText]
    -- the zeros in front do not count, so the point may stand anywhere among the digits
    generalize List.leftpad (e + 2) '0' (Nat.toDigits 10 m) = padded at *
    generalize hwhole : padded.length - (e + 1) = whole
    have hne : padded.take whole ++ padded.drop whole ≠ [] := by
      rw [List.take_append_drop]
      exact List.ne_nil_of_length_pos (by omega)
    have hdecimal := IsDecimal.point (fun c hc => hdigits c (List.mem_of_mem_take hc))
      (fun c hc => hdigits c (List.mem_of_mem_drop hc)) hne .absent
    rw [List.append_nil, List.take_append_drop, hvalue] at hdecimal
    refine ⟨_, hdecimal, ?_⟩
    have hexponent : (0 : Int) - (padded.drop whole).length = Int.negSucc e := by
      rw [List.length_drop]
      omega
    rw [hexponent]

/-- A double in running text is read back. -/
theorem Double.parse?_text_plain (x : Double) : parse? (x.text .plain) = some x := by
  cases x with
  | nan => rfl
  | infinity negative =>
    cases negative with
    | false => rfl
    | true => rfl
  | finite negative units h =>
    obtain ⟨d, hdecimal, hnearest⟩ := exists_isDecimal_positionalText (Layout.plain.decimal units)
    rw [Layout.nearestUnits_decimal _ h.2] at hnearest
    have hread := parse?_of_isNumeral (.mk (isSign_signText negative) (.decimal hdecimal))
    rw [Magnitude.toDouble, Decimal.toDouble_of_nearestUnits h hnearest] at hread
    exact hread

end PollAtlas
