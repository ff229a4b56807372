import PollAtlas.Json.Document
import PollAtlas.Json.Printer
import PollAtlas.Proofs.Json.Rounding

/-!
# Written numbers

A number is written in up to three parts: whole digits, digits after a point, and an exponent.
Whatever follows a written number in a document can be told from its parts (`Ends`), so a number
is scanned as it was written (`Spelling.scan?_text`), and the layout of a double only decides
which parts there are. All of them stand for the decimal with the fewest digits, of which the double
is the nearest one. It is read back if its digits and its power of ten are doubles themselves,
so that only one rounding is left. With more digits a neighbour of it may be read.

* `Number.IsProper`, `Number.scanToken_text`: a number that has a text is scanned from it.
* `Number.IsKept`: the numbers that are read back.
* `Number.isKept_of_hasPlainText`: doubles of few digits are.
-/

namespace PollAtlas.Json

/-- What follows cannot belong to a number. -/
def Ends (rest : List Char) : Prop :=
  ∀ c, rest.head? = some c → c.isDigit = false ∧ c ≠ '.' ∧ c ≠ 'e' ∧ c ≠ 'E'

/-! ## Parts -/

/-- The parts of a written number; without digits after the point there is no point. -/
structure Spelling where
  whole : List Char
  fraction : List Char
  exponent : Option Int

namespace Spelling

def fractionText : List Char → List Char
  | [] => []
  | digits => '.' :: digits

def exponentText : Option Int → List Char
  | none => []
  | some e => 'e' :: (if e < 0 then '-' else '+') :: Nat.toDigits 10 e.natAbs

def text (s : Spelling) : List Char :=
  s.whole ++ (fractionText s.fraction ++ exponentText s.exponent)

/-- The parts are digits, and the whole ones do not begin with a zero unless it is all of
them. -/
structure IsWellFormed (s : Spelling) : Prop where
  whole_ne_nil : s.whole ≠ []
  whole_digits : AllDigits s.whole
  leading : s.whole.head? = some '0' → s.whole = ['0']
  fraction_digits : AllDigits s.fraction

theorem IsWellFormed.exists_head_text {s : Spelling} (h : s.IsWellFormed) :
    ∃ c cs, s.text = c :: cs ∧ c.isDigit = true := by
  obtain ⟨c, cs, hwhole⟩ := List.exists_cons_of_ne_nil h.whole_ne_nil
  have hc : c ∈ s.whole := by
    rw [hwhole]
    exact List.mem_cons_self
  rw [text, hwhole]
  exact ⟨c, _, rfl, h.whole_digits c hc⟩

/-- The number that the parts stand for. -/
def magnitude (s : Spelling) : Decimal :=
  ⟨natOfDigits (s.whole ++ s.fraction), s.exponent.getD 0 - s.fraction.length⟩

def numeral (s : Spelling) (negative : Bool) : Numeral :=
  ⟨negative, s.whole, s.fraction, s.exponent⟩

/-! ## Scanning -/

theorem scanWhole_append {whole rest : List Char} (hne : whole ≠ []) (hwhole : AllDigits whole)
    (hleading : whole.head? = some '0' → whole = ['0'])
    (hrest : ∀ c, rest.head? = some c → c.isDigit = false) :
    scanWhole (whole ++ rest) = some (whole, rest) := by
  by_cases hzero : whole.head? = some '0'
  · rw [hleading hzero]
    rfl
  · have htake := takeWhile_digits hwhole hrest
    have hdrop := dropWhile_digits hwhole hrest
    unfold scanWhole
    split
    · rename_i heq
      obtain ⟨c, cs, rfl⟩ := List.exists_cons_of_ne_nil hne
      exact absurd (congrArg some (List.cons.inj heq).1) hzero
    · rw [htake, hdrop, List.isEmpty_eq_false_iff.mpr hne, if_neg Bool.false_ne_true]

theorem scanFraction_append {fraction rest : List Char} (hfraction : AllDigits fraction)
    (hrest : ∀ c, rest.head? = some c → c.isDigit = false ∧ c ≠ '.') :
    scanFraction (fractionText fraction ++ rest) = some (fraction, rest) := by
  have hdigit : ∀ c, rest.head? = some c → c.isDigit = false := fun c hc => (hrest c hc).1
  cases fraction with
  | nil =>
    show scanFraction rest = _
    unfold scanFraction
    split
    · exact absurd rfl (hrest '.' rfl).2
    · rfl
  | cons d ds =>
    show scanFraction ('.' :: (d :: ds ++ rest)) = _
    rw [scanFraction, takeWhile_digits hfraction hdigit, dropWhile_digits hfraction hdigit]
    rfl

theorem scanExponentDigits_append (n : Nat) {rest : List Char} (hrest : Ends rest)
    (negative : Bool) :
    scanExponentDigits negative (Nat.toDigits 10 n ++ rest) =
      some (if negative then -(n : Int) else n, rest) := by
  have hdigit : ∀ c, rest.head? = some c → c.isDigit = false := fun c hc => (hrest c hc).1
  have hdigits := allDigits_toDigits n
  rw [scanExponentDigits, takeWhile_digits hdigits hdigit, dropWhile_digits hdigits hdigit,
    List.isEmpty_eq_false_iff.mpr Nat.toDigits_ne_nil, if_neg Bool.false_ne_true,
    natOfDigits_toDigits]

theorem scanExponent_append (exponent : Option Int) {rest : List Char} (hrest : Ends rest) :
    scanExponent (exponentText exponent ++ rest) = some (exponent, rest) := by
  cases exponent with
  | none =>
    cases rest with
    | nil => rfl
    | cons c rest =>
      obtain ⟨-, -, hsmall, hlarge⟩ := hrest c rfl
      show (if c = 'e' ∨ c = 'E' then _ else some (none, c :: rest)) = _
      rw [if_neg (not_or.mpr ⟨hsmall, hlarge⟩)]
  | some e =>
    by_cases he : e < 0
    · have hvalue : -(e.natAbs : Int) = e := by omega
      have hscan := scanExponentDigits_append e.natAbs hrest true
      rw [if_pos rfl, hvalue] at hscan
      simp [exponentText, scanExponent, he, hscan]
    · have hvalue : (e.natAbs : Int) = e := by omega
      have hscan := scanExponentDigits_append e.natAbs hrest false
      rw [if_neg Bool.false_ne_true, hvalue] at hscan
      simp [exponentText, scanExponent, he, hscan]

theorem head?_exponentText_append (exponent : Option Int) {rest : List Char} (hrest : Ends rest)
    (c : Char) (hc : (exponentText exponent ++ rest).head? = some c) :
    c.isDigit = false ∧ c ≠ '.' := by
  cases exponent with
  | none => exact ⟨(hrest c hc).1, (hrest c hc).2.1⟩
  | some e =>
    cases hc
    decide

/-- A number is scanned in the parts that it was written in. -/
theorem scan?_text {s : Spelling} (h : s.IsWellFormed) {rest : List Char} (hrest : Ends rest)
    (negative : Bool) :
    Numeral.scan? negative (s.text ++ rest) = some (s.numeral negative, rest) := by
  have hexponent := head?_exponentText_append s.exponent hrest
  have hfraction : ∀ c, (fractionText s.fraction ++ (exponentText s.exponent ++ rest)).head? =
      some c → c.isDigit = false := by
    intro c hc
    cases hparts : s.fraction with
    | nil =>
      rw [hparts] at hc
      exact (hexponent c hc).1
    | cons d ds =>
      rw [hparts] at hc
      cases hc
      rfl
  rw [Numeral.scan?, text, List.append_assoc, List.append_assoc,
    scanWhole_append h.whole_ne_nil h.whole_digits h.leading hfraction]
  simp only [Option.bind_eq_bind, Option.bind_some, scanFraction_append h.fraction_digits hexponent,
    scanExponent_append s.exponent hrest]
  rfl

/-! ## Decimals in parts -/

/-- A decimal without an exponent. -/
def positional : Decimal → Spelling
  | ⟨m, .ofNat e⟩ => ⟨Nat.toDigits 10 m ++ List.replicate e '0', ['0'], none⟩
  | ⟨m, .negSucc e⟩ =>
    let padded := List.leftpad (e + 2) '0' (Nat.toDigits 10 m)
    ⟨padded.take (padded.length - (e + 1)), padded.drop (padded.length - (e + 1)), none⟩

/-- A decimal with a single whole digit. -/
def scientific (d : Decimal) (leading : Int) : Spelling :=
  ⟨(Nat.toDigits 10 d.digits).take 1, (Nat.toDigits 10 d.digits).drop 1, some leading⟩

theorem fractionText_of_ne_nil {digits : List Char} (h : digits ≠ []) :
    fractionText digits = '.' :: digits := by
  cases digits with
  | nil => exact absurd rfl h
  | cons d ds => rfl

theorem drop_leftpad_ne_nil {e : Nat} {padded : List Char} (h : e + 2 ≤ padded.length) :
    padded.drop (padded.length - (e + 1)) ≠ [] := by
  intro hnil
  have hlength := congrArg List.length hnil
  rw [List.length_drop, List.length_nil] at hlength
  omega

theorem text_positional (d : Decimal) :
    (positional d).text = numberLayout.positionalText d := by
  obtain ⟨m, e⟩ := d
  cases e with
  | ofNat e => simp [positional, text, Layout.positionalText, numberLayout, fractionText,
      exponentText]
  | negSucc e =>
    have hne := drop_leftpad_ne_nil (length_leftpad_toDigits e m)
    simp only [positional, text, Layout.positionalText, exponentText, List.append_nil,
      fractionText_of_ne_nil hne]

theorem text_scientific (d : Decimal) (leading : Int) :
    (scientific d leading).text = Layout.scientificText d leading := by
  unfold scientific text Layout.scientificText
  obtain ⟨first, others, hdigits⟩ :=
    List.exists_cons_of_ne_nil (Nat.toDigits_ne_nil (b := 10) (n := d.digits))
  rw [hdigits]
  cases others with
  | nil => rfl
  | cons second others => rfl

/-- Only a single zero stands in front of the point where there is nothing else. -/
theorem leading_leftpad {m e : Nat} (hm : m ≠ 0) {padded : List Char}
    (hpadded : List.leftpad (e + 2) '0' (Nat.toDigits 10 m) = padded)
    (hzero : (padded.take (padded.length - (e + 1))).head? = some '0') :
    padded.take (padded.length - (e + 1)) = ['0'] := by
  rw [List.leftpad] at hpadded
  rw [List.head?_take] at hzero
  by_cases hlong : e + 2 ≤ (Nat.toDigits 10 m).length
  · rw [Nat.sub_eq_zero_of_le hlong, List.replicate_zero, List.nil_append] at hpadded
    have hpos : padded.length - (e + 1) ≠ 0 := by
      rw [← hpadded]
      omega
    rw [if_neg hpos, ← hpadded] at hzero
    exact absurd hzero (head?_toDigits_ne_zero hm)
  · obtain ⟨k, hk⟩ : ∃ k, e + 2 - (Nat.toDigits 10 m).length = k + 1 :=
      Nat.exists_eq_succ_of_ne_zero (by omega)
    have hlength : padded.length - (e + 1) = 1 := by
      rw [← hpadded, List.length_append, List.length_replicate]
      omega
    rw [hlength, ← hpadded, hk]
    rfl

theorem isWellFormed_positional {d : Decimal} (h : d.digits ≠ 0 ∨ d.exponent = 0) :
    (positional d).IsWellFormed := by
  obtain ⟨m, e⟩ := d
  have hdigits := allDigits_toDigits m
  cases e with
  | ofNat e =>
    simp only [positional]
    have hfraction : AllDigits ['0'] := by decide
    refine ⟨?_, hdigits.append (allDigits_zeros e), ?_, hfraction⟩
    · exact List.append_ne_nil_of_left_ne_nil Nat.toDigits_ne_nil _
    · intro hzero
      rw [List.head?_append_of_ne_nil _ Nat.toDigits_ne_nil] at hzero
      have hm : m = 0 := by
        by_contra hm
        exact head?_toDigits_ne_zero hm hzero
      have he : e = 0 := Int.ofNat_eq_zero.mp (h.resolve_left fun hne => hne hm)
      rw [hm, he]
      rfl
  | negSucc e =>
    have hm : m ≠ 0 := h.resolve_right nofun
    have hpadded := allDigits_leftpad (e + 2) m
    have hlength := length_leftpad_toDigits e m
    simp only [positional]
    generalize hp : List.leftpad (e + 2) '0' (Nat.toDigits 10 m) = padded at hpadded hlength
    refine ⟨?_, fun c hc => hpadded c (List.mem_of_mem_take hc), leading_leftpad hm hp,
      fun c hc => hpadded c (List.mem_of_mem_drop hc)⟩
    intro hnil
    have hwhole := congrArg List.length hnil
    rw [List.length_take, List.length_nil] at hwhole
    omega

theorem fraction_positional_ne_nil (d : Decimal) : (positional d).fraction ≠ [] := by
  obtain ⟨m, e⟩ := d
  cases e with
  | ofNat e => exact List.cons_ne_nil _ _
  | negSucc e => exact drop_leftpad_ne_nil (length_leftpad_toDigits e m)

theorem isWellFormed_scientific (d : Decimal) (leading : Int) :
    (scientific d leading).IsWellFormed := by
  have hdigits := allDigits_toDigits d.digits
  unfold scientific
  obtain ⟨first, others, heq⟩ :=
    List.exists_cons_of_ne_nil (Nat.toDigits_ne_nil (b := 10) (n := d.digits))
  rw [heq] at hdigits ⊢
  refine ⟨nofun, ?_, ?_, hdigits.tail⟩
  · intro c hc
    exact hdigits c (List.mem_of_mem_take hc)
  · intro hzero
    rw [Option.some.inj hzero]
    rfl

theorem nearestUnits_positional (d : Decimal) :
    (positional d).magnitude.nearestUnits = d.nearestUnits := by
  obtain ⟨m, e⟩ := d
  cases e with
  | ofNat e =>
    have hdigits : natOfDigits (Nat.toDigits 10 m ++ List.replicate e '0' ++ ['0']) =
        m * 10 ^ (e + 1) := by
      rw [List.append_assoc, ← List.replicate_succ', natOfDigits_append_zeros,
        natOfDigits_toDigits]
    have hexponent : (none : Option Int).getD 0 - (['0'].length : Nat) + ((e + 1 : Nat) : Int) =
        Int.ofNat e := by
      rw [Option.getD_none, List.length_singleton, Int.ofNat_eq_natCast]
      omega
    simp only [positional, magnitude]
    rw [hdigits, Decimal.nearestUnits_mul_pow, hexponent]
  | negSucc e =>
    have hlength := length_leftpad_toDigits e m
    simp only [positional, magnitude, List.take_append_drop, natOfDigits_leftpad,
      natOfDigits_toDigits, List.length_drop, Option.getD_none]
    congr 2
    omega

theorem magnitude_scientific (m : Nat) (e : Int) :
    (scientific ⟨m, e⟩ (e + (Nat.toDigits 10 m).length - 1)).magnitude = ⟨m, e⟩ := by
  have hpos : 0 < (Nat.toDigits 10 m).length := Nat.length_toDigits_pos
  simp only [scientific, magnitude, List.take_append_drop, natOfDigits_toDigits, Option.getD_some,
    List.length_drop]
  congr 1
  omega

end Spelling

/-! ## Numbers -/

namespace Number

/-- The numbers that have a text. -/
def IsProper : Number → Prop
  | int n => IsExact n
  | double x => x.isFinite = true

def isNegative : Number → Bool
  | int n => n < 0
  | double x => x.isNegative

/-- The parts of the magnitude of a double. -/
def spellingOfUnits (units : Nat) : Spelling :=
  let d := numberLayout.decimal units
  let leading := d.exponent + (Nat.toDigits 10 d.digits).length - 1
  if -5 ≤ leading ∧ leading < 16 then .positional d else .scientific d leading

/-- The parts that a number is written in. -/
def spelling : Number → Spelling
  | int n => ⟨Nat.toDigits 10 n.natAbs, [], none⟩
  | double (.finite _ units _) => spellingOfUnits units
  | double _ => ⟨['0'], [], none⟩

def numeral (x : Number) : Numeral := x.spelling.numeral x.isNegative

theorem text_spellingOfUnits (units : Nat) :
    (spellingOfUnits units).text = numberLayout.magnitudeText units := by
  show (ite _ _ _ : Spelling).text = ite _ _ _
  rw [apply_ite Spelling.text, Spelling.text_positional, Spelling.text_scientific]

theorem text_eq {x : Number} (h : x.IsProper) :
    x.text = Double.signText x.isNegative ++ x.spelling.text := by
  cases x with
  | int n =>
    by_cases hn : n < 0
    · simp [text, isNegative, spelling, Spelling.text, Spelling.fractionText,
        Spelling.exponentText, Double.signText, hn]
    · simp [text, isNegative, spelling, Spelling.text, Spelling.fractionText,
        Spelling.exponentText, Double.signText, hn]
  | double x =>
    cases x with
    | nan => cases h
    | infinity negative => cases h
    | finite negative units hunits =>
      simp only [text, Double.isFinite, if_true, Double.text, isNegative, Double.isNegative,
        spelling, text_spellingOfUnits]

theorem decimal_isProper {units : Nat} (h : Fits53 units) :
    (numberLayout.decimal units).digits ≠ 0 ∨ (numberLayout.decimal units).exponent = 0 := by
  by_cases hzero : units = 0
  · rw [hzero]
    exact Or.inr rfl
  · refine Or.inl fun hdigits => hzero ?_
    rw [← numberLayout.nearestUnits_decimal h, Decimal.nearestUnits_of_digits_eq_zero hdigits]

theorem isWellFormed_spelling {x : Number} (h : x.IsProper) : x.spelling.IsWellFormed := by
  cases x with
  | int n =>
    refine ⟨Nat.toDigits_ne_nil, allDigits_toDigits _, fun hzero => ?_, nofun⟩
    have hn : n.natAbs = 0 := by
      by_contra hn
      exact head?_toDigits_ne_zero hn hzero
    rw [spelling, hn]
    rfl
  | double x =>
    cases x with
    | nan => cases h
    | infinity negative => cases h
    | finite negative units hunits =>
      show (ite _ _ _ : Spelling).IsWellFormed
      split
      · exact Spelling.isWellFormed_positional (decimal_isProper hunits.2)
      · exact Spelling.isWellFormed_scientific _ _

theorem nearestUnits_spellingOfUnits {units : Nat} (h : Fits53 units) :
    (spellingOfUnits units).magnitude.nearestUnits = units := by
  show (ite _ _ _ : Spelling).magnitude.nearestUnits = units
  split
  · rw [Spelling.nearestUnits_positional]
    exact numberLayout.nearestUnits_decimal h
  · rw [Spelling.magnitude_scientific]
    exact numberLayout.nearestUnits_decimal h

/-- A double is never written like an integer. -/
theorem integral_spellingOfUnits (units : Nat) (negative : Bool) :
    ((spellingOfUnits units).numeral negative).integral = false := by
  show ((ite _ _ _ : Spelling).numeral negative).integral = false
  split
  · exact Bool.and_eq_false_imp.mpr fun hnil =>
      absurd (List.isEmpty_iff.mp hnil) (Spelling.fraction_positional_ne_nil _)
  · exact Bool.and_false _

/-! ## Read back -/

/-- The numbers that are read back from their parts. -/
structure IsKept (x : Number) : Prop where
  isProper : x.IsProper
  ofNumeral?_eq : ofNumeral? x.numeral = some x

/-- The digits and the power of ten in the text of a double are doubles. -/
def HasPlainText : Double → Prop
  | .finite _ units _ => (spellingOfUnits units).magnitude.IsPlain
  | _ => False

instance (x : Double) : Decidable (HasPlainText x) :=
  match x with
  | .finite _ units _ => inferInstanceAs (Decidable (spellingOfUnits units).magnitude.IsPlain)
  | .nan => instDecidableFalse
  | .infinity _ => instDecidableFalse

/-- A double of few digits is read back. -/
theorem isKept_of_hasPlainText {x : Double} (h : HasPlainText x) : (double x).IsKept := by
  cases x with
  | nan => cases h
  | infinity negative => cases h
  | finite negative units hunits =>
    have hplain : (spellingOfUnits units).magnitude.IsPlain := h
    have hleading : ((spellingOfUnits units).numeral negative).leading =
        (spellingOfUnits units).magnitude :=
      Numeral.leading_eq hplain.digits_le
    have hcomputed := Decimal.computed?_of_isPlain hunits
      (nearestUnits_spellingOfUnits hunits.2) hplain
    have hintegral := integral_spellingOfUnits units negative
    refine ⟨rfl, ?_⟩
    show ofNumeral? ((spellingOfUnits units).numeral negative) = _
    rw [ofNumeral?, hintegral, if_neg (fun hint => Bool.false_ne_true hint.1), hleading,
      hcomputed, Option.map_some]
    cases negative <;> rfl

/-! ## Tokens -/

theorem scanToken_of_isDigit {c : Char} (hc : c.isDigit = true) (cs : List Char) :
    scanToken (c :: cs) =
      (Numeral.scan? false (c :: cs)).map fun (x, rest) => (.numeral x, rest) := by
  unfold scanToken
  -- every other case has a first character that is no digit
  split
  case h_12 => rfl
  all_goals
    rename_i heq
    cases heq
    cases hc

theorem isBlank_of_isDigit {c : Char} (h : c.isDigit = true) : isBlank c = false := by
  rw [← Bool.not_eq_true]
  intro hblank
  simp only [isBlank, Bool.or_eq_true, decide_eq_true_eq] at hblank
  rcases hblank with ((rfl | rfl) | rfl) | rfl
  all_goals cases h

theorem exists_head_text {x : Number} (h : x.IsProper) :
    ∃ c cs, x.text = c :: cs ∧ isBlank c = false := by
  obtain ⟨c, cs, htext, hc⟩ := (isWellFormed_spelling h).exists_head_text
  rw [text_eq h, htext]
  cases x.isNegative with
  | true => exact ⟨_, _, rfl, rfl⟩
  | false => exact ⟨c, cs, rfl, isBlank_of_isDigit hc⟩

/-- The token of a written number, whatever follows that is no part of it. -/
theorem scanToken_text {x : Number} (h : x.IsProper) {rest : List Char} (hrest : Ends rest) :
    scanToken (x.text ++ rest) = some (.numeral x.numeral, rest) := by
  have hformed := isWellFormed_spelling h
  have hscan := Spelling.scan?_text hformed hrest x.isNegative
  rw [text_eq h, List.append_assoc, numeral]
  cases hnegative : x.isNegative with
  | true =>
    rw [hnegative] at hscan
    show (Numeral.scan? true (x.spelling.text ++ rest)).map _ = _
    rw [hscan]
    rfl
  | false =>
    obtain ⟨c, cs, htext, hc⟩ := hformed.exists_head_text
    rw [hnegative, htext, List.cons_append] at hscan
    show scanToken (x.spelling.text ++ rest) = _
    rw [htext, List.cons_append, scanToken_of_isDigit hc, hscan]
    rfl

end Number

end PollAtlas.Json
