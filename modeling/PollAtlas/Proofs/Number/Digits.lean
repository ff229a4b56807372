import Mathlib.Data.List.Basic
import PollAtlas.Number.Text

/-!
# Numbers written in digits

The number that digits stand for is read from the left, ten times what came before plus the
next digit. Digits after the first place in which two lists of one length differ cannot make up
for the difference. Hence such lists are ordered as texts just as their numbers are, whatever
follows them.

* `takeWhile_digits`, `dropWhile_digits`: a run of digits ends where no digit follows.
* `natOfDigits_toDigits`, `natOfDigits_leftpad`: written numbers are read back.
* `append_lt_of_natOfDigits_lt`: the list of a smaller number comes first.
* `eq_of_natOfDigits_eq`: the list is determined by its length and its number.
* `leftpad_natOfDigits`: a number is written again in the width that it was read from.
-/

namespace PollAtlas

open scoped Power

/-- All characters are decimal digits. -/
def AllDigits (cs : List Char) : Prop := ∀ c ∈ cs, c.isDigit = true

instance (cs : List Char) : Decidable (AllDigits cs) :=
  decidable_of_iff (cs.all Char.isDigit = true) List.all_eq_true

theorem AllDigits.tail {c : Char} {cs : List Char} (h : AllDigits (c :: cs)) : AllDigits cs :=
  fun d hd => h d (List.mem_cons_of_mem c hd)

theorem AllDigits.head {c : Char} {cs : List Char} (h : AllDigits (c :: cs)) :
    48 ≤ c.toNat ∧ c.toNat ≤ 57 :=
  Char.isDigit_iff_toNat.mp (h c List.mem_cons_self)

theorem AllDigits.not_mem {c : Char} {cs : List Char} (h : AllDigits cs)
    (hc : c.isDigit = false) : c ∉ cs := by
  intro hmem
  rw [h c hmem] at hc
  cases hc

theorem allDigits_toDigits (n : Nat) : AllDigits (Nat.toDigits 10 n) := fun _ hc =>
  Nat.isDigit_of_mem_toDigits (by decide) (by decide) hc

/-! ## Runs of digits -/

theorem takeWhile_digits {cs rest : List Char} (hcs : AllDigits cs)
    (hrest : ∀ c, rest.head? = some c → c.isDigit = false) :
    (cs ++ rest).takeWhile Char.isDigit = cs := by
  have hnil : rest.takeWhile Char.isDigit = [] := by
    cases rest with
    | nil => rfl
    | cons c rest => rw [List.takeWhile_cons, hrest c rfl, if_neg Bool.false_ne_true]
  rw [List.takeWhile_append_of_pos hcs, hnil, List.append_nil]

theorem dropWhile_digits {cs rest : List Char} (hcs : AllDigits cs)
    (hrest : ∀ c, rest.head? = some c → c.isDigit = false) :
    (cs ++ rest).dropWhile Char.isDigit = rest := by
  rw [List.dropWhile_append_of_pos hcs]
  cases rest with
  | nil => rfl
  | cons c rest => rw [List.dropWhile_cons, hrest c rfl, if_neg Bool.false_ne_true]

/-! ## Reading back -/

theorem natOfDigits_eq (cs : List Char) : natOfDigits cs = Nat.ofDigitChars 10 cs 0 := by
  simp only [natOfDigits, Nat.ofDigitChars_eq_foldl, Nat.mul_comm]

theorem natOfDigits_toDigits (n : Nat) : natOfDigits (Nat.toDigits 10 n) = n := by
  rw [natOfDigits_eq, Nat.ofDigitChars_ten_toDigits]

/-- Zeros in front do not count. -/
theorem natOfDigits_leftpad (width : Nat) (cs : List Char) :
    natOfDigits (List.leftpad width '0' cs) = natOfDigits cs := by
  rw [natOfDigits_eq, natOfDigits_eq, List.leftpad, Nat.ofDigitChars_append,
    Nat.ofDigitChars_replicate_zero, Nat.mul_zero]

theorem natOfDigits_append_zeros (cs : List Char) (n : Nat) :
    natOfDigits (cs ++ List.replicate n '0') = natOfDigits cs * 10 ^ n := by
  rw [natOfDigits_eq, natOfDigits_eq, Nat.ofDigitChars_append, Nat.ofDigitChars_replicate_zero,
    Nat.mul_comm]

theorem allDigits_zeros (n : Nat) : AllDigits (List.replicate n '0') := by
  intro c hc
  rw [List.eq_of_mem_replicate hc]
  rfl

theorem AllDigits.append {xs ys : List Char} (hx : AllDigits xs) (hy : AllDigits ys) :
    AllDigits (xs ++ ys) := fun c hc => (List.mem_append.mp hc).elim (hx c) (hy c)

theorem allDigits_leftpad (width n : Nat) :
    AllDigits (List.leftpad width '0' (Nat.toDigits 10 n)) :=
  (allDigits_zeros _).append (allDigits_toDigits n)

theorem length_leftpad_toDigits (e m : Nat) :
    e + 2 ≤ (List.leftpad (e + 2) '0' (Nat.toDigits 10 m)).length := by
  rw [List.length_leftpad]
  exact Nat.le_max_left _ _

theorem digitChar_ne_zero : ∀ n < 10, n ≠ 0 → n.digitChar ≠ '0' := by decide

/-- Only zero is written with a zero in front. -/
theorem head?_toDigits_ne_zero {n : Nat} (h : n ≠ 0) : (Nat.toDigits 10 n).head? ≠ some '0' := by
  induction n using Nat.strongRecOn with
  | ind n ih =>
    rw [Nat.toDigits_eq_if (by decide)]
    by_cases hsmall : n < 10
    · rw [if_pos hsmall]
      exact fun hzero => digitChar_ne_zero n hsmall h (Option.some.inj hzero)
    · rw [if_neg hsmall, List.head?_append_of_ne_nil _ Nat.toDigits_ne_nil]
      exact ih (n / 10) (by omega) (by omega)

/-! ## Order -/

/-- What is smaller before the last digits stays smaller with them. -/
theorem ofDigitChars_lt_of_lt {xs ys : List Char} (hlength : xs.length = ys.length)
    (hx : AllDigits xs) (hy : AllDigits ys) {m n : Nat} (h : m < n) :
    Nat.ofDigitChars 10 xs m < Nat.ofDigitChars 10 ys n := by
  induction xs generalizing ys m n with
  | nil =>
    obtain rfl := List.length_eq_zero_iff.mp hlength.symm
    simpa using h
  | cons x xs ih =>
    cases ys with
    | nil => cases hlength
    | cons y ys =>
      have hxd := hx.head
      have hyd := hy.head
      rw [Nat.ofDigitChars_cons, Nat.ofDigitChars_cons]
      refine ih (Nat.succ.inj hlength) hx.tail hy.tail ?_
      have hzero : '0'.toNat = 48 := rfl
      omega

/-- The first digit decides, whatever digits follow. -/
theorem ofDigitChars_cons_lt {x y : Char} {xs ys : List Char}
    (hlength : (x :: xs).length = (y :: ys).length) (hx : AllDigits (x :: xs))
    (hy : AllDigits (y :: ys)) (h : x.toNat < y.toNat) (m : Nat) :
    Nat.ofDigitChars 10 (x :: xs) m < Nat.ofDigitChars 10 (y :: ys) m := by
  have hxd := hx.head
  have hyd := hy.head
  have hzero : '0'.toNat = 48 := rfl
  rw [Nat.ofDigitChars_cons, Nat.ofDigitChars_cons]
  refine ofDigitChars_lt_of_lt (Nat.succ.inj hlength) hx.tail hy.tail ?_
  omega

theorem append_lt_of_ofDigitChars_lt {xs ys : List Char} (hlength : xs.length = ys.length)
    (hx : AllDigits xs) (hy : AllDigits ys) {m : Nat}
    (h : Nat.ofDigitChars 10 xs m < Nat.ofDigitChars 10 ys m) (s t : List Char) :
    xs ++ s < ys ++ t := by
  induction xs generalizing ys m with
  | nil =>
    obtain rfl := List.length_eq_zero_iff.mp hlength.symm
    exact absurd h (Nat.lt_irrefl _)
  | cons x xs ih =>
    cases ys with
    | nil => cases hlength
    | cons y ys =>
      rw [List.cons_append, List.cons_append, List.cons_lt_cons_iff]
      rcases Nat.lt_trichotomy x.toNat y.toNat with hlt | heq | hgt
      · exact Or.inl hlt
      · obtain rfl := Char.toNat_inj.mp heq
        rw [Nat.ofDigitChars_cons, Nat.ofDigitChars_cons] at h
        exact Or.inr ⟨rfl, ih (Nat.succ.inj hlength) hx.tail hy.tail h⟩
      · have hgreater := ofDigitChars_cons_lt hlength.symm hy hx hgt m
        omega

/-- Lists of one length are ordered as their numbers are. -/
theorem append_lt_of_natOfDigits_lt {xs ys : List Char} (hlength : xs.length = ys.length)
    (hx : AllDigits xs) (hy : AllDigits ys) (h : natOfDigits xs < natOfDigits ys)
    (s t : List Char) : xs ++ s < ys ++ t := by
  rw [natOfDigits_eq, natOfDigits_eq] at h
  exact append_lt_of_ofDigitChars_lt hlength hx hy h s t

theorem eq_of_ofDigitChars_eq {xs ys : List Char} (hlength : xs.length = ys.length)
    (hx : AllDigits xs) (hy : AllDigits ys) {m : Nat}
    (h : Nat.ofDigitChars 10 xs m = Nat.ofDigitChars 10 ys m) : xs = ys := by
  induction xs generalizing ys m with
  | nil => exact (List.length_eq_zero_iff.mp hlength.symm).symm
  | cons x xs ih =>
    cases ys with
    | nil => cases hlength
    | cons y ys =>
      rcases Nat.lt_trichotomy x.toNat y.toNat with hlt | heq | hgt
      · have hless := ofDigitChars_cons_lt hlength hx hy hlt m
        omega
      · obtain rfl := Char.toNat_inj.mp heq
        rw [Nat.ofDigitChars_cons, Nat.ofDigitChars_cons] at h
        rw [ih (Nat.succ.inj hlength) hx.tail hy.tail h]
      · have hgreater := ofDigitChars_cons_lt hlength.symm hy hx hgt m
        omega

theorem eq_of_natOfDigits_eq {xs ys : List Char} (hlength : xs.length = ys.length)
    (hx : AllDigits xs) (hy : AllDigits ys) (h : natOfDigits xs = natOfDigits ys) : xs = ys := by
  rw [natOfDigits_eq, natOfDigits_eq] at h
  exact eq_of_ofDigitChars_eq hlength hx hy h

/-! ## Written in a fixed width -/

theorem natOfDigits_lt_pow {cs : List Char} (h : AllDigits cs) :
    natOfDigits cs < 10 ^ cs.length := by
  have hbound : ∀ n, Nat.ofDigitChars 10 cs n < (n + 1) * 10 ^ cs.length := by
    induction cs with
    | nil => simp
    | cons c cs ih =>
      intro n
      have hc := h.head
      have hrest := ih h.tail (10 * n + (c.toNat - '0'.toNat))
      have hnext : 10 * n + (c.toNat - '0'.toNat) + 1 ≤ (n + 1) * 10 := by
        have hzero : '0'.toNat = 48 := rfl
        omega
      rw [Nat.ofDigitChars_cons, List.length_cons, Nat.pow_succ', ← Nat.mul_assoc]
      exact Nat.lt_of_lt_of_le hrest (Nat.mul_le_mul_right _ hnext)
  have hzero := hbound 0
  rwa [← natOfDigits_eq, Nat.zero_add, Nat.one_mul] at hzero

/-- Digits are written again in their own width. -/
theorem leftpad_natOfDigits {cs : List Char} (h : AllDigits cs) (hne : cs ≠ []) :
    List.leftpad cs.length '0' (Nat.toDigits 10 (natOfDigits cs)) = cs := by
  have hlength : (Nat.toDigits 10 (natOfDigits cs)).length ≤ cs.length :=
    (Nat.length_toDigits_le_iff (by decide) (List.length_pos_of_ne_nil hne)).mpr
      (natOfDigits_lt_pow h)
  refine eq_of_natOfDigits_eq ?_ (allDigits_leftpad _ _) h ?_
  · rw [List.length_leftpad, Nat.max_eq_left hlength]
  · rw [natOfDigits_leftpad, natOfDigits_toDigits]

end PollAtlas
