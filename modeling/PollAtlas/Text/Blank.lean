/-!
# Blank characters

The 25 characters with the Unicode property `White_Space`, and texts without blanks at
their ends.

* `trimChars_idem`: trimming twice is trimming once.
-/

namespace PollAtlas.Text

/-- Closed ranges of code points, ascending. -/
def blankRanges : List (Nat × Nat) :=
  [(0x09, 0x0d), (0x20, 0x20), (0x85, 0x85), (0xa0, 0xa0), (0x1680, 0x1680),
    (0x2000, 0x200a), (0x2028, 0x2029), (0x202f, 0x202f), (0x205f, 0x205f),
    (0x3000, 0x3000)]

def isBlank (c : Char) : Bool :=
  blankRanges.any fun range => range.1 ≤ c.toNat && c.toNat ≤ range.2

/-! ## Trimming -/

/-- Without the blanks at the end. -/
def trimEnd (cs : List Char) : List Char := (cs.reverse.dropWhile isBlank).reverse

/-- Without the blanks at both ends. -/
def trimChars (cs : List Char) : List Char := trimEnd (cs.dropWhile isBlank)

/-- Without the blanks at both ends. -/
def trim (s : String) : String := String.ofList (trimChars s.toList)

/-- The trimmed text, if there is any. -/
def content? (s : String) : Option String :=
  if trim s = "" then none else some (trim s)

theorem toList_trim (s : String) : (trim s).toList = trimChars s.toList := by
  simp [trim]

theorem dropWhile_of_head {p : Char → Bool} {cs : List Char}
    (h : ∀ c, cs.head? = some c → p c = false) : cs.dropWhile p = cs := by
  cases cs with
  | nil => rfl
  | cons c cs => simp [h c rfl]

theorem head?_dropWhile {p : Char → Bool} (cs : List Char) :
    ∀ c, (cs.dropWhile p).head? = some c → p c = false := by
  induction cs with
  | nil => simp
  | cons d cs ih =>
    intro c hc
    by_cases hd : p d
    · exact ih c (by simpa [hd] using hc)
    · simp only [List.dropWhile_cons, hd, Bool.false_eq_true, if_false, List.head?_cons,
        Option.some.injEq] at hc
      exact hc ▸ by simpa using hd

theorem trimEnd_idem (cs : List Char) : trimEnd (trimEnd cs) = trimEnd cs := by
  unfold trimEnd
  rw [List.reverse_reverse, dropWhile_of_head (head?_dropWhile _)]

/-- The first character of a text is kept if it is not blank. -/
theorem trimEnd_cons_of_not_blank {c : Char} (cs : List Char) (h : isBlank c = false) :
    trimEnd (c :: cs) = c :: trimEnd cs := by
  unfold trimEnd
  rw [List.reverse_cons, List.dropWhile_append]
  by_cases hall : (cs.reverse.dropWhile isBlank).isEmpty
  · simp [hall, h]
    simpa using hall
  · simp [hall]

theorem trimChars_idem (cs : List Char) : trimChars (trimChars cs) = trimChars cs := by
  have hhead : ∀ c, (trimChars cs).head? = some c → isBlank c = false := by
    intro c hc
    unfold trimChars at hc
    cases hd : cs.dropWhile isBlank with
    | nil => simp [hd, trimEnd] at hc
    | cons d ds =>
      have hblank : isBlank d = false := head?_dropWhile cs d (by rw [hd]; rfl)
      rw [hd, trimEnd_cons_of_not_blank ds hblank] at hc
      cases hc
      exact hblank
  have hdrop : (trimChars cs).dropWhile isBlank = trimChars cs := dropWhile_of_head hhead
  calc trimChars (trimChars cs) = trimEnd ((trimChars cs).dropWhile isBlank) := rfl
    _ = trimEnd (trimChars cs) := by rw [hdrop]
    _ = trimChars cs := trimEnd_idem _

theorem trim_idem (s : String) : trim (trim s) = trim s := by
  simp [trim, trimChars_idem]

end PollAtlas.Text
