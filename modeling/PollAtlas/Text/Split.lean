/-!
# Splitting texts

* `splitWhere`: the pieces of a text between separators.
* `cutAt`: a text before and after its first separator.
-/

namespace PollAtlas.Text

/-- The pieces between the characters that satisfy `p`; at least one. -/
def splitWhere (p : Char → Bool) : List Char → List (List Char)
  | [] => [[]]
  | c :: rest =>
    if p c then [] :: splitWhere p rest
    else
      match splitWhere p rest with
      | [] => [[c]]
      | first :: others => (c :: first) :: others

/-- What stands before the first character that satisfies `p`, and what stands after it if
there is one. -/
def cutAt (p : Char → Bool) : List Char → List Char × Option (List Char)
  | [] => ([], none)
  | c :: rest =>
    if p c then ([], some rest)
    else
      let (before, after) := cutAt p rest
      (c :: before, after)

/-- What stands before the last character that satisfies `p` and after it, if there is
one. -/
def cutAtLast? (p : Char → Bool) (cs : List Char) : Option (List Char × List Char) :=
  match cutAt p cs.reverse with
  | (_, none) => none
  | (after, some before) => some (before.reverse, after.reverse)

theorem splitWhere_ne_nil (p : Char → Bool) (cs : List Char) : splitWhere p cs ≠ [] := by
  cases cs with
  | nil => simp [splitWhere]
  | cons c rest =>
    unfold splitWhere
    split
    · simp
    · split <;> simp

/-- A text without a separator is one piece. -/
theorem splitWhere_of_all_not {p : Char → Bool} {cs : List Char}
    (h : ∀ c ∈ cs, p c = false) : splitWhere p cs = [cs] := by
  induction cs with
  | nil => rfl
  | cons c rest ih =>
    have hc := h c List.mem_cons_self
    have hrest := ih fun d hd => h d (List.mem_cons_of_mem _ hd)
    simp [splitWhere, hc, hrest]

end PollAtlas.Text
