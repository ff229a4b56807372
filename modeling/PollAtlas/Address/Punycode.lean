import PollAtlas.Text.Split

/-!
# Names beyond ASCII

A label of a domain name with characters beyond ASCII is written in ASCII: its ASCII
characters first, then, for each of the others in ascending order, how far to go on from
the place of the one before. Distances are numbers of variable length in base 36, whose
thresholds follow a bias.

* `encode`: a label in ASCII.
* `decode?`: the label of a text in ASCII.
-/

namespace PollAtlas.Address.Punycode

/-- The digit of a value below 36. -/
def digit (n : Nat) : Char :=
  Char.ofNat (if n < 26 then 'a'.toNat + n else '0'.toNat + (n - 26))

/-- The threshold of the digit at a place. -/
def threshold (bias place : Nat) : Nat := max 1 (min 26 (place - bias))

theorem threshold_pos (bias place : Nat) : 1 ≤ threshold bias place := by
  unfold threshold; omega

/-- A distance, the least digit first; places are counted in steps of 36. -/
def digitsOf (bias place n : Nat) : List Char :=
  let t := threshold bias place
  if n < t then [digit n]
  else digit (t + (n - t) % (36 - t)) :: digitsOf bias (place + 36) ((n - t) / (36 - t))
termination_by n
decreasing_by
  have hpos := threshold_pos bias place
  have hle := Nat.div_le_self (n - threshold bias place) (36 - threshold bias place)
  omega

/-- Divides a distance by 35 until it is at most 455, counting the divisions. -/
def scaleDown (divisions n : Nat) : Nat × Nat :=
  if 455 < n then scaleDown (divisions + 1) (n / 35) else (divisions, n)
termination_by n
decreasing_by omega

/-- The bias after a distance was written; `count` characters are in place then. -/
def nextBias (isFirst : Bool) (n count : Nat) : Nat :=
  let n := if isFirst then n / 700 else n / 2
  let (divisions, n) := scaleDown 0 (n + n / count)
  divisions * 36 + 36 * n / (n + 38)

/-- What has been written so far. -/
structure State where
  written : List Char
  distance : Nat
  bias : Nat
  /-- The number of characters in place. -/
  count : Nat

/-- One character of the label, while the characters with code `n` are put in place. -/
def step (basic n : Nat) (st : State) (c : Char) : State :=
  if c.toNat < n then { st with distance := st.distance + 1 }
  else if c.toNat = n then
    { written := st.written ++ digitsOf st.bias 36 st.distance
      distance := 0
      bias := nextBias (st.count == basic) st.distance (st.count + 1)
      count := st.count + 1 }
  else st

/-- Puts the characters with the given codes in place; the codes ascend and `last` is one
more than the code before them. -/
def placeAll (label : List Char) (basic : Nat) : List Nat → Nat → State → State
  | [], _, st => st
  | n :: codes, last, st =>
    let st := { st with distance := st.distance + (n - last) * (st.count + 1) }
    let st := label.foldl (step basic n) st
    placeAll label basic codes (n + 1) { st with distance := st.distance + 1 }

/-- A label in ASCII. -/
def encode (label : List Char) : List Char :=
  let basic := label.filter (·.toNat < 128)
  let codes := ((label.filter fun c => 128 ≤ c.toNat).map Char.toNat).mergeSort.eraseDups
  let st := placeAll label basic.length codes 128 ⟨[], 0, 72, basic.length⟩
  basic ++ (if basic.isEmpty then [] else ['-']) ++ st.written

/-! ## Decoding -/

/-- The value of a digit. -/
def digitValue? (c : Char) : Option Nat :=
  if 'a' ≤ c ∧ c ≤ 'z' then some (c.toNat - 'a'.toNat)
  else if '0' ≤ c ∧ c ≤ '9' then some (c.toNat - '0'.toNat + 26)
  else none

/-- A distance and what follows it; `weight` is what a one at the place stands for. -/
def readDistance? (bias : Nat) : Nat → Nat → List Char → Option (Nat × List Char)
  | _, _, [] => none
  | place, weight, c :: rest =>
    match digitValue? c with
    | none => none
    | some value =>
      if value < threshold bias place then some (value * weight, rest)
      else
        (readDistance? bias (place + 36) (weight * (36 - threshold bias place)) rest).map
          fun (n, rest) => (value * weight + n, rest)

theorem readDistance?_length {bias : Nat} {cs rest : List Char} {place weight n : Nat}
    (h : readDistance? bias place weight cs = some (n, rest)) : rest.length < cs.length := by
  induction cs generalizing place weight n with
  | nil => simp [readDistance?] at h
  | cons c cs ih =>
    unfold readDistance? at h
    split at h
    · simp at h
    · split at h
      · simp only [Option.some.injEq, Prod.mk.injEq] at h
        simp [h.2]
      · obtain ⟨⟨m, tail⟩, hm, heq⟩ := Option.map_eq_some_iff.1 h
        obtain ⟨-, rfl⟩ := Prod.mk.inj heq
        exact Nat.lt_succ_of_lt (ih hm)

/-- Puts characters in place until no digits are left. The last one was put in place before
`place` and has the code `code`. -/
def placeDigits? (label : List Char) (code place bias : Nat) (digits : List Char) :
    Option (List Char) :=
  if digits.isEmpty then some label
  else
    match h : readDistance? bias 36 1 digits with
    | none => none
    | some (n, rest) =>
      let count := label.length + 1
      let code := code + (place + n) / count
      let next := (place + n) % count
      if code.isValidChar then
        placeDigits? (label.insertIdx next (Char.ofNat code)) code (next + 1)
          (nextBias (place == 0) n count) rest
      else none
termination_by digits.length
decreasing_by exact readDistance?_length h

/-- The label of a text in ASCII and in lower case, which has to have a character beyond
ASCII. -/
def decode? (cs : List Char) : Option (List Char) :=
  let (basic, digits) :=
    match Text.cutAtLast? (· == '-') cs with
    | none => ([], cs)
    | some ([], _) => ([], cs)
    | some parts => parts
  if digits.isEmpty || !basic.all (·.toNat < 128) then none
  else placeDigits? basic 128 0 72 digits

end PollAtlas.Address.Punycode
