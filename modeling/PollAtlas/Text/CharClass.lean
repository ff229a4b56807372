import PollAtlas.Number.Hex

/-!
# Classes of characters

A class of characters is a list of ranges of codes. The tables of such classes are long, so
they are written as texts: rows stand apart by blanks or the end of a line, and
codes are hexadecimal.

* `CharClass.contains`: whether a character is of a class.
* `CharClass.ofText`, `readValues`: the class, or the values, that a table writes.
* `Shift`: characters that become other characters, run by run.
-/

namespace PollAtlas.Text

/-! ## Tables -/

/-- The rows of a table. -/
def tableRows (table : String) : List String :=
  (table.splitOn "\n").flatMap fun line => (line.splitOn " ").filter (· ≠ "")

/-- The number that hexadecimal digits write. -/
def hexCode (digits : String) : Nat :=
  digits.toList.foldl (fun n c => n * 16 + (hexDigit? c).getD 0) 0

/-! ## Ranges -/

/-- The codes from `first` to `last`. -/
structure CodeRange where
  first : Nat
  last : Nat
  deriving DecidableEq, Repr

namespace CodeRange

/-- A row such as `41-5a`, or `41` for a single code. -/
def ofText (row : String) : CodeRange :=
  match (row.splitOn "-").map hexCode with
  | [first, last] => ⟨first, last⟩
  | codes => ⟨codes.headD 0, codes.headD 0⟩

/-- The code of the character is in the range. -/
def contains (range : CodeRange) (c : Char) : Bool :=
  range.first ≤ c.toNat && c.toNat ≤ range.last

end CodeRange

/-- Values of ranges, from rows such as `300-314:e6`. -/
def readValues (table : String) : List (CodeRange × Nat) :=
  (tableRows table).map fun row =>
    match row.splitOn ":" with
    | [range, value] => (.ofText range, hexCode value)
    | _ => (.ofText row, 0)

/-! ## Shifts -/

/-- Codes at equal steps, which are moved so that the first one becomes `target`. -/
structure Shift where
  range : CodeRange
  step : Nat
  target : Nat
  deriving DecidableEq, Repr

namespace Shift

/-- A row such as `41-5a>61`, or `100/12e>101` for every second code. -/
def ofText (row : String) : Shift :=
  match row.splitOn ">" with
  | [source, target] =>
    let target := hexCode target
    match source.splitOn "/" with
    | [first, last] => ⟨⟨hexCode first, hexCode last⟩, 2, target⟩
    | _ => ⟨.ofText source, 1, target⟩
  | _ => ⟨.ofText row, 1, 0⟩

/-- What a character that the row speaks of becomes. -/
def moved? (shift : Shift) (c : Char) : Option Char :=
  if shift.range.contains c && (c.toNat - shift.range.first) % shift.step == 0 then
    some (Char.ofNat (shift.target + (c.toNat - shift.range.first)))
  else none

end Shift

/-! ## Classes -/

/-- A class of characters. -/
structure CharClass where
  ranges : List CodeRange
  deriving DecidableEq, Repr

namespace CharClass

/-- The class that a table writes. -/
def ofText (table : String) : CharClass := ⟨(tableRows table).map CodeRange.ofText⟩

/-- The character is of the class. -/
def contains (k : CharClass) (c : Char) : Bool := k.ranges.any (·.contains c)

end CharClass

end PollAtlas.Text
