import PollAtlas.Number.Decimal

/-!
# Texts of numbers

A double is written with the fewest digits that are read back as the same double, laid
out as a `Layout` says, or with a fixed number of places after the point.

* `Layout.plain`: no exponent part at all, as in running text.
* `Double.text`, `Double.fixedText`: the two kinds of text.
* `Double.parse?`: the numbers that a text may stand for, `inf` and `nan` among them.
-/

namespace PollAtlas

open scoped Power

/-! ## Layout of the fewest digits -/

/-- How digits and exponent are set. -/
structure Layout where
  /-- Exponents of the leading digit, from the first to below the second, that are
  written without an exponent part; absent when all are. -/
  positional : Option (Int × Int)
  /-- A whole number without an exponent part ends in `.0`. -/
  pointZero : Bool
  tie : Decimal.Tie

namespace Layout

/-- Running text: no exponent part, and a whole number has no point. -/
def plain : Layout := ⟨none, false, .up⟩

/-- A decimal without an exponent part. -/
def positionalText (layout : Layout) (d : Decimal) : List Char :=
  let digits := Nat.toDigits 10 d.digits
  match d.exponent with
  | .ofNat e =>
    digits ++ List.replicate e '0' ++ (if layout.pointZero then ['.', '0'] else [])
  | .negSucc e =>
    let padded := List.leftpad (e + 2) '0' digits
    padded.take (padded.length - (e + 1)) ++ '.' :: padded.drop (padded.length - (e + 1))

/-- One digit, the others after a point, and the exponent with its sign. -/
def scientificText (d : Decimal) (leading : Int) : List Char :=
  let mantissa :=
    match Nat.toDigits 10 d.digits with
    | first :: second :: others => first :: '.' :: second :: others
    | digits => digits
  mantissa ++ 'e' :: (if leading < 0 then '-' else '+') :: Nat.toDigits 10 leading.natAbs

/-- The fewest digits of a magnitude in units. -/
def decimal (layout : Layout) (units : Nat) : Decimal :=
  if units = 0 then ⟨0, 0⟩ else (Decimal.shortest layout.tie units).trimZeros

def magnitudeText (layout : Layout) (units : Nat) : List Char :=
  let d := layout.decimal units
  let leading := d.exponent + (Nat.toDigits 10 d.digits).length - 1
  match layout.positional with
  | none => layout.positionalText d
  | some (first, limit) =>
    if first ≤ leading ∧ leading < limit then layout.positionalText d
    else scientificText d leading

end Layout

namespace Double

def signText (negative : Bool) : List Char := if negative then ['-'] else []

/-- The text of a double; a zero keeps its sign. -/
def text (layout : Layout) : Double → List Char
  | nan => ['N', 'a', 'N']
  | infinity negative => signText negative ++ ['i', 'n', 'f']
  | finite negative units _ => signText negative ++ layout.magnitudeText units

/-- The text of a double in running text. -/
def plainText (x : Double) : String := String.ofList (x.text .plain)

/-! ## A fixed number of places -/

/-- A magnitude rounded to `places` decimals, a half going to the even neighbour. -/
def fixedMagnitude (places units : Nat) : List Char :=
  let digits := Nat.toDigits 10 (roundHalfEven (units * 10 ^ places) unitsPerOne)
  let padded := List.leftpad (places + 1) '0' digits
  padded.take (padded.length - places) ++ '.' :: padded.drop (padded.length - places)

/-- The text of a double with `places` digits after the point; what is rounded to zero
keeps its sign. -/
def fixedText (places : Nat) : Double → List Char
  | nan => ['N', 'a', 'N']
  | infinity negative => signText negative ++ ['i', 'n', 'f']
  | finite negative units _ => signText negative ++ fixedMagnitude places units

end Double

/-! ## Reading -/

/-- The number that decimal digits stand for. -/
def natOfDigits (digits : List Char) : Nat :=
  digits.foldl (fun n c => n * 10 + (c.toNat - '0'.toNat)) 0

/-- Digits with an optional sign, and nothing else. -/
def signedOfDigits? : List Char → Option Int
  | [] => none
  | '-' :: [] => none
  | '+' :: [] => none
  | '-' :: digits => if digits.all Char.isDigit then some (-(natOfDigits digits : Int)) else none
  | '+' :: digits => if digits.all Char.isDigit then some (natOfDigits digits) else none
  | digits => if digits.all Char.isDigit then some (natOfDigits digits) else none

namespace Decimal

/-- The exponent part, which may be missing. -/
def exponentPart? : List Char → Option Int
  | [] => some 0
  | c :: digits => if c = 'e' ∨ c = 'E' then signedOfDigits? digits else none

/-- Digits with an optional point before, among or after them, then an optional
exponent part. -/
def parse? (cs : List Char) : Option Decimal :=
  let whole := cs.takeWhile Char.isDigit
  let rest := cs.dropWhile Char.isDigit
  let (fraction, rest) :=
    match rest with
    | '.' :: after => (after.takeWhile Char.isDigit, after.dropWhile Char.isDigit)
    | _ => ([], rest)
  if whole.isEmpty && fraction.isEmpty then none
  else
    (exponentPart? rest).map fun exponent =>
      ⟨natOfDigits (whole ++ fraction), exponent - fraction.length⟩

end Decimal

namespace Double

/-- A number without its sign: a decimal, `inf`, `infinity` or `nan`, the words in any
case. -/
def parseMagnitude? (negative : Bool) (cs : List Char) : Option Double :=
  let word := String.ofList (cs.map Char.toLower)
  if word = "inf" ∨ word = "infinity" then some (infinity negative)
  else if word = "nan" then some nan
  else (Decimal.parse? cs).map (Decimal.toDouble negative)

/-- The number that a text stands for; what is out of range is infinite. -/
def parse? : List Char → Option Double
  | '-' :: cs => parseMagnitude? true cs
  | '+' :: cs => parseMagnitude? false cs
  | cs => parseMagnitude? false cs

end Double

end PollAtlas
