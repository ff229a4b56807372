import PollAtlas.Number.Text
import PollAtlas.Text.Blank

/-!
# Calendar dates

Dates of the proleptic Gregorian calendar and the texts they are read from: a year, a
month and a day with dashes between them.

* `Date.ofText?`: the date at the head of a text.
* `Date.korean`: the date as it is shown.
-/

namespace PollAtlas.Poll

def isLeapYear (year : Int) : Bool :=
  year % 4 = 0 && (year % 100 ≠ 0 || year % 400 = 0)

/-- The number of days of a month; a month that does not exist has none. -/
def daysInMonth (year : Int) (month : Nat) : Nat :=
  match month with
  | 1 | 3 | 5 | 7 | 8 | 10 | 12 => 31
  | 4 | 6 | 9 | 11 => 30
  | 2 => if isLeapYear year then 29 else 28
  | _ => 0

/-- A day of the calendar. -/
structure Date where
  year : Int
  month : Nat
  day : Nat
  exists_day : 1 ≤ day ∧ day ≤ daysInMonth year month
  deriving DecidableEq

namespace Date

/-- The date of three numbers, if there is one. -/
def ofNumbers? (year : Int) (month day : Nat) : Option Date :=
  if h : 1 ≤ day ∧ day ≤ daysInMonth year month then some ⟨year, month, day, h⟩ else none

/-! ## Reading -/

/-- A number of one to `most` digits, blanks before it aside, and what follows it. -/
def scanNumber (most : Nat) (cs : List Char) : Option (Nat × List Char) :=
  let cs := cs.dropWhile Text.isBlank
  let digits := (cs.takeWhile Char.isDigit).take most
  if digits.isEmpty then none else some (natOfDigits digits, cs.drop digits.length)

/-- A run of digits of any length, and what follows it. -/
def scanDigits (cs : List Char) : Option (Nat × List Char) :=
  let digits := cs.takeWhile Char.isDigit
  if digits.isEmpty then none else some (natOfDigits digits, cs.dropWhile Char.isDigit)

/-- A year: up to four digits, or any number of them behind a sign. -/
def scanYear (cs : List Char) : Option (Int × List Char) :=
  match cs.dropWhile Text.isBlank with
  | '-' :: rest => (scanDigits rest).map fun (n, rest) => (-(n : Int), rest)
  | '+' :: rest => (scanDigits rest).map fun (n, rest) => ((n : Int), rest)
  | cs => (scanNumber 4 cs).map fun (n, rest) => ((n : Int), rest)

def scanDash : List Char → Option (List Char)
  | '-' :: rest => some rest
  | _ => none

/-- The date of a text that holds nothing else. -/
def parse? (cs : List Char) : Option Date := do
  let (year, rest) ← scanYear cs
  let rest ← scanDash rest
  let (month, rest) ← scanNumber 2 rest
  let rest ← scanDash rest
  let (day, rest) ← scanNumber 2 rest
  if rest.isEmpty then ofNumbers? year month day else none

/-- The first characters of a text that fill `size` bytes exactly. -/
def leadingBytes? : Nat → List Char → Option (List Char)
  | 0, _ => some []
  | _ + 1, [] => none
  | size + 1, c :: rest =>
    if c.utf8Size ≤ size + 1 then (leadingBytes? (size + 1 - c.utf8Size) rest).map (c :: ·)
    else none

/-- The size of a date that is written in full. -/
def textSize : Nat := 10

/-- The date that a text begins with, blanks before it aside. -/
def ofText? (text : String) : Option Date :=
  (leadingBytes? textSize (Text.trimChars text.toList)).bind parse?

/-! ## Showing -/

/-- At least four digits; a year that is negative or has more of them shows its sign. -/
def yearText (year : Int) : String :=
  let digits := String.ofList (List.leftpad 4 '0' (Nat.toDigits 10 year.natAbs))
  if year < 0 then "-" ++ digits else if 9999 < year then "+" ++ digits else digits

/-- The date as it is shown. -/
def korean (d : Date) : String :=
  s!"{yearText d.year}년 {d.month}월 {d.day}일"

end Date

end PollAtlas.Poll
