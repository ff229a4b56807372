/-!
# Region codes

A province is known by two digits. They stand in texts of three forms: `KR-11` on the
map, `11-000` in the polling service, and `11` alone. A district of the province has three
more digits, as in `11-015`.

* `provinceDigits?_of_marker`: a marker before two digits does not change what is found.
* `mapCode?`, `apiCode?`: the forms of the province that a text names.
* `provinceOf?`: the province of a code of the form `NN-MMM`.
-/

namespace PollAtlas.Region

/-- What stands before the two digits on the map. -/
def mapMarker : String := "KR-"

/-- What stands after the two digits of a whole province. -/
def wholeProvince : String := "-000"

/-- The two digits at the head of a text, behind a marker if there is one. -/
def digitsAtHead? : List Char → Option (Char × Char)
  | 'K' :: 'R' :: '-' :: a :: b :: _ => if a.isDigit && b.isDigit then some (a, b) else none
  | a :: b :: _ => if a.isDigit && b.isDigit then some (a, b) else none
  | _ => none

/-- The digits of the leftmost place that has two, marked or not. -/
def leftmostDigits? : List Char → Option (Char × Char)
  | [] => none
  | c :: rest => (digitsAtHead? (c :: rest)).or (leftmostDigits? rest)

/-- The two digits of the province that a text names. -/
def provinceDigits? (text : String) : Option String :=
  (leftmostDigits? text.toList).map fun (a, b) => String.ofList [a, b]

/-- The province that a text names, as it stands on the map. -/
def mapCode? (text : String) : Option String := (provinceDigits? text).map (mapMarker ++ ·)

/-- The province that a text names, as the polling service knows it. -/
def apiCode? (text : String) : Option String := (provinceDigits? text).map (· ++ wholeProvince)

theorem provinceDigits?_of_marker {a b : Char} (ha : a.isDigit = true) (hb : b.isDigit = true)
    (rest : List Char) :
    leftmostDigits? ('K' :: 'R' :: '-' :: a :: b :: rest) = some (a, b) := by
  simp [leftmostDigits?, digitsAtHead?, ha, hb]

/-! ## Districts -/

/-- Two digits, a dash, and three digits. -/
def isDistrictForm : List Char → Bool
  | [a, b, '-', x, y, z] =>
    a.isDigit && b.isDigit && x.isDigit && y.isDigit && z.isDigit
  | _ => false

/-- A code of the form `NN-MMM`. The code of a whole province has this form too. -/
def isDistrictCode (code : String) : Bool := isDistrictForm code.toList

/-- The province of a code of the form `NN-MMM`. -/
def provinceOf? (code : String) : Option String :=
  if isDistrictCode code then some (String.ofList (code.toList.take 2) ++ wholeProvince)
  else none

end PollAtlas.Region
