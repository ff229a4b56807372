import PollAtlas.Json.Record
import PollAtlas.Region.Code
import PollAtlas.Text.Blank
import PollAtlas.Text.Capital

/-!
# Canonical region codes

A code as people and sources write it is brought to the form `NN-MMM`, or `NN-NN-MMM` for
a scenario, and a retired province is replaced by its successor.

* `Canonical.ofText`: the canonical form of a text, if it is a code at all.
* `canonicalChars?`: the canonical form of a text of one of the shapes of a code.
-/

namespace PollAtlas.Region

/-- Retired provinces and their successors. -/
def successors : List (String × String) := [("32", "42")]

/-- The province that is now meant by two digits. -/
def currentProvince (digits : List Char) : List Char :=
  match successors.lookup (String.ofList digits) with
  | some current => current.toList
  | none => digits

/-- The text in capitals without spaces, an underscore standing for a dash. -/
def cleaned (cs : List Char) : List Char :=
  ((cs.filter (· ≠ ' ')).map fun c => if c = '_' then '-' else c).flatMap Text.capitals

/-- The text without the marker of the country. -/
def unmarked : List Char → List Char
  | 'K' :: 'R' :: '-' :: rest => rest
  | 'K' :: 'R' :: rest => rest
  | cs => cs

/-- Two digits, which three more may follow behind a dash. -/
def isSimple : List Char → Bool
  | [a, b] => [a, b].all Char.isDigit
  | [a, b, '-', x, y, z] => [a, b, x, y, z].all Char.isDigit
  | _ => false

/-- Five digits. -/
def isCompact (cs : List Char) : Bool := cs.length == 5 && cs.all Char.isDigit

/-- Two, two and three digits with dashes between them. -/
def isScenario : List Char → Bool
  | [a, b, '-', s, t, '-', x, y, z] => [a, b, s, t, x, y, z].all Char.isDigit
  | _ => false

/-- The two digits of the province, a dash and the other digits. -/
def dashed (digits : List Char) : List Char := digits.take 2 ++ '-' :: digits.drop 2

/-- A code of the province that is now meant. -/
def renewed (code : List Char) : List Char := currentProvince (code.take 2) ++ code.drop 2

/-- The canonical form of a cleaned text. -/
def canonicalChars? (cs : List Char) : Option (List Char) :=
  if isScenario cs then some (renewed cs)
  else if isSimple cs then
    let digits := cs.filter Char.isDigit
    match digits.length with
    | 2 => some (renewed (digits ++ ['-', '0', '0', '0']))
    | 5 => some (renewed (dashed digits))
    | _ => none
  else if isCompact cs then some (renewed (dashed cs))
  else none

/-- What became of a text taken as a region code. -/
structure Canonical where
  /-- The trimmed text. -/
  raw : String
  canonical : Option String
  /-- The text is a code at all. -/
  isCodeLike : Bool
  /-- The canonical form is not the cleaned text itself. -/
  wasAliased : Bool
  deriving DecidableEq, Repr

namespace Canonical

/-- The canonical form of a text. -/
def ofText (text : String) : Canonical :=
  let raw := Text.trim text
  let token := cleaned raw.toList
  match canonicalChars? (unmarked token) with
  | some canonical => ⟨raw, some (String.ofList canonical), true, token != canonical⟩
  | none => ⟨raw, none, false, false⟩

def toJson (x : Canonical) : Json :=
  .object [("raw", .string x.raw), ("canonical", .ofOption x.canonical),
    ("is_code_like", .bool x.isCodeLike), ("was_aliased", .bool x.wasAliased)]

def ofJson? (value : Json) : Option Canonical := do
  let record ← Json.Record.read?
    (Json.Field.named ["raw", "canonical", "is_code_like", "was_aliased"]) value
  return {
    raw := ← record.required "raw" Json.string?
    canonical := ← record.optional "canonical" Json.string?
    isCodeLike := ← record.required "is_code_like" Json.bool?
    wasAliased := ← record.required "was_aliased" Json.bool? }

end Canonical

end PollAtlas.Region
