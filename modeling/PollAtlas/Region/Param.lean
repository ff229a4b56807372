import PollAtlas.Json.Record
import PollAtlas.Region.Code
import PollAtlas.Text.Blank

/-!
# The selected region

The region that a caller asks for. A whole province may be written in any of its three
forms and is passed on as the polling service knows it; everything else is passed on as it
is.

* `Param.ofText`: the region asked for by a text that may be missing.
-/

namespace PollAtlas.Region

/-- A region that is asked for. -/
structure Param where
  /-- The trimmed text. -/
  input : String
  /-- The code to ask for; none for an empty text. -/
  normalized : Option String
  /-- The code is not the text itself. -/
  corrected : Bool
  deriving DecidableEq, Repr

/-- The number of bytes of a text. -/
def byteCount : List Char → Nat
  | [] => 0
  | c :: cs => c.utf8Size + byteCount cs

/-- What stands behind the marker of the map, if a text begins with it. -/
def behindMarker? : List Char → Option (List Char)
  | 'K' :: 'R' :: '-' :: rest => some rest
  | _ => none

/-- The polling service's code for a province written with its marker or by its digits
alone. Both are recognised by their size in bytes. -/
def expanded? (cs : List Char) : Option String :=
  let marked := (behindMarker? cs).filter fun rest => byteCount rest == 2
  (marked.bind fun rest => apiCode? (String.ofList rest)).or
    (if byteCount cs == 2 && cs.all Char.isDigit then some (String.ofList cs ++ wholeProvince)
      else none)

namespace Param

/-- The region that a text asks for. -/
def ofText (text : Option String) : Param :=
  match text.bind Text.content? with
  | none => ⟨"", none, false⟩
  | some input =>
    match expanded? input.toList with
    | some code => ⟨input, some code, true⟩
    | none => ⟨input, some input, false⟩

def toJson (x : Param) : Json :=
  .object [("input", .string x.input), ("normalized", .ofOption x.normalized),
    ("corrected", .bool x.corrected)]

def ofJson? (value : Json) : Option Param := do
  let record ← Json.Record.read? (Json.Field.named ["input", "normalized", "corrected"]) value
  return {
    input := ← record.required "input" Json.string?
    normalized := ← record.optional "normalized" Json.string?
    corrected := ← record.required "corrected" Json.bool? }

end Param

end PollAtlas.Region
