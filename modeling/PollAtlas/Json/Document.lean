import PollAtlas.Json.Numeral

/-!
# JSON documents

A document is a JSON text by its grammar alone. It becomes a value once its texts are
free of lone surrogates, its numbers are in range and its containers are not nested too
deeply.

* `Document.parse?`: the document of a text; tokens are taken one at a time by a machine
  whose state lists the containers still open.
* `Document.value?`: the value of a document.
* `Json.read?`: the settled value of a text.
-/

namespace PollAtlas.Json

/-- A JSON text by its grammar: numbers and texts are still as written. -/
inductive Document where
  | null
  | bool (b : Bool)
  | number (x : Numeral)
  | text (pieces : List Piece)
  | array (items : List Document)
  | object (members : List (List Piece × Document))

namespace Document

/-! ## Parsing -/

/-- An open container: what has been read of it, the latest first, and in an object the
name whose value is next. -/
inductive Frame where
  | items (read : List Document)
  | members (read : List (List Piece × Document)) (name : List Piece)

/-- What the rest of a text has to begin with, and the containers around it, the
innermost first. -/
inductive State where
  | value (frames : List Frame)
  | firstItem (frames : List Frame)
  | afterItem (read : List Document) (frames : List Frame)
  | firstName (frames : List Frame)
  | nextName (read : List (List Piece × Document)) (frames : List Frame)
  | afterName (read : List (List Piece × Document)) (name : List Piece)
      (frames : List Frame)
  | afterMember (read : List (List Piece × Document)) (frames : List Frame)
  | done (document : Document)

/-- The state after a whole value. -/
def State.complete (document : Document) : List Frame → State
  | [] => .done document
  | .items read :: frames => .afterItem (document :: read) frames
  | .members read name :: frames => .afterMember ((name, document) :: read) frames

/-- The state after the first token of a value. -/
def State.start (frames : List Frame) : Token → Option State
  | .null => some (complete .null frames)
  | .bool b => some (complete (.bool b) frames)
  | .numeral x => some (complete (.number x) frames)
  | .text pieces => some (complete (.text pieces) frames)
  | .openArray => some (.firstItem frames)
  | .openObject => some (.firstName frames)
  | _ => none

/-- The state after one more token. -/
def State.step : State → Token → Option State
  | .value frames, token => start frames token
  | .firstItem frames, .closeArray => some (complete (.array []) frames)
  | .firstItem frames, token => start (.items [] :: frames) token
  | .afterItem read frames, .comma => some (.value (.items read :: frames))
  | .afterItem read frames, .closeArray => some (complete (.array read.reverse) frames)
  | .firstName frames, .closeObject => some (complete (.object []) frames)
  | .firstName frames, .text name => some (.afterName [] name frames)
  | .nextName read frames, .text name => some (.afterName read name frames)
  | .afterName read name frames, .colon => some (.value (.members read name :: frames))
  | .afterMember read frames, .comma => some (.nextName read frames)
  | .afterMember read frames, .closeObject => some (complete (.object read.reverse) frames)
  | _, _ => none

/-- The document of a list of tokens. -/
def ofTokens? (tokens : List Token) : Option Document :=
  match tokens.foldlM State.step (.value []) with
  | some (.done document) => some document
  | _ => none

/-- The document of a text. -/
def parse? (text : String) : Option Document := (tokens? text.toList).bind ofTokens?

/-! ## Values -/

/-- A code unit as a character, unless it is half of a pair. -/
def loneUnit? (code : Nat) : Option Char :=
  if 0xd800 ≤ code ∧ code ≤ 0xdfff then none else some (Char.ofNat code)

/-- The character of a pair of code units. -/
def pairedUnits? (high low : Nat) : Option Char :=
  if 0xd800 ≤ high ∧ high ≤ 0xdbff ∧ 0xdc00 ≤ low ∧ low ≤ 0xdfff then
    some (Char.ofNat (0x10000 + (high - 0xd800) * 0x400 + (low - 0xdc00)))
  else none

/-- The characters of a text; half of a pair has no character. -/
def characters? : List Piece → Option (List Char)
  | [] => some []
  | .char c :: rest => (characters? rest).map (c :: ·)
  | .unit high :: .unit low :: rest =>
    match pairedUnits? high low with
    | some c => (characters? rest).map (c :: ·)
    | none => do
      let c ← loneUnit? high
      let cs ← characters? (.unit low :: rest)
      return c :: cs
  | .unit code :: rest => do
    let c ← loneUnit? code
    let cs ← characters? rest
    return c :: cs

def string? (pieces : List Piece) : Option String := (characters? pieces).map String.ofList

end Document

namespace Document

mutual

/-- The value of a document with at most `depth` containers inside one another. -/
def valueWithin? (depth : Nat) : Document → Option Json
  | null => some .null
  | bool b => some (.bool b)
  | number x => (Number.ofNumeral? x).map .number
  | text pieces => (string? pieces).map .string
  | array items =>
    match depth with
    | 0 => none
    | depth + 1 => (itemsWithin? depth items).map .array
  | object members =>
    match depth with
    | 0 => none
    | depth + 1 => (membersWithin? depth members).map .object

def itemsWithin? (depth : Nat) : List Document → Option (List Json)
  | [] => some []
  | item :: rest => do
    let item ← valueWithin? depth item
    let rest ← itemsWithin? depth rest
    return item :: rest

def membersWithin? (depth : Nat) :
    List (List Piece × Document) → Option (List (String × Json))
  | [] => some []
  | (name, value) :: rest => do
    let name ← string? name
    let value ← valueWithin? depth value
    let rest ← membersWithin? depth rest
    return (name, value) :: rest

end

/-- As many containers as may be inside one another. -/
def depthLimit : Nat := 127

/-- The value of a document, its repeated names as they are. -/
def value? (document : Document) : Option Json := valueWithin? depthLimit document

end Document

/-- The value of a text, its repeated names as they are. -/
def readUnsettled? (text : String) : Option Json :=
  (Document.parse? text).bind Document.value?

/-- The value of a text; the last of several members with one name counts. -/
def read? (text : String) : Option Json := (readUnsettled? text).map settled

end PollAtlas.Json
