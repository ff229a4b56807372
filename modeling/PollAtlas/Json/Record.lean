import PollAtlas.Json.Document

/-!
# Records

A record is read from an object by the names of its fields or from an array by their
order. The same readers serve settled values and documents; of a document only the parts
that a reader asks for have to have a value.

* `Record.read?`: the fields of a record in either form.
* `Record.required`, `Record.optional`, `Record.orDefault`: one field of it.
* `Tagged.read?`: a tag together with the content that it announces.
-/

namespace PollAtlas.Json

/-! ## One level of a value -/

/-- What a value is, its parts not yet read. -/
inductive Layer (α : Type) where
  | null
  | bool (b : Bool)
  | number (x : Number)
  | string (s : String)
  | array (items : List α)
  | object (members : List (String × α))

/-- Values that can be read one level at a time. -/
class Layered (α : Type) where
  /-- The outermost level, unless it has no value. -/
  layer? : α → Option (Layer α)

open Layered (layer?)

instance : Layered Json where
  layer?
    | .null => some .null
    | .bool b => some (.bool b)
    | .number x => some (.number x)
    | .string s => some (.string s)
    | .array items => some (.array items)
    | .object members => some (.object members)

instance : Layered Document where
  layer?
    | .null => some .null
    | .bool b => some (.bool b)
    | .number x => (Number.ofNumeral? x).map .number
    | .text pieces => (Document.string? pieces).map .string
    | .array items => some (.array items)
    | .object members =>
      (members.mapM fun member : List Piece × Document =>
        (Document.string? member.1).map (·, member.2)).map .object

section Readers

variable {α β : Type} [Layered α]

def isNull (x : α) : Bool :=
  match layer? x with
  | some .null => true
  | _ => false

def bool? (x : α) : Option Bool :=
  match layer? x with
  | some (.bool b) => some b
  | _ => none

def string? (x : α) : Option String :=
  match layer? x with
  | some (.string s) => some s
  | _ => none

/-- Any number, as the nearest double. -/
def double? (x : α) : Option Double :=
  match layer? x with
  | some (.number n) => some n.toDouble
  | _ => none

def list? (item? : α → Option β) (x : α) : Option (List β) :=
  match layer? x with
  | some (.array items) => items.mapM item?
  | _ => none

/-- A value that may be `null`. -/
def nullable? (value? : α → Option β) (x : α) : Option (Option β) :=
  if isNull x then some none else (value? x).map some

/-- One of several names: a string, or an object whose only member has that name and the
value `null`. -/
def name? (names : List (String × β)) (x : α) : Option β :=
  match layer? x with
  | some (.string s) => names.lookup s
  | some (.object [(s, value)]) => if isNull value then names.lookup s else none
  | _ => none

end Readers

/-! ## Fields -/

/-- A field of a record: its name and other spellings of it. -/
structure Field where
  name : String
  aliases : List String

/-- Fields with one spelling each. -/
def Field.named (names : List String) : List Field := names.map fun name => ⟨name, []⟩

/-- The values given for the fields of a record. -/
structure Record (α : Type) where
  values : List (String × α)
  /-- Read from an object, where a field may be left out at any place. -/
  byName : Bool

namespace Record

variable {α β : Type}

/-- The members that are fields, under the fields' own names. -/
def known (fields : List Field) (members : List (String × α)) : List (String × α) :=
  members.filterMap fun (spelling, value) =>
    (fields.find? fun field => field.name == spelling || field.aliases.contains spelling).map
      fun field => (field.name, value)

/-- The record of an object's members. Members that are no field are passed over; a field
given twice, in whatever spellings, is refused. -/
def ofMembers? (fields : List Field) (members : List (String × α)) : Option (Record α) :=
  let values := known fields members
  if (values.map Prod.fst).Nodup then some ⟨values, true⟩ else none

/-- The record of an array: a value for each of the first fields. -/
def ofItems? (fields : List Field) (items : List α) : Option (Record α) :=
  if items.length ≤ fields.length then some ⟨(fields.map Field.name).zip items, false⟩
  else none

/-- The record that a value holds. -/
def read? [Layered α] (fields : List Field) (x : α) : Option (Record α) :=
  match layer? x with
  | some (.object members) => ofMembers? fields members
  | some (.array items) => ofItems? fields items
  | _ => none

/-- The value given for a field. -/
def value? (record : Record α) (name : String) : Option α := record.values.lookup name

/-- A field that has to be there. -/
def required (record : Record α) (name : String) (read? : α → Option β) : Option β :=
  (record.value? name).bind read?

/-- A field that has a default when it is left out. -/
def orDefault (record : Record α) (name : String) (default : β) (read? : α → Option β) :
    Option β :=
  match record.value? name with
  | some x => read? x
  | none => some default

/-- A field that may be `null`. Only an object may leave it out. -/
def optional [Layered α] (record : Record α) (name : String) (read? : α → Option β) :
    Option (Option β) :=
  match record.value? name with
  | some x => nullable? read? x
  | none => if record.byName then some none else none

end Record

/-! ## Tagged contents -/

/-- A tag and the content that belongs to it. -/
structure Tagged (α : Type) where
  tag : String
  content : Option α

/-- An object with a tag and perhaps a content, or an array of exactly these two. -/
def Tagged.read? {α : Type} [Layered α] (tag content : String) (x : α) :
    Option (Tagged α) := do
  let record ← Record.read? (Field.named [tag, content]) x
  let name ← record.required tag string?
  match record.value? content with
  | some value => return ⟨name, some value⟩
  | none => if record.byName then some ⟨name, none⟩ else none

end PollAtlas.Json
