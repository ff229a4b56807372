import PollAtlas.Json.Printer
import PollAtlas.Text.Quoted

/-!
# JSON values in diagnostics

A value as diagnostics show it: behind the name of its kind, and the members of an object in
the order of their names.

* `Json.diagnostic`: the text of a value.
-/

namespace PollAtlas.Json

/-- The name of a value's kind. -/
def kindName : Json → String
  | null => "Null"
  | bool _ => "Bool"
  | number _ => "Number"
  | string _ => "String"
  | array _ => "Array"
  | object _ => "Object"

/-- Texts with commas between them, in brackets. -/
def listed (left right : String) (texts : List String) : String :=
  left ++ ", ".intercalate texts ++ right

/-- Members in the order of their names. -/
def sortedByName {α : Type} (members : List (String × α)) : List (String × α) :=
  members.mergeSort fun a b => !decide (b.1 < a.1)

mutual

/-- The text of a value. -/
def diagnostic : Json → String
  | null => "Null"
  | bool b => listed "Bool(" ")" [String.ofList (boolText b)]
  | number x => listed "Number(" ")" [String.ofList x.text]
  | string s => listed "String(" ")" [Text.quoted s]
  | array items => listed "Array [" "]" (itemDiagnostics items)
  | object members =>
    listed "Object \x7b" "\x7d" ((sortedByName (memberDiagnostics members)).map fun member =>
      Text.quoted member.1 ++ ": " ++ member.2)

def itemDiagnostics : List Json → List String
  | [] => []
  | item :: rest => diagnostic item :: itemDiagnostics rest

def memberDiagnostics : List (String × Json) → List (String × String)
  | [] => []
  | (name, value) :: rest => (name, diagnostic value) :: memberDiagnostics rest

end

end PollAtlas.Json
