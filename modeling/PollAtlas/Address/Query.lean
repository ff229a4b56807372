import PollAtlas.Address.Url

/-!
# Queries

Parameters are written as a form sends them: name and value with an equals sign between
them, pairs with an ampersand, a space as a plus sign, and all but a few characters
percent-encoded.

* `Url.appendPair`: an address with one more parameter.
* `formPairs`: the parameters of a query.
-/

namespace PollAtlas.Address

/-- The characters that a form keeps. -/
def isFormKept (c : Char) : Bool := c.isAlphanum || ['*', '-', '.', '_'].contains c

/-- A character as a form sends it. -/
def formChar (c : Char) : List Char :=
  if c = ' ' then ['+'] else percentEncode isFormKept [c]

/-- A text as a form sends it. -/
def formText (s : String) : List Char := s.toList.flatMap formChar

/-- A parameter as a form sends it. -/
def formPair (name value : String) : List Char := formText name ++ '=' :: formText value

/-- The text that a form's text stands for, if its bytes are one. -/
def formDecode? (cs : List Char) : Option String :=
  percentDecode? (cs.map fun c => if c = '+' then ' ' else c)

/-- The name and the value of a form's pair; a pair without an equals sign has an empty
value. -/
def decodePair (cs : List Char) : Option String × Option String :=
  let (name, value) := Text.cutAt (· == '=') cs
  (formDecode? name, formDecode? (value.getD []))

/-- The parameters of a query. -/
def formPairs (query : List Char) : List (Option String × Option String) :=
  ((Text.splitWhere (· == '&') query).filter fun pair => !pair.isEmpty).map decodePair

/-- An address with one more parameter at the end of its query. -/
def Url.appendPair (url : Url) (name value : String) : Url :=
  let before :=
    match url.query with
    | none => []
    | some [] => []
    | some query => query ++ ['&']
  { url with query := some (before ++ formPair name value) }

end PollAtlas.Address
