import PollAtlas.Address.Domain.Direction
import PollAtlas.Address.Domain.Joiner
import PollAtlas.Address.Domain.Spelling
import PollAtlas.Address.Punycode

/-!
# Labels of domain names

The pieces of a domain name. A label beyond ASCII is written in ASCII behind four characters
that say so, and it may be given in that form too.

* `Label.ofChars?`: the label of a text in its common spelling.
* `domainName?`: a domain name as it is looked up.
-/

namespace PollAtlas.Address

/-- A label as it is shown, and as it is written in ASCII. -/
structure Label where
  shown : List Char
  written : List Char
  deriving DecidableEq, Repr

namespace Label

/-- Stands before a label that is written in ASCII although it is not shown so. -/
def encodedMark : List Char := ['x', 'n', '-', '-']

/-- The most characters of a label that is encoded, and the most digits of one that is
decoded. -/
def longestShown : Nat := 1000
def longestWritten : Nat := 2000

/-- A label does not begin with a mark, and its joiners stand where they may stand. -/
def isWellFormed (label : List Char) : Bool :=
  !(label.head?.map Text.isMark).getD false && joinersFit [] label &&
    label.length ≤ longestShown

/-- The label that digits stand for. They have to be the digits of a label in its common
spelling. -/
def ofDigits? (digits : List Char) : Option Label := do
  let shown ← Punycode.decode? digits
  if digits.length ≤ longestWritten ∧ Spelling.ofChars? shown = some shown ∧
      isWellFormed shown then
    some ⟨shown, encodedMark ++ digits⟩
  else none

/-- The label of a text in its common spelling. -/
def ofChars? (cs : List Char) : Option Label :=
  if encodedMark.isPrefixOf cs then ofDigits? (cs.drop encodedMark.length)
  else if cs.all (·.toNat < 128) then some ⟨cs, cs⟩
  else if isWellFormed cs then some ⟨cs, encodedMark ++ Punycode.encode cs⟩
  else none

end Label

/-- A domain name as it is looked up: in its common spelling and in ASCII. -/
def domainName? (name : List Char) : Option (List Char) := do
  let spelled ← Spelling.ofChars? name
  let labels ← (Text.splitWhere (· == '.') spelled).mapM Label.ofChars?
  let shown := labels.map Label.shown
  if shown.any hasRightToLeft && !shown.all keepsDirection then none
  else some (['.'].intercalate (labels.map Label.written))

end PollAtlas.Address
