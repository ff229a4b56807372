import PollAtlas.Json.Record
import PollAtlas.Text.Blank

/-!
# Offices and administrative levels

The five elected offices and the two levels of administration that elect them. An office
has a label and is known by other spellings too.

* `Office.ofText?`: the office that a text names.
* `Office.ofText?_label`: its label is one of the spellings.
* `AdminLevel.offices`: the offices that a region of a level elects.
-/

namespace PollAtlas.Election

/-- An elected office. -/
inductive Office where
  /-- Mayor of a metropolitan city or governor of a province. -/
  | metroHead
  /-- Council of a metropolitan city or a province. -/
  | metroCouncil
  /-- Superintendent of education. -/
  | superintendent
  /-- Head of a city, county or district. -/
  | localHead
  /-- Council of a city, county or district. -/
  | localCouncil
  deriving DecidableEq, Ord, Repr

/-- Offices are ordered as they are listed. -/
instance : Std.OrientedOrd Office where
  eq_swap {a b} := by cases a <;> cases b <;> rfl

instance : Std.TransOrd Office where
  isLE_trans {a b c} := by cases a <;> cases b <;> cases c <;> decide

instance : Std.LawfulEqOrd Office where
  eq_of_compare {a b} := by cases a <;> cases b <;> decide

namespace Office

def label : Office → String
  | metroHead => "광역자치단체장"
  | metroCouncil => "광역의회"
  | superintendent => "교육감"
  | localHead => "기초자치단체장"
  | localCouncil => "기초의회"

/-- The English key of an office. -/
def key : Office → String
  | metroHead => "metro_mayor"
  | metroCouncil => "metro_council"
  | superintendent => "superintendent"
  | localHead => "local_mayor"
  | localCouncil => "local_council"

/-- Other spellings of an office. -/
def otherSpellings : Office → List String
  | metroHead => ["광역단체장", "시도지사", "시·도지사"]
  | metroCouncil => ["광역의원", "시도의회", "시·도의회"]
  | superintendent => ["시도교육감", "시·도교육감"]
  | localHead => ["기초단체장", "구시군의장", "구·시·군의 장"]
  | localCouncil => ["기초의원", "구시군의회", "구·시·군의회"]

/-- All spellings of an office. -/
def spellings (office : Office) : List String :=
  office.label :: office.key :: office.otherSpellings

def all : List Office := [metroHead, metroCouncil, superintendent, localHead, localCouncil]

/-- The offices of a province, in the order they are shown. -/
def metro : List Office := [metroHead, metroCouncil, superintendent]

/-- The offices of a city, county or district, in the order they are shown. -/
def municipal : List Office := [localHead, localCouncil]

end Office

/-- The text with the letters A to Z in lower case. -/
def lowerCase (s : String) : List Char := s.toList.map Char.toLower

/-- Two texts are the same up to the case of the letters A to Z. -/
def sameUpToCase (s t : String) : Bool := lowerCase s == lowerCase t

namespace Office

/-- The office that a text names in any spelling; blanks around it and the case of the
letters A to Z do not count. -/
def ofText? (text : String) : Option Office :=
  let text := Text.trim text
  all.find? fun office => office.spellings.any (sameUpToCase text)

theorem ofText?_label (office : Office) : ofText? office.label = some office := by
  cases office <;> decide +kernel

/-- The two names that a record may hold for an office. -/
def names : List (String × Office) :=
  all.flatMap fun office => [(office.label, office), (office.key, office)]

def ofJson? (value : Json) : Option Office := Json.name? names value

end Office

/-! ## Levels -/

/-- A level of administration. -/
inductive AdminLevel where
  /-- A province. -/
  | sido
  /-- A city, county or district. -/
  | sigungu
  deriving DecidableEq, Repr

namespace AdminLevel

def name : AdminLevel → String
  | sido => "sido"
  | sigungu => "sigungu"

def all : List AdminLevel := [sido, sigungu]

/-- The level that a text names; the case of its letters does not count. -/
def ofText? (text : String) : Option AdminLevel :=
  all.find? fun level => sameUpToCase text level.name

/-- The offices that a region of this level elects, in the order they are shown. -/
def offices : AdminLevel → List Office
  | sido => Office.metro
  | sigungu => Office.municipal

def names : List (String × AdminLevel) := all.map fun level => (level.name, level)

end AdminLevel

end PollAtlas.Election
