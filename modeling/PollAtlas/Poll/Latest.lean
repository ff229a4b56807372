import PollAtlas.Poll.Observation
import PollAtlas.Region.Code
import Std.Data.ExtTreeMap

/-!
# The latest observation of each region

An observation is filed under its own region, under that of its audience, and under the
provinces of both. Under each code the one with the latest survey date is kept, and of two
with the same date the one that arrived later.

* `Latest.ofObservations`: the index of a list of observations.
* `Latest.get?`, `Latest.lookup?`: the observation under a code, and under any form of a
  province's code.
-/

namespace PollAtlas.Poll

/-- The codes that an observation is filed under for one of its two regions. -/
def regionKeys (code : Option String) : List String :=
  match code.bind Text.content? with
  | none => []
  | some code => code :: (Region.provinceOf? code).toList

namespace Observation

/-- The codes that an observation is filed under. -/
def keys (o : Observation) : List String :=
  regionKeys o.regionCode ++ regionKeys o.audienceRegionCode

/-- The survey date as it is compared: a missing one comes before all others. -/
def dateKey (o : Observation) : String := o.surveyEndDate.getD ""

end Observation

/-- The latest observation under each region code. -/
structure Latest where
  byRegion : Std.ExtTreeMap String Observation

namespace Latest

/-- The later of two observations under one code; the second of two with one date. -/
def later (held : Option Observation) (o : Observation) : Observation :=
  match held with
  | none => o
  | some held => if o.dateKey < held.dateKey then held else o

/-- Files an observation under one code. -/
def file (o : Observation) (index : Latest) (key : String) : Latest :=
  ⟨index.byRegion.insert key (later index.byRegion[key]? o)⟩

/-- Files an observation under all of its codes. -/
def add (index : Latest) (o : Observation) : Latest := o.keys.foldl (file o) index

/-- The index of observations in their order of arrival. -/
def ofObservations (observations : List Observation) : Latest := observations.foldl add ⟨∅⟩

/-- The observation filed under exactly this code. -/
def get? (index : Latest) (key : String) : Option Observation := index.byRegion[key]?

def contains (index : Latest) (key : String) : Bool := index.byRegion.contains key

/-- The observation of a region: the one filed under its code or, unless that is a code
of a district, the one filed under the province that it names. -/
def lookup? (index : Latest) (code : String) : Option Observation :=
  let code := Text.trim code
  match index.get? code with
  | some o => some o
  | none =>
    if Region.isDistrictCode code then none else (Region.apiCode? code).bind index.get?

/-- The number of codes. -/
def size (index : Latest) : Nat := index.byRegion.size

def isEmpty (index : Latest) : Bool := index.byRegion.isEmpty

/-- The codes in ascending order. -/
def keys (index : Latest) : List String := index.byRegion.keys

/-- The codes with their observations, in ascending order. -/
def toList (index : Latest) : List (String × Observation) := index.byRegion.toList

/-- The note on a finished index. -/
def notes (observations : List Observation) : List Note :=
  let keyCount := (ofObservations observations).size
  [⟨.debug,
    s!"Indexed {observations.length} poll observations under {keyCount} region keys"⟩]

end Latest

end PollAtlas.Poll
