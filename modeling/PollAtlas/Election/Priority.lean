import PollAtlas.Election.Candidacy
import PollAtlas.Election.Office

/-!
# Which record is shown

Records for one office are ranked by the weights of the signals that they carry, then by
their latest survey, then by their matchup.

* `priority`: the sum of the weights.
* `rank`: the order of two records.
* `better`: the better of two records, and the first of equal ones.
-/

namespace PollAtlas.Election

/-- The sources of the curated election master. -/
def primarySources : List String := ["master", "code_master"]

namespace Candidacy

/-- The record belongs to the data set in use. -/
def isOfficial (r : Candidacy) : Bool := r.topologyName == officialTopology

/-- The record comes from the curated election master. -/
def isPrimary (r : Candidacy) : Bool :=
  match r.source with
  | none => false
  | some source =>
    primarySources.contains (String.ofList (lowerCase (Text.trim source)))

/-- The signals of a record and their weights. -/
def signals (r : Candidacy) : List (Bool × Nat) :=
  [(r.isOfficial, 100), (r.isPrimary, 50), (!r.isFallback, 20), (!r.isPlaceholder, 12),
    (r.hasPollData, 8), (r.hasCandidateData, 4), (r.isActive, 2)]

/-- The sum of the weights of a record's signals. -/
def priority (r : Candidacy) : Nat :=
  r.signals.foldl (fun sum signal => if signal.1 then sum + signal.2 else sum) 0

/-- The survey date as it is compared: a missing one comes before all others. -/
def dateKey (r : Candidacy) : String := (r.latestSurveyEndDate.map Text.trim).getD ""

/-- The order of two records: by priority, then by survey date, then by matchup. -/
def rank (a b : Candidacy) : Ordering :=
  (compare a.priority b.priority).then
    ((compare a.dateKey b.dateKey).then (compare a.matchupId b.matchupId))

/-- The better of the record held so far and the next one. -/
def better (held : Option Candidacy) (next : Candidacy) : Candidacy :=
  match held with
  | none => next
  | some held => if rank next held = .gt then next else held

end Candidacy

end PollAtlas.Election
