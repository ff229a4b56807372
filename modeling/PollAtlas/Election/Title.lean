import PollAtlas.Election.Office
import PollAtlas.Region.Province

/-!
# Titles

The title of an election that no record names: the region and the office, or the region's
own name for the office.

* `titleOf`: the title for a region and an office.
-/

namespace PollAtlas.Election

/-- The titles that a province has of its own, by its digits. -/
def ownTitles : List (String × Office × String) :=
  [(Region.sejongDigits, .metroHead, "세종시장"),
    (Region.sejongDigits, .metroCouncil, "세종시의회"),
    (Region.sejongDigits, .superintendent, "세종교육감")]

/-- The title that a region has of its own for an office. -/
def ownTitle? (regionCode : String) (office : Office) : Option String := do
  let digits ← Region.provinceDigits? regionCode
  let (_, _, title) ← ownTitles.find? fun entry => entry.1 == digits && entry.2.1 == office
  return title

/-- The title of an election that no record names. -/
def titleOf (regionCode regionName : String) (office : Office) : String :=
  match ownTitle? regionCode office with
  | some title => title
  | none =>
    match Text.content? regionName with
    | some name => name ++ " " ++ office.label
    | none => office.label

end PollAtlas.Election
