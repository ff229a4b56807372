import PollAtlas.Json.Document
import PollAtlas.Poll.Observation

/-!
# Files of observations

A feed is kept in a file as a list, or as an object that holds the list.

* `feedItems?`: the items of a file.
-/

namespace PollAtlas.Poll

/-- The items of a value: a list, or the list that is an object's one member `items`. -/
def itemsOf? : Json → Option (List Json)
  | .array items => some items
  | .object members =>
    match members.filter fun member => member.1 == "items" with
    | [(_, .array items)] => some items
    | _ => none
  | _ => none

/-- The items of a file, in each of which the last of several members with one name
counts. -/
def feedItems? (text : String) : Option (List Json) :=
  ((Json.readUnsettled? text).bind itemsOf?).map fun items => items.map Json.settled

/-- The observations of a file. -/
def observationsOfText? (text : String) : Option (List Observation) :=
  (feedItems? text).map observations

end PollAtlas.Poll
