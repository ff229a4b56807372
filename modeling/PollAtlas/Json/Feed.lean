import PollAtlas.Journal
import PollAtlas.Json.Value

/-!
# Feeds

A feed is a list of items from several collectors. An item that cannot be read is left
out, so that one bad row does not empty the feed.

* `Feed.readable`: the items that can be read, in order.
* `Feed.notes`: what was left out.
-/

namespace PollAtlas.Json.Feed

variable {α : Type}

/-- The items that can be read, in order. -/
def readable (read? : Json → Option α) (items : List Json) : List α := items.filterMap read?

/-- A note for every item that is left out, and their number if there are any. -/
def notes (kind : String) (read? : Json → Option α) (items : List Json) : List Note :=
  let skipped := items.zipIdx.filter fun (item, _) => (read? item).isNone
  let each := skipped.map fun (_, i) => (⟨.warning, s!"Skipping {kind} #{i}"⟩ : Note)
  if skipped.isEmpty then []
  else each ++ [⟨.warning, s!"Skipped {skipped.length} of {items.length} {kind} items"⟩]

theorem readable_append (read? : Json → Option α) (items later : List Json) :
    readable read? (items ++ later) = readable read? items ++ readable read? later :=
  List.filterMap_append

theorem readable_cons (read? : Json → Option α) (item : Json) (items : List Json) :
    readable read? (item :: items) = (read? item).toList ++ readable read? items := by
  unfold readable
  rw [List.filterMap_cons]
  cases read? item with
  | none => rfl
  | some x => rfl

end PollAtlas.Json.Feed
