import PollAtlas.Proofs.Poll.ReadBack

/-!
# Null fields

A collector may send `null` for a field that it could have left out. Eleven of the twelve fields
read that as missing: the optional texts by `nullable?`, the tolerant fields because nothing but
a number or a text is used. The title has a default for an item without one, but where the member
is there it has to be a text. So `null` for the title takes the whole item out of the feed.

* `Observation.ofRecord?_of_adds`: the observation of a record with one more field that is `null`.
* `Observation.ofJson?_insert_null`: the observation of such an item.
* `observations_insert_null`: the observations of a feed with such an item, for every field.
-/

namespace PollAtlas.Poll

open PollAtlas.Json (Field Record)

namespace Observation

section Adds

variable {record larger : Record Json} {name : String}

theorem text?_of_adds (h : record.Adds name .null larger) (other : String) :
    text? larger other = text? record other := by
  unfold text? Record.orDefault
  rcases h.value?_cases other with hsame | ⟨hnone, hnull⟩
  · rw [hsame]
  · rw [hnone, hnull]
    rfl

theorem tolerant_of_adds (h : record.Adds name .null larger) {α : Type} {read? : Json → Option α}
    (hread : read? .null = none) (other : String) :
    (larger.value? other).bind read? = (record.value? other).bind read? := by
  rcases h.value?_cases other with hsame | ⟨hnone, hnull⟩
  · rw [hsame]
  · rw [hnone, hnull]
    exact hread

theorem channels_of_adds (h : record.Adds name .null larger) (other : String) :
    ((larger.value? other).map texts).getD [] = ((record.value? other).map texts).getD [] := by
  rcases h.value?_cases other with hsame | ⟨hnone, hnull⟩
  · rw [hsame]
  · rw [hnone, hnull]
    rfl

/-- The one field that cannot be `null`. -/
theorem title_of_adds (h : record.Adds name .null larger) :
    larger.orDefault "title" "" Json.string? =
      if name = "title" then none else record.orDefault "title" "" Json.string? := by
  unfold Record.orDefault
  rw [h.value?_eq]
  by_cases hname : name = "title"
  · subst hname
    rw [if_pos rfl, if_pos rfl]
    rfl
  · rw [if_neg (Ne.symm hname), if_neg hname]

theorem ofRecord?_of_adds (h : record.Adds name .null larger) :
    ofRecord? larger = if name = "title" then none else ofRecord? record := by
  have hvalue := tolerant_of_adds h (rfl : number? .null = none) "value_mid"
  have hsample := tolerant_of_adds h (rfl : count? .null = none) "sample_size"
  have hmargin := tolerant_of_adds h (rfl : margin? .null = none) "margin_of_error"
  have hchannels := channels_of_adds h "source_channels"
  have htitle := title_of_adds h
  unfold ofRecord?
  rw [hvalue, hsample, hmargin, hchannels, htitle]
  simp only [text?_of_adds h]
  by_cases hname : name = "title"
  · -- the texts before the title may be missing, but none of them makes up for it
    simp [if_pos hname]
  · rw [if_neg hname, if_neg hname]

end Adds

theorem spells_of_mem_spellings : ∀ field ∈ fields, ∀ spelling ∈ field.spellings,
    Record.Spells fields spelling field.name := by decide

variable {field : Field} {spelling : String} {before after : List (String × Json)}

theorem ofJson?_insert_null (hfield : field ∈ fields) (hspelling : spelling ∈ field.spellings)
    (hunmentioned : ∀ member ∈ before ++ after, member.1 ∉ field.spellings) :
    ofJson? (.object (before ++ (spelling, .null) :: after)) =
      if field.name = "title" then none else ofJson? (.object (before ++ after)) := by
  have hspells := spells_of_mem_spellings field hfield spelling hspelling
  unfold ofJson?
  rcases Record.read?_insert nodup_fields hfield hspells hunmentioned .null with
    ⟨hrecord, hlarger⟩ | ⟨record, larger, hrecord, hlarger, hadds⟩
  · rw [hrecord, hlarger]
    exact (ite_self none).symm
  · rw [hrecord, hlarger]
    exact ofRecord?_of_adds hadds

end Observation

/-! ## Feeds -/

open Observation (fields)

/-- A field that an item does not mention can be given as `null`, under either of its names and
anywhere among the members. Unless it is the title, the feed reads as before; an item whose title
is `null` is left out. -/
theorem observations_insert_null {field : Field} (hfield : field ∈ fields) {spelling : String}
    (hspelling : spelling ∈ field.spellings) {before after : List (String × Json)}
    (hunmentioned : ∀ member ∈ before ++ after, member.1 ∉ field.spellings)
    (earlier later : List Json) :
    observations (earlier ++ .object (before ++ (spelling, .null) :: after) :: later) =
      if field.name = "title" then observations (earlier ++ later)
      else observations (earlier ++ .object (before ++ after) :: later) := by
  have hitem := Observation.ofJson?_insert_null hfield hspelling hunmentioned
  unfold observations
  rw [Json.Feed.readable_append, Json.Feed.readable_cons, hitem]
  by_cases htitle : field.name = "title"
  · rw [if_pos htitle, if_pos htitle, Json.Feed.readable_append]
    rfl
  · rw [if_neg htitle, if_neg htitle, Json.Feed.readable_append, Json.Feed.readable_cons]

/-- The margin of error of an item under its other name, and the title of one that has none. -/
theorem observations_insert_null_seoul :
    observations [.object [("region_code", .string "11-000"), ("moe", .null)]] =
        observations [.object [("region_code", .string "11-000")]] ∧
      observations [.object [("region_code", .string "11-000"), ("title", .null)]] = [] := by
  have hmargin : (⟨"margin_of_error", ["moe"]⟩ : Field) ∈ fields := by simp [fields]
  have htitle : (⟨"title", []⟩ : Field) ∈ fields := by simp [fields]
  have hregion : ∀ spellings : List String, "region_code" ∉ spellings →
      ∀ member ∈ [("region_code", Json.string "11-000")] ++ [], member.1 ∉ spellings := by
    intro spellings hspellings member hmember
    obtain rfl := List.mem_singleton.mp hmember
    exact hspellings
  refine ⟨?_, ?_⟩
  · exact observations_insert_null hmargin (List.mem_cons_of_mem _ List.mem_cons_self)
      (hregion _ (by decide)) [] []
  · exact observations_insert_null htitle List.mem_cons_self (hregion _ (by decide)) [] []

/-- An item that names its region and nothing else is an observation, until its title is given
as `null`. -/
theorem not_observations_insert_null :
    ¬ ∀ field ∈ fields, ∀ spelling ∈ field.spellings, ∀ before after : List (String × Json),
      (∀ member ∈ before ++ after, member.1 ∉ field.spellings) →
        observations [.object (before ++ (spelling, .null) :: after)] =
          observations [.object (before ++ after)] := by
  intro h
  have htitle : (⟨"title", []⟩ : Field) ∈ fields := by simp [fields]
  have heq := h ⟨"title", []⟩ htitle "title" List.mem_cons_self
    [("region_code", .string "11-000")] [] (by decide)
  revert heq
  decide

end PollAtlas.Poll
