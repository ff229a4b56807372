import PollAtlas.Poll.Latest
import PollAtlas.Proofs.Region.Forms
import PollAtlas.Proofs.Survivor
import PollAtlas.Proofs.Text.ByteOrder

/-!
# The freshest observation of each region

The index is built one observation at a time and one key at a time. The invariant holds for
all keys at once: what is held under a key is what a scan through the observations filed
under that key would hold (`get?_ofObservations`). Such a scan keeps the observation with
the latest date, and of several with that date the one that arrived last. Dates are compared byte
by byte, and a missing date is the empty text.

* `FiledUnder`: what an observation is filed under.
* `IsFreshest`: the observation that a lookup should give.
* `ofObservations_answers`: the index against both.
-/

namespace PollAtlas.Poll

/-! ## Filing -/

/-- An observation is filed under its two region codes, blanks aside, and under the
provinces of those that are districts. -/
def Observation.FiledUnder (o : Observation) (key : String) : Prop :=
  ∃ code, (o.regionCode = some code ∨ o.audienceRegionCode = some code) ∧
    Text.trim code ≠ "" ∧
      (key = Text.trim code ∨
        ∃ a b, Region.IsDistrict (Text.trim code) a b ∧ key = Region.wholeCode a b)

theorem mem_regionKeys_iff {code : Option String} {key : String} :
    key ∈ regionKeys code ↔
      ∃ text, code = some text ∧ Text.trim text ≠ "" ∧
        (key = Text.trim text ∨
          ∃ a b, Region.IsDistrict (Text.trim text) a b ∧ key = Region.wholeCode a b) := by
  cases code with
  | none => simp [regionKeys]
  | some text =>
    by_cases hblank : Text.trim text = ""
    · simp [regionKeys, Text.content?, hblank]
    · simp [regionKeys, Text.content?, hblank, Region.provinceOf?_eq_some_iff]

theorem Observation.mem_keys_iff {o : Observation} {key : String} :
    key ∈ o.keys ↔ o.FiledUnder key := by
  rw [Observation.keys, List.mem_append, mem_regionKeys_iff, mem_regionKeys_iff]
  constructor
  · rintro (⟨text, hcode, h⟩ | ⟨text, hcode, h⟩)
    · exact ⟨text, Or.inl hcode, h⟩
    · exact ⟨text, Or.inr hcode, h⟩
  · rintro ⟨text, hcode | hcode, h⟩
    · exact Or.inl ⟨text, hcode, h⟩
    · exact Or.inr ⟨text, hcode, h⟩

instance (o : Observation) (key : String) : Decidable (o.FiledUnder key) :=
  decidable_of_iff (key ∈ o.keys) Observation.mem_keys_iff

/-- The observations that are filed under a key, in their order of arrival. -/
def filedUnder (key : String) (observations : List Observation) : List Observation :=
  observations.filter fun o => o.FiledUnder key

/-- The observation with the latest date, as texts are ordered by their bytes and a missing date
is empty, and of several with that date the last one. -/
def IsFreshest (observations : List Observation) (o : Observation) : Prop :=
  ∃ before after, observations = before ++ o :: after ∧
    (∀ p ∈ before, Text.bytes (p.surveyEndDate.getD "") ≤ Text.bytes (o.surveyEndDate.getD "")) ∧
    ∀ p ∈ after, Text.bytes (p.surveyEndDate.getD "") < Text.bytes (o.surveyEndDate.getD "")

theorem IsFreshest.mem {observations : List Observation} {o : Observation}
    (h : IsFreshest observations o) : o ∈ observations := by
  obtain ⟨before, after, rfl, _, _⟩ := h
  exact List.mem_append_right _ List.mem_cons_self

theorem IsFreshest.date_le {observations : List Observation} {o p : Observation}
    (h : IsFreshest observations o) (hp : p ∈ observations) :
    p.surveyEndDate.getD "" ≤ o.surveyEndDate.getD "" := by
  obtain ⟨before, after, rfl, hbefore, hafter⟩ := h
  rcases List.mem_append.mp hp with hp | hp
  · exact Text.bytes_le_iff.mp (hbefore p hp)
  · rcases List.mem_cons.mp hp with rfl | hp
    · exact String.le_refl _
    · exact Text.bytes_le_iff.mp (List.le_of_lt (hafter p hp))

namespace Latest

/-! ## One observation -/

/-- An observation replaces one that is not later. -/
def NotOlder (o held : Observation) : Prop := held.dateKey ≤ o.dateKey

instance : DecidableRel NotOlder := fun o held =>
  inferInstanceAs (Decidable (held.dateKey ≤ o.dateKey))

theorem replacement_notOlder : Replacement NotOlder where
  trans hxy hyz := String.le_trans hyz hxy
  between y hxz := by
    rcases String.le_total y.dateKey _ with h | h
    · exact Or.inl h
    · exact Or.inr (String.le_trans hxz h)

theorem later_eq_kept (held : Option Observation) (o : Observation) :
    later held o = kept NotOlder held o := by
  cases held with
  | none => rfl
  | some held =>
    by_cases h : o.dateKey < held.dateKey
    · have hold : ¬ NotOlder o held := String.not_le.mpr h
      rw [later, kept, if_pos h, if_neg hold]
    · have hnew : NotOlder o held := String.not_lt.mp h
      rw [later, kept, if_neg h, if_pos hnew]

/-- Filing an observation twice under one key is filing it once. -/
theorem later_later (held : Option Observation) (o : Observation) :
    later (some (later held o)) o = later held o := by
  cases held with
  | none => exact ite_self o
  | some held =>
    by_cases h : o.dateKey < held.dateKey
    · simp only [later, if_pos h]
    · simp only [later, if_neg h, ite_self]

theorem get?_file (index : Latest) (o : Observation) (filed key : String) :
    (file o index filed).get? key =
      if filed = key then some (later (index.get? key) o) else index.get? key := by
  rw [get?, file, Std.ExtTreeMap.getElem?_insert]
  by_cases h : filed = key
  · subst h
    simp [get?]
  · simp [get?, h]

/-- What is held after filing an observation under several keys, some of them repeated. -/
theorem get?_foldl_file (o : Observation) (keys : List String) (key : String) :
    ∀ index : Latest, (keys.foldl (file o) index).get? key =
      if key ∈ keys then some (later (index.get? key) o) else index.get? key := by
  induction keys with
  | nil =>
    intro index
    simp
  | cons first keys ih =>
    intro index
    rw [List.foldl_cons, ih, get?_file]
    by_cases hfirst : first = key
    · subst hfirst
      by_cases hmem : first ∈ keys
      · simp [hmem, later_later]
      · simp [hmem]
    · simp [hfirst, Ne.symm hfirst]

theorem get?_add (index : Latest) (o : Observation) (key : String) :
    (index.add o).get? key =
      if o.FiledUnder key then some (later (index.get? key) o) else index.get? key := by
  rw [add, get?_foldl_file]
  simp only [Observation.mem_keys_iff]

/-! ## All observations -/

theorem get?_empty (key : String) : (⟨∅⟩ : Latest).get? key = none := by
  simp [get?]

/-- What is held under a key is what a scan through the observations filed under it holds. -/
theorem get?_ofObservations (observations : List Observation) (key : String) :
    (ofObservations observations).get? key =
      survivor? NotOlder (filedUnder key observations) := by
  induction observations using List.reverseRecOn with
  | nil => exact get?_empty key
  | append_singleton observations o ih =>
    have hadd : ofObservations (observations ++ [o]) = (ofObservations observations).add o := by
      simp [ofObservations]
    rw [hadd, get?_add, filedUnder, survivor?_filter_concat, ← filedUnder, ← ih, later_eq_kept]

theorem survives_notOlder_iff {observations : List Observation} {o : Observation} :
    Survives NotOlder observations o ↔ IsFreshest observations o := by
  simp only [Survives, IsFreshest, NotOlder, Observation.dateKey, Text.bytes_le_iff,
    Text.bytes_lt_iff, String.not_le]

/-- The observation that is held under a key is the freshest of those filed under it. -/
theorem isFreshest_of_get? {observations : List Observation} {key : String} {o : Observation}
    (h : (ofObservations observations).get? key = some o) :
    IsFreshest (filedUnder key observations) o := by
  rw [get?_ofObservations, survivor?_eq_some_iff replacement_notOlder] at h
  exact survives_notOlder_iff.mp h

theorem exists_get?_of_filedUnder {observations : List Observation} {key : String}
    {o : Observation} (h : o ∈ filedUnder key observations) :
    ∃ p, (ofObservations observations).get? key = some p := by
  rw [← Option.ne_none_iff_exists', get?_ofObservations, ne_eq, survivor?_eq_none_iff]
  exact List.ne_nil_of_mem h

/-! ## The keys -/

theorem contains_iff_mem_keys {index : Latest} {key : String} :
    index.contains key = true ↔ key ∈ index.keys := by
  rw [contains, keys, Std.ExtTreeMap.mem_keys, Std.ExtTreeMap.contains_iff_mem]

theorem mem_keys_iff_get?_ne_none {index : Latest} {key : String} :
    key ∈ index.keys ↔ index.get? key ≠ none := by
  rw [keys, get?, Std.ExtTreeMap.mem_keys, Std.ExtTreeMap.mem_iff_isSome_getElem?,
    Option.isSome_iff_ne_none]

/-- The keys ascend, as texts are ordered by their bytes. -/
theorem keys_ascending (index : Latest) :
    index.keys.Pairwise fun a b => Text.bytes a < Text.bytes b := by
  refine (Std.ExtTreeMap.ordered_keys (t := index.byRegion)).imp ?_
  intro a b h
  exact Text.bytes_lt_iff.mpr (compareOfLessAndEq_eq_lt.mp h)

/-- What an index of observations should answer: the freshest observation that is filed under
a key, and as keys, in ascending order, those that anything is filed under. -/
structure Answers (index : Latest) (observations : List Observation) : Prop where
  absent : ∀ key, index.get? key = none ↔ filedUnder key observations = []
  freshest : ∀ key o, index.get? key = some o ↔ IsFreshest (filedUnder key observations) o
  ascending : index.keys.Pairwise fun a b => Text.bytes a < Text.bytes b
  mem_keys : ∀ key, key ∈ index.keys ↔ filedUnder key observations ≠ []
  size_eq : index.size = index.keys.length
  isEmpty_iff : index.isEmpty = true ↔ index.keys = []
  contains_iff : ∀ key, index.contains key = true ↔ key ∈ index.keys
  toList_keys : index.toList.map Prod.fst = index.keys
  mem_toList : ∀ key o, (key, o) ∈ index.toList ↔ index.get? key = some o

/-- The index that is built answers for the observations that it is built from. -/
theorem ofObservations_answers (observations : List Observation) :
    (ofObservations observations).Answers observations := by
  have habsent : ∀ key, (ofObservations observations).get? key = none ↔
      filedUnder key observations = [] := fun key => by
    rw [get?_ofObservations, survivor?_eq_none_iff]
  exact {
    absent := habsent
    freshest := fun key o => by
      rw [get?_ofObservations, survivor?_eq_some_iff replacement_notOlder, survives_notOlder_iff]
    ascending := keys_ascending _
    mem_keys := fun key => by rw [mem_keys_iff_get?_ne_none, ne_eq, habsent]
    size_eq := Std.ExtTreeMap.length_keys.symm
    isEmpty_iff := by
      rw [isEmpty, keys, Std.ExtTreeMap.keys_eq_nil_iff, Std.ExtTreeMap.isEmpty_iff]
    contains_iff := fun key => contains_iff_mem_keys
    toList_keys := Std.ExtTreeMap.map_fst_toList_eq_keys
    mem_toList := fun key o => Std.ExtTreeMap.mem_toList_iff_getElem?_eq_some }

/-- An observation of the whole province of Seoul. -/
def seoul : Observation where
  regionCode := some "11-000"
  audienceRegionCode := none
  surveyEndDate := some "2026-01-01"
  officeType := none
  matchupId := none
  title := "서울"
  optionName := none
  valueMid := none
  pollster := none
  sampleSize := none
  marginOfError := none
  sourceChannels := []

/-- An observation of the same day, for an audience in one of Seoul's districts. -/
def sameDay : Observation :=
  { seoul with regionCode := none, audienceRegionCode := some " 11-680 " }

/-- Observations of Seoul, the last two of which are older or have no date. -/
def seoulFeed : List Observation :=
  [seoul, sameDay, { seoul with surveyEndDate := some "2025-12-31" },
    { seoul with surveyEndDate := none }]

/-- The later one of those of the last day is held, whatever comes after it. -/
theorem answers_seoulFeed :
    (ofObservations seoulFeed).get? "11-000" = some sameDay ∧
      (ofObservations seoulFeed).get? "11-680" = some sameDay ∧
      (ofObservations seoulFeed).get? "26-000" = none := by
  have h := ofObservations_answers seoulFeed
  have hprovince : filedUnder "11-000" seoulFeed = seoulFeed := by decide +kernel
  have hdistrict : filedUnder "11-680" seoulFeed = [sameDay] := by decide +kernel
  have hother : filedUnder "26-000" seoulFeed = [] := by decide +kernel
  refine ⟨(h.freshest _ _).mpr ?_, (h.freshest _ _).mpr ?_, (h.absent _).mpr hother⟩
  · rw [hprovince]
    exact ⟨[seoul], _, rfl, by decide +kernel, by decide +kernel⟩
  · rw [hdistrict]
    exact ⟨[], [], rfl, by simp, by simp⟩

end Latest

end PollAtlas.Poll
