import PollAtlas.Poll.Observation
import PollAtlas.Proofs.Json.ByName
import PollAtlas.Proofs.Number.Whole

/-!
# Observations that are read back

Whatever a collector sent, the observation that was made of it is written as an object with all
fields and read back unchanged. The tolerant readers coerce and round, but what they return is
their own fixed point (`Settled`): a number is finite, a margin is a finite number or a text that
is not blank, and a count is the whole number nearest to some double, which is a double again or
the greatest count.

* `count?_ofNat_of_count?`: counts survive their trip through a double.
* `Observation.Settled`, `Observation.ofJson?_toJson`: observations that are read back.
* `observations_toJson`: the observations of every feed.
-/

namespace PollAtlas.Poll

open scoped Power
open PollAtlas.Json (Record)

/-! ## Tolerant fields -/

theorem isFinite_of_finite? {x y : Double} (h : finite? x = some y) : y.isFinite = true := by
  unfold finite? at h
  split at h
  · rename_i hfinite
    cases h
    exact hfinite
  · cases h

theorem isFinite_of_number? {value : Json} {x : Double} (h : number? value = some x) :
    x.isFinite = true := by
  cases value with
  | number n => exact isFinite_of_finite? h
  | string s =>
    obtain ⟨y, _, hy⟩ := Option.bind_eq_some_iff.mp h
    exact isFinite_of_finite? hy
  | null => cases h
  | bool b => cases h
  | array items => cases h
  | object members => cases h

theorem number?_ofDouble {x : Double} (h : x.isFinite = true) :
    number? (.ofDouble x) = some x := if_pos h

/-- The greatest count is no double. It is rounded up on the way out, and back by the limit. -/
theorem count?_countLimit : count? (.ofNat countLimit) = some countLimit := by decide +kernel

theorem count?_of_number? {value : Json} {units : Nat} {h : Representable units}
    (hnumber : number? value = some (.finite false units h)) :
    count? value = some (Nat.min countLimit (Double.nearest units)) := by
  rw [count?, hnumber, Option.filter_some, Double.not_lt_zero h]
  exact congrArg some (Double.roundToNat_finite countLimit h)

theorem count?_ofNat {n : Nat} (hle : n ≤ countLimit)
    (h : Representable (n * Double.unitsPerOne)) : count? (.ofNat n) = some n := by
  have hnumber : number? (.ofNat n) = some (.finite false (n * Double.unitsPerOne) h) := by
    show finite? (Double.ofInt n) = _
    rw [finite?, Double.ofInt_of_representable h]
    rfl
  rw [count?_of_number? hnumber, Double.nearest_mul]
  exact congrArg some (Nat.min_eq_right hle)

/-- A count is the whole number nearest to a double, and so it is read back, at whatever size. -/
theorem count?_ofNat_of_count? {value : Json} {n : Nat} (h : count? value = some n) :
    count? (.ofNat n) = some n := by
  obtain ⟨x, _, rfl⟩ := Option.map_eq_some_iff.mp h
  have hrange : countLimit ≤ 2 ^ rangeBits := by decide +kernel
  rcases Nat.lt_or_ge (x.roundToNat countLimit) countLimit with hlt | hge
  · exact count?_ofNat (Nat.le_of_lt hlt) (Double.representable_roundToNat hrange hlt)
  · have hmax : x.roundToNat countLimit = countLimit :=
      Nat.le_antisymm (Double.roundToNat_le countLimit x) hge
    rw [hmax]
    exact count?_countLimit

theorem margin?_toJson_of_margin? {value : Json} {m : Margin} (h : margin? value = some m) :
    margin? m.toJson = some m := by
  cases value with
  | number n =>
    obtain ⟨x, hx, rfl⟩ := Option.map_eq_some_iff.mp h
    show (finite? x).map Margin.points = some (.points x)
    rw [finite?, if_pos (isFinite_of_finite? hx), Option.map_some]
  | string s =>
    have hread : (if Text.trim s = "" then none else some (Margin.text s)) = some m := h
    by_cases hblank : Text.trim s = ""
    · rw [if_pos hblank] at hread
      cases hread
    · rw [if_neg hblank] at hread
      cases hread
      exact if_neg hblank
  | null => cases h
  | bool b => cases h
  | array items => cases h
  | object members => cases h

theorem texts_array (channels : List String) :
    texts (.array (channels.map .string)) = channels := by
  show (channels.map Json.string).filterMap Json.string? = channels
  rw [List.filterMap_map]
  exact List.filterMap_some

/-! ## Records -/

namespace Observation

/-- Each tolerant field holds what its own reader makes of it. -/
structure Settled (o : Observation) : Prop where
  valueMid : ∀ x, o.valueMid = some x → x.isFinite = true
  sampleSize : ∀ n, o.sampleSize = some n → count? (.ofNat n) = some n
  marginOfError : ∀ m, o.marginOfError = some m → margin? m.toJson = some m

theorem fields_of_ofRecord? {record : Record Json} {o : Observation}
    (h : ofRecord? record = some o) :
    o.valueMid = (record.value? "value_mid").bind number? ∧
      o.sampleSize = (record.value? "sample_size").bind count? ∧
      o.marginOfError = (record.value? "margin_of_error").bind margin? := by
  simp only [ofRecord?, Option.bind_eq_bind, Option.bind_eq_some_iff, Option.pure_def,
    Option.some.injEq] at h
  obtain ⟨_, _, _, _, _, _, _, _, _, _, _, _, _, _, _, _, rfl⟩ := h
  exact ⟨rfl, rfl, rfl⟩

theorem settled_of_ofRecord? {record : Record Json} {o : Observation}
    (h : ofRecord? record = some o) : o.Settled := by
  obtain ⟨hvalue, hsample, hmargin⟩ := fields_of_ofRecord? h
  refine ⟨fun x hx => ?_, fun n hn => ?_, fun m hm => ?_⟩
  · obtain ⟨value, _, hread⟩ := Option.bind_eq_some_iff.mp (hvalue.symm.trans hx)
    exact isFinite_of_number? hread
  · obtain ⟨value, _, hread⟩ := Option.bind_eq_some_iff.mp (hsample.symm.trans hn)
    exact count?_ofNat_of_count? hread
  · obtain ⟨value, _, hread⟩ := Option.bind_eq_some_iff.mp (hmargin.symm.trans hm)
    exact margin?_toJson_of_margin? hread

theorem settled_of_ofJson? {value : Json} {o : Observation} (h : ofJson? value = some o) :
    o.Settled := by
  obtain ⟨record, _, hrecord⟩ := Option.bind_eq_some_iff.mp h
  exact settled_of_ofRecord? hrecord

/-! ## Reading back -/

theorem named_fields : Json.Named fields := by decide

theorem nodup_fields : (fields.map Json.Field.name).Nodup := by decide

theorem map_fst_members (o : Observation) :
    o.members.map Prod.fst = fields.map Json.Field.name := rfl

/-- The record that is read from a written observation. -/
def written (o : Observation) : Record Json := ⟨o.members, true⟩

theorem value?_written {o : Observation} {name : String} {x : Json}
    (h : (name, x) ∈ o.members) : o.written.value? name = some x :=
  Record.value?_of_mem (map_fst_members o ▸ nodup_fields) h true

theorem text?_written {o : Observation} {name : String} {text : Option String}
    (h : (name, .ofOption text) ∈ o.members) : text? o.written name = some text := by
  rw [text?, Record.orDefault, value?_written h]
  exact Json.nullable?_ofOption text

/-- A tolerant field is read back from what was written for it, `null` where it is missing. -/
theorem tolerant_written {α : Type} {o : Observation} {name : String} {field : Option α}
    {write : α → Json} {read? : Json → Option α} (hnull : read? .null = none)
    (hread : ∀ x, field = some x → read? (write x) = some x)
    (h : (name, (field.map write).getD .null) ∈ o.members) :
    (o.written.value? name).bind read? = field := by
  rw [value?_written h, Option.bind_some]
  cases field with
  | none => exact hnull
  | some x => exact hread x rfl

theorem ofJson?_toJson {o : Observation} (h : o.Settled) : ofJson? o.toJson = some o := by
  have hrecord : Record.read? fields o.toJson = some o.written :=
    Record.read?_of_names named_fields nodup_fields (map_fst_members o)
  have hregion : text? o.written "region_code" = some o.regionCode :=
    text?_written (by simp [members])
  have haudience : text? o.written "audience_region_code" = some o.audienceRegionCode :=
    text?_written (by simp [members])
  have hdate : text? o.written "survey_end_date" = some o.surveyEndDate :=
    text?_written (by simp [members])
  have hoffice : text? o.written "office_type" = some o.officeType :=
    text?_written (by simp [members])
  have hmatchup : text? o.written "matchup_id" = some o.matchupId :=
    text?_written (by simp [members])
  have htitle : o.written.orDefault "title" "" Json.string? = some o.title := by
    have hvalue : o.written.value? "title" = some (.string o.title) :=
      value?_written (by simp [members])
    rw [Record.orDefault, hvalue]
    rfl
  have hoption : text? o.written "option_name" = some o.optionName :=
    text?_written (by simp [members])
  have hmid : (o.written.value? "value_mid").bind number? = o.valueMid :=
    tolerant_written rfl (fun x hx => number?_ofDouble (h.valueMid x hx)) (by simp [members])
  have hpollster : text? o.written "pollster" = some o.pollster :=
    text?_written (by simp [members])
  have hsample : (o.written.value? "sample_size").bind count? = o.sampleSize :=
    tolerant_written rfl h.sampleSize (by simp [members])
  have hmargin : (o.written.value? "margin_of_error").bind margin? = o.marginOfError :=
    tolerant_written rfl h.marginOfError (by simp [members])
  have hchannels : ((o.written.value? "source_channels").map texts).getD [] =
      o.sourceChannels := by
    have hvalue : o.written.value? "source_channels" =
        some (.array (o.sourceChannels.map .string)) := value?_written (by simp [members])
    rw [hvalue, Option.map_some, Option.getD_some, texts_array]
  rw [ofJson?, hrecord, Option.bind_some, ofRecord?, hregion, haudience, hdate, hoffice, hmatchup,
    htitle, hoption, hmid, hpollster, hsample, hmargin, hchannels]
  rfl

end Observation

/-- Every observation of a feed, in whatever form its item came, is read back from what is
written for it. -/
theorem observations_toJson {items : List Json} {o : Observation} (h : o ∈ observations items) :
    observations [o.toJson] = [o] ∧ ∀ x, o.valueMid = some x → x.isFinite = true := by
  obtain ⟨value, _, hvalue⟩ := List.mem_filterMap.mp h
  have hsettled := Observation.settled_of_ofJson? hvalue
  refine ⟨?_, hsettled.valueMid⟩
  show [o.toJson].filterMap Observation.ofJson? = [o]
  rw [List.filterMap_cons_some (Observation.ofJson?_toJson hsettled), List.filterMap_nil]

/-! ## An uneven item -/

/-- An item whose margin goes by its other name, with numbers given as texts. The number of
people asked is far above the greatest count. -/
def unevenItem : Json :=
  .object [("moe", .string "±3.1%p"), ("sample_size", .string " 1e30 "),
    ("value_mid", .string "41.5"), ("channels", .bool true),
    ("source_channels", .array [.string "nesdc", .null, .number (.int 7)])]

/-- The observation that is made of it. -/
def unevenObservation : Observation where
  regionCode := none
  audienceRegionCode := none
  surveyEndDate := none
  officeType := none
  matchupId := none
  title := ""
  optionName := none
  valueMid := some (.ofRatio false 83 2)
  pollster := none
  sampleSize := some countLimit
  marginOfError := some (.text "±3.1%p")
  sourceChannels := ["nesdc"]

theorem observations_toJson_uneven :
    unevenObservation ∈ observations [unevenItem] ∧
      observations [unevenObservation.toJson] = [unevenObservation] ∧
      ∀ x, unevenObservation.valueMid = some x → x.isFinite = true := by
  have hmem : unevenObservation ∈ observations [unevenItem] := by decide +kernel
  exact ⟨hmem, observations_toJson hmem⟩

end PollAtlas.Poll
