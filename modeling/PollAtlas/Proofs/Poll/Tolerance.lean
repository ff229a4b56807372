import PollAtlas.Proofs.Poll.NullFields

/-!
# Tolerant fields

Four fields of an observation are read by readers that have an answer for every value: the
figure, the number of people asked, the margin of error and the channels. Whatever is sent for one
of them, the item stays an observation, and its other fields stay what they were.

A reader of a record sees its values by name only. An object with a member set has the same values
under all other names (`Record.read?_setMember`), and no tolerant reader can fail. So the proof
goes by the four fields, and nothing has to be known of the value.

* `Observation.assign`: an observation with one tolerant field read from another value.
* `Observation.ofRecord?_of_value?_eq`: the observation of a record with one such value changed.
* `Observation.ofJson?_setMember`: the observation of an item with such a member set.
-/

namespace PollAtlas.Poll

open PollAtlas.Json (Field Record setMember)

/-- The fields that are read tolerantly. -/
inductive TolerantField where
  | valueMid
  | sampleSize
  | marginOfError
  | sourceChannels
  deriving DecidableEq, Repr

namespace TolerantField

def field : TolerantField → Field
  | valueMid => ⟨"value_mid", []⟩
  | sampleSize => ⟨"sample_size", []⟩
  | marginOfError => ⟨"margin_of_error", ["moe"]⟩
  | sourceChannels => ⟨"source_channels", []⟩

theorem field_mem (k : TolerantField) : k.field ∈ Observation.fields := by
  cases k <;> simp [field, Observation.fields]

end TolerantField

namespace Observation

/-- The observation with one tolerant field read from a value, and from nothing else. -/
def assign (o : Observation) (k : TolerantField) (x : Json) : Observation :=
  match k with
  | .valueMid => { o with valueMid := number? x }
  | .sampleSize => { o with sampleSize := count? x }
  | .marginOfError => { o with marginOfError := margin? x }
  | .sourceChannels => { o with sourceChannels := texts x }

theorem ofRecord?_of_value?_eq {record changed : Record Json} {k : TolerantField} {x : Json}
    (h : ∀ other, changed.value? other =
      if other = k.field.name then some x else record.value? other) :
    ofRecord? changed = (ofRecord? record).map fun o => o.assign k x := by
  show ofRecord? changed = (fun o : Observation => o.assign k x) <$> ofRecord? record
  unfold ofRecord? text? Record.orDefault
  simp only [map_bind, map_pure, h]
  cases k with
  | valueMid => simp [TolerantField.field, assign]
  | sampleSize => simp [TolerantField.field, assign]
  | marginOfError => simp [TolerantField.field, assign]
  | sourceChannels => simp [TolerantField.field, assign]

/-- An item that is an observation stays one when a tolerant field is set to any value at all,
under either of its names as long as the other is not given. The field is read from that value
alone, and the other fields are as before. -/
theorem ofJson?_setMember {members : List (String × Json)} {o : Observation}
    (h : ofJson? (.object members) = some o) (k : TolerantField) {spelling : String}
    (hspelling : spelling ∈ k.field.spellings)
    (halone : ∀ member ∈ members, member.1 ∈ k.field.spellings → member.1 = spelling) (x : Json) :
    ofJson? (.object (setMember spelling x members)) = some (o.assign k x) := by
  obtain ⟨record, hrecord, ho⟩ := Option.bind_eq_some_iff.mp h
  have hspells := spells_of_mem_spellings k.field k.field_mem spelling hspelling
  obtain ⟨changed, hchanged, hvalue⟩ :=
    Record.read?_setMember nodup_fields k.field_mem hspells halone hrecord x
  rw [ofJson?, hchanged, Option.bind_some, ofRecord?_of_value?_eq hvalue, ho, Option.map_some]

/-- An item with a margin under its other name. -/
def busanMembers : List (String × Json) :=
  [("moe", .string "±3.1%p"), ("region_code", .string "26-000"), ("value_mid", .number (.int 41))]

/-- The margin is an object, and the channels are a list with lists and `null` in it. -/
theorem ofJson?_setMember_busan :
    ∃ o, ofJson? (.object busanMembers) = some o ∧
      ofJson? (.object (setMember "moe" (.object [("low", .number (.int 3))]) busanMembers)) =
        some { o with marginOfError := none } ∧
      ofJson? (.object (setMember "source_channels"
          (.array [.array [.null, .string "article"], .null, .string "nesdc"]) busanMembers)) =
        some { o with sourceChannels := ["nesdc"] } := by
  obtain ⟨o, ho⟩ := Option.isSome_iff_exists.mp
    (show (ofJson? (.object busanMembers)).isSome = true by decide +kernel)
  refine ⟨o, ho, ?_, ?_⟩
  · exact ofJson?_setMember ho .marginOfError (by decide) (by decide) _
  · exact ofJson?_setMember ho .sourceChannels (by decide) (by decide) _

end Observation

end PollAtlas.Poll
