import Mathlib.Data.List.Nodup
import PollAtlas.Json.Record

/-!
# Records given by name

An object that has a member for each field of a record, under the fields' own names, is read as
these members. No spelling of one field may be the name of another; then each value is found
under its name.

A member more is a value more in the record, as long as its field was not given before. A member
that is set changes the value of its field and of no other one.

* `Record.read?_of_names`: the record of such an object.
* `Record.value?_of_mem`: the value of a member.
* `Record.read?_insert`: the record of an object with a member more.
* `Record.read?_setMember`: the record of an object with a member set.
-/

namespace PollAtlas.Json

/-- Every name in the list belongs to a field, and no other spelling comes before it. -/
def Named (fields : List Field) : Prop :=
  ∀ name ∈ fields.map Field.name,
    (fields.find? fun field => field.name == name || field.aliases.contains name).map Field.name =
      some name

instance (fields : List Field) : Decidable (Named fields) :=
  inferInstanceAs (Decidable (∀ name ∈ fields.map Field.name, _))

/-- The names that members may give a field. -/
def Field.spellings (field : Field) : List String := field.name :: field.aliases

/-- The members with one name set to a value: in the place of the first member with that name, or
behind them all. -/
def setMember (name : String) (x : Json) : List (String × Json) → List (String × Json)
  | [] => [(name, x)]
  | member :: rest =>
    if member.1 = name then (name, x) :: rest else member :: setMember name x rest

theorem setMember_cases (name : String) (x : Json) (members : List (String × Json)) :
    (name ∉ members.map Prod.fst ∧ setMember name x members = members ++ [(name, x)]) ∨
      ∃ before y after, members = before ++ (name, y) :: after ∧
        setMember name x members = before ++ (name, x) :: after := by
  induction members with
  | nil => exact Or.inl ⟨List.not_mem_nil, rfl⟩
  | cons member rest ih =>
    by_cases hname : member.1 = name
    · refine Or.inr ⟨[], member.2, rest, ?_, ?_⟩
      · rw [← hname, List.nil_append]
      · rw [setMember, if_pos hname, List.nil_append]
    · rw [setMember, if_neg hname]
      rcases ih with ⟨habsent, hset⟩ | ⟨before, y, after, hrest, hset⟩
      · refine Or.inl ⟨?_, by rw [hset, List.cons_append]⟩
        simp only [List.map_cons, List.mem_cons, not_or]
        exact ⟨Ne.symm hname, habsent⟩
      · exact Or.inr ⟨member :: before, y, after, by rw [hrest, List.cons_append],
          by rw [hset, List.cons_append]⟩

namespace Record

variable {α : Type}

theorem known_of_names {fields : List Field} {members : List (String × α)} (hfields : Named fields)
    (hnames : members.map Prod.fst = fields.map Field.name) : known fields members = members := by
  have hkept : ∀ member ∈ members,
      ((fields.find? fun field => field.name == member.1 || field.aliases.contains member.1).map
        fun field => (field.name, member.2)) = some member := fun member hmember => by
    have hname : member.1 ∈ fields.map Field.name := hnames ▸ List.mem_map_of_mem hmember
    obtain ⟨field, hfield, heq⟩ := Option.map_eq_some_iff.mp (hfields member.1 hname)
    rw [hfield, Option.map_some, heq]
  calc known fields members = members.filterMap some := List.filterMap_congr hkept
    _ = members := List.filterMap_some

theorem read?_of_names {fields : List Field} {members : List (String × Json)}
    (hfields : Named fields) (hnodup : (fields.map Field.name).Nodup)
    (hnames : members.map Prod.fst = fields.map Field.name) :
    read? fields (.object members) = some ⟨members, true⟩ := by
  have hmembers : (members.map Prod.fst).Nodup := hnames ▸ hnodup
  show ofMembers? fields members = some ⟨members, true⟩
  rw [ofMembers?, known_of_names hfields hnames, if_pos hmembers]

theorem value?_of_mem {members : List (String × α)} (hnodup : (members.map Prod.fst).Nodup)
    {name : String} {x : α} (hmem : (name, x) ∈ members) (byName : Bool) :
    (⟨members, byName⟩ : Record α).value? name = some x := by
  rw [value?]
  induction members with
  | nil => cases hmem
  | cons member members ih =>
    obtain ⟨hname, hnodup⟩ := List.nodup_cons.mp hnodup
    rcases List.mem_cons.mp hmem with rfl | hmem
    · exact List.lookup_cons_self
    · have hne : name ≠ member.1 := fun heq => hname (heq ▸ List.mem_map_of_mem hmem)
      rw [List.lookup_cons, beq_false_of_ne hne]
      exact ih hnodup hmem

/-! ## A member more -/

/-- A record with the value of one more field. -/
structure Adds (record : Record α) (name : String) (x : α) (larger : Record α) : Prop where
  absent : record.value? name = none
  value?_eq : ∀ other, larger.value? other = if other = name then some x else record.value? other

theorem Adds.value?_cases {record larger : Record α} {name : String} {x : α}
    (h : record.Adds name x larger) (other : String) :
    larger.value? other = record.value? other ∨
      record.value? other = none ∧ larger.value? other = some x := by
  rw [h.value?_eq]
  by_cases hother : other = name
  · exact Or.inr ⟨hother ▸ h.absent, if_pos hother⟩
  · exact Or.inl (if_neg hother)

theorem mem_of_lookup {values : List (String × α)} {name : String} {x : α}
    (h : values.lookup name = some x) : (name, x) ∈ values := by
  obtain ⟨before, after, rfl, _⟩ := List.lookup_eq_some_iff.mp h
  exact List.mem_append_right before List.mem_cons_self

theorem lookup_eq_none {values : List (String × α)} {name : String}
    (h : name ∉ values.map Prod.fst) : values.lookup name = none := by
  rw [Option.eq_none_iff_forall_ne_some]
  intro x hx
  exact h (List.mem_map.mpr ⟨_, mem_of_lookup hx, rfl⟩)

theorem adds_insert {before after : List (String × α)} {name : String} (x : α)
    (habsent : name ∉ (before ++ after).map Prod.fst) (byName : Bool) :
    Adds ⟨before ++ after, byName⟩ name x ⟨before ++ (name, x) :: after, byName⟩ := by
  refine ⟨lookup_eq_none habsent, ?_⟩
  intro other
  rw [value?, value?, List.lookup_append, List.lookup_append, List.lookup_cons]
  by_cases hother : other = name
  · subst hother
    have hbefore : before.lookup other = none := by
      apply lookup_eq_none
      intro hmem
      rw [List.map_append] at habsent
      exact habsent (List.mem_append_left _ hmem)
    rw [hbefore, beq_self_eq_true, if_pos rfl]
    rfl
  · rw [beq_false_of_ne hother, if_neg hother]

/-- A member with this spelling is one of the field with this name. -/
def Spells (fields : List Field) (spelling name : String) : Prop :=
  (fields.find? fun field => field.name == spelling || field.aliases.contains spelling).map
    Field.name = some name

instance (fields : List Field) (spelling name : String) : Decidable (Spells fields spelling name) :=
  inferInstanceAs (Decidable (_ = _))

theorem known_cons {fields : List Field} {spelling name : String}
    (h : Spells fields spelling name) (x : α) (members : List (String × α)) :
    known fields ((spelling, x) :: members) = (name, x) :: known fields members := by
  obtain ⟨field, hfield, rfl⟩ := Option.map_eq_some_iff.mp h
  rw [known, List.filterMap_cons]
  dsimp only
  rw [hfield]
  rfl

theorem known_append (fields : List Field) (members others : List (String × α)) :
    known fields (members ++ others) = known fields members ++ known fields others :=
  List.filterMap_append

/-- A field is not given if none of its spellings is. -/
theorem not_mem_known {fields : List Field} {field : Field} {members : List (String × α)}
    (hnodup : (fields.map Field.name).Nodup) (hfield : field ∈ fields)
    (hfresh : ∀ member ∈ members, member.1 ∉ field.spellings) :
    field.name ∉ (known fields members).map Prod.fst := by
  intro hmem
  obtain ⟨entry, hentry, hname⟩ := List.mem_map.mp hmem
  obtain ⟨⟨spelling, x⟩, hmember, hknown⟩ := List.mem_filterMap.mp hentry
  obtain ⟨other, hother, rfl⟩ := Option.map_eq_some_iff.mp hknown
  have hspelled := List.find?_some hother
  obtain rfl := List.inj_on_of_nodup_map hnodup (List.mem_of_find?_eq_some hother) hfield hname
  rw [Bool.or_eq_true, beq_iff_eq, List.contains_iff_mem] at hspelled
  exact hfresh _ hmember (List.mem_cons.mpr (hspelled.imp Eq.symm id))

/-- An object with a member more is read if it was before, and then as a value more. -/
theorem read?_insert {fields : List Field} {field : Field} {spelling : String}
    {before after : List (String × Json)} (hnodup : (fields.map Field.name).Nodup)
    (hfield : field ∈ fields) (hspelling : Spells fields spelling field.name)
    (hfresh : ∀ member ∈ before ++ after, member.1 ∉ field.spellings) (x : Json) :
    (read? fields (Json.object (before ++ after)) = none ∧
      read? fields (Json.object (before ++ (spelling, x) :: after)) = none) ∨
    ∃ record larger, read? fields (Json.object (before ++ after)) = some record ∧
      read? fields (Json.object (before ++ (spelling, x) :: after)) = some larger ∧
      record.Adds field.name x larger := by
  have habsent := not_mem_known hnodup hfield hfresh
  rw [known_append] at habsent
  have hkeys :
      ((known fields before ++ (field.name, x) :: known fields after).map Prod.fst).Nodup ↔
        ((known fields before ++ known fields after).map Prod.fst).Nodup := by
    rw [List.map_append, List.map_cons, List.nodup_middle, ← List.map_append, List.nodup_cons]
    exact and_iff_right habsent
  show (ofMembers? fields _ = none ∧ ofMembers? fields _ = none) ∨
    ∃ record larger, ofMembers? fields _ = some record ∧ ofMembers? fields _ = some larger ∧ _
  simp only [ofMembers?, known_append, known_cons hspelling, hkeys]
  by_cases hdistinct : ((known fields before ++ known fields after).map Prod.fst).Nodup
  · rw [if_pos hdistinct, if_pos hdistinct]
    exact Or.inr ⟨_, _, rfl, rfl, adds_insert x habsent true⟩
  · rw [if_neg hdistinct, if_neg hdistinct]
    exact Or.inl ⟨rfl, rfl⟩

/-! ## A member set -/

theorem mem_known {fields : List Field} {spelling name : String}
    (h : Spells fields spelling name) {members : List (String × α)}
    (hmem : spelling ∈ members.map Prod.fst) : name ∈ (known fields members).map Prod.fst := by
  obtain ⟨⟨_, x⟩, hmember, rfl⟩ := List.mem_map.mp hmem
  obtain ⟨before, after, rfl⟩ := List.append_of_mem hmember
  rw [known_append, known_cons h]
  simp

/-- An object that is read gives no field twice, also not under one spelling. -/
theorem not_mem_of_read? {fields : List Field} {spelling name : String}
    (hspelling : Spells fields spelling name) {before after : List (String × Json)} {y : Json}
    {record : Record Json}
    (hread : read? fields (Json.object (before ++ (spelling, y) :: after)) = some record) :
    spelling ∉ (before ++ after).map Prod.fst := by
  intro hmem
  have htwice := mem_known hspelling hmem
  rw [known_append] at htwice
  change ofMembers? fields _ = some record at hread
  rw [ofMembers?, known_append, known_cons hspelling] at hread
  split at hread
  · rename_i hdistinct
    rw [List.map_append, List.map_cons, List.nodup_middle, ← List.map_append,
      List.nodup_cons] at hdistinct
    exact hdistinct.1 htwice
  · cases hread

section

variable {fields : List Field} {field : Field} {spelling : String} {record : Record Json}

theorem exists_adds_of_read? {before after : List (String × Json)}
    (hnodup : (fields.map Field.name).Nodup) (hfield : field ∈ fields)
    (hspelling : Spells fields spelling field.name)
    (hfresh : ∀ member ∈ before ++ after, member.1 ∉ field.spellings)
    (hread : read? fields (Json.object (before ++ after)) = some record) (x : Json) :
    ∃ larger, read? fields (Json.object (before ++ (spelling, x) :: after)) = some larger ∧
      record.Adds field.name x larger := by
  rcases read?_insert hnodup hfield hspelling hfresh x with
    ⟨hnone, _⟩ | ⟨small, larger, hsmall, hlarger, hadds⟩
  · rw [hread] at hnone
    cases hnone
  · rw [hread] at hsmall
    cases hsmall
    exact ⟨larger, hlarger, hadds⟩

/-- Both objects are the one without the member, with a member more. -/
theorem exists_replaced_of_read? {before after : List (String × Json)} {y : Json}
    (hnodup : (fields.map Field.name).Nodup) (hfield : field ∈ fields)
    (hspelling : Spells fields spelling field.name)
    (hfresh : ∀ member ∈ before ++ after, member.1 ∉ field.spellings)
    (hread : read? fields (Json.object (before ++ (spelling, y) :: after)) = some record)
    (x : Json) :
    ∃ changed, read? fields (Json.object (before ++ (spelling, x) :: after)) = some changed ∧
      ∀ other, changed.value? other =
        if other = field.name then some x else record.value? other := by
  rcases read?_insert hnodup hfield hspelling hfresh y with
    ⟨_, hnone⟩ | ⟨small, larger, hsmall, hlarger, hadds⟩
  · rw [hread] at hnone
    cases hnone
  · rw [hread] at hlarger
    cases hlarger
    obtain ⟨changed, hchanged, hadds'⟩ :=
      exists_adds_of_read? hnodup hfield hspelling hfresh hsmall x
    refine ⟨changed, hchanged, ?_⟩
    intro other
    rw [hadds'.value?_eq, hadds.value?_eq]
    by_cases hother : other = field.name
    · rw [if_pos hother, if_pos hother]
    · rw [if_neg hother, if_neg hother, if_neg hother]

/-- An object that is read is read with a member set as well, and only the field of that member
has another value. No other spelling of the field may be among the members. -/
theorem read?_setMember {members : List (String × Json)}
    (hnodup : (fields.map Field.name).Nodup) (hfield : field ∈ fields)
    (hspelling : Spells fields spelling field.name)
    (halone : ∀ member ∈ members, member.1 ∈ field.spellings → member.1 = spelling)
    (hread : read? fields (Json.object members) = some record) (x : Json) :
    ∃ changed, read? fields (Json.object (setMember spelling x members)) = some changed ∧
      ∀ other, changed.value? other =
        if other = field.name then some x else record.value? other := by
  rcases setMember_cases spelling x members with
    ⟨habsent, hset⟩ | ⟨before, y, after, rfl, hset⟩
  · have hfresh : ∀ member ∈ members ++ [], member.1 ∉ field.spellings := by
      intro member hmember hmem
      rw [List.append_nil] at hmember
      exact habsent (halone member hmember hmem ▸ List.mem_map_of_mem hmember)
    rw [← List.append_nil members] at hread
    obtain ⟨changed, hchanged, hadds⟩ :=
      exists_adds_of_read? hnodup hfield hspelling hfresh hread x
    exact ⟨changed, hset ▸ hchanged, hadds.value?_eq⟩
  · have honce := not_mem_of_read? hspelling hread
    have hsub : before ++ after ⊆ before ++ (spelling, y) :: after :=
      ((List.sublist_cons_self _ after).append_left before).subset
    have hfresh : ∀ member ∈ before ++ after, member.1 ∉ field.spellings := by
      intro member hmember hmem
      exact honce (halone member (hsub hmember) hmem ▸ List.mem_map_of_mem hmember)
    rw [hset]
    exact exists_replaced_of_read? hnodup hfield hspelling hfresh hread x

end

end Record

/-! ## Optional texts -/

theorem nullable?_ofOption (text : Option String) :
    nullable? string? (ofOption text) = some text := by
  cases text with
  | none => rfl
  | some s => rfl

end PollAtlas.Json
