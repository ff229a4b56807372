import PollAtlas.Proofs.Json.ByName

/-!
# Sparse objects

What is sent for a record need not have all its members. Some values may be omitted: the member is
left out, or its value is `null`. Members that are no field may be there besides, and the order
of the members is free.

* `Sparse`: the members that are left of all members of a record, in their order.
* `Sparse.read?_eq_some`: a sparse object is read, and the record gives every value that it has
  to give (`Record.Gives`).
-/

namespace PollAtlas.Json

/-- From all members of a record, some that may be omitted are left out or `null`, and members
that are no field are added. -/
inductive Sparse (fields : List Field) (omits : String → Json → Prop) :
    List (String × Json) → List (String × Json) → Prop
  | nil : Sparse fields omits [] []
  | keep {name : String} {x : Json} {full part : List (String × Json)}
      (rest : Sparse fields omits full part) :
      Sparse fields omits ((name, x) :: full) ((name, x) :: part)
  | leaveOut {name : String} {x : Json} {full part : List (String × Json)} (may : omits name x)
      (rest : Sparse fields omits full part) : Sparse fields omits ((name, x) :: full) part
  | setNull {name : String} {x : Json} {full part : List (String × Json)} (may : omits name x)
      (rest : Sparse fields omits full part) :
      Sparse fields omits ((name, x) :: full) ((name, .null) :: part)
  | other {name : String} {x : Json} {full part : List (String × Json)}
      (unknown : ∀ field ∈ fields, name ∉ field.spellings)
      (rest : Sparse fields omits full part) : Sparse fields omits full ((name, x) :: part)

namespace Record

variable {α : Type} {fields : List Field} {members : List (String × α)} {name : String}

theorem known_cons_of_unknown (hname : ∀ field ∈ fields, name ∉ field.spellings) (x : α) :
    known fields ((name, x) :: members) = known fields members := by
  have hnone : (fields.find? fun field => field.name == name || field.aliases.contains name) =
      none := by
    rw [List.find?_eq_none]
    intro field hfield hspelled
    rw [Bool.or_eq_true, beq_iff_eq, List.contains_iff_mem] at hspelled
    exact hname field hfield (List.mem_cons.mpr (hspelled.imp Eq.symm id))
  rw [known, List.filterMap_cons]
  dsimp only
  rw [hnone]
  rfl

/-- A record has this value for a field, or does without it. -/
def Gives (omits : String → Json → Prop) (record : Record Json) (name : String) (x : Json) :
    Prop :=
  record.value? name = some x ∨
    omits name x ∧ (record.value? name = none ∨ record.value? name = some .null)

theorem gives_congr {omits : String → Json → Prop} {record other : Record Json} {name : String}
    {x : Json} (h : other.value? name = record.value? name) :
    other.Gives omits name x ↔ record.Gives omits name x := by
  unfold Gives
  rw [h]

theorem value?_cons_of_ne {first name : String} (hne : name ≠ first) (x : α)
    (values : List (String × α)) (byName : Bool) :
    (⟨(first, x) :: values, byName⟩ : Record α).value? name =
      (⟨values, byName⟩ : Record α).value? name := by
  rw [value?, List.lookup_cons, beq_false_of_ne hne]
  rfl

/-- The order of the members does not matter. -/
theorem value?_perm {values others : List (String × α)} (hperm : others.Perm values)
    (hnodup : (values.map Prod.fst).Nodup) (name : String) (byName : Bool) :
    (⟨others, byName⟩ : Record α).value? name = (⟨values, byName⟩ : Record α).value? name := by
  have hothers : (others.map Prod.fst).Nodup := (hperm.map Prod.fst).nodup_iff.mpr hnodup
  cases hvalue : (⟨values, byName⟩ : Record α).value? name with
  | some x => exact value?_of_mem hothers (hperm.mem_iff.mpr (mem_of_lookup hvalue)) byName
  | none =>
    rw [Option.eq_none_iff_forall_ne_some]
    intro x hx
    have hsome := value?_of_mem hnodup (hperm.mem_iff.mp (mem_of_lookup hx)) byName
    rw [hvalue] at hsome
    cases hsome

end Record

namespace Sparse

open Record (known)

variable {fields : List Field} {omits : String → Json → Prop} {full part : List (String × Json)}

theorem refl (full : List (String × Json)) : Sparse fields omits full full := by
  induction full with
  | nil => exact .nil
  | cons member full ih => exact .keep ih

theorem keys_sublist (hfields : Named fields) (h : Sparse fields omits full part)
    (hnames : ∀ member ∈ full, member.1 ∈ fields.map Field.name) :
    ((known fields part).map Prod.fst).Sublist (full.map Prod.fst) := by
  induction h with
  | nil => exact List.Sublist.refl _
  | keep rest ih =>
    obtain ⟨hname, hnames⟩ := List.forall_mem_cons.mp hnames
    rw [Record.known_cons (hfields _ hname)]
    exact (ih hnames).cons_cons _
  | leaveOut may rest ih =>
    exact (ih (List.forall_mem_cons.mp hnames).2).cons _
  | setNull may rest ih =>
    obtain ⟨hname, hnames⟩ := List.forall_mem_cons.mp hnames
    rw [Record.known_cons (hfields _ hname)]
    exact (ih hnames).cons_cons _
  | other unknown rest ih =>
    rw [Record.known_cons_of_unknown unknown]
    exact ih hnames

/-- Every value is still given. A member that was left out is not given by another one, since
the names are distinct. -/
theorem gives_of_mem (hfields : Named fields) (h : Sparse fields omits full part)
    (hnames : ∀ member ∈ full, member.1 ∈ fields.map Field.name)
    (hnodup : (full.map Prod.fst).Nodup) {name : String} {x : Json} (hmem : (name, x) ∈ full) :
    (⟨known fields part, true⟩ : Record Json).Gives omits name x := by
  have hne : ∀ {first : String} {full : List (String × Json)},
      first ∉ full.map Prod.fst → (name, x) ∈ full → name ≠ first :=
    fun hfresh hmem heq => hfresh (heq ▸ List.mem_map.mpr ⟨_, hmem, rfl⟩)
  induction h with
  | nil => cases hmem
  | keep rest ih =>
    obtain ⟨hfirst, hnames⟩ := List.forall_mem_cons.mp hnames
    obtain ⟨hfresh, hnodup⟩ := List.nodup_cons.mp hnodup
    rw [Record.known_cons (hfields _ hfirst)]
    rcases List.mem_cons.mp hmem with heq | hmem
    · cases heq
      exact Or.inl List.lookup_cons_self
    · rw [Record.gives_congr (Record.value?_cons_of_ne (hne hfresh hmem) _ _ _)]
      exact ih hnames hnodup hmem
  | leaveOut may rest ih =>
    obtain ⟨_, hnames⟩ := List.forall_mem_cons.mp hnames
    obtain ⟨hfresh, hnodup⟩ := List.nodup_cons.mp hnodup
    have hgone := mt (keys_sublist hfields rest hnames).mem hfresh
    rcases List.mem_cons.mp hmem with heq | hmem
    · cases heq
      exact Or.inr ⟨may, Or.inl (Record.lookup_eq_none hgone)⟩
    · exact ih hnames hnodup hmem
  | setNull may rest ih =>
    obtain ⟨hfirst, hnames⟩ := List.forall_mem_cons.mp hnames
    obtain ⟨hfresh, hnodup⟩ := List.nodup_cons.mp hnodup
    rw [Record.known_cons (hfields _ hfirst)]
    rcases List.mem_cons.mp hmem with heq | hmem
    · cases heq
      exact Or.inr ⟨may, Or.inr List.lookup_cons_self⟩
    · rw [Record.gives_congr (Record.value?_cons_of_ne (hne hfresh hmem) _ _ _)]
      exact ih hnames hnodup hmem
  | other unknown rest ih =>
    rw [Record.known_cons_of_unknown unknown]
    exact ih hnames hnodup hmem

theorem read?_eq_some {members : List (String × Json)} (hfields : Named fields)
    (hnodup : (fields.map Field.name).Nodup) (hfull : full.map Prod.fst = fields.map Field.name)
    (h : Sparse fields omits full part) (hperm : members.Perm part) :
    ∃ record, Record.read? fields (Json.object members) = some record ∧
      ∀ name x, (name, x) ∈ full → record.Gives omits name x := by
  have hnames : ∀ member ∈ full, member.1 ∈ fields.map Field.name :=
    fun member hmember => hfull ▸ List.mem_map_of_mem hmember
  have hkeys : (full.map Prod.fst).Nodup := hfull ▸ hnodup
  have hpart : ((known fields part).map Prod.fst).Nodup :=
    (keys_sublist hfields h hnames).nodup hkeys
  have hknown : (known fields members).Perm (known fields part) := hperm.filterMap _
  have hmembers : ((known fields members).map Prod.fst).Nodup :=
    (hknown.map Prod.fst).nodup_iff.mpr hpart
  refine ⟨⟨known fields members, true⟩, if_pos hmembers, ?_⟩
  intro name x hmem
  rw [Record.gives_congr (Record.value?_perm hknown hpart name true)]
  exact gives_of_mem hfields h hnames hkeys hmem

end Sparse

end PollAtlas.Json
