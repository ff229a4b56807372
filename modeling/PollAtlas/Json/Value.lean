import PollAtlas.Number.Text

/-!
# JSON values

A value as records are read from it and written to it. An object is a list of members in
the order of the text; a name may be repeated until the value is settled.

* `Json.settled`: of members with one name the last one is kept, at every depth.
* `Json.keepLast_of_nodup`: members with distinct names are all kept.
-/

namespace PollAtlas

/-- A number written without a point and an exponent is an integer as long as it fits in
64 bits, and a double otherwise. -/
inductive Json.Number where
  | int (n : Int)
  | double (x : Double)
  deriving DecidableEq

/-- A JSON value. -/
inductive Json where
  | null
  | bool (b : Bool)
  | number (x : Json.Number)
  | string (s : String)
  | array (items : List Json)
  | object (members : List (String × Json))

namespace Json

instance : Inhabited Json := ⟨null⟩

/-- The nearest double to a number. -/
def Number.toDouble : Number → Double
  | int n => .ofInt n
  | double x => x

/-- The value of an optional text. -/
def ofOption : Option String → Json
  | none => null
  | some s => string s

/-- The integer of a count. -/
def ofNat (n : Nat) : Json := number (.int n)

/-- The number of a double. -/
def ofDouble (x : Double) : Json := number (.double x)

/-! ## Repeated names -/

/-- Drops each member whose name occurs again later on. -/
def keepLast {α : Type} : List (String × α) → List (String × α)
  | [] => []
  | (name, value) :: rest =>
    if rest.any (fun later => later.1 == name) then keepLast rest
    else (name, value) :: keepLast rest

theorem keepLast_of_nodup {α : Type} {members : List (String × α)}
    (h : (members.map Prod.fst).Nodup) : keepLast members = members := by
  induction members with
  | nil => rfl
  | cons member rest ih =>
    obtain ⟨name, value⟩ := member
    simp only [List.map_cons, List.nodup_cons, List.mem_map, not_exists, not_and] at h
    have hany : rest.any (fun later => later.1 == name) = false := by
      rw [List.any_eq_false]
      intro later hlater
      simpa using h.1 later hlater
    simp [keepLast, hany, ih h.2]

mutual

/-- Keeps the last of the members with one name, at every depth. -/
def settled : Json → Json
  | null => null
  | bool b => bool b
  | number x => number x
  | string s => string s
  | array items => array (settledItems items)
  | object members => object (keepLast (settledMembers members))

def settledItems : List Json → List Json
  | [] => []
  | item :: rest => settled item :: settledItems rest

def settledMembers : List (String × Json) → List (String × Json)
  | [] => []
  | (name, value) :: rest => (name, settled value) :: settledMembers rest

end

/-! ## Depth -/

mutual

/-- The number of containers inside one another. -/
def depth : Json → Nat
  | null => 0
  | bool _ => 0
  | number _ => 0
  | string _ => 0
  | array items => itemsDepth items + 1
  | object members => membersDepth members + 1

def itemsDepth : List Json → Nat
  | [] => 0
  | item :: rest => max (depth item) (itemsDepth rest)

def membersDepth : List (String × Json) → Nat
  | [] => 0
  | (_, value) :: rest => max (depth value) (membersDepth rest)

end

/-! ## Members -/

/-- The value of the first member with a name. -/
def get? (name : String) (members : List (String × Json)) : Option Json :=
  (members.find? fun member => member.1 == name).map Prod.snd

end Json

end PollAtlas
