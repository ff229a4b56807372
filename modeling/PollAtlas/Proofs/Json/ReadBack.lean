import PollAtlas.Proofs.Json.Lexing

/-!
# Values that are read back

What is written for a value is read as the same value, as long as it is not nested too deeply and
its numbers are read back: the text is cut into tokens, the tokens build the written form, and the
written form has the value. Names are distinct at every depth, so none is dropped when repeated
names are settled.

* `IsKept.isValued`: the value of a written form.
* `IsKept.read?_compact`: the value of a written text.
* `Number.isKept_of_read?`: a double whose own text is read back is read back wherever it is.
* `KeptWithin`: values put together so that their depth stays bounded.
-/

namespace PollAtlas.Json

/-! ## Texts -/

theorem characters?_unit {code : Nat} (hcode : code < 32) {pieces : List Piece} {cs : List Char}
    (h : Document.characters? pieces = some cs) :
    Document.characters? (.unit code :: pieces) = some (Char.ofNat code :: cs) := by
  have hlone : Document.loneUnit? code = some (Char.ofNat code) := if_neg (by omega)
  have hpaired : ∀ low, Document.pairedUnits? code low = none := fun low => if_neg (by omega)
  cases pieces with
  | nil =>
    rw [Document.characters?, hlone, h]
    · rfl
    · exact nofun
  | cons piece pieces =>
    cases piece with
    | char c =>
      rw [Document.characters?, hlone, h]
      · rfl
      · exact nofun
    | unit low =>
      rw [Document.characters?, hpaired, hlone]
      simp only [h]
      rfl

theorem characters?_map_pieceOf (cs : List Char) :
    Document.characters? (cs.map pieceOf) = some cs := by
  induction cs with
  | nil => rfl
  | cons c cs ih =>
    rw [List.map_cons, pieceOf]
    split
    · rename_i hcontrol
      have hcode : c.toNat < 32 := hcontrol.1
      rw [characters?_unit hcode ih, Char.ofNat_toNat]
    · rw [Document.characters?, ih]
      rfl

theorem string?_piecesOf (s : String) : Document.string? (piecesOf s) = some s := by
  rw [Document.string?, piecesOf, characters?_map_pieceOf, Option.map_some, String.ofList_toList]

/-! ## Values -/

/-- The written form of a value has that value, as long as it may be nested so deeply. -/
def IsValued (value : Json) : Prop :=
  ∀ {depth : Nat}, value.depth ≤ depth → value.document.valueWithin? depth = some value

theorem itemsWithin?_itemDocuments {items : List Json} (hitems : ∀ item ∈ items, IsValued item)
    {depth : Nat} (hdepth : itemsDepth items ≤ depth) :
    Document.itemsWithin? depth (itemDocuments items) = some items := by
  induction items with
  | nil => rfl
  | cons item items ih =>
    obtain ⟨hitem, hitems⟩ := List.forall_mem_cons.mp hitems
    rw [itemsDepth] at hdepth
    rw [itemDocuments, Document.itemsWithin?, hitem (by omega), ih hitems (by omega)]
    rfl

theorem membersWithin?_memberDocuments {members : List (String × Json)}
    (hmembers : ∀ member ∈ members, IsValued member.2) {depth : Nat}
    (hdepth : membersDepth members ≤ depth) :
    Document.membersWithin? depth (memberDocuments members) = some members := by
  induction members with
  | nil => rfl
  | cons member members ih =>
    obtain ⟨name, value⟩ := member
    obtain ⟨hmember, hmembers⟩ := List.forall_mem_cons.mp hmembers
    have hvalue : IsValued value := hmember
    rw [membersDepth] at hdepth
    rw [memberDocuments, Document.membersWithin?, string?_piecesOf, hvalue (by omega),
      ih hmembers (by omega)]
    rfl

theorem IsKept.isValued {value : Json} (h : IsKept value) : IsValued value := by
  induction h with
  | null => exact fun _ => rfl
  | bool b => exact fun _ => rfl
  | number hx =>
    intro depth hdepth
    rw [document, Document.valueWithin?, hx.ofNumeral?_eq, Option.map_some]
  | string s =>
    intro depth hdepth
    rw [document, Document.valueWithin?, string?_piecesOf, Option.map_some]
  | @array items hitems ih =>
    intro depth hdepth
    rw [Json.depth] at hdepth
    cases depth with
    | zero => omega
    | succ depth =>
      rw [document, Document.valueWithin?, itemsWithin?_itemDocuments ih (by omega)]
      rfl
  | @object members hnodup hmembers ih =>
    intro depth hdepth
    rw [Json.depth] at hdepth
    cases depth with
    | zero => omega
    | succ depth =>
      rw [document, Document.valueWithin?, membersWithin?_memberDocuments ih (by omega)]
      rfl

/-! ## Repeated names -/

theorem settledItems_eq {items : List Json} (h : ∀ item ∈ items, settled item = item) :
    settledItems items = items := by
  induction items with
  | nil => rfl
  | cons item items ih =>
    obtain ⟨hitem, hitems⟩ := List.forall_mem_cons.mp h
    rw [settledItems, hitem, ih hitems]

theorem settledMembers_eq {members : List (String × Json)}
    (h : ∀ member ∈ members, settled member.2 = member.2) : settledMembers members = members := by
  induction members with
  | nil => rfl
  | cons member members ih =>
    obtain ⟨name, value⟩ := member
    obtain ⟨hmember, hmembers⟩ := List.forall_mem_cons.mp h
    rw [settledMembers, hmember, ih hmembers]

theorem IsKept.settled_eq {value : Json} (h : IsKept value) : settled value = value := by
  induction h with
  | null => rfl
  | bool b => rfl
  | number hx => rfl
  | string s => rfl
  | array hitems ih => rw [settled, settledItems_eq ih]
  | object hnodup hmembers ih => rw [settled, settledMembers_eq ih, keepLast_of_nodup hnodup]

/-! ## Texts of values -/

theorem parse?_compact {value : Json} (h : IsLexed value) :
    Document.parse? (compact value) = some value.document := by
  rw [Document.parse?, compact, String.toList_ofList, tokens?_compactText h, Option.bind_some,
    Document.ofTokens?_tokens]

/-- A value that is written is read back. -/
theorem IsKept.read?_compact {value : Json} (h : IsKept value)
    (hdepth : value.depth ≤ Document.depthLimit) : read? (compact value) = some value := by
  have hvalue : Document.value? value.document = some value := h.isValued hdepth
  rw [read?, readUnsettled?, parse?_compact h.isLexed, Option.bind_some, hvalue, Option.map_some,
    h.settled_eq]

/-- A double is kept if it is read back by itself. -/
theorem Number.isKept_of_read? {x : Double} (hfinite : x.isFinite = true)
    (h : read? (compact (.ofDouble x)) = some (.ofDouble x)) : (double x).IsKept := by
  have hproper : (double x).IsProper := hfinite
  refine ⟨hfinite, ?_⟩
  rw [read?, readUnsettled?, ofDouble, parse?_compact (isLexed_number hproper),
    Option.bind_some] at h
  obtain ⟨value, hvalue, hsettled⟩ := Option.map_eq_some_iff.mp h
  obtain ⟨y, hread, rfl⟩ := Option.map_eq_some_iff.mp hvalue
  cases hsettled
  exact hread

/-! ## Values of bounded depth -/

/-- A value that is read back, with no more containers inside one another than this. -/
structure KeptWithin (limit : Nat) (value : Json) : Prop where
  isKept : IsKept value
  depth_le : value.depth ≤ limit

namespace KeptWithin

variable {limit : Nat}

theorem mono {value : Json} (h : KeptWithin limit value) {larger : Nat} (hle : limit ≤ larger) :
    KeptWithin larger value :=
  ⟨h.isKept, Nat.le_trans h.depth_le hle⟩

@[simp] theorem bool (b : Bool) : KeptWithin limit (.bool b) := ⟨.bool b, Nat.zero_le limit⟩

@[simp] theorem ofOption (text : Option String) : KeptWithin limit (Json.ofOption text) := by
  cases text with
  | none => exact ⟨.null, Nat.zero_le limit⟩
  | some s => exact ⟨.string s, Nat.zero_le limit⟩

@[simp] theorem string (s : String) : KeptWithin limit (.string s) := ⟨.string s, Nat.zero_le limit⟩

theorem ofDouble {x : Double} (h : (Number.double x).IsKept) :
    KeptWithin limit (Json.ofDouble x) :=
  ⟨.number h, Nat.zero_le limit⟩

theorem array {items : List Json} (h : ∀ item ∈ items, KeptWithin limit item) :
    KeptWithin (limit + 1) (.array items) := by
  have hdepth : itemsDepth items ≤ limit := by
    induction items with
    | nil => exact Nat.zero_le limit
    | cons item items ih =>
      obtain ⟨hitem, hitems⟩ := List.forall_mem_cons.mp h
      exact Nat.max_le.mpr ⟨hitem.depth_le, ih hitems⟩
  exact ⟨.array fun item hitem => (h item hitem).isKept, Nat.succ_le_succ hdepth⟩

theorem object {members : List (String × Json)} (hnodup : (members.map Prod.fst).Nodup)
    (h : ∀ member ∈ members, KeptWithin limit member.2) :
    KeptWithin (limit + 1) (.object members) := by
  have hdepth : membersDepth members ≤ limit := by
    clear hnodup
    induction members with
    | nil => exact Nat.zero_le limit
    | cons member members ih =>
      obtain ⟨hmember, hmembers⟩ := List.forall_mem_cons.mp h
      exact Nat.max_le.mpr ⟨hmember.depth_le, ih hmembers⟩
  exact ⟨.object hnodup fun member hmember => (h member hmember).isKept,
    Nat.succ_le_succ hdepth⟩

theorem read?_compact {value : Json} (h : KeptWithin limit value)
    (hlimit : limit ≤ Document.depthLimit) : read? (compact value) = some value :=
  h.isKept.read?_compact (Nat.le_trans h.depth_le hlimit)

end KeptWithin

end PollAtlas.Json
