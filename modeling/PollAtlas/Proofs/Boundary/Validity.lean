import Mathlib.Data.Set.List
import PollAtlas.Boundary.GeoJson
import PollAtlas.Proofs.Outcome

/-!
# Valid boundary documents

What makes a value a position, a geometry or a feature is said here of the value and not of its
reader. A reader has a result exactly for the valid values, and the result is what the value stands
for: polygons, rings and positions in order, and of a position the first two numbers.

* `IsPosition`, `IsListOf`: coordinates.
* `IsGeometry`, `IsFeature`: the seven types of geometries, and features.
* `positionOf_eq_ok_iff`, `geometryOf_eq_ok_iff`, `featureOf_eq_ok_iff`: their readers.
-/

namespace PollAtlas.Boundary

/-! ## Coordinates -/

/-- At least two numbers, of which the first two make the point. -/
inductive IsPosition : Json → LonLat Double → Prop where
  | mk (lon lat : Json.Number) (others : List Json.Number) :
      IsPosition (.array (.number lon :: .number lat :: others.map .number))
        ⟨lon.toDouble, lat.toDouble⟩

/-- An array whose items stand for the members of a list, one for each in order. -/
inductive IsListOf {α : Type} (IsOne : Json → α → Prop) : Json → List α → Prop where
  | mk {items : List Json} {xs : List α} : List.Forall₂ IsOne items xs →
      IsListOf IsOne (.array items) xs

def IsLine : Json → List (LonLat Double) → Prop := IsListOf IsPosition

def IsRings : Json → List (Ring Double) → Prop := IsListOf IsLine

def IsPolygons : Json → List (List (Ring Double)) → Prop := IsListOf IsRings

theorem numberOf_eq_ok_iff {value : Json} {x : Double} :
    numberOf value = .ok x ↔ ∃ n : Json.Number, value = .number n ∧ n.toDouble = x := by
  cases value with
  | number n => simp [numberOf]
  | _ => simp [numberOf]

theorem exists_numbers_iff {items : List Json} :
    (∃ ns : List Json.Number, items = ns.map .number) ↔
      ∀ item ∈ items, ∃ n : Json.Number, item = .number n := by
  have hrange := Set.ext_iff.mp (Set.range_list_map Json.number) items
  simpa only [Set.mem_range, Set.mem_ofPred_eq, eq_comm] using hrange

theorem exists_mapM_numberOf_iff {items : List Json} :
    (∃ xs, items.mapM numberOf = .ok xs) ↔ ∃ ns : List Json.Number, items = ns.map .number := by
  rw [exists_mapM_eq_ok_iff, exists_numbers_iff]
  simp [numberOf_eq_ok_iff]

theorem positionOf_eq_ok_iff {value : Json} {p : LonLat Double} :
    positionOf value = .ok p ↔ IsPosition value p := by
  constructor
  · intro h
    unfold positionOf at h
    split at h
    · rename_i lon lat others
      obtain ⟨x, hx, hlat⟩ := bind_eq_ok_iff.mp h
      obtain ⟨y, hy, hothers⟩ := bind_eq_ok_iff.mp hlat
      obtain ⟨zs, hzs, hp⟩ := bind_eq_ok_iff.mp hothers
      obtain ⟨n, rfl, rfl⟩ := numberOf_eq_ok_iff.mp hx
      obtain ⟨m, rfl, rfl⟩ := numberOf_eq_ok_iff.mp hy
      obtain ⟨ns, rfl⟩ := exists_mapM_numberOf_iff.mp ⟨zs, hzs⟩
      cases hp
      exact .mk n m ns
    · cases h
    · cases h
  · rintro ⟨lon, lat, others⟩
    obtain ⟨zs, hothers⟩ := exists_mapM_numberOf_iff.mpr ⟨others, rfl⟩
    show (others.map Json.number).mapM numberOf >>= _ = _
    rw [hothers]
    rfl

section

variable {α : Type} {read : Json → Except GeoJsonFault α} {IsOne : Json → α → Prop}

/-- The items of an array need a reader that is right for these items only. Geometries inside one
another rest on this: their reader is right up to a depth. -/
theorem mapM_eq_ok_iff_isListOf {items : List Json} {xs : List α}
    (h : ∀ item ∈ items, ∀ x, read item = .ok x ↔ IsOne item x) :
    items.mapM read = .ok xs ↔ IsListOf IsOne (.array items) xs := by
  rw [mapM_eq_ok_iff h]
  constructor
  · exact .mk
  · rintro ⟨hitems⟩
    exact hitems

theorem eachOf_eq_ok_iff (h : ∀ value x, read value = .ok x ↔ IsOne value x) (value : Json)
    (xs : List α) : eachOf read value = .ok xs ↔ IsListOf IsOne value xs := by
  cases value with
  | array items => exact mapM_eq_ok_iff_isListOf fun item _ => h item
  | _ => exact iff_of_false nofun nofun

end

theorem lineOf_eq_ok_iff (value : Json) (points : List (LonLat Double)) :
    lineOf value = .ok points ↔ IsLine value points :=
  eachOf_eq_ok_iff (fun _ _ => positionOf_eq_ok_iff) value points

theorem ringsOf_eq_ok_iff (value : Json) (rings : List (Ring Double)) :
    ringsOf value = .ok rings ↔ IsRings value rings :=
  eachOf_eq_ok_iff lineOf_eq_ok_iff value rings

theorem polygonsOf_eq_ok_iff (value : Json) (polygons : List (List (Ring Double))) :
    polygonsOf value = .ok polygons ↔ IsPolygons value polygons :=
  eachOf_eq_ok_iff ringsOf_eq_ok_iff value polygons

/-! ## Members -/

/-- A bounding box, which may be missing or null, is a list of numbers. -/
def HasBox (members : Members) : Prop :=
  Json.get? "bbox" members = none ∨ Json.get? "bbox" members = some .null ∨
    ∃ ns : List Json.Number, Json.get? "bbox" members = some (.array (ns.map .number))

theorem checkBox_eq_ok_iff {members : Members} : checkBox members = .ok () ↔ HasBox members := by
  unfold checkBox HasBox
  cases hbox : Json.get? "bbox" members with
  | none => simp
  | some value =>
    cases value with
    | null => simp
    | array items =>
      simp only [reduceCtorEq, Option.some.injEq, Json.array.injEq, false_or,
        exists_numbers_iff, forM_eq_ok_iff]
      refine forall₂_congr fun item _ => ?_
      cases item with
      | number n => simp
      | _ => simp
    | _ => simp

theorem memberOf_eq_ok_iff {name : String} {members : Members} {value : Json} :
    memberOf name members = .ok value ↔ Json.get? name members = some value := by
  unfold memberOf
  cases Json.get? name members with
  | none => simp
  | some found => simp

theorem stringOf_eq_ok_iff {value : Json} {s : String} :
    stringOf value = .ok s ↔ value = .string s := by
  cases value with
  | string t => simp [stringOf]
  | _ => simp [stringOf]

/-! ## Geometries -/

/-- The coordinates of a geometry, by the name of its type. -/
inductive IsSimple : String → Json → RawGeometry → Prop where
  | point {value : Json} {p : LonLat Double} : IsPosition value p →
      IsSimple "Point" value (.other "Point")
  | multiPoint {value : Json} {ps : List (LonLat Double)} : IsLine value ps →
      IsSimple "MultiPoint" value (.other "MultiPoint")
  | lineString {value : Json} {ps : List (LonLat Double)} : IsLine value ps →
      IsSimple "LineString" value (.other "LineString")
  | multiLineString {value : Json} {lines : List (List (LonLat Double))} : IsRings value lines →
      IsSimple "MultiLineString" value (.other "MultiLineString")
  | polygon {value : Json} {rings : List (Ring Double)} : IsRings value rings →
      IsSimple "Polygon" value (.area (.polygon rings))
  | multiPolygon {value : Json} {polygons : List (List (Ring Double))} :
      IsPolygons value polygons → IsSimple "MultiPolygon" value (.area (.multiPolygon polygons))

/-- An object that is a geometry. All the parts of a collection are geometries too. -/
inductive IsGeometry : Json → RawGeometry → Prop where
  | simple {members : Members} {typeName : String} {value : Json} {g : RawGeometry} :
      HasBox members → Json.get? "type" members = some (.string typeName) →
      Json.get? "coordinates" members = some value → IsSimple typeName value g →
      IsGeometry (.object members) g
  | collection {members : Members} {value : Json} {parts : List RawGeometry} :
      HasBox members → Json.get? "type" members = some (.string "GeometryCollection") →
      Json.get? "geometries" members = some value → IsListOf IsGeometry value parts →
      IsGeometry (.object members) (.other "GeometryCollection")

theorem IsSimple.mem_geometryTypes {typeName : String} {value : Json} {g : RawGeometry}
    (h : IsSimple typeName value g) :
    typeName ∈ geometryTypes ∧ typeName ≠ "GeometryCollection" := by
  cases h <;> decide

theorem simpleGeometry_eq_ok_iff {typeName : String} (hmem : typeName ∈ geometryTypes)
    (hne : typeName ≠ "GeometryCollection") {value : Json} {g : RawGeometry} :
    simpleGeometry typeName value = .ok g ↔ IsSimple typeName value g := by
  constructor
  · intro h
    simp only [geometryTypes, List.mem_cons, List.not_mem_nil, or_false] at hmem
    rcases hmem with rfl | rfl | rfl | rfl | rfl | rfl | rfl
    · obtain ⟨p, hp, rfl⟩ := map_eq_ok_iff.mp h
      exact .point (positionOf_eq_ok_iff.mp hp)
    · obtain ⟨ps, hps, rfl⟩ := map_eq_ok_iff.mp h
      exact .multiPoint ((lineOf_eq_ok_iff _ _).mp hps)
    · obtain ⟨ps, hps, rfl⟩ := map_eq_ok_iff.mp h
      exact .lineString ((lineOf_eq_ok_iff _ _).mp hps)
    · obtain ⟨lines, hlines, rfl⟩ := map_eq_ok_iff.mp h
      exact .multiLineString ((ringsOf_eq_ok_iff _ _).mp hlines)
    · obtain ⟨rings, hrings, rfl⟩ := map_eq_ok_iff.mp h
      exact .polygon ((ringsOf_eq_ok_iff _ _).mp hrings)
    · obtain ⟨polygons, hpolygons, rfl⟩ := map_eq_ok_iff.mp h
      exact .multiPolygon ((polygonsOf_eq_ok_iff _ _).mp hpolygons)
    · exact absurd rfl hne
  · intro h
    cases h with
    | point hp => exact map_eq_ok_iff.mpr ⟨_, positionOf_eq_ok_iff.mpr hp, rfl⟩
    | multiPoint hps => exact map_eq_ok_iff.mpr ⟨_, (lineOf_eq_ok_iff _ _).mpr hps, rfl⟩
    | lineString hps => exact map_eq_ok_iff.mpr ⟨_, (lineOf_eq_ok_iff _ _).mpr hps, rfl⟩
    | multiLineString hlines =>
      exact map_eq_ok_iff.mpr ⟨_, (ringsOf_eq_ok_iff _ _).mpr hlines, rfl⟩
    | polygon hrings => exact map_eq_ok_iff.mpr ⟨_, (ringsOf_eq_ok_iff _ _).mpr hrings, rfl⟩
    | multiPolygon hpolygons =>
      exact map_eq_ok_iff.mpr ⟨_, (polygonsOf_eq_ok_iff _ _).mpr hpolygons, rfl⟩

theorem depth_le_of_mem {items : List Json} {item : Json} (h : item ∈ items) :
    item.depth ≤ Json.itemsDepth items := by
  induction h with
  | head rest => exact le_max_left _ _
  | tail other _ ih => exact ih.trans (le_max_right _ _)

theorem depth_le_of_get? {name : String} {members : Members} {value : Json}
    (h : Json.get? name members = some value) : value.depth ≤ Json.membersDepth members := by
  induction members with
  | nil => cases h
  | cons member rest ih =>
    obtain ⟨other, found⟩ := member
    by_cases hname : (other == name) = true
    · have hvalue : found = value := by simpa [Json.get?, List.find?_cons, hname] using h
      exact hvalue ▸ le_max_left _ _
    · have hrest : Json.get? name rest = some value := by
        simpa [Json.get?, List.find?_cons, hname] using h
      exact (ih hrest).trans (le_max_right _ _)

/-- The items of an array that are all objects, each with what it stands for. -/
theorem itemsOf_eq_ok_iff {α : Type} {read : Json → Except GeoJsonFault α}
    {IsOne : Json → α → Prop} {value : Json} {xs : List α}
    (h : ∀ items, value = .array items → ∀ item ∈ items, ∀ x, read item = .ok x ↔ IsOne item x) :
    itemsOf read value = .ok xs ↔ IsListOf IsOne value xs := by
  cases value with
  | array items => exact mapM_eq_ok_iff_isListOf (h items rfl)
  | _ => exact iff_of_false nofun nofun

/-- What the reader of geometries checks of one object, and how it goes on. -/
theorem geometryWithin_succ_eq_ok_iff {depth : Nat} {members : Members} {g : RawGeometry} :
    geometryWithin (depth + 1) members = .ok g ↔
      HasBox members ∧
        ((∃ typeName value, Json.get? "type" members = some (.string typeName) ∧
          Json.get? "coordinates" members = some value ∧ IsSimple typeName value g) ∨
        (∃ value parts, Json.get? "type" members = some (.string "GeometryCollection") ∧
          Json.get? "geometries" members = some value ∧
          itemsOf (fun part =>
            match part with
            | .object members => geometryWithin depth members
            | found => .error (.expectedObject found)) value = .ok parts ∧
          g = .other "GeometryCollection")) := by
  constructor
  · intro hread
    obtain ⟨_, hbox, hread⟩ := bind_eq_ok_iff.mp hread
    obtain ⟨name, hname, hread⟩ := bind_eq_ok_iff.mp hread
    obtain ⟨typeName, htype, hread⟩ := bind_eq_ok_iff.mp hread
    rw [stringOf_eq_ok_iff.mp htype, memberOf_eq_ok_iff] at hname
    refine ⟨checkBox_eq_ok_iff.mp hbox, ?_⟩
    split at hread
    · cases hread
    · rename_i hknown
      have hmem : typeName ∈ geometryTypes := by simpa using hknown
      -- A collection has its parts under another name than the coordinates of the other types.
      split at hread
      · rename_i hcollection
        obtain ⟨value, hvalue, hread⟩ := bind_eq_ok_iff.mp hread
        obtain ⟨parts, hparts, hg⟩ := bind_eq_ok_iff.mp hread
        subst hcollection
        exact .inr ⟨value, parts, hname, memberOf_eq_ok_iff.mp hvalue, hparts,
          (Except.ok.inj hg).symm⟩
      · rename_i hsimple
        obtain ⟨value, hvalue, hread⟩ := bind_eq_ok_iff.mp hread
        exact .inl ⟨typeName, value, hname, memberOf_eq_ok_iff.mp hvalue,
          (simpleGeometry_eq_ok_iff hmem hsimple).mp hread⟩
  · rintro ⟨hbox, ⟨typeName, value, htype, hvalue, hsimple⟩ |
      ⟨value, parts, htype, hvalue, hparts, rfl⟩⟩
    · obtain ⟨hmem, hne⟩ := hsimple.mem_geometryTypes
      rw [geometryWithin, checkBox_eq_ok_iff.mpr hbox, memberOf_eq_ok_iff.mpr htype]
      show (if (!geometryTypes.contains typeName) = true then _ else _) = _
      rw [if_neg (by simpa using hmem), if_neg hne, memberOf_eq_ok_iff.mpr hvalue]
      exact (simpleGeometry_eq_ok_iff hmem hne).mpr hsimple
    · rw [geometryWithin, checkBox_eq_ok_iff.mpr hbox, memberOf_eq_ok_iff.mpr htype]
      show memberOf "geometries" members >>= _ = _
      refine bind_eq_ok_iff.mpr ⟨value, memberOf_eq_ok_iff.mpr hvalue, ?_⟩
      exact bind_eq_ok_iff.mpr ⟨parts, hparts, rfl⟩

/-- The reader of geometries is right for those that are not nested too deeply for it. The
induction is on its depth: the parts of a collection are less deep than the collection. -/
theorem geometryWithin_eq_ok_iff {depth : Nat} {members : Members} {g : RawGeometry}
    (h : (Json.object members).depth ≤ depth) :
    geometryWithin depth members = .ok g ↔ IsGeometry (.object members) g := by
  induction depth generalizing members g with
  | zero => exact absurd h (Nat.not_succ_le_zero _)
  | succ depth ih =>
    have hparts : ∀ items, Json.get? "geometries" members = some (.array items) →
        ∀ part ∈ items, ∀ g, (match part with
          | .object members => geometryWithin depth members
          | found => .error (.expectedObject found)) = .ok g ↔ IsGeometry part g := by
      intro items hitems part hpart g
      -- A part is two levels below its collection, that of the array being one.
      have hdepth : part.depth + 1 ≤ depth :=
        calc part.depth + 1 ≤ (Json.array items).depth :=
              Nat.succ_le_succ (depth_le_of_mem hpart)
          _ ≤ Json.membersDepth members := depth_le_of_get? hitems
          _ ≤ depth := Nat.le_of_succ_le_succ h
      cases part with
      | object members => exact ih (Nat.le_of_succ_le hdepth)
      | _ => exact iff_of_false nofun nofun
    rw [geometryWithin_succ_eq_ok_iff]
    constructor
    · rintro ⟨hbox, ⟨typeName, value, htype, hvalue, hsimple⟩ |
        ⟨value, parts, htype, hvalue, hread, rfl⟩⟩
      · exact .simple hbox htype hvalue hsimple
      · refine .collection hbox htype hvalue ((itemsOf_eq_ok_iff ?_).mp hread)
        rintro items rfl
        exact hparts items hvalue
    · intro hvalid
      cases hvalid with
      | simple hbox htype hvalue hsimple => exact ⟨hbox, .inl ⟨_, _, htype, hvalue, hsimple⟩⟩
      | collection hbox htype hvalue hlist =>
        refine ⟨hbox, .inr ⟨_, _, htype, hvalue, (itemsOf_eq_ok_iff ?_).mpr hlist, rfl⟩⟩
        rintro items rfl
        exact hparts items hvalue

theorem geometryOf_eq_ok_iff {members : Members} {g : RawGeometry} :
    geometryOf members = .ok g ↔ IsGeometry (.object members) g :=
  geometryWithin_eq_ok_iff le_rfl

/-! ## Features -/

/-- The geometry of a feature has to be there, and may be null. -/
inductive HasGeometry (members : Members) : Option RawGeometry → Prop where
  | null : Json.get? "geometry" members = some .null → HasGeometry members none
  | object {geometry : Members} {g : RawGeometry} :
      Json.get? "geometry" members = some (.object geometry) → IsGeometry (.object geometry) g →
      HasGeometry members (some g)

/-- The properties of a feature may be missing or null. -/
inductive HasProperties (members : Members) : Members → Prop where
  | missing : Json.get? "properties" members = none → HasProperties members []
  | null : Json.get? "properties" members = some .null → HasProperties members []
  | object {properties : Members} : Json.get? "properties" members = some (.object properties) →
      HasProperties members properties

/-- The identifier of a feature may be missing, and is not null. -/
def HasIdentifier (members : Members) : Prop :=
  Json.get? "id" members = none ∨ (∃ n : Json.Number, Json.get? "id" members = some (.number n)) ∨
    ∃ s : String, Json.get? "id" members = some (.string s)

/-- An object that is a feature. -/
inductive IsFeature : Json → RawFeature → Prop where
  | mk {members : Members} {f : RawFeature} :
      Json.get? "type" members = some (.string "Feature") → HasGeometry members f.geometry →
      HasProperties members f.properties → HasIdentifier members → HasBox members →
      IsFeature (.object members) f

theorem featureGeometryOf_eq_ok_iff {members : Members} {g : Option RawGeometry} :
    featureGeometryOf members = .ok g ↔ HasGeometry members g := by
  constructor
  · intro hread
    obtain ⟨value, hvalue, hread⟩ := bind_eq_ok_iff.mp hread
    have hvalue := memberOf_eq_ok_iff.mp hvalue
    split at hread
    · cases hread
      exact .null hvalue
    · obtain ⟨found, hfound, hg⟩ := bind_eq_ok_iff.mp hread
      cases hg
      exact .object hvalue (geometryOf_eq_ok_iff.mp hfound)
    · cases hread
  · intro hvalid
    cases hvalid with
    | null hvalue => exact bind_eq_ok_iff.mpr ⟨_, memberOf_eq_ok_iff.mpr hvalue, rfl⟩
    | object hvalue hgeometry =>
      refine bind_eq_ok_iff.mpr ⟨_, memberOf_eq_ok_iff.mpr hvalue, ?_⟩
      exact bind_eq_ok_iff.mpr ⟨_, geometryOf_eq_ok_iff.mpr hgeometry, rfl⟩

theorem propertiesOf_eq_ok_iff {members properties : Members} :
    propertiesOf members = .ok properties ↔ HasProperties members properties := by
  constructor
  · intro hread
    unfold propertiesOf at hread
    split at hread
    · rename_i hmissing
      cases hread
      exact .missing hmissing
    · rename_i hnull
      cases hread
      exact .null hnull
    · rename_i hobject
      cases hread
      exact .object hobject
    · cases hread
  · intro hvalid
    unfold propertiesOf
    cases hvalid with
    | missing h | null h | object h => rw [h]

theorem checkIdentifier_eq_ok_iff {members : Members} :
    checkIdentifier members = .ok () ↔ HasIdentifier members := by
  unfold checkIdentifier HasIdentifier
  cases Json.get? "id" members with
  | none => simp
  | some value =>
    cases value with
    | _ => simp

theorem featureOf_eq_ok_iff {members : Members} {f : RawFeature} :
    featureOf members = .ok f ↔ IsFeature (.object members) f := by
  constructor
  · intro hread
    obtain ⟨name, hname, hread⟩ := bind_eq_ok_iff.mp hread
    obtain ⟨typeName, htype, hread⟩ := bind_eq_ok_iff.mp hread
    rw [stringOf_eq_ok_iff.mp htype, memberOf_eq_ok_iff] at hname
    split at hread
    · cases hread
    · rename_i hfeature
      obtain ⟨geometry, hgeometry, hread⟩ := bind_eq_ok_iff.mp hread
      obtain ⟨properties, hproperties, hread⟩ := bind_eq_ok_iff.mp hread
      obtain ⟨_, hidentifier, hread⟩ := bind_eq_ok_iff.mp hread
      obtain ⟨_, hbox, hf⟩ := bind_eq_ok_iff.mp hread
      rw [not_ne_iff.mp hfeature] at hname
      cases hf
      exact .mk hname (featureGeometryOf_eq_ok_iff.mp hgeometry)
        (propertiesOf_eq_ok_iff.mp hproperties) (checkIdentifier_eq_ok_iff.mp hidentifier)
        (checkBox_eq_ok_iff.mp hbox)
  · rintro ⟨htype, hgeometry, hproperties, hidentifier, hbox⟩
    rw [featureOf, memberOf_eq_ok_iff.mpr htype, featureGeometryOf_eq_ok_iff.mpr hgeometry,
      propertiesOf_eq_ok_iff.mpr hproperties, checkIdentifier_eq_ok_iff.mpr hidentifier,
      checkBox_eq_ok_iff.mpr hbox]
    rfl

theorem featuresOf_eq_ok_iff {members : Members} {fs : List RawFeature} :
    featuresOf members = .ok fs ↔ HasBox members ∧
      ∃ value, Json.get? "features" members = some value ∧ IsListOf IsFeature value fs := by
  have hitems : ∀ value, itemsOf (fun item =>
      match item with
      | .object members => featureOf members
      | found => .error (.expectedObject found)) value = .ok fs ↔ IsListOf IsFeature value fs := by
    intro value
    refine itemsOf_eq_ok_iff fun items _ item _ f => ?_
    cases item with
    | object members => exact featureOf_eq_ok_iff
    | _ => exact iff_of_false nofun nofun
  constructor
  · intro hread
    obtain ⟨_, hbox, hread⟩ := bind_eq_ok_iff.mp hread
    obtain ⟨value, hvalue, hread⟩ := bind_eq_ok_iff.mp hread
    exact ⟨checkBox_eq_ok_iff.mp hbox, value, memberOf_eq_ok_iff.mp hvalue,
      (hitems value).mp hread⟩
  · rintro ⟨hbox, value, hvalue, hlist⟩
    refine bind_eq_ok_iff.mpr ⟨(), checkBox_eq_ok_iff.mpr hbox, ?_⟩
    exact bind_eq_ok_iff.mpr ⟨value, memberOf_eq_ok_iff.mpr hvalue, (hitems value).mpr hlist⟩

end PollAtlas.Boundary
