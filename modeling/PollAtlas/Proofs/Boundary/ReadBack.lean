import PollAtlas.Proofs.Boundary.Loading
import PollAtlas.Proofs.Json.ByName

/-!
# Boundaries that are read back

A geometry is written in one way and read in two: as part of a boundary record, and as part of a
feature of a GeoJSON collection. Both readers give the boundary back, with empty polygons and
rings where it has them. The second one also reads collections in which the features have further
members and properties. From the texts of boundaries they are read back if their coordinates are
read back from their own texts.

* `Feature.IsKept`: the boundaries that both readers keep as they are.
* `LonLat.IsReadBack`: coordinates that are read back from their texts.
* `Feature.IsSentIn`, `IsCollectionOf`: the members of a feature and of a collection.
* `Feature.ofJson?_toJson`: the record of a boundary.
* `IsCollectionOf.loadFeatures_eq`: the boundaries of a collection.
* `readers_give_back`: both readers, with the texts that are written for them.
-/

namespace PollAtlas.Boundary

open PollAtlas.Json (KeptWithin Record Tagged)
open PollAtlas.Json.Number (HasPlainText isKept_of_hasPlainText)

/-- Items that are read back one by one are read back as a list. -/
theorem mapM_map_of_inverse {m : Type → Type} [Monad m] [LawfulMonad m] {α β : Type}
    {write : α → β} {read : β → m α} {xs : List α} (h : ∀ x ∈ xs, read (write x) = pure x) :
    (xs.map write).mapM read = pure xs := by
  induction xs with
  | nil => rfl
  | cons x xs ih =>
    obtain ⟨hx, hxs⟩ := List.forall_mem_cons.mp h
    rw [List.map_cons, List.mapM_cons, hx, ih hxs, pure_bind, pure_bind]

/-! ## Boundaries -/

/-- A point with finite coordinates. -/
def LonLat.IsFinite (p : LonLat Double) : Prop := p.lon.isFinite = true ∧ p.lat.isFinite = true

instance (p : LonLat Double) : Decidable p.IsFinite := inferInstanceAs (Decidable (_ ∧ _))

/-- A point whose coordinates are read back from their texts. -/
structure LonLat.IsReadBack (p : LonLat Double) : Prop where
  lon : Json.read? (Json.compact (.ofDouble p.lon)) = some (.ofDouble p.lon)
  lat : Json.read? (Json.compact (.ofDouble p.lat)) = some (.ofDouble p.lat)

namespace Feature

/-- The boundaries that are read back: finite coordinates, a code that is not empty, and neither
the code nor the name has blanks at its ends. -/
structure IsKept (f : Feature Double) : Prop where
  finite : ∀ p ∈ f.geometry.points, p.IsFinite
  code_trimmed : Text.trim f.regionCode = f.regionCode
  code_ne_empty : f.regionCode ≠ ""
  name_trimmed : Text.trim f.regionName = f.regionName

instance (f : Feature Double) : Decidable f.IsKept :=
  decidable_of_iff ((∀ p ∈ f.geometry.points, p.IsFinite) ∧ Text.trim f.regionCode = f.regionCode ∧
      f.regionCode ≠ "" ∧ Text.trim f.regionName = f.regionName)
    ⟨fun ⟨hpoints, hcode, hne, hname⟩ => ⟨hpoints, hcode, hne, hname⟩,
      fun h => ⟨h.finite, h.code_trimmed, h.code_ne_empty, h.name_trimmed⟩⟩

/-- The members of a feature that stands for a boundary. There may be more of them, and more
properties. -/
structure IsSentIn (f : Feature Double) (members : Members) : Prop where
  type_eq : Json.get? "type" members = some (.string "Feature")
  geometry_eq : Json.get? "geometry" members = some f.geometry.toJson
  properties : ∃ properties, Json.get? "properties" members = some (.object properties) ∧
    Json.get? "region_code" properties = some (.string f.regionCode) ∧
    Json.get? "region_name" properties = some (.string f.regionName)
  identifier : checkIdentifier members = .ok ()
  box : checkBox members = .ok ()

/-- The feature with no more members than it needs. -/
def toGeoJson (f : Feature Double) : Json :=
  .object [("type", .string "Feature"),
    ("properties", .object [("region_code", .string f.regionCode),
      ("region_name", .string f.regionName)]),
    ("geometry", f.geometry.toJson)]

end Feature

/-- The members of a collection of features that stand for boundaries. -/
structure IsCollectionOf (fs : List (Feature Double)) (members : Members) : Prop where
  type_eq : Json.get? "type" members = some (.string "FeatureCollection")
  features : ∃ items, Json.get? "features" members = some (.array items) ∧
    List.Forall₂ (fun f item => ∃ sent, item = .object sent ∧ f.IsSentIn sent) fs items
  box : checkBox members = .ok ()

/-- The collection with no more members than it needs. -/
def collectionMembers (fs : List (Feature Double)) : Members :=
  [("type", .string "FeatureCollection"), ("features", .array (fs.map Feature.toGeoJson))]

/-! ## As records -/

theorem LonLat.ofJson?_toJson (p : LonLat Double) : LonLat.ofJson? p.toJson = some p := rfl

theorem ringsOfJson?_ringsToJson (rings : List (Ring Double)) :
    ringsOfJson? (ringsToJson rings) = some rings := by
  have hring : ∀ ring : Ring Double,
      Json.list? LonLat.ofJson? (Json.array (ring.map LonLat.toJson)) = some ring :=
    fun ring => mapM_map_of_inverse fun p _ => p.ofJson?_toJson
  exact mapM_map_of_inverse fun ring _ => hring ring

theorem Geometry.ofJson?_toJson (g : Geometry Double) : Geometry.ofJson? g.toJson = some g := by
  have htagged : Tagged.read? "type" "coordinates" g.toJson =
      some ⟨g.typeName, some g.coordinatesToJson⟩ := by
    rw [Tagged.read?, Geometry.toJson, Record.read?_of_names (by decide) (by decide) rfl]
    rfl
  rw [Geometry.ofJson?, htagged]
  cases g with
  | polygon rings =>
    show (ringsOfJson? (ringsToJson rings)).map Geometry.polygon = _
    rw [ringsOfJson?_ringsToJson, Option.map_some]
  | multiPolygon polygons =>
    show ((polygons.map ringsToJson).mapM ringsOfJson?).map Geometry.multiPolygon = _
    rw [mapM_map_of_inverse fun rings _ => ringsOfJson?_ringsToJson rings]
    rfl

theorem Feature.ofJson?_toJson (f : Feature Double) : Feature.ofJson? f.toJson = some f := by
  rw [Feature.ofJson?, Feature.toJson, Record.read?_of_names (by decide) (by decide) rfl]
  show (Geometry.ofJson? f.geometry.toJson).bind _ = some f
  rw [f.geometry.ofJson?_toJson]
  rfl

/-! ## As parts of a document -/

/-- A list that is written item by item stands for itself. -/
theorem isListOf_map {α : Type} {IsOne : Json → α → Prop} {write : α → Json}
    (h : ∀ x, IsOne (write x) x) (xs : List α) : IsListOf IsOne (.array (xs.map write)) xs := by
  refine .mk ?_
  rw [List.forall₂_map_left_iff, List.forall₂_same]
  exact fun x _ => h x

theorem isRings_ringsToJson (rings : List (Ring Double)) : IsRings (ringsToJson rings) rings := by
  have hposition : ∀ p : LonLat Double, IsPosition p.toJson p := fun p =>
    .mk (.double p.lon) (.double p.lat) []
  have hline : ∀ ring : Ring Double, IsLine (.array (ring.map LonLat.toJson)) ring :=
    isListOf_map hposition
  exact isListOf_map hline rings

theorem isGeometry_toJson (g : Geometry Double) : IsGeometry g.toJson (.area g) := by
  cases g with
  | polygon rings => exact .simple (.inl rfl) rfl rfl (.polygon (isRings_ringsToJson rings))
  | multiPolygon polygons =>
    exact .simple (.inl rfl) rfl rfl (.multiPolygon (isListOf_map isRings_ringsToJson polygons))

namespace Feature

variable {f : Feature Double}

theorem IsSentIn.isFeature {members : Members} (h : f.IsSentIn members) :
    ∃ raw, IsFeature (.object members) raw ∧ raw.geometry = some (.area f.geometry) ∧
      Json.get? "region_code" raw.properties = some (.string f.regionCode) ∧
      Json.get? "region_name" raw.properties = some (.string f.regionName) := by
  obtain ⟨properties, hproperties, hcode, hname⟩ := h.properties
  refine ⟨⟨some (.area f.geometry), properties⟩, ?_, rfl, hcode, hname⟩
  exact .mk h.type_eq (.object h.geometry_eq (isGeometry_toJson f.geometry)) (.object hproperties)
    (checkIdentifier_eq_ok_iff.mp h.identifier) (checkBox_eq_ok_iff.mp h.box)

theorem IsKept.isKeptAs (h : f.IsKept) {raw : RawFeature}
    (hgeometry : raw.geometry = some (.area f.geometry))
    (hcode : Json.get? "region_code" raw.properties = some (.string f.regionCode))
    (hname : Json.get? "region_name" raw.properties = some (.string f.regionName)) :
    raw.IsKeptAs f where
  geometry_eq := hgeometry
  code := ⟨f.regionCode, hcode, h.code_trimmed⟩
  code_ne_empty := h.code_ne_empty
  name := .inl ⟨f.regionName, hname, h.name_trimmed⟩

end Feature

/-! ## Collections -/

/-- The items of a collection are features, and of each one the boundary is kept. -/
theorem exists_areKept {fs : List (Feature Double)} {items : List Json}
    (hsent : List.Forall₂ (fun f item => ∃ sent, item = .object sent ∧ f.IsSentIn sent) fs items)
    (hkept : ∀ f ∈ fs, f.IsKept) :
    ∃ raws, List.Forall₂ IsFeature items raws ∧ AreKept raws fs := by
  induction hsent with
  | nil => exact ⟨[], .nil, .nil⟩
  | @cons f item fs items hitem hsent ih =>
    obtain ⟨hf, hfs⟩ := List.forall_mem_cons.mp hkept
    obtain ⟨raws, hraws, hfeatures⟩ := ih hfs
    obtain ⟨sent, rfl, hsentIn⟩ := hitem
    obtain ⟨raw, hraw, hgeometry, hcode, hname⟩ := hsentIn.isFeature
    exact ⟨raw :: raws, .cons hraw hraws, .keep (hf.isKeptAs hgeometry hcode hname) hfeatures⟩

theorem IsCollectionOf.loadFeatures_eq {fs : List (Feature Double)} {members : Members}
    (h : IsCollectionOf fs members) (hkept : ∀ f ∈ fs, f.IsKept) {text : String}
    (htext : Json.read? text = some (.object members)) : loadFeatures text = .ok fs := by
  obtain ⟨items, hitems, hsent⟩ := h.features
  obtain ⟨raws, hraws, hfeatures⟩ := exists_areKept hsent hkept
  exact loadFeatures_eq_ok_iff.mpr ⟨members, items, raws, ⟨htext, h.type_eq, hitems⟩,
    checkBox_eq_ok_iff.mp h.box, hraws, hfeatures⟩

theorem Feature.isSentIn_toGeoJson (f : Feature Double) :
    ∃ sent, f.toGeoJson = .object sent ∧ f.IsSentIn sent :=
  ⟨_, rfl, rfl, rfl, ⟨_, rfl, rfl, rfl⟩, rfl, rfl⟩

theorem isCollectionOf_collectionMembers (fs : List (Feature Double)) :
    IsCollectionOf fs (collectionMembers fs) := by
  refine ⟨rfl, ⟨_, rfl, ?_⟩, rfl⟩
  rw [List.forall₂_map_right_iff, List.forall₂_same]
  exact fun f _ => f.isSentIn_toGeoJson

/-! ## Texts -/

/-- A point whose coordinates are read back wherever they are written. -/
structure LonLat.IsKept (p : LonLat Double) : Prop where
  lon : (Json.Number.double p.lon).IsKept
  lat : (Json.Number.double p.lat).IsKept

theorem LonLat.IsReadBack.isKept {p : LonLat Double} (h : p.IsReadBack) (hfinite : p.IsFinite) :
    p.IsKept where
  lon := Json.Number.isKept_of_read? hfinite.1 h.lon
  lat := Json.Number.isKept_of_read? hfinite.2 h.lat

theorem LonLat.IsKept.isReadBack {p : LonLat Double} (h : p.IsKept) : p.IsReadBack where
  lon := (Json.IsKept.number h.lon).read?_compact (Nat.zero_le _)
  lat := (Json.IsKept.number h.lat).read?_compact (Nat.zero_le _)

theorem keptWithin_ringsToJson {rings : List (Ring Double)}
    (h : ∀ p ∈ rings.flatten, p.IsKept) : KeptWithin 3 (ringsToJson rings) := by
  refine .array (List.forall_mem_map.mpr fun ring hring => ?_)
  refine .array (List.forall_mem_map.mpr fun p hp => ?_)
  have hkept := h p (List.mem_flatten_of_mem hring hp)
  refine .array (List.forall_mem_cons.mpr ⟨.ofDouble hkept.lon, ?_⟩)
  exact List.forall_mem_cons.mpr ⟨.ofDouble hkept.lat, nofun⟩

theorem Geometry.keptWithin_coordinatesToJson {g : Geometry Double}
    (h : ∀ p ∈ g.points, p.IsKept) : KeptWithin 4 g.coordinatesToJson := by
  cases g with
  | polygon rings => exact (keptWithin_ringsToJson h).mono (by decide)
  | multiPolygon polygons =>
    refine .array (List.forall_mem_map.mpr fun rings hrings => ?_)
    refine keptWithin_ringsToJson fun p hp => h p ?_
    obtain ⟨ring, hring, hp⟩ := List.mem_flatten.mp hp
    exact List.mem_flatten_of_mem (List.mem_flatten_of_mem hrings hring) hp

theorem Geometry.keptWithin_toJson {g : Geometry Double} (h : ∀ p ∈ g.points, p.IsKept) :
    KeptWithin 5 g.toJson := by
  refine .object (by simp) (List.forall_mem_cons.mpr ⟨.string _, ?_⟩)
  exact List.forall_mem_cons.mpr ⟨Geometry.keptWithin_coordinatesToJson h, nofun⟩

theorem Feature.keptWithin_toJson {f : Feature Double} (h : ∀ p ∈ f.geometry.points, p.IsKept) :
    KeptWithin 6 f.toJson := by
  refine .object (by simp) (List.forall_mem_cons.mpr ⟨.string _, ?_⟩)
  refine List.forall_mem_cons.mpr ⟨.string _, ?_⟩
  exact List.forall_mem_cons.mpr ⟨Geometry.keptWithin_toJson h, nofun⟩

theorem Feature.keptWithin_toGeoJson {f : Feature Double}
    (h : ∀ p ∈ f.geometry.points, p.IsKept) : KeptWithin 6 f.toGeoJson := by
  refine .object (by simp) (List.forall_mem_cons.mpr ⟨.string _, ?_⟩)
  refine List.forall_mem_cons.mpr ⟨?_, ?_⟩
  · refine .object (by simp) (List.forall_mem_cons.mpr ⟨.string _, ?_⟩)
    exact List.forall_mem_cons.mpr ⟨.string _, nofun⟩
  · exact List.forall_mem_cons.mpr ⟨Geometry.keptWithin_toJson h, nofun⟩

theorem keptWithin_collection {fs : List (Feature Double)}
    (h : ∀ f ∈ fs, ∀ p ∈ f.geometry.points, p.IsKept) :
    KeptWithin 8 (.object (collectionMembers fs)) := by
  refine .object (by simp [collectionMembers]) (List.forall_mem_cons.mpr ⟨.string _, ?_⟩)
  refine List.forall_mem_cons.mpr ⟨.array (List.forall_mem_map.mpr fun f hf => ?_), nofun⟩
  exact Feature.keptWithin_toGeoJson (h f hf)

/-- Both readers give boundaries back: the record reader from what is written for each of them, and
the document reader from any collection that stands for them. If coordinates are read back from
their texts, so are the boundaries from the text of each one and from the text of their
collection. -/
theorem readers_give_back {fs : List (Feature Double)} (h : ∀ f ∈ fs, f.IsKept) :
    (∀ f ∈ fs, Feature.ofJson? f.toJson = some f) ∧
    (∀ text members, Json.read? text = some (.object members) → IsCollectionOf fs members →
      loadFeatures text = .ok fs) ∧
    ((∀ f ∈ fs, ∀ p ∈ f.geometry.points, p.IsReadBack) →
      (∀ f ∈ fs, (Json.read? (Json.compact f.toJson)).bind Feature.ofJson? = some f) ∧
      loadFeatures (Json.compact (.object (collectionMembers fs))) = .ok fs) := by
  refine ⟨fun f hf => f.ofJson?_toJson, ?_, fun htexts => ?_⟩
  · exact fun text members htext hmembers => hmembers.loadFeatures_eq h htext
  · have hkept : ∀ f ∈ fs, ∀ p ∈ f.geometry.points, p.IsKept := fun f hf p hp =>
      (htexts f hf p hp).isKept ((h f hf).finite p hp)
    constructor
    · intro f hf
      have hread := (Feature.keptWithin_toJson (hkept f hf)).read?_compact (by decide)
      rw [hread, Option.bind_some, f.ofJson?_toJson]
    · have hread := (keptWithin_collection hkept).read?_compact (by decide)
      exact (isCollectionOf_collectionMembers fs).loadFeatures_eq h hread

/-- A polygon with an empty ring, and polygons without rings or points in a region without a
name. -/
def unevenBoundaries : List (Feature Double) :=
  [⟨"KR-11", "서울특별시", .polygon [[⟨.ofRatio false 1269 10, .ofRatio false 375 10⟩], []]⟩,
    ⟨"KR-\"26\"", "", .multiPolygon [[], [[]], [[⟨.ofRatio true 0 1, .ofRatio true 1 3⟩]]]⟩]

theorem readers_give_back_unevenBoundaries :
    (∀ f ∈ unevenBoundaries, f.IsKept) ∧
      (∀ f ∈ unevenBoundaries, ∀ p ∈ f.geometry.points, p.IsReadBack) ∧
      loadFeatures (Json.compact (.object (collectionMembers unevenBoundaries))) =
        .ok unevenBoundaries := by
  have hkept : ∀ f ∈ unevenBoundaries, f.IsKept := by decide +kernel
  have hplain : ∀ f ∈ unevenBoundaries, ∀ p ∈ f.geometry.points,
      HasPlainText p.lon ∧ HasPlainText p.lat := by decide +kernel
  have htexts : ∀ f ∈ unevenBoundaries, ∀ p ∈ f.geometry.points, p.IsReadBack := by
    intro f hf p hp
    obtain ⟨hlon, hlat⟩ := hplain f hf p hp
    have hpoint : p.IsKept :=
      ⟨isKept_of_hasPlainText hlon, isKept_of_hasPlainText hlat⟩
    exact hpoint.isReadBack
  obtain ⟨_, _, hwritten⟩ := readers_give_back hkept
  exact ⟨hkept, htexts, (hwritten htexts).2⟩

end PollAtlas.Boundary
