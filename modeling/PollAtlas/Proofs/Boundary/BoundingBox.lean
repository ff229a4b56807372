import Mathlib.Algebra.Order.Field.Rat
import Mathlib.Order.Bounds.Image
import PollAtlas.Boundary.Projection

/-!
# The bounding box of a collection

Over the rationals every side of the bounding box is the longitude or latitude of a point, and
no point lies beyond it. That determines the box: it does not depend on the order of the points,
and a point inside it does not change it. The spans that serve as divisors are those of the box,
raised to a tenth of a degree.

* `Geometry.HasRings`: the rings of a polygon and of several polygons.
* `IsBoundingBox`: the box of a set of points.
* `isBoundingBox_boundsOf`, `boundsOf_eq`: the box that a collection is scaled with.
* `lonSpan_eq`, `latSpan_eq`: the divisors.
-/

namespace PollAtlas.Boundary

/-! ## Rings and points -/

/-- The rings of a geometry: those of its one polygon, or those of each of its polygons in turn. -/
inductive Geometry.HasRings {α : Type} : Geometry α → List (Ring α) → Prop where
  | polygon (rings : List (Ring α)) : HasRings (.polygon rings) rings
  | multiPolygon (polygons : List (List (Ring α))) :
      HasRings (.multiPolygon polygons) polygons.flatten

theorem Geometry.exists_hasRings {α : Type} (g : Geometry α) : ∃ rings, g.HasRings rings := by
  cases g with
  | polygon rings => exact ⟨_, .polygon rings⟩
  | multiPolygon polygons => exact ⟨_, .multiPolygon polygons⟩

theorem Geometry.HasRings.rings_eq {α : Type} {g : Geometry α} {rings : List (Ring α)}
    (h : g.HasRings rings) : g.rings = rings := by
  cases h with
  | polygon rings => rfl
  | multiPolygon polygons => rfl

theorem Geometry.HasRings.points_eq {α : Type} {g : Geometry α} {rings : List (Ring α)}
    (h : g.HasRings rings) : g.points = rings.flatten := by
  rw [points, h.rings_eq]

/-- The points of all boundaries, in order. -/
def pointsOf {α : Type} (features : List (Feature α)) : List (LonLat α) :=
  features.flatMap fun f => f.geometry.points

theorem mem_pointsOf {α : Type} {features : List (Feature α)} {p : LonLat α} :
    p ∈ pointsOf features ↔ ∃ f ∈ features, p ∈ f.geometry.points := List.mem_flatMap

/-! ## Boxes -/

/-- The least box around a set of points. -/
structure IsBoundingBox (points : Set (LonLat Rat)) (b : Bounds Rat) : Prop where
  west : IsLeast (LonLat.lon '' points) b.minLon
  east : IsGreatest (LonLat.lon '' points) b.maxLon
  south : IsLeast (LonLat.lat '' points) b.minLat
  north : IsGreatest (LonLat.lat '' points) b.maxLat

/-- A point lies inside a box or on its sides. -/
structure Bounds.Contains (b : Bounds Rat) (p : LonLat Rat) : Prop where
  west : b.minLon ≤ p.lon
  east : p.lon ≤ b.maxLon
  south : b.minLat ≤ p.lat
  north : p.lat ≤ b.maxLat

/-! ## Rationals -/

/-- The scalars' choice of the lesser number is that of the order. -/
theorem scalar_min_eq (a b : Rat) : Scalar.toMin.min a b = min b a := by
  by_cases h : b < a
  · rw [min_eq_left h.le]
    exact if_pos h
  · rw [min_eq_right (not_lt.mp h)]
    exact if_neg h

/-- The scalars' choice of the greater number is that of the order. -/
theorem scalar_max_eq (a b : Rat) : Scalar.toMax.max a b = max b a := by
  by_cases h : a < b
  · rw [max_eq_left h.le]
    exact if_pos h
  · rw [max_eq_right (not_lt.mp h)]
    exact if_neg h

theorem Bounds.extend_eq (b : Bounds Rat) (p : LonLat Rat) :
    b.extend p =
      ⟨min p.lon b.minLon, max p.lon b.maxLon, min p.lat b.minLat, max p.lat b.maxLat⟩ := by
  simp only [Bounds.extend, scalar_min_eq, scalar_max_eq]

theorem Bounds.lonSpan_eq (b : Bounds Rat) :
    b.lonSpan = max (1 / 10) (b.maxLon - b.minLon) := scalar_max_eq _ _

theorem Bounds.latSpan_eq (b : Bounds Rat) :
    b.latSpan = max (1 / 10) (b.maxLat - b.minLat) := scalar_max_eq _ _

/-! ## The box of a set of points -/

/-- A point moved by some longitudes and latitudes. -/
def LonLat.shift (dlon dlat : Rat) (p : LonLat Rat) : LonLat Rat :=
  ⟨p.lon + dlon, p.lat + dlat⟩

/-- A box moved by some longitudes and latitudes. -/
def Bounds.shift (dlon dlat : Rat) (b : Bounds Rat) : Bounds Rat :=
  ⟨b.minLon + dlon, b.maxLon + dlon, b.minLat + dlat, b.maxLat + dlat⟩

namespace IsBoundingBox

variable {points : Set (LonLat Rat)} {b : Bounds Rat}

theorem unique {other : Bounds Rat} (h : IsBoundingBox points b)
    (h' : IsBoundingBox points other) : b = other := by
  cases b
  cases other
  simp only [Bounds.mk.injEq]
  exact ⟨h.west.unique h'.west, h.east.unique h'.east, h.south.unique h'.south,
    h.north.unique h'.north⟩

theorem contains (h : IsBoundingBox points b) {p : LonLat Rat} (hp : p ∈ points) :
    b.Contains p where
  west := h.west.2 (Set.mem_image_of_mem _ hp)
  east := h.east.2 (Set.mem_image_of_mem _ hp)
  south := h.south.2 (Set.mem_image_of_mem _ hp)
  north := h.north.2 (Set.mem_image_of_mem _ hp)

theorem minLon_eq (h : IsBoundingBox points b) {p : LonLat Rat} (hp : p ∈ points)
    (hwest : ∀ r ∈ points, p.lon ≤ r.lon) : b.minLon = p.lon :=
  h.west.unique ⟨Set.mem_image_of_mem _ hp, Set.forall_mem_image.mpr hwest⟩

theorem maxLon_eq (h : IsBoundingBox points b) {p : LonLat Rat} (hp : p ∈ points)
    (heast : ∀ r ∈ points, r.lon ≤ p.lon) : b.maxLon = p.lon :=
  h.east.unique ⟨Set.mem_image_of_mem _ hp, Set.forall_mem_image.mpr heast⟩

theorem minLat_eq (h : IsBoundingBox points b) {p : LonLat Rat} (hp : p ∈ points)
    (hsouth : ∀ r ∈ points, p.lat ≤ r.lat) : b.minLat = p.lat :=
  h.south.unique ⟨Set.mem_image_of_mem _ hp, Set.forall_mem_image.mpr hsouth⟩

theorem maxLat_eq (h : IsBoundingBox points b) {p : LonLat Rat} (hp : p ∈ points)
    (hnorth : ∀ r ∈ points, r.lat ≤ p.lat) : b.maxLat = p.lat :=
  h.north.unique ⟨Set.mem_image_of_mem _ hp, Set.forall_mem_image.mpr hnorth⟩

/-! ## One more point -/

theorem ofPoint (p : LonLat Rat) : IsBoundingBox {p} (Bounds.ofPoint p) := by
  constructor
  · rw [Set.image_singleton]
    exact isLeast_singleton
  · rw [Set.image_singleton]
    exact isGreatest_singleton
  · rw [Set.image_singleton]
    exact isLeast_singleton
  · rw [Set.image_singleton]
    exact isGreatest_singleton

theorem extend (h : IsBoundingBox points b) (p : LonLat Rat) :
    IsBoundingBox (insert p points) (b.extend p) := by
  rw [Bounds.extend_eq]
  constructor
  · rw [Set.image_insert_eq]
    exact h.west.insert p.lon
  · rw [Set.image_insert_eq]
    exact h.east.insert p.lon
  · rw [Set.image_insert_eq]
    exact h.south.insert p.lat
  · rw [Set.image_insert_eq]
    exact h.north.insert p.lat

theorem foldl (h : IsBoundingBox points b) (rest : List (LonLat Rat)) :
    IsBoundingBox (points ∪ {p | p ∈ rest}) (rest.foldl Bounds.extend b) := by
  induction rest generalizing points b with
  | nil => simpa using h
  | cons p rest ih =>
    have hset : points ∪ {q | q ∈ p :: rest} = insert p points ∪ {q | q ∈ rest} := by
      ext q
      simp only [List.mem_cons, Set.mem_union, Set.mem_ofPred_eq, Set.mem_insert_iff]
      tauto
    rw [hset]
    exact ih (h.extend p)

/-! ## Other sets of points -/

/-- More points inside the box do not change it. -/
theorem union (h : IsBoundingBox points b) {more : Set (LonLat Rat)}
    (hmore : ∀ p ∈ more, b.Contains p) : IsBoundingBox (points ∪ more) b := by
  constructor
  · rw [Set.image_union, isLeast_union_iff]
    exact Or.inl ⟨h.west, Set.forall_mem_image.mpr fun p hp => (hmore p hp).west⟩
  · rw [Set.image_union, isGreatest_union_iff]
    exact Or.inl ⟨h.east, Set.forall_mem_image.mpr fun p hp => (hmore p hp).east⟩
  · rw [Set.image_union, isLeast_union_iff]
    exact Or.inl ⟨h.south, Set.forall_mem_image.mpr fun p hp => (hmore p hp).south⟩
  · rw [Set.image_union, isGreatest_union_iff]
    exact Or.inl ⟨h.north, Set.forall_mem_image.mpr fun p hp => (hmore p hp).north⟩

/-- Moving all points moves the box. -/
theorem shift (h : IsBoundingBox points b) (dlon dlat : Rat) :
    IsBoundingBox (LonLat.shift dlon dlat '' points) (b.shift dlon dlat) := by
  have hlon : LonLat.lon '' (LonLat.shift dlon dlat '' points) =
      (· + dlon) '' (LonLat.lon '' points) := Set.image_comm fun p => rfl
  have hlat : LonLat.lat '' (LonLat.shift dlon dlat '' points) =
      (· + dlat) '' (LonLat.lat '' points) := Set.image_comm fun p => rfl
  constructor
  · rw [hlon]
    exact (add_left_mono (a := dlon)).map_isLeast h.west
  · rw [hlon]
    exact (add_left_mono (a := dlon)).map_isGreatest h.east
  · rw [hlat]
    exact (add_left_mono (a := dlat)).map_isLeast h.south
  · rw [hlat]
    exact (add_left_mono (a := dlat)).map_isGreatest h.north

end IsBoundingBox

/-! ## The box of a collection -/

theorem isBoundingBox_ofPoints? {points : List (LonLat Rat)} {b : Bounds Rat} :
    Bounds.ofPoints? points = some b ↔ IsBoundingBox {p | p ∈ points} b := by
  have hbox : ∀ {c}, Bounds.ofPoints? points = some c → IsBoundingBox {p | p ∈ points} c := by
    intro c hc
    cases points with
    | nil => cases hc
    | cons p rest =>
      obtain rfl : _ = c := Option.some.inj hc
      have hset : {q | q ∈ p :: rest} = {p} ∪ {q | q ∈ rest} := by
        ext q
        simp
      rw [hset]
      exact (IsBoundingBox.ofPoint p).foldl rest
  refine ⟨hbox, fun h => ?_⟩
  cases hpoints : Bounds.ofPoints? points with
  | some c => rw [(hbox hpoints).unique h]
  | none =>
    cases points with
    | nil =>
      obtain ⟨p, hp, _⟩ := h.west.1
      exact absurd hp List.not_mem_nil
    | cons p rest => cases hpoints

theorem isBoundingBox_boundsOf {features : List (Feature Rat)} (h : pointsOf features ≠ []) :
    IsBoundingBox {p | p ∈ pointsOf features} (boundsOf features) := by
  obtain ⟨p, rest, hpoints⟩ := List.exists_cons_of_ne_nil h
  rw [← isBoundingBox_ofPoints?]
  show _ = some ((Bounds.ofPoints? (pointsOf features)).getD Bounds.origin)
  rw [hpoints]
  rfl

theorem boundsOf_eq {features : List (Feature Rat)} {b : Bounds Rat}
    (h : IsBoundingBox {p | p ∈ pointsOf features} b) : boundsOf features = b := by
  show (Bounds.ofPoints? (pointsOf features)).getD Bounds.origin = b
  rw [isBoundingBox_ofPoints?.mpr h]
  rfl

end PollAtlas.Boundary
