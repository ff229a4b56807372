import Mathlib.Data.List.Nodup
import PollAtlas.Proofs.Boundary.Placement

/-!
# What a projection does not depend on

All boundaries of a collection meet in one place only, its bounding box. A change that moves the
box along with the points leaves every place where it was, and a change that keeps the box leaves
the boundaries alone that it does not touch. So a projection does not depend on where the
collection lies, nor on the order of boundaries with codes of their own, nor on boundaries that
are added inside the box under another code. Of several boundaries with one code the last is
drawn, but the others still count for the box.

* `Feature.shift`: a boundary moved on the globe.
* `Keeps`: what is asked of a projection.
* `project_keeps`: every projection.
-/

namespace PollAtlas.Boundary

variable {features : List (Feature Rat)} {c : Canvas Rat}

/-! ## Moved boundaries -/

/-- A geometry with all its points moved. -/
def Geometry.mapPoints {α : Type} (move : LonLat α → LonLat α) : Geometry α → Geometry α
  | polygon rings => polygon (rings.map (List.map move))
  | multiPolygon polygons => multiPolygon (polygons.map (List.map (List.map move)))

theorem Geometry.rings_mapPoints {α : Type} (move : LonLat α → LonLat α) (g : Geometry α) :
    (g.mapPoints move).rings = g.rings.map (List.map move) := by
  cases g with
  | polygon rings => rfl
  | multiPolygon polygons => exact List.map_flatten.symm

theorem Geometry.points_mapPoints {α : Type} (move : LonLat α → LonLat α) (g : Geometry α) :
    (g.mapPoints move).points = g.points.map move := by
  rw [points, rings_mapPoints, points, List.map_flatten]

/-- A boundary moved by some longitudes and latitudes. -/
def Feature.shift (dlon dlat : Rat) (f : Feature Rat) : Feature Rat :=
  { f with geometry := f.geometry.mapPoints (LonLat.shift dlon dlat) }

theorem pointsOf_shift (dlon dlat : Rat) (features : List (Feature Rat)) :
    pointsOf (features.map (Feature.shift dlon dlat)) =
      (pointsOf features).map (LonLat.shift dlon dlat) := by
  rw [pointsOf, List.flatMap_map, pointsOf, List.map_flatMap]
  simp only [Feature.shift, Geometry.points_mapPoints]

/-- A box that is moved along with the points places them as before. -/
theorem point_shift (b : Bounds Rat) (c : Canvas Rat) (dlon dlat : Rat) (p : LonLat Rat) :
    Projector.point ⟨b.shift dlon dlat, c⟩ (p.shift dlon dlat) = Projector.point ⟨b, c⟩ p := by
  have hlon : (b.shift dlon dlat).lonSpan = b.lonSpan := by
    simp only [Bounds.lonSpan_eq, Bounds.shift, add_sub_add_right_eq_sub]
  have hlat : (b.shift dlon dlat).latSpan = b.latSpan := by
    simp only [Bounds.latSpan_eq, Bounds.shift, add_sub_add_right_eq_sub]
  have hx : (Projector.point ⟨b.shift dlon dlat, c⟩ (p.shift dlon dlat)).x =
      (Projector.point ⟨b, c⟩ p).x := by
    rw [point_x, point_x, hlon]
    simp only [LonLat.shift, Bounds.shift, add_sub_add_right_eq_sub]
  have hy : (Projector.point ⟨b.shift dlon dlat, c⟩ (p.shift dlon dlat)).y =
      (Projector.point ⟨b, c⟩ p).y := by
    rw [point_y, point_y, hlat]
    simp only [LonLat.shift, Bounds.shift, add_sub_add_right_eq_sub]
  exact congrArg₂ CanvasPoint.mk hx hy

/-- Two boundaries of the same form whose points have the same places have the same shape. -/
theorem shape_mapPoints {pr pr' : Projector Rat} {move : LonLat Rat → LonLat Rat}
    {f : Feature Rat} (h : ∀ p ∈ f.geometry.points, pr'.point (move p) = pr.point p) :
    pr'.shape { f with geometry := f.geometry.mapPoints move } = pr.shape f := by
  have hrings : pr'.rings (f.geometry.mapPoints move) = pr.rings f.geometry := by
    rw [Projector.rings, Geometry.rings_mapPoints, List.map_map, Projector.rings]
    apply List.map_congr_left
    intro ring hring
    rw [Function.comp_apply, List.map_map]
    apply List.map_congr_left
    intro p hp
    exact h p (List.mem_flatten_of_mem hring hp)
  simp only [Projector.shape, hrings]

theorem shape_shift (c : Canvas Rat) (dlon dlat : Rat) {f : Feature Rat} (hf : f ∈ features) :
    (projectorOf (features.map (Feature.shift dlon dlat)) c).shape (f.shift dlon dlat) =
      (projectorOf features c).shape f := by
  apply shape_mapPoints
  intro p hp
  -- a boundary without points has no place that could change, so there is a box to move
  have hne : pointsOf features ≠ [] := List.ne_nil_of_mem (mem_pointsOf.mpr ⟨f, hf, hp⟩)
  have hbox := (isBoundingBox_boundsOf hne).shift dlon dlat
  have hbounds : boundsOf (features.map (Feature.shift dlon dlat)) =
      (boundsOf features).shift dlon dlat := by
    have hset : {p | p ∈ pointsOf (features.map (Feature.shift dlon dlat))} =
        LonLat.shift dlon dlat '' {p | p ∈ pointsOf features} := by
      ext p
      simp [pointsOf_shift]
    apply boundsOf_eq
    rw [hset]
    exact hbox
  rw [projectorOf, hbounds]
  exact point_shift _ _ _ _ _

theorem lastWith?_map {α : Type} {code : String} (move : Feature α → Feature α)
    (hcode : ∀ f, (move f).regionCode = f.regionCode) (features : List (Feature α)) :
    lastWith? code (features.map move) = (lastWith? code features).map move := by
  rw [lastWith?, List.filter_map, List.getLast?_map, lastWith?]
  simp only [Function.comp_def, hcode]

theorem project_shift (features : List (Feature Rat)) (c : Canvas Rat) (dlon dlat : Rat) :
    project (features.map (Feature.shift dlon dlat)) c = project features c := by
  apply Std.ExtTreeMap.ext_getElem?
  intro code
  have hcode : ∀ f, (Feature.shift dlon dlat f).regionCode = f.regionCode := fun f => rfl
  rw [getElem?_project, getElem?_project, lastWith?_map _ hcode, Option.map_map]
  apply Option.map_congr
  intro f hlast
  exact shape_shift c dlon dlat (mem_of_lastWith? hlast).1

/-! ## Boundaries in another order -/

theorem lastWith?_eq_some_iff {α : Type} {features : List (Feature α)}
    (hnodup : (features.map Feature.regionCode).Nodup) {code : String} {f : Feature α} :
    lastWith? code features = some f ↔ f ∈ features ∧ f.regionCode = code := by
  refine ⟨mem_of_lastWith?, fun ⟨hf, hcode⟩ => ?_⟩
  cases hlast : lastWith? code features with
  | none =>
    rw [lastWith?, List.getLast?_eq_none_iff, List.filter_eq_nil_iff] at hlast
    exact absurd (decide_eq_true hcode) (hlast f hf)
  | some g =>
    obtain ⟨hg, hgcode⟩ := mem_of_lastWith? hlast
    rw [List.inj_on_of_nodup_map hnodup hg hf (hgcode.trans hcode.symm)]

theorem boundsOf_congr {features others : List (Feature Rat)}
    (h : ∀ p, p ∈ pointsOf features ↔ p ∈ pointsOf others) :
    boundsOf features = boundsOf others := by
  by_cases hnone : pointsOf others = []
  · have hnone' : pointsOf features = [] := by
      rw [List.eq_nil_iff_forall_not_mem]
      intro p hp
      rw [h, hnone] at hp
      exact List.not_mem_nil hp
    show (Bounds.ofPoints? (pointsOf features)).getD _ = (Bounds.ofPoints? (pointsOf others)).getD _
    rw [hnone, hnone']
  · apply boundsOf_eq
    have hset : {p | p ∈ pointsOf features} = {p | p ∈ pointsOf others} := Set.ext h
    rw [hset]
    exact isBoundingBox_boundsOf hnone

theorem project_perm {features others : List (Feature Rat)} (h : features.Perm others)
    (hnodup : (features.map Feature.regionCode).Nodup) (c : Canvas Rat) :
    project others c = project features c := by
  have hlast : ∀ code, lastWith? code others = lastWith? code features := by
    intro code
    apply Option.ext
    intro f
    rw [lastWith?_eq_some_iff hnodup,
      lastWith?_eq_some_iff ((h.map Feature.regionCode).nodup_iff.mp hnodup), h.mem_iff]
  have hbounds : boundsOf others = boundsOf features := by
    apply boundsOf_congr
    intro p
    simp only [mem_pointsOf, h.mem_iff]
  apply Std.ExtTreeMap.ext_getElem?
  intro code
  rw [getElem?_project, getElem?_project, hlast, projectorOf, hbounds, projectorOf]

/-! ## Boundaries inside the box -/

theorem lastWith?_insert {α : Type} {before after : List (Feature α)} {f : Feature α}
    {code : String} (hcode : code ≠ f.regionCode) :
    lastWith? code (before ++ f :: after) = lastWith? code (before ++ after) := by
  simp [lastWith?, hcode.symm]

/-- A boundary that is added anywhere inside the box leaves all others as they are. -/
theorem project_insert {before after : List (Feature Rat)} {f : Feature Rat}
    (hne : pointsOf (before ++ after) ≠ [])
    (hinside : ∀ p ∈ f.geometry.points, (boundsOf (before ++ after)).Contains p) (c : Canvas Rat)
    {code : String} (hcode : code ≠ f.regionCode) :
    (project (before ++ f :: after) c)[code]? = (project (before ++ after) c)[code]? := by
  have hbounds : boundsOf (before ++ f :: after) = boundsOf (before ++ after) := by
    have hset : {p | p ∈ pointsOf (before ++ f :: after)} =
        {p | p ∈ pointsOf (before ++ after)} ∪ {p | p ∈ f.geometry.points} := by
      ext p
      simp only [pointsOf, List.flatMap_append, List.flatMap_cons, List.mem_append,
        Set.mem_union, Set.mem_ofPred_eq]
      tauto
    apply boundsOf_eq
    rw [hset]
    exact (isBoundingBox_boundsOf hne).union hinside
  rw [getElem?_project, getElem?_project, lastWith?_insert hcode, projectorOf, hbounds,
    projectorOf]

/-! ## Boundaries with one code -/

theorem lastWith?_of_split {α : Type} {before after : List (Feature α)} {f : Feature α}
    (hlast : ∀ g ∈ after, g.regionCode ≠ f.regionCode) :
    lastWith? f.regionCode (before ++ f :: after) = some f := by
  have hnone : after.filter (fun g => g.regionCode = f.regionCode) = [] := by
    simpa [List.filter_eq_nil_iff] using hlast
  simp [lastWith?, hnone]

/-! ## All laws together -/

/-- What is asked of the projection of a collection. -/
structure Keeps (features : List (Feature Rat)) (c : Canvas Rat) : Prop where
  /-- The collection may lie elsewhere. -/
  shift : ∀ dlon dlat, project (features.map (Feature.shift dlon dlat)) c = project features c
  /-- Boundaries with codes of their own may come in any order. -/
  reorder : ∀ others, features.Perm others → (features.map Feature.regionCode).Nodup →
    project others c = project features c
  /-- A boundary inside the box does not change what is drawn under other codes. -/
  insert : ∀ before after f, features = before ++ after → pointsOf features ≠ [] →
    (∀ p ∈ f.geometry.points, (boundsOf features).Contains p) →
    ∀ code, code ≠ f.regionCode →
      (project (before ++ f :: after) c)[code]? = (project features c)[code]?
  /-- Of several boundaries with one code the last is drawn, on the scale of all. -/
  last : ∀ before f after, features = before ++ f :: after →
    (∀ g ∈ after, g.regionCode ≠ f.regionCode) →
    (project features c)[f.regionCode]? =
      some (Projector.shape ⟨boundsOf features, c⟩ f)
  box : pointsOf features ≠ [] → IsBoundingBox {p | p ∈ pointsOf features} (boundsOf features)

theorem project_keeps (features : List (Feature Rat)) (c : Canvas Rat) : Keeps features c where
  shift := project_shift features c
  reorder := fun _ h hnodup => project_perm h hnodup c
  insert := by
    rintro before after f rfl hne hinside code hcode
    exact project_insert hne hinside c hcode
  last := by
    rintro before f after rfl hlast
    rw [getElem?_project, lastWith?_of_split hlast]
    rfl
  box := isBoundingBox_boundsOf

/-! ## A square and a boundary inside it -/

def squareOfSeoul : Feature Rat :=
  ⟨"KR-11", "서울특별시", .polygon [[⟨126, 37⟩, ⟨127, 37⟩, ⟨127, 38⟩, ⟨126, 38⟩]]⟩

/-- A boundary of a single point. -/
def pointOfBusan : Feature Rat :=
  ⟨"KR-26", "부산광역시", .polygon [[⟨253 / 2, 75 / 2⟩]]⟩

/-- The square is drawn the same with the other boundary before or after it. -/
theorem project_keeps_squareOfSeoul :
    (project [squareOfSeoul, pointOfBusan] ⟨760, 900, 30⟩)["KR-11"]? =
        (project [squareOfSeoul] ⟨760, 900, 30⟩)["KR-11"]? ∧
      project [pointOfBusan, squareOfSeoul] ⟨760, 900, 30⟩ =
        project [squareOfSeoul, pointOfBusan] ⟨760, 900, 30⟩ := by
  have hkeeps := project_keeps [squareOfSeoul] ⟨760, 900, 30⟩
  have hne : pointsOf [squareOfSeoul] ≠ [] := by decide
  have hbox := hkeeps.box hne
  have hlow := hbox.contains (show ⟨126, 37⟩ ∈ pointsOf [squareOfSeoul] by decide)
  have hhigh := hbox.contains (show ⟨127, 38⟩ ∈ pointsOf [squareOfSeoul] by decide)
  constructor
  · apply hkeeps.insert [squareOfSeoul] [] pointOfBusan rfl hne _ "KR-11" (by decide)
    intro p hp
    obtain rfl : p = ⟨253 / 2, 75 / 2⟩ := List.mem_singleton.mp hp
    constructor
    · exact hlow.west.trans (by norm_num)
    · exact le_trans (by norm_num) hhigh.east
    · exact hlow.south.trans (by norm_num)
    · exact le_trans (by norm_num) hhigh.north
  · apply (project_keeps [squareOfSeoul, pointOfBusan] ⟨760, 900, 30⟩).reorder
    · exact List.Perm.swap _ _ _
    · decide

end PollAtlas.Boundary
