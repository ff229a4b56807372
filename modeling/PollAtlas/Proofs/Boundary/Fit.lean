import Mathlib.Tactic.GCongr
import PollAtlas.Proofs.Boundary.Placement

/-!
# Projections fit the canvas

A projection places every point of a collection inside the padding of the canvas, and so it
places the labels, which are means of such points. The shares of the spans are 0 in the west and
the north. In the east and the south they are 1, unless the span is less than a tenth of a degree
and was raised. All boundaries share the scale, those included whose codes come again later and
whose shapes are not kept.

* `Lands`: a point of a boundary and the point of an outline that stands for it.
* `Fits`: what is asked of a projection.
* `project_fits`: every projection onto a canvas with room inside its padding.
-/

namespace PollAtlas.Boundary

/-- A point of a boundary, and the point in the outline of the boundary's shape that stands at
the same position. -/
def Lands (features : List (Feature Rat)) (c : Canvas Rat) (p : LonLat Rat)
    (q : CanvasPoint Rat) : Prop :=
  ∃ f ∈ features, ∃ i : Nat, f.geometry.points[i]? = some p ∧
    ((projectorOf features c).shape f).outline.points[i]? = some q

section

variable {features : List (Feature Rat)} {c : Canvas Rat} {p : LonLat Rat} {q : CanvasPoint Rat}

theorem Lands.mem (h : Lands features c p q) : p ∈ pointsOf features := by
  obtain ⟨f, hf, i, hp, _⟩ := h
  exact mem_pointsOf.mpr ⟨f, hf, List.mem_of_getElem? hp⟩

theorem Lands.eq_point (h : Lands features c p q) : q = (projectorOf features c).point p := by
  obtain ⟨f, _, i, hp, hq⟩ := h
  rw [shape_points, List.getElem?_map, hp] at hq
  exact (Option.some.inj hq).symm

theorem exists_lands (c : Canvas Rat) (hp : p ∈ pointsOf features) :
    ∃ q, Lands features c p q := by
  obtain ⟨f, hf, hmem⟩ := mem_pointsOf.mp hp
  obtain ⟨i, hi⟩ := List.mem_iff_getElem?.mp hmem
  refine ⟨(projectorOf features c).point p, f, hf, i, hi, ?_⟩
  rw [shape_points, List.getElem?_map, hi]
  rfl

theorem isBoundingBox_of_mem (c : Canvas Rat) (hp : p ∈ pointsOf features) :
    IsBoundingBox {r | r ∈ pointsOf features} (projectorOf features c).bounds :=
  isBoundingBox_boundsOf (List.ne_nil_of_mem hp)

theorem frames_of_mem (hroom : c.IsRoomy) (hp : p ∈ pointsOf features) :
    c.Frames ((projectorOf features c).point p) :=
  frames_point (projectorOf features c) hroom ((isBoundingBox_of_mem c hp).contains hp)

theorem lonSpan_eq_of_wide {b : Bounds Rat} (h : IsBoundingBox {r | r ∈ pointsOf features} b)
    {r : LonLat Rat} (hp : p ∈ pointsOf features) (hr : r ∈ pointsOf features)
    (hwide : 1 / 10 ≤ p.lon - r.lon) : b.lonSpan = b.maxLon - b.minLon := by
  rw [b.lonSpan_eq]
  apply max_eq_right
  linarith [(h.contains hp).east, (h.contains hr).west]

theorem latSpan_eq_of_high {b : Bounds Rat} (h : IsBoundingBox {r | r ∈ pointsOf features} b)
    {r : LonLat Rat} (hp : p ∈ pointsOf features) (hr : r ∈ pointsOf features)
    (hhigh : 1 / 10 ≤ r.lat - p.lat) : b.latSpan = b.maxLat - b.minLat := by
  rw [b.latSpan_eq]
  apply max_eq_right
  linarith [(h.contains hp).south, (h.contains hr).north]

end

/-- What is asked of the projection of a collection. It fills the canvas inside its padding, the
west on the left and the north at the top, with one scale for all boundaries, those included
whose codes come again later and whose shapes are not kept. -/
structure Fits (features : List (Feature Rat)) (c : Canvas Rat) : Prop where
  drawn : ∀ code, (project features c)[code]? =
    (lastWith? code features).map (projectorOf features c).shape
  lonSpan : ∀ b : Bounds Rat, 1 / 10 ≤ b.lonSpan
  latSpan : ∀ b : Bounds Rat, 1 / 10 ≤ b.latSpan
  lands : ∀ p ∈ pointsOf features, ∃ q, Lands features c p q
  inside : ∀ p q, Lands features c p q → c.Frames q
  outline : ∀ (code : String) (shape : Shape Rat), (project features c)[code]? = some shape →
    ∀ q ∈ shape.outline.points, c.Frames q
  centroid : ∀ f ∈ features, f.geometry.points ≠ [] →
    c.Frames ((projectorOf features c).shape f).centroid
  west : ∀ p q, Lands features c p q → (∀ r ∈ pointsOf features, p.lon ≤ r.lon) →
    q.x = c.padding
  north : ∀ p q, Lands features c p q → (∀ r ∈ pointsOf features, r.lat ≤ p.lat) →
    q.y = c.padding
  east : ∀ p q, Lands features c p q → (∀ r ∈ pointsOf features, r.lon ≤ p.lon) →
    (∃ r ∈ pointsOf features, 1 / 10 ≤ p.lon - r.lon) → q.x = c.width - c.padding
  south : ∀ p q, Lands features c p q → (∀ r ∈ pointsOf features, p.lat ≤ r.lat) →
    (∃ r ∈ pointsOf features, 1 / 10 ≤ r.lat - p.lat) → q.y = c.height - c.padding
  lon_mono : ∀ p q p' q', Lands features c p q → Lands features c p' q' → p.lon ≤ p'.lon →
    q.x ≤ q'.x
  lat_anti : ∀ p q p' q', Lands features c p q → Lands features c p' q' → p.lat ≤ p'.lat →
    q'.y ≤ q.y

/-- Every collection is projected onto the part of a canvas inside its padding. -/
theorem project_fits (features : List (Feature Rat)) {c : Canvas Rat} (hroom : c.IsRoomy) :
    Fits features c where
  drawn := getElem?_project features c
  lonSpan := lonSpan_ge
  latSpan := latSpan_ge
  lands := fun p hp => exists_lands c hp
  inside := fun p q h => h.eq_point ▸ frames_of_mem hroom h.mem
  outline := fun code shape hshape q hq => by
    rw [getElem?_project, Option.map_eq_some_iff] at hshape
    obtain ⟨f, hlast, rfl⟩ := hshape
    rw [shape_points, List.mem_map] at hq
    obtain ⟨p, hp, rfl⟩ := hq
    exact frames_of_mem hroom (mem_pointsOf.mpr ⟨f, (mem_of_lastWith? hlast).1, hp⟩)
  centroid := fun f hf hne => by
    rw [shape_centroid]
    apply frames_meanPoint
    · simpa using hne
    · rw [List.forall_mem_map]
      intro p hp
      exact frames_of_mem hroom (mem_pointsOf.mpr ⟨f, hf, hp⟩)
  west := fun p q h hwest => by
    rw [h.eq_point, point_x, (isBoundingBox_of_mem c h.mem).minLon_eq h.mem hwest]
    simp [projectorOf]
  north := fun p q h hnorth => by
    rw [h.eq_point, point_y, (isBoundingBox_of_mem c h.mem).maxLat_eq h.mem hnorth]
    simp [projectorOf]
  east := fun p q h heast ⟨r, hr, hwide⟩ => by
    have hbox := isBoundingBox_of_mem c h.mem
    have hspan := lonSpan_eq_of_wide hbox h.mem hr hwide
    have hpos := lonSpan_pos (projectorOf features c).bounds
    rw [hbox.maxLon_eq h.mem heast] at hspan
    rw [h.eq_point, point_x, ← hspan, div_self hpos.ne']
    show c.padding + 1 * (c.width - 2 * c.padding) = c.width - c.padding
    ring
  south := fun p q h hsouth ⟨r, hr, hhigh⟩ => by
    have hbox := isBoundingBox_of_mem c h.mem
    have hspan := latSpan_eq_of_high hbox h.mem hr hhigh
    have hpos := latSpan_pos (projectorOf features c).bounds
    rw [hbox.minLat_eq h.mem hsouth] at hspan
    rw [h.eq_point, point_y, ← hspan, div_self hpos.ne']
    show c.padding + 1 * (c.height - 2 * c.padding) = c.height - c.padding
    ring
  lon_mono := fun p q p' q' h h' hle => by
    have hwidth : 0 ≤ c.width - 2 * c.padding := by linarith [hroom.width]
    have hpos := lonSpan_pos (projectorOf features c).bounds
    rw [h.eq_point, h'.eq_point, point_x, point_x]
    show c.padding + _ * (c.width - 2 * c.padding) ≤ c.padding + _ * (c.width - 2 * c.padding)
    gcongr
  lat_anti := fun p q p' q' h h' hle => by
    have hheight : 0 ≤ c.height - 2 * c.padding := by linarith [hroom.height]
    have hpos := latSpan_pos (projectorOf features c).bounds
    rw [h.eq_point, h'.eq_point, point_y, point_y]
    show c.padding + _ * (c.height - 2 * c.padding) ≤ c.padding + _ * (c.height - 2 * c.padding)
    gcongr

/-! ## A boundary that is drawn no more -/

/-- A square whose code comes again with a ring of one point and an empty ring. -/
def redrawnSquare : List (Feature Rat) :=
  [⟨"KR-11", "서울특별시", .polygon [[⟨0, 0⟩, ⟨1, 0⟩, ⟨1, 1⟩, ⟨0, 1⟩]]⟩,
    ⟨"KR-11", "서울특별시", .multiPolygon [[[⟨1, 0⟩], []]]⟩]

/-- The corner in the south-east lies on the right and at the bottom of the canvas. -/
theorem project_fits_redrawnSquare :
    Canvas.IsRoomy ⟨760, 900, 30⟩ ∧
      ∃ q, Lands redrawnSquare ⟨760, 900, 30⟩ ⟨1, 0⟩ q ∧ q = ⟨730, 870⟩ := by
  have hroom : Canvas.IsRoomy ⟨760, 900, 30⟩ := ⟨by norm_num, by norm_num⟩
  have hfits := project_fits redrawnSquare hroom
  have hmem : ⟨1, 0⟩ ∈ pointsOf redrawnSquare := by decide
  have hcorner : ⟨0, 1⟩ ∈ pointsOf redrawnSquare := by decide
  obtain ⟨q, hq⟩ := hfits.lands ⟨1, 0⟩ hmem
  have hx := hfits.east _ q hq (by decide) ⟨_, hcorner, by norm_num⟩
  have hy := hfits.south _ q hq (by decide) ⟨_, hcorner, by norm_num⟩
  refine ⟨hroom, q, hq, ?_⟩
  cases q
  simp only [CanvasPoint.mk.injEq]
  exact ⟨hx.trans (by norm_num), hy.trans (by norm_num)⟩

end PollAtlas.Boundary
