import Mathlib.Algebra.BigOperators.Ring.List
import Mathlib.Data.Finset.Max
import Mathlib.Tactic.FieldSimp
import PollAtlas.Proofs.Boundary.Placement

/-!
# Where labels stand

A label stands at the mean of the places of a boundary's points. Over the rationals each coordinate
of a place is an affine function of longitude or latitude, whatever the box and the canvas are, and
a mean commutes with affine functions. So the label stands at the place of the boundary's mean
point, where a point counts as often as it occurs in the rings. A mean lies between the least and
the greatest of its numbers, which keeps the label in the box of the outline.

* `meanLonLat`: the mean point of a boundary.
* `mean_affine`: the mean of an affine function.
* `CanvasBox.IsOf`: the box of points on the canvas.
* `shape_label`: where a label stands.
-/

namespace PollAtlas.Boundary

/-! ## Means -/

/-- The mean of points on the globe, each counted as often as it occurs. -/
def meanLonLat (points : List (LonLat Rat)) : LonLat Rat :=
  ⟨(points.map LonLat.lon).sum / points.length, (points.map LonLat.lat).sum / points.length⟩

/-- The mean of an affine function is the function of the mean. -/
theorem mean_affine (xs : List Rat) (hne : xs ≠ []) (shift factor : Rat) :
    (xs.map fun x => shift + x * factor).sum / xs.length =
      shift + xs.sum / xs.length * factor := by
  have hlength : (xs.length : Rat) ≠ 0 := by
    exact_mod_cast (List.length_pos_iff.mpr hne).ne'
  have hsum : (xs.map fun x => shift + x * factor).sum = xs.length * shift + xs.sum * factor := by
    rw [List.sum_map_add, List.sum_map_mul_right, List.map_const', List.sum_replicate, List.map_id',
      nsmul_eq_mul]
  -- The shift is added once for each number, and the division takes that back.
  rw [hsum]
  field_simp

theorem point_x_affine (pr : Projector Rat) : ∃ shift factor : Rat,
    ∀ p, (pr.point p).x = shift + p.lon * factor := by
  have hspan := (lonSpan_pos pr.bounds).ne'
  refine ⟨pr.canvas.padding - pr.bounds.minLon / pr.bounds.lonSpan *
      (pr.canvas.width - 2 * pr.canvas.padding),
    (pr.canvas.width - 2 * pr.canvas.padding) / pr.bounds.lonSpan, ?_⟩
  intro p
  rw [point_x]
  field_simp
  ring

theorem point_y_affine (pr : Projector Rat) : ∃ shift factor : Rat,
    ∀ p, (pr.point p).y = shift + p.lat * factor := by
  have hspan := (latSpan_pos pr.bounds).ne'
  refine ⟨pr.canvas.padding + pr.bounds.maxLat / pr.bounds.latSpan *
      (pr.canvas.height - 2 * pr.canvas.padding),
    -(pr.canvas.height - 2 * pr.canvas.padding) / pr.bounds.latSpan, ?_⟩
  intro p
  rw [point_y]
  field_simp
  ring

/-- The mean of the places is the place of the mean. -/
theorem meanPoint_map_point (pr : Projector Rat) {points : List (LonLat Rat)} (hne : points ≠ []) :
    meanPoint (points.map pr.point) = pr.point (meanLonLat points) := by
  obtain ⟨xShift, xFactor, hx⟩ := point_x_affine pr
  obtain ⟨yShift, yFactor, hy⟩ := point_y_affine pr
  have hmean : (meanPoint (points.map pr.point)) =
      ⟨xShift + (meanLonLat points).lon * xFactor, yShift + (meanLonLat points).lat * yFactor⟩ := by
    have hlon := mean_affine (points.map LonLat.lon) (by simpa using hne) xShift xFactor
    have hlat := mean_affine (points.map LonLat.lat) (by simpa using hne) yShift yFactor
    simp only [List.map_map, List.length_map, Function.comp_def] at hlon hlat
    rw [meanPoint_eq (by simpa using hne)]
    simp only [List.map_map, List.length_map, Function.comp_def, hx, hy, hlon, hlat, meanLonLat]
  rw [hmean, ← hx, ← hy]

/-! ## The box of an outline -/

/-- The least box around points on the canvas. -/
structure CanvasBox.IsOf (b : CanvasBox) (points : List (CanvasPoint Rat)) : Prop where
  left : IsLeast {x | x ∈ points.map CanvasPoint.x} b.left
  right : IsGreatest {x | x ∈ points.map CanvasPoint.x} b.right
  top : IsLeast {y | y ∈ points.map CanvasPoint.y} b.top
  bottom : IsGreatest {y | y ∈ points.map CanvasPoint.y} b.bottom

theorem exists_isLeast_isGreatest {xs : List Rat} (hne : xs ≠ []) :
    ∃ low high, IsLeast {x | x ∈ xs} low ∧ IsGreatest {x | x ∈ xs} high := by
  have hnonempty : xs.toFinset.Nonempty := List.toFinset_nonempty_iff xs |>.mpr hne
  have hset : {x | x ∈ xs} = (xs.toFinset : Set Rat) := by
    ext x
    simp
  rw [hset]
  exact ⟨_, _, xs.toFinset.isLeast_min' hnonempty, xs.toFinset.isGreatest_max' hnonempty⟩

theorem CanvasBox.exists_isOf {points : List (CanvasPoint Rat)} (hne : points ≠ []) :
    ∃ b : CanvasBox, b.IsOf points := by
  obtain ⟨left, right, hleft, hright⟩ :=
    exists_isLeast_isGreatest (mt List.map_eq_nil_iff.mp hne : points.map CanvasPoint.x ≠ [])
  obtain ⟨top, bottom, htop, hbottom⟩ :=
    exists_isLeast_isGreatest (mt List.map_eq_nil_iff.mp hne : points.map CanvasPoint.y ≠ [])
  exact ⟨⟨left, right, top, bottom⟩, hleft, hright, htop, hbottom⟩

theorem CanvasBox.IsOf.contains {b : CanvasBox} {points : List (CanvasPoint Rat)}
    (h : b.IsOf points) {q : CanvasPoint Rat} (hq : q ∈ points) : b.Contains q where
  left := h.left.2 (List.mem_map_of_mem hq)
  right := h.right.2 (List.mem_map_of_mem hq)
  top := h.top.2 (List.mem_map_of_mem hq)
  bottom := h.bottom.2 (List.mem_map_of_mem hq)

/-! ## Labels -/

/-- The label of a boundary that has points stands at the place of their mean, in the box of its
own outline. -/
theorem shape_label (pr : Projector Rat) {f : Feature Rat} (hne : f.geometry.points ≠ []) :
    (pr.shape f).centroid = pr.point (meanLonLat f.geometry.points) ∧
      ∃ b : CanvasBox, b.IsOf (pr.shape f).outline.points ∧
        b.Contains (pr.shape f).centroid := by
  rw [shape_points, shape_centroid]
  have hplaces : f.geometry.points.map pr.point ≠ [] := mt List.map_eq_nil_iff.mp hne
  refine ⟨meanPoint_map_point pr hne, ?_⟩
  obtain ⟨b, hbox⟩ := CanvasBox.exists_isOf hplaces
  exact ⟨b, hbox, CanvasBox.contains_meanPoint hplaces fun q hq => hbox.contains hq⟩

/-- Two polygons, an empty ring and a point that comes twice. -/
def repeatedCorner : Feature Rat :=
  ⟨"KR-36", "세종특별자치시", .multiPolygon [[[⟨0, 0⟩, ⟨1, 0⟩, ⟨0, 0⟩], []], [[⟨0, 3⟩]]]⟩

/-- A projector whose box is narrower than a tenth of a degree. -/
def narrowProjector : Projector Rat := ⟨⟨0, 1 / 20, 0, 4⟩, ⟨100, 100, 10⟩⟩

/-- The corner that comes twice counts twice, and the label need not be on the canvas. -/
theorem shape_label_repeatedCorner :
    repeatedCorner.geometry.points ≠ [] ∧
      (narrowProjector.shape repeatedCorner).centroid = ⟨210, 75⟩ := by
  have hne : repeatedCorner.geometry.points ≠ [] := by decide
  obtain ⟨hlabel, _⟩ := shape_label narrowProjector hne
  have hmean : meanLonLat repeatedCorner.geometry.points = ⟨1 / 4, 3 / 4⟩ := by decide +kernel
  refine ⟨hne, ?_⟩
  rw [hlabel, hmean]
  decide +kernel

end PollAtlas.Boundary
