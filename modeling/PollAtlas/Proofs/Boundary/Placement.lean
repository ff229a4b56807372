import Mathlib.Algebra.Order.BigOperators.Group.List
import Mathlib.Algebra.Order.Field.Basic
import Mathlib.Data.List.Induction
import Mathlib.Tactic.Linarith
import Mathlib.Tactic.Ring
import PollAtlas.Proofs.Boundary.BoundingBox

/-!
# Where boundaries are placed on the canvas

A shape is drawn point by point, so an outline holds the places of the boundary's points in
order, and the label stands at their mean. Over the rationals a place is an affine function of
longitude and latitude: behind the padding comes the share of a span. The spans are those of the
bounding box or larger, so the shares of points inside the box are between 0 and 1.

* `getElem?_project`: the shape under a code.
* `shape_eq`: a shape ring by ring.
* `shape_points`, `shape_centroid`: an outline point by point, and its label.
* `point_x`, `point_y`: the place of a point.
* `Canvas.Frames`, `frames_point`, `frames_meanPoint`: the canvas inside its padding.
* `CanvasBox.contains_meanPoint`: a mean lies in every box around its points.
-/

namespace PollAtlas.Boundary

variable {α : Type}

/-! ## Outlines -/

/-- The point that a command draws to. -/
def DrawCommand.point? : DrawCommand α → Option (CanvasPoint α)
  | moveTo p => some p
  | lineTo p => some p
  | close => none

/-- The points of an outline, in order. -/
def Outline.points (o : Outline α) : List (CanvasPoint α) :=
  o.commands.filterMap DrawCommand.point?

theorem Outline.filterMap_segment (ring : List (CanvasPoint α)) :
    (segment ring).filterMap DrawCommand.point? = ring := by
  cases ring with
  | nil => rfl
  | cons first rest =>
    have hlines : (rest.map DrawCommand.lineTo).filterMap DrawCommand.point? = rest := by
      rw [List.filterMap_map]
      exact List.filterMap_some
    simp [segment, DrawCommand.point?, hlines]

theorem Outline.points_ofRings (rings : List (List (CanvasPoint α))) :
    (ofRings rings).points = rings.flatten := by
  induction rings with
  | nil => rfl
  | cons ring rings ih =>
    simp only [points, commands, ofRings] at ih ⊢
    rw [List.map_cons, List.flatten_cons, List.filterMap_append, filterMap_segment, ih,
      List.flatten_cons]

/-! ## Shapes by their codes -/

/-- The last boundary with a code. -/
def lastWith? (code : String) (features : List (Feature α)) : Option (Feature α) :=
  (features.filter fun f => f.regionCode = code).getLast?

theorem mem_of_lastWith? {code : String} {features : List (Feature α)} {f : Feature α}
    (h : lastWith? code features = some f) : f ∈ features ∧ f.regionCode = code := by
  have hmem := List.mem_filter.mp (List.mem_of_getLast? h)
  exact ⟨hmem.1, of_decide_eq_true hmem.2⟩

theorem lastWith?_concat (code : String) (features : List (Feature α)) (f : Feature α) :
    lastWith? code (features ++ [f]) =
      if f.regionCode = code then some f else lastWith? code features := by
  rw [lastWith?, List.filter_append]
  by_cases h : f.regionCode = code
  · simp [h]
  · simp [h, lastWith?]

section

variable [Scalar α]

/-- What places boundaries on the canvas on the scale of a whole collection. -/
def projectorOf (features : List (Feature α)) (c : Canvas α) : Projector α :=
  ⟨boundsOf features, c⟩

/-- The shape under a code is that of the last boundary with the code, on the scale of all. -/
theorem getElem?_project (features : List (Feature α)) (c : Canvas α) (code : String) :
    (project features c)[code]? =
      (lastWith? code features).map (projectorOf features c).shape := by
  show (features.foldl (fun shapes f => shapes.insert f.regionCode
    ((projectorOf features c).shape f)) ∅ : Std.ExtTreeMap String (Shape α))[code]? = _
  generalize projectorOf features c = pr
  induction features using List.reverseRecOn with
  | nil => exact Std.ExtTreeMap.getElem?_empty
  | append_singleton features f ih =>
    rw [List.foldl_append, lastWith?_concat]
    simp only [List.foldl_cons, List.foldl_nil, Std.ExtTreeMap.getElem?_insert]
    by_cases h : f.regionCode = code
    · simp [h]
    · simp [h, ih]

/-- A shape is drawn ring by ring, and its label stands at the mean of all their points. -/
theorem shape_eq (pr : Projector α) {f : Feature α} {rings : List (Ring α)}
    (h : f.geometry.HasRings rings) :
    pr.shape f = ⟨Outline.ofRings (rings.map (List.map pr.point)),
      meanPoint (rings.flatten.map pr.point)⟩ := by
  rw [Projector.shape, Projector.rings, h.rings_eq, List.map_flatten]

/-- An outline holds the places of the boundary's points. -/
theorem shape_points (pr : Projector α) (f : Feature α) :
    (pr.shape f).outline.points = f.geometry.points.map pr.point := by
  obtain ⟨rings, hrings⟩ := f.geometry.exists_hasRings
  rw [shape_eq pr hrings, Outline.points_ofRings, hrings.points_eq, List.map_flatten]

theorem shape_centroid (pr : Projector α) (f : Feature α) :
    (pr.shape f).centroid = meanPoint (f.geometry.points.map pr.point) := by
  obtain ⟨rings, hrings⟩ := f.geometry.exists_hasRings
  rw [shape_eq pr hrings, hrings.points_eq]

end

/-! ## Places -/

theorem Canvas.inner_eq (c : Canvas Rat) (side : Rat) : c.inner side = side - 2 * c.padding := by
  simp only [inner, Scalar.mulAdd, Scalar.ofNat, Scalar.ofRatio]
  push_cast
  ring

theorem point_x (pr : Projector Rat) (p : LonLat Rat) :
    (pr.point p).x = pr.canvas.padding +
      (p.lon - pr.bounds.minLon) / pr.bounds.lonSpan *
        (pr.canvas.width - 2 * pr.canvas.padding) := by
  rw [← Canvas.inner_eq]
  rfl

theorem point_y (pr : Projector Rat) (p : LonLat Rat) :
    (pr.point p).y = pr.canvas.padding +
      (pr.bounds.maxLat - p.lat) / pr.bounds.latSpan *
        (pr.canvas.height - 2 * pr.canvas.padding) := by
  rw [← Canvas.inner_eq]
  rfl

theorem lonSpan_ge (b : Bounds Rat) : 1 / 10 ≤ b.lonSpan := by
  rw [b.lonSpan_eq]
  exact le_max_left _ _

theorem latSpan_ge (b : Bounds Rat) : 1 / 10 ≤ b.latSpan := by
  rw [b.latSpan_eq]
  exact le_max_left _ _

theorem lonSpan_pos (b : Bounds Rat) : 0 < b.lonSpan :=
  lt_of_lt_of_le (by norm_num) (lonSpan_ge b)

theorem latSpan_pos (b : Bounds Rat) : 0 < b.latSpan :=
  lt_of_lt_of_le (by norm_num) (latSpan_ge b)

/-- A share of a length, behind a margin, stays between the margin and the length. -/
theorem margin_add_share (margin : Rat) {length part span : Rat} (hlength : 0 ≤ length)
    (hspan : 0 < span) (hpart : 0 ≤ part) (hle : part ≤ span) :
    margin ≤ margin + part / span * length ∧ margin + part / span * length ≤ margin + length := by
  have hzero : 0 ≤ part / span := div_nonneg hpart hspan.le
  have hone : part / span ≤ 1 := (div_le_one hspan).mpr hle
  constructor
  · linarith [mul_nonneg hzero hlength]
  · linarith [mul_le_of_le_one_left hlength hone]

/-- The part of the canvas inside its padding. -/
structure Canvas.Frames (c : Canvas Rat) (q : CanvasPoint Rat) : Prop where
  left : c.padding ≤ q.x
  right : q.x ≤ c.width - c.padding
  top : c.padding ≤ q.y
  bottom : q.y ≤ c.height - c.padding

/-- The canvas has room inside its padding. -/
structure Canvas.IsRoomy (c : Canvas Rat) : Prop where
  width : 2 * c.padding ≤ c.width
  height : 2 * c.padding ≤ c.height

theorem frames_point (pr : Projector Rat) (hroom : pr.canvas.IsRoomy) {p : LonLat Rat}
    (hp : pr.bounds.Contains p) : pr.canvas.Frames (pr.point p) := by
  have hwidth : 0 ≤ pr.canvas.width - 2 * pr.canvas.padding := by linarith [hroom.width]
  have hheight : 0 ≤ pr.canvas.height - 2 * pr.canvas.padding := by linarith [hroom.height]
  have hlon : p.lon - pr.bounds.minLon ≤ pr.bounds.lonSpan := by
    rw [pr.bounds.lonSpan_eq]
    exact le_max_of_le_right (by linarith [hp.east])
  have hlat : pr.bounds.maxLat - p.lat ≤ pr.bounds.latSpan := by
    rw [pr.bounds.latSpan_eq]
    exact le_max_of_le_right (by linarith [hp.south])
  have hx := margin_add_share pr.canvas.padding hwidth (lonSpan_pos pr.bounds)
    (sub_nonneg.mpr hp.west) hlon
  have hy := margin_add_share pr.canvas.padding hheight (latSpan_pos pr.bounds)
    (sub_nonneg.mpr hp.north) hlat
  rw [← point_x] at hx
  rw [← point_y] at hy
  exact ⟨hx.1, by linarith [hx.2], hy.1, by linarith [hy.2]⟩

/-! ## Means -/

theorem scalar_ofNat_eq (n : Nat) : (Scalar.ofNat n : Rat) = n := by
  simp [Scalar.ofNat, Scalar.ofRatio]

theorem foldl_sum (points : List (CanvasPoint Rat)) (start : CanvasPoint Rat) :
    points.foldl (fun sum p => (⟨sum.x + p.x, sum.y + p.y⟩ : CanvasPoint Rat)) start =
      ⟨start.x + (points.map CanvasPoint.x).sum, start.y + (points.map CanvasPoint.y).sum⟩ := by
  induction points generalizing start with
  | nil => simp
  | cons p points ih =>
    rw [List.foldl_cons, ih]
    simp [add_assoc]

theorem meanPoint_eq {points : List (CanvasPoint Rat)} (h : points ≠ []) :
    meanPoint points =
      ⟨(points.map CanvasPoint.x).sum / points.length,
        (points.map CanvasPoint.y).sum / points.length⟩ := by
  have hempty : points.isEmpty = false := by simpa using h
  have hsum := foldl_sum points ⟨Scalar.ofNat 0, Scalar.ofNat 0⟩
  simp only [scalar_ofNat_eq, Nat.cast_zero, zero_add] at hsum
  simp only [meanPoint, hempty, scalar_ofNat_eq, Nat.cast_zero, Bool.false_eq_true, if_false]
  rw [hsum]

theorem le_mean {xs : List Rat} (hne : xs ≠ []) {low : Rat} (h : ∀ x ∈ xs, low ≤ x) :
    low ≤ xs.sum / xs.length := by
  have hlength : (0 : Rat) < xs.length := by
    exact_mod_cast List.length_pos_iff.mpr hne
  rw [le_div_iff₀ hlength, mul_comm]
  simpa using List.card_nsmul_le_sum xs low h

theorem mean_le {xs : List Rat} (hne : xs ≠ []) {high : Rat} (h : ∀ x ∈ xs, x ≤ high) :
    xs.sum / xs.length ≤ high := by
  have hlength : (0 : Rat) < xs.length := by
    exact_mod_cast List.length_pos_iff.mpr hne
  rw [div_le_iff₀ hlength, mul_comm]
  simpa using List.sum_le_card_nsmul xs high h

/-- A box on the canvas. -/
structure CanvasBox where
  left : Rat
  right : Rat
  top : Rat
  bottom : Rat

/-- A point lies inside a box or on its sides. -/
structure CanvasBox.Contains (b : CanvasBox) (q : CanvasPoint Rat) : Prop where
  left : b.left ≤ q.x
  right : q.x ≤ b.right
  top : b.top ≤ q.y
  bottom : q.y ≤ b.bottom

/-- A box that contains points contains their mean. -/
theorem CanvasBox.contains_meanPoint {b : CanvasBox} {points : List (CanvasPoint Rat)}
    (hne : points ≠ []) (h : ∀ q ∈ points, b.Contains q) : b.Contains (meanPoint points) := by
  rw [meanPoint_eq hne]
  constructor
  · rw [← List.length_map CanvasPoint.x]
    exact le_mean (by simpa using hne) (List.forall_mem_map.mpr fun q hq => (h q hq).left)
  · rw [← List.length_map CanvasPoint.x]
    exact mean_le (by simpa using hne) (List.forall_mem_map.mpr fun q hq => (h q hq).right)
  · rw [← List.length_map CanvasPoint.y]
    exact le_mean (by simpa using hne) (List.forall_mem_map.mpr fun q hq => (h q hq).top)
  · rw [← List.length_map CanvasPoint.y]
    exact mean_le (by simpa using hne) (List.forall_mem_map.mpr fun q hq => (h q hq).bottom)

theorem frames_meanPoint {c : Canvas Rat} {points : List (CanvasPoint Rat)} (hne : points ≠ [])
    (h : ∀ q ∈ points, c.Frames q) : c.Frames (meanPoint points) := by
  have hinside : CanvasBox.Contains ⟨c.padding, c.width - c.padding, c.padding,
      c.height - c.padding⟩ (meanPoint points) :=
    CanvasBox.contains_meanPoint hne fun q hq =>
      ⟨(h q hq).left, (h q hq).right, (h q hq).top, (h q hq).bottom⟩
  exact ⟨hinside.left, hinside.right, hinside.top, hinside.bottom⟩

end PollAtlas.Boundary
