import PollAtlas.Boundary.Outline
import PollAtlas.Journal
import Std.Data.ExtTreeMap

/-!
# Projection onto the canvas

Longitude and latitude are scaled on their own, so that the bounding box of all boundaries
fills the canvas inside its padding. This serves a map of provinces; areas and angles are
not kept.

* `Bounds.ofPoints?`: the bounding box of points.
* `Projector.point`: the place of a point of the globe on the canvas.
* `project`: the outlines of all regions on one scale.
-/

namespace PollAtlas.Boundary

variable {α : Type} [Scalar α]

/-! ## Bounds -/

/-- The bounding box of points. -/
structure Bounds (α : Type) where
  minLon : α
  maxLon : α
  minLat : α
  maxLat : α
  deriving DecidableEq, Repr

/-- The least span that is used as a scale, a tenth of a degree. -/
def leastSpan : α := Scalar.ofRatio 1 10

namespace Bounds

/-- The bounding box of one point. -/
def ofPoint (p : LonLat α) : Bounds α := ⟨p.lon, p.lon, p.lat, p.lat⟩

/-- The bounding box with one more point in it. -/
def extend (b : Bounds α) (p : LonLat α) : Bounds α where
  minLon := min b.minLon p.lon
  maxLon := max b.maxLon p.lon
  minLat := min b.minLat p.lat
  maxLat := max b.maxLat p.lat

/-- The bounding box of points, if there are any. -/
def ofPoints? : List (LonLat α) → Option (Bounds α)
  | [] => none
  | p :: rest => some (rest.foldl extend (ofPoint p))

/-- The box of no points at all. -/
def origin : Bounds α :=
  ⟨Scalar.ofNat 0, Scalar.ofNat 0, Scalar.ofNat 0, Scalar.ofNat 0⟩

/-- The longitudes that are covered, at least `leastSpan`. -/
def lonSpan (b : Bounds α) : α := max (b.maxLon - b.minLon) leastSpan

/-- The latitudes that are covered, at least `leastSpan`. -/
def latSpan (b : Bounds α) : α := max (b.maxLat - b.minLat) leastSpan

end Bounds

/-! ## Canvas -/

/-- The canvas and the margin that is kept clear on each side. -/
structure Canvas (α : Type) where
  width : α
  height : α
  padding : α
  deriving DecidableEq, Repr

namespace Canvas

/-- The canvas of the panel. -/
def standard : Canvas α := ⟨Scalar.ofNat 760, Scalar.ofNat 900, Scalar.ofNat 30⟩

/-- A side without its margins. -/
def inner (c : Canvas α) (side : α) : α := Scalar.mulAdd (Scalar.ofNat 2) (-c.padding) side

def ofJson? (value : Json) : Option (Canvas Double) := do
  let record ← Json.Record.read? (Json.Field.named ["width", "height", "padding"]) value
  return {
    width := ← record.required "width" Json.double?
    height := ← record.required "height" Json.double?
    padding := ← record.required "padding" Json.double? }

def toJson (c : Canvas Double) : Json :=
  .object [("width", .ofDouble c.width), ("height", .ofDouble c.height),
    ("padding", .ofDouble c.padding)]

end Canvas

/-! ## Projector -/

/-- Fits a bounding box into a canvas. -/
structure Projector (α : Type) where
  bounds : Bounds α
  canvas : Canvas α
  deriving DecidableEq, Repr

namespace Projector

/-- The place of a point on the canvas; the north is at the top. -/
def point (pr : Projector α) (p : LonLat α) : CanvasPoint α where
  x := pr.canvas.padding +
    (p.lon - pr.bounds.minLon) / pr.bounds.lonSpan * pr.canvas.inner pr.canvas.width
  y := pr.canvas.padding +
    (pr.bounds.maxLat - p.lat) / pr.bounds.latSpan * pr.canvas.inner pr.canvas.height

/-- The rings of a boundary on the canvas. -/
def rings (pr : Projector α) (g : Geometry α) : List (List (CanvasPoint α)) :=
  g.rings.map fun ring => ring.map pr.point

end Projector

/-- The mean of points, each counted as often as it occurs; the origin if there are
none. -/
def meanPoint (points : List (CanvasPoint α)) : CanvasPoint α :=
  let sum : CanvasPoint α :=
    points.foldl (fun sum p => ⟨sum.x + p.x, sum.y + p.y⟩) ⟨Scalar.ofNat 0, Scalar.ofNat 0⟩
  if points.isEmpty then sum
  else ⟨sum.x / Scalar.ofNat points.length, sum.y / Scalar.ofNat points.length⟩

/-- A region on the canvas. -/
structure Shape (α : Type) where
  outline : Outline α
  /-- Where the region's label goes. -/
  centroid : CanvasPoint α
  deriving DecidableEq, Repr

namespace Shape

def toJson (s : Shape Double) : Json :=
  .object [("path", s.outline.toJson),
    ("centroid", .object [("x", .ofDouble s.centroid.x), ("y", .ofDouble s.centroid.y)])]

end Shape

/-- A region's boundary on the canvas. -/
def Projector.shape (pr : Projector α) (f : Feature α) : Shape α :=
  let rings := pr.rings f.geometry
  ⟨Outline.ofRings rings, meanPoint rings.flatten⟩

/-! ## All regions -/

/-- The bounding box of all boundaries. -/
def boundsOf (features : List (Feature α)) : Bounds α :=
  (Bounds.ofPoints? (features.flatMap fun f => f.geometry.points)).getD Bounds.origin

/-- The regions on the canvas by their codes, all on one scale. The last boundary with a
code counts. -/
def project (features : List (Feature α)) (canvas : Canvas α) :
    Std.ExtTreeMap String (Shape α) :=
  let pr : Projector α := ⟨boundsOf features, canvas⟩
  features.foldl (fun shapes f => shapes.insert f.regionCode (pr.shape f)) ∅

/-- The note on the scale of a projection. -/
def projectNotes (features : List (Feature Double)) : List Note :=
  if features.isEmpty then []
  else
    let b := boundsOf features
    [⟨.debug, s!"Projecting {features.length} features within lon " ++
      s!"[{b.minLon.plainText}, {b.maxLon.plainText}], " ++
      s!"lat [{b.minLat.plainText}, {b.maxLat.plainText}]"⟩]

end PollAtlas.Boundary
