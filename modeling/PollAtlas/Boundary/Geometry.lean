import PollAtlas.Json.Record
import PollAtlas.Number.Scalar

/-!
# Boundaries

The boundary of a region on the globe: points of longitude and latitude in rings, rings in
polygons. The first ring of a polygon is its outer one; holes are drawn like it.

* `Geometry.rings`, `Geometry.points`: what a geometry is made of, in order.
* `Feature.ofJson?`, `Feature.toJson`: a boundary read and written.
-/

namespace PollAtlas.Boundary

open PollAtlas.Json (Field Record Tagged)

/-- A point of the globe, in degrees. -/
structure LonLat (α : Type) where
  lon : α
  lat : α
  deriving DecidableEq, Repr

/-- Points in order. The last one need not be the first one. -/
abbrev Ring (α : Type) : Type := List (LonLat α)

/-- The boundary of one region. -/
inductive Geometry (α : Type) where
  | polygon (rings : List (Ring α))
  | multiPolygon (polygons : List (List (Ring α)))
  deriving DecidableEq, Repr

namespace Geometry

variable {α : Type}

/-- The rings of all polygons, in order. -/
def rings : Geometry α → List (Ring α)
  | polygon rings => rings
  | multiPolygon polygons => polygons.flatten

/-- The points of all rings, in order. -/
def points (g : Geometry α) : List (LonLat α) := g.rings.flatten

/-- The name of a geometry's type. -/
def typeName : Geometry α → String
  | polygon _ => "Polygon"
  | multiPolygon _ => "MultiPolygon"

end Geometry

/-- The boundary of a region with the region's code and name. -/
structure Feature (α : Type) where
  regionCode : String
  regionName : String
  geometry : Geometry α
  deriving DecidableEq, Repr

/-! ## Reading and writing -/

/-- Exactly two numbers. -/
def LonLat.ofJson? : Json → Option (LonLat Double)
  | .array [lon, lat] => do
    let lon ← Json.double? lon
    let lat ← Json.double? lat
    return ⟨lon, lat⟩
  | _ => none

def LonLat.toJson (p : LonLat Double) : Json := .array [.ofDouble p.lon, .ofDouble p.lat]

/-- The rings of a polygon. -/
def ringsOfJson? (value : Json) : Option (List (Ring Double)) :=
  Json.list? (Json.list? LonLat.ofJson?) value

def ringsToJson (rings : List (Ring Double)) : Json :=
  .array (rings.map fun ring => .array (ring.map LonLat.toJson))

namespace Geometry

/-- A geometry: the name of its type with its coordinates. -/
def ofJson? (value : Json) : Option (Geometry Double) := do
  let tagged ← Tagged.read? "type" "coordinates" value
  let coordinates ← tagged.content
  match tagged.tag with
  | "Polygon" => (ringsOfJson? coordinates).map polygon
  | "MultiPolygon" => (Json.list? ringsOfJson? coordinates).map multiPolygon
  | _ => none

def coordinatesToJson : Geometry Double → Json
  | polygon rings => ringsToJson rings
  | multiPolygon polygons => .array (polygons.map ringsToJson)

def toJson (g : Geometry Double) : Json :=
  .object [("type", .string g.typeName), ("coordinates", g.coordinatesToJson)]

end Geometry

namespace Feature

def ofJson? (value : Json) : Option (Feature Double) := do
  let record ← Record.read? (Field.named ["region_code", "region_name", "geometry"]) value
  return {
    regionCode := ← record.required "region_code" Json.string?
    regionName := ← record.required "region_name" Json.string?
    geometry := ← record.required "geometry" Geometry.ofJson? }

def toJson (f : Feature Double) : Json :=
  .object [("region_code", .string f.regionCode), ("region_name", .string f.regionName),
    ("geometry", f.geometry.toJson)]

end Feature

end PollAtlas.Boundary
