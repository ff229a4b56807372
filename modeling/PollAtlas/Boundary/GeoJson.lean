import PollAtlas.Boundary.Geometry
import PollAtlas.Journal
import PollAtlas.Json.Diagnostic
import PollAtlas.Text.Blank

/-!
# Boundary documents

Boundaries arrive as a GeoJSON document, a collection of features. The whole document has
to be valid. Of a valid one those features are kept that have a code and a polygon or
multi-polygon.

* `Collection.ofText`: the features of a document, or what is wrong with it.
* `RawFeature.feature?`: the boundary of a feature, if it is kept.
* `loadFeatures`: the boundaries of a document.
-/

namespace PollAtlas.Boundary

/-! ## Faults -/

/-- What is wrong with a document, and what was found instead. -/
inductive GeoJsonFault where
  | malformedJson
  | expectedObject (found : Json)
  /-- The name of the type is not known, or there is no name under this key. -/
  | unknownGeometryType (name : String)
  | unknownType
  | boxNotArray (found : Json)
  | boxNotNumeric (found : Json)
  | expectedProperty (name : String)
  | expectedArray (kind : String)
  | expectedString (found : Json)
  | notAFeature (typeName : String)
  | geometryNotObject (found : Json)
  | propertiesNotObject (found : Json)
  | invalidIdentifier (found : Json)
  | positionTooShort (length : Nat)
  | expectedNumber

namespace GeoJsonFault

/-- The name of a fault. -/
def name : GeoJsonFault → String
  | malformedJson => "MalformedJson"
  | expectedObject _ => "ExpectedObjectValue"
  | unknownGeometryType _ => "GeometryUnknownType"
  | unknownType => "EmptyType"
  | boxNotArray _ => "BboxExpectedArray"
  | boxNotNumeric _ => "BboxExpectedNumericValues"
  | expectedProperty _ => "ExpectedProperty"
  | expectedArray _ => "ExpectedArrayValue"
  | expectedString _ => "ExpectedStringValue"
  | notAFeature _ => "NotAFeature"
  | geometryNotObject _ => "FeatureInvalidGeometryValue"
  | propertiesNotObject _ => "PropertiesExpectedObjectOrNull"
  | invalidIdentifier _ => "FeatureInvalidIdentifierType"
  | positionTooShort _ => "PositionTooShort"
  | expectedNumber => "ExpectedF64Value"

/-- What was found instead, as diagnostics show it. -/
def found? : GeoJsonFault → Option String
  | malformedJson => none
  | unknownType => none
  | expectedNumber => none
  | unknownGeometryType text => some (Text.quoted text)
  | expectedProperty text => some (Text.quoted text)
  | expectedArray text => some (Text.quoted text)
  | notAFeature text => some (Text.quoted text)
  | positionTooShort length => some (toString length)
  | expectedObject found => some found.diagnostic
  | boxNotArray found => some found.diagnostic
  | boxNotNumeric found => some found.diagnostic
  | expectedString found => some found.diagnostic
  | geometryNotObject found => some found.diagnostic
  | propertiesNotObject found => some found.diagnostic
  | invalidIdentifier found => some found.diagnostic

/-- A fault as diagnostics show it. -/
def diagnostic (fault : GeoJsonFault) : String :=
  match fault.found? with
  | none => fault.name
  | some found => fault.name ++ "(" ++ found ++ ")"

end GeoJsonFault

/-- Why there are no boundaries. -/
inductive LoadError where
  | geoJson (fault : GeoJsonFault)
  /-- A valid document that is no collection. -/
  | notACollection

namespace LoadError

/-- What is wrong with a valid document that is no collection. -/
def notACollectionReason : String := "expected a FeatureCollection"

/-- The wording of an error, without that of a fault. -/
def message : LoadError → String
  | geoJson _ => "GeoJSON error"
  | notACollection => "Conversion error: " ++ notACollectionReason

/-- An error as diagnostics show it. -/
def diagnostic : LoadError → String
  | geoJson fault => "GeoJson(" ++ fault.diagnostic ++ ")"
  | notACollection =>
    "Conversion \x7b message: " ++ Text.quoted notACollectionReason ++ " \x7d"

end LoadError

/-! ## Geometries -/

/-- The members of a JSON object. -/
abbrev Members : Type := List (String × Json)

/-- An array's items, each read in turn. -/
def itemsOf {α : Type} (read : Json → Except GeoJsonFault α) :
    Json → Except GeoJsonFault (List α)
  | .array items => items.mapM read
  | found => .error (.expectedArray found.kindName)

/-- What a fault names where coordinates have something else than an array. -/
def noCoordinates : String := "None"

/-- An array's items among coordinates. -/
def eachOf {α : Type} (read : Json → Except GeoJsonFault α) :
    Json → Except GeoJsonFault (List α)
  | .array items => items.mapM read
  | _ => .error (.expectedArray noCoordinates)

def numberOf : Json → Except GeoJsonFault Double
  | .number n => .ok n.toDouble
  | _ => .error .expectedNumber

/-- A position: at least two numbers, of which the first two count. -/
def positionOf : Json → Except GeoJsonFault (LonLat Double)
  | .array (lon :: lat :: others) => do
    let lon ← numberOf lon
    let lat ← numberOf lat
    let _ ← others.mapM numberOf
    return ⟨lon, lat⟩
  | .array items => .error (.positionTooShort items.length)
  | _ => .error (.expectedArray noCoordinates)

def lineOf : Json → Except GeoJsonFault (List (LonLat Double)) := eachOf positionOf

def ringsOf : Json → Except GeoJsonFault (List (Ring Double)) := eachOf lineOf

def polygonsOf : Json → Except GeoJsonFault (List (List (Ring Double))) := eachOf ringsOf

/-- A geometry of a feature. -/
inductive RawGeometry where
  | area (geometry : Geometry Double)
  /-- A geometry without an area, by the name of its type. -/
  | other (typeName : String)
  deriving DecidableEq

/-- A bounding box, if there is one, is a list of numbers. -/
def checkBox (members : Members) : Except GeoJsonFault Unit :=
  match Json.get? "bbox" members with
  | none => .ok ()
  | some .null => .ok ()
  | some (.array items) => items.forM fun item =>
      match item with
      | .number _ => .ok ()
      | found => .error (.boxNotNumeric found)
  | some found => .error (.boxNotArray found)

def memberOf (name : String) (members : Members) : Except GeoJsonFault Json :=
  match Json.get? name members with
  | some value => .ok value
  | none => .error (.expectedProperty name)

def stringOf : Json → Except GeoJsonFault String
  | .string s => .ok s
  | found => .error (.expectedString found)

/-- The types of geometries. -/
def geometryTypes : List String :=
  ["Point", "MultiPoint", "LineString", "MultiLineString", "Polygon", "MultiPolygon",
    "GeometryCollection"]

/-- A geometry other than a collection of geometries, from its coordinates. -/
def simpleGeometry (typeName : String) (value : Json) : Except GeoJsonFault RawGeometry :=
  match typeName with
  | "Polygon" => (ringsOf value).map fun rings => .area (.polygon rings)
  | "MultiPolygon" => (polygonsOf value).map fun polygons => .area (.multiPolygon polygons)
  | "Point" => (positionOf value).map fun _ => .other typeName
  | "MultiLineString" => (ringsOf value).map fun _ => .other typeName
  | _ => (lineOf value).map fun _ => .other typeName

/-- A geometry with at most `depth` collections inside one another. -/
def geometryWithin : Nat → Members → Except GeoJsonFault RawGeometry
  | 0, members => .error (.expectedObject (.object members))
  | depth + 1, members => do
    checkBox members
    let typeName ← stringOf (← memberOf "type" members)
    if !geometryTypes.contains typeName then .error (.unknownGeometryType typeName)
    else if typeName = "GeometryCollection" then
      let parts ← memberOf "geometries" members
      let _ ← itemsOf (fun part =>
        match part with
        | .object members => geometryWithin depth members
        | found => .error (.expectedObject found)) parts
      return .other typeName
    else simpleGeometry typeName (← memberOf "coordinates" members)

/-- The geometry of an object; no value is nested more deeply than its own depth. -/
def geometryOf (members : Members) : Except GeoJsonFault RawGeometry :=
  geometryWithin (Json.object members).depth members

/-! ## Features -/

/-- A feature of a document. -/
structure RawFeature where
  geometry : Option RawGeometry
  properties : Members

def featureGeometryOf (members : Members) : Except GeoJsonFault (Option RawGeometry) := do
  match ← memberOf "geometry" members with
  | .null => return none
  | .object geometry => return some (← geometryOf geometry)
  | found => .error (.geometryNotObject found)

def propertiesOf (members : Members) : Except GeoJsonFault Members :=
  match Json.get? "properties" members with
  | none => .ok []
  | some .null => .ok []
  | some (.object properties) => .ok properties
  | some found => .error (.propertiesNotObject found)

/-- An identifier, if there is one, is a number or a string. -/
def checkIdentifier (members : Members) : Except GeoJsonFault Unit :=
  match Json.get? "id" members with
  | none => .ok ()
  | some (.number _) => .ok ()
  | some (.string _) => .ok ()
  | some found => .error (.invalidIdentifier found)

/-- The feature of an object. -/
def featureOf (members : Members) : Except GeoJsonFault RawFeature := do
  let typeName ← stringOf (← memberOf "type" members)
  if typeName ≠ "Feature" then .error (.notAFeature typeName)
  else
    let geometry ← featureGeometryOf members
    let properties ← propertiesOf members
    checkIdentifier members
    checkBox members
    return ⟨geometry, properties⟩

/-- The features of a collection. -/
def featuresOf (members : Members) : Except GeoJsonFault (List RawFeature) := do
  checkBox members
  itemsOf (fun item =>
    match item with
    | .object members => featureOf members
    | found => .error (.expectedObject found)) (← memberOf "features" members)

/-! ## Documents -/

namespace Collection

/-- The features of a document that is a collection. Another document is checked all the
same. -/
def ofMembers (members : Members) : Except LoadError (List RawFeature) :=
  match Json.get? "type" members with
  | some (.string "FeatureCollection") => (featuresOf members).mapError .geoJson
  | some (.string "Feature") => do
    let _ ← (featureOf members).mapError LoadError.geoJson
    .error .notACollection
  | some (.string typeName) =>
    if geometryTypes.contains typeName then do
      let _ ← (geometryOf members).mapError LoadError.geoJson
      .error .notACollection
    else .error (.geoJson .unknownType)
  | _ => .error (.geoJson (.unknownGeometryType "type"))

/-- The features of a text. -/
def ofText (text : String) : Except LoadError (List RawFeature) :=
  match Json.read? text with
  | none => .error (.geoJson .malformedJson)
  | some (.object members) => ofMembers members
  | some found => .error (.geoJson (.expectedObject found))

end Collection

namespace RawFeature

/-- A property that is a text and not blank. -/
def text? (f : RawFeature) (name : String) : Option String :=
  match Json.get? name f.properties with
  | some (.string s) => Text.content? s
  | _ => none

/-- The boundary of a feature with a code and an area. -/
def feature? (f : RawFeature) : Option (Feature Double) :=
  match f.text? "region_code", f.geometry with
  | some code, some (.area geometry) =>
    some ⟨code, (f.text? "region_name").getD "", geometry⟩
  | _, _ => none

/-- The note on a feature that has a code and no area. -/
def notes (f : RawFeature) : List Note :=
  match f.text? "region_code", f.geometry with
  | some code, none => [⟨.warning, s!"Boundary {code} has no geometry"⟩]
  | some code, some (.other typeName) =>
    [⟨.warning, s!"Boundary {code} has unsupported geometry type {typeName}"⟩]
  | _, _ => []

end RawFeature

/-- The boundaries of a text. -/
def loadFeatures (text : String) : Except LoadError (List (Feature Double)) :=
  (Collection.ofText text).map fun features => features.filterMap RawFeature.feature?

/-- The notes on what was left out and what was kept. -/
def loadNotes (text : String) : List Note :=
  match Collection.ofText text with
  | .error _ => []
  | .ok features =>
    let kept := (features.filterMap RawFeature.feature?).length
    let skipped := features.length - kept
    features.flatMap RawFeature.notes ++
      (if skipped = 0 then []
        else [⟨.warning, s!"Skipped {skipped} of {features.length} boundary features"⟩]) ++
      [⟨.info, s!"Loaded {kept} boundary features"⟩]

end PollAtlas.Boundary
