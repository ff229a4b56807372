import PollAtlas.Boundary.Projection

/-!
# Drawings

The regions of a map as one SVG document: a path for each region, with its code and its
name as attributes.

* `drawing`: the document.
* `escaped`: an attribute's text without characters that mean something in markup.
-/

namespace PollAtlas.Boundary

/-- How a region is drawn. -/
inductive Style where
  /-- The region whose details are shown. -/
  | active
  /-- A region with an observation. -/
  | withData
  /-- A region without one. -/
  | noData
  deriving DecidableEq, Repr

namespace Style

def fill : Style → String
  | active => "#22d3ee"
  | withData => "#cffafe"
  | noData => "#dbe4ee"

def stroke : Style → String
  | active => "#0f172a"
  | withData => "#55657a"
  | noData => "#55657a"

def strokeWidth : Style → String
  | active => "2.6"
  | withData => "1.4"
  | noData => "1.4"

end Style

/-- A character of an attribute's text. -/
def escapedChar (c : Char) : List Char :=
  match c with
  | '&' => ['&', 'a', 'm', 'p', ';']
  | '"' => ['&', 'q', 'u', 'o', 't', ';']
  | '<' => ['&', 'l', 't', ';']
  | '>' => ['&', 'g', 't', ';']
  | _ => [c]

/-- An attribute's text. -/
def escaped (s : String) : List Char := s.toList.flatMap escapedChar

/-- An attribute with a space before it. -/
def attributeText (name : String) (value : List Char) : List Char :=
  ' ' :: name.toList ++ '=' :: '"' :: value ++ ['"']

/-- The attributes of a region's path. -/
def pathAttributes (f : Feature Double) (shape : Shape Double) (style : Style) :
    List (String × List Char) :=
  [("data-region-code", escaped f.regionCode), ("aria-label", escaped f.regionName),
    ("d", shape.outline.text), ("fill", style.fill.toList), ("stroke", style.stroke.toList),
    ("stroke-width", style.strokeWidth.toList)]

/-- The path of a region on a line of its own. -/
def pathElement (f : Feature Double) (shape : Shape Double) (style : Style) : List Char :=
  "  <path".toList ++
    (pathAttributes f shape style).flatMap (fun (name, value) => attributeText name value) ++
    "/>\n".toList

/-- The first line of a drawing: its size is that of the canvas. -/
def drawingHead (canvas : Canvas Double) : List Char :=
  "<svg xmlns=\"http://www.w3.org/2000/svg\" viewBox=\"0 0 ".toList ++
    canvas.width.text .plain ++ ' ' :: canvas.height.text .plain ++
    "\" role=\"img\">\n".toList

/-- The paths of the regions that have a shape, in the order of their boundaries. -/
def drawingBody (features : List (Feature Double))
    (shapes : Std.ExtTreeMap String (Shape Double)) (style : Feature Double → Style) :
    List Char :=
  features.flatMap fun f =>
    match shapes[f.regionCode]? with
    | none => []
    | some shape => pathElement f shape (style f)

/-- The drawing of a map. -/
def drawing (features : List (Feature Double)) (shapes : Std.ExtTreeMap String (Shape Double))
    (canvas : Canvas Double) (style : Feature Double → Style) : String :=
  String.ofList (drawingHead canvas ++ drawingBody features shapes style ++ "</svg>\n".toList)

end PollAtlas.Boundary
