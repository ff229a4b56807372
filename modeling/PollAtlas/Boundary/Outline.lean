import PollAtlas.Boundary.Geometry

/-!
# Outlines on the canvas

An outline is a list of drawing commands for each ring of a region. Its text holds
coordinates with two decimals.

* `Outline.ofRings`: the outline of rings on the canvas.
* `Outline.text`: its text.
-/

namespace PollAtlas.Boundary

/-- A point of the canvas; `y` grows downwards. -/
structure CanvasPoint (α : Type) where
  x : α
  y : α
  deriving DecidableEq, Repr

/-- A drawing command. -/
inductive DrawCommand (α : Type) where
  | moveTo (p : CanvasPoint α)
  | lineTo (p : CanvasPoint α)
  | close
  deriving DecidableEq, Repr

/-- The drawing commands of a region, a segment for each ring. -/
structure Outline (α : Type) where
  segments : List (List (DrawCommand α))
  deriving DecidableEq, Repr

namespace Outline

variable {α : Type}

/-- The segment of a ring: to its first point, along the others, and back. -/
def segment : List (CanvasPoint α) → List (DrawCommand α)
  | [] => []
  | first :: rest => .moveTo first :: rest.map .lineTo ++ [.close]

/-- The outline of rings. -/
def ofRings (rings : List (List (CanvasPoint α))) : Outline α := ⟨rings.map segment⟩

/-- The commands of all segments. -/
def commands (o : Outline α) : List (DrawCommand α) := o.segments.flatten

/-- No segment has a command. -/
def isEmpty (o : Outline α) : Bool := o.segments.all List.isEmpty

end Outline

/-! ## Text -/

/-- A coordinate with two decimals. -/
def coordinateText (x : Double) : List Char := x.fixedText 2

/-- A point: its coordinates with a space between them. -/
def CanvasPoint.text (p : CanvasPoint Double) : List Char :=
  coordinateText p.x ++ ' ' :: coordinateText p.y

def DrawCommand.text : DrawCommand Double → List Char
  | moveTo p => 'M' :: ' ' :: p.text
  | lineTo p => 'L' :: ' ' :: p.text
  | close => ['Z']

namespace Outline

/-- The commands of a segment with single spaces between them. -/
def segmentText (segment : List (DrawCommand Double)) : List Char :=
  [' '].intercalate (segment.map DrawCommand.text)

/-- The segments with single spaces between them; an empty one has an empty text. -/
def text (o : Outline Double) : List Char := [' '].intercalate (o.segments.map segmentText)

def toJson (o : Outline Double) : Json := .string (String.ofList o.text)

end Outline

end PollAtlas.Boundary
