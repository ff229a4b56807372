import PollAtlas.Journal
import PollAtlas.Json.Record
import PollAtlas.Text.Quoted

/-!
# Hovered, focused and selected regions

The map holds three regions at a time, any of them possibly missing: the one under the
pointer, the one with the keyboard focus, and the one that is pinned. The details of one of
them are shown.

* `Selection.apply`: the three regions after an event.
* `Selection.active?`, `Selection.mode`: the region whose details are shown, and why.
-/

namespace PollAtlas.Panel

open PollAtlas.Json (Field Record Tagged)

/-- What was done to a region. -/
inductive Event where
  | pointerEnter (code : String)
  | pointerLeave (code : String)
  | focus (code : String)
  | blur (code : String)
  /-- A click or a key: pins the region, or frees it if it is pinned. -/
  | activate (code : String)
  /-- A selection from outside. -/
  | select (code : Option String)
  deriving DecidableEq, Repr

namespace Event

def name : Event → String
  | pointerEnter _ => "pointer_enter"
  | pointerLeave _ => "pointer_leave"
  | focus _ => "focus"
  | blur _ => "blur"
  | activate _ => "activate"
  | select _ => "select"

/-- The region that an event is about. -/
def code? : Event → Option String
  | pointerEnter code => some code
  | pointerLeave code => some code
  | focus code => some code
  | blur code => some code
  | activate code => some code
  | select code => code

def toJson (event : Event) : Json :=
  .object [("type", .string event.name), ("region_code", .ofOption event.code?)]

/-- An event by its name. Only a selection may lack its region. -/
def ofJson? (value : Json) : Option Event := do
  let tagged ← Tagged.read? "type" "region_code" value
  let code? := tagged.content.bind Json.string?
  match tagged.tag with
  | "pointer_enter" => code?.map pointerEnter
  | "pointer_leave" => code?.map pointerLeave
  | "focus" => code?.map focus
  | "blur" => code?.map blur
  | "activate" => code?.map activate
  | "select" =>
    match tagged.content with
    | none => some (select none)
    | some code => (Json.nullable? Json.string? code).map select
  | _ => none

end Event

/-- Which of the three regions is shown. -/
inductive Mode where
  | idle
  | hovered
  | focused
  | selected
  deriving DecidableEq, Repr

namespace Mode

def name : Mode → String
  | idle => "idle"
  | hovered => "hovered"
  | focused => "focused"
  | selected => "selected"

/-- The text that is shown for a mode. -/
def label : Mode → String
  | idle => "대기"
  | hovered => "hover 미리보기"
  | focused => "키보드 포커스"
  | selected => "선택 고정"

def all : List Mode := [idle, hovered, focused, selected]

def ofJson? (value : Json) : Option Mode :=
  Json.name? (all.map fun mode => (mode.name, mode)) value

def toJson (mode : Mode) : Json := .string mode.name

end Mode

/-- The three regions that are held. -/
structure Selection where
  hovered : Option String
  focused : Option String
  selected : Option String
  deriving DecidableEq, Repr

namespace Selection

/-- No region is held. -/
def empty : Selection := ⟨none, none, none⟩

/-- An empty code stands for no region. -/
def pinned? (code : Option String) : Option String := code.filter (· ≠ "")

/-- At first only a selection is held. -/
def ofSelected (code : Option String) : Selection := ⟨none, none, pinned? code⟩

/-- The slot after a region is left: empty if it held that region. -/
def released (slot : Option String) (code : String) : Option String :=
  if slot = some code then none else slot

/-- The slot after a region is activated: the region, unless it was pinned already. -/
def toggled (slot : Option String) (code : String) : Option String :=
  if slot = some code then none else some code

/-- The regions that are held after an event. -/
def apply (s : Selection) : Event → Selection
  | .pointerEnter code => { s with hovered := some code }
  | .pointerLeave code => { s with hovered := released s.hovered code }
  | .focus code => { s with focused := some code }
  | .blur code => { s with focused := released s.focused code }
  | .activate code => { s with selected := toggled s.selected code }
  | .select code => { s with selected := pinned? code }

/-- The regions that are held after several events. -/
def run (s : Selection) (events : List Event) : Selection := events.foldl apply s

/-- An event changes the selection. -/
def changes (s : Selection) (event : Event) : Bool :=
  (s.apply event).selected != s.selected

/-- The note on a changed selection. -/
def notes (s : Selection) (event : Event) : List Note :=
  if s.changes event then
    [⟨.debug, "Selection changed: " ++ Text.quotedOption s.selected ++ " -> " ++
      Text.quotedOption (s.apply event).selected⟩]
  else []

/-- The region whose details are shown. -/
def active? (s : Selection) : Option String := (s.selected.or s.focused).or s.hovered

/-- Why its details are shown. -/
def mode (s : Selection) : Mode :=
  if s.selected.isSome then .selected
  else if s.focused.isSome then .focused
  else if s.hovered.isSome then .hovered
  else .idle

def isActive (s : Selection) (code : String) : Bool := s.active? == some code

def ofJson? (value : Json) : Option Selection := do
  let record ← Record.read? (Field.named ["hovered", "focused", "selected"]) value
  return {
    hovered := ← record.optional "hovered" Json.string?
    focused := ← record.optional "focused" Json.string?
    selected := ← record.optional "selected" Json.string? }

def toJson (s : Selection) : Json :=
  .object [("hovered", .ofOption s.hovered), ("focused", .ofOption s.focused),
    ("selected", .ofOption s.selected)]

end Selection

end PollAtlas.Panel
