import PollAtlas.Election.Resolution

/-!
# Loading the elections of a region

Every new selection starts a request of its own. An answer is taken only if it belongs to
the latest request, so that a late answer never replaces the list of another region.

* `Loader.select`, `Loader.deliver`: a new selection, and the outcome of a request.
* `Loader.resolved`: the elections to show.
-/

namespace PollAtlas.Panel

open PollAtlas.Election (Candidacy Resolved)

/-- How far a request has come. -/
inductive Progress (α : Type) where
  | idle
  | loading
  | ready (value : α)
  | failed (message : String)
  deriving DecidableEq, Repr

namespace Progress

variable {α : Type}

def isLoading : Progress α → Bool
  | loading => true
  | _ => false

def ready? : Progress α → Option α
  | ready value => some value
  | _ => none

/-- The progress that the outcome of a request makes. -/
def ofOutcome : Except String α → Progress α
  | .ok value => ready value
  | .error message => failed message

def toJson (value : α → Json) : Progress α → Json
  | idle => .object [("state", .string "idle")]
  | loading => .object [("state", .string "loading")]
  | ready x => .object [("state", .string "ready"), ("value", value x)]
  | failed message => .object [("state", .string "error"), ("value", .string message)]

end Progress

/-- A request that was started. -/
structure Ticket where
  /-- The number of the selection that started it. -/
  generation : UInt64
  regionCode : String
  deriving DecidableEq, Repr

/-- The elections of the selected region. -/
structure Loader where
  /-- The number of selections so far, counted in 64 bits. -/
  generation : UInt64
  selection : Option String
  progress : Progress (List Candidacy)
  deriving DecidableEq, Repr

namespace Loader

/-- Nothing is selected yet. -/
def empty : Loader := ⟨0, none, .idle⟩

/-- A new selection, and the request that it starts. Every request before it is
outdated. -/
def select (l : Loader) (code : Option String) : Loader × Option Ticket :=
  match code.bind Text.content? with
  | none => (⟨l.generation + 1, none, .idle⟩, none)
  | some code => (⟨l.generation + 1, some code, .loading⟩, some ⟨l.generation + 1, code⟩)

/-- A ticket is the one of the latest request. -/
def isCurrent (l : Loader) (ticket : Ticket) : Bool :=
  ticket.generation == l.generation && l.selection == some ticket.regionCode

/-- The outcome of a request arrives: the loader after it, and whether the outcome was taken.
That of an outdated request changes nothing. -/
def deliver (l : Loader) (ticket : Ticket) (outcome : Except String (List Candidacy)) :
    Loader × Bool :=
  if l.isCurrent ticket then ({ l with progress := .ofOutcome outcome }, true) else (l, false)

/-- The loader after the outcome of a request. -/
def complete (l : Loader) (ticket : Ticket) (outcome : Except String (List Candidacy)) :
    Loader :=
  (l.deliver ticket outcome).1

/-- The elections to show for the loaded region. -/
def resolved (l : Loader) (regionName : String) : List Resolved :=
  match l.selection, l.progress.ready? with
  | some code, some records => Election.resolveMetro records ⟨code, regionName⟩
  | _, _ => []

/-! ## Notes -/

def selectNotes (l : Loader) (code : Option String) : List Note :=
  match code.bind Text.content? with
  | none => []
  | some code => [⟨.debug, s!"Loading elections for {code} (request {l.generation + 1})"⟩]

def completeNotes (l : Loader) (ticket : Ticket)
    (outcome : Except String (List Candidacy)) : List Note :=
  if l.isCurrent ticket then
    match outcome with
    | .ok _ => []
    | .error message =>
      [⟨.error, s!"Failed to load elections for {ticket.regionCode}: {message}"⟩]
  else
    [⟨.warning, s!"Discarding stale elections response for {ticket.regionCode} " ++
      s!"(request {ticket.generation}, current {l.generation})"⟩]

def resolvedNotes (l : Loader) : List Note :=
  match l.selection, l.progress.ready? with
  | some _, some records => Election.resolveNotes records Election.Office.metro
  | _, _ => []

end Loader

end PollAtlas.Panel
