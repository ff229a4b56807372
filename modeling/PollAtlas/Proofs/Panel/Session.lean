import Mathlib.Data.List.Basic
import PollAtlas.Panel.Loader

/-!
# Runs of a loader

A loader is driven by selections and by the outcomes of the requests that they start. An
outcome may arrive late, out of order, more than once or never. The number of a request is
that of its selection, counted from zero.

* `Session`, `Step`, `Run`: a loader with the tickets that were given out, and its runs.
* `lastRegion?`, `lastOutcomes`: what a run selects last, and what arrives for it.
* `Loader.select_eq`, `Loader.deliver_taken_iff`: one step of a loader.
-/

namespace PollAtlas.Panel

open PollAtlas.Election (Candidacy)

/-! ## Runs -/

/-- What is done with a loader. -/
inductive Action where
  /-- A region is selected, or none. -/
  | select (code : Option String)
  /-- An outcome arrives for the request of the selection with this number. -/
  | deliver (request : Nat) (outcome : Except String (List Candidacy))

/-- A loader, and what each selection so far returned. -/
structure Session where
  loader : Loader
  tickets : List (Option Ticket)

namespace Session

def start : Session := ⟨.empty, []⟩

/-- The selection with this number returned the ticket. -/
def Issued (s : Session) (request : Nat) (ticket : Ticket) : Prop :=
  s.tickets[request]? = some (some ticket)

instance (s : Session) (request : Nat) (ticket : Ticket) :
    Decidable (s.Issued request ticket) :=
  inferInstanceAs (Decidable (s.tickets[request]? = some (some ticket)))

def select (s : Session) (code : Option String) : Session :=
  ⟨(s.loader.select code).1, s.tickets ++ [(s.loader.select code).2]⟩

def deliver (s : Session) (ticket : Ticket) (outcome : Except String (List Candidacy)) :
    Session :=
  { s with loader := (s.loader.deliver ticket outcome).1 }

end Session

/-- An action takes a session to the next. An outcome is delivered with a ticket that was
given out. -/
inductive Step : Session → Action → Session → Prop where
  | select (s : Session) (code : Option String) : Step s (.select code) (s.select code)
  | deliver {s : Session} {request : Nat} {ticket : Ticket} (hissued : s.Issued request ticket)
      (outcome : Except String (List Candidacy)) :
      Step s (.deliver request outcome) (s.deliver ticket outcome)

/-- The sessions that a list of actions leads to. -/
inductive Run : List Action → Session → Prop where
  | start : Run [] .start
  | step {actions : List Action} {action : Action} {s t : Session} (hrun : Run actions s)
      (hstep : Step s action t) : Run (actions ++ [action]) t

/-! ## What a run asks for -/

def Action.selected? : Action → Option (Option String)
  | select code => some code
  | deliver _ _ => none

/-- The outcome that an action delivers for the last of so many selections. -/
def Action.outcomeForLast? (count : Nat) : Action → Option (Except String (List Candidacy))
  | select _ => none
  | deliver request outcome => if request + 1 = count then some outcome else none

/-- The codes that are selected, in order. -/
def selections (actions : List Action) : List (Option String) :=
  actions.filterMap Action.selected?

/-- The region that is selected last, if its code is not blank. -/
def lastRegion? (actions : List Action) : Option String :=
  (selections actions).getLast?.bind fun code => code.bind Text.content?

/-- The outcomes that arrive for the last selection, in order. -/
def lastOutcomes (actions : List Action) : List (Except String (List Candidacy)) :=
  actions.filterMap (Action.outcomeForLast? (selections actions).length)

/-- The progress for a region and the outcomes that arrived for it. -/
def progressOf (region : Option String) (outcomes : List (Except String (List Candidacy))) :
    Progress (List Candidacy) :=
  match region, outcomes.getLast? with
  | none, _ => .idle
  | some _, none => .loading
  | some _, some outcome => .ofOutcome outcome

theorem progressOf_concat (region : String) (outcomes : List (Except String (List Candidacy)))
    (outcome : Except String (List Candidacy)) :
    progressOf (some region) (outcomes ++ [outcome]) = .ofOutcome outcome := by
  simp [progressOf]

theorem ofOutcome_ne_idle (outcome : Except String (List Candidacy)) :
    Progress.ofOutcome outcome ≠ .idle := by
  cases outcome with
  | error message => exact nofun
  | ok records => exact nofun

theorem ofOutcome_ne_loading (outcome : Except String (List Candidacy)) :
    Progress.ofOutcome outcome ≠ .loading := by
  cases outcome with
  | error message => exact nofun
  | ok records => exact nofun

theorem progressOf_eq_idle_iff {region : Option String}
    {outcomes : List (Except String (List Candidacy))} :
    progressOf region outcomes = .idle ↔ region = none := by
  unfold progressOf
  cases region with
  | none => simp
  | some region =>
    cases outcomes.getLast? with
    | none => simp
    | some outcome => simp [ofOutcome_ne_idle]

theorem progressOf_eq_loading_iff {region : Option String}
    {outcomes : List (Except String (List Candidacy))} :
    progressOf region outcomes = .loading ↔ region ≠ none ∧ outcomes = [] := by
  unfold progressOf
  cases region with
  | none => simp
  | some region =>
    cases hlast : outcomes.getLast? with
    | none => simp [List.getLast?_eq_none_iff.mp hlast]
    | some outcome =>
      have hne : outcomes ≠ [] := by
        rintro rfl
        cases hlast
      simp [ofOutcome_ne_loading, hne]

section

variable (actions : List Action) (code : Option String) (request : Nat)
  (outcome : Except String (List Candidacy))

@[simp] theorem selections_select :
    selections (actions ++ [.select code]) = selections actions ++ [code] := by
  simp [selections, Action.selected?]

@[simp] theorem selections_deliver :
    selections (actions ++ [.deliver request outcome]) = selections actions := by
  simp [selections, Action.selected?]

@[simp] theorem lastRegion?_select :
    lastRegion? (actions ++ [.select code]) = code.bind Text.content? := by
  simp [lastRegion?]

@[simp] theorem lastRegion?_deliver :
    lastRegion? (actions ++ [.deliver request outcome]) = lastRegion? actions := by
  simp [lastRegion?]

theorem lastOutcomes_deliver_of_eq (hlast : request + 1 = (selections actions).length) :
    lastOutcomes (actions ++ [.deliver request outcome]) = lastOutcomes actions ++ [outcome] := by
  simp [lastOutcomes, Action.outcomeForLast?, hlast]

theorem lastOutcomes_deliver_of_ne (hlast : request + 1 ≠ (selections actions).length) :
    lastOutcomes (actions ++ [.deliver request outcome]) = lastOutcomes actions := by
  simp [lastOutcomes, Action.outcomeForLast?, hlast]

end

/-- Nothing has arrived yet for a new selection. -/
theorem lastOutcomes_select {actions : List Action} (code : Option String)
    (hearlier : ∀ request outcome, .deliver request outcome ∈ actions →
      request < (selections actions).length) :
    lastOutcomes (actions ++ [.select code]) = [] := by
  rw [lastOutcomes, List.filterMap_eq_nil_iff]
  intro action haction
  rcases List.mem_append.mp haction with haction | haction
  · cases action with
    | select code => rfl
    | deliver request outcome =>
      have hlt := hearlier request outcome haction
      have hne : request + 1 ≠ (selections (actions ++ [.select code])).length := by
        simp only [selections_select, List.length_append, List.length_singleton]
        omega
      exact if_neg hne
  · rw [List.mem_singleton.mp haction]
    rfl

/-! ## One step of a loader -/

namespace Loader

variable (l : Loader) (code : Option String)

/-- What a selection does: the region of the code is selected under a new generation, and if
there is one, its request is under way and has a ticket. -/
theorem select_eq :
    l.select code =
      (⟨l.generation + 1, code.bind Text.content?, progressOf (code.bind Text.content?) []⟩,
        (code.bind Text.content?).map fun region => ⟨l.generation + 1, region⟩) := by
  unfold select
  cases code.bind Text.content? with
  | none => rfl
  | some region => rfl

@[simp] theorem select_generation : (l.select code).1.generation = l.generation + 1 := by
  rw [select_eq]

@[simp] theorem select_selection :
    (l.select code).1.selection = code.bind Text.content? := by
  rw [select_eq]

@[simp] theorem select_progress :
    (l.select code).1.progress = progressOf (code.bind Text.content?) [] := by
  rw [select_eq]

theorem select_ticket :
    (l.select code).2 =
      (code.bind Text.content?).map fun region => ⟨l.generation + 1, region⟩ := by
  rw [select_eq]

variable {l : Loader} {ticket : Ticket}

theorem isCurrent_iff :
    l.isCurrent ticket = true ↔
      ticket.generation = l.generation ∧ l.selection = some ticket.regionCode := by
  simp [isCurrent]

theorem deliver_of_current (h : l.isCurrent ticket = true)
    (outcome : Except String (List Candidacy)) :
    l.deliver ticket outcome = ({ l with progress := .ofOutcome outcome }, true) :=
  if_pos h

theorem deliver_of_outdated (h : ¬ l.isCurrent ticket = true)
    (outcome : Except String (List Candidacy)) : l.deliver ticket outcome = (l, false) :=
  if_neg h

@[simp] theorem deliver_generation (outcome : Except String (List Candidacy)) :
    (l.deliver ticket outcome).1.generation = l.generation := by
  unfold deliver
  split
  · rfl
  · rfl

@[simp] theorem deliver_selection (outcome : Except String (List Candidacy)) :
    (l.deliver ticket outcome).1.selection = l.selection := by
  unfold deliver
  split
  · rfl
  · rfl

/-- An outcome is taken just when its ticket is current. -/
theorem deliver_taken_iff (outcome : Except String (List Candidacy)) :
    (l.deliver ticket outcome).2 = true ↔ l.isCurrent ticket = true := by
  by_cases h : l.isCurrent ticket = true
  · simp [deliver_of_current h, h]
  · simp [deliver_of_outdated h, h]

/-- An outcome that is not taken changes nothing. -/
theorem deliver_refused {outcome : Except String (List Candidacy)}
    (h : (l.deliver ticket outcome).2 = false) : (l.deliver ticket outcome).1 = l := by
  have houtdated : ¬ l.isCurrent ticket = true := fun hcurrent => by
    rw [(deliver_taken_iff outcome).mpr hcurrent] at h
    cases h
  rw [deliver_of_outdated houtdated]

end Loader

end PollAtlas.Panel
