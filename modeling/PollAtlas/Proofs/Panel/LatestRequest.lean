import PollAtlas.Proofs.Panel.Session

/-!
# The latest request

The invariant of all runs ties the generation of each ticket to the number of its request.
As long as generations do not repeat, the ticket of the last selection is then the only one
that is current, and a loader shows the last outcome that arrived for it.

* `Invariant`: what every run keeps.
* `Reflects`: what a loader should show after a run.
* `Run.reflects`: every run against it.
-/

namespace PollAtlas.Panel

open PollAtlas.Election (Candidacy)

/-! ## The invariant -/

/-- What every run keeps. The number of a request is bound to the generation of its ticket,
and the latest request to the region that is selected. -/
structure Invariant (actions : List Action) (s : Session) : Prop where
  tickets_length : s.tickets.length = (selections actions).length
  generation : s.loader.generation = UInt64.ofNat (selections actions).length
  selection : s.loader.selection = lastRegion? actions
  ticket : ∀ request ticket, s.Issued request ticket →
    ticket.generation = UInt64.ofNat (request + 1)
  last_ticket : ∀ request ticket, s.Issued request ticket →
    request + 1 = (selections actions).length → s.loader.selection = some ticket.regionCode
  delivered : ∀ request outcome, .deliver request outcome ∈ actions →
    ∃ ticket, s.Issued request ticket
  progress : s.loader.progress = progressOf (lastRegion? actions) (lastOutcomes actions)

theorem Session.Issued.lt {s : Session} {request : Nat} {ticket : Ticket}
    (h : s.Issued request ticket) : request < s.tickets.length := by
  obtain ⟨hlt, _⟩ := List.getElem?_eq_some_iff.mp h
  exact hlt

theorem Session.Issued.deliver {s : Session} {request : Nat} {ticket : Ticket}
    (h : s.Issued request ticket) (other : Ticket) (outcome : Except String (List Candidacy)) :
    (s.deliver other outcome).Issued request ticket := h

/-- Generations below the bound of their type do not repeat. -/
theorem ofNat_generation_inj {m n : Nat} (hm : m < UInt64.size) (hn : n < UInt64.size) :
    UInt64.ofNat m = UInt64.ofNat n ↔ m = n := by
  constructor
  · intro h
    have hnat := congrArg UInt64.toNat h
    rwa [UInt64.toNat_ofNat_of_lt' hm, UInt64.toNat_ofNat_of_lt' hn] at hnat
  · exact congrArg UInt64.ofNat

namespace Invariant

variable {actions : List Action} {s : Session} {request : Nat} {ticket : Ticket}

theorem start : Invariant [] .start where
  tickets_length := rfl
  generation := rfl
  selection := rfl
  ticket := fun _ _ hissued => absurd hissued.lt (Nat.not_lt_zero _)
  last_ticket := fun _ _ hissued => absurd hissued.lt (Nat.not_lt_zero _)
  delivered := fun _ _ hmem => absurd hmem List.not_mem_nil
  progress := rfl

theorem lt_of_issued (h : Invariant actions s) (hissued : s.Issued request ticket) :
    request < (selections actions).length :=
  h.tickets_length ▸ hissued.lt

/-- Of the tickets that were given out, the one of the last selection is current. -/
theorem current_iff (h : Invariant actions s)
    (hbound : (selections actions).length < UInt64.size) (hissued : s.Issued request ticket) :
    s.loader.isCurrent ticket = true ↔ request + 1 = (selections actions).length := by
  have hlt := h.lt_of_issued hissued
  have hrequest : request + 1 < UInt64.size := Nat.lt_of_le_of_lt hlt hbound
  -- below the bound equal generations belong to one selection
  rw [Loader.isCurrent_iff, h.ticket _ _ hissued, h.generation,
    ofNat_generation_inj hrequest hbound]
  constructor
  · exact And.left
  · intro hlast
    exact ⟨hlast, h.last_ticket _ _ hissued hlast⟩

/-- A ticket after one more selection is one from before, or the one that the selection
returned. -/
theorem issued_select (code : Option String) (hissued : (s.select code).Issued request ticket) :
    s.Issued request ticket ∨
      request = s.tickets.length ∧ (s.loader.select code).2 = some ticket := by
  rcases Nat.lt_trichotomy request s.tickets.length with hlt | rfl | hgt
  · rw [Session.Issued, Session.select, List.getElem?_append_left hlt] at hissued
    exact Or.inl hissued
  · rw [Session.Issued, Session.select, List.getElem?_concat_length] at hissued
    exact Or.inr ⟨rfl, Option.some.inj hissued⟩
  · have hle := hissued.lt
    simp only [Session.select, List.length_append, List.length_singleton] at hle
    omega

theorem issued_select_of_issued (code : Option String) (hissued : s.Issued request ticket) :
    (s.select code).Issued request ticket := by
  rw [Session.Issued, Session.select, List.getElem?_append_left hissued.lt]
  exact hissued

theorem select (h : Invariant actions s) (code : Option String) :
    Invariant (actions ++ [.select code]) (s.select code) where
  tickets_length := by simp [Session.select, h.tickets_length]
  generation := by
    rw [selections_select, List.length_append, List.length_singleton, UInt64.ofNat_add,
      ← h.generation]
    show (s.loader.select code).1.generation = s.loader.generation + 1
    exact Loader.select_generation _ _
  selection := by
    rw [lastRegion?_select]
    show (s.loader.select code).1.selection = code.bind Text.content?
    exact Loader.select_selection _ _
  ticket := fun request ticket hissued => by
    rcases issued_select code hissued with hissued | ⟨rfl, hnew⟩
    · exact h.ticket _ _ hissued
    · rw [Loader.select_ticket, Option.map_eq_some_iff] at hnew
      obtain ⟨region, _, rfl⟩ := hnew
      rw [h.tickets_length, UInt64.ofNat_add, ← h.generation]
      rfl
  last_ticket := fun request ticket hissued hlast => by
    rcases issued_select code hissued with hissued | ⟨rfl, hnew⟩
    · have hlt := h.lt_of_issued hissued
      rw [selections_select, List.length_append, List.length_singleton] at hlast
      omega
    · rw [Loader.select_ticket, Option.map_eq_some_iff] at hnew
      obtain ⟨region, hregion, rfl⟩ := hnew
      exact (Loader.select_selection _ _).trans hregion
  delivered := fun request outcome hmem => by
    have hearlier : .deliver request outcome ∈ actions := by simpa using hmem
    obtain ⟨ticket, hissued⟩ := h.delivered _ _ hearlier
    exact ⟨ticket, issued_select_of_issued code hissued⟩
  progress := by
    have hearlier : ∀ request outcome, .deliver request outcome ∈ actions →
        request < (selections actions).length := fun request outcome hmem => by
      obtain ⟨ticket, hissued⟩ := h.delivered _ _ hmem
      exact h.lt_of_issued hissued
    rw [lastRegion?_select, lastOutcomes_select code hearlier]
    show (s.loader.select code).1.progress = progressOf (code.bind Text.content?) []
    exact Loader.select_progress _ _

theorem deliver (h : Invariant actions s) (hbound : (selections actions).length < UInt64.size)
    (hissued : s.Issued request ticket) (outcome : Except String (List Candidacy)) :
    Invariant (actions ++ [.deliver request outcome]) (s.deliver ticket outcome) where
  tickets_length := by
    rw [selections_deliver]
    exact h.tickets_length
  generation := by
    rw [selections_deliver, ← h.generation]
    show (s.loader.deliver ticket outcome).1.generation = s.loader.generation
    exact Loader.deliver_generation _
  selection := by
    rw [lastRegion?_deliver, ← h.selection]
    show (s.loader.deliver ticket outcome).1.selection = s.loader.selection
    exact Loader.deliver_selection _
  ticket := h.ticket
  last_ticket := fun other ticket hother hlast => by
    rw [selections_deliver] at hlast
    exact (Loader.deliver_selection _).trans (h.last_ticket _ _ hother hlast)
  delivered := fun other outcome hmem => by
    rcases List.mem_append.mp hmem with hmem | hmem
    · exact h.delivered _ _ hmem
    · cases List.mem_singleton.mp hmem
      exact ⟨ticket, hissued⟩
  progress := by
    rw [lastRegion?_deliver]
    by_cases hlast : request + 1 = (selections actions).length
    · have hcurrent := (h.current_iff hbound hissued).mpr hlast
      have hregion := h.selection.symm.trans (h.last_ticket _ _ hissued hlast)
      rw [lastOutcomes_deliver_of_eq _ _ _ hlast, hregion, progressOf_concat, Session.deliver,
        Loader.deliver_of_current hcurrent]
    · have houtdated := mt (h.current_iff hbound hissued).mp hlast
      rw [lastOutcomes_deliver_of_ne _ _ _ hlast, ← h.progress, Session.deliver,
        Loader.deliver_of_outdated houtdated]

theorem idle_iff (h : Invariant actions s) :
    s.loader.progress = .idle ↔ s.loader.selection = none := by
  rw [h.progress, h.selection, progressOf_eq_idle_iff]

theorem loading_iff (h : Invariant actions s) :
    s.loader.progress = .loading ↔ s.loader.selection ≠ none ∧ lastOutcomes actions = [] := by
  rw [h.progress, h.selection, progressOf_eq_loading_iff]

theorem selected_of_ready (h : Invariant actions s) {records : List Candidacy}
    (hready : s.loader.progress = .ready records) : ∃ code, s.loader.selection = some code := by
  refine Option.ne_none_iff_exists'.mp fun hnone => ?_
  rw [h.idle_iff.mpr hnone] at hready
  cases hready

/-- An outcome arrives for the last selection only if that selected a region. -/
theorem region_of_lastOutcomes (h : Invariant actions s) (houtcomes : lastOutcomes actions ≠ []) :
    ∃ region, lastRegion? actions = some region := by
  obtain ⟨outcome, houtcome⟩ := List.exists_mem_of_ne_nil _ houtcomes
  obtain ⟨action, haction, hlast⟩ := List.mem_filterMap.mp houtcome
  cases action with
  | select code => cases hlast
  | deliver request arrived =>
    have hcount : request + 1 = (selections actions).length := by
      by_contra hne
      rw [Action.outcomeForLast?, if_neg hne] at hlast
      cases hlast
    obtain ⟨ticket, hissued⟩ := h.delivered _ _ haction
    exact ⟨_, h.selection.symm.trans (h.last_ticket _ _ hissued hcount)⟩

theorem progress_of_arrived (h : Invariant actions s) {outcome : Except String (List Candidacy)}
    (hlast : (lastOutcomes actions).getLast? = some outcome) :
    s.loader.progress = .ofOutcome outcome := by
  obtain ⟨earlier, hsplit⟩ := List.getLast?_eq_some_iff.mp hlast
  have hne : lastOutcomes actions ≠ [] := by simp [hsplit]
  obtain ⟨region, hregion⟩ := h.region_of_lastOutcomes hne
  rw [h.progress, hregion, hsplit, progressOf_concat]

end Invariant

theorem length_selections_le {actions : List Action} (action : Action) :
    (selections actions).length ≤ (selections (actions ++ [action])).length := by
  rw [selections, selections, List.filterMap_append, List.length_append]
  exact Nat.le_add_right _ _

/-- Every run keeps the invariant. -/
theorem Run.invariant {actions : List Action} {s : Session} (hrun : Run actions s)
    (hbound : (selections actions).length < UInt64.size) : Invariant actions s := by
  induction hrun with
  | start => exact Invariant.start
  | step hrun hstep ih =>
    have h := ih (Nat.lt_of_le_of_lt (length_selections_le _) hbound)
    cases hstep with
    | select code => exact h.select code
    | deliver hissued outcome =>
      rw [selections_deliver] at hbound
      exact h.deliver hbound hissued outcome

/-! ## What a loader shows -/

/-- What a loader should show after a run, and what it should do next. A ticket is taken just
when it was returned by the last selection; one that is refused changes nothing. -/
structure Reflects (actions : List Action) (s : Session) : Prop where
  taken_iff : ∀ request ticket outcome, s.Issued request ticket →
    ((s.loader.deliver ticket outcome).2 = true ↔ request + 1 = (selections actions).length)
  refused : ∀ request ticket outcome, s.Issued request ticket →
    (s.loader.deliver ticket outcome).2 = false → (s.loader.deliver ticket outcome).1 = s.loader
  selection : s.loader.selection = lastRegion? actions
  idle_iff : s.loader.progress = .idle ↔ s.loader.selection = none
  loading_iff : s.loader.progress = .loading ↔
    s.loader.selection ≠ none ∧ lastOutcomes actions = []
  arrived_ok : ∀ records, (lastOutcomes actions).getLast? = some (.ok records) →
    s.loader.progress = .ready records
  arrived_error : ∀ message, (lastOutcomes actions).getLast? = some (.error message) →
    s.loader.progress = .failed message
  resolved_of_not_ready : (∀ records, s.loader.progress ≠ .ready records) →
    ∀ name, s.loader.resolved name = []
  resolved_of_ready : ∀ records, s.loader.progress = .ready records →
    ∃ code, s.loader.selection = some code ∧ ∀ name,
      s.loader.resolved name =
        Election.resolve records [.metroHead, .metroCouncil, .superintendent] ⟨code, name⟩ ∧
      (s.loader.resolved name).map Election.Resolved.slot =
        [.metroHead, .metroCouncil, .superintendent]

theorem Loader.resolved_of_not_ready {l : Loader} (h : ∀ records, l.progress ≠ .ready records)
    (name : String) : l.resolved name = [] := by
  have hready : l.progress.ready? = none := by
    cases hprogress : l.progress with
    | ready records => exact absurd hprogress (h records)
    | idle => rfl
    | loading => rfl
    | failed message => rfl
  rw [resolved, hready]
  cases l.selection with
  | none => rfl
  | some code => rfl

theorem Loader.resolved_of_ready {l : Loader} {code : String} {records : List Candidacy}
    (hselection : l.selection = some code) (hready : l.progress = .ready records)
    (name : String) :
    l.resolved name =
      Election.resolve records [.metroHead, .metroCouncil, .superintendent] ⟨code, name⟩ := by
  rw [resolved, hselection, hready]
  rfl

/-- After every run with fewer selections than there are generations, a loader shows what it
should. -/
theorem Run.reflects {actions : List Action} {s : Session} (hrun : Run actions s)
    (hbound : (selections actions).length < UInt64.size) : Reflects actions s := by
  have h : Invariant actions s := hrun.invariant hbound
  exact {
    taken_iff := fun request ticket outcome hissued =>
      (Loader.deliver_taken_iff outcome).trans (h.current_iff hbound hissued)
    refused := fun request ticket outcome _ hrefused => Loader.deliver_refused hrefused
    selection := h.selection
    idle_iff := h.idle_iff
    loading_iff := h.loading_iff
    arrived_ok := fun records hlast => h.progress_of_arrived hlast
    arrived_error := fun message hlast => h.progress_of_arrived hlast
    resolved_of_not_ready := fun hready name => Loader.resolved_of_not_ready hready name
    resolved_of_ready := fun records hready => by
      obtain ⟨code, hselection⟩ := h.selected_of_ready hready
      refine ⟨code, hselection, fun name => ?_⟩
      rw [Loader.resolved_of_ready hselection hready]
      exact ⟨rfl, rfl⟩ }

/-! ## A late outcome -/

/-- A record for the mayor of Busan. -/
def busanMayor : Candidacy :=
  { Candidacy.blank with matchupId := "m-1", regionCode := "26-000", officeType := "광역단체장" }

/-- Two regions are selected, and the outcome for the first one arrives before those for the
second one, which fails at first. -/
def lateActions : List Action :=
  [.select (some "KR-11"), .select (some " KR-26 "), .deliver 0 (.ok []),
    .deliver 1 (.error "status 500"), .deliver 1 (.ok [busanMayor])]

/-- The session after the two selections. -/
def reselected : Session := (Session.start.select (some "KR-11")).select (some " KR-26 ")

def lateSession : Session :=
  ((reselected.deliver ⟨1, "KR-11"⟩ (.ok [])).deliver ⟨2, "KR-26"⟩ (.error "status 500")).deliver
    ⟨2, "KR-26"⟩ (.ok [busanMayor])

theorem run_lateActions : Run lateActions lateSession := by
  have hselect : Run [.select (some "KR-11")] (Session.start.select (some "KR-11")) :=
    Run.start.step (.select _ _)
  have hreselect := hselect.step (.select _ (some " KR-26 "))
  have hfirst : reselected.Issued 0 ⟨1, "KR-11"⟩ := by decide +kernel
  have hsecond : reselected.Issued 1 ⟨2, "KR-26"⟩ := by decide +kernel
  have hlate := hreselect.step (.deliver hfirst (.ok []))
  have hfailed := hlate.step (.deliver (hsecond.deliver _ _) (.error "status 500"))
  exact hfailed.step (.deliver ((hsecond.deliver _ _).deliver _ _) (.ok [busanMayor]))

theorem reflects_lateActions :
    Run lateActions lateSession ∧ (selections lateActions).length < UInt64.size ∧
      Reflects lateActions lateSession ∧ lateSession.loader.selection = some "KR-26" ∧
      lateSession.loader.progress = .ready [busanMayor] ∧
      (lateSession.loader.resolved "부산광역시").map Election.Resolved.slot =
        [.metroHead, .metroCouncil, .superintendent] := by
  have hbound : (selections lateActions).length < UInt64.size := by decide
  have h : Reflects lateActions lateSession := run_lateActions.reflects hbound
  have hready : lateSession.loader.progress = .ready [busanMayor] := h.arrived_ok _ rfl
  have hregion : lastRegion? lateActions = some "KR-26" := by decide +kernel
  obtain ⟨code, _, hresolved⟩ := h.resolved_of_ready _ hready
  exact ⟨run_lateActions, hbound, h, h.selection.trans hregion, hready,
    (hresolved "부산광역시").2⟩

end PollAtlas.Panel
