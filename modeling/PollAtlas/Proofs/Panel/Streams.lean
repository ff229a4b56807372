import Mathlib.Data.List.Basic
import Mathlib.Data.List.Induction
import PollAtlas.Panel.Selection

/-!
# The three streams of events

Each event acts on one of the three regions that are held, so a run of events is three runs that
do not see each other, whatever their interleaving (`run_eq`). The slots under the pointer and
with the focus follow the same rule: a region stays until it is left or another one is entered.
The selection forgets everything before the last selection from outside, and of the activations
after it only the final block of equal ones counts, by its parity.

* `Visited`: the slot that entering and leaving regions should lead to.
* `BasedOn`, `Pinned`: the selection that activations and selections from outside should lead
  to.
* `Selection.run_streams`: every run against them.
-/

namespace PollAtlas.Panel

/-! ## Streams -/

/-- What happens to the slot that follows the pointer or the focus. -/
inductive Visit where
  | enter (code : String)
  | leave (code : String)
  deriving DecidableEq

/-- What happens to the selection. -/
inductive Pin where
  | activate (code : String)
  | select (code : Option String)
  deriving DecidableEq

namespace Event

def hover? : Event → Option Visit
  | pointerEnter code => some (.enter code)
  | pointerLeave code => some (.leave code)
  | _ => none

def focus? : Event → Option Visit
  | focus code => some (.enter code)
  | blur code => some (.leave code)
  | _ => none

def pin? : Event → Option Pin
  | activate code => some (.activate code)
  | select code => some (.select code)
  | _ => none

end Event

def hoverStream (events : List Event) : List Visit := events.filterMap Event.hover?

def focusStream (events : List Event) : List Visit := events.filterMap Event.focus?

def selectionStream (events : List Event) : List Pin := events.filterMap Event.pin?

def Visit.apply (slot : Option String) : Visit → Option String
  | enter code => some code
  | leave code => Selection.released slot code

def Pin.apply (slot : Option String) : Pin → Option String
  | activate code => Selection.toggled slot code
  | select code => Selection.pinned? code

/-- One event takes at most one step in each stream. -/
theorem apply_eq (s : Selection) (event : Event) :
    s.apply event =
      ⟨event.hover?.toList.foldl Visit.apply s.hovered,
        event.focus?.toList.foldl Visit.apply s.focused,
        event.pin?.toList.foldl Pin.apply s.selected⟩ := by
  cases event with
  | pointerEnter code => rfl
  | pointerLeave code => rfl
  | focus code => rfl
  | blur code => rfl
  | activate code => rfl
  | select code => rfl

/-- A run of events is one run of each stream. -/
theorem run_eq (s : Selection) (events : List Event) :
    s.run events =
      ⟨(hoverStream events).foldl Visit.apply s.hovered,
        (focusStream events).foldl Visit.apply s.focused,
        (selectionStream events).foldl Pin.apply s.selected⟩ := by
  induction events generalizing s with
  | nil => rfl
  | cons event events ih =>
    have hrun : s.run (event :: events) = (s.apply event).run events := rfl
    rw [hrun, ih, apply_eq]
    simp only [hoverStream, focusStream, selectionStream, List.filterMap_eq_flatMap_toList,
      List.flatMap_cons, List.foldl_append]

/-! ## Entering and leaving -/

/-- The slot that visits should lead to. After the last entry only its own region can be left;
without an entry only the region that was held from the start can. -/
inductive Visited (start : Option String) : List Visit → Option String → Prop where
  | entered (before : List Visit) (code : String) {after : List Visit}
      (hlast : ∀ c, .enter c ∉ after) :
      Visited start (before ++ .enter code :: after)
        (if .leave code ∈ after then none else some code)
  | left {visits : List Visit} {code : String} (hnone : ∀ c, .enter c ∉ visits)
      (hstart : start = some code) (hleft : .leave code ∈ visits) : Visited start visits none
  | kept {visits : List Visit} (hnone : ∀ c, .enter c ∉ visits)
      (hkept : ∀ code, start = some code → .leave code ∉ visits) : Visited start visits start

theorem foldl_visits_none {visits : List Visit} (hnone : ∀ c, .enter c ∉ visits) :
    visits.foldl Visit.apply none = none := by
  induction visits with
  | nil => rfl
  | cons visit visits ih =>
    cases visit with
    | enter code => exact absurd List.mem_cons_self (hnone code)
    | leave code => exact ih fun c hc => hnone c (List.mem_cons_of_mem _ hc)

theorem foldl_visits_some {visits : List Visit} (hnone : ∀ c, .enter c ∉ visits) (code : String) :
    visits.foldl Visit.apply (some code) = if .leave code ∈ visits then none else some code := by
  induction visits with
  | nil => rfl
  | cons visit visits ih =>
    have hrest : ∀ c, .enter c ∉ visits := fun c hc => hnone c (List.mem_cons_of_mem _ hc)
    cases visit with
    | enter other => exact absurd List.mem_cons_self (hnone other)
    | leave other =>
      by_cases heq : other = code
      · subst heq
        simp [Visit.apply, Selection.released, foldl_visits_none hrest]
      · have hne : code ≠ other := Ne.symm heq
        simp [Visit.apply, Selection.released, hne, ih hrest]

theorem Visited.eq_foldl {start slot : Option String} {visits : List Visit}
    (h : Visited start visits slot) : visits.foldl Visit.apply start = slot := by
  cases h with
  | entered before code hlast =>
    rw [List.foldl_append, List.foldl_cons]
    exact foldl_visits_some hlast code
  | left hnone hstart hleft => rw [hstart, foldl_visits_some hnone, if_pos hleft]
  | kept hnone hkept =>
    cases start with
    | none => exact foldl_visits_none hnone
    | some code => rw [foldl_visits_some hnone, if_neg (hkept code rfl)]

theorem exists_last_entry (visits : List Visit) :
    (∀ c, .enter c ∉ visits) ∨
      ∃ before code after, visits = before ++ .enter code :: after ∧ ∀ c, .enter c ∉ after := by
  induction visits using List.reverseRecOn with
  | nil => exact Or.inl fun c => List.not_mem_nil
  | append_singleton visits visit ih =>
    cases visit with
    | enter code => exact Or.inr ⟨visits, code, [], rfl, fun c => List.not_mem_nil⟩
    | leave code =>
      rcases ih with hnone | ⟨before, entered, after, rfl, hlast⟩
      · exact Or.inl fun c hc => hnone c (by simpa using hc)
      · refine Or.inr ⟨before, entered, after ++ [.leave code], by simp, fun c hc => ?_⟩
        exact hlast c (by simpa using hc)

theorem visited_foldl (start : Option String) (visits : List Visit) :
    Visited start visits (visits.foldl Visit.apply start) := by
  have hrule : ∃ slot, Visited start visits slot := by
    rcases exists_last_entry visits with hnone | ⟨before, code, after, rfl, hlast⟩
    · by_cases hleft : ∃ code, start = some code ∧ .leave code ∈ visits
      · obtain ⟨code, hstart, hleft⟩ := hleft
        exact ⟨_, .left hnone hstart hleft⟩
      · exact ⟨_, .kept hnone fun code hstart hmem => hleft ⟨code, hstart, hmem⟩⟩
    · exact ⟨_, .entered before code hlast⟩
  obtain ⟨slot, hslot⟩ := hrule
  exact hslot.eq_foldl ▸ hslot

theorem visited_iff {start slot : Option String} {visits : List Visit} :
    Visited start visits slot ↔ visits.foldl Visit.apply start = slot :=
  ⟨Visited.eq_foldl, fun h => h ▸ visited_foldl start visits⟩

/-! ## Activations -/

/-- The stream ends in these activations, and before them stands the base: the last selection
from outside, an empty code counting as none, or else the selection at the start. -/
inductive BasedOn (start : Option String) : List Pin → Option String → List String → Prop where
  | start (activations : List String) :
      BasedOn start (activations.map .activate) start activations
  | select (before : List Pin) (code : Option String) (activations : List String) :
      BasedOn start (before ++ .select code :: activations.map .activate)
        (code.filter (· ≠ "")) activations

/-- The selection that a stream should lead to. Without activations it is the base. Otherwise
the final block of activations of one region pins the region if their number is odd and frees it
if it is even, except that the parities are swapped if the base right before the block is the
region itself. -/
inductive Pinned (start : Option String) (pins : List Pin) : Option String → Prop where
  | base {base : Option String} (hbase : BasedOn start pins base []) : Pinned start pins base
  | block {base : Option String} {earlier : List String} {code : String} {count : Nat}
      (hbase : BasedOn start pins base (earlier ++ List.replicate count code))
      (hcount : 0 < count) (hmaximal : earlier.getLast? ≠ some code)
      (hother : earlier ≠ [] ∨ base ≠ some code) :
      Pinned start pins (if count % 2 = 1 then some code else none)
  | swapped {code : String} {count : Nat}
      (hbase : BasedOn start pins (some code) (List.replicate count code)) (hcount : 0 < count) :
      Pinned start pins (if count % 2 = 1 then none else some code)

theorem foldl_pins {start base : Option String} {pins : List Pin} {activations : List String}
    (h : BasedOn start pins base activations) :
    pins.foldl Pin.apply start = activations.foldl Selection.toggled base := by
  cases h with
  | start => exact List.foldl_map
  | select before code =>
    rw [List.foldl_append, List.foldl_cons, List.foldl_map]
    rfl

theorem toggled_self (code : String) : Selection.toggled (some code) code = none := if_pos rfl

theorem toggled_of_ne {slot : Option String} {code : String} (h : slot ≠ some code) :
    Selection.toggled slot code = some code := if_neg h

theorem foldl_toggled_self (code : String) (count : Nat) :
    (List.replicate count code).foldl Selection.toggled (some code) =
      if count % 2 = 1 then none else some code := by
  induction count with
  | zero => rfl
  | succ count ih =>
    rw [List.replicate_succ', List.foldl_append, ih, List.foldl_cons, List.foldl_nil]
    by_cases hodd : count % 2 = 1
    · have heven : (count + 1) % 2 ≠ 1 := by omega
      rw [if_pos hodd, if_neg heven]
      exact toggled_of_ne (by simp)
    · have hodd' : (count + 1) % 2 = 1 := by omega
      rw [if_neg hodd, if_pos hodd']
      exact toggled_self code

theorem foldl_toggled_of_ne {slot : Option String} {code : String} (h : slot ≠ some code)
    {count : Nat} (hcount : 0 < count) :
    (List.replicate count code).foldl Selection.toggled slot =
      if count % 2 = 1 then some code else none := by
  obtain ⟨rest, rfl⟩ := Nat.exists_eq_succ_of_ne_zero (Nat.pos_iff_ne_zero.mp hcount)
  -- the first activation selects the region, and the others change it back and forth
  rw [List.replicate_succ, List.foldl_cons, toggled_of_ne h, foldl_toggled_self]
  by_cases hodd : rest % 2 = 1
  · have heven : ¬ (rest + 1) % 2 = 1 := by omega
    rw [if_pos hodd, if_neg heven]
  · have hodd' : (rest + 1) % 2 = 1 := by omega
    rw [if_neg hodd, if_pos hodd']

theorem foldl_toggled_ne {base : Option String} {earlier : List String} {code : String}
    (hlast : earlier.getLast? ≠ some code) (hother : earlier ≠ [] ∨ base ≠ some code) :
    earlier.foldl Selection.toggled base ≠ some code := by
  rcases List.eq_nil_or_concat' earlier with rfl | ⟨earlier, other, rfl⟩
  · exact hother.resolve_left fun hne => hne rfl
  · have hne : other ≠ code := fun heq => hlast (by simp [heq])
    rw [List.foldl_append, List.foldl_cons, List.foldl_nil, Selection.toggled]
    split
    · exact nofun
    · exact fun heq => hne (Option.some.inj heq)

theorem Pinned.eq_foldl {start slot : Option String} {pins : List Pin}
    (h : Pinned start pins slot) : pins.foldl Pin.apply start = slot := by
  cases h with
  | base hbase => exact foldl_pins hbase
  | block hbase hcount hmaximal hother =>
    rw [foldl_pins hbase, List.foldl_append]
    exact foldl_toggled_of_ne (foldl_toggled_ne hmaximal hother) hcount
  | swapped hbase hcount =>
    rw [foldl_pins hbase]
    exact foldl_toggled_self _ _

theorem exists_basedOn (start : Option String) (pins : List Pin) :
    ∃ base activations, BasedOn start pins base activations := by
  induction pins using List.reverseRecOn with
  | nil => exact ⟨start, [], .start []⟩
  | append_singleton pins pin ih =>
    cases pin with
    | select code => exact ⟨_, [], .select pins code []⟩
    | activate code =>
      obtain ⟨base, activations, h⟩ := ih
      cases h with
      | start =>
        refine ⟨start, activations ++ [code], ?_⟩
        have hmap : (activations ++ [code]).map Pin.activate =
            activations.map .activate ++ [.activate code] := List.map_append
        exact hmap ▸ .start _
      | select before selected =>
        refine ⟨selected.filter (· ≠ ""), activations ++ [code], ?_⟩
        have hmap : before ++ .select selected :: (activations ++ [code]).map Pin.activate =
            (before ++ .select selected :: activations.map .activate) ++ [.activate code] := by
          simp
        exact hmap ▸ .select before selected _

/-- Activations end in a block of one region that reaches back as far as possible. -/
theorem exists_final_block {activations : List String} (h : activations ≠ []) :
    ∃ earlier code count, activations = earlier ++ List.replicate count code ∧ 0 < count ∧
      earlier.getLast? ≠ some code := by
  induction activations using List.reverseRecOn with
  | nil => exact absurd rfl h
  | append_singleton activations last ih =>
    by_cases hlast : activations.getLast? = some last
    · have hne : activations ≠ [] := by rintro rfl; cases hlast
      obtain ⟨earlier, code, count, rfl, hcount, hmaximal⟩ := ih hne
      have hcode : code = last := by
        obtain ⟨rest, rfl⟩ := Nat.exists_eq_succ_of_ne_zero (Nat.pos_iff_ne_zero.mp hcount)
        rw [List.replicate_succ', ← List.append_assoc, List.getLast?_concat] at hlast
        exact Option.some.inj hlast
      subst hcode
      refine ⟨earlier, code, count + 1, ?_, Nat.succ_pos _, hmaximal⟩
      rw [List.replicate_succ', List.append_assoc]
    · exact ⟨activations, last, 1, rfl, Nat.one_pos, hlast⟩

theorem pinned_foldl (start : Option String) (pins : List Pin) :
    Pinned start pins (pins.foldl Pin.apply start) := by
  have hrule : ∃ slot, Pinned start pins slot := by
    obtain ⟨base, activations, hbase⟩ := exists_basedOn start pins
    by_cases hnil : activations = []
    · subst hnil
      exact ⟨_, .base hbase⟩
    · obtain ⟨earlier, code, count, rfl, hcount, hmaximal⟩ := exists_final_block hnil
      by_cases hother : earlier ≠ [] ∨ base ≠ some code
      · exact ⟨_, .block hbase hcount hmaximal hother⟩
      · obtain ⟨hearlier, hcode⟩ := not_or.mp hother
        obtain rfl := not_ne_iff.mp hearlier
        obtain rfl := not_ne_iff.mp hcode
        exact ⟨_, .swapped hbase hcount⟩
  obtain ⟨slot, hslot⟩ := hrule
  exact hslot.eq_foldl ▸ hslot

theorem pinned_iff {start slot : Option String} {pins : List Pin} :
    Pinned start pins slot ↔ pins.foldl Pin.apply start = slot :=
  ⟨Pinned.eq_foldl, fun h => h ▸ pinned_foldl start pins⟩

/-! ## Runs -/

namespace Selection

theorem changes_iff {s : Selection} {event : Event} :
    s.changes event = true ↔ (s.apply event).selected ≠ s.selected := bne_iff_ne

theorem changes_activate (s : Selection) (code : String) : s.changes (.activate code) = true := by
  rw [changes_iff]
  show toggled s.selected code ≠ s.selected
  by_cases hselected : s.selected = some code
  · rw [hselected, toggled_self]
    exact nofun
  · rw [toggled_of_ne hselected]
    exact Ne.symm hselected

theorem changes_of_pin?_eq_none {s : Selection} {event : Event} (h : event.pin? = none) :
    s.changes event = false := by
  rw [Bool.eq_false_iff, ne_eq, changes_iff, apply_eq, h, not_ne_iff]
  rfl

/-- What should hold of a selection after a run of events: each of the three regions follows
from the events of its own stream, runs with the same streams end alike, and of the events that
may come next exactly those that change the selected region report a change. -/
structure FollowsStreams (s : Selection) (events : List Event) : Prop where
  hovered : ∀ slot, Visited s.hovered (hoverStream events) slot ↔ (s.run events).hovered = slot
  focused : ∀ slot, Visited s.focused (focusStream events) slot ↔ (s.run events).focused = slot
  selected : ∀ slot,
    Pinned s.selected (selectionStream events) slot ↔ (s.run events).selected = slot
  interleaving : ∀ others : List Event, hoverStream others = hoverStream events →
    focusStream others = focusStream events → selectionStream others = selectionStream events →
    s.run others = s.run events
  changes_iff : ∀ event, (s.run events).changes event = true ↔
    (s.run (events ++ [event])).selected ≠ (s.run events).selected
  activate : ∀ code, (s.run events).changes (.activate code) = true
  hover_or_focus : ∀ event, event.hover? ≠ none ∨ event.focus? ≠ none →
    (s.run events).changes event = false

theorem run_concat (s : Selection) (events : List Event) (event : Event) :
    s.run (events ++ [event]) = (s.run events).apply event := by
  rw [run, run, List.foldl_append, List.foldl_cons, List.foldl_nil]

theorem pin?_eq_none {event : Event} (h : event.hover? ≠ none ∨ event.focus? ≠ none) :
    event.pin? = none := by
  cases event with
  | pointerEnter code => rfl
  | pointerLeave code => rfl
  | focus code => rfl
  | blur code => rfl
  | activate code => exact absurd h (by simp [Event.hover?, Event.focus?])
  | select code => exact absurd h (by simp [Event.hover?, Event.focus?])

/-- From every start, every run of events follows its three streams. -/
theorem run_streams (s : Selection) (events : List Event) : s.FollowsStreams events where
  hovered slot := by rw [visited_iff, run_eq]
  focused slot := by rw [visited_iff, run_eq]
  selected slot := by rw [pinned_iff, run_eq]
  interleaving others hhover hfocus hselection := by
    rw [run_eq, run_eq, hhover, hfocus, hselection]
  changes_iff event := by rw [run_concat, changes_iff]
  activate code := changes_activate _ code
  hover_or_focus event h := changes_of_pin?_eq_none (pin?_eq_none h)

end Selection

end PollAtlas.Panel
