import PollAtlas.Proofs.Panel.Streams

/-!
# The empty code in a selection

An empty code stands for no region. An initial selection and a selection from outside are held to
that, so after either of them the selection names a region or nothing (`isProper_ofSelected`,
`pinned?_ne_empty`). Of all events only the activation of the empty code can break this rule
(`keeps_isProper_iff`), and the next step of the selection mends it: a second activation frees the
empty code, and everything else replaces it. Hence a run ends with the empty code exactly after an
odd number of such activations in a row.

* `Selection.FollowsEmptyCode`: when a run of events ends with the empty code, and what is shown
  then.
* `Selection.run_followsEmptyCode`: every run from an initial selection.
* `Selection.not_run_isProper`: one activation is enough to break the rule.
-/

namespace PollAtlas.Panel

namespace Selection

/-- The selection is not the empty code. -/
def IsProper (s : Selection) : Prop := s.selected ≠ some ""

/-! ## One step -/

theorem pinned?_ne_empty (code : Option String) : pinned? code ≠ some "" := by
  intro h
  obtain ⟨-, hne⟩ := Option.filter_eq_some_iff.mp h
  exact absurd rfl (of_decide_eq_true hne)

theorem toggled_eq_empty_iff {slot : Option String} {code : String} :
    toggled slot code = some "" ↔ code = "" ∧ slot ≠ some "" := by
  by_cases hslot : slot = some code
  · subst hslot
    rw [toggled_self]
    refine ⟨nofun, ?_⟩
    rintro ⟨rfl, hne⟩
    exact absurd rfl hne
  · rw [toggled_of_ne hslot, Option.some.injEq]
    refine ⟨?_, And.left⟩
    rintro rfl
    exact ⟨rfl, hslot⟩

theorem isProper_ofSelected (code : Option String) : (ofSelected code).IsProper :=
  pinned?_ne_empty code

end Selection

open Selection (IsProper)

/-- A step ends with the empty code just when it activates that code and does not free it. -/
theorem Pin.apply_eq_empty_iff {slot : Option String} {pin : Pin} :
    pin.apply slot = some "" ↔ pin = .activate "" ∧ slot ≠ some "" := by
  cases pin with
  | activate code => rw [Pin.apply, Selection.toggled_eq_empty_iff, Pin.activate.injEq]
  | select code =>
    refine ⟨fun h => absurd h (Selection.pinned?_ne_empty code), ?_⟩
    rintro ⟨h, -⟩
    cases h

theorem Event.eq_activate_of_pin? {event : Event} {code : String}
    (h : event.pin? = some (.activate code)) : event = .activate code := by
  cases event with
  | activate other =>
    cases h
    rfl
  | pointerEnter other => cases h
  | pointerLeave other => cases h
  | focus other => cases h
  | blur other => cases h
  | select other => cases h

/-- The rule is kept by every event but the activation of the empty code. -/
theorem keeps_isProper_iff (event : Event) :
    (∀ s : Selection, s.IsProper → (s.apply event).IsProper) ↔ event ≠ .activate "" := by
  constructor
  · rintro hkeeps rfl
    exact hkeeps Selection.empty nofun rfl
  · intro hne s hs hempty
    rw [apply_eq] at hempty
    cases hpin : event.pin? with
    | none =>
      rw [hpin] at hempty
      exact hs hempty
    | some pin =>
      rw [hpin] at hempty
      obtain ⟨rfl, -⟩ := Pin.apply_eq_empty_iff.mp hempty
      exact hne (Event.eq_activate_of_pin? hpin)

/-! ## Runs -/

/-- How often in a row the empty code is activated at the end of a stream. -/
def finalEmptyActivations (pins : List Pin) : Nat :=
  (pins.reverse.takeWhile (· = .activate "")).length

theorem finalEmptyActivations_concat (pins : List Pin) (pin : Pin) :
    finalEmptyActivations (pins ++ [pin]) =
      if pin = .activate "" then finalEmptyActivations pins + 1 else 0 := by
  rw [finalEmptyActivations, List.reverse_append, List.reverse_singleton, List.singleton_append,
    List.takeWhile_cons]
  by_cases hpin : pin = .activate ""
  · simp [hpin, finalEmptyActivations]
  · simp [hpin]

theorem foldl_pins_eq_empty_iff {start : Option String} (hstart : start ≠ some "")
    (pins : List Pin) :
    pins.foldl Pin.apply start = some "" ↔ finalEmptyActivations pins % 2 = 1 := by
  induction pins using List.reverseRecOn with
  | nil => exact iff_of_false hstart (by decide)
  | append_singleton pins pin ih =>
    rw [List.foldl_append, List.foldl_cons, List.foldl_nil, Pin.apply_eq_empty_iff, ne_eq, ih,
      finalEmptyActivations_concat]
    by_cases hpin : pin = .activate ""
    · rw [if_pos hpin, and_iff_right hpin]
      omega
    · rw [if_neg hpin]
      exact iff_of_false (fun h => hpin h.1) (by decide)

namespace Selection

theorem run_isProper {s : Selection} (hs : s.IsProper) {events : List Event}
    (h : .activate "" ∉ events) : (s.run events).IsProper := by
  induction events generalizing s with
  | nil => exact hs
  | cons event events ih =>
    obtain ⟨hne, hrest⟩ := List.ne_and_not_mem_of_not_mem_cons h
    exact ih ((keeps_isProper_iff event).mpr hne.symm s hs) hrest

theorem mode_eq_selected_iff {s : Selection} :
    s.mode = .selected ↔ ∃ code, s.selected = some code := by
  rw [← Option.isSome_iff_exists, mode]
  cases s.selected with
  | some code => simp
  | none =>
    simp only [Option.isSome_none, Bool.false_eq_true, if_false, iff_false]
    split_ifs <;> nofun

theorem active?_of_selected {s : Selection} {code : String} (h : s.selected = some code) :
    s.active? = some code := by
  rw [active?, h]
  rfl

theorem shown_empty_iff {s : Selection} :
    s.mode = .selected ∧ s.active? = some "" ↔ s.selected = some "" := by
  constructor
  · rintro ⟨hmode, hactive⟩
    obtain ⟨code, hcode⟩ := mode_eq_selected_iff.mp hmode
    rw [active?_of_selected hcode] at hactive
    rw [hcode, hactive]
  · intro h
    exact ⟨mode_eq_selected_iff.mpr ⟨"", h⟩, active?_of_selected h⟩

/-- When a run of events ends with the empty code. The panel then shows the empty code as a
selected region. -/
structure FollowsEmptyCode (start : Selection) (events : List Event) : Prop where
  selected_iff : (start.run events).selected = some "" ↔
    finalEmptyActivations (selectionStream events) % 2 = 1
  shown_iff : (start.run events).mode = .selected ∧ (start.run events).active? = some "" ↔
    finalEmptyActivations (selectionStream events) % 2 = 1
  proper : .activate "" ∉ events →
    (start.run events).IsProper ∧ ((start.run events).mode = .selected →
      ∃ code, (start.run events).active? = some code ∧ code ≠ "")

/-- Every event but the activation of the empty code keeps a selection proper. A run from an
initial selection, which may be no region at all, ends with the empty code exactly after an odd
number of such activations in a row. -/
theorem run_followsEmptyCode (code : Option String) (events : List Event) :
    (∀ event, (∀ s : Selection, s.IsProper → (s.apply event).IsProper) ↔ event ≠ .activate "") ∧
      ofSelected none = empty ∧ (ofSelected code).IsProper ∧
        (ofSelected code).FollowsEmptyCode events := by
  refine ⟨keeps_isProper_iff, rfl, isProper_ofSelected code, ?_⟩
  have hselected : ((ofSelected code).run events).selected = some "" ↔
      finalEmptyActivations (selectionStream events) % 2 = 1 := by
    rw [run_eq]
    exact foldl_pins_eq_empty_iff (pinned?_ne_empty code) _
  exact {
    selected_iff := hselected
    shown_iff := shown_empty_iff.trans hselected
    proper := fun h => by
      have hproper := run_isProper (isProper_ofSelected code) h
      refine ⟨hproper, fun hmode => ?_⟩
      obtain ⟨region, hregion⟩ := mode_eq_selected_iff.mp hmode
      refine ⟨region, active?_of_selected hregion, ?_⟩
      rintro rfl
      exact hproper hregion }

/-- A region without a code can be selected by activating it. -/
theorem not_run_isProper :
    ¬ ∀ (code : Option String) (events : List Event), ((ofSelected code).run events).IsProper := by
  intro h
  have hempty : ((ofSelected none).run [.activate ""]).selected = some "" := by decide
  exact h none [.activate ""] hempty

end Selection

end PollAtlas.Panel
