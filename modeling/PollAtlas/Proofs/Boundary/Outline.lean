import Mathlib.Data.List.Forall2
import PollAtlas.Proofs.Boundary.Placement
import PollAtlas.Proofs.Number.Digits
import PollAtlas.Proofs.Text.Marks

/-!
# Outlines that are read back

An outline has a segment for each ring of a boundary, of one polygon or of several in order
(`Geometry.HasRings`), empty rings included. The text of an outline is taken apart at spaces. Where
a segment is empty the text has two spaces in a row, or one at an end, and nothing else is between
the pieces but the words of the commands. So the text is blank only if there is no command at all.

* `IsTraceOf`: the segment of a ring.
* `IsTwoDecimals`, `IsSpelled`: the texts of coordinates and of commands.
* `outlines_lossless`: the segments of a shape, and what the text of any outline holds.
-/

namespace PollAtlas.Boundary

open Text (IsWord words words_append_space words_eq_nil_iff words_intercalate)

/-! ## Segments -/

section

variable {α : Type} [Scalar α]

/-- The commands that draw a ring: to the place of its first point, along those of the others, and
back. A ring without points is not drawn. -/
inductive IsTraceOf (pr : Projector α) : Ring α → List (DrawCommand α) → Prop where
  | empty : IsTraceOf pr [] []
  | closed (first : LonLat α) (rest : Ring α) : IsTraceOf pr (first :: rest)
      (.moveTo (pr.point first) :: rest.map (fun p => .lineTo (pr.point p)) ++ [.close])

theorem isTraceOf_segment (pr : Projector α) (ring : Ring α) :
    IsTraceOf pr ring (Outline.segment (ring.map pr.point)) := by
  cases ring with
  | nil => exact .empty
  | cons first rest =>
    rw [List.map_cons, Outline.segment, List.map_map]
    exact .closed first rest

/-- A shape has one segment for each ring, in order. -/
theorem segments_shape (pr : Projector α) {f : Feature α} {rings : List (Ring α)}
    (h : f.geometry.HasRings rings) :
    List.Forall₂ (IsTraceOf pr) rings (pr.shape f).outline.segments := by
  rw [shape_eq pr h]
  show List.Forall₂ _ _ ((rings.map (List.map pr.point)).map Outline.segment)
  rw [List.map_map, List.forall₂_map_right_iff, List.forall₂_same]
  exact fun ring _ => isTraceOf_segment pr ring

end

/-! ## Coordinates -/

/-- A magnitude in hundredths, a half going to the even neighbour. -/
def hundredths (units : Nat) : Nat := roundHalfEven (units * 100) Double.unitsPerOne

/-- The text of a number with two decimals. -/
inductive IsTwoDecimals : Double → List Char → Prop where
  | nan : IsTwoDecimals .nan ['N', 'a', 'N']
  | infinity (negative : Bool) :
      IsTwoDecimals (.infinity negative) (Double.signText negative ++ ['i', 'n', 'f'])
  | finite (negative : Bool) (units : Nat) (h : Representable units) :
      IsTwoDecimals (.finite negative units h) (Double.signText negative ++
        Nat.toDigits 10 (hundredths units / 100) ++
          ['.', (hundredths units / 10 % 10).digitChar, (hundredths units % 10).digitChar])

/-- A number that is padded to three digits has two digits behind its hundredth part. -/
theorem leftpad_toDigits (n : Nat) :
    List.leftpad 3 '0' (Nat.toDigits 10 n) =
      Nat.toDigits 10 (n / 100) ++ [(n / 10 % 10).digitChar, (n % 10).digitChar] := by
  have hsmall : ∀ m, m < 10 → Nat.toDigits 10 m = [m.digitChar] := by
    intro m hm
    rw [Nat.toDigits_eq_if (by decide), if_pos hm]
  have hlarge : ∀ m, 10 ≤ m →
      Nat.toDigits 10 m = Nat.toDigits 10 (m / 10) ++ [(m % 10).digitChar] := by
    intro m hm
    rw [Nat.toDigits_eq_if (by decide), if_neg (by omega)]
  -- One, two or more digits. Zeros are put in front only in the first two cases.
  rcases Nat.lt_or_ge n 10 with hone | htwo
  · have hparts : n / 100 = 0 ∧ n / 10 % 10 = 0 ∧ n % 10 = n := by omega
    rw [hsmall n hone, hparts.1, hparts.2.1, hparts.2.2]
    rfl
  · rw [hlarge n htwo]
    rcases Nat.lt_or_ge (n / 10) 10 with hfewer | hmore
    · have hparts : n / 100 = 0 ∧ n / 10 % 10 = n / 10 := by omega
      rw [hsmall (n / 10) hfewer, hparts.1, hparts.2]
      rfl
    · have hpos : 0 < (Nat.toDigits 10 (n / 100)).length := Nat.length_toDigits_pos
      have hdigits : Nat.toDigits 10 (n / 10) ++ [(n % 10).digitChar] =
          Nat.toDigits 10 (n / 100) ++ [(n / 10 % 10).digitChar, (n % 10).digitChar] := by
        rw [hlarge (n / 10) hmore, Nat.div_div_eq_div_mul, List.append_assoc]
        rfl
      rw [hdigits, List.leftpad, Nat.sub_eq_zero_of_le, List.replicate_zero, List.nil_append]
      rw [List.length_append, List.length_cons, List.length_cons]
      omega

theorem point_before_two (whole : List Char) (tenths last : Char) :
    (whole ++ [tenths, last]).take ((whole ++ [tenths, last]).length - 2) ++
        '.' :: (whole ++ [tenths, last]).drop ((whole ++ [tenths, last]).length - 2) =
      whole ++ ['.', tenths, last] := by
  simp

theorem isTwoDecimals_coordinateText (x : Double) : IsTwoDecimals x (coordinateText x) := by
  cases x with
  | nan => exact .nan
  | infinity negative => exact .infinity negative
  | finite negative units h =>
    have hpadded := leftpad_toDigits (hundredths units)
    generalize hwhole : Nat.toDigits 10 (hundredths units / 100) = whole at hpadded
    have hmagnitude : Double.fixedMagnitude 2 units = whole ++
        ['.', (hundredths units / 10 % 10).digitChar, (hundredths units % 10).digitChar] := by
      rw [← point_before_two, ← hpadded]
      rfl
    have htext : coordinateText (.finite negative units h) = Double.signText negative ++
        Nat.toDigits 10 (hundredths units / 100) ++
          ['.', (hundredths units / 10 % 10).digitChar, (hundredths units % 10).digitChar] := by
      rw [hwhole, List.append_assoc, ← hmagnitude]
      rfl
    rw [htext]
    exact .finite negative units h

theorem IsTwoDecimals.isWord {x : Double} {cs : List Char} (h : IsTwoDecimals x cs) :
    IsWord cs := by
  have hsign : ∀ negative, ' ' ∉ Double.signText negative := by decide
  cases h with
  | nan => exact ⟨by simp, by decide⟩
  | infinity negative => exact ⟨by simp, by simp [hsign]⟩
  | finite negative units h =>
    have hwhole := (allDigits_toDigits (hundredths units / 100)).not_mem (c := ' ') rfl
    have hdigit : ∀ n < 10, n.digitChar ≠ ' ' := by decide
    have htenths := hdigit _ (Nat.mod_lt (hundredths units / 10) (by decide : 0 < 10))
    have hlast := hdigit _ (Nat.mod_lt (hundredths units) (by decide : 0 < 10))
    refine ⟨by simp, ?_⟩
    simp [hsign, hwhole, htenths.symm, hlast.symm]

/-! ## Commands -/

/-- The words of a command: a letter and the coordinates of its point, if it has one. -/
inductive IsSpelled : DrawCommand Double → List (List Char) → Prop where
  | moveTo {p : CanvasPoint Double} {x y : List Char} : IsTwoDecimals p.x x → IsTwoDecimals p.y y →
      IsSpelled (.moveTo p) [['M'], x, y]
  | lineTo {p : CanvasPoint Double} {x y : List Char} : IsTwoDecimals p.x x → IsTwoDecimals p.y y →
      IsSpelled (.lineTo p) [['L'], x, y]
  | close : IsSpelled .close [['Z']]

theorem words_letter_pointText {letter : Char} (h : letter ≠ ' ') (p : CanvasPoint Double) :
    words (letter :: ' ' :: p.text) = [[letter], coordinateText p.x, coordinateText p.y] := by
  have hletter : IsWord [letter] := ⟨by simp, by simpa using h.symm⟩
  have hx := (isTwoDecimals_coordinateText p.x).isWord
  have hy := (isTwoDecimals_coordinateText p.y).isWord
  have hsplit : letter :: ' ' :: p.text = [letter] ++ ' ' :: p.text := rfl
  rw [hsplit, words_append_space, CanvasPoint.text, words_append_space, hletter.words_eq,
    hx.words_eq, hy.words_eq]
  rfl

theorem isSpelled_words (command : DrawCommand Double) : IsSpelled command (words command.text) := by
  cases command with
  | moveTo p =>
    rw [DrawCommand.text, words_letter_pointText (by decide)]
    exact .moveTo (isTwoDecimals_coordinateText p.x) (isTwoDecimals_coordinateText p.y)
  | lineTo p =>
    rw [DrawCommand.text, words_letter_pointText (by decide)]
    exact .lineTo (isTwoDecimals_coordinateText p.x) (isTwoDecimals_coordinateText p.y)
  | close => exact .close

theorem IsSpelled.ne_nil {command : DrawCommand Double} {spelling : List (List Char)}
    (h : IsSpelled command spelling) : spelling ≠ [] := by
  cases h <;> simp

/-! ## Outlines -/

/-- The text of an outline has the words of its commands and no others. -/
theorem words_outlineText (o : Outline Double) :
    words o.text = o.commands.flatMap fun command => words command.text := by
  have hsegment : ∀ segment, words (Outline.segmentText segment) =
      segment.flatMap fun command => words command.text := by
    intro segment
    rw [Outline.segmentText, words_intercalate, List.flatMap_map]
  rw [Outline.text, words_intercalate, List.flatMap_map, Outline.commands, ← List.flatMap_id,
    List.flatMap_assoc]
  simp only [hsegment, id]

theorem isEmpty_iff {o : Outline Double} : o.isEmpty = true ↔ o.commands = [] := by
  rw [Outline.isEmpty, Outline.commands, List.flatten_eq_nil_iff, List.all_eq_true]
  simp only [List.isEmpty_iff]

theorem blank_outlineText_iff {o : Outline Double} :
    (∀ c ∈ o.text, c = ' ') ↔ o.isEmpty = true := by
  rw [← words_eq_nil_iff, words_outlineText, isEmpty_iff, List.flatMap_eq_nil_iff]
  constructor
  · intro h
    rw [List.eq_nil_iff_forall_not_mem]
    exact fun command hcommand => (isSpelled_words command).ne_nil (h command hcommand)
  · intro h
    simp [h]

/-- Nothing is lost in an outline, nor in its text. -/
theorem outlines_lossless :
    (∀ (pr : Projector Double) (f : Feature Double), ∃ rings, f.geometry.HasRings rings ∧
      List.Forall₂ (IsTraceOf pr) rings (pr.shape f).outline.segments) ∧
    ∀ o : Outline Double,
      (∃ spellings, List.Forall₂ IsSpelled o.commands spellings ∧
        words o.text = spellings.flatten) ∧
      ((∀ c ∈ o.text, c = ' ') ↔ o.isEmpty = true) ∧
      o.toJson = .string (String.ofList o.text) := by
  refine ⟨fun pr f => ?_, fun o => ⟨?_, blank_outlineText_iff, rfl⟩⟩
  · obtain ⟨rings, hrings⟩ := f.geometry.exists_hasRings
    exact ⟨rings, hrings, segments_shape pr hrings⟩
  refine ⟨o.commands.map fun command => words command.text, ?_, ?_⟩
  · rw [List.forall₂_map_right_iff, List.forall₂_same]
    exact fun command _ => isSpelled_words command
  · rw [words_outlineText, List.flatMap_def]

/-- Three polygons: one with an empty ring, one without rings, and a single point. -/
def islands : Feature Double :=
  ⟨"KR-50", "제주특별자치도", .multiPolygon [[[⟨126, 34⟩, ⟨127, 33⟩], []], [], [[⟨126, 33⟩]]]⟩

/-- A projector onto a canvas without padding. -/
def islandProjector : Projector Double := ⟨⟨126, 127, 33, 34⟩, ⟨100, 100, 0⟩⟩

theorem outlines_lossless_islands :
    (islandProjector.shape islands).outline.segments =
        [[.moveTo (islandProjector.point ⟨126, 34⟩), .lineTo (islandProjector.point ⟨127, 33⟩),
          .close], [], [.moveTo (islandProjector.point ⟨126, 33⟩), .close]] ∧
      String.ofList (islandProjector.shape islands).outline.text =
        "M 0.00 0.00 L 100.00 100.00 Z  M 0.00 100.00 Z" := by
  have htraced : ∀ (a b c : LonLat Double) segments,
      List.Forall₂ (IsTraceOf islandProjector) [[a, b], [], [c]] segments →
        segments = [[.moveTo (islandProjector.point a), .lineTo (islandProjector.point b), .close],
          [], [.moveTo (islandProjector.point c), .close]] := by
    rintro a b c segments (_ | ⟨⟨⟩, _ | ⟨⟨⟩, _ | ⟨⟨⟩, ⟨⟩⟩⟩⟩)
    rfl
  obtain ⟨rings, hrings, htraces⟩ := outlines_lossless.1 islandProjector islands
  cases hrings with
  | multiPolygon polygons => exact ⟨htraced _ _ _ _ htraces, by decide +kernel⟩

end PollAtlas.Boundary
