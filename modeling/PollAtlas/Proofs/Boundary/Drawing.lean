import PollAtlas.Proofs.Boundary.Markup
import PollAtlas.Proofs.Number.Digits

/-!
# Drawings that are read back

A drawing is read back as the tags that it is made of: one element for each region that has a
shape, between the two tags of the drawing itself. The codes and names of regions may hold any
characters; numbers and outlines are written without the ones that mean something in markup.

* `escaped_eq_replacedAll`: escaping is one replacement after another.
* `IsPlain`: texts that are escaped as themselves.
* `isPlain_outlineText`: the text of an outline is one of these.
* `read?_drawing`: the tags of a drawing.
-/

namespace PollAtlas.Boundary

/-! ## Escaping -/

/-- The characters with every occurrence of one of them replaced. -/
def replaced (c : Char) (replacement : String) (cs : List Char) : List Char :=
  cs.flatMap fun d => if d = c then replacement.toList else [d]

theorem replaced_append (c : Char) (replacement : String) (cs ds : List Char) :
    replaced c replacement (cs ++ ds) =
      replaced c replacement cs ++ replaced c replacement ds :=
  List.flatMap_append

theorem replaced_singleton_of_ne {c d : Char} (h : d ≠ c) (replacement : String) :
    replaced c replacement [d] = [d] := by
  rw [replaced, List.flatMap_singleton, if_neg h]

/-- One replacement after another. Ampersands come first, so that those of the entities stay. -/
def replacedAll (cs : List Char) : List Char :=
  replaced '>' "&gt;" (replaced '<' "&lt;" (replaced '"' "&quot;" (replaced '&' "&amp;" cs)))

theorem escapedChar_eq_replacedAll (c : Char) : escapedChar c = replacedAll [c] := by
  unfold escapedChar
  split
  · decide
  · decide
  · decide
  · decide
  · rename_i hamp hquote hless hgreater
    rw [replacedAll, replaced_singleton_of_ne hamp, replaced_singleton_of_ne hquote,
      replaced_singleton_of_ne hless, replaced_singleton_of_ne hgreater]

theorem escaped_eq_replacedAll (s : String) : escaped s = replacedAll s.toList := by
  rw [escaped]
  induction s.toList with
  | nil => rfl
  | cons c cs ih =>
    have hsplit : replacedAll ([c] ++ cs) = replacedAll [c] ++ replacedAll cs := by
      simp only [replacedAll, replaced_append]
    rw [List.flatMap_cons, ih, escapedChar_eq_replacedAll, ← hsplit, List.singleton_append]

/-! ## Plain texts -/

/-- No character of the text means something in markup. -/
def IsPlain (cs : List Char) : Prop := ∀ c ∈ cs, escapedChar c = [c]

instance (cs : List Char) : Decidable (IsPlain cs) := List.decidableBAll _ cs

theorem IsPlain.escaped_ofList {cs : List Char} (h : IsPlain cs) :
    escaped (String.ofList cs) = cs := by
  rw [escaped, String.toList_ofList]
  induction cs with
  | nil => rfl
  | cons c cs ih =>
    obtain ⟨hc, hcs⟩ := List.forall_mem_cons.mp h
    rw [List.flatMap_cons, hc, ih hcs, List.singleton_append]

theorem IsPlain.append {cs ds : List Char} (hc : IsPlain cs) (hd : IsPlain ds) :
    IsPlain (cs ++ ds) := fun c h => (List.mem_append.mp h).elim (hc c) (hd c)

theorem IsPlain.cons {c : Char} {cs : List Char} (hc : escapedChar c = [c]) (hcs : IsPlain cs) :
    IsPlain (c :: cs) := List.forall_mem_cons.mpr ⟨hc, hcs⟩

theorem isPlain_of_allDigits {cs : List Char} (h : AllDigits cs) : IsPlain cs := by
  intro c hc
  have hdigit := h c hc
  unfold escapedChar
  split
  · cases hdigit
  · cases hdigit
  · cases hdigit
  · cases hdigit
  · rfl

theorem isPlain_intercalate {separator : List Char} {parts : List (List Char)}
    (hseparator : IsPlain separator) (hparts : ∀ cs ∈ parts, IsPlain cs) :
    IsPlain (separator.intercalate parts) := by
  induction parts with
  | nil => exact nofun
  | cons cs parts ih =>
    obtain ⟨hcs, hparts⟩ := List.forall_mem_cons.mp hparts
    cases parts with
    | nil =>
      rw [List.intercalate_singleton]
      exact hcs
    | cons ds parts =>
      rw [List.intercalate_cons_cons]
      exact (hcs.append hseparator).append (ih hparts)

/-! ## Numbers -/

theorem isPlain_signText (negative : Bool) : IsPlain (Double.signText negative) := by
  cases negative <;> decide

/-- Digits with a point somewhere between them. -/
theorem isPlain_pointed (width n point : Nat) :
    IsPlain ((List.leftpad width '0' (Nat.toDigits 10 n)).take point ++
      '.' :: (List.leftpad width '0' (Nat.toDigits 10 n)).drop point) := by
  have hdigits := isPlain_of_allDigits (allDigits_leftpad width n)
  exact IsPlain.append (fun c hc => hdigits c (List.mem_of_mem_take hc))
    (.cons rfl fun c hc => hdigits c (List.mem_of_mem_drop hc))

theorem isPlain_fixedText (places : Nat) (x : Double) : IsPlain (x.fixedText places) := by
  cases x with
  | nan => exact (by decide : IsPlain ['N', 'a', 'N'])
  | infinity negative => exact (isPlain_signText negative).append (by decide)
  | finite negative units hunits =>
    exact (isPlain_signText negative).append (isPlain_pointed _ _ _)

theorem isPlain_text (x : Double) : IsPlain (x.text .plain) := by
  cases x with
  | nan => decide
  | infinity negative => exact (isPlain_signText negative).append (by decide)
  | finite negative units hunits =>
    refine (isPlain_signText negative).append ?_
    show IsPlain (Layout.plain.positionalText (Layout.plain.decimal units))
    rw [Layout.positionalText]
    split
    · refine IsPlain.append (isPlain_of_allDigits ?_) (by decide)
      exact (allDigits_toDigits _).append (allDigits_zeros _)
    · exact isPlain_pointed _ _ _

/-! ## Outlines -/

theorem isPlain_pointText (p : CanvasPoint Double) : IsPlain p.text :=
  (isPlain_fixedText 2 p.x).append (.cons rfl (isPlain_fixedText 2 p.y))

theorem isPlain_commandText (command : DrawCommand Double) : IsPlain command.text := by
  cases command with
  | moveTo p => exact .cons rfl (.cons rfl (isPlain_pointText p))
  | lineTo p => exact .cons rfl (.cons rfl (isPlain_pointText p))
  | close => decide

theorem isPlain_outlineText (outline : Outline Double) : IsPlain outline.text := by
  refine isPlain_intercalate (by decide) (List.forall_mem_map.mpr fun segment _ => ?_)
  exact isPlain_intercalate (by decide)
    (List.forall_mem_map.mpr fun command _ => isPlain_commandText command)

/-! ## Tags -/

open Markup (IsName Tag attributesText readFrom readFrom_closing readFrom_empty readFrom_opening
  readFrom_space tagText)

/-- The attributes of a region's element, as they are read back. -/
def shownAttributes (f : Feature Double) (shape : Shape Double) (style : Style) :
    List (String × String) :=
  [("data-region-code", f.regionCode), ("aria-label", f.regionName),
    ("d", String.ofList shape.outline.text), ("fill", style.fill), ("stroke", style.stroke),
    ("stroke-width", style.strokeWidth)]

/-- The attributes of a drawing. -/
def headAttributes (canvas : Canvas Double) : List (String × String) :=
  [("xmlns", "http://www.w3.org/2000/svg"),
    ("viewBox", "0 0 " ++ canvas.width.plainText ++ " " ++ canvas.height.plainText),
    ("role", "img")]

theorem escaped_style (style : Style) :
    escaped style.fill = style.fill.toList ∧ escaped style.stroke = style.stroke.toList ∧
      escaped style.strokeWidth = style.strokeWidth.toList := by
  cases style <;> decide +kernel

theorem pathAttributes_eq (f : Feature Double) (shape : Shape Double) (style : Style) :
    pathAttributes f shape style =
      (shownAttributes f shape style).map (Prod.map id escaped) := by
  obtain ⟨hfill, hstroke, hwidth⟩ := escaped_style style
  have houtline := (isPlain_outlineText shape.outline).escaped_ofList
  simp only [pathAttributes, shownAttributes, List.map_cons, List.map_nil, Prod.map_apply, id_eq,
    houtline, hfill, hstroke, hwidth]

theorem pathElement_eq (f : Feature Double) (shape : Shape Double) (style : Style) :
    pathElement f shape style =
      ' ' :: ' ' :: (tagText "path" (shownAttributes f shape style) ++ ['/', '>', '\n']) := by
  have hstart : "  <path".toList = ' ' :: ' ' :: '<' :: "path".toList := by decide
  have hend : "/>\n".toList = ['/', '>', '\n'] := by decide
  unfold pathElement
  rw [pathAttributes_eq, List.flatMap_map, hstart, hend]
  rfl

theorem escaped_viewBox (canvas : Canvas Double) :
    escaped ("0 0 " ++ canvas.width.plainText ++ " " ++ canvas.height.plainText) =
      "0 0 ".toList ++ (canvas.width.text .plain ++ ' ' :: canvas.height.text .plain) := by
  have hplain : IsPlain ("0 0 ".toList ++
      (canvas.width.text .plain ++ ' ' :: canvas.height.text .plain)) :=
    IsPlain.append (by decide) ((isPlain_text _).append (.cons rfl (isPlain_text _)))
  have htext : "0 0 " ++ canvas.width.plainText ++ " " ++ canvas.height.plainText =
      String.ofList ("0 0 ".toList ++
        (canvas.width.text .plain ++ ' ' :: canvas.height.text .plain)) := by
    rw [← String.toList_inj]
    simp [Double.plainText]
  rw [htext, hplain.escaped_ofList]

theorem drawingHead_eq (canvas : Canvas Double) :
    drawingHead canvas = tagText "svg" (headAttributes canvas) ++ ['>', '\n'] := by
  have hstart : "<svg xmlns=\"http://www.w3.org/2000/svg\" viewBox=\"0 0 ".toList =
      '<' :: ("svg".toList ++ (attributeText "xmlns" (escaped "http://www.w3.org/2000/svg") ++
        ' ' :: ("viewBox".toList ++ '=' :: '"' :: "0 0 ".toList))) := by decide +kernel
  have hend : "\" role=\"img\">\n".toList =
      '"' :: (attributeText "role" (escaped "img") ++ ['>', '\n']) := by decide +kernel
  have hattributes : attributesText (headAttributes canvas) =
      attributeText "xmlns" (escaped "http://www.w3.org/2000/svg") ++
        (' ' :: "viewBox".toList ++ '=' :: '"' :: ("0 0 ".toList ++
          (canvas.width.text .plain ++ ' ' :: canvas.height.text .plain)) ++ ['"'] ++
        (attributeText "role" (escaped "img") ++ [])) := by
    rw [← escaped_viewBox]
    rfl
  unfold drawingHead
  rw [tagText, hattributes, hstart, hend]
  simp only [List.append_assoc, List.cons_append, List.nil_append, List.append_nil]

/-- The tags of the regions that have a shape. -/
def shownTags (features : List (Feature Double)) (shapes : Std.ExtTreeMap String (Shape Double))
    (style : Feature Double → Style) : List Tag :=
  features.filterMap fun f =>
    shapes[f.regionCode]?.map fun shape => .empty ⟨"path", shownAttributes f shape (style f)⟩

theorem readFrom_pathElement (f : Feature Double) (shape : Shape Double) (style : Style)
    (rest : List Char) :
    readFrom .between (pathElement f shape style ++ rest) =
      (readFrom .between rest).map (.empty ⟨"path", shownAttributes f shape style⟩ :: ·) := by
  have hkeys : ∀ key ∈ (shownAttributes f shape style).map Prod.fst, IsName key.toList := by
    show ∀ key ∈ ["data-region-code", "aria-label", "d", "fill", "stroke", "stroke-width"], _
    decide
  rw [pathElement_eq, List.cons_append, List.cons_append, List.append_assoc,
    readFrom_space rfl, readFrom_space rfl]
  show readFrom .between (tagText "path" (shownAttributes f shape style) ++
    '/' :: '>' :: '\n' :: rest) = _
  rw [readFrom_empty (by decide) hkeys, readFrom_space rfl]

theorem readFrom_drawingBody (features : List (Feature Double))
    (shapes : Std.ExtTreeMap String (Shape Double)) (style : Feature Double → Style)
    (rest : List Char) :
    readFrom .between (drawingBody features shapes style ++ rest) =
      (readFrom .between rest).map (shownTags features shapes style ++ ·) := by
  induction features with
  | nil =>
    show readFrom .between rest = (readFrom .between rest).map id
    rw [Option.map_id]
    rfl
  | cons f features ih =>
    rw [drawingBody, List.flatMap_cons, List.append_assoc, ← drawingBody, shownTags,
      List.filterMap_cons, ← shownTags]
    cases shapes[f.regionCode]? with
    | none => exact ih
    | some shape =>
      show readFrom .between (pathElement f shape (style f) ++ _) = _
      rw [readFrom_pathElement, ih, Option.map_map]
      rfl

/-- A drawing is read back, whatever characters the codes and names of the regions hold. -/
theorem read?_drawing (features : List (Feature Double))
    (shapes : Std.ExtTreeMap String (Shape Double)) (canvas : Canvas Double)
    (style : Feature Double → Style) :
    Markup.read? (drawing features shapes canvas style) =
      some (.opening ⟨"svg", headAttributes canvas⟩ :: shownTags features shapes style ++
        [.closing "svg"]) := by
  have hkeys : ∀ key ∈ (headAttributes canvas).map Prod.fst, IsName key.toList := by
    show ∀ key ∈ ["xmlns", "viewBox", "role"], _
    decide
  have hend : "</svg>\n".toList = '<' :: '/' :: ("svg".toList ++ ['>', '\n']) := by decide
  have hclosing : readFrom .between "</svg>\n".toList = some [.closing "svg"] := by
    rw [hend, readFrom_closing (by decide), readFrom_space rfl, String.ofList_toList]
    rfl
  have hhead : readFrom .between (drawingHead canvas ++
      (drawingBody features shapes style ++ "</svg>\n".toList)) =
      (readFrom .between (drawingBody features shapes style ++ "</svg>\n".toList)).map
        (.opening ⟨"svg", headAttributes canvas⟩ :: ·) := by
    rw [drawingHead_eq, List.append_assoc]
    show readFrom .between (tagText "svg" (headAttributes canvas) ++ '>' :: '\n' :: _) = _
    rw [readFrom_opening (by decide) hkeys, readFrom_space rfl]
    rfl
  rw [Markup.read?, drawing, String.toList_ofList, List.append_assoc, hhead,
    readFrom_drawingBody, hclosing]
  rfl

end PollAtlas.Boundary
