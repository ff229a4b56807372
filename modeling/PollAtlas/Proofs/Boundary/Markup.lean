import PollAtlas.Boundary.Drawing

/-!
# Reading markup

A strict reader of markup, one character after another. Between tags there is nothing but
blanks. In a tag there are a name and attributes, each with a blank before it and its value in
double quotes. A value ends at the next double quote; it holds no angle brackets, and no ampersand
that does not begin one of four entities.

* `Markup.read?`: the tags of a text.
* `unescaped?_escaped`: escaped text stands for the text, whatever it holds.
* `Markup.readFrom_attributes`: the attributes of a tag are read as they were written.
-/

namespace PollAtlas.Boundary

/-! ## Entities -/

/-- The text that an attribute's value stands for. -/
def unescaped? : List Char → Option (List Char)
  | [] => some []
  | '&' :: 'a' :: 'm' :: 'p' :: ';' :: cs => (unescaped? cs).map ('&' :: ·)
  | '&' :: 'q' :: 'u' :: 'o' :: 't' :: ';' :: cs => (unescaped? cs).map ('"' :: ·)
  | '&' :: 'l' :: 't' :: ';' :: cs => (unescaped? cs).map ('<' :: ·)
  | '&' :: 'g' :: 't' :: ';' :: cs => (unescaped? cs).map ('>' :: ·)
  | c :: cs => if c = '&' then none else (unescaped? cs).map (c :: ·)

theorem unescaped?_cons {c : Char} (hc : c ≠ '&') (cs : List Char) :
    unescaped? (c :: cs) = (unescaped? cs).map (c :: ·) := by
  rw [unescaped?]
  · exact if_neg hc
  all_goals
    intros
    exact hc ‹c = '&'›

theorem unescaped?_escapedChar (c : Char) (cs : List Char) :
    unescaped? (escapedChar c ++ cs) = (unescaped? cs).map (c :: ·) := by
  unfold escapedChar
  split
  · rfl
  · rfl
  · rfl
  · rfl
  · rename_i hamp hquote hless hgreater
    exact unescaped?_cons hamp cs

/-- What is escaped stands for itself, even where it looks like an entity. -/
theorem unescaped?_escaped (s : String) : unescaped? (escaped s) = some s.toList := by
  rw [escaped]
  induction s.toList with
  | nil => rfl
  | cons c cs ih => rw [List.flatMap_cons, unescaped?_escapedChar, ih, Option.map_some]

/-- The characters may stand in a value. -/
def AllBare (cs : List Char) : Prop := ∀ c ∈ cs, c ≠ '"' ∧ c ≠ '<' ∧ c ≠ '>'

instance (cs : List Char) : Decidable (AllBare cs) := List.decidableBAll _ cs

theorem allBare_escapedChar (c : Char) : AllBare (escapedChar c) := by
  unfold escapedChar
  split
  · decide
  · decide
  · decide
  · decide
  · rename_i hamp hquote hless hgreater
    intro d hd
    obtain rfl := List.mem_singleton.mp hd
    exact ⟨hquote, hless, hgreater⟩

theorem allBare_escaped (s : String) : AllBare (escaped s) := by
  intro c hc
  obtain ⟨d, _, hc⟩ := List.mem_flatMap.mp hc
  exact allBare_escapedChar d c hc

namespace Markup

/-! ## Tags -/

/-- The name and the attributes of a tag. -/
structure Element where
  name : String
  attributes : List (String × String)
  deriving DecidableEq, Repr

/-- The element with more attributes. -/
def Element.add (e : Element) (attributes : List (String × String)) : Element :=
  ⟨e.name, e.attributes ++ attributes⟩

inductive Tag where
  | opening (e : Element)
  | empty (e : Element)
  | closing (name : String)
  deriving DecidableEq, Repr

/-- Where in a text the reader is. -/
inductive Place where
  | between
  | opened
  | closingName (cs : List Char)
  | tagName (cs : List Char)
  | gap (e : Element)
  | key (e : Element) (cs : List Char)
  | equals (e : Element) (key : String)
  | value (e : Element) (key : String) (cs : List Char)
  | valueEnd (e : Element)
  | slash (e : Element)

/-- What a character does. -/
inductive Step where
  | refused
  | moved (place : Place)
  | read (tag : Tag)

def isSpace (c : Char) : Bool := c ∈ [' ', '\t', '\n', '\r']

def isNameChar (c : Char) : Bool := c.isAlphanum || c == '-'

/-- A character behind the name or behind an attribute. -/
def endStep (e : Element) (c : Char) : Step :=
  if c = '>' then .read (.opening e)
  else if c = '/' then .moved (.slash e)
  else if isSpace c then .moved (.gap e)
  else .refused

def Place.step (place : Place) (c : Char) : Step :=
  match place with
  | between =>
    if c = '<' then .moved opened else if isSpace c then .moved between else .refused
  | opened =>
    if c = '/' then .moved (closingName [])
    else if isNameChar c then .moved (tagName [c])
    else .refused
  | closingName cs =>
    if c = '>' then .read (.closing (String.ofList cs))
    else if isNameChar c then .moved (closingName (cs ++ [c]))
    else .refused
  | tagName cs =>
    if isNameChar c then .moved (tagName (cs ++ [c])) else endStep ⟨String.ofList cs, []⟩ c
  | gap e => if isNameChar c then .moved (key e [c]) else endStep e c
  | key e cs =>
    if c = '=' then .moved (equals e (String.ofList cs))
    else if isNameChar c then .moved (key e (cs ++ [c]))
    else .refused
  | equals e k => if c = '"' then .moved (value e k []) else .refused
  | value e k cs =>
    if c = '"' then
      match unescaped? cs with
      | none => .refused
      | some text => .moved (valueEnd (e.add [(k, String.ofList text)]))
    else if c = '<' ∨ c = '>' then .refused
    else .moved (value e k (cs ++ [c]))
  | valueEnd e => endStep e c
  | slash e => if c = '>' then .read (.empty e) else .refused

/-- The tags of a text, of which a part may have been read. A text does not end inside a tag. -/
def readFrom (place : Place) : List Char → Option (List Tag)
  | [] =>
    match place with
    | .between => some []
    | _ => none
  | c :: cs =>
    match place.step c with
    | .refused => none
    | .moved next => readFrom next cs
    | .read tag => (readFrom .between cs).map (tag :: ·)

/-- The tags of a text. -/
def read? (text : String) : Option (List Tag) := readFrom .between text.toList

/-! ## One character after another -/

variable {place next : Place} {tag : Tag} {c : Char}

theorem readFrom_of_moved (h : place.step c = .moved next) (cs : List Char) :
    readFrom place (c :: cs) = readFrom next cs := by
  rw [readFrom, h]

theorem readFrom_of_read (h : place.step c = .read tag) (cs : List Char) :
    readFrom place (c :: cs) = (readFrom .between cs).map (tag :: ·) := by
  rw [readFrom, h]

theorem readFrom_space (h : isSpace c = true) (cs : List Char) :
    readFrom .between (c :: cs) = readFrom .between cs := by
  have hne : c ≠ '<' := by
    rintro rfl
    exact absurd h (by decide)
  refine readFrom_of_moved ?_ cs
  rw [Place.step, if_neg hne, if_pos h]

/-- Characters that leave the reader in one kind of place are taken one by one. -/
theorem readFrom_append {p : Char → Prop} (reading : List Char → Place)
    (hstep : ∀ read c, p c → (reading read).step c = .moved (reading (read ++ [c])))
    {cs : List Char} (hcs : ∀ c ∈ cs, p c) (read rest : List Char) :
    readFrom (reading read) (cs ++ rest) = readFrom (reading (read ++ cs)) rest := by
  induction cs generalizing read with
  | nil => rw [List.nil_append, List.append_nil]
  | cons c cs ih =>
    obtain ⟨hc, hcs⟩ := List.forall_mem_cons.mp hcs
    rw [List.cons_append, readFrom_of_moved (hstep read c hc), ih hcs, List.append_assoc,
      List.singleton_append]

/-! ## Names -/

/-- A text that can be the name of an element or of an attribute. -/
def IsName (cs : List Char) : Prop := cs ≠ [] ∧ ∀ c ∈ cs, isNameChar c = true

instance (cs : List Char) : Decidable (IsName cs) :=
  decidable_of_iff (cs ≠ [] ∧ cs.all isNameChar = true) (and_congr_right' List.all_eq_true)

theorem ne_of_isNameChar (h : isNameChar c = true) {d : Char} (hd : isNameChar d = false) :
    c ≠ d := by
  rintro rfl
  rw [h] at hd
  cases hd

theorem readFrom_tagName {name : List Char} (h : IsName name) (rest : List Char) :
    readFrom .between ('<' :: (name ++ rest)) = readFrom (.tagName name) rest := by
  obtain ⟨hne, hname⟩ := h
  obtain ⟨c, cs, rfl⟩ := List.exists_cons_of_ne_nil hne
  obtain ⟨hc, hcs⟩ := List.forall_mem_cons.mp hname
  have hopened : Place.opened.step c = .moved (.tagName [c]) := by
    rw [Place.step, if_neg (ne_of_isNameChar hc (by decide)), if_pos hc]
  have hrest := readFrom_append .tagName (fun _ _ hc => if_pos hc) hcs [c] rest
  rw [readFrom_of_moved rfl, List.cons_append, readFrom_of_moved hopened, hrest,
    List.singleton_append]

theorem readFrom_closing {name : List Char} (h : IsName name) (rest : List Char) :
    readFrom .between ('<' :: '/' :: (name ++ '>' :: rest)) =
      (readFrom .between rest).map (.closing (String.ofList name) :: ·) := by
  have hstep : ∀ cs c, isNameChar c = true →
      (Place.closingName cs).step c = .moved (.closingName (cs ++ [c])) := by
    intro cs c hc
    rw [Place.step, if_neg (ne_of_isNameChar hc (by decide)), if_pos hc]
  have hname := readFrom_append .closingName hstep h.2 [] ('>' :: rest)
  rw [readFrom_of_moved rfl, readFrom_of_moved rfl, hname, List.nil_append, readFrom_of_read rfl]

/-! ## Values -/

/-- An escaped text is read as a value up to the quote behind it, and no further. -/
theorem readFrom_escaped (e : Element) (key text : String) (rest : List Char) :
    readFrom (.value e key []) (escaped text ++ '"' :: rest) =
      readFrom (.valueEnd (e.add [(key, text)])) rest := by
  have hstep : ∀ read c, c ≠ '"' ∧ c ≠ '<' ∧ c ≠ '>' →
      (Place.value e key read).step c = .moved (.value e key (read ++ [c])) := by
    rintro read c ⟨hquote, hless, hgreater⟩
    rw [Place.step, if_neg hquote, if_neg (not_or.mpr ⟨hless, hgreater⟩)]
  have hend : (Place.value e key (escaped text)).step '"' =
      .moved (.valueEnd (e.add [(key, text)])) := by
    rw [Place.step, if_pos rfl, unescaped?_escaped]
    dsimp only
    rw [String.ofList_toList]
  have hrest := readFrom_append (.value e key) hstep (allBare_escaped text) [] ('"' :: rest)
  rw [hrest, List.nil_append, readFrom_of_moved hend]

/-! ## Attributes -/

/-- The name of the element or one of its attributes has just ended, or can end here. -/
def Place.IsEndOf (place : Place) (e : Element) : Prop :=
  ∀ c, isNameChar c = false → place.step c = endStep e c

theorem isEndOf_tagName (name : List Char) :
    (Place.tagName name).IsEndOf ⟨String.ofList name, []⟩ := by
  intro c hc
  rw [Place.step, hc, if_neg Bool.false_ne_true]

theorem isEndOf_valueEnd (e : Element) : (Place.valueEnd e).IsEndOf e := fun _ _ => rfl

variable {e : Element}

theorem readFrom_attribute (hplace : place.IsEndOf e) {key : String} (hkey : IsName key.toList)
    (text : String) (rest : List Char) :
    readFrom place (attributeText key (escaped text) ++ rest) =
      readFrom (.valueEnd (e.add [(key, text)])) rest := by
  obtain ⟨hne, hname⟩ := hkey
  obtain ⟨c, cs, hcs⟩ := List.exists_cons_of_ne_nil hne
  rw [hcs] at hname
  obtain ⟨hc, hname⟩ := List.forall_mem_cons.mp hname
  have hgap : place.step ' ' = .moved (.gap e) := hplace ' ' rfl
  have hfirst : (Place.gap e).step c = .moved (.key e [c]) := if_pos hc
  have hstep : ∀ cs c, isNameChar c = true →
      (Place.key e cs).step c = .moved (.key e (cs ++ [c])) := by
    intro cs c hc
    rw [Place.step, if_neg (ne_of_isNameChar hc (by decide)), if_pos hc]
  have hrest := readFrom_append (.key e) hstep hname [c]
    ('=' :: '"' :: (escaped text ++ '"' :: rest))
  rw [List.singleton_append, ← hcs] at hrest
  have hlast : (Place.key e key.toList).step '=' = .moved (.equals e key) := by
    rw [Place.step, if_pos rfl, String.ofList_toList]
  calc readFrom place (attributeText key (escaped text) ++ rest)
      = readFrom place (' ' :: c :: (cs ++ '=' :: '"' :: (escaped text ++ '"' :: rest))) := by
        simp [attributeText, hcs]
    _ = readFrom (.key e key.toList) ('=' :: '"' :: (escaped text ++ '"' :: rest)) := by
        rw [readFrom_of_moved hgap, readFrom_of_moved hfirst, hrest]
    _ = readFrom (.value e key []) (escaped text ++ '"' :: rest) := by
        rw [readFrom_of_moved hlast, readFrom_of_moved rfl]
    _ = readFrom (.valueEnd (e.add [(key, text)])) rest := readFrom_escaped e key text rest

/-- The attributes of a tag with their values escaped. -/
def attributesText (attributes : List (String × String)) : List Char :=
  attributes.flatMap fun (key, text) => attributeText key (escaped text)

/-- Attributes are read as they were written, up to what ends the tag. -/
theorem readFrom_attributes (hplace : place.IsEndOf e) {attributes : List (String × String)}
    (hkeys : ∀ key ∈ attributes.map Prod.fst, IsName key.toList) (hc : isNameChar c = false)
    (rest : List Char) :
    readFrom place (attributesText attributes ++ c :: rest) =
      readFrom (.valueEnd (e.add attributes)) (c :: rest) := by
  induction attributes generalizing place e with
  | nil =>
    rw [Element.add, List.append_nil]
    show readFrom place (c :: rest) = _
    rw [readFrom, readFrom, hplace c hc, isEndOf_valueEnd e c hc]
  | cons first others ih =>
    obtain ⟨key, text⟩ := first
    obtain ⟨hkey, hkeys⟩ := List.forall_mem_cons.mp hkeys
    have hadd : (e.add [(key, text)]).add others = e.add ((key, text) :: others) := by
      simp only [Element.add, List.append_assoc, List.singleton_append]
    calc readFrom place (attributesText ((key, text) :: others) ++ c :: rest)
        = readFrom place (attributeText key (escaped text) ++
            (attributesText others ++ c :: rest)) := by
          rw [attributesText, List.flatMap_cons, List.append_assoc]
          rfl
      _ = readFrom (.valueEnd (e.add [(key, text)])) (attributesText others ++ c :: rest) :=
          readFrom_attribute hplace hkey text _
      _ = readFrom (.valueEnd (e.add ((key, text) :: others))) (c :: rest) := by
          rw [ih (isEndOf_valueEnd _) hkeys, hadd]

/-! ## Whole tags -/

section Tags

variable {name : String} {attributes : List (String × String)}

/-- A tag up to what ends it. -/
def tagText (name : String) (attributes : List (String × String)) : List Char :=
  '<' :: name.toList ++ attributesText attributes

theorem readFrom_tagText (hname : IsName name.toList)
    (hkeys : ∀ key ∈ attributes.map Prod.fst, IsName key.toList) (hc : isNameChar c = false)
    (rest : List Char) :
    readFrom .between (tagText name attributes ++ c :: rest) =
      readFrom (.valueEnd ⟨name, attributes⟩) (c :: rest) := by
  have hend := isEndOf_tagName name.toList
  rw [String.ofList_toList] at hend
  rw [tagText, List.cons_append, List.cons_append, List.append_assoc, readFrom_tagName hname,
    readFrom_attributes hend hkeys hc]
  rfl

theorem readFrom_empty (hname : IsName name.toList)
    (hkeys : ∀ key ∈ attributes.map Prod.fst, IsName key.toList) (rest : List Char) :
    readFrom .between (tagText name attributes ++ '/' :: '>' :: rest) =
      (readFrom .between rest).map (.empty ⟨name, attributes⟩ :: ·) := by
  rw [readFrom_tagText hname hkeys (by decide), readFrom_of_moved rfl, readFrom_of_read rfl]

theorem readFrom_opening (hname : IsName name.toList)
    (hkeys : ∀ key ∈ attributes.map Prod.fst, IsName key.toList) (rest : List Char) :
    readFrom .between (tagText name attributes ++ '>' :: rest) =
      (readFrom .between rest).map (.opening ⟨name, attributes⟩ :: ·) := by
  rw [readFrom_tagText hname hkeys (by decide), readFrom_of_read rfl]

end Tags

end Markup

end PollAtlas.Boundary
