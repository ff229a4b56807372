import PollAtlas.Text.Composition
import PollAtlas.Text.Mark

/-!
# The composed form of a text

A letter with marks can be written in several ways: composed or not, and with marks that do
not touch in any order. In the composed form characters are taken apart, marks are put in the
order of their classes, and what composes is composed again.

Characters that stand for a single other one are not taken apart here.

* `normalForm`: the composed form of a text.
-/

namespace PollAtlas.Text

/-! ## Taking apart -/

/-- The characters that a character is composed of, in at most `steps` steps. -/
def takeApart : Nat → Char → List Char
  | 0, c => [c]
  | steps + 1, c =>
    match pieces? c with
    | none => [c]
    | some (first, second) => takeApart steps first ++ [second]

/-- The most steps that a character takes. -/
def compositionDepth : Nat := 4

/-! ## Ordering -/

/-- Puts a mark behind the marks of lower classes that follow it. -/
def insertMark (c : Char) : List Char → List Char
  | [] => [c]
  | d :: rest =>
    if 0 < combiningClass d ∧ combiningClass d < combiningClass c then d :: insertMark c rest
    else c :: d :: rest

/-- Orders each run of marks by their classes; marks of one class keep their order. -/
def orderMarks (cs : List Char) : List Char := cs.foldr insertMark []

/-! ## Composing -/

/-- A text while it is composed. -/
structure Composing where
  /-- What will not change any more. -/
  finished : List Char
  /-- The character that marks may still compose with. -/
  base : Option Char
  /-- The marks behind it that did not compose. -/
  marks : List Char

namespace Composing

/-- Nothing yet. -/
def empty : Composing := ⟨[], none, []⟩

/-- The text so far. -/
def text (st : Composing) : List Char := st.finished ++ st.base.toList ++ st.marks

/-- A mark of the same class or a higher one stands before a character of this class. -/
def isBlocked (st : Composing) (c : Char) : Bool :=
  match st.marks.getLast? with
  | none => false
  | some mark => combiningClass c ≤ combiningClass mark

/-- The text with one more character that does not compose. -/
def push (st : Composing) (c : Char) : Composing :=
  if combiningClass c = 0 then ⟨st.text, some c, []⟩
  else { st with marks := st.marks ++ [c] }

/-- The text with one more character. -/
def add (st : Composing) (c : Char) : Composing :=
  match st.base.bind (compose? · c) with
  | some composed => if st.isBlocked c then st.push c else { st with base := some composed }
  | none => st.push c

end Composing

/-- Composes a text whose marks are in order. -/
def composeMarks (cs : List Char) : List Char := (cs.foldl Composing.add .empty).text

/-- The composed form of a text. -/
def normalForm (cs : List Char) : List Char :=
  composeMarks (orderMarks (cs.flatMap (takeApart compositionDepth)))

end PollAtlas.Text
