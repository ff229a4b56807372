import PollAtlas.Text.Mark
import PollAtlas.Text.Unassigned

/-!
# Characters without a glyph of their own

Characters that a quoted text shows by their code point: controls, formats, separators other
than the space, private and unassigned codes, letters that stand for nothing, and marks that
attach to the character before them.
-/

namespace PollAtlas.Text

/-- Controls, formats, separators, halves of surrogate pairs and private codes. -/
def nonGraphic : CharClass := .ofText "
  7f-a0 ad 600-605 61c 6dd 70f 890-891 8e2 1680 180e 2000-200f 2028-202f 205f-2064 2066-206f
  3000 d800-f8ff feff fff9-fffb 110bd 110cd 13430-1343f 1bca0-1bca3 1d173-1d17a e0001
  e0020-e007f f0000-ffffd 100000-10fffd"

/-- Letters of Hangul that hold an empty place. -/
def fillers : CharClass := .ofText "115f-1160 3164 ffa0"

/-- The character is not shown as itself in a quoted text. In ASCII only controls are
not. -/
def isUnprintable (c : Char) : Bool :=
  if c ≤ '~' then c < ' '
  else
    nonGraphic.contains c || unassigned.contains c || fillers.contains c || extendsBefore c

end PollAtlas.Text
