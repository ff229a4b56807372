import PollAtlas.Address.Query
import PollAtlas.Proofs.Address.Percent
import PollAtlas.Proofs.Outcome

/-!
# Texts as path segments

A text that is put at the end of a path becomes one segment, which stands for the text without its
tabulators and ends of lines. A text of one or two dots is passed over. Where only the dots are
left of a text, the path is changed as these dots say.

Dots are recognised in a segment however they are written. A segment that is recognised so is
decoded to the dots themselves, so an encoded text is, just when it is the dots: its percent sign
is encoded.

* `exists_segments_of_parse`: the path of a well-known scheme has segments.
* `isDoubleDot_encode_iff`, `isSingleDot_encode_iff`: the texts that are recognised as dots.
* `Url.appendSegment_eq`: a text at the end of a path.
* `stem_eq`: what is kept of a path that segments are put behind.
-/

namespace PollAtlas.Address

/-! ## Paths that have segments -/

theorem exists_segments_of_hierarchyOf {scheme : String} {isLast : Bool} {cs : List Char}
    {parts : Option Authority × Path} (hspecial : isSpecial scheme = true)
    (hfile : isFile scheme = false) (h : hierarchyOf scheme isLast cs = .ok parts) :
    ∃ segments, parts.2 = .segments segments := by
  unfold hierarchyOf at h
  rw [hfile, hspecial, if_neg Bool.false_ne_true, if_pos rfl] at h
  obtain ⟨_, _, hparts⟩ := bind_eq_ok_iff.mp h
  cases hparts
  exact ⟨_, rfl⟩

theorem exists_segments_of_parse {text : String} {url : Url} (h : Url.parse text = .ok url)
    (hspecial : isSpecial url.scheme = true) (hfile : isFile url.scheme = false) :
    ∃ segments, url.path = .segments segments := by
  unfold Url.parse at h
  split at h
  · cases h
  · obtain ⟨parts, hparts, hurl⟩ := bind_eq_ok_iff.mp h
    cases hurl
    exact exists_segments_of_hierarchyOf hspecial hfile hparts

/-! ## Dots -/

theorem eq_or_of_toLower {c d : Char} (h : c.toLower = d) :
    c = d ∨ 65 ≤ c.toNat ∧ c.toNat ≤ 90 ∧ d.toNat = c.toNat + 32 := by
  unfold Char.toLower at h
  split at h
  · rename_i hcapital
    obtain ⟨hlow, hhigh⟩ := hcapital
    have hlow' : 65 ≤ c.toNat := hlow
    have hhigh' : c.toNat ≤ 90 := hhigh
    refine Or.inr ⟨hlow', hhigh', ?_⟩
    rw [← h]
    show (c.val + 32).toNat = c.val.toNat + 32
    have hval : c.val.toNat ≤ 90 := hhigh'
    rw [UInt32.toNat_add]
    have h32 : (32 : UInt32).toNat = 32 := rfl
    omega
  · exact Or.inl h

/-- Only a letter has another character in lower case. -/
theorem eq_of_toLower {c d : Char} (h : c.toLower = d) (hd : d.toNat < 97) : c = d := by
  rcases eq_or_of_toLower h with heq | ⟨hlow, _, hsum⟩
  · exact heq
  · omega

theorem eq_of_toLower_e {c : Char} (h : c.toLower = 'e') : c = 'e' ∨ c = 'E' := by
  rcases eq_or_of_toLower h with heq | ⟨_, _, hsum⟩
  · exact Or.inl heq
  · have hnat : c.toNat = 'E'.toNat := by
      have he : 'e'.toNat = 101 := rfl
      have hE : 'E'.toNat = 69 := rfl
      omega
    exact Or.inr (Char.toNat_inj.mp hnat)

/-- The ways in which a dot may be written. -/
def dotSpellings : List (List Char) := [['.'], ['%', '2', 'e'], ['%', '2', 'E']]

theorem mem_dotSpellings {cs : List Char}
    (h : cs.map Char.toLower ∈ [['.'], ['%', '2', 'e']]) : cs ∈ dotSpellings := by
  simp only [List.mem_cons, List.not_mem_nil, or_false, List.map_eq_cons_iff,
    List.map_eq_nil_iff] at h
  rcases h with ⟨a, _, rfl, ha, rfl⟩ | ⟨a, _, rfl, ha, b, _, rfl, hb, c, _, rfl, hc, rfl⟩
  · obtain rfl := eq_of_toLower ha (by decide)
    simp [dotSpellings]
  · obtain rfl := eq_of_toLower ha (by decide)
    obtain rfl := eq_of_toLower hb (by decide)
    rcases eq_of_toLower_e hc with rfl | rfl
    · simp [dotSpellings]
    · simp [dotSpellings]

theorem percentDecode_dot {dot : List Char} (h : dot ∈ dotSpellings) (rest : List Char) :
    percentDecode (dot ++ rest) = 0x2e :: percentDecode rest := by
  simp only [dotSpellings, List.mem_cons, List.not_mem_nil, or_false] at h
  rcases h with rfl | rfl | rfl
  · exact percentDecode_cons_of_ne (by decide) rest
  · rfl
  · rfl

theorem mem_dotSpellings_of_isSingleDot {segment : List Char} (h : isSingleDot segment = true) :
    segment ∈ dotSpellings := by
  apply mem_dotSpellings
  simpa [isSingleDot, ← String.toList_inj] using h

theorem exists_dots_of_isDoubleDot {segment : List Char} (h : isDoubleDot segment = true) :
    ∃ first ∈ dotSpellings, ∃ second ∈ dotSpellings, segment = first ++ second := by
  have hcases : segment.map Char.toLower = ['.', '.'] ∨
      segment.map Char.toLower = ['%', '2', 'e', '.'] ∨
      segment.map Char.toLower = ['.', '%', '2', 'e'] ∨
      segment.map Char.toLower = ['%', '2', 'e', '%', '2', 'e'] := by
    simpa [isDoubleDot, ← String.toList_inj] using h
  have hsplit : ∃ first ∈ [['.'], ['%', '2', 'e']], ∃ second ∈ [['.'], ['%', '2', 'e']],
      segment.map Char.toLower = first ++ second := by
    rcases hcases with h | h | h | h
    · exact ⟨['.'], by simp, ['.'], by simp, h⟩
    · exact ⟨['%', '2', 'e'], by simp, ['.'], by simp, h⟩
    · exact ⟨['.'], by simp, ['%', '2', 'e'], by simp, h⟩
    · exact ⟨['%', '2', 'e'], by simp, ['%', '2', 'e'], by simp, h⟩
  obtain ⟨first, hfirst, second, hsecond, hmap⟩ := hsplit
  obtain ⟨cs, ds, rfl, rfl, rfl⟩ := List.map_eq_append_iff.mp hmap
  exact ⟨cs, mem_dotSpellings hfirst, ds, mem_dotSpellings hsecond, rfl⟩

/-- Texts are equal if the encoding of the one stands for the bytes of the other. -/
theorem eq_of_percentDecode_eq {keeps : Char → Bool} {cs ds : List Char} (h : keeps '%' = false)
    (hbytes : percentDecode (percentEncode keeps cs) = utf8Bytes ds) : cs = ds := by
  have hcs := percentDecode?_percentEncode h cs
  rw [percentDecode?, hbytes, fromUTF8?_utf8Bytes, Option.some.injEq] at hcs
  exact (String.ofList_injective hcs).symm

theorem segment_keeps_percent (special : Bool) : (Part.segment special).keeps '%' = false := by
  cases special <;> rfl

theorem isSingleDot_encode_iff {special : Bool} {cs : List Char} :
    isSingleDot ((Part.segment special).encode cs) = true ↔ cs = ['.'] := by
  constructor
  · intro h
    apply eq_of_percentDecode_eq (segment_keeps_percent special)
    have hdot := percentDecode_dot (mem_dotSpellings_of_isSingleDot h) []
    rwa [List.append_nil] at hdot
  · rintro rfl
    cases special <;> rfl

theorem isDoubleDot_encode_iff {special : Bool} {cs : List Char} :
    isDoubleDot ((Part.segment special).encode cs) = true ↔ cs = ['.', '.'] := by
  constructor
  · intro h
    obtain ⟨first, hfirst, second, hsecond, hsplit⟩ := exists_dots_of_isDoubleDot h
    apply eq_of_percentDecode_eq (segment_keeps_percent special)
    have hdots := percentDecode_dot hfirst (second ++ [])
    rw [percentDecode_dot hsecond, List.append_nil, ← hsplit] at hdots
    exact hdots
  · rintro rfl
    cases special <;> rfl

/-! ## A text more -/

/-- The characters of a text that count in an address. -/
def counted (text : String) : List Char := text.toList.filter fun c => !isSkipped c

/-- What becomes of a path behind which a text is put that is not just dots. -/
def withSegment (special : Bool) (path : List (List Char)) (cs : List Char) : List (List Char) :=
  if cs = ['.', '.'] then stepUp path ++ [[]]
  else if cs = ['.'] then path ++ [[]]
  else path ++ [(Part.segment special).encode cs]

namespace Url

theorem appendSegment_of_dots {special : Bool} {path : List (List Char)} {text : String}
    (h : text = "." ∨ text = "..") : appendSegment special path text = path :=
  if_pos h

theorem appendSegment_eq {special : Bool} {path : List (List Char)} {text : String}
    (h : ¬ (text = "." ∨ text = "..")) :
    appendSegment special path text =
      withSegment special (if path = [[]] then [] else path) (counted text) := by
  rw [appendSegment, if_neg h]
  dsimp only
  rw [addSegment, withSegment]
  simp only [isDoubleDot_encode_iff, isSingleDot_encode_iff]
  rfl

end Url

/-! ## The path that segments are put behind -/

/-- What is kept of a path: all but one empty segment at its end. If nothing but one more empty
segment is left, that one is written over. -/
def stem (path : List (List Char)) : List (List Char) :=
  if path = [[], []] then []
  else if path.getLast? = some [] then path.dropLast
  else path

theorem stem_eq (path : List (List Char)) :
    stem path = if Url.trimmedPath path = [[]] then [] else Url.trimmedPath path := by
  unfold stem Url.trimmedPath
  match path with
  | [] => rfl
  | [segment] =>
    by_cases hempty : segment = []
    · subst hempty
      rfl
    · simp [hempty]
  | [first, second] =>
    by_cases hempty : second = []
    · subst hempty
      by_cases hfirst : first = []
      · simp [hfirst]
      · simp [hfirst]
    · simp [hempty]
  | first :: second :: third :: rest =>
    by_cases hlast : (third :: rest).getLast? = some []
    · simp [hlast]
    · simp [hlast]

end PollAtlas.Address
