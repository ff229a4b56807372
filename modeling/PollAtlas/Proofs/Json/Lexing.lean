import PollAtlas.Proofs.Json.Grammar
import PollAtlas.Proofs.Json.Numeral

/-!
# Written values as tokens

A value that is written without blanks is cut into the tokens of one document, its written form:
numbers as their parts, texts character by character with control characters as code units. What
follows a value in a longer text never belongs to its last token, so the texts of the parts of a
value can be put together.

* `Json.IsKept`: values whose numbers are read back, with distinct names at every depth.
* `Json.document`: the written form of a value.
* `tokens?_compactText`: a value is cut into the tokens of its written form.
-/

namespace PollAtlas.Json

/-! ## Values and their written forms -/

/-- Values whose numbers are read back, with distinct names at every depth. -/
inductive IsKept : Json → Prop
  | null : IsKept .null
  | bool (b : Bool) : IsKept (.bool b)
  | number {x : Number} (h : x.IsKept) : IsKept (.number x)
  | string (s : String) : IsKept (.string s)
  | array {items : List Json} (h : ∀ item ∈ items, IsKept item) : IsKept (.array items)
  | object {members : List (String × Json)} (hnodup : (members.map Prod.fst).Nodup)
      (h : ∀ member ∈ members, IsKept member.2) : IsKept (.object members)

/-- A control character without a letter of its own is written as a code unit. -/
def pieceOf (c : Char) : Piece :=
  if c < ' ' ∧ c ∉ ['\x08', '\x0c', '\n', '\r', '\t'] then .unit c.toNat else .char c

def piecesOf (s : String) : List Piece := s.toList.map pieceOf

mutual

/-- The written form of a value. -/
def document : Json → Document
  | null => .null
  | bool b => .bool b
  | number x => .number x.numeral
  | string s => .text (piecesOf s)
  | array items => .array (itemDocuments items)
  | object members => .object (memberDocuments members)

def itemDocuments : List Json → List Document
  | [] => []
  | item :: rest => document item :: itemDocuments rest

def memberDocuments : List (String × Json) → List (List Piece × Document)
  | [] => []
  | (name, value) :: rest => (piecesOf name, document value) :: memberDocuments rest

end

/-! ## One token after another -/

/-- The tokens of a text without blanks between them. -/
inductive Tokenized : List Char → List Token → Prop
  | nil : Tokenized [] []
  | cons {c : Char} {cs rest : List Char} {token : Token} {tokens : List Token}
      (hblank : isBlank c = false) (hscan : scanToken (c :: cs) = some (token, rest))
      (hshorter : rest.length ≤ cs.length) (later : Tokenized rest tokens) :
      Tokenized (c :: cs) (token :: tokens)

theorem Tokenized.tokensOnto_eq {cs : List Char} {tokens : List Token} (h : Tokenized cs tokens)
    {limit : Nat} (hlimit : cs.length ≤ limit) (read : List Token) :
    tokensOnto read limit cs = some (read.reverse ++ tokens) := by
  induction h generalizing limit read with
  | nil =>
    rw [List.append_nil]
    cases limit <;> rfl
  | cons hblank hscan hshorter later ih =>
    obtain ⟨limit, rfl⟩ : ∃ n, limit = n + 1 := Nat.exists_eq_succ_of_ne_zero (by
      rw [List.length_cons] at hlimit
      omega)
    rw [List.length_cons] at hlimit
    rw [tokensOnto, hblank, if_neg Bool.false_ne_true, hscan]
    show tokensOnto _ limit _ = _
    rw [ih (by omega), List.reverse_cons, List.append_assoc, List.singleton_append]

theorem Tokenized.tokens?_eq {cs : List Char} {tokens : List Token} (h : Tokenized cs tokens) :
    tokens? cs = some tokens := h.tokensOnto_eq (Nat.le_refl _) []

/-! ## Texts -/

theorem scanText_letter {letter c : Char} (h : escaped? letter = some c) (cs : List Char) :
    scanText ('\\' :: letter :: cs) =
      (scanText cs).map fun (pieces, rest) => (.char c :: pieces, rest) := by
  have hletter : letter ≠ 'u' := by
    rintro rfl
    cases h
  rw [scanText.eq_def]
  split
  · rename_i heq
    cases heq
  · rename_i heq
    cases heq
  · rename_i heq
    cases heq
    exact absurd rfl hletter
  · rename_i heq
    cases heq
    rw [h]
    cases scanText cs <;> rfl
  · rename_i hescape heq
    cases heq
    exact absurd rfl (hescape letter cs rfl)

theorem scanText_unit {a b c d : Char} {code : Nat} (h : codeUnit? a b c d = some code)
    (cs : List Char) :
    scanText ('\\' :: 'u' :: a :: b :: c :: d :: cs) =
      (scanText cs).map fun (pieces, rest) => (.unit code :: pieces, rest) := by
  rw [scanText, h]
  cases scanText cs <;> rfl

theorem scanText_char {c : Char} (hquote : c ≠ '"') (hbackslash : c ≠ '\\') (hprinted : ¬ c < ' ')
    (cs : List Char) :
    scanText (c :: cs) = (scanText cs).map fun (pieces, rest) => (.char c :: pieces, rest) := by
  rw [scanText.eq_def]
  split
  · rename_i heq
    cases heq
  · rename_i heq
    exact absurd (List.cons.inj heq).1 hquote
  · rename_i heq
    exact absurd (List.cons.inj heq).1 hbackslash
  · rename_i heq
    exact absurd (List.cons.inj heq).1 hbackslash
  · rename_i heq
    cases heq
    rw [if_neg (not_or.mpr ⟨hprinted, hbackslash⟩)]

/-- The four digits of a control character. -/
theorem codeUnit?_control : ∀ n < 32, ∃ a b c d,
    List.leftpad 4 '0' (Nat.toDigits 16 n) = [a, b, c, d] ∧ codeUnit? a b c d = some n := by
  have hdigits : ∀ n < 32, List.leftpad 4 '0' (Nat.toDigits 16 n) =
      ['0', '0', Nat.digitChar (n / 16), Nat.digitChar (n % 16)] := by decide
  have hcode : ∀ n < 32,
      codeUnit? '0' '0' (Nat.digitChar (n / 16)) (Nat.digitChar (n % 16)) = some n := by decide
  exact fun n hn => ⟨_, _, _, _, hdigits n hn, hcode n hn⟩

theorem scanText_escapedChar (c : Char) (cs : List Char) :
    scanText (escapedChar c ++ cs) =
      (scanText cs).map fun (pieces, rest) => (pieceOf c :: pieces, rest) := by
  unfold escapedChar
  split
  · exact scanText_letter rfl cs
  · exact scanText_letter rfl cs
  · exact scanText_letter rfl cs
  · exact scanText_letter rfl cs
  · exact scanText_letter rfl cs
  · exact scanText_letter rfl cs
  · exact scanText_letter rfl cs
  · rename_i hquote hbackslash hback hfeed hline hreturn htab
    by_cases hcontrol : c < ' '
    · obtain ⟨a, b, d, e, hdigits, hcode⟩ := codeUnit?_control c.toNat hcontrol
      have hpiece : pieceOf c = .unit c.toNat := by
        simpa [pieceOf, hcontrol] using ⟨hback, hfeed, hline, hreturn, htab⟩
      rw [if_pos hcontrol, hdigits, hpiece]
      exact scanText_unit hcode cs
    · have hpiece : pieceOf c = .char c := if_neg fun h => hcontrol h.1
      rw [if_neg hcontrol, hpiece]
      exact scanText_char hquote hbackslash hcontrol cs

theorem scanText_flatMap (cs rest : List Char) :
    scanText (cs.flatMap escapedChar ++ '"' :: rest) = some (cs.map pieceOf, rest) := by
  induction cs with
  | nil => rfl
  | cons c cs ih =>
    rw [List.flatMap_cons, List.append_assoc, scanText_escapedChar, ih]
    rfl

theorem scanToken_quotedText (s : String) (rest : List Char) :
    scanToken (quotedText s ++ rest) = some (.text (piecesOf s), rest) := by
  have htext : quotedText s ++ rest = '"' :: (s.toList.flatMap escapedChar ++ '"' :: rest) := by
    simp [quotedText]
  rw [htext]
  show (scanText _).map _ = _
  rw [scanText_flatMap]
  rfl

/-! ## Whole values -/

theorem ends_cons {c : Char} (h : c.isDigit = false ∧ c ≠ '.' ∧ c ≠ 'e' ∧ c ≠ 'E')
    (rest : List Char) : Ends (c :: rest) := by
  intro d hd
  cases hd
  exact h

/-- A token at the head of a text. -/
theorem Tokenized.append {text rest : List Char} {token : Token} {tokens : List Token}
    (hblank : ∃ c cs, text = c :: cs ∧ isBlank c = false)
    (hscan : scanToken (text ++ rest) = some (token, rest)) (h : Tokenized rest tokens) :
    Tokenized (text ++ rest) (token :: tokens) := by
  obtain ⟨c, cs, rfl, hc⟩ := hblank
  have hshorter : rest.length ≤ (cs ++ rest).length := by
    rw [List.length_append]
    omega
  exact .cons hc hscan hshorter h

/-- The text of a value is cut into the tokens of its written form, whatever follows. -/
def IsLexed (value : Json) : Prop :=
  ∀ {rest : List Char} {tokens : List Token}, Ends rest → Tokenized rest tokens →
    Tokenized (compactText value ++ rest) (value.document.tokens ++ tokens)

theorem tokenized_quotedText (s : String) {rest : List Char} {tokens : List Token}
    (h : Tokenized rest tokens) :
    Tokenized (quotedText s ++ rest) (.text (piecesOf s) :: tokens) :=
  .append ⟨_, _, rfl, rfl⟩ (scanToken_quotedText s rest) h

theorem tokenized_member (name : String) {value : Json} (hvalue : IsLexed value)
    {rest : List Char} {tokens : List Token} (hrest : Ends rest) (h : Tokenized rest tokens) :
    Tokenized (quotedText name ++ ':' :: (compactText value ++ rest))
      (.text (piecesOf name) :: .colon :: (value.document.tokens ++ tokens)) :=
  tokenized_quotedText name (.cons rfl rfl (Nat.le_refl _) (hvalue hrest h))

theorem tokenized_compactItems {items : List Json} (hitems : ∀ item ∈ items, IsLexed item)
    {rest : List Char} {tokens : List Token} (hrest : Ends rest) (h : Tokenized rest tokens) :
    Ends (compactItems items ++ rest) ∧ Tokenized (compactItems items ++ rest)
      (Document.laterItems (itemDocuments items) ++ tokens) := by
  induction items with
  | nil => exact ⟨hrest, h⟩
  | cons item items ih =>
    obtain ⟨hitem, hitems⟩ := List.forall_mem_cons.mp hitems
    obtain ⟨hends, htokens⟩ := ih hitems
    have hvalue := hitem hends htokens
    rw [compactItems, itemDocuments, Document.laterItems]
    simp only [List.cons_append, List.append_assoc]
    exact ⟨ends_cons (by decide) _, .cons rfl rfl (Nat.le_refl _) hvalue⟩

theorem tokenized_compactMembers {members : List (String × Json)}
    (hmembers : ∀ member ∈ members, IsLexed member.2) {rest : List Char} {tokens : List Token}
    (hrest : Ends rest) (h : Tokenized rest tokens) :
    Ends (compactMembers members ++ rest) ∧ Tokenized (compactMembers members ++ rest)
      (Document.laterMembers (memberDocuments members) ++ tokens) := by
  induction members with
  | nil => exact ⟨hrest, h⟩
  | cons member members ih =>
    obtain ⟨hmember, hmembers⟩ := List.forall_mem_cons.mp hmembers
    obtain ⟨hends, htokens⟩ := ih hmembers
    rw [compactMembers, memberDocuments, Document.laterMembers]
    simp only [List.cons_append, List.append_assoc]
    exact ⟨ends_cons (by decide) _,
      .cons rfl rfl (Nat.le_refl _) (tokenized_member member.1 hmember hends htokens)⟩

theorem scanToken_boolText (b : Bool) (rest : List Char) :
    scanToken (boolText b ++ rest) = some (.bool b, rest) := by
  cases b <;> rfl

theorem isLexed_number {x : Number} (h : x.IsProper) : IsLexed (.number x) :=
  fun hrest htokens => .append (Number.exists_head_text h) (Number.scanToken_text h hrest) htokens

theorem IsKept.isLexed {value : Json} (h : IsKept value) : IsLexed value := by
  induction h with
  | null =>
    intro rest tokens hrest h
    exact .append ⟨_, _, rfl, rfl⟩ rfl h
  | bool b =>
    intro rest tokens hrest h
    exact .append (by cases b <;> exact ⟨_, _, rfl, rfl⟩) (scanToken_boolText b rest) h
  | number hx => exact isLexed_number hx.isProper
  | string s =>
    intro rest tokens hrest h
    exact tokenized_quotedText s h
  | @array items hitems ih =>
    intro rest tokens hrest h
    have hclose : Tokenized (']' :: rest) (.closeArray :: tokens) :=
      .cons rfl rfl (Nat.le_refl _) h
    have hends : Ends (']' :: rest) := ends_cons (by decide) rest
    cases items with
    | nil => exact .cons rfl rfl (Nat.le_refl _) hclose
    | cons item items =>
      obtain ⟨hitem, ih⟩ := List.forall_mem_cons.mp ih
      obtain ⟨hends, htokens⟩ := tokenized_compactItems ih hends hclose
      have hvalue := hitem hends htokens
      rw [compactText, document, itemDocuments, Document.tokens]
      simp only [List.cons_append, List.append_assoc]
      exact .cons rfl rfl (Nat.le_refl _) hvalue
  | @object members hnodup hmembers ih =>
    intro rest tokens hrest h
    have hclose : Tokenized ('\x7d' :: rest) (.closeObject :: tokens) :=
      .cons rfl rfl (Nat.le_refl _) h
    have hends : Ends ('\x7d' :: rest) := ends_cons (by decide) rest
    cases members with
    | nil => exact .cons rfl rfl (Nat.le_refl _) hclose
    | cons member members =>
      obtain ⟨hmember, ih⟩ := List.forall_mem_cons.mp ih
      obtain ⟨hends, htokens⟩ := tokenized_compactMembers ih hends hclose
      rw [compactText, document, memberDocuments, Document.tokens]
      simp only [List.cons_append, List.append_assoc]
      exact .cons rfl rfl (Nat.le_refl _) (tokenized_member member.1 hmember hends htokens)

/-- A value that is written is cut into the tokens of its written form. -/
theorem tokens?_compactText {value : Json} (h : IsLexed value) :
    tokens? (compactText value) = some value.document.tokens := by
  have hlexed : Tokenized (compactText value ++ []) (value.document.tokens ++ []) := h nofun .nil
  rw [List.append_nil, List.append_nil] at hlexed
  exact hlexed.tokens?_eq

end PollAtlas.Json
