import PollAtlas.Json.Document

/-!
# The tokens of a document

A document is spelled by one list of tokens, and the machine that takes tokens one at a time
builds the document from them. What carries the induction is that a whole value only completes
the innermost open container: after the tokens of a value the machine is where `State.complete`
says, whatever containers are open around it and whatever tokens follow.

* `Document.tokens`: the tokens of a document.
* `Document.ofTokens?_tokens`: they are read back.
-/

namespace PollAtlas.Json.Document

mutual

/-- The tokens that spell a document. -/
def tokens : Document → List Token
  | null => [.null]
  | bool b => [.bool b]
  | number x => [.numeral x]
  | text pieces => [.text pieces]
  | array [] => [.openArray, .closeArray]
  | array (item :: rest) => .openArray :: tokens item ++ laterItems rest ++ [.closeArray]
  | object [] => [.openObject, .closeObject]
  | object ((name, value) :: rest) =>
    .openObject :: .text name :: .colon :: tokens value ++ laterMembers rest ++ [.closeObject]

/-- The items after the first, each behind a comma. -/
def laterItems : List Document → List Token
  | [] => []
  | item :: rest => .comma :: tokens item ++ laterItems rest

/-- The members after the first, each behind a comma. -/
def laterMembers : List (List Piece × Document) → List Token
  | [] => []
  | (name, value) :: rest => .comma :: .text name :: .colon :: tokens value ++ laterMembers rest

end

/-! ## The first token -/

theorem exists_head_tokens (document : Document) :
    ∃ token rest, document.tokens = token :: rest ∧ token ≠ .closeArray := by
  cases document with
  | null => exact ⟨_, _, rfl, nofun⟩
  | bool b => exact ⟨_, _, rfl, nofun⟩
  | number x => exact ⟨_, _, rfl, nofun⟩
  | text pieces => exact ⟨_, _, rfl, nofun⟩
  | array items =>
    cases items with
    | nil => exact ⟨_, _, rfl, nofun⟩
    | cons item rest => exact ⟨_, _, rfl, nofun⟩
  | object members =>
    cases members with
    | nil => exact ⟨_, _, rfl, nofun⟩
    | cons member rest => exact ⟨_, _, rfl, nofun⟩

theorem step_firstItem {token : Token} (h : token ≠ .closeArray) (frames : List Frame) :
    State.step (.firstItem frames) token = State.step (.value (.items [] :: frames)) token := by
  cases token with
  | closeArray => exact absurd rfl h
  | _ => rfl

/-- The first item of an array is read like any other value. -/
theorem foldlM_firstItem (item : Document) (later : List Token) (frames : List Frame) :
    (item.tokens ++ later).foldlM State.step (.firstItem frames) =
      (item.tokens ++ later).foldlM State.step (.value (.items [] :: frames)) := by
  obtain ⟨token, rest, htokens, hne⟩ := exists_head_tokens item
  rw [htokens, List.cons_append, List.foldlM_cons, List.foldlM_cons, step_firstItem hne]

/-! ## Whole values -/

mutual

/-- The tokens of a value complete it. -/
theorem foldlM_tokens (document : Document) (later : List Token) (frames : List Frame) :
    (document.tokens ++ later).foldlM State.step (.value frames) =
      later.foldlM State.step (.complete document frames) := by
  match document with
  | null => rfl
  | bool b => rfl
  | number x => rfl
  | text pieces => rfl
  | array [] => rfl
  | array (item :: rest) =>
    have hclose := foldlM_laterItems rest [item] later frames
    have hitem := foldlM_tokens item (laterItems rest ++ .closeArray :: later) (.items [] :: frames)
    have hfirst := foldlM_firstItem item (laterItems rest ++ .closeArray :: later) frames
    rw [tokens, List.append_assoc, List.append_assoc, List.singleton_append, List.cons_append]
    exact (hfirst.trans hitem).trans hclose
  | object [] => rfl
  | object ((name, value) :: rest) =>
    have hclose := foldlM_laterMembers rest [(name, value)] later frames
    have hvalue := foldlM_tokens value (laterMembers rest ++ .closeObject :: later)
      (.members [] name :: frames)
    rw [tokens, List.append_assoc, List.append_assoc, List.singleton_append]
    exact hvalue.trans hclose

theorem foldlM_laterItems (items read : List Document) (later : List Token)
    (frames : List Frame) :
    (laterItems items ++ .closeArray :: later).foldlM State.step (.afterItem read frames) =
      later.foldlM State.step (.complete (.array (read.reverse ++ items)) frames) := by
  match items with
  | [] =>
    rw [List.append_nil]
    rfl
  | item :: rest =>
    have hrest := foldlM_laterItems rest (item :: read) later frames
    have hitem := foldlM_tokens item (laterItems rest ++ .closeArray :: later)
      (.items read :: frames)
    rw [List.reverse_cons, List.append_assoc, List.singleton_append] at hrest
    rw [laterItems, List.append_assoc]
    exact hitem.trans hrest

theorem foldlM_laterMembers (members read : List (List Piece × Document)) (later : List Token)
    (frames : List Frame) :
    (laterMembers members ++ .closeObject :: later).foldlM State.step (.afterMember read frames) =
      later.foldlM State.step (.complete (.object (read.reverse ++ members)) frames) := by
  match members with
  | [] =>
    rw [List.append_nil]
    rfl
  | (name, value) :: rest =>
    have hrest := foldlM_laterMembers rest ((name, value) :: read) later frames
    have hvalue := foldlM_tokens value (laterMembers rest ++ .closeObject :: later)
      (.members read name :: frames)
    rw [List.reverse_cons, List.append_assoc, List.singleton_append] at hrest
    rw [laterMembers, List.append_assoc]
    exact hvalue.trans hrest

end

/-- A document is read back from its tokens. -/
theorem ofTokens?_tokens (document : Document) : ofTokens? document.tokens = some document := by
  have hread := foldlM_tokens document [] []
  rw [List.append_nil] at hread
  rw [ofTokens?, hread]
  rfl

end PollAtlas.Json.Document
