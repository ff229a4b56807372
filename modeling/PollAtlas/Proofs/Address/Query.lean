import PollAtlas.Address.Query
import PollAtlas.Proofs.Address.Percent
import PollAtlas.Proofs.Text.Marks

/-!
# Parameters behind a query

A text that a form sends holds none of the marks of an address, and what is read from it is the
text itself. A parameter that is put behind a query therefore leaves all that stands there as it
is written, and it is read back whatever characters it has.

* `formDecode?_formText`: a text as a form sends it, read back.
* `Url.writtenPairs`, `Url.parameters`: the pairs of a query, as they are written and as they
  are read.
* `Url.writtenPairs_appendPair`, `Url.parameters_appendPair`: one parameter more.
-/

namespace PollAtlas.Address

/-! ## A text as a form sends it -/

/-- With a space in place of its plus sign, what a form sends for a character is the
percent-encoding that keeps spaces. -/
theorem map_formChar (c : Char) :
    (formChar c).map (fun d => if d = '+' then ' ' else d) =
      percentEncode (fun c => isFormKept c || c == ' ') [c] := by
  by_cases hspace : c = ' '
  · simp [formChar, percentEncode, hspace]
  have hplus : '+' ∉ percentEncode isFormKept [c] :=
    notMem_percentEncode (by decide) (by decide) (by decide) [c]
  have hsame : (percentEncode isFormKept [c]).map (fun d => if d = '+' then ' ' else d) =
      percentEncode isFormKept [c] := by
    refine (List.map_congr_left fun d hd => ?_).trans (List.map_id _)
    exact if_neg fun (heq : d = '+') => hplus (heq ▸ hd)
  rw [formChar, if_neg hspace, hsame]
  simp [percentEncode, hspace]

/-- What a form sends is read back. -/
theorem formDecode?_formText (s : String) : formDecode? (formText s) = some s := by
  have hspaced : (formText s).map (fun d => if d = '+' then ' ' else d) =
      percentEncode (fun c => isFormKept c || c == ' ') s.toList := by
    rw [formText, List.map_flatMap, percentEncode]
    refine List.flatMap_congr fun c _ => ?_
    rw [map_formChar, percentEncode, List.flatMap_singleton]
  have hpercent : (isFormKept '%' || '%' == ' ') = false := rfl
  rw [formDecode?, hspaced, percentDecode?_percentEncode hpercent, String.ofList_toList]

/-- The marks that the parts of an address end at, from the query on. -/
def marks : List Char := ['&', '=', '#']

theorem notMem_formText {mark : Char} (hmark : mark ∈ marks) (s : String) : mark ∉ formText s := by
  obtain ⟨hkept, hpercent, halpha, hplus⟩ : isFormKept mark = false ∧ mark ≠ '%' ∧
      mark.isAlphanum = false ∧ mark ≠ '+' := by
    simp only [marks, List.mem_cons, List.not_mem_nil, or_false] at hmark
    rcases hmark with rfl | rfl | rfl
    all_goals exact ⟨rfl, by decide, rfl, by decide⟩
  intro hmem
  obtain ⟨c, _, hc⟩ := List.mem_flatMap.mp hmem
  rw [formChar] at hc
  split at hc
  · exact hplus (List.mem_singleton.mp hc)
  · exact notMem_percentEncode hkept hpercent halpha [c] hc

/-! ## A parameter -/

theorem decodePair_formPair (name value : String) :
    decodePair (formPair name value) = (some name, some value) := by
  have hname : ∀ c ∈ formText name, (c == '=') = false := by
    intro c hc
    refine beq_false_of_ne fun heq => ?_
    exact notMem_formText (by decide) name (heq ▸ hc)
  rw [decodePair, formPair, Text.cutAt_append_mark rfl hname]
  simp only [Option.getD_some, formDecode?_formText]

theorem notMem_formPair {mark : Char} (hmark : mark ∈ marks) (heq : mark ≠ '=')
    (name value : String) : mark ∉ formPair name value := by
  rw [formPair, List.mem_append, List.mem_cons, not_or, not_or]
  exact ⟨notMem_formText hmark name, heq, notMem_formText hmark value⟩

/-- A parameter is one pair of a query. -/
theorem splitWhere_formPair (name value : String) :
    Text.splitWhere (· == '&') (formPair name value) = [formPair name value] := by
  refine Text.splitWhere_of_all_not fun c hc => beq_false_of_ne fun heq => ?_
  exact notMem_formPair (by decide) (by decide) name value (heq ▸ hc)

theorem formPair_ne_nil (name value : String) : formPair name value ≠ [] :=
  List.append_ne_nil_of_right_ne_nil _ (List.cons_ne_nil _ _)

/-! ## The parameters of an address -/

namespace Url

/-- The pairs of an address's query as they are written. -/
def writtenPairs (url : Url) : List (List Char) :=
  (Text.splitWhere (· == '&') (url.query.getD [])).filter fun pair => !pair.isEmpty

/-- The parameters of an address. -/
def parameters (url : Url) : List (Option String × Option String) :=
  formPairs (url.query.getD [])

theorem parameters_eq (url : Url) : url.parameters = url.writtenPairs.map decodePair := rfl

theorem writtenPairs_appendPair (url : Url) (name value : String) :
    (url.appendPair name value).writtenPairs = url.writtenPairs ++ [formPair name value] := by
  have hpair : (!(formPair name value).isEmpty) = true := by
    simp [formPair_ne_nil]
  match hquery : url.query with
  | none => simp [writtenPairs, appendPair, hquery, splitWhere_formPair, Text.splitWhere, hpair]
  | some [] => simp [writtenPairs, appendPair, hquery, splitWhere_formPair, Text.splitWhere, hpair]
  | some (c :: rest) =>
    have hsplit : Text.splitWhere (· == '&') ((c :: rest) ++ '&' :: formPair name value) =
        Text.splitWhere (· == '&') (c :: rest) ++ [formPair name value] := by
      rw [Text.splitWhere_append_mark (p := (· == '&')) (beq_self_eq_true '&'),
        splitWhere_formPair]
    simp only [writtenPairs, appendPair, hquery, Option.getD_some, List.append_assoc,
      List.singleton_append, hsplit, List.filter_append, List.filter_cons, hpair, if_true,
      List.filter_nil]

theorem parameters_appendPair (url : Url) (name value : String) :
    (url.appendPair name value).parameters = url.parameters ++ [(some name, some value)] := by
  rw [parameters_eq, writtenPairs_appendPair, List.map_append, List.map_singleton,
    decodePair_formPair, parameters_eq]

end Url

end PollAtlas.Address
