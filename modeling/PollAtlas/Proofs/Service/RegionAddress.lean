import Mathlib.Data.List.Basic
import PollAtlas.Proofs.Address.Segments
import PollAtlas.Proofs.Text.Marks
import PollAtlas.Service.Endpoint

/-!
# The addresses of regions

The elections of a region are found under the base of the service, in a segment that stands for
the code of the region. What that segment shows of a code is all of it, unless the code is one or
two dots or holds a tabulator or the end of a line. Two addresses that ask for the same are equal
just when they show the same of their codes.

* `shown?`, `IsNameable`: what an address shows of a code, and the codes of which it shows all.
* `regionElections_eq`: the address of a region.
* `shown?_eq_of_text_eq`: what two equal addresses show.
* `namesRegion_iff`: the addresses in which a segment stands for the code.
* `regionElections_tellsRegions`: which codes are named and told apart, for every base.
-/

namespace PollAtlas.Service

open PollAtlas.Address

/-! ## What an address shows -/

/-- What the address of a region shows of its code: nothing of one or two dots, and of any other
code the characters that count. A dot that is left alone is not shown. -/
def shown? (code : String) : Option (List Char) :=
  if code = "." ∨ code = ".." then none
  else some (if counted code = ['.'] then [] else counted code)

/-- The segments before the elections. Two dots that are left alone take the place of what is
before them. -/
def regionSegments : Option (List Char) → List (List Char)
  | none => ["regions".toList]
  | some shown =>
    if shown = ['.', '.'] then [[]]
    else ["regions".toList, (Part.segment true).encode shown]

/-- The path of the elections of a region under the path of a base. -/
def regionPath (segments : List (List Char)) (code : String) : List (List Char) :=
  stem segments ++ ["api".toList, "v1".toList] ++
    (regionSegments (shown? code) ++ ["elections".toList])

theorem appendSegment_word (path : List (List Char)) :
    ∀ word ∈ ["api", "v1", "regions", "elections"],
      Url.appendSegment true path word = (if path = [[]] then [] else path) ++ [word.toList] := by
  have hword : ∀ word ∈ ["api", "v1", "regions", "elections"],
      ¬ (word = "." ∨ word = "..") ∧ counted word = word.toList ∧
        word.toList ≠ ['.', '.'] ∧ word.toList ≠ ['.'] ∧
          (Part.segment true).encode word.toList = word.toList := by decide
  intro word hmem
  obtain ⟨hdots, hcounted, hdouble, hsingle, hencode⟩ := hword word hmem
  rw [Url.appendSegment_eq hdots, hcounted, withSegment, if_neg hdouble, if_neg hsingle, hencode]

theorem ite_path_eq {path : List (List Char)} {segment : List Char} (h : segment ≠ []) :
    (if path ++ [segment] = [[]] then [] else path ++ [segment]) = path ++ [segment] := by
  rw [if_neg]
  intro hpath
  rw [List.append_eq_singleton_iff] at hpath
  rcases hpath with ⟨_, hsegment⟩ | ⟨_, hsegment⟩
  · exact h (List.singleton_inj.mp hsegment)
  · cases hsegment

theorem stepUp_regions (path : List (List Char)) :
    stepUp (path ++ ["regions".toList]) = path := by
  have hdrive : holdsDrive "regions".toList = false := by decide
  rw [stepUp, List.getLast?_concat, Option.map_some, Option.getD_some, hdrive,
    if_neg Bool.false_ne_true, List.dropLast_concat]

theorem appendSegment_code (path : List (List Char)) (code : String) :
    Url.appendSegment true (path ++ ["regions".toList]) code =
      path ++ regionSegments (shown? code) := by
  by_cases hdots : code = "." ∨ code = ".."
  · rw [Url.appendSegment_of_dots hdots, shown?, if_pos hdots, regionSegments]
  · rw [Url.appendSegment_eq hdots, ite_path_eq (by decide), shown?, if_neg hdots, withSegment,
      regionSegments]
    by_cases hdouble : counted code = ['.', '.']
    · have hsingle : counted code ≠ ['.'] := by simp [hdouble]
      rw [if_pos hdouble, stepUp_regions, if_neg hsingle, if_pos hdouble]
    · by_cases hsingle : counted code = ['.']
      · simp [hsingle, Part.encode, percentEncode]
      · simp [hdouble, hsingle]

theorem foldl_appendSegment (segments : List (List Char)) (code : String) :
    ["api", "v1", "regions", code, "elections"].foldl (Url.appendSegment true)
        (Url.trimmedPath segments) = regionPath segments code := by
  have hapi : Url.appendSegment true (Url.trimmedPath segments) "api" =
      stem segments ++ ["api".toList] := by
    rw [appendSegment_word _ _ (by simp), stem_eq]
  have hregions : ["api", "v1", "regions"].foldl (Url.appendSegment true)
      (Url.trimmedPath segments) =
      stem segments ++ ["api".toList, "v1".toList] ++ ["regions".toList] := by
    simp only [List.foldl_cons, List.foldl_nil, hapi]
    rw [appendSegment_word _ "v1" (by simp), ite_path_eq (by decide),
      appendSegment_word _ "regions" (by simp), ite_path_eq (by decide)]
    simp
  have hlast : stem segments ++ ["api".toList, "v1".toList] ++ regionSegments (shown? code) ≠
      [[]] := by
    intro h
    have hlength := congrArg List.length h
    simp at hlength
    omega
  calc ["api", "v1", "regions", code, "elections"].foldl (Url.appendSegment true)
        (Url.trimmedPath segments)
      = Url.appendSegment true (Url.appendSegment true
          (["api", "v1", "regions"].foldl (Url.appendSegment true) (Url.trimmedPath segments))
          code) "elections" := rfl
    _ = Url.appendSegment true (stem segments ++ ["api".toList, "v1".toList] ++
          regionSegments (shown? code)) "elections" := by rw [hregions, appendSegment_code]
    _ = regionPath segments code := by
      rw [appendSegment_word _ "elections" (by simp), if_neg hlast, regionPath, List.append_assoc]

/-- One more parameter changes the query of an address, whatever its path is. -/
theorem exists_appendPair (url : Url) (name value : String) :
    ∃ query, ∀ path, ({ url with path := path } : Url).appendPair name value =
      { url with path := path, query := some query } := by
  refine ⟨((url.appendPair name value).query).getD [], fun path => ?_⟩
  rw [Url.appendPair, Url.appendPair, Option.getD_some]

/-- The address of a region is that of the base, but for the path and the query. The query does
not depend on the code. -/
theorem regionElections_eq {base : String} {url : Url} {segments : List (List Char)}
    (hparse : Url.parse base = .ok url) (hspecial : isSpecial url.scheme = true)
    (hpath : url.path = .segments segments) (topology version : Option String) :
    ∃ query, ∀ code, regionElections base code topology version =
      .ok { url with path := .segments (regionPath segments code), query := some query } := by
  have happend : ∀ code, url.appendSegments? ["api", "v1", "regions", code, "elections"] =
      some { url with path := .segments (regionPath segments code) } := by
    intro code
    rw [← foldl_appendSegment, Url.appendSegments?, hpath, hspecial]
  have hendpoint : ∀ code, endpoint base ["regions", code, "elections"] =
      .ok { url with path := .segments (regionPath segments code) } := by
    intro code
    have haddress : addressOf base = .ok url := by rw [addressOf, hparse]
    simp only [endpoint, haddress, bind, Except.bind, List.cons_append, List.nil_append, happend]
    rfl
  obtain ⟨query, hquery⟩ :=
    exists_appendPair url "topology" (topology.getD Election.officialTopology)
  cases hversion : version.filter (· ≠ "") with
  | none =>
    refine ⟨query, fun code => ?_⟩
    rw [regionElections, hendpoint, hversion, ← hquery]
    rfl
  | some version =>
    obtain ⟨query', hquery'⟩ :=
      exists_appendPair { url with query := some query } "version_id" version
    refine ⟨query', fun code => ?_⟩
    rw [regionElections, hendpoint, hversion, ← hquery', ← hquery]
    rfl

/-! ## Which codes are told apart -/

theorem notMem_regionSegments {mark : Char} (hmark : mark = '/' ∨ mark = '?')
    (shown : Option (List Char)) :
    ∀ segment ∈ regionSegments shown ++ ["elections".toList], mark ∉ segment := by
  have hmarks : mark ∉ "regions".toList ∧ mark ∉ "elections".toList ∧
      (Part.segment true).keeps mark = false ∧ mark ≠ '%' ∧ mark.isAlphanum = false := by
    rcases hmark with rfl | rfl
    · decide
    · decide
  obtain ⟨hregions, helections, hkeeps, hpercent, halpha⟩ := hmarks
  rw [List.forall_mem_append, List.forall_mem_singleton]
  refine ⟨?_, helections⟩
  cases shown with
  | none => exact List.forall_mem_singleton.mpr hregions
  | some shown =>
    by_cases hup : shown = ['.', '.']
    · rw [regionSegments, if_pos hup, List.forall_mem_singleton]
      exact List.not_mem_nil
    · rw [regionSegments, if_neg hup, List.forall_mem_cons, List.forall_mem_singleton]
      exact ⟨hregions, notMem_percentEncode hkeeps hpercent halpha shown⟩

/-- What is read from the segments of a code. -/
def readShown : List (List Char) → Option (List Char)
  | [segment] => if segment = [] then some ['.', '.'] else none
  | [_, segment] => (percentDecode? segment).map String.toList
  | _ => none

theorem readShown_regionSegments (shown : Option (List Char)) :
    readShown (regionSegments shown) = shown := by
  cases shown with
  | none => rfl
  | some shown =>
    by_cases hup : shown = ['.', '.']
    · rw [regionSegments, if_pos hup, hup, readShown, if_pos rfl]
    · rw [regionSegments, if_neg hup, readShown, Part.encode,
        percentDecode?_percentEncode (segment_keeps_percent true), Option.map_some,
        String.toList_ofList]

theorem regionSegments_injective : Function.Injective regionSegments :=
  Function.LeftInverse.injective readShown_regionSegments

/-- Equal addresses show the same of their codes, whatever they ask for beside the region. -/
theorem shown?_eq_of_text_eq {url : Url} {segments : List (List Char)} {code₁ code₂ : String}
    {query₁ query₂ : List Char}
    (h : ({ url with
          path := .segments (regionPath segments code₁), query := some query₁ } : Url).text =
        ({ url with
          path := .segments (regionPath segments code₂), query := some query₂ } : Url).text) :
    shown? code₁ = shown? code₂ := by
  have hsplit : ∀ code, Url.segmentsText (regionPath segments code) =
      Url.segmentsText (stem segments ++ ["api".toList, "v1".toList]) ++
        Url.segmentsText (regionSegments (shown? code) ++ ["elections".toList]) := by
    intro code
    exact List.flatMap_append
  have hquestion : ∀ code, '?' ∉
      Url.segmentsText (regionSegments (shown? code) ++ ["elections".toList]) := by
    intro code hmem
    obtain ⟨segment, hsegment, hmark⟩ := List.mem_flatMap.mp hmem
    rw [List.mem_cons] at hmark
    rcases hmark with hmark | hmark
    · cases hmark
    · exact notMem_regionSegments (Or.inr rfl) _ segment hsegment hmark
  have hslash : ∀ code, ∀ segment ∈ regionSegments (shown? code) ++ ["elections".toList],
      '/' ∉ segment := fun code => notMem_regionSegments (Or.inl rfl) _
  -- the path ends at the first question mark, and no slash stands in its last segments
  have htext := String.ofList_injective h
  simp only [Url.pathText, Url.optionalText, hsplit, List.append_assoc, List.cons_append,
    List.append_cancel_left_eq, List.cons.injEq, true_and] at htext
  have hwritten := Text.eq_of_append_mark_eq (hquestion code₁) (hquestion code₂) htext
  have hsegments := Text.flatMap_mark_inj (hslash code₁) (hslash code₂) hwritten.1
  exact regionSegments_injective (List.append_cancel_right hsegments)

/-! ## Which codes are named -/

/-- A code that an address can name: not just dots, and all of its characters count. -/
def IsNameable (code : String) : Prop :=
  code ≠ "." ∧ code ≠ ".." ∧ ∀ c ∈ code.toList, isSkipped c = false

theorem shown?_eq_some_iff {code : String} : shown? code = some code.toList ↔ IsNameable code := by
  constructor
  · intro h
    unfold shown? at h
    split at h
    · cases h
    · rename_i hdots
      rw [not_or] at hdots
      refine ⟨hdots.1, hdots.2, ?_⟩
      have hcounted : counted code = code.toList := by
        by_cases hsingle : counted code = ['.']
        · rw [if_pos hsingle, Option.some.injEq] at h
          rw [counted, ← h] at hsingle
          cases hsingle
        · rwa [if_neg hsingle, Option.some.injEq] at h
      intro c hc
      simpa using List.filter_eq_self.mp hcounted c hc
  · rintro ⟨hsingle, hdouble, hskipped⟩
    have hcounted : counted code = code.toList :=
      List.filter_eq_self.mpr fun c hc => by simp [hskipped c hc]
    have hdot : code.toList ≠ ['.'] := fun h => hsingle (String.toList_inj.mp h)
    rw [shown?, if_neg (not_or.mpr ⟨hsingle, hdouble⟩), hcounted, if_neg hdot]

/-- A path without an empty segment at its end. -/
def withoutEmptyEnd (path : List (List Char)) : List (List Char) :=
  if path.getLast? = some [] then path.dropLast else path

/-- An address asks for the elections of a region: behind the path of the base stand the words of
the service, and between them one segment that is decoded to the code. -/
def NamesRegion (segments : List (List Char)) (code : String) (url : Url) : Prop :=
  ∃ segment, percentDecode? segment = some code ∧
    url.path = .segments (withoutEmptyEnd segments ++
      ["api".toList, "v1".toList, "regions".toList, segment, "elections".toList])

theorem regionSegments_eq_iff {code : String} :
    (∃ segment, percentDecode? segment = some code ∧
      regionSegments (shown? code) = ["regions".toList, segment]) ↔ IsNameable code := by
  constructor
  · rintro ⟨segment, hdecode, hsegments⟩
    have hread := readShown_regionSegments (shown? code)
    rw [hsegments, readShown, hdecode, Option.map_some] at hread
    exact shown?_eq_some_iff.mp hread.symm
  · intro h
    have hdouble : code.toList ≠ ['.', '.'] := fun hdots => h.2.1 (String.toList_inj.mp hdots)
    refine ⟨(Part.segment true).encode code.toList, ?_, ?_⟩
    · rw [Part.encode, percentDecode?_percentEncode (segment_keeps_percent true),
        String.ofList_toList]
    · rw [shown?_eq_some_iff.mpr h, regionSegments, if_neg hdouble]

/-- The codes that are named, and the bases under which they are: one whose path is two slashes
loses both of them. -/
theorem namesRegion_iff {url : Url} {segments : List (List Char)} {code : String}
    (hpath : url.path = .segments (regionPath segments code)) :
    NamesRegion segments code url ↔ IsNameable code ∧ segments ≠ [[], []] := by
  have hpath_iff : ∀ segment, url.path = .segments (withoutEmptyEnd segments ++
        ["api".toList, "v1".toList, "regions".toList, segment, "elections".toList]) ↔
      segments ≠ [[], []] ∧ regionSegments (shown? code) = ["regions".toList, segment] := by
    intro segment
    rw [hpath, Path.segments.injEq, regionPath, stem]
    by_cases hslashes : segments = [[], []]
    · subst hslashes
      constructor
      · intro h
        have hhead := Option.some.inj (congrArg List.head? h)
        exact absurd hhead (by decide)
      · rintro ⟨hslashes, _⟩
        exact absurd rfl hslashes
    · have hend : ["api".toList, "v1".toList, "regions".toList, segment, "elections".toList] =
          ["api".toList, "v1".toList] ++
            (["regions".toList, segment] ++ ["elections".toList]) := rfl
      rw [if_neg hslashes, ← withoutEmptyEnd, hend, List.append_assoc, List.append_cancel_left_eq,
        List.append_cancel_left_eq, List.append_cancel_right_eq]
      exact (and_iff_right hslashes).symm
  rw [← regionSegments_eq_iff]
  constructor
  · rintro ⟨segment, hdecode, hsegment⟩
    obtain ⟨hslashes, hregions⟩ := (hpath_iff segment).mp hsegment
    exact ⟨⟨segment, hdecode, hregions⟩, hslashes⟩
  · rintro ⟨⟨segment, hdecode, hregions⟩, hslashes⟩
    exact ⟨segment, hdecode, (hpath_iff segment).mpr ⟨hslashes, hregions⟩⟩

/-! ## Addresses of regions -/

theorem shown?_eq_of_regionElections {base : String} {url url₁ url₂ : Url}
    {segments : List (List Char)} {code₁ code₂ : String}
    {topology₁ topology₂ version₁ version₂ : Option String}
    (hparse : Url.parse base = .ok url) (hspecial : isSpecial url.scheme = true)
    (hpath : url.path = .segments segments)
    (h₁ : regionElections base code₁ topology₁ version₁ = .ok url₁)
    (h₂ : regionElections base code₂ topology₂ version₂ = .ok url₂)
    (htext : url₁.text = url₂.text) : shown? code₁ = shown? code₂ := by
  obtain ⟨query₁, hquery₁⟩ := regionElections_eq hparse hspecial hpath topology₁ version₁
  obtain ⟨query₂, hquery₂⟩ := regionElections_eq hparse hspecial hpath topology₂ version₂
  rw [hquery₁, Except.ok.injEq] at h₁
  rw [hquery₂, Except.ok.injEq] at h₂
  subst h₁ h₂
  exact shown?_eq_of_text_eq htext

/-- What the addresses of regions under a base tell of the codes. -/
structure TellsRegions (base : String) (segments : List (List Char)) : Prop where
  /-- Every code has an address. It names the code unless the code has dots alone or characters
  that do not count, or the path of the base is two slashes. -/
  names_iff : ∀ code topology version, ∃ url,
    regionElections base code topology version = .ok url ∧
      url.path = .segments (regionPath segments code) ∧
      (NamesRegion segments code url ↔ IsNameable code ∧ segments ≠ [[], []])
  /-- Addresses are equal only if they show the same of their codes. -/
  shows_same : ∀ code₁ code₂ topology₁ topology₂ version₁ version₂ url₁ url₂,
    regionElections base code₁ topology₁ version₁ = .ok url₁ →
    regionElections base code₂ topology₂ version₂ = .ok url₂ →
    url₁.text = url₂.text → shown? code₁ = shown? code₂
  /-- Codes that show the same are asked for at the same address. -/
  asks_same : ∀ code₁ code₂ topology version, shown? code₁ = shown? code₂ →
    regionElections base code₁ topology version = regionElections base code₂ topology version
  /-- The addresses of two codes that can be named are not equal. -/
  tells_apart : ∀ code₁ code₂ topology₁ topology₂ version₁ version₂ url₁ url₂,
    IsNameable code₁ → IsNameable code₂ → code₁ ≠ code₂ →
    regionElections base code₁ topology₁ version₁ = .ok url₁ →
    regionElections base code₂ topology₂ version₂ = .ok url₂ → url₁.text ≠ url₂.text

theorem regionElections_tellsRegions {base : String} {url : Url}
    (hparse : Url.parse base = .ok url) (hscheme : url.scheme ∈ requestSchemes) :
    ∃ segments, url.path = .segments segments ∧ TellsRegions base segments := by
  have hschemes : ∀ scheme ∈ requestSchemes,
      isSpecial scheme = true ∧ isFile scheme = false := by decide
  obtain ⟨hspecial, hfile⟩ := hschemes url.scheme hscheme
  obtain ⟨segments, hpath⟩ := exists_segments_of_parse hparse hspecial hfile
  refine ⟨segments, hpath, ⟨?_, ?_, ?_, ?_⟩⟩
  · intro code topology version
    obtain ⟨query, hquery⟩ := regionElections_eq hparse hspecial hpath topology version
    exact ⟨_, hquery code, rfl, namesRegion_iff rfl⟩
  · intro code₁ code₂ topology₁ topology₂ version₁ version₂ url₁ url₂ h₁ h₂ htext
    exact shown?_eq_of_regionElections hparse hspecial hpath h₁ h₂ htext
  · intro code₁ code₂ topology version hshown
    obtain ⟨query, hquery⟩ := regionElections_eq hparse hspecial hpath topology version
    rw [hquery code₁, hquery code₂, regionPath, regionPath, hshown]
  · intro code₁ code₂ topology₁ topology₂ version₁ version₂ url₁ url₂ hname₁ hname₂ hne h₁ h₂ htext
    have hshown := shown?_eq_of_regionElections hparse hspecial hpath h₁ h₂ htext
    rw [shown?_eq_some_iff.mpr hname₁, shown?_eq_some_iff.mpr hname₂, Option.some.injEq] at hshown
    exact hne (String.toList_inj.mp hshown)

/-- A base that has a path. -/
def proxyBase : String := "http://127.0.0.1:8100/p/"

/-- The address that it is. -/
def proxy : Url where
  scheme := "http"
  authority := some ⟨[], [], .ipv4 0x7f000001, some 8100⟩
  guarded := false
  path := .segments ["p".toList, []]
  query := none
  fragment := none

theorem parse_proxyBase : Url.parse proxyBase = .ok proxy := by
  decide +kernel

theorem regionElections_tellsRegions_proxy :
    ∃ segments, proxy.path = .segments segments ∧ TellsRegions proxyBase segments :=
  regionElections_tellsRegions parse_proxyBase (by decide)

/-- A tabulator in a code does not count: the code is not named, and the address is that of
another region. -/
theorem not_namesRegion_tabulator :
    Text.trim "11\t000" = "11\t000" ∧ ∃ url,
      regionElections proxyBase "11\t000" none none = .ok url ∧
      ¬ NamesRegion ["p".toList, []] "11\t000" url ∧
      regionElections proxyBase "11000" none none = .ok url := by
  obtain ⟨query, hquery⟩ := regionElections_eq parse_proxyBase (by decide) rfl none none
  have hnameable : ¬ IsNameable "11\t000" := by
    intro h
    have hskipped := h.2.2 '\t' (by decide)
    cases hskipped
  refine ⟨by decide +kernel, _, hquery _, ?_, hquery _⟩
  rw [namesRegion_iff rfl]
  exact fun h => hnameable h.1

end PollAtlas.Service
