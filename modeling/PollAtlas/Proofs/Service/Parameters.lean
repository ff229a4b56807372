import PollAtlas.Proofs.Address.Query
import PollAtlas.Proofs.Address.Segments
import PollAtlas.Service.Endpoint

/-!
# What a request asks for

The addresses of the service have the parameters of their base in front, as they are written
there, and behind them those of the request. What a request names is read back from its address,
whatever characters it has, and the fragment stays that of the base.

A request is built in steps: the path of the base changes, and one parameter after another is put
behind the query. Each step keeps what has been said so far (`AsksFor.appendPair`).

* `AsksFor`: an address that asks for what a base asks for, and for more.
* `exists_asksFor_endpoint`: the address before its parameters.
* `requests_askFor`: the addresses of the service, for every base.
-/

namespace PollAtlas.Service

open PollAtlas.Address

/-! ## Addresses with more parameters -/

/-- An address asks for what a base asks for and then for `further`, and for nothing else. The
base's own pairs are not even written otherwise. No number sign stands in the query, so what
stands behind the first one is the fragment, and that is the base's own. -/
structure AsksFor (base : Url) (further : List (String × String)) (url : Url) : Prop where
  parameters_eq : url.parameters =
    base.parameters ++ further.map fun (name, value) => (some name, some value)
  written_prefix : base.writtenPairs <+: url.writtenPairs
  notMem_query : '#' ∉ url.query.getD []
  fragment_eq : url.fragment = base.fragment

namespace AsksFor

variable {base url : Url} {further : List (String × String)}

/-- A change of the path changes nothing that is asked for. -/
theorem withPath (hquery : '#' ∉ base.query.getD []) (path : Path) :
    AsksFor base [] { base with path := path } where
  parameters_eq := (List.append_nil _).symm
  written_prefix := List.prefix_refl _
  notMem_query := hquery
  fragment_eq := rfl

/-- One parameter more is asked for behind all others. -/
theorem appendPair (h : AsksFor base further url) (name value : String) :
    AsksFor base (further ++ [(name, value)]) (url.appendPair name value) where
  parameters_eq := by
    rw [Url.parameters_appendPair, h.parameters_eq, List.map_append, List.append_assoc]
    rfl
  written_prefix := by
    rw [Url.writtenPairs_appendPair]
    exact h.written_prefix.trans (List.prefix_append _ _)
  notMem_query := by
    have hpair : '#' ∉ formPair name value := notMem_formPair (by decide) (by decide) name value
    have hquery := h.notMem_query
    match hurl : url.query with
    | none => simpa [Url.appendPair, hurl] using hpair
    | some [] => simpa [Url.appendPair, hurl] using hpair
    | some (c :: rest) =>
      rw [hurl, Option.getD_some] at hquery
      simp only [Url.appendPair, hurl, Option.getD_some, List.mem_append, List.mem_singleton,
        not_or]
      exact ⟨⟨hquery, by decide⟩, hpair⟩
  fragment_eq := h.fragment_eq

end AsksFor

/-! ## The address before its parameters -/

/-- A number sign ends the query of a text, so none is left in it. -/
theorem notMem_query_of_parse {text : String} {base : Url} (h : Url.parse text = .ok base) :
    '#' ∉ base.query.getD [] := by
  have hkeeps : ∀ special, (Part.query special).keeps '#' = false := by decide
  unfold Url.parse at h
  split at h
  · cases h
  rename_i scheme rest _
  obtain ⟨parts, _, hbase⟩ := bind_eq_ok_iff.mp h
  cases hbase
  dsimp only
  cases (Text.cutAt (· == '?') (Text.cutAt (· == '#') rest).1).2 with
  | none => exact List.not_mem_nil
  | some query => exact notMem_percentEncode (hkeeps _) (by decide) (by decide) query

theorem exists_segments_of_base {text : String} {base : Url} (hparse : Url.parse text = .ok base)
    (hscheme : base.scheme ∈ requestSchemes) : ∃ segments, base.path = .segments segments := by
  have hschemes : ∀ scheme ∈ requestSchemes,
      isSpecial scheme = true ∧ isFile scheme = false := by decide
  obtain ⟨hspecial, hfile⟩ := hschemes base.scheme hscheme
  exact exists_segments_of_parse hparse hspecial hfile

/-- Every address of the service can be built, and until it has parameters of its own it asks for
what the base asks for. -/
theorem exists_asksFor_endpoint {text : String} {base : Url}
    (hparse : Url.parse text = .ok base) (hscheme : base.scheme ∈ requestSchemes)
    (segments : List String) :
    ∃ url, endpoint text segments = .ok url ∧ AsksFor base [] url := by
  obtain ⟨own, hpath⟩ := exists_segments_of_base hparse hscheme
  have haddress : addressOf text = .ok base := by rw [addressOf, hparse]
  have hurl : ∃ path, endpoint text segments = .ok { base with path := path } := by
    simp only [endpoint, haddress, bind, Except.bind, Url.appendSegments?, hpath]
    exact ⟨_, rfl⟩
  obtain ⟨path, hendpoint⟩ := hurl
  exact ⟨_, hendpoint, AsksFor.withPath (notMem_query_of_parse hparse) path⟩

/-! ## The addresses of the service -/

/-- The version that is asked for: none unless one is named, and an empty text names none. -/
def versionParameter : Option String → List (String × String)
  | none => []
  | some version => if version = "" then [] else [("version_id", version)]

/-- The greatest number of observations that is asked for, in decimal digits. -/
def limitParameter : Option Nat → List (String × String)
  | none => []
  | some limit => [("limit", toString limit)]

theorem filter_version (version : Option String) :
    (version.filter (· ≠ "")).toList.map (fun version => ("version_id", version)) =
      versionParameter version := by
  cases version with
  | none => rfl
  | some version =>
    by_cases hempty : version = ""
    · simp [versionParameter, Option.filter, hempty]
    · simp [versionParameter, Option.filter, hempty]

theorem exists_asksFor_regionElections {text : String} {base : Url}
    (hparse : Url.parse text = .ok base) (hscheme : base.scheme ∈ requestSchemes)
    (code : String) (topology version : Option String) :
    ∃ url, regionElections text code topology version = .ok url ∧
      AsksFor base (("topology", topology.getD "official") :: versionParameter version) url := by
  obtain ⟨url, hendpoint, hasks⟩ :=
    exists_asksFor_endpoint hparse hscheme ["regions", code, "elections"]
  have htopology := hasks.appendPair "topology" (topology.getD Election.officialTopology)
  simp only [regionElections, hendpoint, bind, Except.bind]
  rw [← filter_version]
  cases version.filter (· ≠ "") with
  | none => exact ⟨_, rfl, htopology⟩
  | some version => exact ⟨_, rfl, htopology.appendPair "version_id" version⟩

theorem exists_asksFor_mapLatest {text : String} {base : Url}
    (hparse : Url.parse text = .ok base) (hscheme : base.scheme ∈ requestSchemes)
    (limit : Option Nat) :
    ∃ url, mapLatest text limit = .ok url ∧ AsksFor base (limitParameter limit) url := by
  obtain ⟨url, hendpoint, hasks⟩ :=
    exists_asksFor_endpoint hparse hscheme ["dashboard", "map-latest"]
  simp only [mapLatest, hendpoint, bind, Except.bind]
  cases limit with
  | none => exact ⟨_, rfl, hasks⟩
  | some limit => exact ⟨_, rfl, hasks.appendPair "limit" (toString limit)⟩

/-- Under every base of a request, the elections of a region are asked for with the topology and
the version that are given, and the latest observations with the limit: each comes back as it was
given, behind the parameters of the base, and nothing else is asked for. -/
theorem requests_askFor {text : String} {base : Url} (hparse : Url.parse text = .ok base)
    (hscheme : base.scheme ∈ requestSchemes) :
    (∀ code topology version, ∃ url, regionElections text code topology version = .ok url ∧
      AsksFor base (("topology", topology.getD "official") :: versionParameter version) url) ∧
    ∀ limit, ∃ url, mapLatest text limit = .ok url ∧ AsksFor base (limitParameter limit) url :=
  ⟨exists_asksFor_regionElections hparse hscheme, exists_asksFor_mapLatest hparse hscheme⟩

/-- A base with a query and a fragment of its own. -/
def queriedBase : String := "https://127.0.0.1/p?limit=%31&&a+b#top"

/-- The address that it is. -/
def queried : Url where
  scheme := "https"
  authority := some ⟨[], [], .ipv4 0x7f000001, none⟩
  guarded := false
  path := .segments ["p".toList]
  query := some "limit=%31&&a+b".toList
  fragment := some "top".toList

/-- A topology and a version that are written with the marks of an address do not leave their
parameters. -/
theorem requests_askFor_queried :
    Url.parse queriedBase = .ok queried ∧ queried.scheme ∈ requestSchemes ∧
      ∃ url, regionElections queriedBase "11-000" (some "a&limit=9#") (some "1+1 = 100%2B") =
          .ok url ∧
        url.parameters = [(some "limit", some "1"), (some "a b", some ""),
          (some "topology", some "a&limit=9#"), (some "version_id", some "1+1 = 100%2B")] ∧
        url.fragment = some "top".toList := by
  have hparse : Url.parse queriedBase = .ok queried := by decide +kernel
  have hscheme : queried.scheme ∈ requestSchemes := by decide
  obtain ⟨url, hurl, hasks⟩ := (requests_askFor hparse hscheme).1 "11-000" (some "a&limit=9#")
    (some "1+1 = 100%2B")
  have hown : queried.parameters = [(some "limit", some "1"), (some "a b", some "")] := by
    decide +kernel
  refine ⟨hparse, hscheme, url, hurl, ?_, hasks.fragment_eq⟩
  rw [hasks.parameters_eq, hown]
  rfl

end PollAtlas.Service
