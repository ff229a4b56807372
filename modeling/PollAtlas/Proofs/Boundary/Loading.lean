import PollAtlas.Proofs.Boundary.Validity
import PollAtlas.Proofs.Json.ReadBack

/-!
# Loading boundaries

A collection is loaded only if it is valid as a whole. Its features need not be boundaries: those
without a code or without an area are left out, and what is left keeps its order. A feature that is
not valid is never left out in this way, not even if it has neither a code nor an area.

* `RawFeature.IsKeptAs`: a feature that is a boundary.
* `AreKept`: the boundaries among the features of a document.
* `loadFeatures_strict`: what is loaded from a text, and when nothing is.
-/

namespace PollAtlas.Boundary

open PollAtlas.Json (KeptWithin)
open PollAtlas.Json.Number (HasPlainText isKept_of_hasPlainText)

/-! ## What is kept of a feature -/

/-- The boundary that a feature is: its code and its name are trimmed, the code is not blank, and
the name is empty where there is none. -/
structure RawFeature.IsKeptAs (raw : RawFeature) (f : Feature Double) : Prop where
  geometry_eq : raw.geometry = some (.area f.geometry)
  code : ∃ s, Json.get? "region_code" raw.properties = some (.string s) ∧
    Text.trim s = f.regionCode
  code_ne_empty : f.regionCode ≠ ""
  name : (∃ s, Json.get? "region_name" raw.properties = some (.string s) ∧
    Text.trim s = f.regionName) ∨
    (∀ s, Json.get? "region_name" raw.properties ≠ some (.string s)) ∧ f.regionName = ""

/-- The boundaries among features, in order. A feature is left out only if it is none. -/
inductive AreKept : List RawFeature → List (Feature Double) → Prop where
  | nil : AreKept [] []
  | keep {raw : RawFeature} {f : Feature Double} {raws : List RawFeature}
      {fs : List (Feature Double)} : raw.IsKeptAs f → AreKept raws fs →
      AreKept (raw :: raws) (f :: fs)
  | skip {raw : RawFeature} {raws : List RawFeature} {fs : List (Feature Double)} :
      (∀ f, ¬ raw.IsKeptAs f) → AreKept raws fs → AreKept (raw :: raws) fs

namespace RawFeature

variable {raw : RawFeature}

theorem text?_eq_some_iff {name text : String} :
    raw.text? name = some text ↔
      (∃ s, Json.get? name raw.properties = some (.string s) ∧ Text.trim s = text) ∧
        text ≠ "" := by
  constructor
  · intro h
    unfold text? at h
    split at h
    · rename_i s hs
      unfold Text.content? at h
      split at h
      · cases h
      · rename_i hne
        cases h
        exact ⟨⟨s, hs, rfl⟩, hne⟩
    · cases h
  · rintro ⟨⟨s, hs, rfl⟩, hne⟩
    rw [text?, hs]
    exact if_neg hne

theorem getD_text?_eq_iff {name text : String} :
    (raw.text? name).getD "" = text ↔
      (∃ s, Json.get? name raw.properties = some (.string s) ∧ Text.trim s = text) ∨
        (∀ s, Json.get? name raw.properties ≠ some (.string s)) ∧ text = "" := by
  by_cases hstring : ∃ s, Json.get? name raw.properties = some (.string s)
  · obtain ⟨s, hs⟩ := hstring
    have htext : (raw.text? name).getD "" = Text.trim s := by
      rw [text?, hs]
      show (Text.content? s).getD "" = _
      rw [Text.content?]
      -- Of a blank text nothing is left, and that is also what stands for no text.
      split
      · rename_i hblank
        exact hblank.symm
      · rfl
    rw [htext]
    simp [hs]
  · have hnone : raw.text? name = none := by
      rw [Option.eq_none_iff_forall_ne_some]
      intro found hfound
      obtain ⟨⟨s, hs, _⟩, _⟩ := text?_eq_some_iff.mp hfound
      exact hstring ⟨s, hs⟩
    have hmissing := not_exists.mp hstring
    rw [hnone]
    simp [hmissing, eq_comm]

theorem feature?_eq_some_iff {f : Feature Double} : raw.feature? = some f ↔ raw.IsKeptAs f := by
  constructor
  · intro h
    unfold feature? at h
    split at h
    · rename_i code geometry hcode hgeometry
      obtain ⟨hcode, hne⟩ := text?_eq_some_iff.mp hcode
      cases h
      exact ⟨hgeometry, hcode, hne, getD_text?_eq_iff.mp rfl⟩
    · cases h
  · rintro ⟨hgeometry, hcode, hne, hname⟩
    rw [feature?, text?_eq_some_iff.mpr ⟨hcode, hne⟩, hgeometry]
    show some (⟨f.regionCode, _, f.geometry⟩ : Feature Double) = some f
    rw [getD_text?_eq_iff.mpr hname]

end RawFeature

theorem filterMap_feature?_eq_iff {raws : List RawFeature} {fs : List (Feature Double)} :
    raws.filterMap RawFeature.feature? = fs ↔ AreKept raws fs := by
  constructor
  · rintro rfl
    induction raws with
    | nil => exact .nil
    | cons raw raws ih =>
      cases hraw : raw.feature? with
      | none =>
        rw [List.filterMap_cons_none hraw]
        refine .skip (fun f hf => ?_) ih
        cases hraw.symm.trans (RawFeature.feature?_eq_some_iff.mpr hf)
      | some f =>
        rw [List.filterMap_cons_some hraw]
        exact .keep (RawFeature.feature?_eq_some_iff.mp hraw) ih
  · intro h
    induction h with
    | nil => rfl
    | keep hkept _ ih =>
      rw [List.filterMap_cons_some (RawFeature.feature?_eq_some_iff.mpr hkept), ih]
    | @skip raw _ _ hnone _ ih =>
      have hraw : raw.feature? = none := by
        rw [Option.eq_none_iff_forall_ne_some]
        exact fun f hf => hnone f (RawFeature.feature?_eq_some_iff.mp hf)
      rw [List.filterMap_cons_none hraw, ih]

/-! ## Documents -/

/-- A text that is a collection of items. They need not be features. -/
structure IsCollectionText (text : String) (members : Members) (items : List Json) : Prop where
  text_eq : Json.read? text = some (.object members)
  type_eq : Json.get? "type" members = some (.string "FeatureCollection")
  items_eq : Json.get? "features" members = some (.array items)

/-- A document that has features is a collection. The other ones are checked as well, and then
refused. -/
theorem Collection.ofMembers_eq_ok_iff {members : Members} {raws : List RawFeature} :
    Collection.ofMembers members = .ok raws ↔
      Json.get? "type" members = some (.string "FeatureCollection") ∧
        featuresOf members = .ok raws := by
  constructor
  · intro h
    unfold Collection.ofMembers at h
    split at h
    · rename_i htype
      exact ⟨htype, mapError_eq_ok_iff.mp h⟩
    · obtain ⟨_, _, h⟩ := bind_eq_ok_iff.mp h
      cases h
    · split at h
      · obtain ⟨_, _, h⟩ := bind_eq_ok_iff.mp h
        cases h
      · cases h
    · cases h
  · rintro ⟨htype, hfeatures⟩
    rw [Collection.ofMembers, htype]
    exact mapError_eq_ok_iff.mpr hfeatures

theorem Collection.ofText_eq_ok_iff {text : String} {raws : List RawFeature} :
    Collection.ofText text = .ok raws ↔ ∃ members items, IsCollectionText text members items ∧
      HasBox members ∧ List.Forall₂ IsFeature items raws := by
  constructor
  · intro h
    unfold Collection.ofText at h
    split at h
    · cases h
    · rename_i members htext
      obtain ⟨htype, hfeatures⟩ := Collection.ofMembers_eq_ok_iff.mp h
      obtain ⟨hbox, value, hvalue, ⟨hitems⟩⟩ := featuresOf_eq_ok_iff.mp hfeatures
      exact ⟨members, _, ⟨htext, htype, hvalue⟩, hbox, hitems⟩
    · cases h
  · rintro ⟨members, items, ⟨htext, htype, hvalue⟩, hbox, hitems⟩
    rw [Collection.ofText, htext]
    refine Collection.ofMembers_eq_ok_iff.mpr ⟨htype, ?_⟩
    exact featuresOf_eq_ok_iff.mpr ⟨hbox, _, hvalue, .mk hitems⟩

theorem loadFeatures_eq_ok_iff {text : String} {fs : List (Feature Double)} :
    loadFeatures text = .ok fs ↔ ∃ members items raws, IsCollectionText text members items ∧
      HasBox members ∧ List.Forall₂ IsFeature items raws ∧ AreKept raws fs := by
  rw [loadFeatures, map_eq_ok_iff]
  constructor
  · rintro ⟨raws, hraws, hkept⟩
    obtain ⟨members, items, htext, hbox, hitems⟩ := Collection.ofText_eq_ok_iff.mp hraws
    exact ⟨members, items, raws, htext, hbox, hitems, filterMap_feature?_eq_iff.mp hkept⟩
  · rintro ⟨members, items, raws, htext, hbox, hitems, hkept⟩
    exact ⟨raws, Collection.ofText_eq_ok_iff.mpr ⟨members, items, htext, hbox, hitems⟩,
      filterMap_feature?_eq_iff.mpr hkept⟩

/-- Of a collection, the features are read or there is a fault in it. -/
theorem IsCollectionText.loadFeatures_eq {text : String} {members : Members} {items : List Json}
    (h : IsCollectionText text members items) :
    loadFeatures text = ((featuresOf members).mapError LoadError.geoJson).map fun raws =>
      raws.filterMap RawFeature.feature? := by
  rw [loadFeatures, Collection.ofText, h.text_eq]
  show (Collection.ofMembers members).map _ = _
  rw [Collection.ofMembers, h.type_eq]
  rfl

/-- The boundaries of a text are those among the features of a valid collection, each one with all
that it holds and in order; a single item that is not valid leaves none. -/
theorem loadFeatures_strict (text : String) :
    (∀ fs, loadFeatures text = .ok fs ↔ ∃ members items raws,
      IsCollectionText text members items ∧ HasBox members ∧
        List.Forall₂ IsFeature items raws ∧ AreKept raws fs) ∧
    (∀ members items, IsCollectionText text members items →
      ∀ item ∈ items, (∀ raw, ¬ IsFeature item raw) →
        ∃ fault, loadFeatures text = .error (.geoJson fault)) := by
  refine ⟨fun _ => loadFeatures_eq_ok_iff, ?_⟩
  intro members items htext item hitem hinvalid
  rw [htext.loadFeatures_eq]
  cases hfeatures : featuresOf members with
  | error fault => exact ⟨fault, rfl⟩
  | ok raws =>
    obtain ⟨_, value, hvalue, ⟨hvalid⟩⟩ := featuresOf_eq_ok_iff.mp hfeatures
    cases hvalue.symm.trans htext.items_eq
    have hall : ∀ item ∈ items, ∃ raw, IsFeature item raw :=
      ((List.forall₂_and_left items raws).mp (hvalid.imp fun _ raw h => ⟨⟨raw, h⟩, h⟩)).1
    obtain ⟨raw, hraw⟩ := hall item hitem
    exact absurd hraw (hinvalid raw)

/-- A feature whose code has blanks around it, without a name, and with an altitude. -/
def paddedItem : Json :=
  .object [("type", .string "Feature"),
    ("properties", .object [("region_code", .string " KR-11 ")]),
    ("geometry", .object [("type", .string "Polygon"),
      ("coordinates", .array [.array [.array ([126, 37, 38].map Json.ofDouble)], .array []])])]

/-- A feature without a code and without an area, by the numbers of its position. -/
def pointItem (position : List Double) : Json :=
  .object [("type", .string "Feature"),
    ("geometry", .object [("type", .string "Point"),
      ("coordinates", .array (position.map Json.ofDouble))])]

/-- The one feature and after it the other. -/
def mixedMembers (position : List Double) : Members :=
  [("type", .string "FeatureCollection"), ("features", .array [paddedItem, pointItem position])]

theorem isCollectionText_mixedMembers {position : List Double}
    (h : ∀ x ∈ position, HasPlainText x) :
    IsCollectionText (Json.compact (.object (mixedMembers position))) (mixedMembers position)
      [paddedItem, pointItem position] := by
  have hnumbers : ∀ {limit : Nat} {xs : List Double}, (∀ x ∈ xs, HasPlainText x) →
      KeptWithin (limit + 1) (.array (xs.map Json.ofDouble)) := fun hxs =>
    .array (List.forall_mem_map.mpr fun x hx => .ofDouble (isKept_of_hasPlainText (hxs x hx)))
  have hpadded : KeptWithin 6 paddedItem := by
    refine .object (by simp) (List.forall_mem_cons.mpr ⟨.string _, ?_⟩)
    refine List.forall_mem_cons.mpr ⟨?_, List.forall_mem_cons.mpr ⟨?_, nofun⟩⟩
    · exact .object (by simp) (List.forall_mem_singleton.mpr (.string _))
    · refine .object (by simp) (List.forall_mem_cons.mpr ⟨.string _, ?_⟩)
      refine List.forall_mem_singleton.mpr (.array (List.forall_mem_cons.mpr ⟨?_, ?_⟩))
      · exact .array (List.forall_mem_singleton.mpr (hnumbers (by decide +kernel)))
      · exact List.forall_mem_singleton.mpr (.array nofun)
  have hpoint : KeptWithin 6 (pointItem position) := by
    refine .object (by simp) (List.forall_mem_cons.mpr ⟨.string _, ?_⟩)
    refine List.forall_mem_singleton.mpr ?_
    refine .object (by simp) (List.forall_mem_cons.mpr ⟨.string _, ?_⟩)
    exact List.forall_mem_singleton.mpr (hnumbers h)
  have hkept : KeptWithin 8 (.object (mixedMembers position)) := by
    refine .object (by simp [mixedMembers]) (List.forall_mem_cons.mpr ⟨.string _, ?_⟩)
    refine List.forall_mem_singleton.mpr (.array (List.forall_mem_cons.mpr ⟨hpadded, ?_⟩))
    exact List.forall_mem_singleton.mpr hpoint
  exact ⟨hkept.read?_compact (by decide), rfl, rfl⟩

/-- A point with two coordinates is left out, and the feature before it is loaded; with one
coordinate less neither of them is. -/
theorem loadFeatures_strict_mixedMembers :
    loadFeatures (Json.compact (.object (mixedMembers [0, 0]))) =
        .ok [⟨"KR-11", "", .polygon [[⟨126, 37⟩], []]⟩] ∧
      ∃ fault, loadFeatures (Json.compact (.object (mixedMembers [0]))) =
        .error (.geoJson fault) := by
  constructor
  · obtain ⟨hloaded, _⟩ := loadFeatures_strict (Json.compact (.object (mixedMembers [0, 0])))
    have htext := isCollectionText_mixedMembers (show ∀ x ∈ [0, 0], HasPlainText x by
      decide +kernel)
    have hpadded : IsFeature paddedItem ⟨some (.area (.polygon [[⟨126, 37⟩], []])),
        [("region_code", .string " KR-11 ")]⟩ := featureOf_eq_ok_iff.mp rfl
    have hpoint : IsFeature (pointItem [0, 0]) ⟨some (.other "Point"), []⟩ :=
      featureOf_eq_ok_iff.mp rfl
    refine (hloaded _).mpr ⟨_, _, _, htext, .inl rfl, .cons hpadded (.cons hpoint .nil), ?_⟩
    exact filterMap_feature?_eq_iff.mp rfl
  · obtain ⟨_, hrefused⟩ := loadFeatures_strict (Json.compact (.object (mixedMembers [0])))
    have htext := isCollectionText_mixedMembers (show ∀ x ∈ [0], HasPlainText x by
      decide +kernel)
    refine hrefused _ _ htext (pointItem [0]) (by simp) fun raw hraw => ?_
    have hread := featureOf_eq_ok_iff.mpr hraw
    cases hread

end PollAtlas.Boundary
