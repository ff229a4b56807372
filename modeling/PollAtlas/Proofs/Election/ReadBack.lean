import PollAtlas.Election.Candidacy
import PollAtlas.Proofs.Json.Sparse

/-!
# Election records that are read back

A list of records is written as a list of objects with all fields and read back unchanged. The
objects need not stay complete: a value that says nothing (`IsBlank`) can be omitted from any of
them, as long as leaving it out means the same. That holds for `null` and `false` in every field
that can have them, and for the empty text where it is the default. A text that may be missing is
another matter: a missing `topology` is the official one, an empty one is a data set without a
name (`not_ofFeed_of_sparse`).

* `Omissible`: the values that can be omitted.
* `Candidacy.ofJson?_of_sparse`: the record of a sparse object.
* `Candidacy.Carries`: a feed with one object for each record, and items that are no record.
* `Candidacy.ofFeed_of_sparse`: the records of such a feed.
-/

namespace PollAtlas.Election

namespace Candidacy

open PollAtlas.Json (Field Record Sparse)

/-- The values that say nothing. -/
def IsBlank (x : Json) : Prop := x = .null ∨ x = .bool false ∨ x = .string ""

/-- The fields with a text that is never missing, only empty. -/
def plainTexts : List String := ["matchup_id", "region_code", "office_type", "title"]

/-- A value that can be omitted. An empty text can be where it is the default. -/
def Omissible (name : String) (x : Json) : Prop :=
  IsBlank x ∧ (x = .string "" → name ∈ plainTexts)

section Fields

variable {record : Record Json} {name : String}

/-- A field with a default is read from its value, and its default where that may be omitted. -/
theorem orBlank_of_gives {α : Type} {default a : α} {read? : Json → Option α} {x : Json}
    (hread : Json.nullable? read? x = some (some a)) (hdefault : IsBlank x → a = default)
    (h : record.Gives Omissible name x) : orBlank record name default read? = some a := by
  unfold orBlank Record.orDefault
  rcases h with hvalue | ⟨⟨hblank, _⟩, hvalue | hvalue⟩
  · rw [hvalue]
    show (Json.nullable? read? x).map _ = some a
    rw [hread]
    rfl
  · rw [hvalue, hdefault hblank]
    rfl
  · rw [hvalue, hdefault hblank]
    rfl

theorem plain_of_gives {text : String} (h : record.Gives Omissible name (.string text)) :
    orBlank record name "" Json.string? = some text := by
  refine orBlank_of_gives rfl ?_ h
  rintro (hnull | hfalse | hempty)
  · cases hnull
  · cases hfalse
  · exact Json.string.inj hempty

theorem flag_of_gives {flag : Bool} (h : record.Gives Omissible name (.bool flag)) :
    orBlank record name false Json.bool? = some flag := by
  refine orBlank_of_gives rfl ?_ h
  rintro (hnull | hfalse | hempty)
  · cases hnull
  · exact Json.bool.inj hfalse
  · cases hempty

/-- A text that may be missing is omitted only if it is. -/
theorem text?_of_gives {text : Option String} (hname : name ∉ plainTexts)
    (h : record.Gives Omissible name (.ofOption text)) : text? record name = some text := by
  unfold text? Record.orDefault
  rcases h with hvalue | ⟨⟨hblank, hplain⟩, hvalue⟩
  · rw [hvalue]
    exact Json.nullable?_ofOption text
  · cases text with
    | none =>
      rcases hvalue with hvalue | hvalue
      · rw [hvalue]
      · rw [hvalue]
        rfl
    | some s =>
      rcases hblank with hnull | hfalse | hempty
      · cases hnull
      · cases hfalse
      · exact absurd (hplain hempty) hname

end Fields

theorem named_fields : Json.Named fields := by decide

theorem nodup_fields : (fields.map Field.name).Nodup := by decide

theorem ofRecord?_of_gives {r : Candidacy} {record : Record Json}
    (h : ∀ name x, (name, x) ∈ r.members → record.Gives Omissible name x) :
    ofRecord? record = some r := by
  have hmatchup : orBlank record "matchup_id" "" Json.string? = some r.matchupId :=
    plain_of_gives (h _ _ (by simp [members]))
  have hregion : orBlank record "region_code" "" Json.string? = some r.regionCode :=
    plain_of_gives (h _ _ (by simp [members]))
  have hoffice : orBlank record "office_type" "" Json.string? = some r.officeType :=
    plain_of_gives (h _ _ (by simp [members]))
  have htitle : orBlank record "title" "" Json.string? = some r.title :=
    plain_of_gives (h _ _ (by simp [members]))
  have htopology : text? record "topology" = some r.topology :=
    text?_of_gives (by decide) (h _ _ (by simp [members]))
  have hversion : text? record "topology_version_id" = some r.topologyVersionId :=
    text?_of_gives (by decide) (h _ _ (by simp [members]))
  have hsource : text? record "source" = some r.source :=
    text?_of_gives (by decide) (h _ _ (by simp [members]))
  have hactive : orBlank record "is_active" false Json.bool? = some r.isActive :=
    flag_of_gives (h _ _ (by simp [members]))
  have hfallback : orBlank record "is_fallback" false Json.bool? = some r.isFallback :=
    flag_of_gives (h _ _ (by simp [members]))
  have hplaceholder : orBlank record "is_placeholder" false Json.bool? = some r.isPlaceholder :=
    flag_of_gives (h _ _ (by simp [members]))
  have hpoll : orBlank record "has_poll_data" false Json.bool? = some r.hasPollData :=
    flag_of_gives (h _ _ (by simp [members]))
  have hcandidate : orBlank record "has_candidate_data" false Json.bool? =
      some r.hasCandidateData := flag_of_gives (h _ _ (by simp [members]))
  have hdate : text? record "latest_survey_end_date" = some r.latestSurveyEndDate :=
    text?_of_gives (by decide) (h _ _ (by simp [members]))
  have hlatest : text? record "latest_matchup_id" = some r.latestMatchupId :=
    text?_of_gives (by decide) (h _ _ (by simp [members]))
  have hstatus : text? record "status" = some r.status :=
    text?_of_gives (by decide) (h _ _ (by simp [members]))
  rw [ofRecord?, hmatchup, hregion, hoffice, htitle, htopology, hversion, hsource, hactive,
    hfallback, hplaceholder, hpoll, hcandidate, hdate, hlatest, hstatus]
  rfl

theorem ofJson?_of_sparse {r : Candidacy} {part members : List (String × Json)}
    (h : Sparse fields Omissible r.members part) (hperm : members.Perm part) :
    ofJson? (.object members) = some r := by
  obtain ⟨record, hrecord, hgives⟩ := h.read?_eq_some named_fields nodup_fields rfl hperm
  rw [ofJson?, hrecord]
  exact ofRecord?_of_gives hgives

/-! ## Feeds -/

theorem ofFeed_cons (item : Json) (items : List Json) :
    ofFeed (.array (item :: items)) = (ofJson? item).toList ++ ofFeed (.array items) :=
  Json.Feed.readable_cons ofJson? item items

/-- The items give the records in order, each as a sparse object of its own, with items that are
no record anywhere between them. -/
inductive Carries (omits : String → Json → Prop) : List Candidacy → List Json → Prop
  | nil : Carries omits [] []
  | record {r : Candidacy} {rs : List Candidacy} {items : List Json}
      {part members : List (String × Json)} (sparse : Sparse fields omits r.members part)
      (order : members.Perm part) (rest : Carries omits rs items) :
      Carries omits (r :: rs) (.object members :: items)
  | junk {rs : List Candidacy} {items : List Json} {item : Json} (unread : ofJson? item = none)
      (rest : Carries omits rs items) : Carries omits rs (item :: items)

theorem Carries.ofFeed_eq {rs : List Candidacy} {items : List Json}
    (h : Carries Omissible rs items) : ofFeed (.array items) = rs := by
  induction h with
  | nil => rfl
  | record sparse order rest ih =>
    rw [ofFeed_cons, ofJson?_of_sparse sparse order, ih]
    rfl
  | junk unread rest ih =>
    rw [ofFeed_cons, unread, ih]
    rfl

theorem carries_toJson (rs : List Candidacy) : Carries Omissible rs (rs.map toJson) := by
  induction rs with
  | nil => exact .nil
  | cons r rs ih => exact .record (Sparse.refl r.members) (List.Perm.refl _) ih

/-- Records that are written are read back, and so they are from every feed that carries them
with less. In any list at all, an item adds its own record or nothing, whatever the others are. -/
theorem ofFeed_of_sparse :
    (∀ rs : List Candidacy, ofFeed (.array (rs.map toJson)) = rs) ∧
      (∀ (rs : List Candidacy) (items : List Json), Carries Omissible rs items →
        ofFeed (.array items) = rs) ∧
      ∀ (earlier : List Json) (item : Json) (later : List Json),
        ofFeed (.array (earlier ++ item :: later)) =
          ofFeed (.array earlier) ++ (ofJson? item).toList ++ ofFeed (.array later) := by
  refine ⟨fun rs => (carries_toJson rs).ofFeed_eq, fun _ _ h => h.ofFeed_eq, ?_⟩
  intro earlier item later
  show Json.Feed.readable ofJson? (earlier ++ item :: later) = _
  rw [Json.Feed.readable_append, Json.Feed.readable_cons, ← List.append_assoc]
  rfl

/-- A record with a poll and a topology. -/
def polled : Candidacy := { blank with matchupId := "m1", topology := some "t", hasPollData := true }

/-- The same without the rest, and with a note. -/
def polledPart : List (String × Json) :=
  [("matchup_id", .string "m1"), ("title", .null), ("topology", .string "t"),
    ("has_poll_data", .bool true), ("note", .string "")]

theorem sparse_polledPart : Sparse fields Omissible polled.members polledPart := by
  have hempty : ∀ name ∈ plainTexts, Omissible name (.string "") :=
    fun name hname => ⟨Or.inr (Or.inr rfl), fun _ => hname⟩
  have hfalse : ∀ name, Omissible name (.bool false) :=
    fun name => ⟨Or.inr (Or.inl rfl), fun h => nomatch h⟩
  have hnull : ∀ name, Omissible name .null := fun name => ⟨Or.inl rfl, fun h => nomatch h⟩
  have hnote : ∀ field ∈ fields, "note" ∉ field.spellings := by decide
  refine .keep (.leaveOut (hempty _ (by decide)) (.leaveOut (hempty _ (by decide)) ?_))
  refine .setNull (hempty _ (by decide)) (.keep (.leaveOut (hnull _) (.leaveOut (hnull _) ?_)))
  refine .leaveOut (hfalse _) (.leaveOut (hfalse _) (.leaveOut (hfalse _) (.keep ?_)))
  refine .leaveOut (hfalse _) (.leaveOut (hnull _) (.leaveOut (hnull _) ?_))
  exact .leaveOut (hnull _) (.other hnote .nil)

theorem ofFeed_of_sparse_polled :
    ofFeed (.array [.string "m0", .object polledPart.reverse]) = [polled] :=
  ofFeed_of_sparse.2.1 _ _
    (.junk rfl (.record sparse_polledPart (List.reverse_perm polledPart) .nil))

/-- If every empty text could be omitted, a data set without a name would come back as the
official one. -/
theorem not_ofFeed_of_sparse :
    ¬ ∀ (rs : List Candidacy) (items : List Json), Carries (fun _ x => IsBlank x) rs items →
      ofFeed (.array items) = rs := by
  intro h
  have hempty : IsBlank (.string "") := Or.inr (Or.inr rfl)
  have hsparse : Sparse fields (fun _ x => IsBlank x)
      ({ blank with topology := some "" } : Candidacy).members blank.members :=
    .keep (.keep (.keep (.keep (.setNull hempty (Sparse.refl _)))))
  have hread := h _ _ (.record hsparse (List.Perm.refl _) .nil)
  have hblank : ofFeed (.array [blank.toJson]) = [blank] := (carries_toJson [blank]).ofFeed_eq
  exact absurd (hblank.symm.trans hread) (by decide)

end Candidacy

end PollAtlas.Election
