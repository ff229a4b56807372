import Mathlib.Data.List.Nodup
import Mathlib.Data.List.Pairwise
import PollAtlas.Election.Resolution
import PollAtlas.Proofs.Election.Listing
import PollAtlas.Proofs.Region.Param
import PollAtlas.Proofs.Text.Marks

/-!
# What a matchup stands for

The matchups of records that are made, and not read, are put together from an office and the code
of a region, with bars between them. The office of a master's record may be any text, so its
matchup is read from the end: the code holds no bar, and what stands behind the last bar is the
code. The office of a placeholder is a label, which holds no bar, so the matchup of a placeholder
is read from the front, and the code may be any text.

* `Master.slotMatchupId_inj`, `placeholderId_inj`: what the matchups stand for.
* `Master.nodup_matchupIds`: the records of a master have different matchups.
* `placeholder_of_wholeForms`: the forms of a whole province have one placeholder.
* `matchups_identify`: what the matchups of a master and of placeholders tell.
-/

namespace PollAtlas.Election

/-! ## The matchups of a master -/

namespace Master

/-- The rows of a master are told apart by their codes, which hold no bars. -/
structure RowsApart (regions : List MasterRegion) : Prop where
  nodup : (regions.map fun region => Text.trim region.regionCode).Nodup
  notMem : ∀ region ∈ regions, '|' ∉ (Text.trim region.regionCode).toList

theorem toList_slotMatchupId (regionCode office : String) :
    (slotMatchupId regionCode office).toList =
      "master|".toList ++ (office.toList ++ '|' :: regionCode.toList) := by
  simp [slotMatchupId]

theorem slotMatchupId_inj {code code' office office' : String} (hcode : '|' ∉ code.toList)
    (hcode' : '|' ∉ code'.toList) (h : slotMatchupId code office = slotMatchupId code' office') :
    code = code' ∧ office = office' := by
  have hchars := congrArg String.toList h
  rw [toList_slotMatchupId, toList_slotMatchupId, List.append_cancel_left_eq] at hchars
  -- from the end, the first bar stands behind the code
  have hreversed := congrArg List.reverse hchars
  simp only [List.reverse_append, List.reverse_cons, List.append_assoc,
    List.singleton_append] at hreversed
  have hreverse : '|' ∉ code.toList.reverse := mt List.mem_reverse.mp hcode
  have hreverse' : '|' ∉ code'.toList.reverse := mt List.mem_reverse.mp hcode'
  obtain ⟨hcodes, hoffices⟩ := Text.eq_of_append_mark_eq hreverse hreverse' hreversed
  exact ⟨String.toList_inj.mp (List.reverse_inj.mp hcodes),
    String.toList_inj.mp (List.reverse_inj.mp hoffices)⟩

theorem matchupIds_slotsOf (master : Master) (region : MasterRegion) :
    (master.slotsOf region).map Candidacy.matchupId =
      if Text.trim region.regionCode = "" then []
      else (master.officesOf region (Text.trim region.regionCode)).map
        (slotMatchupId (Text.trim region.regionCode)) := by
  split
  · rename_i hblank
    rw [master.slotsOf_of_blank hblank]
    rfl
  · rename_i hcode
    rw [master.slotsOf_of_code hcode, List.map_map]
    rfl

theorem exists_office_of_mem {master : Master} {region : MasterRegion} {id : String}
    (h : id ∈ (master.slotsOf region).map Candidacy.matchupId) :
    ∃ office, slotMatchupId (Text.trim region.regionCode) office = id := by
  rw [matchupIds_slotsOf] at h
  split at h
  · cases h
  · obtain ⟨office, _, hid⟩ := List.mem_map.mp h
    exact ⟨office, hid⟩

/-- The records of a region have different matchups, because its offices are different texts. -/
theorem nodup_matchupIds_slotsOf (master : Master) {region : MasterRegion}
    (hcode : '|' ∉ (Text.trim region.regionCode).toList) :
    ((master.slotsOf region).map Candidacy.matchupId).Nodup := by
  rw [matchupIds_slotsOf]
  split
  · exact List.nodup_nil
  · refine (nodup_officesOf master region _).map fun office office' h => ?_
    exact (slotMatchupId_inj hcode hcode h).2

theorem nodup_matchupIds {master : Master} (h : RowsApart master.regions) :
    (master.slots.map Candidacy.matchupId).Nodup := by
  rw [slots, List.map_flatMap, List.nodup_flatMap]
  refine ⟨fun region hregion => nodup_matchupIds_slotsOf master (h.notMem region hregion), ?_⟩
  refine (List.pairwise_map.mp h.nodup).imp_of_mem fun {region other} hregion hother hne => ?_
  intro id hid hid'
  obtain ⟨office, rfl⟩ := exists_office_of_mem hid
  obtain ⟨office', hsame⟩ := exists_office_of_mem hid'
  exact hne (slotMatchupId_inj (h.notMem other hother) (h.notMem region hregion) hsame).1.symm

end Master

/-! ## The matchups of placeholders -/

/-- The code that a region is asked for by; the empty text if none is given. -/
def Context.askedFor (ctx : Context) : String :=
  (Region.Param.ofText (some ctx.regionCode)).normalized.getD ""

theorem toList_placeholderId (office : Office) (ctx : Context) :
    (placeholder office ctx).matchupId.toList =
      "placeholder|".toList ++ (office.label.toList ++ '|' :: ctx.askedFor.toList) := by
  simp [placeholder, Context.askedFor]

theorem Office.label_injective : Function.Injective Office.label := by
  intro office office' h
  have hnamed := Office.ofText?_label office
  rw [h, Office.ofText?_label, Option.some.injEq] at hnamed
  exact hnamed.symm

theorem placeholderId_inj {office office' : Office} {ctx ctx' : Context}
    (h : (placeholder office ctx).matchupId = (placeholder office' ctx').matchupId) :
    office = office' ∧ ctx.askedFor = ctx'.askedFor := by
  have hbar : ∀ office : Office, '|' ∉ office.label.toList := by
    intro office
    cases office <;> decide
  have hchars := congrArg String.toList h
  rw [toList_placeholderId, toList_placeholderId, List.append_cancel_left_eq] at hchars
  obtain ⟨hlabels, hcodes⟩ := Text.eq_of_append_mark_eq (hbar office) (hbar office') hchars
  exact ⟨Office.label_injective (String.toList_inj.mp hlabels), String.toList_inj.mp hcodes⟩

theorem placeholderId_eq_iff {office office' : Office} {ctx ctx' : Context} :
    (placeholder office ctx).matchupId = (placeholder office' ctx').matchupId ↔
      office = office' ∧ ctx.askedFor = ctx'.askedFor := by
  refine ⟨placeholderId_inj, ?_⟩
  rintro ⟨rfl, hcodes⟩
  apply String.toList_inj.mp
  rw [toList_placeholderId, toList_placeholderId, hcodes]

/-- No record of a master has the matchup of a placeholder. -/
theorem placeholderId_notMem (master : Master) (office : Office) (ctx : Context) :
    (placeholder office ctx).matchupId ∉ master.slots.map Candidacy.matchupId := by
  intro hmem
  rw [Master.slots, List.map_flatMap] at hmem
  obtain ⟨region, _, hid⟩ := List.mem_flatMap.mp hmem
  obtain ⟨text, hsame⟩ := Master.exists_office_of_mem hid
  have hchars := congrArg String.toList hsame
  rw [Master.toList_slotMatchupId, toList_placeholderId] at hchars
  -- the two begin with different letters
  have hhead : 'm' = 'p' := Option.some.inj (congrArg List.head? hchars)
  exact absurd hhead (by decide)

theorem placeholder_congr {ctx ctx' : Context} (office : Office)
    (hcode : ctx.askedFor = ctx'.askedFor) (hname : ctx.regionName = ctx'.regionName) :
    placeholder office ctx = placeholder office ctx' := by
  unfold Context.askedFor at hcode
  rw [placeholder, placeholder, hcode, hname]

/-- All forms of a whole province, with any blanks around them, have one placeholder. -/
theorem placeholder_of_wholeForms {a b : Char} (ha : a.isDigit = true) (hb : b.isDigit = true)
    {form form' : List Char} (hform : form ∈ Region.wholeForms a b)
    (hform' : form' ∈ Region.wholeForms a b) {code code' : String}
    (hcode : Text.IsPadded form code) (hcode' : Text.IsPadded form' code') (office : Office)
    (regionName : String) :
    placeholder office ⟨code, regionName⟩ = placeholder office ⟨code', regionName⟩ := by
  refine placeholder_congr office ?_ rfl
  rw [Context.askedFor, Region.Param.normalized_of_wholeForms ha hb hform hcode,
    Context.askedFor, Region.Param.normalized_of_wholeForms ha hb hform' hcode']

/-! ## What matchups tell -/

/-- The matchups that are made tell what they stand for. Those of a master differ, whatever
by-elections there are, if its rows are told apart by codes without bars, and none of them is the
matchup of a placeholder. Two placeholders have one matchup just when they stand for the same
office in the same region. The forms of a whole province have the same placeholder in all of its
fields. -/
theorem matchups_identify :
    (∀ master : Master, Master.RowsApart master.regions →
      (master.slots.map Candidacy.matchupId).Nodup ∧
        ∀ office ctx, (placeholder office ctx).matchupId ∉
          master.slots.map Candidacy.matchupId) ∧
    (∀ (office office' : Office) (ctx ctx' : Context),
      (placeholder office ctx).matchupId = (placeholder office' ctx').matchupId ↔
        office = office' ∧ ctx.askedFor = ctx'.askedFor) ∧
    ∀ a b : Char, a.isDigit = true → b.isDigit = true →
      ∀ form ∈ Region.wholeForms a b, ∀ form' ∈ Region.wholeForms a b, ∀ code code' : String,
        Text.IsPadded form code → Text.IsPadded form' code' → ∀ office regionName,
          placeholder office ⟨code, regionName⟩ = placeholder office ⟨code', regionName⟩ := by
  refine ⟨fun master hrows => ?_, fun _ _ _ _ => placeholderId_eq_iff, ?_⟩
  · exact ⟨Master.nodup_matchupIds hrows, placeholderId_notMem master⟩
  · intro a b ha hb form hform form' hform' code code' hcode hcode'
    exact placeholder_of_wholeForms ha hb hform hform' hcode hcode'

/-- A district with by-elections and a row without a code are told apart. Two forms of one
province, one of them with blanks around it, have one placeholder. -/
theorem matchups_identify_jongno :
    ((Master.ofFile jongnoFile).slots.map Candidacy.matchupId).Nodup ∧
      placeholder .metroHead ⟨" KR-11\n", "서울특별시"⟩ =
        placeholder .metroHead ⟨"11-000", "서울특별시"⟩ := by
  have hrows : Master.RowsApart (Master.ofFile jongnoFile).regions := ⟨by decide, by decide⟩
  have hprefixed : Text.IsPadded "KR-11".toList " KR-11\n" :=
    ⟨[' '], ['\n'], List.forall_mem_singleton.mpr rfl, List.forall_mem_singleton.mpr rfl, rfl⟩
  have hbare : Text.IsPadded "11-000".toList "11-000" := Text.isPadded_self rfl
  exact ⟨(matchups_identify.1 _ hrows).1,
    matchups_identify.2.2 '1' '1' rfl rfl _ (by decide) _ (by decide) _ _ hprefixed hbare _ _⟩

/-- Rows are not told apart by codes that hold bars: two texts may be cut in two places. -/
example : Master.slotMatchupId "b|c" "a" = Master.slotMatchupId "c" "a|b" := by
  decide

end PollAtlas.Election
