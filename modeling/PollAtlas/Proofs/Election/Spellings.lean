import Mathlib.Data.List.Nodup
import Mathlib.Data.List.Pairwise
import PollAtlas.Proofs.Election.Listing
import PollAtlas.Proofs.Election.Representative

/-!
# Offices under several spellings

A region of a master gets a record for each text that an office is filed under there. The regular
offices go by their labels, and a by-election adds its own text unless it is there already. These
texts are compared as they are, while an office is known by several of them. So an office has as
many records as it has spellings in use.

* `Master.mem_officesOf`: the texts that a region has records for.
* `Master.SpelledAlike`: what by-elections have to keep to.
* `Master.onePerOffice_iff`: no office has two records just when they keep to it.
* `Master.not_onePerOffice`: by-elections that do not.
-/

namespace PollAtlas.Election

/-- No two of the records are for one office. -/
def OnePerOffice (records : List Candidacy) : Prop :=
  records.Pairwise fun r s => ∀ office, ¬ (r.IsFor office ∧ s.IsFor office)

namespace Master

/-- The by-elections of a region name its regular offices by their labels, and no other office by
two texts. -/
structure SpelledAlike (master : Master) (region : MasterRegion) (regionCode : String) :
    Prop where
  regular : ∀ text, ⟨regionCode, text⟩ ∈ master.byElections →
    ∀ office ∈ (region.adminLevel.getD .sido).offices, Office.ofText? text = some office →
      text = office.label
  further : ∀ text other, ⟨regionCode, text⟩ ∈ master.byElections →
    ⟨regionCode, other⟩ ∈ master.byElections → ∀ office, Office.ofText? text = some office →
      Office.ofText? other = some office → text = other

theorem mem_regularOffices {region : MasterRegion} {text : String} :
    text ∈ region.regularOffices ↔
      ∃ office ∈ (region.adminLevel.getD .sido).offices, office.label = text :=
  List.mem_map

theorem mem_officesOf {master : Master} {region : MasterRegion} {regionCode text : String} :
    text ∈ master.officesOf region regionCode ↔
      text ∈ region.regularOffices ∨ ⟨regionCode, text⟩ ∈ master.byElections := by
  rw [officesOf_eq, List.mem_append, List.mem_filter, mem_byElectionOffices, decide_eq_true_eq]
  constructor
  · intro h
    exact h.imp_right And.left
  · intro h
    by_cases hregular : text ∈ region.regularOffices
    · exact Or.inl hregular
    · exact Or.inr ⟨h.resolve_left hregular, hregular⟩

/-- No office is named by two of the texts. -/
def NamesOnce (texts : List String) : Prop :=
  ∀ text ∈ texts, ∀ other ∈ texts, ∀ office,
    Office.ofText? text = some office → Office.ofText? other = some office → text = other

theorem spelledAlike_iff {master : Master} {region : MasterRegion} {regionCode : String} :
    master.SpelledAlike region regionCode ↔ NamesOnce (master.officesOf region regionCode) := by
  constructor
  · rintro ⟨hregular, hfurther⟩ text htext other hother office hnamed hnamed'
    rw [mem_officesOf, mem_regularOffices] at htext hother
    rcases htext with ⟨first, hfirst, rfl⟩ | htext
    · rw [Office.ofText?_label] at hnamed
      cases hnamed
      rcases hother with ⟨second, _, rfl⟩ | hother
      · rw [Office.ofText?_label] at hnamed'
        cases hnamed'
        rfl
      · exact (hregular other hother office hfirst hnamed').symm
    · rcases hother with ⟨second, hsecond, rfl⟩ | hother
      · rw [Office.ofText?_label] at hnamed'
        cases hnamed'
        exact hregular text htext office hsecond hnamed
      · exact hfurther text other htext hother office hnamed hnamed'
  · intro h
    refine ⟨?_, ?_⟩
    · intro text htext office hoffice hnamed
      refine h text (mem_officesOf.mpr (Or.inr htext)) office.label ?_ office hnamed
        (Office.ofText?_label office)
      exact mem_officesOf.mpr (Or.inl (mem_regularOffices.mpr ⟨office, hoffice, rfl⟩))
    · intro text other htext hother office hnamed hnamed'
      exact h text (mem_officesOf.mpr (Or.inr htext)) other (mem_officesOf.mpr (Or.inr hother))
        office hnamed hnamed'

theorem onePerOffice_slotsOf {master : Master} {region : MasterRegion}
    (hcode : Text.trim region.regionCode ≠ "") :
    OnePerOffice (master.slotsOf region) ↔
      NamesOnce (master.officesOf region (Text.trim region.regionCode)) := by
  rw [OnePerOffice, master.slotsOf_of_code hcode, List.pairwise_map]
  constructor
  · intro h text htext other hother office hnamed hnamed'
    have hsymm : Std.Symm fun text other : String => ∀ office,
        ¬ (Office.ofText? text = some office ∧ Office.ofText? other = some office) :=
      ⟨fun _ _ hdiff office hboth => hdiff office hboth.symm⟩
    by_contra hne
    exact @List.Pairwise.forall _ _ _ hsymm h text htext other hother hne office ⟨hnamed, hnamed'⟩
  · intro h
    refine List.Nodup.pairwise_of_forall_ne (nodup_officesOf master region _) ?_
    rintro text htext other hother hne office ⟨hnamed, hnamed'⟩
    exact hne (h text htext other hother office hnamed hnamed')

/-- No office has two records in a region just when the by-elections that are filed under its code
name the regular offices by their labels, and every other office by one text. -/
theorem onePerOffice_iff (master : Master) (region : MasterRegion) :
    OnePerOffice (master.slotsOf region) ↔
      (Text.trim region.regionCode ≠ "" →
        master.SpelledAlike region (Text.trim region.regionCode)) := by
  by_cases hcode : Text.trim region.regionCode = ""
  · have hnone : master.slotsOf region = [] := by
      simp [slotsOf, Text.content?, hcode]
    rw [hnone]
    exact iff_of_true List.Pairwise.nil fun hne => absurd hcode hne
  · rw [onePerOffice_slotsOf hcode, ← spelledAlike_iff]
    constructor
    · intro halike _
      exact halike
    · intro h
      exact h hcode

/-- A province with a by-election for its mayor under another spelling of the office. -/
def respelledMaster : Master :=
  .ofFile {
    regions := [⟨"11-000", "서울특별시", none, none⟩]
    latestMatchups := []
    byElections := [⟨"11-000", "시도지사"⟩] }

theorem not_onePerOffice :
    ¬ ∀ master : Master, ∀ region ∈ master.regions, OnePerOffice (master.slotsOf region) := by
  intro h
  have hseoul := h respelledMaster ⟨"11-000", "서울특별시", none, none⟩ List.mem_cons_self
  have hcode : Text.trim "11-000" = "11-000" := by decide +kernel
  have hmayor : Office.ofText? "시도지사" = some .metroHead := by decide +kernel
  rw [onePerOffice_slotsOf (by rw [hcode]; decide), ← spelledAlike_iff, hcode] at hseoul
  have hmem : (⟨"11-000", "시도지사"⟩ : RegionOffice) ∈ respelledMaster.byElections := by
    decide +kernel
  have hlabel := hseoul.regular "시도지사" hmem .metroHead (by decide) hmayor
  exact absurd hlabel (by decide)

end Master

end PollAtlas.Election
