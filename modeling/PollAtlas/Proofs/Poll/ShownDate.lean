import PollAtlas.Proofs.Poll.Calendar
import PollAtlas.Proofs.Poll.Lookup

/-!
# The latest date that is shown

The index compares survey dates as texts, byte by byte. A detail line shows the day that a text
begins with, and for a text that begins with none it shows that the date is missing. The two
agree on dates written in full. They part where a text that is no date comes after all dates:
it is kept, and no day is shown although other observations of the region have one. They may part
on a date that has a blank before one of its numbers or a sign before its year. Dates that begin
with a blank are left aside: they are compared with it and shown without it.

* `Observation.Shows`: the day that is shown.
* `Observation.IsFlush`: no blank at the head of the date.
* `Latest.not_latest_shown`: a region whose observation shows no day.
* `Latest.latest_shown`: when a day is shown, and that it is the latest one.
-/

namespace PollAtlas.Poll

namespace Observation

/-- The date of the survey is shown as this day. -/
def Shows (o : Observation) (d : Date) : Prop := dateText o.surveyEndDate = d.korean

/-- The text of the date has no blank in front. -/
def IsFlush (o : Observation) : Prop :=
  ∀ c, (o.surveyEndDate.getD "").toList.head? = some c → Text.isBlank c = false

/-- The date of the survey begins with a day written in full, without a blank before it. -/
def DatedInFull (o : Observation) : Prop :=
  ∃ f : Date.FullDigits, f.chars <+: (o.surveyEndDate.getD "").toList

theorem DatedInFull.isFlush {o : Observation} (h : o.DatedInFull) : o.IsFlush := by
  obtain ⟨f, rest, htext⟩ := h
  have hne : f.chars ≠ [] := List.ne_nil_of_length_eq_add_one f.length_chars
  intro c hc
  rw [← htext, List.head?_append_of_ne_nil _ hne] at hc
  rcases Date.FullDigits.mem_chars (List.mem_of_mem_head? hc) with hdigit | rfl
  · exact Text.isBlank_of_isDigit hdigit
  · rfl

/-- A missing date is compared as the empty text, and neither shows a day. -/
theorem shows_iff {o : Observation} {d : Date} :
    o.Shows d ↔ Date.ofText? (o.surveyEndDate.getD "") = some d := by
  rw [Shows, dateText_eq_korean_iff]
  cases o.surveyEndDate with
  | none => exact iff_of_false (by simp) (by simp [show Date.ofText? "" = none from by decide])
  | some text => exact Iff.rfl

/-- Of two dates written in full the text of the earlier day is smaller. -/
theorem date_lt_of_before {o p : Observation} (ho : o.DatedInFull) (hp : p.DatedInFull)
    {d e : Date} (hd : o.Shows d) (he : p.Shows e) (h : d.Before e) :
    o.surveyEndDate.getD "" < p.surveyEndDate.getD "" := by
  obtain ⟨f, hf⟩ := ho
  obtain ⟨g, hg⟩ := hp
  rw [shows_iff, Date.FullDigits.ofText?_of_prefix hf] at hd
  rw [shows_iff, Date.FullDigits.ofText?_of_prefix hg] at he
  obtain ⟨s, hs⟩ := hf
  obtain ⟨t, ht⟩ := hg
  rw [String.lt_iff, ← hs, ← ht]
  exact Date.FullDigits.append_lt_of_before hd he h s t

end Observation

namespace Latest

theorem seoul_shows : seoul.Shows ⟨2026, 1, 1, by decide⟩ := by
  show dateText (some "2026-01-01") = _
  decide +kernel

/-- An observation with a text in the place of a date. -/
def undated : Observation := { seoul with surveyEndDate := some "soon" }

/-- A text that is no date comes after the dates and is kept, so no day is shown. -/
theorem not_latest_shown :
    ¬ ∀ (observations : List Observation) (key : String) (o : Observation),
      (ofObservations observations).get? key = some o →
        (∃ p ∈ filedUnder key observations, ∃ d, p.Shows d) →
          ∃ d, o.Shows d ∧ ∀ p ∈ filedUnder key observations, ∀ e, p.Shows e → ¬ d.Before e := by
  intro h
  have hget : (ofObservations [seoul, undated]).get? "11-000" = some undated := by decide +kernel
  have hfiled : seoul ∈ filedUnder "11-000" [seoul, undated] := by decide +kernel
  have hmissing : dateText undated.surveyEndDate = missingText := by decide +kernel
  obtain ⟨d, hd, _⟩ := h [seoul, undated] "11-000" undated hget ⟨seoul, hfiled, _, seoul_shows⟩
  exact Date.korean_ne_missingText d (hd.symm.trans hmissing)

/-- The freshest observation shows a day just if some day comes after every text that shows none. -/
theorem exists_shows_iff_of_isFreshest {observations : List Observation} {o : Observation}
    (hfresh : IsFreshest observations o) :
    (∃ d, o.Shows d) ↔
      ∃ p ∈ observations, (∃ d, p.Shows d) ∧ ∀ q ∈ observations, (∀ d, ¬ q.Shows d) →
        Text.bytes (q.surveyEndDate.getD "") < Text.bytes (p.surveyEndDate.getD "") := by
  constructor
  · rintro ⟨d, hd⟩
    refine ⟨o, hfresh.mem, ⟨d, hd⟩, ?_⟩
    intro q hq hnone
    have hle := hfresh.date_le hq
    have hne : q.surveyEndDate.getD "" ≠ o.surveyEndDate.getD "" := by
      intro heq
      rw [Observation.shows_iff, ← heq, ← Observation.shows_iff] at hd
      exact hnone d hd
    rw [Text.bytes_lt_iff]
    exact String.not_le.mp fun hge => hne (String.le_antisymm hle hge)
  · rintro ⟨p, hp, _, habove⟩
    by_contra hnone
    have hlt := Text.bytes_lt_iff.mp (habove o hfresh.mem fun d hd => hnone ⟨d, hd⟩)
    exact String.not_lt.mpr (hfresh.date_le hp) hlt

/-- Where no text has a blank in front, a region shows a day just if one of its days comes after
every text that shows none. A day written in full is the latest of all that are. -/
theorem latest_shown {observations : List Observation} {key : String} {o : Observation}
    (hget : (ofObservations observations).get? key = some o) :
    ((∀ p ∈ filedUnder key observations, p.IsFlush) →
      ((∃ d, o.Shows d) ↔
        ∃ p ∈ filedUnder key observations, (∃ d, p.Shows d) ∧
          ∀ q ∈ filedUnder key observations, (∀ d, ¬ q.Shows d) →
            Text.bytes (q.surveyEndDate.getD "") < Text.bytes (p.surveyEndDate.getD ""))) ∧
    ∀ d, o.Shows d → o.DatedInFull → ∀ p ∈ filedUnder key observations, p.DatedInFull →
      ∀ e, p.Shows e → ¬ d.Before e := by
  have hfresh := isFreshest_of_get? hget
  refine ⟨fun _ => exists_shows_iff_of_isFreshest hfresh, ?_⟩
  intro d hd ho p hp hfull e he hbefore
  have hlt := Observation.date_lt_of_before ho hfull hd he hbefore
  exact String.not_lt.mpr (hfresh.date_le hp) hlt

/-- A blank before a date hides it from the comparison, though not from the reader. -/
example : (ofObservations [{ seoul with surveyEndDate := some " 2026-02-01" }, seoul]).get?
    "11-000" = some seoul := by decide +kernel

/-- An observation of the next month, with the time of day. -/
def february : Observation := { seoul with surveyEndDate := some "2026-02-01T09:00:00Z" }

/-- An observation with a date that is no day. -/
def dayless : Observation := { seoul with surveyEndDate := some "2026-02-00" }

theorem latest_shown_february :
    (ofObservations [february, seoul, dayless]).get? "11-000" = some february ∧
      (∀ p ∈ filedUnder "11-000" [february, seoul, dayless], p.IsFlush) ∧
      (∃ d, february.Shows d) ∧
      ∀ p ∈ filedUnder "11-000" [february, seoul, dayless], ∀ e, p.Shows e →
        ¬ (⟨2026, 2, 1, by decide⟩ : Date).Before e := by
  have hget : (ofObservations [february, seoul, dayless]).get? "11-000" = some february := by
    decide +kernel
  have hfiled : filedUnder "11-000" [february, seoul, dayless] = [february, seoul, dayless] := by
    decide +kernel
  have hdayless : ∀ d, ¬ dayless.Shows d := by
    intro d hd
    have hmissing : dateText dayless.surveyEndDate = missingText := by decide +kernel
    exact Date.korean_ne_missingText d (hd.symm.trans hmissing)
  have hshown : february.Shows ⟨2026, 2, 1, by decide⟩ := by
    show dateText (some "2026-02-01T09:00:00Z") = _
    decide +kernel
  have hfull : ∀ p ∈ filedUnder "11-000" [february, seoul, dayless], p.DatedInFull := by
    rw [hfiled]
    intro p hp
    simp only [List.mem_cons, List.not_mem_nil, or_false] at hp
    rcases hp with rfl | rfl | rfl
    · exact ⟨⟨['2', '0', '2', '6'], ['0', '2'], ['0', '1'], by decide, by decide, by decide,
        rfl, rfl, rfl⟩, by decide +kernel⟩
    · exact ⟨⟨['2', '0', '2', '6'], ['0', '1'], ['0', '1'], by decide, by decide, by decide,
        rfl, rfl, rfl⟩, by decide +kernel⟩
    · exact ⟨⟨['2', '0', '2', '6'], ['0', '2'], ['0', '0'], by decide, by decide, by decide,
        rfl, rfl, rfl⟩, by decide +kernel⟩
  have hflush : ∀ p ∈ filedUnder "11-000" [february, seoul, dayless], p.IsFlush :=
    fun p hp => (hfull p hp).isFlush
  have hmem : february ∈ filedUnder "11-000" [february, seoul, dayless] := by
    rw [hfiled]
    exact List.mem_cons_self
  obtain ⟨hshows, hlatest⟩ := latest_shown hget
  refine ⟨hget, hflush, (hshows hflush).mpr ⟨february, hmem, ⟨_, hshown⟩, ?_⟩,
    fun p hp e he => hlatest _ hshown (hfull _ hmem) p hp (hfull p hp) e he⟩
  -- only the date that is no day is not shown
  rw [hfiled]
  intro q hq hnone
  simp only [List.mem_cons, List.not_mem_nil, or_false] at hq
  rcases hq with rfl | rfl | rfl
  · exact absurd hshown (hnone _)
  · exact absurd seoul_shows (hnone _)
  · decide +kernel

end Latest

end PollAtlas.Poll
