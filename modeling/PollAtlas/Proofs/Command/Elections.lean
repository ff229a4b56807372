import Mathlib.Data.List.Forall2
import PollAtlas.Command.Run
import PollAtlas.Proofs.Election.Slots
import PollAtlas.Proofs.Panel.Session
import PollAtlas.Proofs.Region.Param

/-!
# Listing the elections of a file

The command selects one region, so the outcome of its only request is never outdated
(`Loader.complete_select`), and what it answers depends on that outcome alone
(`electionsAnswer_eq`). A blank region, or a file without a document in it, ends in a failure.
Every document, whatever it holds, ends in one entry for each office of a province: what the
document does not say is filled in by placeholders for the region that was asked for.

* `Refused`: the inputs that have no listing.
* `IsEntry`: what is printed for an office.
* `run_elections`: the answer for every region and every content of the file.
-/

namespace PollAtlas

open PollAtlas.Election (Candidacy Office Resolved Fills placeholder)

/-! ## One request -/

/-- The outcome of the request that a selection starts is taken, if no other selection comes in
between. -/
theorem Panel.Loader.complete_select (l : Loader) {code : Option String} {region : String}
    (h : code.bind Text.content? = some region) :
    ∃ loader ticket, l.select code = (loader, some ticket) ∧ ticket.regionCode = region ∧
      ∀ outcome, loader.complete ticket outcome =
        ⟨l.generation + 1, some region, .ofOutcome outcome⟩ := by
  refine ⟨⟨l.generation + 1, some region, .loading⟩, ⟨l.generation + 1, region⟩, ?_, rfl, ?_⟩
  · rw [select_eq, h]
    rfl
  · intro outcome
    exact congrArg Prod.fst (deliver_of_current (isCurrent_iff.mpr ⟨rfl, rfl⟩) outcome)

namespace Command

/-! ## Files -/

/-- The files of a disk by their bytes. -/
abbrev Disk : Type := String → Option ByteArray

/-- A world with the files of a disk. Only those are read whose bytes are a text in UTF-8. -/
def Disk.world (disk : Disk) (setting? : String → Option String) : World :=
  ⟨setting?, fun path => (disk path).bind String.fromUTF8?⟩

/-- The content of a file is a text that holds a document. -/
def HoldsDocument (content : Option ByteArray) (body : Json) : Prop :=
  ∃ bytes text, content = some bytes ∧ String.fromUTF8? bytes = some text ∧
    Json.read? text = some body

/-- A region and the content of a file that have no listing. -/
inductive Refused (region : String) (content : Option ByteArray) : Prop where
  | blankRegion (h : Text.trim region = "")
  | missing (h : content = none)
  | noText {bytes : ByteArray} (h : content = some bytes) (htext : String.fromUTF8? bytes = none)
  | noDocument {bytes : ByteArray} {text : String} (h : content = some bytes)
      (htext : String.fromUTF8? bytes = some text) (hdocument : Json.read? text = none)

theorem HoldsDocument.unique {content : Option ByteArray} {body other : Json}
    (h : HoldsDocument content body) (h' : HoldsDocument content other) : body = other := by
  obtain ⟨bytes, text, hbytes, htext, hbody⟩ := h
  obtain ⟨bytes', text', hbytes', htext', hother⟩ := h'
  obtain rfl : bytes = bytes' := Option.some.inj (hbytes.symm.trans hbytes')
  obtain rfl : text = text' := Option.some.inj (htext.symm.trans htext')
  exact Option.some.inj (hbody.symm.trans hother)

theorem HoldsDocument.not_refused {region : String} {content : Option ByteArray} {body : Json}
    (h : HoldsDocument content body) (hregion : Text.trim region ≠ "") :
    ¬ Refused region content := by
  obtain ⟨bytes, text, rfl, htext, hbody⟩ := h
  intro hrefused
  cases hrefused with
  | blankRegion h => exact hregion h
  | missing h => cases h
  | noText h hnone =>
    cases h
    cases htext.symm.trans hnone
  | noDocument h htext' hnone =>
    cases h
    obtain rfl := Option.some.inj (htext.symm.trans htext')
    cases hbody.symm.trans hnone

theorem exists_holdsDocument_of_not_refused {region : String} {content : Option ByteArray}
    (h : ¬ Refused region content) : ∃ body, HoldsDocument content body := by
  cases hcontent : content with
  | none => exact absurd (.missing hcontent) h
  | some bytes =>
    cases htext : String.fromUTF8? bytes with
    | none => exact absurd (.noText hcontent htext) h
    | some text =>
      cases hdocument : Json.read? text with
      | none => exact absurd (.noDocument hcontent htext hdocument) h
      | some body => exact ⟨body, bytes, text, rfl, htext, hdocument⟩

section

variable {disk : Disk} {setting? : String → Option String} {path : String}

theorem electionsOfFile_of_holdsDocument {body : Json} (h : HoldsDocument (disk path) body) :
    electionsOfFile (disk.world setting?) path = .ok (Candidacy.ofFeed body) := by
  obtain ⟨bytes, text, hbytes, htext, hdocument⟩ := h
  have hread : (disk.world setting?).read path = .ok text := by
    simp [World.read, Disk.world, hbytes, htext]
  rw [electionsOfFile, hread]
  simp [bind, Except.bind, pure, Except.pure, hdocument]

theorem electionsOfFile_of_refused (setting? : String → Option String) {region : String}
    (hregion : Text.trim region ≠ "") (h : Refused region (disk path)) :
    ∃ failure, electionsOfFile (disk.world setting?) path = .error failure := by
  cases h with
  | blankRegion h => exact absurd h hregion
  | missing h =>
    refine ⟨.file path, ?_⟩
    simp [electionsOfFile, World.read, Disk.world, h, bind, Except.bind]
  | noText h htext =>
    refine ⟨.file path, ?_⟩
    simp [electionsOfFile, World.read, Disk.world, h, htext, bind, Except.bind]
  | noDocument h htext hdocument =>
    refine ⟨.json path, ?_⟩
    simp [electionsOfFile, World.read, Disk.world, h, htext, hdocument, bind, Except.bind]

end

/-! ## The answer -/

theorem electionsAnswer_of_blank (world : World) (base : String) {options : ElectionsOptions}
    (h : Text.trim options.region = "") :
    electionsAnswer world base options = .error .blankRegion := by
  have hnone := Region.Param.normalized_eq_none_iff.mpr h
  simp only [electionsAnswer, hnone, Panel.Loader.select, Option.bind_none]

/-- For a region that is asked for, the answer is the outcome of the request: its elections, or
why they were not loaded. -/
theorem electionsAnswer_eq (world : World) (base : String) {options : ElectionsOptions}
    {code : String} (h : (Region.Param.ofText (some options.region)).normalized = some code) :
    electionsAnswer world base options =
      match loadElections world base code options with
      | .error failure => .error (.elections failure.message)
      | .ok records =>
        .ok (.array ((Election.resolveMetro records
          ⟨code, Region.displayName options.regionName options.region⟩).map listedElection)) := by
  have hcontent : (some code).bind Text.content? = some code :=
    (Region.Param.of_normalized h).1
  obtain ⟨loader, ticket, hselect, hregion, hcomplete⟩ :=
    Panel.Loader.complete_select .empty hcontent
  simp only [electionsAnswer, h, hselect, hregion, hcomplete]
  cases loadElections world base code options with
  | error failure => rfl
  | ok records => rfl

/-! ## The entries -/

/-- What an entry of a listing has under a name. -/
def printed? (name : String) (x : Resolved) : Option Json :=
  match listedElection x with
  | .object members => Json.get? name members
  | _ => none

/-- What is printed for an office: its label, a status that is not blank, and the representative
of the office among the records. Without a record it is a placeholder for the region, which
leads nowhere. -/
structure IsEntry (code name : String) (records : List Candidacy) (office : Office)
    (x : Resolved) : Prop where
  fills : Fills records ⟨code, name⟩ office x
  slot : printed? "slot" x = some (.string office.label)
  label : printed? "office_type" x = some (.string office.label)
  status : ∃ status, printed? "status" x = some (.string status) ∧ Text.trim status ≠ ""
  isPlaceholder : (¬ ∃ r ∈ records, r.IsFor office) →
    printed? "is_placeholder" x = some (.bool true)
  regionCode : (¬ ∃ r ∈ records, r.IsFor office) →
    printed? "region_code" x = some (.string code)
  navigation : (¬ ∃ r ∈ records, r.IsFor office) →
    printed? "navigation_matchup_id" x = some .null

theorem officeType_of_fills {ctx : Election.Context} {records : List Candidacy}
    {office : Office} {x : Resolved} (h : Fills records ctx office x) :
    x.record.officeType = office.label := by
  by_cases hfor : ∃ r ∈ records, r.IsFor office
  · obtain ⟨r, status, _, _, hrecord, _⟩ := h.representative hfor
    rw [hrecord]
  · rw [(h.synthesized hfor).1]
    rfl

theorem isEntry_of_fills {code name : String} {records : List Candidacy} {office : Office}
    {x : Resolved} (h : Fills records ⟨code, name⟩ office x)
    (hcode : (placeholder office ⟨code, name⟩).regionCode = code) :
    IsEntry code name records office x where
  fills := h
  slot := by
    rw [← h.slot_eq]
    rfl
  label := by
    rw [← officeType_of_fills h]
    rfl
  status := by
    obtain ⟨status, hstatus, hblank⟩ := h.status
    refine ⟨status, ?_, hblank⟩
    show some (Json.ofOption x.record.status) = _
    rw [hstatus]
    rfl
  isPlaceholder := fun hnone => by
    show some (Json.bool x.record.isPlaceholder) = _
    rw [(h.synthesized hnone).1]
    rfl
  regionCode := fun hnone => by
    show some (Json.string x.record.regionCode) = _
    rw [(h.synthesized hnone).1, hcode]
  navigation := fun hnone => by
    show some (Json.ofOption x.navigationMatchupId) = _
    rw [(h.synthesized hnone).2]
    rfl

/-! ## The listing -/

/-- What the command answers for a region and the content of a file. -/
structure Answers (options : ElectionsOptions) (content : Option ByteArray)
    (answer : Except Failure Report) : Prop where
  refused : Refused options.region content → ∃ failure, answer = .error failure
  listed : ¬ Refused options.region content →
    ∃ code body entries,
      (Region.Param.ofText (some options.region)).normalized = some code ∧
      HoldsDocument content body ∧
      answer = .ok ⟨none, .array (entries.map listedElection)⟩ ∧
      List.Forall₂
        (IsEntry code (Region.displayName options.regionName options.region)
          (Candidacy.ofFeed body))
        [.metroHead, .metroCouncil, .superintendent] entries

theorem isEntry_resolveMetro {options : ElectionsOptions} {code : String}
    (hcode : (Region.Param.ofText (some options.region)).normalized = some code) (name : String)
    (records : List Candidacy) :
    List.Forall₂ (IsEntry code name records) [.metroHead, .metroCouncil, .superintendent]
      (Election.resolveMetro records ⟨code, name⟩) := by
  have hagain := Region.Param.ofText_of_normalized hcode
  have hregion : ∀ office, (placeholder office ⟨code, name⟩).regionCode = code := fun office => by
    rw [placeholder, hagain]
    rfl
  show List.Forall₂ _ Office.metro _
  rw [Election.resolveMetro, Election.resolve, List.forall₂_map_right_iff, List.forall₂_same]
  intro office hoffice
  exact isEntry_of_fills (Election.fills_shown hoffice ⟨code, name⟩) (hregion office)

theorem electionsAnswer_of_refused {disk : Disk} {setting? : String → Option String}
    {options : ElectionsOptions} {path : String} (hfile : options.file = some path)
    (h : Refused options.region (disk path)) (base : String) :
    ∃ failure, electionsAnswer (disk.world setting?) base options = .error failure := by
  by_cases hblank : Text.trim options.region = ""
  · exact ⟨.blankRegion, electionsAnswer_of_blank _ base hblank⟩
  · obtain ⟨code, hcode⟩ := Region.Param.exists_normalized hblank
    obtain ⟨failure, hfailure⟩ := electionsOfFile_of_refused setting? hblank h
    refine ⟨.elections failure.message, ?_⟩
    rw [electionsAnswer_eq _ base hcode, loadElections, hfile]
    simp only [hfailure]

theorem electionsAnswer_of_holdsDocument {disk : Disk} {setting? : String → Option String}
    {options : ElectionsOptions} {path code : String} {body : Json}
    (hfile : options.file = some path)
    (hcode : (Region.Param.ofText (some options.region)).normalized = some code)
    (h : HoldsDocument (disk path) body) (base : String) :
    electionsAnswer (disk.world setting?) base options =
      .ok (.array ((Election.resolveMetro (Candidacy.ofFeed body)
        ⟨code, Region.displayName options.regionName options.region⟩).map listedElection)) := by
  rw [electionsAnswer_eq _ base hcode, loadElections, hfile]
  simp only [electionsOfFile_of_holdsDocument h]

/-- For every region, with or without a name, and every content of the file, the command fails,
or it lists one entry for each of the three offices of a province. -/
theorem run_elections (disk : Disk) (setting? : String → Option String) (apiBase : Option String)
    (options : ElectionsOptions) (path : String) :
    Answers options (disk path)
      (run (disk.world setting?) ⟨apiBase, .elections { options with file := some path }⟩) := by
  have hrun : run (disk.world setting?) ⟨apiBase, .elections { options with file := some path }⟩ =
      (electionsAnswer (disk.world setting?)
        (Service.setting apiBase (setting? Service.baseVariable) Service.defaultBase)
        { options with file := some path }).map (⟨none, ·⟩) := rfl
  have hfile : ({ options with file := some path } : ElectionsOptions).file = some path := rfl
  rw [hrun]
  refine ⟨fun hrefused => ?_, fun hnot => ?_⟩
  · obtain ⟨failure, hfailure⟩ := electionsAnswer_of_refused hfile hrefused _
    rw [hfailure]
    exact ⟨failure, rfl⟩
  · have hregion : Text.trim options.region ≠ "" := fun h => hnot (.blankRegion h)
    obtain ⟨code, hcode⟩ := Region.Param.exists_normalized hregion
    obtain ⟨body, hbody⟩ := exists_holdsDocument_of_not_refused hnot
    rw [electionsAnswer_of_holdsDocument hfile hcode hbody]
    exact ⟨code, body, _, hcode, hbody, rfl, isEntry_resolveMetro hcode _ _⟩

/-! ## A document without records -/

/-- A file that holds an object, which is no list of records. -/
def objectDisk : Disk := fun _ => some "\x7b\x7d".toUTF8

/-- A province in the form of the map, with blanks around it. -/
def seoulOptions : ElectionsOptions := ⟨" KR-11 ", none, none, none, none⟩

theorem holdsDocument_objectDisk (path : String) :
    HoldsDocument (objectDisk path) (.object []) := by
  have htext : String.fromUTF8? "\x7b\x7d".toUTF8 = some "\x7b\x7d" := by decide +kernel
  exact ⟨_, _, rfl, htext, by rfl⟩

/-- All three entries are placeholders for the province that was asked for. -/
theorem run_elections_objectDisk :
    ∃ x y z, run (objectDisk.world fun _ => none)
        ⟨none, .elections { seoulOptions with file := some "elections.json" }⟩ =
          .ok ⟨none, .array ([x, y, z].map listedElection)⟩ ∧
      ∀ entry ∈ [x, y, z], printed? "region_code" entry = some (.string "11-000") ∧
        printed? "navigation_matchup_id" entry = some .null := by
  have hregion : Text.trim seoulOptions.region ≠ "" := by decide +kernel
  have hdocument := holdsDocument_objectDisk "elections.json"
  obtain ⟨code, body, entries, hcode, hbody, hanswer, hentries⟩ :=
    (run_elections objectDisk (fun _ => none) none seoulOptions "elections.json").listed
      (hdocument.not_refused hregion)
  obtain rfl := hdocument.unique hbody
  have hseoul : (Region.Param.ofText (some " KR-11 ")).normalized = some "11-000" := by
    decide +kernel
  obtain rfl : "11-000" = code := Option.some.inj (hseoul.symm.trans hcode)
  have hnone : ∀ office : Office, ¬ ∃ r ∈ Candidacy.ofFeed (.object []), r.IsFor office :=
    fun office ⟨r, hr, _⟩ => absurd hr List.not_mem_nil
  obtain ⟨x, _, hx, hlater, rfl⟩ := List.forall₂_cons_left_iff.mp hentries
  obtain ⟨y, _, hy, hlast, rfl⟩ := List.forall₂_cons_left_iff.mp hlater
  obtain ⟨z, _, hz, hend, rfl⟩ := List.forall₂_cons_left_iff.mp hlast
  obtain rfl := List.forall₂_nil_left_iff.mp hend
  refine ⟨x, y, z, hanswer, ?_⟩
  simp only [List.forall_mem_cons, List.not_mem_nil, false_imp_iff, implies_true, and_true]
  exact ⟨⟨hx.regionCode (hnone _), hx.navigation (hnone _)⟩,
    ⟨hy.regionCode (hnone _), hy.navigation (hnone _)⟩,
    ⟨hz.regionCode (hnone _), hz.navigation (hnone _)⟩⟩

end Command

end PollAtlas
