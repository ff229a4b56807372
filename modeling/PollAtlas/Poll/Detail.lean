import PollAtlas.Poll.Date
import PollAtlas.Poll.Observation

/-!
# Details of an observation

The lines that are shown for a region: the headline, the figure, the date and what is
known about the survey. Each line has a text for what is missing.

* `Detail.ofObservation`, `Detail.placeholder`: the lines with and without an observation.
* `groupThousands`: a count with commas.
-/

namespace PollAtlas.Poll

/-- Shown in place of a missing value. -/
def missingText : String := "-"

/-- The lines shown for a region. -/
structure Detail where
  title : String
  value : String
  surveyDate : String
  pollster : String
  sample : String
  margin : String
  channels : String
  deriving DecidableEq, Repr

/-- A percentage with one decimal. -/
def percentText : Option Double → String
  | some x => if x.isFinite then String.ofList (x.fixedText 1) ++ "%" else missingText
  | none => missingText

/-- The day of a survey. -/
def dateText (text : Option String) : String :=
  match text.bind Date.ofText? with
  | some date => date.korean
  | none => missingText

/-- Digits with a comma before each group of three, counted from the end. -/
def groupDigits : List Char → List Char
  | [] => []
  | c :: rest =>
    if rest ≠ [] ∧ rest.length % 3 = 0 then c :: ',' :: groupDigits rest
    else c :: groupDigits rest

/-- A count with commas. -/
def groupThousands (n : Nat) : String := String.ofList (groupDigits (Nat.toDigits 10 n))

/-- The number of people asked. -/
def sampleText : Option Nat → String
  | some n => "표본 " ++ groupThousands n ++ "명"
  | none => "표본 정보 없음"

/-- A margin in percentage points. -/
def pointsText (x : Double) : String := "오차 ±" ++ x.plainText ++ "%p"

/-- Shown in place of a missing margin of error. -/
def missingMargin : String := "오차 정보 없음"

/-- The margin of error. A text that is a number is shown like the number. -/
def marginText : Option Margin → String
  | some (.points x) => if x.isFinite then pointsText x else missingMargin
  | some (.text s) =>
    match Text.content? s with
    | none => missingMargin
    | some text =>
      match Double.parse? text.toList with
      | some x => pointsText x
      | none => "오차 " ++ text
  | none => missingMargin

/-- Where a poll was collected from. -/
def channelsText (channels : List String) : String :=
  if channels.isEmpty then missingText else String.intercalate " · " channels

namespace Detail

/-- The lines of an observation. -/
def ofObservation (o : Observation) : Detail where
  title := o.title
  value := percentText o.valueMid
  surveyDate := dateText o.surveyEndDate
  pollster := (o.pollster.bind Text.content?).getD "조사기관 미확인"
  sample := sampleText o.sampleSize
  margin := marginText o.marginOfError
  channels := channelsText o.sourceChannels

/-- The lines of a region without an observation. -/
def placeholder : Detail where
  title := "최신 조사 메타"
  value := missingText
  surveyDate := missingText
  pollster := "조사 데이터 없음"
  sample := "표본 정보: 없음"
  margin := "오차 정보: 없음"
  channels := missingText

/-- The lines of a region. -/
def ofRegion (o : Option Observation) : Detail := (o.map ofObservation).getD placeholder

def toJson (x : Detail) : Json :=
  .object [("title", .string x.title), ("value", .string x.value),
    ("survey_date", .string x.surveyDate), ("pollster", .string x.pollster),
    ("sample", .string x.sample), ("margin", .string x.margin),
    ("channels", .string x.channels)]

end Detail

end PollAtlas.Poll
