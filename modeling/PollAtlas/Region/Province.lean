import PollAtlas.Region.Code

/-!
# Provinces

The seventeen provinces with their official and their short names, in administrative
order.
-/

namespace PollAtlas.Region

/-- A province: its two digits and its names. -/
structure Province where
  digits : String
  name : String
  shortName : String
  deriving DecidableEq, Repr

/-- All provinces, in administrative order. -/
def provinces : List Province :=
  [⟨"11", "서울특별시", "서울"⟩, ⟨"26", "부산광역시", "부산"⟩, ⟨"27", "대구광역시", "대구"⟩,
    ⟨"28", "인천광역시", "인천"⟩, ⟨"29", "광주광역시", "광주"⟩, ⟨"30", "대전광역시", "대전"⟩,
    ⟨"31", "울산광역시", "울산"⟩, ⟨"36", "세종특별자치시", "세종"⟩, ⟨"41", "경기도", "경기"⟩,
    ⟨"42", "강원특별자치도", "강원"⟩, ⟨"43", "충청북도", "충북"⟩, ⟨"44", "충청남도", "충남"⟩,
    ⟨"45", "전북특별자치도", "전북"⟩, ⟨"46", "전라남도", "전남"⟩, ⟨"47", "경상북도", "경북"⟩,
    ⟨"48", "경상남도", "경남"⟩, ⟨"50", "제주특별자치도", "제주"⟩]

/-- The digits of Sejong, a city that is a province of its own. -/
def sejongDigits : String := "36"

def province? (digits : String) : Option Province := provinces.find? (·.digits == digits)

/-- The official name of a province. -/
def provinceName? (digits : String) : Option String := (province? digits).map Province.name

/-- The short name of a province. -/
def provinceShortName? (digits : String) : Option String :=
  (province? digits).map Province.shortName

/-- The official name of the province that a code of any form names. -/
def provinceNameOfCode? (code : String) : Option String :=
  (provinceDigits? code).bind provinceName?

/-- The name to show for a region: the given one, or the name of its province. -/
def displayName (given : Option String) (region : String) : String :=
  (given.or (provinceNameOfCode? region)).getD ""

end PollAtlas.Region
