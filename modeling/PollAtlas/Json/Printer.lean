import PollAtlas.Json.Value

/-!
# Writing JSON

A value is written without any blank, or over several lines with an indentation of two.

* `Json.compact`, `Json.pretty`: the two texts of a value.
-/

namespace PollAtlas.Json

/-! ## Leaves -/

/-- A double is written with its fewest digits, without an exponent from `1e-5` to below
`1e16`, and a whole one with `.0`. -/
def numberLayout : Layout := ⟨some (-5, 16), true, .toEven⟩

/-- An integer by its digits. What is no finite number is written as `null`. -/
def Number.text : Number → List Char
  | int n => (if n < 0 then ['-'] else []) ++ Nat.toDigits 10 n.natAbs
  | double x => if x.isFinite then x.text numberLayout else ['n', 'u', 'l', 'l']

/-- A character between quotes: quotes, backslashes and control characters are escaped. -/
def escapedChar (c : Char) : List Char :=
  match c with
  | '"' => ['\\', '"']
  | '\\' => ['\\', '\\']
  | '\x08' => ['\\', 'b']
  | '\x0c' => ['\\', 'f']
  | '\n' => ['\\', 'n']
  | '\r' => ['\\', 'r']
  | '\t' => ['\\', 't']
  | _ => if c < ' ' then '\\' :: 'u' :: List.leftpad 4 '0' (Nat.toDigits 16 c.toNat) else [c]

/-- A text between quotes. -/
def quotedText (s : String) : List Char := '"' :: s.toList.flatMap escapedChar ++ ['"']

def boolText (b : Bool) : List Char :=
  if b then ['t', 'r', 'u', 'e'] else ['f', 'a', 'l', 's', 'e']

/-! ## Without blanks -/

mutual

def compactText : Json → List Char
  | null => ['n', 'u', 'l', 'l']
  | bool b => boolText b
  | number x => x.text
  | string s => quotedText s
  | array [] => ['[', ']']
  | array (item :: rest) => '[' :: compactText item ++ compactItems rest ++ [']']
  | object [] => ['\x7b', '\x7d']
  | object ((name, value) :: rest) =>
    '\x7b' :: quotedText name ++ ':' :: compactText value ++ compactMembers rest ++ ['\x7d']

/-- The items after the first, each behind a comma. -/
def compactItems : List Json → List Char
  | [] => []
  | item :: rest => ',' :: compactText item ++ compactItems rest

/-- The members after the first, each behind a comma. -/
def compactMembers : List (String × Json) → List Char
  | [] => []
  | (name, value) :: rest =>
    ',' :: quotedText name ++ ':' :: compactText value ++ compactMembers rest

end

/-- The text of a value without blanks. -/
def compact (value : Json) : String := String.ofList (compactText value)

/-! ## Over several lines -/

/-- A new line at a depth of nesting. -/
def newLine (depth : Nat) : List Char := '\n' :: List.replicate (2 * depth) ' '

mutual

def prettyText (depth : Nat) : Json → List Char
  | null => ['n', 'u', 'l', 'l']
  | bool b => boolText b
  | number x => x.text
  | string s => quotedText s
  | array [] => ['[', ']']
  | array (item :: rest) =>
    '[' :: newLine (depth + 1) ++ prettyText (depth + 1) item ++ prettyItems (depth + 1) rest
      ++ newLine depth ++ [']']
  | object [] => ['\x7b', '\x7d']
  | object ((name, value) :: rest) =>
    '\x7b' :: newLine (depth + 1) ++ quotedText name ++ ':' :: ' ' ::
      prettyText (depth + 1) value ++ prettyMembers (depth + 1) rest ++ newLine depth ++ ['\x7d']

/-- The items after the first, each on a line of its own. -/
def prettyItems (depth : Nat) : List Json → List Char
  | [] => []
  | item :: rest => ',' :: newLine depth ++ prettyText depth item ++ prettyItems depth rest

/-- The members after the first, each on a line of its own. -/
def prettyMembers (depth : Nat) : List (String × Json) → List Char
  | [] => []
  | (name, value) :: rest =>
    ',' :: newLine depth ++ quotedText name ++ ':' :: ' ' :: prettyText depth value
      ++ prettyMembers depth rest

end

/-- The text of a value over several lines. -/
def pretty (value : Json) : String := String.ofList (prettyText 0 value)

end PollAtlas.Json
