import PollAtlas.Number.Text

/-!
# Options

An option has a name and one value, which has to be of the option's kind. Some options have
a default, and some have to be given.

* `Given`: the values of one command line.
* `Given.addOption`, `Given.addPositional`: one more value, or why it is refused.
-/

namespace PollAtlas.Command

/-- Why a command line is refused. -/
inductive UsageError where
  | noCommand
  | unknownCommand (name : String)
  | unexpected (argument : String)
  | missingValue (option : String)
  | invalidValue (option value : String)
  | repeated (option : String)
  | missing (name : String)
  deriving DecidableEq, Repr

/-- The wording of an error. -/
def UsageError.message : UsageError → String
  | noCommand => "a command is required"
  | unknownCommand name => "unrecognized command '" ++ name ++ "'"
  | unexpected argument => "unexpected argument '" ++ argument ++ "'"
  | missingValue option => "a value is required for '" ++ option ++ "'"
  | invalidValue option value => "invalid value '" ++ value ++ "' for '" ++ option ++ "'"
  | repeated option => "'" ++ option ++ "' cannot be used multiple times"
  | missing name => "missing '" ++ name ++ "'"

/-! ## Values -/

/-- What an option's value has to be. -/
inductive ValueKind where
  | text
  /-- A name of a file, which is not empty. -/
  | file
  | number
  /-- A count of 32 bits. -/
  | count
  deriving DecidableEq, Repr

/-- The count that a text stands for. -/
def count? (value : String) : Option Nat :=
  match signedOfDigits? value.toList with
  | some n => if 0 ≤ n ∧ n ≤ 0xffffffff then some n.toNat else none
  | none => none

/-- The number that a text stands for. -/
def number? (value : String) : Option Double := Double.parse? value.toList

/-- A text is a value of a kind. -/
def ValueKind.accepts : ValueKind → String → Bool
  | text, _ => true
  | file, value => value ≠ ""
  | number, value => (number? value).isSome
  | count, value => (count? value).isSome

/-- An option. -/
structure OptionSpec where
  /-- The name with its dashes. -/
  name : String
  kind : ValueKind
  about : String
  default : Option String
  isRequired : Bool
  deriving DecidableEq, Repr

/-- An option that may be left out. -/
def optional (name : String) (kind : ValueKind) (about : String) : OptionSpec :=
  ⟨name, kind, about, none, false⟩

/-- An option that has to be given. -/
def mandatory (name : String) (kind : ValueKind) (about : String) : OptionSpec :=
  ⟨name, kind, about, none, true⟩

/-- An option with a default. -/
def defaulted (name : String) (kind : ValueKind) (default : String) : OptionSpec :=
  ⟨name, kind, "", some default, false⟩

/-! ## The values of a command line -/

/-- The values that were given, by the names of their options and in order. -/
structure Given where
  options : List (String × String)
  positionals : List String
  deriving DecidableEq, Repr

namespace Given

def empty : Given := ⟨[], []⟩

/-- The value that was given for an option. -/
def value? (given : Given) (spec : OptionSpec) : Option String :=
  given.options.lookup spec.name

/-- One more option. -/
def addOption (given : Given) (spec : OptionSpec) (value : String) :
    Except UsageError Given :=
  if !spec.kind.accepts value then .error (.invalidValue spec.name value)
  else if (given.value? spec).isSome then .error (.repeated spec.name)
  else .ok { given with options := given.options ++ [(spec.name, value)] }

/-- One more value without a name, of which there may be at most `most`. -/
def addPositional (most : Nat) (given : Given) (value : String) : Except UsageError Given :=
  if given.positionals.length < most then
    .ok { given with positionals := given.positionals ++ [value] }
  else .error (.unexpected value)

/-- The value of an option that has to be given. -/
def required (given : Given) (spec : OptionSpec) : Except UsageError String :=
  match given.value? spec with
  | some value => .ok value
  | none => .error (.missing spec.name)

/-- The number of an option, or of its default. -/
def numberOf (given : Given) (spec : OptionSpec) : Double :=
  (((given.value? spec).or spec.default).bind number?).getD .zero

/-- The count of an option, if it was given. -/
def countOf? (given : Given) (spec : OptionSpec) : Option Nat := (given.value? spec).bind count?

end Given

end PollAtlas.Command
