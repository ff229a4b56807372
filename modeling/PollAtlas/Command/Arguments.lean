import PollAtlas.Command.Help

/-!
# The command line

A command with its options. An option takes one value, as the next argument or behind an
equals sign; only the latter may begin with a dash. After two dashes everything is taken as
it is.

* `Arguments.parse`: the command of a list of arguments.
-/

namespace PollAtlas.Command

/-- What ends the reading of a command line early. -/
inductive Stop where
  | help (topic : Topic)
  | usage (error : UsageError)
  deriving DecidableEq, Repr

/-- A command line. -/
structure Arguments where
  apiBase : Option String
  action : Action
  deriving DecidableEq

/-! ## Single arguments -/

/-- The text begins with a dash and is more than a dash. -/
def looksLikeOption (argument : String) : Bool :=
  match argument.toList with
  | '-' :: _ :: _ => true
  | _ => false

/-- The name and the value of an option that has them in one argument. -/
def cutEquals (argument : String) : String × Option String :=
  match argument.toList.dropWhile (· ≠ '=') with
  | _ :: value =>
    (String.ofList (argument.toList.takeWhile (· ≠ '=')), some (String.ofList value))
  | [] => (argument, none)

/-- The argument asks for help. -/
def isHelp (argument : String) : Bool := argument == "--help" || argument == "-h"

/-- The command that asks for help on another one. -/
def helpCommand : String := "help"

/-- The help that is asked for by naming commands. -/
def helpOn : List String → Stop
  | [] => .help .program
  | [name] =>
    if name = helpCommand ∨ (commandSpec? name).isSome then .help (.command name)
    else .usage (.unknownCommand name)
  | name :: next :: _ =>
    if name = helpCommand ∨ (commandSpec? name).isSome then .usage (.unknownCommand next)
    else .usage (.unknownCommand name)

/-! ## Reading -/

/-- Reads the arguments of a command. -/
def readCommand (spec : CommandSpec) : Given → List String → Except Stop Given
  | given, [] => .ok given
  | given, argument :: rest =>
    let most := spec.positionals.length
    if argument = "--" then
      (rest.foldlM (Given.addPositional most) given).mapError .usage
    else if isHelp argument then .error (.help (.command spec.name))
    else if looksLikeOption argument then
      let (name, value) := cutEquals argument
      match (apiBase :: spec.options).find? (·.name == name), value, rest with
      | none, _, _ => .error (.usage (.unexpected argument))
      | some option, some value, rest => do
        readCommand spec (← (given.addOption option value).mapError .usage) rest
      | some _, none, [] => .error (.usage (.missingValue name))
      | some option, none, value :: rest =>
        if looksLikeOption value then .error (.usage (.missingValue name))
        else do readCommand spec (← (given.addOption option value).mapError .usage) rest
    else do readCommand spec (← (given.addPositional most argument).mapError .usage) rest

namespace Arguments

/-- The command line after the base, if it was given before the command. -/
def parseFrom (base : Option String) : List String → Except Stop Arguments
  | [] => .error (.usage .noCommand)
  | argument :: rest =>
    if isHelp argument then .error (.help .program)
    else if argument = helpCommand then .error (helpOn rest)
    else if looksLikeOption argument then
      let (name, value) := cutEquals argument
      if name ≠ Command.apiBase.name then .error (.usage (.unexpected argument))
      else if base.isSome then .error (.usage (.repeated name))
      else
        match value, rest with
        | some value, rest => parseFrom (some value) rest
        | none, [] => .error (.usage (.missingValue name))
        | none, value :: rest =>
          if looksLikeOption value then .error (.usage (.missingValue name))
          else parseFrom (some value) rest
    else
      match commandSpec? argument with
      | none => .error (.usage (.unknownCommand argument))
      | some spec => do
        let given ← readCommand spec .empty rest
        let action ← (spec.build given).mapError .usage
        return ⟨(given.value? Command.apiBase).or base, action⟩

/-- The command line of a list of arguments. -/
def parse (arguments : List String) : Except Stop Arguments := parseFrom none arguments

end Arguments

end PollAtlas.Command
