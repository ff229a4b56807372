import PollAtlas.Command.Catalog

/-!
# Help

What is shown to somebody who asks for help: how the program or one of its commands is
called, and what its values and options mean.

* `Help.text`: the help on a topic.
-/

namespace PollAtlas.Command

/-- What help is asked for. -/
inductive Topic where
  | program
  | command (name : String)
  deriving DecidableEq, Repr

namespace Help

/-- The name of the program. -/
def programName : String := "poll_map"

/-- What stands for an option's value: its name in capitals. -/
def placeholder (spec : OptionSpec) : String :=
  String.ofList
    ((spec.name.toList.drop 2).map fun c => if c = '-' then '_' else c.toUpper)

/-- An option with its value. -/
def optionUsage (spec : OptionSpec) : String := spec.name ++ " <" ++ placeholder spec ++ ">"

/-- What an option means, and its default. -/
def optionAbout (spec : OptionSpec) : String :=
  match spec.default with
  | none => spec.about
  | some default => spec.about ++ "[default: " ++ default ++ "]"

/-- Lines of two columns, the second one aligned. -/
def columns (rows : List (String × String)) : List String :=
  let width := (rows.map fun row => row.1.length).foldl max 0
  rows.map fun (left, right) =>
    "  " ++ left ++ String.ofList (List.replicate (width - left.length + 2) ' ') ++ right

/-- A heading with rows under it, and an empty line before it; nothing without rows. -/
def block (heading : String) (rows : List (String × String)) : List String :=
  if rows.isEmpty then [] else ["", heading ++ ":"] ++ columns rows

/-- The options with the one that asks for help. -/
def optionRows (options : List OptionSpec) : List (String × String) :=
  (options.map fun spec => ("    " ++ optionUsage spec, optionAbout spec)) ++
    [("-h, --help", "Print help")]

/-- How a command is called. -/
def commandUsage (spec : CommandSpec) : String :=
  String.intercalate " "
    ([programName, spec.name, "[OPTIONS]"] ++
      (spec.options.filter OptionSpec.isRequired).map optionUsage ++
      spec.positionals.map fun positional => "<" ++ positional.1 ++ ">")

def commandLines (spec : CommandSpec) : List String :=
  [spec.about, "", "Usage: " ++ commandUsage spec] ++
    block "Arguments"
      (spec.positionals.map fun positional => ("<" ++ positional.1 ++ ">", positional.2)) ++
    block "Options" (optionRows (apiBase :: spec.options))

def programLines : List String :=
  ["Regional poll map engine", "", "Usage: " ++ programName ++ " [OPTIONS] <COMMAND>"] ++
    block "Commands"
      ((catalog.map fun spec => (spec.name, spec.about)) ++
        [("help", "Print this message or the help of the given subcommand(s)")]) ++
    block "Options" (optionRows [apiBase])

/-- The help on a topic; on an unknown command the help on the program. -/
def text (topic : Topic) : String :=
  let lines :=
    match topic with
    | .program => programLines
    | .command name => ((commandSpec? name).map commandLines).getD programLines
  String.join (lines.map (· ++ "\n"))

end Help

end PollAtlas.Command
