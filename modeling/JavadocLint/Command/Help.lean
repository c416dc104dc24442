import JavadocLint.Command.Flag
import JavadocLint.Report.TagList

/- The commands and their help pages. -/
namespace JavadocLint

inductive Command where
  /-- The program without a command: it checks the paths it is given. -/
  | root
  | completion
  | help
  | init
  | lint
  | tags
  | watch
  deriving DecidableEq, Repr

namespace Command

def program : String := "jdlint"

def name : Command → String
  | .root => program
  | .completion => "completion"
  | .help => "help"
  | .init => "init"
  | .lint => "lint"
  | .tags => "tags"
  | .watch => "watch"

def all : List Command := [.completion, .help, .init, .lint, .tags, .watch]

def named? (t : Text) : Option Command := all.find? fun c => utf8 c.name = t

def summary : Command → String
  | .root => "jdlint - checks the Javadoc tags of Java classes and interfaces"
  | .completion => "Generate the autocompletion script for the specified shell"
  | .help => "Help about any command"
  | .init => "Initialize a new linter configuration file"
  | .lint => "Check the Javadoc tags of the given files and directories"
  | .tags => "Print the required tags and their patterns"
  | .watch => "Re-check .java files as they change"

def description : Command → String
  | .completion =>
    "Generate the autocompletion script for jdlint for the specified shell.\n" ++
      "See each sub-command's help for details on how to use the generated script."
  | .help =>
    "Help provides help for any command in the application.\n" ++
      "Simply type jdlint help [path to command] for full details."
  | c => c.summary

def path : Command → String
  | .root => program
  | c => program ++ " " ++ c.name

def usage? : Command → Option String
  | .root => some "jdlint [paths...] [flags]"
  | .completion => none
  | .help => some "jdlint help [command] [flags]"
  | .lint => some "jdlint lint [paths...] [flags]"
  | .watch => some "jdlint watch [dirs...] [flags]"
  | c => some (c.path ++ " [flags]")

def below : Command → List (String × String)
  | .root => all.map fun c => (c.name, c.summary)
  | .completion => ["bash", "fish", "powershell", "zsh"].map fun shell =>
    (shell, "Generate the autocompletion script for " ++ shell)
  | _ => []

def ownFlags (c : Command) : List Flag :=
  let help := helpFlag c.name
  match c with
  | .root => commonFlags.take 1 ++ help :: commonFlags.drop 1
  | .lint => lintFlags.take 1 ++ help :: lintFlags.drop 1
  | _ => [help]

def inheritedFlags : Command → List Flag
  | .root => []
  | _ => commonFlags

def flags (c : Command) : List Flag := c.ownFlags ++ c.inheritedFlags

def flagLabel (f : Flag) : Text :=
  let letter := match f.letter with
    | some c => utf8 "  -" ++ [byte c] ++ utf8 ", "
    | none => utf8 "      "
  let value := match f.kind with
    | .text _ => " string"
    | .duration _ => " duration"
    | .switch _ => ""
  letter ++ utf8 ("--" ++ f.name ++ value)

def flagList (fs : List Flag) : Text :=
  let width := (fs.map fun f => (flagLabel f).length).foldl max 0
  fs.flatMap fun f =>
    padRight width (flagLabel f) ++ utf8 "   " ++ utf8 f.usage
      ++ utf8 (if f.preset.isEmpty then "" else " (default " ++ f.preset ++ ")") ++ utf8 "\n"

def helpPage (c : Command) : Text :=
  let calls := match c.usage? with
    | some usage => utf8 ("  " ++ usage ++ "\n")
    | none => []
  let more := utf8 ("  " ++ c.path ++ " [command]\n")
  let listed := c.below.flatMap fun (name, summary) =>
    utf8 "  " ++ padRight 11 (utf8 name) ++ utf8 (" " ++ summary ++ "\n")
  let hasBelow := !c.below.isEmpty
  utf8 (c.description ++ "\n\nUsage:\n") ++ calls
    ++ (if hasBelow then more ++ utf8 "\nAvailable Commands:\n" ++ listed else [])
    ++ utf8 "\nFlags:\n" ++ flagList c.ownFlags
    ++ (if c.inheritedFlags.isEmpty then []
      else utf8 "\nGlobal Flags:\n" ++ flagList c.inheritedFlags)
    ++ (if hasBelow then
        utf8 ("\nUse \"" ++ c.path ++ " [command] --help\" for more information about a command.\n")
      else [])

end Command
end JavadocLint
