import JavadocLint.Command.Duration
import JavadocLint.Config.Basic

/- Flags of the command line. A flag has a long name and perhaps a letter; it sets one of the
   options, and flags and other arguments may stand in any order. -/
namespace JavadocLint.Command

structure Options where
  config : Text := Config.defaultPath
  /-- How long a run may take, in nanoseconds. -/
  timeout : Int := 300000000000
  verbose : Bool := false
  ignoredRules : Text := []
  ignoredPaths : Text := []
  json : Bool := false
  output : Text := []
  cacheDir : Text := []
  help : Bool := false
  deriving DecidableEq, Repr

/-- What a flag takes: a switch may stand alone, the others need a value. -/
inductive FlagKind where
  | text (set : Text → Options → Options)
  | duration (set : Int → Options → Options)
  | switch (set : Bool → Options → Options)

structure Flag where
  name : String
  letter : Option Char := none
  kind : FlagKind
  usage : String
  /-- The value without the flag, as help pages show it. -/
  preset : String := ""

namespace Flag

def isSwitch (f : Flag) : Bool :=
  match f.kind with
  | .switch _ => true
  | _ => false

def truth? (t : Text) : Option Bool :=
  if ["1", "t", "T", "TRUE", "true", "True"].any (fun w => utf8 w = t) then some true
  else if ["0", "f", "F", "FALSE", "false", "False"].any (fun w => utf8 w = t) then some false
  else none

def assign? (f : Flag) (value : Text) (o : Options) : Option Options :=
  match f.kind with
  | .text set => some (set value o)
  | .duration set => (Duration.parse? value).map fun n => set n o
  | .switch set => (truth? value).map fun b => set b o

def named? (flags : List Flag) (name : Text) : Option Flag :=
  flags.find? fun f => utf8 f.name = name

def lettered? (flags : List Flag) (letter : UInt8) : Option Flag :=
  flags.find? fun f => f.letter.any fun c => byte c = letter

def parseLong (flags : List Flag) (arg : Text) (rest : List Text) (o : Options) :
    Option (Options × List Text) := do
  let (name, given) := match Text.cut? (utf8 "=") arg with
    | some (name, value) => (name, some value)
    | none => (arg, none)
  let f ← named? flags name
  match given, rest with
  | some value, _ => return (← f.assign? value o, rest)
  | none, value :: others =>
    if f.isSwitch then return (← f.assign? (utf8 "true") o, rest)
    else return (← f.assign? value o, others)
  | none, [] => if f.isSwitch then return (← f.assign? (utf8 "true") o, []) else none

/-- Letters behind one dash; the first that needs a value takes what follows it. -/
def parseLetters (flags : List Flag) (rest : List Text) :
    Text → Options → Option (Options × List Text)
  | [], o => some (o, rest)
  | letter :: more, o => do
    let f ← lettered? flags letter
    match more with
    | mark :: first :: others =>
      if mark = byte '=' then return (← f.assign? (first :: others) o, rest)
      else if f.isSwitch then parseLetters flags rest more (← f.assign? (utf8 "true") o)
      else return (← f.assign? more o, rest)
    | _ =>
      if f.isSwitch then parseLetters flags rest more (← f.assign? (utf8 "true") o)
      else if !more.isEmpty then return (← f.assign? more o, rest)
      else match rest with
        | value :: others => return (← f.assign? value o, others)
        | [] => none

def parseFrom (flags : List Flag) : Nat → List Text → Options → Option (Options × List Text)
  | _, [], o => some (o, [])
  | 0, _ :: _, _ => none
  | fuel + 1, arg :: rest, o => do
    match arg with
    | dash :: next :: more =>
      if dash ≠ byte '-' then
        let (o, others) ← parseFrom flags fuel rest o
        return (o, arg :: others)
      else if next = byte '-' then
        if more.isEmpty then return (o, rest)
        else
          let (o, rest) ← parseLong flags more rest o
          parseFrom flags fuel rest o
      else
        let (o, rest) ← parseLetters flags rest (next :: more) o
        parseFrom flags fuel rest o
    | _ =>
      let (o, others) ← parseFrom flags fuel rest o
      return (o, arg :: others)

/-- The options that arguments set and the arguments that are no flags. Two dashes end the flags. -/
def parse (flags : List Flag) (args : List Text) (o : Options) : Option (Options × List Text) :=
  parseFrom flags args.length args o

end Flag

def commonFlags : List Flag :=
  [{ name := "config", letter := some 'c', usage := "Path to the linter configuration file"
     kind := .text fun v o => { o with config := v }, preset := "\".jdlint.yaml\"" },
   { name := "timeout", usage := "Set a timeout for the linter"
     kind := .duration fun v o => { o with timeout := v }, preset := "5m0s" },
   { name := "verbose", letter := some 'v', usage := "Enable verbose logging"
     kind := .switch fun v o => { o with verbose := v } }]

def lintFlags : List Flag :=
  [{ name := "cache-dir", usage := "Directory for cached results of unchanged files"
     kind := .text fun v o => { o with cacheDir := v } },
   { name := "ignore", usage := "Comma-separated list of lint rules to ignore"
     kind := .text fun v o => { o with ignoredRules := v } },
   { name := "ignore-paths", usage := "Comma-separated list of paths to ignore"
     kind := .text fun v o => { o with ignoredPaths := v } },
   { name := "json", usage := "Output issues in JSON format"
     kind := .switch fun v o => { o with json := v } },
   { name := "output", letter := some 'o', usage := "Output path (when using JSON)"
     kind := .text fun v o => { o with output := v } }]

def helpFlag (command : String) : Flag :=
  { name := "help", letter := some 'h', usage := "help for " ++ command
    kind := .switch fun v o => { o with help := v } }

end JavadocLint.Command
