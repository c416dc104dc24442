import JavadocLint.Command.Help

/- Which command a command line calls, and with what. -/
namespace JavadocLint.Command

structure Call where
  command : Command
  options : Options
  args : List Text
  deriving DecidableEq, Repr

def Call.files (c : Call) : List Text :=
  [if c.options.config.isEmpty then Config.defaultPath else c.options.config, c.options.output,
    Path.join c.options.cacheDir Cache.fileName]

def Call.paths (c : Call) : List Text :=
  match c.command with
  | .root | .lint => c.args
  | .watch => if c.args.isEmpty then [utf8 "."] else c.args
  | _ => []

def beginsWith (start t : Text) : Bool := start.isPrefixOf t

def isFlagLike (arg : Text) : Bool :=
  match arg with
  | dash :: second :: more =>
    dash = byte '-' && (second ≠ byte '-' || !more.isEmpty)
  | _ => false

/-- Whether the argument after this one is taken for the value of a flag while the command is
    looked for; `none` when that depends on the argument before. -/
def takesValue? (arg : Text) : Option Bool :=
  let isLone := !arg.contains (byte '=')
  if beginsWith (utf8 "--") arg && isLone then
    some (!(Flag.named? commonFlags (arg.drop 2)).any Flag.isSwitch)
  else match arg with
    | [dash, letter] =>
      if dash = byte '-' && isLone && !(Flag.lettered? commonFlags letter).any Flag.isSwitch then
        some true
      else none
    | _ => none

/-- The command that is named first among the arguments, with those before and after it. An argument
    that may be the value of a flag names no command. -/
def split? : Bool → List Text → List Text → Option (Command × List Text × List Text)
  | _, _, [] => none
  | inValue, before, arg :: rest =>
    match takesValue? arg with
    | some takes => split? takes (before ++ [arg]) rest
    | none =>
      if inValue then split? false (before ++ [arg]) rest
      else if isFlagLike arg then split? false (before ++ [arg]) rest
      else (named? arg).map fun c => (c, before, rest)

/-- The call that arguments make, unless a flag is wrong. Flags may stand before the command if
    every command has them. -/
def call? (args : List Text) : Option Call := do
  match split? false [] args with
  | none =>
    let (options, args) ← Flag.parse Command.root.flags args {}
    return ⟨.root, options, args⟩
  | some (c, before, rest) =>
    let (options, _) ← Flag.parse commonFlags before {}
    let (options, args) ← Flag.parse c.flags rest options
    return ⟨c, options, args⟩

end JavadocLint.Command
