import Gamecard.Card.PartitionKind

/-!
# Arguments

A command line names one of three commands.  The options may stand before or
after the name of the command, but each only once in each place; the one after
the name counts.  Anything else is refused as a whole.
-/

namespace Gamecard

inductive Command where
  | keys
  | info (image : String)
  | extract (image : String) (partition : PartitionKind) (directory : String)
deriving DecidableEq

structure Options where
  isDev : Bool
  keys : Option String
  titleKeys : Option String
deriving DecidableEq

structure Invocation where
  options : Options
  command : Command
deriving DecidableEq

namespace Options

def none : Options := ⟨false, Option.none, Option.none⟩

/-- The options with the mark for development keys, which must be new. -/
def withDev? (options : Options) : Option Options :=
  if options.isDev then Option.none else some { options with isDev := true }

/-- The options with a file of keys, which must be new and have a name. -/
def withKeys? (options : Options) (path : String) : Option Options :=
  if options.keys.isSome || path.isEmpty then Option.none
  else some { options with keys := some path }

def withTitleKeys? (options : Options) (path : String) : Option Options :=
  if options.titleKeys.isSome || path.isEmpty then Option.none
  else some { options with titleKeys := some path }

/-- The options before the name of the command together with those after it. -/
def join (before after : Options) : Options :=
  ⟨before.isDev || after.isDev, after.keys.or before.keys,
    after.titleKeys.or before.titleKeys⟩

end Options

namespace Arguments

inductive Form where
  | value (text : String)
  /-- The mark behind which everything is a plain value. -/
  | separator
  | dev
  /-- An option with its value, if the value is attached. -/
  | file (set : Options → String → Option Options) (attached : Option String)
  | unknown

def after? (beginning argument : String) : Option String :=
  if argument.startsWith beginning then
    some (argument.drop beginning.length).toString
  else none

def isOption (argument : String) : Bool :=
  argument.startsWith "-" && argument != "-"

def optionForm (argument : String) : Form :=
  if argument = "--dev" then .dev
  else if argument = "--keys" then .file Options.withKeys? none
  else if argument = "--titlekeys" then .file Options.withTitleKeys? none
  else if argument = "-k" then .file Options.withKeys? none
  else
    match after? "--keys=" argument, after? "--titlekeys=" argument with
    | some value, _ => .file Options.withKeys? (some value)
    | _, some value => .file Options.withTitleKeys? (some value)
    | none, none =>
      match after? "-k=" argument, after? "-k" argument with
      | some value, _ => .file Options.withKeys? (some value)
      | _, some value => .file Options.withKeys? (some value)
      | none, none => .unknown

def form (argument : String) : Form :=
  if argument = "--" then .separator
  else if isOption argument then optionForm argument
  else .value argument

def scan (options : Options) : List String → Option (Options × List String)
  | [] => some (options, [])
  | argument :: rest =>
    match form argument with
    | .separator => some (options, rest)
    | .unknown => none
    | .value text => (scan options rest).map fun (options, values) => (options, text :: values)
    | .dev => options.withDev?.bind (scan · rest)
    | .file set (some value) => (set options value).bind (scan · rest)
    | .file set none =>
      match rest with
      | [] => none
      | value :: rest =>
        if isOption value then none else (set options value).bind (scan · rest)

/-- The options ahead of the first plain value, that value, and what follows. -/
def scanToCommand (options : Options) : List String → Option (Options × String × List String)
  | [] => none
  | argument :: rest =>
    match form argument with
    | .separator => none
    | .unknown => none
    | .value text => some (options, text, rest)
    | .dev => options.withDev?.bind (scanToCommand · rest)
    | .file set (some value) => (set options value).bind (scanToCommand · rest)
    | .file set none =>
      match rest with
      | [] => none
      | value :: rest =>
        if isOption value then none else (set options value).bind (scanToCommand · rest)

def command? (name : String) (values : List String) : Option Command :=
  match name, values with
  | "keys", [] => some .keys
  | "info", [image] => if image.isEmpty then none else some (.info image)
  | "extract", [image, partition, directory] => do
    let partition ← PartitionKind.ofName? partition
    if image.isEmpty || directory.isEmpty then none
    else some (.extract image partition directory)
  | _, _ => none

def read? (arguments : List String) : Option Invocation := do
  let (before, name, rest) ← scanToCommand .none arguments
  let (after, values) ← scan .none rest
  let command ← command? name values
  some ⟨before.join after, command⟩

end Arguments

end Gamecard
