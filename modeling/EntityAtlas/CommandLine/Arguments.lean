/-!
# Arguments of a command line

Arguments are options and positional ones. An option begins with a dash; it may take a value, which
is the next argument or is attached to it. Single letters after one dash may stand together, and two
dashes alone end the options.
-/

namespace EntityAtlas.CommandLine

/-- An option that a command knows. -/
structure OptionSpec where
  /-- How the option is written, in all its spellings. -/
  spellings : List String
  /-- Whether it takes a value. -/
  takesValue : Bool
  deriving DecidableEq, Repr

/-- The name of an option: its first spelling. -/
def OptionSpec.name (o : OptionSpec) : String := o.spellings.headD ""

/-- The arguments of a command, as far as their form goes. -/
structure Arguments where
  /-- The options by name, with their values; an option without a value has an empty one. -/
  options : List (String × String)
  /-- The positional arguments. -/
  positional : List String
  deriving DecidableEq, Repr

namespace Arguments

/-- No arguments. -/
def empty : Arguments := ⟨[], []⟩

/-- Adds a positional argument in front. -/
def withPositional (value : String) (a : Arguments) : Arguments :=
  { a with positional := value :: a.positional }

/-- The value of an option that was given, the last one counting. -/
def value? (name : String) (a : Arguments) : Option String :=
  ((a.options.filter (·.1 = name)).getLast?).map (·.2)

/-- Whether an option was given. -/
def has (name : String) (a : Arguments) : Bool := (a.value? name).isSome

/-- The option that is written in a way. -/
def spec? (specs : List OptionSpec) (spelling : String) : Option OptionSpec :=
  specs.find? (·.spellings.contains spelling)

/-- Options that were read, and the arguments that are left; nothing if the form is wrong. -/
abbrev Taken := Option (List (String × String) × List String)

/-- Reads an option written in full, whose value may be attached by an equals sign. -/
def takeLong (specs : List OptionSpec) (argument : String) (rest : List String) : Taken :=
  let cs := argument.toList
  let spelling := String.ofList (cs.takeWhile (· ≠ '='))
  let attached := (cs.dropWhile (· ≠ '=')).tail?.map String.ofList
  match spec? specs spelling with
  | none => none
  | some o =>
    if o.takesValue then
      match attached, rest with
      | some value, _ => some ([(o.name, value)], rest)
      | none, value :: rest => some ([(o.name, value)], rest)
      | none, [] => none
    else if attached.isSome then none
    else some ([(o.name, "")], rest)

/-- Reads options written as letters after one dash. -/
def takeShort (specs : List OptionSpec) : List Char → List String → Taken
  | [], rest => some ([], rest)
  | c :: more, rest =>
    match spec? specs (String.ofList ['-', c]) with
    | none => none
    | some o =>
      if o.takesValue then
        match more, rest with
        | [], [] => none
        | [], value :: rest => some ([(o.name, value)], rest)
        | _, _ => some ([(o.name, String.ofList more)], rest)
      else do
        let (options, rest) ← takeShort specs more rest
        return ((o.name, "") :: options, rest)

/-- Reads the options at the beginning of the arguments. -/
def take (specs : List OptionSpec) (argument : String) (rest : List String) : Taken :=
  if argument.startsWith "--" then takeLong specs argument rest
  else takeShort specs (argument.toList.drop 1) rest

/-- Whether an argument is an option. -/
def isOption (argument : String) : Bool := argument.startsWith "-" && argument ≠ "-"

/-- Reads arguments, of which at most `fuel` are options. Unless options may follow positional
arguments, the first positional one ends the options. -/
def scan (specs : List OptionSpec) (mixed : Bool) : Nat → List String → Option Arguments
  | _, [] => some empty
  | 0, rest => some ⟨[], rest⟩
  | fuel + 1, argument :: rest =>
    if argument = "--" then some ⟨[], rest⟩
    else if isOption argument then do
      let (options, rest) ← take specs argument rest
      let a ← scan specs mixed fuel rest
      return { a with options := options ++ a.options }
    else if mixed then (scan specs mixed fuel rest).map (withPositional argument)
    else some ⟨[], argument :: rest⟩

/-- Reads the arguments of a command. -/
def read (specs : List OptionSpec) (mixed : Bool) (arguments : List String) : Option Arguments :=
  scan specs mixed arguments.length arguments

end Arguments

end EntityAtlas.CommandLine
