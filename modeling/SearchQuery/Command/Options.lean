/-!
# Options

Arguments that begin with a hyphen are options.  A long option has two hyphens, and its value
follows behind an equals sign or as the next argument; options of one letter can be written
together.  Two hyphens alone end the options, and a hyphen alone is none.
-/

namespace SearchQuery.Command

/-- An option that a command knows. -/
structure OptionSpec where
  /-- The long form, with its hyphens. -/
  long : String
  /-- The letter of the short form. -/
  short : Option Char
  /-- Whether a value follows. -/
  takesValue : Bool
  deriving DecidableEq, Repr

/-- An option that was given. -/
structure GivenOption where
  /-- The long form. -/
  name : String
  /-- The value, empty for an option without one. -/
  value : String
  deriving DecidableEq, Repr

/-- What is wrong with the options. -/
inductive OptionError where
  /-- There is no such option. -/
  | unknown (name : String) (known : List String)
  /-- The option has a value but takes none. -/
  | takesNoValue (name : String)
  /-- The option has no value but needs one. -/
  | needsValue (name : String)
  deriving DecidableEq, Repr

/-- The options and the other arguments of a command. -/
structure Arguments where
  /-- The options, in order. -/
  options : List GivenOption
  /-- The other arguments, in order. -/
  others : List String
  deriving DecidableEq, Repr

namespace Arguments

/-- The arguments with an option in front. -/
def withOption (arguments : Arguments) (option : GivenOption) : Arguments :=
  { arguments with options := option :: arguments.options }

/-- The arguments with an argument that is no option in front. -/
def withOther (arguments : Arguments) (other : String) : Arguments :=
  { arguments with others := other :: arguments.others }

/-- Whether an option was given. -/
def has (arguments : Arguments) (name : String) : Bool := arguments.options.any (·.name == name)

/-- The value of an option, the last one if it was given several times. -/
def value? (arguments : Arguments) (name : String) : Option String :=
  (arguments.options.reverse.find? (·.name == name)).map (·.value)

end Arguments

/-- Whether an argument is an option. -/
def isOption (argument : String) : Bool :=
  match argument.toList with
  | '-' :: _ :: _ => true
  | _ => false

/-- The parts of an argument in front of and behind its first equals sign. -/
def splitValue (argument : String) : String × Option String :=
  let name := argument.toList.takeWhile (· != '=')
  match argument.toList.dropWhile (· != '=') with
  | _ :: value => (String.ofList name, some (String.ofList value))
  | [] => (argument, none)

/-- The short forms behind one hyphen as options. -/
def shortOptions (specs : List OptionSpec) : List Char → Except OptionError (List GivenOption)
  | [] => .ok []
  | letter :: letters =>
      match specs.find? (·.short == some letter) with
      | none => .error (.unknown (String.ofList ['-', letter]) [])
      | some spec => (shortOptions specs letters).map (⟨spec.long, ""⟩ :: ·)

/-- Reads arguments.  Where options may not stand between other arguments, the first of these ends
the options. -/
def readArguments (specs : List OptionSpec) (interspersed : Bool) :
    List String → Except OptionError Arguments
  | [] => .ok ⟨[], []⟩
  | argument :: rest =>
      if argument = "--" then .ok ⟨[], rest⟩
      else if ¬ isOption argument then
        if interspersed then (readArguments specs interspersed rest).map (·.withOther argument)
        else .ok ⟨[], argument :: rest⟩
      else
        let (name, value) := splitValue argument
        match specs.find? (·.long == name) with
        | some spec =>
            match spec.takesValue, value, rest with
            | false, some _, _ => .error (.takesNoValue name)
            | false, none, rest =>
                (readArguments specs interspersed rest).map (·.withOption ⟨name, ""⟩)
            | true, some value, rest =>
                (readArguments specs interspersed rest).map (·.withOption ⟨name, value⟩)
            | true, none, [] => .error (.needsValue name)
            | true, none, value :: rest =>
                (readArguments specs interspersed rest).map (·.withOption ⟨name, value⟩)
        | none =>
            if argument.startsWith "--" then
              .error (.unknown name (specs.map (·.long)))
            else do
              let short ← shortOptions specs (argument.toList.drop 1)
              let arguments ← readArguments specs interspersed rest
              return { arguments with options := short ++ arguments.options }

end SearchQuery.Command
