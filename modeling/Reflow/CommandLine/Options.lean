import Reflow.Text.Case

/-!
# Options of a command

An option is a long name after two hyphens, or one letter after one hyphen. A long option with a
value takes it after an equals sign or from the next argument, whatever that is. Short options are
flags and may be written together. Two hyphens alone end the options.

* `Arguments.read` tells options and operands apart.
-/

namespace Reflow

/-- Why a command line cannot be run. -/
inductive UsageError where
  | unknownOption (name : String)
  | valueMissing (name : String)
  | valueRefused (name : String)
  | badValue (name : String) (value : String)
  | optionMissing (name : String)
  | operandMissing (name : String)
  | operandExtra
  | commandMissing
  | unknownCommand (name : String)
  | noFile (path : String)
  | badPath
deriving DecidableEq, Repr

/-- The message of an error. -/
def UsageError.message : UsageError → String
  | unknownOption name => "No such option: " ++ name
  | valueMissing name => "Option '" ++ name ++ "' requires an argument."
  | valueRefused name => "Option '" ++ name ++ "' does not take a value."
  | badValue name value => "Invalid value for '" ++ name ++ "': " ++ value
  | optionMissing name => "Missing option '" ++ name ++ "'."
  | operandMissing name => "Missing argument '" ++ name ++ "'."
  | operandExtra => "Got an unexpected extra argument."
  | commandMissing => "Missing command."
  | unknownCommand name => "No such command '" ++ name ++ "'."
  | noFile path => "File '" ++ path ++ "' does not exist or cannot be read."
  | badPath => "embedded null byte"

/-- Whether an error is reported by its message alone, without the usage of the command: those that
say how an option and its value were written. -/
def UsageError.standsAlone : UsageError → Bool
  | valueMissing _ | valueRefused _ => true
  | _ => false

/-- An option that a command knows. -/
structure OptionSpec where
  name : String
  letter : Option Char
  takesValue : Bool
deriving DecidableEq, Repr

/-- The options that were given, by name and in order, and the other arguments. -/
structure Arguments where
  options : List (String × Option String)
  operands : List String
deriving DecidableEq, Repr

namespace Arguments

/-- Whether an argument is an option. -/
def isOption (arg : String) : Bool := arg.startsWith "-" && arg.length > 1

/-- A long option and the value after its equals sign. -/
def splitValue (arg : String) : String × Option String :=
  let name := String.ofList (arg.toList.takeWhile (· != '='))
  match arg.toList.dropWhile (· != '=') with
  | _ :: value => (name, some (String.ofList value))
  | [] => (name, none)

/-- The flags that the letters stand for. -/
def flags (specs : List OptionSpec) (letters : List Char) :
    Except UsageError (List (String × Option String)) :=
  letters.mapM fun letter =>
    match specs.find? (·.letter = some letter) with
    | some spec => .ok (spec.name, none)
    | none => .error (.unknownOption (String.ofList ['-', letter]))

/-- The arguments with more options in front. -/
def prepend (given : List (String × Option String)) (a : Arguments) : Arguments :=
  { a with options := given ++ a.options }

/-- Tells options and operands apart. If `mixed` is false, the first operand ends the options. -/
def read (specs : List OptionSpec) (mixed : Bool) (args : List String) :
    Except UsageError Arguments :=
  match args with
  | [] => .ok ⟨[], []⟩
  | arg :: rest =>
    if arg = "--" then .ok ⟨[], rest⟩
    else if !isOption arg then
      if mixed then (read specs mixed rest).map fun a => { a with operands := arg :: a.operands }
      else .ok ⟨[], arg :: rest⟩
    else
      let (name, value?) := splitValue arg
      match specs.find? (·.name = name) with
      | some spec =>
        match spec.takesValue, value? with
        | false, none => (read specs mixed rest).map (prepend [(name, none)])
        | false, some _ => .error (.valueRefused name)
        | true, some value => (read specs mixed rest).map (prepend [(name, some value)])
        | true, none =>
          match rest with
          | value :: rest => (read specs mixed rest).map (prepend [(name, some value)])
          | [] => .error (.valueMissing name)
      | none =>
        if arg.startsWith "--" then .error (.unknownOption name)
        else do
          let given ← flags specs (arg.toList.drop 1)
          (read specs mixed rest).map (prepend given)

/-- Whether a flag was given. -/
def flag (a : Arguments) (name : String) : Bool := a.options.any (·.1 = name)

/-- The values of an option, in order. -/
def values (a : Arguments) (name : String) : List String :=
  a.options.filterMap fun (n, value) => if n = name then value else none

/-- The last value of an option. -/
def value? (a : Arguments) (name : String) : Option String := (a.values name).getLast?

/-- The first of the options that was given. -/
def firstOf? (a : Arguments) (names : List String) : Option String :=
  (a.options.map (·.1)).find? names.contains

/-- The last value of an option that must be given. -/
def required (a : Arguments) (name : String) : Except UsageError String :=
  match a.value? name with
  | some value => .ok value
  | none => .error (.optionMissing name)

/-- The last value of an option as `read?` reads it, or the standard one. -/
def reading {α : Type} (a : Arguments) (name : String) (read? : String → Option α) (standard : α) :
    Except UsageError α :=
  match a.value? name with
  | none => .ok standard
  | some value =>
    match read? value with
    | some x => .ok x
    | none => .error (.badValue name value)

/-- The choice that a text names, up to letter case. -/
def choice? {α : Type} (choices : List α) (nameOf : α → String) (text : String) : Option α :=
  choices.find? fun c => (nameOf c).toList = Text.fold text.toList

end Arguments

end Reflow
