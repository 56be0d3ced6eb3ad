import SchemaDdl.Text.Parts

/-!
# Options of a command line

An option is `--name` or `-n`, with a value next to it or attached to it, or
it is a flag without a value. All other arguments are words, and after `--`
every argument is one.
-/

namespace SchemaDdl.CommandLine

structure OptionForm where
  name : String
  letter : Option Char := none
  takesValue : Bool := true

/-- What a command line holds. A flag has an empty value. -/
structure Given where
  options : List (String × String) := []
  words : List String := []

namespace Given

def value? (given : Given) (name : String) : Option String := given.options.lookup name

def has (given : Given) (name : String) : Bool := (given.value? name).isSome

/-- Adds an option; one that is already there is refused. -/
def addOption? (given : Given) (name value : String) : Option Given :=
  if given.has name then none
  else some { given with options := given.options ++ [(name, value)] }

def addWord (given : Given) (word : String) : Given := { given with words := given.words ++ [word] }

end Given

inductive Argument where
  | endOfOptions
  | option (form : OptionForm) (attached : Option String)
  | unknown
  | word (s : String)

namespace Argument

/-- An option by its name, perhaps with a value after an equals sign. -/
def long (forms : List OptionForm) (cs : List Char) : Argument :=
  let (name, attached) :=
    match Text.splitFirst? '=' cs with
    | some (name, value) => (name, some (String.ofList value))
    | none => (cs, none)
  match forms.find? fun form => form.name = String.ofList name with
  | some form => option form attached
  | none => unknown

/-- An option by its letter, perhaps with a value right after it or after an equals sign. -/
def short (forms : List OptionForm) (letter : Char) (cs : List Char) : Argument :=
  let attached :=
    match cs with
    | [] => none
    | '=' :: value => some (String.ofList value)
    | value => some (String.ofList value)
  match forms.find? fun form => form.letter = some letter with
  | some form => option form attached
  | none => unknown

def ofString (forms : List OptionForm) (arg : String) : Argument :=
  match arg.toList with
  | ['-', '-'] => endOfOptions
  | '-' :: '-' :: cs => long forms cs
  | '-' :: letter :: cs => short forms letter cs
  | _ => word arg

def canBeValue (arg : String) : Bool :=
  match arg.toList with
  | ['-'] => true
  | '-' :: _ => false
  | _ => true

end Argument

def readAll? (forms : List OptionForm) (given : Given) : List String → Option Given
  | [] => some given
  | arg :: args =>
    match Argument.ofString forms arg, args with
    | .endOfOptions, args => some { given with words := given.words ++ args }
    | .word s, args => readAll? forms (given.addWord s) args
    | .option ⟨name, _, true⟩ (some value), args => do
      readAll? forms (← given.addOption? name value) args
    | .option ⟨name, _, true⟩ none, value :: args =>
      if Argument.canBeValue value then do readAll? forms (← given.addOption? name value) args
      else none
    | .option ⟨name, _, false⟩ none, args => do readAll? forms (← given.addOption? name "") args
    | _, _ => none

/-- Reads options up to the first word, and gives that word with what follows it. -/
def readLeading? (forms : List OptionForm) (given : Given) :
    List String → Option (Given × String × List String)
  | [] => none
  | arg :: args =>
    match Argument.ofString forms arg, args with
    | .word s, args => some (given, s, args)
    | .option ⟨name, _, true⟩ (some value), args => do
      readLeading? forms (← given.addOption? name value) args
    | .option ⟨name, _, true⟩ none, value :: args =>
      if Argument.canBeValue value then do
        readLeading? forms (← given.addOption? name value) args
      else none
    | .option ⟨name, _, false⟩ none, args => do
      readLeading? forms (← given.addOption? name "") args
    | _, _ => none

end SchemaDdl.CommandLine
