import BoundSql.Text.Quoted
import BoundSql.Text.Similarity

/-!
# Using the command line

How a command's arguments are told apart (`Usage.parse`), and what is said when they cannot be
(`UsageFault.message`).

An option is a hyphen and a letter or two hyphens and a word.  The value of a long option is the
rest after an equals sign or the next argument; that of a short option is the rest of its argument
or the next one.  After two hyphens alone there are no options.  A word that is similar to an
option is answered with a suggestion.
-/

namespace BoundSql

/-- Why the arguments of a command are refused. -/
inductive UsageFault where
  | noSuchOption (name : String) (similar : List String)
  | noArgument (option : String)
  | noValueAllowed (option : String)
  | missingArgument (name : String)
  | missingOption (names : List String)
  | noSuchFile (names : List String) (path : String)
  | directory (names : List String) (path : String)
  | extraArguments (values : List String)
  | noSuchCommand (name : String) (similar : List String)
  | missingCommand
  /-- There are no arguments at all, which is answered with the list of commands. -/
  | noArguments
  | unknownSource (name : String)
  | severalSources
  deriving DecidableEq, Repr

namespace UsageFault

/-- The names of an option or an argument, each in quotes. -/
def hint (names : List String) : String :=
  " / ".intercalate (names.map fun n => "'" ++ n ++ "'")

/-- What a mistyped option or command may have been. -/
def suggestion : List String → String
  | [] => ""
  | [s] => " Did you mean " ++ Text.quoted s ++ "?"
  | ss => " (Did you mean one of: " ++ ", ".intercalate (ss.map Text.quoted) ++ "?)"

/-- The wording of a refusal. -/
def message : UsageFault → String
  | noSuchOption name similar =>
    "No such option " ++ Text.quoted name ++ "." ++ suggestion similar
  | noArgument option => "Option " ++ Text.quoted option ++ " requires an argument."
  | noValueAllowed option => "Option " ++ Text.quoted option ++ " does not take a value."
  | missingArgument name => "Missing argument " ++ hint [name] ++ "."
  | missingOption names => "Missing option " ++ hint names ++ "."
  | noSuchFile names path =>
    "Invalid value for " ++ hint names ++ ": File " ++ Text.quoted path ++ " does not exist."
  | directory names path =>
    "Invalid value for " ++ hint names ++ ": File " ++ Text.quoted path ++ " is a directory."
  | extraArguments values =>
    "Got unexpected extra argument" ++ (if values.length = 1 then "" else "s") ++ " ("
      ++ " ".intercalate values ++ ")"
  | noSuchCommand name similar =>
    "No such command " ++ Text.quoted name ++ "." ++ suggestion similar
  | missingCommand => "Missing command."
  | noArguments => "  run     Execute a query definition and print the result rows."
  | unknownSource name => "Unknown data source: " ++ name
  | severalSources => "Config defines several data sources; choose one with --datasource"

/-- The last line that is printed for a refusal. -/
def lastLine : UsageFault → String
  | noArguments => noArguments.message
  | f => "Error: " ++ f.message

end UsageFault

namespace Usage

/-- An option that a command has. -/
structure Flag where
  /-- The letter of its short form. -/
  short : Option Char
  /-- The word of its long form. -/
  long : String
  takesValue : Bool
  deriving DecidableEq, Repr

namespace Flag

/-- The long form. -/
def longForm (f : Flag) : String := "--" ++ f.long

/-- All forms. -/
def forms (f : Flag) : List String :=
  (f.short.toList.map fun c => String.ofList ['-', c]) ++ [f.longForm]

/-- The option that asks for help; every command has it. -/
def help : Flag := ⟨none, "help", false⟩

end Flag

/-- Arguments told apart: the options with their values in the order given, and the rest. -/
structure Parsed where
  options : List (Flag × String)
  positionals : List String
  deriving Repr

namespace Parsed

/-- The value of an option; the last one given counts. -/
def value? (p : Parsed) (f : Flag) : Option String :=
  (p.options.reverse.find? fun e => e.1 == f).map (·.2)

/-- An option has been given. -/
def has (p : Parsed) (f : Flag) : Bool := (p.value? f).isSome

/-- One more option in front. -/
def cons (f : Flag) (value : String) (p : Parsed) : Parsed :=
  { p with options := (f, value) :: p.options }

end Parsed

/-- The words that are similar to a given one, sorted. -/
def similar (words : List String) (name : String) : List String :=
  (words.filter fun word => Text.isSimilar word name).mergeSort fun s t => decide (s ≤ t)

/-- A text before and after its first equals sign. -/
def splitValue (cs : List Char) : List Char × Option (List Char) :=
  match cs.dropWhile (· != '=') with
  | [] => (cs, none)
  | _ :: value => (cs.takeWhile (· != '='), some value)

/-- What one argument says. -/
inductive Reading where
  /-- Options with their values, of which the last one may want the next argument. -/
  | options (given : List (Flag × String)) (wanting : Option (Flag × String))
  | refused (f : UsageFault)
  deriving Repr

/-- The options in an argument with one hyphen. -/
def shortOptions (flags : List Flag) : List Char → Reading
  | [] => .options [] none
  | c :: r =>
    let name := String.ofList ['-', c]
    match flags.find? fun f => f.short == some c with
    | none => .refused (.noSuchOption name [])
    | some f =>
      if f.takesValue then
        if r.isEmpty then .options [] (some (f, name))
        else .options [(f, String.ofList r)] none
      else match shortOptions flags r with
        | .options given wanting => .options ((f, "") :: given) wanting
        | .refused why => .refused why

/-- The option in an argument with two hyphens. -/
def longOption (flags : List Flag) (cs : List Char) : Reading :=
  let (word, value) := splitValue cs
  let name := String.ofList word
  match flags.find? fun f => f.longForm == name with
  | none => .refused (.noSuchOption name (similar (flags.map Flag.longForm) name))
  | some f =>
    match f.takesValue, value with
    | true, some v => .options [(f, String.ofList v)] none
    | true, none => .options [] (some (f, name))
    | false, some _ => .refused (.noValueAllowed name)
    | false, none => .options [(f, "")] none

/-- The options in an argument, unless it is no option. -/
def readOption? (flags : List Flag) (argument : String) : Option Reading :=
  match argument.toList with
  | '-' :: '-' :: r => some (longOption flags ('-' :: '-' :: r))
  | '-' :: c :: r => some (shortOptions flags (c :: r))
  | _ => none

/-- Arguments with the options that the command has.  With `mixed`, options may come after other
arguments. -/
def parse (flags : List Flag) (mixed : Bool) : List String → Except UsageFault Parsed
  | [] => .ok ⟨[], []⟩
  | "--" :: r => .ok ⟨[], r⟩
  | a :: r =>
    match readOption? flags a with
    | none =>
      if mixed then (parse flags mixed r).map fun p => { p with positionals := a :: p.positionals }
      else .ok ⟨[], a :: r⟩
    | some (.refused f) => .error f
    | some (.options given none) =>
      (parse flags mixed r).map fun p => { p with options := given ++ p.options }
    | some (.options given (some (f, name))) =>
      match r with
      | [] => .error (.noArgument name)
      | value :: r =>
        (parse flags mixed r).map fun p => { p with options := given ++ (f, value) :: p.options }

end Usage

end BoundSql
