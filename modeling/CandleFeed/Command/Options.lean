import CandleFeed.Config.Basic

/-!
# What is said on the command line

The command line may name a file with settings, as `-c` or `--config`, and further instruments, each
as `--symbol`.  A long option takes its value behind `=` or as the next argument.
**`Options.parse`** reads the arguments, and **`Options.apply`** is what they change in the
settings.
-/

namespace CandleFeed

/-- What is said on the command line. -/
structure Options where
  /-- The file with the settings. -/
  config : Option String
  /-- Symbols beside those in the settings, in their order. -/
  symbols : List String
deriving DecidableEq, Repr

/-- Why a command line is not understood. -/
inductive OptionFault where
  /-- There is no such option. -/
  | unknown (argument : String)
  /-- An option stands last and has no value. -/
  | missingValue (option : String)
deriving DecidableEq, Repr

/-- The message for a fault. -/
def OptionFault.message : OptionFault → String
  | unknown argument => "unexpected argument '" ++ argument ++ "' found"
  | missingValue option => "a value is required for '" ++ option ++ "' but none was supplied"

namespace Options

/-- Nothing is said. -/
def none : Options := ⟨.none, []⟩

/-- An option with its value. -/
def set? (o : Options) (option value : String) : Option Options :=
  match option with
  | "-c" | "--config" => some { o with config := some value }
  | "--symbol" => some { o with symbols := o.symbols ++ [value] }
  | _ => .none

/-- An argument with a value behind `=`. -/
def split (argument : String) : String × Option String :=
  let name := argument.toList.takeWhile (· != '=')
  match argument.toList.drop name.length with
  | [] => (argument, .none)
  | _ :: value => (String.ofList name, some (String.ofList value))

/-- Reads arguments after those that say so much. -/
def parseFrom (o : Options) : List String → Except OptionFault Options
  | [] => .ok o
  | argument :: rest =>
    match split argument, rest with
    | (name, some value), rest =>
      match o.set? name value with
      | some o => parseFrom o rest
      | .none => .error (.unknown argument)
    | (name, .none), [] =>
      if (o.set? name "").isSome then .error (.missingValue name) else .error (.unknown name)
    | (name, .none), value :: rest =>
      match o.set? name value with
      | some o => parseFrom o rest
      | .none => .error (.unknown name)

/-- Reads the arguments. -/
def parse (arguments : List String) : Except OptionFault Options := parseFrom none arguments

/-- The settings with the symbols of the command line, each once. -/
def apply (o : Options) (c : FeedConfig) : FeedConfig :=
  { c with
    symbols := o.symbols.foldl (fun ss s => if ss.contains s then ss else ss ++ [s]) c.symbols }

end Options

end CandleFeed
