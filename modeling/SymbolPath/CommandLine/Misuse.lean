import SymbolPath.CommandLine.Switch
import SymbolPath.Text.Quoted

/-!
What can be wrong with the arguments of a command.
-/

namespace SymbolPath.CommandLine

inductive Misuse where
  | ambiguous (written : Text) (spellings : List Text)
  | valuesMissing (switch : Switch)
  | unusedValue (switch : Switch) (value : Text)
  | invalidChoice (title value : Text) (choices : List Text)
  | targetsMissing
  | unrecognized (arguments : List Text)
deriving DecidableEq, Repr

def valuesWanted : Nat → Text
  | 1 => "one argument"
  | n => Text.ofNat n ++ " arguments"

def aboutArgument (title what : Text) : Text :=
  "argument " ++ title ++ ": " ++ what

def Misuse.message : Misuse → Text
  | .ambiguous written spellings =>
    "ambiguous option: " ++ written ++ " could match " ++ Text.joinWith ", " spellings
  | .valuesMissing switch =>
    aboutArgument switch.title ("expected " ++ valuesWanted switch.valueCount)
  | .unusedValue switch value =>
    aboutArgument switch.title ("ignored explicit argument " ++ Text.quoted value)
  | .invalidChoice title value choices =>
    aboutArgument title ("invalid choice: " ++ Text.quoted value ++ " (choose from " ++
      Text.joinWith ", " (choices.map Text.quoted) ++ ")")
  | .targetsMissing => "the following arguments are required: targets"
  | .unrecognized arguments => "unrecognized arguments: " ++ Text.joinWith " " arguments

inductive Stop where
  | help (command : Command)
  | version
  | misuse (command : Command) (reason : Misuse)
deriving DecidableEq, Repr

end SymbolPath.CommandLine
