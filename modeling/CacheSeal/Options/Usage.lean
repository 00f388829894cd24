import CacheSeal.Text.Quoted

/-!
Why a command line is refused.
-/

namespace CacheSeal.Options

inductive Usage where
  /-- The start of several options. -/
  | ambiguous (given : Text) (options : List String)
  | missingValue (option : String)
  | needlessValue (option : String) (given : Text)
  | notInteger (option : String) (given : Text)
  /-- The value as it was understood, and the values there are, both as they are shown. -/
  | badChoice (option given : String) (choices : List String)
  | missing (names : List String)
  | unclaimed (arguments : List Text)
deriving DecidableEq, Repr

namespace Usage

def message : Usage → Text
  | ambiguous given options => "ambiguous option: " ++ given ++ s!" could match {commaList options}"
  | missingValue option => s!"argument {option}: expected one argument"
  | needlessValue option given => s!"argument {option}: ignored explicit argument {given.quoted}"
  | notInteger option given => s!"argument {option}: invalid int value: {given.quoted}"
  | badChoice option given choices => s!"argument {option}: invalid choice: {given} (choose from {commaList choices})"
  | missing names => s!"the following arguments are required: {commaList names}"
  | unclaimed arguments => "unrecognized arguments: " ++ List.intercalate " " arguments

end Usage

end CacheSeal.Options
