import CacheSeal.Value.Printer

/-!
Why settings are refused.
-/

namespace CacheSeal.Settings

inductive Error where
  | badWidth (given : Value)
  | badOrder (given : Value)
  | badColor
  /-- A key that is no setting, and the setting that may have been meant. -/
  | unknownKey (name : Text) (suggestion : Option String)
  | notFound (path : Text)
  | unreadable (path : Text) (number : Nat) (reason : String)
  | noDocument (path : Text)
  | noMapping (path : Text)

namespace Error

/-- What is told of a document that cannot be read. The wording is this library's own, in place of what a loader tells,
which is where and how the document fails. -/
def noDocumentReason : String := "not a YAML document"

def hint : Option String → String
  | some suggestion => s!" (did you mean {quoted suggestion}?)"
  | none => ""

def message : Error → Text
  | badWidth given => s!"pointer_width must be one of [32, 64], got {given.toText}"
  | badOrder given => s!"byte_order must be one of ['big', 'little'], got {given.toText}"
  | badColor => "color must be a boolean"
  | unknownKey name suggestion => s!"Unknown config key {name.quoted}{hint suggestion}"
  | notFound path => "Config file not found: " ++ path
  | unreadable path number reason =>
    "Cannot read config file at " ++ path ++ s!": [Errno {number}] {reason}: {path.quoted}"
  | noDocument path => "Invalid YAML config file at " ++ path ++ s!": {noDocumentReason}"
  | noMapping path => "Config file at " ++ path ++ " must be a YAML mapping"

/-- There is a message if the value in it, if any, can be shown. -/
def checkShowable : Error → Except Value.Unshowable Unit
  | badWidth given => given.checkShowable
  | badOrder given => given.checkShowable
  | _ => .ok ()

end Error

end CacheSeal.Settings
