import CacheSeal.Text.Quoted

/-!
Why a document has no value. All faults of its form are one, for only their place differs; a scalar whose text does
not suit its tag is told apart by the kind of scalar.
-/

namespace CacheSeal.Yaml

inductive Error where
  /-- The text is no document, or it holds what a value cannot have. -/
  | malformed
  /-- A number, date or escape with digits that denote nothing. -/
  | badDigits
  /-- An escape beyond what a machine integer holds, or a place of a number beyond what a double holds. -/
  | tooLarge
  /-- A number without any digit or sign to start from. -/
  | noDigits
  /-- A truth value by tag whose word, in lower case, is none. -/
  | noTruthWord (word : Text)
  /-- A timestamp by tag that has not the form of one. -/
  | noTimestamp
  /-- A timestamp by tag that is a mapping. -/
  | structuredTimestamp
  /-- Nodes within nodes without an end, or deeper than can be followed. -/
  | tooDeep
deriving DecidableEq

end CacheSeal.Yaml
