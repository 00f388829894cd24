/-!
Tags of nodes: which of them name a kind of value, and under which name.
-/

namespace CacheSeal.Yaml

inductive Tag where
  | null
  | bool
  | int
  | float
  | binary
  | timestamp
  | str
  | seq
  | map
  | set
  | omap
  | pairs
  | merge
  | default
  /-- A tag that no value has. -/
  | foreign
deriving DecidableEq, Inhabited

namespace Tag

/-- What every standard tag starts with. -/
def standard : List Char := "tag:yaml.org,2002:".toList

private def names : List (String × Tag) := [
  ("null", null), ("bool", bool), ("int", int), ("float", float), ("binary", binary), ("timestamp", timestamp),
  ("str", str), ("seq", seq), ("map", map), ("set", set), ("omap", omap), ("pairs", pairs), ("merge", merge),
  ("value", default)]

def ofName (name : List Char) : Tag :=
  match names.find? fun entry => standard ++ entry.1.toList = name with
  | some entry => entry.2
  | none => foreign

end Tag

end CacheSeal.Yaml
