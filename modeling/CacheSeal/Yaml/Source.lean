import CacheSeal.Bytes
import CacheSeal.Yaml.Error

/-!
From the bytes of a settings file to the characters of a document: strict UTF-8, every line end a line feed, and no
character that cannot be read.
-/

namespace CacheSeal.Yaml

def decode? (data : Bytes) : Option (List Char) :=
  (String.fromUTF8? ⟨data.toArray⟩).map String.toList

/-- A carriage return, alone or before a line feed, is a line feed. -/
def unifyLineEnds : List Char → List Char
  | '\r' :: '\n' :: rest => '\n' :: unifyLineEnds rest
  | '\r' :: rest => '\n' :: unifyLineEnds rest
  | c :: rest => c :: unifyLineEnds rest
  | [] => []

def isReadable (c : Char) : Bool :=
  c = '\t' || c = '\n' || c = '\r' || (' ' ≤ c && c ≤ '~') || c = '\u0085'
    || ('\u00a0' ≤ c && c.toNat ≤ 0xd7ff) || (0xe000 ≤ c.toNat && c.toNat ≤ 0xfffd) || 0x10000 ≤ c.toNat

/-- The characters of a document, or the fault that some of them cannot be read. -/
def source (chars : List Char) : Except Error (List Char) :=
  let unified := unifyLineEnds chars
  if unified.all isReadable then .ok unified else .error .malformed

end CacheSeal.Yaml
