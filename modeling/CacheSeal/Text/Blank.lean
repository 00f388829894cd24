/-!
White space. Two sets are in use: the blanks of ASCII around a number, and those of all scripts around a word.
-/

namespace CacheSeal.Blank

/-- Space, tab, line feed, vertical tab, form feed and carriage return. -/
def isAscii (c : Char) : Bool :=
  c = ' ' || ('\t' ≤ c && c ≤ '\r')

/-- The white space of every script: separators, and the controls that act as one. -/
def isBlank (c : Char) : Bool :=
  isAscii c || ('\x1c' ≤ c && c ≤ '\x1f')
    || ['\u0085', '\u00a0', '\u1680', '\u2028', '\u2029', '\u202f', '\u205f', '\u3000'].contains c
    || ('\u2000' ≤ c && c ≤ '\u200a')

/-- Drops what satisfies `blank` at both ends. -/
def strip (blank : Char → Bool) (text : List Char) : List Char :=
  ((text.dropWhile blank).reverse.dropWhile blank).reverse

end CacheSeal.Blank
