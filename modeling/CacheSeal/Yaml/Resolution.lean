import CacheSeal.Yaml.Form
import CacheSeal.Yaml.Tag
import CacheSeal.Yaml.Timestamp

/-!
The tag that a scalar without quotes gets from its text: words for truth values and for nothing, the forms of numbers
and timestamps, and the keys with a meaning of their own. Any other scalar is text.
-/

namespace CacheSeal.Yaml

/-- A word in lower case, with a capital, or in upper case. -/
private def cases (word : String) : List (List Char) :=
  let letters := word.toList
  [letters, (letters.take 1).map Char.toUpper ++ letters.drop 1, letters.map Char.toUpper]

def truthWords : List (String × Bool) := [
  ("yes", true), ("no", false), ("true", true), ("false", false), ("on", true), ("off", false)]

private def isTruthWord (text : List Char) : Bool :=
  truthWords.any fun entry => (cases entry.1).contains text

private def isNullWord (text : List Char) : Bool :=
  text = ['~'] || (cases "null").contains text

private def ofForm (text : List Char) : Tag :=
  if isTruthWord text then .bool
  else if Form.isFloat text then .float
  else if Form.isInt text then .int
  else if text = ['<', '<'] then .merge
  else if isNullWord text then .null
  else if (TimestampParts.readExact? text).any (·.isPlain) then .timestamp
  else if text = ['='] then .default
  else if [['!'], ['&'], ['*']].contains text then .foreign
  else .str

/-- A line feed at the end does not count, but alone it is text. -/
def Tag.ofPlain (text : List Char) : Tag :=
  if text.isEmpty then .null
  else if text.getLast? = some '\n' then if text.length = 1 then .str else ofForm text.dropLast
  else ofForm text

end CacheSeal.Yaml
