/-!
Text as sequences of code points. An escape in a markup language can name a surrogate on its own, which no `Char`
is, and so can the name of a file; what comes from there is held as code points and not as a string.
-/

namespace CacheSeal

/-- A Unicode code point, surrogates included. -/
abbrev CodePoint := Fin 0x110000

abbrev Text := List CodePoint

def CodePoint.ofChar (c : Char) : CodePoint :=
  ⟨c.toNat, by
    have valid := c.valid
    simp only [UInt32.isValidChar, Nat.isValidChar] at valid
    show c.val.toNat < 0x110000
    omega⟩

theorem CodePoint.ofChar_inj {c d : Char} : ofChar c = ofChar d ↔ c = d := by
  rw [ofChar, ofChar, Fin.mk.injEq, Char.toNat_inj]

/-- The character that a code point is, unless it is a surrogate. -/
def CodePoint.toChar? (point : CodePoint) : Option Char :=
  if point.val.isValidChar then some (Char.ofNat point.val) else none

namespace Text

def ofChars (chars : List Char) : Text :=
  chars.map CodePoint.ofChar

def ofString (text : String) : Text :=
  ofChars text.toList

theorem ofString_inj {left right : String} : ofString left = ofString right ↔ left = right := by
  rw [ofString, ofString, ofChars, ofChars, List.map_inj_right fun _ _ => CodePoint.ofChar_inj.mp, String.toList_inj]

/-- Of texts with a mark between them, all but the last have one behind them. -/
theorem intercalate_concat (mark : Text) (texts : List Text) (last : Text) :
    List.intercalate mark (texts ++ [last]) = texts.flatMap (· ++ mark) ++ last := by
  induction texts with
  | nil => simp
  | cons text rest ih =>
    rw [List.cons_append, List.intercalate_cons_of_ne_nil (by simp), ih, List.flatMap_cons, List.append_assoc,
      List.append_assoc, List.append_assoc]

/-- The text as characters, unless a surrogate is among them. -/
def toChars? (text : Text) : Option (List Char) :=
  text.mapM CodePoint.toChar?

/-- The text as a terminal can show it, a mark in place of each surrogate. -/
def legible (text : Text) : String :=
  String.ofList (text.map fun point => point.toChar?.getD '\ufffd')

/-- Order by code point. -/
def le : Text → Text → Bool
  | [], _ => true
  | _ :: _, [] => false
  | left :: lefts, right :: rights => left.val < right.val || (left = right && le lefts rights)

end Text

instance : Coe Char CodePoint := ⟨CodePoint.ofChar⟩

instance : Coe String Text := ⟨Text.ofString⟩

end CacheSeal
