import Mathlib.Data.List.Lex

namespace OpenKit
namespace Foundation

/-!
# Text

Texts are compared by their UTF-16 code units, which is neither the order of
code points nor that of the encoded bytes once surrogate pairs occur.
-/

/-- The UTF-16 code units of one character. -/
def charUnits (character : Char) : List Nat :=
  let code := character.toNat
  if code < 0x10000 then [code]
  else [0xD800 + (code - 0x10000) / 0x400, 0xDC00 + (code - 0x10000) % 0x400]

def codeUnits (text : String) : List Nat :=
  text.toList.flatMap charUnits

/-- `compareCodeUnits(left, right) <= 0`. -/
def codeUnitsLe (left right : String) : Bool :=
  !decide (codeUnits right < codeUnits left)

theorem codeUnitsLe_iff (left right : String) :
    codeUnitsLe left right <-> codeUnits left <= codeUnits right := by
  simp [codeUnitsLe]

theorem codeUnitsLe_total (left right : String) :
    codeUnitsLe left right \/ codeUnitsLe right left := by
  rw [codeUnitsLe_iff, codeUnitsLe_iff]
  exact le_total _ _

theorem codeUnitsLe_trans {first second third : String} (earlier : codeUnitsLe first second)
    (later : codeUnitsLe second third) : codeUnitsLe first third := by
  rw [codeUnitsLe_iff] at *
  exact le_trans earlier later

/-- White space as `String.prototype.trim` and `\s` know it. -/
def isWhiteSpace (character : Char) : Bool :=
  [0x09, 0x0A, 0x0B, 0x0C, 0x0D, 0x20, 0xA0, 0x1680, 0x2000, 0x2001, 0x2002, 0x2003, 0x2004, 0x2005,
    0x2006, 0x2007, 0x2008, 0x2009, 0x200A, 0x2028, 0x2029, 0x202F, 0x205F, 0x3000, 0xFEFF].contains
    character.toNat

end Foundation
end OpenKit
