import NamedLock.Text.Case
import NamedLock.Text.LetterTable

/-!
# Letter — letters, digits and blanks of all scripts
-/

namespace NamedLock

namespace Text

/-- Whether a character is a letter in some script. -/
def isAlphabetic (c : Char) : Bool :=
  if c.toNat < 128 then c.isAlpha else inRanges alphabeticRanges c

/-- Whether a character is a letter or a digit in some script. -/
def isAlphanumeric (c : Char) : Bool :=
  if c.toNat < 128 then c.isAlphanum else inRanges alphabeticRanges c || inRanges numericRanges c

/-- Code points that leave a blank or end a line; both ends of a range are included. -/
def blankRanges : List (Nat × Nat) :=
  [(0x09, 0x0d), (0x20, 0x20), (0x85, 0x85), (0xa0, 0xa0), (0x1680, 0x1680), (0x2000, 0x200a),
   (0x2028, 0x2029), (0x202f, 0x202f), (0x205f, 0x205f), (0x3000, 0x3000)]

/-- Whether a character is a blank in some script. -/
def isBlank (c : Char) : Bool := inRanges blankRanges c

end Text

end NamedLock
