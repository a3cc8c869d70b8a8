import TextMigration.Unicode.Casing
import TextMigration.Unicode.Category
import TextMigration.Unicode.Derived
import TextMigration.Unicode.Emoji
import TextMigration.Unicode.Usage

/-!
Properties of characters that follow from the general categories: what separates words, what a word is
made of, what has a case, what can stand in an identifier, and what is drawn by itself.
-/

namespace TextMigration.Unicode

open Ranges (unionAll)

def blank : Ranges :=
  [(0x9, 0xD), (0x20, 0x20), (0x85, 0x85), (0xA0, 0xA0), (0x1680, 0x1680), (0x2000, 0x200A),
    (0x2028, 0x2029), (0x202F, 0x202F), (0x205F, 0x205F), (0x3000, 0x3000)]

def isBlank (c : Char) : Bool := blank.has c.toNat

def joinControl : Ranges := [(0x200C, 0x200D)]

def alphabetic : Ranges := unionAll [letters, letterNumber, otherAlphabetic]

def word : Ranges := unionAll [alphabetic, marks, decimalDigit, connector, joinControl]

def uppercase : Ranges := upperLetter.union otherUpper

def lowercase : Ranges := lowerLetter.union otherLower

def cased : Ranges := unionAll [uppercase, lowercase, titleLetter]

def joint : Ranges := Ranges.ofBounds [
    0x2E, 0x2E, 0x2018, 0x2019, 0x2024, 0x2024, 0xFE52, 0xFE52, 0xFF07, 0xFF07, 0xFF0E, 0xFF0E]

def letterJoint : Ranges := Ranges.ofBounds [
    0x3A, 0x3A, 0xB7, 0xB7, 0x387, 0x387, 0x55F, 0x55F, 0x5F4, 0x5F4, 0x2027, 0x2027,
    0xFE13, 0xFE13, 0xFE55, 0xFE55, 0xFF1A, 0xFF1A]

def caseIgnorable : Ranges :=
  unionAll [nonspacingMark, enclosingMark, format, modifierLetter, modifierSymbol, joint, letterJoint,
    [(0x27, 0x27)]]

def changesLowered : Ranges := (uppercase.union titleLetter).difference noLowerForm

def changesUppered : Ranges := (lowercase.union titleLetter).difference noUpperForm

def changesTitled : Ranges := (changesUppered.difference upperOnly).union titleOnly

def changesFolded : Ranges := (changesLowered.difference loweredOnly).union foldedOnly

def changesMapped : Ranges := unionAll [changesLowered, changesUppered, changesTitled]

def graphemeExtend : Ranges := unionAll [nonspacingMark, enclosingMark, otherGraphemeExtend]

def graphemeBase : Ranges := (visible.union spaceSeparator).difference graphemeExtend

def math : Ranges := mathSymbol.union otherMath

def ignorable : Ranges :=
  (unionAll [format, variationSelector, otherIgnorable]).difference (shownFormat.union prepended)

def patternReserved : Ranges := patternSyntax.union patternBlank

def identifierStart : Ranges :=
  (unionAll [letters, letterNumber, otherIdentifierStart]).difference patternReserved

def identifierContinue : Ranges :=
  (unionAll [identifierStart, nonspacingMark, spacingMark, decimalDigit, connector,
    otherIdentifierContinue]).difference patternReserved

def stableStart : Ranges := identifierStart.difference unstableStart

def stableContinue : Ranges := identifierContinue.difference unstableContinue

end TextMigration.Unicode
