import TextMigration.Unicode.Letter
import TextMigration.Unicode.Mark
import TextMigration.Unicode.Number
import TextMigration.Unicode.Punctuation
import TextMigration.Unicode.Symbol
import TextMigration.Unicode.Separator

/-!
Groups of general categories. Every character is in one category, so the groups of different kinds share
nothing, and what is in none of them is not assigned.
-/

namespace TextMigration.Unicode

open Ranges (unionAll)

def letters : Ranges := unionAll [lowerLetter, upperLetter, titleLetter, modifierLetter, otherLetter]

def casedLetters : Ranges := unionAll [lowerLetter, upperLetter, titleLetter]

def marks : Ranges := unionAll [nonspacingMark, spacingMark, enclosingMark]

def numbers : Ranges := unionAll [decimalDigit, letterNumber, otherNumber]

def punctuation : Ranges :=
  unionAll [connector, dash, opening, closing, initialQuote, finalQuote, otherPunctuation]

def symbols : Ranges := unionAll [mathSymbol, currencySymbol, modifierSymbol, otherSymbol]

def separators : Ranges := unionAll [spaceSeparator, lineSeparator, paragraphSeparator]

def surrogate : Ranges := [(0xD800, 0xDFFF)]

def visible : Ranges := unionAll [letters, marks, numbers, punctuation, symbols]

def assigned : Ranges := unionAll [visible, separators, control, format, privateUse]

def unassigned : Ranges := (assigned.union surrogate).complement

def otherCategories : Ranges := (visible.union separators).complement

def everything : Ranges := [(0x0, Ranges.lastPoint)]

def ascii : Ranges := [(0x0, 0x7F)]

end TextMigration.Unicode
