import TextMigration.Unicode.Property
import TextMigration.Unicode.Script

/-!
Classes of characters that decide where a grapheme, a word or a sentence ends. Each kind of boundary has a
table of its own; what is in no class of a table is left to the rules for everything else, and has no
entry.
-/

namespace TextMigration.Unicode.Break

open Ranges (ofBounds unionAll)

def carriageReturn : Ranges := [(0xD, 0xD)]

def lineFeed : Ranges := [(0xA, 0xA)]

def joiner : Ranges := [(0x200D, 0x200D)]

def leadingConsonant : Ranges := ofBounds [
    0xD4E, 0xD4E, 0x111C2, 0x111C3, 0x113D1, 0x113D1, 0x1193F, 0x1193F, 0x11941, 0x11941,
    0x11A3A, 0x11A3A, 0x11A84, 0x11A89, 0x11D46, 0x11D46, 0x11F02, 0x11F02]

/-- Spacing marks of scripts whose words are not parted, which do not hold on to what is before them. -/
def looseMark : Ranges := ofBounds [
    0x102B, 0x102C, 0x1038, 0x1038, 0x1062, 0x1064, 0x1067, 0x106D, 0x1083, 0x1083, 0x1087, 0x108C,
    0x108F, 0x108F, 0x109A, 0x109C, 0x1A61, 0x1A61, 0x1A63, 0x1A64, 0xAA7B, 0xAA7B, 0xAA7D, 0xAA7D,
    0x11720, 0x11721]

def extending : Ranges := graphemeExtend.union emojiModifier

def leadingJamo : Ranges := ofBounds [0x1100, 0x115F, 0xA960, 0xA97C]

def vowelJamo : Ranges := ofBounds [0x1160, 0x11A7, 0xD7B0, 0xD7C6, 0x16D63, 0x16D63, 0x16D67, 0x16D6A]

def trailingJamo : Ranges := ofBounds [0x11A8, 0x11FF, 0xD7CB, 0xD7FB]

def openSyllable : Ranges := (List.range 399).map fun i => (0xAC00 + 28 * i, 0xAC00 + 28 * i)

def closedSyllable : Ranges := Ranges.difference [(0xAC00, 0xD7A3)] openSyllable

def fronting : Ranges := leadingConsonant.union prepended

def heldMark : Ranges :=
  (unionAll [spacingMark, [(0xE33, 0xE33)], [(0xEB3, 0xEB3)]]).difference (extending.union looseMark)

def controlling : Ranges :=
  (unionAll [lineSeparator, paragraphSeparator, control, format, unassigned.intersection ignorable]).difference
    (unionAll [carriageReturn, lineFeed, joinControl, prepended, extending])

def graphemes : NameTable := [
  (["cr"], carriageReturn),
  (["cn", "control"], controlling),
  (["ex", "extend"], extending.difference joiner),
  (["l"], leadingJamo),
  (["lf"], lineFeed),
  (["lv"], openSyllable),
  (["lvt"], closedSyllable),
  (["pp", "prepend"], fronting),
  (["ri", "regionalindicator"], regionalIndicator),
  (["sm", "spacingmark"], heldMark),
  (["t"], trailingJamo),
  (["v"], vowelJamo),
  (["zwj"], joiner)]

/-- The sign of an abbreviation that stands before letters; the others stand before digits. -/
def abbreviation : Ranges := [(0x70F, 0x70F)]

def numeric : Ranges := unionAll [decimalDigit, [(0x66B, 0x66C)], prepended.difference abbreviation]

def wordExtend : Ranges := (unionAll [graphemeExtend, spacingMark, emojiModifier]).difference joiner

def freeFormat : Ranges := format.difference (unionAll [joinControl, graphemeExtend, prepended])

def letterlike : Ranges := ofBounds [
    0x2C2, 0x2C5, 0x2D2, 0x2D7, 0x2DE, 0x2DF, 0x2E5, 0x2EB, 0x2ED, 0x2ED, 0x2EF, 0x2FF,
    0x55A, 0x55C, 0x55E, 0x55E, 0x58A, 0x58A, 0x5F3, 0x5F3, 0xA708, 0xA716, 0xA720, 0xA721,
    0xA789, 0xA78A, 0xAB5B, 0xAB5B]

def unparted : Ranges := ofBounds [
    0xE01, 0xEDF, 0x1000, 0x108E, 0x1780, 0x17DC, 0x1950, 0x19C9, 0x1A20, 0x1AA7, 0xA9E0, 0xA9FE,
    0xAA60, 0xAADD, 0x11700, 0x11746]

def katakana : Ranges :=
  unionAll [script "kana", ofBounds [
    0x3031, 0x3035, 0x309B, 0x309C, 0x30A0, 0x30A0, 0x30FC, 0x30FC, 0xFF70, 0xFF70]]

def hebrewLetter : Ranges := (script "hebr").intersection otherLetter

def plainLetter : Ranges :=
  (unionAll [alphabetic, letterlike, abbreviation]).difference
    (unionAll [ideographic, katakana, unparted, script "hira", wordExtend, hebrewLetter])

def words : NameTable := [
  (["le", "aletter"], plainLetter),
  (["cr"], carriageReturn),
  (["dq", "doublequote"], [(0x22, 0x22)]),
  (["extend"], wordExtend),
  (["ex", "extendnumlet"], connector.union [(0x202F, 0x202F)]),
  (["fo", "format"], freeFormat.difference [(0x200B, 0x200B)]),
  (["hl", "hebrewletter"], hebrewLetter),
  (["ka", "katakana"], katakana),
  (["lf"], lineFeed),
  (["ml", "midletter"], letterJoint),
  (["mn", "midnum"], ofBounds [
    0x2C, 0x2C, 0x3B, 0x3B, 0x37E, 0x37E, 0x589, 0x589, 0x60C, 0x60D, 0x66C, 0x66C, 0x7F8, 0x7F8,
    0x2044, 0x2044, 0xFE10, 0xFE10, 0xFE14, 0xFE14, 0xFE50, 0xFE50, 0xFE54, 0xFE54, 0xFF0C, 0xFF0C,
    0xFF1B, 0xFF1B]),
  (["mb", "midnumlet"], joint),
  (["nl", "newline"], ofBounds [0xB, 0xC, 0x85, 0x85, 0x2028, 0x2029]),
  (["nu", "numeric"], numeric.difference [(0x66C, 0x66C)]),
  (["ri", "regionalindicator"], regionalIndicator),
  (["sq", "singlequote"], [(0x27, 0x27)]),
  (["wsegspace"], spaceSeparator.difference (ofBounds [0xA0, 0xA0, 0x2007, 0x2007, 0x202F, 0x202F])),
  (["zwj"], joiner)]

def sentenceExtend : Ranges := unionAll [graphemeExtend, spacingMark, joiner]

def fullStop : Ranges := ofBounds [0x2E, 0x2E, 0x2024, 0x2024, 0xFE52, 0xFE52, 0xFF0E, 0xFF0E]

def separating : Ranges := ofBounds [0x85, 0x85, 0x2028, 0x2029]

/-- The letters of Georgian, which has both cases and does not begin a sentence with a capital. -/
def georgianLower : Ranges := ofBounds [0x10D0, 0x10FA, 0x10FD, 0x10FF]

def georgianUpper : Ranges := ofBounds [0x1C90, 0x1CBA, 0x1CBD, 0x1CBF]

def sentenceLower : Ranges := lowercase.difference (sentenceExtend.union georgianLower)

def sentenceUpper : Ranges := (uppercase.union titleLetter).difference georgianUpper

def sidelessQuote : Ranges := ofBounds [
    0x22, 0x22, 0x27, 0x27, 0x275B, 0x2760, 0x2E00, 0x2E01, 0x2E06, 0x2E08, 0x2E0B, 0x2E0B,
    0x1F676, 0x1F678]

def sentences : NameTable := [
  (["at", "aterm"], fullStop),
  (["cl", "close"], unionAll [opening, closing, initialQuote, finalQuote, sidelessQuote]),
  (["cr"], carriageReturn),
  (["ex", "extend"], sentenceExtend),
  (["fo", "format"], freeFormat),
  (["lf"], lineFeed),
  (["lo", "lower"], sentenceLower),
  (["nu", "numeric"], numeric),
  (["le", "oletter"],
    (unionAll [alphabetic, [(0x5F3, 0x5F3)], abbreviation]).difference
      (unionAll [sentenceLower, sentenceUpper, sentenceExtend])),
  (["sc", "scontinue"], ofBounds [
    0x2C, 0x2D, 0x3A, 0x3B, 0x37E, 0x37E, 0x55D, 0x55D, 0x60C, 0x60D, 0x7F8, 0x7F8, 0x1802, 0x1802,
    0x1808, 0x1808, 0x2013, 0x2014, 0x3001, 0x3001, 0xFE10, 0xFE11, 0xFE13, 0xFE14, 0xFE31, 0xFE32,
    0xFE50, 0xFE51, 0xFE54, 0xFE55, 0xFE58, 0xFE58, 0xFE63, 0xFE63, 0xFF0C, 0xFF0D, 0xFF1A, 0xFF1B,
    0xFF64, 0xFF64]),
  (["se", "sep"], separating),
  (["sp"], blank.difference (unionAll [separating, carriageReturn, lineFeed])),
  (["st", "sterm"], sentenceTerminal.difference fullStop),
  (["up", "upper"], sentenceUpper)]

end TextMigration.Unicode.Break
