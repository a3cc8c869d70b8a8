import TextMigration.Unicode.Later
import TextMigration.Unicode.Property

/-!
What can be shown by itself. A character that is drawn on its neighbour, or as nothing, would mislead a
reader who sees it alone.
-/

namespace TextMigration.Unicode

def filler : Ranges := [(0x115F, 0x1160), (0x3164, 0x3164), (0xFFA0, 0xFFA0)]

def apart : Ranges := [(0xFF9E, 0xFF9F)]

def isAttached (c : Char) : Bool :=
  (graphemeExtend.has c.toNat || laterExtender.has c.toNat) && !apart.has c.toNat

/-- The character can be shown as it stands: it is assigned, visible, or the plain space. -/
def isPrintable (c : Char) : Bool :=
  c == ' ' ||
    ((visible.has c.toNat || laterCharacter.has c.toNat) && !filler.has c.toNat && !isAttached c)

def beginsName (c : Char) : Bool := alphabetic.has c.toNat || laterAlphabetic.has c.toNat

def continuesName (c : Char) : Bool :=
  beginsName c || numbers.has c.toNat || laterNumber.has c.toNat

end TextMigration.Unicode
