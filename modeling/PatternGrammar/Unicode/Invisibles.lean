import PatternGrammar.Unicode.Band

/-!
# Characters without an image

Characters that steer how others are shown or stored, in version 16 of the Unicode character database.
-/

namespace PatternGrammar.Unicode

def directionControls : List Band :=
  [⟨0x61C, 0x61C, 1⟩, ⟨0x200E, 0x200F, 1⟩, ⟨0x202A, 0x202E, 1⟩, ⟨0x2066, 0x2069, 1⟩]

def deprecated : List Band :=
  [⟨0x149, 0x149, 1⟩, ⟨0x673, 0x673, 1⟩, ⟨0xF77, 0xF77, 1⟩, ⟨0xF79, 0xF79, 1⟩,
   ⟨0x17A3, 0x17A4, 1⟩, ⟨0x206A, 0x206F, 1⟩, ⟨0x2329, 0x232A, 1⟩, ⟨0xE0001, 0xE0001, 1⟩]

/-- Code points that never stand for a character: 32 in a row, and the last two of each plane. -/
def noncharacters : List Band :=
  [⟨0xFDD0, 0xFDEF, 1⟩, ⟨0xFFFE, 0xFFFF, 1⟩, ⟨0x1FFFE, 0x1FFFF, 1⟩, ⟨0x2FFFE, 0x2FFFF, 1⟩,
   ⟨0x3FFFE, 0x3FFFF, 1⟩, ⟨0x4FFFE, 0x4FFFF, 1⟩, ⟨0x5FFFE, 0x5FFFF, 1⟩, ⟨0x6FFFE, 0x6FFFF, 1⟩,
   ⟨0x7FFFE, 0x7FFFF, 1⟩, ⟨0x8FFFE, 0x8FFFF, 1⟩, ⟨0x9FFFE, 0x9FFFF, 1⟩, ⟨0xAFFFE, 0xAFFFF, 1⟩,
   ⟨0xBFFFE, 0xBFFFF, 1⟩, ⟨0xCFFFE, 0xCFFFF, 1⟩, ⟨0xDFFFE, 0xDFFFF, 1⟩, ⟨0xEFFFE, 0xEFFFF, 1⟩,
   ⟨0xFFFFE, 0xFFFFF, 1⟩, ⟨0x10FFFE, 0x10FFFF, 1⟩]

/-- Characters and unassigned code points that are not shown, other than format characters and variation selectors. -/
def otherIgnorables : List Band :=
  [⟨0x34F, 0x34F, 1⟩, ⟨0x115F, 0x1160, 1⟩, ⟨0x17B4, 0x17B5, 1⟩, ⟨0x2065, 0x2065, 1⟩,
   ⟨0x3164, 0x3164, 1⟩, ⟨0xFFA0, 0xFFA0, 1⟩, ⟨0xFFF0, 0xFFF8, 1⟩, ⟨0xE0000, 0xE0000, 1⟩,
   ⟨0xE0002, 0xE001F, 1⟩, ⟨0xE0080, 0xE00FF, 1⟩, ⟨0xE01F0, 0xE0FFF, 1⟩]

def shownFormats : List Band :=
  [⟨0xFFF9, 0xFFFB, 1⟩, ⟨0x13430, 0x1343F, 1⟩]

/-- Characters that choose a variant of the character before them. -/
def variationSelectors : List Band :=
  [⟨0x180B, 0x180D, 1⟩, ⟨0x180F, 0x180F, 1⟩, ⟨0xFE00, 0xFE0F, 1⟩, ⟨0xE0100, 0xE01EF, 1⟩]

/-- Format characters that span the digits after them. -/
def prependedMarks : List Band :=
  [⟨0x600, 0x605, 1⟩, ⟨0x6DD, 0x6DD, 1⟩, ⟨0x70F, 0x70F, 1⟩, ⟨0x890, 0x891, 1⟩,
   ⟨0x8E2, 0x8E2, 1⟩, ⟨0x110BD, 0x110BD, 1⟩, ⟨0x110CD, 0x110CD, 1⟩]

/-- Vowels that are stored before the consonant they follow. -/
def logicalOrderExceptions : List Band :=
  [⟨0xE40, 0xE44, 1⟩, ⟨0xEC0, 0xEC4, 1⟩, ⟨0x19B5, 0x19B7, 1⟩, ⟨0x19BA, 0x19BA, 1⟩,
   ⟨0xAAB5, 0xAAB6, 1⟩, ⟨0xAAB9, 0xAAB9, 1⟩, ⟨0xAABB, 0xAABC, 1⟩]

/-- Signs that join consonants. -/
def graphemeLinks : List Band :=
  [⟨0x94D, 0x94D, 1⟩, ⟨0x9CD, 0x9CD, 1⟩, ⟨0xA4D, 0xA4D, 1⟩, ⟨0xACD, 0xACD, 1⟩,
   ⟨0xB4D, 0xB4D, 1⟩, ⟨0xBCD, 0xBCD, 1⟩, ⟨0xC4D, 0xC4D, 1⟩, ⟨0xCCD, 0xCCD, 1⟩,
   ⟨0xD3B, 0xD3C, 1⟩, ⟨0xD4D, 0xD4D, 1⟩, ⟨0xDCA, 0xDCA, 1⟩, ⟨0xE3A, 0xE3A, 1⟩,
   ⟨0xEBA, 0xEBA, 1⟩, ⟨0xF84, 0xF84, 1⟩, ⟨0x1039, 0x103A, 1⟩, ⟨0x1714, 0x1715, 1⟩,
   ⟨0x1734, 0x1734, 1⟩, ⟨0x17D2, 0x17D2, 1⟩, ⟨0x1A60, 0x1A60, 1⟩, ⟨0x1B44, 0x1B44, 1⟩,
   ⟨0x1BAA, 0x1BAB, 1⟩, ⟨0x1BF2, 0x1BF3, 1⟩, ⟨0x2D7F, 0x2D7F, 1⟩, ⟨0xA806, 0xA806, 1⟩,
   ⟨0xA82C, 0xA82C, 1⟩, ⟨0xA8C4, 0xA8C4, 1⟩, ⟨0xA953, 0xA953, 1⟩, ⟨0xA9C0, 0xA9C0, 1⟩,
   ⟨0xAAF6, 0xAAF6, 1⟩, ⟨0xABED, 0xABED, 1⟩, ⟨0x10A3F, 0x10A3F, 1⟩, ⟨0x11046, 0x11046, 1⟩,
   ⟨0x11070, 0x11070, 1⟩, ⟨0x1107F, 0x1107F, 1⟩, ⟨0x110B9, 0x110B9, 1⟩, ⟨0x11133, 0x11134, 1⟩,
   ⟨0x111C0, 0x111C0, 1⟩, ⟨0x11235, 0x11235, 1⟩, ⟨0x112EA, 0x112EA, 1⟩, ⟨0x1134D, 0x1134D, 1⟩,
   ⟨0x113CE, 0x113D0, 1⟩, ⟨0x11442, 0x11442, 1⟩, ⟨0x114C2, 0x114C2, 1⟩, ⟨0x115BF, 0x115BF, 1⟩,
   ⟨0x1163F, 0x1163F, 1⟩, ⟨0x116B6, 0x116B6, 1⟩, ⟨0x1172B, 0x1172B, 1⟩, ⟨0x11839, 0x11839, 1⟩,
   ⟨0x1193D, 0x1193E, 1⟩, ⟨0x119E0, 0x119E0, 1⟩, ⟨0x11A34, 0x11A34, 1⟩, ⟨0x11A47, 0x11A47, 1⟩,
   ⟨0x11A99, 0x11A99, 1⟩, ⟨0x11C3F, 0x11C3F, 1⟩, ⟨0x11D44, 0x11D45, 1⟩, ⟨0x11D97, 0x11D97, 1⟩,
   ⟨0x11F41, 0x11F42, 1⟩, ⟨0x1612F, 0x1612F, 1⟩]

/-- Marks that stand close to the letter, before other marks. -/
def modifierMarks : List Band :=
  [⟨0x654, 0x655, 1⟩, ⟨0x658, 0x658, 1⟩, ⟨0x6DC, 0x6DC, 1⟩, ⟨0x6E3, 0x6E3, 1⟩,
   ⟨0x6E7, 0x6E8, 1⟩, ⟨0x8CA, 0x8CB, 1⟩, ⟨0x8CD, 0x8CF, 1⟩, ⟨0x8D3, 0x8D3, 1⟩,
   ⟨0x8F3, 0x8F3, 1⟩]

/-- The letters from which flags are made. -/
def regionalIndicators : List Band :=
  [⟨0x1F1E6, 0x1F1FF, 1⟩]

end PatternGrammar.Unicode
