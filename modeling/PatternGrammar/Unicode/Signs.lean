import PatternGrammar.Unicode.Band

/-!
# Signs

Letters, punctuation and symbols with a common use, in version 16 of the Unicode character database.
-/

namespace PatternGrammar.Unicode

/-- Characters used in mathematics that are no mathematical symbols. -/
def otherMath : List Band :=
  [⟨0x5E, 0x5E, 1⟩, ⟨0x3D0, 0x3D2, 1⟩, ⟨0x3D5, 0x3D5, 1⟩, ⟨0x3F0, 0x3F1, 1⟩,
   ⟨0x3F4, 0x3F5, 1⟩, ⟨0x2016, 0x2016, 1⟩, ⟨0x2032, 0x2034, 1⟩, ⟨0x2040, 0x2040, 1⟩,
   ⟨0x2061, 0x2064, 1⟩, ⟨0x207D, 0x207E, 1⟩, ⟨0x208D, 0x208E, 1⟩, ⟨0x20D0, 0x20DC, 1⟩,
   ⟨0x20E1, 0x20E1, 1⟩, ⟨0x20E5, 0x20E6, 1⟩, ⟨0x20EB, 0x20EF, 1⟩, ⟨0x2102, 0x2102, 1⟩,
   ⟨0x2107, 0x2107, 1⟩, ⟨0x210A, 0x2113, 1⟩, ⟨0x2115, 0x2115, 1⟩, ⟨0x2119, 0x211D, 1⟩,
   ⟨0x2124, 0x2124, 1⟩, ⟨0x2128, 0x2129, 1⟩, ⟨0x212C, 0x212D, 1⟩, ⟨0x212F, 0x2131, 1⟩,
   ⟨0x2133, 0x2138, 1⟩, ⟨0x213C, 0x213F, 1⟩, ⟨0x2145, 0x2149, 1⟩, ⟨0x2195, 0x2199, 1⟩,
   ⟨0x219C, 0x219F, 1⟩, ⟨0x21A1, 0x21A2, 1⟩, ⟨0x21A4, 0x21A5, 1⟩, ⟨0x21A7, 0x21A7, 1⟩,
   ⟨0x21A9, 0x21AD, 1⟩, ⟨0x21B0, 0x21B1, 1⟩, ⟨0x21B6, 0x21B7, 1⟩, ⟨0x21BC, 0x21CD, 1⟩,
   ⟨0x21D0, 0x21D1, 1⟩, ⟨0x21D3, 0x21D3, 1⟩, ⟨0x21D5, 0x21DB, 1⟩, ⟨0x21DD, 0x21DD, 1⟩,
   ⟨0x21E4, 0x21E5, 1⟩, ⟨0x2308, 0x230B, 1⟩, ⟨0x23B4, 0x23B5, 1⟩, ⟨0x23B7, 0x23B7, 1⟩,
   ⟨0x23D0, 0x23D0, 1⟩, ⟨0x23E2, 0x23E2, 1⟩, ⟨0x25A0, 0x25A1, 1⟩, ⟨0x25AE, 0x25B6, 1⟩,
   ⟨0x25BC, 0x25C0, 1⟩, ⟨0x25C6, 0x25C7, 1⟩, ⟨0x25CA, 0x25CB, 1⟩, ⟨0x25CF, 0x25D3, 1⟩,
   ⟨0x25E2, 0x25E2, 1⟩, ⟨0x25E4, 0x25E4, 1⟩, ⟨0x25E7, 0x25EC, 1⟩, ⟨0x2605, 0x2606, 1⟩,
   ⟨0x2640, 0x2640, 1⟩, ⟨0x2642, 0x2642, 1⟩, ⟨0x2660, 0x2663, 1⟩, ⟨0x266D, 0x266E, 1⟩,
   ⟨0x27C5, 0x27C6, 1⟩, ⟨0x27E6, 0x27EF, 1⟩, ⟨0x2983, 0x2998, 1⟩, ⟨0x29D8, 0x29DB, 1⟩,
   ⟨0x29FC, 0x29FD, 1⟩, ⟨0xFE61, 0xFE61, 1⟩, ⟨0xFE63, 0xFE63, 1⟩, ⟨0xFE68, 0xFE68, 1⟩,
   ⟨0xFF3C, 0xFF3C, 1⟩, ⟨0xFF3E, 0xFF3E, 1⟩, ⟨0x1D400, 0x1D454, 1⟩, ⟨0x1D456, 0x1D49C, 1⟩,
   ⟨0x1D49E, 0x1D49F, 1⟩, ⟨0x1D4A2, 0x1D4A2, 1⟩, ⟨0x1D4A5, 0x1D4A6, 1⟩, ⟨0x1D4A9, 0x1D4AC, 1⟩,
   ⟨0x1D4AE, 0x1D4B9, 1⟩, ⟨0x1D4BB, 0x1D4BB, 1⟩, ⟨0x1D4BD, 0x1D4C3, 1⟩, ⟨0x1D4C5, 0x1D505, 1⟩,
   ⟨0x1D507, 0x1D50A, 1⟩, ⟨0x1D50D, 0x1D514, 1⟩, ⟨0x1D516, 0x1D51C, 1⟩, ⟨0x1D51E, 0x1D539, 1⟩,
   ⟨0x1D53B, 0x1D53E, 1⟩, ⟨0x1D540, 0x1D544, 1⟩, ⟨0x1D546, 0x1D546, 1⟩, ⟨0x1D54A, 0x1D550, 1⟩,
   ⟨0x1D552, 0x1D6A5, 1⟩, ⟨0x1D6A8, 0x1D6C0, 1⟩, ⟨0x1D6C2, 0x1D6DA, 1⟩, ⟨0x1D6DC, 0x1D6FA, 1⟩,
   ⟨0x1D6FC, 0x1D714, 1⟩, ⟨0x1D716, 0x1D734, 1⟩, ⟨0x1D736, 0x1D74E, 1⟩, ⟨0x1D750, 0x1D76E, 1⟩,
   ⟨0x1D770, 0x1D788, 1⟩, ⟨0x1D78A, 0x1D7A8, 1⟩, ⟨0x1D7AA, 0x1D7C2, 1⟩, ⟨0x1D7C4, 0x1D7CB, 1⟩,
   ⟨0x1D7CE, 0x1D7FF, 1⟩, ⟨0x1EE00, 0x1EE03, 1⟩, ⟨0x1EE05, 0x1EE1F, 1⟩, ⟨0x1EE21, 0x1EE22, 1⟩,
   ⟨0x1EE24, 0x1EE24, 1⟩, ⟨0x1EE27, 0x1EE27, 1⟩, ⟨0x1EE29, 0x1EE32, 1⟩, ⟨0x1EE34, 0x1EE37, 1⟩,
   ⟨0x1EE39, 0x1EE39, 1⟩, ⟨0x1EE3B, 0x1EE3B, 1⟩, ⟨0x1EE42, 0x1EE42, 1⟩, ⟨0x1EE47, 0x1EE4B, 2⟩,
   ⟨0x1EE4D, 0x1EE4F, 1⟩, ⟨0x1EE51, 0x1EE52, 1⟩, ⟨0x1EE54, 0x1EE54, 1⟩, ⟨0x1EE57, 0x1EE5F, 2⟩,
   ⟨0x1EE61, 0x1EE62, 1⟩, ⟨0x1EE64, 0x1EE64, 1⟩, ⟨0x1EE67, 0x1EE6A, 1⟩, ⟨0x1EE6C, 0x1EE72, 1⟩,
   ⟨0x1EE74, 0x1EE77, 1⟩, ⟨0x1EE79, 0x1EE7C, 1⟩, ⟨0x1EE7E, 0x1EE7E, 1⟩, ⟨0x1EE80, 0x1EE89, 1⟩,
   ⟨0x1EE8B, 0x1EE9B, 1⟩, ⟨0x1EEA1, 0x1EEA3, 1⟩, ⟨0x1EEA5, 0x1EEA9, 1⟩, ⟨0x1EEAB, 0x1EEBB, 1⟩]

/-- Dashes that are no dash punctuation. -/
def otherDashes : List Band :=
  [⟨0x2053, 0x2053, 1⟩, ⟨0x207B, 0x207B, 1⟩, ⟨0x208B, 0x208B, 1⟩, ⟨0x2212, 0x2212, 1⟩]

def hyphens : List Band :=
  [⟨0x2D, 0x2D, 1⟩, ⟨0xAD, 0xAD, 1⟩, ⟨0x58A, 0x58A, 1⟩, ⟨0x1806, 0x1806, 1⟩,
   ⟨0x2010, 0x2011, 1⟩, ⟨0x2E17, 0x2E17, 1⟩, ⟨0x30FB, 0x30FB, 1⟩, ⟨0xFE63, 0xFE63, 1⟩,
   ⟨0xFF0D, 0xFF0D, 1⟩, ⟨0xFF65, 0xFF65, 1⟩]

def quotationMarks : List Band :=
  [⟨0x22, 0x22, 1⟩, ⟨0x27, 0x27, 1⟩, ⟨0xAB, 0xAB, 1⟩, ⟨0xBB, 0xBB, 1⟩,
   ⟨0x2018, 0x201F, 1⟩, ⟨0x2039, 0x203A, 1⟩, ⟨0x2E42, 0x2E42, 1⟩, ⟨0x300C, 0x300F, 1⟩,
   ⟨0x301D, 0x301F, 1⟩, ⟨0xFE41, 0xFE44, 1⟩, ⟨0xFF02, 0xFF02, 1⟩, ⟨0xFF07, 0xFF07, 1⟩,
   ⟨0xFF62, 0xFF63, 1⟩]

/-- Punctuation at the end of sentences. -/
def sentenceEnds : List Band :=
  [⟨0x21, 0x21, 1⟩, ⟨0x2E, 0x2E, 1⟩, ⟨0x3F, 0x3F, 1⟩, ⟨0x589, 0x589, 1⟩,
   ⟨0x61D, 0x61F, 1⟩, ⟨0x6D4, 0x6D4, 1⟩, ⟨0x700, 0x702, 1⟩, ⟨0x7F9, 0x7F9, 1⟩,
   ⟨0x837, 0x837, 1⟩, ⟨0x839, 0x839, 1⟩, ⟨0x83D, 0x83E, 1⟩, ⟨0x964, 0x965, 1⟩,
   ⟨0x104A, 0x104B, 1⟩, ⟨0x1362, 0x1362, 1⟩, ⟨0x1367, 0x1368, 1⟩, ⟨0x166E, 0x166E, 1⟩,
   ⟨0x1735, 0x1736, 1⟩, ⟨0x17D4, 0x17D5, 1⟩, ⟨0x1803, 0x1803, 1⟩, ⟨0x1809, 0x1809, 1⟩,
   ⟨0x1944, 0x1945, 1⟩, ⟨0x1AA8, 0x1AAB, 1⟩, ⟨0x1B4E, 0x1B4F, 1⟩, ⟨0x1B5A, 0x1B5B, 1⟩,
   ⟨0x1B5E, 0x1B5F, 1⟩, ⟨0x1B7D, 0x1B7F, 1⟩, ⟨0x1C3B, 0x1C3C, 1⟩, ⟨0x1C7E, 0x1C7F, 1⟩,
   ⟨0x2024, 0x2024, 1⟩, ⟨0x203C, 0x203D, 1⟩, ⟨0x2047, 0x2049, 1⟩, ⟨0x2CF9, 0x2CFB, 1⟩,
   ⟨0x2E2E, 0x2E2E, 1⟩, ⟨0x2E3C, 0x2E3C, 1⟩, ⟨0x2E53, 0x2E54, 1⟩, ⟨0x3002, 0x3002, 1⟩,
   ⟨0xA4FF, 0xA4FF, 1⟩, ⟨0xA60E, 0xA60F, 1⟩, ⟨0xA6F3, 0xA6F3, 1⟩, ⟨0xA6F7, 0xA6F7, 1⟩,
   ⟨0xA876, 0xA877, 1⟩, ⟨0xA8CE, 0xA8CF, 1⟩, ⟨0xA92F, 0xA92F, 1⟩, ⟨0xA9C8, 0xA9C9, 1⟩,
   ⟨0xAA5D, 0xAA5F, 1⟩, ⟨0xAAF0, 0xAAF1, 1⟩, ⟨0xABEB, 0xABEB, 1⟩, ⟨0xFE12, 0xFE12, 1⟩,
   ⟨0xFE15, 0xFE16, 1⟩, ⟨0xFE52, 0xFE52, 1⟩, ⟨0xFE56, 0xFE57, 1⟩, ⟨0xFF01, 0xFF01, 1⟩,
   ⟨0xFF0E, 0xFF0E, 1⟩, ⟨0xFF1F, 0xFF1F, 1⟩, ⟨0xFF61, 0xFF61, 1⟩, ⟨0x10A56, 0x10A57, 1⟩,
   ⟨0x10F55, 0x10F59, 1⟩, ⟨0x10F86, 0x10F89, 1⟩, ⟨0x11047, 0x11048, 1⟩, ⟨0x110BE, 0x110C1, 1⟩,
   ⟨0x11141, 0x11143, 1⟩, ⟨0x111C5, 0x111C6, 1⟩, ⟨0x111CD, 0x111CD, 1⟩, ⟨0x111DE, 0x111DF, 1⟩,
   ⟨0x11238, 0x11239, 1⟩, ⟨0x1123B, 0x1123C, 1⟩, ⟨0x112A9, 0x112A9, 1⟩, ⟨0x113D4, 0x113D5, 1⟩,
   ⟨0x1144B, 0x1144C, 1⟩, ⟨0x115C2, 0x115C3, 1⟩, ⟨0x115C9, 0x115D7, 1⟩, ⟨0x11641, 0x11642, 1⟩,
   ⟨0x1173C, 0x1173E, 1⟩, ⟨0x11944, 0x11944, 1⟩, ⟨0x11946, 0x11946, 1⟩, ⟨0x11A42, 0x11A43, 1⟩,
   ⟨0x11A9B, 0x11A9C, 1⟩, ⟨0x11C41, 0x11C42, 1⟩, ⟨0x11EF7, 0x11EF8, 1⟩, ⟨0x11F43, 0x11F44, 1⟩,
   ⟨0x16A6E, 0x16A6F, 1⟩, ⟨0x16AF5, 0x16AF5, 1⟩, ⟨0x16B37, 0x16B38, 1⟩, ⟨0x16B44, 0x16B44, 1⟩,
   ⟨0x16D6E, 0x16D6F, 1⟩, ⟨0x16E98, 0x16E98, 1⟩, ⟨0x1BC9F, 0x1BC9F, 1⟩, ⟨0x1DA88, 0x1DA88, 1⟩]

/-- Punctuation at the end of parts of sentences. -/
def clauseEnds : List Band :=
  [⟨0x2C, 0x2C, 1⟩, ⟨0x3A, 0x3B, 1⟩, ⟨0x37E, 0x37E, 1⟩, ⟨0x387, 0x387, 1⟩,
   ⟨0x5C3, 0x5C3, 1⟩, ⟨0x60C, 0x60C, 1⟩, ⟨0x61B, 0x61B, 1⟩, ⟨0x703, 0x70A, 1⟩,
   ⟨0x70C, 0x70C, 1⟩, ⟨0x7F8, 0x7F8, 1⟩, ⟨0x830, 0x835, 1⟩, ⟨0x838, 0x838, 1⟩,
   ⟨0x83A, 0x83C, 1⟩, ⟨0x85E, 0x85E, 1⟩, ⟨0xE5A, 0xE5B, 1⟩, ⟨0xF08, 0xF08, 1⟩,
   ⟨0xF0D, 0xF12, 1⟩, ⟨0x1361, 0x1361, 1⟩, ⟨0x1363, 0x1366, 1⟩, ⟨0x16EB, 0x16ED, 1⟩,
   ⟨0x17D6, 0x17D6, 1⟩, ⟨0x17DA, 0x17DA, 1⟩, ⟨0x1802, 0x1802, 1⟩, ⟨0x1804, 0x1805, 1⟩,
   ⟨0x1808, 0x1808, 1⟩, ⟨0x1B5D, 0x1B5D, 1⟩, ⟨0x1C3D, 0x1C3F, 1⟩, ⟨0x2E41, 0x2E41, 1⟩,
   ⟨0x2E4C, 0x2E4C, 1⟩, ⟨0x2E4E, 0x2E4F, 1⟩, ⟨0x3001, 0x3001, 1⟩, ⟨0xA4FE, 0xA4FE, 1⟩,
   ⟨0xA60D, 0xA60D, 1⟩, ⟨0xA6F4, 0xA6F6, 1⟩, ⟨0xA9C7, 0xA9C7, 1⟩, ⟨0xAADF, 0xAADF, 1⟩,
   ⟨0xFE50, 0xFE51, 1⟩, ⟨0xFE54, 0xFE55, 1⟩, ⟨0xFF0C, 0xFF0C, 1⟩, ⟨0xFF1A, 0xFF1B, 1⟩,
   ⟨0xFF64, 0xFF64, 1⟩, ⟨0x1039F, 0x1039F, 1⟩, ⟨0x103D0, 0x103D0, 1⟩, ⟨0x10857, 0x10857, 1⟩,
   ⟨0x1091F, 0x1091F, 1⟩, ⟨0x10AF0, 0x10AF5, 1⟩, ⟨0x10B3A, 0x10B3F, 1⟩, ⟨0x10B99, 0x10B9C, 1⟩,
   ⟨0x11049, 0x1104D, 1⟩, ⟨0x1123A, 0x1123A, 1⟩, ⟨0x1144D, 0x1144D, 1⟩, ⟨0x1145A, 0x1145B, 1⟩,
   ⟨0x115C4, 0x115C5, 1⟩, ⟨0x11AA1, 0x11AA2, 1⟩, ⟨0x11C43, 0x11C43, 1⟩, ⟨0x11C71, 0x11C71, 1⟩,
   ⟨0x12470, 0x12474, 1⟩, ⟨0x16B39, 0x16B39, 1⟩, ⟨0x16E97, 0x16E97, 1⟩, ⟨0x1DA87, 0x1DA87, 1⟩,
   ⟨0x1DA89, 0x1DA8A, 1⟩]

/-- Hexadecimal digits, in ASCII and in full width. -/
def hexDigitForms : List Band :=
  [⟨0x30, 0x39, 1⟩, ⟨0x41, 0x46, 1⟩, ⟨0x61, 0x66, 1⟩, ⟨0xFF10, 0xFF19, 1⟩,
   ⟨0xFF21, 0xFF26, 1⟩, ⟨0xFF41, 0xFF46, 1⟩]

def diacritics : List Band :=
  [⟨0x5E, 0x5E, 1⟩, ⟨0x60, 0x60, 1⟩, ⟨0xA8, 0xA8, 1⟩, ⟨0xAF, 0xAF, 1⟩,
   ⟨0xB4, 0xB4, 1⟩, ⟨0xB7, 0xB8, 1⟩, ⟨0x2B0, 0x34E, 1⟩, ⟨0x350, 0x357, 1⟩,
   ⟨0x35D, 0x362, 1⟩, ⟨0x374, 0x375, 1⟩, ⟨0x37A, 0x37A, 1⟩, ⟨0x384, 0x385, 1⟩,
   ⟨0x483, 0x487, 1⟩, ⟨0x559, 0x559, 1⟩, ⟨0x591, 0x5A1, 1⟩, ⟨0x5A3, 0x5BD, 1⟩,
   ⟨0x5BF, 0x5BF, 1⟩, ⟨0x5C1, 0x5C2, 1⟩, ⟨0x5C4, 0x5C4, 1⟩, ⟨0x64B, 0x652, 1⟩,
   ⟨0x657, 0x658, 1⟩, ⟨0x6DF, 0x6E0, 1⟩, ⟨0x6E5, 0x6E6, 1⟩, ⟨0x6EA, 0x6EC, 1⟩,
   ⟨0x730, 0x74A, 1⟩, ⟨0x7A6, 0x7B0, 1⟩, ⟨0x7EB, 0x7F5, 1⟩, ⟨0x818, 0x819, 1⟩,
   ⟨0x898, 0x89F, 1⟩, ⟨0x8C9, 0x8D2, 1⟩, ⟨0x8E3, 0x8FE, 1⟩, ⟨0x93C, 0x93C, 1⟩,
   ⟨0x94D, 0x94D, 1⟩, ⟨0x951, 0x954, 1⟩, ⟨0x971, 0x971, 1⟩, ⟨0x9BC, 0x9BC, 1⟩,
   ⟨0x9CD, 0x9CD, 1⟩, ⟨0xA3C, 0xA3C, 1⟩, ⟨0xA4D, 0xA4D, 1⟩, ⟨0xABC, 0xABC, 1⟩,
   ⟨0xACD, 0xACD, 1⟩, ⟨0xAFD, 0xAFF, 1⟩, ⟨0xB3C, 0xB3C, 1⟩, ⟨0xB4D, 0xB4D, 1⟩,
   ⟨0xB55, 0xB55, 1⟩, ⟨0xBCD, 0xBCD, 1⟩, ⟨0xC3C, 0xC3C, 1⟩, ⟨0xC4D, 0xC4D, 1⟩,
   ⟨0xCBC, 0xCBC, 1⟩, ⟨0xCCD, 0xCCD, 1⟩, ⟨0xD3B, 0xD3C, 1⟩, ⟨0xD4D, 0xD4D, 1⟩,
   ⟨0xDCA, 0xDCA, 1⟩, ⟨0xE3A, 0xE3A, 1⟩, ⟨0xE47, 0xE4C, 1⟩, ⟨0xE4E, 0xE4E, 1⟩,
   ⟨0xEBA, 0xEBA, 1⟩, ⟨0xEC8, 0xECC, 1⟩, ⟨0xF18, 0xF19, 1⟩, ⟨0xF35, 0xF39, 2⟩,
   ⟨0xF3E, 0xF3F, 1⟩, ⟨0xF82, 0xF84, 1⟩, ⟨0xF86, 0xF87, 1⟩, ⟨0xFC6, 0xFC6, 1⟩,
   ⟨0x1037, 0x1037, 1⟩, ⟨0x1039, 0x103A, 1⟩, ⟨0x1063, 0x1064, 1⟩, ⟨0x1069, 0x106D, 1⟩,
   ⟨0x1087, 0x108D, 1⟩, ⟨0x108F, 0x108F, 1⟩, ⟨0x109A, 0x109B, 1⟩, ⟨0x135D, 0x135F, 1⟩,
   ⟨0x1714, 0x1715, 1⟩, ⟨0x1734, 0x1734, 1⟩, ⟨0x17C9, 0x17D3, 1⟩, ⟨0x17DD, 0x17DD, 1⟩,
   ⟨0x1939, 0x193B, 1⟩, ⟨0x1A60, 0x1A60, 1⟩, ⟨0x1A75, 0x1A7C, 1⟩, ⟨0x1A7F, 0x1A7F, 1⟩,
   ⟨0x1AB0, 0x1ABE, 1⟩, ⟨0x1AC1, 0x1ACB, 1⟩, ⟨0x1B34, 0x1B34, 1⟩, ⟨0x1B44, 0x1B44, 1⟩,
   ⟨0x1B6B, 0x1B73, 1⟩, ⟨0x1BAA, 0x1BAB, 1⟩, ⟨0x1BE6, 0x1BE6, 1⟩, ⟨0x1BF2, 0x1BF3, 1⟩,
   ⟨0x1C36, 0x1C37, 1⟩, ⟨0x1C78, 0x1C7D, 1⟩, ⟨0x1CD0, 0x1CE8, 1⟩, ⟨0x1CED, 0x1CED, 1⟩,
   ⟨0x1CF4, 0x1CF4, 1⟩, ⟨0x1CF7, 0x1CF9, 1⟩, ⟨0x1D2C, 0x1D6A, 1⟩, ⟨0x1DC4, 0x1DCF, 1⟩,
   ⟨0x1DF5, 0x1DFF, 1⟩, ⟨0x1FBD, 0x1FBD, 1⟩, ⟨0x1FBF, 0x1FC1, 1⟩, ⟨0x1FCD, 0x1FCF, 1⟩,
   ⟨0x1FDD, 0x1FDF, 1⟩, ⟨0x1FED, 0x1FEF, 1⟩, ⟨0x1FFD, 0x1FFE, 1⟩, ⟨0x2CEF, 0x2CF1, 1⟩,
   ⟨0x2E2F, 0x2E2F, 1⟩, ⟨0x302A, 0x302F, 1⟩, ⟨0x3099, 0x309C, 1⟩, ⟨0x30FC, 0x30FC, 1⟩,
   ⟨0xA66F, 0xA66F, 1⟩, ⟨0xA67C, 0xA67D, 1⟩, ⟨0xA67F, 0xA67F, 1⟩, ⟨0xA69C, 0xA69D, 1⟩,
   ⟨0xA6F0, 0xA6F1, 1⟩, ⟨0xA700, 0xA721, 1⟩, ⟨0xA788, 0xA78A, 1⟩, ⟨0xA7F8, 0xA7F9, 1⟩,
   ⟨0xA806, 0xA806, 1⟩, ⟨0xA82C, 0xA82C, 1⟩, ⟨0xA8C4, 0xA8C4, 1⟩, ⟨0xA8E0, 0xA8F1, 1⟩,
   ⟨0xA92B, 0xA92E, 1⟩, ⟨0xA953, 0xA953, 1⟩, ⟨0xA9B3, 0xA9B3, 1⟩, ⟨0xA9C0, 0xA9C0, 1⟩,
   ⟨0xA9E5, 0xA9E5, 1⟩, ⟨0xAA7B, 0xAA7D, 1⟩, ⟨0xAABF, 0xAAC2, 1⟩, ⟨0xAAF6, 0xAAF6, 1⟩,
   ⟨0xAB5B, 0xAB5F, 1⟩, ⟨0xAB69, 0xAB6B, 1⟩, ⟨0xABEC, 0xABED, 1⟩, ⟨0xFB1E, 0xFB1E, 1⟩,
   ⟨0xFE20, 0xFE2F, 1⟩, ⟨0xFF3E, 0xFF3E, 1⟩, ⟨0xFF40, 0xFF40, 1⟩, ⟨0xFF70, 0xFF70, 1⟩,
   ⟨0xFF9E, 0xFF9F, 1⟩, ⟨0xFFE3, 0xFFE3, 1⟩, ⟨0x102E0, 0x102E0, 1⟩, ⟨0x10780, 0x10785, 1⟩,
   ⟨0x10787, 0x107B0, 1⟩, ⟨0x107B2, 0x107BA, 1⟩, ⟨0x10A38, 0x10A3A, 1⟩, ⟨0x10A3F, 0x10A3F, 1⟩,
   ⟨0x10AE5, 0x10AE6, 1⟩, ⟨0x10D22, 0x10D27, 1⟩, ⟨0x10D4E, 0x10D4E, 1⟩, ⟨0x10D69, 0x10D6D, 1⟩,
   ⟨0x10EFD, 0x10EFF, 1⟩, ⟨0x10F46, 0x10F50, 1⟩, ⟨0x10F82, 0x10F85, 1⟩, ⟨0x11046, 0x11046, 1⟩,
   ⟨0x11070, 0x11070, 1⟩, ⟨0x110B9, 0x110BA, 1⟩, ⟨0x11133, 0x11134, 1⟩, ⟨0x11173, 0x11173, 1⟩,
   ⟨0x111C0, 0x111C0, 1⟩, ⟨0x111CA, 0x111CC, 1⟩, ⟨0x11235, 0x11236, 1⟩, ⟨0x112E9, 0x112EA, 1⟩,
   ⟨0x1133B, 0x1133C, 1⟩, ⟨0x1134D, 0x1134D, 1⟩, ⟨0x11366, 0x1136C, 1⟩, ⟨0x11370, 0x11374, 1⟩,
   ⟨0x113CE, 0x113D0, 1⟩, ⟨0x113D2, 0x113D3, 1⟩, ⟨0x113E1, 0x113E2, 1⟩, ⟨0x11442, 0x11442, 1⟩,
   ⟨0x11446, 0x11446, 1⟩, ⟨0x114C2, 0x114C3, 1⟩, ⟨0x115BF, 0x115C0, 1⟩, ⟨0x1163F, 0x1163F, 1⟩,
   ⟨0x116B6, 0x116B7, 1⟩, ⟨0x1172B, 0x1172B, 1⟩, ⟨0x11839, 0x1183A, 1⟩, ⟨0x1193D, 0x1193E, 1⟩,
   ⟨0x11943, 0x11943, 1⟩, ⟨0x119E0, 0x119E0, 1⟩, ⟨0x11A34, 0x11A34, 1⟩, ⟨0x11A47, 0x11A47, 1⟩,
   ⟨0x11A99, 0x11A99, 1⟩, ⟨0x11C3F, 0x11C3F, 1⟩, ⟨0x11D42, 0x11D42, 1⟩, ⟨0x11D44, 0x11D45, 1⟩,
   ⟨0x11D97, 0x11D97, 1⟩, ⟨0x11F41, 0x11F42, 1⟩, ⟨0x11F5A, 0x11F5A, 1⟩, ⟨0x13447, 0x13455, 1⟩,
   ⟨0x1612F, 0x1612F, 1⟩, ⟨0x16AF0, 0x16AF4, 1⟩, ⟨0x16B30, 0x16B36, 1⟩, ⟨0x16D6B, 0x16D6C, 1⟩,
   ⟨0x16F8F, 0x16F9F, 1⟩, ⟨0x16FF0, 0x16FF1, 1⟩, ⟨0x1AFF0, 0x1AFF3, 1⟩, ⟨0x1AFF5, 0x1AFFB, 1⟩,
   ⟨0x1AFFD, 0x1AFFE, 1⟩, ⟨0x1CF00, 0x1CF2D, 1⟩, ⟨0x1CF30, 0x1CF46, 1⟩, ⟨0x1D167, 0x1D169, 1⟩,
   ⟨0x1D16D, 0x1D172, 1⟩, ⟨0x1D17B, 0x1D182, 1⟩, ⟨0x1D185, 0x1D18B, 1⟩, ⟨0x1D1AA, 0x1D1AD, 1⟩,
   ⟨0x1E030, 0x1E06D, 1⟩, ⟨0x1E130, 0x1E136, 1⟩, ⟨0x1E2AE, 0x1E2AE, 1⟩, ⟨0x1E2EC, 0x1E2EF, 1⟩,
   ⟨0x1E5EE, 0x1E5EF, 1⟩, ⟨0x1E8D0, 0x1E8D6, 1⟩, ⟨0x1E944, 0x1E946, 1⟩, ⟨0x1E948, 0x1E94A, 1⟩]

/-- Characters that lengthen the sound before them. -/
def extenders : List Band :=
  [⟨0xB7, 0xB7, 1⟩, ⟨0x2D0, 0x2D1, 1⟩, ⟨0x640, 0x640, 1⟩, ⟨0x7FA, 0x7FA, 1⟩,
   ⟨0xA71, 0xA71, 1⟩, ⟨0xAFB, 0xAFB, 1⟩, ⟨0xB55, 0xB55, 1⟩, ⟨0xE46, 0xE46, 1⟩,
   ⟨0xEC6, 0xEC6, 1⟩, ⟨0x180A, 0x180A, 1⟩, ⟨0x1843, 0x1843, 1⟩, ⟨0x1AA7, 0x1AA7, 1⟩,
   ⟨0x1C36, 0x1C36, 1⟩, ⟨0x1C7B, 0x1C7B, 1⟩, ⟨0x3005, 0x3005, 1⟩, ⟨0x3031, 0x3035, 1⟩,
   ⟨0x309D, 0x309E, 1⟩, ⟨0x30FC, 0x30FE, 1⟩, ⟨0xA015, 0xA015, 1⟩, ⟨0xA60C, 0xA60C, 1⟩,
   ⟨0xA9CF, 0xA9CF, 1⟩, ⟨0xA9E6, 0xA9E6, 1⟩, ⟨0xAA70, 0xAA70, 1⟩, ⟨0xAADD, 0xAADD, 1⟩,
   ⟨0xAAF3, 0xAAF4, 1⟩, ⟨0xFF70, 0xFF70, 1⟩, ⟨0x10781, 0x10782, 1⟩, ⟨0x10D4E, 0x10D4E, 1⟩,
   ⟨0x10D6A, 0x10D6A, 1⟩, ⟨0x10D6F, 0x10D6F, 1⟩, ⟨0x11237, 0x11237, 1⟩, ⟨0x1135D, 0x1135D, 1⟩,
   ⟨0x113D2, 0x113D3, 1⟩, ⟨0x115C6, 0x115C8, 1⟩, ⟨0x11A98, 0x11A98, 1⟩, ⟨0x16B42, 0x16B43, 1⟩,
   ⟨0x16FE0, 0x16FE1, 1⟩, ⟨0x16FE3, 0x16FE3, 1⟩, ⟨0x1E13C, 0x1E13D, 1⟩, ⟨0x1E5EF, 0x1E5EF, 1⟩,
   ⟨0x1E944, 0x1E946, 1⟩]

/-- Letters with a dot that disappears under an accent. -/
def softDotted : List Band :=
  [⟨0x69, 0x6A, 1⟩, ⟨0x12F, 0x12F, 1⟩, ⟨0x249, 0x249, 1⟩, ⟨0x268, 0x268, 1⟩,
   ⟨0x29D, 0x29D, 1⟩, ⟨0x2B2, 0x2B2, 1⟩, ⟨0x3F3, 0x3F3, 1⟩, ⟨0x456, 0x456, 1⟩,
   ⟨0x458, 0x458, 1⟩, ⟨0x1D62, 0x1D62, 1⟩, ⟨0x1D96, 0x1D96, 1⟩, ⟨0x1DA4, 0x1DA4, 1⟩,
   ⟨0x1DA8, 0x1DA8, 1⟩, ⟨0x1E2D, 0x1E2D, 1⟩, ⟨0x1ECB, 0x1ECB, 1⟩, ⟨0x2071, 0x2071, 1⟩,
   ⟨0x2148, 0x2149, 1⟩, ⟨0x2C7C, 0x2C7C, 1⟩, ⟨0x1D422, 0x1D423, 1⟩, ⟨0x1D456, 0x1D457, 1⟩,
   ⟨0x1D48A, 0x1D48B, 1⟩, ⟨0x1D4BE, 0x1D4BF, 1⟩, ⟨0x1D4F2, 0x1D4F3, 1⟩, ⟨0x1D526, 0x1D527, 1⟩,
   ⟨0x1D55A, 0x1D55B, 1⟩, ⟨0x1D58E, 0x1D58F, 1⟩, ⟨0x1D5C2, 0x1D5C3, 1⟩, ⟨0x1D5F6, 0x1D5F7, 1⟩,
   ⟨0x1D62A, 0x1D62B, 1⟩, ⟨0x1D65E, 0x1D65F, 1⟩, ⟨0x1D692, 0x1D693, 1⟩, ⟨0x1DF1A, 0x1DF1A, 1⟩,
   ⟨0x1E04C, 0x1E04D, 1⟩, ⟨0x1E068, 0x1E068, 1⟩]

/-- Characters whose image is mirrored in text from right to left. -/
def mirrored : List Band :=
  [⟨0x28, 0x29, 1⟩, ⟨0x3C, 0x3C, 1⟩, ⟨0x3E, 0x3E, 1⟩, ⟨0x5B, 0x5B, 1⟩,
   ⟨0x5D, 0x5D, 1⟩, ⟨0x7B, 0x7B, 1⟩, ⟨0x7D, 0x7D, 1⟩, ⟨0xAB, 0xAB, 1⟩,
   ⟨0xBB, 0xBB, 1⟩, ⟨0xF3A, 0xF3D, 1⟩, ⟨0x169B, 0x169C, 1⟩, ⟨0x2039, 0x203A, 1⟩,
   ⟨0x2045, 0x2046, 1⟩, ⟨0x207D, 0x207E, 1⟩, ⟨0x208D, 0x208E, 1⟩, ⟨0x2140, 0x2140, 1⟩,
   ⟨0x2201, 0x2204, 1⟩, ⟨0x2208, 0x220D, 1⟩, ⟨0x2211, 0x2211, 1⟩, ⟨0x2215, 0x2216, 1⟩,
   ⟨0x221A, 0x221D, 1⟩, ⟨0x221F, 0x2222, 1⟩, ⟨0x2224, 0x2224, 1⟩, ⟨0x2226, 0x2226, 1⟩,
   ⟨0x222B, 0x2233, 1⟩, ⟨0x2239, 0x2239, 1⟩, ⟨0x223B, 0x224C, 1⟩, ⟨0x2252, 0x2255, 1⟩,
   ⟨0x225F, 0x2260, 1⟩, ⟨0x2262, 0x2262, 1⟩, ⟨0x2264, 0x226B, 1⟩, ⟨0x226D, 0x228C, 1⟩,
   ⟨0x228F, 0x2292, 1⟩, ⟨0x2298, 0x2298, 1⟩, ⟨0x22A2, 0x22A3, 1⟩, ⟨0x22A6, 0x22B8, 1⟩,
   ⟨0x22BE, 0x22BF, 1⟩, ⟨0x22C9, 0x22CD, 1⟩, ⟨0x22D0, 0x22D1, 1⟩, ⟨0x22D6, 0x22ED, 1⟩,
   ⟨0x22F0, 0x22FF, 1⟩, ⟨0x2308, 0x230B, 1⟩, ⟨0x2320, 0x2321, 1⟩, ⟨0x2329, 0x232A, 1⟩,
   ⟨0x2768, 0x2775, 1⟩, ⟨0x27C0, 0x27C0, 1⟩, ⟨0x27C3, 0x27C6, 1⟩, ⟨0x27C8, 0x27C9, 1⟩,
   ⟨0x27CB, 0x27CD, 1⟩, ⟨0x27D3, 0x27D6, 1⟩, ⟨0x27DC, 0x27DE, 1⟩, ⟨0x27E2, 0x27EF, 1⟩,
   ⟨0x2983, 0x2998, 1⟩, ⟨0x299B, 0x29A0, 1⟩, ⟨0x29A2, 0x29AF, 1⟩, ⟨0x29B8, 0x29B8, 1⟩,
   ⟨0x29C0, 0x29C5, 1⟩, ⟨0x29C9, 0x29C9, 1⟩, ⟨0x29CE, 0x29D2, 1⟩, ⟨0x29D4, 0x29D5, 1⟩,
   ⟨0x29D8, 0x29DC, 1⟩, ⟨0x29E1, 0x29E1, 1⟩, ⟨0x29E3, 0x29E5, 1⟩, ⟨0x29E8, 0x29E9, 1⟩,
   ⟨0x29F4, 0x29F9, 1⟩, ⟨0x29FC, 0x29FD, 1⟩, ⟨0x2A0A, 0x2A1C, 1⟩, ⟨0x2A1E, 0x2A21, 1⟩,
   ⟨0x2A24, 0x2A24, 1⟩, ⟨0x2A26, 0x2A26, 1⟩, ⟨0x2A29, 0x2A29, 1⟩, ⟨0x2A2B, 0x2A2E, 1⟩,
   ⟨0x2A34, 0x2A35, 1⟩, ⟨0x2A3C, 0x2A3E, 1⟩, ⟨0x2A57, 0x2A58, 1⟩, ⟨0x2A64, 0x2A65, 1⟩,
   ⟨0x2A6A, 0x2A6D, 1⟩, ⟨0x2A6F, 0x2A70, 1⟩, ⟨0x2A73, 0x2A74, 1⟩, ⟨0x2A79, 0x2AA3, 1⟩,
   ⟨0x2AA6, 0x2AAD, 1⟩, ⟨0x2AAF, 0x2AD6, 1⟩, ⟨0x2ADC, 0x2ADC, 1⟩, ⟨0x2ADE, 0x2ADE, 1⟩,
   ⟨0x2AE2, 0x2AE6, 1⟩, ⟨0x2AEC, 0x2AEE, 1⟩, ⟨0x2AF3, 0x2AF3, 1⟩, ⟨0x2AF7, 0x2AFB, 1⟩,
   ⟨0x2AFD, 0x2AFD, 1⟩, ⟨0x2BFE, 0x2BFE, 1⟩, ⟨0x2E02, 0x2E05, 1⟩, ⟨0x2E09, 0x2E0A, 1⟩,
   ⟨0x2E0C, 0x2E0D, 1⟩, ⟨0x2E1C, 0x2E1D, 1⟩, ⟨0x2E20, 0x2E29, 1⟩, ⟨0x2E55, 0x2E5C, 1⟩,
   ⟨0x3008, 0x3011, 1⟩, ⟨0x3014, 0x301B, 1⟩, ⟨0xFE59, 0xFE5E, 1⟩, ⟨0xFE64, 0xFE65, 1⟩,
   ⟨0xFF08, 0xFF09, 1⟩, ⟨0xFF1C, 0xFF1C, 1⟩, ⟨0xFF1E, 0xFF1E, 1⟩, ⟨0xFF3B, 0xFF3B, 1⟩,
   ⟨0xFF3D, 0xFF3D, 1⟩, ⟨0xFF5B, 0xFF5B, 1⟩, ⟨0xFF5D, 0xFF5D, 1⟩, ⟨0xFF5F, 0xFF60, 1⟩,
   ⟨0xFF62, 0xFF63, 1⟩, ⟨0x1D6DB, 0x1D6DB, 1⟩, ⟨0x1D715, 0x1D715, 1⟩, ⟨0x1D74F, 0x1D74F, 1⟩,
   ⟨0x1D789, 0x1D789, 1⟩, ⟨0x1D7C3, 0x1D7C3, 1⟩]

end PatternGrammar.Unicode
