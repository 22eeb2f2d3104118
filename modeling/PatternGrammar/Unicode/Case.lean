import PatternGrammar.Unicode.Band

/-!
# Letter case

Where the letter case of a character does not follow from its general category, in version 16 of the Unicode character
database: the characters that have a category with case but no other form, and the characters that case skips over.
-/

namespace PatternGrammar.Unicode

/-- Upper-case and title-case characters without a lower-case form. -/
def plainCapitals : List Band :=
  [⟨0x3D2, 0x3D4, 1⟩, ⟨0x2102, 0x2102, 1⟩, ⟨0x2107, 0x2107, 1⟩, ⟨0x210B, 0x210D, 1⟩,
   ⟨0x2110, 0x2112, 1⟩, ⟨0x2115, 0x2115, 1⟩, ⟨0x2119, 0x211D, 1⟩, ⟨0x2124, 0x2124, 1⟩,
   ⟨0x2128, 0x2128, 1⟩, ⟨0x212C, 0x212D, 1⟩, ⟨0x2130, 0x2131, 1⟩, ⟨0x2133, 0x2133, 1⟩,
   ⟨0x213E, 0x213F, 1⟩, ⟨0x2145, 0x2145, 1⟩, ⟨0x1D400, 0x1D419, 1⟩, ⟨0x1D434, 0x1D44D, 1⟩,
   ⟨0x1D468, 0x1D481, 1⟩, ⟨0x1D49C, 0x1D49C, 1⟩, ⟨0x1D49E, 0x1D49F, 1⟩, ⟨0x1D4A2, 0x1D4A2, 1⟩,
   ⟨0x1D4A5, 0x1D4A6, 1⟩, ⟨0x1D4A9, 0x1D4AC, 1⟩, ⟨0x1D4AE, 0x1D4B5, 1⟩, ⟨0x1D4D0, 0x1D4E9, 1⟩,
   ⟨0x1D504, 0x1D505, 1⟩, ⟨0x1D507, 0x1D50A, 1⟩, ⟨0x1D50D, 0x1D514, 1⟩, ⟨0x1D516, 0x1D51C, 1⟩,
   ⟨0x1D538, 0x1D539, 1⟩, ⟨0x1D53B, 0x1D53E, 1⟩, ⟨0x1D540, 0x1D544, 1⟩, ⟨0x1D546, 0x1D546, 1⟩,
   ⟨0x1D54A, 0x1D550, 1⟩, ⟨0x1D56C, 0x1D585, 1⟩, ⟨0x1D5A0, 0x1D5B9, 1⟩, ⟨0x1D5D4, 0x1D5ED, 1⟩,
   ⟨0x1D608, 0x1D621, 1⟩, ⟨0x1D63C, 0x1D655, 1⟩, ⟨0x1D670, 0x1D689, 1⟩, ⟨0x1D6A8, 0x1D6C0, 1⟩,
   ⟨0x1D6E2, 0x1D6FA, 1⟩, ⟨0x1D71C, 0x1D734, 1⟩, ⟨0x1D756, 0x1D76E, 1⟩, ⟨0x1D790, 0x1D7A8, 1⟩,
   ⟨0x1D7CA, 0x1D7CA, 1⟩, ⟨0x1F130, 0x1F149, 1⟩, ⟨0x1F150, 0x1F169, 1⟩, ⟨0x1F170, 0x1F189, 1⟩]

/-- Lower-case characters without an upper-case form. -/
def plainSmalls : List Band :=
  [⟨0xAA, 0xAA, 1⟩, ⟨0xBA, 0xBA, 1⟩, ⟨0x138, 0x138, 1⟩, ⟨0x18D, 0x18D, 1⟩,
   ⟨0x1AA, 0x1AB, 1⟩, ⟨0x1BA, 0x1BA, 1⟩, ⟨0x1BE, 0x1BE, 1⟩, ⟨0x221, 0x221, 1⟩,
   ⟨0x234, 0x239, 1⟩, ⟨0x255, 0x255, 1⟩, ⟨0x258, 0x258, 1⟩, ⟨0x25A, 0x25A, 1⟩,
   ⟨0x25D, 0x25F, 1⟩, ⟨0x262, 0x262, 1⟩, ⟨0x267, 0x267, 1⟩, ⟨0x26D, 0x26E, 1⟩,
   ⟨0x270, 0x270, 1⟩, ⟨0x273, 0x274, 1⟩, ⟨0x276, 0x27C, 1⟩, ⟨0x27E, 0x27F, 1⟩,
   ⟨0x281, 0x281, 1⟩, ⟨0x284, 0x286, 1⟩, ⟨0x28D, 0x291, 1⟩, ⟨0x293, 0x293, 1⟩,
   ⟨0x295, 0x29C, 1⟩, ⟨0x29F, 0x2B8, 1⟩, ⟨0x2C0, 0x2C1, 1⟩, ⟨0x2E0, 0x2E4, 1⟩,
   ⟨0x37A, 0x37A, 1⟩, ⟨0x3FC, 0x3FC, 1⟩, ⟨0x560, 0x560, 1⟩, ⟨0x588, 0x588, 1⟩,
   ⟨0x10FC, 0x10FC, 1⟩, ⟨0x1D00, 0x1D78, 1⟩, ⟨0x1D7A, 0x1D7C, 1⟩, ⟨0x1D7E, 0x1D8D, 1⟩,
   ⟨0x1D8F, 0x1DBF, 1⟩, ⟨0x1E9C, 0x1E9D, 1⟩, ⟨0x1E9F, 0x1E9F, 1⟩, ⟨0x2071, 0x2071, 1⟩,
   ⟨0x207F, 0x207F, 1⟩, ⟨0x2090, 0x209C, 1⟩, ⟨0x210A, 0x210A, 1⟩, ⟨0x210E, 0x210F, 1⟩,
   ⟨0x2113, 0x2113, 1⟩, ⟨0x212F, 0x212F, 1⟩, ⟨0x2134, 0x2134, 1⟩, ⟨0x2139, 0x2139, 1⟩,
   ⟨0x213C, 0x213D, 1⟩, ⟨0x2146, 0x2149, 1⟩, ⟨0x2C71, 0x2C71, 1⟩, ⟨0x2C74, 0x2C74, 1⟩,
   ⟨0x2C77, 0x2C7D, 1⟩, ⟨0x2CE4, 0x2CE4, 1⟩, ⟨0xA69C, 0xA69D, 1⟩, ⟨0xA730, 0xA731, 1⟩,
   ⟨0xA770, 0xA778, 1⟩, ⟨0xA78E, 0xA78E, 1⟩, ⟨0xA795, 0xA795, 1⟩, ⟨0xA7AF, 0xA7AF, 1⟩,
   ⟨0xA7D3, 0xA7D3, 1⟩, ⟨0xA7D5, 0xA7D5, 1⟩, ⟨0xA7F2, 0xA7F4, 1⟩, ⟨0xA7F8, 0xA7FA, 1⟩,
   ⟨0xAB30, 0xAB52, 1⟩, ⟨0xAB54, 0xAB5A, 1⟩, ⟨0xAB5C, 0xAB69, 1⟩, ⟨0x10780, 0x10780, 1⟩,
   ⟨0x10783, 0x10785, 1⟩, ⟨0x10787, 0x107B0, 1⟩, ⟨0x107B2, 0x107BA, 1⟩, ⟨0x1D41A, 0x1D433, 1⟩,
   ⟨0x1D44E, 0x1D454, 1⟩, ⟨0x1D456, 0x1D467, 1⟩, ⟨0x1D482, 0x1D49B, 1⟩, ⟨0x1D4B6, 0x1D4B9, 1⟩,
   ⟨0x1D4BB, 0x1D4BB, 1⟩, ⟨0x1D4BD, 0x1D4C3, 1⟩, ⟨0x1D4C5, 0x1D4CF, 1⟩, ⟨0x1D4EA, 0x1D503, 1⟩,
   ⟨0x1D51E, 0x1D537, 1⟩, ⟨0x1D552, 0x1D56B, 1⟩, ⟨0x1D586, 0x1D59F, 1⟩, ⟨0x1D5BA, 0x1D5D3, 1⟩,
   ⟨0x1D5EE, 0x1D607, 1⟩, ⟨0x1D622, 0x1D63B, 1⟩, ⟨0x1D656, 0x1D66F, 1⟩, ⟨0x1D68A, 0x1D6A5, 1⟩,
   ⟨0x1D6C2, 0x1D6DA, 1⟩, ⟨0x1D6DC, 0x1D6E1, 1⟩, ⟨0x1D6FC, 0x1D714, 1⟩, ⟨0x1D716, 0x1D71B, 1⟩,
   ⟨0x1D736, 0x1D74E, 1⟩, ⟨0x1D750, 0x1D755, 1⟩, ⟨0x1D770, 0x1D788, 1⟩, ⟨0x1D78A, 0x1D78F, 1⟩,
   ⟨0x1D7AA, 0x1D7C2, 1⟩, ⟨0x1D7C4, 0x1D7C9, 1⟩, ⟨0x1D7CB, 0x1D7CB, 1⟩, ⟨0x1DF00, 0x1DF09, 1⟩,
   ⟨0x1DF0B, 0x1DF1E, 1⟩, ⟨0x1DF25, 0x1DF2A, 1⟩, ⟨0x1E030, 0x1E06D, 1⟩]

/-- Upper-case digraphs, whose title-case form has a small second letter. -/
def capitalDigraphs : List Band :=
  [⟨0x1C4, 0x1C4, 1⟩, ⟨0x1C7, 0x1C7, 1⟩, ⟨0x1CA, 0x1CA, 1⟩, ⟨0x1F1, 0x1F1, 1⟩]

/-- Characters with an upper-case form that are their own title-case form. -/
def titleForms : List Band :=
  [⟨0x1C5, 0x1C5, 1⟩, ⟨0x1C8, 0x1C8, 1⟩, ⟨0x1CB, 0x1CB, 1⟩, ⟨0x1F2, 0x1F2, 1⟩,
   ⟨0x10D0, 0x10FA, 1⟩, ⟨0x10FD, 0x10FF, 1⟩, ⟨0x1F88, 0x1F8F, 1⟩, ⟨0x1F98, 0x1F9F, 1⟩,
   ⟨0x1FA8, 0x1FAF, 1⟩, ⟨0x1FBC, 0x1FBC, 1⟩, ⟨0x1FCC, 0x1FCC, 1⟩, ⟨0x1FFC, 0x1FFC, 1⟩]

/-- Characters that fold to others though they have no lower-case form. -/
def foldedSmalls : List Band :=
  [⟨0xB5, 0xB5, 1⟩, ⟨0xDF, 0xDF, 1⟩, ⟨0x149, 0x149, 1⟩, ⟨0x17F, 0x17F, 1⟩,
   ⟨0x345, 0x345, 1⟩, ⟨0x3C2, 0x3C2, 1⟩, ⟨0x3D0, 0x3D1, 1⟩, ⟨0x3D5, 0x3D6, 1⟩,
   ⟨0x3F0, 0x3F1, 1⟩, ⟨0x3F5, 0x3F5, 1⟩, ⟨0x587, 0x587, 1⟩, ⟨0x13F8, 0x13FD, 1⟩,
   ⟨0x1C80, 0x1C88, 1⟩, ⟨0x1E9A, 0x1E9B, 1⟩, ⟨0x1F80, 0x1F87, 1⟩, ⟨0x1F90, 0x1F97, 1⟩,
   ⟨0x1FA0, 0x1FA7, 1⟩, ⟨0x1FB2, 0x1FB4, 1⟩, ⟨0x1FB7, 0x1FB7, 1⟩, ⟨0x1FC2, 0x1FC4, 1⟩,
   ⟨0x1FC7, 0x1FC7, 1⟩, ⟨0x1FF2, 0x1FF4, 1⟩, ⟨0x1FF7, 0x1FF7, 1⟩, ⟨0xAB70, 0xABBF, 1⟩,
   ⟨0xFB00, 0xFB06, 1⟩, ⟨0xFB13, 0xFB17, 1⟩]

/-- Capitals to which their small letters fold. -/
def unfoldedCapitals : List Band :=
  [⟨0x13A0, 0x13F5, 1⟩]

/-- Punctuation inside words, which case skips over. -/
def caseIgnorableSigns : List Band :=
  [⟨0x27, 0x27, 1⟩, ⟨0x2E, 0x2E, 1⟩, ⟨0x3A, 0x3A, 1⟩, ⟨0xB7, 0xB7, 1⟩,
   ⟨0x387, 0x387, 1⟩, ⟨0x55F, 0x55F, 1⟩, ⟨0x5F4, 0x5F4, 1⟩, ⟨0x2018, 0x2019, 1⟩,
   ⟨0x2024, 0x2024, 1⟩, ⟨0x2027, 0x2027, 1⟩, ⟨0xFE13, 0xFE13, 1⟩, ⟨0xFE52, 0xFE52, 1⟩,
   ⟨0xFE55, 0xFE55, 1⟩, ⟨0xFF07, 0xFF07, 1⟩, ⟨0xFF0E, 0xFF0E, 1⟩, ⟨0xFF1A, 0xFF1A, 1⟩]

end PatternGrammar.Unicode
