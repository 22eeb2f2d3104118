import PatternGrammar.Unicode.Band

/-!
# Emoji

Emoji and what they are made of, in version 16 of the Unicode character database.
-/

namespace PatternGrammar.Unicode

/-- Characters shown as emoji by default. -/
def emojiPresentations : List Band :=
  [⟨0x231A, 0x231B, 1⟩, ⟨0x23E9, 0x23EC, 1⟩, ⟨0x23F0, 0x23F0, 1⟩, ⟨0x23F3, 0x23F3, 1⟩,
   ⟨0x25FD, 0x25FE, 1⟩, ⟨0x2614, 0x2615, 1⟩, ⟨0x2648, 0x2653, 1⟩, ⟨0x267F, 0x267F, 1⟩,
   ⟨0x2693, 0x2693, 1⟩, ⟨0x26A1, 0x26A1, 1⟩, ⟨0x26AA, 0x26AB, 1⟩, ⟨0x26BD, 0x26BE, 1⟩,
   ⟨0x26C4, 0x26C5, 1⟩, ⟨0x26CE, 0x26CE, 1⟩, ⟨0x26D4, 0x26D4, 1⟩, ⟨0x26EA, 0x26EA, 1⟩,
   ⟨0x26F2, 0x26F3, 1⟩, ⟨0x26F5, 0x26F5, 1⟩, ⟨0x26FA, 0x26FA, 1⟩, ⟨0x26FD, 0x26FD, 1⟩,
   ⟨0x2705, 0x2705, 1⟩, ⟨0x270A, 0x270B, 1⟩, ⟨0x2728, 0x2728, 1⟩, ⟨0x274C, 0x274C, 1⟩,
   ⟨0x274E, 0x274E, 1⟩, ⟨0x2753, 0x2755, 1⟩, ⟨0x2757, 0x2757, 1⟩, ⟨0x2795, 0x2797, 1⟩,
   ⟨0x27B0, 0x27B0, 1⟩, ⟨0x27BF, 0x27BF, 1⟩, ⟨0x2B1B, 0x2B1C, 1⟩, ⟨0x2B50, 0x2B50, 1⟩,
   ⟨0x2B55, 0x2B55, 1⟩, ⟨0x1F004, 0x1F004, 1⟩, ⟨0x1F0CF, 0x1F0CF, 1⟩, ⟨0x1F18E, 0x1F18E, 1⟩,
   ⟨0x1F191, 0x1F19A, 1⟩, ⟨0x1F1E6, 0x1F1FF, 1⟩, ⟨0x1F201, 0x1F201, 1⟩, ⟨0x1F21A, 0x1F21A, 1⟩,
   ⟨0x1F22F, 0x1F22F, 1⟩, ⟨0x1F232, 0x1F236, 1⟩, ⟨0x1F238, 0x1F23A, 1⟩, ⟨0x1F250, 0x1F251, 1⟩,
   ⟨0x1F300, 0x1F320, 1⟩, ⟨0x1F32D, 0x1F335, 1⟩, ⟨0x1F337, 0x1F37C, 1⟩, ⟨0x1F37E, 0x1F393, 1⟩,
   ⟨0x1F3A0, 0x1F3CA, 1⟩, ⟨0x1F3CF, 0x1F3D3, 1⟩, ⟨0x1F3E0, 0x1F3F0, 1⟩, ⟨0x1F3F4, 0x1F3F4, 1⟩,
   ⟨0x1F3F8, 0x1F43E, 1⟩, ⟨0x1F440, 0x1F440, 1⟩, ⟨0x1F442, 0x1F4FC, 1⟩, ⟨0x1F4FF, 0x1F53D, 1⟩,
   ⟨0x1F54B, 0x1F54E, 1⟩, ⟨0x1F550, 0x1F567, 1⟩, ⟨0x1F57A, 0x1F57A, 1⟩, ⟨0x1F595, 0x1F596, 1⟩,
   ⟨0x1F5A4, 0x1F5A4, 1⟩, ⟨0x1F5FB, 0x1F64F, 1⟩, ⟨0x1F680, 0x1F6C5, 1⟩, ⟨0x1F6CC, 0x1F6CC, 1⟩,
   ⟨0x1F6D0, 0x1F6D2, 1⟩, ⟨0x1F6D5, 0x1F6D7, 1⟩, ⟨0x1F6DC, 0x1F6DF, 1⟩, ⟨0x1F6EB, 0x1F6EC, 1⟩,
   ⟨0x1F6F4, 0x1F6FC, 1⟩, ⟨0x1F7E0, 0x1F7EB, 1⟩, ⟨0x1F7F0, 0x1F7F0, 1⟩, ⟨0x1F90C, 0x1F93A, 1⟩,
   ⟨0x1F93C, 0x1F945, 1⟩, ⟨0x1F947, 0x1F9FF, 1⟩, ⟨0x1FA70, 0x1FA7C, 1⟩, ⟨0x1FA80, 0x1FA89, 1⟩,
   ⟨0x1FA8F, 0x1FAC6, 1⟩, ⟨0x1FACE, 0x1FADC, 1⟩, ⟨0x1FADF, 0x1FAE9, 1⟩, ⟨0x1FAF0, 0x1FAF8, 1⟩]

def textEmoji : List Band :=
  [⟨0x23, 0x23, 1⟩, ⟨0x2A, 0x2A, 1⟩, ⟨0x30, 0x39, 1⟩, ⟨0xA9, 0xA9, 1⟩,
   ⟨0xAE, 0xAE, 1⟩, ⟨0x203C, 0x203C, 1⟩, ⟨0x2049, 0x2049, 1⟩, ⟨0x2122, 0x2122, 1⟩,
   ⟨0x2139, 0x2139, 1⟩, ⟨0x2194, 0x2199, 1⟩, ⟨0x21A9, 0x21AA, 1⟩, ⟨0x2328, 0x2328, 1⟩,
   ⟨0x23CF, 0x23CF, 1⟩, ⟨0x23ED, 0x23EF, 1⟩, ⟨0x23F1, 0x23F2, 1⟩, ⟨0x23F8, 0x23FA, 1⟩,
   ⟨0x24C2, 0x24C2, 1⟩, ⟨0x25AA, 0x25AB, 1⟩, ⟨0x25B6, 0x25B6, 1⟩, ⟨0x25C0, 0x25C0, 1⟩,
   ⟨0x25FB, 0x25FC, 1⟩, ⟨0x2600, 0x2604, 1⟩, ⟨0x260E, 0x260E, 1⟩, ⟨0x2611, 0x2611, 1⟩,
   ⟨0x2618, 0x2618, 1⟩, ⟨0x261D, 0x261D, 1⟩, ⟨0x2620, 0x2620, 1⟩, ⟨0x2622, 0x2623, 1⟩,
   ⟨0x2626, 0x2626, 1⟩, ⟨0x262A, 0x262A, 1⟩, ⟨0x262E, 0x262F, 1⟩, ⟨0x2638, 0x263A, 1⟩,
   ⟨0x2640, 0x2640, 1⟩, ⟨0x2642, 0x2642, 1⟩, ⟨0x265F, 0x2660, 1⟩, ⟨0x2663, 0x2663, 1⟩,
   ⟨0x2665, 0x2666, 1⟩, ⟨0x2668, 0x2668, 1⟩, ⟨0x267B, 0x267B, 1⟩, ⟨0x267E, 0x267E, 1⟩,
   ⟨0x2692, 0x2692, 1⟩, ⟨0x2694, 0x2697, 1⟩, ⟨0x2699, 0x2699, 1⟩, ⟨0x269B, 0x269C, 1⟩,
   ⟨0x26A0, 0x26A0, 1⟩, ⟨0x26A7, 0x26A7, 1⟩, ⟨0x26B0, 0x26B1, 1⟩, ⟨0x26C8, 0x26C8, 1⟩,
   ⟨0x26CF, 0x26D3, 2⟩, ⟨0x26E9, 0x26E9, 1⟩, ⟨0x26F0, 0x26F1, 1⟩, ⟨0x26F4, 0x26F4, 1⟩,
   ⟨0x26F7, 0x26F9, 1⟩, ⟨0x2702, 0x2702, 1⟩, ⟨0x2708, 0x2709, 1⟩, ⟨0x270C, 0x270D, 1⟩,
   ⟨0x270F, 0x270F, 1⟩, ⟨0x2712, 0x2716, 2⟩, ⟨0x271D, 0x271D, 1⟩, ⟨0x2721, 0x2721, 1⟩,
   ⟨0x2733, 0x2734, 1⟩, ⟨0x2744, 0x2744, 1⟩, ⟨0x2747, 0x2747, 1⟩, ⟨0x2763, 0x2764, 1⟩,
   ⟨0x27A1, 0x27A1, 1⟩, ⟨0x2934, 0x2935, 1⟩, ⟨0x2B05, 0x2B07, 1⟩, ⟨0x3030, 0x3030, 1⟩,
   ⟨0x303D, 0x303D, 1⟩, ⟨0x3297, 0x3297, 1⟩, ⟨0x3299, 0x3299, 1⟩, ⟨0x1F170, 0x1F171, 1⟩,
   ⟨0x1F17E, 0x1F17F, 1⟩, ⟨0x1F202, 0x1F202, 1⟩, ⟨0x1F237, 0x1F237, 1⟩, ⟨0x1F321, 0x1F321, 1⟩,
   ⟨0x1F324, 0x1F32C, 1⟩, ⟨0x1F336, 0x1F336, 1⟩, ⟨0x1F37D, 0x1F37D, 1⟩, ⟨0x1F396, 0x1F397, 1⟩,
   ⟨0x1F399, 0x1F39B, 1⟩, ⟨0x1F39E, 0x1F39F, 1⟩, ⟨0x1F3CB, 0x1F3CE, 1⟩, ⟨0x1F3D4, 0x1F3DF, 1⟩,
   ⟨0x1F3F3, 0x1F3F7, 2⟩, ⟨0x1F43F, 0x1F43F, 1⟩, ⟨0x1F441, 0x1F441, 1⟩, ⟨0x1F4FD, 0x1F4FD, 1⟩,
   ⟨0x1F549, 0x1F54A, 1⟩, ⟨0x1F56F, 0x1F570, 1⟩, ⟨0x1F573, 0x1F579, 1⟩, ⟨0x1F587, 0x1F587, 1⟩,
   ⟨0x1F58A, 0x1F58D, 1⟩, ⟨0x1F590, 0x1F590, 1⟩, ⟨0x1F5A5, 0x1F5A5, 1⟩, ⟨0x1F5A8, 0x1F5A8, 1⟩,
   ⟨0x1F5B1, 0x1F5B2, 1⟩, ⟨0x1F5BC, 0x1F5BC, 1⟩, ⟨0x1F5C2, 0x1F5C4, 1⟩, ⟨0x1F5D1, 0x1F5D3, 1⟩,
   ⟨0x1F5DC, 0x1F5DE, 1⟩, ⟨0x1F5E1, 0x1F5E1, 1⟩, ⟨0x1F5E3, 0x1F5E3, 1⟩, ⟨0x1F5E8, 0x1F5E8, 1⟩,
   ⟨0x1F5EF, 0x1F5EF, 1⟩, ⟨0x1F5F3, 0x1F5F3, 1⟩, ⟨0x1F5FA, 0x1F5FA, 1⟩, ⟨0x1F6CB, 0x1F6CB, 1⟩,
   ⟨0x1F6CD, 0x1F6CF, 1⟩, ⟨0x1F6E0, 0x1F6E5, 1⟩, ⟨0x1F6E9, 0x1F6E9, 1⟩, ⟨0x1F6F0, 0x1F6F0, 1⟩,
   ⟨0x1F6F3, 0x1F6F3, 1⟩]

def emojiModifiers : List Band :=
  [⟨0x1F3FB, 0x1F3FF, 1⟩]

def emojiModifierBases : List Band :=
  [⟨0x261D, 0x261D, 1⟩, ⟨0x26F9, 0x26F9, 1⟩, ⟨0x270A, 0x270D, 1⟩, ⟨0x1F385, 0x1F385, 1⟩,
   ⟨0x1F3C2, 0x1F3C4, 1⟩, ⟨0x1F3C7, 0x1F3C7, 1⟩, ⟨0x1F3CA, 0x1F3CC, 1⟩, ⟨0x1F442, 0x1F443, 1⟩,
   ⟨0x1F446, 0x1F450, 1⟩, ⟨0x1F466, 0x1F478, 1⟩, ⟨0x1F47C, 0x1F47C, 1⟩, ⟨0x1F481, 0x1F483, 1⟩,
   ⟨0x1F485, 0x1F487, 1⟩, ⟨0x1F48F, 0x1F48F, 1⟩, ⟨0x1F491, 0x1F491, 1⟩, ⟨0x1F4AA, 0x1F4AA, 1⟩,
   ⟨0x1F574, 0x1F575, 1⟩, ⟨0x1F57A, 0x1F57A, 1⟩, ⟨0x1F590, 0x1F590, 1⟩, ⟨0x1F595, 0x1F596, 1⟩,
   ⟨0x1F645, 0x1F647, 1⟩, ⟨0x1F64B, 0x1F64F, 1⟩, ⟨0x1F6A3, 0x1F6A3, 1⟩, ⟨0x1F6B4, 0x1F6B6, 1⟩,
   ⟨0x1F6C0, 0x1F6C0, 1⟩, ⟨0x1F6CC, 0x1F6CC, 1⟩, ⟨0x1F90C, 0x1F90C, 1⟩, ⟨0x1F90F, 0x1F90F, 1⟩,
   ⟨0x1F918, 0x1F91F, 1⟩, ⟨0x1F926, 0x1F926, 1⟩, ⟨0x1F930, 0x1F939, 1⟩, ⟨0x1F93C, 0x1F93E, 1⟩,
   ⟨0x1F977, 0x1F977, 1⟩, ⟨0x1F9B5, 0x1F9B6, 1⟩, ⟨0x1F9B8, 0x1F9B9, 1⟩, ⟨0x1F9BB, 0x1F9BB, 1⟩,
   ⟨0x1F9CD, 0x1F9CF, 1⟩, ⟨0x1F9D1, 0x1F9DD, 1⟩, ⟨0x1FAC3, 0x1FAC5, 1⟩, ⟨0x1FAF0, 0x1FAF8, 1⟩]

def emojiComponents : List Band :=
  [⟨0x23, 0x23, 1⟩, ⟨0x2A, 0x2A, 1⟩, ⟨0x30, 0x39, 1⟩, ⟨0x200D, 0x200D, 1⟩,
   ⟨0x20E3, 0x20E3, 1⟩, ⟨0xFE0F, 0xFE0F, 1⟩, ⟨0x1F1E6, 0x1F1FF, 1⟩, ⟨0x1F3FB, 0x1F3FF, 1⟩,
   ⟨0x1F9B0, 0x1F9B3, 1⟩, ⟨0xE0020, 0xE007F, 1⟩]

/-- Pictographs, among them code points set aside for some. -/
def pictographs : List Band :=
  [⟨0xA9, 0xA9, 1⟩, ⟨0xAE, 0xAE, 1⟩, ⟨0x203C, 0x203C, 1⟩, ⟨0x2049, 0x2049, 1⟩,
   ⟨0x2122, 0x2122, 1⟩, ⟨0x2139, 0x2139, 1⟩, ⟨0x2194, 0x2199, 1⟩, ⟨0x21A9, 0x21AA, 1⟩,
   ⟨0x231A, 0x231B, 1⟩, ⟨0x2328, 0x2328, 1⟩, ⟨0x2388, 0x2388, 1⟩, ⟨0x23CF, 0x23CF, 1⟩,
   ⟨0x23E9, 0x23F3, 1⟩, ⟨0x23F8, 0x23FA, 1⟩, ⟨0x24C2, 0x24C2, 1⟩, ⟨0x25AA, 0x25AB, 1⟩,
   ⟨0x25B6, 0x25B6, 1⟩, ⟨0x25C0, 0x25C0, 1⟩, ⟨0x25FB, 0x25FE, 1⟩, ⟨0x2600, 0x2605, 1⟩,
   ⟨0x2607, 0x2612, 1⟩, ⟨0x2614, 0x2685, 1⟩, ⟨0x2690, 0x2705, 1⟩, ⟨0x2708, 0x2712, 1⟩,
   ⟨0x2714, 0x2714, 1⟩, ⟨0x2716, 0x2716, 1⟩, ⟨0x271D, 0x271D, 1⟩, ⟨0x2721, 0x2721, 1⟩,
   ⟨0x2728, 0x2728, 1⟩, ⟨0x2733, 0x2734, 1⟩, ⟨0x2744, 0x2744, 1⟩, ⟨0x2747, 0x2747, 1⟩,
   ⟨0x274C, 0x274C, 1⟩, ⟨0x274E, 0x274E, 1⟩, ⟨0x2753, 0x2755, 1⟩, ⟨0x2757, 0x2757, 1⟩,
   ⟨0x2763, 0x2767, 1⟩, ⟨0x2795, 0x2797, 1⟩, ⟨0x27A1, 0x27A1, 1⟩, ⟨0x27B0, 0x27B0, 1⟩,
   ⟨0x27BF, 0x27BF, 1⟩, ⟨0x2934, 0x2935, 1⟩, ⟨0x2B05, 0x2B07, 1⟩, ⟨0x2B1B, 0x2B1C, 1⟩,
   ⟨0x2B50, 0x2B50, 1⟩, ⟨0x2B55, 0x2B55, 1⟩, ⟨0x3030, 0x3030, 1⟩, ⟨0x303D, 0x303D, 1⟩,
   ⟨0x3297, 0x3297, 1⟩, ⟨0x3299, 0x3299, 1⟩, ⟨0x1F000, 0x1F0FF, 1⟩, ⟨0x1F10D, 0x1F10F, 1⟩,
   ⟨0x1F12F, 0x1F12F, 1⟩, ⟨0x1F16C, 0x1F171, 1⟩, ⟨0x1F17E, 0x1F17F, 1⟩, ⟨0x1F18E, 0x1F18E, 1⟩,
   ⟨0x1F191, 0x1F19A, 1⟩, ⟨0x1F1AD, 0x1F1E5, 1⟩, ⟨0x1F201, 0x1F20F, 1⟩, ⟨0x1F21A, 0x1F21A, 1⟩,
   ⟨0x1F22F, 0x1F22F, 1⟩, ⟨0x1F232, 0x1F23A, 1⟩, ⟨0x1F23C, 0x1F23F, 1⟩, ⟨0x1F249, 0x1F3FA, 1⟩,
   ⟨0x1F400, 0x1F53D, 1⟩, ⟨0x1F546, 0x1F64F, 1⟩, ⟨0x1F680, 0x1F6FF, 1⟩, ⟨0x1F774, 0x1F77F, 1⟩,
   ⟨0x1F7D5, 0x1F7FF, 1⟩, ⟨0x1F80C, 0x1F80F, 1⟩, ⟨0x1F848, 0x1F84F, 1⟩, ⟨0x1F85A, 0x1F85F, 1⟩,
   ⟨0x1F888, 0x1F88F, 1⟩, ⟨0x1F8AE, 0x1F8FF, 1⟩, ⟨0x1F90C, 0x1F93A, 1⟩, ⟨0x1F93C, 0x1F945, 1⟩,
   ⟨0x1F947, 0x1FAFF, 1⟩, ⟨0x1FC00, 0x1FFFD, 1⟩]

end PatternGrammar.Unicode
