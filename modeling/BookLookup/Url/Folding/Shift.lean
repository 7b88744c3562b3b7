/-!
# Characters at a fixed distance from their simple forms

Runs of characters whose simple forms, mostly the small letters of capital
ones, lie at the same steps elsewhere. They are those of Unicode 17.
-/

namespace BookLookup
namespace Folding

/-- A run of characters. -/
structure Shift where
  /-- The first code point. -/
  first : Nat
  /-- The last code point. -/
  last : Nat
  /-- From one code point of the run to the next. -/
  step : Nat
  /-- The code point of the simple form of the first. -/
  target : Nat

/-- The simple form of a code point in a run. -/
def Shift.simple? (shift : Shift) (code : Nat) : Option Char :=
  if shift.first ≤ code ∧ code ≤ shift.last ∧
      (code - shift.first) % shift.step = 0 then
    some (Char.ofNat (shift.target + (code - shift.first)))
  else none

/-- The runs beyond ASCII. -/
def shifts : List Shift := [
  ⟨0xC0, 0xD6, 1, 0xE0⟩, ⟨0xD8, 0xDE, 1, 0xF8⟩, ⟨0x100, 0x12E, 2, 0x101⟩,
  ⟨0x141, 0x147, 2, 0x142⟩, ⟨0x14A, 0x176, 2, 0x14B⟩, ⟨0x1CD, 0x1DB, 2, 0x1CE⟩,
  ⟨0x1DE, 0x1EE, 2, 0x1DF⟩, ⟨0x1F8, 0x21E, 2, 0x1F9⟩, ⟨0x222, 0x232, 2, 0x223⟩,
  ⟨0x246, 0x24E, 2, 0x247⟩, ⟨0x391, 0x3A1, 1, 0x3B1⟩, ⟨0x3A3, 0x3AB, 1, 0x3C3⟩,
  ⟨0x3D8, 0x3EE, 2, 0x3D9⟩, ⟨0x400, 0x40F, 1, 0x450⟩, ⟨0x410, 0x42F, 1, 0x430⟩,
  ⟨0x460, 0x480, 2, 0x461⟩, ⟨0x48A, 0x4BE, 2, 0x48B⟩, ⟨0x4C1, 0x4CD, 2, 0x4C2⟩,
  ⟨0x4D0, 0x52E, 2, 0x4D1⟩, ⟨0x531, 0x556, 1, 0x561⟩,
  ⟨0x10A0, 0x10C5, 1, 0x2D00⟩, ⟨0x13F8, 0x13FD, 1, 0x13F0⟩,
  ⟨0x1C90, 0x1CBA, 1, 0x10D0⟩, ⟨0x1D31, 0x1D39, 2, 0x65⟩,
  ⟨0x1D34, 0x1D3A, 2, 0x68⟩, ⟨0x1DAE, 0x1DB1, 1, 0x272⟩,
  ⟨0x1E00, 0x1E94, 2, 0x1E01⟩, ⟨0x1EA0, 0x1EFE, 2, 0x1EA1⟩,
  ⟨0x1F08, 0x1F0F, 1, 0x1F00⟩, ⟨0x1F18, 0x1F1D, 1, 0x1F10⟩,
  ⟨0x1F28, 0x1F2F, 1, 0x1F20⟩, ⟨0x1F38, 0x1F3F, 1, 0x1F30⟩,
  ⟨0x1F48, 0x1F4D, 1, 0x1F40⟩, ⟨0x1F59, 0x1F5F, 2, 0x1F51⟩,
  ⟨0x1F68, 0x1F6F, 1, 0x1F60⟩, ⟨0x2074, 0x2079, 1, 0x34⟩,
  ⟨0x2080, 0x2089, 1, 0x30⟩, ⟨0x2096, 0x2099, 1, 0x6B⟩,
  ⟨0x2135, 0x2138, 1, 0x5D0⟩, ⟨0x2460, 0x2468, 1, 0x31⟩,
  ⟨0x24B6, 0x24CF, 1, 0x61⟩, ⟨0x24D0, 0x24E9, 1, 0x61⟩,
  ⟨0x2C00, 0x2C2F, 1, 0x2C30⟩, ⟨0x2C80, 0x2CE2, 2, 0x2C81⟩,
  ⟨0x313A, 0x313F, 1, 0x11B0⟩, ⟨0x3145, 0x314E, 1, 0x1109⟩,
  ⟨0x314F, 0x3163, 1, 0x1161⟩, ⟨0x3178, 0x317C, 1, 0x112B⟩,
  ⟨0x3269, 0x326D, 1, 0x110E⟩, ⟨0x32E4, 0x32E9, 1, 0x30CA⟩,
  ⟨0x32EE, 0x32F2, 1, 0x30DE⟩, ⟨0x32F5, 0x32FA, 1, 0x30E8⟩,
  ⟨0x32FB, 0x32FE, 1, 0x30EF⟩, ⟨0xA640, 0xA66C, 2, 0xA641⟩,
  ⟨0xA680, 0xA69A, 2, 0xA681⟩, ⟨0xA722, 0xA72E, 2, 0xA723⟩,
  ⟨0xA732, 0xA76E, 2, 0xA733⟩, ⟨0xA77E, 0xA786, 2, 0xA77F⟩,
  ⟨0xA796, 0xA7A8, 2, 0xA797⟩, ⟨0xA7B4, 0xA7C2, 2, 0xA7B5⟩,
  ⟨0xA7CC, 0xA7DA, 2, 0xA7CD⟩, ⟨0xAB70, 0xABBF, 1, 0x13A0⟩,
  ⟨0xFE41, 0xFE44, 1, 0x300C⟩, ⟨0xFF01, 0xFF20, 1, 0x21⟩,
  ⟨0xFF21, 0xFF3A, 1, 0x61⟩, ⟨0xFF3B, 0xFF5E, 1, 0x5B⟩,
  ⟨0xFF85, 0xFF8A, 1, 0x30CA⟩, ⟨0xFF8F, 0xFF93, 1, 0x30DE⟩,
  ⟨0xFF96, 0xFF9B, 1, 0x30E8⟩, ⟨0xFFAA, 0xFFAF, 1, 0x11B0⟩,
  ⟨0xFFB5, 0xFFBE, 1, 0x1109⟩, ⟨0xFFC2, 0xFFC7, 1, 0x1161⟩,
  ⟨0xFFCA, 0xFFCF, 1, 0x1167⟩, ⟨0xFFD2, 0xFFD7, 1, 0x116D⟩,
  ⟨0xFFE9, 0xFFEC, 1, 0x2190⟩, ⟨0x10400, 0x10427, 1, 0x10428⟩,
  ⟨0x104B0, 0x104D3, 1, 0x104D8⟩, ⟨0x10570, 0x10594, 2, 0x10597⟩,
  ⟨0x10571, 0x10579, 2, 0x10598⟩, ⟨0x1057D, 0x10589, 2, 0x105A4⟩,
  ⟨0x10C80, 0x10CB2, 1, 0x10CC0⟩, ⟨0x10D50, 0x10D65, 1, 0x10D70⟩,
  ⟨0x118A0, 0x118BF, 1, 0x118C0⟩, ⟨0x16E40, 0x16E5F, 1, 0x16E60⟩,
  ⟨0x16EA0, 0x16EB8, 1, 0x16EBB⟩, ⟨0x1CCD6, 0x1CCEF, 1, 0x61⟩,
  ⟨0x1CCF0, 0x1CCF9, 1, 0x30⟩, ⟨0x1D400, 0x1D419, 1, 0x61⟩,
  ⟨0x1D41A, 0x1D433, 1, 0x61⟩, ⟨0x1D434, 0x1D44D, 1, 0x61⟩,
  ⟨0x1D44E, 0x1D466, 2, 0x61⟩, ⟨0x1D457, 0x1D467, 2, 0x6A⟩,
  ⟨0x1D468, 0x1D481, 1, 0x61⟩, ⟨0x1D482, 0x1D49B, 1, 0x61⟩,
  ⟨0x1D4A9, 0x1D4AC, 1, 0x6E⟩, ⟨0x1D4AE, 0x1D4B5, 1, 0x73⟩,
  ⟨0x1D4B6, 0x1D4B9, 1, 0x61⟩, ⟨0x1D4BB, 0x1D4CF, 2, 0x66⟩,
  ⟨0x1D4C6, 0x1D4CE, 2, 0x71⟩, ⟨0x1D4D0, 0x1D4E9, 1, 0x61⟩,
  ⟨0x1D4EA, 0x1D503, 1, 0x61⟩, ⟨0x1D507, 0x1D50A, 1, 0x64⟩,
  ⟨0x1D50D, 0x1D514, 1, 0x6A⟩, ⟨0x1D516, 0x1D51C, 1, 0x73⟩,
  ⟨0x1D51E, 0x1D537, 1, 0x61⟩, ⟨0x1D53B, 0x1D53E, 1, 0x64⟩,
  ⟨0x1D540, 0x1D544, 1, 0x69⟩, ⟨0x1D54A, 0x1D550, 1, 0x73⟩,
  ⟨0x1D552, 0x1D56B, 1, 0x61⟩, ⟨0x1D56C, 0x1D585, 1, 0x61⟩,
  ⟨0x1D586, 0x1D59F, 1, 0x61⟩, ⟨0x1D5A0, 0x1D5B9, 1, 0x61⟩,
  ⟨0x1D5BA, 0x1D5D3, 1, 0x61⟩, ⟨0x1D5D4, 0x1D5ED, 1, 0x61⟩,
  ⟨0x1D5EE, 0x1D607, 1, 0x61⟩, ⟨0x1D608, 0x1D621, 1, 0x61⟩,
  ⟨0x1D622, 0x1D63B, 1, 0x61⟩, ⟨0x1D63C, 0x1D655, 1, 0x61⟩,
  ⟨0x1D656, 0x1D66F, 1, 0x61⟩, ⟨0x1D670, 0x1D689, 1, 0x61⟩,
  ⟨0x1D68A, 0x1D6A3, 1, 0x61⟩, ⟨0x1D6A8, 0x1D6B8, 1, 0x3B1⟩,
  ⟨0x1D6BA, 0x1D6C0, 1, 0x3C3⟩, ⟨0x1D6C2, 0x1D6D2, 1, 0x3B1⟩,
  ⟨0x1D6D4, 0x1D6DA, 1, 0x3C3⟩, ⟨0x1D6E2, 0x1D6F2, 1, 0x3B1⟩,
  ⟨0x1D6F4, 0x1D6FA, 1, 0x3C3⟩, ⟨0x1D6FC, 0x1D70C, 1, 0x3B1⟩,
  ⟨0x1D70E, 0x1D714, 1, 0x3C3⟩, ⟨0x1D71C, 0x1D72C, 1, 0x3B1⟩,
  ⟨0x1D72E, 0x1D734, 1, 0x3C3⟩, ⟨0x1D736, 0x1D746, 1, 0x3B1⟩,
  ⟨0x1D748, 0x1D74E, 1, 0x3C3⟩, ⟨0x1D756, 0x1D766, 1, 0x3B1⟩,
  ⟨0x1D768, 0x1D76E, 1, 0x3C3⟩, ⟨0x1D770, 0x1D780, 1, 0x3B1⟩,
  ⟨0x1D782, 0x1D788, 1, 0x3C3⟩, ⟨0x1D790, 0x1D7A0, 1, 0x3B1⟩,
  ⟨0x1D7A2, 0x1D7A8, 1, 0x3C3⟩, ⟨0x1D7AA, 0x1D7BA, 1, 0x3B1⟩,
  ⟨0x1D7BC, 0x1D7C2, 1, 0x3C3⟩, ⟨0x1D7CE, 0x1D7D7, 1, 0x30⟩,
  ⟨0x1D7D8, 0x1D7E1, 1, 0x30⟩, ⟨0x1D7E2, 0x1D7EB, 1, 0x30⟩,
  ⟨0x1D7EC, 0x1D7F5, 1, 0x30⟩, ⟨0x1D7F6, 0x1D7FF, 1, 0x30⟩,
  ⟨0x1E030, 0x1E038, 1, 0x430⟩, ⟨0x1E03C, 0x1E046, 1, 0x43E⟩,
  ⟨0x1E051, 0x1E059, 1, 0x430⟩, ⟨0x1E05F, 0x1E064, 1, 0x443⟩,
  ⟨0x1E900, 0x1E921, 1, 0x1E922⟩, ⟨0x1EE0A, 0x1EE0D, 1, 0x643⟩,
  ⟨0x1EE2A, 0x1EE2D, 1, 0x643⟩, ⟨0x1F130, 0x1F149, 1, 0x61⟩,
  ⟨0x1FBF0, 0x1FBF9, 1, 0x30⟩]

end Folding
end BookLookup
