import Mathlib.Data.List.Basic
import Mathlib.Tactic.Common

/-!
# Upper case

The upper case of a code point, as the Unicode Character Database has it (`SpecialCasing` without conditions included):
one code point or several. The table has a row for every run of code points whose upper cases follow one another.

- `mem_upper`: an upper case is the code point itself or comes from a row;
- `not_covers_upper`: the table makes no code point of a row that it is clear of;
- `upper_isValidChar`, `upper_idem`: what it makes are characters, and it leaves them as they are.
-/

namespace Lib.UpperCase

/-- The code points `first`, `first + step`, up to `last`; `image` is the upper case of the first, and moves along. The
step of a single code point is 2. -/
structure Row where
  first : ℕ
  last : ℕ
  step : ℕ
  image : List ℕ

/-- The rows between two code points. -/
structure Block where
  first : ℕ
  last : ℕ
  rows : List Row

def blocks : List Block := [
  -- Basic Latin
  ⟨0x0, 0x7F, [
    ⟨0x61, 0x7A, 1, [0x41]⟩]⟩,
  -- Latin-1 Supplement
  ⟨0x80, 0xFF, [
    ⟨0xB5, 0xB5, 2, [0x39C]⟩, ⟨0xDF, 0xDF, 2, [0x53, 0x53]⟩, ⟨0xE0, 0xF6, 1, [0xC0]⟩, ⟨0xF8, 0xFE, 1, [0xD8]⟩,
    ⟨0xFF, 0xFF, 2, [0x178]⟩]⟩,
  -- Latin Extended-A
  ⟨0x100, 0x17F, [
    ⟨0x101, 0x12F, 2, [0x100]⟩, ⟨0x131, 0x131, 2, [0x49]⟩, ⟨0x133, 0x137, 2, [0x132]⟩, ⟨0x13A, 0x148, 2, [0x139]⟩,
    ⟨0x149, 0x149, 2, [0x2BC, 0x4E]⟩, ⟨0x14B, 0x177, 2, [0x14A]⟩, ⟨0x17A, 0x17E, 2, [0x179]⟩,
    ⟨0x17F, 0x17F, 2, [0x53]⟩]⟩,
  -- Latin Extended-B
  ⟨0x180, 0x24F, [
    ⟨0x180, 0x180, 2, [0x243]⟩, ⟨0x183, 0x185, 2, [0x182]⟩, ⟨0x188, 0x188, 2, [0x187]⟩, ⟨0x18C, 0x18C, 2, [0x18B]⟩,
    ⟨0x192, 0x192, 2, [0x191]⟩, ⟨0x195, 0x195, 2, [0x1F6]⟩, ⟨0x199, 0x199, 2, [0x198]⟩, ⟨0x19A, 0x19A, 2, [0x23D]⟩,
    ⟨0x19E, 0x19E, 2, [0x220]⟩, ⟨0x1A1, 0x1A5, 2, [0x1A0]⟩, ⟨0x1A8, 0x1A8, 2, [0x1A7]⟩, ⟨0x1AD, 0x1AD, 2, [0x1AC]⟩,
    ⟨0x1B0, 0x1B0, 2, [0x1AF]⟩, ⟨0x1B4, 0x1B6, 2, [0x1B3]⟩, ⟨0x1B9, 0x1B9, 2, [0x1B8]⟩, ⟨0x1BD, 0x1BD, 2, [0x1BC]⟩,
    ⟨0x1BF, 0x1BF, 2, [0x1F7]⟩, ⟨0x1C5, 0x1C5, 2, [0x1C4]⟩, ⟨0x1C6, 0x1C6, 2, [0x1C4]⟩, ⟨0x1C8, 0x1C8, 2, [0x1C7]⟩,
    ⟨0x1C9, 0x1C9, 2, [0x1C7]⟩, ⟨0x1CB, 0x1CB, 2, [0x1CA]⟩, ⟨0x1CC, 0x1CC, 2, [0x1CA]⟩, ⟨0x1CE, 0x1DC, 2, [0x1CD]⟩,
    ⟨0x1DD, 0x1DD, 2, [0x18E]⟩, ⟨0x1DF, 0x1EF, 2, [0x1DE]⟩, ⟨0x1F0, 0x1F0, 2, [0x4A, 0x30C]⟩,
    ⟨0x1F2, 0x1F2, 2, [0x1F1]⟩, ⟨0x1F3, 0x1F3, 2, [0x1F1]⟩, ⟨0x1F5, 0x1F5, 2, [0x1F4]⟩, ⟨0x1F9, 0x21F, 2, [0x1F8]⟩,
    ⟨0x223, 0x233, 2, [0x222]⟩, ⟨0x23C, 0x23C, 2, [0x23B]⟩, ⟨0x23F, 0x240, 1, [0x2C7E]⟩, ⟨0x242, 0x242, 2, [0x241]⟩,
    ⟨0x247, 0x24F, 2, [0x246]⟩]⟩,
  -- IPA Extensions
  ⟨0x250, 0x2AF, [
    ⟨0x250, 0x250, 2, [0x2C6F]⟩, ⟨0x251, 0x251, 2, [0x2C6D]⟩, ⟨0x252, 0x252, 2, [0x2C70]⟩,
    ⟨0x253, 0x253, 2, [0x181]⟩, ⟨0x254, 0x254, 2, [0x186]⟩, ⟨0x256, 0x257, 1, [0x189]⟩, ⟨0x259, 0x259, 2, [0x18F]⟩,
    ⟨0x25B, 0x25B, 2, [0x190]⟩, ⟨0x25C, 0x25C, 2, [0xA7AB]⟩, ⟨0x260, 0x260, 2, [0x193]⟩,
    ⟨0x261, 0x261, 2, [0xA7AC]⟩, ⟨0x263, 0x263, 2, [0x194]⟩, ⟨0x265, 0x265, 2, [0xA78D]⟩,
    ⟨0x266, 0x266, 2, [0xA7AA]⟩, ⟨0x268, 0x268, 2, [0x197]⟩, ⟨0x269, 0x269, 2, [0x196]⟩,
    ⟨0x26A, 0x26A, 2, [0xA7AE]⟩, ⟨0x26B, 0x26B, 2, [0x2C62]⟩, ⟨0x26C, 0x26C, 2, [0xA7AD]⟩,
    ⟨0x26F, 0x26F, 2, [0x19C]⟩, ⟨0x271, 0x271, 2, [0x2C6E]⟩, ⟨0x272, 0x272, 2, [0x19D]⟩, ⟨0x275, 0x275, 2, [0x19F]⟩,
    ⟨0x27D, 0x27D, 2, [0x2C64]⟩, ⟨0x280, 0x280, 2, [0x1A6]⟩, ⟨0x282, 0x282, 2, [0xA7C5]⟩,
    ⟨0x283, 0x283, 2, [0x1A9]⟩, ⟨0x287, 0x287, 2, [0xA7B1]⟩, ⟨0x288, 0x288, 2, [0x1AE]⟩, ⟨0x289, 0x289, 2, [0x244]⟩,
    ⟨0x28A, 0x28B, 1, [0x1B1]⟩, ⟨0x28C, 0x28C, 2, [0x245]⟩, ⟨0x292, 0x292, 2, [0x1B7]⟩, ⟨0x29D, 0x29D, 2, [0xA7B2]⟩,
    ⟨0x29E, 0x29E, 2, [0xA7B0]⟩]⟩,
  -- Combining Diacritical Marks, Greek and Coptic
  ⟨0x300, 0x3FF, [
    ⟨0x345, 0x345, 2, [0x399]⟩, ⟨0x371, 0x373, 2, [0x370]⟩, ⟨0x377, 0x377, 2, [0x376]⟩, ⟨0x37B, 0x37D, 1, [0x3FD]⟩,
    ⟨0x390, 0x390, 2, [0x399, 0x308, 0x301]⟩, ⟨0x3AC, 0x3AC, 2, [0x386]⟩, ⟨0x3AD, 0x3AF, 1, [0x388]⟩,
    ⟨0x3B0, 0x3B0, 2, [0x3A5, 0x308, 0x301]⟩, ⟨0x3B1, 0x3C1, 1, [0x391]⟩, ⟨0x3C2, 0x3C2, 2, [0x3A3]⟩,
    ⟨0x3C3, 0x3CB, 1, [0x3A3]⟩, ⟨0x3CC, 0x3CC, 2, [0x38C]⟩, ⟨0x3CD, 0x3CE, 1, [0x38E]⟩, ⟨0x3D0, 0x3D0, 2, [0x392]⟩,
    ⟨0x3D1, 0x3D1, 2, [0x398]⟩, ⟨0x3D5, 0x3D5, 2, [0x3A6]⟩, ⟨0x3D6, 0x3D6, 2, [0x3A0]⟩, ⟨0x3D7, 0x3D7, 2, [0x3CF]⟩,
    ⟨0x3D9, 0x3EF, 2, [0x3D8]⟩, ⟨0x3F0, 0x3F0, 2, [0x39A]⟩, ⟨0x3F1, 0x3F1, 2, [0x3A1]⟩, ⟨0x3F2, 0x3F2, 2, [0x3F9]⟩,
    ⟨0x3F3, 0x3F3, 2, [0x37F]⟩, ⟨0x3F5, 0x3F5, 2, [0x395]⟩, ⟨0x3F8, 0x3F8, 2, [0x3F7]⟩, ⟨0x3FB, 0x3FB, 2, [0x3FA]⟩]⟩,
  -- Cyrillic
  ⟨0x400, 0x52F, [
    ⟨0x430, 0x44F, 1, [0x410]⟩, ⟨0x450, 0x45F, 1, [0x400]⟩, ⟨0x461, 0x481, 2, [0x460]⟩, ⟨0x48B, 0x4BF, 2, [0x48A]⟩,
    ⟨0x4C2, 0x4CE, 2, [0x4C1]⟩, ⟨0x4CF, 0x4CF, 2, [0x4C0]⟩, ⟨0x4D1, 0x52F, 2, [0x4D0]⟩]⟩,
  -- Armenian
  ⟨0x530, 0x58F, [
    ⟨0x561, 0x586, 1, [0x531]⟩, ⟨0x587, 0x587, 2, [0x535, 0x552]⟩]⟩,
  -- Georgian
  ⟨0x10A0, 0x10FF, [
    ⟨0x10D0, 0x10FA, 1, [0x1C90]⟩, ⟨0x10FD, 0x10FF, 1, [0x1CBD]⟩]⟩,
  -- Cherokee
  ⟨0x13A0, 0x13FF, [
    ⟨0x13F8, 0x13FD, 1, [0x13F0]⟩]⟩,
  -- Cyrillic Extended-C, Phonetic Extensions
  ⟨0x1C80, 0x1DFF, [
    ⟨0x1C80, 0x1C80, 2, [0x412]⟩, ⟨0x1C81, 0x1C81, 2, [0x414]⟩, ⟨0x1C82, 0x1C82, 2, [0x41E]⟩,
    ⟨0x1C83, 0x1C84, 1, [0x421]⟩, ⟨0x1C85, 0x1C85, 2, [0x422]⟩, ⟨0x1C86, 0x1C86, 2, [0x42A]⟩,
    ⟨0x1C87, 0x1C87, 2, [0x462]⟩, ⟨0x1C88, 0x1C88, 2, [0xA64A]⟩, ⟨0x1D79, 0x1D79, 2, [0xA77D]⟩,
    ⟨0x1D7D, 0x1D7D, 2, [0x2C63]⟩, ⟨0x1D8E, 0x1D8E, 2, [0xA7C6]⟩]⟩,
  -- Latin Extended Additional
  ⟨0x1E00, 0x1EFF, [
    ⟨0x1E01, 0x1E95, 2, [0x1E00]⟩, ⟨0x1E96, 0x1E96, 2, [0x48, 0x331]⟩, ⟨0x1E97, 0x1E97, 2, [0x54, 0x308]⟩,
    ⟨0x1E98, 0x1E98, 2, [0x57, 0x30A]⟩, ⟨0x1E99, 0x1E99, 2, [0x59, 0x30A]⟩, ⟨0x1E9A, 0x1E9A, 2, [0x41, 0x2BE]⟩,
    ⟨0x1E9B, 0x1E9B, 2, [0x1E60]⟩, ⟨0x1EA1, 0x1EFF, 2, [0x1EA0]⟩]⟩,
  -- Greek Extended
  ⟨0x1F00, 0x1FFF, [
    ⟨0x1F00, 0x1F07, 1, [0x1F08]⟩, ⟨0x1F10, 0x1F15, 1, [0x1F18]⟩, ⟨0x1F20, 0x1F27, 1, [0x1F28]⟩,
    ⟨0x1F30, 0x1F37, 1, [0x1F38]⟩, ⟨0x1F40, 0x1F45, 1, [0x1F48]⟩, ⟨0x1F50, 0x1F50, 2, [0x3A5, 0x313]⟩,
    ⟨0x1F51, 0x1F57, 2, [0x1F59]⟩, ⟨0x1F52, 0x1F52, 2, [0x3A5, 0x313, 0x300]⟩,
    ⟨0x1F54, 0x1F54, 2, [0x3A5, 0x313, 0x301]⟩, ⟨0x1F56, 0x1F56, 2, [0x3A5, 0x313, 0x342]⟩,
    ⟨0x1F60, 0x1F67, 1, [0x1F68]⟩, ⟨0x1F70, 0x1F71, 1, [0x1FBA]⟩, ⟨0x1F72, 0x1F75, 1, [0x1FC8]⟩,
    ⟨0x1F76, 0x1F77, 1, [0x1FDA]⟩, ⟨0x1F78, 0x1F79, 1, [0x1FF8]⟩, ⟨0x1F7A, 0x1F7B, 1, [0x1FEA]⟩,
    ⟨0x1F7C, 0x1F7D, 1, [0x1FFA]⟩, ⟨0x1F80, 0x1F80, 2, [0x1F08, 0x399]⟩, ⟨0x1F81, 0x1F81, 2, [0x1F09, 0x399]⟩,
    ⟨0x1F82, 0x1F82, 2, [0x1F0A, 0x399]⟩, ⟨0x1F83, 0x1F83, 2, [0x1F0B, 0x399]⟩,
    ⟨0x1F84, 0x1F84, 2, [0x1F0C, 0x399]⟩, ⟨0x1F85, 0x1F85, 2, [0x1F0D, 0x399]⟩,
    ⟨0x1F86, 0x1F86, 2, [0x1F0E, 0x399]⟩, ⟨0x1F87, 0x1F87, 2, [0x1F0F, 0x399]⟩,
    ⟨0x1F88, 0x1F88, 2, [0x1F08, 0x399]⟩, ⟨0x1F89, 0x1F89, 2, [0x1F09, 0x399]⟩,
    ⟨0x1F8A, 0x1F8A, 2, [0x1F0A, 0x399]⟩, ⟨0x1F8B, 0x1F8B, 2, [0x1F0B, 0x399]⟩,
    ⟨0x1F8C, 0x1F8C, 2, [0x1F0C, 0x399]⟩, ⟨0x1F8D, 0x1F8D, 2, [0x1F0D, 0x399]⟩,
    ⟨0x1F8E, 0x1F8E, 2, [0x1F0E, 0x399]⟩, ⟨0x1F8F, 0x1F8F, 2, [0x1F0F, 0x399]⟩,
    ⟨0x1F90, 0x1F90, 2, [0x1F28, 0x399]⟩, ⟨0x1F91, 0x1F91, 2, [0x1F29, 0x399]⟩,
    ⟨0x1F92, 0x1F92, 2, [0x1F2A, 0x399]⟩, ⟨0x1F93, 0x1F93, 2, [0x1F2B, 0x399]⟩,
    ⟨0x1F94, 0x1F94, 2, [0x1F2C, 0x399]⟩, ⟨0x1F95, 0x1F95, 2, [0x1F2D, 0x399]⟩,
    ⟨0x1F96, 0x1F96, 2, [0x1F2E, 0x399]⟩, ⟨0x1F97, 0x1F97, 2, [0x1F2F, 0x399]⟩,
    ⟨0x1F98, 0x1F98, 2, [0x1F28, 0x399]⟩, ⟨0x1F99, 0x1F99, 2, [0x1F29, 0x399]⟩,
    ⟨0x1F9A, 0x1F9A, 2, [0x1F2A, 0x399]⟩, ⟨0x1F9B, 0x1F9B, 2, [0x1F2B, 0x399]⟩,
    ⟨0x1F9C, 0x1F9C, 2, [0x1F2C, 0x399]⟩, ⟨0x1F9D, 0x1F9D, 2, [0x1F2D, 0x399]⟩,
    ⟨0x1F9E, 0x1F9E, 2, [0x1F2E, 0x399]⟩, ⟨0x1F9F, 0x1F9F, 2, [0x1F2F, 0x399]⟩,
    ⟨0x1FA0, 0x1FA0, 2, [0x1F68, 0x399]⟩, ⟨0x1FA1, 0x1FA1, 2, [0x1F69, 0x399]⟩,
    ⟨0x1FA2, 0x1FA2, 2, [0x1F6A, 0x399]⟩, ⟨0x1FA3, 0x1FA3, 2, [0x1F6B, 0x399]⟩,
    ⟨0x1FA4, 0x1FA4, 2, [0x1F6C, 0x399]⟩, ⟨0x1FA5, 0x1FA5, 2, [0x1F6D, 0x399]⟩,
    ⟨0x1FA6, 0x1FA6, 2, [0x1F6E, 0x399]⟩, ⟨0x1FA7, 0x1FA7, 2, [0x1F6F, 0x399]⟩,
    ⟨0x1FA8, 0x1FA8, 2, [0x1F68, 0x399]⟩, ⟨0x1FA9, 0x1FA9, 2, [0x1F69, 0x399]⟩,
    ⟨0x1FAA, 0x1FAA, 2, [0x1F6A, 0x399]⟩, ⟨0x1FAB, 0x1FAB, 2, [0x1F6B, 0x399]⟩,
    ⟨0x1FAC, 0x1FAC, 2, [0x1F6C, 0x399]⟩, ⟨0x1FAD, 0x1FAD, 2, [0x1F6D, 0x399]⟩,
    ⟨0x1FAE, 0x1FAE, 2, [0x1F6E, 0x399]⟩, ⟨0x1FAF, 0x1FAF, 2, [0x1F6F, 0x399]⟩, ⟨0x1FB0, 0x1FB1, 1, [0x1FB8]⟩,
    ⟨0x1FB2, 0x1FB2, 2, [0x1FBA, 0x399]⟩, ⟨0x1FB3, 0x1FB3, 2, [0x391, 0x399]⟩, ⟨0x1FB4, 0x1FB4, 2, [0x386, 0x399]⟩,
    ⟨0x1FB6, 0x1FB6, 2, [0x391, 0x342]⟩, ⟨0x1FB7, 0x1FB7, 2, [0x391, 0x342, 0x399]⟩,
    ⟨0x1FBC, 0x1FBC, 2, [0x391, 0x399]⟩, ⟨0x1FBE, 0x1FBE, 2, [0x399]⟩, ⟨0x1FC2, 0x1FC2, 2, [0x1FCA, 0x399]⟩,
    ⟨0x1FC3, 0x1FC3, 2, [0x397, 0x399]⟩, ⟨0x1FC4, 0x1FC4, 2, [0x389, 0x399]⟩, ⟨0x1FC6, 0x1FC6, 2, [0x397, 0x342]⟩,
    ⟨0x1FC7, 0x1FC7, 2, [0x397, 0x342, 0x399]⟩, ⟨0x1FCC, 0x1FCC, 2, [0x397, 0x399]⟩, ⟨0x1FD0, 0x1FD1, 1, [0x1FD8]⟩,
    ⟨0x1FD2, 0x1FD2, 2, [0x399, 0x308, 0x300]⟩, ⟨0x1FD3, 0x1FD3, 2, [0x399, 0x308, 0x301]⟩,
    ⟨0x1FD6, 0x1FD6, 2, [0x399, 0x342]⟩, ⟨0x1FD7, 0x1FD7, 2, [0x399, 0x308, 0x342]⟩, ⟨0x1FE0, 0x1FE1, 1, [0x1FE8]⟩,
    ⟨0x1FE2, 0x1FE2, 2, [0x3A5, 0x308, 0x300]⟩, ⟨0x1FE3, 0x1FE3, 2, [0x3A5, 0x308, 0x301]⟩,
    ⟨0x1FE4, 0x1FE4, 2, [0x3A1, 0x313]⟩, ⟨0x1FE5, 0x1FE5, 2, [0x1FEC]⟩, ⟨0x1FE6, 0x1FE6, 2, [0x3A5, 0x342]⟩,
    ⟨0x1FE7, 0x1FE7, 2, [0x3A5, 0x308, 0x342]⟩, ⟨0x1FF2, 0x1FF2, 2, [0x1FFA, 0x399]⟩,
    ⟨0x1FF3, 0x1FF3, 2, [0x3A9, 0x399]⟩, ⟨0x1FF4, 0x1FF4, 2, [0x38F, 0x399]⟩, ⟨0x1FF6, 0x1FF6, 2, [0x3A9, 0x342]⟩,
    ⟨0x1FF7, 0x1FF7, 2, [0x3A9, 0x342, 0x399]⟩, ⟨0x1FFC, 0x1FFC, 2, [0x3A9, 0x399]⟩]⟩,
  -- Letterlike Symbols, Number Forms, Enclosed Alphanumerics
  ⟨0x2100, 0x24FF, [
    ⟨0x214E, 0x214E, 2, [0x2132]⟩, ⟨0x2170, 0x217F, 1, [0x2160]⟩, ⟨0x2184, 0x2184, 2, [0x2183]⟩,
    ⟨0x24D0, 0x24E9, 1, [0x24B6]⟩]⟩,
  -- Glagolitic, Latin Extended-C, Coptic, Georgian Supplement
  ⟨0x2C00, 0x2D2F, [
    ⟨0x2C30, 0x2C5F, 1, [0x2C00]⟩, ⟨0x2C61, 0x2C61, 2, [0x2C60]⟩, ⟨0x2C65, 0x2C65, 2, [0x23A]⟩,
    ⟨0x2C66, 0x2C66, 2, [0x23E]⟩, ⟨0x2C68, 0x2C6C, 2, [0x2C67]⟩, ⟨0x2C73, 0x2C73, 2, [0x2C72]⟩,
    ⟨0x2C76, 0x2C76, 2, [0x2C75]⟩, ⟨0x2C81, 0x2CE3, 2, [0x2C80]⟩, ⟨0x2CEC, 0x2CEE, 2, [0x2CEB]⟩,
    ⟨0x2CF3, 0x2CF3, 2, [0x2CF2]⟩, ⟨0x2D00, 0x2D25, 1, [0x10A0]⟩, ⟨0x2D27, 0x2D27, 2, [0x10C7]⟩,
    ⟨0x2D2D, 0x2D2D, 2, [0x10CD]⟩]⟩,
  -- Cyrillic Extended-B
  ⟨0xA640, 0xA69F, [
    ⟨0xA641, 0xA66D, 2, [0xA640]⟩, ⟨0xA681, 0xA69B, 2, [0xA680]⟩]⟩,
  -- Latin Extended-D
  ⟨0xA720, 0xA7FF, [
    ⟨0xA723, 0xA72F, 2, [0xA722]⟩, ⟨0xA733, 0xA76F, 2, [0xA732]⟩, ⟨0xA77A, 0xA77C, 2, [0xA779]⟩,
    ⟨0xA77F, 0xA787, 2, [0xA77E]⟩, ⟨0xA78C, 0xA78C, 2, [0xA78B]⟩, ⟨0xA791, 0xA793, 2, [0xA790]⟩,
    ⟨0xA794, 0xA794, 2, [0xA7C4]⟩, ⟨0xA797, 0xA7A9, 2, [0xA796]⟩, ⟨0xA7B5, 0xA7C3, 2, [0xA7B4]⟩,
    ⟨0xA7C8, 0xA7CA, 2, [0xA7C7]⟩, ⟨0xA7D1, 0xA7D1, 2, [0xA7D0]⟩, ⟨0xA7D7, 0xA7D9, 2, [0xA7D6]⟩,
    ⟨0xA7F6, 0xA7F6, 2, [0xA7F5]⟩]⟩,
  -- Latin Extended-E, Cherokee Supplement
  ⟨0xAB30, 0xABBF, [
    ⟨0xAB53, 0xAB53, 2, [0xA7B3]⟩, ⟨0xAB70, 0xABBF, 1, [0x13A0]⟩]⟩,
  -- Alphabetic Presentation Forms, Fullwidth Forms
  ⟨0xFB00, 0xFFEF, [
    ⟨0xFB00, 0xFB00, 2, [0x46, 0x46]⟩, ⟨0xFB01, 0xFB01, 2, [0x46, 0x49]⟩, ⟨0xFB02, 0xFB02, 2, [0x46, 0x4C]⟩,
    ⟨0xFB03, 0xFB03, 2, [0x46, 0x46, 0x49]⟩, ⟨0xFB04, 0xFB04, 2, [0x46, 0x46, 0x4C]⟩,
    ⟨0xFB05, 0xFB05, 2, [0x53, 0x54]⟩, ⟨0xFB06, 0xFB06, 2, [0x53, 0x54]⟩, ⟨0xFB13, 0xFB13, 2, [0x544, 0x546]⟩,
    ⟨0xFB14, 0xFB14, 2, [0x544, 0x535]⟩, ⟨0xFB15, 0xFB15, 2, [0x544, 0x53B]⟩, ⟨0xFB16, 0xFB16, 2, [0x54E, 0x546]⟩,
    ⟨0xFB17, 0xFB17, 2, [0x544, 0x53D]⟩, ⟨0xFF41, 0xFF5A, 1, [0xFF21]⟩]⟩,
  -- Deseret, Osage, Vithkuqi, Old Hungarian, Warang Citi, Medefaidrin, Adlam
  ⟨0x10400, 0x1E95F, [
    ⟨0x10428, 0x1044F, 1, [0x10400]⟩, ⟨0x104D8, 0x104FB, 1, [0x104B0]⟩, ⟨0x10597, 0x105BB, 2, [0x10570]⟩,
    ⟨0x10598, 0x105A0, 2, [0x10571]⟩, ⟨0x105A4, 0x105B0, 2, [0x1057D]⟩, ⟨0x105B4, 0x105B8, 2, [0x1058D]⟩,
    ⟨0x105BC, 0x105BC, 2, [0x10595]⟩, ⟨0x10CC0, 0x10CF2, 1, [0x10C80]⟩, ⟨0x118C0, 0x118DF, 1, [0x118A0]⟩,
    ⟨0x16E60, 0x16E7F, 1, [0x16E40]⟩, ⟨0x1E922, 0x1E943, 1, [0x1E900]⟩]⟩]

def table : List Row := blocks.flatMap Block.rows

def Row.covers (r : Row) (n : ℕ) : Bool := r.first ≤ n && n ≤ r.last && (n - r.first) % r.step = 0

/-- The upper case of a code point. -/
def upper (n : ℕ) : List ℕ :=
  match table.find? fun r => r.covers n with
  | some r => r.image.map fun i => i + (n - r.first)
  | none => [n]

theorem mem_upper {n m : ℕ} (h : m ∈ upper n) :
    m = n ∧ (∀ r ∈ table, r.covers n = false) ∨ ∃ r ∈ table, r.covers n ∧ ∃ i ∈ r.image, m = i + (n - r.first) := by
  unfold upper at h
  cases hfind : table.find? fun r => r.covers n with
  | none =>
    rw [hfind, List.mem_singleton] at h
    exact Or.inl ⟨h, fun r hr => Bool.eq_false_iff.mpr (List.find?_eq_none.mp hfind r hr)⟩
  | some r =>
    rw [hfind, List.mem_map] at h
    obtain ⟨i, hi, rfl⟩ := h
    have hcovers := List.find?_some (p := fun r : Row => r.covers n) hfind
    exact Or.inr ⟨r, List.mem_of_find?_eq_some hfind, hcovers, i, hi, rfl⟩

theorem upper_of_not_covers {n : ℕ} (h : ∀ r ∈ table, r.covers n = false) : upper n = [n] := by
  have hfind : (table.find? fun r => r.covers n) = none :=
    List.find?_eq_none.mpr fun r hr => Bool.eq_false_iff.mp (h r hr)
  unfold upper
  rw [hfind]

/-! ## Rows that do not meet -/

/-- The row has none of the code points from `low` in steps of `step` to `high`. -/
def Row.avoids (r : Row) (low high step : ℕ) : Bool :=
  Nat.blt high r.first || Nat.blt r.last low ||
    Nat.beq step 2 && Nat.beq r.step 2 && Nat.beq ((low + r.first) % 2) 1

theorem Row.not_covers_of_avoids {r : Row} {low high step n : ℕ} (h : r.avoids low high step = true) (hlow : low ≤ n)
    (hhigh : n ≤ high) (hstep : (n - low) % step = 0) : r.covers n = false := by
  rw [Bool.eq_false_iff]
  intro hcovers
  unfold covers at hcovers
  simp only [Bool.and_eq_true, decide_eq_true_eq] at hcovers
  obtain ⟨⟨hfirst, hlast⟩, hown⟩ := hcovers
  unfold avoids at h
  simp only [Bool.or_eq_true, Bool.and_eq_true, Nat.blt_eq, Nat.beq_eq] at h
  rcases h with (h | h) | ⟨⟨h₂, h₂'⟩, hodd⟩
  · omega
  · omega
  · rw [h₂] at hstep
    rw [h₂'] at hown
    omega

/-- What the row says is not covered by `r`. -/
def Row.clearOf (e r : Row) : Bool := e.image.all fun i => r.avoids i (i + (e.last - e.first)) e.step

theorem Row.not_covers_of_clearOf {e r : Row} (h : e.clearOf r = true) {n i : ℕ} (hn : e.covers n = true)
    (hi : i ∈ e.image) : r.covers (i + (n - e.first)) = false := by
  unfold covers at hn
  simp only [Bool.and_eq_true, decide_eq_true_eq] at hn
  obtain ⟨⟨hfirst, hlast⟩, hstep⟩ := hn
  refine not_covers_of_avoids (List.all_eq_true.mp h i hi) (Nat.le_add_right _ _) (by omega) ?_
  rwa [Nat.add_sub_cancel_left]

/-- No upper case but a code point's own is among those of a row that the table is clear of. -/
theorem not_covers_upper {r : Row} (h : ∀ e ∈ table, e.clearOf r = true) {n m : ℕ} (hm : m ∈ upper n) :
    m = n ∨ r.covers m = false := by
  rcases mem_upper hm with ⟨hsame, -⟩ | ⟨e, he, hn, i, hi, rfl⟩
  · exact Or.inl hsame
  · exact Or.inr (Row.not_covers_of_clearOf (h e he) hn hi)

/-! ## The table -/

/-- The rows lie in their block, and no upper case of the table is in one of them. -/
def Block.ok (b : Block) : Bool :=
  (b.rows.all fun r => Nat.ble b.first r.first && Nat.ble r.last b.last) &&
    table.all fun e => e.image.all fun i => Nat.blt (i + (e.last - e.first)) b.first || Nat.blt b.last i ||
      b.rows.all fun r => r.avoids i (i + (e.last - e.first)) e.step

set_option maxRecDepth 10000 in
theorem blocks_ok : blocks.all Block.ok = true := by decide +kernel

theorem clearOf_table : ∀ r ∈ table, ∀ e ∈ table, e.clearOf r = true := by
  intro r hr e he
  obtain ⟨b, hb, hr⟩ := List.mem_flatMap.mp hr
  have hok := List.all_eq_true.mp blocks_ok b hb
  obtain ⟨hwithin, hclear⟩ := Bool.and_eq_true_iff.mp hok
  have hrow := List.all_eq_true.mp hwithin r hr
  refine List.all_eq_true.mpr fun i hi => ?_
  have himage := List.all_eq_true.mp (List.all_eq_true.mp hclear e he) i hi
  simp only [Bool.and_eq_true, Bool.or_eq_true, Nat.ble_eq, Nat.blt_eq] at hrow himage
  rcases himage with (hbelow | habove) | hrows
  · have hlow : i + (e.last - e.first) < r.first := by omega
    simp [Row.avoids, hlow]
  · have hhigh : r.last < i := by omega
    simp [Row.avoids, hhigh]
  · exact List.all_eq_true.mp hrows r hr

/-- The upper cases of the row are characters. -/
def Row.valid (e : Row) : Bool := e.image ≠ [] && e.image.all fun i =>
  Nat.blt (i + (e.last - e.first)) 0xD800 || Nat.blt 0xDFFF i && Nat.blt (i + (e.last - e.first)) 0x110000

set_option maxRecDepth 10000 in
theorem table_valid : table.all Row.valid = true := by decide +kernel

theorem upper_ne_nil (n : ℕ) : upper n ≠ [] := by
  unfold upper
  cases hfind : table.find? fun r => r.covers n with
  | none => exact List.cons_ne_nil n []
  | some r =>
    have hvalid := List.all_eq_true.mp table_valid r (List.mem_of_find?_eq_some hfind)
    exact fun h => of_decide_eq_true (Bool.and_eq_true_iff.mp hvalid).1 (List.map_eq_nil_iff.mp h)

theorem upper_isValidChar {n m : ℕ} (hn : n.isValidChar) (h : m ∈ upper n) : m.isValidChar := by
  rcases mem_upper h with ⟨rfl, -⟩ | ⟨r, hr, hcovers, i, hi, rfl⟩
  · exact hn
  · have hvalid := (Bool.and_eq_true_iff.mp (List.all_eq_true.mp table_valid r hr)).2
    have himage := List.all_eq_true.mp hvalid i hi
    unfold Row.covers at hcovers
    simp only [Bool.and_eq_true, decide_eq_true_eq] at hcovers
    simp only [Bool.or_eq_true, Bool.and_eq_true, Nat.blt_eq] at himage
    unfold Nat.isValidChar
    omega

/-- **Upper case once.** A code point of an upper case is its own. -/
theorem upper_idem {n m : ℕ} (h : m ∈ upper n) : upper m = [m] := by
  refine upper_of_not_covers fun r hr => ?_
  rcases mem_upper h with ⟨rfl, hnone⟩ | ⟨e, he, hn, i, hi, rfl⟩
  · exact hnone r hr
  · exact Row.not_covers_of_clearOf (clearOf_table r hr e he) hn hi

end Lib.UpperCase
