import WorkloadScan.Text.Mark

/-! The direction in which characters are written. -/
namespace WorkloadScan.Text

inductive Direction where
  | rightward
  | leftward
  /-- A digit of the European row of digits. -/
  | digit
  /-- A digit, or a sign between digits, of the Arabic row of digits. -/
  | arabicDigit
  /-- A sign that takes the direction of what is around it. -/
  | neutral
  /-- A mark on the character before it. -/
  | mark
  deriving DecidableEq, Repr

namespace Direction

/-- The characters written leftward, as inclusive ranges in increasing order. Here and below,
characters that are not written at all may lie in a range. -/
def leftwardRanges : List (Nat × Nat) :=
  [(0x590, 0x590), (0x5be, 0x5be), (0x5c0, 0x5c0), (0x5c3, 0x5c3), (0x5c6, 0x5c6), (0x5c8, 0x5ff),
   (0x608, 0x608), (0x60b, 0x60b), (0x60d, 0x60d), (0x61b, 0x64a), (0x66d, 0x66f), (0x671, 0x6d5),
   (0x6e5, 0x6e6), (0x6ee, 0x6ef), (0x6fa, 0x710), (0x712, 0x72f), (0x74b, 0x7a5), (0x7b1, 0x7ea),
   (0x7f4, 0x7f5), (0x7fa, 0x7fc), (0x7fe, 0x815), (0x81a, 0x81a), (0x824, 0x824), (0x828, 0x828),
   (0x82e, 0x858), (0x85c, 0x896), (0x8a0, 0x8c9), (0xfb37, 0xfbc2), (0xfe73, 0xfefe),
   (0x10800, 0x1091e), (0x10920, 0x10a00), (0x10a04, 0x10a04), (0x10a07, 0x10a0b),
   (0x10a10, 0x10a37), (0x10a3b, 0x10a3e), (0x10a40, 0x10ae4), (0x10ae7, 0x10b38),
   (0x10b40, 0x10d23), (0x10d28, 0x10d2f), (0x10d3a, 0x10d3f), (0x10d4a, 0x10d68),
   (0x10d6f, 0x10e5f), (0x10e7f, 0x10eaa), (0x10ead, 0x10ecf), (0x10ed9, 0x10ef9),
   (0x10f00, 0x10f45), (0x10f51, 0x10f81), (0x10f86, 0x10fff), (0x1e800, 0x1e8cf),
   (0x1e8d7, 0x1e943), (0x1e94b, 0x1eeef), (0x1eef2, 0x1efff)]

def digitRanges : List (Nat × Nat) :=
  [(0x30, 0x39), (0x6f0, 0x6f9), (0x102e1, 0x102fb)]

def arabicDigitRanges : List (Nat × Nat) :=
  [(0x660, 0x669), (0x66b, 0x66c), (0x10d30, 0x10d39), (0x10d40, 0x10d49), (0x10e60, 0x10e7e)]

def neutralRanges : List (Nat × Nat) :=
  [(0x21, 0x2e), (0x3b, 0x3d), (0x5f, 0x60), (0x7b, 0xd7), (0xf7, 0xf7), (0x2b9, 0x2ba),
   (0x2c2, 0x2cf), (0x2d2, 0x2ed), (0x2ef, 0x2ff), (0x375, 0x375), (0x3f6, 0x3f6), (0x58a, 0x58a),
   (0x58d, 0x58f), (0x606, 0x607), (0x609, 0x60a), (0x60c, 0x60c), (0x60e, 0x60f), (0x66a, 0x66a),
   (0x6de, 0x6de), (0x6e9, 0x6e9), (0x7f6, 0x7f9), (0x9f2, 0x9f3), (0x9fb, 0x9fb), (0xaf1, 0xaf1),
   (0xbf3, 0xbfa), (0xc78, 0xc7e), (0xe3f, 0xe3f), (0xf3a, 0xf3d), (0x1390, 0x1399),
   (0x1400, 0x1400), (0x169b, 0x169c), (0x17db, 0x17db), (0x17f0, 0x17f9), (0x1800, 0x180a),
   (0x1940, 0x1940), (0x1944, 0x1945), (0x19de, 0x19ff), (0x200c, 0x2065), (0x20a0, 0x20cf),
   (0x2104, 0x214d), (0x218a, 0x218b), (0x2190, 0x2335), (0x237b, 0x2394), (0x2396, 0x2429),
   (0x2440, 0x244a), (0x24eb, 0x26ab), (0x26ad, 0x27ff), (0x2900, 0x2b73), (0x2b76, 0x2bff),
   (0x2ce5, 0x2cea), (0x2cf9, 0x2cff), (0x2e00, 0x2e5d), (0x2e80, 0x2e99), (0x2e9b, 0x2ef2),
   (0x3001, 0x3004), (0x3008, 0x3020), (0x3030, 0x3030), (0x3037, 0x3037), (0x303d, 0x303f),
   (0x30a0, 0x30a0), (0x30fb, 0x30fb), (0x31c0, 0x31e5), (0x4dc0, 0x4dff), (0xa490, 0xa4c6),
   (0xa60d, 0xa60f), (0xa673, 0xa673), (0xa67e, 0xa67f), (0xa700, 0xa721), (0xa788, 0xa788),
   (0xa828, 0xa82b), (0xa838, 0xa839), (0xa874, 0xa877), (0xab6a, 0xab6b), (0xfbc3, 0xfdff),
   (0xfe45, 0xfe46), (0xfff0, 0xffff), (0x10101, 0x10101), (0x10140, 0x1018c), (0x10190, 0x1019c),
   (0x101a0, 0x101a0), (0x1091f, 0x1091f), (0x10b39, 0x10b3f), (0x10d6e, 0x10d6e),
   (0x10ed0, 0x10ed8), (0x11052, 0x11065), (0x11660, 0x1166c), (0x11fd5, 0x11ff1),
   (0x16fe2, 0x16fe2), (0x1cc00, 0x1ccfc), (0x1cd00, 0x1ceb3), (0x1ceba, 0x1ced0),
   (0x1cee0, 0x1cef0), (0x1d1e9, 0x1d1ea), (0x1d200, 0x1d241), (0x1d245, 0x1d245),
   (0x1d300, 0x1d356), (0x1e2ff, 0x1e2ff), (0x1eef0, 0x1eef1), (0x1f000, 0x1f02b),
   (0x1f030, 0x1f093), (0x1f0a0, 0x1f0ae), (0x1f0b1, 0x1f0bf), (0x1f0c1, 0x1f0cf),
   (0x1f0d1, 0x1f0f5), (0x1f10b, 0x1f12f), (0x1f16d, 0x1f16f), (0x1f1ad, 0x1f1ad),
   (0x1f260, 0x1f265), (0x1f300, 0x1f6d8), (0x1f6dc, 0x1f6ec), (0x1f6f0, 0x1f6fc),
   (0x1f700, 0x1f7d9), (0x1f7e0, 0x1f7eb), (0x1f7f0, 0x1f7f0), (0x1f800, 0x1f80b),
   (0x1f810, 0x1f847), (0x1f850, 0x1f859), (0x1f860, 0x1f887), (0x1f890, 0x1f8ad),
   (0x1f8b0, 0x1f8bb), (0x1f8c0, 0x1f8c1), (0x1f8d0, 0x1f8d8), (0x1f900, 0x1fa57),
   (0x1fa60, 0x1fa6d), (0x1fa70, 0x1fa7c), (0x1fa80, 0x1fa8a), (0x1fa8e, 0x1fac6),
   (0x1fac8, 0x1fac8), (0x1facd, 0x1fadc), (0x1fadf, 0x1faea), (0x1faef, 0x1faf8),
   (0x1fb00, 0x1fb92), (0x1fb94, 0x1fbfa), (0x1fffe, 0x1ffff), (0x2fffe, 0x2ffff),
   (0x3fffe, 0x3ffff), (0x4fffe, 0x4ffff), (0x5fffe, 0x5ffff), (0x6fffe, 0x6ffff),
   (0x7fffe, 0x7ffff), (0x8fffe, 0x8ffff), (0x9fffe, 0x9ffff), (0xafffe, 0xaffff),
   (0xbfffe, 0xbffff), (0xcfffe, 0xcffff), (0xdfffe, 0xe0fff), (0xefffe, 0x10ffff)]

def rightwardMarks : List (Nat × Nat) :=
  [(0xcbf, 0xcbf), (0xcc6, 0xcc6), (0x11a07, 0x11a08), (0x11c3f, 0x11c3f)]

/-- The direction of a character. All that is not listed is written rightward. -/
def of (c : Char) : Direction :=
  let n := c.toNat
  if inRanges leftwardRanges n then .leftward
  else if inRanges arabicDigitRanges n then .arabicDigit
  else if inRanges digitRanges n then .digit
  else if inRanges neutralRanges n then .neutral
  else if isNonspacingMark c && !inRanges rightwardMarks n then .mark
  else .rightward

end Direction
end WorkloadScan.Text
