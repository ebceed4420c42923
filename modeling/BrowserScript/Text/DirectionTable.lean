/-!
# Directions of writing

The characters that are written from right to left, digits and neutral characters beyond ASCII,
and the characters that join with the next or with the one before.  Ranges are closed, disjoint
and in increasing order.
-/

namespace BrowserScript.Text

/-- Letters that are written from right to left. -/
def rightToLeftRanges : List (Nat × Nat) :=
  [
   (0x5be, 0x5be), (0x5c0, 0x5c0), (0x5c3, 0x5c3), (0x5c6, 0x5c6), (0x5d0, 0x5f4), (0x608, 0x608),
   (0x60b, 0x60b), (0x60d, 0x60d), (0x61b, 0x64a), (0x66d, 0x66f), (0x671, 0x6d5), (0x6e5, 0x6e6),
   (0x6ee, 0x6ef), (0x6fa, 0x710), (0x712, 0x72f), (0x74d, 0x7a5), (0x7b1, 0x7ea), (0x7f4, 0x7f5),
   (0x7fa, 0x7fa), (0x7fe, 0x815), (0x81a, 0x81a), (0x824, 0x824), (0x828, 0x828), (0x830, 0x858),
   (0x85e, 0x88e), (0x8a0, 0x8c9), (0xfbb2, 0xfbc2), (0xfe73, 0xfe73), (0x10800, 0x1091b),
   (0x10920, 0x1093f), (0x10980, 0x10a00), (0x10a10, 0x10a35), (0x10a40, 0x10ae4),
   (0x10aeb, 0x10b35), (0x10b40, 0x10d23), (0x10e80, 0x10ea9), (0x10ead, 0x10eb1),
   (0x10f00, 0x10f45), (0x10f51, 0x10f81), (0x10f86, 0x10ff6), (0x1e800, 0x1e8cf),
   (0x1e922, 0x1e943), (0x1e94b, 0x1ed3d)]

/-- Digits that go with letters written from right to left. -/
def arabicDigitRanges : List (Nat × Nat) :=
  [
   (0x660, 0x669), (0x66b, 0x66c), (0x10d30, 0x10d39), (0x10e60, 0x10e7e)]

/-- Digits that go with any letters. -/
def europeanDigitRanges : List (Nat × Nat) :=
  [
   (0x6f0, 0x6f9), (0x102e1, 0x102fb)]

/-- Characters without a direction. -/
def neutralRanges : List (Nat × Nat) :=
  [
   (0xa1, 0xd7), (0xf7, 0xf7), (0x2b9, 0x2ba), (0x2c2, 0x2cf), (0x2d2, 0x2ed), (0x2ef, 0x2ff),
   (0x375, 0x375), (0x3f6, 0x3f6), (0x58a, 0x58f), (0x606, 0x607), (0x609, 0x60a), (0x60c, 0x60c),
   (0x60e, 0x60f), (0x66a, 0x66a), (0x6de, 0x6de), (0x6e9, 0x6e9), (0x7f6, 0x7f9), (0x9f2, 0x9f3),
   (0x9fb, 0x9fb), (0xaf1, 0xaf1), (0xbf3, 0xbfa), (0xc78, 0xc7e), (0xe3f, 0xe3f), (0xf3a, 0xf3d),
   (0x1390, 0x1399), (0x1400, 0x1400), (0x169b, 0x169c), (0x17db, 0x17db), (0x17f0, 0x180a),
   (0x1940, 0x1945), (0x19de, 0x19ff), (0x200c, 0x20c0), (0x2104, 0x214d), (0x218a, 0x2335),
   (0x237b, 0x2394), (0x2396, 0x2426), (0x2440, 0x26ab), (0x26ad, 0x27ff), (0x2900, 0x2b95),
   (0x2b97, 0x2bff), (0x2ce5, 0x2cea), (0x2cf9, 0x2cff), (0x2e00, 0x3004), (0x3008, 0x3020),
   (0x3030, 0x3030), (0x3037, 0x3037), (0x303d, 0x303f), (0x30a0, 0x30a0), (0x30fb, 0x30fb),
   (0x31c0, 0x31e3), (0x4dc0, 0x4dff), (0xa490, 0xa4c6), (0xa60d, 0xa60f), (0xa673, 0xa673),
   (0xa67e, 0xa67f), (0xa700, 0xa721), (0xa788, 0xa788), (0xa828, 0xa82b), (0xa838, 0xa839),
   (0xa874, 0xa877), (0xab6a, 0xab6b), (0xfd3e, 0xfd4f), (0xfdcf, 0xfdff), (0xfe45, 0xfe46),
   (0x10101, 0x10101), (0x10140, 0x1018c), (0x10190, 0x101a0), (0x1091f, 0x1091f),
   (0x10b39, 0x10b3f), (0x11052, 0x11065), (0x11660, 0x1166c), (0x11fd5, 0x11ff1),
   (0x16fe2, 0x16fe2), (0x1d1e9, 0x1d241), (0x1d245, 0x1d245), (0x1d300, 0x1d356),
   (0x1e2ff, 0x1e2ff), (0x1eef0, 0x1f12f), (0x1f16d, 0x1f16f), (0x1f1ad, 0x1f1ad),
   (0x1f260, 0x1f6d7), (0x1f6dd, 0x1f773), (0x1f780, 0x1f7d8), (0x1f7e0, 0x1f8b1),
   (0x1f900, 0x1fa53), (0x1fa60, 0x1fa74), (0x1fa78, 0x1fa86), (0x1fa90, 0x1faac),
   (0x1fab0, 0x1faba), (0x1fac0, 0x1fac5), (0x1fad0, 0x1fad9), (0x1fae0, 0x1fae7),
   (0x1faf0, 0x1faf6), (0x1fb00, 0x1fbca)]

/-- Characters that join with the one after them. -/
def joinsAfterRanges : List (Nat × Nat) :=
  [
   (0x620, 0x620), (0x626, 0x626), (0x628, 0x628), (0x62a, 0x62e), (0x633, 0x63f), (0x641, 0x647),
   (0x649, 0x64a), (0x66e, 0x66f), (0x679, 0x687), (0x69a, 0x6bf), (0x6c1, 0x6c2), (0x6cc, 0x6cc),
   (0x6ce, 0x6ce), (0x6d0, 0x6d1), (0x6fa, 0x6fc), (0x6ff, 0x6ff), (0x712, 0x714), (0x71a, 0x71d),
   (0x71f, 0x727), (0x729, 0x729), (0x72b, 0x72b), (0x72d, 0x72e), (0x74e, 0x758), (0x75c, 0x76a),
   (0x76d, 0x770), (0x772, 0x772), (0x775, 0x777), (0x77a, 0x77f), (0x7ca, 0x7ea), (0x841, 0x845),
   (0x848, 0x848), (0x84a, 0x853), (0x855, 0x855), (0x860, 0x860), (0x862, 0x865), (0x868, 0x868),
   (0x886, 0x886), (0x889, 0x88d), (0x88f, 0x88f), (0x8a0, 0x8a9), (0x8af, 0x8b0), (0x8b3, 0x8b8),
   (0x8ba, 0x8c8), (0x1807, 0x1807), (0x1820, 0x1878), (0x1887, 0x18a8), (0x18aa, 0x18aa),
   (0xa840, 0xa872), (0x10ac0, 0x10ac4), (0x10acd, 0x10acd), (0x10ad3, 0x10adc),
   (0x10ade, 0x10ae0), (0x10aeb, 0x10aee), (0x10b80, 0x10b80), (0x10b82, 0x10b82),
   (0x10b86, 0x10b88), (0x10b8a, 0x10b8b), (0x10b8d, 0x10b8d), (0x10b90, 0x10b90),
   (0x10bad, 0x10bae), (0x10d00, 0x10d21), (0x10d23, 0x10d23), (0x10ec3, 0x10ec4),
   (0x10ec6, 0x10ec7), (0x10f30, 0x10f32), (0x10f34, 0x10f44), (0x10f51, 0x10f53),
   (0x10f70, 0x10f73), (0x10f76, 0x10f81), (0x10fb0, 0x10fb0), (0x10fb2, 0x10fb3),
   (0x10fb8, 0x10fb8), (0x10fbb, 0x10fbc), (0x10fbe, 0x10fbf), (0x10fc1, 0x10fc1),
   (0x10fc4, 0x10fc4), (0x10fca, 0x10fcb), (0x1e922, 0x1e943)]

/-- Characters that join with the one before them. -/
def joinsBeforeRanges : List (Nat × Nat) :=
  [
   (0x620, 0x620), (0x622, 0x63f), (0x641, 0x64a), (0x66e, 0x66f), (0x671, 0x673), (0x679, 0x6d3),
   (0x6d5, 0x6d5), (0x6ee, 0x6ef), (0x6fa, 0x6fc), (0x6ff, 0x6ff), (0x710, 0x710), (0x712, 0x72f),
   (0x74d, 0x77f), (0x7ca, 0x7ea), (0x840, 0x858), (0x860, 0x860), (0x862, 0x865), (0x867, 0x882),
   (0x886, 0x886), (0x889, 0x88f), (0x8a0, 0x8ac), (0x8ae, 0x8c8), (0x1807, 0x1807),
   (0x1820, 0x1878), (0x1887, 0x18a8), (0x18aa, 0x18aa), (0xa840, 0xa871), (0x10ac0, 0x10ac5),
   (0x10ac7, 0x10ac7), (0x10ac9, 0x10aca), (0x10ace, 0x10ad6), (0x10ad8, 0x10ae1),
   (0x10ae4, 0x10ae4), (0x10aeb, 0x10aef), (0x10b80, 0x10b91), (0x10ba9, 0x10bae),
   (0x10d01, 0x10d23), (0x10ec2, 0x10ec4), (0x10ec6, 0x10ec7), (0x10f30, 0x10f44),
   (0x10f51, 0x10f54), (0x10f70, 0x10f81), (0x10fb0, 0x10fb0), (0x10fb2, 0x10fb6),
   (0x10fb8, 0x10fbf), (0x10fc1, 0x10fc4), (0x10fc9, 0x10fca), (0x1e922, 0x1e943)]

end BrowserScript.Text
