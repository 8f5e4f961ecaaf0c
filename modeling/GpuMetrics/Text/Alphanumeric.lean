import GpuMetrics.Text.Letter

/-!
# Alphabetic and numeric characters

A character is **alphabetic** if it is a letter or one of the marks and symbols that stand for
letters or complete them, such as vowel signs and circled letters. It is **numeric** if it is a
number of any kind: a decimal digit, a letter number, a fraction, a circled or raised digit.
-/

namespace GpuMetrics.Text

/-- The alphabetic characters that are no letters. -/
def CharClass.letterLike : CharClass where
  edges :=
    [0x345, 0x346, 0x363, 0x370, 0x5b0, 0x5be, 0x5bf, 0x5c0, 0x5c1, 0x5c3, 0x5c4, 0x5c6, 0x5c7,
     0x5c8, 0x610, 0x61b, 0x64b, 0x658, 0x659, 0x660, 0x670, 0x671, 0x6d6, 0x6dd, 0x6e1, 0x6e5,
     0x6e7, 0x6e9, 0x6ed, 0x6ee, 0x711, 0x712, 0x730, 0x740, 0x7a6, 0x7b1, 0x816, 0x818, 0x81b,
     0x824, 0x825, 0x828, 0x829, 0x82d, 0x897, 0x898, 0x8d4, 0x8e0, 0x8e3, 0x8ea, 0x8f0, 0x904,
     0x93a, 0x93c, 0x93e, 0x94d, 0x94e, 0x950, 0x955, 0x958, 0x962, 0x964, 0x981, 0x984, 0x9be,
     0x9c5, 0x9c7, 0x9c9, 0x9cb, 0x9cd, 0x9d7, 0x9d8, 0x9e2, 0x9e4, 0xa01, 0xa04, 0xa3e, 0xa43,
     0xa47, 0xa49, 0xa4b, 0xa4d, 0xa51, 0xa52, 0xa70, 0xa72, 0xa75, 0xa76, 0xa81, 0xa84, 0xabe,
     0xac6, 0xac7, 0xaca, 0xacb, 0xacd, 0xae2, 0xae4, 0xafa, 0xafd, 0xb01, 0xb04, 0xb3e, 0xb45,
     0xb47, 0xb49, 0xb4b, 0xb4d, 0xb56, 0xb58, 0xb62, 0xb64, 0xb82, 0xb83, 0xbbe, 0xbc3, 0xbc6,
     0xbc9, 0xbca, 0xbcd, 0xbd7, 0xbd8, 0xc00, 0xc05, 0xc3e, 0xc45, 0xc46, 0xc49, 0xc4a, 0xc4d,
     0xc55, 0xc57, 0xc62, 0xc64, 0xc81, 0xc84, 0xcbe, 0xcc5, 0xcc6, 0xcc9, 0xcca, 0xccd, 0xcd5,
     0xcd7, 0xce2, 0xce4, 0xcf3, 0xcf4, 0xd00, 0xd04, 0xd3e, 0xd45, 0xd46, 0xd49, 0xd4a, 0xd4d,
     0xd57, 0xd58, 0xd62, 0xd64, 0xd81, 0xd84, 0xdcf, 0xdd5, 0xdd6, 0xdd7, 0xdd8, 0xde0, 0xdf2,
     0xdf4, 0xe31, 0xe32, 0xe34, 0xe3b, 0xe4d, 0xe4e, 0xeb1, 0xeb2, 0xeb4, 0xeba, 0xebb, 0xebd,
     0xecd, 0xece, 0xf71, 0xf84, 0xf8d, 0xf98, 0xf99, 0xfbd, 0x102b, 0x1037, 0x1038, 0x1039, 0x103b,
     0x103f, 0x1056, 0x105a, 0x105e, 0x1061, 0x1062, 0x1065, 0x1067, 0x106e, 0x1071, 0x1075, 0x1082,
     0x108e, 0x108f, 0x1090, 0x109a, 0x109e, 0x1712, 0x1714, 0x1732, 0x1734, 0x1752, 0x1754, 0x1772,
     0x1774, 0x17b6, 0x17c9, 0x1885, 0x1887, 0x18a9, 0x18aa, 0x1920, 0x192c, 0x1930, 0x1939, 0x1a17,
     0x1a1c, 0x1a55, 0x1a5f, 0x1a61, 0x1a75, 0x1abf, 0x1ac1, 0x1acc, 0x1acf, 0x1b00, 0x1b05, 0x1b35,
     0x1b44, 0x1b80, 0x1b83, 0x1ba1, 0x1baa, 0x1bac, 0x1bae, 0x1be7, 0x1bf2, 0x1c24, 0x1c37, 0x1dd3,
     0x1df5, 0x24b6, 0x24ea, 0x2de0, 0x2e00, 0xa674, 0xa67c, 0xa69e, 0xa6a0, 0xa802, 0xa803, 0xa80b,
     0xa80c, 0xa823, 0xa828, 0xa880, 0xa882, 0xa8b4, 0xa8c4, 0xa8c5, 0xa8c6, 0xa8ff, 0xa900, 0xa926,
     0xa92b, 0xa947, 0xa953, 0xa980, 0xa984, 0xa9b4, 0xa9c0, 0xa9e5, 0xa9e6, 0xaa29, 0xaa37, 0xaa43,
     0xaa44, 0xaa4c, 0xaa4e, 0xaa7b, 0xaa7e, 0xaab0, 0xaab1, 0xaab2, 0xaab5, 0xaab7, 0xaab9, 0xaabe,
     0xaabf, 0xaaeb, 0xaaf0, 0xaaf5, 0xaaf6, 0xabe3, 0xabeb, 0xfb1e, 0xfb1f, 0x10376, 0x1037b,
     0x10a01, 0x10a04, 0x10a05, 0x10a07, 0x10a0c, 0x10a10, 0x10d24, 0x10d28, 0x10d69, 0x10d6a,
     0x10eab, 0x10ead, 0x10efa, 0x10efd, 0x11000, 0x11003, 0x11038, 0x11046, 0x11073, 0x11075,
     0x11080, 0x11083, 0x110b0, 0x110b9, 0x110c2, 0x110c3, 0x11100, 0x11103, 0x11127, 0x11133,
     0x11145, 0x11147, 0x11180, 0x11183, 0x111b3, 0x111c0, 0x111ce, 0x111d0, 0x1122c, 0x11235,
     0x11237, 0x11238, 0x1123e, 0x1123f, 0x11241, 0x11242, 0x112df, 0x112e9, 0x11300, 0x11304,
     0x1133e, 0x11345, 0x11347, 0x11349, 0x1134b, 0x1134d, 0x11357, 0x11358, 0x11362, 0x11364,
     0x113b8, 0x113c1, 0x113c2, 0x113c3, 0x113c5, 0x113c6, 0x113c7, 0x113cb, 0x113cc, 0x113ce,
     0x11435, 0x11442, 0x11443, 0x11446, 0x114b0, 0x114c2, 0x115af, 0x115b6, 0x115b8, 0x115bf,
     0x115dc, 0x115de, 0x11630, 0x1163f, 0x11640, 0x11641, 0x116ab, 0x116b6, 0x1171d, 0x1172b,
     0x1182c, 0x11839, 0x11930, 0x11936, 0x11937, 0x11939, 0x1193b, 0x1193d, 0x11940, 0x11941,
     0x11942, 0x11943, 0x119d1, 0x119d8, 0x119da, 0x119e0, 0x119e4, 0x119e5, 0x11a01, 0x11a0b,
     0x11a35, 0x11a3a, 0x11a3b, 0x11a3f, 0x11a51, 0x11a5c, 0x11a8a, 0x11a98, 0x11b60, 0x11b68,
     0x11c2f, 0x11c37, 0x11c38, 0x11c3f, 0x11c92, 0x11ca8, 0x11ca9, 0x11cb7, 0x11d31, 0x11d37,
     0x11d3a, 0x11d3b, 0x11d3c, 0x11d3e, 0x11d3f, 0x11d42, 0x11d43, 0x11d44, 0x11d47, 0x11d48,
     0x11d8a, 0x11d8f, 0x11d90, 0x11d92, 0x11d93, 0x11d97, 0x11ef3, 0x11ef7, 0x11f00, 0x11f02,
     0x11f03, 0x11f04, 0x11f34, 0x11f3b, 0x11f3e, 0x11f41, 0x1611e, 0x1612f, 0x16f4f, 0x16f50,
     0x16f51, 0x16f88, 0x16f8f, 0x16f93, 0x16ff0, 0x16ff2, 0x1bc9e, 0x1bc9f, 0x1e000, 0x1e007,
     0x1e008, 0x1e019, 0x1e01b, 0x1e022, 0x1e023, 0x1e025, 0x1e026, 0x1e02b, 0x1e08f, 0x1e090,
     0x1e6e3, 0x1e6e4, 0x1e6e6, 0x1e6e7, 0x1e6ee, 0x1e6f0, 0x1e6f5, 0x1e6f6, 0x1e947, 0x1e948,
     0x1f130, 0x1f14a, 0x1f150, 0x1f16a, 0x1f170, 0x1f18a]

/-- The numbers of every script and every kind. -/
def CharClass.number : CharClass where
  edges :=
    [0x30, 0x3a, 0xb2, 0xb4, 0xb9, 0xba, 0xbc, 0xbf, 0x660, 0x66a, 0x6f0, 0x6fa, 0x7c0, 0x7ca,
     0x966, 0x970, 0x9e6, 0x9f0, 0x9f4, 0x9fa, 0xa66, 0xa70, 0xae6, 0xaf0, 0xb66, 0xb70, 0xb72,
     0xb78, 0xbe6, 0xbf3, 0xc66, 0xc70, 0xc78, 0xc7f, 0xce6, 0xcf0, 0xd58, 0xd5f, 0xd66, 0xd79,
     0xde6, 0xdf0, 0xe50, 0xe5a, 0xed0, 0xeda, 0xf20, 0xf34, 0x1040, 0x104a, 0x1090, 0x109a, 0x1369,
     0x137d, 0x16ee, 0x16f1, 0x17e0, 0x17ea, 0x17f0, 0x17fa, 0x1810, 0x181a, 0x1946, 0x1950, 0x19d0,
     0x19db, 0x1a80, 0x1a8a, 0x1a90, 0x1a9a, 0x1b50, 0x1b5a, 0x1bb0, 0x1bba, 0x1c40, 0x1c4a, 0x1c50,
     0x1c5a, 0x2070, 0x2071, 0x2074, 0x207a, 0x2080, 0x208a, 0x2150, 0x2183, 0x2185, 0x218a, 0x2460,
     0x249c, 0x24ea, 0x2500, 0x2776, 0x2794, 0x2cfd, 0x2cfe, 0x3007, 0x3008, 0x3021, 0x302a, 0x3038,
     0x303b, 0x3192, 0x3196, 0x3220, 0x322a, 0x3248, 0x3250, 0x3251, 0x3260, 0x3280, 0x328a, 0x32b1,
     0x32c0, 0xa620, 0xa62a, 0xa6e6, 0xa6f0, 0xa830, 0xa836, 0xa8d0, 0xa8da, 0xa900, 0xa90a, 0xa9d0,
     0xa9da, 0xa9f0, 0xa9fa, 0xaa50, 0xaa5a, 0xabf0, 0xabfa, 0xff10, 0xff1a, 0x10107, 0x10134,
     0x10140, 0x10179, 0x1018a, 0x1018c, 0x102e1, 0x102fc, 0x10320, 0x10324, 0x10341, 0x10342,
     0x1034a, 0x1034b, 0x103d1, 0x103d6, 0x104a0, 0x104aa, 0x10858, 0x10860, 0x10879, 0x10880,
     0x108a7, 0x108b0, 0x108fb, 0x10900, 0x10916, 0x1091c, 0x109bc, 0x109be, 0x109c0, 0x109d0,
     0x109d2, 0x10a00, 0x10a40, 0x10a49, 0x10a7d, 0x10a7f, 0x10a9d, 0x10aa0, 0x10aeb, 0x10af0,
     0x10b58, 0x10b60, 0x10b78, 0x10b80, 0x10ba9, 0x10bb0, 0x10cfa, 0x10d00, 0x10d30, 0x10d3a,
     0x10d40, 0x10d4a, 0x10e60, 0x10e7f, 0x10f1d, 0x10f27, 0x10f51, 0x10f55, 0x10fc5, 0x10fcc,
     0x11052, 0x11070, 0x110f0, 0x110fa, 0x11136, 0x11140, 0x111d0, 0x111da, 0x111e1, 0x111f5,
     0x112f0, 0x112fa, 0x11450, 0x1145a, 0x114d0, 0x114da, 0x11650, 0x1165a, 0x116c0, 0x116ca,
     0x116d0, 0x116e4, 0x11730, 0x1173c, 0x118e0, 0x118f3, 0x11950, 0x1195a, 0x11bf0, 0x11bfa,
     0x11c50, 0x11c6d, 0x11d50, 0x11d5a, 0x11da0, 0x11daa, 0x11de0, 0x11dea, 0x11f50, 0x11f5a,
     0x11fc0, 0x11fd5, 0x12400, 0x1246f, 0x16130, 0x1613a, 0x16a60, 0x16a6a, 0x16ac0, 0x16aca,
     0x16b50, 0x16b5a, 0x16b5b, 0x16b62, 0x16d70, 0x16d7a, 0x16e80, 0x16e97, 0x16ff4, 0x16ff7,
     0x1ccf0, 0x1ccfa, 0x1d2c0, 0x1d2d4, 0x1d2e0, 0x1d2f4, 0x1d360, 0x1d379, 0x1d7ce, 0x1d800,
     0x1e140, 0x1e14a, 0x1e2f0, 0x1e2fa, 0x1e4f0, 0x1e4fa, 0x1e5f1, 0x1e5fb, 0x1e8c7, 0x1e8d0,
     0x1e950, 0x1e95a, 0x1ec71, 0x1ecac, 0x1ecad, 0x1ecb0, 0x1ecb1, 0x1ecb5, 0x1ed01, 0x1ed2e,
     0x1ed2f, 0x1ed3e, 0x1f100, 0x1f10d, 0x1fbf0, 0x1fbfa]

/-- Whether `c` is a letter or counts as one. -/
def isAlphabetic (c : Char) : Bool := isLetter c || CharClass.letterLike.contains c

/-- Whether `c` counts as a letter or as a number. -/
def isAlphanumeric (c : Char) : Bool := isAlphabetic c || CharClass.number.contains c

end GpuMetrics.Text
