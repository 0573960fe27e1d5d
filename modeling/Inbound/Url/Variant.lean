import Inbound.Text.Unprintable

/-!
# Case and compatibility of domain characters

A domain is compared without regard to case and to mere variants of a character. The tables say
which characters stand for others, which are left out, and which no domain has.
-/

namespace Inbound.Url

/-- Characters of the basic plane that stand for one other: the first and the last code point of a
run, the step within the run, and the code point that the first one stands for. The others of the
run stand for code points as far from it as they are from the first; where the step is zero, all of
the run stand for the same one. -/
def basicRuns : Array (Nat × Nat × Nat × Nat) := #[
  (0xa0, 0xa0, 1, 0x20), (0xaa, 0xaa, 1, 0x61), (0xb2, 0xb3, 1, 0x32), (0xb5, 0xb5, 1, 0x3bc),
  (0xb9, 0xb9, 1, 0x31), (0xba, 0xba, 1, 0x6f), (0xc0, 0xd6, 1, 0xe0), (0xd8, 0xde, 1, 0xf8),
  (0x100, 0x12e, 2, 0x101), (0x134, 0x136, 2, 0x135), (0x139, 0x13d, 2, 0x13a),
  (0x141, 0x147, 2, 0x142), (0x14a, 0x176, 2, 0x14b), (0x178, 0x178, 1, 0xff),
  (0x179, 0x17d, 2, 0x17a), (0x17f, 0x17f, 1, 0x73), (0x181, 0x181, 1, 0x253),
  (0x182, 0x184, 2, 0x183), (0x186, 0x186, 1, 0x254), (0x187, 0x187, 1, 0x188),
  (0x189, 0x18a, 1, 0x256), (0x18b, 0x18b, 1, 0x18c), (0x18e, 0x18e, 1, 0x1dd),
  (0x18f, 0x18f, 1, 0x259), (0x190, 0x190, 1, 0x25b), (0x191, 0x191, 1, 0x192),
  (0x193, 0x193, 1, 0x260), (0x194, 0x194, 1, 0x263), (0x196, 0x196, 1, 0x269),
  (0x197, 0x197, 1, 0x268), (0x198, 0x198, 1, 0x199), (0x19c, 0x19c, 1, 0x26f),
  (0x19d, 0x19d, 1, 0x272), (0x19f, 0x19f, 1, 0x275), (0x1a0, 0x1a4, 2, 0x1a1),
  (0x1a6, 0x1a6, 1, 0x280), (0x1a7, 0x1a7, 1, 0x1a8), (0x1a9, 0x1a9, 1, 0x283),
  (0x1ac, 0x1ac, 1, 0x1ad), (0x1ae, 0x1ae, 1, 0x288), (0x1af, 0x1af, 1, 0x1b0),
  (0x1b1, 0x1b2, 1, 0x28a), (0x1b3, 0x1b5, 2, 0x1b4), (0x1b7, 0x1b7, 1, 0x292),
  (0x1b8, 0x1b8, 1, 0x1b9), (0x1bc, 0x1bc, 1, 0x1bd), (0x1cd, 0x1db, 2, 0x1ce),
  (0x1de, 0x1ee, 2, 0x1df), (0x1f4, 0x1f4, 1, 0x1f5), (0x1f6, 0x1f6, 1, 0x195),
  (0x1f7, 0x1f7, 1, 0x1bf), (0x1f8, 0x21e, 2, 0x1f9), (0x220, 0x220, 1, 0x19e),
  (0x222, 0x232, 2, 0x223), (0x23a, 0x23a, 1, 0x2c65), (0x23b, 0x23b, 1, 0x23c),
  (0x23d, 0x23d, 1, 0x19a), (0x23e, 0x23e, 1, 0x2c66), (0x241, 0x241, 1, 0x242),
  (0x243, 0x243, 1, 0x180), (0x244, 0x244, 1, 0x289), (0x245, 0x245, 1, 0x28c),
  (0x246, 0x24e, 2, 0x247), (0x2b0, 0x2b0, 1, 0x68), (0x2b1, 0x2b1, 1, 0x266),
  (0x2b2, 0x2b2, 1, 0x6a), (0x2b3, 0x2b3, 1, 0x72), (0x2b4, 0x2b4, 1, 0x279),
  (0x2b5, 0x2b5, 1, 0x27b), (0x2b6, 0x2b6, 1, 0x281), (0x2b7, 0x2b7, 1, 0x77),
  (0x2b8, 0x2b8, 1, 0x79), (0x2e0, 0x2e0, 1, 0x263), (0x2e1, 0x2e1, 1, 0x6c),
  (0x2e2, 0x2e2, 1, 0x73), (0x2e3, 0x2e3, 1, 0x78), (0x2e4, 0x2e4, 1, 0x295),
  (0x340, 0x341, 1, 0x300), (0x343, 0x343, 1, 0x313), (0x345, 0x345, 1, 0x3b9),
  (0x370, 0x372, 2, 0x371), (0x374, 0x374, 1, 0x2b9), (0x376, 0x376, 1, 0x377),
  (0x37e, 0x37e, 1, 0x3b), (0x37f, 0x37f, 1, 0x3f3), (0x386, 0x386, 1, 0x3ac),
  (0x387, 0x387, 1, 0xb7), (0x388, 0x38a, 1, 0x3ad), (0x38c, 0x38c, 1, 0x3cc),
  (0x38e, 0x38f, 1, 0x3cd), (0x391, 0x3a1, 1, 0x3b1), (0x3a3, 0x3ab, 1, 0x3c3),
  (0x3cf, 0x3cf, 1, 0x3d7), (0x3d0, 0x3d0, 1, 0x3b2), (0x3d1, 0x3d1, 1, 0x3b8),
  (0x3d2, 0x3d2, 1, 0x3c5), (0x3d3, 0x3d3, 1, 0x3cd), (0x3d4, 0x3d4, 1, 0x3cb),
  (0x3d5, 0x3d5, 1, 0x3c6), (0x3d6, 0x3d6, 1, 0x3c0), (0x3d8, 0x3ee, 2, 0x3d9),
  (0x3f0, 0x3f0, 1, 0x3ba), (0x3f1, 0x3f1, 1, 0x3c1), (0x3f2, 0x3f2, 1, 0x3c3),
  (0x3f4, 0x3f4, 1, 0x3b8), (0x3f5, 0x3f5, 1, 0x3b5), (0x3f7, 0x3f7, 1, 0x3f8),
  (0x3f9, 0x3f9, 1, 0x3c3), (0x3fa, 0x3fa, 1, 0x3fb), (0x3fd, 0x3ff, 1, 0x37b),
  (0x400, 0x40f, 1, 0x450), (0x410, 0x42f, 1, 0x430), (0x460, 0x480, 2, 0x461),
  (0x48a, 0x4be, 2, 0x48b), (0x4c0, 0x4c0, 1, 0x4cf), (0x4c1, 0x4cd, 2, 0x4c2),
  (0x4d0, 0x52e, 2, 0x4d1), (0x531, 0x556, 1, 0x561), (0x558, 0x558, 1, 0x567),
  (0x58b, 0x58b, 1, 0x56b), (0xf0c, 0xf0c, 1, 0xf0b), (0x10a0, 0x10c5, 1, 0x2d00),
  (0x10c7, 0x10c7, 1, 0x2d27), (0x10cd, 0x10cd, 1, 0x2d2d), (0x10fc, 0x10fc, 1, 0x10dc),
  (0x13f8, 0x13fd, 1, 0x13f0), (0x1c80, 0x1c80, 1, 0x432), (0x1c81, 0x1c81, 1, 0x434),
  (0x1c82, 0x1c82, 1, 0x43e), (0x1c83, 0x1c84, 1, 0x441), (0x1c85, 0x1c85, 1, 0x442),
  (0x1c86, 0x1c86, 1, 0x44a), (0x1c87, 0x1c87, 1, 0x463), (0x1c88, 0x1c88, 1, 0xa64b),
  (0x1c89, 0x1c89, 1, 0x1c8a), (0x1c90, 0x1cba, 1, 0x10d0), (0x1cbd, 0x1cbf, 1, 0x10fd),
  (0x1d2c, 0x1d2c, 1, 0x61), (0x1d2d, 0x1d2d, 1, 0xe6), (0x1d2e, 0x1d30, 2, 0x62),
  (0x1d31, 0x1d31, 1, 0x65), (0x1d32, 0x1d32, 1, 0x1dd), (0x1d33, 0x1d3a, 1, 0x67),
  (0x1d3c, 0x1d3c, 1, 0x6f), (0x1d3d, 0x1d3d, 1, 0x223), (0x1d3e, 0x1d3e, 1, 0x70),
  (0x1d3f, 0x1d3f, 1, 0x72), (0x1d40, 0x1d41, 1, 0x74), (0x1d42, 0x1d42, 1, 0x77),
  (0x1d43, 0x1d43, 1, 0x61), (0x1d44, 0x1d45, 1, 0x250), (0x1d46, 0x1d46, 1, 0x1d02),
  (0x1d47, 0x1d47, 1, 0x62), (0x1d48, 0x1d49, 1, 0x64), (0x1d4a, 0x1d4a, 1, 0x259),
  (0x1d4b, 0x1d4c, 1, 0x25b), (0x1d4d, 0x1d4d, 1, 0x67), (0x1d4f, 0x1d4f, 1, 0x6b),
  (0x1d50, 0x1d50, 1, 0x6d), (0x1d51, 0x1d51, 1, 0x14b), (0x1d52, 0x1d52, 1, 0x6f),
  (0x1d53, 0x1d53, 1, 0x254), (0x1d54, 0x1d55, 1, 0x1d16), (0x1d56, 0x1d56, 1, 0x70),
  (0x1d57, 0x1d58, 1, 0x74), (0x1d59, 0x1d59, 1, 0x1d1d), (0x1d5a, 0x1d5a, 1, 0x26f),
  (0x1d5b, 0x1d5b, 1, 0x76), (0x1d5c, 0x1d5c, 1, 0x1d25), (0x1d5d, 0x1d5f, 1, 0x3b2),
  (0x1d60, 0x1d61, 1, 0x3c6), (0x1d62, 0x1d62, 1, 0x69), (0x1d63, 0x1d63, 1, 0x72),
  (0x1d64, 0x1d65, 1, 0x75), (0x1d66, 0x1d67, 1, 0x3b2), (0x1d68, 0x1d68, 1, 0x3c1),
  (0x1d69, 0x1d6a, 1, 0x3c6), (0x1d78, 0x1d78, 1, 0x43d), (0x1d9b, 0x1d9b, 1, 0x252),
  (0x1d9c, 0x1d9c, 1, 0x63), (0x1d9d, 0x1d9d, 1, 0x255), (0x1d9e, 0x1d9e, 1, 0xf0),
  (0x1d9f, 0x1d9f, 1, 0x25c), (0x1da0, 0x1da0, 1, 0x66), (0x1da1, 0x1da1, 1, 0x25f),
  (0x1da2, 0x1da2, 1, 0x261), (0x1da3, 0x1da3, 1, 0x265), (0x1da4, 0x1da6, 1, 0x268),
  (0x1da7, 0x1da7, 1, 0x1d7b), (0x1da8, 0x1da8, 1, 0x29d), (0x1da9, 0x1da9, 1, 0x26d),
  (0x1daa, 0x1daa, 1, 0x1d85), (0x1dab, 0x1dab, 1, 0x29f), (0x1dac, 0x1dac, 1, 0x271),
  (0x1dad, 0x1dad, 1, 0x270), (0x1dae, 0x1db1, 1, 0x272), (0x1db2, 0x1db2, 1, 0x278),
  (0x1db3, 0x1db4, 1, 0x282), (0x1db5, 0x1db5, 1, 0x1ab), (0x1db6, 0x1db7, 1, 0x289),
  (0x1db8, 0x1db8, 1, 0x1d1c), (0x1db9, 0x1dba, 1, 0x28b), (0x1dbb, 0x1dbb, 1, 0x7a),
  (0x1dbc, 0x1dbe, 1, 0x290), (0x1dbf, 0x1dbf, 1, 0x3b8), (0x1e00, 0x1e94, 2, 0x1e01),
  (0x1e9b, 0x1e9b, 1, 0x1e61), (0x1e9e, 0x1e9e, 1, 0xdf), (0x1ea0, 0x1efe, 2, 0x1ea1),
  (0x1f08, 0x1f0f, 1, 0x1f00), (0x1f18, 0x1f1d, 1, 0x1f10), (0x1f28, 0x1f2f, 1, 0x1f20),
  (0x1f38, 0x1f3f, 1, 0x1f30), (0x1f48, 0x1f4d, 1, 0x1f40), (0x1f59, 0x1f5f, 2, 0x1f51),
  (0x1f68, 0x1f6f, 1, 0x1f60), (0x1f71, 0x1f71, 1, 0x3ac), (0x1f73, 0x1f73, 1, 0x3ad),
  (0x1f75, 0x1f75, 1, 0x3ae), (0x1f77, 0x1f77, 1, 0x3af), (0x1f79, 0x1f79, 1, 0x3cc),
  (0x1f7b, 0x1f7b, 1, 0x3cd), (0x1f7d, 0x1f7d, 1, 0x3ce), (0x1fb8, 0x1fb9, 1, 0x1fb0),
  (0x1fba, 0x1fba, 1, 0x1f70), (0x1fbb, 0x1fbb, 1, 0x3ac), (0x1fbe, 0x1fbe, 1, 0x3b9),
  (0x1fc8, 0x1fc8, 1, 0x1f72), (0x1fc9, 0x1fc9, 1, 0x3ad), (0x1fca, 0x1fca, 1, 0x1f74),
  (0x1fcb, 0x1fcb, 1, 0x3ae), (0x1fd3, 0x1fd3, 1, 0x390), (0x1fd8, 0x1fd9, 1, 0x1fd0),
  (0x1fda, 0x1fda, 1, 0x1f76), (0x1fdb, 0x1fdb, 1, 0x3af), (0x1fe3, 0x1fe3, 1, 0x3b0),
  (0x1fe8, 0x1fe9, 1, 0x1fe0), (0x1fea, 0x1fea, 1, 0x1f7a), (0x1feb, 0x1feb, 1, 0x3cd),
  (0x1fec, 0x1fec, 1, 0x1fe5), (0x1fef, 0x1fef, 1, 0x60), (0x1ff8, 0x1ff8, 1, 0x1f78),
  (0x1ff9, 0x1ff9, 1, 0x3cc), (0x1ffa, 0x1ffa, 1, 0x1f7c), (0x1ffb, 0x1ffb, 1, 0x3ce),
  (0x2000, 0x200a, 0, 0x20), (0x2011, 0x2011, 1, 0x2010), (0x202f, 0x202f, 1, 0x20),
  (0x205f, 0x205f, 1, 0x20), (0x2070, 0x2070, 1, 0x30), (0x2071, 0x2071, 1, 0x69),
  (0x2074, 0x2079, 1, 0x34), (0x207a, 0x207a, 1, 0x2b), (0x207b, 0x207b, 1, 0x2212),
  (0x207c, 0x207c, 1, 0x3d), (0x207d, 0x207e, 1, 0x28), (0x207f, 0x207f, 1, 0x6e),
  (0x2080, 0x2089, 1, 0x30), (0x208a, 0x208a, 1, 0x2b), (0x208b, 0x208b, 1, 0x2212),
  (0x208c, 0x208c, 1, 0x3d), (0x208d, 0x208e, 1, 0x28), (0x2090, 0x2090, 1, 0x61),
  (0x2091, 0x2091, 1, 0x65), (0x2092, 0x2092, 1, 0x6f), (0x2093, 0x2093, 1, 0x78),
  (0x2094, 0x2094, 1, 0x259), (0x2095, 0x2095, 1, 0x68), (0x2096, 0x2099, 1, 0x6b),
  (0x209a, 0x209a, 1, 0x70), (0x209b, 0x209c, 1, 0x73), (0x209d, 0x209d, 1, 0x77),
  (0x209e, 0x209f, 1, 0x79), (0x2102, 0x2102, 1, 0x63), (0x2107, 0x2107, 1, 0x25b),
  (0x210a, 0x210b, 1, 0x67), (0x210c, 0x210e, 0, 0x68), (0x210f, 0x210f, 1, 0x127),
  (0x2110, 0x2111, 0, 0x69), (0x2112, 0x2113, 0, 0x6c), (0x2115, 0x2115, 1, 0x6e),
  (0x2119, 0x211b, 1, 0x70), (0x211c, 0x211d, 0, 0x72), (0x2124, 0x2124, 1, 0x7a),
  (0x2126, 0x2126, 1, 0x3c9), (0x2128, 0x2128, 1, 0x7a), (0x212a, 0x212a, 1, 0x6b),
  (0x212b, 0x212b, 1, 0xe5), (0x212c, 0x212d, 1, 0x62), (0x212f, 0x2130, 0, 0x65),
  (0x2131, 0x2131, 1, 0x66), (0x2132, 0x2132, 1, 0x214e), (0x2133, 0x2133, 1, 0x6d),
  (0x2134, 0x2134, 1, 0x6f), (0x2135, 0x2138, 1, 0x5d0), (0x2139, 0x2139, 1, 0x69),
  (0x213c, 0x213c, 1, 0x3c0), (0x213d, 0x213e, 0, 0x3b3), (0x213f, 0x213f, 1, 0x3c0),
  (0x2140, 0x2140, 1, 0x2211), (0x2145, 0x2146, 0, 0x64), (0x2147, 0x2147, 1, 0x65),
  (0x2148, 0x2149, 1, 0x69), (0x2160, 0x2160, 1, 0x69), (0x2164, 0x2164, 1, 0x76),
  (0x2169, 0x2169, 1, 0x78), (0x216c, 0x216c, 1, 0x6c), (0x216d, 0x216e, 1, 0x63),
  (0x216f, 0x216f, 1, 0x6d), (0x2170, 0x2170, 1, 0x69), (0x2174, 0x2174, 1, 0x76),
  (0x2179, 0x2179, 1, 0x78), (0x217c, 0x217c, 1, 0x6c), (0x217d, 0x217e, 1, 0x63),
  (0x217f, 0x217f, 1, 0x6d), (0x2183, 0x2183, 1, 0x2184), (0x2329, 0x232a, 1, 0x3008),
  (0x2460, 0x2468, 1, 0x31), (0x24b6, 0x24cf, 1, 0x61), (0x24d0, 0x24e9, 1, 0x61),
  (0x24ea, 0x24ea, 1, 0x30), (0x2c00, 0x2c2f, 1, 0x2c30), (0x2c60, 0x2c60, 1, 0x2c61),
  (0x2c62, 0x2c62, 1, 0x26b), (0x2c63, 0x2c63, 1, 0x1d7d), (0x2c64, 0x2c64, 1, 0x27d),
  (0x2c67, 0x2c6b, 2, 0x2c68), (0x2c6d, 0x2c6d, 1, 0x251), (0x2c6e, 0x2c6e, 1, 0x271),
  (0x2c6f, 0x2c6f, 1, 0x250), (0x2c70, 0x2c70, 1, 0x252), (0x2c72, 0x2c72, 1, 0x2c73),
  (0x2c75, 0x2c75, 1, 0x2c76), (0x2c7c, 0x2c7c, 1, 0x6a), (0x2c7d, 0x2c7d, 1, 0x76),
  (0x2c7e, 0x2c7f, 1, 0x23f), (0x2c80, 0x2ce2, 2, 0x2c81), (0x2ceb, 0x2ced, 2, 0x2cec),
  (0x2cf2, 0x2cf2, 1, 0x2cf3), (0x2d6f, 0x2d6f, 1, 0x2d61), (0x3000, 0x3000, 1, 0x20),
  (0x3002, 0x3002, 1, 0x2e), (0x3036, 0x3036, 1, 0x3012), (0x3131, 0x3132, 1, 0x1100),
  (0x3133, 0x3133, 1, 0x11aa), (0x3134, 0x3134, 1, 0x1102), (0x3135, 0x3136, 1, 0x11ac),
  (0x3137, 0x3139, 1, 0x1103), (0x313a, 0x313f, 1, 0x11b0), (0x3140, 0x3140, 1, 0x111a),
  (0x3141, 0x3143, 1, 0x1106), (0x3144, 0x3144, 1, 0x1121), (0x3145, 0x314e, 1, 0x1109),
  (0x314f, 0x3163, 1, 0x1161), (0x3165, 0x3166, 1, 0x1114), (0x3167, 0x3168, 1, 0x11c7),
  (0x3169, 0x3169, 1, 0x11cc), (0x316a, 0x316a, 1, 0x11ce), (0x316b, 0x316b, 1, 0x11d3),
  (0x316c, 0x316c, 1, 0x11d7), (0x316d, 0x316d, 1, 0x11d9), (0x316e, 0x316e, 1, 0x111c),
  (0x316f, 0x316f, 1, 0x11dd), (0x3170, 0x3170, 1, 0x11df), (0x3171, 0x3172, 1, 0x111d),
  (0x3173, 0x3173, 1, 0x1120), (0x3174, 0x3175, 1, 0x1122), (0x3176, 0x3176, 1, 0x1127),
  (0x3177, 0x3177, 1, 0x1129), (0x3178, 0x317c, 1, 0x112b), (0x317d, 0x317d, 1, 0x1132),
  (0x317e, 0x317e, 1, 0x1136), (0x317f, 0x317f, 1, 0x1140), (0x3180, 0x3180, 1, 0x1147),
  (0x3181, 0x3181, 1, 0x114c), (0x3182, 0x3183, 1, 0x11f1), (0x3184, 0x3186, 1, 0x1157),
  (0x3187, 0x3188, 1, 0x1184), (0x3189, 0x3189, 1, 0x1188), (0x318a, 0x318b, 1, 0x1191),
  (0x318c, 0x318c, 1, 0x1194), (0x318d, 0x318d, 1, 0x119e), (0x318e, 0x318e, 1, 0x11a1),
  (0x3260, 0x3260, 1, 0x1100), (0x3261, 0x3262, 1, 0x1102), (0x3263, 0x3265, 1, 0x1105),
  (0x3266, 0x3266, 1, 0x1109), (0x3267, 0x3268, 1, 0x110b), (0x3269, 0x326d, 1, 0x110e),
  (0x326e, 0x326e, 1, 0xac00), (0x326f, 0x326f, 1, 0xb098), (0x3270, 0x3270, 1, 0xb2e4),
  (0x3271, 0x3271, 1, 0xb77c), (0x3272, 0x3272, 1, 0xb9c8), (0x3273, 0x3273, 1, 0xbc14),
  (0x3274, 0x3274, 1, 0xc0ac), (0x3275, 0x3275, 1, 0xc544), (0x3276, 0x3276, 1, 0xc790),
  (0x3277, 0x3277, 1, 0xcc28), (0x3278, 0x3278, 1, 0xce74), (0x3279, 0x3279, 1, 0xd0c0),
  (0x327a, 0x327a, 1, 0xd30c), (0x327b, 0x327b, 1, 0xd558), (0x327e, 0x327e, 1, 0xc6b0),
  (0x32d0, 0x32d0, 1, 0x30a2), (0x32d1, 0x32d1, 1, 0x30a4), (0x32d2, 0x32d2, 1, 0x30a6),
  (0x32d3, 0x32d3, 1, 0x30a8), (0x32d4, 0x32d5, 1, 0x30aa), (0x32d6, 0x32d6, 1, 0x30ad),
  (0x32d7, 0x32d7, 1, 0x30af), (0x32d8, 0x32d8, 1, 0x30b1), (0x32d9, 0x32d9, 1, 0x30b3),
  (0x32da, 0x32da, 1, 0x30b5), (0x32db, 0x32db, 1, 0x30b7), (0x32dc, 0x32dc, 1, 0x30b9),
  (0x32dd, 0x32dd, 1, 0x30bb), (0x32de, 0x32de, 1, 0x30bd), (0x32df, 0x32df, 1, 0x30bf),
  (0x32e0, 0x32e0, 1, 0x30c1), (0x32e1, 0x32e1, 1, 0x30c4), (0x32e2, 0x32e2, 1, 0x30c6),
  (0x32e3, 0x32e3, 1, 0x30c8), (0x32e4, 0x32e9, 1, 0x30ca), (0x32ea, 0x32ea, 1, 0x30d2),
  (0x32eb, 0x32eb, 1, 0x30d5), (0x32ec, 0x32ec, 1, 0x30d8), (0x32ed, 0x32ed, 1, 0x30db),
  (0x32ee, 0x32f2, 1, 0x30de), (0x32f3, 0x32f3, 1, 0x30e4), (0x32f4, 0x32f4, 1, 0x30e6),
  (0x32f5, 0x32fa, 1, 0x30e8), (0x32fb, 0x32fe, 1, 0x30ef), (0xa640, 0xa66c, 2, 0xa641),
  (0xa680, 0xa69a, 2, 0xa681), (0xa69c, 0xa69c, 1, 0x44a), (0xa69d, 0xa69d, 1, 0x44c),
  (0xa722, 0xa72e, 2, 0xa723), (0xa732, 0xa76e, 2, 0xa733), (0xa770, 0xa770, 1, 0xa76f),
  (0xa779, 0xa77b, 2, 0xa77a), (0xa77d, 0xa77d, 1, 0x1d79), (0xa77e, 0xa786, 2, 0xa77f),
  (0xa78b, 0xa78b, 1, 0xa78c), (0xa78d, 0xa78d, 1, 0x265), (0xa790, 0xa792, 2, 0xa791),
  (0xa796, 0xa7a8, 2, 0xa797), (0xa7aa, 0xa7aa, 1, 0x266), (0xa7ab, 0xa7ab, 1, 0x25c),
  (0xa7ac, 0xa7ac, 1, 0x261), (0xa7ad, 0xa7ad, 1, 0x26c), (0xa7ae, 0xa7ae, 1, 0x26a),
  (0xa7b0, 0xa7b0, 1, 0x29e), (0xa7b1, 0xa7b1, 1, 0x287), (0xa7b2, 0xa7b2, 1, 0x29d),
  (0xa7b3, 0xa7b3, 1, 0xab53), (0xa7b4, 0xa7c2, 2, 0xa7b5), (0xa7c4, 0xa7c4, 1, 0xa794),
  (0xa7c5, 0xa7c5, 1, 0x282), (0xa7c6, 0xa7c6, 1, 0x1d8e), (0xa7c7, 0xa7c9, 2, 0xa7c8),
  (0xa7cb, 0xa7cb, 1, 0x264), (0xa7cc, 0xa7da, 2, 0xa7cd), (0xa7dc, 0xa7dc, 1, 0x19b),
  (0xa7f1, 0xa7f1, 1, 0x73), (0xa7f2, 0xa7f2, 1, 0x63), (0xa7f3, 0xa7f3, 1, 0x66),
  (0xa7f4, 0xa7f4, 1, 0x71), (0xa7f5, 0xa7f5, 1, 0xa7f6), (0xa7f8, 0xa7f8, 1, 0x127),
  (0xa7f9, 0xa7f9, 1, 0x153), (0xab5c, 0xab5c, 1, 0xa727), (0xab5d, 0xab5d, 1, 0xab37),
  (0xab5e, 0xab5e, 1, 0x26b), (0xab5f, 0xab5f, 1, 0xab52), (0xab69, 0xab69, 1, 0x28d),
  (0xab70, 0xabbf, 1, 0x13a0), (0xfb20, 0xfb20, 1, 0x5e2), (0xfb21, 0xfb21, 1, 0x5d0),
  (0xfb22, 0xfb23, 1, 0x5d3), (0xfb24, 0xfb26, 1, 0x5db), (0xfb27, 0xfb27, 1, 0x5e8),
  (0xfb28, 0xfb28, 1, 0x5ea), (0xfb29, 0xfb29, 1, 0x2b), (0xfb50, 0xfb51, 0, 0x671),
  (0xfb52, 0xfb55, 0, 0x67b), (0xfb56, 0xfb59, 0, 0x67e), (0xfb5a, 0xfb5d, 0, 0x680),
  (0xfb5e, 0xfb61, 0, 0x67a), (0xfb62, 0xfb65, 0, 0x67f), (0xfb66, 0xfb69, 0, 0x679),
  (0xfb6a, 0xfb6d, 0, 0x6a4), (0xfb6e, 0xfb71, 0, 0x6a6), (0xfb72, 0xfb75, 0, 0x684),
  (0xfb76, 0xfb79, 0, 0x683), (0xfb7a, 0xfb7d, 0, 0x686), (0xfb7e, 0xfb81, 0, 0x687),
  (0xfb82, 0xfb83, 0, 0x68d), (0xfb84, 0xfb85, 0, 0x68c), (0xfb86, 0xfb87, 0, 0x68e),
  (0xfb88, 0xfb89, 0, 0x688), (0xfb8a, 0xfb8b, 0, 0x698), (0xfb8c, 0xfb8d, 0, 0x691),
  (0xfb8e, 0xfb91, 0, 0x6a9), (0xfb92, 0xfb95, 0, 0x6af), (0xfb96, 0xfb99, 0, 0x6b3),
  (0xfb9a, 0xfb9d, 0, 0x6b1), (0xfb9e, 0xfb9f, 0, 0x6ba), (0xfba0, 0xfba3, 0, 0x6bb),
  (0xfba4, 0xfba5, 0, 0x6c0), (0xfba6, 0xfba9, 0, 0x6c1), (0xfbaa, 0xfbad, 0, 0x6be),
  (0xfbae, 0xfbaf, 0, 0x6d2), (0xfbb0, 0xfbb1, 0, 0x6d3), (0xfbd3, 0xfbd6, 0, 0x6ad),
  (0xfbd7, 0xfbd8, 0, 0x6c7), (0xfbd9, 0xfbda, 0, 0x6c6), (0xfbdb, 0xfbdc, 0, 0x6c8),
  (0xfbde, 0xfbdf, 0, 0x6cb), (0xfbe0, 0xfbe1, 0, 0x6c5), (0xfbe2, 0xfbe3, 0, 0x6c9),
  (0xfbe4, 0xfbe7, 0, 0x6d0), (0xfbe8, 0xfbe9, 0, 0x649), (0xfbfc, 0xfbff, 0, 0x6cc),
  (0xfe10, 0xfe10, 1, 0x2c), (0xfe11, 0xfe11, 1, 0x3001), (0xfe13, 0xfe14, 1, 0x3a),
  (0xfe15, 0xfe15, 1, 0x21), (0xfe16, 0xfe16, 1, 0x3f), (0xfe17, 0xfe18, 1, 0x3016),
  (0xfe31, 0xfe31, 1, 0x2014), (0xfe32, 0xfe32, 1, 0x2013), (0xfe33, 0xfe34, 0, 0x5f),
  (0xfe35, 0xfe36, 1, 0x28), (0xfe37, 0xfe37, 1, 0x7b), (0xfe38, 0xfe38, 1, 0x7d),
  (0xfe39, 0xfe3a, 1, 0x3014), (0xfe3b, 0xfe3c, 1, 0x3010), (0xfe3d, 0xfe3e, 1, 0x300a),
  (0xfe3f, 0xfe40, 1, 0x3008), (0xfe41, 0xfe44, 1, 0x300c), (0xfe47, 0xfe47, 1, 0x5b),
  (0xfe48, 0xfe48, 1, 0x5d), (0xfe4d, 0xfe4f, 0, 0x5f), (0xfe50, 0xfe50, 1, 0x2c),
  (0xfe51, 0xfe51, 1, 0x3001), (0xfe54, 0xfe54, 1, 0x3b), (0xfe55, 0xfe55, 1, 0x3a),
  (0xfe56, 0xfe56, 1, 0x3f), (0xfe57, 0xfe57, 1, 0x21), (0xfe58, 0xfe58, 1, 0x2014),
  (0xfe59, 0xfe5a, 1, 0x28), (0xfe5b, 0xfe5b, 1, 0x7b), (0xfe5c, 0xfe5c, 1, 0x7d),
  (0xfe5d, 0xfe5e, 1, 0x3014), (0xfe5f, 0xfe5f, 1, 0x23), (0xfe60, 0xfe60, 1, 0x26),
  (0xfe61, 0xfe62, 1, 0x2a), (0xfe63, 0xfe63, 1, 0x2d), (0xfe64, 0xfe64, 1, 0x3c),
  (0xfe65, 0xfe65, 1, 0x3e), (0xfe66, 0xfe66, 1, 0x3d), (0xfe68, 0xfe68, 1, 0x5c),
  (0xfe69, 0xfe6a, 1, 0x24), (0xfe6b, 0xfe6b, 1, 0x40), (0xfe80, 0xfe81, 1, 0x621),
  (0xfe82, 0xfe83, 1, 0x622), (0xfe84, 0xfe85, 1, 0x623), (0xfe86, 0xfe87, 1, 0x624),
  (0xfe88, 0xfe89, 1, 0x625), (0xfe8a, 0xfe8c, 0, 0x626), (0xfe8d, 0xfe8e, 0, 0x627),
  (0xfe8f, 0xfe92, 0, 0x628), (0xfe93, 0xfe94, 0, 0x629), (0xfe95, 0xfe98, 0, 0x62a),
  (0xfe99, 0xfe9c, 0, 0x62b), (0xfe9d, 0xfea0, 0, 0x62c), (0xfea1, 0xfea4, 0, 0x62d),
  (0xfea5, 0xfea8, 0, 0x62e), (0xfea9, 0xfeaa, 0, 0x62f), (0xfeab, 0xfeac, 0, 0x630),
  (0xfead, 0xfeae, 0, 0x631), (0xfeaf, 0xfeb0, 0, 0x632), (0xfeb1, 0xfeb4, 0, 0x633),
  (0xfeb5, 0xfeb8, 0, 0x634), (0xfeb9, 0xfebc, 0, 0x635), (0xfebd, 0xfec0, 0, 0x636),
  (0xfec1, 0xfec4, 0, 0x637), (0xfec5, 0xfec8, 0, 0x638), (0xfec9, 0xfecc, 0, 0x639),
  (0xfecd, 0xfed0, 0, 0x63a), (0xfed1, 0xfed4, 0, 0x641), (0xfed5, 0xfed8, 0, 0x642),
  (0xfed9, 0xfedc, 0, 0x643), (0xfedd, 0xfee0, 0, 0x644), (0xfee1, 0xfee4, 0, 0x645),
  (0xfee5, 0xfee8, 0, 0x646), (0xfee9, 0xfeec, 0, 0x647), (0xfeed, 0xfeee, 0, 0x648),
  (0xfeef, 0xfef0, 0, 0x649), (0xfef1, 0xfef4, 0, 0x64a), (0xff01, 0xff20, 1, 0x21),
  (0xff21, 0xff3a, 1, 0x61), (0xff3b, 0xff5e, 1, 0x5b), (0xff5f, 0xff60, 1, 0x2985),
  (0xff61, 0xff61, 1, 0x2e), (0xff62, 0xff63, 1, 0x300c), (0xff64, 0xff64, 1, 0x3001),
  (0xff65, 0xff65, 1, 0x30fb), (0xff66, 0xff66, 1, 0x30f2), (0xff67, 0xff67, 1, 0x30a1),
  (0xff68, 0xff68, 1, 0x30a3), (0xff69, 0xff69, 1, 0x30a5), (0xff6a, 0xff6a, 1, 0x30a7),
  (0xff6b, 0xff6b, 1, 0x30a9), (0xff6c, 0xff6c, 1, 0x30e3), (0xff6d, 0xff6d, 1, 0x30e5),
  (0xff6e, 0xff6e, 1, 0x30e7), (0xff6f, 0xff6f, 1, 0x30c3), (0xff70, 0xff70, 1, 0x30fc),
  (0xff71, 0xff71, 1, 0x30a2), (0xff72, 0xff72, 1, 0x30a4), (0xff73, 0xff73, 1, 0x30a6),
  (0xff74, 0xff74, 1, 0x30a8), (0xff75, 0xff76, 1, 0x30aa), (0xff77, 0xff77, 1, 0x30ad),
  (0xff78, 0xff78, 1, 0x30af), (0xff79, 0xff79, 1, 0x30b1), (0xff7a, 0xff7a, 1, 0x30b3),
  (0xff7b, 0xff7b, 1, 0x30b5), (0xff7c, 0xff7c, 1, 0x30b7), (0xff7d, 0xff7d, 1, 0x30b9),
  (0xff7e, 0xff7e, 1, 0x30bb), (0xff7f, 0xff7f, 1, 0x30bd), (0xff80, 0xff80, 1, 0x30bf),
  (0xff81, 0xff81, 1, 0x30c1), (0xff82, 0xff82, 1, 0x30c4), (0xff83, 0xff83, 1, 0x30c6),
  (0xff84, 0xff84, 1, 0x30c8), (0xff85, 0xff8a, 1, 0x30ca), (0xff8b, 0xff8b, 1, 0x30d2),
  (0xff8c, 0xff8c, 1, 0x30d5), (0xff8d, 0xff8d, 1, 0x30d8), (0xff8e, 0xff8e, 1, 0x30db),
  (0xff8f, 0xff93, 1, 0x30de), (0xff94, 0xff94, 1, 0x30e4), (0xff95, 0xff95, 1, 0x30e6),
  (0xff96, 0xff9b, 1, 0x30e8), (0xff9c, 0xff9c, 1, 0x30ef), (0xff9d, 0xff9d, 1, 0x30f3),
  (0xff9e, 0xff9f, 1, 0x3099), (0xffa1, 0xffa2, 1, 0x1100), (0xffa3, 0xffa3, 1, 0x11aa),
  (0xffa4, 0xffa4, 1, 0x1102), (0xffa5, 0xffa6, 1, 0x11ac), (0xffa7, 0xffa9, 1, 0x1103),
  (0xffaa, 0xffaf, 1, 0x11b0), (0xffb0, 0xffb0, 1, 0x111a), (0xffb1, 0xffb3, 1, 0x1106),
  (0xffb4, 0xffb4, 1, 0x1121), (0xffb5, 0xffbe, 1, 0x1109), (0xffc2, 0xffc7, 1, 0x1161),
  (0xffca, 0xffcf, 1, 0x1167), (0xffd2, 0xffd7, 1, 0x116d), (0xffda, 0xffdc, 1, 0x1173),
  (0xffe0, 0xffe1, 1, 0xa2), (0xffe2, 0xffe2, 1, 0xac), (0xffe4, 0xffe4, 1, 0xa6),
  (0xffe5, 0xffe5, 1, 0xa5), (0xffe6, 0xffe6, 1, 0x20a9), (0xffe8, 0xffe8, 1, 0x2502),
  (0xffe9, 0xffec, 1, 0x2190), (0xffed, 0xffed, 1, 0x25a0), (0xffee, 0xffee, 1, 0x25cb)]

/-- Characters beyond the basic plane that stand for one other, in the same form. -/
def highRuns : Array (Nat × Nat × Nat × Nat) := #[
  (0x10400, 0x10427, 1, 0x10428), (0x104b0, 0x104d3, 1, 0x104d8), (0x10570, 0x1057a, 1, 0x10597),
  (0x1057c, 0x1058a, 1, 0x105a3), (0x1058c, 0x10592, 1, 0x105b3), (0x10594, 0x10595, 1, 0x105bb),
  (0x10781, 0x10782, 1, 0x2d0), (0x10783, 0x10783, 1, 0xe6), (0x10784, 0x10784, 1, 0x299),
  (0x10785, 0x10785, 1, 0x253), (0x10787, 0x10787, 1, 0x2a3), (0x10788, 0x10788, 1, 0xab66),
  (0x10789, 0x10789, 1, 0x2a5), (0x1078a, 0x1078a, 1, 0x2a4), (0x1078b, 0x1078c, 1, 0x256),
  (0x1078d, 0x1078d, 1, 0x1d91), (0x1078e, 0x1078e, 1, 0x258), (0x1078f, 0x1078f, 1, 0x25e),
  (0x10790, 0x10790, 1, 0x2a9), (0x10791, 0x10791, 1, 0x264), (0x10792, 0x10792, 1, 0x262),
  (0x10793, 0x10793, 1, 0x260), (0x10794, 0x10794, 1, 0x29b), (0x10795, 0x10795, 1, 0x127),
  (0x10796, 0x10796, 1, 0x29c), (0x10797, 0x10797, 1, 0x267), (0x10798, 0x10798, 1, 0x284),
  (0x10799, 0x1079a, 1, 0x2aa), (0x1079b, 0x1079b, 1, 0x26c), (0x1079c, 0x1079c, 1, 0x1df04),
  (0x1079d, 0x1079d, 1, 0xa78e), (0x1079e, 0x1079e, 1, 0x26e), (0x1079f, 0x1079f, 1, 0x1df05),
  (0x107a0, 0x107a0, 1, 0x28e), (0x107a1, 0x107a1, 1, 0x1df06), (0x107a2, 0x107a2, 1, 0xf8),
  (0x107a3, 0x107a4, 1, 0x276), (0x107a5, 0x107a5, 1, 0x71), (0x107a6, 0x107a6, 1, 0x27a),
  (0x107a7, 0x107a7, 1, 0x1df08), (0x107a8, 0x107a9, 1, 0x27d), (0x107aa, 0x107aa, 1, 0x280),
  (0x107ab, 0x107ab, 1, 0x2a8), (0x107ac, 0x107ac, 1, 0x2a6), (0x107ad, 0x107ad, 1, 0xab67),
  (0x107ae, 0x107ae, 1, 0x2a7), (0x107af, 0x107af, 1, 0x288), (0x107b0, 0x107b0, 1, 0x2c71),
  (0x107b2, 0x107b2, 1, 0x28f), (0x107b3, 0x107b4, 1, 0x2a1), (0x107b5, 0x107b5, 1, 0x298),
  (0x107b6, 0x107b8, 1, 0x1c0), (0x107b9, 0x107b9, 1, 0x1df0a), (0x107ba, 0x107ba, 1, 0x1df1e),
  (0x10c80, 0x10cb2, 1, 0x10cc0), (0x10d50, 0x10d65, 1, 0x10d70), (0x118a0, 0x118bf, 1, 0x118c0),
  (0x16e40, 0x16e5f, 1, 0x16e60), (0x16ea0, 0x16eb8, 1, 0x16ebb), (0x1ccd6, 0x1ccef, 1, 0x61),
  (0x1ccf0, 0x1ccf9, 1, 0x30), (0x1d400, 0x1d419, 1, 0x61), (0x1d41a, 0x1d433, 1, 0x61),
  (0x1d434, 0x1d44d, 1, 0x61), (0x1d44e, 0x1d454, 1, 0x61), (0x1d456, 0x1d467, 1, 0x69),
  (0x1d468, 0x1d481, 1, 0x61), (0x1d482, 0x1d49b, 1, 0x61), (0x1d49c, 0x1d49e, 2, 0x61),
  (0x1d49f, 0x1d49f, 1, 0x64), (0x1d4a2, 0x1d4a2, 1, 0x67), (0x1d4a5, 0x1d4a6, 1, 0x6a),
  (0x1d4a9, 0x1d4ac, 1, 0x6e), (0x1d4ae, 0x1d4b5, 1, 0x73), (0x1d4b6, 0x1d4b9, 1, 0x61),
  (0x1d4bb, 0x1d4bd, 2, 0x66), (0x1d4be, 0x1d4c3, 1, 0x69), (0x1d4c5, 0x1d4cf, 1, 0x70),
  (0x1d4d0, 0x1d4e9, 1, 0x61), (0x1d4ea, 0x1d503, 1, 0x61), (0x1d504, 0x1d505, 1, 0x61),
  (0x1d507, 0x1d50a, 1, 0x64), (0x1d50d, 0x1d514, 1, 0x6a), (0x1d516, 0x1d51c, 1, 0x73),
  (0x1d51e, 0x1d537, 1, 0x61), (0x1d538, 0x1d539, 1, 0x61), (0x1d53b, 0x1d53e, 1, 0x64),
  (0x1d540, 0x1d544, 1, 0x69), (0x1d546, 0x1d546, 1, 0x6f), (0x1d54a, 0x1d550, 1, 0x73),
  (0x1d552, 0x1d56b, 1, 0x61), (0x1d56c, 0x1d585, 1, 0x61), (0x1d586, 0x1d59f, 1, 0x61),
  (0x1d5a0, 0x1d5b9, 1, 0x61), (0x1d5ba, 0x1d5d3, 1, 0x61), (0x1d5d4, 0x1d5ed, 1, 0x61),
  (0x1d5ee, 0x1d607, 1, 0x61), (0x1d608, 0x1d621, 1, 0x61), (0x1d622, 0x1d63b, 1, 0x61),
  (0x1d63c, 0x1d655, 1, 0x61), (0x1d656, 0x1d66f, 1, 0x61), (0x1d670, 0x1d689, 1, 0x61),
  (0x1d68a, 0x1d6a3, 1, 0x61), (0x1d6a4, 0x1d6a4, 1, 0x131), (0x1d6a5, 0x1d6a5, 1, 0x237),
  (0x1d6a8, 0x1d6b8, 1, 0x3b1), (0x1d6b9, 0x1d6b9, 1, 0x3b8), (0x1d6ba, 0x1d6c0, 1, 0x3c3),
  (0x1d6c1, 0x1d6c1, 1, 0x2207), (0x1d6c2, 0x1d6d2, 1, 0x3b1), (0x1d6d3, 0x1d6d4, 0, 0x3c3),
  (0x1d6d5, 0x1d6da, 1, 0x3c4), (0x1d6db, 0x1d6db, 1, 0x2202), (0x1d6dc, 0x1d6dc, 1, 0x3b5),
  (0x1d6dd, 0x1d6dd, 1, 0x3b8), (0x1d6de, 0x1d6de, 1, 0x3ba), (0x1d6df, 0x1d6df, 1, 0x3c6),
  (0x1d6e0, 0x1d6e0, 1, 0x3c1), (0x1d6e1, 0x1d6e1, 1, 0x3c0), (0x1d6e2, 0x1d6f2, 1, 0x3b1),
  (0x1d6f3, 0x1d6f3, 1, 0x3b8), (0x1d6f4, 0x1d6fa, 1, 0x3c3), (0x1d6fb, 0x1d6fb, 1, 0x2207),
  (0x1d6fc, 0x1d70c, 1, 0x3b1), (0x1d70d, 0x1d70e, 0, 0x3c3), (0x1d70f, 0x1d714, 1, 0x3c4),
  (0x1d715, 0x1d715, 1, 0x2202), (0x1d716, 0x1d716, 1, 0x3b5), (0x1d717, 0x1d717, 1, 0x3b8),
  (0x1d718, 0x1d718, 1, 0x3ba), (0x1d719, 0x1d719, 1, 0x3c6), (0x1d71a, 0x1d71a, 1, 0x3c1),
  (0x1d71b, 0x1d71b, 1, 0x3c0), (0x1d71c, 0x1d72c, 1, 0x3b1), (0x1d72d, 0x1d72d, 1, 0x3b8),
  (0x1d72e, 0x1d734, 1, 0x3c3), (0x1d735, 0x1d735, 1, 0x2207), (0x1d736, 0x1d746, 1, 0x3b1),
  (0x1d747, 0x1d748, 0, 0x3c3), (0x1d749, 0x1d74e, 1, 0x3c4), (0x1d74f, 0x1d74f, 1, 0x2202),
  (0x1d750, 0x1d750, 1, 0x3b5), (0x1d751, 0x1d751, 1, 0x3b8), (0x1d752, 0x1d752, 1, 0x3ba),
  (0x1d753, 0x1d753, 1, 0x3c6), (0x1d754, 0x1d754, 1, 0x3c1), (0x1d755, 0x1d755, 1, 0x3c0),
  (0x1d756, 0x1d766, 1, 0x3b1), (0x1d767, 0x1d767, 1, 0x3b8), (0x1d768, 0x1d76e, 1, 0x3c3),
  (0x1d76f, 0x1d76f, 1, 0x2207), (0x1d770, 0x1d780, 1, 0x3b1), (0x1d781, 0x1d782, 0, 0x3c3),
  (0x1d783, 0x1d788, 1, 0x3c4), (0x1d789, 0x1d789, 1, 0x2202), (0x1d78a, 0x1d78a, 1, 0x3b5),
  (0x1d78b, 0x1d78b, 1, 0x3b8), (0x1d78c, 0x1d78c, 1, 0x3ba), (0x1d78d, 0x1d78d, 1, 0x3c6),
  (0x1d78e, 0x1d78e, 1, 0x3c1), (0x1d78f, 0x1d78f, 1, 0x3c0), (0x1d790, 0x1d7a0, 1, 0x3b1),
  (0x1d7a1, 0x1d7a1, 1, 0x3b8), (0x1d7a2, 0x1d7a8, 1, 0x3c3), (0x1d7a9, 0x1d7a9, 1, 0x2207),
  (0x1d7aa, 0x1d7ba, 1, 0x3b1), (0x1d7bb, 0x1d7bc, 0, 0x3c3), (0x1d7bd, 0x1d7c2, 1, 0x3c4),
  (0x1d7c3, 0x1d7c3, 1, 0x2202), (0x1d7c4, 0x1d7c4, 1, 0x3b5), (0x1d7c5, 0x1d7c5, 1, 0x3b8),
  (0x1d7c6, 0x1d7c6, 1, 0x3ba), (0x1d7c7, 0x1d7c7, 1, 0x3c6), (0x1d7c8, 0x1d7c8, 1, 0x3c1),
  (0x1d7c9, 0x1d7c9, 1, 0x3c0), (0x1d7ca, 0x1d7cb, 0, 0x3dd), (0x1d7ce, 0x1d7d7, 1, 0x30),
  (0x1d7d8, 0x1d7e1, 1, 0x30), (0x1d7e2, 0x1d7eb, 1, 0x30), (0x1d7ec, 0x1d7f5, 1, 0x30),
  (0x1d7f6, 0x1d7ff, 1, 0x30), (0x1e030, 0x1e038, 1, 0x430), (0x1e039, 0x1e03b, 1, 0x43a),
  (0x1e03c, 0x1e046, 1, 0x43e), (0x1e047, 0x1e047, 1, 0x44b), (0x1e048, 0x1e049, 1, 0x44d),
  (0x1e04a, 0x1e04a, 1, 0xa689), (0x1e04b, 0x1e04b, 1, 0x4d9), (0x1e04c, 0x1e04c, 1, 0x456),
  (0x1e04d, 0x1e04d, 1, 0x458), (0x1e04e, 0x1e04e, 1, 0x4e9), (0x1e04f, 0x1e04f, 1, 0x4af),
  (0x1e050, 0x1e050, 1, 0x4cf), (0x1e051, 0x1e059, 1, 0x430), (0x1e05a, 0x1e05b, 1, 0x43a),
  (0x1e05c, 0x1e05d, 1, 0x43e), (0x1e05e, 0x1e05e, 1, 0x441), (0x1e05f, 0x1e064, 1, 0x443),
  (0x1e065, 0x1e066, 1, 0x44a), (0x1e067, 0x1e067, 1, 0x491), (0x1e068, 0x1e068, 1, 0x456),
  (0x1e069, 0x1e069, 1, 0x455), (0x1e06a, 0x1e06a, 1, 0x45f), (0x1e06b, 0x1e06b, 1, 0x4ab),
  (0x1e06c, 0x1e06c, 1, 0xa651), (0x1e06d, 0x1e06d, 1, 0x4b1), (0x1e900, 0x1e921, 1, 0x1e922),
  (0x1ee00, 0x1ee01, 1, 0x627), (0x1ee02, 0x1ee02, 1, 0x62c), (0x1ee03, 0x1ee03, 1, 0x62f),
  (0x1ee05, 0x1ee05, 1, 0x648), (0x1ee06, 0x1ee06, 1, 0x632), (0x1ee07, 0x1ee07, 1, 0x62d),
  (0x1ee08, 0x1ee08, 1, 0x637), (0x1ee09, 0x1ee09, 1, 0x64a), (0x1ee0a, 0x1ee0d, 1, 0x643),
  (0x1ee0e, 0x1ee0e, 1, 0x633), (0x1ee0f, 0x1ee0f, 1, 0x639), (0x1ee10, 0x1ee10, 1, 0x641),
  (0x1ee11, 0x1ee11, 1, 0x635), (0x1ee12, 0x1ee12, 1, 0x642), (0x1ee13, 0x1ee13, 1, 0x631),
  (0x1ee14, 0x1ee14, 1, 0x634), (0x1ee15, 0x1ee16, 1, 0x62a), (0x1ee17, 0x1ee17, 1, 0x62e),
  (0x1ee18, 0x1ee18, 1, 0x630), (0x1ee19, 0x1ee19, 1, 0x636), (0x1ee1a, 0x1ee1a, 1, 0x638),
  (0x1ee1b, 0x1ee1b, 1, 0x63a), (0x1ee1c, 0x1ee1c, 1, 0x66e), (0x1ee1d, 0x1ee1d, 1, 0x6ba),
  (0x1ee1e, 0x1ee1e, 1, 0x6a1), (0x1ee1f, 0x1ee1f, 1, 0x66f), (0x1ee21, 0x1ee21, 1, 0x628),
  (0x1ee22, 0x1ee22, 1, 0x62c), (0x1ee24, 0x1ee24, 1, 0x647), (0x1ee27, 0x1ee27, 1, 0x62d),
  (0x1ee29, 0x1ee29, 1, 0x64a), (0x1ee2a, 0x1ee2d, 1, 0x643), (0x1ee2e, 0x1ee2e, 1, 0x633),
  (0x1ee2f, 0x1ee2f, 1, 0x639), (0x1ee30, 0x1ee30, 1, 0x641), (0x1ee31, 0x1ee31, 1, 0x635),
  (0x1ee32, 0x1ee32, 1, 0x642), (0x1ee34, 0x1ee34, 1, 0x634), (0x1ee35, 0x1ee36, 1, 0x62a),
  (0x1ee37, 0x1ee37, 1, 0x62e), (0x1ee39, 0x1ee39, 1, 0x636), (0x1ee3b, 0x1ee3b, 1, 0x63a),
  (0x1ee42, 0x1ee42, 1, 0x62c), (0x1ee47, 0x1ee47, 1, 0x62d), (0x1ee49, 0x1ee49, 1, 0x64a),
  (0x1ee4b, 0x1ee4d, 2, 0x644), (0x1ee4e, 0x1ee4e, 1, 0x633), (0x1ee4f, 0x1ee4f, 1, 0x639),
  (0x1ee51, 0x1ee51, 1, 0x635), (0x1ee52, 0x1ee52, 1, 0x642), (0x1ee54, 0x1ee54, 1, 0x634),
  (0x1ee57, 0x1ee57, 1, 0x62e), (0x1ee59, 0x1ee59, 1, 0x636), (0x1ee5b, 0x1ee5b, 1, 0x63a),
  (0x1ee5d, 0x1ee5d, 1, 0x6ba), (0x1ee5f, 0x1ee5f, 1, 0x66f), (0x1ee61, 0x1ee61, 1, 0x628),
  (0x1ee62, 0x1ee62, 1, 0x62c), (0x1ee64, 0x1ee64, 1, 0x647), (0x1ee67, 0x1ee67, 1, 0x62d),
  (0x1ee68, 0x1ee68, 1, 0x637), (0x1ee69, 0x1ee69, 1, 0x64a), (0x1ee6a, 0x1ee6c, 2, 0x643),
  (0x1ee6d, 0x1ee6d, 1, 0x646), (0x1ee6e, 0x1ee6e, 1, 0x633), (0x1ee6f, 0x1ee6f, 1, 0x639),
  (0x1ee70, 0x1ee70, 1, 0x641), (0x1ee71, 0x1ee71, 1, 0x635), (0x1ee72, 0x1ee72, 1, 0x642),
  (0x1ee74, 0x1ee74, 1, 0x634), (0x1ee75, 0x1ee76, 1, 0x62a), (0x1ee77, 0x1ee77, 1, 0x62e),
  (0x1ee79, 0x1ee79, 1, 0x636), (0x1ee7a, 0x1ee7a, 1, 0x638), (0x1ee7b, 0x1ee7b, 1, 0x63a),
  (0x1ee7c, 0x1ee7c, 1, 0x66e), (0x1ee7e, 0x1ee7e, 1, 0x6a1), (0x1ee80, 0x1ee81, 1, 0x627),
  (0x1ee82, 0x1ee82, 1, 0x62c), (0x1ee83, 0x1ee83, 1, 0x62f), (0x1ee84, 0x1ee85, 1, 0x647),
  (0x1ee86, 0x1ee86, 1, 0x632), (0x1ee87, 0x1ee87, 1, 0x62d), (0x1ee88, 0x1ee88, 1, 0x637),
  (0x1ee89, 0x1ee89, 1, 0x64a), (0x1ee8b, 0x1ee8d, 1, 0x644), (0x1ee8e, 0x1ee8e, 1, 0x633),
  (0x1ee8f, 0x1ee8f, 1, 0x639), (0x1ee90, 0x1ee90, 1, 0x641), (0x1ee91, 0x1ee91, 1, 0x635),
  (0x1ee92, 0x1ee92, 1, 0x642), (0x1ee93, 0x1ee93, 1, 0x631), (0x1ee94, 0x1ee94, 1, 0x634),
  (0x1ee95, 0x1ee96, 1, 0x62a), (0x1ee97, 0x1ee97, 1, 0x62e), (0x1ee98, 0x1ee98, 1, 0x630),
  (0x1ee99, 0x1ee99, 1, 0x636), (0x1ee9a, 0x1ee9a, 1, 0x638), (0x1ee9b, 0x1ee9b, 1, 0x63a),
  (0x1eea1, 0x1eea1, 1, 0x628), (0x1eea2, 0x1eea2, 1, 0x62c), (0x1eea3, 0x1eea3, 1, 0x62f),
  (0x1eea5, 0x1eea5, 1, 0x648), (0x1eea6, 0x1eea6, 1, 0x632), (0x1eea7, 0x1eea7, 1, 0x62d),
  (0x1eea8, 0x1eea8, 1, 0x637), (0x1eea9, 0x1eea9, 1, 0x64a), (0x1eeab, 0x1eead, 1, 0x644),
  (0x1eeae, 0x1eeae, 1, 0x633), (0x1eeaf, 0x1eeaf, 1, 0x639), (0x1eeb0, 0x1eeb0, 1, 0x641),
  (0x1eeb1, 0x1eeb1, 1, 0x635), (0x1eeb2, 0x1eeb2, 1, 0x642), (0x1eeb3, 0x1eeb3, 1, 0x631),
  (0x1eeb4, 0x1eeb4, 1, 0x634), (0x1eeb5, 0x1eeb6, 1, 0x62a), (0x1eeb7, 0x1eeb7, 1, 0x62e),
  (0x1eeb8, 0x1eeb8, 1, 0x630), (0x1eeb9, 0x1eeb9, 1, 0x636), (0x1eeba, 0x1eeba, 1, 0x638),
  (0x1eebb, 0x1eebb, 1, 0x63a), (0x1f12b, 0x1f12b, 1, 0x63), (0x1f12c, 0x1f12c, 1, 0x72),
  (0x1f130, 0x1f149, 1, 0x61), (0x1f202, 0x1f202, 1, 0x30b5), (0x1f210, 0x1f210, 1, 0x624b),
  (0x1f211, 0x1f211, 1, 0x5b57), (0x1f212, 0x1f212, 1, 0x53cc), (0x1f213, 0x1f213, 1, 0x30c7),
  (0x1f214, 0x1f214, 1, 0x4e8c), (0x1f215, 0x1f215, 1, 0x591a), (0x1f216, 0x1f216, 1, 0x89e3),
  (0x1f217, 0x1f217, 1, 0x5929), (0x1f218, 0x1f218, 1, 0x4ea4), (0x1f219, 0x1f219, 1, 0x6620),
  (0x1f21a, 0x1f21a, 1, 0x7121), (0x1f21b, 0x1f21b, 1, 0x6599), (0x1f21c, 0x1f21c, 1, 0x524d),
  (0x1f21d, 0x1f21d, 1, 0x5f8c), (0x1f21e, 0x1f21e, 1, 0x518d), (0x1f21f, 0x1f21f, 1, 0x65b0),
  (0x1f220, 0x1f220, 1, 0x521d), (0x1f221, 0x1f221, 1, 0x7d42), (0x1f222, 0x1f222, 1, 0x751f),
  (0x1f223, 0x1f223, 1, 0x8ca9), (0x1f224, 0x1f224, 1, 0x58f0), (0x1f225, 0x1f225, 1, 0x5439),
  (0x1f226, 0x1f226, 1, 0x6f14), (0x1f227, 0x1f227, 1, 0x6295), (0x1f228, 0x1f228, 1, 0x6355),
  (0x1f229, 0x1f229, 1, 0x4e00), (0x1f22a, 0x1f22a, 1, 0x4e09), (0x1f22b, 0x1f22b, 1, 0x904a),
  (0x1f22c, 0x1f22c, 1, 0x5de6), (0x1f22d, 0x1f22d, 1, 0x4e2d), (0x1f22e, 0x1f22e, 1, 0x53f3),
  (0x1f22f, 0x1f22f, 1, 0x6307), (0x1f230, 0x1f230, 1, 0x8d70), (0x1f231, 0x1f231, 1, 0x6253),
  (0x1f232, 0x1f232, 1, 0x7981), (0x1f233, 0x1f233, 1, 0x7a7a), (0x1f234, 0x1f234, 1, 0x5408),
  (0x1f235, 0x1f235, 1, 0x6e80), (0x1f236, 0x1f236, 1, 0x6709), (0x1f237, 0x1f237, 1, 0x6708),
  (0x1f238, 0x1f238, 1, 0x7533), (0x1f239, 0x1f239, 1, 0x5272), (0x1f23a, 0x1f23a, 1, 0x55b6),
  (0x1f23b, 0x1f23b, 1, 0x914d), (0x1f250, 0x1f250, 1, 0x5f97), (0x1f251, 0x1f251, 1, 0x53ef),
  (0x1fbf0, 0x1fbf9, 1, 0x30)]

/-- Characters that stand for ideographs: the first code point of a row, and the ideographs that it
and the code points behind it stand for. -/
def ideographRows : List (Nat × String) := [
  (0x2e9f, "母"),
  (0x2ef3, "龟"),
  (0x2f00, "一丨丶丿乙亅二亠人儿入八冂冖冫几凵刀力勹匕匚匸十卜卩厂厶又口囗土"),
  (0x2f20, "士夂夊夕大女子宀寸小尢尸屮山巛工己巾干幺广廴廾弋弓彐彡彳心戈戶手"),
  (0x2f40, "支攴文斗斤方无日曰月木欠止歹殳毋比毛氏气水火爪父爻爿片牙牛犬玄玉"),
  (0x2f60, "瓜瓦甘生用田疋疒癶白皮皿目矛矢石示禸禾穴立竹米糸缶网羊羽老而耒耳"),
  (0x2f80, "聿肉臣自至臼舌舛舟艮色艸虍虫血行衣襾見角言谷豆豕豸貝赤走足身車辛"),
  (0x2fa0, "辰辵邑酉釆里金長門阜隶隹雨靑非面革韋韭音頁風飛食首香馬骨高髟鬥鬯"),
  (0x2fc0, "鬲鬼魚鳥鹵鹿麥麻黃黍黑黹黽鼎鼓鼠鼻齊齒龍龜龠"),
  (0x3038, "十卄卅"),
  (0x3192, "一二三四上中下甲乙丙丁天地人"),
  (0x3244, "問幼文箏"),
  (0x3280, "一二三四五六七八九十月火水木金土日株有社名特財祝労秘男女適優印注"),
  (0x32a0, "項休写正上中下左右医宗学監企資協夜"),
  (0xf900, "豈更車賈滑串句龜龜契金喇奈懶癩羅蘿螺裸邏樂洛烙珞落酪駱亂卵欄爛蘭"),
  (0xf920, "鸞嵐濫藍襤拉臘蠟廊朗浪狼郎來冷勞擄櫓爐盧老蘆虜路露魯鷺碌祿綠菉錄"),
  (0xf940, "鹿論壟弄籠聾牢磊賂雷壘屢樓淚漏累縷陋勒肋凜凌稜綾菱陵讀拏樂諾丹寧"),
  (0xf960, "怒率異北磻便復不泌數索參塞省葉說殺辰沈拾若掠略亮兩凉梁糧良諒量勵"),
  (0xf980, "呂女廬旅濾礪閭驪麗黎力曆歷轢年憐戀撚漣煉璉秊練聯輦蓮連鍊列劣咽烈"),
  (0xf9a0, "裂說廉念捻殮簾獵令囹寧嶺怜玲瑩羚聆鈴零靈領例禮醴隸惡了僚寮尿料樂"),
  (0xf9c0, "燎療蓼遼龍暈阮劉杻柳流溜琉留硫紐類六戮陸倫崙淪輪律慄栗率隆利吏履"),
  (0xf9e0, "易李梨泥理痢罹裏裡里離匿溺吝燐璘藺隣鱗麟林淋臨立笠粒狀炙識什茶刺"),
  (0xfa00, "切度拓糖宅洞暴輻行降見廓兀嗀"),
  (0xfa10, "塚"),
  (0xfa12, "晴"),
  (0xfa15, "凞猪益礼神祥福靖精羽"),
  (0xfa20, "蘒"),
  (0xfa22, "諸"),
  (0xfa25, "逸都"),
  (0xfa2a, "飯飼館鶴郞隷侮僧免勉勤卑喝嘆器塀墨層屮悔慨憎懲敏既暑梅海渚漢煮爫"),
  (0xfa4a, "琢碑社祉祈祐祖祝禍禎穀突節練縉繁署者臭艹艹著褐視謁謹賓贈辶逸難響"),
  (0xfa6a, "頻恵𤋮舘"),
  (0xfa70, "並况全侀充冀勇勺喝啕喙嗢塚墳奄奔婢嬨廒廙彩徭惘慎愈憎慠懲戴揄搜摒"),
  (0xfa90, "敖晴朗望杖歹殺流滛滋漢瀞煮瞧爵犯猪瑱甆画瘝瘟益盛直睊着磌窱節类絛"),
  (0xfab0, "練缾者荒華蝹襁覆視調諸請謁諾諭謹變贈輸遲醙鉶陼難靖韛響頋頻鬒龜𢡊"),
  (0xfad0, "𢡄𣏕㮝䀘䀹𥉉𥳐𧻓齃龎"),
  (0x2f800, "丽丸乁𠄢你侮侻倂偺備僧像㒞𠘺免兔兤具𠔜㒹內再𠕋冗冤仌冬况𩇟凵刃㓟"),
  (0x2f820, "刻剆割剷㔕勇勉勤勺包匆北卉卑博即卽卿卿卿𠨬灰及叟𠭣叫叱吆咞吸呈周"),
  (0x2f840, "咢哶唐啓啣善善喙喫喳嗂圖嘆圗噑噴切壮城埴堍型堲報墬𡓤売壷夆多夢奢"),
  (0x2f860, "𡚨𡛪姬娛娧姘婦㛮㛼嬈嬾嬾𡧈寃寘寧寳𡬘寿将当尢㞁屠屮峀岍𡷤嵃𡷦嵮嵫"),
  (0x2f880, "嵼巡巢㠯巽帨帽幩㡢𢆃㡼庰庳庶廊𪎒廾𢌱𢌱舁弢弢㣇𣊸𦇚形彫㣣徚忍志忹"),
  (0x2f8a0, "悁㤺㤜悔𢛔惇慈慌慎慌慺憎憲憤憯懞懲懶成戛扝抱拔捐𢬌挽拼捨掃揤𢯱搢"),
  (0x2f8c0, "揅掩㨮摩摾撝摷㩬敏敬𣀊旣書晉㬙暑㬈㫤冒冕最暜肭䏙朗望朡杞杓𣏃㭉柺"),
  (0x2f8e0, "枅桒梅𣑭梎栟椔㮝楂榣槪檨𣚣櫛㰘次𣢧歔㱎歲殟殺殻𣪍𡴋𣫺汎𣲼沿泍汧洖"),
  (0x2f900, "派海流浩浸涅𣴞洴港湮㴳滋滇𣻑淹潮𣽞𣾎濆瀹瀞瀛㶖灊災灷炭𠔥煅𤉣熜𤎫"),
  (0x2f920, "爨爵牐𤘈犀犕𤜵𤠔獺王㺬玥㺸㺸瑇瑜瑱璅瓊㼛甤𤰶甾𤲒異𢆟瘐𤾡𤾸𥁄㿼䀈"),
  (0x2f940, "直𥃳𥃲𥄙𥄳眞真真睊䀹瞋䁆䂖𥐝硎碌磌䃣𥘦祖𥚚𥛅福秫䄯穀穊穏𥥼𥪧𥪧竮"),
  (0x2f960, "䈂𥮫篆築䈧𥲀糒䊠糨糣紀𥾆絣䌁緇縂繅䌴𦈨𦉇䍙𦋙罺𦌾羕翺者𦓚𦔣聠𦖨聰"),
  (0x2f980, "𣍟䏕育脃䐋脾媵𦞧𦞵𣎓𣎜舁舄辞䑫芑芋芝劳花芳芽苦𦬼若茝荣莭茣莽菧著"),
  (0x2f9a0, "荓菊菌菜𦰶𦵫𦳕䔫蓱蓳蔖𧏊蕤𦼬䕝䕡𦾱𧃒䕫虐虜虧虩蚩蚈蜎蛢蝹蜨蝫螆䗗"),
  (0x2f9c0, "蟡蠁䗹衠衣𧙧裗裞䘵裺㒻𧢮𧥦䚾䛇誠諭變豕𧲨貫賁贛起𧼯𠠄跋趼跰𠣞軔輸"),
  (0x2f9e0, "𨗒𨗭邔郱鄑𨜮鄛鈸鋗鋘鉼鏹鐕𨯺開䦕閷𨵷䧦雃嶲霣𩅅𩈚䩮䩶韠𩐊䪲𩒖頋頋"),
  (0x2fa00, "頩𩖶飢䬳餩馧駂駾䯎𩬰鬒鱀鳽䳎䳭鵧𪃎䳸𪄅𪈎𪊑麻䵖黹黾鼅鼏鼖鼻𪘀")]

/-- Characters before the ligatures of Arabic that stand for several others. -/
def lowTexts : List (Nat × List Nat) := [
  (0xa8, [0x20, 0x308]), (0xaf, [0x20, 0x304]), (0xb4, [0x20, 0x301]), (0xb8, [0x20, 0x327]),
  (0xbc, [0x31, 0x2044, 0x34]), (0xbd, [0x31, 0x2044, 0x32]), (0xbe, [0x33, 0x2044, 0x34]),
  (0x130, [0x69, 0x307]), (0x132, [0x69, 0x6a]), (0x133, [0x69, 0x6a]), (0x13f, [0x6c, 0xb7]),
  (0x140, [0x6c, 0xb7]), (0x149, [0x2bc, 0x6e]), (0x1c4, [0x64, 0x17e]), (0x1c5, [0x64, 0x17e]),
  (0x1c6, [0x64, 0x17e]), (0x1c7, [0x6c, 0x6a]), (0x1c8, [0x6c, 0x6a]), (0x1c9, [0x6c, 0x6a]),
  (0x1ca, [0x6e, 0x6a]), (0x1cb, [0x6e, 0x6a]), (0x1cc, [0x6e, 0x6a]), (0x1f1, [0x64, 0x7a]),
  (0x1f2, [0x64, 0x7a]), (0x1f3, [0x64, 0x7a]), (0x2d8, [0x20, 0x306]), (0x2d9, [0x20, 0x307]),
  (0x2da, [0x20, 0x30a]), (0x2db, [0x20, 0x328]), (0x2dc, [0x20, 0x303]), (0x2dd, [0x20, 0x30b]),
  (0x344, [0x308, 0x301]), (0x37a, [0x20, 0x3b9]), (0x384, [0x20, 0x301]),
  (0x385, [0x20, 0x308, 0x301]), (0x587, [0x565, 0x582]), (0x675, [0x627, 0x674]),
  (0x676, [0x648, 0x674]), (0x677, [0x6c7, 0x674]), (0x678, [0x64a, 0x674]),
  (0x958, [0x915, 0x93c]), (0x959, [0x916, 0x93c]), (0x95a, [0x917, 0x93c]),
  (0x95b, [0x91c, 0x93c]), (0x95c, [0x921, 0x93c]), (0x95d, [0x922, 0x93c]),
  (0x95e, [0x92b, 0x93c]), (0x95f, [0x92f, 0x93c]), (0x9dc, [0x9a1, 0x9bc]),
  (0x9dd, [0x9a2, 0x9bc]), (0x9df, [0x9af, 0x9bc]), (0xa33, [0xa32, 0xa3c]),
  (0xa36, [0xa38, 0xa3c]), (0xa59, [0xa16, 0xa3c]), (0xa5a, [0xa17, 0xa3c]),
  (0xa5b, [0xa1c, 0xa3c]), (0xa5e, [0xa2b, 0xa3c]), (0xb5c, [0xb21, 0xb3c]),
  (0xb5d, [0xb22, 0xb3c]), (0xe33, [0xe4d, 0xe32]), (0xeb3, [0xecd, 0xeb2]),
  (0xedc, [0xeab, 0xe99]), (0xedd, [0xeab, 0xea1]), (0xf43, [0xf42, 0xfb7]),
  (0xf4d, [0xf4c, 0xfb7]), (0xf52, [0xf51, 0xfb7]), (0xf57, [0xf56, 0xfb7]),
  (0xf5c, [0xf5b, 0xfb7]), (0xf69, [0xf40, 0xfb5]), (0xf73, [0xf71, 0xf72]),
  (0xf75, [0xf71, 0xf74]), (0xf76, [0xfb2, 0xf80]), (0xf77, [0xfb2, 0xf71, 0xf80]),
  (0xf78, [0xfb3, 0xf80]), (0xf79, [0xfb3, 0xf71, 0xf80]), (0xf81, [0xf71, 0xf80]),
  (0xf93, [0xf92, 0xfb7]), (0xf9d, [0xf9c, 0xfb7]), (0xfa2, [0xfa1, 0xfb7]),
  (0xfa7, [0xfa6, 0xfb7]), (0xfac, [0xfab, 0xfb7]), (0xfb9, [0xf90, 0xfb5]),
  (0x1e9a, [0x61, 0x2be]), (0x1f80, [0x1f00, 0x3b9]), (0x1f81, [0x1f01, 0x3b9]),
  (0x1f82, [0x1f02, 0x3b9]), (0x1f83, [0x1f03, 0x3b9]), (0x1f84, [0x1f04, 0x3b9]),
  (0x1f85, [0x1f05, 0x3b9]), (0x1f86, [0x1f06, 0x3b9]), (0x1f87, [0x1f07, 0x3b9]),
  (0x1f88, [0x1f00, 0x3b9]), (0x1f89, [0x1f01, 0x3b9]), (0x1f8a, [0x1f02, 0x3b9]),
  (0x1f8b, [0x1f03, 0x3b9]), (0x1f8c, [0x1f04, 0x3b9]), (0x1f8d, [0x1f05, 0x3b9]),
  (0x1f8e, [0x1f06, 0x3b9]), (0x1f8f, [0x1f07, 0x3b9]), (0x1f90, [0x1f20, 0x3b9]),
  (0x1f91, [0x1f21, 0x3b9]), (0x1f92, [0x1f22, 0x3b9]), (0x1f93, [0x1f23, 0x3b9]),
  (0x1f94, [0x1f24, 0x3b9]), (0x1f95, [0x1f25, 0x3b9]), (0x1f96, [0x1f26, 0x3b9]),
  (0x1f97, [0x1f27, 0x3b9]), (0x1f98, [0x1f20, 0x3b9]), (0x1f99, [0x1f21, 0x3b9]),
  (0x1f9a, [0x1f22, 0x3b9]), (0x1f9b, [0x1f23, 0x3b9]), (0x1f9c, [0x1f24, 0x3b9]),
  (0x1f9d, [0x1f25, 0x3b9]), (0x1f9e, [0x1f26, 0x3b9]), (0x1f9f, [0x1f27, 0x3b9]),
  (0x1fa0, [0x1f60, 0x3b9]), (0x1fa1, [0x1f61, 0x3b9]), (0x1fa2, [0x1f62, 0x3b9]),
  (0x1fa3, [0x1f63, 0x3b9]), (0x1fa4, [0x1f64, 0x3b9]), (0x1fa5, [0x1f65, 0x3b9]),
  (0x1fa6, [0x1f66, 0x3b9]), (0x1fa7, [0x1f67, 0x3b9]), (0x1fa8, [0x1f60, 0x3b9]),
  (0x1fa9, [0x1f61, 0x3b9]), (0x1faa, [0x1f62, 0x3b9]), (0x1fab, [0x1f63, 0x3b9]),
  (0x1fac, [0x1f64, 0x3b9]), (0x1fad, [0x1f65, 0x3b9]), (0x1fae, [0x1f66, 0x3b9]),
  (0x1faf, [0x1f67, 0x3b9]), (0x1fb2, [0x1f70, 0x3b9]), (0x1fb3, [0x3b1, 0x3b9]),
  (0x1fb4, [0x3ac, 0x3b9]), (0x1fb7, [0x1fb6, 0x3b9]), (0x1fbc, [0x3b1, 0x3b9]),
  (0x1fbd, [0x20, 0x313]), (0x1fbf, [0x20, 0x313]), (0x1fc0, [0x20, 0x342]),
  (0x1fc1, [0x20, 0x308, 0x342]), (0x1fc2, [0x1f74, 0x3b9]), (0x1fc3, [0x3b7, 0x3b9]),
  (0x1fc4, [0x3ae, 0x3b9]), (0x1fc7, [0x1fc6, 0x3b9]), (0x1fcc, [0x3b7, 0x3b9]),
  (0x1fcd, [0x20, 0x313, 0x300]), (0x1fce, [0x20, 0x313, 0x301]), (0x1fcf, [0x20, 0x313, 0x342]),
  (0x1fdd, [0x20, 0x314, 0x300]), (0x1fde, [0x20, 0x314, 0x301]), (0x1fdf, [0x20, 0x314, 0x342]),
  (0x1fed, [0x20, 0x308, 0x300]), (0x1fee, [0x20, 0x308, 0x301]), (0x1ff2, [0x1f7c, 0x3b9]),
  (0x1ff3, [0x3c9, 0x3b9]), (0x1ff4, [0x3ce, 0x3b9]), (0x1ff7, [0x1ff6, 0x3b9]),
  (0x1ffc, [0x3c9, 0x3b9]), (0x1ffd, [0x20, 0x301]), (0x1ffe, [0x20, 0x314]),
  (0x2017, [0x20, 0x333]), (0x2033, [0x2032, 0x2032]), (0x2034, [0x2032, 0x2032, 0x2032]),
  (0x2036, [0x2035, 0x2035]), (0x2037, [0x2035, 0x2035, 0x2035]), (0x203c, [0x21, 0x21]),
  (0x203e, [0x20, 0x305]), (0x2047, [0x3f, 0x3f]), (0x2048, [0x3f, 0x21]), (0x2049, [0x21, 0x3f]),
  (0x2057, [0x2032, 0x2032, 0x2032, 0x2032]), (0x20a8, [0x72, 0x73]), (0x2100, [0x61, 0x2f, 0x63]),
  (0x2101, [0x61, 0x2f, 0x73]), (0x2103, [0xb0, 0x63]), (0x2105, [0x63, 0x2f, 0x6f]),
  (0x2106, [0x63, 0x2f, 0x75]), (0x2109, [0xb0, 0x66]), (0x2116, [0x6e, 0x6f]),
  (0x2120, [0x73, 0x6d]), (0x2121, [0x74, 0x65, 0x6c]), (0x2122, [0x74, 0x6d]),
  (0x213b, [0x66, 0x61, 0x78]), (0x2150, [0x31, 0x2044, 0x37]), (0x2151, [0x31, 0x2044, 0x39]),
  (0x2152, [0x31, 0x2044, 0x31, 0x30]), (0x2153, [0x31, 0x2044, 0x33]),
  (0x2154, [0x32, 0x2044, 0x33]), (0x2155, [0x31, 0x2044, 0x35]), (0x2156, [0x32, 0x2044, 0x35]),
  (0x2157, [0x33, 0x2044, 0x35]), (0x2158, [0x34, 0x2044, 0x35]), (0x2159, [0x31, 0x2044, 0x36]),
  (0x215a, [0x35, 0x2044, 0x36]), (0x215b, [0x31, 0x2044, 0x38]), (0x215c, [0x33, 0x2044, 0x38]),
  (0x215d, [0x35, 0x2044, 0x38]), (0x215e, [0x37, 0x2044, 0x38]), (0x215f, [0x31, 0x2044]),
  (0x2161, [0x69, 0x69]), (0x2162, [0x69, 0x69, 0x69]), (0x2163, [0x69, 0x76]),
  (0x2165, [0x76, 0x69]), (0x2166, [0x76, 0x69, 0x69]), (0x2167, [0x76, 0x69, 0x69, 0x69]),
  (0x2168, [0x69, 0x78]), (0x216a, [0x78, 0x69]), (0x216b, [0x78, 0x69, 0x69]),
  (0x2171, [0x69, 0x69]), (0x2172, [0x69, 0x69, 0x69]), (0x2173, [0x69, 0x76]),
  (0x2175, [0x76, 0x69]), (0x2176, [0x76, 0x69, 0x69]), (0x2177, [0x76, 0x69, 0x69, 0x69]),
  (0x2178, [0x69, 0x78]), (0x217a, [0x78, 0x69]), (0x217b, [0x78, 0x69, 0x69]),
  (0x2189, [0x30, 0x2044, 0x33]), (0x222c, [0x222b, 0x222b]), (0x222d, [0x222b, 0x222b, 0x222b]),
  (0x222f, [0x222e, 0x222e]), (0x2230, [0x222e, 0x222e, 0x222e]), (0x2469, [0x31, 0x30]),
  (0x246a, [0x31, 0x31]), (0x246b, [0x31, 0x32]), (0x246c, [0x31, 0x33]), (0x246d, [0x31, 0x34]),
  (0x246e, [0x31, 0x35]), (0x246f, [0x31, 0x36]), (0x2470, [0x31, 0x37]), (0x2471, [0x31, 0x38]),
  (0x2472, [0x31, 0x39]), (0x2473, [0x32, 0x30]), (0x2474, [0x28, 0x31, 0x29]),
  (0x2475, [0x28, 0x32, 0x29]), (0x2476, [0x28, 0x33, 0x29]), (0x2477, [0x28, 0x34, 0x29]),
  (0x2478, [0x28, 0x35, 0x29]), (0x2479, [0x28, 0x36, 0x29]), (0x247a, [0x28, 0x37, 0x29]),
  (0x247b, [0x28, 0x38, 0x29]), (0x247c, [0x28, 0x39, 0x29]), (0x247d, [0x28, 0x31, 0x30, 0x29]),
  (0x247e, [0x28, 0x31, 0x31, 0x29]), (0x247f, [0x28, 0x31, 0x32, 0x29]),
  (0x2480, [0x28, 0x31, 0x33, 0x29]), (0x2481, [0x28, 0x31, 0x34, 0x29]),
  (0x2482, [0x28, 0x31, 0x35, 0x29]), (0x2483, [0x28, 0x31, 0x36, 0x29]),
  (0x2484, [0x28, 0x31, 0x37, 0x29]), (0x2485, [0x28, 0x31, 0x38, 0x29]),
  (0x2486, [0x28, 0x31, 0x39, 0x29]), (0x2487, [0x28, 0x32, 0x30, 0x29]),
  (0x249c, [0x28, 0x61, 0x29]), (0x249d, [0x28, 0x62, 0x29]), (0x249e, [0x28, 0x63, 0x29]),
  (0x249f, [0x28, 0x64, 0x29]), (0x24a0, [0x28, 0x65, 0x29]), (0x24a1, [0x28, 0x66, 0x29]),
  (0x24a2, [0x28, 0x67, 0x29]), (0x24a3, [0x28, 0x68, 0x29]), (0x24a4, [0x28, 0x69, 0x29]),
  (0x24a5, [0x28, 0x6a, 0x29]), (0x24a6, [0x28, 0x6b, 0x29]), (0x24a7, [0x28, 0x6c, 0x29]),
  (0x24a8, [0x28, 0x6d, 0x29]), (0x24a9, [0x28, 0x6e, 0x29]), (0x24aa, [0x28, 0x6f, 0x29]),
  (0x24ab, [0x28, 0x70, 0x29]), (0x24ac, [0x28, 0x71, 0x29]), (0x24ad, [0x28, 0x72, 0x29]),
  (0x24ae, [0x28, 0x73, 0x29]), (0x24af, [0x28, 0x74, 0x29]), (0x24b0, [0x28, 0x75, 0x29]),
  (0x24b1, [0x28, 0x76, 0x29]), (0x24b2, [0x28, 0x77, 0x29]), (0x24b3, [0x28, 0x78, 0x29]),
  (0x24b4, [0x28, 0x79, 0x29]), (0x24b5, [0x28, 0x7a, 0x29]),
  (0x2a0c, [0x222b, 0x222b, 0x222b, 0x222b]), (0x2a74, [0x3a, 0x3a, 0x3d]), (0x2a75, [0x3d, 0x3d]),
  (0x2a76, [0x3d, 0x3d, 0x3d]), (0x2adc, [0x2add, 0x338]), (0x309b, [0x20, 0x3099]),
  (0x309c, [0x20, 0x309a]), (0x309f, [0x3088, 0x308a]), (0x30ff, [0x30b3, 0x30c8]),
  (0x3200, [0x28, 0x1100, 0x29]), (0x3201, [0x28, 0x1102, 0x29]), (0x3202, [0x28, 0x1103, 0x29]),
  (0x3203, [0x28, 0x1105, 0x29]), (0x3204, [0x28, 0x1106, 0x29]), (0x3205, [0x28, 0x1107, 0x29]),
  (0x3206, [0x28, 0x1109, 0x29]), (0x3207, [0x28, 0x110b, 0x29]), (0x3208, [0x28, 0x110c, 0x29]),
  (0x3209, [0x28, 0x110e, 0x29]), (0x320a, [0x28, 0x110f, 0x29]), (0x320b, [0x28, 0x1110, 0x29]),
  (0x320c, [0x28, 0x1111, 0x29]), (0x320d, [0x28, 0x1112, 0x29]), (0x320e, [0x28, 0xac00, 0x29]),
  (0x320f, [0x28, 0xb098, 0x29]), (0x3210, [0x28, 0xb2e4, 0x29]), (0x3211, [0x28, 0xb77c, 0x29]),
  (0x3212, [0x28, 0xb9c8, 0x29]), (0x3213, [0x28, 0xbc14, 0x29]), (0x3214, [0x28, 0xc0ac, 0x29]),
  (0x3215, [0x28, 0xc544, 0x29]), (0x3216, [0x28, 0xc790, 0x29]), (0x3217, [0x28, 0xcc28, 0x29]),
  (0x3218, [0x28, 0xce74, 0x29]), (0x3219, [0x28, 0xd0c0, 0x29]), (0x321a, [0x28, 0xd30c, 0x29]),
  (0x321b, [0x28, 0xd558, 0x29]), (0x321c, [0x28, 0xc8fc, 0x29]),
  (0x321d, [0x28, 0xc624, 0xc804, 0x29]), (0x321e, [0x28, 0xc624, 0xd6c4, 0x29]),
  (0x3220, [0x28, 0x4e00, 0x29]), (0x3221, [0x28, 0x4e8c, 0x29]), (0x3222, [0x28, 0x4e09, 0x29]),
  (0x3223, [0x28, 0x56db, 0x29]), (0x3224, [0x28, 0x4e94, 0x29]), (0x3225, [0x28, 0x516d, 0x29]),
  (0x3226, [0x28, 0x4e03, 0x29]), (0x3227, [0x28, 0x516b, 0x29]), (0x3228, [0x28, 0x4e5d, 0x29]),
  (0x3229, [0x28, 0x5341, 0x29]), (0x322a, [0x28, 0x6708, 0x29]), (0x322b, [0x28, 0x706b, 0x29]),
  (0x322c, [0x28, 0x6c34, 0x29]), (0x322d, [0x28, 0x6728, 0x29]), (0x322e, [0x28, 0x91d1, 0x29]),
  (0x322f, [0x28, 0x571f, 0x29]), (0x3230, [0x28, 0x65e5, 0x29]), (0x3231, [0x28, 0x682a, 0x29]),
  (0x3232, [0x28, 0x6709, 0x29]), (0x3233, [0x28, 0x793e, 0x29]), (0x3234, [0x28, 0x540d, 0x29]),
  (0x3235, [0x28, 0x7279, 0x29]), (0x3236, [0x28, 0x8ca1, 0x29]), (0x3237, [0x28, 0x795d, 0x29]),
  (0x3238, [0x28, 0x52b4, 0x29]), (0x3239, [0x28, 0x4ee3, 0x29]), (0x323a, [0x28, 0x547c, 0x29]),
  (0x323b, [0x28, 0x5b66, 0x29]), (0x323c, [0x28, 0x76e3, 0x29]), (0x323d, [0x28, 0x4f01, 0x29]),
  (0x323e, [0x28, 0x8cc7, 0x29]), (0x323f, [0x28, 0x5354, 0x29]), (0x3240, [0x28, 0x796d, 0x29]),
  (0x3241, [0x28, 0x4f11, 0x29]), (0x3242, [0x28, 0x81ea, 0x29]), (0x3243, [0x28, 0x81f3, 0x29]),
  (0x3250, [0x70, 0x74, 0x65]), (0x3251, [0x32, 0x31]), (0x3252, [0x32, 0x32]),
  (0x3253, [0x32, 0x33]), (0x3254, [0x32, 0x34]), (0x3255, [0x32, 0x35]), (0x3256, [0x32, 0x36]),
  (0x3257, [0x32, 0x37]), (0x3258, [0x32, 0x38]), (0x3259, [0x32, 0x39]), (0x325a, [0x33, 0x30]),
  (0x325b, [0x33, 0x31]), (0x325c, [0x33, 0x32]), (0x325d, [0x33, 0x33]), (0x325e, [0x33, 0x34]),
  (0x325f, [0x33, 0x35]), (0x327c, [0xcc38, 0xace0]), (0x327d, [0xc8fc, 0xc758]),
  (0x32b1, [0x33, 0x36]), (0x32b2, [0x33, 0x37]), (0x32b3, [0x33, 0x38]), (0x32b4, [0x33, 0x39]),
  (0x32b5, [0x34, 0x30]), (0x32b6, [0x34, 0x31]), (0x32b7, [0x34, 0x32]), (0x32b8, [0x34, 0x33]),
  (0x32b9, [0x34, 0x34]), (0x32ba, [0x34, 0x35]), (0x32bb, [0x34, 0x36]), (0x32bc, [0x34, 0x37]),
  (0x32bd, [0x34, 0x38]), (0x32be, [0x34, 0x39]), (0x32bf, [0x35, 0x30]), (0x32c0, [0x31, 0x6708]),
  (0x32c1, [0x32, 0x6708]), (0x32c2, [0x33, 0x6708]), (0x32c3, [0x34, 0x6708]),
  (0x32c4, [0x35, 0x6708]), (0x32c5, [0x36, 0x6708]), (0x32c6, [0x37, 0x6708]),
  (0x32c7, [0x38, 0x6708]), (0x32c8, [0x39, 0x6708]), (0x32c9, [0x31, 0x30, 0x6708]),
  (0x32ca, [0x31, 0x31, 0x6708]), (0x32cb, [0x31, 0x32, 0x6708]), (0x32cc, [0x68, 0x67]),
  (0x32cd, [0x65, 0x72, 0x67]), (0x32ce, [0x65, 0x76]), (0x32cf, [0x6c, 0x74, 0x64]),
  (0x32ff, [0x4ee4, 0x548c]), (0x3300, [0x30a2, 0x30d1, 0x30fc, 0x30c8]),
  (0x3301, [0x30a2, 0x30eb, 0x30d5, 0x30a1]), (0x3302, [0x30a2, 0x30f3, 0x30da, 0x30a2]),
  (0x3303, [0x30a2, 0x30fc, 0x30eb]), (0x3304, [0x30a4, 0x30cb, 0x30f3, 0x30b0]),
  (0x3305, [0x30a4, 0x30f3, 0x30c1]), (0x3306, [0x30a6, 0x30a9, 0x30f3]),
  (0x3307, [0x30a8, 0x30b9, 0x30af, 0x30fc, 0x30c9]), (0x3308, [0x30a8, 0x30fc, 0x30ab, 0x30fc]),
  (0x3309, [0x30aa, 0x30f3, 0x30b9]), (0x330a, [0x30aa, 0x30fc, 0x30e0]),
  (0x330b, [0x30ab, 0x30a4, 0x30ea]), (0x330c, [0x30ab, 0x30e9, 0x30c3, 0x30c8]),
  (0x330d, [0x30ab, 0x30ed, 0x30ea, 0x30fc]), (0x330e, [0x30ac, 0x30ed, 0x30f3]),
  (0x330f, [0x30ac, 0x30f3, 0x30de]), (0x3310, [0x30ae, 0x30ac]),
  (0x3311, [0x30ae, 0x30cb, 0x30fc]), (0x3312, [0x30ad, 0x30e5, 0x30ea, 0x30fc]),
  (0x3313, [0x30ae, 0x30eb, 0x30c0, 0x30fc]), (0x3314, [0x30ad, 0x30ed]),
  (0x3315, [0x30ad, 0x30ed, 0x30b0, 0x30e9, 0x30e0]),
  (0x3316, [0x30ad, 0x30ed, 0x30e1, 0x30fc, 0x30c8, 0x30eb]),
  (0x3317, [0x30ad, 0x30ed, 0x30ef, 0x30c3, 0x30c8]), (0x3318, [0x30b0, 0x30e9, 0x30e0]),
  (0x3319, [0x30b0, 0x30e9, 0x30e0, 0x30c8, 0x30f3]),
  (0x331a, [0x30af, 0x30eb, 0x30bc, 0x30a4, 0x30ed]), (0x331b, [0x30af, 0x30ed, 0x30fc, 0x30cd]),
  (0x331c, [0x30b1, 0x30fc, 0x30b9]), (0x331d, [0x30b3, 0x30eb, 0x30ca]),
  (0x331e, [0x30b3, 0x30fc, 0x30dd]), (0x331f, [0x30b5, 0x30a4, 0x30af, 0x30eb]),
  (0x3320, [0x30b5, 0x30f3, 0x30c1, 0x30fc, 0x30e0]), (0x3321, [0x30b7, 0x30ea, 0x30f3, 0x30b0]),
  (0x3322, [0x30bb, 0x30f3, 0x30c1]), (0x3323, [0x30bb, 0x30f3, 0x30c8]),
  (0x3324, [0x30c0, 0x30fc, 0x30b9]), (0x3325, [0x30c7, 0x30b7]), (0x3326, [0x30c9, 0x30eb]),
  (0x3327, [0x30c8, 0x30f3]), (0x3328, [0x30ca, 0x30ce]), (0x3329, [0x30ce, 0x30c3, 0x30c8]),
  (0x332a, [0x30cf, 0x30a4, 0x30c4]), (0x332b, [0x30d1, 0x30fc, 0x30bb, 0x30f3, 0x30c8]),
  (0x332c, [0x30d1, 0x30fc, 0x30c4]), (0x332d, [0x30d0, 0x30fc, 0x30ec, 0x30eb]),
  (0x332e, [0x30d4, 0x30a2, 0x30b9, 0x30c8, 0x30eb]), (0x332f, [0x30d4, 0x30af, 0x30eb]),
  (0x3330, [0x30d4, 0x30b3]), (0x3331, [0x30d3, 0x30eb]),
  (0x3332, [0x30d5, 0x30a1, 0x30e9, 0x30c3, 0x30c9]), (0x3333, [0x30d5, 0x30a3, 0x30fc, 0x30c8]),
  (0x3334, [0x30d6, 0x30c3, 0x30b7, 0x30a7, 0x30eb]), (0x3335, [0x30d5, 0x30e9, 0x30f3]),
  (0x3336, [0x30d8, 0x30af, 0x30bf, 0x30fc, 0x30eb]), (0x3337, [0x30da, 0x30bd]),
  (0x3338, [0x30da, 0x30cb, 0x30d2]), (0x3339, [0x30d8, 0x30eb, 0x30c4]),
  (0x333a, [0x30da, 0x30f3, 0x30b9]), (0x333b, [0x30da, 0x30fc, 0x30b8]),
  (0x333c, [0x30d9, 0x30fc, 0x30bf]), (0x333d, [0x30dd, 0x30a4, 0x30f3, 0x30c8]),
  (0x333e, [0x30dc, 0x30eb, 0x30c8]), (0x333f, [0x30db, 0x30f3]),
  (0x3340, [0x30dd, 0x30f3, 0x30c9]), (0x3341, [0x30db, 0x30fc, 0x30eb]),
  (0x3342, [0x30db, 0x30fc, 0x30f3]), (0x3343, [0x30de, 0x30a4, 0x30af, 0x30ed]),
  (0x3344, [0x30de, 0x30a4, 0x30eb]), (0x3345, [0x30de, 0x30c3, 0x30cf]),
  (0x3346, [0x30de, 0x30eb, 0x30af]), (0x3347, [0x30de, 0x30f3, 0x30b7, 0x30e7, 0x30f3]),
  (0x3348, [0x30df, 0x30af, 0x30ed, 0x30f3]), (0x3349, [0x30df, 0x30ea]),
  (0x334a, [0x30df, 0x30ea, 0x30d0, 0x30fc, 0x30eb]), (0x334b, [0x30e1, 0x30ac]),
  (0x334c, [0x30e1, 0x30ac, 0x30c8, 0x30f3]), (0x334d, [0x30e1, 0x30fc, 0x30c8, 0x30eb]),
  (0x334e, [0x30e4, 0x30fc, 0x30c9]), (0x334f, [0x30e4, 0x30fc, 0x30eb]),
  (0x3350, [0x30e6, 0x30a2, 0x30f3]), (0x3351, [0x30ea, 0x30c3, 0x30c8, 0x30eb]),
  (0x3352, [0x30ea, 0x30e9]), (0x3353, [0x30eb, 0x30d4, 0x30fc]),
  (0x3354, [0x30eb, 0x30fc, 0x30d6, 0x30eb]), (0x3355, [0x30ec, 0x30e0]),
  (0x3356, [0x30ec, 0x30f3, 0x30c8, 0x30b2, 0x30f3]), (0x3357, [0x30ef, 0x30c3, 0x30c8]),
  (0x3358, [0x30, 0x70b9]), (0x3359, [0x31, 0x70b9]), (0x335a, [0x32, 0x70b9]),
  (0x335b, [0x33, 0x70b9]), (0x335c, [0x34, 0x70b9]), (0x335d, [0x35, 0x70b9]),
  (0x335e, [0x36, 0x70b9]), (0x335f, [0x37, 0x70b9]), (0x3360, [0x38, 0x70b9]),
  (0x3361, [0x39, 0x70b9]), (0x3362, [0x31, 0x30, 0x70b9]), (0x3363, [0x31, 0x31, 0x70b9]),
  (0x3364, [0x31, 0x32, 0x70b9]), (0x3365, [0x31, 0x33, 0x70b9]), (0x3366, [0x31, 0x34, 0x70b9]),
  (0x3367, [0x31, 0x35, 0x70b9]), (0x3368, [0x31, 0x36, 0x70b9]), (0x3369, [0x31, 0x37, 0x70b9]),
  (0x336a, [0x31, 0x38, 0x70b9]), (0x336b, [0x31, 0x39, 0x70b9]), (0x336c, [0x32, 0x30, 0x70b9]),
  (0x336d, [0x32, 0x31, 0x70b9]), (0x336e, [0x32, 0x32, 0x70b9]), (0x336f, [0x32, 0x33, 0x70b9]),
  (0x3370, [0x32, 0x34, 0x70b9]), (0x3371, [0x68, 0x70, 0x61]), (0x3372, [0x64, 0x61]),
  (0x3373, [0x61, 0x75]), (0x3374, [0x62, 0x61, 0x72]), (0x3375, [0x6f, 0x76]),
  (0x3376, [0x70, 0x63]), (0x3377, [0x64, 0x6d]), (0x3378, [0x64, 0x6d, 0x32]),
  (0x3379, [0x64, 0x6d, 0x33]), (0x337a, [0x69, 0x75]), (0x337b, [0x5e73, 0x6210]),
  (0x337c, [0x662d, 0x548c]), (0x337d, [0x5927, 0x6b63]), (0x337e, [0x660e, 0x6cbb]),
  (0x337f, [0x682a, 0x5f0f, 0x4f1a, 0x793e]), (0x3380, [0x70, 0x61]), (0x3381, [0x6e, 0x61]),
  (0x3382, [0x3bc, 0x61]), (0x3383, [0x6d, 0x61]), (0x3384, [0x6b, 0x61]), (0x3385, [0x6b, 0x62]),
  (0x3386, [0x6d, 0x62]), (0x3387, [0x67, 0x62]), (0x3388, [0x63, 0x61, 0x6c]),
  (0x3389, [0x6b, 0x63, 0x61, 0x6c]), (0x338a, [0x70, 0x66]), (0x338b, [0x6e, 0x66]),
  (0x338c, [0x3bc, 0x66]), (0x338d, [0x3bc, 0x67]), (0x338e, [0x6d, 0x67]), (0x338f, [0x6b, 0x67]),
  (0x3390, [0x68, 0x7a]), (0x3391, [0x6b, 0x68, 0x7a]), (0x3392, [0x6d, 0x68, 0x7a]),
  (0x3393, [0x67, 0x68, 0x7a]), (0x3394, [0x74, 0x68, 0x7a]), (0x3395, [0x3bc, 0x6c]),
  (0x3396, [0x6d, 0x6c]), (0x3397, [0x64, 0x6c]), (0x3398, [0x6b, 0x6c]), (0x3399, [0x66, 0x6d]),
  (0x339a, [0x6e, 0x6d]), (0x339b, [0x3bc, 0x6d]), (0x339c, [0x6d, 0x6d]), (0x339d, [0x63, 0x6d]),
  (0x339e, [0x6b, 0x6d]), (0x339f, [0x6d, 0x6d, 0x32]), (0x33a0, [0x63, 0x6d, 0x32]),
  (0x33a1, [0x6d, 0x32]), (0x33a2, [0x6b, 0x6d, 0x32]), (0x33a3, [0x6d, 0x6d, 0x33]),
  (0x33a4, [0x63, 0x6d, 0x33]), (0x33a5, [0x6d, 0x33]), (0x33a6, [0x6b, 0x6d, 0x33]),
  (0x33a7, [0x6d, 0x2215, 0x73]), (0x33a8, [0x6d, 0x2215, 0x73, 0x32]), (0x33a9, [0x70, 0x61]),
  (0x33aa, [0x6b, 0x70, 0x61]), (0x33ab, [0x6d, 0x70, 0x61]), (0x33ac, [0x67, 0x70, 0x61]),
  (0x33ad, [0x72, 0x61, 0x64]), (0x33ae, [0x72, 0x61, 0x64, 0x2215, 0x73]),
  (0x33af, [0x72, 0x61, 0x64, 0x2215, 0x73, 0x32]), (0x33b0, [0x70, 0x73]), (0x33b1, [0x6e, 0x73]),
  (0x33b2, [0x3bc, 0x73]), (0x33b3, [0x6d, 0x73]), (0x33b4, [0x70, 0x76]), (0x33b5, [0x6e, 0x76]),
  (0x33b6, [0x3bc, 0x76]), (0x33b7, [0x6d, 0x76]), (0x33b8, [0x6b, 0x76]), (0x33b9, [0x6d, 0x76]),
  (0x33ba, [0x70, 0x77]), (0x33bb, [0x6e, 0x77]), (0x33bc, [0x3bc, 0x77]), (0x33bd, [0x6d, 0x77]),
  (0x33be, [0x6b, 0x77]), (0x33bf, [0x6d, 0x77]), (0x33c0, [0x6b, 0x3c9]), (0x33c1, [0x6d, 0x3c9]),
  (0x33c3, [0x62, 0x71]), (0x33c4, [0x63, 0x63]), (0x33c5, [0x63, 0x64]),
  (0x33c6, [0x63, 0x2215, 0x6b, 0x67]), (0x33c8, [0x64, 0x62]), (0x33c9, [0x67, 0x79]),
  (0x33ca, [0x68, 0x61]), (0x33cb, [0x68, 0x70]), (0x33cc, [0x69, 0x6e]), (0x33cd, [0x6b, 0x6b]),
  (0x33ce, [0x6b, 0x6d]), (0x33cf, [0x6b, 0x74]), (0x33d0, [0x6c, 0x6d]), (0x33d1, [0x6c, 0x6e]),
  (0x33d2, [0x6c, 0x6f, 0x67]), (0x33d3, [0x6c, 0x78]), (0x33d4, [0x6d, 0x62]),
  (0x33d5, [0x6d, 0x69, 0x6c]), (0x33d6, [0x6d, 0x6f, 0x6c]), (0x33d7, [0x70, 0x68]),
  (0x33d9, [0x70, 0x70, 0x6d]), (0x33da, [0x70, 0x72]), (0x33db, [0x73, 0x72]),
  (0x33dc, [0x73, 0x76]), (0x33dd, [0x77, 0x62]), (0x33de, [0x76, 0x2215, 0x6d]),
  (0x33df, [0x61, 0x2215, 0x6d]), (0x33e0, [0x31, 0x65e5]), (0x33e1, [0x32, 0x65e5]),
  (0x33e2, [0x33, 0x65e5]), (0x33e3, [0x34, 0x65e5]), (0x33e4, [0x35, 0x65e5]),
  (0x33e5, [0x36, 0x65e5]), (0x33e6, [0x37, 0x65e5]), (0x33e7, [0x38, 0x65e5]),
  (0x33e8, [0x39, 0x65e5]), (0x33e9, [0x31, 0x30, 0x65e5]), (0x33ea, [0x31, 0x31, 0x65e5]),
  (0x33eb, [0x31, 0x32, 0x65e5]), (0x33ec, [0x31, 0x33, 0x65e5]), (0x33ed, [0x31, 0x34, 0x65e5]),
  (0x33ee, [0x31, 0x35, 0x65e5]), (0x33ef, [0x31, 0x36, 0x65e5]), (0x33f0, [0x31, 0x37, 0x65e5]),
  (0x33f1, [0x31, 0x38, 0x65e5]), (0x33f2, [0x31, 0x39, 0x65e5]), (0x33f3, [0x32, 0x30, 0x65e5]),
  (0x33f4, [0x32, 0x31, 0x65e5]), (0x33f5, [0x32, 0x32, 0x65e5]), (0x33f6, [0x32, 0x33, 0x65e5]),
  (0x33f7, [0x32, 0x34, 0x65e5]), (0x33f8, [0x32, 0x35, 0x65e5]), (0x33f9, [0x32, 0x36, 0x65e5]),
  (0x33fa, [0x32, 0x37, 0x65e5]), (0x33fb, [0x32, 0x38, 0x65e5]), (0x33fc, [0x32, 0x39, 0x65e5]),
  (0x33fd, [0x33, 0x30, 0x65e5]), (0x33fe, [0x33, 0x31, 0x65e5]), (0x33ff, [0x67, 0x61, 0x6c]),
  (0xfb00, [0x66, 0x66]), (0xfb01, [0x66, 0x69]), (0xfb02, [0x66, 0x6c]),
  (0xfb03, [0x66, 0x66, 0x69]), (0xfb04, [0x66, 0x66, 0x6c]), (0xfb05, [0x73, 0x74]),
  (0xfb06, [0x73, 0x74]), (0xfb13, [0x574, 0x576]), (0xfb14, [0x574, 0x565]),
  (0xfb15, [0x574, 0x56b]), (0xfb16, [0x57e, 0x576]), (0xfb17, [0x574, 0x56d]),
  (0xfb1d, [0x5d9, 0x5b4]), (0xfb1f, [0x5f2, 0x5b7]), (0xfb2a, [0x5e9, 0x5c1]),
  (0xfb2b, [0x5e9, 0x5c2]), (0xfb2c, [0x5e9, 0x5bc, 0x5c1]), (0xfb2d, [0x5e9, 0x5bc, 0x5c2]),
  (0xfb2e, [0x5d0, 0x5b7]), (0xfb2f, [0x5d0, 0x5b8]), (0xfb30, [0x5d0, 0x5bc]),
  (0xfb31, [0x5d1, 0x5bc]), (0xfb32, [0x5d2, 0x5bc]), (0xfb33, [0x5d3, 0x5bc]),
  (0xfb34, [0x5d4, 0x5bc]), (0xfb35, [0x5d5, 0x5bc]), (0xfb36, [0x5d6, 0x5bc]),
  (0xfb38, [0x5d8, 0x5bc]), (0xfb39, [0x5d9, 0x5bc]), (0xfb3a, [0x5da, 0x5bc]),
  (0xfb3b, [0x5db, 0x5bc]), (0xfb3c, [0x5dc, 0x5bc]), (0xfb3e, [0x5de, 0x5bc]),
  (0xfb40, [0x5e0, 0x5bc]), (0xfb41, [0x5e1, 0x5bc]), (0xfb43, [0x5e3, 0x5bc]),
  (0xfb44, [0x5e4, 0x5bc]), (0xfb46, [0x5e6, 0x5bc]), (0xfb47, [0x5e7, 0x5bc]),
  (0xfb48, [0x5e8, 0x5bc]), (0xfb49, [0x5e9, 0x5bc]), (0xfb4a, [0x5ea, 0x5bc]),
  (0xfb4b, [0x5d5, 0x5b9]), (0xfb4c, [0x5d1, 0x5bf]), (0xfb4d, [0x5db, 0x5bf]),
  (0xfb4e, [0x5e4, 0x5bf]), (0xfb4f, [0x5d0, 0x5dc]), (0xfbdd, [0x6c7, 0x674]),
  (0xfbea, [0x626, 0x627]), (0xfbeb, [0x626, 0x627]), (0xfbec, [0x626, 0x6d5]),
  (0xfbed, [0x626, 0x6d5]), (0xfbee, [0x626, 0x648]), (0xfbef, [0x626, 0x648]),
  (0xfbf0, [0x626, 0x6c7]), (0xfbf1, [0x626, 0x6c7]), (0xfbf2, [0x626, 0x6c6]),
  (0xfbf3, [0x626, 0x6c6]), (0xfbf4, [0x626, 0x6c8]), (0xfbf5, [0x626, 0x6c8]),
  (0xfbf6, [0x626, 0x6d0]), (0xfbf7, [0x626, 0x6d0]), (0xfbf8, [0x626, 0x6d0]),
  (0xfbf9, [0x626, 0x649]), (0xfbfa, [0x626, 0x649]), (0xfbfb, [0x626, 0x649])]

/-- The ligatures of Arabic, and characters behind them that stand for several others. -/
def highTexts : List (Nat × List Nat) := [
  (0xfc00, [0x626, 0x62c]), (0xfc01, [0x626, 0x62d]), (0xfc02, [0x626, 0x645]),
  (0xfc03, [0x626, 0x649]), (0xfc04, [0x626, 0x64a]), (0xfc05, [0x628, 0x62c]),
  (0xfc06, [0x628, 0x62d]), (0xfc07, [0x628, 0x62e]), (0xfc08, [0x628, 0x645]),
  (0xfc09, [0x628, 0x649]), (0xfc0a, [0x628, 0x64a]), (0xfc0b, [0x62a, 0x62c]),
  (0xfc0c, [0x62a, 0x62d]), (0xfc0d, [0x62a, 0x62e]), (0xfc0e, [0x62a, 0x645]),
  (0xfc0f, [0x62a, 0x649]), (0xfc10, [0x62a, 0x64a]), (0xfc11, [0x62b, 0x62c]),
  (0xfc12, [0x62b, 0x645]), (0xfc13, [0x62b, 0x649]), (0xfc14, [0x62b, 0x64a]),
  (0xfc15, [0x62c, 0x62d]), (0xfc16, [0x62c, 0x645]), (0xfc17, [0x62d, 0x62c]),
  (0xfc18, [0x62d, 0x645]), (0xfc19, [0x62e, 0x62c]), (0xfc1a, [0x62e, 0x62d]),
  (0xfc1b, [0x62e, 0x645]), (0xfc1c, [0x633, 0x62c]), (0xfc1d, [0x633, 0x62d]),
  (0xfc1e, [0x633, 0x62e]), (0xfc1f, [0x633, 0x645]), (0xfc20, [0x635, 0x62d]),
  (0xfc21, [0x635, 0x645]), (0xfc22, [0x636, 0x62c]), (0xfc23, [0x636, 0x62d]),
  (0xfc24, [0x636, 0x62e]), (0xfc25, [0x636, 0x645]), (0xfc26, [0x637, 0x62d]),
  (0xfc27, [0x637, 0x645]), (0xfc28, [0x638, 0x645]), (0xfc29, [0x639, 0x62c]),
  (0xfc2a, [0x639, 0x645]), (0xfc2b, [0x63a, 0x62c]), (0xfc2c, [0x63a, 0x645]),
  (0xfc2d, [0x641, 0x62c]), (0xfc2e, [0x641, 0x62d]), (0xfc2f, [0x641, 0x62e]),
  (0xfc30, [0x641, 0x645]), (0xfc31, [0x641, 0x649]), (0xfc32, [0x641, 0x64a]),
  (0xfc33, [0x642, 0x62d]), (0xfc34, [0x642, 0x645]), (0xfc35, [0x642, 0x649]),
  (0xfc36, [0x642, 0x64a]), (0xfc37, [0x643, 0x627]), (0xfc38, [0x643, 0x62c]),
  (0xfc39, [0x643, 0x62d]), (0xfc3a, [0x643, 0x62e]), (0xfc3b, [0x643, 0x644]),
  (0xfc3c, [0x643, 0x645]), (0xfc3d, [0x643, 0x649]), (0xfc3e, [0x643, 0x64a]),
  (0xfc3f, [0x644, 0x62c]), (0xfc40, [0x644, 0x62d]), (0xfc41, [0x644, 0x62e]),
  (0xfc42, [0x644, 0x645]), (0xfc43, [0x644, 0x649]), (0xfc44, [0x644, 0x64a]),
  (0xfc45, [0x645, 0x62c]), (0xfc46, [0x645, 0x62d]), (0xfc47, [0x645, 0x62e]),
  (0xfc48, [0x645, 0x645]), (0xfc49, [0x645, 0x649]), (0xfc4a, [0x645, 0x64a]),
  (0xfc4b, [0x646, 0x62c]), (0xfc4c, [0x646, 0x62d]), (0xfc4d, [0x646, 0x62e]),
  (0xfc4e, [0x646, 0x645]), (0xfc4f, [0x646, 0x649]), (0xfc50, [0x646, 0x64a]),
  (0xfc51, [0x647, 0x62c]), (0xfc52, [0x647, 0x645]), (0xfc53, [0x647, 0x649]),
  (0xfc54, [0x647, 0x64a]), (0xfc55, [0x64a, 0x62c]), (0xfc56, [0x64a, 0x62d]),
  (0xfc57, [0x64a, 0x62e]), (0xfc58, [0x64a, 0x645]), (0xfc59, [0x64a, 0x649]),
  (0xfc5a, [0x64a, 0x64a]), (0xfc5b, [0x630, 0x670]), (0xfc5c, [0x631, 0x670]),
  (0xfc5d, [0x649, 0x670]), (0xfc5e, [0x20, 0x64c, 0x651]), (0xfc5f, [0x20, 0x64d, 0x651]),
  (0xfc60, [0x20, 0x64e, 0x651]), (0xfc61, [0x20, 0x64f, 0x651]), (0xfc62, [0x20, 0x650, 0x651]),
  (0xfc63, [0x20, 0x651, 0x670]), (0xfc64, [0x626, 0x631]), (0xfc65, [0x626, 0x632]),
  (0xfc66, [0x626, 0x645]), (0xfc67, [0x626, 0x646]), (0xfc68, [0x626, 0x649]),
  (0xfc69, [0x626, 0x64a]), (0xfc6a, [0x628, 0x631]), (0xfc6b, [0x628, 0x632]),
  (0xfc6c, [0x628, 0x645]), (0xfc6d, [0x628, 0x646]), (0xfc6e, [0x628, 0x649]),
  (0xfc6f, [0x628, 0x64a]), (0xfc70, [0x62a, 0x631]), (0xfc71, [0x62a, 0x632]),
  (0xfc72, [0x62a, 0x645]), (0xfc73, [0x62a, 0x646]), (0xfc74, [0x62a, 0x649]),
  (0xfc75, [0x62a, 0x64a]), (0xfc76, [0x62b, 0x631]), (0xfc77, [0x62b, 0x632]),
  (0xfc78, [0x62b, 0x645]), (0xfc79, [0x62b, 0x646]), (0xfc7a, [0x62b, 0x649]),
  (0xfc7b, [0x62b, 0x64a]), (0xfc7c, [0x641, 0x649]), (0xfc7d, [0x641, 0x64a]),
  (0xfc7e, [0x642, 0x649]), (0xfc7f, [0x642, 0x64a]), (0xfc80, [0x643, 0x627]),
  (0xfc81, [0x643, 0x644]), (0xfc82, [0x643, 0x645]), (0xfc83, [0x643, 0x649]),
  (0xfc84, [0x643, 0x64a]), (0xfc85, [0x644, 0x645]), (0xfc86, [0x644, 0x649]),
  (0xfc87, [0x644, 0x64a]), (0xfc88, [0x645, 0x627]), (0xfc89, [0x645, 0x645]),
  (0xfc8a, [0x646, 0x631]), (0xfc8b, [0x646, 0x632]), (0xfc8c, [0x646, 0x645]),
  (0xfc8d, [0x646, 0x646]), (0xfc8e, [0x646, 0x649]), (0xfc8f, [0x646, 0x64a]),
  (0xfc90, [0x649, 0x670]), (0xfc91, [0x64a, 0x631]), (0xfc92, [0x64a, 0x632]),
  (0xfc93, [0x64a, 0x645]), (0xfc94, [0x64a, 0x646]), (0xfc95, [0x64a, 0x649]),
  (0xfc96, [0x64a, 0x64a]), (0xfc97, [0x626, 0x62c]), (0xfc98, [0x626, 0x62d]),
  (0xfc99, [0x626, 0x62e]), (0xfc9a, [0x626, 0x645]), (0xfc9b, [0x626, 0x647]),
  (0xfc9c, [0x628, 0x62c]), (0xfc9d, [0x628, 0x62d]), (0xfc9e, [0x628, 0x62e]),
  (0xfc9f, [0x628, 0x645]), (0xfca0, [0x628, 0x647]), (0xfca1, [0x62a, 0x62c]),
  (0xfca2, [0x62a, 0x62d]), (0xfca3, [0x62a, 0x62e]), (0xfca4, [0x62a, 0x645]),
  (0xfca5, [0x62a, 0x647]), (0xfca6, [0x62b, 0x645]), (0xfca7, [0x62c, 0x62d]),
  (0xfca8, [0x62c, 0x645]), (0xfca9, [0x62d, 0x62c]), (0xfcaa, [0x62d, 0x645]),
  (0xfcab, [0x62e, 0x62c]), (0xfcac, [0x62e, 0x645]), (0xfcad, [0x633, 0x62c]),
  (0xfcae, [0x633, 0x62d]), (0xfcaf, [0x633, 0x62e]), (0xfcb0, [0x633, 0x645]),
  (0xfcb1, [0x635, 0x62d]), (0xfcb2, [0x635, 0x62e]), (0xfcb3, [0x635, 0x645]),
  (0xfcb4, [0x636, 0x62c]), (0xfcb5, [0x636, 0x62d]), (0xfcb6, [0x636, 0x62e]),
  (0xfcb7, [0x636, 0x645]), (0xfcb8, [0x637, 0x62d]), (0xfcb9, [0x638, 0x645]),
  (0xfcba, [0x639, 0x62c]), (0xfcbb, [0x639, 0x645]), (0xfcbc, [0x63a, 0x62c]),
  (0xfcbd, [0x63a, 0x645]), (0xfcbe, [0x641, 0x62c]), (0xfcbf, [0x641, 0x62d]),
  (0xfcc0, [0x641, 0x62e]), (0xfcc1, [0x641, 0x645]), (0xfcc2, [0x642, 0x62d]),
  (0xfcc3, [0x642, 0x645]), (0xfcc4, [0x643, 0x62c]), (0xfcc5, [0x643, 0x62d]),
  (0xfcc6, [0x643, 0x62e]), (0xfcc7, [0x643, 0x644]), (0xfcc8, [0x643, 0x645]),
  (0xfcc9, [0x644, 0x62c]), (0xfcca, [0x644, 0x62d]), (0xfccb, [0x644, 0x62e]),
  (0xfccc, [0x644, 0x645]), (0xfccd, [0x644, 0x647]), (0xfcce, [0x645, 0x62c]),
  (0xfccf, [0x645, 0x62d]), (0xfcd0, [0x645, 0x62e]), (0xfcd1, [0x645, 0x645]),
  (0xfcd2, [0x646, 0x62c]), (0xfcd3, [0x646, 0x62d]), (0xfcd4, [0x646, 0x62e]),
  (0xfcd5, [0x646, 0x645]), (0xfcd6, [0x646, 0x647]), (0xfcd7, [0x647, 0x62c]),
  (0xfcd8, [0x647, 0x645]), (0xfcd9, [0x647, 0x670]), (0xfcda, [0x64a, 0x62c]),
  (0xfcdb, [0x64a, 0x62d]), (0xfcdc, [0x64a, 0x62e]), (0xfcdd, [0x64a, 0x645]),
  (0xfcde, [0x64a, 0x647]), (0xfcdf, [0x626, 0x645]), (0xfce0, [0x626, 0x647]),
  (0xfce1, [0x628, 0x645]), (0xfce2, [0x628, 0x647]), (0xfce3, [0x62a, 0x645]),
  (0xfce4, [0x62a, 0x647]), (0xfce5, [0x62b, 0x645]), (0xfce6, [0x62b, 0x647]),
  (0xfce7, [0x633, 0x645]), (0xfce8, [0x633, 0x647]), (0xfce9, [0x634, 0x645]),
  (0xfcea, [0x634, 0x647]), (0xfceb, [0x643, 0x644]), (0xfcec, [0x643, 0x645]),
  (0xfced, [0x644, 0x645]), (0xfcee, [0x646, 0x645]), (0xfcef, [0x646, 0x647]),
  (0xfcf0, [0x64a, 0x645]), (0xfcf1, [0x64a, 0x647]), (0xfcf2, [0x640, 0x64e, 0x651]),
  (0xfcf3, [0x640, 0x64f, 0x651]), (0xfcf4, [0x640, 0x650, 0x651]), (0xfcf5, [0x637, 0x649]),
  (0xfcf6, [0x637, 0x64a]), (0xfcf7, [0x639, 0x649]), (0xfcf8, [0x639, 0x64a]),
  (0xfcf9, [0x63a, 0x649]), (0xfcfa, [0x63a, 0x64a]), (0xfcfb, [0x633, 0x649]),
  (0xfcfc, [0x633, 0x64a]), (0xfcfd, [0x634, 0x649]), (0xfcfe, [0x634, 0x64a]),
  (0xfcff, [0x62d, 0x649]), (0xfd00, [0x62d, 0x64a]), (0xfd01, [0x62c, 0x649]),
  (0xfd02, [0x62c, 0x64a]), (0xfd03, [0x62e, 0x649]), (0xfd04, [0x62e, 0x64a]),
  (0xfd05, [0x635, 0x649]), (0xfd06, [0x635, 0x64a]), (0xfd07, [0x636, 0x649]),
  (0xfd08, [0x636, 0x64a]), (0xfd09, [0x634, 0x62c]), (0xfd0a, [0x634, 0x62d]),
  (0xfd0b, [0x634, 0x62e]), (0xfd0c, [0x634, 0x645]), (0xfd0d, [0x634, 0x631]),
  (0xfd0e, [0x633, 0x631]), (0xfd0f, [0x635, 0x631]), (0xfd10, [0x636, 0x631]),
  (0xfd11, [0x637, 0x649]), (0xfd12, [0x637, 0x64a]), (0xfd13, [0x639, 0x649]),
  (0xfd14, [0x639, 0x64a]), (0xfd15, [0x63a, 0x649]), (0xfd16, [0x63a, 0x64a]),
  (0xfd17, [0x633, 0x649]), (0xfd18, [0x633, 0x64a]), (0xfd19, [0x634, 0x649]),
  (0xfd1a, [0x634, 0x64a]), (0xfd1b, [0x62d, 0x649]), (0xfd1c, [0x62d, 0x64a]),
  (0xfd1d, [0x62c, 0x649]), (0xfd1e, [0x62c, 0x64a]), (0xfd1f, [0x62e, 0x649]),
  (0xfd20, [0x62e, 0x64a]), (0xfd21, [0x635, 0x649]), (0xfd22, [0x635, 0x64a]),
  (0xfd23, [0x636, 0x649]), (0xfd24, [0x636, 0x64a]), (0xfd25, [0x634, 0x62c]),
  (0xfd26, [0x634, 0x62d]), (0xfd27, [0x634, 0x62e]), (0xfd28, [0x634, 0x645]),
  (0xfd29, [0x634, 0x631]), (0xfd2a, [0x633, 0x631]), (0xfd2b, [0x635, 0x631]),
  (0xfd2c, [0x636, 0x631]), (0xfd2d, [0x634, 0x62c]), (0xfd2e, [0x634, 0x62d]),
  (0xfd2f, [0x634, 0x62e]), (0xfd30, [0x634, 0x645]), (0xfd31, [0x633, 0x647]),
  (0xfd32, [0x634, 0x647]), (0xfd33, [0x637, 0x645]), (0xfd34, [0x633, 0x62c]),
  (0xfd35, [0x633, 0x62d]), (0xfd36, [0x633, 0x62e]), (0xfd37, [0x634, 0x62c]),
  (0xfd38, [0x634, 0x62d]), (0xfd39, [0x634, 0x62e]), (0xfd3a, [0x637, 0x645]),
  (0xfd3b, [0x638, 0x645]), (0xfd3c, [0x627, 0x64b]), (0xfd3d, [0x627, 0x64b]),
  (0xfd50, [0x62a, 0x62c, 0x645]), (0xfd51, [0x62a, 0x62d, 0x62c]), (0xfd52, [0x62a, 0x62d, 0x62c]),
  (0xfd53, [0x62a, 0x62d, 0x645]), (0xfd54, [0x62a, 0x62e, 0x645]), (0xfd55, [0x62a, 0x645, 0x62c]),
  (0xfd56, [0x62a, 0x645, 0x62d]), (0xfd57, [0x62a, 0x645, 0x62e]), (0xfd58, [0x62c, 0x645, 0x62d]),
  (0xfd59, [0x62c, 0x645, 0x62d]), (0xfd5a, [0x62d, 0x645, 0x64a]), (0xfd5b, [0x62d, 0x645, 0x649]),
  (0xfd5c, [0x633, 0x62d, 0x62c]), (0xfd5d, [0x633, 0x62c, 0x62d]), (0xfd5e, [0x633, 0x62c, 0x649]),
  (0xfd5f, [0x633, 0x645, 0x62d]), (0xfd60, [0x633, 0x645, 0x62d]), (0xfd61, [0x633, 0x645, 0x62c]),
  (0xfd62, [0x633, 0x645, 0x645]), (0xfd63, [0x633, 0x645, 0x645]), (0xfd64, [0x635, 0x62d, 0x62d]),
  (0xfd65, [0x635, 0x62d, 0x62d]), (0xfd66, [0x635, 0x645, 0x645]), (0xfd67, [0x634, 0x62d, 0x645]),
  (0xfd68, [0x634, 0x62d, 0x645]), (0xfd69, [0x634, 0x62c, 0x64a]), (0xfd6a, [0x634, 0x645, 0x62e]),
  (0xfd6b, [0x634, 0x645, 0x62e]), (0xfd6c, [0x634, 0x645, 0x645]), (0xfd6d, [0x634, 0x645, 0x645]),
  (0xfd6e, [0x636, 0x62d, 0x649]), (0xfd6f, [0x636, 0x62e, 0x645]), (0xfd70, [0x636, 0x62e, 0x645]),
  (0xfd71, [0x637, 0x645, 0x62d]), (0xfd72, [0x637, 0x645, 0x62d]), (0xfd73, [0x637, 0x645, 0x645]),
  (0xfd74, [0x637, 0x645, 0x64a]), (0xfd75, [0x639, 0x62c, 0x645]), (0xfd76, [0x639, 0x645, 0x645]),
  (0xfd77, [0x639, 0x645, 0x645]), (0xfd78, [0x639, 0x645, 0x649]), (0xfd79, [0x63a, 0x645, 0x645]),
  (0xfd7a, [0x63a, 0x645, 0x64a]), (0xfd7b, [0x63a, 0x645, 0x649]), (0xfd7c, [0x641, 0x62e, 0x645]),
  (0xfd7d, [0x641, 0x62e, 0x645]), (0xfd7e, [0x642, 0x645, 0x62d]), (0xfd7f, [0x642, 0x645, 0x645]),
  (0xfd80, [0x644, 0x62d, 0x645]), (0xfd81, [0x644, 0x62d, 0x64a]), (0xfd82, [0x644, 0x62d, 0x649]),
  (0xfd83, [0x644, 0x62c, 0x62c]), (0xfd84, [0x644, 0x62c, 0x62c]), (0xfd85, [0x644, 0x62e, 0x645]),
  (0xfd86, [0x644, 0x62e, 0x645]), (0xfd87, [0x644, 0x645, 0x62d]), (0xfd88, [0x644, 0x645, 0x62d]),
  (0xfd89, [0x645, 0x62d, 0x62c]), (0xfd8a, [0x645, 0x62d, 0x645]), (0xfd8b, [0x645, 0x62d, 0x64a]),
  (0xfd8c, [0x645, 0x62c, 0x62d]), (0xfd8d, [0x645, 0x62c, 0x645]), (0xfd8e, [0x645, 0x62e, 0x62c]),
  (0xfd8f, [0x645, 0x62e, 0x645]), (0xfd92, [0x645, 0x62c, 0x62e]), (0xfd93, [0x647, 0x645, 0x62c]),
  (0xfd94, [0x647, 0x645, 0x645]), (0xfd95, [0x646, 0x62d, 0x645]), (0xfd96, [0x646, 0x62d, 0x649]),
  (0xfd97, [0x646, 0x62c, 0x645]), (0xfd98, [0x646, 0x62c, 0x645]), (0xfd99, [0x646, 0x62c, 0x649]),
  (0xfd9a, [0x646, 0x645, 0x64a]), (0xfd9b, [0x646, 0x645, 0x649]), (0xfd9c, [0x64a, 0x645, 0x645]),
  (0xfd9d, [0x64a, 0x645, 0x645]), (0xfd9e, [0x628, 0x62e, 0x64a]), (0xfd9f, [0x62a, 0x62c, 0x64a]),
  (0xfda0, [0x62a, 0x62c, 0x649]), (0xfda1, [0x62a, 0x62e, 0x64a]), (0xfda2, [0x62a, 0x62e, 0x649]),
  (0xfda3, [0x62a, 0x645, 0x64a]), (0xfda4, [0x62a, 0x645, 0x649]), (0xfda5, [0x62c, 0x645, 0x64a]),
  (0xfda6, [0x62c, 0x62d, 0x649]), (0xfda7, [0x62c, 0x645, 0x649]), (0xfda8, [0x633, 0x62e, 0x649]),
  (0xfda9, [0x635, 0x62d, 0x64a]), (0xfdaa, [0x634, 0x62d, 0x64a]), (0xfdab, [0x636, 0x62d, 0x64a]),
  (0xfdac, [0x644, 0x62c, 0x64a]), (0xfdad, [0x644, 0x645, 0x64a]), (0xfdae, [0x64a, 0x62d, 0x64a]),
  (0xfdaf, [0x64a, 0x62c, 0x64a]), (0xfdb0, [0x64a, 0x645, 0x64a]), (0xfdb1, [0x645, 0x645, 0x64a]),
  (0xfdb2, [0x642, 0x645, 0x64a]), (0xfdb3, [0x646, 0x62d, 0x64a]), (0xfdb4, [0x642, 0x645, 0x62d]),
  (0xfdb5, [0x644, 0x62d, 0x645]), (0xfdb6, [0x639, 0x645, 0x64a]), (0xfdb7, [0x643, 0x645, 0x64a]),
  (0xfdb8, [0x646, 0x62c, 0x62d]), (0xfdb9, [0x645, 0x62e, 0x64a]), (0xfdba, [0x644, 0x62c, 0x645]),
  (0xfdbb, [0x643, 0x645, 0x645]), (0xfdbc, [0x644, 0x62c, 0x645]), (0xfdbd, [0x646, 0x62c, 0x62d]),
  (0xfdbe, [0x62c, 0x62d, 0x64a]), (0xfdbf, [0x62d, 0x62c, 0x64a]), (0xfdc0, [0x645, 0x62c, 0x64a]),
  (0xfdc1, [0x641, 0x645, 0x64a]), (0xfdc2, [0x628, 0x62d, 0x64a]), (0xfdc3, [0x643, 0x645, 0x645]),
  (0xfdc4, [0x639, 0x62c, 0x645]), (0xfdc5, [0x635, 0x645, 0x645]), (0xfdc6, [0x633, 0x62e, 0x64a]),
  (0xfdc7, [0x646, 0x62c, 0x64a]), (0xfdf0, [0x635, 0x644, 0x6d2]), (0xfdf1, [0x642, 0x644, 0x6d2]),
  (0xfdf2, [0x627, 0x644, 0x644, 0x647]), (0xfdf3, [0x627, 0x643, 0x628, 0x631]),
  (0xfdf4, [0x645, 0x62d, 0x645, 0x62f]), (0xfdf5, [0x635, 0x644, 0x639, 0x645]),
  (0xfdf6, [0x631, 0x633, 0x648, 0x644]), (0xfdf7, [0x639, 0x644, 0x64a, 0x647]),
  (0xfdf8, [0x648, 0x633, 0x644, 0x645]), (0xfdf9, [0x635, 0x644, 0x649]),
  (0xfdfa, [0x635, 0x644, 0x649, 0x20, 0x627, 0x644, 0x644, 0x647, 0x20, 0x639, 0x644, 0x64a,
    0x647, 0x20, 0x648, 0x633, 0x644, 0x645]),
  (0xfdfb, [0x62c, 0x644, 0x20, 0x62c, 0x644, 0x627, 0x644, 0x647]),
  (0xfdfc, [0x631, 0x6cc, 0x627, 0x644]), (0xfe49, [0x20, 0x305]), (0xfe4a, [0x20, 0x305]),
  (0xfe4b, [0x20, 0x305]), (0xfe4c, [0x20, 0x305]), (0xfe70, [0x20, 0x64b]),
  (0xfe71, [0x640, 0x64b]), (0xfe72, [0x20, 0x64c]), (0xfe74, [0x20, 0x64d]),
  (0xfe76, [0x20, 0x64e]), (0xfe77, [0x640, 0x64e]), (0xfe78, [0x20, 0x64f]),
  (0xfe79, [0x640, 0x64f]), (0xfe7a, [0x20, 0x650]), (0xfe7b, [0x640, 0x650]),
  (0xfe7c, [0x20, 0x651]), (0xfe7d, [0x640, 0x651]), (0xfe7e, [0x20, 0x652]),
  (0xfe7f, [0x640, 0x652]), (0xfef5, [0x644, 0x622]), (0xfef6, [0x644, 0x622]),
  (0xfef7, [0x644, 0x623]), (0xfef8, [0x644, 0x623]), (0xfef9, [0x644, 0x625]),
  (0xfefa, [0x644, 0x625]), (0xfefb, [0x644, 0x627]), (0xfefc, [0x644, 0x627]),
  (0xffe3, [0x20, 0x304]), (0x1d15e, [0x1d157, 0x1d165]), (0x1d15f, [0x1d158, 0x1d165]),
  (0x1d160, [0x1d158, 0x1d165, 0x1d16e]), (0x1d161, [0x1d158, 0x1d165, 0x1d16f]),
  (0x1d162, [0x1d158, 0x1d165, 0x1d170]), (0x1d163, [0x1d158, 0x1d165, 0x1d171]),
  (0x1d164, [0x1d158, 0x1d165, 0x1d172]), (0x1d1bb, [0x1d1b9, 0x1d165]),
  (0x1d1bc, [0x1d1ba, 0x1d165]), (0x1d1bd, [0x1d1b9, 0x1d165, 0x1d16e]),
  (0x1d1be, [0x1d1ba, 0x1d165, 0x1d16e]), (0x1d1bf, [0x1d1b9, 0x1d165, 0x1d16f]),
  (0x1d1c0, [0x1d1ba, 0x1d165, 0x1d16f]), (0x1f101, [0x30, 0x2c]), (0x1f102, [0x31, 0x2c]),
  (0x1f103, [0x32, 0x2c]), (0x1f104, [0x33, 0x2c]), (0x1f105, [0x34, 0x2c]),
  (0x1f106, [0x35, 0x2c]), (0x1f107, [0x36, 0x2c]), (0x1f108, [0x37, 0x2c]),
  (0x1f109, [0x38, 0x2c]), (0x1f10a, [0x39, 0x2c]), (0x1f110, [0x28, 0x61, 0x29]),
  (0x1f111, [0x28, 0x62, 0x29]), (0x1f112, [0x28, 0x63, 0x29]), (0x1f113, [0x28, 0x64, 0x29]),
  (0x1f114, [0x28, 0x65, 0x29]), (0x1f115, [0x28, 0x66, 0x29]), (0x1f116, [0x28, 0x67, 0x29]),
  (0x1f117, [0x28, 0x68, 0x29]), (0x1f118, [0x28, 0x69, 0x29]), (0x1f119, [0x28, 0x6a, 0x29]),
  (0x1f11a, [0x28, 0x6b, 0x29]), (0x1f11b, [0x28, 0x6c, 0x29]), (0x1f11c, [0x28, 0x6d, 0x29]),
  (0x1f11d, [0x28, 0x6e, 0x29]), (0x1f11e, [0x28, 0x6f, 0x29]), (0x1f11f, [0x28, 0x70, 0x29]),
  (0x1f120, [0x28, 0x71, 0x29]), (0x1f121, [0x28, 0x72, 0x29]), (0x1f122, [0x28, 0x73, 0x29]),
  (0x1f123, [0x28, 0x74, 0x29]), (0x1f124, [0x28, 0x75, 0x29]), (0x1f125, [0x28, 0x76, 0x29]),
  (0x1f126, [0x28, 0x77, 0x29]), (0x1f127, [0x28, 0x78, 0x29]), (0x1f128, [0x28, 0x79, 0x29]),
  (0x1f129, [0x28, 0x7a, 0x29]), (0x1f12a, [0x3014, 0x73, 0x3015]), (0x1f12d, [0x63, 0x64]),
  (0x1f12e, [0x77, 0x7a]), (0x1f14a, [0x68, 0x76]), (0x1f14b, [0x6d, 0x76]),
  (0x1f14c, [0x73, 0x64]), (0x1f14d, [0x73, 0x73]), (0x1f14e, [0x70, 0x70, 0x76]),
  (0x1f14f, [0x77, 0x63]), (0x1f16a, [0x6d, 0x63]), (0x1f16b, [0x6d, 0x64]),
  (0x1f16c, [0x6d, 0x72]), (0x1f190, [0x64, 0x6a]), (0x1f200, [0x307b, 0x304b]),
  (0x1f201, [0x30b3, 0x30b3]), (0x1f240, [0x3014, 0x672c, 0x3015]),
  (0x1f241, [0x3014, 0x4e09, 0x3015]), (0x1f242, [0x3014, 0x4e8c, 0x3015]),
  (0x1f243, [0x3014, 0x5b89, 0x3015]), (0x1f244, [0x3014, 0x70b9, 0x3015]),
  (0x1f245, [0x3014, 0x6253, 0x3015]), (0x1f246, [0x3014, 0x76d7, 0x3015]),
  (0x1f247, [0x3014, 0x52dd, 0x3015]), (0x1f248, [0x3014, 0x6557, 0x3015])]

/-- Characters that are left out. -/
def ignoredRanges : Array (Nat × Nat) := #[
  (0xad, 0xad), (0x34f, 0x34f), (0x115f, 0x1160), (0x17b4, 0x17b5), (0x180b, 0x180f),
  (0x200b, 0x200b), (0x2060, 0x2064), (0x206a, 0x206f), (0x3164, 0x3164), (0xfe00, 0xfe0f),
  (0xfeff, 0xfeff), (0xffa0, 0xffa0), (0x1bca0, 0x1bca3), (0x1d173, 0x1d17a), (0xe0100, 0xe01ef)]

/-- Printable characters that no domain has: those that could be mistaken for its structure, and
those that describe other characters. -/
def refusedRanges : Array (Nat × Nat) := #[
  (0x2024, 0x2026), (0x2488, 0x249b), (0x2ff0, 0x2fff), (0x31ef, 0x31ef), (0x33c2, 0x33c2),
  (0x33c7, 0x33c7), (0x33d8, 0x33d8), (0xfe12, 0xfe12), (0xfe19, 0xfe19), (0xfe30, 0xfe30),
  (0xfe52, 0xfe52), (0xfffc, 0xfffd), (0x1f100, 0x1f100)]

/-- Characters that domains have although diagnostics do not show them: the joiners, and those that
are new. -/
def admittedRanges : Array (Nat × Nat) := #[
  (0xb53, 0xb54), (0x200c, 0x200d), (0x20c2, 0x20c3), (0x12550, 0x12686), (0x16d80, 0x16d9d),
  (0x16da0, 0x16da9), (0x18e00, 0x19191), (0x191a0, 0x191d2), (0x3d000, 0x3fc3f)]

/-- The last run that starts at or below `code`, between the positions `lo` and `hi`. -/
def findRun (runs : Array (Nat × Nat × Nat × Nat)) (code lo hi : Nat) :
    Option (Nat × Nat × Nat × Nat) :=
  if lo + 1 < hi then
    let mid := (lo + hi) / 2
    match runs[mid]? with
    | none => none
    | some run => if code < run.1 then findRun runs code lo mid else findRun runs code mid hi
  else runs[lo]?
termination_by hi - lo

/-- The ideograph that a code point stands for, if it does. -/
def ideograph? (code : Nat) : Option Char :=
  ideographRows.findSome? fun (first, ideographs) =>
    if first ≤ code then ideographs.toList[code - first]? else none

/-- The code point that another one stands for by a run, if it does. -/
def foldByRun? (code : Nat) : Option Nat :=
  let runs := if code < 0x10000 then basicRuns else highRuns
  match findRun runs code 0 runs.size with
  | none => none
  | some (first, last, step, target) =>
    if code < first || last < code then none
    else if step == 0 then some target
    else if (code - first) % step == 0 then some (target + (code - first))
    else none

/-- The characters that `c` stands for in place of itself, if it does. -/
def variantOf? (c : Char) : Option (List Char) :=
  let code := c.toNat
  if Text.inRanges ignoredRanges code then some []
  else
    match (if code < 0xFC00 then lowTexts else highTexts).lookup code with
    | some codes => some (codes.map Char.ofNat)
    | none =>
      match ideograph? code with
      | some ideograph => some [ideograph]
      | none => (foldByRun? code).map fun target => [Char.ofNat target]

/-- Whether no domain has `c`. -/
def isRefused (c : Char) : Bool :=
  Text.inRanges refusedRanges c.toNat
    || (Text.isUnprintable c && !Text.inRanges admittedRanges c.toNat)

/-- The characters that `c` stands for in a domain, unless no domain has it. In ASCII only the case
is dropped. -/
def foldVariant? (c : Char) : Option (List Char) :=
  if c.toNat < 128 then some [c.toLower]
  else
    match variantOf? c with
    | some variant => some variant
    | none => if isRefused c then none else some [c]

end Inbound.Url
