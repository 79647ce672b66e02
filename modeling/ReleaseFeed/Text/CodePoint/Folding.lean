/-!
Code points that count as a single other one where case and width do not matter. A range may hold
code points that are refused.
-/
namespace ReleaseFeed.Text

/-- The first and the last of code points in steps of the third number, and what the first counts
as; what the others count as follows it in the same steps. -/
def shifted : List (Nat × Nat × Nat × Nat) :=
  [(0xB2, 0xB3, 1, 0x32), (0xC0, 0xD6, 1, 0xE0), (0xD8, 0xDE, 1, 0xF8), (0x100, 0x12E, 2, 0x101),
    (0x134, 0x136, 2, 0x135), (0x139, 0x13D, 2, 0x13A), (0x141, 0x147, 2, 0x142),
    (0x14A, 0x176, 2, 0x14B), (0x179, 0x17D, 2, 0x17A), (0x182, 0x184, 2, 0x183),
    (0x189, 0x18A, 1, 0x256), (0x1A0, 0x1A4, 2, 0x1A1), (0x1B1, 0x1B2, 1, 0x28A),
    (0x1B3, 0x1B5, 2, 0x1B4), (0x1CD, 0x1DB, 2, 0x1CE), (0x1DE, 0x1EE, 2, 0x1DF),
    (0x1F8, 0x21E, 2, 0x1F9), (0x222, 0x232, 2, 0x223), (0x246, 0x24E, 2, 0x247),
    (0x2B0, 0x2B2, 2, 0x68), (0x340, 0x341, 1, 0x300), (0x370, 0x372, 2, 0x371),
    (0x388, 0x38A, 1, 0x3AD), (0x38E, 0x38F, 1, 0x3CD), (0x391, 0x3AB, 1, 0x3B1),
    (0x3D8, 0x3EE, 2, 0x3D9), (0x3F1, 0x3F2, 1, 0x3C1), (0x3FD, 0x3FF, 1, 0x37B),
    (0x400, 0x40F, 1, 0x450), (0x410, 0x42F, 1, 0x430), (0x460, 0x480, 2, 0x461),
    (0x48A, 0x4BE, 2, 0x48B), (0x4C1, 0x4CD, 2, 0x4C2), (0x4D0, 0x52E, 2, 0x4D1),
    (0x531, 0x556, 1, 0x561), (0x10A0, 0x10CD, 1, 0x2D00), (0x13F8, 0x13FD, 1, 0x13F0),
    (0x1C83, 0x1C84, 1, 0x441), (0x1C90, 0x1CBF, 1, 0x10D0), (0x1D2E, 0x1D30, 2, 0x62),
    (0x1D31, 0x1D39, 2, 0x65), (0x1D34, 0x1D3A, 2, 0x68), (0x1D40, 0x1D41, 1, 0x74),
    (0x1D44, 0x1D45, 1, 0x250), (0x1D48, 0x1D49, 1, 0x64), (0x1D4B, 0x1D4C, 1, 0x25B),
    (0x1D50, 0x1D52, 2, 0x6D), (0x1D54, 0x1D55, 1, 0x1D16), (0x1D57, 0x1D58, 1, 0x74),
    (0x1D5D, 0x1D5F, 1, 0x3B2), (0x1D60, 0x1D61, 1, 0x3C6), (0x1D64, 0x1D65, 1, 0x75),
    (0x1D66, 0x1D67, 1, 0x3B2), (0x1D69, 0x1D6A, 1, 0x3C6), (0x1DA4, 0x1DA6, 1, 0x268),
    (0x1DAE, 0x1DB1, 1, 0x272), (0x1DB3, 0x1DB4, 1, 0x282), (0x1DB6, 0x1DB7, 1, 0x289),
    (0x1DB9, 0x1DBA, 1, 0x28B), (0x1DBC, 0x1DBE, 1, 0x290), (0x1E00, 0x1E94, 2, 0x1E01),
    (0x1EA0, 0x1EFE, 2, 0x1EA1), (0x1F08, 0x1F0F, 1, 0x1F00), (0x1F18, 0x1F1D, 1, 0x1F10),
    (0x1F28, 0x1F2F, 1, 0x1F20), (0x1F38, 0x1F3F, 1, 0x1F30), (0x1F48, 0x1F4D, 1, 0x1F40),
    (0x1F59, 0x1F5F, 1, 0x1F51), (0x1F68, 0x1F6F, 1, 0x1F60), (0x1FB8, 0x1FB9, 1, 0x1FB0),
    (0x1FC8, 0x1FCA, 2, 0x1F72), (0x1FD8, 0x1FD9, 1, 0x1FD0), (0x1FE8, 0x1FE9, 1, 0x1FE0),
    (0x1FF9, 0x1FFB, 2, 0x3CC), (0x2070, 0x2078, 2, 0x30), (0x2075, 0x2079, 2, 0x35),
    (0x207D, 0x207E, 1, 0x28), (0x2080, 0x2089, 1, 0x30), (0x208D, 0x208E, 1, 0x28),
    (0x2096, 0x2099, 1, 0x6B), (0x209B, 0x209C, 1, 0x73), (0x210A, 0x210B, 1, 0x67),
    (0x2119, 0x211B, 1, 0x70), (0x212C, 0x212D, 1, 0x62), (0x2135, 0x2138, 1, 0x5D0),
    (0x2148, 0x2149, 1, 0x69), (0x216D, 0x216E, 1, 0x63), (0x217D, 0x217E, 1, 0x63),
    (0x2329, 0x232A, 1, 0x3008), (0x2460, 0x2468, 1, 0x31), (0x24B6, 0x24CF, 1, 0x61),
    (0x24D0, 0x24E9, 1, 0x61), (0x2C00, 0x2C2F, 1, 0x2C30), (0x2C67, 0x2C6B, 2, 0x2C68),
    (0x2C7E, 0x2C7F, 1, 0x23F), (0x2C80, 0x2CE2, 2, 0x2C81), (0x2CEB, 0x2CED, 2, 0x2CEC),
    (0x3039, 0x303A, 1, 0x5344), (0x3131, 0x3132, 1, 0x1100), (0x3133, 0x3135, 2, 0x11AA),
    (0x3137, 0x3139, 1, 0x1103), (0x313A, 0x313F, 1, 0x11B0), (0x3141, 0x3143, 1, 0x1106),
    (0x3145, 0x314E, 1, 0x1109), (0x314F, 0x3163, 1, 0x1161), (0x3165, 0x3166, 1, 0x1114),
    (0x3167, 0x3168, 1, 0x11C7), (0x3171, 0x3172, 1, 0x111D), (0x3174, 0x3175, 1, 0x1122),
    (0x3178, 0x317C, 1, 0x112B), (0x3182, 0x3183, 1, 0x11F1), (0x3184, 0x3186, 1, 0x1157),
    (0x3187, 0x3188, 1, 0x1184), (0x318A, 0x318B, 1, 0x1191), (0x3261, 0x3262, 1, 0x1102),
    (0x3263, 0x3265, 1, 0x1105), (0x3267, 0x3268, 1, 0x110B), (0x3269, 0x326D, 1, 0x110E),
    (0x32D4, 0x32D5, 1, 0x30AA), (0x32E4, 0x32E9, 1, 0x30CA), (0x32EE, 0x32F2, 1, 0x30DE),
    (0x32F5, 0x32FA, 1, 0x30E8), (0x32FB, 0x32FE, 1, 0x30EF), (0xA640, 0xA66C, 2, 0xA641),
    (0xA680, 0xA69A, 2, 0xA681), (0xA722, 0xA72E, 2, 0xA723), (0xA732, 0xA76E, 2, 0xA733),
    (0xA779, 0xA77B, 2, 0xA77A), (0xA77E, 0xA786, 2, 0xA77F), (0xA790, 0xA792, 2, 0xA791),
    (0xA796, 0xA7A8, 2, 0xA797), (0xA7B4, 0xA7C2, 2, 0xA7B5), (0xA7C7, 0xA7C9, 2, 0xA7C8),
    (0xA7CC, 0xA7DA, 2, 0xA7CD), (0xAB70, 0xABBF, 1, 0x13A0), (0xFB22, 0xFB23, 1, 0x5D3),
    (0xFB24, 0xFB26, 1, 0x5DB), (0xFB84, 0xFB86, 2, 0x68C), (0xFB85, 0xFB87, 2, 0x68C),
    (0xFBD9, 0xFBDB, 2, 0x6C6), (0xFBDA, 0xFBDC, 2, 0x6C6), (0xFE17, 0xFE18, 1, 0x3016),
    (0xFE35, 0xFE36, 1, 0x28), (0xFE39, 0xFE3A, 1, 0x3014), (0xFE3B, 0xFE3C, 1, 0x3010),
    (0xFE3D, 0xFE3E, 1, 0x300A), (0xFE3F, 0xFE40, 1, 0x3008), (0xFE41, 0xFE44, 1, 0x300C),
    (0xFE59, 0xFE5A, 1, 0x28), (0xFE5D, 0xFE5E, 1, 0x3014), (0xFE61, 0xFE62, 1, 0x2A),
    (0xFE80, 0xFE81, 1, 0x621), (0xFE82, 0xFE83, 1, 0x622), (0xFE84, 0xFE85, 1, 0x623),
    (0xFE86, 0xFE87, 1, 0x624), (0xFE88, 0xFE89, 1, 0x625), (0xFF01, 0xFF1D, 2, 0x21),
    (0xFF04, 0xFF0C, 2, 0x24), (0xFF10, 0xFF18, 2, 0x30), (0xFF21, 0xFF3A, 1, 0x61),
    (0xFF3F, 0xFF5E, 1, 0x5F), (0xFF5F, 0xFF60, 1, 0x2985), (0xFF62, 0xFF63, 1, 0x300C),
    (0xFF75, 0xFF76, 1, 0x30AA), (0xFF85, 0xFF8A, 1, 0x30CA), (0xFF8F, 0xFF93, 1, 0x30DE),
    (0xFF96, 0xFF9B, 1, 0x30E8), (0xFF9E, 0xFF9F, 1, 0x3099), (0xFFA1, 0xFFA2, 1, 0x1100),
    (0xFFA3, 0xFFA5, 2, 0x11AA), (0xFFA7, 0xFFA9, 1, 0x1103), (0xFFAA, 0xFFAF, 1, 0x11B0),
    (0xFFB1, 0xFFB3, 1, 0x1106), (0xFFB5, 0xFFBE, 1, 0x1109), (0xFFC2, 0xFFC7, 1, 0x1161),
    (0xFFCA, 0xFFCF, 1, 0x1167), (0xFFD2, 0xFFD7, 1, 0x116D), (0xFFDA, 0xFFDC, 1, 0x1173),
    (0xFFE0, 0xFFE1, 1, 0xA2), (0xFFE9, 0xFFEC, 1, 0x2190), (0x10400, 0x10427, 1, 0x10428),
    (0x104B0, 0x104D3, 1, 0x104D8), (0x10570, 0x10595, 1, 0x10597), (0x10781, 0x10782, 1, 0x2D0),
    (0x10787, 0x10789, 2, 0x2A3), (0x1078B, 0x1078C, 1, 0x256), (0x10799, 0x1079A, 1, 0x2AA),
    (0x107A3, 0x107A4, 1, 0x276), (0x107A8, 0x107A9, 1, 0x27D), (0x107B3, 0x107B4, 1, 0x2A1),
    (0x107B6, 0x107B8, 1, 0x1C0), (0x10C80, 0x10CB2, 1, 0x10CC0), (0x10D50, 0x10D65, 1, 0x10D70),
    (0x118A0, 0x118BF, 1, 0x118C0), (0x16E40, 0x16E5F, 1, 0x16E60), (0x16EA0, 0x16EB8, 1, 0x16EBB),
    (0x1CCD6, 0x1CCEF, 1, 0x61), (0x1CCF0, 0x1CCF9, 1, 0x30), (0x1D400, 0x1D419, 1, 0x61),
    (0x1D41A, 0x1D433, 1, 0x61), (0x1D434, 0x1D44D, 1, 0x61), (0x1D44E, 0x1D467, 1, 0x61),
    (0x1D468, 0x1D481, 1, 0x61), (0x1D482, 0x1D49B, 1, 0x61), (0x1D49C, 0x1D4B5, 1, 0x61),
    (0x1D4B6, 0x1D4CF, 1, 0x61), (0x1D4D0, 0x1D4E9, 1, 0x61), (0x1D4EA, 0x1D503, 1, 0x61),
    (0x1D504, 0x1D51C, 1, 0x61), (0x1D51E, 0x1D537, 1, 0x61), (0x1D538, 0x1D550, 1, 0x61),
    (0x1D552, 0x1D56B, 1, 0x61), (0x1D56C, 0x1D585, 1, 0x61), (0x1D586, 0x1D59F, 1, 0x61),
    (0x1D5A0, 0x1D5B9, 1, 0x61), (0x1D5BA, 0x1D5D3, 1, 0x61), (0x1D5D4, 0x1D5ED, 1, 0x61),
    (0x1D5EE, 0x1D607, 1, 0x61), (0x1D608, 0x1D621, 1, 0x61), (0x1D622, 0x1D63B, 1, 0x61),
    (0x1D63C, 0x1D655, 1, 0x61), (0x1D656, 0x1D66F, 1, 0x61), (0x1D670, 0x1D689, 1, 0x61),
    (0x1D68A, 0x1D6A3, 1, 0x61), (0x1D6A8, 0x1D6B8, 1, 0x3B1), (0x1D6BA, 0x1D6C0, 1, 0x3C3),
    (0x1D6C2, 0x1D6DA, 1, 0x3B1), (0x1D6E2, 0x1D6F2, 1, 0x3B1), (0x1D6F4, 0x1D6FA, 1, 0x3C3),
    (0x1D6FC, 0x1D714, 1, 0x3B1), (0x1D71C, 0x1D72C, 1, 0x3B1), (0x1D72E, 0x1D734, 1, 0x3C3),
    (0x1D736, 0x1D74E, 1, 0x3B1), (0x1D756, 0x1D766, 1, 0x3B1), (0x1D768, 0x1D76E, 1, 0x3C3),
    (0x1D770, 0x1D788, 1, 0x3B1), (0x1D790, 0x1D7A0, 1, 0x3B1), (0x1D7A2, 0x1D7A8, 1, 0x3C3),
    (0x1D7AA, 0x1D7C2, 1, 0x3B1), (0x1D7CE, 0x1D7D7, 1, 0x30), (0x1D7D8, 0x1D7E1, 1, 0x30),
    (0x1D7E2, 0x1D7EB, 1, 0x30), (0x1D7EC, 0x1D7F5, 1, 0x30), (0x1D7F6, 0x1D7FF, 1, 0x30),
    (0x1E030, 0x1E038, 1, 0x430), (0x1E039, 0x1E03B, 1, 0x43A), (0x1E03C, 0x1E046, 1, 0x43E),
    (0x1E048, 0x1E049, 1, 0x44D), (0x1E051, 0x1E059, 1, 0x430), (0x1E05A, 0x1E05B, 1, 0x43A),
    (0x1E05C, 0x1E05D, 1, 0x43E), (0x1E05F, 0x1E064, 1, 0x443), (0x1E065, 0x1E066, 1, 0x44A),
    (0x1E900, 0x1E921, 1, 0x1E922), (0x1EE00, 0x1EE01, 1, 0x627), (0x1EE0A, 0x1EE0D, 1, 0x643),
    (0x1EE15, 0x1EE16, 1, 0x62A), (0x1EE2A, 0x1EE2D, 1, 0x643), (0x1EE35, 0x1EE36, 1, 0x62A),
    (0x1EE4B, 0x1EE4D, 1, 0x644), (0x1EE6A, 0x1EE6D, 1, 0x643), (0x1EE75, 0x1EE76, 1, 0x62A),
    (0x1EE80, 0x1EE81, 1, 0x627), (0x1EE84, 0x1EE85, 1, 0x647), (0x1EE8B, 0x1EE8D, 1, 0x644),
    (0x1EE95, 0x1EE96, 1, 0x62A), (0x1EEAB, 0x1EEAD, 1, 0x644), (0x1EEB5, 0x1EEB6, 1, 0x62A),
    (0x1F130, 0x1F149, 1, 0x61), (0x1FBF0, 0x1FBF9, 1, 0x30)]

/-- Code points that all count as the same one. -/
def merged : List (Nat × Nat × Nat) :=
  [(0xAA, 0xAA, 0x61), (0xB5, 0xB5, 0x3BC), (0xB9, 0xB9, 0x31), (0xBA, 0xBA, 0x6F),
    (0x178, 0x178, 0xFF), (0x17F, 0x17F, 0x73), (0x181, 0x181, 0x253), (0x186, 0x186, 0x254),
    (0x187, 0x187, 0x188), (0x18B, 0x18B, 0x18C), (0x18E, 0x18E, 0x1DD), (0x18F, 0x18F, 0x259),
    (0x190, 0x190, 0x25B), (0x191, 0x191, 0x192), (0x193, 0x193, 0x260), (0x194, 0x194, 0x263),
    (0x196, 0x196, 0x269), (0x197, 0x197, 0x268), (0x198, 0x198, 0x199), (0x19C, 0x19C, 0x26F),
    (0x19D, 0x19D, 0x272), (0x19F, 0x19F, 0x275), (0x1A6, 0x1A6, 0x280), (0x1A7, 0x1A7, 0x1A8),
    (0x1A9, 0x1A9, 0x283), (0x1AC, 0x1AC, 0x1AD), (0x1AE, 0x1AE, 0x288), (0x1AF, 0x1AF, 0x1B0),
    (0x1B7, 0x1B7, 0x292), (0x1B8, 0x1B8, 0x1B9), (0x1BC, 0x1BC, 0x1BD), (0x1F4, 0x1F4, 0x1F5),
    (0x1F6, 0x1F6, 0x195), (0x1F7, 0x1F7, 0x1BF), (0x220, 0x220, 0x19E), (0x23A, 0x23A, 0x2C65),
    (0x23B, 0x23B, 0x23C), (0x23D, 0x23D, 0x19A), (0x23E, 0x23E, 0x2C66), (0x241, 0x241, 0x242),
    (0x243, 0x243, 0x180), (0x244, 0x244, 0x289), (0x245, 0x245, 0x28C), (0x2B1, 0x2B1, 0x266),
    (0x2B3, 0x2B3, 0x72), (0x2B4, 0x2B4, 0x279), (0x2B5, 0x2B5, 0x27B), (0x2B6, 0x2B6, 0x281),
    (0x2B7, 0x2B7, 0x77), (0x2B8, 0x2B8, 0x79), (0x2E0, 0x2E0, 0x263), (0x2E1, 0x2E1, 0x6C),
    (0x2E2, 0x2E2, 0x73), (0x2E3, 0x2E3, 0x78), (0x2E4, 0x2E4, 0x295), (0x343, 0x343, 0x313),
    (0x345, 0x345, 0x3B9), (0x374, 0x374, 0x2B9), (0x376, 0x376, 0x377), (0x37E, 0x37E, 0x3B),
    (0x37F, 0x37F, 0x3F3), (0x386, 0x386, 0x3AC), (0x387, 0x387, 0xB7), (0x38C, 0x38C, 0x3CC),
    (0x3CF, 0x3CF, 0x3D7), (0x3D0, 0x3D0, 0x3B2), (0x3D1, 0x3D1, 0x3B8), (0x3D2, 0x3D2, 0x3C5),
    (0x3D3, 0x3D3, 0x3CD), (0x3D4, 0x3D4, 0x3CB), (0x3D5, 0x3D5, 0x3C6), (0x3D6, 0x3D6, 0x3C0),
    (0x3F0, 0x3F0, 0x3BA), (0x3F4, 0x3F4, 0x3B8), (0x3F5, 0x3F5, 0x3B5), (0x3F7, 0x3F7, 0x3F8),
    (0x3F9, 0x3F9, 0x3C2), (0x3FA, 0x3FA, 0x3FB), (0x4C0, 0x4C0, 0x4CF), (0xF0C, 0xF0C, 0xF0B),
    (0x10FC, 0x10FC, 0x10DC), (0x1C80, 0x1C80, 0x432), (0x1C81, 0x1C81, 0x434),
    (0x1C82, 0x1C82, 0x43E), (0x1C85, 0x1C85, 0x442), (0x1C86, 0x1C86, 0x44A),
    (0x1C87, 0x1C87, 0x463), (0x1C88, 0x1C88, 0xA64B), (0x1C89, 0x1C89, 0x1C8A),
    (0x1D2C, 0x1D2C, 0x61), (0x1D2D, 0x1D2D, 0xE6), (0x1D32, 0x1D32, 0x1DD), (0x1D3C, 0x1D3C, 0x6F),
    (0x1D3D, 0x1D3D, 0x223), (0x1D3E, 0x1D3E, 0x70), (0x1D3F, 0x1D3F, 0x72), (0x1D42, 0x1D42, 0x77),
    (0x1D43, 0x1D43, 0x61), (0x1D46, 0x1D46, 0x1D02), (0x1D47, 0x1D47, 0x62),
    (0x1D4A, 0x1D4A, 0x259), (0x1D4D, 0x1D4D, 0x67), (0x1D4F, 0x1D4F, 0x6B),
    (0x1D51, 0x1D51, 0x14B), (0x1D53, 0x1D53, 0x254), (0x1D56, 0x1D56, 0x70),
    (0x1D59, 0x1D59, 0x1D1D), (0x1D5A, 0x1D5A, 0x26F), (0x1D5B, 0x1D5B, 0x76),
    (0x1D5C, 0x1D5C, 0x1D25), (0x1D62, 0x1D62, 0x69), (0x1D63, 0x1D63, 0x72),
    (0x1D68, 0x1D68, 0x3C1), (0x1D78, 0x1D78, 0x43D), (0x1D9B, 0x1D9B, 0x252),
    (0x1D9C, 0x1D9C, 0x63), (0x1D9D, 0x1D9D, 0x255), (0x1D9E, 0x1D9E, 0xF0),
    (0x1D9F, 0x1D9F, 0x25C), (0x1DA0, 0x1DA0, 0x66), (0x1DA1, 0x1DA1, 0x25F),
    (0x1DA2, 0x1DA2, 0x261), (0x1DA3, 0x1DA3, 0x265), (0x1DA7, 0x1DA7, 0x1D7B),
    (0x1DA8, 0x1DA8, 0x29D), (0x1DA9, 0x1DA9, 0x26D), (0x1DAA, 0x1DAA, 0x1D85),
    (0x1DAB, 0x1DAB, 0x29F), (0x1DAC, 0x1DAC, 0x271), (0x1DAD, 0x1DAD, 0x270),
    (0x1DB2, 0x1DB2, 0x278), (0x1DB5, 0x1DB5, 0x1AB), (0x1DB8, 0x1DB8, 0x1D1C),
    (0x1DBB, 0x1DBB, 0x7A), (0x1DBF, 0x1DBF, 0x3B8), (0x1E9B, 0x1E9B, 0x1E61),
    (0x1E9E, 0x1E9E, 0xDF), (0x1F71, 0x1F71, 0x3AC), (0x1F73, 0x1F73, 0x3AD),
    (0x1F75, 0x1F75, 0x3AE), (0x1F77, 0x1F77, 0x3AF), (0x1F79, 0x1F79, 0x3CC),
    (0x1F7B, 0x1F7B, 0x3CD), (0x1F7D, 0x1F7D, 0x3CE), (0x1FBA, 0x1FBA, 0x1F70),
    (0x1FBB, 0x1FBB, 0x3AC), (0x1FBE, 0x1FBE, 0x3B9), (0x1FC9, 0x1FC9, 0x3AD),
    (0x1FCB, 0x1FCB, 0x3AE), (0x1FDA, 0x1FDA, 0x1F76), (0x1FDB, 0x1FDB, 0x3AF),
    (0x1FEA, 0x1FEA, 0x1F7A), (0x1FEB, 0x1FEB, 0x3CD), (0x1FEC, 0x1FEC, 0x1FE5),
    (0x1FF8, 0x1FF8, 0x1F78), (0x1FFA, 0x1FFA, 0x1F7C), (0x2011, 0x2011, 0x2010),
    (0x2071, 0x2071, 0x69), (0x207A, 0x207A, 0x2B), (0x207B, 0x207B, 0x2212),
    (0x207C, 0x207C, 0x3D), (0x207F, 0x207F, 0x6E), (0x208A, 0x208A, 0x2B),
    (0x208B, 0x208B, 0x2212), (0x208C, 0x208C, 0x3D), (0x2090, 0x2090, 0x61),
    (0x2091, 0x2091, 0x65), (0x2092, 0x2092, 0x6F), (0x2093, 0x2093, 0x78), (0x2094, 0x2094, 0x259),
    (0x2095, 0x2095, 0x68), (0x209A, 0x209A, 0x70), (0x2102, 0x2102, 0x63), (0x2107, 0x2107, 0x25B),
    (0x210C, 0x210E, 0x68), (0x210F, 0x210F, 0x127), (0x2110, 0x2111, 0x69), (0x2112, 0x2113, 0x6C),
    (0x2115, 0x2115, 0x6E), (0x211C, 0x211D, 0x72), (0x2124, 0x2124, 0x7A), (0x2126, 0x2126, 0x3C9),
    (0x2128, 0x2128, 0x7A), (0x212A, 0x212A, 0x6B), (0x212B, 0x212B, 0xE5), (0x212F, 0x2130, 0x65),
    (0x2131, 0x2131, 0x66), (0x2132, 0x2132, 0x214E), (0x2133, 0x2133, 0x6D),
    (0x2134, 0x2134, 0x6F), (0x2139, 0x2139, 0x69), (0x213C, 0x213C, 0x3C0),
    (0x213D, 0x213E, 0x3B3), (0x213F, 0x213F, 0x3C0), (0x2140, 0x2140, 0x2211),
    (0x2145, 0x2146, 0x64), (0x2147, 0x2147, 0x65), (0x2160, 0x2160, 0x69), (0x2164, 0x2164, 0x76),
    (0x2169, 0x2169, 0x78), (0x216C, 0x216C, 0x6C), (0x216F, 0x216F, 0x6D), (0x2170, 0x2170, 0x69),
    (0x2174, 0x2174, 0x76), (0x2179, 0x2179, 0x78), (0x217C, 0x217C, 0x6C), (0x217F, 0x217F, 0x6D),
    (0x2183, 0x2183, 0x2184), (0x24EA, 0x24EA, 0x30), (0x2C60, 0x2C60, 0x2C61),
    (0x2C62, 0x2C62, 0x26B), (0x2C63, 0x2C63, 0x1D7D), (0x2C64, 0x2C64, 0x27D),
    (0x2C6D, 0x2C6D, 0x251), (0x2C6E, 0x2C6E, 0x271), (0x2C6F, 0x2C6F, 0x250),
    (0x2C70, 0x2C70, 0x252), (0x2C72, 0x2C72, 0x2C73), (0x2C75, 0x2C75, 0x2C76),
    (0x2C7C, 0x2C7C, 0x6A), (0x2C7D, 0x2C7D, 0x76), (0x2CF2, 0x2CF2, 0x2CF3),
    (0x2D6F, 0x2D6F, 0x2D61), (0x3036, 0x3036, 0x3012), (0x3038, 0x3038, 0x5341),
    (0x3134, 0x3134, 0x1102), (0x3136, 0x3136, 0x11AD), (0x3140, 0x3140, 0x111A),
    (0x3144, 0x3144, 0x1121), (0x3169, 0x3169, 0x11CC), (0x316A, 0x316A, 0x11CE),
    (0x316B, 0x316B, 0x11D3), (0x316C, 0x316C, 0x11D7), (0x316D, 0x316D, 0x11D9),
    (0x316E, 0x316E, 0x111C), (0x316F, 0x316F, 0x11DD), (0x3170, 0x3170, 0x11DF),
    (0x3173, 0x3173, 0x1120), (0x3176, 0x3176, 0x1127), (0x3177, 0x3177, 0x1129),
    (0x317D, 0x317D, 0x1132), (0x317E, 0x317E, 0x1136), (0x317F, 0x317F, 0x1140),
    (0x3180, 0x3180, 0x1147), (0x3181, 0x3181, 0x114C), (0x3189, 0x3189, 0x1188),
    (0x318C, 0x318C, 0x1194), (0x318D, 0x318D, 0x119E), (0x318E, 0x318E, 0x11A1),
    (0x3192, 0x3192, 0x4E00), (0x3193, 0x3193, 0x4E8C), (0x3194, 0x3194, 0x4E09),
    (0x3195, 0x3195, 0x56DB), (0x3196, 0x3196, 0x4E0A), (0x3197, 0x3197, 0x4E2D),
    (0x3198, 0x3198, 0x4E0B), (0x3199, 0x3199, 0x7532), (0x319A, 0x319A, 0x4E59),
    (0x319B, 0x319B, 0x4E19), (0x319C, 0x319C, 0x4E01), (0x319D, 0x319D, 0x5929),
    (0x319E, 0x319E, 0x5730), (0x319F, 0x319F, 0x4EBA), (0x3244, 0x3244, 0x554F),
    (0x3245, 0x3245, 0x5E7C), (0x3246, 0x3246, 0x6587), (0x3247, 0x3247, 0x7B8F),
    (0x3260, 0x3260, 0x1100), (0x3266, 0x3266, 0x1109), (0x326E, 0x326E, 0xAC00),
    (0x326F, 0x326F, 0xB098), (0x3270, 0x3270, 0xB2E4), (0x3271, 0x3271, 0xB77C),
    (0x3272, 0x3272, 0xB9C8), (0x3273, 0x3273, 0xBC14), (0x3274, 0x3274, 0xC0AC),
    (0x3275, 0x3275, 0xC544), (0x3276, 0x3276, 0xC790), (0x3277, 0x3277, 0xCC28),
    (0x3278, 0x3278, 0xCE74), (0x3279, 0x3279, 0xD0C0), (0x327A, 0x327A, 0xD30C),
    (0x327B, 0x327B, 0xD558), (0x327E, 0x327E, 0xC6B0), (0x3280, 0x3280, 0x4E00),
    (0x3281, 0x3281, 0x4E8C), (0x3282, 0x3282, 0x4E09), (0x3283, 0x3283, 0x56DB),
    (0x3284, 0x3284, 0x4E94), (0x3285, 0x3285, 0x516D), (0x3286, 0x3286, 0x4E03),
    (0x3287, 0x3287, 0x516B), (0x3288, 0x3288, 0x4E5D), (0x3289, 0x3289, 0x5341),
    (0x328A, 0x328A, 0x6708), (0x328B, 0x328B, 0x706B), (0x328C, 0x328C, 0x6C34),
    (0x328D, 0x328D, 0x6728), (0x328E, 0x328E, 0x91D1), (0x328F, 0x328F, 0x571F),
    (0x3290, 0x3290, 0x65E5), (0x3291, 0x3291, 0x682A), (0x3292, 0x3292, 0x6709),
    (0x3293, 0x3293, 0x793E), (0x3294, 0x3294, 0x540D), (0x3295, 0x3295, 0x7279),
    (0x3296, 0x3296, 0x8CA1), (0x3297, 0x3297, 0x795D), (0x3298, 0x3298, 0x52B4),
    (0x3299, 0x3299, 0x79D8), (0x329A, 0x329A, 0x7537), (0x329B, 0x329B, 0x5973),
    (0x329C, 0x329C, 0x9069), (0x329D, 0x329D, 0x512A), (0x329E, 0x329E, 0x5370),
    (0x329F, 0x329F, 0x6CE8), (0x32A0, 0x32A0, 0x9805), (0x32A1, 0x32A1, 0x4F11),
    (0x32A2, 0x32A2, 0x5199), (0x32A3, 0x32A3, 0x6B63), (0x32A4, 0x32A4, 0x4E0A),
    (0x32A5, 0x32A5, 0x4E2D), (0x32A6, 0x32A6, 0x4E0B), (0x32A7, 0x32A7, 0x5DE6),
    (0x32A8, 0x32A8, 0x53F3), (0x32A9, 0x32A9, 0x533B), (0x32AA, 0x32AA, 0x5B97),
    (0x32AB, 0x32AB, 0x5B66), (0x32AC, 0x32AC, 0x76E3), (0x32AD, 0x32AD, 0x4F01),
    (0x32AE, 0x32AE, 0x8CC7), (0x32AF, 0x32AF, 0x5354), (0x32B0, 0x32B0, 0x591C),
    (0x32D0, 0x32D0, 0x30A2), (0x32D1, 0x32D1, 0x30A4), (0x32D2, 0x32D2, 0x30A6),
    (0x32D3, 0x32D3, 0x30A8), (0x32D6, 0x32D6, 0x30AD), (0x32D7, 0x32D7, 0x30AF),
    (0x32D8, 0x32D8, 0x30B1), (0x32D9, 0x32D9, 0x30B3), (0x32DA, 0x32DA, 0x30B5),
    (0x32DB, 0x32DB, 0x30B7), (0x32DC, 0x32DC, 0x30B9), (0x32DD, 0x32DD, 0x30BB),
    (0x32DE, 0x32DE, 0x30BD), (0x32DF, 0x32DF, 0x30BF), (0x32E0, 0x32E0, 0x30C1),
    (0x32E1, 0x32E1, 0x30C4), (0x32E2, 0x32E2, 0x30C6), (0x32E3, 0x32E3, 0x30C8),
    (0x32EA, 0x32EA, 0x30D2), (0x32EB, 0x32EB, 0x30D5), (0x32EC, 0x32EC, 0x30D8),
    (0x32ED, 0x32ED, 0x30DB), (0x32F3, 0x32F3, 0x30E4), (0x32F4, 0x32F4, 0x30E6),
    (0xA69C, 0xA69C, 0x44A), (0xA69D, 0xA69D, 0x44C), (0xA770, 0xA770, 0xA76F),
    (0xA77D, 0xA77D, 0x1D79), (0xA78B, 0xA78B, 0xA78C), (0xA78D, 0xA78D, 0x265),
    (0xA7AA, 0xA7AA, 0x266), (0xA7AB, 0xA7AB, 0x25C), (0xA7AC, 0xA7AC, 0x261),
    (0xA7AD, 0xA7AD, 0x26C), (0xA7AE, 0xA7AE, 0x26A), (0xA7B0, 0xA7B0, 0x29E),
    (0xA7B1, 0xA7B1, 0x287), (0xA7B2, 0xA7B2, 0x29D), (0xA7B3, 0xA7B3, 0xAB53),
    (0xA7C4, 0xA7C4, 0xA794), (0xA7C5, 0xA7C5, 0x282), (0xA7C6, 0xA7C6, 0x1D8E),
    (0xA7CB, 0xA7CB, 0x264), (0xA7DC, 0xA7DC, 0x19B), (0xA7F1, 0xA7F1, 0x73),
    (0xA7F2, 0xA7F2, 0x63), (0xA7F3, 0xA7F3, 0x66), (0xA7F4, 0xA7F4, 0x71),
    (0xA7F5, 0xA7F5, 0xA7F6), (0xA7F8, 0xA7F8, 0x127), (0xA7F9, 0xA7F9, 0x153),
    (0xAB5C, 0xAB5C, 0xA727), (0xAB5D, 0xAB5D, 0xAB37), (0xAB5E, 0xAB5E, 0x26B),
    (0xAB5F, 0xAB5F, 0xAB52), (0xAB69, 0xAB69, 0x28D), (0xFB20, 0xFB20, 0x5E2),
    (0xFB21, 0xFB21, 0x5D0), (0xFB27, 0xFB27, 0x5E8), (0xFB28, 0xFB28, 0x5EA),
    (0xFB29, 0xFB29, 0x2B), (0xFB50, 0xFB51, 0x671), (0xFB52, 0xFB55, 0x67B),
    (0xFB56, 0xFB59, 0x67E), (0xFB5A, 0xFB5D, 0x680), (0xFB5E, 0xFB61, 0x67A),
    (0xFB62, 0xFB65, 0x67F), (0xFB66, 0xFB69, 0x679), (0xFB6A, 0xFB6D, 0x6A4),
    (0xFB6E, 0xFB71, 0x6A6), (0xFB72, 0xFB75, 0x684), (0xFB76, 0xFB79, 0x683),
    (0xFB7A, 0xFB7D, 0x686), (0xFB7E, 0xFB81, 0x687), (0xFB82, 0xFB83, 0x68D),
    (0xFB88, 0xFB89, 0x688), (0xFB8A, 0xFB8B, 0x698), (0xFB8C, 0xFB8D, 0x691),
    (0xFB8E, 0xFB91, 0x6A9), (0xFB92, 0xFB95, 0x6AF), (0xFB96, 0xFB99, 0x6B3),
    (0xFB9A, 0xFB9D, 0x6B1), (0xFB9E, 0xFB9F, 0x6BA), (0xFBA0, 0xFBA3, 0x6BB),
    (0xFBA4, 0xFBA5, 0x6C0), (0xFBA6, 0xFBA9, 0x6C1), (0xFBAA, 0xFBAD, 0x6BE),
    (0xFBAE, 0xFBAF, 0x6D2), (0xFBB0, 0xFBB1, 0x6D3), (0xFBD3, 0xFBD6, 0x6AD),
    (0xFBD7, 0xFBD8, 0x6C7), (0xFBDE, 0xFBDF, 0x6CB), (0xFBE0, 0xFBE1, 0x6C5),
    (0xFBE2, 0xFBE3, 0x6C9), (0xFBE4, 0xFBE7, 0x6D0), (0xFBE8, 0xFBE9, 0x649),
    (0xFBFC, 0xFBFF, 0x6CC), (0xFE10, 0xFE10, 0x2C), (0xFE11, 0xFE11, 0x3001),
    (0xFE14, 0xFE14, 0x3B), (0xFE15, 0xFE15, 0x21), (0xFE31, 0xFE31, 0x2014),
    (0xFE32, 0xFE32, 0x2013), (0xFE33, 0xFE34, 0x5F), (0xFE4D, 0xFE4F, 0x5F),
    (0xFE50, 0xFE50, 0x2C), (0xFE51, 0xFE51, 0x3001), (0xFE54, 0xFE54, 0x3B),
    (0xFE57, 0xFE57, 0x21), (0xFE58, 0xFE58, 0x2014), (0xFE60, 0xFE60, 0x26),
    (0xFE63, 0xFE63, 0x2D), (0xFE66, 0xFE66, 0x3D), (0xFE69, 0xFE69, 0x24), (0xFE8A, 0xFE8C, 0x626),
    (0xFE8D, 0xFE8E, 0x627), (0xFE8F, 0xFE92, 0x628), (0xFE93, 0xFE94, 0x629),
    (0xFE95, 0xFE98, 0x62A), (0xFE99, 0xFE9C, 0x62B), (0xFE9D, 0xFEA0, 0x62C),
    (0xFEA1, 0xFEA4, 0x62D), (0xFEA5, 0xFEA8, 0x62E), (0xFEA9, 0xFEAA, 0x62F),
    (0xFEAB, 0xFEAC, 0x630), (0xFEAD, 0xFEAE, 0x631), (0xFEAF, 0xFEB0, 0x632),
    (0xFEB1, 0xFEB4, 0x633), (0xFEB5, 0xFEB8, 0x634), (0xFEB9, 0xFEBC, 0x635),
    (0xFEBD, 0xFEC0, 0x636), (0xFEC1, 0xFEC4, 0x637), (0xFEC5, 0xFEC8, 0x638),
    (0xFEC9, 0xFECC, 0x639), (0xFECD, 0xFED0, 0x63A), (0xFED1, 0xFED4, 0x641),
    (0xFED5, 0xFED8, 0x642), (0xFED9, 0xFEDC, 0x643), (0xFEDD, 0xFEE0, 0x644),
    (0xFEE1, 0xFEE4, 0x645), (0xFEE5, 0xFEE8, 0x646), (0xFEE9, 0xFEEC, 0x647),
    (0xFEED, 0xFEEE, 0x648), (0xFEEF, 0xFEF0, 0x649), (0xFEF1, 0xFEF4, 0x64A),
    (0xFF64, 0xFF64, 0x3001), (0xFF65, 0xFF65, 0x30FB), (0xFF66, 0xFF66, 0x30F2),
    (0xFF67, 0xFF67, 0x30A1), (0xFF68, 0xFF68, 0x30A3), (0xFF69, 0xFF69, 0x30A5),
    (0xFF6A, 0xFF6A, 0x30A7), (0xFF6B, 0xFF6B, 0x30A9), (0xFF6C, 0xFF6C, 0x30E3),
    (0xFF6D, 0xFF6D, 0x30E5), (0xFF6E, 0xFF6E, 0x30E7), (0xFF6F, 0xFF6F, 0x30C3),
    (0xFF70, 0xFF70, 0x30FC), (0xFF71, 0xFF71, 0x30A2), (0xFF72, 0xFF72, 0x30A4),
    (0xFF73, 0xFF73, 0x30A6), (0xFF74, 0xFF74, 0x30A8), (0xFF77, 0xFF77, 0x30AD),
    (0xFF78, 0xFF78, 0x30AF), (0xFF79, 0xFF79, 0x30B1), (0xFF7A, 0xFF7A, 0x30B3),
    (0xFF7B, 0xFF7B, 0x30B5), (0xFF7C, 0xFF7C, 0x30B7), (0xFF7D, 0xFF7D, 0x30B9),
    (0xFF7E, 0xFF7E, 0x30BB), (0xFF7F, 0xFF7F, 0x30BD), (0xFF80, 0xFF80, 0x30BF),
    (0xFF81, 0xFF81, 0x30C1), (0xFF82, 0xFF82, 0x30C4), (0xFF83, 0xFF83, 0x30C6),
    (0xFF84, 0xFF84, 0x30C8), (0xFF8B, 0xFF8B, 0x30D2), (0xFF8C, 0xFF8C, 0x30D5),
    (0xFF8D, 0xFF8D, 0x30D8), (0xFF8E, 0xFF8E, 0x30DB), (0xFF94, 0xFF94, 0x30E4),
    (0xFF95, 0xFF95, 0x30E6), (0xFF9C, 0xFF9C, 0x30EF), (0xFF9D, 0xFF9D, 0x30F3),
    (0xFFA4, 0xFFA4, 0x1102), (0xFFA6, 0xFFA6, 0x11AD), (0xFFB0, 0xFFB0, 0x111A),
    (0xFFB4, 0xFFB4, 0x1121), (0xFFE2, 0xFFE2, 0xAC), (0xFFE4, 0xFFE4, 0xA6),
    (0xFFE5, 0xFFE5, 0xA5), (0xFFE6, 0xFFE6, 0x20A9), (0xFFE8, 0xFFE8, 0x2502),
    (0xFFED, 0xFFED, 0x25A0), (0xFFEE, 0xFFEE, 0x25CB), (0x10783, 0x10783, 0xE6),
    (0x10784, 0x10784, 0x299), (0x10785, 0x10785, 0x253), (0x10788, 0x10788, 0xAB66),
    (0x1078A, 0x1078A, 0x2A4), (0x1078D, 0x1078D, 0x1D91), (0x1078E, 0x1078E, 0x258),
    (0x1078F, 0x1078F, 0x25E), (0x10790, 0x10790, 0x2A9), (0x10791, 0x10791, 0x264),
    (0x10792, 0x10792, 0x262), (0x10793, 0x10793, 0x260), (0x10794, 0x10794, 0x29B),
    (0x10795, 0x10795, 0x127), (0x10796, 0x10796, 0x29C), (0x10797, 0x10797, 0x267),
    (0x10798, 0x10798, 0x284), (0x1079B, 0x1079B, 0x26C), (0x1079C, 0x1079C, 0x1DF04),
    (0x1079D, 0x1079D, 0xA78E), (0x1079E, 0x1079E, 0x26E), (0x1079F, 0x1079F, 0x1DF05),
    (0x107A0, 0x107A0, 0x28E), (0x107A1, 0x107A1, 0x1DF06), (0x107A2, 0x107A2, 0xF8),
    (0x107A5, 0x107A5, 0x71), (0x107A6, 0x107A6, 0x27A), (0x107A7, 0x107A7, 0x1DF08),
    (0x107AA, 0x107AA, 0x280), (0x107AB, 0x107AB, 0x2A8), (0x107AC, 0x107AC, 0x2A6),
    (0x107AD, 0x107AD, 0xAB67), (0x107AE, 0x107AE, 0x2A7), (0x107AF, 0x107AF, 0x288),
    (0x107B0, 0x107B0, 0x2C71), (0x107B2, 0x107B2, 0x28F), (0x107B5, 0x107B5, 0x298),
    (0x107B9, 0x107B9, 0x1DF0A), (0x107BA, 0x107BA, 0x1DF1E), (0x1D6A4, 0x1D6A4, 0x131),
    (0x1D6A5, 0x1D6A5, 0x237), (0x1D6B9, 0x1D6B9, 0x3B8), (0x1D6C1, 0x1D6C1, 0x2207),
    (0x1D6DB, 0x1D6DB, 0x2202), (0x1D6DC, 0x1D6DC, 0x3B5), (0x1D6DD, 0x1D6DD, 0x3B8),
    (0x1D6DE, 0x1D6DE, 0x3BA), (0x1D6DF, 0x1D6DF, 0x3C6), (0x1D6E0, 0x1D6E0, 0x3C1),
    (0x1D6E1, 0x1D6E1, 0x3C0), (0x1D6F3, 0x1D6F3, 0x3B8), (0x1D6FB, 0x1D6FB, 0x2207),
    (0x1D715, 0x1D715, 0x2202), (0x1D716, 0x1D716, 0x3B5), (0x1D717, 0x1D717, 0x3B8),
    (0x1D718, 0x1D718, 0x3BA), (0x1D719, 0x1D719, 0x3C6), (0x1D71A, 0x1D71A, 0x3C1),
    (0x1D71B, 0x1D71B, 0x3C0), (0x1D72D, 0x1D72D, 0x3B8), (0x1D735, 0x1D735, 0x2207),
    (0x1D74F, 0x1D74F, 0x2202), (0x1D750, 0x1D750, 0x3B5), (0x1D751, 0x1D751, 0x3B8),
    (0x1D752, 0x1D752, 0x3BA), (0x1D753, 0x1D753, 0x3C6), (0x1D754, 0x1D754, 0x3C1),
    (0x1D755, 0x1D755, 0x3C0), (0x1D767, 0x1D767, 0x3B8), (0x1D76F, 0x1D76F, 0x2207),
    (0x1D789, 0x1D789, 0x2202), (0x1D78A, 0x1D78A, 0x3B5), (0x1D78B, 0x1D78B, 0x3B8),
    (0x1D78C, 0x1D78C, 0x3BA), (0x1D78D, 0x1D78D, 0x3C6), (0x1D78E, 0x1D78E, 0x3C1),
    (0x1D78F, 0x1D78F, 0x3C0), (0x1D7A1, 0x1D7A1, 0x3B8), (0x1D7A9, 0x1D7A9, 0x2207),
    (0x1D7C3, 0x1D7C3, 0x2202), (0x1D7C4, 0x1D7C4, 0x3B5), (0x1D7C5, 0x1D7C5, 0x3B8),
    (0x1D7C6, 0x1D7C6, 0x3BA), (0x1D7C7, 0x1D7C7, 0x3C6), (0x1D7C8, 0x1D7C8, 0x3C1),
    (0x1D7C9, 0x1D7C9, 0x3C0), (0x1D7CA, 0x1D7CB, 0x3DD), (0x1E047, 0x1E047, 0x44B),
    (0x1E04A, 0x1E04A, 0xA689), (0x1E04B, 0x1E04B, 0x4D9), (0x1E04C, 0x1E04C, 0x456),
    (0x1E04D, 0x1E04D, 0x458), (0x1E04E, 0x1E04E, 0x4E9), (0x1E04F, 0x1E04F, 0x4AF),
    (0x1E050, 0x1E050, 0x4CF), (0x1E05E, 0x1E05E, 0x441), (0x1E067, 0x1E067, 0x491),
    (0x1E068, 0x1E068, 0x456), (0x1E069, 0x1E069, 0x455), (0x1E06A, 0x1E06A, 0x45F),
    (0x1E06B, 0x1E06B, 0x4AB), (0x1E06C, 0x1E06C, 0xA651), (0x1E06D, 0x1E06D, 0x4B1),
    (0x1EE02, 0x1EE02, 0x62C), (0x1EE03, 0x1EE03, 0x62F), (0x1EE05, 0x1EE05, 0x648),
    (0x1EE06, 0x1EE06, 0x632), (0x1EE07, 0x1EE07, 0x62D), (0x1EE08, 0x1EE08, 0x637),
    (0x1EE09, 0x1EE09, 0x64A), (0x1EE0E, 0x1EE0E, 0x633), (0x1EE0F, 0x1EE0F, 0x639),
    (0x1EE10, 0x1EE10, 0x641), (0x1EE11, 0x1EE11, 0x635), (0x1EE12, 0x1EE12, 0x642),
    (0x1EE13, 0x1EE13, 0x631), (0x1EE14, 0x1EE14, 0x634), (0x1EE17, 0x1EE17, 0x62E),
    (0x1EE18, 0x1EE18, 0x630), (0x1EE19, 0x1EE19, 0x636), (0x1EE1A, 0x1EE1A, 0x638),
    (0x1EE1B, 0x1EE1B, 0x63A), (0x1EE1C, 0x1EE1C, 0x66E), (0x1EE1D, 0x1EE1D, 0x6BA),
    (0x1EE1E, 0x1EE1E, 0x6A1), (0x1EE1F, 0x1EE1F, 0x66F), (0x1EE21, 0x1EE21, 0x628),
    (0x1EE22, 0x1EE22, 0x62C), (0x1EE24, 0x1EE24, 0x647), (0x1EE27, 0x1EE27, 0x62D),
    (0x1EE29, 0x1EE29, 0x64A), (0x1EE2E, 0x1EE2E, 0x633), (0x1EE2F, 0x1EE2F, 0x639),
    (0x1EE30, 0x1EE30, 0x641), (0x1EE31, 0x1EE31, 0x635), (0x1EE32, 0x1EE32, 0x642),
    (0x1EE34, 0x1EE34, 0x634), (0x1EE37, 0x1EE37, 0x62E), (0x1EE39, 0x1EE39, 0x636),
    (0x1EE3B, 0x1EE3B, 0x63A), (0x1EE42, 0x1EE42, 0x62C), (0x1EE47, 0x1EE47, 0x62D),
    (0x1EE49, 0x1EE49, 0x64A), (0x1EE4E, 0x1EE4E, 0x633), (0x1EE4F, 0x1EE4F, 0x639),
    (0x1EE51, 0x1EE51, 0x635), (0x1EE52, 0x1EE52, 0x642), (0x1EE54, 0x1EE54, 0x634),
    (0x1EE57, 0x1EE57, 0x62E), (0x1EE59, 0x1EE59, 0x636), (0x1EE5B, 0x1EE5B, 0x63A),
    (0x1EE5D, 0x1EE5D, 0x6BA), (0x1EE5F, 0x1EE5F, 0x66F), (0x1EE61, 0x1EE61, 0x628),
    (0x1EE62, 0x1EE62, 0x62C), (0x1EE64, 0x1EE64, 0x647), (0x1EE67, 0x1EE67, 0x62D),
    (0x1EE68, 0x1EE68, 0x637), (0x1EE69, 0x1EE69, 0x64A), (0x1EE6E, 0x1EE6E, 0x633),
    (0x1EE6F, 0x1EE6F, 0x639), (0x1EE70, 0x1EE70, 0x641), (0x1EE71, 0x1EE71, 0x635),
    (0x1EE72, 0x1EE72, 0x642), (0x1EE74, 0x1EE74, 0x634), (0x1EE77, 0x1EE77, 0x62E),
    (0x1EE79, 0x1EE79, 0x636), (0x1EE7A, 0x1EE7A, 0x638), (0x1EE7B, 0x1EE7B, 0x63A),
    (0x1EE7C, 0x1EE7C, 0x66E), (0x1EE7E, 0x1EE7E, 0x6A1), (0x1EE82, 0x1EE82, 0x62C),
    (0x1EE83, 0x1EE83, 0x62F), (0x1EE86, 0x1EE86, 0x632), (0x1EE87, 0x1EE87, 0x62D),
    (0x1EE88, 0x1EE88, 0x637), (0x1EE89, 0x1EE89, 0x64A), (0x1EE8E, 0x1EE8E, 0x633),
    (0x1EE8F, 0x1EE8F, 0x639), (0x1EE90, 0x1EE90, 0x641), (0x1EE91, 0x1EE91, 0x635),
    (0x1EE92, 0x1EE92, 0x642), (0x1EE93, 0x1EE93, 0x631), (0x1EE94, 0x1EE94, 0x634),
    (0x1EE97, 0x1EE97, 0x62E), (0x1EE98, 0x1EE98, 0x630), (0x1EE99, 0x1EE99, 0x636),
    (0x1EE9A, 0x1EE9A, 0x638), (0x1EE9B, 0x1EE9B, 0x63A), (0x1EEA1, 0x1EEA1, 0x628),
    (0x1EEA2, 0x1EEA2, 0x62C), (0x1EEA3, 0x1EEA3, 0x62F), (0x1EEA5, 0x1EEA5, 0x648),
    (0x1EEA6, 0x1EEA6, 0x632), (0x1EEA7, 0x1EEA7, 0x62D), (0x1EEA8, 0x1EEA8, 0x637),
    (0x1EEA9, 0x1EEA9, 0x64A), (0x1EEAE, 0x1EEAE, 0x633), (0x1EEAF, 0x1EEAF, 0x639),
    (0x1EEB0, 0x1EEB0, 0x641), (0x1EEB1, 0x1EEB1, 0x635), (0x1EEB2, 0x1EEB2, 0x642),
    (0x1EEB3, 0x1EEB3, 0x631), (0x1EEB4, 0x1EEB4, 0x634), (0x1EEB7, 0x1EEB7, 0x62E),
    (0x1EEB8, 0x1EEB8, 0x630), (0x1EEB9, 0x1EEB9, 0x636), (0x1EEBA, 0x1EEBA, 0x638),
    (0x1EEBB, 0x1EEBB, 0x63A), (0x1F12B, 0x1F12B, 0x63), (0x1F12C, 0x1F12C, 0x72),
    (0x1F202, 0x1F202, 0x30B5), (0x1F210, 0x1F210, 0x624B), (0x1F211, 0x1F211, 0x5B57),
    (0x1F212, 0x1F212, 0x53CC), (0x1F213, 0x1F213, 0x30C7), (0x1F214, 0x1F214, 0x4E8C),
    (0x1F215, 0x1F215, 0x591A), (0x1F216, 0x1F216, 0x89E3), (0x1F217, 0x1F217, 0x5929),
    (0x1F218, 0x1F218, 0x4EA4), (0x1F219, 0x1F219, 0x6620), (0x1F21A, 0x1F21A, 0x7121),
    (0x1F21B, 0x1F21B, 0x6599), (0x1F21C, 0x1F21C, 0x524D), (0x1F21D, 0x1F21D, 0x5F8C),
    (0x1F21E, 0x1F21E, 0x518D), (0x1F21F, 0x1F21F, 0x65B0), (0x1F220, 0x1F220, 0x521D),
    (0x1F221, 0x1F221, 0x7D42), (0x1F222, 0x1F222, 0x751F), (0x1F223, 0x1F223, 0x8CA9),
    (0x1F224, 0x1F224, 0x58F0), (0x1F225, 0x1F225, 0x5439), (0x1F226, 0x1F226, 0x6F14),
    (0x1F227, 0x1F227, 0x6295), (0x1F228, 0x1F228, 0x6355), (0x1F229, 0x1F229, 0x4E00),
    (0x1F22A, 0x1F22A, 0x4E09), (0x1F22B, 0x1F22B, 0x904A), (0x1F22C, 0x1F22C, 0x5DE6),
    (0x1F22D, 0x1F22D, 0x4E2D), (0x1F22E, 0x1F22E, 0x53F3), (0x1F22F, 0x1F22F, 0x6307),
    (0x1F230, 0x1F230, 0x8D70), (0x1F231, 0x1F231, 0x6253), (0x1F232, 0x1F232, 0x7981),
    (0x1F233, 0x1F233, 0x7A7A), (0x1F234, 0x1F234, 0x5408), (0x1F235, 0x1F235, 0x6E80),
    (0x1F236, 0x1F236, 0x6709), (0x1F237, 0x1F237, 0x6708), (0x1F238, 0x1F238, 0x7533),
    (0x1F239, 0x1F239, 0x5272), (0x1F23A, 0x1F23A, 0x55B6), (0x1F23B, 0x1F23B, 0x914D),
    (0x1F250, 0x1F250, 0x5F97), (0x1F251, 0x1F251, 0x53EF)]

/-- Ideographs that count as another ideograph. -/
def variantIdeograph : List (Nat × Nat) :=
  [(0x2E9F, 0x2E9F), (0x2EF3, 0x2EF3), (0x2F00, 0x2FD5), (0xF900, 0xFA0D), (0xFA10, 0xFA10),
    (0xFA12, 0xFA12), (0xFA15, 0xFA1E), (0xFA20, 0xFA20), (0xFA22, 0xFA22), (0xFA25, 0xFA26),
    (0xFA2A, 0xFA6D), (0xFA70, 0xFAD9), (0x2F800, 0x2FA1D)]

end ReleaseFeed.Text
