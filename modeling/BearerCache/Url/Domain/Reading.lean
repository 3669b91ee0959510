import BearerCache.Text.CharTable

/-! # Characters of a domain name

Names are the same if they differ only in the case of letters or in the form of characters, as
wide letters and ligatures do.  So each character is read as another text, as itself, or as
nothing, and some are in no name at all.

What differs only in the way it is composed is made the same later, when the whole name is
composed; no row here is about that. -/

namespace BearerCache.Url.Domain

/-- What the letters up to U+1FFF are read as. -/
def alphabetReadings : List Text.CharMap.Row := [
  .listed 0xA0 [[0x20]],
  .listed 0xA8 [[0x20, 0x308]],
  .listed 0xAA [[0x61]],
  .listed 0xAF [[0x20, 0x304]],
  .listed 0xB2 [[0x32], [0x33], [0x20, 0x301], [0x3BC]],
  .listed 0xB8 [[0x20, 0x327], [0x31], [0x6F]],
  .listed 0xBC [[0x31, 0x2044, 0x34], [0x31, 0x2044, 0x32], [0x33, 0x2044, 0x34]],
  .moved 0xC0 0xD6 1 0x20,
  .moved 0xD8 0xDE 1 0x20,
  .moved 0x100 0x12E 2 0x1,
  .listed 0x130 [[0x69, 0x307]],
  .listed 0x132 [[0x69, 0x6A], [0x69, 0x6A], [0x135]],
  .listed 0x136 [[0x137]],
  .moved 0x139 0x13D 2 0x1,
  .listed 0x13F [[0x6C, 0xB7], [0x6C, 0xB7]],
  .moved 0x141 0x147 2 0x1,
  .listed 0x149 [[0x2BC, 0x6E]],
  .moved 0x14A 0x176 2 0x1,
  .listed 0x178 [[0xFF]],
  .moved 0x179 0x17D 2 0x1,
  .listed 0x17F [[0x73]],
  .listed 0x181 [[0x253], [0x183]],
  .listed 0x184 [[0x185]],
  .listed 0x186 [[0x254], [0x188]],
  .listed 0x189 [[0x256], [0x257], [0x18C]],
  .listed 0x18E [[0x1DD], [0x259], [0x25B], [0x192]],
  .listed 0x193 [[0x260], [0x263]],
  .listed 0x196 [[0x269], [0x268], [0x199]],
  .listed 0x19C [[0x26F], [0x272]],
  .listed 0x19F [[0x275]],
  .moved 0x1A0 0x1A4 2 0x1,
  .listed 0x1A6 [[0x280], [0x1A8]],
  .listed 0x1A9 [[0x283]],
  .listed 0x1AC [[0x1AD]],
  .listed 0x1AE [[0x288], [0x1B0]],
  .listed 0x1B1 [[0x28A], [0x28B], [0x1B4]],
  .listed 0x1B5 [[0x1B6]],
  .listed 0x1B7 [[0x292], [0x1B9]],
  .listed 0x1BC [[0x1BD]],
  .listed 0x1C4 [[0x64, 0x17E], [0x64, 0x17E], [0x64, 0x17E], [0x6C, 0x6A], [0x6C, 0x6A],
    [0x6C, 0x6A], [0x6E, 0x6A], [0x6E, 0x6A], [0x6E, 0x6A]],
  .moved 0x1CD 0x1DB 2 0x1,
  .moved 0x1DE 0x1EE 2 0x1,
  .listed 0x1F1 [[0x64, 0x7A], [0x64, 0x7A], [0x64, 0x7A], [0x1F5]],
  .listed 0x1F6 [[0x195], [0x1BF]],
  .moved 0x1F8 0x21E 2 0x1,
  .listed 0x220 [[0x19E]],
  .moved 0x222 0x232 2 0x1,
  .listed 0x23A [[0x2C65], [0x23C]],
  .listed 0x23D [[0x19A], [0x2C66]],
  .listed 0x241 [[0x242]],
  .listed 0x243 [[0x180], [0x289], [0x28C]],
  .moved 0x246 0x24E 2 0x1,
  .listed 0x2B0 [[0x68], [0x266], [0x6A], [0x72], [0x279], [0x27B], [0x281], [0x77], [0x79]],
  .listed 0x2D8 [[0x20, 0x306], [0x20, 0x307], [0x20, 0x30A], [0x20, 0x328], [0x20, 0x303],
    [0x20, 0x30B]],
  .listed 0x2E0 [[0x263], [0x6C], [0x73], [0x78], [0x295]],
  .listed 0x345 [[0x3B9]],
  .listed 0x370 [[0x371]],
  .listed 0x372 [[0x373]],
  .listed 0x376 [[0x377]],
  .listed 0x37A [[0x20, 0x3B9]],
  .listed 0x37F [[0x3F3]],
  .listed 0x384 [[0x20, 0x301], [0x20, 0x308, 0x301], [0x3AC]],
  .moved 0x388 0x38A 1 0x25,
  .listed 0x38C [[0x3CC]],
  .listed 0x38E [[0x3CD], [0x3CE]],
  .moved 0x391 0x3A1 1 0x20,
  .moved 0x3A3 0x3AB 1 0x20,
  .listed 0x3CF [[0x3D7], [0x3B2], [0x3B8], [0x3C5], [0x3CD], [0x3CB], [0x3C6], [0x3C0]],
  .moved 0x3D8 0x3EE 2 0x1,
  .listed 0x3F0 [[0x3BA], [0x3C1], [0x3C3]],
  .listed 0x3F4 [[0x3B8], [0x3B5]],
  .listed 0x3F7 [[0x3F8]],
  .listed 0x3F9 [[0x3C3], [0x3FB]],
  .moved 0x3FD 0x3FF 1 (-0x82),
  .moved 0x400 0x40F 1 0x50,
  .moved 0x410 0x42F 1 0x20,
  .moved 0x460 0x480 2 0x1,
  .moved 0x48A 0x4BE 2 0x1,
  .listed 0x4C0 [[0x4CF]],
  .moved 0x4C1 0x4CD 2 0x1,
  .moved 0x4D0 0x52E 2 0x1,
  .moved 0x531 0x556 1 0x30,
  .listed 0x587 [[0x565, 0x582]],
  .listed 0x675 [[0x627, 0x674], [0x648, 0x674], [0x6C7, 0x674], [0x64A, 0x674]],
  .listed 0xE33 [[0xE4D, 0xE32]],
  .listed 0xEB3 [[0xECD, 0xEB2]],
  .listed 0xEDC [[0xEAB, 0xE99], [0xEAB, 0xEA1]],
  .listed 0xF0C [[0xF0B]],
  .listed 0xF77 [[0xFB2, 0xF71, 0xF80]],
  .listed 0xF79 [[0xFB3, 0xF71, 0xF80]],
  .moved 0x10A0 0x10C5 1 0x1C60,
  .listed 0x10C7 [[0x2D27]],
  .listed 0x10CD [[0x2D2D]],
  .listed 0x10FC [[0x10DC]],
  .moved 0x13F8 0x13FD 1 (-0x8),
  .listed 0x1C80 [[0x432], [0x434], [0x43E], [0x441], [0x442], [0x442], [0x44A], [0x463],
    [0xA64B], [0x1C8A]],
  .moved 0x1C90 0x1CBA 1 (-0xBC0),
  .moved 0x1CBD 0x1CBF 1 (-0xBC0),
  .listed 0x1D2C [[0x61], [0xE6], [0x62]],
  .listed 0x1D30 [[0x64]],
  .moved 0x1D31 0x1D39 2 (-0x1CCC),
  .listed 0x1D32 [[0x1DD]],
  .moved 0x1D34 0x1D3A 2 (-0x1CCC),
  .listed 0x1D3C [[0x6F], [0x223], [0x70], [0x72], [0x74], [0x75], [0x77], [0x61], [0x250],
    [0x251], [0x1D02], [0x62], [0x64], [0x65], [0x259], [0x25B], [0x25C], [0x67]],
  .listed 0x1D4F [[0x6B], [0x6D], [0x14B], [0x6F], [0x254], [0x1D16], [0x1D17], [0x70], [0x74],
    [0x75], [0x1D1D], [0x26F], [0x76], [0x1D25]],
  .moved 0x1D5D 0x1D5F 1 (-0x19AB),
  .listed 0x1D60 [[0x3C6], [0x3C7], [0x69], [0x72], [0x75], [0x76], [0x3B2], [0x3B3], [0x3C1],
    [0x3C6], [0x3C7]],
  .listed 0x1D78 [[0x43D]],
  .listed 0x1D9B [[0x252], [0x63], [0x255], [0xF0], [0x25C], [0x66], [0x25F], [0x261], [0x265]],
  .moved 0x1DA4 0x1DA6 1 (-0x1B3C),
  .listed 0x1DA7 [[0x1D7B], [0x29D], [0x26D], [0x1D85], [0x29F], [0x271], [0x270]],
  .moved 0x1DAE 0x1DB1 1 (-0x1B3C),
  .listed 0x1DB2 [[0x278], [0x282], [0x283], [0x1AB], [0x289], [0x28A], [0x1D1C], [0x28B],
    [0x28C], [0x7A]],
  .moved 0x1DBC 0x1DBE 1 (-0x1B2C),
  .listed 0x1DBF [[0x3B8]],
  .moved 0x1E00 0x1E94 2 0x1,
  .listed 0x1E9A [[0x61, 0x2BE], [0x1E61]],
  .listed 0x1E9E [[0xDF]],
  .moved 0x1EA0 0x1EFE 2 0x1,
  .moved 0x1F08 0x1F0F 1 (-0x8),
  .moved 0x1F18 0x1F1D 1 (-0x8),
  .moved 0x1F28 0x1F2F 1 (-0x8),
  .moved 0x1F38 0x1F3F 1 (-0x8),
  .moved 0x1F48 0x1F4D 1 (-0x8),
  .moved 0x1F59 0x1F5F 2 (-0x8),
  .moved 0x1F68 0x1F6F 1 (-0x8),
  .listed 0x1F80 [[0x1F00, 0x3B9], [0x1F01, 0x3B9], [0x1F02, 0x3B9], [0x1F03, 0x3B9],
    [0x1F04, 0x3B9], [0x1F05, 0x3B9], [0x1F06, 0x3B9], [0x1F07, 0x3B9], [0x1F00, 0x3B9],
    [0x1F01, 0x3B9], [0x1F02, 0x3B9], [0x1F03, 0x3B9], [0x1F04, 0x3B9], [0x1F05, 0x3B9],
    [0x1F06, 0x3B9], [0x1F07, 0x3B9], [0x1F20, 0x3B9], [0x1F21, 0x3B9], [0x1F22, 0x3B9],
    [0x1F23, 0x3B9], [0x1F24, 0x3B9], [0x1F25, 0x3B9], [0x1F26, 0x3B9], [0x1F27, 0x3B9],
    [0x1F20, 0x3B9], [0x1F21, 0x3B9], [0x1F22, 0x3B9], [0x1F23, 0x3B9], [0x1F24, 0x3B9],
    [0x1F25, 0x3B9], [0x1F26, 0x3B9], [0x1F27, 0x3B9], [0x1F60, 0x3B9], [0x1F61, 0x3B9],
    [0x1F62, 0x3B9], [0x1F63, 0x3B9], [0x1F64, 0x3B9], [0x1F65, 0x3B9], [0x1F66, 0x3B9],
    [0x1F67, 0x3B9], [0x1F60, 0x3B9], [0x1F61, 0x3B9], [0x1F62, 0x3B9], [0x1F63, 0x3B9],
    [0x1F64, 0x3B9], [0x1F65, 0x3B9], [0x1F66, 0x3B9], [0x1F67, 0x3B9]],
  .listed 0x1FB2 [[0x1F70, 0x3B9], [0x3B1, 0x3B9], [0x3AC, 0x3B9]],
  .listed 0x1FB7 [[0x1FB6, 0x3B9], [0x1FB0], [0x1FB1], [0x1F70], [0x3AC], [0x3B1, 0x3B9],
    [0x20, 0x313]],
  .listed 0x1FBF [[0x20, 0x313], [0x20, 0x342], [0x20, 0x308, 0x342], [0x1F74, 0x3B9],
    [0x3B7, 0x3B9], [0x3AE, 0x3B9]],
  .listed 0x1FC7 [[0x1FC6, 0x3B9], [0x1F72], [0x3AD], [0x1F74], [0x3AE], [0x3B7, 0x3B9],
    [0x20, 0x313, 0x300], [0x20, 0x313, 0x301], [0x20, 0x313, 0x342]],
  .listed 0x1FD8 [[0x1FD0], [0x1FD1], [0x1F76], [0x3AF]],
  .listed 0x1FDD [[0x20, 0x314, 0x300], [0x20, 0x314, 0x301], [0x20, 0x314, 0x342]],
  .listed 0x1FE8 [[0x1FE0], [0x1FE1], [0x1F7A], [0x3CD], [0x1FE5], [0x20, 0x308, 0x300],
    [0x20, 0x308, 0x301]],
  .listed 0x1FF2 [[0x1F7C, 0x3B9], [0x3C9, 0x3B9], [0x3CE, 0x3B9]],
  .listed 0x1FF7 [[0x1FF6, 0x3B9], [0x1F78], [0x3CC], [0x1F7C], [0x3CE], [0x3C9, 0x3B9],
    [0x20, 0x301], [0x20, 0x314]]]

/-- What the signs and letters from U+2000 to U+FFFF are read as. -/
def signReadings : List Text.CharMap.Row := [
  .listed 0x2000 [[0x20], [0x20], [0x20], [0x20], [0x20], [0x20], [0x20], [0x20], [0x20], [0x20],
    [0x20]],
  .listed 0x2011 [[0x2010]],
  .listed 0x2017 [[0x20, 0x333]],
  .listed 0x202F [[0x20]],
  .listed 0x2033 [[0x2032, 0x2032], [0x2032, 0x2032, 0x2032]],
  .listed 0x2036 [[0x2035, 0x2035], [0x2035, 0x2035, 0x2035]],
  .listed 0x203C [[0x21, 0x21]],
  .listed 0x203E [[0x20, 0x305]],
  .listed 0x2047 [[0x3F, 0x3F], [0x3F, 0x21], [0x21, 0x3F]],
  .listed 0x2057 [[0x2032, 0x2032, 0x2032, 0x2032]],
  .listed 0x205F [[0x20]],
  .listed 0x2070 [[0x30], [0x69]],
  .moved 0x2074 0x2079 1 (-0x2040),
  .listed 0x207A [[0x2B], [0x2212], [0x3D], [0x28], [0x29], [0x6E]],
  .moved 0x2080 0x2089 1 (-0x2050),
  .listed 0x208A [[0x2B], [0x2212], [0x3D], [0x28], [0x29]],
  .listed 0x2090 [[0x61], [0x65], [0x6F], [0x78], [0x259], [0x68]],
  .moved 0x2096 0x2099 1 (-0x202B),
  .listed 0x209A [[0x70], [0x73], [0x74]],
  .listed 0x20A8 [[0x72, 0x73]],
  .listed 0x2100 [[0x61, 0x2F, 0x63], [0x61, 0x2F, 0x73], [0x63], [0xB0, 0x63]],
  .listed 0x2105 [[0x63, 0x2F, 0x6F], [0x63, 0x2F, 0x75], [0x25B]],
  .listed 0x2109 [[0xB0, 0x66], [0x67], [0x68], [0x68], [0x68], [0x68], [0x127], [0x69], [0x69],
    [0x6C], [0x6C]],
  .listed 0x2115 [[0x6E], [0x6E, 0x6F]],
  .moved 0x2119 0x211B 1 (-0x20A9),
  .listed 0x211C [[0x72], [0x72]],
  .listed 0x2120 [[0x73, 0x6D], [0x74, 0x65, 0x6C], [0x74, 0x6D]],
  .listed 0x2124 [[0x7A]],
  .listed 0x2126 [[0x3C9]],
  .listed 0x2128 [[0x7A]],
  .listed 0x212A [[0x6B], [0xE5], [0x62], [0x63]],
  .listed 0x212F [[0x65], [0x65], [0x66], [0x214E], [0x6D], [0x6F]],
  .moved 0x2135 0x2138 1 (-0x1B65),
  .listed 0x2139 [[0x69]],
  .listed 0x213B [[0x66, 0x61, 0x78], [0x3C0], [0x3B3], [0x3B3], [0x3C0], [0x2211]],
  .listed 0x2145 [[0x64], [0x64], [0x65], [0x69], [0x6A]],
  .listed 0x2150 [[0x31, 0x2044, 0x37], [0x31, 0x2044, 0x39], [0x31, 0x2044, 0x31, 0x30],
    [0x31, 0x2044, 0x33], [0x32, 0x2044, 0x33], [0x31, 0x2044, 0x35], [0x32, 0x2044, 0x35],
    [0x33, 0x2044, 0x35], [0x34, 0x2044, 0x35], [0x31, 0x2044, 0x36], [0x35, 0x2044, 0x36],
    [0x31, 0x2044, 0x38], [0x33, 0x2044, 0x38], [0x35, 0x2044, 0x38], [0x37, 0x2044, 0x38],
    [0x31, 0x2044], [0x69], [0x69, 0x69], [0x69, 0x69, 0x69], [0x69, 0x76], [0x76], [0x76, 0x69],
    [0x76, 0x69, 0x69], [0x76, 0x69, 0x69, 0x69], [0x69, 0x78], [0x78], [0x78, 0x69],
    [0x78, 0x69, 0x69], [0x6C], [0x63], [0x64], [0x6D], [0x69], [0x69, 0x69], [0x69, 0x69, 0x69],
    [0x69, 0x76], [0x76], [0x76, 0x69], [0x76, 0x69, 0x69], [0x76, 0x69, 0x69, 0x69],
    [0x69, 0x78], [0x78], [0x78, 0x69], [0x78, 0x69, 0x69], [0x6C], [0x63], [0x64], [0x6D]],
  .listed 0x2183 [[0x2184]],
  .listed 0x2189 [[0x30, 0x2044, 0x33]],
  .listed 0x222C [[0x222B, 0x222B], [0x222B, 0x222B, 0x222B]],
  .listed 0x222F [[0x222E, 0x222E], [0x222E, 0x222E, 0x222E]],
  .moved 0x2460 0x2468 1 (-0x242F),
  .listed 0x2469 [[0x31, 0x30], [0x31, 0x31], [0x31, 0x32], [0x31, 0x33], [0x31, 0x34],
    [0x31, 0x35], [0x31, 0x36], [0x31, 0x37], [0x31, 0x38], [0x31, 0x39], [0x32, 0x30],
    [0x28, 0x31, 0x29], [0x28, 0x32, 0x29], [0x28, 0x33, 0x29], [0x28, 0x34, 0x29],
    [0x28, 0x35, 0x29], [0x28, 0x36, 0x29], [0x28, 0x37, 0x29], [0x28, 0x38, 0x29],
    [0x28, 0x39, 0x29], [0x28, 0x31, 0x30, 0x29], [0x28, 0x31, 0x31, 0x29],
    [0x28, 0x31, 0x32, 0x29], [0x28, 0x31, 0x33, 0x29], [0x28, 0x31, 0x34, 0x29],
    [0x28, 0x31, 0x35, 0x29], [0x28, 0x31, 0x36, 0x29], [0x28, 0x31, 0x37, 0x29],
    [0x28, 0x31, 0x38, 0x29], [0x28, 0x31, 0x39, 0x29], [0x28, 0x32, 0x30, 0x29]],
  .listed 0x249C [[0x28, 0x61, 0x29], [0x28, 0x62, 0x29], [0x28, 0x63, 0x29], [0x28, 0x64, 0x29],
    [0x28, 0x65, 0x29], [0x28, 0x66, 0x29], [0x28, 0x67, 0x29], [0x28, 0x68, 0x29],
    [0x28, 0x69, 0x29], [0x28, 0x6A, 0x29], [0x28, 0x6B, 0x29], [0x28, 0x6C, 0x29],
    [0x28, 0x6D, 0x29], [0x28, 0x6E, 0x29], [0x28, 0x6F, 0x29], [0x28, 0x70, 0x29],
    [0x28, 0x71, 0x29], [0x28, 0x72, 0x29], [0x28, 0x73, 0x29], [0x28, 0x74, 0x29],
    [0x28, 0x75, 0x29], [0x28, 0x76, 0x29], [0x28, 0x77, 0x29], [0x28, 0x78, 0x29],
    [0x28, 0x79, 0x29], [0x28, 0x7A, 0x29]],
  .moved 0x24B6 0x24CF 1 (-0x2455),
  .moved 0x24D0 0x24E9 1 (-0x246F),
  .listed 0x24EA [[0x30]],
  .listed 0x2A0C [[0x222B, 0x222B, 0x222B, 0x222B]],
  .listed 0x2A74 [[0x3A, 0x3A, 0x3D], [0x3D, 0x3D], [0x3D, 0x3D, 0x3D]],
  .moved 0x2C00 0x2C2F 1 0x30,
  .listed 0x2C60 [[0x2C61]],
  .listed 0x2C62 [[0x26B], [0x1D7D], [0x27D]],
  .moved 0x2C67 0x2C6B 2 0x1,
  .listed 0x2C6D [[0x251], [0x271], [0x250], [0x252]],
  .listed 0x2C72 [[0x2C73]],
  .listed 0x2C75 [[0x2C76]],
  .listed 0x2C7C [[0x6A], [0x76], [0x23F], [0x240]],
  .moved 0x2C80 0x2CE2 2 0x1,
  .listed 0x2CEB [[0x2CEC]],
  .listed 0x2CED [[0x2CEE]],
  .listed 0x2CF2 [[0x2CF3]],
  .listed 0x2D6F [[0x2D61]],
  .listed 0x2E9F [[0x6BCD]],
  .listed 0x2EF3 [[0x9F9F]],
  .listed 0x2F00 [[0x4E00], [0x4E28], [0x4E36], [0x4E3F], [0x4E59], [0x4E85], [0x4E8C], [0x4EA0],
    [0x4EBA], [0x513F], [0x5165], [0x516B], [0x5182], [0x5196], [0x51AB], [0x51E0], [0x51F5],
    [0x5200], [0x529B], [0x52F9], [0x5315], [0x531A], [0x5338], [0x5341], [0x535C], [0x5369],
    [0x5382], [0x53B6], [0x53C8], [0x53E3], [0x56D7], [0x571F], [0x58EB], [0x5902], [0x590A],
    [0x5915], [0x5927], [0x5973], [0x5B50], [0x5B80], [0x5BF8], [0x5C0F], [0x5C22], [0x5C38],
    [0x5C6E], [0x5C71], [0x5DDB], [0x5DE5], [0x5DF1], [0x5DFE], [0x5E72], [0x5E7A], [0x5E7F],
    [0x5EF4], [0x5EFE], [0x5F0B], [0x5F13], [0x5F50], [0x5F61], [0x5F73], [0x5FC3], [0x6208],
    [0x6236], [0x624B], [0x652F], [0x6534], [0x6587], [0x6597], [0x65A4], [0x65B9], [0x65E0],
    [0x65E5], [0x66F0], [0x6708], [0x6728], [0x6B20], [0x6B62], [0x6B79], [0x6BB3], [0x6BCB],
    [0x6BD4], [0x6BDB], [0x6C0F], [0x6C14], [0x6C34], [0x706B], [0x722A], [0x7236], [0x723B],
    [0x723F], [0x7247], [0x7259], [0x725B], [0x72AC], [0x7384], [0x7389], [0x74DC], [0x74E6],
    [0x7518], [0x751F], [0x7528], [0x7530], [0x758B], [0x7592], [0x7676], [0x767D], [0x76AE],
    [0x76BF], [0x76EE], [0x77DB], [0x77E2], [0x77F3], [0x793A], [0x79B8], [0x79BE], [0x7A74],
    [0x7ACB], [0x7AF9], [0x7C73], [0x7CF8], [0x7F36], [0x7F51], [0x7F8A], [0x7FBD], [0x8001],
    [0x800C], [0x8012], [0x8033], [0x807F], [0x8089], [0x81E3], [0x81EA], [0x81F3], [0x81FC],
    [0x820C], [0x821B], [0x821F], [0x826E], [0x8272], [0x8278], [0x864D], [0x866B], [0x8840],
    [0x884C], [0x8863], [0x897E], [0x898B], [0x89D2], [0x8A00], [0x8C37], [0x8C46], [0x8C55],
    [0x8C78], [0x8C9D], [0x8D64], [0x8D70], [0x8DB3], [0x8EAB], [0x8ECA], [0x8F9B], [0x8FB0],
    [0x8FB5], [0x9091], [0x9149], [0x91C6], [0x91CC], [0x91D1], [0x9577], [0x9580], [0x961C],
    [0x96B6], [0x96B9], [0x96E8], [0x9751], [0x975E], [0x9762], [0x9769], [0x97CB], [0x97ED],
    [0x97F3], [0x9801], [0x98A8], [0x98DB], [0x98DF], [0x9996], [0x9999], [0x99AC], [0x9AA8],
    [0x9AD8], [0x9ADF], [0x9B25], [0x9B2F], [0x9B32], [0x9B3C], [0x9B5A], [0x9CE5], [0x9E75],
    [0x9E7F], [0x9EA5], [0x9EBB], [0x9EC3], [0x9ECD], [0x9ED1], [0x9EF9], [0x9EFD], [0x9F0E],
    [0x9F13], [0x9F20], [0x9F3B], [0x9F4A], [0x9F52], [0x9F8D], [0x9F9C], [0x9FA0]],
  .listed 0x3000 [[0x20]],
  .listed 0x3002 [[0x2E]],
  .listed 0x3036 [[0x3012]],
  .listed 0x3038 [[0x5341], [0x5344], [0x5345]],
  .listed 0x309B [[0x20, 0x3099], [0x20, 0x309A]],
  .listed 0x309F [[0x3088, 0x308A]],
  .listed 0x30FF [[0x30B3, 0x30C8]],
  .listed 0x3131 [[0x1100], [0x1101], [0x11AA], [0x1102], [0x11AC], [0x11AD]],
  .moved 0x3137 0x3139 1 (-0x2034),
  .moved 0x313A 0x313F 1 (-0x1F8A),
  .listed 0x3140 [[0x111A]],
  .moved 0x3141 0x3143 1 (-0x203B),
  .listed 0x3144 [[0x1121]],
  .moved 0x3145 0x314E 1 (-0x203C),
  .moved 0x314F 0x3163 1 (-0x1FEE),
  .listed 0x3165 [[0x1114], [0x1115], [0x11C7], [0x11C8], [0x11CC], [0x11CE], [0x11D3], [0x11D7],
    [0x11D9], [0x111C], [0x11DD], [0x11DF], [0x111D], [0x111E], [0x1120], [0x1122], [0x1123],
    [0x1127], [0x1129]],
  .moved 0x3178 0x317C 1 (-0x204D),
  .listed 0x317D [[0x1132], [0x1136], [0x1140], [0x1147], [0x114C], [0x11F1], [0x11F2]],
  .moved 0x3184 0x3186 1 (-0x202D),
  .listed 0x3187 [[0x1184], [0x1185], [0x1188], [0x1191], [0x1192], [0x1194], [0x119E], [0x11A1]],
  .listed 0x3192 [[0x4E00], [0x4E8C], [0x4E09], [0x56DB], [0x4E0A], [0x4E2D], [0x4E0B], [0x7532],
    [0x4E59], [0x4E19], [0x4E01], [0x5929], [0x5730], [0x4EBA]],
  .listed 0x3200 [[0x28, 0x1100, 0x29], [0x28, 0x1102, 0x29], [0x28, 0x1103, 0x29],
    [0x28, 0x1105, 0x29], [0x28, 0x1106, 0x29], [0x28, 0x1107, 0x29], [0x28, 0x1109, 0x29],
    [0x28, 0x110B, 0x29], [0x28, 0x110C, 0x29], [0x28, 0x110E, 0x29], [0x28, 0x110F, 0x29],
    [0x28, 0x1110, 0x29], [0x28, 0x1111, 0x29], [0x28, 0x1112, 0x29], [0x28, 0xAC00, 0x29],
    [0x28, 0xB098, 0x29], [0x28, 0xB2E4, 0x29], [0x28, 0xB77C, 0x29], [0x28, 0xB9C8, 0x29],
    [0x28, 0xBC14, 0x29], [0x28, 0xC0AC, 0x29], [0x28, 0xC544, 0x29], [0x28, 0xC790, 0x29],
    [0x28, 0xCC28, 0x29], [0x28, 0xCE74, 0x29], [0x28, 0xD0C0, 0x29], [0x28, 0xD30C, 0x29],
    [0x28, 0xD558, 0x29], [0x28, 0xC8FC, 0x29], [0x28, 0xC624, 0xC804, 0x29],
    [0x28, 0xC624, 0xD6C4, 0x29]],
  .listed 0x3220 [[0x28, 0x4E00, 0x29], [0x28, 0x4E8C, 0x29], [0x28, 0x4E09, 0x29],
    [0x28, 0x56DB, 0x29], [0x28, 0x4E94, 0x29], [0x28, 0x516D, 0x29], [0x28, 0x4E03, 0x29],
    [0x28, 0x516B, 0x29], [0x28, 0x4E5D, 0x29], [0x28, 0x5341, 0x29], [0x28, 0x6708, 0x29],
    [0x28, 0x706B, 0x29], [0x28, 0x6C34, 0x29], [0x28, 0x6728, 0x29], [0x28, 0x91D1, 0x29],
    [0x28, 0x571F, 0x29], [0x28, 0x65E5, 0x29], [0x28, 0x682A, 0x29], [0x28, 0x6709, 0x29],
    [0x28, 0x793E, 0x29], [0x28, 0x540D, 0x29], [0x28, 0x7279, 0x29], [0x28, 0x8CA1, 0x29],
    [0x28, 0x795D, 0x29], [0x28, 0x52B4, 0x29], [0x28, 0x4EE3, 0x29], [0x28, 0x547C, 0x29],
    [0x28, 0x5B66, 0x29], [0x28, 0x76E3, 0x29], [0x28, 0x4F01, 0x29], [0x28, 0x8CC7, 0x29],
    [0x28, 0x5354, 0x29], [0x28, 0x796D, 0x29], [0x28, 0x4F11, 0x29], [0x28, 0x81EA, 0x29],
    [0x28, 0x81F3, 0x29], [0x554F], [0x5E7C], [0x6587], [0x7B8F]],
  .listed 0x3250 [[0x70, 0x74, 0x65], [0x32, 0x31], [0x32, 0x32], [0x32, 0x33], [0x32, 0x34],
    [0x32, 0x35], [0x32, 0x36], [0x32, 0x37], [0x32, 0x38], [0x32, 0x39], [0x33, 0x30],
    [0x33, 0x31], [0x33, 0x32], [0x33, 0x33], [0x33, 0x34], [0x33, 0x35], [0x1100], [0x1102],
    [0x1103]],
  .moved 0x3263 0x3265 1 (-0x215E),
  .listed 0x3266 [[0x1109], [0x110B], [0x110C]],
  .moved 0x3269 0x326D 1 (-0x215B),
  .listed 0x326E [[0xAC00], [0xB098], [0xB2E4], [0xB77C], [0xB9C8], [0xBC14], [0xC0AC], [0xC544],
    [0xC790], [0xCC28], [0xCE74], [0xD0C0], [0xD30C], [0xD558], [0xCC38, 0xACE0],
    [0xC8FC, 0xC758], [0xC6B0]],
  .listed 0x3280 [[0x4E00], [0x4E8C], [0x4E09], [0x56DB], [0x4E94], [0x516D], [0x4E03], [0x516B],
    [0x4E5D], [0x5341], [0x6708], [0x706B], [0x6C34], [0x6728], [0x91D1], [0x571F], [0x65E5],
    [0x682A], [0x6709], [0x793E], [0x540D], [0x7279], [0x8CA1], [0x795D], [0x52B4], [0x79D8],
    [0x7537], [0x5973], [0x9069], [0x512A], [0x5370], [0x6CE8], [0x9805], [0x4F11], [0x5199],
    [0x6B63], [0x4E0A], [0x4E2D], [0x4E0B], [0x5DE6], [0x53F3], [0x533B], [0x5B97], [0x5B66],
    [0x76E3], [0x4F01], [0x8CC7], [0x5354], [0x591C], [0x33, 0x36], [0x33, 0x37], [0x33, 0x38],
    [0x33, 0x39], [0x34, 0x30], [0x34, 0x31], [0x34, 0x32], [0x34, 0x33], [0x34, 0x34],
    [0x34, 0x35], [0x34, 0x36], [0x34, 0x37], [0x34, 0x38], [0x34, 0x39], [0x35, 0x30],
    [0x31, 0x6708], [0x32, 0x6708], [0x33, 0x6708], [0x34, 0x6708], [0x35, 0x6708],
    [0x36, 0x6708], [0x37, 0x6708], [0x38, 0x6708], [0x39, 0x6708], [0x31, 0x30, 0x6708],
    [0x31, 0x31, 0x6708], [0x31, 0x32, 0x6708], [0x68, 0x67], [0x65, 0x72, 0x67], [0x65, 0x76],
    [0x6C, 0x74, 0x64], [0x30A2], [0x30A4], [0x30A6], [0x30A8], [0x30AA], [0x30AB], [0x30AD],
    [0x30AF], [0x30B1], [0x30B3], [0x30B5], [0x30B7], [0x30B9], [0x30BB], [0x30BD], [0x30BF],
    [0x30C1], [0x30C4], [0x30C6], [0x30C8]],
  .moved 0x32E4 0x32E9 1 (-0x21A),
  .listed 0x32EA [[0x30D2], [0x30D5], [0x30D8], [0x30DB]],
  .moved 0x32EE 0x32F2 1 (-0x210),
  .listed 0x32F3 [[0x30E4], [0x30E6]],
  .moved 0x32F5 0x32FA 1 (-0x20D),
  .moved 0x32FB 0x32FE 1 (-0x20C),
  .listed 0x32FF [[0x4EE4, 0x548C], [0x30A2, 0x30D1, 0x30FC, 0x30C8],
    [0x30A2, 0x30EB, 0x30D5, 0x30A1], [0x30A2, 0x30F3, 0x30DA, 0x30A2], [0x30A2, 0x30FC, 0x30EB],
    [0x30A4, 0x30CB, 0x30F3, 0x30B0], [0x30A4, 0x30F3, 0x30C1], [0x30A6, 0x30A9, 0x30F3],
    [0x30A8, 0x30B9, 0x30AF, 0x30FC, 0x30C9], [0x30A8, 0x30FC, 0x30AB, 0x30FC],
    [0x30AA, 0x30F3, 0x30B9], [0x30AA, 0x30FC, 0x30E0], [0x30AB, 0x30A4, 0x30EA],
    [0x30AB, 0x30E9, 0x30C3, 0x30C8], [0x30AB, 0x30ED, 0x30EA, 0x30FC], [0x30AC, 0x30ED, 0x30F3],
    [0x30AC, 0x30F3, 0x30DE], [0x30AE, 0x30AC], [0x30AE, 0x30CB, 0x30FC],
    [0x30AD, 0x30E5, 0x30EA, 0x30FC], [0x30AE, 0x30EB, 0x30C0, 0x30FC], [0x30AD, 0x30ED],
    [0x30AD, 0x30ED, 0x30B0, 0x30E9, 0x30E0], [0x30AD, 0x30ED, 0x30E1, 0x30FC, 0x30C8, 0x30EB],
    [0x30AD, 0x30ED, 0x30EF, 0x30C3, 0x30C8], [0x30B0, 0x30E9, 0x30E0],
    [0x30B0, 0x30E9, 0x30E0, 0x30C8, 0x30F3], [0x30AF, 0x30EB, 0x30BC, 0x30A4, 0x30ED],
    [0x30AF, 0x30ED, 0x30FC, 0x30CD], [0x30B1, 0x30FC, 0x30B9], [0x30B3, 0x30EB, 0x30CA],
    [0x30B3, 0x30FC, 0x30DD], [0x30B5, 0x30A4, 0x30AF, 0x30EB],
    [0x30B5, 0x30F3, 0x30C1, 0x30FC, 0x30E0], [0x30B7, 0x30EA, 0x30F3, 0x30B0],
    [0x30BB, 0x30F3, 0x30C1], [0x30BB, 0x30F3, 0x30C8], [0x30C0, 0x30FC, 0x30B9],
    [0x30C7, 0x30B7], [0x30C9, 0x30EB], [0x30C8, 0x30F3], [0x30CA, 0x30CE],
    [0x30CE, 0x30C3, 0x30C8], [0x30CF, 0x30A4, 0x30C4], [0x30D1, 0x30FC, 0x30BB, 0x30F3, 0x30C8],
    [0x30D1, 0x30FC, 0x30C4], [0x30D0, 0x30FC, 0x30EC, 0x30EB],
    [0x30D4, 0x30A2, 0x30B9, 0x30C8, 0x30EB], [0x30D4, 0x30AF, 0x30EB], [0x30D4, 0x30B3],
    [0x30D3, 0x30EB], [0x30D5, 0x30A1, 0x30E9, 0x30C3, 0x30C9], [0x30D5, 0x30A3, 0x30FC, 0x30C8],
    [0x30D6, 0x30C3, 0x30B7, 0x30A7, 0x30EB], [0x30D5, 0x30E9, 0x30F3],
    [0x30D8, 0x30AF, 0x30BF, 0x30FC, 0x30EB], [0x30DA, 0x30BD], [0x30DA, 0x30CB, 0x30D2],
    [0x30D8, 0x30EB, 0x30C4], [0x30DA, 0x30F3, 0x30B9], [0x30DA, 0x30FC, 0x30B8],
    [0x30D9, 0x30FC, 0x30BF], [0x30DD, 0x30A4, 0x30F3, 0x30C8], [0x30DC, 0x30EB, 0x30C8],
    [0x30DB, 0x30F3], [0x30DD, 0x30F3, 0x30C9], [0x30DB, 0x30FC, 0x30EB],
    [0x30DB, 0x30FC, 0x30F3], [0x30DE, 0x30A4, 0x30AF, 0x30ED], [0x30DE, 0x30A4, 0x30EB],
    [0x30DE, 0x30C3, 0x30CF], [0x30DE, 0x30EB, 0x30AF], [0x30DE, 0x30F3, 0x30B7, 0x30E7, 0x30F3],
    [0x30DF, 0x30AF, 0x30ED, 0x30F3], [0x30DF, 0x30EA], [0x30DF, 0x30EA, 0x30D0, 0x30FC, 0x30EB],
    [0x30E1, 0x30AC], [0x30E1, 0x30AC, 0x30C8, 0x30F3], [0x30E1, 0x30FC, 0x30C8, 0x30EB],
    [0x30E4, 0x30FC, 0x30C9], [0x30E4, 0x30FC, 0x30EB], [0x30E6, 0x30A2, 0x30F3],
    [0x30EA, 0x30C3, 0x30C8, 0x30EB], [0x30EA, 0x30E9], [0x30EB, 0x30D4, 0x30FC],
    [0x30EB, 0x30FC, 0x30D6, 0x30EB], [0x30EC, 0x30E0], [0x30EC, 0x30F3, 0x30C8, 0x30B2, 0x30F3],
    [0x30EF, 0x30C3, 0x30C8], [0x30, 0x70B9], [0x31, 0x70B9], [0x32, 0x70B9], [0x33, 0x70B9],
    [0x34, 0x70B9], [0x35, 0x70B9], [0x36, 0x70B9], [0x37, 0x70B9], [0x38, 0x70B9],
    [0x39, 0x70B9], [0x31, 0x30, 0x70B9], [0x31, 0x31, 0x70B9], [0x31, 0x32, 0x70B9],
    [0x31, 0x33, 0x70B9], [0x31, 0x34, 0x70B9], [0x31, 0x35, 0x70B9], [0x31, 0x36, 0x70B9],
    [0x31, 0x37, 0x70B9], [0x31, 0x38, 0x70B9], [0x31, 0x39, 0x70B9], [0x32, 0x30, 0x70B9],
    [0x32, 0x31, 0x70B9], [0x32, 0x32, 0x70B9], [0x32, 0x33, 0x70B9], [0x32, 0x34, 0x70B9],
    [0x68, 0x70, 0x61], [0x64, 0x61], [0x61, 0x75], [0x62, 0x61, 0x72], [0x6F, 0x76],
    [0x70, 0x63], [0x64, 0x6D], [0x64, 0x6D, 0x32], [0x64, 0x6D, 0x33], [0x69, 0x75],
    [0x5E73, 0x6210], [0x662D, 0x548C], [0x5927, 0x6B63], [0x660E, 0x6CBB],
    [0x682A, 0x5F0F, 0x4F1A, 0x793E], [0x70, 0x61], [0x6E, 0x61], [0x3BC, 0x61], [0x6D, 0x61],
    [0x6B, 0x61], [0x6B, 0x62], [0x6D, 0x62], [0x67, 0x62], [0x63, 0x61, 0x6C],
    [0x6B, 0x63, 0x61, 0x6C], [0x70, 0x66], [0x6E, 0x66], [0x3BC, 0x66], [0x3BC, 0x67],
    [0x6D, 0x67], [0x6B, 0x67], [0x68, 0x7A], [0x6B, 0x68, 0x7A], [0x6D, 0x68, 0x7A],
    [0x67, 0x68, 0x7A], [0x74, 0x68, 0x7A], [0x3BC, 0x6C], [0x6D, 0x6C], [0x64, 0x6C],
    [0x6B, 0x6C], [0x66, 0x6D], [0x6E, 0x6D], [0x3BC, 0x6D], [0x6D, 0x6D], [0x63, 0x6D],
    [0x6B, 0x6D], [0x6D, 0x6D, 0x32], [0x63, 0x6D, 0x32], [0x6D, 0x32], [0x6B, 0x6D, 0x32],
    [0x6D, 0x6D, 0x33], [0x63, 0x6D, 0x33], [0x6D, 0x33], [0x6B, 0x6D, 0x33],
    [0x6D, 0x2215, 0x73], [0x6D, 0x2215, 0x73, 0x32], [0x70, 0x61], [0x6B, 0x70, 0x61],
    [0x6D, 0x70, 0x61], [0x67, 0x70, 0x61], [0x72, 0x61, 0x64], [0x72, 0x61, 0x64, 0x2215, 0x73],
    [0x72, 0x61, 0x64, 0x2215, 0x73, 0x32], [0x70, 0x73], [0x6E, 0x73], [0x3BC, 0x73],
    [0x6D, 0x73], [0x70, 0x76], [0x6E, 0x76], [0x3BC, 0x76], [0x6D, 0x76], [0x6B, 0x76],
    [0x6D, 0x76], [0x70, 0x77], [0x6E, 0x77], [0x3BC, 0x77], [0x6D, 0x77], [0x6B, 0x77],
    [0x6D, 0x77], [0x6B, 0x3C9], [0x6D, 0x3C9]],
  .listed 0x33C3 [[0x62, 0x71], [0x63, 0x63], [0x63, 0x64], [0x63, 0x2215, 0x6B, 0x67]],
  .listed 0x33C8 [[0x64, 0x62], [0x67, 0x79], [0x68, 0x61], [0x68, 0x70], [0x69, 0x6E],
    [0x6B, 0x6B], [0x6B, 0x6D], [0x6B, 0x74], [0x6C, 0x6D], [0x6C, 0x6E], [0x6C, 0x6F, 0x67],
    [0x6C, 0x78], [0x6D, 0x62], [0x6D, 0x69, 0x6C], [0x6D, 0x6F, 0x6C], [0x70, 0x68]],
  .listed 0x33D9 [[0x70, 0x70, 0x6D], [0x70, 0x72], [0x73, 0x72], [0x73, 0x76], [0x77, 0x62],
    [0x76, 0x2215, 0x6D], [0x61, 0x2215, 0x6D], [0x31, 0x65E5], [0x32, 0x65E5], [0x33, 0x65E5],
    [0x34, 0x65E5], [0x35, 0x65E5], [0x36, 0x65E5], [0x37, 0x65E5], [0x38, 0x65E5],
    [0x39, 0x65E5], [0x31, 0x30, 0x65E5], [0x31, 0x31, 0x65E5], [0x31, 0x32, 0x65E5],
    [0x31, 0x33, 0x65E5], [0x31, 0x34, 0x65E5], [0x31, 0x35, 0x65E5], [0x31, 0x36, 0x65E5],
    [0x31, 0x37, 0x65E5], [0x31, 0x38, 0x65E5], [0x31, 0x39, 0x65E5], [0x32, 0x30, 0x65E5],
    [0x32, 0x31, 0x65E5], [0x32, 0x32, 0x65E5], [0x32, 0x33, 0x65E5], [0x32, 0x34, 0x65E5],
    [0x32, 0x35, 0x65E5], [0x32, 0x36, 0x65E5], [0x32, 0x37, 0x65E5], [0x32, 0x38, 0x65E5],
    [0x32, 0x39, 0x65E5], [0x33, 0x30, 0x65E5], [0x33, 0x31, 0x65E5], [0x67, 0x61, 0x6C]],
  .moved 0xA640 0xA66C 2 0x1,
  .moved 0xA680 0xA69A 2 0x1,
  .listed 0xA69C [[0x44A], [0x44C]],
  .moved 0xA722 0xA72E 2 0x1,
  .moved 0xA732 0xA76E 2 0x1,
  .listed 0xA770 [[0xA76F]],
  .listed 0xA779 [[0xA77A]],
  .listed 0xA77B [[0xA77C]],
  .listed 0xA77D [[0x1D79]],
  .moved 0xA77E 0xA786 2 0x1,
  .listed 0xA78B [[0xA78C]],
  .listed 0xA78D [[0x265]],
  .listed 0xA790 [[0xA791]],
  .listed 0xA792 [[0xA793]],
  .moved 0xA796 0xA7A8 2 0x1,
  .listed 0xA7AA [[0x266], [0x25C], [0x261], [0x26C], [0x26A]],
  .listed 0xA7B0 [[0x29E], [0x287], [0x29D], [0xAB53]],
  .moved 0xA7B4 0xA7C2 2 0x1,
  .listed 0xA7C4 [[0xA794], [0x282], [0x1D8E], [0xA7C8]],
  .listed 0xA7C9 [[0xA7CA]],
  .listed 0xA7CB [[0x264]],
  .moved 0xA7CC 0xA7DA 2 0x1,
  .listed 0xA7DC [[0x19B]],
  .listed 0xA7F1 [[0x73], [0x63], [0x66], [0x71], [0xA7F6]],
  .listed 0xA7F8 [[0x127], [0x153]],
  .listed 0xAB5C [[0xA727], [0xAB37], [0x26B], [0xAB52]],
  .listed 0xAB69 [[0x28D]],
  .moved 0xAB70 0xABBF 1 (-0x97D0),
  .listed 0xFB00 [[0x66, 0x66], [0x66, 0x69], [0x66, 0x6C], [0x66, 0x66, 0x69],
    [0x66, 0x66, 0x6C], [0x73, 0x74], [0x73, 0x74]],
  .listed 0xFB13 [[0x574, 0x576], [0x574, 0x565], [0x574, 0x56B], [0x57E, 0x576], [0x574, 0x56D]],
  .listed 0xFB20 [[0x5E2], [0x5D0], [0x5D3], [0x5D4]],
  .moved 0xFB24 0xFB26 1 (-0xF549),
  .listed 0xFB27 [[0x5E8], [0x5EA], [0x2B]],
  .listed 0xFB4F [[0x5D0, 0x5DC], [0x671], [0x671], [0x67B], [0x67B], [0x67B], [0x67B], [0x67E],
    [0x67E], [0x67E], [0x67E], [0x680], [0x680], [0x680], [0x680], [0x67A], [0x67A], [0x67A],
    [0x67A], [0x67F], [0x67F], [0x67F], [0x67F], [0x679], [0x679], [0x679], [0x679], [0x6A4],
    [0x6A4], [0x6A4], [0x6A4], [0x6A6], [0x6A6], [0x6A6], [0x6A6], [0x684], [0x684], [0x684],
    [0x684], [0x683], [0x683], [0x683], [0x683], [0x686], [0x686], [0x686], [0x686], [0x687],
    [0x687], [0x687], [0x687], [0x68D], [0x68D], [0x68C], [0x68C], [0x68E], [0x68E], [0x688],
    [0x688], [0x698], [0x698], [0x691], [0x691], [0x6A9], [0x6A9], [0x6A9], [0x6A9], [0x6AF],
    [0x6AF], [0x6AF], [0x6AF], [0x6B3], [0x6B3], [0x6B3], [0x6B3], [0x6B1], [0x6B1], [0x6B1],
    [0x6B1], [0x6BA], [0x6BA], [0x6BB], [0x6BB], [0x6BB], [0x6BB], [0x6C0], [0x6C0], [0x6C1],
    [0x6C1], [0x6C1], [0x6C1], [0x6BE], [0x6BE], [0x6BE], [0x6BE], [0x6D2], [0x6D2], [0x6D3],
    [0x6D3]],
  .listed 0xFBD3 [[0x6AD], [0x6AD], [0x6AD], [0x6AD], [0x6C7], [0x6C7], [0x6C6], [0x6C6], [0x6C8],
    [0x6C8], [0x6C7, 0x674], [0x6CB], [0x6CB], [0x6C5], [0x6C5], [0x6C9], [0x6C9], [0x6D0],
    [0x6D0], [0x6D0], [0x6D0], [0x649], [0x649], [0x626, 0x627], [0x626, 0x627], [0x626, 0x6D5],
    [0x626, 0x6D5], [0x626, 0x648], [0x626, 0x648], [0x626, 0x6C7], [0x626, 0x6C7],
    [0x626, 0x6C6], [0x626, 0x6C6], [0x626, 0x6C8], [0x626, 0x6C8], [0x626, 0x6D0],
    [0x626, 0x6D0], [0x626, 0x6D0], [0x626, 0x649], [0x626, 0x649], [0x626, 0x649], [0x6CC],
    [0x6CC], [0x6CC], [0x6CC], [0x626, 0x62C], [0x626, 0x62D], [0x626, 0x645], [0x626, 0x649],
    [0x626, 0x64A], [0x628, 0x62C], [0x628, 0x62D], [0x628, 0x62E], [0x628, 0x645],
    [0x628, 0x649], [0x628, 0x64A], [0x62A, 0x62C], [0x62A, 0x62D], [0x62A, 0x62E],
    [0x62A, 0x645], [0x62A, 0x649], [0x62A, 0x64A], [0x62B, 0x62C], [0x62B, 0x645],
    [0x62B, 0x649], [0x62B, 0x64A], [0x62C, 0x62D], [0x62C, 0x645], [0x62D, 0x62C],
    [0x62D, 0x645], [0x62E, 0x62C], [0x62E, 0x62D], [0x62E, 0x645], [0x633, 0x62C],
    [0x633, 0x62D], [0x633, 0x62E], [0x633, 0x645], [0x635, 0x62D], [0x635, 0x645],
    [0x636, 0x62C], [0x636, 0x62D], [0x636, 0x62E], [0x636, 0x645], [0x637, 0x62D],
    [0x637, 0x645], [0x638, 0x645], [0x639, 0x62C], [0x639, 0x645], [0x63A, 0x62C],
    [0x63A, 0x645], [0x641, 0x62C], [0x641, 0x62D], [0x641, 0x62E], [0x641, 0x645],
    [0x641, 0x649], [0x641, 0x64A], [0x642, 0x62D], [0x642, 0x645], [0x642, 0x649],
    [0x642, 0x64A], [0x643, 0x627], [0x643, 0x62C], [0x643, 0x62D], [0x643, 0x62E],
    [0x643, 0x644], [0x643, 0x645], [0x643, 0x649], [0x643, 0x64A], [0x644, 0x62C],
    [0x644, 0x62D], [0x644, 0x62E], [0x644, 0x645], [0x644, 0x649], [0x644, 0x64A],
    [0x645, 0x62C], [0x645, 0x62D], [0x645, 0x62E], [0x645, 0x645], [0x645, 0x649],
    [0x645, 0x64A], [0x646, 0x62C], [0x646, 0x62D], [0x646, 0x62E], [0x646, 0x645],
    [0x646, 0x649], [0x646, 0x64A], [0x647, 0x62C], [0x647, 0x645], [0x647, 0x649],
    [0x647, 0x64A], [0x64A, 0x62C], [0x64A, 0x62D], [0x64A, 0x62E], [0x64A, 0x645],
    [0x64A, 0x649], [0x64A, 0x64A], [0x630, 0x670], [0x631, 0x670], [0x649, 0x670],
    [0x20, 0x64C, 0x651], [0x20, 0x64D, 0x651], [0x20, 0x64E, 0x651], [0x20, 0x64F, 0x651],
    [0x20, 0x650, 0x651], [0x20, 0x651, 0x670], [0x626, 0x631], [0x626, 0x632], [0x626, 0x645],
    [0x626, 0x646], [0x626, 0x649], [0x626, 0x64A], [0x628, 0x631], [0x628, 0x632],
    [0x628, 0x645], [0x628, 0x646], [0x628, 0x649], [0x628, 0x64A], [0x62A, 0x631],
    [0x62A, 0x632], [0x62A, 0x645], [0x62A, 0x646], [0x62A, 0x649], [0x62A, 0x64A],
    [0x62B, 0x631], [0x62B, 0x632], [0x62B, 0x645], [0x62B, 0x646], [0x62B, 0x649],
    [0x62B, 0x64A], [0x641, 0x649], [0x641, 0x64A], [0x642, 0x649], [0x642, 0x64A],
    [0x643, 0x627], [0x643, 0x644], [0x643, 0x645], [0x643, 0x649], [0x643, 0x64A],
    [0x644, 0x645], [0x644, 0x649], [0x644, 0x64A], [0x645, 0x627], [0x645, 0x645],
    [0x646, 0x631], [0x646, 0x632], [0x646, 0x645], [0x646, 0x646], [0x646, 0x649],
    [0x646, 0x64A], [0x649, 0x670], [0x64A, 0x631], [0x64A, 0x632], [0x64A, 0x645],
    [0x64A, 0x646], [0x64A, 0x649], [0x64A, 0x64A], [0x626, 0x62C], [0x626, 0x62D],
    [0x626, 0x62E], [0x626, 0x645], [0x626, 0x647], [0x628, 0x62C], [0x628, 0x62D],
    [0x628, 0x62E], [0x628, 0x645], [0x628, 0x647], [0x62A, 0x62C], [0x62A, 0x62D],
    [0x62A, 0x62E], [0x62A, 0x645], [0x62A, 0x647], [0x62B, 0x645], [0x62C, 0x62D],
    [0x62C, 0x645], [0x62D, 0x62C], [0x62D, 0x645], [0x62E, 0x62C], [0x62E, 0x645],
    [0x633, 0x62C], [0x633, 0x62D], [0x633, 0x62E], [0x633, 0x645], [0x635, 0x62D],
    [0x635, 0x62E], [0x635, 0x645], [0x636, 0x62C], [0x636, 0x62D], [0x636, 0x62E],
    [0x636, 0x645], [0x637, 0x62D], [0x638, 0x645], [0x639, 0x62C], [0x639, 0x645],
    [0x63A, 0x62C], [0x63A, 0x645], [0x641, 0x62C], [0x641, 0x62D], [0x641, 0x62E],
    [0x641, 0x645], [0x642, 0x62D], [0x642, 0x645], [0x643, 0x62C], [0x643, 0x62D],
    [0x643, 0x62E], [0x643, 0x644], [0x643, 0x645], [0x644, 0x62C], [0x644, 0x62D],
    [0x644, 0x62E], [0x644, 0x645], [0x644, 0x647], [0x645, 0x62C], [0x645, 0x62D],
    [0x645, 0x62E], [0x645, 0x645], [0x646, 0x62C], [0x646, 0x62D], [0x646, 0x62E],
    [0x646, 0x645], [0x646, 0x647], [0x647, 0x62C], [0x647, 0x645], [0x647, 0x670],
    [0x64A, 0x62C], [0x64A, 0x62D], [0x64A, 0x62E], [0x64A, 0x645], [0x64A, 0x647],
    [0x626, 0x645], [0x626, 0x647], [0x628, 0x645], [0x628, 0x647], [0x62A, 0x645],
    [0x62A, 0x647], [0x62B, 0x645], [0x62B, 0x647], [0x633, 0x645], [0x633, 0x647],
    [0x634, 0x645], [0x634, 0x647], [0x643, 0x644], [0x643, 0x645], [0x644, 0x645],
    [0x646, 0x645], [0x646, 0x647], [0x64A, 0x645], [0x64A, 0x647], [0x640, 0x64E, 0x651],
    [0x640, 0x64F, 0x651], [0x640, 0x650, 0x651], [0x637, 0x649], [0x637, 0x64A], [0x639, 0x649],
    [0x639, 0x64A], [0x63A, 0x649], [0x63A, 0x64A], [0x633, 0x649], [0x633, 0x64A],
    [0x634, 0x649], [0x634, 0x64A], [0x62D, 0x649], [0x62D, 0x64A], [0x62C, 0x649],
    [0x62C, 0x64A], [0x62E, 0x649], [0x62E, 0x64A], [0x635, 0x649], [0x635, 0x64A],
    [0x636, 0x649], [0x636, 0x64A], [0x634, 0x62C], [0x634, 0x62D], [0x634, 0x62E],
    [0x634, 0x645], [0x634, 0x631], [0x633, 0x631], [0x635, 0x631], [0x636, 0x631],
    [0x637, 0x649], [0x637, 0x64A], [0x639, 0x649], [0x639, 0x64A], [0x63A, 0x649],
    [0x63A, 0x64A], [0x633, 0x649], [0x633, 0x64A], [0x634, 0x649], [0x634, 0x64A],
    [0x62D, 0x649], [0x62D, 0x64A], [0x62C, 0x649], [0x62C, 0x64A], [0x62E, 0x649],
    [0x62E, 0x64A], [0x635, 0x649], [0x635, 0x64A], [0x636, 0x649], [0x636, 0x64A],
    [0x634, 0x62C], [0x634, 0x62D], [0x634, 0x62E], [0x634, 0x645], [0x634, 0x631],
    [0x633, 0x631], [0x635, 0x631], [0x636, 0x631], [0x634, 0x62C], [0x634, 0x62D],
    [0x634, 0x62E], [0x634, 0x645], [0x633, 0x647], [0x634, 0x647], [0x637, 0x645],
    [0x633, 0x62C], [0x633, 0x62D], [0x633, 0x62E], [0x634, 0x62C], [0x634, 0x62D],
    [0x634, 0x62E], [0x637, 0x645], [0x638, 0x645], [0x627, 0x64B], [0x627, 0x64B]],
  .listed 0xFD50 [[0x62A, 0x62C, 0x645], [0x62A, 0x62D, 0x62C], [0x62A, 0x62D, 0x62C],
    [0x62A, 0x62D, 0x645], [0x62A, 0x62E, 0x645], [0x62A, 0x645, 0x62C], [0x62A, 0x645, 0x62D],
    [0x62A, 0x645, 0x62E], [0x62C, 0x645, 0x62D], [0x62C, 0x645, 0x62D], [0x62D, 0x645, 0x64A],
    [0x62D, 0x645, 0x649], [0x633, 0x62D, 0x62C], [0x633, 0x62C, 0x62D], [0x633, 0x62C, 0x649],
    [0x633, 0x645, 0x62D], [0x633, 0x645, 0x62D], [0x633, 0x645, 0x62C], [0x633, 0x645, 0x645],
    [0x633, 0x645, 0x645], [0x635, 0x62D, 0x62D], [0x635, 0x62D, 0x62D], [0x635, 0x645, 0x645],
    [0x634, 0x62D, 0x645], [0x634, 0x62D, 0x645], [0x634, 0x62C, 0x64A], [0x634, 0x645, 0x62E],
    [0x634, 0x645, 0x62E], [0x634, 0x645, 0x645], [0x634, 0x645, 0x645], [0x636, 0x62D, 0x649],
    [0x636, 0x62E, 0x645], [0x636, 0x62E, 0x645], [0x637, 0x645, 0x62D], [0x637, 0x645, 0x62D],
    [0x637, 0x645, 0x645], [0x637, 0x645, 0x64A], [0x639, 0x62C, 0x645], [0x639, 0x645, 0x645],
    [0x639, 0x645, 0x645], [0x639, 0x645, 0x649], [0x63A, 0x645, 0x645], [0x63A, 0x645, 0x64A],
    [0x63A, 0x645, 0x649], [0x641, 0x62E, 0x645], [0x641, 0x62E, 0x645], [0x642, 0x645, 0x62D],
    [0x642, 0x645, 0x645], [0x644, 0x62D, 0x645], [0x644, 0x62D, 0x64A], [0x644, 0x62D, 0x649],
    [0x644, 0x62C, 0x62C], [0x644, 0x62C, 0x62C], [0x644, 0x62E, 0x645], [0x644, 0x62E, 0x645],
    [0x644, 0x645, 0x62D], [0x644, 0x645, 0x62D], [0x645, 0x62D, 0x62C], [0x645, 0x62D, 0x645],
    [0x645, 0x62D, 0x64A], [0x645, 0x62C, 0x62D], [0x645, 0x62C, 0x645], [0x645, 0x62E, 0x62C],
    [0x645, 0x62E, 0x645]],
  .listed 0xFD92 [[0x645, 0x62C, 0x62E], [0x647, 0x645, 0x62C], [0x647, 0x645, 0x645],
    [0x646, 0x62D, 0x645], [0x646, 0x62D, 0x649], [0x646, 0x62C, 0x645], [0x646, 0x62C, 0x645],
    [0x646, 0x62C, 0x649], [0x646, 0x645, 0x64A], [0x646, 0x645, 0x649], [0x64A, 0x645, 0x645],
    [0x64A, 0x645, 0x645], [0x628, 0x62E, 0x64A], [0x62A, 0x62C, 0x64A], [0x62A, 0x62C, 0x649],
    [0x62A, 0x62E, 0x64A], [0x62A, 0x62E, 0x649], [0x62A, 0x645, 0x64A], [0x62A, 0x645, 0x649],
    [0x62C, 0x645, 0x64A], [0x62C, 0x62D, 0x649], [0x62C, 0x645, 0x649], [0x633, 0x62E, 0x649],
    [0x635, 0x62D, 0x64A], [0x634, 0x62D, 0x64A], [0x636, 0x62D, 0x64A], [0x644, 0x62C, 0x64A],
    [0x644, 0x645, 0x64A], [0x64A, 0x62D, 0x64A], [0x64A, 0x62C, 0x64A], [0x64A, 0x645, 0x64A],
    [0x645, 0x645, 0x64A], [0x642, 0x645, 0x64A], [0x646, 0x62D, 0x64A], [0x642, 0x645, 0x62D],
    [0x644, 0x62D, 0x645], [0x639, 0x645, 0x64A], [0x643, 0x645, 0x64A], [0x646, 0x62C, 0x62D],
    [0x645, 0x62E, 0x64A], [0x644, 0x62C, 0x645], [0x643, 0x645, 0x645], [0x644, 0x62C, 0x645],
    [0x646, 0x62C, 0x62D], [0x62C, 0x62D, 0x64A], [0x62D, 0x62C, 0x64A], [0x645, 0x62C, 0x64A],
    [0x641, 0x645, 0x64A], [0x628, 0x62D, 0x64A], [0x643, 0x645, 0x645], [0x639, 0x62C, 0x645],
    [0x635, 0x645, 0x645], [0x633, 0x62E, 0x64A], [0x646, 0x62C, 0x64A]],
  .listed 0xFDF0 [[0x635, 0x644, 0x6D2], [0x642, 0x644, 0x6D2], [0x627, 0x644, 0x644, 0x647],
    [0x627, 0x643, 0x628, 0x631], [0x645, 0x62D, 0x645, 0x62F], [0x635, 0x644, 0x639, 0x645],
    [0x631, 0x633, 0x648, 0x644], [0x639, 0x644, 0x64A, 0x647], [0x648, 0x633, 0x644, 0x645],
    [0x635, 0x644, 0x649],
    [0x635, 0x644, 0x649, 0x20, 0x627, 0x644, 0x644, 0x647, 0x20, 0x639, 0x644, 0x64A, 0x647,
      0x20, 0x648, 0x633, 0x644, 0x645],
    [0x62C, 0x644, 0x20, 0x62C, 0x644, 0x627, 0x644, 0x647], [0x631, 0x6CC, 0x627, 0x644]],
  .listed 0xFE10 [[0x2C], [0x3001]],
  .listed 0xFE13 [[0x3A], [0x3B], [0x21], [0x3F], [0x3016], [0x3017]],
  .listed 0xFE31 [[0x2014], [0x2013], [0x5F], [0x5F], [0x28], [0x29], [0x7B], [0x7D], [0x3014],
    [0x3015], [0x3010], [0x3011], [0x300A], [0x300B], [0x3008], [0x3009]],
  .moved 0xFE41 0xFE44 1 (-0xCE35),
  .listed 0xFE47 [[0x5B], [0x5D], [0x20, 0x305], [0x20, 0x305], [0x20, 0x305], [0x20, 0x305],
    [0x5F], [0x5F], [0x5F], [0x2C], [0x3001]],
  .listed 0xFE54 [[0x3B], [0x3A], [0x3F], [0x21], [0x2014], [0x28], [0x29], [0x7B], [0x7D],
    [0x3014], [0x3015], [0x23], [0x26], [0x2A], [0x2B], [0x2D], [0x3C], [0x3E], [0x3D]],
  .listed 0xFE68 [[0x5C], [0x24], [0x25], [0x40]],
  .listed 0xFE70 [[0x20, 0x64B], [0x640, 0x64B], [0x20, 0x64C]],
  .listed 0xFE74 [[0x20, 0x64D]],
  .listed 0xFE76 [[0x20, 0x64E], [0x640, 0x64E], [0x20, 0x64F], [0x640, 0x64F], [0x20, 0x650],
    [0x640, 0x650], [0x20, 0x651], [0x640, 0x651], [0x20, 0x652], [0x640, 0x652], [0x621],
    [0x622], [0x622], [0x623], [0x623], [0x624], [0x624], [0x625], [0x625], [0x626], [0x626],
    [0x626], [0x626], [0x627], [0x627], [0x628], [0x628], [0x628], [0x628], [0x629], [0x629],
    [0x62A], [0x62A], [0x62A], [0x62A], [0x62B], [0x62B], [0x62B], [0x62B], [0x62C], [0x62C],
    [0x62C], [0x62C], [0x62D], [0x62D], [0x62D], [0x62D], [0x62E], [0x62E], [0x62E], [0x62E],
    [0x62F], [0x62F], [0x630], [0x630], [0x631], [0x631], [0x632], [0x632], [0x633], [0x633],
    [0x633], [0x633], [0x634], [0x634], [0x634], [0x634], [0x635], [0x635], [0x635], [0x635],
    [0x636], [0x636], [0x636], [0x636], [0x637], [0x637], [0x637], [0x637], [0x638], [0x638],
    [0x638], [0x638], [0x639], [0x639], [0x639], [0x639], [0x63A], [0x63A], [0x63A], [0x63A],
    [0x641], [0x641], [0x641], [0x641], [0x642], [0x642], [0x642], [0x642], [0x643], [0x643],
    [0x643], [0x643], [0x644], [0x644], [0x644], [0x644], [0x645], [0x645], [0x645], [0x645],
    [0x646], [0x646], [0x646], [0x646], [0x647], [0x647], [0x647], [0x647], [0x648], [0x648],
    [0x649], [0x649], [0x64A], [0x64A], [0x64A], [0x64A], [0x644, 0x622], [0x644, 0x622],
    [0x644, 0x623], [0x644, 0x623], [0x644, 0x625], [0x644, 0x625], [0x644, 0x627],
    [0x644, 0x627]],
  .moved 0xFF01 0xFF20 1 (-0xFEE0),
  .moved 0xFF21 0xFF3A 1 (-0xFEC0),
  .moved 0xFF3B 0xFF5E 1 (-0xFEE0),
  .listed 0xFF5F [[0x2985], [0x2986], [0x2E], [0x300C], [0x300D], [0x3001], [0x30FB], [0x30F2],
    [0x30A1], [0x30A3], [0x30A5], [0x30A7], [0x30A9], [0x30E3], [0x30E5], [0x30E7], [0x30C3],
    [0x30FC], [0x30A2], [0x30A4], [0x30A6], [0x30A8], [0x30AA], [0x30AB], [0x30AD], [0x30AF],
    [0x30B1], [0x30B3], [0x30B5], [0x30B7], [0x30B9], [0x30BB], [0x30BD], [0x30BF], [0x30C1],
    [0x30C4], [0x30C6], [0x30C8]],
  .moved 0xFF85 0xFF8A 1 (-0xCEBB),
  .listed 0xFF8B [[0x30D2], [0x30D5], [0x30D8], [0x30DB]],
  .moved 0xFF8F 0xFF93 1 (-0xCEB1),
  .listed 0xFF94 [[0x30E4], [0x30E6]],
  .moved 0xFF96 0xFF9B 1 (-0xCEAE),
  .listed 0xFF9C [[0x30EF], [0x30F3], [0x3099], [0x309A]],
  .listed 0xFFA1 [[0x1100], [0x1101], [0x11AA], [0x1102], [0x11AC], [0x11AD]],
  .moved 0xFFA7 0xFFA9 1 (-0xEEA4),
  .moved 0xFFAA 0xFFAF 1 (-0xEDFA),
  .listed 0xFFB0 [[0x111A]],
  .moved 0xFFB1 0xFFB3 1 (-0xEEAB),
  .listed 0xFFB4 [[0x1121]],
  .moved 0xFFB5 0xFFBE 1 (-0xEEAC),
  .moved 0xFFC2 0xFFC7 1 (-0xEE61),
  .moved 0xFFCA 0xFFCF 1 (-0xEE63),
  .moved 0xFFD2 0xFFD7 1 (-0xEE65),
  .moved 0xFFDA 0xFFDC 1 (-0xEE67),
  .listed 0xFFE0 [[0xA2], [0xA3], [0xAC], [0x20, 0x304], [0xA6], [0xA5], [0x20A9]],
  .listed 0xFFE8 [[0x2502]],
  .moved 0xFFE9 0xFFEC 1 (-0xDE59),
  .listed 0xFFED [[0x25A0], [0x25CB]]]

/-- What the characters from U+10000 on are read as. -/
def supplementaryReadings : List Text.CharMap.Row := [
  .moved 0x10400 0x10427 1 0x28,
  .moved 0x104B0 0x104D3 1 0x28,
  .moved 0x10570 0x10594 2 0x27,
  .moved 0x10571 0x10579 2 0x27,
  .moved 0x1057D 0x10589 2 0x27,
  .moved 0x1058D 0x10591 2 0x27,
  .listed 0x10595 [[0x105BC]],
  .listed 0x10781 [[0x2D0], [0x2D1], [0xE6], [0x299], [0x253]],
  .listed 0x10787 [[0x2A3], [0xAB66], [0x2A5], [0x2A4], [0x256], [0x257], [0x1D91], [0x258],
    [0x25E], [0x2A9], [0x264], [0x262], [0x260], [0x29B], [0x127], [0x29C], [0x267], [0x284],
    [0x2AA], [0x2AB], [0x26C], [0x1DF04], [0xA78E], [0x26E], [0x1DF05], [0x28E], [0x1DF06],
    [0xF8], [0x276], [0x277], [0x71], [0x27A], [0x1DF08], [0x27D], [0x27E], [0x280], [0x2A8],
    [0x2A6], [0xAB67], [0x2A7], [0x288], [0x2C71]],
  .listed 0x107B2 [[0x28F], [0x2A1], [0x2A2], [0x298]],
  .moved 0x107B6 0x107B8 1 (-0x105F6),
  .listed 0x107B9 [[0x1DF0A], [0x1DF1E]],
  .moved 0x10C80 0x10CB2 1 0x40,
  .moved 0x10D50 0x10D65 1 0x20,
  .moved 0x118A0 0x118BF 1 0x20,
  .moved 0x16E40 0x16E5F 1 0x20,
  .moved 0x16EA0 0x16EB8 1 0x1B,
  .moved 0x1CCD6 0x1CCEF 1 (-0x1CC75),
  .moved 0x1CCF0 0x1CCF9 1 (-0x1CCC0),
  .moved 0x1D400 0x1D419 1 (-0x1D39F),
  .moved 0x1D41A 0x1D433 1 (-0x1D3B9),
  .moved 0x1D434 0x1D44D 1 (-0x1D3D3),
  .moved 0x1D44E 0x1D466 2 (-0x1D3ED),
  .moved 0x1D44F 0x1D453 2 (-0x1D3ED),
  .moved 0x1D457 0x1D467 2 (-0x1D3ED),
  .moved 0x1D468 0x1D481 1 (-0x1D407),
  .moved 0x1D482 0x1D49B 1 (-0x1D421),
  .listed 0x1D49C [[0x61]],
  .listed 0x1D49E [[0x63], [0x64]],
  .listed 0x1D4A2 [[0x67]],
  .listed 0x1D4A5 [[0x6A], [0x6B]],
  .moved 0x1D4A9 0x1D4AC 1 (-0x1D43B),
  .moved 0x1D4AE 0x1D4B5 1 (-0x1D43B),
  .moved 0x1D4B6 0x1D4B9 1 (-0x1D455),
  .moved 0x1D4BB 0x1D4CF 2 (-0x1D455),
  .moved 0x1D4BE 0x1D4C2 2 (-0x1D455),
  .moved 0x1D4C6 0x1D4CE 2 (-0x1D455),
  .moved 0x1D4D0 0x1D4E9 1 (-0x1D46F),
  .moved 0x1D4EA 0x1D503 1 (-0x1D489),
  .listed 0x1D504 [[0x61]],
  .moved 0x1D505 0x1D509 2 (-0x1D4A3),
  .listed 0x1D508 [[0x65]],
  .listed 0x1D50A [[0x67]],
  .moved 0x1D50D 0x1D514 1 (-0x1D4A3),
  .moved 0x1D516 0x1D51C 1 (-0x1D4A3),
  .moved 0x1D51E 0x1D537 1 (-0x1D4BD),
  .listed 0x1D538 [[0x61]],
  .moved 0x1D539 0x1D53D 2 (-0x1D4D7),
  .moved 0x1D53C 0x1D546 2 (-0x1D4D7),
  .listed 0x1D541 [[0x6A]],
  .listed 0x1D543 [[0x6C]],
  .moved 0x1D54A 0x1D550 1 (-0x1D4D7),
  .moved 0x1D552 0x1D56B 1 (-0x1D4F1),
  .moved 0x1D56C 0x1D585 1 (-0x1D50B),
  .moved 0x1D586 0x1D59F 1 (-0x1D525),
  .moved 0x1D5A0 0x1D5B9 1 (-0x1D53F),
  .moved 0x1D5BA 0x1D5D3 1 (-0x1D559),
  .moved 0x1D5D4 0x1D5ED 1 (-0x1D573),
  .moved 0x1D5EE 0x1D607 1 (-0x1D58D),
  .moved 0x1D608 0x1D621 1 (-0x1D5A7),
  .moved 0x1D622 0x1D63B 1 (-0x1D5C1),
  .moved 0x1D63C 0x1D655 1 (-0x1D5DB),
  .moved 0x1D656 0x1D66F 1 (-0x1D5F5),
  .moved 0x1D670 0x1D689 1 (-0x1D60F),
  .moved 0x1D68A 0x1D6A3 1 (-0x1D629),
  .listed 0x1D6A4 [[0x131], [0x237]],
  .moved 0x1D6A8 0x1D6B8 1 (-0x1D2F7),
  .listed 0x1D6B9 [[0x3B8]],
  .moved 0x1D6BA 0x1D6C0 1 (-0x1D2F7),
  .listed 0x1D6C1 [[0x2207]],
  .moved 0x1D6C2 0x1D6D2 1 (-0x1D311),
  .listed 0x1D6D3 [[0x3C3]],
  .moved 0x1D6D4 0x1D6DA 1 (-0x1D311),
  .listed 0x1D6DB [[0x2202], [0x3B5], [0x3B8], [0x3BA], [0x3C6], [0x3C1], [0x3C0]],
  .moved 0x1D6E2 0x1D6F2 1 (-0x1D331),
  .listed 0x1D6F3 [[0x3B8]],
  .moved 0x1D6F4 0x1D6FA 1 (-0x1D331),
  .listed 0x1D6FB [[0x2207]],
  .moved 0x1D6FC 0x1D70C 1 (-0x1D34B),
  .listed 0x1D70D [[0x3C3]],
  .moved 0x1D70E 0x1D714 1 (-0x1D34B),
  .listed 0x1D715 [[0x2202], [0x3B5], [0x3B8], [0x3BA], [0x3C6], [0x3C1], [0x3C0]],
  .moved 0x1D71C 0x1D72C 1 (-0x1D36B),
  .listed 0x1D72D [[0x3B8]],
  .moved 0x1D72E 0x1D734 1 (-0x1D36B),
  .listed 0x1D735 [[0x2207]],
  .moved 0x1D736 0x1D746 1 (-0x1D385),
  .listed 0x1D747 [[0x3C3]],
  .moved 0x1D748 0x1D74E 1 (-0x1D385),
  .listed 0x1D74F [[0x2202], [0x3B5], [0x3B8], [0x3BA], [0x3C6], [0x3C1], [0x3C0]],
  .moved 0x1D756 0x1D766 1 (-0x1D3A5),
  .listed 0x1D767 [[0x3B8]],
  .moved 0x1D768 0x1D76E 1 (-0x1D3A5),
  .listed 0x1D76F [[0x2207]],
  .moved 0x1D770 0x1D780 1 (-0x1D3BF),
  .listed 0x1D781 [[0x3C3]],
  .moved 0x1D782 0x1D788 1 (-0x1D3BF),
  .listed 0x1D789 [[0x2202], [0x3B5], [0x3B8], [0x3BA], [0x3C6], [0x3C1], [0x3C0]],
  .moved 0x1D790 0x1D7A0 1 (-0x1D3DF),
  .listed 0x1D7A1 [[0x3B8]],
  .moved 0x1D7A2 0x1D7A8 1 (-0x1D3DF),
  .listed 0x1D7A9 [[0x2207]],
  .moved 0x1D7AA 0x1D7BA 1 (-0x1D3F9),
  .listed 0x1D7BB [[0x3C3]],
  .moved 0x1D7BC 0x1D7C2 1 (-0x1D3F9),
  .listed 0x1D7C3 [[0x2202], [0x3B5], [0x3B8], [0x3BA], [0x3C6], [0x3C1], [0x3C0], [0x3DD],
    [0x3DD]],
  .moved 0x1D7CE 0x1D7D7 1 (-0x1D79E),
  .moved 0x1D7D8 0x1D7E1 1 (-0x1D7A8),
  .moved 0x1D7E2 0x1D7EB 1 (-0x1D7B2),
  .moved 0x1D7EC 0x1D7F5 1 (-0x1D7BC),
  .moved 0x1D7F6 0x1D7FF 1 (-0x1D7C6),
  .moved 0x1E030 0x1E038 1 (-0x1DC00),
  .moved 0x1E039 0x1E03B 1 (-0x1DBFF),
  .moved 0x1E03C 0x1E046 1 (-0x1DBFE),
  .listed 0x1E047 [[0x44B], [0x44D], [0x44E], [0xA689], [0x4D9], [0x456], [0x458], [0x4E9],
    [0x4AF], [0x4CF]],
  .moved 0x1E051 0x1E059 1 (-0x1DC21),
  .listed 0x1E05A [[0x43A], [0x43B], [0x43E], [0x43F], [0x441]],
  .moved 0x1E05F 0x1E064 1 (-0x1DC1C),
  .listed 0x1E065 [[0x44A], [0x44B], [0x491], [0x456], [0x455], [0x45F], [0x4AB], [0xA651],
    [0x4B1]],
  .moved 0x1E900 0x1E921 1 0x22,
  .listed 0x1EE00 [[0x627], [0x628], [0x62C], [0x62F]],
  .listed 0x1EE05 [[0x648], [0x632], [0x62D], [0x637], [0x64A]],
  .moved 0x1EE0A 0x1EE0D 1 (-0x1E7C7),
  .listed 0x1EE0E [[0x633], [0x639], [0x641], [0x635], [0x642], [0x631], [0x634], [0x62A],
    [0x62B], [0x62E], [0x630], [0x636], [0x638], [0x63A], [0x66E], [0x6BA], [0x6A1], [0x66F]],
  .listed 0x1EE21 [[0x628], [0x62C]],
  .listed 0x1EE24 [[0x647]],
  .listed 0x1EE27 [[0x62D]],
  .listed 0x1EE29 [[0x64A]],
  .moved 0x1EE2A 0x1EE2D 1 (-0x1E7E7),
  .listed 0x1EE2E [[0x633], [0x639], [0x641], [0x635], [0x642]],
  .listed 0x1EE34 [[0x634], [0x62A], [0x62B], [0x62E]],
  .listed 0x1EE39 [[0x636]],
  .listed 0x1EE3B [[0x63A]],
  .listed 0x1EE42 [[0x62C]],
  .listed 0x1EE47 [[0x62D]],
  .listed 0x1EE49 [[0x64A]],
  .listed 0x1EE4B [[0x644]],
  .listed 0x1EE4D [[0x646], [0x633], [0x639]],
  .listed 0x1EE51 [[0x635], [0x642]],
  .listed 0x1EE54 [[0x634]],
  .listed 0x1EE57 [[0x62E]],
  .listed 0x1EE59 [[0x636]],
  .listed 0x1EE5B [[0x63A]],
  .listed 0x1EE5D [[0x6BA]],
  .listed 0x1EE5F [[0x66F]],
  .listed 0x1EE61 [[0x628], [0x62C]],
  .listed 0x1EE64 [[0x647]],
  .listed 0x1EE67 [[0x62D], [0x637], [0x64A], [0x643]],
  .listed 0x1EE6C [[0x645], [0x646], [0x633], [0x639], [0x641], [0x635], [0x642]],
  .listed 0x1EE74 [[0x634], [0x62A], [0x62B], [0x62E]],
  .listed 0x1EE79 [[0x636], [0x638], [0x63A], [0x66E]],
  .listed 0x1EE7E [[0x6A1]],
  .listed 0x1EE80 [[0x627], [0x628], [0x62C], [0x62F], [0x647], [0x648], [0x632], [0x62D],
    [0x637], [0x64A]],
  .moved 0x1EE8B 0x1EE8D 1 (-0x1E847),
  .listed 0x1EE8E [[0x633], [0x639], [0x641], [0x635], [0x642], [0x631], [0x634], [0x62A],
    [0x62B], [0x62E], [0x630], [0x636], [0x638], [0x63A]],
  .listed 0x1EEA1 [[0x628], [0x62C], [0x62F]],
  .listed 0x1EEA5 [[0x648], [0x632], [0x62D], [0x637], [0x64A]],
  .moved 0x1EEAB 0x1EEAD 1 (-0x1E867),
  .listed 0x1EEAE [[0x633], [0x639], [0x641], [0x635], [0x642], [0x631], [0x634], [0x62A],
    [0x62B], [0x62E], [0x630], [0x636], [0x638], [0x63A]],
  .listed 0x1F101 [[0x30, 0x2C], [0x31, 0x2C], [0x32, 0x2C], [0x33, 0x2C], [0x34, 0x2C],
    [0x35, 0x2C], [0x36, 0x2C], [0x37, 0x2C], [0x38, 0x2C], [0x39, 0x2C]],
  .listed 0x1F110 [[0x28, 0x61, 0x29], [0x28, 0x62, 0x29], [0x28, 0x63, 0x29], [0x28, 0x64, 0x29],
    [0x28, 0x65, 0x29], [0x28, 0x66, 0x29], [0x28, 0x67, 0x29], [0x28, 0x68, 0x29],
    [0x28, 0x69, 0x29], [0x28, 0x6A, 0x29], [0x28, 0x6B, 0x29], [0x28, 0x6C, 0x29],
    [0x28, 0x6D, 0x29], [0x28, 0x6E, 0x29], [0x28, 0x6F, 0x29], [0x28, 0x70, 0x29],
    [0x28, 0x71, 0x29], [0x28, 0x72, 0x29], [0x28, 0x73, 0x29], [0x28, 0x74, 0x29],
    [0x28, 0x75, 0x29], [0x28, 0x76, 0x29], [0x28, 0x77, 0x29], [0x28, 0x78, 0x29],
    [0x28, 0x79, 0x29], [0x28, 0x7A, 0x29], [0x3014, 0x73, 0x3015], [0x63], [0x72], [0x63, 0x64],
    [0x77, 0x7A]],
  .moved 0x1F130 0x1F149 1 (-0x1F0CF),
  .listed 0x1F14A [[0x68, 0x76], [0x6D, 0x76], [0x73, 0x64], [0x73, 0x73], [0x70, 0x70, 0x76],
    [0x77, 0x63]],
  .listed 0x1F16A [[0x6D, 0x63], [0x6D, 0x64], [0x6D, 0x72]],
  .listed 0x1F190 [[0x64, 0x6A]],
  .listed 0x1F200 [[0x307B, 0x304B], [0x30B3, 0x30B3], [0x30B5]],
  .listed 0x1F210 [[0x624B], [0x5B57], [0x53CC], [0x30C7], [0x4E8C], [0x591A], [0x89E3], [0x5929],
    [0x4EA4], [0x6620], [0x7121], [0x6599], [0x524D], [0x5F8C], [0x518D], [0x65B0], [0x521D],
    [0x7D42], [0x751F], [0x8CA9], [0x58F0], [0x5439], [0x6F14], [0x6295], [0x6355], [0x4E00],
    [0x4E09], [0x904A], [0x5DE6], [0x4E2D], [0x53F3], [0x6307], [0x8D70], [0x6253], [0x7981],
    [0x7A7A], [0x5408], [0x6E80], [0x6709], [0x6708], [0x7533], [0x5272], [0x55B6], [0x914D]],
  .listed 0x1F240 [[0x3014, 0x672C, 0x3015], [0x3014, 0x4E09, 0x3015], [0x3014, 0x4E8C, 0x3015],
    [0x3014, 0x5B89, 0x3015], [0x3014, 0x70B9, 0x3015], [0x3014, 0x6253, 0x3015],
    [0x3014, 0x76D7, 0x3015], [0x3014, 0x52DD, 0x3015], [0x3014, 0x6557, 0x3015]],
  .listed 0x1F250 [[0x5F97], [0x53EF]],
  .moved 0x1FBF0 0x1FBF9 1 (-0x1FBC0)]

/-- What characters beyond ASCII are read as. -/
def readings : Text.CharMap :=
  ⟨alphabetReadings ++ signReadings ++ supplementaryReadings⟩

/-- The characters that a name is read without. -/
def ignored : Text.CharSet := ⟨[
  (0xAD, 0xAD), (0x34F, 0x34F), (0x115F, 0x1160), (0x17B4, 0x17B5), (0x180B, 0x180F),
  (0x200B, 0x200B), (0x2060, 0x2064), (0x206A, 0x206F), (0x3164, 0x3164), (0xFE00, 0xFE0F),
  (0xFEFF, 0xFEFF), (0xFFA0, 0xFFA0), (0x1BCA0, 0x1BCA3), (0x1D173, 0x1D17A), (0xE0100, 0xE01EF)]⟩

/-- The characters beyond ASCII that are in no name. -/
def excluded : Text.CharSet := ⟨[
  (0x80, 0x9F), (0x378, 0x379), (0x380, 0x383), (0x38B, 0x38B), (0x38D, 0x38D), (0x3A2, 0x3A2),
  (0x530, 0x530), (0x557, 0x558), (0x58B, 0x58C), (0x590, 0x590), (0x5C8, 0x5CF), (0x5EB, 0x5EE),
  (0x5F5, 0x605), (0x61C, 0x61C), (0x6DD, 0x6DD), (0x70E, 0x70F), (0x74B, 0x74C), (0x7B2, 0x7BF),
  (0x7FB, 0x7FC), (0x82E, 0x82F), (0x83F, 0x83F), (0x85C, 0x85D), (0x85F, 0x85F), (0x86B, 0x86F),
  (0x890, 0x896), (0x8E2, 0x8E2), (0x984, 0x984), (0x98D, 0x98E), (0x991, 0x992), (0x9A9, 0x9A9),
  (0x9B1, 0x9B1), (0x9B3, 0x9B5), (0x9BA, 0x9BB), (0x9C5, 0x9C6), (0x9C9, 0x9CA), (0x9CF, 0x9D6),
  (0x9D8, 0x9DB), (0x9DE, 0x9DE), (0x9E4, 0x9E5), (0x9FF, 0xA00), (0xA04, 0xA04), (0xA0B, 0xA0E),
  (0xA11, 0xA12), (0xA29, 0xA29), (0xA31, 0xA31), (0xA34, 0xA34), (0xA37, 0xA37), (0xA3A, 0xA3B),
  (0xA3D, 0xA3D), (0xA43, 0xA46), (0xA49, 0xA4A), (0xA4E, 0xA50), (0xA52, 0xA58), (0xA5D, 0xA5D),
  (0xA5F, 0xA65), (0xA77, 0xA80), (0xA84, 0xA84), (0xA8E, 0xA8E), (0xA92, 0xA92), (0xAA9, 0xAA9),
  (0xAB1, 0xAB1), (0xAB4, 0xAB4), (0xABA, 0xABB), (0xAC6, 0xAC6), (0xACA, 0xACA), (0xACE, 0xACF),
  (0xAD1, 0xADF), (0xAE4, 0xAE5), (0xAF2, 0xAF8), (0xB00, 0xB00), (0xB04, 0xB04), (0xB0D, 0xB0E),
  (0xB11, 0xB12), (0xB29, 0xB29), (0xB31, 0xB31), (0xB34, 0xB34), (0xB3A, 0xB3B), (0xB45, 0xB46),
  (0xB49, 0xB4A), (0xB4E, 0xB54), (0xB58, 0xB5B), (0xB5E, 0xB5E), (0xB64, 0xB65), (0xB78, 0xB81),
  (0xB84, 0xB84), (0xB8B, 0xB8D), (0xB91, 0xB91), (0xB96, 0xB98), (0xB9B, 0xB9B), (0xB9D, 0xB9D),
  (0xBA0, 0xBA2), (0xBA5, 0xBA7), (0xBAB, 0xBAD), (0xBBA, 0xBBD), (0xBC3, 0xBC5), (0xBC9, 0xBC9),
  (0xBCE, 0xBCF), (0xBD1, 0xBD6), (0xBD8, 0xBE5), (0xBFB, 0xBFF), (0xC0D, 0xC0D), (0xC11, 0xC11),
  (0xC29, 0xC29), (0xC3A, 0xC3B), (0xC45, 0xC45), (0xC49, 0xC49), (0xC4E, 0xC54), (0xC57, 0xC57),
  (0xC5B, 0xC5B), (0xC5E, 0xC5F), (0xC64, 0xC65), (0xC70, 0xC76), (0xC8D, 0xC8D), (0xC91, 0xC91),
  (0xCA9, 0xCA9), (0xCB4, 0xCB4), (0xCBA, 0xCBB), (0xCC5, 0xCC5), (0xCC9, 0xCC9), (0xCCE, 0xCD4),
  (0xCD7, 0xCDB), (0xCDF, 0xCDF), (0xCE4, 0xCE5), (0xCF0, 0xCF0), (0xCF4, 0xCFF), (0xD0D, 0xD0D),
  (0xD11, 0xD11), (0xD45, 0xD45), (0xD49, 0xD49), (0xD50, 0xD53), (0xD64, 0xD65), (0xD80, 0xD80),
  (0xD84, 0xD84), (0xD97, 0xD99), (0xDB2, 0xDB2), (0xDBC, 0xDBC), (0xDBE, 0xDBF), (0xDC7, 0xDC9),
  (0xDCB, 0xDCE), (0xDD5, 0xDD5), (0xDD7, 0xDD7), (0xDE0, 0xDE5), (0xDF0, 0xDF1), (0xDF5, 0xE00),
  (0xE3B, 0xE3E), (0xE5C, 0xE80), (0xE83, 0xE83), (0xE85, 0xE85), (0xE8B, 0xE8B), (0xEA4, 0xEA4),
  (0xEA6, 0xEA6), (0xEBE, 0xEBF), (0xEC5, 0xEC5), (0xEC7, 0xEC7), (0xECF, 0xECF), (0xEDA, 0xEDB),
  (0xEE0, 0xEFF), (0xF48, 0xF48), (0xF6D, 0xF70), (0xF98, 0xF98), (0xFBD, 0xFBD), (0xFCD, 0xFCD),
  (0xFDB, 0xFFF), (0x10C6, 0x10C6), (0x10C8, 0x10CC), (0x10CE, 0x10CF), (0x1249, 0x1249),
  (0x124E, 0x124F), (0x1257, 0x1257), (0x1259, 0x1259), (0x125E, 0x125F), (0x1289, 0x1289),
  (0x128E, 0x128F), (0x12B1, 0x12B1), (0x12B6, 0x12B7), (0x12BF, 0x12BF), (0x12C1, 0x12C1),
  (0x12C6, 0x12C7), (0x12D7, 0x12D7), (0x1311, 0x1311), (0x1316, 0x1317), (0x135B, 0x135C),
  (0x137D, 0x137F), (0x139A, 0x139F), (0x13F6, 0x13F7), (0x13FE, 0x13FF), (0x1680, 0x1680),
  (0x169D, 0x169F), (0x16F9, 0x16FF), (0x1716, 0x171E), (0x1737, 0x173F), (0x1754, 0x175F),
  (0x176D, 0x176D), (0x1771, 0x1771), (0x1774, 0x177F), (0x17DE, 0x17DF), (0x17EA, 0x17EF),
  (0x17FA, 0x17FF), (0x181A, 0x181F), (0x1879, 0x187F), (0x18AB, 0x18AF), (0x18F6, 0x18FF),
  (0x191F, 0x191F), (0x192C, 0x192F), (0x193C, 0x193F), (0x1941, 0x1943), (0x196E, 0x196F),
  (0x1975, 0x197F), (0x19AC, 0x19AF), (0x19CA, 0x19CF), (0x19DB, 0x19DD), (0x1A1C, 0x1A1D),
  (0x1A5F, 0x1A5F), (0x1A7D, 0x1A7E), (0x1A8A, 0x1A8F), (0x1A9A, 0x1A9F), (0x1AAE, 0x1AAF),
  (0x1ADE, 0x1ADF), (0x1AEC, 0x1AFF), (0x1B4D, 0x1B4D), (0x1BF4, 0x1BFB), (0x1C38, 0x1C3A),
  (0x1C4A, 0x1C4C), (0x1C8B, 0x1C8F), (0x1CBB, 0x1CBC), (0x1CC8, 0x1CCF), (0x1CFB, 0x1CFF),
  (0x1F16, 0x1F17), (0x1F1E, 0x1F1F), (0x1F46, 0x1F47), (0x1F4E, 0x1F4F), (0x1F58, 0x1F58),
  (0x1F5A, 0x1F5A), (0x1F5C, 0x1F5C), (0x1F5E, 0x1F5E), (0x1F7E, 0x1F7F), (0x1FB5, 0x1FB5),
  (0x1FC5, 0x1FC5), (0x1FD4, 0x1FD5), (0x1FDC, 0x1FDC), (0x1FF0, 0x1FF1), (0x1FF5, 0x1FF5),
  (0x1FFF, 0x1FFF), (0x200E, 0x200F), (0x2024, 0x2026), (0x2028, 0x202E), (0x2065, 0x2069),
  (0x2072, 0x2073), (0x208F, 0x208F), (0x209D, 0x209F), (0x20C2, 0x20CF), (0x20F1, 0x20FF),
  (0x218C, 0x218F), (0x242A, 0x243F), (0x244B, 0x245F), (0x2488, 0x249B), (0x2B74, 0x2B75),
  (0x2CF4, 0x2CF8), (0x2D26, 0x2D26), (0x2D28, 0x2D2C), (0x2D2E, 0x2D2F), (0x2D68, 0x2D6E),
  (0x2D71, 0x2D7E), (0x2D97, 0x2D9F), (0x2DA7, 0x2DA7), (0x2DAF, 0x2DAF), (0x2DB7, 0x2DB7),
  (0x2DBF, 0x2DBF), (0x2DC7, 0x2DC7), (0x2DCF, 0x2DCF), (0x2DD7, 0x2DD7), (0x2DDF, 0x2DDF),
  (0x2E5E, 0x2E7F), (0x2E9A, 0x2E9A), (0x2EF4, 0x2EFF), (0x2FD6, 0x2FFF), (0x3040, 0x3040),
  (0x3097, 0x3098), (0x3100, 0x3104), (0x3130, 0x3130), (0x318F, 0x318F), (0x31E6, 0x31EF),
  (0x321F, 0x321F), (0x33C2, 0x33C2), (0x33C7, 0x33C7), (0x33D8, 0x33D8), (0xA48D, 0xA48F),
  (0xA4C7, 0xA4CF), (0xA62C, 0xA63F), (0xA6F8, 0xA6FF), (0xA7DD, 0xA7F0), (0xA82D, 0xA82F),
  (0xA83A, 0xA83F), (0xA878, 0xA87F), (0xA8C6, 0xA8CD), (0xA8DA, 0xA8DF), (0xA954, 0xA95E),
  (0xA97D, 0xA97F), (0xA9CE, 0xA9CE), (0xA9DA, 0xA9DD), (0xA9FF, 0xA9FF), (0xAA37, 0xAA3F),
  (0xAA4E, 0xAA4F), (0xAA5A, 0xAA5B), (0xAAC3, 0xAADA), (0xAAF7, 0xAB00), (0xAB07, 0xAB08),
  (0xAB0F, 0xAB10), (0xAB17, 0xAB1F), (0xAB27, 0xAB27), (0xAB2F, 0xAB2F), (0xAB6C, 0xAB6F),
  (0xABEE, 0xABEF), (0xABFA, 0xABFF), (0xD7A4, 0xD7AF), (0xD7C7, 0xD7CA), (0xD7FC, 0xF8FF),
  (0xFA6E, 0xFA6F), (0xFADA, 0xFAFF), (0xFB07, 0xFB12), (0xFB18, 0xFB1C), (0xFB37, 0xFB37),
  (0xFB3D, 0xFB3D), (0xFB3F, 0xFB3F), (0xFB42, 0xFB42), (0xFB45, 0xFB45), (0xFDD0, 0xFDEF),
  (0xFE12, 0xFE12), (0xFE19, 0xFE1F), (0xFE30, 0xFE30), (0xFE52, 0xFE53), (0xFE67, 0xFE67),
  (0xFE6C, 0xFE6F), (0xFE75, 0xFE75), (0xFEFD, 0xFEFE), (0xFF00, 0xFF00), (0xFFBF, 0xFFC1),
  (0xFFC8, 0xFFC9), (0xFFD0, 0xFFD1), (0xFFD8, 0xFFD9), (0xFFDD, 0xFFDF), (0xFFE7, 0xFFE7),
  (0xFFEF, 0xFFFF), (0x1000C, 0x1000C), (0x10027, 0x10027), (0x1003B, 0x1003B),
  (0x1003E, 0x1003E), (0x1004E, 0x1004F), (0x1005E, 0x1007F), (0x100FB, 0x100FF),
  (0x10103, 0x10106), (0x10134, 0x10136), (0x1018F, 0x1018F), (0x1019D, 0x1019F),
  (0x101A1, 0x101CF), (0x101FE, 0x1027F), (0x1029D, 0x1029F), (0x102D1, 0x102DF),
  (0x102FC, 0x102FF), (0x10324, 0x1032C), (0x1034B, 0x1034F), (0x1037B, 0x1037F),
  (0x1039E, 0x1039E), (0x103C4, 0x103C7), (0x103D6, 0x103FF), (0x1049E, 0x1049F),
  (0x104AA, 0x104AF), (0x104D4, 0x104D7), (0x104FC, 0x104FF), (0x10528, 0x1052F),
  (0x10564, 0x1056E), (0x1057B, 0x1057B), (0x1058B, 0x1058B), (0x10593, 0x10593),
  (0x10596, 0x10596), (0x105A2, 0x105A2), (0x105B2, 0x105B2), (0x105BA, 0x105BA),
  (0x105BD, 0x105BF), (0x105F4, 0x105FF), (0x10737, 0x1073F), (0x10756, 0x1075F),
  (0x10768, 0x1077F), (0x10786, 0x10786), (0x107B1, 0x107B1), (0x107BB, 0x107FF),
  (0x10806, 0x10807), (0x10809, 0x10809), (0x10836, 0x10836), (0x10839, 0x1083B),
  (0x1083D, 0x1083E), (0x10856, 0x10856), (0x1089F, 0x108A6), (0x108B0, 0x108DF),
  (0x108F3, 0x108F3), (0x108F6, 0x108FA), (0x1091C, 0x1091E), (0x1093A, 0x1093E),
  (0x1095A, 0x1097F), (0x109B8, 0x109BB), (0x109D0, 0x109D1), (0x10A04, 0x10A04),
  (0x10A07, 0x10A0B), (0x10A14, 0x10A14), (0x10A18, 0x10A18), (0x10A36, 0x10A37),
  (0x10A3B, 0x10A3E), (0x10A49, 0x10A4F), (0x10A59, 0x10A5F), (0x10AA0, 0x10ABF),
  (0x10AE7, 0x10AEA), (0x10AF7, 0x10AFF), (0x10B36, 0x10B38), (0x10B56, 0x10B57),
  (0x10B73, 0x10B77), (0x10B92, 0x10B98), (0x10B9D, 0x10BA8), (0x10BB0, 0x10BFF),
  (0x10C49, 0x10C7F), (0x10CB3, 0x10CBF), (0x10CF3, 0x10CF9), (0x10D28, 0x10D2F),
  (0x10D3A, 0x10D3F), (0x10D66, 0x10D68), (0x10D86, 0x10D8D), (0x10D90, 0x10E5F),
  (0x10E7F, 0x10E7F), (0x10EAA, 0x10EAA), (0x10EAE, 0x10EAF), (0x10EB2, 0x10EC1),
  (0x10EC8, 0x10ECF), (0x10ED9, 0x10EF9), (0x10F28, 0x10F2F), (0x10F5A, 0x10F6F),
  (0x10F8A, 0x10FAF), (0x10FCC, 0x10FDF), (0x10FF7, 0x10FFF), (0x1104E, 0x11051),
  (0x11076, 0x1107E), (0x110BD, 0x110BD), (0x110C3, 0x110CF), (0x110E9, 0x110EF),
  (0x110FA, 0x110FF), (0x11135, 0x11135), (0x11148, 0x1114F), (0x11177, 0x1117F),
  (0x111E0, 0x111E0), (0x111F5, 0x111FF), (0x11212, 0x11212), (0x11242, 0x1127F),
  (0x11287, 0x11287), (0x11289, 0x11289), (0x1128E, 0x1128E), (0x1129E, 0x1129E),
  (0x112AA, 0x112AF), (0x112EB, 0x112EF), (0x112FA, 0x112FF), (0x11304, 0x11304),
  (0x1130D, 0x1130E), (0x11311, 0x11312), (0x11329, 0x11329), (0x11331, 0x11331),
  (0x11334, 0x11334), (0x1133A, 0x1133A), (0x11345, 0x11346), (0x11349, 0x1134A),
  (0x1134E, 0x1134F), (0x11351, 0x11356), (0x11358, 0x1135C), (0x11364, 0x11365),
  (0x1136D, 0x1136F), (0x11375, 0x1137F), (0x1138A, 0x1138A), (0x1138C, 0x1138D),
  (0x1138F, 0x1138F), (0x113B6, 0x113B6), (0x113C1, 0x113C1), (0x113C3, 0x113C4),
  (0x113C6, 0x113C6), (0x113CB, 0x113CB), (0x113D6, 0x113D6), (0x113D9, 0x113E0),
  (0x113E3, 0x113FF), (0x1145C, 0x1145C), (0x11462, 0x1147F), (0x114C8, 0x114CF),
  (0x114DA, 0x1157F), (0x115B6, 0x115B7), (0x115DE, 0x115FF), (0x11645, 0x1164F),
  (0x1165A, 0x1165F), (0x1166D, 0x1167F), (0x116BA, 0x116BF), (0x116CA, 0x116CF),
  (0x116E4, 0x116FF), (0x1171B, 0x1171C), (0x1172C, 0x1172F), (0x11747, 0x117FF),
  (0x1183C, 0x1189F), (0x118F3, 0x118FE), (0x11907, 0x11908), (0x1190A, 0x1190B),
  (0x11914, 0x11914), (0x11917, 0x11917), (0x11936, 0x11936), (0x11939, 0x1193A),
  (0x11947, 0x1194F), (0x1195A, 0x1199F), (0x119A8, 0x119A9), (0x119D8, 0x119D9),
  (0x119E5, 0x119FF), (0x11A48, 0x11A4F), (0x11AA3, 0x11AAF), (0x11AF9, 0x11AFF),
  (0x11B0A, 0x11B5F), (0x11B68, 0x11BBF), (0x11BE2, 0x11BEF), (0x11BFA, 0x11BFF),
  (0x11C09, 0x11C09), (0x11C37, 0x11C37), (0x11C46, 0x11C4F), (0x11C6D, 0x11C6F),
  (0x11C90, 0x11C91), (0x11CA8, 0x11CA8), (0x11CB7, 0x11CFF), (0x11D07, 0x11D07),
  (0x11D0A, 0x11D0A), (0x11D37, 0x11D39), (0x11D3B, 0x11D3B), (0x11D3E, 0x11D3E),
  (0x11D48, 0x11D4F), (0x11D5A, 0x11D5F), (0x11D66, 0x11D66), (0x11D69, 0x11D69),
  (0x11D8F, 0x11D8F), (0x11D92, 0x11D92), (0x11D99, 0x11D9F), (0x11DAA, 0x11DAF),
  (0x11DDC, 0x11DDF), (0x11DEA, 0x11EDF), (0x11EF9, 0x11EFF), (0x11F11, 0x11F11),
  (0x11F3B, 0x11F3D), (0x11F5B, 0x11FAF), (0x11FB1, 0x11FBF), (0x11FF2, 0x11FFE),
  (0x1239A, 0x123FF), (0x1246F, 0x1246F), (0x12475, 0x1247F), (0x12544, 0x12F8F),
  (0x12FF3, 0x12FFF), (0x13430, 0x1343F), (0x13456, 0x1345F), (0x143FB, 0x143FF),
  (0x14647, 0x160FF), (0x1613A, 0x167FF), (0x16A39, 0x16A3F), (0x16A5F, 0x16A5F),
  (0x16A6A, 0x16A6D), (0x16ABF, 0x16ABF), (0x16ACA, 0x16ACF), (0x16AEE, 0x16AEF),
  (0x16AF6, 0x16AFF), (0x16B46, 0x16B4F), (0x16B5A, 0x16B5A), (0x16B62, 0x16B62),
  (0x16B78, 0x16B7C), (0x16B90, 0x16D3F), (0x16D7A, 0x16E3F), (0x16E9B, 0x16E9F),
  (0x16EB9, 0x16EBA), (0x16ED4, 0x16EFF), (0x16F4B, 0x16F4E), (0x16F88, 0x16F8E),
  (0x16FA0, 0x16FDF), (0x16FE5, 0x16FEF), (0x16FF7, 0x16FFF), (0x18CD6, 0x18CFE),
  (0x18D1F, 0x18D7F), (0x18DF3, 0x1AFEF), (0x1AFF4, 0x1AFF4), (0x1AFFC, 0x1AFFC),
  (0x1AFFF, 0x1AFFF), (0x1B123, 0x1B131), (0x1B133, 0x1B14F), (0x1B153, 0x1B154),
  (0x1B156, 0x1B163), (0x1B168, 0x1B16F), (0x1B2FC, 0x1BBFF), (0x1BC6B, 0x1BC6F),
  (0x1BC7D, 0x1BC7F), (0x1BC89, 0x1BC8F), (0x1BC9A, 0x1BC9B), (0x1BCA4, 0x1CBFF),
  (0x1CCFD, 0x1CCFF), (0x1CEB4, 0x1CEB9), (0x1CED1, 0x1CEDF), (0x1CEF1, 0x1CEFF),
  (0x1CF2E, 0x1CF2F), (0x1CF47, 0x1CF4F), (0x1CFC4, 0x1CFFF), (0x1D0F6, 0x1D0FF),
  (0x1D127, 0x1D128), (0x1D1EB, 0x1D1FF), (0x1D246, 0x1D2BF), (0x1D2D4, 0x1D2DF),
  (0x1D2F4, 0x1D2FF), (0x1D357, 0x1D35F), (0x1D379, 0x1D3FF), (0x1D455, 0x1D455),
  (0x1D49D, 0x1D49D), (0x1D4A0, 0x1D4A1), (0x1D4A3, 0x1D4A4), (0x1D4A7, 0x1D4A8),
  (0x1D4AD, 0x1D4AD), (0x1D4BA, 0x1D4BA), (0x1D4BC, 0x1D4BC), (0x1D4C4, 0x1D4C4),
  (0x1D506, 0x1D506), (0x1D50B, 0x1D50C), (0x1D515, 0x1D515), (0x1D51D, 0x1D51D),
  (0x1D53A, 0x1D53A), (0x1D53F, 0x1D53F), (0x1D545, 0x1D545), (0x1D547, 0x1D549),
  (0x1D551, 0x1D551), (0x1D6A6, 0x1D6A7), (0x1D7CC, 0x1D7CD), (0x1DA8C, 0x1DA9A),
  (0x1DAA0, 0x1DAA0), (0x1DAB0, 0x1DEFF), (0x1DF1F, 0x1DF24), (0x1DF2B, 0x1DFFF),
  (0x1E007, 0x1E007), (0x1E019, 0x1E01A), (0x1E022, 0x1E022), (0x1E025, 0x1E025),
  (0x1E02B, 0x1E02F), (0x1E06E, 0x1E08E), (0x1E090, 0x1E0FF), (0x1E12D, 0x1E12F),
  (0x1E13E, 0x1E13F), (0x1E14A, 0x1E14D), (0x1E150, 0x1E28F), (0x1E2AF, 0x1E2BF),
  (0x1E2FA, 0x1E2FE), (0x1E300, 0x1E4CF), (0x1E4FA, 0x1E5CF), (0x1E5FB, 0x1E5FE),
  (0x1E600, 0x1E6BF), (0x1E6DF, 0x1E6DF), (0x1E6F6, 0x1E6FD), (0x1E700, 0x1E7DF),
  (0x1E7E7, 0x1E7E7), (0x1E7EC, 0x1E7EC), (0x1E7EF, 0x1E7EF), (0x1E7FF, 0x1E7FF),
  (0x1E8C5, 0x1E8C6), (0x1E8D7, 0x1E8FF), (0x1E94C, 0x1E94F), (0x1E95A, 0x1E95D),
  (0x1E960, 0x1EC70), (0x1ECB5, 0x1ED00), (0x1ED3E, 0x1EDFF), (0x1EE04, 0x1EE04),
  (0x1EE20, 0x1EE20), (0x1EE23, 0x1EE23), (0x1EE25, 0x1EE26), (0x1EE28, 0x1EE28),
  (0x1EE33, 0x1EE33), (0x1EE38, 0x1EE38), (0x1EE3A, 0x1EE3A), (0x1EE3C, 0x1EE41),
  (0x1EE43, 0x1EE46), (0x1EE48, 0x1EE48), (0x1EE4A, 0x1EE4A), (0x1EE4C, 0x1EE4C),
  (0x1EE50, 0x1EE50), (0x1EE53, 0x1EE53), (0x1EE55, 0x1EE56), (0x1EE58, 0x1EE58),
  (0x1EE5A, 0x1EE5A), (0x1EE5C, 0x1EE5C), (0x1EE5E, 0x1EE5E), (0x1EE60, 0x1EE60),
  (0x1EE63, 0x1EE63), (0x1EE65, 0x1EE66), (0x1EE6B, 0x1EE6B), (0x1EE73, 0x1EE73),
  (0x1EE78, 0x1EE78), (0x1EE7D, 0x1EE7D), (0x1EE7F, 0x1EE7F), (0x1EE8A, 0x1EE8A),
  (0x1EE9C, 0x1EEA0), (0x1EEA4, 0x1EEA4), (0x1EEAA, 0x1EEAA), (0x1EEBC, 0x1EEEF),
  (0x1EEF2, 0x1EFFF), (0x1F02C, 0x1F02F), (0x1F094, 0x1F09F), (0x1F0AF, 0x1F0B0),
  (0x1F0C0, 0x1F0C0), (0x1F0D0, 0x1F0D0), (0x1F0F6, 0x1F100), (0x1F1AE, 0x1F1E5),
  (0x1F203, 0x1F20F), (0x1F23C, 0x1F23F), (0x1F249, 0x1F24F), (0x1F252, 0x1F25F),
  (0x1F266, 0x1F2FF), (0x1F6D9, 0x1F6DB), (0x1F6ED, 0x1F6EF), (0x1F6FD, 0x1F6FF),
  (0x1F7DA, 0x1F7DF), (0x1F7EC, 0x1F7EF), (0x1F7F1, 0x1F7FF), (0x1F80C, 0x1F80F),
  (0x1F848, 0x1F84F), (0x1F85A, 0x1F85F), (0x1F888, 0x1F88F), (0x1F8AE, 0x1F8AF),
  (0x1F8BC, 0x1F8BF), (0x1F8C2, 0x1F8CF), (0x1F8D9, 0x1F8FF), (0x1FA58, 0x1FA5F),
  (0x1FA6E, 0x1FA6F), (0x1FA7D, 0x1FA7F), (0x1FA8B, 0x1FA8D), (0x1FAC7, 0x1FAC7),
  (0x1FAC9, 0x1FACC), (0x1FADD, 0x1FADE), (0x1FAEB, 0x1FAEE), (0x1FAF9, 0x1FAFF),
  (0x1FB93, 0x1FB93), (0x1FBFB, 0x1FFFF), (0x2A6E0, 0x2A6FF), (0x2B81E, 0x2B81F),
  (0x2CEAE, 0x2CEAF), (0x2EBE1, 0x2EBEF), (0x2EE5E, 0x2F7FF), (0x2FA1E, 0x2FFFF),
  (0x3134B, 0x3134F), (0x3347A, 0xE00FF), (0xE01F0, 0x10FFFF)]⟩

/-- What a character is read as in a name; nothing for a character that is in no name. -/
def reading? (c : Char) : Option (List Char) :=
  if c.toNat < 0x80 then some [c.toLower]
  else if excluded.contains c then none
  else if ignored.contains c then some []
  else some ((readings.image? c).getD [c])

end BearerCache.Url.Domain
