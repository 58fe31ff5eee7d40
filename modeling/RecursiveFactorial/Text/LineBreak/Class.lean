import RecursiveFactorial.Text.Hangul

/-!
# Where lines may end: classes

Each character has a class that says where a line may end beside it. The classes are the Unicode
property Line_Break by their usual abbreviations, with every class that is left open there resolved: ambiguous, unknown
and complex characters are letters, and conditional starters do not start a line. The classes of opening and
closing marks, quotation marks and the dotted circle are divided where a rule tells their members apart.
-/
namespace RecursiveFactorial.Text.LineBreak

inductive Class where
  /-- Ends a line for good. -/
  | BK
  /-- Ends a line unless a line feed follows. -/
  | CR
  /-- Line feed. -/
  | LF
  /-- Next line. -/
  | NL
  /-- Space. -/
  | SP
  /-- Zero width space. -/
  | ZW
  /-- Zero width joiner. -/
  | ZWJ
  /-- Word joiner. -/
  | WJ
  /-- Glue: no end of line on either side. -/
  | GL
  /-- Goes with the character before it. -/
  | CM
  /-- Dash, with an end of line on either side. -/
  | B2
  /-- May end a line. -/
  | BA
  /-- May start a line. -/
  | BB
  /-- Depends on what it stands for. -/
  | CB
  /-- Closing punctuation. -/
  | CL
  /-- Closing parenthesis. -/
  | CP
  /-- Exclamation or question mark. -/
  | EX
  /-- Hyphen. -/
  | HY
  /-- Leaders that stay together. -/
  | IN
  /-- Separator inside numbers. -/
  | IS
  /-- May not start a line. -/
  | NS
  /-- Digit. -/
  | NU
  /-- Opening punctuation. -/
  | OP
  /-- Wide opening punctuation. -/
  | OW
  /-- Follows a number. -/
  | PO
  /-- Precedes a number. -/
  | PR
  /-- Quotation mark that may open or close. -/
  | QU
  /-- Quotation mark that opens. -/
  | QI
  /-- Quotation mark that closes. -/
  | QF
  /-- Solidus. -/
  | SY
  /-- Letter or ordinary symbol. -/
  | AL
  /-- Hebrew letter. -/
  | HL
  /-- Dotted circle, which stands for a letter. -/
  | DC
  /-- Letter of a script written in syllables, alone or joined to others. -/
  | AK
  /-- Leads a syllable of such a script. -/
  | AP
  /-- Letter that starts a syllable of such a script. -/
  | AS
  /-- Vowel killer that ends a syllable. -/
  | VF
  /-- Vowel killer that joins letters. -/
  | VI
  /-- Ideograph. -/
  | ID
  /-- Reserved for a pictograph. -/
  | RP
  /-- Takes a skin tone. -/
  | EB
  /-- Skin tone. -/
  | EM
  /-- Regional indicator. -/
  | RI
  /-- Leading letter of a syllable. -/
  | JL
  /-- Vowel letter of a syllable. -/
  | JV
  /-- Trailing letter of a syllable. -/
  | JT
  /-- Syllable without a trailing letter. -/
  | H2
  /-- Syllable with a trailing letter. -/
  | H3
  deriving DecidableEq, Repr

/-- Classes outside Hangul up to U+0FFF: each entry holds up to the next one. -/
def lowClasses : List (Nat × Class) :=
  [(0x0, .CM), (0x9, .BA), (0xa, .LF), (0xb, .BK), (0xd, .CR), (0xe, .CM), (0x20, .SP),
   (0x21, .EX), (0x22, .QU), (0x23, .AL), (0x24, .PR), (0x25, .PO), (0x26, .AL), (0x27, .QU),
   (0x28, .OP), (0x29, .CP), (0x2a, .AL), (0x2b, .PR), (0x2c, .IS), (0x2d, .HY), (0x2e, .IS),
   (0x2f, .SY), (0x30, .NU), (0x3a, .IS), (0x3c, .AL), (0x3f, .EX), (0x40, .AL), (0x5b, .OP),
   (0x5c, .PR), (0x5d, .CP), (0x5e, .AL), (0x7b, .OP), (0x7c, .BA), (0x7d, .CL), (0x7e, .AL),
   (0x7f, .CM), (0x85, .NL), (0x86, .CM), (0xa0, .GL), (0xa1, .OP), (0xa2, .PO), (0xa3, .PR),
   (0xa6, .AL), (0xab, .QI), (0xac, .AL), (0xad, .BA), (0xae, .AL), (0xb0, .PO), (0xb1, .PR),
   (0xb2, .AL), (0xb4, .BB), (0xb5, .AL), (0xbb, .QF), (0xbc, .AL), (0xbf, .OP), (0xc0, .AL),
   (0x2c8, .BB), (0x2c9, .AL), (0x2cc, .BB), (0x2cd, .AL), (0x2df, .BB), (0x2e0, .AL),
   (0x300, .CM), (0x34f, .GL), (0x350, .CM), (0x35c, .GL), (0x363, .CM), (0x370, .AL),
   (0x37e, .IS), (0x37f, .AL), (0x483, .CM), (0x48a, .AL), (0x589, .IS), (0x58a, .BA),
   (0x58b, .AL), (0x58f, .PR), (0x590, .AL), (0x591, .CM), (0x5be, .BA), (0x5bf, .CM),
   (0x5c0, .AL), (0x5c1, .CM), (0x5c3, .AL), (0x5c4, .CM), (0x5c6, .EX), (0x5c7, .CM),
   (0x5c8, .AL), (0x5d0, .HL), (0x5eb, .AL), (0x5ef, .HL), (0x5f3, .AL), (0x600, .NU),
   (0x606, .AL), (0x609, .PO), (0x60c, .IS), (0x60e, .AL), (0x610, .CM), (0x61b, .EX),
   (0x61c, .CM), (0x61d, .EX), (0x620, .AL), (0x64b, .CM), (0x660, .NU), (0x66a, .PO),
   (0x66b, .NU), (0x66d, .AL), (0x670, .CM), (0x671, .AL), (0x6d4, .EX), (0x6d5, .AL),
   (0x6d6, .CM), (0x6dd, .NU), (0x6de, .AL), (0x6df, .CM), (0x6e5, .AL), (0x6e7, .CM),
   (0x6e9, .AL), (0x6ea, .CM), (0x6ee, .AL), (0x6f0, .NU), (0x6fa, .AL), (0x711, .CM),
   (0x712, .AL), (0x730, .CM), (0x74b, .AL), (0x7a6, .CM), (0x7b1, .AL), (0x7c0, .NU),
   (0x7ca, .AL), (0x7eb, .CM), (0x7f4, .AL), (0x7f8, .IS), (0x7f9, .EX), (0x7fa, .AL),
   (0x7fd, .CM), (0x7fe, .PR), (0x800, .AL), (0x816, .CM), (0x81a, .AL), (0x81b, .CM),
   (0x824, .AL), (0x825, .CM), (0x828, .AL), (0x829, .CM), (0x82e, .AL), (0x859, .CM),
   (0x85c, .AL), (0x890, .NU), (0x892, .AL), (0x898, .CM), (0x8a0, .AL), (0x8ca, .CM),
   (0x8e2, .NU), (0x8e3, .CM), (0x904, .AL), (0x93a, .CM), (0x93d, .AL), (0x93e, .CM),
   (0x950, .AL), (0x951, .CM), (0x958, .AL), (0x962, .CM), (0x964, .BA), (0x966, .NU),
   (0x970, .AL), (0x981, .CM), (0x984, .AL), (0x9bc, .CM), (0x9bd, .AL), (0x9be, .CM),
   (0x9c5, .AL), (0x9c7, .CM), (0x9c9, .AL), (0x9cb, .CM), (0x9ce, .AL), (0x9d7, .CM),
   (0x9d8, .AL), (0x9e2, .CM), (0x9e4, .AL), (0x9e6, .NU), (0x9f0, .AL), (0x9f2, .PO),
   (0x9f4, .AL), (0x9f9, .PO), (0x9fa, .AL), (0x9fb, .PR), (0x9fc, .AL), (0x9fe, .CM),
   (0x9ff, .AL), (0xa01, .CM), (0xa04, .AL), (0xa3c, .CM), (0xa3d, .AL), (0xa3e, .CM),
   (0xa43, .AL), (0xa47, .CM), (0xa49, .AL), (0xa4b, .CM), (0xa4e, .AL), (0xa51, .CM),
   (0xa52, .AL), (0xa66, .NU), (0xa70, .CM), (0xa72, .AL), (0xa75, .CM), (0xa76, .AL),
   (0xa81, .CM), (0xa84, .AL), (0xabc, .CM), (0xabd, .AL), (0xabe, .CM), (0xac6, .AL),
   (0xac7, .CM), (0xaca, .AL), (0xacb, .CM), (0xace, .AL), (0xae2, .CM), (0xae4, .AL),
   (0xae6, .NU), (0xaf0, .AL), (0xaf1, .PR), (0xaf2, .AL), (0xafa, .CM), (0xb00, .AL),
   (0xb01, .CM), (0xb04, .AL), (0xb3c, .CM), (0xb3d, .AL), (0xb3e, .CM), (0xb45, .AL),
   (0xb47, .CM), (0xb49, .AL), (0xb4b, .CM), (0xb4e, .AL), (0xb55, .CM), (0xb58, .AL),
   (0xb62, .CM), (0xb64, .AL), (0xb66, .NU), (0xb70, .AL), (0xb82, .CM), (0xb83, .AL),
   (0xbbe, .CM), (0xbc3, .AL), (0xbc6, .CM), (0xbc9, .AL), (0xbca, .CM), (0xbce, .AL),
   (0xbd7, .CM), (0xbd8, .AL), (0xbe6, .NU), (0xbf0, .AL), (0xbf9, .PR), (0xbfa, .AL),
   (0xc00, .CM), (0xc05, .AL), (0xc3c, .CM), (0xc3d, .AL), (0xc3e, .CM), (0xc45, .AL),
   (0xc46, .CM), (0xc49, .AL), (0xc4a, .CM), (0xc4e, .AL), (0xc55, .CM), (0xc57, .AL),
   (0xc62, .CM), (0xc64, .AL), (0xc66, .NU), (0xc70, .AL), (0xc77, .BB), (0xc78, .AL),
   (0xc81, .CM), (0xc84, .BB), (0xc85, .AL), (0xcbc, .CM), (0xcbd, .AL), (0xcbe, .CM),
   (0xcc5, .AL), (0xcc6, .CM), (0xcc9, .AL), (0xcca, .CM), (0xcce, .AL), (0xcd5, .CM),
   (0xcd7, .AL), (0xce2, .CM), (0xce4, .AL), (0xce6, .NU), (0xcf0, .AL), (0xcf3, .CM),
   (0xcf4, .AL), (0xd00, .CM), (0xd04, .AL), (0xd3b, .CM), (0xd3d, .AL), (0xd3e, .CM),
   (0xd45, .AL), (0xd46, .CM), (0xd49, .AL), (0xd4a, .CM), (0xd4e, .AL), (0xd57, .CM),
   (0xd58, .AL), (0xd62, .CM), (0xd64, .AL), (0xd66, .NU), (0xd70, .AL), (0xd79, .PO),
   (0xd7a, .AL), (0xd81, .CM), (0xd84, .AL), (0xdca, .CM), (0xdcb, .AL), (0xdcf, .CM),
   (0xdd5, .AL), (0xdd6, .CM), (0xdd7, .AL), (0xdd8, .CM), (0xde0, .AL), (0xde6, .NU),
   (0xdf0, .AL), (0xdf2, .CM), (0xdf4, .AL), (0xe3f, .PR), (0xe40, .AL), (0xe50, .NU),
   (0xe5a, .BA), (0xe5c, .AL), (0xed0, .NU), (0xeda, .AL), (0xf01, .BB), (0xf05, .AL),
   (0xf06, .BB), (0xf08, .GL), (0xf09, .BB), (0xf0b, .BA), (0xf0c, .GL), (0xf0d, .EX),
   (0xf12, .GL), (0xf13, .AL), (0xf14, .EX), (0xf15, .AL), (0xf18, .CM), (0xf1a, .AL),
   (0xf20, .NU), (0xf2a, .AL), (0xf34, .BA), (0xf35, .CM), (0xf36, .AL), (0xf37, .CM),
   (0xf38, .AL), (0xf39, .CM), (0xf3a, .OP), (0xf3b, .CL), (0xf3c, .OP), (0xf3d, .CL),
   (0xf3e, .CM), (0xf40, .AL), (0xf71, .CM), (0xf7f, .BA), (0xf80, .CM), (0xf85, .BA),
   (0xf86, .CM), (0xf88, .AL), (0xf8d, .CM), (0xf98, .AL), (0xf99, .CM), (0xfbd, .AL),
   (0xfbe, .BA), (0xfc0, .AL), (0xfc6, .CM), (0xfc7, .AL), (0xfd0, .BB), (0xfd2, .BA),
   (0xfd3, .BB), (0xfd4, .AL), (0xfd9, .GL), (0xfdb, .AL)]

/-- Classes outside Hangul from U+1000 to U+1FFF: each entry holds up to the next one. -/
def scriptClasses : List (Nat × Class) :=
  [(0x1000, .AL), (0x1040, .NU), (0x104a, .BA), (0x104c, .AL), (0x1090, .NU), (0x109a, .AL),
   (0x135d, .CM), (0x1360, .AL), (0x1361, .BA), (0x1362, .AL), (0x1400, .BA), (0x1401, .AL),
   (0x1680, .BA), (0x1681, .AL), (0x169b, .OP), (0x169c, .CL), (0x169d, .AL), (0x16eb, .BA),
   (0x16ee, .AL), (0x1712, .CM), (0x1716, .AL), (0x1732, .CM), (0x1735, .BA), (0x1737, .AL),
   (0x1752, .CM), (0x1754, .AL), (0x1772, .CM), (0x1774, .AL), (0x17d4, .BA), (0x17d6, .NS),
   (0x17d7, .AL), (0x17d8, .BA), (0x17d9, .AL), (0x17da, .BA), (0x17db, .PR), (0x17dc, .AL),
   (0x17e0, .NU), (0x17ea, .AL), (0x1802, .EX), (0x1804, .BA), (0x1806, .BB), (0x1807, .AL),
   (0x1808, .EX), (0x180a, .AL), (0x180b, .CM), (0x180e, .GL), (0x180f, .CM), (0x1810, .NU),
   (0x181a, .AL), (0x1885, .CM), (0x1887, .AL), (0x18a9, .CM), (0x18aa, .AL), (0x1920, .CM),
   (0x192c, .AL), (0x1930, .CM), (0x193c, .AL), (0x1944, .EX), (0x1946, .NU), (0x1950, .AL),
   (0x19d0, .NU), (0x19da, .AL), (0x1a17, .CM), (0x1a1c, .AL), (0x1a7f, .CM), (0x1a80, .NU),
   (0x1a8a, .AL), (0x1a90, .NU), (0x1a9a, .AL), (0x1ab0, .CM), (0x1acf, .AL), (0x1b00, .CM),
   (0x1b05, .AK), (0x1b34, .CM), (0x1b44, .VI), (0x1b45, .AK), (0x1b4d, .AL), (0x1b50, .ID),
   (0x1b5a, .BA), (0x1b5c, .ID), (0x1b5d, .BA), (0x1b61, .ID), (0x1b6b, .CM), (0x1b74, .ID),
   (0x1b7d, .BA), (0x1b7f, .AL), (0x1b80, .CM), (0x1b83, .AL), (0x1ba1, .CM), (0x1bae, .AL),
   (0x1bb0, .NU), (0x1bba, .AL), (0x1bc0, .AS), (0x1be6, .CM), (0x1bf2, .VF), (0x1bf4, .AL),
   (0x1c24, .CM), (0x1c38, .AL), (0x1c3b, .BA), (0x1c40, .NU), (0x1c4a, .AL), (0x1c50, .NU),
   (0x1c5a, .AL), (0x1c7e, .BA), (0x1c80, .AL), (0x1cd0, .CM), (0x1cd3, .AL), (0x1cd4, .CM),
   (0x1ce9, .AL), (0x1ced, .CM), (0x1cee, .AL), (0x1cf4, .CM), (0x1cf5, .AL), (0x1cf7, .CM),
   (0x1cfa, .AL), (0x1dc0, .CM), (0x1dcd, .GL), (0x1dce, .CM), (0x1dfc, .GL), (0x1dfd, .CM),
   (0x1e00, .AL), (0x1ffd, .BB), (0x1ffe, .AL)]

/-- Classes outside Hangul from U+2000 to U+FFFF: each entry holds up to the next one. -/
def symbolClasses : List (Nat × Class) :=
  [(0x2000, .BA), (0x2007, .GL), (0x2008, .BA), (0x200b, .ZW), (0x200c, .CM), (0x200d, .ZWJ),
   (0x200e, .CM), (0x2010, .BA), (0x2011, .GL), (0x2012, .BA), (0x2014, .B2), (0x2015, .AL),
   (0x2018, .QI), (0x2019, .QF), (0x201a, .OP), (0x201b, .QI), (0x201d, .QF), (0x201e, .OP),
   (0x201f, .QI), (0x2020, .AL), (0x2024, .IN), (0x2027, .BA), (0x2028, .BK), (0x202a, .CM),
   (0x202f, .GL), (0x2030, .PO), (0x2038, .AL), (0x2039, .QI), (0x203a, .QF), (0x203b, .AL),
   (0x203c, .NS), (0x203e, .AL), (0x2044, .IS), (0x2045, .OP), (0x2046, .CL), (0x2047, .NS),
   (0x204a, .AL), (0x2056, .BA), (0x2057, .PO), (0x2058, .BA), (0x205c, .AL), (0x205d, .BA),
   (0x2060, .WJ), (0x2061, .AL), (0x2066, .CM), (0x2070, .AL), (0x207d, .OP), (0x207e, .CL),
   (0x207f, .AL), (0x208d, .OP), (0x208e, .CL), (0x208f, .AL), (0x20a0, .PR), (0x20a7, .PO),
   (0x20a8, .PR), (0x20b6, .PO), (0x20b7, .PR), (0x20bb, .PO), (0x20bc, .PR), (0x20be, .PO),
   (0x20bf, .PR), (0x20c0, .PO), (0x20c1, .PR), (0x20d0, .CM), (0x20f1, .AL), (0x2103, .PO),
   (0x2104, .AL), (0x2109, .PO), (0x210a, .AL), (0x2116, .PR), (0x2117, .AL), (0x2212, .PR),
   (0x2214, .AL), (0x22ef, .IN), (0x22f0, .AL), (0x2308, .OP), (0x2309, .CL), (0x230a, .OP),
   (0x230b, .CL), (0x230c, .AL), (0x231a, .ID), (0x231c, .AL), (0x2329, .OW), (0x232a, .CL),
   (0x232b, .AL), (0x23f0, .ID), (0x23f4, .AL), (0x25cc, .DC), (0x25cd, .AL), (0x2600, .ID),
   (0x2604, .AL), (0x2614, .ID), (0x2616, .AL), (0x2618, .ID), (0x2619, .AL), (0x261a, .ID),
   (0x261d, .EB), (0x261e, .ID), (0x2620, .AL), (0x2639, .ID), (0x263c, .AL), (0x2668, .ID),
   (0x2669, .AL), (0x267f, .ID), (0x2680, .AL), (0x26bd, .ID), (0x26c9, .AL), (0x26cd, .ID),
   (0x26ce, .AL), (0x26cf, .ID), (0x26d2, .AL), (0x26d3, .ID), (0x26d5, .AL), (0x26d8, .ID),
   (0x26da, .AL), (0x26dc, .ID), (0x26dd, .AL), (0x26df, .ID), (0x26e2, .AL), (0x26ea, .ID),
   (0x26eb, .AL), (0x26f1, .ID), (0x26f6, .AL), (0x26f7, .ID), (0x26f9, .EB), (0x26fa, .ID),
   (0x26fb, .AL), (0x26fd, .ID), (0x2705, .AL), (0x2708, .ID), (0x270a, .EB), (0x270e, .AL),
   (0x275b, .QU), (0x2761, .AL), (0x2762, .EX), (0x2764, .ID), (0x2765, .AL), (0x2768, .OP),
   (0x2769, .CL), (0x276a, .OP), (0x276b, .CL), (0x276c, .OP), (0x276d, .CL), (0x276e, .OP),
   (0x276f, .CL), (0x2770, .OP), (0x2771, .CL), (0x2772, .OP), (0x2773, .CL), (0x2774, .OP),
   (0x2775, .CL), (0x2776, .AL), (0x27c5, .OP), (0x27c6, .CL), (0x27c7, .AL), (0x27e6, .OP),
   (0x27e7, .CL), (0x27e8, .OP), (0x27e9, .CL), (0x27ea, .OP), (0x27eb, .CL), (0x27ec, .OP),
   (0x27ed, .CL), (0x27ee, .OP), (0x27ef, .CL), (0x27f0, .AL), (0x2983, .OP), (0x2984, .CL),
   (0x2985, .OP), (0x2986, .CL), (0x2987, .OP), (0x2988, .CL), (0x2989, .OP), (0x298a, .CL),
   (0x298b, .OP), (0x298c, .CL), (0x298d, .OP), (0x298e, .CL), (0x298f, .OP), (0x2990, .CL),
   (0x2991, .OP), (0x2992, .CL), (0x2993, .OP), (0x2994, .CL), (0x2995, .OP), (0x2996, .CL),
   (0x2997, .OP), (0x2998, .CL), (0x2999, .AL), (0x29d8, .OP), (0x29d9, .CL), (0x29da, .OP),
   (0x29db, .CL), (0x29dc, .AL), (0x29fc, .OP), (0x29fd, .CL), (0x29fe, .AL), (0x2cef, .CM),
   (0x2cf2, .AL), (0x2cf9, .EX), (0x2cfa, .BA), (0x2cfd, .AL), (0x2cfe, .EX), (0x2cff, .BA),
   (0x2d00, .AL), (0x2d70, .BA), (0x2d71, .AL), (0x2d7f, .CM), (0x2d80, .AL), (0x2de0, .CM),
   (0x2e00, .QU), (0x2e02, .QI), (0x2e03, .QF), (0x2e04, .QI), (0x2e05, .QF), (0x2e06, .QU),
   (0x2e09, .QI), (0x2e0a, .QF), (0x2e0b, .QU), (0x2e0c, .QI), (0x2e0d, .QF), (0x2e0e, .BA),
   (0x2e16, .AL), (0x2e17, .BA), (0x2e18, .OP), (0x2e19, .BA), (0x2e1a, .AL), (0x2e1c, .QI),
   (0x2e1d, .QF), (0x2e1e, .AL), (0x2e20, .QI), (0x2e21, .QF), (0x2e22, .OP), (0x2e23, .CL),
   (0x2e24, .OP), (0x2e25, .CL), (0x2e26, .OP), (0x2e27, .CL), (0x2e28, .OP), (0x2e29, .CL),
   (0x2e2a, .BA), (0x2e2e, .EX), (0x2e2f, .AL), (0x2e30, .BA), (0x2e32, .AL), (0x2e33, .BA),
   (0x2e35, .AL), (0x2e3a, .B2), (0x2e3c, .BA), (0x2e3f, .AL), (0x2e40, .BA), (0x2e42, .OP),
   (0x2e43, .BA), (0x2e4b, .AL), (0x2e4c, .BA), (0x2e4d, .AL), (0x2e4e, .BA), (0x2e50, .AL),
   (0x2e53, .EX), (0x2e55, .OP), (0x2e56, .CL), (0x2e57, .OP), (0x2e58, .CL), (0x2e59, .OP),
   (0x2e5a, .CL), (0x2e5b, .OP), (0x2e5c, .CL), (0x2e5d, .BA), (0x2e5e, .AL), (0x2e80, .ID),
   (0x2e9a, .AL), (0x2e9b, .ID), (0x2ef4, .AL), (0x2f00, .ID), (0x2fd6, .AL), (0x2ff0, .ID),
   (0x3000, .BA), (0x3001, .CL), (0x3003, .ID), (0x3005, .NS), (0x3006, .ID), (0x3008, .OW),
   (0x3009, .CL), (0x300a, .OW), (0x300b, .CL), (0x300c, .OW), (0x300d, .CL), (0x300e, .OW),
   (0x300f, .CL), (0x3010, .OW), (0x3011, .CL), (0x3012, .ID), (0x3014, .OW), (0x3015, .CL),
   (0x3016, .OW), (0x3017, .CL), (0x3018, .OW), (0x3019, .CL), (0x301a, .OW), (0x301b, .CL),
   (0x301c, .NS), (0x301d, .OW), (0x301e, .CL), (0x3020, .ID), (0x302a, .CM), (0x3030, .ID),
   (0x3035, .CM), (0x3036, .ID), (0x303b, .NS), (0x303d, .ID), (0x3040, .AL), (0x3041, .NS),
   (0x3042, .ID), (0x3043, .NS), (0x3044, .ID), (0x3045, .NS), (0x3046, .ID), (0x3047, .NS),
   (0x3048, .ID), (0x3049, .NS), (0x304a, .ID), (0x3063, .NS), (0x3064, .ID), (0x3083, .NS),
   (0x3084, .ID), (0x3085, .NS), (0x3086, .ID), (0x3087, .NS), (0x3088, .ID), (0x308e, .NS),
   (0x308f, .ID), (0x3095, .NS), (0x3097, .AL), (0x3099, .CM), (0x309b, .NS), (0x309f, .ID),
   (0x30a0, .NS), (0x30a2, .ID), (0x30a3, .NS), (0x30a4, .ID), (0x30a5, .NS), (0x30a6, .ID),
   (0x30a7, .NS), (0x30a8, .ID), (0x30a9, .NS), (0x30aa, .ID), (0x30c3, .NS), (0x30c4, .ID),
   (0x30e3, .NS), (0x30e4, .ID), (0x30e5, .NS), (0x30e6, .ID), (0x30e7, .NS), (0x30e8, .ID),
   (0x30ee, .NS), (0x30ef, .ID), (0x30f5, .NS), (0x30f7, .ID), (0x30fb, .NS), (0x30ff, .ID),
   (0x3100, .AL), (0x3105, .ID), (0x3130, .AL), (0x3131, .ID), (0x318f, .AL), (0x3190, .ID),
   (0x31e4, .AL), (0x31ef, .ID), (0x31f0, .NS), (0x3200, .ID), (0x321f, .AL), (0x3220, .ID),
   (0x3248, .AL), (0x3250, .ID), (0x4dc0, .AL), (0x4e00, .ID), (0xa015, .NS), (0xa016, .ID),
   (0xa48d, .AL), (0xa490, .ID), (0xa4c7, .AL), (0xa4fe, .BA), (0xa500, .AL), (0xa60d, .BA),
   (0xa60e, .EX), (0xa60f, .BA), (0xa610, .AL), (0xa620, .NU), (0xa62a, .AL), (0xa66f, .CM),
   (0xa673, .AL), (0xa674, .CM), (0xa67e, .AL), (0xa69e, .CM), (0xa6a0, .AL), (0xa6f0, .CM),
   (0xa6f2, .AL), (0xa6f3, .BA), (0xa6f8, .AL), (0xa802, .CM), (0xa803, .AL), (0xa806, .CM),
   (0xa807, .AL), (0xa80b, .CM), (0xa80c, .AL), (0xa823, .CM), (0xa828, .AL), (0xa82c, .CM),
   (0xa82d, .AL), (0xa838, .PO), (0xa839, .AL), (0xa874, .BB), (0xa876, .EX), (0xa878, .AL),
   (0xa880, .CM), (0xa882, .AL), (0xa8b4, .CM), (0xa8c6, .AL), (0xa8ce, .BA), (0xa8d0, .NU),
   (0xa8da, .AL), (0xa8e0, .CM), (0xa8f2, .AL), (0xa8fc, .BB), (0xa8fd, .AL), (0xa8ff, .CM),
   (0xa900, .NU), (0xa90a, .AL), (0xa926, .CM), (0xa92e, .BA), (0xa930, .AL), (0xa947, .CM),
   (0xa954, .AL), (0xa980, .CM), (0xa984, .AK), (0xa9b3, .CM), (0xa9c0, .VI), (0xa9c1, .ID),
   (0xa9c7, .BA), (0xa9ca, .ID), (0xa9ce, .AL), (0xa9cf, .BA), (0xa9d0, .ID), (0xa9da, .AL),
   (0xa9de, .ID), (0xa9e0, .AL), (0xa9f0, .NU), (0xa9fa, .AL), (0xaa00, .AS), (0xaa29, .CM),
   (0xaa37, .AL), (0xaa40, .BA), (0xaa43, .CM), (0xaa44, .BA), (0xaa4c, .CM), (0xaa4e, .AL),
   (0xaa50, .ID), (0xaa5a, .AL), (0xaa5c, .ID), (0xaa5d, .BA), (0xaa60, .AL), (0xaaeb, .CM),
   (0xaaf0, .BA), (0xaaf2, .AL), (0xaaf5, .CM), (0xaaf7, .AL), (0xabe3, .CM), (0xabeb, .BA),
   (0xabec, .CM), (0xabee, .AL), (0xabf0, .NU), (0xabfa, .AL), (0xf900, .ID), (0xfb00, .AL),
   (0xfb1d, .HL), (0xfb1e, .CM), (0xfb1f, .HL), (0xfb29, .AL), (0xfb2a, .HL), (0xfb37, .AL),
   (0xfb38, .HL), (0xfb3d, .AL), (0xfb3e, .HL), (0xfb3f, .AL), (0xfb40, .HL), (0xfb42, .AL),
   (0xfb43, .HL), (0xfb45, .AL), (0xfb46, .HL), (0xfb50, .AL), (0xfd3e, .CL), (0xfd3f, .OP),
   (0xfd40, .AL), (0xfdfc, .PO), (0xfdfd, .AL), (0xfe00, .CM), (0xfe10, .IS), (0xfe11, .CL),
   (0xfe13, .IS), (0xfe15, .EX), (0xfe17, .OW), (0xfe18, .CL), (0xfe19, .IN), (0xfe1a, .AL),
   (0xfe20, .CM), (0xfe30, .ID), (0xfe35, .OW), (0xfe36, .CL), (0xfe37, .OW), (0xfe38, .CL),
   (0xfe39, .OW), (0xfe3a, .CL), (0xfe3b, .OW), (0xfe3c, .CL), (0xfe3d, .OW), (0xfe3e, .CL),
   (0xfe3f, .OW), (0xfe40, .CL), (0xfe41, .OW), (0xfe42, .CL), (0xfe43, .OW), (0xfe44, .CL),
   (0xfe45, .ID), (0xfe47, .OW), (0xfe48, .CL), (0xfe49, .ID), (0xfe50, .CL), (0xfe51, .ID),
   (0xfe52, .CL), (0xfe53, .AL), (0xfe54, .NS), (0xfe56, .EX), (0xfe58, .ID), (0xfe59, .OW),
   (0xfe5a, .CL), (0xfe5b, .OW), (0xfe5c, .CL), (0xfe5d, .OW), (0xfe5e, .CL), (0xfe5f, .ID),
   (0xfe67, .AL), (0xfe68, .ID), (0xfe69, .PR), (0xfe6a, .PO), (0xfe6b, .ID), (0xfe6c, .AL),
   (0xfeff, .WJ), (0xff00, .AL), (0xff01, .EX), (0xff02, .ID), (0xff04, .PR), (0xff05, .PO),
   (0xff06, .ID), (0xff08, .OW), (0xff09, .CL), (0xff0a, .ID), (0xff0c, .CL), (0xff0d, .ID),
   (0xff0e, .CL), (0xff0f, .ID), (0xff1a, .NS), (0xff1c, .ID), (0xff1f, .EX), (0xff20, .ID),
   (0xff3b, .OW), (0xff3c, .ID), (0xff3d, .CL), (0xff3e, .ID), (0xff5b, .OW), (0xff5c, .ID),
   (0xff5d, .CL), (0xff5e, .ID), (0xff5f, .OW), (0xff60, .CL), (0xff62, .OW), (0xff63, .CL),
   (0xff65, .NS), (0xff66, .ID), (0xff67, .NS), (0xff71, .ID), (0xff9e, .NS), (0xffa0, .ID),
   (0xffbf, .AL), (0xffc2, .ID), (0xffc8, .AL), (0xffca, .ID), (0xffd0, .AL), (0xffd2, .ID),
   (0xffd8, .AL), (0xffda, .ID), (0xffdd, .AL), (0xffe0, .PO), (0xffe1, .PR), (0xffe2, .ID),
   (0xffe5, .PR), (0xffe7, .AL), (0xfff9, .CM), (0xfffc, .CB), (0xfffd, .AL)]

/-- Classes outside Hangul from U+10000 to U+1EFFF: each entry holds up to the next one. -/
def highClasses : List (Nat × Class) :=
  [(0x10000, .AL), (0x10100, .BA), (0x10103, .AL), (0x101fd, .CM), (0x101fe, .AL), (0x102e0, .CM),
   (0x102e1, .AL), (0x10376, .CM), (0x1037b, .AL), (0x1039f, .BA), (0x103a0, .AL), (0x103d0, .BA),
   (0x103d1, .AL), (0x104a0, .NU), (0x104aa, .AL), (0x10857, .BA), (0x10858, .AL), (0x1091f, .BA),
   (0x10920, .AL), (0x10a01, .CM), (0x10a04, .AL), (0x10a05, .CM), (0x10a07, .AL), (0x10a0c, .CM),
   (0x10a10, .AL), (0x10a38, .CM), (0x10a3b, .AL), (0x10a3f, .CM), (0x10a40, .AL), (0x10a50, .BA),
   (0x10a58, .AL), (0x10ae5, .CM), (0x10ae7, .AL), (0x10af0, .BA), (0x10af6, .IN), (0x10af7, .AL),
   (0x10b39, .BA), (0x10b40, .AL), (0x10d24, .CM), (0x10d28, .AL), (0x10d30, .NU), (0x10d3a, .AL),
   (0x10eab, .CM), (0x10ead, .BA), (0x10eae, .AL), (0x10efd, .CM), (0x10f00, .AL), (0x10f46, .CM),
   (0x10f51, .AL), (0x10f82, .CM), (0x10f86, .AL), (0x11000, .CM), (0x11003, .AP), (0x11005, .AK),
   (0x11038, .CM), (0x11046, .VI), (0x11047, .BA), (0x11049, .ID), (0x1104e, .AL), (0x11052, .ID),
   (0x11066, .AS), (0x11070, .CM), (0x11071, .AK), (0x11073, .CM), (0x11075, .AK), (0x11076, .AL),
   (0x1107f, .GL), (0x11080, .CM), (0x11083, .AL), (0x110b0, .CM), (0x110bb, .AL), (0x110bd, .NU),
   (0x110be, .BA), (0x110c2, .CM), (0x110c3, .AL), (0x110cd, .NU), (0x110ce, .AL), (0x110f0, .NU),
   (0x110fa, .AL), (0x11100, .CM), (0x11103, .AL), (0x11127, .CM), (0x11135, .AL), (0x11136, .NU),
   (0x11140, .BA), (0x11144, .AL), (0x11145, .CM), (0x11147, .AL), (0x11173, .CM), (0x11174, .AL),
   (0x11175, .BB), (0x11176, .AL), (0x11180, .CM), (0x11183, .AL), (0x111b3, .CM), (0x111c1, .AL),
   (0x111c5, .BA), (0x111c7, .AL), (0x111c8, .BA), (0x111c9, .CM), (0x111cd, .AL), (0x111ce, .CM),
   (0x111d0, .NU), (0x111da, .AL), (0x111db, .BB), (0x111dc, .AL), (0x111dd, .BA), (0x111e0, .AL),
   (0x1122c, .CM), (0x11238, .BA), (0x1123a, .AL), (0x1123b, .BA), (0x1123d, .AL), (0x1123e, .CM),
   (0x1123f, .AL), (0x11241, .CM), (0x11242, .AL), (0x112a9, .BA), (0x112aa, .AL), (0x112df, .CM),
   (0x112eb, .AL), (0x112f0, .NU), (0x112fa, .AL), (0x11300, .CM), (0x11304, .AL), (0x11305, .AK),
   (0x1130d, .AL), (0x1130f, .AK), (0x11311, .AL), (0x11313, .AK), (0x11329, .AL), (0x1132a, .AK),
   (0x11331, .AL), (0x11332, .AK), (0x11334, .AL), (0x11335, .AK), (0x1133a, .AL), (0x1133b, .CM),
   (0x1133d, .BA), (0x1133e, .CM), (0x11345, .AL), (0x11347, .CM), (0x11349, .AL), (0x1134b, .CM),
   (0x1134d, .VI), (0x1134e, .AL), (0x11350, .AS), (0x11351, .AL), (0x11357, .CM), (0x11358, .AL),
   (0x1135d, .BA), (0x1135e, .AS), (0x11360, .AK), (0x11362, .CM), (0x11364, .AL), (0x11366, .CM),
   (0x1136d, .AL), (0x11370, .CM), (0x11375, .AL), (0x11435, .CM), (0x11447, .AL), (0x1144b, .BA),
   (0x1144f, .AL), (0x11450, .NU), (0x1145a, .BA), (0x1145c, .AL), (0x1145e, .CM), (0x1145f, .AL),
   (0x114b0, .CM), (0x114c4, .AL), (0x114d0, .NU), (0x114da, .AL), (0x115af, .CM), (0x115b6, .AL),
   (0x115b8, .CM), (0x115c1, .BB), (0x115c2, .BA), (0x115c4, .EX), (0x115c6, .AL), (0x115c9, .BA),
   (0x115d8, .AL), (0x115dc, .CM), (0x115de, .AL), (0x11630, .CM), (0x11641, .BA), (0x11643, .AL),
   (0x11650, .NU), (0x1165a, .AL), (0x11660, .BB), (0x1166d, .AL), (0x116ab, .CM), (0x116b8, .AL),
   (0x116c0, .NU), (0x116ca, .AL), (0x11730, .NU), (0x1173a, .AL), (0x1173c, .BA), (0x1173f, .AL),
   (0x1182c, .CM), (0x1183b, .AL), (0x118e0, .NU), (0x118ea, .AL), (0x11900, .AK), (0x11907, .AL),
   (0x11909, .AK), (0x1190a, .AL), (0x1190c, .AK), (0x11914, .AL), (0x11915, .AK), (0x11917, .AL),
   (0x11918, .AK), (0x11930, .CM), (0x11936, .AL), (0x11937, .CM), (0x11939, .AL), (0x1193b, .CM),
   (0x1193e, .VI), (0x1193f, .AP), (0x11940, .CM), (0x11941, .AP), (0x11942, .CM), (0x11944, .BA),
   (0x11947, .AL), (0x11950, .ID), (0x1195a, .AL), (0x119d1, .CM), (0x119d8, .AL), (0x119da, .CM),
   (0x119e1, .AL), (0x119e2, .BB), (0x119e3, .AL), (0x119e4, .CM), (0x119e5, .AL), (0x11a01, .CM),
   (0x11a0b, .AL), (0x11a33, .CM), (0x11a3a, .AL), (0x11a3b, .CM), (0x11a3f, .BB), (0x11a40, .AL),
   (0x11a41, .BA), (0x11a45, .BB), (0x11a46, .AL), (0x11a47, .CM), (0x11a48, .AL), (0x11a51, .CM),
   (0x11a5c, .AL), (0x11a8a, .CM), (0x11a9a, .BA), (0x11a9d, .AL), (0x11a9e, .BB), (0x11aa1, .BA),
   (0x11aa3, .AL), (0x11b00, .BB), (0x11b0a, .AL), (0x11c2f, .CM), (0x11c37, .AL), (0x11c38, .CM),
   (0x11c40, .AL), (0x11c41, .BA), (0x11c46, .AL), (0x11c50, .NU), (0x11c5a, .AL), (0x11c70, .BB),
   (0x11c71, .EX), (0x11c72, .AL), (0x11c92, .CM), (0x11ca8, .AL), (0x11ca9, .CM), (0x11cb7, .AL),
   (0x11d31, .CM), (0x11d37, .AL), (0x11d3a, .CM), (0x11d3b, .AL), (0x11d3c, .CM), (0x11d3e, .AL),
   (0x11d3f, .CM), (0x11d46, .AL), (0x11d47, .CM), (0x11d48, .AL), (0x11d50, .NU), (0x11d5a, .AL),
   (0x11d8a, .CM), (0x11d8f, .AL), (0x11d90, .CM), (0x11d92, .AL), (0x11d93, .CM), (0x11d98, .AL),
   (0x11da0, .NU), (0x11daa, .AL), (0x11ee0, .AS), (0x11ef2, .BA), (0x11ef3, .CM), (0x11ef7, .BA),
   (0x11ef9, .AL), (0x11f00, .CM), (0x11f02, .AP), (0x11f03, .CM), (0x11f04, .AK), (0x11f11, .AL),
   (0x11f12, .AK), (0x11f34, .CM), (0x11f3b, .AL), (0x11f3e, .CM), (0x11f42, .VI), (0x11f43, .BA),
   (0x11f45, .ID), (0x11f50, .AS), (0x11f5a, .AL), (0x11fdd, .PO), (0x11fe1, .AL), (0x11fff, .BA),
   (0x12000, .AL), (0x12470, .BA), (0x12475, .AL), (0x13258, .OP), (0x1325b, .CL), (0x1325e, .AL),
   (0x13282, .CL), (0x13283, .AL), (0x13286, .OP), (0x13287, .CL), (0x13288, .OP), (0x13289, .CL),
   (0x1328a, .AL), (0x13379, .OP), (0x1337a, .CL), (0x1337c, .AL), (0x1342f, .OP), (0x13430, .GL),
   (0x13437, .OP), (0x13438, .CL), (0x13439, .GL), (0x1343c, .OP), (0x1343d, .CL), (0x1343e, .OP),
   (0x1343f, .CL), (0x13440, .CM), (0x13441, .AL), (0x13447, .CM), (0x13456, .AL), (0x145ce, .OP),
   (0x145cf, .CL), (0x145d0, .AL), (0x16a60, .NU), (0x16a6a, .AL), (0x16a6e, .BA), (0x16a70, .AL),
   (0x16ac0, .NU), (0x16aca, .AL), (0x16af0, .CM), (0x16af5, .BA), (0x16af6, .AL), (0x16b30, .CM),
   (0x16b37, .BA), (0x16b3a, .AL), (0x16b44, .BA), (0x16b45, .AL), (0x16b50, .NU), (0x16b5a, .AL),
   (0x16e97, .BA), (0x16e99, .AL), (0x16f4f, .CM), (0x16f50, .AL), (0x16f51, .CM), (0x16f88, .AL),
   (0x16f8f, .CM), (0x16f93, .AL), (0x16fe0, .NS), (0x16fe4, .GL), (0x16fe5, .AL), (0x16ff0, .CM),
   (0x16ff2, .AL), (0x17000, .ID), (0x187f8, .AL), (0x18800, .ID), (0x18b00, .AL), (0x18d00, .ID),
   (0x18d09, .AL), (0x1b000, .ID), (0x1b123, .AL), (0x1b132, .NS), (0x1b133, .AL), (0x1b150, .NS),
   (0x1b153, .AL), (0x1b155, .NS), (0x1b156, .AL), (0x1b164, .NS), (0x1b168, .AL), (0x1b170, .ID),
   (0x1b2fc, .AL), (0x1bc9d, .CM), (0x1bc9f, .BA), (0x1bca0, .CM), (0x1bca4, .AL), (0x1cf00, .CM),
   (0x1cf2e, .AL), (0x1cf30, .CM), (0x1cf47, .AL), (0x1d165, .CM), (0x1d16a, .AL), (0x1d16d, .CM),
   (0x1d183, .AL), (0x1d185, .CM), (0x1d18c, .AL), (0x1d1aa, .CM), (0x1d1ae, .AL), (0x1d242, .CM),
   (0x1d245, .AL), (0x1d7ce, .NU), (0x1d800, .AL), (0x1da00, .CM), (0x1da37, .AL), (0x1da3b, .CM),
   (0x1da6d, .AL), (0x1da75, .CM), (0x1da76, .AL), (0x1da84, .CM), (0x1da85, .AL), (0x1da87, .BA),
   (0x1da8b, .AL), (0x1da9b, .CM), (0x1daa0, .AL), (0x1daa1, .CM), (0x1dab0, .AL), (0x1e000, .CM),
   (0x1e007, .AL), (0x1e008, .CM), (0x1e019, .AL), (0x1e01b, .CM), (0x1e022, .AL), (0x1e023, .CM),
   (0x1e025, .AL), (0x1e026, .CM), (0x1e02b, .AL), (0x1e08f, .CM), (0x1e090, .AL), (0x1e130, .CM),
   (0x1e137, .AL), (0x1e140, .NU), (0x1e14a, .AL), (0x1e2ae, .CM), (0x1e2af, .AL), (0x1e2ec, .CM),
   (0x1e2f0, .NU), (0x1e2fa, .AL), (0x1e2ff, .PR), (0x1e300, .AL), (0x1e4ec, .CM), (0x1e4f0, .NU),
   (0x1e4fa, .AL), (0x1e8d0, .CM), (0x1e8d7, .AL), (0x1e944, .CM), (0x1e94b, .AL), (0x1e950, .NU),
   (0x1e95a, .AL), (0x1e95e, .OP), (0x1e960, .AL), (0x1ecac, .PO), (0x1ecad, .AL), (0x1ecb0, .PO),
   (0x1ecb1, .AL)]

/-- Classes outside Hangul from U+1F000 on: each entry holds up to the next one. -/
def topClasses : List (Nat × Class) :=
  [(0x1f000, .ID), (0x1f02c, .RP), (0x1f030, .ID), (0x1f094, .RP), (0x1f0a0, .ID), (0x1f0af, .RP),
   (0x1f0b1, .ID), (0x1f0c0, .RP), (0x1f0c1, .ID), (0x1f0d0, .RP), (0x1f0d1, .ID), (0x1f0f6, .RP),
   (0x1f100, .AL), (0x1f10d, .ID), (0x1f110, .AL), (0x1f16d, .ID), (0x1f170, .AL), (0x1f1ad, .ID),
   (0x1f1ae, .RP), (0x1f1e6, .RI), (0x1f200, .ID), (0x1f203, .RP), (0x1f210, .ID), (0x1f23c, .RP),
   (0x1f240, .ID), (0x1f249, .RP), (0x1f250, .ID), (0x1f252, .RP), (0x1f260, .ID), (0x1f266, .RP),
   (0x1f300, .ID), (0x1f385, .EB), (0x1f386, .ID), (0x1f39c, .AL), (0x1f39e, .ID), (0x1f3b5, .AL),
   (0x1f3b7, .ID), (0x1f3bc, .AL), (0x1f3bd, .ID), (0x1f3c2, .EB), (0x1f3c5, .ID), (0x1f3c7, .EB),
   (0x1f3c8, .ID), (0x1f3ca, .EB), (0x1f3cd, .ID), (0x1f3fb, .EM), (0x1f400, .ID), (0x1f442, .EB),
   (0x1f444, .ID), (0x1f446, .EB), (0x1f451, .ID), (0x1f466, .EB), (0x1f479, .ID), (0x1f47c, .EB),
   (0x1f47d, .ID), (0x1f481, .EB), (0x1f484, .ID), (0x1f485, .EB), (0x1f488, .ID), (0x1f48f, .EB),
   (0x1f490, .ID), (0x1f491, .EB), (0x1f492, .ID), (0x1f4a0, .AL), (0x1f4a1, .ID), (0x1f4a2, .AL),
   (0x1f4a3, .ID), (0x1f4a4, .AL), (0x1f4a5, .ID), (0x1f4aa, .EB), (0x1f4ab, .ID), (0x1f4af, .AL),
   (0x1f4b0, .ID), (0x1f4b1, .AL), (0x1f4b3, .ID), (0x1f500, .AL), (0x1f507, .ID), (0x1f517, .AL),
   (0x1f525, .ID), (0x1f532, .AL), (0x1f54a, .ID), (0x1f574, .EB), (0x1f576, .ID), (0x1f57a, .EB),
   (0x1f57b, .ID), (0x1f590, .EB), (0x1f591, .ID), (0x1f595, .EB), (0x1f597, .ID), (0x1f5d4, .AL),
   (0x1f5dc, .ID), (0x1f5f4, .AL), (0x1f5fa, .ID), (0x1f645, .EB), (0x1f648, .ID), (0x1f64b, .EB),
   (0x1f650, .AL), (0x1f676, .QU), (0x1f679, .NS), (0x1f67c, .AL), (0x1f680, .ID), (0x1f6a3, .EB),
   (0x1f6a4, .ID), (0x1f6b4, .EB), (0x1f6b7, .ID), (0x1f6c0, .EB), (0x1f6c1, .ID), (0x1f6cc, .EB),
   (0x1f6cd, .ID), (0x1f6d8, .RP), (0x1f6dc, .ID), (0x1f6ed, .RP), (0x1f6f0, .ID), (0x1f6fd, .RP),
   (0x1f700, .AL), (0x1f774, .ID), (0x1f777, .RP), (0x1f77b, .ID), (0x1f780, .AL), (0x1f7d5, .ID),
   (0x1f7da, .RP), (0x1f7e0, .ID), (0x1f7ec, .RP), (0x1f7f0, .ID), (0x1f7f1, .RP), (0x1f800, .AL),
   (0x1f80c, .RP), (0x1f810, .AL), (0x1f848, .RP), (0x1f850, .AL), (0x1f85a, .RP), (0x1f860, .AL),
   (0x1f888, .RP), (0x1f890, .AL), (0x1f8ae, .RP), (0x1f8b0, .ID), (0x1f8b2, .RP), (0x1f900, .AL),
   (0x1f90c, .EB), (0x1f90d, .ID), (0x1f90f, .EB), (0x1f910, .ID), (0x1f918, .EB), (0x1f920, .ID),
   (0x1f926, .EB), (0x1f927, .ID), (0x1f930, .EB), (0x1f93a, .ID), (0x1f93c, .EB), (0x1f93f, .ID),
   (0x1f977, .EB), (0x1f978, .ID), (0x1f9b5, .EB), (0x1f9b7, .ID), (0x1f9b8, .EB), (0x1f9ba, .ID),
   (0x1f9bb, .EB), (0x1f9bc, .ID), (0x1f9cd, .EB), (0x1f9d0, .ID), (0x1f9d1, .EB), (0x1f9de, .ID),
   (0x1fa00, .AL), (0x1fa54, .RP), (0x1fa60, .ID), (0x1fa6e, .RP), (0x1fa70, .ID), (0x1fa7d, .RP),
   (0x1fa80, .ID), (0x1fa89, .RP), (0x1fa90, .ID), (0x1fabe, .RP), (0x1fabf, .ID), (0x1fac3, .EB),
   (0x1fac6, .RP), (0x1face, .ID), (0x1fadc, .RP), (0x1fae0, .ID), (0x1fae9, .RP), (0x1faf0, .EB),
   (0x1faf9, .RP), (0x1fb00, .AL), (0x1fbf0, .NU), (0x1fbfa, .AL), (0x1fc00, .RP), (0x1fffe, .AL),
   (0x20000, .ID), (0x2fffe, .AL), (0x30000, .ID), (0x3fffe, .AL), (0xe0001, .CM), (0xe0002, .AL),
   (0xe0020, .CM), (0xe0080, .AL), (0xe0100, .CM), (0xe01f0, .AL)]

def classes : List (Nat × Class) :=
  lowClasses ++ scriptClasses ++ symbolClasses ++ highClasses ++ topClasses

def lookup (found : Class) : List (Nat × Class) → Nat → Class
  | [], _ => found
  | (start, k) :: table, n => if n < start then found else lookup k table n

def Class.of (c : Char) : Class :=
  let n := c.toNat
  if Hangul.isLeading n then .JL
  else if Hangul.isVowel n then .JV
  else if Hangul.isTrailing n then .JT
  else if Hangul.isSyllable n then
    if Hangul.isOpen n then .H2 else .H3
  else lookup .AL classes n

end RecursiveFactorial.Text.LineBreak
