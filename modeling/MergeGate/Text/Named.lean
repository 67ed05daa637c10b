import MergeGate.Text.Quoted

/-
  MergeGate/Text/Named.lean
  =========================
  **Characters by their names.**  A pattern may give a character by its Unicode name, in either case.
  The table has the names of the scripts and signs that titles are written with: Latin, Greek,
  Cyrillic, Armenian, Hebrew and Arabic letters, kana, punctuation, currency, arrows, mathematical
  and technical signs, pictographs; and the accepted names of control characters.  The names of
  ideographs and of Hangul syllables follow a rule.
-/

namespace MergeGate.Text

/-! ### Names of characters that follow one another, with the code point of the first -/

/-- Latin letters, signs and combining marks. -/
def latinNames : List (Nat × String) :=
  [
   (0x20, "SPACE;EXCLAMATION MARK;QUOTATION MARK;NUMBER SIGN;DOLLAR SIGN;PERCENT SIGN"),
   (0x26, "AMPERSAND;APOSTROPHE;LEFT PARENTHESIS;RIGHT PARENTHESIS;ASTERISK;PLUS SIGN"),
   (0x2c, "COMMA;HYPHEN-MINUS;FULL STOP;SOLIDUS;DIGIT ZERO;DIGIT ONE;DIGIT TWO"),
   (0x33, "DIGIT THREE;DIGIT FOUR;DIGIT FIVE;DIGIT SIX;DIGIT SEVEN;DIGIT EIGHT;DIGIT NINE"),
   (0x3a, "COLON;SEMICOLON;LESS-THAN SIGN;EQUALS SIGN;GREATER-THAN SIGN;QUESTION MARK"),
   (0x40, "COMMERCIAL AT;LATIN CAPITAL LETTER A;LATIN CAPITAL LETTER B"),
   (0x43, "LATIN CAPITAL LETTER C;LATIN CAPITAL LETTER D;LATIN CAPITAL LETTER E"),
   (0x46, "LATIN CAPITAL LETTER F;LATIN CAPITAL LETTER G;LATIN CAPITAL LETTER H"),
   (0x49, "LATIN CAPITAL LETTER I;LATIN CAPITAL LETTER J;LATIN CAPITAL LETTER K"),
   (0x4c, "LATIN CAPITAL LETTER L;LATIN CAPITAL LETTER M;LATIN CAPITAL LETTER N"),
   (0x4f, "LATIN CAPITAL LETTER O;LATIN CAPITAL LETTER P;LATIN CAPITAL LETTER Q"),
   (0x52, "LATIN CAPITAL LETTER R;LATIN CAPITAL LETTER S;LATIN CAPITAL LETTER T"),
   (0x55, "LATIN CAPITAL LETTER U;LATIN CAPITAL LETTER V;LATIN CAPITAL LETTER W"),
   (0x58, "LATIN CAPITAL LETTER X;LATIN CAPITAL LETTER Y;LATIN CAPITAL LETTER Z"),
   (0x5b, "LEFT SQUARE BRACKET;REVERSE SOLIDUS;RIGHT SQUARE BRACKET;CIRCUMFLEX ACCENT"),
   (0x5f, "LOW LINE;GRAVE ACCENT;LATIN SMALL LETTER A;LATIN SMALL LETTER B"),
   (0x63, "LATIN SMALL LETTER C;LATIN SMALL LETTER D;LATIN SMALL LETTER E"),
   (0x66, "LATIN SMALL LETTER F;LATIN SMALL LETTER G;LATIN SMALL LETTER H"),
   (0x69, "LATIN SMALL LETTER I;LATIN SMALL LETTER J;LATIN SMALL LETTER K"),
   (0x6c, "LATIN SMALL LETTER L;LATIN SMALL LETTER M;LATIN SMALL LETTER N"),
   (0x6f, "LATIN SMALL LETTER O;LATIN SMALL LETTER P;LATIN SMALL LETTER Q"),
   (0x72, "LATIN SMALL LETTER R;LATIN SMALL LETTER S;LATIN SMALL LETTER T"),
   (0x75, "LATIN SMALL LETTER U;LATIN SMALL LETTER V;LATIN SMALL LETTER W"),
   (0x78, "LATIN SMALL LETTER X;LATIN SMALL LETTER Y;LATIN SMALL LETTER Z"),
   (0x7b, "LEFT CURLY BRACKET;VERTICAL LINE;RIGHT CURLY BRACKET;TILDE"),
   (0xa0, "NO-BREAK SPACE;INVERTED EXCLAMATION MARK;CENT SIGN;POUND SIGN;CURRENCY SIGN"),
   (0xa5, "YEN SIGN;BROKEN BAR;SECTION SIGN;DIAERESIS;COPYRIGHT SIGN"),
   (0xaa, "FEMININE ORDINAL INDICATOR;LEFT-POINTING DOUBLE ANGLE QUOTATION MARK;NOT SIGN"),
   (0xad, "SOFT HYPHEN;REGISTERED SIGN;MACRON;DEGREE SIGN;PLUS-MINUS SIGN;SUPERSCRIPT TWO"),
   (0xb3, "SUPERSCRIPT THREE;ACUTE ACCENT;MICRO SIGN;PILCROW SIGN;MIDDLE DOT;CEDILLA"),
   (0xb9, "SUPERSCRIPT ONE;MASCULINE ORDINAL INDICATOR"),
   (0xbb, "RIGHT-POINTING DOUBLE ANGLE QUOTATION MARK;VULGAR FRACTION ONE QUARTER"),
   (0xbd, "VULGAR FRACTION ONE HALF;VULGAR FRACTION THREE QUARTERS;INVERTED QUESTION MARK"),
   (0xc0, "LATIN CAPITAL LETTER A WITH GRAVE;LATIN CAPITAL LETTER A WITH ACUTE"),
   (0xc2, "LATIN CAPITAL LETTER A WITH CIRCUMFLEX;LATIN CAPITAL LETTER A WITH TILDE"),
   (0xc4, "LATIN CAPITAL LETTER A WITH DIAERESIS;LATIN CAPITAL LETTER A WITH RING ABOVE"),
   (0xc6, "LATIN CAPITAL LETTER AE;LATIN CAPITAL LETTER C WITH CEDILLA"),
   (0xc8, "LATIN CAPITAL LETTER E WITH GRAVE;LATIN CAPITAL LETTER E WITH ACUTE"),
   (0xca, "LATIN CAPITAL LETTER E WITH CIRCUMFLEX;LATIN CAPITAL LETTER E WITH DIAERESIS"),
   (0xcc, "LATIN CAPITAL LETTER I WITH GRAVE;LATIN CAPITAL LETTER I WITH ACUTE"),
   (0xce, "LATIN CAPITAL LETTER I WITH CIRCUMFLEX;LATIN CAPITAL LETTER I WITH DIAERESIS"),
   (0xd0, "LATIN CAPITAL LETTER ETH;LATIN CAPITAL LETTER N WITH TILDE"),
   (0xd2, "LATIN CAPITAL LETTER O WITH GRAVE;LATIN CAPITAL LETTER O WITH ACUTE"),
   (0xd4, "LATIN CAPITAL LETTER O WITH CIRCUMFLEX;LATIN CAPITAL LETTER O WITH TILDE"),
   (0xd6, "LATIN CAPITAL LETTER O WITH DIAERESIS;MULTIPLICATION SIGN"),
   (0xd8, "LATIN CAPITAL LETTER O WITH STROKE;LATIN CAPITAL LETTER U WITH GRAVE"),
   (0xda, "LATIN CAPITAL LETTER U WITH ACUTE;LATIN CAPITAL LETTER U WITH CIRCUMFLEX"),
   (0xdc, "LATIN CAPITAL LETTER U WITH DIAERESIS;LATIN CAPITAL LETTER Y WITH ACUTE"),
   (0xde, "LATIN CAPITAL LETTER THORN;LATIN SMALL LETTER SHARP S"),
   (0xe0, "LATIN SMALL LETTER A WITH GRAVE;LATIN SMALL LETTER A WITH ACUTE"),
   (0xe2, "LATIN SMALL LETTER A WITH CIRCUMFLEX;LATIN SMALL LETTER A WITH TILDE"),
   (0xe4, "LATIN SMALL LETTER A WITH DIAERESIS;LATIN SMALL LETTER A WITH RING ABOVE"),
   (0xe6, "LATIN SMALL LETTER AE;LATIN SMALL LETTER C WITH CEDILLA"),
   (0xe8, "LATIN SMALL LETTER E WITH GRAVE;LATIN SMALL LETTER E WITH ACUTE"),
   (0xea, "LATIN SMALL LETTER E WITH CIRCUMFLEX;LATIN SMALL LETTER E WITH DIAERESIS"),
   (0xec, "LATIN SMALL LETTER I WITH GRAVE;LATIN SMALL LETTER I WITH ACUTE"),
   (0xee, "LATIN SMALL LETTER I WITH CIRCUMFLEX;LATIN SMALL LETTER I WITH DIAERESIS"),
   (0xf0, "LATIN SMALL LETTER ETH;LATIN SMALL LETTER N WITH TILDE"),
   (0xf2, "LATIN SMALL LETTER O WITH GRAVE;LATIN SMALL LETTER O WITH ACUTE"),
   (0xf4, "LATIN SMALL LETTER O WITH CIRCUMFLEX;LATIN SMALL LETTER O WITH TILDE"),
   (0xf6, "LATIN SMALL LETTER O WITH DIAERESIS;DIVISION SIGN"),
   (0xf8, "LATIN SMALL LETTER O WITH STROKE;LATIN SMALL LETTER U WITH GRAVE"),
   (0xfa, "LATIN SMALL LETTER U WITH ACUTE;LATIN SMALL LETTER U WITH CIRCUMFLEX"),
   (0xfc, "LATIN SMALL LETTER U WITH DIAERESIS;LATIN SMALL LETTER Y WITH ACUTE"),
   (0xfe, "LATIN SMALL LETTER THORN;LATIN SMALL LETTER Y WITH DIAERESIS"),
   (0x100, "LATIN CAPITAL LETTER A WITH MACRON;LATIN SMALL LETTER A WITH MACRON"),
   (0x102, "LATIN CAPITAL LETTER A WITH BREVE;LATIN SMALL LETTER A WITH BREVE"),
   (0x104, "LATIN CAPITAL LETTER A WITH OGONEK;LATIN SMALL LETTER A WITH OGONEK"),
   (0x106, "LATIN CAPITAL LETTER C WITH ACUTE;LATIN SMALL LETTER C WITH ACUTE"),
   (0x108, "LATIN CAPITAL LETTER C WITH CIRCUMFLEX;LATIN SMALL LETTER C WITH CIRCUMFLEX"),
   (0x10a, "LATIN CAPITAL LETTER C WITH DOT ABOVE;LATIN SMALL LETTER C WITH DOT ABOVE"),
   (0x10c, "LATIN CAPITAL LETTER C WITH CARON;LATIN SMALL LETTER C WITH CARON"),
   (0x10e, "LATIN CAPITAL LETTER D WITH CARON;LATIN SMALL LETTER D WITH CARON"),
   (0x110, "LATIN CAPITAL LETTER D WITH STROKE;LATIN SMALL LETTER D WITH STROKE"),
   (0x112, "LATIN CAPITAL LETTER E WITH MACRON;LATIN SMALL LETTER E WITH MACRON"),
   (0x114, "LATIN CAPITAL LETTER E WITH BREVE;LATIN SMALL LETTER E WITH BREVE"),
   (0x116, "LATIN CAPITAL LETTER E WITH DOT ABOVE;LATIN SMALL LETTER E WITH DOT ABOVE"),
   (0x118, "LATIN CAPITAL LETTER E WITH OGONEK;LATIN SMALL LETTER E WITH OGONEK"),
   (0x11a, "LATIN CAPITAL LETTER E WITH CARON;LATIN SMALL LETTER E WITH CARON"),
   (0x11c, "LATIN CAPITAL LETTER G WITH CIRCUMFLEX;LATIN SMALL LETTER G WITH CIRCUMFLEX"),
   (0x11e, "LATIN CAPITAL LETTER G WITH BREVE;LATIN SMALL LETTER G WITH BREVE"),
   (0x120, "LATIN CAPITAL LETTER G WITH DOT ABOVE;LATIN SMALL LETTER G WITH DOT ABOVE"),
   (0x122, "LATIN CAPITAL LETTER G WITH CEDILLA;LATIN SMALL LETTER G WITH CEDILLA"),
   (0x124, "LATIN CAPITAL LETTER H WITH CIRCUMFLEX;LATIN SMALL LETTER H WITH CIRCUMFLEX"),
   (0x126, "LATIN CAPITAL LETTER H WITH STROKE;LATIN SMALL LETTER H WITH STROKE"),
   (0x128, "LATIN CAPITAL LETTER I WITH TILDE;LATIN SMALL LETTER I WITH TILDE"),
   (0x12a, "LATIN CAPITAL LETTER I WITH MACRON;LATIN SMALL LETTER I WITH MACRON"),
   (0x12c, "LATIN CAPITAL LETTER I WITH BREVE;LATIN SMALL LETTER I WITH BREVE"),
   (0x12e, "LATIN CAPITAL LETTER I WITH OGONEK;LATIN SMALL LETTER I WITH OGONEK"),
   (0x130, "LATIN CAPITAL LETTER I WITH DOT ABOVE;LATIN SMALL LETTER DOTLESS I"),
   (0x132, "LATIN CAPITAL LIGATURE IJ;LATIN SMALL LIGATURE IJ"),
   (0x134, "LATIN CAPITAL LETTER J WITH CIRCUMFLEX;LATIN SMALL LETTER J WITH CIRCUMFLEX"),
   (0x136, "LATIN CAPITAL LETTER K WITH CEDILLA;LATIN SMALL LETTER K WITH CEDILLA"),
   (0x138, "LATIN SMALL LETTER KRA;LATIN CAPITAL LETTER L WITH ACUTE"),
   (0x13a, "LATIN SMALL LETTER L WITH ACUTE;LATIN CAPITAL LETTER L WITH CEDILLA"),
   (0x13c, "LATIN SMALL LETTER L WITH CEDILLA;LATIN CAPITAL LETTER L WITH CARON"),
   (0x13e, "LATIN SMALL LETTER L WITH CARON;LATIN CAPITAL LETTER L WITH MIDDLE DOT"),
   (0x140, "LATIN SMALL LETTER L WITH MIDDLE DOT;LATIN CAPITAL LETTER L WITH STROKE"),
   (0x142, "LATIN SMALL LETTER L WITH STROKE;LATIN CAPITAL LETTER N WITH ACUTE"),
   (0x144, "LATIN SMALL LETTER N WITH ACUTE;LATIN CAPITAL LETTER N WITH CEDILLA"),
   (0x146, "LATIN SMALL LETTER N WITH CEDILLA;LATIN CAPITAL LETTER N WITH CARON"),
   (0x148, "LATIN SMALL LETTER N WITH CARON;LATIN SMALL LETTER N PRECEDED BY APOSTROPHE"),
   (0x14a, "LATIN CAPITAL LETTER ENG;LATIN SMALL LETTER ENG"),
   (0x14c, "LATIN CAPITAL LETTER O WITH MACRON;LATIN SMALL LETTER O WITH MACRON"),
   (0x14e, "LATIN CAPITAL LETTER O WITH BREVE;LATIN SMALL LETTER O WITH BREVE"),
   (0x150, "LATIN CAPITAL LETTER O WITH DOUBLE ACUTE"),
   (0x151, "LATIN SMALL LETTER O WITH DOUBLE ACUTE;LATIN CAPITAL LIGATURE OE"),
   (0x153, "LATIN SMALL LIGATURE OE;LATIN CAPITAL LETTER R WITH ACUTE"),
   (0x155, "LATIN SMALL LETTER R WITH ACUTE;LATIN CAPITAL LETTER R WITH CEDILLA"),
   (0x157, "LATIN SMALL LETTER R WITH CEDILLA;LATIN CAPITAL LETTER R WITH CARON"),
   (0x159, "LATIN SMALL LETTER R WITH CARON;LATIN CAPITAL LETTER S WITH ACUTE"),
   (0x15b, "LATIN SMALL LETTER S WITH ACUTE;LATIN CAPITAL LETTER S WITH CIRCUMFLEX"),
   (0x15d, "LATIN SMALL LETTER S WITH CIRCUMFLEX;LATIN CAPITAL LETTER S WITH CEDILLA"),
   (0x15f, "LATIN SMALL LETTER S WITH CEDILLA;LATIN CAPITAL LETTER S WITH CARON"),
   (0x161, "LATIN SMALL LETTER S WITH CARON;LATIN CAPITAL LETTER T WITH CEDILLA"),
   (0x163, "LATIN SMALL LETTER T WITH CEDILLA;LATIN CAPITAL LETTER T WITH CARON"),
   (0x165, "LATIN SMALL LETTER T WITH CARON;LATIN CAPITAL LETTER T WITH STROKE"),
   (0x167, "LATIN SMALL LETTER T WITH STROKE;LATIN CAPITAL LETTER U WITH TILDE"),
   (0x169, "LATIN SMALL LETTER U WITH TILDE;LATIN CAPITAL LETTER U WITH MACRON"),
   (0x16b, "LATIN SMALL LETTER U WITH MACRON;LATIN CAPITAL LETTER U WITH BREVE"),
   (0x16d, "LATIN SMALL LETTER U WITH BREVE;LATIN CAPITAL LETTER U WITH RING ABOVE"),
   (0x16f, "LATIN SMALL LETTER U WITH RING ABOVE;LATIN CAPITAL LETTER U WITH DOUBLE ACUTE"),
   (0x171, "LATIN SMALL LETTER U WITH DOUBLE ACUTE;LATIN CAPITAL LETTER U WITH OGONEK"),
   (0x173, "LATIN SMALL LETTER U WITH OGONEK;LATIN CAPITAL LETTER W WITH CIRCUMFLEX"),
   (0x175, "LATIN SMALL LETTER W WITH CIRCUMFLEX;LATIN CAPITAL LETTER Y WITH CIRCUMFLEX"),
   (0x177, "LATIN SMALL LETTER Y WITH CIRCUMFLEX;LATIN CAPITAL LETTER Y WITH DIAERESIS"),
   (0x179, "LATIN CAPITAL LETTER Z WITH ACUTE;LATIN SMALL LETTER Z WITH ACUTE"),
   (0x17b, "LATIN CAPITAL LETTER Z WITH DOT ABOVE;LATIN SMALL LETTER Z WITH DOT ABOVE"),
   (0x17d, "LATIN CAPITAL LETTER Z WITH CARON;LATIN SMALL LETTER Z WITH CARON"),
   (0x17f, "LATIN SMALL LETTER LONG S;LATIN SMALL LETTER B WITH STROKE"),
   (0x181, "LATIN CAPITAL LETTER B WITH HOOK;LATIN CAPITAL LETTER B WITH TOPBAR"),
   (0x183, "LATIN SMALL LETTER B WITH TOPBAR;LATIN CAPITAL LETTER TONE SIX"),
   (0x185, "LATIN SMALL LETTER TONE SIX;LATIN CAPITAL LETTER OPEN O"),
   (0x187, "LATIN CAPITAL LETTER C WITH HOOK;LATIN SMALL LETTER C WITH HOOK"),
   (0x189, "LATIN CAPITAL LETTER AFRICAN D;LATIN CAPITAL LETTER D WITH HOOK"),
   (0x18b, "LATIN CAPITAL LETTER D WITH TOPBAR;LATIN SMALL LETTER D WITH TOPBAR"),
   (0x18d, "LATIN SMALL LETTER TURNED DELTA;LATIN CAPITAL LETTER REVERSED E"),
   (0x18f, "LATIN CAPITAL LETTER SCHWA;LATIN CAPITAL LETTER OPEN E"),
   (0x191, "LATIN CAPITAL LETTER F WITH HOOK;LATIN SMALL LETTER F WITH HOOK"),
   (0x193, "LATIN CAPITAL LETTER G WITH HOOK;LATIN CAPITAL LETTER GAMMA"),
   (0x195, "LATIN SMALL LETTER HV;LATIN CAPITAL LETTER IOTA"),
   (0x197, "LATIN CAPITAL LETTER I WITH STROKE;LATIN CAPITAL LETTER K WITH HOOK"),
   (0x199, "LATIN SMALL LETTER K WITH HOOK;LATIN SMALL LETTER L WITH BAR"),
   (0x19b, "LATIN SMALL LETTER LAMBDA WITH STROKE;LATIN CAPITAL LETTER TURNED M"),
   (0x19d, "LATIN CAPITAL LETTER N WITH LEFT HOOK;LATIN SMALL LETTER N WITH LONG RIGHT LEG"),
   (0x19f, "LATIN CAPITAL LETTER O WITH MIDDLE TILDE;LATIN CAPITAL LETTER O WITH HORN"),
   (0x1a1, "LATIN SMALL LETTER O WITH HORN;LATIN CAPITAL LETTER OI;LATIN SMALL LETTER OI"),
   (0x1a4, "LATIN CAPITAL LETTER P WITH HOOK;LATIN SMALL LETTER P WITH HOOK"),
   (0x1a6, "LATIN LETTER YR;LATIN CAPITAL LETTER TONE TWO;LATIN SMALL LETTER TONE TWO"),
   (0x1a9, "LATIN CAPITAL LETTER ESH;LATIN LETTER REVERSED ESH LOOP"),
   (0x1ab, "LATIN SMALL LETTER T WITH PALATAL HOOK;LATIN CAPITAL LETTER T WITH HOOK"),
   (0x1ad, "LATIN SMALL LETTER T WITH HOOK;LATIN CAPITAL LETTER T WITH RETROFLEX HOOK"),
   (0x1af, "LATIN CAPITAL LETTER U WITH HORN;LATIN SMALL LETTER U WITH HORN"),
   (0x1b1, "LATIN CAPITAL LETTER UPSILON;LATIN CAPITAL LETTER V WITH HOOK"),
   (0x1b3, "LATIN CAPITAL LETTER Y WITH HOOK;LATIN SMALL LETTER Y WITH HOOK"),
   (0x1b5, "LATIN CAPITAL LETTER Z WITH STROKE;LATIN SMALL LETTER Z WITH STROKE"),
   (0x1b7, "LATIN CAPITAL LETTER EZH;LATIN CAPITAL LETTER EZH REVERSED"),
   (0x1b9, "LATIN SMALL LETTER EZH REVERSED;LATIN SMALL LETTER EZH WITH TAIL"),
   (0x1bb, "LATIN LETTER TWO WITH STROKE;LATIN CAPITAL LETTER TONE FIVE"),
   (0x1bd, "LATIN SMALL LETTER TONE FIVE;LATIN LETTER INVERTED GLOTTAL STOP WITH STROKE"),
   (0x1bf, "LATIN LETTER WYNN;LATIN LETTER DENTAL CLICK;LATIN LETTER LATERAL CLICK"),
   (0x1c2, "LATIN LETTER ALVEOLAR CLICK;LATIN LETTER RETROFLEX CLICK"),
   (0x1c4, "LATIN CAPITAL LETTER DZ WITH CARON"),
   (0x1c5, "LATIN CAPITAL LETTER D WITH SMALL LETTER Z WITH CARON"),
   (0x1c6, "LATIN SMALL LETTER DZ WITH CARON;LATIN CAPITAL LETTER LJ"),
   (0x1c8, "LATIN CAPITAL LETTER L WITH SMALL LETTER J;LATIN SMALL LETTER LJ"),
   (0x1ca, "LATIN CAPITAL LETTER NJ;LATIN CAPITAL LETTER N WITH SMALL LETTER J"),
   (0x1cc, "LATIN SMALL LETTER NJ;LATIN CAPITAL LETTER A WITH CARON"),
   (0x1ce, "LATIN SMALL LETTER A WITH CARON;LATIN CAPITAL LETTER I WITH CARON"),
   (0x1d0, "LATIN SMALL LETTER I WITH CARON;LATIN CAPITAL LETTER O WITH CARON"),
   (0x1d2, "LATIN SMALL LETTER O WITH CARON;LATIN CAPITAL LETTER U WITH CARON"),
   (0x1d4, "LATIN SMALL LETTER U WITH CARON"),
   (0x1d5, "LATIN CAPITAL LETTER U WITH DIAERESIS AND MACRON"),
   (0x1d6, "LATIN SMALL LETTER U WITH DIAERESIS AND MACRON"),
   (0x1d7, "LATIN CAPITAL LETTER U WITH DIAERESIS AND ACUTE"),
   (0x1d8, "LATIN SMALL LETTER U WITH DIAERESIS AND ACUTE"),
   (0x1d9, "LATIN CAPITAL LETTER U WITH DIAERESIS AND CARON"),
   (0x1da, "LATIN SMALL LETTER U WITH DIAERESIS AND CARON"),
   (0x1db, "LATIN CAPITAL LETTER U WITH DIAERESIS AND GRAVE"),
   (0x1dc, "LATIN SMALL LETTER U WITH DIAERESIS AND GRAVE;LATIN SMALL LETTER TURNED E"),
   (0x1de, "LATIN CAPITAL LETTER A WITH DIAERESIS AND MACRON"),
   (0x1df, "LATIN SMALL LETTER A WITH DIAERESIS AND MACRON"),
   (0x1e0, "LATIN CAPITAL LETTER A WITH DOT ABOVE AND MACRON"),
   (0x1e1, "LATIN SMALL LETTER A WITH DOT ABOVE AND MACRON"),
   (0x1e2, "LATIN CAPITAL LETTER AE WITH MACRON;LATIN SMALL LETTER AE WITH MACRON"),
   (0x1e4, "LATIN CAPITAL LETTER G WITH STROKE;LATIN SMALL LETTER G WITH STROKE"),
   (0x1e6, "LATIN CAPITAL LETTER G WITH CARON;LATIN SMALL LETTER G WITH CARON"),
   (0x1e8, "LATIN CAPITAL LETTER K WITH CARON;LATIN SMALL LETTER K WITH CARON"),
   (0x1ea, "LATIN CAPITAL LETTER O WITH OGONEK;LATIN SMALL LETTER O WITH OGONEK"),
   (0x1ec, "LATIN CAPITAL LETTER O WITH OGONEK AND MACRON"),
   (0x1ed, "LATIN SMALL LETTER O WITH OGONEK AND MACRON"),
   (0x1ee, "LATIN CAPITAL LETTER EZH WITH CARON;LATIN SMALL LETTER EZH WITH CARON"),
   (0x1f0, "LATIN SMALL LETTER J WITH CARON;LATIN CAPITAL LETTER DZ"),
   (0x1f2, "LATIN CAPITAL LETTER D WITH SMALL LETTER Z;LATIN SMALL LETTER DZ"),
   (0x1f4, "LATIN CAPITAL LETTER G WITH ACUTE;LATIN SMALL LETTER G WITH ACUTE"),
   (0x1f6, "LATIN CAPITAL LETTER HWAIR;LATIN CAPITAL LETTER WYNN"),
   (0x1f8, "LATIN CAPITAL LETTER N WITH GRAVE;LATIN SMALL LETTER N WITH GRAVE"),
   (0x1fa, "LATIN CAPITAL LETTER A WITH RING ABOVE AND ACUTE"),
   (0x1fb, "LATIN SMALL LETTER A WITH RING ABOVE AND ACUTE"),
   (0x1fc, "LATIN CAPITAL LETTER AE WITH ACUTE;LATIN SMALL LETTER AE WITH ACUTE"),
   (0x1fe, "LATIN CAPITAL LETTER O WITH STROKE AND ACUTE"),
   (0x1ff, "LATIN SMALL LETTER O WITH STROKE AND ACUTE"),
   (0x200, "LATIN CAPITAL LETTER A WITH DOUBLE GRAVE"),
   (0x201, "LATIN SMALL LETTER A WITH DOUBLE GRAVE"),
   (0x202, "LATIN CAPITAL LETTER A WITH INVERTED BREVE"),
   (0x203, "LATIN SMALL LETTER A WITH INVERTED BREVE"),
   (0x204, "LATIN CAPITAL LETTER E WITH DOUBLE GRAVE"),
   (0x205, "LATIN SMALL LETTER E WITH DOUBLE GRAVE"),
   (0x206, "LATIN CAPITAL LETTER E WITH INVERTED BREVE"),
   (0x207, "LATIN SMALL LETTER E WITH INVERTED BREVE"),
   (0x208, "LATIN CAPITAL LETTER I WITH DOUBLE GRAVE"),
   (0x209, "LATIN SMALL LETTER I WITH DOUBLE GRAVE"),
   (0x20a, "LATIN CAPITAL LETTER I WITH INVERTED BREVE"),
   (0x20b, "LATIN SMALL LETTER I WITH INVERTED BREVE"),
   (0x20c, "LATIN CAPITAL LETTER O WITH DOUBLE GRAVE"),
   (0x20d, "LATIN SMALL LETTER O WITH DOUBLE GRAVE"),
   (0x20e, "LATIN CAPITAL LETTER O WITH INVERTED BREVE"),
   (0x20f, "LATIN SMALL LETTER O WITH INVERTED BREVE"),
   (0x210, "LATIN CAPITAL LETTER R WITH DOUBLE GRAVE"),
   (0x211, "LATIN SMALL LETTER R WITH DOUBLE GRAVE"),
   (0x212, "LATIN CAPITAL LETTER R WITH INVERTED BREVE"),
   (0x213, "LATIN SMALL LETTER R WITH INVERTED BREVE"),
   (0x214, "LATIN CAPITAL LETTER U WITH DOUBLE GRAVE"),
   (0x215, "LATIN SMALL LETTER U WITH DOUBLE GRAVE"),
   (0x216, "LATIN CAPITAL LETTER U WITH INVERTED BREVE"),
   (0x217, "LATIN SMALL LETTER U WITH INVERTED BREVE"),
   (0x218, "LATIN CAPITAL LETTER S WITH COMMA BELOW;LATIN SMALL LETTER S WITH COMMA BELOW"),
   (0x21a, "LATIN CAPITAL LETTER T WITH COMMA BELOW;LATIN SMALL LETTER T WITH COMMA BELOW"),
   (0x21c, "LATIN CAPITAL LETTER YOGH;LATIN SMALL LETTER YOGH"),
   (0x21e, "LATIN CAPITAL LETTER H WITH CARON;LATIN SMALL LETTER H WITH CARON"),
   (0x220, "LATIN CAPITAL LETTER N WITH LONG RIGHT LEG;LATIN SMALL LETTER D WITH CURL"),
   (0x222, "LATIN CAPITAL LETTER OU;LATIN SMALL LETTER OU;LATIN CAPITAL LETTER Z WITH HOOK"),
   (0x225, "LATIN SMALL LETTER Z WITH HOOK;LATIN CAPITAL LETTER A WITH DOT ABOVE"),
   (0x227, "LATIN SMALL LETTER A WITH DOT ABOVE;LATIN CAPITAL LETTER E WITH CEDILLA"),
   (0x229, "LATIN SMALL LETTER E WITH CEDILLA"),
   (0x22a, "LATIN CAPITAL LETTER O WITH DIAERESIS AND MACRON"),
   (0x22b, "LATIN SMALL LETTER O WITH DIAERESIS AND MACRON"),
   (0x22c, "LATIN CAPITAL LETTER O WITH TILDE AND MACRON"),
   (0x22d, "LATIN SMALL LETTER O WITH TILDE AND MACRON"),
   (0x22e, "LATIN CAPITAL LETTER O WITH DOT ABOVE;LATIN SMALL LETTER O WITH DOT ABOVE"),
   (0x230, "LATIN CAPITAL LETTER O WITH DOT ABOVE AND MACRON"),
   (0x231, "LATIN SMALL LETTER O WITH DOT ABOVE AND MACRON"),
   (0x232, "LATIN CAPITAL LETTER Y WITH MACRON;LATIN SMALL LETTER Y WITH MACRON"),
   (0x234, "LATIN SMALL LETTER L WITH CURL;LATIN SMALL LETTER N WITH CURL"),
   (0x236, "LATIN SMALL LETTER T WITH CURL;LATIN SMALL LETTER DOTLESS J"),
   (0x238, "LATIN SMALL LETTER DB DIGRAPH;LATIN SMALL LETTER QP DIGRAPH"),
   (0x23a, "LATIN CAPITAL LETTER A WITH STROKE;LATIN CAPITAL LETTER C WITH STROKE"),
   (0x23c, "LATIN SMALL LETTER C WITH STROKE;LATIN CAPITAL LETTER L WITH BAR"),
   (0x23e, "LATIN CAPITAL LETTER T WITH DIAGONAL STROKE"),
   (0x23f, "LATIN SMALL LETTER S WITH SWASH TAIL;LATIN SMALL LETTER Z WITH SWASH TAIL"),
   (0x241, "LATIN CAPITAL LETTER GLOTTAL STOP;LATIN SMALL LETTER GLOTTAL STOP"),
   (0x243, "LATIN CAPITAL LETTER B WITH STROKE;LATIN CAPITAL LETTER U BAR"),
   (0x245, "LATIN CAPITAL LETTER TURNED V;LATIN CAPITAL LETTER E WITH STROKE"),
   (0x247, "LATIN SMALL LETTER E WITH STROKE;LATIN CAPITAL LETTER J WITH STROKE"),
   (0x249, "LATIN SMALL LETTER J WITH STROKE;LATIN CAPITAL LETTER SMALL Q WITH HOOK TAIL"),
   (0x24b, "LATIN SMALL LETTER Q WITH HOOK TAIL;LATIN CAPITAL LETTER R WITH STROKE"),
   (0x24d, "LATIN SMALL LETTER R WITH STROKE;LATIN CAPITAL LETTER Y WITH STROKE"),
   (0x24f, "LATIN SMALL LETTER Y WITH STROKE"),
   (0x250, "LATIN SMALL LETTER TURNED A;LATIN SMALL LETTER ALPHA"),
   (0x252, "LATIN SMALL LETTER TURNED ALPHA;LATIN SMALL LETTER B WITH HOOK"),
   (0x254, "LATIN SMALL LETTER OPEN O;LATIN SMALL LETTER C WITH CURL"),
   (0x256, "LATIN SMALL LETTER D WITH TAIL;LATIN SMALL LETTER D WITH HOOK"),
   (0x258, "LATIN SMALL LETTER REVERSED E;LATIN SMALL LETTER SCHWA"),
   (0x25a, "LATIN SMALL LETTER SCHWA WITH HOOK;LATIN SMALL LETTER OPEN E"),
   (0x25c, "LATIN SMALL LETTER REVERSED OPEN E"),
   (0x25d, "LATIN SMALL LETTER REVERSED OPEN E WITH HOOK"),
   (0x25e, "LATIN SMALL LETTER CLOSED REVERSED OPEN E"),
   (0x25f, "LATIN SMALL LETTER DOTLESS J WITH STROKE;LATIN SMALL LETTER G WITH HOOK"),
   (0x261, "LATIN SMALL LETTER SCRIPT G;LATIN LETTER SMALL CAPITAL G"),
   (0x263, "LATIN SMALL LETTER GAMMA;LATIN SMALL LETTER RAMS HORN"),
   (0x265, "LATIN SMALL LETTER TURNED H;LATIN SMALL LETTER H WITH HOOK"),
   (0x267, "LATIN SMALL LETTER HENG WITH HOOK;LATIN SMALL LETTER I WITH STROKE"),
   (0x269, "LATIN SMALL LETTER IOTA;LATIN LETTER SMALL CAPITAL I"),
   (0x26b, "LATIN SMALL LETTER L WITH MIDDLE TILDE;LATIN SMALL LETTER L WITH BELT"),
   (0x26d, "LATIN SMALL LETTER L WITH RETROFLEX HOOK;LATIN SMALL LETTER LEZH"),
   (0x26f, "LATIN SMALL LETTER TURNED M;LATIN SMALL LETTER TURNED M WITH LONG LEG"),
   (0x271, "LATIN SMALL LETTER M WITH HOOK;LATIN SMALL LETTER N WITH LEFT HOOK"),
   (0x273, "LATIN SMALL LETTER N WITH RETROFLEX HOOK;LATIN LETTER SMALL CAPITAL N"),
   (0x275, "LATIN SMALL LETTER BARRED O;LATIN LETTER SMALL CAPITAL OE"),
   (0x277, "LATIN SMALL LETTER CLOSED OMEGA;LATIN SMALL LETTER PHI"),
   (0x279, "LATIN SMALL LETTER TURNED R;LATIN SMALL LETTER TURNED R WITH LONG LEG"),
   (0x27b, "LATIN SMALL LETTER TURNED R WITH HOOK;LATIN SMALL LETTER R WITH LONG LEG"),
   (0x27d, "LATIN SMALL LETTER R WITH TAIL;LATIN SMALL LETTER R WITH FISHHOOK"),
   (0x27f, "LATIN SMALL LETTER REVERSED R WITH FISHHOOK;LATIN LETTER SMALL CAPITAL R"),
   (0x281, "LATIN LETTER SMALL CAPITAL INVERTED R;LATIN SMALL LETTER S WITH HOOK"),
   (0x283, "LATIN SMALL LETTER ESH;LATIN SMALL LETTER DOTLESS J WITH STROKE AND HOOK"),
   (0x285, "LATIN SMALL LETTER SQUAT REVERSED ESH;LATIN SMALL LETTER ESH WITH CURL"),
   (0x287, "LATIN SMALL LETTER TURNED T;LATIN SMALL LETTER T WITH RETROFLEX HOOK"),
   (0x289, "LATIN SMALL LETTER U BAR;LATIN SMALL LETTER UPSILON"),
   (0x28b, "LATIN SMALL LETTER V WITH HOOK;LATIN SMALL LETTER TURNED V"),
   (0x28d, "LATIN SMALL LETTER TURNED W;LATIN SMALL LETTER TURNED Y"),
   (0x28f, "LATIN LETTER SMALL CAPITAL Y;LATIN SMALL LETTER Z WITH RETROFLEX HOOK"),
   (0x291, "LATIN SMALL LETTER Z WITH CURL;LATIN SMALL LETTER EZH"),
   (0x293, "LATIN SMALL LETTER EZH WITH CURL;LATIN LETTER GLOTTAL STOP"),
   (0x295, "LATIN LETTER PHARYNGEAL VOICED FRICATIVE;LATIN LETTER INVERTED GLOTTAL STOP"),
   (0x297, "LATIN LETTER STRETCHED C;LATIN LETTER BILABIAL CLICK"),
   (0x299, "LATIN LETTER SMALL CAPITAL B;LATIN SMALL LETTER CLOSED OPEN E"),
   (0x29b, "LATIN LETTER SMALL CAPITAL G WITH HOOK;LATIN LETTER SMALL CAPITAL H"),
   (0x29d, "LATIN SMALL LETTER J WITH CROSSED-TAIL;LATIN SMALL LETTER TURNED K"),
   (0x29f, "LATIN LETTER SMALL CAPITAL L;LATIN SMALL LETTER Q WITH HOOK"),
   (0x2a1, "LATIN LETTER GLOTTAL STOP WITH STROKE"),
   (0x2a2, "LATIN LETTER REVERSED GLOTTAL STOP WITH STROKE;LATIN SMALL LETTER DZ DIGRAPH"),
   (0x2a4, "LATIN SMALL LETTER DEZH DIGRAPH;LATIN SMALL LETTER DZ DIGRAPH WITH CURL"),
   (0x2a6, "LATIN SMALL LETTER TS DIGRAPH;LATIN SMALL LETTER TESH DIGRAPH"),
   (0x2a8, "LATIN SMALL LETTER TC DIGRAPH WITH CURL;LATIN SMALL LETTER FENG DIGRAPH"),
   (0x2aa, "LATIN SMALL LETTER LS DIGRAPH;LATIN SMALL LETTER LZ DIGRAPH"),
   (0x2ac, "LATIN LETTER BILABIAL PERCUSSIVE;LATIN LETTER BIDENTAL PERCUSSIVE"),
   (0x2ae, "LATIN SMALL LETTER TURNED H WITH FISHHOOK"),
   (0x2af, "LATIN SMALL LETTER TURNED H WITH FISHHOOK AND TAIL;MODIFIER LETTER SMALL H"),
   (0x2b1, "MODIFIER LETTER SMALL H WITH HOOK;MODIFIER LETTER SMALL J"),
   (0x2b3, "MODIFIER LETTER SMALL R;MODIFIER LETTER SMALL TURNED R"),
   (0x2b5, "MODIFIER LETTER SMALL TURNED R WITH HOOK"),
   (0x2b6, "MODIFIER LETTER SMALL CAPITAL INVERTED R;MODIFIER LETTER SMALL W"),
   (0x2b8, "MODIFIER LETTER SMALL Y;MODIFIER LETTER PRIME;MODIFIER LETTER DOUBLE PRIME"),
   (0x2bb, "MODIFIER LETTER TURNED COMMA;MODIFIER LETTER APOSTROPHE"),
   (0x2bd, "MODIFIER LETTER REVERSED COMMA;MODIFIER LETTER RIGHT HALF RING"),
   (0x2bf, "MODIFIER LETTER LEFT HALF RING;MODIFIER LETTER GLOTTAL STOP"),
   (0x2c1, "MODIFIER LETTER REVERSED GLOTTAL STOP;MODIFIER LETTER LEFT ARROWHEAD"),
   (0x2c3, "MODIFIER LETTER RIGHT ARROWHEAD;MODIFIER LETTER UP ARROWHEAD"),
   (0x2c5, "MODIFIER LETTER DOWN ARROWHEAD;MODIFIER LETTER CIRCUMFLEX ACCENT;CARON"),
   (0x2c8, "MODIFIER LETTER VERTICAL LINE;MODIFIER LETTER MACRON"),
   (0x2ca, "MODIFIER LETTER ACUTE ACCENT;MODIFIER LETTER GRAVE ACCENT"),
   (0x2cc, "MODIFIER LETTER LOW VERTICAL LINE;MODIFIER LETTER LOW MACRON"),
   (0x2ce, "MODIFIER LETTER LOW GRAVE ACCENT;MODIFIER LETTER LOW ACUTE ACCENT"),
   (0x2d0, "MODIFIER LETTER TRIANGULAR COLON;MODIFIER LETTER HALF TRIANGULAR COLON"),
   (0x2d2, "MODIFIER LETTER CENTRED RIGHT HALF RING;MODIFIER LETTER CENTRED LEFT HALF RING"),
   (0x2d4, "MODIFIER LETTER UP TACK;MODIFIER LETTER DOWN TACK;MODIFIER LETTER PLUS SIGN"),
   (0x2d7, "MODIFIER LETTER MINUS SIGN;BREVE;DOT ABOVE;RING ABOVE;OGONEK;SMALL TILDE"),
   (0x2dd, "DOUBLE ACUTE ACCENT;MODIFIER LETTER RHOTIC HOOK;MODIFIER LETTER CROSS ACCENT"),
   (0x2e0, "MODIFIER LETTER SMALL GAMMA;MODIFIER LETTER SMALL L;MODIFIER LETTER SMALL S"),
   (0x2e3, "MODIFIER LETTER SMALL X;MODIFIER LETTER SMALL REVERSED GLOTTAL STOP"),
   (0x2e5, "MODIFIER LETTER EXTRA-HIGH TONE BAR;MODIFIER LETTER HIGH TONE BAR"),
   (0x2e7, "MODIFIER LETTER MID TONE BAR;MODIFIER LETTER LOW TONE BAR"),
   (0x2e9, "MODIFIER LETTER EXTRA-LOW TONE BAR;MODIFIER LETTER YIN DEPARTING TONE MARK"),
   (0x2eb, "MODIFIER LETTER YANG DEPARTING TONE MARK;MODIFIER LETTER VOICING"),
   (0x2ed, "MODIFIER LETTER UNASPIRATED;MODIFIER LETTER DOUBLE APOSTROPHE"),
   (0x2ef, "MODIFIER LETTER LOW DOWN ARROWHEAD;MODIFIER LETTER LOW UP ARROWHEAD"),
   (0x2f1, "MODIFIER LETTER LOW LEFT ARROWHEAD;MODIFIER LETTER LOW RIGHT ARROWHEAD"),
   (0x2f3, "MODIFIER LETTER LOW RING;MODIFIER LETTER MIDDLE GRAVE ACCENT"),
   (0x2f5, "MODIFIER LETTER MIDDLE DOUBLE GRAVE ACCENT"),
   (0x2f6, "MODIFIER LETTER MIDDLE DOUBLE ACUTE ACCENT;MODIFIER LETTER LOW TILDE"),
   (0x2f8, "MODIFIER LETTER RAISED COLON;MODIFIER LETTER BEGIN HIGH TONE"),
   (0x2fa, "MODIFIER LETTER END HIGH TONE;MODIFIER LETTER BEGIN LOW TONE"),
   (0x2fc, "MODIFIER LETTER END LOW TONE;MODIFIER LETTER SHELF;MODIFIER LETTER OPEN SHELF"),
   (0x2ff, "MODIFIER LETTER LOW LEFT ARROW;COMBINING GRAVE ACCENT;COMBINING ACUTE ACCENT"),
   (0x302, "COMBINING CIRCUMFLEX ACCENT;COMBINING TILDE;COMBINING MACRON"),
   (0x305, "COMBINING OVERLINE;COMBINING BREVE;COMBINING DOT ABOVE;COMBINING DIAERESIS"),
   (0x309, "COMBINING HOOK ABOVE;COMBINING RING ABOVE;COMBINING DOUBLE ACUTE ACCENT"),
   (0x30c, "COMBINING CARON;COMBINING VERTICAL LINE ABOVE"),
   (0x30e, "COMBINING DOUBLE VERTICAL LINE ABOVE;COMBINING DOUBLE GRAVE ACCENT"),
   (0x310, "COMBINING CANDRABINDU;COMBINING INVERTED BREVE;COMBINING TURNED COMMA ABOVE"),
   (0x313, "COMBINING COMMA ABOVE;COMBINING REVERSED COMMA ABOVE"),
   (0x315, "COMBINING COMMA ABOVE RIGHT;COMBINING GRAVE ACCENT BELOW"),
   (0x317, "COMBINING ACUTE ACCENT BELOW;COMBINING LEFT TACK BELOW"),
   (0x319, "COMBINING RIGHT TACK BELOW;COMBINING LEFT ANGLE ABOVE;COMBINING HORN"),
   (0x31c, "COMBINING LEFT HALF RING BELOW;COMBINING UP TACK BELOW"),
   (0x31e, "COMBINING DOWN TACK BELOW;COMBINING PLUS SIGN BELOW;COMBINING MINUS SIGN BELOW"),
   (0x321, "COMBINING PALATALIZED HOOK BELOW;COMBINING RETROFLEX HOOK BELOW"),
   (0x323, "COMBINING DOT BELOW;COMBINING DIAERESIS BELOW;COMBINING RING BELOW"),
   (0x326, "COMBINING COMMA BELOW;COMBINING CEDILLA;COMBINING OGONEK"),
   (0x329, "COMBINING VERTICAL LINE BELOW;COMBINING BRIDGE BELOW"),
   (0x32b, "COMBINING INVERTED DOUBLE ARCH BELOW;COMBINING CARON BELOW"),
   (0x32d, "COMBINING CIRCUMFLEX ACCENT BELOW;COMBINING BREVE BELOW"),
   (0x32f, "COMBINING INVERTED BREVE BELOW;COMBINING TILDE BELOW;COMBINING MACRON BELOW"),
   (0x332, "COMBINING LOW LINE;COMBINING DOUBLE LOW LINE;COMBINING TILDE OVERLAY"),
   (0x335, "COMBINING SHORT STROKE OVERLAY;COMBINING LONG STROKE OVERLAY"),
   (0x337, "COMBINING SHORT SOLIDUS OVERLAY;COMBINING LONG SOLIDUS OVERLAY"),
   (0x339, "COMBINING RIGHT HALF RING BELOW;COMBINING INVERTED BRIDGE BELOW"),
   (0x33b, "COMBINING SQUARE BELOW;COMBINING SEAGULL BELOW;COMBINING X ABOVE"),
   (0x33e, "COMBINING VERTICAL TILDE;COMBINING DOUBLE OVERLINE;COMBINING GRAVE TONE MARK"),
   (0x341, "COMBINING ACUTE TONE MARK;COMBINING GREEK PERISPOMENI;COMBINING GREEK KORONIS"),
   (0x344, "COMBINING GREEK DIALYTIKA TONOS;COMBINING GREEK YPOGEGRAMMENI"),
   (0x346, "COMBINING BRIDGE ABOVE;COMBINING EQUALS SIGN BELOW"),
   (0x348, "COMBINING DOUBLE VERTICAL LINE BELOW;COMBINING LEFT ANGLE BELOW"),
   (0x34a, "COMBINING NOT TILDE ABOVE;COMBINING HOMOTHETIC ABOVE"),
   (0x34c, "COMBINING ALMOST EQUAL TO ABOVE;COMBINING LEFT RIGHT ARROW BELOW"),
   (0x34e, "COMBINING UPWARDS ARROW BELOW;COMBINING GRAPHEME JOINER"),
   (0x350, "COMBINING RIGHT ARROWHEAD ABOVE;COMBINING LEFT HALF RING ABOVE"),
   (0x352, "COMBINING FERMATA;COMBINING X BELOW;COMBINING LEFT ARROWHEAD BELOW"),
   (0x355, "COMBINING RIGHT ARROWHEAD BELOW"),
   (0x356, "COMBINING RIGHT ARROWHEAD AND UP ARROWHEAD BELOW"),
   (0x357, "COMBINING RIGHT HALF RING ABOVE;COMBINING DOT ABOVE RIGHT"),
   (0x359, "COMBINING ASTERISK BELOW;COMBINING DOUBLE RING BELOW;COMBINING ZIGZAG ABOVE"),
   (0x35c, "COMBINING DOUBLE BREVE BELOW;COMBINING DOUBLE BREVE;COMBINING DOUBLE MACRON"),
   (0x35f, "COMBINING DOUBLE MACRON BELOW;COMBINING DOUBLE TILDE"),
   (0x361, "COMBINING DOUBLE INVERTED BREVE;COMBINING DOUBLE RIGHTWARDS ARROW BELOW"),
   (0x363, "COMBINING LATIN SMALL LETTER A;COMBINING LATIN SMALL LETTER E"),
   (0x365, "COMBINING LATIN SMALL LETTER I;COMBINING LATIN SMALL LETTER O"),
   (0x367, "COMBINING LATIN SMALL LETTER U;COMBINING LATIN SMALL LETTER C"),
   (0x369, "COMBINING LATIN SMALL LETTER D;COMBINING LATIN SMALL LETTER H"),
   (0x36b, "COMBINING LATIN SMALL LETTER M;COMBINING LATIN SMALL LETTER R"),
   (0x36d, "COMBINING LATIN SMALL LETTER T;COMBINING LATIN SMALL LETTER V"),
   (0x36f, "COMBINING LATIN SMALL LETTER X")]

/-- Greek, Coptic, Cyrillic and Armenian letters. -/
def greekCyrillicNames : List (Nat × String) :=
  [
   (0x370, "GREEK CAPITAL LETTER HETA;GREEK SMALL LETTER HETA"),
   (0x372, "GREEK CAPITAL LETTER ARCHAIC SAMPI;GREEK SMALL LETTER ARCHAIC SAMPI"),
   (0x374, "GREEK NUMERAL SIGN;GREEK LOWER NUMERAL SIGN"),
   (0x376, "GREEK CAPITAL LETTER PAMPHYLIAN DIGAMMA;GREEK SMALL LETTER PAMPHYLIAN DIGAMMA"),
   (0x37a, "GREEK YPOGEGRAMMENI;GREEK SMALL REVERSED LUNATE SIGMA SYMBOL"),
   (0x37c, "GREEK SMALL DOTTED LUNATE SIGMA SYMBOL"),
   (0x37d, "GREEK SMALL REVERSED DOTTED LUNATE SIGMA SYMBOL;GREEK QUESTION MARK"),
   (0x37f, "GREEK CAPITAL LETTER YOT"),
   (0x384, "GREEK TONOS;GREEK DIALYTIKA TONOS;GREEK CAPITAL LETTER ALPHA WITH TONOS"),
   (0x387, "GREEK ANO TELEIA;GREEK CAPITAL LETTER EPSILON WITH TONOS"),
   (0x389, "GREEK CAPITAL LETTER ETA WITH TONOS;GREEK CAPITAL LETTER IOTA WITH TONOS"),
   (0x38c, "GREEK CAPITAL LETTER OMICRON WITH TONOS"),
   (0x38e, "GREEK CAPITAL LETTER UPSILON WITH TONOS;GREEK CAPITAL LETTER OMEGA WITH TONOS"),
   (0x390, "GREEK SMALL LETTER IOTA WITH DIALYTIKA AND TONOS;GREEK CAPITAL LETTER ALPHA"),
   (0x392, "GREEK CAPITAL LETTER BETA;GREEK CAPITAL LETTER GAMMA"),
   (0x394, "GREEK CAPITAL LETTER DELTA;GREEK CAPITAL LETTER EPSILON"),
   (0x396, "GREEK CAPITAL LETTER ZETA;GREEK CAPITAL LETTER ETA;GREEK CAPITAL LETTER THETA"),
   (0x399, "GREEK CAPITAL LETTER IOTA;GREEK CAPITAL LETTER KAPPA"),
   (0x39b, "GREEK CAPITAL LETTER LAMDA;GREEK CAPITAL LETTER MU;GREEK CAPITAL LETTER NU"),
   (0x39e, "GREEK CAPITAL LETTER XI;GREEK CAPITAL LETTER OMICRON;GREEK CAPITAL LETTER PI"),
   (0x3a1, "GREEK CAPITAL LETTER RHO"),
   (0x3a3, "GREEK CAPITAL LETTER SIGMA;GREEK CAPITAL LETTER TAU"),
   (0x3a5, "GREEK CAPITAL LETTER UPSILON;GREEK CAPITAL LETTER PHI;GREEK CAPITAL LETTER CHI"),
   (0x3a8, "GREEK CAPITAL LETTER PSI;GREEK CAPITAL LETTER OMEGA"),
   (0x3aa, "GREEK CAPITAL LETTER IOTA WITH DIALYTIKA"),
   (0x3ab, "GREEK CAPITAL LETTER UPSILON WITH DIALYTIKA"),
   (0x3ac, "GREEK SMALL LETTER ALPHA WITH TONOS;GREEK SMALL LETTER EPSILON WITH TONOS"),
   (0x3ae, "GREEK SMALL LETTER ETA WITH TONOS;GREEK SMALL LETTER IOTA WITH TONOS"),
   (0x3b0, "GREEK SMALL LETTER UPSILON WITH DIALYTIKA AND TONOS;GREEK SMALL LETTER ALPHA"),
   (0x3b2, "GREEK SMALL LETTER BETA;GREEK SMALL LETTER GAMMA;GREEK SMALL LETTER DELTA"),
   (0x3b5, "GREEK SMALL LETTER EPSILON;GREEK SMALL LETTER ZETA;GREEK SMALL LETTER ETA"),
   (0x3b8, "GREEK SMALL LETTER THETA;GREEK SMALL LETTER IOTA;GREEK SMALL LETTER KAPPA"),
   (0x3bb, "GREEK SMALL LETTER LAMDA;GREEK SMALL LETTER MU;GREEK SMALL LETTER NU"),
   (0x3be, "GREEK SMALL LETTER XI;GREEK SMALL LETTER OMICRON;GREEK SMALL LETTER PI"),
   (0x3c1, "GREEK SMALL LETTER RHO;GREEK SMALL LETTER FINAL SIGMA;GREEK SMALL LETTER SIGMA"),
   (0x3c4, "GREEK SMALL LETTER TAU;GREEK SMALL LETTER UPSILON;GREEK SMALL LETTER PHI"),
   (0x3c7, "GREEK SMALL LETTER CHI;GREEK SMALL LETTER PSI;GREEK SMALL LETTER OMEGA"),
   (0x3ca, "GREEK SMALL LETTER IOTA WITH DIALYTIKA"),
   (0x3cb, "GREEK SMALL LETTER UPSILON WITH DIALYTIKA"),
   (0x3cc, "GREEK SMALL LETTER OMICRON WITH TONOS;GREEK SMALL LETTER UPSILON WITH TONOS"),
   (0x3ce, "GREEK SMALL LETTER OMEGA WITH TONOS;GREEK CAPITAL KAI SYMBOL;GREEK BETA SYMBOL"),
   (0x3d1, "GREEK THETA SYMBOL;GREEK UPSILON WITH HOOK SYMBOL"),
   (0x3d3, "GREEK UPSILON WITH ACUTE AND HOOK SYMBOL"),
   (0x3d4, "GREEK UPSILON WITH DIAERESIS AND HOOK SYMBOL;GREEK PHI SYMBOL;GREEK PI SYMBOL"),
   (0x3d7, "GREEK KAI SYMBOL;GREEK LETTER ARCHAIC KOPPA;GREEK SMALL LETTER ARCHAIC KOPPA"),
   (0x3da, "GREEK LETTER STIGMA;GREEK SMALL LETTER STIGMA;GREEK LETTER DIGAMMA"),
   (0x3dd, "GREEK SMALL LETTER DIGAMMA;GREEK LETTER KOPPA;GREEK SMALL LETTER KOPPA"),
   (0x3e0, "GREEK LETTER SAMPI;GREEK SMALL LETTER SAMPI;COPTIC CAPITAL LETTER SHEI"),
   (0x3e3, "COPTIC SMALL LETTER SHEI;COPTIC CAPITAL LETTER FEI;COPTIC SMALL LETTER FEI"),
   (0x3e6, "COPTIC CAPITAL LETTER KHEI;COPTIC SMALL LETTER KHEI;COPTIC CAPITAL LETTER HORI"),
   (0x3e9, "COPTIC SMALL LETTER HORI;COPTIC CAPITAL LETTER GANGIA"),
   (0x3eb, "COPTIC SMALL LETTER GANGIA;COPTIC CAPITAL LETTER SHIMA"),
   (0x3ed, "COPTIC SMALL LETTER SHIMA;COPTIC CAPITAL LETTER DEI;COPTIC SMALL LETTER DEI"),
   (0x3f0, "GREEK KAPPA SYMBOL;GREEK RHO SYMBOL;GREEK LUNATE SIGMA SYMBOL;GREEK LETTER YOT"),
   (0x3f4, "GREEK CAPITAL THETA SYMBOL;GREEK LUNATE EPSILON SYMBOL"),
   (0x3f6, "GREEK REVERSED LUNATE EPSILON SYMBOL;GREEK CAPITAL LETTER SHO"),
   (0x3f8, "GREEK SMALL LETTER SHO;GREEK CAPITAL LUNATE SIGMA SYMBOL"),
   (0x3fa, "GREEK CAPITAL LETTER SAN;GREEK SMALL LETTER SAN;GREEK RHO WITH STROKE SYMBOL"),
   (0x3fd, "GREEK CAPITAL REVERSED LUNATE SIGMA SYMBOL"),
   (0x3fe, "GREEK CAPITAL DOTTED LUNATE SIGMA SYMBOL"),
   (0x3ff, "GREEK CAPITAL REVERSED DOTTED LUNATE SIGMA SYMBOL"),
   (0x400, "CYRILLIC CAPITAL LETTER IE WITH GRAVE;CYRILLIC CAPITAL LETTER IO"),
   (0x402, "CYRILLIC CAPITAL LETTER DJE;CYRILLIC CAPITAL LETTER GJE"),
   (0x404, "CYRILLIC CAPITAL LETTER UKRAINIAN IE;CYRILLIC CAPITAL LETTER DZE"),
   (0x406, "CYRILLIC CAPITAL LETTER BYELORUSSIAN-UKRAINIAN I;CYRILLIC CAPITAL LETTER YI"),
   (0x408, "CYRILLIC CAPITAL LETTER JE;CYRILLIC CAPITAL LETTER LJE"),
   (0x40a, "CYRILLIC CAPITAL LETTER NJE;CYRILLIC CAPITAL LETTER TSHE"),
   (0x40c, "CYRILLIC CAPITAL LETTER KJE;CYRILLIC CAPITAL LETTER I WITH GRAVE"),
   (0x40e, "CYRILLIC CAPITAL LETTER SHORT U;CYRILLIC CAPITAL LETTER DZHE"),
   (0x410, "CYRILLIC CAPITAL LETTER A;CYRILLIC CAPITAL LETTER BE"),
   (0x412, "CYRILLIC CAPITAL LETTER VE;CYRILLIC CAPITAL LETTER GHE"),
   (0x414, "CYRILLIC CAPITAL LETTER DE;CYRILLIC CAPITAL LETTER IE"),
   (0x416, "CYRILLIC CAPITAL LETTER ZHE;CYRILLIC CAPITAL LETTER ZE"),
   (0x418, "CYRILLIC CAPITAL LETTER I;CYRILLIC CAPITAL LETTER SHORT I"),
   (0x41a, "CYRILLIC CAPITAL LETTER KA;CYRILLIC CAPITAL LETTER EL"),
   (0x41c, "CYRILLIC CAPITAL LETTER EM;CYRILLIC CAPITAL LETTER EN"),
   (0x41e, "CYRILLIC CAPITAL LETTER O;CYRILLIC CAPITAL LETTER PE"),
   (0x420, "CYRILLIC CAPITAL LETTER ER;CYRILLIC CAPITAL LETTER ES"),
   (0x422, "CYRILLIC CAPITAL LETTER TE;CYRILLIC CAPITAL LETTER U"),
   (0x424, "CYRILLIC CAPITAL LETTER EF;CYRILLIC CAPITAL LETTER HA"),
   (0x426, "CYRILLIC CAPITAL LETTER TSE;CYRILLIC CAPITAL LETTER CHE"),
   (0x428, "CYRILLIC CAPITAL LETTER SHA;CYRILLIC CAPITAL LETTER SHCHA"),
   (0x42a, "CYRILLIC CAPITAL LETTER HARD SIGN;CYRILLIC CAPITAL LETTER YERU"),
   (0x42c, "CYRILLIC CAPITAL LETTER SOFT SIGN;CYRILLIC CAPITAL LETTER E"),
   (0x42e, "CYRILLIC CAPITAL LETTER YU;CYRILLIC CAPITAL LETTER YA;CYRILLIC SMALL LETTER A"),
   (0x431, "CYRILLIC SMALL LETTER BE;CYRILLIC SMALL LETTER VE;CYRILLIC SMALL LETTER GHE"),
   (0x434, "CYRILLIC SMALL LETTER DE;CYRILLIC SMALL LETTER IE;CYRILLIC SMALL LETTER ZHE"),
   (0x437, "CYRILLIC SMALL LETTER ZE;CYRILLIC SMALL LETTER I;CYRILLIC SMALL LETTER SHORT I"),
   (0x43a, "CYRILLIC SMALL LETTER KA;CYRILLIC SMALL LETTER EL;CYRILLIC SMALL LETTER EM"),
   (0x43d, "CYRILLIC SMALL LETTER EN;CYRILLIC SMALL LETTER O;CYRILLIC SMALL LETTER PE"),
   (0x440, "CYRILLIC SMALL LETTER ER;CYRILLIC SMALL LETTER ES;CYRILLIC SMALL LETTER TE"),
   (0x443, "CYRILLIC SMALL LETTER U;CYRILLIC SMALL LETTER EF;CYRILLIC SMALL LETTER HA"),
   (0x446, "CYRILLIC SMALL LETTER TSE;CYRILLIC SMALL LETTER CHE;CYRILLIC SMALL LETTER SHA"),
   (0x449, "CYRILLIC SMALL LETTER SHCHA;CYRILLIC SMALL LETTER HARD SIGN"),
   (0x44b, "CYRILLIC SMALL LETTER YERU;CYRILLIC SMALL LETTER SOFT SIGN"),
   (0x44d, "CYRILLIC SMALL LETTER E;CYRILLIC SMALL LETTER YU;CYRILLIC SMALL LETTER YA"),
   (0x450, "CYRILLIC SMALL LETTER IE WITH GRAVE;CYRILLIC SMALL LETTER IO"),
   (0x452, "CYRILLIC SMALL LETTER DJE;CYRILLIC SMALL LETTER GJE"),
   (0x454, "CYRILLIC SMALL LETTER UKRAINIAN IE;CYRILLIC SMALL LETTER DZE"),
   (0x456, "CYRILLIC SMALL LETTER BYELORUSSIAN-UKRAINIAN I;CYRILLIC SMALL LETTER YI"),
   (0x458, "CYRILLIC SMALL LETTER JE;CYRILLIC SMALL LETTER LJE;CYRILLIC SMALL LETTER NJE"),
   (0x45b, "CYRILLIC SMALL LETTER TSHE;CYRILLIC SMALL LETTER KJE"),
   (0x45d, "CYRILLIC SMALL LETTER I WITH GRAVE;CYRILLIC SMALL LETTER SHORT U"),
   (0x45f, "CYRILLIC SMALL LETTER DZHE;CYRILLIC CAPITAL LETTER OMEGA"),
   (0x461, "CYRILLIC SMALL LETTER OMEGA;CYRILLIC CAPITAL LETTER YAT"),
   (0x463, "CYRILLIC SMALL LETTER YAT;CYRILLIC CAPITAL LETTER IOTIFIED E"),
   (0x465, "CYRILLIC SMALL LETTER IOTIFIED E;CYRILLIC CAPITAL LETTER LITTLE YUS"),
   (0x467, "CYRILLIC SMALL LETTER LITTLE YUS;CYRILLIC CAPITAL LETTER IOTIFIED LITTLE YUS"),
   (0x469, "CYRILLIC SMALL LETTER IOTIFIED LITTLE YUS;CYRILLIC CAPITAL LETTER BIG YUS"),
   (0x46b, "CYRILLIC SMALL LETTER BIG YUS;CYRILLIC CAPITAL LETTER IOTIFIED BIG YUS"),
   (0x46d, "CYRILLIC SMALL LETTER IOTIFIED BIG YUS;CYRILLIC CAPITAL LETTER KSI"),
   (0x46f, "CYRILLIC SMALL LETTER KSI;CYRILLIC CAPITAL LETTER PSI"),
   (0x471, "CYRILLIC SMALL LETTER PSI;CYRILLIC CAPITAL LETTER FITA"),
   (0x473, "CYRILLIC SMALL LETTER FITA;CYRILLIC CAPITAL LETTER IZHITSA"),
   (0x475, "CYRILLIC SMALL LETTER IZHITSA"),
   (0x476, "CYRILLIC CAPITAL LETTER IZHITSA WITH DOUBLE GRAVE ACCENT"),
   (0x477, "CYRILLIC SMALL LETTER IZHITSA WITH DOUBLE GRAVE ACCENT"),
   (0x478, "CYRILLIC CAPITAL LETTER UK;CYRILLIC SMALL LETTER UK"),
   (0x47a, "CYRILLIC CAPITAL LETTER ROUND OMEGA;CYRILLIC SMALL LETTER ROUND OMEGA"),
   (0x47c, "CYRILLIC CAPITAL LETTER OMEGA WITH TITLO"),
   (0x47d, "CYRILLIC SMALL LETTER OMEGA WITH TITLO;CYRILLIC CAPITAL LETTER OT"),
   (0x47f, "CYRILLIC SMALL LETTER OT;CYRILLIC CAPITAL LETTER KOPPA"),
   (0x481, "CYRILLIC SMALL LETTER KOPPA;CYRILLIC THOUSANDS SIGN;COMBINING CYRILLIC TITLO"),
   (0x484, "COMBINING CYRILLIC PALATALIZATION;COMBINING CYRILLIC DASIA PNEUMATA"),
   (0x486, "COMBINING CYRILLIC PSILI PNEUMATA;COMBINING CYRILLIC POKRYTIE"),
   (0x488, "COMBINING CYRILLIC HUNDRED THOUSANDS SIGN;COMBINING CYRILLIC MILLIONS SIGN"),
   (0x48a, "CYRILLIC CAPITAL LETTER SHORT I WITH TAIL"),
   (0x48b, "CYRILLIC SMALL LETTER SHORT I WITH TAIL;CYRILLIC CAPITAL LETTER SEMISOFT SIGN"),
   (0x48d, "CYRILLIC SMALL LETTER SEMISOFT SIGN;CYRILLIC CAPITAL LETTER ER WITH TICK"),
   (0x48f, "CYRILLIC SMALL LETTER ER WITH TICK;CYRILLIC CAPITAL LETTER GHE WITH UPTURN"),
   (0x491, "CYRILLIC SMALL LETTER GHE WITH UPTURN;CYRILLIC CAPITAL LETTER GHE WITH STROKE"),
   (0x493, "CYRILLIC SMALL LETTER GHE WITH STROKE"),
   (0x494, "CYRILLIC CAPITAL LETTER GHE WITH MIDDLE HOOK"),
   (0x495, "CYRILLIC SMALL LETTER GHE WITH MIDDLE HOOK"),
   (0x496, "CYRILLIC CAPITAL LETTER ZHE WITH DESCENDER"),
   (0x497, "CYRILLIC SMALL LETTER ZHE WITH DESCENDER"),
   (0x498, "CYRILLIC CAPITAL LETTER ZE WITH DESCENDER"),
   (0x499, "CYRILLIC SMALL LETTER ZE WITH DESCENDER"),
   (0x49a, "CYRILLIC CAPITAL LETTER KA WITH DESCENDER"),
   (0x49b, "CYRILLIC SMALL LETTER KA WITH DESCENDER"),
   (0x49c, "CYRILLIC CAPITAL LETTER KA WITH VERTICAL STROKE"),
   (0x49d, "CYRILLIC SMALL LETTER KA WITH VERTICAL STROKE"),
   (0x49e, "CYRILLIC CAPITAL LETTER KA WITH STROKE;CYRILLIC SMALL LETTER KA WITH STROKE"),
   (0x4a0, "CYRILLIC CAPITAL LETTER BASHKIR KA;CYRILLIC SMALL LETTER BASHKIR KA"),
   (0x4a2, "CYRILLIC CAPITAL LETTER EN WITH DESCENDER"),
   (0x4a3, "CYRILLIC SMALL LETTER EN WITH DESCENDER;CYRILLIC CAPITAL LIGATURE EN GHE"),
   (0x4a5, "CYRILLIC SMALL LIGATURE EN GHE;CYRILLIC CAPITAL LETTER PE WITH MIDDLE HOOK"),
   (0x4a7, "CYRILLIC SMALL LETTER PE WITH MIDDLE HOOK;CYRILLIC CAPITAL LETTER ABKHASIAN HA"),
   (0x4a9, "CYRILLIC SMALL LETTER ABKHASIAN HA;CYRILLIC CAPITAL LETTER ES WITH DESCENDER"),
   (0x4ab, "CYRILLIC SMALL LETTER ES WITH DESCENDER"),
   (0x4ac, "CYRILLIC CAPITAL LETTER TE WITH DESCENDER"),
   (0x4ad, "CYRILLIC SMALL LETTER TE WITH DESCENDER;CYRILLIC CAPITAL LETTER STRAIGHT U"),
   (0x4af, "CYRILLIC SMALL LETTER STRAIGHT U"),
   (0x4b0, "CYRILLIC CAPITAL LETTER STRAIGHT U WITH STROKE"),
   (0x4b1, "CYRILLIC SMALL LETTER STRAIGHT U WITH STROKE"),
   (0x4b2, "CYRILLIC CAPITAL LETTER HA WITH DESCENDER"),
   (0x4b3, "CYRILLIC SMALL LETTER HA WITH DESCENDER;CYRILLIC CAPITAL LIGATURE TE TSE"),
   (0x4b5, "CYRILLIC SMALL LIGATURE TE TSE;CYRILLIC CAPITAL LETTER CHE WITH DESCENDER"),
   (0x4b7, "CYRILLIC SMALL LETTER CHE WITH DESCENDER"),
   (0x4b8, "CYRILLIC CAPITAL LETTER CHE WITH VERTICAL STROKE"),
   (0x4b9, "CYRILLIC SMALL LETTER CHE WITH VERTICAL STROKE;CYRILLIC CAPITAL LETTER SHHA"),
   (0x4bb, "CYRILLIC SMALL LETTER SHHA;CYRILLIC CAPITAL LETTER ABKHASIAN CHE"),
   (0x4bd, "CYRILLIC SMALL LETTER ABKHASIAN CHE"),
   (0x4be, "CYRILLIC CAPITAL LETTER ABKHASIAN CHE WITH DESCENDER"),
   (0x4bf, "CYRILLIC SMALL LETTER ABKHASIAN CHE WITH DESCENDER;CYRILLIC LETTER PALOCHKA"),
   (0x4c1, "CYRILLIC CAPITAL LETTER ZHE WITH BREVE;CYRILLIC SMALL LETTER ZHE WITH BREVE"),
   (0x4c3, "CYRILLIC CAPITAL LETTER KA WITH HOOK;CYRILLIC SMALL LETTER KA WITH HOOK"),
   (0x4c5, "CYRILLIC CAPITAL LETTER EL WITH TAIL;CYRILLIC SMALL LETTER EL WITH TAIL"),
   (0x4c7, "CYRILLIC CAPITAL LETTER EN WITH HOOK;CYRILLIC SMALL LETTER EN WITH HOOK"),
   (0x4c9, "CYRILLIC CAPITAL LETTER EN WITH TAIL;CYRILLIC SMALL LETTER EN WITH TAIL"),
   (0x4cb, "CYRILLIC CAPITAL LETTER KHAKASSIAN CHE;CYRILLIC SMALL LETTER KHAKASSIAN CHE"),
   (0x4cd, "CYRILLIC CAPITAL LETTER EM WITH TAIL;CYRILLIC SMALL LETTER EM WITH TAIL"),
   (0x4cf, "CYRILLIC SMALL LETTER PALOCHKA;CYRILLIC CAPITAL LETTER A WITH BREVE"),
   (0x4d1, "CYRILLIC SMALL LETTER A WITH BREVE;CYRILLIC CAPITAL LETTER A WITH DIAERESIS"),
   (0x4d3, "CYRILLIC SMALL LETTER A WITH DIAERESIS;CYRILLIC CAPITAL LIGATURE A IE"),
   (0x4d5, "CYRILLIC SMALL LIGATURE A IE;CYRILLIC CAPITAL LETTER IE WITH BREVE"),
   (0x4d7, "CYRILLIC SMALL LETTER IE WITH BREVE;CYRILLIC CAPITAL LETTER SCHWA"),
   (0x4d9, "CYRILLIC SMALL LETTER SCHWA;CYRILLIC CAPITAL LETTER SCHWA WITH DIAERESIS"),
   (0x4db, "CYRILLIC SMALL LETTER SCHWA WITH DIAERESIS"),
   (0x4dc, "CYRILLIC CAPITAL LETTER ZHE WITH DIAERESIS"),
   (0x4dd, "CYRILLIC SMALL LETTER ZHE WITH DIAERESIS"),
   (0x4de, "CYRILLIC CAPITAL LETTER ZE WITH DIAERESIS"),
   (0x4df, "CYRILLIC SMALL LETTER ZE WITH DIAERESIS;CYRILLIC CAPITAL LETTER ABKHASIAN DZE"),
   (0x4e1, "CYRILLIC SMALL LETTER ABKHASIAN DZE;CYRILLIC CAPITAL LETTER I WITH MACRON"),
   (0x4e3, "CYRILLIC SMALL LETTER I WITH MACRON;CYRILLIC CAPITAL LETTER I WITH DIAERESIS"),
   (0x4e5, "CYRILLIC SMALL LETTER I WITH DIAERESIS"),
   (0x4e6, "CYRILLIC CAPITAL LETTER O WITH DIAERESIS"),
   (0x4e7, "CYRILLIC SMALL LETTER O WITH DIAERESIS;CYRILLIC CAPITAL LETTER BARRED O"),
   (0x4e9, "CYRILLIC SMALL LETTER BARRED O;CYRILLIC CAPITAL LETTER BARRED O WITH DIAERESIS"),
   (0x4eb, "CYRILLIC SMALL LETTER BARRED O WITH DIAERESIS"),
   (0x4ec, "CYRILLIC CAPITAL LETTER E WITH DIAERESIS"),
   (0x4ed, "CYRILLIC SMALL LETTER E WITH DIAERESIS;CYRILLIC CAPITAL LETTER U WITH MACRON"),
   (0x4ef, "CYRILLIC SMALL LETTER U WITH MACRON;CYRILLIC CAPITAL LETTER U WITH DIAERESIS"),
   (0x4f1, "CYRILLIC SMALL LETTER U WITH DIAERESIS"),
   (0x4f2, "CYRILLIC CAPITAL LETTER U WITH DOUBLE ACUTE"),
   (0x4f3, "CYRILLIC SMALL LETTER U WITH DOUBLE ACUTE"),
   (0x4f4, "CYRILLIC CAPITAL LETTER CHE WITH DIAERESIS"),
   (0x4f5, "CYRILLIC SMALL LETTER CHE WITH DIAERESIS"),
   (0x4f6, "CYRILLIC CAPITAL LETTER GHE WITH DESCENDER"),
   (0x4f7, "CYRILLIC SMALL LETTER GHE WITH DESCENDER"),
   (0x4f8, "CYRILLIC CAPITAL LETTER YERU WITH DIAERESIS"),
   (0x4f9, "CYRILLIC SMALL LETTER YERU WITH DIAERESIS"),
   (0x4fa, "CYRILLIC CAPITAL LETTER GHE WITH STROKE AND HOOK"),
   (0x4fb, "CYRILLIC SMALL LETTER GHE WITH STROKE AND HOOK"),
   (0x4fc, "CYRILLIC CAPITAL LETTER HA WITH HOOK;CYRILLIC SMALL LETTER HA WITH HOOK"),
   (0x4fe, "CYRILLIC CAPITAL LETTER HA WITH STROKE;CYRILLIC SMALL LETTER HA WITH STROKE"),
   (0x500, "CYRILLIC CAPITAL LETTER KOMI DE;CYRILLIC SMALL LETTER KOMI DE"),
   (0x502, "CYRILLIC CAPITAL LETTER KOMI DJE;CYRILLIC SMALL LETTER KOMI DJE"),
   (0x504, "CYRILLIC CAPITAL LETTER KOMI ZJE;CYRILLIC SMALL LETTER KOMI ZJE"),
   (0x506, "CYRILLIC CAPITAL LETTER KOMI DZJE;CYRILLIC SMALL LETTER KOMI DZJE"),
   (0x508, "CYRILLIC CAPITAL LETTER KOMI LJE;CYRILLIC SMALL LETTER KOMI LJE"),
   (0x50a, "CYRILLIC CAPITAL LETTER KOMI NJE;CYRILLIC SMALL LETTER KOMI NJE"),
   (0x50c, "CYRILLIC CAPITAL LETTER KOMI SJE;CYRILLIC SMALL LETTER KOMI SJE"),
   (0x50e, "CYRILLIC CAPITAL LETTER KOMI TJE;CYRILLIC SMALL LETTER KOMI TJE"),
   (0x510, "CYRILLIC CAPITAL LETTER REVERSED ZE;CYRILLIC SMALL LETTER REVERSED ZE"),
   (0x512, "CYRILLIC CAPITAL LETTER EL WITH HOOK;CYRILLIC SMALL LETTER EL WITH HOOK"),
   (0x514, "CYRILLIC CAPITAL LETTER LHA;CYRILLIC SMALL LETTER LHA"),
   (0x516, "CYRILLIC CAPITAL LETTER RHA;CYRILLIC SMALL LETTER RHA"),
   (0x518, "CYRILLIC CAPITAL LETTER YAE;CYRILLIC SMALL LETTER YAE"),
   (0x51a, "CYRILLIC CAPITAL LETTER QA;CYRILLIC SMALL LETTER QA;CYRILLIC CAPITAL LETTER WE"),
   (0x51d, "CYRILLIC SMALL LETTER WE;CYRILLIC CAPITAL LETTER ALEUT KA"),
   (0x51f, "CYRILLIC SMALL LETTER ALEUT KA;CYRILLIC CAPITAL LETTER EL WITH MIDDLE HOOK"),
   (0x521, "CYRILLIC SMALL LETTER EL WITH MIDDLE HOOK"),
   (0x522, "CYRILLIC CAPITAL LETTER EN WITH MIDDLE HOOK"),
   (0x523, "CYRILLIC SMALL LETTER EN WITH MIDDLE HOOK"),
   (0x524, "CYRILLIC CAPITAL LETTER PE WITH DESCENDER"),
   (0x525, "CYRILLIC SMALL LETTER PE WITH DESCENDER"),
   (0x526, "CYRILLIC CAPITAL LETTER SHHA WITH DESCENDER"),
   (0x527, "CYRILLIC SMALL LETTER SHHA WITH DESCENDER"),
   (0x528, "CYRILLIC CAPITAL LETTER EN WITH LEFT HOOK"),
   (0x529, "CYRILLIC SMALL LETTER EN WITH LEFT HOOK;CYRILLIC CAPITAL LETTER DZZHE"),
   (0x52b, "CYRILLIC SMALL LETTER DZZHE;CYRILLIC CAPITAL LETTER DCHE"),
   (0x52d, "CYRILLIC SMALL LETTER DCHE;CYRILLIC CAPITAL LETTER EL WITH DESCENDER"),
   (0x52f, "CYRILLIC SMALL LETTER EL WITH DESCENDER"),
   (0x531, "ARMENIAN CAPITAL LETTER AYB;ARMENIAN CAPITAL LETTER BEN"),
   (0x533, "ARMENIAN CAPITAL LETTER GIM;ARMENIAN CAPITAL LETTER DA"),
   (0x535, "ARMENIAN CAPITAL LETTER ECH;ARMENIAN CAPITAL LETTER ZA"),
   (0x537, "ARMENIAN CAPITAL LETTER EH;ARMENIAN CAPITAL LETTER ET"),
   (0x539, "ARMENIAN CAPITAL LETTER TO;ARMENIAN CAPITAL LETTER ZHE"),
   (0x53b, "ARMENIAN CAPITAL LETTER INI;ARMENIAN CAPITAL LETTER LIWN"),
   (0x53d, "ARMENIAN CAPITAL LETTER XEH;ARMENIAN CAPITAL LETTER CA"),
   (0x53f, "ARMENIAN CAPITAL LETTER KEN;ARMENIAN CAPITAL LETTER HO"),
   (0x541, "ARMENIAN CAPITAL LETTER JA;ARMENIAN CAPITAL LETTER GHAD"),
   (0x543, "ARMENIAN CAPITAL LETTER CHEH;ARMENIAN CAPITAL LETTER MEN"),
   (0x545, "ARMENIAN CAPITAL LETTER YI;ARMENIAN CAPITAL LETTER NOW"),
   (0x547, "ARMENIAN CAPITAL LETTER SHA;ARMENIAN CAPITAL LETTER VO"),
   (0x549, "ARMENIAN CAPITAL LETTER CHA;ARMENIAN CAPITAL LETTER PEH"),
   (0x54b, "ARMENIAN CAPITAL LETTER JHEH;ARMENIAN CAPITAL LETTER RA"),
   (0x54d, "ARMENIAN CAPITAL LETTER SEH;ARMENIAN CAPITAL LETTER VEW"),
   (0x54f, "ARMENIAN CAPITAL LETTER TIWN;ARMENIAN CAPITAL LETTER REH"),
   (0x551, "ARMENIAN CAPITAL LETTER CO;ARMENIAN CAPITAL LETTER YIWN"),
   (0x553, "ARMENIAN CAPITAL LETTER PIWR;ARMENIAN CAPITAL LETTER KEH"),
   (0x555, "ARMENIAN CAPITAL LETTER OH;ARMENIAN CAPITAL LETTER FEH"),
   (0x559, "ARMENIAN MODIFIER LETTER LEFT HALF RING;ARMENIAN APOSTROPHE"),
   (0x55b, "ARMENIAN EMPHASIS MARK;ARMENIAN EXCLAMATION MARK;ARMENIAN COMMA"),
   (0x55e, "ARMENIAN QUESTION MARK;ARMENIAN ABBREVIATION MARK"),
   (0x560, "ARMENIAN SMALL LETTER TURNED AYB;ARMENIAN SMALL LETTER AYB"),
   (0x562, "ARMENIAN SMALL LETTER BEN;ARMENIAN SMALL LETTER GIM;ARMENIAN SMALL LETTER DA"),
   (0x565, "ARMENIAN SMALL LETTER ECH;ARMENIAN SMALL LETTER ZA;ARMENIAN SMALL LETTER EH"),
   (0x568, "ARMENIAN SMALL LETTER ET;ARMENIAN SMALL LETTER TO;ARMENIAN SMALL LETTER ZHE"),
   (0x56b, "ARMENIAN SMALL LETTER INI;ARMENIAN SMALL LETTER LIWN;ARMENIAN SMALL LETTER XEH"),
   (0x56e, "ARMENIAN SMALL LETTER CA;ARMENIAN SMALL LETTER KEN;ARMENIAN SMALL LETTER HO"),
   (0x571, "ARMENIAN SMALL LETTER JA;ARMENIAN SMALL LETTER GHAD;ARMENIAN SMALL LETTER CHEH"),
   (0x574, "ARMENIAN SMALL LETTER MEN;ARMENIAN SMALL LETTER YI;ARMENIAN SMALL LETTER NOW"),
   (0x577, "ARMENIAN SMALL LETTER SHA;ARMENIAN SMALL LETTER VO;ARMENIAN SMALL LETTER CHA"),
   (0x57a, "ARMENIAN SMALL LETTER PEH;ARMENIAN SMALL LETTER JHEH;ARMENIAN SMALL LETTER RA"),
   (0x57d, "ARMENIAN SMALL LETTER SEH;ARMENIAN SMALL LETTER VEW;ARMENIAN SMALL LETTER TIWN"),
   (0x580, "ARMENIAN SMALL LETTER REH;ARMENIAN SMALL LETTER CO;ARMENIAN SMALL LETTER YIWN"),
   (0x583, "ARMENIAN SMALL LETTER PIWR;ARMENIAN SMALL LETTER KEH;ARMENIAN SMALL LETTER OH"),
   (0x586, "ARMENIAN SMALL LETTER FEH;ARMENIAN SMALL LIGATURE ECH YIWN"),
   (0x588, "ARMENIAN SMALL LETTER YI WITH STROKE;ARMENIAN FULL STOP;ARMENIAN HYPHEN"),
   (0x58d, "RIGHT-FACING ARMENIAN ETERNITY SIGN;LEFT-FACING ARMENIAN ETERNITY SIGN"),
   (0x58f, "ARMENIAN DRAM SIGN")]

/-- Hebrew and Arabic letters. -/
def hebrewArabicNames : List (Nat × String) :=
  [
   (0x5d0, "HEBREW LETTER ALEF;HEBREW LETTER BET;HEBREW LETTER GIMEL;HEBREW LETTER DALET"),
   (0x5d4, "HEBREW LETTER HE;HEBREW LETTER VAV;HEBREW LETTER ZAYIN;HEBREW LETTER HET"),
   (0x5d8, "HEBREW LETTER TET;HEBREW LETTER YOD;HEBREW LETTER FINAL KAF;HEBREW LETTER KAF"),
   (0x5dc, "HEBREW LETTER LAMED;HEBREW LETTER FINAL MEM;HEBREW LETTER MEM"),
   (0x5df, "HEBREW LETTER FINAL NUN;HEBREW LETTER NUN;HEBREW LETTER SAMEKH"),
   (0x5e2, "HEBREW LETTER AYIN;HEBREW LETTER FINAL PE;HEBREW LETTER PE"),
   (0x5e5, "HEBREW LETTER FINAL TSADI;HEBREW LETTER TSADI;HEBREW LETTER QOF"),
   (0x5e8, "HEBREW LETTER RESH;HEBREW LETTER SHIN;HEBREW LETTER TAV"),
   (0x5ef, "HEBREW YOD TRIANGLE;HEBREW LIGATURE YIDDISH DOUBLE VAV"),
   (0x5f1, "HEBREW LIGATURE YIDDISH VAV YOD;HEBREW LIGATURE YIDDISH DOUBLE YOD"),
   (0x5f3, "HEBREW PUNCTUATION GERESH;HEBREW PUNCTUATION GERSHAYIM"),
   (0x621, "ARABIC LETTER HAMZA;ARABIC LETTER ALEF WITH MADDA ABOVE"),
   (0x623, "ARABIC LETTER ALEF WITH HAMZA ABOVE;ARABIC LETTER WAW WITH HAMZA ABOVE"),
   (0x625, "ARABIC LETTER ALEF WITH HAMZA BELOW;ARABIC LETTER YEH WITH HAMZA ABOVE"),
   (0x627, "ARABIC LETTER ALEF;ARABIC LETTER BEH;ARABIC LETTER TEH MARBUTA"),
   (0x62a, "ARABIC LETTER TEH;ARABIC LETTER THEH;ARABIC LETTER JEEM;ARABIC LETTER HAH"),
   (0x62e, "ARABIC LETTER KHAH;ARABIC LETTER DAL;ARABIC LETTER THAL;ARABIC LETTER REH"),
   (0x632, "ARABIC LETTER ZAIN;ARABIC LETTER SEEN;ARABIC LETTER SHEEN;ARABIC LETTER SAD"),
   (0x636, "ARABIC LETTER DAD;ARABIC LETTER TAH;ARABIC LETTER ZAH;ARABIC LETTER AIN"),
   (0x63a, "ARABIC LETTER GHAIN;ARABIC LETTER KEHEH WITH TWO DOTS ABOVE"),
   (0x63c, "ARABIC LETTER KEHEH WITH THREE DOTS BELOW"),
   (0x63d, "ARABIC LETTER FARSI YEH WITH INVERTED V"),
   (0x63e, "ARABIC LETTER FARSI YEH WITH TWO DOTS ABOVE"),
   (0x63f, "ARABIC LETTER FARSI YEH WITH THREE DOTS ABOVE;ARABIC TATWEEL;ARABIC LETTER FEH"),
   (0x642, "ARABIC LETTER QAF;ARABIC LETTER KAF;ARABIC LETTER LAM;ARABIC LETTER MEEM"),
   (0x646, "ARABIC LETTER NOON;ARABIC LETTER HEH;ARABIC LETTER WAW"),
   (0x649, "ARABIC LETTER ALEF MAKSURA;ARABIC LETTER YEH"),
   (0xe3f, "THAI CURRENCY SYMBOL BAHT")]

/-- Further Latin letters. -/
def latinAdditionalNames : List (Nat × String) :=
  [
   (0x1e00, "LATIN CAPITAL LETTER A WITH RING BELOW;LATIN SMALL LETTER A WITH RING BELOW"),
   (0x1e02, "LATIN CAPITAL LETTER B WITH DOT ABOVE;LATIN SMALL LETTER B WITH DOT ABOVE"),
   (0x1e04, "LATIN CAPITAL LETTER B WITH DOT BELOW;LATIN SMALL LETTER B WITH DOT BELOW"),
   (0x1e06, "LATIN CAPITAL LETTER B WITH LINE BELOW;LATIN SMALL LETTER B WITH LINE BELOW"),
   (0x1e08, "LATIN CAPITAL LETTER C WITH CEDILLA AND ACUTE"),
   (0x1e09, "LATIN SMALL LETTER C WITH CEDILLA AND ACUTE"),
   (0x1e0a, "LATIN CAPITAL LETTER D WITH DOT ABOVE;LATIN SMALL LETTER D WITH DOT ABOVE"),
   (0x1e0c, "LATIN CAPITAL LETTER D WITH DOT BELOW;LATIN SMALL LETTER D WITH DOT BELOW"),
   (0x1e0e, "LATIN CAPITAL LETTER D WITH LINE BELOW;LATIN SMALL LETTER D WITH LINE BELOW"),
   (0x1e10, "LATIN CAPITAL LETTER D WITH CEDILLA;LATIN SMALL LETTER D WITH CEDILLA"),
   (0x1e12, "LATIN CAPITAL LETTER D WITH CIRCUMFLEX BELOW"),
   (0x1e13, "LATIN SMALL LETTER D WITH CIRCUMFLEX BELOW"),
   (0x1e14, "LATIN CAPITAL LETTER E WITH MACRON AND GRAVE"),
   (0x1e15, "LATIN SMALL LETTER E WITH MACRON AND GRAVE"),
   (0x1e16, "LATIN CAPITAL LETTER E WITH MACRON AND ACUTE"),
   (0x1e17, "LATIN SMALL LETTER E WITH MACRON AND ACUTE"),
   (0x1e18, "LATIN CAPITAL LETTER E WITH CIRCUMFLEX BELOW"),
   (0x1e19, "LATIN SMALL LETTER E WITH CIRCUMFLEX BELOW"),
   (0x1e1a, "LATIN CAPITAL LETTER E WITH TILDE BELOW;LATIN SMALL LETTER E WITH TILDE BELOW"),
   (0x1e1c, "LATIN CAPITAL LETTER E WITH CEDILLA AND BREVE"),
   (0x1e1d, "LATIN SMALL LETTER E WITH CEDILLA AND BREVE"),
   (0x1e1e, "LATIN CAPITAL LETTER F WITH DOT ABOVE;LATIN SMALL LETTER F WITH DOT ABOVE"),
   (0x1e20, "LATIN CAPITAL LETTER G WITH MACRON;LATIN SMALL LETTER G WITH MACRON"),
   (0x1e22, "LATIN CAPITAL LETTER H WITH DOT ABOVE;LATIN SMALL LETTER H WITH DOT ABOVE"),
   (0x1e24, "LATIN CAPITAL LETTER H WITH DOT BELOW;LATIN SMALL LETTER H WITH DOT BELOW"),
   (0x1e26, "LATIN CAPITAL LETTER H WITH DIAERESIS;LATIN SMALL LETTER H WITH DIAERESIS"),
   (0x1e28, "LATIN CAPITAL LETTER H WITH CEDILLA;LATIN SMALL LETTER H WITH CEDILLA"),
   (0x1e2a, "LATIN CAPITAL LETTER H WITH BREVE BELOW;LATIN SMALL LETTER H WITH BREVE BELOW"),
   (0x1e2c, "LATIN CAPITAL LETTER I WITH TILDE BELOW;LATIN SMALL LETTER I WITH TILDE BELOW"),
   (0x1e2e, "LATIN CAPITAL LETTER I WITH DIAERESIS AND ACUTE"),
   (0x1e2f, "LATIN SMALL LETTER I WITH DIAERESIS AND ACUTE"),
   (0x1e30, "LATIN CAPITAL LETTER K WITH ACUTE;LATIN SMALL LETTER K WITH ACUTE"),
   (0x1e32, "LATIN CAPITAL LETTER K WITH DOT BELOW;LATIN SMALL LETTER K WITH DOT BELOW"),
   (0x1e34, "LATIN CAPITAL LETTER K WITH LINE BELOW;LATIN SMALL LETTER K WITH LINE BELOW"),
   (0x1e36, "LATIN CAPITAL LETTER L WITH DOT BELOW;LATIN SMALL LETTER L WITH DOT BELOW"),
   (0x1e38, "LATIN CAPITAL LETTER L WITH DOT BELOW AND MACRON"),
   (0x1e39, "LATIN SMALL LETTER L WITH DOT BELOW AND MACRON"),
   (0x1e3a, "LATIN CAPITAL LETTER L WITH LINE BELOW;LATIN SMALL LETTER L WITH LINE BELOW"),
   (0x1e3c, "LATIN CAPITAL LETTER L WITH CIRCUMFLEX BELOW"),
   (0x1e3d, "LATIN SMALL LETTER L WITH CIRCUMFLEX BELOW;LATIN CAPITAL LETTER M WITH ACUTE"),
   (0x1e3f, "LATIN SMALL LETTER M WITH ACUTE;LATIN CAPITAL LETTER M WITH DOT ABOVE"),
   (0x1e41, "LATIN SMALL LETTER M WITH DOT ABOVE;LATIN CAPITAL LETTER M WITH DOT BELOW"),
   (0x1e43, "LATIN SMALL LETTER M WITH DOT BELOW;LATIN CAPITAL LETTER N WITH DOT ABOVE"),
   (0x1e45, "LATIN SMALL LETTER N WITH DOT ABOVE;LATIN CAPITAL LETTER N WITH DOT BELOW"),
   (0x1e47, "LATIN SMALL LETTER N WITH DOT BELOW;LATIN CAPITAL LETTER N WITH LINE BELOW"),
   (0x1e49, "LATIN SMALL LETTER N WITH LINE BELOW"),
   (0x1e4a, "LATIN CAPITAL LETTER N WITH CIRCUMFLEX BELOW"),
   (0x1e4b, "LATIN SMALL LETTER N WITH CIRCUMFLEX BELOW"),
   (0x1e4c, "LATIN CAPITAL LETTER O WITH TILDE AND ACUTE"),
   (0x1e4d, "LATIN SMALL LETTER O WITH TILDE AND ACUTE"),
   (0x1e4e, "LATIN CAPITAL LETTER O WITH TILDE AND DIAERESIS"),
   (0x1e4f, "LATIN SMALL LETTER O WITH TILDE AND DIAERESIS"),
   (0x1e50, "LATIN CAPITAL LETTER O WITH MACRON AND GRAVE"),
   (0x1e51, "LATIN SMALL LETTER O WITH MACRON AND GRAVE"),
   (0x1e52, "LATIN CAPITAL LETTER O WITH MACRON AND ACUTE"),
   (0x1e53, "LATIN SMALL LETTER O WITH MACRON AND ACUTE;LATIN CAPITAL LETTER P WITH ACUTE"),
   (0x1e55, "LATIN SMALL LETTER P WITH ACUTE;LATIN CAPITAL LETTER P WITH DOT ABOVE"),
   (0x1e57, "LATIN SMALL LETTER P WITH DOT ABOVE;LATIN CAPITAL LETTER R WITH DOT ABOVE"),
   (0x1e59, "LATIN SMALL LETTER R WITH DOT ABOVE;LATIN CAPITAL LETTER R WITH DOT BELOW"),
   (0x1e5b, "LATIN SMALL LETTER R WITH DOT BELOW"),
   (0x1e5c, "LATIN CAPITAL LETTER R WITH DOT BELOW AND MACRON"),
   (0x1e5d, "LATIN SMALL LETTER R WITH DOT BELOW AND MACRON"),
   (0x1e5e, "LATIN CAPITAL LETTER R WITH LINE BELOW;LATIN SMALL LETTER R WITH LINE BELOW"),
   (0x1e60, "LATIN CAPITAL LETTER S WITH DOT ABOVE;LATIN SMALL LETTER S WITH DOT ABOVE"),
   (0x1e62, "LATIN CAPITAL LETTER S WITH DOT BELOW;LATIN SMALL LETTER S WITH DOT BELOW"),
   (0x1e64, "LATIN CAPITAL LETTER S WITH ACUTE AND DOT ABOVE"),
   (0x1e65, "LATIN SMALL LETTER S WITH ACUTE AND DOT ABOVE"),
   (0x1e66, "LATIN CAPITAL LETTER S WITH CARON AND DOT ABOVE"),
   (0x1e67, "LATIN SMALL LETTER S WITH CARON AND DOT ABOVE"),
   (0x1e68, "LATIN CAPITAL LETTER S WITH DOT BELOW AND DOT ABOVE"),
   (0x1e69, "LATIN SMALL LETTER S WITH DOT BELOW AND DOT ABOVE"),
   (0x1e6a, "LATIN CAPITAL LETTER T WITH DOT ABOVE;LATIN SMALL LETTER T WITH DOT ABOVE"),
   (0x1e6c, "LATIN CAPITAL LETTER T WITH DOT BELOW;LATIN SMALL LETTER T WITH DOT BELOW"),
   (0x1e6e, "LATIN CAPITAL LETTER T WITH LINE BELOW;LATIN SMALL LETTER T WITH LINE BELOW"),
   (0x1e70, "LATIN CAPITAL LETTER T WITH CIRCUMFLEX BELOW"),
   (0x1e71, "LATIN SMALL LETTER T WITH CIRCUMFLEX BELOW"),
   (0x1e72, "LATIN CAPITAL LETTER U WITH DIAERESIS BELOW"),
   (0x1e73, "LATIN SMALL LETTER U WITH DIAERESIS BELOW"),
   (0x1e74, "LATIN CAPITAL LETTER U WITH TILDE BELOW;LATIN SMALL LETTER U WITH TILDE BELOW"),
   (0x1e76, "LATIN CAPITAL LETTER U WITH CIRCUMFLEX BELOW"),
   (0x1e77, "LATIN SMALL LETTER U WITH CIRCUMFLEX BELOW"),
   (0x1e78, "LATIN CAPITAL LETTER U WITH TILDE AND ACUTE"),
   (0x1e79, "LATIN SMALL LETTER U WITH TILDE AND ACUTE"),
   (0x1e7a, "LATIN CAPITAL LETTER U WITH MACRON AND DIAERESIS"),
   (0x1e7b, "LATIN SMALL LETTER U WITH MACRON AND DIAERESIS"),
   (0x1e7c, "LATIN CAPITAL LETTER V WITH TILDE;LATIN SMALL LETTER V WITH TILDE"),
   (0x1e7e, "LATIN CAPITAL LETTER V WITH DOT BELOW;LATIN SMALL LETTER V WITH DOT BELOW"),
   (0x1e80, "LATIN CAPITAL LETTER W WITH GRAVE;LATIN SMALL LETTER W WITH GRAVE"),
   (0x1e82, "LATIN CAPITAL LETTER W WITH ACUTE;LATIN SMALL LETTER W WITH ACUTE"),
   (0x1e84, "LATIN CAPITAL LETTER W WITH DIAERESIS;LATIN SMALL LETTER W WITH DIAERESIS"),
   (0x1e86, "LATIN CAPITAL LETTER W WITH DOT ABOVE;LATIN SMALL LETTER W WITH DOT ABOVE"),
   (0x1e88, "LATIN CAPITAL LETTER W WITH DOT BELOW;LATIN SMALL LETTER W WITH DOT BELOW"),
   (0x1e8a, "LATIN CAPITAL LETTER X WITH DOT ABOVE;LATIN SMALL LETTER X WITH DOT ABOVE"),
   (0x1e8c, "LATIN CAPITAL LETTER X WITH DIAERESIS;LATIN SMALL LETTER X WITH DIAERESIS"),
   (0x1e8e, "LATIN CAPITAL LETTER Y WITH DOT ABOVE;LATIN SMALL LETTER Y WITH DOT ABOVE"),
   (0x1e90, "LATIN CAPITAL LETTER Z WITH CIRCUMFLEX;LATIN SMALL LETTER Z WITH CIRCUMFLEX"),
   (0x1e92, "LATIN CAPITAL LETTER Z WITH DOT BELOW;LATIN SMALL LETTER Z WITH DOT BELOW"),
   (0x1e94, "LATIN CAPITAL LETTER Z WITH LINE BELOW;LATIN SMALL LETTER Z WITH LINE BELOW"),
   (0x1e96, "LATIN SMALL LETTER H WITH LINE BELOW;LATIN SMALL LETTER T WITH DIAERESIS"),
   (0x1e98, "LATIN SMALL LETTER W WITH RING ABOVE;LATIN SMALL LETTER Y WITH RING ABOVE"),
   (0x1e9a, "LATIN SMALL LETTER A WITH RIGHT HALF RING"),
   (0x1e9b, "LATIN SMALL LETTER LONG S WITH DOT ABOVE"),
   (0x1e9c, "LATIN SMALL LETTER LONG S WITH DIAGONAL STROKE"),
   (0x1e9d, "LATIN SMALL LETTER LONG S WITH HIGH STROKE;LATIN CAPITAL LETTER SHARP S"),
   (0x1e9f, "LATIN SMALL LETTER DELTA;LATIN CAPITAL LETTER A WITH DOT BELOW"),
   (0x1ea1, "LATIN SMALL LETTER A WITH DOT BELOW;LATIN CAPITAL LETTER A WITH HOOK ABOVE"),
   (0x1ea3, "LATIN SMALL LETTER A WITH HOOK ABOVE"),
   (0x1ea4, "LATIN CAPITAL LETTER A WITH CIRCUMFLEX AND ACUTE"),
   (0x1ea5, "LATIN SMALL LETTER A WITH CIRCUMFLEX AND ACUTE"),
   (0x1ea6, "LATIN CAPITAL LETTER A WITH CIRCUMFLEX AND GRAVE"),
   (0x1ea7, "LATIN SMALL LETTER A WITH CIRCUMFLEX AND GRAVE"),
   (0x1ea8, "LATIN CAPITAL LETTER A WITH CIRCUMFLEX AND HOOK ABOVE"),
   (0x1ea9, "LATIN SMALL LETTER A WITH CIRCUMFLEX AND HOOK ABOVE"),
   (0x1eaa, "LATIN CAPITAL LETTER A WITH CIRCUMFLEX AND TILDE"),
   (0x1eab, "LATIN SMALL LETTER A WITH CIRCUMFLEX AND TILDE"),
   (0x1eac, "LATIN CAPITAL LETTER A WITH CIRCUMFLEX AND DOT BELOW"),
   (0x1ead, "LATIN SMALL LETTER A WITH CIRCUMFLEX AND DOT BELOW"),
   (0x1eae, "LATIN CAPITAL LETTER A WITH BREVE AND ACUTE"),
   (0x1eaf, "LATIN SMALL LETTER A WITH BREVE AND ACUTE"),
   (0x1eb0, "LATIN CAPITAL LETTER A WITH BREVE AND GRAVE"),
   (0x1eb1, "LATIN SMALL LETTER A WITH BREVE AND GRAVE"),
   (0x1eb2, "LATIN CAPITAL LETTER A WITH BREVE AND HOOK ABOVE"),
   (0x1eb3, "LATIN SMALL LETTER A WITH BREVE AND HOOK ABOVE"),
   (0x1eb4, "LATIN CAPITAL LETTER A WITH BREVE AND TILDE"),
   (0x1eb5, "LATIN SMALL LETTER A WITH BREVE AND TILDE"),
   (0x1eb6, "LATIN CAPITAL LETTER A WITH BREVE AND DOT BELOW"),
   (0x1eb7, "LATIN SMALL LETTER A WITH BREVE AND DOT BELOW"),
   (0x1eb8, "LATIN CAPITAL LETTER E WITH DOT BELOW;LATIN SMALL LETTER E WITH DOT BELOW"),
   (0x1eba, "LATIN CAPITAL LETTER E WITH HOOK ABOVE;LATIN SMALL LETTER E WITH HOOK ABOVE"),
   (0x1ebc, "LATIN CAPITAL LETTER E WITH TILDE;LATIN SMALL LETTER E WITH TILDE"),
   (0x1ebe, "LATIN CAPITAL LETTER E WITH CIRCUMFLEX AND ACUTE"),
   (0x1ebf, "LATIN SMALL LETTER E WITH CIRCUMFLEX AND ACUTE"),
   (0x1ec0, "LATIN CAPITAL LETTER E WITH CIRCUMFLEX AND GRAVE"),
   (0x1ec1, "LATIN SMALL LETTER E WITH CIRCUMFLEX AND GRAVE"),
   (0x1ec2, "LATIN CAPITAL LETTER E WITH CIRCUMFLEX AND HOOK ABOVE"),
   (0x1ec3, "LATIN SMALL LETTER E WITH CIRCUMFLEX AND HOOK ABOVE"),
   (0x1ec4, "LATIN CAPITAL LETTER E WITH CIRCUMFLEX AND TILDE"),
   (0x1ec5, "LATIN SMALL LETTER E WITH CIRCUMFLEX AND TILDE"),
   (0x1ec6, "LATIN CAPITAL LETTER E WITH CIRCUMFLEX AND DOT BELOW"),
   (0x1ec7, "LATIN SMALL LETTER E WITH CIRCUMFLEX AND DOT BELOW"),
   (0x1ec8, "LATIN CAPITAL LETTER I WITH HOOK ABOVE;LATIN SMALL LETTER I WITH HOOK ABOVE"),
   (0x1eca, "LATIN CAPITAL LETTER I WITH DOT BELOW;LATIN SMALL LETTER I WITH DOT BELOW"),
   (0x1ecc, "LATIN CAPITAL LETTER O WITH DOT BELOW;LATIN SMALL LETTER O WITH DOT BELOW"),
   (0x1ece, "LATIN CAPITAL LETTER O WITH HOOK ABOVE;LATIN SMALL LETTER O WITH HOOK ABOVE"),
   (0x1ed0, "LATIN CAPITAL LETTER O WITH CIRCUMFLEX AND ACUTE"),
   (0x1ed1, "LATIN SMALL LETTER O WITH CIRCUMFLEX AND ACUTE"),
   (0x1ed2, "LATIN CAPITAL LETTER O WITH CIRCUMFLEX AND GRAVE"),
   (0x1ed3, "LATIN SMALL LETTER O WITH CIRCUMFLEX AND GRAVE"),
   (0x1ed4, "LATIN CAPITAL LETTER O WITH CIRCUMFLEX AND HOOK ABOVE"),
   (0x1ed5, "LATIN SMALL LETTER O WITH CIRCUMFLEX AND HOOK ABOVE"),
   (0x1ed6, "LATIN CAPITAL LETTER O WITH CIRCUMFLEX AND TILDE"),
   (0x1ed7, "LATIN SMALL LETTER O WITH CIRCUMFLEX AND TILDE"),
   (0x1ed8, "LATIN CAPITAL LETTER O WITH CIRCUMFLEX AND DOT BELOW"),
   (0x1ed9, "LATIN SMALL LETTER O WITH CIRCUMFLEX AND DOT BELOW"),
   (0x1eda, "LATIN CAPITAL LETTER O WITH HORN AND ACUTE"),
   (0x1edb, "LATIN SMALL LETTER O WITH HORN AND ACUTE"),
   (0x1edc, "LATIN CAPITAL LETTER O WITH HORN AND GRAVE"),
   (0x1edd, "LATIN SMALL LETTER O WITH HORN AND GRAVE"),
   (0x1ede, "LATIN CAPITAL LETTER O WITH HORN AND HOOK ABOVE"),
   (0x1edf, "LATIN SMALL LETTER O WITH HORN AND HOOK ABOVE"),
   (0x1ee0, "LATIN CAPITAL LETTER O WITH HORN AND TILDE"),
   (0x1ee1, "LATIN SMALL LETTER O WITH HORN AND TILDE"),
   (0x1ee2, "LATIN CAPITAL LETTER O WITH HORN AND DOT BELOW"),
   (0x1ee3, "LATIN SMALL LETTER O WITH HORN AND DOT BELOW"),
   (0x1ee4, "LATIN CAPITAL LETTER U WITH DOT BELOW;LATIN SMALL LETTER U WITH DOT BELOW"),
   (0x1ee6, "LATIN CAPITAL LETTER U WITH HOOK ABOVE;LATIN SMALL LETTER U WITH HOOK ABOVE"),
   (0x1ee8, "LATIN CAPITAL LETTER U WITH HORN AND ACUTE"),
   (0x1ee9, "LATIN SMALL LETTER U WITH HORN AND ACUTE"),
   (0x1eea, "LATIN CAPITAL LETTER U WITH HORN AND GRAVE"),
   (0x1eeb, "LATIN SMALL LETTER U WITH HORN AND GRAVE"),
   (0x1eec, "LATIN CAPITAL LETTER U WITH HORN AND HOOK ABOVE"),
   (0x1eed, "LATIN SMALL LETTER U WITH HORN AND HOOK ABOVE"),
   (0x1eee, "LATIN CAPITAL LETTER U WITH HORN AND TILDE"),
   (0x1eef, "LATIN SMALL LETTER U WITH HORN AND TILDE"),
   (0x1ef0, "LATIN CAPITAL LETTER U WITH HORN AND DOT BELOW"),
   (0x1ef1, "LATIN SMALL LETTER U WITH HORN AND DOT BELOW;LATIN CAPITAL LETTER Y WITH GRAVE"),
   (0x1ef3, "LATIN SMALL LETTER Y WITH GRAVE;LATIN CAPITAL LETTER Y WITH DOT BELOW"),
   (0x1ef5, "LATIN SMALL LETTER Y WITH DOT BELOW;LATIN CAPITAL LETTER Y WITH HOOK ABOVE"),
   (0x1ef7, "LATIN SMALL LETTER Y WITH HOOK ABOVE;LATIN CAPITAL LETTER Y WITH TILDE"),
   (0x1ef9, "LATIN SMALL LETTER Y WITH TILDE;LATIN CAPITAL LETTER MIDDLE-WELSH LL"),
   (0x1efb, "LATIN SMALL LETTER MIDDLE-WELSH LL;LATIN CAPITAL LETTER MIDDLE-WELSH V"),
   (0x1efd, "LATIN SMALL LETTER MIDDLE-WELSH V;LATIN CAPITAL LETTER Y WITH LOOP"),
   (0x1eff, "LATIN SMALL LETTER Y WITH LOOP")]

/-- Punctuation, currency, letterlike signs, number forms and arrows. -/
def punctuationNames : List (Nat × String) :=
  [
   (0x2000, "EN QUAD;EM QUAD;EN SPACE;EM SPACE;THREE-PER-EM SPACE;FOUR-PER-EM SPACE"),
   (0x2006, "SIX-PER-EM SPACE;FIGURE SPACE;PUNCTUATION SPACE;THIN SPACE;HAIR SPACE"),
   (0x200b, "ZERO WIDTH SPACE;ZERO WIDTH NON-JOINER;ZERO WIDTH JOINER;LEFT-TO-RIGHT MARK"),
   (0x200f, "RIGHT-TO-LEFT MARK;HYPHEN;NON-BREAKING HYPHEN;FIGURE DASH;EN DASH;EM DASH"),
   (0x2015, "HORIZONTAL BAR;DOUBLE VERTICAL LINE;DOUBLE LOW LINE;LEFT SINGLE QUOTATION MARK"),
   (0x2019, "RIGHT SINGLE QUOTATION MARK;SINGLE LOW-9 QUOTATION MARK"),
   (0x201b, "SINGLE HIGH-REVERSED-9 QUOTATION MARK;LEFT DOUBLE QUOTATION MARK"),
   (0x201d, "RIGHT DOUBLE QUOTATION MARK;DOUBLE LOW-9 QUOTATION MARK"),
   (0x201f, "DOUBLE HIGH-REVERSED-9 QUOTATION MARK;DAGGER;DOUBLE DAGGER;BULLET"),
   (0x2023, "TRIANGULAR BULLET;ONE DOT LEADER;TWO DOT LEADER;HORIZONTAL ELLIPSIS"),
   (0x2027, "HYPHENATION POINT;LINE SEPARATOR;PARAGRAPH SEPARATOR;LEFT-TO-RIGHT EMBEDDING"),
   (0x202b, "RIGHT-TO-LEFT EMBEDDING;POP DIRECTIONAL FORMATTING;LEFT-TO-RIGHT OVERRIDE"),
   (0x202e, "RIGHT-TO-LEFT OVERRIDE;NARROW NO-BREAK SPACE;PER MILLE SIGN"),
   (0x2031, "PER TEN THOUSAND SIGN;PRIME;DOUBLE PRIME;TRIPLE PRIME;REVERSED PRIME"),
   (0x2036, "REVERSED DOUBLE PRIME;REVERSED TRIPLE PRIME;CARET"),
   (0x2039, "SINGLE LEFT-POINTING ANGLE QUOTATION MARK"),
   (0x203a, "SINGLE RIGHT-POINTING ANGLE QUOTATION MARK;REFERENCE MARK"),
   (0x203c, "DOUBLE EXCLAMATION MARK;INTERROBANG;OVERLINE;UNDERTIE;CHARACTER TIE"),
   (0x2041, "CARET INSERTION POINT;ASTERISM;HYPHEN BULLET;FRACTION SLASH"),
   (0x2045, "LEFT SQUARE BRACKET WITH QUILL;RIGHT SQUARE BRACKET WITH QUILL"),
   (0x2047, "DOUBLE QUESTION MARK;QUESTION EXCLAMATION MARK;EXCLAMATION QUESTION MARK"),
   (0x204a, "TIRONIAN SIGN ET;REVERSED PILCROW SIGN;BLACK LEFTWARDS BULLET"),
   (0x204d, "BLACK RIGHTWARDS BULLET;LOW ASTERISK;REVERSED SEMICOLON;CLOSE UP"),
   (0x2051, "TWO ASTERISKS ALIGNED VERTICALLY;COMMERCIAL MINUS SIGN;SWUNG DASH"),
   (0x2054, "INVERTED UNDERTIE;FLOWER PUNCTUATION MARK;THREE DOT PUNCTUATION"),
   (0x2057, "QUADRUPLE PRIME;FOUR DOT PUNCTUATION;FIVE DOT PUNCTUATION;TWO DOT PUNCTUATION"),
   (0x205b, "FOUR DOT MARK;DOTTED CROSS;TRICOLON;VERTICAL FOUR DOTS"),
   (0x205f, "MEDIUM MATHEMATICAL SPACE;WORD JOINER;FUNCTION APPLICATION;INVISIBLE TIMES"),
   (0x2063, "INVISIBLE SEPARATOR;INVISIBLE PLUS"),
   (0x2066, "LEFT-TO-RIGHT ISOLATE;RIGHT-TO-LEFT ISOLATE;FIRST STRONG ISOLATE"),
   (0x2069, "POP DIRECTIONAL ISOLATE;INHIBIT SYMMETRIC SWAPPING;ACTIVATE SYMMETRIC SWAPPING"),
   (0x206c, "INHIBIT ARABIC FORM SHAPING;ACTIVATE ARABIC FORM SHAPING;NATIONAL DIGIT SHAPES"),
   (0x206f, "NOMINAL DIGIT SHAPES;SUPERSCRIPT ZERO;SUPERSCRIPT LATIN SMALL LETTER I"),
   (0x2074, "SUPERSCRIPT FOUR;SUPERSCRIPT FIVE;SUPERSCRIPT SIX;SUPERSCRIPT SEVEN"),
   (0x2078, "SUPERSCRIPT EIGHT;SUPERSCRIPT NINE;SUPERSCRIPT PLUS SIGN;SUPERSCRIPT MINUS"),
   (0x207c, "SUPERSCRIPT EQUALS SIGN;SUPERSCRIPT LEFT PARENTHESIS"),
   (0x207e, "SUPERSCRIPT RIGHT PARENTHESIS;SUPERSCRIPT LATIN SMALL LETTER N;SUBSCRIPT ZERO"),
   (0x2081, "SUBSCRIPT ONE;SUBSCRIPT TWO;SUBSCRIPT THREE;SUBSCRIPT FOUR;SUBSCRIPT FIVE"),
   (0x2086, "SUBSCRIPT SIX;SUBSCRIPT SEVEN;SUBSCRIPT EIGHT;SUBSCRIPT NINE"),
   (0x208a, "SUBSCRIPT PLUS SIGN;SUBSCRIPT MINUS;SUBSCRIPT EQUALS SIGN"),
   (0x208d, "SUBSCRIPT LEFT PARENTHESIS;SUBSCRIPT RIGHT PARENTHESIS"),
   (0x2090, "LATIN SUBSCRIPT SMALL LETTER A;LATIN SUBSCRIPT SMALL LETTER E"),
   (0x2092, "LATIN SUBSCRIPT SMALL LETTER O;LATIN SUBSCRIPT SMALL LETTER X"),
   (0x2094, "LATIN SUBSCRIPT SMALL LETTER SCHWA;LATIN SUBSCRIPT SMALL LETTER H"),
   (0x2096, "LATIN SUBSCRIPT SMALL LETTER K;LATIN SUBSCRIPT SMALL LETTER L"),
   (0x2098, "LATIN SUBSCRIPT SMALL LETTER M;LATIN SUBSCRIPT SMALL LETTER N"),
   (0x209a, "LATIN SUBSCRIPT SMALL LETTER P;LATIN SUBSCRIPT SMALL LETTER S"),
   (0x209c, "LATIN SUBSCRIPT SMALL LETTER T"),
   (0x20a0, "EURO-CURRENCY SIGN;COLON SIGN;CRUZEIRO SIGN;FRENCH FRANC SIGN;LIRA SIGN"),
   (0x20a5, "MILL SIGN;NAIRA SIGN;PESETA SIGN;RUPEE SIGN;WON SIGN;NEW SHEQEL SIGN;DONG SIGN"),
   (0x20ac, "EURO SIGN;KIP SIGN;TUGRIK SIGN;DRACHMA SIGN;GERMAN PENNY SIGN;PESO SIGN"),
   (0x20b2, "GUARANI SIGN;AUSTRAL SIGN;HRYVNIA SIGN;CEDI SIGN;LIVRE TOURNOIS SIGN"),
   (0x20b7, "SPESMILO SIGN;TENGE SIGN;INDIAN RUPEE SIGN;TURKISH LIRA SIGN;NORDIC MARK SIGN"),
   (0x20bc, "MANAT SIGN;RUBLE SIGN;LARI SIGN;BITCOIN SIGN;SOM SIGN"),
   (0x20d0, "COMBINING LEFT HARPOON ABOVE;COMBINING RIGHT HARPOON ABOVE"),
   (0x20d2, "COMBINING LONG VERTICAL LINE OVERLAY;COMBINING SHORT VERTICAL LINE OVERLAY"),
   (0x20d4, "COMBINING ANTICLOCKWISE ARROW ABOVE;COMBINING CLOCKWISE ARROW ABOVE"),
   (0x20d6, "COMBINING LEFT ARROW ABOVE;COMBINING RIGHT ARROW ABOVE;COMBINING RING OVERLAY"),
   (0x20d9, "COMBINING CLOCKWISE RING OVERLAY;COMBINING ANTICLOCKWISE RING OVERLAY"),
   (0x20db, "COMBINING THREE DOTS ABOVE;COMBINING FOUR DOTS ABOVE"),
   (0x20dd, "COMBINING ENCLOSING CIRCLE;COMBINING ENCLOSING SQUARE"),
   (0x20df, "COMBINING ENCLOSING DIAMOND;COMBINING ENCLOSING CIRCLE BACKSLASH"),
   (0x20e1, "COMBINING LEFT RIGHT ARROW ABOVE;COMBINING ENCLOSING SCREEN"),
   (0x20e3, "COMBINING ENCLOSING KEYCAP;COMBINING ENCLOSING UPWARD POINTING TRIANGLE"),
   (0x20e5, "COMBINING REVERSE SOLIDUS OVERLAY;COMBINING DOUBLE VERTICAL STROKE OVERLAY"),
   (0x20e7, "COMBINING ANNUITY SYMBOL;COMBINING TRIPLE UNDERDOT;COMBINING WIDE BRIDGE ABOVE"),
   (0x20ea, "COMBINING LEFTWARDS ARROW OVERLAY;COMBINING LONG DOUBLE SOLIDUS OVERLAY"),
   (0x20ec, "COMBINING RIGHTWARDS HARPOON WITH BARB DOWNWARDS"),
   (0x20ed, "COMBINING LEFTWARDS HARPOON WITH BARB DOWNWARDS;COMBINING LEFT ARROW BELOW"),
   (0x20ef, "COMBINING RIGHT ARROW BELOW;COMBINING ASTERISK ABOVE"),
   (0x2100, "ACCOUNT OF;ADDRESSED TO THE SUBJECT;DOUBLE-STRUCK CAPITAL C;DEGREE CELSIUS"),
   (0x2104, "CENTRE LINE SYMBOL;CARE OF;CADA UNA;EULER CONSTANT;SCRUPLE;DEGREE FAHRENHEIT"),
   (0x210a, "SCRIPT SMALL G;SCRIPT CAPITAL H;BLACK-LETTER CAPITAL H;DOUBLE-STRUCK CAPITAL H"),
   (0x210e, "PLANCK CONSTANT;PLANCK CONSTANT OVER TWO PI;SCRIPT CAPITAL I"),
   (0x2111, "BLACK-LETTER CAPITAL I;SCRIPT CAPITAL L;SCRIPT SMALL L;L B BAR SYMBOL"),
   (0x2115, "DOUBLE-STRUCK CAPITAL N;NUMERO SIGN;SOUND RECORDING COPYRIGHT;SCRIPT CAPITAL P"),
   (0x2119, "DOUBLE-STRUCK CAPITAL P;DOUBLE-STRUCK CAPITAL Q;SCRIPT CAPITAL R"),
   (0x211c, "BLACK-LETTER CAPITAL R;DOUBLE-STRUCK CAPITAL R;PRESCRIPTION TAKE;RESPONSE"),
   (0x2120, "SERVICE MARK;TELEPHONE SIGN;TRADE MARK SIGN;VERSICLE;DOUBLE-STRUCK CAPITAL Z"),
   (0x2125, "OUNCE SIGN;OHM SIGN;INVERTED OHM SIGN;BLACK-LETTER CAPITAL Z"),
   (0x2129, "TURNED GREEK SMALL LETTER IOTA;KELVIN SIGN;ANGSTROM SIGN;SCRIPT CAPITAL B"),
   (0x212d, "BLACK-LETTER CAPITAL C;ESTIMATED SYMBOL;SCRIPT SMALL E;SCRIPT CAPITAL E"),
   (0x2131, "SCRIPT CAPITAL F;TURNED CAPITAL F;SCRIPT CAPITAL M;SCRIPT SMALL O;ALEF SYMBOL"),
   (0x2136, "BET SYMBOL;GIMEL SYMBOL;DALET SYMBOL;INFORMATION SOURCE;ROTATED CAPITAL Q"),
   (0x213b, "FACSIMILE SIGN;DOUBLE-STRUCK SMALL PI;DOUBLE-STRUCK SMALL GAMMA"),
   (0x213e, "DOUBLE-STRUCK CAPITAL GAMMA;DOUBLE-STRUCK CAPITAL PI"),
   (0x2140, "DOUBLE-STRUCK N-ARY SUMMATION;TURNED SANS-SERIF CAPITAL G"),
   (0x2142, "TURNED SANS-SERIF CAPITAL L;REVERSED SANS-SERIF CAPITAL L"),
   (0x2144, "TURNED SANS-SERIF CAPITAL Y;DOUBLE-STRUCK ITALIC CAPITAL D"),
   (0x2146, "DOUBLE-STRUCK ITALIC SMALL D;DOUBLE-STRUCK ITALIC SMALL E"),
   (0x2148, "DOUBLE-STRUCK ITALIC SMALL I;DOUBLE-STRUCK ITALIC SMALL J;PROPERTY LINE"),
   (0x214b, "TURNED AMPERSAND;PER SIGN;AKTIESELSKAB;TURNED SMALL F"),
   (0x214f, "SYMBOL FOR SAMARITAN SOURCE;VULGAR FRACTION ONE SEVENTH"),
   (0x2151, "VULGAR FRACTION ONE NINTH;VULGAR FRACTION ONE TENTH;VULGAR FRACTION ONE THIRD"),
   (0x2154, "VULGAR FRACTION TWO THIRDS;VULGAR FRACTION ONE FIFTH"),
   (0x2156, "VULGAR FRACTION TWO FIFTHS;VULGAR FRACTION THREE FIFTHS"),
   (0x2158, "VULGAR FRACTION FOUR FIFTHS;VULGAR FRACTION ONE SIXTH"),
   (0x215a, "VULGAR FRACTION FIVE SIXTHS;VULGAR FRACTION ONE EIGHTH"),
   (0x215c, "VULGAR FRACTION THREE EIGHTHS;VULGAR FRACTION FIVE EIGHTHS"),
   (0x215e, "VULGAR FRACTION SEVEN EIGHTHS;FRACTION NUMERATOR ONE;ROMAN NUMERAL ONE"),
   (0x2161, "ROMAN NUMERAL TWO;ROMAN NUMERAL THREE;ROMAN NUMERAL FOUR;ROMAN NUMERAL FIVE"),
   (0x2165, "ROMAN NUMERAL SIX;ROMAN NUMERAL SEVEN;ROMAN NUMERAL EIGHT;ROMAN NUMERAL NINE"),
   (0x2169, "ROMAN NUMERAL TEN;ROMAN NUMERAL ELEVEN;ROMAN NUMERAL TWELVE"),
   (0x216c, "ROMAN NUMERAL FIFTY;ROMAN NUMERAL ONE HUNDRED;ROMAN NUMERAL FIVE HUNDRED"),
   (0x216f, "ROMAN NUMERAL ONE THOUSAND;SMALL ROMAN NUMERAL ONE;SMALL ROMAN NUMERAL TWO"),
   (0x2172, "SMALL ROMAN NUMERAL THREE;SMALL ROMAN NUMERAL FOUR;SMALL ROMAN NUMERAL FIVE"),
   (0x2175, "SMALL ROMAN NUMERAL SIX;SMALL ROMAN NUMERAL SEVEN;SMALL ROMAN NUMERAL EIGHT"),
   (0x2178, "SMALL ROMAN NUMERAL NINE;SMALL ROMAN NUMERAL TEN;SMALL ROMAN NUMERAL ELEVEN"),
   (0x217b, "SMALL ROMAN NUMERAL TWELVE;SMALL ROMAN NUMERAL FIFTY"),
   (0x217d, "SMALL ROMAN NUMERAL ONE HUNDRED;SMALL ROMAN NUMERAL FIVE HUNDRED"),
   (0x217f, "SMALL ROMAN NUMERAL ONE THOUSAND;ROMAN NUMERAL ONE THOUSAND C D"),
   (0x2181, "ROMAN NUMERAL FIVE THOUSAND;ROMAN NUMERAL TEN THOUSAND"),
   (0x2183, "ROMAN NUMERAL REVERSED ONE HUNDRED;LATIN SMALL LETTER REVERSED C"),
   (0x2185, "ROMAN NUMERAL SIX LATE FORM;ROMAN NUMERAL FIFTY EARLY FORM"),
   (0x2187, "ROMAN NUMERAL FIFTY THOUSAND;ROMAN NUMERAL ONE HUNDRED THOUSAND"),
   (0x2189, "VULGAR FRACTION ZERO THIRDS;TURNED DIGIT TWO;TURNED DIGIT THREE"),
   (0x2190, "LEFTWARDS ARROW;UPWARDS ARROW;RIGHTWARDS ARROW;DOWNWARDS ARROW"),
   (0x2194, "LEFT RIGHT ARROW;UP DOWN ARROW;NORTH WEST ARROW;NORTH EAST ARROW"),
   (0x2198, "SOUTH EAST ARROW;SOUTH WEST ARROW;LEFTWARDS ARROW WITH STROKE"),
   (0x219b, "RIGHTWARDS ARROW WITH STROKE;LEFTWARDS WAVE ARROW;RIGHTWARDS WAVE ARROW"),
   (0x219e, "LEFTWARDS TWO HEADED ARROW;UPWARDS TWO HEADED ARROW"),
   (0x21a0, "RIGHTWARDS TWO HEADED ARROW;DOWNWARDS TWO HEADED ARROW"),
   (0x21a2, "LEFTWARDS ARROW WITH TAIL;RIGHTWARDS ARROW WITH TAIL;LEFTWARDS ARROW FROM BAR"),
   (0x21a5, "UPWARDS ARROW FROM BAR;RIGHTWARDS ARROW FROM BAR;DOWNWARDS ARROW FROM BAR"),
   (0x21a8, "UP DOWN ARROW WITH BASE;LEFTWARDS ARROW WITH HOOK;RIGHTWARDS ARROW WITH HOOK"),
   (0x21ab, "LEFTWARDS ARROW WITH LOOP;RIGHTWARDS ARROW WITH LOOP;LEFT RIGHT WAVE ARROW"),
   (0x21ae, "LEFT RIGHT ARROW WITH STROKE;DOWNWARDS ZIGZAG ARROW"),
   (0x21b0, "UPWARDS ARROW WITH TIP LEFTWARDS;UPWARDS ARROW WITH TIP RIGHTWARDS"),
   (0x21b2, "DOWNWARDS ARROW WITH TIP LEFTWARDS;DOWNWARDS ARROW WITH TIP RIGHTWARDS"),
   (0x21b4, "RIGHTWARDS ARROW WITH CORNER DOWNWARDS;DOWNWARDS ARROW WITH CORNER LEFTWARDS"),
   (0x21b6, "ANTICLOCKWISE TOP SEMICIRCLE ARROW;CLOCKWISE TOP SEMICIRCLE ARROW"),
   (0x21b8, "NORTH WEST ARROW TO LONG BAR"),
   (0x21b9, "LEFTWARDS ARROW TO BAR OVER RIGHTWARDS ARROW TO BAR"),
   (0x21ba, "ANTICLOCKWISE OPEN CIRCLE ARROW;CLOCKWISE OPEN CIRCLE ARROW"),
   (0x21bc, "LEFTWARDS HARPOON WITH BARB UPWARDS;LEFTWARDS HARPOON WITH BARB DOWNWARDS"),
   (0x21be, "UPWARDS HARPOON WITH BARB RIGHTWARDS;UPWARDS HARPOON WITH BARB LEFTWARDS"),
   (0x21c0, "RIGHTWARDS HARPOON WITH BARB UPWARDS;RIGHTWARDS HARPOON WITH BARB DOWNWARDS"),
   (0x21c2, "DOWNWARDS HARPOON WITH BARB RIGHTWARDS;DOWNWARDS HARPOON WITH BARB LEFTWARDS"),
   (0x21c4, "RIGHTWARDS ARROW OVER LEFTWARDS ARROW"),
   (0x21c5, "UPWARDS ARROW LEFTWARDS OF DOWNWARDS ARROW"),
   (0x21c6, "LEFTWARDS ARROW OVER RIGHTWARDS ARROW;LEFTWARDS PAIRED ARROWS"),
   (0x21c8, "UPWARDS PAIRED ARROWS;RIGHTWARDS PAIRED ARROWS;DOWNWARDS PAIRED ARROWS"),
   (0x21cb, "LEFTWARDS HARPOON OVER RIGHTWARDS HARPOON"),
   (0x21cc, "RIGHTWARDS HARPOON OVER LEFTWARDS HARPOON;LEFTWARDS DOUBLE ARROW WITH STROKE"),
   (0x21ce, "LEFT RIGHT DOUBLE ARROW WITH STROKE;RIGHTWARDS DOUBLE ARROW WITH STROKE"),
   (0x21d0, "LEFTWARDS DOUBLE ARROW;UPWARDS DOUBLE ARROW;RIGHTWARDS DOUBLE ARROW"),
   (0x21d3, "DOWNWARDS DOUBLE ARROW;LEFT RIGHT DOUBLE ARROW;UP DOWN DOUBLE ARROW"),
   (0x21d6, "NORTH WEST DOUBLE ARROW;NORTH EAST DOUBLE ARROW;SOUTH EAST DOUBLE ARROW"),
   (0x21d9, "SOUTH WEST DOUBLE ARROW;LEFTWARDS TRIPLE ARROW;RIGHTWARDS TRIPLE ARROW"),
   (0x21dc, "LEFTWARDS SQUIGGLE ARROW;RIGHTWARDS SQUIGGLE ARROW"),
   (0x21de, "UPWARDS ARROW WITH DOUBLE STROKE;DOWNWARDS ARROW WITH DOUBLE STROKE"),
   (0x21e0, "LEFTWARDS DASHED ARROW;UPWARDS DASHED ARROW;RIGHTWARDS DASHED ARROW"),
   (0x21e3, "DOWNWARDS DASHED ARROW;LEFTWARDS ARROW TO BAR;RIGHTWARDS ARROW TO BAR"),
   (0x21e6, "LEFTWARDS WHITE ARROW;UPWARDS WHITE ARROW;RIGHTWARDS WHITE ARROW"),
   (0x21e9, "DOWNWARDS WHITE ARROW;UPWARDS WHITE ARROW FROM BAR"),
   (0x21eb, "UPWARDS WHITE ARROW ON PEDESTAL"),
   (0x21ec, "UPWARDS WHITE ARROW ON PEDESTAL WITH HORIZONTAL BAR"),
   (0x21ed, "UPWARDS WHITE ARROW ON PEDESTAL WITH VERTICAL BAR;UPWARDS WHITE DOUBLE ARROW"),
   (0x21ef, "UPWARDS WHITE DOUBLE ARROW ON PEDESTAL;RIGHTWARDS WHITE ARROW FROM WALL"),
   (0x21f1, "NORTH WEST ARROW TO CORNER;SOUTH EAST ARROW TO CORNER;UP DOWN WHITE ARROW"),
   (0x21f4, "RIGHT ARROW WITH SMALL CIRCLE;DOWNWARDS ARROW LEFTWARDS OF UPWARDS ARROW"),
   (0x21f6, "THREE RIGHTWARDS ARROWS;LEFTWARDS ARROW WITH VERTICAL STROKE"),
   (0x21f8, "RIGHTWARDS ARROW WITH VERTICAL STROKE;LEFT RIGHT ARROW WITH VERTICAL STROKE"),
   (0x21fa, "LEFTWARDS ARROW WITH DOUBLE VERTICAL STROKE"),
   (0x21fb, "RIGHTWARDS ARROW WITH DOUBLE VERTICAL STROKE"),
   (0x21fc, "LEFT RIGHT ARROW WITH DOUBLE VERTICAL STROKE;LEFTWARDS OPEN-HEADED ARROW"),
   (0x21fe, "RIGHTWARDS OPEN-HEADED ARROW;LEFT RIGHT OPEN-HEADED ARROW;FOR ALL;COMPLEMENT")]

/-- Mathematical and technical signs. -/
def mathematicalNames : List (Nat × String) :=
  [
   (0x2202, "PARTIAL DIFFERENTIAL;THERE EXISTS;THERE DOES NOT EXIST;EMPTY SET;INCREMENT"),
   (0x2207, "NABLA;ELEMENT OF;NOT AN ELEMENT OF;SMALL ELEMENT OF;CONTAINS AS MEMBER"),
   (0x220c, "DOES NOT CONTAIN AS MEMBER;SMALL CONTAINS AS MEMBER;END OF PROOF;N-ARY PRODUCT"),
   (0x2210, "N-ARY COPRODUCT;N-ARY SUMMATION;MINUS SIGN;MINUS-OR-PLUS SIGN;DOT PLUS"),
   (0x2215, "DIVISION SLASH;SET MINUS;ASTERISK OPERATOR;RING OPERATOR;BULLET OPERATOR"),
   (0x221a, "SQUARE ROOT;CUBE ROOT;FOURTH ROOT;PROPORTIONAL TO;INFINITY;RIGHT ANGLE;ANGLE"),
   (0x2221, "MEASURED ANGLE;SPHERICAL ANGLE;DIVIDES;DOES NOT DIVIDE;PARALLEL TO"),
   (0x2226, "NOT PARALLEL TO;LOGICAL AND;LOGICAL OR;INTERSECTION;UNION;INTEGRAL"),
   (0x222c, "DOUBLE INTEGRAL;TRIPLE INTEGRAL;CONTOUR INTEGRAL;SURFACE INTEGRAL"),
   (0x2230, "VOLUME INTEGRAL;CLOCKWISE INTEGRAL;CLOCKWISE CONTOUR INTEGRAL"),
   (0x2233, "ANTICLOCKWISE CONTOUR INTEGRAL;THEREFORE;BECAUSE;RATIO;PROPORTION;DOT MINUS"),
   (0x2239, "EXCESS;GEOMETRIC PROPORTION;HOMOTHETIC;TILDE OPERATOR;REVERSED TILDE"),
   (0x223e, "INVERTED LAZY S;SINE WAVE;WREATH PRODUCT;NOT TILDE;MINUS TILDE"),
   (0x2243, "ASYMPTOTICALLY EQUAL TO;NOT ASYMPTOTICALLY EQUAL TO;APPROXIMATELY EQUAL TO"),
   (0x2246, "APPROXIMATELY BUT NOT ACTUALLY EQUAL TO"),
   (0x2247, "NEITHER APPROXIMATELY NOR ACTUALLY EQUAL TO;ALMOST EQUAL TO"),
   (0x2249, "NOT ALMOST EQUAL TO;ALMOST EQUAL OR EQUAL TO;TRIPLE TILDE;ALL EQUAL TO"),
   (0x224d, "EQUIVALENT TO;GEOMETRICALLY EQUIVALENT TO;DIFFERENCE BETWEEN"),
   (0x2250, "APPROACHES THE LIMIT;GEOMETRICALLY EQUAL TO"),
   (0x2252, "APPROXIMATELY EQUAL TO OR THE IMAGE OF;IMAGE OF OR APPROXIMATELY EQUAL TO"),
   (0x2254, "COLON EQUALS;EQUALS COLON;RING IN EQUAL TO;RING EQUAL TO;CORRESPONDS TO"),
   (0x2259, "ESTIMATES;EQUIANGULAR TO;STAR EQUALS;DELTA EQUAL TO;EQUAL TO BY DEFINITION"),
   (0x225e, "MEASURED BY;QUESTIONED EQUAL TO;NOT EQUAL TO;IDENTICAL TO;NOT IDENTICAL TO"),
   (0x2263, "STRICTLY EQUIVALENT TO;LESS-THAN OR EQUAL TO;GREATER-THAN OR EQUAL TO"),
   (0x2266, "LESS-THAN OVER EQUAL TO;GREATER-THAN OVER EQUAL TO;LESS-THAN BUT NOT EQUAL TO"),
   (0x2269, "GREATER-THAN BUT NOT EQUAL TO;MUCH LESS-THAN;MUCH GREATER-THAN;BETWEEN"),
   (0x226d, "NOT EQUIVALENT TO;NOT LESS-THAN;NOT GREATER-THAN"),
   (0x2270, "NEITHER LESS-THAN NOR EQUAL TO;NEITHER GREATER-THAN NOR EQUAL TO"),
   (0x2272, "LESS-THAN OR EQUIVALENT TO;GREATER-THAN OR EQUIVALENT TO"),
   (0x2274, "NEITHER LESS-THAN NOR EQUIVALENT TO;NEITHER GREATER-THAN NOR EQUIVALENT TO"),
   (0x2276, "LESS-THAN OR GREATER-THAN;GREATER-THAN OR LESS-THAN"),
   (0x2278, "NEITHER LESS-THAN NOR GREATER-THAN;NEITHER GREATER-THAN NOR LESS-THAN;PRECEDES"),
   (0x227b, "SUCCEEDS;PRECEDES OR EQUAL TO;SUCCEEDS OR EQUAL TO;PRECEDES OR EQUIVALENT TO"),
   (0x227f, "SUCCEEDS OR EQUIVALENT TO;DOES NOT PRECEDE;DOES NOT SUCCEED;SUBSET OF"),
   (0x2283, "SUPERSET OF;NOT A SUBSET OF;NOT A SUPERSET OF;SUBSET OF OR EQUAL TO"),
   (0x2287, "SUPERSET OF OR EQUAL TO;NEITHER A SUBSET OF NOR EQUAL TO"),
   (0x2289, "NEITHER A SUPERSET OF NOR EQUAL TO;SUBSET OF WITH NOT EQUAL TO"),
   (0x228b, "SUPERSET OF WITH NOT EQUAL TO;MULTISET;MULTISET MULTIPLICATION;MULTISET UNION"),
   (0x228f, "SQUARE IMAGE OF;SQUARE ORIGINAL OF;SQUARE IMAGE OF OR EQUAL TO"),
   (0x2292, "SQUARE ORIGINAL OF OR EQUAL TO;SQUARE CAP;SQUARE CUP;CIRCLED PLUS"),
   (0x2296, "CIRCLED MINUS;CIRCLED TIMES;CIRCLED DIVISION SLASH;CIRCLED DOT OPERATOR"),
   (0x229a, "CIRCLED RING OPERATOR;CIRCLED ASTERISK OPERATOR;CIRCLED EQUALS;CIRCLED DASH"),
   (0x229e, "SQUARED PLUS;SQUARED MINUS;SQUARED TIMES;SQUARED DOT OPERATOR;RIGHT TACK"),
   (0x22a3, "LEFT TACK;DOWN TACK;UP TACK;ASSERTION;MODELS;TRUE;FORCES"),
   (0x22aa, "TRIPLE VERTICAL BAR RIGHT TURNSTILE;DOUBLE VERTICAL BAR DOUBLE RIGHT TURNSTILE"),
   (0x22ac, "DOES NOT PROVE;NOT TRUE;DOES NOT FORCE"),
   (0x22af, "NEGATED DOUBLE VERTICAL BAR DOUBLE RIGHT TURNSTILE;PRECEDES UNDER RELATION"),
   (0x22b1, "SUCCEEDS UNDER RELATION;NORMAL SUBGROUP OF;CONTAINS AS NORMAL SUBGROUP"),
   (0x22b4, "NORMAL SUBGROUP OF OR EQUAL TO;CONTAINS AS NORMAL SUBGROUP OR EQUAL TO"),
   (0x22b6, "ORIGINAL OF;IMAGE OF;MULTIMAP;HERMITIAN CONJUGATE MATRIX;INTERCALATE;XOR;NAND"),
   (0x22bd, "NOR;RIGHT ANGLE WITH ARC;RIGHT TRIANGLE;N-ARY LOGICAL AND;N-ARY LOGICAL OR"),
   (0x22c2, "N-ARY INTERSECTION;N-ARY UNION;DIAMOND OPERATOR;DOT OPERATOR;STAR OPERATOR"),
   (0x22c7, "DIVISION TIMES;BOWTIE;LEFT NORMAL FACTOR SEMIDIRECT PRODUCT"),
   (0x22ca, "RIGHT NORMAL FACTOR SEMIDIRECT PRODUCT;LEFT SEMIDIRECT PRODUCT"),
   (0x22cc, "RIGHT SEMIDIRECT PRODUCT;REVERSED TILDE EQUALS;CURLY LOGICAL OR"),
   (0x22cf, "CURLY LOGICAL AND;DOUBLE SUBSET;DOUBLE SUPERSET;DOUBLE INTERSECTION"),
   (0x22d3, "DOUBLE UNION;PITCHFORK;EQUAL AND PARALLEL TO;LESS-THAN WITH DOT"),
   (0x22d7, "GREATER-THAN WITH DOT;VERY MUCH LESS-THAN;VERY MUCH GREATER-THAN"),
   (0x22da, "LESS-THAN EQUAL TO OR GREATER-THAN;GREATER-THAN EQUAL TO OR LESS-THAN"),
   (0x22dc, "EQUAL TO OR LESS-THAN;EQUAL TO OR GREATER-THAN;EQUAL TO OR PRECEDES"),
   (0x22df, "EQUAL TO OR SUCCEEDS;DOES NOT PRECEDE OR EQUAL;DOES NOT SUCCEED OR EQUAL"),
   (0x22e2, "NOT SQUARE IMAGE OF OR EQUAL TO;NOT SQUARE ORIGINAL OF OR EQUAL TO"),
   (0x22e4, "SQUARE IMAGE OF OR NOT EQUAL TO;SQUARE ORIGINAL OF OR NOT EQUAL TO"),
   (0x22e6, "LESS-THAN BUT NOT EQUIVALENT TO;GREATER-THAN BUT NOT EQUIVALENT TO"),
   (0x22e8, "PRECEDES BUT NOT EQUIVALENT TO;SUCCEEDS BUT NOT EQUIVALENT TO"),
   (0x22ea, "NOT NORMAL SUBGROUP OF;DOES NOT CONTAIN AS NORMAL SUBGROUP"),
   (0x22ec, "NOT NORMAL SUBGROUP OF OR EQUAL TO"),
   (0x22ed, "DOES NOT CONTAIN AS NORMAL SUBGROUP OR EQUAL;VERTICAL ELLIPSIS"),
   (0x22ef, "MIDLINE HORIZONTAL ELLIPSIS;UP RIGHT DIAGONAL ELLIPSIS"),
   (0x22f1, "DOWN RIGHT DIAGONAL ELLIPSIS;ELEMENT OF WITH LONG HORIZONTAL STROKE"),
   (0x22f3, "ELEMENT OF WITH VERTICAL BAR AT END OF HORIZONTAL STROKE"),
   (0x22f4, "SMALL ELEMENT OF WITH VERTICAL BAR AT END OF HORIZONTAL STROKE"),
   (0x22f5, "ELEMENT OF WITH DOT ABOVE;ELEMENT OF WITH OVERBAR"),
   (0x22f7, "SMALL ELEMENT OF WITH OVERBAR;ELEMENT OF WITH UNDERBAR"),
   (0x22f9, "ELEMENT OF WITH TWO HORIZONTAL STROKES;CONTAINS WITH LONG HORIZONTAL STROKE"),
   (0x22fb, "CONTAINS WITH VERTICAL BAR AT END OF HORIZONTAL STROKE"),
   (0x22fc, "SMALL CONTAINS WITH VERTICAL BAR AT END OF HORIZONTAL STROKE"),
   (0x22fd, "CONTAINS WITH OVERBAR;SMALL CONTAINS WITH OVERBAR;Z NOTATION BAG MEMBERSHIP"),
   (0x2300, "DIAMETER SIGN;ELECTRIC ARROW;HOUSE;UP ARROWHEAD;DOWN ARROWHEAD;PROJECTIVE"),
   (0x2306, "PERSPECTIVE;WAVY LINE;LEFT CEILING;RIGHT CEILING;LEFT FLOOR;RIGHT FLOOR"),
   (0x230c, "BOTTOM RIGHT CROP;BOTTOM LEFT CROP;TOP RIGHT CROP;TOP LEFT CROP"),
   (0x2310, "REVERSED NOT SIGN;SQUARE LOZENGE;ARC;SEGMENT;SECTOR;TELEPHONE RECORDER"),
   (0x2316, "POSITION INDICATOR;VIEWDATA SQUARE;PLACE OF INTEREST SIGN;TURNED NOT SIGN"),
   (0x231a, "WATCH;HOURGLASS;TOP LEFT CORNER;TOP RIGHT CORNER;BOTTOM LEFT CORNER"),
   (0x231f, "BOTTOM RIGHT CORNER;TOP HALF INTEGRAL;BOTTOM HALF INTEGRAL;FROWN;SMILE"),
   (0x2324, "UP ARROWHEAD BETWEEN TWO HORIZONTAL BARS;OPTION KEY;ERASE TO THE RIGHT"),
   (0x2327, "X IN A RECTANGLE BOX;KEYBOARD;LEFT-POINTING ANGLE BRACKET"),
   (0x232a, "RIGHT-POINTING ANGLE BRACKET;ERASE TO THE LEFT;BENZENE RING;CYLINDRICITY"),
   (0x232e, "ALL AROUND-PROFILE;SYMMETRY;TOTAL RUNOUT;DIMENSION ORIGIN;CONICAL TAPER;SLOPE"),
   (0x2334, "COUNTERBORE;COUNTERSINK;APL FUNCTIONAL SYMBOL I-BEAM"),
   (0x2337, "APL FUNCTIONAL SYMBOL SQUISH QUAD;APL FUNCTIONAL SYMBOL QUAD EQUAL"),
   (0x2339, "APL FUNCTIONAL SYMBOL QUAD DIVIDE;APL FUNCTIONAL SYMBOL QUAD DIAMOND"),
   (0x233b, "APL FUNCTIONAL SYMBOL QUAD JOT;APL FUNCTIONAL SYMBOL QUAD CIRCLE"),
   (0x233d, "APL FUNCTIONAL SYMBOL CIRCLE STILE;APL FUNCTIONAL SYMBOL CIRCLE JOT"),
   (0x233f, "APL FUNCTIONAL SYMBOL SLASH BAR;APL FUNCTIONAL SYMBOL BACKSLASH BAR"),
   (0x2341, "APL FUNCTIONAL SYMBOL QUAD SLASH;APL FUNCTIONAL SYMBOL QUAD BACKSLASH"),
   (0x2343, "APL FUNCTIONAL SYMBOL QUAD LESS-THAN;APL FUNCTIONAL SYMBOL QUAD GREATER-THAN"),
   (0x2345, "APL FUNCTIONAL SYMBOL LEFTWARDS VANE;APL FUNCTIONAL SYMBOL RIGHTWARDS VANE"),
   (0x2347, "APL FUNCTIONAL SYMBOL QUAD LEFTWARDS ARROW"),
   (0x2348, "APL FUNCTIONAL SYMBOL QUAD RIGHTWARDS ARROW"),
   (0x2349, "APL FUNCTIONAL SYMBOL CIRCLE BACKSLASH"),
   (0x234a, "APL FUNCTIONAL SYMBOL DOWN TACK UNDERBAR;APL FUNCTIONAL SYMBOL DELTA STILE"),
   (0x234c, "APL FUNCTIONAL SYMBOL QUAD DOWN CARET;APL FUNCTIONAL SYMBOL QUAD DELTA"),
   (0x234e, "APL FUNCTIONAL SYMBOL DOWN TACK JOT;APL FUNCTIONAL SYMBOL UPWARDS VANE"),
   (0x2350, "APL FUNCTIONAL SYMBOL QUAD UPWARDS ARROW;APL FUNCTIONAL SYMBOL UP TACK OVERBAR"),
   (0x2352, "APL FUNCTIONAL SYMBOL DEL STILE;APL FUNCTIONAL SYMBOL QUAD UP CARET"),
   (0x2354, "APL FUNCTIONAL SYMBOL QUAD DEL;APL FUNCTIONAL SYMBOL UP TACK JOT"),
   (0x2356, "APL FUNCTIONAL SYMBOL DOWNWARDS VANE"),
   (0x2357, "APL FUNCTIONAL SYMBOL QUAD DOWNWARDS ARROW"),
   (0x2358, "APL FUNCTIONAL SYMBOL QUOTE UNDERBAR;APL FUNCTIONAL SYMBOL DELTA UNDERBAR"),
   (0x235a, "APL FUNCTIONAL SYMBOL DIAMOND UNDERBAR;APL FUNCTIONAL SYMBOL JOT UNDERBAR"),
   (0x235c, "APL FUNCTIONAL SYMBOL CIRCLE UNDERBAR;APL FUNCTIONAL SYMBOL UP SHOE JOT"),
   (0x235e, "APL FUNCTIONAL SYMBOL QUOTE QUAD;APL FUNCTIONAL SYMBOL CIRCLE STAR"),
   (0x2360, "APL FUNCTIONAL SYMBOL QUAD COLON;APL FUNCTIONAL SYMBOL UP TACK DIAERESIS"),
   (0x2362, "APL FUNCTIONAL SYMBOL DEL DIAERESIS;APL FUNCTIONAL SYMBOL STAR DIAERESIS"),
   (0x2364, "APL FUNCTIONAL SYMBOL JOT DIAERESIS;APL FUNCTIONAL SYMBOL CIRCLE DIAERESIS"),
   (0x2366, "APL FUNCTIONAL SYMBOL DOWN SHOE STILE;APL FUNCTIONAL SYMBOL LEFT SHOE STILE"),
   (0x2368, "APL FUNCTIONAL SYMBOL TILDE DIAERESIS"),
   (0x2369, "APL FUNCTIONAL SYMBOL GREATER-THAN DIAERESIS;APL FUNCTIONAL SYMBOL COMMA BAR"),
   (0x236b, "APL FUNCTIONAL SYMBOL DEL TILDE;APL FUNCTIONAL SYMBOL ZILDE"),
   (0x236d, "APL FUNCTIONAL SYMBOL STILE TILDE;APL FUNCTIONAL SYMBOL SEMICOLON UNDERBAR"),
   (0x236f, "APL FUNCTIONAL SYMBOL QUAD NOT EQUAL;APL FUNCTIONAL SYMBOL QUAD QUESTION"),
   (0x2371, "APL FUNCTIONAL SYMBOL DOWN CARET TILDE;APL FUNCTIONAL SYMBOL UP CARET TILDE"),
   (0x2373, "APL FUNCTIONAL SYMBOL IOTA;APL FUNCTIONAL SYMBOL RHO"),
   (0x2375, "APL FUNCTIONAL SYMBOL OMEGA;APL FUNCTIONAL SYMBOL ALPHA UNDERBAR"),
   (0x2377, "APL FUNCTIONAL SYMBOL EPSILON UNDERBAR;APL FUNCTIONAL SYMBOL IOTA UNDERBAR"),
   (0x2379, "APL FUNCTIONAL SYMBOL OMEGA UNDERBAR;APL FUNCTIONAL SYMBOL ALPHA"),
   (0x237b, "NOT CHECK MARK;RIGHT ANGLE WITH DOWNWARDS ZIGZAG ARROW;SHOULDERED OPEN BOX"),
   (0x237e, "BELL SYMBOL;VERTICAL LINE WITH MIDDLE DOT;INSERTION SYMBOL"),
   (0x2381, "CONTINUOUS UNDERLINE SYMBOL;DISCONTINUOUS UNDERLINE SYMBOL;EMPHASIS SYMBOL"),
   (0x2384, "COMPOSITION SYMBOL;WHITE SQUARE WITH CENTRE VERTICAL LINE;ENTER SYMBOL"),
   (0x2387, "ALTERNATIVE KEY SYMBOL;HELM SYMBOL;CIRCLED HORIZONTAL BAR WITH NOTCH"),
   (0x238a, "CIRCLED TRIANGLE DOWN;BROKEN CIRCLE WITH NORTHWEST ARROW;UNDO SYMBOL"),
   (0x238d, "MONOSTABLE SYMBOL;HYSTERESIS SYMBOL;OPEN-CIRCUIT-OUTPUT H-TYPE SYMBOL"),
   (0x2390, "OPEN-CIRCUIT-OUTPUT L-TYPE SYMBOL;PASSIVE-PULL-DOWN-OUTPUT SYMBOL"),
   (0x2392, "PASSIVE-PULL-UP-OUTPUT SYMBOL;DIRECT CURRENT SYMBOL FORM TWO"),
   (0x2394, "SOFTWARE-FUNCTION SYMBOL;APL FUNCTIONAL SYMBOL QUAD"),
   (0x2396, "DECIMAL SEPARATOR KEY SYMBOL;PREVIOUS PAGE;NEXT PAGE;PRINT SCREEN SYMBOL"),
   (0x239a, "CLEAR SCREEN SYMBOL;LEFT PARENTHESIS UPPER HOOK;LEFT PARENTHESIS EXTENSION"),
   (0x239d, "LEFT PARENTHESIS LOWER HOOK;RIGHT PARENTHESIS UPPER HOOK"),
   (0x239f, "RIGHT PARENTHESIS EXTENSION;RIGHT PARENTHESIS LOWER HOOK"),
   (0x23a1, "LEFT SQUARE BRACKET UPPER CORNER;LEFT SQUARE BRACKET EXTENSION"),
   (0x23a3, "LEFT SQUARE BRACKET LOWER CORNER;RIGHT SQUARE BRACKET UPPER CORNER"),
   (0x23a5, "RIGHT SQUARE BRACKET EXTENSION;RIGHT SQUARE BRACKET LOWER CORNER"),
   (0x23a7, "LEFT CURLY BRACKET UPPER HOOK;LEFT CURLY BRACKET MIDDLE PIECE"),
   (0x23a9, "LEFT CURLY BRACKET LOWER HOOK;CURLY BRACKET EXTENSION"),
   (0x23ab, "RIGHT CURLY BRACKET UPPER HOOK;RIGHT CURLY BRACKET MIDDLE PIECE"),
   (0x23ad, "RIGHT CURLY BRACKET LOWER HOOK;INTEGRAL EXTENSION;HORIZONTAL LINE EXTENSION"),
   (0x23b0, "UPPER LEFT OR LOWER RIGHT CURLY BRACKET SECTION"),
   (0x23b1, "UPPER RIGHT OR LOWER LEFT CURLY BRACKET SECTION;SUMMATION TOP;SUMMATION BOTTOM"),
   (0x23b4, "TOP SQUARE BRACKET;BOTTOM SQUARE BRACKET"),
   (0x23b6, "BOTTOM SQUARE BRACKET OVER TOP SQUARE BRACKET;RADICAL SYMBOL BOTTOM"),
   (0x23b8, "LEFT VERTICAL BOX LINE;RIGHT VERTICAL BOX LINE;HORIZONTAL SCAN LINE-1"),
   (0x23bb, "HORIZONTAL SCAN LINE-3;HORIZONTAL SCAN LINE-7;HORIZONTAL SCAN LINE-9"),
   (0x23be, "DENTISTRY SYMBOL LIGHT VERTICAL AND TOP RIGHT"),
   (0x23bf, "DENTISTRY SYMBOL LIGHT VERTICAL AND BOTTOM RIGHT"),
   (0x23c0, "DENTISTRY SYMBOL LIGHT VERTICAL WITH CIRCLE"),
   (0x23c1, "DENTISTRY SYMBOL LIGHT DOWN AND HORIZONTAL WITH CIRCLE"),
   (0x23c2, "DENTISTRY SYMBOL LIGHT UP AND HORIZONTAL WITH CIRCLE"),
   (0x23c3, "DENTISTRY SYMBOL LIGHT VERTICAL WITH TRIANGLE"),
   (0x23c4, "DENTISTRY SYMBOL LIGHT DOWN AND HORIZONTAL WITH TRIANGLE"),
   (0x23c5, "DENTISTRY SYMBOL LIGHT UP AND HORIZONTAL WITH TRIANGLE"),
   (0x23c6, "DENTISTRY SYMBOL LIGHT VERTICAL AND WAVE"),
   (0x23c7, "DENTISTRY SYMBOL LIGHT DOWN AND HORIZONTAL WITH WAVE"),
   (0x23c8, "DENTISTRY SYMBOL LIGHT UP AND HORIZONTAL WITH WAVE"),
   (0x23c9, "DENTISTRY SYMBOL LIGHT DOWN AND HORIZONTAL"),
   (0x23ca, "DENTISTRY SYMBOL LIGHT UP AND HORIZONTAL"),
   (0x23cb, "DENTISTRY SYMBOL LIGHT VERTICAL AND TOP LEFT"),
   (0x23cc, "DENTISTRY SYMBOL LIGHT VERTICAL AND BOTTOM LEFT;SQUARE FOOT;RETURN SYMBOL"),
   (0x23cf, "EJECT SYMBOL;VERTICAL LINE EXTENSION;METRICAL BREVE;METRICAL LONG OVER SHORT"),
   (0x23d3, "METRICAL SHORT OVER LONG;METRICAL LONG OVER TWO SHORTS"),
   (0x23d5, "METRICAL TWO SHORTS OVER LONG;METRICAL TWO SHORTS JOINED;METRICAL TRISEME"),
   (0x23d8, "METRICAL TETRASEME;METRICAL PENTASEME;EARTH GROUND;FUSE;TOP PARENTHESIS"),
   (0x23dd, "BOTTOM PARENTHESIS;TOP CURLY BRACKET;BOTTOM CURLY BRACKET"),
   (0x23e0, "TOP TORTOISE SHELL BRACKET;BOTTOM TORTOISE SHELL BRACKET;WHITE TRAPEZIUM"),
   (0x23e3, "BENZENE RING WITH CIRCLE;STRAIGHTNESS;FLATNESS;AC CURRENT"),
   (0x23e7, "ELECTRICAL INTERSECTION;DECIMAL EXPONENT SYMBOL"),
   (0x23e9, "BLACK RIGHT-POINTING DOUBLE TRIANGLE;BLACK LEFT-POINTING DOUBLE TRIANGLE"),
   (0x23eb, "BLACK UP-POINTING DOUBLE TRIANGLE;BLACK DOWN-POINTING DOUBLE TRIANGLE"),
   (0x23ed, "BLACK RIGHT-POINTING DOUBLE TRIANGLE WITH VERTICAL BAR"),
   (0x23ee, "BLACK LEFT-POINTING DOUBLE TRIANGLE WITH VERTICAL BAR"),
   (0x23ef, "BLACK RIGHT-POINTING TRIANGLE WITH DOUBLE VERTICAL BAR;ALARM CLOCK;STOPWATCH"),
   (0x23f2, "TIMER CLOCK;HOURGLASS WITH FLOWING SAND;BLACK MEDIUM LEFT-POINTING TRIANGLE"),
   (0x23f5, "BLACK MEDIUM RIGHT-POINTING TRIANGLE;BLACK MEDIUM UP-POINTING TRIANGLE"),
   (0x23f7, "BLACK MEDIUM DOWN-POINTING TRIANGLE;DOUBLE VERTICAL BAR;BLACK SQUARE FOR STOP"),
   (0x23fa, "BLACK CIRCLE FOR RECORD;POWER SYMBOL;POWER ON-OFF SYMBOL;POWER ON SYMBOL"),
   (0x23fe, "POWER SLEEP SYMBOL;OBSERVER EYE SYMBOL;SYMBOL FOR NULL")]

/-- Box drawings, blocks, shapes and miscellaneous signs. -/
def graphicNames : List (Nat × String) :=
  [
   (0x2401, "SYMBOL FOR START OF HEADING;SYMBOL FOR START OF TEXT;SYMBOL FOR END OF TEXT"),
   (0x2404, "SYMBOL FOR END OF TRANSMISSION;SYMBOL FOR ENQUIRY;SYMBOL FOR ACKNOWLEDGE"),
   (0x2407, "SYMBOL FOR BELL;SYMBOL FOR BACKSPACE;SYMBOL FOR HORIZONTAL TABULATION"),
   (0x240a, "SYMBOL FOR LINE FEED;SYMBOL FOR VERTICAL TABULATION;SYMBOL FOR FORM FEED"),
   (0x240d, "SYMBOL FOR CARRIAGE RETURN;SYMBOL FOR SHIFT OUT;SYMBOL FOR SHIFT IN"),
   (0x2410, "SYMBOL FOR DATA LINK ESCAPE;SYMBOL FOR DEVICE CONTROL ONE"),
   (0x2412, "SYMBOL FOR DEVICE CONTROL TWO;SYMBOL FOR DEVICE CONTROL THREE"),
   (0x2414, "SYMBOL FOR DEVICE CONTROL FOUR;SYMBOL FOR NEGATIVE ACKNOWLEDGE"),
   (0x2416, "SYMBOL FOR SYNCHRONOUS IDLE;SYMBOL FOR END OF TRANSMISSION BLOCK"),
   (0x2418, "SYMBOL FOR CANCEL;SYMBOL FOR END OF MEDIUM;SYMBOL FOR SUBSTITUTE"),
   (0x241b, "SYMBOL FOR ESCAPE;SYMBOL FOR FILE SEPARATOR;SYMBOL FOR GROUP SEPARATOR"),
   (0x241e, "SYMBOL FOR RECORD SEPARATOR;SYMBOL FOR UNIT SEPARATOR;SYMBOL FOR SPACE"),
   (0x2421, "SYMBOL FOR DELETE;BLANK SYMBOL;OPEN BOX;SYMBOL FOR NEWLINE"),
   (0x2425, "SYMBOL FOR DELETE FORM TWO;SYMBOL FOR SUBSTITUTE FORM TWO"),
   (0x2440, "OCR HOOK;OCR CHAIR;OCR FORK;OCR INVERTED FORK;OCR BELT BUCKLE;OCR BOW TIE"),
   (0x2446, "OCR BRANCH BANK IDENTIFICATION;OCR AMOUNT OF CHECK;OCR DASH"),
   (0x2449, "OCR CUSTOMER ACCOUNT NUMBER;OCR DOUBLE BACKSLASH"),
   (0x2460, "CIRCLED DIGIT ONE;CIRCLED DIGIT TWO;CIRCLED DIGIT THREE;CIRCLED DIGIT FOUR"),
   (0x2464, "CIRCLED DIGIT FIVE;CIRCLED DIGIT SIX;CIRCLED DIGIT SEVEN;CIRCLED DIGIT EIGHT"),
   (0x2468, "CIRCLED DIGIT NINE;CIRCLED NUMBER TEN;CIRCLED NUMBER ELEVEN"),
   (0x246b, "CIRCLED NUMBER TWELVE;CIRCLED NUMBER THIRTEEN;CIRCLED NUMBER FOURTEEN"),
   (0x246e, "CIRCLED NUMBER FIFTEEN;CIRCLED NUMBER SIXTEEN;CIRCLED NUMBER SEVENTEEN"),
   (0x2471, "CIRCLED NUMBER EIGHTEEN;CIRCLED NUMBER NINETEEN;CIRCLED NUMBER TWENTY"),
   (0x2474, "PARENTHESIZED DIGIT ONE;PARENTHESIZED DIGIT TWO;PARENTHESIZED DIGIT THREE"),
   (0x2477, "PARENTHESIZED DIGIT FOUR;PARENTHESIZED DIGIT FIVE;PARENTHESIZED DIGIT SIX"),
   (0x247a, "PARENTHESIZED DIGIT SEVEN;PARENTHESIZED DIGIT EIGHT;PARENTHESIZED DIGIT NINE"),
   (0x247d, "PARENTHESIZED NUMBER TEN;PARENTHESIZED NUMBER ELEVEN"),
   (0x247f, "PARENTHESIZED NUMBER TWELVE;PARENTHESIZED NUMBER THIRTEEN"),
   (0x2481, "PARENTHESIZED NUMBER FOURTEEN;PARENTHESIZED NUMBER FIFTEEN"),
   (0x2483, "PARENTHESIZED NUMBER SIXTEEN;PARENTHESIZED NUMBER SEVENTEEN"),
   (0x2485, "PARENTHESIZED NUMBER EIGHTEEN;PARENTHESIZED NUMBER NINETEEN"),
   (0x2487, "PARENTHESIZED NUMBER TWENTY;DIGIT ONE FULL STOP;DIGIT TWO FULL STOP"),
   (0x248a, "DIGIT THREE FULL STOP;DIGIT FOUR FULL STOP;DIGIT FIVE FULL STOP"),
   (0x248d, "DIGIT SIX FULL STOP;DIGIT SEVEN FULL STOP;DIGIT EIGHT FULL STOP"),
   (0x2490, "DIGIT NINE FULL STOP;NUMBER TEN FULL STOP;NUMBER ELEVEN FULL STOP"),
   (0x2493, "NUMBER TWELVE FULL STOP;NUMBER THIRTEEN FULL STOP;NUMBER FOURTEEN FULL STOP"),
   (0x2496, "NUMBER FIFTEEN FULL STOP;NUMBER SIXTEEN FULL STOP;NUMBER SEVENTEEN FULL STOP"),
   (0x2499, "NUMBER EIGHTEEN FULL STOP;NUMBER NINETEEN FULL STOP;NUMBER TWENTY FULL STOP"),
   (0x249c, "PARENTHESIZED LATIN SMALL LETTER A;PARENTHESIZED LATIN SMALL LETTER B"),
   (0x249e, "PARENTHESIZED LATIN SMALL LETTER C;PARENTHESIZED LATIN SMALL LETTER D"),
   (0x24a0, "PARENTHESIZED LATIN SMALL LETTER E;PARENTHESIZED LATIN SMALL LETTER F"),
   (0x24a2, "PARENTHESIZED LATIN SMALL LETTER G;PARENTHESIZED LATIN SMALL LETTER H"),
   (0x24a4, "PARENTHESIZED LATIN SMALL LETTER I;PARENTHESIZED LATIN SMALL LETTER J"),
   (0x24a6, "PARENTHESIZED LATIN SMALL LETTER K;PARENTHESIZED LATIN SMALL LETTER L"),
   (0x24a8, "PARENTHESIZED LATIN SMALL LETTER M;PARENTHESIZED LATIN SMALL LETTER N"),
   (0x24aa, "PARENTHESIZED LATIN SMALL LETTER O;PARENTHESIZED LATIN SMALL LETTER P"),
   (0x24ac, "PARENTHESIZED LATIN SMALL LETTER Q;PARENTHESIZED LATIN SMALL LETTER R"),
   (0x24ae, "PARENTHESIZED LATIN SMALL LETTER S;PARENTHESIZED LATIN SMALL LETTER T"),
   (0x24b0, "PARENTHESIZED LATIN SMALL LETTER U;PARENTHESIZED LATIN SMALL LETTER V"),
   (0x24b2, "PARENTHESIZED LATIN SMALL LETTER W;PARENTHESIZED LATIN SMALL LETTER X"),
   (0x24b4, "PARENTHESIZED LATIN SMALL LETTER Y;PARENTHESIZED LATIN SMALL LETTER Z"),
   (0x24b6, "CIRCLED LATIN CAPITAL LETTER A;CIRCLED LATIN CAPITAL LETTER B"),
   (0x24b8, "CIRCLED LATIN CAPITAL LETTER C;CIRCLED LATIN CAPITAL LETTER D"),
   (0x24ba, "CIRCLED LATIN CAPITAL LETTER E;CIRCLED LATIN CAPITAL LETTER F"),
   (0x24bc, "CIRCLED LATIN CAPITAL LETTER G;CIRCLED LATIN CAPITAL LETTER H"),
   (0x24be, "CIRCLED LATIN CAPITAL LETTER I;CIRCLED LATIN CAPITAL LETTER J"),
   (0x24c0, "CIRCLED LATIN CAPITAL LETTER K;CIRCLED LATIN CAPITAL LETTER L"),
   (0x24c2, "CIRCLED LATIN CAPITAL LETTER M;CIRCLED LATIN CAPITAL LETTER N"),
   (0x24c4, "CIRCLED LATIN CAPITAL LETTER O;CIRCLED LATIN CAPITAL LETTER P"),
   (0x24c6, "CIRCLED LATIN CAPITAL LETTER Q;CIRCLED LATIN CAPITAL LETTER R"),
   (0x24c8, "CIRCLED LATIN CAPITAL LETTER S;CIRCLED LATIN CAPITAL LETTER T"),
   (0x24ca, "CIRCLED LATIN CAPITAL LETTER U;CIRCLED LATIN CAPITAL LETTER V"),
   (0x24cc, "CIRCLED LATIN CAPITAL LETTER W;CIRCLED LATIN CAPITAL LETTER X"),
   (0x24ce, "CIRCLED LATIN CAPITAL LETTER Y;CIRCLED LATIN CAPITAL LETTER Z"),
   (0x24d0, "CIRCLED LATIN SMALL LETTER A;CIRCLED LATIN SMALL LETTER B"),
   (0x24d2, "CIRCLED LATIN SMALL LETTER C;CIRCLED LATIN SMALL LETTER D"),
   (0x24d4, "CIRCLED LATIN SMALL LETTER E;CIRCLED LATIN SMALL LETTER F"),
   (0x24d6, "CIRCLED LATIN SMALL LETTER G;CIRCLED LATIN SMALL LETTER H"),
   (0x24d8, "CIRCLED LATIN SMALL LETTER I;CIRCLED LATIN SMALL LETTER J"),
   (0x24da, "CIRCLED LATIN SMALL LETTER K;CIRCLED LATIN SMALL LETTER L"),
   (0x24dc, "CIRCLED LATIN SMALL LETTER M;CIRCLED LATIN SMALL LETTER N"),
   (0x24de, "CIRCLED LATIN SMALL LETTER O;CIRCLED LATIN SMALL LETTER P"),
   (0x24e0, "CIRCLED LATIN SMALL LETTER Q;CIRCLED LATIN SMALL LETTER R"),
   (0x24e2, "CIRCLED LATIN SMALL LETTER S;CIRCLED LATIN SMALL LETTER T"),
   (0x24e4, "CIRCLED LATIN SMALL LETTER U;CIRCLED LATIN SMALL LETTER V"),
   (0x24e6, "CIRCLED LATIN SMALL LETTER W;CIRCLED LATIN SMALL LETTER X"),
   (0x24e8, "CIRCLED LATIN SMALL LETTER Y;CIRCLED LATIN SMALL LETTER Z;CIRCLED DIGIT ZERO"),
   (0x24eb, "NEGATIVE CIRCLED NUMBER ELEVEN;NEGATIVE CIRCLED NUMBER TWELVE"),
   (0x24ed, "NEGATIVE CIRCLED NUMBER THIRTEEN;NEGATIVE CIRCLED NUMBER FOURTEEN"),
   (0x24ef, "NEGATIVE CIRCLED NUMBER FIFTEEN;NEGATIVE CIRCLED NUMBER SIXTEEN"),
   (0x24f1, "NEGATIVE CIRCLED NUMBER SEVENTEEN;NEGATIVE CIRCLED NUMBER EIGHTEEN"),
   (0x24f3, "NEGATIVE CIRCLED NUMBER NINETEEN;NEGATIVE CIRCLED NUMBER TWENTY"),
   (0x24f5, "DOUBLE CIRCLED DIGIT ONE;DOUBLE CIRCLED DIGIT TWO;DOUBLE CIRCLED DIGIT THREE"),
   (0x24f8, "DOUBLE CIRCLED DIGIT FOUR;DOUBLE CIRCLED DIGIT FIVE;DOUBLE CIRCLED DIGIT SIX"),
   (0x24fb, "DOUBLE CIRCLED DIGIT SEVEN;DOUBLE CIRCLED DIGIT EIGHT"),
   (0x24fd, "DOUBLE CIRCLED DIGIT NINE;DOUBLE CIRCLED NUMBER TEN"),
   (0x24ff, "NEGATIVE CIRCLED DIGIT ZERO;BOX DRAWINGS LIGHT HORIZONTAL"),
   (0x2501, "BOX DRAWINGS HEAVY HORIZONTAL;BOX DRAWINGS LIGHT VERTICAL"),
   (0x2503, "BOX DRAWINGS HEAVY VERTICAL;BOX DRAWINGS LIGHT TRIPLE DASH HORIZONTAL"),
   (0x2505, "BOX DRAWINGS HEAVY TRIPLE DASH HORIZONTAL"),
   (0x2506, "BOX DRAWINGS LIGHT TRIPLE DASH VERTICAL"),
   (0x2507, "BOX DRAWINGS HEAVY TRIPLE DASH VERTICAL"),
   (0x2508, "BOX DRAWINGS LIGHT QUADRUPLE DASH HORIZONTAL"),
   (0x2509, "BOX DRAWINGS HEAVY QUADRUPLE DASH HORIZONTAL"),
   (0x250a, "BOX DRAWINGS LIGHT QUADRUPLE DASH VERTICAL"),
   (0x250b, "BOX DRAWINGS HEAVY QUADRUPLE DASH VERTICAL;BOX DRAWINGS LIGHT DOWN AND RIGHT"),
   (0x250d, "BOX DRAWINGS DOWN LIGHT AND RIGHT HEAVY"),
   (0x250e, "BOX DRAWINGS DOWN HEAVY AND RIGHT LIGHT;BOX DRAWINGS HEAVY DOWN AND RIGHT"),
   (0x2510, "BOX DRAWINGS LIGHT DOWN AND LEFT;BOX DRAWINGS DOWN LIGHT AND LEFT HEAVY"),
   (0x2512, "BOX DRAWINGS DOWN HEAVY AND LEFT LIGHT;BOX DRAWINGS HEAVY DOWN AND LEFT"),
   (0x2514, "BOX DRAWINGS LIGHT UP AND RIGHT;BOX DRAWINGS UP LIGHT AND RIGHT HEAVY"),
   (0x2516, "BOX DRAWINGS UP HEAVY AND RIGHT LIGHT;BOX DRAWINGS HEAVY UP AND RIGHT"),
   (0x2518, "BOX DRAWINGS LIGHT UP AND LEFT;BOX DRAWINGS UP LIGHT AND LEFT HEAVY"),
   (0x251a, "BOX DRAWINGS UP HEAVY AND LEFT LIGHT;BOX DRAWINGS HEAVY UP AND LEFT"),
   (0x251c, "BOX DRAWINGS LIGHT VERTICAL AND RIGHT"),
   (0x251d, "BOX DRAWINGS VERTICAL LIGHT AND RIGHT HEAVY"),
   (0x251e, "BOX DRAWINGS UP HEAVY AND RIGHT DOWN LIGHT"),
   (0x251f, "BOX DRAWINGS DOWN HEAVY AND RIGHT UP LIGHT"),
   (0x2520, "BOX DRAWINGS VERTICAL HEAVY AND RIGHT LIGHT"),
   (0x2521, "BOX DRAWINGS DOWN LIGHT AND RIGHT UP HEAVY"),
   (0x2522, "BOX DRAWINGS UP LIGHT AND RIGHT DOWN HEAVY"),
   (0x2523, "BOX DRAWINGS HEAVY VERTICAL AND RIGHT;BOX DRAWINGS LIGHT VERTICAL AND LEFT"),
   (0x2525, "BOX DRAWINGS VERTICAL LIGHT AND LEFT HEAVY"),
   (0x2526, "BOX DRAWINGS UP HEAVY AND LEFT DOWN LIGHT"),
   (0x2527, "BOX DRAWINGS DOWN HEAVY AND LEFT UP LIGHT"),
   (0x2528, "BOX DRAWINGS VERTICAL HEAVY AND LEFT LIGHT"),
   (0x2529, "BOX DRAWINGS DOWN LIGHT AND LEFT UP HEAVY"),
   (0x252a, "BOX DRAWINGS UP LIGHT AND LEFT DOWN HEAVY;BOX DRAWINGS HEAVY VERTICAL AND LEFT"),
   (0x252c, "BOX DRAWINGS LIGHT DOWN AND HORIZONTAL"),
   (0x252d, "BOX DRAWINGS LEFT HEAVY AND RIGHT DOWN LIGHT"),
   (0x252e, "BOX DRAWINGS RIGHT HEAVY AND LEFT DOWN LIGHT"),
   (0x252f, "BOX DRAWINGS DOWN LIGHT AND HORIZONTAL HEAVY"),
   (0x2530, "BOX DRAWINGS DOWN HEAVY AND HORIZONTAL LIGHT"),
   (0x2531, "BOX DRAWINGS RIGHT LIGHT AND LEFT DOWN HEAVY"),
   (0x2532, "BOX DRAWINGS LEFT LIGHT AND RIGHT DOWN HEAVY"),
   (0x2533, "BOX DRAWINGS HEAVY DOWN AND HORIZONTAL;BOX DRAWINGS LIGHT UP AND HORIZONTAL"),
   (0x2535, "BOX DRAWINGS LEFT HEAVY AND RIGHT UP LIGHT"),
   (0x2536, "BOX DRAWINGS RIGHT HEAVY AND LEFT UP LIGHT"),
   (0x2537, "BOX DRAWINGS UP LIGHT AND HORIZONTAL HEAVY"),
   (0x2538, "BOX DRAWINGS UP HEAVY AND HORIZONTAL LIGHT"),
   (0x2539, "BOX DRAWINGS RIGHT LIGHT AND LEFT UP HEAVY"),
   (0x253a, "BOX DRAWINGS LEFT LIGHT AND RIGHT UP HEAVY"),
   (0x253b, "BOX DRAWINGS HEAVY UP AND HORIZONTAL"),
   (0x253c, "BOX DRAWINGS LIGHT VERTICAL AND HORIZONTAL"),
   (0x253d, "BOX DRAWINGS LEFT HEAVY AND RIGHT VERTICAL LIGHT"),
   (0x253e, "BOX DRAWINGS RIGHT HEAVY AND LEFT VERTICAL LIGHT"),
   (0x253f, "BOX DRAWINGS VERTICAL LIGHT AND HORIZONTAL HEAVY"),
   (0x2540, "BOX DRAWINGS UP HEAVY AND DOWN HORIZONTAL LIGHT"),
   (0x2541, "BOX DRAWINGS DOWN HEAVY AND UP HORIZONTAL LIGHT"),
   (0x2542, "BOX DRAWINGS VERTICAL HEAVY AND HORIZONTAL LIGHT"),
   (0x2543, "BOX DRAWINGS LEFT UP HEAVY AND RIGHT DOWN LIGHT"),
   (0x2544, "BOX DRAWINGS RIGHT UP HEAVY AND LEFT DOWN LIGHT"),
   (0x2545, "BOX DRAWINGS LEFT DOWN HEAVY AND RIGHT UP LIGHT"),
   (0x2546, "BOX DRAWINGS RIGHT DOWN HEAVY AND LEFT UP LIGHT"),
   (0x2547, "BOX DRAWINGS DOWN LIGHT AND UP HORIZONTAL HEAVY"),
   (0x2548, "BOX DRAWINGS UP LIGHT AND DOWN HORIZONTAL HEAVY"),
   (0x2549, "BOX DRAWINGS RIGHT LIGHT AND LEFT VERTICAL HEAVY"),
   (0x254a, "BOX DRAWINGS LEFT LIGHT AND RIGHT VERTICAL HEAVY"),
   (0x254b, "BOX DRAWINGS HEAVY VERTICAL AND HORIZONTAL"),
   (0x254c, "BOX DRAWINGS LIGHT DOUBLE DASH HORIZONTAL"),
   (0x254d, "BOX DRAWINGS HEAVY DOUBLE DASH HORIZONTAL"),
   (0x254e, "BOX DRAWINGS LIGHT DOUBLE DASH VERTICAL"),
   (0x254f, "BOX DRAWINGS HEAVY DOUBLE DASH VERTICAL;BOX DRAWINGS DOUBLE HORIZONTAL"),
   (0x2551, "BOX DRAWINGS DOUBLE VERTICAL;BOX DRAWINGS DOWN SINGLE AND RIGHT DOUBLE"),
   (0x2553, "BOX DRAWINGS DOWN DOUBLE AND RIGHT SINGLE;BOX DRAWINGS DOUBLE DOWN AND RIGHT"),
   (0x2555, "BOX DRAWINGS DOWN SINGLE AND LEFT DOUBLE"),
   (0x2556, "BOX DRAWINGS DOWN DOUBLE AND LEFT SINGLE;BOX DRAWINGS DOUBLE DOWN AND LEFT"),
   (0x2558, "BOX DRAWINGS UP SINGLE AND RIGHT DOUBLE"),
   (0x2559, "BOX DRAWINGS UP DOUBLE AND RIGHT SINGLE;BOX DRAWINGS DOUBLE UP AND RIGHT"),
   (0x255b, "BOX DRAWINGS UP SINGLE AND LEFT DOUBLE;BOX DRAWINGS UP DOUBLE AND LEFT SINGLE"),
   (0x255d, "BOX DRAWINGS DOUBLE UP AND LEFT;BOX DRAWINGS VERTICAL SINGLE AND RIGHT DOUBLE"),
   (0x255f, "BOX DRAWINGS VERTICAL DOUBLE AND RIGHT SINGLE"),
   (0x2560, "BOX DRAWINGS DOUBLE VERTICAL AND RIGHT"),
   (0x2561, "BOX DRAWINGS VERTICAL SINGLE AND LEFT DOUBLE"),
   (0x2562, "BOX DRAWINGS VERTICAL DOUBLE AND LEFT SINGLE"),
   (0x2563, "BOX DRAWINGS DOUBLE VERTICAL AND LEFT"),
   (0x2564, "BOX DRAWINGS DOWN SINGLE AND HORIZONTAL DOUBLE"),
   (0x2565, "BOX DRAWINGS DOWN DOUBLE AND HORIZONTAL SINGLE"),
   (0x2566, "BOX DRAWINGS DOUBLE DOWN AND HORIZONTAL"),
   (0x2567, "BOX DRAWINGS UP SINGLE AND HORIZONTAL DOUBLE"),
   (0x2568, "BOX DRAWINGS UP DOUBLE AND HORIZONTAL SINGLE"),
   (0x2569, "BOX DRAWINGS DOUBLE UP AND HORIZONTAL"),
   (0x256a, "BOX DRAWINGS VERTICAL SINGLE AND HORIZONTAL DOUBLE"),
   (0x256b, "BOX DRAWINGS VERTICAL DOUBLE AND HORIZONTAL SINGLE"),
   (0x256c, "BOX DRAWINGS DOUBLE VERTICAL AND HORIZONTAL"),
   (0x256d, "BOX DRAWINGS LIGHT ARC DOWN AND RIGHT;BOX DRAWINGS LIGHT ARC DOWN AND LEFT"),
   (0x256f, "BOX DRAWINGS LIGHT ARC UP AND LEFT;BOX DRAWINGS LIGHT ARC UP AND RIGHT"),
   (0x2571, "BOX DRAWINGS LIGHT DIAGONAL UPPER RIGHT TO LOWER LEFT"),
   (0x2572, "BOX DRAWINGS LIGHT DIAGONAL UPPER LEFT TO LOWER RIGHT"),
   (0x2573, "BOX DRAWINGS LIGHT DIAGONAL CROSS;BOX DRAWINGS LIGHT LEFT"),
   (0x2575, "BOX DRAWINGS LIGHT UP;BOX DRAWINGS LIGHT RIGHT;BOX DRAWINGS LIGHT DOWN"),
   (0x2578, "BOX DRAWINGS HEAVY LEFT;BOX DRAWINGS HEAVY UP;BOX DRAWINGS HEAVY RIGHT"),
   (0x257b, "BOX DRAWINGS HEAVY DOWN;BOX DRAWINGS LIGHT LEFT AND HEAVY RIGHT"),
   (0x257d, "BOX DRAWINGS LIGHT UP AND HEAVY DOWN;BOX DRAWINGS HEAVY LEFT AND LIGHT RIGHT"),
   (0x257f, "BOX DRAWINGS HEAVY UP AND LIGHT DOWN;UPPER HALF BLOCK;LOWER ONE EIGHTH BLOCK"),
   (0x2582, "LOWER ONE QUARTER BLOCK;LOWER THREE EIGHTHS BLOCK;LOWER HALF BLOCK"),
   (0x2585, "LOWER FIVE EIGHTHS BLOCK;LOWER THREE QUARTERS BLOCK;LOWER SEVEN EIGHTHS BLOCK"),
   (0x2588, "FULL BLOCK;LEFT SEVEN EIGHTHS BLOCK;LEFT THREE QUARTERS BLOCK"),
   (0x258b, "LEFT FIVE EIGHTHS BLOCK;LEFT HALF BLOCK;LEFT THREE EIGHTHS BLOCK"),
   (0x258e, "LEFT ONE QUARTER BLOCK;LEFT ONE EIGHTH BLOCK;RIGHT HALF BLOCK;LIGHT SHADE"),
   (0x2592, "MEDIUM SHADE;DARK SHADE;UPPER ONE EIGHTH BLOCK;RIGHT ONE EIGHTH BLOCK"),
   (0x2596, "QUADRANT LOWER LEFT;QUADRANT LOWER RIGHT;QUADRANT UPPER LEFT"),
   (0x2599, "QUADRANT UPPER LEFT AND LOWER LEFT AND LOWER RIGHT"),
   (0x259a, "QUADRANT UPPER LEFT AND LOWER RIGHT"),
   (0x259b, "QUADRANT UPPER LEFT AND UPPER RIGHT AND LOWER LEFT"),
   (0x259c, "QUADRANT UPPER LEFT AND UPPER RIGHT AND LOWER RIGHT;QUADRANT UPPER RIGHT"),
   (0x259e, "QUADRANT UPPER RIGHT AND LOWER LEFT"),
   (0x259f, "QUADRANT UPPER RIGHT AND LOWER LEFT AND LOWER RIGHT;BLACK SQUARE;WHITE SQUARE"),
   (0x25a2, "WHITE SQUARE WITH ROUNDED CORNERS;WHITE SQUARE CONTAINING BLACK SMALL SQUARE"),
   (0x25a4, "SQUARE WITH HORIZONTAL FILL;SQUARE WITH VERTICAL FILL"),
   (0x25a6, "SQUARE WITH ORTHOGONAL CROSSHATCH FILL"),
   (0x25a7, "SQUARE WITH UPPER LEFT TO LOWER RIGHT FILL"),
   (0x25a8, "SQUARE WITH UPPER RIGHT TO LOWER LEFT FILL"),
   (0x25a9, "SQUARE WITH DIAGONAL CROSSHATCH FILL;BLACK SMALL SQUARE;WHITE SMALL SQUARE"),
   (0x25ac, "BLACK RECTANGLE;WHITE RECTANGLE;BLACK VERTICAL RECTANGLE"),
   (0x25af, "WHITE VERTICAL RECTANGLE;BLACK PARALLELOGRAM;WHITE PARALLELOGRAM"),
   (0x25b2, "BLACK UP-POINTING TRIANGLE;WHITE UP-POINTING TRIANGLE"),
   (0x25b4, "BLACK UP-POINTING SMALL TRIANGLE;WHITE UP-POINTING SMALL TRIANGLE"),
   (0x25b6, "BLACK RIGHT-POINTING TRIANGLE;WHITE RIGHT-POINTING TRIANGLE"),
   (0x25b8, "BLACK RIGHT-POINTING SMALL TRIANGLE;WHITE RIGHT-POINTING SMALL TRIANGLE"),
   (0x25ba, "BLACK RIGHT-POINTING POINTER;WHITE RIGHT-POINTING POINTER"),
   (0x25bc, "BLACK DOWN-POINTING TRIANGLE;WHITE DOWN-POINTING TRIANGLE"),
   (0x25be, "BLACK DOWN-POINTING SMALL TRIANGLE;WHITE DOWN-POINTING SMALL TRIANGLE"),
   (0x25c0, "BLACK LEFT-POINTING TRIANGLE;WHITE LEFT-POINTING TRIANGLE"),
   (0x25c2, "BLACK LEFT-POINTING SMALL TRIANGLE;WHITE LEFT-POINTING SMALL TRIANGLE"),
   (0x25c4, "BLACK LEFT-POINTING POINTER;WHITE LEFT-POINTING POINTER;BLACK DIAMOND"),
   (0x25c7, "WHITE DIAMOND;WHITE DIAMOND CONTAINING BLACK SMALL DIAMOND;FISHEYE;LOZENGE"),
   (0x25cb, "WHITE CIRCLE;DOTTED CIRCLE;CIRCLE WITH VERTICAL FILL;BULLSEYE;BLACK CIRCLE"),
   (0x25d0, "CIRCLE WITH LEFT HALF BLACK;CIRCLE WITH RIGHT HALF BLACK"),
   (0x25d2, "CIRCLE WITH LOWER HALF BLACK;CIRCLE WITH UPPER HALF BLACK"),
   (0x25d4, "CIRCLE WITH UPPER RIGHT QUADRANT BLACK"),
   (0x25d5, "CIRCLE WITH ALL BUT UPPER LEFT QUADRANT BLACK;LEFT HALF BLACK CIRCLE"),
   (0x25d7, "RIGHT HALF BLACK CIRCLE;INVERSE BULLET;INVERSE WHITE CIRCLE"),
   (0x25da, "UPPER HALF INVERSE WHITE CIRCLE;LOWER HALF INVERSE WHITE CIRCLE"),
   (0x25dc, "UPPER LEFT QUADRANT CIRCULAR ARC;UPPER RIGHT QUADRANT CIRCULAR ARC"),
   (0x25de, "LOWER RIGHT QUADRANT CIRCULAR ARC;LOWER LEFT QUADRANT CIRCULAR ARC"),
   (0x25e0, "UPPER HALF CIRCLE;LOWER HALF CIRCLE;BLACK LOWER RIGHT TRIANGLE"),
   (0x25e3, "BLACK LOWER LEFT TRIANGLE;BLACK UPPER LEFT TRIANGLE;BLACK UPPER RIGHT TRIANGLE"),
   (0x25e6, "WHITE BULLET;SQUARE WITH LEFT HALF BLACK;SQUARE WITH RIGHT HALF BLACK"),
   (0x25e9, "SQUARE WITH UPPER LEFT DIAGONAL HALF BLACK"),
   (0x25ea, "SQUARE WITH LOWER RIGHT DIAGONAL HALF BLACK"),
   (0x25eb, "WHITE SQUARE WITH VERTICAL BISECTING LINE;WHITE UP-POINTING TRIANGLE WITH DOT"),
   (0x25ed, "UP-POINTING TRIANGLE WITH LEFT HALF BLACK"),
   (0x25ee, "UP-POINTING TRIANGLE WITH RIGHT HALF BLACK;LARGE CIRCLE"),
   (0x25f0, "WHITE SQUARE WITH UPPER LEFT QUADRANT;WHITE SQUARE WITH LOWER LEFT QUADRANT"),
   (0x25f2, "WHITE SQUARE WITH LOWER RIGHT QUADRANT;WHITE SQUARE WITH UPPER RIGHT QUADRANT"),
   (0x25f4, "WHITE CIRCLE WITH UPPER LEFT QUADRANT;WHITE CIRCLE WITH LOWER LEFT QUADRANT"),
   (0x25f6, "WHITE CIRCLE WITH LOWER RIGHT QUADRANT;WHITE CIRCLE WITH UPPER RIGHT QUADRANT"),
   (0x25f8, "UPPER LEFT TRIANGLE;UPPER RIGHT TRIANGLE;LOWER LEFT TRIANGLE"),
   (0x25fb, "WHITE MEDIUM SQUARE;BLACK MEDIUM SQUARE;WHITE MEDIUM SMALL SQUARE"),
   (0x25fe, "BLACK MEDIUM SMALL SQUARE;LOWER RIGHT TRIANGLE;BLACK SUN WITH RAYS;CLOUD"),
   (0x2602, "UMBRELLA;SNOWMAN;COMET;BLACK STAR;WHITE STAR;LIGHTNING;THUNDERSTORM;SUN"),
   (0x260a, "ASCENDING NODE;DESCENDING NODE;CONJUNCTION;OPPOSITION;BLACK TELEPHONE"),
   (0x260f, "WHITE TELEPHONE;BALLOT BOX;BALLOT BOX WITH CHECK;BALLOT BOX WITH X;SALTIRE"),
   (0x2614, "UMBRELLA WITH RAIN DROPS;HOT BEVERAGE;WHITE SHOGI PIECE;BLACK SHOGI PIECE"),
   (0x2618, "SHAMROCK;REVERSED ROTATED FLORAL HEART BULLET;BLACK LEFT POINTING INDEX"),
   (0x261b, "BLACK RIGHT POINTING INDEX;WHITE LEFT POINTING INDEX;WHITE UP POINTING INDEX"),
   (0x261e, "WHITE RIGHT POINTING INDEX;WHITE DOWN POINTING INDEX;SKULL AND CROSSBONES"),
   (0x2621, "CAUTION SIGN;RADIOACTIVE SIGN;BIOHAZARD SIGN;CADUCEUS;ANKH;ORTHODOX CROSS"),
   (0x2627, "CHI RHO;CROSS OF LORRAINE;CROSS OF JERUSALEM;STAR AND CRESCENT;FARSI SYMBOL"),
   (0x262c, "ADI SHAKTI;HAMMER AND SICKLE;PEACE SYMBOL;YIN YANG;TRIGRAM FOR HEAVEN"),
   (0x2631, "TRIGRAM FOR LAKE;TRIGRAM FOR FIRE;TRIGRAM FOR THUNDER;TRIGRAM FOR WIND"),
   (0x2635, "TRIGRAM FOR WATER;TRIGRAM FOR MOUNTAIN;TRIGRAM FOR EARTH;WHEEL OF DHARMA"),
   (0x2639, "WHITE FROWNING FACE;WHITE SMILING FACE;BLACK SMILING FACE;WHITE SUN WITH RAYS"),
   (0x263d, "FIRST QUARTER MOON;LAST QUARTER MOON;MERCURY;FEMALE SIGN;EARTH;MALE SIGN"),
   (0x2643, "JUPITER;SATURN;URANUS;NEPTUNE;PLUTO;ARIES;TAURUS;GEMINI;CANCER;LEO;VIRGO;LIBRA"),
   (0x264f, "SCORPIUS;SAGITTARIUS;CAPRICORN;AQUARIUS;PISCES;WHITE CHESS KING"),
   (0x2655, "WHITE CHESS QUEEN;WHITE CHESS ROOK;WHITE CHESS BISHOP;WHITE CHESS KNIGHT"),
   (0x2659, "WHITE CHESS PAWN;BLACK CHESS KING;BLACK CHESS QUEEN;BLACK CHESS ROOK"),
   (0x265d, "BLACK CHESS BISHOP;BLACK CHESS KNIGHT;BLACK CHESS PAWN;BLACK SPADE SUIT"),
   (0x2661, "WHITE HEART SUIT;WHITE DIAMOND SUIT;BLACK CLUB SUIT;WHITE SPADE SUIT"),
   (0x2665, "BLACK HEART SUIT;BLACK DIAMOND SUIT;WHITE CLUB SUIT;HOT SPRINGS;QUARTER NOTE"),
   (0x266a, "EIGHTH NOTE;BEAMED EIGHTH NOTES;BEAMED SIXTEENTH NOTES;MUSIC FLAT SIGN"),
   (0x266e, "MUSIC NATURAL SIGN;MUSIC SHARP SIGN;WEST SYRIAC CROSS;EAST SYRIAC CROSS"),
   (0x2672, "UNIVERSAL RECYCLING SYMBOL;RECYCLING SYMBOL FOR TYPE-1 PLASTICS"),
   (0x2674, "RECYCLING SYMBOL FOR TYPE-2 PLASTICS;RECYCLING SYMBOL FOR TYPE-3 PLASTICS"),
   (0x2676, "RECYCLING SYMBOL FOR TYPE-4 PLASTICS;RECYCLING SYMBOL FOR TYPE-5 PLASTICS"),
   (0x2678, "RECYCLING SYMBOL FOR TYPE-6 PLASTICS;RECYCLING SYMBOL FOR TYPE-7 PLASTICS"),
   (0x267a, "RECYCLING SYMBOL FOR GENERIC MATERIALS;BLACK UNIVERSAL RECYCLING SYMBOL"),
   (0x267c, "RECYCLED PAPER SYMBOL;PARTIALLY-RECYCLED PAPER SYMBOL;PERMANENT PAPER SIGN"),
   (0x267f, "WHEELCHAIR SYMBOL;DIE FACE-1;DIE FACE-2;DIE FACE-3;DIE FACE-4;DIE FACE-5"),
   (0x2685, "DIE FACE-6;WHITE CIRCLE WITH DOT RIGHT;WHITE CIRCLE WITH TWO DOTS"),
   (0x2688, "BLACK CIRCLE WITH WHITE DOT RIGHT;BLACK CIRCLE WITH TWO WHITE DOTS"),
   (0x268a, "MONOGRAM FOR YANG;MONOGRAM FOR YIN;DIGRAM FOR GREATER YANG"),
   (0x268d, "DIGRAM FOR LESSER YIN;DIGRAM FOR LESSER YANG;DIGRAM FOR GREATER YIN;WHITE FLAG"),
   (0x2691, "BLACK FLAG;HAMMER AND PICK;ANCHOR;CROSSED SWORDS;STAFF OF AESCULAPIUS;SCALES"),
   (0x2697, "ALEMBIC;FLOWER;GEAR;STAFF OF HERMES;ATOM SYMBOL;FLEUR-DE-LIS"),
   (0x269d, "OUTLINED WHITE STAR;THREE LINES CONVERGING RIGHT;THREE LINES CONVERGING LEFT"),
   (0x26a0, "WARNING SIGN;HIGH VOLTAGE SIGN;DOUBLED FEMALE SIGN;DOUBLED MALE SIGN"),
   (0x26a4, "INTERLOCKED FEMALE AND MALE SIGN;MALE AND FEMALE SIGN;MALE WITH STROKE SIGN"),
   (0x26a7, "MALE WITH STROKE AND MALE AND FEMALE SIGN;VERTICAL MALE WITH STROKE SIGN"),
   (0x26a9, "HORIZONTAL MALE WITH STROKE SIGN;MEDIUM WHITE CIRCLE;MEDIUM BLACK CIRCLE"),
   (0x26ac, "MEDIUM SMALL WHITE CIRCLE;MARRIAGE SYMBOL;DIVORCE SYMBOL"),
   (0x26af, "UNMARRIED PARTNERSHIP SYMBOL;COFFIN;FUNERAL URN;NEUTER;CERES;PALLAS;JUNO;VESTA"),
   (0x26b7, "CHIRON;BLACK MOON LILITH;SEXTILE;SEMISEXTILE;QUINCUNX;SESQUIQUADRATE"),
   (0x26bd, "SOCCER BALL;BASEBALL;SQUARED KEY;WHITE DRAUGHTS MAN;WHITE DRAUGHTS KING"),
   (0x26c2, "BLACK DRAUGHTS MAN;BLACK DRAUGHTS KING;SNOWMAN WITHOUT SNOW;SUN BEHIND CLOUD"),
   (0x26c6, "RAIN;BLACK SNOWMAN;THUNDER CLOUD AND RAIN;TURNED WHITE SHOGI PIECE"),
   (0x26ca, "TURNED BLACK SHOGI PIECE;WHITE DIAMOND IN SQUARE;CROSSING LANES;DISABLED CAR"),
   (0x26ce, "OPHIUCHUS;PICK;CAR SLIDING;HELMET WITH WHITE CROSS;CIRCLED CROSSING LANES"),
   (0x26d3, "CHAINS;NO ENTRY;ALTERNATE ONE-WAY LEFT WAY TRAFFIC"),
   (0x26d6, "BLACK TWO-WAY LEFT WAY TRAFFIC;WHITE TWO-WAY LEFT WAY TRAFFIC"),
   (0x26d8, "BLACK LEFT LANE MERGE;WHITE LEFT LANE MERGE;DRIVE SLOW SIGN"),
   (0x26db, "HEAVY WHITE DOWN-POINTING TRIANGLE;LEFT CLOSED ENTRY;SQUARED SALTIRE"),
   (0x26de, "FALLING DIAGONAL IN WHITE CIRCLE IN BLACK SQUARE;BLACK TRUCK"),
   (0x26e0, "RESTRICTED LEFT ENTRY-1;RESTRICTED LEFT ENTRY-2;ASTRONOMICAL SYMBOL FOR URANUS"),
   (0x26e3, "HEAVY CIRCLE WITH STROKE AND TWO DOTS ABOVE;PENTAGRAM"),
   (0x26e5, "RIGHT-HANDED INTERLACED PENTAGRAM;LEFT-HANDED INTERLACED PENTAGRAM"),
   (0x26e7, "INVERTED PENTAGRAM;BLACK CROSS ON SHIELD;SHINTO SHRINE;CHURCH;CASTLE"),
   (0x26ec, "HISTORIC SITE;GEAR WITHOUT HUB;GEAR WITH HANDLES;MAP SYMBOL FOR LIGHTHOUSE"),
   (0x26f0, "MOUNTAIN;UMBRELLA ON GROUND;FOUNTAIN;FLAG IN HOLE;FERRY;SAILBOAT"),
   (0x26f6, "SQUARE FOUR CORNERS;SKIER;ICE SKATE;PERSON WITH BALL;TENT;JAPANESE BANK SYMBOL"),
   (0x26fc, "HEADSTONE GRAVEYARD SYMBOL;FUEL PUMP;CUP ON BLACK SQUARE"),
   (0x26ff, "WHITE FLAG WITH HORIZONTAL MIDDLE BLACK STRIPE;BLACK SAFETY SCISSORS")]

/-- Dingbats, braille and further arrows. -/
def dingbatNames : List (Nat × String) :=
  [
   (0x2701, "UPPER BLADE SCISSORS;BLACK SCISSORS;LOWER BLADE SCISSORS;WHITE SCISSORS"),
   (0x2705, "WHITE HEAVY CHECK MARK;TELEPHONE LOCATION SIGN;TAPE DRIVE;AIRPLANE;ENVELOPE"),
   (0x270a, "RAISED FIST;RAISED HAND;VICTORY HAND;WRITING HAND;LOWER RIGHT PENCIL;PENCIL"),
   (0x2710, "UPPER RIGHT PENCIL;WHITE NIB;BLACK NIB;CHECK MARK;HEAVY CHECK MARK"),
   (0x2715, "MULTIPLICATION X;HEAVY MULTIPLICATION X;BALLOT X;HEAVY BALLOT X"),
   (0x2719, "OUTLINED GREEK CROSS;HEAVY GREEK CROSS;OPEN CENTRE CROSS"),
   (0x271c, "HEAVY OPEN CENTRE CROSS;LATIN CROSS;SHADOWED WHITE LATIN CROSS"),
   (0x271f, "OUTLINED LATIN CROSS;MALTESE CROSS;STAR OF DAVID;FOUR TEARDROP-SPOKED ASTERISK"),
   (0x2723, "FOUR BALLOON-SPOKED ASTERISK;HEAVY FOUR BALLOON-SPOKED ASTERISK"),
   (0x2725, "FOUR CLUB-SPOKED ASTERISK;BLACK FOUR POINTED STAR;WHITE FOUR POINTED STAR"),
   (0x2728, "SPARKLES;STRESS OUTLINED WHITE STAR;CIRCLED WHITE STAR;OPEN CENTRE BLACK STAR"),
   (0x272c, "BLACK CENTRE WHITE STAR;OUTLINED BLACK STAR;HEAVY OUTLINED BLACK STAR"),
   (0x272f, "PINWHEEL STAR;SHADOWED WHITE STAR;HEAVY ASTERISK;OPEN CENTRE ASTERISK"),
   (0x2733, "EIGHT SPOKED ASTERISK;EIGHT POINTED BLACK STAR;EIGHT POINTED PINWHEEL STAR"),
   (0x2736, "SIX POINTED BLACK STAR;EIGHT POINTED RECTILINEAR BLACK STAR"),
   (0x2738, "HEAVY EIGHT POINTED RECTILINEAR BLACK STAR;TWELVE POINTED BLACK STAR"),
   (0x273a, "SIXTEEN POINTED ASTERISK;TEARDROP-SPOKED ASTERISK"),
   (0x273c, "OPEN CENTRE TEARDROP-SPOKED ASTERISK;HEAVY TEARDROP-SPOKED ASTERISK"),
   (0x273e, "SIX PETALLED BLACK AND WHITE FLORETTE;BLACK FLORETTE;WHITE FLORETTE"),
   (0x2741, "EIGHT PETALLED OUTLINED BLACK FLORETTE;CIRCLED OPEN CENTRE EIGHT POINTED STAR"),
   (0x2743, "HEAVY TEARDROP-SPOKED PINWHEEL ASTERISK;SNOWFLAKE;TIGHT TRIFOLIATE SNOWFLAKE"),
   (0x2746, "HEAVY CHEVRON SNOWFLAKE;SPARKLE;HEAVY SPARKLE;BALLOON-SPOKED ASTERISK"),
   (0x274a, "EIGHT TEARDROP-SPOKED PROPELLER ASTERISK"),
   (0x274b, "HEAVY EIGHT TEARDROP-SPOKED PROPELLER ASTERISK;CROSS MARK"),
   (0x274d, "SHADOWED WHITE CIRCLE;NEGATIVE SQUARED CROSS MARK"),
   (0x274f, "LOWER RIGHT DROP-SHADOWED WHITE SQUARE;UPPER RIGHT DROP-SHADOWED WHITE SQUARE"),
   (0x2751, "LOWER RIGHT SHADOWED WHITE SQUARE;UPPER RIGHT SHADOWED WHITE SQUARE"),
   (0x2753, "BLACK QUESTION MARK ORNAMENT;WHITE QUESTION MARK ORNAMENT"),
   (0x2755, "WHITE EXCLAMATION MARK ORNAMENT;BLACK DIAMOND MINUS WHITE X"),
   (0x2757, "HEAVY EXCLAMATION MARK SYMBOL;LIGHT VERTICAL BAR;MEDIUM VERTICAL BAR"),
   (0x275a, "HEAVY VERTICAL BAR;HEAVY SINGLE TURNED COMMA QUOTATION MARK ORNAMENT"),
   (0x275c, "HEAVY SINGLE COMMA QUOTATION MARK ORNAMENT"),
   (0x275d, "HEAVY DOUBLE TURNED COMMA QUOTATION MARK ORNAMENT"),
   (0x275e, "HEAVY DOUBLE COMMA QUOTATION MARK ORNAMENT"),
   (0x275f, "HEAVY LOW SINGLE COMMA QUOTATION MARK ORNAMENT"),
   (0x2760, "HEAVY LOW DOUBLE COMMA QUOTATION MARK ORNAMENT"),
   (0x2761, "CURVED STEM PARAGRAPH SIGN ORNAMENT;HEAVY EXCLAMATION MARK ORNAMENT"),
   (0x2763, "HEAVY HEART EXCLAMATION MARK ORNAMENT;HEAVY BLACK HEART"),
   (0x2765, "ROTATED HEAVY BLACK HEART BULLET;FLORAL HEART;ROTATED FLORAL HEART BULLET"),
   (0x2768, "MEDIUM LEFT PARENTHESIS ORNAMENT;MEDIUM RIGHT PARENTHESIS ORNAMENT"),
   (0x276a, "MEDIUM FLATTENED LEFT PARENTHESIS ORNAMENT"),
   (0x276b, "MEDIUM FLATTENED RIGHT PARENTHESIS ORNAMENT"),
   (0x276c, "MEDIUM LEFT-POINTING ANGLE BRACKET ORNAMENT"),
   (0x276d, "MEDIUM RIGHT-POINTING ANGLE BRACKET ORNAMENT"),
   (0x276e, "HEAVY LEFT-POINTING ANGLE QUOTATION MARK ORNAMENT"),
   (0x276f, "HEAVY RIGHT-POINTING ANGLE QUOTATION MARK ORNAMENT"),
   (0x2770, "HEAVY LEFT-POINTING ANGLE BRACKET ORNAMENT"),
   (0x2771, "HEAVY RIGHT-POINTING ANGLE BRACKET ORNAMENT"),
   (0x2772, "LIGHT LEFT TORTOISE SHELL BRACKET ORNAMENT"),
   (0x2773, "LIGHT RIGHT TORTOISE SHELL BRACKET ORNAMENT;MEDIUM LEFT CURLY BRACKET ORNAMENT"),
   (0x2775, "MEDIUM RIGHT CURLY BRACKET ORNAMENT;DINGBAT NEGATIVE CIRCLED DIGIT ONE"),
   (0x2777, "DINGBAT NEGATIVE CIRCLED DIGIT TWO;DINGBAT NEGATIVE CIRCLED DIGIT THREE"),
   (0x2779, "DINGBAT NEGATIVE CIRCLED DIGIT FOUR;DINGBAT NEGATIVE CIRCLED DIGIT FIVE"),
   (0x277b, "DINGBAT NEGATIVE CIRCLED DIGIT SIX;DINGBAT NEGATIVE CIRCLED DIGIT SEVEN"),
   (0x277d, "DINGBAT NEGATIVE CIRCLED DIGIT EIGHT;DINGBAT NEGATIVE CIRCLED DIGIT NINE"),
   (0x277f, "DINGBAT NEGATIVE CIRCLED NUMBER TEN;DINGBAT CIRCLED SANS-SERIF DIGIT ONE"),
   (0x2781, "DINGBAT CIRCLED SANS-SERIF DIGIT TWO;DINGBAT CIRCLED SANS-SERIF DIGIT THREE"),
   (0x2783, "DINGBAT CIRCLED SANS-SERIF DIGIT FOUR;DINGBAT CIRCLED SANS-SERIF DIGIT FIVE"),
   (0x2785, "DINGBAT CIRCLED SANS-SERIF DIGIT SIX;DINGBAT CIRCLED SANS-SERIF DIGIT SEVEN"),
   (0x2787, "DINGBAT CIRCLED SANS-SERIF DIGIT EIGHT;DINGBAT CIRCLED SANS-SERIF DIGIT NINE"),
   (0x2789, "DINGBAT CIRCLED SANS-SERIF NUMBER TEN"),
   (0x278a, "DINGBAT NEGATIVE CIRCLED SANS-SERIF DIGIT ONE"),
   (0x278b, "DINGBAT NEGATIVE CIRCLED SANS-SERIF DIGIT TWO"),
   (0x278c, "DINGBAT NEGATIVE CIRCLED SANS-SERIF DIGIT THREE"),
   (0x278d, "DINGBAT NEGATIVE CIRCLED SANS-SERIF DIGIT FOUR"),
   (0x278e, "DINGBAT NEGATIVE CIRCLED SANS-SERIF DIGIT FIVE"),
   (0x278f, "DINGBAT NEGATIVE CIRCLED SANS-SERIF DIGIT SIX"),
   (0x2790, "DINGBAT NEGATIVE CIRCLED SANS-SERIF DIGIT SEVEN"),
   (0x2791, "DINGBAT NEGATIVE CIRCLED SANS-SERIF DIGIT EIGHT"),
   (0x2792, "DINGBAT NEGATIVE CIRCLED SANS-SERIF DIGIT NINE"),
   (0x2793, "DINGBAT NEGATIVE CIRCLED SANS-SERIF NUMBER TEN"),
   (0x2794, "HEAVY WIDE-HEADED RIGHTWARDS ARROW;HEAVY PLUS SIGN;HEAVY MINUS SIGN"),
   (0x2797, "HEAVY DIVISION SIGN;HEAVY SOUTH EAST ARROW;HEAVY RIGHTWARDS ARROW"),
   (0x279a, "HEAVY NORTH EAST ARROW;DRAFTING POINT RIGHTWARDS ARROW"),
   (0x279c, "HEAVY ROUND-TIPPED RIGHTWARDS ARROW;TRIANGLE-HEADED RIGHTWARDS ARROW"),
   (0x279e, "HEAVY TRIANGLE-HEADED RIGHTWARDS ARROW;DASHED TRIANGLE-HEADED RIGHTWARDS ARROW"),
   (0x27a0, "HEAVY DASHED TRIANGLE-HEADED RIGHTWARDS ARROW;BLACK RIGHTWARDS ARROW"),
   (0x27a2, "THREE-D TOP-LIGHTED RIGHTWARDS ARROWHEAD"),
   (0x27a3, "THREE-D BOTTOM-LIGHTED RIGHTWARDS ARROWHEAD;BLACK RIGHTWARDS ARROWHEAD"),
   (0x27a5, "HEAVY BLACK CURVED DOWNWARDS AND RIGHTWARDS ARROW"),
   (0x27a6, "HEAVY BLACK CURVED UPWARDS AND RIGHTWARDS ARROW;SQUAT BLACK RIGHTWARDS ARROW"),
   (0x27a8, "HEAVY CONCAVE-POINTED BLACK RIGHTWARDS ARROW"),
   (0x27a9, "RIGHT-SHADED WHITE RIGHTWARDS ARROW;LEFT-SHADED WHITE RIGHTWARDS ARROW"),
   (0x27ab, "BACK-TILTED SHADOWED WHITE RIGHTWARDS ARROW"),
   (0x27ac, "FRONT-TILTED SHADOWED WHITE RIGHTWARDS ARROW"),
   (0x27ad, "HEAVY LOWER RIGHT-SHADOWED WHITE RIGHTWARDS ARROW"),
   (0x27ae, "HEAVY UPPER RIGHT-SHADOWED WHITE RIGHTWARDS ARROW"),
   (0x27af, "NOTCHED LOWER RIGHT-SHADOWED WHITE RIGHTWARDS ARROW;CURLY LOOP"),
   (0x27b1, "NOTCHED UPPER RIGHT-SHADOWED WHITE RIGHTWARDS ARROW"),
   (0x27b2, "CIRCLED HEAVY WHITE RIGHTWARDS ARROW;WHITE-FEATHERED RIGHTWARDS ARROW"),
   (0x27b4, "BLACK-FEATHERED SOUTH EAST ARROW;BLACK-FEATHERED RIGHTWARDS ARROW"),
   (0x27b6, "BLACK-FEATHERED NORTH EAST ARROW;HEAVY BLACK-FEATHERED SOUTH EAST ARROW"),
   (0x27b8, "HEAVY BLACK-FEATHERED RIGHTWARDS ARROW;HEAVY BLACK-FEATHERED NORTH EAST ARROW"),
   (0x27ba, "TEARDROP-BARBED RIGHTWARDS ARROW;HEAVY TEARDROP-SHANKED RIGHTWARDS ARROW"),
   (0x27bc, "WEDGE-TAILED RIGHTWARDS ARROW;HEAVY WEDGE-TAILED RIGHTWARDS ARROW"),
   (0x27be, "OPEN-OUTLINED RIGHTWARDS ARROW;DOUBLE CURLY LOOP;THREE DIMENSIONAL ANGLE"),
   (0x27c1, "WHITE TRIANGLE CONTAINING SMALL WHITE TRIANGLE;PERPENDICULAR;OPEN SUBSET"),
   (0x27c4, "OPEN SUPERSET;LEFT S-SHAPED BAG DELIMITER;RIGHT S-SHAPED BAG DELIMITER"),
   (0x27c7, "OR WITH DOT INSIDE;REVERSE SOLIDUS PRECEDING SUBSET;SUPERSET PRECEDING SOLIDUS"),
   (0x27ca, "VERTICAL BAR WITH HORIZONTAL STROKE;MATHEMATICAL RISING DIAGONAL;LONG DIVISION"),
   (0x27cd, "MATHEMATICAL FALLING DIAGONAL;SQUARED LOGICAL AND;SQUARED LOGICAL OR"),
   (0x27d0, "WHITE DIAMOND WITH CENTRED DOT;AND WITH DOT;ELEMENT OF OPENING UPWARDS"),
   (0x27d3, "LOWER RIGHT CORNER WITH DOT;UPPER LEFT CORNER WITH DOT;LEFT OUTER JOIN"),
   (0x27d6, "RIGHT OUTER JOIN;FULL OUTER JOIN;LARGE UP TACK;LARGE DOWN TACK"),
   (0x27da, "LEFT AND RIGHT DOUBLE TURNSTILE;LEFT AND RIGHT TACK;LEFT MULTIMAP"),
   (0x27dd, "LONG RIGHT TACK;LONG LEFT TACK;UP TACK WITH CIRCLE ABOVE"),
   (0x27e0, "LOZENGE DIVIDED BY HORIZONTAL RULE;WHITE CONCAVE-SIDED DIAMOND"),
   (0x27e2, "WHITE CONCAVE-SIDED DIAMOND WITH LEFTWARDS TICK"),
   (0x27e3, "WHITE CONCAVE-SIDED DIAMOND WITH RIGHTWARDS TICK"),
   (0x27e4, "WHITE SQUARE WITH LEFTWARDS TICK;WHITE SQUARE WITH RIGHTWARDS TICK"),
   (0x27e6, "MATHEMATICAL LEFT WHITE SQUARE BRACKET;MATHEMATICAL RIGHT WHITE SQUARE BRACKET"),
   (0x27e8, "MATHEMATICAL LEFT ANGLE BRACKET;MATHEMATICAL RIGHT ANGLE BRACKET"),
   (0x27ea, "MATHEMATICAL LEFT DOUBLE ANGLE BRACKET;MATHEMATICAL RIGHT DOUBLE ANGLE BRACKET"),
   (0x27ec, "MATHEMATICAL LEFT WHITE TORTOISE SHELL BRACKET"),
   (0x27ed, "MATHEMATICAL RIGHT WHITE TORTOISE SHELL BRACKET"),
   (0x27ee, "MATHEMATICAL LEFT FLATTENED PARENTHESIS"),
   (0x27ef, "MATHEMATICAL RIGHT FLATTENED PARENTHESIS;UPWARDS QUADRUPLE ARROW"),
   (0x27f1, "DOWNWARDS QUADRUPLE ARROW;ANTICLOCKWISE GAPPED CIRCLE ARROW"),
   (0x27f3, "CLOCKWISE GAPPED CIRCLE ARROW;RIGHT ARROW WITH CIRCLED PLUS"),
   (0x27f5, "LONG LEFTWARDS ARROW;LONG RIGHTWARDS ARROW;LONG LEFT RIGHT ARROW"),
   (0x27f8, "LONG LEFTWARDS DOUBLE ARROW;LONG RIGHTWARDS DOUBLE ARROW"),
   (0x27fa, "LONG LEFT RIGHT DOUBLE ARROW;LONG LEFTWARDS ARROW FROM BAR"),
   (0x27fc, "LONG RIGHTWARDS ARROW FROM BAR;LONG LEFTWARDS DOUBLE ARROW FROM BAR"),
   (0x27fe, "LONG RIGHTWARDS DOUBLE ARROW FROM BAR;LONG RIGHTWARDS SQUIGGLE ARROW"),
   (0x2800, "BRAILLE PATTERN BLANK;BRAILLE PATTERN DOTS-1;BRAILLE PATTERN DOTS-2"),
   (0x2803, "BRAILLE PATTERN DOTS-12;BRAILLE PATTERN DOTS-3;BRAILLE PATTERN DOTS-13"),
   (0x2806, "BRAILLE PATTERN DOTS-23;BRAILLE PATTERN DOTS-123;BRAILLE PATTERN DOTS-4"),
   (0x2809, "BRAILLE PATTERN DOTS-14;BRAILLE PATTERN DOTS-24;BRAILLE PATTERN DOTS-124"),
   (0x280c, "BRAILLE PATTERN DOTS-34;BRAILLE PATTERN DOTS-134;BRAILLE PATTERN DOTS-234"),
   (0x280f, "BRAILLE PATTERN DOTS-1234;BRAILLE PATTERN DOTS-5;BRAILLE PATTERN DOTS-15"),
   (0x2812, "BRAILLE PATTERN DOTS-25;BRAILLE PATTERN DOTS-125;BRAILLE PATTERN DOTS-35"),
   (0x2815, "BRAILLE PATTERN DOTS-135;BRAILLE PATTERN DOTS-235;BRAILLE PATTERN DOTS-1235"),
   (0x2818, "BRAILLE PATTERN DOTS-45;BRAILLE PATTERN DOTS-145;BRAILLE PATTERN DOTS-245"),
   (0x281b, "BRAILLE PATTERN DOTS-1245;BRAILLE PATTERN DOTS-345;BRAILLE PATTERN DOTS-1345"),
   (0x281e, "BRAILLE PATTERN DOTS-2345;BRAILLE PATTERN DOTS-12345;BRAILLE PATTERN DOTS-6"),
   (0x2821, "BRAILLE PATTERN DOTS-16;BRAILLE PATTERN DOTS-26;BRAILLE PATTERN DOTS-126"),
   (0x2824, "BRAILLE PATTERN DOTS-36;BRAILLE PATTERN DOTS-136;BRAILLE PATTERN DOTS-236"),
   (0x2827, "BRAILLE PATTERN DOTS-1236;BRAILLE PATTERN DOTS-46;BRAILLE PATTERN DOTS-146"),
   (0x282a, "BRAILLE PATTERN DOTS-246;BRAILLE PATTERN DOTS-1246;BRAILLE PATTERN DOTS-346"),
   (0x282d, "BRAILLE PATTERN DOTS-1346;BRAILLE PATTERN DOTS-2346;BRAILLE PATTERN DOTS-12346"),
   (0x2830, "BRAILLE PATTERN DOTS-56;BRAILLE PATTERN DOTS-156;BRAILLE PATTERN DOTS-256"),
   (0x2833, "BRAILLE PATTERN DOTS-1256;BRAILLE PATTERN DOTS-356;BRAILLE PATTERN DOTS-1356"),
   (0x2836, "BRAILLE PATTERN DOTS-2356;BRAILLE PATTERN DOTS-12356;BRAILLE PATTERN DOTS-456"),
   (0x2839, "BRAILLE PATTERN DOTS-1456;BRAILLE PATTERN DOTS-2456;BRAILLE PATTERN DOTS-12456"),
   (0x283c, "BRAILLE PATTERN DOTS-3456;BRAILLE PATTERN DOTS-13456"),
   (0x283e, "BRAILLE PATTERN DOTS-23456;BRAILLE PATTERN DOTS-123456;BRAILLE PATTERN DOTS-7"),
   (0x2841, "BRAILLE PATTERN DOTS-17;BRAILLE PATTERN DOTS-27;BRAILLE PATTERN DOTS-127"),
   (0x2844, "BRAILLE PATTERN DOTS-37;BRAILLE PATTERN DOTS-137;BRAILLE PATTERN DOTS-237"),
   (0x2847, "BRAILLE PATTERN DOTS-1237;BRAILLE PATTERN DOTS-47;BRAILLE PATTERN DOTS-147"),
   (0x284a, "BRAILLE PATTERN DOTS-247;BRAILLE PATTERN DOTS-1247;BRAILLE PATTERN DOTS-347"),
   (0x284d, "BRAILLE PATTERN DOTS-1347;BRAILLE PATTERN DOTS-2347;BRAILLE PATTERN DOTS-12347"),
   (0x2850, "BRAILLE PATTERN DOTS-57;BRAILLE PATTERN DOTS-157;BRAILLE PATTERN DOTS-257"),
   (0x2853, "BRAILLE PATTERN DOTS-1257;BRAILLE PATTERN DOTS-357;BRAILLE PATTERN DOTS-1357"),
   (0x2856, "BRAILLE PATTERN DOTS-2357;BRAILLE PATTERN DOTS-12357;BRAILLE PATTERN DOTS-457"),
   (0x2859, "BRAILLE PATTERN DOTS-1457;BRAILLE PATTERN DOTS-2457;BRAILLE PATTERN DOTS-12457"),
   (0x285c, "BRAILLE PATTERN DOTS-3457;BRAILLE PATTERN DOTS-13457"),
   (0x285e, "BRAILLE PATTERN DOTS-23457;BRAILLE PATTERN DOTS-123457;BRAILLE PATTERN DOTS-67"),
   (0x2861, "BRAILLE PATTERN DOTS-167;BRAILLE PATTERN DOTS-267;BRAILLE PATTERN DOTS-1267"),
   (0x2864, "BRAILLE PATTERN DOTS-367;BRAILLE PATTERN DOTS-1367;BRAILLE PATTERN DOTS-2367"),
   (0x2867, "BRAILLE PATTERN DOTS-12367;BRAILLE PATTERN DOTS-467;BRAILLE PATTERN DOTS-1467"),
   (0x286a, "BRAILLE PATTERN DOTS-2467;BRAILLE PATTERN DOTS-12467;BRAILLE PATTERN DOTS-3467"),
   (0x286d, "BRAILLE PATTERN DOTS-13467;BRAILLE PATTERN DOTS-23467"),
   (0x286f, "BRAILLE PATTERN DOTS-123467;BRAILLE PATTERN DOTS-567;BRAILLE PATTERN DOTS-1567"),
   (0x2872, "BRAILLE PATTERN DOTS-2567;BRAILLE PATTERN DOTS-12567;BRAILLE PATTERN DOTS-3567"),
   (0x2875, "BRAILLE PATTERN DOTS-13567;BRAILLE PATTERN DOTS-23567"),
   (0x2877, "BRAILLE PATTERN DOTS-123567;BRAILLE PATTERN DOTS-4567"),
   (0x2879, "BRAILLE PATTERN DOTS-14567;BRAILLE PATTERN DOTS-24567"),
   (0x287b, "BRAILLE PATTERN DOTS-124567;BRAILLE PATTERN DOTS-34567"),
   (0x287d, "BRAILLE PATTERN DOTS-134567;BRAILLE PATTERN DOTS-234567"),
   (0x287f, "BRAILLE PATTERN DOTS-1234567;BRAILLE PATTERN DOTS-8;BRAILLE PATTERN DOTS-18"),
   (0x2882, "BRAILLE PATTERN DOTS-28;BRAILLE PATTERN DOTS-128;BRAILLE PATTERN DOTS-38"),
   (0x2885, "BRAILLE PATTERN DOTS-138;BRAILLE PATTERN DOTS-238;BRAILLE PATTERN DOTS-1238"),
   (0x2888, "BRAILLE PATTERN DOTS-48;BRAILLE PATTERN DOTS-148;BRAILLE PATTERN DOTS-248"),
   (0x288b, "BRAILLE PATTERN DOTS-1248;BRAILLE PATTERN DOTS-348;BRAILLE PATTERN DOTS-1348"),
   (0x288e, "BRAILLE PATTERN DOTS-2348;BRAILLE PATTERN DOTS-12348;BRAILLE PATTERN DOTS-58"),
   (0x2891, "BRAILLE PATTERN DOTS-158;BRAILLE PATTERN DOTS-258;BRAILLE PATTERN DOTS-1258"),
   (0x2894, "BRAILLE PATTERN DOTS-358;BRAILLE PATTERN DOTS-1358;BRAILLE PATTERN DOTS-2358"),
   (0x2897, "BRAILLE PATTERN DOTS-12358;BRAILLE PATTERN DOTS-458;BRAILLE PATTERN DOTS-1458"),
   (0x289a, "BRAILLE PATTERN DOTS-2458;BRAILLE PATTERN DOTS-12458;BRAILLE PATTERN DOTS-3458"),
   (0x289d, "BRAILLE PATTERN DOTS-13458;BRAILLE PATTERN DOTS-23458"),
   (0x289f, "BRAILLE PATTERN DOTS-123458;BRAILLE PATTERN DOTS-68;BRAILLE PATTERN DOTS-168"),
   (0x28a2, "BRAILLE PATTERN DOTS-268;BRAILLE PATTERN DOTS-1268;BRAILLE PATTERN DOTS-368"),
   (0x28a5, "BRAILLE PATTERN DOTS-1368;BRAILLE PATTERN DOTS-2368;BRAILLE PATTERN DOTS-12368"),
   (0x28a8, "BRAILLE PATTERN DOTS-468;BRAILLE PATTERN DOTS-1468;BRAILLE PATTERN DOTS-2468"),
   (0x28ab, "BRAILLE PATTERN DOTS-12468;BRAILLE PATTERN DOTS-3468"),
   (0x28ad, "BRAILLE PATTERN DOTS-13468;BRAILLE PATTERN DOTS-23468"),
   (0x28af, "BRAILLE PATTERN DOTS-123468;BRAILLE PATTERN DOTS-568;BRAILLE PATTERN DOTS-1568"),
   (0x28b2, "BRAILLE PATTERN DOTS-2568;BRAILLE PATTERN DOTS-12568;BRAILLE PATTERN DOTS-3568"),
   (0x28b5, "BRAILLE PATTERN DOTS-13568;BRAILLE PATTERN DOTS-23568"),
   (0x28b7, "BRAILLE PATTERN DOTS-123568;BRAILLE PATTERN DOTS-4568"),
   (0x28b9, "BRAILLE PATTERN DOTS-14568;BRAILLE PATTERN DOTS-24568"),
   (0x28bb, "BRAILLE PATTERN DOTS-124568;BRAILLE PATTERN DOTS-34568"),
   (0x28bd, "BRAILLE PATTERN DOTS-134568;BRAILLE PATTERN DOTS-234568"),
   (0x28bf, "BRAILLE PATTERN DOTS-1234568;BRAILLE PATTERN DOTS-78;BRAILLE PATTERN DOTS-178"),
   (0x28c2, "BRAILLE PATTERN DOTS-278;BRAILLE PATTERN DOTS-1278;BRAILLE PATTERN DOTS-378"),
   (0x28c5, "BRAILLE PATTERN DOTS-1378;BRAILLE PATTERN DOTS-2378;BRAILLE PATTERN DOTS-12378"),
   (0x28c8, "BRAILLE PATTERN DOTS-478;BRAILLE PATTERN DOTS-1478;BRAILLE PATTERN DOTS-2478"),
   (0x28cb, "BRAILLE PATTERN DOTS-12478;BRAILLE PATTERN DOTS-3478"),
   (0x28cd, "BRAILLE PATTERN DOTS-13478;BRAILLE PATTERN DOTS-23478"),
   (0x28cf, "BRAILLE PATTERN DOTS-123478;BRAILLE PATTERN DOTS-578;BRAILLE PATTERN DOTS-1578"),
   (0x28d2, "BRAILLE PATTERN DOTS-2578;BRAILLE PATTERN DOTS-12578;BRAILLE PATTERN DOTS-3578"),
   (0x28d5, "BRAILLE PATTERN DOTS-13578;BRAILLE PATTERN DOTS-23578"),
   (0x28d7, "BRAILLE PATTERN DOTS-123578;BRAILLE PATTERN DOTS-4578"),
   (0x28d9, "BRAILLE PATTERN DOTS-14578;BRAILLE PATTERN DOTS-24578"),
   (0x28db, "BRAILLE PATTERN DOTS-124578;BRAILLE PATTERN DOTS-34578"),
   (0x28dd, "BRAILLE PATTERN DOTS-134578;BRAILLE PATTERN DOTS-234578"),
   (0x28df, "BRAILLE PATTERN DOTS-1234578;BRAILLE PATTERN DOTS-678"),
   (0x28e1, "BRAILLE PATTERN DOTS-1678;BRAILLE PATTERN DOTS-2678;BRAILLE PATTERN DOTS-12678"),
   (0x28e4, "BRAILLE PATTERN DOTS-3678;BRAILLE PATTERN DOTS-13678"),
   (0x28e6, "BRAILLE PATTERN DOTS-23678;BRAILLE PATTERN DOTS-123678"),
   (0x28e8, "BRAILLE PATTERN DOTS-4678;BRAILLE PATTERN DOTS-14678"),
   (0x28ea, "BRAILLE PATTERN DOTS-24678;BRAILLE PATTERN DOTS-124678"),
   (0x28ec, "BRAILLE PATTERN DOTS-34678;BRAILLE PATTERN DOTS-134678"),
   (0x28ee, "BRAILLE PATTERN DOTS-234678;BRAILLE PATTERN DOTS-1234678"),
   (0x28f0, "BRAILLE PATTERN DOTS-5678;BRAILLE PATTERN DOTS-15678"),
   (0x28f2, "BRAILLE PATTERN DOTS-25678;BRAILLE PATTERN DOTS-125678"),
   (0x28f4, "BRAILLE PATTERN DOTS-35678;BRAILLE PATTERN DOTS-135678"),
   (0x28f6, "BRAILLE PATTERN DOTS-235678;BRAILLE PATTERN DOTS-1235678"),
   (0x28f8, "BRAILLE PATTERN DOTS-45678;BRAILLE PATTERN DOTS-145678"),
   (0x28fa, "BRAILLE PATTERN DOTS-245678;BRAILLE PATTERN DOTS-1245678"),
   (0x28fc, "BRAILLE PATTERN DOTS-345678;BRAILLE PATTERN DOTS-1345678"),
   (0x28fe, "BRAILLE PATTERN DOTS-2345678;BRAILLE PATTERN DOTS-12345678"),
   (0x2900, "RIGHTWARDS TWO-HEADED ARROW WITH VERTICAL STROKE"),
   (0x2901, "RIGHTWARDS TWO-HEADED ARROW WITH DOUBLE VERTICAL STROKE"),
   (0x2902, "LEFTWARDS DOUBLE ARROW WITH VERTICAL STROKE"),
   (0x2903, "RIGHTWARDS DOUBLE ARROW WITH VERTICAL STROKE"),
   (0x2904, "LEFT RIGHT DOUBLE ARROW WITH VERTICAL STROKE"),
   (0x2905, "RIGHTWARDS TWO-HEADED ARROW FROM BAR;LEFTWARDS DOUBLE ARROW FROM BAR"),
   (0x2907, "RIGHTWARDS DOUBLE ARROW FROM BAR;DOWNWARDS ARROW WITH HORIZONTAL STROKE"),
   (0x2909, "UPWARDS ARROW WITH HORIZONTAL STROKE;UPWARDS TRIPLE ARROW"),
   (0x290b, "DOWNWARDS TRIPLE ARROW;LEFTWARDS DOUBLE DASH ARROW"),
   (0x290d, "RIGHTWARDS DOUBLE DASH ARROW;LEFTWARDS TRIPLE DASH ARROW"),
   (0x290f, "RIGHTWARDS TRIPLE DASH ARROW;RIGHTWARDS TWO-HEADED TRIPLE DASH ARROW"),
   (0x2911, "RIGHTWARDS ARROW WITH DOTTED STEM;UPWARDS ARROW TO BAR;DOWNWARDS ARROW TO BAR"),
   (0x2914, "RIGHTWARDS ARROW WITH TAIL WITH VERTICAL STROKE"),
   (0x2915, "RIGHTWARDS ARROW WITH TAIL WITH DOUBLE VERTICAL STROKE"),
   (0x2916, "RIGHTWARDS TWO-HEADED ARROW WITH TAIL"),
   (0x2917, "RIGHTWARDS TWO-HEADED ARROW WITH TAIL WITH VERTICAL STROKE"),
   (0x2918, "RIGHTWARDS TWO-HEADED ARROW WITH TAIL WITH DOUBLE VERTICAL STROKE"),
   (0x2919, "LEFTWARDS ARROW-TAIL;RIGHTWARDS ARROW-TAIL;LEFTWARDS DOUBLE ARROW-TAIL"),
   (0x291c, "RIGHTWARDS DOUBLE ARROW-TAIL;LEFTWARDS ARROW TO BLACK DIAMOND"),
   (0x291e, "RIGHTWARDS ARROW TO BLACK DIAMOND;LEFTWARDS ARROW FROM BAR TO BLACK DIAMOND"),
   (0x2920, "RIGHTWARDS ARROW FROM BAR TO BLACK DIAMOND;NORTH WEST AND SOUTH EAST ARROW"),
   (0x2922, "NORTH EAST AND SOUTH WEST ARROW;NORTH WEST ARROW WITH HOOK"),
   (0x2924, "NORTH EAST ARROW WITH HOOK;SOUTH EAST ARROW WITH HOOK"),
   (0x2926, "SOUTH WEST ARROW WITH HOOK;NORTH WEST ARROW AND NORTH EAST ARROW"),
   (0x2928, "NORTH EAST ARROW AND SOUTH EAST ARROW;SOUTH EAST ARROW AND SOUTH WEST ARROW"),
   (0x292a, "SOUTH WEST ARROW AND NORTH WEST ARROW"),
   (0x292b, "RISING DIAGONAL CROSSING FALLING DIAGONAL"),
   (0x292c, "FALLING DIAGONAL CROSSING RISING DIAGONAL"),
   (0x292d, "SOUTH EAST ARROW CROSSING NORTH EAST ARROW"),
   (0x292e, "NORTH EAST ARROW CROSSING SOUTH EAST ARROW"),
   (0x292f, "FALLING DIAGONAL CROSSING NORTH EAST ARROW"),
   (0x2930, "RISING DIAGONAL CROSSING SOUTH EAST ARROW"),
   (0x2931, "NORTH EAST ARROW CROSSING NORTH WEST ARROW"),
   (0x2932, "NORTH WEST ARROW CROSSING NORTH EAST ARROW;WAVE ARROW POINTING DIRECTLY RIGHT"),
   (0x2934, "ARROW POINTING RIGHTWARDS THEN CURVING UPWARDS"),
   (0x2935, "ARROW POINTING RIGHTWARDS THEN CURVING DOWNWARDS"),
   (0x2936, "ARROW POINTING DOWNWARDS THEN CURVING LEFTWARDS"),
   (0x2937, "ARROW POINTING DOWNWARDS THEN CURVING RIGHTWARDS"),
   (0x2938, "RIGHT-SIDE ARC CLOCKWISE ARROW;LEFT-SIDE ARC ANTICLOCKWISE ARROW"),
   (0x293a, "TOP ARC ANTICLOCKWISE ARROW;BOTTOM ARC ANTICLOCKWISE ARROW"),
   (0x293c, "TOP ARC CLOCKWISE ARROW WITH MINUS;TOP ARC ANTICLOCKWISE ARROW WITH PLUS"),
   (0x293e, "LOWER RIGHT SEMICIRCULAR CLOCKWISE ARROW"),
   (0x293f, "LOWER LEFT SEMICIRCULAR ANTICLOCKWISE ARROW;ANTICLOCKWISE CLOSED CIRCLE ARROW"),
   (0x2941, "CLOCKWISE CLOSED CIRCLE ARROW;RIGHTWARDS ARROW ABOVE SHORT LEFTWARDS ARROW"),
   (0x2943, "LEFTWARDS ARROW ABOVE SHORT RIGHTWARDS ARROW"),
   (0x2944, "SHORT RIGHTWARDS ARROW ABOVE LEFTWARDS ARROW;RIGHTWARDS ARROW WITH PLUS BELOW"),
   (0x2946, "LEFTWARDS ARROW WITH PLUS BELOW;RIGHTWARDS ARROW THROUGH X"),
   (0x2948, "LEFT RIGHT ARROW THROUGH SMALL CIRCLE"),
   (0x2949, "UPWARDS TWO-HEADED ARROW FROM SMALL CIRCLE"),
   (0x294a, "LEFT BARB UP RIGHT BARB DOWN HARPOON;LEFT BARB DOWN RIGHT BARB UP HARPOON"),
   (0x294c, "UP BARB RIGHT DOWN BARB LEFT HARPOON;UP BARB LEFT DOWN BARB RIGHT HARPOON"),
   (0x294e, "LEFT BARB UP RIGHT BARB UP HARPOON;UP BARB RIGHT DOWN BARB RIGHT HARPOON"),
   (0x2950, "LEFT BARB DOWN RIGHT BARB DOWN HARPOON;UP BARB LEFT DOWN BARB LEFT HARPOON"),
   (0x2952, "LEFTWARDS HARPOON WITH BARB UP TO BAR;RIGHTWARDS HARPOON WITH BARB UP TO BAR"),
   (0x2954, "UPWARDS HARPOON WITH BARB RIGHT TO BAR"),
   (0x2955, "DOWNWARDS HARPOON WITH BARB RIGHT TO BAR"),
   (0x2956, "LEFTWARDS HARPOON WITH BARB DOWN TO BAR"),
   (0x2957, "RIGHTWARDS HARPOON WITH BARB DOWN TO BAR;UPWARDS HARPOON WITH BARB LEFT TO BAR"),
   (0x2959, "DOWNWARDS HARPOON WITH BARB LEFT TO BAR"),
   (0x295a, "LEFTWARDS HARPOON WITH BARB UP FROM BAR"),
   (0x295b, "RIGHTWARDS HARPOON WITH BARB UP FROM BAR"),
   (0x295c, "UPWARDS HARPOON WITH BARB RIGHT FROM BAR"),
   (0x295d, "DOWNWARDS HARPOON WITH BARB RIGHT FROM BAR"),
   (0x295e, "LEFTWARDS HARPOON WITH BARB DOWN FROM BAR"),
   (0x295f, "RIGHTWARDS HARPOON WITH BARB DOWN FROM BAR"),
   (0x2960, "UPWARDS HARPOON WITH BARB LEFT FROM BAR"),
   (0x2961, "DOWNWARDS HARPOON WITH BARB LEFT FROM BAR"),
   (0x2962, "LEFTWARDS HARPOON WITH BARB UP ABOVE LEFTWARDS HARPOON WITH BARB DOWN"),
   (0x2963, "UPWARDS HARPOON WITH BARB LEFT BESIDE UPWARDS HARPOON WITH BARB RIGHT"),
   (0x2964, "RIGHTWARDS HARPOON WITH BARB UP ABOVE RIGHTWARDS HARPOON WITH BARB DOWN"),
   (0x2965, "DOWNWARDS HARPOON WITH BARB LEFT BESIDE DOWNWARDS HARPOON WITH BARB RIGHT"),
   (0x2966, "LEFTWARDS HARPOON WITH BARB UP ABOVE RIGHTWARDS HARPOON WITH BARB UP"),
   (0x2967, "LEFTWARDS HARPOON WITH BARB DOWN ABOVE RIGHTWARDS HARPOON WITH BARB DOWN"),
   (0x2968, "RIGHTWARDS HARPOON WITH BARB UP ABOVE LEFTWARDS HARPOON WITH BARB UP"),
   (0x2969, "RIGHTWARDS HARPOON WITH BARB DOWN ABOVE LEFTWARDS HARPOON WITH BARB DOWN"),
   (0x296a, "LEFTWARDS HARPOON WITH BARB UP ABOVE LONG DASH"),
   (0x296b, "LEFTWARDS HARPOON WITH BARB DOWN BELOW LONG DASH"),
   (0x296c, "RIGHTWARDS HARPOON WITH BARB UP ABOVE LONG DASH"),
   (0x296d, "RIGHTWARDS HARPOON WITH BARB DOWN BELOW LONG DASH"),
   (0x296e, "UPWARDS HARPOON WITH BARB LEFT BESIDE DOWNWARDS HARPOON WITH BARB RIGHT"),
   (0x296f, "DOWNWARDS HARPOON WITH BARB LEFT BESIDE UPWARDS HARPOON WITH BARB RIGHT"),
   (0x2970, "RIGHT DOUBLE ARROW WITH ROUNDED HEAD;EQUALS SIGN ABOVE RIGHTWARDS ARROW"),
   (0x2972, "TILDE OPERATOR ABOVE RIGHTWARDS ARROW;LEFTWARDS ARROW ABOVE TILDE OPERATOR"),
   (0x2974, "RIGHTWARDS ARROW ABOVE TILDE OPERATOR;RIGHTWARDS ARROW ABOVE ALMOST EQUAL TO"),
   (0x2976, "LESS-THAN ABOVE LEFTWARDS ARROW;LEFTWARDS ARROW THROUGH LESS-THAN"),
   (0x2978, "GREATER-THAN ABOVE RIGHTWARDS ARROW;SUBSET ABOVE RIGHTWARDS ARROW"),
   (0x297a, "LEFTWARDS ARROW THROUGH SUBSET;SUPERSET ABOVE LEFTWARDS ARROW;LEFT FISH TAIL"),
   (0x297d, "RIGHT FISH TAIL;UP FISH TAIL;DOWN FISH TAIL;TRIPLE VERTICAL BAR DELIMITER"),
   (0x2981, "Z NOTATION SPOT;Z NOTATION TYPE COLON;LEFT WHITE CURLY BRACKET"),
   (0x2984, "RIGHT WHITE CURLY BRACKET;LEFT WHITE PARENTHESIS;RIGHT WHITE PARENTHESIS"),
   (0x2987, "Z NOTATION LEFT IMAGE BRACKET;Z NOTATION RIGHT IMAGE BRACKET"),
   (0x2989, "Z NOTATION LEFT BINDING BRACKET;Z NOTATION RIGHT BINDING BRACKET"),
   (0x298b, "LEFT SQUARE BRACKET WITH UNDERBAR;RIGHT SQUARE BRACKET WITH UNDERBAR"),
   (0x298d, "LEFT SQUARE BRACKET WITH TICK IN TOP CORNER"),
   (0x298e, "RIGHT SQUARE BRACKET WITH TICK IN BOTTOM CORNER"),
   (0x298f, "LEFT SQUARE BRACKET WITH TICK IN BOTTOM CORNER"),
   (0x2990, "RIGHT SQUARE BRACKET WITH TICK IN TOP CORNER;LEFT ANGLE BRACKET WITH DOT"),
   (0x2992, "RIGHT ANGLE BRACKET WITH DOT;LEFT ARC LESS-THAN BRACKET"),
   (0x2994, "RIGHT ARC GREATER-THAN BRACKET;DOUBLE LEFT ARC GREATER-THAN BRACKET"),
   (0x2996, "DOUBLE RIGHT ARC LESS-THAN BRACKET;LEFT BLACK TORTOISE SHELL BRACKET"),
   (0x2998, "RIGHT BLACK TORTOISE SHELL BRACKET;DOTTED FENCE;VERTICAL ZIGZAG LINE"),
   (0x299b, "MEASURED ANGLE OPENING LEFT;RIGHT ANGLE VARIANT WITH SQUARE"),
   (0x299d, "MEASURED RIGHT ANGLE WITH DOT;ANGLE WITH S INSIDE;ACUTE ANGLE"),
   (0x29a0, "SPHERICAL ANGLE OPENING LEFT;SPHERICAL ANGLE OPENING UP;TURNED ANGLE"),
   (0x29a3, "REVERSED ANGLE;ANGLE WITH UNDERBAR;REVERSED ANGLE WITH UNDERBAR"),
   (0x29a6, "OBLIQUE ANGLE OPENING UP;OBLIQUE ANGLE OPENING DOWN"),
   (0x29a8, "MEASURED ANGLE WITH OPEN ARM ENDING IN ARROW POINTING UP AND RIGHT"),
   (0x29a9, "MEASURED ANGLE WITH OPEN ARM ENDING IN ARROW POINTING UP AND LEFT"),
   (0x29aa, "MEASURED ANGLE WITH OPEN ARM ENDING IN ARROW POINTING DOWN AND RIGHT"),
   (0x29ab, "MEASURED ANGLE WITH OPEN ARM ENDING IN ARROW POINTING DOWN AND LEFT"),
   (0x29ac, "MEASURED ANGLE WITH OPEN ARM ENDING IN ARROW POINTING RIGHT AND UP"),
   (0x29ad, "MEASURED ANGLE WITH OPEN ARM ENDING IN ARROW POINTING LEFT AND UP"),
   (0x29ae, "MEASURED ANGLE WITH OPEN ARM ENDING IN ARROW POINTING RIGHT AND DOWN"),
   (0x29af, "MEASURED ANGLE WITH OPEN ARM ENDING IN ARROW POINTING LEFT AND DOWN"),
   (0x29b0, "REVERSED EMPTY SET;EMPTY SET WITH OVERBAR;EMPTY SET WITH SMALL CIRCLE ABOVE"),
   (0x29b3, "EMPTY SET WITH RIGHT ARROW ABOVE;EMPTY SET WITH LEFT ARROW ABOVE"),
   (0x29b5, "CIRCLE WITH HORIZONTAL BAR;CIRCLED VERTICAL BAR;CIRCLED PARALLEL"),
   (0x29b8, "CIRCLED REVERSE SOLIDUS;CIRCLED PERPENDICULAR"),
   (0x29ba, "CIRCLE DIVIDED BY HORIZONTAL BAR AND TOP HALF DIVIDED BY VERTICAL BAR"),
   (0x29bb, "CIRCLE WITH SUPERIMPOSED X;CIRCLED ANTICLOCKWISE-ROTATED DIVISION SIGN"),
   (0x29bd, "UP ARROW THROUGH CIRCLE;CIRCLED WHITE BULLET;CIRCLED BULLET;CIRCLED LESS-THAN"),
   (0x29c1, "CIRCLED GREATER-THAN;CIRCLE WITH SMALL CIRCLE TO THE RIGHT"),
   (0x29c3, "CIRCLE WITH TWO HORIZONTAL STROKES TO THE RIGHT;SQUARED RISING DIAGONAL SLASH"),
   (0x29c5, "SQUARED FALLING DIAGONAL SLASH;SQUARED ASTERISK;SQUARED SMALL CIRCLE"),
   (0x29c8, "SQUARED SQUARE;TWO JOINED SQUARES;TRIANGLE WITH DOT ABOVE"),
   (0x29cb, "TRIANGLE WITH UNDERBAR;S IN TRIANGLE;TRIANGLE WITH SERIFS AT BOTTOM"),
   (0x29ce, "RIGHT TRIANGLE ABOVE LEFT TRIANGLE;LEFT TRIANGLE BESIDE VERTICAL BAR"),
   (0x29d0, "VERTICAL BAR BESIDE RIGHT TRIANGLE;BOWTIE WITH LEFT HALF BLACK"),
   (0x29d2, "BOWTIE WITH RIGHT HALF BLACK;BLACK BOWTIE;TIMES WITH LEFT HALF BLACK"),
   (0x29d5, "TIMES WITH RIGHT HALF BLACK;WHITE HOURGLASS;BLACK HOURGLASS;LEFT WIGGLY FENCE"),
   (0x29d9, "RIGHT WIGGLY FENCE;LEFT DOUBLE WIGGLY FENCE;RIGHT DOUBLE WIGGLY FENCE"),
   (0x29dc, "INCOMPLETE INFINITY;TIE OVER INFINITY;INFINITY NEGATED WITH VERTICAL BAR"),
   (0x29df, "DOUBLE-ENDED MULTIMAP;SQUARE WITH CONTOURED OUTLINE;INCREASES AS"),
   (0x29e2, "SHUFFLE PRODUCT;EQUALS SIGN AND SLANTED PARALLEL"),
   (0x29e4, "EQUALS SIGN AND SLANTED PARALLEL WITH TILDE ABOVE"),
   (0x29e5, "IDENTICAL TO AND SLANTED PARALLEL;GLEICH STARK;THERMODYNAMIC"),
   (0x29e8, "DOWN-POINTING TRIANGLE WITH LEFT HALF BLACK"),
   (0x29e9, "DOWN-POINTING TRIANGLE WITH RIGHT HALF BLACK;BLACK DIAMOND WITH DOWN ARROW"),
   (0x29eb, "BLACK LOZENGE;WHITE CIRCLE WITH DOWN ARROW;BLACK CIRCLE WITH DOWN ARROW"),
   (0x29ee, "ERROR-BARRED WHITE SQUARE;ERROR-BARRED BLACK SQUARE;ERROR-BARRED WHITE DIAMOND"),
   (0x29f1, "ERROR-BARRED BLACK DIAMOND;ERROR-BARRED WHITE CIRCLE;ERROR-BARRED BLACK CIRCLE"),
   (0x29f4, "RULE-DELAYED;REVERSE SOLIDUS OPERATOR;SOLIDUS WITH OVERBAR"),
   (0x29f7, "REVERSE SOLIDUS WITH HORIZONTAL STROKE;BIG SOLIDUS;BIG REVERSE SOLIDUS"),
   (0x29fa, "DOUBLE PLUS;TRIPLE PLUS;LEFT-POINTING CURVED ANGLE BRACKET"),
   (0x29fd, "RIGHT-POINTING CURVED ANGLE BRACKET;TINY;MINY;N-ARY CIRCLED DOT OPERATOR")]

/-- Further operators and arrows. -/
def furtherSignNames : List (Nat × String) :=
  [
   (0x2a01, "N-ARY CIRCLED PLUS OPERATOR;N-ARY CIRCLED TIMES OPERATOR"),
   (0x2a03, "N-ARY UNION OPERATOR WITH DOT;N-ARY UNION OPERATOR WITH PLUS"),
   (0x2a05, "N-ARY SQUARE INTERSECTION OPERATOR;N-ARY SQUARE UNION OPERATOR"),
   (0x2a07, "TWO LOGICAL AND OPERATOR;TWO LOGICAL OR OPERATOR;N-ARY TIMES OPERATOR"),
   (0x2a0a, "MODULO TWO SUM;SUMMATION WITH INTEGRAL;QUADRUPLE INTEGRAL OPERATOR"),
   (0x2a0d, "FINITE PART INTEGRAL;INTEGRAL WITH DOUBLE STROKE;INTEGRAL AVERAGE WITH SLASH"),
   (0x2a10, "CIRCULATION FUNCTION;ANTICLOCKWISE INTEGRATION"),
   (0x2a12, "LINE INTEGRATION WITH RECTANGULAR PATH AROUND POLE"),
   (0x2a13, "LINE INTEGRATION WITH SEMICIRCULAR PATH AROUND POLE"),
   (0x2a14, "LINE INTEGRATION NOT INCLUDING THE POLE;INTEGRAL AROUND A POINT OPERATOR"),
   (0x2a16, "QUATERNION INTEGRAL OPERATOR;INTEGRAL WITH LEFTWARDS ARROW WITH HOOK"),
   (0x2a18, "INTEGRAL WITH TIMES SIGN;INTEGRAL WITH INTERSECTION;INTEGRAL WITH UNION"),
   (0x2a1b, "INTEGRAL WITH OVERBAR;INTEGRAL WITH UNDERBAR;JOIN;LARGE LEFT TRIANGLE OPERATOR"),
   (0x2a1f, "Z NOTATION SCHEMA COMPOSITION;Z NOTATION SCHEMA PIPING"),
   (0x2a21, "Z NOTATION SCHEMA PROJECTION;PLUS SIGN WITH SMALL CIRCLE ABOVE"),
   (0x2a23, "PLUS SIGN WITH CIRCUMFLEX ACCENT ABOVE;PLUS SIGN WITH TILDE ABOVE"),
   (0x2a25, "PLUS SIGN WITH DOT BELOW;PLUS SIGN WITH TILDE BELOW"),
   (0x2a27, "PLUS SIGN WITH SUBSCRIPT TWO;PLUS SIGN WITH BLACK TRIANGLE"),
   (0x2a29, "MINUS SIGN WITH COMMA ABOVE;MINUS SIGN WITH DOT BELOW"),
   (0x2a2b, "MINUS SIGN WITH FALLING DOTS;MINUS SIGN WITH RISING DOTS"),
   (0x2a2d, "PLUS SIGN IN LEFT HALF CIRCLE;PLUS SIGN IN RIGHT HALF CIRCLE"),
   (0x2a2f, "VECTOR OR CROSS PRODUCT;MULTIPLICATION SIGN WITH DOT ABOVE"),
   (0x2a31, "MULTIPLICATION SIGN WITH UNDERBAR;SEMIDIRECT PRODUCT WITH BOTTOM CLOSED"),
   (0x2a33, "SMASH PRODUCT;MULTIPLICATION SIGN IN LEFT HALF CIRCLE"),
   (0x2a35, "MULTIPLICATION SIGN IN RIGHT HALF CIRCLE"),
   (0x2a36, "CIRCLED MULTIPLICATION SIGN WITH CIRCUMFLEX ACCENT"),
   (0x2a37, "MULTIPLICATION SIGN IN DOUBLE CIRCLE;CIRCLED DIVISION SIGN"),
   (0x2a39, "PLUS SIGN IN TRIANGLE;MINUS SIGN IN TRIANGLE;MULTIPLICATION SIGN IN TRIANGLE"),
   (0x2a3c, "INTERIOR PRODUCT;RIGHTHAND INTERIOR PRODUCT;Z NOTATION RELATIONAL COMPOSITION"),
   (0x2a3f, "AMALGAMATION OR COPRODUCT;INTERSECTION WITH DOT;UNION WITH MINUS SIGN"),
   (0x2a42, "UNION WITH OVERBAR;INTERSECTION WITH OVERBAR;INTERSECTION WITH LOGICAL AND"),
   (0x2a45, "UNION WITH LOGICAL OR;UNION ABOVE INTERSECTION;INTERSECTION ABOVE UNION"),
   (0x2a48, "UNION ABOVE BAR ABOVE INTERSECTION;INTERSECTION ABOVE BAR ABOVE UNION"),
   (0x2a4a, "UNION BESIDE AND JOINED WITH UNION"),
   (0x2a4b, "INTERSECTION BESIDE AND JOINED WITH INTERSECTION;CLOSED UNION WITH SERIFS"),
   (0x2a4d, "CLOSED INTERSECTION WITH SERIFS;DOUBLE SQUARE INTERSECTION;DOUBLE SQUARE UNION"),
   (0x2a50, "CLOSED UNION WITH SERIFS AND SMASH PRODUCT;LOGICAL AND WITH DOT ABOVE"),
   (0x2a52, "LOGICAL OR WITH DOT ABOVE;DOUBLE LOGICAL AND;DOUBLE LOGICAL OR"),
   (0x2a55, "TWO INTERSECTING LOGICAL AND;TWO INTERSECTING LOGICAL OR;SLOPING LARGE OR"),
   (0x2a58, "SLOPING LARGE AND;LOGICAL OR OVERLAPPING LOGICAL AND"),
   (0x2a5a, "LOGICAL AND WITH MIDDLE STEM;LOGICAL OR WITH MIDDLE STEM"),
   (0x2a5c, "LOGICAL AND WITH HORIZONTAL DASH;LOGICAL OR WITH HORIZONTAL DASH"),
   (0x2a5e, "LOGICAL AND WITH DOUBLE OVERBAR;LOGICAL AND WITH UNDERBAR"),
   (0x2a60, "LOGICAL AND WITH DOUBLE UNDERBAR;SMALL VEE WITH UNDERBAR"),
   (0x2a62, "LOGICAL OR WITH DOUBLE OVERBAR;LOGICAL OR WITH DOUBLE UNDERBAR"),
   (0x2a64, "Z NOTATION DOMAIN ANTIRESTRICTION;Z NOTATION RANGE ANTIRESTRICTION"),
   (0x2a66, "EQUALS SIGN WITH DOT BELOW;IDENTICAL WITH DOT ABOVE"),
   (0x2a68, "TRIPLE HORIZONTAL BAR WITH DOUBLE VERTICAL STROKE"),
   (0x2a69, "TRIPLE HORIZONTAL BAR WITH TRIPLE VERTICAL STROKE"),
   (0x2a6a, "TILDE OPERATOR WITH DOT ABOVE;TILDE OPERATOR WITH RISING DOTS"),
   (0x2a6c, "SIMILAR MINUS SIMILAR;CONGRUENT WITH DOT ABOVE;EQUALS WITH ASTERISK"),
   (0x2a6f, "ALMOST EQUAL TO WITH CIRCUMFLEX ACCENT;APPROXIMATELY EQUAL OR EQUAL TO"),
   (0x2a71, "EQUALS SIGN ABOVE PLUS SIGN;PLUS SIGN ABOVE EQUALS SIGN"),
   (0x2a73, "EQUALS SIGN ABOVE TILDE OPERATOR;DOUBLE COLON EQUAL"),
   (0x2a75, "TWO CONSECUTIVE EQUALS SIGNS;THREE CONSECUTIVE EQUALS SIGNS"),
   (0x2a77, "EQUALS SIGN WITH TWO DOTS ABOVE AND TWO DOTS BELOW"),
   (0x2a78, "EQUIVALENT WITH FOUR DOTS ABOVE;LESS-THAN WITH CIRCLE INSIDE"),
   (0x2a7a, "GREATER-THAN WITH CIRCLE INSIDE;LESS-THAN WITH QUESTION MARK ABOVE"),
   (0x2a7c, "GREATER-THAN WITH QUESTION MARK ABOVE;LESS-THAN OR SLANTED EQUAL TO"),
   (0x2a7e, "GREATER-THAN OR SLANTED EQUAL TO;LESS-THAN OR SLANTED EQUAL TO WITH DOT INSIDE"),
   (0x2a80, "GREATER-THAN OR SLANTED EQUAL TO WITH DOT INSIDE"),
   (0x2a81, "LESS-THAN OR SLANTED EQUAL TO WITH DOT ABOVE"),
   (0x2a82, "GREATER-THAN OR SLANTED EQUAL TO WITH DOT ABOVE"),
   (0x2a83, "LESS-THAN OR SLANTED EQUAL TO WITH DOT ABOVE RIGHT"),
   (0x2a84, "GREATER-THAN OR SLANTED EQUAL TO WITH DOT ABOVE LEFT;LESS-THAN OR APPROXIMATE"),
   (0x2a86, "GREATER-THAN OR APPROXIMATE;LESS-THAN AND SINGLE-LINE NOT EQUAL TO"),
   (0x2a88, "GREATER-THAN AND SINGLE-LINE NOT EQUAL TO;LESS-THAN AND NOT APPROXIMATE"),
   (0x2a8a, "GREATER-THAN AND NOT APPROXIMATE"),
   (0x2a8b, "LESS-THAN ABOVE DOUBLE-LINE EQUAL ABOVE GREATER-THAN"),
   (0x2a8c, "GREATER-THAN ABOVE DOUBLE-LINE EQUAL ABOVE LESS-THAN"),
   (0x2a8d, "LESS-THAN ABOVE SIMILAR OR EQUAL;GREATER-THAN ABOVE SIMILAR OR EQUAL"),
   (0x2a8f, "LESS-THAN ABOVE SIMILAR ABOVE GREATER-THAN"),
   (0x2a90, "GREATER-THAN ABOVE SIMILAR ABOVE LESS-THAN"),
   (0x2a91, "LESS-THAN ABOVE GREATER-THAN ABOVE DOUBLE-LINE EQUAL"),
   (0x2a92, "GREATER-THAN ABOVE LESS-THAN ABOVE DOUBLE-LINE EQUAL"),
   (0x2a93, "LESS-THAN ABOVE SLANTED EQUAL ABOVE GREATER-THAN ABOVE SLANTED EQUAL"),
   (0x2a94, "GREATER-THAN ABOVE SLANTED EQUAL ABOVE LESS-THAN ABOVE SLANTED EQUAL"),
   (0x2a95, "SLANTED EQUAL TO OR LESS-THAN;SLANTED EQUAL TO OR GREATER-THAN"),
   (0x2a97, "SLANTED EQUAL TO OR LESS-THAN WITH DOT INSIDE"),
   (0x2a98, "SLANTED EQUAL TO OR GREATER-THAN WITH DOT INSIDE"),
   (0x2a99, "DOUBLE-LINE EQUAL TO OR LESS-THAN;DOUBLE-LINE EQUAL TO OR GREATER-THAN"),
   (0x2a9b, "DOUBLE-LINE SLANTED EQUAL TO OR LESS-THAN"),
   (0x2a9c, "DOUBLE-LINE SLANTED EQUAL TO OR GREATER-THAN;SIMILAR OR LESS-THAN"),
   (0x2a9e, "SIMILAR OR GREATER-THAN;SIMILAR ABOVE LESS-THAN ABOVE EQUALS SIGN"),
   (0x2aa0, "SIMILAR ABOVE GREATER-THAN ABOVE EQUALS SIGN;DOUBLE NESTED LESS-THAN"),
   (0x2aa2, "DOUBLE NESTED GREATER-THAN;DOUBLE NESTED LESS-THAN WITH UNDERBAR"),
   (0x2aa4, "GREATER-THAN OVERLAPPING LESS-THAN;GREATER-THAN BESIDE LESS-THAN"),
   (0x2aa6, "LESS-THAN CLOSED BY CURVE;GREATER-THAN CLOSED BY CURVE"),
   (0x2aa8, "LESS-THAN CLOSED BY CURVE ABOVE SLANTED EQUAL"),
   (0x2aa9, "GREATER-THAN CLOSED BY CURVE ABOVE SLANTED EQUAL;SMALLER THAN;LARGER THAN"),
   (0x2aac, "SMALLER THAN OR EQUAL TO;LARGER THAN OR EQUAL TO;EQUALS SIGN WITH BUMPY ABOVE"),
   (0x2aaf, "PRECEDES ABOVE SINGLE-LINE EQUALS SIGN;SUCCEEDS ABOVE SINGLE-LINE EQUALS SIGN"),
   (0x2ab1, "PRECEDES ABOVE SINGLE-LINE NOT EQUAL TO"),
   (0x2ab2, "SUCCEEDS ABOVE SINGLE-LINE NOT EQUAL TO;PRECEDES ABOVE EQUALS SIGN"),
   (0x2ab4, "SUCCEEDS ABOVE EQUALS SIGN;PRECEDES ABOVE NOT EQUAL TO"),
   (0x2ab6, "SUCCEEDS ABOVE NOT EQUAL TO;PRECEDES ABOVE ALMOST EQUAL TO"),
   (0x2ab8, "SUCCEEDS ABOVE ALMOST EQUAL TO;PRECEDES ABOVE NOT ALMOST EQUAL TO"),
   (0x2aba, "SUCCEEDS ABOVE NOT ALMOST EQUAL TO;DOUBLE PRECEDES;DOUBLE SUCCEEDS"),
   (0x2abd, "SUBSET WITH DOT;SUPERSET WITH DOT;SUBSET WITH PLUS SIGN BELOW"),
   (0x2ac0, "SUPERSET WITH PLUS SIGN BELOW;SUBSET WITH MULTIPLICATION SIGN BELOW"),
   (0x2ac2, "SUPERSET WITH MULTIPLICATION SIGN BELOW;SUBSET OF OR EQUAL TO WITH DOT ABOVE"),
   (0x2ac4, "SUPERSET OF OR EQUAL TO WITH DOT ABOVE;SUBSET OF ABOVE EQUALS SIGN"),
   (0x2ac6, "SUPERSET OF ABOVE EQUALS SIGN;SUBSET OF ABOVE TILDE OPERATOR"),
   (0x2ac8, "SUPERSET OF ABOVE TILDE OPERATOR;SUBSET OF ABOVE ALMOST EQUAL TO"),
   (0x2aca, "SUPERSET OF ABOVE ALMOST EQUAL TO;SUBSET OF ABOVE NOT EQUAL TO"),
   (0x2acc, "SUPERSET OF ABOVE NOT EQUAL TO;SQUARE LEFT OPEN BOX OPERATOR"),
   (0x2ace, "SQUARE RIGHT OPEN BOX OPERATOR;CLOSED SUBSET;CLOSED SUPERSET"),
   (0x2ad1, "CLOSED SUBSET OR EQUAL TO;CLOSED SUPERSET OR EQUAL TO;SUBSET ABOVE SUPERSET"),
   (0x2ad4, "SUPERSET ABOVE SUBSET;SUBSET ABOVE SUBSET;SUPERSET ABOVE SUPERSET"),
   (0x2ad7, "SUPERSET BESIDE SUBSET;SUPERSET BESIDE AND JOINED BY DASH WITH SUBSET"),
   (0x2ad9, "ELEMENT OF OPENING DOWNWARDS;PITCHFORK WITH TEE TOP;TRANSVERSAL INTERSECTION"),
   (0x2adc, "FORKING;NONFORKING;SHORT LEFT TACK;SHORT DOWN TACK;SHORT UP TACK"),
   (0x2ae1, "PERPENDICULAR WITH S;VERTICAL BAR TRIPLE RIGHT TURNSTILE"),
   (0x2ae3, "DOUBLE VERTICAL BAR LEFT TURNSTILE;VERTICAL BAR DOUBLE LEFT TURNSTILE"),
   (0x2ae5, "DOUBLE VERTICAL BAR DOUBLE LEFT TURNSTILE"),
   (0x2ae6, "LONG DASH FROM LEFT MEMBER OF DOUBLE VERTICAL;SHORT DOWN TACK WITH OVERBAR"),
   (0x2ae8, "SHORT UP TACK WITH UNDERBAR;SHORT UP TACK ABOVE SHORT DOWN TACK"),
   (0x2aea, "DOUBLE DOWN TACK;DOUBLE UP TACK;DOUBLE STROKE NOT SIGN"),
   (0x2aed, "REVERSED DOUBLE STROKE NOT SIGN;DOES NOT DIVIDE WITH REVERSED NEGATION SLASH"),
   (0x2aef, "VERTICAL LINE WITH CIRCLE ABOVE;VERTICAL LINE WITH CIRCLE BELOW"),
   (0x2af1, "DOWN TACK WITH CIRCLE BELOW;PARALLEL WITH HORIZONTAL STROKE"),
   (0x2af3, "PARALLEL WITH TILDE OPERATOR;TRIPLE VERTICAL BAR BINARY RELATION"),
   (0x2af5, "TRIPLE VERTICAL BAR WITH HORIZONTAL STROKE;TRIPLE COLON OPERATOR"),
   (0x2af7, "TRIPLE NESTED LESS-THAN;TRIPLE NESTED GREATER-THAN"),
   (0x2af9, "DOUBLE-LINE SLANTED LESS-THAN OR EQUAL TO"),
   (0x2afa, "DOUBLE-LINE SLANTED GREATER-THAN OR EQUAL TO;TRIPLE SOLIDUS BINARY RELATION"),
   (0x2afc, "LARGE TRIPLE VERTICAL BAR OPERATOR;DOUBLE SOLIDUS OPERATOR;WHITE VERTICAL BAR"),
   (0x2aff, "N-ARY WHITE VERTICAL BAR;NORTH EAST WHITE ARROW;NORTH WEST WHITE ARROW"),
   (0x2b02, "SOUTH EAST WHITE ARROW;SOUTH WEST WHITE ARROW;LEFT RIGHT WHITE ARROW"),
   (0x2b05, "LEFTWARDS BLACK ARROW;UPWARDS BLACK ARROW;DOWNWARDS BLACK ARROW"),
   (0x2b08, "NORTH EAST BLACK ARROW;NORTH WEST BLACK ARROW;SOUTH EAST BLACK ARROW"),
   (0x2b0b, "SOUTH WEST BLACK ARROW;LEFT RIGHT BLACK ARROW;UP DOWN BLACK ARROW"),
   (0x2b0e, "RIGHTWARDS ARROW WITH TIP DOWNWARDS;RIGHTWARDS ARROW WITH TIP UPWARDS"),
   (0x2b10, "LEFTWARDS ARROW WITH TIP DOWNWARDS;LEFTWARDS ARROW WITH TIP UPWARDS"),
   (0x2b12, "SQUARE WITH TOP HALF BLACK;SQUARE WITH BOTTOM HALF BLACK"),
   (0x2b14, "SQUARE WITH UPPER RIGHT DIAGONAL HALF BLACK"),
   (0x2b15, "SQUARE WITH LOWER LEFT DIAGONAL HALF BLACK;DIAMOND WITH LEFT HALF BLACK"),
   (0x2b17, "DIAMOND WITH RIGHT HALF BLACK;DIAMOND WITH TOP HALF BLACK"),
   (0x2b19, "DIAMOND WITH BOTTOM HALF BLACK;DOTTED SQUARE;BLACK LARGE SQUARE"),
   (0x2b1c, "WHITE LARGE SQUARE;BLACK VERY SMALL SQUARE;WHITE VERY SMALL SQUARE"),
   (0x2b1f, "BLACK PENTAGON;WHITE PENTAGON;WHITE HEXAGON;BLACK HEXAGON"),
   (0x2b23, "HORIZONTAL BLACK HEXAGON;BLACK LARGE CIRCLE;BLACK MEDIUM DIAMOND"),
   (0x2b26, "WHITE MEDIUM DIAMOND;BLACK MEDIUM LOZENGE;WHITE MEDIUM LOZENGE"),
   (0x2b29, "BLACK SMALL DIAMOND;BLACK SMALL LOZENGE;WHITE SMALL LOZENGE"),
   (0x2b2c, "BLACK HORIZONTAL ELLIPSE;WHITE HORIZONTAL ELLIPSE;BLACK VERTICAL ELLIPSE"),
   (0x2b2f, "WHITE VERTICAL ELLIPSE;LEFT ARROW WITH SMALL CIRCLE;THREE LEFTWARDS ARROWS"),
   (0x2b32, "LEFT ARROW WITH CIRCLED PLUS;LONG LEFTWARDS SQUIGGLE ARROW"),
   (0x2b34, "LEFTWARDS TWO-HEADED ARROW WITH VERTICAL STROKE"),
   (0x2b35, "LEFTWARDS TWO-HEADED ARROW WITH DOUBLE VERTICAL STROKE"),
   (0x2b36, "LEFTWARDS TWO-HEADED ARROW FROM BAR;LEFTWARDS TWO-HEADED TRIPLE DASH ARROW"),
   (0x2b38, "LEFTWARDS ARROW WITH DOTTED STEM"),
   (0x2b39, "LEFTWARDS ARROW WITH TAIL WITH VERTICAL STROKE"),
   (0x2b3a, "LEFTWARDS ARROW WITH TAIL WITH DOUBLE VERTICAL STROKE"),
   (0x2b3b, "LEFTWARDS TWO-HEADED ARROW WITH TAIL"),
   (0x2b3c, "LEFTWARDS TWO-HEADED ARROW WITH TAIL WITH VERTICAL STROKE"),
   (0x2b3d, "LEFTWARDS TWO-HEADED ARROW WITH TAIL WITH DOUBLE VERTICAL STROKE"),
   (0x2b3e, "LEFTWARDS ARROW THROUGH X;WAVE ARROW POINTING DIRECTLY LEFT"),
   (0x2b40, "EQUALS SIGN ABOVE LEFTWARDS ARROW;REVERSE TILDE OPERATOR ABOVE LEFTWARDS ARROW"),
   (0x2b42, "LEFTWARDS ARROW ABOVE REVERSE ALMOST EQUAL TO"),
   (0x2b43, "RIGHTWARDS ARROW THROUGH GREATER-THAN;RIGHTWARDS ARROW THROUGH SUPERSET"),
   (0x2b45, "LEFTWARDS QUADRUPLE ARROW;RIGHTWARDS QUADRUPLE ARROW"),
   (0x2b47, "REVERSE TILDE OPERATOR ABOVE RIGHTWARDS ARROW"),
   (0x2b48, "RIGHTWARDS ARROW ABOVE REVERSE ALMOST EQUAL TO"),
   (0x2b49, "TILDE OPERATOR ABOVE LEFTWARDS ARROW;LEFTWARDS ARROW ABOVE ALMOST EQUAL TO"),
   (0x2b4b, "LEFTWARDS ARROW ABOVE REVERSE TILDE OPERATOR"),
   (0x2b4c, "RIGHTWARDS ARROW ABOVE REVERSE TILDE OPERATOR"),
   (0x2b4d, "DOWNWARDS TRIANGLE-HEADED ZIGZAG ARROW;SHORT SLANTED NORTH ARROW"),
   (0x2b4f, "SHORT BACKSLANTED SOUTH ARROW;WHITE MEDIUM STAR;BLACK SMALL STAR"),
   (0x2b52, "WHITE SMALL STAR;BLACK RIGHT-POINTING PENTAGON;WHITE RIGHT-POINTING PENTAGON"),
   (0x2b55, "HEAVY LARGE CIRCLE;HEAVY OVAL WITH OVAL INSIDE;HEAVY CIRCLE WITH CIRCLE INSIDE"),
   (0x2b58, "HEAVY CIRCLE;HEAVY CIRCLED SALTIRE;SLANTED NORTH ARROW WITH HOOKED HEAD"),
   (0x2b5b, "BACKSLANTED SOUTH ARROW WITH HOOKED TAIL"),
   (0x2b5c, "SLANTED NORTH ARROW WITH HORIZONTAL TAIL"),
   (0x2b5d, "BACKSLANTED SOUTH ARROW WITH HORIZONTAL TAIL"),
   (0x2b5e, "BENT ARROW POINTING DOWNWARDS THEN NORTH EAST"),
   (0x2b5f, "SHORT BENT ARROW POINTING DOWNWARDS THEN NORTH EAST"),
   (0x2b60, "LEFTWARDS TRIANGLE-HEADED ARROW;UPWARDS TRIANGLE-HEADED ARROW"),
   (0x2b62, "RIGHTWARDS TRIANGLE-HEADED ARROW;DOWNWARDS TRIANGLE-HEADED ARROW"),
   (0x2b64, "LEFT RIGHT TRIANGLE-HEADED ARROW;UP DOWN TRIANGLE-HEADED ARROW"),
   (0x2b66, "NORTH WEST TRIANGLE-HEADED ARROW;NORTH EAST TRIANGLE-HEADED ARROW"),
   (0x2b68, "SOUTH EAST TRIANGLE-HEADED ARROW;SOUTH WEST TRIANGLE-HEADED ARROW"),
   (0x2b6a, "LEFTWARDS TRIANGLE-HEADED DASHED ARROW;UPWARDS TRIANGLE-HEADED DASHED ARROW"),
   (0x2b6c, "RIGHTWARDS TRIANGLE-HEADED DASHED ARROW;DOWNWARDS TRIANGLE-HEADED DASHED ARROW"),
   (0x2b6e, "CLOCKWISE TRIANGLE-HEADED OPEN CIRCLE ARROW"),
   (0x2b6f, "ANTICLOCKWISE TRIANGLE-HEADED OPEN CIRCLE ARROW"),
   (0x2b70, "LEFTWARDS TRIANGLE-HEADED ARROW TO BAR;UPWARDS TRIANGLE-HEADED ARROW TO BAR"),
   (0x2b72, "RIGHTWARDS TRIANGLE-HEADED ARROW TO BAR;DOWNWARDS TRIANGLE-HEADED ARROW TO BAR"),
   (0x2b76, "NORTH WEST TRIANGLE-HEADED ARROW TO BAR"),
   (0x2b77, "NORTH EAST TRIANGLE-HEADED ARROW TO BAR"),
   (0x2b78, "SOUTH EAST TRIANGLE-HEADED ARROW TO BAR"),
   (0x2b79, "SOUTH WEST TRIANGLE-HEADED ARROW TO BAR"),
   (0x2b7a, "LEFTWARDS TRIANGLE-HEADED ARROW WITH DOUBLE HORIZONTAL STROKE"),
   (0x2b7b, "UPWARDS TRIANGLE-HEADED ARROW WITH DOUBLE HORIZONTAL STROKE"),
   (0x2b7c, "RIGHTWARDS TRIANGLE-HEADED ARROW WITH DOUBLE HORIZONTAL STROKE"),
   (0x2b7d, "DOWNWARDS TRIANGLE-HEADED ARROW WITH DOUBLE HORIZONTAL STROKE"),
   (0x2b7e, "HORIZONTAL TAB KEY;VERTICAL TAB KEY"),
   (0x2b80, "LEFTWARDS TRIANGLE-HEADED ARROW OVER RIGHTWARDS TRIANGLE-HEADED ARROW"),
   (0x2b81, "UPWARDS TRIANGLE-HEADED ARROW LEFTWARDS OF DOWNWARDS TRIANGLE-HEADED ARROW"),
   (0x2b82, "RIGHTWARDS TRIANGLE-HEADED ARROW OVER LEFTWARDS TRIANGLE-HEADED ARROW"),
   (0x2b83, "DOWNWARDS TRIANGLE-HEADED ARROW LEFTWARDS OF UPWARDS TRIANGLE-HEADED ARROW"),
   (0x2b84, "LEFTWARDS TRIANGLE-HEADED PAIRED ARROWS;UPWARDS TRIANGLE-HEADED PAIRED ARROWS"),
   (0x2b86, "RIGHTWARDS TRIANGLE-HEADED PAIRED ARROWS"),
   (0x2b87, "DOWNWARDS TRIANGLE-HEADED PAIRED ARROWS;LEFTWARDS BLACK CIRCLED WHITE ARROW"),
   (0x2b89, "UPWARDS BLACK CIRCLED WHITE ARROW;RIGHTWARDS BLACK CIRCLED WHITE ARROW"),
   (0x2b8b, "DOWNWARDS BLACK CIRCLED WHITE ARROW"),
   (0x2b8c, "ANTICLOCKWISE TRIANGLE-HEADED RIGHT U-SHAPED ARROW"),
   (0x2b8d, "ANTICLOCKWISE TRIANGLE-HEADED BOTTOM U-SHAPED ARROW"),
   (0x2b8e, "ANTICLOCKWISE TRIANGLE-HEADED LEFT U-SHAPED ARROW"),
   (0x2b8f, "ANTICLOCKWISE TRIANGLE-HEADED TOP U-SHAPED ARROW;RETURN LEFT;RETURN RIGHT"),
   (0x2b92, "NEWLINE LEFT;NEWLINE RIGHT;FOUR CORNER ARROWS CIRCLING ANTICLOCKWISE"),
   (0x2b95, "RIGHTWARDS BLACK ARROW"),
   (0x2b97, "SYMBOL FOR TYPE A ELECTRONICS"),
   (0x2b98, "THREE-D TOP-LIGHTED LEFTWARDS EQUILATERAL ARROWHEAD"),
   (0x2b99, "THREE-D RIGHT-LIGHTED UPWARDS EQUILATERAL ARROWHEAD"),
   (0x2b9a, "THREE-D TOP-LIGHTED RIGHTWARDS EQUILATERAL ARROWHEAD"),
   (0x2b9b, "THREE-D LEFT-LIGHTED DOWNWARDS EQUILATERAL ARROWHEAD"),
   (0x2b9c, "BLACK LEFTWARDS EQUILATERAL ARROWHEAD;BLACK UPWARDS EQUILATERAL ARROWHEAD"),
   (0x2b9e, "BLACK RIGHTWARDS EQUILATERAL ARROWHEAD;BLACK DOWNWARDS EQUILATERAL ARROWHEAD"),
   (0x2ba0, "DOWNWARDS TRIANGLE-HEADED ARROW WITH LONG TIP LEFTWARDS"),
   (0x2ba1, "DOWNWARDS TRIANGLE-HEADED ARROW WITH LONG TIP RIGHTWARDS"),
   (0x2ba2, "UPWARDS TRIANGLE-HEADED ARROW WITH LONG TIP LEFTWARDS"),
   (0x2ba3, "UPWARDS TRIANGLE-HEADED ARROW WITH LONG TIP RIGHTWARDS"),
   (0x2ba4, "LEFTWARDS TRIANGLE-HEADED ARROW WITH LONG TIP UPWARDS"),
   (0x2ba5, "RIGHTWARDS TRIANGLE-HEADED ARROW WITH LONG TIP UPWARDS"),
   (0x2ba6, "LEFTWARDS TRIANGLE-HEADED ARROW WITH LONG TIP DOWNWARDS"),
   (0x2ba7, "RIGHTWARDS TRIANGLE-HEADED ARROW WITH LONG TIP DOWNWARDS"),
   (0x2ba8, "BLACK CURVED DOWNWARDS AND LEFTWARDS ARROW"),
   (0x2ba9, "BLACK CURVED DOWNWARDS AND RIGHTWARDS ARROW"),
   (0x2baa, "BLACK CURVED UPWARDS AND LEFTWARDS ARROW"),
   (0x2bab, "BLACK CURVED UPWARDS AND RIGHTWARDS ARROW"),
   (0x2bac, "BLACK CURVED LEFTWARDS AND UPWARDS ARROW"),
   (0x2bad, "BLACK CURVED RIGHTWARDS AND UPWARDS ARROW"),
   (0x2bae, "BLACK CURVED LEFTWARDS AND DOWNWARDS ARROW"),
   (0x2baf, "BLACK CURVED RIGHTWARDS AND DOWNWARDS ARROW;RIBBON ARROW DOWN LEFT"),
   (0x2bb1, "RIBBON ARROW DOWN RIGHT;RIBBON ARROW UP LEFT;RIBBON ARROW UP RIGHT"),
   (0x2bb4, "RIBBON ARROW LEFT UP;RIBBON ARROW RIGHT UP;RIBBON ARROW LEFT DOWN"),
   (0x2bb7, "RIBBON ARROW RIGHT DOWN;UPWARDS WHITE ARROW FROM BAR WITH HORIZONTAL BAR"),
   (0x2bb9, "UP ARROWHEAD IN A RECTANGLE BOX;OVERLAPPING WHITE SQUARES"),
   (0x2bbb, "OVERLAPPING WHITE AND BLACK SQUARES;OVERLAPPING BLACK SQUARES"),
   (0x2bbd, "BALLOT BOX WITH LIGHT X;CIRCLED X;CIRCLED BOLD X;BLACK SQUARE CENTRED"),
   (0x2bc1, "BLACK DIAMOND CENTRED;TURNED BLACK PENTAGON;HORIZONTAL BLACK OCTAGON"),
   (0x2bc4, "BLACK OCTAGON;BLACK MEDIUM UP-POINTING TRIANGLE CENTRED"),
   (0x2bc6, "BLACK MEDIUM DOWN-POINTING TRIANGLE CENTRED"),
   (0x2bc7, "BLACK MEDIUM LEFT-POINTING TRIANGLE CENTRED"),
   (0x2bc8, "BLACK MEDIUM RIGHT-POINTING TRIANGLE CENTRED;NEPTUNE FORM TWO"),
   (0x2bca, "TOP HALF BLACK CIRCLE;BOTTOM HALF BLACK CIRCLE;LIGHT FOUR POINTED BLACK CUSP"),
   (0x2bcd, "ROTATED LIGHT FOUR POINTED BLACK CUSP;WHITE FOUR POINTED CUSP"),
   (0x2bcf, "ROTATED WHITE FOUR POINTED CUSP;SQUARE POSITION INDICATOR;UNCERTAINTY SIGN"),
   (0x2bd2, "GROUP MARK;PLUTO FORM TWO;PLUTO FORM THREE;PLUTO FORM FOUR;PLUTO FORM FIVE"),
   (0x2bd7, "TRANSPLUTO;PROSERPINA;ASTRAEA;HYGIEA;PHOLUS;NESSUS;WHITE MOON SELENA"),
   (0x2bde, "BLACK DIAMOND ON CROSS;TRUE LIGHT MOON ARTA;CUPIDO;HADES;ZEUS;KRONOS;APOLLON"),
   (0x2be5, "ADMETOS;VULCANUS;POSEIDON;LEFT HALF BLACK STAR;RIGHT HALF BLACK STAR"),
   (0x2bea, "STAR WITH LEFT HALF BLACK;STAR WITH RIGHT HALF BLACK"),
   (0x2bec, "LEFTWARDS TWO-HEADED ARROW WITH TRIANGLE ARROWHEADS"),
   (0x2bed, "UPWARDS TWO-HEADED ARROW WITH TRIANGLE ARROWHEADS"),
   (0x2bee, "RIGHTWARDS TWO-HEADED ARROW WITH TRIANGLE ARROWHEADS"),
   (0x2bef, "DOWNWARDS TWO-HEADED ARROW WITH TRIANGLE ARROWHEADS;ERIS FORM ONE"),
   (0x2bf1, "ERIS FORM TWO;SEDNA;RUSSIAN ASTROLOGICAL SYMBOL VIGINTILE"),
   (0x2bf4, "RUSSIAN ASTROLOGICAL SYMBOL NOVILE;RUSSIAN ASTROLOGICAL SYMBOL QUINTILE"),
   (0x2bf6, "RUSSIAN ASTROLOGICAL SYMBOL BINOVILE;RUSSIAN ASTROLOGICAL SYMBOL SENTAGON"),
   (0x2bf8, "RUSSIAN ASTROLOGICAL SYMBOL TREDECILE;EQUALS SIGN WITH INFINITY BELOW"),
   (0x2bfa, "UNITED SYMBOL;SEPARATED SYMBOL;DOUBLED SYMBOL;PASSED SYMBOL"),
   (0x2bfe, "REVERSED RIGHT ANGLE;HELLSCHREIBER PAUSE SYMBOL")]

/-- Kana and signs for ideographic texts. -/
def kanaNames : List (Nat × String) :=
  [
   (0x3000, "IDEOGRAPHIC SPACE;IDEOGRAPHIC COMMA;IDEOGRAPHIC FULL STOP;DITTO MARK"),
   (0x3004, "JAPANESE INDUSTRIAL STANDARD SYMBOL;IDEOGRAPHIC ITERATION MARK"),
   (0x3006, "IDEOGRAPHIC CLOSING MARK;IDEOGRAPHIC NUMBER ZERO;LEFT ANGLE BRACKET"),
   (0x3009, "RIGHT ANGLE BRACKET;LEFT DOUBLE ANGLE BRACKET;RIGHT DOUBLE ANGLE BRACKET"),
   (0x300c, "LEFT CORNER BRACKET;RIGHT CORNER BRACKET;LEFT WHITE CORNER BRACKET"),
   (0x300f, "RIGHT WHITE CORNER BRACKET;LEFT BLACK LENTICULAR BRACKET"),
   (0x3011, "RIGHT BLACK LENTICULAR BRACKET;POSTAL MARK;GETA MARK"),
   (0x3014, "LEFT TORTOISE SHELL BRACKET;RIGHT TORTOISE SHELL BRACKET"),
   (0x3016, "LEFT WHITE LENTICULAR BRACKET;RIGHT WHITE LENTICULAR BRACKET"),
   (0x3018, "LEFT WHITE TORTOISE SHELL BRACKET;RIGHT WHITE TORTOISE SHELL BRACKET"),
   (0x301a, "LEFT WHITE SQUARE BRACKET;RIGHT WHITE SQUARE BRACKET;WAVE DASH"),
   (0x301d, "REVERSED DOUBLE PRIME QUOTATION MARK;DOUBLE PRIME QUOTATION MARK"),
   (0x301f, "LOW DOUBLE PRIME QUOTATION MARK;POSTAL MARK FACE;HANGZHOU NUMERAL ONE"),
   (0x3022, "HANGZHOU NUMERAL TWO;HANGZHOU NUMERAL THREE;HANGZHOU NUMERAL FOUR"),
   (0x3025, "HANGZHOU NUMERAL FIVE;HANGZHOU NUMERAL SIX;HANGZHOU NUMERAL SEVEN"),
   (0x3028, "HANGZHOU NUMERAL EIGHT;HANGZHOU NUMERAL NINE;IDEOGRAPHIC LEVEL TONE MARK"),
   (0x302b, "IDEOGRAPHIC RISING TONE MARK;IDEOGRAPHIC DEPARTING TONE MARK"),
   (0x302d, "IDEOGRAPHIC ENTERING TONE MARK;HANGUL SINGLE DOT TONE MARK"),
   (0x302f, "HANGUL DOUBLE DOT TONE MARK;WAVY DASH;VERTICAL KANA REPEAT MARK"),
   (0x3032, "VERTICAL KANA REPEAT WITH VOICED SOUND MARK"),
   (0x3033, "VERTICAL KANA REPEAT MARK UPPER HALF"),
   (0x3034, "VERTICAL KANA REPEAT WITH VOICED SOUND MARK UPPER HALF"),
   (0x3035, "VERTICAL KANA REPEAT MARK LOWER HALF;CIRCLED POSTAL MARK"),
   (0x3037, "IDEOGRAPHIC TELEGRAPH LINE FEED SEPARATOR SYMBOL;HANGZHOU NUMERAL TEN"),
   (0x3039, "HANGZHOU NUMERAL TWENTY;HANGZHOU NUMERAL THIRTY"),
   (0x303b, "VERTICAL IDEOGRAPHIC ITERATION MARK;MASU MARK;PART ALTERNATION MARK"),
   (0x303e, "IDEOGRAPHIC VARIATION INDICATOR;IDEOGRAPHIC HALF FILL SPACE"),
   (0x3041, "HIRAGANA LETTER SMALL A;HIRAGANA LETTER A;HIRAGANA LETTER SMALL I"),
   (0x3044, "HIRAGANA LETTER I;HIRAGANA LETTER SMALL U;HIRAGANA LETTER U"),
   (0x3047, "HIRAGANA LETTER SMALL E;HIRAGANA LETTER E;HIRAGANA LETTER SMALL O"),
   (0x304a, "HIRAGANA LETTER O;HIRAGANA LETTER KA;HIRAGANA LETTER GA;HIRAGANA LETTER KI"),
   (0x304e, "HIRAGANA LETTER GI;HIRAGANA LETTER KU;HIRAGANA LETTER GU;HIRAGANA LETTER KE"),
   (0x3052, "HIRAGANA LETTER GE;HIRAGANA LETTER KO;HIRAGANA LETTER GO;HIRAGANA LETTER SA"),
   (0x3056, "HIRAGANA LETTER ZA;HIRAGANA LETTER SI;HIRAGANA LETTER ZI;HIRAGANA LETTER SU"),
   (0x305a, "HIRAGANA LETTER ZU;HIRAGANA LETTER SE;HIRAGANA LETTER ZE;HIRAGANA LETTER SO"),
   (0x305e, "HIRAGANA LETTER ZO;HIRAGANA LETTER TA;HIRAGANA LETTER DA;HIRAGANA LETTER TI"),
   (0x3062, "HIRAGANA LETTER DI;HIRAGANA LETTER SMALL TU;HIRAGANA LETTER TU"),
   (0x3065, "HIRAGANA LETTER DU;HIRAGANA LETTER TE;HIRAGANA LETTER DE;HIRAGANA LETTER TO"),
   (0x3069, "HIRAGANA LETTER DO;HIRAGANA LETTER NA;HIRAGANA LETTER NI;HIRAGANA LETTER NU"),
   (0x306d, "HIRAGANA LETTER NE;HIRAGANA LETTER NO;HIRAGANA LETTER HA;HIRAGANA LETTER BA"),
   (0x3071, "HIRAGANA LETTER PA;HIRAGANA LETTER HI;HIRAGANA LETTER BI;HIRAGANA LETTER PI"),
   (0x3075, "HIRAGANA LETTER HU;HIRAGANA LETTER BU;HIRAGANA LETTER PU;HIRAGANA LETTER HE"),
   (0x3079, "HIRAGANA LETTER BE;HIRAGANA LETTER PE;HIRAGANA LETTER HO;HIRAGANA LETTER BO"),
   (0x307d, "HIRAGANA LETTER PO;HIRAGANA LETTER MA;HIRAGANA LETTER MI;HIRAGANA LETTER MU"),
   (0x3081, "HIRAGANA LETTER ME;HIRAGANA LETTER MO;HIRAGANA LETTER SMALL YA"),
   (0x3084, "HIRAGANA LETTER YA;HIRAGANA LETTER SMALL YU;HIRAGANA LETTER YU"),
   (0x3087, "HIRAGANA LETTER SMALL YO;HIRAGANA LETTER YO;HIRAGANA LETTER RA"),
   (0x308a, "HIRAGANA LETTER RI;HIRAGANA LETTER RU;HIRAGANA LETTER RE;HIRAGANA LETTER RO"),
   (0x308e, "HIRAGANA LETTER SMALL WA;HIRAGANA LETTER WA;HIRAGANA LETTER WI"),
   (0x3091, "HIRAGANA LETTER WE;HIRAGANA LETTER WO;HIRAGANA LETTER N;HIRAGANA LETTER VU"),
   (0x3095, "HIRAGANA LETTER SMALL KA;HIRAGANA LETTER SMALL KE"),
   (0x3099, "COMBINING KATAKANA-HIRAGANA VOICED SOUND MARK"),
   (0x309a, "COMBINING KATAKANA-HIRAGANA SEMI-VOICED SOUND MARK"),
   (0x309b, "KATAKANA-HIRAGANA VOICED SOUND MARK;KATAKANA-HIRAGANA SEMI-VOICED SOUND MARK"),
   (0x309d, "HIRAGANA ITERATION MARK;HIRAGANA VOICED ITERATION MARK;HIRAGANA DIGRAPH YORI"),
   (0x30a0, "KATAKANA-HIRAGANA DOUBLE HYPHEN;KATAKANA LETTER SMALL A;KATAKANA LETTER A"),
   (0x30a3, "KATAKANA LETTER SMALL I;KATAKANA LETTER I;KATAKANA LETTER SMALL U"),
   (0x30a6, "KATAKANA LETTER U;KATAKANA LETTER SMALL E;KATAKANA LETTER E"),
   (0x30a9, "KATAKANA LETTER SMALL O;KATAKANA LETTER O;KATAKANA LETTER KA"),
   (0x30ac, "KATAKANA LETTER GA;KATAKANA LETTER KI;KATAKANA LETTER GI;KATAKANA LETTER KU"),
   (0x30b0, "KATAKANA LETTER GU;KATAKANA LETTER KE;KATAKANA LETTER GE;KATAKANA LETTER KO"),
   (0x30b4, "KATAKANA LETTER GO;KATAKANA LETTER SA;KATAKANA LETTER ZA;KATAKANA LETTER SI"),
   (0x30b8, "KATAKANA LETTER ZI;KATAKANA LETTER SU;KATAKANA LETTER ZU;KATAKANA LETTER SE"),
   (0x30bc, "KATAKANA LETTER ZE;KATAKANA LETTER SO;KATAKANA LETTER ZO;KATAKANA LETTER TA"),
   (0x30c0, "KATAKANA LETTER DA;KATAKANA LETTER TI;KATAKANA LETTER DI"),
   (0x30c3, "KATAKANA LETTER SMALL TU;KATAKANA LETTER TU;KATAKANA LETTER DU"),
   (0x30c6, "KATAKANA LETTER TE;KATAKANA LETTER DE;KATAKANA LETTER TO;KATAKANA LETTER DO"),
   (0x30ca, "KATAKANA LETTER NA;KATAKANA LETTER NI;KATAKANA LETTER NU;KATAKANA LETTER NE"),
   (0x30ce, "KATAKANA LETTER NO;KATAKANA LETTER HA;KATAKANA LETTER BA;KATAKANA LETTER PA"),
   (0x30d2, "KATAKANA LETTER HI;KATAKANA LETTER BI;KATAKANA LETTER PI;KATAKANA LETTER HU"),
   (0x30d6, "KATAKANA LETTER BU;KATAKANA LETTER PU;KATAKANA LETTER HE;KATAKANA LETTER BE"),
   (0x30da, "KATAKANA LETTER PE;KATAKANA LETTER HO;KATAKANA LETTER BO;KATAKANA LETTER PO"),
   (0x30de, "KATAKANA LETTER MA;KATAKANA LETTER MI;KATAKANA LETTER MU;KATAKANA LETTER ME"),
   (0x30e2, "KATAKANA LETTER MO;KATAKANA LETTER SMALL YA;KATAKANA LETTER YA"),
   (0x30e5, "KATAKANA LETTER SMALL YU;KATAKANA LETTER YU;KATAKANA LETTER SMALL YO"),
   (0x30e8, "KATAKANA LETTER YO;KATAKANA LETTER RA;KATAKANA LETTER RI;KATAKANA LETTER RU"),
   (0x30ec, "KATAKANA LETTER RE;KATAKANA LETTER RO;KATAKANA LETTER SMALL WA"),
   (0x30ef, "KATAKANA LETTER WA;KATAKANA LETTER WI;KATAKANA LETTER WE;KATAKANA LETTER WO"),
   (0x30f3, "KATAKANA LETTER N;KATAKANA LETTER VU;KATAKANA LETTER SMALL KA"),
   (0x30f6, "KATAKANA LETTER SMALL KE;KATAKANA LETTER VA;KATAKANA LETTER VI"),
   (0x30f9, "KATAKANA LETTER VE;KATAKANA LETTER VO;KATAKANA MIDDLE DOT"),
   (0x30fc, "KATAKANA-HIRAGANA PROLONGED SOUND MARK;KATAKANA ITERATION MARK"),
   (0x30fe, "KATAKANA VOICED ITERATION MARK;KATAKANA DIGRAPH KOTO"),
   (0xfb00, "LATIN SMALL LIGATURE FF;LATIN SMALL LIGATURE FI;LATIN SMALL LIGATURE FL"),
   (0xfb03, "LATIN SMALL LIGATURE FFI;LATIN SMALL LIGATURE FFL"),
   (0xfb05, "LATIN SMALL LIGATURE LONG S T;LATIN SMALL LIGATURE ST"),
   (0xfe00, "VARIATION SELECTOR-1;VARIATION SELECTOR-2;VARIATION SELECTOR-3"),
   (0xfe03, "VARIATION SELECTOR-4;VARIATION SELECTOR-5;VARIATION SELECTOR-6"),
   (0xfe06, "VARIATION SELECTOR-7;VARIATION SELECTOR-8;VARIATION SELECTOR-9"),
   (0xfe09, "VARIATION SELECTOR-10;VARIATION SELECTOR-11;VARIATION SELECTOR-12"),
   (0xfe0c, "VARIATION SELECTOR-13;VARIATION SELECTOR-14;VARIATION SELECTOR-15"),
   (0xfe0f, "VARIATION SELECTOR-16"),
   (0xfeff, "ZERO WIDTH NO-BREAK SPACE"),
   (0xff01, "FULLWIDTH EXCLAMATION MARK;FULLWIDTH QUOTATION MARK;FULLWIDTH NUMBER SIGN"),
   (0xff04, "FULLWIDTH DOLLAR SIGN;FULLWIDTH PERCENT SIGN;FULLWIDTH AMPERSAND"),
   (0xff07, "FULLWIDTH APOSTROPHE;FULLWIDTH LEFT PARENTHESIS;FULLWIDTH RIGHT PARENTHESIS"),
   (0xff0a, "FULLWIDTH ASTERISK;FULLWIDTH PLUS SIGN;FULLWIDTH COMMA;FULLWIDTH HYPHEN-MINUS"),
   (0xff0e, "FULLWIDTH FULL STOP;FULLWIDTH SOLIDUS;FULLWIDTH DIGIT ZERO;FULLWIDTH DIGIT ONE"),
   (0xff12, "FULLWIDTH DIGIT TWO;FULLWIDTH DIGIT THREE;FULLWIDTH DIGIT FOUR"),
   (0xff15, "FULLWIDTH DIGIT FIVE;FULLWIDTH DIGIT SIX;FULLWIDTH DIGIT SEVEN"),
   (0xff18, "FULLWIDTH DIGIT EIGHT;FULLWIDTH DIGIT NINE;FULLWIDTH COLON;FULLWIDTH SEMICOLON"),
   (0xff1c, "FULLWIDTH LESS-THAN SIGN;FULLWIDTH EQUALS SIGN;FULLWIDTH GREATER-THAN SIGN"),
   (0xff1f, "FULLWIDTH QUESTION MARK;FULLWIDTH COMMERCIAL AT"),
   (0xff21, "FULLWIDTH LATIN CAPITAL LETTER A;FULLWIDTH LATIN CAPITAL LETTER B"),
   (0xff23, "FULLWIDTH LATIN CAPITAL LETTER C;FULLWIDTH LATIN CAPITAL LETTER D"),
   (0xff25, "FULLWIDTH LATIN CAPITAL LETTER E;FULLWIDTH LATIN CAPITAL LETTER F"),
   (0xff27, "FULLWIDTH LATIN CAPITAL LETTER G;FULLWIDTH LATIN CAPITAL LETTER H"),
   (0xff29, "FULLWIDTH LATIN CAPITAL LETTER I;FULLWIDTH LATIN CAPITAL LETTER J"),
   (0xff2b, "FULLWIDTH LATIN CAPITAL LETTER K;FULLWIDTH LATIN CAPITAL LETTER L"),
   (0xff2d, "FULLWIDTH LATIN CAPITAL LETTER M;FULLWIDTH LATIN CAPITAL LETTER N"),
   (0xff2f, "FULLWIDTH LATIN CAPITAL LETTER O;FULLWIDTH LATIN CAPITAL LETTER P"),
   (0xff31, "FULLWIDTH LATIN CAPITAL LETTER Q;FULLWIDTH LATIN CAPITAL LETTER R"),
   (0xff33, "FULLWIDTH LATIN CAPITAL LETTER S;FULLWIDTH LATIN CAPITAL LETTER T"),
   (0xff35, "FULLWIDTH LATIN CAPITAL LETTER U;FULLWIDTH LATIN CAPITAL LETTER V"),
   (0xff37, "FULLWIDTH LATIN CAPITAL LETTER W;FULLWIDTH LATIN CAPITAL LETTER X"),
   (0xff39, "FULLWIDTH LATIN CAPITAL LETTER Y;FULLWIDTH LATIN CAPITAL LETTER Z"),
   (0xff3b, "FULLWIDTH LEFT SQUARE BRACKET;FULLWIDTH REVERSE SOLIDUS"),
   (0xff3d, "FULLWIDTH RIGHT SQUARE BRACKET;FULLWIDTH CIRCUMFLEX ACCENT;FULLWIDTH LOW LINE"),
   (0xff40, "FULLWIDTH GRAVE ACCENT;FULLWIDTH LATIN SMALL LETTER A"),
   (0xff42, "FULLWIDTH LATIN SMALL LETTER B;FULLWIDTH LATIN SMALL LETTER C"),
   (0xff44, "FULLWIDTH LATIN SMALL LETTER D;FULLWIDTH LATIN SMALL LETTER E"),
   (0xff46, "FULLWIDTH LATIN SMALL LETTER F;FULLWIDTH LATIN SMALL LETTER G"),
   (0xff48, "FULLWIDTH LATIN SMALL LETTER H;FULLWIDTH LATIN SMALL LETTER I"),
   (0xff4a, "FULLWIDTH LATIN SMALL LETTER J;FULLWIDTH LATIN SMALL LETTER K"),
   (0xff4c, "FULLWIDTH LATIN SMALL LETTER L;FULLWIDTH LATIN SMALL LETTER M"),
   (0xff4e, "FULLWIDTH LATIN SMALL LETTER N;FULLWIDTH LATIN SMALL LETTER O"),
   (0xff50, "FULLWIDTH LATIN SMALL LETTER P;FULLWIDTH LATIN SMALL LETTER Q"),
   (0xff52, "FULLWIDTH LATIN SMALL LETTER R;FULLWIDTH LATIN SMALL LETTER S"),
   (0xff54, "FULLWIDTH LATIN SMALL LETTER T;FULLWIDTH LATIN SMALL LETTER U"),
   (0xff56, "FULLWIDTH LATIN SMALL LETTER V;FULLWIDTH LATIN SMALL LETTER W"),
   (0xff58, "FULLWIDTH LATIN SMALL LETTER X;FULLWIDTH LATIN SMALL LETTER Y"),
   (0xff5a, "FULLWIDTH LATIN SMALL LETTER Z;FULLWIDTH LEFT CURLY BRACKET"),
   (0xff5c, "FULLWIDTH VERTICAL LINE;FULLWIDTH RIGHT CURLY BRACKET;FULLWIDTH TILDE"),
   (0xfff9, "INTERLINEAR ANNOTATION ANCHOR;INTERLINEAR ANNOTATION SEPARATOR"),
   (0xfffb, "INTERLINEAR ANNOTATION TERMINATOR;OBJECT REPLACEMENT CHARACTER"),
   (0xfffd, "REPLACEMENT CHARACTER")]

/-- Pictographs. -/
def pictographNames : List (Nat × String) :=
  [
   (0x1f1e6, "REGIONAL INDICATOR SYMBOL LETTER A;REGIONAL INDICATOR SYMBOL LETTER B"),
   (0x1f1e8, "REGIONAL INDICATOR SYMBOL LETTER C;REGIONAL INDICATOR SYMBOL LETTER D"),
   (0x1f1ea, "REGIONAL INDICATOR SYMBOL LETTER E;REGIONAL INDICATOR SYMBOL LETTER F"),
   (0x1f1ec, "REGIONAL INDICATOR SYMBOL LETTER G;REGIONAL INDICATOR SYMBOL LETTER H"),
   (0x1f1ee, "REGIONAL INDICATOR SYMBOL LETTER I;REGIONAL INDICATOR SYMBOL LETTER J"),
   (0x1f1f0, "REGIONAL INDICATOR SYMBOL LETTER K;REGIONAL INDICATOR SYMBOL LETTER L"),
   (0x1f1f2, "REGIONAL INDICATOR SYMBOL LETTER M;REGIONAL INDICATOR SYMBOL LETTER N"),
   (0x1f1f4, "REGIONAL INDICATOR SYMBOL LETTER O;REGIONAL INDICATOR SYMBOL LETTER P"),
   (0x1f1f6, "REGIONAL INDICATOR SYMBOL LETTER Q;REGIONAL INDICATOR SYMBOL LETTER R"),
   (0x1f1f8, "REGIONAL INDICATOR SYMBOL LETTER S;REGIONAL INDICATOR SYMBOL LETTER T"),
   (0x1f1fa, "REGIONAL INDICATOR SYMBOL LETTER U;REGIONAL INDICATOR SYMBOL LETTER V"),
   (0x1f1fc, "REGIONAL INDICATOR SYMBOL LETTER W;REGIONAL INDICATOR SYMBOL LETTER X"),
   (0x1f1fe, "REGIONAL INDICATOR SYMBOL LETTER Y;REGIONAL INDICATOR SYMBOL LETTER Z"),
   (0x1f300, "CYCLONE;FOGGY;CLOSED UMBRELLA;NIGHT WITH STARS;SUNRISE OVER MOUNTAINS;SUNRISE"),
   (0x1f306, "CITYSCAPE AT DUSK;SUNSET OVER BUILDINGS;RAINBOW;BRIDGE AT NIGHT;WATER WAVE"),
   (0x1f30b, "VOLCANO;MILKY WAY;EARTH GLOBE EUROPE-AFRICA;EARTH GLOBE AMERICAS"),
   (0x1f30f, "EARTH GLOBE ASIA-AUSTRALIA;GLOBE WITH MERIDIANS;NEW MOON SYMBOL"),
   (0x1f312, "WAXING CRESCENT MOON SYMBOL;FIRST QUARTER MOON SYMBOL"),
   (0x1f314, "WAXING GIBBOUS MOON SYMBOL;FULL MOON SYMBOL;WANING GIBBOUS MOON SYMBOL"),
   (0x1f317, "LAST QUARTER MOON SYMBOL;WANING CRESCENT MOON SYMBOL;CRESCENT MOON"),
   (0x1f31a, "NEW MOON WITH FACE;FIRST QUARTER MOON WITH FACE;LAST QUARTER MOON WITH FACE"),
   (0x1f31d, "FULL MOON WITH FACE;SUN WITH FACE;GLOWING STAR;SHOOTING STAR;THERMOMETER"),
   (0x1f322, "BLACK DROPLET;WHITE SUN;WHITE SUN WITH SMALL CLOUD;WHITE SUN BEHIND CLOUD"),
   (0x1f326, "WHITE SUN BEHIND CLOUD WITH RAIN;CLOUD WITH RAIN;CLOUD WITH SNOW"),
   (0x1f329, "CLOUD WITH LIGHTNING;CLOUD WITH TORNADO;FOG;WIND BLOWING FACE;HOT DOG;TACO"),
   (0x1f32f, "BURRITO;CHESTNUT;SEEDLING;EVERGREEN TREE;DECIDUOUS TREE;PALM TREE;CACTUS"),
   (0x1f336, "HOT PEPPER;TULIP;CHERRY BLOSSOM;ROSE;HIBISCUS;SUNFLOWER;BLOSSOM;EAR OF MAIZE"),
   (0x1f33e, "EAR OF RICE;HERB;FOUR LEAF CLOVER;MAPLE LEAF;FALLEN LEAF"),
   (0x1f343, "LEAF FLUTTERING IN WIND;MUSHROOM;TOMATO;AUBERGINE;GRAPES;MELON;WATERMELON"),
   (0x1f34a, "TANGERINE;LEMON;BANANA;PINEAPPLE;RED APPLE;GREEN APPLE;PEAR;PEACH;CHERRIES"),
   (0x1f353, "STRAWBERRY;HAMBURGER;SLICE OF PIZZA;MEAT ON BONE;POULTRY LEG;RICE CRACKER"),
   (0x1f359, "RICE BALL;COOKED RICE;CURRY AND RICE;STEAMING BOWL;SPAGHETTI;BREAD"),
   (0x1f35f, "FRENCH FRIES;ROASTED SWEET POTATO;DANGO;ODEN;SUSHI;FRIED SHRIMP"),
   (0x1f365, "FISH CAKE WITH SWIRL DESIGN;SOFT ICE CREAM;SHAVED ICE;ICE CREAM;DOUGHNUT"),
   (0x1f36a, "COOKIE;CHOCOLATE BAR;CANDY;LOLLIPOP;CUSTARD;HONEY POT;SHORTCAKE;BENTO BOX"),
   (0x1f372, "POT OF FOOD;COOKING;FORK AND KNIFE;TEACUP WITHOUT HANDLE;SAKE BOTTLE AND CUP"),
   (0x1f377, "WINE GLASS;COCKTAIL GLASS;TROPICAL DRINK;BEER MUG;CLINKING BEER MUGS"),
   (0x1f37c, "BABY BOTTLE;FORK AND KNIFE WITH PLATE;BOTTLE WITH POPPING CORK;POPCORN;RIBBON"),
   (0x1f381, "WRAPPED PRESENT;BIRTHDAY CAKE;JACK-O-LANTERN;CHRISTMAS TREE;FATHER CHRISTMAS"),
   (0x1f386, "FIREWORKS;FIREWORK SPARKLER;BALLOON;PARTY POPPER;CONFETTI BALL;TANABATA TREE"),
   (0x1f38c, "CROSSED FLAGS;PINE DECORATION;JAPANESE DOLLS;CARP STREAMER;WIND CHIME"),
   (0x1f391, "MOON VIEWING CEREMONY;SCHOOL SATCHEL;GRADUATION CAP;HEART WITH TIP ON THE LEFT"),
   (0x1f395, "BOUQUET OF FLOWERS;MILITARY MEDAL;REMINDER RIBBON;MUSICAL KEYBOARD WITH JACKS"),
   (0x1f399, "STUDIO MICROPHONE;LEVEL SLIDER;CONTROL KNOBS;BEAMED ASCENDING MUSICAL NOTES"),
   (0x1f39d, "BEAMED DESCENDING MUSICAL NOTES;FILM FRAMES;ADMISSION TICKETS;CAROUSEL HORSE"),
   (0x1f3a1, "FERRIS WHEEL;ROLLER COASTER;FISHING POLE AND FISH;MICROPHONE;MOVIE CAMERA"),
   (0x1f3a6, "CINEMA;HEADPHONE;ARTIST PALETTE;TOP HAT;CIRCUS TENT;TICKET;CLAPPER BOARD"),
   (0x1f3ad, "PERFORMING ARTS;VIDEO GAME;DIRECT HIT;SLOT MACHINE;BILLIARDS;GAME DIE;BOWLING"),
   (0x1f3b4, "FLOWER PLAYING CARDS;MUSICAL NOTE;MULTIPLE MUSICAL NOTES;SAXOPHONE;GUITAR"),
   (0x1f3b9, "MUSICAL KEYBOARD;TRUMPET;VIOLIN;MUSICAL SCORE;RUNNING SHIRT WITH SASH"),
   (0x1f3be, "TENNIS RACQUET AND BALL;SKI AND SKI BOOT;BASKETBALL AND HOOP;CHEQUERED FLAG"),
   (0x1f3c2, "SNOWBOARDER;RUNNER;SURFER;SPORTS MEDAL;TROPHY;HORSE RACING;AMERICAN FOOTBALL"),
   (0x1f3c9, "RUGBY FOOTBALL;SWIMMER;WEIGHT LIFTER;GOLFER;RACING MOTORCYCLE;RACING CAR"),
   (0x1f3cf, "CRICKET BAT AND BALL;VOLLEYBALL;FIELD HOCKEY STICK AND BALL"),
   (0x1f3d2, "ICE HOCKEY STICK AND PUCK;TABLE TENNIS PADDLE AND BALL;SNOW CAPPED MOUNTAIN"),
   (0x1f3d5, "CAMPING;BEACH WITH UMBRELLA;BUILDING CONSTRUCTION;HOUSE BUILDINGS;CITYSCAPE"),
   (0x1f3da, "DERELICT HOUSE BUILDING;CLASSICAL BUILDING;DESERT;DESERT ISLAND;NATIONAL PARK"),
   (0x1f3df, "STADIUM;HOUSE BUILDING;HOUSE WITH GARDEN;OFFICE BUILDING;JAPANESE POST OFFICE"),
   (0x1f3e4, "EUROPEAN POST OFFICE;HOSPITAL;BANK;AUTOMATED TELLER MACHINE;HOTEL;LOVE HOTEL"),
   (0x1f3ea, "CONVENIENCE STORE;SCHOOL;DEPARTMENT STORE;FACTORY;IZAKAYA LANTERN"),
   (0x1f3ef, "JAPANESE CASTLE;EUROPEAN CASTLE;WHITE PENNANT;BLACK PENNANT;WAVING WHITE FLAG"),
   (0x1f3f4, "WAVING BLACK FLAG;ROSETTE;BLACK ROSETTE;LABEL"),
   (0x1f3f8, "BADMINTON RACQUET AND SHUTTLECOCK;BOW AND ARROW;AMPHORA"),
   (0x1f3fb, "EMOJI MODIFIER FITZPATRICK TYPE-1-2;EMOJI MODIFIER FITZPATRICK TYPE-3"),
   (0x1f3fd, "EMOJI MODIFIER FITZPATRICK TYPE-4;EMOJI MODIFIER FITZPATRICK TYPE-5"),
   (0x1f3ff, "EMOJI MODIFIER FITZPATRICK TYPE-6;RAT;MOUSE;OX;WATER BUFFALO;COW;TIGER;LEOPARD"),
   (0x1f407, "RABBIT;CAT;DRAGON;CROCODILE;WHALE;SNAIL;SNAKE;HORSE;RAM;GOAT;SHEEP;MONKEY"),
   (0x1f413, "ROOSTER;CHICKEN;DOG;PIG;BOAR;ELEPHANT;OCTOPUS;SPIRAL SHELL;BUG;ANT;HONEYBEE"),
   (0x1f41e, "LADY BEETLE;FISH;TROPICAL FISH;BLOWFISH;TURTLE;HATCHING CHICK;BABY CHICK"),
   (0x1f425, "FRONT-FACING BABY CHICK;BIRD;PENGUIN;KOALA;POODLE;DROMEDARY CAMEL"),
   (0x1f42b, "BACTRIAN CAMEL;DOLPHIN;MOUSE FACE;COW FACE;TIGER FACE;RABBIT FACE;CAT FACE"),
   (0x1f432, "DRAGON FACE;SPOUTING WHALE;HORSE FACE;MONKEY FACE;DOG FACE;PIG FACE;FROG FACE"),
   (0x1f439, "HAMSTER FACE;WOLF FACE;BEAR FACE;PANDA FACE;PIG NOSE;PAW PRINTS;CHIPMUNK;EYES"),
   (0x1f441, "EYE;EAR;NOSE;MOUTH;TONGUE;WHITE UP POINTING BACKHAND INDEX"),
   (0x1f447, "WHITE DOWN POINTING BACKHAND INDEX;WHITE LEFT POINTING BACKHAND INDEX"),
   (0x1f449, "WHITE RIGHT POINTING BACKHAND INDEX;FISTED HAND SIGN;WAVING HAND SIGN"),
   (0x1f44c, "OK HAND SIGN;THUMBS UP SIGN;THUMBS DOWN SIGN;CLAPPING HANDS SIGN"),
   (0x1f450, "OPEN HANDS SIGN;CROWN;WOMANS HAT;EYEGLASSES;NECKTIE;T-SHIRT;JEANS;DRESS;KIMONO"),
   (0x1f459, "BIKINI;WOMANS CLOTHES;PURSE;HANDBAG;POUCH;MANS SHOE;ATHLETIC SHOE"),
   (0x1f460, "HIGH-HEELED SHOE;WOMANS SANDAL;WOMANS BOOTS;FOOTPRINTS;BUST IN SILHOUETTE"),
   (0x1f465, "BUSTS IN SILHOUETTE;BOY;GIRL;MAN;WOMAN;FAMILY;MAN AND WOMAN HOLDING HANDS"),
   (0x1f46c, "TWO MEN HOLDING HANDS;TWO WOMEN HOLDING HANDS;POLICE OFFICER"),
   (0x1f46f, "WOMAN WITH BUNNY EARS;BRIDE WITH VEIL;PERSON WITH BLOND HAIR"),
   (0x1f472, "MAN WITH GUA PI MAO;MAN WITH TURBAN;OLDER MAN;OLDER WOMAN;BABY"),
   (0x1f477, "CONSTRUCTION WORKER;PRINCESS;JAPANESE OGRE;JAPANESE GOBLIN;GHOST;BABY ANGEL"),
   (0x1f47d, "EXTRATERRESTRIAL ALIEN;ALIEN MONSTER;IMP;SKULL;INFORMATION DESK PERSON"),
   (0x1f482, "GUARDSMAN;DANCER;LIPSTICK;NAIL POLISH;FACE MASSAGE;HAIRCUT;BARBER POLE;SYRINGE"),
   (0x1f48a, "PILL;KISS MARK;LOVE LETTER;RING;GEM STONE;KISS;BOUQUET;COUPLE WITH HEART"),
   (0x1f492, "WEDDING;BEATING HEART;BROKEN HEART;TWO HEARTS;SPARKLING HEART;GROWING HEART"),
   (0x1f498, "HEART WITH ARROW;BLUE HEART;GREEN HEART;YELLOW HEART;PURPLE HEART"),
   (0x1f49d, "HEART WITH RIBBON;REVOLVING HEARTS;HEART DECORATION"),
   (0x1f4a0, "DIAMOND SHAPE WITH A DOT INSIDE;ELECTRIC LIGHT BULB;ANGER SYMBOL;BOMB"),
   (0x1f4a4, "SLEEPING SYMBOL;COLLISION SYMBOL;SPLASHING SWEAT SYMBOL;DROPLET;DASH SYMBOL"),
   (0x1f4a9, "PILE OF POO;FLEXED BICEPS;DIZZY SYMBOL;SPEECH BALLOON;THOUGHT BALLOON"),
   (0x1f4ae, "WHITE FLOWER;HUNDRED POINTS SYMBOL;MONEY BAG;CURRENCY EXCHANGE"),
   (0x1f4b2, "HEAVY DOLLAR SIGN;CREDIT CARD;BANKNOTE WITH YEN SIGN;BANKNOTE WITH DOLLAR SIGN"),
   (0x1f4b6, "BANKNOTE WITH EURO SIGN;BANKNOTE WITH POUND SIGN;MONEY WITH WINGS"),
   (0x1f4b9, "CHART WITH UPWARDS TREND AND YEN SIGN;SEAT;PERSONAL COMPUTER;BRIEFCASE"),
   (0x1f4bd, "MINIDISC;FLOPPY DISK;OPTICAL DISC;DVD;FILE FOLDER;OPEN FILE FOLDER"),
   (0x1f4c3, "PAGE WITH CURL;PAGE FACING UP;CALENDAR;TEAR-OFF CALENDAR;CARD INDEX"),
   (0x1f4c8, "CHART WITH UPWARDS TREND;CHART WITH DOWNWARDS TREND;BAR CHART;CLIPBOARD"),
   (0x1f4cc, "PUSHPIN;ROUND PUSHPIN;PAPERCLIP;STRAIGHT RULER;TRIANGULAR RULER;BOOKMARK TABS"),
   (0x1f4d2, "LEDGER;NOTEBOOK;NOTEBOOK WITH DECORATIVE COVER;CLOSED BOOK;OPEN BOOK"),
   (0x1f4d7, "GREEN BOOK;BLUE BOOK;ORANGE BOOK;BOOKS;NAME BADGE;SCROLL;MEMO"),
   (0x1f4de, "TELEPHONE RECEIVER;PAGER;FAX MACHINE;SATELLITE ANTENNA"),
   (0x1f4e2, "PUBLIC ADDRESS LOUDSPEAKER;CHEERING MEGAPHONE;OUTBOX TRAY;INBOX TRAY;PACKAGE"),
   (0x1f4e7, "E-MAIL SYMBOL;INCOMING ENVELOPE;ENVELOPE WITH DOWNWARDS ARROW ABOVE"),
   (0x1f4ea, "CLOSED MAILBOX WITH LOWERED FLAG;CLOSED MAILBOX WITH RAISED FLAG"),
   (0x1f4ec, "OPEN MAILBOX WITH RAISED FLAG;OPEN MAILBOX WITH LOWERED FLAG;POSTBOX"),
   (0x1f4ef, "POSTAL HORN;NEWSPAPER;MOBILE PHONE;MOBILE PHONE WITH RIGHTWARDS ARROW AT LEFT"),
   (0x1f4f3, "VIBRATION MODE;MOBILE PHONE OFF;NO MOBILE PHONES;ANTENNA WITH BARS;CAMERA"),
   (0x1f4f8, "CAMERA WITH FLASH;VIDEO CAMERA;TELEVISION;RADIO;VIDEOCASSETTE;FILM PROJECTOR"),
   (0x1f4fe, "PORTABLE STEREO;PRAYER BEADS;TWISTED RIGHTWARDS ARROWS"),
   (0x1f501, "CLOCKWISE RIGHTWARDS AND LEFTWARDS OPEN CIRCLE ARROWS"),
   (0x1f502, "CLOCKWISE RIGHTWARDS AND LEFTWARDS OPEN CIRCLE ARROWS WITH CIRCLED ONE OVERLAY"),
   (0x1f503, "CLOCKWISE DOWNWARDS AND UPWARDS OPEN CIRCLE ARROWS"),
   (0x1f504, "ANTICLOCKWISE DOWNWARDS AND UPWARDS OPEN CIRCLE ARROWS;LOW BRIGHTNESS SYMBOL"),
   (0x1f506, "HIGH BRIGHTNESS SYMBOL;SPEAKER WITH CANCELLATION STROKE;SPEAKER"),
   (0x1f509, "SPEAKER WITH ONE SOUND WAVE;SPEAKER WITH THREE SOUND WAVES;BATTERY"),
   (0x1f50c, "ELECTRIC PLUG;LEFT-POINTING MAGNIFYING GLASS;RIGHT-POINTING MAGNIFYING GLASS"),
   (0x1f50f, "LOCK WITH INK PEN;CLOSED LOCK WITH KEY;KEY;LOCK;OPEN LOCK;BELL"),
   (0x1f515, "BELL WITH CANCELLATION STROKE;BOOKMARK;LINK SYMBOL;RADIO BUTTON"),
   (0x1f519, "BACK WITH LEFTWARDS ARROW ABOVE;END WITH LEFTWARDS ARROW ABOVE"),
   (0x1f51b, "ON WITH EXCLAMATION MARK WITH LEFT RIGHT ARROW ABOVE"),
   (0x1f51c, "SOON WITH RIGHTWARDS ARROW ABOVE;TOP WITH UPWARDS ARROW ABOVE"),
   (0x1f51e, "NO ONE UNDER EIGHTEEN SYMBOL;KEYCAP TEN;INPUT SYMBOL FOR LATIN CAPITAL LETTERS"),
   (0x1f521, "INPUT SYMBOL FOR LATIN SMALL LETTERS;INPUT SYMBOL FOR NUMBERS"),
   (0x1f523, "INPUT SYMBOL FOR SYMBOLS;INPUT SYMBOL FOR LATIN LETTERS;FIRE;ELECTRIC TORCH"),
   (0x1f527, "WRENCH;HAMMER;NUT AND BOLT;HOCHO;PISTOL;MICROSCOPE;TELESCOPE;CRYSTAL BALL"),
   (0x1f52f, "SIX POINTED STAR WITH MIDDLE DOT;JAPANESE SYMBOL FOR BEGINNER;TRIDENT EMBLEM"),
   (0x1f532, "BLACK SQUARE BUTTON;WHITE SQUARE BUTTON;LARGE RED CIRCLE;LARGE BLUE CIRCLE"),
   (0x1f536, "LARGE ORANGE DIAMOND;LARGE BLUE DIAMOND;SMALL ORANGE DIAMOND"),
   (0x1f539, "SMALL BLUE DIAMOND;UP-POINTING RED TRIANGLE;DOWN-POINTING RED TRIANGLE"),
   (0x1f53c, "UP-POINTING SMALL RED TRIANGLE;DOWN-POINTING SMALL RED TRIANGLE"),
   (0x1f53e, "LOWER RIGHT SHADOWED WHITE CIRCLE;UPPER RIGHT SHADOWED WHITE CIRCLE"),
   (0x1f540, "CIRCLED CROSS POMMEE;CROSS POMMEE WITH HALF-CIRCLE BELOW;CROSS POMMEE"),
   (0x1f543, "NOTCHED LEFT SEMICIRCLE WITH THREE DOTS"),
   (0x1f544, "NOTCHED RIGHT SEMICIRCLE WITH THREE DOTS;SYMBOL FOR MARKS CHAPTER"),
   (0x1f546, "WHITE LATIN CROSS;HEAVY LATIN CROSS;CELTIC CROSS;OM SYMBOL;DOVE OF PEACE;KAABA"),
   (0x1f54c, "MOSQUE;SYNAGOGUE;MENORAH WITH NINE BRANCHES;BOWL OF HYGIEIA"),
   (0x1f550, "CLOCK FACE ONE OCLOCK;CLOCK FACE TWO OCLOCK;CLOCK FACE THREE OCLOCK"),
   (0x1f553, "CLOCK FACE FOUR OCLOCK;CLOCK FACE FIVE OCLOCK;CLOCK FACE SIX OCLOCK"),
   (0x1f556, "CLOCK FACE SEVEN OCLOCK;CLOCK FACE EIGHT OCLOCK;CLOCK FACE NINE OCLOCK"),
   (0x1f559, "CLOCK FACE TEN OCLOCK;CLOCK FACE ELEVEN OCLOCK;CLOCK FACE TWELVE OCLOCK"),
   (0x1f55c, "CLOCK FACE ONE-THIRTY;CLOCK FACE TWO-THIRTY;CLOCK FACE THREE-THIRTY"),
   (0x1f55f, "CLOCK FACE FOUR-THIRTY;CLOCK FACE FIVE-THIRTY;CLOCK FACE SIX-THIRTY"),
   (0x1f562, "CLOCK FACE SEVEN-THIRTY;CLOCK FACE EIGHT-THIRTY;CLOCK FACE NINE-THIRTY"),
   (0x1f565, "CLOCK FACE TEN-THIRTY;CLOCK FACE ELEVEN-THIRTY;CLOCK FACE TWELVE-THIRTY"),
   (0x1f568, "RIGHT SPEAKER;RIGHT SPEAKER WITH ONE SOUND WAVE"),
   (0x1f56a, "RIGHT SPEAKER WITH THREE SOUND WAVES;BULLHORN;BULLHORN WITH SOUND WAVES"),
   (0x1f56d, "RINGING BELL;BOOK;CANDLE;MANTELPIECE CLOCK;BLACK SKULL AND CROSSBONES"),
   (0x1f572, "NO PIRACY;HOLE;MAN IN BUSINESS SUIT LEVITATING;SLEUTH OR SPY;DARK SUNGLASSES"),
   (0x1f577, "SPIDER;SPIDER WEB;JOYSTICK;MAN DANCING;LEFT HAND TELEPHONE RECEIVER"),
   (0x1f57c, "TELEPHONE RECEIVER WITH PAGE;RIGHT HAND TELEPHONE RECEIVER"),
   (0x1f57e, "WHITE TOUCHTONE TELEPHONE;BLACK TOUCHTONE TELEPHONE;TELEPHONE ON TOP OF MODEM"),
   (0x1f581, "CLAMSHELL MOBILE PHONE;BACK OF ENVELOPE;STAMPED ENVELOPE"),
   (0x1f584, "ENVELOPE WITH LIGHTNING;FLYING ENVELOPE;PEN OVER STAMPED ENVELOPE"),
   (0x1f587, "LINKED PAPERCLIPS;BLACK PUSHPIN;LOWER LEFT PENCIL;LOWER LEFT BALLPOINT PEN"),
   (0x1f58b, "LOWER LEFT FOUNTAIN PEN;LOWER LEFT PAINTBRUSH;LOWER LEFT CRAYON"),
   (0x1f58e, "LEFT WRITING HAND;TURNED OK HAND SIGN;RAISED HAND WITH FINGERS SPLAYED"),
   (0x1f591, "REVERSED RAISED HAND WITH FINGERS SPLAYED;REVERSED THUMBS UP SIGN"),
   (0x1f593, "REVERSED THUMBS DOWN SIGN;REVERSED VICTORY HAND"),
   (0x1f595, "REVERSED HAND WITH MIDDLE FINGER EXTENDED"),
   (0x1f596, "RAISED HAND WITH PART BETWEEN MIDDLE AND RING FINGERS"),
   (0x1f597, "WHITE DOWN POINTING LEFT HAND INDEX;SIDEWAYS WHITE LEFT POINTING INDEX"),
   (0x1f599, "SIDEWAYS WHITE RIGHT POINTING INDEX;SIDEWAYS BLACK LEFT POINTING INDEX"),
   (0x1f59b, "SIDEWAYS BLACK RIGHT POINTING INDEX;BLACK LEFT POINTING BACKHAND INDEX"),
   (0x1f59d, "BLACK RIGHT POINTING BACKHAND INDEX;SIDEWAYS WHITE UP POINTING INDEX"),
   (0x1f59f, "SIDEWAYS WHITE DOWN POINTING INDEX;SIDEWAYS BLACK UP POINTING INDEX"),
   (0x1f5a1, "SIDEWAYS BLACK DOWN POINTING INDEX;BLACK UP POINTING BACKHAND INDEX"),
   (0x1f5a3, "BLACK DOWN POINTING BACKHAND INDEX;BLACK HEART;DESKTOP COMPUTER"),
   (0x1f5a6, "KEYBOARD AND MOUSE;THREE NETWORKED COMPUTERS;PRINTER;POCKET CALCULATOR"),
   (0x1f5aa, "BLACK HARD SHELL FLOPPY DISK;WHITE HARD SHELL FLOPPY DISK"),
   (0x1f5ac, "SOFT SHELL FLOPPY DISK;TAPE CARTRIDGE;WIRED KEYBOARD;ONE BUTTON MOUSE"),
   (0x1f5b0, "TWO BUTTON MOUSE;THREE BUTTON MOUSE;TRACKBALL;OLD PERSONAL COMPUTER;HARD DISK"),
   (0x1f5b5, "SCREEN;PRINTER ICON;FAX ICON;OPTICAL DISC ICON;DOCUMENT WITH TEXT"),
   (0x1f5ba, "DOCUMENT WITH TEXT AND PICTURE;DOCUMENT WITH PICTURE;FRAME WITH PICTURE"),
   (0x1f5bd, "FRAME WITH TILES;FRAME WITH AN X;BLACK FOLDER;FOLDER;OPEN FOLDER"),
   (0x1f5c2, "CARD INDEX DIVIDERS;CARD FILE BOX;FILE CABINET;EMPTY NOTE;EMPTY NOTE PAGE"),
   (0x1f5c7, "EMPTY NOTE PAD;NOTE;NOTE PAGE;NOTE PAD;EMPTY DOCUMENT;EMPTY PAGE;EMPTY PAGES"),
   (0x1f5ce, "DOCUMENT;PAGE;PAGES;WASTEBASKET;SPIRAL NOTE PAD;SPIRAL CALENDAR PAD"),
   (0x1f5d4, "DESKTOP WINDOW;MINIMIZE;MAXIMIZE;OVERLAP"),
   (0x1f5d8, "CLOCKWISE RIGHT AND LEFT SEMICIRCLE ARROWS;CANCELLATION X"),
   (0x1f5da, "INCREASE FONT SIZE SYMBOL;DECREASE FONT SIZE SYMBOL;COMPRESSION;OLD KEY"),
   (0x1f5de, "ROLLED-UP NEWSPAPER;PAGE WITH CIRCLED TEXT;STOCK CHART;DAGGER KNIFE;LIPS"),
   (0x1f5e3, "SPEAKING HEAD IN SILHOUETTE;THREE RAYS ABOVE;THREE RAYS BELOW;THREE RAYS LEFT"),
   (0x1f5e7, "THREE RAYS RIGHT;LEFT SPEECH BUBBLE;RIGHT SPEECH BUBBLE;TWO SPEECH BUBBLES"),
   (0x1f5eb, "THREE SPEECH BUBBLES;LEFT THOUGHT BUBBLE;RIGHT THOUGHT BUBBLE"),
   (0x1f5ee, "LEFT ANGER BUBBLE;RIGHT ANGER BUBBLE;MOOD BUBBLE;LIGHTNING MOOD BUBBLE"),
   (0x1f5f2, "LIGHTNING MOOD;BALLOT BOX WITH BALLOT;BALLOT SCRIPT X;BALLOT BOX WITH SCRIPT X"),
   (0x1f5f6, "BALLOT BOLD SCRIPT X;BALLOT BOX WITH BOLD SCRIPT X;LIGHT CHECK MARK"),
   (0x1f5f9, "BALLOT BOX WITH BOLD CHECK;WORLD MAP;MOUNT FUJI;TOKYO TOWER;STATUE OF LIBERTY"),
   (0x1f5fe, "SILHOUETTE OF JAPAN;MOYAI;GRINNING FACE;GRINNING FACE WITH SMILING EYES")]

/-- Emoticons, transport signs and further pictographs. -/
def emoticonNames : List (Nat × String) :=
  [
   (0x1f602, "FACE WITH TEARS OF JOY;SMILING FACE WITH OPEN MOUTH"),
   (0x1f604, "SMILING FACE WITH OPEN MOUTH AND SMILING EYES"),
   (0x1f605, "SMILING FACE WITH OPEN MOUTH AND COLD SWEAT"),
   (0x1f606, "SMILING FACE WITH OPEN MOUTH AND TIGHTLY-CLOSED EYES;SMILING FACE WITH HALO"),
   (0x1f608, "SMILING FACE WITH HORNS;WINKING FACE;SMILING FACE WITH SMILING EYES"),
   (0x1f60b, "FACE SAVOURING DELICIOUS FOOD;RELIEVED FACE"),
   (0x1f60d, "SMILING FACE WITH HEART-SHAPED EYES;SMILING FACE WITH SUNGLASSES;SMIRKING FACE"),
   (0x1f610, "NEUTRAL FACE;EXPRESSIONLESS FACE;UNAMUSED FACE;FACE WITH COLD SWEAT"),
   (0x1f614, "PENSIVE FACE;CONFUSED FACE;CONFOUNDED FACE;KISSING FACE;FACE THROWING A KISS"),
   (0x1f619, "KISSING FACE WITH SMILING EYES;KISSING FACE WITH CLOSED EYES"),
   (0x1f61b, "FACE WITH STUCK-OUT TONGUE;FACE WITH STUCK-OUT TONGUE AND WINKING EYE"),
   (0x1f61d, "FACE WITH STUCK-OUT TONGUE AND TIGHTLY-CLOSED EYES;DISAPPOINTED FACE"),
   (0x1f61f, "WORRIED FACE;ANGRY FACE;POUTING FACE;CRYING FACE;PERSEVERING FACE"),
   (0x1f624, "FACE WITH LOOK OF TRIUMPH;DISAPPOINTED BUT RELIEVED FACE"),
   (0x1f626, "FROWNING FACE WITH OPEN MOUTH;ANGUISHED FACE;FEARFUL FACE;WEARY FACE"),
   (0x1f62a, "SLEEPY FACE;TIRED FACE;GRIMACING FACE;LOUDLY CRYING FACE;FACE WITH OPEN MOUTH"),
   (0x1f62f, "HUSHED FACE;FACE WITH OPEN MOUTH AND COLD SWEAT;FACE SCREAMING IN FEAR"),
   (0x1f632, "ASTONISHED FACE;FLUSHED FACE;SLEEPING FACE;DIZZY FACE;FACE WITHOUT MOUTH"),
   (0x1f637, "FACE WITH MEDICAL MASK;GRINNING CAT FACE WITH SMILING EYES"),
   (0x1f639, "CAT FACE WITH TEARS OF JOY;SMILING CAT FACE WITH OPEN MOUTH"),
   (0x1f63b, "SMILING CAT FACE WITH HEART-SHAPED EYES;CAT FACE WITH WRY SMILE"),
   (0x1f63d, "KISSING CAT FACE WITH CLOSED EYES;POUTING CAT FACE;CRYING CAT FACE"),
   (0x1f640, "WEARY CAT FACE;SLIGHTLY FROWNING FACE;SLIGHTLY SMILING FACE;UPSIDE-DOWN FACE"),
   (0x1f644, "FACE WITH ROLLING EYES;FACE WITH NO GOOD GESTURE;FACE WITH OK GESTURE"),
   (0x1f647, "PERSON BOWING DEEPLY;SEE-NO-EVIL MONKEY;HEAR-NO-EVIL MONKEY"),
   (0x1f64a, "SPEAK-NO-EVIL MONKEY;HAPPY PERSON RAISING ONE HAND"),
   (0x1f64c, "PERSON RAISING BOTH HANDS IN CELEBRATION;PERSON FROWNING"),
   (0x1f64e, "PERSON WITH POUTING FACE;PERSON WITH FOLDED HANDS;NORTH WEST POINTING LEAF"),
   (0x1f651, "SOUTH WEST POINTING LEAF;NORTH EAST POINTING LEAF;SOUTH EAST POINTING LEAF"),
   (0x1f654, "TURNED NORTH WEST POINTING LEAF;TURNED SOUTH WEST POINTING LEAF"),
   (0x1f656, "TURNED NORTH EAST POINTING LEAF;TURNED SOUTH EAST POINTING LEAF"),
   (0x1f658, "NORTH WEST POINTING VINE LEAF;SOUTH WEST POINTING VINE LEAF"),
   (0x1f65a, "NORTH EAST POINTING VINE LEAF;SOUTH EAST POINTING VINE LEAF"),
   (0x1f65c, "HEAVY NORTH WEST POINTING VINE LEAF;HEAVY SOUTH WEST POINTING VINE LEAF"),
   (0x1f65e, "HEAVY NORTH EAST POINTING VINE LEAF;HEAVY SOUTH EAST POINTING VINE LEAF"),
   (0x1f660, "NORTH WEST POINTING BUD;SOUTH WEST POINTING BUD;NORTH EAST POINTING BUD"),
   (0x1f663, "SOUTH EAST POINTING BUD;HEAVY NORTH WEST POINTING BUD"),
   (0x1f665, "HEAVY SOUTH WEST POINTING BUD;HEAVY NORTH EAST POINTING BUD"),
   (0x1f667, "HEAVY SOUTH EAST POINTING BUD;HOLLOW QUILT SQUARE ORNAMENT"),
   (0x1f669, "HOLLOW QUILT SQUARE ORNAMENT IN BLACK SQUARE;SOLID QUILT SQUARE ORNAMENT"),
   (0x1f66b, "SOLID QUILT SQUARE ORNAMENT IN BLACK SQUARE;LEFTWARDS ROCKET;UPWARDS ROCKET"),
   (0x1f66e, "RIGHTWARDS ROCKET;DOWNWARDS ROCKET;SCRIPT LIGATURE ET ORNAMENT"),
   (0x1f671, "HEAVY SCRIPT LIGATURE ET ORNAMENT;LIGATURE OPEN ET ORNAMENT"),
   (0x1f673, "HEAVY LIGATURE OPEN ET ORNAMENT;HEAVY AMPERSAND ORNAMENT"),
   (0x1f675, "SWASH AMPERSAND ORNAMENT"),
   (0x1f676, "SANS-SERIF HEAVY DOUBLE TURNED COMMA QUOTATION MARK ORNAMENT"),
   (0x1f677, "SANS-SERIF HEAVY DOUBLE COMMA QUOTATION MARK ORNAMENT"),
   (0x1f678, "SANS-SERIF HEAVY LOW DOUBLE COMMA QUOTATION MARK ORNAMENT"),
   (0x1f679, "HEAVY INTERROBANG ORNAMENT;SANS-SERIF INTERROBANG ORNAMENT"),
   (0x1f67b, "HEAVY SANS-SERIF INTERROBANG ORNAMENT;VERY HEAVY SOLIDUS"),
   (0x1f67d, "VERY HEAVY REVERSE SOLIDUS;CHECKER BOARD;REVERSE CHECKER BOARD;ROCKET"),
   (0x1f681, "HELICOPTER;STEAM LOCOMOTIVE;RAILWAY CAR;HIGH-SPEED TRAIN"),
   (0x1f685, "HIGH-SPEED TRAIN WITH BULLET NOSE;TRAIN;METRO;LIGHT RAIL;STATION;TRAM;TRAM CAR"),
   (0x1f68c, "BUS;ONCOMING BUS;TROLLEYBUS;BUS STOP;MINIBUS;AMBULANCE;FIRE ENGINE;POLICE CAR"),
   (0x1f694, "ONCOMING POLICE CAR;TAXI;ONCOMING TAXI;AUTOMOBILE;ONCOMING AUTOMOBILE"),
   (0x1f699, "RECREATIONAL VEHICLE;DELIVERY TRUCK;ARTICULATED LORRY;TRACTOR;MONORAIL"),
   (0x1f69e, "MOUNTAIN RAILWAY;SUSPENSION RAILWAY;MOUNTAIN CABLEWAY;AERIAL TRAMWAY;SHIP"),
   (0x1f6a3, "ROWBOAT;SPEEDBOAT;HORIZONTAL TRAFFIC LIGHT;VERTICAL TRAFFIC LIGHT"),
   (0x1f6a7, "CONSTRUCTION SIGN;POLICE CARS REVOLVING LIGHT;TRIANGULAR FLAG ON POST;DOOR"),
   (0x1f6ab, "NO ENTRY SIGN;SMOKING SYMBOL;NO SMOKING SYMBOL;PUT LITTER IN ITS PLACE SYMBOL"),
   (0x1f6af, "DO NOT LITTER SYMBOL;POTABLE WATER SYMBOL;NON-POTABLE WATER SYMBOL;BICYCLE"),
   (0x1f6b3, "NO BICYCLES;BICYCLIST;MOUNTAIN BICYCLIST;PEDESTRIAN;NO PEDESTRIANS"),
   (0x1f6b8, "CHILDREN CROSSING;MENS SYMBOL;WOMENS SYMBOL;RESTROOM;BABY SYMBOL;TOILET"),
   (0x1f6be, "WATER CLOSET;SHOWER;BATH;BATHTUB;PASSPORT CONTROL;CUSTOMS;BAGGAGE CLAIM"),
   (0x1f6c5, "LEFT LUGGAGE;TRIANGLE WITH ROUNDED CORNERS;PROHIBITED SIGN"),
   (0x1f6c8, "CIRCLED INFORMATION SOURCE;BOYS SYMBOL;GIRLS SYMBOL;COUCH AND LAMP"),
   (0x1f6cc, "SLEEPING ACCOMMODATION;SHOPPING BAGS;BELLHOP BELL;BED;PLACE OF WORSHIP"),
   (0x1f6d1, "OCTAGONAL SIGN;SHOPPING TROLLEY;STUPA;PAGODA;HINDU TEMPLE;HUT;ELEVATOR"),
   (0x1f6dd, "PLAYGROUND SLIDE;WHEEL;RING BUOY;HAMMER AND WRENCH;SHIELD;OIL DRUM;MOTORWAY"),
   (0x1f6e4, "RAILWAY TRACK;MOTOR BOAT;UP-POINTING MILITARY AIRPLANE;UP-POINTING AIRPLANE"),
   (0x1f6e8, "UP-POINTING SMALL AIRPLANE;SMALL AIRPLANE;NORTHEAST-POINTING AIRPLANE"),
   (0x1f6eb, "AIRPLANE DEPARTURE;AIRPLANE ARRIVING"),
   (0x1f6f0, "SATELLITE;ONCOMING FIRE ENGINE;DIESEL LOCOMOTIVE;PASSENGER SHIP;SCOOTER"),
   (0x1f6f5, "MOTOR SCOOTER;CANOE;SLED;FLYING SAUCER;SKATEBOARD;AUTO RICKSHAW;PICKUP TRUCK"),
   (0x1f6fc, "ROLLER SKATE"),
   (0x1f7e0, "LARGE ORANGE CIRCLE;LARGE YELLOW CIRCLE;LARGE GREEN CIRCLE;LARGE PURPLE CIRCLE"),
   (0x1f7e4, "LARGE BROWN CIRCLE;LARGE RED SQUARE;LARGE BLUE SQUARE;LARGE ORANGE SQUARE"),
   (0x1f7e8, "LARGE YELLOW SQUARE;LARGE GREEN SQUARE;LARGE PURPLE SQUARE;LARGE BROWN SQUARE"),
   (0x1f900, "CIRCLED CROSS FORMEE WITH FOUR DOTS;CIRCLED CROSS FORMEE WITH TWO DOTS"),
   (0x1f902, "CIRCLED CROSS FORMEE;LEFT HALF CIRCLE WITH FOUR DOTS"),
   (0x1f904, "LEFT HALF CIRCLE WITH THREE DOTS;LEFT HALF CIRCLE WITH TWO DOTS"),
   (0x1f906, "LEFT HALF CIRCLE WITH DOT;LEFT HALF CIRCLE;DOWNWARD FACING HOOK"),
   (0x1f909, "DOWNWARD FACING NOTCHED HOOK;DOWNWARD FACING HOOK WITH DOT"),
   (0x1f90b, "DOWNWARD FACING NOTCHED HOOK WITH DOT;PINCHED FINGERS;WHITE HEART;BROWN HEART"),
   (0x1f90f, "PINCHING HAND;ZIPPER-MOUTH FACE;MONEY-MOUTH FACE;FACE WITH THERMOMETER"),
   (0x1f913, "NERD FACE;THINKING FACE;FACE WITH HEAD-BANDAGE;ROBOT FACE;HUGGING FACE"),
   (0x1f918, "SIGN OF THE HORNS;CALL ME HAND;RAISED BACK OF HAND;LEFT-FACING FIST"),
   (0x1f91c, "RIGHT-FACING FIST;HANDSHAKE;HAND WITH INDEX AND MIDDLE FINGERS CROSSED"),
   (0x1f91f, "I LOVE YOU HAND SIGN;FACE WITH COWBOY HAT;CLOWN FACE;NAUSEATED FACE"),
   (0x1f923, "ROLLING ON THE FLOOR LAUGHING;DROOLING FACE;LYING FACE;FACE PALM;SNEEZING FACE"),
   (0x1f928, "FACE WITH ONE EYEBROW RAISED;GRINNING FACE WITH STAR EYES"),
   (0x1f92a, "GRINNING FACE WITH ONE LARGE AND ONE SMALL EYE"),
   (0x1f92b, "FACE WITH FINGER COVERING CLOSED LIPS;SERIOUS FACE WITH SYMBOLS COVERING MOUTH"),
   (0x1f92d, "SMILING FACE WITH SMILING EYES AND HAND COVERING MOUTH"),
   (0x1f92e, "FACE WITH OPEN MOUTH VOMITING;SHOCKED FACE WITH EXPLODING HEAD;PREGNANT WOMAN"),
   (0x1f931, "BREAST-FEEDING;PALMS UP TOGETHER;SELFIE;PRINCE;MAN IN TUXEDO;MOTHER CHRISTMAS"),
   (0x1f937, "SHRUG;PERSON DOING CARTWHEEL;JUGGLING;FENCER;MODERN PENTATHLON;WRESTLERS"),
   (0x1f93d, "WATER POLO;HANDBALL;DIVING MASK;WILTED FLOWER;DRUM WITH DRUMSTICKS"),
   (0x1f942, "CLINKING GLASSES;TUMBLER GLASS;SPOON;GOAL NET;RIFLE;FIRST PLACE MEDAL"),
   (0x1f948, "SECOND PLACE MEDAL;THIRD PLACE MEDAL;BOXING GLOVE;MARTIAL ARTS UNIFORM"),
   (0x1f94c, "CURLING STONE;LACROSSE STICK AND BALL;SOFTBALL;FLYING DISC;CROISSANT;AVOCADO"),
   (0x1f952, "CUCUMBER;BACON;POTATO;CARROT;BAGUETTE BREAD;GREEN SALAD;SHALLOW PAN OF FOOD"),
   (0x1f959, "STUFFED FLATBREAD;EGG;GLASS OF MILK;PEANUTS;KIWIFRUIT;PANCAKES;DUMPLING"),
   (0x1f960, "FORTUNE COOKIE;TAKEOUT BOX;CHOPSTICKS;BOWL WITH SPOON;CUP WITH STRAW;COCONUT"),
   (0x1f966, "BROCCOLI;PIE;PRETZEL;CUT OF MEAT;SANDWICH;CANNED FOOD;LEAFY GREEN;MANGO"),
   (0x1f96e, "MOON CAKE;BAGEL;SMILING FACE WITH SMILING EYES AND THREE HEARTS;YAWNING FACE"),
   (0x1f972, "SMILING FACE WITH TEAR;FACE WITH PARTY HORN AND PARTY HAT"),
   (0x1f974, "FACE WITH UNEVEN EYES AND WAVY MOUTH;OVERHEATED FACE;FREEZING FACE;NINJA"),
   (0x1f978, "DISGUISED FACE;FACE HOLDING BACK TEARS;FACE WITH PLEADING EYES;SARI;LAB COAT"),
   (0x1f97d, "GOGGLES;HIKING BOOT;FLAT SHOE;CRAB;LION FACE;SCORPION;TURKEY;UNICORN FACE"),
   (0x1f985, "EAGLE;DUCK;BAT;SHARK;OWL;FOX FACE;BUTTERFLY;DEER;GORILLA;LIZARD;RHINOCEROS"),
   (0x1f990, "SHRIMP;SQUID;GIRAFFE FACE;ZEBRA FACE;HEDGEHOG;SAUROPOD;T-REX;CRICKET;KANGAROO"),
   (0x1f999, "LLAMA;PEACOCK;HIPPOPOTAMUS;PARROT;RACCOON;LOBSTER;MOSQUITO;MICROBE;BADGER;SWAN"),
   (0x1f9a3, "MAMMOTH;DODO;SLOTH;OTTER;ORANGUTAN;SKUNK;FLAMINGO;OYSTER;BEAVER;BISON;SEAL"),
   (0x1f9ae, "GUIDE DOG;PROBING CANE;EMOJI COMPONENT RED HAIR;EMOJI COMPONENT CURLY HAIR"),
   (0x1f9b2, "EMOJI COMPONENT BALD;EMOJI COMPONENT WHITE HAIR;BONE;LEG;FOOT;TOOTH;SUPERHERO"),
   (0x1f9b9, "SUPERVILLAIN;SAFETY VEST;EAR WITH HEARING AID;MOTORIZED WHEELCHAIR"),
   (0x1f9bd, "MANUAL WHEELCHAIR;MECHANICAL ARM;MECHANICAL LEG;CHEESE WEDGE;CUPCAKE"),
   (0x1f9c2, "SALT SHAKER;BEVERAGE BOX;GARLIC;ONION;FALAFEL;WAFFLE;BUTTER;MATE DRINK"),
   (0x1f9ca, "ICE CUBE;BUBBLE TEA;TROLL;STANDING PERSON;KNEELING PERSON;DEAF PERSON"),
   (0x1f9d0, "FACE WITH MONOCLE;ADULT;CHILD;OLDER ADULT;BEARDED PERSON;PERSON WITH HEADSCARF"),
   (0x1f9d6, "PERSON IN STEAMY ROOM;PERSON CLIMBING;PERSON IN LOTUS POSITION;MAGE;FAIRY"),
   (0x1f9db, "VAMPIRE;MERPERSON;ELF;GENIE;ZOMBIE;BRAIN;ORANGE HEART;BILLED CAP;SCARF;GLOVES"),
   (0x1f9e5, "COAT;SOCKS;RED GIFT ENVELOPE;FIRECRACKER;JIGSAW PUZZLE PIECE;TEST TUBE"),
   (0x1f9eb, "PETRI DISH;DNA DOUBLE HELIX;COMPASS;ABACUS;FIRE EXTINGUISHER;TOOLBOX;BRICK"),
   (0x1f9f2, "MAGNET;LUGGAGE;LOTION BOTTLE;SPOOL OF THREAD;BALL OF YARN;SAFETY PIN"),
   (0x1f9f8, "TEDDY BEAR;BROOM;BASKET;ROLL OF PAPER;BAR OF SOAP;SPONGE;RECEIPT;NAZAR AMULET"),
   (0x1fa00, "NEUTRAL CHESS KING;NEUTRAL CHESS QUEEN;NEUTRAL CHESS ROOK;NEUTRAL CHESS BISHOP"),
   (0x1fa04, "NEUTRAL CHESS KNIGHT;NEUTRAL CHESS PAWN"),
   (0x1fa06, "WHITE CHESS KNIGHT ROTATED FORTY-FIVE DEGREES"),
   (0x1fa07, "BLACK CHESS KNIGHT ROTATED FORTY-FIVE DEGREES"),
   (0x1fa08, "NEUTRAL CHESS KNIGHT ROTATED FORTY-FIVE DEGREES"),
   (0x1fa09, "WHITE CHESS KING ROTATED NINETY DEGREES"),
   (0x1fa0a, "WHITE CHESS QUEEN ROTATED NINETY DEGREES"),
   (0x1fa0b, "WHITE CHESS ROOK ROTATED NINETY DEGREES"),
   (0x1fa0c, "WHITE CHESS BISHOP ROTATED NINETY DEGREES"),
   (0x1fa0d, "WHITE CHESS KNIGHT ROTATED NINETY DEGREES"),
   (0x1fa0e, "WHITE CHESS PAWN ROTATED NINETY DEGREES"),
   (0x1fa0f, "BLACK CHESS KING ROTATED NINETY DEGREES"),
   (0x1fa10, "BLACK CHESS QUEEN ROTATED NINETY DEGREES"),
   (0x1fa11, "BLACK CHESS ROOK ROTATED NINETY DEGREES"),
   (0x1fa12, "BLACK CHESS BISHOP ROTATED NINETY DEGREES"),
   (0x1fa13, "BLACK CHESS KNIGHT ROTATED NINETY DEGREES"),
   (0x1fa14, "BLACK CHESS PAWN ROTATED NINETY DEGREES"),
   (0x1fa15, "NEUTRAL CHESS KING ROTATED NINETY DEGREES"),
   (0x1fa16, "NEUTRAL CHESS QUEEN ROTATED NINETY DEGREES"),
   (0x1fa17, "NEUTRAL CHESS ROOK ROTATED NINETY DEGREES"),
   (0x1fa18, "NEUTRAL CHESS BISHOP ROTATED NINETY DEGREES"),
   (0x1fa19, "NEUTRAL CHESS KNIGHT ROTATED NINETY DEGREES"),
   (0x1fa1a, "NEUTRAL CHESS PAWN ROTATED NINETY DEGREES"),
   (0x1fa1b, "WHITE CHESS KNIGHT ROTATED ONE HUNDRED THIRTY-FIVE DEGREES"),
   (0x1fa1c, "BLACK CHESS KNIGHT ROTATED ONE HUNDRED THIRTY-FIVE DEGREES"),
   (0x1fa1d, "NEUTRAL CHESS KNIGHT ROTATED ONE HUNDRED THIRTY-FIVE DEGREES"),
   (0x1fa1e, "WHITE CHESS TURNED KING;WHITE CHESS TURNED QUEEN;WHITE CHESS TURNED ROOK"),
   (0x1fa21, "WHITE CHESS TURNED BISHOP;WHITE CHESS TURNED KNIGHT;WHITE CHESS TURNED PAWN"),
   (0x1fa24, "BLACK CHESS TURNED KING;BLACK CHESS TURNED QUEEN;BLACK CHESS TURNED ROOK"),
   (0x1fa27, "BLACK CHESS TURNED BISHOP;BLACK CHESS TURNED KNIGHT;BLACK CHESS TURNED PAWN"),
   (0x1fa2a, "NEUTRAL CHESS TURNED KING;NEUTRAL CHESS TURNED QUEEN;NEUTRAL CHESS TURNED ROOK"),
   (0x1fa2d, "NEUTRAL CHESS TURNED BISHOP;NEUTRAL CHESS TURNED KNIGHT"),
   (0x1fa2f, "NEUTRAL CHESS TURNED PAWN"),
   (0x1fa30, "WHITE CHESS KNIGHT ROTATED TWO HUNDRED TWENTY-FIVE DEGREES"),
   (0x1fa31, "BLACK CHESS KNIGHT ROTATED TWO HUNDRED TWENTY-FIVE DEGREES"),
   (0x1fa32, "NEUTRAL CHESS KNIGHT ROTATED TWO HUNDRED TWENTY-FIVE DEGREES"),
   (0x1fa33, "WHITE CHESS KING ROTATED TWO HUNDRED SEVENTY DEGREES"),
   (0x1fa34, "WHITE CHESS QUEEN ROTATED TWO HUNDRED SEVENTY DEGREES"),
   (0x1fa35, "WHITE CHESS ROOK ROTATED TWO HUNDRED SEVENTY DEGREES"),
   (0x1fa36, "WHITE CHESS BISHOP ROTATED TWO HUNDRED SEVENTY DEGREES"),
   (0x1fa37, "WHITE CHESS KNIGHT ROTATED TWO HUNDRED SEVENTY DEGREES"),
   (0x1fa38, "WHITE CHESS PAWN ROTATED TWO HUNDRED SEVENTY DEGREES"),
   (0x1fa39, "BLACK CHESS KING ROTATED TWO HUNDRED SEVENTY DEGREES"),
   (0x1fa3a, "BLACK CHESS QUEEN ROTATED TWO HUNDRED SEVENTY DEGREES"),
   (0x1fa3b, "BLACK CHESS ROOK ROTATED TWO HUNDRED SEVENTY DEGREES"),
   (0x1fa3c, "BLACK CHESS BISHOP ROTATED TWO HUNDRED SEVENTY DEGREES"),
   (0x1fa3d, "BLACK CHESS KNIGHT ROTATED TWO HUNDRED SEVENTY DEGREES"),
   (0x1fa3e, "BLACK CHESS PAWN ROTATED TWO HUNDRED SEVENTY DEGREES"),
   (0x1fa3f, "NEUTRAL CHESS KING ROTATED TWO HUNDRED SEVENTY DEGREES"),
   (0x1fa40, "NEUTRAL CHESS QUEEN ROTATED TWO HUNDRED SEVENTY DEGREES"),
   (0x1fa41, "NEUTRAL CHESS ROOK ROTATED TWO HUNDRED SEVENTY DEGREES"),
   (0x1fa42, "NEUTRAL CHESS BISHOP ROTATED TWO HUNDRED SEVENTY DEGREES"),
   (0x1fa43, "NEUTRAL CHESS KNIGHT ROTATED TWO HUNDRED SEVENTY DEGREES"),
   (0x1fa44, "NEUTRAL CHESS PAWN ROTATED TWO HUNDRED SEVENTY DEGREES"),
   (0x1fa45, "WHITE CHESS KNIGHT ROTATED THREE HUNDRED FIFTEEN DEGREES"),
   (0x1fa46, "BLACK CHESS KNIGHT ROTATED THREE HUNDRED FIFTEEN DEGREES"),
   (0x1fa47, "NEUTRAL CHESS KNIGHT ROTATED THREE HUNDRED FIFTEEN DEGREES"),
   (0x1fa48, "WHITE CHESS EQUIHOPPER;BLACK CHESS EQUIHOPPER;NEUTRAL CHESS EQUIHOPPER"),
   (0x1fa4b, "WHITE CHESS EQUIHOPPER ROTATED NINETY DEGREES"),
   (0x1fa4c, "BLACK CHESS EQUIHOPPER ROTATED NINETY DEGREES"),
   (0x1fa4d, "NEUTRAL CHESS EQUIHOPPER ROTATED NINETY DEGREES;WHITE CHESS KNIGHT-QUEEN"),
   (0x1fa4f, "WHITE CHESS KNIGHT-ROOK;WHITE CHESS KNIGHT-BISHOP;BLACK CHESS KNIGHT-QUEEN"),
   (0x1fa52, "BLACK CHESS KNIGHT-ROOK;BLACK CHESS KNIGHT-BISHOP"),
   (0x1fa60, "XIANGQI RED GENERAL;XIANGQI RED MANDARIN;XIANGQI RED ELEPHANT"),
   (0x1fa63, "XIANGQI RED HORSE;XIANGQI RED CHARIOT;XIANGQI RED CANNON;XIANGQI RED SOLDIER"),
   (0x1fa67, "XIANGQI BLACK GENERAL;XIANGQI BLACK MANDARIN;XIANGQI BLACK ELEPHANT"),
   (0x1fa6a, "XIANGQI BLACK HORSE;XIANGQI BLACK CHARIOT;XIANGQI BLACK CANNON"),
   (0x1fa6d, "XIANGQI BLACK SOLDIER"),
   (0x1fa70, "BALLET SHOES;ONE-PIECE SWIMSUIT;BRIEFS;SHORTS;THONG SANDAL"),
   (0x1fa78, "DROP OF BLOOD;ADHESIVE BANDAGE;STETHOSCOPE;X-RAY;CRUTCH"),
   (0x1fa80, "YO-YO;KITE;PARACHUTE;BOOMERANG;MAGIC WAND;PINATA;NESTING DOLLS"),
   (0x1fa90, "RINGED PLANET;CHAIR;RAZOR;AXE;DIYA LAMP;BANJO;MILITARY HELMET;ACCORDION"),
   (0x1fa98, "LONG DRUM;COIN;CARPENTRY SAW;SCREWDRIVER;LADDER;HOOK;MIRROR;WINDOW;PLUNGER"),
   (0x1faa1, "SEWING NEEDLE;KNOT;BUCKET;MOUSE TRAP;TOOTHBRUSH;HEADSTONE;PLACARD;ROCK"),
   (0x1faa9, "MIRROR BALL;IDENTIFICATION CARD;LOW BATTERY;HAMSA"),
   (0x1fab0, "FLY;WORM;BEETLE;COCKROACH;POTTED PLANT;WOOD;FEATHER;LOTUS;CORAL;EMPTY NEST"),
   (0x1faba, "NEST WITH EGGS"),
   (0x1fac0, "ANATOMICAL HEART;LUNGS;PEOPLE HUGGING;PREGNANT MAN;PREGNANT PERSON"),
   (0x1fac5, "PERSON WITH CROWN"),
   (0x1fad0, "BLUEBERRIES;BELL PEPPER;OLIVE;FLATBREAD;TAMALE;FONDUE;TEAPOT;POURING LIQUID"),
   (0x1fad8, "BEANS;JAR"),
   (0x1fae0, "MELTING FACE;SALUTING FACE;FACE WITH OPEN EYES AND HAND OVER MOUTH"),
   (0x1fae3, "FACE WITH PEEKING EYE;FACE WITH DIAGONAL MOUTH;DOTTED LINE FACE;BITING LIP"),
   (0x1fae7, "BUBBLES"),
   (0x1faf0, "HAND WITH INDEX FINGER AND THUMB CROSSED;RIGHTWARDS HAND;LEFTWARDS HAND"),
   (0x1faf3, "PALM DOWN HAND;PALM UP HAND;INDEX POINTING AT THE VIEWER;HEART HANDS")]

def nameRows : List (List (Nat × String)) :=
  [latinNames,
   greekCyrillicNames,
   hebrewArabicNames,
   latinAdditionalNames,
   punctuationNames,
   mathematicalNames,
   graphicNames,
   dingbatNames,
   furtherSignNames,
   kanaNames,
   pictographNames,
   emoticonNames]

/-- Further names, each row for one code point. -/
def aliasRows : List (Nat × String) :=
  [
   (0x0, "NULL;NUL"),
   (0x1, "START OF HEADING;SOH"),
   (0x2, "START OF TEXT;STX"),
   (0x3, "END OF TEXT;ETX"),
   (0x4, "END OF TRANSMISSION;EOT"),
   (0x5, "ENQUIRY;ENQ"),
   (0x6, "ACKNOWLEDGE;ACK"),
   (0x7, "ALERT;BEL"),
   (0x8, "BACKSPACE;BS"),
   (0x9, "CHARACTER TABULATION;HORIZONTAL TABULATION;HT;TAB"),
   (0xa, "LINE FEED;NEW LINE;END OF LINE;LF;NL;EOL"),
   (0xb, "LINE TABULATION;VERTICAL TABULATION;VT"),
   (0xc, "FORM FEED;FF"),
   (0xd, "CARRIAGE RETURN;CR"),
   (0xe, "SHIFT OUT;LOCKING-SHIFT ONE;SO"),
   (0xf, "SHIFT IN;LOCKING-SHIFT ZERO;SI"),
   (0x10, "DATA LINK ESCAPE;DLE"),
   (0x11, "DEVICE CONTROL ONE;DC1"),
   (0x12, "DEVICE CONTROL TWO;DC2"),
   (0x13, "DEVICE CONTROL THREE;DC3"),
   (0x14, "DEVICE CONTROL FOUR;DC4"),
   (0x15, "NEGATIVE ACKNOWLEDGE;NAK"),
   (0x16, "SYNCHRONOUS IDLE;SYN"),
   (0x17, "END OF TRANSMISSION BLOCK;ETB"),
   (0x18, "CANCEL;CAN"),
   (0x19, "END OF MEDIUM;EOM;EM"),
   (0x1a, "SUBSTITUTE;SUB"),
   (0x1b, "ESCAPE;ESC"),
   (0x1c, "INFORMATION SEPARATOR FOUR;FILE SEPARATOR;FS"),
   (0x1d, "INFORMATION SEPARATOR THREE;GROUP SEPARATOR;GS"),
   (0x1e, "INFORMATION SEPARATOR TWO;RECORD SEPARATOR;RS"),
   (0x1f, "INFORMATION SEPARATOR ONE;UNIT SEPARATOR;US"),
   (0x20, "SP"),
   (0x7f, "DELETE;DEL"),
   (0x80, "PADDING CHARACTER;PAD"),
   (0x81, "HIGH OCTET PRESET;HOP"),
   (0x82, "BREAK PERMITTED HERE;BPH"),
   (0x83, "NO BREAK HERE;NBH"),
   (0x84, "INDEX;IND"),
   (0x85, "NEXT LINE;NEL"),
   (0x86, "START OF SELECTED AREA;SSA"),
   (0x87, "END OF SELECTED AREA;ESA"),
   (0x88, "CHARACTER TABULATION SET;HORIZONTAL TABULATION SET;HTS"),
   (0x89, "CHARACTER TABULATION WITH JUSTIFICATION;HORIZONTAL TABULATION WITH JUSTIFICATION;HTJ"),
   (0x8a, "LINE TABULATION SET;VERTICAL TABULATION SET;VTS"),
   (0x8b, "PARTIAL LINE FORWARD;PARTIAL LINE DOWN;PLD"),
   (0x8c, "PARTIAL LINE BACKWARD;PARTIAL LINE UP;PLU"),
   (0x8d, "REVERSE LINE FEED;REVERSE INDEX;RI"),
   (0x8e, "SINGLE SHIFT TWO;SINGLE-SHIFT-2;SS2"),
   (0x8f, "SINGLE SHIFT THREE;SINGLE-SHIFT-3;SS3"),
   (0x90, "DEVICE CONTROL STRING;DCS"),
   (0x91, "PRIVATE USE ONE;PRIVATE USE-1;PU1"),
   (0x92, "PRIVATE USE TWO;PRIVATE USE-2;PU2"),
   (0x93, "SET TRANSMIT STATE;STS"),
   (0x94, "CANCEL CHARACTER;CCH"),
   (0x95, "MESSAGE WAITING;MW"),
   (0x96, "START OF GUARDED AREA;START OF PROTECTED AREA;SPA"),
   (0x97, "END OF GUARDED AREA;END OF PROTECTED AREA;EPA"),
   (0x98, "START OF STRING;SOS"),
   (0x99, "SINGLE GRAPHIC CHARACTER INTRODUCER;SGC"),
   (0x9a, "SINGLE CHARACTER INTRODUCER;SCI"),
   (0x9b, "CONTROL SEQUENCE INTRODUCER;CSI"),
   (0x9c, "STRING TERMINATOR;ST"),
   (0x9d, "OPERATING SYSTEM COMMAND;OSC"),
   (0x9e, "PRIVACY MESSAGE;PM"),
   (0x9f, "APPLICATION PROGRAM COMMAND;APC"),
   (0xa0, "NBSP"),
   (0xad, "SHY"),
   (0x34f, "CGJ"),
   (0x200b, "ZWSP"),
   (0x200c, "ZWNJ"),
   (0x200d, "ZWJ"),
   (0x200e, "LRM"),
   (0x200f, "RLM"),
   (0x202a, "LRE"),
   (0x202b, "RLE"),
   (0x202c, "PDF"),
   (0x202d, "LRO"),
   (0x202e, "RLO"),
   (0x202f, "NNBSP"),
   (0x205f, "MMSP"),
   (0x2060, "WJ"),
   (0x2066, "LRI"),
   (0x2067, "RLI"),
   (0x2068, "FSI"),
   (0x2069, "PDI"),
   (0x2118, "WEIERSTRASS ELLIPTIC FUNCTION"),
   (0xfeff, "BYTE ORDER MARK;BOM;ZWNBSP")]

def placeOfName? (name : List Char) (row : List (List Char)) : Option Nat := row.findIdx? (· == name)

/-- The code point of a name that the table lists. -/
def listedName? (name : List Char) : List (Nat × String) → Option Nat
  | [] => none
  | (start, names) :: rest =>
    match placeOfName? name (splitAt (· == ';') names.toList) with
    | some i => some (start + i)
    | none => listedName? name rest

/-- The code point of a further name. -/
def aliasName? (name : List Char) : List (Nat × String) → Option Nat
  | [] => none
  | (code, names) :: rest =>
    if (splitAt (· == ';') names.toList).contains name then some code else aliasName? name rest

/-! ### Names by rule -/

/-- The code points of the ideographs. -/
def ideographIntervals : List (Nat × Nat) :=
  [(0x3400, 0x4dbf), (0x4e00, 0x9fff), (0x20000, 0x2a6df), (0x2a700, 0x2b738), (0x2b740, 0x2b81d),
   (0x2b820, 0x2cea1), (0x2ceb0, 0x2ebe0), (0x30000, 0x3134a)]

/-- The value of four or five hexadecimal digits in upper case. -/
def ideographCode? (cs : List Char) : Option Nat :=
  if cs.length ≠ 4 ∧ cs.length ≠ 5 then none
  else
    cs.foldl (fun n c =>
      match n, hexValue? c with
      | some n, some d => if 'a' ≤ c then none else some (n * 16 + d)
      | _, _ => none) (some 0)

/-- The leading consonants of Hangul syllables. -/
def hangulLeads : List String :=
  ["G", "GG", "N", "D", "DD", "R", "M", "B", "BB", "S", "SS", "", "J", "JJ", "C", "K", "T", "P", "H"]

def hangulVowels : List String :=
  ["A", "AE", "YA", "YAE", "EO", "E", "YEO", "YE", "O", "WA", "WAE", "OE", "YO", "U", "WEO", "WE",
   "WI", "YU", "EU", "YI", "I"]

/-- The final consonants of Hangul syllables. -/
def hangulTails : List String :=
  ["", "G", "GG", "GS", "N", "NJ", "NH", "D", "L", "LG", "LM", "LB", "LS", "LT", "LP", "LH", "M",
   "B", "BS", "S", "SS", "NG", "J", "C", "K", "T", "P", "H"]

/-- The sounds that a text begins with: the number of each, and what follows it. -/
def soundsAt (sounds : List String) (cs : List Char) : List (Nat × List Char) :=
  sounds.zipIdx.filterMap fun s => (dropLead s.1.toList cs).map fun rest => (s.2, rest)

/-- The code point of a Hangul syllable by its sounds. -/
def hangulCode? (cs : List Char) : Option Nat :=
  ((soundsAt hangulLeads cs).flatMap fun l =>
    (soundsAt hangulVowels l.2).flatMap fun v =>
      (soundsAt hangulTails v.2).filterMap fun t =>
        if t.2.isEmpty then some (0xac00 + (l.1 * 21 + v.1) * 28 + t.1) else none).head?

/-- The code point of a name that follows a rule. -/
def ruledName? (name : List Char) : Option Nat :=
  match dropLead "CJK UNIFIED IDEOGRAPH-".toList name with
  | some digits => (ideographCode? digits).filter (inIntervals · ideographIntervals)
  | none =>
    match dropLead "HANGUL SYLLABLE ".toList name with
    | some sounds => hangulCode? sounds
    | none => none

/-- The code point of the character with a name. -/
def named? (name : List Char) : Option Nat :=
  let upper := name.map upperAscii
  match ruledName? name with
  | some n => some n
  | none =>
    match nameRows.findSome? (listedName? upper) with
    | some n => some n
    | none => aliasName? upper aliasRows

end MergeGate.Text
