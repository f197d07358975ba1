import DirectiveLint.Character.Name.Row

/-!
# Names of symbols

Names of punctuation, signs and symbols between U+2000 and U+2E7F.
-/

namespace DirectiveLint
namespace Character

/-- Names of punctuation, signs and symbols between U+2000 and U+2E7F. -/
def symbolNames : Array NameRow := #[
  ⟨0x2000, "0EN QUAD;0EM QUAD;0EN SPACE;0EM SPACE;0THREE-PER-EM SPACE;0FOUR-PER-EM SPACE"⟩,
  ⟨0x2006, "0SIX-PER-EM SPACE;0FIGURE SPACE;0PUNCTUATION SPACE;0THIN SPACE;0HAIR SPACE"⟩,
  ⟨0x200b, "0ZERO WIDTH SPACE;2NON-JOINER;2JOINER;0LEFT-TO-RIGHT MARK;0RIGHT-TO-LEFT MARK;0HYPHEN"⟩,
  ⟨0x2011, "0NON-BREAKING HYPHEN;0FIGURE DASH;0EN DASH;0EM DASH;0HORIZONTAL BAR"⟩,
  ⟨0x2016, "0DOUBLE VERTICAL LINE;1LOW LINE;0LEFT SINGLE QUOTATION MARK"⟩,
  ⟨0x2019, "0RIGHT SINGLE QUOTATION MARK;0SINGLE LOW-9 QUOTATION MARK"⟩,
  ⟨0x201b, "1HIGH-REVERSED-9 QUOTATION MARK;0LEFT DOUBLE QUOTATION MARK"⟩,
  ⟨0x201d, "0RIGHT DOUBLE QUOTATION MARK;0DOUBLE LOW-9 QUOTATION MARK"⟩,
  ⟨0x201f, "1HIGH-REVERSED-9 QUOTATION MARK;0DAGGER;0DOUBLE DAGGER;0BULLET;0TRIANGULAR BULLET"⟩,
  ⟨0x2024, "0ONE DOT LEADER;0TWO DOT LEADER;0HORIZONTAL ELLIPSIS;0HYPHENATION POINT"⟩,
  ⟨0x2028, "0LINE SEPARATOR;0PARAGRAPH SEPARATOR;0LEFT-TO-RIGHT EMBEDDING"⟩,
  ⟨0x202b, "0RIGHT-TO-LEFT EMBEDDING;0POP DIRECTIONAL FORMATTING;0LEFT-TO-RIGHT OVERRIDE"⟩,
  ⟨0x202e, "0RIGHT-TO-LEFT OVERRIDE;0NARROW NO-BREAK SPACE;0PER MILLE SIGN;1TEN THOUSAND SIGN"⟩,
  ⟨0x2032, "0PRIME;0DOUBLE PRIME;0TRIPLE PRIME;0REVERSED PRIME;1DOUBLE PRIME;1TRIPLE PRIME;0CARET"⟩,
  ⟨0x2039, "0SINGLE LEFT-POINTING ANGLE QUOTATION MARK;1RIGHT-POINTING ANGLE QUOTATION MARK"⟩,
  ⟨0x203b, "0REFERENCE MARK;0DOUBLE EXCLAMATION MARK;0INTERROBANG;0OVERLINE;0UNDERTIE"⟩,
  ⟨0x2040, "0CHARACTER TIE;0CARET INSERTION POINT;0ASTERISM;0HYPHEN BULLET;0FRACTION SLASH"⟩,
  ⟨0x2045, "0LEFT SQUARE BRACKET WITH QUILL;0RIGHT SQUARE BRACKET WITH QUILL"⟩,
  ⟨0x2047, "0DOUBLE QUESTION MARK;0QUESTION EXCLAMATION MARK;0EXCLAMATION QUESTION MARK"⟩,
  ⟨0x204a, "0TIRONIAN SIGN ET;0REVERSED PILCROW SIGN;0BLACK LEFTWARDS BULLET;1RIGHTWARDS BULLET"⟩,
  ⟨0x204e, "0LOW ASTERISK;0REVERSED SEMICOLON;0CLOSE UP;0TWO ASTERISKS ALIGNED VERTICALLY"⟩,
  ⟨0x2052, "0COMMERCIAL MINUS SIGN;0SWUNG DASH;0INVERTED UNDERTIE;0FLOWER PUNCTUATION MARK"⟩,
  ⟨0x2056, "0THREE DOT PUNCTUATION;0QUADRUPLE PRIME;0FOUR DOT PUNCTUATION;0FIVE DOT PUNCTUATION"⟩,
  ⟨0x205a, "0TWO DOT PUNCTUATION;0FOUR DOT MARK;0DOTTED CROSS;0TRICOLON;0VERTICAL FOUR DOTS"⟩,
  ⟨0x205f, "0MEDIUM MATHEMATICAL SPACE;0WORD JOINER;0FUNCTION APPLICATION;0INVISIBLE TIMES"⟩,
  ⟨0x2063, "1SEPARATOR;1PLUS"⟩,
  ⟨0x2066, "0LEFT-TO-RIGHT ISOLATE;0RIGHT-TO-LEFT ISOLATE;0FIRST STRONG ISOLATE"⟩,
  ⟨0x2069, "0POP DIRECTIONAL ISOLATE;0INHIBIT SYMMETRIC SWAPPING;0ACTIVATE SYMMETRIC SWAPPING"⟩,
  ⟨0x206c, "0INHIBIT ARABIC FORM SHAPING;0ACTIVATE ARABIC FORM SHAPING;0NATIONAL DIGIT SHAPES"⟩,
  ⟨0x206f, "0NOMINAL DIGIT SHAPES;0SUPERSCRIPT ZERO;1LATIN SMALL LETTER I"⟩,
  ⟨0x2074, "1FOUR;1FIVE;1SIX;1SEVEN;1EIGHT;1NINE;1PLUS SIGN;1MINUS;1EQUALS SIGN;1LEFT PARENTHESIS"⟩,
  ⟨0x207e, "1RIGHT PARENTHESIS;1LATIN SMALL LETTER N;0SUBSCRIPT ZERO;1ONE;1TWO;1THREE;1FOUR;1FIVE"⟩,
  ⟨0x2086, "1SIX;1SEVEN;1EIGHT;1NINE;1PLUS SIGN;1MINUS;1EQUALS SIGN;1LEFT PARENTHESIS"⟩,
  ⟨0x208e, "1RIGHT PARENTHESIS"⟩,
  ⟨0x2090, "0LATIN SUBSCRIPT SMALL LETTER A;4E;4O;4X;4SCHWA;4H;4K;4L;4M;4N;4P;4S;4T"⟩,
  ⟨0x20a0, "0EURO-CURRENCY SIGN;0COLON SIGN;0CRUZEIRO SIGN;0FRENCH FRANC SIGN;0LIRA SIGN"⟩,
  ⟨0x20a5, "0MILL SIGN;0NAIRA SIGN;0PESETA SIGN;0RUPEE SIGN;0WON SIGN;0NEW SHEQEL SIGN;0DONG SIGN"⟩,
  ⟨0x20ac, "0EURO SIGN;0KIP SIGN;0TUGRIK SIGN;0DRACHMA SIGN;0GERMAN PENNY SIGN;0PESO SIGN"⟩,
  ⟨0x20b2, "0GUARANI SIGN;0AUSTRAL SIGN;0HRYVNIA SIGN;0CEDI SIGN;0LIVRE TOURNOIS SIGN"⟩,
  ⟨0x20b7, "0SPESMILO SIGN;0TENGE SIGN;0INDIAN RUPEE SIGN;0TURKISH LIRA SIGN;0NORDIC MARK SIGN"⟩,
  ⟨0x20bc, "0MANAT SIGN;0RUBLE SIGN;0LARI SIGN;0BITCOIN SIGN;0SOM SIGN"⟩,
  ⟨0x20d0, "0COMBINING LEFT HARPOON ABOVE;1RIGHT HARPOON ABOVE;1LONG VERTICAL LINE OVERLAY"⟩,
  ⟨0x20d3, "1SHORT VERTICAL LINE OVERLAY;1ANTICLOCKWISE ARROW ABOVE;1CLOCKWISE ARROW ABOVE"⟩,
  ⟨0x20d6, "1LEFT ARROW ABOVE;1RIGHT ARROW ABOVE;1RING OVERLAY;1CLOCKWISE RING OVERLAY"⟩,
  ⟨0x20da, "1ANTICLOCKWISE RING OVERLAY;1THREE DOTS ABOVE;1FOUR DOTS ABOVE;1ENCLOSING CIRCLE"⟩,
  ⟨0x20de, "2SQUARE;2DIAMOND;2CIRCLE BACKSLASH;1LEFT RIGHT ARROW ABOVE;1ENCLOSING SCREEN;2KEYCAP"⟩,
  ⟨0x20e4, "2UPWARD POINTING TRIANGLE;1REVERSE SOLIDUS OVERLAY;1DOUBLE VERTICAL STROKE OVERLAY"⟩,
  ⟨0x20e7, "1ANNUITY SYMBOL;1TRIPLE UNDERDOT;1WIDE BRIDGE ABOVE;1LEFTWARDS ARROW OVERLAY"⟩,
  ⟨0x20eb, "1LONG DOUBLE SOLIDUS OVERLAY;1RIGHTWARDS HARPOON WITH BARB DOWNWARDS"⟩,
  ⟨0x20ed, "1LEFTWARDS HARPOON WITH BARB DOWNWARDS;1LEFT ARROW BELOW;1RIGHT ARROW BELOW"⟩,
  ⟨0x20f0, "1ASTERISK ABOVE"⟩,
  ⟨0x2100, "0ACCOUNT OF;0ADDRESSED TO THE SUBJECT;0DOUBLE-STRUCK CAPITAL C;0DEGREE CELSIUS"⟩,
  ⟨0x2104, "0CENTRE LINE SYMBOL;0CARE OF;0CADA UNA;0EULER CONSTANT;0SCRUPLE;0DEGREE FAHRENHEIT"⟩,
  ⟨0x210a, "0SCRIPT SMALL G;1CAPITAL H;0BLACK-LETTER CAPITAL H;0DOUBLE-STRUCK CAPITAL H"⟩,
  ⟨0x210e, "0PLANCK CONSTANT;1CONSTANT OVER TWO PI;0SCRIPT CAPITAL I;0BLACK-LETTER CAPITAL I"⟩,
  ⟨0x2112, "0SCRIPT CAPITAL L;1SMALL L;0L B BAR SYMBOL;0DOUBLE-STRUCK CAPITAL N;0NUMERO SIGN"⟩,
  ⟨0x2117, "0SOUND RECORDING COPYRIGHT;0SCRIPT CAPITAL P;0DOUBLE-STRUCK CAPITAL P;3Q"⟩,
  ⟨0x211b, "0SCRIPT CAPITAL R;0BLACK-LETTER CAPITAL R;0DOUBLE-STRUCK CAPITAL R;0PRESCRIPTION TAKE"⟩,
  ⟨0x211f, "0RESPONSE;0SERVICE MARK;0TELEPHONE SIGN;0TRADE MARK SIGN;0VERSICLE"⟩,
  ⟨0x2124, "0DOUBLE-STRUCK CAPITAL Z;0OUNCE SIGN;0OHM SIGN;0INVERTED OHM SIGN"⟩,
  ⟨0x2128, "0BLACK-LETTER CAPITAL Z;0TURNED GREEK SMALL LETTER IOTA;0KELVIN SIGN;0ANGSTROM SIGN"⟩,
  ⟨0x212c, "0SCRIPT CAPITAL B;0BLACK-LETTER CAPITAL C;0ESTIMATED SYMBOL;0SCRIPT SMALL E"⟩,
  ⟨0x2130, "1CAPITAL E;2F;0TURNED CAPITAL F;0SCRIPT CAPITAL M;1SMALL O;0ALEF SYMBOL;0BET SYMBOL"⟩,
  ⟨0x2137, "0GIMEL SYMBOL;0DALET SYMBOL;0INFORMATION SOURCE;0ROTATED CAPITAL Q;0FACSIMILE SIGN"⟩,
  ⟨0x213c, "0DOUBLE-STRUCK SMALL PI;3GAMMA;2CAPITAL GAMMA;3PI;2N-ARY SUMMATION"⟩,
  ⟨0x2141, "0TURNED SANS-SERIF CAPITAL G;4L;0REVERSED SANS-SERIF CAPITAL L"⟩,
  ⟨0x2144, "0TURNED SANS-SERIF CAPITAL Y;0DOUBLE-STRUCK ITALIC CAPITAL D;3SMALL D;4E;4I;4J"⟩,
  ⟨0x214a, "0PROPERTY LINE;0TURNED AMPERSAND;0PER SIGN;0AKTIESELSKAB;0TURNED SMALL F"⟩,
  ⟨0x214f, "0SYMBOL FOR SAMARITAN SOURCE;0VULGAR FRACTION ONE SEVENTH;3NINTH;3TENTH;3THIRD"⟩,
  ⟨0x2154, "2TWO THIRDS;2ONE FIFTH;2TWO FIFTHS;2THREE FIFTHS;2FOUR FIFTHS;2ONE SIXTH;2FIVE SIXTHS"⟩,
  ⟨0x215b, "2ONE EIGHTH;2THREE EIGHTHS;2FIVE EIGHTHS;2SEVEN EIGHTHS;0FRACTION NUMERATOR ONE"⟩,
  ⟨0x2160, "0ROMAN NUMERAL ONE;2TWO;2THREE;2FOUR;2FIVE;2SIX;2SEVEN;2EIGHT;2NINE;2TEN;2ELEVEN"⟩,
  ⟨0x216b, "2TWELVE;2FIFTY;2ONE HUNDRED;2FIVE HUNDRED;2ONE THOUSAND;0SMALL ROMAN NUMERAL ONE;3TWO"⟩,
  ⟨0x2172, "3THREE;3FOUR;3FIVE;3SIX;3SEVEN;3EIGHT;3NINE;3TEN;3ELEVEN;3TWELVE;3FIFTY;3ONE HUNDRED"⟩,
  ⟨0x217e, "3FIVE HUNDRED;3ONE THOUSAND;0ROMAN NUMERAL ONE THOUSAND C D;2FIVE THOUSAND"⟩,
  ⟨0x2182, "2TEN THOUSAND;2REVERSED ONE HUNDRED;0LATIN SMALL LETTER REVERSED C"⟩,
  ⟨0x2185, "0ROMAN NUMERAL SIX LATE FORM;2FIFTY EARLY FORM;3THOUSAND;2ONE HUNDRED THOUSAND"⟩,
  ⟨0x2189, "0VULGAR FRACTION ZERO THIRDS;0TURNED DIGIT TWO;2THREE"⟩,
  ⟨0x2190, "0LEFTWARDS ARROW;0UPWARDS ARROW;0RIGHTWARDS ARROW;0DOWNWARDS ARROW;0LEFT RIGHT ARROW"⟩,
  ⟨0x2195, "0UP DOWN ARROW;0NORTH WEST ARROW;1EAST ARROW;0SOUTH EAST ARROW;1WEST ARROW"⟩,
  ⟨0x219a, "0LEFTWARDS ARROW WITH STROKE;0RIGHTWARDS ARROW WITH STROKE;0LEFTWARDS WAVE ARROW"⟩,
  ⟨0x219d, "0RIGHTWARDS WAVE ARROW;0LEFTWARDS TWO HEADED ARROW;0UPWARDS TWO HEADED ARROW"⟩,
  ⟨0x21a0, "0RIGHTWARDS TWO HEADED ARROW;0DOWNWARDS TWO HEADED ARROW;0LEFTWARDS ARROW WITH TAIL"⟩,
  ⟨0x21a3, "0RIGHTWARDS ARROW WITH TAIL;0LEFTWARDS ARROW FROM BAR;0UPWARDS ARROW FROM BAR"⟩,
  ⟨0x21a6, "0RIGHTWARDS ARROW FROM BAR;0DOWNWARDS ARROW FROM BAR;0UP DOWN ARROW WITH BASE"⟩,
  ⟨0x21a9, "0LEFTWARDS ARROW WITH HOOK;0RIGHTWARDS ARROW WITH HOOK;0LEFTWARDS ARROW WITH LOOP"⟩,
  ⟨0x21ac, "0RIGHTWARDS ARROW WITH LOOP;0LEFT RIGHT WAVE ARROW;2ARROW WITH STROKE"⟩,
  ⟨0x21af, "0DOWNWARDS ZIGZAG ARROW;0UPWARDS ARROW WITH TIP LEFTWARDS;4RIGHTWARDS"⟩,
  ⟨0x21b2, "0DOWNWARDS ARROW WITH TIP LEFTWARDS;4RIGHTWARDS"⟩,
  ⟨0x21b4, "0RIGHTWARDS ARROW WITH CORNER DOWNWARDS;0DOWNWARDS ARROW WITH CORNER LEFTWARDS"⟩,
  ⟨0x21b6, "0ANTICLOCKWISE TOP SEMICIRCLE ARROW;0CLOCKWISE TOP SEMICIRCLE ARROW"⟩,
  ⟨0x21b8, "0NORTH WEST ARROW TO LONG BAR;0LEFTWARDS ARROW TO BAR OVER RIGHTWARDS ARROW TO BAR"⟩,
  ⟨0x21ba, "0ANTICLOCKWISE OPEN CIRCLE ARROW;0CLOCKWISE OPEN CIRCLE ARROW"⟩,
  ⟨0x21bc, "0LEFTWARDS HARPOON WITH BARB UPWARDS;4DOWNWARDS;0UPWARDS HARPOON WITH BARB RIGHTWARDS"⟩,
  ⟨0x21bf, "4LEFTWARDS;0RIGHTWARDS HARPOON WITH BARB UPWARDS;4DOWNWARDS"⟩,
  ⟨0x21c2, "0DOWNWARDS HARPOON WITH BARB RIGHTWARDS;4LEFTWARDS"⟩,
  ⟨0x21c4, "0RIGHTWARDS ARROW OVER LEFTWARDS ARROW;0UPWARDS ARROW LEFTWARDS OF DOWNWARDS ARROW"⟩,
  ⟨0x21c6, "0LEFTWARDS ARROW OVER RIGHTWARDS ARROW;1PAIRED ARROWS;0UPWARDS PAIRED ARROWS"⟩,
  ⟨0x21c9, "0RIGHTWARDS PAIRED ARROWS;0DOWNWARDS PAIRED ARROWS"⟩,
  ⟨0x21cb, "0LEFTWARDS HARPOON OVER RIGHTWARDS HARPOON;0RIGHTWARDS HARPOON OVER LEFTWARDS HARPOON"⟩,
  ⟨0x21cd, "0LEFTWARDS DOUBLE ARROW WITH STROKE;0LEFT RIGHT DOUBLE ARROW WITH STROKE"⟩,
  ⟨0x21cf, "0RIGHTWARDS DOUBLE ARROW WITH STROKE;0LEFTWARDS DOUBLE ARROW;0UPWARDS DOUBLE ARROW"⟩,
  ⟨0x21d2, "0RIGHTWARDS DOUBLE ARROW;0DOWNWARDS DOUBLE ARROW;0LEFT RIGHT DOUBLE ARROW"⟩,
  ⟨0x21d5, "0UP DOWN DOUBLE ARROW;0NORTH WEST DOUBLE ARROW;1EAST DOUBLE ARROW"⟩,
  ⟨0x21d8, "0SOUTH EAST DOUBLE ARROW;1WEST DOUBLE ARROW;0LEFTWARDS TRIPLE ARROW"⟩,
  ⟨0x21db, "0RIGHTWARDS TRIPLE ARROW;0LEFTWARDS SQUIGGLE ARROW;0RIGHTWARDS SQUIGGLE ARROW"⟩,
  ⟨0x21de, "0UPWARDS ARROW WITH DOUBLE STROKE;0DOWNWARDS ARROW WITH DOUBLE STROKE"⟩,
  ⟨0x21e0, "0LEFTWARDS DASHED ARROW;0UPWARDS DASHED ARROW;0RIGHTWARDS DASHED ARROW"⟩,
  ⟨0x21e3, "0DOWNWARDS DASHED ARROW;0LEFTWARDS ARROW TO BAR;0RIGHTWARDS ARROW TO BAR"⟩,
  ⟨0x21e6, "0LEFTWARDS WHITE ARROW;0UPWARDS WHITE ARROW;0RIGHTWARDS WHITE ARROW"⟩,
  ⟨0x21e9, "0DOWNWARDS WHITE ARROW;0UPWARDS WHITE ARROW FROM BAR;3ON PEDESTAL"⟩,
  ⟨0x21ec, "4PEDESTAL WITH HORIZONTAL BAR;6VERTICAL BAR;2DOUBLE ARROW;3ARROW ON PEDESTAL"⟩,
  ⟨0x21f0, "0RIGHTWARDS WHITE ARROW FROM WALL;0NORTH WEST ARROW TO CORNER"⟩,
  ⟨0x21f2, "0SOUTH EAST ARROW TO CORNER;0UP DOWN WHITE ARROW;0RIGHT ARROW WITH SMALL CIRCLE"⟩,
  ⟨0x21f5, "0DOWNWARDS ARROW LEFTWARDS OF UPWARDS ARROW;0THREE RIGHTWARDS ARROWS"⟩,
  ⟨0x21f7, "0LEFTWARDS ARROW WITH VERTICAL STROKE;0RIGHTWARDS ARROW WITH VERTICAL STROKE"⟩,
  ⟨0x21f9, "0LEFT RIGHT ARROW WITH VERTICAL STROKE;0LEFTWARDS ARROW WITH DOUBLE VERTICAL STROKE"⟩,
  ⟨0x21fb, "0RIGHTWARDS ARROW WITH DOUBLE VERTICAL STROKE"⟩,
  ⟨0x21fc, "0LEFT RIGHT ARROW WITH DOUBLE VERTICAL STROKE;0LEFTWARDS OPEN-HEADED ARROW"⟩,
  ⟨0x21fe, "0RIGHTWARDS OPEN-HEADED ARROW;0LEFT RIGHT OPEN-HEADED ARROW;0FOR ALL;0COMPLEMENT"⟩,
  ⟨0x2202, "0PARTIAL DIFFERENTIAL;0THERE EXISTS;1DOES NOT EXIST;0EMPTY SET;0INCREMENT;0NABLA"⟩,
  ⟨0x2208, "0ELEMENT OF;0NOT AN ELEMENT OF;0SMALL ELEMENT OF;0CONTAINS AS MEMBER"⟩,
  ⟨0x220c, "0DOES NOT CONTAIN AS MEMBER;0SMALL CONTAINS AS MEMBER;0END OF PROOF;0N-ARY PRODUCT"⟩,
  ⟨0x2210, "2COPRODUCT;2SUMMATION;0MINUS SIGN;0MINUS-OR-PLUS SIGN;0DOT PLUS;0DIVISION SLASH"⟩,
  ⟨0x2216, "0SET MINUS;0ASTERISK OPERATOR;0RING OPERATOR;0BULLET OPERATOR;0SQUARE ROOT;0CUBE ROOT"⟩,
  ⟨0x221c, "0FOURTH ROOT;0PROPORTIONAL TO;0INFINITY;0RIGHT ANGLE;0ANGLE;0MEASURED ANGLE"⟩,
  ⟨0x2222, "0SPHERICAL ANGLE;0DIVIDES;0DOES NOT DIVIDE;0PARALLEL TO;0NOT PARALLEL TO;0LOGICAL AND"⟩,
  ⟨0x2228, "1OR;0INTERSECTION;0UNION;0INTEGRAL;0DOUBLE INTEGRAL;0TRIPLE INTEGRAL"⟩,
  ⟨0x222e, "0CONTOUR INTEGRAL;0SURFACE INTEGRAL;0VOLUME INTEGRAL;0CLOCKWISE INTEGRAL"⟩,
  ⟨0x2232, "1CONTOUR INTEGRAL;0ANTICLOCKWISE CONTOUR INTEGRAL;0THEREFORE;0BECAUSE;0RATIO"⟩,
  ⟨0x2237, "0PROPORTION;0DOT MINUS;0EXCESS;0GEOMETRIC PROPORTION;0HOMOTHETIC;0TILDE OPERATOR"⟩,
  ⟨0x223d, "0REVERSED TILDE;0INVERTED LAZY S;0SINE WAVE;0WREATH PRODUCT;0NOT TILDE;0MINUS TILDE"⟩,
  ⟨0x2243, "0ASYMPTOTICALLY EQUAL TO;0NOT ASYMPTOTICALLY EQUAL TO;0APPROXIMATELY EQUAL TO"⟩,
  ⟨0x2246, "1BUT NOT ACTUALLY EQUAL TO;0NEITHER APPROXIMATELY NOR ACTUALLY EQUAL TO"⟩,
  ⟨0x2248, "0ALMOST EQUAL TO;0NOT ALMOST EQUAL TO;0ALMOST EQUAL OR EQUAL TO;0TRIPLE TILDE"⟩,
  ⟨0x224c, "0ALL EQUAL TO;0EQUIVALENT TO;0GEOMETRICALLY EQUIVALENT TO;0DIFFERENCE BETWEEN"⟩,
  ⟨0x2250, "0APPROACHES THE LIMIT;0GEOMETRICALLY EQUAL TO;0APPROXIMATELY EQUAL TO OR THE IMAGE OF"⟩,
  ⟨0x2253, "0IMAGE OF OR APPROXIMATELY EQUAL TO;0COLON EQUALS;0EQUALS COLON;0RING IN EQUAL TO"⟩,
  ⟨0x2257, "1EQUAL TO;0CORRESPONDS TO;0ESTIMATES;0EQUIANGULAR TO;0STAR EQUALS;0DELTA EQUAL TO"⟩,
  ⟨0x225d, "0EQUAL TO BY DEFINITION;0MEASURED BY;0QUESTIONED EQUAL TO;0NOT EQUAL TO;0IDENTICAL TO"⟩,
  ⟨0x2262, "0NOT IDENTICAL TO;0STRICTLY EQUIVALENT TO;0LESS-THAN OR EQUAL TO"⟩,
  ⟨0x2265, "0GREATER-THAN OR EQUAL TO;0LESS-THAN OVER EQUAL TO;0GREATER-THAN OVER EQUAL TO"⟩,
  ⟨0x2268, "0LESS-THAN BUT NOT EQUAL TO;0GREATER-THAN BUT NOT EQUAL TO;0MUCH LESS-THAN"⟩,
  ⟨0x226b, "1GREATER-THAN;0BETWEEN;0NOT EQUIVALENT TO;1LESS-THAN;1GREATER-THAN"⟩,
  ⟨0x2270, "0NEITHER LESS-THAN NOR EQUAL TO;1GREATER-THAN NOR EQUAL TO"⟩,
  ⟨0x2272, "0LESS-THAN OR EQUIVALENT TO;0GREATER-THAN OR EQUIVALENT TO"⟩,
  ⟨0x2274, "0NEITHER LESS-THAN NOR EQUIVALENT TO;1GREATER-THAN NOR EQUIVALENT TO"⟩,
  ⟨0x2276, "0LESS-THAN OR GREATER-THAN;0GREATER-THAN OR LESS-THAN"⟩,
  ⟨0x2278, "0NEITHER LESS-THAN NOR GREATER-THAN;1GREATER-THAN NOR LESS-THAN;0PRECEDES;0SUCCEEDS"⟩,
  ⟨0x227c, "0PRECEDES OR EQUAL TO;0SUCCEEDS OR EQUAL TO;0PRECEDES OR EQUIVALENT TO"⟩,
  ⟨0x227f, "0SUCCEEDS OR EQUIVALENT TO;0DOES NOT PRECEDE;2SUCCEED;0SUBSET OF;0SUPERSET OF"⟩,
  ⟨0x2284, "0NOT A SUBSET OF;2SUPERSET OF;0SUBSET OF OR EQUAL TO;0SUPERSET OF OR EQUAL TO"⟩,
  ⟨0x2288, "0NEITHER A SUBSET OF NOR EQUAL TO;2SUPERSET OF NOR EQUAL TO"⟩,
  ⟨0x228a, "0SUBSET OF WITH NOT EQUAL TO;0SUPERSET OF WITH NOT EQUAL TO;0MULTISET"⟩,
  ⟨0x228d, "0MULTISET MULTIPLICATION;1UNION;0SQUARE IMAGE OF;1ORIGINAL OF;1IMAGE OF OR EQUAL TO"⟩,
  ⟨0x2292, "1ORIGINAL OF OR EQUAL TO;1CAP;1CUP;0CIRCLED PLUS;1MINUS;1TIMES;1DIVISION SLASH"⟩,
  ⟨0x2299, "1DOT OPERATOR;1RING OPERATOR;1ASTERISK OPERATOR;1EQUALS;1DASH;0SQUARED PLUS;1MINUS"⟩,
  ⟨0x22a0, "1TIMES;1DOT OPERATOR;0RIGHT TACK;0LEFT TACK;0DOWN TACK;0UP TACK;0ASSERTION;0MODELS"⟩,
  ⟨0x22a8, "0TRUE;0FORCES;0TRIPLE VERTICAL BAR RIGHT TURNSTILE"⟩,
  ⟨0x22ab, "0DOUBLE VERTICAL BAR DOUBLE RIGHT TURNSTILE;0DOES NOT PROVE;0NOT TRUE;0DOES NOT FORCE"⟩,
  ⟨0x22af, "0NEGATED DOUBLE VERTICAL BAR DOUBLE RIGHT TURNSTILE;0PRECEDES UNDER RELATION"⟩,
  ⟨0x22b1, "0SUCCEEDS UNDER RELATION;0NORMAL SUBGROUP OF;0CONTAINS AS NORMAL SUBGROUP"⟩,
  ⟨0x22b4, "0NORMAL SUBGROUP OF OR EQUAL TO;0CONTAINS AS NORMAL SUBGROUP OR EQUAL TO;0ORIGINAL OF"⟩,
  ⟨0x22b7, "0IMAGE OF;0MULTIMAP;0HERMITIAN CONJUGATE MATRIX;0INTERCALATE;0XOR;0NAND;0NOR"⟩,
  ⟨0x22be, "0RIGHT ANGLE WITH ARC;1TRIANGLE;0N-ARY LOGICAL AND;3OR;2INTERSECTION;2UNION"⟩,
  ⟨0x22c4, "0DIAMOND OPERATOR;0DOT OPERATOR;0STAR OPERATOR;0DIVISION TIMES;0BOWTIE"⟩,
  ⟨0x22c9, "0LEFT NORMAL FACTOR SEMIDIRECT PRODUCT;0RIGHT NORMAL FACTOR SEMIDIRECT PRODUCT"⟩,
  ⟨0x22cb, "0LEFT SEMIDIRECT PRODUCT;0RIGHT SEMIDIRECT PRODUCT;0REVERSED TILDE EQUALS"⟩,
  ⟨0x22ce, "0CURLY LOGICAL OR;2AND;0DOUBLE SUBSET;1SUPERSET;1INTERSECTION;1UNION;0PITCHFORK"⟩,
  ⟨0x22d5, "0EQUAL AND PARALLEL TO;0LESS-THAN WITH DOT;0GREATER-THAN WITH DOT"⟩,
  ⟨0x22d8, "0VERY MUCH LESS-THAN;2GREATER-THAN;0LESS-THAN EQUAL TO OR GREATER-THAN"⟩,
  ⟨0x22db, "0GREATER-THAN EQUAL TO OR LESS-THAN;0EQUAL TO OR LESS-THAN;3GREATER-THAN;3PRECEDES"⟩,
  ⟨0x22df, "3SUCCEEDS;0DOES NOT PRECEDE OR EQUAL;2SUCCEED OR EQUAL"⟩,
  ⟨0x22e2, "0NOT SQUARE IMAGE OF OR EQUAL TO;2ORIGINAL OF OR EQUAL TO"⟩,
  ⟨0x22e4, "0SQUARE IMAGE OF OR NOT EQUAL TO;1ORIGINAL OF OR NOT EQUAL TO"⟩,
  ⟨0x22e6, "0LESS-THAN BUT NOT EQUIVALENT TO;0GREATER-THAN BUT NOT EQUIVALENT TO"⟩,
  ⟨0x22e8, "0PRECEDES BUT NOT EQUIVALENT TO;0SUCCEEDS BUT NOT EQUIVALENT TO"⟩,
  ⟨0x22ea, "0NOT NORMAL SUBGROUP OF;0DOES NOT CONTAIN AS NORMAL SUBGROUP"⟩,
  ⟨0x22ec, "0NOT NORMAL SUBGROUP OF OR EQUAL TO;0DOES NOT CONTAIN AS NORMAL SUBGROUP OR EQUAL"⟩,
  ⟨0x22ee, "0VERTICAL ELLIPSIS;0MIDLINE HORIZONTAL ELLIPSIS;0UP RIGHT DIAGONAL ELLIPSIS"⟩,
  ⟨0x22f1, "0DOWN RIGHT DIAGONAL ELLIPSIS;0ELEMENT OF WITH LONG HORIZONTAL STROKE"⟩,
  ⟨0x22f3, "3VERTICAL BAR AT END OF HORIZONTAL STROKE"⟩,
  ⟨0x22f4, "0SMALL ELEMENT OF WITH VERTICAL BAR AT END OF HORIZONTAL STROKE"⟩,
  ⟨0x22f5, "0ELEMENT OF WITH DOT ABOVE;3OVERBAR;0SMALL ELEMENT OF WITH OVERBAR"⟩,
  ⟨0x22f8, "0ELEMENT OF WITH UNDERBAR;3TWO HORIZONTAL STROKES"⟩,
  ⟨0x22fa, "0CONTAINS WITH LONG HORIZONTAL STROKE;2VERTICAL BAR AT END OF HORIZONTAL STROKE"⟩,
  ⟨0x22fc, "0SMALL CONTAINS WITH VERTICAL BAR AT END OF HORIZONTAL STROKE;0CONTAINS WITH OVERBAR"⟩,
  ⟨0x22fe, "0SMALL CONTAINS WITH OVERBAR;0Z NOTATION BAG MEMBERSHIP;0DIAMETER SIGN"⟩,
  ⟨0x2301, "0ELECTRIC ARROW;0HOUSE;0UP ARROWHEAD;0DOWN ARROWHEAD;0PROJECTIVE;0PERSPECTIVE"⟩,
  ⟨0x2307, "0WAVY LINE;0LEFT CEILING;0RIGHT CEILING;0LEFT FLOOR;0RIGHT FLOOR;0BOTTOM RIGHT CROP"⟩,
  ⟨0x230d, "1LEFT CROP;0TOP RIGHT CROP;1LEFT CROP;0REVERSED NOT SIGN;0SQUARE LOZENGE;0ARC"⟩,
  ⟨0x2313, "0SEGMENT;0SECTOR;0TELEPHONE RECORDER;0POSITION INDICATOR;0VIEWDATA SQUARE"⟩,
  ⟨0x2318, "0PLACE OF INTEREST SIGN;0TURNED NOT SIGN;0WATCH;0HOURGLASS;0TOP LEFT CORNER"⟩,
  ⟨0x231d, "1RIGHT CORNER;0BOTTOM LEFT CORNER;1RIGHT CORNER;0TOP HALF INTEGRAL"⟩,
  ⟨0x2321, "0BOTTOM HALF INTEGRAL;0FROWN;0SMILE;0UP ARROWHEAD BETWEEN TWO HORIZONTAL BARS"⟩,
  ⟨0x2325, "0OPTION KEY;0ERASE TO THE RIGHT;0X IN A RECTANGLE BOX;0KEYBOARD"⟩,
  ⟨0x2329, "0LEFT-POINTING ANGLE BRACKET;0RIGHT-POINTING ANGLE BRACKET;0ERASE TO THE LEFT"⟩,
  ⟨0x232c, "0BENZENE RING;0CYLINDRICITY;0ALL AROUND-PROFILE;0SYMMETRY;0TOTAL RUNOUT"⟩,
  ⟨0x2331, "0DIMENSION ORIGIN;0CONICAL TAPER;0SLOPE;0COUNTERBORE;0COUNTERSINK"⟩,
  ⟨0x2336, "0APL FUNCTIONAL SYMBOL I-BEAM;3SQUISH QUAD;3QUAD EQUAL;4DIVIDE;4DIAMOND;4JOT;4CIRCLE"⟩,
  ⟨0x233d, "3CIRCLE STILE;4JOT;3SLASH BAR;3BACKSLASH BAR;3QUAD SLASH;4BACKSLASH;4LESS-THAN"⟩,
  ⟨0x2344, "4GREATER-THAN;3LEFTWARDS VANE;3RIGHTWARDS VANE;3QUAD LEFTWARDS ARROW"⟩,
  ⟨0x2348, "4RIGHTWARDS ARROW;3CIRCLE BACKSLASH;3DOWN TACK UNDERBAR;3DELTA STILE;3QUAD DOWN CARET"⟩,
  ⟨0x234d, "4DELTA;3DOWN TACK JOT;3UPWARDS VANE;3QUAD UPWARDS ARROW;3UP TACK OVERBAR;3DEL STILE"⟩,
  ⟨0x2353, "3QUAD UP CARET;4DEL;3UP TACK JOT;3DOWNWARDS VANE;3QUAD DOWNWARDS ARROW"⟩,
  ⟨0x2358, "3QUOTE UNDERBAR;3DELTA UNDERBAR;3DIAMOND UNDERBAR;3JOT UNDERBAR;3CIRCLE UNDERBAR"⟩,
  ⟨0x235d, "3UP SHOE JOT;3QUOTE QUAD;3CIRCLE STAR;3QUAD COLON;3UP TACK DIAERESIS;3DEL DIAERESIS"⟩,
  ⟨0x2363, "3STAR DIAERESIS;3JOT DIAERESIS;3CIRCLE DIAERESIS;3DOWN SHOE STILE;3LEFT SHOE STILE"⟩,
  ⟨0x2368, "3TILDE DIAERESIS;3GREATER-THAN DIAERESIS;3COMMA BAR;3DEL TILDE;3ZILDE;3STILE TILDE"⟩,
  ⟨0x236e, "3SEMICOLON UNDERBAR;3QUAD NOT EQUAL;4QUESTION;3DOWN CARET TILDE;3UP CARET TILDE;3IOTA"⟩,
  ⟨0x2374, "3RHO;3OMEGA;3ALPHA UNDERBAR;3EPSILON UNDERBAR;3IOTA UNDERBAR;3OMEGA UNDERBAR;3ALPHA"⟩,
  ⟨0x237b, "0NOT CHECK MARK;0RIGHT ANGLE WITH DOWNWARDS ZIGZAG ARROW;0SHOULDERED OPEN BOX"⟩,
  ⟨0x237e, "0BELL SYMBOL;0VERTICAL LINE WITH MIDDLE DOT;0INSERTION SYMBOL"⟩,
  ⟨0x2381, "0CONTINUOUS UNDERLINE SYMBOL;0DISCONTINUOUS UNDERLINE SYMBOL;0EMPHASIS SYMBOL"⟩,
  ⟨0x2384, "0COMPOSITION SYMBOL;0WHITE SQUARE WITH CENTRE VERTICAL LINE;0ENTER SYMBOL"⟩,
  ⟨0x2387, "0ALTERNATIVE KEY SYMBOL;0HELM SYMBOL;0CIRCLED HORIZONTAL BAR WITH NOTCH"⟩,
  ⟨0x238a, "1TRIANGLE DOWN;0BROKEN CIRCLE WITH NORTHWEST ARROW;0UNDO SYMBOL;0MONOSTABLE SYMBOL"⟩,
  ⟨0x238e, "0HYSTERESIS SYMBOL;0OPEN-CIRCUIT-OUTPUT H-TYPE SYMBOL;3L-TYPE SYMBOL"⟩,
  ⟨0x2391, "0PASSIVE-PULL-DOWN-OUTPUT SYMBOL;2UP-OUTPUT SYMBOL;0DIRECT CURRENT SYMBOL FORM TWO"⟩,
  ⟨0x2394, "0SOFTWARE-FUNCTION SYMBOL;0APL FUNCTIONAL SYMBOL QUAD;0DECIMAL SEPARATOR KEY SYMBOL"⟩,
  ⟨0x2397, "0PREVIOUS PAGE;0NEXT PAGE;0PRINT SCREEN SYMBOL;0CLEAR SCREEN SYMBOL"⟩,
  ⟨0x239b, "0LEFT PARENTHESIS UPPER HOOK;2EXTENSION;2LOWER HOOK;0RIGHT PARENTHESIS UPPER HOOK"⟩,
  ⟨0x239f, "2EXTENSION;2LOWER HOOK;0LEFT SQUARE BRACKET UPPER CORNER;3EXTENSION;3LOWER CORNER"⟩,
  ⟨0x23a4, "0RIGHT SQUARE BRACKET UPPER CORNER;3EXTENSION;3LOWER CORNER"⟩,
  ⟨0x23a7, "0LEFT CURLY BRACKET UPPER HOOK;3MIDDLE PIECE;3LOWER HOOK;0CURLY BRACKET EXTENSION"⟩,
  ⟨0x23ab, "0RIGHT CURLY BRACKET UPPER HOOK;3MIDDLE PIECE;3LOWER HOOK;0INTEGRAL EXTENSION"⟩,
  ⟨0x23af, "0HORIZONTAL LINE EXTENSION;0UPPER LEFT OR LOWER RIGHT CURLY BRACKET SECTION"⟩,
  ⟨0x23b1, "1RIGHT OR LOWER LEFT CURLY BRACKET SECTION;0SUMMATION TOP;1BOTTOM;0TOP SQUARE BRACKET"⟩,
  ⟨0x23b5, "0BOTTOM SQUARE BRACKET;2BRACKET OVER TOP SQUARE BRACKET;0RADICAL SYMBOL BOTTOM"⟩,
  ⟨0x23b8, "0LEFT VERTICAL BOX LINE;0RIGHT VERTICAL BOX LINE;0HORIZONTAL SCAN LINE-1;33;37;39"⟩,
  ⟨0x23be, "0DENTISTRY SYMBOL LIGHT VERTICAL AND TOP RIGHT;5BOTTOM RIGHT;4WITH CIRCLE"⟩,
  ⟨0x23c1, "3DOWN AND HORIZONTAL WITH CIRCLE;3UP AND HORIZONTAL WITH CIRCLE"⟩,
  ⟨0x23c3, "3VERTICAL WITH TRIANGLE;3DOWN AND HORIZONTAL WITH TRIANGLE"⟩,
  ⟨0x23c5, "3UP AND HORIZONTAL WITH TRIANGLE;3VERTICAL AND WAVE;3DOWN AND HORIZONTAL WITH WAVE"⟩,
  ⟨0x23c8, "3UP AND HORIZONTAL WITH WAVE;3DOWN AND HORIZONTAL;3UP AND HORIZONTAL"⟩,
  ⟨0x23cb, "3VERTICAL AND TOP LEFT;5BOTTOM LEFT;0SQUARE FOOT;0RETURN SYMBOL;0EJECT SYMBOL"⟩,
  ⟨0x23d0, "0VERTICAL LINE EXTENSION;0METRICAL BREVE;1LONG OVER SHORT;1SHORT OVER LONG"⟩,
  ⟨0x23d4, "1LONG OVER TWO SHORTS;1TWO SHORTS OVER LONG;3JOINED;1TRISEME;1TETRASEME;1PENTASEME"⟩,
  ⟨0x23da, "0EARTH GROUND;0FUSE;0TOP PARENTHESIS;0BOTTOM PARENTHESIS;0TOP CURLY BRACKET"⟩,
  ⟨0x23df, "0BOTTOM CURLY BRACKET;0TOP TORTOISE SHELL BRACKET;0BOTTOM TORTOISE SHELL BRACKET"⟩,
  ⟨0x23e2, "0WHITE TRAPEZIUM;0BENZENE RING WITH CIRCLE;0STRAIGHTNESS;0FLATNESS;0AC CURRENT"⟩,
  ⟨0x23e7, "0ELECTRICAL INTERSECTION;0DECIMAL EXPONENT SYMBOL"⟩,
  ⟨0x23e9, "0BLACK RIGHT-POINTING DOUBLE TRIANGLE;1LEFT-POINTING DOUBLE TRIANGLE"⟩,
  ⟨0x23eb, "1UP-POINTING DOUBLE TRIANGLE;1DOWN-POINTING DOUBLE TRIANGLE"⟩,
  ⟨0x23ed, "1RIGHT-POINTING DOUBLE TRIANGLE WITH VERTICAL BAR"⟩,
  ⟨0x23ee, "1LEFT-POINTING DOUBLE TRIANGLE WITH VERTICAL BAR"⟩,
  ⟨0x23ef, "1RIGHT-POINTING TRIANGLE WITH DOUBLE VERTICAL BAR;0ALARM CLOCK;0STOPWATCH"⟩,
  ⟨0x23f2, "0TIMER CLOCK;0HOURGLASS WITH FLOWING SAND;0BLACK MEDIUM LEFT-POINTING TRIANGLE"⟩,
  ⟨0x23f5, "2RIGHT-POINTING TRIANGLE;2UP-POINTING TRIANGLE;2DOWN-POINTING TRIANGLE"⟩,
  ⟨0x23f8, "0DOUBLE VERTICAL BAR;0BLACK SQUARE FOR STOP;1CIRCLE FOR RECORD;0POWER SYMBOL"⟩,
  ⟨0x23fc, "1ON-OFF SYMBOL;1ON SYMBOL;1SLEEP SYMBOL;0OBSERVER EYE SYMBOL;0SYMBOL FOR NULL"⟩,
  ⟨0x2401, "2START OF HEADING;4TEXT;2END OF TEXT;4TRANSMISSION;2ENQUIRY;2ACKNOWLEDGE;2BELL"⟩,
  ⟨0x2408, "2BACKSPACE;2HORIZONTAL TABULATION;2LINE FEED;2VERTICAL TABULATION;2FORM FEED"⟩,
  ⟨0x240d, "2CARRIAGE RETURN;2SHIFT OUT;3IN;2DATA LINK ESCAPE;2DEVICE CONTROL ONE;4TWO;4THREE"⟩,
  ⟨0x2414, "4FOUR;2NEGATIVE ACKNOWLEDGE;2SYNCHRONOUS IDLE;2END OF TRANSMISSION BLOCK;2CANCEL"⟩,
  ⟨0x2419, "2END OF MEDIUM;2SUBSTITUTE;2ESCAPE;2FILE SEPARATOR;2GROUP SEPARATOR;2RECORD SEPARATOR"⟩,
  ⟨0x241f, "2UNIT SEPARATOR;2SPACE;2DELETE;0BLANK SYMBOL;0OPEN BOX;0SYMBOL FOR NEWLINE"⟩,
  ⟨0x2425, "2DELETE FORM TWO;2SUBSTITUTE FORM TWO"⟩,
  ⟨0x2440, "0OCR HOOK;1CHAIR;1FORK;1INVERTED FORK;1BELT BUCKLE;1BOW TIE"⟩,
  ⟨0x2446, "1BRANCH BANK IDENTIFICATION;1AMOUNT OF CHECK;1DASH;1CUSTOMER ACCOUNT NUMBER"⟩,
  ⟨0x244a, "1DOUBLE BACKSLASH"⟩,
  ⟨0x2460, "0CIRCLED DIGIT ONE;2TWO;2THREE;2FOUR;2FIVE;2SIX;2SEVEN;2EIGHT;2NINE;1NUMBER TEN"⟩,
  ⟨0x246a, "2ELEVEN;2TWELVE;2THIRTEEN;2FOURTEEN;2FIFTEEN;2SIXTEEN;2SEVENTEEN;2EIGHTEEN;2NINETEEN"⟩,
  ⟨0x2473, "2TWENTY;0PARENTHESIZED DIGIT ONE;2TWO;2THREE;2FOUR;2FIVE;2SIX;2SEVEN;2EIGHT;2NINE"⟩,
  ⟨0x247d, "1NUMBER TEN;2ELEVEN;2TWELVE;2THIRTEEN;2FOURTEEN;2FIFTEEN;2SIXTEEN;2SEVENTEEN"⟩,
  ⟨0x2485, "2EIGHTEEN;2NINETEEN;2TWENTY;0DIGIT ONE FULL STOP;1TWO FULL STOP;1THREE FULL STOP"⟩,
  ⟨0x248b, "1FOUR FULL STOP;1FIVE FULL STOP;1SIX FULL STOP;1SEVEN FULL STOP;1EIGHT FULL STOP"⟩,
  ⟨0x2490, "1NINE FULL STOP;0NUMBER TEN FULL STOP;1ELEVEN FULL STOP;1TWELVE FULL STOP"⟩,
  ⟨0x2494, "1THIRTEEN FULL STOP;1FOURTEEN FULL STOP;1FIFTEEN FULL STOP;1SIXTEEN FULL STOP"⟩,
  ⟨0x2498, "1SEVENTEEN FULL STOP;1EIGHTEEN FULL STOP;1NINETEEN FULL STOP;1TWENTY FULL STOP"⟩,
  ⟨0x249c, "0PARENTHESIZED LATIN SMALL LETTER A;4B;4C;4D;4E;4F;4G;4H;4I;4J;4K;4L;4M;4N;4O;4P;4Q"⟩,
  ⟨0x24ad, "4R;4S;4T;4U;4V;4W;4X;4Y;4Z;0CIRCLED LATIN CAPITAL LETTER A;4B;4C;4D;4E;4F;4G;4H;4I;4J"⟩,
  ⟨0x24c0, "4K;4L;4M;4N;4O;4P;4Q;4R;4S;4T;4U;4V;4W;4X;4Y;4Z;2SMALL LETTER A;4B;4C;4D;4E;4F;4G;4H"⟩,
  ⟨0x24d8, "4I;4J;4K;4L;4M;4N;4O;4P;4Q;4R;4S;4T;4U;4V;4W;4X;4Y;4Z;1DIGIT ZERO"⟩,
  ⟨0x24eb, "0NEGATIVE CIRCLED NUMBER ELEVEN;3TWELVE;3THIRTEEN;3FOURTEEN;3FIFTEEN;3SIXTEEN"⟩,
  ⟨0x24f1, "3SEVENTEEN;3EIGHTEEN;3NINETEEN;3TWENTY;0DOUBLE CIRCLED DIGIT ONE;3TWO;3THREE;3FOUR"⟩,
  ⟨0x24f9, "3FIVE;3SIX;3SEVEN;3EIGHT;3NINE;2NUMBER TEN;0NEGATIVE CIRCLED DIGIT ZERO"⟩,
  ⟨0x2500, "0BOX DRAWINGS LIGHT HORIZONTAL;2HEAVY HORIZONTAL;2LIGHT VERTICAL;2HEAVY VERTICAL"⟩,
  ⟨0x2504, "2LIGHT TRIPLE DASH HORIZONTAL;2HEAVY TRIPLE DASH HORIZONTAL"⟩,
  ⟨0x2506, "2LIGHT TRIPLE DASH VERTICAL;2HEAVY TRIPLE DASH VERTICAL"⟩,
  ⟨0x2508, "2LIGHT QUADRUPLE DASH HORIZONTAL;2HEAVY QUADRUPLE DASH HORIZONTAL"⟩,
  ⟨0x250a, "2LIGHT QUADRUPLE DASH VERTICAL;2HEAVY QUADRUPLE DASH VERTICAL;2LIGHT DOWN AND RIGHT"⟩,
  ⟨0x250d, "2DOWN LIGHT AND RIGHT HEAVY;3HEAVY AND RIGHT LIGHT;2HEAVY DOWN AND RIGHT"⟩,
  ⟨0x2510, "2LIGHT DOWN AND LEFT;2DOWN LIGHT AND LEFT HEAVY;3HEAVY AND LEFT LIGHT"⟩,
  ⟨0x2513, "2HEAVY DOWN AND LEFT;2LIGHT UP AND RIGHT;2UP LIGHT AND RIGHT HEAVY"⟩,
  ⟨0x2516, "3HEAVY AND RIGHT LIGHT;2HEAVY UP AND RIGHT;2LIGHT UP AND LEFT"⟩,
  ⟨0x2519, "2UP LIGHT AND LEFT HEAVY;3HEAVY AND LEFT LIGHT;2HEAVY UP AND LEFT"⟩,
  ⟨0x251c, "2LIGHT VERTICAL AND RIGHT;2VERTICAL LIGHT AND RIGHT HEAVY"⟩,
  ⟨0x251e, "2UP HEAVY AND RIGHT DOWN LIGHT;2DOWN HEAVY AND RIGHT UP LIGHT"⟩,
  ⟨0x2520, "2VERTICAL HEAVY AND RIGHT LIGHT;2DOWN LIGHT AND RIGHT UP HEAVY"⟩,
  ⟨0x2522, "2UP LIGHT AND RIGHT DOWN HEAVY;2HEAVY VERTICAL AND RIGHT;2LIGHT VERTICAL AND LEFT"⟩,
  ⟨0x2525, "2VERTICAL LIGHT AND LEFT HEAVY;2UP HEAVY AND LEFT DOWN LIGHT"⟩,
  ⟨0x2527, "2DOWN HEAVY AND LEFT UP LIGHT;2VERTICAL HEAVY AND LEFT LIGHT"⟩,
  ⟨0x2529, "2DOWN LIGHT AND LEFT UP HEAVY;2UP LIGHT AND LEFT DOWN HEAVY;2HEAVY VERTICAL AND LEFT"⟩,
  ⟨0x252c, "2LIGHT DOWN AND HORIZONTAL;2LEFT HEAVY AND RIGHT DOWN LIGHT"⟩,
  ⟨0x252e, "2RIGHT HEAVY AND LEFT DOWN LIGHT;2DOWN LIGHT AND HORIZONTAL HEAVY"⟩,
  ⟨0x2530, "3HEAVY AND HORIZONTAL LIGHT;2RIGHT LIGHT AND LEFT DOWN HEAVY"⟩,
  ⟨0x2532, "2LEFT LIGHT AND RIGHT DOWN HEAVY;2HEAVY DOWN AND HORIZONTAL;2LIGHT UP AND HORIZONTAL"⟩,
  ⟨0x2535, "2LEFT HEAVY AND RIGHT UP LIGHT;2RIGHT HEAVY AND LEFT UP LIGHT"⟩,
  ⟨0x2537, "2UP LIGHT AND HORIZONTAL HEAVY;3HEAVY AND HORIZONTAL LIGHT"⟩,
  ⟨0x2539, "2RIGHT LIGHT AND LEFT UP HEAVY;2LEFT LIGHT AND RIGHT UP HEAVY"⟩,
  ⟨0x253b, "2HEAVY UP AND HORIZONTAL;2LIGHT VERTICAL AND HORIZONTAL"⟩,
  ⟨0x253d, "2LEFT HEAVY AND RIGHT VERTICAL LIGHT;2RIGHT HEAVY AND LEFT VERTICAL LIGHT"⟩,
  ⟨0x253f, "2VERTICAL LIGHT AND HORIZONTAL HEAVY;2UP HEAVY AND DOWN HORIZONTAL LIGHT"⟩,
  ⟨0x2541, "2DOWN HEAVY AND UP HORIZONTAL LIGHT;2VERTICAL HEAVY AND HORIZONTAL LIGHT"⟩,
  ⟨0x2543, "2LEFT UP HEAVY AND RIGHT DOWN LIGHT;2RIGHT UP HEAVY AND LEFT DOWN LIGHT"⟩,
  ⟨0x2545, "2LEFT DOWN HEAVY AND RIGHT UP LIGHT;2RIGHT DOWN HEAVY AND LEFT UP LIGHT"⟩,
  ⟨0x2547, "2DOWN LIGHT AND UP HORIZONTAL HEAVY;2UP LIGHT AND DOWN HORIZONTAL HEAVY"⟩,
  ⟨0x2549, "2RIGHT LIGHT AND LEFT VERTICAL HEAVY;2LEFT LIGHT AND RIGHT VERTICAL HEAVY"⟩,
  ⟨0x254b, "2HEAVY VERTICAL AND HORIZONTAL;2LIGHT DOUBLE DASH HORIZONTAL"⟩,
  ⟨0x254d, "2HEAVY DOUBLE DASH HORIZONTAL;2LIGHT DOUBLE DASH VERTICAL;2HEAVY DOUBLE DASH VERTICAL"⟩,
  ⟨0x2550, "2DOUBLE HORIZONTAL;3VERTICAL;2DOWN SINGLE AND RIGHT DOUBLE;3DOUBLE AND RIGHT SINGLE"⟩,
  ⟨0x2554, "2DOUBLE DOWN AND RIGHT;2DOWN SINGLE AND LEFT DOUBLE;3DOUBLE AND LEFT SINGLE"⟩,
  ⟨0x2557, "2DOUBLE DOWN AND LEFT;2UP SINGLE AND RIGHT DOUBLE;3DOUBLE AND RIGHT SINGLE"⟩,
  ⟨0x255a, "2DOUBLE UP AND RIGHT;2UP SINGLE AND LEFT DOUBLE;3DOUBLE AND LEFT SINGLE"⟩,
  ⟨0x255d, "2DOUBLE UP AND LEFT;2VERTICAL SINGLE AND RIGHT DOUBLE;3DOUBLE AND RIGHT SINGLE"⟩,
  ⟨0x2560, "2DOUBLE VERTICAL AND RIGHT;2VERTICAL SINGLE AND LEFT DOUBLE;3DOUBLE AND LEFT SINGLE"⟩,
  ⟨0x2563, "2DOUBLE VERTICAL AND LEFT;2DOWN SINGLE AND HORIZONTAL DOUBLE"⟩,
  ⟨0x2565, "3DOUBLE AND HORIZONTAL SINGLE;2DOUBLE DOWN AND HORIZONTAL"⟩,
  ⟨0x2567, "2UP SINGLE AND HORIZONTAL DOUBLE;3DOUBLE AND HORIZONTAL SINGLE"⟩,
  ⟨0x2569, "2DOUBLE UP AND HORIZONTAL;2VERTICAL SINGLE AND HORIZONTAL DOUBLE"⟩,
  ⟨0x256b, "3DOUBLE AND HORIZONTAL SINGLE;2DOUBLE VERTICAL AND HORIZONTAL"⟩,
  ⟨0x256d, "2LIGHT ARC DOWN AND RIGHT;6LEFT;4UP AND LEFT;6RIGHT"⟩,
  ⟨0x2571, "3DIAGONAL UPPER RIGHT TO LOWER LEFT;5LEFT TO LOWER RIGHT;4CROSS;3LEFT;3UP;3RIGHT"⟩,
  ⟨0x2577, "3DOWN;2HEAVY LEFT;3UP;3RIGHT;3DOWN;2LIGHT LEFT AND HEAVY RIGHT;3UP AND HEAVY DOWN"⟩,
  ⟨0x257e, "2HEAVY LEFT AND LIGHT RIGHT;3UP AND LIGHT DOWN;0UPPER HALF BLOCK"⟩,
  ⟨0x2581, "0LOWER ONE EIGHTH BLOCK;2QUARTER BLOCK;1THREE EIGHTHS BLOCK;1HALF BLOCK"⟩,
  ⟨0x2585, "1FIVE EIGHTHS BLOCK;1THREE QUARTERS BLOCK;1SEVEN EIGHTHS BLOCK;0FULL BLOCK"⟩,
  ⟨0x2589, "0LEFT SEVEN EIGHTHS BLOCK;1THREE QUARTERS BLOCK;1FIVE EIGHTHS BLOCK;1HALF BLOCK"⟩,
  ⟨0x258d, "1THREE EIGHTHS BLOCK;1ONE QUARTER BLOCK;2EIGHTH BLOCK;0RIGHT HALF BLOCK;0LIGHT SHADE"⟩,
  ⟨0x2592, "0MEDIUM SHADE;0DARK SHADE;0UPPER ONE EIGHTH BLOCK;0RIGHT ONE EIGHTH BLOCK"⟩,
  ⟨0x2596, "0QUADRANT LOWER LEFT;2RIGHT;1UPPER LEFT;2LEFT AND LOWER LEFT AND LOWER RIGHT;5RIGHT"⟩,
  ⟨0x259b, "4UPPER RIGHT AND LOWER LEFT;8RIGHT;2RIGHT;2RIGHT AND LOWER LEFT;5LEFT AND LOWER RIGHT"⟩,
  ⟨0x25a0, "0BLACK SQUARE;0WHITE SQUARE;1SQUARE WITH ROUNDED CORNERS"⟩,
  ⟨0x25a3, "2CONTAINING BLACK SMALL SQUARE;0SQUARE WITH HORIZONTAL FILL;2VERTICAL FILL"⟩,
  ⟨0x25a6, "2ORTHOGONAL CROSSHATCH FILL;2UPPER LEFT TO LOWER RIGHT FILL;3RIGHT TO LOWER LEFT FILL"⟩,
  ⟨0x25a9, "2DIAGONAL CROSSHATCH FILL;0BLACK SMALL SQUARE;0WHITE SMALL SQUARE;0BLACK RECTANGLE"⟩,
  ⟨0x25ad, "0WHITE RECTANGLE;0BLACK VERTICAL RECTANGLE;0WHITE VERTICAL RECTANGLE"⟩,
  ⟨0x25b0, "0BLACK PARALLELOGRAM;0WHITE PARALLELOGRAM;0BLACK UP-POINTING TRIANGLE"⟩,
  ⟨0x25b3, "0WHITE UP-POINTING TRIANGLE;0BLACK UP-POINTING SMALL TRIANGLE"⟩,
  ⟨0x25b5, "0WHITE UP-POINTING SMALL TRIANGLE;0BLACK RIGHT-POINTING TRIANGLE"⟩,
  ⟨0x25b7, "0WHITE RIGHT-POINTING TRIANGLE;0BLACK RIGHT-POINTING SMALL TRIANGLE"⟩,
  ⟨0x25b9, "0WHITE RIGHT-POINTING SMALL TRIANGLE;0BLACK RIGHT-POINTING POINTER"⟩,
  ⟨0x25bb, "0WHITE RIGHT-POINTING POINTER;0BLACK DOWN-POINTING TRIANGLE"⟩,
  ⟨0x25bd, "0WHITE DOWN-POINTING TRIANGLE;0BLACK DOWN-POINTING SMALL TRIANGLE"⟩,
  ⟨0x25bf, "0WHITE DOWN-POINTING SMALL TRIANGLE;0BLACK LEFT-POINTING TRIANGLE"⟩,
  ⟨0x25c1, "0WHITE LEFT-POINTING TRIANGLE;0BLACK LEFT-POINTING SMALL TRIANGLE"⟩,
  ⟨0x25c3, "0WHITE LEFT-POINTING SMALL TRIANGLE;0BLACK LEFT-POINTING POINTER"⟩,
  ⟨0x25c5, "0WHITE LEFT-POINTING POINTER;0BLACK DIAMOND;0WHITE DIAMOND"⟩,
  ⟨0x25c8, "1DIAMOND CONTAINING BLACK SMALL DIAMOND;0FISHEYE;0LOZENGE;0WHITE CIRCLE"⟩,
  ⟨0x25cc, "0DOTTED CIRCLE;0CIRCLE WITH VERTICAL FILL;0BULLSEYE;0BLACK CIRCLE"⟩,
  ⟨0x25d0, "0CIRCLE WITH LEFT HALF BLACK;2RIGHT HALF BLACK;2LOWER HALF BLACK;2UPPER HALF BLACK"⟩,
  ⟨0x25d4, "3RIGHT QUADRANT BLACK;2ALL BUT UPPER LEFT QUADRANT BLACK;0LEFT HALF BLACK CIRCLE"⟩,
  ⟨0x25d7, "0RIGHT HALF BLACK CIRCLE;0INVERSE BULLET;1WHITE CIRCLE"⟩,
  ⟨0x25da, "0UPPER HALF INVERSE WHITE CIRCLE;0LOWER HALF INVERSE WHITE CIRCLE"⟩,
  ⟨0x25dc, "0UPPER LEFT QUADRANT CIRCULAR ARC;1RIGHT QUADRANT CIRCULAR ARC"⟩,
  ⟨0x25de, "0LOWER RIGHT QUADRANT CIRCULAR ARC;1LEFT QUADRANT CIRCULAR ARC;0UPPER HALF CIRCLE"⟩,
  ⟨0x25e1, "0LOWER HALF CIRCLE;0BLACK LOWER RIGHT TRIANGLE;2LEFT TRIANGLE;1UPPER LEFT TRIANGLE"⟩,
  ⟨0x25e5, "2RIGHT TRIANGLE;0WHITE BULLET;0SQUARE WITH LEFT HALF BLACK;2RIGHT HALF BLACK"⟩,
  ⟨0x25e9, "2UPPER LEFT DIAGONAL HALF BLACK;2LOWER RIGHT DIAGONAL HALF BLACK"⟩,
  ⟨0x25eb, "0WHITE SQUARE WITH VERTICAL BISECTING LINE;1UP-POINTING TRIANGLE WITH DOT"⟩,
  ⟨0x25ed, "0UP-POINTING TRIANGLE WITH LEFT HALF BLACK;4RIGHT HALF BLACK;0LARGE CIRCLE"⟩,
  ⟨0x25f0, "0WHITE SQUARE WITH UPPER LEFT QUADRANT;3LOWER LEFT QUADRANT;4RIGHT QUADRANT"⟩,
  ⟨0x25f3, "3UPPER RIGHT QUADRANT;1CIRCLE WITH UPPER LEFT QUADRANT;3LOWER LEFT QUADRANT"⟩,
  ⟨0x25f6, "4RIGHT QUADRANT;3UPPER RIGHT QUADRANT;0UPPER LEFT TRIANGLE;1RIGHT TRIANGLE"⟩,
  ⟨0x25fa, "0LOWER LEFT TRIANGLE;0WHITE MEDIUM SQUARE;0BLACK MEDIUM SQUARE"⟩,
  ⟨0x25fd, "0WHITE MEDIUM SMALL SQUARE;0BLACK MEDIUM SMALL SQUARE;0LOWER RIGHT TRIANGLE"⟩,
  ⟨0x2600, "0BLACK SUN WITH RAYS;0CLOUD;0UMBRELLA;0SNOWMAN;0COMET;0BLACK STAR;0WHITE STAR"⟩,
  ⟨0x2607, "0LIGHTNING;0THUNDERSTORM;0SUN;0ASCENDING NODE;0DESCENDING NODE;0CONJUNCTION"⟩,
  ⟨0x260d, "0OPPOSITION;0BLACK TELEPHONE;0WHITE TELEPHONE;0BALLOT BOX;1BOX WITH CHECK;3X;0SALTIRE"⟩,
  ⟨0x2614, "0UMBRELLA WITH RAIN DROPS;0HOT BEVERAGE;0WHITE SHOGI PIECE;0BLACK SHOGI PIECE"⟩,
  ⟨0x2618, "0SHAMROCK;0REVERSED ROTATED FLORAL HEART BULLET;0BLACK LEFT POINTING INDEX"⟩,
  ⟨0x261b, "1RIGHT POINTING INDEX;0WHITE LEFT POINTING INDEX;1UP POINTING INDEX"⟩,
  ⟨0x261e, "1RIGHT POINTING INDEX;1DOWN POINTING INDEX;0SKULL AND CROSSBONES;0CAUTION SIGN"⟩,
  ⟨0x2622, "0RADIOACTIVE SIGN;0BIOHAZARD SIGN;0CADUCEUS;0ANKH;0ORTHODOX CROSS;0CHI RHO"⟩,
  ⟨0x2628, "0CROSS OF LORRAINE;2JERUSALEM;0STAR AND CRESCENT;0FARSI SYMBOL;0ADI SHAKTI"⟩,
  ⟨0x262d, "0HAMMER AND SICKLE;0PEACE SYMBOL;0YIN YANG;0TRIGRAM FOR HEAVEN;2LAKE;2FIRE;2THUNDER"⟩,
  ⟨0x2634, "2WIND;2WATER;2MOUNTAIN;2EARTH;0WHEEL OF DHARMA;0WHITE FROWNING FACE;1SMILING FACE"⟩,
  ⟨0x263b, "0BLACK SMILING FACE;0WHITE SUN WITH RAYS;0FIRST QUARTER MOON;0LAST QUARTER MOON"⟩,
  ⟨0x263f, "0MERCURY;0FEMALE SIGN;0EARTH;0MALE SIGN;0JUPITER;0SATURN;0URANUS;0NEPTUNE;0PLUTO"⟩,
  ⟨0x2648, "0ARIES;0TAURUS;0GEMINI;0CANCER;0LEO;0VIRGO;0LIBRA;0SCORPIUS;0SAGITTARIUS;0CAPRICORN"⟩,
  ⟨0x2652, "0AQUARIUS;0PISCES;0WHITE CHESS KING;2QUEEN;2ROOK;2BISHOP;2KNIGHT;2PAWN"⟩,
  ⟨0x265a, "0BLACK CHESS KING;2QUEEN;2ROOK;2BISHOP;2KNIGHT;2PAWN;1SPADE SUIT;0WHITE HEART SUIT"⟩,
  ⟨0x2662, "1DIAMOND SUIT;0BLACK CLUB SUIT;0WHITE SPADE SUIT;0BLACK HEART SUIT;1DIAMOND SUIT"⟩,
  ⟨0x2667, "0WHITE CLUB SUIT;0HOT SPRINGS;0QUARTER NOTE;0EIGHTH NOTE;0BEAMED EIGHTH NOTES"⟩,
  ⟨0x266c, "1SIXTEENTH NOTES;0MUSIC FLAT SIGN;1NATURAL SIGN;1SHARP SIGN;0WEST SYRIAC CROSS"⟩,
  ⟨0x2671, "0EAST SYRIAC CROSS;0UNIVERSAL RECYCLING SYMBOL;0RECYCLING SYMBOL FOR TYPE-1 PLASTICS"⟩,
  ⟨0x2674, "42 PLASTICS;43 PLASTICS;44 PLASTICS;45 PLASTICS;46 PLASTICS;47 PLASTICS"⟩,
  ⟨0x267a, "3GENERIC MATERIALS;0BLACK UNIVERSAL RECYCLING SYMBOL;0RECYCLED PAPER SYMBOL"⟩,
  ⟨0x267d, "0PARTIALLY-RECYCLED PAPER SYMBOL;0PERMANENT PAPER SIGN;0WHEELCHAIR SYMBOL;0DIE FACE-1"⟩,
  ⟨0x2681, "22;23;24;25;26;0WHITE CIRCLE WITH DOT RIGHT;3TWO DOTS"⟩,
  ⟨0x2688, "0BLACK CIRCLE WITH WHITE DOT RIGHT;3TWO WHITE DOTS;0MONOGRAM FOR YANG;2YIN"⟩,
  ⟨0x268c, "0DIGRAM FOR GREATER YANG;2LESSER YIN;3YANG;2GREATER YIN;0WHITE FLAG;0BLACK FLAG"⟩,
  ⟨0x2692, "0HAMMER AND PICK;0ANCHOR;0CROSSED SWORDS;0STAFF OF AESCULAPIUS;0SCALES;0ALEMBIC"⟩,
  ⟨0x2698, "0FLOWER;0GEAR;0STAFF OF HERMES;0ATOM SYMBOL;0FLEUR-DE-LIS;0OUTLINED WHITE STAR"⟩,
  ⟨0x269e, "0THREE LINES CONVERGING RIGHT;3LEFT;0WARNING SIGN;0HIGH VOLTAGE SIGN"⟩,
  ⟨0x26a2, "0DOUBLED FEMALE SIGN;1MALE SIGN;0INTERLOCKED FEMALE AND MALE SIGN"⟩,
  ⟨0x26a5, "0MALE AND FEMALE SIGN;1WITH STROKE SIGN;3AND MALE AND FEMALE SIGN"⟩,
  ⟨0x26a8, "0VERTICAL MALE WITH STROKE SIGN;0HORIZONTAL MALE WITH STROKE SIGN"⟩,
  ⟨0x26aa, "0MEDIUM WHITE CIRCLE;1BLACK CIRCLE;1SMALL WHITE CIRCLE;0MARRIAGE SYMBOL"⟩,
  ⟨0x26ae, "0DIVORCE SYMBOL;0UNMARRIED PARTNERSHIP SYMBOL;0COFFIN;0FUNERAL URN;0NEUTER;0CERES"⟩,
  ⟨0x26b4, "0PALLAS;0JUNO;0VESTA;0CHIRON;0BLACK MOON LILITH;0SEXTILE;0SEMISEXTILE;0QUINCUNX"⟩,
  ⟨0x26bc, "0SESQUIQUADRATE;0SOCCER BALL;0BASEBALL;0SQUARED KEY;0WHITE DRAUGHTS MAN;2KING"⟩,
  ⟨0x26c2, "0BLACK DRAUGHTS MAN;2KING;0SNOWMAN WITHOUT SNOW;0SUN BEHIND CLOUD;0RAIN"⟩,
  ⟨0x26c7, "0BLACK SNOWMAN;0THUNDER CLOUD AND RAIN;0TURNED WHITE SHOGI PIECE;1BLACK SHOGI PIECE"⟩,
  ⟨0x26cb, "0WHITE DIAMOND IN SQUARE;0CROSSING LANES;0DISABLED CAR;0OPHIUCHUS;0PICK;0CAR SLIDING"⟩,
  ⟨0x26d1, "0HELMET WITH WHITE CROSS;0CIRCLED CROSSING LANES;0CHAINS;0NO ENTRY"⟩,
  ⟨0x26d5, "0ALTERNATE ONE-WAY LEFT WAY TRAFFIC;0BLACK TWO-WAY LEFT WAY TRAFFIC"⟩,
  ⟨0x26d7, "0WHITE TWO-WAY LEFT WAY TRAFFIC;0BLACK LEFT LANE MERGE;0WHITE LEFT LANE MERGE"⟩,
  ⟨0x26da, "0DRIVE SLOW SIGN;0HEAVY WHITE DOWN-POINTING TRIANGLE;0LEFT CLOSED ENTRY"⟩,
  ⟨0x26dd, "0SQUARED SALTIRE;0FALLING DIAGONAL IN WHITE CIRCLE IN BLACK SQUARE;0BLACK TRUCK"⟩,
  ⟨0x26e0, "0RESTRICTED LEFT ENTRY-1;32;0ASTRONOMICAL SYMBOL FOR URANUS"⟩,
  ⟨0x26e3, "0HEAVY CIRCLE WITH STROKE AND TWO DOTS ABOVE;0PENTAGRAM"⟩,
  ⟨0x26e5, "0RIGHT-HANDED INTERLACED PENTAGRAM;0LEFT-HANDED INTERLACED PENTAGRAM"⟩,
  ⟨0x26e7, "0INVERTED PENTAGRAM;0BLACK CROSS ON SHIELD;0SHINTO SHRINE;0CHURCH;0CASTLE"⟩,
  ⟨0x26ec, "0HISTORIC SITE;0GEAR WITHOUT HUB;1WITH HANDLES;0MAP SYMBOL FOR LIGHTHOUSE;0MOUNTAIN"⟩,
  ⟨0x26f1, "0UMBRELLA ON GROUND;0FOUNTAIN;0FLAG IN HOLE;0FERRY;0SAILBOAT;0SQUARE FOUR CORNERS"⟩,
  ⟨0x26f7, "0SKIER;0ICE SKATE;0PERSON WITH BALL;0TENT;0JAPANESE BANK SYMBOL"⟩,
  ⟨0x26fc, "0HEADSTONE GRAVEYARD SYMBOL;0FUEL PUMP;0CUP ON BLACK SQUARE"⟩,
  ⟨0x26ff, "0WHITE FLAG WITH HORIZONTAL MIDDLE BLACK STRIPE;0BLACK SAFETY SCISSORS"⟩,
  ⟨0x2701, "0UPPER BLADE SCISSORS;0BLACK SCISSORS;0LOWER BLADE SCISSORS;0WHITE SCISSORS"⟩,
  ⟨0x2705, "1HEAVY CHECK MARK;0TELEPHONE LOCATION SIGN;0TAPE DRIVE;0AIRPLANE;0ENVELOPE"⟩,
  ⟨0x270a, "0RAISED FIST;1HAND;0VICTORY HAND;0WRITING HAND;0LOWER RIGHT PENCIL;0PENCIL"⟩,
  ⟨0x2710, "0UPPER RIGHT PENCIL;0WHITE NIB;0BLACK NIB;0CHECK MARK;0HEAVY CHECK MARK"⟩,
  ⟨0x2715, "0MULTIPLICATION X;0HEAVY MULTIPLICATION X;0BALLOT X;0HEAVY BALLOT X"⟩,
  ⟨0x2719, "0OUTLINED GREEK CROSS;0HEAVY GREEK CROSS;0OPEN CENTRE CROSS;0HEAVY OPEN CENTRE CROSS"⟩,
  ⟨0x271d, "0LATIN CROSS;0SHADOWED WHITE LATIN CROSS;0OUTLINED LATIN CROSS;0MALTESE CROSS"⟩,
  ⟨0x2721, "0STAR OF DAVID;0FOUR TEARDROP-SPOKED ASTERISK;1BALLOON-SPOKED ASTERISK"⟩,
  ⟨0x2724, "0HEAVY FOUR BALLOON-SPOKED ASTERISK;0FOUR CLUB-SPOKED ASTERISK"⟩,
  ⟨0x2726, "0BLACK FOUR POINTED STAR;0WHITE FOUR POINTED STAR;0SPARKLES"⟩,
  ⟨0x2729, "0STRESS OUTLINED WHITE STAR;0CIRCLED WHITE STAR;0OPEN CENTRE BLACK STAR"⟩,
  ⟨0x272c, "0BLACK CENTRE WHITE STAR;0OUTLINED BLACK STAR;0HEAVY OUTLINED BLACK STAR"⟩,
  ⟨0x272f, "0PINWHEEL STAR;0SHADOWED WHITE STAR;0HEAVY ASTERISK;0OPEN CENTRE ASTERISK"⟩,
  ⟨0x2733, "0EIGHT SPOKED ASTERISK;1POINTED BLACK STAR;2PINWHEEL STAR;0SIX POINTED BLACK STAR"⟩,
  ⟨0x2737, "0EIGHT POINTED RECTILINEAR BLACK STAR;0HEAVY EIGHT POINTED RECTILINEAR BLACK STAR"⟩,
  ⟨0x2739, "0TWELVE POINTED BLACK STAR;0SIXTEEN POINTED ASTERISK;0TEARDROP-SPOKED ASTERISK"⟩,
  ⟨0x273c, "0OPEN CENTRE TEARDROP-SPOKED ASTERISK;0HEAVY TEARDROP-SPOKED ASTERISK"⟩,
  ⟨0x273e, "0SIX PETALLED BLACK AND WHITE FLORETTE;0BLACK FLORETTE;0WHITE FLORETTE"⟩,
  ⟨0x2741, "0EIGHT PETALLED OUTLINED BLACK FLORETTE;0CIRCLED OPEN CENTRE EIGHT POINTED STAR"⟩,
  ⟨0x2743, "0HEAVY TEARDROP-SPOKED PINWHEEL ASTERISK;0SNOWFLAKE;0TIGHT TRIFOLIATE SNOWFLAKE"⟩,
  ⟨0x2746, "0HEAVY CHEVRON SNOWFLAKE;0SPARKLE;0HEAVY SPARKLE;0BALLOON-SPOKED ASTERISK"⟩,
  ⟨0x274a, "0EIGHT TEARDROP-SPOKED PROPELLER ASTERISK"⟩,
  ⟨0x274b, "0HEAVY EIGHT TEARDROP-SPOKED PROPELLER ASTERISK;0CROSS MARK;0SHADOWED WHITE CIRCLE"⟩,
  ⟨0x274e, "0NEGATIVE SQUARED CROSS MARK;0LOWER RIGHT DROP-SHADOWED WHITE SQUARE"⟩,
  ⟨0x2750, "0UPPER RIGHT DROP-SHADOWED WHITE SQUARE;0LOWER RIGHT SHADOWED WHITE SQUARE"⟩,
  ⟨0x2752, "0UPPER RIGHT SHADOWED WHITE SQUARE;0BLACK QUESTION MARK ORNAMENT"⟩,
  ⟨0x2754, "0WHITE QUESTION MARK ORNAMENT;1EXCLAMATION MARK ORNAMENT;0BLACK DIAMOND MINUS WHITE X"⟩,
  ⟨0x2757, "0HEAVY EXCLAMATION MARK SYMBOL;0LIGHT VERTICAL BAR;0MEDIUM VERTICAL BAR"⟩,
  ⟨0x275a, "0HEAVY VERTICAL BAR;1SINGLE TURNED COMMA QUOTATION MARK ORNAMENT"⟩,
  ⟨0x275c, "2COMMA QUOTATION MARK ORNAMENT;1DOUBLE TURNED COMMA QUOTATION MARK ORNAMENT"⟩,
  ⟨0x275e, "2COMMA QUOTATION MARK ORNAMENT;1LOW SINGLE COMMA QUOTATION MARK ORNAMENT"⟩,
  ⟨0x2760, "2DOUBLE COMMA QUOTATION MARK ORNAMENT;0CURVED STEM PARAGRAPH SIGN ORNAMENT"⟩,
  ⟨0x2762, "0HEAVY EXCLAMATION MARK ORNAMENT;1HEART EXCLAMATION MARK ORNAMENT;1BLACK HEART"⟩,
  ⟨0x2765, "0ROTATED HEAVY BLACK HEART BULLET;0FLORAL HEART;0ROTATED FLORAL HEART BULLET"⟩,
  ⟨0x2768, "0MEDIUM LEFT PARENTHESIS ORNAMENT;1RIGHT PARENTHESIS ORNAMENT"⟩,
  ⟨0x276a, "1FLATTENED LEFT PARENTHESIS ORNAMENT;2RIGHT PARENTHESIS ORNAMENT"⟩,
  ⟨0x276c, "1LEFT-POINTING ANGLE BRACKET ORNAMENT;1RIGHT-POINTING ANGLE BRACKET ORNAMENT"⟩,
  ⟨0x276e, "0HEAVY LEFT-POINTING ANGLE QUOTATION MARK ORNAMENT"⟩,
  ⟨0x276f, "1RIGHT-POINTING ANGLE QUOTATION MARK ORNAMENT;1LEFT-POINTING ANGLE BRACKET ORNAMENT"⟩,
  ⟨0x2771, "1RIGHT-POINTING ANGLE BRACKET ORNAMENT;0LIGHT LEFT TORTOISE SHELL BRACKET ORNAMENT"⟩,
  ⟨0x2773, "1RIGHT TORTOISE SHELL BRACKET ORNAMENT;0MEDIUM LEFT CURLY BRACKET ORNAMENT"⟩,
  ⟨0x2775, "1RIGHT CURLY BRACKET ORNAMENT;0DINGBAT NEGATIVE CIRCLED DIGIT ONE;4TWO;4THREE;4FOUR"⟩,
  ⟨0x277a, "4FIVE;4SIX;4SEVEN;4EIGHT;4NINE;3NUMBER TEN;1CIRCLED SANS-SERIF DIGIT ONE;5TWO;5THREE"⟩,
  ⟨0x2783, "5FOUR;5FIVE;5SIX;5SEVEN;5EIGHT;5NINE;4NUMBER TEN"⟩,
  ⟨0x278a, "1NEGATIVE CIRCLED SANS-SERIF DIGIT ONE;6TWO;6THREE;6FOUR;6FIVE;6SIX;6SEVEN;6EIGHT"⟩,
  ⟨0x2792, "6NINE;5NUMBER TEN;0HEAVY WIDE-HEADED RIGHTWARDS ARROW;1PLUS SIGN;1MINUS SIGN"⟩,
  ⟨0x2797, "1DIVISION SIGN;1SOUTH EAST ARROW;1RIGHTWARDS ARROW;1NORTH EAST ARROW"⟩,
  ⟨0x279b, "0DRAFTING POINT RIGHTWARDS ARROW;0HEAVY ROUND-TIPPED RIGHTWARDS ARROW"⟩,
  ⟨0x279d, "0TRIANGLE-HEADED RIGHTWARDS ARROW;0HEAVY TRIANGLE-HEADED RIGHTWARDS ARROW"⟩,
  ⟨0x279f, "0DASHED TRIANGLE-HEADED RIGHTWARDS ARROW"⟩,
  ⟨0x27a0, "0HEAVY DASHED TRIANGLE-HEADED RIGHTWARDS ARROW;0BLACK RIGHTWARDS ARROW"⟩,
  ⟨0x27a2, "0THREE-D TOP-LIGHTED RIGHTWARDS ARROWHEAD;2BOTTOM-LIGHTED RIGHTWARDS ARROWHEAD"⟩,
  ⟨0x27a4, "0BLACK RIGHTWARDS ARROWHEAD;0HEAVY BLACK CURVED DOWNWARDS AND RIGHTWARDS ARROW"⟩,
  ⟨0x27a6, "3UPWARDS AND RIGHTWARDS ARROW;0SQUAT BLACK RIGHTWARDS ARROW"⟩,
  ⟨0x27a8, "0HEAVY CONCAVE-POINTED BLACK RIGHTWARDS ARROW;0RIGHT-SHADED WHITE RIGHTWARDS ARROW"⟩,
  ⟨0x27aa, "0LEFT-SHADED WHITE RIGHTWARDS ARROW;0BACK-TILTED SHADOWED WHITE RIGHTWARDS ARROW"⟩,
  ⟨0x27ac, "0FRONT-TILTED SHADOWED WHITE RIGHTWARDS ARROW"⟩,
  ⟨0x27ad, "0HEAVY LOWER RIGHT-SHADOWED WHITE RIGHTWARDS ARROW"⟩,
  ⟨0x27ae, "1UPPER RIGHT-SHADOWED WHITE RIGHTWARDS ARROW"⟩,
  ⟨0x27af, "0NOTCHED LOWER RIGHT-SHADOWED WHITE RIGHTWARDS ARROW;0CURLY LOOP"⟩,
  ⟨0x27b1, "0NOTCHED UPPER RIGHT-SHADOWED WHITE RIGHTWARDS ARROW"⟩,
  ⟨0x27b2, "0CIRCLED HEAVY WHITE RIGHTWARDS ARROW;0WHITE-FEATHERED RIGHTWARDS ARROW"⟩,
  ⟨0x27b4, "0BLACK-FEATHERED SOUTH EAST ARROW;2RIGHTWARDS ARROW;2NORTH EAST ARROW"⟩,
  ⟨0x27b7, "0HEAVY BLACK-FEATHERED SOUTH EAST ARROW;3RIGHTWARDS ARROW;3NORTH EAST ARROW"⟩,
  ⟨0x27ba, "0TEARDROP-BARBED RIGHTWARDS ARROW;0HEAVY TEARDROP-SHANKED RIGHTWARDS ARROW"⟩,
  ⟨0x27bc, "0WEDGE-TAILED RIGHTWARDS ARROW;0HEAVY WEDGE-TAILED RIGHTWARDS ARROW"⟩,
  ⟨0x27be, "0OPEN-OUTLINED RIGHTWARDS ARROW;0DOUBLE CURLY LOOP;0THREE DIMENSIONAL ANGLE"⟩,
  ⟨0x27c1, "0WHITE TRIANGLE CONTAINING SMALL WHITE TRIANGLE;0PERPENDICULAR;0OPEN SUBSET;1SUPERSET"⟩,
  ⟨0x27c5, "0LEFT S-SHAPED BAG DELIMITER;0RIGHT S-SHAPED BAG DELIMITER;0OR WITH DOT INSIDE"⟩,
  ⟨0x27c8, "0REVERSE SOLIDUS PRECEDING SUBSET;0SUPERSET PRECEDING SOLIDUS"⟩,
  ⟨0x27ca, "0VERTICAL BAR WITH HORIZONTAL STROKE;0MATHEMATICAL RISING DIAGONAL;0LONG DIVISION"⟩,
  ⟨0x27cd, "0MATHEMATICAL FALLING DIAGONAL;0SQUARED LOGICAL AND;2OR"⟩,
  ⟨0x27d0, "0WHITE DIAMOND WITH CENTRED DOT;0AND WITH DOT;0ELEMENT OF OPENING UPWARDS"⟩,
  ⟨0x27d3, "0LOWER RIGHT CORNER WITH DOT;0UPPER LEFT CORNER WITH DOT;0LEFT OUTER JOIN"⟩,
  ⟨0x27d6, "0RIGHT OUTER JOIN;0FULL OUTER JOIN;0LARGE UP TACK;1DOWN TACK"⟩,
  ⟨0x27da, "0LEFT AND RIGHT DOUBLE TURNSTILE;3TACK;1MULTIMAP;0LONG RIGHT TACK;1LEFT TACK"⟩,
  ⟨0x27df, "0UP TACK WITH CIRCLE ABOVE;0LOZENGE DIVIDED BY HORIZONTAL RULE"⟩,
  ⟨0x27e1, "0WHITE CONCAVE-SIDED DIAMOND;3DIAMOND WITH LEFTWARDS TICK;5RIGHTWARDS TICK"⟩,
  ⟨0x27e4, "1SQUARE WITH LEFTWARDS TICK;3RIGHTWARDS TICK;0MATHEMATICAL LEFT WHITE SQUARE BRACKET"⟩,
  ⟨0x27e7, "1RIGHT WHITE SQUARE BRACKET;1LEFT ANGLE BRACKET;1RIGHT ANGLE BRACKET"⟩,
  ⟨0x27ea, "1LEFT DOUBLE ANGLE BRACKET;1RIGHT DOUBLE ANGLE BRACKET"⟩,
  ⟨0x27ec, "1LEFT WHITE TORTOISE SHELL BRACKET;1RIGHT WHITE TORTOISE SHELL BRACKET"⟩,
  ⟨0x27ee, "1LEFT FLATTENED PARENTHESIS;1RIGHT FLATTENED PARENTHESIS;0UPWARDS QUADRUPLE ARROW"⟩,
  ⟨0x27f1, "0DOWNWARDS QUADRUPLE ARROW;0ANTICLOCKWISE GAPPED CIRCLE ARROW"⟩,
  ⟨0x27f3, "0CLOCKWISE GAPPED CIRCLE ARROW;0RIGHT ARROW WITH CIRCLED PLUS;0LONG LEFTWARDS ARROW"⟩,
  ⟨0x27f6, "1RIGHTWARDS ARROW;1LEFT RIGHT ARROW;1LEFTWARDS DOUBLE ARROW;1RIGHTWARDS DOUBLE ARROW"⟩,
  ⟨0x27fa, "1LEFT RIGHT DOUBLE ARROW;1LEFTWARDS ARROW FROM BAR;1RIGHTWARDS ARROW FROM BAR"⟩,
  ⟨0x27fd, "1LEFTWARDS DOUBLE ARROW FROM BAR;1RIGHTWARDS DOUBLE ARROW FROM BAR;2SQUIGGLE ARROW"⟩,
  ⟨0x2800, "0BRAILLE PATTERN BLANK;2DOTS-1;32;312;33;313;323;3123;34;314;324;3124;334;3134;3234"⟩,
  ⟨0x280f, "31234;35;315;325;3125;335;3135;3235;31235;345;3145;3245;31245;3345;31345;32345;312345"⟩,
  ⟨0x2820, "36;316;326;3126;336;3136;3236;31236;346;3146;3246;31246;3346;31346;32346;312346;356"⟩,
  ⟨0x2831, "3156;3256;31256;3356;31356;32356;312356;3456;31456;32456;312456;33456;313456;323456"⟩,
  ⟨0x283f, "3123456;37;317;327;3127;337;3137;3237;31237;347;3147;3247;31247;3347;31347;32347"⟩,
  ⟨0x284f, "312347;357;3157;3257;31257;3357;31357;32357;312357;3457;31457;32457;312457;33457"⟩,
  ⟨0x285d, "313457;323457;3123457;367;3167;3267;31267;3367;31367;32367;312367;3467;31467;32467"⟩,
  ⟨0x286b, "312467;33467;313467;323467;3123467;3567;31567;32567;312567;33567;313567;323567"⟩,
  ⟨0x2877, "3123567;34567;314567;324567;3124567;334567;3134567;3234567;31234567;38;318;328;3128"⟩,
  ⟨0x2884, "338;3138;3238;31238;348;3148;3248;31248;3348;31348;32348;312348;358;3158;3258;31258"⟩,
  ⟨0x2894, "3358;31358;32358;312358;3458;31458;32458;312458;33458;313458;323458;3123458;368;3168"⟩,
  ⟨0x28a2, "3268;31268;3368;31368;32368;312368;3468;31468;32468;312468;33468;313468;323468"⟩,
  ⟨0x28af, "3123468;3568;31568;32568;312568;33568;313568;323568;3123568;34568;314568;324568"⟩,
  ⟨0x28bb, "3124568;334568;3134568;3234568;31234568;378;3178;3278;31278;3378;31378;32378;312378"⟩,
  ⟨0x28c8, "3478;31478;32478;312478;33478;313478;323478;3123478;3578;31578;32578;312578;33578"⟩,
  ⟨0x28d5, "313578;323578;3123578;34578;314578;324578;3124578;334578;3134578;3234578;31234578"⟩,
  ⟨0x28e0, "3678;31678;32678;312678;33678;313678;323678;3123678;34678;314678;324678;3124678"⟩,
  ⟨0x28ec, "334678;3134678;3234678;31234678;35678;315678;325678;3125678;335678;3135678;3235678"⟩,
  ⟨0x28f7, "31235678;345678;3145678;3245678;31245678;3345678;31345678;32345678;312345678"⟩,
  ⟨0x2900, "0RIGHTWARDS TWO-HEADED ARROW WITH VERTICAL STROKE;5DOUBLE VERTICAL STROKE"⟩,
  ⟨0x2902, "0LEFTWARDS DOUBLE ARROW WITH VERTICAL STROKE"⟩,
  ⟨0x2903, "0RIGHTWARDS DOUBLE ARROW WITH VERTICAL STROKE"⟩,
  ⟨0x2904, "0LEFT RIGHT DOUBLE ARROW WITH VERTICAL STROKE;0RIGHTWARDS TWO-HEADED ARROW FROM BAR"⟩,
  ⟨0x2906, "0LEFTWARDS DOUBLE ARROW FROM BAR;0RIGHTWARDS DOUBLE ARROW FROM BAR"⟩,
  ⟨0x2908, "0DOWNWARDS ARROW WITH HORIZONTAL STROKE;0UPWARDS ARROW WITH HORIZONTAL STROKE"⟩,
  ⟨0x290a, "1TRIPLE ARROW;0DOWNWARDS TRIPLE ARROW;0LEFTWARDS DOUBLE DASH ARROW"⟩,
  ⟨0x290d, "0RIGHTWARDS DOUBLE DASH ARROW;0LEFTWARDS TRIPLE DASH ARROW"⟩,
  ⟨0x290f, "0RIGHTWARDS TRIPLE DASH ARROW;1TWO-HEADED TRIPLE DASH ARROW;1ARROW WITH DOTTED STEM"⟩,
  ⟨0x2912, "0UPWARDS ARROW TO BAR;0DOWNWARDS ARROW TO BAR"⟩,
  ⟨0x2914, "0RIGHTWARDS ARROW WITH TAIL WITH VERTICAL STROKE;5DOUBLE VERTICAL STROKE"⟩,
  ⟨0x2916, "1TWO-HEADED ARROW WITH TAIL;5TAIL WITH VERTICAL STROKE;7DOUBLE VERTICAL STROKE"⟩,
  ⟨0x2919, "0LEFTWARDS ARROW-TAIL;0RIGHTWARDS ARROW-TAIL;0LEFTWARDS DOUBLE ARROW-TAIL"⟩,
  ⟨0x291c, "0RIGHTWARDS DOUBLE ARROW-TAIL;0LEFTWARDS ARROW TO BLACK DIAMOND"⟩,
  ⟨0x291e, "0RIGHTWARDS ARROW TO BLACK DIAMOND;0LEFTWARDS ARROW FROM BAR TO BLACK DIAMOND"⟩,
  ⟨0x2920, "0RIGHTWARDS ARROW FROM BAR TO BLACK DIAMOND;0NORTH WEST AND SOUTH EAST ARROW"⟩,
  ⟨0x2922, "1EAST AND SOUTH WEST ARROW;1WEST ARROW WITH HOOK;1EAST ARROW WITH HOOK"⟩,
  ⟨0x2925, "0SOUTH EAST ARROW WITH HOOK;1WEST ARROW WITH HOOK"⟩,
  ⟨0x2927, "0NORTH WEST ARROW AND NORTH EAST ARROW;1EAST ARROW AND SOUTH EAST ARROW"⟩,
  ⟨0x2929, "0SOUTH EAST ARROW AND SOUTH WEST ARROW;1WEST ARROW AND NORTH WEST ARROW"⟩,
  ⟨0x292b, "0RISING DIAGONAL CROSSING FALLING DIAGONAL;0FALLING DIAGONAL CROSSING RISING DIAGONAL"⟩,
  ⟨0x292d, "0SOUTH EAST ARROW CROSSING NORTH EAST ARROW"⟩,
  ⟨0x292e, "0NORTH EAST ARROW CROSSING SOUTH EAST ARROW"⟩,
  ⟨0x292f, "0FALLING DIAGONAL CROSSING NORTH EAST ARROW"⟩,
  ⟨0x2930, "0RISING DIAGONAL CROSSING SOUTH EAST ARROW"⟩,
  ⟨0x2931, "0NORTH EAST ARROW CROSSING NORTH WEST ARROW;1WEST ARROW CROSSING NORTH EAST ARROW"⟩,
  ⟨0x2933, "0WAVE ARROW POINTING DIRECTLY RIGHT;0ARROW POINTING RIGHTWARDS THEN CURVING UPWARDS"⟩,
  ⟨0x2935, "5DOWNWARDS;2DOWNWARDS THEN CURVING LEFTWARDS;5RIGHTWARDS"⟩,
  ⟨0x2938, "0RIGHT-SIDE ARC CLOCKWISE ARROW;0LEFT-SIDE ARC ANTICLOCKWISE ARROW"⟩,
  ⟨0x293a, "0TOP ARC ANTICLOCKWISE ARROW;0BOTTOM ARC ANTICLOCKWISE ARROW"⟩,
  ⟨0x293c, "0TOP ARC CLOCKWISE ARROW WITH MINUS;2ANTICLOCKWISE ARROW WITH PLUS"⟩,
  ⟨0x293e, "0LOWER RIGHT SEMICIRCULAR CLOCKWISE ARROW;1LEFT SEMICIRCULAR ANTICLOCKWISE ARROW"⟩,
  ⟨0x2940, "0ANTICLOCKWISE CLOSED CIRCLE ARROW;0CLOCKWISE CLOSED CIRCLE ARROW"⟩,
  ⟨0x2942, "0RIGHTWARDS ARROW ABOVE SHORT LEFTWARDS ARROW"⟩,
  ⟨0x2943, "0LEFTWARDS ARROW ABOVE SHORT RIGHTWARDS ARROW"⟩,
  ⟨0x2944, "0SHORT RIGHTWARDS ARROW ABOVE LEFTWARDS ARROW;0RIGHTWARDS ARROW WITH PLUS BELOW"⟩,
  ⟨0x2946, "0LEFTWARDS ARROW WITH PLUS BELOW;0RIGHTWARDS ARROW THROUGH X"⟩,
  ⟨0x2948, "0LEFT RIGHT ARROW THROUGH SMALL CIRCLE;0UPWARDS TWO-HEADED ARROW FROM SMALL CIRCLE"⟩,
  ⟨0x294a, "0LEFT BARB UP RIGHT BARB DOWN HARPOON;2DOWN RIGHT BARB UP HARPOON"⟩,
  ⟨0x294c, "0UP BARB RIGHT DOWN BARB LEFT HARPOON;2LEFT DOWN BARB RIGHT HARPOON"⟩,
  ⟨0x294e, "0LEFT BARB UP RIGHT BARB UP HARPOON;0UP BARB RIGHT DOWN BARB RIGHT HARPOON"⟩,
  ⟨0x2950, "0LEFT BARB DOWN RIGHT BARB DOWN HARPOON;0UP BARB LEFT DOWN BARB LEFT HARPOON"⟩,
  ⟨0x2952, "0LEFTWARDS HARPOON WITH BARB UP TO BAR;0RIGHTWARDS HARPOON WITH BARB UP TO BAR"⟩,
  ⟨0x2954, "0UPWARDS HARPOON WITH BARB RIGHT TO BAR;0DOWNWARDS HARPOON WITH BARB RIGHT TO BAR"⟩,
  ⟨0x2956, "0LEFTWARDS HARPOON WITH BARB DOWN TO BAR;0RIGHTWARDS HARPOON WITH BARB DOWN TO BAR"⟩,
  ⟨0x2958, "0UPWARDS HARPOON WITH BARB LEFT TO BAR;0DOWNWARDS HARPOON WITH BARB LEFT TO BAR"⟩,
  ⟨0x295a, "0LEFTWARDS HARPOON WITH BARB UP FROM BAR;0RIGHTWARDS HARPOON WITH BARB UP FROM BAR"⟩,
  ⟨0x295c, "0UPWARDS HARPOON WITH BARB RIGHT FROM BAR;0DOWNWARDS HARPOON WITH BARB RIGHT FROM BAR"⟩,
  ⟨0x295e, "0LEFTWARDS HARPOON WITH BARB DOWN FROM BAR"⟩,
  ⟨0x295f, "0RIGHTWARDS HARPOON WITH BARB DOWN FROM BAR;0UPWARDS HARPOON WITH BARB LEFT FROM BAR"⟩,
  ⟨0x2961, "0DOWNWARDS HARPOON WITH BARB LEFT FROM BAR"⟩,
  ⟨0x2962, "0LEFTWARDS HARPOON WITH BARB UP ABOVE LEFTWARDS HARPOON WITH BARB DOWN"⟩,
  ⟨0x2963, "0UPWARDS HARPOON WITH BARB LEFT BESIDE UPWARDS HARPOON WITH BARB RIGHT"⟩,
  ⟨0x2964, "0RIGHTWARDS HARPOON WITH BARB UP ABOVE RIGHTWARDS HARPOON WITH BARB DOWN"⟩,
  ⟨0x2965, "0DOWNWARDS HARPOON WITH BARB LEFT BESIDE DOWNWARDS HARPOON WITH BARB RIGHT"⟩,
  ⟨0x2966, "0LEFTWARDS HARPOON WITH BARB UP ABOVE RIGHTWARDS HARPOON WITH BARB UP"⟩,
  ⟨0x2967, "4DOWN ABOVE RIGHTWARDS HARPOON WITH BARB DOWN"⟩,
  ⟨0x2968, "0RIGHTWARDS HARPOON WITH BARB UP ABOVE LEFTWARDS HARPOON WITH BARB UP"⟩,
  ⟨0x2969, "4DOWN ABOVE LEFTWARDS HARPOON WITH BARB DOWN"⟩,
  ⟨0x296a, "0LEFTWARDS HARPOON WITH BARB UP ABOVE LONG DASH;4DOWN BELOW LONG DASH"⟩,
  ⟨0x296c, "0RIGHTWARDS HARPOON WITH BARB UP ABOVE LONG DASH;4DOWN BELOW LONG DASH"⟩,
  ⟨0x296e, "0UPWARDS HARPOON WITH BARB LEFT BESIDE DOWNWARDS HARPOON WITH BARB RIGHT"⟩,
  ⟨0x296f, "0DOWNWARDS HARPOON WITH BARB LEFT BESIDE UPWARDS HARPOON WITH BARB RIGHT"⟩,
  ⟨0x2970, "0RIGHT DOUBLE ARROW WITH ROUNDED HEAD;0EQUALS SIGN ABOVE RIGHTWARDS ARROW"⟩,
  ⟨0x2972, "0TILDE OPERATOR ABOVE RIGHTWARDS ARROW;0LEFTWARDS ARROW ABOVE TILDE OPERATOR"⟩,
  ⟨0x2974, "0RIGHTWARDS ARROW ABOVE TILDE OPERATOR;3ALMOST EQUAL TO"⟩,
  ⟨0x2976, "0LESS-THAN ABOVE LEFTWARDS ARROW;0LEFTWARDS ARROW THROUGH LESS-THAN"⟩,
  ⟨0x2978, "0GREATER-THAN ABOVE RIGHTWARDS ARROW;0SUBSET ABOVE RIGHTWARDS ARROW"⟩,
  ⟨0x297a, "0LEFTWARDS ARROW THROUGH SUBSET;0SUPERSET ABOVE LEFTWARDS ARROW;0LEFT FISH TAIL"⟩,
  ⟨0x297d, "0RIGHT FISH TAIL;0UP FISH TAIL;0DOWN FISH TAIL;0TRIPLE VERTICAL BAR DELIMITER"⟩,
  ⟨0x2981, "0Z NOTATION SPOT;2TYPE COLON;0LEFT WHITE CURLY BRACKET;0RIGHT WHITE CURLY BRACKET"⟩,
  ⟨0x2985, "0LEFT WHITE PARENTHESIS;0RIGHT WHITE PARENTHESIS;0Z NOTATION LEFT IMAGE BRACKET"⟩,
  ⟨0x2988, "2RIGHT IMAGE BRACKET;2LEFT BINDING BRACKET;2RIGHT BINDING BRACKET"⟩,
  ⟨0x298b, "0LEFT SQUARE BRACKET WITH UNDERBAR;0RIGHT SQUARE BRACKET WITH UNDERBAR"⟩,
  ⟨0x298d, "0LEFT SQUARE BRACKET WITH TICK IN TOP CORNER"⟩,
  ⟨0x298e, "0RIGHT SQUARE BRACKET WITH TICK IN BOTTOM CORNER"⟩,
  ⟨0x298f, "0LEFT SQUARE BRACKET WITH TICK IN BOTTOM CORNER"⟩,
  ⟨0x2990, "0RIGHT SQUARE BRACKET WITH TICK IN TOP CORNER;0LEFT ANGLE BRACKET WITH DOT"⟩,
  ⟨0x2992, "0RIGHT ANGLE BRACKET WITH DOT;0LEFT ARC LESS-THAN BRACKET"⟩,
  ⟨0x2994, "0RIGHT ARC GREATER-THAN BRACKET;0DOUBLE LEFT ARC GREATER-THAN BRACKET"⟩,
  ⟨0x2996, "1RIGHT ARC LESS-THAN BRACKET;0LEFT BLACK TORTOISE SHELL BRACKET"⟩,
  ⟨0x2998, "0RIGHT BLACK TORTOISE SHELL BRACKET;0DOTTED FENCE;0VERTICAL ZIGZAG LINE"⟩,
  ⟨0x299b, "0MEASURED ANGLE OPENING LEFT;0RIGHT ANGLE VARIANT WITH SQUARE"⟩,
  ⟨0x299d, "0MEASURED RIGHT ANGLE WITH DOT;0ANGLE WITH S INSIDE;0ACUTE ANGLE"⟩,
  ⟨0x29a0, "0SPHERICAL ANGLE OPENING LEFT;3UP;0TURNED ANGLE;0REVERSED ANGLE;0ANGLE WITH UNDERBAR"⟩,
  ⟨0x29a5, "0REVERSED ANGLE WITH UNDERBAR;0OBLIQUE ANGLE OPENING UP;3DOWN"⟩,
  ⟨0x29a8, "0MEASURED ANGLE WITH OPEN ARM ENDING IN ARROW POINTING UP AND RIGHT;9UP AND LEFT"⟩,
  ⟨0x29aa, "9DOWN AND RIGHT;9DOWN AND LEFT;9RIGHT AND UP;9LEFT AND UP;9RIGHT AND DOWN"⟩,
  ⟨0x29af, "9LEFT AND DOWN;0REVERSED EMPTY SET;0EMPTY SET WITH OVERBAR;3SMALL CIRCLE ABOVE"⟩,
  ⟨0x29b3, "3RIGHT ARROW ABOVE;3LEFT ARROW ABOVE;0CIRCLE WITH HORIZONTAL BAR"⟩,
  ⟨0x29b6, "0CIRCLED VERTICAL BAR;1PARALLEL;1REVERSE SOLIDUS;1PERPENDICULAR"⟩,
  ⟨0x29ba, "0CIRCLE DIVIDED BY HORIZONTAL BAR AND TOP HALF DIVIDED BY VERTICAL BAR"⟩,
  ⟨0x29bb, "1WITH SUPERIMPOSED X;0CIRCLED ANTICLOCKWISE-ROTATED DIVISION SIGN"⟩,
  ⟨0x29bd, "0UP ARROW THROUGH CIRCLE;0CIRCLED WHITE BULLET;1BULLET;1LESS-THAN;1GREATER-THAN"⟩,
  ⟨0x29c2, "0CIRCLE WITH SMALL CIRCLE TO THE RIGHT;2TWO HORIZONTAL STROKES TO THE RIGHT"⟩,
  ⟨0x29c4, "0SQUARED RISING DIAGONAL SLASH;1FALLING DIAGONAL SLASH;1ASTERISK;1SMALL CIRCLE"⟩,
  ⟨0x29c8, "1SQUARE;0TWO JOINED SQUARES;0TRIANGLE WITH DOT ABOVE;2UNDERBAR;0S IN TRIANGLE"⟩,
  ⟨0x29cd, "0TRIANGLE WITH SERIFS AT BOTTOM;0RIGHT TRIANGLE ABOVE LEFT TRIANGLE"⟩,
  ⟨0x29cf, "0LEFT TRIANGLE BESIDE VERTICAL BAR;0VERTICAL BAR BESIDE RIGHT TRIANGLE"⟩,
  ⟨0x29d1, "0BOWTIE WITH LEFT HALF BLACK;2RIGHT HALF BLACK;0BLACK BOWTIE"⟩,
  ⟨0x29d4, "0TIMES WITH LEFT HALF BLACK;2RIGHT HALF BLACK;0WHITE HOURGLASS;0BLACK HOURGLASS"⟩,
  ⟨0x29d8, "0LEFT WIGGLY FENCE;0RIGHT WIGGLY FENCE;0LEFT DOUBLE WIGGLY FENCE"⟩,
  ⟨0x29db, "0RIGHT DOUBLE WIGGLY FENCE;0INCOMPLETE INFINITY;0TIE OVER INFINITY"⟩,
  ⟨0x29de, "0INFINITY NEGATED WITH VERTICAL BAR;0DOUBLE-ENDED MULTIMAP"⟩,
  ⟨0x29e0, "0SQUARE WITH CONTOURED OUTLINE;0INCREASES AS;0SHUFFLE PRODUCT"⟩,
  ⟨0x29e3, "0EQUALS SIGN AND SLANTED PARALLEL;4PARALLEL WITH TILDE ABOVE"⟩,
  ⟨0x29e5, "0IDENTICAL TO AND SLANTED PARALLEL;0GLEICH STARK;0THERMODYNAMIC"⟩,
  ⟨0x29e8, "0DOWN-POINTING TRIANGLE WITH LEFT HALF BLACK;4RIGHT HALF BLACK"⟩,
  ⟨0x29ea, "0BLACK DIAMOND WITH DOWN ARROW;1LOZENGE;0WHITE CIRCLE WITH DOWN ARROW"⟩,
  ⟨0x29ed, "0BLACK CIRCLE WITH DOWN ARROW;0ERROR-BARRED WHITE SQUARE;2BLACK SQUARE;2WHITE DIAMOND"⟩,
  ⟨0x29f1, "2BLACK DIAMOND;2WHITE CIRCLE;2BLACK CIRCLE;0RULE-DELAYED;0REVERSE SOLIDUS OPERATOR"⟩,
  ⟨0x29f6, "0SOLIDUS WITH OVERBAR;0REVERSE SOLIDUS WITH HORIZONTAL STROKE;0BIG SOLIDUS"⟩,
  ⟨0x29f9, "1REVERSE SOLIDUS;0DOUBLE PLUS;0TRIPLE PLUS;0LEFT-POINTING CURVED ANGLE BRACKET"⟩,
  ⟨0x29fd, "0RIGHT-POINTING CURVED ANGLE BRACKET;0TINY;0MINY;0N-ARY CIRCLED DOT OPERATOR"⟩,
  ⟨0x2a01, "3PLUS OPERATOR;3TIMES OPERATOR;2UNION OPERATOR WITH DOT;5PLUS"⟩,
  ⟨0x2a05, "2SQUARE INTERSECTION OPERATOR;3UNION OPERATOR;0TWO LOGICAL AND OPERATOR;2OR OPERATOR"⟩,
  ⟨0x2a09, "0N-ARY TIMES OPERATOR;0MODULO TWO SUM;0SUMMATION WITH INTEGRAL"⟩,
  ⟨0x2a0c, "0QUADRUPLE INTEGRAL OPERATOR;0FINITE PART INTEGRAL;0INTEGRAL WITH DOUBLE STROKE"⟩,
  ⟨0x2a0f, "1AVERAGE WITH SLASH;0CIRCULATION FUNCTION;0ANTICLOCKWISE INTEGRATION"⟩,
  ⟨0x2a12, "0LINE INTEGRATION WITH RECTANGULAR PATH AROUND POLE;3SEMICIRCULAR PATH AROUND POLE"⟩,
  ⟨0x2a14, "2NOT INCLUDING THE POLE;0INTEGRAL AROUND A POINT OPERATOR"⟩,
  ⟨0x2a16, "0QUATERNION INTEGRAL OPERATOR;0INTEGRAL WITH LEFTWARDS ARROW WITH HOOK;2TIMES SIGN"⟩,
  ⟨0x2a19, "2INTERSECTION;2UNION;2OVERBAR;2UNDERBAR;0JOIN;0LARGE LEFT TRIANGLE OPERATOR"⟩,
  ⟨0x2a1f, "0Z NOTATION SCHEMA COMPOSITION;3PIPING;3PROJECTION;0PLUS SIGN WITH SMALL CIRCLE ABOVE"⟩,
  ⟨0x2a23, "3CIRCUMFLEX ACCENT ABOVE;3TILDE ABOVE;3DOT BELOW;3TILDE BELOW;3SUBSCRIPT TWO"⟩,
  ⟨0x2a28, "3BLACK TRIANGLE;0MINUS SIGN WITH COMMA ABOVE;3DOT BELOW;3FALLING DOTS;3RISING DOTS"⟩,
  ⟨0x2a2d, "0PLUS SIGN IN LEFT HALF CIRCLE;3RIGHT HALF CIRCLE;0VECTOR OR CROSS PRODUCT"⟩,
  ⟨0x2a30, "0MULTIPLICATION SIGN WITH DOT ABOVE;3UNDERBAR;0SEMIDIRECT PRODUCT WITH BOTTOM CLOSED"⟩,
  ⟨0x2a33, "0SMASH PRODUCT;0MULTIPLICATION SIGN IN LEFT HALF CIRCLE;3RIGHT HALF CIRCLE"⟩,
  ⟨0x2a36, "0CIRCLED MULTIPLICATION SIGN WITH CIRCUMFLEX ACCENT"⟩,
  ⟨0x2a37, "0MULTIPLICATION SIGN IN DOUBLE CIRCLE;0CIRCLED DIVISION SIGN;0PLUS SIGN IN TRIANGLE"⟩,
  ⟨0x2a3a, "0MINUS SIGN IN TRIANGLE;0MULTIPLICATION SIGN IN TRIANGLE;0INTERIOR PRODUCT"⟩,
  ⟨0x2a3d, "0RIGHTHAND INTERIOR PRODUCT;0Z NOTATION RELATIONAL COMPOSITION"⟩,
  ⟨0x2a3f, "0AMALGAMATION OR COPRODUCT;0INTERSECTION WITH DOT;0UNION WITH MINUS SIGN;2OVERBAR"⟩,
  ⟨0x2a43, "0INTERSECTION WITH OVERBAR;2LOGICAL AND;0UNION WITH LOGICAL OR;1ABOVE INTERSECTION"⟩,
  ⟨0x2a47, "0INTERSECTION ABOVE UNION;0UNION ABOVE BAR ABOVE INTERSECTION"⟩,
  ⟨0x2a49, "0INTERSECTION ABOVE BAR ABOVE UNION;0UNION BESIDE AND JOINED WITH UNION"⟩,
  ⟨0x2a4b, "0INTERSECTION BESIDE AND JOINED WITH INTERSECTION;0CLOSED UNION WITH SERIFS"⟩,
  ⟨0x2a4d, "1INTERSECTION WITH SERIFS;0DOUBLE SQUARE INTERSECTION;2UNION"⟩,
  ⟨0x2a50, "0CLOSED UNION WITH SERIFS AND SMASH PRODUCT;0LOGICAL AND WITH DOT ABOVE"⟩,
  ⟨0x2a52, "1OR WITH DOT ABOVE;0DOUBLE LOGICAL AND;2OR;0TWO INTERSECTING LOGICAL AND;3OR"⟩,
  ⟨0x2a57, "0SLOPING LARGE OR;2AND;0LOGICAL OR OVERLAPPING LOGICAL AND;1AND WITH MIDDLE STEM"⟩,
  ⟨0x2a5b, "1OR WITH MIDDLE STEM;1AND WITH HORIZONTAL DASH;1OR WITH HORIZONTAL DASH"⟩,
  ⟨0x2a5e, "1AND WITH DOUBLE OVERBAR;3UNDERBAR;3DOUBLE UNDERBAR;0SMALL VEE WITH UNDERBAR"⟩,
  ⟨0x2a62, "0LOGICAL OR WITH DOUBLE OVERBAR;4UNDERBAR;0Z NOTATION DOMAIN ANTIRESTRICTION"⟩,
  ⟨0x2a65, "2RANGE ANTIRESTRICTION;0EQUALS SIGN WITH DOT BELOW;0IDENTICAL WITH DOT ABOVE"⟩,
  ⟨0x2a68, "0TRIPLE HORIZONTAL BAR WITH DOUBLE VERTICAL STROKE;4TRIPLE VERTICAL STROKE"⟩,
  ⟨0x2a6a, "0TILDE OPERATOR WITH DOT ABOVE;3RISING DOTS;0SIMILAR MINUS SIMILAR"⟩,
  ⟨0x2a6d, "0CONGRUENT WITH DOT ABOVE;0EQUALS WITH ASTERISK"⟩,
  ⟨0x2a6f, "0ALMOST EQUAL TO WITH CIRCUMFLEX ACCENT;0APPROXIMATELY EQUAL OR EQUAL TO"⟩,
  ⟨0x2a71, "0EQUALS SIGN ABOVE PLUS SIGN;0PLUS SIGN ABOVE EQUALS SIGN"⟩,
  ⟨0x2a73, "0EQUALS SIGN ABOVE TILDE OPERATOR;0DOUBLE COLON EQUAL;0TWO CONSECUTIVE EQUALS SIGNS"⟩,
  ⟨0x2a76, "0THREE CONSECUTIVE EQUALS SIGNS;0EQUALS SIGN WITH TWO DOTS ABOVE AND TWO DOTS BELOW"⟩,
  ⟨0x2a78, "0EQUIVALENT WITH FOUR DOTS ABOVE;0LESS-THAN WITH CIRCLE INSIDE"⟩,
  ⟨0x2a7a, "0GREATER-THAN WITH CIRCLE INSIDE;0LESS-THAN WITH QUESTION MARK ABOVE"⟩,
  ⟨0x2a7c, "0GREATER-THAN WITH QUESTION MARK ABOVE;0LESS-THAN OR SLANTED EQUAL TO"⟩,
  ⟨0x2a7e, "0GREATER-THAN OR SLANTED EQUAL TO;0LESS-THAN OR SLANTED EQUAL TO WITH DOT INSIDE"⟩,
  ⟨0x2a80, "0GREATER-THAN OR SLANTED EQUAL TO WITH DOT INSIDE"⟩,
  ⟨0x2a81, "0LESS-THAN OR SLANTED EQUAL TO WITH DOT ABOVE"⟩,
  ⟨0x2a82, "0GREATER-THAN OR SLANTED EQUAL TO WITH DOT ABOVE"⟩,
  ⟨0x2a83, "0LESS-THAN OR SLANTED EQUAL TO WITH DOT ABOVE RIGHT"⟩,
  ⟨0x2a84, "0GREATER-THAN OR SLANTED EQUAL TO WITH DOT ABOVE LEFT;0LESS-THAN OR APPROXIMATE"⟩,
  ⟨0x2a86, "0GREATER-THAN OR APPROXIMATE;0LESS-THAN AND SINGLE-LINE NOT EQUAL TO"⟩,
  ⟨0x2a88, "0GREATER-THAN AND SINGLE-LINE NOT EQUAL TO;0LESS-THAN AND NOT APPROXIMATE"⟩,
  ⟨0x2a8a, "0GREATER-THAN AND NOT APPROXIMATE"⟩,
  ⟨0x2a8b, "0LESS-THAN ABOVE DOUBLE-LINE EQUAL ABOVE GREATER-THAN"⟩,
  ⟨0x2a8c, "0GREATER-THAN ABOVE DOUBLE-LINE EQUAL ABOVE LESS-THAN"⟩,
  ⟨0x2a8d, "0LESS-THAN ABOVE SIMILAR OR EQUAL;0GREATER-THAN ABOVE SIMILAR OR EQUAL"⟩,
  ⟨0x2a8f, "0LESS-THAN ABOVE SIMILAR ABOVE GREATER-THAN"⟩,
  ⟨0x2a90, "0GREATER-THAN ABOVE SIMILAR ABOVE LESS-THAN"⟩,
  ⟨0x2a91, "0LESS-THAN ABOVE GREATER-THAN ABOVE DOUBLE-LINE EQUAL"⟩,
  ⟨0x2a92, "0GREATER-THAN ABOVE LESS-THAN ABOVE DOUBLE-LINE EQUAL"⟩,
  ⟨0x2a93, "0LESS-THAN ABOVE SLANTED EQUAL ABOVE GREATER-THAN ABOVE SLANTED EQUAL"⟩,
  ⟨0x2a94, "0GREATER-THAN ABOVE SLANTED EQUAL ABOVE LESS-THAN ABOVE SLANTED EQUAL"⟩,
  ⟨0x2a95, "0SLANTED EQUAL TO OR LESS-THAN;4GREATER-THAN;4LESS-THAN WITH DOT INSIDE"⟩,
  ⟨0x2a98, "4GREATER-THAN WITH DOT INSIDE;0DOUBLE-LINE EQUAL TO OR LESS-THAN;5GREATER-THAN"⟩,
  ⟨0x2a9b, "2SLANTED EQUAL TO OR LESS-THAN;6GREATER-THAN;0SIMILAR OR LESS-THAN;2GREATER-THAN"⟩,
  ⟨0x2a9f, "1ABOVE LESS-THAN ABOVE EQUALS SIGN;2GREATER-THAN ABOVE EQUALS SIGN"⟩,
  ⟨0x2aa1, "0DOUBLE NESTED LESS-THAN;2GREATER-THAN;2LESS-THAN WITH UNDERBAR"⟩,
  ⟨0x2aa4, "0GREATER-THAN OVERLAPPING LESS-THAN;2BESIDE LESS-THAN;0LESS-THAN CLOSED BY CURVE"⟩,
  ⟨0x2aa7, "0GREATER-THAN CLOSED BY CURVE;0LESS-THAN CLOSED BY CURVE ABOVE SLANTED EQUAL"⟩,
  ⟨0x2aa9, "0GREATER-THAN CLOSED BY CURVE ABOVE SLANTED EQUAL;0SMALLER THAN;0LARGER THAN"⟩,
  ⟨0x2aac, "0SMALLER THAN OR EQUAL TO;0LARGER THAN OR EQUAL TO;0EQUALS SIGN WITH BUMPY ABOVE"⟩,
  ⟨0x2aaf, "0PRECEDES ABOVE SINGLE-LINE EQUALS SIGN;0SUCCEEDS ABOVE SINGLE-LINE EQUALS SIGN"⟩,
  ⟨0x2ab1, "0PRECEDES ABOVE SINGLE-LINE NOT EQUAL TO;0SUCCEEDS ABOVE SINGLE-LINE NOT EQUAL TO"⟩,
  ⟨0x2ab3, "0PRECEDES ABOVE EQUALS SIGN;0SUCCEEDS ABOVE EQUALS SIGN;0PRECEDES ABOVE NOT EQUAL TO"⟩,
  ⟨0x2ab6, "0SUCCEEDS ABOVE NOT EQUAL TO;0PRECEDES ABOVE ALMOST EQUAL TO"⟩,
  ⟨0x2ab8, "0SUCCEEDS ABOVE ALMOST EQUAL TO;0PRECEDES ABOVE NOT ALMOST EQUAL TO"⟩,
  ⟨0x2aba, "0SUCCEEDS ABOVE NOT ALMOST EQUAL TO;0DOUBLE PRECEDES;1SUCCEEDS;0SUBSET WITH DOT"⟩,
  ⟨0x2abe, "0SUPERSET WITH DOT;0SUBSET WITH PLUS SIGN BELOW;0SUPERSET WITH PLUS SIGN BELOW"⟩,
  ⟨0x2ac1, "0SUBSET WITH MULTIPLICATION SIGN BELOW;0SUPERSET WITH MULTIPLICATION SIGN BELOW"⟩,
  ⟨0x2ac3, "0SUBSET OF OR EQUAL TO WITH DOT ABOVE;0SUPERSET OF OR EQUAL TO WITH DOT ABOVE"⟩,
  ⟨0x2ac5, "0SUBSET OF ABOVE EQUALS SIGN;0SUPERSET OF ABOVE EQUALS SIGN"⟩,
  ⟨0x2ac7, "0SUBSET OF ABOVE TILDE OPERATOR;0SUPERSET OF ABOVE TILDE OPERATOR"⟩,
  ⟨0x2ac9, "0SUBSET OF ABOVE ALMOST EQUAL TO;0SUPERSET OF ABOVE ALMOST EQUAL TO"⟩,
  ⟨0x2acb, "0SUBSET OF ABOVE NOT EQUAL TO;0SUPERSET OF ABOVE NOT EQUAL TO"⟩,
  ⟨0x2acd, "0SQUARE LEFT OPEN BOX OPERATOR;1RIGHT OPEN BOX OPERATOR;0CLOSED SUBSET;1SUPERSET"⟩,
  ⟨0x2ad1, "1SUBSET OR EQUAL TO;1SUPERSET OR EQUAL TO;0SUBSET ABOVE SUPERSET"⟩,
  ⟨0x2ad4, "0SUPERSET ABOVE SUBSET;0SUBSET ABOVE SUBSET;0SUPERSET ABOVE SUPERSET;1BESIDE SUBSET"⟩,
  ⟨0x2ad8, "2AND JOINED BY DASH WITH SUBSET;0ELEMENT OF OPENING DOWNWARDS;0PITCHFORK WITH TEE TOP"⟩,
  ⟨0x2adb, "0TRANSVERSAL INTERSECTION;0FORKING;0NONFORKING;0SHORT LEFT TACK;1DOWN TACK;1UP TACK"⟩,
  ⟨0x2ae1, "0PERPENDICULAR WITH S;0VERTICAL BAR TRIPLE RIGHT TURNSTILE"⟩,
  ⟨0x2ae3, "0DOUBLE VERTICAL BAR LEFT TURNSTILE;0VERTICAL BAR DOUBLE LEFT TURNSTILE"⟩,
  ⟨0x2ae5, "0DOUBLE VERTICAL BAR DOUBLE LEFT TURNSTILE"⟩,
  ⟨0x2ae6, "0LONG DASH FROM LEFT MEMBER OF DOUBLE VERTICAL;0SHORT DOWN TACK WITH OVERBAR"⟩,
  ⟨0x2ae8, "1UP TACK WITH UNDERBAR;3ABOVE SHORT DOWN TACK;0DOUBLE DOWN TACK;1UP TACK"⟩,
  ⟨0x2aec, "1STROKE NOT SIGN;0REVERSED DOUBLE STROKE NOT SIGN"⟩,
  ⟨0x2aee, "0DOES NOT DIVIDE WITH REVERSED NEGATION SLASH;0VERTICAL LINE WITH CIRCLE ABOVE;4BELOW"⟩,
  ⟨0x2af1, "0DOWN TACK WITH CIRCLE BELOW;0PARALLEL WITH HORIZONTAL STROKE;2TILDE OPERATOR"⟩,
  ⟨0x2af4, "0TRIPLE VERTICAL BAR BINARY RELATION;3WITH HORIZONTAL STROKE;1COLON OPERATOR"⟩,
  ⟨0x2af7, "1NESTED LESS-THAN;2GREATER-THAN;0DOUBLE-LINE SLANTED LESS-THAN OR EQUAL TO"⟩,
  ⟨0x2afa, "3GREATER-THAN OR EQUAL TO;0TRIPLE SOLIDUS BINARY RELATION"⟩,
  ⟨0x2afc, "0LARGE TRIPLE VERTICAL BAR OPERATOR;0DOUBLE SOLIDUS OPERATOR;0WHITE VERTICAL BAR"⟩,
  ⟨0x2aff, "0N-ARY WHITE VERTICAL BAR;0NORTH EAST WHITE ARROW;1WEST WHITE ARROW"⟩,
  ⟨0x2b02, "0SOUTH EAST WHITE ARROW;1WEST WHITE ARROW;0LEFT RIGHT WHITE ARROW"⟩,
  ⟨0x2b05, "0LEFTWARDS BLACK ARROW;0UPWARDS BLACK ARROW;0DOWNWARDS BLACK ARROW"⟩,
  ⟨0x2b08, "0NORTH EAST BLACK ARROW;1WEST BLACK ARROW;0SOUTH EAST BLACK ARROW;1WEST BLACK ARROW"⟩,
  ⟨0x2b0c, "0LEFT RIGHT BLACK ARROW;0UP DOWN BLACK ARROW;0RIGHTWARDS ARROW WITH TIP DOWNWARDS"⟩,
  ⟨0x2b0f, "4UPWARDS;0LEFTWARDS ARROW WITH TIP DOWNWARDS;4UPWARDS;0SQUARE WITH TOP HALF BLACK"⟩,
  ⟨0x2b13, "2BOTTOM HALF BLACK;2UPPER RIGHT DIAGONAL HALF BLACK;2LOWER LEFT DIAGONAL HALF BLACK"⟩,
  ⟨0x2b16, "0DIAMOND WITH LEFT HALF BLACK;2RIGHT HALF BLACK;2TOP HALF BLACK;2BOTTOM HALF BLACK"⟩,
  ⟨0x2b1a, "0DOTTED SQUARE;0BLACK LARGE SQUARE;0WHITE LARGE SQUARE;0BLACK VERY SMALL SQUARE"⟩,
  ⟨0x2b1e, "0WHITE VERY SMALL SQUARE;0BLACK PENTAGON;0WHITE PENTAGON;1HEXAGON;0BLACK HEXAGON"⟩,
  ⟨0x2b23, "0HORIZONTAL BLACK HEXAGON;0BLACK LARGE CIRCLE;1MEDIUM DIAMOND;0WHITE MEDIUM DIAMOND"⟩,
  ⟨0x2b27, "0BLACK MEDIUM LOZENGE;0WHITE MEDIUM LOZENGE;0BLACK SMALL DIAMOND;2LOZENGE"⟩,
  ⟨0x2b2b, "0WHITE SMALL LOZENGE;0BLACK HORIZONTAL ELLIPSE;0WHITE HORIZONTAL ELLIPSE"⟩,
  ⟨0x2b2e, "0BLACK VERTICAL ELLIPSE;0WHITE VERTICAL ELLIPSE;0LEFT ARROW WITH SMALL CIRCLE"⟩,
  ⟨0x2b31, "0THREE LEFTWARDS ARROWS;0LEFT ARROW WITH CIRCLED PLUS;0LONG LEFTWARDS SQUIGGLE ARROW"⟩,
  ⟨0x2b34, "0LEFTWARDS TWO-HEADED ARROW WITH VERTICAL STROKE;5DOUBLE VERTICAL STROKE;4FROM BAR"⟩,
  ⟨0x2b37, "3TRIPLE DASH ARROW;1ARROW WITH DOTTED STEM;3TAIL WITH VERTICAL STROKE"⟩,
  ⟨0x2b3a, "5DOUBLE VERTICAL STROKE;1TWO-HEADED ARROW WITH TAIL;5TAIL WITH VERTICAL STROKE"⟩,
  ⟨0x2b3d, "7DOUBLE VERTICAL STROKE;1ARROW THROUGH X;0WAVE ARROW POINTING DIRECTLY LEFT"⟩,
  ⟨0x2b40, "0EQUALS SIGN ABOVE LEFTWARDS ARROW;0REVERSE TILDE OPERATOR ABOVE LEFTWARDS ARROW"⟩,
  ⟨0x2b42, "0LEFTWARDS ARROW ABOVE REVERSE ALMOST EQUAL TO;0RIGHTWARDS ARROW THROUGH GREATER-THAN"⟩,
  ⟨0x2b44, "3SUPERSET;0LEFTWARDS QUADRUPLE ARROW;0RIGHTWARDS QUADRUPLE ARROW"⟩,
  ⟨0x2b47, "0REVERSE TILDE OPERATOR ABOVE RIGHTWARDS ARROW"⟩,
  ⟨0x2b48, "0RIGHTWARDS ARROW ABOVE REVERSE ALMOST EQUAL TO;0TILDE OPERATOR ABOVE LEFTWARDS ARROW"⟩,
  ⟨0x2b4a, "0LEFTWARDS ARROW ABOVE ALMOST EQUAL TO;3REVERSE TILDE OPERATOR"⟩,
  ⟨0x2b4c, "0RIGHTWARDS ARROW ABOVE REVERSE TILDE OPERATOR"⟩,
  ⟨0x2b4d, "0DOWNWARDS TRIANGLE-HEADED ZIGZAG ARROW;0SHORT SLANTED NORTH ARROW"⟩,
  ⟨0x2b4f, "1BACKSLANTED SOUTH ARROW;0WHITE MEDIUM STAR;0BLACK SMALL STAR;0WHITE SMALL STAR"⟩,
  ⟨0x2b53, "0BLACK RIGHT-POINTING PENTAGON;0WHITE RIGHT-POINTING PENTAGON;0HEAVY LARGE CIRCLE"⟩,
  ⟨0x2b56, "1OVAL WITH OVAL INSIDE;1CIRCLE WITH CIRCLE INSIDE;1CIRCLE;1CIRCLED SALTIRE"⟩,
  ⟨0x2b5a, "0SLANTED NORTH ARROW WITH HOOKED HEAD;0BACKSLANTED SOUTH ARROW WITH HOOKED TAIL"⟩,
  ⟨0x2b5c, "0SLANTED NORTH ARROW WITH HORIZONTAL TAIL"⟩,
  ⟨0x2b5d, "0BACKSLANTED SOUTH ARROW WITH HORIZONTAL TAIL"⟩,
  ⟨0x2b5e, "0BENT ARROW POINTING DOWNWARDS THEN NORTH EAST"⟩,
  ⟨0x2b5f, "0SHORT BENT ARROW POINTING DOWNWARDS THEN NORTH EAST;0LEFTWARDS TRIANGLE-HEADED ARROW"⟩,
  ⟨0x2b61, "0UPWARDS TRIANGLE-HEADED ARROW;0RIGHTWARDS TRIANGLE-HEADED ARROW"⟩,
  ⟨0x2b63, "0DOWNWARDS TRIANGLE-HEADED ARROW;0LEFT RIGHT TRIANGLE-HEADED ARROW"⟩,
  ⟨0x2b65, "0UP DOWN TRIANGLE-HEADED ARROW;0NORTH WEST TRIANGLE-HEADED ARROW"⟩,
  ⟨0x2b67, "1EAST TRIANGLE-HEADED ARROW;0SOUTH EAST TRIANGLE-HEADED ARROW"⟩,
  ⟨0x2b69, "1WEST TRIANGLE-HEADED ARROW;0LEFTWARDS TRIANGLE-HEADED DASHED ARROW"⟩,
  ⟨0x2b6b, "0UPWARDS TRIANGLE-HEADED DASHED ARROW;0RIGHTWARDS TRIANGLE-HEADED DASHED ARROW"⟩,
  ⟨0x2b6d, "0DOWNWARDS TRIANGLE-HEADED DASHED ARROW;0CLOCKWISE TRIANGLE-HEADED OPEN CIRCLE ARROW"⟩,
  ⟨0x2b6f, "0ANTICLOCKWISE TRIANGLE-HEADED OPEN CIRCLE ARROW"⟩,
  ⟨0x2b70, "0LEFTWARDS TRIANGLE-HEADED ARROW TO BAR;0UPWARDS TRIANGLE-HEADED ARROW TO BAR"⟩,
  ⟨0x2b72, "0RIGHTWARDS TRIANGLE-HEADED ARROW TO BAR;0DOWNWARDS TRIANGLE-HEADED ARROW TO BAR"⟩,
  ⟨0x2b76, "0NORTH WEST TRIANGLE-HEADED ARROW TO BAR;1EAST TRIANGLE-HEADED ARROW TO BAR"⟩,
  ⟨0x2b78, "0SOUTH EAST TRIANGLE-HEADED ARROW TO BAR;1WEST TRIANGLE-HEADED ARROW TO BAR"⟩,
  ⟨0x2b7a, "0LEFTWARDS TRIANGLE-HEADED ARROW WITH DOUBLE HORIZONTAL STROKE"⟩,
  ⟨0x2b7b, "0UPWARDS TRIANGLE-HEADED ARROW WITH DOUBLE HORIZONTAL STROKE"⟩,
  ⟨0x2b7c, "0RIGHTWARDS TRIANGLE-HEADED ARROW WITH DOUBLE HORIZONTAL STROKE"⟩,
  ⟨0x2b7d, "0DOWNWARDS TRIANGLE-HEADED ARROW WITH DOUBLE HORIZONTAL STROKE;0HORIZONTAL TAB KEY"⟩,
  ⟨0x2b7f, "0VERTICAL TAB KEY"⟩,
  ⟨0x2b80, "0LEFTWARDS TRIANGLE-HEADED ARROW OVER RIGHTWARDS TRIANGLE-HEADED ARROW"⟩,
  ⟨0x2b81, "0UPWARDS TRIANGLE-HEADED ARROW LEFTWARDS OF DOWNWARDS TRIANGLE-HEADED ARROW"⟩,
  ⟨0x2b82, "0RIGHTWARDS TRIANGLE-HEADED ARROW OVER LEFTWARDS TRIANGLE-HEADED ARROW"⟩,
  ⟨0x2b83, "0DOWNWARDS TRIANGLE-HEADED ARROW LEFTWARDS OF UPWARDS TRIANGLE-HEADED ARROW"⟩,
  ⟨0x2b84, "0LEFTWARDS TRIANGLE-HEADED PAIRED ARROWS;0UPWARDS TRIANGLE-HEADED PAIRED ARROWS"⟩,
  ⟨0x2b86, "0RIGHTWARDS TRIANGLE-HEADED PAIRED ARROWS;0DOWNWARDS TRIANGLE-HEADED PAIRED ARROWS"⟩,
  ⟨0x2b88, "0LEFTWARDS BLACK CIRCLED WHITE ARROW;0UPWARDS BLACK CIRCLED WHITE ARROW"⟩,
  ⟨0x2b8a, "0RIGHTWARDS BLACK CIRCLED WHITE ARROW;0DOWNWARDS BLACK CIRCLED WHITE ARROW"⟩,
  ⟨0x2b8c, "0ANTICLOCKWISE TRIANGLE-HEADED RIGHT U-SHAPED ARROW;3BOTTOM U-SHAPED ARROW"⟩,
  ⟨0x2b8e, "3LEFT U-SHAPED ARROW;3TOP U-SHAPED ARROW;0RETURN LEFT;1RIGHT;0NEWLINE LEFT;1RIGHT"⟩,
  ⟨0x2b94, "0FOUR CORNER ARROWS CIRCLING ANTICLOCKWISE;0RIGHTWARDS BLACK ARROW"⟩,
  ⟨0x2b97, "0SYMBOL FOR TYPE A ELECTRONICS;0THREE-D TOP-LIGHTED LEFTWARDS EQUILATERAL ARROWHEAD"⟩,
  ⟨0x2b99, "2RIGHT-LIGHTED UPWARDS EQUILATERAL ARROWHEAD"⟩,
  ⟨0x2b9a, "2TOP-LIGHTED RIGHTWARDS EQUILATERAL ARROWHEAD"⟩,
  ⟨0x2b9b, "2LEFT-LIGHTED DOWNWARDS EQUILATERAL ARROWHEAD;0BLACK LEFTWARDS EQUILATERAL ARROWHEAD"⟩,
  ⟨0x2b9d, "1UPWARDS EQUILATERAL ARROWHEAD;1RIGHTWARDS EQUILATERAL ARROWHEAD"⟩,
  ⟨0x2b9f, "1DOWNWARDS EQUILATERAL ARROWHEAD"⟩,
  ⟨0x2ba0, "0DOWNWARDS TRIANGLE-HEADED ARROW WITH LONG TIP LEFTWARDS;7RIGHTWARDS"⟩,
  ⟨0x2ba2, "0UPWARDS TRIANGLE-HEADED ARROW WITH LONG TIP LEFTWARDS;7RIGHTWARDS"⟩,
  ⟨0x2ba4, "0LEFTWARDS TRIANGLE-HEADED ARROW WITH LONG TIP UPWARDS"⟩,
  ⟨0x2ba5, "0RIGHTWARDS TRIANGLE-HEADED ARROW WITH LONG TIP UPWARDS"⟩,
  ⟨0x2ba6, "0LEFTWARDS TRIANGLE-HEADED ARROW WITH LONG TIP DOWNWARDS"⟩,
  ⟨0x2ba7, "0RIGHTWARDS TRIANGLE-HEADED ARROW WITH LONG TIP DOWNWARDS"⟩,
  ⟨0x2ba8, "0BLACK CURVED DOWNWARDS AND LEFTWARDS ARROW;4RIGHTWARDS ARROW"⟩,
  ⟨0x2baa, "2UPWARDS AND LEFTWARDS ARROW;4RIGHTWARDS ARROW;2LEFTWARDS AND UPWARDS ARROW"⟩,
  ⟨0x2bad, "2RIGHTWARDS AND UPWARDS ARROW;2LEFTWARDS AND DOWNWARDS ARROW"⟩,
  ⟨0x2baf, "2RIGHTWARDS AND DOWNWARDS ARROW;0RIBBON ARROW DOWN LEFT;3RIGHT;2UP LEFT;3RIGHT"⟩,
  ⟨0x2bb4, "2LEFT UP;2RIGHT UP;2LEFT DOWN;2RIGHT DOWN"⟩,
  ⟨0x2bb8, "0UPWARDS WHITE ARROW FROM BAR WITH HORIZONTAL BAR;0UP ARROWHEAD IN A RECTANGLE BOX"⟩,
  ⟨0x2bba, "0OVERLAPPING WHITE SQUARES;2AND BLACK SQUARES;1BLACK SQUARES;0BALLOT BOX WITH LIGHT X"⟩,
  ⟨0x2bbe, "0CIRCLED X;1BOLD X;0BLACK SQUARE CENTRED;1DIAMOND CENTRED;0TURNED BLACK PENTAGON"⟩,
  ⟨0x2bc3, "0HORIZONTAL BLACK OCTAGON;0BLACK OCTAGON;1MEDIUM UP-POINTING TRIANGLE CENTRED"⟩,
  ⟨0x2bc6, "2DOWN-POINTING TRIANGLE CENTRED;2LEFT-POINTING TRIANGLE CENTRED"⟩,
  ⟨0x2bc8, "2RIGHT-POINTING TRIANGLE CENTRED;0NEPTUNE FORM TWO;0TOP HALF BLACK CIRCLE"⟩,
  ⟨0x2bcb, "0BOTTOM HALF BLACK CIRCLE;0LIGHT FOUR POINTED BLACK CUSP"⟩,
  ⟨0x2bcd, "0ROTATED LIGHT FOUR POINTED BLACK CUSP;0WHITE FOUR POINTED CUSP"⟩,
  ⟨0x2bcf, "0ROTATED WHITE FOUR POINTED CUSP;0SQUARE POSITION INDICATOR;0UNCERTAINTY SIGN"⟩,
  ⟨0x2bd2, "0GROUP MARK;0PLUTO FORM TWO;2THREE;2FOUR;2FIVE;0TRANSPLUTO;0PROSERPINA;0ASTRAEA"⟩,
  ⟨0x2bda, "0HYGIEA;0PHOLUS;0NESSUS;0WHITE MOON SELENA;0BLACK DIAMOND ON CROSS"⟩,
  ⟨0x2bdf, "0TRUE LIGHT MOON ARTA;0CUPIDO;0HADES;0ZEUS;0KRONOS;0APOLLON;0ADMETOS;0VULCANUS"⟩,
  ⟨0x2be7, "0POSEIDON;0LEFT HALF BLACK STAR;0RIGHT HALF BLACK STAR;0STAR WITH LEFT HALF BLACK"⟩,
  ⟨0x2beb, "2RIGHT HALF BLACK;0LEFTWARDS TWO-HEADED ARROW WITH TRIANGLE ARROWHEADS"⟩,
  ⟨0x2bed, "0UPWARDS TWO-HEADED ARROW WITH TRIANGLE ARROWHEADS"⟩,
  ⟨0x2bee, "0RIGHTWARDS TWO-HEADED ARROW WITH TRIANGLE ARROWHEADS"⟩,
  ⟨0x2bef, "0DOWNWARDS TWO-HEADED ARROW WITH TRIANGLE ARROWHEADS;0ERIS FORM ONE;2TWO;0SEDNA"⟩,
  ⟨0x2bf3, "0RUSSIAN ASTROLOGICAL SYMBOL VIGINTILE;3NOVILE;3QUINTILE;3BINOVILE;3SENTAGON"⟩,
  ⟨0x2bf8, "3TREDECILE;0EQUALS SIGN WITH INFINITY BELOW;0UNITED SYMBOL;0SEPARATED SYMBOL"⟩,
  ⟨0x2bfc, "0DOUBLED SYMBOL;0PASSED SYMBOL;0REVERSED RIGHT ANGLE;0HELLSCHREIBER PAUSE SYMBOL"⟩,
  ⟨0x2c00, "0GLAGOLITIC CAPITAL LETTER AZU;3BUKY;3VEDE;3GLAGOLI;3DOBRO;3YESTU;3ZHIVETE;3DZELO"⟩,
  ⟨0x2c08, "3ZEMLJA;3IZHE;3INITIAL IZHE;3I;3DJERVI;3KAKO;3LJUDIJE;3MYSLITE;3NASHI;3ONU;3POKOJI"⟩,
  ⟨0x2c13, "3RITSI;3SLOVO;3TVRIDO;3UKU;3FRITU;3HERU;3OTU;3PE;3SHTA;3TSI;3CHRIVI;3SHA;3YERU;3YERI"⟩,
  ⟨0x2c21, "3YATI;3SPIDERY HA;3YU;3SMALL YUS;4YUS WITH TAIL;3YO;3IOTATED SMALL YUS;3BIG YUS"⟩,
  ⟨0x2c29, "3IOTATED BIG YUS;3FITA;3IZHITSA;3SHTAPIC;3TROKUTASTI A;3LATINATE MYSLITE"⟩,
  ⟨0x2c2f, "3CAUDATE CHRIVI;1SMALL LETTER AZU;3BUKY;3VEDE;3GLAGOLI;3DOBRO;3YESTU;3ZHIVETE;3DZELO"⟩,
  ⟨0x2c38, "3ZEMLJA;3IZHE;3INITIAL IZHE;3I;3DJERVI;3KAKO;3LJUDIJE;3MYSLITE;3NASHI;3ONU;3POKOJI"⟩,
  ⟨0x2c43, "3RITSI;3SLOVO;3TVRIDO;3UKU;3FRITU;3HERU;3OTU;3PE;3SHTA;3TSI;3CHRIVI;3SHA;3YERU;3YERI"⟩,
  ⟨0x2c51, "3YATI;3SPIDERY HA;3YU;3SMALL YUS;4YUS WITH TAIL;3YO;3IOTATED SMALL YUS;3BIG YUS"⟩,
  ⟨0x2c59, "3IOTATED BIG YUS;3FITA;3IZHITSA;3SHTAPIC;3TROKUTASTI A;3LATINATE MYSLITE"⟩,
  ⟨0x2c5f, "3CAUDATE CHRIVI;0LATIN CAPITAL LETTER L WITH DOUBLE BAR"⟩,
  ⟨0x2c61, "1SMALL LETTER L WITH DOUBLE BAR;1CAPITAL LETTER L WITH MIDDLE TILDE;3P WITH STROKE"⟩,
  ⟨0x2c64, "3R WITH TAIL;1SMALL LETTER A WITH STROKE;3T WITH DIAGONAL STROKE"⟩,
  ⟨0x2c67, "1CAPITAL LETTER H WITH DESCENDER;1SMALL LETTER H WITH DESCENDER"⟩,
  ⟨0x2c69, "1CAPITAL LETTER K WITH DESCENDER;1SMALL LETTER K WITH DESCENDER"⟩,
  ⟨0x2c6b, "1CAPITAL LETTER Z WITH DESCENDER;1SMALL LETTER Z WITH DESCENDER;1CAPITAL LETTER ALPHA"⟩,
  ⟨0x2c6e, "3M WITH HOOK;3TURNED A;4ALPHA;1SMALL LETTER V WITH RIGHT HOOK"⟩,
  ⟨0x2c72, "1CAPITAL LETTER W WITH HOOK;1SMALL LETTER W WITH HOOK;3V WITH CURL"⟩,
  ⟨0x2c75, "1CAPITAL LETTER HALF H;1SMALL LETTER HALF H;3TAILLESS PHI;3E WITH NOTCH"⟩,
  ⟨0x2c79, "3TURNED R WITH TAIL;3O WITH LOW RING INSIDE;1LETTER SMALL CAPITAL TURNED E"⟩,
  ⟨0x2c7c, "1SUBSCRIPT SMALL LETTER J;0MODIFIER LETTER CAPITAL V"⟩,
  ⟨0x2c7e, "0LATIN CAPITAL LETTER S WITH SWASH TAIL;3Z WITH SWASH TAIL"⟩,
  ⟨0x2c80, "0COPTIC CAPITAL LETTER ALFA;1SMALL LETTER ALFA;1CAPITAL LETTER VIDA"⟩,
  ⟨0x2c83, "1SMALL LETTER VIDA;1CAPITAL LETTER GAMMA;1SMALL LETTER GAMMA;1CAPITAL LETTER DALDA"⟩,
  ⟨0x2c87, "1SMALL LETTER DALDA;1CAPITAL LETTER EIE;1SMALL LETTER EIE;1CAPITAL LETTER SOU"⟩,
  ⟨0x2c8b, "1SMALL LETTER SOU;1CAPITAL LETTER ZATA;1SMALL LETTER ZATA;1CAPITAL LETTER HATE"⟩,
  ⟨0x2c8f, "1SMALL LETTER HATE;1CAPITAL LETTER THETHE;1SMALL LETTER THETHE;1CAPITAL LETTER IAUDA"⟩,
  ⟨0x2c93, "1SMALL LETTER IAUDA;1CAPITAL LETTER KAPA;1SMALL LETTER KAPA;1CAPITAL LETTER LAULA"⟩,
  ⟨0x2c97, "1SMALL LETTER LAULA;1CAPITAL LETTER MI;1SMALL LETTER MI;1CAPITAL LETTER NI"⟩,
  ⟨0x2c9b, "1SMALL LETTER NI;1CAPITAL LETTER KSI;1SMALL LETTER KSI;1CAPITAL LETTER O"⟩,
  ⟨0x2c9f, "1SMALL LETTER O;1CAPITAL LETTER PI;1SMALL LETTER PI;1CAPITAL LETTER RO"⟩,
  ⟨0x2ca3, "1SMALL LETTER RO;1CAPITAL LETTER SIMA;1SMALL LETTER SIMA;1CAPITAL LETTER TAU"⟩,
  ⟨0x2ca7, "1SMALL LETTER TAU;1CAPITAL LETTER UA;1SMALL LETTER UA;1CAPITAL LETTER FI"⟩,
  ⟨0x2cab, "1SMALL LETTER FI;1CAPITAL LETTER KHI;1SMALL LETTER KHI;1CAPITAL LETTER PSI"⟩,
  ⟨0x2caf, "1SMALL LETTER PSI;1CAPITAL LETTER OOU;1SMALL LETTER OOU"⟩,
  ⟨0x2cb2, "1CAPITAL LETTER DIALECT-P ALEF;1SMALL LETTER DIALECT-P ALEF"⟩,
  ⟨0x2cb4, "1CAPITAL LETTER OLD COPTIC AIN;1SMALL LETTER OLD COPTIC AIN"⟩,
  ⟨0x2cb6, "1CAPITAL LETTER CRYPTOGRAMMIC EIE;1SMALL LETTER CRYPTOGRAMMIC EIE"⟩,
  ⟨0x2cb8, "1CAPITAL LETTER DIALECT-P KAPA;1SMALL LETTER DIALECT-P KAPA"⟩,
  ⟨0x2cba, "1CAPITAL LETTER DIALECT-P NI;1SMALL LETTER DIALECT-P NI"⟩,
  ⟨0x2cbc, "1CAPITAL LETTER CRYPTOGRAMMIC NI;1SMALL LETTER CRYPTOGRAMMIC NI"⟩,
  ⟨0x2cbe, "1CAPITAL LETTER OLD COPTIC OOU;1SMALL LETTER OLD COPTIC OOU;1CAPITAL LETTER SAMPI"⟩,
  ⟨0x2cc1, "1SMALL LETTER SAMPI;1CAPITAL LETTER CROSSED SHEI;1SMALL LETTER CROSSED SHEI"⟩,
  ⟨0x2cc4, "1CAPITAL LETTER OLD COPTIC SHEI;1SMALL LETTER OLD COPTIC SHEI"⟩,
  ⟨0x2cc6, "1CAPITAL LETTER OLD COPTIC ESH;1SMALL LETTER OLD COPTIC ESH"⟩,
  ⟨0x2cc8, "1CAPITAL LETTER AKHMIMIC KHEI;1SMALL LETTER AKHMIMIC KHEI"⟩,
  ⟨0x2cca, "1CAPITAL LETTER DIALECT-P HORI;1SMALL LETTER DIALECT-P HORI"⟩,
  ⟨0x2ccc, "1CAPITAL LETTER OLD COPTIC HORI;1SMALL LETTER OLD COPTIC HORI"⟩,
  ⟨0x2cce, "1CAPITAL LETTER OLD COPTIC HA;1SMALL LETTER OLD COPTIC HA;1CAPITAL LETTER L-SHAPED HA"⟩,
  ⟨0x2cd1, "1SMALL LETTER L-SHAPED HA;1CAPITAL LETTER OLD COPTIC HEI;1SMALL LETTER OLD COPTIC HEI"⟩,
  ⟨0x2cd4, "1CAPITAL LETTER OLD COPTIC HAT;1SMALL LETTER OLD COPTIC HAT"⟩,
  ⟨0x2cd6, "1CAPITAL LETTER OLD COPTIC GANGIA;1SMALL LETTER OLD COPTIC GANGIA"⟩,
  ⟨0x2cd8, "1CAPITAL LETTER OLD COPTIC DJA;1SMALL LETTER OLD COPTIC DJA"⟩,
  ⟨0x2cda, "1CAPITAL LETTER OLD COPTIC SHIMA;1SMALL LETTER OLD COPTIC SHIMA"⟩,
  ⟨0x2cdc, "1CAPITAL LETTER OLD NUBIAN SHIMA;1SMALL LETTER OLD NUBIAN SHIMA"⟩,
  ⟨0x2cde, "1CAPITAL LETTER OLD NUBIAN NGI;1SMALL LETTER OLD NUBIAN NGI"⟩,
  ⟨0x2ce0, "1CAPITAL LETTER OLD NUBIAN NYI;1SMALL LETTER OLD NUBIAN NYI"⟩,
  ⟨0x2ce2, "1CAPITAL LETTER OLD NUBIAN WAU;1SMALL LETTER OLD NUBIAN WAU;1SYMBOL KAI;2MI RO;2PI RO"⟩,
  ⟨0x2ce7, "2STAUROS;2TAU RO;2KHI RO;2SHIMA SIMA;1CAPITAL LETTER CRYPTOGRAMMIC SHEI"⟩,
  ⟨0x2cec, "1SMALL LETTER CRYPTOGRAMMIC SHEI;1CAPITAL LETTER CRYPTOGRAMMIC GANGIA"⟩,
  ⟨0x2cee, "1SMALL LETTER CRYPTOGRAMMIC GANGIA;1COMBINING NI ABOVE;2SPIRITUS ASPER;3LENIS"⟩,
  ⟨0x2cf2, "1CAPITAL LETTER BOHAIRIC KHEI;1SMALL LETTER BOHAIRIC KHEI"⟩,
  ⟨0x2cf9, "1OLD NUBIAN FULL STOP;3DIRECT QUESTION MARK;3INDIRECT QUESTION MARK;3VERSE DIVIDER"⟩,
  ⟨0x2cfd, "1FRACTION ONE HALF;1FULL STOP;1MORPHOLOGICAL DIVIDER;0GEORGIAN SMALL LETTER AN;3BAN"⟩,
  ⟨0x2d02, "3GAN;3DON;3EN;3VIN;3ZEN;3TAN;3IN;3KAN;3LAS;3MAN;3NAR;3ON;3PAR;3ZHAR;3RAE;3SAN;3TAR"⟩,
  ⟨0x2d13, "3UN;3PHAR;3KHAR;3GHAN;3QAR;3SHIN;3CHIN;3CAN;3JIL;3CIL;3CHAR;3XAN;3JHAN;3HAE;3HE;3HIE"⟩,
  ⟨0x2d23, "3WE;3HAR;3HOE"⟩,
  ⟨0x2d27, "3YN"⟩,
  ⟨0x2d2d, "3AEN"⟩,
  ⟨0x2d30, "0TIFINAGH LETTER YA;2YAB;2YABH;2YAG;2YAGHH;2BERBER ACADEMY YAJ;2YAJ;2YAD;2YADH;2YADD"⟩,
  ⟨0x2d3a, "2YADDH;2YEY;2YAF;2YAK;2TUAREG YAK;2YAKHH;2YAH;2BERBER ACADEMY YAH;2TUAREG YAH;2YAHH"⟩,
  ⟨0x2d44, "2YAA;2YAKH;2TUAREG YAKH;2YAQ;2TUAREG YAQ;2YI;2YAZH;2AHAGGAR YAZH;2TUAREG YAZH;2YAL"⟩,
  ⟨0x2d4e, "2YAM;2YAN;2TUAREG YAGN;3YANG;2YAP;2YU;2YAR;2YARR;2YAGH;2TUAREG YAGH;2AYER YAGH;2YAS"⟩,
  ⟨0x2d5a, "2YASS;2YASH;2YAT;2YATH;2YACH;2YATT;2YAV;2YAW;2YAY;2YAZ;2TAWELLEMET YAZ;2YAZZ;2YE;2YO"⟩,
  ⟨0x2d6f, "1MODIFIER LETTER LABIALIZATION MARK;1SEPARATOR MARK"⟩,
  ⟨0x2d7f, "1CONSONANT JOINER;0ETHIOPIC SYLLABLE LOA;2MOA;2ROA;2SOA;2SHOA;2BOA;2TOA;2COA;2NOA"⟩,
  ⟨0x2d89, "2NYOA;2GLOTTAL OA;2ZOA;2DOA;2DDOA;2JOA;2THOA;2CHOA;2PHOA;2POA;2GGWA;2GGWI;2GGWEE"⟩,
  ⟨0x2d96, "2GGWE"⟩,
  ⟨0x2da0, "2SSA;2SSU;2SSI;2SSAA;2SSEE;2SSE;2SSO"⟩,
  ⟨0x2da8, "2CCA;2CCU;2CCI;2CCAA;2CCEE;2CCE;2CCO"⟩,
  ⟨0x2db0, "2ZZA;2ZZU;2ZZI;2ZZAA;2ZZEE;2ZZE;2ZZO"⟩,
  ⟨0x2db8, "2CCHA;2CCHU;2CCHI;2CCHAA;2CCHEE;2CCHE;2CCHO"⟩,
  ⟨0x2dc0, "2QYA;2QYU;2QYI;2QYAA;2QYEE;2QYE;2QYO"⟩,
  ⟨0x2dc8, "2KYA;2KYU;2KYI;2KYAA;2KYEE;2KYE;2KYO"⟩,
  ⟨0x2dd0, "2XYA;2XYU;2XYI;2XYAA;2XYEE;2XYE;2XYO"⟩,
  ⟨0x2dd8, "2GYA;2GYU;2GYI;2GYAA;2GYEE;2GYE;2GYO"⟩,
  ⟨0x2de0, "0COMBINING CYRILLIC LETTER BE;3VE;3GHE;3DE;3ZHE;3ZE;3KA;3EL;3EM;3EN;3O;3PE;3ER;3ES"⟩,
  ⟨0x2dee, "3TE;3HA;3TSE;3CHE;3SHA;3SHCHA;3FITA;3ES-TE;3A;3IE;3DJERV;3MONOGRAPH UK;3YAT;3YU"⟩,
  ⟨0x2dfc, "3IOTIFIED A;3LITTLE YUS;3BIG YUS;3IOTIFIED BIG YUS;0RIGHT ANGLE SUBSTITUTION MARKER"⟩,
  ⟨0x2e01, "2DOTTED SUBSTITUTION MARKER;0LEFT SUBSTITUTION BRACKET;0RIGHT SUBSTITUTION BRACKET"⟩,
  ⟨0x2e04, "0LEFT DOTTED SUBSTITUTION BRACKET;0RIGHT DOTTED SUBSTITUTION BRACKET"⟩,
  ⟨0x2e06, "0RAISED INTERPOLATION MARKER;1DOTTED INTERPOLATION MARKER"⟩,
  ⟨0x2e08, "0DOTTED TRANSPOSITION MARKER;0LEFT TRANSPOSITION BRACKET;0RIGHT TRANSPOSITION BRACKET"⟩,
  ⟨0x2e0b, "0RAISED SQUARE;0LEFT RAISED OMISSION BRACKET;0RIGHT RAISED OMISSION BRACKET"⟩,
  ⟨0x2e0e, "0EDITORIAL CORONIS;0PARAGRAPHOS;0FORKED PARAGRAPHOS;0REVERSED FORKED PARAGRAPHOS"⟩,
  ⟨0x2e12, "0HYPODIASTOLE;0DOTTED OBELOS;0DOWNWARDS ANCORA;0UPWARDS ANCORA"⟩,
  ⟨0x2e16, "0DOTTED RIGHT-POINTING ANGLE;0DOUBLE OBLIQUE HYPHEN;0INVERTED INTERROBANG"⟩,
  ⟨0x2e19, "0PALM BRANCH;0HYPHEN WITH DIAERESIS;0TILDE WITH RING ABOVE"⟩,
  ⟨0x2e1c, "0LEFT LOW PARAPHRASE BRACKET;0RIGHT LOW PARAPHRASE BRACKET;0TILDE WITH DOT ABOVE"⟩,
  ⟨0x2e1f, "3BELOW;0LEFT VERTICAL BAR WITH QUILL;0RIGHT VERTICAL BAR WITH QUILL"⟩,
  ⟨0x2e22, "0TOP LEFT HALF BRACKET;1RIGHT HALF BRACKET;0BOTTOM LEFT HALF BRACKET"⟩,
  ⟨0x2e25, "1RIGHT HALF BRACKET;0LEFT SIDEWAYS U BRACKET;0RIGHT SIDEWAYS U BRACKET"⟩,
  ⟨0x2e28, "0LEFT DOUBLE PARENTHESIS;0RIGHT DOUBLE PARENTHESIS;0TWO DOTS OVER ONE DOT PUNCTUATION"⟩,
  ⟨0x2e2b, "0ONE DOT OVER TWO DOTS PUNCTUATION;0SQUARED FOUR DOT PUNCTUATION;0FIVE DOT MARK"⟩,
  ⟨0x2e2e, "0REVERSED QUESTION MARK;0VERTICAL TILDE;0RING POINT;0WORD SEPARATOR MIDDLE DOT"⟩,
  ⟨0x2e32, "0TURNED COMMA;0RAISED DOT;1COMMA;0TURNED SEMICOLON;0DAGGER WITH LEFT GUARD"⟩,
  ⟨0x2e37, "2RIGHT GUARD;0TURNED DAGGER;0TOP HALF SECTION SIGN;0TWO-EM DASH;0THREE-EM DASH"⟩,
  ⟨0x2e3c, "0STENOGRAPHIC FULL STOP;0VERTICAL SIX DOTS;0WIGGLY VERTICAL LINE;0CAPITULUM"⟩,
  ⟨0x2e40, "0DOUBLE HYPHEN;0REVERSED COMMA;0DOUBLE LOW-REVERSED-9 QUOTATION MARK"⟩,
  ⟨0x2e43, "0DASH WITH LEFT UPTURN;0DOUBLE SUSPENSION MARK;0INVERTED LOW KAVYKA"⟩,
  ⟨0x2e46, "2KAVYKA WITH KAVYKA ABOVE;0LOW KAVYKA;1KAVYKA WITH DOT;0DOUBLE STACKED COMMA"⟩,
  ⟨0x2e4a, "0DOTTED SOLIDUS;0TRIPLE DAGGER;0MEDIEVAL COMMA;0PARAGRAPHUS MARK"⟩,
  ⟨0x2e4e, "0PUNCTUS ELEVATUS MARK;0CORNISH VERSE DIVIDER;0CROSS PATTY WITH RIGHT CROSSBAR"⟩,
  ⟨0x2e51, "3LEFT CROSSBAR;0TIRONIAN SIGN CAPITAL ET;0MEDIEVAL EXCLAMATION MARK;1QUESTION MARK"⟩,
  ⟨0x2e55, "0LEFT SQUARE BRACKET WITH STROKE;0RIGHT SQUARE BRACKET WITH STROKE"⟩,
  ⟨0x2e57, "0LEFT SQUARE BRACKET WITH DOUBLE STROKE;0RIGHT SQUARE BRACKET WITH DOUBLE STROKE"⟩,
  ⟨0x2e59, "0TOP HALF LEFT PARENTHESIS;2RIGHT PARENTHESIS;0BOTTOM HALF LEFT PARENTHESIS"⟩,
  ⟨0x2e5c, "2RIGHT PARENTHESIS;0OBLIQUE HYPHEN"⟩]

end Character
end DirectiveLint
