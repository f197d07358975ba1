import DirectiveLint.Character.Name.Row

/-!
# East Asian names

Names of the characters between U+2E80 and U+FFFF.
-/

namespace DirectiveLint
namespace Character

/-- Names of the characters between U+2E80 and U+FFFF. -/
def eastAsianNames : Array NameRow := #[
  ⟨0x2e80, "0CJK RADICAL REPEAT;2CLIFF;2SECOND ONE;3TWO;3THREE;2PERSON;2BOX;2TABLE;2KNIFE ONE"⟩,
  ⟨0x2e89, "3TWO;2DIVINATION;2SEAL;2SMALL ONE;3TWO;2LAME ONE;3TWO;3THREE;3FOUR;2SNAKE;2THREAD"⟩,
  ⟨0x2e94, "2SNOUT ONE;3TWO;2HEART ONE;3TWO;2HAND;2RAP"⟩,
  ⟨0x2e9b, "2CHOKE;2SUN;2MOON;2DEATH;2MOTHER;2CIVILIAN;2WATER ONE;3TWO;2FIRE;2PAW ONE;3TWO"⟩,
  ⟨0x2ea6, "2SIMPLIFIED HALF TREE TRUNK;2COW;2DOG;2JADE;2BOLT OF CLOTH;2EYE;2SPIRIT ONE;3TWO"⟩,
  ⟨0x2eae, "2BAMBOO;2SILK;2C-SIMPLIFIED SILK;2NET ONE;3TWO;3THREE;3FOUR;2MESH;2SHEEP;2RAM;2EWE"⟩,
  ⟨0x2eb9, "2OLD;2BRUSH ONE;3TWO;2MEAT;2MORTAR;2GRASS ONE;3TWO;3THREE;2TIGER;2CLOTHES;2WEST ONE"⟩,
  ⟨0x2ec4, "3TWO;2C-SIMPLIFIED SEE;2SIMPLIFIED HORN;2HORN;2C-SIMPLIFIED SPEECH;4SHELL;2FOOT"⟩,
  ⟨0x2ecb, "2C-SIMPLIFIED CART;2SIMPLIFIED WALK;2WALK ONE;3TWO;2CITY;2C-SIMPLIFIED GOLD;2LONG ONE"⟩,
  ⟨0x2ed2, "3TWO;2C-SIMPLIFIED LONG;4GATE;2MOUND ONE;3TWO;2RAIN;2BLUE"⟩,
  ⟨0x2ed9, "2C-SIMPLIFIED TANNED LEATHER;4LEAF;4WIND;4FLY;2EAT ONE;3TWO;3THREE;2C-SIMPLIFIED EAT"⟩,
  ⟨0x2ee1, "2HEAD;2C-SIMPLIFIED HORSE;2BONE;2GHOST;2C-SIMPLIFIED FISH;4BIRD;4SALT"⟩,
  ⟨0x2ee8, "2SIMPLIFIED WHEAT;3YELLOW;2C-SIMPLIFIED FROG;2J-SIMPLIFIED EVEN;2C-SIMPLIFIED EVEN"⟩,
  ⟨0x2eed, "2J-SIMPLIFIED TOOTH;2C-SIMPLIFIED TOOTH;2J-SIMPLIFIED DRAGON;2C-SIMPLIFIED DRAGON"⟩,
  ⟨0x2ef1, "2TURTLE;2J-SIMPLIFIED TURTLE;2C-SIMPLIFIED TURTLE"⟩,
  ⟨0x2f00, "0KANGXI RADICAL ONE;2LINE;2DOT;2SLASH;2SECOND;2HOOK;2TWO;2LID;2MAN;2LEGS;2ENTER"⟩,
  ⟨0x2f0b, "2EIGHT;2DOWN BOX;2COVER;2ICE;2TABLE;2OPEN BOX;2KNIFE;2POWER;2WRAP;2SPOON"⟩,
  ⟨0x2f15, "2RIGHT OPEN BOX;2HIDING ENCLOSURE;2TEN;2DIVINATION;2SEAL;2CLIFF;2PRIVATE;2AGAIN"⟩,
  ⟨0x2f1d, "2MOUTH;2ENCLOSURE;2EARTH;2SCHOLAR;2GO;2GO SLOWLY;2EVENING;2BIG;2WOMAN;2CHILD;2ROOF"⟩,
  ⟨0x2f28, "2INCH;2SMALL;2LAME;2CORPSE;2SPROUT;2MOUNTAIN;2RIVER;2WORK;2ONESELF;2TURBAN;2DRY"⟩,
  ⟨0x2f33, "2SHORT THREAD;2DOTTED CLIFF;2LONG STRIDE;2TWO HANDS;2SHOOT;2BOW;2SNOUT;2BRISTLE;2STEP"⟩,
  ⟨0x2f3c, "2HEART;2HALBERD;2DOOR;2HAND;2BRANCH;2RAP;2SCRIPT;2DIPPER;2AXE;2SQUARE;2NOT;2SUN;2SAY"⟩,
  ⟨0x2f49, "2MOON;2TREE;2LACK;2STOP;2DEATH;2WEAPON;2DO NOT;2COMPARE;2FUR;2CLAN;2STEAM;2WATER"⟩,
  ⟨0x2f55, "2FIRE;2CLAW;2FATHER;2DOUBLE X;2HALF TREE TRUNK;2SLICE;2FANG;2COW;2DOG;2PROFOUND;2JADE"⟩,
  ⟨0x2f60, "2MELON;2TILE;2SWEET;2LIFE;2USE;2FIELD;2BOLT OF CLOTH;2SICKNESS;2DOTTED TENT;2WHITE"⟩,
  ⟨0x2f6a, "2SKIN;2DISH;2EYE;2SPEAR;2ARROW;2STONE;2SPIRIT;2TRACK;2GRAIN;2CAVE;2STAND;2BAMBOO"⟩,
  ⟨0x2f76, "2RICE;2SILK;2JAR;2NET;2SHEEP;2FEATHER;2OLD;2AND;2PLOW;2EAR;2BRUSH;2MEAT;2MINISTER"⟩,
  ⟨0x2f83, "2SELF;2ARRIVE;2MORTAR;2TONGUE;2OPPOSE;2BOAT;2STOPPING;2COLOR;2GRASS;2TIGER;2INSECT"⟩,
  ⟨0x2f8e, "2BLOOD;2WALK ENCLOSURE;2CLOTHES;2WEST;2SEE;2HORN;2SPEECH;2VALLEY;2BEAN;2PIG;2BADGER"⟩,
  ⟨0x2f99, "2SHELL;2RED;2RUN;2FOOT;2BODY;2CART;2BITTER;2MORNING;2WALK;2CITY;2WINE;2DISTINGUISH"⟩,
  ⟨0x2fa5, "2VILLAGE;2GOLD;2LONG;2GATE;2MOUND;2SLAVE;2SHORT TAILED BIRD;2RAIN;2BLUE;2WRONG;2FACE"⟩,
  ⟨0x2fb0, "2LEATHER;2TANNED LEATHER;2LEEK;2SOUND;2LEAF;2WIND;2FLY;2EAT;2HEAD;2FRAGRANT;2HORSE"⟩,
  ⟨0x2fbb, "2BONE;2TALL;2HAIR;2FIGHT;2SACRIFICIAL WINE;2CAULDRON;2GHOST;2FISH;2BIRD;2SALT;2DEER"⟩,
  ⟨0x2fc6, "2WHEAT;2HEMP;2YELLOW;2MILLET;2BLACK;2EMBROIDERY;2FROG;2TRIPOD;2DRUM;2RAT;2NOSE;2EVEN"⟩,
  ⟨0x2fd2, "2TOOTH;2DRAGON;2TURTLE;2FLUTE"⟩,
  ⟨0x2ff0, "0IDEOGRAPHIC DESCRIPTION CHARACTER LEFT TO RIGHT;3ABOVE TO BELOW"⟩,
  ⟨0x2ff2, "3LEFT TO MIDDLE AND RIGHT;3ABOVE TO MIDDLE AND BELOW;3FULL SURROUND"⟩,
  ⟨0x2ff5, "3SURROUND FROM ABOVE;5BELOW;5LEFT;5UPPER LEFT;6RIGHT;5LOWER LEFT;3OVERLAID"⟩,
  ⟨0x3000, "1SPACE;1COMMA;1FULL STOP;0DITTO MARK;0JAPANESE INDUSTRIAL STANDARD SYMBOL"⟩,
  ⟨0x3005, "0IDEOGRAPHIC ITERATION MARK;1CLOSING MARK;1NUMBER ZERO;0LEFT ANGLE BRACKET"⟩,
  ⟨0x3009, "0RIGHT ANGLE BRACKET;0LEFT DOUBLE ANGLE BRACKET;0RIGHT DOUBLE ANGLE BRACKET"⟩,
  ⟨0x300c, "0LEFT CORNER BRACKET;0RIGHT CORNER BRACKET;0LEFT WHITE CORNER BRACKET"⟩,
  ⟨0x300f, "0RIGHT WHITE CORNER BRACKET;0LEFT BLACK LENTICULAR BRACKET"⟩,
  ⟨0x3011, "0RIGHT BLACK LENTICULAR BRACKET;0POSTAL MARK;0GETA MARK;0LEFT TORTOISE SHELL BRACKET"⟩,
  ⟨0x3015, "0RIGHT TORTOISE SHELL BRACKET;0LEFT WHITE LENTICULAR BRACKET"⟩,
  ⟨0x3017, "0RIGHT WHITE LENTICULAR BRACKET;0LEFT WHITE TORTOISE SHELL BRACKET"⟩,
  ⟨0x3019, "0RIGHT WHITE TORTOISE SHELL BRACKET;0LEFT WHITE SQUARE BRACKET"⟩,
  ⟨0x301b, "0RIGHT WHITE SQUARE BRACKET;0WAVE DASH;0REVERSED DOUBLE PRIME QUOTATION MARK"⟩,
  ⟨0x301e, "0DOUBLE PRIME QUOTATION MARK;0LOW DOUBLE PRIME QUOTATION MARK;0POSTAL MARK FACE"⟩,
  ⟨0x3021, "0HANGZHOU NUMERAL ONE;2TWO;2THREE;2FOUR;2FIVE;2SIX;2SEVEN;2EIGHT;2NINE"⟩,
  ⟨0x302a, "0IDEOGRAPHIC LEVEL TONE MARK;1RISING TONE MARK;1DEPARTING TONE MARK"⟩,
  ⟨0x302d, "1ENTERING TONE MARK;0HANGUL SINGLE DOT TONE MARK;1DOUBLE DOT TONE MARK;0WAVY DASH"⟩,
  ⟨0x3031, "0VERTICAL KANA REPEAT MARK;3WITH VOICED SOUND MARK;3MARK UPPER HALF"⟩,
  ⟨0x3034, "3WITH VOICED SOUND MARK UPPER HALF;3MARK LOWER HALF;0CIRCLED POSTAL MARK"⟩,
  ⟨0x3037, "0IDEOGRAPHIC TELEGRAPH LINE FEED SEPARATOR SYMBOL;0HANGZHOU NUMERAL TEN;2TWENTY"⟩,
  ⟨0x303a, "2THIRTY;0VERTICAL IDEOGRAPHIC ITERATION MARK;0MASU MARK;0PART ALTERNATION MARK"⟩,
  ⟨0x303e, "0IDEOGRAPHIC VARIATION INDICATOR;1HALF FILL SPACE"⟩,
  ⟨0x3041, "0HIRAGANA LETTER SMALL A;2A;2SMALL I;2I;2SMALL U;2U;2SMALL E;2E;2SMALL O;2O;2KA;2GA"⟩,
  ⟨0x304d, "2KI;2GI;2KU;2GU;2KE;2GE;2KO;2GO;2SA;2ZA;2SI;2ZI;2SU;2ZU;2SE;2ZE;2SO;2ZO;2TA;2DA;2TI"⟩,
  ⟨0x3062, "2DI;2SMALL TU;2TU;2DU;2TE;2DE;2TO;2DO;2NA;2NI;2NU;2NE;2NO;2HA;2BA;2PA;2HI;2BI;2PI;2HU"⟩,
  ⟨0x3076, "2BU;2PU;2HE;2BE;2PE;2HO;2BO;2PO;2MA;2MI;2MU;2ME;2MO;2SMALL YA;2YA;2SMALL YU;2YU"⟩,
  ⟨0x3087, "2SMALL YO;2YO;2RA;2RI;2RU;2RE;2RO;2SMALL WA;2WA;2WI;2WE;2WO;2N;2VU;2SMALL KA;3KE"⟩,
  ⟨0x3099, "0COMBINING KATAKANA-HIRAGANA VOICED SOUND MARK;3SEMI-VOICED SOUND MARK"⟩,
  ⟨0x309b, "0KATAKANA-HIRAGANA VOICED SOUND MARK;2SEMI-VOICED SOUND MARK;0HIRAGANA ITERATION MARK"⟩,
  ⟨0x309e, "1VOICED ITERATION MARK;1DIGRAPH YORI;0KATAKANA-HIRAGANA DOUBLE HYPHEN"⟩,
  ⟨0x30a1, "0KATAKANA LETTER SMALL A;2A;2SMALL I;2I;2SMALL U;2U;2SMALL E;2E;2SMALL O;2O;2KA;2GA"⟩,
  ⟨0x30ad, "2KI;2GI;2KU;2GU;2KE;2GE;2KO;2GO;2SA;2ZA;2SI;2ZI;2SU;2ZU;2SE;2ZE;2SO;2ZO;2TA;2DA;2TI"⟩,
  ⟨0x30c2, "2DI;2SMALL TU;2TU;2DU;2TE;2DE;2TO;2DO;2NA;2NI;2NU;2NE;2NO;2HA;2BA;2PA;2HI;2BI;2PI;2HU"⟩,
  ⟨0x30d6, "2BU;2PU;2HE;2BE;2PE;2HO;2BO;2PO;2MA;2MI;2MU;2ME;2MO;2SMALL YA;2YA;2SMALL YU;2YU"⟩,
  ⟨0x30e7, "2SMALL YO;2YO;2RA;2RI;2RU;2RE;2RO;2SMALL WA;2WA;2WI;2WE;2WO;2N;2VU;2SMALL KA;3KE;2VA"⟩,
  ⟨0x30f8, "2VI;2VE;2VO;1MIDDLE DOT;0KATAKANA-HIRAGANA PROLONGED SOUND MARK"⟩,
  ⟨0x30fd, "0KATAKANA ITERATION MARK;1VOICED ITERATION MARK;1DIGRAPH KOTO"⟩,
  ⟨0x3105, "0BOPOMOFO LETTER B;2P;2M;2F;2D;2T;2N;2L;2G;2K;2H;2J;2Q;2X;2ZH;2CH;2SH;2R;2Z;2C;2S;2A"⟩,
  ⟨0x311b, "2O;2E;2EH;2AI;2EI;2AU;2OU;2AN;2EN;2ANG;2ENG;2ER;2I;2U;2IU;2V;2NG;2GN;2IH"⟩,
  ⟨0x312e, "2O WITH DOT ABOVE;2NN"⟩,
  ⟨0x3131, "0HANGUL LETTER KIYEOK;2SSANGKIYEOK;2KIYEOK-SIOS;2NIEUN;2NIEUN-CIEUC;3HIEUH;2TIKEUT"⟩,
  ⟨0x3138, "2SSANGTIKEUT;2RIEUL;2RIEUL-KIYEOK;3MIEUM;3PIEUP;3SIOS;3THIEUTH;3PHIEUPH;3HIEUH;2MIEUM"⟩,
  ⟨0x3142, "2PIEUP;2SSANGPIEUP;2PIEUP-SIOS;2SIOS;2SSANGSIOS;2IEUNG;2CIEUC;2SSANGCIEUC;2CHIEUCH"⟩,
  ⟨0x314b, "2KHIEUKH;2THIEUTH;2PHIEUPH;2HIEUH;2A;2AE;2YA;2YAE;2EO;2E;2YEO;2YE;2O;2WA;2WAE;2OE;2YO"⟩,
  ⟨0x315c, "2U;2WEO;2WE;2WI;2YU;2EU;2YI;2I;1FILLER;1LETTER SSANGNIEUN;2NIEUN-TIKEUT;3SIOS"⟩,
  ⟨0x3168, "3PANSIOS;2RIEUL-KIYEOK-SIOS;3TIKEUT;3PIEUP-SIOS;3PANSIOS;3YEORINHIEUH;2MIEUM-PIEUP"⟩,
  ⟨0x316f, "3SIOS;3PANSIOS;2KAPYEOUNMIEUM;2PIEUP-KIYEOK;3TIKEUT;3SIOS-KIYEOK;4TIKEUT;3CIEUC"⟩,
  ⟨0x3177, "3THIEUTH;2KAPYEOUNPIEUP;2KAPYEOUNSSANGPIEUP;2SIOS-KIYEOK;3NIEUN;3TIKEUT;3PIEUP;3CIEUC"⟩,
  ⟨0x317f, "2PANSIOS;2SSANGIEUNG;2YESIEUNG;2YESIEUNG-SIOS;3PANSIOS;2KAPYEOUNPHIEUPH;2SSANGHIEUH"⟩,
  ⟨0x3186, "2YEORINHIEUH;2YO-YA;3YAE;3I;2YU-YEO;3YE;3I;2ARAEA;2ARAEAE"⟩,
  ⟨0x3190, "0IDEOGRAPHIC ANNOTATION LINKING MARK;2REVERSE MARK;2ONE MARK;2TWO MARK;2THREE MARK"⟩,
  ⟨0x3195, "2FOUR MARK;2TOP MARK;2MIDDLE MARK;2BOTTOM MARK;2FIRST MARK;2SECOND MARK;2THIRD MARK"⟩,
  ⟨0x319c, "2FOURTH MARK;2HEAVEN MARK;2EARTH MARK;2MAN MARK;0BOPOMOFO LETTER BU;2ZI;2JI;2GU;2EE"⟩,
  ⟨0x31a5, "2ENN;2OO;2ONN;2IR;2ANN;2INN;2UNN;2IM;2NGG;2AINN;2AUNN;2AM;2OM;2ONG;2INNN"⟩,
  ⟨0x31b4, "1FINAL LETTER P;3T;3K;3H;1LETTER GH;2LH;2ZY;1FINAL LETTER G;1LETTER GW;2KW;2OE;2AH"⟩,
  ⟨0x31c0, "0CJK STROKE T;2WG;2XG;2BXG;2SW;2HZZ;2HZG;2HP;2HZWG;2SZWG;2HZT;2HZZP;2HPWG;2HZW;2HZZZ"⟩,
  ⟨0x31cf, "2N;2H;2S;2P;2SP;2D;2HZ;2HG;2SZ;2SWZ;2ST;2SG;2PD;2PZ;2TN;2SZZ;2SWG;2HXWG;2HZZZG;2PG;2Q"⟩,
  ⟨0x31f0, "0KATAKANA LETTER SMALL KU;3SI;3SU;3TO;3NU;3HA;3HI;3HU;3HE;3HO;3MU;3RA;3RI;3RU;3RE;3RO"⟩,
  ⟨0x3200, "0PARENTHESIZED HANGUL KIYEOK;2NIEUN;2TIKEUT;2RIEUL;2MIEUM;2PIEUP;2SIOS;2IEUNG;2CIEUC"⟩,
  ⟨0x3209, "2CHIEUCH;2KHIEUKH;2THIEUTH;2PHIEUPH;2HIEUH;2KIYEOK A;2NIEUN A;2TIKEUT A;2RIEUL A"⟩,
  ⟨0x3212, "2MIEUM A;2PIEUP A;2SIOS A;2IEUNG A;2CIEUC A;2CHIEUCH A;2KHIEUKH A;2THIEUTH A"⟩,
  ⟨0x321a, "2PHIEUPH A;2HIEUH A;2CIEUC U;1KOREAN CHARACTER OJEON;3O HU"⟩,
  ⟨0x3220, "1IDEOGRAPH ONE;2TWO;2THREE;2FOUR;2FIVE;2SIX;2SEVEN;2EIGHT;2NINE;2TEN;2MOON;2FIRE"⟩,
  ⟨0x322c, "2WATER;2WOOD;2METAL;2EARTH;2SUN;2STOCK;2HAVE;2SOCIETY;2NAME;2SPECIAL;2FINANCIAL"⟩,
  ⟨0x3237, "2CONGRATULATION;2LABOR;2REPRESENT;2CALL;2STUDY;2SUPERVISE;2ENTERPRISE;2RESOURCE"⟩,
  ⟨0x323f, "2ALLIANCE;2FESTIVAL;2REST;2SELF;2REACH;0CIRCLED IDEOGRAPH QUESTION;2KINDERGARTEN"⟩,
  ⟨0x3246, "2SCHOOL;2KOTO;1NUMBER TEN ON BLACK SQUARE;2TWENTY ON BLACK SQUARE"⟩,
  ⟨0x324a, "2THIRTY ON BLACK SQUARE;2FORTY ON BLACK SQUARE;2FIFTY ON BLACK SQUARE"⟩,
  ⟨0x324d, "2SIXTY ON BLACK SQUARE;2SEVENTY ON BLACK SQUARE;2EIGHTY ON BLACK SQUARE"⟩,
  ⟨0x3250, "0PARTNERSHIP SIGN;0CIRCLED NUMBER TWENTY ONE;3TWO;3THREE;3FOUR;3FIVE;3SIX;3SEVEN"⟩,
  ⟨0x3258, "3EIGHT;3NINE;2THIRTY;2THIRTY ONE;3TWO;3THREE;3FOUR;3FIVE;1HANGUL KIYEOK;2NIEUN"⟩,
  ⟨0x3262, "2TIKEUT;2RIEUL;2MIEUM;2PIEUP;2SIOS;2IEUNG;2CIEUC;2CHIEUCH;2KHIEUKH;2THIEUTH;2PHIEUPH"⟩,
  ⟨0x326d, "2HIEUH;2KIYEOK A;2NIEUN A;2TIKEUT A;2RIEUL A;2MIEUM A;2PIEUP A;2SIOS A;2IEUNG A"⟩,
  ⟨0x3276, "2CIEUC A;2CHIEUCH A;2KHIEUKH A;2THIEUTH A;2PHIEUPH A;2HIEUH A"⟩,
  ⟨0x327c, "1KOREAN CHARACTER CHAMKO;3JUEUI;1HANGUL IEUNG U;0KOREAN STANDARD SYMBOL"⟩,
  ⟨0x3280, "0CIRCLED IDEOGRAPH ONE;2TWO;2THREE;2FOUR;2FIVE;2SIX;2SEVEN;2EIGHT;2NINE;2TEN;2MOON"⟩,
  ⟨0x328b, "2FIRE;2WATER;2WOOD;2METAL;2EARTH;2SUN;2STOCK;2HAVE;2SOCIETY;2NAME;2SPECIAL;2FINANCIAL"⟩,
  ⟨0x3297, "2CONGRATULATION;2LABOR;2SECRET;2MALE;2FEMALE;2SUITABLE;2EXCELLENT;2PRINT;2ATTENTION"⟩,
  ⟨0x32a0, "2ITEM;2REST;2COPY;2CORRECT;2HIGH;2CENTRE;2LOW;2LEFT;2RIGHT;2MEDICINE;2RELIGION;2STUDY"⟩,
  ⟨0x32ac, "2SUPERVISE;2ENTERPRISE;2RESOURCE;2ALLIANCE;2NIGHT;1NUMBER THIRTY SIX;3SEVEN;3EIGHT"⟩,
  ⟨0x32b4, "3NINE;2FORTY;2FORTY ONE;3TWO;3THREE;3FOUR;3FIVE;3SIX;3SEVEN;3EIGHT;3NINE;2FIFTY"⟩,
  ⟨0x32c0, "0IDEOGRAPHIC TELEGRAPH SYMBOL FOR JANUARY;4FEBRUARY;4MARCH;4APRIL;4MAY;4JUNE;4JULY"⟩,
  ⟨0x32c7, "4AUGUST;4SEPTEMBER;4OCTOBER;4NOVEMBER;4DECEMBER;0SQUARE HG;1ERG;1EV"⟩,
  ⟨0x32cf, "0LIMITED LIABILITY SIGN;0CIRCLED KATAKANA A;2I;2U;2E;2O;2KA;2KI;2KU;2KE;2KO;2SA;2SI"⟩,
  ⟨0x32dc, "2SU;2SE;2SO;2TA;2TI;2TU;2TE;2TO;2NA;2NI;2NU;2NE;2NO;2HA;2HI;2HU;2HE;2HO;2MA;2MI;2MU"⟩,
  ⟨0x32f1, "2ME;2MO;2YA;2YU;2YO;2RA;2RI;2RU;2RE;2RO;2WA;2WI;2WE;2WO;0SQUARE ERA NAME REIWA"⟩,
  ⟨0x3300, "1APAATO;1ARUHUA;1ANPEA;1AARU;1ININGU;1INTI;1UON;1ESUKUUDO;1EEKAA;1ONSU;1OOMU;1KAIRI"⟩,
  ⟨0x330c, "1KARATTO;1KARORII;1GARON;1GANMA;1GIGA;1GINII;1KYURII;1GIRUDAA;1KIRO;1KIROGURAMU"⟩,
  ⟨0x3316, "1KIROMEETORU;1KIROWATTO;1GURAMU;1GURAMUTON;1KURUZEIRO;1KUROONE;1KEESU;1KORUNA;1KOOPO"⟩,
  ⟨0x331f, "1SAIKURU;1SANTIIMU;1SIRINGU;1SENTI;1SENTO;1DAASU;1DESI;1DORU;1TON;1NANO;1NOTTO;1HAITU"⟩,
  ⟨0x332b, "1PAASENTO;1PAATU;1BAARERU;1PIASUTORU;1PIKURU;1PIKO;1BIRU;1HUARADDO;1HUIITO;1BUSSYERU"⟩,
  ⟨0x3335, "1HURAN;1HEKUTAARU;1PESO;1PENIHI;1HERUTU;1PENSU;1PEEZI;1BEETA;1POINTO;1BORUTO;1HON"⟩,
  ⟨0x3340, "1PONDO;1HOORU;1HOON;1MAIKURO;1MAIRU;1MAHHA;1MARUKU;1MANSYON;1MIKURON;1MIRI;1MIRIBAARU"⟩,
  ⟨0x334b, "1MEGA;1MEGATON;1MEETORU;1YAADO;1YAARU;1YUAN;1RITTORU;1RIRA;1RUPII;1RUUBURU;1REMU"⟩,
  ⟨0x3356, "1RENTOGEN;1WATTO;0IDEOGRAPHIC TELEGRAPH SYMBOL FOR HOUR ZERO;5ONE;5TWO;5THREE;5FOUR"⟩,
  ⟨0x335d, "5FIVE;5SIX;5SEVEN;5EIGHT;5NINE;5TEN;5ELEVEN;5TWELVE;5THIRTEEN;5FOURTEEN;5FIFTEEN"⟩,
  ⟨0x3368, "5SIXTEEN;5SEVENTEEN;5EIGHTEEN;5NINETEEN;5TWENTY;5TWENTY-ONE;6TWO;6THREE;6FOUR"⟩,
  ⟨0x3371, "0SQUARE HPA;1DA;1AU;1BAR;1OV;1PC;1DM;1DM SQUARED;2CUBED;1IU;1ERA NAME HEISEI;3SYOUWA"⟩,
  ⟨0x337d, "3TAISYOU;3MEIZI;1CORPORATION;1PA AMPS;1NA;1MU A;1MA;1KA;1KB;1MB;1GB;1CAL;1KCAL;1PF"⟩,
  ⟨0x338b, "1NF;1MU F;2G;1MG;1KG;1HZ;1KHZ;1MHZ;1GHZ;1THZ;1MU L;1ML;1DL;1KL;1FM;1NM;1MU M;1MM;1CM"⟩,
  ⟨0x339e, "1KM;1MM SQUARED;1CM SQUARED;1M SQUARED;1KM SQUARED;1MM CUBED;1CM CUBED;1M CUBED"⟩,
  ⟨0x33a6, "1KM CUBED;1M OVER S;3S SQUARED;1PA;1KPA;1MPA;1GPA;1RAD;1RAD OVER S;3S SQUARED;1PS;1NS"⟩,
  ⟨0x33b2, "1MU S;1MS;1PV;1NV;1MU V;1MV;1KV;1MV MEGA;1PW;1NW;1MU W;1MW;1KW;1MW MEGA;1K OHM;1M OHM"⟩,
  ⟨0x33c2, "1AM;1BQ;1CC;1CD;1C OVER KG;1CO;1DB;1GY;1HA;1HP;1IN;1KK;1KM CAPITAL;1KT;1LM;1LN;1LOG"⟩,
  ⟨0x33d3, "1LX;1MB SMALL;1MIL;1MOL;1PH;1PM;1PPM;1PR;1SR;1SV;1WB;1V OVER M;1A OVER M"⟩,
  ⟨0x33e0, "0IDEOGRAPHIC TELEGRAPH SYMBOL FOR DAY ONE;5TWO;5THREE;5FOUR;5FIVE;5SIX;5SEVEN;5EIGHT"⟩,
  ⟨0x33e8, "5NINE;5TEN;5ELEVEN;5TWELVE;5THIRTEEN;5FOURTEEN;5FIFTEEN;5SIXTEEN;5SEVENTEEN;5EIGHTEEN"⟩,
  ⟨0x33f2, "5NINETEEN;5TWENTY;5TWENTY-ONE;6TWO;6THREE;6FOUR;6FIVE;6SIX;6SEVEN;6EIGHT;6NINE"⟩,
  ⟨0x33fd, "5THIRTY;5THIRTY-ONE;0SQUARE GAL"⟩,
  ⟨0x4dc0, "0HEXAGRAM FOR THE CREATIVE HEAVEN;3RECEPTIVE EARTH;2DIFFICULTY AT THE BEGINNING"⟩,
  ⟨0x4dc3, "2YOUTHFUL FOLLY;2WAITING;2CONFLICT;2THE ARMY;2HOLDING TOGETHER;2SMALL TAMING"⟩,
  ⟨0x4dc9, "2TREADING;2PEACE;2STANDSTILL;2FELLOWSHIP;2GREAT POSSESSION;2MODESTY;2ENTHUSIASM"⟩,
  ⟨0x4dd0, "2FOLLOWING;2WORK ON THE DECAYED;2APPROACH;2CONTEMPLATION;2BITING THROUGH;2GRACE"⟩,
  ⟨0x4dd6, "2SPLITTING APART;2RETURN;2INNOCENCE;2GREAT TAMING;2MOUTH CORNERS;2GREAT PREPONDERANCE"⟩,
  ⟨0x4ddc, "2THE ABYSMAL WATER;3CLINGING FIRE;2INFLUENCE;2DURATION;2RETREAT;2GREAT POWER"⟩,
  ⟨0x4de2, "2PROGRESS;2DARKENING OF THE LIGHT;2THE FAMILY;2OPPOSITION;2OBSTRUCTION;2DELIVERANCE"⟩,
  ⟨0x4de8, "2DECREASE;2INCREASE;2BREAKTHROUGH;2COMING TO MEET;2GATHERING TOGETHER;2PUSHING UPWARD"⟩,
  ⟨0x4dee, "2OPPRESSION;2THE WELL;2REVOLUTION;2THE CAULDRON;3AROUSING THUNDER"⟩,
  ⟨0x4df3, "3KEEPING STILL MOUNTAIN;2DEVELOPMENT;2THE MARRYING MAIDEN;2ABUNDANCE;2THE WANDERER"⟩,
  ⟨0x4df8, "3GENTLE WIND;3JOYOUS LAKE;2DISPERSION;2LIMITATION;2INNER TRUTH;2SMALL PREPONDERANCE"⟩,
  ⟨0x4dfe, "2AFTER COMPLETION;2BEFORE COMPLETION"⟩,
  ⟨0xa000, "0YI SYLLABLE IT;2IX;2I;2IP;2IET;2IEX;2IE;2IEP;2AT;2AX;2A;2AP;2UOX;2UO;2UOP;2OT;2OX;2O"⟩,
  ⟨0xa012, "2OP;2EX;2E;2WU;2BIT;2BIX;2BI;2BIP;2BIET;2BIEX;2BIE;2BIEP;2BAT;2BAX;2BA;2BAP;2BUOX"⟩,
  ⟨0xa023, "2BUO;2BUOP;2BOT;2BOX;2BO;2BOP;2BEX;2BE;2BEP;2BUT;2BUX;2BU;2BUP;2BURX;2BUR;2BYT;2BYX"⟩,
  ⟨0xa034, "2BY;2BYP;2BYRX;2BYR;2PIT;2PIX;2PI;2PIP;2PIEX;2PIE;2PIEP;2PAT;2PAX;2PA;2PAP;2PUOX;2PUO"⟩,
  ⟨0xa045, "2PUOP;2POT;2POX;2PO;2POP;2PUT;2PUX;2PU;2PUP;2PURX;2PUR;2PYT;2PYX;2PY;2PYP;2PYRX;2PYR"⟩,
  ⟨0xa056, "2BBIT;2BBIX;2BBI;2BBIP;2BBIET;2BBIEX;2BBIE;2BBIEP;2BBAT;2BBAX;2BBA;2BBAP;2BBUOX;2BBUO"⟩,
  ⟨0xa064, "2BBUOP;2BBOT;2BBOX;2BBO;2BBOP;2BBEX;2BBE;2BBEP;2BBUT;2BBUX;2BBU;2BBUP;2BBURX;2BBUR"⟩,
  ⟨0xa072, "2BBYT;2BBYX;2BBY;2BBYP;2NBIT;2NBIX;2NBI;2NBIP;2NBIEX;2NBIE;2NBIEP;2NBAT;2NBAX;2NBA"⟩,
  ⟨0xa080, "2NBAP;2NBOT;2NBOX;2NBO;2NBOP;2NBUT;2NBUX;2NBU;2NBUP;2NBURX;2NBUR;2NBYT;2NBYX;2NBY"⟩,
  ⟨0xa08e, "2NBYP;2NBYRX;2NBYR;2HMIT;2HMIX;2HMI;2HMIP;2HMIEX;2HMIE;2HMIEP;2HMAT;2HMAX;2HMA;2HMAP"⟩,
  ⟨0xa09c, "2HMUOX;2HMUO;2HMUOP;2HMOT;2HMOX;2HMO;2HMOP;2HMUT;2HMUX;2HMU;2HMUP;2HMURX;2HMUR;2HMYX"⟩,
  ⟨0xa0aa, "2HMY;2HMYP;2HMYRX;2HMYR;2MIT;2MIX;2MI;2MIP;2MIEX;2MIE;2MIEP;2MAT;2MAX;2MA;2MAP;2MUOT"⟩,
  ⟨0xa0ba, "2MUOX;2MUO;2MUOP;2MOT;2MOX;2MO;2MOP;2MEX;2ME;2MUT;2MUX;2MU;2MUP;2MURX;2MUR;2MYT;2MYX"⟩,
  ⟨0xa0cb, "2MY;2MYP;2FIT;2FIX;2FI;2FIP;2FAT;2FAX;2FA;2FAP;2FOX;2FO;2FOP;2FUT;2FUX;2FU;2FUP;2FURX"⟩,
  ⟨0xa0dd, "2FUR;2FYT;2FYX;2FY;2FYP;2VIT;2VIX;2VI;2VIP;2VIET;2VIEX;2VIE;2VIEP;2VAT;2VAX;2VA;2VAP"⟩,
  ⟨0xa0ee, "2VOT;2VOX;2VO;2VOP;2VEX;2VEP;2VUT;2VUX;2VU;2VUP;2VURX;2VUR;2VYT;2VYX;2VY;2VYP;2VYRX"⟩,
  ⟨0xa0ff, "2VYR;2DIT;2DIX;2DI;2DIP;2DIEX;2DIE;2DIEP;2DAT;2DAX;2DA;2DAP;2DUOX;2DUO;2DOT;2DOX;2DO"⟩,
  ⟨0xa110, "2DOP;2DEX;2DE;2DEP;2DUT;2DUX;2DU;2DUP;2DURX;2DUR;2TIT;2TIX;2TI;2TIP;2TIEX;2TIE;2TIEP"⟩,
  ⟨0xa121, "2TAT;2TAX;2TA;2TAP;2TUOT;2TUOX;2TUO;2TUOP;2TOT;2TOX;2TO;2TOP;2TEX;2TE;2TEP;2TUT;2TUX"⟩,
  ⟨0xa132, "2TU;2TUP;2TURX;2TUR;2DDIT;2DDIX;2DDI;2DDIP;2DDIEX;2DDIE;2DDIEP;2DDAT;2DDAX;2DDA;2DDAP"⟩,
  ⟨0xa141, "2DDUOX;2DDUO;2DDUOP;2DDOT;2DDOX;2DDO;2DDOP;2DDEX;2DDE;2DDEP;2DDUT;2DDUX;2DDU;2DDUP"⟩,
  ⟨0xa14f, "2DDURX;2DDUR;2NDIT;2NDIX;2NDI;2NDIP;2NDIEX;2NDIE;2NDAT;2NDAX;2NDA;2NDAP;2NDOT;2NDOX"⟩,
  ⟨0xa15d, "2NDO;2NDOP;2NDEX;2NDE;2NDEP;2NDUT;2NDUX;2NDU;2NDUP;2NDURX;2NDUR;2HNIT;2HNIX;2HNI"⟩,
  ⟨0xa16b, "2HNIP;2HNIET;2HNIEX;2HNIE;2HNIEP;2HNAT;2HNAX;2HNA;2HNAP;2HNUOX;2HNUO;2HNOT;2HNOX"⟩,
  ⟨0xa178, "2HNOP;2HNEX;2HNE;2HNEP;2HNUT;2NIT;2NIX;2NI;2NIP;2NIEX;2NIE;2NIEP;2NAX;2NA;2NAP;2NUOX"⟩,
  ⟨0xa188, "2NUO;2NUOP;2NOT;2NOX;2NO;2NOP;2NEX;2NE;2NEP;2NUT;2NUX;2NU;2NUP;2NURX;2NUR;2HLIT;2HLIX"⟩,
  ⟨0xa199, "2HLI;2HLIP;2HLIEX;2HLIE;2HLIEP;2HLAT;2HLAX;2HLA;2HLAP;2HLUOX;2HLUO;2HLUOP;2HLOX;2HLO"⟩,
  ⟨0xa1a7, "2HLOP;2HLEX;2HLE;2HLEP;2HLUT;2HLUX;2HLU;2HLUP;2HLURX;2HLUR;2HLYT;2HLYX;2HLY;2HLYP"⟩,
  ⟨0xa1b5, "2HLYRX;2HLYR;2LIT;2LIX;2LI;2LIP;2LIET;2LIEX;2LIE;2LIEP;2LAT;2LAX;2LA;2LAP;2LUOT;2LUOX"⟩,
  ⟨0xa1c5, "2LUO;2LUOP;2LOT;2LOX;2LO;2LOP;2LEX;2LE;2LEP;2LUT;2LUX;2LU;2LUP;2LURX;2LUR;2LYT;2LYX"⟩,
  ⟨0xa1d6, "2LY;2LYP;2LYRX;2LYR;2GIT;2GIX;2GI;2GIP;2GIET;2GIEX;2GIE;2GIEP;2GAT;2GAX;2GA;2GAP"⟩,
  ⟨0xa1e6, "2GUOT;2GUOX;2GUO;2GUOP;2GOT;2GOX;2GO;2GOP;2GET;2GEX;2GE;2GEP;2GUT;2GUX;2GU;2GUP;2GURX"⟩,
  ⟨0xa1f7, "2GUR;2KIT;2KIX;2KI;2KIP;2KIEX;2KIE;2KIEP;2KAT;2KAX;2KA;2KAP;2KUOX;2KUO;2KUOP;2KOT"⟩,
  ⟨0xa207, "2KOX;2KO;2KOP;2KET;2KEX;2KE;2KEP;2KUT;2KUX;2KU;2KUP;2KURX;2KUR;2GGIT;2GGIX;2GGI"⟩,
  ⟨0xa217, "2GGIEX;2GGIE;2GGIEP;2GGAT;2GGAX;2GGA;2GGAP;2GGUOT;2GGUOX;2GGUO;2GGUOP;2GGOT;2GGOX"⟩,
  ⟨0xa224, "2GGO;2GGOP;2GGET;2GGEX;2GGE;2GGEP;2GGUT;2GGUX;2GGU;2GGUP;2GGURX;2GGUR;2MGIEX;2MGIE"⟩,
  ⟨0xa232, "2MGAT;2MGAX;2MGA;2MGAP;2MGUOX;2MGUO;2MGUOP;2MGOT;2MGOX;2MGO;2MGOP;2MGEX;2MGE;2MGEP"⟩,
  ⟨0xa240, "2MGUT;2MGUX;2MGU;2MGUP;2MGURX;2MGUR;2HXIT;2HXIX;2HXI;2HXIP;2HXIET;2HXIEX;2HXIE;2HXIEP"⟩,
  ⟨0xa24e, "2HXAT;2HXAX;2HXA;2HXAP;2HXUOT;2HXUOX;2HXUO;2HXUOP;2HXOT;2HXOX;2HXO;2HXOP;2HXEX;2HXE"⟩,
  ⟨0xa25c, "2HXEP;2NGIEX;2NGIE;2NGIEP;2NGAT;2NGAX;2NGA;2NGAP;2NGUOT;2NGUOX;2NGUO;2NGOT;2NGOX;2NGO"⟩,
  ⟨0xa26a, "2NGOP;2NGEX;2NGE;2NGEP;2HIT;2HIEX;2HIE;2HAT;2HAX;2HA;2HAP;2HUOT;2HUOX;2HUO;2HUOP;2HOT"⟩,
  ⟨0xa27a, "2HOX;2HO;2HOP;2HEX;2HE;2HEP;2WAT;2WAX;2WA;2WAP;2WUOX;2WUO;2WUOP;2WOX;2WO;2WOP;2WEX"⟩,
  ⟨0xa28b, "2WE;2WEP;2ZIT;2ZIX;2ZI;2ZIP;2ZIEX;2ZIE;2ZIEP;2ZAT;2ZAX;2ZA;2ZAP;2ZUOX;2ZUO;2ZUOP;2ZOT"⟩,
  ⟨0xa29c, "2ZOX;2ZO;2ZOP;2ZEX;2ZE;2ZEP;2ZUT;2ZUX;2ZU;2ZUP;2ZURX;2ZUR;2ZYT;2ZYX;2ZY;2ZYP;2ZYRX"⟩,
  ⟨0xa2ad, "2ZYR;2CIT;2CIX;2CI;2CIP;2CIET;2CIEX;2CIE;2CIEP;2CAT;2CAX;2CA;2CAP;2CUOX;2CUO;2CUOP"⟩,
  ⟨0xa2bd, "2COT;2COX;2CO;2COP;2CEX;2CE;2CEP;2CUT;2CUX;2CU;2CUP;2CURX;2CUR;2CYT;2CYX;2CY;2CYP"⟩,
  ⟨0xa2ce, "2CYRX;2CYR;2ZZIT;2ZZIX;2ZZI;2ZZIP;2ZZIET;2ZZIEX;2ZZIE;2ZZIEP;2ZZAT;2ZZAX;2ZZA;2ZZAP"⟩,
  ⟨0xa2dc, "2ZZOX;2ZZO;2ZZOP;2ZZEX;2ZZE;2ZZEP;2ZZUX;2ZZU;2ZZUP;2ZZURX;2ZZUR;2ZZYT;2ZZYX;2ZZY"⟩,
  ⟨0xa2ea, "2ZZYP;2ZZYRX;2ZZYR;2NZIT;2NZIX;2NZI;2NZIP;2NZIEX;2NZIE;2NZIEP;2NZAT;2NZAX;2NZA;2NZAP"⟩,
  ⟨0xa2f8, "2NZUOX;2NZUO;2NZOX;2NZOP;2NZEX;2NZE;2NZUX;2NZU;2NZUP;2NZURX;2NZUR;2NZYT;2NZYX;2NZY"⟩,
  ⟨0xa306, "2NZYP;2NZYRX;2NZYR;2SIT;2SIX;2SI;2SIP;2SIEX;2SIE;2SIEP;2SAT;2SAX;2SA;2SAP;2SUOX;2SUO"⟩,
  ⟨0xa316, "2SUOP;2SOT;2SOX;2SO;2SOP;2SEX;2SE;2SEP;2SUT;2SUX;2SU;2SUP;2SURX;2SUR;2SYT;2SYX;2SY"⟩,
  ⟨0xa327, "2SYP;2SYRX;2SYR;2SSIT;2SSIX;2SSI;2SSIP;2SSIEX;2SSIE;2SSIEP;2SSAT;2SSAX;2SSA;2SSAP"⟩,
  ⟨0xa335, "2SSOT;2SSOX;2SSO;2SSOP;2SSEX;2SSE;2SSEP;2SSUT;2SSUX;2SSU;2SSUP;2SSYT;2SSYX;2SSY;2SSYP"⟩,
  ⟨0xa344, "2SSYRX;2SSYR;2ZHAT;2ZHAX;2ZHA;2ZHAP;2ZHUOX;2ZHUO;2ZHUOP;2ZHOT;2ZHOX;2ZHO;2ZHOP;2ZHET"⟩,
  ⟨0xa352, "2ZHEX;2ZHE;2ZHEP;2ZHUT;2ZHUX;2ZHU;2ZHUP;2ZHURX;2ZHUR;2ZHYT;2ZHYX;2ZHY;2ZHYP;2ZHYRX"⟩,
  ⟨0xa360, "2ZHYR;2CHAT;2CHAX;2CHA;2CHAP;2CHUOT;2CHUOX;2CHUO;2CHUOP;2CHOT;2CHOX;2CHO;2CHOP;2CHET"⟩,
  ⟨0xa36e, "2CHEX;2CHE;2CHEP;2CHUX;2CHU;2CHUP;2CHURX;2CHUR;2CHYT;2CHYX;2CHY;2CHYP;2CHYRX;2CHYR"⟩,
  ⟨0xa37c, "2RRAX;2RRA;2RRUOX;2RRUO;2RROT;2RROX;2RRO;2RROP;2RRET;2RREX;2RRE;2RREP;2RRUT;2RRUX"⟩,
  ⟨0xa38a, "2RRU;2RRUP;2RRURX;2RRUR;2RRYT;2RRYX;2RRY;2RRYP;2RRYRX;2RRYR;2NRAT;2NRAX;2NRA;2NRAP"⟩,
  ⟨0xa398, "2NROX;2NRO;2NROP;2NRET;2NREX;2NRE;2NREP;2NRUT;2NRUX;2NRU;2NRUP;2NRURX;2NRUR;2NRYT"⟩,
  ⟨0xa3a6, "2NRYX;2NRY;2NRYP;2NRYRX;2NRYR;2SHAT;2SHAX;2SHA;2SHAP;2SHUOX;2SHUO;2SHUOP;2SHOT;2SHOX"⟩,
  ⟨0xa3b4, "2SHO;2SHOP;2SHET;2SHEX;2SHE;2SHEP;2SHUT;2SHUX;2SHU;2SHUP;2SHURX;2SHUR;2SHYT;2SHYX"⟩,
  ⟨0xa3c2, "2SHY;2SHYP;2SHYRX;2SHYR;2RAT;2RAX;2RA;2RAP;2RUOX;2RUO;2RUOP;2ROT;2ROX;2RO;2ROP;2REX"⟩,
  ⟨0xa3d2, "2RE;2REP;2RUT;2RUX;2RU;2RUP;2RURX;2RUR;2RYT;2RYX;2RY;2RYP;2RYRX;2RYR;2JIT;2JIX;2JI"⟩,
  ⟨0xa3e3, "2JIP;2JIET;2JIEX;2JIE;2JIEP;2JUOT;2JUOX;2JUO;2JUOP;2JOT;2JOX;2JO;2JOP;2JUT;2JUX;2JU"⟩,
  ⟨0xa3f3, "2JUP;2JURX;2JUR;2JYT;2JYX;2JY;2JYP;2JYRX;2JYR;2QIT;2QIX;2QI;2QIP;2QIET;2QIEX;2QIE"⟩,
  ⟨0xa403, "2QIEP;2QUOT;2QUOX;2QUO;2QUOP;2QOT;2QOX;2QO;2QOP;2QUT;2QUX;2QU;2QUP;2QURX;2QUR;2QYT"⟩,
  ⟨0xa413, "2QYX;2QY;2QYP;2QYRX;2QYR;2JJIT;2JJIX;2JJI;2JJIP;2JJIET;2JJIEX;2JJIE;2JJIEP;2JJUOX"⟩,
  ⟨0xa421, "2JJUO;2JJUOP;2JJOT;2JJOX;2JJO;2JJOP;2JJUT;2JJUX;2JJU;2JJUP;2JJURX;2JJUR;2JJYT;2JJYX"⟩,
  ⟨0xa42f, "2JJY;2JJYP;2NJIT;2NJIX;2NJI;2NJIP;2NJIET;2NJIEX;2NJIE;2NJIEP;2NJUOX;2NJUO;2NJOT;2NJOX"⟩,
  ⟨0xa43d, "2NJO;2NJOP;2NJUX;2NJU;2NJUP;2NJURX;2NJUR;2NJYT;2NJYX;2NJY;2NJYP;2NJYRX;2NJYR;2NYIT"⟩,
  ⟨0xa44b, "2NYIX;2NYI;2NYIP;2NYIET;2NYIEX;2NYIE;2NYIEP;2NYUOX;2NYUO;2NYUOP;2NYOT;2NYOX;2NYO"⟩,
  ⟨0xa458, "2NYOP;2NYUT;2NYUX;2NYU;2NYUP;2XIT;2XIX;2XI;2XIP;2XIET;2XIEX;2XIE;2XIEP;2XUOX;2XUO"⟩,
  ⟨0xa467, "2XOT;2XOX;2XO;2XOP;2XYT;2XYX;2XY;2XYP;2XYRX;2XYR;2YIT;2YIX;2YI;2YIP;2YIET;2YIEX;2YIE"⟩,
  ⟨0xa478, "2YIEP;2YUOT;2YUOX;2YUO;2YUOP;2YOT;2YOX;2YO;2YOP;2YUT;2YUX;2YU;2YUP;2YURX;2YUR;2YYT"⟩,
  ⟨0xa488, "2YYX;2YY;2YYP;2YYRX;2YYR"⟩,
  ⟨0xa490, "1RADICAL QOT;2LI;2KIT;2NYIP;2CYP;2SSI;2GGOP;2GEP;2MI;2HXIT;2LYR;2BBUT;2MOP;2YO;2PUT"⟩,
  ⟨0xa49f, "2HXUO;2TAT;2GA;2ZUP;2CYT;2DDUR;2BUR;2GGUO;2NYOP;2TU;2OP;2JJUT;2ZOT;2PYT;2HMO;2YIT"⟩,
  ⟨0xa4af, "2VUR;2SHY;2VEP;2ZA;2JO;2NZUP;2JJY;2GOT;2JJIE;2WO;2DU;2SHUR;2LIE;2CY;2CUOP;2CIP;2HXOP"⟩,
  ⟨0xa4c0, "2SHAT;2ZUR;2SHOP;2CHE;2ZZIET;2NBIE;2KE"⟩,
  ⟨0xa4d0, "0LISU LETTER BA;2PA;2PHA;2DA;2TA;2THA;2GA;2KA;2KHA;2JA;2CA;2CHA;2DZA;2TSA;2TSHA;2MA"⟩,
  ⟨0xa4e0, "2NA;2LA;2SA;2ZHA;2ZA;2NGA;2HA;2XA;2HHA;2FA;2WA;2SHA;2YA;2GHA;2A;2AE;2E;2EU;2I;2O;2U"⟩,
  ⟨0xa4f5, "2UE;2UH;2OE;2TONE MYA TI;3NA PO;3MYA CYA;4BO;4NA;4JEU;1PUNCTUATION COMMA;2FULL STOP"⟩,
  ⟨0xa500, "0VAI SYLLABLE EE;2EEN;2HEE;2WEE;2WEEN;2PEE;2BHEE;2BEE;2MBEE;2KPEE;2MGBEE;2GBEE;2FEE"⟩,
  ⟨0xa50d, "2VEE;2TEE;2THEE;2DHEE;2DHHEE;2LEE;2REE;2DEE;2NDEE;2SEE;2SHEE;2ZEE;2ZHEE;2CEE;2JEE"⟩,
  ⟨0xa51c, "2NJEE;2YEE;2KEE;2NGGEE;2GEE;2MEE;2NEE;2NYEE;2I;2IN;2HI;2HIN;2WI;2WIN;2PI;2BHI;2BI"⟩,
  ⟨0xa52d, "2MBI;2KPI;2MGBI;2GBI;2FI;2VI;2TI;2THI;2DHI;2DHHI;2LI;2RI;2DI;2NDI;2SI;2SHI;2ZI;2ZHI"⟩,
  ⟨0xa53f, "2CI;2JI;2NJI;2YI;2KI;2NGGI;2GI;2MI;2NI;2NYI;2A;2AN;2NGAN;2HA;2HAN;2WA;2WAN;2PA;2BHA"⟩,
  ⟨0xa552, "2BA;2MBA;2KPA;2KPAN;2MGBA;2GBA;2FA;2VA;2TA;2THA;2DHA;2DHHA;2LA;2RA;2DA;2NDA;2SA;2SHA"⟩,
  ⟨0xa564, "2ZA;2ZHA;2CA;2JA;2NJA;2YA;2KA;2KAN;2NGGA;2GA;2MA;2NA;2NYA;2OO;2OON;2HOO;2WOO;2WOON"⟩,
  ⟨0xa576, "2POO;2BHOO;2BOO;2MBOO;2KPOO;2MGBOO;2GBOO;2FOO;2VOO;2TOO;2THOO;2DHOO;2DHHOO;2LOO;2ROO"⟩,
  ⟨0xa585, "2DOO;2NDOO;2SOO;2SHOO;2ZOO;2ZHOO;2COO;2JOO;2NJOO;2YOO;2KOO;2NGGOO;2GOO;2MOO;2NOO"⟩,
  ⟨0xa594, "2NYOO;2U;2UN;2HU;2HUN;2WU;2WUN;2PU;2BHU;2BU;2MBU;2KPU;2MGBU;2GBU;2FU;2VU;2TU;2THU"⟩,
  ⟨0xa5a6, "2DHU;2DHHU;2LU;2RU;2DU;2NDU;2SU;2SHU;2ZU;2ZHU;2CU;2JU;2NJU;2YU;2KU;2NGGU;2GU;2MU;2NU"⟩,
  ⟨0xa5b9, "2NYU;2O;2ON;2NGON;2HO;2HON;2WO;2WON;2PO;2BHO;2BO;2MBO;2KPO;2MGBO;2GBO;2GBON;2FO;2VO"⟩,
  ⟨0xa5cb, "2TO;2THO;2DHO;2DHHO;2LO;2RO;2DO;2NDO;2SO;2SHO;2ZO;2ZHO;2CO;2JO;2NJO;2YO;2KO;2NGGO;2GO"⟩,
  ⟨0xa5de, "2MO;2NO;2NYO;2E;2EN;2NGEN;2HE;2HEN;2WE;2WEN;2PE;2BHE;2BE;2MBE;2KPE;2KPEN;2MGBE;2GBE"⟩,
  ⟨0xa5f0, "2GBEN;2FE;2VE;2TE;2THE;2DHE;2DHHE;2LE;2RE;2DE;2NDE;2SE;2SHE;2ZE;2ZHE;2CE;2JE;2NJE;2YE"⟩,
  ⟨0xa603, "2KE;2NGGE;2NGGEN;2GE;2GEN;2ME;2NE;2NYE;2NG;2LENGTHENER;1COMMA;1FULL STOP"⟩,
  ⟨0xa60f, "1QUESTION MARK;1SYLLABLE NDOLE FA;3KA;3SOO;1SYMBOL FEENG;2KEENG;2TING;2NII;2BANG;2FAA"⟩,
  ⟨0xa619, "2TAA;2DANG;2DOONG;2KUNG;2TONG;2DO-O;2JONG;1DIGIT ZERO;2ONE;2TWO;2THREE;2FOUR;2FIVE"⟩,
  ⟨0xa626, "2SIX;2SEVEN;2EIGHT;2NINE;1SYLLABLE NDOLE MA;3DO"⟩,
  ⟨0xa640, "0CYRILLIC CAPITAL LETTER ZEMLYA;1SMALL LETTER ZEMLYA;1CAPITAL LETTER DZELO"⟩,
  ⟨0xa643, "1SMALL LETTER DZELO;1CAPITAL LETTER REVERSED DZE;1SMALL LETTER REVERSED DZE"⟩,
  ⟨0xa646, "1CAPITAL LETTER IOTA;1SMALL LETTER IOTA;1CAPITAL LETTER DJERV;1SMALL LETTER DJERV"⟩,
  ⟨0xa64a, "1CAPITAL LETTER MONOGRAPH UK;1SMALL LETTER MONOGRAPH UK;1CAPITAL LETTER BROAD OMEGA"⟩,
  ⟨0xa64d, "1SMALL LETTER BROAD OMEGA;1CAPITAL LETTER NEUTRAL YER;1SMALL LETTER NEUTRAL YER"⟩,
  ⟨0xa650, "1CAPITAL LETTER YERU WITH BACK YER;1SMALL LETTER YERU WITH BACK YER"⟩,
  ⟨0xa652, "1CAPITAL LETTER IOTIFIED YAT;1SMALL LETTER IOTIFIED YAT;1CAPITAL LETTER REVERSED YU"⟩,
  ⟨0xa655, "1SMALL LETTER REVERSED YU;1CAPITAL LETTER IOTIFIED A;1SMALL LETTER IOTIFIED A"⟩,
  ⟨0xa658, "1CAPITAL LETTER CLOSED LITTLE YUS;1SMALL LETTER CLOSED LITTLE YUS"⟩,
  ⟨0xa65a, "1CAPITAL LETTER BLENDED YUS;1SMALL LETTER BLENDED YUS"⟩,
  ⟨0xa65c, "1CAPITAL LETTER IOTIFIED CLOSED LITTLE YUS;1SMALL LETTER IOTIFIED CLOSED LITTLE YUS"⟩,
  ⟨0xa65e, "1CAPITAL LETTER YN;1SMALL LETTER YN;1CAPITAL LETTER REVERSED TSE"⟩,
  ⟨0xa661, "1SMALL LETTER REVERSED TSE;1CAPITAL LETTER SOFT DE;1SMALL LETTER SOFT DE"⟩,
  ⟨0xa664, "1CAPITAL LETTER SOFT EL;1SMALL LETTER SOFT EL;1CAPITAL LETTER SOFT EM"⟩,
  ⟨0xa667, "1SMALL LETTER SOFT EM;1CAPITAL LETTER MONOCULAR O;1SMALL LETTER MONOCULAR O"⟩,
  ⟨0xa66a, "1CAPITAL LETTER BINOCULAR O;1SMALL LETTER BINOCULAR O"⟩,
  ⟨0xa66c, "1CAPITAL LETTER DOUBLE MONOCULAR O;1SMALL LETTER DOUBLE MONOCULAR O"⟩,
  ⟨0xa66e, "1LETTER MULTIOCULAR O;0COMBINING CYRILLIC VZMET;2TEN MILLIONS SIGN"⟩,
  ⟨0xa671, "2HUNDRED MILLIONS SIGN;2THOUSAND MILLIONS SIGN;0SLAVONIC ASTERISK"⟩,
  ⟨0xa674, "0COMBINING CYRILLIC LETTER UKRAINIAN IE;3I;3YI;3U;3HARD SIGN;3YERU;3SOFT SIGN;3OMEGA"⟩,
  ⟨0xa67c, "2KAVYKA;2PAYEROK;0CYRILLIC KAVYKA;1PAYEROK;1CAPITAL LETTER DWE;1SMALL LETTER DWE"⟩,
  ⟨0xa682, "1CAPITAL LETTER DZWE;1SMALL LETTER DZWE;1CAPITAL LETTER ZHWE;1SMALL LETTER ZHWE"⟩,
  ⟨0xa686, "1CAPITAL LETTER CCHE;1SMALL LETTER CCHE;1CAPITAL LETTER DZZE;1SMALL LETTER DZZE"⟩,
  ⟨0xa68a, "1CAPITAL LETTER TE WITH MIDDLE HOOK;1SMALL LETTER TE WITH MIDDLE HOOK"⟩,
  ⟨0xa68c, "1CAPITAL LETTER TWE;1SMALL LETTER TWE;1CAPITAL LETTER TSWE;1SMALL LETTER TSWE"⟩,
  ⟨0xa690, "1CAPITAL LETTER TSSE;1SMALL LETTER TSSE;1CAPITAL LETTER TCHE;1SMALL LETTER TCHE"⟩,
  ⟨0xa694, "1CAPITAL LETTER HWE;1SMALL LETTER HWE;1CAPITAL LETTER SHWE;1SMALL LETTER SHWE"⟩,
  ⟨0xa698, "1CAPITAL LETTER DOUBLE O;1SMALL LETTER DOUBLE O;1CAPITAL LETTER CROSSED O"⟩,
  ⟨0xa69b, "1SMALL LETTER CROSSED O;0MODIFIER LETTER CYRILLIC HARD SIGN;3SOFT SIGN"⟩,
  ⟨0xa69e, "0COMBINING CYRILLIC LETTER EF;3IOTIFIED E;0BAMUM LETTER A;2KA;2U;2KU;2EE;2REE;2TAE;2O"⟩,
  ⟨0xa6a8, "2NYI;2I;2LA;2PA;2RII;2RIEE;2LEEEE;2MEEEE;2TAA;2NDAA;2NJAEM;2M;2SUU;2MU;2SHII;2SI"⟩,
  ⟨0xa6b8, "2SHEUX;2SEUX;2KYEE;2KET;2NUAE;2NU;2NJUAE;2YOQ;2SHU;2YUQ;2YA;2NSHA;2KEUX;2PEUX;2NJEE"⟩,
  ⟨0xa6c7, "2NTEE;2PUE;2WUE;2PEE;2FEE;2RU;2LU;2MI;2NI;2REUX;2RAE;2KEN;2NGKWAEN;2NGGA;2NGA;2SHO"⟩,
  ⟨0xa6d7, "2PUAE;2FU;2FOM;2WA;2NA;2LI;2PI;2LOQ;2KO;2MBEN;2REN;2MEN;2MA;2TI;2KI;2MO;2MBAA;2TET"⟩,
  ⟨0xa6e9, "2KPA;2TEN;2NTUU;2SAMBA;2FAAMAE;2KOVUU;2KOGHOM;1COMBINING MARK KOQNDON;3TUKWENTIS"⟩,
  ⟨0xa6f2, "1NJAEMLI;1FULL STOP;1COLON;1COMMA;1SEMICOLON;1QUESTION MARK"⟩,
  ⟨0xa700, "0MODIFIER LETTER CHINESE TONE YIN PING;4YANG PING;4YIN SHANG;4YANG SHANG;4YIN QU"⟩,
  ⟨0xa705, "4YANG QU;4YIN RU;4YANG RU;2EXTRA-HIGH DOTTED TONE BAR;2HIGH DOTTED TONE BAR"⟩,
  ⟨0xa70a, "2MID DOTTED TONE BAR;2LOW DOTTED TONE BAR;2EXTRA-LOW DOTTED TONE BAR"⟩,
  ⟨0xa70d, "3HIGH DOTTED LEFT-STEM TONE BAR;2HIGH DOTTED LEFT-STEM TONE BAR"⟩,
  ⟨0xa70f, "2MID DOTTED LEFT-STEM TONE BAR;2LOW DOTTED LEFT-STEM TONE BAR"⟩,
  ⟨0xa711, "2EXTRA-LOW DOTTED LEFT-STEM TONE BAR;3HIGH LEFT-STEM TONE BAR"⟩,
  ⟨0xa713, "2HIGH LEFT-STEM TONE BAR;2MID LEFT-STEM TONE BAR;2LOW LEFT-STEM TONE BAR"⟩,
  ⟨0xa716, "2EXTRA-LOW LEFT-STEM TONE BAR;2DOT VERTICAL BAR;3SLASH;3HORIZONTAL BAR"⟩,
  ⟨0xa71a, "2LOWER RIGHT CORNER ANGLE;2RAISED UP ARROW;3DOWN ARROW;3EXCLAMATION MARK"⟩,
  ⟨0xa71e, "3INVERTED EXCLAMATION MARK;2LOW INVERTED EXCLAMATION MARK;2STRESS AND HIGH TONE"⟩,
  ⟨0xa721, "4LOW TONE;0LATIN CAPITAL LETTER EGYPTOLOGICAL ALEF;1SMALL LETTER EGYPTOLOGICAL ALEF"⟩,
  ⟨0xa724, "1CAPITAL LETTER EGYPTOLOGICAL AIN;1SMALL LETTER EGYPTOLOGICAL AIN"⟩,
  ⟨0xa726, "1CAPITAL LETTER HENG;1SMALL LETTER HENG;1CAPITAL LETTER TZ;1SMALL LETTER TZ"⟩,
  ⟨0xa72a, "1CAPITAL LETTER TRESILLO;1SMALL LETTER TRESILLO;1CAPITAL LETTER CUATRILLO"⟩,
  ⟨0xa72d, "1SMALL LETTER CUATRILLO;1CAPITAL LETTER CUATRILLO WITH COMMA"⟩,
  ⟨0xa72f, "1SMALL LETTER CUATRILLO WITH COMMA;1LETTER SMALL CAPITAL F;4S;1CAPITAL LETTER AA"⟩,
  ⟨0xa733, "1SMALL LETTER AA;1CAPITAL LETTER AO;1SMALL LETTER AO;1CAPITAL LETTER AU"⟩,
  ⟨0xa737, "1SMALL LETTER AU;1CAPITAL LETTER AV;1SMALL LETTER AV"⟩,
  ⟨0xa73a, "1CAPITAL LETTER AV WITH HORIZONTAL BAR;1SMALL LETTER AV WITH HORIZONTAL BAR"⟩,
  ⟨0xa73c, "1CAPITAL LETTER AY;1SMALL LETTER AY;1CAPITAL LETTER REVERSED C WITH DOT"⟩,
  ⟨0xa73f, "1SMALL LETTER REVERSED C WITH DOT;1CAPITAL LETTER K WITH STROKE"⟩,
  ⟨0xa741, "1SMALL LETTER K WITH STROKE;1CAPITAL LETTER K WITH DIAGONAL STROKE"⟩,
  ⟨0xa743, "1SMALL LETTER K WITH DIAGONAL STROKE"⟩,
  ⟨0xa744, "1CAPITAL LETTER K WITH STROKE AND DIAGONAL STROKE"⟩,
  ⟨0xa745, "1SMALL LETTER K WITH STROKE AND DIAGONAL STROKE;1CAPITAL LETTER BROKEN L"⟩,
  ⟨0xa747, "1SMALL LETTER BROKEN L;1CAPITAL LETTER L WITH HIGH STROKE"⟩,
  ⟨0xa749, "1SMALL LETTER L WITH HIGH STROKE;1CAPITAL LETTER O WITH LONG STROKE OVERLAY"⟩,
  ⟨0xa74b, "1SMALL LETTER O WITH LONG STROKE OVERLAY;1CAPITAL LETTER O WITH LOOP"⟩,
  ⟨0xa74d, "1SMALL LETTER O WITH LOOP;1CAPITAL LETTER OO;1SMALL LETTER OO"⟩,
  ⟨0xa750, "1CAPITAL LETTER P WITH STROKE THROUGH DESCENDER"⟩,
  ⟨0xa751, "1SMALL LETTER P WITH STROKE THROUGH DESCENDER;1CAPITAL LETTER P WITH FLOURISH"⟩,
  ⟨0xa753, "1SMALL LETTER P WITH FLOURISH;1CAPITAL LETTER P WITH SQUIRREL TAIL"⟩,
  ⟨0xa755, "1SMALL LETTER P WITH SQUIRREL TAIL;1CAPITAL LETTER Q WITH STROKE THROUGH DESCENDER"⟩,
  ⟨0xa757, "1SMALL LETTER Q WITH STROKE THROUGH DESCENDER;1CAPITAL LETTER Q WITH DIAGONAL STROKE"⟩,
  ⟨0xa759, "1SMALL LETTER Q WITH DIAGONAL STROKE;1CAPITAL LETTER R ROTUNDA"⟩,
  ⟨0xa75b, "1SMALL LETTER R ROTUNDA;1CAPITAL LETTER RUM ROTUNDA;1SMALL LETTER RUM ROTUNDA"⟩,
  ⟨0xa75e, "1CAPITAL LETTER V WITH DIAGONAL STROKE;1SMALL LETTER V WITH DIAGONAL STROKE"⟩,
  ⟨0xa760, "1CAPITAL LETTER VY;1SMALL LETTER VY;1CAPITAL LETTER VISIGOTHIC Z"⟩,
  ⟨0xa763, "1SMALL LETTER VISIGOTHIC Z;1CAPITAL LETTER THORN WITH STROKE"⟩,
  ⟨0xa765, "1SMALL LETTER THORN WITH STROKE;1CAPITAL LETTER THORN WITH STROKE THROUGH DESCENDER"⟩,
  ⟨0xa767, "1SMALL LETTER THORN WITH STROKE THROUGH DESCENDER;1CAPITAL LETTER VEND"⟩,
  ⟨0xa769, "1SMALL LETTER VEND;1CAPITAL LETTER ET;1SMALL LETTER ET;1CAPITAL LETTER IS"⟩,
  ⟨0xa76d, "1SMALL LETTER IS;1CAPITAL LETTER CON;1SMALL LETTER CON;0MODIFIER LETTER US"⟩,
  ⟨0xa771, "0LATIN SMALL LETTER DUM;3LUM;3MUM;3NUM;3RUM;1LETTER SMALL CAPITAL RUM"⟩,
  ⟨0xa777, "1SMALL LETTER TUM;3UM;1CAPITAL LETTER INSULAR D;1SMALL LETTER INSULAR D"⟩,
  ⟨0xa77b, "1CAPITAL LETTER INSULAR F;1SMALL LETTER INSULAR F;1CAPITAL LETTER INSULAR G"⟩,
  ⟨0xa77e, "3TURNED INSULAR G;1SMALL LETTER TURNED INSULAR G;1CAPITAL LETTER TURNED L"⟩,
  ⟨0xa781, "1SMALL LETTER TURNED L;1CAPITAL LETTER INSULAR R;1SMALL LETTER INSULAR R"⟩,
  ⟨0xa784, "1CAPITAL LETTER INSULAR S;1SMALL LETTER INSULAR S;1CAPITAL LETTER INSULAR T"⟩,
  ⟨0xa787, "1SMALL LETTER INSULAR T;0MODIFIER LETTER LOW CIRCUMFLEX ACCENT;2COLON"⟩,
  ⟨0xa78a, "2SHORT EQUALS SIGN;0LATIN CAPITAL LETTER SALTILLO;1SMALL LETTER SALTILLO"⟩,
  ⟨0xa78d, "1CAPITAL LETTER TURNED H;1SMALL LETTER L WITH RETROFLEX HOOK AND BELT"⟩,
  ⟨0xa78f, "1LETTER SINOLOGICAL DOT;1CAPITAL LETTER N WITH DESCENDER"⟩,
  ⟨0xa791, "1SMALL LETTER N WITH DESCENDER;1CAPITAL LETTER C WITH BAR;1SMALL LETTER C WITH BAR"⟩,
  ⟨0xa794, "5PALATAL HOOK;3H WITH PALATAL HOOK;1CAPITAL LETTER B WITH FLOURISH"⟩,
  ⟨0xa797, "1SMALL LETTER B WITH FLOURISH;1CAPITAL LETTER F WITH STROKE"⟩,
  ⟨0xa799, "1SMALL LETTER F WITH STROKE;1CAPITAL LETTER VOLAPUK AE;1SMALL LETTER VOLAPUK AE"⟩,
  ⟨0xa79c, "1CAPITAL LETTER VOLAPUK OE;1SMALL LETTER VOLAPUK OE;1CAPITAL LETTER VOLAPUK UE"⟩,
  ⟨0xa79f, "1SMALL LETTER VOLAPUK UE;1CAPITAL LETTER G WITH OBLIQUE STROKE"⟩,
  ⟨0xa7a1, "1SMALL LETTER G WITH OBLIQUE STROKE;1CAPITAL LETTER K WITH OBLIQUE STROKE"⟩,
  ⟨0xa7a3, "1SMALL LETTER K WITH OBLIQUE STROKE;1CAPITAL LETTER N WITH OBLIQUE STROKE"⟩,
  ⟨0xa7a5, "1SMALL LETTER N WITH OBLIQUE STROKE;1CAPITAL LETTER R WITH OBLIQUE STROKE"⟩,
  ⟨0xa7a7, "1SMALL LETTER R WITH OBLIQUE STROKE;1CAPITAL LETTER S WITH OBLIQUE STROKE"⟩,
  ⟨0xa7a9, "1SMALL LETTER S WITH OBLIQUE STROKE;1CAPITAL LETTER H WITH HOOK;3REVERSED OPEN E"⟩,
  ⟨0xa7ac, "3SCRIPT G;3L WITH BELT;3SMALL CAPITAL I;1LETTER SMALL CAPITAL Q"⟩,
  ⟨0xa7b0, "1CAPITAL LETTER TURNED K;4T;3J WITH CROSSED-TAIL;3CHI;3BETA;1SMALL LETTER BETA"⟩,
  ⟨0xa7b6, "1CAPITAL LETTER OMEGA;1SMALL LETTER OMEGA;1CAPITAL LETTER U WITH STROKE"⟩,
  ⟨0xa7b9, "1SMALL LETTER U WITH STROKE;1CAPITAL LETTER GLOTTAL A;1SMALL LETTER GLOTTAL A"⟩,
  ⟨0xa7bc, "1CAPITAL LETTER GLOTTAL I;1SMALL LETTER GLOTTAL I;1CAPITAL LETTER GLOTTAL U"⟩,
  ⟨0xa7bf, "1SMALL LETTER GLOTTAL U;1CAPITAL LETTER OLD POLISH O;1SMALL LETTER OLD POLISH O"⟩,
  ⟨0xa7c2, "1CAPITAL LETTER ANGLICANA W;1SMALL LETTER ANGLICANA W"⟩,
  ⟨0xa7c4, "1CAPITAL LETTER C WITH PALATAL HOOK;3S WITH HOOK;3Z WITH PALATAL HOOK"⟩,
  ⟨0xa7c7, "3D WITH SHORT STROKE OVERLAY;1SMALL LETTER D WITH SHORT STROKE OVERLAY"⟩,
  ⟨0xa7c9, "1CAPITAL LETTER S WITH SHORT STROKE OVERLAY;1SMALL LETTER S WITH SHORT STROKE OVERLAY"⟩,
  ⟨0xa7d0, "1CAPITAL LETTER CLOSED INSULAR G;1SMALL LETTER CLOSED INSULAR G"⟩,
  ⟨0xa7d3, "3DOUBLE THORN"⟩,
  ⟨0xa7d5, "4WYNN;1CAPITAL LETTER MIDDLE SCOTS S;1SMALL LETTER MIDDLE SCOTS S"⟩,
  ⟨0xa7d8, "1CAPITAL LETTER SIGMOID S;1SMALL LETTER SIGMOID S"⟩,
  ⟨0xa7f2, "0MODIFIER LETTER CAPITAL C;3F;3Q;0LATIN CAPITAL LETTER REVERSED HALF H"⟩,
  ⟨0xa7f6, "1SMALL LETTER REVERSED HALF H;1EPIGRAPHIC LETTER SIDEWAYS I"⟩,
  ⟨0xa7f8, "0MODIFIER LETTER CAPITAL H WITH STROKE;2SMALL LIGATURE OE"⟩,
  ⟨0xa7fa, "0LATIN LETTER SMALL CAPITAL TURNED M;1EPIGRAPHIC LETTER REVERSED F;4P;3INVERTED M"⟩,
  ⟨0xa7fe, "3I LONGA;3ARCHAIC M;0SYLOTI NAGRI LETTER A;3I;2SIGN DVISVARA;2LETTER U;3E;3O"⟩,
  ⟨0xa806, "2SIGN HASANTA;2LETTER KO;3KHO;3GO;3GHO;2SIGN ANUSVARA;2LETTER CO;3CHO;3JO;3JHO;3TTO"⟩,
  ⟨0xa811, "3TTHO;3DDO;3DDHO;3TO;3THO;3DO;3DHO;3NO;3PO;3PHO;3BO;3BHO;3MO;3RO;3LO;3RRO;3SO;3HO"⟩,
  ⟨0xa823, "2VOWEL SIGN A;4I;4U;4E;4OO;2POETRY MARK-1;42;43;44;2SIGN ALTERNATE HASANTA"⟩,
  ⟨0xa830, "0NORTH INDIC FRACTION ONE QUARTER;4HALF;3THREE QUARTERS;3ONE SIXTEENTH;4EIGHTH"⟩,
  ⟨0xa835, "3THREE SIXTEENTHS;2QUARTER MARK;2PLACEHOLDER MARK;2RUPEE MARK;2QUANTITY MARK"⟩,
  ⟨0xa840, "0PHAGS-PA LETTER KA;3KHA;3GA;3NGA;3CA;3CHA;3JA;3NYA;3TA;3THA;3DA;3NA;3PA;3PHA;3BA;3MA"⟩,
  ⟨0xa850, "3TSA;3TSHA;3DZA;3WA;3ZHA;3ZA;3SMALL A;3YA;3RA;3LA;3SHA;3SA;3HA;3A;3I;3U;3E;3O;3QA;3XA"⟩,
  ⟨0xa864, "3FA;3GGA;3EE;2SUBJOINED LETTER WA;4YA;2LETTER TTA;3TTHA;3DDA;3NNA;3ALTERNATE YA"⟩,
  ⟨0xa86e, "3VOICELESS SHA;3VOICED HA;3ASPIRATED FA;2SUBJOINED LETTER RA;2SUPERFIXED LETTER RA"⟩,
  ⟨0xa873, "2LETTER CANDRABINDU;2SINGLE HEAD MARK;2DOUBLE HEAD MARK;2MARK SHAD;3DOUBLE SHAD"⟩,
  ⟨0xa880, "0SAURASHTRA SIGN ANUSVARA;2VISARGA;1LETTER A;2AA;2I;2II;2U;2UU;2VOCALIC R;3RR;3L;3LL"⟩,
  ⟨0xa88c, "2E;2EE;2AI;2O;2OO;2AU;2KA;2KHA;2GA;2GHA;2NGA;2CA;2CHA;2JA;2JHA;2NYA;2TTA;2TTHA;2DDA"⟩,
  ⟨0xa89f, "2DDHA;2NNA;2TA;2THA;2DA;2DHA;2NA;2PA;2PHA;2BA;2BHA;2MA;2YA;2RA;2LA;2VA;2SHA;2SSA;2SA"⟩,
  ⟨0xa8b2, "2HA;2LLA;1CONSONANT SIGN HAARU;1VOWEL SIGN AA;3I;3II;3U;3UU;3VOCALIC R;4RR;4L;4LL;3E"⟩,
  ⟨0xa8bf, "3EE;3AI;3O;3OO;3AU;1SIGN VIRAMA;2CANDRABINDU"⟩,
  ⟨0xa8ce, "1DANDA;1DOUBLE DANDA;1DIGIT ZERO;2ONE;2TWO;2THREE;2FOUR;2FIVE;2SIX;2SEVEN;2EIGHT"⟩,
  ⟨0xa8d9, "2NINE"⟩,
  ⟨0xa8e0, "0COMBINING DEVANAGARI DIGIT ZERO;3ONE;3TWO;3THREE;3FOUR;3FIVE;3SIX;3SEVEN;3EIGHT"⟩,
  ⟨0xa8e9, "3NINE;2LETTER A;3U;3KA;3NA;3PA;3RA;3VI;2SIGN AVAGRAHA"⟩,
  ⟨0xa8f2, "0DEVANAGARI SIGN SPACING CANDRABINDU;2CANDRABINDU VIRAMA;2DOUBLE CANDRABINDU VIRAMA"⟩,
  ⟨0xa8f5, "2CANDRABINDU TWO;3THREE;3AVAGRAHA;2PUSHPIKA;1GAP FILLER;1CARET;1HEADSTROKE"⟩,
  ⟨0xa8fc, "1SIGN SIDDHAM;1JAIN OM;1LETTER AY;1VOWEL SIGN AY;0KAYAH LI DIGIT ZERO;3ONE;3TWO"⟩,
  ⟨0xa903, "3THREE;3FOUR;3FIVE;3SIX;3SEVEN;3EIGHT;3NINE;2LETTER KA;3KHA;3GA;3NGA;3SA;3SHA;3ZA"⟩,
  ⟨0xa911, "3NYA;3TA;3HTA;3NA;3PA;3PHA;3MA;3DA;3BA;3RA;3YA;3LA;3WA;3THA;3HA;3VA;3CA;3A;3OE;3I;3OO"⟩,
  ⟨0xa926, "2VOWEL UE;3E;3U;3EE;3O;2TONE PLOPHU;3CALYA;3CALYA PLOPHU;2SIGN CWI;3SHYA"⟩,
  ⟨0xa930, "0REJANG LETTER KA;2GA;2NGA;2TA;2DA;2NA;2PA;2BA;2MA;2CA;2JA;2NYA;2SA;2RA;2LA;2YA;2WA"⟩,
  ⟨0xa941, "2HA;2MBA;2NGGA;2NDA;2NYJA;2A;1VOWEL SIGN I;3U;3E;3AI;3O;3AU;3EU;3EA"⟩,
  ⟨0xa94f, "1CONSONANT SIGN NG;3N;3R;3H;1VIRAMA"⟩,
  ⟨0xa95f, "1SECTION MARK;0HANGUL CHOSEONG TIKEUT-MIEUM;3PIEUP;3SIOS;3CIEUC;2RIEUL-KIYEOK"⟩,
  ⟨0xa965, "3SSANGKIYEOK;3TIKEUT;3SSANGTIKEUT;3MIEUM;3PIEUP;3SSANGPIEUP;3KAPYEOUNPIEUP;3SIOS"⟩,
  ⟨0xa96d, "3CIEUC;3KHIEUKH;2MIEUM-KIYEOK;3TIKEUT;3SIOS;2PIEUP-SIOS-THIEUTH;3KHIEUKH;3HIEUH"⟩,
  ⟨0xa975, "2SSANGSIOS-PIEUP;2IEUNG-RIEUL;3HIEUH;2SSANGCIEUC-HIEUH;2SSANGTHIEUTH;2PHIEUPH-HIEUH"⟩,
  ⟨0xa97b, "2HIEUH-SIOS;2SSANGYEORINHIEUH"⟩,
  ⟨0xa980, "0JAVANESE SIGN PANYANGGA;2CECAK;2LAYAR;2WIGNYAN;1LETTER A;2I KAWI;2I;2II;2U;2PA CEREK"⟩,
  ⟨0xa98a, "2NGA LELET;3LELET RASWADI;2E;2AI;2O;2KA;2KA SASAK;3MURDA;2GA;2GA MURDA;2NGA;2CA"⟩,
  ⟨0xa996, "2CA MURDA;2JA;2NYA MURDA;2JA MAHAPRANA;2NYA;2TTA;2TTA MAHAPRANA;2DDA;2DDA MAHAPRANA"⟩,
  ⟨0xa99f, "2NA MURDA;2TA;2TA MURDA;2DA;2DA MAHAPRANA;2NA;2PA;2PA MURDA;2BA;2BA MURDA;2MA;2YA;2RA"⟩,
  ⟨0xa9ac, "2RA AGUNG;2LA;2WA;2SA MURDA;3MAHAPRANA;2SA;2HA;1SIGN CECAK TELU;1VOWEL SIGN TARUNG"⟩,
  ⟨0xa9b5, "3TOLONG;3WULU;3WULU MELIK;3SUKU;3SUKU MENDUT;3TALING;3DIRGA MURE;3PEPET"⟩,
  ⟨0xa9bd, "1CONSONANT SIGN KERET;3PENGKAL;3CAKRA;1PANGKON;1LEFT RERENGGAN;1RIGHT RERENGGAN"⟩,
  ⟨0xa9c3, "1PADA ANDAP;2MADYA;2LUHUR;2WINDU;2PANGKAT;2LINGSA;2LUNGSI;2ADEG;2ADEG ADEG;2PISELEH"⟩,
  ⟨0xa9cd, "1TURNED PADA PISELEH"⟩,
  ⟨0xa9cf, "1PANGRANGKEP;1DIGIT ZERO;2ONE;2TWO;2THREE;2FOUR;2FIVE;2SIX;2SEVEN;2EIGHT;2NINE"⟩,
  ⟨0xa9de, "1PADA TIRTA TUMETES;2ISEN-ISEN;0MYANMAR LETTER SHAN GHA;3CHA;3JHA;3NNA;3BHA"⟩,
  ⟨0xa9e5, "1SIGN SHAN SAW;1MODIFIER LETTER SHAN REDUPLICATION;1LETTER TAI LAING NYA;4FA;4GA;4GHA"⟩,
  ⟨0xa9eb, "4JA;4JHA;4DDA;4DDHA;4NNA;1TAI LAING DIGIT ZERO;4ONE;4TWO;4THREE;4FOUR;4FIVE;4SIX"⟩,
  ⟨0xa9f7, "4SEVEN;4EIGHT;4NINE;1LETTER TAI LAING LLA;4DA;4DHA;4BA;4BHA"⟩,
  ⟨0xaa00, "0CHAM LETTER A;2I;2U;2E;2AI;2O;2KA;2KHA;2GA;2GHA;2NGUE;2NGA;2CHA;2CHHA;2JA;2JHA;2NHUE"⟩,
  ⟨0xaa11, "2NHA;2NHJA;2TA;2THA;2DA;2DHA;2NUE;2NA;2DDA;2PA;2PPA;2PHA;2BA;2BHA;2MUE;2MA;2BBA;2YA"⟩,
  ⟨0xaa23, "2RA;2LA;2VA;2SSA;2SA;2HA;1VOWEL SIGN AA;3I;3II;3EI;3U;3OE;3O;3AI;3AU;3UE"⟩,
  ⟨0xaa33, "1CONSONANT SIGN YA;3RA;3LA;3WA"⟩,
  ⟨0xaa40, "1LETTER FINAL K;3G;3NG;1CONSONANT SIGN FINAL NG;1LETTER FINAL CH;3T;3N;3P;3Y;3R;3L"⟩,
  ⟨0xaa4b, "3SS;1CONSONANT SIGN FINAL M;4H"⟩,
  ⟨0xaa50, "1DIGIT ZERO;2ONE;2TWO;2THREE;2FOUR;2FIVE;2SIX;2SEVEN;2EIGHT;2NINE"⟩,
  ⟨0xaa5c, "1PUNCTUATION SPIRAL;2DANDA;2DOUBLE DANDA;2TRIPLE DANDA;0MYANMAR LETTER KHAMTI GA;3CA"⟩,
  ⟨0xaa62, "3CHA;3JA;3JHA;3NYA;3TTA;3TTHA;3DDA;3DDHA;3DHA;3NA;3SA;3HA;3HHA;3FA"⟩,
  ⟨0xaa70, "1MODIFIER LETTER KHAMTI REDUPLICATION;1LETTER KHAMTI XA;3ZA;3RA;1LOGOGRAM KHAMTI OAY"⟩,
  ⟨0xaa75, "3QN;3HM;1SYMBOL AITON EXCLAMATION;3ONE;3TWO;1LETTER AITON RA;1SIGN PAO KAREN TONE"⟩,
  ⟨0xaa7c, "2TAI LAING TONE-2;55;1LETTER SHWE PALAUNG CHA;4SHA;0TAI VIET LETTER LOW KO;3HIGH KO"⟩,
  ⟨0xaa82, "3LOW KHO;3HIGH KHO;3LOW KHHO;3HIGH KHHO;3LOW GO;3HIGH GO;3LOW NGO;3HIGH NGO;3LOW CO"⟩,
  ⟨0xaa8b, "3HIGH CO;3LOW CHO;3HIGH CHO;3LOW SO;3HIGH SO;3LOW NYO;3HIGH NYO;3LOW DO;3HIGH DO"⟩,
  ⟨0xaa94, "3LOW TO;3HIGH TO;3LOW THO;3HIGH THO;3LOW NO;3HIGH NO;3LOW BO;3HIGH BO;3LOW PO"⟩,
  ⟨0xaa9d, "3HIGH PO;3LOW PHO;3HIGH PHO;3LOW FO;3HIGH FO;3LOW MO;3HIGH MO;3LOW YO;3HIGH YO"⟩,
  ⟨0xaaa6, "3LOW RO;3HIGH RO;3LOW LO;3HIGH LO;3LOW VO;3HIGH VO;3LOW HO;3HIGH HO;3LOW O;3HIGH O"⟩,
  ⟨0xaab0, "2MAI KANG;2VOWEL AA;3I;3UE;3U;3E;3O;2MAI KHIT;2VOWEL IA;3UEA;3UA;3AUE;3AY;3AN;3AM"⟩,
  ⟨0xaabf, "2TONE MAI EK;4NUENG;4THO;4SONG"⟩,
  ⟨0xaadb, "2SYMBOL KON;3NUENG;3SAM;3HO HOI;3KOI KOI;0MEETEI MAYEK LETTER E;3O;3CHA;3NYA;3TTA"⟩,
  ⟨0xaae5, "3TTHA;3DDA;3DDHA;3NNA;3SHA;3SSA;2VOWEL SIGN II;4UU;4AAI;4AU;4AAU;2CHEIKHAN"⟩,
  ⟨0xaaf1, "2AHANG KHUDAM;2ANJI;2SYLLABLE REPETITION MARK;2WORD REPETITION MARK"⟩,
  ⟨0xaaf5, "2VOWEL SIGN VISARGA;2VIRAMA"⟩,
  ⟨0xab01, "0ETHIOPIC SYLLABLE TTHU;2TTHI;2TTHAA;2TTHEE;2TTHE;2TTHO"⟩,
  ⟨0xab09, "2DDHU;2DDHI;2DDHAA;2DDHEE;2DDHE;2DDHO"⟩,
  ⟨0xab11, "2DZU;2DZI;2DZAA;2DZEE;2DZE;2DZO"⟩,
  ⟨0xab20, "2CCHHA;2CCHHU;2CCHHI;2CCHHAA;2CCHHEE;2CCHHE;2CCHHO"⟩,
  ⟨0xab28, "2BBA;2BBU;2BBI;2BBAA;2BBEE;2BBE;2BBO"⟩,
  ⟨0xab30, "0LATIN SMALL LETTER BARRED ALPHA;3A REVERSED-SCHWA;3BLACKLETTER E;3BARRED E"⟩,
  ⟨0xab34, "3E WITH FLOURISH;3LENIS F;3SCRIPT G WITH CROSSED-TAIL;3L WITH INVERTED LAZY S"⟩,
  ⟨0xab38, "5DOUBLE MIDDLE TILDE;5MIDDLE RING;3M WITH CROSSED-TAIL;3N WITH CROSSED-TAIL"⟩,
  ⟨0xab3c, "3ENG WITH CROSSED-TAIL;3BLACKLETTER O;4O WITH STROKE;3OPEN O WITH STROKE;3INVERTED OE"⟩,
  ⟨0xab41, "3TURNED OE WITH STROKE;6HORIZONTAL STROKE;4O OPEN-O;6O WITH STROKE;3STIRRUP R"⟩,
  ⟨0xab46, "1LETTER SMALL CAPITAL R WITH RIGHT LEG;1SMALL LETTER R WITHOUT HANDLE;3DOUBLE R"⟩,
  ⟨0xab49, "3R WITH CROSSED-TAIL;3DOUBLE R WITH CROSSED-TAIL;3SCRIPT R;4R WITH RING;3BASELINE ESH"⟩,
  ⟨0xab4e, "3U WITH SHORT RIGHT LEG;4BAR WITH SHORT RIGHT LEG;3UI;3TURNED UI;3U WITH LEFT HOOK"⟩,
  ⟨0xab53, "3CHI;3CHI WITH LOW RIGHT RING;6LEFT SERIF;3X WITH LOW RIGHT RING;5LONG LEFT LEG"⟩,
  ⟨0xab58, "7LEG AND LOW RIGHT RING;8WITH SERIF;3Y WITH SHORT RIGHT LEG"⟩,
  ⟨0xab5b, "0MODIFIER BREVE WITH INVERTED BREVE;1LETTER SMALL HENG;3L WITH INVERTED LAZY S"⟩,
  ⟨0xab5e, "5MIDDLE TILDE;3U WITH LEFT HOOK;0LATIN SMALL LETTER SAKHA YAT;3IOTIFIED E;3OPEN OE"⟩,
  ⟨0xab63, "3UO;3INVERTED ALPHA;0GREEK LETTER SMALL CAPITAL OMEGA"⟩,
  ⟨0xab66, "0LATIN SMALL LETTER DZ DIGRAPH WITH RETROFLEX HOOK;3TS DIGRAPH WITH RETROFLEX HOOK"⟩,
  ⟨0xab68, "3TURNED R WITH MIDDLE TILDE;0MODIFIER LETTER SMALL TURNED W;2LEFT TACK;2RIGHT TACK"⟩,
  ⟨0xab70, "0CHEROKEE SMALL LETTER A;3E;3I;3O;3U;3V;3GA;3KA;3GE;3GI;3GO;3GU;3GV;3HA;3HE;3HI;3HO"⟩,
  ⟨0xab81, "3HU;3HV;3LA;3LE;3LI;3LO;3LU;3LV;3MA;3ME;3MI;3MO;3MU;3NA;3HNA;3NAH;3NE;3NI;3NO;3NU;3NV"⟩,
  ⟨0xab96, "3QUA;3QUE;3QUI;3QUO;3QUU;3QUV;3SA;3S;3SE;3SI;3SO;3SU;3SV;3DA;3TA;3DE;3TE;3DI;3TI;3DO"⟩,
  ⟨0xabaa, "3DU;3DV;3DLA;3TLA;3TLE;3TLI;3TLO;3TLU;3TLV;3TSA;3TSE;3TSI;3TSO;3TSU;3TSV;3WA;3WE;3WI"⟩,
  ⟨0xabbc, "3WO;3WU;3WV;3YA;0MEETEI MAYEK LETTER KOK;3SAM;3LAI;3MIT;3PA;3NA;3CHIL;3TIL;3KHOU"⟩,
  ⟨0xabc9, "3NGOU;3THOU;3WAI;3YANG;3HUK;3UN;3I;3PHAM;3ATIYA;3GOK;3JHAM;3RAI;3BA;3JIL;3DIL;3GHOU"⟩,
  ⟨0xabd9, "3DHOU;3BHAM;3KOK LONSUM;3LAI LONSUM;3MIT LONSUM;3PA LONSUM;3NA LONSUM;3TIL LONSUM"⟩,
  ⟨0xabe1, "3NGOU LONSUM;3I LONSUM;2VOWEL SIGN ONAP;4INAP;4ANAP;4YENAP;4SOUNAP;4UNAP;4CHEINAP"⟩,
  ⟨0xabea, "4NUNG;2CHEIKHEI;2LUM IYEK;2APUN IYEK"⟩,
  ⟨0xabf0, "2DIGIT ZERO;3ONE;3TWO;3THREE;3FOUR;3FIVE;3SIX;3SEVEN;3EIGHT;3NINE"⟩,
  ⟨0xd7b0, "0HANGUL JUNGSEONG O-YEO;3O-I;2YO-A;3AE;3EO;2U-YEO;3I-I;2YU-AE;3O;2EU-A;3EO;3E;3O"⟩,
  ⟨0xd7bd, "2I-YA-O;3YAE;3YEO;3YE;3O-I;3YO;3YU;3I;2ARAEA-A;3E"⟩,
  ⟨0xd7cb, "1JONGSEONG NIEUN-RIEUL;3CHIEUCH;2SSANGTIKEUT;2SSANGTIKEUT-PIEUP;2TIKEUT-PIEUP;3SIOS"⟩,
  ⟨0xd7d1, "3SIOS-KIYEOK;3CIEUC;3CHIEUCH;3THIEUTH;2RIEUL-SSANGKIYEOK;3KIYEOK-HIEUH"⟩,
  ⟨0xd7d7, "2SSANGRIEUL-KHIEUKH;2RIEUL-MIEUM-HIEUH;3PIEUP-TIKEUT;4PHIEUPH;3YESIEUNG"⟩,
  ⟨0xd7dc, "3YEORINHIEUH-HIEUH;2KAPYEOUNRIEUL;2MIEUM-NIEUN;3SSANGNIEUN;2SSANGMIEUM"⟩,
  ⟨0xd7e1, "2MIEUM-PIEUP-SIOS;3CIEUC;2PIEUP-TIKEUT;3RIEUL-PHIEUPH;3MIEUM;2SSANGPIEUP"⟩,
  ⟨0xd7e7, "2PIEUP-SIOS-TIKEUT;3CIEUC;3CHIEUCH;2SIOS-MIEUM;3KAPYEOUNPIEUP;2SSANGSIOS-KIYEOK"⟩,
  ⟨0xd7ed, "3TIKEUT;2SIOS-PANSIOS;3CIEUC;3CHIEUCH;3THIEUTH;3HIEUH;2PANSIOS-PIEUP;3KAPYEOUNPIEUP"⟩,
  ⟨0xd7f5, "2YESIEUNG-MIEUM;3HIEUH;2CIEUC-PIEUP;3SSANGPIEUP;2SSANGCIEUC;2PHIEUPH-SIOS;3THIEUTH"⟩,
  ⟨0xfb00, "0LATIN SMALL LIGATURE FF;3FI;3FL;3FFI;3FFL;3LONG S T;3ST"⟩,
  ⟨0xfb13, "0ARMENIAN SMALL LIGATURE MEN NOW;4ECH;4INI;3VEW NOW;3MEN XEH"⟩,
  ⟨0xfb1d, "0HEBREW LETTER YOD WITH HIRIQ;1POINT JUDEO-SPANISH VARIKA"⟩,
  ⟨0xfb1f, "1LIGATURE YIDDISH YOD YOD PATAH;1LETTER ALTERNATIVE AYIN;2WIDE ALEF;3DALET;3HE;3KAF"⟩,
  ⟨0xfb25, "3LAMED;3FINAL MEM;3RESH;3TAV;2ALTERNATIVE PLUS SIGN;2SHIN WITH SHIN DOT;4SIN DOT"⟩,
  ⟨0xfb2c, "4DAGESH AND SHIN DOT;6SIN DOT;2ALEF WITH PATAH;4QAMATS;4MAPIQ;2BET WITH DAGESH"⟩,
  ⟨0xfb32, "2GIMEL WITH DAGESH;2DALET WITH DAGESH;2HE WITH MAPIQ;2VAV WITH DAGESH"⟩,
  ⟨0xfb36, "2ZAYIN WITH DAGESH"⟩,
  ⟨0xfb38, "2TET WITH DAGESH;2YOD WITH DAGESH;2FINAL KAF WITH DAGESH;2KAF WITH DAGESH"⟩,
  ⟨0xfb3c, "2LAMED WITH DAGESH"⟩,
  ⟨0xfb3e, "2MEM WITH DAGESH"⟩,
  ⟨0xfb40, "2NUN WITH DAGESH;2SAMEKH WITH DAGESH"⟩,
  ⟨0xfb43, "2FINAL PE WITH DAGESH;2PE WITH DAGESH"⟩,
  ⟨0xfb46, "2TSADI WITH DAGESH;2QOF WITH DAGESH;2RESH WITH DAGESH;2SHIN WITH DAGESH"⟩,
  ⟨0xfb4a, "2TAV WITH DAGESH;2VAV WITH HOLAM;2BET WITH RAFE;2KAF WITH RAFE;2PE WITH RAFE"⟩,
  ⟨0xfb4f, "1LIGATURE ALEF LAMED;0ARABIC LETTER ALEF WASLA ISOLATED FORM;4FINAL FORM"⟩,
  ⟨0xfb52, "2BEEH ISOLATED FORM;3FINAL FORM;3INITIAL FORM;3MEDIAL FORM;2PEH ISOLATED FORM"⟩,
  ⟨0xfb57, "3FINAL FORM;3INITIAL FORM;3MEDIAL FORM;2BEHEH ISOLATED FORM;3FINAL FORM;3INITIAL FORM"⟩,
  ⟨0xfb5d, "3MEDIAL FORM;2TTEHEH ISOLATED FORM;3FINAL FORM;3INITIAL FORM;3MEDIAL FORM"⟩,
  ⟨0xfb62, "2TEHEH ISOLATED FORM;3FINAL FORM;3INITIAL FORM;3MEDIAL FORM;2TTEH ISOLATED FORM"⟩,
  ⟨0xfb67, "3FINAL FORM;3INITIAL FORM;3MEDIAL FORM;2VEH ISOLATED FORM;3FINAL FORM;3INITIAL FORM"⟩,
  ⟨0xfb6d, "3MEDIAL FORM;2PEHEH ISOLATED FORM;3FINAL FORM;3INITIAL FORM;3MEDIAL FORM"⟩,
  ⟨0xfb72, "2DYEH ISOLATED FORM;3FINAL FORM;3INITIAL FORM;3MEDIAL FORM;2NYEH ISOLATED FORM"⟩,
  ⟨0xfb77, "3FINAL FORM;3INITIAL FORM;3MEDIAL FORM;2TCHEH ISOLATED FORM;3FINAL FORM;3INITIAL FORM"⟩,
  ⟨0xfb7d, "3MEDIAL FORM;2TCHEHEH ISOLATED FORM;3FINAL FORM;3INITIAL FORM;3MEDIAL FORM"⟩,
  ⟨0xfb82, "2DDAHAL ISOLATED FORM;3FINAL FORM;2DAHAL ISOLATED FORM;3FINAL FORM;2DUL ISOLATED FORM"⟩,
  ⟨0xfb87, "3FINAL FORM;2DDAL ISOLATED FORM;3FINAL FORM;2JEH ISOLATED FORM;3FINAL FORM"⟩,
  ⟨0xfb8c, "2RREH ISOLATED FORM;3FINAL FORM;2KEHEH ISOLATED FORM;3FINAL FORM;3INITIAL FORM"⟩,
  ⟨0xfb91, "3MEDIAL FORM;2GAF ISOLATED FORM;3FINAL FORM;3INITIAL FORM;3MEDIAL FORM"⟩,
  ⟨0xfb96, "2GUEH ISOLATED FORM;3FINAL FORM;3INITIAL FORM;3MEDIAL FORM;2NGOEH ISOLATED FORM"⟩,
  ⟨0xfb9b, "3FINAL FORM;3INITIAL FORM;3MEDIAL FORM;2NOON GHUNNA ISOLATED FORM;4FINAL FORM"⟩,
  ⟨0xfba0, "2RNOON ISOLATED FORM;3FINAL FORM;3INITIAL FORM;3MEDIAL FORM"⟩,
  ⟨0xfba4, "2HEH WITH YEH ABOVE ISOLATED FORM;6FINAL FORM;3GOAL ISOLATED FORM;4FINAL FORM"⟩,
  ⟨0xfba8, "4INITIAL FORM;4MEDIAL FORM;3DOACHASHMEE ISOLATED FORM;4FINAL FORM;4INITIAL FORM"⟩,
  ⟨0xfbad, "4MEDIAL FORM;2YEH BARREE ISOLATED FORM;4FINAL FORM;4WITH HAMZA ABOVE ISOLATED FORM"⟩,
  ⟨0xfbb1, "7FINAL FORM;1SYMBOL DOT ABOVE;3BELOW;2TWO DOTS ABOVE;4BELOW;2THREE DOTS ABOVE;4BELOW"⟩,
  ⟨0xfbb8, "4POINTING DOWNWARDS ABOVE;6BELOW;2FOUR DOTS ABOVE;4BELOW;2DOUBLE VERTICAL BAR BELOW"⟩,
  ⟨0xfbbd, "2TWO DOTS VERTICALLY ABOVE;5BELOW;2RING;2SMALL TAH ABOVE;4BELOW;2WASLA ABOVE"⟩,
  ⟨0xfbd3, "1LETTER NG ISOLATED FORM;3FINAL FORM;3INITIAL FORM;3MEDIAL FORM;2U ISOLATED FORM"⟩,
  ⟨0xfbd8, "3FINAL FORM;2OE ISOLATED FORM;3FINAL FORM;2YU ISOLATED FORM;3FINAL FORM"⟩,
  ⟨0xfbdd, "2U WITH HAMZA ABOVE ISOLATED FORM;2VE ISOLATED FORM;3FINAL FORM"⟩,
  ⟨0xfbe0, "2KIRGHIZ OE ISOLATED FORM;4FINAL FORM;3YU ISOLATED FORM;4FINAL FORM;2E ISOLATED FORM"⟩,
  ⟨0xfbe5, "3FINAL FORM;3INITIAL FORM;3MEDIAL FORM"⟩,
  ⟨0xfbe8, "2UIGHUR KAZAKH KIRGHIZ ALEF MAKSURA INITIAL FORM;7MEDIAL FORM"⟩,
  ⟨0xfbea, "1LIGATURE YEH WITH HAMZA ABOVE WITH ALEF ISOLATED FORM;8FINAL FORM;7AE ISOLATED FORM"⟩,
  ⟨0xfbed, "8FINAL FORM;7WAW ISOLATED FORM;8FINAL FORM;7U ISOLATED FORM;8FINAL FORM"⟩,
  ⟨0xfbf2, "7OE ISOLATED FORM;8FINAL FORM;7YU ISOLATED FORM;8FINAL FORM;7E ISOLATED FORM"⟩,
  ⟨0xfbf7, "8FINAL FORM;8INITIAL FORM"⟩,
  ⟨0xfbf9, "2UIGHUR KIRGHIZ YEH WITH HAMZA ABOVE WITH ALEF MAKSURA ISOLATED FORM"⟩,
  ⟨0xfbfa, "9ALEF MAKSURA FINAL FORM;9ALEF MAKSURA INITIAL FORM;1LETTER FARSI YEH ISOLATED FORM"⟩,
  ⟨0xfbfd, "4FINAL FORM;4INITIAL FORM;4MEDIAL FORM"⟩,
  ⟨0xfc00, "1LIGATURE YEH WITH HAMZA ABOVE WITH JEEM ISOLATED FORM;7HAH ISOLATED FORM"⟩,
  ⟨0xfc02, "7MEEM ISOLATED FORM;7ALEF MAKSURA ISOLATED FORM;7YEH ISOLATED FORM"⟩,
  ⟨0xfc05, "2BEH WITH JEEM ISOLATED FORM;4HAH ISOLATED FORM;4KHAH ISOLATED FORM"⟩,
  ⟨0xfc08, "4MEEM ISOLATED FORM;4ALEF MAKSURA ISOLATED FORM;4YEH ISOLATED FORM"⟩,
  ⟨0xfc0b, "2TEH WITH JEEM ISOLATED FORM;4HAH ISOLATED FORM;4KHAH ISOLATED FORM"⟩,
  ⟨0xfc0e, "4MEEM ISOLATED FORM;4ALEF MAKSURA ISOLATED FORM;4YEH ISOLATED FORM"⟩,
  ⟨0xfc11, "2THEH WITH JEEM ISOLATED FORM;4MEEM ISOLATED FORM;4ALEF MAKSURA ISOLATED FORM"⟩,
  ⟨0xfc14, "4YEH ISOLATED FORM;2JEEM WITH HAH ISOLATED FORM;4MEEM ISOLATED FORM"⟩,
  ⟨0xfc17, "2HAH WITH JEEM ISOLATED FORM;4MEEM ISOLATED FORM;2KHAH WITH JEEM ISOLATED FORM"⟩,
  ⟨0xfc1a, "4HAH ISOLATED FORM;4MEEM ISOLATED FORM;2SEEN WITH JEEM ISOLATED FORM"⟩,
  ⟨0xfc1d, "4HAH ISOLATED FORM;4KHAH ISOLATED FORM;4MEEM ISOLATED FORM"⟩,
  ⟨0xfc20, "2SAD WITH HAH ISOLATED FORM;4MEEM ISOLATED FORM;2DAD WITH JEEM ISOLATED FORM"⟩,
  ⟨0xfc23, "4HAH ISOLATED FORM;4KHAH ISOLATED FORM;4MEEM ISOLATED FORM"⟩,
  ⟨0xfc26, "2TAH WITH HAH ISOLATED FORM;4MEEM ISOLATED FORM;2ZAH WITH MEEM ISOLATED FORM"⟩,
  ⟨0xfc29, "2AIN WITH JEEM ISOLATED FORM;4MEEM ISOLATED FORM;2GHAIN WITH JEEM ISOLATED FORM"⟩,
  ⟨0xfc2c, "4MEEM ISOLATED FORM;2FEH WITH JEEM ISOLATED FORM;4HAH ISOLATED FORM"⟩,
  ⟨0xfc2f, "4KHAH ISOLATED FORM;4MEEM ISOLATED FORM;4ALEF MAKSURA ISOLATED FORM"⟩,
  ⟨0xfc32, "4YEH ISOLATED FORM;2QAF WITH HAH ISOLATED FORM;4MEEM ISOLATED FORM"⟩,
  ⟨0xfc35, "4ALEF MAKSURA ISOLATED FORM;4YEH ISOLATED FORM;2KAF WITH ALEF ISOLATED FORM"⟩,
  ⟨0xfc38, "4JEEM ISOLATED FORM;4HAH ISOLATED FORM;4KHAH ISOLATED FORM;4LAM ISOLATED FORM"⟩,
  ⟨0xfc3c, "4MEEM ISOLATED FORM;4ALEF MAKSURA ISOLATED FORM;4YEH ISOLATED FORM"⟩,
  ⟨0xfc3f, "2LAM WITH JEEM ISOLATED FORM;4HAH ISOLATED FORM;4KHAH ISOLATED FORM"⟩,
  ⟨0xfc42, "4MEEM ISOLATED FORM;4ALEF MAKSURA ISOLATED FORM;4YEH ISOLATED FORM"⟩,
  ⟨0xfc45, "2MEEM WITH JEEM ISOLATED FORM;4HAH ISOLATED FORM;4KHAH ISOLATED FORM"⟩,
  ⟨0xfc48, "4MEEM ISOLATED FORM;4ALEF MAKSURA ISOLATED FORM;4YEH ISOLATED FORM"⟩,
  ⟨0xfc4b, "2NOON WITH JEEM ISOLATED FORM;4HAH ISOLATED FORM;4KHAH ISOLATED FORM"⟩,
  ⟨0xfc4e, "4MEEM ISOLATED FORM;4ALEF MAKSURA ISOLATED FORM;4YEH ISOLATED FORM"⟩,
  ⟨0xfc51, "2HEH WITH JEEM ISOLATED FORM;4MEEM ISOLATED FORM;4ALEF MAKSURA ISOLATED FORM"⟩,
  ⟨0xfc54, "4YEH ISOLATED FORM;2YEH WITH JEEM ISOLATED FORM;4HAH ISOLATED FORM"⟩,
  ⟨0xfc57, "4KHAH ISOLATED FORM;4MEEM ISOLATED FORM;4ALEF MAKSURA ISOLATED FORM"⟩,
  ⟨0xfc5a, "4YEH ISOLATED FORM;2THAL WITH SUPERSCRIPT ALEF ISOLATED FORM"⟩,
  ⟨0xfc5c, "2REH WITH SUPERSCRIPT ALEF ISOLATED FORM"⟩,
  ⟨0xfc5d, "2ALEF MAKSURA WITH SUPERSCRIPT ALEF ISOLATED FORM;2SHADDA WITH DAMMATAN ISOLATED FORM"⟩,
  ⟨0xfc5f, "4KASRATAN ISOLATED FORM;4FATHA ISOLATED FORM;4DAMMA ISOLATED FORM"⟩,
  ⟨0xfc62, "4KASRA ISOLATED FORM;4SUPERSCRIPT ALEF ISOLATED FORM"⟩,
  ⟨0xfc64, "2YEH WITH HAMZA ABOVE WITH REH FINAL FORM;7ZAIN FINAL FORM;7MEEM FINAL FORM"⟩,
  ⟨0xfc67, "7NOON FINAL FORM;7ALEF MAKSURA FINAL FORM;7YEH FINAL FORM;2BEH WITH REH FINAL FORM"⟩,
  ⟨0xfc6b, "4ZAIN FINAL FORM;4MEEM FINAL FORM;4NOON FINAL FORM;4ALEF MAKSURA FINAL FORM"⟩,
  ⟨0xfc6f, "4YEH FINAL FORM;2TEH WITH REH FINAL FORM;4ZAIN FINAL FORM;4MEEM FINAL FORM"⟩,
  ⟨0xfc73, "4NOON FINAL FORM;4ALEF MAKSURA FINAL FORM;4YEH FINAL FORM;2THEH WITH REH FINAL FORM"⟩,
  ⟨0xfc77, "4ZAIN FINAL FORM;4MEEM FINAL FORM;4NOON FINAL FORM;4ALEF MAKSURA FINAL FORM"⟩,
  ⟨0xfc7b, "4YEH FINAL FORM;2FEH WITH ALEF MAKSURA FINAL FORM;4YEH FINAL FORM"⟩,
  ⟨0xfc7e, "2QAF WITH ALEF MAKSURA FINAL FORM;4YEH FINAL FORM;2KAF WITH ALEF FINAL FORM"⟩,
  ⟨0xfc81, "4LAM FINAL FORM;4MEEM FINAL FORM;4ALEF MAKSURA FINAL FORM;4YEH FINAL FORM"⟩,
  ⟨0xfc85, "2LAM WITH MEEM FINAL FORM;4ALEF MAKSURA FINAL FORM;4YEH FINAL FORM"⟩,
  ⟨0xfc88, "2MEEM WITH ALEF FINAL FORM;4MEEM FINAL FORM;2NOON WITH REH FINAL FORM"⟩,
  ⟨0xfc8b, "4ZAIN FINAL FORM;4MEEM FINAL FORM;4NOON FINAL FORM;4ALEF MAKSURA FINAL FORM"⟩,
  ⟨0xfc8f, "4YEH FINAL FORM;2ALEF MAKSURA WITH SUPERSCRIPT ALEF FINAL FORM"⟩,
  ⟨0xfc91, "2YEH WITH REH FINAL FORM;4ZAIN FINAL FORM;4MEEM FINAL FORM;4NOON FINAL FORM"⟩,
  ⟨0xfc95, "4ALEF MAKSURA FINAL FORM;4YEH FINAL FORM;4HAMZA ABOVE WITH JEEM INITIAL FORM"⟩,
  ⟨0xfc98, "7HAH INITIAL FORM;7KHAH INITIAL FORM;7MEEM INITIAL FORM;7HEH INITIAL FORM"⟩,
  ⟨0xfc9c, "2BEH WITH JEEM INITIAL FORM;4HAH INITIAL FORM;4KHAH INITIAL FORM;4MEEM INITIAL FORM"⟩,
  ⟨0xfca0, "4HEH INITIAL FORM;2TEH WITH JEEM INITIAL FORM;4HAH INITIAL FORM;4KHAH INITIAL FORM"⟩,
  ⟨0xfca4, "4MEEM INITIAL FORM;4HEH INITIAL FORM;2THEH WITH MEEM INITIAL FORM"⟩,
  ⟨0xfca7, "2JEEM WITH HAH INITIAL FORM;4MEEM INITIAL FORM;2HAH WITH JEEM INITIAL FORM"⟩,
  ⟨0xfcaa, "4MEEM INITIAL FORM;2KHAH WITH JEEM INITIAL FORM;4MEEM INITIAL FORM"⟩,
  ⟨0xfcad, "2SEEN WITH JEEM INITIAL FORM;4HAH INITIAL FORM;4KHAH INITIAL FORM;4MEEM INITIAL FORM"⟩,
  ⟨0xfcb1, "2SAD WITH HAH INITIAL FORM;4KHAH INITIAL FORM;4MEEM INITIAL FORM"⟩,
  ⟨0xfcb4, "2DAD WITH JEEM INITIAL FORM;4HAH INITIAL FORM;4KHAH INITIAL FORM;4MEEM INITIAL FORM"⟩,
  ⟨0xfcb8, "2TAH WITH HAH INITIAL FORM;2ZAH WITH MEEM INITIAL FORM;2AIN WITH JEEM INITIAL FORM"⟩,
  ⟨0xfcbb, "4MEEM INITIAL FORM;2GHAIN WITH JEEM INITIAL FORM;4MEEM INITIAL FORM"⟩,
  ⟨0xfcbe, "2FEH WITH JEEM INITIAL FORM;4HAH INITIAL FORM;4KHAH INITIAL FORM;4MEEM INITIAL FORM"⟩,
  ⟨0xfcc2, "2QAF WITH HAH INITIAL FORM;4MEEM INITIAL FORM;2KAF WITH JEEM INITIAL FORM"⟩,
  ⟨0xfcc5, "4HAH INITIAL FORM;4KHAH INITIAL FORM;4LAM INITIAL FORM;4MEEM INITIAL FORM"⟩,
  ⟨0xfcc9, "2LAM WITH JEEM INITIAL FORM;4HAH INITIAL FORM;4KHAH INITIAL FORM;4MEEM INITIAL FORM"⟩,
  ⟨0xfccd, "4HEH INITIAL FORM;2MEEM WITH JEEM INITIAL FORM;4HAH INITIAL FORM;4KHAH INITIAL FORM"⟩,
  ⟨0xfcd1, "4MEEM INITIAL FORM;2NOON WITH JEEM INITIAL FORM;4HAH INITIAL FORM;4KHAH INITIAL FORM"⟩,
  ⟨0xfcd5, "4MEEM INITIAL FORM;4HEH INITIAL FORM;2HEH WITH JEEM INITIAL FORM;4MEEM INITIAL FORM"⟩,
  ⟨0xfcd9, "4SUPERSCRIPT ALEF INITIAL FORM;2YEH WITH JEEM INITIAL FORM;4HAH INITIAL FORM"⟩,
  ⟨0xfcdc, "4KHAH INITIAL FORM;4MEEM INITIAL FORM;4HEH INITIAL FORM"⟩,
  ⟨0xfcdf, "4HAMZA ABOVE WITH MEEM MEDIAL FORM;7HEH MEDIAL FORM;2BEH WITH MEEM MEDIAL FORM"⟩,
  ⟨0xfce2, "4HEH MEDIAL FORM;2TEH WITH MEEM MEDIAL FORM;4HEH MEDIAL FORM"⟩,
  ⟨0xfce5, "2THEH WITH MEEM MEDIAL FORM;4HEH MEDIAL FORM;2SEEN WITH MEEM MEDIAL FORM"⟩,
  ⟨0xfce8, "4HEH MEDIAL FORM;2SHEEN WITH MEEM MEDIAL FORM;4HEH MEDIAL FORM"⟩,
  ⟨0xfceb, "2KAF WITH LAM MEDIAL FORM;4MEEM MEDIAL FORM;2LAM WITH MEEM MEDIAL FORM"⟩,
  ⟨0xfcee, "2NOON WITH MEEM MEDIAL FORM;4HEH MEDIAL FORM;2YEH WITH MEEM MEDIAL FORM"⟩,
  ⟨0xfcf1, "4HEH MEDIAL FORM;2SHADDA WITH FATHA MEDIAL FORM;4DAMMA MEDIAL FORM;4KASRA MEDIAL FORM"⟩,
  ⟨0xfcf5, "2TAH WITH ALEF MAKSURA ISOLATED FORM;4YEH ISOLATED FORM"⟩,
  ⟨0xfcf7, "2AIN WITH ALEF MAKSURA ISOLATED FORM;4YEH ISOLATED FORM"⟩,
  ⟨0xfcf9, "2GHAIN WITH ALEF MAKSURA ISOLATED FORM;4YEH ISOLATED FORM"⟩,
  ⟨0xfcfb, "2SEEN WITH ALEF MAKSURA ISOLATED FORM;4YEH ISOLATED FORM"⟩,
  ⟨0xfcfd, "2SHEEN WITH ALEF MAKSURA ISOLATED FORM;4YEH ISOLATED FORM"⟩,
  ⟨0xfcff, "2HAH WITH ALEF MAKSURA ISOLATED FORM;4YEH ISOLATED FORM"⟩,
  ⟨0xfd01, "2JEEM WITH ALEF MAKSURA ISOLATED FORM;4YEH ISOLATED FORM"⟩,
  ⟨0xfd03, "2KHAH WITH ALEF MAKSURA ISOLATED FORM;4YEH ISOLATED FORM"⟩,
  ⟨0xfd05, "2SAD WITH ALEF MAKSURA ISOLATED FORM;4YEH ISOLATED FORM"⟩,
  ⟨0xfd07, "2DAD WITH ALEF MAKSURA ISOLATED FORM;4YEH ISOLATED FORM"⟩,
  ⟨0xfd09, "2SHEEN WITH JEEM ISOLATED FORM;4HAH ISOLATED FORM;4KHAH ISOLATED FORM"⟩,
  ⟨0xfd0c, "4MEEM ISOLATED FORM;4REH ISOLATED FORM;2SEEN WITH REH ISOLATED FORM"⟩,
  ⟨0xfd0f, "2SAD WITH REH ISOLATED FORM;2DAD WITH REH ISOLATED FORM"⟩,
  ⟨0xfd11, "2TAH WITH ALEF MAKSURA FINAL FORM;4YEH FINAL FORM;2AIN WITH ALEF MAKSURA FINAL FORM"⟩,
  ⟨0xfd14, "4YEH FINAL FORM;2GHAIN WITH ALEF MAKSURA FINAL FORM;4YEH FINAL FORM"⟩,
  ⟨0xfd17, "2SEEN WITH ALEF MAKSURA FINAL FORM;4YEH FINAL FORM"⟩,
  ⟨0xfd19, "2SHEEN WITH ALEF MAKSURA FINAL FORM;4YEH FINAL FORM;2HAH WITH ALEF MAKSURA FINAL FORM"⟩,
  ⟨0xfd1c, "4YEH FINAL FORM;2JEEM WITH ALEF MAKSURA FINAL FORM;4YEH FINAL FORM"⟩,
  ⟨0xfd1f, "2KHAH WITH ALEF MAKSURA FINAL FORM;4YEH FINAL FORM;2SAD WITH ALEF MAKSURA FINAL FORM"⟩,
  ⟨0xfd22, "4YEH FINAL FORM;2DAD WITH ALEF MAKSURA FINAL FORM;4YEH FINAL FORM"⟩,
  ⟨0xfd25, "2SHEEN WITH JEEM FINAL FORM;4HAH FINAL FORM;4KHAH FINAL FORM;4MEEM FINAL FORM"⟩,
  ⟨0xfd29, "4REH FINAL FORM;2SEEN WITH REH FINAL FORM;2SAD WITH REH FINAL FORM"⟩,
  ⟨0xfd2c, "2DAD WITH REH FINAL FORM;2SHEEN WITH JEEM INITIAL FORM;4HAH INITIAL FORM"⟩,
  ⟨0xfd2f, "4KHAH INITIAL FORM;4MEEM INITIAL FORM;2SEEN WITH HEH INITIAL FORM"⟩,
  ⟨0xfd32, "2SHEEN WITH HEH INITIAL FORM;2TAH WITH MEEM INITIAL FORM;2SEEN WITH JEEM MEDIAL FORM"⟩,
  ⟨0xfd35, "4HAH MEDIAL FORM;4KHAH MEDIAL FORM;2SHEEN WITH JEEM MEDIAL FORM;4HAH MEDIAL FORM"⟩,
  ⟨0xfd39, "4KHAH MEDIAL FORM;2TAH WITH MEEM MEDIAL FORM;2ZAH WITH MEEM MEDIAL FORM"⟩,
  ⟨0xfd3c, "2ALEF WITH FATHATAN FINAL FORM;5ISOLATED FORM;0ORNATE LEFT PARENTHESIS"⟩,
  ⟨0xfd3f, "1RIGHT PARENTHESIS;0ARABIC LIGATURE RAHIMAHU ALLAAH;2RADI ALLAAHU ANH;4ANHAA;4ANHUM"⟩,
  ⟨0xfd44, "4ANHUMAA;4ANHUNNA;2SALLALLAAHU ALAYHI WA-AALIH;2ALAYHI AS-SALAAM;2ALAYHIM AS-SALAAM"⟩,
  ⟨0xfd49, "2ALAYHIMAA AS-SALAAM;2ALAYHI AS-SALAATU WAS-SALAAM;2QUDDISA SIRRAH"⟩,
  ⟨0xfd4c, "2SALLALLAHU ALAYHI WAAALIHEE WA-SALLAM;2ALAYHAA AS-SALAAM;2TABAARAKA WA-TAAALAA"⟩,
  ⟨0xfd4f, "2RAHIMAHUM ALLAAH;2TEH WITH JEEM WITH MEEM INITIAL FORM;4HAH WITH JEEM FINAL FORM"⟩,
  ⟨0xfd52, "7INITIAL FORM;6MEEM INITIAL FORM;4KHAH WITH MEEM INITIAL FORM"⟩,
  ⟨0xfd55, "4MEEM WITH JEEM INITIAL FORM;6HAH INITIAL FORM;6KHAH INITIAL FORM"⟩,
  ⟨0xfd58, "2JEEM WITH MEEM WITH HAH FINAL FORM;7INITIAL FORM;2HAH WITH MEEM WITH YEH FINAL FORM"⟩,
  ⟨0xfd5b, "6ALEF MAKSURA FINAL FORM;2SEEN WITH HAH WITH JEEM INITIAL FORM"⟩,
  ⟨0xfd5d, "4JEEM WITH HAH INITIAL FORM;6ALEF MAKSURA FINAL FORM;4MEEM WITH HAH FINAL FORM"⟩,
  ⟨0xfd60, "7INITIAL FORM;6JEEM INITIAL FORM;6MEEM FINAL FORM;7INITIAL FORM"⟩,
  ⟨0xfd64, "2SAD WITH HAH WITH HAH FINAL FORM;7INITIAL FORM;4MEEM WITH MEEM FINAL FORM"⟩,
  ⟨0xfd67, "2SHEEN WITH HAH WITH MEEM FINAL FORM;7INITIAL FORM;4JEEM WITH YEH FINAL FORM"⟩,
  ⟨0xfd6a, "4MEEM WITH KHAH FINAL FORM;7INITIAL FORM;6MEEM FINAL FORM;7INITIAL FORM"⟩,
  ⟨0xfd6e, "2DAD WITH HAH WITH ALEF MAKSURA FINAL FORM;4KHAH WITH MEEM FINAL FORM;7INITIAL FORM"⟩,
  ⟨0xfd71, "2TAH WITH MEEM WITH HAH FINAL FORM;7INITIAL FORM;6MEEM INITIAL FORM;6YEH FINAL FORM"⟩,
  ⟨0xfd75, "2AIN WITH JEEM WITH MEEM FINAL FORM;4MEEM WITH MEEM FINAL FORM;7INITIAL FORM"⟩,
  ⟨0xfd78, "6ALEF MAKSURA FINAL FORM;2GHAIN WITH MEEM WITH MEEM FINAL FORM;6YEH FINAL FORM"⟩,
  ⟨0xfd7b, "6ALEF MAKSURA FINAL FORM;2FEH WITH KHAH WITH MEEM FINAL FORM;7INITIAL FORM"⟩,
  ⟨0xfd7e, "2QAF WITH MEEM WITH HAH FINAL FORM;6MEEM FINAL FORM"⟩,
  ⟨0xfd80, "2LAM WITH HAH WITH MEEM FINAL FORM;6YEH FINAL FORM;6ALEF MAKSURA FINAL FORM"⟩,
  ⟨0xfd83, "4JEEM WITH JEEM INITIAL FORM;7FINAL FORM;4KHAH WITH MEEM FINAL FORM;7INITIAL FORM"⟩,
  ⟨0xfd87, "4MEEM WITH HAH FINAL FORM;7INITIAL FORM;2MEEM WITH HAH WITH JEEM INITIAL FORM"⟩,
  ⟨0xfd8a, "6MEEM INITIAL FORM;6YEH FINAL FORM;4JEEM WITH HAH INITIAL FORM;6MEEM INITIAL FORM"⟩,
  ⟨0xfd8e, "4KHAH WITH JEEM INITIAL FORM;6MEEM INITIAL FORM"⟩,
  ⟨0xfd92, "4JEEM WITH KHAH INITIAL FORM;2HEH WITH MEEM WITH JEEM INITIAL FORM;6MEEM INITIAL FORM"⟩,
  ⟨0xfd95, "2NOON WITH HAH WITH MEEM INITIAL FORM;6ALEF MAKSURA FINAL FORM"⟩,
  ⟨0xfd97, "4JEEM WITH MEEM FINAL FORM;7INITIAL FORM;6ALEF MAKSURA FINAL FORM"⟩,
  ⟨0xfd9a, "4MEEM WITH YEH FINAL FORM;6ALEF MAKSURA FINAL FORM"⟩,
  ⟨0xfd9c, "2YEH WITH MEEM WITH MEEM FINAL FORM;7INITIAL FORM;2BEH WITH KHAH WITH YEH FINAL FORM"⟩,
  ⟨0xfd9f, "2TEH WITH JEEM WITH YEH FINAL FORM;6ALEF MAKSURA FINAL FORM;4KHAH WITH YEH FINAL FORM"⟩,
  ⟨0xfda2, "6ALEF MAKSURA FINAL FORM;4MEEM WITH YEH FINAL FORM;6ALEF MAKSURA FINAL FORM"⟩,
  ⟨0xfda5, "2JEEM WITH MEEM WITH YEH FINAL FORM;4HAH WITH ALEF MAKSURA FINAL FORM"⟩,
  ⟨0xfda7, "4MEEM WITH ALEF MAKSURA FINAL FORM;2SEEN WITH KHAH WITH ALEF MAKSURA FINAL FORM"⟩,
  ⟨0xfda9, "2SAD WITH HAH WITH YEH FINAL FORM;2SHEEN WITH HAH WITH YEH FINAL FORM"⟩,
  ⟨0xfdab, "2DAD WITH HAH WITH YEH FINAL FORM;2LAM WITH JEEM WITH YEH FINAL FORM"⟩,
  ⟨0xfdad, "4MEEM WITH YEH FINAL FORM;2YEH WITH HAH WITH YEH FINAL FORM;4JEEM WITH YEH FINAL FORM"⟩,
  ⟨0xfdb0, "4MEEM WITH YEH FINAL FORM;2MEEM WITH MEEM WITH YEH FINAL FORM"⟩,
  ⟨0xfdb2, "2QAF WITH MEEM WITH YEH FINAL FORM;2NOON WITH HAH WITH YEH FINAL FORM"⟩,
  ⟨0xfdb4, "2QAF WITH MEEM WITH HAH INITIAL FORM;2LAM WITH HAH WITH MEEM INITIAL FORM"⟩,
  ⟨0xfdb6, "2AIN WITH MEEM WITH YEH FINAL FORM;2KAF WITH MEEM WITH YEH FINAL FORM"⟩,
  ⟨0xfdb8, "2NOON WITH JEEM WITH HAH INITIAL FORM;2MEEM WITH KHAH WITH YEH FINAL FORM"⟩,
  ⟨0xfdba, "2LAM WITH JEEM WITH MEEM INITIAL FORM;2KAF WITH MEEM WITH MEEM FINAL FORM"⟩,
  ⟨0xfdbc, "2LAM WITH JEEM WITH MEEM FINAL FORM;2NOON WITH JEEM WITH HAH FINAL FORM"⟩,
  ⟨0xfdbe, "2JEEM WITH HAH WITH YEH FINAL FORM;2HAH WITH JEEM WITH YEH FINAL FORM"⟩,
  ⟨0xfdc0, "2MEEM WITH JEEM WITH YEH FINAL FORM;2FEH WITH MEEM WITH YEH FINAL FORM"⟩,
  ⟨0xfdc2, "2BEH WITH HAH WITH YEH FINAL FORM;2KAF WITH MEEM WITH MEEM INITIAL FORM"⟩,
  ⟨0xfdc4, "2AIN WITH JEEM WITH MEEM INITIAL FORM;2SAD WITH MEEM WITH MEEM INITIAL FORM"⟩,
  ⟨0xfdc6, "2SEEN WITH KHAH WITH YEH FINAL FORM;2NOON WITH JEEM WITH YEH FINAL FORM"⟩,
  ⟨0xfdcf, "2SALAAMUHU ALAYNAA"⟩,
  ⟨0xfdf0, "2SALLA USED AS KORANIC STOP SIGN ISOLATED FORM"⟩,
  ⟨0xfdf1, "2QALA USED AS KORANIC STOP SIGN ISOLATED FORM;2ALLAH ISOLATED FORM"⟩,
  ⟨0xfdf3, "2AKBAR ISOLATED FORM;2MOHAMMAD ISOLATED FORM;2SALAM ISOLATED FORM"⟩,
  ⟨0xfdf6, "2RASOUL ISOLATED FORM;2ALAYHE ISOLATED FORM;2WASALLAM ISOLATED FORM"⟩,
  ⟨0xfdf9, "2SALLA ISOLATED FORM;2SALLALLAHOU ALAYHE WASALLAM;2JALLAJALALOUHOU;0RIAL SIGN"⟩,
  ⟨0xfdfd, "0ARABIC LIGATURE BISMILLAH AR-RAHMAN AR-RAHEEM;2SUBHAANAHU WA TAAALAA;2AZZA WA JALL"⟩,
  ⟨0xfe00, "0VARIATION SELECTOR-1;22;23;24;25;26;27;28;29;210;211;212;213;214;215;216"⟩,
  ⟨0xfe10, "0PRESENTATION FORM FOR VERTICAL COMMA;4IDEOGRAPHIC COMMA;5FULL STOP;4COLON;4SEMICOLON"⟩,
  ⟨0xfe15, "4EXCLAMATION MARK;4QUESTION MARK;4LEFT WHITE LENTICULAR BRACKET"⟩,
  ⟨0xfe18, "4RIGHT WHITE LENTICULAR BRAKCET;4HORIZONTAL ELLIPSIS"⟩,
  ⟨0xfe20, "0COMBINING LIGATURE LEFT HALF;2RIGHT HALF;1DOUBLE TILDE LEFT HALF;3RIGHT HALF"⟩,
  ⟨0xfe24, "1MACRON LEFT HALF;2RIGHT HALF;1CONJOINING MACRON;1LIGATURE LEFT HALF BELOW"⟩,
  ⟨0xfe28, "2RIGHT HALF BELOW;1TILDE LEFT HALF BELOW;2RIGHT HALF BELOW;1MACRON LEFT HALF BELOW"⟩,
  ⟨0xfe2c, "2RIGHT HALF BELOW;1CONJOINING MACRON BELOW;1CYRILLIC TITLO LEFT HALF;3RIGHT HALF"⟩,
  ⟨0xfe30, "0PRESENTATION FORM FOR VERTICAL TWO DOT LEADER;4EM DASH;4EN DASH;4LOW LINE"⟩,
  ⟨0xfe34, "4WAVY LOW LINE;4LEFT PARENTHESIS;4RIGHT PARENTHESIS;4LEFT CURLY BRACKET"⟩,
  ⟨0xfe38, "4RIGHT CURLY BRACKET;4LEFT TORTOISE SHELL BRACKET;4RIGHT TORTOISE SHELL BRACKET"⟩,
  ⟨0xfe3b, "4LEFT BLACK LENTICULAR BRACKET;4RIGHT BLACK LENTICULAR BRACKET"⟩,
  ⟨0xfe3d, "4LEFT DOUBLE ANGLE BRACKET;4RIGHT DOUBLE ANGLE BRACKET;4LEFT ANGLE BRACKET"⟩,
  ⟨0xfe40, "4RIGHT ANGLE BRACKET;4LEFT CORNER BRACKET;4RIGHT CORNER BRACKET"⟩,
  ⟨0xfe43, "4LEFT WHITE CORNER BRACKET;4RIGHT WHITE CORNER BRACKET;0SESAME DOT;0WHITE SESAME DOT"⟩,
  ⟨0xfe47, "0PRESENTATION FORM FOR VERTICAL LEFT SQUARE BRACKET;4RIGHT SQUARE BRACKET"⟩,
  ⟨0xfe49, "0DASHED OVERLINE;0CENTRELINE OVERLINE;0WAVY OVERLINE;0DOUBLE WAVY OVERLINE"⟩,
  ⟨0xfe4d, "0DASHED LOW LINE;0CENTRELINE LOW LINE;0WAVY LOW LINE;0SMALL COMMA;1IDEOGRAPHIC COMMA"⟩,
  ⟨0xfe52, "1FULL STOP"⟩,
  ⟨0xfe54, "1SEMICOLON;1COLON;1QUESTION MARK;1EXCLAMATION MARK;1EM DASH;1LEFT PARENTHESIS"⟩,
  ⟨0xfe5a, "1RIGHT PARENTHESIS;1LEFT CURLY BRACKET;1RIGHT CURLY BRACKET"⟩,
  ⟨0xfe5d, "1LEFT TORTOISE SHELL BRACKET;1RIGHT TORTOISE SHELL BRACKET;1NUMBER SIGN;1AMPERSAND"⟩,
  ⟨0xfe61, "1ASTERISK;1PLUS SIGN;1HYPHEN-MINUS;1LESS-THAN SIGN;1GREATER-THAN SIGN;1EQUALS SIGN"⟩,
  ⟨0xfe68, "1REVERSE SOLIDUS;1DOLLAR SIGN;1PERCENT SIGN;1COMMERCIAL AT"⟩,
  ⟨0xfe70, "0ARABIC FATHATAN ISOLATED FORM;1TATWEEL WITH FATHATAN ABOVE;1DAMMATAN ISOLATED FORM"⟩,
  ⟨0xfe73, "1TAIL FRAGMENT;1KASRATAN ISOLATED FORM"⟩,
  ⟨0xfe76, "1FATHA ISOLATED FORM;2MEDIAL FORM;1DAMMA ISOLATED FORM;2MEDIAL FORM"⟩,
  ⟨0xfe7a, "1KASRA ISOLATED FORM;2MEDIAL FORM;1SHADDA ISOLATED FORM;2MEDIAL FORM"⟩,
  ⟨0xfe7e, "1SUKUN ISOLATED FORM;2MEDIAL FORM;1LETTER HAMZA ISOLATED FORM"⟩,
  ⟨0xfe81, "2ALEF WITH MADDA ABOVE ISOLATED FORM;6FINAL FORM;4HAMZA ABOVE ISOLATED FORM"⟩,
  ⟨0xfe84, "6FINAL FORM;2WAW WITH HAMZA ABOVE ISOLATED FORM;6FINAL FORM"⟩,
  ⟨0xfe87, "2ALEF WITH HAMZA BELOW ISOLATED FORM;6FINAL FORM;2YEH WITH HAMZA ABOVE ISOLATED FORM"⟩,
  ⟨0xfe8a, "6FINAL FORM;6INITIAL FORM;6MEDIAL FORM;2ALEF ISOLATED FORM;3FINAL FORM"⟩,
  ⟨0xfe8f, "2BEH ISOLATED FORM;3FINAL FORM;3INITIAL FORM;3MEDIAL FORM;2TEH MARBUTA ISOLATED FORM"⟩,
  ⟨0xfe94, "4FINAL FORM;3ISOLATED FORM;3FINAL FORM;3INITIAL FORM;3MEDIAL FORM;2THEH ISOLATED FORM"⟩,
  ⟨0xfe9a, "3FINAL FORM;3INITIAL FORM;3MEDIAL FORM;2JEEM ISOLATED FORM;3FINAL FORM;3INITIAL FORM"⟩,
  ⟨0xfea0, "3MEDIAL FORM;2HAH ISOLATED FORM;3FINAL FORM;3INITIAL FORM;3MEDIAL FORM"⟩,
  ⟨0xfea5, "2KHAH ISOLATED FORM;3FINAL FORM;3INITIAL FORM;3MEDIAL FORM;2DAL ISOLATED FORM"⟩,
  ⟨0xfeaa, "3FINAL FORM;2THAL ISOLATED FORM;3FINAL FORM;2REH ISOLATED FORM;3FINAL FORM"⟩,
  ⟨0xfeaf, "2ZAIN ISOLATED FORM;3FINAL FORM;2SEEN ISOLATED FORM;3FINAL FORM;3INITIAL FORM"⟩,
  ⟨0xfeb4, "3MEDIAL FORM;2SHEEN ISOLATED FORM;3FINAL FORM;3INITIAL FORM;3MEDIAL FORM"⟩,
  ⟨0xfeb9, "2SAD ISOLATED FORM;3FINAL FORM;3INITIAL FORM;3MEDIAL FORM;2DAD ISOLATED FORM"⟩,
  ⟨0xfebe, "3FINAL FORM;3INITIAL FORM;3MEDIAL FORM;2TAH ISOLATED FORM;3FINAL FORM;3INITIAL FORM"⟩,
  ⟨0xfec4, "3MEDIAL FORM;2ZAH ISOLATED FORM;3FINAL FORM;3INITIAL FORM;3MEDIAL FORM"⟩,
  ⟨0xfec9, "2AIN ISOLATED FORM;3FINAL FORM;3INITIAL FORM;3MEDIAL FORM;2GHAIN ISOLATED FORM"⟩,
  ⟨0xfece, "3FINAL FORM;3INITIAL FORM;3MEDIAL FORM;2FEH ISOLATED FORM;3FINAL FORM;3INITIAL FORM"⟩,
  ⟨0xfed4, "3MEDIAL FORM;2QAF ISOLATED FORM;3FINAL FORM;3INITIAL FORM;3MEDIAL FORM"⟩,
  ⟨0xfed9, "2KAF ISOLATED FORM;3FINAL FORM;3INITIAL FORM;3MEDIAL FORM;2LAM ISOLATED FORM"⟩,
  ⟨0xfede, "3FINAL FORM;3INITIAL FORM;3MEDIAL FORM;2MEEM ISOLATED FORM;3FINAL FORM;3INITIAL FORM"⟩,
  ⟨0xfee4, "3MEDIAL FORM;2NOON ISOLATED FORM;3FINAL FORM;3INITIAL FORM;3MEDIAL FORM"⟩,
  ⟨0xfee9, "2HEH ISOLATED FORM;3FINAL FORM;3INITIAL FORM;3MEDIAL FORM;2WAW ISOLATED FORM"⟩,
  ⟨0xfeee, "3FINAL FORM;2ALEF MAKSURA ISOLATED FORM;4FINAL FORM;2YEH ISOLATED FORM;3FINAL FORM"⟩,
  ⟨0xfef3, "3INITIAL FORM;3MEDIAL FORM;1LIGATURE LAM WITH ALEF WITH MADDA ABOVE ISOLATED FORM"⟩,
  ⟨0xfef6, "8FINAL FORM;6HAMZA ABOVE ISOLATED FORM;8FINAL FORM;7BELOW ISOLATED FORM;8FINAL FORM"⟩,
  ⟨0xfefb, "5ISOLATED FORM;5FINAL FORM"⟩,
  ⟨0xfeff, "0ZERO WIDTH NO-BREAK SPACE"⟩,
  ⟨0xff01, "0FULLWIDTH EXCLAMATION MARK;1QUOTATION MARK;1NUMBER SIGN;1DOLLAR SIGN;1PERCENT SIGN"⟩,
  ⟨0xff06, "1AMPERSAND;1APOSTROPHE;1LEFT PARENTHESIS;1RIGHT PARENTHESIS;1ASTERISK;1PLUS SIGN"⟩,
  ⟨0xff0c, "1COMMA;1HYPHEN-MINUS;1FULL STOP;1SOLIDUS;1DIGIT ZERO;2ONE;2TWO;2THREE;2FOUR;2FIVE"⟩,
  ⟨0xff16, "2SIX;2SEVEN;2EIGHT;2NINE;1COLON;1SEMICOLON;1LESS-THAN SIGN;1EQUALS SIGN"⟩,
  ⟨0xff1e, "1GREATER-THAN SIGN;1QUESTION MARK;1COMMERCIAL AT;1LATIN CAPITAL LETTER A;4B;4C;4D;4E"⟩,
  ⟨0xff26, "4F;4G;4H;4I;4J;4K;4L;4M;4N;4O;4P;4Q;4R;4S;4T;4U;4V;4W;4X;4Y;4Z;1LEFT SQUARE BRACKET"⟩,
  ⟨0xff3c, "1REVERSE SOLIDUS;1RIGHT SQUARE BRACKET;1CIRCUMFLEX ACCENT;1LOW LINE;1GRAVE ACCENT"⟩,
  ⟨0xff41, "1LATIN SMALL LETTER A;4B;4C;4D;4E;4F;4G;4H;4I;4J;4K;4L;4M;4N;4O;4P;4Q;4R;4S;4T;4U;4V"⟩,
  ⟨0xff57, "4W;4X;4Y;4Z;1LEFT CURLY BRACKET;1VERTICAL LINE;1RIGHT CURLY BRACKET;1TILDE"⟩,
  ⟨0xff5f, "1LEFT WHITE PARENTHESIS;1RIGHT WHITE PARENTHESIS;0HALFWIDTH IDEOGRAPHIC FULL STOP"⟩,
  ⟨0xff62, "1LEFT CORNER BRACKET;1RIGHT CORNER BRACKET;1IDEOGRAPHIC COMMA;1KATAKANA MIDDLE DOT"⟩,
  ⟨0xff66, "2LETTER WO;3SMALL A;4I;4U;4E;4O;4YA;4YU;4YO;4TU"⟩,
  ⟨0xff70, "1KATAKANA-HIRAGANA PROLONGED SOUND MARK;1KATAKANA LETTER A;3I;3U;3E;3O;3KA;3KI;3KU"⟩,
  ⟨0xff79, "3KE;3KO;3SA;3SI;3SU;3SE;3SO;3TA;3TI;3TU;3TE;3TO;3NA;3NI;3NU;3NE;3NO;3HA;3HI;3HU;3HE"⟩,
  ⟨0xff8e, "3HO;3MA;3MI;3MU;3ME;3MO;3YA;3YU;3YO;3RA;3RI;3RU;3RE;3RO;3WA;3N;2VOICED SOUND MARK"⟩,
  ⟨0xff9f, "2SEMI-VOICED SOUND MARK;1HANGUL FILLER;2LETTER KIYEOK;3SSANGKIYEOK;3KIYEOK-SIOS"⟩,
  ⟨0xffa4, "3NIEUN;3NIEUN-CIEUC;4HIEUH;3TIKEUT;3SSANGTIKEUT;3RIEUL;3RIEUL-KIYEOK;4MIEUM;4PIEUP"⟩,
  ⟨0xffad, "4SIOS;4THIEUTH;4PHIEUPH;4HIEUH;3MIEUM;3PIEUP;3SSANGPIEUP;3PIEUP-SIOS;3SIOS;3SSANGSIOS"⟩,
  ⟨0xffb7, "3IEUNG;3CIEUC;3SSANGCIEUC;3CHIEUCH;3KHIEUKH;3THIEUTH;3PHIEUPH;3HIEUH"⟩,
  ⟨0xffc2, "3A;3AE;3YA;3YAE;3EO;3E"⟩,
  ⟨0xffca, "3YEO;3YE;3O;3WA;3WAE;3OE"⟩,
  ⟨0xffd2, "3YO;3U;3WEO;3WE;3WI;3YU"⟩,
  ⟨0xffda, "3EU;3YI;3I"⟩,
  ⟨0xffe0, "0FULLWIDTH CENT SIGN;1POUND SIGN;1NOT SIGN;1MACRON;1BROKEN BAR;1YEN SIGN;1WON SIGN"⟩,
  ⟨0xffe8, "0HALFWIDTH FORMS LIGHT VERTICAL;1LEFTWARDS ARROW;1UPWARDS ARROW;1RIGHTWARDS ARROW"⟩,
  ⟨0xffec, "1DOWNWARDS ARROW;1BLACK SQUARE;1WHITE CIRCLE"⟩,
  ⟨0xfff9, "0INTERLINEAR ANNOTATION ANCHOR;2SEPARATOR;2TERMINATOR;0OBJECT REPLACEMENT CHARACTER"⟩,
  ⟨0xfffd, "0REPLACEMENT CHARACTER"⟩]

end Character
end DirectiveLint
