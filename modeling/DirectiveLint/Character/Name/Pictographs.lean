import DirectiveLint.Character.Name.Row

/-!
# Names of pictographs

Names of pictographs and of what comes after them, from U+1EE00 on.
-/

namespace DirectiveLint
namespace Character

/-- Names of pictographs and of what comes after them, from U+1EE00 on. -/
def pictographNames : Array NameRow := #[
  ⟨0x1ee00, "0ARABIC MATHEMATICAL ALEF;2BEH;2JEEM;2DAL"⟩,
  ⟨0x1ee05, "2WAW;2ZAIN;2HAH;2TAH;2YEH;2KAF;2LAM;2MEEM;2NOON;2SEEN;2AIN;2FEH;2SAD;2QAF;2REH"⟩,
  ⟨0x1ee14, "2SHEEN;2TEH;2THEH;2KHAH;2THAL;2DAD;2ZAH;2GHAIN;2DOTLESS BEH;3NOON;3FEH;3QAF"⟩,
  ⟨0x1ee21, "2INITIAL BEH;3JEEM"⟩,
  ⟨0x1ee24, "3HEH"⟩,
  ⟨0x1ee27, "3HAH"⟩,
  ⟨0x1ee29, "3YEH;3KAF;3LAM;3MEEM;3NOON;3SEEN;3AIN;3FEH;3SAD;3QAF"⟩,
  ⟨0x1ee34, "3SHEEN;3TEH;3THEH;3KHAH"⟩,
  ⟨0x1ee39, "3DAD"⟩,
  ⟨0x1ee3b, "3GHAIN"⟩,
  ⟨0x1ee42, "2TAILED JEEM"⟩,
  ⟨0x1ee47, "3HAH"⟩,
  ⟨0x1ee49, "3YEH"⟩,
  ⟨0x1ee4b, "3LAM"⟩,
  ⟨0x1ee4d, "3NOON;3SEEN;3AIN"⟩,
  ⟨0x1ee51, "3SAD;3QAF"⟩,
  ⟨0x1ee54, "3SHEEN"⟩,
  ⟨0x1ee57, "3KHAH"⟩,
  ⟨0x1ee59, "3DAD"⟩,
  ⟨0x1ee5b, "3GHAIN"⟩,
  ⟨0x1ee5d, "3DOTLESS NOON"⟩,
  ⟨0x1ee5f, "4QAF"⟩,
  ⟨0x1ee61, "2STRETCHED BEH;3JEEM"⟩,
  ⟨0x1ee64, "3HEH"⟩,
  ⟨0x1ee67, "3HAH;3TAH;3YEH;3KAF"⟩,
  ⟨0x1ee6c, "3MEEM;3NOON;3SEEN;3AIN;3FEH;3SAD;3QAF"⟩,
  ⟨0x1ee74, "3SHEEN;3TEH;3THEH;3KHAH"⟩,
  ⟨0x1ee79, "3DAD;3ZAH;3GHAIN;3DOTLESS BEH"⟩,
  ⟨0x1ee7e, "4FEH"⟩,
  ⟨0x1ee80, "2LOOPED ALEF;3BEH;3JEEM;3DAL;3HEH;3WAW;3ZAIN;3HAH;3TAH;3YEH"⟩,
  ⟨0x1ee8b, "3LAM;3MEEM;3NOON;3SEEN;3AIN;3FEH;3SAD;3QAF;3REH;3SHEEN;3TEH;3THEH;3KHAH;3THAL;3DAD"⟩,
  ⟨0x1ee9a, "3ZAH;3GHAIN"⟩,
  ⟨0x1eea1, "2DOUBLE-STRUCK BEH;4JEEM;4DAL"⟩,
  ⟨0x1eea5, "4WAW;4ZAIN;4HAH;4TAH;4YEH"⟩,
  ⟨0x1eeab, "4LAM;4MEEM;4NOON;4SEEN;4AIN;4FEH;4SAD;4QAF;4REH;4SHEEN;4TEH;4THEH;4KHAH;4THAL;4DAD"⟩,
  ⟨0x1eeba, "4ZAH;4GHAIN"⟩,
  ⟨0x1eef0, "2OPERATOR MEEM WITH HAH WITH TATWEEL;3HAH WITH DAL"⟩,
  ⟨0x1f000, "0MAHJONG TILE EAST WIND;2SOUTH WIND;2WEST WIND;2NORTH WIND;2RED DRAGON;2GREEN DRAGON"⟩,
  ⟨0x1f006, "2WHITE DRAGON;2ONE OF CHARACTERS;2TWO OF CHARACTERS;2THREE OF CHARACTERS"⟩,
  ⟨0x1f00a, "2FOUR OF CHARACTERS;2FIVE OF CHARACTERS;2SIX OF CHARACTERS;2SEVEN OF CHARACTERS"⟩,
  ⟨0x1f00e, "2EIGHT OF CHARACTERS;2NINE OF CHARACTERS;2ONE OF BAMBOOS;2TWO OF BAMBOOS"⟩,
  ⟨0x1f012, "2THREE OF BAMBOOS;2FOUR OF BAMBOOS;2FIVE OF BAMBOOS;2SIX OF BAMBOOS"⟩,
  ⟨0x1f016, "2SEVEN OF BAMBOOS;2EIGHT OF BAMBOOS;2NINE OF BAMBOOS;2ONE OF CIRCLES;2TWO OF CIRCLES"⟩,
  ⟨0x1f01b, "2THREE OF CIRCLES;2FOUR OF CIRCLES;2FIVE OF CIRCLES;2SIX OF CIRCLES"⟩,
  ⟨0x1f01f, "2SEVEN OF CIRCLES;2EIGHT OF CIRCLES;2NINE OF CIRCLES;2PLUM;2ORCHID;2BAMBOO"⟩,
  ⟨0x1f025, "2CHRYSANTHEMUM;2SPRING;2SUMMER;2AUTUMN;2WINTER;2JOKER;2BACK"⟩,
  ⟨0x1f030, "0DOMINO TILE HORIZONTAL BACK;2HORIZONTAL-00-00;401;402;403;404;405;406;301-00;401"⟩,
  ⟨0x1f03a, "402;403;404;405;406;302-00;401;402;403;404;405;406;303-00;401;402;403;404;405;406"⟩,
  ⟨0x1f04d, "304-00;401;402;403;404;405;406;305-00;401;402;403;404;405;406;306-00;401;402;403;404"⟩,
  ⟨0x1f060, "405;406;2VERTICAL BACK;2VERTICAL-00-00;401;402;403;404;405;406;301-00;401;402;403"⟩,
  ⟨0x1f06e, "404;405;406;302-00;401;402;403;404;405;406;303-00;401;402;403;404;405;406;304-00;401"⟩,
  ⟨0x1f081, "402;403;404;405;406;305-00;401;402;403;404;405;406;306-00;401;402;403;404;405;406"⟩,
  ⟨0x1f0a0, "0PLAYING CARD BACK;2ACE OF SPADES;2TWO OF SPADES;2THREE OF SPADES;2FOUR OF SPADES"⟩,
  ⟨0x1f0a5, "2FIVE OF SPADES;2SIX OF SPADES;2SEVEN OF SPADES;2EIGHT OF SPADES;2NINE OF SPADES"⟩,
  ⟨0x1f0aa, "2TEN OF SPADES;2JACK OF SPADES;2KNIGHT OF SPADES;2QUEEN OF SPADES;2KING OF SPADES"⟩,
  ⟨0x1f0b1, "2ACE OF HEARTS;2TWO OF HEARTS;2THREE OF HEARTS;2FOUR OF HEARTS;2FIVE OF HEARTS"⟩,
  ⟨0x1f0b6, "2SIX OF HEARTS;2SEVEN OF HEARTS;2EIGHT OF HEARTS;2NINE OF HEARTS;2TEN OF HEARTS"⟩,
  ⟨0x1f0bb, "2JACK OF HEARTS;2KNIGHT OF HEARTS;2QUEEN OF HEARTS;2KING OF HEARTS;2RED JOKER"⟩,
  ⟨0x1f0c1, "2ACE OF DIAMONDS;2TWO OF DIAMONDS;2THREE OF DIAMONDS;2FOUR OF DIAMONDS"⟩,
  ⟨0x1f0c5, "2FIVE OF DIAMONDS;2SIX OF DIAMONDS;2SEVEN OF DIAMONDS;2EIGHT OF DIAMONDS"⟩,
  ⟨0x1f0c9, "2NINE OF DIAMONDS;2TEN OF DIAMONDS;2JACK OF DIAMONDS;2KNIGHT OF DIAMONDS"⟩,
  ⟨0x1f0cd, "2QUEEN OF DIAMONDS;2KING OF DIAMONDS;2BLACK JOKER"⟩,
  ⟨0x1f0d1, "2ACE OF CLUBS;2TWO OF CLUBS;2THREE OF CLUBS;2FOUR OF CLUBS;2FIVE OF CLUBS"⟩,
  ⟨0x1f0d6, "2SIX OF CLUBS;2SEVEN OF CLUBS;2EIGHT OF CLUBS;2NINE OF CLUBS;2TEN OF CLUBS"⟩,
  ⟨0x1f0db, "2JACK OF CLUBS;2KNIGHT OF CLUBS;2QUEEN OF CLUBS;2KING OF CLUBS;2WHITE JOKER;2FOOL"⟩,
  ⟨0x1f0e1, "2TRUMP-1;32;33;34;35;36;37;38;39;310;311;312;313;314;315;316;317;318;319;320;321"⟩,
  ⟨0x1f100, "0DIGIT ZERO FULL STOP;2COMMA;1ONE COMMA;1TWO COMMA;1THREE COMMA;1FOUR COMMA"⟩,
  ⟨0x1f106, "1FIVE COMMA;1SIX COMMA;1SEVEN COMMA;1EIGHT COMMA;1NINE COMMA"⟩,
  ⟨0x1f10b, "0DINGBAT CIRCLED SANS-SERIF DIGIT ZERO;1NEGATIVE CIRCLED SANS-SERIF DIGIT ZERO"⟩,
  ⟨0x1f10d, "0CIRCLED ZERO WITH SLASH;1ANTICLOCKWISE ARROW;1DOLLAR SIGN WITH OVERLAID BACKSLASH"⟩,
  ⟨0x1f110, "0PARENTHESIZED LATIN CAPITAL LETTER A;4B;4C;4D;4E;4F;4G;4H;4I;4J;4K;4L;4M;4N;4O;4P"⟩,
  ⟨0x1f120, "4Q;4R;4S;4T;4U;4V;4W;4X;4Y;4Z;0TORTOISE SHELL BRACKETED LATIN CAPITAL LETTER S"⟩,
  ⟨0x1f12b, "0CIRCLED ITALIC LATIN CAPITAL LETTER C;5R;1CD;1WZ;0COPYLEFT SYMBOL"⟩,
  ⟨0x1f130, "0SQUARED LATIN CAPITAL LETTER A;4B;4C;4D;4E;4F;4G;4H;4I;4J;4K;4L;4M;4N;4O;4P;4Q;4R"⟩,
  ⟨0x1f142, "4S;4T;4U;4V;4W;4X;4Y;4Z;1HV;1MV;1SD;1SS;1PPV;1WC"⟩,
  ⟨0x1f150, "0NEGATIVE CIRCLED LATIN CAPITAL LETTER A;5B;5C;5D;5E;5F;5G;5H;5I;5J;5K;5L;5M;5N;5O"⟩,
  ⟨0x1f15f, "5P;5Q;5R;5S;5T;5U;5V;5W;5X;5Y;5Z;0RAISED MC SIGN;1MD SIGN;1MR SIGN;0CIRCLED CC"⟩,
  ⟨0x1f16e, "1C WITH OVERLAID BACKSLASH;1HUMAN FIGURE;0NEGATIVE SQUARED LATIN CAPITAL LETTER A;5B"⟩,
  ⟨0x1f172, "5C;5D;5E;5F;5G;5H;5I;5J;5K;5L;5M;5N;5O;5P;5Q;5R;5S;5T;5U;5V;5W;5X;5Y;5Z"⟩,
  ⟨0x1f18a, "0CROSSED NEGATIVE SQUARED LATIN CAPITAL LETTER P;0NEGATIVE SQUARED IC;2PA;2SA;2AB"⟩,
  ⟨0x1f18f, "2WC;0SQUARE DJ;0SQUARED CL;1COOL;1FREE;1ID;1NEW;1NG;1OK;1SOS"⟩,
  ⟨0x1f199, "1UP WITH EXCLAMATION MARK;1VS;1THREE D;1SECOND SCREEN;1TWO K;1FOUR K;1EIGHT K"⟩,
  ⟨0x1f1a0, "1FIVE POINT ONE;1SEVEN POINT ONE;1TWENTY-TWO POINT TWO;1SIXTY P"⟩,
  ⟨0x1f1a4, "1ONE HUNDRED TWENTY P;1LATIN SMALL LETTER D;1HC;1HDR;1HI-RES;1LOSSLESS;1SHV;1UHD"⟩,
  ⟨0x1f1ac, "1VOD;0MASK WORK SYMBOL"⟩,
  ⟨0x1f1e6, "0REGIONAL INDICATOR SYMBOL LETTER A;4B;4C;4D;4E;4F;4G;4H;4I;4J;4K;4L;4M;4N;4O;4P;4Q"⟩,
  ⟨0x1f1f7, "4R;4S;4T;4U;4V;4W;4X;4Y;4Z;0SQUARE HIRAGANA HOKA;0SQUARED KATAKANA KOKO;2SA"⟩,
  ⟨0x1f210, "1CJK UNIFIED IDEOGRAPH-624B;45B57;453CC;1KATAKANA DE;1CJK UNIFIED IDEOGRAPH-4E8C"⟩,
  ⟨0x1f215, "4591A;489E3;45929;44EA4;46620;47121;46599;4524D;45F8C;4518D;465B0;4521D;47D42;4751F"⟩,
  ⟨0x1f223, "48CA9;458F0;45439;46F14;46295;46355;44E00;44E09;4904A;45DE6;44E2D;453F3;46307;48D70"⟩,
  ⟨0x1f231, "46253;47981;47A7A;45408;46E80;46709;46708;47533;45272;455B6;4914D"⟩,
  ⟨0x1f240, "0TORTOISE SHELL BRACKETED CJK UNIFIED IDEOGRAPH-672C;64E09;64E8C;65B89;670B9;66253"⟩,
  ⟨0x1f246, "676D7;652DD;66557"⟩,
  ⟨0x1f250, "0CIRCLED IDEOGRAPH ADVANTAGE;2ACCEPT"⟩,
  ⟨0x1f260, "0ROUNDED SYMBOL FOR FU;3LU;3SHOU;3XI;3SHUANGXI;3CAI"⟩,
  ⟨0x1f300, "0CYCLONE;0FOGGY;0CLOSED UMBRELLA;0NIGHT WITH STARS;0SUNRISE OVER MOUNTAINS;0SUNRISE"⟩,
  ⟨0x1f306, "0CITYSCAPE AT DUSK;0SUNSET OVER BUILDINGS;0RAINBOW;0BRIDGE AT NIGHT;0WATER WAVE"⟩,
  ⟨0x1f30b, "0VOLCANO;0MILKY WAY;0EARTH GLOBE EUROPE-AFRICA;2AMERICAS;2ASIA-AUSTRALIA"⟩,
  ⟨0x1f310, "0GLOBE WITH MERIDIANS;0NEW MOON SYMBOL;0WAXING CRESCENT MOON SYMBOL"⟩,
  ⟨0x1f313, "0FIRST QUARTER MOON SYMBOL;0WAXING GIBBOUS MOON SYMBOL;0FULL MOON SYMBOL"⟩,
  ⟨0x1f316, "0WANING GIBBOUS MOON SYMBOL;0LAST QUARTER MOON SYMBOL;0WANING CRESCENT MOON SYMBOL"⟩,
  ⟨0x1f319, "0CRESCENT MOON;0NEW MOON WITH FACE;0FIRST QUARTER MOON WITH FACE"⟩,
  ⟨0x1f31c, "0LAST QUARTER MOON WITH FACE;0FULL MOON WITH FACE;0SUN WITH FACE;0GLOWING STAR"⟩,
  ⟨0x1f320, "0SHOOTING STAR;0THERMOMETER;0BLACK DROPLET;0WHITE SUN;1SUN WITH SMALL CLOUD"⟩,
  ⟨0x1f325, "2BEHIND CLOUD;3CLOUD WITH RAIN;0CLOUD WITH RAIN;2SNOW;2LIGHTNING;2TORNADO;0FOG"⟩,
  ⟨0x1f32c, "0WIND BLOWING FACE;0HOT DOG;0TACO;0BURRITO;0CHESTNUT;0SEEDLING;0EVERGREEN TREE"⟩,
  ⟨0x1f333, "0DECIDUOUS TREE;0PALM TREE;0CACTUS;0HOT PEPPER;0TULIP;0CHERRY BLOSSOM;0ROSE"⟩,
  ⟨0x1f33a, "0HIBISCUS;0SUNFLOWER;0BLOSSOM;0EAR OF MAIZE;2RICE;0HERB;0FOUR LEAF CLOVER"⟩,
  ⟨0x1f341, "0MAPLE LEAF;0FALLEN LEAF;0LEAF FLUTTERING IN WIND;0MUSHROOM;0TOMATO;0AUBERGINE"⟩,
  ⟨0x1f347, "0GRAPES;0MELON;0WATERMELON;0TANGERINE;0LEMON;0BANANA;0PINEAPPLE;0RED APPLE"⟩,
  ⟨0x1f34f, "0GREEN APPLE;0PEAR;0PEACH;0CHERRIES;0STRAWBERRY;0HAMBURGER;0SLICE OF PIZZA"⟩,
  ⟨0x1f356, "0MEAT ON BONE;0POULTRY LEG;0RICE CRACKER;1BALL;0COOKED RICE;0CURRY AND RICE"⟩,
  ⟨0x1f35c, "0STEAMING BOWL;0SPAGHETTI;0BREAD;0FRENCH FRIES;0ROASTED SWEET POTATO;0DANGO;0ODEN"⟩,
  ⟨0x1f363, "0SUSHI;0FRIED SHRIMP;0FISH CAKE WITH SWIRL DESIGN;0SOFT ICE CREAM;0SHAVED ICE"⟩,
  ⟨0x1f368, "0ICE CREAM;0DOUGHNUT;0COOKIE;0CHOCOLATE BAR;0CANDY;0LOLLIPOP;0CUSTARD;0HONEY POT"⟩,
  ⟨0x1f370, "0SHORTCAKE;0BENTO BOX;0POT OF FOOD;0COOKING;0FORK AND KNIFE;0TEACUP WITHOUT HANDLE"⟩,
  ⟨0x1f376, "0SAKE BOTTLE AND CUP;0WINE GLASS;0COCKTAIL GLASS;0TROPICAL DRINK;0BEER MUG"⟩,
  ⟨0x1f37b, "0CLINKING BEER MUGS;0BABY BOTTLE;0FORK AND KNIFE WITH PLATE"⟩,
  ⟨0x1f37e, "0BOTTLE WITH POPPING CORK;0POPCORN;0RIBBON;0WRAPPED PRESENT;0BIRTHDAY CAKE"⟩,
  ⟨0x1f383, "0JACK-O-LANTERN;0CHRISTMAS TREE;0FATHER CHRISTMAS;0FIREWORKS;0FIREWORK SPARKLER"⟩,
  ⟨0x1f388, "0BALLOON;0PARTY POPPER;0CONFETTI BALL;0TANABATA TREE;0CROSSED FLAGS;0PINE DECORATION"⟩,
  ⟨0x1f38e, "0JAPANESE DOLLS;0CARP STREAMER;0WIND CHIME;0MOON VIEWING CEREMONY;0SCHOOL SATCHEL"⟩,
  ⟨0x1f393, "0GRADUATION CAP;0HEART WITH TIP ON THE LEFT;0BOUQUET OF FLOWERS;0MILITARY MEDAL"⟩,
  ⟨0x1f397, "0REMINDER RIBBON;0MUSICAL KEYBOARD WITH JACKS;0STUDIO MICROPHONE;0LEVEL SLIDER"⟩,
  ⟨0x1f39b, "0CONTROL KNOBS;0BEAMED ASCENDING MUSICAL NOTES;1DESCENDING MUSICAL NOTES"⟩,
  ⟨0x1f39e, "0FILM FRAMES;0ADMISSION TICKETS;0CAROUSEL HORSE;0FERRIS WHEEL;0ROLLER COASTER"⟩,
  ⟨0x1f3a3, "0FISHING POLE AND FISH;0MICROPHONE;0MOVIE CAMERA;0CINEMA;0HEADPHONE;0ARTIST PALETTE"⟩,
  ⟨0x1f3a9, "0TOP HAT;0CIRCUS TENT;0TICKET;0CLAPPER BOARD;0PERFORMING ARTS;0VIDEO GAME"⟩,
  ⟨0x1f3af, "0DIRECT HIT;0SLOT MACHINE;0BILLIARDS;0GAME DIE;0BOWLING;0FLOWER PLAYING CARDS"⟩,
  ⟨0x1f3b5, "0MUSICAL NOTE;0MULTIPLE MUSICAL NOTES;0SAXOPHONE;0GUITAR;0MUSICAL KEYBOARD;0TRUMPET"⟩,
  ⟨0x1f3bb, "0VIOLIN;0MUSICAL SCORE;0RUNNING SHIRT WITH SASH;0TENNIS RACQUET AND BALL"⟩,
  ⟨0x1f3bf, "0SKI AND SKI BOOT;0BASKETBALL AND HOOP;0CHEQUERED FLAG;0SNOWBOARDER;0RUNNER;0SURFER"⟩,
  ⟨0x1f3c5, "0SPORTS MEDAL;0TROPHY;0HORSE RACING;0AMERICAN FOOTBALL;0RUGBY FOOTBALL;0SWIMMER"⟩,
  ⟨0x1f3cb, "0WEIGHT LIFTER;0GOLFER;0RACING MOTORCYCLE;1CAR;0CRICKET BAT AND BALL;0VOLLEYBALL"⟩,
  ⟨0x1f3d1, "0FIELD HOCKEY STICK AND BALL;0ICE HOCKEY STICK AND PUCK"⟩,
  ⟨0x1f3d3, "0TABLE TENNIS PADDLE AND BALL;0SNOW CAPPED MOUNTAIN;0CAMPING;0BEACH WITH UMBRELLA"⟩,
  ⟨0x1f3d7, "0BUILDING CONSTRUCTION;0HOUSE BUILDINGS;0CITYSCAPE;0DERELICT HOUSE BUILDING"⟩,
  ⟨0x1f3db, "0CLASSICAL BUILDING;0DESERT;0DESERT ISLAND;0NATIONAL PARK;0STADIUM;0HOUSE BUILDING"⟩,
  ⟨0x1f3e1, "1WITH GARDEN;0OFFICE BUILDING;0JAPANESE POST OFFICE;0EUROPEAN POST OFFICE;0HOSPITAL"⟩,
  ⟨0x1f3e6, "0BANK;0AUTOMATED TELLER MACHINE;0HOTEL;0LOVE HOTEL;0CONVENIENCE STORE;0SCHOOL"⟩,
  ⟨0x1f3ec, "0DEPARTMENT STORE;0FACTORY;0IZAKAYA LANTERN;0JAPANESE CASTLE;0EUROPEAN CASTLE"⟩,
  ⟨0x1f3f1, "0WHITE PENNANT;0BLACK PENNANT;0WAVING WHITE FLAG;1BLACK FLAG;0ROSETTE;0BLACK ROSETTE"⟩,
  ⟨0x1f3f7, "0LABEL;0BADMINTON RACQUET AND SHUTTLECOCK;0BOW AND ARROW;0AMPHORA"⟩,
  ⟨0x1f3fb, "0EMOJI MODIFIER FITZPATRICK TYPE-1-2;43;44;45;46;0RAT;0MOUSE;0OX;0WATER BUFFALO;0COW"⟩,
  ⟨0x1f405, "0TIGER;0LEOPARD;0RABBIT;0CAT;0DRAGON;0CROCODILE;0WHALE;0SNAIL;0SNAKE;0HORSE;0RAM"⟩,
  ⟨0x1f410, "0GOAT;0SHEEP;0MONKEY;0ROOSTER;0CHICKEN;0DOG;0PIG;0BOAR;0ELEPHANT;0OCTOPUS"⟩,
  ⟨0x1f41a, "0SPIRAL SHELL;0BUG;0ANT;0HONEYBEE;0LADY BEETLE;0FISH;0TROPICAL FISH;0BLOWFISH"⟩,
  ⟨0x1f422, "0TURTLE;0HATCHING CHICK;0BABY CHICK;0FRONT-FACING BABY CHICK;0BIRD;0PENGUIN;0KOALA"⟩,
  ⟨0x1f429, "0POODLE;0DROMEDARY CAMEL;0BACTRIAN CAMEL;0DOLPHIN;0MOUSE FACE;0COW FACE;0TIGER FACE"⟩,
  ⟨0x1f430, "0RABBIT FACE;0CAT FACE;0DRAGON FACE;0SPOUTING WHALE;0HORSE FACE;0MONKEY FACE"⟩,
  ⟨0x1f436, "0DOG FACE;0PIG FACE;0FROG FACE;0HAMSTER FACE;0WOLF FACE;0BEAR FACE;0PANDA FACE"⟩,
  ⟨0x1f43d, "0PIG NOSE;0PAW PRINTS;0CHIPMUNK;0EYES;0EYE;0EAR;0NOSE;0MOUTH;0TONGUE"⟩,
  ⟨0x1f446, "0WHITE UP POINTING BACKHAND INDEX;1DOWN POINTING BACKHAND INDEX"⟩,
  ⟨0x1f448, "1LEFT POINTING BACKHAND INDEX;1RIGHT POINTING BACKHAND INDEX;0FISTED HAND SIGN"⟩,
  ⟨0x1f44b, "0WAVING HAND SIGN;0OK HAND SIGN;0THUMBS UP SIGN;1DOWN SIGN;0CLAPPING HANDS SIGN"⟩,
  ⟨0x1f450, "0OPEN HANDS SIGN;0CROWN;0WOMANS HAT;0EYEGLASSES;0NECKTIE;0T-SHIRT;0JEANS;0DRESS"⟩,
  ⟨0x1f458, "0KIMONO;0BIKINI;0WOMANS CLOTHES;0PURSE;0HANDBAG;0POUCH;0MANS SHOE;0ATHLETIC SHOE"⟩,
  ⟨0x1f460, "0HIGH-HEELED SHOE;0WOMANS SANDAL;1BOOTS;0FOOTPRINTS;0BUST IN SILHOUETTE"⟩,
  ⟨0x1f465, "0BUSTS IN SILHOUETTE;0BOY;0GIRL;0MAN;0WOMAN;0FAMILY;0MAN AND WOMAN HOLDING HANDS"⟩,
  ⟨0x1f46c, "0TWO MEN HOLDING HANDS;1WOMEN HOLDING HANDS;0POLICE OFFICER;0WOMAN WITH BUNNY EARS"⟩,
  ⟨0x1f470, "0BRIDE WITH VEIL;0PERSON WITH BLOND HAIR;0MAN WITH GUA PI MAO;2TURBAN;0OLDER MAN"⟩,
  ⟨0x1f475, "1WOMAN;0BABY;0CONSTRUCTION WORKER;0PRINCESS;0JAPANESE OGRE;1GOBLIN;0GHOST"⟩,
  ⟨0x1f47c, "0BABY ANGEL;0EXTRATERRESTRIAL ALIEN;0ALIEN MONSTER;0IMP;0SKULL"⟩,
  ⟨0x1f481, "0INFORMATION DESK PERSON;0GUARDSMAN;0DANCER;0LIPSTICK;0NAIL POLISH;0FACE MASSAGE"⟩,
  ⟨0x1f487, "0HAIRCUT;0BARBER POLE;0SYRINGE;0PILL;0KISS MARK;0LOVE LETTER;0RING;0GEM STONE;0KISS"⟩,
  ⟨0x1f490, "0BOUQUET;0COUPLE WITH HEART;0WEDDING;0BEATING HEART;0BROKEN HEART;0TWO HEARTS"⟩,
  ⟨0x1f496, "0SPARKLING HEART;0GROWING HEART;0HEART WITH ARROW;0BLUE HEART;0GREEN HEART"⟩,
  ⟨0x1f49b, "0YELLOW HEART;0PURPLE HEART;0HEART WITH RIBBON;0REVOLVING HEARTS;0HEART DECORATION"⟩,
  ⟨0x1f4a0, "0DIAMOND SHAPE WITH A DOT INSIDE;0ELECTRIC LIGHT BULB;0ANGER SYMBOL;0BOMB"⟩,
  ⟨0x1f4a4, "0SLEEPING SYMBOL;0COLLISION SYMBOL;0SPLASHING SWEAT SYMBOL;0DROPLET;0DASH SYMBOL"⟩,
  ⟨0x1f4a9, "0PILE OF POO;0FLEXED BICEPS;0DIZZY SYMBOL;0SPEECH BALLOON;0THOUGHT BALLOON"⟩,
  ⟨0x1f4ae, "0WHITE FLOWER;0HUNDRED POINTS SYMBOL;0MONEY BAG;0CURRENCY EXCHANGE"⟩,
  ⟨0x1f4b2, "0HEAVY DOLLAR SIGN;0CREDIT CARD;0BANKNOTE WITH YEN SIGN;2DOLLAR SIGN;2EURO SIGN"⟩,
  ⟨0x1f4b7, "2POUND SIGN;0MONEY WITH WINGS;0CHART WITH UPWARDS TREND AND YEN SIGN;0SEAT"⟩,
  ⟨0x1f4bb, "0PERSONAL COMPUTER;0BRIEFCASE;0MINIDISC;0FLOPPY DISK;0OPTICAL DISC;0DVD;0FILE FOLDER"⟩,
  ⟨0x1f4c2, "0OPEN FILE FOLDER;0PAGE WITH CURL;1FACING UP;0CALENDAR;0TEAR-OFF CALENDAR"⟩,
  ⟨0x1f4c7, "0CARD INDEX;0CHART WITH UPWARDS TREND;2DOWNWARDS TREND;0BAR CHART;0CLIPBOARD"⟩,
  ⟨0x1f4cc, "0PUSHPIN;0ROUND PUSHPIN;0PAPERCLIP;0STRAIGHT RULER;0TRIANGULAR RULER;0BOOKMARK TABS"⟩,
  ⟨0x1f4d2, "0LEDGER;0NOTEBOOK;0NOTEBOOK WITH DECORATIVE COVER;0CLOSED BOOK;0OPEN BOOK"⟩,
  ⟨0x1f4d7, "0GREEN BOOK;0BLUE BOOK;0ORANGE BOOK;0BOOKS;0NAME BADGE;0SCROLL;0MEMO"⟩,
  ⟨0x1f4de, "0TELEPHONE RECEIVER;0PAGER;0FAX MACHINE;0SATELLITE ANTENNA"⟩,
  ⟨0x1f4e2, "0PUBLIC ADDRESS LOUDSPEAKER;0CHEERING MEGAPHONE;0OUTBOX TRAY;0INBOX TRAY;0PACKAGE"⟩,
  ⟨0x1f4e7, "0E-MAIL SYMBOL;0INCOMING ENVELOPE;0ENVELOPE WITH DOWNWARDS ARROW ABOVE"⟩,
  ⟨0x1f4ea, "0CLOSED MAILBOX WITH LOWERED FLAG;3RAISED FLAG;0OPEN MAILBOX WITH RAISED FLAG"⟩,
  ⟨0x1f4ed, "3LOWERED FLAG;0POSTBOX;0POSTAL HORN;0NEWSPAPER;0MOBILE PHONE"⟩,
  ⟨0x1f4f2, "1PHONE WITH RIGHTWARDS ARROW AT LEFT;0VIBRATION MODE;0MOBILE PHONE OFF"⟩,
  ⟨0x1f4f5, "0NO MOBILE PHONES;0ANTENNA WITH BARS;0CAMERA;0CAMERA WITH FLASH;0VIDEO CAMERA"⟩,
  ⟨0x1f4fa, "0TELEVISION;0RADIO;0VIDEOCASSETTE;0FILM PROJECTOR;0PORTABLE STEREO;0PRAYER BEADS"⟩,
  ⟨0x1f500, "0TWISTED RIGHTWARDS ARROWS;0CLOCKWISE RIGHTWARDS AND LEFTWARDS OPEN CIRCLE ARROWS"⟩,
  ⟨0x1f502, "6ARROWS WITH CIRCLED ONE OVERLAY;1DOWNWARDS AND UPWARDS OPEN CIRCLE ARROWS"⟩,
  ⟨0x1f504, "0ANTICLOCKWISE DOWNWARDS AND UPWARDS OPEN CIRCLE ARROWS;0LOW BRIGHTNESS SYMBOL"⟩,
  ⟨0x1f506, "0HIGH BRIGHTNESS SYMBOL;0SPEAKER WITH CANCELLATION STROKE;0SPEAKER"⟩,
  ⟨0x1f509, "0SPEAKER WITH ONE SOUND WAVE;2THREE SOUND WAVES;0BATTERY;0ELECTRIC PLUG"⟩,
  ⟨0x1f50d, "0LEFT-POINTING MAGNIFYING GLASS;0RIGHT-POINTING MAGNIFYING GLASS;0LOCK WITH INK PEN"⟩,
  ⟨0x1f510, "0CLOSED LOCK WITH KEY;0KEY;0LOCK;0OPEN LOCK;0BELL;0BELL WITH CANCELLATION STROKE"⟩,
  ⟨0x1f516, "0BOOKMARK;0LINK SYMBOL;0RADIO BUTTON;0BACK WITH LEFTWARDS ARROW ABOVE"⟩,
  ⟨0x1f51a, "0END WITH LEFTWARDS ARROW ABOVE"⟩,
  ⟨0x1f51b, "0ON WITH EXCLAMATION MARK WITH LEFT RIGHT ARROW ABOVE"⟩,
  ⟨0x1f51c, "0SOON WITH RIGHTWARDS ARROW ABOVE;0TOP WITH UPWARDS ARROW ABOVE"⟩,
  ⟨0x1f51e, "0NO ONE UNDER EIGHTEEN SYMBOL;0KEYCAP TEN;0INPUT SYMBOL FOR LATIN CAPITAL LETTERS"⟩,
  ⟨0x1f521, "4SMALL LETTERS;3NUMBERS;3SYMBOLS;3LATIN LETTERS;0FIRE;0ELECTRIC TORCH;0WRENCH"⟩,
  ⟨0x1f528, "0HAMMER;0NUT AND BOLT;0HOCHO;0PISTOL;0MICROSCOPE;0TELESCOPE;0CRYSTAL BALL"⟩,
  ⟨0x1f52f, "0SIX POINTED STAR WITH MIDDLE DOT;0JAPANESE SYMBOL FOR BEGINNER;0TRIDENT EMBLEM"⟩,
  ⟨0x1f532, "0BLACK SQUARE BUTTON;0WHITE SQUARE BUTTON;0LARGE RED CIRCLE;1BLUE CIRCLE"⟩,
  ⟨0x1f536, "1ORANGE DIAMOND;1BLUE DIAMOND;0SMALL ORANGE DIAMOND;1BLUE DIAMOND"⟩,
  ⟨0x1f53a, "0UP-POINTING RED TRIANGLE;0DOWN-POINTING RED TRIANGLE"⟩,
  ⟨0x1f53c, "0UP-POINTING SMALL RED TRIANGLE;0DOWN-POINTING SMALL RED TRIANGLE"⟩,
  ⟨0x1f53e, "0LOWER RIGHT SHADOWED WHITE CIRCLE;0UPPER RIGHT SHADOWED WHITE CIRCLE"⟩,
  ⟨0x1f540, "0CIRCLED CROSS POMMEE;0CROSS POMMEE WITH HALF-CIRCLE BELOW;1POMMEE"⟩,
  ⟨0x1f543, "0NOTCHED LEFT SEMICIRCLE WITH THREE DOTS;1RIGHT SEMICIRCLE WITH THREE DOTS"⟩,
  ⟨0x1f545, "0SYMBOL FOR MARKS CHAPTER;0WHITE LATIN CROSS;0HEAVY LATIN CROSS;0CELTIC CROSS"⟩,
  ⟨0x1f549, "0OM SYMBOL;0DOVE OF PEACE;0KAABA;0MOSQUE;0SYNAGOGUE;0MENORAH WITH NINE BRANCHES"⟩,
  ⟨0x1f54f, "0BOWL OF HYGIEIA;0CLOCK FACE ONE OCLOCK;2TWO OCLOCK;2THREE OCLOCK;2FOUR OCLOCK"⟩,
  ⟨0x1f554, "2FIVE OCLOCK;2SIX OCLOCK;2SEVEN OCLOCK;2EIGHT OCLOCK;2NINE OCLOCK;2TEN OCLOCK"⟩,
  ⟨0x1f55a, "2ELEVEN OCLOCK;2TWELVE OCLOCK;2ONE-THIRTY;2TWO-THIRTY;2THREE-THIRTY;2FOUR-THIRTY"⟩,
  ⟨0x1f560, "2FIVE-THIRTY;2SIX-THIRTY;2SEVEN-THIRTY;2EIGHT-THIRTY;2NINE-THIRTY;2TEN-THIRTY"⟩,
  ⟨0x1f566, "2ELEVEN-THIRTY;2TWELVE-THIRTY;0RIGHT SPEAKER;1SPEAKER WITH ONE SOUND WAVE"⟩,
  ⟨0x1f56a, "3THREE SOUND WAVES;0BULLHORN;0BULLHORN WITH SOUND WAVES;0RINGING BELL;0BOOK;0CANDLE"⟩,
  ⟨0x1f570, "0MANTELPIECE CLOCK;0BLACK SKULL AND CROSSBONES;0NO PIRACY;0HOLE"⟩,
  ⟨0x1f574, "0MAN IN BUSINESS SUIT LEVITATING;0SLEUTH OR SPY;0DARK SUNGLASSES;0SPIDER;0SPIDER WEB"⟩,
  ⟨0x1f579, "0JOYSTICK;0MAN DANCING;0LEFT HAND TELEPHONE RECEIVER;0TELEPHONE RECEIVER WITH PAGE"⟩,
  ⟨0x1f57d, "0RIGHT HAND TELEPHONE RECEIVER;0WHITE TOUCHTONE TELEPHONE;0BLACK TOUCHTONE TELEPHONE"⟩,
  ⟨0x1f580, "0TELEPHONE ON TOP OF MODEM;0CLAMSHELL MOBILE PHONE;0BACK OF ENVELOPE"⟩,
  ⟨0x1f583, "0STAMPED ENVELOPE;0ENVELOPE WITH LIGHTNING;0FLYING ENVELOPE"⟩,
  ⟨0x1f586, "0PEN OVER STAMPED ENVELOPE;0LINKED PAPERCLIPS;0BLACK PUSHPIN;0LOWER LEFT PENCIL"⟩,
  ⟨0x1f58a, "2BALLPOINT PEN;2FOUNTAIN PEN;2PAINTBRUSH;2CRAYON;0LEFT WRITING HAND"⟩,
  ⟨0x1f58f, "0TURNED OK HAND SIGN;0RAISED HAND WITH FINGERS SPLAYED"⟩,
  ⟨0x1f591, "0REVERSED RAISED HAND WITH FINGERS SPLAYED;1THUMBS UP SIGN;2DOWN SIGN;1VICTORY HAND"⟩,
  ⟨0x1f595, "1HAND WITH MIDDLE FINGER EXTENDED"⟩,
  ⟨0x1f596, "0RAISED HAND WITH PART BETWEEN MIDDLE AND RING FINGERS"⟩,
  ⟨0x1f597, "0WHITE DOWN POINTING LEFT HAND INDEX;0SIDEWAYS WHITE LEFT POINTING INDEX"⟩,
  ⟨0x1f599, "2RIGHT POINTING INDEX;1BLACK LEFT POINTING INDEX;2RIGHT POINTING INDEX"⟩,
  ⟨0x1f59c, "0BLACK LEFT POINTING BACKHAND INDEX;1RIGHT POINTING BACKHAND INDEX"⟩,
  ⟨0x1f59e, "0SIDEWAYS WHITE UP POINTING INDEX;2DOWN POINTING INDEX;1BLACK UP POINTING INDEX"⟩,
  ⟨0x1f5a1, "2DOWN POINTING INDEX;0BLACK UP POINTING BACKHAND INDEX;1DOWN POINTING BACKHAND INDEX"⟩,
  ⟨0x1f5a4, "1HEART;0DESKTOP COMPUTER;0KEYBOARD AND MOUSE;0THREE NETWORKED COMPUTERS;0PRINTER"⟩,
  ⟨0x1f5a9, "0POCKET CALCULATOR;0BLACK HARD SHELL FLOPPY DISK;0WHITE HARD SHELL FLOPPY DISK"⟩,
  ⟨0x1f5ac, "0SOFT SHELL FLOPPY DISK;0TAPE CARTRIDGE;0WIRED KEYBOARD;0ONE BUTTON MOUSE"⟩,
  ⟨0x1f5b0, "0TWO BUTTON MOUSE;0THREE BUTTON MOUSE;0TRACKBALL;0OLD PERSONAL COMPUTER;0HARD DISK"⟩,
  ⟨0x1f5b5, "0SCREEN;0PRINTER ICON;0FAX ICON;0OPTICAL DISC ICON;0DOCUMENT WITH TEXT"⟩,
  ⟨0x1f5ba, "2TEXT AND PICTURE;2PICTURE;0FRAME WITH PICTURE;2TILES;2AN X;0BLACK FOLDER;0FOLDER"⟩,
  ⟨0x1f5c1, "0OPEN FOLDER;0CARD INDEX DIVIDERS;1FILE BOX;0FILE CABINET;0EMPTY NOTE;1NOTE PAGE"⟩,
  ⟨0x1f5c7, "2PAD;0NOTE;0NOTE PAGE;1PAD;0EMPTY DOCUMENT;1PAGE;1PAGES;0DOCUMENT;0PAGE;0PAGES"⟩,
  ⟨0x1f5d1, "0WASTEBASKET;0SPIRAL NOTE PAD;1CALENDAR PAD;0DESKTOP WINDOW;0MINIMIZE;0MAXIMIZE"⟩,
  ⟨0x1f5d7, "0OVERLAP;0CLOCKWISE RIGHT AND LEFT SEMICIRCLE ARROWS;0CANCELLATION X"⟩,
  ⟨0x1f5da, "0INCREASE FONT SIZE SYMBOL;0DECREASE FONT SIZE SYMBOL;0COMPRESSION;0OLD KEY"⟩,
  ⟨0x1f5de, "0ROLLED-UP NEWSPAPER;0PAGE WITH CIRCLED TEXT;0STOCK CHART;0DAGGER KNIFE;0LIPS"⟩,
  ⟨0x1f5e3, "0SPEAKING HEAD IN SILHOUETTE;0THREE RAYS ABOVE;2BELOW;2LEFT;2RIGHT"⟩,
  ⟨0x1f5e8, "0LEFT SPEECH BUBBLE;0RIGHT SPEECH BUBBLE;0TWO SPEECH BUBBLES;0THREE SPEECH BUBBLES"⟩,
  ⟨0x1f5ec, "0LEFT THOUGHT BUBBLE;0RIGHT THOUGHT BUBBLE;0LEFT ANGER BUBBLE;0RIGHT ANGER BUBBLE"⟩,
  ⟨0x1f5f0, "0MOOD BUBBLE;0LIGHTNING MOOD BUBBLE;1MOOD;0BALLOT BOX WITH BALLOT;1SCRIPT X"⟩,
  ⟨0x1f5f5, "1BOX WITH SCRIPT X;1BOLD SCRIPT X;1BOX WITH BOLD SCRIPT X;0LIGHT CHECK MARK"⟩,
  ⟨0x1f5f9, "0BALLOT BOX WITH BOLD CHECK;0WORLD MAP;0MOUNT FUJI;0TOKYO TOWER;0STATUE OF LIBERTY"⟩,
  ⟨0x1f5fe, "0SILHOUETTE OF JAPAN;0MOYAI;0GRINNING FACE;1FACE WITH SMILING EYES"⟩,
  ⟨0x1f602, "0FACE WITH TEARS OF JOY;0SMILING FACE WITH OPEN MOUTH;4MOUTH AND SMILING EYES"⟩,
  ⟨0x1f605, "6COLD SWEAT;6TIGHTLY-CLOSED EYES;3HALO;3HORNS;0WINKING FACE"⟩,
  ⟨0x1f60a, "0SMILING FACE WITH SMILING EYES;0FACE SAVOURING DELICIOUS FOOD;0RELIEVED FACE"⟩,
  ⟨0x1f60d, "0SMILING FACE WITH HEART-SHAPED EYES;3SUNGLASSES;0SMIRKING FACE;0NEUTRAL FACE"⟩,
  ⟨0x1f611, "0EXPRESSIONLESS FACE;0UNAMUSED FACE;0FACE WITH COLD SWEAT;0PENSIVE FACE"⟩,
  ⟨0x1f615, "0CONFUSED FACE;0CONFOUNDED FACE;0KISSING FACE;0FACE THROWING A KISS"⟩,
  ⟨0x1f619, "0KISSING FACE WITH SMILING EYES;3CLOSED EYES;0FACE WITH STUCK-OUT TONGUE"⟩,
  ⟨0x1f61c, "4TONGUE AND WINKING EYE;6TIGHTLY-CLOSED EYES;0DISAPPOINTED FACE;0WORRIED FACE"⟩,
  ⟨0x1f620, "0ANGRY FACE;0POUTING FACE;0CRYING FACE;0PERSEVERING FACE;0FACE WITH LOOK OF TRIUMPH"⟩,
  ⟨0x1f625, "0DISAPPOINTED BUT RELIEVED FACE;0FROWNING FACE WITH OPEN MOUTH;0ANGUISHED FACE"⟩,
  ⟨0x1f628, "0FEARFUL FACE;0WEARY FACE;0SLEEPY FACE;0TIRED FACE;0GRIMACING FACE"⟩,
  ⟨0x1f62d, "0LOUDLY CRYING FACE;0FACE WITH OPEN MOUTH;0HUSHED FACE"⟩,
  ⟨0x1f630, "0FACE WITH OPEN MOUTH AND COLD SWEAT;1SCREAMING IN FEAR;0ASTONISHED FACE"⟩,
  ⟨0x1f633, "0FLUSHED FACE;0SLEEPING FACE;0DIZZY FACE;0FACE WITHOUT MOUTH;1WITH MEDICAL MASK"⟩,
  ⟨0x1f638, "0GRINNING CAT FACE WITH SMILING EYES;0CAT FACE WITH TEARS OF JOY"⟩,
  ⟨0x1f63a, "0SMILING CAT FACE WITH OPEN MOUTH;4HEART-SHAPED EYES;0CAT FACE WITH WRY SMILE"⟩,
  ⟨0x1f63d, "0KISSING CAT FACE WITH CLOSED EYES;0POUTING CAT FACE;0CRYING CAT FACE"⟩,
  ⟨0x1f640, "0WEARY CAT FACE;0SLIGHTLY FROWNING FACE;1SMILING FACE;0UPSIDE-DOWN FACE"⟩,
  ⟨0x1f644, "0FACE WITH ROLLING EYES;2NO GOOD GESTURE;2OK GESTURE;0PERSON BOWING DEEPLY"⟩,
  ⟨0x1f648, "0SEE-NO-EVIL MONKEY;0HEAR-NO-EVIL MONKEY;0SPEAK-NO-EVIL MONKEY"⟩,
  ⟨0x1f64b, "0HAPPY PERSON RAISING ONE HAND;0PERSON RAISING BOTH HANDS IN CELEBRATION;1FROWNING"⟩,
  ⟨0x1f64e, "1WITH POUTING FACE;2FOLDED HANDS;0NORTH WEST POINTING LEAF;0SOUTH WEST POINTING LEAF"⟩,
  ⟨0x1f652, "0NORTH EAST POINTING LEAF;0SOUTH EAST POINTING LEAF;0TURNED NORTH WEST POINTING LEAF"⟩,
  ⟨0x1f655, "1SOUTH WEST POINTING LEAF;1NORTH EAST POINTING LEAF;1SOUTH EAST POINTING LEAF"⟩,
  ⟨0x1f658, "0NORTH WEST POINTING VINE LEAF;0SOUTH WEST POINTING VINE LEAF"⟩,
  ⟨0x1f65a, "0NORTH EAST POINTING VINE LEAF;0SOUTH EAST POINTING VINE LEAF"⟩,
  ⟨0x1f65c, "0HEAVY NORTH WEST POINTING VINE LEAF;1SOUTH WEST POINTING VINE LEAF"⟩,
  ⟨0x1f65e, "1NORTH EAST POINTING VINE LEAF;1SOUTH EAST POINTING VINE LEAF"⟩,
  ⟨0x1f660, "0NORTH WEST POINTING BUD;0SOUTH WEST POINTING BUD;0NORTH EAST POINTING BUD"⟩,
  ⟨0x1f663, "0SOUTH EAST POINTING BUD;0HEAVY NORTH WEST POINTING BUD;1SOUTH WEST POINTING BUD"⟩,
  ⟨0x1f666, "1NORTH EAST POINTING BUD;1SOUTH EAST POINTING BUD;0HOLLOW QUILT SQUARE ORNAMENT"⟩,
  ⟨0x1f669, "3ORNAMENT IN BLACK SQUARE;0SOLID QUILT SQUARE ORNAMENT;3ORNAMENT IN BLACK SQUARE"⟩,
  ⟨0x1f66c, "0LEFTWARDS ROCKET;0UPWARDS ROCKET;0RIGHTWARDS ROCKET;0DOWNWARDS ROCKET"⟩,
  ⟨0x1f670, "0SCRIPT LIGATURE ET ORNAMENT;0HEAVY SCRIPT LIGATURE ET ORNAMENT"⟩,
  ⟨0x1f672, "0LIGATURE OPEN ET ORNAMENT;0HEAVY LIGATURE OPEN ET ORNAMENT;1AMPERSAND ORNAMENT"⟩,
  ⟨0x1f675, "0SWASH AMPERSAND ORNAMENT"⟩,
  ⟨0x1f676, "0SANS-SERIF HEAVY DOUBLE TURNED COMMA QUOTATION MARK ORNAMENT"⟩,
  ⟨0x1f677, "4COMMA QUOTATION MARK ORNAMENT;3LOW DOUBLE COMMA QUOTATION MARK ORNAMENT"⟩,
  ⟨0x1f679, "0HEAVY INTERROBANG ORNAMENT;0SANS-SERIF INTERROBANG ORNAMENT"⟩,
  ⟨0x1f67b, "0HEAVY SANS-SERIF INTERROBANG ORNAMENT;0VERY HEAVY SOLIDUS;2REVERSE SOLIDUS"⟩,
  ⟨0x1f67e, "0CHECKER BOARD;0REVERSE CHECKER BOARD;0ROCKET;0HELICOPTER;0STEAM LOCOMOTIVE"⟩,
  ⟨0x1f683, "0RAILWAY CAR;0HIGH-SPEED TRAIN;2TRAIN WITH BULLET NOSE;0TRAIN;0METRO;0LIGHT RAIL"⟩,
  ⟨0x1f689, "0STATION;0TRAM;0TRAM CAR;0BUS;0ONCOMING BUS;0TROLLEYBUS;0BUS STOP;0MINIBUS"⟩,
  ⟨0x1f691, "0AMBULANCE;0FIRE ENGINE;0POLICE CAR;0ONCOMING POLICE CAR;0TAXI;0ONCOMING TAXI"⟩,
  ⟨0x1f697, "0AUTOMOBILE;0ONCOMING AUTOMOBILE;0RECREATIONAL VEHICLE;0DELIVERY TRUCK"⟩,
  ⟨0x1f69b, "0ARTICULATED LORRY;0TRACTOR;0MONORAIL;0MOUNTAIN RAILWAY;0SUSPENSION RAILWAY"⟩,
  ⟨0x1f6a0, "0MOUNTAIN CABLEWAY;0AERIAL TRAMWAY;0SHIP;0ROWBOAT;0SPEEDBOAT"⟩,
  ⟨0x1f6a5, "0HORIZONTAL TRAFFIC LIGHT;0VERTICAL TRAFFIC LIGHT;0CONSTRUCTION SIGN"⟩,
  ⟨0x1f6a8, "0POLICE CARS REVOLVING LIGHT;0TRIANGULAR FLAG ON POST;0DOOR;0NO ENTRY SIGN"⟩,
  ⟨0x1f6ac, "0SMOKING SYMBOL;0NO SMOKING SYMBOL;0PUT LITTER IN ITS PLACE SYMBOL"⟩,
  ⟨0x1f6af, "0DO NOT LITTER SYMBOL;0POTABLE WATER SYMBOL;0NON-POTABLE WATER SYMBOL;0BICYCLE"⟩,
  ⟨0x1f6b3, "0NO BICYCLES;0BICYCLIST;0MOUNTAIN BICYCLIST;0PEDESTRIAN;0NO PEDESTRIANS"⟩,
  ⟨0x1f6b8, "0CHILDREN CROSSING;0MENS SYMBOL;0WOMENS SYMBOL;0RESTROOM;0BABY SYMBOL;0TOILET"⟩,
  ⟨0x1f6be, "0WATER CLOSET;0SHOWER;0BATH;0BATHTUB;0PASSPORT CONTROL;0CUSTOMS;0BAGGAGE CLAIM"⟩,
  ⟨0x1f6c5, "0LEFT LUGGAGE;0TRIANGLE WITH ROUNDED CORNERS;0PROHIBITED SIGN"⟩,
  ⟨0x1f6c8, "0CIRCLED INFORMATION SOURCE;0BOYS SYMBOL;0GIRLS SYMBOL;0COUCH AND LAMP"⟩,
  ⟨0x1f6cc, "0SLEEPING ACCOMMODATION;0SHOPPING BAGS;0BELLHOP BELL;0BED;0PLACE OF WORSHIP"⟩,
  ⟨0x1f6d1, "0OCTAGONAL SIGN;0SHOPPING TROLLEY;0STUPA;0PAGODA;0HINDU TEMPLE;0HUT;0ELEVATOR"⟩,
  ⟨0x1f6dd, "0PLAYGROUND SLIDE;0WHEEL;0RING BUOY;0HAMMER AND WRENCH;0SHIELD;0OIL DRUM;0MOTORWAY"⟩,
  ⟨0x1f6e4, "0RAILWAY TRACK;0MOTOR BOAT;0UP-POINTING MILITARY AIRPLANE;2AIRPLANE;2SMALL AIRPLANE"⟩,
  ⟨0x1f6e9, "0SMALL AIRPLANE;0NORTHEAST-POINTING AIRPLANE;0AIRPLANE DEPARTURE;1ARRIVING"⟩,
  ⟨0x1f6f0, "0SATELLITE;0ONCOMING FIRE ENGINE;0DIESEL LOCOMOTIVE;0PASSENGER SHIP;0SCOOTER"⟩,
  ⟨0x1f6f5, "0MOTOR SCOOTER;0CANOE;0SLED;0FLYING SAUCER;0SKATEBOARD;0AUTO RICKSHAW;0PICKUP TRUCK"⟩,
  ⟨0x1f6fc, "0ROLLER SKATE"⟩,
  ⟨0x1f700, "0ALCHEMICAL SYMBOL FOR QUINTESSENCE;3AIR;3FIRE;3EARTH;3WATER;3AQUAFORTIS;3AQUA REGIA"⟩,
  ⟨0x1f707, "4REGIA-2;4VITAE;4VITAE-2;3VINEGAR;3VINEGAR-2;43;3SULFUR;3PHILOSOPHERS SULFUR"⟩,
  ⟨0x1f70f, "3BLACK SULFUR;3MERCURY SUBLIMATE;4SUBLIMATE-2;53;3CINNABAR;3SALT;3NITRE;3VITRIOL"⟩,
  ⟨0x1f717, "3VITRIOL-2;3ROCK SALT;4SALT-2;3GOLD;3SILVER;3IRON ORE;4ORE-2;3CROCUS OF IRON"⟩,
  ⟨0x1f71f, "3REGULUS OF IRON;3COPPER ORE;3IRON-COPPER ORE;3SUBLIMATE OF COPPER;3CROCUS OF COPPER"⟩,
  ⟨0x1f724, "5COPPER-2;3COPPER ANTIMONIATE;3SALT OF COPPER ANTIMONIATE"⟩,
  ⟨0x1f727, "3SUBLIMATE OF SALT OF COPPER;3VERDIGRIS;3TIN ORE;3LEAD ORE;3ANTIMONY ORE"⟩,
  ⟨0x1f72c, "3SUBLIMATE OF ANTIMONY;3SALT OF ANTIMONY;3SUBLIMATE OF SALT OF ANTIMONY"⟩,
  ⟨0x1f72f, "3VINEGAR OF ANTIMONY;3REGULUS OF ANTIMONY;5ANTIMONY-2;3REGULUS;3REGULUS-2;43;44"⟩,
  ⟨0x1f736, "3ALKALI;3ALKALI-2;3MARCASITE;3SAL-AMMONIAC;3ARSENIC;3REALGAR;3REALGAR-2;3AURIPIGMENT"⟩,
  ⟨0x1f73e, "3BISMUTH ORE;3TARTAR;3TARTAR-2;3QUICK LIME;3BORAX;3BORAX-2;43;3ALUM;3OIL;3SPIRIT"⟩,
  ⟨0x1f748, "3TINCTURE;3GUM;3WAX;3POWDER;3CALX;3TUTTY;3CAPUT MORTUUM;3SCEPTER OF JOVE;3CADUCEUS"⟩,
  ⟨0x1f751, "3TRIDENT;3STARRED TRIDENT;3LODESTONE;3SOAP;3URINE;3HORSE DUNG;3ASHES;3POT ASHES"⟩,
  ⟨0x1f759, "3BRICK;3POWDERED BRICK;3AMALGAM;3STRATUM SUPER STRATUM;5STRATUM-2;3SUBLIMATION"⟩,
  ⟨0x1f75f, "3PRECIPITATE;3DISTILL;3DISSOLVE;3DISSOLVE-2;3PURIFY;3PUTREFACTION;3CRUCIBLE"⟩,
  ⟨0x1f766, "3CRUCIBLE-2;43;44;45;3ALEMBIC;3BATH OF MARY;5VAPOURS;3RETORT;3HOUR;3NIGHT;3DAY-NIGHT"⟩,
  ⟨0x1f771, "3MONTH;3HALF DRAM;4OUNCE"⟩,
  ⟨0x1f780, "0BLACK LEFT-POINTING ISOSCELES RIGHT TRIANGLE;1UP-POINTING ISOSCELES RIGHT TRIANGLE"⟩,
  ⟨0x1f782, "1RIGHT-POINTING ISOSCELES RIGHT TRIANGLE;1DOWN-POINTING ISOSCELES RIGHT TRIANGLE"⟩,
  ⟨0x1f784, "1SLIGHTLY SMALL CIRCLE;0MEDIUM BOLD WHITE CIRCLE;0BOLD WHITE CIRCLE"⟩,
  ⟨0x1f787, "0HEAVY WHITE CIRCLE;0VERY HEAVY WHITE CIRCLE;0EXTREMELY HEAVY WHITE CIRCLE"⟩,
  ⟨0x1f78a, "0WHITE CIRCLE CONTAINING BLACK SMALL CIRCLE;0ROUND TARGET;0BLACK TINY SQUARE"⟩,
  ⟨0x1f78d, "1SLIGHTLY SMALL SQUARE;0LIGHT WHITE SQUARE;0MEDIUM WHITE SQUARE;0BOLD WHITE SQUARE"⟩,
  ⟨0x1f791, "0HEAVY WHITE SQUARE;0VERY HEAVY WHITE SQUARE;0EXTREMELY HEAVY WHITE SQUARE"⟩,
  ⟨0x1f794, "0WHITE SQUARE CONTAINING BLACK VERY SMALL SQUARE;4MEDIUM SQUARE;0SQUARE TARGET"⟩,
  ⟨0x1f797, "0BLACK TINY DIAMOND;1VERY SMALL DIAMOND;1MEDIUM SMALL DIAMOND"⟩,
  ⟨0x1f79a, "0WHITE DIAMOND CONTAINING BLACK VERY SMALL DIAMOND;4MEDIUM DIAMOND;0DIAMOND TARGET"⟩,
  ⟨0x1f79d, "0BLACK TINY LOZENGE;1VERY SMALL LOZENGE;1MEDIUM SMALL LOZENGE"⟩,
  ⟨0x1f7a0, "0WHITE LOZENGE CONTAINING BLACK SMALL LOZENGE;0THIN GREEK CROSS;0LIGHT GREEK CROSS"⟩,
  ⟨0x1f7a3, "0MEDIUM GREEK CROSS;0BOLD GREEK CROSS;0VERY BOLD GREEK CROSS;1HEAVY GREEK CROSS"⟩,
  ⟨0x1f7a7, "0EXTREMELY HEAVY GREEK CROSS;0THIN SALTIRE;0LIGHT SALTIRE;0MEDIUM SALTIRE"⟩,
  ⟨0x1f7ab, "0BOLD SALTIRE;0HEAVY SALTIRE;0VERY HEAVY SALTIRE;0EXTREMELY HEAVY SALTIRE"⟩,
  ⟨0x1f7af, "0LIGHT FIVE SPOKED ASTERISK;0MEDIUM FIVE SPOKED ASTERISK;0BOLD FIVE SPOKED ASTERISK"⟩,
  ⟨0x1f7b2, "0HEAVY FIVE SPOKED ASTERISK;0VERY HEAVY FIVE SPOKED ASTERISK"⟩,
  ⟨0x1f7b4, "0EXTREMELY HEAVY FIVE SPOKED ASTERISK;0LIGHT SIX SPOKED ASTERISK"⟩,
  ⟨0x1f7b6, "0MEDIUM SIX SPOKED ASTERISK;0BOLD SIX SPOKED ASTERISK;0HEAVY SIX SPOKED ASTERISK"⟩,
  ⟨0x1f7b9, "0VERY HEAVY SIX SPOKED ASTERISK;0EXTREMELY HEAVY SIX SPOKED ASTERISK"⟩,
  ⟨0x1f7bb, "0LIGHT EIGHT SPOKED ASTERISK;0MEDIUM EIGHT SPOKED ASTERISK"⟩,
  ⟨0x1f7bd, "0BOLD EIGHT SPOKED ASTERISK;0HEAVY EIGHT SPOKED ASTERISK"⟩,
  ⟨0x1f7bf, "0VERY HEAVY EIGHT SPOKED ASTERISK;0LIGHT THREE POINTED BLACK STAR"⟩,
  ⟨0x1f7c1, "0MEDIUM THREE POINTED BLACK STAR;0THREE POINTED BLACK STAR"⟩,
  ⟨0x1f7c3, "0MEDIUM THREE POINTED PINWHEEL STAR;0LIGHT FOUR POINTED BLACK STAR"⟩,
  ⟨0x1f7c5, "0MEDIUM FOUR POINTED BLACK STAR;0FOUR POINTED BLACK STAR"⟩,
  ⟨0x1f7c7, "0MEDIUM FOUR POINTED PINWHEEL STAR;0REVERSE LIGHT FOUR POINTED PINWHEEL STAR"⟩,
  ⟨0x1f7c9, "0LIGHT FIVE POINTED BLACK STAR;0HEAVY FIVE POINTED BLACK STAR"⟩,
  ⟨0x1f7cb, "0MEDIUM SIX POINTED BLACK STAR;0HEAVY SIX POINTED BLACK STAR"⟩,
  ⟨0x1f7cd, "0SIX POINTED PINWHEEL STAR;0MEDIUM EIGHT POINTED BLACK STAR"⟩,
  ⟨0x1f7cf, "0HEAVY EIGHT POINTED BLACK STAR;0VERY HEAVY EIGHT POINTED BLACK STAR"⟩,
  ⟨0x1f7d1, "0HEAVY EIGHT POINTED PINWHEEL STAR;0LIGHT TWELVE POINTED BLACK STAR"⟩,
  ⟨0x1f7d3, "0HEAVY TWELVE POINTED BLACK STAR;3PINWHEEL STAR;0CIRCLED TRIANGLE"⟩,
  ⟨0x1f7d6, "0NEGATIVE CIRCLED TRIANGLE;0CIRCLED SQUARE;0NEGATIVE CIRCLED SQUARE"⟩,
  ⟨0x1f7e0, "0LARGE ORANGE CIRCLE;1YELLOW CIRCLE;1GREEN CIRCLE;1PURPLE CIRCLE;1BROWN CIRCLE"⟩,
  ⟨0x1f7e5, "1RED SQUARE;1BLUE SQUARE;1ORANGE SQUARE;1YELLOW SQUARE;1GREEN SQUARE;1PURPLE SQUARE"⟩,
  ⟨0x1f7eb, "1BROWN SQUARE"⟩,
  ⟨0x1f7f0, "0HEAVY EQUALS SIGN"⟩,
  ⟨0x1f800, "0LEFTWARDS ARROW WITH SMALL TRIANGLE ARROWHEAD"⟩,
  ⟨0x1f801, "0UPWARDS ARROW WITH SMALL TRIANGLE ARROWHEAD"⟩,
  ⟨0x1f802, "0RIGHTWARDS ARROW WITH SMALL TRIANGLE ARROWHEAD"⟩,
  ⟨0x1f803, "0DOWNWARDS ARROW WITH SMALL TRIANGLE ARROWHEAD"⟩,
  ⟨0x1f804, "0LEFTWARDS ARROW WITH MEDIUM TRIANGLE ARROWHEAD"⟩,
  ⟨0x1f805, "0UPWARDS ARROW WITH MEDIUM TRIANGLE ARROWHEAD"⟩,
  ⟨0x1f806, "0RIGHTWARDS ARROW WITH MEDIUM TRIANGLE ARROWHEAD"⟩,
  ⟨0x1f807, "0DOWNWARDS ARROW WITH MEDIUM TRIANGLE ARROWHEAD"⟩,
  ⟨0x1f808, "0LEFTWARDS ARROW WITH LARGE TRIANGLE ARROWHEAD"⟩,
  ⟨0x1f809, "0UPWARDS ARROW WITH LARGE TRIANGLE ARROWHEAD"⟩,
  ⟨0x1f80a, "0RIGHTWARDS ARROW WITH LARGE TRIANGLE ARROWHEAD"⟩,
  ⟨0x1f80b, "0DOWNWARDS ARROW WITH LARGE TRIANGLE ARROWHEAD"⟩,
  ⟨0x1f810, "0LEFTWARDS ARROW WITH SMALL EQUILATERAL ARROWHEAD"⟩,
  ⟨0x1f811, "0UPWARDS ARROW WITH SMALL EQUILATERAL ARROWHEAD"⟩,
  ⟨0x1f812, "0RIGHTWARDS ARROW WITH SMALL EQUILATERAL ARROWHEAD"⟩,
  ⟨0x1f813, "0DOWNWARDS ARROW WITH SMALL EQUILATERAL ARROWHEAD"⟩,
  ⟨0x1f814, "0LEFTWARDS ARROW WITH EQUILATERAL ARROWHEAD"⟩,
  ⟨0x1f815, "0UPWARDS ARROW WITH EQUILATERAL ARROWHEAD"⟩,
  ⟨0x1f816, "0RIGHTWARDS ARROW WITH EQUILATERAL ARROWHEAD"⟩,
  ⟨0x1f817, "0DOWNWARDS ARROW WITH EQUILATERAL ARROWHEAD"⟩,
  ⟨0x1f818, "0HEAVY LEFTWARDS ARROW WITH EQUILATERAL ARROWHEAD"⟩,
  ⟨0x1f819, "1UPWARDS ARROW WITH EQUILATERAL ARROWHEAD"⟩,
  ⟨0x1f81a, "1RIGHTWARDS ARROW WITH EQUILATERAL ARROWHEAD"⟩,
  ⟨0x1f81b, "1DOWNWARDS ARROW WITH EQUILATERAL ARROWHEAD"⟩,
  ⟨0x1f81c, "1LEFTWARDS ARROW WITH LARGE EQUILATERAL ARROWHEAD"⟩,
  ⟨0x1f81d, "1UPWARDS ARROW WITH LARGE EQUILATERAL ARROWHEAD"⟩,
  ⟨0x1f81e, "1RIGHTWARDS ARROW WITH LARGE EQUILATERAL ARROWHEAD"⟩,
  ⟨0x1f81f, "1DOWNWARDS ARROW WITH LARGE EQUILATERAL ARROWHEAD"⟩,
  ⟨0x1f820, "0LEFTWARDS TRIANGLE-HEADED ARROW WITH NARROW SHAFT"⟩,
  ⟨0x1f821, "0UPWARDS TRIANGLE-HEADED ARROW WITH NARROW SHAFT"⟩,
  ⟨0x1f822, "0RIGHTWARDS TRIANGLE-HEADED ARROW WITH NARROW SHAFT"⟩,
  ⟨0x1f823, "0DOWNWARDS TRIANGLE-HEADED ARROW WITH NARROW SHAFT"⟩,
  ⟨0x1f824, "0LEFTWARDS TRIANGLE-HEADED ARROW WITH MEDIUM SHAFT"⟩,
  ⟨0x1f825, "0UPWARDS TRIANGLE-HEADED ARROW WITH MEDIUM SHAFT"⟩,
  ⟨0x1f826, "0RIGHTWARDS TRIANGLE-HEADED ARROW WITH MEDIUM SHAFT"⟩,
  ⟨0x1f827, "0DOWNWARDS TRIANGLE-HEADED ARROW WITH MEDIUM SHAFT"⟩,
  ⟨0x1f828, "0LEFTWARDS TRIANGLE-HEADED ARROW WITH BOLD SHAFT"⟩,
  ⟨0x1f829, "0UPWARDS TRIANGLE-HEADED ARROW WITH BOLD SHAFT"⟩,
  ⟨0x1f82a, "0RIGHTWARDS TRIANGLE-HEADED ARROW WITH BOLD SHAFT"⟩,
  ⟨0x1f82b, "0DOWNWARDS TRIANGLE-HEADED ARROW WITH BOLD SHAFT"⟩,
  ⟨0x1f82c, "0LEFTWARDS TRIANGLE-HEADED ARROW WITH HEAVY SHAFT"⟩,
  ⟨0x1f82d, "0UPWARDS TRIANGLE-HEADED ARROW WITH HEAVY SHAFT"⟩,
  ⟨0x1f82e, "0RIGHTWARDS TRIANGLE-HEADED ARROW WITH HEAVY SHAFT"⟩,
  ⟨0x1f82f, "0DOWNWARDS TRIANGLE-HEADED ARROW WITH HEAVY SHAFT"⟩,
  ⟨0x1f830, "0LEFTWARDS TRIANGLE-HEADED ARROW WITH VERY HEAVY SHAFT"⟩,
  ⟨0x1f831, "0UPWARDS TRIANGLE-HEADED ARROW WITH VERY HEAVY SHAFT"⟩,
  ⟨0x1f832, "0RIGHTWARDS TRIANGLE-HEADED ARROW WITH VERY HEAVY SHAFT"⟩,
  ⟨0x1f833, "0DOWNWARDS TRIANGLE-HEADED ARROW WITH VERY HEAVY SHAFT;0LEFTWARDS FINGER-POST ARROW"⟩,
  ⟨0x1f835, "0UPWARDS FINGER-POST ARROW;0RIGHTWARDS FINGER-POST ARROW"⟩,
  ⟨0x1f837, "0DOWNWARDS FINGER-POST ARROW;0LEFTWARDS SQUARED ARROW;0UPWARDS SQUARED ARROW"⟩,
  ⟨0x1f83a, "0RIGHTWARDS SQUARED ARROW;0DOWNWARDS SQUARED ARROW;0LEFTWARDS COMPRESSED ARROW"⟩,
  ⟨0x1f83d, "0UPWARDS COMPRESSED ARROW;0RIGHTWARDS COMPRESSED ARROW;0DOWNWARDS COMPRESSED ARROW"⟩,
  ⟨0x1f840, "0LEFTWARDS HEAVY COMPRESSED ARROW;0UPWARDS HEAVY COMPRESSED ARROW"⟩,
  ⟨0x1f842, "0RIGHTWARDS HEAVY COMPRESSED ARROW;0DOWNWARDS HEAVY COMPRESSED ARROW"⟩,
  ⟨0x1f844, "0LEFTWARDS HEAVY ARROW;0UPWARDS HEAVY ARROW;0RIGHTWARDS HEAVY ARROW"⟩,
  ⟨0x1f847, "0DOWNWARDS HEAVY ARROW"⟩,
  ⟨0x1f850, "0LEFTWARDS SANS-SERIF ARROW;0UPWARDS SANS-SERIF ARROW;0RIGHTWARDS SANS-SERIF ARROW"⟩,
  ⟨0x1f853, "0DOWNWARDS SANS-SERIF ARROW;0NORTH WEST SANS-SERIF ARROW;1EAST SANS-SERIF ARROW"⟩,
  ⟨0x1f856, "0SOUTH EAST SANS-SERIF ARROW;1WEST SANS-SERIF ARROW;0LEFT RIGHT SANS-SERIF ARROW"⟩,
  ⟨0x1f859, "0UP DOWN SANS-SERIF ARROW"⟩,
  ⟨0x1f860, "0WIDE-HEADED LEFTWARDS LIGHT BARB ARROW;2UPWARDS LIGHT BARB ARROW"⟩,
  ⟨0x1f862, "2RIGHTWARDS LIGHT BARB ARROW;2DOWNWARDS LIGHT BARB ARROW"⟩,
  ⟨0x1f864, "2NORTH WEST LIGHT BARB ARROW;3EAST LIGHT BARB ARROW;2SOUTH EAST LIGHT BARB ARROW"⟩,
  ⟨0x1f867, "3WEST LIGHT BARB ARROW;2LEFTWARDS BARB ARROW;2UPWARDS BARB ARROW"⟩,
  ⟨0x1f86a, "2RIGHTWARDS BARB ARROW;2DOWNWARDS BARB ARROW;2NORTH WEST BARB ARROW;3EAST BARB ARROW"⟩,
  ⟨0x1f86e, "2SOUTH EAST BARB ARROW;3WEST BARB ARROW;2LEFTWARDS MEDIUM BARB ARROW"⟩,
  ⟨0x1f871, "2UPWARDS MEDIUM BARB ARROW;2RIGHTWARDS MEDIUM BARB ARROW"⟩,
  ⟨0x1f873, "2DOWNWARDS MEDIUM BARB ARROW;2NORTH WEST MEDIUM BARB ARROW;3EAST MEDIUM BARB ARROW"⟩,
  ⟨0x1f876, "2SOUTH EAST MEDIUM BARB ARROW;3WEST MEDIUM BARB ARROW;2LEFTWARDS HEAVY BARB ARROW"⟩,
  ⟨0x1f879, "2UPWARDS HEAVY BARB ARROW;2RIGHTWARDS HEAVY BARB ARROW;2DOWNWARDS HEAVY BARB ARROW"⟩,
  ⟨0x1f87c, "2NORTH WEST HEAVY BARB ARROW;3EAST HEAVY BARB ARROW;2SOUTH EAST HEAVY BARB ARROW"⟩,
  ⟨0x1f87f, "3WEST HEAVY BARB ARROW;2LEFTWARDS VERY HEAVY BARB ARROW"⟩,
  ⟨0x1f881, "2UPWARDS VERY HEAVY BARB ARROW;2RIGHTWARDS VERY HEAVY BARB ARROW"⟩,
  ⟨0x1f883, "2DOWNWARDS VERY HEAVY BARB ARROW;2NORTH WEST VERY HEAVY BARB ARROW"⟩,
  ⟨0x1f885, "3EAST VERY HEAVY BARB ARROW;2SOUTH EAST VERY HEAVY BARB ARROW"⟩,
  ⟨0x1f887, "3WEST VERY HEAVY BARB ARROW"⟩,
  ⟨0x1f890, "0LEFTWARDS TRIANGLE ARROWHEAD;0UPWARDS TRIANGLE ARROWHEAD"⟩,
  ⟨0x1f892, "0RIGHTWARDS TRIANGLE ARROWHEAD;0DOWNWARDS TRIANGLE ARROWHEAD"⟩,
  ⟨0x1f894, "0LEFTWARDS WHITE ARROW WITHIN TRIANGLE ARROWHEAD"⟩,
  ⟨0x1f895, "0UPWARDS WHITE ARROW WITHIN TRIANGLE ARROWHEAD"⟩,
  ⟨0x1f896, "0RIGHTWARDS WHITE ARROW WITHIN TRIANGLE ARROWHEAD"⟩,
  ⟨0x1f897, "0DOWNWARDS WHITE ARROW WITHIN TRIANGLE ARROWHEAD;0LEFTWARDS ARROW WITH NOTCHED TAIL"⟩,
  ⟨0x1f899, "0UPWARDS ARROW WITH NOTCHED TAIL;0RIGHTWARDS ARROW WITH NOTCHED TAIL"⟩,
  ⟨0x1f89b, "0DOWNWARDS ARROW WITH NOTCHED TAIL;0HEAVY ARROW SHAFT WIDTH ONE;4TWO THIRDS"⟩,
  ⟨0x1f89e, "4ONE HALF;5THIRD;0LEFTWARDS BOTTOM-SHADED WHITE ARROW"⟩,
  ⟨0x1f8a1, "0RIGHTWARDS BOTTOM SHADED WHITE ARROW;0LEFTWARDS TOP SHADED WHITE ARROW"⟩,
  ⟨0x1f8a3, "0RIGHTWARDS TOP SHADED WHITE ARROW;0LEFTWARDS LEFT-SHADED WHITE ARROW"⟩,
  ⟨0x1f8a5, "0RIGHTWARDS RIGHT-SHADED WHITE ARROW;0LEFTWARDS RIGHT-SHADED WHITE ARROW"⟩,
  ⟨0x1f8a7, "0RIGHTWARDS LEFT-SHADED WHITE ARROW;0LEFTWARDS BACK-TILTED SHADOWED WHITE ARROW"⟩,
  ⟨0x1f8a9, "0RIGHTWARDS BACK-TILTED SHADOWED WHITE ARROW"⟩,
  ⟨0x1f8aa, "0LEFTWARDS FRONT-TILTED SHADOWED WHITE ARROW"⟩,
  ⟨0x1f8ab, "0RIGHTWARDS FRONT-TILTED SHADOWED WHITE ARROW;0WHITE ARROW SHAFT WIDTH ONE"⟩,
  ⟨0x1f8ad, "4TWO THIRDS"⟩,
  ⟨0x1f8b0, "0ARROW POINTING UPWARDS THEN NORTH WEST;2RIGHTWARDS THEN CURVING SOUTH WEST"⟩,
  ⟨0x1f900, "0CIRCLED CROSS FORMEE WITH FOUR DOTS;4TWO DOTS;2FORMEE"⟩,
  ⟨0x1f903, "0LEFT HALF CIRCLE WITH FOUR DOTS;4THREE DOTS;4TWO DOTS;4DOT;2CIRCLE"⟩,
  ⟨0x1f908, "0DOWNWARD FACING HOOK;2NOTCHED HOOK;2HOOK WITH DOT;2NOTCHED HOOK WITH DOT"⟩,
  ⟨0x1f90c, "0PINCHED FINGERS;0WHITE HEART;0BROWN HEART;0PINCHING HAND;0ZIPPER-MOUTH FACE"⟩,
  ⟨0x1f911, "0MONEY-MOUTH FACE;0FACE WITH THERMOMETER;0NERD FACE;0THINKING FACE"⟩,
  ⟨0x1f915, "0FACE WITH HEAD-BANDAGE;0ROBOT FACE;0HUGGING FACE;0SIGN OF THE HORNS;0CALL ME HAND"⟩,
  ⟨0x1f91a, "0RAISED BACK OF HAND;0LEFT-FACING FIST;0RIGHT-FACING FIST;0HANDSHAKE"⟩,
  ⟨0x1f91e, "0HAND WITH INDEX AND MIDDLE FINGERS CROSSED;0I LOVE YOU HAND SIGN"⟩,
  ⟨0x1f920, "0FACE WITH COWBOY HAT;0CLOWN FACE;0NAUSEATED FACE;0ROLLING ON THE FLOOR LAUGHING"⟩,
  ⟨0x1f924, "0DROOLING FACE;0LYING FACE;0FACE PALM;0SNEEZING FACE;0FACE WITH ONE EYEBROW RAISED"⟩,
  ⟨0x1f929, "0GRINNING FACE WITH STAR EYES;3ONE LARGE AND ONE SMALL EYE"⟩,
  ⟨0x1f92b, "0FACE WITH FINGER COVERING CLOSED LIPS;0SERIOUS FACE WITH SYMBOLS COVERING MOUTH"⟩,
  ⟨0x1f92d, "0SMILING FACE WITH SMILING EYES AND HAND COVERING MOUTH"⟩,
  ⟨0x1f92e, "0FACE WITH OPEN MOUTH VOMITING;0SHOCKED FACE WITH EXPLODING HEAD;0PREGNANT WOMAN"⟩,
  ⟨0x1f931, "0BREAST-FEEDING;0PALMS UP TOGETHER;0SELFIE;0PRINCE;0MAN IN TUXEDO;0MOTHER CHRISTMAS"⟩,
  ⟨0x1f937, "0SHRUG;0PERSON DOING CARTWHEEL;0JUGGLING;0FENCER;0MODERN PENTATHLON;0WRESTLERS"⟩,
  ⟨0x1f93d, "0WATER POLO;0HANDBALL;0DIVING MASK;0WILTED FLOWER;0DRUM WITH DRUMSTICKS"⟩,
  ⟨0x1f942, "0CLINKING GLASSES;0TUMBLER GLASS;0SPOON;0GOAL NET;0RIFLE;0FIRST PLACE MEDAL"⟩,
  ⟨0x1f948, "0SECOND PLACE MEDAL;0THIRD PLACE MEDAL;0BOXING GLOVE;0MARTIAL ARTS UNIFORM"⟩,
  ⟨0x1f94c, "0CURLING STONE;0LACROSSE STICK AND BALL;0SOFTBALL;0FLYING DISC;0CROISSANT;0AVOCADO"⟩,
  ⟨0x1f952, "0CUCUMBER;0BACON;0POTATO;0CARROT;0BAGUETTE BREAD;0GREEN SALAD;0SHALLOW PAN OF FOOD"⟩,
  ⟨0x1f959, "0STUFFED FLATBREAD;0EGG;0GLASS OF MILK;0PEANUTS;0KIWIFRUIT;0PANCAKES;0DUMPLING"⟩,
  ⟨0x1f960, "0FORTUNE COOKIE;0TAKEOUT BOX;0CHOPSTICKS;0BOWL WITH SPOON;0CUP WITH STRAW;0COCONUT"⟩,
  ⟨0x1f966, "0BROCCOLI;0PIE;0PRETZEL;0CUT OF MEAT;0SANDWICH;0CANNED FOOD;0LEAFY GREEN;0MANGO"⟩,
  ⟨0x1f96e, "0MOON CAKE;0BAGEL;0SMILING FACE WITH SMILING EYES AND THREE HEARTS;0YAWNING FACE"⟩,
  ⟨0x1f972, "0SMILING FACE WITH TEAR;0FACE WITH PARTY HORN AND PARTY HAT"⟩,
  ⟨0x1f974, "2UNEVEN EYES AND WAVY MOUTH;0OVERHEATED FACE;0FREEZING FACE;0NINJA;0DISGUISED FACE"⟩,
  ⟨0x1f979, "0FACE HOLDING BACK TEARS;1WITH PLEADING EYES;0SARI;0LAB COAT;0GOGGLES;0HIKING BOOT"⟩,
  ⟨0x1f97f, "0FLAT SHOE;0CRAB;0LION FACE;0SCORPION;0TURKEY;0UNICORN FACE;0EAGLE;0DUCK;0BAT;0SHARK"⟩,
  ⟨0x1f989, "0OWL;0FOX FACE;0BUTTERFLY;0DEER;0GORILLA;0LIZARD;0RHINOCEROS;0SHRIMP;0SQUID"⟩,
  ⟨0x1f992, "0GIRAFFE FACE;0ZEBRA FACE;0HEDGEHOG;0SAUROPOD;0T-REX;0CRICKET;0KANGAROO;0LLAMA"⟩,
  ⟨0x1f99a, "0PEACOCK;0HIPPOPOTAMUS;0PARROT;0RACCOON;0LOBSTER;0MOSQUITO;0MICROBE;0BADGER;0SWAN"⟩,
  ⟨0x1f9a3, "0MAMMOTH;0DODO;0SLOTH;0OTTER;0ORANGUTAN;0SKUNK;0FLAMINGO;0OYSTER;0BEAVER;0BISON"⟩,
  ⟨0x1f9ad, "0SEAL;0GUIDE DOG;0PROBING CANE;0EMOJI COMPONENT RED HAIR;2CURLY HAIR;2BALD"⟩,
  ⟨0x1f9b3, "2WHITE HAIR;0BONE;0LEG;0FOOT;0TOOTH;0SUPERHERO;0SUPERVILLAIN;0SAFETY VEST"⟩,
  ⟨0x1f9bb, "0EAR WITH HEARING AID;0MOTORIZED WHEELCHAIR;0MANUAL WHEELCHAIR;0MECHANICAL ARM;1LEG"⟩,
  ⟨0x1f9c0, "0CHEESE WEDGE;0CUPCAKE;0SALT SHAKER;0BEVERAGE BOX;0GARLIC;0ONION;0FALAFEL;0WAFFLE"⟩,
  ⟨0x1f9c8, "0BUTTER;0MATE DRINK;0ICE CUBE;0BUBBLE TEA;0TROLL;0STANDING PERSON;0KNEELING PERSON"⟩,
  ⟨0x1f9cf, "0DEAF PERSON;0FACE WITH MONOCLE;0ADULT;0CHILD;0OLDER ADULT;0BEARDED PERSON"⟩,
  ⟨0x1f9d5, "0PERSON WITH HEADSCARF;1IN STEAMY ROOM;1CLIMBING;1IN LOTUS POSITION;0MAGE;0FAIRY"⟩,
  ⟨0x1f9db, "0VAMPIRE;0MERPERSON;0ELF;0GENIE;0ZOMBIE;0BRAIN;0ORANGE HEART;0BILLED CAP;0SCARF"⟩,
  ⟨0x1f9e4, "0GLOVES;0COAT;0SOCKS;0RED GIFT ENVELOPE;0FIRECRACKER;0JIGSAW PUZZLE PIECE;0TEST TUBE"⟩,
  ⟨0x1f9eb, "0PETRI DISH;0DNA DOUBLE HELIX;0COMPASS;0ABACUS;0FIRE EXTINGUISHER;0TOOLBOX;0BRICK"⟩,
  ⟨0x1f9f2, "0MAGNET;0LUGGAGE;0LOTION BOTTLE;0SPOOL OF THREAD;0BALL OF YARN;0SAFETY PIN"⟩,
  ⟨0x1f9f8, "0TEDDY BEAR;0BROOM;0BASKET;0ROLL OF PAPER;0BAR OF SOAP;0SPONGE;0RECEIPT"⟩,
  ⟨0x1f9ff, "0NAZAR AMULET;0NEUTRAL CHESS KING;2QUEEN;2ROOK;2BISHOP;2KNIGHT;2PAWN"⟩,
  ⟨0x1fa06, "0WHITE CHESS KNIGHT ROTATED FORTY-FIVE DEGREES"⟩,
  ⟨0x1fa07, "0BLACK CHESS KNIGHT ROTATED FORTY-FIVE DEGREES"⟩,
  ⟨0x1fa08, "0NEUTRAL CHESS KNIGHT ROTATED FORTY-FIVE DEGREES"⟩,
  ⟨0x1fa09, "0WHITE CHESS KING ROTATED NINETY DEGREES;2QUEEN ROTATED NINETY DEGREES"⟩,
  ⟨0x1fa0b, "2ROOK ROTATED NINETY DEGREES;2BISHOP ROTATED NINETY DEGREES"⟩,
  ⟨0x1fa0d, "2KNIGHT ROTATED NINETY DEGREES;2PAWN ROTATED NINETY DEGREES"⟩,
  ⟨0x1fa0f, "0BLACK CHESS KING ROTATED NINETY DEGREES;2QUEEN ROTATED NINETY DEGREES"⟩,
  ⟨0x1fa11, "2ROOK ROTATED NINETY DEGREES;2BISHOP ROTATED NINETY DEGREES"⟩,
  ⟨0x1fa13, "2KNIGHT ROTATED NINETY DEGREES;2PAWN ROTATED NINETY DEGREES"⟩,
  ⟨0x1fa15, "0NEUTRAL CHESS KING ROTATED NINETY DEGREES;2QUEEN ROTATED NINETY DEGREES"⟩,
  ⟨0x1fa17, "2ROOK ROTATED NINETY DEGREES;2BISHOP ROTATED NINETY DEGREES"⟩,
  ⟨0x1fa19, "2KNIGHT ROTATED NINETY DEGREES;2PAWN ROTATED NINETY DEGREES"⟩,
  ⟨0x1fa1b, "0WHITE CHESS KNIGHT ROTATED ONE HUNDRED THIRTY-FIVE DEGREES"⟩,
  ⟨0x1fa1c, "0BLACK CHESS KNIGHT ROTATED ONE HUNDRED THIRTY-FIVE DEGREES"⟩,
  ⟨0x1fa1d, "0NEUTRAL CHESS KNIGHT ROTATED ONE HUNDRED THIRTY-FIVE DEGREES"⟩,
  ⟨0x1fa1e, "0WHITE CHESS TURNED KING;3QUEEN;3ROOK;3BISHOP;3KNIGHT;3PAWN;0BLACK CHESS TURNED KING"⟩,
  ⟨0x1fa25, "3QUEEN;3ROOK;3BISHOP;3KNIGHT;3PAWN;0NEUTRAL CHESS TURNED KING;3QUEEN;3ROOK;3BISHOP"⟩,
  ⟨0x1fa2e, "3KNIGHT;3PAWN;0WHITE CHESS KNIGHT ROTATED TWO HUNDRED TWENTY-FIVE DEGREES"⟩,
  ⟨0x1fa31, "0BLACK CHESS KNIGHT ROTATED TWO HUNDRED TWENTY-FIVE DEGREES"⟩,
  ⟨0x1fa32, "0NEUTRAL CHESS KNIGHT ROTATED TWO HUNDRED TWENTY-FIVE DEGREES"⟩,
  ⟨0x1fa33, "0WHITE CHESS KING ROTATED TWO HUNDRED SEVENTY DEGREES"⟩,
  ⟨0x1fa34, "2QUEEN ROTATED TWO HUNDRED SEVENTY DEGREES;2ROOK ROTATED TWO HUNDRED SEVENTY DEGREES"⟩,
  ⟨0x1fa36, "2BISHOP ROTATED TWO HUNDRED SEVENTY DEGREES"⟩,
  ⟨0x1fa37, "2KNIGHT ROTATED TWO HUNDRED SEVENTY DEGREES"⟩,
  ⟨0x1fa38, "2PAWN ROTATED TWO HUNDRED SEVENTY DEGREES"⟩,
  ⟨0x1fa39, "0BLACK CHESS KING ROTATED TWO HUNDRED SEVENTY DEGREES"⟩,
  ⟨0x1fa3a, "2QUEEN ROTATED TWO HUNDRED SEVENTY DEGREES;2ROOK ROTATED TWO HUNDRED SEVENTY DEGREES"⟩,
  ⟨0x1fa3c, "2BISHOP ROTATED TWO HUNDRED SEVENTY DEGREES"⟩,
  ⟨0x1fa3d, "2KNIGHT ROTATED TWO HUNDRED SEVENTY DEGREES"⟩,
  ⟨0x1fa3e, "2PAWN ROTATED TWO HUNDRED SEVENTY DEGREES"⟩,
  ⟨0x1fa3f, "0NEUTRAL CHESS KING ROTATED TWO HUNDRED SEVENTY DEGREES"⟩,
  ⟨0x1fa40, "2QUEEN ROTATED TWO HUNDRED SEVENTY DEGREES;2ROOK ROTATED TWO HUNDRED SEVENTY DEGREES"⟩,
  ⟨0x1fa42, "2BISHOP ROTATED TWO HUNDRED SEVENTY DEGREES"⟩,
  ⟨0x1fa43, "2KNIGHT ROTATED TWO HUNDRED SEVENTY DEGREES"⟩,
  ⟨0x1fa44, "2PAWN ROTATED TWO HUNDRED SEVENTY DEGREES"⟩,
  ⟨0x1fa45, "0WHITE CHESS KNIGHT ROTATED THREE HUNDRED FIFTEEN DEGREES"⟩,
  ⟨0x1fa46, "0BLACK CHESS KNIGHT ROTATED THREE HUNDRED FIFTEEN DEGREES"⟩,
  ⟨0x1fa47, "0NEUTRAL CHESS KNIGHT ROTATED THREE HUNDRED FIFTEEN DEGREES;0WHITE CHESS EQUIHOPPER"⟩,
  ⟨0x1fa49, "0BLACK CHESS EQUIHOPPER;0NEUTRAL CHESS EQUIHOPPER"⟩,
  ⟨0x1fa4b, "0WHITE CHESS EQUIHOPPER ROTATED NINETY DEGREES"⟩,
  ⟨0x1fa4c, "0BLACK CHESS EQUIHOPPER ROTATED NINETY DEGREES"⟩,
  ⟨0x1fa4d, "0NEUTRAL CHESS EQUIHOPPER ROTATED NINETY DEGREES;0WHITE CHESS KNIGHT-QUEEN;3ROOK"⟩,
  ⟨0x1fa50, "3BISHOP;0BLACK CHESS KNIGHT-QUEEN;3ROOK;3BISHOP"⟩,
  ⟨0x1fa60, "0XIANGQI RED GENERAL;2MANDARIN;2ELEPHANT;2HORSE;2CHARIOT;2CANNON;2SOLDIER"⟩,
  ⟨0x1fa67, "1BLACK GENERAL;2MANDARIN;2ELEPHANT;2HORSE;2CHARIOT;2CANNON;2SOLDIER"⟩,
  ⟨0x1fa70, "0BALLET SHOES;0ONE-PIECE SWIMSUIT;0BRIEFS;0SHORTS;0THONG SANDAL"⟩,
  ⟨0x1fa78, "0DROP OF BLOOD;0ADHESIVE BANDAGE;0STETHOSCOPE;0X-RAY;0CRUTCH"⟩,
  ⟨0x1fa80, "0YO-YO;0KITE;0PARACHUTE;0BOOMERANG;0MAGIC WAND;0PINATA;0NESTING DOLLS"⟩,
  ⟨0x1fa90, "0RINGED PLANET;0CHAIR;0RAZOR;0AXE;0DIYA LAMP;0BANJO;0MILITARY HELMET;0ACCORDION"⟩,
  ⟨0x1fa98, "0LONG DRUM;0COIN;0CARPENTRY SAW;0SCREWDRIVER;0LADDER;0HOOK;0MIRROR;0WINDOW;0PLUNGER"⟩,
  ⟨0x1faa1, "0SEWING NEEDLE;0KNOT;0BUCKET;0MOUSE TRAP;0TOOTHBRUSH;0HEADSTONE;0PLACARD;0ROCK"⟩,
  ⟨0x1faa9, "0MIRROR BALL;0IDENTIFICATION CARD;0LOW BATTERY;0HAMSA"⟩,
  ⟨0x1fab0, "0FLY;0WORM;0BEETLE;0COCKROACH;0POTTED PLANT;0WOOD;0FEATHER;0LOTUS;0CORAL;0EMPTY NEST"⟩,
  ⟨0x1faba, "0NEST WITH EGGS"⟩,
  ⟨0x1fac0, "0ANATOMICAL HEART;0LUNGS;0PEOPLE HUGGING;0PREGNANT MAN;1PERSON;0PERSON WITH CROWN"⟩,
  ⟨0x1fad0, "0BLUEBERRIES;0BELL PEPPER;0OLIVE;0FLATBREAD;0TAMALE;0FONDUE;0TEAPOT;0POURING LIQUID"⟩,
  ⟨0x1fad8, "0BEANS;0JAR"⟩,
  ⟨0x1fae0, "0MELTING FACE;0SALUTING FACE;0FACE WITH OPEN EYES AND HAND OVER MOUTH;2PEEKING EYE"⟩,
  ⟨0x1fae4, "2DIAGONAL MOUTH;0DOTTED LINE FACE;0BITING LIP;0BUBBLES"⟩,
  ⟨0x1faf0, "0HAND WITH INDEX FINGER AND THUMB CROSSED;0RIGHTWARDS HAND;0LEFTWARDS HAND"⟩,
  ⟨0x1faf3, "0PALM DOWN HAND;1UP HAND;0INDEX POINTING AT THE VIEWER;0HEART HANDS"⟩,
  ⟨0x1fb00, "0BLOCK SEXTANT-1;22;212;23;213;223;2123;24;214;224;2124;234;2134;2234;21234;25;215"⟩,
  ⟨0x1fb11, "225;2125;235;2235;21235;245;2145;2245;21245;2345;21345;22345;212345;26;216;226;2126"⟩,
  ⟨0x1fb22, "236;2136;2236;21236;246;2146;21246;2346;21346;22346;212346;256;2156;2256;21256;2356"⟩,
  ⟨0x1fb32, "21356;22356;212356;2456;21456;22456;212456;23456;213456;223456"⟩,
  ⟨0x1fb3c, "0LOWER LEFT BLOCK DIAGONAL LOWER MIDDLE LEFT TO LOWER CENTRE;9RIGHT"⟩,
  ⟨0x1fb3e, "4UPPER MIDDLE LEFT TO LOWER CENTRE;9RIGHT;5LEFT TO LOWER CENTRE"⟩,
  ⟨0x1fb41, "1RIGHT BLOCK DIAGONAL UPPER MIDDLE LEFT TO UPPER CENTRE;9RIGHT"⟩,
  ⟨0x1fb43, "4LOWER MIDDLE LEFT TO UPPER CENTRE;9RIGHT;5LEFT TO UPPER CENTRE"⟩,
  ⟨0x1fb46, "5MIDDLE LEFT TO UPPER MIDDLE RIGHT;5CENTRE TO LOWER MIDDLE RIGHT"⟩,
  ⟨0x1fb48, "5LEFT TO LOWER MIDDLE RIGHT;5CENTRE TO UPPER MIDDLE RIGHT"⟩,
  ⟨0x1fb4a, "5LEFT TO UPPER MIDDLE RIGHT;5CENTRE TO UPPER RIGHT"⟩,
  ⟨0x1fb4c, "1LEFT BLOCK DIAGONAL UPPER CENTRE TO UPPER MIDDLE RIGHT;5LEFT TO UPPER MIDDLE RIGHT"⟩,
  ⟨0x1fb4e, "5CENTRE TO LOWER MIDDLE RIGHT;5LEFT TO LOWER MIDDLE RIGHT;5CENTRE TO LOWER RIGHT"⟩,
  ⟨0x1fb51, "5MIDDLE LEFT TO LOWER MIDDLE RIGHT"⟩,
  ⟨0x1fb52, "0UPPER RIGHT BLOCK DIAGONAL LOWER MIDDLE LEFT TO LOWER CENTRE;9RIGHT"⟩,
  ⟨0x1fb54, "4UPPER MIDDLE LEFT TO LOWER CENTRE;9RIGHT;5LEFT TO LOWER CENTRE"⟩,
  ⟨0x1fb57, "1LEFT BLOCK DIAGONAL UPPER MIDDLE LEFT TO UPPER CENTRE;9RIGHT"⟩,
  ⟨0x1fb59, "4LOWER MIDDLE LEFT TO UPPER CENTRE;9RIGHT;5LEFT TO UPPER CENTRE"⟩,
  ⟨0x1fb5c, "5MIDDLE LEFT TO UPPER MIDDLE RIGHT;5CENTRE TO LOWER MIDDLE RIGHT"⟩,
  ⟨0x1fb5e, "5LEFT TO LOWER MIDDLE RIGHT;5CENTRE TO UPPER MIDDLE RIGHT"⟩,
  ⟨0x1fb60, "5LEFT TO UPPER MIDDLE RIGHT;5CENTRE TO UPPER RIGHT"⟩,
  ⟨0x1fb62, "1RIGHT BLOCK DIAGONAL UPPER CENTRE TO UPPER MIDDLE RIGHT;5LEFT TO UPPER MIDDLE RIGHT"⟩,
  ⟨0x1fb64, "5CENTRE TO LOWER MIDDLE RIGHT;5LEFT TO LOWER MIDDLE RIGHT;5CENTRE TO LOWER RIGHT"⟩,
  ⟨0x1fb67, "5MIDDLE LEFT TO LOWER MIDDLE RIGHT"⟩,
  ⟨0x1fb68, "1AND RIGHT AND LOWER TRIANGULAR THREE QUARTERS BLOCK"⟩,
  ⟨0x1fb69, "0LEFT AND LOWER AND RIGHT TRIANGULAR THREE QUARTERS BLOCK"⟩,
  ⟨0x1fb6a, "0UPPER AND LEFT AND LOWER TRIANGULAR THREE QUARTERS BLOCK"⟩,
  ⟨0x1fb6b, "0LEFT AND UPPER AND RIGHT TRIANGULAR THREE QUARTERS BLOCK"⟩,
  ⟨0x1fb6c, "1TRIANGULAR ONE QUARTER BLOCK;0UPPER TRIANGULAR ONE QUARTER BLOCK"⟩,
  ⟨0x1fb6e, "0RIGHT TRIANGULAR ONE QUARTER BLOCK;0LOWER TRIANGULAR ONE QUARTER BLOCK"⟩,
  ⟨0x1fb70, "0VERTICAL ONE EIGHTH BLOCK-2;43;44;45;46;47;0HORIZONTAL ONE EIGHTH BLOCK-2;43;44;45"⟩,
  ⟨0x1fb7a, "46;47;0LEFT AND LOWER ONE EIGHTH BLOCK;2UPPER ONE EIGHTH BLOCK"⟩,
  ⟨0x1fb7e, "0RIGHT AND UPPER ONE EIGHTH BLOCK;2LOWER ONE EIGHTH BLOCK"⟩,
  ⟨0x1fb80, "0UPPER AND LOWER ONE EIGHTH BLOCK;0HORIZONTAL ONE EIGHTH BLOCK-1358"⟩,
  ⟨0x1fb82, "0UPPER ONE QUARTER BLOCK;1THREE EIGHTHS BLOCK;1FIVE EIGHTHS BLOCK"⟩,
  ⟨0x1fb85, "1THREE QUARTERS BLOCK;1SEVEN EIGHTHS BLOCK;0RIGHT ONE QUARTER BLOCK"⟩,
  ⟨0x1fb88, "1THREE EIGHTHS BLOCK;1FIVE EIGHTHS BLOCK;1THREE QUARTERS BLOCK;1SEVEN EIGHTHS BLOCK"⟩,
  ⟨0x1fb8c, "0LEFT HALF MEDIUM SHADE;0RIGHT HALF MEDIUM SHADE;0UPPER HALF MEDIUM SHADE"⟩,
  ⟨0x1fb8f, "0LOWER HALF MEDIUM SHADE;0INVERSE MEDIUM SHADE"⟩,
  ⟨0x1fb91, "0UPPER HALF BLOCK AND LOWER HALF INVERSE MEDIUM SHADE"⟩,
  ⟨0x1fb92, "2INVERSE MEDIUM SHADE AND LOWER HALF BLOCK"⟩,
  ⟨0x1fb94, "0LEFT HALF INVERSE MEDIUM SHADE AND RIGHT HALF BLOCK;0CHECKER BOARD FILL"⟩,
  ⟨0x1fb96, "0INVERSE CHECKER BOARD FILL;0HEAVY HORIZONTAL FILL;0UPPER LEFT TO LOWER RIGHT FILL"⟩,
  ⟨0x1fb99, "1RIGHT TO LOWER LEFT FILL;1AND LOWER TRIANGULAR HALF BLOCK"⟩,
  ⟨0x1fb9b, "0LEFT AND RIGHT TRIANGULAR HALF BLOCK;0UPPER LEFT TRIANGULAR MEDIUM SHADE"⟩,
  ⟨0x1fb9d, "1RIGHT TRIANGULAR MEDIUM SHADE;0LOWER RIGHT TRIANGULAR MEDIUM SHADE"⟩,
  ⟨0x1fb9f, "1LEFT TRIANGULAR MEDIUM SHADE"⟩,
  ⟨0x1fba0, "0BOX DRAWINGS LIGHT DIAGONAL UPPER CENTRE TO MIDDLE LEFT;8RIGHT"⟩,
  ⟨0x1fba2, "4MIDDLE LEFT TO LOWER CENTRE;5RIGHT TO LOWER CENTRE"⟩,
  ⟨0x1fba4, "4UPPER CENTRE TO MIDDLE LEFT TO LOWER CENTRE;8RIGHT TO LOWER CENTRE"⟩,
  ⟨0x1fba6, "4MIDDLE LEFT TO LOWER CENTRE TO MIDDLE RIGHT;7UPPER CENTRE TO MIDDLE RIGHT"⟩,
  ⟨0x1fba8, "4UPPER CENTRE TO MIDDLE LEFT AND MIDDLE RIGHT TO LOWER CENTRE"⟩,
  ⟨0x1fba9, "8RIGHT AND MIDDLE LEFT TO LOWER CENTRE;9TO LOWER CENTRE TO MIDDLE LEFT"⟩,
  ⟨0x1fbab, "8LEFT TO LOWER CENTRE TO MIDDLE RIGHT"⟩,
  ⟨0x1fbac, "4MIDDLE LEFT TO UPPER CENTRE TO MIDDLE RIGHT TO LOWER CENTRE"⟩,
  ⟨0x1fbad, "5RIGHT TO UPPER CENTRE TO MIDDLE LEFT TO LOWER CENTRE;4DIAMOND"⟩,
  ⟨0x1fbaf, "3HORIZONTAL WITH VERTICAL STROKE;0ARROWHEAD-SHAPED POINTER;0INVERSE CHECK MARK"⟩,
  ⟨0x1fbb2, "0LEFT HALF RUNNING MAN;0RIGHT HALF RUNNING MAN"⟩,
  ⟨0x1fbb4, "0INVERSE DOWNWARDS ARROW WITH TIP LEFTWARDS"⟩,
  ⟨0x1fbb5, "0LEFTWARDS ARROW AND UPPER AND LOWER ONE EIGHTH BLOCK"⟩,
  ⟨0x1fbb6, "0RIGHTWARDS ARROW AND UPPER AND LOWER ONE EIGHTH BLOCK"⟩,
  ⟨0x1fbb7, "0DOWNWARDS ARROW AND RIGHT ONE EIGHTH BLOCK"⟩,
  ⟨0x1fbb8, "0UPWARDS ARROW AND RIGHT ONE EIGHTH BLOCK;0LEFT HALF FOLDER;0RIGHT HALF FOLDER"⟩,
  ⟨0x1fbbb, "0VOIDED GREEK CROSS;0RIGHT OPEN SQUARED DOT;0NEGATIVE DIAGONAL CROSS"⟩,
  ⟨0x1fbbe, "2MIDDLE RIGHT TO LOWER CENTRE;2DIAMOND;0WHITE HEAVY SALTIRE WITH ROUNDED CORNERS"⟩,
  ⟨0x1fbc1, "0LEFT THIRD WHITE RIGHT POINTING INDEX;0MIDDLE THIRD WHITE RIGHT POINTING INDEX"⟩,
  ⟨0x1fbc3, "0RIGHT THIRD WHITE RIGHT POINTING INDEX;0NEGATIVE SQUARED QUESTION MARK"⟩,
  ⟨0x1fbc5, "0STICK FIGURE;1FIGURE WITH ARMS RAISED;2LEANING LEFT;3RIGHT;2WITH DRESS"⟩,
  ⟨0x1fbca, "0WHITE UP-POINTING CHEVRON"⟩,
  ⟨0x1fbf0, "0SEGMENTED DIGIT ZERO;2ONE;2TWO;2THREE;2FOUR;2FIVE;2SIX;2SEVEN;2EIGHT;2NINE"⟩,
  ⟨0xe0001, "0LANGUAGE TAG"⟩,
  ⟨0xe0020, "0TAG SPACE;1EXCLAMATION MARK;1QUOTATION MARK;1NUMBER SIGN;1DOLLAR SIGN;1PERCENT SIGN"⟩,
  ⟨0xe0026, "1AMPERSAND;1APOSTROPHE;1LEFT PARENTHESIS;1RIGHT PARENTHESIS;1ASTERISK;1PLUS SIGN"⟩,
  ⟨0xe002c, "1COMMA;1HYPHEN-MINUS;1FULL STOP;1SOLIDUS;1DIGIT ZERO;2ONE;2TWO;2THREE;2FOUR;2FIVE"⟩,
  ⟨0xe0036, "2SIX;2SEVEN;2EIGHT;2NINE;1COLON;1SEMICOLON;1LESS-THAN SIGN;1EQUALS SIGN"⟩,
  ⟨0xe003e, "1GREATER-THAN SIGN;1QUESTION MARK;1COMMERCIAL AT;1LATIN CAPITAL LETTER A;4B;4C;4D;4E"⟩,
  ⟨0xe0046, "4F;4G;4H;4I;4J;4K;4L;4M;4N;4O;4P;4Q;4R;4S;4T;4U;4V;4W;4X;4Y;4Z;1LEFT SQUARE BRACKET"⟩,
  ⟨0xe005c, "1REVERSE SOLIDUS;1RIGHT SQUARE BRACKET;1CIRCUMFLEX ACCENT;1LOW LINE;1GRAVE ACCENT"⟩,
  ⟨0xe0061, "1LATIN SMALL LETTER A;4B;4C;4D;4E;4F;4G;4H;4I;4J;4K;4L;4M;4N;4O;4P;4Q;4R;4S;4T;4U;4V"⟩,
  ⟨0xe0077, "4W;4X;4Y;4Z;1LEFT CURLY BRACKET;1VERTICAL LINE;1RIGHT CURLY BRACKET;1TILDE"⟩,
  ⟨0xe007f, "0CANCEL TAG"⟩,
  ⟨0xe0100, "0VARIATION SELECTOR-17;218;219;220;221;222;223;224;225;226;227;228;229;230;231;232"⟩,
  ⟨0xe0110, "233;234;235;236;237;238;239;240;241;242;243;244;245;246;247;248;249;250;251;252;253"⟩,
  ⟨0xe0125, "254;255;256;257;258;259;260;261;262;263;264;265;266;267;268;269;270;271;272;273;274"⟩,
  ⟨0xe013a, "275;276;277;278;279;280;281;282;283;284;285;286;287;288;289;290;291;292;293;294;295"⟩,
  ⟨0xe014f, "296;297;298;299;2100;2101;2102;2103;2104;2105;2106;2107;2108;2109;2110;2111;2112"⟩,
  ⟨0xe0160, "2113;2114;2115;2116;2117;2118;2119;2120;2121;2122;2123;2124;2125;2126;2127;2128;2129"⟩,
  ⟨0xe0171, "2130;2131;2132;2133;2134;2135;2136;2137;2138;2139;2140;2141;2142;2143;2144;2145;2146"⟩,
  ⟨0xe0182, "2147;2148;2149;2150;2151;2152;2153;2154;2155;2156;2157;2158;2159;2160;2161;2162;2163"⟩,
  ⟨0xe0193, "2164;2165;2166;2167;2168;2169;2170;2171;2172;2173;2174;2175;2176;2177;2178;2179;2180"⟩,
  ⟨0xe01a4, "2181;2182;2183;2184;2185;2186;2187;2188;2189;2190;2191;2192;2193;2194;2195;2196;2197"⟩,
  ⟨0xe01b5, "2198;2199;2200;2201;2202;2203;2204;2205;2206;2207;2208;2209;2210;2211;2212;2213;2214"⟩,
  ⟨0xe01c6, "2215;2216;2217;2218;2219;2220;2221;2222;2223;2224;2225;2226;2227;2228;2229;2230;2231"⟩,
  ⟨0xe01d7, "2232;2233;2234;2235;2236;2237;2238;2239;2240;2241;2242;2243;2244;2245;2246;2247;2248"⟩,
  ⟨0xe01e8, "2249;2250;2251;2252;2253;2254;2255;2256"⟩]

end Character
end DirectiveLint
