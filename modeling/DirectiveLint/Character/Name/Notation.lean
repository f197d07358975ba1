import DirectiveLint.Character.Name.Row

/-!
# Names in notations

Names of the characters of musical, mathematical and sign notations between U+1CF00 and U+1EDFF.
-/

namespace DirectiveLint
namespace Character

/-- Names of the characters of musical, mathematical and sign notations between U+1CF00 and U+1EDFF.
-/
def notationNames : Array NameRow := #[
  ⟨0x1cf00, "0ZNAMENNY COMBINING MARK GORAZDO NIZKO S KRYZHEM ON LEFT;3NIZKO S KRYZHEM ON LEFT"⟩,
  ⟨0x1cf02, "3TSATA ON LEFT;3GORAZDO NIZKO ON LEFT;3NIZKO ON LEFT;3SREDNE ON LEFT"⟩,
  ⟨0x1cf06, "3MALO POVYSHE ON LEFT;3POVYSHE ON LEFT;3VYSOKO ON LEFT"⟩,
  ⟨0x1cf09, "3MALO POVYSHE S KHOKHLOM ON LEFT;3POVYSHE S KHOKHLOM ON LEFT"⟩,
  ⟨0x1cf0b, "3VYSOKO S KHOKHLOM ON LEFT;3GORAZDO NIZKO S KRYZHEM ON RIGHT"⟩,
  ⟨0x1cf0d, "3NIZKO S KRYZHEM ON RIGHT;3TSATA ON RIGHT;3GORAZDO NIZKO ON RIGHT;3NIZKO ON RIGHT"⟩,
  ⟨0x1cf11, "3SREDNE ON RIGHT;3MALO POVYSHE ON RIGHT;3POVYSHE ON RIGHT;3VYSOKO ON RIGHT"⟩,
  ⟨0x1cf15, "3MALO POVYSHE S KHOKHLOM ON RIGHT;3POVYSHE S KHOKHLOM ON RIGHT"⟩,
  ⟨0x1cf17, "3VYSOKO S KHOKHLOM ON RIGHT;3TSATA S KRYZHEM;3MALO POVYSHE S KRYZHEM"⟩,
  ⟨0x1cf1a, "3STRANNO MALO POVYSHE;3POVYSHE S KRYZHEM;4STRANNO;3VYSOKO S KRYZHEM"⟩,
  ⟨0x1cf1e, "3MALO POVYSHE STRANNO;3GORAZDO VYSOKO;3ZELO;3ON;3RAVNO;3TIKHAYA;3BORZAYA;3UDARKA"⟩,
  ⟨0x1cf26, "3PODVERTKA;3LOMKA;3KUPNAYA;3KACHKA;3ZEVOK;3SKOBA;3RAZSEKA;3KRYZH ON LEFT"⟩,
  ⟨0x1cf30, "2TONAL RANGE MARK MRACHNO;5SVETLO;5TRESVETLO;2MARK ZADERZHKA;3DEMESTVENNY ZADERZHKA"⟩,
  ⟨0x1cf35, "3OTSECHKA;3PODCHASHIE;3PODCHASHIE WITH VERTICAL STROKE;3CHASHKA;3CHASHKA POLNAYA"⟩,
  ⟨0x1cf3a, "3OBLACHKO;3SOROCHYA NOZHKA;3TOCHKA;3DVOETOCHIE;2ATTACHING VERTICAL OMET"⟩,
  ⟨0x1cf3f, "2MARK CURVED OMET;3KRYZH;2LOWER TONAL RANGE INDICATOR;1PRIZNAK MODIFIER LEVEL-2;43"⟩,
  ⟨0x1cf44, "3DIRECTION FLIP;3KRYZH;3ROG"⟩,
  ⟨0x1cf50, "1NEUME KRYUK;2KRYUK TIKHY;2PARAKLIT;2DVA V CHELNU;2KLYUCH;2ZANOZHEK;2STOPITSA"⟩,
  ⟨0x1cf57, "2STOPITSA S OCHKOM;2PEREVODKA;2PEREVODKA NEPOSTOYANNAYA"⟩,
  ⟨0x1cf5a, "2STOPITSA WITH SOROCHYA NOZHKA;2CHELYUSTKA;2PALKA;2ZAPYATAYA;2GOLUBCHIK BORZY;3TIKHY"⟩,
  ⟨0x1cf60, "3MRACHNY;3SVETLY;3TRESVETLY;2VRAKHIYA PROSTAYA;3MRACHNAYA;3SVETLAYA;3TRESVETLAYA"⟩,
  ⟨0x1cf67, "3KLYUCHEVAYA PROSTAYA;4MRACHNAYA;4SVETLAYA;4TRESVETLAYA;2DOUBLE ZAPYATAYA"⟩,
  ⟨0x1cf6c, "2REVERSED CHELYUSTKA;2DERBITSA;2KHAMILO;2CHASHKA;2PODCHASHIE;2SKAMEYTSA MRACHNAYA"⟩,
  ⟨0x1cf72, "3SVETLAYA;3TRESVETLAYA;3TIKHAYA;2DEMESTVENNY KLYUCH;2SKAMEYTSA KLYUCHEVAYA SVETLAYA"⟩,
  ⟨0x1cf77, "3KLYUCHENEPOSTOYANNAYA;3KLYUCHEVAYA TIKHAYA;3DVOECHELNAYA PROSTAYA;4SVETLAYA"⟩,
  ⟨0x1cf7b, "4NEPOSTOYANNAYA;4KLYUCHEVAYA;2SLOZHITIE;2SLOZHITIE S ZAPYATOY;3ZAKRYTOE;3S KRYZHEM"⟩,
  ⟨0x1cf81, "2KRYZH;2ROG;2FITA;2KOBYLA;2ZMEYTSA;2STATYA;2STATYA S ZAPYATOY;4KRYZHEM"⟩,
  ⟨0x1cf89, "4ZAPYATOY I KRYZHEM;4KRYZHEM I ZAPYATOY;3ZAKRYTAYA;3ZAKRYTAYA S ZAPYATOY;3S ROGOM"⟩,
  ⟨0x1cf8e, "4DVUMYA ZAPYATYMI;4ZAPYATOY I PODCHASHIEM;2POLKULIZMY;2STATYA NEPOSTOYANNAYA"⟩,
  ⟨0x1cf92, "2STRELA PROSTAYA;3MRACHNOTIKHAYA;3KRYZHEVAYA;3POLUPOVODNAYA;3POVODNAYA"⟩,
  ⟨0x1cf97, "3NEPOSTOYANNAYA;3KLYUCHEPOVODNAYA;3KLYUCHENEPOSTOYANNAYA;3TIKHAYA PUTNAYA"⟩,
  ⟨0x1cf9b, "3DVOECHELNAYA;3DVOECHELNOKRYZHEVAYA;3DVOECHELNOPOVODNAYA;3DVOECHELNAYA KLYUCHEVAYA"⟩,
  ⟨0x1cf9f, "3DVOECHELNOPOVODNAYA KLYUCHEVAYA;3GROMNAYA WITH SINGLE ZAPYATAYA"⟩,
  ⟨0x1cfa1, "3GROMOPOVODNAYA WITH SINGLE ZAPYATAYA;3GROMNAYA;3GROMOPOVODNAYA"⟩,
  ⟨0x1cfa4, "3GROMOPOVODNAYA WITH DOUBLE ZAPYATAYA;3GROMOKRYZHEVAYA;3GROMOKRYZHEVAYA POVODNAYA"⟩,
  ⟨0x1cfa7, "2MECHIK;2MECHIK POVODNY;3KLYUCHEVOY;3KLYUCHEPOVODNY;3KLYUCHENEPOSTOYANNY"⟩,
  ⟨0x1cfac, "2STRELA TRYASOGLASNAYA;3TRYASOPOVODNAYA;3TRYASOSTRELNAYA;2OSOKA;2OSOKA SVETLAYA"⟩,
  ⟨0x1cfb1, "3TRESVETLAYA;3KRYUKOVAYA SVETLAYA;3KLYUCHEVAYA SVETLAYA;4NEPOSTOYANNAYA"⟩,
  ⟨0x1cfb5, "2STRELA KRYUKOVAYA;3KRYUKOVAYA POVODNAYA;4GROMNAYA WITH SINGLE ZAPYATAYA"⟩,
  ⟨0x1cfb8, "4GROMOPOVODNAYA WITH SINGLE ZAPYATAYA;4GROMNAYA;4GROMOPOVODNAYA"⟩,
  ⟨0x1cfbb, "4GROMOPOVODNAYA WITH DOUBLE ZAPYATAYA;4GROMOKRYZHEVAYA;4GROMOKRYZHEVAYA POVODNAYA"⟩,
  ⟨0x1cfbe, "4TRYASKA;2KUFISMA;2OBLAKO;2DUDA;2NEMKA;2PAUK"⟩,
  ⟨0x1d000, "0BYZANTINE MUSICAL SYMBOL PSILI;3DASEIA;3PERISPOMENI;3OXEIA EKFONITIKON;4DIPLI"⟩,
  ⟨0x1d005, "3VAREIA EKFONITIKON;4DIPLI;3KATHISTI;3SYRMATIKI;3PARAKLITIKI;3YPOKRISIS"⟩,
  ⟨0x1d00b, "3YPOKRISIS DIPLI;3KREMASTI;3APESO EKFONITIKON;3EXO EKFONITIKON;3TELEIA;3KENTIMATA"⟩,
  ⟨0x1d011, "3APOSTROFOS;3APOSTROFOS DIPLI;3SYNEVMA;3THITA;3OLIGON ARCHAION;3GORGON ARCHAION"⟩,
  ⟨0x1d017, "3PSILON;3CHAMILON;3VATHY;3ISON ARCHAION;3KENTIMA ARCHAION;3KENTIMATA ARCHAION"⟩,
  ⟨0x1d01d, "3SAXIMATA;3PARICHON;3STAVROS APODEXIA;3OXEIAI ARCHAION;3VAREIAI ARCHAION"⟩,
  ⟨0x1d022, "3APODERMA ARCHAION;3APOTHEMA;3KLASMA;3REVMA;3PIASMA ARCHAION;3TINAGMA;3ANATRICHISMA"⟩,
  ⟨0x1d029, "3SEISMA;3SYNAGMA ARCHAION;4META STAVROU;3OYRANISMA ARCHAION;3THEMA;3LEMOI;3DYO;3TRIA"⟩,
  ⟨0x1d031, "3TESSERA;3KRATIMATA;3APESO EXO NEO;3FTHORA ARCHAION;3IMIFTHORA;3TROMIKON ARCHAION"⟩,
  ⟨0x1d037, "3KATAVA TROMIKON;3PELASTON;3PSIFISTON;3KONTEVMA;3CHOREVMA ARCHAION;3RAPISMA"⟩,
  ⟨0x1d03d, "3PARAKALESMA ARCHAION;3PARAKLITIKI ARCHAION;3ICHADIN;3NANA;3PETASMA;3KONTEVMA ALLO"⟩,
  ⟨0x1d043, "3TROMIKON ALLO;3STRAGGISMATA;3GRONTHISMATA;3ISON NEO;3OLIGON NEO;3OXEIA NEO;3PETASTI"⟩,
  ⟨0x1d04a, "3KOUFISMA;3PETASTOKOUFISMA;3KRATIMOKOUFISMA;3PELASTON NEO;3KENTIMATA NEO ANO"⟩,
  ⟨0x1d04f, "3KENTIMA NEO ANO;3YPSILI;3APOSTROFOS NEO;3APOSTROFOI SYNDESMOS NEO;3YPORROI"⟩,
  ⟨0x1d054, "3KRATIMOYPORROON;3ELAFRON;3CHAMILI;3MIKRON ISON;3VAREIA NEO;3PIASMA NEO"⟩,
  ⟨0x1d05a, "3PSIFISTON NEO;3OMALON;3ANTIKENOMA;3LYGISMA;3PARAKLITIKI NEO;3PARAKALESMA NEO"⟩,
  ⟨0x1d060, "3ETERON PARAKALESMA;3KYLISMA;3ANTIKENOKYLISMA;3TROMIKON NEO;3EKSTREPTON;3SYNAGMA NEO"⟩,
  ⟨0x1d066, "3SYRMA;3CHOREVMA NEO;3EPEGERMA;3SEISMA NEO;3XIRON KLASMA;3TROMIKOPSIFISTON"⟩,
  ⟨0x1d06c, "3PSIFISTOLYGISMA;3TROMIKOLYGISMA;3TROMIKOPARAKALESMA;3PSIFISTOPARAKALESMA"⟩,
  ⟨0x1d070, "3TROMIKOSYNAGMA;3PSIFISTOSYNAGMA;3GORGOSYNTHETON;3ARGOSYNTHETON"⟩,
  ⟨0x1d074, "3ETERON ARGOSYNTHETON;3OYRANISMA NEO;3THEMATISMOS ESO;4EXO;3THEMA APLOUN"⟩,
  ⟨0x1d079, "3THES KAI APOTHES;3KATAVASMA;3ENDOFONON;3YFEN KATO;4ANO;3STAVROS;3KLASMA ANO"⟩,
  ⟨0x1d080, "3DIPLI ARCHAION;3KRATIMA ARCHAION;4ALLO;4NEO;3APODERMA NEO;3APLI;3DIPLI;3TRIPLI"⟩,
  ⟨0x1d088, "3TETRAPLI;3KORONIS;3LEIMMA ENOS CHRONOU;4DYO CHRONON;4TRION CHRONON"⟩,
  ⟨0x1d08d, "4TESSARON CHRONON;4IMISEOS CHRONOU;3GORGON NEO ANO;4PARESTIGMENON ARISTERA;5DEXIA"⟩,
  ⟨0x1d092, "3DIGORGON;3DIGORGON PARESTIGMENON ARISTERA KATO;6ANO;5DEXIA;3TRIGORGON;3ARGON"⟩,
  ⟨0x1d098, "3IMIDIARGON;3DIARGON;3AGOGI POLI ARGI;4ARGOTERI;4ARGI;4METRIA;4MESI;4GORGI"⟩,
  ⟨0x1d0a0, "4GORGOTERI;4POLI GORGI;3MARTYRIA PROTOS ICHOS;4ALLI PROTOS ICHOS;4DEYTEROS ICHOS"⟩,
  ⟨0x1d0a5, "4ALLI DEYTEROS ICHOS;4TRITOS ICHOS;4TRIFONIAS;4TETARTOS ICHOS;5LEGETOS ICHOS"⟩,
  ⟨0x1d0aa, "4LEGETOS ICHOS;4PLAGIOS ICHOS;3ISAKIA TELOUS ICHIMATOS;3APOSTROFOI TELOUS ICHIMATOS"⟩,
  ⟨0x1d0ae, "3FANEROSIS TETRAFONIAS;4MONOFONIAS;4DIFONIAS;3MARTYRIA VARYS ICHOS;4PROTOVARYS ICHOS"⟩,
  ⟨0x1d0b3, "4PLAGIOS TETARTOS ICHOS;3GORTHMIKON N APLOUN;5DIPLOUN;3ENARXIS KAI FTHORA VOU"⟩,
  ⟨0x1d0b7, "3IMIFONON;3IMIFTHORON;3FTHORA ARCHAION DEYTEROU ICHOU;4DIATONIKI PA;5NANA"⟩,
  ⟨0x1d0bc, "4NAOS ICHOS;4DIATONIKI DI;4SKLIRON DIATONON DI;4DIATONIKI KE;5ZO;5NI KATO;6ANO"⟩,
  ⟨0x1d0c3, "4MALAKON CHROMA DIFONIAS;6MONOFONIAS;3FHTORA SKLIRON CHROMA VASIS"⟩,
  ⟨0x1d0c6, "3FTHORA SKLIRON CHROMA SYNAFI;4NENANO;3CHROA ZYGOS;4KLITON;4SPATHI"⟩,
  ⟨0x1d0cb, "3FTHORA I YFESIS TETARTIMORION;4ENARMONIOS ANTIFONIA;3YFESIS TRITIMORION"⟩,
  ⟨0x1d0ce, "3DIESIS TRITIMORION;4TETARTIMORION;4APLI DYO DODEKATA;4MONOGRAMMOS TESSERA DODEKATA"⟩,
  ⟨0x1d0d2, "4DIGRAMMOS EX DODEKATA;4TRIGRAMMOS OKTO DODEKATA;3YFESIS APLI DYO DODEKATA"⟩,
  ⟨0x1d0d5, "4MONOGRAMMOS TESSERA DODEKATA;4DIGRAMMOS EX DODEKATA;4TRIGRAMMOS OKTO DODEKATA"⟩,
  ⟨0x1d0d8, "3GENIKI DIESIS;4YFESIS;3DIASTOLI APLI MIKRI;5MEGALI;4DIPLI;4THESEOS"⟩,
  ⟨0x1d0de, "3SIMANSIS THESEOS;4THESEOS DISIMOU;5TRISIMOU;5TETRASIMOU;4ARSEOS;4ARSEOS DISIMOU"⟩,
  ⟨0x1d0e4, "5TRISIMOU;5TETRASIMOU;3DIGRAMMA GG;3DIFTOGGOS OU;3STIGMA;3ARKTIKO PA;4VOU;4GA;4DI"⟩,
  ⟨0x1d0ed, "4KE;4ZO;4NI;3KENTIMATA NEO MESO;3KENTIMA NEO MESO;3KENTIMATA NEO KATO"⟩,
  ⟨0x1d0f3, "3KENTIMA NEO KATO;3KLASMA KATO;3GORGON NEO KATO"⟩,
  ⟨0x1d100, "0MUSICAL SYMBOL SINGLE BARLINE;2DOUBLE BARLINE;2FINAL BARLINE;2REVERSE FINAL BARLINE"⟩,
  ⟨0x1d104, "2DASHED BARLINE;2SHORT BARLINE;2LEFT REPEAT SIGN;2RIGHT REPEAT SIGN;2REPEAT DOTS"⟩,
  ⟨0x1d109, "2DAL SEGNO;2DA CAPO;2SEGNO;2CODA;2REPEATED FIGURE-1;42;43;2FERMATA;2FERMATA BELOW"⟩,
  ⟨0x1d112, "2BREATH MARK;2CAESURA;2BRACE;2BRACKET;2ONE-LINE STAFF;2TWO-LINE STAFF"⟩,
  ⟨0x1d118, "2THREE-LINE STAFF;2FOUR-LINE STAFF;2FIVE-LINE STAFF;2SIX-LINE STAFF"⟩,
  ⟨0x1d11c, "3STRING FRETBOARD;2FOUR-STRING FRETBOARD;2G CLEF;3CLEF OTTAVA ALTA;5BASSA;2C CLEF"⟩,
  ⟨0x1d122, "2F CLEF;3CLEF OTTAVA ALTA;5BASSA;2DRUM CLEF-1;42"⟩,
  ⟨0x1d129, "2MULTIPLE MEASURE REST;2DOUBLE SHARP;3FLAT;2FLAT UP;3DOWN;2NATURAL UP;3DOWN"⟩,
  ⟨0x1d130, "2SHARP UP;3DOWN;2QUARTER TONE SHARP;4FLAT;2COMMON TIME;2CUT TIME;2OTTAVA ALTA;3BASSA"⟩,
  ⟨0x1d138, "2QUINDICESIMA ALTA;3BASSA;2MULTI REST;2WHOLE REST;2HALF REST;2QUARTER REST"⟩,
  ⟨0x1d13e, "2EIGHTH REST;2SIXTEENTH REST;2THIRTY-SECOND REST;2SIXTY-FOURTH REST"⟩,
  ⟨0x1d142, "2ONE HUNDRED TWENTY-EIGHTH REST;2X NOTEHEAD;2PLUS NOTEHEAD;2CIRCLE X NOTEHEAD"⟩,
  ⟨0x1d146, "2SQUARE NOTEHEAD WHITE;4BLACK;2TRIANGLE NOTEHEAD UP WHITE;5BLACK;4LEFT WHITE;5BLACK"⟩,
  ⟨0x1d14c, "4RIGHT WHITE;5BLACK;4DOWN WHITE;5BLACK;4UP RIGHT WHITE;6BLACK;2MOON NOTEHEAD WHITE"⟩,
  ⟨0x1d153, "4BLACK;2TRIANGLE-ROUND NOTEHEAD DOWN WHITE;6BLACK;2PARENTHESIS NOTEHEAD"⟩,
  ⟨0x1d157, "2VOID NOTEHEAD;2NOTEHEAD BLACK;2NULL NOTEHEAD;2CLUSTER NOTEHEAD WHITE;4BLACK;2BREVE"⟩,
  ⟨0x1d15d, "2WHOLE NOTE;2HALF NOTE;2QUARTER NOTE;2EIGHTH NOTE;2SIXTEENTH NOTE"⟩,
  ⟨0x1d162, "2THIRTY-SECOND NOTE;2SIXTY-FOURTH NOTE;2ONE HUNDRED TWENTY-EIGHTH NOTE"⟩,
  ⟨0x1d165, "2COMBINING STEM;3SPRECHGESANG STEM;3TREMOLO-1;42;43;2FINGERED TREMOLO-1;42;43"⟩,
  ⟨0x1d16d, "2COMBINING AUGMENTATION DOT;3FLAG-1;42;43;44;45;2BEGIN BEAM;2END BEAM;2BEGIN TIE"⟩,
  ⟨0x1d176, "2END TIE;2BEGIN SLUR;2END SLUR;2BEGIN PHRASE;2END PHRASE;2COMBINING ACCENT;3STACCATO"⟩,
  ⟨0x1d17d, "3TENUTO;3STACCATISSIMO;3MARCATO;3MARCATO-STACCATO;3ACCENT-STACCATO;3LOURE"⟩,
  ⟨0x1d183, "2ARPEGGIATO UP;3DOWN;2COMBINING DOIT;3RIP;3FLIP;3SMEAR;3BEND;3DOUBLE TONGUE"⟩,
  ⟨0x1d18b, "3TRIPLE TONGUE;2RINFORZANDO;2SUBITO;2Z;2PIANO;2MEZZO;2FORTE;2CRESCENDO;2DECRESCENDO"⟩,
  ⟨0x1d194, "2GRACE NOTE SLASH;4NO SLASH;2TR;2TURN;2INVERTED TURN;2TURN SLASH;3UP"⟩,
  ⟨0x1d19b, "2ORNAMENT STROKE-1;42;43;44;45;46;47;48;49;410;411;2HAUPTSTIMME;2NEBENSTIMME"⟩,
  ⟨0x1d1a8, "2END OF STIMME;2DEGREE SLASH;2COMBINING DOWN BOW;3UP BOW;3HARMONIC;3SNAP PIZZICATO"⟩,
  ⟨0x1d1ae, "2PEDAL MARK;3UP MARK;2HALF PEDAL MARK;2GLISSANDO UP;3DOWN;2WITH FINGERNAILS;2DAMP"⟩,
  ⟨0x1d1b5, "2DAMP ALL;2MAXIMA;2LONGA;2BREVIS;2SEMIBREVIS WHITE;3BLACK;2MINIMA;2MINIMA BLACK"⟩,
  ⟨0x1d1bd, "2SEMIMINIMA WHITE;3BLACK;2FUSA WHITE;3BLACK;2LONGA PERFECTA REST;3IMPERFECTA REST"⟩,
  ⟨0x1d1c3, "2BREVIS REST;2SEMIBREVIS REST;2MINIMA REST;2SEMIMINIMA REST"⟩,
  ⟨0x1d1c7, "2TEMPUS PERFECTUM CUM PROLATIONE PERFECTA;6IMPERFECTA;6PERFECTA DIMINUTION-1"⟩,
  ⟨0x1d1ca, "3IMPERFECTUM CUM PROLATIONE PERFECTA;6IMPERFECTA;6IMPERFECTA DIMINUTION-1;82;83"⟩,
  ⟨0x1d1cf, "2CROIX;2GREGORIAN C CLEF;3F CLEF;2SQUARE B;2VIRGA;2PODATUS;2CLIVIS;2SCANDICUS"⟩,
  ⟨0x1d1d7, "2CLIMACUS;2TORCULUS;2PORRECTUS;2PORRECTUS FLEXUS;2SCANDICUS FLEXUS"⟩,
  ⟨0x1d1dc, "2TORCULUS RESUPINUS;2PES SUBPUNCTIS;2KIEVAN C CLEF;3END OF PIECE;3FINAL NOTE"⟩,
  ⟨0x1d1e1, "3RECITATIVE MARK;3WHOLE NOTE;3HALF NOTE;3QUARTER NOTE STEM DOWN;6UP"⟩,
  ⟨0x1d1e6, "3EIGHTH NOTE STEM DOWN;6UP;3FLAT SIGN;2SORI;2KORON"⟩,
  ⟨0x1d200, "0GREEK VOCAL NOTATION SYMBOL-1;42;43;44;45;46;47;48;49;410;411;412;413;414;415;416"⟩,
  ⟨0x1d210, "417;418;419;420;421;422;423;424;450;451;452;453;454;1INSTRUMENTAL NOTATION SYMBOL-1"⟩,
  ⟨0x1d21e, "42;44;45;47;48;411;412;413;414;417;418;419;423;424;425;426;427;429;430;432;436;437"⟩,
  ⟨0x1d234, "438;439;440;442;443;445;447;448;449;450;451;452;453;454"⟩,
  ⟨0x1d242, "0COMBINING GREEK MUSICAL TRISEME;3TETRASEME;3PENTASEME;0GREEK MUSICAL LEIMMA"⟩,
  ⟨0x1d2e0, "0MAYAN NUMERAL ZERO;2ONE;2TWO;2THREE;2FOUR;2FIVE;2SIX;2SEVEN;2EIGHT;2NINE;2TEN"⟩,
  ⟨0x1d2eb, "2ELEVEN;2TWELVE;2THIRTEEN;2FOURTEEN;2FIFTEEN;2SIXTEEN;2SEVENTEEN;2EIGHTEEN;2NINETEEN"⟩,
  ⟨0x1d300, "0MONOGRAM FOR EARTH;0DIGRAM FOR HEAVENLY EARTH;2HUMAN EARTH;2EARTHLY HEAVEN;3HUMAN"⟩,
  ⟨0x1d305, "2EARTH;0TETRAGRAM FOR CENTRE;2FULL CIRCLE;2MIRED;2BARRIER;2KEEPING SMALL"⟩,
  ⟨0x1d30b, "2CONTRARIETY;2ASCENT;2OPPOSITION;2BRANCHING OUT;2DEFECTIVENESS OR DISTORTION"⟩,
  ⟨0x1d310, "2DIVERGENCE;2YOUTHFULNESS;2INCREASE;2PENETRATION;2REACH;2CONTACT;2HOLDING BACK"⟩,
  ⟨0x1d317, "2WAITING;2FOLLOWING;2ADVANCE;2RELEASE;2RESISTANCE;2EASE;2JOY;2CONTENTION;2ENDEAVOUR"⟩,
  ⟨0x1d320, "2DUTIES;2CHANGE;2DECISIVENESS;2BOLD RESOLUTION;2PACKING;2LEGION;2CLOSENESS;2KINSHIP"⟩,
  ⟨0x1d328, "2GATHERING;2STRENGTH;2PURITY;2FULLNESS;2RESIDENCE;2LAW OR MODEL;2RESPONSE"⟩,
  ⟨0x1d32f, "2GOING TO MEET;2ENCOUNTERS;2STOVE;2GREATNESS;2ENLARGEMENT;2PATTERN;2RITUAL;2FLIGHT"⟩,
  ⟨0x1d337, "2VASTNESS OR WASTING;2CONSTANCY;2MEASURE;2ETERNITY;2UNITY;2DIMINISHMENT"⟩,
  ⟨0x1d33d, "2CLOSED MOUTH;2GUARDEDNESS;2GATHERING IN;2MASSING;2ACCUMULATION;2EMBELLISHMENT"⟩,
  ⟨0x1d343, "2DOUBT;2WATCH;2SINKING;2INNER;2DEPARTURE;2DARKENING;2DIMMING;2EXHAUSTION;2SEVERANCE"⟩,
  ⟨0x1d34c, "2STOPPAGE;2HARDNESS;2COMPLETION;2CLOSURE;2FAILURE;2AGGRAVATION;2COMPLIANCE"⟩,
  ⟨0x1d353, "2ON THE VERGE;2DIFFICULTIES;2LABOURING;2FOSTERING"⟩,
  ⟨0x1d360, "0COUNTING ROD UNIT DIGIT ONE;4TWO;4THREE;4FOUR;4FIVE;4SIX;4SEVEN;4EIGHT;4NINE"⟩,
  ⟨0x1d369, "2TENS DIGIT ONE;4TWO;4THREE;4FOUR;4FIVE;4SIX;4SEVEN;4EIGHT;4NINE"⟩,
  ⟨0x1d372, "0IDEOGRAPHIC TALLY MARK ONE;3TWO;3THREE;3FOUR;3FIVE;0TALLY MARK ONE;2FIVE"⟩,
  ⟨0x1d400, "0MATHEMATICAL BOLD CAPITAL A;3B;3C;3D;3E;3F;3G;3H;3I;3J;3K;3L;3M;3N;3O;3P;3Q;3R;3S"⟩,
  ⟨0x1d413, "3T;3U;3V;3W;3X;3Y;3Z;2SMALL A;3B;3C;3D;3E;3F;3G;3H;3I;3J;3K;3L;3M;3N;3O;3P;3Q;3R;3S"⟩,
  ⟨0x1d42d, "3T;3U;3V;3W;3X;3Y;3Z;1ITALIC CAPITAL A;3B;3C;3D;3E;3F;3G;3H;3I;3J;3K;3L;3M;3N;3O;3P"⟩,
  ⟨0x1d444, "3Q;3R;3S;3T;3U;3V;3W;3X;3Y;3Z;2SMALL A;3B;3C;3D;3E;3F;3G"⟩,
  ⟨0x1d456, "3I;3J;3K;3L;3M;3N;3O;3P;3Q;3R;3S;3T;3U;3V;3W;3X;3Y;3Z;1BOLD ITALIC CAPITAL A;4B;4C"⟩,
  ⟨0x1d46b, "4D;4E;4F;4G;4H;4I;4J;4K;4L;4M;4N;4O;4P;4Q;4R;4S;4T;4U;4V;4W;4X;4Y;4Z;3SMALL A;4B;4C"⟩,
  ⟨0x1d485, "4D;4E;4F;4G;4H;4I;4J;4K;4L;4M;4N;4O;4P;4Q;4R;4S;4T;4U;4V;4W;4X;4Y;4Z"⟩,
  ⟨0x1d49c, "1SCRIPT CAPITAL A"⟩,
  ⟨0x1d49e, "3C;3D"⟩,
  ⟨0x1d4a2, "3G"⟩,
  ⟨0x1d4a5, "3J;3K"⟩,
  ⟨0x1d4a9, "3N;3O;3P;3Q"⟩,
  ⟨0x1d4ae, "3S;3T;3U;3V;3W;3X;3Y;3Z;2SMALL A;3B;3C;3D"⟩,
  ⟨0x1d4bb, "3F"⟩,
  ⟨0x1d4bd, "3H;3I;3J;3K;3L;3M;3N"⟩,
  ⟨0x1d4c5, "3P;3Q;3R;3S;3T;3U;3V;3W;3X;3Y;3Z;1BOLD SCRIPT CAPITAL A;4B;4C;4D;4E;4F;4G;4H;4I;4J"⟩,
  ⟨0x1d4da, "4K;4L;4M;4N;4O;4P;4Q;4R;4S;4T;4U;4V;4W;4X;4Y;4Z;3SMALL A;4B;4C;4D;4E;4F;4G;4H;4I;4J"⟩,
  ⟨0x1d4f4, "4K;4L;4M;4N;4O;4P;4Q;4R;4S;4T;4U;4V;4W;4X;4Y;4Z;1FRAKTUR CAPITAL A;3B"⟩,
  ⟨0x1d507, "3D;3E;3F;3G"⟩,
  ⟨0x1d50d, "3J;3K;3L;3M;3N;3O;3P;3Q"⟩,
  ⟨0x1d516, "3S;3T;3U;3V;3W;3X;3Y"⟩,
  ⟨0x1d51e, "2SMALL A;3B;3C;3D;3E;3F;3G;3H;3I;3J;3K;3L;3M;3N;3O;3P;3Q;3R;3S;3T;3U;3V;3W;3X;3Y;3Z"⟩,
  ⟨0x1d538, "1DOUBLE-STRUCK CAPITAL A;4B"⟩,
  ⟨0x1d53b, "4D;4E;4F;4G"⟩,
  ⟨0x1d540, "4I;4J;4K;4L;4M"⟩,
  ⟨0x1d546, "4O"⟩,
  ⟨0x1d54a, "4S;4T;4U;4V;4W;4X;4Y"⟩,
  ⟨0x1d552, "3SMALL A;4B;4C;4D;4E;4F;4G;4H;4I;4J;4K;4L;4M;4N;4O;4P;4Q;4R;4S;4T;4U;4V;4W;4X;4Y;4Z"⟩,
  ⟨0x1d56c, "1BOLD FRAKTUR CAPITAL A;4B;4C;4D;4E;4F;4G;4H;4I;4J;4K;4L;4M;4N;4O;4P;4Q;4R;4S;4T;4U"⟩,
  ⟨0x1d581, "4V;4W;4X;4Y;4Z;3SMALL A;4B;4C;4D;4E;4F;4G;4H;4I;4J;4K;4L;4M;4N;4O;4P;4Q;4R;4S;4T;4U"⟩,
  ⟨0x1d59b, "4V;4W;4X;4Y;4Z;1SANS-SERIF CAPITAL A;4B;4C;4D;4E;4F;4G;4H;4I;4J;4K;4L;4M;4N;4O;4P;4Q"⟩,
  ⟨0x1d5b1, "4R;4S;4T;4U;4V;4W;4X;4Y;4Z;3SMALL A;4B;4C;4D;4E;4F;4G;4H;4I;4J;4K;4L;4M;4N;4O;4P;4Q"⟩,
  ⟨0x1d5cb, "4R;4S;4T;4U;4V;4W;4X;4Y;4Z;3BOLD CAPITAL A;5B;5C;5D;5E;5F;5G;5H;5I;5J;5K;5L;5M;5N;5O"⟩,
  ⟨0x1d5e3, "5P;5Q;5R;5S;5T;5U;5V;5W;5X;5Y;5Z;4SMALL A;5B;5C;5D;5E;5F;5G;5H;5I;5J;5K;5L;5M;5N;5O"⟩,
  ⟨0x1d5fd, "5P;5Q;5R;5S;5T;5U;5V;5W;5X;5Y;5Z;3ITALIC CAPITAL A;5B;5C;5D;5E;5F;5G;5H;5I;5J;5K;5L"⟩,
  ⟨0x1d614, "5M;5N;5O;5P;5Q;5R;5S;5T;5U;5V;5W;5X;5Y;5Z;4SMALL A;5B;5C;5D;5E;5F;5G;5H;5I;5J;5K;5L"⟩,
  ⟨0x1d62e, "5M;5N;5O;5P;5Q;5R;5S;5T;5U;5V;5W;5X;5Y;5Z;3BOLD ITALIC CAPITAL A;6B;6C;6D;6E;6F;6G"⟩,
  ⟨0x1d643, "6H;6I;6J;6K;6L;6M;6N;6O;6P;6Q;6R;6S;6T;6U;6V;6W;6X;6Y;6Z;5SMALL A;6B;6C;6D;6E;6F;6G"⟩,
  ⟨0x1d65d, "6H;6I;6J;6K;6L;6M;6N;6O;6P;6Q;6R;6S;6T;6U;6V;6W;6X;6Y;6Z;1MONOSPACE CAPITAL A;3B;3C"⟩,
  ⟨0x1d673, "3D;3E;3F;3G;3H;3I;3J;3K;3L;3M;3N;3O;3P;3Q;3R;3S;3T;3U;3V;3W;3X;3Y;3Z;2SMALL A;3B;3C"⟩,
  ⟨0x1d68d, "3D;3E;3F;3G;3H;3I;3J;3K;3L;3M;3N;3O;3P;3Q;3R;3S;3T;3U;3V;3W;3X;3Y;3Z"⟩,
  ⟨0x1d6a4, "1ITALIC SMALL DOTLESS I;4J"⟩,
  ⟨0x1d6a8, "1BOLD CAPITAL ALPHA;3BETA;3GAMMA;3DELTA;3EPSILON;3ZETA;3ETA;3THETA;3IOTA;3KAPPA"⟩,
  ⟨0x1d6b2, "3LAMDA;3MU;3NU;3XI;3OMICRON;3PI;3RHO;3THETA SYMBOL;3SIGMA;3TAU;3UPSILON;3PHI;3CHI"⟩,
  ⟨0x1d6bf, "3PSI;3OMEGA;2NABLA;2SMALL ALPHA;3BETA;3GAMMA;3DELTA;3EPSILON;3ZETA;3ETA;3THETA;3IOTA"⟩,
  ⟨0x1d6cb, "3KAPPA;3LAMDA;3MU;3NU;3XI;3OMICRON;3PI;3RHO;3FINAL SIGMA;3SIGMA;3TAU;3UPSILON;3PHI"⟩,
  ⟨0x1d6d8, "3CHI;3PSI;3OMEGA;2PARTIAL DIFFERENTIAL;2EPSILON SYMBOL;2THETA SYMBOL;2KAPPA SYMBOL"⟩,
  ⟨0x1d6df, "2PHI SYMBOL;2RHO SYMBOL;2PI SYMBOL;1ITALIC CAPITAL ALPHA;3BETA;3GAMMA;3DELTA"⟩,
  ⟨0x1d6e6, "3EPSILON;3ZETA;3ETA;3THETA;3IOTA;3KAPPA;3LAMDA;3MU;3NU;3XI;3OMICRON;3PI;3RHO"⟩,
  ⟨0x1d6f3, "3THETA SYMBOL;3SIGMA;3TAU;3UPSILON;3PHI;3CHI;3PSI;3OMEGA;2NABLA;2SMALL ALPHA;3BETA"⟩,
  ⟨0x1d6fe, "3GAMMA;3DELTA;3EPSILON;3ZETA;3ETA;3THETA;3IOTA;3KAPPA;3LAMDA;3MU;3NU;3XI;3OMICRON"⟩,
  ⟨0x1d70b, "3PI;3RHO;3FINAL SIGMA;3SIGMA;3TAU;3UPSILON;3PHI;3CHI;3PSI;3OMEGA"⟩,
  ⟨0x1d715, "2PARTIAL DIFFERENTIAL;2EPSILON SYMBOL;2THETA SYMBOL;2KAPPA SYMBOL;2PHI SYMBOL"⟩,
  ⟨0x1d71a, "2RHO SYMBOL;2PI SYMBOL;1BOLD ITALIC CAPITAL ALPHA;4BETA;4GAMMA;4DELTA;4EPSILON;4ZETA"⟩,
  ⟨0x1d722, "4ETA;4THETA;4IOTA;4KAPPA;4LAMDA;4MU;4NU;4XI;4OMICRON;4PI;4RHO;4THETA SYMBOL;4SIGMA"⟩,
  ⟨0x1d72f, "4TAU;4UPSILON;4PHI;4CHI;4PSI;4OMEGA;3NABLA;3SMALL ALPHA;4BETA;4GAMMA;4DELTA;4EPSILON"⟩,
  ⟨0x1d73b, "4ZETA;4ETA;4THETA;4IOTA;4KAPPA;4LAMDA;4MU;4NU;4XI;4OMICRON;4PI;4RHO;4FINAL SIGMA"⟩,
  ⟨0x1d748, "4SIGMA;4TAU;4UPSILON;4PHI;4CHI;4PSI;4OMEGA;3PARTIAL DIFFERENTIAL;3EPSILON SYMBOL"⟩,
  ⟨0x1d751, "3THETA SYMBOL;3KAPPA SYMBOL;3PHI SYMBOL;3RHO SYMBOL;3PI SYMBOL"⟩,
  ⟨0x1d756, "1SANS-SERIF BOLD CAPITAL ALPHA;5BETA;5GAMMA;5DELTA;5EPSILON;5ZETA;5ETA;5THETA;5IOTA"⟩,
  ⟨0x1d75f, "5KAPPA;5LAMDA;5MU;5NU;5XI;5OMICRON;5PI;5RHO;5THETA SYMBOL;5SIGMA;5TAU;5UPSILON;5PHI"⟩,
  ⟨0x1d76c, "5CHI;5PSI;5OMEGA;4NABLA;4SMALL ALPHA;5BETA;5GAMMA;5DELTA;5EPSILON;5ZETA;5ETA;5THETA"⟩,
  ⟨0x1d778, "5IOTA;5KAPPA;5LAMDA;5MU;5NU;5XI;5OMICRON;5PI;5RHO;5FINAL SIGMA;5SIGMA;5TAU;5UPSILON"⟩,
  ⟨0x1d785, "5PHI;5CHI;5PSI;5OMEGA;4PARTIAL DIFFERENTIAL;4EPSILON SYMBOL;4THETA SYMBOL"⟩,
  ⟨0x1d78c, "4KAPPA SYMBOL;4PHI SYMBOL;4RHO SYMBOL;4PI SYMBOL;4ITALIC CAPITAL ALPHA;6BETA;6GAMMA"⟩,
  ⟨0x1d793, "6DELTA;6EPSILON;6ZETA;6ETA;6THETA;6IOTA;6KAPPA;6LAMDA;6MU;6NU;6XI;6OMICRON;6PI;6RHO"⟩,
  ⟨0x1d7a1, "6THETA SYMBOL;6SIGMA;6TAU;6UPSILON;6PHI;6CHI;6PSI;6OMEGA;5NABLA;5SMALL ALPHA;6BETA"⟩,
  ⟨0x1d7ac, "6GAMMA;6DELTA;6EPSILON;6ZETA;6ETA;6THETA;6IOTA;6KAPPA;6LAMDA;6MU;6NU;6XI;6OMICRON"⟩,
  ⟨0x1d7b9, "6PI;6RHO;6FINAL SIGMA;6SIGMA;6TAU;6UPSILON;6PHI;6CHI;6PSI;6OMEGA"⟩,
  ⟨0x1d7c3, "5PARTIAL DIFFERENTIAL;5EPSILON SYMBOL;5THETA SYMBOL;5KAPPA SYMBOL;5PHI SYMBOL"⟩,
  ⟨0x1d7c8, "5RHO SYMBOL;5PI SYMBOL;1BOLD CAPITAL DIGAMMA;2SMALL DIGAMMA"⟩,
  ⟨0x1d7ce, "2DIGIT ZERO;3ONE;3TWO;3THREE;3FOUR;3FIVE;3SIX;3SEVEN;3EIGHT;3NINE"⟩,
  ⟨0x1d7d8, "1DOUBLE-STRUCK DIGIT ZERO;4ONE;4TWO;4THREE;4FOUR;4FIVE;4SIX;4SEVEN;4EIGHT;4NINE"⟩,
  ⟨0x1d7e2, "1SANS-SERIF DIGIT ZERO;4ONE;4TWO;4THREE;4FOUR;4FIVE;4SIX;4SEVEN;4EIGHT;4NINE"⟩,
  ⟨0x1d7ec, "3BOLD DIGIT ZERO;5ONE;5TWO;5THREE;5FOUR;5FIVE;5SIX;5SEVEN;5EIGHT;5NINE"⟩,
  ⟨0x1d7f6, "1MONOSPACE DIGIT ZERO;3ONE;3TWO;3THREE;3FOUR;3FIVE;3SIX;3SEVEN;3EIGHT;3NINE"⟩,
  ⟨0x1d800, "0SIGNWRITING HAND-FIST INDEX;2CIRCLE INDEX;2CUP INDEX;2OVAL INDEX;2HINGE INDEX"⟩,
  ⟨0x1d805, "2ANGLE INDEX;2FIST INDEX BENT;2CIRCLE INDEX BENT;2FIST THUMB UNDER INDEX BENT"⟩,
  ⟨0x1d809, "3INDEX RAISED KNUCKLE;4CUPPED;4HINGED;4HINGED LOW;2CIRCLE INDEX HINGE"⟩,
  ⟨0x1d80e, "2FIST INDEX MIDDLE;2CIRCLE INDEX MIDDLE;2FIST INDEX MIDDLE BENT;5RAISED KNUCKLES"⟩,
  ⟨0x1d812, "5HINGED;4UP MIDDLE HINGED;4HINGED MIDDLE UP;4MIDDLE CONJOINED;5CONJOINED INDEX BENT"⟩,
  ⟨0x1d817, "6MIDDLE BENT;6CUPPED;6HINGED;5CROSSED;2CIRCLE INDEX MIDDLE CROSSED"⟩,
  ⟨0x1d81c, "2FIST MIDDLE BENT OVER INDEX;3INDEX BENT OVER MIDDLE;4MIDDLE THUMB"⟩,
  ⟨0x1d81f, "2CIRCLE INDEX MIDDLE THUMB;2FIST INDEX MIDDLE STRAIGHT THUMB BENT"⟩,
  ⟨0x1d821, "5BENT THUMB STRAIGHT;5THUMB BENT;5HINGED SPREAD THUMB SIDE"⟩,
  ⟨0x1d824, "4UP MIDDLE HINGED THUMB SIDE;8CONJOINED;4HINGED MIDDLE UP THUMB SIDE"⟩,
  ⟨0x1d827, "4MIDDLE UP SPREAD THUMB FORWARD;5THUMB CUPPED;6CIRCLED;6HOOKED;6HINGED"⟩,
  ⟨0x1d82c, "3THUMB BETWEEN INDEX MIDDLE STRAIGHT;3INDEX MIDDLE CONJOINED THUMB SIDE"⟩,
  ⟨0x1d82e, "7SIDE CONJOINED;8BENT;3MIDDLE THUMB HOOKED INDEX UP;3INDEX THUMB HOOKED MIDDLE UP"⟩,
  ⟨0x1d832, "4MIDDLE CONJOINED HINGED THUMB SIDE;5CROSSED THUMB SIDE;5CONJOINED THUMB FORWARD"⟩,
  ⟨0x1d835, "6CUPPED THUMB FORWARD;3MIDDLE THUMB CUPPED INDEX UP;3INDEX THUMB CUPPED MIDDLE UP"⟩,
  ⟨0x1d838, "3MIDDLE THUMB CIRCLED INDEX UP;7HINGED;3INDEX THUMB ANGLED OUT MIDDLE UP"⟩,
  ⟨0x1d83b, "6IN MIDDLE UP;5CIRCLED MIDDLE UP;4MIDDLE THUMB CONJOINED HINGED;6ANGLED OUT;6ANGLED"⟩,
  ⟨0x1d840, "3MIDDLE THUMB ANGLED OUT INDEX UP;8CROSSED;6INDEX UP"⟩,
  ⟨0x1d843, "3INDEX THUMB HOOKED MIDDLE HINGED;2FLAT FOUR FINGERS;4FINGERS BENT;5HINGED"⟩,
  ⟨0x1d847, "5CONJOINED;5CONJOINED SPLIT;2CLAW FOUR FINGERS CONJOINED"⟩,
  ⟨0x1d84a, "2FIST FOUR FINGERS CONJOINED BENT;2HINGE FOUR FINGERS CONJOINED"⟩,
  ⟨0x1d84c, "2FLAT FIVE FINGERS SPREAD;3HEEL FIVE FINGERS SPREAD;3FIVE FINGERS SPREAD FOUR BENT"⟩,
  ⟨0x1d84f, "3HEEL FIVE FINGERS SPREAD FOUR BENT;3FIVE FINGERS SPREAD BENT"⟩,
  ⟨0x1d851, "3HEEL FIVE FINGERS SPREAD BENT;3FIVE FINGERS SPREAD THUMB FORWARD"⟩,
  ⟨0x1d853, "2CUP FIVE FINGERS SPREAD;5SPREAD OPEN;2HINGE FIVE FINGERS SPREAD OPEN"⟩,
  ⟨0x1d856, "2OVAL FIVE FINGERS SPREAD;2FLAT FIVE FINGERS SPREAD HINGED;6HINGED THUMB SIDE"⟩,
  ⟨0x1d859, "7NO THUMB;2FLAT;2FLAT BETWEEN PALM FACINGS;3HEEL;3THUMB SIDE;3HEEL THUMB SIDE"⟩,
  ⟨0x1d85f, "3THUMB BENT;4FORWARD;3SPLIT INDEX THUMB SIDE;4CENTRE;4CENTRE THUMB SIDE;6SIDE BENT"⟩,
  ⟨0x1d865, "4LITTLE;2CLAW;2CLAW THUMB SIDE;3NO THUMB;3THUMB FORWARD;2HOOK CURLICUE;2HOOK"⟩,
  ⟨0x1d86c, "2CUP OPEN;2CUP;2CUP OPEN THUMB SIDE;3THUMB SIDE;3OPEN NO THUMB;3NO THUMB"⟩,
  ⟨0x1d872, "3OPEN THUMB FORWARD;3THUMB FORWARD;2CURLICUE OPEN;2CURLICUE;2CIRCLE;2OVAL"⟩,
  ⟨0x1d878, "2OVAL THUMB SIDE;3NO THUMB;3THUMB FORWARD;2HINGE OPEN;3OPEN THUMB FORWARD;2HINGE"⟩,
  ⟨0x1d87e, "2HINGE SMALL;3OPEN THUMB SIDE;3THUMB SIDE;3OPEN NO THUMB;3NO THUMB"⟩,
  ⟨0x1d883, "3THUMB SIDE TOUCHING INDEX;4BETWEEN MIDDLE RING;2ANGLE;2FIST INDEX MIDDLE RING"⟩,
  ⟨0x1d887, "2CIRCLE INDEX MIDDLE RING;2HINGE INDEX MIDDLE RING;2ANGLE INDEX MIDDLE RING"⟩,
  ⟨0x1d88a, "2HINGE LITTLE;2FIST INDEX MIDDLE RING BENT;6CONJOINED"⟩,
  ⟨0x1d88d, "2HINGE INDEX MIDDLE RING CONJOINED;2FIST LITTLE DOWN;4DOWN RIPPLE STRAIGHT;6CURVED"⟩,
  ⟨0x1d891, "5OTHERS CIRCLED;4UP;3THUMB UNDER LITTLE UP;2CIRCLE LITTLE UP;2OVAL LITTLE UP"⟩,
  ⟨0x1d896, "2ANGLE LITTLE UP;2FIST LITTLE RAISED KNUCKLE;4BENT;4TOUCHES THUMB;4THUMB"⟩,
  ⟨0x1d89b, "2HINGE LITTLE THUMB;2FIST LITTLE INDEX THUMB;2HINGE LITTLE INDEX THUMB"⟩,
  ⟨0x1d89e, "2ANGLE LITTLE INDEX THUMB INDEX THUMB OUT;7THUMB;2FIST LITTLE INDEX"⟩,
  ⟨0x1d8a1, "2CIRCLE LITTLE INDEX;2HINGE LITTLE INDEX;2ANGLE LITTLE INDEX"⟩,
  ⟨0x1d8a4, "2FIST INDEX MIDDLE LITTLE;2CIRCLE INDEX MIDDLE LITTLE;2HINGE INDEX MIDDLE LITTLE"⟩,
  ⟨0x1d8a7, "3RING;2ANGLE INDEX MIDDLE LITTLE;2FIST INDEX MIDDLE CROSS LITTLE"⟩,
  ⟨0x1d8aa, "2CIRCLE INDEX MIDDLE CROSS LITTLE;2FIST RING DOWN"⟩,
  ⟨0x1d8ac, "2HINGE RING DOWN INDEX THUMB HOOK MIDDLE;2ANGLE RING DOWN MIDDLE THUMB INDEX CROSS"⟩,
  ⟨0x1d8ae, "2FIST RING UP;4RAISED KNUCKLE;4LITTLE;2CIRCLE RING LITTLE;2OVAL RING LITTLE"⟩,
  ⟨0x1d8b3, "2ANGLE RING LITTLE;2FIST RING MIDDLE;4MIDDLE CONJOINED;5RAISED KNUCKLES;4INDEX"⟩,
  ⟨0x1d8b8, "4THUMB;2HOOK RING THUMB;2FIST INDEX RING LITTLE;2CIRCLE INDEX RING LITTLE"⟩,
  ⟨0x1d8bc, "2CURLICUE INDEX RING LITTLE ON;2HOOK INDEX RING LITTLE OUT;6IN;6UNDER"⟩,
  ⟨0x1d8c0, "2CUP INDEX RING LITTLE;2HINGE INDEX RING LITTLE;2ANGLE INDEX RING LITTLE OUT;5LITTLE"⟩,
  ⟨0x1d8c4, "2FIST MIDDLE DOWN;2HINGE MIDDLE;2FIST MIDDLE UP;2CIRCLE MIDDLE UP"⟩,
  ⟨0x1d8c8, "2FIST MIDDLE RAISED KNUCKLE;4UP THUMB SIDE;2HOOK MIDDLE THUMB"⟩,
  ⟨0x1d8cb, "2FIST MIDDLE THUMB LITTLE;4LITTLE;4RING LITTLE;2CIRCLE MIDDLE RING LITTLE"⟩,
  ⟨0x1d8cf, "2CURLICUE MIDDLE RING LITTLE ON;2CUP MIDDLE RING LITTLE;2HINGE MIDDLE RING LITTLE"⟩,
  ⟨0x1d8d2, "2ANGLE MIDDLE RING LITTLE OUT;6IN;5LITTLE;2CIRCLE MIDDLE RING LITTLE BENT"⟩,
  ⟨0x1d8d6, "2CLAW MIDDLE RING LITTLE CONJOINED;6CONJOINED SIDE"⟩,
  ⟨0x1d8d8, "2HOOK MIDDLE RING LITTLE CONJOINED OUT;7IN;6CONJOINED;2HINGE INDEX HINGED"⟩,
  ⟨0x1d8dc, "2FIST INDEX THUMB SIDE;2HINGE INDEX THUMB SIDE;2FIST INDEX THUMB SIDE THUMB DIAGONAL"⟩,
  ⟨0x1d8df, "7CONJOINED;7BENT;6INDEX BENT;6BOTH BENT;6INDEX HINGE;5FORWARD INDEX STRAIGHT;7BENT"⟩,
  ⟨0x1d8e6, "5HOOK;5CURLICUE;5CURVE THUMB INSIDE;2CLAW INDEX THUMB CURVE THUMB INSIDE"⟩,
  ⟨0x1d8ea, "2FIST INDEX THUMB CURVE THUMB UNDER;5CIRCLE;2CUP INDEX THUMB;4THUMB OPEN"⟩,
  ⟨0x1d8ee, "2HINGE INDEX THUMB OPEN;5LARGE;4THUMB;4THUMB SMALL;2ANGLE INDEX THUMB OUT;5IN;4THUMB"⟩,
  ⟨0x1d8f5, "2FIST THUMB;3THUMB HEEL;4SIDE DIAGONAL;5CONJOINED;5BENT;4FORWARD"⟩,
  ⟨0x1d8fb, "4BETWEEN INDEX MIDDLE;5MIDDLE RING;5RING LITTLE;4UNDER TWO FINGERS;4OVER TWO FINGERS"⟩,
  ⟨0x1d900, "4UNDER THREE FINGERS;5FOUR FINGERS;4OVER FOUR RAISED KNUCKLES;2FIST;2FIST HEEL"⟩,
  ⟨0x1d905, "1TOUCH SINGLE;2MULTIPLE;2BETWEEN;1GRASP SINGLE;2MULTIPLE;2BETWEEN;1STRIKE SINGLE"⟩,
  ⟨0x1d90c, "2MULTIPLE;2BETWEEN;1BRUSH SINGLE;2MULTIPLE;2BETWEEN;1RUB SINGLE;2MULTIPLE;2BETWEEN"⟩,
  ⟨0x1d914, "1SURFACE SYMBOLS;2BETWEEN;1SQUEEZE LARGE SINGLE;2SMALL SINGLE;2LARGE MULTIPLE"⟩,
  ⟨0x1d919, "2SMALL MULTIPLE;2SEQUENTIAL;1FLICK LARGE SINGLE;2SMALL SINGLE;2LARGE MULTIPLE"⟩,
  ⟨0x1d91e, "2SMALL MULTIPLE;2SEQUENTIAL;1SQUEEZE FLICK ALTERNATING;1MOVEMENT-HINGE UP DOWN LARGE"⟩,
  ⟨0x1d922, "5SMALL;4SEQUENTIAL;3DOWN SEQUENTIAL;3UP DOWN ALTERNATING LARGE;6SMALL"⟩,
  ⟨0x1d927, "3SIDE TO SIDE SCISSORS;2WALLPLANE FINGER CONTACT;2FLOORPLANE FINGER CONTACT"⟩,
  ⟨0x1d92a, "2WALLPLANE SINGLE STRAIGHT SMALL;5MEDIUM;5LARGE;5LARGEST;4WRIST FLEX"⟩,
  ⟨0x1d92f, "3DOUBLE STRAIGHT;4WRIST FLEX;4ALTERNATING;4ALTERNATING WRIST FLEX;3CROSS"⟩,
  ⟨0x1d934, "3TRIPLE STRAIGHT MOVEMENT;4WRIST FLEX;4ALTERNATING;4ALTERNATING WRIST FLEX"⟩,
  ⟨0x1d938, "3BEND SMALL;4MEDIUM;4LARGE;3CORNER SMALL;4MEDIUM;4LARGE;4ROTATION;3CHECK SMALL"⟩,
  ⟨0x1d940, "4MEDIUM;4LARGE;3BOX SMALL;4MEDIUM;4LARGE;3ZIGZAG SMALL;4MEDIUM;4LARGE;3PEAKS SMALL"⟩,
  ⟨0x1d949, "4MEDIUM;4LARGE;1TRAVEL-WALLPLANE ROTATION-WALLPLANE SINGLE;5DOUBLE;5ALTERNATING"⟩,
  ⟨0x1d94e, "4FLOORPLANE SINGLE;5DOUBLE;5ALTERNATING;3SHAKING;3ARM SPIRAL SINGLE;5DOUBLE;5TRIPLE"⟩,
  ⟨0x1d955, "1MOVEMENT-DIAGONAL AWAY SMALL;4MEDIUM;4LARGE;4LARGEST;3TOWARDS SMALL;4MEDIUM;4LARGE"⟩,
  ⟨0x1d95c, "4LARGEST;3BETWEEN AWAY SMALL;5MEDIUM;5LARGE;5LARGEST;4TOWARDS SMALL;5MEDIUM;5LARGE"⟩,
  ⟨0x1d964, "5LARGEST;2FLOORPLANE SINGLE STRAIGHT SMALL;5MEDIUM;5LARGE;5LARGEST;4WRIST FLEX"⟩,
  ⟨0x1d96a, "3DOUBLE STRAIGHT;4WRIST FLEX;4ALTERNATING;4ALTERNATING WRIST FLEX;3CROSS"⟩,
  ⟨0x1d96f, "3TRIPLE STRAIGHT MOVEMENT;4WRIST FLEX;4ALTERNATING MOVEMENT;5WRIST FLEX;3BEND"⟩,
  ⟨0x1d974, "3CORNER SMALL;4MEDIUM;4LARGE;3CHECK;3BOX SMALL;4MEDIUM;4LARGE;3ZIGZAG SMALL;4MEDIUM"⟩,
  ⟨0x1d97d, "4LARGE;3PEAKS SMALL;4MEDIUM;4LARGE;1TRAVEL-FLOORPLANE ROTATION-FLOORPLANE SINGLE"⟩,
  ⟨0x1d982, "5DOUBLE;5ALTERNATING;4WALLPLANE SINGLE;5DOUBLE;5ALTERNATING;3SHAKING"⟩,
  ⟨0x1d988, "1MOVEMENT-WALLPLANE CURVE QUARTER SMALL;5MEDIUM;5LARGE;5LARGEST;4HALF-CIRCLE SMALL"⟩,
  ⟨0x1d98d, "6MEDIUM;6LARGE;6LARGEST;4THREE-QUARTER CIRCLE SMALL;7MEDIUM;3HUMP SMALL;4MEDIUM"⟩,
  ⟨0x1d994, "4LARGE;3LOOP SMALL;4MEDIUM;4LARGE;4SMALL DOUBLE;3WAVE CURVE DOUBLE SMALL;6MEDIUM"⟩,
  ⟨0x1d99b, "6LARGE;5TRIPLE SMALL;6MEDIUM;6LARGE;3CURVE THEN STRAIGHT;3CURVED CROSS SMALL;5MEDIUM"⟩,
  ⟨0x1d9a2, "1ROTATION-WALLPLANE SINGLE;3DOUBLE;3ALTERNATE;1MOVEMENT-WALLPLANE SHAKING"⟩,
  ⟨0x1d9a6, "3CURVE HITTING FRONT WALL;3HUMP HITTING FRONT WALL;3LOOP HITTING FRONT WALL"⟩,
  ⟨0x1d9a9, "3WAVE HITTING FRONT WALL;1ROTATION-WALLPLANE SINGLE HITTING FRONT WALL"⟩,
  ⟨0x1d9ab, "3DOUBLE HITTING FRONT WALL;3ALTERNATING HITTING FRONT WALL"⟩,
  ⟨0x1d9ad, "1MOVEMENT-WALLPLANE CURVE HITTING CHEST;3HUMP HITTING CHEST;3LOOP HITTING CHEST"⟩,
  ⟨0x1d9b0, "3WAVE HITTING CHEST;1ROTATION-WALLPLANE SINGLE HITTING CHEST;3DOUBLE HITTING CHEST"⟩,
  ⟨0x1d9b3, "3ALTERNATING HITTING CHEST;1MOVEMENT-WALLPLANE WAVE DIAGONAL PATH SMALL;6MEDIUM"⟩,
  ⟨0x1d9b6, "6LARGE;2FLOORPLANE CURVE HITTING CEILING SMALL;6LARGE"⟩,
  ⟨0x1d9b9, "3HUMP HITTING CEILING SMALL DOUBLE;6LARGE DOUBLE;6SMALL TRIPLE;6LARGE TRIPLE"⟩,
  ⟨0x1d9bd, "3LOOP HITTING CEILING SMALL SINGLE;6LARGE SINGLE;6SMALL DOUBLE;6LARGE DOUBLE"⟩,
  ⟨0x1d9c1, "3WAVE HITTING CEILING SMALL;6LARGE;1ROTATION-FLOORPLANE SINGLE HITTING CEILING"⟩,
  ⟨0x1d9c4, "3DOUBLE HITTING CEILING;3ALTERNATING HITTING CEILING"⟩,
  ⟨0x1d9c6, "1MOVEMENT-FLOORPLANE CURVE HITTING FLOOR SMALL;6LARGE"⟩,
  ⟨0x1d9c8, "3HUMP HITTING FLOOR SMALL DOUBLE;6LARGE DOUBLE;6TRIPLE SMALL TRIPLE;7LARGE TRIPLE"⟩,
  ⟨0x1d9cc, "3LOOP HITTING FLOOR SMALL SINGLE;6LARGE SINGLE;6SMALL DOUBLE;6LARGE DOUBLE"⟩,
  ⟨0x1d9d0, "3WAVE HITTING FLOOR SMALL;6LARGE;1ROTATION-FLOORPLANE SINGLE HITTING FLOOR"⟩,
  ⟨0x1d9d3, "3DOUBLE HITTING FLOOR;3ALTERNATING HITTING FLOOR;1MOVEMENT-FLOORPLANE CURVE SMALL"⟩,
  ⟨0x1d9d6, "4MEDIUM;4LARGE;4LARGEST;4COMBINED;3HUMP SMALL;3LOOP SMALL;3WAVE SNAKE;4SMALL;4LARGE"⟩,
  ⟨0x1d9df, "1ROTATION-FLOORPLANE SINGLE;3DOUBLE;3ALTERNATING"⟩,
  ⟨0x1d9e2, "1MOVEMENT-FLOORPLANE SHAKING PARALLEL;2WALLPLANE ARM CIRCLE SMALL SINGLE"⟩,
  ⟨0x1d9e4, "5MEDIUM SINGLE;5SMALL DOUBLE;5MEDIUM DOUBLE"⟩,
  ⟨0x1d9e7, "2FLOORPLANE ARM CIRCLE HITTING WALL SMALL SINGLE;7MEDIUM SINGLE;7LARGE SINGLE"⟩,
  ⟨0x1d9ea, "7SMALL DOUBLE;7MEDIUM DOUBLE;7LARGE DOUBLE;2WALLPLANE WRIST CIRCLE FRONT SINGLE"⟩,
  ⟨0x1d9ee, "6DOUBLE;2FLOORPLANE WRIST CIRCLE HITTING WALL SINGLE;7DOUBLE"⟩,
  ⟨0x1d9f1, "2WALLPLANE FINGER CIRCLES SINGLE;5DOUBLE"⟩,
  ⟨0x1d9f3, "2FLOORPLANE FINGER CIRCLES HITTING WALL SINGLE;7DOUBLE;1DYNAMIC ARROWHEAD SMALL"⟩,
  ⟨0x1d9f6, "3LARGE;2FAST;2SLOW;2TENSE;2RELAXED;2SIMULTANEOUS;2SIMULTANEOUS ALTERNATING"⟩,
  ⟨0x1d9fd, "2EVERY OTHER TIME;2GRADUAL;1HEAD;1HEAD RIM;2MOVEMENT-WALLPLANE STRAIGHT;4TILT"⟩,
  ⟨0x1da03, "3FLOORPLANE STRAIGHT;3WALLPLANE CURVE;3FLOORPLANE CURVE;2MOVEMENT CIRCLE"⟩,
  ⟨0x1da07, "1FACE DIRECTION POSITION NOSE FORWARD TILTING;5UP OR DOWN;7DOWN TILTING"⟩,
  ⟨0x1da0a, "1EYEBROWS STRAIGHT UP;3NEUTRAL;3DOWN;1DREAMY EYEBROWS NEUTRAL DOWN;3DOWN NEUTRAL"⟩,
  ⟨0x1da0f, "3UP NEUTRAL;3NEUTRAL UP;1FOREHEAD NEUTRAL;2CONTACT;2WRINKLED;1EYES OPEN;2SQUEEZED"⟩,
  ⟨0x1da16, "2CLOSED;1EYE BLINK SINGLE;3MULTIPLE;1EYES HALF OPEN;2WIDE OPEN;2HALF CLOSED"⟩,
  ⟨0x1da1c, "2WIDENING MOVEMENT;1EYE WINK;1EYELASHES UP;2DOWN;2FLUTTERING"⟩,
  ⟨0x1da21, "1EYEGAZE-WALLPLANE STRAIGHT;3STRAIGHT DOUBLE;4ALTERNATING;2FLOORPLANE STRAIGHT"⟩,
  ⟨0x1da25, "3STRAIGHT DOUBLE;4ALTERNATING;2WALLPLANE CURVED;2FLOORPLANE CURVED"⟩,
  ⟨0x1da29, "2WALLPLANE CIRCLING;1CHEEKS PUFFED;2NEUTRAL;2SUCKED;1TENSE CHEEKS HIGH;3MIDDLE;3LOW"⟩,
  ⟨0x1da30, "1EARS;1NOSE NEUTRAL;2CONTACT;2WRINKLES;2WIGGLES;1AIR BLOWING OUT;2SUCKING IN"⟩,
  ⟨0x1da37, "2BLOW SMALL ROTATIONS;2SUCK SMALL ROTATIONS;1BREATH INHALE;2EXHALE"⟩,
  ⟨0x1da3b, "1MOUTH CLOSED NEUTRAL;3FORWARD;3CONTACT;2SMILE;2SMILE WRINKLED;3OPEN;2FROWN"⟩,
  ⟨0x1da42, "2FROWN WRINKLED;3OPEN;2OPEN CIRCLE;3FORWARD;3WRINKLED;3OVAL;3OVAL WRINKLED;4YAWN"⟩,
  ⟨0x1da4a, "3RECTANGLE;3RECTANGLE WRINKLED;4YAWN;2KISS;2KISS FORWARD;3WRINKLED;2TENSE"⟩,
  ⟨0x1da51, "2TENSE FORWARD;3SUCKED;1LIPS PRESSED TOGETHER;1LIP LOWER OVER UPPER"⟩,
  ⟨0x1da55, "2UPPER OVER LOWER;1MOUTH CORNERS;2WRINKLES SINGLE;3DOUBLE;1TONGUE STICKING OUT FAR"⟩,
  ⟨0x1da5a, "2LICKING LIPS;2TIP BETWEEN LIPS;3TOUCHING INSIDE MOUTH;2INSIDE MOUTH RELAXED"⟩,
  ⟨0x1da5e, "2MOVES AGAINST CHEEK;2CENTRE STICKING OUT;3INSIDE MOUTH;1TEETH;1TEETH MOVEMENT"⟩,
  ⟨0x1da63, "2ON TONGUE;3TONGUE MOVEMENT;3LIPS;3LIPS MOVEMENT;2BITE LIPS;1MOVEMENT-WALLPLANE JAW"⟩,
  ⟨0x1da69, "2FLOORPLANE JAW;1NECK;1HAIR;1EXCITEMENT;1SHOULDER HIP SPINE;3POSITIONS"⟩,
  ⟨0x1da6f, "1WALLPLANE SHOULDER HIP MOVE;1FLOORPLANE SHOULDER HIP MOVE"⟩,
  ⟨0x1da71, "1SHOULDER TILTING FROM WAIST;1TORSO-WALLPLANE STRAIGHT STRETCH;3CURVED BEND"⟩,
  ⟨0x1da74, "2FLOORPLANE TWISTING;1UPPER BODY TILTING FROM HIP JOINTS;1LIMB COMBINATION;2LENGTH-1"⟩,
  ⟨0x1da78, "32;33;34;35;36;37;1FINGER;1LOCATION-WALLPLANE SPACE;2FLOORPLANE SPACE"⟩,
  ⟨0x1da81, "1LOCATION HEIGHT;2WIDTH;2DEPTH;2HEAD NECK;2TORSO;2LIMBS DIGITS;1COMMA;1FULL STOP"⟩,
  ⟨0x1da89, "1SEMICOLON;1COLON;1PARENTHESIS"⟩,
  ⟨0x1da9b, "1FILL MODIFIER-2;33;34;35;36"⟩,
  ⟨0x1daa1, "1ROTATION MODIFIER-2;33;34;35;36;37;38;39;310;311;312;313;314;315;316"⟩,
  ⟨0x1df00, "0LATIN SMALL LETTER FENG DIGRAPH WITH TRILL;3REVERSED SCRIPT G"⟩,
  ⟨0x1df02, "1LETTER SMALL CAPITAL TURNED G;1SMALL LETTER REVERSED K"⟩,
  ⟨0x1df04, "1LETTER SMALL CAPITAL L WITH BELT;1SMALL LETTER LEZH WITH RETROFLEX HOOK"⟩,
  ⟨0x1df06, "3TURNED Y WITH BELT;3REVERSED ENG;3TURNED R WITH LONG LEG AND RETROFLEX HOOK"⟩,
  ⟨0x1df09, "3T WITH HOOK AND RETROFLEX HOOK;1LETTER RETROFLEX CLICK WITH RETROFLEX HOOK"⟩,
  ⟨0x1df0b, "1SMALL LETTER ESH WITH DOUBLE BAR;6BAR AND CURL;3TURNED T WITH CURL"⟩,
  ⟨0x1df0e, "1LETTER INVERTED GLOTTAL STOP WITH CURL;2STRETCHED C WITH CURL"⟩,
  ⟨0x1df10, "2SMALL CAPITAL TURNED K;1SMALL LETTER L WITH FISHHOOK"⟩,
  ⟨0x1df12, "3DEZH DIGRAPH WITH PALATAL HOOK;3L WITH BELT AND PALATAL HOOK;3ENG WITH PALATAL HOOK"⟩,
  ⟨0x1df15, "3TURNED R WITH PALATAL HOOK;3R WITH FISHHOOK AND PALATAL HOOK"⟩,
  ⟨0x1df17, "3TESH DIGRAPH WITH PALATAL HOOK;3EZH WITH PALATAL HOOK"⟩,
  ⟨0x1df19, "3DEZH DIGRAPH WITH RETROFLEX HOOK;3I WITH STROKE AND RETROFLEX HOOK"⟩,
  ⟨0x1df1b, "3O WITH RETROFLEX HOOK;3TESH DIGRAPH WITH RETROFLEX HOOK;3C WITH RETROFLEX HOOK"⟩,
  ⟨0x1df1e, "3S WITH CURL"⟩,
  ⟨0x1e000, "0COMBINING GLAGOLITIC LETTER AZU;3BUKY;3VEDE;3GLAGOLI;3DOBRO;3YESTU;3ZHIVETE"⟩,
  ⟨0x1e008, "3ZEMLJA;3IZHE;3INITIAL IZHE;3I;3DJERVI;3KAKO;3LJUDIJE;3MYSLITE;3NASHI;3ONU;3POKOJI"⟩,
  ⟨0x1e013, "3RITSI;3SLOVO;3TVRIDO;3UKU;3FRITU;3HERU"⟩,
  ⟨0x1e01b, "3SHTA;3TSI;3CHRIVI;3SHA;3YERU;3YERI;3YATI"⟩,
  ⟨0x1e023, "3YU;3SMALL YUS"⟩,
  ⟨0x1e026, "3YO;3IOTATED SMALL YUS;3BIG YUS;3IOTATED BIG YUS;3FITA"⟩,
  ⟨0x1e100, "0NYIAKENG PUACHUE HMONG LETTER MA;4TSA;4NTA;4TA;4HA;4NA;4XA;4NKA;4CA;4LA;4SA;4ZA"⟩,
  ⟨0x1e10c, "4NCA;4NTSA;4KA;4DA;4NYA;4NRA;4VA;4NTXA;4TXA;4FA;4RA;4QA;4YA;4NQA;4PA;4XYA;4NPA;4DLA"⟩,
  ⟨0x1e11e, "4NPLA;4HAH;4MLA;4PLA;4GA;4RRA;4A;4AA;4I;4U;4O;4OO;4E;4EE;4W"⟩,
  ⟨0x1e130, "3TONE-B;4M;4J;4V;4S;4G;4D;3SIGN FOR PERSON;5THING;5LOCATION;5ANIMAL;5INVERTEBRATE"⟩,
  ⟨0x1e13c, "4XW XW;3SYLLABLE LENGTHENER"⟩,
  ⟨0x1e140, "3DIGIT ZERO;4ONE;4TWO;4THREE;4FOUR;4FIVE;4SIX;4SEVEN;4EIGHT;4NINE"⟩,
  ⟨0x1e14e, "3LOGOGRAM NYAJ;3CIRCLED CA"⟩,
  ⟨0x1e290, "0TOTO LETTER PA;2BA;2TA;2DA;2KA;2GA;2MA;2NA;2NGA;2SA;2CHA;2YA;2WA;2JA;2HA;2RA;2LA;2I"⟩,
  ⟨0x1e2a2, "2BREATHY I;2IU;2BREATHY IU;2U;2E;2BREATHY E;2EO;2BREATHY EO;2O;2AE;2BREATHY AE;2A"⟩,
  ⟨0x1e2ae, "1SIGN RISING TONE"⟩,
  ⟨0x1e2c0, "0WANCHO LETTER AA;2A;2BA;2CA;2DA;2GA;2YA;2PHA;2LA;2NA;2PA;2TA;2THA;2FA;2SA;2SHA;2JA"⟩,
  ⟨0x1e2d1, "2ZA;2WA;2VA;2KA;2O;2AU;2RA;2MA;2KHA;2HA;2E;2I;2NGA;2U;2LLHA;2TSA;2TRA;2ONG;2AANG"⟩,
  ⟨0x1e2e4, "2ANG;2ING;2ON;2EN;2AAN;2NYA;2UEN;2YIH;1TONE TUP;2TUPNI;2KOI;2KOINI;1DIGIT ZERO;2ONE"⟩,
  ⟨0x1e2f2, "2TWO;2THREE;2FOUR;2FIVE;2SIX;2SEVEN;2EIGHT;2NINE"⟩,
  ⟨0x1e2ff, "1NGUN SIGN"⟩,
  ⟨0x1e7e0, "0ETHIOPIC SYLLABLE HHYA;2HHYU;2HHYI;2HHYAA;2HHYEE;2HHYE;2HHYO"⟩,
  ⟨0x1e7e8, "2GURAGE HHWA;2HHWI;2HHWEE;2HHWE"⟩,
  ⟨0x1e7ed, "2GURAGE MWI;3MWEE"⟩,
  ⟨0x1e7f0, "3QWI;3QWEE;3QWE;3BWI;3BWEE;3KWI;3KWEE;3KWE;3GWI;3GWEE;3GWE;3FWI;3FWEE;3PWI;3PWEE"⟩,
  ⟨0x1e800, "0MENDE KIKAKUI SYLLABLE M001 KI;3M002 KA;3M003 KU;3M065 KEE;3M095 KE;3M076 KOO"⟩,
  ⟨0x1e806, "3M048 KO;3M179 KUA;3M004 WI;3M005 WA;3M006 WU;3M126 WEE;3M118 WE;3M114 WOO;3M045 WO"⟩,
  ⟨0x1e80f, "3M194 WUI;3M143 WEI;3M061 WVI;3M049 WVA;3M139 WVE;3M007 MIN;3M008 MAN;3M009 MUN"⟩,
  ⟨0x1e817, "3M059 MEN;3M094 MON;3M154 MUAN;3M189 MUEN;3M010 BI;3M011 BA;3M012 BU;3M150 BEE"⟩,
  ⟨0x1e81f, "3M097 BE;3M103 BOO;3M138 BO;3M013 I;3M014 A;3M015 U;3M163 EE;3M100 E;3M165 OO"⟩,
  ⟨0x1e828, "3M147 O;3M137 EI;3M131 IN;3M135 IN;3M195 AN;3M178 EN;3M019 SI;3M020 SA;3M021 SU"⟩,
  ⟨0x1e831, "3M162 SEE;3M116 SE;3M136 SOO;3M079 SO;3M196 SIA;3M025 LI;3M026 LA;3M027 LU;3M084 LEE"⟩,
  ⟨0x1e83a, "3M073 LE;3M054 LOO;3M153 LO;3M110 LONG LE;3M016 DI;3M017 DA;3M018 DU;3M089 DEE"⟩,
  ⟨0x1e842, "3M180 DOO;3M181 DO;3M022 TI;3M023 TA;3M024 TU;3M091 TEE;3M055 TE;3M104 TOO;3M069 TO"⟩,
  ⟨0x1e84b, "3M028 JI;3M029 JA;3M030 JU;3M157 JEE;3M113 JE;3M160 JOO;3M063 JO;3M175 LONG JO"⟩,
  ⟨0x1e853, "3M031 YI;3M032 YA;3M033 YU;3M109 YEE;3M080 YE;3M141 YOO;3M121 YO;3M034 FI;3M035 FA"⟩,
  ⟨0x1e85c, "3M036 FU;3M078 FEE;3M075 FE;3M133 FOO;3M088 FO;3M197 FUA;3M101 FAN;3M037 NIN"⟩,
  ⟨0x1e864, "3M038 NAN;3M039 NUN;3M117 NEN;3M169 NON;3M176 HI;3M041 HA;3M186 HU;3M040 HEE"⟩,
  ⟨0x1e86c, "3M096 HE;3M042 HOO;3M140 HO;3M083 HEEI;3M128 HOOU;3M053 HIN;3M130 HAN;3M087 HUN"⟩,
  ⟨0x1e874, "3M052 HEN;3M193 HON;3M046 HUAN;3M090 NGGI;3M043 NGGA;3M082 NGGU;3M115 NGGEE"⟩,
  ⟨0x1e87b, "3M146 NGGE;3M156 NGGOO;3M120 NGGO;3M159 NGGAA;3M127 NGGUA;3M086 LONG NGGE"⟩,
  ⟨0x1e881, "3M106 LONG NGGOO;3M183 LONG NGGO;3M155 GI;3M111 GA;3M168 GU;3M190 GEE;3M166 GUEI"⟩,
  ⟨0x1e888, "3M167 GUAN;3M184 NGEN;3M057 NGON;3M177 NGUAN;3M068 PI;3M099 PA;3M050 PU;3M081 PEE"⟩,
  ⟨0x1e890, "3M051 PE;3M102 POO;3M066 PO;3M145 MBI;3M062 MBA;3M122 MBU;3M047 MBEE;3M188 MBEE"⟩,
  ⟨0x1e898, "3M072 MBE;3M172 MBOO;3M174 MBO;3M187 MBUU;3M161 LONG MBE;3M105 LONG MBOO"⟩,
  ⟨0x1e89e, "3M142 LONG MBO;3M132 KPI;3M092 KPA;3M074 KPU;3M044 KPEE;3M108 KPE;3M112 KPOO"⟩,
  ⟨0x1e8a5, "3M158 KPO;3M124 GBI;3M056 GBA;3M148 GBU;3M093 GBEE;3M107 GBE;3M071 GBOO;3M070 GBO"⟩,
  ⟨0x1e8ad, "3M171 RA;3M123 NDI;3M129 NDA;3M125 NDU;3M191 NDEE;3M119 NDE;3M067 NDOO;3M064 NDO"⟩,
  ⟨0x1e8b5, "3M152 NJA;3M192 NJU;3M149 NJEE;3M134 NJOO;3M182 VI;3M185 VA;3M151 VU;3M173 VEE"⟩,
  ⟨0x1e8bd, "3M085 VE;3M144 VOO;3M077 VO;3M164 NYIN;3M058 NYAN;3M170 NYUN;3M098 NYEN;3M060 NYON"⟩,
  ⟨0x1e8c7, "2DIGIT ONE;3TWO;3THREE;3FOUR;3FIVE;3SIX;3SEVEN;3EIGHT;3NINE;2COMBINING NUMBER TEENS"⟩,
  ⟨0x1e8d1, "4TENS;4HUNDREDS;4THOUSANDS;4TEN THOUSANDS;4HUNDRED THOUSANDS;4MILLIONS"⟩,
  ⟨0x1e900, "0ADLAM CAPITAL LETTER ALIF;3DAALI;3LAAM;3MIIM;3BA;3SINNYIIYHE;3PE;3BHE;3RA;3E;3FA;3I"⟩,
  ⟨0x1e90c, "3O;3DHA;3YHE;3WAW;3NUN;3KAF;3YA;3U;3JIIM;3CHI;3HA;3QAAF;3GA;3NYA;3TU;3NHA;3VA;3KHA"⟩,
  ⟨0x1e91e, "3GBE;3ZAL;3KPO;3SHA;1SMALL LETTER ALIF;3DAALI;3LAAM;3MIIM;3BA;3SINNYIIYHE;3PE;3BHE"⟩,
  ⟨0x1e92a, "3RA;3E;3FA;3I;3O;3DHA;3YHE;3WAW;3NUN;3KAF;3YA;3U;3JIIM;3CHI;3HA;3QAAF;3GA;3NYA;3TU"⟩,
  ⟨0x1e93d, "3NHA;3VA;3KHA;3GBE;3ZAL;3KPO;3SHA;1ALIF LENGTHENER;1VOWEL LENGTHENER"⟩,
  ⟨0x1e946, "1GEMINATION MARK;1HAMZA;1CONSONANT MODIFIER;1GEMINATE CONSONANT MODIFIER;1NUKTA"⟩,
  ⟨0x1e94b, "1NASALIZATION MARK"⟩,
  ⟨0x1e950, "1DIGIT ZERO;2ONE;2TWO;2THREE;2FOUR;2FIVE;2SIX;2SEVEN;2EIGHT;2NINE"⟩,
  ⟨0x1e95e, "1INITIAL EXCLAMATION MARK;2QUESTION MARK"⟩,
  ⟨0x1ec71, "0INDIC SIYAQ NUMBER ONE;3TWO;3THREE;3FOUR;3FIVE;3SIX;3SEVEN;3EIGHT;3NINE;3TEN"⟩,
  ⟨0x1ec7b, "3TWENTY;3THIRTY;3FORTY;3FIFTY;3SIXTY;3SEVENTY;3EIGHTY;3NINETY;3ONE HUNDRED"⟩,
  ⟨0x1ec84, "3TWO HUNDRED;3THREE HUNDRED;3FOUR HUNDRED;3FIVE HUNDRED;3SIX HUNDRED;3SEVEN HUNDRED"⟩,
  ⟨0x1ec8a, "3EIGHT HUNDRED;3NINE HUNDRED;3ONE THOUSAND;3TWO THOUSAND;3THREE THOUSAND"⟩,
  ⟨0x1ec8f, "3FOUR THOUSAND;3FIVE THOUSAND;3SIX THOUSAND;3SEVEN THOUSAND;3EIGHT THOUSAND"⟩,
  ⟨0x1ec94, "3NINE THOUSAND;3TEN THOUSAND;3TWENTY THOUSAND;3THIRTY THOUSAND;3FORTY THOUSAND"⟩,
  ⟨0x1ec99, "3FIFTY THOUSAND;3SIXTY THOUSAND;3SEVENTY THOUSAND;3EIGHTY THOUSAND;3NINETY THOUSAND"⟩,
  ⟨0x1ec9e, "3LAKH;3LAKHAN;2LAKH MARK;2NUMBER KAROR;3KARORAN;3PREFIXED ONE;4TWO;4THREE;4FOUR"⟩,
  ⟨0x1eca7, "4FIVE;4SIX;4SEVEN;4EIGHT;4NINE;2PLACEHOLDER;2FRACTION ONE QUARTER;4HALF"⟩,
  ⟨0x1ecaf, "3THREE QUARTERS;2RUPEE MARK;2NUMBER ALTERNATE ONE;4TWO;4TEN THOUSAND"⟩,
  ⟨0x1ecb4, "2ALTERNATE LAKH MARK"⟩,
  ⟨0x1ed01, "0OTTOMAN SIYAQ NUMBER ONE;3TWO;3THREE;3FOUR;3FIVE;3SIX;3SEVEN;3EIGHT;3NINE;3TEN"⟩,
  ⟨0x1ed0b, "3TWENTY;3THIRTY;3FORTY;3FIFTY;3SIXTY;3SEVENTY;3EIGHTY;3NINETY;3ONE HUNDRED"⟩,
  ⟨0x1ed14, "3TWO HUNDRED;3THREE HUNDRED;3FOUR HUNDRED;3FIVE HUNDRED;3SIX HUNDRED;3SEVEN HUNDRED"⟩,
  ⟨0x1ed1a, "3EIGHT HUNDRED;3NINE HUNDRED;3ONE THOUSAND;3TWO THOUSAND;3THREE THOUSAND"⟩,
  ⟨0x1ed1f, "3FOUR THOUSAND;3FIVE THOUSAND;3SIX THOUSAND;3SEVEN THOUSAND;3EIGHT THOUSAND"⟩,
  ⟨0x1ed24, "3NINE THOUSAND;3TEN THOUSAND;3TWENTY THOUSAND;3THIRTY THOUSAND;3FORTY THOUSAND"⟩,
  ⟨0x1ed29, "3FIFTY THOUSAND;3SIXTY THOUSAND;3SEVENTY THOUSAND;3EIGHTY THOUSAND;3NINETY THOUSAND"⟩,
  ⟨0x1ed2e, "2MARRATAN;2ALTERNATE NUMBER TWO;4THREE;4FOUR;4FIVE;4SIX;4SEVEN;4EIGHT;4NINE;4TEN"⟩,
  ⟨0x1ed38, "4FOUR HUNDRED;4SIX HUNDRED;4TWO THOUSAND;4TEN THOUSAND;2FRACTION ONE HALF;4SIXTH"⟩]

end Character
end DirectiveLint
