import DirectiveLint.Character.Name.Row

/-!
# Further names

Control characters have no name of their own, and some characters have a
corrected name or an abbreviation beside theirs.  Each row lists the further
names of one character.
-/

namespace DirectiveLint
namespace Character

/-- Further names of characters. -/
def furtherNames : Array NameRow := #[
  ⟨0x0, "0NULL;0NUL"⟩,
  ⟨0x1, "0START OF HEADING;0SOH"⟩,
  ⟨0x2, "0START OF TEXT;0STX"⟩,
  ⟨0x3, "0END OF TEXT;0ETX"⟩,
  ⟨0x4, "0END OF TRANSMISSION;0EOT"⟩,
  ⟨0x5, "0ENQUIRY;0ENQ"⟩,
  ⟨0x6, "0ACKNOWLEDGE;0ACK"⟩,
  ⟨0x7, "0ALERT;0BEL"⟩,
  ⟨0x8, "0BACKSPACE;0BS"⟩,
  ⟨0x9, "0CHARACTER TABULATION;0HORIZONTAL TABULATION;0HT;0TAB"⟩,
  ⟨0xa, "0LINE FEED;0NEW LINE;0END OF LINE;0LF;0NL;0EOL"⟩,
  ⟨0xb, "0LINE TABULATION;0VERTICAL TABULATION;0VT"⟩,
  ⟨0xc, "0FORM FEED;0FF"⟩,
  ⟨0xd, "0CARRIAGE RETURN;0CR"⟩,
  ⟨0xe, "0SHIFT OUT;0LOCKING-SHIFT ONE;0SO"⟩,
  ⟨0xf, "0SHIFT IN;0LOCKING-SHIFT ZERO;0SI"⟩,
  ⟨0x10, "0DATA LINK ESCAPE;0DLE"⟩,
  ⟨0x11, "0DEVICE CONTROL ONE;0DC1"⟩,
  ⟨0x12, "0DEVICE CONTROL TWO;0DC2"⟩,
  ⟨0x13, "0DEVICE CONTROL THREE;0DC3"⟩,
  ⟨0x14, "0DEVICE CONTROL FOUR;0DC4"⟩,
  ⟨0x15, "0NEGATIVE ACKNOWLEDGE;0NAK"⟩,
  ⟨0x16, "0SYNCHRONOUS IDLE;0SYN"⟩,
  ⟨0x17, "0END OF TRANSMISSION BLOCK;0ETB"⟩,
  ⟨0x18, "0CANCEL;0CAN"⟩,
  ⟨0x19, "0END OF MEDIUM;0EOM"⟩,
  ⟨0x1a, "0SUBSTITUTE;0SUB"⟩,
  ⟨0x1b, "0ESCAPE;0ESC"⟩,
  ⟨0x1c, "0INFORMATION SEPARATOR FOUR;0FILE SEPARATOR;0FS"⟩,
  ⟨0x1d, "0INFORMATION SEPARATOR THREE;0GROUP SEPARATOR;0GS"⟩,
  ⟨0x1e, "0INFORMATION SEPARATOR TWO;0RECORD SEPARATOR;0RS"⟩,
  ⟨0x1f, "0INFORMATION SEPARATOR ONE;0UNIT SEPARATOR;0US"⟩,
  ⟨0x20, "0SP"⟩,
  ⟨0x7f, "0DELETE;0DEL"⟩,
  ⟨0x80, "0PADDING CHARACTER;0PAD"⟩,
  ⟨0x81, "0HIGH OCTET PRESET;0HOP"⟩,
  ⟨0x82, "0BREAK PERMITTED HERE;0BPH"⟩,
  ⟨0x83, "0NO BREAK HERE;0NBH"⟩,
  ⟨0x84, "0INDEX;0IND"⟩,
  ⟨0x85, "0NEXT LINE;0NEL"⟩,
  ⟨0x86, "0START OF SELECTED AREA;0SSA"⟩,
  ⟨0x87, "0END OF SELECTED AREA;0ESA"⟩,
  ⟨0x88, "0CHARACTER TABULATION SET;0HORIZONTAL TABULATION SET;0HTS"⟩,
  ⟨0x89, "0CHARACTER TABULATION WITH JUSTIFICATION;0HORIZONTAL TABULATION WITH JUSTIFICATION;0HTJ"⟩,
  ⟨0x8a, "0LINE TABULATION SET;0VERTICAL TABULATION SET;0VTS"⟩,
  ⟨0x8b, "0PARTIAL LINE FORWARD;2DOWN;0PLD"⟩,
  ⟨0x8c, "0PARTIAL LINE BACKWARD;2UP;0PLU"⟩,
  ⟨0x8d, "0REVERSE LINE FEED;1INDEX;0RI"⟩,
  ⟨0x8e, "0SINGLE SHIFT TWO;0SINGLE-SHIFT-2;0SS2"⟩,
  ⟨0x8f, "0SINGLE SHIFT THREE;0SINGLE-SHIFT-3;0SS3"⟩,
  ⟨0x90, "0DEVICE CONTROL STRING;0DCS"⟩,
  ⟨0x91, "0PRIVATE USE ONE;1USE-1;0PU1"⟩,
  ⟨0x92, "0PRIVATE USE TWO;1USE-2;0PU2"⟩,
  ⟨0x93, "0SET TRANSMIT STATE;0STS"⟩,
  ⟨0x94, "0CANCEL CHARACTER;0CCH"⟩,
  ⟨0x95, "0MESSAGE WAITING;0MW"⟩,
  ⟨0x96, "0START OF GUARDED AREA;2PROTECTED AREA;0SPA"⟩,
  ⟨0x97, "0END OF GUARDED AREA;2PROTECTED AREA;0EPA"⟩,
  ⟨0x98, "0START OF STRING;0SOS"⟩,
  ⟨0x99, "0SINGLE GRAPHIC CHARACTER INTRODUCER;0SGC"⟩,
  ⟨0x9a, "0SINGLE CHARACTER INTRODUCER;0SCI"⟩,
  ⟨0x9b, "0CONTROL SEQUENCE INTRODUCER;0CSI"⟩,
  ⟨0x9c, "0STRING TERMINATOR;0ST"⟩,
  ⟨0x9d, "0OPERATING SYSTEM COMMAND;0OSC"⟩,
  ⟨0x9e, "0PRIVACY MESSAGE;0PM"⟩,
  ⟨0x9f, "0APPLICATION PROGRAM COMMAND;0APC"⟩,
  ⟨0xa0, "0NBSP"⟩,
  ⟨0xad, "0SHY"⟩,
  ⟨0x1a2, "0LATIN CAPITAL LETTER GHA"⟩,
  ⟨0x1a3, "1SMALL LETTER GHA"⟩,
  ⟨0x34f, "0CGJ"⟩,
  ⟨0x61c, "0ALM"⟩,
  ⟨0x709, "0SYRIAC SUBLINEAR COLON SKEWED LEFT"⟩,
  ⟨0xcde, "0KANNADA LETTER LLLA"⟩,
  ⟨0xe9d, "0LAO LETTER FO FON"⟩,
  ⟨0xe9f, "3FAY"⟩,
  ⟨0xea3, "2RO"⟩,
  ⟨0xea5, "2LO"⟩,
  ⟨0xfd0, "0TIBETAN MARK BKA- SHOG GI MGO RGYAN"⟩,
  ⟨0x11ec, "0HANGUL JONGSEONG YESIEUNG-KIYEOK"⟩,
  ⟨0x11ed, "3SSANGKIYEOK"⟩,
  ⟨0x11ee, "2SSANGYESIEUNG"⟩,
  ⟨0x11ef, "2YESIEUNG-KHIEUKH"⟩,
  ⟨0x180b, "0FVS1"⟩,
  ⟨0x180c, "0FVS2"⟩,
  ⟨0x180d, "0FVS3"⟩,
  ⟨0x180e, "0MVS"⟩,
  ⟨0x180f, "0FVS4"⟩,
  ⟨0x200b, "0ZWSP"⟩,
  ⟨0x200c, "0ZWNJ"⟩,
  ⟨0x200d, "0ZWJ"⟩,
  ⟨0x200e, "0LRM"⟩,
  ⟨0x200f, "0RLM"⟩,
  ⟨0x202a, "0LRE"⟩,
  ⟨0x202b, "0RLE"⟩,
  ⟨0x202c, "0PDF"⟩,
  ⟨0x202d, "0LRO"⟩,
  ⟨0x202e, "0RLO"⟩,
  ⟨0x202f, "0NNBSP"⟩,
  ⟨0x205f, "0MMSP"⟩,
  ⟨0x2060, "0WJ"⟩,
  ⟨0x2066, "0LRI"⟩,
  ⟨0x2067, "0RLI"⟩,
  ⟨0x2068, "0FSI"⟩,
  ⟨0x2069, "0PDI"⟩,
  ⟨0x2118, "0WEIERSTRASS ELLIPTIC FUNCTION"⟩,
  ⟨0x2448, "0MICR ON US SYMBOL"⟩,
  ⟨0x2449, "1DASH SYMBOL"⟩,
  ⟨0x2b7a, "0LEFTWARDS TRIANGLE-HEADED ARROW WITH DOUBLE VERTICAL STROKE"⟩,
  ⟨0x2b7c, "0RIGHTWARDS TRIANGLE-HEADED ARROW WITH DOUBLE VERTICAL STROKE"⟩,
  ⟨0xa015, "0YI SYLLABLE ITERATION MARK"⟩,
  ⟨0xaa6e, "0MYANMAR LETTER KHAMTI LLA"⟩,
  ⟨0xfe18, "0PRESENTATION FORM FOR VERTICAL RIGHT WHITE LENTICULAR BRACKET"⟩,
  ⟨0xfeff, "0BYTE ORDER MARK;0BOM;0ZWNBSP"⟩,
  ⟨0x122d4, "0CUNEIFORM SIGN NU11 TENU"⟩,
  ⟨0x122d5, "3OVER NU11 BUR OVER BUR"⟩,
  ⟨0x16e56, "0MEDEFAIDRIN CAPITAL LETTER H"⟩,
  ⟨0x16e57, "3NG"⟩,
  ⟨0x16e76, "1SMALL LETTER H"⟩,
  ⟨0x16e77, "3NG"⟩,
  ⟨0x1b001, "0HENTAIGANA LETTER E-1"⟩,
  ⟨0x1d0c5, "0BYZANTINE MUSICAL SYMBOL FTHORA SKLIRON CHROMA VASIS"⟩]

end Character
end DirectiveLint
