/-!
# Names of characters: aliases

Further names of characters, among them those of controls and what replaces names that were
given in error, in runs of consecutive code points as in the tables of names.  A character with
several aliases is in several runs.
-/

namespace Docwright.Text.CharName

/-- Runs of aliases: the first code point, how the aliases begin, and what each has behind that,
separated by semicolons. -/
def aliases : List (Nat × String × List String) := [
  (0x0, "",
    ["NULL;START OF HEADING;START OF TEXT;END OF TEXT;END OF TRANSMISSION;ENQUIRY;ACKNOWLEDGE",
     "ALERT;BACKSPACE;CHARACTER TABULATION;LINE FEED;LINE TABULATION;FORM FEED;CARRIAGE RETURN",
     "SHIFT OUT;SHIFT IN;DATA LINK ESCAPE;DEVICE CONTROL ONE;DEVICE CONTROL TWO",
     "DEVICE CONTROL THREE;DEVICE CONTROL FOUR;NEGATIVE ACKNOWLEDGE;SYNCHRONOUS IDLE",
     "END OF TRANSMISSION BLOCK;CANCEL;END OF MEDIUM;SUBSTITUTE;ESCAPE",
     "INFORMATION SEPARATOR FOUR;INFORMATION SEPARATOR THREE;INFORMATION SEPARATOR TWO",
     "INFORMATION SEPARATOR ONE;SP"]),
  (0x7F, "",
    ["DELETE;PADDING CHARACTER;HIGH OCTET PRESET;BREAK PERMITTED HERE;NO BREAK HERE;INDEX",
     "NEXT LINE;START OF SELECTED AREA;END OF SELECTED AREA;CHARACTER TABULATION SET",
     "CHARACTER TABULATION WITH JUSTIFICATION;LINE TABULATION SET;PARTIAL LINE FORWARD",
     "PARTIAL LINE BACKWARD;REVERSE LINE FEED;SINGLE SHIFT TWO;SINGLE SHIFT THREE",
     "DEVICE CONTROL STRING;PRIVATE USE ONE;PRIVATE USE TWO;SET TRANSMIT STATE;CANCEL CHARACTER",
     "MESSAGE WAITING;START OF GUARDED AREA;END OF GUARDED AREA;START OF STRING",
     "SINGLE GRAPHIC CHARACTER INTRODUCER;SINGLE CHARACTER INTRODUCER",
     "CONTROL SEQUENCE INTRODUCER;STRING TERMINATOR;OPERATING SYSTEM COMMAND;PRIVACY MESSAGE",
     "APPLICATION PROGRAM COMMAND;NBSP"]),
  (0xAD, "", ["SHY"]),
  (0x1A2, "", ["LATIN CAPITAL LETTER GHA;LATIN SMALL LETTER GHA"]),
  (0x34F, "", ["CGJ"]),
  (0x61C, "", ["ALM"]),
  (0x709, "", ["SYRIAC SUBLINEAR COLON SKEWED LEFT"]),
  (0xCDE, "", ["KANNADA LETTER LLLA"]),
  (0xE9D, "", ["LAO LETTER FO FON"]),
  (0xE9F, "", ["LAO LETTER FO FAY"]),
  (0xEA3, "", ["LAO LETTER RO"]),
  (0xEA5, "", ["LAO LETTER LO"]),
  (0xFD0, "", ["TIBETAN MARK BKA- SHOG GI MGO RGYAN"]),
  (0x11EC, "",
    ["HANGUL JONGSEONG YESIEUNG-KIYEOK;HANGUL JONGSEONG YESIEUNG-SSANGKIYEOK",
     "HANGUL JONGSEONG SSANGYESIEUNG;HANGUL JONGSEONG YESIEUNG-KHIEUKH"]),
  (0x180B, "", ["FVS1;FVS2;FVS3;MVS;FVS4"]),
  (0x200B, "", ["ZWSP;ZWNJ;ZWJ;LRM;RLM"]),
  (0x202A, "", ["LRE;RLE;PDF;LRO;RLO;NNBSP"]),
  (0x205F, "", ["MMSP;WJ"]),
  (0x2066, "", ["LRI;RLI;FSI;PDI"]),
  (0x2118, "", ["WEIERSTRASS ELLIPTIC FUNCTION"]),
  (0x2448, "", ["MICR ON US SYMBOL;MICR DASH SYMBOL"]),
  (0x2B7A, "", ["LEFTWARDS TRIANGLE-HEADED ARROW WITH DOUBLE VERTICAL STROKE"]),
  (0x2B7C, "", ["RIGHTWARDS TRIANGLE-HEADED ARROW WITH DOUBLE VERTICAL STROKE"]),
  (0xA015, "", ["YI SYLLABLE ITERATION MARK"]),
  (0xAA6E, "", ["MYANMAR LETTER KHAMTI LLA"]),
  (0xFE00, "VS", ["1;2;3;4;5;6;7;8;9;10;11;12;13;14;15;16"]),
  (0xFE18, "", ["PRESENTATION FORM FOR VERTICAL RIGHT WHITE LENTICULAR BRACKET"]),
  (0xFEFF, "", ["BYTE ORDER MARK"]),
  (0x122D4, "", ["CUNEIFORM SIGN NU11 TENU;CUNEIFORM SIGN NU11 OVER NU11 BUR OVER BUR"]),
  (0x16E56, "", ["MEDEFAIDRIN CAPITAL LETTER H;MEDEFAIDRIN CAPITAL LETTER NG"]),
  (0x16E76, "", ["MEDEFAIDRIN SMALL LETTER H;MEDEFAIDRIN SMALL LETTER NG"]),
  (0x1B001, "", ["HENTAIGANA LETTER E-1"]),
  (0x1D0C5, "", ["BYZANTINE MUSICAL SYMBOL FTHORA SKLIRON CHROMA VASIS"]),
  (0xE0100, "VS",
    ["17;18;19;20;21;22;23;24;25;26;27;28;29;30;31;32;33;34;35;36;37;38;39;40;41;42;43;44;45;46",
     "47;48;49;50;51;52;53;54;55;56;57;58;59;60;61;62;63;64;65;66;67;68;69;70;71;72;73;74;75;76",
     "77;78;79;80;81;82;83;84;85;86;87;88;89;90;91;92;93;94;95;96;97;98;99;100;101;102;103;104",
     "105;106;107;108;109;110;111;112;113;114;115;116;117;118;119;120;121;122;123;124;125;126",
     "127;128;129;130;131;132;133;134;135;136;137;138;139;140;141;142;143;144;145;146;147;148",
     "149;150;151;152;153;154;155;156;157;158;159;160;161;162;163;164;165;166;167;168;169;170",
     "171;172;173;174;175;176;177;178;179;180;181;182;183;184;185;186;187;188;189;190;191;192",
     "193;194;195;196;197;198;199;200;201;202;203;204;205;206;207;208;209;210;211;212;213;214",
     "215;216;217;218;219;220;221;222;223;224;225;226;227;228;229;230;231;232;233;234;235;236",
     "237;238;239;240;241;242;243;244;245;246;247;248;249;250;251;252;253;254;255;256"]),
  (0x0, "",
    ["NUL;SOH;STX;ETX;EOT;ENQ;ACK;BEL;BS;HORIZONTAL TABULATION;NEW LINE;VERTICAL TABULATION;FF",
     "CR;LOCKING-SHIFT ONE;LOCKING-SHIFT ZERO;DLE;DC1;DC2;DC3;DC4;NAK;SYN;ETB;CAN;EOM;SUB;ESC",
     "FILE SEPARATOR;GROUP SEPARATOR;RECORD SEPARATOR;UNIT SEPARATOR"]),
  (0x7F, "",
    ["DEL;PAD;HOP;BPH;NBH;IND;NEL;SSA;ESA;HORIZONTAL TABULATION SET",
     "HORIZONTAL TABULATION WITH JUSTIFICATION;VERTICAL TABULATION SET;PARTIAL LINE DOWN",
     "PARTIAL LINE UP;REVERSE INDEX;SINGLE-SHIFT-2;SINGLE-SHIFT-3;DCS;PRIVATE USE-1",
     "PRIVATE USE-2;STS;CCH;MW;START OF PROTECTED AREA;END OF PROTECTED AREA;SOS;SGC;SCI;CSI;ST",
     "OSC;PM;APC"]),
  (0xFEFF, "", ["BOM"]),
  (0x9, "", ["HT;END OF LINE;VT"]),
  (0xE, "", ["SO;SI"]),
  (0x1C, "", ["FS;GS;RS;US"]),
  (0x88, "", ["HTS;HTJ;VTS;PLD;PLU;RI;SS2;SS3"]),
  (0x91, "", ["PU1;PU2"]),
  (0x96, "", ["SPA;EPA"]),
  (0xFEFF, "", ["ZWNBSP"]),
  (0x9, "", ["TAB;LF"]),
  (0xA, "", ["NL"]),
  (0xA, "", ["EOL"])]

end Docwright.Text.CharName
