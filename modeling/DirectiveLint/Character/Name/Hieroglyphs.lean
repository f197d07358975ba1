import DirectiveLint.Character.Name.Row

/-!
# Names of hieroglyphs

Names of hieroglyphs and of the characters of scripts between U+13000 and U+1CEFF.
-/

namespace DirectiveLint
namespace Character

/-- Names of hieroglyphs and of the characters of scripts between U+13000 and U+1CEFF. -/
def hieroglyphNames : Array NameRow := #[
  ⟨0x13000, "0EGYPTIAN HIEROGLYPH A001;2A002;2A003;2A004;2A005;2A005A;2A006;2A006A;2A006B;2A007"⟩,
  ⟨0x1300a, "2A008;2A009;2A010;2A011;2A012;2A013;2A014;2A014A;2A015;2A016;2A017;2A017A;2A018"⟩,
  ⟨0x13017, "2A019;2A020;2A021;2A022;2A023;2A024;2A025;2A026;2A027;2A028;2A029;2A030;2A031;2A032"⟩,
  ⟨0x13025, "2A032A;2A033;2A034;2A035;2A036;2A037;2A038;2A039;2A040;2A040A;2A041;2A042;2A042A"⟩,
  ⟨0x13032, "2A043;2A043A;2A044;2A045;2A045A;2A046;2A047;2A048;2A049;2A050;2A051;2A052;2A053"⟩,
  ⟨0x1303f, "2A054;2A055;2A056;2A057;2A058;2A059;2A060;2A061;2A062;2A063;2A064;2A065;2A066;2A067"⟩,
  ⟨0x1304d, "2A068;2A069;2A070;2B001;2B002;2B003;2B004;2B005;2B005A;2B006;2B007;2B008;2B009;2C001"⟩,
  ⟨0x1305b, "2C002;2C002A;2C002B;2C002C;2C003;2C004;2C005;2C006;2C007;2C008;2C009;2C010;2C010A"⟩,
  ⟨0x13068, "2C011;2C012;2C013;2C014;2C015;2C016;2C017;2C018;2C019;2C020;2C021;2C022;2C023;2C024"⟩,
  ⟨0x13076, "2D001;2D002;2D003;2D004;2D005;2D006;2D007;2D008;2D008A;2D009;2D010;2D011;2D012;2D013"⟩,
  ⟨0x13084, "2D014;2D015;2D016;2D017;2D018;2D019;2D020;2D021;2D022;2D023;2D024;2D025;2D026;2D027"⟩,
  ⟨0x13092, "2D027A;2D028;2D029;2D030;2D031;2D031A;2D032;2D033;2D034;2D034A;2D035;2D036;2D037"⟩,
  ⟨0x1309f, "2D038;2D039;2D040;2D041;2D042;2D043;2D044;2D045;2D046;2D046A;2D047;2D048;2D048A"⟩,
  ⟨0x130ac, "2D049;2D050;2D050A;2D050B;2D050C;2D050D;2D050E;2D050F;2D050G;2D050H;2D050I;2D051"⟩,
  ⟨0x130b8, "2D052;2D052A;2D053;2D054;2D054A;2D055;2D056;2D057;2D058;2D059;2D060;2D061;2D062"⟩,
  ⟨0x130c5, "2D063;2D064;2D065;2D066;2D067;2D067A;2D067B;2D067C;2D067D;2D067E;2D067F;2D067G"⟩,
  ⟨0x130d1, "2D067H;2E001;2E002;2E003;2E004;2E005;2E006;2E007;2E008;2E008A;2E009;2E009A;2E010"⟩,
  ⟨0x130de, "2E011;2E012;2E013;2E014;2E015;2E016;2E016A;2E017;2E017A;2E018;2E019;2E020;2E020A"⟩,
  ⟨0x130eb, "2E021;2E022;2E023;2E024;2E025;2E026;2E027;2E028;2E028A;2E029;2E030;2E031;2E032;2E033"⟩,
  ⟨0x130f9, "2E034;2E034A;2E036;2E037;2E038;2F001;2F001A;2F002;2F003;2F004;2F005;2F006;2F007"⟩,
  ⟨0x13106, "2F008;2F009;2F010;2F011;2F012;2F013;2F013A;2F014;2F015;2F016;2F017;2F018;2F019;2F020"⟩,
  ⟨0x13114, "2F021;2F021A;2F022;2F023;2F024;2F025;2F026;2F027;2F028;2F029;2F030;2F031;2F031A"⟩,
  ⟨0x13121, "2F032;2F033;2F034;2F035;2F036;2F037;2F037A;2F038;2F038A;2F039;2F040;2F041;2F042"⟩,
  ⟨0x1312e, "2F043;2F044;2F045;2F045A;2F046;2F046A;2F047;2F047A;2F048;2F049;2F050;2F051;2F051A"⟩,
  ⟨0x1313b, "2F051B;2F051C;2F052;2F053;2G001;2G002;2G003;2G004;2G005;2G006;2G006A;2G007;2G007A"⟩,
  ⟨0x13148, "2G007B;2G008;2G009;2G010;2G011;2G011A;2G012;2G013;2G014;2G015;2G016;2G017;2G018"⟩,
  ⟨0x13155, "2G019;2G020;2G020A;2G021;2G022;2G023;2G024;2G025;2G026;2G026A;2G027;2G028;2G029"⟩,
  ⟨0x13162, "2G030;2G031;2G032;2G033;2G034;2G035;2G036;2G036A;2G037;2G037A;2G038;2G039;2G040"⟩,
  ⟨0x1316f, "2G041;2G042;2G043;2G043A;2G044;2G045;2G045A;2G046;2G047;2G048;2G049;2G050;2G051"⟩,
  ⟨0x1317c, "2G052;2G053;2G054;2H001;2H002;2H003;2H004;2H005;2H006;2H006A;2H007;2H008;2I001;2I002"⟩,
  ⟨0x1318a, "2I003;2I004;2I005;2I005A;2I006;2I007;2I008;2I009;2I009A;2I010;2I010A;2I011;2I011A"⟩,
  ⟨0x13197, "2I012;2I013;2I014;2I015;2K001;2K002;2K003;2K004;2K005;2K006;2K007;2K008;2L001;2L002"⟩,
  ⟨0x131a5, "2L002A;2L003;2L004;2L005;2L006;2L006A;2L007;2L008;2M001;2M001A;2M001B;2M002;2M003"⟩,
  ⟨0x131b2, "2M003A;2M004;2M005;2M006;2M007;2M008;2M009;2M010;2M010A;2M011;2M012;2M012A;2M012B"⟩,
  ⟨0x131bf, "2M012C;2M012D;2M012E;2M012F;2M012G;2M012H;2M013;2M014;2M015;2M015A;2M016;2M016A"⟩,
  ⟨0x131cb, "2M017;2M017A;2M018;2M019;2M020;2M021;2M022;2M022A;2M023;2M024;2M024A;2M025;2M026"⟩,
  ⟨0x131d8, "2M027;2M028;2M028A;2M029;2M030;2M031;2M031A;2M032;2M033;2M033A;2M033B;2M034;2M035"⟩,
  ⟨0x131e5, "2M036;2M037;2M038;2M039;2M040;2M040A;2M041;2M042;2M043;2M044;2N001;2N002;2N003;2N004"⟩,
  ⟨0x131f3, "2N005;2N006;2N007;2N008;2N009;2N010;2N011;2N012;2N013;2N014;2N015;2N016;2N017;2N018"⟩,
  ⟨0x13201, "2N018A;2N018B;2N019;2N020;2N021;2N022;2N023;2N024;2N025;2N025A;2N026;2N027;2N028"⟩,
  ⟨0x1320e, "2N029;2N030;2N031;2N032;2N033;2N033A;2N034;2N034A;2N035;2N035A;2N036;2N037;2N037A"⟩,
  ⟨0x1321b, "2N038;2N039;2N040;2N041;2N042;2NL001;2NL002;2NL003;2NL004;2NL005;2NL005A;2NL006"⟩,
  ⟨0x13227, "2NL007;2NL008;2NL009;2NL010;2NL011;2NL012;2NL013;2NL014;2NL015;2NL016;2NL017;2NL017A"⟩,
  ⟨0x13233, "2NL018;2NL019;2NL020;2NU001;2NU002;2NU003;2NU004;2NU005;2NU006;2NU007;2NU008;2NU009"⟩,
  ⟨0x1323f, "2NU010;2NU010A;2NU011;2NU011A;2NU012;2NU013;2NU014;2NU015;2NU016;2NU017;2NU018"⟩,
  ⟨0x1324a, "2NU018A;2NU019;2NU020;2NU021;2NU022;2NU022A;2O001;2O001A;2O002;2O003;2O004;2O005"⟩,
  ⟨0x13256, "2O005A;2O006;2O006A;2O006B;2O006C;2O006D;2O006E;2O006F;2O007;2O008;2O009;2O010"⟩,
  ⟨0x13262, "2O010A;2O010B;2O010C;2O011;2O012;2O013;2O014;2O015;2O016;2O017;2O018;2O019;2O019A"⟩,
  ⟨0x1326f, "2O020;2O020A;2O021;2O022;2O023;2O024;2O024A;2O025;2O025A;2O026;2O027;2O028;2O029"⟩,
  ⟨0x1327c, "2O029A;2O030;2O030A;2O031;2O032;2O033;2O033A;2O034;2O035;2O036;2O036A;2O036B;2O036C"⟩,
  ⟨0x13289, "2O036D;2O037;2O038;2O039;2O040;2O041;2O042;2O043;2O044;2O045;2O046;2O047;2O048;2O049"⟩,
  ⟨0x13297, "2O050;2O050A;2O050B;2O051;2P001;2P001A;2P002;2P003;2P003A;2P004;2P005;2P006;2P007"⟩,
  ⟨0x132a4, "2P008;2P009;2P010;2P011;2Q001;2Q002;2Q003;2Q004;2Q005;2Q006;2Q007;2R001;2R002;2R002A"⟩,
  ⟨0x132b2, "2R003;2R003A;2R003B;2R004;2R005;2R006;2R007;2R008;2R009;2R010;2R010A;2R011;2R012"⟩,
  ⟨0x132bf, "2R013;2R014;2R015;2R016;2R016A;2R017;2R018;2R019;2R020;2R021;2R022;2R023;2R024;2R025"⟩,
  ⟨0x132cd, "2R026;2R027;2R028;2R029;2S001;2S002;2S002A;2S003;2S004;2S005;2S006;2S006A;2S007"⟩,
  ⟨0x132da, "2S008;2S009;2S010;2S011;2S012;2S013;2S014;2S014A;2S014B;2S015;2S016;2S017;2S017A"⟩,
  ⟨0x132e7, "2S018;2S019;2S020;2S021;2S022;2S023;2S024;2S025;2S026;2S026A;2S026B;2S027;2S028"⟩,
  ⟨0x132f4, "2S029;2S030;2S031;2S032;2S033;2S034;2S035;2S035A;2S036;2S037;2S038;2S039;2S040;2S041"⟩,
  ⟨0x13302, "2S042;2S043;2S044;2S045;2S046;2T001;2T002;2T003;2T003A;2T004;2T005;2T006;2T007"⟩,
  ⟨0x1330f, "2T007A;2T008;2T008A;2T009;2T009A;2T010;2T011;2T011A;2T012;2T013;2T014;2T015;2T016"⟩,
  ⟨0x1331c, "2T016A;2T017;2T018;2T019;2T020;2T021;2T022;2T023;2T024;2T025;2T026;2T027;2T028;2T029"⟩,
  ⟨0x1332a, "2T030;2T031;2T032;2T032A;2T033;2T033A;2T034;2T035;2T036;2U001;2U002;2U003;2U004"⟩,
  ⟨0x13337, "2U005;2U006;2U006A;2U006B;2U007;2U008;2U009;2U010;2U011;2U012;2U013;2U014;2U015"⟩,
  ⟨0x13344, "2U016;2U017;2U018;2U019;2U020;2U021;2U022;2U023;2U023A;2U024;2U025;2U026;2U027;2U028"⟩,
  ⟨0x13352, "2U029;2U029A;2U030;2U031;2U032;2U032A;2U033;2U034;2U035;2U036;2U037;2U038;2U039"⟩,
  ⟨0x1335f, "2U040;2U041;2U042;2V001;2V001A;2V001B;2V001C;2V001D;2V001E;2V001F;2V001G;2V001H"⟩,
  ⟨0x1336b, "2V001I;2V002;2V002A;2V003;2V004;2V005;2V006;2V007;2V007A;2V007B;2V008;2V009;2V010"⟩,
  ⟨0x13378, "2V011;2V011A;2V011B;2V011C;2V012;2V012A;2V012B;2V013;2V014;2V015;2V016;2V017;2V018"⟩,
  ⟨0x13385, "2V019;2V020;2V020A;2V020B;2V020C;2V020D;2V020E;2V020F;2V020G;2V020H;2V020I;2V020J"⟩,
  ⟨0x13391, "2V020K;2V020L;2V021;2V022;2V023;2V023A;2V024;2V025;2V026;2V027;2V028;2V028A;2V029"⟩,
  ⟨0x1339e, "2V029A;2V030;2V030A;2V031;2V031A;2V032;2V033;2V033A;2V034;2V035;2V036;2V037;2V037A"⟩,
  ⟨0x133ab, "2V038;2V039;2V040;2V040A;2W001;2W002;2W003;2W003A;2W004;2W005;2W006;2W007;2W008"⟩,
  ⟨0x133b8, "2W009;2W009A;2W010;2W010A;2W011;2W012;2W013;2W014;2W014A;2W015;2W016;2W017;2W017A"⟩,
  ⟨0x133c5, "2W018;2W018A;2W019;2W020;2W021;2W022;2W023;2W024;2W024A;2W025;2X001;2X002;2X003"⟩,
  ⟨0x133d2, "2X004;2X004A;2X004B;2X005;2X006;2X006A;2X007;2X008;2X008A;2Y001;2Y001A;2Y002;2Y003"⟩,
  ⟨0x133df, "2Y004;2Y005;2Y006;2Y007;2Y008;2Z001;2Z002;2Z002A;2Z002B;2Z002C;2Z002D;2Z003;2Z003A"⟩,
  ⟨0x133ec, "2Z003B;2Z004;2Z004A;2Z005;2Z005A;2Z006;2Z007;2Z008;2Z009;2Z010;2Z011;2Z012;2Z013"⟩,
  ⟨0x133f9, "2Z014;2Z015;2Z015A;2Z015B;2Z015C;2Z015D;2Z015E;2Z015F;2Z015G;2Z015H;2Z015I;2Z016"⟩,
  ⟨0x13405, "2Z016A;2Z016B;2Z016C;2Z016D;2Z016E;2Z016F;2Z016G;2Z016H;2AA001;2AA002;2AA003;2AA004"⟩,
  ⟨0x13411, "2AA005;2AA006;2AA007;2AA007A;2AA007B;2AA008;2AA009;2AA010;2AA011;2AA012;2AA013"⟩,
  ⟨0x1341c, "2AA014;2AA015;2AA016;2AA017;2AA018;2AA019;2AA020;2AA021;2AA022;2AA023;2AA024;2AA025"⟩,
  ⟨0x13428, "2AA026;2AA027;2AA028;2AA029;2AA030;2AA031;2AA032"⟩,
  ⟨0x13430, "2VERTICAL JOINER;2HORIZONTAL JOINER;2INSERT AT TOP START;4BOTTOM START;4TOP END"⟩,
  ⟨0x13435, "4BOTTOM END;2OVERLAY MIDDLE;2BEGIN SEGMENT;2END SEGMENT"⟩,
  ⟨0x14400, "0ANATOLIAN HIEROGLYPH A001;2A002;2A003;2A004;2A005;2A006;2A007;2A008;2A009;2A010"⟩,
  ⟨0x1440a, "2A010A;2A011;2A012;2A013;2A014;2A015;2A016;2A017;2A018;2A019;2A020;2A021;2A022;2A023"⟩,
  ⟨0x14418, "2A024;2A025;2A026;2A026A;2A027;2A028;2A029;2A030;2A031;2A032;2A033;2A034;2A035;2A036"⟩,
  ⟨0x14426, "2A037;2A038;2A039;2A039A;2A040;2A041;2A041A;2A042;2A043;2A044;2A045;2A045A;2A046"⟩,
  ⟨0x14433, "2A046A;2A046B;2A047;2A048;2A049;2A050;2A051;2A052;2A053;2A054;2A055;2A056;2A057"⟩,
  ⟨0x14440, "2A058;2A059;2A060;2A061;2A062;2A063;2A064;2A065;2A066;2A066A;2A066B;2A066C;2A067"⟩,
  ⟨0x1444d, "2A068;2A069;2A070;2A071;2A072;2A073;2A074;2A075;2A076;2A077;2A078;2A079;2A080;2A081"⟩,
  ⟨0x1445b, "2A082;2A083;2A084;2A085;2A086;2A087;2A088;2A089;2A090;2A091;2A092;2A093;2A094;2A095"⟩,
  ⟨0x14469, "2A096;2A097;2A097A;2A098;2A098A;2A099;2A100;2A100A;2A101;2A101A;2A102;2A102A;2A103"⟩,
  ⟨0x14476, "2A104;2A104A;2A104B;2A104C;2A105;2A105A;2A105B;2A106;2A107;2A107A;2A107B;2A107C"⟩,
  ⟨0x14482, "2A108;2A109;2A110;2A110A;2A110B;2A111;2A112;2A113;2A114;2A115;2A115A;2A116;2A117"⟩,
  ⟨0x1448f, "2A118;2A119;2A120;2A121;2A122;2A123;2A124;2A125;2A125A;2A126;2A127;2A128;2A129;2A130"⟩,
  ⟨0x1449d, "2A131;2A132;2A133;2A134;2A135;2A135A;2A136;2A137;2A138;2A139;2A140;2A141;2A142;2A143"⟩,
  ⟨0x144ab, "2A144;2A145;2A146;2A147;2A148;2A149;2A150;2A151;2A152;2A153;2A154;2A155;2A156;2A157"⟩,
  ⟨0x144b9, "2A158;2A159;2A160;2A161;2A162;2A163;2A164;2A165;2A166;2A167;2A168;2A169;2A170;2A171"⟩,
  ⟨0x144c7, "2A172;2A173;2A174;2A175;2A176;2A177;2A178;2A179;2A180;2A181;2A182;2A183;2A184;2A185"⟩,
  ⟨0x144d5, "2A186;2A187;2A188;2A189;2A190;2A191;2A192;2A193;2A194;2A195;2A196;2A197;2A198;2A199"⟩,
  ⟨0x144e3, "2A200;2A201;2A202;2A202A;2A202B;2A203;2A204;2A205;2A206;2A207;2A207A;2A208;2A209"⟩,
  ⟨0x144f0, "2A209A;2A210;2A211;2A212;2A213;2A214;2A215;2A215A;2A216;2A216A;2A217;2A218;2A219"⟩,
  ⟨0x144fd, "2A220;2A221;2A222;2A223;2A224;2A225;2A226;2A227;2A227A;2A228;2A229;2A230;2A231;2A232"⟩,
  ⟨0x1450b, "2A233;2A234;2A235;2A236;2A237;2A238;2A239;2A240;2A241;2A242;2A243;2A244;2A245;2A246"⟩,
  ⟨0x14519, "2A247;2A248;2A249;2A250;2A251;2A252;2A253;2A254;2A255;2A256;2A257;2A258;2A259;2A260"⟩,
  ⟨0x14527, "2A261;2A262;2A263;2A264;2A265;2A266;2A267;2A267A;2A268;2A269;2A270;2A271;2A272;2A273"⟩,
  ⟨0x14535, "2A274;2A275;2A276;2A277;2A278;2A279;2A280;2A281;2A282;2A283;2A284;2A285;2A286;2A287"⟩,
  ⟨0x14543, "2A288;2A289;2A289A;2A290;2A291;2A292;2A293;2A294;2A294A;2A295;2A296;2A297;2A298"⟩,
  ⟨0x14550, "2A299;2A299A;2A300;2A301;2A302;2A303;2A304;2A305;2A306;2A307;2A308;2A309;2A309A"⟩,
  ⟨0x1455d, "2A310;2A311;2A312;2A313;2A314;2A315;2A316;2A317;2A318;2A319;2A320;2A321;2A322;2A323"⟩,
  ⟨0x1456b, "2A324;2A325;2A326;2A327;2A328;2A329;2A329A;2A330;2A331;2A332A;2A332B;2A332C;2A333"⟩,
  ⟨0x14578, "2A334;2A335;2A336;2A336A;2A336B;2A336C;2A337;2A338;2A339;2A340;2A341;2A342;2A343"⟩,
  ⟨0x14585, "2A344;2A345;2A346;2A347;2A348;2A349;2A350;2A351;2A352;2A353;2A354;2A355;2A356;2A357"⟩,
  ⟨0x14593, "2A358;2A359;2A359A;2A360;2A361;2A362;2A363;2A364;2A364A;2A365;2A366;2A367;2A368"⟩,
  ⟨0x145a0, "2A368A;2A369;2A370;2A371;2A371A;2A372;2A373;2A374;2A375;2A376;2A377;2A378;2A379"⟩,
  ⟨0x145ad, "2A380;2A381;2A381A;2A382;2A383 RA OR RI;2A383A;2A384;2A385;2A386;2A386A;2A387;2A388"⟩,
  ⟨0x145b9, "2A389;2A390;2A391;2A392;2A393 EIGHT;2A394;2A395;2A396;2A397;2A398;2A399;2A400;2A401"⟩,
  ⟨0x145c6, "2A402;2A403;2A404;2A405;2A406;2A407;2A408;2A409;2A410 BEGIN LOGOGRAM MARK"⟩,
  ⟨0x145cf, "2A410A END LOGOGRAM MARK;2A411;2A412;2A413;2A414;2A415;2A416;2A417;2A418;2A419;2A420"⟩,
  ⟨0x145da, "2A421;2A422;2A423;2A424;2A425;2A426;2A427;2A428;2A429;2A430;2A431;2A432;2A433;2A434"⟩,
  ⟨0x145e8, "2A435;2A436;2A437;2A438;2A439;2A440;2A441;2A442;2A443;2A444;2A445;2A446;2A447;2A448"⟩,
  ⟨0x145f6, "2A449;2A450;2A450A;2A451;2A452;2A453;2A454;2A455;2A456;2A457;2A457A;2A458;2A459"⟩,
  ⟨0x14603, "2A460;2A461;2A462;2A463;2A464;2A465;2A466;2A467;2A468;2A469;2A470;2A471;2A472;2A473"⟩,
  ⟨0x14611, "2A474;2A475;2A476;2A477;2A478;2A479;2A480;2A481;2A482;2A483;2A484;2A485;2A486;2A487"⟩,
  ⟨0x1461f, "2A488;2A489;2A490;2A491;2A492;2A493;2A494;2A495;2A496;2A497;2A501;2A502;2A503;2A504"⟩,
  ⟨0x1462d, "2A505;2A506;2A507;2A508;2A509;2A510;2A511;2A512;2A513;2A514;2A515;2A516;2A517;2A518"⟩,
  ⟨0x1463b, "2A519;2A520;2A521;2A522;2A523;2A524;2A525;2A526;2A527;2A528;2A529;2A530"⟩,
  ⟨0x16800, "0BAMUM LETTER PHASE-A NGKUE MFON;4GBIEE FON;4PON MFON PIPAEMGBIEE;6PIPAEMBA"⟩,
  ⟨0x16804, "4NAA MFON;4SHUENSHUET;4TITA MFON;4NZA MFON;4SHINDA PA NJI;4PON PA NJI PIPAEMGBIEE"⟩,
  ⟨0x1680a, "7PIPAEMBA;4MAEMBGBIEE;4TU MAEMBA;4NGANGU;4MAEMVEUX;4MANSUAE;4MVEUAENGAM;4SEUNYAM"⟩,
  ⟨0x16812, "4NTOQPEN;4KEUKEUTNDA;4NKINDI;4SUU;4NGKUENZEUM;4LAPAQ;4LET KUT;4NTAP MFAA;4MAEKEUP"⟩,
  ⟨0x1681b, "4PASHAE;4GHEUAERAE;4PAMSHAE;4MON NGGEUAET;4NZUN MEUT;4U YUQ NAE;4GHEUAEGHEUAE"⟩,
  ⟨0x16822, "4NTAP NTAA;4SISA;4MGBASA;4MEUNJOMNDEUQ;4MOOMPUQ;4KAFA;4PA LEERAEWA;4NDA LEERAEWA"⟩,
  ⟨0x1682a, "4PET;4MAEMKPEN;4NIKA;4PUP;4TUAEP;4LUAEP;4SONJAM;4TEUTEUWEN;4MAENYI;4KET"⟩,
  ⟨0x16834, "4NDAANGGEUAET;4KUOQ;4MOOMEUT;4SHUM;4LOMMAE;4FIRI;4ROM;4KPOQ;4SOQ;4MAP PIEET;4SHIRAE"⟩,
  ⟨0x1683f, "4NTAP;4SHOQ NSHUT YUM;4NYIT MONGKEUAEQ;4PAARAE;4NKAARAE;4UNKNOWN;4NGGEN;4MAESI;4NJAM"⟩,
  ⟨0x16848, "4MBANYI;4NYET;4TEUAEN;4SOT;4PAAM;4NSHIEE;4MAEM;4NYI;4KAQ;4NSHA;4VEE;4LU;4NEN;4NAQ"⟩,
  ⟨0x16856, "4MBAQ;3B NSHUET;4TU MAEMGBIEE;4SIEE;4SET TU;4LOM NTEUM;4MBA MAELEE;4KIEEM;4YEURAE"⟩,
  ⟨0x1685f, "4MBAARAE;4KAM;4PEESHI;4YAFU LEERAEWA;4LAM NSHUT NYAM;4NTIEE SHEUOQ;4NDU NJAA"⟩,
  ⟨0x16866, "4GHEUGHEUAEM;4PIT;4TU NSIEE;4SHET NJAQ;4SHEUAEQTU;4MFON TEUAEQ;4MBIT MBAAKET"⟩,
  ⟨0x1686d, "4NYI NTEUM;4KEUPUQ;4GHEUGHEN;4KEUYEUX;4LAANAE;4PARUM;4VEUM;4NGKINDI MVOP;4NGGEU MBU"⟩,
  ⟨0x16876, "4WUAET;4SAKEUAE;4TAAM;4MEUQ;4NGGUOQ;4NGGUOQ LARGE;4MFIYAQ;4SUE;4MBEURI;4MONTIEEN"⟩,
  ⟨0x16880, "4NYAEMAE;4PUNGAAM;4MEUT NGGEET;4FEUX;4MBUOQ;4FEE;4KEUAEM;4MA NJEUAENA;5NJUQA;4LET"⟩,
  ⟨0x1688a, "4NGGAAM;4NSEN;4MA;4KIQ;4NGOM;3C NGKUE MAEMBA;4NZA;4YUM;4WANGKUOQ;4NGGEN;4NDEUAEREE"⟩,
  ⟨0x16895, "4NGKAQ;4GHARAE;4MBEEKEET;4GBAYI;4NYIR MKPARAQ MEUN;4NTU MBIT;4MBEUM;4PIRIEEN;4NDOMBU"⟩,
  ⟨0x1689e, "4MBAA CABBAGE-TREE;4KEUSHEUAEP;4GHAP;4KEUKAQ;4YU MUOMAE;4NZEUM;4MBUE;4NSEUAEN;4MBIT"⟩,
  ⟨0x168a7, "4YEUQ;4KPARAQ;4KAA;4SEUX;4NDIDA;4TAASHAE;4NJUEQ;4TITA YUE;4SUAET;4NGGUAEN NYAM;4VEUX"⟩,
  ⟨0x168b2, "4NANSANAQ;4MA KEUAERI;4NTAA;4NGGUON;4LAP;4MBIRIEEN;4MGBASAQ;4NTEUNGBA;4TEUTEUX"⟩,
  ⟨0x168bb, "4NGGUM;4FUE;4NDEUT;4NSA;4NSHAQ;4BUNG;4VEUAEPEN;4MBERAE;4RU;4NJAEM;4LAM;4TITUAEP"⟩,
  ⟨0x168c7, "4NSUOT NGOM;4NJEEEE;4KET;4NGGU;4MAESI;4MBUAEM;4LU;4KUT;4NJAM;4NGOM;4WUP;4NGGUEET"⟩,
  ⟨0x168d3, "4NSOM;4NTEN;4KUOP NKAARAE;4NSUN;4NDAM;4MA NSIEE;4YAA;4NDAP;4SHUEQ;4SETFON;4MBI"⟩,
  ⟨0x168de, "4MAEMBA;4MBANYI;4KEUSEUX;4MBEUX;4KEUM;4MBAA PICKET;4YUWOQ;4NJEUX;4MIEE;4MUAE;4SHIQ"⟩,
  ⟨0x168e9, "4KEN LAW;5FATIGUE;4NGAQ;4NAQ;4LIQ;4PIN;4PEN;4TET;3D MBUO;4WAP;4NJI;4MFON;4NJIEE"⟩,
  ⟨0x168f6, "4LIEE;4NJEUT;4NSHEE;4NGGAAMAE;4NYAM;4WUAEN;4NGKUN;4SHEE;4NGKAP;4KEUAETMEUN;4TEUT"⟩,
  ⟨0x16901, "4SHEUAE;4NJAP;4SUE;4KET;4YAEMMAE;4KUOM;4SAP;4MFEUT;4NDEUX;4MALEERI;4MEUT;4SEUAEQ"⟩,
  ⟨0x1690d, "4YEN;4NJEUAEM;4KEUOT MBUAE;4NGKEURI;4TU;4GHAA;4NGKYEE;4FEUFEUAET;4NDEE;4MGBOFUM"⟩,
  ⟨0x16917, "4LEUAEP;4NDON;4MONI;4MGBEUN;4PUUT;4MGBIEE;4MFO;4LUM;4NSIEEP;4MBAA;4KWAET;4NYET"⟩,
  ⟨0x16923, "4TEUAEN;4SOT;4YUWOQ;4KEUM;4RAEM;4TEEEE;4NGKEUAEQ;4MFEUAE;4NSIEET;4KEUP;4PIP;4PEUTAE"⟩,
  ⟨0x1692f, "4NYUE;4LET;4NGGAAM;4MFIEE;4NGGWAEN;4YUOM;4PAP;4YUOP;4NDAM;4NTEUM;4SUAE;4KUN;4NGGEUX"⟩,
  ⟨0x1693c, "4NGKIEE;4TUOT;4MEUN;4KUQ;4NSUM;4TEUN;4MAENJET;4NGGAP;4LEUM;4NGGUOM;4NSHUT;4NJUEQ"⟩,
  ⟨0x16948, "4GHEUAE;4KU;4REN OLD;4TAE;4TOQ;4NYI;4RII;4LEEEE;4MEEEE;4M;4SUU;4MU;4SHII;4SHEUX"⟩,
  ⟨0x16956, "4KYEE;4NU;4SHU;4NTEE;4PEE;4NI;4SHOQ;4PUQ;4MVOP;4LOQ;4REN MUCH;4TI;4NTUU;4MBAA SEVEN"⟩,
  ⟨0x16964, "4SAQ;4FAA;3E NDAP;4TOON;4MBEUM;4LAP;4VOM;4LOON;4PAA;4SOM;4RAQ;4NSHUOP;4NDUN;4PUAE"⟩,
  ⟨0x16972, "4TAM;4NGKA;4KPEUX;4WUO;4SEE;4NGGEUAET;4PAAM;4TOO;4KUOP;4LOM;4NSHIEE;4NGOP;4MAEM"⟩,
  ⟨0x1697f, "4NGKEUX;4NGOQ;4NSHUE;4RIMGBA;4NJEUX;4PEEM;4SAA;4NGGURAE;4MGBA;4GHEUX;4NGKEUAEM"⟩,
  ⟨0x1698a, "4NJAEMLI;4MAP;4LOOT;4NGGEEEE;4NDIQ;4TAEN NTEUM;4SET;4PUM;4NDAA SOFTNESS"⟩,
  ⟨0x16993, "4NGGUAESHAE NYAM;4YIEE;4GHEUN;4TUAE;4YEUAE;4PO;4TUMAE;4KEUAE;4SUAEN;4TEUAEQ;4VEUAE"⟩,
  ⟨0x1699e, "4WEUX;4LAAM;4PU;4TAAQ;4GHAAMAE;4NGEUREUT;4SHEUAEQ;4MGBEN;4MBEE;4NZAQ;4NKOM;4GBET"⟩,
  ⟨0x169aa, "4TUM;4KUET;4YAP;4NYI CLEAVER;4YIT;4MFEUQ;4NDIAQ;4PIEEQ;4YUEQ;4LEUAEM;4FUE;4GBEUX"⟩,
  ⟨0x169b6, "4NGKUP;4KET;4MAE;4NGKAAMI;4GHET;4FA;4NTUM;4PEUT;4YEUM;4NGGEUAE;4NYI BETWEEN;4NZUQ"⟩,
  ⟨0x169c2, "4POON;4MIEE;4FUET;4NAE;4MUAE;4GHEUAE;4FU I;4MVI;4PUAQ;4NGKUM;4KUT;4PIET;4NTAP"⟩,
  ⟨0x169cf, "4YEUAET;4NGGUP;4PA PEOPLE;4FU CALL;4FOM;4NJEE;4A;4TOQ;4O;4I;4LAQ;4PA PLURAL;4TAA"⟩,
  ⟨0x169dc, "4TAQ;4NDAA MY HOUSE;4SHIQ;4YEUX;4NGUAE;4YUAEN;4YOQ SWIMMING;5COVER;4YUQ;4YUN;4KEUX"⟩,
  ⟨0x169e7, "4PEUX;4NJEE EPOCH;4PUE;4WUE;4FEE;4VEE;4LU;4MI;4REUX;4RAE;4NGUAET;4NGA;4SHO;4SHOQ"⟩,
  ⟨0x169f5, "4FU REMEDY;4NA;4PI;4LOQ;4KO;4MEN;4MA;4MAQ;4TEU;4KI;4MON;4TEN;4FAQ;4GHOM;3F KA;4U;4KU"⟩,
  ⟨0x16a06, "4EE;4REE;4TAE;4NYI;4LA;4RII;4RIEE;4MEEEE;4TAA;4NDAA;4NJAEM;4M;4SUU;4SHII;4SI;4SEUX"⟩,
  ⟨0x16a16, "4KYEE;4KET;4NUAE;4NU;4NJUAE;4YOQ;4SHU;4YA;4NSHA;4PEUX;4NTEE;4WUE;4PEE;4RU;4NI;4REUX"⟩,
  ⟨0x16a26, "4KEN;4NGKWAEN;4NGGA;4SHO;4PUAE;4FOM;4WA;4LI;4LOQ;4KO;4MBEN;4REN;4MA;4MO;4MBAA;4TET"⟩,
  ⟨0x16a36, "4KPA;4SAMBA;4VUEQ"⟩,
  ⟨0x16a40, "0MRO LETTER TA;2NGI;2YO;2MIM;2BA;2DA;2A;2PHI;2KHAI;2HAO;2DAI;2CHU;2KEAAE;2OL;2MAEM"⟩,
  ⟨0x16a4f, "2NIN;2PA;2OO;2O;2RO;2SHI;2THEA;2EA;2WA;2E;2KO;2LAN;2LA;2HAI;2RI;2TEK"⟩,
  ⟨0x16a60, "1DIGIT ZERO;2ONE;2TWO;2THREE;2FOUR;2FIVE;2SIX;2SEVEN;2EIGHT;2NINE"⟩,
  ⟨0x16a6e, "1DANDA;1DOUBLE DANDA;0TANGSA LETTER OZ;2OC;2OQ;2OX;2AZ;2AC;2AQ;2AX;2VZ;2VC;2VQ;2VX"⟩,
  ⟨0x16a7c, "2EZ;2EC;2EQ;2EX;2IZ;2IC;2IQ;2IX;2UZ;2UC;2UQ;2UX;2AWZ;2AWC;2AWQ;2AWX;2UIZ;2UIC;2UIQ"⟩,
  ⟨0x16a8f, "2UIX;2FINAL NG;2LONG UEX;2SHORT UEZ;3AWX;2UEC;2UEZ;2UEQ;2UEX;2UIUZ;2UIUC;2UIUQ;2UIUX"⟩,
  ⟨0x16a9c, "2MZ;2MC;2MQ;2MX;2KA;2KHA;2GA;2NGA;2SA;2YA;2WA;2PA;2NYA;2PHA;2BA;2MA;2NA;2HA;2LA;2HTA"⟩,
  ⟨0x16ab0, "2TA;2DA;2RA;2NHA;2SHA;2CA;2TSA;2GHA;2HTTA;2THA;2XA;2FA;2DHA;2CHA;2ZA"⟩,
  ⟨0x16ac0, "1DIGIT ZERO;2ONE;2TWO;2THREE;2FOUR;2FIVE;2SIX;2SEVEN;2EIGHT;2NINE"⟩,
  ⟨0x16ad0, "0BASSA VAH LETTER ENNI;3KA;3SE;3FA;3MBE;3YIE;3GAH;3DHII;3KPAH;3JO;3HWAH;3WA;3ZO;3GBU"⟩,
  ⟨0x16ade, "3DO;3CE;3UWU;3TO;3BA;3VU;3YEIN;3PA;3WADDA;3A;3O;3OO;3U;3EE;3E;3I"⟩,
  ⟨0x16af0, "2COMBINING HIGH TONE;3LOW TONE;3MID TONE;3LOW-MID TONE;3HIGH-LOW TONE;2FULL STOP"⟩,
  ⟨0x16b00, "0PAHAWH HMONG VOWEL KEEB;3KEEV;3KIB;3KIV;3KAUB;3KAUV;3KUB;3KUV;3KEB;3KEV;3KAIB;3KAIV"⟩,
  ⟨0x16b0c, "3KOOB;3KOOV;3KAWB;3KAWV;3KUAB;3KUAV;3KOB;3KOV;3KIAB;3KIAV;3KAB;3KAV;3KWB;3KWV;3KAAB"⟩,
  ⟨0x16b1b, "3KAAV;2CONSONANT VAU;3NTSAU;3LAU;3HAU;3NLAU;3RAU;3NKAU;3QHAU;3YAU;3HLAU;3MAU;3CHAU"⟩,
  ⟨0x16b28, "3NCHAU;3HNAU;3PLHAU;3NTHAU;3NAU;3AU;3XAU;3CAU;2MARK CIM TUB;4SO;4KES;4KHAV;4SUAM"⟩,
  ⟨0x16b35, "4HOM;4TAUM;2SIGN VOS THOM;4TSHAB CEEB;3CIM CHEEM;3VOS THIAB;4FEEM;3XYEEM NTXIV;4RHO"⟩,
  ⟨0x16b3e, "4TOV;4FAIB;3VOS SEEV;3MEEJ SUAB;3VOS NRUA;3IB YAM;3XAUS;3CIM TSOV ROG"⟩,
  ⟨0x16b50, "2DIGIT ZERO;3ONE;3TWO;3THREE;3FOUR;3FIVE;3SIX;3SEVEN;3EIGHT;3NINE"⟩,
  ⟨0x16b5b, "2NUMBER TENS;3HUNDREDS;3TEN THOUSANDS;3MILLIONS;3HUNDRED MILLIONS;3TEN BILLIONS"⟩,
  ⟨0x16b61, "3TRILLIONS"⟩,
  ⟨0x16b63, "2SIGN VOS LUB;3XYOO;3HLI;3THIRD-STAGE HLI;3ZWJ THAJ;3HNUB;3NQIG;3XIAB;3NTUJ;3AV"⟩,
  ⟨0x16b6d, "3TXHEEJ CEEV;3MEEJ TSEEB;3TAU;3LOS;3MUS;3CIM HAIS LUS NTOG NTOG;4CUAM TSHOOJ;4TXWV"⟩,
  ⟨0x16b75, "4TXWV CHWV;4PUB DAWB;4NRES TOS"⟩,
  ⟨0x16b7d, "2CLAN SIGN TSHEEJ;4YEEG;4LIS;4LAUJ;4XYOOJ;4KOO;4HAWJ;4MUAS;4THOJ;4TSAB;4PHAB;4KHAB"⟩,
  ⟨0x16b89, "4HAM;4VAJ;4FAJ;4YAJ;4TSWB;4KWM;4VWJ"⟩,
  ⟨0x16e40, "0MEDEFAIDRIN CAPITAL LETTER M;3S;3V;3W;3ATIU;3Z;3KP;3P;3T;3G;3F;3I;3K;3A;3J;3E;3B;3C"⟩,
  ⟨0x16e52, "3U;3YU;3L;3Q;3HP;3NY;3X;3D;3OE;3N;3R;3O;3AI;3Y;1SMALL LETTER M;3S;3V;3W;3ATIU;3Z;3KP"⟩,
  ⟨0x16e67, "3P;3T;3G;3F;3I;3K;3A;3J;3E;3B;3C;3U;3YU;3L;3Q;3HP;3NY;3X;3D;3OE;3N;3R;3O;3AI;3Y"⟩,
  ⟨0x16e80, "1DIGIT ZERO;2ONE;2TWO;2THREE;2FOUR;2FIVE;2SIX;2SEVEN;2EIGHT;2NINE;1NUMBER TEN"⟩,
  ⟨0x16e8b, "2ELEVEN;2TWELVE;2THIRTEEN;2FOURTEEN;2FIFTEEN;2SIXTEEN;2SEVENTEEN;2EIGHTEEN;2NINETEEN"⟩,
  ⟨0x16e94, "1DIGIT ONE ALTERNATE FORM;2TWO ALTERNATE FORM;2THREE ALTERNATE FORM;1COMMA"⟩,
  ⟨0x16e98, "1FULL STOP;1SYMBOL AIVA;1EXCLAMATION OH"⟩,
  ⟨0x16f00, "0MIAO LETTER PA;2BA;2YI PA;2PLA;2MA;2MHA;2ARCHAIC MA;2FA;2VA;2VFA;2TA;2DA;2YI TTA"⟩,
  ⟨0x16f0d, "3TA;2TTA;2DDA;2NA;2NHA;2YI NNA;2ARCHAIC NA;2NNA;2NNHA;2LA;2LYA;2LHA;2LHYA;2TLHA"⟩,
  ⟨0x16f1b, "2DLHA;2TLHYA;2DLHYA;2KA;2GA;2YI KA;2QA;2QGA;2NGA;2NGHA;2ARCHAIC NGA;2HA;2XA;2GHA"⟩,
  ⟨0x16f29, "2GHHA;2TSSA;2DZZA;2NYA;2NYHA;2TSHA;2DZHA;2YI TSHA;3DZHA;2REFORMED TSHA;2SHA;2SSA"⟩,
  ⟨0x16f35, "2ZHA;2ZSHA;2TSA;2DZA;2YI TSA;2SA;2ZA;2ZSA;2ZZA;2ZZSA;2ARCHAIC ZZA;2ZZYA;2ZZSYA;2WA"⟩,
  ⟨0x16f43, "2AH;2HHA;2BRI;2SYI;2DZYI;2TE;2TSE;2RTE"⟩,
  ⟨0x16f4f, "1SIGN CONSONANT MODIFIER BAR;1LETTER NASALIZATION;1SIGN ASPIRATION;2REFORMED VOICING"⟩,
  ⟨0x16f53, "3ASPIRATION;1VOWEL SIGN A;3AA;3AHH;3AN;3ANG;3O;3OO;3WO;3W;3E;3EN;3ENG;3OEY;3I;3IA"⟩,
  ⟨0x16f63, "3IAN;3IANG;3IO;3IE;3II;3IU;3ING;3U;3UA;3UAN;3UANG;3UU;3UEI;3UNG;3Y;3YI;3AE;3AEE;3ERR"⟩,
  ⟨0x16f76, "3ROUNDED ERR;3ER;3ROUNDED ER;3AI;3EI;3AU;3OU;3N;3NG;3UOG;3YUI;3OG;3OER;3VW;3IG;3EA"⟩,
  ⟨0x16f86, "3IONG;3UI"⟩,
  ⟨0x16f8f, "1TONE RIGHT;2TOP RIGHT;2ABOVE;2BELOW;1LETTER TONE-2;33;34;35;36;37;38"⟩,
  ⟨0x16f9a, "2REFORMED TONE-1;42;44;45;46;48"⟩,
  ⟨0x16fe0, "0TANGUT ITERATION MARK;0NUSHU ITERATION MARK;0OLD CHINESE HOOK MARK;2ITERATION MARK"⟩,
  ⟨0x16fe4, "0KHITAN SMALL SCRIPT FILLER"⟩,
  ⟨0x16ff0, "0VIETNAMESE ALTERNATE READING MARK CA;4NHAY"⟩,
  ⟨0x18800, "0TANGUT COMPONENT-001;2002;2003;2004;2005;2006;2007;2008;2009;2010;2011;2012;2013"⟩,
  ⟨0x1880d, "2014;2015;2016;2017;2018;2019;2020;2021;2022;2023;2024;2025;2026;2027;2028;2029;2030"⟩,
  ⟨0x1881e, "2031;2032;2033;2034;2035;2036;2037;2038;2039;2040;2041;2042;2043;2044;2045;2046;2047"⟩,
  ⟨0x1882f, "2048;2049;2050;2051;2052;2053;2054;2055;2056;2057;2058;2059;2060;2061;2062;2063;2064"⟩,
  ⟨0x18840, "2065;2066;2067;2068;2069;2070;2071;2072;2073;2074;2075;2076;2077;2078;2079;2080;2081"⟩,
  ⟨0x18851, "2082;2083;2084;2085;2086;2087;2088;2089;2090;2091;2092;2093;2094;2095;2096;2097;2098"⟩,
  ⟨0x18862, "2099;2100;2101;2102;2103;2104;2105;2106;2107;2108;2109;2110;2111;2112;2113;2114;2115"⟩,
  ⟨0x18873, "2116;2117;2118;2119;2120;2121;2122;2123;2124;2125;2126;2127;2128;2129;2130;2131;2132"⟩,
  ⟨0x18884, "2133;2134;2135;2136;2137;2138;2139;2140;2141;2142;2143;2144;2145;2146;2147;2148;2149"⟩,
  ⟨0x18895, "2150;2151;2152;2153;2154;2155;2156;2157;2158;2159;2160;2161;2162;2163;2164;2165;2166"⟩,
  ⟨0x188a6, "2167;2168;2169;2170;2171;2172;2173;2174;2175;2176;2177;2178;2179;2180;2181;2182;2183"⟩,
  ⟨0x188b7, "2184;2185;2186;2187;2188;2189;2190;2191;2192;2193;2194;2195;2196;2197;2198;2199;2200"⟩,
  ⟨0x188c8, "2201;2202;2203;2204;2205;2206;2207;2208;2209;2210;2211;2212;2213;2214;2215;2216;2217"⟩,
  ⟨0x188d9, "2218;2219;2220;2221;2222;2223;2224;2225;2226;2227;2228;2229;2230;2231;2232;2233;2234"⟩,
  ⟨0x188ea, "2235;2236;2237;2238;2239;2240;2241;2242;2243;2244;2245;2246;2247;2248;2249;2250;2251"⟩,
  ⟨0x188fb, "2252;2253;2254;2255;2256;2257;2258;2259;2260;2261;2262;2263;2264;2265;2266;2267;2268"⟩,
  ⟨0x1890c, "2269;2270;2271;2272;2273;2274;2275;2276;2277;2278;2279;2280;2281;2282;2283;2284;2285"⟩,
  ⟨0x1891d, "2286;2287;2288;2289;2290;2291;2292;2293;2294;2295;2296;2297;2298;2299;2300;2301;2302"⟩,
  ⟨0x1892e, "2303;2304;2305;2306;2307;2308;2309;2310;2311;2312;2313;2314;2315;2316;2317;2318;2319"⟩,
  ⟨0x1893f, "2320;2321;2322;2323;2324;2325;2326;2327;2328;2329;2330;2331;2332;2333;2334;2335;2336"⟩,
  ⟨0x18950, "2337;2338;2339;2340;2341;2342;2343;2344;2345;2346;2347;2348;2349;2350;2351;2352;2353"⟩,
  ⟨0x18961, "2354;2355;2356;2357;2358;2359;2360;2361;2362;2363;2364;2365;2366;2367;2368;2369;2370"⟩,
  ⟨0x18972, "2371;2372;2373;2374;2375;2376;2377;2378;2379;2380;2381;2382;2383;2384;2385;2386;2387"⟩,
  ⟨0x18983, "2388;2389;2390;2391;2392;2393;2394;2395;2396;2397;2398;2399;2400;2401;2402;2403;2404"⟩,
  ⟨0x18994, "2405;2406;2407;2408;2409;2410;2411;2412;2413;2414;2415;2416;2417;2418;2419;2420;2421"⟩,
  ⟨0x189a5, "2422;2423;2424;2425;2426;2427;2428;2429;2430;2431;2432;2433;2434;2435;2436;2437;2438"⟩,
  ⟨0x189b6, "2439;2440;2441;2442;2443;2444;2445;2446;2447;2448;2449;2450;2451;2452;2453;2454;2455"⟩,
  ⟨0x189c7, "2456;2457;2458;2459;2460;2461;2462;2463;2464;2465;2466;2467;2468;2469;2470;2471;2472"⟩,
  ⟨0x189d8, "2473;2474;2475;2476;2477;2478;2479;2480;2481;2482;2483;2484;2485;2486;2487;2488;2489"⟩,
  ⟨0x189e9, "2490;2491;2492;2493;2494;2495;2496;2497;2498;2499;2500;2501;2502;2503;2504;2505;2506"⟩,
  ⟨0x189fa, "2507;2508;2509;2510;2511;2512;2513;2514;2515;2516;2517;2518;2519;2520;2521;2522;2523"⟩,
  ⟨0x18a0b, "2524;2525;2526;2527;2528;2529;2530;2531;2532;2533;2534;2535;2536;2537;2538;2539;2540"⟩,
  ⟨0x18a1c, "2541;2542;2543;2544;2545;2546;2547;2548;2549;2550;2551;2552;2553;2554;2555;2556;2557"⟩,
  ⟨0x18a2d, "2558;2559;2560;2561;2562;2563;2564;2565;2566;2567;2568;2569;2570;2571;2572;2573;2574"⟩,
  ⟨0x18a3e, "2575;2576;2577;2578;2579;2580;2581;2582;2583;2584;2585;2586;2587;2588;2589;2590;2591"⟩,
  ⟨0x18a4f, "2592;2593;2594;2595;2596;2597;2598;2599;2600;2601;2602;2603;2604;2605;2606;2607;2608"⟩,
  ⟨0x18a60, "2609;2610;2611;2612;2613;2614;2615;2616;2617;2618;2619;2620;2621;2622;2623;2624;2625"⟩,
  ⟨0x18a71, "2626;2627;2628;2629;2630;2631;2632;2633;2634;2635;2636;2637;2638;2639;2640;2641;2642"⟩,
  ⟨0x18a82, "2643;2644;2645;2646;2647;2648;2649;2650;2651;2652;2653;2654;2655;2656;2657;2658;2659"⟩,
  ⟨0x18a93, "2660;2661;2662;2663;2664;2665;2666;2667;2668;2669;2670;2671;2672;2673;2674;2675;2676"⟩,
  ⟨0x18aa4, "2677;2678;2679;2680;2681;2682;2683;2684;2685;2686;2687;2688;2689;2690;2691;2692;2693"⟩,
  ⟨0x18ab5, "2694;2695;2696;2697;2698;2699;2700;2701;2702;2703;2704;2705;2706;2707;2708;2709;2710"⟩,
  ⟨0x18ac6, "2711;2712;2713;2714;2715;2716;2717;2718;2719;2720;2721;2722;2723;2724;2725;2726;2727"⟩,
  ⟨0x18ad7, "2728;2729;2730;2731;2732;2733;2734;2735;2736;2737;2738;2739;2740;2741;2742;2743;2744"⟩,
  ⟨0x18ae8, "2745;2746;2747;2748;2749;2750;2751;2752;2753;2754;2755;2756;2757;2758;2759;2760;2761"⟩,
  ⟨0x18af9, "2762;2763;2764;2765;2766;2767;2768"⟩,
  ⟨0x1aff0, "0KATAKANA LETTER MINNAN TONE-2;43;44;45"⟩,
  ⟨0x1aff5, "47;48;3NASALIZED TONE-1;52;53;54;55"⟩,
  ⟨0x1affd, "57;58"⟩,
  ⟨0x1b000, "2ARCHAIC E;0HIRAGANA LETTER ARCHAIC YE;0HENTAIGANA LETTER A-1;32;33;3WO;2I-1;32;33"⟩,
  ⟨0x1b009, "34;2U-1;32;33;34;35;2E-2;33;34;35;36;2O-1;32;33;2KA-1;32;33;34;35;36;37;38;39;310"⟩,
  ⟨0x1b021, "311;3KE;2KI-1;32;33;34;35;36;37;38;2KU-1;32;33;34;35;36;37;2KE-1;32;33;34;35;36"⟩,
  ⟨0x1b038, "2KO-1;32;33;3KI;2SA-1;32;33;34;35;36;37;38;2SI-1;32;33;34;35;36;2SU-1;32;33;34;35;36"⟩,
  ⟨0x1b050, "37;38;2SE-1;32;33;34;35;2SO-1;32;33;34;35;36;37;2TA-1;32;33;34;2TI-1;32;33;34;35;36"⟩,
  ⟨0x1b068, "37;2TU-1;32;33;34;3TO;2TE-1;32;33;34;35;36;37;38;39;2TO-1;32;33;34;35;36;3RA;2NA-1"⟩,
  ⟨0x1b07f, "32;33;34;35;36;37;38;39;2NI-1;32;33;34;35;36;37;3TE;2NU-1;32;33;2NE-1;32;33;34;35;36"⟩,
  ⟨0x1b098, "3KO;2NO-1;32;33;34;35;2HA-1;32;33;34;35;36;37;38;39;310;311;2HI-1;32;33;34;35;36;37"⟩,
  ⟨0x1b0b0, "2HU-1;32;33;2HE-1;32;33;34;35;36;37;2HO-1;32;33;34;35;36;37;38;2MA-1;32;33;34;35;36"⟩,
  ⟨0x1b0c8, "37;2MI-1;32;33;34;35;36;37;2MU-1;32;33;34;2ME-1;32;3MA;2MO-1;32;33;34;35;36;2YA-1;32"⟩,
  ⟨0x1b0df, "33;34;35;3YO;2YU-1;32;33;34;2YO-1;32;33;34;35;36;2RA-1;32;33;34;2RI-1;32;33;34;35;36"⟩,
  ⟨0x1b0f7, "37;2RU-1;32;33;34;35;36;2RE-1;32;33;34;2RO-1;32;33;34;35;36;2WA-1;32;33;34;35;2WI-1"⟩,
  ⟨0x1b10e, "32;33;34;35;2WE-1;32;33;34;2WO-1;32;33;34;35;36;37;2N-MU-MO-1;52"⟩,
  ⟨0x1b11f, "0HIRAGANA LETTER ARCHAIC WU;0KATAKANA LETTER ARCHAIC YI;3YE;3WU"⟩,
  ⟨0x1b150, "0HIRAGANA LETTER SMALL WI;3WE;3WO"⟩,
  ⟨0x1b164, "0KATAKANA LETTER SMALL WI;3WE;3WO;3N"⟩,
  ⟨0x1bc00, "0DUPLOYAN LETTER H;2X;2P;2T;2F;2K;2L;2B;2D;2V;2G;2R;2P N;2D S;2F N;2K M;2R S;2TH"⟩,
  ⟨0x1bc12, "2SLOAN DH;2DH;2KK;2SLOAN J;2HL;2LH;2RH;2M;2N;2J;2S;2M N;2N M;2J M;2S J;2M WITH DOT"⟩,
  ⟨0x1bc22, "2N WITH DOT;2J WITH DOT;4DOTS INSIDE AND ABOVE;2S WITH DOT;4DOT BELOW;2M S;2N S;2J S"⟩,
  ⟨0x1bc2a, "2S S;2M N S;2N M S;2J M S;2S J S;2J S WITH DOT;3N;3N S;2S T;3T R;3P;3P R;2T S;3R S"⟩,
  ⟨0x1bc38, "2W;2WH;2W R;2S N;3M;2K R S;2G R S;2S K;3K R;2A;2SLOAN OW;2OA;2O;2AOU;2I;2E;2IE"⟩,
  ⟨0x1bc49, "2SHORT I;2UI;2EE;2SLOAN EH;2ROMANIAN I;2SLOAN EE;2LONG I;2YE;2U;2EU;2XW;2U N;2LONG U"⟩,
  ⟨0x1bc56, "2ROMANIAN U;2UH;2SLOAN U;2OOH;2OW;2OU;2WA;2WO;2WI;2WEI;2WOW;2NASAL U;3O;3I;3A"⟩,
  ⟨0x1bc65, "2PERNIN AN;3AM;2SLOAN EN;3AN;3ON;2VOCALIC M"⟩,
  ⟨0x1bc70, "1AFFIX LEFT HORIZONTAL SECANT;2MID HORIZONTAL SECANT;2RIGHT HORIZONTAL SECANT"⟩,
  ⟨0x1bc73, "2LOW VERTICAL SECANT;2MID VERTICAL SECANT;2HIGH VERTICAL SECANT;2ATTACHED SECANT"⟩,
  ⟨0x1bc77, "3LEFT-TO-RIGHT SECANT;3TANGENT;3TAIL;3E HOOK;3I HOOK;3TANGENT HOOK"⟩,
  ⟨0x1bc80, "2HIGH ACUTE;3TIGHT ACUTE;3GRAVE;3LONG GRAVE;3DOT;3CIRCLE;3LINE;3WAVE;3VERTICAL"⟩,
  ⟨0x1bc90, "2LOW ACUTE;3TIGHT ACUTE;3GRAVE;3LONG GRAVE;3DOT;3CIRCLE;3LINE;3WAVE;3VERTICAL;3ARROW"⟩,
  ⟨0x1bc9c, "1SIGN O WITH CROSS;1THICK LETTER SELECTOR;1DOUBLE MARK"⟩,
  ⟨0x1bc9f, "1PUNCTUATION CHINOOK FULL STOP;0SHORTHAND FORMAT LETTER OVERLAP;2CONTINUING OVERLAP"⟩,
  ⟨0x1bca2, "2DOWN STEP;2UP STEP"⟩]

end Character
end DirectiveLint
