/-!
# Character names: the scripts from U+10000 to U+16FFF

The names of version 14 of the Unicode standard, in the packed form that
`Unicode.readNames` describes.
-/

namespace IgnoreRules.Unicode

/-- The packed names of the scripts from U+10000 to U+16FFF. -/
def ancientNames : String :=
  "10000=LINEAR B SYLLABLE B008 A;cB038 E;cB028 I;cB061 O;cB010 U;cB001 DA;cB045 DE;cB007 DI;
cB014 DO;cB051 DU;cB057 JA;cB046 JE;1000D=cB036 JO;cB065 JU;cB077 KA;cB044 KE;cB067 KI;cB070 KO;
cB081 KU;cB080 MA;cB013 ME;cB073 MI;cB015 MO;cB023 MU;cB006 NA;cB024 NE;cB030 NI;cB052 NO;
cB055 NU;cB003 PA;cB072 PE;cB039 PI;cB011 PO;cB050 PU;cB016 QA;cB078 QE;cB021 QI;cB032 QO;
10028=cB060 RA;cB027 RE;cB053 RI;cB002 RO;cB026 RU;cB031 SA;cB009 SE;cB041 SI;cB012 SO;cB058 SU;
cB059 TA;cB004 TE;cB037 TI;cB005 TO;cB069 TU;cB054 WA;cB075 WE;cB040 WI;cB042 WO;1003C=cB017 ZA;
cB074 ZE;1003F=cB020 ZO;cB025 A2;cB043 A3;cB085 AU;cB071 DWE;cB090 DWO;cB048 NWA;cB029 PU2;
cB062 PTE;cB076 RA2;cB033 RA3;cB068 RO2;cB066 TA2;cB087 TWE;cB091 TWO;10050=bSYMBOL B018;cB019;
cB022;cB034;cB047;cB049;cB056;cB063;cB064;cB079;cB082;cB083;cB086;cB089;10080=bIDEOGRAM B100 MAN;
cB102 WOMAN;cB104 DEER;cB105 EQUID;cB105F MARE;cB105M STALLION;cB106F EWE;cB106M RAM;
cB107F SHE-GOAT;cB107M HE-GOAT;cB108F SOW;cB108M BOAR;cB109F COW;cB109M BULL;cB120 WHEAT;
cB121 BARLEY;cB122 OLIVE;cB123 SPICE;cB125 CYPERUS;bMONOGRAM B127 KAPO;cB128 KANAKO;
bIDEOGRAM B130 OIL;cB131 WINE;cB132;bMONOGRAM B133 AREPA;cB135 MERI;bIDEOGRAM B140 BRONZE;
cB141 GOLD;cB142;cB145 WOOL;cB146;cB150;cB151 HORN;cB152;cB153;cB154;bMONOGRAM B156 TURO2;
bIDEOGRAM B157;cB158;cB159 CLOTH;cB160;cB161;cB162 GARMENT;cB163 ARMOUR;cB164;cB165;cB166;cB167;
cB168;cB169;cB170;cB171;cB172;cB173 MONTH;cB174;cB176 TREE;cB177;cB178;cB179;cB180;cB181;cB182;
cB183;cB184;cB185;cB189;cB190;cB191 HELMET;cB220 FOOTSTOOL;cB225 BATHTUB;cB230 SPEAR;cB231 ARROW;
cB232;cB233 SWORD;cB234;cB236;cB240 WHEELED CHARIOT;cB241 CHARIOT;cB242 CHARIOT FRAME;cB243 WHEEL;
cB245;cB246;bMONOGRAM B247 DIPTE;bIDEOGRAM B248;cB249;cB251;cB252;cB253;cB254 DART;cB255;cB256;
cB257;cB258;cB259;cVESSEL B155;dB200;dB201;dB202;dB203;dB204;dB205;dB206;dB207;dB208;dB209;dB210;
dB211;dB212;dB213;dB214;dB215;dB216;dB217;dB218;dB219;dB221;dB222;dB226;dB227;dB228;dB229;dB250;
dB305;10100=AEGEAN WORD SEPARATOR LINE;cDOT;aCHECK MARK;10107=aNUMBER ONE;bTWO;bTHREE;bFOUR;bFIVE;
bSIX;bSEVEN;bEIGHT;bNINE;bTEN;bTWENTY;bTHIRTY;bFORTY;bFIFTY;bSIXTY;bSEVENTY;bEIGHTY;bNINETY;
bONE HUNDRED;bTWO HUNDRED;bTHREE HUNDRED;bFOUR HUNDRED;bFIVE HUNDRED;bSIX HUNDRED;bSEVEN HUNDRED;
bEIGHT HUNDRED;bNINE HUNDRED;bONE THOUSAND;bTWO THOUSAND;bTHREE THOUSAND;bFOUR THOUSAND;
bFIVE THOUSAND;bSIX THOUSAND;bSEVEN THOUSAND;bEIGHT THOUSAND;bNINE THOUSAND;bTEN THOUSAND;
bTWENTY THOUSAND;bTHIRTY THOUSAND;bFORTY THOUSAND;bFIFTY THOUSAND;bSIXTY THOUSAND;
bSEVENTY THOUSAND;bEIGHTY THOUSAND;bNINETY THOUSAND;10137=aWEIGHT BASE UNIT;bFIRST SUBUNIT;
bSECOND SUBUNIT;bTHIRD SUBUNIT;bFOURTH SUBUNIT;aDRY MEASURE FIRST SUBUNIT;
aLIQUID MEASURE FIRST SUBUNIT;aMEASURE SECOND SUBUNIT;bTHIRD SUBUNIT;
GREEK ACROPHONIC ATTIC ONE QUARTER;dHALF;dDRACHMA;cFIVE;cFIFTY;cFIVE HUNDRED;dTHOUSAND;
cFIFTY THOUSAND;cFIVE TALENTS;cTEN TALENTS;cFIFTY TALENTS;cONE HUNDRED TALENTS;
cFIVE HUNDRED TALENTS;cONE THOUSAND TALENTS;cFIVE THOUSAND TALENTS;dSTATERS;cTEN STATERS;
cFIFTY STATERS;cONE HUNDRED STATERS;cFIVE HUNDRED STATERS;cONE THOUSAND STATERS;
cTEN THOUSAND STATERS;cFIFTY THOUSAND STATERS;cTEN MNAS;bHERAEUM ONE PLETHRON;bTHESPIAN ONE;
bHERMIONIAN ONE;bEPIDAUREAN TWO;bTHESPIAN TWO;bCYRENAIC TWO DRACHMAS;bEPIDAUREAN TWO DRACHMAS;
bTROEZENIAN FIVE;cTEN;dALTERNATE FORM;bHERMIONIAN TEN;bMESSENIAN TEN;bTHESPIAN TEN;cTHIRTY;
bTROEZENIAN FIFTY;dALTERNATE FORM;bHERMIONIAN FIFTY;bTHESPIAN FIFTY;cONE HUNDRED;cTHREE HUNDRED;
bEPIDAUREAN FIVE HUNDRED;bTROEZENIAN FIVE HUNDRED;bTHESPIAN FIVE HUNDRED;bCARYSTIAN FIVE HUNDRED;
bNAXIAN FIVE HUNDRED;bTHESPIAN ONE THOUSAND;cFIVE THOUSAND;bDELPHIC FIVE MNAS;
bSTRATIAN FIFTY MNAS;aONE HALF SIGN;dALTERNATE FORM;aTWO THIRDS SIGN;aTHREE QUARTERS SIGN;
aYEAR SIGN;aTALENT SIGN;aDRACHMA SIGN;aOBOL SIGN;aTWO OBOLS SIGN;aTHREE OBOLS SIGN;
aFOUR OBOLS SIGN;aFIVE OBOLS SIGN;aMETRETES SIGN;aKYATHOS BASE SIGN;aLITRA SIGN;aOUNKIA SIGN;
aXESTES SIGN;aARTABE SIGN;aAROURA SIGN;aGRAMMA SIGN;aTRYBLION BASE SIGN;aZERO SIGN;
aONE QUARTER SIGN;aSINUSOID SIGN;aINDICTION SIGN;NOMISMA SIGN;10190=ROMAN SEXTANS SIGN;
aUNCIA SIGN;aSEMUNCIA SIGN;aSEXTULA SIGN;aDIMIDIA SEXTULA SIGN;aSILIQUA SIGN;aDENARIUS SIGN;
aQUINARIUS SIGN;aSESTERTIUS SIGN;aDUPONDIUS SIGN;aAS SIGN;aCENTURIAL SIGN;ASCIA SYMBOL;
101A0=GREEK SYMBOL TAU RHO;101D0=PHAISTOS DISC SIGN PEDESTRIAN;cPLUMED HEAD;cTATTOOED HEAD;
cCAPTIVE;cCHILD;cWOMAN;cHELMET;cGAUNTLET;cTIARA;cARROW;cBOW;cSHIELD;cCLUB;cMANACLES;cMATTOCK;cSAW;
cLID;cBOOMERANG;cCARPENTRY PLANE;cDOLIUM;cCOMB;cSLING;cCOLUMN;cBEEHIVE;cSHIP;cHORN;cHIDE;
cBULLS LEG;cCAT;cRAM;cEAGLE;cDOVE;cTUNNY;cBEE;cPLANE TREE;cVINE;cPAPYRUS;cROSETTE;cLILY;cOX BACK;
cFLUTE;cGRATER;cSTRAINER;cSMALL AXE;cWAVY BAND;cCOMBINING OBLIQUE STROKE;10280=LYCIAN LETTER A;bE;
bB;bBH;bG;bD;bI;bW;bZ;bTH;bJ;bK;bQ;bL;bM;bN;bMM;bNN;bU;bP;bKK;bR;bS;bT;bTT;bAN;bEN;bH;bX;
102A0=CARIAN LETTER A;bP2;bD;bL;bUUU;bR;bLD;bA2;bQ;bB;bM;bO;bD2;bT;bSH;bSH2;bS;bC-18;bU;bNN;bX;bN;
bTT2;bP;bSS;bI;bE;bUUUU;bK;bK2;bND;bUU;bG;bG2;bST;bST2;bNG;bII;bC-39;bTT;bUUU2;bRR;bMB;bMB2;bMB3;
bMB4;bLD2;bE2;bUUU3;102E0=COPTIC EPACT THOUSANDS MARK;bDIGIT ONE;cTWO;cTHREE;cFOUR;cFIVE;cSIX;
cSEVEN;cEIGHT;cNINE;bNUMBER TEN;cTWENTY;cTHIRTY;cFORTY;cFIFTY;cSIXTY;cSEVENTY;cEIGHTY;cNINETY;
cONE HUNDRED;cTWO HUNDRED;cTHREE HUNDRED;cFOUR HUNDRED;cFIVE HUNDRED;cSIX HUNDRED;cSEVEN HUNDRED;
cEIGHT HUNDRED;cNINE HUNDRED;10300=OLD ITALIC LETTER A;cBE;cKE;cDE;cE;cVE;cZE;cHE;cTHE;cI;cKA;cEL;
cEM;cEN;cESH;cO;cPE;cSHE;cKU;cER;cES;cTE;cU;cEKS;cPHE;cKHE;cEF;cERS;cCHE;cII;cUU;cESS;
bNUMERAL ONE;cFIVE;cTEN;cFIFTY;1032D=bLETTER YE;cNORTHERN TSE;cSOUTHERN TSE;GOTHIC LETTER AHSA;
bBAIRKAN;bGIBA;bDAGS;bAIHVUS;bQAIRTHRA;bIUJA;bHAGL;bTHIUTH;bEIS;bKUSMA;bLAGUS;bMANNA;bNAUTHS;bJER;
bURUS;bPAIRTHRA;bNINETY;bRAIDA;bSAUIL;bTEIWS;bWINJA;bFAIHU;bIGGWS;bHWAIR;bOTHAL;bNINE HUNDRED;
10350=OLD PERMIC LETTER AN;cBUR;cGAI;cDOI;cE;cZHOI;cDZHOI;cZATA;cDZITA;cI;cKOKE;cLEI;cMENOE;
cNENOE;cVOOI;cPEEI;cREI;cSII;cTAI;cU;cCHERY;cSHOOI;cSHCHOOI;cYRY;cYERU;cO;cOO;cEF;cHA;cTSIU;cVER;
cYER;cYERI;cYAT;cIE;cYU;cYA;cIA;COMBINING OLD PERMIC LETTER AN;dDOI;dZATA;dNENOE;dSII;
10380=UGARITIC LETTER ALPA;bBETA;bGAMLA;bKHA;bDELTA;bHO;bWO;bZETA;bHOTA;bTET;bYOD;bKAF;bSHIN;
bLAMDA;bMEM;bDHAL;bNUN;bZU;bSAMKA;bAIN;bPU;bSADE;bQOPA;bRASHA;bTHANNA;bGHAIN;bTO;bI;bU;bSSU;
1039F=aWORD DIVIDER;OLD PERSIAN SIGN A;cI;cU;cKA;cKU;cGA;cGU;cXA;cCA;cJA;cJI;cTA;cTU;cDA;cDI;cDU;
cTHA;cPA;cBA;cFA;cNA;cNU;cMA;cMI;cMU;cYA;cVA;cVI;cRA;cRU;cLA;cSA;cZA;cSHA;cSSA;cHA;
103C8=cAURAMAZDAA;cAURAMAZDAA-2;cAURAMAZDAAHA;cXSHAAYATHIYA;cDAHYAAUSH;cDAHYAAUSH-2;cBAGA;
cBUUMISH;bWORD DIVIDER;bNUMBER ONE;cTWO;cTEN;cTWENTY;cHUNDRED;10400=DESERET CAPITAL LETTER LONG I;
dE;dA;dAH;dO;dOO;cSHORT I;dE;dA;dAH;dO;dOO;cAY;cOW;cWU;cYEE;cH;cPEE;cBEE;cTEE;cDEE;cCHEE;cJEE;
cKAY;cGAY;cEF;cVEE;cETH;cTHEE;cES;cZEE;cESH;cZHEE;cER;cEL;cEM;cEN;cENG;cOI;cEW;
aSMALL LETTER LONG I;dE;dA;dAH;dO;dOO;cSHORT I;dE;dA;dAH;dO;dOO;cAY;cOW;cWU;cYEE;cH;cPEE;cBEE;
cTEE;cDEE;cCHEE;cJEE;cKAY;cGAY;cEF;cVEE;cETH;cTHEE;cES;cZEE;cESH;cZHEE;cER;cEL;cEM;cEN;cENG;cOI;
cEW;SHAVIAN LETTER PEEP;bTOT;bKICK;bFEE;bTHIGH;bSO;bSURE;bCHURCH;bYEA;bHUNG;bBIB;bDEAD;bGAG;bVOW;
bTHEY;bZOO;bMEASURE;bJUDGE;bWOE;bHA-HA;bLOLL;bMIME;bIF;bEGG;bASH;bADO;bON;bWOOL;bOUT;bAH;bROAR;
bNUN;bEAT;bAGE;bICE;bUP;bOAK;bOOZE;bOIL;bAWE;bARE;bOR;bAIR;bERR;bARRAY;bEAR;bIAN;bYEW;
OSMANYA LETTER ALEF;bBA;bTA;bJA;bXA;bKHA;bDEEL;bRA;bSA;bSHIIN;bDHA;bCAYN;bGA;bFA;bQAAF;bKAAF;
bLAAN;bMIIN;bNUUN;bWAW;bHA;bYA;bA;bE;bI;bO;bU;bAA;bEE;bOO;104A0=aDIGIT ZERO;bONE;bTWO;bTHREE;
bFOUR;bFIVE;bSIX;bSEVEN;bEIGHT;bNINE;104B0=OSAGE CAPITAL LETTER A;cAI;cAIN;cAH;cBRA;cCHA;cEHCHA;
cE;cEIN;cHA;cHYA;cI;cKA;cEHKA;cKYA;cLA;cMA;cNA;cO;cOIN;cPA;cEHPA;cSA;cSHA;cTA;cEHTA;cTSA;cEHTSA;
cTSHA;cDHA;cU;cWA;cKHA;cGHA;cZA;cZHA;104D8=aSMALL LETTER A;cAI;cAIN;cAH;cBRA;cCHA;cEHCHA;cE;cEIN;
cHA;cHYA;cI;cKA;cEHKA;cKYA;cLA;cMA;cNA;cO;cOIN;cPA;cEHPA;cSA;cSHA;cTA;cEHTA;cTSA;cEHTSA;cTSHA;
cDHA;cU;cWA;cKHA;cGHA;cZA;cZHA;10500=ELBASAN LETTER A;bBE;bCE;bCHE;bDE;bNDE;bDHE;bEI;bE;bFE;bGE;
bGJE;bHE;bI;bJE;bKE;bLE;bLLE;bME;bNE;bNA;bNJE;bO;bPE;bQE;bRE;bRRE;bSE;bSHE;bTE;bTHE;bU;bVE;bXE;bY;
bZE;bZHE;bGHE;bGHAMMA;bKHE;10530=CAUCASIAN ALBANIAN LETTER ALT;cBET;cGIM;cDAT;cEB;cZARL;cEYN;
cZHIL;cTAS;cCHA;cYOWD;cZHA;cIRB;cSHA;cLAN;cINYA;cXEYN;cDYAN;cCAR;cJHOX;cKAR;cLYIT;cHEYT;cQAY;cAOR;
cCHOY;cCHI;cCYAY;cMAQ;cQAR;cNOWC;cDZYAY;cSHAK;cJAYN;cON;cTYAY;cFAM;cDZAY;cCHAT;cPEN;cGHEYS;cRAT;
cSEYK;cVEYZ;cTIWR;cSHOY;cIWN;cCYAW;cCAYN;cYAYD;cPIWR;cKIW;1056F=bCITATION MARK;
VITHKUQI CAPITAL LETTER A;cBBE;cBE;cCE;cCHE;cDE;cDHE;cEI;cE;cFE;cGA;1057C=cHA;cHHA;cI;cIJE;cJE;
cKA;cLA;cLLA;cME;cNE;cNJE;cO;cPE;cQA;cRE;1058C=cSE;cSHE;cTE;cTHE;cU;cVE;cXE;10594=cY;cZE;
10597=aSMALL LETTER A;cBBE;cBE;cCE;cCHE;cDE;cDHE;cEI;cE;cFE;cGA;105A3=cHA;cHHA;cI;cIJE;cJE;cKA;
cLA;cLLA;cME;cNE;cNJE;cO;cPE;cQA;cRE;105B3=cSE;cSHE;cTE;cTHE;cU;cVE;cXE;105BB=cY;cZE;
10600=LINEAR A SIGN AB001;cAB002;cAB003;cAB004;cAB005;cAB006;cAB007;cAB008;cAB009;cAB010;cAB011;
cAB013;cAB016;cAB017;cAB020;cAB021;cAB021F;cAB021M;cAB022;cAB022F;cAB022M;cAB023;cAB023M;cAB024;
cAB026;cAB027;cAB028;cA028B;cAB029;cAB030;cAB031;cAB034;cAB037;cAB038;cAB039;cAB040;cAB041;cAB044;
cAB045;cAB046;cAB047;cAB048;cAB049;cAB050;cAB051;cAB053;cAB054;cAB055;cAB056;cAB057;cAB058;cAB059;
cAB060;cAB061;cAB065;cAB066;cAB067;cAB069;cAB070;cAB073;cAB074;cAB076;cAB077;cAB078;cAB079;cAB080;
cAB081;cAB082;cAB085;cAB086;cAB087;cA100-102;cAB118;cAB120;cA120B;cAB122;cAB123;cAB131A;cAB131B;
cA131C;cAB164;cAB171;cAB180;cAB188;cAB191;cA301;cA302;cA303;cA304;cA305;cA306;cA307;cA308;cA309A;
cA309B;cA309C;cA310;cA311;cA312;cA313A;cA313B;cA313C;cA314;cA315;cA316;cA317;cA318;cA319;cA320;
cA321;cA322;cA323;cA324;cA325;cA326;cA327;cA328;cA329;cA330;cA331;cA332;cA333;cA334;cA335;cA336;
cA337;cA338;cA339;cA340;cA341;cA342;cA343;cA344;cA345;cA346;cA347;cA348;cA349;cA350;cA351;cA352;
cA353;cA354;cA355;cA356;cA357;cA358;cA359;cA360;cA361;cA362;cA363;cA364;cA365;cA366;cA367;cA368;
cA369;cA370;cA371;cA400-VAS;cA401-VAS;cA402-VAS;cA403-VAS;cA404-VAS;cA405-VAS;cA406-VAS;cA407-VAS;
cA408-VAS;cA409-VAS;cA410-VAS;cA411-VAS;cA412-VAS;cA413-VAS;cA414-VAS;cA415-VAS;cA416-VAS;
cA417-VAS;cA418-VAS;cA501;cA502;cA503;cA504;cA505;cA506;cA508;cA509;cA510;cA511;cA512;cA513;cA515;
cA516;cA520;cA521;cA523;cA524;cA525;cA526;cA527;cA528;cA529;cA530;cA531;cA532;cA534;cA535;cA536;
cA537;cA538;cA539;cA540;cA541;cA542;cA545;cA547;cA548;cA549;cA550;cA551;cA552;cA553;cA554;cA555;
cA556;cA557;cA559;cA563;cA564;cA565;cA566;cA568;cA569;cA570;cA571;cA572;cA573;cA574;cA575;cA576;
cA577;cA578;cA579;cA580;cA581;cA582;cA583;cA584;cA585;cA586;cA587;cA588;cA589;cA591;cA592;cA594;
cA595;cA596;cA598;cA600;cA601;cA602;cA603;cA604;cA606;cA608;cA609;cA610;cA611;cA612;cA613;cA614;
cA615;cA616;cA617;cA618;cA619;cA620;cA621;cA622;cA623;cA624;cA626;cA627;cA628;cA629;cA634;cA637;
cA638;cA640;cA642;cA643;cA644;cA645;cA646;cA648;cA649;cA651;cA652;cA653;cA654;cA655;cA656;cA657;
cA658;cA659;cA660;cA661;cA662;cA663;cA664;10740=cA701 A;cA702 B;cA703 D;cA704 E;cA705 F;cA706 H;
cA707 J;cA708 K;cA709 L;cA709-2 L2;cA709-3 L3;cA709-4 L4;cA709-6 L6;cA710 W;cA711 X;cA712 Y;
cA713 OMEGA;cA714 ABB;cA715 BB;cA717 DD;cA726 EYYY;cA732 JE;10760=cA800;cA801;cA802;cA803;cA804;
cA805;cA806;cA807;10780=MODIFIER LETTER SMALL CAPITAL AA;bSUPERSCRIPT TRIANGULAR COLON;
cHALF TRIANGULAR COLON;bSMALL AE;cCAPITAL B;cB WITH HOOK;10787=cDZ DIGRAPH;eWITH RETROFLEX HOOK;
fCURL;cDEZH DIGRAPH;cD WITH TAIL;eHOOK;fAND TAIL;cREVERSED E;cCLOSED REVERSED OPEN E;
cFENG DIGRAPH;cRAMS HORN;cCAPITAL G;cG WITH HOOK;cCAPITAL G WITH HOOK;cH WITH STROKE;cCAPITAL H;
cHENG WITH HOOK;cDOTLESS J WITH STROKE AND HOOK;cLS DIGRAPH;cLZ DIGRAPH;cL WITH BELT;
cCAPITAL L WITH BELT;cL WITH RETROFLEX HOOK AND BELT;cLEZH;dWITH RETROFLEX HOOK;cTURNED Y;
eWITH BELT;cO WITH STROKE;cCAPITAL OE;cCLOSED OMEGA;cQ;cTURNED R WITH LONG LEG;
hAND RETROFLEX HOOK;cR WITH TAIL;eFISHHOOK;cCAPITAL R;cTC DIGRAPH WITH CURL;cTS DIGRAPH;
eWITH RETROFLEX HOOK;cTESH DIGRAPH;cT WITH RETROFLEX HOOK;cV WITH RIGHT HOOK;107B2=cCAPITAL Y;
bGLOTTAL STOP WITH STROKE;bREVERSED GLOTTAL STOP WITH STROKE;bBILABIAL CLICK;bDENTAL CLICK;
bLATERAL CLICK;bALVEOLAR CLICK;bRETROFLEX CLICK WITH RETROFLEX HOOK;bSMALL S WITH CURL;
10800=CYPRIOT SYLLABLE A;bE;bI;bO;bU;bJA;10808=bJO;1080A=bKA;bKE;bKI;bKO;bKU;bLA;bLE;bLI;bLO;bLU;
bMA;bME;bMI;bMO;bMU;bNA;bNE;bNI;bNO;bNU;bPA;bPE;bPI;bPO;bPU;bRA;bRE;bRI;bRO;bRU;bSA;bSE;bSI;bSO;
bSU;bTA;bTE;bTI;bTO;bTU;bWA;bWE;bWI;bWO;10837=bXA;bXE;1083C=bZA;1083F=bZO;
IMPERIAL ARAMAIC LETTER ALEPH;cBETH;cGIMEL;cDALETH;cHE;cWAW;cZAYIN;cHETH;cTETH;cYODH;cKAPH;
cLAMEDH;cMEM;cNUN;cSAMEKH;cAYIN;cPE;cSADHE;cQOPH;cRESH;cSHIN;cTAW;10857=bSECTION SIGN;bNUMBER ONE;
cTWO;cTHREE;cTEN;cTWENTY;cONE HUNDRED;dTHOUSAND;cTEN THOUSAND;PALMYRENE LETTER ALEPH;bBETH;bGIMEL;
bDALETH;bHE;bWAW;bZAYIN;bHETH;bTETH;bYODH;bKAPH;bLAMEDH;bMEM;bFINAL NUN;bNUN;bSAMEKH;bAYIN;bPE;
bSADHE;bQOPH;bRESH;bSHIN;bTAW;aLEFT-POINTING FLEURON;aRIGHT-POINTING FLEURON;aNUMBER ONE;bTWO;
bTHREE;bFOUR;bFIVE;bTEN;bTWENTY;NABATAEAN LETTER FINAL ALEPH;bALEPH;bFINAL BETH;bBETH;bGIMEL;
bDALETH;bFINAL HE;bHE;bWAW;bZAYIN;bHETH;bTETH;bFINAL YODH;bYODH;bFINAL KAPH;bKAPH;bFINAL LAMEDH;
bLAMEDH;bFINAL MEM;bMEM;bFINAL NUN;bNUN;bSAMEKH;bAYIN;bPE;bSADHE;bQOPH;bRESH;bFINAL SHIN;bSHIN;
bTAW;108A7=aNUMBER ONE;bTWO;bTHREE;bFOUR;aCRUCIFORM NUMBER FOUR;aNUMBER FIVE;bTEN;bTWENTY;
bONE HUNDRED;108E0=HATRAN LETTER ALEPH;bBETH;bGIMEL;bDALETH-RESH;bHE;bWAW;bZAYN;bHETH;bTETH;bYODH;
bKAPH;bLAMEDH;bMEM;bNUN;bSAMEKH;bAYN;bPE;bSADHE;bQOPH;108F4=bSHIN;bTAW;108FB=aNUMBER ONE;bFIVE;
bTEN;bTWENTY;bONE HUNDRED;PHOENICIAN LETTER ALF;bBET;bGAML;bDELT;bHE;bWAU;bZAI;bHET;bTET;bYOD;
bKAF;bLAMD;bMEM;bNUN;bSEMK;bAIN;bPE;bSADE;bQOF;bROSH;bSHIN;bTAU;aNUMBER ONE;bTEN;bTWENTY;
bONE HUNDRED;bTWO;bTHREE;1091F=aWORD SEPARATOR;LYDIAN LETTER A;bB;bG;bD;bE;bV;bI;bY;bK;bL;bM;bN;
bO;bR;bSS;bT;bU;bF;bQ;bS;bTT;bAN;bEN;bLY;bNN;bC;1093F=aTRIANGULAR MARK;
10980=MEROITIC HIEROGLYPHIC LETTER A;cE;cI;cO;cYA;cWA;cBA;cBA-2;cPA;cMA;cNA;cNA-2;cNE;cNE-2;cRA;
cRA-2;cLA;cKHA;cHHA;cSA;cSA-2;cSE;cKA;cQA;cTA;cTA-2;cTE;cTE-2;cTO;cDA;bSYMBOL VIDJ;cVIDJ-2;
aCURSIVE LETTER A;cE;cI;cO;cYA;cWA;cBA;cPA;cMA;cNA;cNE;cRA;cLA;cKHA;cHHA;cSA;cARCHAIC SA;cSE;cKA;
cQA;cTA;cTE;cTO;cDA;109BC=bFRACTION ELEVEN TWELFTHS;cONE HALF;bLOGOGRAM RMT;cIMN;bNUMBER ONE;cTWO;
cTHREE;cFOUR;cFIVE;cSIX;cSEVEN;cEIGHT;cNINE;cTEN;cTWENTY;cTHIRTY;cFORTY;cFIFTY;cSIXTY;cSEVENTY;
109D2=cONE HUNDRED;cTWO HUNDRED;cTHREE HUNDRED;cFOUR HUNDRED;cFIVE HUNDRED;cSIX HUNDRED;
cSEVEN HUNDRED;cEIGHT HUNDRED;cNINE HUNDRED;cONE THOUSAND;cTWO THOUSAND;cTHREE THOUSAND;
cFOUR THOUSAND;cFIVE THOUSAND;cSIX THOUSAND;cSEVEN THOUSAND;cEIGHT THOUSAND;cNINE THOUSAND;
cTEN THOUSAND;cTWENTY THOUSAND;cTHIRTY THOUSAND;cFORTY THOUSAND;cFIFTY THOUSAND;cSIXTY THOUSAND;
cSEVENTY THOUSAND;cEIGHTY THOUSAND;cNINETY THOUSAND;cONE HUNDRED THOUSAND;cTWO HUNDRED THOUSAND;
cTHREE HUNDRED THOUSAND;cFOUR HUNDRED THOUSAND;cFIVE HUNDRED THOUSAND;cSIX HUNDRED THOUSAND;
cSEVEN HUNDRED THOUSAND;cEIGHT HUNDRED THOUSAND;cNINE HUNDRED THOUSAND;bFRACTION ONE TWELFTH;
cTWO TWELFTHS;cTHREE TWELFTHS;cFOUR TWELFTHS;cFIVE TWELFTHS;cSIX TWELFTHS;cSEVEN TWELFTHS;
cEIGHT TWELFTHS;cNINE TWELFTHS;cTEN TWELFTHS;KHAROSHTHI LETTER A;aVOWEL SIGN I;cU;cVOCALIC R;
10A05=cE;cO;10A0C=bLENGTH MARK;aSIGN DOUBLE RING BELOW;bANUSVARA;bVISARGA;aLETTER KA;bKHA;bGA;
bGHA;10A15=bCA;bCHA;bJA;10A19=bNYA;bTTA;bTTHA;bDDA;bDDHA;bNNA;bTA;bTHA;bDA;bDHA;bNA;bPA;bPHA;bBA;
bBHA;bMA;bYA;bRA;bLA;bVA;bSHA;bSSA;bSA;bZA;bHA;bKKA;bTTTHA;bTTTA;bVHA;10A38=aSIGN BAR ABOVE;
bCAUDA;bDOT BELOW;10A3F=aVIRAMA;aDIGIT ONE;bTWO;bTHREE;bFOUR;aNUMBER TEN;bTWENTY;bONE HUNDRED;
cTHOUSAND;aFRACTION ONE HALF;10A50=aPUNCTUATION DOT;bSMALL CIRCLE;bCIRCLE;bCRESCENT BAR;bMANGALAM;
bLOTUS;bDANDA;bDOUBLE DANDA;bLINES;10A60=OLD SOUTH ARABIAN LETTER HE;dLAMEDH;dHETH;dMEM;dQOPH;
dWAW;dSHIN;dRESH;dBETH;dTAW;dSAT;dKAPH;dNUN;dKHETH;dSADHE;dSAMEKH;dFE;dALEF;dAYN;dDHADHE;dGIMEL;
dDALETH;dGHAYN;dTETH;dZAYN;dDHALETH;dYODH;dTHAW;dTHETH;cNUMBER ONE;dFIFTY;cNUMERIC INDICATOR;
aNORTH ARABIAN LETTER HEH;dLAM;dHAH;dMEEM;dQAF;dWAW;dES-2;dREH;dBEH;dTEH;dES-1;dKAF;dNOON;dKHAH;
dSAD;dES-3;dFEH;dALEF;dAIN;dDAD;dGEEM;dDAL;dGHAIN;dTAH;dZAIN;dTHAL;dYEH;dTHEH;dZAH;cNUMBER ONE;
dTEN;dTWENTY;10AC0=MANICHAEAN LETTER ALEPH;bBETH;bBHETH;bGIMEL;bGHIMEL;bDALETH;bHE;bWAW;aSIGN UD;
aLETTER ZAYIN;bZHAYIN;bJAYIN;bJHAYIN;bHETH;bTETH;bYODH;bKAPH;bXAPH;bKHAPH;bLAMEDH;bDHAMEDH;
bTHAMEDH;bMEM;bNUN;bSAMEKH;bAYIN;bAAYIN;bPE;bFE;bSADHE;bQOPH;bXOPH;bQHOPH;bRESH;bSHIN;bSSHIN;bTAW;
aABBREVIATION MARK ABOVE;cBELOW;10AEB=aNUMBER ONE;bFIVE;bTEN;bTWENTY;bONE HUNDRED;
aPUNCTUATION STAR;bFLEURON;bDOUBLE DOT WITHIN DOT;bDOT WITHIN DOT;c;bTWO DOTS;bLINE FILLER;
10B00=AVESTAN LETTER A;bAA;bAO;bAAO;bAN;bAAN;bAE;bAEE;bE;bEE;bO;bOO;bI;bII;bU;bUU;bKE;bXE;bXYE;
bXVE;bGE;bGGE;bGHE;bCE;bJE;bTE;bTHE;bDE;bDHE;bTTE;bPE;bFE;bBE;bBHE;bNGE;bNGYE;bNGVE;bNE;bNYE;bNNE;
bME;bHME;bYYE;bYE;bVE;bRE;bLE;bSE;bZE;bSHE;bZHE;bSHYE;bSSHE;bHE;10B39=aABBREVIATION MARK;
TINY TWO DOTS OVER ONE DOT PUNCTUATION;SMALL TWO DOTS OVER ONE DOT PUNCTUATION;
LARGE TWO DOTS OVER ONE DOT PUNCTUATION;aONE DOT OVER TWO DOTS PUNCTUATION;
aTWO RINGS OVER ONE RING PUNCTUATION;aONE RING OVER TWO RINGS PUNCTUATION;
INSCRIPTIONAL PARTHIAN LETTER ALEPH;cBETH;cGIMEL;cDALETH;cHE;cWAW;cZAYIN;cHETH;cTETH;cYODH;cKAPH;
cLAMEDH;cMEM;cNUN;cSAMEKH;cAYIN;cPE;cSADHE;cQOPH;cRESH;cSHIN;cTAW;10B58=bNUMBER ONE;cTWO;cTHREE;
cFOUR;cTEN;cTWENTY;cONE HUNDRED;dTHOUSAND;aPAHLAVI LETTER ALEPH;cBETH;cGIMEL;cDALETH;cHE;
cWAW-AYIN-RESH;cZAYIN;cHETH;cTETH;cYODH;cKAPH;cLAMEDH;cMEM-QOPH;cNUN;cSAMEKH;cPE;cSADHE;cSHIN;
cTAW;10B78=bNUMBER ONE;cTWO;cTHREE;cFOUR;cTEN;cTWENTY;cONE HUNDRED;dTHOUSAND;
PSALTER PAHLAVI LETTER ALEPH;cBETH;cGIMEL;cDALETH;cHE;cWAW-AYIN-RESH;cZAYIN;cHETH;cYODH;cKAPH;
cLAMEDH;cMEM-QOPH;cNUN;cSAMEKH;cPE;cSADHE;cSHIN;cTAW;10B99=bSECTION MARK;bTURNED SECTION MARK;
bFOUR DOTS WITH CROSS;eDOT;10BA9=bNUMBER ONE;cTWO;cTHREE;cFOUR;cTEN;cTWENTY;cONE HUNDRED;
10C00=OLD TURKIC LETTER ORKHON A;cYENISEI A;dAE;cORKHON I;cYENISEI I;dE;cORKHON O;dOE;cYENISEI OE;
cORKHON AB;cYENISEI AB;cORKHON AEB;cYENISEI AEB;cORKHON AG;cYENISEI AG;cORKHON AEG;cYENISEI AEG;
cORKHON AD;cYENISEI AD;cORKHON AED;dEZ;cYENISEI EZ;cORKHON AY;cYENISEI AY;cORKHON AEY;
cYENISEI AEY;cORKHON AEK;cYENISEI AEK;cORKHON OEK;cYENISEI OEK;cORKHON AL;cYENISEI AL;cORKHON AEL;
dELT;dEM;dAN;dAEN;cYENISEI AEN;cORKHON ENT;cYENISEI ENT;cORKHON ENC;cYENISEI ENC;cORKHON ENY;
cYENISEI ENY;dANG;cORKHON ENG;cYENISEI AENG;cORKHON EP;dOP;dIC;dEC;cYENISEI EC;cORKHON AQ;
cYENISEI AQ;cORKHON IQ;cYENISEI IQ;cORKHON OQ;cYENISEI OQ;cORKHON AR;cYENISEI AR;cORKHON AER;dAS;
dAES;dASH;cYENISEI ASH;cORKHON ESH;cYENISEI ESH;cORKHON AT;cYENISEI AT;cORKHON AET;cYENISEI AET;
cORKHON OT;dBASH;10C80=aHUNGARIAN CAPITAL LETTER A;dAA;dEB;dAMB;dEC;dENC;dECS;dED;dAND;dE;
dCLOSE E;dEE;dEF;dEG;dEGY;dEH;dI;dII;dEJ;dEK;dAK;dUNK;dEL;dELY;dEM;dEN;dENY;dO;dOO;dNIKOLSBURG OE;
dRUDIMENTA OE;dOEE;dEP;dEMP;dER;dSHORT ER;dES;dESZ;dET;dENT;dETY;dECH;dU;dUU;dNIKOLSBURG UE;
dRUDIMENTA UE;dEV;dEZ;dEZS;dENT-SHAPED SIGN;dUS;10CC0=bSMALL LETTER A;dAA;dEB;dAMB;dEC;dENC;dECS;
dED;dAND;dE;dCLOSE E;dEE;dEF;dEG;dEGY;dEH;dI;dII;dEJ;dEK;dAK;dUNK;dEL;dELY;dEM;dEN;dENY;dO;dOO;
dNIKOLSBURG OE;dRUDIMENTA OE;dOEE;dEP;dEMP;dER;dSHORT ER;dES;dESZ;dET;dENT;dETY;dECH;dU;dUU;
dNIKOLSBURG UE;dRUDIMENTA UE;dEV;dEZ;dEZS;dENT-SHAPED SIGN;dUS;10CFA=bNUMBER ONE;cFIVE;cTEN;
cFIFTY;cONE HUNDRED;dTHOUSAND;HANIFI ROHINGYA LETTER A;cBA;cPA;cTA;cTTA;cJA;cCA;cHA;cKHA;cFA;cDA;
cDDA;cRA;cRRA;cZA;cSA;cSHA;cKA;cGA;cLA;cMA;cNA;cWA;cKINNA WA;cYA;cKINNA YA;cNGA;cNYA;cVA;bVOWEL A;
cI;cU;cE;cO;bMARK SAKIN;cNA KHONNA;bSIGN HARBAHAY;cTAHALA;cTANA;cTASSI;10D30=bDIGIT ZERO;cONE;
cTWO;cTHREE;cFOUR;cFIVE;cSIX;cSEVEN;cEIGHT;cNINE;10E60=RUMI DIGIT ONE;bTWO;bTHREE;bFOUR;bFIVE;
bSIX;bSEVEN;bEIGHT;bNINE;aNUMBER TEN;bTWENTY;bTHIRTY;bFORTY;bFIFTY;bSIXTY;bSEVENTY;bEIGHTY;
bNINETY;bONE HUNDRED;bTWO HUNDRED;bTHREE HUNDRED;bFOUR HUNDRED;bFIVE HUNDRED;bSIX HUNDRED;
bSEVEN HUNDRED;bEIGHT HUNDRED;bNINE HUNDRED;aFRACTION ONE HALF;cQUARTER;cTHIRD;bTWO THIRDS;
10E80=YEZIDI LETTER ELIF;bBE;bPE;bPHE;bTHE;bSE;bCIM;bCHIM;bCHHIM;bHHA;bXA;bDAL;bZAL;bRA;bRHA;bZA;
bJA;bSIN;bSHIN;bSAD;bDAD;bTA;bZE;bEYN;bXHEYN;bFA;bVA;cALTERNATE FORM;bQAF;bKAF;bKHAF;bGAF;bLAM;
bMIM;bNUN;bUM;bWAW;bOW;bEW;bHAY;bYOT;bET;10EAB=aCOMBINING HAMZA MARK;bMADDA MARK;
aHYPHENATION MARK;10EB0=aLETTER LAM WITH DOT ABOVE;bYOT WITH CIRCUMFLEX ABOVE;
10F00=OLD SOGDIAN LETTER ALEPH;cFINAL ALEPH;cBETH;cFINAL BETH;cGIMEL;cHE;cFINAL HE;cWAW;cZAYIN;
cHETH;cYODH;cKAPH;cLAMEDH;cMEM;cNUN;cFINAL NUN;eWITH VERTICAL TAIL;cSAMEKH;cAYIN;cALTERNATE AYIN;
cPE;cSADHE;cFINAL SADHE;eWITH VERTICAL TAIL;cRESH-AYIN-DALETH;cSHIN;cTAW;cFINAL TAW;
eWITH VERTICAL TAIL;bNUMBER ONE;cTWO;cTHREE;cFOUR;cFIVE;cTEN;cTWENTY;cTHIRTY;cONE HUNDRED;
bFRACTION ONE HALF;bLIGATURE AYIN-DALETH;10F30=SOGDIAN LETTER ALEPH;bBETH;bGIMEL;bHE;bWAW;bZAYIN;
bHETH;bYODH;bKAPH;bLAMEDH;bMEM;bNUN;bSAMEKH;bAYIN;bPE;bSADHE;bRESH-AYIN;bSHIN;bTAW;bFETH;bLESH;
aINDEPENDENT SHIN;aCOMBINING DOT BELOW;bTWO DOTS BELOW;bDOT ABOVE;bTWO DOTS ABOVE;bCURVE ABOVE;
cBELOW;bHOOK ABOVE;cBELOW;bLONG HOOK BELOW;bRESH BELOW;bSTROKE BELOW;aNUMBER ONE;bTEN;bTWENTY;
bONE HUNDRED;aPUNCTUATION TWO VERTICAL BARS;eWITH DOTS;bCIRCLE WITH DOT;bTWO CIRCLES WITH DOTS;
bHALF CIRCLE WITH DOT;10F70=OLD UYGHUR LETTER ALEPH;cBETH;cGIMEL-HETH;cWAW;cZAYIN;cFINAL HETH;
cYODH;cKAPH;cLAMEDH;cMEM;cNUN;cSAMEKH;cPE;cSADHE;cRESH;cSHIN;cTAW;cLESH;bCOMBINING DOT ABOVE;
dBELOW;cTWO DOTS ABOVE;eBELOW;bPUNCTUATION BAR;cTWO BARS;dDOTS;cFOUR DOTS;
10FB0=CHORASMIAN LETTER ALEPH;bSMALL ALEPH;bBETH;bGIMEL;bDALETH;bHE;bWAW;bCURLED WAW;bZAYIN;bHETH;
bYODH;bKAPH;bLAMEDH;bMEM;bNUN;bSAMEKH;bAYIN;bPE;bRESH;bSHIN;bTAW;aNUMBER ONE;bTWO;bTHREE;bFOUR;
bTEN;bTWENTY;bONE HUNDRED;10FE0=ELYMAIC LETTER ALEPH;bBETH;bGIMEL;bDALETH;bHE;bWAW;bZAYIN;bHETH;
bTETH;bYODH;bKAPH;bLAMEDH;bMEM;bNUN;bSAMEKH;bAYIN;bPE;bSADHE;bQOPH;bRESH;bSHIN;bTAW;
aLIGATURE ZAYIN-YODH;11000=BRAHMI SIGN CANDRABINDU;bANUSVARA;bVISARGA;bJIHVAMULIYA;bUPADHMANIYA;
aLETTER A;bAA;bI;bII;bU;bUU;bVOCALIC R;cRR;cL;cLL;bE;bAI;bO;bAU;bKA;bKHA;bGA;bGHA;bNGA;bCA;bCHA;
bJA;bJHA;bNYA;bTTA;bTTHA;bDDA;bDDHA;bNNA;bTA;bTHA;bDA;bDHA;bNA;bPA;bPHA;bBA;bBHA;bMA;bYA;bRA;bLA;
bVA;bSHA;bSSA;bSA;bHA;bLLA;bOLD TAMIL LLLA;dRRA;dNNNA;aVOWEL SIGN AA;cBHATTIPROLU AA;cI;cII;cU;
cUU;cVOCALIC R;dRR;dL;dLL;cE;cAI;cO;cAU;aVIRAMA;aDANDA;aDOUBLE DANDA;aPUNCTUATION DOT;bDOUBLE DOT;
bLINE;bCRESCENT BAR;bLOTUS;11052=aNUMBER ONE;bTWO;bTHREE;bFOUR;bFIVE;bSIX;bSEVEN;bEIGHT;bNINE;
bTEN;bTWENTY;bTHIRTY;bFORTY;bFIFTY;bSIXTY;bSEVENTY;bEIGHTY;bNINETY;bONE HUNDRED;cTHOUSAND;
aDIGIT ZERO;bONE;bTWO;bTHREE;bFOUR;bFIVE;bSIX;bSEVEN;bEIGHT;bNINE;aSIGN OLD TAMIL VIRAMA;
aLETTER OLD TAMIL SHORT E;eO;aVOWEL SIGN OLD TAMIL SHORT E;fO;aLETTER OLD TAMIL LLA;
1107F=aNUMBER JOINER;KAITHI SIGN CANDRABINDU;bANUSVARA;bVISARGA;aLETTER A;bAA;bI;bII;bU;bUU;bE;
bAI;bO;bAU;bKA;bKHA;bGA;bGHA;bNGA;bCA;bCHA;bJA;bJHA;bNYA;bTTA;bTTHA;bDDA;bDDDHA;bDDHA;bRHA;bNNA;
bTA;bTHA;bDA;bDHA;bNA;bPA;bPHA;bBA;bBHA;bMA;bYA;bRA;bLA;bVA;bSHA;bSSA;bSA;bHA;aVOWEL SIGN AA;cI;
cII;cU;cUU;cE;cAI;cO;cAU;aSIGN VIRAMA;bNUKTA;aABBREVIATION SIGN;aENUMERATION SIGN;aNUMBER SIGN;
aSECTION MARK;aDOUBLE SECTION MARK;aDANDA;aDOUBLE DANDA;aVOWEL SIGN VOCALIC R;
110CD=aNUMBER SIGN ABOVE;110D0=SORA SOMPENG LETTER SAH;cTAH;cBAH;cCAH;cDAH;cGAH;cMAH;cNGAH;cLAH;
cNAH;cVAH;cPAH;cYAH;cRAH;cHAH;cKAH;cJAH;cNYAH;cAH;cEEH;cIH;cUH;cOH;cEH;cMAE;110F0=bDIGIT ZERO;
cONE;cTWO;cTHREE;cFOUR;cFIVE;cSIX;cSEVEN;cEIGHT;cNINE;11100=CHAKMA SIGN CANDRABINDU;bANUSVARA;
bVISARGA;aLETTER AA;bI;bU;bE;bKAA;bKHAA;bGAA;bGHAA;bNGAA;bCAA;bCHAA;bJAA;bJHAA;bNYAA;bTTAA;bTTHAA;
bDDAA;bDDHAA;bNNAA;bTAA;bTHAA;bDAA;bDHAA;bNAA;bPAA;bPHAA;bBAA;bBHAA;bMAA;bYYAA;bYAA;bRAA;bLAA;
bWAA;bSAA;bHAA;aVOWEL SIGN A;cI;cII;cU;cUU;cE;cAI;cO;cAU;cOI;aO MARK;aAU MARK;aVIRAMA;aMAAYYAA;
11136=aDIGIT ZERO;bONE;bTWO;bTHREE;bFOUR;bFIVE;bSIX;bSEVEN;bEIGHT;bNINE;aSECTION MARK;aDANDA;
aDOUBLE DANDA;aQUESTION MARK;aLETTER LHAA;aVOWEL SIGN AA;cEI;aLETTER VAA;11150=MAHAJANI LETTER A;
bI;bU;bE;bO;bKA;bKHA;bGA;bGHA;bCA;bCHA;bJA;bJHA;bNYA;bTTA;bTTHA;bDDA;bDDHA;bNNA;bTA;bTHA;bDA;bDHA;
bNA;bPA;bPHA;bBA;bBHA;bMA;bRA;bLA;bVA;bSA;bHA;bRRA;aSIGN NUKTA;aABBREVIATION SIGN;aSECTION MARK;
aLIGATURE SHRI;11180=SHARADA SIGN CANDRABINDU;bANUSVARA;bVISARGA;aLETTER A;bAA;bI;bII;bU;bUU;
bVOCALIC R;cRR;cL;cLL;bE;bAI;bO;bAU;bKA;bKHA;bGA;bGHA;bNGA;bCA;bCHA;bJA;bJHA;bNYA;bTTA;bTTHA;bDDA;
bDDHA;bNNA;bTA;bTHA;bDA;bDHA;bNA;bPA;bPHA;bBA;bBHA;bMA;bYA;bRA;bLA;bLLA;bVA;bSHA;bSSA;bSA;bHA;
aVOWEL SIGN AA;cI;cII;cU;cUU;cVOCALIC R;dRR;dL;dLL;cE;cAI;cO;cAU;aSIGN VIRAMA;bAVAGRAHA;
bJIHVAMULIYA;bUPADHMANIYA;aOM;aDANDA;aDOUBLE DANDA;aABBREVIATION SIGN;aSEPARATOR;aSANDHI MARK;
aSIGN NUKTA;aVOWEL MODIFIER MARK;aEXTRA SHORT VOWEL MARK;aSUTRA MARK;aVOWEL SIGN PRISHTHAMATRA E;
aSIGN INVERTED CANDRABINDU;aDIGIT ZERO;bONE;bTWO;bTHREE;bFOUR;bFIVE;bSIX;bSEVEN;bEIGHT;bNINE;
aEKAM;aSIGN SIDDHAM;aHEADSTROKE;aCONTINUATION SIGN;aSECTION MARK-1;bMARK-2;
111E1=SINHALA ARCHAIC DIGIT ONE;cTWO;cTHREE;cFOUR;cFIVE;cSIX;cSEVEN;cEIGHT;cNINE;bNUMBER TEN;
cTWENTY;cTHIRTY;cFORTY;cFIFTY;cSIXTY;cSEVENTY;cEIGHTY;cNINETY;cONE HUNDRED;dTHOUSAND;
11200=KHOJKI LETTER A;bAA;bI;bU;bE;bAI;bO;bAU;bKA;bKHA;bGA;bGGA;bGHA;bNGA;bCA;bCHA;bJA;bJJA;
11213=bNYA;bTTA;bTTHA;bDDA;bDDHA;bNNA;bTA;bTHA;bDA;bDDDA;bDHA;bNA;bPA;bPHA;bBA;bBBA;bBHA;bMA;bYA;
bRA;bLA;bVA;bSA;bHA;bLLA;aVOWEL SIGN AA;cI;cII;cU;cE;cAI;cO;cAU;aSIGN ANUSVARA;bVIRAMA;bNUKTA;
bSHADDA;aDANDA;aDOUBLE DANDA;aWORD SEPARATOR;aSECTION MARK;aDOUBLE SECTION MARK;
aABBREVIATION SIGN;aSIGN SUKUN;11280=MULTANI LETTER A;bI;bU;bE;bKA;bKHA;bGA;11288=bGHA;1128A=bCA;
bCHA;bJA;bJJA;1128F=bNYA;bTTA;bTTHA;bDDA;bDDDA;bDDHA;bNNA;bTA;bTHA;bDA;bDHA;bNA;bPA;bPHA;bBA;
1129F=bBHA;bMA;bYA;bRA;bLA;bVA;bSA;bHA;bRRA;bRHA;aSECTION MARK;112B0=KHUDAWADI LETTER A;bAA;bI;
bII;bU;bUU;bE;bAI;bO;bAU;bKA;bKHA;bGA;bGGA;bGHA;bNGA;bCA;bCHA;bJA;bJJA;bJHA;bNYA;bTTA;bTTHA;bDDA;
bDDDA;bRRA;bDDHA;bNNA;bTA;bTHA;bDA;bDHA;bNA;bPA;bPHA;bBA;bBBA;bBHA;bMA;bYA;bRA;bLA;bVA;bSHA;bSA;
bHA;aSIGN ANUSVARA;aVOWEL SIGN AA;cI;cII;cU;cUU;cE;cAI;cO;cAU;aSIGN NUKTA;bVIRAMA;
112F0=aDIGIT ZERO;bONE;bTWO;bTHREE;bFOUR;bFIVE;bSIX;bSEVEN;bEIGHT;bNINE;
11300=GRANTHA SIGN COMBINING ANUSVARA ABOVE;bCANDRABINDU;bANUSVARA;bVISARGA;11305=aLETTER A;bAA;
bI;bII;bU;bUU;bVOCALIC R;cL;1130F=bEE;bAI;11313=bOO;bAU;bKA;bKHA;bGA;bGHA;bNGA;bCA;bCHA;bJA;bJHA;
bNYA;bTTA;bTTHA;bDDA;bDDHA;bNNA;bTA;bTHA;bDA;bDHA;bNA;1132A=bPA;bPHA;bBA;bBHA;bMA;bYA;bRA;
11332=bLA;bLLA;11335=bVA;bSHA;bSSA;bSA;bHA;1133B=COMBINING BINDU BELOW;GRANTHA SIGN NUKTA;
bAVAGRAHA;aVOWEL SIGN AA;cI;cII;cU;cUU;cVOCALIC R;dRR;11347=cEE;cAI;1134B=cOO;cAU;aSIGN VIRAMA;
11350=aOM;11357=aAU LENGTH MARK;1135D=aSIGN PLUTA;aLETTER VEDIC ANUSVARA;cDOUBLE ANUSVARA;
bVOCALIC RR;cLL;aVOWEL SIGN VOCALIC L;dLL;11366=COMBINING GRANTHA DIGIT ZERO;cONE;cTWO;cTHREE;
cFOUR;cFIVE;cSIX;11370=bLETTER A;cKA;cNA;cVI;cPA;11400=NEWA LETTER A;bAA;bI;bII;bU;bUU;bVOCALIC R;
cRR;cL;cLL;bE;bAI;bO;bAU;bKA;bKHA;bGA;bGHA;bNGA;bNGHA;bCA;bCHA;bJA;bJHA;bNYA;bNYHA;bTTA;bTTHA;
bDDA;bDDHA;bNNA;bTA;bTHA;bDA;bDHA;bNA;bNHA;bPA;bPHA;bBA;bBHA;bMA;bMHA;bYA;bRA;bRHA;bLA;bLHA;bWA;
bSHA;bSSA;bSA;bHA;aVOWEL SIGN AA;cI;cII;cU;cUU;cVOCALIC R;dRR;dL;dLL;cE;cAI;cO;cAU;aSIGN VIRAMA;
bCANDRABINDU;bANUSVARA;bVISARGA;bNUKTA;bAVAGRAHA;bFINAL ANUSVARA;aOM;aSIDDHI;aDANDA;aDOUBLE DANDA;
aCOMMA;aGAP FILLER;aABBREVIATION SIGN;aDIGIT ZERO;bONE;bTWO;bTHREE;bFOUR;bFIVE;bSIX;bSEVEN;bEIGHT;
bNINE;aDOUBLE COMMA;aPLACEHOLDER MARK;1145D=aINSERTION SIGN;aSANDHI MARK;aLETTER VEDIC ANUSVARA;
aSIGN JIHVAMULIYA;bUPADHMANIYA;11480=TIRHUTA ANJI;aLETTER A;bAA;bI;bII;bU;bUU;bVOCALIC R;cRR;cL;
cLL;bE;bAI;bO;bAU;bKA;bKHA;bGA;bGHA;bNGA;bCA;bCHA;bJA;bJHA;bNYA;bTTA;bTTHA;bDDA;bDDHA;bNNA;bTA;
bTHA;bDA;bDHA;bNA;bPA;bPHA;bBA;bBHA;bMA;bYA;bRA;bLA;bVA;bSHA;bSSA;bSA;bHA;aVOWEL SIGN AA;cI;cII;
cU;cUU;cVOCALIC R;dRR;dL;dLL;cE;cSHORT E;cAI;cO;cSHORT O;cAU;aSIGN CANDRABINDU;bANUSVARA;bVISARGA;
bVIRAMA;bNUKTA;bAVAGRAHA;aGVANG;aABBREVIATION SIGN;aOM;114D0=aDIGIT ZERO;bONE;bTWO;bTHREE;bFOUR;
bFIVE;bSIX;bSEVEN;bEIGHT;bNINE;11580=SIDDHAM LETTER A;bAA;bI;bII;bU;bUU;bVOCALIC R;cRR;cL;cLL;bE;
bAI;bO;bAU;bKA;bKHA;bGA;bGHA;bNGA;bCA;bCHA;bJA;bJHA;bNYA;bTTA;bTTHA;bDDA;bDDHA;bNNA;bTA;bTHA;bDA;
bDHA;bNA;bPA;bPHA;bBA;bBHA;bMA;bYA;bRA;bLA;bVA;bSHA;bSSA;bSA;bHA;aVOWEL SIGN AA;cI;cII;cU;cUU;
cVOCALIC R;dRR;115B8=cE;cAI;cO;cAU;aSIGN CANDRABINDU;bANUSVARA;bVISARGA;bVIRAMA;bNUKTA;bSIDDHAM;
aDANDA;aDOUBLE DANDA;aSEPARATOR DOT;bBAR;aREPETITION MARK-1;bMARK-2;bMARK-3;aEND OF TEXT MARK;
aSECTION MARK WITH TRIDENT AND U-SHAPED ORNAMENTS;fDOTTED CRESCENTS;dRAYS AND DOTTED CRESCENTS;
gDOUBLE CRESCENTS;gTRIPLE CRESCENTS;cDOUBLE RING;eWITH RAYS;cWITH DOUBLE CRESCENTS;
dTRIPLE CRESCENTS;dQUADRUPLE CRESCENTS;dSEPTUPLE CRESCENTS;dCIRCLES AND RAYS;fTWO ENCLOSURES;
fFOUR ENCLOSURES;aLETTER THREE-CIRCLE ALTERNATE I;bTWO-CIRCLE ALTERNATE I;dII;bALTERNATE U;
aVOWEL SIGN ALTERNATE U;dUU;11600=MODI LETTER A;bAA;bI;bII;bU;bUU;bVOCALIC R;cRR;cL;cLL;bE;bAI;bO;
bAU;bKA;bKHA;bGA;bGHA;bNGA;bCA;bCHA;bJA;bJHA;bNYA;bTTA;bTTHA;bDDA;bDDHA;bNNA;bTA;bTHA;bDA;bDHA;
bNA;bPA;bPHA;bBA;bBHA;bMA;bYA;bRA;bLA;bVA;bSHA;bSSA;bSA;bHA;bLLA;aVOWEL SIGN AA;cI;cII;cU;cUU;
cVOCALIC R;dRR;dL;dLL;cE;cAI;cO;cAU;aSIGN ANUSVARA;bVISARGA;bVIRAMA;bARDHACANDRA;aDANDA;
aDOUBLE DANDA;aABBREVIATION SIGN;aSIGN HUVA;11650=aDIGIT ZERO;bONE;bTWO;bTHREE;bFOUR;bFIVE;bSIX;
bSEVEN;bEIGHT;bNINE;11660=MONGOLIAN BIRGA WITH ORNAMENT;aROTATED BIRGA;
aDOUBLE BIRGA WITH ORNAMENT;aTRIPLE BIRGA WITH ORNAMENT;aBIRGA WITH DOUBLE ORNAMENT;
aROTATED BIRGA WITH ORNAMENT;dDOUBLE ORNAMENT;aINVERTED BIRGA;cWITH DOUBLE ORNAMENT;aSWIRL BIRGA;
cWITH ORNAMENT;dDOUBLE ORNAMENT;aTURNED SWIRL BIRGA WITH DOUBLE ORNAMENT;11680=TAKRI LETTER A;bAA;
bI;bII;bU;bUU;bE;bAI;bO;bAU;bKA;bKHA;bGA;bGHA;bNGA;bCA;bCHA;bJA;bJHA;bNYA;bTTA;bTTHA;bDDA;bDDHA;
bNNA;bTA;bTHA;bDA;bDHA;bNA;bPA;bPHA;bBA;bBHA;bMA;bYA;bRA;bLA;bVA;bSHA;bSA;bHA;bRRA;aSIGN ANUSVARA;
bVISARGA;aVOWEL SIGN AA;cI;cII;cU;cUU;cE;cAI;cO;cAU;aSIGN VIRAMA;bNUKTA;aLETTER ARCHAIC KHA;
aABBREVIATION SIGN;116C0=aDIGIT ZERO;bONE;bTWO;bTHREE;bFOUR;bFIVE;bSIX;bSEVEN;bEIGHT;bNINE;
11700=AHOM LETTER KA;bKHA;bNGA;bNA;bTA;bALTERNATE TA;bPA;bPHA;bBA;bMA;bJA;bCHA;bTHA;bRA;bLA;bSA;
bNYA;bHA;bA;bDA;bDHA;bGA;bALTERNATE GA;bGHA;bBHA;bJHA;bALTERNATE BA;
1171D=aCONSONANT SIGN MEDIAL LA;dRA;dLIGATING RA;aVOWEL SIGN A;cAA;cI;cII;cU;cUU;cE;cAW;cO;cAI;
cAM;aSIGN KILLER;11730=aDIGIT ZERO;bONE;bTWO;bTHREE;bFOUR;bFIVE;bSIX;bSEVEN;bEIGHT;bNINE;
aNUMBER TEN;bTWENTY;aSIGN SMALL SECTION;bSECTION;bRULAI;aSYMBOL VI;aLETTER CA;bTTA;bTTHA;bDDA;
bDDHA;bNNA;bLLA;11800=DOGRA LETTER A;bAA;bI;bII;bU;bUU;bE;bAI;bO;bAU;bKA;bKHA;bGA;bGHA;bNGA;bCA;
bCHA;bJA;bJHA;bNYA;bTTA;bTTHA;bDDA;bDDHA;bNNA;bTA;bTHA;bDA;bDHA;bNA;bPA;bPHA;bBA;bBHA;bMA;bYA;bRA;
bLA;bVA;bSHA;bSSA;bSA;bHA;bRRA;aVOWEL SIGN AA;cI;cII;cU;cUU;cVOCALIC R;dRR;cE;cAI;cO;cAU;
aSIGN ANUSVARA;bVISARGA;bVIRAMA;bNUKTA;aABBREVIATION SIGN;118A0=WARANG CITI CAPITAL LETTER NGAA;
dA;dWI;dYU;dYA;dYO;dII;dUU;dE;dO;dANG;dGA;dKO;dENY;dYUJ;dUC;dENN;dODD;dTTE;dNUNG;dDA;dAT;dAM;dBU;
dPU;dHIYO;dHOLO;dHORR;dHAR;dSSUU;dSII;dVIYO;bSMALL LETTER NGAA;dA;dWI;dYU;dYA;dYO;dII;dUU;dE;dO;
dANG;dGA;dKO;dENY;dYUJ;dUC;dENN;dODD;dTTE;dNUNG;dDA;dAT;dAM;dBU;dPU;dHIYO;dHOLO;dHORR;dHAR;dSSUU;
dSII;dVIYO;bDIGIT ZERO;cONE;cTWO;cTHREE;cFOUR;cFIVE;cSIX;cSEVEN;cEIGHT;cNINE;bNUMBER TEN;cTWENTY;
cTHIRTY;cFORTY;cFIFTY;cSIXTY;cSEVENTY;cEIGHTY;cNINETY;118FF=bOM;DIVES AKURU LETTER A;cAA;cI;cII;
cU;cUU;cE;11909=cO;1190C=cKA;cKHA;cGA;cGHA;cNGA;cCA;cCHA;cJA;11915=cNYA;cTTA;11918=cDDA;cDDHA;
cNNA;cTA;cTHA;cDA;cDHA;cNA;cPA;cPHA;cBA;cBHA;cMA;cYA;cYYA;cRA;cLA;cVA;cSHA;cSSA;cSA;cHA;cLLA;cZA;
bVOWEL SIGN AA;dI;dII;dU;dUU;dE;11937=dAI;dO;1193B=bSIGN ANUSVARA;cCANDRABINDU;cHALANTA;bVIRAMA;
bPREFIXED NASAL SIGN;bMEDIAL YA;bINITIAL RA;bMEDIAL RA;bSIGN NUKTA;bDOUBLE DANDA;bGAP FILLER;
bEND OF TEXT MARK;11950=bDIGIT ZERO;cONE;cTWO;cTHREE;cFOUR;cFIVE;cSIX;cSEVEN;cEIGHT;cNINE;
119A0=NANDINAGARI LETTER A;bAA;bI;bII;bU;bUU;bVOCALIC R;cRR;119AA=bE;bAI;bO;bAU;bKA;bKHA;bGA;bGHA;
bNGA;bCA;bCHA;bJA;bJHA;bNYA;bTTA;bTTHA;bDDA;bDDHA;bNNA;bTA;bTHA;bDA;bDHA;bNA;bPA;bPHA;bBA;bBHA;
bMA;bYA;bRA;bLA;bVA;bSHA;bSSA;bSA;bHA;bLLA;bRRA;aVOWEL SIGN AA;cI;cII;cU;cUU;cVOCALIC R;dRR;
119DA=cE;cAI;cO;cAU;aSIGN ANUSVARA;bVISARGA;bVIRAMA;bAVAGRAHA;bSIDDHAM;aHEADSTROKE;
aVOWEL SIGN PRISHTHAMATRA E;11A00=ZANABAZAR SQUARE LETTER A;bVOWEL SIGN I;dUE;dU;dE;dOE;dO;dAI;
dAU;dREVERSED I;cLENGTH MARK;bLETTER KA;cKHA;cGA;cGHA;cNGA;cCA;cCHA;cJA;cNYA;cTTA;cTTHA;cDDA;
cDDHA;cNNA;cTA;cTHA;cDA;cDHA;cNA;cPA;cPHA;cBA;cBHA;cMA;cTSA;cTSHA;cDZA;cDZHA;cZHA;cZA;c-A;cYA;cRA;
cLA;cVA;cSHA;cSSA;cSA;cHA;cKSSA;bFINAL CONSONANT MARK;bSIGN VIRAMA;cCANDRABINDU;dWITH ORNAMENT;
cCANDRA WITH ORNAMENT;cANUSVARA;cVISARGA;bCLUSTER-INITIAL LETTER RA;bCLUSTER-FINAL LETTER YA;dRA;
dLA;dVA;bINITIAL HEAD MARK;bCLOSING HEAD MARK;bMARK TSHEG;cSHAD;cDOUBLE SHAD;cLONG TSHEG;
bINITIAL DOUBLE-LINED HEAD MARK;bCLOSING DOUBLE-LINED HEAD MARK;bSUBJOINER;11A50=SOYOMBO LETTER A;
aVOWEL SIGN I;cUE;cU;cE;cO;cOE;cAI;cAU;cVOCALIC R;dL;bLENGTH MARK;aLETTER KA;bKHA;bGA;bGHA;bNGA;
bCA;bCHA;bJA;bJHA;bNYA;bTTA;bTTHA;bDDA;bDDHA;bNNA;bTA;bTHA;bDA;bDHA;bNA;bPA;bPHA;bBA;bBHA;bMA;
bTSA;bTSHA;bDZA;bZHA;bZA;b-A;bYA;bRA;bLA;bVA;bSHA;bSSA;bSA;bHA;bKSSA;aSIGN JIHVAMULIYA;
bUPADHMANIYA;aCLUSTER-INITIAL LETTER RA;cLA;cSHA;cSA;aFINAL CONSONANT SIGN G;dK;dNG;dD;dN;dB;dM;
dR;dL;dSH;dS;d-A;aSIGN ANUSVARA;bVISARGA;aGEMINATION MARK;aSUBJOINER;aMARK TSHEG;bSHAD;
bDOUBLE SHAD;bPLUTA;aHEAD MARK WITH MOON AND SUN AND TRIPLE FLAME;hFLAME;g;aTERMINAL MARK-1;
bMARK-2;11AB0=CANADIAN SYLLABICS NATTILIK HI;cHII;cHO;cHOO;cHA;cHAA;cSHRI;cSHRII;cSHRO;cSHROO;
cSHRA;cSHRAA;bSPE;bSPI;bSPO;bSPA;PAU CIN HAU LETTER PA;dKA;dLA;dMA;dDA;dZA;dVA;dNGA;dHA;dGA;dKHA;
dSA;dBA;dCA;dTA;dTHA;dNA;dPHA;dRA;dFA;dCHA;dA;dE;dI;dO;dU;dUA;dIA;dFINAL P;eK;eT;eM;eN;eL;eW;eNG;
eY;cRISING TONE LONG;e;cSANDHI GLOTTAL STOP;cRISING TONE LONG FINAL;eFINAL;
cSANDHI GLOTTAL STOP FINAL;dTONE LONG;e;eLONG FINAL;eFINAL;cMID-LEVEL TONE;cGLOTTAL STOP VARIANT;
cMID-LEVEL TONE LONG FINAL;eFINAL;cLOW-FALLING TONE LONG;e;cGLOTTAL STOP;
cLOW-FALLING TONE LONG FINAL;eFINAL;cGLOTTAL STOP FINAL;11C00=BHAIKSUKI LETTER A;bAA;bI;bII;bU;
bUU;bVOCALIC R;cRR;cL;11C0A=bE;bAI;bO;bAU;bKA;bKHA;bGA;bGHA;bNGA;bCA;bCHA;bJA;bJHA;bNYA;bTTA;
bTTHA;bDDA;bDDHA;bNNA;bTA;bTHA;bDA;bDHA;bNA;bPA;bPHA;bBA;bBHA;bMA;bYA;bRA;bLA;bVA;bSHA;bSSA;bSA;
bHA;aVOWEL SIGN AA;cI;cII;cU;cUU;cVOCALIC R;dRR;dL;11C38=cE;cAI;cO;cAU;aSIGN CANDRABINDU;
bANUSVARA;bVISARGA;bVIRAMA;bAVAGRAHA;aDANDA;aDOUBLE DANDA;aWORD SEPARATOR;aGAP FILLER-1;bFILLER-2;
11C50=aDIGIT ZERO;bONE;bTWO;bTHREE;bFOUR;bFIVE;bSIX;bSEVEN;bEIGHT;bNINE;aNUMBER ONE;bTWO;bTHREE;
bFOUR;bFIVE;bSIX;bSEVEN;bEIGHT;bNINE;bTEN;bTWENTY;bTHIRTY;bFORTY;bFIFTY;bSIXTY;bSEVENTY;bEIGHTY;
bNINETY;aHUNDREDS UNIT MARK;11C70=MARCHEN HEAD MARK;aMARK SHAD;aLETTER KA;bKHA;bGA;bNGA;bCA;bCHA;
bJA;bNYA;bTA;bTHA;bDA;bNA;bPA;bPHA;bBA;bMA;bTSA;bTSHA;bDZA;bWA;bZHA;bZA;b-A;bYA;bRA;bLA;bSHA;bSA;
bHA;bA;11C92=aSUBJOINED LETTER KA;cKHA;cGA;cNGA;cCA;cCHA;cJA;cNYA;cTA;cTHA;cDA;cNA;cPA;cPHA;cBA;
cMA;cTSA;cTSHA;cDZA;cWA;cZHA;cZA;11CA9=cYA;cRA;cLA;cSHA;cSA;cHA;cA;aVOWEL SIGN AA;cI;cU;cE;cO;
aSIGN ANUSVARA;bCANDRABINDU;11D00=MASARAM GONDI LETTER A;cAA;cI;cII;cU;cUU;cE;11D08=cAI;cO;
11D0B=cAU;cKA;cKHA;cGA;cGHA;cNGA;cCA;cCHA;cJA;cJHA;cNYA;cTTA;cTTHA;cDDA;cDDHA;cNNA;cTA;cTHA;cDA;
cDHA;cNA;cPA;cPHA;cBA;cBHA;cMA;cYA;cRA;cLA;cVA;cSHA;cSSA;cSA;cHA;cLLA;cKSSA;cJNYA;cTRA;
bVOWEL SIGN AA;dI;dII;dU;dUU;dVOCALIC R;11D3A=dE;11D3C=dAI;dO;11D3F=dAU;bSIGN ANUSVARA;cVISARGA;
cNUKTA;cCANDRA;cHALANTA;bVIRAMA;bREPHA;bRA-KARA;11D50=bDIGIT ZERO;cONE;cTWO;cTHREE;cFOUR;cFIVE;
cSIX;cSEVEN;cEIGHT;cNINE;11D60=GUNJALA GONDI LETTER A;cAA;cI;cII;cU;cUU;11D67=cEE;cAI;11D6A=cOO;
cAU;cYA;cVA;cBA;cBHA;cMA;cKA;cKHA;cTA;cTHA;cLA;cGA;cGHA;cDA;cDHA;cNA;cCA;cCHA;cTTA;cTTHA;cLLA;cJA;
cJHA;cDDA;cDDHA;cNGA;cPA;cPHA;cHA;cRA;cSA;bVOWEL SIGN AA;dI;dII;dU;dUU;11D90=dEE;dAI;11D93=dOO;
dAU;bSIGN ANUSVARA;cVISARGA;bVIRAMA;bOM;11DA0=bDIGIT ZERO;cONE;cTWO;cTHREE;cFOUR;cFIVE;cSIX;
cSEVEN;cEIGHT;cNINE;11EE0=MAKASAR LETTER KA;bGA;bNGA;bPA;bBA;bMA;bTA;bDA;bNA;bCA;bJA;bNYA;bYA;bRA;
bLA;bVA;bSA;bA;aANGKA;aVOWEL SIGN I;cU;cE;cO;aPASSIMBANG;aEND OF SECTION;11FB0=LISU LETTER YHA;
11FC0=TAMIL FRACTION ONE THREE-HUNDRED-AND-TWENTIETH;cONE-HUNDRED-AND-SIXTIETH;cEIGHTIETH;
cSIXTY-FOURTH;cFORTIETH;cTHIRTY-SECOND;bTHREE EIGHTIETHS;cSIXTY-FOURTHS;bONE TWENTIETH;
cSIXTEENTH-1;cSIXTEENTH-2;cTENTH;cEIGHTH;bTHREE TWENTIETHS;cSIXTEENTHS;bONE FIFTH;cQUARTER;
cHALF-1;cHALF-2;bTHREE QUARTERS;bDOWNSCALING FACTOR KIIZH;aSIGN NEL;bCEVITU;bAAZHAAKKU;bUZHAKKU;
bMUUVUZHAKKU;bKURUNI;bPATHAKKU;bMUKKURUNI;bKAACU;bPANAM;bPON;bVARAAKAN;bPAARAM;bKUZHI;bVELI;
aWET CULTIVATION SIGN;aDRY CULTIVATION SIGN;aLAND SIGN;aSALT PAN SIGN;aTRADITIONAL CREDIT SIGN;
bNUMBER SIGN;aCURRENT SIGN;aAND ODD SIGN;aSPENT SIGN;aTOTAL SIGN;aIN POSSESSION SIGN;
aSTARTING FROM SIGN;aSIGN MUTHALIYA;bVAKAIYARAA;11FFF=aPUNCTUATION END OF TEXT;CUNEIFORM SIGN A;
cTIMES A;dBAD;dGAN2 TENU;dHA;dIGI;dLAGAR GUNU;dMUSH;dSAG;bA2;bAB;cTIMES ASH2;dDUN3 GUNU;dGAL;
dGAN2 TENU;dHA;dIGI GUNU;dIMIN;dLAGAB;dSHESH;dU PLUS U PLUS U;cGUNU;bAB2;cTIMES BALAG;dGAN2 TENU;
dME PLUS EN;dSHA3;dTAK4;bAD;bAK;cTIMES ERIN2;dSHITA PLUS GISH;bAL;cTIMES AL;dDIM2;dGISH;dHA;dKAD3;
dKI;dSHE;dUSH;bALAN;bALEPH;bAMAR;cTIMES SHE;bAN;cOVER AN;cTHREE TIMES;
cPLUS NAGA OPPOSING AN PLUS NAGA;eSQUARED;bANSHE;bAPIN;bARAD;cTIMES KUR;bARKAB;bASAL2;bASH;
cZIDA TENU;cKABA TENU;cOVER ASH TUG2 OVER TUG2 TUG2 OVER TUG2 PAP;eOVER ASH;
gCROSSING ASH OVER ASH OVER ASH;bASH2;bASHGAB;bBA;bBAD;bBAG3;bBAHAR2;bBAL;cOVER BAL;bBALAG;bBAR;
bBARA2;bBI;cTIMES A;dGAR;dIGI GUNU;bBU;cOVER BU AB;eUN;cCROSSING BU;bBULUG;cOVER BULUG;bBUR;bBUR2;
bDA;bDAG;cKISIM5 TIMES A PLUS MASH;eAMAR;eBALAG;eBI;eGA;fPLUS MASH;eGI;eGIR2;eGUD;eHA;eIR;
fPLUS LU;eKAK;eLA;eLU;fPLUS MASH2;eLUM;eNE;ePAP PLUS PAP;eSI;eTAK4;eU2 PLUS GIR2;eUSH;bDAM;bDAR;
bDARA3;bDARA4;bDI;bDIB;bDIM;cTIMES SHE;bDIM2;bDIN;cKASKAL U GUNU DISH;bDISH;bDU;cOVER DU;cGUNU;
cSHESHIG;bDUB;cTIMES ESH2;bDUB2;bDUG;bDUGUD;bDUH;bDUN;bDUN3;cGUNU;dGUNU;bDUN4;bDUR2;bE;cTIMES PAP;
cOVER E NUN OVER NUN;bE2;cTIMES A PLUS HA PLUS DA;dGAR;dMI;dSAL;dSHE;dU;bEDIN;bEGIR;bEL;bEN;
cTIMES GAN2;eTENU;dME;cCROSSING EN;cOPPOSING EN;cSQUARED;bEREN;bERIN2;bESH2;bEZEN;cTIMES A;
ePLUS LAL;gTIMES LAL;dAN;dBAD;dDUN3 GUNU;fGUNU;dHA;eGUNU;dIGI GUNU;dKASKAL;eSQUARED;dKU3;dLA;
dLAL TIMES LAL;dLI;dLU;dU2;dUD;bGA;cGUNU;bGA2;cTIMES A PLUS DA PLUS HA;fHA;fIGI;
dAB2 TENU PLUS TAB;dAN;dASH;dASH2 PLUS GAL;dBAD;dBAR PLUS RA;dBUR;ePLUS RA;dDA;dDI;dDIM TIMES SHE;
dDUB;dEL;ePLUS LA;dEN;eTIMES GAN2 TENU;dGAN2 TENU;dGAR;dGI;dGI4;ePLUS A;dGIR2 PLUS SU;
dHA PLUS LU PLUS ESH2;dHAL;ePLUS LA;dHI PLUS LI;dHUB2;dIGI GUNU;dISH PLUS HU PLUS ASH;dKAK;
dKASKAL;dKID;ePLUS LAL;dKU3 PLUS AN;dLA;dME PLUS EN;dMI;dNUN;eOVER NUN;dPA;dSAL;dSAR;dSHE;
ePLUS TUR;dSHID;dSUM;dTAK4;dU;dUD;ePLUS DU;cOVER GA2;bGABA;cCROSSING GABA;bGAD;
cOVER GAD GAR OVER GAR;bGAL;cGAD OVER GAD GAR OVER GAR;bGALAM;bGAM;bGAN;bGAN2;cTENU;cOVER GAN2;
cCROSSING GAN2;bGAR;bGAR3;bGASHAN;bGESHTIN;cTIMES KUR;bGI;cTIMES E;dU;cCROSSING GI;bGI4;cOVER GI4;
cCROSSING GI4;bGIDIM;bGIR2;cGUNU;bGIR3;cTIMES A PLUS IGI;dGAN2 TENU;dIGI;dLU PLUS IGI;dPA;bGISAL;
bGISH;cCROSSING GISH;cTIMES BAD;dTAK4;cTENU;bGU;cCROSSING GU;bGU2;cTIMES KAK;eTIMES IGI GUNU;dNUN;
dSAL PLUS TUG2;cGUNU;bGUD;cTIMES A PLUS KUR;dKUR;cOVER GUD LUGAL;bGUL;bGUM;cTIMES SHE;bGUR;bGUR7;
bGURUN;bGURUSH;bHA;cTENU;cGUNU;bHAL;bHI;cTIMES ASH;dASH2;dBAD;dDISH;dGAD;dKIN;dNUN;dSHE;dU;bHU;
bHUB2;cTIMES AN;dHAL;dKASKAL;dLISH;dUD;bHUL2;bI;cA;bIB;bIDIM;cOVER IDIM BUR;eSQUARED;bIG;bIGI;
cDIB;cRI;cOVER IGI SHIR OVER SHIR UD OVER UD;cGUNU;bIL;cTIMES GAN2 TENU;bIL2;bIM;cTIMES TAK4;
cCROSSING IM;cOPPOSING IM;cSQUARED;bIMIN;bIN;bIR;bISH;bKA;cTIMES A;dAD;ePLUS KU3;dASH2;dBAD;
dBALAG;dBAR;dBI;dERIN2;dESH2;dGA;dGAL;dGAN2 TENU;dGAR;ePLUS SHA3 PLUS A;dGI;dGIR2;dGISH PLUS SAR;
eCROSSING GISH;dGU;dGUR7;dIGI;dIM;dKAK;dKI;dKID;dLI;dLU;dME;ePLUS DU;fGI;fTE;dMI;ePLUS NUNUZ;dNE;
dNUN;dPI;dRU;dSA;dSAR;dSHA;dSHE;dSHID;dSHU;dSIG;dSUHUR;dTAR;dU;dU2;dUD;dUMUM TIMES PA;dUSH;dZI;
bKA2;cCROSSING KA2;bKAB;bKAD2;bKAD3;bKAD4;bKAD5;cOVER KAD5;bKAK;cTIMES IGI GUNU;bKAL;cTIMES BAD;
cCROSSING KAL;bKAM2;bKAM4;bKASKAL;cLAGAB TIMES U OVER LAGAB TIMES U;
cOVER KASKAL LAGAB TIMES U OVER LAGAB TIMES U;bKESH2;bKI;cTIMES BAD;dU;dUD;bKID;bKIN;bKISAL;bKISH;
bKISIM5;cOVER KISIM5;bKU;cOVER HI TIMES ASH2 KU OVER HI TIMES ASH2;bKU3;bKU4;cVARIANT FORM;bKU7;
bKUL;cGUNU;bKUN;bKUR;cOPPOSING KUR;bKUSHU2;bKWU318;bLA;bLAGAB;cTIMES A;ePLUS DA PLUS HA;fGAR;fLAL;
dAL;dAN;dASH ZIDA TENU;dBAD;dBI;dDAR;dEN;dGA;dGAR;dGUD;ePLUS GUD;dHA;dHAL;dHI TIMES NUN;dIGI GUNU;
dIM;ePLUS HA;fLU;dKI;dKIN;dKU3;dKUL;ePLUS HI PLUS A;dLAGAB;dLISH;dLU;dLUL;dME;ePLUS EN;dMUSH;dNE;
dSHE PLUS SUM;dSHITA PLUS GISH PLUS ERIN2;gTENU;dSHU2;ePLUS SHU2;dSUM;dTAG;dTAK4;
dTE PLUS A PLUS SU PLUS NA;dU;ePLUS A;fU PLUS U;dU2 PLUS ASH;dUD;dUSH;cSQUARED;bLAGAR;cTIMES SHE;
ePLUS SUM;cGUNU;dOVER LAGAR GUNU SHE;bLAHSHU;bLAL;cTIMES LAL;bLAM;cTIMES KUR;ePLUS RU;bLI;bLIL;
bLIMMU2;bLISH;bLU;cTIMES BAD;bLU2;cTIMES AL;dBAD;dESH2;eTENU;dGAN2 TENU;dHI TIMES BAD;dIM;dKAD2;
dKAD3;ePLUS ASH;dKI;dLA PLUS ASH;dLAGAB;dME PLUS EN;dNE;dNU;dSI PLUS ASH;dSIK2 PLUS BU;dTUG2;
cTENU;cCROSSING LU2;cOPPOSING LU2;cSQUARED;cSHESHIG;bLU3;bLUGAL;cOVER LUGAL;cOPPOSING LUGAL;
cSHESHIG;bLUH;bLUL;bLUM;cOVER LUM;eGAR OVER GAR;bMA;cTIMES TAK4;cGUNU;bMA2;bMAH;bMAR;bMASH;bMASH2;
bME;bMES;bMI;bMIN;bMU;cOVER MU;bMUG;cGUNU;bMUNSUB;bMURGU2;bMUSH;cTIMES A;dKUR;dZA;cOVER MUSH;
eTIMES A PLUS NA;cCROSSING MUSH;bMUSH3;cTIMES A;ePLUS DI;dDI;cGUNU;bNA;bNA2;bNAGA;cINVERTED;
cTIMES SHU TENU;cOPPOSING NAGA;bNAGAR;bNAM NUTILLU;c;bNAM2;bNE;cTIMES A;dUD;cSHESHIG;bNI;cTIMES E;
bNI2;bNIM;cTIMES GAN2 TENU;dGAR PLUS GAN2 TENU;bNINDA2;cTIMES AN;dASH;ePLUS ASH;dGUD;
dME PLUS GAN2 TENU;dNE;dNUN;dSHE;ePLUS A AN;fASH;gPLUS ASH;dU2 PLUS ASH;dUSH;bNISAG;bNU;bNU11;
bNUN;cLAGAR TIMES GAR;eMASH;eSAL;fOVER NUN LAGAR TIMES SAL;eUSH;cTENU;cOVER NUN;cCROSSING NUN;
eLAGAR OVER LAGAR;bNUNUZ;cAB2 TIMES ASHGAB;eBI;eDUG;eGUD;eIGI GUNU;eKAD3;eLA;eNE;eSILA3;eU2;
cKISIM5 TIMES BI;fU;bPA;bPAD;bPAN;bPAP;bPESH2;bPI;cTIMES A;dAB;dBI;dBU;dE;dI;dIB;dU;dU2;
cCROSSING PI;bPIRIG;cTIMES KAL;dUD;dZA;cOPPOSING PIRIG;bRA;bRAB;bRI;bRU;bSA;bSAG NUTILLU;c;
cTIMES A;dDU;dDUB;dHA;dKAK;dKUR;dLUM;dMI;dNUN;dSAL;dSHID;dTAB;dU2;dUB;dUM;dUR;dUSH;cOVER SAG;
cGUNU;bSAL;cLAGAB TIMES ASH2;bSANGA2;bSAR;bSHA;bSHA3;cTIMES A;dBAD;dGISH;dNE;dSHU2;dTUR;dU;
ePLUS A;bSHA6;bSHAB6;bSHAR2;bSHE;cHU;cOVER SHE GAD OVER GAD GAR OVER GAR;
eTAB OVER TAB GAR OVER GAR;bSHEG9;bSHEN;bSHESH;bSHESH2;bSHESHLAM;bSHID;cTIMES A;dIM;bSHIM;
cTIMES A;dBAL;dBULUG;dDIN;dGAR;dIGI;eGUNU;dKUSHU2;dLUL;dMUG;dSAL;bSHINIG;bSHIR;cTENU;
cOVER SHIR BUR OVER BUR;bSHITA;bSHU;cOVER INVERTED SHU;bSHU2;bSHUBUR;bSI;cGUNU;bSIG;bSIG4;
cOVER SIG4 SHU2;bSIK2;bSILA3;bSU;cOVER SU;bSUD;bSUD2;bSUHUR;bSUM;bSUMASH;bSUR;bSUR9;bTA;cASTERISK;
cTIMES HI;dMI;cGUNU;bTAB;cOVER TAB NI OVER NI DISH OVER DISH;cSQUARED;bTAG;cTIMES BI;dGUD;dSHE;
dSHU;dTUG2;dUD;bTAK4;bTAR;bTE;cGUNU;bTI;cTENU;bTIL;bTIR;cTIMES TAK4;cOVER TIR;
eGAD OVER GAD GAR OVER GAR;bTU;bTUG2;bTUK;bTUM;bTUR;cOVER TUR ZA OVER ZA;bU;cGUD;cU U;
cOVER U PA OVER PA GAR OVER GAR;eSUR OVER SUR;eU REVERSED OVER U REVERSED;bU2;bUB;bUD;cKUSHU2;
cTIMES BAD;dMI;dU PLUS U PLUS U;iGUNU;cGUNU;cSHESHIG;dTIMES BAD;bUDUG;bUM;cTIMES LAGAB;
dME PLUS DA;dSHA3;dU;bUMBIN;bUMUM;cTIMES KASKAL;dPA;bUN;cGUNU;bUR;cCROSSING UR;cSHESHIG;bUR2;
cTIMES A PLUS HA;fNA;dAL;dHA;dNUN;dU2;ePLUS ASH;fBI;bUR4;bURI;bURI3;bURU;cTIMES A;dASHGAB;dBAR;
dDUN;dGA;dGAL;dGAN2 TENU;dGAR;dGU;dHA;dIGI;dIM;dISH;dKI;dLUM;dMIN;dPA;dSHE;dSIG4;dTU;dU PLUS GUD;
dUD;dURUDA;bURUDA;cTIMES U;bUSH;cTIMES A;dKU;dKUR;dTAK4;bUSHX;bUSH2;bUSHUMX;bUTUKI;bUZ3;
cTIMES KASKAL;bUZU;bZA;cTENU;cSQUARED TIMES KUR;bZAG;bZAMX;bZE2;bZI;cOVER ZI;bZI3;bZIB;cKABA TENU;
bZIG;bZIZ2;bZU;bZU5;cTIMES A;bZUBUR;bZUM;bKAP ELAMITE;bAB TIMES NUN;bAB2 TIMES A;bAMAR TIMES KUG;
bDAG KISIM5 TIMES U2 PLUS MASH;bDAG3;bDISH PLUS SHU;bDUB TIMES SHE;bEZEN TIMES GUD;dSHE;
bGA2 TIMES AN PLUS KAK PLUS A;dASH2;bGE22;bGIG;bHUSH;bKA TIMES ANSHE;dASH3;dGISH;dGUD;
dHI TIMES ASH2;dLUM;dPA;dSHUL;dTU;dUR2;bLAGAB TIMES GI;bLU2 SHESHIG TIMES BAD;
cTIMES ESH2 PLUS LAL;dSHU;bMESH;bMUSH3 TIMES ZA;bNA4;bNIN;bNIN9;bNINDA2 TIMES BAL;dGI;
bNU11 ROTATED NINETY DEGREES;bPESH2 ASTERISK;bPIR2;bSAG TIMES IGI GUNU;bTI2;bUM TIMES ME;bU U;
12400=aNUMERIC SIGN TWO ASH;cTHREE ASH;cFOUR ASH;cFIVE ASH;cSIX ASH;cSEVEN ASH;cEIGHT ASH;
cNINE ASH;cTHREE DISH;cFOUR DISH;cFIVE DISH;cSIX DISH;cSEVEN DISH;cEIGHT DISH;cNINE DISH;cFOUR U;
cFIVE U;cSIX U;cSEVEN U;cEIGHT U;cNINE U;cONE GESH2;cTWO GESH2;cTHREE GESH2;cFOUR GESH2;
cFIVE GESH2;cSIX GESH2;cSEVEN GESH2;cEIGHT GESH2;cNINE GESH2;cONE GESHU;cTWO GESHU;cTHREE GESHU;
cFOUR GESHU;cFIVE GESHU;cTWO SHAR2;cTHREE SHAR2;eVARIANT FORM;cFOUR SHAR2;cFIVE SHAR2;cSIX SHAR2;
cSEVEN SHAR2;cEIGHT SHAR2;cNINE SHAR2;cONE SHARU;cTWO SHARU;cTHREE SHARU;eVARIANT FORM;
cFOUR SHARU;cFIVE SHARU;cSHAR2 TIMES GAL PLUS DISH;gMIN;cONE BURU;cTWO BURU;cTHREE BURU;
eVARIANT FORM;cFOUR BURU;cFIVE BURU;cTHREE VARIANT FORM ESH16;fESH21;cFOUR VARIANT FORM LIMMU;
fLIMMU4;fLIMMU A;gB;cSIX VARIANT FORM ASH9;cSEVEN VARIANT FORM IMIN3;fIMIN A;gB;
cEIGHT VARIANT FORM USSU;fUSSU3;cNINE VARIANT FORM ILIMMU;fILIMMU3;fILIMMU4;fILIMMU A;
cTWO ASH TENU;cTHREE ASH TENU;cFOUR ASH TENU;cFIVE ASH TENU;cSIX ASH TENU;cONE BAN2;cTWO BAN2;
cTHREE BAN2;cFOUR BAN2;eVARIANT FORM;cFIVE BAN2;eVARIANT FORM;cNIGIDAMIN;cNIGIDAESH;cONE ESHE3;
cTWO ESHE3;cONE THIRD DISH;cTWO THIRDS DISH;cFIVE SIXTHS DISH;cONE THIRD VARIANT FORM A;
cTWO THIRDS VARIANT FORM A;cONE EIGHTH ASH;dQUARTER ASH;cOLD ASSYRIAN ONE SIXTH;fQUARTER;
cONE QUARTER GUR;dHALF GUR;cELAMITE ONE THIRD;dTWO THIRDS;dFORTY;dFIFTY;cFOUR U VARIANT FORM;
cFIVE U VARIANT FORM;cSIX U VARIANT FORM;cSEVEN U VARIANT FORM;cEIGHT U VARIANT FORM;
cNINE U VARIANT FORM;12470=aPUNCTUATION SIGN OLD ASSYRIAN WORD DIVIDER;cVERTICAL COLON;
cDIAGONAL COLON;dTRICOLON;dQUADCOLON;12480=aSIGN AB TIMES NUN TENU;dSHU2;bAD TIMES ESH2;
bBAD TIMES DISH TENU;bBAHAR2 TIMES AB2;dNI;dZA;bBU OVER BU TIMES NA2;bDA TIMES TAK4;
bDAG TIMES KUR;bDIM TIMES IGI;dU U U;bDIM2 TIMES UD;bDUG TIMES ANSHE;dASH;eAT LEFT;dDIN;dDUN;
dERIN2;dGA;dGI;dGIR2 GUNU;dGISH;dHA;dHI;dIGI GUNU;dKASKAL;dKUR;dKUSHU2;ePLUS KASKAL;dLAK-020;dLAM;
eTIMES KUR;dLUH PLUS GISH;dMASH;dMES;dMI;dNI;dPI;dSHE;dSI GUNU;bE2 TIMES KUR;dPAP;bERIN2 X;
bESH2 CROSSING ESH2;bEZEN SHESHIG TIMES ASH;eHI;eIGI GUNU;eLA;eLAL;eME;eMES;eSU;cTIMES SU;
bGA2 TIMES BAHAR2;dDIM GUNU;dDUG TIMES IGI GUNU;fKASKAL;dEREN;dGA;dGAR PLUS DI;fNE;dHA PLUS A;
dKUSHU2 PLUS KASKAL;dLAM;eTIMES KUR;dLUH;dMUSH;dNE;ePLUS E2;fGI;dSHIM;dZIZ2;
bGABA ROTATED NINETY DEGREES;bGESHTIN TIMES U;bGISH TIMES GISH CROSSING GISH;bGU2 TIMES IGI GUNU;
bGUD PLUS GISH TIMES TAK4;bHA TENU GUNU;bHI TIMES ASH OVER HI TIMES ASH;bKA TIMES BU;dKA;dU U U;
dUR;bLAGAB TIMES ZU OVER ZU;bLAK-003;bLAK-021;bLAK-025;bLAK-030;bLAK-050;bLAK-051;bLAK-062;
bLAK-079 OVER LAK-079 GUNU;bLAK-080;bLAK-081 OVER LAK-081;bLAK-092;bLAK-130;bLAK-142;bLAK-210;
bLAK-219;bLAK-220;bLAK-225;bLAK-228;bLAK-238;bLAK-265;bLAK-266;bLAK-343;bLAK-347;bLAK-348;
bLAK-383;bLAK-384;bLAK-390;bLAK-441;bLAK-449;cTIMES GU;dIGI;dPAP PLUS LU3;fPAP PLUS LU3;
dU2 PLUS BA;bLAK-450;bLAK-457;bLAK-470;bLAK-483;bLAK-490;bLAK-492;bLAK-493;bLAK-495;bLAK-550;
bLAK-608;bLAK-617;cTIMES ASH;dBAD;dDUN3 GUNU GUNU;dKU3;dLA;dTAR;dTE;dU2;dUD;dURUDA;bLAK-636;
bLAK-648;cTIMES DUB;dGA;dIGI;eGUNU;dNI;dPAP PLUS PAP PLUS LU3;dSHESH PLUS KI;dUD;dURUDA;bLAK-724;
bLAK-749;bLU2 GUNU TIMES ASH;cTIMES DISH;dHAL;dPAP;ePLUS PAP PLUS LU3;dTAK4;bMI PLUS ZA7;
bMUSH OVER MUSH TIMES GA;fKAK;bNINDA2 TIMES DIM GUNU;dGISH;dGUL;dHI;dKESH2;dLAK-050;dMASH;
dPAP PLUS PAP;dU;ePLUS U;dURUDA;bSAG GUNU TIMES HA;cTIMES EN;dSHE AT LEFT;dTAK4;bSHA6 TENU;
bSHE OVER SHE;cPLUS HUB2;dNAM2;dSAR;bSHU2 PLUS DUG TIMES NI;dE2 TIMES AN;bSI TIMES TAK4;
bTAK4 PLUS SAG;bTUM TIMES GAN2 TENU;dTHREE DISH;bUR2 INVERTED;cTIMES UD;bURU TIMES DARA3;dLAK-668;
dLU3;bZA7;bZU OVER ZU PLUS SAR;bZU5 TIMES THREE DISH TENU;12F90=CYPRO-MINOAN SIGN CM001;bCM002;
bCM004;bCM005;bCM006;bCM007;bCM008;bCM009;bCM010;bCM011;bCM012;bCM012B;bCM013;bCM015;bCM017;
bCM019;bCM021;bCM023;bCM024;bCM025;bCM026;bCM027;bCM028;bCM029;bCM030;bCM033;bCM034;bCM035;bCM036;
bCM037;bCM038;bCM039;bCM040;bCM041;bCM044;bCM046;bCM047;bCM049;bCM050;bCM051;bCM052;bCM053;bCM054;
bCM055;bCM056;bCM058;bCM059;bCM060;bCM061;bCM062;bCM063;bCM064;bCM066;bCM067;bCM068;bCM069;bCM070;
bCM071;bCM072;bCM073;bCM074;bCM075;bCM075B;bCM076;bCM078;bCM079;bCM080;bCM081;bCM082;bCM083;
bCM084;bCM085;bCM086;bCM087;bCM088;bCM089;bCM090;bCM091;bCM092;bCM094;bCM095;bCM096;bCM097;bCM098;
bCM099;bCM100;bCM101;bCM102;bCM103;bCM104;bCM105;bCM107;bCM108;bCM109;bCM110;bCM112;bCM114;bCM301;
bCM302;13000=EGYPTIAN HIEROGLYPH A001;bA002;bA003;bA004;bA005;bA005A;bA006;bA006A;bA006B;bA007;
bA008;bA009;bA010;bA011;bA012;bA013;bA014;bA014A;bA015;bA016;bA017;bA017A;bA018;bA019;bA020;bA021;
bA022;bA023;bA024;bA025;bA026;bA027;bA028;bA029;bA030;bA031;bA032;bA032A;bA033;bA034;bA035;bA036;
bA037;bA038;bA039;bA040;bA040A;bA041;bA042;bA042A;bA043;bA043A;bA044;bA045;bA045A;bA046;bA047;
bA048;bA049;bA050;bA051;bA052;bA053;bA054;bA055;bA056;bA057;bA058;bA059;bA060;bA061;bA062;bA063;
bA064;bA065;bA066;bA067;bA068;bA069;bA070;bB001;bB002;bB003;bB004;bB005;bB005A;bB006;bB007;bB008;
bB009;bC001;bC002;bC002A;bC002B;bC002C;bC003;bC004;bC005;bC006;bC007;bC008;bC009;bC010;bC010A;
bC011;bC012;bC013;bC014;bC015;bC016;bC017;bC018;bC019;bC020;bC021;bC022;bC023;bC024;bD001;bD002;
bD003;bD004;bD005;bD006;bD007;bD008;bD008A;bD009;bD010;bD011;bD012;bD013;bD014;bD015;bD016;bD017;
bD018;bD019;bD020;bD021;bD022;bD023;bD024;bD025;bD026;bD027;bD027A;bD028;bD029;bD030;bD031;bD031A;
bD032;bD033;bD034;bD034A;bD035;bD036;bD037;bD038;bD039;bD040;bD041;bD042;bD043;bD044;bD045;bD046;
bD046A;bD047;bD048;bD048A;bD049;bD050;bD050A;bD050B;bD050C;bD050D;bD050E;bD050F;bD050G;bD050H;
bD050I;bD051;bD052;bD052A;bD053;bD054;bD054A;bD055;bD056;bD057;bD058;bD059;bD060;bD061;bD062;
bD063;bD064;bD065;bD066;bD067;bD067A;bD067B;bD067C;bD067D;bD067E;bD067F;bD067G;bD067H;bE001;bE002;
bE003;bE004;bE005;bE006;bE007;bE008;bE008A;bE009;bE009A;bE010;bE011;bE012;bE013;bE014;bE015;bE016;
bE016A;bE017;bE017A;bE018;bE019;bE020;bE020A;bE021;bE022;bE023;bE024;bE025;bE026;bE027;bE028;
bE028A;bE029;bE030;bE031;bE032;bE033;bE034;bE034A;bE036;bE037;bE038;bF001;bF001A;bF002;bF003;
bF004;bF005;bF006;bF007;bF008;bF009;bF010;bF011;bF012;bF013;bF013A;bF014;bF015;bF016;bF017;bF018;
bF019;bF020;bF021;bF021A;bF022;bF023;bF024;bF025;bF026;bF027;bF028;bF029;bF030;bF031;bF031A;bF032;
bF033;bF034;bF035;bF036;bF037;bF037A;bF038;bF038A;bF039;bF040;bF041;bF042;bF043;bF044;bF045;
bF045A;bF046;bF046A;bF047;bF047A;bF048;bF049;bF050;bF051;bF051A;bF051B;bF051C;bF052;bF053;bG001;
bG002;bG003;bG004;bG005;bG006;bG006A;bG007;bG007A;bG007B;bG008;bG009;bG010;bG011;bG011A;bG012;
bG013;bG014;bG015;bG016;bG017;bG018;bG019;bG020;bG020A;bG021;bG022;bG023;bG024;bG025;bG026;bG026A;
bG027;bG028;bG029;bG030;bG031;bG032;bG033;bG034;bG035;bG036;bG036A;bG037;bG037A;bG038;bG039;bG040;
bG041;bG042;bG043;bG043A;bG044;bG045;bG045A;bG046;bG047;bG048;bG049;bG050;bG051;bG052;bG053;bG054;
bH001;bH002;bH003;bH004;bH005;bH006;bH006A;bH007;bH008;bI001;bI002;bI003;bI004;bI005;bI005A;bI006;
bI007;bI008;bI009;bI009A;bI010;bI010A;bI011;bI011A;bI012;bI013;bI014;bI015;bK001;bK002;bK003;
bK004;bK005;bK006;bK007;bK008;bL001;bL002;bL002A;bL003;bL004;bL005;bL006;bL006A;bL007;bL008;bM001;
bM001A;bM001B;bM002;bM003;bM003A;bM004;bM005;bM006;bM007;bM008;bM009;bM010;bM010A;bM011;bM012;
bM012A;bM012B;bM012C;bM012D;bM012E;bM012F;bM012G;bM012H;bM013;bM014;bM015;bM015A;bM016;bM016A;
bM017;bM017A;bM018;bM019;bM020;bM021;bM022;bM022A;bM023;bM024;bM024A;bM025;bM026;bM027;bM028;
bM028A;bM029;bM030;bM031;bM031A;bM032;bM033;bM033A;bM033B;bM034;bM035;bM036;bM037;bM038;bM039;
bM040;bM040A;bM041;bM042;bM043;bM044;bN001;bN002;bN003;bN004;bN005;bN006;bN007;bN008;bN009;bN010;
bN011;bN012;bN013;bN014;bN015;bN016;bN017;bN018;bN018A;bN018B;bN019;bN020;bN021;bN022;bN023;bN024;
bN025;bN025A;bN026;bN027;bN028;bN029;bN030;bN031;bN032;bN033;bN033A;bN034;bN034A;bN035;bN035A;
bN036;bN037;bN037A;bN038;bN039;bN040;bN041;bN042;bNL001;bNL002;bNL003;bNL004;bNL005;bNL005A;
bNL006;bNL007;bNL008;bNL009;bNL010;bNL011;bNL012;bNL013;bNL014;bNL015;bNL016;bNL017;bNL017A;
bNL018;bNL019;bNL020;bNU001;bNU002;bNU003;bNU004;bNU005;bNU006;bNU007;bNU008;bNU009;bNU010;
bNU010A;bNU011;bNU011A;bNU012;bNU013;bNU014;bNU015;bNU016;bNU017;bNU018;bNU018A;bNU019;bNU020;
bNU021;bNU022;bNU022A;bO001;bO001A;bO002;bO003;bO004;bO005;bO005A;bO006;bO006A;bO006B;bO006C;
bO006D;bO006E;bO006F;bO007;bO008;bO009;bO010;bO010A;bO010B;bO010C;bO011;bO012;bO013;bO014;bO015;
bO016;bO017;bO018;bO019;bO019A;bO020;bO020A;bO021;bO022;bO023;bO024;bO024A;bO025;bO025A;bO026;
bO027;bO028;bO029;bO029A;bO030;bO030A;bO031;bO032;bO033;bO033A;bO034;bO035;bO036;bO036A;bO036B;
bO036C;bO036D;bO037;bO038;bO039;bO040;bO041;bO042;bO043;bO044;bO045;bO046;bO047;bO048;bO049;bO050;
bO050A;bO050B;bO051;bP001;bP001A;bP002;bP003;bP003A;bP004;bP005;bP006;bP007;bP008;bP009;bP010;
bP011;bQ001;bQ002;bQ003;bQ004;bQ005;bQ006;bQ007;bR001;bR002;bR002A;bR003;bR003A;bR003B;bR004;
bR005;bR006;bR007;bR008;bR009;bR010;bR010A;bR011;bR012;bR013;bR014;bR015;bR016;bR016A;bR017;bR018;
bR019;bR020;bR021;bR022;bR023;bR024;bR025;bR026;bR027;bR028;bR029;bS001;bS002;bS002A;bS003;bS004;
bS005;bS006;bS006A;bS007;bS008;bS009;bS010;bS011;bS012;bS013;bS014;bS014A;bS014B;bS015;bS016;
bS017;bS017A;bS018;bS019;bS020;bS021;bS022;bS023;bS024;bS025;bS026;bS026A;bS026B;bS027;bS028;
bS029;bS030;bS031;bS032;bS033;bS034;bS035;bS035A;bS036;bS037;bS038;bS039;bS040;bS041;bS042;bS043;
bS044;bS045;bS046;bT001;bT002;bT003;bT003A;bT004;bT005;bT006;bT007;bT007A;bT008;bT008A;bT009;
bT009A;bT010;bT011;bT011A;bT012;bT013;bT014;bT015;bT016;bT016A;bT017;bT018;bT019;bT020;bT021;
bT022;bT023;bT024;bT025;bT026;bT027;bT028;bT029;bT030;bT031;bT032;bT032A;bT033;bT033A;bT034;bT035;
bT036;bU001;bU002;bU003;bU004;bU005;bU006;bU006A;bU006B;bU007;bU008;bU009;bU010;bU011;bU012;bU013;
bU014;bU015;bU016;bU017;bU018;bU019;bU020;bU021;bU022;bU023;bU023A;bU024;bU025;bU026;bU027;bU028;
bU029;bU029A;bU030;bU031;bU032;bU032A;bU033;bU034;bU035;bU036;bU037;bU038;bU039;bU040;bU041;bU042;
bV001;bV001A;bV001B;bV001C;bV001D;bV001E;bV001F;bV001G;bV001H;bV001I;bV002;bV002A;bV003;bV004;
bV005;bV006;bV007;bV007A;bV007B;bV008;bV009;bV010;bV011;bV011A;bV011B;bV011C;bV012;bV012A;bV012B;
bV013;bV014;bV015;bV016;bV017;bV018;bV019;bV020;bV020A;bV020B;bV020C;bV020D;bV020E;bV020F;bV020G;
bV020H;bV020I;bV020J;bV020K;bV020L;bV021;bV022;bV023;bV023A;bV024;bV025;bV026;bV027;bV028;bV028A;
bV029;bV029A;bV030;bV030A;bV031;bV031A;bV032;bV033;bV033A;bV034;bV035;bV036;bV037;bV037A;bV038;
bV039;bV040;bV040A;bW001;bW002;bW003;bW003A;bW004;bW005;bW006;bW007;bW008;bW009;bW009A;bW010;
bW010A;bW011;bW012;bW013;bW014;bW014A;bW015;bW016;bW017;bW017A;bW018;bW018A;bW019;bW020;bW021;
bW022;bW023;bW024;bW024A;bW025;bX001;bX002;bX003;bX004;bX004A;bX004B;bX005;bX006;bX006A;bX007;
bX008;bX008A;bY001;bY001A;bY002;bY003;bY004;bY005;bY006;bY007;bY008;bZ001;bZ002;bZ002A;bZ002B;
bZ002C;bZ002D;bZ003;bZ003A;bZ003B;bZ004;bZ004A;bZ005;bZ005A;bZ006;bZ007;bZ008;bZ009;bZ010;bZ011;
bZ012;bZ013;bZ014;bZ015;bZ015A;bZ015B;bZ015C;bZ015D;bZ015E;bZ015F;bZ015G;bZ015H;bZ015I;bZ016;
bZ016A;bZ016B;bZ016C;bZ016D;bZ016E;bZ016F;bZ016G;bZ016H;bAA001;bAA002;bAA003;bAA004;bAA005;bAA006;
bAA007;bAA007A;bAA007B;bAA008;bAA009;bAA010;bAA011;bAA012;bAA013;bAA014;bAA015;bAA016;bAA017;
bAA018;bAA019;bAA020;bAA021;bAA022;bAA023;bAA024;bAA025;bAA026;bAA027;bAA028;bAA029;bAA030;bAA031;
bAA032;13430=bVERTICAL JOINER;bHORIZONTAL JOINER;bINSERT AT TOP START;dBOTTOM START;dTOP END;
dBOTTOM END;bOVERLAY MIDDLE;bBEGIN SEGMENT;bEND SEGMENT;14400=ANATOLIAN HIEROGLYPH A001;bA002;
bA003;bA004;bA005;bA006;bA007;bA008;bA009;bA010;bA010A;bA011;bA012;bA013;bA014;bA015;bA016;bA017;
bA018;bA019;bA020;bA021;bA022;bA023;bA024;bA025;bA026;bA026A;bA027;bA028;bA029;bA030;bA031;bA032;
bA033;bA034;bA035;bA036;bA037;bA038;bA039;bA039A;bA040;bA041;bA041A;bA042;bA043;bA044;bA045;
bA045A;bA046;bA046A;bA046B;bA047;bA048;bA049;bA050;bA051;bA052;bA053;bA054;bA055;bA056;bA057;
bA058;bA059;bA060;bA061;bA062;bA063;bA064;bA065;bA066;bA066A;bA066B;bA066C;bA067;bA068;bA069;
bA070;bA071;bA072;bA073;bA074;bA075;bA076;bA077;bA078;bA079;bA080;bA081;bA082;bA083;bA084;bA085;
bA086;bA087;bA088;bA089;bA090;bA091;bA092;bA093;bA094;bA095;bA096;bA097;bA097A;bA098;bA098A;bA099;
bA100;bA100A;bA101;bA101A;bA102;bA102A;bA103;bA104;bA104A;bA104B;bA104C;bA105;bA105A;bA105B;bA106;
bA107;bA107A;bA107B;bA107C;bA108;bA109;bA110;bA110A;bA110B;bA111;bA112;bA113;bA114;bA115;bA115A;
bA116;bA117;bA118;bA119;bA120;bA121;bA122;bA123;bA124;bA125;bA125A;bA126;bA127;bA128;bA129;bA130;
bA131;bA132;bA133;bA134;bA135;bA135A;bA136;bA137;bA138;bA139;bA140;bA141;bA142;bA143;bA144;bA145;
bA146;bA147;bA148;bA149;bA150;bA151;bA152;bA153;bA154;bA155;bA156;bA157;bA158;bA159;bA160;bA161;
bA162;bA163;bA164;bA165;bA166;bA167;bA168;bA169;bA170;bA171;bA172;bA173;bA174;bA175;bA176;bA177;
bA178;bA179;bA180;bA181;bA182;bA183;bA184;bA185;bA186;bA187;bA188;bA189;bA190;bA191;bA192;bA193;
bA194;bA195;bA196;bA197;bA198;bA199;bA200;bA201;bA202;bA202A;bA202B;bA203;bA204;bA205;bA206;bA207;
bA207A;bA208;bA209;bA209A;bA210;bA211;bA212;bA213;bA214;bA215;bA215A;bA216;bA216A;bA217;bA218;
bA219;bA220;bA221;bA222;bA223;bA224;bA225;bA226;bA227;bA227A;bA228;bA229;bA230;bA231;bA232;bA233;
bA234;bA235;bA236;bA237;bA238;bA239;bA240;bA241;bA242;bA243;bA244;bA245;bA246;bA247;bA248;bA249;
bA250;bA251;bA252;bA253;bA254;bA255;bA256;bA257;bA258;bA259;bA260;bA261;bA262;bA263;bA264;bA265;
bA266;bA267;bA267A;bA268;bA269;bA270;bA271;bA272;bA273;bA274;bA275;bA276;bA277;bA278;bA279;bA280;
bA281;bA282;bA283;bA284;bA285;bA286;bA287;bA288;bA289;bA289A;bA290;bA291;bA292;bA293;bA294;bA294A;
bA295;bA296;bA297;bA298;bA299;bA299A;bA300;bA301;bA302;bA303;bA304;bA305;bA306;bA307;bA308;bA309;
bA309A;bA310;bA311;bA312;bA313;bA314;bA315;bA316;bA317;bA318;bA319;bA320;bA321;bA322;bA323;bA324;
bA325;bA326;bA327;bA328;bA329;bA329A;bA330;bA331;bA332A;bA332B;bA332C;bA333;bA334;bA335;bA336;
bA336A;bA336B;bA336C;bA337;bA338;bA339;bA340;bA341;bA342;bA343;bA344;bA345;bA346;bA347;bA348;
bA349;bA350;bA351;bA352;bA353;bA354;bA355;bA356;bA357;bA358;bA359;bA359A;bA360;bA361;bA362;bA363;
bA364;bA364A;bA365;bA366;bA367;bA368;bA368A;bA369;bA370;bA371;bA371A;bA372;bA373;bA374;bA375;
bA376;bA377;bA378;bA379;bA380;bA381;bA381A;bA382;bA383 RA OR RI;bA383A;bA384;bA385;bA386;bA386A;
bA387;bA388;bA389;bA390;bA391;bA392;bA393 EIGHT;bA394;bA395;bA396;bA397;bA398;bA399;bA400;bA401;
bA402;bA403;bA404;bA405;bA406;bA407;bA408;bA409;bA410 BEGIN LOGOGRAM MARK;
bA410A END LOGOGRAM MARK;bA411;bA412;bA413;bA414;bA415;bA416;bA417;bA418;bA419;bA420;bA421;bA422;
bA423;bA424;bA425;bA426;bA427;bA428;bA429;bA430;bA431;bA432;bA433;bA434;bA435;bA436;bA437;bA438;
bA439;bA440;bA441;bA442;bA443;bA444;bA445;bA446;bA447;bA448;bA449;bA450;bA450A;bA451;bA452;bA453;
bA454;bA455;bA456;bA457;bA457A;bA458;bA459;bA460;bA461;bA462;bA463;bA464;bA465;bA466;bA467;bA468;
bA469;bA470;bA471;bA472;bA473;bA474;bA475;bA476;bA477;bA478;bA479;bA480;bA481;bA482;bA483;bA484;
bA485;bA486;bA487;bA488;bA489;bA490;bA491;bA492;bA493;bA494;bA495;bA496;bA497;bA501;bA502;bA503;
bA504;bA505;bA506;bA507;bA508;bA509;bA510;bA511;bA512;bA513;bA514;bA515;bA516;bA517;bA518;bA519;
bA520;bA521;bA522;bA523;bA524;bA525;bA526;bA527;bA528;bA529;bA530;
16800=BAMUM LETTER PHASE-A NGKUE MFON;cGBIEE FON;cPON MFON PIPAEMGBIEE;ePIPAEMBA;cNAA MFON;
cSHUENSHUET;cTITA MFON;cNZA MFON;cSHINDA PA NJI;cPON PA NJI PIPAEMGBIEE;fPIPAEMBA;cMAEMBGBIEE;
cTU MAEMBA;cNGANGU;cMAEMVEUX;cMANSUAE;cMVEUAENGAM;cSEUNYAM;cNTOQPEN;cKEUKEUTNDA;cNKINDI;cSUU;
cNGKUENZEUM;cLAPAQ;cLET KUT;cNTAP MFAA;cMAEKEUP;cPASHAE;cGHEUAERAE;cPAMSHAE;cMON NGGEUAET;
cNZUN MEUT;cU YUQ NAE;cGHEUAEGHEUAE;cNTAP NTAA;cSISA;cMGBASA;cMEUNJOMNDEUQ;cMOOMPUQ;cKAFA;
cPA LEERAEWA;cNDA LEERAEWA;cPET;cMAEMKPEN;cNIKA;cPUP;cTUAEP;cLUAEP;cSONJAM;cTEUTEUWEN;cMAENYI;
cKET;cNDAANGGEUAET;cKUOQ;cMOOMEUT;cSHUM;cLOMMAE;cFIRI;cROM;cKPOQ;cSOQ;cMAP PIEET;cSHIRAE;cNTAP;
cSHOQ NSHUT YUM;cNYIT MONGKEUAEQ;cPAARAE;cNKAARAE;cUNKNOWN;cNGGEN;cMAESI;cNJAM;cMBANYI;cNYET;
cTEUAEN;cSOT;cPAAM;cNSHIEE;cMAEM;cNYI;cKAQ;cNSHA;cVEE;cLU;cNEN;cNAQ;cMBAQ;bPHASE-B NSHUET;
cTU MAEMGBIEE;cSIEE;cSET TU;cLOM NTEUM;cMBA MAELEE;cKIEEM;cYEURAE;cMBAARAE;cKAM;cPEESHI;
cYAFU LEERAEWA;cLAM NSHUT NYAM;cNTIEE SHEUOQ;cNDU NJAA;cGHEUGHEUAEM;cPIT;cTU NSIEE;cSHET NJAQ;
cSHEUAEQTU;cMFON TEUAEQ;cMBIT MBAAKET;cNYI NTEUM;cKEUPUQ;cGHEUGHEN;cKEUYEUX;cLAANAE;cPARUM;cVEUM;
cNGKINDI MVOP;cNGGEU MBU;cWUAET;cSAKEUAE;cTAAM;cMEUQ;cNGGUOQ;dLARGE;cMFIYAQ;cSUE;cMBEURI;
cMONTIEEN;cNYAEMAE;cPUNGAAM;cMEUT NGGEET;cFEUX;cMBUOQ;cFEE;cKEUAEM;cMA NJEUAENA;dNJUQA;cLET;
cNGGAAM;cNSEN;cMA;cKIQ;cNGOM;bPHASE-C NGKUE MAEMBA;cNZA;cYUM;cWANGKUOQ;cNGGEN;cNDEUAEREE;cNGKAQ;
cGHARAE;cMBEEKEET;cGBAYI;cNYIR MKPARAQ MEUN;cNTU MBIT;cMBEUM;cPIRIEEN;cNDOMBU;cMBAA CABBAGE-TREE;
cKEUSHEUAEP;cGHAP;cKEUKAQ;cYU MUOMAE;cNZEUM;cMBUE;cNSEUAEN;cMBIT;cYEUQ;cKPARAQ;cKAA;cSEUX;cNDIDA;
cTAASHAE;cNJUEQ;cTITA YUE;cSUAET;cNGGUAEN NYAM;cVEUX;cNANSANAQ;cMA KEUAERI;cNTAA;cNGGUON;cLAP;
cMBIRIEEN;cMGBASAQ;cNTEUNGBA;cTEUTEUX;cNGGUM;cFUE;cNDEUT;cNSA;cNSHAQ;cBUNG;cVEUAEPEN;cMBERAE;cRU;
cNJAEM;cLAM;cTITUAEP;cNSUOT NGOM;cNJEEEE;cKET;cNGGU;cMAESI;cMBUAEM;cLU;cKUT;cNJAM;cNGOM;cWUP;
cNGGUEET;cNSOM;cNTEN;cKUOP NKAARAE;cNSUN;cNDAM;cMA NSIEE;cYAA;cNDAP;cSHUEQ;cSETFON;cMBI;cMAEMBA;
cMBANYI;cKEUSEUX;cMBEUX;cKEUM;cMBAA PICKET;cYUWOQ;cNJEUX;cMIEE;cMUAE;cSHIQ;cKEN LAW;dFATIGUE;
cNGAQ;cNAQ;cLIQ;cPIN;cPEN;cTET;bPHASE-D MBUO;cWAP;cNJI;cMFON;cNJIEE;cLIEE;cNJEUT;cNSHEE;cNGGAAMAE;
cNYAM;cWUAEN;cNGKUN;cSHEE;cNGKAP;cKEUAETMEUN;cTEUT;cSHEUAE;cNJAP;cSUE;cKET;cYAEMMAE;cKUOM;cSAP;
cMFEUT;cNDEUX;cMALEERI;cMEUT;cSEUAEQ;cYEN;cNJEUAEM;cKEUOT MBUAE;cNGKEURI;cTU;cGHAA;cNGKYEE;
cFEUFEUAET;cNDEE;cMGBOFUM;cLEUAEP;cNDON;cMONI;cMGBEUN;cPUUT;cMGBIEE;cMFO;cLUM;cNSIEEP;cMBAA;
cKWAET;cNYET;cTEUAEN;cSOT;cYUWOQ;cKEUM;cRAEM;cTEEEE;cNGKEUAEQ;cMFEUAE;cNSIEET;cKEUP;cPIP;cPEUTAE;
cNYUE;cLET;cNGGAAM;cMFIEE;cNGGWAEN;cYUOM;cPAP;cYUOP;cNDAM;cNTEUM;cSUAE;cKUN;cNGGEUX;cNGKIEE;cTUOT;
cMEUN;cKUQ;cNSUM;cTEUN;cMAENJET;cNGGAP;cLEUM;cNGGUOM;cNSHUT;cNJUEQ;cGHEUAE;cKU;cREN OLD;cTAE;cTOQ;
cNYI;cRII;cLEEEE;cMEEEE;cM;cSUU;cMU;cSHII;cSHEUX;cKYEE;cNU;cSHU;cNTEE;cPEE;cNI;cSHOQ;cPUQ;cMVOP;
cLOQ;cREN MUCH;cTI;cNTUU;cMBAA SEVEN;cSAQ;cFAA;bPHASE-E NDAP;cTOON;cMBEUM;cLAP;cVOM;cLOON;cPAA;
cSOM;cRAQ;cNSHUOP;cNDUN;cPUAE;cTAM;cNGKA;cKPEUX;cWUO;cSEE;cNGGEUAET;cPAAM;cTOO;cKUOP;cLOM;cNSHIEE;
cNGOP;cMAEM;cNGKEUX;cNGOQ;cNSHUE;cRIMGBA;cNJEUX;cPEEM;cSAA;cNGGURAE;cMGBA;cGHEUX;cNGKEUAEM;
cNJAEMLI;cMAP;cLOOT;cNGGEEEE;cNDIQ;cTAEN NTEUM;cSET;cPUM;cNDAA SOFTNESS;cNGGUAESHAE NYAM;cYIEE;
cGHEUN;cTUAE;cYEUAE;cPO;cTUMAE;cKEUAE;cSUAEN;cTEUAEQ;cVEUAE;cWEUX;cLAAM;cPU;cTAAQ;cGHAAMAE;
cNGEUREUT;cSHEUAEQ;cMGBEN;cMBEE;cNZAQ;cNKOM;cGBET;cTUM;cKUET;cYAP;cNYI CLEAVER;cYIT;cMFEUQ;cNDIAQ;
cPIEEQ;cYUEQ;cLEUAEM;cFUE;cGBEUX;cNGKUP;cKET;cMAE;cNGKAAMI;cGHET;cFA;cNTUM;cPEUT;cYEUM;cNGGEUAE;
cNYI BETWEEN;cNZUQ;cPOON;cMIEE;cFUET;cNAE;cMUAE;cGHEUAE;cFU I;cMVI;cPUAQ;cNGKUM;cKUT;cPIET;cNTAP;
cYEUAET;cNGGUP;cPA PEOPLE;cFU CALL;cFOM;cNJEE;cA;cTOQ;cO;cI;cLAQ;cPA PLURAL;cTAA;cTAQ;
cNDAA MY HOUSE;cSHIQ;cYEUX;cNGUAE;cYUAEN;cYOQ SWIMMING;dCOVER;cYUQ;cYUN;cKEUX;cPEUX;cNJEE EPOCH;
cPUE;cWUE;cFEE;cVEE;cLU;cMI;cREUX;cRAE;cNGUAET;cNGA;cSHO;cSHOQ;cFU REMEDY;cNA;cPI;cLOQ;cKO;cMEN;
cMA;cMAQ;cTEU;cKI;cMON;cTEN;cFAQ;cGHOM;bPHASE-F KA;cU;cKU;cEE;cREE;cTAE;cNYI;cLA;cRII;cRIEE;
cMEEEE;cTAA;cNDAA;cNJAEM;cM;cSUU;cSHII;cSI;cSEUX;cKYEE;cKET;cNUAE;cNU;cNJUAE;cYOQ;cSHU;cYA;cNSHA;
cPEUX;cNTEE;cWUE;cPEE;cRU;cNI;cREUX;cKEN;cNGKWAEN;cNGGA;cSHO;cPUAE;cFOM;cWA;cLI;cLOQ;cKO;cMBEN;
cREN;cMA;cMO;cMBAA;cTET;cKPA;cSAMBA;cVUEQ;16A40=MRO LETTER TA;bNGI;bYO;bMIM;bBA;bDA;bA;bPHI;bKHAI;
bHAO;bDAI;bCHU;bKEAAE;bOL;bMAEM;bNIN;bPA;bOO;bO;bRO;bSHI;bTHEA;bEA;bWA;bE;bKO;bLAN;bLA;bHAI;bRI;
bTEK;16A60=aDIGIT ZERO;bONE;bTWO;bTHREE;bFOUR;bFIVE;bSIX;bSEVEN;bEIGHT;bNINE;16A6E=aDANDA;
aDOUBLE DANDA;TANGSA LETTER OZ;bOC;bOQ;bOX;bAZ;bAC;bAQ;bAX;bVZ;bVC;bVQ;bVX;bEZ;bEC;bEQ;bEX;bIZ;
bIC;bIQ;bIX;bUZ;bUC;bUQ;bUX;bAWZ;bAWC;bAWQ;bAWX;bUIZ;bUIC;bUIQ;bUIX;bFINAL NG;bLONG UEX;
bSHORT UEZ;cAWX;bUEC;bUEZ;bUEQ;bUEX;bUIUZ;bUIUC;bUIUQ;bUIUX;bMZ;bMC;bMQ;bMX;bKA;bKHA;bGA;bNGA;bSA;
bYA;bWA;bPA;bNYA;bPHA;bBA;bMA;bNA;bHA;bLA;bHTA;bTA;bDA;bRA;bNHA;bSHA;bCA;bTSA;bGHA;bHTTA;bTHA;bXA;
bFA;bDHA;bCHA;bZA;16AC0=aDIGIT ZERO;bONE;bTWO;bTHREE;bFOUR;bFIVE;bSIX;bSEVEN;bEIGHT;bNINE;
16AD0=BASSA VAH LETTER ENNI;cKA;cSE;cFA;cMBE;cYIE;cGAH;cDHII;cKPAH;cJO;cHWAH;cWA;cZO;cGBU;cDO;cCE;
cUWU;cTO;cBA;cVU;cYEIN;cPA;cWADDA;cA;cO;cOO;cU;cEE;cE;cI;16AF0=bCOMBINING HIGH TONE;cLOW TONE;
cMID TONE;cLOW-MID TONE;cHIGH-LOW TONE;bFULL STOP;16B00=PAHAWH HMONG VOWEL KEEB;cKEEV;cKIB;cKIV;
cKAUB;cKAUV;cKUB;cKUV;cKEB;cKEV;cKAIB;cKAIV;cKOOB;cKOOV;cKAWB;cKAWV;cKUAB;cKUAV;cKOB;cKOV;cKIAB;
cKIAV;cKAB;cKAV;cKWB;cKWV;cKAAB;cKAAV;bCONSONANT VAU;cNTSAU;cLAU;cHAU;cNLAU;cRAU;cNKAU;cQHAU;cYAU;
cHLAU;cMAU;cCHAU;cNCHAU;cHNAU;cPLHAU;cNTHAU;cNAU;cAU;cXAU;cCAU;bMARK CIM TUB;dSO;dKES;dKHAV;dSUAM;
dHOM;dTAUM;bSIGN VOS THOM;dTSHAB CEEB;cCIM CHEEM;cVOS THIAB;dFEEM;cXYEEM NTXIV;dRHO;dTOV;dFAIB;
cVOS SEEV;cMEEJ SUAB;cVOS NRUA;cIB YAM;cXAUS;cCIM TSOV ROG;16B50=bDIGIT ZERO;cONE;cTWO;cTHREE;
cFOUR;cFIVE;cSIX;cSEVEN;cEIGHT;cNINE;16B5B=bNUMBER TENS;cHUNDREDS;cTEN THOUSANDS;cMILLIONS;
cHUNDRED MILLIONS;cTEN BILLIONS;cTRILLIONS;16B63=bSIGN VOS LUB;cXYOO;cHLI;cTHIRD-STAGE HLI;
cZWJ THAJ;cHNUB;cNQIG;cXIAB;cNTUJ;cAV;cTXHEEJ CEEV;cMEEJ TSEEB;cTAU;cLOS;cMUS;
cCIM HAIS LUS NTOG NTOG;dCUAM TSHOOJ;dTXWV;eCHWV;dPUB DAWB;dNRES TOS;16B7D=bCLAN SIGN TSHEEJ;
dYEEG;dLIS;dLAUJ;dXYOOJ;dKOO;dHAWJ;dMUAS;dTHOJ;dTSAB;dPHAB;dKHAB;dHAM;dVAJ;dFAJ;dYAJ;dTSWB;dKWM;
dVWJ;16E40=MEDEFAIDRIN CAPITAL LETTER M;cS;cV;cW;cATIU;cZ;cKP;cP;cT;cG;cF;cI;cK;cA;cJ;cE;cB;cC;cU;
cYU;cL;cQ;cHP;cNY;cX;cD;cOE;cN;cR;cO;cAI;cY;aSMALL LETTER M;cS;cV;cW;cATIU;cZ;cKP;cP;cT;cG;cF;cI;
cK;cA;cJ;cE;cB;cC;cU;cYU;cL;cQ;cHP;cNY;cX;cD;cOE;cN;cR;cO;cAI;cY;aDIGIT ZERO;bONE;bTWO;bTHREE;
bFOUR;bFIVE;bSIX;bSEVEN;bEIGHT;bNINE;aNUMBER TEN;bELEVEN;bTWELVE;bTHIRTEEN;bFOURTEEN;bFIFTEEN;
bSIXTEEN;bSEVENTEEN;bEIGHTEEN;bNINETEEN;aDIGIT ONE ALTERNATE FORM;bTWO ALTERNATE FORM;
bTHREE ALTERNATE FORM;aCOMMA;aFULL STOP;aSYMBOL AIVA;aEXCLAMATION OH;16F00=MIAO LETTER PA;bBA;
bYI PA;bPLA;bMA;bMHA;bARCHAIC MA;bFA;bVA;bVFA;bTA;bDA;bYI TTA;cTA;bTTA;bDDA;bNA;bNHA;bYI NNA;
bARCHAIC NA;bNNA;bNNHA;bLA;bLYA;bLHA;bLHYA;bTLHA;bDLHA;bTLHYA;bDLHYA;bKA;bGA;bYI KA;bQA;bQGA;bNGA;
bNGHA;bARCHAIC NGA;bHA;bXA;bGHA;bGHHA;bTSSA;bDZZA;bNYA;bNYHA;bTSHA;bDZHA;bYI TSHA;cDZHA;
bREFORMED TSHA;bSHA;bSSA;bZHA;bZSHA;bTSA;bDZA;bYI TSA;bSA;bZA;bZSA;bZZA;bZZSA;bARCHAIC ZZA;bZZYA;
bZZSYA;bWA;bAH;bHHA;bBRI;bSYI;bDZYI;bTE;bTSE;bRTE;16F4F=aSIGN CONSONANT MODIFIER BAR;
aLETTER NASALIZATION;aSIGN ASPIRATION;bREFORMED VOICING;cASPIRATION;aVOWEL SIGN A;cAA;cAHH;cAN;
cANG;cO;cOO;cWO;cW;cE;cEN;cENG;cOEY;cI;cIA;cIAN;cIANG;cIO;cIE;cII;cIU;cING;cU;cUA;cUAN;cUANG;cUU;
cUEI;cUNG;cY;cYI;cAE;cAEE;cERR;cROUNDED ERR;cER;cROUNDED ER;cAI;cEI;cAU;cOU;cN;cNG;cUOG;cYUI;cOG;
cOER;cVW;cIG;cEA;cIONG;cUI;16F8F=aTONE RIGHT;bTOP RIGHT;bABOVE;bBELOW;aLETTER TONE-2;bTONE-3;
bTONE-4;bTONE-5;bTONE-6;bTONE-7;bTONE-8;bREFORMED TONE-1;cTONE-2;cTONE-4;cTONE-5;cTONE-6;cTONE-8;
16FE0=TANGUT ITERATION MARK;NUSHU ITERATION MARK;OLD CHINESE HOOK MARK;bITERATION MARK;
KHITAN SMALL SCRIPT FILLER;16FF0=VIETNAMESE ALTERNATE READING MARK CA;dNHAY;"

end IgnoreRules.Unicode
