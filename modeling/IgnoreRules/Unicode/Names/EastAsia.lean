/-!
# Character names: the scripts from U+3000 to U+FFFF

The names of version 14 of the Unicode standard, in the packed form that
`Unicode.readNames` describes.
-/

namespace IgnoreRules.Unicode

/-- The packed names of the scripts from U+3000 to U+FFFF. -/
def eastAsiaNames : String :=
  "3000=IDEOGRAPHIC SPACE;aCOMMA;aFULL STOP;DITTO MARK;JAPANESE INDUSTRIAL STANDARD SYMBOL;
IDEOGRAPHIC ITERATION MARK;aCLOSING MARK;aNUMBER ZERO;LEFT ANGLE BRACKET;RIGHT ANGLE BRACKET;
LEFT DOUBLE ANGLE BRACKET;RIGHT DOUBLE ANGLE BRACKET;LEFT CORNER BRACKET;RIGHT CORNER BRACKET;
LEFT WHITE CORNER BRACKET;RIGHT WHITE CORNER BRACKET;LEFT BLACK LENTICULAR BRACKET;
RIGHT BLACK LENTICULAR BRACKET;POSTAL MARK;GETA MARK;LEFT TORTOISE SHELL BRACKET;
RIGHT TORTOISE SHELL BRACKET;LEFT WHITE LENTICULAR BRACKET;RIGHT WHITE LENTICULAR BRACKET;
LEFT WHITE TORTOISE SHELL BRACKET;RIGHT WHITE TORTOISE SHELL BRACKET;LEFT WHITE SQUARE BRACKET;
RIGHT WHITE SQUARE BRACKET;WAVE DASH;REVERSED DOUBLE PRIME QUOTATION MARK;
DOUBLE PRIME QUOTATION MARK;LOW DOUBLE PRIME QUOTATION MARK;POSTAL MARK FACE;HANGZHOU NUMERAL ONE;
bTWO;bTHREE;bFOUR;bFIVE;bSIX;bSEVEN;bEIGHT;bNINE;IDEOGRAPHIC LEVEL TONE MARK;aRISING TONE MARK;
aDEPARTING TONE MARK;aENTERING TONE MARK;HANGUL SINGLE DOT TONE MARK;aDOUBLE DOT TONE MARK;
WAVY DASH;VERTICAL KANA REPEAT MARK;cWITH VOICED SOUND MARK;cMARK UPPER HALF;
cWITH VOICED SOUND MARK UPPER HALF;cMARK LOWER HALF;CIRCLED POSTAL MARK;
IDEOGRAPHIC TELEGRAPH LINE FEED SEPARATOR SYMBOL;HANGZHOU NUMERAL TEN;bTWENTY;bTHIRTY;
VERTICAL IDEOGRAPHIC ITERATION MARK;MASU MARK;PART ALTERNATION MARK;
IDEOGRAPHIC VARIATION INDICATOR;aHALF FILL SPACE;3041=HIRAGANA LETTER SMALL A;bA;bSMALL I;bI;
bSMALL U;bU;bSMALL E;bE;bSMALL O;bO;bKA;bGA;bKI;bGI;bKU;bGU;bKE;bGE;bKO;bGO;bSA;bZA;bSI;bZI;bSU;
bZU;bSE;bZE;bSO;bZO;bTA;bDA;bTI;bDI;bSMALL TU;bTU;bDU;bTE;bDE;bTO;bDO;bNA;bNI;bNU;bNE;bNO;bHA;bBA;
bPA;bHI;bBI;bPI;bHU;bBU;bPU;bHE;bBE;bPE;bHO;bBO;bPO;bMA;bMI;bMU;bME;bMO;bSMALL YA;bYA;bSMALL YU;
bYU;bSMALL YO;bYO;bRA;bRI;bRU;bRE;bRO;bSMALL WA;bWA;bWI;bWE;bWO;bN;bVU;bSMALL KA;cKE;
3099=COMBINING KATAKANA-HIRAGANA VOICED SOUND MARK;bSEMI-VOICED SOUND MARK;
KATAKANA-HIRAGANA VOICED SOUND MARK;aSEMI-VOICED SOUND MARK;HIRAGANA ITERATION MARK;
aVOICED ITERATION MARK;aDIGRAPH YORI;KATAKANA-HIRAGANA DOUBLE HYPHEN;KATAKANA LETTER SMALL A;bA;
bSMALL I;bI;bSMALL U;bU;bSMALL E;bE;bSMALL O;bO;bKA;bGA;bKI;bGI;bKU;bGU;bKE;bGE;bKO;bGO;bSA;bZA;
bSI;bZI;bSU;bZU;bSE;bZE;bSO;bZO;bTA;bDA;bTI;bDI;bSMALL TU;bTU;bDU;bTE;bDE;bTO;bDO;bNA;bNI;bNU;bNE;
bNO;bHA;bBA;bPA;bHI;bBI;bPI;bHU;bBU;bPU;bHE;bBE;bPE;bHO;bBO;bPO;bMA;bMI;bMU;bME;bMO;bSMALL YA;bYA;
bSMALL YU;bYU;bSMALL YO;bYO;bRA;bRI;bRU;bRE;bRO;bSMALL WA;bWA;bWI;bWE;bWO;bN;bVU;bSMALL KA;cKE;
bVA;bVI;bVE;bVO;aMIDDLE DOT;KATAKANA-HIRAGANA PROLONGED SOUND MARK;KATAKANA ITERATION MARK;
aVOICED ITERATION MARK;aDIGRAPH KOTO;3105=BOPOMOFO LETTER B;bP;bM;bF;bD;bT;bN;bL;bG;bK;bH;bJ;bQ;
bX;bZH;bCH;bSH;bR;bZ;bC;bS;bA;bO;bE;bEH;bAI;bEI;bAU;bOU;bAN;bEN;bANG;bENG;bER;bI;bU;bIU;bV;bNG;
bGN;bIH;bO WITH DOT ABOVE;bNN;3131=HANGUL LETTER KIYEOK;bSSANGKIYEOK;bKIYEOK-SIOS;bNIEUN;
bNIEUN-CIEUC;bNIEUN-HIEUH;bTIKEUT;bSSANGTIKEUT;bRIEUL;bRIEUL-KIYEOK;bRIEUL-MIEUM;bRIEUL-PIEUP;
bRIEUL-SIOS;bRIEUL-THIEUTH;bRIEUL-PHIEUPH;bRIEUL-HIEUH;bMIEUM;bPIEUP;bSSANGPIEUP;bPIEUP-SIOS;
bSIOS;bSSANGSIOS;bIEUNG;bCIEUC;bSSANGCIEUC;bCHIEUCH;bKHIEUKH;bTHIEUTH;bPHIEUPH;bHIEUH;bA;bAE;bYA;
bYAE;bEO;bE;bYEO;bYE;bO;bWA;bWAE;bOE;bYO;bU;bWEO;bWE;bWI;bYU;bEU;bYI;bI;aFILLER;
aLETTER SSANGNIEUN;bNIEUN-TIKEUT;bNIEUN-SIOS;bNIEUN-PANSIOS;bRIEUL-KIYEOK-SIOS;bRIEUL-TIKEUT;
bRIEUL-PIEUP-SIOS;bRIEUL-PANSIOS;bRIEUL-YEORINHIEUH;bMIEUM-PIEUP;bMIEUM-SIOS;bMIEUM-PANSIOS;
bKAPYEOUNMIEUM;bPIEUP-KIYEOK;bPIEUP-TIKEUT;bPIEUP-SIOS-KIYEOK;bPIEUP-SIOS-TIKEUT;bPIEUP-CIEUC;
bPIEUP-THIEUTH;bKAPYEOUNPIEUP;bKAPYEOUNSSANGPIEUP;bSIOS-KIYEOK;bSIOS-NIEUN;bSIOS-TIKEUT;
bSIOS-PIEUP;bSIOS-CIEUC;bPANSIOS;bSSANGIEUNG;bYESIEUNG;bYESIEUNG-SIOS;bYESIEUNG-PANSIOS;
bKAPYEOUNPHIEUPH;bSSANGHIEUH;bYEORINHIEUH;bYO-YA;bYO-YAE;bYO-I;bYU-YEO;bYU-YE;bYU-I;bARAEA;
bARAEAE;3190=IDEOGRAPHIC ANNOTATION LINKING MARK;bREVERSE MARK;bONE MARK;bTWO MARK;bTHREE MARK;
bFOUR MARK;bTOP MARK;bMIDDLE MARK;bBOTTOM MARK;bFIRST MARK;bSECOND MARK;bTHIRD MARK;bFOURTH MARK;
bHEAVEN MARK;bEARTH MARK;bMAN MARK;BOPOMOFO LETTER BU;bZI;bJI;bGU;bEE;bENN;bOO;bONN;bIR;bANN;bINN;
bUNN;bIM;bNGG;bAINN;bAUNN;bAM;bOM;bONG;bINNN;aFINAL LETTER P;cT;cK;cH;aLETTER GH;bLH;bZY;
aFINAL LETTER G;aLETTER GW;bKW;bOE;bAH;CJK STROKE T;bWG;bXG;bBXG;bSW;bHZZ;bHZG;bHP;bHZWG;bSZWG;
bHZT;bHZZP;bHPWG;bHZW;bHZZZ;bN;bH;bS;bP;bSP;bD;bHZ;bHG;bSZ;bSWZ;bST;bSG;bPD;bPZ;bTN;bSZZ;bSWG;
bHXWG;bHZZZG;bPG;bQ;31F0=KATAKANA LETTER SMALL KU;cSI;cSU;cTO;cNU;cHA;cHI;cHU;cHE;cHO;cMU;cRA;cRI;
cRU;cRE;cRO;PARENTHESIZED HANGUL KIYEOK;bNIEUN;bTIKEUT;bRIEUL;bMIEUM;bPIEUP;bSIOS;bIEUNG;bCIEUC;
bCHIEUCH;bKHIEUKH;bTHIEUTH;bPHIEUPH;bHIEUH;bKIYEOK A;bNIEUN A;bTIKEUT A;bRIEUL A;bMIEUM A;
bPIEUP A;bSIOS A;bIEUNG A;bCIEUC A;bCHIEUCH A;bKHIEUKH A;bTHIEUTH A;bPHIEUPH A;bHIEUH A;bCIEUC U;
aKOREAN CHARACTER OJEON;cO HU;3220=aIDEOGRAPH ONE;bTWO;bTHREE;bFOUR;bFIVE;bSIX;bSEVEN;bEIGHT;
bNINE;bTEN;bMOON;bFIRE;bWATER;bWOOD;bMETAL;bEARTH;bSUN;bSTOCK;bHAVE;bSOCIETY;bNAME;bSPECIAL;
bFINANCIAL;bCONGRATULATION;bLABOR;bREPRESENT;bCALL;bSTUDY;bSUPERVISE;bENTERPRISE;bRESOURCE;
bALLIANCE;bFESTIVAL;bREST;bSELF;bREACH;CIRCLED IDEOGRAPH QUESTION;bKINDERGARTEN;bSCHOOL;bKOTO;
aNUMBER TEN ON BLACK SQUARE;bTWENTY ON BLACK SQUARE;bTHIRTY ON BLACK SQUARE;
bFORTY ON BLACK SQUARE;bFIFTY ON BLACK SQUARE;bSIXTY ON BLACK SQUARE;bSEVENTY ON BLACK SQUARE;
bEIGHTY ON BLACK SQUARE;PARTNERSHIP SIGN;CIRCLED NUMBER TWENTY ONE;cTWO;cTHREE;cFOUR;cFIVE;cSIX;
cSEVEN;cEIGHT;cNINE;bTHIRTY;cONE;cTWO;cTHREE;cFOUR;cFIVE;aHANGUL KIYEOK;bNIEUN;bTIKEUT;bRIEUL;
bMIEUM;bPIEUP;bSIOS;bIEUNG;bCIEUC;bCHIEUCH;bKHIEUKH;bTHIEUTH;bPHIEUPH;bHIEUH;bKIYEOK A;bNIEUN A;
bTIKEUT A;bRIEUL A;bMIEUM A;bPIEUP A;bSIOS A;bIEUNG A;bCIEUC A;bCHIEUCH A;bKHIEUKH A;bTHIEUTH A;
bPHIEUPH A;bHIEUH A;aKOREAN CHARACTER CHAMKO;cJUEUI;aHANGUL IEUNG U;KOREAN STANDARD SYMBOL;
CIRCLED IDEOGRAPH ONE;bTWO;bTHREE;bFOUR;bFIVE;bSIX;bSEVEN;bEIGHT;bNINE;bTEN;bMOON;bFIRE;bWATER;
bWOOD;bMETAL;bEARTH;bSUN;bSTOCK;bHAVE;bSOCIETY;bNAME;bSPECIAL;bFINANCIAL;bCONGRATULATION;bLABOR;
bSECRET;bMALE;bFEMALE;bSUITABLE;bEXCELLENT;bPRINT;bATTENTION;bITEM;bREST;bCOPY;bCORRECT;bHIGH;
bCENTRE;bLOW;bLEFT;bRIGHT;bMEDICINE;bRELIGION;bSTUDY;bSUPERVISE;bENTERPRISE;bRESOURCE;bALLIANCE;
bNIGHT;aNUMBER THIRTY SIX;cSEVEN;cEIGHT;cNINE;bFORTY;cONE;cTWO;cTHREE;cFOUR;cFIVE;cSIX;cSEVEN;
cEIGHT;cNINE;bFIFTY;IDEOGRAPHIC TELEGRAPH SYMBOL FOR JANUARY;dFEBRUARY;dMARCH;dAPRIL;dMAY;dJUNE;
dJULY;dAUGUST;dSEPTEMBER;dOCTOBER;dNOVEMBER;dDECEMBER;SQUARE HG;aERG;aEV;LIMITED LIABILITY SIGN;
CIRCLED KATAKANA A;bI;bU;bE;bO;bKA;bKI;bKU;bKE;bKO;bSA;bSI;bSU;bSE;bSO;bTA;bTI;bTU;bTE;bTO;bNA;
bNI;bNU;bNE;bNO;bHA;bHI;bHU;bHE;bHO;bMA;bMI;bMU;bME;bMO;bYA;bYU;bYO;bRA;bRI;bRU;bRE;bRO;bWA;bWI;
bWE;bWO;SQUARE ERA NAME REIWA;aAPAATO;aARUHUA;aANPEA;aAARU;aININGU;aINTI;aUON;aESUKUUDO;aEEKAA;
aONSU;aOOMU;aKAIRI;aKARATTO;aKARORII;aGARON;aGANMA;aGIGA;aGINII;aKYURII;aGIRUDAA;aKIRO;
aKIROGURAMU;aKIROMEETORU;aKIROWATTO;aGURAMU;aGURAMUTON;aKURUZEIRO;aKUROONE;aKEESU;aKORUNA;aKOOPO;
aSAIKURU;aSANTIIMU;aSIRINGU;aSENTI;aSENTO;aDAASU;aDESI;aDORU;aTON;aNANO;aNOTTO;aHAITU;aPAASENTO;
aPAATU;aBAARERU;aPIASUTORU;aPIKURU;aPIKO;aBIRU;aHUARADDO;aHUIITO;aBUSSYERU;aHURAN;aHEKUTAARU;
aPESO;aPENIHI;aHERUTU;aPENSU;aPEEZI;aBEETA;aPOINTO;aBORUTO;aHON;aPONDO;aHOORU;aHOON;aMAIKURO;
aMAIRU;aMAHHA;aMARUKU;aMANSYON;aMIKURON;aMIRI;aMIRIBAARU;aMEGA;aMEGATON;aMEETORU;aYAADO;aYAARU;
aYUAN;aRITTORU;aRIRA;aRUPII;aRUUBURU;aREMU;aRENTOGEN;aWATTO;
IDEOGRAPHIC TELEGRAPH SYMBOL FOR HOUR ZERO;eONE;eTWO;eTHREE;eFOUR;eFIVE;eSIX;eSEVEN;eEIGHT;eNINE;
eTEN;eELEVEN;eTWELVE;eTHIRTEEN;eFOURTEEN;eFIFTEEN;eSIXTEEN;eSEVENTEEN;eEIGHTEEN;eNINETEEN;eTWENTY;
eTWENTY-ONE;eTWENTY-TWO;eTWENTY-THREE;eTWENTY-FOUR;SQUARE HPA;aDA;aAU;aBAR;aOV;aPC;aDM;bSQUARED;
bCUBED;aIU;aERA NAME HEISEI;cSYOUWA;cTAISYOU;cMEIZI;aCORPORATION;aPA AMPS;aNA;aMU A;aMA;aKA;aKB;
aMB;aGB;aCAL;aKCAL;aPF;aNF;aMU F;bG;aMG;aKG;aHZ;aKHZ;aMHZ;aGHZ;aTHZ;aMU L;aML;aDL;aKL;aFM;aNM;
aMU M;aMM;aCM;aKM;aMM SQUARED;aCM SQUARED;aM SQUARED;aKM SQUARED;aMM CUBED;aCM CUBED;aM CUBED;
aKM CUBED;aM OVER S;dSQUARED;aPA;aKPA;aMPA;aGPA;aRAD;bOVER S;dSQUARED;aPS;aNS;aMU S;aMS;aPV;aNV;
aMU V;aMV;aKV;aMV MEGA;aPW;aNW;aMU W;aMW;aKW;aMW MEGA;aK OHM;aM OHM;aAM;aBQ;aCC;aCD;aC OVER KG;
aCO;aDB;aGY;aHA;aHP;aIN;aKK;aKM CAPITAL;aKT;aLM;aLN;aLOG;aLX;aMB SMALL;aMIL;aMOL;aPH;aPM;aPPM;aPR;
aSR;aSV;aWB;aV OVER M;aA OVER M;IDEOGRAPHIC TELEGRAPH SYMBOL FOR DAY ONE;eTWO;eTHREE;eFOUR;eFIVE;
eSIX;eSEVEN;eEIGHT;eNINE;eTEN;eELEVEN;eTWELVE;eTHIRTEEN;eFOURTEEN;eFIFTEEN;eSIXTEEN;eSEVENTEEN;
eEIGHTEEN;eNINETEEN;eTWENTY;eTWENTY-ONE;eTWENTY-TWO;eTWENTY-THREE;eTWENTY-FOUR;eTWENTY-FIVE;
eTWENTY-SIX;eTWENTY-SEVEN;eTWENTY-EIGHT;eTWENTY-NINE;eTHIRTY;eTHIRTY-ONE;SQUARE GAL;
4DC0=HEXAGRAM FOR THE CREATIVE HEAVEN;cRECEPTIVE EARTH;bDIFFICULTY AT THE BEGINNING;
bYOUTHFUL FOLLY;bWAITING;bCONFLICT;bTHE ARMY;bHOLDING TOGETHER;bSMALL TAMING;bTREADING;bPEACE;
bSTANDSTILL;bFELLOWSHIP;bGREAT POSSESSION;bMODESTY;bENTHUSIASM;bFOLLOWING;bWORK ON THE DECAYED;
bAPPROACH;bCONTEMPLATION;bBITING THROUGH;bGRACE;bSPLITTING APART;bRETURN;bINNOCENCE;bGREAT TAMING;
bMOUTH CORNERS;bGREAT PREPONDERANCE;bTHE ABYSMAL WATER;cCLINGING FIRE;bINFLUENCE;bDURATION;
bRETREAT;bGREAT POWER;bPROGRESS;bDARKENING OF THE LIGHT;bTHE FAMILY;bOPPOSITION;bOBSTRUCTION;
bDELIVERANCE;bDECREASE;bINCREASE;bBREAKTHROUGH;bCOMING TO MEET;bGATHERING TOGETHER;
bPUSHING UPWARD;bOPPRESSION;bTHE WELL;bREVOLUTION;bTHE CAULDRON;cAROUSING THUNDER;
cKEEPING STILL MOUNTAIN;bDEVELOPMENT;bTHE MARRYING MAIDEN;bABUNDANCE;bTHE WANDERER;cGENTLE WIND;
cJOYOUS LAKE;bDISPERSION;bLIMITATION;bINNER TRUTH;bSMALL PREPONDERANCE;bAFTER COMPLETION;
bBEFORE COMPLETION;A000=YI SYLLABLE IT;bIX;bI;bIP;bIET;bIEX;bIE;bIEP;bAT;bAX;bA;bAP;bUOX;bUO;bUOP;
bOT;bOX;bO;bOP;bEX;bE;bWU;bBIT;bBIX;bBI;bBIP;bBIET;bBIEX;bBIE;bBIEP;bBAT;bBAX;bBA;bBAP;bBUOX;bBUO;
bBUOP;bBOT;bBOX;bBO;bBOP;bBEX;bBE;bBEP;bBUT;bBUX;bBU;bBUP;bBURX;bBUR;bBYT;bBYX;bBY;bBYP;bBYRX;
bBYR;bPIT;bPIX;bPI;bPIP;bPIEX;bPIE;bPIEP;bPAT;bPAX;bPA;bPAP;bPUOX;bPUO;bPUOP;bPOT;bPOX;bPO;bPOP;
bPUT;bPUX;bPU;bPUP;bPURX;bPUR;bPYT;bPYX;bPY;bPYP;bPYRX;bPYR;bBBIT;bBBIX;bBBI;bBBIP;bBBIET;bBBIEX;
bBBIE;bBBIEP;bBBAT;bBBAX;bBBA;bBBAP;bBBUOX;bBBUO;bBBUOP;bBBOT;bBBOX;bBBO;bBBOP;bBBEX;bBBE;bBBEP;
bBBUT;bBBUX;bBBU;bBBUP;bBBURX;bBBUR;bBBYT;bBBYX;bBBY;bBBYP;bNBIT;bNBIX;bNBI;bNBIP;bNBIEX;bNBIE;
bNBIEP;bNBAT;bNBAX;bNBA;bNBAP;bNBOT;bNBOX;bNBO;bNBOP;bNBUT;bNBUX;bNBU;bNBUP;bNBURX;bNBUR;bNBYT;
bNBYX;bNBY;bNBYP;bNBYRX;bNBYR;bHMIT;bHMIX;bHMI;bHMIP;bHMIEX;bHMIE;bHMIEP;bHMAT;bHMAX;bHMA;bHMAP;
bHMUOX;bHMUO;bHMUOP;bHMOT;bHMOX;bHMO;bHMOP;bHMUT;bHMUX;bHMU;bHMUP;bHMURX;bHMUR;bHMYX;bHMY;bHMYP;
bHMYRX;bHMYR;bMIT;bMIX;bMI;bMIP;bMIEX;bMIE;bMIEP;bMAT;bMAX;bMA;bMAP;bMUOT;bMUOX;bMUO;bMUOP;bMOT;
bMOX;bMO;bMOP;bMEX;bME;bMUT;bMUX;bMU;bMUP;bMURX;bMUR;bMYT;bMYX;bMY;bMYP;bFIT;bFIX;bFI;bFIP;bFAT;
bFAX;bFA;bFAP;bFOX;bFO;bFOP;bFUT;bFUX;bFU;bFUP;bFURX;bFUR;bFYT;bFYX;bFY;bFYP;bVIT;bVIX;bVI;bVIP;
bVIET;bVIEX;bVIE;bVIEP;bVAT;bVAX;bVA;bVAP;bVOT;bVOX;bVO;bVOP;bVEX;bVEP;bVUT;bVUX;bVU;bVUP;bVURX;
bVUR;bVYT;bVYX;bVY;bVYP;bVYRX;bVYR;bDIT;bDIX;bDI;bDIP;bDIEX;bDIE;bDIEP;bDAT;bDAX;bDA;bDAP;bDUOX;
bDUO;bDOT;bDOX;bDO;bDOP;bDEX;bDE;bDEP;bDUT;bDUX;bDU;bDUP;bDURX;bDUR;bTIT;bTIX;bTI;bTIP;bTIEX;bTIE;
bTIEP;bTAT;bTAX;bTA;bTAP;bTUOT;bTUOX;bTUO;bTUOP;bTOT;bTOX;bTO;bTOP;bTEX;bTE;bTEP;bTUT;bTUX;bTU;
bTUP;bTURX;bTUR;bDDIT;bDDIX;bDDI;bDDIP;bDDIEX;bDDIE;bDDIEP;bDDAT;bDDAX;bDDA;bDDAP;bDDUOX;bDDUO;
bDDUOP;bDDOT;bDDOX;bDDO;bDDOP;bDDEX;bDDE;bDDEP;bDDUT;bDDUX;bDDU;bDDUP;bDDURX;bDDUR;bNDIT;bNDIX;
bNDI;bNDIP;bNDIEX;bNDIE;bNDAT;bNDAX;bNDA;bNDAP;bNDOT;bNDOX;bNDO;bNDOP;bNDEX;bNDE;bNDEP;bNDUT;
bNDUX;bNDU;bNDUP;bNDURX;bNDUR;bHNIT;bHNIX;bHNI;bHNIP;bHNIET;bHNIEX;bHNIE;bHNIEP;bHNAT;bHNAX;bHNA;
bHNAP;bHNUOX;bHNUO;bHNOT;bHNOX;bHNOP;bHNEX;bHNE;bHNEP;bHNUT;bNIT;bNIX;bNI;bNIP;bNIEX;bNIE;bNIEP;
bNAX;bNA;bNAP;bNUOX;bNUO;bNUOP;bNOT;bNOX;bNO;bNOP;bNEX;bNE;bNEP;bNUT;bNUX;bNU;bNUP;bNURX;bNUR;
bHLIT;bHLIX;bHLI;bHLIP;bHLIEX;bHLIE;bHLIEP;bHLAT;bHLAX;bHLA;bHLAP;bHLUOX;bHLUO;bHLUOP;bHLOX;bHLO;
bHLOP;bHLEX;bHLE;bHLEP;bHLUT;bHLUX;bHLU;bHLUP;bHLURX;bHLUR;bHLYT;bHLYX;bHLY;bHLYP;bHLYRX;bHLYR;
bLIT;bLIX;bLI;bLIP;bLIET;bLIEX;bLIE;bLIEP;bLAT;bLAX;bLA;bLAP;bLUOT;bLUOX;bLUO;bLUOP;bLOT;bLOX;bLO;
bLOP;bLEX;bLE;bLEP;bLUT;bLUX;bLU;bLUP;bLURX;bLUR;bLYT;bLYX;bLY;bLYP;bLYRX;bLYR;bGIT;bGIX;bGI;bGIP;
bGIET;bGIEX;bGIE;bGIEP;bGAT;bGAX;bGA;bGAP;bGUOT;bGUOX;bGUO;bGUOP;bGOT;bGOX;bGO;bGOP;bGET;bGEX;bGE;
bGEP;bGUT;bGUX;bGU;bGUP;bGURX;bGUR;bKIT;bKIX;bKI;bKIP;bKIEX;bKIE;bKIEP;bKAT;bKAX;bKA;bKAP;bKUOX;
bKUO;bKUOP;bKOT;bKOX;bKO;bKOP;bKET;bKEX;bKE;bKEP;bKUT;bKUX;bKU;bKUP;bKURX;bKUR;bGGIT;bGGIX;bGGI;
bGGIEX;bGGIE;bGGIEP;bGGAT;bGGAX;bGGA;bGGAP;bGGUOT;bGGUOX;bGGUO;bGGUOP;bGGOT;bGGOX;bGGO;bGGOP;
bGGET;bGGEX;bGGE;bGGEP;bGGUT;bGGUX;bGGU;bGGUP;bGGURX;bGGUR;bMGIEX;bMGIE;bMGAT;bMGAX;bMGA;bMGAP;
bMGUOX;bMGUO;bMGUOP;bMGOT;bMGOX;bMGO;bMGOP;bMGEX;bMGE;bMGEP;bMGUT;bMGUX;bMGU;bMGUP;bMGURX;bMGUR;
bHXIT;bHXIX;bHXI;bHXIP;bHXIET;bHXIEX;bHXIE;bHXIEP;bHXAT;bHXAX;bHXA;bHXAP;bHXUOT;bHXUOX;bHXUO;
bHXUOP;bHXOT;bHXOX;bHXO;bHXOP;bHXEX;bHXE;bHXEP;bNGIEX;bNGIE;bNGIEP;bNGAT;bNGAX;bNGA;bNGAP;bNGUOT;
bNGUOX;bNGUO;bNGOT;bNGOX;bNGO;bNGOP;bNGEX;bNGE;bNGEP;bHIT;bHIEX;bHIE;bHAT;bHAX;bHA;bHAP;bHUOT;
bHUOX;bHUO;bHUOP;bHOT;bHOX;bHO;bHOP;bHEX;bHE;bHEP;bWAT;bWAX;bWA;bWAP;bWUOX;bWUO;bWUOP;bWOX;bWO;
bWOP;bWEX;bWE;bWEP;bZIT;bZIX;bZI;bZIP;bZIEX;bZIE;bZIEP;bZAT;bZAX;bZA;bZAP;bZUOX;bZUO;bZUOP;bZOT;
bZOX;bZO;bZOP;bZEX;bZE;bZEP;bZUT;bZUX;bZU;bZUP;bZURX;bZUR;bZYT;bZYX;bZY;bZYP;bZYRX;bZYR;bCIT;bCIX;
bCI;bCIP;bCIET;bCIEX;bCIE;bCIEP;bCAT;bCAX;bCA;bCAP;bCUOX;bCUO;bCUOP;bCOT;bCOX;bCO;bCOP;bCEX;bCE;
bCEP;bCUT;bCUX;bCU;bCUP;bCURX;bCUR;bCYT;bCYX;bCY;bCYP;bCYRX;bCYR;bZZIT;bZZIX;bZZI;bZZIP;bZZIET;
bZZIEX;bZZIE;bZZIEP;bZZAT;bZZAX;bZZA;bZZAP;bZZOX;bZZO;bZZOP;bZZEX;bZZE;bZZEP;bZZUX;bZZU;bZZUP;
bZZURX;bZZUR;bZZYT;bZZYX;bZZY;bZZYP;bZZYRX;bZZYR;bNZIT;bNZIX;bNZI;bNZIP;bNZIEX;bNZIE;bNZIEP;bNZAT;
bNZAX;bNZA;bNZAP;bNZUOX;bNZUO;bNZOX;bNZOP;bNZEX;bNZE;bNZUX;bNZU;bNZUP;bNZURX;bNZUR;bNZYT;bNZYX;
bNZY;bNZYP;bNZYRX;bNZYR;bSIT;bSIX;bSI;bSIP;bSIEX;bSIE;bSIEP;bSAT;bSAX;bSA;bSAP;bSUOX;bSUO;bSUOP;
bSOT;bSOX;bSO;bSOP;bSEX;bSE;bSEP;bSUT;bSUX;bSU;bSUP;bSURX;bSUR;bSYT;bSYX;bSY;bSYP;bSYRX;bSYR;
bSSIT;bSSIX;bSSI;bSSIP;bSSIEX;bSSIE;bSSIEP;bSSAT;bSSAX;bSSA;bSSAP;bSSOT;bSSOX;bSSO;bSSOP;bSSEX;
bSSE;bSSEP;bSSUT;bSSUX;bSSU;bSSUP;bSSYT;bSSYX;bSSY;bSSYP;bSSYRX;bSSYR;bZHAT;bZHAX;bZHA;bZHAP;
bZHUOX;bZHUO;bZHUOP;bZHOT;bZHOX;bZHO;bZHOP;bZHET;bZHEX;bZHE;bZHEP;bZHUT;bZHUX;bZHU;bZHUP;bZHURX;
bZHUR;bZHYT;bZHYX;bZHY;bZHYP;bZHYRX;bZHYR;bCHAT;bCHAX;bCHA;bCHAP;bCHUOT;bCHUOX;bCHUO;bCHUOP;bCHOT;
bCHOX;bCHO;bCHOP;bCHET;bCHEX;bCHE;bCHEP;bCHUX;bCHU;bCHUP;bCHURX;bCHUR;bCHYT;bCHYX;bCHY;bCHYP;
bCHYRX;bCHYR;bRRAX;bRRA;bRRUOX;bRRUO;bRROT;bRROX;bRRO;bRROP;bRRET;bRREX;bRRE;bRREP;bRRUT;bRRUX;
bRRU;bRRUP;bRRURX;bRRUR;bRRYT;bRRYX;bRRY;bRRYP;bRRYRX;bRRYR;bNRAT;bNRAX;bNRA;bNRAP;bNROX;bNRO;
bNROP;bNRET;bNREX;bNRE;bNREP;bNRUT;bNRUX;bNRU;bNRUP;bNRURX;bNRUR;bNRYT;bNRYX;bNRY;bNRYP;bNRYRX;
bNRYR;bSHAT;bSHAX;bSHA;bSHAP;bSHUOX;bSHUO;bSHUOP;bSHOT;bSHOX;bSHO;bSHOP;bSHET;bSHEX;bSHE;bSHEP;
bSHUT;bSHUX;bSHU;bSHUP;bSHURX;bSHUR;bSHYT;bSHYX;bSHY;bSHYP;bSHYRX;bSHYR;bRAT;bRAX;bRA;bRAP;bRUOX;
bRUO;bRUOP;bROT;bROX;bRO;bROP;bREX;bRE;bREP;bRUT;bRUX;bRU;bRUP;bRURX;bRUR;bRYT;bRYX;bRY;bRYP;
bRYRX;bRYR;bJIT;bJIX;bJI;bJIP;bJIET;bJIEX;bJIE;bJIEP;bJUOT;bJUOX;bJUO;bJUOP;bJOT;bJOX;bJO;bJOP;
bJUT;bJUX;bJU;bJUP;bJURX;bJUR;bJYT;bJYX;bJY;bJYP;bJYRX;bJYR;bQIT;bQIX;bQI;bQIP;bQIET;bQIEX;bQIE;
bQIEP;bQUOT;bQUOX;bQUO;bQUOP;bQOT;bQOX;bQO;bQOP;bQUT;bQUX;bQU;bQUP;bQURX;bQUR;bQYT;bQYX;bQY;bQYP;
bQYRX;bQYR;bJJIT;bJJIX;bJJI;bJJIP;bJJIET;bJJIEX;bJJIE;bJJIEP;bJJUOX;bJJUO;bJJUOP;bJJOT;bJJOX;bJJO;
bJJOP;bJJUT;bJJUX;bJJU;bJJUP;bJJURX;bJJUR;bJJYT;bJJYX;bJJY;bJJYP;bNJIT;bNJIX;bNJI;bNJIP;bNJIET;
bNJIEX;bNJIE;bNJIEP;bNJUOX;bNJUO;bNJOT;bNJOX;bNJO;bNJOP;bNJUX;bNJU;bNJUP;bNJURX;bNJUR;bNJYT;bNJYX;
bNJY;bNJYP;bNJYRX;bNJYR;bNYIT;bNYIX;bNYI;bNYIP;bNYIET;bNYIEX;bNYIE;bNYIEP;bNYUOX;bNYUO;bNYUOP;
bNYOT;bNYOX;bNYO;bNYOP;bNYUT;bNYUX;bNYU;bNYUP;bXIT;bXIX;bXI;bXIP;bXIET;bXIEX;bXIE;bXIEP;bXUOX;
bXUO;bXOT;bXOX;bXO;bXOP;bXYT;bXYX;bXY;bXYP;bXYRX;bXYR;bYIT;bYIX;bYI;bYIP;bYIET;bYIEX;bYIE;bYIEP;
bYUOT;bYUOX;bYUO;bYUOP;bYOT;bYOX;bYO;bYOP;bYUT;bYUX;bYU;bYUP;bYURX;bYUR;bYYT;bYYX;bYY;bYYP;bYYRX;
bYYR;A490=aRADICAL QOT;bLI;bKIT;bNYIP;bCYP;bSSI;bGGOP;bGEP;bMI;bHXIT;bLYR;bBBUT;bMOP;bYO;bPUT;
bHXUO;bTAT;bGA;bZUP;bCYT;bDDUR;bBUR;bGGUO;bNYOP;bTU;bOP;bJJUT;bZOT;bPYT;bHMO;bYIT;bVUR;bSHY;bVEP;
bZA;bJO;bNZUP;bJJY;bGOT;bJJIE;bWO;bDU;bSHUR;bLIE;bCY;bCUOP;bCIP;bHXOP;bSHAT;bZUR;bSHOP;bCHE;
bZZIET;bNBIE;bKE;A4D0=LISU LETTER BA;bPA;bPHA;bDA;bTA;bTHA;bGA;bKA;bKHA;bJA;bCA;bCHA;bDZA;bTSA;
bTSHA;bMA;bNA;bLA;bSA;bZHA;bZA;bNGA;bHA;bXA;bHHA;bFA;bWA;bSHA;bYA;bGHA;bA;bAE;bE;bEU;bI;bO;bU;bUE;
bUH;bOE;bTONE MYA TI;cNA PO;cMYA CYA;dBO;dNA;dJEU;aPUNCTUATION COMMA;bFULL STOP;VAI SYLLABLE EE;
bEEN;bHEE;bWEE;bWEEN;bPEE;bBHEE;bBEE;bMBEE;bKPEE;bMGBEE;bGBEE;bFEE;bVEE;bTEE;bTHEE;bDHEE;bDHHEE;
bLEE;bREE;bDEE;bNDEE;bSEE;bSHEE;bZEE;bZHEE;bCEE;bJEE;bNJEE;bYEE;bKEE;bNGGEE;bGEE;bMEE;bNEE;bNYEE;
bI;bIN;bHI;bHIN;bWI;bWIN;bPI;bBHI;bBI;bMBI;bKPI;bMGBI;bGBI;bFI;bVI;bTI;bTHI;bDHI;bDHHI;bLI;bRI;
bDI;bNDI;bSI;bSHI;bZI;bZHI;bCI;bJI;bNJI;bYI;bKI;bNGGI;bGI;bMI;bNI;bNYI;bA;bAN;bNGAN;bHA;bHAN;bWA;
bWAN;bPA;bBHA;bBA;bMBA;bKPA;bKPAN;bMGBA;bGBA;bFA;bVA;bTA;bTHA;bDHA;bDHHA;bLA;bRA;bDA;bNDA;bSA;
bSHA;bZA;bZHA;bCA;bJA;bNJA;bYA;bKA;bKAN;bNGGA;bGA;bMA;bNA;bNYA;bOO;bOON;bHOO;bWOO;bWOON;bPOO;
bBHOO;bBOO;bMBOO;bKPOO;bMGBOO;bGBOO;bFOO;bVOO;bTOO;bTHOO;bDHOO;bDHHOO;bLOO;bROO;bDOO;bNDOO;bSOO;
bSHOO;bZOO;bZHOO;bCOO;bJOO;bNJOO;bYOO;bKOO;bNGGOO;bGOO;bMOO;bNOO;bNYOO;bU;bUN;bHU;bHUN;bWU;bWUN;
bPU;bBHU;bBU;bMBU;bKPU;bMGBU;bGBU;bFU;bVU;bTU;bTHU;bDHU;bDHHU;bLU;bRU;bDU;bNDU;bSU;bSHU;bZU;bZHU;
bCU;bJU;bNJU;bYU;bKU;bNGGU;bGU;bMU;bNU;bNYU;bO;bON;bNGON;bHO;bHON;bWO;bWON;bPO;bBHO;bBO;bMBO;bKPO;
bMGBO;bGBO;bGBON;bFO;bVO;bTO;bTHO;bDHO;bDHHO;bLO;bRO;bDO;bNDO;bSO;bSHO;bZO;bZHO;bCO;bJO;bNJO;bYO;
bKO;bNGGO;bGO;bMO;bNO;bNYO;bE;bEN;bNGEN;bHE;bHEN;bWE;bWEN;bPE;bBHE;bBE;bMBE;bKPE;bKPEN;bMGBE;bGBE;
bGBEN;bFE;bVE;bTE;bTHE;bDHE;bDHHE;bLE;bRE;bDE;bNDE;bSE;bSHE;bZE;bZHE;bCE;bJE;bNJE;bYE;bKE;bNGGE;
bNGGEN;bGE;bGEN;bME;bNE;bNYE;bNG;bLENGTHENER;aCOMMA;aFULL STOP;aQUESTION MARK;aSYLLABLE NDOLE FA;
cKA;cSOO;aSYMBOL FEENG;bKEENG;bTING;bNII;bBANG;bFAA;bTAA;bDANG;bDOONG;bKUNG;bTONG;bDO-O;bJONG;
aDIGIT ZERO;bONE;bTWO;bTHREE;bFOUR;bFIVE;bSIX;bSEVEN;bEIGHT;bNINE;aSYLLABLE NDOLE MA;cDO;
A640=CYRILLIC CAPITAL LETTER ZEMLYA;aSMALL LETTER ZEMLYA;aCAPITAL LETTER DZELO;
aSMALL LETTER DZELO;aCAPITAL LETTER REVERSED DZE;aSMALL LETTER REVERSED DZE;aCAPITAL LETTER IOTA;
aSMALL LETTER IOTA;aCAPITAL LETTER DJERV;aSMALL LETTER DJERV;aCAPITAL LETTER MONOGRAPH UK;
aSMALL LETTER MONOGRAPH UK;aCAPITAL LETTER BROAD OMEGA;aSMALL LETTER BROAD OMEGA;
aCAPITAL LETTER NEUTRAL YER;aSMALL LETTER NEUTRAL YER;aCAPITAL LETTER YERU WITH BACK YER;
aSMALL LETTER YERU WITH BACK YER;aCAPITAL LETTER IOTIFIED YAT;aSMALL LETTER IOTIFIED YAT;
aCAPITAL LETTER REVERSED YU;aSMALL LETTER REVERSED YU;aCAPITAL LETTER IOTIFIED A;
aSMALL LETTER IOTIFIED A;aCAPITAL LETTER CLOSED LITTLE YUS;aSMALL LETTER CLOSED LITTLE YUS;
aCAPITAL LETTER BLENDED YUS;aSMALL LETTER BLENDED YUS;aCAPITAL LETTER IOTIFIED CLOSED LITTLE YUS;
aSMALL LETTER IOTIFIED CLOSED LITTLE YUS;aCAPITAL LETTER YN;aSMALL LETTER YN;
aCAPITAL LETTER REVERSED TSE;aSMALL LETTER REVERSED TSE;aCAPITAL LETTER SOFT DE;
aSMALL LETTER SOFT DE;aCAPITAL LETTER SOFT EL;aSMALL LETTER SOFT EL;aCAPITAL LETTER SOFT EM;
aSMALL LETTER SOFT EM;aCAPITAL LETTER MONOCULAR O;aSMALL LETTER MONOCULAR O;
aCAPITAL LETTER BINOCULAR O;aSMALL LETTER BINOCULAR O;aCAPITAL LETTER DOUBLE MONOCULAR O;
aSMALL LETTER DOUBLE MONOCULAR O;aLETTER MULTIOCULAR O;COMBINING CYRILLIC VZMET;
bTEN MILLIONS SIGN;bHUNDRED MILLIONS SIGN;bTHOUSAND MILLIONS SIGN;SLAVONIC ASTERISK;
COMBINING CYRILLIC LETTER UKRAINIAN IE;cI;cYI;cU;cHARD SIGN;cYERU;cSOFT SIGN;cOMEGA;bKAVYKA;
bPAYEROK;CYRILLIC KAVYKA;aPAYEROK;aCAPITAL LETTER DWE;aSMALL LETTER DWE;aCAPITAL LETTER DZWE;
aSMALL LETTER DZWE;aCAPITAL LETTER ZHWE;aSMALL LETTER ZHWE;aCAPITAL LETTER CCHE;
aSMALL LETTER CCHE;aCAPITAL LETTER DZZE;aSMALL LETTER DZZE;aCAPITAL LETTER TE WITH MIDDLE HOOK;
aSMALL LETTER TE WITH MIDDLE HOOK;aCAPITAL LETTER TWE;aSMALL LETTER TWE;aCAPITAL LETTER TSWE;
aSMALL LETTER TSWE;aCAPITAL LETTER TSSE;aSMALL LETTER TSSE;aCAPITAL LETTER TCHE;
aSMALL LETTER TCHE;aCAPITAL LETTER HWE;aSMALL LETTER HWE;aCAPITAL LETTER SHWE;aSMALL LETTER SHWE;
aCAPITAL LETTER DOUBLE O;aSMALL LETTER DOUBLE O;aCAPITAL LETTER CROSSED O;aSMALL LETTER CROSSED O;
MODIFIER LETTER CYRILLIC HARD SIGN;cSOFT SIGN;COMBINING CYRILLIC LETTER EF;cIOTIFIED E;
BAMUM LETTER A;bKA;bU;bKU;bEE;bREE;bTAE;bO;bNYI;bI;bLA;bPA;bRII;bRIEE;bLEEEE;bMEEEE;bTAA;bNDAA;
bNJAEM;bM;bSUU;bMU;bSHII;bSI;bSHEUX;bSEUX;bKYEE;bKET;bNUAE;bNU;bNJUAE;bYOQ;bSHU;bYUQ;bYA;bNSHA;
bKEUX;bPEUX;bNJEE;bNTEE;bPUE;bWUE;bPEE;bFEE;bRU;bLU;bMI;bNI;bREUX;bRAE;bKEN;bNGKWAEN;bNGGA;bNGA;
bSHO;bPUAE;bFU;bFOM;bWA;bNA;bLI;bPI;bLOQ;bKO;bMBEN;bREN;bMEN;bMA;bTI;bKI;bMO;bMBAA;bTET;bKPA;bTEN;
bNTUU;bSAMBA;bFAAMAE;bKOVUU;bKOGHOM;aCOMBINING MARK KOQNDON;cTUKWENTIS;aNJAEMLI;aFULL STOP;aCOLON;
aCOMMA;aSEMICOLON;aQUESTION MARK;A700=MODIFIER LETTER CHINESE TONE YIN PING;dYANG PING;dYIN SHANG;
dYANG SHANG;dYIN QU;dYANG QU;dYIN RU;dYANG RU;bEXTRA-HIGH DOTTED TONE BAR;bHIGH DOTTED TONE BAR;
bMID DOTTED TONE BAR;bLOW DOTTED TONE BAR;bEXTRA-LOW DOTTED TONE BAR;
bEXTRA-HIGH DOTTED LEFT-STEM TONE BAR;bHIGH DOTTED LEFT-STEM TONE BAR;
bMID DOTTED LEFT-STEM TONE BAR;bLOW DOTTED LEFT-STEM TONE BAR;
bEXTRA-LOW DOTTED LEFT-STEM TONE BAR;bEXTRA-HIGH LEFT-STEM TONE BAR;bHIGH LEFT-STEM TONE BAR;
bMID LEFT-STEM TONE BAR;bLOW LEFT-STEM TONE BAR;bEXTRA-LOW LEFT-STEM TONE BAR;bDOT VERTICAL BAR;
cSLASH;cHORIZONTAL BAR;bLOWER RIGHT CORNER ANGLE;bRAISED UP ARROW;cDOWN ARROW;cEXCLAMATION MARK;
cINVERTED EXCLAMATION MARK;bLOW INVERTED EXCLAMATION MARK;bSTRESS AND HIGH TONE;dLOW TONE;
LATIN CAPITAL LETTER EGYPTOLOGICAL ALEF;aSMALL LETTER EGYPTOLOGICAL ALEF;
aCAPITAL LETTER EGYPTOLOGICAL AIN;aSMALL LETTER EGYPTOLOGICAL AIN;aCAPITAL LETTER HENG;
aSMALL LETTER HENG;aCAPITAL LETTER TZ;aSMALL LETTER TZ;aCAPITAL LETTER TRESILLO;
aSMALL LETTER TRESILLO;aCAPITAL LETTER CUATRILLO;aSMALL LETTER CUATRILLO;
aCAPITAL LETTER CUATRILLO WITH COMMA;aSMALL LETTER CUATRILLO WITH COMMA;aLETTER SMALL CAPITAL F;
dS;aCAPITAL LETTER AA;aSMALL LETTER AA;aCAPITAL LETTER AO;aSMALL LETTER AO;aCAPITAL LETTER AU;
aSMALL LETTER AU;aCAPITAL LETTER AV;aSMALL LETTER AV;aCAPITAL LETTER AV WITH HORIZONTAL BAR;
aSMALL LETTER AV WITH HORIZONTAL BAR;aCAPITAL LETTER AY;aSMALL LETTER AY;
aCAPITAL LETTER REVERSED C WITH DOT;aSMALL LETTER REVERSED C WITH DOT;
aCAPITAL LETTER K WITH STROKE;aSMALL LETTER K WITH STROKE;aCAPITAL LETTER K WITH DIAGONAL STROKE;
aSMALL LETTER K WITH DIAGONAL STROKE;aCAPITAL LETTER K WITH STROKE AND DIAGONAL STROKE;
aSMALL LETTER K WITH STROKE AND DIAGONAL STROKE;aCAPITAL LETTER BROKEN L;aSMALL LETTER BROKEN L;
aCAPITAL LETTER L WITH HIGH STROKE;aSMALL LETTER L WITH HIGH STROKE;
aCAPITAL LETTER O WITH LONG STROKE OVERLAY;aSMALL LETTER O WITH LONG STROKE OVERLAY;
aCAPITAL LETTER O WITH LOOP;aSMALL LETTER O WITH LOOP;aCAPITAL LETTER OO;aSMALL LETTER OO;
aCAPITAL LETTER P WITH STROKE THROUGH DESCENDER;aSMALL LETTER P WITH STROKE THROUGH DESCENDER;
aCAPITAL LETTER P WITH FLOURISH;aSMALL LETTER P WITH FLOURISH;
aCAPITAL LETTER P WITH SQUIRREL TAIL;aSMALL LETTER P WITH SQUIRREL TAIL;
aCAPITAL LETTER Q WITH STROKE THROUGH DESCENDER;aSMALL LETTER Q WITH STROKE THROUGH DESCENDER;
aCAPITAL LETTER Q WITH DIAGONAL STROKE;aSMALL LETTER Q WITH DIAGONAL STROKE;
aCAPITAL LETTER R ROTUNDA;aSMALL LETTER R ROTUNDA;aCAPITAL LETTER RUM ROTUNDA;
aSMALL LETTER RUM ROTUNDA;aCAPITAL LETTER V WITH DIAGONAL STROKE;
aSMALL LETTER V WITH DIAGONAL STROKE;aCAPITAL LETTER VY;aSMALL LETTER VY;
aCAPITAL LETTER VISIGOTHIC Z;aSMALL LETTER VISIGOTHIC Z;aCAPITAL LETTER THORN WITH STROKE;
aSMALL LETTER THORN WITH STROKE;aCAPITAL LETTER THORN WITH STROKE THROUGH DESCENDER;
aSMALL LETTER THORN WITH STROKE THROUGH DESCENDER;aCAPITAL LETTER VEND;aSMALL LETTER VEND;
aCAPITAL LETTER ET;aSMALL LETTER ET;aCAPITAL LETTER IS;aSMALL LETTER IS;aCAPITAL LETTER CON;
aSMALL LETTER CON;MODIFIER LETTER US;LATIN SMALL LETTER DUM;cLUM;cMUM;cNUM;cRUM;
aLETTER SMALL CAPITAL RUM;aSMALL LETTER TUM;cUM;aCAPITAL LETTER INSULAR D;aSMALL LETTER INSULAR D;
aCAPITAL LETTER INSULAR F;aSMALL LETTER INSULAR F;aCAPITAL LETTER INSULAR G;cTURNED INSULAR G;
aSMALL LETTER TURNED INSULAR G;aCAPITAL LETTER TURNED L;aSMALL LETTER TURNED L;
aCAPITAL LETTER INSULAR R;aSMALL LETTER INSULAR R;aCAPITAL LETTER INSULAR S;
aSMALL LETTER INSULAR S;aCAPITAL LETTER INSULAR T;aSMALL LETTER INSULAR T;
MODIFIER LETTER LOW CIRCUMFLEX ACCENT;bCOLON;bSHORT EQUALS SIGN;LATIN CAPITAL LETTER SALTILLO;
aSMALL LETTER SALTILLO;aCAPITAL LETTER TURNED H;aSMALL LETTER L WITH RETROFLEX HOOK AND BELT;
aLETTER SINOLOGICAL DOT;aCAPITAL LETTER N WITH DESCENDER;aSMALL LETTER N WITH DESCENDER;
aCAPITAL LETTER C WITH BAR;aSMALL LETTER C WITH BAR;ePALATAL HOOK;cH WITH PALATAL HOOK;
aCAPITAL LETTER B WITH FLOURISH;aSMALL LETTER B WITH FLOURISH;aCAPITAL LETTER F WITH STROKE;
aSMALL LETTER F WITH STROKE;aCAPITAL LETTER VOLAPUK AE;aSMALL LETTER VOLAPUK AE;
aCAPITAL LETTER VOLAPUK OE;aSMALL LETTER VOLAPUK OE;aCAPITAL LETTER VOLAPUK UE;
aSMALL LETTER VOLAPUK UE;aCAPITAL LETTER G WITH OBLIQUE STROKE;
aSMALL LETTER G WITH OBLIQUE STROKE;aCAPITAL LETTER K WITH OBLIQUE STROKE;
aSMALL LETTER K WITH OBLIQUE STROKE;aCAPITAL LETTER N WITH OBLIQUE STROKE;
aSMALL LETTER N WITH OBLIQUE STROKE;aCAPITAL LETTER R WITH OBLIQUE STROKE;
aSMALL LETTER R WITH OBLIQUE STROKE;aCAPITAL LETTER S WITH OBLIQUE STROKE;
aSMALL LETTER S WITH OBLIQUE STROKE;aCAPITAL LETTER H WITH HOOK;cREVERSED OPEN E;cSCRIPT G;
cL WITH BELT;cSMALL CAPITAL I;aLETTER SMALL CAPITAL Q;aCAPITAL LETTER TURNED K;dT;
cJ WITH CROSSED-TAIL;cCHI;cBETA;aSMALL LETTER BETA;aCAPITAL LETTER OMEGA;aSMALL LETTER OMEGA;
aCAPITAL LETTER U WITH STROKE;aSMALL LETTER U WITH STROKE;aCAPITAL LETTER GLOTTAL A;
aSMALL LETTER GLOTTAL A;aCAPITAL LETTER GLOTTAL I;aSMALL LETTER GLOTTAL I;
aCAPITAL LETTER GLOTTAL U;aSMALL LETTER GLOTTAL U;aCAPITAL LETTER OLD POLISH O;
aSMALL LETTER OLD POLISH O;aCAPITAL LETTER ANGLICANA W;aSMALL LETTER ANGLICANA W;
aCAPITAL LETTER C WITH PALATAL HOOK;cS WITH HOOK;cZ WITH PALATAL HOOK;
cD WITH SHORT STROKE OVERLAY;aSMALL LETTER D WITH SHORT STROKE OVERLAY;
aCAPITAL LETTER S WITH SHORT STROKE OVERLAY;aSMALL LETTER S WITH SHORT STROKE OVERLAY;
A7D0=aCAPITAL LETTER CLOSED INSULAR G;aSMALL LETTER CLOSED INSULAR G;A7D3=cDOUBLE THORN;
A7D5=dWYNN;aCAPITAL LETTER MIDDLE SCOTS S;aSMALL LETTER MIDDLE SCOTS S;aCAPITAL LETTER SIGMOID S;
aSMALL LETTER SIGMOID S;A7F2=MODIFIER LETTER CAPITAL C;cF;cQ;LATIN CAPITAL LETTER REVERSED HALF H;
aSMALL LETTER REVERSED HALF H;aEPIGRAPHIC LETTER SIDEWAYS I;MODIFIER LETTER CAPITAL H WITH STROKE;
bSMALL LIGATURE OE;LATIN LETTER SMALL CAPITAL TURNED M;aEPIGRAPHIC LETTER REVERSED F;dP;
cINVERTED M;cI LONGA;cARCHAIC M;SYLOTI NAGRI LETTER A;cI;bSIGN DVISVARA;bLETTER U;cE;cO;
bSIGN HASANTA;bLETTER KO;cKHO;cGO;cGHO;bSIGN ANUSVARA;bLETTER CO;cCHO;cJO;cJHO;cTTO;cTTHO;cDDO;
cDDHO;cTO;cTHO;cDO;cDHO;cNO;cPO;cPHO;cBO;cBHO;cMO;cRO;cLO;cRRO;cSO;cHO;bVOWEL SIGN A;dI;dU;dE;dOO;
bPOETRY MARK-1;cMARK-2;cMARK-3;cMARK-4;bSIGN ALTERNATE HASANTA;
A830=NORTH INDIC FRACTION ONE QUARTER;dHALF;cTHREE QUARTERS;cONE SIXTEENTH;dEIGHTH;
cTHREE SIXTEENTHS;bQUARTER MARK;bPLACEHOLDER MARK;bRUPEE MARK;bQUANTITY MARK;
A840=PHAGS-PA LETTER KA;bKHA;bGA;bNGA;bCA;bCHA;bJA;bNYA;bTA;bTHA;bDA;bNA;bPA;bPHA;bBA;bMA;bTSA;
bTSHA;bDZA;bWA;bZHA;bZA;bSMALL A;bYA;bRA;bLA;bSHA;bSA;bHA;bA;bI;bU;bE;bO;bQA;bXA;bFA;bGGA;bEE;
aSUBJOINED LETTER WA;cYA;aLETTER TTA;bTTHA;bDDA;bNNA;bALTERNATE YA;bVOICELESS SHA;bVOICED HA;
bASPIRATED FA;aSUBJOINED LETTER RA;aSUPERFIXED LETTER RA;aLETTER CANDRABINDU;aSINGLE HEAD MARK;
aDOUBLE HEAD MARK;aMARK SHAD;bDOUBLE SHAD;A880=SAURASHTRA SIGN ANUSVARA;bVISARGA;aLETTER A;bAA;bI;
bII;bU;bUU;bVOCALIC R;cRR;cL;cLL;bE;bEE;bAI;bO;bOO;bAU;bKA;bKHA;bGA;bGHA;bNGA;bCA;bCHA;bJA;bJHA;
bNYA;bTTA;bTTHA;bDDA;bDDHA;bNNA;bTA;bTHA;bDA;bDHA;bNA;bPA;bPHA;bBA;bBHA;bMA;bYA;bRA;bLA;bVA;bSHA;
bSSA;bSA;bHA;bLLA;aCONSONANT SIGN HAARU;aVOWEL SIGN AA;cI;cII;cU;cUU;cVOCALIC R;dRR;dL;dLL;cE;cEE;
cAI;cO;cOO;cAU;aSIGN VIRAMA;bCANDRABINDU;A8CE=aDANDA;aDOUBLE DANDA;aDIGIT ZERO;bONE;bTWO;bTHREE;
bFOUR;bFIVE;bSIX;bSEVEN;bEIGHT;bNINE;A8E0=COMBINING DEVANAGARI DIGIT ZERO;cONE;cTWO;cTHREE;cFOUR;
cFIVE;cSIX;cSEVEN;cEIGHT;cNINE;bLETTER A;cU;cKA;cNA;cPA;cRA;cVI;bSIGN AVAGRAHA;
DEVANAGARI SIGN SPACING CANDRABINDU;bCANDRABINDU VIRAMA;bDOUBLE CANDRABINDU VIRAMA;
bCANDRABINDU TWO;cTHREE;cAVAGRAHA;bPUSHPIKA;aGAP FILLER;aCARET;aHEADSTROKE;aSIGN SIDDHAM;aJAIN OM;
aLETTER AY;aVOWEL SIGN AY;KAYAH LI DIGIT ZERO;cONE;cTWO;cTHREE;cFOUR;cFIVE;cSIX;cSEVEN;cEIGHT;
cNINE;bLETTER KA;cKHA;cGA;cNGA;cSA;cSHA;cZA;cNYA;cTA;cHTA;cNA;cPA;cPHA;cMA;cDA;cBA;cRA;cYA;cLA;
cWA;cTHA;cHA;cVA;cCA;cA;cOE;cI;cOO;bVOWEL UE;cE;cU;cEE;cO;bTONE PLOPHU;cCALYA;dPLOPHU;bSIGN CWI;
cSHYA;REJANG LETTER KA;bGA;bNGA;bTA;bDA;bNA;bPA;bBA;bMA;bCA;bJA;bNYA;bSA;bRA;bLA;bYA;bWA;bHA;bMBA;
bNGGA;bNDA;bNYJA;bA;aVOWEL SIGN I;cU;cE;cAI;cO;cAU;cEU;cEA;aCONSONANT SIGN NG;cN;cR;cH;aVIRAMA;
A95F=aSECTION MARK;HANGUL CHOSEONG TIKEUT-MIEUM;bTIKEUT-PIEUP;bTIKEUT-SIOS;bTIKEUT-CIEUC;
bRIEUL-KIYEOK;bRIEUL-SSANGKIYEOK;bRIEUL-TIKEUT;bRIEUL-SSANGTIKEUT;bRIEUL-MIEUM;bRIEUL-PIEUP;
bRIEUL-SSANGPIEUP;bRIEUL-KAPYEOUNPIEUP;bRIEUL-SIOS;bRIEUL-CIEUC;bRIEUL-KHIEUKH;bMIEUM-KIYEOK;
bMIEUM-TIKEUT;bMIEUM-SIOS;bPIEUP-SIOS-THIEUTH;bPIEUP-KHIEUKH;bPIEUP-HIEUH;bSSANGSIOS-PIEUP;
bIEUNG-RIEUL;bIEUNG-HIEUH;bSSANGCIEUC-HIEUH;bSSANGTHIEUTH;bPHIEUPH-HIEUH;bHIEUH-SIOS;
bSSANGYEORINHIEUH;A980=JAVANESE SIGN PANYANGGA;bCECAK;bLAYAR;bWIGNYAN;aLETTER A;bI KAWI;c;bII;bU;
bPA CEREK;bNGA LELET;dRASWADI;bE;bAI;bO;bKA;cSASAK;cMURDA;bGA;cMURDA;bNGA;bCA;cMURDA;bJA;
bNYA MURDA;bJA MAHAPRANA;bNYA;bTTA;cMAHAPRANA;bDDA;cMAHAPRANA;bNA MURDA;bTA;cMURDA;bDA;cMAHAPRANA;
bNA;bPA;cMURDA;bBA;cMURDA;bMA;bYA;bRA;cAGUNG;bLA;bWA;bSA MURDA;cMAHAPRANA;c;bHA;aSIGN CECAK TELU;
aVOWEL SIGN TARUNG;cTOLONG;cWULU;dMELIK;cSUKU;dMENDUT;cTALING;cDIRGA MURE;cPEPET;
aCONSONANT SIGN KERET;cPENGKAL;cCAKRA;aPANGKON;aLEFT RERENGGAN;aRIGHT RERENGGAN;aPADA ANDAP;
bMADYA;bLUHUR;bWINDU;bPANGKAT;bLINGSA;bLUNGSI;bADEG;cADEG;bPISELEH;aTURNED PADA PISELEH;
A9CF=aPANGRANGKEP;aDIGIT ZERO;bONE;bTWO;bTHREE;bFOUR;bFIVE;bSIX;bSEVEN;bEIGHT;bNINE;
A9DE=aPADA TIRTA TUMETES;bISEN-ISEN;MYANMAR LETTER SHAN GHA;cCHA;cJHA;cNNA;cBHA;aSIGN SHAN SAW;
aMODIFIER LETTER SHAN REDUPLICATION;aLETTER TAI LAING NYA;dFA;dGA;dGHA;dJA;dJHA;dDDA;dDDHA;dNNA;
aTAI LAING DIGIT ZERO;dONE;dTWO;dTHREE;dFOUR;dFIVE;dSIX;dSEVEN;dEIGHT;dNINE;aLETTER TAI LAING LLA;
dDA;dDHA;dBA;dBHA;AA00=CHAM LETTER A;bI;bU;bE;bAI;bO;bKA;bKHA;bGA;bGHA;bNGUE;bNGA;bCHA;bCHHA;bJA;
bJHA;bNHUE;bNHA;bNHJA;bTA;bTHA;bDA;bDHA;bNUE;bNA;bDDA;bPA;bPPA;bPHA;bBA;bBHA;bMUE;bMA;bBBA;bYA;
bRA;bLA;bVA;bSSA;bSA;bHA;aVOWEL SIGN AA;cI;cII;cEI;cU;cOE;cO;cAI;cAU;cUE;aCONSONANT SIGN YA;cRA;
cLA;cWA;AA40=aLETTER FINAL K;cG;cNG;aCONSONANT SIGN FINAL NG;aLETTER FINAL CH;cT;cN;cP;cY;cR;cL;
cSS;aCONSONANT SIGN FINAL M;dH;AA50=aDIGIT ZERO;bONE;bTWO;bTHREE;bFOUR;bFIVE;bSIX;bSEVEN;bEIGHT;
bNINE;AA5C=aPUNCTUATION SPIRAL;bDANDA;bDOUBLE DANDA;bTRIPLE DANDA;MYANMAR LETTER KHAMTI GA;cCA;
cCHA;cJA;cJHA;cNYA;cTTA;cTTHA;cDDA;cDDHA;cDHA;cNA;cSA;cHA;cHHA;cFA;
aMODIFIER LETTER KHAMTI REDUPLICATION;aLETTER KHAMTI XA;cZA;cRA;aLOGOGRAM KHAMTI OAY;cQN;cHM;
aSYMBOL AITON EXCLAMATION;cONE;cTWO;aLETTER AITON RA;aSIGN PAO KAREN TONE;bTAI LAING TONE-2;
dTONE-5;aLETTER SHWE PALAUNG CHA;dSHA;TAI VIET LETTER LOW KO;cHIGH KO;cLOW KHO;cHIGH KHO;
cLOW KHHO;cHIGH KHHO;cLOW GO;cHIGH GO;cLOW NGO;cHIGH NGO;cLOW CO;cHIGH CO;cLOW CHO;cHIGH CHO;
cLOW SO;cHIGH SO;cLOW NYO;cHIGH NYO;cLOW DO;cHIGH DO;cLOW TO;cHIGH TO;cLOW THO;cHIGH THO;cLOW NO;
cHIGH NO;cLOW BO;cHIGH BO;cLOW PO;cHIGH PO;cLOW PHO;cHIGH PHO;cLOW FO;cHIGH FO;cLOW MO;cHIGH MO;
cLOW YO;cHIGH YO;cLOW RO;cHIGH RO;cLOW LO;cHIGH LO;cLOW VO;cHIGH VO;cLOW HO;cHIGH HO;cLOW O;
cHIGH O;bMAI KANG;bVOWEL AA;cI;cUE;cU;cE;cO;bMAI KHIT;bVOWEL IA;cUEA;cUA;cAUE;cAY;cAN;cAM;
bTONE MAI EK;dNUENG;dTHO;dSONG;AADB=bSYMBOL KON;cNUENG;cSAM;cHO HOI;cKOI KOI;
MEETEI MAYEK LETTER E;cO;cCHA;cNYA;cTTA;cTTHA;cDDA;cDDHA;cNNA;cSHA;cSSA;bVOWEL SIGN II;dUU;dAAI;
dAU;dAAU;bCHEIKHAN;bAHANG KHUDAM;bANJI;bSYLLABLE REPETITION MARK;bWORD REPETITION MARK;
bVOWEL SIGN VISARGA;bVIRAMA;AB01=ETHIOPIC SYLLABLE TTHU;bTTHI;bTTHAA;bTTHEE;bTTHE;bTTHO;
AB09=bDDHU;bDDHI;bDDHAA;bDDHEE;bDDHE;bDDHO;AB11=bDZU;bDZI;bDZAA;bDZEE;bDZE;bDZO;AB20=bCCHHA;
bCCHHU;bCCHHI;bCCHHAA;bCCHHEE;bCCHHE;bCCHHO;AB28=bBBA;bBBU;bBBI;bBBAA;bBBEE;bBBE;bBBO;
AB30=LATIN SMALL LETTER BARRED ALPHA;cA REVERSED-SCHWA;cBLACKLETTER E;cBARRED E;cE WITH FLOURISH;
cLENIS F;cSCRIPT G WITH CROSSED-TAIL;cL WITH INVERTED LAZY S;eDOUBLE MIDDLE TILDE;eMIDDLE RING;
cM WITH CROSSED-TAIL;cN WITH CROSSED-TAIL;cENG WITH CROSSED-TAIL;cBLACKLETTER O;eWITH STROKE;
cOPEN O WITH STROKE;cINVERTED OE;cTURNED OE WITH STROKE;fHORIZONTAL STROKE;dO OPEN-O;fWITH STROKE;
cSTIRRUP R;aLETTER SMALL CAPITAL R WITH RIGHT LEG;aSMALL LETTER R WITHOUT HANDLE;cDOUBLE R;
cR WITH CROSSED-TAIL;cDOUBLE R WITH CROSSED-TAIL;cSCRIPT R;eWITH RING;cBASELINE ESH;
cU WITH SHORT RIGHT LEG;dBAR WITH SHORT RIGHT LEG;cUI;cTURNED UI;cU WITH LEFT HOOK;cCHI;
dWITH LOW RIGHT RING;fLEFT SERIF;cX WITH LOW RIGHT RING;eLONG LEFT LEG;hAND LOW RIGHT RING;
hWITH SERIF;cY WITH SHORT RIGHT LEG;MODIFIER BREVE WITH INVERTED BREVE;aLETTER SMALL HENG;
cL WITH INVERTED LAZY S;eMIDDLE TILDE;cU WITH LEFT HOOK;LATIN SMALL LETTER SAKHA YAT;cIOTIFIED E;
cOPEN OE;cUO;cINVERTED ALPHA;GREEK LETTER SMALL CAPITAL OMEGA;
LATIN SMALL LETTER DZ DIGRAPH WITH RETROFLEX HOOK;cTS DIGRAPH WITH RETROFLEX HOOK;
cTURNED R WITH MIDDLE TILDE;MODIFIER LETTER SMALL TURNED W;bLEFT TACK;bRIGHT TACK;
AB70=CHEROKEE SMALL LETTER A;cE;cI;cO;cU;cV;cGA;cKA;cGE;cGI;cGO;cGU;cGV;cHA;cHE;cHI;cHO;cHU;cHV;
cLA;cLE;cLI;cLO;cLU;cLV;cMA;cME;cMI;cMO;cMU;cNA;cHNA;cNAH;cNE;cNI;cNO;cNU;cNV;cQUA;cQUE;cQUI;cQUO;
cQUU;cQUV;cSA;cS;cSE;cSI;cSO;cSU;cSV;cDA;cTA;cDE;cTE;cDI;cTI;cDO;cDU;cDV;cDLA;cTLA;cTLE;cTLI;cTLO;
cTLU;cTLV;cTSA;cTSE;cTSI;cTSO;cTSU;cTSV;cWA;cWE;cWI;cWO;cWU;cWV;cYA;MEETEI MAYEK LETTER KOK;cSAM;
cLAI;cMIT;cPA;cNA;cCHIL;cTIL;cKHOU;cNGOU;cTHOU;cWAI;cYANG;cHUK;cUN;cI;cPHAM;cATIYA;cGOK;cJHAM;
cRAI;cBA;cJIL;cDIL;cGHOU;cDHOU;cBHAM;cKOK LONSUM;cLAI LONSUM;cMIT LONSUM;cPA LONSUM;cNA LONSUM;
cTIL LONSUM;cNGOU LONSUM;cI LONSUM;bVOWEL SIGN ONAP;dINAP;dANAP;dYENAP;dSOUNAP;dUNAP;dCHEINAP;
dNUNG;bCHEIKHEI;bLUM IYEK;bAPUN IYEK;ABF0=bDIGIT ZERO;cONE;cTWO;cTHREE;cFOUR;cFIVE;cSIX;cSEVEN;
cEIGHT;cNINE;D7B0=HANGUL JUNGSEONG O-YEO;bO-O-I;bYO-A;bYO-AE;bYO-EO;bU-YEO;bU-I-I;bYU-AE;bYU-O;
bEU-A;bEU-EO;bEU-E;bEU-O;bI-YA-O;bI-YAE;bI-YEO;bI-YE;bI-O-I;bI-YO;bI-YU;bI-I;bARAEA-A;bARAEA-E;
D7CB=aJONGSEONG NIEUN-RIEUL;bNIEUN-CHIEUCH;bSSANGTIKEUT;bSSANGTIKEUT-PIEUP;bTIKEUT-PIEUP;
bTIKEUT-SIOS;bTIKEUT-SIOS-KIYEOK;bTIKEUT-CIEUC;bTIKEUT-CHIEUCH;bTIKEUT-THIEUTH;bRIEUL-SSANGKIYEOK;
bRIEUL-KIYEOK-HIEUH;bSSANGRIEUL-KHIEUKH;bRIEUL-MIEUM-HIEUH;bRIEUL-PIEUP-TIKEUT;
bRIEUL-PIEUP-PHIEUPH;bRIEUL-YESIEUNG;bRIEUL-YEORINHIEUH-HIEUH;bKAPYEOUNRIEUL;bMIEUM-NIEUN;
bMIEUM-SSANGNIEUN;bSSANGMIEUM;bMIEUM-PIEUP-SIOS;bMIEUM-CIEUC;bPIEUP-TIKEUT;bPIEUP-RIEUL-PHIEUPH;
bPIEUP-MIEUM;bSSANGPIEUP;bPIEUP-SIOS-TIKEUT;bPIEUP-CIEUC;bPIEUP-CHIEUCH;bSIOS-MIEUM;
bSIOS-KAPYEOUNPIEUP;bSSANGSIOS-KIYEOK;bSSANGSIOS-TIKEUT;bSIOS-PANSIOS;bSIOS-CIEUC;bSIOS-CHIEUCH;
bSIOS-THIEUTH;bSIOS-HIEUH;bPANSIOS-PIEUP;bPANSIOS-KAPYEOUNPIEUP;bYESIEUNG-MIEUM;bYESIEUNG-HIEUH;
bCIEUC-PIEUP;bCIEUC-SSANGPIEUP;bSSANGCIEUC;bPHIEUPH-SIOS;bPHIEUPH-THIEUTH;
F900=CJK COMPATIBILITY IDEOGRAPH-F900;bIDEOGRAPH-F901;bIDEOGRAPH-F902;bIDEOGRAPH-F903;
bIDEOGRAPH-F904;bIDEOGRAPH-F905;bIDEOGRAPH-F906;bIDEOGRAPH-F907;bIDEOGRAPH-F908;bIDEOGRAPH-F909;
bIDEOGRAPH-F90A;bIDEOGRAPH-F90B;bIDEOGRAPH-F90C;bIDEOGRAPH-F90D;bIDEOGRAPH-F90E;bIDEOGRAPH-F90F;
bIDEOGRAPH-F910;bIDEOGRAPH-F911;bIDEOGRAPH-F912;bIDEOGRAPH-F913;bIDEOGRAPH-F914;bIDEOGRAPH-F915;
bIDEOGRAPH-F916;bIDEOGRAPH-F917;bIDEOGRAPH-F918;bIDEOGRAPH-F919;bIDEOGRAPH-F91A;bIDEOGRAPH-F91B;
bIDEOGRAPH-F91C;bIDEOGRAPH-F91D;bIDEOGRAPH-F91E;bIDEOGRAPH-F91F;bIDEOGRAPH-F920;bIDEOGRAPH-F921;
bIDEOGRAPH-F922;bIDEOGRAPH-F923;bIDEOGRAPH-F924;bIDEOGRAPH-F925;bIDEOGRAPH-F926;bIDEOGRAPH-F927;
bIDEOGRAPH-F928;bIDEOGRAPH-F929;bIDEOGRAPH-F92A;bIDEOGRAPH-F92B;bIDEOGRAPH-F92C;bIDEOGRAPH-F92D;
bIDEOGRAPH-F92E;bIDEOGRAPH-F92F;bIDEOGRAPH-F930;bIDEOGRAPH-F931;bIDEOGRAPH-F932;bIDEOGRAPH-F933;
bIDEOGRAPH-F934;bIDEOGRAPH-F935;bIDEOGRAPH-F936;bIDEOGRAPH-F937;bIDEOGRAPH-F938;bIDEOGRAPH-F939;
bIDEOGRAPH-F93A;bIDEOGRAPH-F93B;bIDEOGRAPH-F93C;bIDEOGRAPH-F93D;bIDEOGRAPH-F93E;bIDEOGRAPH-F93F;
bIDEOGRAPH-F940;bIDEOGRAPH-F941;bIDEOGRAPH-F942;bIDEOGRAPH-F943;bIDEOGRAPH-F944;bIDEOGRAPH-F945;
bIDEOGRAPH-F946;bIDEOGRAPH-F947;bIDEOGRAPH-F948;bIDEOGRAPH-F949;bIDEOGRAPH-F94A;bIDEOGRAPH-F94B;
bIDEOGRAPH-F94C;bIDEOGRAPH-F94D;bIDEOGRAPH-F94E;bIDEOGRAPH-F94F;bIDEOGRAPH-F950;bIDEOGRAPH-F951;
bIDEOGRAPH-F952;bIDEOGRAPH-F953;bIDEOGRAPH-F954;bIDEOGRAPH-F955;bIDEOGRAPH-F956;bIDEOGRAPH-F957;
bIDEOGRAPH-F958;bIDEOGRAPH-F959;bIDEOGRAPH-F95A;bIDEOGRAPH-F95B;bIDEOGRAPH-F95C;bIDEOGRAPH-F95D;
bIDEOGRAPH-F95E;bIDEOGRAPH-F95F;bIDEOGRAPH-F960;bIDEOGRAPH-F961;bIDEOGRAPH-F962;bIDEOGRAPH-F963;
bIDEOGRAPH-F964;bIDEOGRAPH-F965;bIDEOGRAPH-F966;bIDEOGRAPH-F967;bIDEOGRAPH-F968;bIDEOGRAPH-F969;
bIDEOGRAPH-F96A;bIDEOGRAPH-F96B;bIDEOGRAPH-F96C;bIDEOGRAPH-F96D;bIDEOGRAPH-F96E;bIDEOGRAPH-F96F;
bIDEOGRAPH-F970;bIDEOGRAPH-F971;bIDEOGRAPH-F972;bIDEOGRAPH-F973;bIDEOGRAPH-F974;bIDEOGRAPH-F975;
bIDEOGRAPH-F976;bIDEOGRAPH-F977;bIDEOGRAPH-F978;bIDEOGRAPH-F979;bIDEOGRAPH-F97A;bIDEOGRAPH-F97B;
bIDEOGRAPH-F97C;bIDEOGRAPH-F97D;bIDEOGRAPH-F97E;bIDEOGRAPH-F97F;bIDEOGRAPH-F980;bIDEOGRAPH-F981;
bIDEOGRAPH-F982;bIDEOGRAPH-F983;bIDEOGRAPH-F984;bIDEOGRAPH-F985;bIDEOGRAPH-F986;bIDEOGRAPH-F987;
bIDEOGRAPH-F988;bIDEOGRAPH-F989;bIDEOGRAPH-F98A;bIDEOGRAPH-F98B;bIDEOGRAPH-F98C;bIDEOGRAPH-F98D;
bIDEOGRAPH-F98E;bIDEOGRAPH-F98F;bIDEOGRAPH-F990;bIDEOGRAPH-F991;bIDEOGRAPH-F992;bIDEOGRAPH-F993;
bIDEOGRAPH-F994;bIDEOGRAPH-F995;bIDEOGRAPH-F996;bIDEOGRAPH-F997;bIDEOGRAPH-F998;bIDEOGRAPH-F999;
bIDEOGRAPH-F99A;bIDEOGRAPH-F99B;bIDEOGRAPH-F99C;bIDEOGRAPH-F99D;bIDEOGRAPH-F99E;bIDEOGRAPH-F99F;
bIDEOGRAPH-F9A0;bIDEOGRAPH-F9A1;bIDEOGRAPH-F9A2;bIDEOGRAPH-F9A3;bIDEOGRAPH-F9A4;bIDEOGRAPH-F9A5;
bIDEOGRAPH-F9A6;bIDEOGRAPH-F9A7;bIDEOGRAPH-F9A8;bIDEOGRAPH-F9A9;bIDEOGRAPH-F9AA;bIDEOGRAPH-F9AB;
bIDEOGRAPH-F9AC;bIDEOGRAPH-F9AD;bIDEOGRAPH-F9AE;bIDEOGRAPH-F9AF;bIDEOGRAPH-F9B0;bIDEOGRAPH-F9B1;
bIDEOGRAPH-F9B2;bIDEOGRAPH-F9B3;bIDEOGRAPH-F9B4;bIDEOGRAPH-F9B5;bIDEOGRAPH-F9B6;bIDEOGRAPH-F9B7;
bIDEOGRAPH-F9B8;bIDEOGRAPH-F9B9;bIDEOGRAPH-F9BA;bIDEOGRAPH-F9BB;bIDEOGRAPH-F9BC;bIDEOGRAPH-F9BD;
bIDEOGRAPH-F9BE;bIDEOGRAPH-F9BF;bIDEOGRAPH-F9C0;bIDEOGRAPH-F9C1;bIDEOGRAPH-F9C2;bIDEOGRAPH-F9C3;
bIDEOGRAPH-F9C4;bIDEOGRAPH-F9C5;bIDEOGRAPH-F9C6;bIDEOGRAPH-F9C7;bIDEOGRAPH-F9C8;bIDEOGRAPH-F9C9;
bIDEOGRAPH-F9CA;bIDEOGRAPH-F9CB;bIDEOGRAPH-F9CC;bIDEOGRAPH-F9CD;bIDEOGRAPH-F9CE;bIDEOGRAPH-F9CF;
bIDEOGRAPH-F9D0;bIDEOGRAPH-F9D1;bIDEOGRAPH-F9D2;bIDEOGRAPH-F9D3;bIDEOGRAPH-F9D4;bIDEOGRAPH-F9D5;
bIDEOGRAPH-F9D6;bIDEOGRAPH-F9D7;bIDEOGRAPH-F9D8;bIDEOGRAPH-F9D9;bIDEOGRAPH-F9DA;bIDEOGRAPH-F9DB;
bIDEOGRAPH-F9DC;bIDEOGRAPH-F9DD;bIDEOGRAPH-F9DE;bIDEOGRAPH-F9DF;bIDEOGRAPH-F9E0;bIDEOGRAPH-F9E1;
bIDEOGRAPH-F9E2;bIDEOGRAPH-F9E3;bIDEOGRAPH-F9E4;bIDEOGRAPH-F9E5;bIDEOGRAPH-F9E6;bIDEOGRAPH-F9E7;
bIDEOGRAPH-F9E8;bIDEOGRAPH-F9E9;bIDEOGRAPH-F9EA;bIDEOGRAPH-F9EB;bIDEOGRAPH-F9EC;bIDEOGRAPH-F9ED;
bIDEOGRAPH-F9EE;bIDEOGRAPH-F9EF;bIDEOGRAPH-F9F0;bIDEOGRAPH-F9F1;bIDEOGRAPH-F9F2;bIDEOGRAPH-F9F3;
bIDEOGRAPH-F9F4;bIDEOGRAPH-F9F5;bIDEOGRAPH-F9F6;bIDEOGRAPH-F9F7;bIDEOGRAPH-F9F8;bIDEOGRAPH-F9F9;
bIDEOGRAPH-F9FA;bIDEOGRAPH-F9FB;bIDEOGRAPH-F9FC;bIDEOGRAPH-F9FD;bIDEOGRAPH-F9FE;bIDEOGRAPH-F9FF;
bIDEOGRAPH-FA00;bIDEOGRAPH-FA01;bIDEOGRAPH-FA02;bIDEOGRAPH-FA03;bIDEOGRAPH-FA04;bIDEOGRAPH-FA05;
bIDEOGRAPH-FA06;bIDEOGRAPH-FA07;bIDEOGRAPH-FA08;bIDEOGRAPH-FA09;bIDEOGRAPH-FA0A;bIDEOGRAPH-FA0B;
bIDEOGRAPH-FA0C;bIDEOGRAPH-FA0D;bIDEOGRAPH-FA0E;bIDEOGRAPH-FA0F;bIDEOGRAPH-FA10;bIDEOGRAPH-FA11;
bIDEOGRAPH-FA12;bIDEOGRAPH-FA13;bIDEOGRAPH-FA14;bIDEOGRAPH-FA15;bIDEOGRAPH-FA16;bIDEOGRAPH-FA17;
bIDEOGRAPH-FA18;bIDEOGRAPH-FA19;bIDEOGRAPH-FA1A;bIDEOGRAPH-FA1B;bIDEOGRAPH-FA1C;bIDEOGRAPH-FA1D;
bIDEOGRAPH-FA1E;bIDEOGRAPH-FA1F;bIDEOGRAPH-FA20;bIDEOGRAPH-FA21;bIDEOGRAPH-FA22;bIDEOGRAPH-FA23;
bIDEOGRAPH-FA24;bIDEOGRAPH-FA25;bIDEOGRAPH-FA26;bIDEOGRAPH-FA27;bIDEOGRAPH-FA28;bIDEOGRAPH-FA29;
bIDEOGRAPH-FA2A;bIDEOGRAPH-FA2B;bIDEOGRAPH-FA2C;bIDEOGRAPH-FA2D;bIDEOGRAPH-FA2E;bIDEOGRAPH-FA2F;
bIDEOGRAPH-FA30;bIDEOGRAPH-FA31;bIDEOGRAPH-FA32;bIDEOGRAPH-FA33;bIDEOGRAPH-FA34;bIDEOGRAPH-FA35;
bIDEOGRAPH-FA36;bIDEOGRAPH-FA37;bIDEOGRAPH-FA38;bIDEOGRAPH-FA39;bIDEOGRAPH-FA3A;bIDEOGRAPH-FA3B;
bIDEOGRAPH-FA3C;bIDEOGRAPH-FA3D;bIDEOGRAPH-FA3E;bIDEOGRAPH-FA3F;bIDEOGRAPH-FA40;bIDEOGRAPH-FA41;
bIDEOGRAPH-FA42;bIDEOGRAPH-FA43;bIDEOGRAPH-FA44;bIDEOGRAPH-FA45;bIDEOGRAPH-FA46;bIDEOGRAPH-FA47;
bIDEOGRAPH-FA48;bIDEOGRAPH-FA49;bIDEOGRAPH-FA4A;bIDEOGRAPH-FA4B;bIDEOGRAPH-FA4C;bIDEOGRAPH-FA4D;
bIDEOGRAPH-FA4E;bIDEOGRAPH-FA4F;bIDEOGRAPH-FA50;bIDEOGRAPH-FA51;bIDEOGRAPH-FA52;bIDEOGRAPH-FA53;
bIDEOGRAPH-FA54;bIDEOGRAPH-FA55;bIDEOGRAPH-FA56;bIDEOGRAPH-FA57;bIDEOGRAPH-FA58;bIDEOGRAPH-FA59;
bIDEOGRAPH-FA5A;bIDEOGRAPH-FA5B;bIDEOGRAPH-FA5C;bIDEOGRAPH-FA5D;bIDEOGRAPH-FA5E;bIDEOGRAPH-FA5F;
bIDEOGRAPH-FA60;bIDEOGRAPH-FA61;bIDEOGRAPH-FA62;bIDEOGRAPH-FA63;bIDEOGRAPH-FA64;bIDEOGRAPH-FA65;
bIDEOGRAPH-FA66;bIDEOGRAPH-FA67;bIDEOGRAPH-FA68;bIDEOGRAPH-FA69;bIDEOGRAPH-FA6A;bIDEOGRAPH-FA6B;
bIDEOGRAPH-FA6C;bIDEOGRAPH-FA6D;FA70=bIDEOGRAPH-FA70;bIDEOGRAPH-FA71;bIDEOGRAPH-FA72;
bIDEOGRAPH-FA73;bIDEOGRAPH-FA74;bIDEOGRAPH-FA75;bIDEOGRAPH-FA76;bIDEOGRAPH-FA77;bIDEOGRAPH-FA78;
bIDEOGRAPH-FA79;bIDEOGRAPH-FA7A;bIDEOGRAPH-FA7B;bIDEOGRAPH-FA7C;bIDEOGRAPH-FA7D;bIDEOGRAPH-FA7E;
bIDEOGRAPH-FA7F;bIDEOGRAPH-FA80;bIDEOGRAPH-FA81;bIDEOGRAPH-FA82;bIDEOGRAPH-FA83;bIDEOGRAPH-FA84;
bIDEOGRAPH-FA85;bIDEOGRAPH-FA86;bIDEOGRAPH-FA87;bIDEOGRAPH-FA88;bIDEOGRAPH-FA89;bIDEOGRAPH-FA8A;
bIDEOGRAPH-FA8B;bIDEOGRAPH-FA8C;bIDEOGRAPH-FA8D;bIDEOGRAPH-FA8E;bIDEOGRAPH-FA8F;bIDEOGRAPH-FA90;
bIDEOGRAPH-FA91;bIDEOGRAPH-FA92;bIDEOGRAPH-FA93;bIDEOGRAPH-FA94;bIDEOGRAPH-FA95;bIDEOGRAPH-FA96;
bIDEOGRAPH-FA97;bIDEOGRAPH-FA98;bIDEOGRAPH-FA99;bIDEOGRAPH-FA9A;bIDEOGRAPH-FA9B;bIDEOGRAPH-FA9C;
bIDEOGRAPH-FA9D;bIDEOGRAPH-FA9E;bIDEOGRAPH-FA9F;bIDEOGRAPH-FAA0;bIDEOGRAPH-FAA1;bIDEOGRAPH-FAA2;
bIDEOGRAPH-FAA3;bIDEOGRAPH-FAA4;bIDEOGRAPH-FAA5;bIDEOGRAPH-FAA6;bIDEOGRAPH-FAA7;bIDEOGRAPH-FAA8;
bIDEOGRAPH-FAA9;bIDEOGRAPH-FAAA;bIDEOGRAPH-FAAB;bIDEOGRAPH-FAAC;bIDEOGRAPH-FAAD;bIDEOGRAPH-FAAE;
bIDEOGRAPH-FAAF;bIDEOGRAPH-FAB0;bIDEOGRAPH-FAB1;bIDEOGRAPH-FAB2;bIDEOGRAPH-FAB3;bIDEOGRAPH-FAB4;
bIDEOGRAPH-FAB5;bIDEOGRAPH-FAB6;bIDEOGRAPH-FAB7;bIDEOGRAPH-FAB8;bIDEOGRAPH-FAB9;bIDEOGRAPH-FABA;
bIDEOGRAPH-FABB;bIDEOGRAPH-FABC;bIDEOGRAPH-FABD;bIDEOGRAPH-FABE;bIDEOGRAPH-FABF;bIDEOGRAPH-FAC0;
bIDEOGRAPH-FAC1;bIDEOGRAPH-FAC2;bIDEOGRAPH-FAC3;bIDEOGRAPH-FAC4;bIDEOGRAPH-FAC5;bIDEOGRAPH-FAC6;
bIDEOGRAPH-FAC7;bIDEOGRAPH-FAC8;bIDEOGRAPH-FAC9;bIDEOGRAPH-FACA;bIDEOGRAPH-FACB;bIDEOGRAPH-FACC;
bIDEOGRAPH-FACD;bIDEOGRAPH-FACE;bIDEOGRAPH-FACF;bIDEOGRAPH-FAD0;bIDEOGRAPH-FAD1;bIDEOGRAPH-FAD2;
bIDEOGRAPH-FAD3;bIDEOGRAPH-FAD4;bIDEOGRAPH-FAD5;bIDEOGRAPH-FAD6;bIDEOGRAPH-FAD7;bIDEOGRAPH-FAD8;
bIDEOGRAPH-FAD9;FB00=LATIN SMALL LIGATURE FF;cFI;cFL;cFFI;cFFL;cLONG S T;cST;
FB13=ARMENIAN SMALL LIGATURE MEN NOW;dECH;dINI;cVEW NOW;cMEN XEH;
FB1D=HEBREW LETTER YOD WITH HIRIQ;aPOINT JUDEO-SPANISH VARIKA;aLIGATURE YIDDISH YOD YOD PATAH;
aLETTER ALTERNATIVE AYIN;bWIDE ALEF;cDALET;cHE;cKAF;cLAMED;cFINAL MEM;cRESH;cTAV;
bALTERNATIVE PLUS SIGN;bSHIN WITH SHIN DOT;dSIN DOT;dDAGESH AND SHIN DOT;fSIN DOT;
bALEF WITH PATAH;dQAMATS;dMAPIQ;bBET WITH DAGESH;bGIMEL WITH DAGESH;bDALET WITH DAGESH;
bHE WITH MAPIQ;bVAV WITH DAGESH;bZAYIN WITH DAGESH;FB38=bTET WITH DAGESH;bYOD WITH DAGESH;
bFINAL KAF WITH DAGESH;bKAF WITH DAGESH;bLAMED WITH DAGESH;FB3E=bMEM WITH DAGESH;
FB40=bNUN WITH DAGESH;bSAMEKH WITH DAGESH;FB43=bFINAL PE WITH DAGESH;bPE WITH DAGESH;
FB46=bTSADI WITH DAGESH;bQOF WITH DAGESH;bRESH WITH DAGESH;bSHIN WITH DAGESH;bTAV WITH DAGESH;
bVAV WITH HOLAM;bBET WITH RAFE;bKAF WITH RAFE;bPE WITH RAFE;aLIGATURE ALEF LAMED;
ARABIC LETTER ALEF WASLA ISOLATED FORM;dFINAL FORM;bBEEH ISOLATED FORM;cFINAL FORM;cINITIAL FORM;
cMEDIAL FORM;bPEH ISOLATED FORM;cFINAL FORM;cINITIAL FORM;cMEDIAL FORM;bBEHEH ISOLATED FORM;
cFINAL FORM;cINITIAL FORM;cMEDIAL FORM;bTTEHEH ISOLATED FORM;cFINAL FORM;cINITIAL FORM;
cMEDIAL FORM;bTEHEH ISOLATED FORM;cFINAL FORM;cINITIAL FORM;cMEDIAL FORM;bTTEH ISOLATED FORM;
cFINAL FORM;cINITIAL FORM;cMEDIAL FORM;bVEH ISOLATED FORM;cFINAL FORM;cINITIAL FORM;cMEDIAL FORM;
bPEHEH ISOLATED FORM;cFINAL FORM;cINITIAL FORM;cMEDIAL FORM;bDYEH ISOLATED FORM;cFINAL FORM;
cINITIAL FORM;cMEDIAL FORM;bNYEH ISOLATED FORM;cFINAL FORM;cINITIAL FORM;cMEDIAL FORM;
bTCHEH ISOLATED FORM;cFINAL FORM;cINITIAL FORM;cMEDIAL FORM;bTCHEHEH ISOLATED FORM;cFINAL FORM;
cINITIAL FORM;cMEDIAL FORM;bDDAHAL ISOLATED FORM;cFINAL FORM;bDAHAL ISOLATED FORM;cFINAL FORM;
bDUL ISOLATED FORM;cFINAL FORM;bDDAL ISOLATED FORM;cFINAL FORM;bJEH ISOLATED FORM;cFINAL FORM;
bRREH ISOLATED FORM;cFINAL FORM;bKEHEH ISOLATED FORM;cFINAL FORM;cINITIAL FORM;cMEDIAL FORM;
bGAF ISOLATED FORM;cFINAL FORM;cINITIAL FORM;cMEDIAL FORM;bGUEH ISOLATED FORM;cFINAL FORM;
cINITIAL FORM;cMEDIAL FORM;bNGOEH ISOLATED FORM;cFINAL FORM;cINITIAL FORM;cMEDIAL FORM;
bNOON GHUNNA ISOLATED FORM;dFINAL FORM;bRNOON ISOLATED FORM;cFINAL FORM;cINITIAL FORM;
cMEDIAL FORM;bHEH WITH YEH ABOVE ISOLATED FORM;fFINAL FORM;cGOAL ISOLATED FORM;dFINAL FORM;
dINITIAL FORM;dMEDIAL FORM;cDOACHASHMEE ISOLATED FORM;dFINAL FORM;dINITIAL FORM;dMEDIAL FORM;
bYEH BARREE ISOLATED FORM;dFINAL FORM;dWITH HAMZA ABOVE ISOLATED FORM;gFINAL FORM;
aSYMBOL DOT ABOVE;cBELOW;bTWO DOTS ABOVE;dBELOW;bTHREE DOTS ABOVE;dBELOW;
dPOINTING DOWNWARDS ABOVE;fBELOW;bFOUR DOTS ABOVE;dBELOW;bDOUBLE VERTICAL BAR BELOW;
bTWO DOTS VERTICALLY ABOVE;eBELOW;bRING;bSMALL TAH ABOVE;dBELOW;bWASLA ABOVE;
FBD3=aLETTER NG ISOLATED FORM;cFINAL FORM;cINITIAL FORM;cMEDIAL FORM;bU ISOLATED FORM;cFINAL FORM;
bOE ISOLATED FORM;cFINAL FORM;bYU ISOLATED FORM;cFINAL FORM;bU WITH HAMZA ABOVE ISOLATED FORM;
bVE ISOLATED FORM;cFINAL FORM;bKIRGHIZ OE ISOLATED FORM;dFINAL FORM;cYU ISOLATED FORM;dFINAL FORM;
bE ISOLATED FORM;cFINAL FORM;cINITIAL FORM;cMEDIAL FORM;
bUIGHUR KAZAKH KIRGHIZ ALEF MAKSURA INITIAL FORM;gMEDIAL FORM;
aLIGATURE YEH WITH HAMZA ABOVE WITH ALEF ISOLATED FORM;hFINAL FORM;gAE ISOLATED FORM;hFINAL FORM;
gWAW ISOLATED FORM;hFINAL FORM;gU ISOLATED FORM;hFINAL FORM;gOE ISOLATED FORM;hFINAL FORM;
gYU ISOLATED FORM;hFINAL FORM;gE ISOLATED FORM;hFINAL FORM;hINITIAL FORM;
bUIGHUR KIRGHIZ YEH WITH HAMZA ABOVE WITH ALEF MAKSURA ISOLATED FORM;kFINAL FORM;kINITIAL FORM;
aLETTER FARSI YEH ISOLATED FORM;dFINAL FORM;dINITIAL FORM;dMEDIAL FORM;
aLIGATURE YEH WITH HAMZA ABOVE WITH JEEM ISOLATED FORM;gHAH ISOLATED FORM;gMEEM ISOLATED FORM;
gALEF MAKSURA ISOLATED FORM;gYEH ISOLATED FORM;bBEH WITH JEEM ISOLATED FORM;dHAH ISOLATED FORM;
dKHAH ISOLATED FORM;dMEEM ISOLATED FORM;dALEF MAKSURA ISOLATED FORM;dYEH ISOLATED FORM;
bTEH WITH JEEM ISOLATED FORM;dHAH ISOLATED FORM;dKHAH ISOLATED FORM;dMEEM ISOLATED FORM;
dALEF MAKSURA ISOLATED FORM;dYEH ISOLATED FORM;bTHEH WITH JEEM ISOLATED FORM;dMEEM ISOLATED FORM;
dALEF MAKSURA ISOLATED FORM;dYEH ISOLATED FORM;bJEEM WITH HAH ISOLATED FORM;dMEEM ISOLATED FORM;
bHAH WITH JEEM ISOLATED FORM;dMEEM ISOLATED FORM;bKHAH WITH JEEM ISOLATED FORM;dHAH ISOLATED FORM;
dMEEM ISOLATED FORM;bSEEN WITH JEEM ISOLATED FORM;dHAH ISOLATED FORM;dKHAH ISOLATED FORM;
dMEEM ISOLATED FORM;bSAD WITH HAH ISOLATED FORM;dMEEM ISOLATED FORM;bDAD WITH JEEM ISOLATED FORM;
dHAH ISOLATED FORM;dKHAH ISOLATED FORM;dMEEM ISOLATED FORM;bTAH WITH HAH ISOLATED FORM;
dMEEM ISOLATED FORM;bZAH WITH MEEM ISOLATED FORM;bAIN WITH JEEM ISOLATED FORM;dMEEM ISOLATED FORM;
bGHAIN WITH JEEM ISOLATED FORM;dMEEM ISOLATED FORM;bFEH WITH JEEM ISOLATED FORM;
dHAH ISOLATED FORM;dKHAH ISOLATED FORM;dMEEM ISOLATED FORM;dALEF MAKSURA ISOLATED FORM;
dYEH ISOLATED FORM;bQAF WITH HAH ISOLATED FORM;dMEEM ISOLATED FORM;dALEF MAKSURA ISOLATED FORM;
dYEH ISOLATED FORM;bKAF WITH ALEF ISOLATED FORM;dJEEM ISOLATED FORM;dHAH ISOLATED FORM;
dKHAH ISOLATED FORM;dLAM ISOLATED FORM;dMEEM ISOLATED FORM;dALEF MAKSURA ISOLATED FORM;
dYEH ISOLATED FORM;bLAM WITH JEEM ISOLATED FORM;dHAH ISOLATED FORM;dKHAH ISOLATED FORM;
dMEEM ISOLATED FORM;dALEF MAKSURA ISOLATED FORM;dYEH ISOLATED FORM;bMEEM WITH JEEM ISOLATED FORM;
dHAH ISOLATED FORM;dKHAH ISOLATED FORM;dMEEM ISOLATED FORM;dALEF MAKSURA ISOLATED FORM;
dYEH ISOLATED FORM;bNOON WITH JEEM ISOLATED FORM;dHAH ISOLATED FORM;dKHAH ISOLATED FORM;
dMEEM ISOLATED FORM;dALEF MAKSURA ISOLATED FORM;dYEH ISOLATED FORM;bHEH WITH JEEM ISOLATED FORM;
dMEEM ISOLATED FORM;dALEF MAKSURA ISOLATED FORM;dYEH ISOLATED FORM;bYEH WITH JEEM ISOLATED FORM;
dHAH ISOLATED FORM;dKHAH ISOLATED FORM;dMEEM ISOLATED FORM;dALEF MAKSURA ISOLATED FORM;
dYEH ISOLATED FORM;bTHAL WITH SUPERSCRIPT ALEF ISOLATED FORM;
bREH WITH SUPERSCRIPT ALEF ISOLATED FORM;bALEF MAKSURA WITH SUPERSCRIPT ALEF ISOLATED FORM;
bSHADDA WITH DAMMATAN ISOLATED FORM;dKASRATAN ISOLATED FORM;dFATHA ISOLATED FORM;
dDAMMA ISOLATED FORM;dKASRA ISOLATED FORM;dSUPERSCRIPT ALEF ISOLATED FORM;
bYEH WITH HAMZA ABOVE WITH REH FINAL FORM;gZAIN FINAL FORM;gMEEM FINAL FORM;gNOON FINAL FORM;
gALEF MAKSURA FINAL FORM;gYEH FINAL FORM;bBEH WITH REH FINAL FORM;dZAIN FINAL FORM;
dMEEM FINAL FORM;dNOON FINAL FORM;dALEF MAKSURA FINAL FORM;dYEH FINAL FORM;
bTEH WITH REH FINAL FORM;dZAIN FINAL FORM;dMEEM FINAL FORM;dNOON FINAL FORM;
dALEF MAKSURA FINAL FORM;dYEH FINAL FORM;bTHEH WITH REH FINAL FORM;dZAIN FINAL FORM;
dMEEM FINAL FORM;dNOON FINAL FORM;dALEF MAKSURA FINAL FORM;dYEH FINAL FORM;
bFEH WITH ALEF MAKSURA FINAL FORM;dYEH FINAL FORM;bQAF WITH ALEF MAKSURA FINAL FORM;
dYEH FINAL FORM;bKAF WITH ALEF FINAL FORM;dLAM FINAL FORM;dMEEM FINAL FORM;
dALEF MAKSURA FINAL FORM;dYEH FINAL FORM;bLAM WITH MEEM FINAL FORM;dALEF MAKSURA FINAL FORM;
dYEH FINAL FORM;bMEEM WITH ALEF FINAL FORM;dMEEM FINAL FORM;bNOON WITH REH FINAL FORM;
dZAIN FINAL FORM;dMEEM FINAL FORM;dNOON FINAL FORM;dALEF MAKSURA FINAL FORM;dYEH FINAL FORM;
bALEF MAKSURA WITH SUPERSCRIPT ALEF FINAL FORM;bYEH WITH REH FINAL FORM;dZAIN FINAL FORM;
dMEEM FINAL FORM;dNOON FINAL FORM;dALEF MAKSURA FINAL FORM;dYEH FINAL FORM;
dHAMZA ABOVE WITH JEEM INITIAL FORM;gHAH INITIAL FORM;gKHAH INITIAL FORM;gMEEM INITIAL FORM;
gHEH INITIAL FORM;bBEH WITH JEEM INITIAL FORM;dHAH INITIAL FORM;dKHAH INITIAL FORM;
dMEEM INITIAL FORM;dHEH INITIAL FORM;bTEH WITH JEEM INITIAL FORM;dHAH INITIAL FORM;
dKHAH INITIAL FORM;dMEEM INITIAL FORM;dHEH INITIAL FORM;bTHEH WITH MEEM INITIAL FORM;
bJEEM WITH HAH INITIAL FORM;dMEEM INITIAL FORM;bHAH WITH JEEM INITIAL FORM;dMEEM INITIAL FORM;
bKHAH WITH JEEM INITIAL FORM;dMEEM INITIAL FORM;bSEEN WITH JEEM INITIAL FORM;dHAH INITIAL FORM;
dKHAH INITIAL FORM;dMEEM INITIAL FORM;bSAD WITH HAH INITIAL FORM;dKHAH INITIAL FORM;
dMEEM INITIAL FORM;bDAD WITH JEEM INITIAL FORM;dHAH INITIAL FORM;dKHAH INITIAL FORM;
dMEEM INITIAL FORM;bTAH WITH HAH INITIAL FORM;bZAH WITH MEEM INITIAL FORM;
bAIN WITH JEEM INITIAL FORM;dMEEM INITIAL FORM;bGHAIN WITH JEEM INITIAL FORM;dMEEM INITIAL FORM;
bFEH WITH JEEM INITIAL FORM;dHAH INITIAL FORM;dKHAH INITIAL FORM;dMEEM INITIAL FORM;
bQAF WITH HAH INITIAL FORM;dMEEM INITIAL FORM;bKAF WITH JEEM INITIAL FORM;dHAH INITIAL FORM;
dKHAH INITIAL FORM;dLAM INITIAL FORM;dMEEM INITIAL FORM;bLAM WITH JEEM INITIAL FORM;
dHAH INITIAL FORM;dKHAH INITIAL FORM;dMEEM INITIAL FORM;dHEH INITIAL FORM;
bMEEM WITH JEEM INITIAL FORM;dHAH INITIAL FORM;dKHAH INITIAL FORM;dMEEM INITIAL FORM;
bNOON WITH JEEM INITIAL FORM;dHAH INITIAL FORM;dKHAH INITIAL FORM;dMEEM INITIAL FORM;
dHEH INITIAL FORM;bHEH WITH JEEM INITIAL FORM;dMEEM INITIAL FORM;dSUPERSCRIPT ALEF INITIAL FORM;
bYEH WITH JEEM INITIAL FORM;dHAH INITIAL FORM;dKHAH INITIAL FORM;dMEEM INITIAL FORM;
dHEH INITIAL FORM;dHAMZA ABOVE WITH MEEM MEDIAL FORM;gHEH MEDIAL FORM;bBEH WITH MEEM MEDIAL FORM;
dHEH MEDIAL FORM;bTEH WITH MEEM MEDIAL FORM;dHEH MEDIAL FORM;bTHEH WITH MEEM MEDIAL FORM;
dHEH MEDIAL FORM;bSEEN WITH MEEM MEDIAL FORM;dHEH MEDIAL FORM;bSHEEN WITH MEEM MEDIAL FORM;
dHEH MEDIAL FORM;bKAF WITH LAM MEDIAL FORM;dMEEM MEDIAL FORM;bLAM WITH MEEM MEDIAL FORM;
bNOON WITH MEEM MEDIAL FORM;dHEH MEDIAL FORM;bYEH WITH MEEM MEDIAL FORM;dHEH MEDIAL FORM;
bSHADDA WITH FATHA MEDIAL FORM;dDAMMA MEDIAL FORM;dKASRA MEDIAL FORM;
bTAH WITH ALEF MAKSURA ISOLATED FORM;dYEH ISOLATED FORM;bAIN WITH ALEF MAKSURA ISOLATED FORM;
dYEH ISOLATED FORM;bGHAIN WITH ALEF MAKSURA ISOLATED FORM;dYEH ISOLATED FORM;
bSEEN WITH ALEF MAKSURA ISOLATED FORM;dYEH ISOLATED FORM;bSHEEN WITH ALEF MAKSURA ISOLATED FORM;
dYEH ISOLATED FORM;bHAH WITH ALEF MAKSURA ISOLATED FORM;dYEH ISOLATED FORM;
bJEEM WITH ALEF MAKSURA ISOLATED FORM;dYEH ISOLATED FORM;bKHAH WITH ALEF MAKSURA ISOLATED FORM;
dYEH ISOLATED FORM;bSAD WITH ALEF MAKSURA ISOLATED FORM;dYEH ISOLATED FORM;
bDAD WITH ALEF MAKSURA ISOLATED FORM;dYEH ISOLATED FORM;bSHEEN WITH JEEM ISOLATED FORM;
dHAH ISOLATED FORM;dKHAH ISOLATED FORM;dMEEM ISOLATED FORM;dREH ISOLATED FORM;
bSEEN WITH REH ISOLATED FORM;bSAD WITH REH ISOLATED FORM;bDAD WITH REH ISOLATED FORM;
bTAH WITH ALEF MAKSURA FINAL FORM;dYEH FINAL FORM;bAIN WITH ALEF MAKSURA FINAL FORM;
dYEH FINAL FORM;bGHAIN WITH ALEF MAKSURA FINAL FORM;dYEH FINAL FORM;
bSEEN WITH ALEF MAKSURA FINAL FORM;dYEH FINAL FORM;bSHEEN WITH ALEF MAKSURA FINAL FORM;
dYEH FINAL FORM;bHAH WITH ALEF MAKSURA FINAL FORM;dYEH FINAL FORM;
bJEEM WITH ALEF MAKSURA FINAL FORM;dYEH FINAL FORM;bKHAH WITH ALEF MAKSURA FINAL FORM;
dYEH FINAL FORM;bSAD WITH ALEF MAKSURA FINAL FORM;dYEH FINAL FORM;
bDAD WITH ALEF MAKSURA FINAL FORM;dYEH FINAL FORM;bSHEEN WITH JEEM FINAL FORM;dHAH FINAL FORM;
dKHAH FINAL FORM;dMEEM FINAL FORM;dREH FINAL FORM;bSEEN WITH REH FINAL FORM;
bSAD WITH REH FINAL FORM;bDAD WITH REH FINAL FORM;bSHEEN WITH JEEM INITIAL FORM;dHAH INITIAL FORM;
dKHAH INITIAL FORM;dMEEM INITIAL FORM;bSEEN WITH HEH INITIAL FORM;bSHEEN WITH HEH INITIAL FORM;
bTAH WITH MEEM INITIAL FORM;bSEEN WITH JEEM MEDIAL FORM;dHAH MEDIAL FORM;dKHAH MEDIAL FORM;
bSHEEN WITH JEEM MEDIAL FORM;dHAH MEDIAL FORM;dKHAH MEDIAL FORM;bTAH WITH MEEM MEDIAL FORM;
bZAH WITH MEEM MEDIAL FORM;bALEF WITH FATHATAN FINAL FORM;eISOLATED FORM;ORNATE LEFT PARENTHESIS;
aRIGHT PARENTHESIS;ARABIC LIGATURE RAHIMAHU ALLAAH;bRADI ALLAAHU ANH;dANHAA;dANHUM;dANHUMAA;
dANHUNNA;bSALLALLAAHU ALAYHI WA-AALIH;bALAYHI AS-SALAAM;bALAYHIM AS-SALAAM;bALAYHIMAA AS-SALAAM;
bALAYHI AS-SALAATU WAS-SALAAM;bQUDDISA SIRRAH;bSALLALLAHU ALAYHI WAAALIHEE WA-SALLAM;
bALAYHAA AS-SALAAM;bTABAARAKA WA-TAAALAA;bRAHIMAHUM ALLAAH;bTEH WITH JEEM WITH MEEM INITIAL FORM;
dHAH WITH JEEM FINAL FORM;gINITIAL FORM;fMEEM INITIAL FORM;dKHAH WITH MEEM INITIAL FORM;
dMEEM WITH JEEM INITIAL FORM;fHAH INITIAL FORM;fKHAH INITIAL FORM;
bJEEM WITH MEEM WITH HAH FINAL FORM;gINITIAL FORM;bHAH WITH MEEM WITH YEH FINAL FORM;
fALEF MAKSURA FINAL FORM;bSEEN WITH HAH WITH JEEM INITIAL FORM;dJEEM WITH HAH INITIAL FORM;
fALEF MAKSURA FINAL FORM;dMEEM WITH HAH FINAL FORM;gINITIAL FORM;fJEEM INITIAL FORM;
fMEEM FINAL FORM;gINITIAL FORM;bSAD WITH HAH WITH HAH FINAL FORM;gINITIAL FORM;
dMEEM WITH MEEM FINAL FORM;bSHEEN WITH HAH WITH MEEM FINAL FORM;gINITIAL FORM;
dJEEM WITH YEH FINAL FORM;dMEEM WITH KHAH FINAL FORM;gINITIAL FORM;fMEEM FINAL FORM;gINITIAL FORM;
bDAD WITH HAH WITH ALEF MAKSURA FINAL FORM;dKHAH WITH MEEM FINAL FORM;gINITIAL FORM;
bTAH WITH MEEM WITH HAH FINAL FORM;gINITIAL FORM;fMEEM INITIAL FORM;fYEH FINAL FORM;
bAIN WITH JEEM WITH MEEM FINAL FORM;dMEEM WITH MEEM FINAL FORM;gINITIAL FORM;
fALEF MAKSURA FINAL FORM;bGHAIN WITH MEEM WITH MEEM FINAL FORM;fYEH FINAL FORM;
fALEF MAKSURA FINAL FORM;bFEH WITH KHAH WITH MEEM FINAL FORM;gINITIAL FORM;
bQAF WITH MEEM WITH HAH FINAL FORM;fMEEM FINAL FORM;bLAM WITH HAH WITH MEEM FINAL FORM;
fYEH FINAL FORM;fALEF MAKSURA FINAL FORM;dJEEM WITH JEEM INITIAL FORM;gFINAL FORM;
dKHAH WITH MEEM FINAL FORM;gINITIAL FORM;dMEEM WITH HAH FINAL FORM;gINITIAL FORM;
bMEEM WITH HAH WITH JEEM INITIAL FORM;fMEEM INITIAL FORM;fYEH FINAL FORM;
dJEEM WITH HAH INITIAL FORM;fMEEM INITIAL FORM;dKHAH WITH JEEM INITIAL FORM;fMEEM INITIAL FORM;
FD92=dJEEM WITH KHAH INITIAL FORM;bHEH WITH MEEM WITH JEEM INITIAL FORM;fMEEM INITIAL FORM;
bNOON WITH HAH WITH MEEM INITIAL FORM;fALEF MAKSURA FINAL FORM;dJEEM WITH MEEM FINAL FORM;
gINITIAL FORM;fALEF MAKSURA FINAL FORM;dMEEM WITH YEH FINAL FORM;fALEF MAKSURA FINAL FORM;
bYEH WITH MEEM WITH MEEM FINAL FORM;gINITIAL FORM;bBEH WITH KHAH WITH YEH FINAL FORM;
bTEH WITH JEEM WITH YEH FINAL FORM;fALEF MAKSURA FINAL FORM;dKHAH WITH YEH FINAL FORM;
fALEF MAKSURA FINAL FORM;dMEEM WITH YEH FINAL FORM;fALEF MAKSURA FINAL FORM;
bJEEM WITH MEEM WITH YEH FINAL FORM;dHAH WITH ALEF MAKSURA FINAL FORM;
dMEEM WITH ALEF MAKSURA FINAL FORM;bSEEN WITH KHAH WITH ALEF MAKSURA FINAL FORM;
bSAD WITH HAH WITH YEH FINAL FORM;bSHEEN WITH HAH WITH YEH FINAL FORM;
bDAD WITH HAH WITH YEH FINAL FORM;bLAM WITH JEEM WITH YEH FINAL FORM;dMEEM WITH YEH FINAL FORM;
bYEH WITH HAH WITH YEH FINAL FORM;dJEEM WITH YEH FINAL FORM;dMEEM WITH YEH FINAL FORM;
bMEEM WITH MEEM WITH YEH FINAL FORM;bQAF WITH MEEM WITH YEH FINAL FORM;
bNOON WITH HAH WITH YEH FINAL FORM;bQAF WITH MEEM WITH HAH INITIAL FORM;
bLAM WITH HAH WITH MEEM INITIAL FORM;bAIN WITH MEEM WITH YEH FINAL FORM;
bKAF WITH MEEM WITH YEH FINAL FORM;bNOON WITH JEEM WITH HAH INITIAL FORM;
bMEEM WITH KHAH WITH YEH FINAL FORM;bLAM WITH JEEM WITH MEEM INITIAL FORM;
bKAF WITH MEEM WITH MEEM FINAL FORM;bLAM WITH JEEM WITH MEEM FINAL FORM;
bNOON WITH JEEM WITH HAH FINAL FORM;bJEEM WITH HAH WITH YEH FINAL FORM;
bHAH WITH JEEM WITH YEH FINAL FORM;bMEEM WITH JEEM WITH YEH FINAL FORM;
bFEH WITH MEEM WITH YEH FINAL FORM;bBEH WITH HAH WITH YEH FINAL FORM;
bKAF WITH MEEM WITH MEEM INITIAL FORM;bAIN WITH JEEM WITH MEEM INITIAL FORM;
bSAD WITH MEEM WITH MEEM INITIAL FORM;bSEEN WITH KHAH WITH YEH FINAL FORM;
bNOON WITH JEEM WITH YEH FINAL FORM;FDCF=bSALAAMUHU ALAYNAA;
FDF0=bSALLA USED AS KORANIC STOP SIGN ISOLATED FORM;bQALA USED AS KORANIC STOP SIGN ISOLATED FORM;
bALLAH ISOLATED FORM;bAKBAR ISOLATED FORM;bMOHAMMAD ISOLATED FORM;bSALAM ISOLATED FORM;
bRASOUL ISOLATED FORM;bALAYHE ISOLATED FORM;bWASALLAM ISOLATED FORM;bSALLA ISOLATED FORM;
bSALLALLAHOU ALAYHE WASALLAM;bJALLAJALALOUHOU;RIAL SIGN;
ARABIC LIGATURE BISMILLAH AR-RAHMAN AR-RAHEEM;bSUBHAANAHU WA TAAALAA;bAZZA WA JALL;
VARIATION SELECTOR-1;aSELECTOR-2;aSELECTOR-3;aSELECTOR-4;aSELECTOR-5;aSELECTOR-6;aSELECTOR-7;
aSELECTOR-8;aSELECTOR-9;aSELECTOR-10;aSELECTOR-11;aSELECTOR-12;aSELECTOR-13;aSELECTOR-14;
aSELECTOR-15;aSELECTOR-16;PRESENTATION FORM FOR VERTICAL COMMA;dIDEOGRAPHIC COMMA;eFULL STOP;
dCOLON;dSEMICOLON;dEXCLAMATION MARK;dQUESTION MARK;dLEFT WHITE LENTICULAR BRACKET;
dRIGHT WHITE LENTICULAR BRAKCET;dHORIZONTAL ELLIPSIS;FE20=COMBINING LIGATURE LEFT HALF;
bRIGHT HALF;aDOUBLE TILDE LEFT HALF;cRIGHT HALF;aMACRON LEFT HALF;bRIGHT HALF;aCONJOINING MACRON;
aLIGATURE LEFT HALF BELOW;bRIGHT HALF BELOW;aTILDE LEFT HALF BELOW;bRIGHT HALF BELOW;
aMACRON LEFT HALF BELOW;bRIGHT HALF BELOW;aCONJOINING MACRON BELOW;aCYRILLIC TITLO LEFT HALF;
cRIGHT HALF;PRESENTATION FORM FOR VERTICAL TWO DOT LEADER;dEM DASH;dEN DASH;dLOW LINE;
dWAVY LOW LINE;dLEFT PARENTHESIS;dRIGHT PARENTHESIS;dLEFT CURLY BRACKET;dRIGHT CURLY BRACKET;
dLEFT TORTOISE SHELL BRACKET;dRIGHT TORTOISE SHELL BRACKET;dLEFT BLACK LENTICULAR BRACKET;
dRIGHT BLACK LENTICULAR BRACKET;dLEFT DOUBLE ANGLE BRACKET;dRIGHT DOUBLE ANGLE BRACKET;
dLEFT ANGLE BRACKET;dRIGHT ANGLE BRACKET;dLEFT CORNER BRACKET;dRIGHT CORNER BRACKET;
dLEFT WHITE CORNER BRACKET;dRIGHT WHITE CORNER BRACKET;SESAME DOT;WHITE SESAME DOT;
PRESENTATION FORM FOR VERTICAL LEFT SQUARE BRACKET;dRIGHT SQUARE BRACKET;DASHED OVERLINE;
CENTRELINE OVERLINE;WAVY OVERLINE;DOUBLE WAVY OVERLINE;DASHED LOW LINE;CENTRELINE LOW LINE;
WAVY LOW LINE;SMALL COMMA;aIDEOGRAPHIC COMMA;aFULL STOP;FE54=aSEMICOLON;aCOLON;aQUESTION MARK;
aEXCLAMATION MARK;aEM DASH;aLEFT PARENTHESIS;aRIGHT PARENTHESIS;aLEFT CURLY BRACKET;
aRIGHT CURLY BRACKET;aLEFT TORTOISE SHELL BRACKET;aRIGHT TORTOISE SHELL BRACKET;aNUMBER SIGN;
aAMPERSAND;aASTERISK;aPLUS SIGN;aHYPHEN-MINUS;aLESS-THAN SIGN;aGREATER-THAN SIGN;aEQUALS SIGN;
FE68=aREVERSE SOLIDUS;aDOLLAR SIGN;aPERCENT SIGN;aCOMMERCIAL AT;
FE70=ARABIC FATHATAN ISOLATED FORM;aTATWEEL WITH FATHATAN ABOVE;aDAMMATAN ISOLATED FORM;
aTAIL FRAGMENT;aKASRATAN ISOLATED FORM;FE76=aFATHA ISOLATED FORM;bMEDIAL FORM;
aDAMMA ISOLATED FORM;bMEDIAL FORM;aKASRA ISOLATED FORM;bMEDIAL FORM;aSHADDA ISOLATED FORM;
bMEDIAL FORM;aSUKUN ISOLATED FORM;bMEDIAL FORM;aLETTER HAMZA ISOLATED FORM;
bALEF WITH MADDA ABOVE ISOLATED FORM;fFINAL FORM;dHAMZA ABOVE ISOLATED FORM;fFINAL FORM;
bWAW WITH HAMZA ABOVE ISOLATED FORM;fFINAL FORM;bALEF WITH HAMZA BELOW ISOLATED FORM;fFINAL FORM;
bYEH WITH HAMZA ABOVE ISOLATED FORM;fFINAL FORM;fINITIAL FORM;fMEDIAL FORM;bALEF ISOLATED FORM;
cFINAL FORM;bBEH ISOLATED FORM;cFINAL FORM;cINITIAL FORM;cMEDIAL FORM;bTEH MARBUTA ISOLATED FORM;
dFINAL FORM;cISOLATED FORM;cFINAL FORM;cINITIAL FORM;cMEDIAL FORM;bTHEH ISOLATED FORM;cFINAL FORM;
cINITIAL FORM;cMEDIAL FORM;bJEEM ISOLATED FORM;cFINAL FORM;cINITIAL FORM;cMEDIAL FORM;
bHAH ISOLATED FORM;cFINAL FORM;cINITIAL FORM;cMEDIAL FORM;bKHAH ISOLATED FORM;cFINAL FORM;
cINITIAL FORM;cMEDIAL FORM;bDAL ISOLATED FORM;cFINAL FORM;bTHAL ISOLATED FORM;cFINAL FORM;
bREH ISOLATED FORM;cFINAL FORM;bZAIN ISOLATED FORM;cFINAL FORM;bSEEN ISOLATED FORM;cFINAL FORM;
cINITIAL FORM;cMEDIAL FORM;bSHEEN ISOLATED FORM;cFINAL FORM;cINITIAL FORM;cMEDIAL FORM;
bSAD ISOLATED FORM;cFINAL FORM;cINITIAL FORM;cMEDIAL FORM;bDAD ISOLATED FORM;cFINAL FORM;
cINITIAL FORM;cMEDIAL FORM;bTAH ISOLATED FORM;cFINAL FORM;cINITIAL FORM;cMEDIAL FORM;
bZAH ISOLATED FORM;cFINAL FORM;cINITIAL FORM;cMEDIAL FORM;bAIN ISOLATED FORM;cFINAL FORM;
cINITIAL FORM;cMEDIAL FORM;bGHAIN ISOLATED FORM;cFINAL FORM;cINITIAL FORM;cMEDIAL FORM;
bFEH ISOLATED FORM;cFINAL FORM;cINITIAL FORM;cMEDIAL FORM;bQAF ISOLATED FORM;cFINAL FORM;
cINITIAL FORM;cMEDIAL FORM;bKAF ISOLATED FORM;cFINAL FORM;cINITIAL FORM;cMEDIAL FORM;
bLAM ISOLATED FORM;cFINAL FORM;cINITIAL FORM;cMEDIAL FORM;bMEEM ISOLATED FORM;cFINAL FORM;
cINITIAL FORM;cMEDIAL FORM;bNOON ISOLATED FORM;cFINAL FORM;cINITIAL FORM;cMEDIAL FORM;
bHEH ISOLATED FORM;cFINAL FORM;cINITIAL FORM;cMEDIAL FORM;bWAW ISOLATED FORM;cFINAL FORM;
bALEF MAKSURA ISOLATED FORM;dFINAL FORM;bYEH ISOLATED FORM;cFINAL FORM;cINITIAL FORM;cMEDIAL FORM;
aLIGATURE LAM WITH ALEF WITH MADDA ABOVE ISOLATED FORM;hFINAL FORM;fHAMZA ABOVE ISOLATED FORM;
hFINAL FORM;gBELOW ISOLATED FORM;hFINAL FORM;eISOLATED FORM;eFINAL FORM;
FEFF=ZERO WIDTH NO-BREAK SPACE;FF01=FULLWIDTH EXCLAMATION MARK;aQUOTATION MARK;aNUMBER SIGN;
aDOLLAR SIGN;aPERCENT SIGN;aAMPERSAND;aAPOSTROPHE;aLEFT PARENTHESIS;aRIGHT PARENTHESIS;aASTERISK;
aPLUS SIGN;aCOMMA;aHYPHEN-MINUS;aFULL STOP;aSOLIDUS;aDIGIT ZERO;bONE;bTWO;bTHREE;bFOUR;bFIVE;bSIX;
bSEVEN;bEIGHT;bNINE;aCOLON;aSEMICOLON;aLESS-THAN SIGN;aEQUALS SIGN;aGREATER-THAN SIGN;
aQUESTION MARK;aCOMMERCIAL AT;aLATIN CAPITAL LETTER A;dB;dC;dD;dE;dF;dG;dH;dI;dJ;dK;dL;dM;dN;dO;
dP;dQ;dR;dS;dT;dU;dV;dW;dX;dY;dZ;aLEFT SQUARE BRACKET;aREVERSE SOLIDUS;aRIGHT SQUARE BRACKET;
aCIRCUMFLEX ACCENT;aLOW LINE;aGRAVE ACCENT;aLATIN SMALL LETTER A;dB;dC;dD;dE;dF;dG;dH;dI;dJ;dK;dL;
dM;dN;dO;dP;dQ;dR;dS;dT;dU;dV;dW;dX;dY;dZ;aLEFT CURLY BRACKET;aVERTICAL LINE;aRIGHT CURLY BRACKET;
aTILDE;aLEFT WHITE PARENTHESIS;aRIGHT WHITE PARENTHESIS;HALFWIDTH IDEOGRAPHIC FULL STOP;
aLEFT CORNER BRACKET;aRIGHT CORNER BRACKET;aIDEOGRAPHIC COMMA;aKATAKANA MIDDLE DOT;bLETTER WO;
cSMALL A;dI;dU;dE;dO;dYA;dYU;dYO;dTU;aKATAKANA-HIRAGANA PROLONGED SOUND MARK;aKATAKANA LETTER A;
cI;cU;cE;cO;cKA;cKI;cKU;cKE;cKO;cSA;cSI;cSU;cSE;cSO;cTA;cTI;cTU;cTE;cTO;cNA;cNI;cNU;cNE;cNO;cHA;
cHI;cHU;cHE;cHO;cMA;cMI;cMU;cME;cMO;cYA;cYU;cYO;cRA;cRI;cRU;cRE;cRO;cWA;cN;bVOICED SOUND MARK;
bSEMI-VOICED SOUND MARK;aHANGUL FILLER;bLETTER KIYEOK;cSSANGKIYEOK;cKIYEOK-SIOS;cNIEUN;
cNIEUN-CIEUC;cNIEUN-HIEUH;cTIKEUT;cSSANGTIKEUT;cRIEUL;cRIEUL-KIYEOK;cRIEUL-MIEUM;cRIEUL-PIEUP;
cRIEUL-SIOS;cRIEUL-THIEUTH;cRIEUL-PHIEUPH;cRIEUL-HIEUH;cMIEUM;cPIEUP;cSSANGPIEUP;cPIEUP-SIOS;
cSIOS;cSSANGSIOS;cIEUNG;cCIEUC;cSSANGCIEUC;cCHIEUCH;cKHIEUKH;cTHIEUTH;cPHIEUPH;cHIEUH;FFC2=cA;cAE;
cYA;cYAE;cEO;cE;FFCA=cYEO;cYE;cO;cWA;cWAE;cOE;FFD2=cYO;cU;cWEO;cWE;cWI;cYU;FFDA=cEU;cYI;cI;
FFE0=FULLWIDTH CENT SIGN;aPOUND SIGN;aNOT SIGN;aMACRON;aBROKEN BAR;aYEN SIGN;aWON SIGN;
FFE8=HALFWIDTH FORMS LIGHT VERTICAL;aLEFTWARDS ARROW;aUPWARDS ARROW;aRIGHTWARDS ARROW;
aDOWNWARDS ARROW;aBLACK SQUARE;aWHITE CIRCLE;FFF9=INTERLINEAR ANNOTATION ANCHOR;bSEPARATOR;
bTERMINATOR;OBJECT REPLACEMENT CHARACTER;REPLACEMENT CHARACTER;"

end IgnoreRules.Unicode
