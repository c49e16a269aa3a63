/-!
# The names of characters

Every character of Unicode 14.0 with a name of its own, apart from the families of
`Text.CharacterName` whose names end in a number. The names of characters that follow each other
stand in one run, separated by commas. A name begins with a hexadecimal digit, which says how many
words it shares with the front of the name before it; the words behind these follow. A small letter
stands for one of the fragments below.
-/

namespace FormGraph

namespace CharacterName

/-- What the small letters stand for, from `a` on. -/
def fragments : List String :=
  [" LETTER ", " WITH ", "AL", "CAPITAL LETTER ", "AR", "IGHT", "IN", " FORM", "AN", "SMALL", "LE",
    "ER", " ARROW", "ON", " S", " ISOLATED FORM", " ABOVE", "EN", "TH", "D ", "TI", "RE", " SIGN",
    "WARDS", "DO", "HA"]

/-- Characters that follow each other: the number of the first, and the names. -/
abbrev NameRun := Nat × List String

/-- Runs below 0x1000: scripts of the Near East, Europe and India. -/
def latinRuns : List NameRun :=
  [(0x20, [
      "0SPACE,0EXCLAMAun MeK,0QUOTAun MeK,0NUMBlw,0yLLew,0PlCrTw,0AMPlSiD,0APOSTROPHE",
      "0kFT PersESIS,0Rf PersESIS,0ASTlISK,0PLUSw,0COMMA,0HYPHr-MgUS,0FULLoTOP,0SOLIDUS",
      "0DIGIT ZlO,1nE,1TWO,1svE,1FOUR,1FIVE,1SIX,1SEVr,1Ef,1NgE,0COLn,0SEMICOLn,0kSS-siw",
      "0EQUcSw,0GvATl-siw,0QUESun MeK,0COMMlCIc AT,0LATg dA,3B,3C,3D,3E,3F,3G,3H,3I,3J,3K,3L,3M",
      "3N,3O,3P,3Q,3R,3S,3T,3U,3V,3W,3X,3Y,3Z,0kFToQUeE BRACKET,0vVlSEoOLIDUS,0RfoQUeE BRACKET",
      "0CIRCUMFkX ACCrT,0LOW LgE,0GRAVE ACCrT,0LATg jaA,3B,3C,3D,3E,3F,3G,3H,3I,3J,3K,3L,3M,3N",
      "3O,3P,3Q,3R,3S,3T,3U,3V,3W,3X,3Y,3Z,0kFT CURLY BRACKET,0VluCc LgE,0Rf CURLY BRACKET",
      "0uLDE"]),
    (0xA0, [
      "0NO-BvAKoPACE,0gVlTEtEXCLAMAun MeK,0CrTw,0POUNDw,0CURRrCYw,0Yrw,0BROKr Be,0SECunw",
      "0DIAlESIS,0COPYRfw,0FEMggE ORDgc gDICATOR,0kFT-POgTgG yUBk iGk QUOTAun MeK,0NOTw",
      "0SOFT HYPHr,0vGISTlEDw,0MACRn,0DEGvEw,0PLUS-MgUSw,0SUPlSCRIPT TWO,1svE,0ACUTE ACCrT",
      "0MICROw,0PILCROWw,0MIDDk yT,0CEDILLA,0SUPlSCRIPT nE,0MASCULgE ORDgc gDICATOR",
      "0Rf-POgTgG yUBk iGk QUOTAun MeK,0VULGe FRACun nE QUeTl,3HcF,2svE QUeTlS",
      "0gVlTEtQUESun MeK,0LATg dAbGRAVE,5ACUTE,5CIRCUMFkX,5uLDE,5DIAlESIS,5RgGq,3AE,3CbCEDILLA",
      "3EbGRAVE,5ACUTE,5CIRCUMFkX,5DIAlESIS,3IbGRAVE,5ACUTE,5CIRCUMFkX,5DIAlESIS,3Es,3NbuLDE",
      "3ObGRAVE,5ACUTE,5CIRCUMFkX,5uLDE,5DIAlESIS,0MULuPLICAunw,0LATg dObSTROKE,3UbGRAVE,5ACUTE",
      "5CIRCUMFkX,5DIAlESIS,3YbACUTE,3sORN,1jaSHePo,3AbGRAVE,5ACUTE,5CIRCUMFkX,5uLDE,5DIAlESIS",
      "5RgGq,3AE,3CbCEDILLA,3EbGRAVE,5ACUTE,5CIRCUMFkX,5DIAlESIS,3IbGRAVE,5ACUTE,5CIRCUMFkX",
      "5DIAlESIS,3Es,3NbuLDE,3ObGRAVE,5ACUTE,5CIRCUMFkX,5uLDE,5DIAlESIS,0DIVISInw",
      "0LATg jaObSTROKE,3UbGRAVE,5ACUTE,5CIRCUMFkX,5DIAlESIS,3YbACUTE,3sORN,3YbDIAlESIS",
      "1dAbMACRn,1jaAbMACRn,1dAbBvVE,1jaAbBvVE,1dAbOGnEK,1jaAbOGnEK,1dCbACUTE,1jaCbACUTE",
      "1dCbCIRCUMFkX,1jaCbCIRCUMFkX,1dCbyTq,1jaCbyTq,1dCbCen,1jaCbCen,1dDbCen,1jaDbCen",
      "1dDbSTROKE,1jaDbSTROKE,1dEbMACRn,1jaEbMACRn,1dEbBvVE,1jaEbBvVE,1dEbyTq,1jaEbyTq",
      "1dEbOGnEK,1jaEbOGnEK,1dEbCen,1jaEbCen,1dGbCIRCUMFkX,1jaGbCIRCUMFkX,1dGbBvVE,1jaGbBvVE",
      "1dGbyTq,1jaGbyTq,1dGbCEDILLA,1jaGbCEDILLA,1dHbCIRCUMFkX,1jaHbCIRCUMFkX,1dHbSTROKE",
      "1jaHbSTROKE,1dIbuLDE,1jaIbuLDE,1dIbMACRn,1jaIbMACRn,1dIbBvVE,1jaIbBvVE,1dIbOGnEK",
      "1jaIbOGnEK,1dIbyTq,1jayTkSS I,1CAPITc LIGATUv IJ,1j LIGATUv IJ,1dJbCIRCUMFkX",
      "1jaJbCIRCUMFkX,1dKbCEDILLA,1jaKbCEDILLA,3KRA,1dLbACUTE,1jaLbACUTE,1dLbCEDILLA",
      "1jaLbCEDILLA,1dLbCen,1jaLbCen,1dLbMIDDk yT,1jaLbMIDDk yT,1dLbSTROKE,1jaLbSTROKE",
      "1dNbACUTE,1jaNbACUTE,1dNbCEDILLA,1jaNbCEDILLA,1dNbCen,1jaNbCen,4PvCEDEtBY APOSTROPHE",
      "1drG,1jarG,1dObMACRn,1jaObMACRn,1dObBvVE,1jaObBvVE,1dObyUBk ACUTE,1jaObyUBk ACUTE",
      "1CAPITc LIGATUv OE,1j LIGATUv OE,1dRbACUTE,1jaRbACUTE,1dRbCEDILLA,1jaRbCEDILLA,1dRbCen",
      "1jaRbCen,1dSbACUTE,1jaSbACUTE,1dSbCIRCUMFkX,1jaSbCIRCUMFkX,1dSbCEDILLA,1jaSbCEDILLA",
      "1dSbCen,1jaSbCen,1dTbCEDILLA,1jaTbCEDILLA,1dTbCen,1jaTbCen,1dTbSTROKE,1jaTbSTROKE",
      "1dUbuLDE,1jaUbuLDE,1dUbMACRn,1jaUbMACRn,1dUbBvVE,1jaUbBvVE,1dUbRgGq,1jaUbRgGq",
      "1dUbyUBk ACUTE,1jaUbyUBk ACUTE,1dUbOGnEK,1jaUbOGnEK,1dWbCIRCUMFkX,1jaWbCIRCUMFkX",
      "1dYbCIRCUMFkX,1jaYbCIRCUMFkX,1dYbDIAlESIS,3ZbACUTE,1jaZbACUTE,1dZbyTq,1jaZbyTq,1dZbCen",
      "1jaZbCen,3LnGo,3BbSTROKE,1dBbHOOK,5TOPBe,1jaBbTOPBe,1dTnEoIX,1jaTnEoIX,1dOPr O,3CbHOOK",
      "1jaCbHOOK,1dAFRICi D,3DbHOOK,5TOPBe,1jaDbTOPBe,3TURNEtDELTA,1dvVlSEtE,3SCHWA,3OPr E",
      "3FbHOOK,1jaFbHOOK,1dGbHOOK,3GAMMA,1jaHV,1dIOTA,3IbSTROKE,3KbHOOK,1jaKbHOOK,3LbBe",
      "3LAMBDAbSTROKE,1dTURNEtM,3NbkFT HOOK,1jaNbLnG Rf kG,1dObMIDDk uLDE,5HORN,1jaObHORN,1dOI",
      "1jaOI,1dPbHOOK,1jaPbHOOK,1kTTl YR,1dTnE TWO,1jaTnE TWO,1dESH,1kTTl vVlSEtESH LOOP",
      "1jaTbPcATc HOOK,1dTbHOOK,1jaTbHOOK,1dTbvTROFkX HOOK,3UbHORN,1jaUbHORN,1dUPSILn,3VbHOOK",
      "3YbHOOK,1jaYbHOOK,1dZbSTROKE,1jaZbSTROKE,1dEZH,4vVlSED,1jaEZH vVlSED,4WIs TAIL",
      "1kTTl TWObSTROKE,1dTnE FIVE,1jaTnE FIVE,1kTTl gVlTEtGLOTTcoTOPbSTROKE,2WYNN,2DrTc CLICK",
      "2LATlc CLICK,2cVEOLe CLICK,2vTROFkX CLICK,1dDZbCen,3DbjaZbCen,1jaDZbCen,1dLJ,3LbjaJ",
      "1jaLJ,1dNJ,3NbjaJ,1jaNJ,1dAbCen,1jaAbCen,1dIbCen,1jaIbCen,1dObCen,1jaObCen,1dUbCen",
      "1jaUbCen,1dUbDIAlESIS itMACRn,1jaUbDIAlESIS itMACRn,1dUbDIAlESIS itACUTE",
      "1jaUbDIAlESIS itACUTE,1dUbDIAlESIS itCen,1jaUbDIAlESIS itCen,1dUbDIAlESIS itGRAVE",
      "1jaUbDIAlESIS itGRAVE,3TURNEtE,1dAbDIAlESIS itMACRn,1jaAbDIAlESIS itMACRn",
      "1dAbyTq itMACRn,1jaAbyTq itMACRn,1dAEbMACRn,1jaAEbMACRn,1dGbSTROKE,1jaGbSTROKE,1dGbCen",
      "1jaGbCen,1dKbCen,1jaKbCen,1dObOGnEK,1jaObOGnEK,1dObOGnEK itMACRn,1jaObOGnEK itMACRn",
      "1dEZHbCen,1jaEZHbCen,3JbCen,1dDZ,3DbjaZ,1jaDZ,1dGbACUTE,1jaGbACUTE,1dHWAIR,3WYNN",
      "3NbGRAVE,1jaNbGRAVE,1dAbRgGq itACUTE,1jaAbRgGq itACUTE,1dAEbACUTE,1jaAEbACUTE",
      "1dObSTROKE itACUTE,1jaObSTROKE itACUTE,1dAbyUBk GRAVE,1jaAbyUBk GRAVE,1dAbgVlTEtBvVE",
      "1jaAbgVlTEtBvVE,1dEbyUBk GRAVE,1jaEbyUBk GRAVE,1dEbgVlTEtBvVE,1jaEbgVlTEtBvVE",
      "1dIbyUBk GRAVE,1jaIbyUBk GRAVE,1dIbgVlTEtBvVE,1jaIbgVlTEtBvVE,1dObyUBk GRAVE",
      "1jaObyUBk GRAVE,1dObgVlTEtBvVE,1jaObgVlTEtBvVE,1dRbyUBk GRAVE,1jaRbyUBk GRAVE",
      "1dRbgVlTEtBvVE,1jaRbgVlTEtBvVE,1dUbyUBk GRAVE,1jaUbyUBk GRAVE,1dUbgVlTEtBvVE",
      "1jaUbgVlTEtBvVE,1dSbCOMMA BELOW,1jaSbCOMMA BELOW,1dTbCOMMA BELOW,1jaTbCOMMA BELOW,1dYOGH",
      "1jaYOGH,1dHbCen,1jaHbCen,1dNbLnG Rf kG,1jaDbCURL,1dOU,1jaOU,1dZbHOOK,1jaZbHOOK,1dAbyTq",
      "1jaAbyTq,1dEbCEDILLA,1jaEbCEDILLA,1dObDIAlESIS itMACRn,1jaObDIAlESIS itMACRn",
      "1dObuLDE itMACRn,1jaObuLDE itMACRn,1dObyTq,1jaObyTq,1dObyTq itMACRn,1jaObyTq itMACRn",
      "1dYbMACRn,1jaYbMACRn,3LbCURL,3NbCURL,3TbCURL,3yTkSS J,3DB DIGRAPH,3QP DIGRAPH,1dAbSTROKE",
      "3CbSTROKE,1jaCbSTROKE,1dLbBe,3TbDIAGncoTROKE,1jaSbSWASH TAIL,3ZbSWASH TAIL,1dGLOTTcoTOP",
      "1jaGLOTTcoTOP,1dBbSTROKE,3U Be,3TURNEtV,3EbSTROKE,1jaEbSTROKE,1dJbSTROKE,1jaJbSTROKE",
      "1dj QbHOOK TAIL,1jaQbHOOK TAIL,1dRbSTROKE,1jaRbSTROKE,1dYbSTROKE,1jaYbSTROKE,3TURNEtA",
      "3cPz,3TURNEtcPz,3BbHOOK,3OPr O,3CbCURL,3DbTAIL,5HOOK,3vVlSEtE,3SCHWA,4WIs HOOK,3OPr E",
      "3vVlSEtOPr E,6WIs HOOK,3CLOSEtvVlSEtOPr E,3yTkSS JbSTROKE,3GbHOOK,3SCRIPT G",
      "1kTTl j CAPITc G,1jaGAMMA,3RAMS HORN,3TURNEtH,3HbHOOK,3HrGbHOOK,3IbSTROKE,3IOTA",
      "1kTTl j CAPITc I,1jaLbMIDDk uLDE,5BELT,5vTROFkX HOOK,3kZH,3TURNEtM,5WIs LnG kG,3MbHOOK",
      "3NbkFT HOOK,5vTROFkX HOOK,1kTTl j CAPITc N,1jaBevtO,1kTTl j CAPITc OE,1jaCLOSEtOMEGA",
      "3PHI,3TURNEtR,5WIs LnG kG,6HOOK,3RbLnG kG,5TAIL,5FISHHOOK,3vVlSEtRbFISHHOOK",
      "1kTTl j CAPITc R,4gVlTEtR,1jaSbHOOK,3ESH,3yTkSS JbSTROKE itHOOK,3SQUAT vVlSEtESH",
      "3ESHbCURL,3TURNEtT,3TbvTROFkX HOOK,3U Be,3UPSILn,3VbHOOK,3TURNEtV,4W,4Y,1kTTl j CAPITc Y",
      "1jaZbvTROFkX HOOK,5CURL,3EZH,4WIs CURL,1kTTl GLOTTcoTOP,2PHeYNGEc VOICEtFRICAuVE",
      "2gVlTEtGLOTTcoTOP,2STvTCHEtC,2BILABIc CLICK,2j CAPITc B,1jaCLOSEtOPr E",
      "1kTTl j CAPITc GbHOOK,4H,1jaJbCROSSED-TAIL,3TURNEtK,1kTTl j CAPITc L,1jaQbHOOK",
      "1kTTl GLOTTcoTOPbSTROKE,2vVlSEtGLOTTcoTOPbSTROKE,1jaDZ DIGRAPH,3DEZH DIGRAPH",
      "3DZ DIGRAPHbCURL,3TS DIGRAPH,3TESH DIGRAPH,3TC DIGRAPHbCURL,3FrG DIGRAPH,3LS DIGRAPH",
      "3LZ DIGRAPH,1kTTl BILABIc PlCUSSIVE,2BIDrTc PlCUSSIVE,1jaTURNEtHbFISHHOOK,7itTAIL",
      "0MODIFIlaj H,4WIs HOOK,3J,3R,3TURNEtR,5WIs HOOK,3CAPITc gVlTEtR,3W,3Y,2PRIME,2yUBk PRIME",
      "2TURNEtCOMMA,2APOSTROPHE,2vVlSEtCOMMA,2Rf HcF RgG,2kFT HcF RgG,2GLOTTcoTOP",
      "2vVlSEtGLOTTcoTOP,2kFTmHEAD,2RfmHEAD,2UPmHEAD,2yWNmHEAD,2CIRCUMFkX ACCrT,0Cen",
      "0MODIFIlaVluCc LgE,2MACRn,2ACUTE ACCrT,2GRAVE ACCrT,2LOW VluCc LgE,3MACRn,3GRAVE ACCrT",
      "3ACUTE ACCrT,2TRIiGULe COLn,2HcF TRIiGULe COLn,2CrTvtRf HcF RgG,3kFT HcF RgG,2UP TACK",
      "2yWN TACK,2PLUSw,2MgUSw,0BvVE,0yTq,0RgGq,0OGnEK,0j uLDE,0yUBk ACUTE ACCrT",
      "0MODIFIlaRHOuC HOOK,2CROSS ACCrT,2j GAMMA,3L,3S,3X,3vVlSEtGLOTTcoTOP,2EXTRA-HIGH TnE Be",
      "2HIGH TnE Be,2MItTnE Be,2LOW TnE Be,2EXTRA-LOW TnE Be,2Yg DEPeTgG TnE MeK",
      "2YiG DEPeTgG TnE MeK,2VOICgG,2UNASPIRATED,2yUBk APOSTROPHE,2LOW yWNmHEAD,3UPmHEAD",
      "3kFTmHEAD,3RfmHEAD,3RgG,2MIDDk GRAVE ACCrT,3yUBk GRAVE ACCrT,4ACUTE ACCrT,2LOW uLDE",
      "2RAISEtCOLn,2BEGg HIGH TnE,2rtHIGH TnE,2BEGg LOW TnE,2rtLOW TnE,2SHELF,2OProHELF",
      "2LOW kFTm,0COMBggG GRAVE ACCrT,1ACUTE ACCrT,1CIRCUMFkX ACCrT,1uLDE,1MACRn,1OVlLgE,1BvVE",
      "1yTq,1DIAlESIS,1HOOKq,1RgGq,1yUBk ACUTE ACCrT,1Cen,1VluCc LgEq,1yUBk VluCc LgEq",
      "2GRAVE ACCrT,1CiDRABgDU,1gVlTEtBvVE,1TURNEtCOMMAq,1COMMAq,1vVlSEtCOMMAq,1COMMAq Rf",
      "1GRAVE ACCrT BELOW,1ACUTE ACCrT BELOW,1kFT TACK BELOW,1Rf TACK BELOW,1kFT iGkq,1HORN",
      "1kFT HcF RgG BELOW,1UP TACK BELOW,1yWN TACK BELOW,1PLUSw BELOW,1MgUSw BELOW",
      "1PcATcIZEtHOOK BELOW,1vTROFkX HOOK BELOW,1yT BELOW,1DIAlESIS BELOW,1RgG BELOW",
      "1COMMA BELOW,1CEDILLA,1OGnEK,1VluCc LgE BELOW,1BRIDGE BELOW,1gVlTEtyUBk eCH BELOW",
      "1Cen BELOW,1CIRCUMFkX ACCrT BELOW,1BvVE BELOW,1gVlTEtBvVE BELOW,1uLDE BELOW,1MACRn BELOW",
      "1LOW LgE,1yUBk LOW LgE,1uLDE OVlLAY,1SHORToTROKE OVlLAY,1LnGoTROKE OVlLAY",
      "1SHORToOLIDUS OVlLAY,1LnGoOLIDUS OVlLAY,1Rf HcF RgG BELOW,1gVlTEtBRIDGE BELOW",
      "1SQUeE BELOW,1SEAGULL BELOW,1Xq,1VluCc uLDE,1yUBk OVlLgE,1GRAVE TnE MeK,1ACUTE TnE MeK",
      "1GvEK PlISPOMrI,2KORnIS,2DIcYuKA TnOS,2YPOGEGRAMMrI,1BRIDGEq,1EQUcSw BELOW",
      "1yUBk VluCc LgE BELOW,1kFT iGk BELOW,1NOT uLDEq,1HOMOsEuCq,1cMOST EQUc TOq",
      "1kFT Rfm BELOW,1UPxm BELOW,1GRAPHEME JOgl,1RfmHEADq,1kFT HcF RgGq,1FlMATA,1X BELOW",
      "1kFTmHEAtBELOW,1RfmHEAtBELOW,3itUPmHEAtBELOW,2HcF RgGq,1yTq Rf,1ASTlISK BELOW",
      "1yUBk RgG BELOW,1ZIGZAGq,1yUBk BvVE BELOW,2BvVE,2MACRn,3BELOW,2uLDE,2gVlTEtBvVE",
      "2Rfxm BELOW,1LATg jaA,4E,4I,4O,4U,4C,4D,4H,4M,4R,4T,4V,4X,0GvEK dHETA,1jaHETA",
      "1deCzICoAMPI,1jaeCzICoAMPI,1NUMlcw,1LOWl NUMlcw,1dPAMPHYLIi DIGAMMA,1jaPAMPHYLIi DIGAMMA"]),
    (0x37A, [
      "0GvEK YPOGEGRAMMrI,1j vVlSEtLUNATEoIGMAoYMBOL,2yTTEtLUNATEoIGMAoYMBOL",
      "2vVlSEtyTTEtLUNATEoIGMAoYMBOL,1QUESun MeK,1dYOT"]),
    (0x384, ["0GvEK TnOS,1DIcYuKA TnOS,1dcPzbTnOS,1iO TEkIA,1dEPSILnbTnOS,3ETAbTnOS,3IOTAbTnOS"]),
    (0x38C, ["0GvEK dOMICRnbTnOS"]),
    (0x38E, [
      "0GvEK dUPSILnbTnOS,3OMEGAbTnOS,1jaIOTAbDIcYuKA itTnOS,1dcPz,3BETA,3GAMMA,3DELTA,3EPSILn",
      "3ZETA,3ETA,3sETA,3IOTA,3KAPPA,3LAMDA,3MU,3NU,3XI,3OMICRn,3PI,3RHO"]),
    (0x3A3, [
      "0GvEK dSIGMA,3TAU,3UPSILn,3PHI,3CHI,3PSI,3OMEGA,3IOTAbDIcYuKA,3UPSILnbDIcYuKA",
      "1jacPzbTnOS,3EPSILnbTnOS,3ETAbTnOS,3IOTAbTnOS,3UPSILnbDIcYuKA itTnOS,3cPz,3BETA,3GAMMA",
      "3DELTA,3EPSILn,3ZETA,3ETA,3sETA,3IOTA,3KAPPA,3LAMDA,3MU,3NU,3XI,3OMICRn,3PI,3RHO",
      "3FgcoIGMA,3SIGMA,3TAU,3UPSILn,3PHI,3CHI,3PSI,3OMEGA,3IOTAbDIcYuKA,3UPSILnbDIcYuKA",
      "3OMICRnbTnOS,3UPSILnbTnOS,3OMEGAbTnOS,1CAPITc KAIoYMBOL,1BETAoYMBOL,1sETAoYMBOL",
      "1UPSILnbHOOKoYMBOL,3ACUTE itHOOKoYMBOL,3DIAlESIS itHOOKoYMBOL,1PHIoYMBOL,1PIoYMBOL",
      "1KAIoYMBOL,1kTTl eCzIC KOPPA,1jaeCzIC KOPPA,1kTTlouGMA,1jaSuGMA,1kTTl DIGAMMA,1jaDIGAMMA",
      "1kTTl KOPPA,1jaKOPPA,1kTTloAMPI,1jaSAMPI,0COPuC dSHEI,1jaSHEI,1dFEI,1jaFEI,1dKHEI",
      "1jaKHEI,1dHORI,1jaHORI,1dGiGIA,1jaGiGIA,1dSHIMA,1jaSHIMA,1dDEI,1jaDEI,0GvEK KAPPAoYMBOL",
      "1RHOoYMBOL,1LUNATEoIGMAoYMBOL,1kTTl YOT,1CAPITc sETAoYMBOL,1LUNATE EPSILnoYMBOL",
      "1vVlSEtLUNATE EPSILnoYMBOL,1dSHO,1jaSHO,1CAPITc LUNATEoIGMAoYMBOL,2kTTloi,1jaSi",
      "1RHObSTROKEoYMBOL,1CAPITc vVlSEtLUNATEoIGMAoYMBOL,2yTTEtLUNATEoIGMAoYMBOL",
      "2vVlSEtyTTEtLUNATEoIGMAoYMBOL,0CYRILLIC dIEbGRAVE,3IO,3DJE,3GJE,3UKRAgIi IE,3DZE",
      "3BYELORUSSIi-UKRAgIi I,3YI,3JE,3LJE,3NJE,3TSHE,3KJE,3IbGRAVE,3SHORT U,3DZHE,3A,3BE,3VE",
      "3GHE,3DE,3IE,3ZHE,3ZE,3I,3SHORT I,3KA,3EL,3EM,3r,3O,3PE,3l,3ES,3TE,3U,3EF,3z,3TSE,3CHE",
      "3Sz,3SHCz,3HeDw,3YlU,3SOFTw,3E,3YU,3YA,1jaA,3BE,3VE,3GHE,3DE,3IE,3ZHE,3ZE,3I,3SHORT I",
      "3KA,3EL,3EM,3r,3O,3PE,3l,3ES,3TE,3U,3EF,3z,3TSE,3CHE,3Sz,3SHCz,3HeDw,3YlU,3SOFTw,3E,3YU",
      "3YA,3IEbGRAVE,3IO,3DJE,3GJE,3UKRAgIi IE,3DZE,3BYELORUSSIi-UKRAgIi I,3YI,3JE,3LJE,3NJE",
      "3TSHE,3KJE,3IbGRAVE,3SHORT U,3DZHE,1dOMEGA,1jaOMEGA,1dYAT,1jaYAT,1dIOuFIEtE,1jaIOuFIEtE",
      "1dLITTk YUS,1jaLITTk YUS,1dIOuFIEtLITTk YUS,1jaIOuFIEtLITTk YUS,1dBIG YUS,1jaBIG YUS",
      "1dIOuFIEtBIG YUS,1jaIOuFIEtBIG YUS,1dKSI,1jaKSI,1dPSI,1jaPSI,1dFITA,1jaFITA,1dIZHITSA",
      "1jaIZHITSA,1dIZHITSAbyUBk GRAVE ACCrT,1jaIZHITSAbyUBk GRAVE ACCrT,1dUK,1jaUK",
      "1dROUNtOMEGA,1jaROUNtOMEGA,1dOMEGAbuTLO,1jaOMEGAbuTLO,1dOT,1jaOT,1dKOPPA,1jaKOPPA",
      "1sOUSiDSw,0COMBggG CYRILLIC uTLO,2PcATcIZAun,2DASIA PNEUMATA,2PSILI PNEUMATA,2POKRYuE",
      "2HUNDvtsOUSiDSw,2MILLInSw,0CYRILLIC dSHORT IbTAIL,1jaSHORT IbTAIL,1dSEMISOFTw",
      "1jaSEMISOFTw,1dlbuCK,1jalbuCK,1dGHEbUPTURN,1jaGHEbUPTURN,1dGHEbSTROKE,1jaGHEbSTROKE",
      "1dGHEbMIDDk HOOK,1jaGHEbMIDDk HOOK,1dZHEbDESCrDl,1jaZHEbDESCrDl,1dZEbDESCrDl",
      "1jaZEbDESCrDl,1dKAbDESCrDl,1jaKAbDESCrDl,1dKAbVluCcoTROKE,1jaKAbVluCcoTROKE,1dKAbSTROKE",
      "1jaKAbSTROKE,1dBASHKIR KA,1jaBASHKIR KA,1drbDESCrDl,1jarbDESCrDl,1CAPITc LIGATUv r GHE",
      "1j LIGATUv r GHE,1dPEbMIDDk HOOK,1jaPEbMIDDk HOOK,1dABKzSIi z,1jaABKzSIi z,1dESbDESCrDl",
      "1jaESbDESCrDl,1dTEbDESCrDl,1jaTEbDESCrDl,1dSTRAf U,1jaSTRAf U,1dSTRAf UbSTROKE",
      "1jaSTRAf UbSTROKE,1dzbDESCrDl,1jazbDESCrDl,1CAPITc LIGATUv TE TSE,1j LIGATUv TE TSE",
      "1dCHEbDESCrDl,1jaCHEbDESCrDl,1dCHEbVluCcoTROKE,1jaCHEbVluCcoTROKE,1dSHz,1jaSHz",
      "1dABKzSIi CHE,1jaABKzSIi CHE,1dABKzSIi CHEbDESCrDl,1jaABKzSIi CHEbDESCrDl,1kTTl PcOCHKA",
      "1dZHEbBvVE,1jaZHEbBvVE,1dKAbHOOK,1jaKAbHOOK,1dELbTAIL,1jaELbTAIL,1drbHOOK,1jarbHOOK",
      "1drbTAIL,1jarbTAIL,1dKzKASSIi CHE,1jaKzKASSIi CHE,1dEMbTAIL,1jaEMbTAIL,3PcOCHKA,1dAbBvVE",
      "1jaAbBvVE,1dAbDIAlESIS,1jaAbDIAlESIS,1CAPITc LIGATUv A IE,1j LIGATUv A IE,1dIEbBvVE",
      "1jaIEbBvVE,1dSCHWA,1jaSCHWA,1dSCHWAbDIAlESIS,1jaSCHWAbDIAlESIS,1dZHEbDIAlESIS",
      "1jaZHEbDIAlESIS,1dZEbDIAlESIS,1jaZEbDIAlESIS,1dABKzSIi DZE,1jaABKzSIi DZE,1dIbMACRn",
      "1jaIbMACRn,1dIbDIAlESIS,1jaIbDIAlESIS,1dObDIAlESIS,1jaObDIAlESIS,1dBevtO,1jaBevtO",
      "1dBevtObDIAlESIS,1jaBevtObDIAlESIS,1dEbDIAlESIS,1jaEbDIAlESIS,1dUbMACRn,1jaUbMACRn",
      "1dUbDIAlESIS,1jaUbDIAlESIS,1dUbyUBk ACUTE,1jaUbyUBk ACUTE,1dCHEbDIAlESIS,1jaCHEbDIAlESIS",
      "1dGHEbDESCrDl,1jaGHEbDESCrDl,1dYlUbDIAlESIS,1jaYlUbDIAlESIS,1dGHEbSTROKE itHOOK",
      "1jaGHEbSTROKE itHOOK,1dzbHOOK,1jazbHOOK,1dzbSTROKE,1jazbSTROKE,1dKOMI DE,1jaKOMI DE",
      "1dKOMI DJE,1jaKOMI DJE,1dKOMI ZJE,1jaKOMI ZJE,1dKOMI DZJE,1jaKOMI DZJE,1dKOMI LJE",
      "1jaKOMI LJE,1dKOMI NJE,1jaKOMI NJE,1dKOMIoJE,1jaKOMIoJE,1dKOMI TJE,1jaKOMI TJE",
      "1dvVlSEtZE,1javVlSEtZE,1dELbHOOK,1jaELbHOOK,1dLz,1jaLz,1dRz,1jaRz,1dYAE,1jaYAE,1dQA",
      "1jaQA,1dWE,1jaWE,1dcEUT KA,1jacEUT KA,1dELbMIDDk HOOK,1jaELbMIDDk HOOK,1drbMIDDk HOOK",
      "1jarbMIDDk HOOK,1dPEbDESCrDl,1jaPEbDESCrDl,1dSHzbDESCrDl,1jaSHzbDESCrDl,1drbkFT HOOK",
      "1jarbkFT HOOK,1dDZZHE,1jaDZZHE,1dDCHE,1jaDCHE,1dELbDESCrDl,1jaELbDESCrDl"]),
    (0x531, [
      "0eMrIi dAYB,3Br,3GIM,3DA,3ECH,3ZA,3EH,3ET,3TO,3ZHE,3gI,3LIWN,3XEH,3CA,3Kr,3HO,3JA,3GzD",
      "3CHEH,3Mr,3YI,3NOW,3Sz,3VO,3Cz,3PEH,3JHEH,3RA,3SEH,3VEW,3uWN,3vH,3CO,3YIWN,3PIWR,3KEH",
      "3OH,3FEH"]),
    (0x559, [
      "0eMrIi MODIFIlakFT HcF RgG,1APOSTROPHE,1EMPzSIS MeK,1EXCLAMAun MeK,1COMMA,1QUESun MeK",
      "1ABBvVIAun MeK,1jaTURNEtAYB,3AYB,3Br,3GIM,3DA,3ECH,3ZA,3EH,3ET,3TO,3ZHE,3gI,3LIWN,3XEH",
      "3CA,3Kr,3HO,3JA,3GzD,3CHEH,3Mr,3YI,3NOW,3Sz,3VO,3Cz,3PEH,3JHEH,3RA,3SEH,3VEW,3uWN,3vH",
      "3CO,3YIWN,3PIWR,3KEH,3OH,3FEH,2LIGATUv ECH YIWN,2kTTl YIbSTROKE,1FULLoTOP,1HYPHr"]),
    (0x58D, ["0Rf-FACgG eMrIi ETlNITYw,0kFT-FACgG eMrIi ETlNITYw,0eMrIi DRAMw"]),
    (0x591, [
      "0HEBvW ACCrT ETNAHTA,2SEGOL,2SHcSHEkT,2ZAQEF QATi,3GAyL,2uPEz,2vVIA,2ZeQA,2PASHTA,2YEuV",
      "2TEVIR,2GlESH,3MUQDAM,2GlSzYIM,2QeNEY PeA,2TELISz GEyLA,2PAZl,2ATNAH zFUKH,2MUNAH",
      "2MAzPAKH,2MlKz,3KEFULA,2DeGA,2QADMA,2TELISz QETiA,2YlAH Br YOMO,2Ok,2ILUY,2DEHI,2ZgOR",
      "1MeK MASORA CIRCk,1POgToHEVA,2zTAFoEGOL,3PATAH,3QAMATS,2HIRIQ,2TSlE,2SEGOL,2PATAH",
      "2QAMATS,2HOLAM,3zSl FOR VAV,2QUBUTS,2DAGESH OR MAPIQ,2METEG,1PUNCTUAun MAQAF,1POgT RAFE",
      "1PUNCTUAun PASEQ,1POgToHg yT,2Sg yT,1PUNCTUAunoOF PASUQ,1MeK UPPl yT,2LOWl yT",
      "1PUNCTUAun NUN zFUKz,1POgT QAMATS QATi"]),
    (0x5D0, [
      "0HEBvWacEF,2BET,2GIMEL,2DcET,2HE,2VAV,2ZAYg,2HET,2TET,2YOD,2Fgc KAF,2KAF,2LAMED,2Fgc MEM",
      "2MEM,2Fgc NUN,2NUN,2SAMEKH,2AYg,2Fgc PE,2PE,2Fgc TSADI,2TSADI,2QOF,2vSH,2SHg,2TAV"]),
    (0x5EF, [
      "0HEBvW YOtTRIiGk,1LIGATUv YIDDISH yUBk VAV,3VAV YOD,3yUBk YOD,1PUNCTUAun GlESH,2GlSzYIM"]),
    (0x600, [
      "0eABIC NUMBlw,1SIGNoiAH,1FOOTNOTE MeKl,1SIGNoAFz,2SAMVAT,1NUMBl MeKq",
      "0eABIC-gDIC CUBE ROOT,1FOURs ROOT,0eABIC RAY,0eABIC-gDIC Pl MILkw,2Tr sOUSiDw,0AFGHiIw",
      "0eABIC COMMA,1DATEoEPeATOR,1POEuC VlSEw,1SIGN MISRA,2ScLcLAHOU cAYHE WASScLAM",
      "2cAYHE ASScLAM,2RAHMATULLAH cAYHE,2RADI cLAHOU iHU,2TAKHcLUS,1j HIGH TAH",
      "3LIGATUv cEFbLAMbYEH,3ZAg,2FAsA,2DAMMA,2KASRA,1SEMICOLn,1kTTl MeK,1rtOF TEXT MeK",
      "1TRIPk yT PUNCTUAun MeK,1QUESun MeK,1kTTl KASHMIRI YEH,2zMZA,2cEFbMADDAq,4zMZAq",
      "2WAWbzMZAq,2cEFbzMZA BELOW,2YEHbzMZAq,2cEF,2BEH,2TEH MeBUTA,2TEH,2sEH,2JEEM,2zH,2KzH,2Dc",
      "2sc,2vH,2ZAg,2SEr,2SHEr,2SAD,2DAD,2TAH,2ZAH,2Ag,2Gzg,2KEHEHbTWO yTSq,4svE yTS BELOW",
      "2FeSI YEHbgVlTEtV,5TWO yTSq,5svE yTSq,1TATWEEL,1kTTl FEH,2QAF,2KAF,2LAM,2MEEM,2NOn,2HEH",
      "2WAW,2cEF MAKSURA,2YEH,1FAsATi,1DAMMATi,1KASRATi,1FAsA,1DAMMA,1KASRA,1SzDDA,1SUKUN",
      "1MADDAHq,1zMZAq,2BELOW,1SUBSCRIPT cEF,1gVlTEtDAMMA,1MeK NOn GHUNNA,1ZWeAKAY,1VOWELw j Vq",
      "3gVlTEtj Vq,3yT BELOW,1vVlSEtDAMMA,1FAsAbTWO yTS,1WAVY zMZA BELOW,0eABIC-gDIC DIGIT ZlO",
      "2nE,2TWO,2svE,2FOUR,2FIVE,2SIX,2SEVr,2Ef,2NgE,0eABIC PlCrTw,1DECIMcoEPeATOR",
      "1sOUSiDSoEPeATOR,1FIVE POgTEDoTe,1kTTl yTkSS BEH,3QAF,2SUPlSCRIPT cEF,2cEF WASLA",
      "3WIs WAVY zMZAq,6BELOW,2HIGH zMZA,4cEF,4WAW,2UbzMZAq,2HIGH zMZA YEH,2TTEH,2TTEHEH,2BEEH",
      "2TEHbRgG,4svE yTSq yWNx,2PEH,2TEHEH,2BEHEH,2zHbzMZAq,4TWO yTS VluCcq,2NYEH,2DYEH",
      "2zHbsvE yTSq,2TCHEH,2TCHEHEH,2DDc,2DcbRgG,4yT BELOW,6itj TAH,2DAHc,2DDAHc,2DUL",
      "2DcbsvE yTSq yWNx,4FOUR yTSq,2RvH,2vHbj V,4RgG,4yT BELOW,4j V BELOW,4yT BELOW ityTq",
      "4TWO yTSq,2JEH,2vHbFOUR yTSq,2SErbyT BELOW ityTq,4svE yTS BELOW,7itsvE yTSq",
      "2SADbTWO yTS BELOW,4svE yTSq,2TAHbsvE yTSq,2AgbsvE yTSq,2yTkSS FEH,2FEHbyT MOVEtBELOW",
      "5BELOW,2VEH,2FEHbsvE yTS BELOW,2PEHEH,2QAFbyTq,4svE yTSq,2KEHEH,2SWASH KAF,2KAFbRgG,4yTq",
      "2NG,2KAFbsvE yTS BELOW,2GAF,3WIs RgG,2NGOEH,2GAFbTWO yTS BELOW,2GUEH,2GAFbsvE yTSq",
      "2LAMbj V,4yTq,4svE yTSq,6BELOW,2NOnbyT BELOW,3GHUNNA,2RNOn,2NOnbRgG,4svE yTSq",
      "2HEH yACzSHMEE,2TCHEHbyTq,2HEHbYEHq,3GOc,4WIs zMZAq,2TEH MeBUTA GOc,2WAWbRgG,2KIRGHIZ OE",
      "2OE,2U,2YU,2KIRGHIZ YU,2WAWbTWO yTSq,2VE,2FeSI YEH,2YEHbTAIL,4j V,2WAWbyTq,2E",
      "2YEHbsvE yTS BELOW,3BevE,4WIs zMZAq,1FULLoTOP,1kTTl AE",
      "1j HIGH LIGATUvoADbLAMbcEF MAKSURA,4QAFbLAMbcEF MAKSURA,3MEEM gIuch,3LAM cEF,3JEEM",
      "3svE yTS,3SEr,1rtOF AYAH,1STeT OF RUB EL HIZB,1j HIGH ROUNDEtZlO,3UPRf vCTiGULe ZlO",
      "3yTkSS HEAtOF KzH,3MEEMp,2LOWoEr,2HIGH MADDA,2WAW,2YEH,2HIGH YEH,3NOn,1PLACE OFoAJDAH",
      "1EMPTY CrTv LOWoTOP,3HIGHoTOP,1ROUNDEtHIGHoTOPbFILktCrTv,1j LOW MEEM,1kTTl DcbgVlTEtV",
      "2vHbgVlTEtV,0EXTrDEteABIC-gDIC DIGIT ZlO,3nE,3TWO,3svE,3FOUR,3FIVE,3SIX,3SEVr,3Ef,3NgE",
      "0eABICaSHErbyT BELOW,2DADbyT BELOW,2GzgbyT BELOW,1SIGNogDHI AMPlSiD,3POSTPOSIun Mr",
      "1kTTl HEHbgVlTEtV,0SYRIAC rtOF PeAGRAPH,1SUPRcgEe FULLoTOP,1SUBLgEe FULLoTOP",
      "1SUPRcgEe COLn,1SUBLgEe COLn,1HORIZnTc COLn,1COLnoKEWEtkFT,3Rf,1SUPRcgEe COLnoKEWEtkFT",
      "1SUBLgEe COLnoKEWEtRf,1CnTRACun,1HeKki OBELUS,2METOBELUS,2ASTlISCUS"]),
    (0x70F, [
      "0SYRIAC ABBvVIAun MeK,1kTTl cAPH,2SUPlSCRIPT cAPH,2BEs,2GAMc,3GeSHUNI,2DcAs",
      "2yTkSS DcAs RISH,2HE,2WAW,2ZAg,2HEs,2TEs,3GeSHUNI,2YUDH,3HE,2KAPH,2LAMADH,2MIM,2NUN",
      "2SEMKAs,2FgcoEMKAs,2E,2PE,2vVlSEtPE,2SADHE,2QAPH,2RISH,2SHg,2TAW,2PlSIi BHEs,3GzMc",
      "3DHcAs,1PsAzq,2BELOW,2yTTED,1ZQAPzq,2BELOW,2yTTED,1RBASAq,2BELOW,1yTTEtZLAMA HORIZnTc",
      "3iGULe,1HBASAq,2BELOW,1HBASA-ESASA yTTED,1ESASAq,2BELOW,1RWAz,1FEMggE yT,1QUSHSzYA",
      "1RUKKAKz,1TWO VluCc yTSq,4BELOW,1svE yTSq,3BELOW,1OBLIQUE LgEq,3BELOW,1MUSIC,1BevKH"]),
    (0x74D, [
      "0SYRIACaSOGDIi Zzg,3KzPH,3FE,0eABICaBEHbsvE yTS HORIZnTcLY BELOW,4yT BELOW itsvE yTSq",
      "4svE yTS POgTgG UPx BELOW,9itTWO yTSq,4TWO yTS BELOW ityTq,4gVlTEtj V BELOW,4j V",
      "2zHbTWO yTSq,4svE yTS POgTgG UPx BELOW,2DcbTWO yTS VluCcLY BELOW itj TAH",
      "4gVlTEtj V BELOW,2vHbSTROKE,2SErbFOUR yTSq,2AgbTWO yTSq,4svE yTS POgTgG yWNxq",
      "4TWO yTS VluCcLYq,2FEHbTWO yTS BELOW,4svE yTS POgTgG UPx BELOW,2KEHEHbyTq,4svE yTSq",
      "6POgTgG UPx BELOW,2MEEMbyTq,5BELOW,2NOnbTWO yTS BELOW,4j TAH,5V,2LAMbBe",
      "2vHbTWO yTS VluCcLYq,4zMZAq,2SErbTWO yTS VluCcLYq,2zHbj eABICaTAH BELOW,8itTWO yTS",
      "2SErbj eABICaTAH itTWO yTS,2vHbj eABICaTAH itTWO yTS,2zHbj eABICaTAHq",
      "2cEFbEXTrDEteABIC-gDIC DIGIT TWOq,7svEq,2FeSI YEHbEXTrDEteABIC-gDIC DIGIT TWOq,8svEq",
      "8FOUR BELOW,2WAWbEXTrDEteABIC-gDIC DIGIT TWOq,7svEq",
      "2YEH BevEbEXTrDEteABIC-gDIC DIGIT TWOq,8svEq,2zHbEXTrDEteABIC-gDIC DIGIT FOUR BELOW",
      "2SErbEXTrDEteABIC-gDIC DIGIT FOURq,4gVlTEtV,2KAFbTWO yTSq,0sAiAazA,2SzVIYiI,2NOnU,2RAA",
      "2BAA,2LzVIYiI,2KAAFU,2cIFU,2VAAVU,2MEEMU,2FAAFU,2DzcU,2sAA,2LAAMU,2GAAFU,2GNAVIYiI,2SErU",
      "2DAVIYiI,2ZAVIYiI,2TAVIYiI,2YAA,2PAVIYiI,2JAVIYiI,2CzVIYiI,2TTAA,2HzA,2KzA,2sAcU,2ZAA",
      "2SHErU,2SAADHU,2DAADHU,2TO,2ZO,2AgU,2GzgU,2QAAFU,2WAAVU,1ABAFILI,1AABAAFILI,1IBIFILI",
      "1EEBEEFILI,1UBUFILI,1OOBOOFILI,1EBEFILI,1EYBEYFILI,1OBOFILI,1OABOAFILI,1SUKUN,1kTTl NAA"]),
    (0x7C0, [
      "0NKO DIGIT ZlO,2nE,2TWO,2svE,2FOUR,2FIVE,2SIX,2SEVr,2Ef,2NgE,1kTTl A,2EE,2I,2E,2U,2OO,2O",
      "2DAGBASgNA,2N,2BA,2PA,2TA,2JA,2Cz,2DA,2RA,2RRA,2SA,2GBA,2FA,2KA,2LA,2NA WOLOSO,2MA,2NYA",
      "2NA,2z,2WA,2YA,2NYA WOLOSO,2JnA JA,3Cz,3RA,1COMBggGoHORT HIGH TnE,3LOW TnE,3RISgG TnE",
      "2LnG DESCrDgG TnE,3HIGH TnE,3LOW TnE,3RISgG TnE,2NAScIZAun MeK,2yUBk yTq",
      "1HIGH TnE APOSTROPHE,1LOW TnE APOSTROPHE,1SYMBOL OO DrNr,2GBAKURUNr,1COMMA",
      "1EXCLAMAun MeK,1LAJiYci"]),
    (0x7FD, [
      "0NKO DiTAYci,1yROMEw,1TAMiw,0SAMeITiacAF,2BIT,2GAMi,2DcAT,2IY,2BAA,2Zr,2IT,2uT,2YUT",
      "2KAAF,2LABAT,2MIM,2NUN,2SgGAAT,2g,2FI,2TSAADIY,2QUF,2RISH,2SHi,2TAAF,1MeK g,2g-cAF",
      "2OCCLUSIn,2DAGESH,1MODIFIlaEPrsEuC YUT,1MeK EPrsEuC YUT,1VOWELw LnG E,3E,3OVlLnG AA",
      "3LnG AA,3AA,3OVlLnG A,3LnG A,3A,1MODIFIlaSHORT A,1VOWELwoHORT A,3LnG U,3U,1MODIFIlaI",
      "1VOWELw LnG I,3I,3O,3SUKUN,1MeK NEQUDAA"]),
    (0x830, [
      "0SAMeITi PUNCTUAun NEQUDAA,2AFSAAQ,2iGED,2BAU,2ATMAAU,2SHIYYAcAA,1ABBvVIAun MeK",
      "1PUNCTUAun MELODIC QITSA,2ZIQAA,2QITSA,2ZAEF,2TURU,2eKAiU,2SOF MASHFAAT,2iNAAU"]),
    (0x840, [
      "0MiDAICaHcQA,2AB,2AG,2AD,2AH,2USHrNA,2AZ,2IT,2ATT,2AKSA,2AK,2c,2AM,2i,2AS,2g,2AP,2ASZ",
      "2AQ,2e,2ASH,2AT,2DUSHrNA,2KAD,2Ag,1AFFRICAun MeK,1VOCcIZAun MeK,1GEMgAun MeK"]),
    (0x85E, ["0MiDAIC PUNCTUAun"]),
    (0x860, ["0SYRIACaMcAYcAM NGA,3JA,3NYA,3TTA,3NNA,3NNNA,3Bz,3RA,3LLA,3LLLA,3SSA"]),
    (0x870, [
      "0eABICacEFbATTACHEtFAsA,5TOP Rf FAsA,4Rf MIDDkoTROKE,4kFT MIDDkoTROKE,4ATTACHEtKASRA",
      "5BOTTOM Rf KASRA,5ROUNtyTq,5Rf ROUNtyT,5kFT ROUNtyT,5ROUNtyT BELOW,4yTq",
      "4ATTACHEtTOP Rf FAsA ityTq,4Rf MIDDkoTROKE ityTq,4ATTACHEtBOTTOM Rf KASRA ityTq",
      "5TOP Rf FAsA itkFT RgG,4Rf MIDDkoTROKE itkFT RgG,4ATTACHEtBOTTOM Rf KASRA itkFT RgG",
      "5Rf zMZA,5kFT zMZA,1TATWEELbOVlSTRUCK zMZA,4WAW,3TWO yTS BELOW,1kTTl sg YEH",
      "1BASELgE ROUNtyT,1RAISEtROUNtyT,1kTTl NOnbgVlTEtj V,2zHbgVlTEtj V BELOW,2TAHbyT BELOW",
      "4svE yTS BELOW,2KEHEHbTWO yTS VluCcLY BELOW,1VluCc TAIL"]),
    (0x890, ["0eABIC POUNtMeKq,1PIASTv MeKq"]),
    (0x898, [
      "0eABIC j HIGH WORtc-JUZ,2LOW WORtISHMAAM,4IMAcA,4TASHEEL,1MADDA WAAJIB",
      "1SUPlSCRIPT cEF MOKzSSAS,1yUBktMADDA,1HcF MADDA OVl MADDA,1kTTl BEHbj V BELOW,4zMZAq",
      "2JEEMbTWO yTSq,2TAHbTWO yTSq,2FEHbyT BELOW itsvE yTSq,2QAFbyT BELOW,2LAMbyUBk Be",
      "2MEEMbsvE yTSq,2YEHbTWO yTS BELOW itzMZAq,8yTq,2vHbLOOP,2WAWbyT WIsg,2ROHgGYA YEH",
      "2LOW cEF,2DcbsvE yTS BELOW,2SADbsvE yTS BELOW,2GAFbgVlTEDoTROKE,2STRAf WAW,2ZAgbgVlTEtVq",
      "2AgbsvE yTS BELOW,2KAFbyT BELOW,2QAFbyT BELOW itNO yTSq,2BEHbj MEEMq,2PEHbj MEEMq",
      "2TEHbj TEHq,2vHbj NOnq,2YEHbTWO yTS BELOW itj NOnq,2AFRICi FEH,3QAF,3NOn,2PEHbj V",
      "2TEHbj V,2TTEHbj V,2TCHEHbj V,2KEHEHbj V,2GzgbsvE yTSq,2AFRICi QAFbsvE yTSq",
      "2JEEMbsvE yTSq,6BELOW,2LAMbj eABICaTAHq,2GRAF,1j FeSI YEH,2HIGH FeSI YEH",
      "3YEH BevEbTWO yTS BELOW,3WORDoAH,3ZAH,1LeGE ROUNtyTq,4BELOW,1SUKUN BELOW",
      "1LeGE CIRCk BELOW,2ROUNtyT gSIDE CIRCk BELOW,1j LOW WAW,2HIGH WORte-RUB,3SAD,3Ag,3QAF",
      "3NOnbKASRA,2LOW NOnbKASRA,2HIGH WORtAs-scAsA,4AS-SAJDA,4i-NISF,4SAKTA,4QIF,4WAQFA",
      "3FOOTNOTE MeKl,3SIGNoAFz,1DISPUTEtrtOF AYAH,1TURNEtDAMMA BELOW,1CURLY FAsA,2DAMMA,2KASRA",
      "2FAsATi,2DAMMATi,2KASRATi,1TnE nE yTq,2TWO yTSq,2LOOPq,2nE yT BELOW,2TWO yTS BELOW",
      "2LOOP BELOW,1OPr FAsATi,2DAMMATi,2KASRATi,1j HIGH WAW,1FAsAbRgG,3yTq,1KASRAbyT BELOW",
      "1kFTmHEADq,1RfmHEADq,1kFTmHEAtBELOW,1RfmHEAtBELOW,1yUBk RfmHEADq,5WIs yT,1RfmHEADqbyT",
      "1DAMMAbyT,1MeKoIDEWAYS NOn GHUNNA,0DEViAGeIw gVlTEtCiDRABgDU,2CiDRABgDU,2iUSVeA,2VISeGA",
      "1kTTloHORT A,2A,2AA,2I,2II,2U,2UU,2VOCcIC R,3L,2CiDRA E,2SHORT E,2E,2AI,2CiDRA O",
      "2SHORT O,2O,2AU,2KA,2Kz,2GA,2Gz,2NGA,2CA,2Cz,2JA,2Jz,2NYA,2TTA,2TsA,2DDA,2DDz,2NNA,2TA",
      "2sA,2DA,2Dz,2NA,2NNNA,2PA,2Pz,2BA,2Bz,2MA,2YA,2RA,2RRA,2LA,2LLA,2LLLA,2VA,2Sz,2SSA,2SA",
      "2z,1VOWELw OE,3OOE,1SIGN NUKTA,2AVAGRAz,1VOWELw AA,3I,3II,3U,3UU,3VOCcIC R,4RR,3CiDRA E",
      "3SHORT E,3E,3AI,3CiDRA O,3SHORT O,3O,3AU,1SIGN VIRAMA,1VOWELw PRISHsAMATRA E,3AW,1OM",
      "1STvSSw UDATTA,3iUDATTA,1GRAVE ACCrT,1ACUTE ACCrT,1VOWELw CiDRA LnG E,3UE,3UUE,1kTTl QA",
      "2KHz,2GHz,2ZA,2DDDz,2Rz,2FA,2YYA,2VOCcIC RR,3LL,1VOWELw VOCcIC L,4LL,1DiDA,1yUBk DiDA",
      "1DIGIT ZlO,2nE,2TWO,2svE,2FOUR,2FIVE,2SIX,2SEVr,2Ef,2NgE,1ABBvVIAunw,1SIGN HIGHoPACgG yT",
      "1kTTl CiDRA A,2OE,2OOE,2AW,2UE,2UUE,2MeWeI DDA,2Zz,2HEAVY YA,2GGA,2JJA,2GLOTTcoTOP,2DDDA",
      "2BBA,0BrGcI iJI,1SIGN CiDRABgDU,2iUSVeA,2VISeGA"]),
    (0x985, ["0BrGcIaA,2AA,2I,2II,2U,2UU,2VOCcIC R,3L"]),
    (0x98F, ["0BrGcIaE,2AI"]),
    (0x993, [
      "0BrGcIaO,2AU,2KA,2Kz,2GA,2Gz,2NGA,2CA,2Cz,2JA,2Jz,2NYA,2TTA,2TsA,2DDA,2DDz,2NNA,2TA,2sA",
      "2DA,2Dz,2NA"]),
    (0x9AA, ["0BrGcIaPA,2Pz,2BA,2Bz,2MA,2YA,2RA"]),
    (0x9B2, ["0BrGcIaLA"]),
    (0x9B6, ["0BrGcIaSz,2SSA,2SA,2z"]),
    (0x9BC, ["0BrGcIw NUKTA,2AVAGRAz,1VOWELw AA,3I,3II,3U,3UU,3VOCcIC R,4RR"]),
    (0x9C7, ["0BrGcI VOWELw E,3AI"]),
    (0x9CB, ["0BrGcI VOWELw O,3AU,1SIGN VIRAMA,1kTTl KHiDA TA"]),
    (0x9D7, ["0BrGcI AU kNGs MeK"]),
    (0x9DC, ["0BrGcIaRRA,2Rz"]),
    (0x9DF, ["0BrGcIaYYA,2VOCcIC RR,3LL,1VOWELw VOCcIC L,4LL"]),
    (0x9E6, [
      "0BrGcI DIGIT ZlO,2nE,2TWO,2svE,2FOUR,2FIVE,2SIX,2SEVr,2Ef,2NgE,1kTTl RAbMIDDk DIAGnc",
      "4LOWl DIAGnc,1RUPEE MeK,2SIGN,1CURRrCY NUMlATOR nE,3TWO,3svE,3FOUR",
      "3nE kSS si sE DrOMgATOR,2DrOMgATORoIXTEr,1ISSHe,1GiDA MeK,1kTTl VEDIC iUSVeA,1ABBvVIAunw",
      "1SiDHI MeK"]),
    (0xA01, ["0GURMUKHIw ADAK BgDI,2BgDI,2VISeGA"]),
    (0xA05, ["0GURMUKHIaA,2AA,2I,2II,2U,2UU"]),
    (0xA0F, ["0GURMUKHIaEE,2AI"]),
    (0xA13, [
      "0GURMUKHIaOO,2AU,2KA,2Kz,2GA,2Gz,2NGA,2CA,2Cz,2JA,2Jz,2NYA,2TTA,2TsA,2DDA,2DDz,2NNA,2TA",
      "2sA,2DA,2Dz,2NA"]),
    (0xA2A, ["0GURMUKHIaPA,2Pz,2BA,2Bz,2MA,2YA,2RA"]),
    (0xA32, ["0GURMUKHIaLA,2LLA"]),
    (0xA35, ["0GURMUKHIaVA,2Sz"]),
    (0xA38, ["0GURMUKHIaSA,2z"]),
    (0xA3C, ["0GURMUKHIw NUKTA"]),
    (0xA3E, ["0GURMUKHI VOWELw AA,3I,3II,3U,3UU"]),
    (0xA47, ["0GURMUKHI VOWELw EE,3AI"]),
    (0xA4B, ["0GURMUKHI VOWELw OO,3AU,1SIGN VIRAMA"]),
    (0xA51, ["0GURMUKHIw UDAAT"]),
    (0xA59, ["0GURMUKHIaKHz,2GHz,2ZA,2RRA"]),
    (0xA5E, ["0GURMUKHIaFA"]),
    (0xA66, [
      "0GURMUKHI DIGIT ZlO,2nE,2TWO,2svE,2FOUR,2FIVE,2SIX,2SEVr,2Ef,2NgE,1uPPI,1ADDAK,1IRI,1URA",
      "1EK nKe,1SIGN YAKASH,1ABBvVIAunw"]),
    (0xA81, ["0GUJeAuw CiDRABgDU,2iUSVeA,2VISeGA"]),
    (0xA85, ["0GUJeAuaA,2AA,2I,2II,2U,2UU,2VOCcIC R,3L,1VOWEL CiDRA E"]),
    (0xA8F, ["0GUJeAuaE,2AI,1VOWEL CiDRA O"]),
    (0xA93, [
      "0GUJeAuaO,2AU,2KA,2Kz,2GA,2Gz,2NGA,2CA,2Cz,2JA,2Jz,2NYA,2TTA,2TsA,2DDA,2DDz,2NNA,2TA,2sA",
      "2DA,2Dz,2NA"]),
    (0xAAA, ["0GUJeAuaPA,2Pz,2BA,2Bz,2MA,2YA,2RA"]),
    (0xAB2, ["0GUJeAuaLA,2LLA"]),
    (0xAB5, ["0GUJeAuaVA,2Sz,2SSA,2SA,2z"]),
    (0xABC, ["0GUJeAuw NUKTA,2AVAGRAz,1VOWELw AA,3I,3II,3U,3UU,3VOCcIC R,4RR,3CiDRA E"]),
    (0xAC7, ["0GUJeAu VOWELw E,3AI,3CiDRA O"]),
    (0xACB, ["0GUJeAu VOWELw O,3AU,1SIGN VIRAMA"]),
    (0xAD0, ["0GUJeAu OM"]),
    (0xAE0, ["0GUJeAuaVOCcIC RR,3LL,1VOWELw VOCcIC L,4LL"]),
    (0xAE6, [
      "0GUJeAu DIGIT ZlO,2nE,2TWO,2svE,2FOUR,2FIVE,2SIX,2SEVr,2Ef,2NgE,1ABBvVIAunw,1RUPEEw"]),
    (0xAF9, [
      "0GUJeAuaZz,1SIGNoUKUN,2SzDDA,2MADDAH,2svE-yT NUKTAq,2CIRCk NUKTAq,2TWO-CIRCk NUKTAq"]),
    (0xB01, ["0ORIYAw CiDRABgDU,2iUSVeA,2VISeGA"]),
    (0xB05, ["0ORIYAaA,2AA,2I,2II,2U,2UU,2VOCcIC R,3L"]),
    (0xB0F, ["0ORIYAaE,2AI"]),
    (0xB13, [
      "0ORIYAaO,2AU,2KA,2Kz,2GA,2Gz,2NGA,2CA,2Cz,2JA,2Jz,2NYA,2TTA,2TsA,2DDA,2DDz,2NNA,2TA,2sA",
      "2DA,2Dz,2NA"]),
    (0xB2A, ["0ORIYAaPA,2Pz,2BA,2Bz,2MA,2YA,2RA"]),
    (0xB32, ["0ORIYAaLA,2LLA"]),
    (0xB35, ["0ORIYAaVA,2Sz,2SSA,2SA,2z"]),
    (0xB3C, ["0ORIYAw NUKTA,2AVAGRAz,1VOWELw AA,3I,3II,3U,3UU,3VOCcIC R,4RR"]),
    (0xB47, ["0ORIYA VOWELw E,3AI"]),
    (0xB4B, ["0ORIYA VOWELw O,3AU,1SIGN VIRAMA"]),
    (0xB55, ["0ORIYAw OVlLgE,1AI kNGs MeK,1AU kNGs MeK"]),
    (0xB5C, ["0ORIYAaRRA,2Rz"]),
    (0xB5F, ["0ORIYAaYYA,2VOCcIC RR,3LL,1VOWELw VOCcIC L,4LL"]),
    (0xB66, [
      "0ORIYA DIGIT ZlO,2nE,2TWO,2svE,2FOUR,2FIVE,2SIX,2SEVr,2Ef,2NgE,1ISSHe,1kTTl WA",
      "1FRACun nE QUeTl,3HcF,2svE QUeTlS,2nEoIXTErs,3EfH,2svEoIXTErsS"]),
    (0xB82, ["0TAMILw iUSVeA,2VISeGA"]),
    (0xB85, ["0TAMILaA,2AA,2I,2II,2U,2UU"]),
    (0xB8E, ["0TAMILaE,2EE,2AI"]),
    (0xB92, ["0TAMILaO,2OO,2AU,2KA"]),
    (0xB99, ["0TAMILaNGA,2CA"]),
    (0xB9C, ["0TAMILaJA"]),
    (0xB9E, ["0TAMILaNYA,2TTA"]),
    (0xBA3, ["0TAMILaNNA,2TA"]),
    (0xBA8, ["0TAMILaNA,2NNNA,2PA"]),
    (0xBAE, ["0TAMILaMA,2YA,2RA,2RRA,2LA,2LLA,2LLLA,2VA,2Sz,2SSA,2SA,2z"]),
    (0xBBE, ["0TAMIL VOWELw AA,3I,3II,3U,3UU"]),
    (0xBC6, ["0TAMIL VOWELw E,3EE,3AI"]),
    (0xBCA, ["0TAMIL VOWELw O,3OO,3AU,1SIGN VIRAMA"]),
    (0xBD0, ["0TAMIL OM"]),
    (0xBD7, ["0TAMIL AU kNGs MeK"]),
    (0xBE6, [
      "0TAMIL DIGIT ZlO,2nE,2TWO,2svE,2FOUR,2FIVE,2SIX,2SEVr,2Ef,2NgE,1NUMBl Tr,2nE HUNDvD",
      "3sOUSiD,1DAYw,1Mnsw,1YEew,1DEBITw,1CvDITw,1ASqw,1RUPEEw,1NUMBlw"]),
    (0xC00, [
      "0TELUGUw COMBggG CiDRABgDUq,2CiDRABgDU,2iUSVeA,2VISeGA,2COMBggG iUSVeAq,1kTTl A,2AA,2I",
      "2II,2U,2UU,2VOCcIC R,3L"]),
    (0xC0E, ["0TELUGUaE,2EE,2AI"]),
    (0xC12, [
      "0TELUGUaO,2OO,2AU,2KA,2Kz,2GA,2Gz,2NGA,2CA,2Cz,2JA,2Jz,2NYA,2TTA,2TsA,2DDA,2DDz,2NNA,2TA",
      "2sA,2DA,2Dz,2NA"]),
    (0xC2A, ["0TELUGUaPA,2Pz,2BA,2Bz,2MA,2YA,2RA,2RRA,2LA,2LLA,2LLLA,2VA,2Sz,2SSA,2SA,2z"]),
    (0xC3C, ["0TELUGUw NUKTA,2AVAGRAz,1VOWELw AA,3I,3II,3U,3UU,3VOCcIC R,4RR"]),
    (0xC46, ["0TELUGU VOWELw E,3EE,3AI"]),
    (0xC4A, ["0TELUGU VOWELw O,3OO,3AU,1SIGN VIRAMA"]),
    (0xC55, ["0TELUGU kNGs MeK,1AI kNGs MeK"]),
    (0xC58, ["0TELUGUaTSA,2DZA,2RRRA"]),
    (0xC5D, ["0TELUGUaNAKAeA POLLU"]),
    (0xC60, ["0TELUGUaVOCcIC RR,3LL,1VOWELw VOCcIC L,4LL"]),
    (0xC66, ["0TELUGU DIGIT ZlO,2nE,2TWO,2svE,2FOUR,2FIVE,2SIX,2SEVr,2Ef,2NgE"]),
    (0xC77, [
      "0TELUGUwoIDDzM,1FRACun DIGIT ZlO FOR ODtPOWlS OF FOUR,3nE FOR ODtPOWlS OF FOUR",
      "3TWO FOR ODtPOWlS OF FOUR,3svE FOR ODtPOWlS OF FOUR,3nE FOR EVr POWlS OF FOUR",
      "3TWO FOR EVr POWlS OF FOUR,3svE FOR EVr POWlS OF FOUR,1SIGN TUUMU",
      "0KiNADAwoPACgG CiDRABgDU,2CiDRABgDU,2iUSVeA,2VISeGA,2SIDDzM,1kTTl A,2AA,2I,2II,2U,2UU",
      "2VOCcIC R,3L"]),
    (0xC8E, ["0KiNADAaE,2EE,2AI"]),
    (0xC92, [
      "0KiNADAaO,2OO,2AU,2KA,2Kz,2GA,2Gz,2NGA,2CA,2Cz,2JA,2Jz,2NYA,2TTA,2TsA,2DDA,2DDz,2NNA,2TA",
      "2sA,2DA,2Dz,2NA"]),
    (0xCAA, ["0KiNADAaPA,2Pz,2BA,2Bz,2MA,2YA,2RA,2RRA,2LA,2LLA"]),
    (0xCB5, ["0KiNADAaVA,2Sz,2SSA,2SA,2z"]),
    (0xCBC, ["0KiNADAw NUKTA,2AVAGRAz,1VOWELw AA,3I,3II,3U,3UU,3VOCcIC R,4RR"]),
    (0xCC6, ["0KiNADA VOWELw E,3EE,3AI"]),
    (0xCCA, ["0KiNADA VOWELw O,3OO,3AU,1SIGN VIRAMA"]),
    (0xCD5, ["0KiNADA kNGs MeK,1AI kNGs MeK"]),
    (0xCDD, ["0KiNADAaNAKAeA POLLU,2FA"]),
    (0xCE0, ["0KiNADAaVOCcIC RR,3LL,1VOWELw VOCcIC L,4LL"]),
    (0xCE6, ["0KiNADA DIGIT ZlO,2nE,2TWO,2svE,2FOUR,2FIVE,2SIX,2SEVr,2Ef,2NgE"]),
    (0xCF1, ["0KiNADAw JIHVAMULIYA,2UPADHMiIYA"]),
    (0xD00, [
      "0McAYcAMw COMBggG iUSVeAq,2CiDRABgDU,2iUSVeA,2VISeGA,1kTTl VEDIC iUSVeA,2A,2AA,2I,2II,2U",
      "2UU,2VOCcIC R,3L"]),
    (0xD0E, ["0McAYcAMaE,2EE,2AI"]),
    (0xD12, [
      "0McAYcAMaO,2OO,2AU,2KA,2Kz,2GA,2Gz,2NGA,2CA,2Cz,2JA,2Jz,2NYA,2TTA,2TsA,2DDA,2DDz,2NNA",
      "2TA,2sA,2DA,2Dz,2NA,2NNNA,2PA,2Pz,2BA,2Bz,2MA,2YA,2RA,2RRA,2LA,2LLA,2LLLA,2VA,2Sz,2SSA",
      "2SA,2z,2TTTA,1SIGN VluCc Be VIRAMA,2CIRCULe VIRAMA,2AVAGRAz,1VOWELw AA,3I,3II,3U,3UU",
      "3VOCcIC R,4RR"]),
    (0xD46, ["0McAYcAM VOWELw E,3EE,3AI"]),
    (0xD4A, ["0McAYcAM VOWELw O,3OO,3AU,1SIGN VIRAMA,1kTTl yT vPH,1SIGN PeA"]),
    (0xD54, [
      "0McAYcAMaCHILLU M,3Y,3LLL,1AU kNGs MeK,1FRACun nE nE-HUNDvD-iD-SIXuEs,3FORuEs",
      "2svE EfIEsS,2nE TWruEs,3Trs,2svE TWruEsS,2nE FIFs,1kTTl eCzIC II,2VOCcIC RR,3LL",
      "1VOWELw VOCcIC L,4LL"]),
    (0xD66, [
      "0McAYcAM DIGIT ZlO,2nE,2TWO,2svE,2FOUR,2FIVE,2SIX,2SEVr,2Ef,2NgE,1NUMBl Tr,2nE HUNDvD",
      "3sOUSiD,1FRACun nE QUeTl,3HcF,2svE QUeTlS,2nEoIXTErs,3EfH,2svEoIXTErsS,1DATE MeK",
      "1kTTl CHILLU NN,3N,3RR,3L,3LL,3K"]),
    (0xD81, ["0SgHcAw CiDRABgDU,2iUSVeAYA,2VISeGAYA"]),
    (0xD85, [
      "0SgHcAaAYiNA,2AAYiNA,2AEYiNA,2AEEYiNA,2IYiNA,2IIYiNA,2UYiNA,2UUYiNA,2IRUYiNA,2IRUUYiNA",
      "2ILUYiNA,2ILUUYiNA,2EYiNA,2EEYiNA,2AIYiNA,2OYiNA,2OOYiNA,2AUYiNA"]),
    (0xD9A, [
      "0SgHcAacPAPRAiA KAYiNA,2MAzAPRAiA KAYiNA,2cPAPRAiA GAYiNA,2MAzAPRAiA GAYiNA",
      "2KiTAJA NAASIKYAYA,2SiYAKA GAYiNA,2cPAPRAiA CAYiNA,2MAzAPRAiA CAYiNA,2cPAPRAiA JAYiNA",
      "2MAzAPRAiA JAYiNA,2TAcUJA NAASIKYAYA,3SiYOOGA NAAKSIKYAYA,2SiYAKA JAYiNA",
      "2cPAPRAiA TTAYiNA,2MAzAPRAiA TTAYiNA,2cPAPRAiA DDAYiNA,2MAzAPRAiA DDAYiNA",
      "2MUURDzJA NAYiNA,2SiYAKA DDAYiNA,2cPAPRAiA TAYiNA,2MAzAPRAiA TAYiNA,2cPAPRAiA DAYiNA",
      "2MAzAPRAiA DAYiNA,2DiTAJA NAYiNA"]),
    (0xDB3, [
      "0SgHcAaSiYAKA DAYiNA,2cPAPRAiA PAYiNA,2MAzAPRAiA PAYiNA,2cPAPRAiA BAYiNA",
      "2MAzAPRAiA BAYiNA,2MAYiNA,2AMBA BAYiNA,2YAYiNA,2RAYiNA"]),
    (0xDBD, ["0SgHcAaDiTAJA LAYiNA"]),
    (0xDC0, [
      "0SgHcAaVAYiNA,2TAcUJAoAYiNA,2MUURDzJAoAYiNA,2DiTAJAoAYiNA,2zYiNA,2MUURDzJA LAYiNA",
      "2FAYiNA"]),
    (0xDCA, ["0SgHcAw c-LAKUNA"]),
    (0xDCF, [
      "0SgHcA VOWELw AELA-PILLA,3KETu AEDA-PILLA,3DIGA AEDA-PILLA,3KETu IS-PILLA,3DIGA IS-PILLA",
      "3KETu PAA-PILLA"]),
    (0xDD6, ["0SgHcA VOWELw DIGA PAA-PILLA"]),
    (0xDD8, [
      "0SgHcA VOWELw GAETTA-PILLA,3KOMBUVA,3DIGA KOMBUVA,3KOMBU DEKA,3KOMBUVA zA AELA-PILLA",
      "5DIGA AELA-PILLA,5GAYiUKITTA,3GAYiUKITTA"]),
    (0xDE6, ["0SgHcA LIs DIGIT ZlO,3nE,3TWO,3svE,3FOUR,3FIVE,3SIX,3SEVr,3Ef,3NgE"]),
    (0xDF2, ["0SgHcA VOWELw DIGA GAETTA-PILLA,4GAYiUKITTA,1PUNCTUAun KUNDDcIYA"]),
    (0xE01, [
      "0sAI CHeACTl KO KAI,2KHO KzI,3KHUAT,3KHWAI,3KHn,3RAKHiG,2NGO NGU,2CHO CHi,3CHgG,3CHiG",
      "2SOoO,2CHO CHOE,2YO YgG,2y CzDA,2TO PATAK,2sO si,3NiGMnsO,3PHUsAO,2NO Nr,2y DEK,2TO TAO",
      "2sO sUNG,3sAHi,3snG,2NO NU,2BO BAIMAI,2PO PLA,2PHO PHUNG,2FO FA,2PHO PHi,2FO Fi",
      "2PHOoAMPzO,2MO MA,2YO YAK,2RO RUA,2RU,2LO LgG,2LU,2WO WAr,2SOocA,3RUSI,3SUA,2HO HIP",
      "2LO CHULA,2O iG,2HO NOKHUK,2PAIYiNOI,2SeA A,2MAI Hi-AKAT,2SeA AA,3AM,3I,3II,3UE,3UEE,3U",
      "3UU,2PHgsU"]),
    (0xE3F, [
      "0sAI CURRrCYoYMBOL BAHT,1CHeACTloeA E,3AE,3O,3AI MAIMUi,4MAIMcAI,2LAKKHiGYAO,2MAIYAMOK",
      "2MAITAIKHU,2MAI EK,3sO,3TRI,3CzTTAWA,2sisAKzT,2NIKzHIT,2YAMAKKi,2FnGMi,1DIGIT ZlO,2nE",
      "2TWO,2svE,2FOUR,2FIVE,2SIX,2SEVr,2Ef,2NgE,1CHeACTl iGKHiKHU,2KHOMUT"]),
    (0xE81, ["0LAOaKO,2KHOoUNG"]),
    (0xE84, ["0LAOaKHO TAM"]),
    (0xE86, ["0LAOaPcI Gz,2NGO,2CO,2PcI Cz,2SO TAM"]),
    (0xE8C, [
      "0LAOaPcI Jz,2NYO,2PcI NYA,3TTA,3TsA,3DDA,3DDz,3NNA,2y,2TO,2sOoUNG,3TAM,2PcI Dz,2NO,2BO",
      "2PO,2PHOoUNG,2FO TAM,2PHO TAM,2FOoUNG,2PcI Bz,2MO,2YO,2LO LgG"]),
    (0xEA5, ["0LAOaLO LOOT"]),
    (0xEA7, [
      "0LAOaWO,2SiSKRIToz,3SSA,2SOoUNG,2HOoUNG,2PcI LLA,2O,2HO TAM,1ELLIPSIS,1VOWELw A,3MAI Ki",
      "3AA,3AM,3I,3II,3Y,3YY,3U,3UU,1SIGN PcI VIRAMA,1VOWELw MAI Kn,1SEMIVOWELw LO,3NYO"]),
    (0xEC0, ["0LAO VOWELw E,3EI,3O,3AY,3AI"]),
    (0xEC6, ["0LAO KO LA"]),
    (0xEC8, ["0LAO TnE MAI EK,3sO,3u,3CATAWA,1CiCELLAun MeK,1NIGGAHITA"]),
    (0xED0, ["0LAO DIGIT ZlO,2nE,2TWO,2svE,2FOUR,2FIVE,2SIX,2SEVr,2Ef,2NgE"]),
    (0xEDC, ["0LAO HO NO,2MO,1kTTl KHMU GO,3NYO"]),
    (0xF00, [
      "0uBETioYLLABk OM,1MeK GTl YIG MGO TRUNCATEtA,5-UM RNAM BCAtMA,6GTl TSHEG MA",
      "2gIuc YIG MGO MDUN MA,2CLOSgG YIG MGOoGAB MA,2CeET YIG MGO PHURoztMA,2YIG MGO TSHEGoztMA",
      "2SBRULozD,2BSKUR YIG MGO,2BKA-oHOG YIG MGO,2gTlSYLLABIC TSHEG,2DELIMITl TSHEG BSTe,2SzD",
      "2NYISozD,2TSHEGozD,2NYIS TSHEGozD,2Rg CHroPUNGSozD,2RGYA GRAMozD",
      "2CeET -DZUtRTAGS ME LnG Ci,2GTl TSHEG,1LOGOTYPEw CztRTAGS,3LzG RTAGS",
      "1ASTROLOGICcwoGRA GCi -CHe RTAGS,3-KHYUtPA,3SDnG TSHUGS,1SIGN RDEL DKe GCIG,4GNYIS,4GSUM",
      "3NAG GCIG,4GNYIS,3DKe RDEL NAG,1DIGIT ZlO,2nE,2TWO,2svE,2FOUR,2FIVE,2SIX,2SEVr,2Ef,2NgE",
      "2HcF nE,3TWO,3svE,3FOUR,3FIVE,3SIX,3SEVr,3Ef,3NgE,3ZlO,1MeK BSDUS RTAGS",
      "2NGAS BZUNG NYI ZLA,2CeET -DZUtRTAGS BZHI MIG Ci,2NGAS BZUNGoGOR RTAGS,2CHE MGO",
      "2TSA -PHRU,2GUG RTAGS GYn,4GYAS,2iG KHiG GYn,4GYAS,1SIGN Ye TSHES,2Me TSHES,1kTTl KA,2Kz",
      "2GA,2Gz,2NGA,2CA,2Cz,2JA"]),
    (0xF49, [
      "0uBETiaNYA,2TTA,2TsA,2DDA,2DDz,2NNA,2TA,2sA,2DA,2Dz,2NA,2PA,2Pz,2BA,2Bz,2MA,2TSA,2TSz",
      "2DZA,2DZz,2WA,2Zz,2ZA,2-A,2YA,2RA,2LA,2Sz,2SSA,2SA,2z,2A,2KSSA,2FIXED-FORM RA,2KKA,2RRA"]),
    (0xF71, [
      "0uBETi VOWELw AA,3I,3II,3U,3UU,3VOCcIC R,4RR,4L,4LL,3E,3EE,3O,3OO,1SIGN RJESoU NGA RO",
      "2RNAM BCAD,1VOWELw vVlSEtI,4II,1SIGN NYI ZLA NAA DA,2SNA LDi,1MeK HciTA,2PcUTA",
      "1SIGN LCI RTAGS,2YiG RTAGS,2LCE TSA Ci,2MCHU Ci,2GRU Ci RGYgGS,3MEtRGYgGS,2gVlTEtMCHU Ci",
      "1SUBJOgEDw LCE TSA Ci,3MCHU Ci,3gVlTEtMCHU Ci,2kTTl KA,3Kz,3GA,3Gz,3NGA,3CA,3Cz,3JA"]),
    (0xF99, [
      "0uBETioUBJOgEDaNYA,3TTA,3TsA,3DDA,3DDz,3NNA,3TA,3sA,3DA,3Dz,3NA,3PA,3Pz,3BA,3Bz,3MA,3TSA",
      "3TSz,3DZA,3DZz,3WA,3Zz,3ZA,3-A,3YA,3RA,3LA,3Sz,3SSA,3SA,3z,3A,3KSSA,3FIXED-FORM WA,4YA",
      "4RA"]),
    (0xFBE, [
      "0uBETi KU RU Kz,4BZHI MIG Ci,1CiuLLAunw HEAVY BEAT,3Lf BEAT,3CiG TE-U,3SBUB -CHc",
      "1SYMBOL DRIL BU,2Ry RJE,2PADMA GDi,2Ry RJE RGYA GRAM,2PHUR PA,2NOR BU,4NYIS -KHYIL",
      "4GSUM -KHYIL,4BZHI -KHYIL"]),
    (0xFCE, [
      "0uBETiw RDEL NAG RDEL DKe,4GSUM,1MeK BSKA-oHOG GI MGO RGYi,2MNYAM YIG GI MGO RGYi",
      "2NYIS TSHEG,2gIuc BRDA RNYgG YIG MGO MDUN MA,2CLOSgG BRDA RNYgG YIG MGOoGAB MA",
      "0Rf-FACgGoVASuw,0kFT-FACgGoVASuw,0Rf-FACgGoVASuwbyTS,0kFT-FACgGoVASuwbyTS",
      "0uBETi MeK kADgG MCHi RTAGS,2TRAILgG MCHi RTAGS"])]

/-- Runs from 0x1000 on: scripts of the East and of Africa, more Latin and Greek letters. -/
def eastRuns : List NameRun :=
  [(0x1000, [
      "0MYiMeaKA,2Kz,2GA,2Gz,2NGA,2CA,2Cz,2JA,2Jz,2NYA,2NNYA,2TTA,2TsA,2DDA,2DDz,2NNA,2TA,2sA",
      "2DA,2Dz,2NA,2PA,2Pz,2BA,2Bz,2MA,2YA,2RA,2LA,2WA,2SA,2z,2LLA,2A,2SHi A,2I,2II,2U,2UU,2E",
      "2Mn E,2O,2AU,1VOWELw TcL AA,3AA,3I,3II,3U,3UU,3E,3AI,3Mn II,4O,3Eq,1SIGN iUSVeA",
      "2yT BELOW,2VISeGA,2VIRAMA,2ASAT,1CnSniTw MEDIc YA,4RA,4WA,4z,1kTTl GvAToA,1DIGIT ZlO,2nE",
      "2TWO,2svE,2FOUR,2FIVE,2SIX,2SEVr,2Ef,2NgE,1SIGN LITTkoECun,2SECun,1SYMBOL LOCAuVE",
      "2COMPkTED,2AFOvMrunED,2GrIuVE,1kTTloz,2SSA,2VOCcIC R,3RR,3L,3LL,1VOWELw VOCcIC R,4RR,4L",
      "4LL,1kTTl Mn NGA,3Jz,3BBA,3BBE,1CnSniTw Mn MEDIc NA,5MA,5LA,1kTTloGAW Keroz",
      "1VOWELwoGAW Ker EU,1TnE MeKoGAW Ker zsI,5KE PHO,1kTTl WESTlN PWO Ker sA,5PWA",
      "1VOWELw WESTlN PWO Ker EU,6UE,1SIGN WESTlN PWO Ker TnE-1,5TnE-2,5TnE-3,5TnE-4,5TnE-5",
      "1kTTl EASTlN PWO Ker NNA,5YWA,5GHWA,1VOWELw GEBA Ker I,3KAYAH OE,4U,4EE,1kTTloHi KA,3Kz",
      "3GA,3CA,3ZA,3NYA,3DA,3NA,3Pz,3FA,3BA,3sA,3z,1CnSniTwoHi MEDIc WA,1VOWELwoHi AA,4E,5ABOVE",
      "4Fgc Y,1SIGNoHi TnE-2,3TnE-3,3TnE-5,3TnE-6,3COUNCIL TnE-2,4TnE-3,4EMPzuC TnE",
      "1kTTl RUMAI PcAUNG FA,1SIGN RUMAI PcAUNG TnE-5,1SHi DIGIT ZlO,3nE,3TWO,3svE,3FOUR,3FIVE",
      "3SIX,3SEVr,3Ef,3NgE,1SIGN KzMu TnE-1,3TnE-3,1VOWELw AITn A,4AI,1SYMBOLoHi nE,3EXCLAMAun",
      "0GEORGIi di,3Bi,3Gi,3Dn,3r,3Vg,3Zr,3Ti,3g,3Ki,3LAS,3Mi,3Ne,3n,3Pe,3ZHe,3RAE,3Si,3Te,3UN",
      "3PHe,3KHe,3GHi,3Qe,3SHg,3CHg,3Ci,3JIL,3CIL,3CHe,3Xi,3JHi,3zE,3HE,3HIE,3WE,3He,3HOE"]),
    (0x10C7, ["0GEORGIi dYN"]),
    (0x10CD, ["0GEORGIi dAr"]),
    (0x10D0, [
      "0GEORGIiai,2Bi,2Gi,2Dn,2r,2Vg,2Zr,2Ti,2g,2Ki,2LAS,2Mi,2Ne,2n,2Pe,2ZHe,2RAE,2Si,2Te,2UN",
      "2PHe,2KHe,2GHi,2Qe,2SHg,2CHg,2Ci,2JIL,2CIL,2CHe,2Xi,2JHi,2zE,2HE,2HIE,2WE,2He,2HOE,2FI",
      "2YN,2ELIFI,2TURNEtGi,2Ag,1PeAGRAPHoEPeATOR,0MODIFIlaGEORGIi Ne,0GEORGIiaAr,2HeDw,2LABIcw",
      "0HiGUL CHOSEnG KIYEOK,2SSiGKIYEOK,2NIEUN,2uKEUT,2SSiGuKEUT,2RIEUL,2MIEUM,2PIEUP",
      "2SSiGPIEUP,2SIOS,2SSiGSIOS,2IEUNG,2CIEUC,2SSiGCIEUC,2CHIEUCH,2KHIEUKH,2sIEUs,2PHIEUPH",
      "2HIEUH,2NIEUN-KIYEOK,2SSiGNIEUN,2NIEUN-uKEUT,2NIEUN-PIEUP,2uKEUT-KIYEOK,2RIEUL-NIEUN",
      "2SSiGRIEUL,2RIEUL-HIEUH,2KAPYEOUNRIEUL,2MIEUM-PIEUP,2KAPYEOUNMIEUM,2PIEUP-KIYEOK",
      "2PIEUP-NIEUN,2PIEUP-uKEUT,2PIEUP-SIOS,2PIEUP-SIOS-KIYEOK,2PIEUP-SIOS-uKEUT",
      "2PIEUP-SIOS-PIEUP,2PIEUP-SSiGSIOS,2PIEUP-SIOS-CIEUC,2PIEUP-CIEUC,2PIEUP-CHIEUCH",
      "2PIEUP-sIEUs,2PIEUP-PHIEUPH,2KAPYEOUNPIEUP,2KAPYEOUNSSiGPIEUP,2SIOS-KIYEOK,2SIOS-NIEUN",
      "2SIOS-uKEUT,2SIOS-RIEUL,2SIOS-MIEUM,2SIOS-PIEUP,2SIOS-PIEUP-KIYEOK,2SIOS-SSiGSIOS",
      "2SIOS-IEUNG,2SIOS-CIEUC,2SIOS-CHIEUCH,2SIOS-KHIEUKH,2SIOS-sIEUs,2SIOS-PHIEUPH",
      "2SIOS-HIEUH,2CHITUEUMSIOS,2CHITUEUMSSiGSIOS,2CEnGCHIEUMSIOS,2CEnGCHIEUMSSiGSIOS,2PiSIOS",
      "2IEUNG-KIYEOK,2IEUNG-uKEUT,2IEUNG-MIEUM,2IEUNG-PIEUP,2IEUNG-SIOS,2IEUNG-PiSIOS",
      "2SSiGIEUNG,2IEUNG-CIEUC,2IEUNG-CHIEUCH,2IEUNG-sIEUs,2IEUNG-PHIEUPH,2YESIEUNG",
      "2CIEUC-IEUNG,2CHITUEUMCIEUC,2CHITUEUMSSiGCIEUC,2CEnGCHIEUMCIEUC,2CEnGCHIEUMSSiGCIEUC",
      "2CHIEUCH-KHIEUKH,2CHIEUCH-HIEUH,2CHITUEUMCHIEUCH,2CEnGCHIEUMCHIEUCH,2PHIEUPH-PIEUP",
      "2KAPYEOUNPHIEUPH,2SSiGHIEUH,2YEORgHIEUH,2KIYEOK-uKEUT,2NIEUN-SIOS,2NIEUN-CIEUC",
      "2NIEUN-HIEUH,2uKEUT-RIEUL,2FILkR,1JUNGSEnG FILkR,2A,2AE,2YA,2YAE,2EO,2E,2YEO,2YE,2O,2WA",
      "2WAE,2OE,2YO,2U,2WEO,2WE,2WI,2YU,2EU,2YI,2I,2A-O,2A-U,2YA-O,2YA-YO,2EO-O,2EO-U,2EO-EU",
      "2YEO-O,2YEO-U,2O-EO,2O-E,2O-YE,2O-O,2O-U,2YO-YA,2YO-YAE,2YO-YEO,2YO-O,2YO-I,2U-A,2U-AE",
      "2U-EO-EU,2U-YE,2U-U,2YU-A,2YU-EO,2YU-E,2YU-YEO,2YU-YE,2YU-U,2YU-I,2EU-U,2EU-EU,2YI-U",
      "2I-A,2I-YA,2I-O,2I-U,2I-EU,2I-eAEA,2eAEA,2eAEA-EO,2eAEA-U,2eAEA-I,2SSiGeAEA,2A-EU,2YA-U",
      "2YEO-YA,2O-YA,2O-YAE,1JnGSEnG KIYEOK,2SSiGKIYEOK,2KIYEOK-SIOS,2NIEUN,2NIEUN-CIEUC",
      "2NIEUN-HIEUH,2uKEUT,2RIEUL,2RIEUL-KIYEOK,2RIEUL-MIEUM,2RIEUL-PIEUP,2RIEUL-SIOS",
      "2RIEUL-sIEUs,2RIEUL-PHIEUPH,2RIEUL-HIEUH,2MIEUM,2PIEUP,2PIEUP-SIOS,2SIOS,2SSiGSIOS",
      "2IEUNG,2CIEUC,2CHIEUCH,2KHIEUKH,2sIEUs,2PHIEUPH,2HIEUH,2KIYEOK-RIEUL,2KIYEOK-SIOS-KIYEOK",
      "2NIEUN-KIYEOK,2NIEUN-uKEUT,2NIEUN-SIOS,2NIEUN-PiSIOS,2NIEUN-sIEUs,2uKEUT-KIYEOK",
      "2uKEUT-RIEUL,2RIEUL-KIYEOK-SIOS,2RIEUL-NIEUN,2RIEUL-uKEUT,2RIEUL-uKEUT-HIEUH,2SSiGRIEUL",
      "2RIEUL-MIEUM-KIYEOK,2RIEUL-MIEUM-SIOS,2RIEUL-PIEUP-SIOS,2RIEUL-PIEUP-HIEUH",
      "2RIEUL-KAPYEOUNPIEUP,2RIEUL-SSiGSIOS,2RIEUL-PiSIOS,2RIEUL-KHIEUKH,2RIEUL-YEORgHIEUH",
      "2MIEUM-KIYEOK,2MIEUM-RIEUL,2MIEUM-PIEUP,2MIEUM-SIOS,2MIEUM-SSiGSIOS,2MIEUM-PiSIOS",
      "2MIEUM-CHIEUCH,2MIEUM-HIEUH,2KAPYEOUNMIEUM,2PIEUP-RIEUL,2PIEUP-PHIEUPH,2PIEUP-HIEUH",
      "2KAPYEOUNPIEUP,2SIOS-KIYEOK,2SIOS-uKEUT,2SIOS-RIEUL,2SIOS-PIEUP,2PiSIOS,2IEUNG-KIYEOK",
      "2IEUNG-SSiGKIYEOK,2SSiGIEUNG,2IEUNG-KHIEUKH,2YESIEUNG,2YESIEUNG-SIOS,2YESIEUNG-PiSIOS",
      "2PHIEUPH-PIEUP,2KAPYEOUNPHIEUPH,2HIEUH-NIEUN,2HIEUH-RIEUL,2HIEUH-MIEUM,2HIEUH-PIEUP",
      "2YEORgHIEUH,2KIYEOK-NIEUN,2KIYEOK-PIEUP,2KIYEOK-CHIEUCH,2KIYEOK-KHIEUKH,2KIYEOK-HIEUH",
      "2SSiGNIEUN,0EsIOPICoYLLABk z,2HU,2HI,2zA,2HEE,2HE,2HO,2HOA,2LA,2LU,2LI,2LAA,2kE,2k,2LO",
      "2LWA,2Hz,2HHU,2HHI,2HzA,2HHEE,2HHE,2HHO,2HHWA,2MA,2MU,2MI,2MAA,2MEE,2ME,2MO,2MWA,2SZA",
      "2SZU,2SZI,2SZAA,2SZEE,2SZE,2SZO,2SZWA,2RA,2RU,2RI,2RAA,2vE,2v,2RO,2RWA,2SA,2SU,2SI,2SAA",
      "2SEE,2SE,2SO,2SWA,2Sz,2SHU,2SHI,2SzA,2SHEE,2SHE,2SHO,2SHWA,2QA,2QU,2QI,2QAA,2QEE,2QE,2QO",
      "2QOA,2QWA"]),
    (0x124A, ["0EsIOPICoYLLABk QWI,2QWAA,2QWEE,2QWE"]),
    (0x1250, ["0EsIOPICoYLLABk Qz,2QHU,2QHI,2QzA,2QHEE,2QHE,2QHO"]),
    (0x1258, ["0EsIOPICoYLLABk QHWA"]),
    (0x125A, ["0EsIOPICoYLLABk QHWI,2QHWAA,2QHWEE,2QHWE"]),
    (0x1260, [
      "0EsIOPICoYLLABk BA,2BU,2BI,2BAA,2BEE,2BE,2BO,2BWA,2VA,2VU,2VI,2VAA,2VEE,2VE,2VO,2VWA,2TA",
      "2TU,2u,2TAA,2TEE,2TE,2TO,2TWA,2CA,2CU,2CI,2CAA,2CEE,2CE,2CO,2CWA,2XA,2XU,2XI,2XAA,2XEE",
      "2XE,2XO,2XOA,2XWA"]),
    (0x128A, ["0EsIOPICoYLLABk XWI,2XWAA,2XWEE,2XWE"]),
    (0x1290, [
      "0EsIOPICoYLLABk NA,2NU,2NI,2NAA,2NEE,2NE,2NO,2NWA,2NYA,2NYU,2NYI,2NYAA,2NYEE,2NYE,2NYO",
      "2NYWA,2GLOTTc A,3U,3I,3AA,3EE,3E,3O,3WA,2KA,2KU,2KI,2KAA,2KEE,2KE,2KO,2KOA,2KWA"]),
    (0x12B2, ["0EsIOPICoYLLABk KWI,2KWAA,2KWEE,2KWE"]),
    (0x12B8, ["0EsIOPICoYLLABk KXA,2KXU,2KXI,2KXAA,2KXEE,2KXE,2KXO"]),
    (0x12C0, ["0EsIOPICoYLLABk KXWA"]),
    (0x12C2, ["0EsIOPICoYLLABk KXWI,2KXWAA,2KXWEE,2KXWE"]),
    (0x12C8, ["0EsIOPICoYLLABk WA,2WU,2WI,2WAA,2WEE,2WE,2WO,2WOA,2PHeYNGEc A,3U,3I,3AA,3EE,3E,3O"]),
    (0x12D8, [
      "0EsIOPICoYLLABk ZA,2ZU,2ZI,2ZAA,2ZEE,2ZE,2ZO,2ZWA,2Zz,2ZHU,2ZHI,2ZzA,2ZHEE,2ZHE,2ZHO",
      "2ZHWA,2YA,2YU,2YI,2YAA,2YEE,2YE,2YO,2YOA,2DA,2DU,2DI,2DAA,2DEE,2DE,2y,2DWA,2DDA,2DDU",
      "2DDI,2DDAA,2DDEE,2DDE,2Dy,2DDWA,2JA,2JU,2JI,2JAA,2JEE,2JE,2JO,2JWA,2GA,2GU,2GI,2GAA,2GEE",
      "2GE,2GO,2GOA,2GWA"]),
    (0x1312, ["0EsIOPICoYLLABk GWI,2GWAA,2GWEE,2GWE"]),
    (0x1318, [
      "0EsIOPICoYLLABk GGA,2GGU,2GGI,2GGAA,2GGEE,2GGE,2GGO,2GGWAA,2sA,2sU,2sI,2sAA,2sEE,2sE,2sO",
      "2sWA,2Cz,2CHU,2CHI,2CzA,2CHEE,2CHE,2CHO,2CHWA,2Pz,2PHU,2PHI,2PzA,2PHEE,2PHE,2PHO,2PHWA",
      "2TSA,2TSU,2TSI,2TSAA,2TSEE,2TSE,2TSO,2TSWA,2TZA,2TZU,2TZI,2TZAA,2TZEE,2TZE,2TZO,2TZOA",
      "2FA,2FU,2FI,2FAA,2FEE,2FE,2FO,2FWA,2PA,2PU,2PI,2PAA,2PEE,2PE,2PO,2PWA,2RYA,2MYA,2FYA"]),
    (0x135D, [
      "0EsIOPIC COMBggG GEMgAun itVOWEL kNGs MeK,2VOWEL kNGs MeK,2GEMgAun MeK,1SECun MeK",
      "1WORDSPACE,1FULLoTOP,1COMMA,1SEMICOLn,1COLn,1PvFACE COLn,1QUESun MeK,1PeAGRAPHoEPeATOR",
      "1DIGIT nE,2TWO,2svE,2FOUR,2FIVE,2SIX,2SEVr,2Ef,2NgE,1NUMBl Tr,2TWrTY,2sIRTY,2FORTY",
      "2FIFTY,2SIXTY,2SEVrTY,2EfY,2NgETY,2HUNDvD,2Tr sOUSiD"]),
    (0x1380, [
      "0EsIOPICoYLLABkoEBATBEIT MWA,2MWI,2MWEE,2MWE,2SEBATBEIT BWA,2BWI,2BWEE,2BWE",
      "2SEBATBEIT FWA,2FWI,2FWEE,2FWE,2SEBATBEIT PWA,2PWI,2PWEE,2PWE,1Tnc MeK YIZET,3DlET",
      "3RIKRIK,3SHORT RIKRIK,3DIFAT,3KrAT,3CHIvT,3HIDET,3DlET-HIDET,3KURT"]),
    (0x13A0, [
      "0CHlOKEEaA,2E,2I,2O,2U,2V,2GA,2KA,2GE,2GI,2GO,2GU,2GV,2z,2HE,2HI,2HO,2HU,2HV,2LA,2k,2LI",
      "2LO,2LU,2LV,2MA,2ME,2MI,2MO,2MU,2NA,2HNA,2NAH,2NE,2NI,2NO,2NU,2NV,2QUA,2QUE,2QUI,2QUO",
      "2QUU,2QUV,2SA,2S,2SE,2SI,2SO,2SU,2SV,2DA,2TA,2DE,2TE,2DI,2u,2y,2DU,2DV,2DLA,2TLA,2Tk",
      "2TLI,2TLO,2TLU,2TLV,2TSA,2TSE,2TSI,2TSO,2TSU,2TSV,2WA,2WE,2WI,2WO,2WU,2WV,2YA,2YE,2YI",
      "2YO,2YU,2YV,2MV"]),
    (0x13F8, ["0CHlOKEE jaYE,3YI,3YO,3YU,3YV,3MV"]),
    (0x1400, [
      "0CiADIioYLLABICS HYPHr,2E,2AAI,2I,2II,2O,2OO,2Y-CvE OO,2CeRIl EE,3I,2A,2AA,2WE",
      "2WEST-CvE WE,2WI,2WEST-CvE WI,2WII,2WEST-CvE WII,2WO,2WEST-CvE WO,2WOO,2WEST-CvE WOO",
      "2NASKAPI WOO,2WA,2WEST-CvE WA,2WAA,2WEST-CvE WAA,2NASKAPI WAA,2AI,2Y-CvE W,2GLOTTcoTOP",
      "2Fgc ACUTE,3GRAVE,3BOTTOM HcF RgG,3TOP HcF RgG,3Rf HcF RgG,3RgG,3yUBk ACUTE",
      "4SHORT VluCcoTROKES,3MIDDk yT,3SHORT HORIZnTcoTROKE,3PLUS,3yWN TACK,2r,2g,2n,2i,2PE",
      "2PAAI,2PI,2PII,2PO,2POO,2Y-CvE POO,2CeRIl HEE,3HI,2PA,2PAA,2PWE,2WEST-CvE PWE,2PWI",
      "2WEST-CvE PWI,2PWII,2WEST-CvE PWII,2PWO,2WEST-CvE PWO,2PWOO,2WEST-CvE PWOO,2PWA",
      "2WEST-CvE PWA,2PWAA,2WEST-CvE PWAA,2Y-CvE PWAA,2P,2WEST-CvE P,2CeRIl H,2TE,2TAAI,2u,2uI",
      "2TO,2TOO,2Y-CvE TOO,2CeRIl DEE,3DI,2TA,2TAA,2TWE,2WEST-CvE TWE,2TWI,2WEST-CvE TWI,2TWII",
      "2WEST-CvE TWII,2TWO,2WEST-CvE TWO,2TWOO,2WEST-CvE TWOO,2TWA,2WEST-CvE TWA,2TWAA",
      "2WEST-CvE TWAA,2NASKAPI TWAA,2T,2TTE,2Tu,2TTO,2TTA,2KE,2KAAI,2KI,2KII,2KO,2KOO",
      "2Y-CvE KOO,2KA,2KAA,2KWE,2WEST-CvE KWE,2KWI,2WEST-CvE KWI,2KWII,2WEST-CvE KWII,2KWO",
      "2WEST-CvE KWO,2KWOO,2WEST-CvE KWOO,2KWA,2WEST-CvE KWA,2KWAA,2WEST-CvE KWAA,2NASKAPI KWAA",
      "2K,2KW,2SOUs-SLAVEY KEH,3KIH,3KOH,3KAH,2CE,2CAAI,2CI,2CII,2CO,2COO,2Y-CvE COO,2CA,2CAA",
      "2CWE,2WEST-CvE CWE,2CWI,2WEST-CvE CWI,2CWII,2WEST-CvE CWII,2CWO,2WEST-CvE CWO,2CWOO",
      "2WEST-CvE CWOO,2CWA,2WEST-CvE CWA,2CWAA,2WEST-CvE CWAA,2NASKAPI CWAA,2C,2SAYISI s,2ME",
      "2MAAI,2MI,2MII,2MO,2MOO,2Y-CvE MOO,2MA,2MAA,2MWE,2WEST-CvE MWE,2MWI,2WEST-CvE MWI,2MWII",
      "2WEST-CvE MWII,2MWO,2WEST-CvE MWO,2MWOO,2WEST-CvE MWOO,2MWA,2WEST-CvE MWA,2MWAA",
      "2WEST-CvE MWAA,2NASKAPI MWAA,2M,2WEST-CvE M,2MH,2AsAPASCi M,2SAYISI M,2NE,2NAAI,2NI,2NII",
      "2NO,2NOO,2Y-CvE NOO,2NA,2NAA,2NWE,2WEST-CvE NWE,2NWA,2WEST-CvE NWA,2NWAA,2WEST-CvE NWAA",
      "2NASKAPI NWAA,2N,2CeRIl NG,2NH,2k,2LAAI,2LI,2LII,2LO,2LOO,2Y-CvE LOO,2LA,2LAA,2LWE",
      "2WEST-CvE LWE,2LWI,2WEST-CvE LWI,2LWII,2WEST-CvE LWII,2LWO,2WEST-CvE LWO,2LWOO",
      "2WEST-CvE LWOO,2LWA,2WEST-CvE LWA,2LWAA,2WEST-CvE LWAA,2L,2WEST-CvE L,2MEDIc L,2SE,2SAAI",
      "2SI,2SII,2SO,2SOO,2Y-CvEoOO,2SA,2SAA,2SWE,2WEST-CvEoWE,2SWI,2WEST-CvEoWI,2SWII",
      "2WEST-CvEoWII,2SWO,2WEST-CvEoWO,2SWOO,2WEST-CvEoWOO,2SWA,2WEST-CvEoWA,2SWAA",
      "2WEST-CvEoWAA,2NASKAPIoWAA,2S,2AsAPASCio,2SW,2BLACKFOOTo,2MOOSE-CvEoK,2NASKAPIoKW,3S-W",
      "3SPWA,3STWA,3SKWA,3SCWA,2SHE,2SHI,2SHII,2SHO,2SHOO,2Sz,2SzA,2SHWE,2WEST-CvEoHWE,2SHWI",
      "2WEST-CvEoHWI,2SHWII,2WEST-CvEoHWII,2SHWO,2WEST-CvEoHWO,2SHWOO,2WEST-CvEoHWOO,2SHWA",
      "2WEST-CvEoHWA,2SHWAA,2WEST-CvEoHWAA,2SH,2YE,2YAAI,2YI,2YII,2YO,2YOO,2Y-CvE YOO,2YA,2YAA",
      "2YWE,2WEST-CvE YWE,2YWI,2WEST-CvE YWI,2YWII,2WEST-CvE YWII,2YWO,2WEST-CvE YWO,2YWOO",
      "2WEST-CvE YWOO,2YWA,2WEST-CvE YWA,2YWAA,2WEST-CvE YWAA,2NASKAPI YWAA,2Y,2BIBk-CvE Y",
      "2WEST-CvE Y,2SAYISI YI,2v,2R-CvE v,2WEST-CvE k,2RAAI,2RI,2RII,2RO,2ROO,2WEST-CvE LO,2RA",
      "2RAA,2WEST-CvE LA,2RWAA,2WEST-CvE RWAA,2R,2WEST-CvE R,2MEDIc R,2FE,2FAAI,2FI,2FII,2FO",
      "2FOO,2FA,2FAA,2FWAA,2WEST-CvE FWAA,2F,2sE,2N-CvE sE,2sI,2N-CvE sI,2sII,2N-CvE sII,2sO",
      "2sOO,2sA,2sAA,2sWAA,2WEST-CvE sWAA,2s,2TsE,2TsI,2TsO,2TsA,2Ts,2TYE,2TYI,2TYO,2TYA",
      "2NUNAVIK HE,3HI,3HII,3HO,3HOO,3z,3zA,3H,2NUNAVUT H,2HK,2QAAI,2QI,2QII,2QO,2QOO,2QA,2QAA",
      "2Q,2TLHE,2TLHI,2TLHO,2TLz,2WEST-CvE v,3RI,3RO,3RA,2NGAAI,2NGI,2NGII,2NGO,2NGOO,2NGA",
      "2NGAA,2NG,2NNG,2SAYISIoHE,3SHI,3SHO,3Sz,2WOODS-CvE sE,3sI,3sO,3sA,3s,2LHI,2LHII,2LHO",
      "2LHOO,2Lz,2LzA,2LH,2s-CvE sE,3sI,3sII,3sO,3sOO,3sA,3sAA,3s,2AIVILIK B,2BLACKFOOT E,3I,3O",
      "3A,3WE,3WI,3WO,3WA,3NE,3NI,3NO,3NA,3KE,3KI,3KO,3KA,2SAYISI HE,3HI,3HO,3z,2CeRIl GHU,3GHO",
      "3GHE,3GHEE,3GHI,3Gz,3RU,3RO,3v,3vE,3RI,3RA,3WU,3WO,3WE,3WEE,3WI,3WA,3HWU,3HWO,3HWE,3HWEE",
      "3HWI,3HWA,3sU,3sO,3sE,3sEE,3sI,3sA,3TTU,3TTO,3TTE,3TTEE,3Tu,3TTA,3PU,3PO,3PE,3PEE,3PI",
      "3PA,3P,3GU,3GO,3GE,3GEE,3GI,3GA,3KHU,3KHO,3KHE,3KHEE,3KHI,3Kz,3KKU,3KKO,3KKE,3KKEE,3KKI",
      "3KKA,3KK,3NU,3NO,3NE,3NEE,3NI,3NA,3MU,3MO,3ME,3MEE,3MI,3MA,3YU,3YO,3YE,3YEE,3YI,3YA,3JU",
      "2SAYISI JU,2CeRIl JO,3JE,3JEE,3JI,2SAYISI JI,2CeRIl JA,3JJU,3JJO,3JJE,3JJEE,3JJI,3JJA",
      "3LU,3LO,3k,3kE,3LI,3LA,3DLU,3DLO,3Dk,3DkE,3DLI,3DLA,3LHU,3LHO,3LHE,3LHEE,3LHI,3Lz,3TLHU",
      "3TLHO,3TLHE,3TLHEE,3TLHI,3TLz,3TLU,3TLO,3Tk,3TkE,3TLI,3TLA,3ZU,3ZO,3ZE,3ZEE,3ZI,3ZA,3Z",
      "3gIuc Z,3DZU,3DZO,3DZE,3DZEE,3DZI,3DZA,3SU,3SO,3SE,3SEE,3SI,3SA,3SHU,3SHO,3SHE,3SHEE",
      "3SHI,3Sz,3SH,3TSU,3TSO,3TSE,3TSEE,3TSI,3TSA,3CHU,3CHO,3CHE,3CHEE,3CHI,3Cz,3TTSU,3TTSO",
      "3TTSE,3TTSEE,3TTSI,3TTSA,2CHIw,2FULLoTOP,2QAI,2NGAI,2NNGI,2NNGII,2NNGO,2NNGOO,2NNGA",
      "2NNGAA,2WOODS-CvE sWEE,3sWI,3sWII,3sWO,3sWOO,3sWA,3sWAA,3Fgc s,2BLACKFOOT W",
      "0OGzMoPACE MeK,1kTTl BEIs,2LUIS,2FEeN,2SAIL,2NIn,2UAs,2DAIR,2TgNE,2COLL,2CEIRT,2MUg",
      "2GORT,2NGEADc,2STRAIF,2RUIS,2AILM,2nN,2UR,2EADzDH,2IODzDH,2EABzDH,2OR,2UILkiN,2IFg",
      "2EAMHiCHOLL,2PEIs,1FEAsl MeK,1vVlSEtFEAsl MeK"]),
    (0x16A0, [
      "0RUNICaFEHU FEOH FE F,2V,2URUZ UR U,2YR,2Y,2W,2sURISAZ sURS sORN,2Es,2iSUZ A,2OS O,2AC A",
      "2AESC,2LnG-BRiCH-OSS O,2SHORT-TWIG-OSS O,2O,2OE,2n,2RAIy RAtvItR,2KAUNA,2Cr,2KAUN K,2G",
      "2rG,2GEBO GYFU G,2Ge,2WUNJO WYNN W,2zGLAZ H,2zEGL H,2LnG-BRiCH-zGcL H,2SHORT-TWIG-zGcL H",
      "2NAUDIZ NYtNAUtN,2SHORT-TWIG-NAUtN,2yTTED-N,2ISAZ IS ISS I,2E,2Jli J,2Gl,2LnG-BRiCH-e AE",
      "2SHORT-TWIG-e A,2IWAZ EOH,2PlsO PEORs P,2cGIZ EOLHX,2SOWILOo,2SIGEL LnG-BRiCH-SOLo",
      "2SHORT-TWIG-SOLo,2C,2Z,2uWAZ uR TYR T,2SHORT-TWIG-TYR T,2D,2BlKii BEORC BJeKi B",
      "2SHORT-TWIG-BJeKi B,2yTTED-P,2OPr-P,2EHWAZ EH E,2MiNAZ Mi M,2LnG-BRiCH-MADR M",
      "2SHORT-TWIG-MADR M,2LAUKAZ LAGU LOGR L,2yTTED-L,2gGWAZ,2gG,2DAGAZ DAEG D,2Osci EsEL O",
      "2Ee,2IOR,2CWEORs,2CcC,2CEcC,2STi,2LnG-BRiCH-YR,2SHORT-TWIG-YR,2ICELiDIC-YR,2Q,2X",
      "1SgGk PUNCTUAun,1MULuPk PUNCTUAun,1CROSS PUNCTUAun,1eLAUGoYMBOL,1TVIMADURoYMBOL",
      "1BELGsORoYMBOL,1kTTl K,2SH,2OO,2FRiKS CASKET OS,4IS,4EH,4AC,4AESC"]),
    (0x1700, [
      "0TAGcOGaA,2I,2U,2KA,2GA,2NGA,2TA,2DA,2NA,2PA,2BA,2MA,2YA,2RA,2LA,2WA,2SA,2z,1VOWELw I,3U",
      "1SIGN VIRAMA,2PAMUDPOD"]),
    (0x171F, [
      "0TAGcOGaeCzIC RA,0HiUNOOaA,2I,2U,2KA,2GA,2NGA,2TA,2DA,2NA,2PA,2BA,2MA,2YA,2RA,2LA,2WA",
      "2SA,2z,1VOWELw I,3U,1SIGN PAMUDPOD,0PHILIPPgEogGk PUNCTUAun,1yUBk PUNCTUAun"]),
    (0x1740, [
      "0BUHIDaA,2I,2U,2KA,2GA,2NGA,2TA,2DA,2NA,2PA,2BA,2MA,2YA,2RA,2LA,2WA,2SA,2z,1VOWELw I,3U"]),
    (0x1760, ["0TAGBiWAaA,2I,2U,2KA,2GA,2NGA,2TA,2DA,2NA,2PA,2BA,2MA,2YA"]),
    (0x176E, ["0TAGBiWAaLA,2WA,2SA"]),
    (0x1772, ["0TAGBiWA VOWELw I,3U"]),
    (0x1780, [
      "0KHMlaKA,2Kz,2KO,2KHO,2NGO,2CA,2Cz,2CO,2CHO,2NYO,2DA,2TsA,2y,2TsO,2NNO,2TA,2sA,2TO,2sO",
      "2NO,2BA,2Pz,2PO,2PHO,2MO,2YO,2RO,2LO,2VO,2Sz,2SSO,2SA,2z,2LA,2QA,1gDEPrDrT VOWEL QAQ",
      "3QAA,3QI,3QII,3QU,3QUK,3QUU,3QUUV,3RY,3RYY,3LY,3LYY,3QE,3QAI,3QOO TYPE nE,5TWO,3QAU",
      "1VOWEL gHlrT AQ,3AA,2SIGN AA,3I,3II,3Y,3YY,3U,3UU,3UA,3OE,3YA,3IE,3E,3AE,3AI,3OO,3AU",
      "1SIGN NIKAHIT,2vAHMUK,2YUUKcEAPgTU,2MUUSIKATOi,2TRIISAP,2BiTOC,2ROBAT,2TOiDAKHIAT",
      "2KAKABAT,2AHSDA,2SAMYOKoiNYA,2VIRIAM,2COrG,2BAsAMASAT,2KHi,2BeIYOOSi,2CAMNUC PII KUUH",
      "2kK TOO,2BEYYc,2PHNAEK MUi,2KOOMUUT,1CURRrCYoYMBOL RIEL,1SIGN AVAKRAzSiYA,2ATsACi"]),
    (0x17E0, ["0KHMl DIGIT ZlO,2nE,2TWO,2svE,2FOUR,2FIVE,2SIX,2SEVr,2Ef,2NgE"]),
    (0x17F0, [
      "0KHMloYMBOL kK ATTAKon,4MUOY,4PII,4BEI,4BUn,4PRAM,4PRAM-MUOY,4PRAM-PII,4PRAM-BEI",
      "4PRAM-BUn"]),
    (0x1800, [
      "0MnGOLIi BIRGA,1ELLIPSIS,1COMMA,1FULLoTOP,1COLn,1FOUR yTS,1TOyoOFT HYPHr",
      "1SIBEoYLLABk BOUNDeY MeKl,1MiCHU COMMA,2FULLoTOP,1NIRUGU,1FvE VeIAunoEkCTOR nE,4TWO,4svE",
      "1VOWELoEPeATOR,1FvE VeIAunoEkCTOR FOUR,1DIGIT ZlO,2nE,2TWO,2svE,2FOUR,2FIVE,2SIX,2SEVr",
      "2Ef,2NgE"]),
    (0x1820, [
      "0MnGOLIiaA,2E,2I,2O,2U,2OE,2UE,2EE,2NA,2iG,2BA,2PA,2QA,2GA,2MA,2LA,2SA,2Sz,2TA,2DA,2Cz",
      "2JA,2YA,2RA,2WA,2FA,2KA,2Kz,2TSA,2ZA,2zA,2ZRA,2Lz,2ZHI,2CHI,2TOy LnG VOWELw,3E,3I,3O,3U",
      "3OE,3UE,3iG,3BA,3PA,3QA,3GA,3MA,3TA,3DA,3Cz,3JA,3TSA,3YA,3WA,3KA,3GAA,3zA,3JIA,3NIA,3DZA",
      "2SIBE E,3I,3IY,3UE,3U,3iG,3KA,3GA,3z,3PA,3Sz,3TA,3DA,3JA,3FA,3GAA,3zA,3TSA,3ZA,3RAA,3Cz",
      "3Zz,2MiCHU I,3KA,3RA,3FA,3Zz,2CzbTWO yTS"]),
    (0x1880, [
      "0MnGOLIiacI GcI iUSVeA nE,4VISeGA nE,4DAMeU,4UBADAMA,4gVlTEtUBADAMA,4BcUDA,4svE BcUDA,4A",
      "4I,4KA,4NGA,4CA,4TTA,4TsA,4DDA,4NNA,4TA,4DA,4PA,4Pz,4SSA,4Zz,4ZA,4AH,2TOy cI GcI TA,5Zz",
      "2MiCHU cI GcI Gz,5NGA,5CA,5Jz,5TTA,5DDz,5TA,5Dz,5SSA,5CYA,5Zz,5ZA,2cI GcI HcF U,5YA",
      "2MiCHU cI GcI Bz,2cI GcI DAGcGA,2MiCHU cI GcI Lz"]),
    (0x18B0, [
      "0CiADIioYLLABICS OY,2AY,2AAY,2WAY,2POY,2PAY,2PWOY,2TAY,2KAY,2KWAY,2MAY,2NOY,2NAY,2LAY",
      "2SOY,2SAY,2SHOY,2SzY,2SHWOY,2YOY,2YAY,2RAY,2NWI,2OJIBWAY NWI,2NWII,2OJIBWAY NWII,2NWO",
      "2OJIBWAY NWO,2NWOO,2OJIBWAY NWOO,2RWEE,2RWI,2RWII,2RWO,2RWOO,2RWA,2OJIBWAY P,3T,3K,3C,3M",
      "3N,3S,3SH,2EASTlN W,2WESTlN W,2Fgc j RgG,3RAISEtyT,2R-CvE RWE,2WEST-CvE LOO,3LAA,2sWE",
      "2sWA,2TsWE,2TsOO,2TsAA,2TLHWE,2TLHOO,2SAYISIoHWE,3SHOO,3HOO,2CeRIl GWU,3DrE GEE,3GAA",
      "3GWA,2SAYISI JUU,2CeRIl JWA,2BEAVl DrE L,4R,2CeRIl DrTco"]),
    (0x1900, [
      "0LIMBU VOWEL-CeRIl kTTl,1kTTl KA,2Kz,2GA,2Gz,2NGA,2CA,2Cz,2JA,2Jz,2Yi,2TA,2sA,2DA,2Dz",
      "2NA,2PA,2Pz,2BA,2Bz,2MA,2YA,2RA,2LA,2WA,2Sz,2SSA,2SA,2z,2GYi,2TRA"]),
    (0x1920, ["0LIMBU VOWELw A,3I,3U,3EE,3AI,3OO,3AU,3E,3O,1SUBJOgEDaYA,3RA,3WA"]),
    (0x1930, ["0LIMBU jaKA,3NGA,3iUSVeA,3TA,3NA,3PA,3MA,3RA,3LA,1SIGN MUKPHRrG,2KEMPHRrG,2SA-I"]),
    (0x1940, ["0LIMBUw LOO"]),
    (0x1944, [
      "0LIMBU EXCLAMAun MeK,1QUESun MeK,1DIGIT ZlO,2nE,2TWO,2svE,2FOUR,2FIVE,2SIX,2SEVr,2Ef",
      "2NgE,0TAI kaKA,3XA,3NGA,3TSA,3SA,3YA,3TA,3sA,3LA,3PA,3Pz,3MA,3FA,3VA,3z,3QA,3Kz,3TSz,3NA",
      "3A,3I,3EE,3EH,3U,3OO,3O,3UE,3E,3AUE,3AI"]),
    (0x1970, ["0TAI kaTnE-2,3TnE-3,3TnE-4,3TnE-5,3TnE-6"]),
    (0x1980, [
      "0NEW TAI LUEaHIGH QA,4LOW QA,4HIGH KA,5XA,5NGA,4LOW KA,5XA,5NGA,4HIGH TSA,5SA,5YA",
      "4LOW TSA,5SA,5YA,4HIGH TA,5sA,5NA,4LOW TA,5sA,5NA,4HIGH PA,5Pz,5MA,4LOW PA,5Pz,5MA",
      "4HIGH FA,5VA,5LA,4LOW FA,5VA,5LA,4HIGH z,5DA,5BA,4LOW z,5DA,5BA,4HIGH KVA,5XVA,4LOW KVA",
      "5XVA,4HIGHoUA,4LOWoUA"]),
    (0x19B0, [
      "0NEW TAI LUE VOWELw VOWELoHORTrl,5AA,5II,5U,5UU,5E,5AE,5O,5OA,5UE,5AY,5AAY,5UY,5OY,5OAY",
      "5UEY,5IY,3kTTl Fgc V,5NG,5N,5M,5K,5D,5B,3TnE MeK-1,4MeK-2"]),
    (0x19D0, [
      "0NEW TAI LUE DIGIT ZlO,4nE,4TWO,4svE,4FOUR,4FIVE,4SIX,4SEVr,4Ef,4NgE,3sAM DIGIT nE"]),
    (0x19DE, [
      "0NEW TAI LUEw LAE,4LAEV,0KHMloYMBOL PAsAMASAT,2MUOY KOET,2PII KOET,2BEI KOET,2BUn KOET",
      "2PRAM KOET,2PRAM-MUOY KOET,2PRAM-PII KOET,2PRAM-BEI KOET,2PRAM-BUn KOET,2DAP KOET",
      "2DAP-MUOY KOET,2DAP-PII KOET,2DAP-BEI KOET,2DAP-BUn KOET,2DAP-PRAM KOET,2TUTEYASAT",
      "2MUOY ROC,2PII ROC,2BEI ROC,2BUn ROC,2PRAM ROC,2PRAM-MUOY ROC,2PRAM-PII ROC",
      "2PRAM-BEI ROC,2PRAM-BUn ROC,2DAP ROC,2DAP-MUOY ROC,2DAP-PII ROC,2DAP-BEI ROC",
      "2DAP-BUn ROC,2DAP-PRAM ROC,0BUGgESEaKA,2GA,2NGA,2NGKA,2PA,2BA,2MA,2MPA,2TA,2DA,2NA,2NRA",
      "2CA,2JA,2NYA,2NYCA,2YA,2RA,2LA,2VA,2SA,2A,2z,1VOWELw I,3U,3E,3O,3AE"]),
    (0x1A1E, [
      "0BUGgESE PcLAWA,1rtOFoECun,0TAI sAMaHIGH KA,4Kz,4KXA,3LOW KA,4KXA,4Kz,3NGA,3HIGH CA,4Cz",
      "3LOW CA,4SA,4Cz,3NYA,3RATA,3HIGH RAsA,3DA,3LOW RAsA,3RiA,3HIGH TA,4sA,3LOW TA,4sA,3NA",
      "3BA,3HIGH PA,4Pz,4FA,3LOW PA,4FA,4Pz,3MA,3LOW YA,3HIGH YA,3RA,3RUE,3LA,3LUE,3WA,3HIGHoz",
      "4SSA,4SA,4z,3LLA,3A,3LOW z,3I,3II,3U,3UU,3EE,3OO,3LAE,3GvAToA,2CnSniTw MEDIc RA,5LA",
      "4LA TiG LAI,2SIGN MAI KiG LAI,2CnSniTw Fgc NGA,4LOW PA,4HIGH RAsA OR LOW PA,4MA,4BA,4SA"]),
    (0x1A60, [
      "0TAI sAMwoAKOT,2VOWELw A,4MAIoAT,4AA,4TcL AA,4I,4II,4UE,4UUE,4U,4UU,4O,4OA BELOW,4OY,4E",
      "4AE,4OO,4AI,4sAM AI,4OAq,2SIGN MAI KiG,3TnE-1,3TnE-2,3KHUr TnE-3,4TnE-4,4TnE-5,3RA zAM",
      "3MAIoAM,3KHUr-LUE Kei"]),
    (0x1A7F, [
      "0TAI sAM COMBggG CRYPTOGRAMMIC yT,2HORA DIGIT ZlO,4nE,4TWO,4svE,4FOUR,4FIVE,4SIX,4SEVr",
      "4Ef,4NgE"]),
    (0x1A90, ["0TAI sAM sAM DIGIT ZlO,4nE,4TWO,4svE,4FOUR,4FIVE,4SIX,4SEVr,4Ef,4NgE"]),
    (0x1AA0, [
      "0TAI sAMw WIiG,3WIiGWAAK,3SAWi,3KEOW,3HOY,3yKMAI,3vVlSEtROTATEtRiA,3MAI YAMOK,3KAi",
      "3KAiKUU,3SATKAi,3SATKAiKUU,3HiG,3CAiG"]),
    (0x1AB0, [
      "0COMBggG yUBktCIRCUMFkX ACCrT,1DIAlESIS-RgG,1gFgITY,1yWNxm,1TRIPk yT,1X-X BELOW",
      "1WIGGLY LgE BELOW,1OPr MeK BELOW,1yUBk OPr MeK BELOW,1Lf CrTRcIZAunoTROKE BELOW",
      "1STRnG CrTRcIZAunoTROKE BELOW,1PersESESq,1yUBk PersESESq,1PersESES BELOW,2OVlLAY",
      "1LATg jaW BELOW,4TURNEtW BELOW,1kFT PersESISq kFT,1Rf PersESISq Rf",
      "1kFT PersESIS BELOW kFT,1Rf PersESIS BELOW Rf,1SQUeE BRACKETSq,1NUMBlwq,1gVlTEtyUBk eCHq",
      "1PLUSwq,1yUBk PLUSwq,4BELOW,1TRIPk ACUTE ACCrT,1LATg jagSULe G,5R,5T"]),
    (0x1B00, [
      "0BcgESEw ULU RICEM,3CiDRA,2CECEK,2SURiG,2BISAH,1kTTl AKeA,3TEDUNG,2IKeA,3TEDUNG,2UKeA",
      "3TEDUNG,2RA vPA,4TEDUNG,2LA kNGA,4TEDUNG,2EKeA,2AIKeA,2OKeA,3TEDUNG,2KA,3MAzPRiA,2GA",
      "3GORA,2NGA,2CA,3LACA,2JA,3JlA,2NYA,2TA LAuK,3MURDA MAzPRiA,2DA MURDA cPAPRiA,4MAzPRiA",
      "2NA RAMBAT,2TA,3TAWA,2DA,3MADU,2NA,2PA,3KAPc,2BA,3KEMBiG,2MA,2YA,2RA,2LA,2WA,2SAoAGA",
      "3SAPA,2SA,2z,1SIGN RlEKi,1VOWELw TEDUNG,3ULU,4SeI,3SUKU,4ILUT,3RA vPA,5TEDUNG,3LA kNGA",
      "5TEDUNG,3TcgG,4vPA,4TEDUNG,4vPA TEDUNG,3PEPET,4TEDUNG,1ADEG ADEG,1kTTl KAFoASAK",
      "2KHOToASAK,2TZIRoASAK,2EFoASAK,2VEoASAK,2ZcoASAK,2ASYURAoASAK,2eCzIC JNYA"]),
    (0x1B50, [
      "0BcgESE DIGIT ZlO,2nE,2TWO,2svE,2FOUR,2FIVE,2SIX,2SEVr,2Ef,2NgE,1Piu,1PAMADA,1WgDU",
      "1CeIK PAMUNGKAH,2SIKI,2Pelr,1PAMrrG,1MUSICcoYMBOL DnG,3DrG,3DUNG,3DiG,4SURiG,3DgG,3DArG",
      "3DEUNG,3DAgG,3DiG GEDE,3COMBggG TEGEH,4rDEP,4KEMPUL,4KEMPLI,4JEGOGi,4KEMPULbJEGOGi",
      "4KEMPLIbJEGOGi,4BrDE,4GnG,3Rf-HitOPr DUG,5DAG,4CLOSEtTUK,5TAK,3kFT-HitOPr PiG,5PUNG",
      "4CLOSEtPLAK,5PLUK,4OPr PgG,1Piu LiTiG,1PAMADA LiTiG"]),
    (0x1B80, [
      "0SUNDiESEw PiYECEK,2PiGLAYe,2PiGWISAD,1kTTl A,2I,2U,2AE,2O,2E,2EU,2KA,2QA,2GA,2NGA,2CA",
      "2JA,2ZA,2NYA,2TA,2DA,2NA,2PA,2FA,2VA,2BA,2MA,2YA,2RA,2LA,2WA,2SA,2XA,2z,1CnSniTw PAMgGKc",
      "3PiYAKRA,3PiYIKU,1VOWELw PiGHULU,3PiYUKU,3PiAELArG,3PiOLnG,3PAMEPET,3PiEUkUNG",
      "1SIGN PAMAAEH,2VIRAMA,1CnSniTw PASiGi MA,4WA,1kTTl Kz,2SYA,1DIGIT ZlO,2nE,2TWO,2svE",
      "2FOUR,2FIVE,2SIX,2SEVr,2Ef,2NgE,1AVAGRAz,1kTTl vU,2kU,2Bz,2Fgc K,3M,0BATAKaA",
      "2SIMcUNGUN A,2z,2SIMcUNGUN z,2MiDAILgG z,2BA,2KeO BA,2PA,2SIMcUNGUN PA,2NA,2MiDAILgG NA",
      "2WA,2SIMcUNGUN WA,2PAKPAK WA,2GA,2SIMcUNGUN GA,2JA,2DA,2RA,2SIMcUNGUN RA,2MA",
      "2SIMcUNGUN MA,2SOUslN TA,2NORslN TA,2SA,2SIMcUNGUNoA,2MiDAILgGoA,2YA,2SIMcUNGUN YA,2NGA",
      "2LA,2SIMcUNGUN LA,2NYA,2CA,2NDA,2MBA,2I,2U,1SIGN TOMPI,1VOWELw E,3PAKPAK E,3EE,3I,3KeO I",
      "3O,3KeO O,3U,4FORoIMcUNGUNoA,1CnSniTw NG,3H,1PiGOLAT,1PinGni"]),
    (0x1BFC, [
      "0BATAKoYMBOL BgDU NA METEK,3PgeBORAS,3JUDUL,3PiGOLAT,0kPCzaKA,2KLA,2Kz,2GA,2GLA,2NGA,2CA",
      "2Cz,2JA,2NYA,2TA,2sA,2DA,2NA,2PA,2PLA,2Pz,2FA,2FLA,2BA,2BLA,2MA,2MLA,2TSA,2TSz,2DZA,2YA",
      "2RA,2LA,2z,2HLA,2VA,2SA,2Sz,2WA,2A,1SUBJOgEDaYA,3RA,1VOWELw AA,3I,3O,3OO,3U,3UU,3E",
      "1CnSniTw K,3M,3L,3N,3P,3R,3T,3NYg-y,3KiG,1SIGN Ri,2NUKTA"]),
    (0x1C3B, [
      "0kPCz PUNCTUAun TA-ROL,2NYET sYOOM TA-ROL,2Cl-WA,2TSHOOK Cl-WA,2TSHOOK,1DIGIT ZlO,2nE",
      "2TWO,2svE,2FOUR,2FIVE,2SIX,2SEVr,2Ef,2NgE"]),
    (0x1C4D, [
      "0kPCzaTTA,2TsA,2DDA,0OL CHIKI DIGIT ZlO,3nE,3TWO,3svE,3FOUR,3FIVE,3SIX,3SEVr,3Ef,3NgE",
      "2kTTl LA,3AT,3AG,3iG,3c,3LAA,3AAK,3AAJ,3AAM,3AAW,3LI,3IS,3IH,3gY,3IR,3LU,3UC,3UD,3UNN",
      "3UY,3k,3EP,3EDD,3r,3lR,3LO,3OTT,3OB,3OV,3OH,2MU TTUDDAG,2GAAHLAA TTUDDAAG",
      "2MU-GAAHLAA TTUDDAAG,2vLAA,2PzeKAA,2AzD,2PUNCTUAun MUCAAD,3yUBk MUCAAD",
      "0CYRILLIC jaROUNDEtVE,3LnG-kGGEtDE,3NeROW O,3WIDE ES,3TcL TE,3svE-kGGEtTE,3TcL HeDw,4YAT",
      "3UNBkNDEtUK"]),
    (0x1C90, [
      "0GEORGIi MTAVRULI di,4Bi,4Gi,4Dn,4r,4Vg,4Zr,4Ti,4g,4Ki,4LAS,4Mi,4Ne,4n,4Pe,4ZHe,4RAE,4Si",
      "4Te,4UN,4PHe,4KHe,4GHi,4Qe,4SHg,4CHg,4Ci,4JIL,4CIL,4CHe,4Xi,4JHi,4zE,4HE,4HIE,4WE,4He",
      "4HOE,4FI,4YN,4ELIFI,4TURNEtGi,4Ag"]),
    (0x1CBD, [
      "0GEORGIi MTAVRULI dAr,4HeDw,4LABIcw,0SUNDiESE PUNCTUAun BgDUoURYA,3PiGLnG,3PURNAMA",
      "3CAKRA,3kUoATiGA,3KAoATiGA,3DAoATiGA,3BAoATiGA"]),
    (0x1CD0, [
      "0VEDIC TnE KeSHiA,2SHeA,2PRrKz,1SIGN NIHSHVASA,2YAJURVEDIC MIDLgEoVeITA",
      "1TnE YAJURVEDIC AGGRAVATEtgDEPrDrToVeITA,3gDEPrDrToVeITA,3KAsAKA gDEPrDrToVeITA",
      "2CiDRA BELOW,2YAJURVEDIC KAsAKA gDEPrDrToVeITAoCHROEDl,2yUBkoVeITA,2TRIPkoVeITA",
      "2KAsAKA iUDATTA,2yT BELOW,2TWO yTS BELOW,2svE yTS BELOW",
      "2RIGVEDIC KASHMIRI gDEPrDrToVeITA,2AseVAVEDIC gDEPrDrToVeITA,1SIGN VISeGAoVeITA,3UDATTA",
      "2vVlSEtVISeGA UDATTA,2VISeGA iUDATTA,2vVlSEtVISeGA iUDATTA,2VISeGA UDATTAbTAIL",
      "3iUDATTAbTAIL,2iUSVeA iTeGOMUKz,3BAHIRGOMUKz,3VAMAGOMUKz,4WIs TAIL,2uRYAK",
      "2HEXIFORM LnG iUSVeA,2LnG iUSVeA,2RsiG LnG iUSVeA,2iUSVeA UBzYATO MUKz,2eDzVISeGA",
      "2ROTATEteDzVISeGA,1TnE CiDRAq,1SIGN JIHVAMULIYA,2UPADHMiIYA,2AuKRAMA,1TnE RgGq",
      "2yUBk RgGq,1SIGN yUBk iUSVeA iTeGOMUKz"]),
    (0x1D00, [
      "0LATgaj CAPITc A,4AE,1jaTURNEtAE,1kTTl j CAPITc BevtB,4C,4D,4Es,4E,1jaTURNEtOPr E,4I",
      "1kTTl j CAPITc J,4K,4LbSTROKE,4M,4vVlSEtN,4O,4OPr O,1jaSIDEWAYS O,4OPr O,4ObSTROKE",
      "3TURNEtOE,1kTTl j CAPITc OU,1jaTOP HcF O,3BOTTOM HcF O,1kTTl j CAPITc P,4vVlSEtR",
      "4TURNEtR,4T,4U,1jaSIDEWAYS U,4DIAlESIZEtU,4TURNEtM,1kTTl j CAPITc V,4W,4Z,4EZH",
      "2VOICEtLeYNGEcoPIRiT,2Ag,0GvEKaj CAPITc GAMMA,4LAMDA,4PI,4RHO,4PSI,0CYRILLICaj CAPITc EL",
      "0MODIFIlaCAPITc A,3AE,3B,3BevtB,3D,3E,3vVlSEtE,3G,3H,3I,3J,3K,3L,3M,3N,3vVlSEtN,3O,3OU",
      "3P,3R,3T,3U,3W,2j A,3TURNEtA,3cPz,3TURNEtAE,3B,3D,3E,3SCHWA,3OPr E,3TURNEtOPr E,3G",
      "3TURNEtI,3K,3M,3rG,3O,3OPr O,3TOP HcF O,3BOTTOM HcF O,3P,3T,3U,3SIDEWAYS U,3TURNEtM,3V",
      "3Ag,3BETA,3GvEK GAMMA,3DELTA,3GvEK PHI,3CHI,0LATgoUBSCRIPT jaI,4R,4U,4V",
      "0GvEKoUBSCRIPT jaBETA,4GAMMA,4RHO,4PHI,4CHI,0LATg jaUE,3BbMIDDk uLDE,3DbMIDDk uLDE",
      "3FbMIDDk uLDE,3MbMIDDk uLDE,3NbMIDDk uLDE,3PbMIDDk uLDE,3RbMIDDk uLDE",
      "5FISHHOOK itMIDDk uLDE,3SbMIDDk uLDE,3TbMIDDk uLDE,3ZbMIDDk uLDE,3TURNEtG",
      "0MODIFIlaCYRILLIC r,0LATg jagSULe G,3sbSTRIKEsROUGH,2dIbSTROKE,2kTTl IOTAbSTROKE",
      "3PbSTROKE,2dUbSTROKE,2kTTl UPSILnbSTROKE,3BbPcATc HOOK,3DbPcATc HOOK,3FbPcATc HOOK",
      "3GbPcATc HOOK,3KbPcATc HOOK,3LbPcATc HOOK,3MbPcATc HOOK,3NbPcATc HOOK,3PbPcATc HOOK",
      "3RbPcATc HOOK,3SbPcATc HOOK,3ESHbPcATc HOOK,3VbPcATc HOOK,3XbPcATc HOOK,3ZbPcATc HOOK",
      "3AbvTROFkX HOOK,3cPzbvTROFkX HOOK,3DbHOOK itTAIL,3EbvTROFkX HOOK,3OPr EbvTROFkX HOOK",
      "3vVlSEtOPr EbvTROFkX HOOK,3SCHWAbvTROFkX HOOK,3IbvTROFkX HOOK,3OPr ObvTROFkX HOOK",
      "3ESHbvTROFkX HOOK,3UbvTROFkX HOOK,3EZHbvTROFkX HOOK,0MODIFIlaj TURNEtcPz,3C,4WIs CURL",
      "3Es,3vVlSEtOPr E,3F,3yTkSS JbSTROKE,3SCRIPT G,3TURNEtH,3IbSTROKE,3IOTA,3CAPITc I",
      "5WIsoTROKE,3JbCROSSED-TAIL,3LbvTROFkX HOOK,5PcATc HOOK,3CAPITc L,3MbHOOK,3TURNEtMbLnG kG",
      "3NbkFT HOOK,5vTROFkX HOOK,3CAPITc N,3BevtO,3PHI,3SbHOOK,3ESH,3TbPcATc HOOK,3U Be,3UPSILn",
      "3CAPITc U,3VbHOOK,3TURNEtV,3Z,4WIs vTROFkX HOOK,5CURL,3EZH,3sETA",
      "0COMBggG yTTEtGRAVE ACCrT,2ACUTE ACCrT,1SNAKE BELOW,1SUSPrSIn MeK,1MACRn-ACUTE",
      "1GRAVE-MACRn,1MACRn-GRAVE,1ACUTE-MACRn,1GRAVE-ACUTE-GRAVE,1ACUTE-GRAVE-ACUTE",
      "1LATg jaR BELOW,1BvVE-MACRn,1MACRn-BvVE,1yUBk CIRCUMFkXq,1OGnEKq,1ZIGZAG BELOW,1IS BELOW",
      "1URq,1USq,1LATg jaFLATTrEtOPr Aq,4AE,4AO,4AV,4C CEDILLA,4gSULe D,4Es,4G,2kTTl j CAPITc G",
      "2jaK,4L,2kTTl j CAPITc L,5M,2jaN,2kTTl j CAPITc N,5R,2jaR ROTUNDA,4S,4LnGo,4Z,4cPz,4B",
      "4BETA,4SCHWA,4F,4LbyUBk MIDDk uLDE,4ObLf CrTRcIZAunoTROKE,4P,4ESH,4UbLf CrTRcIZAunoTROKE",
      "4W,4AbDIAlESIS,4ObDIAlESIS,4UbDIAlESIS,1UP TACKq,1KAVYKAq Rf,3kFT,1yTq kFT",
      "1WIDE gVlTEtBRIDGE BELOW,1yT BELOW kFT,1DEkun MeK,1yUBk gVlTEtBvVE BELOW",
      "1cMOST EQUc TO BELOW,1kFTmHEADq,1RfmHEAtityWNmHEAtBELOW,0LATg dAbRgG BELOW",
      "1jaAbRgG BELOW,1dBbyTq,1jaBbyTq,1dBbyT BELOW,1jaBbyT BELOW,1dBbLgE BELOW,1jaBbLgE BELOW",
      "1dCbCEDILLA itACUTE,1jaCbCEDILLA itACUTE,1dDbyTq,1jaDbyTq,1dDbyT BELOW,1jaDbyT BELOW",
      "1dDbLgE BELOW,1jaDbLgE BELOW,1dDbCEDILLA,1jaDbCEDILLA,1dDbCIRCUMFkX BELOW",
      "1jaDbCIRCUMFkX BELOW,1dEbMACRn itGRAVE,1jaEbMACRn itGRAVE,1dEbMACRn itACUTE",
      "1jaEbMACRn itACUTE,1dEbCIRCUMFkX BELOW,1jaEbCIRCUMFkX BELOW,1dEbuLDE BELOW",
      "1jaEbuLDE BELOW,1dEbCEDILLA itBvVE,1jaEbCEDILLA itBvVE,1dFbyTq,1jaFbyTq,1dGbMACRn",
      "1jaGbMACRn,1dHbyTq,1jaHbyTq,1dHbyT BELOW,1jaHbyT BELOW,1dHbDIAlESIS,1jaHbDIAlESIS",
      "1dHbCEDILLA,1jaHbCEDILLA,1dHbBvVE BELOW,1jaHbBvVE BELOW,1dIbuLDE BELOW,1jaIbuLDE BELOW",
      "1dIbDIAlESIS itACUTE,1jaIbDIAlESIS itACUTE,1dKbACUTE,1jaKbACUTE,1dKbyT BELOW",
      "1jaKbyT BELOW,1dKbLgE BELOW,1jaKbLgE BELOW,1dLbyT BELOW,1jaLbyT BELOW",
      "1dLbyT BELOW itMACRn,1jaLbyT BELOW itMACRn,1dLbLgE BELOW,1jaLbLgE BELOW",
      "1dLbCIRCUMFkX BELOW,1jaLbCIRCUMFkX BELOW,1dMbACUTE,1jaMbACUTE,1dMbyTq,1jaMbyTq",
      "1dMbyT BELOW,1jaMbyT BELOW,1dNbyTq,1jaNbyTq,1dNbyT BELOW,1jaNbyT BELOW,1dNbLgE BELOW",
      "1jaNbLgE BELOW,1dNbCIRCUMFkX BELOW,1jaNbCIRCUMFkX BELOW,1dObuLDE itACUTE",
      "1jaObuLDE itACUTE,1dObuLDE itDIAlESIS,1jaObuLDE itDIAlESIS,1dObMACRn itGRAVE",
      "1jaObMACRn itGRAVE,1dObMACRn itACUTE,1jaObMACRn itACUTE,1dPbACUTE,1jaPbACUTE,1dPbyTq",
      "1jaPbyTq,1dRbyTq,1jaRbyTq,1dRbyT BELOW,1jaRbyT BELOW,1dRbyT BELOW itMACRn",
      "1jaRbyT BELOW itMACRn,1dRbLgE BELOW,1jaRbLgE BELOW,1dSbyTq,1jaSbyTq,1dSbyT BELOW",
      "1jaSbyT BELOW,1dSbACUTE ityTq,1jaSbACUTE ityTq,1dSbCen ityTq,1jaSbCen ityTq",
      "1dSbyT BELOW ityTq,1jaSbyT BELOW ityTq,1dTbyTq,1jaTbyTq,1dTbyT BELOW,1jaTbyT BELOW",
      "1dTbLgE BELOW,1jaTbLgE BELOW,1dTbCIRCUMFkX BELOW,1jaTbCIRCUMFkX BELOW,1dUbDIAlESIS BELOW",
      "1jaUbDIAlESIS BELOW,1dUbuLDE BELOW,1jaUbuLDE BELOW,1dUbCIRCUMFkX BELOW",
      "1jaUbCIRCUMFkX BELOW,1dUbuLDE itACUTE,1jaUbuLDE itACUTE,1dUbMACRn itDIAlESIS",
      "1jaUbMACRn itDIAlESIS,1dVbuLDE,1jaVbuLDE,1dVbyT BELOW,1jaVbyT BELOW,1dWbGRAVE,1jaWbGRAVE",
      "1dWbACUTE,1jaWbACUTE,1dWbDIAlESIS,1jaWbDIAlESIS,1dWbyTq,1jaWbyTq,1dWbyT BELOW",
      "1jaWbyT BELOW,1dXbyTq,1jaXbyTq,1dXbDIAlESIS,1jaXbDIAlESIS,1dYbyTq,1jaYbyTq,1dZbCIRCUMFkX",
      "1jaZbCIRCUMFkX,1dZbyT BELOW,1jaZbyT BELOW,1dZbLgE BELOW,1jaZbLgE BELOW,3HbLgE BELOW",
      "3TbDIAlESIS,3WbRgGq,3YbRgGq,3AbRf HcF RgG,3LnGobyTq,6DIAGncoTROKE,6HIGHoTROKE,1dSHePo",
      "1jaDELTA,1dAbyT BELOW,1jaAbyT BELOW,1dAbHOOKq,1jaAbHOOKq,1dAbCIRCUMFkX itACUTE",
      "1jaAbCIRCUMFkX itACUTE,1dAbCIRCUMFkX itGRAVE,1jaAbCIRCUMFkX itGRAVE",
      "1dAbCIRCUMFkX itHOOKq,1jaAbCIRCUMFkX itHOOKq,1dAbCIRCUMFkX ituLDE,1jaAbCIRCUMFkX ituLDE",
      "1dAbCIRCUMFkX ityT BELOW,1jaAbCIRCUMFkX ityT BELOW,1dAbBvVE itACUTE,1jaAbBvVE itACUTE",
      "1dAbBvVE itGRAVE,1jaAbBvVE itGRAVE,1dAbBvVE itHOOKq,1jaAbBvVE itHOOKq,1dAbBvVE ituLDE",
      "1jaAbBvVE ituLDE,1dAbBvVE ityT BELOW,1jaAbBvVE ityT BELOW,1dEbyT BELOW,1jaEbyT BELOW",
      "1dEbHOOKq,1jaEbHOOKq,1dEbuLDE,1jaEbuLDE,1dEbCIRCUMFkX itACUTE,1jaEbCIRCUMFkX itACUTE",
      "1dEbCIRCUMFkX itGRAVE,1jaEbCIRCUMFkX itGRAVE,1dEbCIRCUMFkX itHOOKq",
      "1jaEbCIRCUMFkX itHOOKq,1dEbCIRCUMFkX ituLDE,1jaEbCIRCUMFkX ituLDE",
      "1dEbCIRCUMFkX ityT BELOW,1jaEbCIRCUMFkX ityT BELOW,1dIbHOOKq,1jaIbHOOKq,1dIbyT BELOW",
      "1jaIbyT BELOW,1dObyT BELOW,1jaObyT BELOW,1dObHOOKq,1jaObHOOKq,1dObCIRCUMFkX itACUTE",
      "1jaObCIRCUMFkX itACUTE,1dObCIRCUMFkX itGRAVE,1jaObCIRCUMFkX itGRAVE",
      "1dObCIRCUMFkX itHOOKq,1jaObCIRCUMFkX itHOOKq,1dObCIRCUMFkX ituLDE,1jaObCIRCUMFkX ituLDE",
      "1dObCIRCUMFkX ityT BELOW,1jaObCIRCUMFkX ityT BELOW,1dObHORN itACUTE,1jaObHORN itACUTE",
      "1dObHORN itGRAVE,1jaObHORN itGRAVE,1dObHORN itHOOKq,1jaObHORN itHOOKq,1dObHORN ituLDE",
      "1jaObHORN ituLDE,1dObHORN ityT BELOW,1jaObHORN ityT BELOW,1dUbyT BELOW,1jaUbyT BELOW",
      "1dUbHOOKq,1jaUbHOOKq,1dUbHORN itACUTE,1jaUbHORN itACUTE,1dUbHORN itGRAVE",
      "1jaUbHORN itGRAVE,1dUbHORN itHOOKq,1jaUbHORN itHOOKq,1dUbHORN ituLDE,1jaUbHORN ituLDE",
      "1dUbHORN ityT BELOW,1jaUbHORN ityT BELOW,1dYbGRAVE,1jaYbGRAVE,1dYbyT BELOW,1jaYbyT BELOW",
      "1dYbHOOKq,1jaYbHOOKq,1dYbuLDE,1jaYbuLDE,1dMIDDk-WELSH LL,1jaMIDDk-WELSH LL",
      "1dMIDDk-WELSH V,1jaMIDDk-WELSH V,1dYbLOOP,1jaYbLOOP,0GvEK jacPzbPSILI,5DASIA",
      "5PSILI itVeIA,5DASIA itVeIA,5PSILI itOXIA,5DASIA itOXIA,5PSILI itPlISPOMrI",
      "5DASIA itPlISPOMrI,1dcPzbPSILI,5DASIA,5PSILI itVeIA,5DASIA itVeIA,5PSILI itOXIA",
      "5DASIA itOXIA,5PSILI itPlISPOMrI,5DASIA itPlISPOMrI,1jaEPSILnbPSILI,5DASIA,5PSILI itVeIA",
      "5DASIA itVeIA,5PSILI itOXIA,5DASIA itOXIA"]),
    (0x1F18, [
      "0GvEK dEPSILnbPSILI,5DASIA,5PSILI itVeIA,5DASIA itVeIA,5PSILI itOXIA,5DASIA itOXIA"]),
    (0x1F20, [
      "0GvEK jaETAbPSILI,5DASIA,5PSILI itVeIA,5DASIA itVeIA,5PSILI itOXIA,5DASIA itOXIA",
      "5PSILI itPlISPOMrI,5DASIA itPlISPOMrI,1dETAbPSILI,5DASIA,5PSILI itVeIA,5DASIA itVeIA",
      "5PSILI itOXIA,5DASIA itOXIA,5PSILI itPlISPOMrI,5DASIA itPlISPOMrI,1jaIOTAbPSILI,5DASIA",
      "5PSILI itVeIA,5DASIA itVeIA,5PSILI itOXIA,5DASIA itOXIA,5PSILI itPlISPOMrI",
      "5DASIA itPlISPOMrI,1dIOTAbPSILI,5DASIA,5PSILI itVeIA,5DASIA itVeIA,5PSILI itOXIA",
      "5DASIA itOXIA,5PSILI itPlISPOMrI,5DASIA itPlISPOMrI,1jaOMICRnbPSILI,5DASIA,5PSILI itVeIA",
      "5DASIA itVeIA,5PSILI itOXIA,5DASIA itOXIA"]),
    (0x1F48, [
      "0GvEK dOMICRnbPSILI,5DASIA,5PSILI itVeIA,5DASIA itVeIA,5PSILI itOXIA,5DASIA itOXIA"]),
    (0x1F50, [
      "0GvEK jaUPSILnbPSILI,5DASIA,5PSILI itVeIA,5DASIA itVeIA,5PSILI itOXIA,5DASIA itOXIA",
      "5PSILI itPlISPOMrI,5DASIA itPlISPOMrI"]),
    (0x1F59, ["0GvEK dUPSILnbDASIA"]),
    (0x1F5B, ["0GvEK dUPSILnbDASIA itVeIA"]),
    (0x1F5D, ["0GvEK dUPSILnbDASIA itOXIA"]),
    (0x1F5F, [
      "0GvEK dUPSILnbDASIA itPlISPOMrI,1jaOMEGAbPSILI,5DASIA,5PSILI itVeIA,5DASIA itVeIA",
      "5PSILI itOXIA,5DASIA itOXIA,5PSILI itPlISPOMrI,5DASIA itPlISPOMrI,1dOMEGAbPSILI,5DASIA",
      "5PSILI itVeIA,5DASIA itVeIA,5PSILI itOXIA,5DASIA itOXIA,5PSILI itPlISPOMrI",
      "5DASIA itPlISPOMrI,1jacPzbVeIA,5OXIA,3EPSILnbVeIA,5OXIA,3ETAbVeIA,5OXIA,3IOTAbVeIA,5OXIA",
      "3OMICRnbVeIA,5OXIA,3UPSILnbVeIA,5OXIA,3OMEGAbVeIA,5OXIA"]),
    (0x1F80, [
      "0GvEK jacPzbPSILI itYPOGEGRAMMrI,5DASIA itYPOGEGRAMMrI,5PSILI itVeIA itYPOGEGRAMMrI",
      "5DASIA itVeIA itYPOGEGRAMMrI,5PSILI itOXIA itYPOGEGRAMMrI,5DASIA itOXIA itYPOGEGRAMMrI",
      "5PSILI itPlISPOMrI itYPOGEGRAMMrI,5DASIA itPlISPOMrI itYPOGEGRAMMrI",
      "1dcPzbPSILI itPROSGEGRAMMrI,5DASIA itPROSGEGRAMMrI,5PSILI itVeIA itPROSGEGRAMMrI",
      "5DASIA itVeIA itPROSGEGRAMMrI,5PSILI itOXIA itPROSGEGRAMMrI",
      "5DASIA itOXIA itPROSGEGRAMMrI,5PSILI itPlISPOMrI itPROSGEGRAMMrI",
      "5DASIA itPlISPOMrI itPROSGEGRAMMrI,1jaETAbPSILI itYPOGEGRAMMrI,5DASIA itYPOGEGRAMMrI",
      "5PSILI itVeIA itYPOGEGRAMMrI,5DASIA itVeIA itYPOGEGRAMMrI,5PSILI itOXIA itYPOGEGRAMMrI",
      "5DASIA itOXIA itYPOGEGRAMMrI,5PSILI itPlISPOMrI itYPOGEGRAMMrI",
      "5DASIA itPlISPOMrI itYPOGEGRAMMrI,1dETAbPSILI itPROSGEGRAMMrI,5DASIA itPROSGEGRAMMrI",
      "5PSILI itVeIA itPROSGEGRAMMrI,5DASIA itVeIA itPROSGEGRAMMrI",
      "5PSILI itOXIA itPROSGEGRAMMrI,5DASIA itOXIA itPROSGEGRAMMrI",
      "5PSILI itPlISPOMrI itPROSGEGRAMMrI,5DASIA itPlISPOMrI itPROSGEGRAMMrI",
      "1jaOMEGAbPSILI itYPOGEGRAMMrI,5DASIA itYPOGEGRAMMrI,5PSILI itVeIA itYPOGEGRAMMrI",
      "5DASIA itVeIA itYPOGEGRAMMrI,5PSILI itOXIA itYPOGEGRAMMrI,5DASIA itOXIA itYPOGEGRAMMrI",
      "5PSILI itPlISPOMrI itYPOGEGRAMMrI,5DASIA itPlISPOMrI itYPOGEGRAMMrI",
      "1dOMEGAbPSILI itPROSGEGRAMMrI,5DASIA itPROSGEGRAMMrI,5PSILI itVeIA itPROSGEGRAMMrI",
      "5DASIA itVeIA itPROSGEGRAMMrI,5PSILI itOXIA itPROSGEGRAMMrI",
      "5DASIA itOXIA itPROSGEGRAMMrI,5PSILI itPlISPOMrI itPROSGEGRAMMrI",
      "5DASIA itPlISPOMrI itPROSGEGRAMMrI,1jacPzbVRACHY,5MACRn,5VeIA itYPOGEGRAMMrI",
      "5YPOGEGRAMMrI,5OXIA itYPOGEGRAMMrI"]),
    (0x1FB6, [
      "0GvEK jacPzbPlISPOMrI,6itYPOGEGRAMMrI,1dcPzbVRACHY,5MACRn,5VeIA,5OXIA,5PROSGEGRAMMrI",
      "1KORnIS,1PROSGEGRAMMrI,1PSILI,1PlISPOMrI,1DIcYuKA itPlISPOMrI,1jaETAbVeIA itYPOGEGRAMMrI",
      "5YPOGEGRAMMrI,5OXIA itYPOGEGRAMMrI"]),
    (0x1FC6, [
      "0GvEK jaETAbPlISPOMrI,6itYPOGEGRAMMrI,1dEPSILnbVeIA,5OXIA,3ETAbVeIA,5OXIA,5PROSGEGRAMMrI",
      "1PSILI itVeIA,3OXIA,3PlISPOMrI,1jaIOTAbVRACHY,5MACRn,5DIcYuKA itVeIA,7OXIA"]),
    (0x1FD6, ["0GvEK jaIOTAbPlISPOMrI,5DIcYuKA itPlISPOMrI,1dIOTAbVRACHY,5MACRn,5VeIA,5OXIA"]),
    (0x1FDD, [
      "0GvEK DASIA itVeIA,3OXIA,3PlISPOMrI,1jaUPSILnbVRACHY,5MACRn,5DIcYuKA itVeIA,7OXIA",
      "3RHObPSILI,5DASIA,3UPSILnbPlISPOMrI,5DIcYuKA itPlISPOMrI,1dUPSILnbVRACHY,5MACRn,5VeIA",
      "5OXIA,3RHObDASIA,1DIcYuKA itVeIA,3OXIA,1VeIA"]),
    (0x1FF2, ["0GvEK jaOMEGAbVeIA itYPOGEGRAMMrI,5YPOGEGRAMMrI,5OXIA itYPOGEGRAMMrI"]),
    (0x1FF6, [
      "0GvEK jaOMEGAbPlISPOMrI,6itYPOGEGRAMMrI,1dOMICRnbVeIA,5OXIA,3OMEGAbVeIA,5OXIA",
      "5PROSGEGRAMMrI,1OXIA,1DASIA"])]

/-- Runs from 0x2000 on: punctuation, signs, arrows and operators. -/
def symbolRuns : List NameRun :=
  [(0x2000, [
      "0r QUAD,0EM QUAD,0roPACE,0EMoPACE,0svE-Pl-EMoPACE,0FOUR-Pl-EMoPACE,0SIX-Pl-EMoPACE",
      "0FIGUvoPACE,0PUNCTUAunoPACE,0sgoPACE,0zIRoPACE,0ZlO WIDsoPACE,2Nn-JOgl,2JOgl",
      "0kFT-TO-Rf MeK,0Rf-TO-kFT MeK,0HYPHr,0Nn-BvAKgG HYPHr,0FIGUv DASH,0r DASH,0EM DASH",
      "0HORIZnTc Be,0yUBk VluCc LgE,1LOW LgE,0kFTogGk QUOTAun MeK,0RfogGk QUOTAun MeK",
      "0SgGk LOW-9 QUOTAun MeK,1HIGH-vVlSED-9 QUOTAun MeK,0kFT yUBk QUOTAun MeK",
      "0Rf yUBk QUOTAun MeK,0yUBk LOW-9 QUOTAun MeK,1HIGH-vVlSED-9 QUOTAun MeK,0DAGGl",
      "0yUBk DAGGl,0BULkT,0TRIiGULe BULkT,0nE yT kADl,0TWO yT kADl,0HORIZnTc ELLIPSIS",
      "0HYPHrAun POgT,0LgEoEPeATOR,0PeAGRAPHoEPeATOR,0kFT-TO-Rf EMBEDDgG,0Rf-TO-kFT EMBEDDgG",
      "0POP DIvCunchATTgG,0kFT-TO-Rf OVlRIDE,0Rf-TO-kFT OVlRIDE,0NeROW NO-BvAKoPACE,0Pl MILkw",
      "1Tr sOUSiDw,0PRIME,0yUBk PRIME,0TRIPk PRIME,0vVlSEtPRIME,1yUBk PRIME,1TRIPk PRIME,0CeET",
      "0SgGk kFT-POgTgG iGk QUOTAun MeK,1Rf-POgTgG iGk QUOTAun MeK,0vFlrCE MeK",
      "0yUBk EXCLAMAun MeK,0gTlROBiG,0OVlLgE,0UNDluE,0CHeACTl uE,0CeET gSlun POgT,0ASTlISM",
      "0HYPHr BULkT,0FRACunoLASH,0kFToQUeE BRACKETbQUILL,0RfoQUeE BRACKETbQUILL",
      "0yUBk QUESun MeK,0QUESun EXCLAMAun MeK,0EXCLAMAun QUESun MeK,0uRnIiw ET,0vVlSEtPILCROWw",
      "0BLACK kFTx BULkT,1Rfx BULkT,0LOW ASTlISK,0vVlSEDoEMICOLn,0CLOSE UP",
      "0TWO ASTlISKS cIGNEtVluCcLY,0COMMlCIc MgUSw,0SWUNG DASH,0gVlTEtUNDluE",
      "0FLOWl PUNCTUAun MeK,0svE yT PUNCTUAun,0QUADRUPk PRIME,0FOUR yT PUNCTUAun",
      "0FIVE yT PUNCTUAun,0TWO yT PUNCTUAun,0FOUR yT MeK,0yTTEtCROSS,0TRICOLn,0VluCc FOUR yTS",
      "0MEDIUM MAsEMAuCcoPACE,0WORtJOgl,0FUNCun APPLICAun,0gVISIBk uMES,1SEPeATOR,1PLUS"]),
    (0x2066, [
      "0kFT-TO-Rf ISOLATE,0Rf-TO-kFT ISOLATE,0FIRSToTRnG ISOLATE,0POP DIvCunc ISOLATE",
      "0gHIBIToYMMETRICoWAPPgG,0ACuVATEoYMMETRICoWAPPgG,0gHIBIT eABIChozPgG",
      "0ACuVATE eABIChozPgG,0NAunc DIGITozPES,0NOMgc DIGITozPES,0SUPlSCRIPT ZlO,1LATg jaI"]),
    (0x2074, [
      "0SUPlSCRIPT FOUR,1FIVE,1SIX,1SEVr,1Ef,1NgE,1PLUSw,1MgUS,1EQUcSw,1kFT PersESIS",
      "1Rf PersESIS,1LATg jaN,0SUBSCRIPT ZlO,1nE,1TWO,1svE,1FOUR,1FIVE,1SIX,1SEVr,1Ef,1NgE",
      "1PLUSw,1MgUS,1EQUcSw,1kFT PersESIS,1Rf PersESIS"]),
    (0x2090, ["0LATgoUBSCRIPT jaA,4E,4O,4X,4SCHWA,4H,4K,4L,4M,4N,4P,4S,4T"]),
    (0x20A0, [
      "0EURO-CURRrCYw,0COLnw,0CRUZEIROw,0FRrCH FRiCw,0LIRAw,0MILLw,0NAIRAw,0PESETAw,0RUPEEw",
      "0Wnw,0NEWoHEQELw,0DnGw,0EUROw,0KIPw,0TUGRIKw,0DRACHMAw,0GlMi PrNYw,0PESOw,0GUeiIw",
      "0AUSTRcw,0HRYVNIAw,0CEDIw,0LIVv TOURNOISw,0SPESMILOw,0TrGEw,0gDIi RUPEEw,0TURKISH LIRAw",
      "0NORDIC MeKw,0MiATw,0RUBkw,0LeIw,0BITCOgw,0SOMw"]),
    (0x20D0, [
      "0COMBggG kFT HePOnq,1Rf HePOnq,1LnG VluCc LgE OVlLAY,1SHORT VluCc LgE OVlLAY",
      "1iuCLOCKWISEmq,1CLOCKWISEmq,1kFTmq,1Rfmq,1RgG OVlLAY,1CLOCKWISE RgG OVlLAY",
      "1iuCLOCKWISE RgG OVlLAY,1svE yTSq,1FOUR yTSq,1rCLOSgG CIRCk,2SQUeE,2DIAMnD",
      "2CIRCk BACKSLASH,1kFT Rfmq,1rCLOSgGoCvr,2KEYCAP,2UPWetPOgTgG TRIiGk,1vVlSEoOLIDUS OVlLAY",
      "1yUBk VluCcoTROKE OVlLAY,1iNUITYoYMBOL,1TRIPk UNDlyT,1WIDE BRIDGEq,1kFTxm OVlLAY",
      "1LnG yUBkoOLIDUS OVlLAY,1Rfx HePOnbBeB yWNx,1kFTx HePOnbBeB yWNx,1kFTm BELOW,1Rfm BELOW",
      "1ASTlISKq"]),
    (0x2100, [
      "0ACCOUNT OF,0ADDvSSEtTO sEoUBJECT,0yUBk-STRUCK CAPITc C,0DEGvE CELSIUS,0CrTv LgEoYMBOL",
      "0CeE OF,0CADA UNA,0EUkR CnSTiT,0SCRUPk,0DEGvE FAHRrHEIT,0SCRIPT j G,1CAPITc H",
      "0BLACK-kTTl CAPITc H,0yUBk-STRUCK CAPITc H,0PLiCK CnSTiT,2OVl TWO PI,0SCRIPT CAPITc I",
      "0BLACK-kTTl CAPITc I,0SCRIPT CAPITc L,1j L,0L B BeoYMBOL,0yUBk-STRUCK CAPITc N,0NUMlOw",
      "0SOUNtvCORDgG COPYRf,0SCRIPT CAPITc P,0yUBk-STRUCK CAPITc P,2Q,0SCRIPT CAPITc R",
      "0BLACK-kTTl CAPITc R,0yUBk-STRUCK CAPITc R,0PvSCRIPun TAKE,0vSPnSE,0SlVICE MeK,0TEkPHnEw",
      "0TRADE MeKw,0VlSICk,0yUBk-STRUCK CAPITc Z,0OUNCEw,0OHMw,0gVlTEtOHMw,0BLACK-kTTl CAPITc Z",
      "0TURNEtGvEK jaIOTA,0KELVgw,0iGSTROMw,0SCRIPT CAPITc B,0BLACK-kTTl CAPITc C",
      "0ESuMATEDoYMBOL,0SCRIPT j E,1CAPITc E,2F,0TURNEtCAPITc F,0SCRIPT CAPITc M,1j O",
      "0cEFoYMBOL,0BEToYMBOL,0GIMELoYMBOL,0DcEToYMBOL,0gFORMAunoOURCE,0ROTATEtCAPITc Q",
      "0FACSIMIkw,0yUBk-STRUCK j PI,2GAMMA,1CAPITc GAMMA,2PI,1N-eYoUMMAun",
      "0TURNEDoiS-SlIF CAPITc G,3L,0vVlSEDoiS-SlIF CAPITc L,0TURNEDoiS-SlIF CAPITc Y",
      "0yUBk-STRUCK ITcIC CAPITc D,2j D,3E,3I,3J,0PROPlTY LgE,0TURNEtAMPlSiD,0Plw,0AKuESELSKAB",
      "0TURNEtj F,0SYMBOL FORoAMeITioOURCE,0VULGe FRACun nEoEVrs,3Ngs,3Trs,3sIRD,2TWO sIRDS",
      "2nE FIFs,2TWO FIFsS,2svE FIFsS,2FOUR FIFsS,2nEoIXs,2FIVEoIXsS,2nE EfH,2svE EfHS",
      "2FIVE EfHS,2SEVr EfHS,0FRACun NUMlATOR nE,0ROMi NUMlc nE,2TWO,2svE,2FOUR,2FIVE,2SIX",
      "2SEVr,2Ef,2NgE,2Tr,2EkVr,2TWELVE,2FIFTY,2nE HUNDvD,2FIVE HUNDvD,2nE sOUSiD",
      "0j ROMi NUMlc nE,3TWO,3svE,3FOUR,3FIVE,3SIX,3SEVr,3Ef,3NgE,3Tr,3EkVr,3TWELVE,3FIFTY",
      "3nE HUNDvD,3FIVE HUNDvD,3nE sOUSiD,0ROMi NUMlc nE sOUSitC D,2FIVE sOUSiD,2Tr sOUSiD",
      "2vVlSEtnE HUNDvD,0LATg javVlSEtC,0ROMi NUMlcoIX LATEh,2FIFTY EeLYh,3sOUSiD",
      "2nE HUNDvtsOUSiD,0VULGe FRACun ZlO sIRDS,0TURNEtDIGIT TWO,2svE"]),
    (0x2190, [
      "0kFTxm,0UPxm,0Rfxm,0yWNxm,0kFT Rfm,0UP yWNm,0NORs WESTm,1EASTm,0SOUs EASTm,1WESTm",
      "0kFTxmbSTROKE,0RfxmbSTROKE,0kFTx WAVEm,0Rfx WAVEm,0kFTx TWO HEADEDm,0UPx TWO HEADEDm",
      "0Rfx TWO HEADEDm,0yWNx TWO HEADEDm,0kFTxmbTAIL,0RfxmbTAIL,0kFTxm FROM Be,0UPxm FROM Be",
      "0Rfxm FROM Be,0yWNxm FROM Be,0UP yWNmbBASE,0kFTxmbHOOK,0RfxmbHOOK,0kFTxmbLOOP,0RfxmbLOOP",
      "0kFT Rf WAVEm,2eROWbSTROKE,0yWNx ZIGZAGm,0UPxmbuP kFTx,4Rfx,0yWNxmbuP kFTx,4Rfx",
      "0RfxmbCORNl yWNx,0yWNxmbCORNl kFTx,0iuCLOCKWISE TOPoEMICIRCkm,0CLOCKWISE TOPoEMICIRCkm",
      "0NORs WESTm TO LnG Be,0kFTxm TO Be OVl Rfxm TO Be,0iuCLOCKWISE OPr CIRCkm",
      "0CLOCKWISE OPr CIRCkm,0kFTx HePOnbBeB UPx,4yWNx,0UPx HePOnbBeB Rfx,4kFTx",
      "0Rfx HePOnbBeB UPx,4yWNx,0yWNx HePOnbBeB Rfx,4kFTx,0Rfxm OVl kFTxm,0UPxm kFTx OF yWNxm",
      "0kFTxm OVl Rfxm,1PAIvDmS,0UPx PAIvDmS,0Rfx PAIvDmS,0yWNx PAIvDmS",
      "0kFTx HePOn OVl Rfx HePOn,0Rfx HePOn OVl kFTx HePOn,0kFTx yUBkmbSTROKE",
      "0kFT Rf yUBkmbSTROKE,0Rfx yUBkmbSTROKE,0kFTx yUBkm,0UPx yUBkm,0Rfx yUBkm,0yWNx yUBkm",
      "0kFT Rf yUBkm,0UP yWN yUBkm,0NORs WEST yUBkm,1EAST yUBkm,0SOUs EAST yUBkm,1WEST yUBkm",
      "0kFTx TRIPkm,0Rfx TRIPkm,0kFTxoQUIGGkm,0RfxoQUIGGkm,0UPxmbyUBkoTROKE,0yWNxmbyUBkoTROKE",
      "0kFTx DASHEDm,0UPx DASHEDm,0Rfx DASHEDm,0yWNx DASHEDm,0kFTxm TO Be,0Rfxm TO Be",
      "0kFTx WHITEm,0UPx WHITEm,0Rfx WHITEm,0yWNx WHITEm,0UPx WHITEm FROM Be,3n PEDESTc",
      "5WIs HORIZnTc Be,6VluCc Be,2yUBkm,4n PEDESTc,0Rfx WHITEm FROM WcL,0NORs WESTm TO CORNl",
      "0SOUs EASTm TO CORNl,0UP yWN WHITEm,0Rfmbj CIRCk,0yWNxm kFTx OF UPxm,0svE RfxmS",
      "0kFTxmbVluCcoTROKE,0RfxmbVluCcoTROKE,0kFT RfmbVluCcoTROKE,0kFTxmbyUBk VluCcoTROKE",
      "0RfxmbyUBk VluCcoTROKE,0kFT RfmbyUBk VluCcoTROKE,0kFTx OPr-HEADEDm,0Rfx OPr-HEADEDm",
      "0kFT Rf OPr-HEADEDm,0FOR cL,0COMPkMrT,0Peuc DIFFlruc,0slE EXISTS,1yES NOT EXIST",
      "0EMPTYoET,0gCvMrT,0NABLA,0EkMrT OF,0NOT i EkMrT OF,0j EkMrT OF,0CnTAgS AS MEMBl",
      "0yES NOT CnTAg AS MEMBl,0j CnTAgS AS MEMBl,0rtOF PROOF,0N-eY PRODUCT,1COPRODUCT,1SUMMAun",
      "0MgUSw,0MgUS-OR-PLUSw,0yT PLUS,0DIVISInoLASH,0SET MgUS,0ASTlISK OPlATOR,0RgG OPlATOR",
      "0BULkT OPlATOR,0SQUeE ROOT,0CUBE ROOT,0FOURs ROOT,0PROPORunc TO,0gFgITY,0Rf iGk,0iGk",
      "0MEASUvtiGk,0SPHlICc iGk,0DIVIDES,0yES NOT DIVIDE,0PeckL TO,0NOT PeckL TO,0LOGICc iD,1OR",
      "0gTlSECun,0UNIn,0gTEGRc,0yUBk gTEGRc,0TRIPk gTEGRc,0CnTOUR gTEGRc,0SURFACE gTEGRc",
      "0VOLUME gTEGRc,0CLOCKWISE gTEGRc,1CnTOUR gTEGRc,0iuCLOCKWISE CnTOUR gTEGRc,0slEFOv",
      "0BECAUSE,0RAuO,0PROPORun,0yT MgUS,0EXCESS,0GEOMETRIC PROPORun,0HOMOsEuC,0uLDE OPlATOR",
      "0vVlSEtuLDE,0gVlTEtLAZYo,0SgE WAVE,0WvAs PRODUCT,0NOT uLDE,0MgUS uLDE",
      "0ASYMPTOuCcLY EQUc TO,0NOT ASYMPTOuCcLY EQUc TO,0APPROXIMATELY EQUc TO",
      "1BUT NOT ACTUcLY EQUc TO,0NEIsl APPROXIMATELY NOR ACTUcLY EQUc TO,0cMOST EQUc TO",
      "0NOT cMOST EQUc TO,0cMOST EQUc OR EQUc TO,0TRIPk uLDE,0cL EQUc TO,0EQUIVcrT TO",
      "0GEOMETRICcLY EQUIVcrT TO,0DIFFlrCE BETWEr,0APPROACHES sE LIMIT,0GEOMETRICcLY EQUc TO",
      "0APPROXIMATELY EQUc TO OR sE IMAGE OF,0IMAGE OF OR APPROXIMATELY EQUc TO,0COLn EQUcS",
      "0EQUcS COLn,0RgG g EQUc TO,1EQUc TO,0CORvSPnDS TO,0ESuMATES,0EQUIiGULe TO,0STe EQUcS",
      "0DELTA EQUc TO,0EQUc TO BY DEFgIun,0MEASUvtBY,0QUESunEtEQUc TO,0NOT EQUc TO,0IDruCc TO",
      "0NOT IDruCc TO,0STRICTLY EQUIVcrT TO,0kSS-si OR EQUc TO,0GvATl-si OR EQUc TO",
      "0kSS-si OVl EQUc TO,0GvATl-si OVl EQUc TO,0kSS-si BUT NOT EQUc TO",
      "0GvATl-si BUT NOT EQUc TO,0MUCH kSS-si,1GvATl-si,0BETWEr,0NOT EQUIVcrT TO,1kSS-si",
      "1GvATl-si,0NEIsl kSS-si NOR EQUc TO,1GvATl-si NOR EQUc TO,0kSS-si OR EQUIVcrT TO",
      "0GvATl-si OR EQUIVcrT TO,0NEIsl kSS-si NOR EQUIVcrT TO,1GvATl-si NOR EQUIVcrT TO",
      "0kSS-si OR GvATl-si,0GvATl-si OR kSS-si,0NEIsl kSS-si NOR GvATl-si,1GvATl-si NOR kSS-si",
      "0PvCEDES,0SUCCEEDS,0PvCEDES OR EQUc TO,0SUCCEEDS OR EQUc TO,0PvCEDES OR EQUIVcrT TO",
      "0SUCCEEDS OR EQUIVcrT TO,0yES NOT PvCEDE,2SUCCEED,0SUBSET OF,0SUPlSET OF,0NOT AoUBSET OF",
      "2SUPlSET OF,0SUBSET OF OR EQUc TO,0SUPlSET OF OR EQUc TO,0NEIsl AoUBSET OF NOR EQUc TO",
      "2SUPlSET OF NOR EQUc TO,0SUBSET OFbNOT EQUc TO,0SUPlSET OFbNOT EQUc TO,0MULuSET",
      "1MULuPLICAun,1UNIn,0SQUeE IMAGE OF,1ORIGgc OF,1IMAGE OF OR EQUc TO,1ORIGgc OF OR EQUc TO",
      "1CAP,1CUP,0CIRCktPLUS,1MgUS,1uMES,1DIVISInoLASH,1yT OPlATOR,1RgG OPlATOR",
      "1ASTlISK OPlATOR,1EQUcS,1DASH,0SQUeEtPLUS,1MgUS,1uMES,1yT OPlATOR,0Rf TACK,0kFT TACK",
      "0yWN TACK,0UP TACK,0ASSlun,0MODELS,0TRUE,0FORCES,0TRIPk VluCc Be Rf TURNSuk",
      "0yUBk VluCc Be yUBk Rf TURNSuk,0yES NOT PROVE,0NOT TRUE,0yES NOT FORCE",
      "0NEGATEtyUBk VluCc Be yUBk Rf TURNSuk,0PvCEDES UNDl vLAun,0SUCCEEDS UNDl vLAun",
      "0NORMcoUBGROUP OF,0CnTAgS AS NORMcoUBGROUP,0NORMcoUBGROUP OF OR EQUc TO",
      "0CnTAgS AS NORMcoUBGROUP OR EQUc TO,0ORIGgc OF,0IMAGE OF,0MULuMAP",
      "0HlMIui CnJUGATE MATRIX,0gTlCcATE,0XOR,0NiD,0NOR,0Rf iGkbeC,1TRIiGk,0N-eY LOGICc iD,2OR",
      "1gTlSECun,1UNIn,0DIAMntOPlATOR,0yT OPlATOR,0STe OPlATOR,0DIVISIn uMES,0BOWuE",
      "0kFT NORMc FACTORoEMIDIvCT PRODUCT,0Rf NORMc FACTORoEMIDIvCT PRODUCT",
      "0kFToEMIDIvCT PRODUCT,0RfoEMIDIvCT PRODUCT,0vVlSEtuLDE EQUcS,0CURLY LOGICc OR,2iD",
      "0yUBkoUBSET,1SUPlSET,1gTlSECun,1UNIn,0PITCHFORK,0EQUc itPeckL TO,0kSS-sibyT,0GvATl-sibyT",
      "0VlY MUCH kSS-si,2GvATl-si,0kSS-si EQUc TO OR GvATl-si,0GvATl-si EQUc TO OR kSS-si",
      "0EQUc TO OR kSS-si,3GvATl-si,3PvCEDES,3SUCCEEDS,0yES NOT PvCEDE OR EQUc,2SUCCEEtOR EQUc",
      "0NOToQUeE IMAGE OF OR EQUc TO,2ORIGgc OF OR EQUc TO,0SQUeE IMAGE OF OR NOT EQUc TO",
      "1ORIGgc OF OR NOT EQUc TO,0kSS-si BUT NOT EQUIVcrT TO,0GvATl-si BUT NOT EQUIVcrT TO",
      "0PvCEDES BUT NOT EQUIVcrT TO,0SUCCEEDS BUT NOT EQUIVcrT TO,0NOT NORMcoUBGROUP OF",
      "0yES NOT CnTAg AS NORMcoUBGROUP,0NOT NORMcoUBGROUP OF OR EQUc TO",
      "0yES NOT CnTAg AS NORMcoUBGROUP OR EQUc,0VluCc ELLIPSIS,0MIDLgE HORIZnTc ELLIPSIS",
      "0UP Rf DIAGnc ELLIPSIS,0yWN Rf DIAGnc ELLIPSIS,0EkMrT OFbLnG HORIZnTcoTROKE",
      "3VluCc Be AT rtOF HORIZnTcoTROKE,0j EkMrT OFbVluCc Be AT rtOF HORIZnTcoTROKE",
      "0EkMrT OFbyTq,3OVlBe,0j EkMrT OFbOVlBe,0EkMrT OFbUNDlBe,3TWO HORIZnTcoTROKES",
      "0CnTAgSbLnG HORIZnTcoTROKE,2VluCc Be AT rtOF HORIZnTcoTROKE",
      "0j CnTAgSbVluCc Be AT rtOF HORIZnTcoTROKE,0CnTAgSbOVlBe,0j CnTAgSbOVlBe",
      "0Z NOTAun BAG MEMBlSHIP,0DIAMETlw,0EkCTRICm,0HOUSE,0UPmHEAD,0yWNmHEAD,0PROJECuVE",
      "0PlSPECuVE,0WAVY LgE,0kFT CEILgG,0Rf CEILgG,0kFT FLOOR,0Rf FLOOR,0BOTTOM Rf CROP",
      "1kFT CROP,0TOP Rf CROP,1kFT CROP,0vVlSEtNOTw,0SQUeE LOZrGE,0eC,0SEGMrT,0SECTOR",
      "0TEkPHnE vCORDl,0POSIun gDICATOR,0VIEWDATAoQUeE,0PLACE OF gTlESTw,0TURNEtNOTw,0WATCH",
      "0HOURGLASS,0TOP kFT CORNl,1Rf CORNl,0BOTTOM kFT CORNl,1Rf CORNl,0TOP HcF gTEGRc",
      "0BOTTOM HcF gTEGRc,0FROWN,0SMIk,0UPmHEAtBETWEr TWO HORIZnTc BeS,0OPun KEY,0lASE TO sE Rf",
      "0X g A vCTiGk BOX,0KEYBOeD,0kFT-POgTgG iGk BRACKET,0Rf-POgTgG iGk BRACKET",
      "0lASE TO sE kFT,0BrZrE RgG,0CYLgDRICITY,0cL eOUND-PROFIk,0SYMMETRY,0TOTc RUNOUT",
      "0DIMrSIn ORIGg,0CnICc TAPl,0SLOPE,0COUNTlBOv,0COUNTlSgK,0APL FUNCuncoYMBOL I-BEAM",
      "3SQUISH QUAD,3QUAtEQUc,4DIVIDE,4DIAMnD,4JOT,4CIRCk,3CIRCkouk,4JOT,3SLASH Be",
      "3BACKSLASH Be,3QUADoLASH,4BACKSLASH,4kSS-si,4GvATl-si,3kFTx ViE,3Rfx ViE,3QUAtkFTxm",
      "4Rfxm,3CIRCk BACKSLASH,3yWN TACK UNDlBe,3DELTAouk,3QUAtyWN CeET,4DELTA,3yWN TACK JOT",
      "3UPx ViE,3QUAtUPxm,3UP TACK OVlBe,3DELouk,3QUAtUP CeET,4DEL,3UP TACK JOT,3yWNx ViE",
      "3QUAtyWNxm,3QUOTE UNDlBe,3DELTA UNDlBe,3DIAMntUNDlBe,3JOT UNDlBe,3CIRCk UNDlBe",
      "3UPoHOE JOT,3QUOTE QUAD,3CIRCkoTe,3QUAtCOLn,3UP TACK DIAlESIS,3DEL DIAlESIS",
      "3STe DIAlESIS,3JOT DIAlESIS,3CIRCk DIAlESIS,3yWNoHOEouk,3kFToHOEouk,3uLDE DIAlESIS",
      "3GvATl-si DIAlESIS,3COMMA Be,3DEL uLDE,3ZILDE,3Suk uLDE,3SEMICOLn UNDlBe,3QUAtNOT EQUc",
      "4QUESun,3yWN CeET uLDE,3UP CeET uLDE,3IOTA,3RHO,3OMEGA,3cPz UNDlBe,3EPSILn UNDlBe",
      "3IOTA UNDlBe,3OMEGA UNDlBe,3cPz,0NOT CHECK MeK,0Rf iGkbyWNx ZIGZAGm,0SHOULDlEtOPr BOX",
      "0BELLoYMBOL,0VluCc LgEbMIDDk yT,0gSlunoYMBOL,0CnTgUOUS UNDlLgEoYMBOL",
      "0DISCnTgUOUS UNDlLgEoYMBOL,0EMPzSISoYMBOL,0COMPOSIunoYMBOL,0WHITEoQUeEbCrTv VluCc LgE",
      "0rTloYMBOL,0cTlNAuVE KEYoYMBOL,0HELMoYMBOL,0CIRCktHORIZnTc BebNOTCH,1TRIiGk yWN",
      "0BROKr CIRCkbNORsWESTm,0UNyoYMBOL,0MnOSTABkoYMBOL,0HYSTlESISoYMBOL",
      "0OPr-CIRCUIT-OUTPUT H-TYPEoYMBOL,1L-TYPEoYMBOL,0PASSIVE-PULL-yWN-OUTPUToYMBOL",
      "0PASSIVE-PULL-UP-OUTPUToYMBOL,0DIvCT CURRrToYMBOLh TWO,0SOFTWeE-FUNCunoYMBOL",
      "0APL FUNCuncoYMBOL QUAD,0DECIMcoEPeATOR KEYoYMBOL,0PvVIOUS PAGE,0NEXT PAGE",
      "0PRgToCvroYMBOL,0CkeoCvroYMBOL,0kFT PersESIS UPPl HOOK,2EXTrSIn,2LOWl HOOK",
      "0Rf PersESIS UPPl HOOK,2EXTrSIn,2LOWl HOOK,0kFToQUeE BRACKET UPPl CORNl,3EXTrSIn",
      "3LOWl CORNl,0RfoQUeE BRACKET UPPl CORNl,3EXTrSIn,3LOWl CORNl",
      "0kFT CURLY BRACKET UPPl HOOK,3MIDDk PIECE,3LOWl HOOK,0CURLY BRACKET EXTrSIn",
      "0Rf CURLY BRACKET UPPl HOOK,3MIDDk PIECE,3LOWl HOOK,0gTEGRc EXTrSIn",
      "0HORIZnTc LgE EXTrSIn,0UPPl kFT OR LOWl Rf CURLY BRACKEToECun",
      "1Rf OR LOWl kFT CURLY BRACKEToECun,0SUMMAun TOP,1BOTTOM,0TOPoQUeE BRACKET",
      "0BOTTOMoQUeE BRACKET,3OVl TOPoQUeE BRACKET,0RADICcoYMBOL BOTTOM,0kFT VluCc BOX LgE",
      "0Rf VluCc BOX LgE,0HORIZnTcoCi LgE-1,2LgE-3,2LgE-7,2LgE-9",
      "0DruSTRYoYMBOL Lf VluCc itTOP Rf,5BOTTOM Rf,4WIs CIRCk,3yWN itHORIZnTcbCIRCk",
      "3UP itHORIZnTcbCIRCk,3VluCcbTRIiGk,3yWN itHORIZnTcbTRIiGk,3UP itHORIZnTcbTRIiGk",
      "3VluCc itWAVE,3yWN itHORIZnTcbWAVE,3UP itHORIZnTcbWAVE,3yWN itHORIZnTc,3UP itHORIZnTc",
      "3VluCc itTOP kFT,5BOTTOM kFT,0SQUeE FOOT,0vTURNoYMBOL,0EJECToYMBOL,0VluCc LgE EXTrSIn",
      "0METRICc BvVE,1LnG OVloHORT,1SHORT OVl LnG,1LnG OVl TWOoHORTS,1TWOoHORTS OVl LnG,3JOgED",
      "1TRISEME,1TETRASEME,1PrTASEME,0Ees GROUND,0FUSE,0TOP PersESIS,0BOTTOM PersESIS",
      "0TOP CURLY BRACKET,0BOTTOM CURLY BRACKET,0TOP TORTOISEoHELL BRACKET",
      "0BOTTOM TORTOISEoHELL BRACKET,0WHITE TRAPEZIUM,0BrZrE RgGbCIRCk,0STRAfNESS,0FLATNESS",
      "0AC CURRrT,0EkCTRICc gTlSECun,0DECIMc EXPnrToYMBOL,0BLACK Rf-POgTgG yUBk TRIiGk",
      "1kFT-POgTgG yUBk TRIiGk,1UP-POgTgG yUBk TRIiGk,1yWN-POgTgG yUBk TRIiGk",
      "1Rf-POgTgG yUBk TRIiGkbVluCc Be,1kFT-POgTgG yUBk TRIiGkbVluCc Be",
      "1Rf-POgTgG TRIiGkbyUBk VluCc Be,0ceM CLOCK,0STOPWATCH,0uMl CLOCK,0HOURGLASSbFLOWgGoiD",
      "0BLACK MEDIUM kFT-POgTgG TRIiGk,2Rf-POgTgG TRIiGk,2UP-POgTgG TRIiGk,2yWN-POgTgG TRIiGk",
      "0yUBk VluCc Be,0BLACKoQUeE FORoTOP,1CIRCk FOR vCORD,0POWloYMBOL,1n-OFFoYMBOL,1noYMBOL",
      "1SkEPoYMBOL,0OBSlVl EYEoYMBOL,0SYMBOL FOR NULL,2STeT OF HEADgG,4TEXT,2rtOF TEXT",
      "4TRiSMISSIn,2rQUIRY,2ACKNOWkDGE,2BELL,2BACKSPACE,2HORIZnTc TABULAun,2LgE FEED",
      "2VluCc TABULAun,2FORM FEED,2CeRIAGE vTURN,2SHIFT OUT,3g,2DATA LgK ESCAPE",
      "2DEVICE CnTROL nE,4TWO,4svE,4FOUR,2NEGAuVE ACKNOWkDGE,2SYNCHRnOUS IDk",
      "2rtOF TRiSMISSIn BLOCK,2CiCEL,2rtOF MEDIUM,2SUBSuTUTE,2ESCAPE,2FIkoEPeATOR",
      "2GROUPoEPeATOR,2vCORDoEPeATOR,2UNIToEPeATOR,2SPACE,2DEkTE,0BLiKoYMBOL,0OPr BOX",
      "0SYMBOL FOR NEWLgE,2DEkTEh TWO,2SUBSuTUTEh TWO"]),
    (0x2440, [
      "0OCR HOOK,1CzIR,1FORK,1gVlTEtFORK,1BELT BUCKk,1BOW uE,1BRiCH BiK IDruFICAun",
      "1AMOUNT OF CHECK,1DASH,1CUSTOMl ACCOUNT NUMBl,1yUBk BACKSLASH"]),
    (0x2460, [
      "0CIRCktDIGIT nE,2TWO,2svE,2FOUR,2FIVE,2SIX,2SEVr,2Ef,2NgE,1NUMBl Tr,2EkVr,2TWELVE",
      "2sIRTEr,2FOURTEr,2FIFTEr,2SIXTEr,2SEVrTEr,2EfEr,2NgETEr,2TWrTY,0PersESIZEtDIGIT nE,2TWO",
      "2svE,2FOUR,2FIVE,2SIX,2SEVr,2Ef,2NgE,1NUMBl Tr,2EkVr,2TWELVE,2sIRTEr,2FOURTEr,2FIFTEr",
      "2SIXTEr,2SEVrTEr,2EfEr,2NgETEr,2TWrTY,0DIGIT nE FULLoTOP,1TWO FULLoTOP,1svE FULLoTOP",
      "1FOUR FULLoTOP,1FIVE FULLoTOP,1SIX FULLoTOP,1SEVr FULLoTOP,1Ef FULLoTOP,1NgE FULLoTOP",
      "0NUMBl Tr FULLoTOP,1EkVr FULLoTOP,1TWELVE FULLoTOP,1sIRTEr FULLoTOP,1FOURTEr FULLoTOP",
      "1FIFTEr FULLoTOP,1SIXTEr FULLoTOP,1SEVrTEr FULLoTOP,1EfEr FULLoTOP,1NgETEr FULLoTOP",
      "1TWrTY FULLoTOP,0PersESIZEtLATg jaA,4B,4C,4D,4E,4F,4G,4H,4I,4J,4K,4L,4M,4N,4O,4P,4Q,4R",
      "4S,4T,4U,4V,4W,4X,4Y,4Z,0CIRCktLATg dA,4B,4C,4D,4E,4F,4G,4H,4I,4J,4K,4L,4M,4N,4O,4P,4Q",
      "4R,4S,4T,4U,4V,4W,4X,4Y,4Z,2jaA,4B,4C,4D,4E,4F,4G,4H,4I,4J,4K,4L,4M,4N,4O,4P,4Q,4R,4S,4T",
      "4U,4V,4W,4X,4Y,4Z,1DIGIT ZlO,0NEGAuVE CIRCktNUMBl EkVr,3TWELVE,3sIRTEr,3FOURTEr,3FIFTEr",
      "3SIXTEr,3SEVrTEr,3EfEr,3NgETEr,3TWrTY,0yUBk CIRCktDIGIT nE,3TWO,3svE,3FOUR,3FIVE,3SIX",
      "3SEVr,3Ef,3NgE,2NUMBl Tr,0NEGAuVE CIRCktDIGIT ZlO,0BOX DRAWgGS Lf HORIZnTc",
      "2HEAVY HORIZnTc,2Lf VluCc,2HEAVY VluCc,2Lf TRIPk DASH HORIZnTc",
      "2HEAVY TRIPk DASH HORIZnTc,2Lf TRIPk DASH VluCc,2HEAVY TRIPk DASH VluCc",
      "2Lf QUADRUPk DASH HORIZnTc,2HEAVY QUADRUPk DASH HORIZnTc,2Lf QUADRUPk DASH VluCc",
      "2HEAVY QUADRUPk DASH VluCc,2Lf yWN itRf,2yWN Lf itRf HEAVY,3HEAVY itRf Lf",
      "2HEAVY yWN itRf,2Lf yWN itkFT,2yWN Lf itkFT HEAVY,3HEAVY itkFT Lf,2HEAVY yWN itkFT",
      "2Lf UP itRf,2UP Lf itRf HEAVY,3HEAVY itRf Lf,2HEAVY UP itRf,2Lf UP itkFT",
      "2UP Lf itkFT HEAVY,3HEAVY itkFT Lf,2HEAVY UP itkFT,2Lf VluCc itRf,2VluCc Lf itRf HEAVY",
      "2UP HEAVY itRf yWN Lf,2yWN HEAVY itRf UP Lf,2VluCc HEAVY itRf Lf,2yWN Lf itRf UP HEAVY",
      "2UP Lf itRf yWN HEAVY,2HEAVY VluCc itRf,2Lf VluCc itkFT,2VluCc Lf itkFT HEAVY",
      "2UP HEAVY itkFT yWN Lf,2yWN HEAVY itkFT UP Lf,2VluCc HEAVY itkFT Lf",
      "2yWN Lf itkFT UP HEAVY,2UP Lf itkFT yWN HEAVY,2HEAVY VluCc itkFT,2Lf yWN itHORIZnTc",
      "2kFT HEAVY itRf yWN Lf,2Rf HEAVY itkFT yWN Lf,2yWN Lf itHORIZnTc HEAVY",
      "3HEAVY itHORIZnTc Lf,2Rf Lf itkFT yWN HEAVY,2kFT Lf itRf yWN HEAVY,2HEAVY yWN itHORIZnTc",
      "2Lf UP itHORIZnTc,2kFT HEAVY itRf UP Lf,2Rf HEAVY itkFT UP Lf,2UP Lf itHORIZnTc HEAVY",
      "3HEAVY itHORIZnTc Lf,2Rf Lf itkFT UP HEAVY,2kFT Lf itRf UP HEAVY,2HEAVY UP itHORIZnTc",
      "2Lf VluCc itHORIZnTc,2kFT HEAVY itRf VluCc Lf,2Rf HEAVY itkFT VluCc Lf",
      "2VluCc Lf itHORIZnTc HEAVY,2UP HEAVY ityWN HORIZnTc Lf,2yWN HEAVY itUP HORIZnTc Lf",
      "2VluCc HEAVY itHORIZnTc Lf,2kFT UP HEAVY itRf yWN Lf,2Rf UP HEAVY itkFT yWN Lf",
      "2kFT yWN HEAVY itRf UP Lf,2Rf yWN HEAVY itkFT UP Lf,2yWN Lf itUP HORIZnTc HEAVY",
      "2UP Lf ityWN HORIZnTc HEAVY,2Rf Lf itkFT VluCc HEAVY,2kFT Lf itRf VluCc HEAVY",
      "2HEAVY VluCc itHORIZnTc,2Lf yUBk DASH HORIZnTc,2HEAVY yUBk DASH HORIZnTc",
      "2Lf yUBk DASH VluCc,2HEAVY yUBk DASH VluCc,2yUBk HORIZnTc,3VluCc,2yWNogGk itRf yUBk",
      "3yUBk itRfogGk,2yUBk yWN itRf,2yWNogGk itkFT yUBk,3yUBk itkFTogGk,2yUBk yWN itkFT",
      "2UPogGk itRf yUBk,3yUBk itRfogGk,2yUBk UP itRf,2UPogGk itkFT yUBk,3yUBk itkFTogGk",
      "2yUBk UP itkFT,2VluCcogGk itRf yUBk,3yUBk itRfogGk,2yUBk VluCc itRf",
      "2VluCcogGk itkFT yUBk,3yUBk itkFTogGk,2yUBk VluCc itkFT,2yWNogGk itHORIZnTc yUBk",
      "3yUBk itHORIZnTcogGk,2yUBk yWN itHORIZnTc,2UPogGk itHORIZnTc yUBk,3yUBk itHORIZnTcogGk",
      "2yUBk UP itHORIZnTc,2VluCcogGk itHORIZnTc yUBk,3yUBk itHORIZnTcogGk",
      "2yUBk VluCc itHORIZnTc,2Lf eC yWN itRf,6kFT,4UP itkFT,6Rf,3DIAGnc UPPl Rf TO LOWl kFT",
      "5kFT TO LOWl Rf,4CROSS,3kFT,3UP,3Rf,3yWN,2HEAVY kFT,3UP,3Rf,3yWN,2Lf kFT itHEAVY Rf",
      "3UP itHEAVY yWN,2HEAVY kFT itLf Rf,3UP itLf yWN,0UPPl HcF BLOCK,0LOWl nE EfH BLOCK",
      "2QUeTl BLOCK,1svE EfHS BLOCK,1HcF BLOCK,1FIVE EfHS BLOCK,1svE QUeTlS BLOCK",
      "1SEVr EfHS BLOCK,0FULL BLOCK,0kFToEVr EfHS BLOCK,1svE QUeTlS BLOCK,1FIVE EfHS BLOCK",
      "1HcF BLOCK,1svE EfHS BLOCK,1nE QUeTl BLOCK,2EfH BLOCK,0Rf HcF BLOCK,0LfozDE,0MEDIUMozDE",
      "0DeKozDE,0UPPl nE EfH BLOCK,0Rf nE EfH BLOCK,0QUADRiT LOWl kFT,2Rf,1UPPl kFT",
      "3itLOWl kFT itLOWl Rf,5Rf,4UPPl Rf itLOWl kFT,8Rf,2Rf,3itLOWl kFT,6itLOWl Rf,0BLACKoQUeE",
      "0WHITEoQUeE,2WIs ROUNDEtCORNlS,2CnTAggG BLACK joQUeE,0SQUeEbHORIZnTc FILL,2VluCc FILL",
      "2ORsOGnc CROSSzTCH FILL,2UPPl kFT TO LOWl Rf FILL,3Rf TO LOWl kFT FILL",
      "2DIAGnc CROSSzTCH FILL,0BLACK joQUeE,0WHITE joQUeE,0BLACK vCTiGk,0WHITE vCTiGk",
      "0BLACK VluCc vCTiGk,0WHITE VluCc vCTiGk,0BLACK PeckLOGRAM,0WHITE PeckLOGRAM",
      "0BLACK UP-POgTgG TRIiGk,0WHITE UP-POgTgG TRIiGk,0BLACK UP-POgTgG j TRIiGk",
      "0WHITE UP-POgTgG j TRIiGk,0BLACK Rf-POgTgG TRIiGk,0WHITE Rf-POgTgG TRIiGk",
      "0BLACK Rf-POgTgG j TRIiGk,0WHITE Rf-POgTgG j TRIiGk,0BLACK Rf-POgTgG POgTl",
      "0WHITE Rf-POgTgG POgTl,0BLACK yWN-POgTgG TRIiGk,0WHITE yWN-POgTgG TRIiGk",
      "0BLACK yWN-POgTgG j TRIiGk,0WHITE yWN-POgTgG j TRIiGk,0BLACK kFT-POgTgG TRIiGk",
      "0WHITE kFT-POgTgG TRIiGk,0BLACK kFT-POgTgG j TRIiGk,0WHITE kFT-POgTgG j TRIiGk",
      "0BLACK kFT-POgTgG POgTl,0WHITE kFT-POgTgG POgTl,0BLACK DIAMnD,0WHITE DIAMnD",
      "2CnTAggG BLACK j DIAMnD,0FISHEYE,0LOZrGE,0WHITE CIRCk,0yTTEtCIRCk,0CIRCkbVluCc FILL",
      "0BULLSEYE,0BLACK CIRCk,0CIRCkbkFT HcF BLACK,2Rf HcF BLACK,2LOWl HcF BLACK",
      "2UPPl HcF BLACK,3Rf QUADRiT BLACK,2cL BUT UPPl kFT QUADRiT BLACK,0kFT HcF BLACK CIRCk",
      "0Rf HcF BLACK CIRCk,0gVlSE BULkT,1WHITE CIRCk,0UPPl HcF gVlSE WHITE CIRCk",
      "0LOWl HcF gVlSE WHITE CIRCk,0UPPl kFT QUADRiT CIRCULe eC,1Rf QUADRiT CIRCULe eC",
      "0LOWl Rf QUADRiT CIRCULe eC,1kFT QUADRiT CIRCULe eC,0UPPl HcF CIRCk,0LOWl HcF CIRCk",
      "0BLACK LOWl Rf TRIiGk,2kFT TRIiGk,1UPPl kFT TRIiGk,2Rf TRIiGk,0WHITE BULkT",
      "0SQUeEbkFT HcF BLACK,2Rf HcF BLACK,2UPPl kFT DIAGnc HcF BLACK,2LOWl Rf DIAGnc HcF BLACK",
      "0WHITEoQUeEbVluCc BISECTgG LgE,1UP-POgTgG TRIiGkbyT,0UP-POgTgG TRIiGkbkFT HcF BLACK",
      "3Rf HcF BLACK,0LeGE CIRCk,0WHITEoQUeEbUPPl kFT QUADRiT,3LOWl kFT QUADRiT,4Rf QUADRiT",
      "3UPPl Rf QUADRiT,1CIRCkbUPPl kFT QUADRiT,3LOWl kFT QUADRiT,4Rf QUADRiT,3UPPl Rf QUADRiT",
      "0UPPl kFT TRIiGk,1Rf TRIiGk,0LOWl kFT TRIiGk,0WHITE MEDIUMoQUeE,0BLACK MEDIUMoQUeE",
      "0WHITE MEDIUM joQUeE,0BLACK MEDIUM joQUeE,0LOWl Rf TRIiGk,0BLACKoUNbRAYS,0CLOUD,0UMBvLLA",
      "0SNOWMi,0COMET,0BLACKoTe,0WHITEoTe,0LfNgG,0sUNDlSTORM,0SUN,0ASCrDgG NODE,0DESCrDgG NODE",
      "0CnJUNCun,0OPPOSIun,0BLACK TEkPHnE,0WHITE TEkPHnE,0BcLOT BOX,2WIs CHECK,3X,0Scuv",
      "0UMBvLLAbRAg DROPS,0HOT BEVlAGE,0WHITEoHOGI PIECE,0BLACKoHOGI PIECE,0SzMROCK",
      "0vVlSEtROTATEtFLORc HEeT BULkT,0BLACK kFT POgTgG gDEX,1Rf POgTgG gDEX",
      "0WHITE kFT POgTgG gDEX,1UP POgTgG gDEX,1Rf POgTgG gDEX,1yWN POgTgG gDEX",
      "0SKULL itCROSSBnES,0CAUunw,0RADIOACuVEw,0BIOzZeDw,0CADUCEUS,0iKH,0ORsOyX CROSS,0CHI RHO",
      "0CROSS OF LORRAgE,2JlUScEM,0STe itCvSCrT,0FeSIoYMBOL,0ADIozKu,0zMMl iDoICKk,0PEACEoYMBOL",
      "0Yg YiG,0TRIGRAM FOR HEAVr,2LAKE,2FIv,2sUNDl,2WgD,2WATl,2MOUNTAg,2Ees,0WHEEL OF DHeMA",
      "0WHITE FROWNgG FACE,1SMILgG FACE,0BLACKoMILgG FACE,0WHITEoUNbRAYS,0FIRST QUeTl MOn",
      "0LAST QUeTl MOn,0MlCURY,0FEMcEw,0Ees,0McEw,0JUPITl,0SATURN,0URiUS,0NEPTUNE,0PLUTO,0eIES",
      "0TAURUS,0GEMgI,0CiCl,0kO,0VIRGO,0LIBRA,0SCORPIUS,0SAGITTeIUS,0CAPRICORN,0AQUeIUS,0PISCES",
      "0WHITE CHESS KgG,2QUEr,2ROOK,2BISHOP,2KNf,2PAWN,0BLACK CHESS KgG,2QUEr,2ROOK,2BISHOP",
      "2KNf,2PAWN,1SPADEoUIT,0WHITE HEeToUIT,1DIAMnDoUIT,0BLACK CLUBoUIT,0WHITEoPADEoUIT",
      "0BLACK HEeToUIT,1DIAMnDoUIT,0WHITE CLUBoUIT,0HOToPRgGS,0QUeTl NOTE,0EfH NOTE",
      "0BEAMEtEfH NOTES,1SIXTErs NOTES,0MUSIC FLATw,1NATURcw,1SHePw,0WESToYRIAC CROSS",
      "0EASToYRIAC CROSS,0UNIVlSc vCYCLgGoYMBOL,0vCYCLgGoYMBOL FOR TYPE-1 PLASuCS",
      "3TYPE-2 PLASuCS,3TYPE-3 PLASuCS,3TYPE-4 PLASuCS,3TYPE-5 PLASuCS,3TYPE-6 PLASuCS",
      "3TYPE-7 PLASuCS,3GrlIC MATlIcS,0BLACK UNIVlSc vCYCLgGoYMBOL,0vCYCktPAPloYMBOL",
      "0PeucLY-vCYCktPAPloYMBOL,0PlMirT PAPlw,0WHEELCzIRoYMBOL,0DIE FACE-1,1FACE-2,1FACE-3",
      "1FACE-4,1FACE-5,1FACE-6,0WHITE CIRCkbyT Rf,3TWO yTS,0BLACK CIRCkbWHITE yT Rf",
      "3TWO WHITE yTS,0MnOGRAM FOR YiG,2Yg,0DIGRAM FOR GvATl YiG,2kSSl Yg,3YiG,2GvATl Yg",
      "0WHITE FLAG,0BLACK FLAG,0zMMl itPICK,0iCHOR,0CROSSEDoWORDS,0STAFF OF AESCULAPIUS,0SCcES",
      "0cEMBIC,0FLOWl,0GEe,0STAFF OF HlMES,0ATOMoYMBOL,0FkUR-DE-LIS,0OUTLgEtWHITEoTe",
      "0svE LgES CnVlGgG Rf,3kFT,0WeNgGw,0HIGH VOLTAGEw,0yUBktFEMcEw,1McEw",
      "0gTlLOCKEtFEMcE itMcEw,0McE itFEMcEw,1WIsoTROKEw,3itMcE itFEMcEw,0VluCc McEbSTROKEw",
      "0HORIZnTc McEbSTROKEw,0MEDIUM WHITE CIRCk,1BLACK CIRCk,1j WHITE CIRCk,0MeRIAGEoYMBOL",
      "0DIVORCEoYMBOL,0UNMeRIEtPeTNlSHIPoYMBOL,0COFFg,0FUNlc URN,0NEUTl,0ClES,0PcLAS,0JUNO",
      "0VESTA,0CHIRn,0BLACK MOn LILIs,0SEXuk,0SEMISEXuk,0QUgCUNX,0SESQUIQUADRATE,0SOCCl BcL",
      "0BASEBcL,0SQUeEtKEY,0WHITE DRAUGHTS Mi,2KgG,0BLACK DRAUGHTS Mi,2KgG,0SNOWMi WIsOUToNOW",
      "0SUN BEHgtCLOUD,0RAg,0BLACKoNOWMi,0sUNDl CLOUtitRAg,0TURNEtWHITEoHOGI PIECE",
      "1BLACKoHOGI PIECE,0WHITE DIAMntgoQUeE,0CROSSgG LiES,0DISABktCe,0OPHIUCHUS,0PICK",
      "0CeoLIDgG,0HELMETbWHITE CROSS,0CIRCktCROSSgG LiES,0CzgS,0NO rTRY",
      "0cTlNATE nE-WAY kFT WAY TRAFFIC,0BLACK TWO-WAY kFT WAY TRAFFIC",
      "0WHITE TWO-WAY kFT WAY TRAFFIC,0BLACK kFT LiE MlGE,0WHITE kFT LiE MlGE,0DRIVEoLOWw",
      "0HEAVY WHITE yWN-POgTgG TRIiGk,0kFT CLOSEtrTRY,0SQUeEDocuv",
      "0FcLgG DIAGnc g WHITE CIRCk g BLACKoQUeE,0BLACK TRUCK,0vSTRICTEtkFT rTRY-1,2rTRY-2",
      "0ASTRnOMICcoYMBOL FOR URiUS,0HEAVY CIRCkbSTROKE itTWO yTSq,0PrTAGRAM",
      "0Rf-HiDEtgTlLACEtPrTAGRAM,0kFT-HiDEtgTlLACEtPrTAGRAM,0gVlTEtPrTAGRAM",
      "0BLACK CROSS noHIELD,0SHgTOoHRgE,0CHURCH,0CASTk,0HISTORICoITE,0GEe WIsOUT HUB,1WIs HiDkS",
      "0MAPoYMBOL FOR LfHOUSE,0MOUNTAg,0UMBvLLA n GROUND,0FOUNTAg,0FLAG g HOk,0FlRY,0SAILBOAT",
      "0SQUeE FOUR CORNlS,0SKIl,0ICEoKATE,0PlSnbBcL,0TrT,0JAPiESE BiKoYMBOL",
      "0HEADSTnE GRAVEYeDoYMBOL,0FUEL PUMP,0CUP n BLACKoQUeE",
      "0WHITE FLAGbHORIZnTc MIDDk BLACKoTRIPE,0BLACKoAFETYoCISSORS,0UPPl BLADEoCISSORS",
      "0BLACKoCISSORS,0LOWl BLADEoCISSORS,0WHITEoCISSORS,1HEAVY CHECK MeK,0TEkPHnE LOCAunw",
      "0TAPE DRIVE,0AIRPLiE,0rVELOPE,0RAISEtFIST,1HiD,0VICTORY HiD,0WRITgG HiD,0LOWl Rf PrCIL",
      "0PrCIL,0UPPl Rf PrCIL,0WHITE NIB,0BLACK NIB,0CHECK MeK,0HEAVY CHECK MeK,0MULuPLICAun X",
      "0HEAVY MULuPLICAun X,0BcLOT X,0HEAVY BcLOT X,0OUTLgEtGvEK CROSS,0HEAVY GvEK CROSS",
      "0OPr CrTv CROSS,0HEAVY OPr CrTv CROSS,0LATg CROSS,0SzyWEtWHITE LATg CROSS",
      "0OUTLgEtLATg CROSS,0McTESE CROSS,0STe OF DAVID,0FOUR TEeDROP-SPOKEtASTlISK",
      "1BcLOn-SPOKEtASTlISK,0HEAVY FOUR BcLOn-SPOKEtASTlISK,0FOUR CLUB-SPOKEtASTlISK",
      "0BLACK FOUR POgTEDoTe,0WHITE FOUR POgTEDoTe,0SPeKkS,0STvSS OUTLgEtWHITEoTe",
      "0CIRCktWHITEoTe,0OPr CrTv BLACKoTe,0BLACK CrTv WHITEoTe,0OUTLgEtBLACKoTe",
      "0HEAVY OUTLgEtBLACKoTe,0PgWHEELoTe,0SzyWEtWHITEoTe,0HEAVY ASTlISK,0OPr CrTv ASTlISK",
      "0EfoPOKEtASTlISK,1POgTEtBLACKoTe,2PgWHEELoTe,0SIX POgTEtBLACKoTe",
      "0Ef POgTEtvCuLgEe BLACKoTe,0HEAVY Ef POgTEtvCuLgEe BLACKoTe,0TWELVE POgTEtBLACKoTe",
      "0SIXTEr POgTEtASTlISK,0TEeDROP-SPOKEtASTlISK,0OPr CrTv TEeDROP-SPOKEtASTlISK",
      "0HEAVY TEeDROP-SPOKEtASTlISK,0SIX PETcktBLACK itWHITE FLOvTTE,0BLACK FLOvTTE",
      "0WHITE FLOvTTE,0Ef PETcktOUTLgEtBLACK FLOvTTE,0CIRCktOPr CrTv Ef POgTEDoTe",
      "0HEAVY TEeDROP-SPOKEtPgWHEEL ASTlISK,0SNOWFLAKE,0Tf TRIFOLIATEoNOWFLAKE",
      "0HEAVY CHEVRnoNOWFLAKE,0SPeKk,0HEAVYoPeKk,0BcLOn-SPOKEtASTlISK",
      "0Ef TEeDROP-SPOKEtPROPELkR ASTlISK,0HEAVY Ef TEeDROP-SPOKEtPROPELkR ASTlISK,0CROSS MeK",
      "0SzyWEtWHITE CIRCk,0NEGAuVEoQUeEtCROSS MeK,0LOWl Rf DROP-SzyWEtWHITEoQUeE",
      "0UPPl Rf DROP-SzyWEtWHITEoQUeE,0LOWl RfozyWEtWHITEoQUeE,0UPPl RfozyWEtWHITEoQUeE",
      "0BLACK QUESun MeK ORNAMrT,0WHITE QUESun MeK ORNAMrT,1EXCLAMAun MeK ORNAMrT",
      "0BLACK DIAMntMgUS WHITE X,0HEAVY EXCLAMAun MeKoYMBOL,0Lf VluCc Be,0MEDIUM VluCc Be",
      "0HEAVY VluCc Be,1SgGk TURNEtCOMMA QUOTAun MeK ORNAMrT,2COMMA QUOTAun MeK ORNAMrT",
      "1yUBk TURNEtCOMMA QUOTAun MeK ORNAMrT,2COMMA QUOTAun MeK ORNAMrT",
      "1LOWogGk COMMA QUOTAun MeK ORNAMrT,2yUBk COMMA QUOTAun MeK ORNAMrT",
      "0CURVEDoTEM PeAGRAPHw ORNAMrT,0HEAVY EXCLAMAun MeK ORNAMrT,1HEeT EXCLAMAun MeK ORNAMrT",
      "1BLACK HEeT,0ROTATEtHEAVY BLACK HEeT BULkT,0FLORc HEeT,0ROTATEtFLORc HEeT BULkT",
      "0MEDIUM kFT PersESIS ORNAMrT,1Rf PersESIS ORNAMrT,1FLATTrEtkFT PersESIS ORNAMrT",
      "2Rf PersESIS ORNAMrT,1kFT-POgTgG iGk BRACKET ORNAMrT,1Rf-POgTgG iGk BRACKET ORNAMrT",
      "0HEAVY kFT-POgTgG iGk QUOTAun MeK ORNAMrT,1Rf-POgTgG iGk QUOTAun MeK ORNAMrT",
      "1kFT-POgTgG iGk BRACKET ORNAMrT,1Rf-POgTgG iGk BRACKET ORNAMrT",
      "0Lf kFT TORTOISEoHELL BRACKET ORNAMrT,1Rf TORTOISEoHELL BRACKET ORNAMrT",
      "0MEDIUM kFT CURLY BRACKET ORNAMrT,1Rf CURLY BRACKET ORNAMrT",
      "0DgGBAT NEGAuVE CIRCktDIGIT nE,4TWO,4svE,4FOUR,4FIVE,4SIX,4SEVr,4Ef,4NgE,3NUMBl Tr",
      "1CIRCkDoiS-SlIF DIGIT nE,4TWO,4svE,4FOUR,4FIVE,4SIX,4SEVr,4Ef,4NgE,3NUMBl Tr",
      "1NEGAuVE CIRCkDoiS-SlIF DIGIT nE,5TWO,5svE,5FOUR,5FIVE,5SIX,5SEVr,5Ef,5NgE,4NUMBl Tr",
      "0HEAVY WIDE-HEADEtRfxm,1PLUSw,1MgUSw,1DIVISInw,1SOUs EASTm,1Rfxm,1NORs EASTm",
      "0DRAFTgG POgT Rfxm,0HEAVY ROUND-uPPEtRfxm,0TRIiGk-HEADEtRfxm,0HEAVY TRIiGk-HEADEtRfxm",
      "0DASHEtTRIiGk-HEADEtRfxm,0HEAVY DASHEtTRIiGk-HEADEtRfxm,0BLACK Rfxm",
      "0svE-tTOP-LfEtRfxmHEAD,1BOTTOM-LfEtRfxmHEAD,0BLACK RfxmHEAD",
      "0HEAVY BLACK CURVEtyWNx itRfxm,3UPx itRfxm,0SQUAT BLACK Rfxm",
      "0HEAVY CnCAVE-POgTEtBLACK Rfxm,0Rf-SzDEtWHITE Rfxm,0kFT-SzDEtWHITE Rfxm",
      "0BACK-uLTEDozyWEtWHITE Rfxm,0FRnT-uLTEDozyWEtWHITE Rfxm,0HEAVY LOWl Rf-SzyWEtWHITE Rfxm",
      "1UPPl Rf-SzyWEtWHITE Rfxm,0NOTCHEtLOWl Rf-SzyWEtWHITE Rfxm,0CURLY LOOP",
      "0NOTCHEtUPPl Rf-SzyWEtWHITE Rfxm,0CIRCktHEAVY WHITE Rfxm,0WHITE-FEAslEtRfxm",
      "0BLACK-FEAslEDoOUs EASTm,1Rfxm,1NORs EASTm,0HEAVY BLACK-FEAslEDoOUs EASTm,2Rfxm",
      "2NORs EASTm,0TEeDROP-BeBEtRfxm,0HEAVY TEeDROP-SHiKEtRfxm,0WEDGE-TAIktRfxm",
      "0HEAVY WEDGE-TAIktRfxm,0OPr-OUTLgEtRfxm,0yUBk CURLY LOOP,0svE DIMrSInc iGk",
      "0WHITE TRIiGk CnTAggG j WHITE TRIiGk,0PlPrDICULe,0OProUBSET,1SUPlSET",
      "0kFTo-SzPEtBAG DELIMITl,0Rfo-SzPEtBAG DELIMITl,0ORbyT gSIDE,0vVlSEoOLIDUS PvCEDgGoUBSET",
      "0SUPlSET PvCEDgGoOLIDUS,0VluCc BebHORIZnTcoTROKE,0MAsEMAuCc RISgG DIAGnc,0LnG DIVISIn",
      "0MAsEMAuCc FcLgG DIAGnc,0SQUeEtLOGICc iD,2OR,0WHITE DIAMnDbCrTvtyT,0iDbyT",
      "0EkMrT OF OPrgG UPx,0LOWl Rf CORNlbyT,0UPPl kFT CORNlbyT,0kFT OUTl JOg,0Rf OUTl JOg",
      "0FULL OUTl JOg,0LeGE UP TACK,1yWN TACK,0kFT itRf yUBk TURNSuk,3TACK,1MULuMAP",
      "0LnG Rf TACK,1kFT TACK,0UP TACKbCIRCkq,0LOZrGE DIVIDEtBY HORIZnTc RUk",
      "0WHITE CnCAVE-SIDEtDIAMnD,3WIs kFTx uCK,4Rfx uCK,1SQUeEbkFTx uCK,3Rfx uCK",
      "0MAsEMAuCc kFT WHITEoQUeE BRACKET,1Rf WHITEoQUeE BRACKET,1kFT iGk BRACKET",
      "1Rf iGk BRACKET,1kFT yUBk iGk BRACKET,1Rf yUBk iGk BRACKET",
      "1kFT WHITE TORTOISEoHELL BRACKET,1Rf WHITE TORTOISEoHELL BRACKET,1kFT FLATTrEtPersESIS",
      "1Rf FLATTrEtPersESIS,0UPx QUADRUPkm,0yWNx QUADRUPkm,0iuCLOCKWISE GAPPEtCIRCkm",
      "0CLOCKWISE GAPPEtCIRCkm,0RfmbCIRCktPLUS,0LnG kFTxm,1Rfxm,1kFT Rfm,1kFTx yUBkm,1Rfx yUBkm",
      "1kFT Rf yUBkm,1kFTxm FROM Be,1Rfxm FROM Be,1kFTx yUBkm FROM Be,1Rfx yUBkm FROM Be",
      "2SQUIGGkm,0BRAILk PATTlN BLiK,2yTS-1,2yTS-2,2yTS-12,2yTS-3,2yTS-13,2yTS-23,2yTS-123",
      "2yTS-4,2yTS-14,2yTS-24,2yTS-124,2yTS-34,2yTS-134,2yTS-234,2yTS-1234,2yTS-5,2yTS-15",
      "2yTS-25,2yTS-125,2yTS-35,2yTS-135,2yTS-235,2yTS-1235,2yTS-45,2yTS-145,2yTS-245,2yTS-1245",
      "2yTS-345,2yTS-1345,2yTS-2345,2yTS-12345,2yTS-6,2yTS-16,2yTS-26,2yTS-126,2yTS-36,2yTS-136",
      "2yTS-236,2yTS-1236,2yTS-46,2yTS-146,2yTS-246,2yTS-1246,2yTS-346,2yTS-1346,2yTS-2346",
      "2yTS-12346,2yTS-56,2yTS-156,2yTS-256,2yTS-1256,2yTS-356,2yTS-1356,2yTS-2356,2yTS-12356",
      "2yTS-456,2yTS-1456,2yTS-2456,2yTS-12456,2yTS-3456,2yTS-13456,2yTS-23456,2yTS-123456",
      "2yTS-7,2yTS-17,2yTS-27,2yTS-127,2yTS-37,2yTS-137,2yTS-237,2yTS-1237,2yTS-47,2yTS-147",
      "2yTS-247,2yTS-1247,2yTS-347,2yTS-1347,2yTS-2347,2yTS-12347,2yTS-57,2yTS-157,2yTS-257",
      "2yTS-1257,2yTS-357,2yTS-1357,2yTS-2357,2yTS-12357,2yTS-457,2yTS-1457,2yTS-2457",
      "2yTS-12457,2yTS-3457,2yTS-13457,2yTS-23457,2yTS-123457,2yTS-67,2yTS-167,2yTS-267",
      "2yTS-1267,2yTS-367,2yTS-1367,2yTS-2367,2yTS-12367,2yTS-467,2yTS-1467,2yTS-2467",
      "2yTS-12467,2yTS-3467,2yTS-13467,2yTS-23467,2yTS-123467,2yTS-567,2yTS-1567,2yTS-2567",
      "2yTS-12567,2yTS-3567,2yTS-13567,2yTS-23567,2yTS-123567,2yTS-4567,2yTS-14567,2yTS-24567",
      "2yTS-124567,2yTS-34567,2yTS-134567,2yTS-234567,2yTS-1234567,2yTS-8,2yTS-18,2yTS-28",
      "2yTS-128,2yTS-38,2yTS-138,2yTS-238,2yTS-1238,2yTS-48,2yTS-148,2yTS-248,2yTS-1248",
      "2yTS-348,2yTS-1348,2yTS-2348,2yTS-12348,2yTS-58,2yTS-158,2yTS-258,2yTS-1258,2yTS-358",
      "2yTS-1358,2yTS-2358,2yTS-12358,2yTS-458,2yTS-1458,2yTS-2458,2yTS-12458,2yTS-3458",
      "2yTS-13458,2yTS-23458,2yTS-123458,2yTS-68,2yTS-168,2yTS-268,2yTS-1268,2yTS-368,2yTS-1368",
      "2yTS-2368,2yTS-12368,2yTS-468,2yTS-1468,2yTS-2468,2yTS-12468,2yTS-3468,2yTS-13468",
      "2yTS-23468,2yTS-123468,2yTS-568,2yTS-1568,2yTS-2568,2yTS-12568,2yTS-3568,2yTS-13568",
      "2yTS-23568,2yTS-123568,2yTS-4568,2yTS-14568,2yTS-24568,2yTS-124568,2yTS-34568",
      "2yTS-134568,2yTS-234568,2yTS-1234568,2yTS-78,2yTS-178,2yTS-278,2yTS-1278,2yTS-378",
      "2yTS-1378,2yTS-2378,2yTS-12378,2yTS-478,2yTS-1478,2yTS-2478,2yTS-12478,2yTS-3478",
      "2yTS-13478,2yTS-23478,2yTS-123478,2yTS-578,2yTS-1578,2yTS-2578,2yTS-12578,2yTS-3578",
      "2yTS-13578,2yTS-23578,2yTS-123578,2yTS-4578,2yTS-14578,2yTS-24578,2yTS-124578,2yTS-34578",
      "2yTS-134578,2yTS-234578,2yTS-1234578,2yTS-678,2yTS-1678,2yTS-2678,2yTS-12678,2yTS-3678",
      "2yTS-13678,2yTS-23678,2yTS-123678,2yTS-4678,2yTS-14678,2yTS-24678,2yTS-124678,2yTS-34678",
      "2yTS-134678,2yTS-234678,2yTS-1234678,2yTS-5678,2yTS-15678,2yTS-25678,2yTS-125678",
      "2yTS-35678,2yTS-135678,2yTS-235678,2yTS-1235678,2yTS-45678,2yTS-145678,2yTS-245678",
      "2yTS-1245678,2yTS-345678,2yTS-1345678,2yTS-2345678,2yTS-12345678",
      "0Rfx TWO-HEADEDmbVluCcoTROKE,4yUBk VluCcoTROKE,0kFTx yUBkmbVluCcoTROKE",
      "0Rfx yUBkmbVluCcoTROKE,0kFT Rf yUBkmbVluCcoTROKE,0Rfx TWO-HEADEDm FROM Be",
      "0kFTx yUBkm FROM Be,0Rfx yUBkm FROM Be,0yWNxmbHORIZnTcoTROKE,0UPxmbHORIZnTcoTROKE",
      "1TRIPkm,0yWNx TRIPkm,0kFTx yUBk DASHm,0Rfx yUBk DASHm,0kFTx TRIPk DASHm,0Rfx TRIPk DASHm",
      "1TWO-HEADEtTRIPk DASHm,1eROWbyTTEDoTEM,0UPxm TO Be,0yWNxm TO Be,0RfxmbTAILbVluCcoTROKE",
      "5yUBk VluCcoTROKE,1TWO-HEADEDmbTAIL,5WIs VluCcoTROKE,6yUBk VluCcoTROKE,0kFTxm-TAIL",
      "0Rfxm-TAIL,0kFTx yUBkm-TAIL,0Rfx yUBkm-TAIL,0kFTxm TO BLACK DIAMnD,0Rfxm TO BLACK DIAMnD",
      "0kFTxm FROM Be TO BLACK DIAMnD,0Rfxm FROM Be TO BLACK DIAMnD,0NORs WEST iDoOUs EASTm",
      "1EAST iDoOUs WESTm,1WESTmbHOOK,1EASTmbHOOK,0SOUs EASTmbHOOK,1WESTmbHOOK",
      "0NORs WESTm itNORs EASTm,1EASTm iDoOUs EASTm,0SOUs EASTm iDoOUs WESTm",
      "1WESTm itNORs WESTm,0RISgG DIAGnc CROSSgG FcLgG DIAGnc",
      "0FcLgG DIAGnc CROSSgG RISgG DIAGnc,0SOUs EASTm CROSSgG NORs EASTm",
      "0NORs EASTm CROSSgGoOUs EASTm,0FcLgG DIAGnc CROSSgG NORs EASTm",
      "0RISgG DIAGnc CROSSgGoOUs EASTm,0NORs EASTm CROSSgG NORs WESTm,1WESTm CROSSgG NORs EASTm",
      "0WAVEm POgTgG DIvCTLY Rf,0eROW POgTgG Rfx sr CURVgG UPx,5yWNx,2yWNx sr CURVgG kFTx,5Rfx",
      "0Rf-SIDE eC CLOCKWISEm,0kFT-SIDE eC iuCLOCKWISEm,0TOP eC iuCLOCKWISEm",
      "0BOTTOM eC iuCLOCKWISEm,0TOP eC CLOCKWISEmbMgUS,2iuCLOCKWISEmbPLUS",
      "0LOWl RfoEMICIRCULe CLOCKWISEm,1kFToEMICIRCULe iuCLOCKWISEm,0iuCLOCKWISE CLOSEtCIRCkm",
      "0CLOCKWISE CLOSEtCIRCkm,0RfxmqoHORT kFTxm,0kFTxmqoHORT Rfxm,0SHORT Rfxmq kFTxm",
      "0RfxmbPLUS BELOW,0kFTxmbPLUS BELOW,0Rfxm sROUGH X,0kFT Rfm sROUGH j CIRCk",
      "0UPx TWO-HEADEDm FROM j CIRCk,0kFT BeB UP Rf BeB yWN HePOn,2yWN Rf BeB UP HePOn",
      "0UP BeB Rf yWN BeB kFT HePOn,2kFT yWN BeB Rf HePOn,0kFT BeB UP Rf BeB UP HePOn",
      "0UP BeB Rf yWN BeB Rf HePOn,0kFT BeB yWN Rf BeB yWN HePOn,0UP BeB kFT yWN BeB kFT HePOn",
      "0kFTx HePOnbBeB UP TO Be,0Rfx HePOnbBeB UP TO Be,0UPx HePOnbBeB Rf TO Be",
      "0yWNx HePOnbBeB Rf TO Be,0kFTx HePOnbBeB yWN TO Be,0Rfx HePOnbBeB yWN TO Be",
      "0UPx HePOnbBeB kFT TO Be,0yWNx HePOnbBeB kFT TO Be,0kFTx HePOnbBeB UP FROM Be",
      "0Rfx HePOnbBeB UP FROM Be,0UPx HePOnbBeB Rf FROM Be,0yWNx HePOnbBeB Rf FROM Be",
      "0kFTx HePOnbBeB yWN FROM Be,0Rfx HePOnbBeB yWN FROM Be,0UPx HePOnbBeB kFT FROM Be",
      "0yWNx HePOnbBeB kFT FROM Be,0kFTx HePOnbBeB UPq kFTx HePOnbBeB yWN",
      "0UPx HePOnbBeB kFT BESIDE UPx HePOnbBeB Rf,0Rfx HePOnbBeB UPq Rfx HePOnbBeB yWN",
      "0yWNx HePOnbBeB kFT BESIDE yWNx HePOnbBeB Rf,0kFTx HePOnbBeB UPq Rfx HePOnbBeB UP",
      "4yWNq Rfx HePOnbBeB yWN,0Rfx HePOnbBeB UPq kFTx HePOnbBeB UP,4yWNq kFTx HePOnbBeB yWN",
      "0kFTx HePOnbBeB UPq LnG DASH,4yWN BELOW LnG DASH,0Rfx HePOnbBeB UPq LnG DASH",
      "4yWN BELOW LnG DASH,0UPx HePOnbBeB kFT BESIDE yWNx HePOnbBeB Rf",
      "0yWNx HePOnbBeB kFT BESIDE UPx HePOnbBeB Rf,0Rf yUBkmbROUNDEtHEAD,0EQUcSwq Rfxm",
      "0uLDE OPlATORq Rfxm,0kFTxmq uLDE OPlATOR,0Rfxmq uLDE OPlATOR,3cMOST EQUc TO",
      "0kSS-siq kFTxm,0kFTxm sROUGH kSS-si,0GvATl-siq Rfxm,0SUBSETq Rfxm,0kFTxm sROUGHoUBSET",
      "0SUPlSETq kFTxm,0kFT FISH TAIL,0Rf FISH TAIL,0UP FISH TAIL,0yWN FISH TAIL",
      "0TRIPk VluCc Be DELIMITl,0Z NOTAunoPOT,2TYPE COLn,0kFT WHITE CURLY BRACKET",
      "0Rf WHITE CURLY BRACKET,0kFT WHITE PersESIS,0Rf WHITE PersESIS",
      "0Z NOTAun kFT IMAGE BRACKET,2Rf IMAGE BRACKET,2kFT BgDgG BRACKET,2Rf BgDgG BRACKET",
      "0kFToQUeE BRACKETbUNDlBe,0RfoQUeE BRACKETbUNDlBe,0kFToQUeE BRACKETbuCK g TOP CORNl",
      "0RfoQUeE BRACKETbuCK g BOTTOM CORNl,0kFToQUeE BRACKETbuCK g BOTTOM CORNl",
      "0RfoQUeE BRACKETbuCK g TOP CORNl,0kFT iGk BRACKETbyT,0Rf iGk BRACKETbyT",
      "0kFT eC kSS-si BRACKET,0Rf eC GvATl-si BRACKET,0yUBk kFT eC GvATl-si BRACKET",
      "1Rf eC kSS-si BRACKET,0kFT BLACK TORTOISEoHELL BRACKET,0Rf BLACK TORTOISEoHELL BRACKET",
      "0yTTEtFrCE,0VluCc ZIGZAG LgE,0MEASUvtiGk OPrgG kFT,0Rf iGk VeIiTbSQUeE,0MEASUvtRf iGkbyT",
      "0iGkbS gSIDE,0ACUTE iGk,0SPHlICc iGk OPrgG kFT,3UP,0TURNEtiGk,0vVlSEtiGk,0iGkbUNDlBe",
      "0vVlSEtiGkbUNDlBe,0OBLIQUE iGk OPrgG UP,3yWN,0MEASUvtiGkbOPr eM rDgG gm POgTgG UP itRf",
      "BkFT,9yWN itRf,BkFT,9Rf itUP,9kFT itUP,9Rf ityWN,9kFT ityWN,0vVlSEtEMPTYoET",
      "0EMPTYoETbOVlBe,3j CIRCkq,3Rfmq,3kFTmq,0CIRCkbHORIZnTc Be,0CIRCktVluCc Be,1PeckL",
      "1vVlSEoOLIDUS,1PlPrDICULe,0CIRCk DIVIDEtBY HORIZnTc Be itTOP HcF DIVIDEtBY VluCc Be",
      "1WIsoUPlIMPOSEtX,0CIRCktiuCLOCKWISE-ROTATEtDIVISInw,0UPm sROUGH CIRCk,0CIRCktWHITE BULkT",
      "1BULkT,1kSS-si,1GvATl-si,0CIRCkbj CIRCk TO sE Rf,2TWO HORIZnTcoTROKES TO sE Rf",
      "0SQUeEtRISgG DIAGncoLASH,1FcLgG DIAGncoLASH,1ASTlISK,1j CIRCk,1SQUeE,0TWO JOgEDoQUeES",
      "0TRIiGkbyTq,2UNDlBe,0S g TRIiGk,0TRIiGkbSlIFS AT BOTTOM,0Rf TRIiGkq kFT TRIiGk",
      "0kFT TRIiGk BESIDE VluCc Be,0VluCc Be BESIDE Rf TRIiGk,0BOWuEbkFT HcF BLACK",
      "2Rf HcF BLACK,0BLACK BOWuE,0uMESbkFT HcF BLACK,2Rf HcF BLACK,0WHITE HOURGLASS",
      "0BLACK HOURGLASS,0kFT WIGGLY FrCE,0Rf WIGGLY FrCE,0kFT yUBk WIGGLY FrCE",
      "0Rf yUBk WIGGLY FrCE,0gCOMPkTE gFgITY,0uE OVl gFgITY,0gFgITY NEGATEDbVluCc Be",
      "0yUBk-rDEtMULuMAP,0SQUeEbCnTOUvtOUTLgE,0gCvASES AS,0SHUFFk PRODUCT,0EQUcSw iDoLiTEtPeckL",
      "5WIs uLDEq,0IDruCc TO iDoLiTEtPeckL,0GkICHoTeK,0slMODYNAMIC",
      "0yWN-POgTgG TRIiGkbkFT HcF BLACK,3Rf HcF BLACK,0BLACK DIAMnDbyWNm,1LOZrGE",
      "0WHITE CIRCkbyWNm,0BLACK CIRCkbyWNm,0lROR-BevtWHITEoQUeE,1BLACKoQUeE,1WHITE DIAMnD",
      "1BLACK DIAMnD,1WHITE CIRCk,1BLACK CIRCk,0RUk-DELAYED,0vVlSEoOLIDUS OPlATOR",
      "0SOLIDUSbOVlBe,0vVlSEoOLIDUSbHORIZnTcoTROKE,0BIGoOLIDUS,1vVlSEoOLIDUS,0yUBk PLUS",
      "0TRIPk PLUS,0kFT-POgTgG CURVEtiGk BRACKET,0Rf-POgTgG CURVEtiGk BRACKET,0TgY,0MgY",
      "0N-eY CIRCktyT OPlATOR,2PLUS OPlATOR,2uMES OPlATOR,1UNIn OPlATORbyT,4PLUS",
      "1SQUeE gTlSECun OPlATOR,2UNIn OPlATOR,0TWO LOGICc itOPlATOR,2OR OPlATOR",
      "0N-eY uMES OPlATOR,0MODULO TWOoUM,0SUMMAunbgTEGRc,0QUADRUPk gTEGRc OPlATOR",
      "0FgITE PeT gTEGRc,0gTEGRcbyUBkoTROKE,1AVlAGEbSLASH,0CIRCULAun FUNCun",
      "0iuCLOCKWISE gTEGRAun,0LgE gTEGRAunbvCTiGULe PAs eOUNtPOk,3SEMICIRCULe PAs eOUNtPOk",
      "2NOT gCLUDgG sE POk,0gTEGRc eOUNtA POgT OPlATOR,0QUATlNIn gTEGRc OPlATOR",
      "0gTEGRcbkFTxmbHOOK,2uMESw,2gTlSECun,2UNIn,2OVlBe,2UNDlBe,0JOg,0LeGE kFT TRIiGk OPlATOR",
      "0Z NOTAunoCHEMA COMPOSIun,3PIPgG,3PROJECun,0PLUSwbj CIRCkq,3CIRCUMFkX ACCrTq,3uLDEq",
      "3yT BELOW,3uLDE BELOW,3SUBSCRIPT TWO,3BLACK TRIiGk,0MgUSwbCOMMAq,3yT BELOW,3FcLgG yTS",
      "3RISgG yTS,0PLUSw g kFT HcF CIRCk,3Rf HcF CIRCk,0VECTOR OR CROSS PRODUCT",
      "0MULuPLICAunwbyTq,3UNDlBe,0SEMIDIvCT PRODUCTbBOTTOM CLOSED,0SMASH PRODUCT",
      "0MULuPLICAunw g kFT HcF CIRCk,3Rf HcF CIRCk,0CIRCktMULuPLICAunwbCIRCUMFkX ACCrT",
      "0MULuPLICAunw g yUBk CIRCk,0CIRCktDIVISInw,0PLUSw g TRIiGk,0MgUSw g TRIiGk",
      "0MULuPLICAunw g TRIiGk,0gTlIOR PRODUCT,0RfHitgTlIOR PRODUCT,0Z NOTAun vLAunc COMPOSIun",
      "0AMcGAMAun OR COPRODUCT,0gTlSECunbyT,0UNInbMgUSw,2OVlBe,0gTlSECunbOVlBe,2LOGICc iD",
      "0UNInbLOGICc OR,1ABOVE gTlSECun,0gTlSECunq UNIn,0UNInq Beq gTlSECun,0gTlSECunq Beq UNIn",
      "0UNIn BESIDE itJOgEDbUNIn,0gTlSECun BESIDE itJOgEDbgTlSECun,0CLOSEtUNInbSlIFS",
      "1gTlSECunbSlIFS,0yUBkoQUeE gTlSECun,2UNIn,0CLOSEtUNInbSlIFS iDoMASH PRODUCT",
      "0LOGICc iDbyTq,1ORbyTq,0yUBk LOGICc iD,2OR,0TWO gTlSECTgG LOGICc iD,3OR,0SLOPgG LeGE OR",
      "2iD,0LOGICc OR OVlLAPPgG LOGICc iD,1iDbMIDDkoTEM,1ORbMIDDkoTEM,1iDbHORIZnTc DASH",
      "1ORbHORIZnTc DASH,1iDbyUBk OVlBe,3UNDlBe,3yUBk UNDlBe,0j VEEbUNDlBe",
      "0LOGICc ORbyUBk OVlBe,4UNDlBe,0Z NOTAun yMAg iuvSTRICun,2RiGE iuvSTRICun",
      "0EQUcSwbyT BELOW,0IDruCcbyTq,0TRIPk HORIZnTc BebyUBk VluCcoTROKE,4TRIPk VluCcoTROKE",
      "0uLDE OPlATORbyTq,3RISgG yTS,0SIMILe MgUSoIMILe,0CnGRUrTbyTq,0EQUcSbASTlISK",
      "0cMOST EQUc TObCIRCUMFkX ACCrT,0APPROXIMATELY EQUc OR EQUc TO,0EQUcSwq PLUSw",
      "0PLUSwq EQUcSw,0EQUcSwq uLDE OPlATOR,0yUBk COLn EQUc,0TWO CnSECUuVE EQUcSwS",
      "0svE CnSECUuVE EQUcSwS,0EQUcSwbTWO yTSq itTWO yTS BELOW,0EQUIVcrTbFOUR yTSq",
      "0kSS-sibCIRCk gSIDE,0GvATl-sibCIRCk gSIDE,0kSS-sibQUESun MeKq,0GvATl-sibQUESun MeKq",
      "0kSS-si ORoLiTEtEQUc TO,0GvATl-si ORoLiTEtEQUc TO,0kSS-si ORoLiTEtEQUc TObyT gSIDE",
      "0GvATl-si ORoLiTEtEQUc TObyT gSIDE,0kSS-si ORoLiTEtEQUc TObyTq",
      "0GvATl-si ORoLiTEtEQUc TObyTq,0kSS-si ORoLiTEtEQUc TObyTq Rf",
      "0GvATl-si ORoLiTEtEQUc TObyTq kFT,0kSS-si OR APPROXIMATE,0GvATl-si OR APPROXIMATE",
      "0kSS-si iDogGk-LgE NOT EQUc TO,0GvATl-si iDogGk-LgE NOT EQUc TO",
      "0kSS-si itNOT APPROXIMATE,0GvATl-si itNOT APPROXIMATE,0kSS-siq yUBk-LgE EQUcq GvATl-si",
      "0GvATl-siq yUBk-LgE EQUcq kSS-si,0kSS-siqoIMILe OR EQUc,0GvATl-siqoIMILe OR EQUc",
      "0kSS-siqoIMILeq GvATl-si,0GvATl-siqoIMILeq kSS-si,0kSS-siq GvATl-siq yUBk-LgE EQUc",
      "0GvATl-siq kSS-siq yUBk-LgE EQUc,0kSS-siqoLiTEtEQUcq GvATl-siqoLiTEtEQUc",
      "0GvATl-siqoLiTEtEQUcq kSS-siqoLiTEtEQUc,0SLiTEtEQUc TO OR kSS-si,4GvATl-si",
      "4kSS-sibyT gSIDE,4GvATl-sibyT gSIDE,0yUBk-LgE EQUc TO OR kSS-si,4GvATl-si",
      "1SLiTEtEQUc TO OR kSS-si,5GvATl-si,0SIMILe OR kSS-si,2GvATl-si,1ABOVE kSS-siq EQUcSw",
      "2GvATl-siq EQUcSw,0yUBk NESTEtkSS-si,2GvATl-si,2kSS-sibUNDlBe,0GvATl-si OVlLAPPgG kSS-si",
      "1BESIDE kSS-si,0kSS-si CLOSEtBY CURVE,0GvATl-si CLOSEtBY CURVE",
      "0kSS-si CLOSEtBY CURVEqoLiTEtEQUc,0GvATl-si CLOSEtBY CURVEqoLiTEtEQUc,0jl si,0LeGl si",
      "0jl si OR EQUc TO,0LeGl si OR EQUc TO,0EQUcSwbBUMPYq,0PvCEDESqogGk-LgE EQUcSw",
      "0SUCCEEDSqogGk-LgE EQUcSw,0PvCEDESqogGk-LgE NOT EQUc TO,0SUCCEEDSqogGk-LgE NOT EQUc TO",
      "0PvCEDESq EQUcSw,0SUCCEEDSq EQUcSw,0PvCEDESq NOT EQUc TO,0SUCCEEDSq NOT EQUc TO",
      "0PvCEDESq cMOST EQUc TO,0SUCCEEDSq cMOST EQUc TO,0PvCEDESq NOT cMOST EQUc TO",
      "0SUCCEEDSq NOT cMOST EQUc TO,0yUBk PvCEDES,1SUCCEEDS,0SUBSETbyT,0SUPlSETbyT",
      "0SUBSETbPLUSw BELOW,0SUPlSETbPLUSw BELOW,0SUBSETbMULuPLICAunw BELOW",
      "0SUPlSETbMULuPLICAunw BELOW,0SUBSET OF OR EQUc TObyTq,0SUPlSET OF OR EQUc TObyTq",
      "0SUBSET OFq EQUcSw,0SUPlSET OFq EQUcSw,0SUBSET OFq uLDE OPlATOR",
      "0SUPlSET OFq uLDE OPlATOR,0SUBSET OFq cMOST EQUc TO,0SUPlSET OFq cMOST EQUc TO",
      "0SUBSET OFq NOT EQUc TO,0SUPlSET OFq NOT EQUc TO,0SQUeE kFT OPr BOX OPlATOR",
      "1Rf OPr BOX OPlATOR,0CLOSEDoUBSET,1SUPlSET,1SUBSET OR EQUc TO,1SUPlSET OR EQUc TO",
      "0SUBSETqoUPlSET,0SUPlSETqoUBSET,0SUBSETqoUBSET,0SUPlSETqoUPlSET,1BESIDEoUBSET",
      "2itJOgEtBY DASHbSUBSET,0EkMrT OF OPrgG yWNx,0PITCHFORKbTEE TOP,0TRiSVlSc gTlSECun",
      "0FORKgG,0NnFORKgG,0SHORT kFT TACK,1yWN TACK,1UP TACK,0PlPrDICULebS",
      "0VluCc Be TRIPk Rf TURNSuk,0yUBk VluCc Be kFT TURNSuk,0VluCc Be yUBk kFT TURNSuk",
      "0yUBk VluCc Be yUBk kFT TURNSuk,0LnG DASH FROM kFT MEMBl OF yUBk VluCc",
      "0SHORT yWN TACKbOVlBe,1UP TACKbUNDlBe,3ABOVEoHORT yWN TACK,0yUBk yWN TACK,1UP TACK",
      "1STROKE NOTw,0vVlSEtyUBkoTROKE NOTw,0yES NOT DIVIDEbvVlSEtNEGAunoLASH,0VluCc LgEbCIRCkq",
      "4BELOW,0yWN TACKbCIRCk BELOW,0PeckLbHORIZnTcoTROKE,2uLDE OPlATOR",
      "0TRIPk VluCc Be BgeY vLAun,3WIs HORIZnTcoTROKE,1COLn OPlATOR,1NESTEtkSS-si,2GvATl-si",
      "0yUBk-LgEoLiTEtkSS-si OR EQUc TO,2GvATl-si OR EQUc TO,0TRIPkoOLIDUS BgeY vLAun",
      "0LeGE TRIPk VluCc Be OPlATOR,0yUBkoOLIDUS OPlATOR,0WHITE VluCc Be,0N-eY WHITE VluCc Be",
      "0NORs EAST WHITEm,1WEST WHITEm,0SOUs EAST WHITEm,1WEST WHITEm,0kFT Rf WHITEm",
      "0kFTx BLACKm,0UPx BLACKm,0yWNx BLACKm,0NORs EAST BLACKm,1WEST BLACKm,0SOUs EAST BLACKm",
      "1WEST BLACKm,0kFT Rf BLACKm,0UP yWN BLACKm,0RfxmbuP yWNx,4UPx,0kFTxmbuP yWNx,4UPx",
      "0SQUeEbTOP HcF BLACK,2BOTTOM HcF BLACK,2UPPl Rf DIAGnc HcF BLACK",
      "2LOWl kFT DIAGnc HcF BLACK,0DIAMnDbkFT HcF BLACK,2Rf HcF BLACK,2TOP HcF BLACK",
      "2BOTTOM HcF BLACK,0yTTEDoQUeE,0BLACK LeGEoQUeE,0WHITE LeGEoQUeE,0BLACK VlY joQUeE",
      "0WHITE VlY joQUeE,0BLACK PrTAGn,0WHITE PrTAGn,1HEXAGn,0BLACK HEXAGn",
      "0HORIZnTc BLACK HEXAGn,0BLACK LeGE CIRCk,1MEDIUM DIAMnD,0WHITE MEDIUM DIAMnD",
      "0BLACK MEDIUM LOZrGE,0WHITE MEDIUM LOZrGE,0BLACK j DIAMnD,2LOZrGE,0WHITE j LOZrGE",
      "0BLACK HORIZnTc ELLIPSE,0WHITE HORIZnTc ELLIPSE,0BLACK VluCc ELLIPSE",
      "0WHITE VluCc ELLIPSE,0kFTmbj CIRCk,0svE kFTxmS,0kFTmbCIRCktPLUS,0LnG kFTxoQUIGGkm",
      "0kFTx TWO-HEADEDmbVluCcoTROKE,4yUBk VluCcoTROKE,3FROM Be,2TRIPk DASHm,1eROWbyTTEDoTEM",
      "3TAILbVluCcoTROKE,5yUBk VluCcoTROKE,1TWO-HEADEDmbTAIL,5WIs VluCcoTROKE,6yUBk VluCcoTROKE",
      "1eROW sROUGH X,0WAVEm POgTgG DIvCTLY kFT,0EQUcSwq kFTxm,0vVlSE uLDE OPlATORq kFTxm",
      "0kFTxmq vVlSE cMOST EQUc TO,0Rfxm sROUGH GvATl-si,3SUPlSET,0kFTx QUADRUPkm",
      "0Rfx QUADRUPkm,0vVlSE uLDE OPlATORq Rfxm,0Rfxmq vVlSE cMOST EQUc TO,0uLDE OPlATORq kFTxm",
      "0kFTxmq cMOST EQUc TO,3vVlSE uLDE OPlATOR,0Rfxmq vVlSE uLDE OPlATOR",
      "0yWNx TRIiGk-HEADEtZIGZAGm,0SHORToLiTEtNORsm,1BACKSLiTEDoOUsm,0WHITE MEDIUMoTe",
      "0BLACK joTe,0WHITE joTe,0BLACK Rf-POgTgG PrTAGn,0WHITE Rf-POgTgG PrTAGn",
      "0HEAVY LeGE CIRCk,1OVcbOVc gSIDE,1CIRCkbCIRCk gSIDE,1CIRCk,1CIRCkDocuv",
      "0SLiTEtNORsmbHOOKEtHEAD,0BACKSLiTEDoOUsmbHOOKEtTAIL,0SLiTEtNORsmbHORIZnTc TAIL",
      "0BACKSLiTEDoOUsmbHORIZnTc TAIL,0BrTm POgTgG yWNx sr NORs EAST",
      "0SHORT BrTm POgTgG yWNx sr NORs EAST,0kFTx TRIiGk-HEADEDm,0UPx TRIiGk-HEADEDm",
      "0Rfx TRIiGk-HEADEDm,0yWNx TRIiGk-HEADEDm,0kFT Rf TRIiGk-HEADEDm,0UP yWN TRIiGk-HEADEDm",
      "0NORs WEST TRIiGk-HEADEDm,1EAST TRIiGk-HEADEDm,0SOUs EAST TRIiGk-HEADEDm",
      "1WEST TRIiGk-HEADEDm,0kFTx TRIiGk-HEADEtDASHEDm,0UPx TRIiGk-HEADEtDASHEDm",
      "0Rfx TRIiGk-HEADEtDASHEDm,0yWNx TRIiGk-HEADEtDASHEDm,0CLOCKWISE TRIiGk-HEADEtOPr CIRCkm",
      "0iuCLOCKWISE TRIiGk-HEADEtOPr CIRCkm,0kFTx TRIiGk-HEADEDm TO Be",
      "0UPx TRIiGk-HEADEDm TO Be,0Rfx TRIiGk-HEADEDm TO Be,0yWNx TRIiGk-HEADEDm TO Be"]),
    (0x2B76, [
      "0NORs WEST TRIiGk-HEADEDm TO Be,1EAST TRIiGk-HEADEDm TO Be",
      "0SOUs EAST TRIiGk-HEADEDm TO Be,1WEST TRIiGk-HEADEDm TO Be",
      "0kFTx TRIiGk-HEADEDmbyUBk HORIZnTcoTROKE,0UPx TRIiGk-HEADEDmbyUBk HORIZnTcoTROKE",
      "0Rfx TRIiGk-HEADEDmbyUBk HORIZnTcoTROKE,0yWNx TRIiGk-HEADEDmbyUBk HORIZnTcoTROKE",
      "0HORIZnTc TAB KEY,0VluCc TAB KEY,0kFTx TRIiGk-HEADEDm OVl Rfx TRIiGk-HEADEDm",
      "0UPx TRIiGk-HEADEDm kFTx OF yWNx TRIiGk-HEADEDm",
      "0Rfx TRIiGk-HEADEDm OVl kFTx TRIiGk-HEADEDm",
      "0yWNx TRIiGk-HEADEDm kFTx OF UPx TRIiGk-HEADEDm,0kFTx TRIiGk-HEADEtPAIvDmS",
      "0UPx TRIiGk-HEADEtPAIvDmS,0Rfx TRIiGk-HEADEtPAIvDmS,0yWNx TRIiGk-HEADEtPAIvDmS",
      "0kFTx BLACK CIRCktWHITEm,0UPx BLACK CIRCktWHITEm,0Rfx BLACK CIRCktWHITEm",
      "0yWNx BLACK CIRCktWHITEm,0iuCLOCKWISE TRIiGk-HEADEtRf U-SzPEDm,2BOTTOM U-SzPEDm",
      "2kFT U-SzPEDm,2TOP U-SzPEDm,0vTURN kFT,1Rf,0NEWLgE kFT,1Rf",
      "0FOUR CORNlmS CIRCLgG iuCLOCKWISE,0Rfx BLACKm"]),
    (0x2B97, [
      "0SYMBOL FOR TYPE A EkCTRnICS,0svE-tTOP-LfEtkFTx EQUILATlcmHEAD",
      "1Rf-LfEtUPx EQUILATlcmHEAD,1TOP-LfEtRfx EQUILATlcmHEAD,1kFT-LfEtyWNx EQUILATlcmHEAD",
      "0BLACK kFTx EQUILATlcmHEAD,1UPx EQUILATlcmHEAD,1Rfx EQUILATlcmHEAD,1yWNx EQUILATlcmHEAD",
      "0yWNx TRIiGk-HEADEDmbLnG uP kFTx,6Rfx,0UPx TRIiGk-HEADEDmbLnG uP kFTx,6Rfx",
      "0kFTx TRIiGk-HEADEDmbLnG uP UPx,0Rfx TRIiGk-HEADEDmbLnG uP UPx",
      "0kFTx TRIiGk-HEADEDmbLnG uP yWNx,0Rfx TRIiGk-HEADEDmbLnG uP yWNx",
      "0BLACK CURVEtyWNx itkFTxm,4Rfxm,2UPx itkFTxm,4Rfxm,2kFTx itUPxm,2Rfx itUPxm",
      "2kFTx ityWNxm,2Rfx ityWNxm,0RIBBnm yWN kFT,3Rf,2UP kFT,3Rf,2kFT UP,2Rf UP,2kFT yWN",
      "2Rf yWN,0UPx WHITEm FROM BebHORIZnTc Be,0UPmHEAtg A vCTiGk BOX,0OVlLAPPgG WHITEoQUeES",
      "2itBLACKoQUeES,1BLACKoQUeES,0BcLOT BOXbLf X,0CIRCktX,1BOLtX,0BLACKoQUeE CrTvD",
      "1DIAMntCrTvD,0TURNEtBLACK PrTAGn,0HORIZnTc BLACK OCTAGn,0BLACK OCTAGn",
      "1MEDIUM UP-POgTgG TRIiGk CrTvD,2yWN-POgTgG TRIiGk CrTvD,2kFT-POgTgG TRIiGk CrTvD",
      "2Rf-POgTgG TRIiGk CrTvD,0NEPTUNEh TWO,0TOP HcF BLACK CIRCk,0BOTTOM HcF BLACK CIRCk",
      "0Lf FOUR POgTEtBLACK CUSP,0ROTATEtLf FOUR POgTEtBLACK CUSP,0WHITE FOUR POgTEtCUSP",
      "0ROTATEtWHITE FOUR POgTEtCUSP,0SQUeE POSIun gDICATOR,0UNClTAgTYw,0GROUP MeK,0PLUTOh TWO",
      "2svE,2FOUR,2FIVE,0TRiSPLUTO,0PROSlPgA,0ASTRAEA,0HYGIEA,0PHOLUS,0NESSUS,0WHITE MOnoEkNA",
      "0BLACK DIAMntn CROSS,0TRUE Lf MOn eTA,0CUPIy,0zDES,0ZEUS,0KRnOS,0APOLLn,0ADMETOS",
      "0VULCiUS,0POSEIDn,0kFT HcF BLACKoTe,0Rf HcF BLACKoTe,0STebkFT HcF BLACK,2Rf HcF BLACK",
      "0kFTx TWO-HEADEDmbTRIiGkmHEADS,0UPx TWO-HEADEDmbTRIiGkmHEADS",
      "0Rfx TWO-HEADEDmbTRIiGkmHEADS,0yWNx TWO-HEADEDmbTRIiGkmHEADS,0lISh nE,2TWO,0SEDNA",
      "0RUSSIi ASTROLOGICcoYMBOL VIGguk,3NOVIk,3QUguk,3BgOVIk,3SrTAGn,3TvDECIk",
      "0EQUcSwbgFgITY BELOW,0UNITEDoYMBOL,0SEPeATEDoYMBOL,0yUBkDoYMBOL,0PASSEDoYMBOL",
      "0vVlSEtRf iGk,0HELLSCHvIBl PAUSEoYMBOL,0GLAGOLIuC dAZU,3BUKY,3VEDE,3GLAGOLI,3yBRO,3YESTU",
      "3ZHIVETE,3DZELO,3ZEMLJA,3IZHE,3gIuc IZHE,3I,3DJlVI,3KAKO,3LJUDIJE,3MYSLITE,3NASHI,3nU",
      "3POKOJI,3RITSI,3SLOVO,3TVRIy,3UKU,3FRITU,3HlU,3OTU,3PE,3SHTA,3TSI,3CHRIVI,3Sz,3YlU,3YlI",
      "3YAu,3SPIDlY z,3YU,3j YUS,5WIs TAIL,3YO,3IOTATEtj YUS,3BIG YUS,3IOTATEtBIG YUS,3FITA",
      "3IZHITSA,3SHTAPIC,3TROKUTASu A,3LATgATE MYSLITE,3CAUDATE CHRIVI,1jaAZU,3BUKY,3VEDE",
      "3GLAGOLI,3yBRO,3YESTU,3ZHIVETE,3DZELO,3ZEMLJA,3IZHE,3gIuc IZHE,3I,3DJlVI,3KAKO,3LJUDIJE",
      "3MYSLITE,3NASHI,3nU,3POKOJI,3RITSI,3SLOVO,3TVRIy,3UKU,3FRITU,3HlU,3OTU,3PE,3SHTA,3TSI",
      "3CHRIVI,3Sz,3YlU,3YlI,3YAu,3SPIDlY z,3YU,3j YUS,5WIs TAIL,3YO,3IOTATEtj YUS,3BIG YUS",
      "3IOTATEtBIG YUS,3FITA,3IZHITSA,3SHTAPIC,3TROKUTASu A,3LATgATE MYSLITE,3CAUDATE CHRIVI",
      "0LATg dLbyUBk Be,1jaLbyUBk Be,1dLbMIDDk uLDE,3PbSTROKE,3RbTAIL,1jaAbSTROKE",
      "3TbDIAGncoTROKE,1dHbDESCrDl,1jaHbDESCrDl,1dKbDESCrDl,1jaKbDESCrDl,1dZbDESCrDl",
      "1jaZbDESCrDl,1dcPz,3MbHOOK,3TURNEtA,4cPz,1jaVbRf HOOK,1dWbHOOK,1jaWbHOOK,3VbCURL,1dHcF H",
      "1jaHcF H,3TAILkSS PHI,3EbNOTCH,3TURNEtRbTAIL,3ObLOW RgG gSIDE,1kTTl j CAPITc TURNEtE",
      "1SUBSCRIPT jaJ,0MODIFIlaCAPITc V,0LATg dSbSWASH TAIL,3ZbSWASH TAIL,0COPuC dcFA,1jacFA",
      "1dVIDA,1jaVIDA,1dGAMMA,1jaGAMMA,1dDcDA,1jaDcDA,1dEIE,1jaEIE,1dSOU,1jaSOU,1dZATA,1jaZATA",
      "1dzTE,1jazTE,1dsEsE,1jasEsE,1dIAUDA,1jaIAUDA,1dKAPA,1jaKAPA,1dLAULA,1jaLAULA,1dMI,1jaMI",
      "1dNI,1jaNI,1dKSI,1jaKSI,1dO,1jaO,1dPI,1jaPI,1dRO,1jaRO,1dSIMA,1jaSIMA,1dTAU,1jaTAU,1dUA",
      "1jaUA,1dFI,1jaFI,1dKHI,1jaKHI,1dPSI,1jaPSI,1dOOU,1jaOOU,1dDIcECT-P cEF,1jaDIcECT-P cEF",
      "1dOLtCOPuC Ag,1jaOLtCOPuC Ag,1dCRYPTOGRAMMIC EIE,1jaCRYPTOGRAMMIC EIE,1dDIcECT-P KAPA",
      "1jaDIcECT-P KAPA,1dDIcECT-P NI,1jaDIcECT-P NI,1dCRYPTOGRAMMIC NI,1jaCRYPTOGRAMMIC NI",
      "1dOLtCOPuC OOU,1jaOLtCOPuC OOU,1dSAMPI,1jaSAMPI,1dCROSSEDoHEI,1jaCROSSEDoHEI",
      "1dOLtCOPuCoHEI,1jaOLtCOPuCoHEI,1dOLtCOPuC ESH,1jaOLtCOPuC ESH,1dAKHMIMIC KHEI",
      "1jaAKHMIMIC KHEI,1dDIcECT-P HORI,1jaDIcECT-P HORI,1dOLtCOPuC HORI,1jaOLtCOPuC HORI",
      "1dOLtCOPuC z,1jaOLtCOPuC z,1dL-SzPEtz,1jaL-SzPEtz,1dOLtCOPuC HEI,1jaOLtCOPuC HEI",
      "1dOLtCOPuC zT,1jaOLtCOPuC zT,1dOLtCOPuC GiGIA,1jaOLtCOPuC GiGIA,1dOLtCOPuC DJA",
      "1jaOLtCOPuC DJA,1dOLtCOPuCoHIMA,1jaOLtCOPuCoHIMA,1dOLtNUBIioHIMA,1jaOLtNUBIioHIMA",
      "1dOLtNUBIi NGI,1jaOLtNUBIi NGI,1dOLtNUBIi NYI,1jaOLtNUBIi NYI,1dOLtNUBIi WAU",
      "1jaOLtNUBIi WAU,1SYMBOL KAI,2MI RO,2PI RO,2STAUROS,2TAU RO,2KHI RO,2SHIMAoIMA",
      "1dCRYPTOGRAMMICoHEI,1jaCRYPTOGRAMMICoHEI,1dCRYPTOGRAMMIC GiGIA,1jaCRYPTOGRAMMIC GiGIA",
      "1COMBggG NIq,2SPIRITUS ASPl,3kNIS,1dBOzIRIC KHEI,1jaBOzIRIC KHEI"])]

/-- Runs from 0x2C00 on: more scripts, radicals, kana, syllables and joined letters. -/
def farRuns : List NameRun :=
  [(0x2CF9, [
      "0COPuC OLtNUBIi FULLoTOP,3DIvCT QUESun MeK,3gDIvCT QUESun MeK,3VlSE DIVIDl",
      "1FRACun nE HcF,1FULLoTOP,1MORPHOLOGICc DIVIDl,0GEORGIi jai,3Bi,3Gi,3Dn,3r,3Vg,3Zr,3Ti,3g",
      "3Ki,3LAS,3Mi,3Ne,3n,3Pe,3ZHe,3RAE,3Si,3Te,3UN,3PHe,3KHe,3GHi,3Qe,3SHg,3CHg,3Ci,3JIL,3CIL",
      "3CHe,3Xi,3JHi,3zE,3HE,3HIE,3WE,3He,3HOE"]),
    (0x2D27, ["0GEORGIi jaYN"]),
    (0x2D2D, ["0GEORGIi jaAr"]),
    (0x2D30, [
      "0uFgAGHaYA,2YAB,2YABH,2YAG,2YAGHH,2BlBl ACADEMY YAJ,2YAJ,2YAD,2YADH,2YADD,2YADDH,2YEY",
      "2YAF,2YAK,2TUeEG YAK,2YAKHH,2YAH,2BlBl ACADEMY YAH,2TUeEG YAH,2YAHH,2YAA,2YAKH",
      "2TUeEG YAKH,2YAQ,2TUeEG YAQ,2YI,2YAZH,2AzGGe YAZH,2TUeEG YAZH,2Yc,2YAM,2Yi,2TUeEG YAGN",
      "3YiG,2YAP,2YU,2Ye,2YeR,2YAGH,2TUeEG YAGH,2AYl YAGH,2YAS,2YASS,2YASH,2YAT,2YAs,2YACH",
      "2YATT,2YAV,2YAW,2YAY,2YAZ,2TAWELkMET YAZ,2YAZZ,2YE,2YO"]),
    (0x2D6F, ["0uFgAGH MODIFIlaLABIcIZAun MeK,1SEPeATOR MeK"]),
    (0x2D7F, [
      "0uFgAGH CnSniT JOgl,0EsIOPICoYLLABk LOA,2MOA,2ROA,2SOA,2SHOA,2BOA,2TOA,2COA,2NOA,2NYOA",
      "2GLOTTc OA,2ZOA,2yA,2DyA,2JOA,2sOA,2CHOA,2PHOA,2POA,2GGWA,2GGWI,2GGWEE,2GGWE"]),
    (0x2DA0, ["0EsIOPICoYLLABkoSA,2SSU,2SSI,2SSAA,2SSEE,2SSE,2SSO"]),
    (0x2DA8, ["0EsIOPICoYLLABk CCA,2CCU,2CCI,2CCAA,2CCEE,2CCE,2CCO"]),
    (0x2DB0, ["0EsIOPICoYLLABk ZZA,2ZZU,2ZZI,2ZZAA,2ZZEE,2ZZE,2ZZO"]),
    (0x2DB8, ["0EsIOPICoYLLABk CCz,2CCHU,2CCHI,2CCzA,2CCHEE,2CCHE,2CCHO"]),
    (0x2DC0, ["0EsIOPICoYLLABk QYA,2QYU,2QYI,2QYAA,2QYEE,2QYE,2QYO"]),
    (0x2DC8, ["0EsIOPICoYLLABk KYA,2KYU,2KYI,2KYAA,2KYEE,2KYE,2KYO"]),
    (0x2DD0, ["0EsIOPICoYLLABk XYA,2XYU,2XYI,2XYAA,2XYEE,2XYE,2XYO"]),
    (0x2DD8, ["0EsIOPICoYLLABk GYA,2GYU,2GYI,2GYAA,2GYEE,2GYE,2GYO"]),
    (0x2DE0, [
      "0COMBggG CYRILLICaBE,3VE,3GHE,3DE,3ZHE,3ZE,3KA,3EL,3EM,3r,3O,3PE,3l,3ES,3TE,3z,3TSE,3CHE",
      "3Sz,3SHCz,3FITA,3ES-TE,3A,3IE,3DJlV,3MnOGRAPH UK,3YAT,3YU,3IOuFIEtA,3LITTk YUS,3BIG YUS",
      "3IOuFIEtBIG YUS,0Rf iGkoUBSuTUun MeKl,2yTTEDoUBSuTUun MeKl,0kFToUBSuTUun BRACKET",
      "0RfoUBSuTUun BRACKET,0kFT yTTEDoUBSuTUun BRACKET,0Rf yTTEDoUBSuTUun BRACKET",
      "0RAISEtgTlPOLAun MeKl,1yTTEtgTlPOLAun MeKl,0yTTEtTRiSPOSIun MeKl,0kFT TRiSPOSIun BRACKET",
      "0Rf TRiSPOSIun BRACKET,0RAISEDoQUeE,0kFT RAISEtOMISSIn BRACKET,0Rf RAISEtOMISSIn BRACKET",
      "0EDITORIc CORnIS,0PeAGRAPHOS,0FORKEtPeAGRAPHOS,0vVlSEtFORKEtPeAGRAPHOS,0HYPODIASTOk",
      "0yTTEtOBELOS,0yWNx iCORA,0UPx iCORA,0yTTEtRf-POgTgG iGk,0yUBk OBLIQUE HYPHr",
      "0gVlTEtgTlROBiG,0PcM BRiCH,0HYPHrbDIAlESIS,0uLDEbRgGq,0kFT LOW PeAPHRASE BRACKET",
      "0Rf LOW PeAPHRASE BRACKET,0uLDEbyTq,3BELOW,0kFT VluCc BebQUILL,0Rf VluCc BebQUILL",
      "0TOP kFT HcF BRACKET,1Rf HcF BRACKET,0BOTTOM kFT HcF BRACKET,1Rf HcF BRACKET",
      "0kFToIDEWAYS U BRACKET,0RfoIDEWAYS U BRACKET,0kFT yUBk PersESIS,0Rf yUBk PersESIS",
      "0TWO yTS OVl nE yT PUNCTUAun,0nE yT OVl TWO yTS PUNCTUAun,0SQUeEtFOUR yT PUNCTUAun",
      "0FIVE yT MeK,0vVlSEtQUESun MeK,0VluCc uLDE,0RgG POgT,0WORDoEPeATOR MIDDk yT,0TURNEtCOMMA",
      "0RAISEtyT,1COMMA,0TURNEDoEMICOLn,0DAGGlbkFT GUeD,2Rf GUeD,0TURNEtDAGGl,0TOP HcFoECunw",
      "0TWO-EM DASH,0svE-EM DASH,0STrOGRAPHIC FULLoTOP,0VluCcoIX yTS,0WIGGLY VluCc LgE",
      "0CAPITULUM,0yUBk HYPHr,0vVlSEtCOMMA,0yUBk LOW-vVlSED-9 QUOTAun MeK,0DASHbkFT UPTURN",
      "0yUBkoUSPrSIn MeK,0gVlTEtLOW KAVYKA,3WIs KAVYKAq,0LOW KAVYKA,2WIs yT,0yUBkoTACKEtCOMMA",
      "0yTTEDoOLIDUS,0TRIPk DAGGl,0MEDIEVc COMMA,0PeAGRAPHUS MeK,0PUNCTUS EkVATUS MeK",
      "0CORNISH VlSE DIVIDl,0CROSS PATTYbRf CROSSBe,3kFT CROSSBe,0uRnIiw CAPITc ET",
      "0MEDIEVc EXCLAMAun MeK,1QUESun MeK,0kFToQUeE BRACKETbSTROKE,0RfoQUeE BRACKETbSTROKE",
      "0kFToQUeE BRACKETbyUBkoTROKE,0RfoQUeE BRACKETbyUBkoTROKE,0TOP HcF kFT PersESIS",
      "2Rf PersESIS,0BOTTOM HcF kFT PersESIS,2Rf PersESIS,0OBLIQUE HYPHr"]),
    (0x2E80, [
      "0CJK RADICc vPEAT,2CLIFF,2SECntnE,3TWO,3svE,2PlSn,2BOX,2TABk,2KNIFE nE,3TWO,2DIVgAun",
      "2SEc,2j nE,3TWO,2LAME nE,3TWO,3svE,3FOUR,2SNAKE,2svAD,2SNOUT nE,3TWO,2HEeT nE,3TWO,2HiD",
      "2RAP"]),
    (0x2E9B, [
      "0CJK RADICc CHOKE,2SUN,2MOn,2DEAs,2MOsl,2CIVILIi,2WATl nE,3TWO,2FIv,2PAW nE,3TWO",
      "2SIMPLIFIEtHcF TvE TRUNK,2COW,2yG,2JADE,2BOLT OF CLOs,2EYE,2SPIRIT nE,3TWO,2BAMBOO,2SILK",
      "2C-SIMPLIFIEDoILK,2NET nE,3TWO,3svE,3FOUR,2MESH,2SHEEP,2RAM,2EWE,2OLD,2BRUSH nE,3TWO",
      "2MEAT,2MORTe,2GRASS nE,3TWO,3svE,2uGl,2CLOsES,2WEST nE,3TWO,2C-SIMPLIFIEDoEE",
      "2SIMPLIFIEtHORN,2HORN,2C-SIMPLIFIEDoPEECH,3SHELL,2FOOT,2C-SIMPLIFIEtCeT,2SIMPLIFIEtWcK",
      "2WcK nE,3TWO,2CITY,2C-SIMPLIFIEtGOLD,2LnG nE,3TWO,2C-SIMPLIFIEtLnG,3GATE,2MOUNtnE,3TWO",
      "2RAg,2BLUE,2C-SIMPLIFIEtTiNEtkAsl,3kAF,3WgD,3FLY,2EAT nE,3TWO,3svE,2C-SIMPLIFIEtEAT",
      "2HEAD,2C-SIMPLIFIEtHORSE,2BnE,2GHOST,2C-SIMPLIFIEtFISH,3BIRD,3ScT,2SIMPLIFIEtWHEAT",
      "3YELLOW,2C-SIMPLIFIEtFROG,2J-SIMPLIFIEtEVr,2C-SIMPLIFIEtEVr,2J-SIMPLIFIEtTOOs",
      "2C-SIMPLIFIEtTOOs,2J-SIMPLIFIEtDRAGn,2C-SIMPLIFIEtDRAGn,2TURTk,2J-SIMPLIFIEtTURTk",
      "2C-SIMPLIFIEtTURTk"]),
    (0x2F00, [
      "0KiGXI RADICc nE,2LgE,2yT,2SLASH,2SECnD,2HOOK,2TWO,2LID,2Mi,2kGS,2rTl,2Ef,2yWN BOX,2COVl",
      "2ICE,2TABk,2OPr BOX,2KNIFE,2POWl,2WRAP,2SPOn,2Rf OPr BOX,2HIDgG rCLOSUv,2Tr,2DIVgAun",
      "2SEc,2CLIFF,2PRIVATE,2AGAg,2MOUs,2rCLOSUv,2Ees,2SCHOLe,2GO,3SLOWLY,2EVrgG,2BIG,2WOMi",
      "2CHILD,2ROOF,2gCH,2j,2LAME,2CORPSE,2SPROUT,2MOUNTAg,2RIVl,2WORK,2nESELF,2TURBi,2DRY",
      "2SHORT svAD,2yTTEtCLIFF,2LnGoTRIDE,2TWO HiDS,2SHOOT,2BOW,2SNOUT,2BRISTk,2STEP,2HEeT",
      "2HcBlD,2yOR,2HiD,2BRiCH,2RAP,2SCRIPT,2DIPPl,2AXE,2SQUeE,2NOT,2SUN,2SAY,2MOn,2TvE,2LACK",
      "2STOP,2DEAs,2WEAPn,2y NOT,2COMPeE,2FUR,2CLi,2STEAM,2WATl,2FIv,2CLAW,2FAsl,2yUBk X",
      "2HcF TvE TRUNK,2SLICE,2FiG,2COW,2yG,2PROFOUND,2JADE,2MELn,2uk,2SWEET,2LIFE,2USE,2FIELD",
      "2BOLT OF CLOs,2SICKNESS,2yTTEtTrT,2WHITE,2SKg,2DISH,2EYE,2SPEe,2eROW,2STnE,2SPIRIT",
      "2TRACK,2GRAg,2CAVE,2STiD,2BAMBOO,2RICE,2SILK,2Je,2NET,2SHEEP,2FEAsl,2OLD,2iD,2PLOW,2Ee",
      "2BRUSH,2MEAT,2MgISTl,2SELF,2eRIVE,2MORTe,2TnGUE,2OPPOSE,2BOAT,2STOPPgG,2COLOR,2GRASS",
      "2uGl,2gSECT,2BLOOD,2WcK rCLOSUv,2CLOsES,2WEST,2SEE,2HORN,2SPEECH,2VckY,2BEi,2PIG,2BADGl",
      "2SHELL,2vD,2RUN,2FOOT,2BODY,2CeT,2BITTl,2MORNgG,2WcK,2CITY,2WgE,2DISTgGUISH,2VILLAGE",
      "2GOLD,2LnG,2GATE,2MOUND,2SLAVE,2SHORT TAIktBIRD,2RAg,2BLUE,2WRnG,2FACE,2kAsl,2TiNEtkAsl",
      "2kEK,2SOUND,2kAF,2WgD,2FLY,2EAT,2HEAD,2FRAGRiT,2HORSE,2BnE,2TcL,2zIR,2Ff,2SACRIFICIc WgE",
      "2CAULDRn,2GHOST,2FISH,2BIRD,2ScT,2DEl,2WHEAT,2HEMP,2YELLOW,2MILkT,2BLACK,2EMBROIDlY",
      "2FROG,2TRIPOD,2DRUM,2RAT,2NOSE,2EVr,2TOOs,2DRAGn,2TURTk,2FLUTE"]),
    (0x2FF0, [
      "0IDEOGRAPHIC DESCRIPun CHeACTl kFT TO Rf,3ABOVE TO BELOW,3kFT TO MIDDk itRf",
      "3ABOVE TO MIDDk itBELOW,3FULLoURROUND,3SURROUNtFROMq,5BELOW,5kFT,5UPPl kFT,6Rf,5LOWl kFT",
      "3OVlLAID"]),
    (0x3000, [
      "0IDEOGRAPHICoPACE,1COMMA,1FULLoTOP,0DITTO MeK,0JAPiESE gDUSTRIcoTiDeDoYMBOL",
      "0IDEOGRAPHIC ITlAun MeK,1CLOSgG MeK,1NUMBl ZlO,0kFT iGk BRACKET,0Rf iGk BRACKET",
      "0kFT yUBk iGk BRACKET,0Rf yUBk iGk BRACKET,0kFT CORNl BRACKET,0Rf CORNl BRACKET",
      "0kFT WHITE CORNl BRACKET,0Rf WHITE CORNl BRACKET,0kFT BLACK kNuCULe BRACKET",
      "0Rf BLACK kNuCULe BRACKET,0POSTc MeK,0GETA MeK,0kFT TORTOISEoHELL BRACKET",
      "0Rf TORTOISEoHELL BRACKET,0kFT WHITE kNuCULe BRACKET,0Rf WHITE kNuCULe BRACKET",
      "0kFT WHITE TORTOISEoHELL BRACKET,0Rf WHITE TORTOISEoHELL BRACKET,0kFT WHITEoQUeE BRACKET",
      "0Rf WHITEoQUeE BRACKET,0WAVE DASH,0vVlSEtyUBk PRIME QUOTAun MeK,0yUBk PRIME QUOTAun MeK",
      "0LOW yUBk PRIME QUOTAun MeK,0POSTc MeK FACE,0HiGZHOU NUMlc nE,2TWO,2svE,2FOUR,2FIVE,2SIX",
      "2SEVr,2Ef,2NgE,0IDEOGRAPHIC kVEL TnE MeK,1RISgG TnE MeK,1DEPeTgG TnE MeK,1rTlgG TnE MeK",
      "0HiGULogGk yT TnE MeK,1yUBk yT TnE MeK,0WAVY DASH,0VluCc KiA vPEAT MeK",
      "3WIs VOICEDoOUNtMeK,3MeK UPPl HcF,3WIs VOICEDoOUNtMeK UPPl HcF,3MeK LOWl HcF",
      "0CIRCktPOSTc MeK,0IDEOGRAPHIC TEkGRAPH LgE FEEDoEPeATORoYMBOL,0HiGZHOU NUMlc Tr,2TWrTY",
      "2sIRTY,0VluCc IDEOGRAPHIC ITlAun MeK,0MASU MeK,0PeT cTlNAun MeK",
      "0IDEOGRAPHIC VeIAun gDICATOR,1HcF FILLoPACE"]),
    (0x3041, [
      "0HIRAGiAaj A,2A,2j I,2I,2j U,2U,2j E,2E,2j O,2O,2KA,2GA,2KI,2GI,2KU,2GU,2KE,2GE,2KO,2GO",
      "2SA,2ZA,2SI,2ZI,2SU,2ZU,2SE,2ZE,2SO,2ZO,2TA,2DA,2u,2DI,2j TU,2TU,2DU,2TE,2DE,2TO,2y,2NA",
      "2NI,2NU,2NE,2NO,2z,2BA,2PA,2HI,2BI,2PI,2HU,2BU,2PU,2HE,2BE,2PE,2HO,2BO,2PO,2MA,2MI,2MU",
      "2ME,2MO,2j YA,2YA,2j YU,2YU,2j YO,2YO,2RA,2RI,2RU,2v,2RO,2j WA,2WA,2WI,2WE,2WO,2N,2VU",
      "2j KA,3KE"]),
    (0x3099, [
      "0COMBggG KATAKiA-HIRAGiA VOICEDoOUNtMeK,2SEMI-VOICEDoOUNtMeK",
      "0KATAKiA-HIRAGiA VOICEDoOUNtMeK,1SEMI-VOICEDoOUNtMeK,0HIRAGiA ITlAun MeK",
      "1VOICEtITlAun MeK,1DIGRAPH YORI,0KATAKiA-HIRAGiA yUBk HYPHr,0KATAKiAaj A,2A,2j I,2I,2j U",
      "2U,2j E,2E,2j O,2O,2KA,2GA,2KI,2GI,2KU,2GU,2KE,2GE,2KO,2GO,2SA,2ZA,2SI,2ZI,2SU,2ZU,2SE",
      "2ZE,2SO,2ZO,2TA,2DA,2u,2DI,2j TU,2TU,2DU,2TE,2DE,2TO,2y,2NA,2NI,2NU,2NE,2NO,2z,2BA,2PA",
      "2HI,2BI,2PI,2HU,2BU,2PU,2HE,2BE,2PE,2HO,2BO,2PO,2MA,2MI,2MU,2ME,2MO,2j YA,2YA,2j YU,2YU",
      "2j YO,2YO,2RA,2RI,2RU,2v,2RO,2j WA,2WA,2WI,2WE,2WO,2N,2VU,2j KA,3KE,2VA,2VI,2VE,2VO",
      "1MIDDk yT,0KATAKiA-HIRAGiA PROLnGEDoOUNtMeK,0KATAKiA ITlAun MeK,1VOICEtITlAun MeK",
      "1DIGRAPH KOTO"]),
    (0x3105, [
      "0BOPOMOFOaB,2P,2M,2F,2D,2T,2N,2L,2G,2K,2H,2J,2Q,2X,2ZH,2CH,2SH,2R,2Z,2C,2S,2A,2O,2E,2EH",
      "2AI,2EI,2AU,2OU,2i,2r,2iG,2rG,2l,2I,2U,2IU,2V,2NG,2GN,2IH,2ObyTq,2NN"]),
    (0x3131, [
      "0HiGULaKIYEOK,2SSiGKIYEOK,2KIYEOK-SIOS,2NIEUN,2NIEUN-CIEUC,2NIEUN-HIEUH,2uKEUT",
      "2SSiGuKEUT,2RIEUL,2RIEUL-KIYEOK,2RIEUL-MIEUM,2RIEUL-PIEUP,2RIEUL-SIOS,2RIEUL-sIEUs",
      "2RIEUL-PHIEUPH,2RIEUL-HIEUH,2MIEUM,2PIEUP,2SSiGPIEUP,2PIEUP-SIOS,2SIOS,2SSiGSIOS,2IEUNG",
      "2CIEUC,2SSiGCIEUC,2CHIEUCH,2KHIEUKH,2sIEUs,2PHIEUPH,2HIEUH,2A,2AE,2YA,2YAE,2EO,2E,2YEO",
      "2YE,2O,2WA,2WAE,2OE,2YO,2U,2WEO,2WE,2WI,2YU,2EU,2YI,2I,1FILkR,1kTTloSiGNIEUN",
      "2NIEUN-uKEUT,2NIEUN-SIOS,2NIEUN-PiSIOS,2RIEUL-KIYEOK-SIOS,2RIEUL-uKEUT,2RIEUL-PIEUP-SIOS",
      "2RIEUL-PiSIOS,2RIEUL-YEORgHIEUH,2MIEUM-PIEUP,2MIEUM-SIOS,2MIEUM-PiSIOS,2KAPYEOUNMIEUM",
      "2PIEUP-KIYEOK,2PIEUP-uKEUT,2PIEUP-SIOS-KIYEOK,2PIEUP-SIOS-uKEUT,2PIEUP-CIEUC",
      "2PIEUP-sIEUs,2KAPYEOUNPIEUP,2KAPYEOUNSSiGPIEUP,2SIOS-KIYEOK,2SIOS-NIEUN,2SIOS-uKEUT",
      "2SIOS-PIEUP,2SIOS-CIEUC,2PiSIOS,2SSiGIEUNG,2YESIEUNG,2YESIEUNG-SIOS,2YESIEUNG-PiSIOS",
      "2KAPYEOUNPHIEUPH,2SSiGHIEUH,2YEORgHIEUH,2YO-YA,2YO-YAE,2YO-I,2YU-YEO,2YU-YE,2YU-I,2eAEA",
      "2eAEAE"]),
    (0x3190, [
      "0IDEOGRAPHIC iNOTAun LgKgG MeK,2vVlSE MeK,2nE MeK,2TWO MeK,2svE MeK,2FOUR MeK,2TOP MeK",
      "2MIDDk MeK,2BOTTOM MeK,2FIRST MeK,2SECntMeK,2sIRtMeK,2FOURs MeK,2HEAVr MeK,2Ees MeK",
      "2Mi MeK,0BOPOMOFOaBU,2ZI,2JI,2GU,2EE,2rN,2OO,2nN,2IR,2iN,2gN,2UNN,2IM,2NGG,2AgN,2AUNN",
      "2AM,2OM,2nG,2gNN,1FgcaP,3T,3K,3H,1kTTl GH,2LH,2ZY,1FgcaG,1kTTl GW,2KW,2OE,2AH",
      "0CJKoTROKE T,2WG,2XG,2BXG,2SW,2HZZ,2HZG,2HP,2HZWG,2SZWG,2HZT,2HZZP,2HPWG,2HZW,2HZZZ,2N",
      "2H,2S,2P,2SP,2D,2HZ,2HG,2SZ,2SWZ,2ST,2SG,2PD,2PZ,2TN,2SZZ,2SWG,2HXWG,2HZZZG,2PG,2Q"]),
    (0x31F0, [
      "0KATAKiAaj KU,3SI,3SU,3TO,3NU,3z,3HI,3HU,3HE,3HO,3MU,3RA,3RI,3RU,3v,3RO",
      "0PersESIZEtHiGUL KIYEOK,2NIEUN,2uKEUT,2RIEUL,2MIEUM,2PIEUP,2SIOS,2IEUNG,2CIEUC,2CHIEUCH",
      "2KHIEUKH,2sIEUs,2PHIEUPH,2HIEUH,2KIYEOK A,2NIEUN A,2uKEUT A,2RIEUL A,2MIEUM A,2PIEUP A",
      "2SIOS A,2IEUNG A,2CIEUC A,2CHIEUCH A,2KHIEUKH A,2sIEUs A,2PHIEUPH A,2HIEUH A,2CIEUC U",
      "1KOvi CHeACTl OJEn,3O HU"]),
    (0x3220, [
      "0PersESIZEtIDEOGRAPH nE,2TWO,2svE,2FOUR,2FIVE,2SIX,2SEVr,2Ef,2NgE,2Tr,2MOn,2FIv,2WATl",
      "2WOOD,2METc,2Ees,2SUN,2STOCK,2zVE,2SOCIETY,2NAME,2SPECIc,2FgiCIc,2CnGRATULAun,2LABOR",
      "2vPvSrT,2CcL,2STUDY,2SUPlVISE,2rTlPRISE,2vSOURCE,2cLIiCE,2FESuVc,2vST,2SELF,2vACH",
      "0CIRCktIDEOGRAPH QUESun,2KgDlGeTr,2SCHOOL,2KOTO,1NUMBl Tr n BLACKoQUeE",
      "2TWrTY n BLACKoQUeE,2sIRTY n BLACKoQUeE,2FORTY n BLACKoQUeE,2FIFTY n BLACKoQUeE",
      "2SIXTY n BLACKoQUeE,2SEVrTY n BLACKoQUeE,2EfY n BLACKoQUeE,0PeTNlSHIPw",
      "0CIRCktNUMBl TWrTY nE,3TWO,3svE,3FOUR,3FIVE,3SIX,3SEVr,3Ef,3NgE,2sIRTY,3nE,3TWO,3svE",
      "3FOUR,3FIVE,1HiGUL KIYEOK,2NIEUN,2uKEUT,2RIEUL,2MIEUM,2PIEUP,2SIOS,2IEUNG,2CIEUC",
      "2CHIEUCH,2KHIEUKH,2sIEUs,2PHIEUPH,2HIEUH,2KIYEOK A,2NIEUN A,2uKEUT A,2RIEUL A,2MIEUM A",
      "2PIEUP A,2SIOS A,2IEUNG A,2CIEUC A,2CHIEUCH A,2KHIEUKH A,2sIEUs A,2PHIEUPH A,2HIEUH A",
      "1KOvi CHeACTl CzMKO,3JUEUI,1HiGUL IEUNG U,0KOvioTiDeDoYMBOL,0CIRCktIDEOGRAPH nE,2TWO",
      "2svE,2FOUR,2FIVE,2SIX,2SEVr,2Ef,2NgE,2Tr,2MOn,2FIv,2WATl,2WOOD,2METc,2Ees,2SUN,2STOCK",
      "2zVE,2SOCIETY,2NAME,2SPECIc,2FgiCIc,2CnGRATULAun,2LABOR,2SECvT,2McE,2FEMcE,2SUITABk",
      "2EXCELkNT,2PRgT,2ATTrun,2ITEM,2vST,2COPY,2CORvCT,2HIGH,2CrTv,2LOW,2kFT,2Rf,2MEDICgE",
      "2vLIGIn,2STUDY,2SUPlVISE,2rTlPRISE,2vSOURCE,2cLIiCE,2Nf,1NUMBl sIRTYoIX,3SEVr,3Ef,3NgE",
      "2FORTY,3nE,3TWO,3svE,3FOUR,3FIVE,3SIX,3SEVr,3Ef,3NgE,2FIFTY",
      "0IDEOGRAPHIC TEkGRAPHoYMBOL FOR JiUeY,4FEBRUeY,4MeCH,4APRIL,4MAY,4JUNE,4JULY,4AUGUST",
      "4SEPTEMBl,4OCTOBl,4NOVEMBl,4DECEMBl,0SQUeE HG,1lG,1EV,0LIMITEtLIABILITYw",
      "0CIRCktKATAKiA A,2I,2U,2E,2O,2KA,2KI,2KU,2KE,2KO,2SA,2SI,2SU,2SE,2SO,2TA,2u,2TU,2TE,2TO",
      "2NA,2NI,2NU,2NE,2NO,2z,2HI,2HU,2HE,2HO,2MA,2MI,2MU,2ME,2MO,2YA,2YU,2YO,2RA,2RI,2RU,2v",
      "2RO,2WA,2WI,2WE,2WO,0SQUeE lA NAME vIWA,1APAATO,1eUHUA,1iPEA,1AeU,1ggGU,1gu,1Un,1ESUKUUy",
      "1EEKAA,1nSU,1OOMU,1KAIRI,1KeATTO,1KeORII,1Gen,1GiMA,1GIGA,1GgII,1KYURII,1GIRUDAA,1KIRO",
      "1KIROGURAMU,1KIROMEETORU,1KIROWATTO,1GURAMU,1GURAMUTn,1KURUZEIRO,1KUROnE,1KEESU,1KORUNA",
      "1KOOPO,1SAIKURU,1SiuIMU,1SIRgGU,1Sru,1SrTO,1DAASU,1DESI,1yRU,1Tn,1NiO,1NOTTO,1zITU",
      "1PAASrTO,1PAATU,1BAelU,1PIASUTORU,1PIKURU,1PIKO,1BIRU,1HUeADy,1HUIITO,1BUSSYlU,1HURi",
      "1HEKUTAeU,1PESO,1PrIHI,1HlUTU,1PrSU,1PEEZI,1BEETA,1POgTO,1BORUTO,1Hn,1Pny,1HOORU,1HOn",
      "1MAIKURO,1MAIRU,1MAHz,1MeUKU,1MiSYn,1MIKURn,1MIRI,1MIRIBAeU,1MEGA,1MEGATn,1MEETORU,1YAAy",
      "1YAeU,1YUi,1RITTORU,1RIRA,1RUPII,1RUUBURU,1vMU,1RrTOGr,1WATTO",
      "0IDEOGRAPHIC TEkGRAPHoYMBOL FOR HOUR ZlO,5nE,5TWO,5svE,5FOUR,5FIVE,5SIX,5SEVr,5Ef,5NgE",
      "5Tr,5EkVr,5TWELVE,5sIRTEr,5FOURTEr,5FIFTEr,5SIXTEr,5SEVrTEr,5EfEr,5NgETEr,5TWrTY",
      "5TWrTY-nE,5TWrTY-TWO,5TWrTY-svE,5TWrTY-FOUR,0SQUeE HPA,1DA,1AU,1Be,1OV,1PC,1DM,2SQUeED",
      "2CUBED,1IU,1lA NAME HEISEI,3SYOUWA,3TAISYOU,3MEIZI,1CORPORAun,1PA AMPS,1NA,1MU A,1MA,1KA",
      "1KB,1MB,1GB,1Cc,1KCc,1PF,1NF,1MU F,2G,1MG,1KG,1HZ,1KHZ,1MHZ,1GHZ,1sZ,1MU L,1ML,1DL,1KL",
      "1FM,1NM,1MU M,1MM,1CM,1KM,1MMoQUeED,1CMoQUeED,1MoQUeED,1KMoQUeED,1MM CUBED,1CM CUBED",
      "1M CUBED,1KM CUBED,1M OVlo,4SQUeED,1PA,1KPA,1MPA,1GPA,1RAD,2OVlo,4SQUeED,1PS,1NS,1MUo",
      "1MS,1PV,1NV,1MU V,1MV,1KV,1MV MEGA,1PW,1NW,1MU W,1MW,1KW,1MW MEGA,1K OHM,1M OHM,1AM,1BQ",
      "1CC,1CD,1C OVl KG,1CO,1DB,1GY,1z,1HP,1g,1KK,1KM CAPITc,1KT,1LM,1LN,1LOG,1LX,1MB j,1MIL",
      "1MOL,1PH,1PM,1PPM,1PR,1SR,1SV,1WB,1V OVl M,1A OVl M",
      "0IDEOGRAPHIC TEkGRAPHoYMBOL FOR DAY nE,5TWO,5svE,5FOUR,5FIVE,5SIX,5SEVr,5Ef,5NgE,5Tr",
      "5EkVr,5TWELVE,5sIRTEr,5FOURTEr,5FIFTEr,5SIXTEr,5SEVrTEr,5EfEr,5NgETEr,5TWrTY,5TWrTY-nE",
      "5TWrTY-TWO,5TWrTY-svE,5TWrTY-FOUR,5TWrTY-FIVE,5TWrTY-SIX,5TWrTY-SEVr,5TWrTY-Ef",
      "5TWrTY-NgE,5sIRTY,5sIRTY-nE,0SQUeE Gc"]),
    (0x4DC0, [
      "0HEXAGRAM FOR sE CvAuVE HEAVr,3vCEPuVE Ees,2DIFFICULTY AT sE BEGgNgG,2YOUsFUL FOLLY",
      "2WAITgG,2CnFLICT,2sE eMY,2HOLDgG TOGEsl,2j TAMgG,2TvADgG,2PEACE,2STiDSuLL,2FELLOWSHIP",
      "2GvAT POSSESSIn,2MODESTY,2rsUSIASM,2FOLLOWgG,2WORK n sE DECAYED,2APPROACH,2CnTEMPLAun",
      "2BITgG sROUGH,2GRACE,2SPLITTgG APeT,2vTURN,2gNOCrCE,2GvAT TAMgG,2MOUs CORNlS",
      "2GvAT PvPnDliCE,2sE ABYSMc WATl,3CLgGgG FIv,2gFLUrCE,2DURAun,2vTvAT,2GvAT POWl,2PROGvSS",
      "2DeKrgG OF sE Lf,2sE FAMILY,2OPPOSIun,2OBSTRUCun,2DELIVliCE,2DECvASE,2gCvASE,2BvAKsROUGH",
      "2COMgG TO MEET,2GAslgG TOGEsl,2PUSHgG UPWeD,2OPPvSSIn,2sE WELL,2vVOLUun,2sE CAULDRn",
      "3eOUSgG sUNDl,3KEEPgGouLL MOUNTAg,2DEVELOPMrT,2sE MeRYgG MAIDr,2ABUNDiCE,2sE WiDll",
      "3GrTk WgD,3JOYOUS LAKE,2DISPlSIn,2LIMITAun,2gNl TRUs,2j PvPnDliCE,2AFTl COMPkun",
      "2BEFOv COMPkun"]),
    (0xA000, [
      "0YIoYLLABk IT,2IX,2I,2IP,2IET,2IEX,2IE,2IEP,2AT,2AX,2A,2AP,2UOX,2UO,2UOP,2OT,2OX,2O,2OP",
      "2EX,2E,2WU,2BIT,2BIX,2BI,2BIP,2BIET,2BIEX,2BIE,2BIEP,2BAT,2BAX,2BA,2BAP,2BUOX,2BUO,2BUOP",
      "2BOT,2BOX,2BO,2BOP,2BEX,2BE,2BEP,2BUT,2BUX,2BU,2BUP,2BURX,2BUR,2BYT,2BYX,2BY,2BYP,2BYRX",
      "2BYR,2PIT,2PIX,2PI,2PIP,2PIEX,2PIE,2PIEP,2PAT,2PAX,2PA,2PAP,2PUOX,2PUO,2PUOP,2POT,2POX",
      "2PO,2POP,2PUT,2PUX,2PU,2PUP,2PURX,2PUR,2PYT,2PYX,2PY,2PYP,2PYRX,2PYR,2BBIT,2BBIX,2BBI",
      "2BBIP,2BBIET,2BBIEX,2BBIE,2BBIEP,2BBAT,2BBAX,2BBA,2BBAP,2BBUOX,2BBUO,2BBUOP,2BBOT,2BBOX",
      "2BBO,2BBOP,2BBEX,2BBE,2BBEP,2BBUT,2BBUX,2BBU,2BBUP,2BBURX,2BBUR,2BBYT,2BBYX,2BBY,2BBYP",
      "2NBIT,2NBIX,2NBI,2NBIP,2NBIEX,2NBIE,2NBIEP,2NBAT,2NBAX,2NBA,2NBAP,2NBOT,2NBOX,2NBO,2NBOP",
      "2NBUT,2NBUX,2NBU,2NBUP,2NBURX,2NBUR,2NBYT,2NBYX,2NBY,2NBYP,2NBYRX,2NBYR,2HMIT,2HMIX,2HMI",
      "2HMIP,2HMIEX,2HMIE,2HMIEP,2HMAT,2HMAX,2HMA,2HMAP,2HMUOX,2HMUO,2HMUOP,2HMOT,2HMOX,2HMO",
      "2HMOP,2HMUT,2HMUX,2HMU,2HMUP,2HMURX,2HMUR,2HMYX,2HMY,2HMYP,2HMYRX,2HMYR,2MIT,2MIX,2MI",
      "2MIP,2MIEX,2MIE,2MIEP,2MAT,2MAX,2MA,2MAP,2MUOT,2MUOX,2MUO,2MUOP,2MOT,2MOX,2MO,2MOP,2MEX",
      "2ME,2MUT,2MUX,2MU,2MUP,2MURX,2MUR,2MYT,2MYX,2MY,2MYP,2FIT,2FIX,2FI,2FIP,2FAT,2FAX,2FA",
      "2FAP,2FOX,2FO,2FOP,2FUT,2FUX,2FU,2FUP,2FURX,2FUR,2FYT,2FYX,2FY,2FYP,2VIT,2VIX,2VI,2VIP",
      "2VIET,2VIEX,2VIE,2VIEP,2VAT,2VAX,2VA,2VAP,2VOT,2VOX,2VO,2VOP,2VEX,2VEP,2VUT,2VUX,2VU",
      "2VUP,2VURX,2VUR,2VYT,2VYX,2VY,2VYP,2VYRX,2VYR,2DIT,2DIX,2DI,2DIP,2DIEX,2DIE,2DIEP,2DAT",
      "2DAX,2DA,2DAP,2DUOX,2DUO,2yT,2yX,2y,2yP,2DEX,2DE,2DEP,2DUT,2DUX,2DU,2DUP,2DURX,2DUR,2uT",
      "2uX,2u,2uP,2uEX,2uE,2uEP,2TAT,2TAX,2TA,2TAP,2TUOT,2TUOX,2TUO,2TUOP,2TOT,2TOX,2TO,2TOP",
      "2TEX,2TE,2TEP,2TUT,2TUX,2TU,2TUP,2TURX,2TUR,2DDIT,2DDIX,2DDI,2DDIP,2DDIEX,2DDIE,2DDIEP",
      "2DDAT,2DDAX,2DDA,2DDAP,2DDUOX,2DDUO,2DDUOP,2DyT,2DyX,2Dy,2DyP,2DDEX,2DDE,2DDEP,2DDUT",
      "2DDUX,2DDU,2DDUP,2DDURX,2DDUR,2NDIT,2NDIX,2NDI,2NDIP,2NDIEX,2NDIE,2NDAT,2NDAX,2NDA,2NDAP",
      "2NyT,2NyX,2Ny,2NyP,2NDEX,2NDE,2NDEP,2NDUT,2NDUX,2NDU,2NDUP,2NDURX,2NDUR,2HNIT,2HNIX,2HNI",
      "2HNIP,2HNIET,2HNIEX,2HNIE,2HNIEP,2HNAT,2HNAX,2HNA,2HNAP,2HNUOX,2HNUO,2HNOT,2HNOX,2HNOP",
      "2HNEX,2HNE,2HNEP,2HNUT,2NIT,2NIX,2NI,2NIP,2NIEX,2NIE,2NIEP,2NAX,2NA,2NAP,2NUOX,2NUO",
      "2NUOP,2NOT,2NOX,2NO,2NOP,2NEX,2NE,2NEP,2NUT,2NUX,2NU,2NUP,2NURX,2NUR,2HLIT,2HLIX,2HLI",
      "2HLIP,2HLIEX,2HLIE,2HLIEP,2HLAT,2HLAX,2HLA,2HLAP,2HLUOX,2HLUO,2HLUOP,2HLOX,2HLO,2HLOP",
      "2HkX,2Hk,2HkP,2HLUT,2HLUX,2HLU,2HLUP,2HLURX,2HLUR,2HLYT,2HLYX,2HLY,2HLYP,2HLYRX,2HLYR",
      "2LIT,2LIX,2LI,2LIP,2LIET,2LIEX,2LIE,2LIEP,2LAT,2LAX,2LA,2LAP,2LUOT,2LUOX,2LUO,2LUOP,2LOT",
      "2LOX,2LO,2LOP,2kX,2k,2kP,2LUT,2LUX,2LU,2LUP,2LURX,2LUR,2LYT,2LYX,2LY,2LYP,2LYRX,2LYR",
      "2GIT,2GIX,2GI,2GIP,2GIET,2GIEX,2GIE,2GIEP,2GAT,2GAX,2GA,2GAP,2GUOT,2GUOX,2GUO,2GUOP,2GOT",
      "2GOX,2GO,2GOP,2GET,2GEX,2GE,2GEP,2GUT,2GUX,2GU,2GUP,2GURX,2GUR,2KIT,2KIX,2KI,2KIP,2KIEX",
      "2KIE,2KIEP,2KAT,2KAX,2KA,2KAP,2KUOX,2KUO,2KUOP,2KOT,2KOX,2KO,2KOP,2KET,2KEX,2KE,2KEP",
      "2KUT,2KUX,2KU,2KUP,2KURX,2KUR,2GGIT,2GGIX,2GGI,2GGIEX,2GGIE,2GGIEP,2GGAT,2GGAX,2GGA",
      "2GGAP,2GGUOT,2GGUOX,2GGUO,2GGUOP,2GGOT,2GGOX,2GGO,2GGOP,2GGET,2GGEX,2GGE,2GGEP,2GGUT",
      "2GGUX,2GGU,2GGUP,2GGURX,2GGUR,2MGIEX,2MGIE,2MGAT,2MGAX,2MGA,2MGAP,2MGUOX,2MGUO,2MGUOP",
      "2MGOT,2MGOX,2MGO,2MGOP,2MGEX,2MGE,2MGEP,2MGUT,2MGUX,2MGU,2MGUP,2MGURX,2MGUR,2HXIT,2HXIX",
      "2HXI,2HXIP,2HXIET,2HXIEX,2HXIE,2HXIEP,2HXAT,2HXAX,2HXA,2HXAP,2HXUOT,2HXUOX,2HXUO,2HXUOP",
      "2HXOT,2HXOX,2HXO,2HXOP,2HXEX,2HXE,2HXEP,2NGIEX,2NGIE,2NGIEP,2NGAT,2NGAX,2NGA,2NGAP",
      "2NGUOT,2NGUOX,2NGUO,2NGOT,2NGOX,2NGO,2NGOP,2NGEX,2NGE,2NGEP,2HIT,2HIEX,2HIE,2zT,2zX,2z",
      "2zP,2HUOT,2HUOX,2HUO,2HUOP,2HOT,2HOX,2HO,2HOP,2HEX,2HE,2HEP,2WAT,2WAX,2WA,2WAP,2WUOX",
      "2WUO,2WUOP,2WOX,2WO,2WOP,2WEX,2WE,2WEP,2ZIT,2ZIX,2ZI,2ZIP,2ZIEX,2ZIE,2ZIEP,2ZAT,2ZAX,2ZA",
      "2ZAP,2ZUOX,2ZUO,2ZUOP,2ZOT,2ZOX,2ZO,2ZOP,2ZEX,2ZE,2ZEP,2ZUT,2ZUX,2ZU,2ZUP,2ZURX,2ZUR",
      "2ZYT,2ZYX,2ZY,2ZYP,2ZYRX,2ZYR,2CIT,2CIX,2CI,2CIP,2CIET,2CIEX,2CIE,2CIEP,2CAT,2CAX,2CA",
      "2CAP,2CUOX,2CUO,2CUOP,2COT,2COX,2CO,2COP,2CEX,2CE,2CEP,2CUT,2CUX,2CU,2CUP,2CURX,2CUR",
      "2CYT,2CYX,2CY,2CYP,2CYRX,2CYR,2ZZIT,2ZZIX,2ZZI,2ZZIP,2ZZIET,2ZZIEX,2ZZIE,2ZZIEP,2ZZAT",
      "2ZZAX,2ZZA,2ZZAP,2ZZOX,2ZZO,2ZZOP,2ZZEX,2ZZE,2ZZEP,2ZZUX,2ZZU,2ZZUP,2ZZURX,2ZZUR,2ZZYT",
      "2ZZYX,2ZZY,2ZZYP,2ZZYRX,2ZZYR,2NZIT,2NZIX,2NZI,2NZIP,2NZIEX,2NZIE,2NZIEP,2NZAT,2NZAX",
      "2NZA,2NZAP,2NZUOX,2NZUO,2NZOX,2NZOP,2NZEX,2NZE,2NZUX,2NZU,2NZUP,2NZURX,2NZUR,2NZYT,2NZYX",
      "2NZY,2NZYP,2NZYRX,2NZYR,2SIT,2SIX,2SI,2SIP,2SIEX,2SIE,2SIEP,2SAT,2SAX,2SA,2SAP,2SUOX",
      "2SUO,2SUOP,2SOT,2SOX,2SO,2SOP,2SEX,2SE,2SEP,2SUT,2SUX,2SU,2SUP,2SURX,2SUR,2SYT,2SYX,2SY",
      "2SYP,2SYRX,2SYR,2SSIT,2SSIX,2SSI,2SSIP,2SSIEX,2SSIE,2SSIEP,2SSAT,2SSAX,2SSA,2SSAP,2SSOT",
      "2SSOX,2SSO,2SSOP,2SSEX,2SSE,2SSEP,2SSUT,2SSUX,2SSU,2SSUP,2SSYT,2SSYX,2SSY,2SSYP,2SSYRX",
      "2SSYR,2ZzT,2ZzX,2Zz,2ZzP,2ZHUOX,2ZHUO,2ZHUOP,2ZHOT,2ZHOX,2ZHO,2ZHOP,2ZHET,2ZHEX,2ZHE",
      "2ZHEP,2ZHUT,2ZHUX,2ZHU,2ZHUP,2ZHURX,2ZHUR,2ZHYT,2ZHYX,2ZHY,2ZHYP,2ZHYRX,2ZHYR,2CzT,2CzX",
      "2Cz,2CzP,2CHUOT,2CHUOX,2CHUO,2CHUOP,2CHOT,2CHOX,2CHO,2CHOP,2CHET,2CHEX,2CHE,2CHEP,2CHUX",
      "2CHU,2CHUP,2CHURX,2CHUR,2CHYT,2CHYX,2CHY,2CHYP,2CHYRX,2CHYR,2RRAX,2RRA,2RRUOX,2RRUO",
      "2RROT,2RROX,2RRO,2RROP,2RvT,2RvX,2Rv,2RvP,2RRUT,2RRUX,2RRU,2RRUP,2RRURX,2RRUR,2RRYT",
      "2RRYX,2RRY,2RRYP,2RRYRX,2RRYR,2NRAT,2NRAX,2NRA,2NRAP,2NROX,2NRO,2NROP,2NvT,2NvX,2Nv,2NvP",
      "2NRUT,2NRUX,2NRU,2NRUP,2NRURX,2NRUR,2NRYT,2NRYX,2NRY,2NRYP,2NRYRX,2NRYR,2SzT,2SzX,2Sz",
      "2SzP,2SHUOX,2SHUO,2SHUOP,2SHOT,2SHOX,2SHO,2SHOP,2SHET,2SHEX,2SHE,2SHEP,2SHUT,2SHUX,2SHU",
      "2SHUP,2SHURX,2SHUR,2SHYT,2SHYX,2SHY,2SHYP,2SHYRX,2SHYR,2RAT,2RAX,2RA,2RAP,2RUOX,2RUO",
      "2RUOP,2ROT,2ROX,2RO,2ROP,2vX,2v,2vP,2RUT,2RUX,2RU,2RUP,2RURX,2RUR,2RYT,2RYX,2RY,2RYP",
      "2RYRX,2RYR,2JIT,2JIX,2JI,2JIP,2JIET,2JIEX,2JIE,2JIEP,2JUOT,2JUOX,2JUO,2JUOP,2JOT,2JOX",
      "2JO,2JOP,2JUT,2JUX,2JU,2JUP,2JURX,2JUR,2JYT,2JYX,2JY,2JYP,2JYRX,2JYR,2QIT,2QIX,2QI,2QIP",
      "2QIET,2QIEX,2QIE,2QIEP,2QUOT,2QUOX,2QUO,2QUOP,2QOT,2QOX,2QO,2QOP,2QUT,2QUX,2QU,2QUP",
      "2QURX,2QUR,2QYT,2QYX,2QY,2QYP,2QYRX,2QYR,2JJIT,2JJIX,2JJI,2JJIP,2JJIET,2JJIEX,2JJIE",
      "2JJIEP,2JJUOX,2JJUO,2JJUOP,2JJOT,2JJOX,2JJO,2JJOP,2JJUT,2JJUX,2JJU,2JJUP,2JJURX,2JJUR",
      "2JJYT,2JJYX,2JJY,2JJYP,2NJIT,2NJIX,2NJI,2NJIP,2NJIET,2NJIEX,2NJIE,2NJIEP,2NJUOX,2NJUO",
      "2NJOT,2NJOX,2NJO,2NJOP,2NJUX,2NJU,2NJUP,2NJURX,2NJUR,2NJYT,2NJYX,2NJY,2NJYP,2NJYRX,2NJYR",
      "2NYIT,2NYIX,2NYI,2NYIP,2NYIET,2NYIEX,2NYIE,2NYIEP,2NYUOX,2NYUO,2NYUOP,2NYOT,2NYOX,2NYO",
      "2NYOP,2NYUT,2NYUX,2NYU,2NYUP,2XIT,2XIX,2XI,2XIP,2XIET,2XIEX,2XIE,2XIEP,2XUOX,2XUO,2XOT",
      "2XOX,2XO,2XOP,2XYT,2XYX,2XY,2XYP,2XYRX,2XYR,2YIT,2YIX,2YI,2YIP,2YIET,2YIEX,2YIE,2YIEP",
      "2YUOT,2YUOX,2YUO,2YUOP,2YOT,2YOX,2YO,2YOP,2YUT,2YUX,2YU,2YUP,2YURX,2YUR,2YYT,2YYX,2YY",
      "2YYP,2YYRX,2YYR"]),
    (0xA490, [
      "0YI RADICc QOT,2LI,2KIT,2NYIP,2CYP,2SSI,2GGOP,2GEP,2MI,2HXIT,2LYR,2BBUT,2MOP,2YO,2PUT",
      "2HXUO,2TAT,2GA,2ZUP,2CYT,2DDUR,2BUR,2GGUO,2NYOP,2TU,2OP,2JJUT,2ZOT,2PYT,2HMO,2YIT,2VUR",
      "2SHY,2VEP,2ZA,2JO,2NZUP,2JJY,2GOT,2JJIE,2WO,2DU,2SHUR,2LIE,2CY,2CUOP,2CIP,2HXOP,2SzT",
      "2ZUR,2SHOP,2CHE,2ZZIET,2NBIE,2KE"]),
    (0xA4D0, [
      "0LISUaBA,2PA,2Pz,2DA,2TA,2sA,2GA,2KA,2Kz,2JA,2CA,2Cz,2DZA,2TSA,2TSz,2MA,2NA,2LA,2SA,2Zz",
      "2ZA,2NGA,2z,2XA,2Hz,2FA,2WA,2Sz,2YA,2Gz,2A,2AE,2E,2EU,2I,2O,2U,2UE,2UH,2OE,2TnE MYA u",
      "3NA PO,3MYA CYA,4BO,4NA,4JEU,1PUNCTUAun COMMA,2FULLoTOP,0VAIoYLLABk EE,2Er,2HEE,2WEE",
      "2WEr,2PEE,2BHEE,2BEE,2MBEE,2KPEE,2MGBEE,2GBEE,2FEE,2VEE,2TEE,2sEE,2DHEE,2DHHEE,2kE,2vE",
      "2DEE,2NDEE,2SEE,2SHEE,2ZEE,2ZHEE,2CEE,2JEE,2NJEE,2YEE,2KEE,2NGGEE,2GEE,2MEE,2NEE,2NYEE",
      "2I,2g,2HI,2Hg,2WI,2Wg,2PI,2BHI,2BI,2MBI,2KPI,2MGBI,2GBI,2FI,2VI,2u,2sI,2DHI,2DHHI,2LI",
      "2RI,2DI,2NDI,2SI,2SHI,2ZI,2ZHI,2CI,2JI,2NJI,2YI,2KI,2NGGI,2GI,2MI,2NI,2NYI,2A,2i,2NGi,2z",
      "2Hi,2WA,2Wi,2PA,2Bz,2BA,2MBA,2KPA,2KPi,2MGBA,2GBA,2FA,2VA,2TA,2sA,2Dz,2DHz,2LA,2RA,2DA",
      "2NDA,2SA,2Sz,2ZA,2Zz,2CA,2JA,2NJA,2YA,2KA,2Ki,2NGGA,2GA,2MA,2NA,2NYA,2OO,2On,2HOO,2WOO",
      "2WOn,2POO,2BHOO,2BOO,2MBOO,2KPOO,2MGBOO,2GBOO,2FOO,2VOO,2TOO,2sOO,2DHOO,2DHHOO,2LOO,2ROO",
      "2yO,2NyO,2SOO,2SHOO,2ZOO,2ZHOO,2COO,2JOO,2NJOO,2YOO,2KOO,2NGGOO,2GOO,2MOO,2NOO,2NYOO,2U",
      "2UN,2HU,2HUN,2WU,2WUN,2PU,2BHU,2BU,2MBU,2KPU,2MGBU,2GBU,2FU,2VU,2TU,2sU,2DHU,2DHHU,2LU",
      "2RU,2DU,2NDU,2SU,2SHU,2ZU,2ZHU,2CU,2JU,2NJU,2YU,2KU,2NGGU,2GU,2MU,2NU,2NYU,2O,2n,2NGn",
      "2HO,2Hn,2WO,2Wn,2PO,2BHO,2BO,2MBO,2KPO,2MGBO,2GBO,2GBn,2FO,2VO,2TO,2sO,2DHO,2DHHO,2LO",
      "2RO,2y,2Ny,2SO,2SHO,2ZO,2ZHO,2CO,2JO,2NJO,2YO,2KO,2NGGO,2GO,2MO,2NO,2NYO,2E,2r,2NGr,2HE",
      "2Hr,2WE,2Wr,2PE,2BHE,2BE,2MBE,2KPE,2KPr,2MGBE,2GBE,2GBr,2FE,2VE,2TE,2sE,2DHE,2DHHE,2k,2v",
      "2DE,2NDE,2SE,2SHE,2ZE,2ZHE,2CE,2JE,2NJE,2YE,2KE,2NGGE,2NGGr,2GE,2Gr,2ME,2NE,2NYE,2NG",
      "2kNGsrl,1COMMA,1FULLoTOP,1QUESun MeK,1SYLLABk Nyk FA,3KA,3SOO,1SYMBOL FErG,2KErG,2TgG",
      "2NII,2BiG,2FAA,2TAA,2DiG,2ynG,2KUNG,2TnG,2y-O,2JnG,1DIGIT ZlO,2nE,2TWO,2svE,2FOUR,2FIVE",
      "2SIX,2SEVr,2Ef,2NgE,1SYLLABk Nyk MA,3y"]),
    (0xA640, [
      "0CYRILLIC dZEMLYA,1jaZEMLYA,1dDZELO,1jaDZELO,1dvVlSEtDZE,1javVlSEtDZE,1dIOTA,1jaIOTA",
      "1dDJlV,1jaDJlV,1dMnOGRAPH UK,1jaMnOGRAPH UK,1dBROAtOMEGA,1jaBROAtOMEGA,1dNEUTRc Yl",
      "1jaNEUTRc Yl,1dYlUbBACK Yl,1jaYlUbBACK Yl,1dIOuFIEtYAT,1jaIOuFIEtYAT,1dvVlSEtYU",
      "1javVlSEtYU,1dIOuFIEtA,1jaIOuFIEtA,1dCLOSEtLITTk YUS,1jaCLOSEtLITTk YUS,1dBkNDEtYUS",
      "1jaBkNDEtYUS,1dIOuFIEtCLOSEtLITTk YUS,1jaIOuFIEtCLOSEtLITTk YUS,1dYN,1jaYN,1dvVlSEtTSE",
      "1javVlSEtTSE,1dSOFT DE,1jaSOFT DE,1dSOFT EL,1jaSOFT EL,1dSOFT EM,1jaSOFT EM,1dMnOCULe O",
      "1jaMnOCULe O,1dBgOCULe O,1jaBgOCULe O,1dyUBk MnOCULe O,1jayUBk MnOCULe O",
      "1kTTl MULuOCULe O,0COMBggG CYRILLIC VZMET,2Tr MILLInSw,2HUNDvtMILLInSw,2sOUSitMILLInSw",
      "0SLAVnIC ASTlISK,0COMBggG CYRILLICaUKRAgIi IE,3I,3YI,3U,3HeDw,3YlU,3SOFTw,3OMEGA,2KAVYKA",
      "2PAYlOK,0CYRILLIC KAVYKA,1PAYlOK,1dDWE,1jaDWE,1dDZWE,1jaDZWE,1dZHWE,1jaZHWE,1dCCHE",
      "1jaCCHE,1dDZZE,1jaDZZE,1dTEbMIDDk HOOK,1jaTEbMIDDk HOOK,1dTWE,1jaTWE,1dTSWE,1jaTSWE",
      "1dTSSE,1jaTSSE,1dTCHE,1jaTCHE,1dHWE,1jaHWE,1dSHWE,1jaSHWE,1dyUBk O,1jayUBk O,1dCROSSEtO",
      "1jaCROSSEtO,0MODIFIlaCYRILLIC HeDw,3SOFTw,0COMBggG CYRILLICaEF,3IOuFIEtE,0BAMUMaA,2KA,2U",
      "2KU,2EE,2vE,2TAE,2O,2NYI,2I,2LA,2PA,2RII,2RIEE,2kEEE,2MEEEE,2TAA,2NDAA,2NJAEM,2M,2SUU",
      "2MU,2SHII,2SI,2SHEUX,2SEUX,2KYEE,2KET,2NUAE,2NU,2NJUAE,2YOQ,2SHU,2YUQ,2YA,2NSz,2KEUX",
      "2PEUX,2NJEE,2NTEE,2PUE,2WUE,2PEE,2FEE,2RU,2LU,2MI,2NI,2vUX,2RAE,2Kr,2NGKWAr,2NGGA,2NGA",
      "2SHO,2PUAE,2FU,2FOM,2WA,2NA,2LI,2PI,2LOQ,2KO,2MBr,2Rr,2Mr,2MA,2u,2KI,2MO,2MBAA,2TET,2KPA",
      "2Tr,2NTUU,2SAMBA,2FAAMAE,2KOVUU,2KOGHOM,1COMBggG MeK KOQNDn,3TUKWruS,1NJAEMLI,1FULLoTOP",
      "1COLn,1COMMA,1SEMICOLn,1QUESun MeK"]),
    (0xA700, [
      "0MODIFIlaCHgESE TnE Yg PgG,4YiG PgG,4YgoHiG,4YiGoHiG,4Yg QU,4YiG QU,4Yg RU,4YiG RU",
      "2EXTRA-HIGH yTTEtTnE Be,2HIGH yTTEtTnE Be,2MItyTTEtTnE Be,2LOW yTTEtTnE Be",
      "2EXTRA-LOW yTTEtTnE Be,2EXTRA-HIGH yTTEtkFT-STEM TnE Be,2HIGH yTTEtkFT-STEM TnE Be",
      "2MItyTTEtkFT-STEM TnE Be,2LOW yTTEtkFT-STEM TnE Be,2EXTRA-LOW yTTEtkFT-STEM TnE Be",
      "2EXTRA-HIGH kFT-STEM TnE Be,2HIGH kFT-STEM TnE Be,2MItkFT-STEM TnE Be",
      "2LOW kFT-STEM TnE Be,2EXTRA-LOW kFT-STEM TnE Be,2yT VluCc Be,3SLASH,3HORIZnTc Be",
      "2LOWl Rf CORNl iGk,2RAISEtUPm,3yWNm,3EXCLAMAun MeK,3gVlTEtEXCLAMAun MeK",
      "2LOW gVlTEtEXCLAMAun MeK,2STvSS itHIGH TnE,4LOW TnE,0LATg dEGYPTOLOGICc cEF",
      "1jaEGYPTOLOGICc cEF,1dEGYPTOLOGICc Ag,1jaEGYPTOLOGICc Ag,1dHrG,1jaHrG,1dTZ,1jaTZ",
      "1dTvSILLO,1jaTvSILLO,1dCUATRILLO,1jaCUATRILLO,1dCUATRILLObCOMMA,1jaCUATRILLObCOMMA",
      "1kTTl j CAPITc F,4S,1dAA,1jaAA,1dAO,1jaAO,1dAU,1jaAU,1dAV,1jaAV,1dAVbHORIZnTc Be",
      "1jaAVbHORIZnTc Be,1dAY,1jaAY,1dvVlSEtCbyT,1javVlSEtCbyT,1dKbSTROKE,1jaKbSTROKE",
      "1dKbDIAGncoTROKE,1jaKbDIAGncoTROKE,1dKbSTROKE itDIAGncoTROKE,1jaKbSTROKE itDIAGncoTROKE",
      "1dBROKr L,1jaBROKr L,1dLbHIGHoTROKE,1jaLbHIGHoTROKE,1dObLnGoTROKE OVlLAY",
      "1jaObLnGoTROKE OVlLAY,1dObLOOP,1jaObLOOP,1dOO,1jaOO,1dPbSTROKE sROUGH DESCrDl",
      "1jaPbSTROKE sROUGH DESCrDl,1dPbFLOURISH,1jaPbFLOURISH,1dPbSQUIRvL TAIL,1jaPbSQUIRvL TAIL",
      "1dQbSTROKE sROUGH DESCrDl,1jaQbSTROKE sROUGH DESCrDl,1dQbDIAGncoTROKE,1jaQbDIAGncoTROKE",
      "1dR ROTUNDA,1jaR ROTUNDA,1dRUM ROTUNDA,1jaRUM ROTUNDA,1dVbDIAGncoTROKE,1jaVbDIAGncoTROKE",
      "1dVY,1jaVY,1dVISIGOsIC Z,1jaVISIGOsIC Z,1dsORNbSTROKE,1jasORNbSTROKE",
      "1dsORNbSTROKE sROUGH DESCrDl,1jasORNbSTROKE sROUGH DESCrDl,1dVrD,1jaVrD,1dET,1jaET,1dIS",
      "1jaIS,1dCn,1jaCn,0MODIFIlaUS,0LATg jaDUM,3LUM,3MUM,3NUM,3RUM,1kTTl j CAPITc RUM,1jaTUM",
      "3UM,1dgSULe D,1jagSULe D,1dgSULe F,1jagSULe F,1dgSULe G,3TURNEtgSULe G,1jaTURNEtgSULe G",
      "1dTURNEtL,1jaTURNEtL,1dgSULe R,1jagSULe R,1dgSULeo,1jagSULeo,1dgSULe T,1jagSULe T",
      "0MODIFIlaLOW CIRCUMFkX ACCrT,2COLn,2SHORT EQUcSw,0LATg dScuLLO,1jaScuLLO,1dTURNEtH",
      "1jaLbvTROFkX HOOK itBELT,1kTTlogOLOGICc yT,1dNbDESCrDl,1jaNbDESCrDl,1dCbBe,1jaCbBe",
      "5PcATc HOOK,3HbPcATc HOOK,1dBbFLOURISH,1jaBbFLOURISH,1dFbSTROKE,1jaFbSTROKE,1dVOLAPUK AE",
      "1jaVOLAPUK AE,1dVOLAPUK OE,1jaVOLAPUK OE,1dVOLAPUK UE,1jaVOLAPUK UE,1dGbOBLIQUEoTROKE",
      "1jaGbOBLIQUEoTROKE,1dKbOBLIQUEoTROKE,1jaKbOBLIQUEoTROKE,1dNbOBLIQUEoTROKE",
      "1jaNbOBLIQUEoTROKE,1dRbOBLIQUEoTROKE,1jaRbOBLIQUEoTROKE,1dSbOBLIQUEoTROKE",
      "1jaSbOBLIQUEoTROKE,1dHbHOOK,3vVlSEtOPr E,3SCRIPT G,3LbBELT,3j CAPITc I,1kTTl j CAPITc Q",
      "1dTURNEtK,4T,3JbCROSSED-TAIL,3CHI,3BETA,1jaBETA,1dOMEGA,1jaOMEGA,1dUbSTROKE,1jaUbSTROKE",
      "1dGLOTTc A,1jaGLOTTc A,1dGLOTTc I,1jaGLOTTc I,1dGLOTTc U,1jaGLOTTc U,1dOLtPOLISH O",
      "1jaOLtPOLISH O,1diGLICiA W,1jaiGLICiA W,1dCbPcATc HOOK,3SbHOOK,3ZbPcATc HOOK",
      "3DbSHORToTROKE OVlLAY,1jaDbSHORToTROKE OVlLAY,1dSbSHORToTROKE OVlLAY",
      "1jaSbSHORToTROKE OVlLAY"]),
    (0xA7D0, ["0LATg dCLOSEtgSULe G,1jaCLOSEtgSULe G"]),
    (0xA7D3, ["0LATg jayUBk sORN"]),
    (0xA7D5, ["0LATg jayUBk WYNN,1dMIDDkoCOTSo,1jaMIDDkoCOTSo,1dSIGMOIDo,1jaSIGMOIDo"]),
    (0xA7F2, [
      "0MODIFIlaCAPITc C,3F,3Q,0LATg dvVlSEtHcF H,1javVlSEtHcF H,1EPIGRAPHICaSIDEWAYS I",
      "0MODIFIlaCAPITc HbSTROKE,2j LIGATUv OE,0LATgaj CAPITc TURNEtM,1EPIGRAPHICavVlSEtF,4P",
      "3gVlTEtM,3I LnGA,3eCzIC M,0SYLOu NAGRIaA,3I,2SIGN DVISVeA,2kTTl U,3E,3O,2SIGN zSiTA",
      "2kTTl KO,3KHO,3GO,3GHO,2SIGN iUSVeA,2kTTl CO,3CHO,3JO,3JHO,3TTO,3TsO,3Dy,3DDHO,3TO,3sO",
      "3y,3DHO,3NO,3PO,3PHO,3BO,3BHO,3MO,3RO,3LO,3RRO,3SO,3HO,2VOWELw A,4I,4U,4E,4OO",
      "2POETRY MeK-1,3MeK-2,3MeK-3,3MeK-4,2SIGN cTlNATE zSiTA"]),
    (0xA830, [
      "0NORs gDIC FRACun nE QUeTl,4HcF,3svE QUeTlS,3nEoIXTErs,4EfH,3svEoIXTErsS,2QUeTl MeK",
      "2PLACEHOLDl MeK,2RUPEE MeK,2QUiuTY MeK"]),
    (0xA840, [
      "0PzGS-PAaKA,2Kz,2GA,2NGA,2CA,2Cz,2JA,2NYA,2TA,2sA,2DA,2NA,2PA,2Pz,2BA,2MA,2TSA,2TSz,2DZA",
      "2WA,2Zz,2ZA,2j A,2YA,2RA,2LA,2Sz,2SA,2z,2A,2I,2U,2E,2O,2QA,2XA,2FA,2GGA,2EE,1SUBJOgEDaWA",
      "3YA,1kTTl TTA,2TsA,2DDA,2NNA,2cTlNATE YA,2VOICEkSSoz,2VOICEtz,2ASPIRATEtFA,1SUBJOgEDaRA",
      "1SUPlFIXEDaRA,1kTTl CiDRABgDU,1SgGk HEAtMeK,1yUBk HEAtMeK,1MeKozD,2yUBkozD"]),
    (0xA880, [
      "0SAURASHTRAw iUSVeA,2VISeGA,1kTTl A,2AA,2I,2II,2U,2UU,2VOCcIC R,3RR,3L,3LL,2E,2EE,2AI,2O",
      "2OO,2AU,2KA,2Kz,2GA,2Gz,2NGA,2CA,2Cz,2JA,2Jz,2NYA,2TTA,2TsA,2DDA,2DDz,2NNA,2TA,2sA,2DA",
      "2Dz,2NA,2PA,2Pz,2BA,2Bz,2MA,2YA,2RA,2LA,2VA,2Sz,2SSA,2SA,2z,2LLA,1CnSniTw zeU,1VOWELw AA",
      "3I,3II,3U,3UU,3VOCcIC R,4RR,4L,4LL,3E,3EE,3AI,3O,3OO,3AU,1SIGN VIRAMA,2CiDRABgDU"]),
    (0xA8CE, [
      "0SAURASHTRA DiDA,1yUBk DiDA,1DIGIT ZlO,2nE,2TWO,2svE,2FOUR,2FIVE,2SIX,2SEVr,2Ef,2NgE"]),
    (0xA8E0, [
      "0COMBggG DEViAGeI DIGIT ZlO,3nE,3TWO,3svE,3FOUR,3FIVE,3SIX,3SEVr,3Ef,3NgE,2kTTl A,3U,3KA",
      "3NA,3PA,3RA,3VI,2SIGN AVAGRAz,0DEViAGeIwoPACgG CiDRABgDU,2CiDRABgDU VIRAMA",
      "2yUBk CiDRABgDU VIRAMA,2CiDRABgDU TWO,3svE,3AVAGRAz,2PUSHPIKA,1GAP FILkR,1CeET",
      "1HEADSTROKE,1SIGNoIDDzM,1JAg OM,1kTTl AY,1VOWELw AY,0KAYAH LI DIGIT ZlO,3nE,3TWO,3svE",
      "3FOUR,3FIVE,3SIX,3SEVr,3Ef,3NgE,2kTTl KA,3Kz,3GA,3NGA,3SA,3Sz,3ZA,3NYA,3TA,3HTA,3NA,3PA",
      "3Pz,3MA,3DA,3BA,3RA,3YA,3LA,3WA,3sA,3z,3VA,3CA,3A,3OE,3I,3OO,2VOWEL UE,3E,3U,3EE,3O",
      "2TnE PLOPHU,3CcYA,4PLOPHU,2SIGN CWI,3SHYA,0vJiGaKA,2GA,2NGA,2TA,2DA,2NA,2PA,2BA,2MA,2CA",
      "2JA,2NYA,2SA,2RA,2LA,2YA,2WA,2z,2MBA,2NGGA,2NDA,2NYJA,2A,1VOWELw I,3U,3E,3AI,3O,3AU,3EU",
      "3EA,1CnSniTw NG,3N,3R,3H,1VIRAMA"]),
    (0xA95F, [
      "0vJiGoECun MeK,0HiGUL CHOSEnG uKEUT-MIEUM,2uKEUT-PIEUP,2uKEUT-SIOS,2uKEUT-CIEUC",
      "2RIEUL-KIYEOK,2RIEUL-SSiGKIYEOK,2RIEUL-uKEUT,2RIEUL-SSiGuKEUT,2RIEUL-MIEUM,2RIEUL-PIEUP",
      "2RIEUL-SSiGPIEUP,2RIEUL-KAPYEOUNPIEUP,2RIEUL-SIOS,2RIEUL-CIEUC,2RIEUL-KHIEUKH",
      "2MIEUM-KIYEOK,2MIEUM-uKEUT,2MIEUM-SIOS,2PIEUP-SIOS-sIEUs,2PIEUP-KHIEUKH,2PIEUP-HIEUH",
      "2SSiGSIOS-PIEUP,2IEUNG-RIEUL,2IEUNG-HIEUH,2SSiGCIEUC-HIEUH,2SSiGsIEUs,2PHIEUPH-HIEUH",
      "2HIEUH-SIOS,2SSiGYEORgHIEUH"]),
    (0xA980, [
      "0JAViESEw PiYiGGA,2CECAK,2LAYe,2WIGNYi,1kTTl A,2I KAWI,2I,2II,2U,2PA ClEK,2NGA kkT",
      "4RASWADI,2E,2AI,2O,2KA,3SASAK,3MURDA,2GA,3MURDA,2NGA,2CA,3MURDA,2JA,2NYA MURDA",
      "2JA MAzPRiA,2NYA,2TTA,3MAzPRiA,2DDA,3MAzPRiA,2NA MURDA,2TA,3MURDA,2DA,3MAzPRiA,2NA,2PA",
      "3MURDA,2BA,3MURDA,2MA,2YA,2RA,3AGUNG,2LA,2WA,2SA MURDA,3MAzPRiA,2SA,2z,1SIGN CECAK TELU",
      "1VOWELw TeUNG,3TOLnG,3WULU,4MELIK,3SUKU,4MrDUT,3TcgG,3DIRGA MUv,3PEPET,1CnSniTw KlET",
      "3PrGKc,3CAKRA,1PiGKn,1kFT RlrGGi,1Rf RlrGGi,1PADA iDAP,2MADYA,2LUHUR,2WgDU,2PiGKAT",
      "2LgGSA,2LUNGSI,2ADEG,3ADEG,2PISEkH,1TURNEtPADA PISEkH"]),
    (0xA9CF, ["0JAViESE PiGRiGKEP,1DIGIT ZlO,2nE,2TWO,2svE,2FOUR,2FIVE,2SIX,2SEVr,2Ef,2NgE"]),
    (0xA9DE, [
      "0JAViESE PADA uRTA TUMETES,2ISr-ISr,0MYiMeaSHi Gz,3Cz,3Jz,3NNA,3Bz,1SIGNoHioAW",
      "1MODIFIlaSHi vDUPLICAun,1kTTl TAI LAgG NYA,4FA,4GA,4Gz,4JA,4Jz,4DDA,4DDz,4NNA",
      "1TAI LAgG DIGIT ZlO,4nE,4TWO,4svE,4FOUR,4FIVE,4SIX,4SEVr,4Ef,4NgE,1kTTl TAI LAgG LLA,4DA",
      "4Dz,4BA,4Bz"]),
    (0xAA00, [
      "0CzMaA,2I,2U,2E,2AI,2O,2KA,2Kz,2GA,2Gz,2NGUE,2NGA,2Cz,2CHz,2JA,2Jz,2NHUE,2Nz,2NHJA,2TA",
      "2sA,2DA,2Dz,2NUE,2NA,2DDA,2PA,2PPA,2Pz,2BA,2Bz,2MUE,2MA,2BBA,2YA,2RA,2LA,2VA,2SSA,2SA,2z",
      "1VOWELw AA,3I,3II,3EI,3U,3OE,3O,3AI,3AU,3UE,1CnSniTw YA,3RA,3LA,3WA"]),
    (0xAA40, [
      "0CzMaFgc K,3G,3NG,1CnSniTw Fgc NG,1kTTl Fgc CH,3T,3N,3P,3Y,3R,3L,3SS,1CnSniTw Fgc M,4H"]),
    (0xAA50, ["0CzM DIGIT ZlO,2nE,2TWO,2svE,2FOUR,2FIVE,2SIX,2SEVr,2Ef,2NgE"]),
    (0xAA5C, [
      "0CzM PUNCTUAunoPIRc,2DiDA,2yUBk DiDA,2TRIPk DiDA,0MYiMeaKzMu GA,3CA,3Cz,3JA,3Jz,3NYA",
      "3TTA,3TsA,3DDA,3DDz,3Dz,3NA,3SA,3z,3Hz,3FA,1MODIFIlaKzMu vDUPLICAun,1kTTl KzMu XA,3ZA",
      "3RA,1LOGOGRAM KzMu OAY,3QN,3HM,1SYMBOL AITn EXCLAMAun,3nE,3TWO,1kTTl AITn RA",
      "1SIGN PAO Ker TnE,2TAI LAgG TnE-2,4TnE-5,1kTTloHWE PcAUNG Cz,4Sz,0TAI VIETaLOW KO",
      "3HIGH KO,3LOW KHO,3HIGH KHO,3LOW KHHO,3HIGH KHHO,3LOW GO,3HIGH GO,3LOW NGO,3HIGH NGO",
      "3LOW CO,3HIGH CO,3LOW CHO,3HIGH CHO,3LOWoO,3HIGHoO,3LOW NYO,3HIGH NYO,3LOW y,3HIGH y",
      "3LOW TO,3HIGH TO,3LOW sO,3HIGH sO,3LOW NO,3HIGH NO,3LOW BO,3HIGH BO,3LOW PO,3HIGH PO",
      "3LOW PHO,3HIGH PHO,3LOW FO,3HIGH FO,3LOW MO,3HIGH MO,3LOW YO,3HIGH YO,3LOW RO,3HIGH RO",
      "3LOW LO,3HIGH LO,3LOW VO,3HIGH VO,3LOW HO,3HIGH HO,3LOW O,3HIGH O,2MAI KiG,2VOWEL AA,3I",
      "3UE,3U,3E,3O,2MAI KHIT,2VOWEL IA,3UEA,3UA,3AUE,3AY,3i,3AM,2TnE MAI EK,4NUrG,4sO,4SnG"]),
    (0xAADB, [
      "0TAI VIEToYMBOL Kn,3NUrG,3SAM,3HO HOI,3KOI KOI,0MEETEI MAYEKaE,3O,3Cz,3NYA,3TTA,3TsA",
      "3DDA,3DDz,3NNA,3Sz,3SSA,2VOWELw II,4UU,4AAI,4AU,4AAU,2CHEIKHi,2AHiG KHUDAM,2iJI",
      "2SYLLABk vPEuun MeK,2WORtvPEuun MeK,2VOWELw VISeGA,2VIRAMA"]),
    (0xAB01, ["0EsIOPICoYLLABk TsU,2TsI,2TsAA,2TsEE,2TsE,2TsO"]),
    (0xAB09, ["0EsIOPICoYLLABk DDHU,2DDHI,2DDzA,2DDHEE,2DDHE,2DDHO"]),
    (0xAB11, ["0EsIOPICoYLLABk DZU,2DZI,2DZAA,2DZEE,2DZE,2DZO"]),
    (0xAB20, ["0EsIOPICoYLLABk CCHz,2CCHHU,2CCHHI,2CCHzA,2CCHHEE,2CCHHE,2CCHHO"]),
    (0xAB28, ["0EsIOPICoYLLABk BBA,2BBU,2BBI,2BBAA,2BBEE,2BBE,2BBO"]),
    (0xAB30, [
      "0LATg jaBevtcPz,3A vVlSED-SCHWA,3BLACKkTTl E,3BevtE,3EbFLOURISH,3kNIS F",
      "3SCRIPT GbCROSSED-TAIL,3LbgVlTEtLAZYo,5yUBk MIDDk uLDE,5MIDDk RgG,3MbCROSSED-TAIL",
      "3NbCROSSED-TAIL,3rGbCROSSED-TAIL,3BLACKkTTl O,5WIsoTROKE,3OPr ObSTROKE,3gVlTEtOE",
      "3TURNEtOEbSTROKE,6HORIZnTcoTROKE,4O OPr-O,6WIsoTROKE,3SuRRUP R,1kTTl j CAPITc RbRf kG",
      "1jaR WIsOUT HiDk,3yUBk R,3RbCROSSED-TAIL,3yUBk RbCROSSED-TAIL,3SCRIPT R,5WIs RgG",
      "3BASELgE ESH,3UbSHORT Rf kG,4BebSHORT Rf kG,3UI,3TURNEtUI,3UbkFT HOOK,3CHI",
      "4WIs LOW Rf RgG,6kFTolIF,3XbLOW Rf RgG,5LnG kFT kG,8itLOW Rf RgG,8WIsolIF,3YbSHORT Rf kG",
      "0MODIFIl BvVEbgVlTEtBvVE,1kTTl j HrG,3LbgVlTEtLAZYo,5MIDDk uLDE,3UbkFT HOOK",
      "0LATg jaSAKz YAT,3IOuFIEtE,3OPr OE,3UO,3gVlTEtcPz,0GvEKaj CAPITc OMEGA",
      "0LATg jaDZ DIGRAPHbvTROFkX HOOK,3TS DIGRAPHbvTROFkX HOOK,3TURNEtRbMIDDk uLDE",
      "0MODIFIlaj TURNEtW,2kFT TACK,2Rf TACK"]),
    (0xAB70, [
      "0CHlOKEE jaA,3E,3I,3O,3U,3V,3GA,3KA,3GE,3GI,3GO,3GU,3GV,3z,3HE,3HI,3HO,3HU,3HV,3LA,3k",
      "3LI,3LO,3LU,3LV,3MA,3ME,3MI,3MO,3MU,3NA,3HNA,3NAH,3NE,3NI,3NO,3NU,3NV,3QUA,3QUE,3QUI",
      "3QUO,3QUU,3QUV,3SA,3S,3SE,3SI,3SO,3SU,3SV,3DA,3TA,3DE,3TE,3DI,3u,3y,3DU,3DV,3DLA,3TLA",
      "3Tk,3TLI,3TLO,3TLU,3TLV,3TSA,3TSE,3TSI,3TSO,3TSU,3TSV,3WA,3WE,3WI,3WO,3WU,3WV,3YA",
      "0MEETEI MAYEKaKOK,3SAM,3LAI,3MIT,3PA,3NA,3CHIL,3uL,3KHOU,3NGOU,3sOU,3WAI,3YiG,3HUK,3UN",
      "3I,3PzM,3AuYA,3GOK,3JzM,3RAI,3BA,3JIL,3DIL,3GHOU,3DHOU,3BzM,3KOK LnSUM,3LAI LnSUM",
      "3MIT LnSUM,3PA LnSUM,3NA LnSUM,3uL LnSUM,3NGOU LnSUM,3I LnSUM,2VOWELw nAP,4gAP,4iAP",
      "4YrAP,4SOUNAP,4UNAP,4CHEgAP,4NUNG,2CHEIKHEI,2LUM IYEK,2APUN IYEK"]),
    (0xABF0, ["0MEETEI MAYEK DIGIT ZlO,3nE,3TWO,3svE,3FOUR,3FIVE,3SIX,3SEVr,3Ef,3NgE"]),
    (0xD7B0, [
      "0HiGUL JUNGSEnG O-YEO,2O-O-I,2YO-A,2YO-AE,2YO-EO,2U-YEO,2U-I-I,2YU-AE,2YU-O,2EU-A,2EU-EO",
      "2EU-E,2EU-O,2I-YA-O,2I-YAE,2I-YEO,2I-YE,2I-O-I,2I-YO,2I-YU,2I-I,2eAEA-A,2eAEA-E"]),
    (0xD7CB, [
      "0HiGUL JnGSEnG NIEUN-RIEUL,2NIEUN-CHIEUCH,2SSiGuKEUT,2SSiGuKEUT-PIEUP,2uKEUT-PIEUP",
      "2uKEUT-SIOS,2uKEUT-SIOS-KIYEOK,2uKEUT-CIEUC,2uKEUT-CHIEUCH,2uKEUT-sIEUs",
      "2RIEUL-SSiGKIYEOK,2RIEUL-KIYEOK-HIEUH,2SSiGRIEUL-KHIEUKH,2RIEUL-MIEUM-HIEUH",
      "2RIEUL-PIEUP-uKEUT,2RIEUL-PIEUP-PHIEUPH,2RIEUL-YESIEUNG,2RIEUL-YEORgHIEUH-HIEUH",
      "2KAPYEOUNRIEUL,2MIEUM-NIEUN,2MIEUM-SSiGNIEUN,2SSiGMIEUM,2MIEUM-PIEUP-SIOS,2MIEUM-CIEUC",
      "2PIEUP-uKEUT,2PIEUP-RIEUL-PHIEUPH,2PIEUP-MIEUM,2SSiGPIEUP,2PIEUP-SIOS-uKEUT,2PIEUP-CIEUC",
      "2PIEUP-CHIEUCH,2SIOS-MIEUM,2SIOS-KAPYEOUNPIEUP,2SSiGSIOS-KIYEOK,2SSiGSIOS-uKEUT",
      "2SIOS-PiSIOS,2SIOS-CIEUC,2SIOS-CHIEUCH,2SIOS-sIEUs,2SIOS-HIEUH,2PiSIOS-PIEUP",
      "2PiSIOS-KAPYEOUNPIEUP,2YESIEUNG-MIEUM,2YESIEUNG-HIEUH,2CIEUC-PIEUP,2CIEUC-SSiGPIEUP",
      "2SSiGCIEUC,2PHIEUPH-SIOS,2PHIEUPH-sIEUs"]),
    (0xFB00, ["0LATg j LIGATUv FF,3FI,3FL,3FFI,3FFL,3LnGo T,3ST"]),
    (0xFB13, ["0eMrIi j LIGATUv Mr NOW,4ECH,4gI,3VEW NOW,3Mr XEH"]),
    (0xFB1D, [
      "0HEBvWaYODbHIRIQ,1POgT JUDEO-SPiISH VeIKA,1LIGATUv YIDDISH YOtYOtPATAH",
      "1kTTl cTlNAuVE AYg,2WIDE cEF,3DcET,3HE,3KAF,3LAMED,3Fgc MEM,3vSH,3TAV,2cTlNAuVE PLUSw",
      "2SHgbSHg yT,4Sg yT,4DAGESH iDoHg yT,6Sg yT,2cEFbPATAH,4QAMATS,4MAPIQ,2BETbDAGESH",
      "2GIMELbDAGESH,2DcETbDAGESH,2HEbMAPIQ,2VAVbDAGESH,2ZAYgbDAGESH"]),
    (0xFB38, ["0HEBvWaTETbDAGESH,2YODbDAGESH,2Fgc KAFbDAGESH,2KAFbDAGESH,2LAMEDbDAGESH"]),
    (0xFB3E, ["0HEBvWaMEMbDAGESH"]),
    (0xFB40, ["0HEBvWaNUNbDAGESH,2SAMEKHbDAGESH"]),
    (0xFB43, ["0HEBvWaFgc PEbDAGESH,2PEbDAGESH"]),
    (0xFB46, [
      "0HEBvWaTSADIbDAGESH,2QOFbDAGESH,2vSHbDAGESH,2SHgbDAGESH,2TAVbDAGESH,2VAVbHOLAM,2BETbRAFE",
      "2KAFbRAFE,2PEbRAFE,1LIGATUv cEF LAMED,0eABICacEF WASLAp,4Fgch,2BEEHp,3Fgch,3gIuch",
      "3MEDIch,2PEHp,3Fgch,3gIuch,3MEDIch,2BEHEHp,3Fgch,3gIuch,3MEDIch,2TTEHEHp,3Fgch,3gIuch",
      "3MEDIch,2TEHEHp,3Fgch,3gIuch,3MEDIch,2TTEHp,3Fgch,3gIuch,3MEDIch,2VEHp,3Fgch,3gIuch",
      "3MEDIch,2PEHEHp,3Fgch,3gIuch,3MEDIch,2DYEHp,3Fgch,3gIuch,3MEDIch,2NYEHp,3Fgch,3gIuch",
      "3MEDIch,2TCHEHp,3Fgch,3gIuch,3MEDIch,2TCHEHEHp,3Fgch,3gIuch,3MEDIch,2DDAHcp,3Fgch,2DAHcp",
      "3Fgch,2DULp,3Fgch,2DDcp,3Fgch,2JEHp,3Fgch,2RvHp,3Fgch,2KEHEHp,3Fgch,3gIuch,3MEDIch,2GAFp",
      "3Fgch,3gIuch,3MEDIch,2GUEHp,3Fgch,3gIuch,3MEDIch,2NGOEHp,3Fgch,3gIuch,3MEDIch",
      "2NOn GHUNNAp,4Fgch,2RNOnp,3Fgch,3gIuch,3MEDIch,2HEHbYEHqp,6Fgch,3GOcp,4Fgch,4gIuch",
      "4MEDIch,3yACzSHMEEp,4Fgch,4gIuch,4MEDIch,2YEH BevEp,4Fgch,4WIs zMZAqp,7Fgch,1SYMBOL yTq",
      "3BELOW,2TWO yTSq,4BELOW,2svE yTSq,4BELOW,4POgTgG yWNxq,6BELOW,2FOUR yTSq,4BELOW",
      "2yUBk VluCc Be BELOW,2TWO yTS VluCcLYq,5BELOW,2RgG,2j TAHq,4BELOW,2WASLAq"]),
    (0xFBD3, [
      "0eABICaNGp,3Fgch,3gIuch,3MEDIch,2Up,3Fgch,2OEp,3Fgch,2YUp,3Fgch,2UbzMZAqp,2VEp,3Fgch",
      "2KIRGHIZ OEp,4Fgch,3YUp,4Fgch,2Ep,3Fgch,3gIuch,3MEDIch",
      "2UIGHUR KAZAKH KIRGHIZ cEF MAKSURA gIuch,7MEDIch,1LIGATUv YEHbzMZAqbcEFp,8Fgch,7AEp",
      "8Fgch,7WAWp,8Fgch,7Up,8Fgch,7OEp,8Fgch,7YUp,8Fgch,7Ep,8Fgch,8gIuch",
      "2UIGHUR KIRGHIZ YEHbzMZAqbcEF MAKSURAp,BFgch,BgIuch,1kTTl FeSI YEHp,4Fgch,4gIuch,4MEDIch",
      "1LIGATUv YEHbzMZAqbJEEMp,7zHp,7MEEMp,7cEF MAKSURAp,7YEHp,2BEHbJEEMp,4zHp,4KzHp,4MEEMp",
      "4cEF MAKSURAp,4YEHp,2TEHbJEEMp,4zHp,4KzHp,4MEEMp,4cEF MAKSURAp,4YEHp,2sEHbJEEMp,4MEEMp",
      "4cEF MAKSURAp,4YEHp,2JEEMbzHp,4MEEMp,2zHbJEEMp,4MEEMp,2KzHbJEEMp,4zHp,4MEEMp,2SErbJEEMp",
      "4zHp,4KzHp,4MEEMp,2SADbzHp,4MEEMp,2DADbJEEMp,4zHp,4KzHp,4MEEMp,2TAHbzHp,4MEEMp",
      "2ZAHbMEEMp,2AgbJEEMp,4MEEMp,2GzgbJEEMp,4MEEMp,2FEHbJEEMp,4zHp,4KzHp,4MEEMp,4cEF MAKSURAp",
      "4YEHp,2QAFbzHp,4MEEMp,4cEF MAKSURAp,4YEHp,2KAFbcEFp,4JEEMp,4zHp,4KzHp,4LAMp,4MEEMp",
      "4cEF MAKSURAp,4YEHp,2LAMbJEEMp,4zHp,4KzHp,4MEEMp,4cEF MAKSURAp,4YEHp,2MEEMbJEEMp,4zHp",
      "4KzHp,4MEEMp,4cEF MAKSURAp,4YEHp,2NOnbJEEMp,4zHp,4KzHp,4MEEMp,4cEF MAKSURAp,4YEHp",
      "2HEHbJEEMp,4MEEMp,4cEF MAKSURAp,4YEHp,2YEHbJEEMp,4zHp,4KzHp,4MEEMp,4cEF MAKSURAp,4YEHp",
      "2scbSUPlSCRIPT cEFp,2vHbSUPlSCRIPT cEFp,2cEF MAKSURAbSUPlSCRIPT cEFp,2SzDDAbDAMMATip",
      "4KASRATip,4FAsAp,4DAMMAp,4KASRAp,4SUPlSCRIPT cEFp,2YEHbzMZAqbvH Fgch,7ZAg Fgch",
      "7MEEM Fgch,7NOn Fgch,7cEF MAKSURA Fgch,7YEH Fgch,2BEHbvH Fgch,4ZAg Fgch,4MEEM Fgch",
      "4NOn Fgch,4cEF MAKSURA Fgch,4YEH Fgch,2TEHbvH Fgch,4ZAg Fgch,4MEEM Fgch,4NOn Fgch",
      "4cEF MAKSURA Fgch,4YEH Fgch,2sEHbvH Fgch,4ZAg Fgch,4MEEM Fgch,4NOn Fgch",
      "4cEF MAKSURA Fgch,4YEH Fgch,2FEHbcEF MAKSURA Fgch,4YEH Fgch,2QAFbcEF MAKSURA Fgch",
      "4YEH Fgch,2KAFbcEF Fgch,4LAM Fgch,4MEEM Fgch,4cEF MAKSURA Fgch,4YEH Fgch,2LAMbMEEM Fgch",
      "4cEF MAKSURA Fgch,4YEH Fgch,2MEEMbcEF Fgch,4MEEM Fgch,2NOnbvH Fgch,4ZAg Fgch,4MEEM Fgch",
      "4NOn Fgch,4cEF MAKSURA Fgch,4YEH Fgch,2cEF MAKSURAbSUPlSCRIPT cEF Fgch,2YEHbvH Fgch",
      "4ZAg Fgch,4MEEM Fgch,4NOn Fgch,4cEF MAKSURA Fgch,4YEH Fgch,4zMZAqbJEEM gIuch,7zH gIuch",
      "7KzH gIuch,7MEEM gIuch,7HEH gIuch,2BEHbJEEM gIuch,4zH gIuch,4KzH gIuch,4MEEM gIuch",
      "4HEH gIuch,2TEHbJEEM gIuch,4zH gIuch,4KzH gIuch,4MEEM gIuch,4HEH gIuch,2sEHbMEEM gIuch",
      "2JEEMbzH gIuch,4MEEM gIuch,2zHbJEEM gIuch,4MEEM gIuch,2KzHbJEEM gIuch,4MEEM gIuch",
      "2SErbJEEM gIuch,4zH gIuch,4KzH gIuch,4MEEM gIuch,2SADbzH gIuch,4KzH gIuch,4MEEM gIuch",
      "2DADbJEEM gIuch,4zH gIuch,4KzH gIuch,4MEEM gIuch,2TAHbzH gIuch,2ZAHbMEEM gIuch",
      "2AgbJEEM gIuch,4MEEM gIuch,2GzgbJEEM gIuch,4MEEM gIuch,2FEHbJEEM gIuch,4zH gIuch",
      "4KzH gIuch,4MEEM gIuch,2QAFbzH gIuch,4MEEM gIuch,2KAFbJEEM gIuch,4zH gIuch,4KzH gIuch",
      "4LAM gIuch,4MEEM gIuch,2LAMbJEEM gIuch,4zH gIuch,4KzH gIuch,4MEEM gIuch,4HEH gIuch",
      "2MEEMbJEEM gIuch,4zH gIuch,4KzH gIuch,4MEEM gIuch,2NOnbJEEM gIuch,4zH gIuch,4KzH gIuch",
      "4MEEM gIuch,4HEH gIuch,2HEHbJEEM gIuch,4MEEM gIuch,4SUPlSCRIPT cEF gIuch,2YEHbJEEM gIuch",
      "4zH gIuch,4KzH gIuch,4MEEM gIuch,4HEH gIuch,4zMZAqbMEEM MEDIch,7HEH MEDIch",
      "2BEHbMEEM MEDIch,4HEH MEDIch,2TEHbMEEM MEDIch,4HEH MEDIch,2sEHbMEEM MEDIch,4HEH MEDIch",
      "2SErbMEEM MEDIch,4HEH MEDIch,2SHErbMEEM MEDIch,4HEH MEDIch,2KAFbLAM MEDIch,4MEEM MEDIch",
      "2LAMbMEEM MEDIch,2NOnbMEEM MEDIch,4HEH MEDIch,2YEHbMEEM MEDIch,4HEH MEDIch",
      "2SzDDAbFAsA MEDIch,4DAMMA MEDIch,4KASRA MEDIch,2TAHbcEF MAKSURAp,4YEHp,2AgbcEF MAKSURAp",
      "4YEHp,2GzgbcEF MAKSURAp,4YEHp,2SErbcEF MAKSURAp,4YEHp,2SHErbcEF MAKSURAp,4YEHp",
      "2zHbcEF MAKSURAp,4YEHp,2JEEMbcEF MAKSURAp,4YEHp,2KzHbcEF MAKSURAp,4YEHp",
      "2SADbcEF MAKSURAp,4YEHp,2DADbcEF MAKSURAp,4YEHp,2SHErbJEEMp,4zHp,4KzHp,4MEEMp,4vHp",
      "2SErbvHp,2SADbvHp,2DADbvHp,2TAHbcEF MAKSURA Fgch,4YEH Fgch,2AgbcEF MAKSURA Fgch",
      "4YEH Fgch,2GzgbcEF MAKSURA Fgch,4YEH Fgch,2SErbcEF MAKSURA Fgch,4YEH Fgch",
      "2SHErbcEF MAKSURA Fgch,4YEH Fgch,2zHbcEF MAKSURA Fgch,4YEH Fgch,2JEEMbcEF MAKSURA Fgch",
      "4YEH Fgch,2KzHbcEF MAKSURA Fgch,4YEH Fgch,2SADbcEF MAKSURA Fgch,4YEH Fgch",
      "2DADbcEF MAKSURA Fgch,4YEH Fgch,2SHErbJEEM Fgch,4zH Fgch,4KzH Fgch,4MEEM Fgch,4vH Fgch",
      "2SErbvH Fgch,2SADbvH Fgch,2DADbvH Fgch,2SHErbJEEM gIuch,4zH gIuch,4KzH gIuch,4MEEM gIuch",
      "2SErbHEH gIuch,2SHErbHEH gIuch,2TAHbMEEM gIuch,2SErbJEEM MEDIch,4zH MEDIch,4KzH MEDIch",
      "2SHErbJEEM MEDIch,4zH MEDIch,4KzH MEDIch,2TAHbMEEM MEDIch,2ZAHbMEEM MEDIch",
      "2cEFbFAsATi Fgch,5ISOLATEDh,0ORNATE kFT PersESIS,1Rf PersESIS",
      "0eABIC LIGATUv RAHIMAHU cLAAH,2RADI cLAAHU iH,4izA,4iHUM,4iHUMAA,4iHUNNA",
      "2ScLcLAAHU cAYHI WA-AcIH,2cAYHI AS-ScAAM,2cAYHIM AS-ScAAM,2cAYHIMAA AS-ScAAM",
      "2cAYHI AS-ScAATU WAS-ScAAM,2QUDDISAoIRRAH,2ScLcLAHU cAYHI WAAcIHEE WA-ScLAM",
      "2cAYzA AS-ScAAM,2TABAeAKA WA-TAAcAA,2RAHIMAHUM cLAAH,2TEHbJEEMbMEEM gIuch,4zHbJEEM Fgch",
      "7gIuch,6MEEM gIuch,4KzHbMEEM gIuch,4MEEMbJEEM gIuch,6zH gIuch,6KzH gIuch",
      "2JEEMbMEEMbzH Fgch,7gIuch,2zHbMEEMbYEH Fgch,6cEF MAKSURA Fgch,2SErbzHbJEEM gIuch",
      "4JEEMbzH gIuch,6cEF MAKSURA Fgch,4MEEMbzH Fgch,7gIuch,6JEEM gIuch,6MEEM Fgch,7gIuch",
      "2SADbzHbzH Fgch,7gIuch,4MEEMbMEEM Fgch,2SHErbzHbMEEM Fgch,7gIuch,4JEEMbYEH Fgch",
      "4MEEMbKzH Fgch,7gIuch,6MEEM Fgch,7gIuch,2DADbzHbcEF MAKSURA Fgch,4KzHbMEEM Fgch,7gIuch",
      "2TAHbMEEMbzH Fgch,7gIuch,6MEEM gIuch,6YEH Fgch,2AgbJEEMbMEEM Fgch,4MEEMbMEEM Fgch,7gIuch",
      "6cEF MAKSURA Fgch,2GzgbMEEMbMEEM Fgch,6YEH Fgch,6cEF MAKSURA Fgch,2FEHbKzHbMEEM Fgch",
      "7gIuch,2QAFbMEEMbzH Fgch,6MEEM Fgch,2LAMbzHbMEEM Fgch,6YEH Fgch,6cEF MAKSURA Fgch",
      "4JEEMbJEEM gIuch,7Fgch,4KzHbMEEM Fgch,7gIuch,4MEEMbzH Fgch,7gIuch,2MEEMbzHbJEEM gIuch",
      "6MEEM gIuch,6YEH Fgch,4JEEMbzH gIuch,6MEEM gIuch,4KzHbJEEM gIuch,6MEEM gIuch"]),
    (0xFD92, [
      "0eABIC LIGATUv MEEMbJEEMbKzH gIuch,2HEHbMEEMbJEEM gIuch,6MEEM gIuch,2NOnbzHbMEEM gIuch",
      "6cEF MAKSURA Fgch,4JEEMbMEEM Fgch,7gIuch,6cEF MAKSURA Fgch,4MEEMbYEH Fgch",
      "6cEF MAKSURA Fgch,2YEHbMEEMbMEEM Fgch,7gIuch,2BEHbKzHbYEH Fgch,2TEHbJEEMbYEH Fgch",
      "6cEF MAKSURA Fgch,4KzHbYEH Fgch,6cEF MAKSURA Fgch,4MEEMbYEH Fgch,6cEF MAKSURA Fgch",
      "2JEEMbMEEMbYEH Fgch,4zHbcEF MAKSURA Fgch,4MEEMbcEF MAKSURA Fgch",
      "2SErbKzHbcEF MAKSURA Fgch,2SADbzHbYEH Fgch,2SHErbzHbYEH Fgch,2DADbzHbYEH Fgch",
      "2LAMbJEEMbYEH Fgch,4MEEMbYEH Fgch,2YEHbzHbYEH Fgch,4JEEMbYEH Fgch,4MEEMbYEH Fgch",
      "2MEEMbMEEMbYEH Fgch,2QAFbMEEMbYEH Fgch,2NOnbzHbYEH Fgch,2QAFbMEEMbzH gIuch",
      "2LAMbzHbMEEM gIuch,2AgbMEEMbYEH Fgch,2KAFbMEEMbYEH Fgch,2NOnbJEEMbzH gIuch",
      "2MEEMbKzHbYEH Fgch,2LAMbJEEMbMEEM gIuch,2KAFbMEEMbMEEM Fgch,2LAMbJEEMbMEEM Fgch",
      "2NOnbJEEMbzH Fgch,2JEEMbzHbYEH Fgch,2zHbJEEMbYEH Fgch,2MEEMbJEEMbYEH Fgch",
      "2FEHbMEEMbYEH Fgch,2BEHbzHbYEH Fgch,2KAFbMEEMbMEEM gIuch,2AgbJEEMbMEEM gIuch",
      "2SADbMEEMbMEEM gIuch,2SErbKzHbYEH Fgch,2NOnbJEEMbYEH Fgch"]),
    (0xFDCF, ["0eABIC LIGATUvocAAMUHU cAYNAA"]),
    (0xFDF0, [
      "0eABIC LIGATUvocLA USEtAS KORiICoTOPwp,2QcA USEtAS KORiICoTOPwp,2cLAHp,2AKBep,2MOzMMADp",
      "2ScAMp,2RASOULp,2cAYHEp,2WAScLAMp,2ScLAp,2ScLcLAHOU cAYHE WAScLAM,2JcLAJccOUHOU,0RIcw",
      "0eABIC LIGATUv BISMILLAH e-RAHMi e-RAHEEM,2SUBziAHU WA TAAcAA,2AZZA WA JcL"]),
    (0xFE10, [
      "0PvSrTAunh FOR VluCc COMMA,4IDEOGRAPHIC COMMA,5FULLoTOP,4COLn,4SEMICOLn,4EXCLAMAun MeK",
      "4QUESun MeK,4kFT WHITE kNuCULe BRACKET,4Rf WHITE kNuCULe BRAKCET,4HORIZnTc ELLIPSIS"]),
    (0xFE20, [
      "0COMBggG LIGATUv kFT HcF,2Rf HcF,1yUBk uLDE kFT HcF,3Rf HcF,1MACRn kFT HcF,2Rf HcF",
      "1CnJOggG MACRn,1LIGATUv kFT HcF BELOW,2Rf HcF BELOW,1uLDE kFT HcF BELOW,2Rf HcF BELOW",
      "1MACRn kFT HcF BELOW,2Rf HcF BELOW,1CnJOggG MACRn BELOW,1CYRILLIC uTLO kFT HcF,3Rf HcF",
      "0PvSrTAunh FOR VluCc TWO yT kADl,4EM DASH,4r DASH,4LOW LgE,4WAVY LOW LgE,4kFT PersESIS",
      "4Rf PersESIS,4kFT CURLY BRACKET,4Rf CURLY BRACKET,4kFT TORTOISEoHELL BRACKET",
      "4Rf TORTOISEoHELL BRACKET,4kFT BLACK kNuCULe BRACKET,4Rf BLACK kNuCULe BRACKET",
      "4kFT yUBk iGk BRACKET,4Rf yUBk iGk BRACKET,4kFT iGk BRACKET,4Rf iGk BRACKET",
      "4kFT CORNl BRACKET,4Rf CORNl BRACKET,4kFT WHITE CORNl BRACKET,4Rf WHITE CORNl BRACKET",
      "0SESAME yT,0WHITEoESAME yT,0PvSrTAunh FOR VluCc kFToQUeE BRACKET,4RfoQUeE BRACKET",
      "0DASHEtOVlLgE,0CrTvLgE OVlLgE,0WAVY OVlLgE,0yUBk WAVY OVlLgE,0DASHEtLOW LgE",
      "0CrTvLgE LOW LgE,0WAVY LOW LgE,0j COMMA,1IDEOGRAPHIC COMMA,1FULLoTOP"]),
    (0xFE54, [
      "0joEMICOLn,1COLn,1QUESun MeK,1EXCLAMAun MeK,1EM DASH,1kFT PersESIS,1Rf PersESIS",
      "1kFT CURLY BRACKET,1Rf CURLY BRACKET,1kFT TORTOISEoHELL BRACKET",
      "1Rf TORTOISEoHELL BRACKET,1NUMBlw,1AMPlSiD,1ASTlISK,1PLUSw,1HYPHr-MgUS,1kSS-siw",
      "1GvATl-siw,1EQUcSw"]),
    (0xFE68, ["0j vVlSEoOLIDUS,1yLLew,1PlCrTw,1COMMlCIc AT"]),
    (0xFE70, ["0eABIC FAsATip,1TATWEELbFAsATiq,1DAMMATip,1TAIL FRAGMrT,1KASRATip"]),
    (0xFE76, [
      "0eABIC FAsAp,2MEDIch,1DAMMAp,2MEDIch,1KASRAp,2MEDIch,1SzDDAp,2MEDIch,1SUKUNp,2MEDIch",
      "1kTTl zMZAp,2cEFbMADDAqp,6Fgch,4zMZAqp,6Fgch,2WAWbzMZAqp,6Fgch,2cEFbzMZA BELOWp,6Fgch",
      "2YEHbzMZAqp,6Fgch,6gIuch,6MEDIch,2cEFp,3Fgch,2BEHp,3Fgch,3gIuch,3MEDIch,2TEH MeBUTAp",
      "4Fgch,3ISOLATEDh,3Fgch,3gIuch,3MEDIch,2sEHp,3Fgch,3gIuch,3MEDIch,2JEEMp,3Fgch,3gIuch",
      "3MEDIch,2zHp,3Fgch,3gIuch,3MEDIch,2KzHp,3Fgch,3gIuch,3MEDIch,2Dcp,3Fgch,2scp,3Fgch,2vHp",
      "3Fgch,2ZAgp,3Fgch,2SErp,3Fgch,3gIuch,3MEDIch,2SHErp,3Fgch,3gIuch,3MEDIch,2SADp,3Fgch",
      "3gIuch,3MEDIch,2DADp,3Fgch,3gIuch,3MEDIch,2TAHp,3Fgch,3gIuch,3MEDIch,2ZAHp,3Fgch,3gIuch",
      "3MEDIch,2Agp,3Fgch,3gIuch,3MEDIch,2Gzgp,3Fgch,3gIuch,3MEDIch,2FEHp,3Fgch,3gIuch,3MEDIch",
      "2QAFp,3Fgch,3gIuch,3MEDIch,2KAFp,3Fgch,3gIuch,3MEDIch,2LAMp,3Fgch,3gIuch,3MEDIch,2MEEMp",
      "3Fgch,3gIuch,3MEDIch,2NOnp,3Fgch,3gIuch,3MEDIch,2HEHp,3Fgch,3gIuch,3MEDIch,2WAWp,3Fgch",
      "2cEF MAKSURAp,4Fgch,2YEHp,3Fgch,3gIuch,3MEDIch,1LIGATUv LAMbcEFbMADDAqp,8Fgch,6zMZAqp",
      "8Fgch,7BELOWp,8Fgch,5ISOLATEDh,5Fgch"]),
    (0xFEFF, ["0ZlO WIDs NO-BvAKoPACE"]),
    (0xFF01, [
      "0FULLWIDs EXCLAMAun MeK,1QUOTAun MeK,1NUMBlw,1yLLew,1PlCrTw,1AMPlSiD,1APOSTROPHE",
      "1kFT PersESIS,1Rf PersESIS,1ASTlISK,1PLUSw,1COMMA,1HYPHr-MgUS,1FULLoTOP,1SOLIDUS",
      "1DIGIT ZlO,2nE,2TWO,2svE,2FOUR,2FIVE,2SIX,2SEVr,2Ef,2NgE,1COLn,1SEMICOLn,1kSS-siw",
      "1EQUcSw,1GvATl-siw,1QUESun MeK,1COMMlCIc AT,1LATg dA,4B,4C,4D,4E,4F,4G,4H,4I,4J,4K,4L,4M",
      "4N,4O,4P,4Q,4R,4S,4T,4U,4V,4W,4X,4Y,4Z,1kFToQUeE BRACKET,1vVlSEoOLIDUS,1RfoQUeE BRACKET",
      "1CIRCUMFkX ACCrT,1LOW LgE,1GRAVE ACCrT,1LATg jaA,4B,4C,4D,4E,4F,4G,4H,4I,4J,4K,4L,4M,4N",
      "4O,4P,4Q,4R,4S,4T,4U,4V,4W,4X,4Y,4Z,1kFT CURLY BRACKET,1VluCc LgE,1Rf CURLY BRACKET",
      "1uLDE,1kFT WHITE PersESIS,1Rf WHITE PersESIS,0HcFWIDs IDEOGRAPHIC FULLoTOP",
      "1kFT CORNl BRACKET,1Rf CORNl BRACKET,1IDEOGRAPHIC COMMA,1KATAKiA MIDDk yT,2kTTl WO,3j A",
      "4I,4U,4E,4O,4YA,4YU,4YO,4TU,1KATAKiA-HIRAGiA PROLnGEDoOUNtMeK,1KATAKiAaA,3I,3U,3E,3O,3KA",
      "3KI,3KU,3KE,3KO,3SA,3SI,3SU,3SE,3SO,3TA,3u,3TU,3TE,3TO,3NA,3NI,3NU,3NE,3NO,3z,3HI,3HU",
      "3HE,3HO,3MA,3MI,3MU,3ME,3MO,3YA,3YU,3YO,3RA,3RI,3RU,3v,3RO,3WA,3N,2VOICEDoOUNtMeK",
      "2SEMI-VOICEDoOUNtMeK,1HiGUL FILkR,2kTTl KIYEOK,3SSiGKIYEOK,3KIYEOK-SIOS,3NIEUN",
      "3NIEUN-CIEUC,3NIEUN-HIEUH,3uKEUT,3SSiGuKEUT,3RIEUL,3RIEUL-KIYEOK,3RIEUL-MIEUM",
      "3RIEUL-PIEUP,3RIEUL-SIOS,3RIEUL-sIEUs,3RIEUL-PHIEUPH,3RIEUL-HIEUH,3MIEUM,3PIEUP",
      "3SSiGPIEUP,3PIEUP-SIOS,3SIOS,3SSiGSIOS,3IEUNG,3CIEUC,3SSiGCIEUC,3CHIEUCH,3KHIEUKH,3sIEUs",
      "3PHIEUPH,3HIEUH"]),
    (0xFFC2, ["0HcFWIDs HiGULaA,3AE,3YA,3YAE,3EO,3E"]),
    (0xFFCA, ["0HcFWIDs HiGULaYEO,3YE,3O,3WA,3WAE,3OE"]),
    (0xFFD2, ["0HcFWIDs HiGULaYO,3U,3WEO,3WE,3WI,3YU"]),
    (0xFFDA, ["0HcFWIDs HiGULaEU,3YI,3I"]),
    (0xFFE0, ["0FULLWIDs CrTw,1POUNDw,1NOTw,1MACRn,1BROKr Be,1Yrw,1Wnw"]),
    (0xFFE8, ["0HcFWIDshS Lf VluCc,1kFTxm,1UPxm,1Rfxm,1yWNxm,1BLACKoQUeE,1WHITE CIRCk"]),
    (0xFFF9, [
      "0gTlLgEe iNOTAun iCHOR,2SEPeATOR,2TlMgATOR,0OBJECT vPLACEMrT CHeACTl,0vPLACEMrT CHeACTl"])]

/-- Runs from 0x10000 on: scripts that are no longer written. -/
def ancientRuns : List NameRun :=
  [(0x10000, [
      "0LgEe BoYLLABk B008 A,3B038 E,3B028 I,3B061 O,3B010 U,3B001 DA,3B045 DE,3B007 DI,3B014 y",
      "3B051 DU,3B057 JA,3B046 JE"]),
    (0x1000D, [
      "0LgEe BoYLLABk B036 JO,3B065 JU,3B077 KA,3B044 KE,3B067 KI,3B070 KO,3B081 KU,3B080 MA",
      "3B013 ME,3B073 MI,3B015 MO,3B023 MU,3B006 NA,3B024 NE,3B030 NI,3B052 NO,3B055 NU",
      "3B003 PA,3B072 PE,3B039 PI,3B011 PO,3B050 PU,3B016 QA,3B078 QE,3B021 QI,3B032 QO"]),
    (0x10028, [
      "0LgEe BoYLLABk B060 RA,3B027 v,3B053 RI,3B002 RO,3B026 RU,3B031oA,3B009oE,3B041oI",
      "3B012oO,3B058oU,3B059 TA,3B004 TE,3B037 u,3B005 TO,3B069 TU,3B054 WA,3B075 WE,3B040 WI",
      "3B042 WO"]),
    (0x1003C, ["0LgEe BoYLLABk B017 ZA,3B074 ZE"]),
    (0x1003F, [
      "0LgEe BoYLLABk B020 ZO,3B025 A2,3B043 A3,3B085 AU,3B071 DWE,3B090 DWO,3B048 NWA",
      "3B029 PU2,3B062 PTE,3B076 RA2,3B033 RA3,3B068 RO2,3B066 TA2,3B087 TWE,3B091 TWO"]),
    (0x10050, [
      "0LgEe BoYMBOL B018,3B019,3B022,3B034,3B047,3B049,3B056,3B063,3B064,3B079,3B082,3B083",
      "3B086,3B089"]),
    (0x10080, [
      "0LgEe B IDEOGRAM B100 Mi,3B102 WOMi,3B104 DEl,3B105 EQUID,3B105F MeE,3B105MoTcLIn",
      "3B106F EWE,3B106M RAM,3B107FoHE-GOAT,3B107M HE-GOAT,3B108FoOW,3B108M BOe,3B109F COW",
      "3B109M BULL,3B120 WHEAT,3B121 BekY,3B122 OLIVE,3B123oPICE,3B125 CYPlUS",
      "2MnOGRAM B127 KAPO,3B128 KiAKO,2IDEOGRAM B130 OIL,3B131 WgE,3B132,2MnOGRAM B133 eEPA",
      "3B135 MlI,2IDEOGRAM B140 BRnZE,3B141 GOLD,3B142,3B145 WOOL,3B146,3B150,3B151 HORN,3B152",
      "3B153,3B154,2MnOGRAM B156 TURO2,2IDEOGRAM B157,3B158,3B159 CLOs,3B160,3B161,3B162 GeMrT",
      "3B163 eMOUR,3B164,3B165,3B166,3B167,3B168,3B169,3B170,3B171,3B172,3B173 Mns,3B174",
      "3B176 TvE,3B177,3B178,3B179,3B180,3B181,3B182,3B183,3B184,3B185,3B189,3B190,3B191 HELMET",
      "3B220 FOOTSTOOL,3B225 BAsTUB,3B230oPEe,3B231m,3B232,3B233oWORD,3B234,3B236",
      "3B240 WHEEktCHeIOT,3B241 CHeIOT,3B242 CHeIOT FRAME,3B243 WHEEL,3B245,3B246",
      "2MnOGRAM B247 DIPTE,2IDEOGRAM B248,3B249,3B251,3B252,3B253,3B254 DeT,3B255,3B256,3B257",
      "3B258,3B259,3VESSEL B155,4B200,4B201,4B202,4B203,4B204,4B205,4B206,4B207,4B208,4B209",
      "4B210,4B211,4B212,4B213,4B214,4B215,4B216,4B217,4B218,4B219,4B221,4B222,4B226,4B227",
      "4B228,4B229,4B250,4B305"]),
    (0x10100, ["0AEGEi WORDoEPeATOR LgE,3yT,1CHECK MeK"]),
    (0x10107, [
      "0AEGEi NUMBl nE,2TWO,2svE,2FOUR,2FIVE,2SIX,2SEVr,2Ef,2NgE,2Tr,2TWrTY,2sIRTY,2FORTY",
      "2FIFTY,2SIXTY,2SEVrTY,2EfY,2NgETY,2nE HUNDvD,2TWO HUNDvD,2svE HUNDvD,2FOUR HUNDvD",
      "2FIVE HUNDvD,2SIX HUNDvD,2SEVr HUNDvD,2Ef HUNDvD,2NgE HUNDvD,2nE sOUSiD,2TWO sOUSiD",
      "2svE sOUSiD,2FOUR sOUSiD,2FIVE sOUSiD,2SIX sOUSiD,2SEVr sOUSiD,2Ef sOUSiD,2NgE sOUSiD",
      "2Tr sOUSiD,2TWrTY sOUSiD,2sIRTY sOUSiD,2FORTY sOUSiD,2FIFTY sOUSiD,2SIXTY sOUSiD",
      "2SEVrTY sOUSiD,2EfY sOUSiD,2NgETY sOUSiD"]),
    (0x10137, [
      "0AEGEi WEf BASE UNIT,2FIRSToUBUNIT,2SECnDoUBUNIT,2sIRDoUBUNIT,2FOURsoUBUNIT",
      "1DRY MEASUv FIRSToUBUNIT,1LIQUItMEASUv FIRSToUBUNIT,1MEASUvoECnDoUBUNIT,2sIRDoUBUNIT",
      "0GvEK ACROPHnIC ATuC nE QUeTl,4HcF,4DRACHMA,3FIVE,3FIFTY,3FIVE HUNDvD,4sOUSiD",
      "3FIFTY sOUSiD,3FIVE TcrTS,3Tr TcrTS,3FIFTY TcrTS,3nE HUNDvtTcrTS,3FIVE HUNDvtTcrTS",
      "3nE sOUSitTcrTS,3FIVE sOUSitTcrTS,4STATlS,3TroTATlS,3FIFTYoTATlS,3nE HUNDvDoTATlS",
      "3FIVE HUNDvDoTATlS,3nE sOUSiDoTATlS,3Tr sOUSiDoTATlS,3FIFTY sOUSiDoTATlS,3Tr MNAS",
      "2HlAEUM nE PksRn,2sESPIi nE,2HlMInIi nE,2EPIDAUvi TWO,2sESPIi TWO,2CYRrAIC TWO DRACHMAS",
      "2EPIDAUvi TWO DRACHMAS,2TROEZrIi FIVE,3Tr,4cTlNATEh,2HlMInIi Tr,2MESSrIi Tr,2sESPIi Tr",
      "3sIRTY,2TROEZrIi FIFTY,4cTlNATEh,2HlMInIi FIFTY,2sESPIi FIFTY,3nE HUNDvD,3svE HUNDvD",
      "2EPIDAUvi FIVE HUNDvD,2TROEZrIi FIVE HUNDvD,2sESPIi FIVE HUNDvD,2CeYSui FIVE HUNDvD",
      "2NAXIi FIVE HUNDvD,2sESPIi nE sOUSiD,3FIVE sOUSiD,2DELPHIC FIVE MNAS,2STRAui FIFTY MNAS",
      "1nE HcFw,4cTlNATEh,1TWO sIRDSw,1svE QUeTlSw,1YEew,1TcrTw,1DRACHMAw,1OBOLw,1TWO OBOLSw",
      "1svE OBOLSw,1FOUR OBOLSw,1FIVE OBOLSw,1METvTESw,1KYAsOS BASEw,1LITRAw,1OUNKIAw,1XESTESw",
      "1eTABEw,1eOURAw,1GRAMMAw,1TRYBLIn BASEw,1ZlOw,1nE QUeTlw,1SgUSOIDw,1gDICunw,0NOMISMAw"]),
    (0x10190, [
      "0ROMioEXTiSw,1UNCIAw,1SEMUNCIAw,1SEXTULAw,1DIMIDIAoEXTULAw,1SILIQUAw,1DreIUSw,1QUgeIUSw",
      "1SESTluUSw,1DUPnDIUSw,1ASw,1CrTURIcw,0ASCIAoYMBOL"]),
    (0x101A0, ["0GvEKoYMBOL TAU RHO"]),
    (0x101D0, [
      "0PzISTOS DISCw PEDESTRIi,3PLUMEtHEAD,3TATTOOEtHEAD,3CAPuVE,3CHILD,3WOMi,3HELMET,3GAUNTkT",
      "3ueA,3eROW,3BOW,3SHIELD,3CLUB,3MiACkS,3MATTOCK,3SAW,3LID,3BOOMliG,3CePrTRY PLiE,3yLIUM",
      "3COMB,3SLgG,3COLUMN,3BEEHIVE,3SHIP,3HORN,3HIDE,3BULLS kG,3CAT,3RAM,3EAGk,3yVE,3TUNNY",
      "3BEE,3PLiE TvE,3VgE,3PAPYRUS,3ROSETTE,3LILY,3OX BACK,3FLUTE,3GRATl,3STRAgl,3j AXE",
      "3WAVY BiD,3COMBggG OBLIQUEoTROKE"]),
    (0x10280, [
      "0LYCIiaA,2E,2B,2BH,2G,2D,2I,2W,2Z,2s,2J,2K,2Q,2L,2M,2N,2MM,2NN,2U,2P,2KK,2R,2S,2T,2TT,2i",
      "2r,2H,2X"]),
    (0x102A0, [
      "0CeIiaA,2P2,2D,2L,2UUU,2R,2LD,2A2,2Q,2B,2M,2O,2D2,2T,2SH,2SH2,2S,2C-18,2U,2NN,2X,2N,2TT2",
      "2P,2SS,2I,2E,2UUUU,2K,2K2,2ND,2UU,2G,2G2,2ST,2ST2,2NG,2II,2C-39,2TT,2UUU2,2RR,2MB,2MB2",
      "2MB3,2MB4,2LD2,2E2,2UUU3"]),
    (0x102E0, [
      "0COPuC EPACT sOUSiDS MeK,2DIGIT nE,3TWO,3svE,3FOUR,3FIVE,3SIX,3SEVr,3Ef,3NgE,2NUMBl Tr",
      "3TWrTY,3sIRTY,3FORTY,3FIFTY,3SIXTY,3SEVrTY,3EfY,3NgETY,3nE HUNDvD,3TWO HUNDvD",
      "3svE HUNDvD,3FOUR HUNDvD,3FIVE HUNDvD,3SIX HUNDvD,3SEVr HUNDvD,3Ef HUNDvD,3NgE HUNDvD"]),
    (0x10300, [
      "0OLtITcICaA,3BE,3KE,3DE,3E,3VE,3ZE,3HE,3sE,3I,3KA,3EL,3EM,3r,3ESH,3O,3PE,3SHE,3KU,3l,3ES",
      "3TE,3U,3EKS,3PHE,3KHE,3EF,3lS,3CHE,3II,3UU,3ESS,2NUMlc nE,3FIVE,3Tr,3FIFTY"]),
    (0x1032D, [
      "0OLtITcICaYE,3NORslN TSE,3SOUslN TSE,0GOsICaAHSA,2BAIRKi,2GIBA,2DAGS,2AIHVUS,2QAIRsRA",
      "2IUJA,2zGL,2sIUs,2EIS,2KUSMA,2LAGUS,2MiNA,2NAUsS,2Jl,2URUS,2PAIRsRA,2NgETY,2RAIDA,2SAUIL",
      "2TEIWS,2WgJA,2FAIHU,2IGGWS,2HWAIR,2Osc,2NgE HUNDvD"]),
    (0x10350, [
      "0OLtPlMICai,3BUR,3GAI,3yI,3E,3ZHOI,3DZHOI,3ZATA,3DZITA,3I,3KOKE,3kI,3MrOE,3NrOE,3VOOI",
      "3PEEI,3vI,3SII,3TAI,3U,3CHlY,3SHOOI,3SHCHOOI,3YRY,3YlU,3O,3OO,3EF,3z,3TSIU,3Vl,3Yl,3YlI",
      "3YAT,3IE,3YU,3YA,3IA,0COMBggG OLtPlMICai,4yI,4ZATA,4NrOE,4SII"]),
    (0x10380, [
      "0UGeIuCacPA,2BETA,2GAMLA,2Kz,2DELTA,2HO,2WO,2ZETA,2HOTA,2TET,2YOD,2KAF,2SHg,2LAMDA,2MEM",
      "2DHc,2NUN,2ZU,2SAMKA,2Ag,2PU,2SADE,2QOPA,2RASz,2siNA,2Gzg,2TO,2I,2U,2SSU"]),
    (0x1039F, [
      "0UGeIuC WORtDIVIDl,0OLtPlSIiw A,3I,3U,3KA,3KU,3GA,3GU,3XA,3CA,3JA,3JI,3TA,3TU,3DA,3DI",
      "3DU,3sA,3PA,3BA,3FA,3NA,3NU,3MA,3MI,3MU,3YA,3VA,3VI,3RA,3RU,3LA,3SA,3ZA,3Sz,3SSA,3z"]),
    (0x103C8, [
      "0OLtPlSIiw AURAMAZDAA,3AURAMAZDAA-2,3AURAMAZDAAz,3XSzAYAsIYA,3DAHYAAUSH,3DAHYAAUSH-2",
      "3BAGA,3BUUMISH,2WORtDIVIDl,2NUMBl nE,3TWO,3Tr,3TWrTY,3HUNDvD"]),
    (0x10400, [
      "0DESlET dLnG I,4E,4A,4AH,4O,4OO,3SHORT I,4E,4A,4AH,4O,4OO,3AY,3OW,3WU,3YEE,3H,3PEE,3BEE",
      "3TEE,3DEE,3CHEE,3JEE,3KAY,3GAY,3EF,3VEE,3Es,3sEE,3ES,3ZEE,3ESH,3ZHEE,3l,3EL,3EM,3r,3rG",
      "3OI,3EW,1jaLnG I,4E,4A,4AH,4O,4OO,3SHORT I,4E,4A,4AH,4O,4OO,3AY,3OW,3WU,3YEE,3H,3PEE",
      "3BEE,3TEE,3DEE,3CHEE,3JEE,3KAY,3GAY,3EF,3VEE,3Es,3sEE,3ES,3ZEE,3ESH,3ZHEE,3l,3EL,3EM,3r",
      "3rG,3OI,3EW,0SzVIiaPEEP,2TOT,2KICK,2FEE,2sIGH,2SO,2SUv,2CHURCH,2YEA,2HUNG,2BIB,2DEAD",
      "2GAG,2VOW,2sEY,2ZOO,2MEASUv,2JUDGE,2WOE,2z-z,2LOLL,2MIME,2IF,2EGG,2ASH,2Ay,2n,2WOOL,2OUT",
      "2AH,2ROe,2NUN,2EAT,2AGE,2ICE,2UP,2OAK,2OOZE,2OIL,2AWE,2eE,2OR,2AIR,2lR,2eRAY,2Ee,2Ii",
      "2YEW,0OSMiYAacEF,2BA,2TA,2JA,2XA,2Kz,2DEEL,2RA,2SA,2SHIg,2Dz,2CAYN,2GA,2FA,2QAAF,2KAAF",
      "2LAi,2MIg,2NUUN,2WAW,2z,2YA,2A,2E,2I,2O,2U,2AA,2EE,2OO"]),
    (0x104A0, ["0OSMiYA DIGIT ZlO,2nE,2TWO,2svE,2FOUR,2FIVE,2SIX,2SEVr,2Ef,2NgE"]),
    (0x104B0, [
      "0OSAGE dA,3AI,3Ag,3AH,3BRA,3Cz,3EHCz,3E,3Eg,3z,3HYA,3I,3KA,3EHKA,3KYA,3LA,3MA,3NA,3O,3Og",
      "3PA,3EHPA,3SA,3Sz,3TA,3EHTA,3TSA,3EHTSA,3TSz,3Dz,3U,3WA,3Kz,3Gz,3ZA,3Zz"]),
    (0x104D8, [
      "0OSAGE jaA,3AI,3Ag,3AH,3BRA,3Cz,3EHCz,3E,3Eg,3z,3HYA,3I,3KA,3EHKA,3KYA,3LA,3MA,3NA,3O",
      "3Og,3PA,3EHPA,3SA,3Sz,3TA,3EHTA,3TSA,3EHTSA,3TSz,3Dz,3U,3WA,3Kz,3Gz,3ZA,3Zz"]),
    (0x10500, [
      "0ELBASiaA,2BE,2CE,2CHE,2DE,2NDE,2DHE,2EI,2E,2FE,2GE,2GJE,2HE,2I,2JE,2KE,2k,2Lk,2ME,2NE",
      "2NA,2NJE,2O,2PE,2QE,2v,2Rv,2SE,2SHE,2TE,2sE,2U,2VE,2XE,2Y,2ZE,2ZHE,2GHE,2GzMMA,2KHE"]),
    (0x10530, [
      "0CAUCASIi cBiIiacT,3BET,3GIM,3DAT,3EB,3ZeL,3EYN,3ZHIL,3TAS,3Cz,3YOWD,3Zz,3IRB,3Sz,3Li",
      "3gYA,3XEYN,3DYi,3Ce,3JHOX,3Ke,3LYIT,3HEYT,3QAY,3AOR,3CHOY,3CHI,3CYAY,3MAQ,3Qe,3NOWC",
      "3DZYAY,3SzK,3JAYN,3n,3TYAY,3FAM,3DZAY,3CzT,3Pr,3GHEYS,3RAT,3SEYK,3VEYZ,3uWR,3SHOY,3IWN",
      "3CYAW,3CAYN,3YAYD,3PIWR,3KIW"]),
    (0x1056F, ["0CAUCASIi cBiIi CITAun MeK,0VIsKUQI dA,3BBE,3BE,3CE,3CHE,3DE,3DHE,3EI,3E,3FE,3GA"]),
    (0x1057C, ["0VIsKUQI dz,3Hz,3I,3IJE,3JE,3KA,3LA,3LLA,3ME,3NE,3NJE,3O,3PE,3QA,3v"]),
    (0x1058C, ["0VIsKUQI dSE,3SHE,3TE,3sE,3U,3VE,3XE"]),
    (0x10594, ["0VIsKUQI dY,3ZE"]),
    (0x10597, ["0VIsKUQI jaA,3BBE,3BE,3CE,3CHE,3DE,3DHE,3EI,3E,3FE,3GA"]),
    (0x105A3, ["0VIsKUQI jaz,3Hz,3I,3IJE,3JE,3KA,3LA,3LLA,3ME,3NE,3NJE,3O,3PE,3QA,3v"]),
    (0x105B3, ["0VIsKUQI jaSE,3SHE,3TE,3sE,3U,3VE,3XE"]),
    (0x105BB, ["0VIsKUQI jaY,3ZE"]),
    (0x10600, [
      "0LgEe Aw AB001,3AB002,3AB003,3AB004,3AB005,3AB006,3AB007,3AB008,3AB009,3AB010,3AB011",
      "3AB013,3AB016,3AB017,3AB020,3AB021,3AB021F,3AB021M,3AB022,3AB022F,3AB022M,3AB023,3AB023M",
      "3AB024,3AB026,3AB027,3AB028,3A028B,3AB029,3AB030,3AB031,3AB034,3AB037,3AB038,3AB039",
      "3AB040,3AB041,3AB044,3AB045,3AB046,3AB047,3AB048,3AB049,3AB050,3AB051,3AB053,3AB054",
      "3AB055,3AB056,3AB057,3AB058,3AB059,3AB060,3AB061,3AB065,3AB066,3AB067,3AB069,3AB070",
      "3AB073,3AB074,3AB076,3AB077,3AB078,3AB079,3AB080,3AB081,3AB082,3AB085,3AB086,3AB087",
      "3A100-102,3AB118,3AB120,3A120B,3AB122,3AB123,3AB131A,3AB131B,3A131C,3AB164,3AB171,3AB180",
      "3AB188,3AB191,3A301,3A302,3A303,3A304,3A305,3A306,3A307,3A308,3A309A,3A309B,3A309C,3A310",
      "3A311,3A312,3A313A,3A313B,3A313C,3A314,3A315,3A316,3A317,3A318,3A319,3A320,3A321,3A322",
      "3A323,3A324,3A325,3A326,3A327,3A328,3A329,3A330,3A331,3A332,3A333,3A334,3A335,3A336",
      "3A337,3A338,3A339,3A340,3A341,3A342,3A343,3A344,3A345,3A346,3A347,3A348,3A349,3A350",
      "3A351,3A352,3A353,3A354,3A355,3A356,3A357,3A358,3A359,3A360,3A361,3A362,3A363,3A364",
      "3A365,3A366,3A367,3A368,3A369,3A370,3A371,3A400-VAS,3A401-VAS,3A402-VAS,3A403-VAS",
      "3A404-VAS,3A405-VAS,3A406-VAS,3A407-VAS,3A408-VAS,3A409-VAS,3A410-VAS,3A411-VAS",
      "3A412-VAS,3A413-VAS,3A414-VAS,3A415-VAS,3A416-VAS,3A417-VAS,3A418-VAS,3A501,3A502,3A503",
      "3A504,3A505,3A506,3A508,3A509,3A510,3A511,3A512,3A513,3A515,3A516,3A520,3A521,3A523",
      "3A524,3A525,3A526,3A527,3A528,3A529,3A530,3A531,3A532,3A534,3A535,3A536,3A537,3A538",
      "3A539,3A540,3A541,3A542,3A545,3A547,3A548,3A549,3A550,3A551,3A552,3A553,3A554,3A555",
      "3A556,3A557,3A559,3A563,3A564,3A565,3A566,3A568,3A569,3A570,3A571,3A572,3A573,3A574",
      "3A575,3A576,3A577,3A578,3A579,3A580,3A581,3A582,3A583,3A584,3A585,3A586,3A587,3A588",
      "3A589,3A591,3A592,3A594,3A595,3A596,3A598,3A600,3A601,3A602,3A603,3A604,3A606,3A608",
      "3A609,3A610,3A611,3A612,3A613,3A614,3A615,3A616,3A617,3A618,3A619,3A620,3A621,3A622",
      "3A623,3A624,3A626,3A627,3A628,3A629,3A634,3A637,3A638,3A640,3A642,3A643,3A644,3A645",
      "3A646,3A648,3A649,3A651,3A652,3A653,3A654,3A655,3A656,3A657,3A658,3A659,3A660,3A661",
      "3A662,3A663,3A664"]),
    (0x10740, [
      "0LgEe Aw A701 A,3A702 B,3A703 D,3A704 E,3A705 F,3A706 H,3A707 J,3A708 K,3A709 L",
      "3A709-2 L2,3A709-3 L3,3A709-4 L4,3A709-6 L6,3A710 W,3A711 X,3A712 Y,3A713 OMEGA",
      "3A714 ABB,3A715 BB,3A717 DD,3A726 EYYY,3A732 JE"]),
    (0x10760, ["0LgEe Aw A800,3A801,3A802,3A803,3A804,3A805,3A806,3A807"]),
    (0x10780, [
      "0MODIFIlaj CAPITc AA,2SUPlSCRIPT TRIiGULe COLn,3HcF TRIiGULe COLn,2j AE,3CAPITc B",
      "3BbHOOK"]),
    (0x10787, [
      "0MODIFIlaj DZ DIGRAPH,5WIs vTROFkX HOOK,6CURL,3DEZH DIGRAPH,3DbTAIL,5HOOK,6itTAIL",
      "3vVlSEtE,3CLOSEtvVlSEtOPr E,3FrG DIGRAPH,3RAMS HORN,3CAPITc G,3GbHOOK,3CAPITc GbHOOK",
      "3HbSTROKE,3CAPITc H,3HrGbHOOK,3yTkSS JbSTROKE itHOOK,3LS DIGRAPH,3LZ DIGRAPH,3LbBELT",
      "3CAPITc LbBELT,3LbvTROFkX HOOK itBELT,3kZH,4WIs vTROFkX HOOK,3TURNEtY,5WIs BELT",
      "3ObSTROKE,3CAPITc OE,3CLOSEtOMEGA,3Q,3TURNEtRbLnG kG,8itvTROFkX HOOK,3RbTAIL,5FISHHOOK",
      "3CAPITc R,3TC DIGRAPHbCURL,3TS DIGRAPH,5WIs vTROFkX HOOK,3TESH DIGRAPH,3TbvTROFkX HOOK",
      "3VbRf HOOK"]),
    (0x107B2, [
      "0MODIFIlaj CAPITc Y,2GLOTTcoTOPbSTROKE,2vVlSEtGLOTTcoTOPbSTROKE,2BILABIc CLICK",
      "2DrTc CLICK,2LATlc CLICK,2cVEOLe CLICK,2vTROFkX CLICKbvTROFkX HOOK,2jobCURL"]),
    (0x10800, ["0CYPRIOToYLLABk A,2E,2I,2O,2U,2JA"]),
    (0x10808, ["0CYPRIOToYLLABk JO"]),
    (0x1080A, [
      "0CYPRIOToYLLABk KA,2KE,2KI,2KO,2KU,2LA,2k,2LI,2LO,2LU,2MA,2ME,2MI,2MO,2MU,2NA,2NE,2NI",
      "2NO,2NU,2PA,2PE,2PI,2PO,2PU,2RA,2v,2RI,2RO,2RU,2SA,2SE,2SI,2SO,2SU,2TA,2TE,2u,2TO,2TU",
      "2WA,2WE,2WI,2WO"]),
    (0x10837, ["0CYPRIOToYLLABk XA,2XE"]),
    (0x1083C, ["0CYPRIOToYLLABk ZA"]),
    (0x1083F, [
      "0CYPRIOToYLLABk ZO,0IMPlIc eAMAICacEPH,3BEs,3GIMEL,3DcEs,3HE,3WAW,3ZAYg,3HEs,3TEs,3YODH",
      "3KAPH,3LAMEDH,3MEM,3NUN,3SAMEKH,3AYg,3PE,3SADHE,3QOPH,3vSH,3SHg,3TAW"]),
    (0x10857, [
      "0IMPlIc eAMAICoECunw,2NUMBl nE,3TWO,3svE,3Tr,3TWrTY,3nE HUNDvD,4sOUSiD,3Tr sOUSiD",
      "0PcMYRrEacEPH,2BEs,2GIMEL,2DcEs,2HE,2WAW,2ZAYg,2HEs,2TEs,2YODH,2KAPH,2LAMEDH,2MEM",
      "2Fgc NUN,2NUN,2SAMEKH,2AYg,2PE,2SADHE,2QOPH,2vSH,2SHg,2TAW,1kFT-POgTgG FkURn",
      "1Rf-POgTgG FkURn,1NUMBl nE,2TWO,2svE,2FOUR,2FIVE,2Tr,2TWrTY,0NABATAEiaFgc cEPH,2cEPH",
      "2Fgc BEs,2BEs,2GIMEL,2DcEs,2Fgc HE,2HE,2WAW,2ZAYg,2HEs,2TEs,2Fgc YODH,2YODH,2Fgc KAPH",
      "2KAPH,2Fgc LAMEDH,2LAMEDH,2Fgc MEM,2MEM,2Fgc NUN,2NUN,2SAMEKH,2AYg,2PE,2SADHE,2QOPH,2vSH",
      "2FgcoHg,2SHg,2TAW"]),
    (0x108A7, [
      "0NABATAEi NUMBl nE,2TWO,2svE,2FOUR,1CRUCIFORM NUMBl FOUR,1NUMBl FIVE,2Tr,2TWrTY",
      "2nE HUNDvD"]),
    (0x108E0, [
      "0zTRiacEPH,2BEs,2GIMEL,2DcEs-vSH,2HE,2WAW,2ZAYN,2HEs,2TEs,2YODH,2KAPH,2LAMEDH,2MEM,2NUN",
      "2SAMEKH,2AYN,2PE,2SADHE,2QOPH"]),
    (0x108F4, ["0zTRiaSHg,2TAW"]),
    (0x108FB, [
      "0zTRi NUMBl nE,2FIVE,2Tr,2TWrTY,2nE HUNDvD,0PHOrICIiacF,2BET,2GAML,2DELT,2HE,2WAU,2ZAI",
      "2HET,2TET,2YOD,2KAF,2LAMD,2MEM,2NUN,2SEMK,2Ag,2PE,2SADE,2QOF,2ROSH,2SHg,2TAU,1NUMBl nE",
      "2Tr,2TWrTY,2nE HUNDvD,2TWO,2svE"]),
    (0x1091F, [
      "0PHOrICIi WORDoEPeATOR,0LYDIiaA,2B,2G,2D,2E,2V,2I,2Y,2K,2L,2M,2N,2O,2R,2SS,2T,2U,2F,2Q",
      "2S,2TT,2i,2r,2LY,2NN,2C"]),
    (0x1093F, ["0LYDIi TRIiGULe MeK"]),
    (0x10980, [
      "0MlOIuC HIlOGLYPHICaA,3E,3I,3O,3YA,3WA,3BA,3BA-2,3PA,3MA,3NA,3NA-2,3NE,3NE-2,3RA,3RA-2",
      "3LA,3Kz,3Hz,3SA,3SA-2,3SE,3KA,3QA,3TA,3TA-2,3TE,3TE-2,3TO,3DA,2SYMBOL VIDJ,3VIDJ-2",
      "1CURSIVEaA,3E,3I,3O,3YA,3WA,3BA,3PA,3MA,3NA,3NE,3RA,3LA,3Kz,3Hz,3SA,3eCzICoA,3SE,3KA,3QA",
      "3TA,3TE,3TO,3DA"]),
    (0x109BC, [
      "0MlOIuC CURSIVE FRACun EkVr TWELFsS,3nE HcF,2LOGOGRAM RMT,3IMN,2NUMBl nE,3TWO,3svE,3FOUR",
      "3FIVE,3SIX,3SEVr,3Ef,3NgE,3Tr,3TWrTY,3sIRTY,3FORTY,3FIFTY,3SIXTY,3SEVrTY"]),
    (0x109D2, [
      "0MlOIuC CURSIVE NUMBl nE HUNDvD,3TWO HUNDvD,3svE HUNDvD,3FOUR HUNDvD,3FIVE HUNDvD",
      "3SIX HUNDvD,3SEVr HUNDvD,3Ef HUNDvD,3NgE HUNDvD,3nE sOUSiD,3TWO sOUSiD,3svE sOUSiD",
      "3FOUR sOUSiD,3FIVE sOUSiD,3SIX sOUSiD,3SEVr sOUSiD,3Ef sOUSiD,3NgE sOUSiD,3Tr sOUSiD",
      "3TWrTY sOUSiD,3sIRTY sOUSiD,3FORTY sOUSiD,3FIFTY sOUSiD,3SIXTY sOUSiD,3SEVrTY sOUSiD",
      "3EfY sOUSiD,3NgETY sOUSiD,3nE HUNDvtsOUSiD,3TWO HUNDvtsOUSiD,3svE HUNDvtsOUSiD",
      "3FOUR HUNDvtsOUSiD,3FIVE HUNDvtsOUSiD,3SIX HUNDvtsOUSiD,3SEVr HUNDvtsOUSiD",
      "3Ef HUNDvtsOUSiD,3NgE HUNDvtsOUSiD,2FRACun nE TWELFs,3TWO TWELFsS,3svE TWELFsS",
      "3FOUR TWELFsS,3FIVE TWELFsS,3SIX TWELFsS,3SEVr TWELFsS,3Ef TWELFsS,3NgE TWELFsS",
      "3Tr TWELFsS,0KHeOSHsIaA,1VOWELw I,3U,3VOCcIC R"]),
    (0x10A05, ["0KHeOSHsI VOWELw E,3O"]),
    (0x10A0C, [
      "0KHeOSHsI VOWEL kNGs MeK,1SIGN yUBk RgG BELOW,2iUSVeA,2VISeGA,1kTTl KA,2Kz,2GA,2Gz"]),
    (0x10A15, ["0KHeOSHsIaCA,2Cz,2JA"]),
    (0x10A19, [
      "0KHeOSHsIaNYA,2TTA,2TsA,2DDA,2DDz,2NNA,2TA,2sA,2DA,2Dz,2NA,2PA,2Pz,2BA,2Bz,2MA,2YA,2RA",
      "2LA,2VA,2Sz,2SSA,2SA,2ZA,2z,2KKA,2TTsA,2TTTA,2Vz"]),
    (0x10A38, ["0KHeOSHsIw Beq,2CAUDA,2yT BELOW"]),
    (0x10A3F, [
      "0KHeOSHsI VIRAMA,1DIGIT nE,2TWO,2svE,2FOUR,1NUMBl Tr,2TWrTY,2nE HUNDvD,3sOUSiD",
      "1FRACun nE HcF"]),
    (0x10A50, [
      "0KHeOSHsI PUNCTUAun yT,2j CIRCk,2CIRCk,2CvSCrT Be,2MiGcAM,2LOTUS,2DiDA,2yUBk DiDA,2LgES"]),
    (0x10A60, [
      "0OLDoOUs eABIiaHE,4LAMEDH,4HEs,4MEM,4QOPH,4WAW,4SHg,4vSH,4BEs,4TAW,4SAT,4KAPH,4NUN,4KHEs",
      "4SADHE,4SAMEKH,4FE,4cEF,4AYN,4DzDHE,4GIMEL,4DcEs,4GzYN,4TEs,4ZAYN,4DHcEs,4YODH,4sAW,4sEs",
      "3NUMBl nE,4FIFTY,3NUMlIC gDICATOR,1NORs eABIiaHEH,4LAM,4zH,4MEEM,4QAF,4WAW,4ES-2,4vH",
      "4BEH,4TEH,4ES-1,4KAF,4NOn,4KzH,4SAD,4ES-3,4FEH,4cEF,4Ag,4DAD,4GEEM,4Dc,4Gzg,4TAH,4ZAg",
      "4sc,4YEH,4sEH,4ZAH,3NUMBl nE,4Tr,4TWrTY"]),
    (0x10AC0, [
      "0MiICzEiacEPH,2BEs,2BHEs,2GIMEL,2GHIMEL,2DcEs,2HE,2WAW,1SIGN UD,1kTTl ZAYg,2ZzYg,2JAYg",
      "2JzYg,2HEs,2TEs,2YODH,2KAPH,2XAPH,2KzPH,2LAMEDH,2DzMEDH,2sAMEDH,2MEM,2NUN,2SAMEKH,2AYg",
      "2AAYg,2PE,2FE,2SADHE,2QOPH,2XOPH,2QHOPH,2vSH,2SHg,2SSHg,2TAW,1ABBvVIAun MeKq,3BELOW"]),
    (0x10AEB, [
      "0MiICzEi NUMBl nE,2FIVE,2Tr,2TWrTY,2nE HUNDvD,1PUNCTUAunoTe,2FkURn,2yUBk yT WIsg yT",
      "2yT WIsg yT,2yT,2TWO yTS,2LgE FILkR"]),
    (0x10B00, [
      "0AVESTiaA,2AA,2AO,2AAO,2i,2Ai,2AE,2AEE,2E,2EE,2O,2OO,2I,2II,2U,2UU,2KE,2XE,2XYE,2XVE,2GE",
      "2GGE,2GHE,2CE,2JE,2TE,2sE,2DE,2DHE,2TTE,2PE,2FE,2BE,2BHE,2NGE,2NGYE,2NGVE,2NE,2NYE,2NNE",
      "2ME,2HME,2YYE,2YE,2VE,2v,2k,2SE,2ZE,2SHE,2ZHE,2SHYE,2SSHE,2HE"]),
    (0x10B39, [
      "0AVESTi ABBvVIAun MeK,0TgY TWO yTS OVl nE yT PUNCTUAun,0j TWO yTS OVl nE yT PUNCTUAun",
      "0LeGE TWO yTS OVl nE yT PUNCTUAun,1nE yT OVl TWO yTS PUNCTUAun",
      "1TWO RgGS OVl nE RgG PUNCTUAun,1nE RgG OVl TWO RgGS PUNCTUAun,0gSCRIPunc PesIiacEPH,3BEs",
      "3GIMEL,3DcEs,3HE,3WAW,3ZAYg,3HEs,3TEs,3YODH,3KAPH,3LAMEDH,3MEM,3NUN,3SAMEKH,3AYg,3PE",
      "3SADHE,3QOPH,3vSH,3SHg,3TAW"]),
    (0x10B58, [
      "0gSCRIPunc PesIi NUMBl nE,3TWO,3svE,3FOUR,3Tr,3TWrTY,3nE HUNDvD,4sOUSiD,1PAHLAVIacEPH",
      "3BEs,3GIMEL,3DcEs,3HE,3WAW-AYg-vSH,3ZAYg,3HEs,3TEs,3YODH,3KAPH,3LAMEDH,3MEM-QOPH,3NUN",
      "3SAMEKH,3PE,3SADHE,3SHg,3TAW"]),
    (0x10B78, [
      "0gSCRIPunc PAHLAVI NUMBl nE,3TWO,3svE,3FOUR,3Tr,3TWrTY,3nE HUNDvD,4sOUSiD",
      "0PScTl PAHLAVIacEPH,3BEs,3GIMEL,3DcEs,3HE,3WAW-AYg-vSH,3ZAYg,3HEs,3YODH,3KAPH,3LAMEDH",
      "3MEM-QOPH,3NUN,3SAMEKH,3PE,3SADHE,3SHg,3TAW"]),
    (0x10B99, ["0PScTl PAHLAVIoECun MeK,2TURNEDoECun MeK,2FOUR yTSbCROSS,5yT"]),
    (0x10BA9, ["0PScTl PAHLAVI NUMBl nE,3TWO,3svE,3FOUR,3Tr,3TWrTY,3nE HUNDvD"]),
    (0x10C00, [
      "0OLtTURKICaORKHn A,3YrISEI A,4AE,3ORKHn I,3YrISEI I,4E,3ORKHn O,4OE,3YrISEI OE,3ORKHn AB",
      "3YrISEI AB,3ORKHn AEB,3YrISEI AEB,3ORKHn AG,3YrISEI AG,3ORKHn AEG,3YrISEI AEG,3ORKHn AD",
      "3YrISEI AD,3ORKHn AED,4EZ,3YrISEI EZ,3ORKHn AY,3YrISEI AY,3ORKHn AEY,3YrISEI AEY",
      "3ORKHn AEK,3YrISEI AEK,3ORKHn OEK,3YrISEI OEK,3ORKHn c,3YrISEI c,3ORKHn AEL,4ELT,4EM,4i",
      "4Ar,3YrISEI Ar,3ORKHn rT,3YrISEI rT,3ORKHn rC,3YrISEI rC,3ORKHn rY,3YrISEI rY,4iG",
      "3ORKHn rG,3YrISEI ArG,3ORKHn EP,4OP,4IC,4EC,3YrISEI EC,3ORKHn AQ,3YrISEI AQ,3ORKHn IQ",
      "3YrISEI IQ,3ORKHn OQ,3YrISEI OQ,3ORKHn e,3YrISEI e,3ORKHn Al,4AS,4AES,4ASH,3YrISEI ASH",
      "3ORKHn ESH,3YrISEI ESH,3ORKHn AT,3YrISEI AT,3ORKHn AET,3YrISEI AET,3ORKHn OT,4BASH"]),
    (0x10C80, [
      "0OLtHUNGeIi dA,4AA,4EB,4AMB,4EC,4rC,4ECS,4ED,4iD,4E,4CLOSE E,4EE,4EF,4EG,4EGY,4EH,4I,4II",
      "4EJ,4EK,4AK,4UNK,4EL,4ELY,4EM,4r,4rY,4O,4OO,4NIKOLSBURG OE,4RUDIMrTA OE,4OEE,4EP,4EMP,4l",
      "4SHORT l,4ES,4ESZ,4ET,4rT,4ETY,4ECH,4U,4UU,4NIKOLSBURG UE,4RUDIMrTA UE,4EV,4EZ,4EZS",
      "4rT-SzPEDw,4US"]),
    (0x10CC0, [
      "0OLtHUNGeIi jaA,4AA,4EB,4AMB,4EC,4rC,4ECS,4ED,4iD,4E,4CLOSE E,4EE,4EF,4EG,4EGY,4EH,4I",
      "4II,4EJ,4EK,4AK,4UNK,4EL,4ELY,4EM,4r,4rY,4O,4OO,4NIKOLSBURG OE,4RUDIMrTA OE,4OEE,4EP",
      "4EMP,4l,4SHORT l,4ES,4ESZ,4ET,4rT,4ETY,4ECH,4U,4UU,4NIKOLSBURG UE,4RUDIMrTA UE,4EV,4EZ",
      "4EZS,4rT-SzPEDw,4US"]),
    (0x10CFA, [
      "0OLtHUNGeIi NUMBl nE,3FIVE,3Tr,3FIFTY,3nE HUNDvD,4sOUSiD,0HiIFI ROHgGYAaA,3BA,3PA,3TA",
      "3TTA,3JA,3CA,3z,3Kz,3FA,3DA,3DDA,3RA,3RRA,3ZA,3SA,3Sz,3KA,3GA,3LA,3MA,3NA,3WA,3KgNA WA",
      "3YA,3KgNA YA,3NGA,3NYA,3VA,2VOWEL A,3I,3U,3E,3O,2MeKoAKg,3NA KHnNA,2SIGN HeBAzY,3TAHcA",
      "3TiA,3TASSI"]),
    (0x10D30, ["0HiIFI ROHgGYA DIGIT ZlO,3nE,3TWO,3svE,3FOUR,3FIVE,3SIX,3SEVr,3Ef,3NgE"]),
    (0x10E60, [
      "0RUMI DIGIT nE,2TWO,2svE,2FOUR,2FIVE,2SIX,2SEVr,2Ef,2NgE,1NUMBl Tr,2TWrTY,2sIRTY,2FORTY",
      "2FIFTY,2SIXTY,2SEVrTY,2EfY,2NgETY,2nE HUNDvD,2TWO HUNDvD,2svE HUNDvD,2FOUR HUNDvD",
      "2FIVE HUNDvD,2SIX HUNDvD,2SEVr HUNDvD,2Ef HUNDvD,2NgE HUNDvD,1FRACun nE HcF,3QUeTl,3sIRD",
      "2TWO sIRDS"]),
    (0x10E80, [
      "0YEZIDIaELIF,2BE,2PE,2PHE,2sE,2SE,2CIM,2CHIM,2CHHIM,2Hz,2XA,2Dc,2Zc,2RA,2Rz,2ZA,2JA,2Sg",
      "2SHg,2SAD,2DAD,2TA,2ZE,2EYN,2XHEYN,2FA,2VA,3cTlNATEh,2QAF,2KAF,2KzF,2GAF,2LAM,2MIM,2NUN",
      "2UM,2WAW,2OW,2EW,2zY,2YOT,2ET"]),
    (0x10EAB, ["0YEZIDI COMBggG zMZA MeK,2MADDA MeK,1HYPHrAun MeK"]),
    (0x10EB0, ["0YEZIDIaLAMbyTq,2YOTbCIRCUMFkXq"]),
    (0x10F00, [
      "0OLDoOGDIiacEPH,3Fgc cEPH,3BEs,3Fgc BEs,3GIMEL,3HE,3Fgc HE,3WAW,3ZAYg,3HEs,3YODH,3KAPH",
      "3LAMEDH,3MEM,3NUN,3Fgc NUN,5WIs VluCc TAIL,3SAMEKH,3AYg,3cTlNATE AYg,3PE,3SADHE",
      "3FgcoADHE,5WIs VluCc TAIL,3vSH-AYg-DcEs,3SHg,3TAW,3Fgc TAW,5WIs VluCc TAIL,2NUMBl nE",
      "3TWO,3svE,3FOUR,3FIVE,3Tr,3TWrTY,3sIRTY,3nE HUNDvD,2FRACun nE HcF,2LIGATUv AYg-DcEs"]),
    (0x10F30, [
      "0SOGDIiacEPH,2BEs,2GIMEL,2HE,2WAW,2ZAYg,2HEs,2YODH,2KAPH,2LAMEDH,2MEM,2NUN,2SAMEKH,2AYg",
      "2PE,2SADHE,2vSH-AYg,2SHg,2TAW,2FEs,2kSH,1gDEPrDrToHg,1COMBggG yT BELOW,2TWO yTS BELOW",
      "2yTq,2TWO yTSq,2CURVEq,3BELOW,2HOOKq,3BELOW,2LnG HOOK BELOW,2vSH BELOW,2STROKE BELOW",
      "1NUMBl nE,2Tr,2TWrTY,2nE HUNDvD,1PUNCTUAun TWO VluCc BeS,5WIs yTS,2CIRCkbyT",
      "2TWO CIRCkSbyTS,2HcF CIRCkbyT"]),
    (0x10F70, [
      "0OLtUYGHURacEPH,3BEs,3GIMEL-HEs,3WAW,3ZAYg,3Fgc HEs,3YODH,3KAPH,3LAMEDH,3MEM,3NUN",
      "3SAMEKH,3PE,3SADHE,3vSH,3SHg,3TAW,3kSH,2COMBggG yTq,4BELOW,3TWO yTSq,5BELOW",
      "2PUNCTUAun Be,3TWO BeS,4yTS,3FOUR yTS"]),
    (0x10FB0, [
      "0CHORASMIiacEPH,2j cEPH,2BEs,2GIMEL,2DcEs,2HE,2WAW,2CURktWAW,2ZAYg,2HEs,2YODH,2KAPH",
      "2LAMEDH,2MEM,2NUN,2SAMEKH,2AYg,2PE,2vSH,2SHg,2TAW,1NUMBl nE,2TWO,2svE,2FOUR,2Tr,2TWrTY",
      "2nE HUNDvD"]),
    (0x10FE0, [
      "0ELYMAICacEPH,2BEs,2GIMEL,2DcEs,2HE,2WAW,2ZAYg,2HEs,2TEs,2YODH,2KAPH,2LAMEDH,2MEM,2NUN",
      "2SAMEKH,2AYg,2PE,2SADHE,2QOPH,2vSH,2SHg,2TAW,1LIGATUv ZAYg-YODH"]),
    (0x11000, [
      "0BRAHMIw CiDRABgDU,2iUSVeA,2VISeGA,2JIHVAMULIYA,2UPADHMiIYA,1kTTl A,2AA,2I,2II,2U,2UU",
      "2VOCcIC R,3RR,3L,3LL,2E,2AI,2O,2AU,2KA,2Kz,2GA,2Gz,2NGA,2CA,2Cz,2JA,2Jz,2NYA,2TTA,2TsA",
      "2DDA,2DDz,2NNA,2TA,2sA,2DA,2Dz,2NA,2PA,2Pz,2BA,2Bz,2MA,2YA,2RA,2LA,2VA,2Sz,2SSA,2SA,2z",
      "2LLA,2OLtTAMIL LLLA,4RRA,4NNNA,1VOWELw AA,3BzTuPROLU AA,3I,3II,3U,3UU,3VOCcIC R,4RR,4L",
      "4LL,3E,3AI,3O,3AU,1VIRAMA,1DiDA,1yUBk DiDA,1PUNCTUAun yT,2yUBk yT,2LgE,2CvSCrT Be,2LOTUS"]),
    (0x11052, [
      "0BRAHMI NUMBl nE,2TWO,2svE,2FOUR,2FIVE,2SIX,2SEVr,2Ef,2NgE,2Tr,2TWrTY,2sIRTY,2FORTY",
      "2FIFTY,2SIXTY,2SEVrTY,2EfY,2NgETY,2nE HUNDvD,3sOUSiD,1DIGIT ZlO,2nE,2TWO,2svE,2FOUR",
      "2FIVE,2SIX,2SEVr,2Ef,2NgE,1SIGN OLtTAMIL VIRAMA,1kTTl OLtTAMILoHORT E,5O",
      "1VOWELw OLtTAMILoHORT E,6O,1kTTl OLtTAMIL LLA"]),
    (0x1107F, [
      "0BRAHMI NUMBl JOgl,0KAIsIw CiDRABgDU,2iUSVeA,2VISeGA,1kTTl A,2AA,2I,2II,2U,2UU,2E,2AI,2O",
      "2AU,2KA,2Kz,2GA,2Gz,2NGA,2CA,2Cz,2JA,2Jz,2NYA,2TTA,2TsA,2DDA,2DDDz,2DDz,2Rz,2NNA,2TA,2sA",
      "2DA,2Dz,2NA,2PA,2Pz,2BA,2Bz,2MA,2YA,2RA,2LA,2VA,2Sz,2SSA,2SA,2z,1VOWELw AA,3I,3II,3U,3UU",
      "3E,3AI,3O,3AU,1SIGN VIRAMA,2NUKTA,1ABBvVIAunw,1rUMlAunw,1NUMBlw,1SECun MeK",
      "1yUBkoECun MeK,1DiDA,1yUBk DiDA,1VOWELw VOCcIC R"]),
    (0x110CD, ["0KAIsI NUMBlwq"]),
    (0x110D0, [
      "0SORAoOMPrGaSAH,3TAH,3BAH,3CAH,3DAH,3GAH,3MAH,3NGAH,3LAH,3NAH,3VAH,3PAH,3YAH,3RAH,3zH",
      "3KAH,3JAH,3NYAH,3AH,3EEH,3IH,3UH,3OH,3EH,3MAE"]),
    (0x110F0, ["0SORAoOMPrG DIGIT ZlO,3nE,3TWO,3svE,3FOUR,3FIVE,3SIX,3SEVr,3Ef,3NgE"]),
    (0x11100, [
      "0CzKMAw CiDRABgDU,2iUSVeA,2VISeGA,1kTTl AA,2I,2U,2E,2KAA,2KzA,2GAA,2GzA,2NGAA,2CAA,2CzA",
      "2JAA,2JzA,2NYAA,2TTAA,2TsAA,2DDAA,2DDzA,2NNAA,2TAA,2sAA,2DAA,2DzA,2NAA,2PAA,2PzA,2BAA",
      "2BzA,2MAA,2YYAA,2YAA,2RAA,2LAA,2WAA,2SAA,2zA,1VOWELw A,3I,3II,3U,3UU,3E,3AI,3O,3AU,3OI",
      "1O MeK,1AU MeK,1VIRAMA,1MAAYYAA"]),
    (0x11136, [
      "0CzKMA DIGIT ZlO,2nE,2TWO,2svE,2FOUR,2FIVE,2SIX,2SEVr,2Ef,2NgE,1SECun MeK,1DiDA",
      "1yUBk DiDA,1QUESun MeK,1kTTl LzA,1VOWELw AA,3EI,1kTTl VAA"]),
    (0x11150, [
      "0MAzJiIaA,2I,2U,2E,2O,2KA,2Kz,2GA,2Gz,2CA,2Cz,2JA,2Jz,2NYA,2TTA,2TsA,2DDA,2DDz,2NNA,2TA",
      "2sA,2DA,2Dz,2NA,2PA,2Pz,2BA,2Bz,2MA,2RA,2LA,2VA,2SA,2z,2RRA,1SIGN NUKTA,1ABBvVIAunw",
      "1SECun MeK,1LIGATUvoHRI"]),
    (0x11180, [
      "0SHeADAw CiDRABgDU,2iUSVeA,2VISeGA,1kTTl A,2AA,2I,2II,2U,2UU,2VOCcIC R,3RR,3L,3LL,2E,2AI",
      "2O,2AU,2KA,2Kz,2GA,2Gz,2NGA,2CA,2Cz,2JA,2Jz,2NYA,2TTA,2TsA,2DDA,2DDz,2NNA,2TA,2sA,2DA",
      "2Dz,2NA,2PA,2Pz,2BA,2Bz,2MA,2YA,2RA,2LA,2LLA,2VA,2Sz,2SSA,2SA,2z,1VOWELw AA,3I,3II,3U",
      "3UU,3VOCcIC R,4RR,4L,4LL,3E,3AI,3O,3AU,1SIGN VIRAMA,2AVAGRAz,2JIHVAMULIYA,2UPADHMiIYA",
      "1OM,1DiDA,1yUBk DiDA,1ABBvVIAunw,1SEPeATOR,1SiDHI MeK,1SIGN NUKTA,1VOWEL MODIFIl MeK",
      "1EXTRAoHORT VOWEL MeK,1SUTRA MeK,1VOWELw PRISHsAMATRA E,1SIGN gVlTEtCiDRABgDU,1DIGIT ZlO",
      "2nE,2TWO,2svE,2FOUR,2FIVE,2SIX,2SEVr,2Ef,2NgE,1EKAM,1SIGNoIDDzM,1HEADSTROKE,1CnTgUAunw",
      "1SECun MeK-1,2MeK-2"]),
    (0x111E1, [
      "0SgHcA eCzIC DIGIT nE,3TWO,3svE,3FOUR,3FIVE,3SIX,3SEVr,3Ef,3NgE,2NUMBl Tr,3TWrTY,3sIRTY",
      "3FORTY,3FIFTY,3SIXTY,3SEVrTY,3EfY,3NgETY,3nE HUNDvD,4sOUSiD"]),
    (0x11200, ["0KHOJKIaA,2AA,2I,2U,2E,2AI,2O,2AU,2KA,2Kz,2GA,2GGA,2Gz,2NGA,2CA,2Cz,2JA,2JJA"]),
    (0x11213, [
      "0KHOJKIaNYA,2TTA,2TsA,2DDA,2DDz,2NNA,2TA,2sA,2DA,2DDDA,2Dz,2NA,2PA,2Pz,2BA,2BBA,2Bz,2MA",
      "2YA,2RA,2LA,2VA,2SA,2z,2LLA,1VOWELw AA,3I,3II,3U,3E,3AI,3O,3AU,1SIGN iUSVeA,2VIRAMA",
      "2NUKTA,2SzDDA,1DiDA,1yUBk DiDA,1WORDoEPeATOR,1SECun MeK,1yUBkoECun MeK,1ABBvVIAunw",
      "1SIGNoUKUN"]),
    (0x11280, ["0MULTiIaA,2I,2U,2E,2KA,2Kz,2GA"]),
    (0x11288, ["0MULTiIaGz"]),
    (0x1128A, ["0MULTiIaCA,2Cz,2JA,2JJA"]),
    (0x1128F, ["0MULTiIaNYA,2TTA,2TsA,2DDA,2DDDA,2DDz,2NNA,2TA,2sA,2DA,2Dz,2NA,2PA,2Pz,2BA"]),
    (0x1129F, ["0MULTiIaBz,2MA,2YA,2RA,2LA,2VA,2SA,2z,2RRA,2Rz,1SECun MeK"]),
    (0x112B0, [
      "0KHUDAWADIaA,2AA,2I,2II,2U,2UU,2E,2AI,2O,2AU,2KA,2Kz,2GA,2GGA,2Gz,2NGA,2CA,2Cz,2JA,2JJA",
      "2Jz,2NYA,2TTA,2TsA,2DDA,2DDDA,2RRA,2DDz,2NNA,2TA,2sA,2DA,2Dz,2NA,2PA,2Pz,2BA,2BBA,2Bz",
      "2MA,2YA,2RA,2LA,2VA,2Sz,2SA,2z,1SIGN iUSVeA,1VOWELw AA,3I,3II,3U,3UU,3E,3AI,3O,3AU",
      "1SIGN NUKTA,2VIRAMA"]),
    (0x112F0, ["0KHUDAWADI DIGIT ZlO,2nE,2TWO,2svE,2FOUR,2FIVE,2SIX,2SEVr,2Ef,2NgE"]),
    (0x11300, ["0GRisAw COMBggG iUSVeAq,2CiDRABgDU,2iUSVeA,2VISeGA"]),
    (0x11305, ["0GRisAaA,2AA,2I,2II,2U,2UU,2VOCcIC R,3L"]),
    (0x1130F, ["0GRisAaEE,2AI"]),
    (0x11313, [
      "0GRisAaOO,2AU,2KA,2Kz,2GA,2Gz,2NGA,2CA,2Cz,2JA,2Jz,2NYA,2TTA,2TsA,2DDA,2DDz,2NNA,2TA,2sA",
      "2DA,2Dz,2NA"]),
    (0x1132A, ["0GRisAaPA,2Pz,2BA,2Bz,2MA,2YA,2RA"]),
    (0x11332, ["0GRisAaLA,2LLA"]),
    (0x11335, ["0GRisAaVA,2Sz,2SSA,2SA,2z"]),
    (0x1133B, [
      "0COMBggG BgDU BELOW,0GRisAw NUKTA,2AVAGRAz,1VOWELw AA,3I,3II,3U,3UU,3VOCcIC R,4RR"]),
    (0x11347, ["0GRisA VOWELw EE,3AI"]),
    (0x1134B, ["0GRisA VOWELw OO,3AU,1SIGN VIRAMA"]),
    (0x11350, ["0GRisA OM"]),
    (0x11357, ["0GRisA AU kNGs MeK"]),
    (0x1135D, [
      "0GRisAw PLUTA,1kTTl VEDIC iUSVeA,3yUBk iUSVeA,2VOCcIC RR,3LL,1VOWELw VOCcIC L,4LL"]),
    (0x11366, ["0COMBggG GRisA DIGIT ZlO,3nE,3TWO,3svE,3FOUR,3FIVE,3SIX"]),
    (0x11370, ["0COMBggG GRisAaA,3KA,3NA,3VI,3PA"]),
    (0x11400, [
      "0NEWAaA,2AA,2I,2II,2U,2UU,2VOCcIC R,3RR,3L,3LL,2E,2AI,2O,2AU,2KA,2Kz,2GA,2Gz,2NGA,2NGz",
      "2CA,2Cz,2JA,2Jz,2NYA,2NYz,2TTA,2TsA,2DDA,2DDz,2NNA,2TA,2sA,2DA,2Dz,2NA,2Nz,2PA,2Pz,2BA",
      "2Bz,2MA,2Mz,2YA,2RA,2Rz,2LA,2Lz,2WA,2Sz,2SSA,2SA,2z,1VOWELw AA,3I,3II,3U,3UU,3VOCcIC R",
      "4RR,4L,4LL,3E,3AI,3O,3AU,1SIGN VIRAMA,2CiDRABgDU,2iUSVeA,2VISeGA,2NUKTA,2AVAGRAz",
      "2Fgc iUSVeA,1OM,1SIDDHI,1DiDA,1yUBk DiDA,1COMMA,1GAP FILkR,1ABBvVIAunw,1DIGIT ZlO,2nE",
      "2TWO,2svE,2FOUR,2FIVE,2SIX,2SEVr,2Ef,2NgE,1yUBk COMMA,1PLACEHOLDl MeK"]),
    (0x1145D, ["0NEWA gSlunw,1SiDHI MeK,1kTTl VEDIC iUSVeA,1SIGN JIHVAMULIYA,2UPADHMiIYA"]),
    (0x11480, [
      "0uRHUTA iJI,1kTTl A,2AA,2I,2II,2U,2UU,2VOCcIC R,3RR,3L,3LL,2E,2AI,2O,2AU,2KA,2Kz,2GA,2Gz",
      "2NGA,2CA,2Cz,2JA,2Jz,2NYA,2TTA,2TsA,2DDA,2DDz,2NNA,2TA,2sA,2DA,2Dz,2NA,2PA,2Pz,2BA,2Bz",
      "2MA,2YA,2RA,2LA,2VA,2Sz,2SSA,2SA,2z,1VOWELw AA,3I,3II,3U,3UU,3VOCcIC R,4RR,4L,4LL,3E",
      "3SHORT E,3AI,3O,3SHORT O,3AU,1SIGN CiDRABgDU,2iUSVeA,2VISeGA,2VIRAMA,2NUKTA,2AVAGRAz",
      "1GViG,1ABBvVIAunw,1OM"]),
    (0x114D0, ["0uRHUTA DIGIT ZlO,2nE,2TWO,2svE,2FOUR,2FIVE,2SIX,2SEVr,2Ef,2NgE"]),
    (0x11580, [
      "0SIDDzMaA,2AA,2I,2II,2U,2UU,2VOCcIC R,3RR,3L,3LL,2E,2AI,2O,2AU,2KA,2Kz,2GA,2Gz,2NGA,2CA",
      "2Cz,2JA,2Jz,2NYA,2TTA,2TsA,2DDA,2DDz,2NNA,2TA,2sA,2DA,2Dz,2NA,2PA,2Pz,2BA,2Bz,2MA,2YA",
      "2RA,2LA,2VA,2Sz,2SSA,2SA,2z,1VOWELw AA,3I,3II,3U,3UU,3VOCcIC R,4RR"]),
    (0x115B8, [
      "0SIDDzM VOWELw E,3AI,3O,3AU,1SIGN CiDRABgDU,2iUSVeA,2VISeGA,2VIRAMA,2NUKTA,2SIDDzM,1DiDA",
      "1yUBk DiDA,1SEPeATOR yT,2Be,1vPEuun MeK-1,2MeK-2,2MeK-3,1rtOF TEXT MeK",
      "1SECun MeKbTRIDrT itU-SzPEtORNAMrTS,6yTTEtCvSCrTS,4RAYS ityTTEtCvSCrTS,7yUBk CvSCrTS",
      "7TRIPk CvSCrTS,3yUBk RgG,5WIs RAYS,3WIs yUBk CvSCrTS,4TRIPk CvSCrTS,4QUADRUPk CvSCrTS",
      "4SEPTUPk CvSCrTS,4CIRCkS itRAYS,6TWO rCLOSUvS,6FOUR rCLOSUvS,1kTTl svE-CIRCk cTlNATE I",
      "2TWO-CIRCk cTlNATE I,4II,2cTlNATE U,1VOWELw cTlNATE U,4UU"]),
    (0x11600, [
      "0MODIaA,2AA,2I,2II,2U,2UU,2VOCcIC R,3RR,3L,3LL,2E,2AI,2O,2AU,2KA,2Kz,2GA,2Gz,2NGA,2CA",
      "2Cz,2JA,2Jz,2NYA,2TTA,2TsA,2DDA,2DDz,2NNA,2TA,2sA,2DA,2Dz,2NA,2PA,2Pz,2BA,2Bz,2MA,2YA",
      "2RA,2LA,2VA,2Sz,2SSA,2SA,2z,2LLA,1VOWELw AA,3I,3II,3U,3UU,3VOCcIC R,4RR,4L,4LL,3E,3AI,3O",
      "3AU,1SIGN iUSVeA,2VISeGA,2VIRAMA,2eDzCiDRA,1DiDA,1yUBk DiDA,1ABBvVIAunw,1SIGN HUVA"]),
    (0x11650, ["0MODI DIGIT ZlO,2nE,2TWO,2svE,2FOUR,2FIVE,2SIX,2SEVr,2Ef,2NgE"]),
    (0x11660, [
      "0MnGOLIi BIRGAbORNAMrT,1ROTATEtBIRGA,1yUBk BIRGAbORNAMrT,1TRIPk BIRGAbORNAMrT",
      "1BIRGAbyUBk ORNAMrT,1ROTATEtBIRGAbORNAMrT,4yUBk ORNAMrT,1gVlTEtBIRGA,3WIs yUBk ORNAMrT",
      "1SWIRL BIRGA,3WIs ORNAMrT,4yUBk ORNAMrT,1TURNEDoWIRL BIRGAbyUBk ORNAMrT"]),
    (0x11680, [
      "0TAKRIaA,2AA,2I,2II,2U,2UU,2E,2AI,2O,2AU,2KA,2Kz,2GA,2Gz,2NGA,2CA,2Cz,2JA,2Jz,2NYA,2TTA",
      "2TsA,2DDA,2DDz,2NNA,2TA,2sA,2DA,2Dz,2NA,2PA,2Pz,2BA,2Bz,2MA,2YA,2RA,2LA,2VA,2Sz,2SA,2z",
      "2RRA,1SIGN iUSVeA,2VISeGA,1VOWELw AA,3I,3II,3U,3UU,3E,3AI,3O,3AU,1SIGN VIRAMA,2NUKTA",
      "1kTTl eCzIC Kz,1ABBvVIAunw"]),
    (0x116C0, ["0TAKRI DIGIT ZlO,2nE,2TWO,2svE,2FOUR,2FIVE,2SIX,2SEVr,2Ef,2NgE"]),
    (0x11700, [
      "0AHOMaKA,2Kz,2NGA,2NA,2TA,2cTlNATE TA,2PA,2Pz,2BA,2MA,2JA,2Cz,2sA,2RA,2LA,2SA,2NYA,2z,2A",
      "2DA,2Dz,2GA,2cTlNATE GA,2Gz,2Bz,2Jz,2cTlNATE BA"]),
    (0x1171D, [
      "0AHOM CnSniTw MEDIc LA,4RA,4LIGATgG RA,1VOWELw A,3AA,3I,3II,3U,3UU,3E,3AW,3O,3AI,3AM",
      "1SIGN KILkR"]),
    (0x11730, [
      "0AHOM DIGIT ZlO,2nE,2TWO,2svE,2FOUR,2FIVE,2SIX,2SEVr,2Ef,2NgE,1NUMBl Tr,2TWrTY",
      "1SIGN joECun,2SECun,2RULAI,1SYMBOL VI,1kTTl CA,2TTA,2TsA,2DDA,2DDz,2NNA,2LLA"]),
    (0x11800, [
      "0yGRAaA,2AA,2I,2II,2U,2UU,2E,2AI,2O,2AU,2KA,2Kz,2GA,2Gz,2NGA,2CA,2Cz,2JA,2Jz,2NYA,2TTA",
      "2TsA,2DDA,2DDz,2NNA,2TA,2sA,2DA,2Dz,2NA,2PA,2Pz,2BA,2Bz,2MA,2YA,2RA,2LA,2VA,2Sz,2SSA,2SA",
      "2z,2RRA,1VOWELw AA,3I,3II,3U,3UU,3VOCcIC R,4RR,3E,3AI,3O,3AU,1SIGN iUSVeA,2VISeGA",
      "2VIRAMA,2NUKTA,1ABBvVIAunw"]),
    (0x118A0, [
      "0WeiG CIu dNGAA,4A,4WI,4YU,4YA,4YO,4II,4UU,4E,4O,4iG,4GA,4KO,4rY,4YUJ,4UC,4rN,4ODD,4TTE",
      "4NUNG,4DA,4AT,4AM,4BU,4PU,4HIYO,4HOLO,4HORR,4He,4SSUU,4SII,4VIYO,2jaNGAA,4A,4WI,4YU,4YA",
      "4YO,4II,4UU,4E,4O,4iG,4GA,4KO,4rY,4YUJ,4UC,4rN,4ODD,4TTE,4NUNG,4DA,4AT,4AM,4BU,4PU,4HIYO",
      "4HOLO,4HORR,4He,4SSUU,4SII,4VIYO,2DIGIT ZlO,3nE,3TWO,3svE,3FOUR,3FIVE,3SIX,3SEVr,3Ef",
      "3NgE,2NUMBl Tr,3TWrTY,3sIRTY,3FORTY,3FIFTY,3SIXTY,3SEVrTY,3EfY,3NgETY"]),
    (0x118FF, ["0WeiG CIu OM,0DIVES AKURUaA,3AA,3I,3II,3U,3UU,3E"]),
    (0x11909, ["0DIVES AKURUaO"]),
    (0x1190C, ["0DIVES AKURUaKA,3Kz,3GA,3Gz,3NGA,3CA,3Cz,3JA"]),
    (0x11915, ["0DIVES AKURUaNYA,3TTA"]),
    (0x11918, [
      "0DIVES AKURUaDDA,3DDz,3NNA,3TA,3sA,3DA,3Dz,3NA,3PA,3Pz,3BA,3Bz,3MA,3YA,3YYA,3RA,3LA,3VA",
      "3Sz,3SSA,3SA,3z,3LLA,3ZA,2VOWELw AA,4I,4II,4U,4UU,4E"]),
    (0x11937, ["0DIVES AKURU VOWELw AI,4O"]),
    (0x1193B, [
      "0DIVES AKURUw iUSVeA,3CiDRABgDU,3HciTA,2VIRAMA,2PvFIXEtNAScw,2MEDIc YA,2gIuc RA",
      "2MEDIc RA,2SIGN NUKTA,2yUBk DiDA,2GAP FILkR,2rtOF TEXT MeK"]),
    (0x11950, ["0DIVES AKURU DIGIT ZlO,3nE,3TWO,3svE,3FOUR,3FIVE,3SIX,3SEVr,3Ef,3NgE"]),
    (0x119A0, ["0NiDgAGeIaA,2AA,2I,2II,2U,2UU,2VOCcIC R,3RR"]),
    (0x119AA, [
      "0NiDgAGeIaE,2AI,2O,2AU,2KA,2Kz,2GA,2Gz,2NGA,2CA,2Cz,2JA,2Jz,2NYA,2TTA,2TsA,2DDA,2DDz",
      "2NNA,2TA,2sA,2DA,2Dz,2NA,2PA,2Pz,2BA,2Bz,2MA,2YA,2RA,2LA,2VA,2Sz,2SSA,2SA,2z,2LLA,2RRA",
      "1VOWELw AA,3I,3II,3U,3UU,3VOCcIC R,4RR"]),
    (0x119DA, [
      "0NiDgAGeI VOWELw E,3AI,3O,3AU,1SIGN iUSVeA,2VISeGA,2VIRAMA,2AVAGRAz,2SIDDzM,1HEADSTROKE",
      "1VOWELw PRISHsAMATRA E"]),
    (0x11A00, [
      "0ZiABAZeoQUeEaA,2VOWELw I,4UE,4U,4E,4OE,4O,4AI,4AU,4vVlSEtI,3kNGs MeK,2kTTl KA,3Kz,3GA",
      "3Gz,3NGA,3CA,3Cz,3JA,3NYA,3TTA,3TsA,3DDA,3DDz,3NNA,3TA,3sA,3DA,3Dz,3NA,3PA,3Pz,3BA,3Bz",
      "3MA,3TSA,3TSz,3DZA,3DZz,3Zz,3ZA,3-A,3YA,3RA,3LA,3VA,3Sz,3SSA,3SA,3z,3KSSA",
      "2Fgc CnSniT MeK,2SIGN VIRAMA,3CiDRABgDU,4WIs ORNAMrT,3CiDRAbORNAMrT,3iUSVeA,3VISeGA",
      "2CLUSTl-gIucaRA,2CLUSTl-FgcaYA,4RA,4LA,4VA,2gIuc HEAtMeK,2CLOSgG HEAtMeK,2MeK TSHEG,3SzD",
      "3yUBkozD,3LnG TSHEG,2gIuc yUBk-LgEtHEAtMeK,2CLOSgG yUBk-LgEtHEAtMeK,2SUBJOgl"]),
    (0x11A50, [
      "0SOYOMBOaA,1VOWELw I,3UE,3U,3E,3O,3OE,3AI,3AU,3VOCcIC R,4L,2kNGs MeK,1kTTl KA,2Kz,2GA",
      "2Gz,2NGA,2CA,2Cz,2JA,2Jz,2NYA,2TTA,2TsA,2DDA,2DDz,2NNA,2TA,2sA,2DA,2Dz,2NA,2PA,2Pz,2BA",
      "2Bz,2MA,2TSA,2TSz,2DZA,2Zz,2ZA,2-A,2YA,2RA,2LA,2VA,2Sz,2SSA,2SA,2z,2KSSA",
      "1SIGN JIHVAMULIYA,2UPADHMiIYA,1CLUSTl-gIucaRA,3LA,3Sz,3SA,1Fgc CnSniTw G,4K,4NG,4D,4N,4B",
      "4M,4R,4L,4SH,4S,4-A,1SIGN iUSVeA,2VISeGA,1GEMgAun MeK,1SUBJOgl,1MeK TSHEG,2SzD,2yUBkozD",
      "2PLUTA,1HEAtMeKbMOn iDoUN itTRIPk FLAME,8FLAME,6SUN,1TlMgc MeK-1,2MeK-2"]),
    (0x11AB0, [
      "0CiADIioYLLABICS NATuLIK HI,3HII,3HO,3HOO,3z,3zA,3SHRI,3SHRII,3SHRO,3SHROO,3SHRA,3SHRAA",
      "2SPE,2SPI,2SPO,2SPA,0PAU Cg zUaPA,4KA,4LA,4MA,4DA,4ZA,4VA,4NGA,4z,4GA,4Kz,4SA,4BA,4CA",
      "4TA,4sA,4NA,4Pz,4RA,4FA,4Cz,4A,4E,4I,4O,4U,4UA,4IA,4Fgc P,5K,5T,5M,5N,5L,5W,5NG,5Y",
      "3RISgG TnE LnG,4TnE,3SiDHI GLOTTcoTOP,3RISgG TnE LnG Fgc,5Fgc,3SiDHI GLOTTcoTOP Fgc",
      "4TnE LnG,4TnE,5LnG Fgc,5Fgc,3MID-kVEL TnE,3GLOTTcoTOP VeIiT,3MID-kVEL TnE LnG Fgc,5Fgc",
      "3LOW-FcLgG TnE LnG,4TnE,3GLOTTcoTOP,3LOW-FcLgG TnE LnG Fgc,5Fgc,3GLOTTcoTOP Fgc"]),
    (0x11C00, ["0BzIKSUKIaA,2AA,2I,2II,2U,2UU,2VOCcIC R,3RR,3L"]),
    (0x11C0A, [
      "0BzIKSUKIaE,2AI,2O,2AU,2KA,2Kz,2GA,2Gz,2NGA,2CA,2Cz,2JA,2Jz,2NYA,2TTA,2TsA,2DDA,2DDz",
      "2NNA,2TA,2sA,2DA,2Dz,2NA,2PA,2Pz,2BA,2Bz,2MA,2YA,2RA,2LA,2VA,2Sz,2SSA,2SA,2z,1VOWELw AA",
      "3I,3II,3U,3UU,3VOCcIC R,4RR,4L"]),
    (0x11C38, [
      "0BzIKSUKI VOWELw E,3AI,3O,3AU,1SIGN CiDRABgDU,2iUSVeA,2VISeGA,2VIRAMA,2AVAGRAz,1DiDA",
      "1yUBk DiDA,1WORDoEPeATOR,1GAP FILkR-1,2FILkR-2"]),
    (0x11C50, [
      "0BzIKSUKI DIGIT ZlO,2nE,2TWO,2svE,2FOUR,2FIVE,2SIX,2SEVr,2Ef,2NgE,1NUMBl nE,2TWO,2svE",
      "2FOUR,2FIVE,2SIX,2SEVr,2Ef,2NgE,2Tr,2TWrTY,2sIRTY,2FORTY,2FIFTY,2SIXTY,2SEVrTY,2EfY",
      "2NgETY,1HUNDvDS UNIT MeK"]),
    (0x11C70, [
      "0MeCHr HEAtMeK,1MeKozD,1kTTl KA,2Kz,2GA,2NGA,2CA,2Cz,2JA,2NYA,2TA,2sA,2DA,2NA,2PA,2Pz",
      "2BA,2MA,2TSA,2TSz,2DZA,2WA,2Zz,2ZA,2-A,2YA,2RA,2LA,2Sz,2SA,2z,2A"]),
    (0x11C92, [
      "0MeCHroUBJOgEDaKA,3Kz,3GA,3NGA,3CA,3Cz,3JA,3NYA,3TA,3sA,3DA,3NA,3PA,3Pz,3BA,3MA,3TSA",
      "3TSz,3DZA,3WA,3Zz,3ZA"]),
    (0x11CA9, [
      "0MeCHroUBJOgEDaYA,3RA,3LA,3Sz,3SA,3z,3A,1VOWELw AA,3I,3U,3E,3O,1SIGN iUSVeA,2CiDRABgDU"]),
    (0x11D00, ["0MASeAM GnDIaA,3AA,3I,3II,3U,3UU,3E"]),
    (0x11D08, ["0MASeAM GnDIaAI,3O"]),
    (0x11D0B, [
      "0MASeAM GnDIaAU,3KA,3Kz,3GA,3Gz,3NGA,3CA,3Cz,3JA,3Jz,3NYA,3TTA,3TsA,3DDA,3DDz,3NNA,3TA",
      "3sA,3DA,3Dz,3NA,3PA,3Pz,3BA,3Bz,3MA,3YA,3RA,3LA,3VA,3Sz,3SSA,3SA,3z,3LLA,3KSSA,3JNYA",
      "3TRA,2VOWELw AA,4I,4II,4U,4UU,4VOCcIC R"]),
    (0x11D3A, ["0MASeAM GnDI VOWELw E"]),
    (0x11D3C, ["0MASeAM GnDI VOWELw AI,4O"]),
    (0x11D3F, [
      "0MASeAM GnDI VOWELw AU,2SIGN iUSVeA,3VISeGA,3NUKTA,3CiDRA,3HciTA,2VIRAMA,2vPz,2RA-KeA"]),
    (0x11D50, ["0MASeAM GnDI DIGIT ZlO,3nE,3TWO,3svE,3FOUR,3FIVE,3SIX,3SEVr,3Ef,3NgE"]),
    (0x11D60, ["0GUNJcA GnDIaA,3AA,3I,3II,3U,3UU"]),
    (0x11D67, ["0GUNJcA GnDIaEE,3AI"]),
    (0x11D6A, [
      "0GUNJcA GnDIaOO,3AU,3YA,3VA,3BA,3Bz,3MA,3KA,3Kz,3TA,3sA,3LA,3GA,3Gz,3DA,3Dz,3NA,3CA,3Cz",
      "3TTA,3TsA,3LLA,3JA,3Jz,3DDA,3DDz,3NGA,3PA,3Pz,3z,3RA,3SA,2VOWELw AA,4I,4II,4U,4UU"]),
    (0x11D90, ["0GUNJcA GnDI VOWELw EE,4AI"]),
    (0x11D93, ["0GUNJcA GnDI VOWELw OO,4AU,2SIGN iUSVeA,3VISeGA,2VIRAMA,2OM"]),
    (0x11DA0, ["0GUNJcA GnDI DIGIT ZlO,3nE,3TWO,3svE,3FOUR,3FIVE,3SIX,3SEVr,3Ef,3NgE"]),
    (0x11EE0, [
      "0MAKASeaKA,2GA,2NGA,2PA,2BA,2MA,2TA,2DA,2NA,2CA,2JA,2NYA,2YA,2RA,2LA,2VA,2SA,2A,1iGKA",
      "1VOWELw I,3U,3E,3O,1PASSIMBiG,1rtOFoECun"]),
    (0x11FB0, ["0LISUaYz"]),
    (0x11FC0, [
      "0TAMIL FRACun nE svE-HUNDvD-iD-TWruEs,3nE-HUNDvD-iD-SIXuEs,3EfIEs,3SIXTY-FOURs,3FORuEs",
      "3sIRTY-SECnD,2svE EfIEsS,3SIXTY-FOURsS,2nE TWruEs,3SIXTErs-1,3SIXTErs-2,3Trs,3EfH",
      "2svE TWruEsS,3SIXTErsS,2nE FIFs,3QUeTl,3HcF-1,3HcF-2,2svE QUeTlS,2yWNSCcgG FACTOR KIIZH",
      "1SIGN NEL,2CEVITU,2AAZzAKKU,2UZzKKU,2MUUVUZzKKU,2KURUNI,2PAsAKKU,2MUKKURUNI,2KAACU,2PiAM",
      "2Pn,2VeAAKi,2PAeAM,2KUZHI,2VELI,1WET CULuVAunw,1DRY CULuVAunw,1LiDw,1ScT Piw",
      "1TRADIunc CvDITw,2NUMBlw,1CURRrTw,1itODDw,1SPrTw,1TOTcw,1g POSSESSInw,1STeTgG FROMw",
      "1SIGN MUscIYA,2VAKAIYeAA"]),
    (0x11FFF, [
      "0TAMIL PUNCTUAun rtOF TEXT,0CUNEIFORMw A,3uMES A,4BAD,4Gi2 TrU,4z,4IGI,4LAGe GUNU,4MUSH",
      "4SAG,2A2,2AB,3uMES ASH2,4DUN3 GUNU,4Gc,4Gi2 TrU,4z,4IGI GUNU,4IMg,4LAGAB,4SHESH",
      "4U PLUS U PLUS U,3GUNU,2AB2,3uMES BcAG,4Gi2 TrU,4ME PLUS r,4Sz3,4TAK4,2AD,2AK,3uMES lg2",
      "4SHITA PLUS GISH,2c,3uMES c,4DIM2,4GISH,4z,4KAD3,4KI,4SHE,4USH,2ci,2cEPH,2AMe,3uMESoHE",
      "2i,3OVl i,3svE uMES,3PLUS NAGA OPPOSgG i PLUS NAGA,5SQUeED,2iSHE,2APg,2eAD,3uMES KUR",
      "2eKAB,2ASc2,2ASH,3ZIDA TrU,3KABA TrU,3OVl ASH TUG2 OVl TUG2 TUG2 OVl TUG2 PAP,5OVl ASH",
      "7CROSSgG ASH OVl ASH OVl ASH,2ASH2,2ASHGAB,2BA,2BAD,2BAG3,2BAHe2,2Bc,3OVl Bc,2BcAG,2Be",
      "2BeA2,2BI,3uMES A,4Ge,4IGI GUNU,2BU,3OVl BU AB,5UN,3CROSSgG BU,2BULUG,3OVl BULUG,2BUR",
      "2BUR2,2DA,2DAG,3KISIM5 uMES A PLUS MASH,5AMe,5BcAG,5BI,5GA,6PLUS MASH,5GI,5GIR2,5GUD,5z",
      "5IR,6PLUS LU,5KAK,5LA,5LU,6PLUS MASH2,5LUM,5NE,5PAP PLUS PAP,5SI,5TAK4,5U2 PLUS GIR2",
      "5USH,2DAM,2De,2DeA3,2DeA4,2DI,2DIB,2DIM,3uMESoHE,2DIM2,2Dg,3KASKc U GUNU DISH,2DISH,2DU",
      "3OVl DU,3GUNU,3SHESHIG,2DUB,3uMES ESH2,2DUB2,2DUG,2DUGUD,2DUH,2DUN,2DUN3,3GUNU,4GUNU",
      "2DUN4,2DUR2,2E,3uMES PAP,3OVl E NUN OVl NUN,2E2,3uMES A PLUS z PLUS DA,4Ge,4MI,4Sc,4SHE",
      "4U,2EDg,2EGIR,2EL,2r,3uMES Gi2,5TrU,4ME,3CROSSgG r,3OPPOSgG r,3SQUeED,2lr,2lg2,2ESH2",
      "2EZr,3uMES A,5PLUS Lc,7uMES Lc,4i,4BAD,4DUN3 GUNU,6GUNU,4z,5GUNU,4IGI GUNU,4KASKc",
      "5SQUeED,4KU3,4LA,4Lc uMES Lc,4LI,4LU,4U2,4UD,2GA,3GUNU,2GA2,3uMES A PLUS DA PLUS z,6z",
      "6IGI,4AB2 TrU PLUS TAB,4i,4ASH,4ASH2 PLUS Gc,4BAD,4Be PLUS RA,4BUR,5PLUS RA,4DA,4DI",
      "4DIM uMESoHE,4DUB,4EL,5PLUS LA,4r,5uMES Gi2 TrU,4Gi2 TrU,4Ge,4GI,4GI4,5PLUS A",
      "4GIR2 PLUSoU,4z PLUS LU PLUS ESH2,4Hc,5PLUS LA,4HI PLUS LI,4HUB2,4IGI GUNU",
      "4ISH PLUS HU PLUS ASH,4KAK,4KASKc,4KID,5PLUS Lc,4KU3 PLUS i,4LA,4ME PLUS r,4MI,4NUN",
      "5OVl NUN,4PA,4Sc,4Se,4SHE,5PLUS TUR,4SHID,4SUM,4TAK4,4U,4UD,5PLUS DU,3OVl GA2,2GABA",
      "3CROSSgG GABA,2GAD,3OVl GAtGe OVl Ge,2Gc,3GAtOVl GAtGe OVl Ge,2GcAM,2GAM,2Gi,2Gi2,3TrU",
      "3OVl Gi2,3CROSSgG Gi2,2Ge,2Ge3,2GASHi,2GESHTg,3uMES KUR,2GI,3uMES E,4U,3CROSSgG GI,2GI4",
      "3OVl GI4,3CROSSgG GI4,2GIDIM,2GIR2,3GUNU,2GIR3,3uMES A PLUS IGI,4Gi2 TrU,4IGI",
      "4LU PLUS IGI,4PA,2GISc,2GISH,3CROSSgG GISH,3uMES BAD,4TAK4,3TrU,2GU,3CROSSgG GU,2GU2",
      "3uMES KAK,5uMES IGI GUNU,4NUN,4Sc PLUS TUG2,3GUNU,2GUD,3uMES A PLUS KUR,4KUR",
      "3OVl GUtLUGc,2GUL,2GUM,3uMESoHE,2GUR,2GUR7,2GURUN,2GURUSH,2z,3TrU,3GUNU,2Hc,2HI",
      "3uMES ASH,4ASH2,4BAD,4DISH,4GAD,4Kg,4NUN,4SHE,4U,2HU,2HUB2,3uMES i,4Hc,4KASKc,4LISH,4UD",
      "2HUL2,2I,3A,2IB,2IDIM,3OVl IDIM BUR,5SQUeED,2IG,2IGI,3DIB,3RI",
      "3OVl IGIoHIR OVloHIR UtOVl UD,3GUNU,2IL,3uMES Gi2 TrU,2IL2,2IM,3uMES TAK4,3CROSSgG IM",
      "3OPPOSgG IM,3SQUeED,2IMg,2g,2IR,2ISH,2KA,3uMES A,4AD,5PLUS KU3,4ASH2,4BAD,4BcAG,4Be,4BI",
      "4lg2,4ESH2,4GA,4Gc,4Gi2 TrU,4Ge,5PLUSoz3 PLUS A,4GI,4GIR2,4GISH PLUSoe,5CROSSgG GISH,4GU",
      "4GUR7,4IGI,4IM,4KAK,4KI,4KID,4LI,4LU,4ME,5PLUS DU,6GI,6TE,4MI,5PLUS NUNUZ,4NE,4NUN,4PI",
      "4RU,4SA,4Se,4Sz,4SHE,4SHID,4SHU,4SIG,4SUHUR,4Te,4U,4U2,4UD,4UMUM uMES PA,4USH,4ZI,2KA2",
      "3CROSSgG KA2,2KAB,2KAD2,2KAD3,2KAD4,2KAD5,3OVl KAD5,2KAK,3uMES IGI GUNU,2Kc,3uMES BAD",
      "3CROSSgG Kc,2KAM2,2KAM4,2KASKc,3LAGAB uMES U OVl LAGAB uMES U",
      "3OVl KASKc LAGAB uMES U OVl LAGAB uMES U,2KESH2,2KI,3uMES BAD,4U,4UD,2KID,2Kg,2KISc",
      "2KISH,2KISIM5,3OVl KISIM5,2KU,3OVl HI uMES ASH2 KU OVl HI uMES ASH2,2KU3,2KU4,3VeIiTh",
      "2KU7,2KUL,3GUNU,2KUN,2KUR,3OPPOSgG KUR,2KUSHU2,2KWU318,2LA,2LAGAB,3uMES A",
      "5PLUS DA PLUS z,6Ge,6Lc,4c,4i,4ASH ZIDA TrU,4BAD,4BI,4De,4r,4GA,4Ge,4GUD,5PLUS GUD,4z",
      "4Hc,4HI uMES NUN,4IGI GUNU,4IM,5PLUS z,6LU,4KI,4Kg,4KU3,4KUL,5PLUS HI PLUS A,4LAGAB",
      "4LISH,4LU,4LUL,4ME,5PLUS r,4MUSH,4NE,4SHE PLUSoUM,4SHITA PLUS GISH PLUS lg2,7TrU,4SHU2",
      "5PLUSoHU2,4SUM,4TAG,4TAK4,4TE PLUS A PLUSoU PLUS NA,4U,5PLUS A,6U PLUS U,4U2 PLUS ASH",
      "4UD,4USH,3SQUeED,2LAGe,3uMESoHE,5PLUSoUM,3GUNU,4OVl LAGe GUNUoHE,2LAHSHU,2Lc,3uMES Lc",
      "2LAM,3uMES KUR,5PLUS RU,2LI,2LIL,2LIMMU2,2LISH,2LU,3uMES BAD,2LU2,3uMES c,4BAD,4ESH2",
      "5TrU,4Gi2 TrU,4HI uMES BAD,4IM,4KAD2,4KAD3,5PLUS ASH,4KI,4LA PLUS ASH,4LAGAB,4ME PLUS r",
      "4NE,4NU,4SI PLUS ASH,4SIK2 PLUS BU,4TUG2,3TrU,3CROSSgG LU2,3OPPOSgG LU2,3SQUeED,3SHESHIG",
      "2LU3,2LUGc,3OVl LUGc,3OPPOSgG LUGc,3SHESHIG,2LUH,2LUL,2LUM,3OVl LUM,5Ge OVl Ge,2MA",
      "3uMES TAK4,3GUNU,2MA2,2MAH,2Me,2MASH,2MASH2,2ME,2MES,2MI,2Mg,2MU,3OVl MU,2MUG,3GUNU",
      "2MUNSUB,2MURGU2,2MUSH,3uMES A,4KUR,4ZA,3OVl MUSH,5uMES A PLUS NA,3CROSSgG MUSH,2MUSH3",
      "3uMES A,5PLUS DI,4DI,3GUNU,2NA,2NA2,2NAGA,3gVlTED,3uMESoHU TrU,3OPPOSgG NAGA,2NAGe",
      "2NAM NUuLLU,2NAM,2NAM2,2NE,3uMES A,4UD,3SHESHIG,2NI,3uMES E,2NI2,2NIM,3uMES Gi2 TrU",
      "4Ge PLUS Gi2 TrU,2NgDA2,3uMES i,4ASH,5PLUS ASH,4GUD,4ME PLUS Gi2 TrU,4NE,4NUN,4SHE",
      "5PLUS A i,6ASH,7PLUS ASH,4U2 PLUS ASH,4USH,2NISAG,2NU,2NU11,2NUN,3LAGe uMES Ge,5MASH,5Sc",
      "6OVl NUN LAGe uMESoc,5USH,3TrU,3OVl NUN,3CROSSgG NUN,5LAGe OVl LAGe,2NUNUZ",
      "3AB2 uMES ASHGAB,5BI,5DUG,5GUD,5IGI GUNU,5KAD3,5LA,5NE,5SILA3,5U2,3KISIM5 uMES BI,6U,2PA",
      "2PAD,2Pi,2PAP,2PESH2,2PI,3uMES A,4AB,4BI,4BU,4E,4I,4IB,4U,4U2,3CROSSgG PI,2PIRIG",
      "3uMES Kc,4UD,4ZA,3OPPOSgG PIRIG,2RA,2RAB,2RI,2RU,2SA,2SAG NUuLLU,2SAG,3uMES A,4DU,4DUB",
      "4z,4KAK,4KUR,4LUM,4MI,4NUN,4Sc,4SHID,4TAB,4U2,4UB,4UM,4UR,4USH,3OVloAG,3GUNU,2Sc",
      "3LAGAB uMES ASH2,2SiGA2,2Se,2Sz,2Sz3,3uMES A,4BAD,4GISH,4NE,4SHU2,4TUR,4U,5PLUS A,2Sz6",
      "2SzB6,2SHe2,2SHE,3HU,3OVloHE GAtOVl GAtGe OVl Ge,5TAB OVl TAB Ge OVl Ge,2SHEG9,2SHr",
      "2SHESH,2SHESH2,2SHESHLAM,2SHID,3uMES A,4IM,2SHIM,3uMES A,4Bc,4BULUG,4Dg,4Ge,4IGI,5GUNU",
      "4KUSHU2,4LUL,4MUG,4Sc,2SHgIG,2SHIR,3TrU,3OVloHIR BUR OVl BUR,2SHITA,2SHU,3OVl gVlTEDoHU",
      "2SHU2,2SHUBUR,2SI,3GUNU,2SIG,2SIG4,3OVloIG4oHU2,2SIK2,2SILA3,2SU,3OVloU,2SUD,2SUD2",
      "2SUHUR,2SUM,2SUMASH,2SUR,2SUR9,2TA,3ASTlISK,3uMES HI,4MI,3GUNU,2TAB",
      "3OVl TAB NI OVl NI DISH OVl DISH,3SQUeED,2TAG,3uMES BI,4GUD,4SHE,4SHU,4TUG2,4UD,2TAK4",
      "2Te,2TE,3GUNU,2u,3TrU,2uL,2uR,3uMES TAK4,3OVl uR,5GAtOVl GAtGe OVl Ge,2TU,2TUG2,2TUK",
      "2TUM,2TUR,3OVl TUR ZA OVl ZA,2U,3GUD,3U U,3OVl U PA OVl PA Ge OVl Ge,5SUR OVloUR",
      "5U vVlSEtOVl U vVlSED,2U2,2UB,2UD,3KUSHU2,3uMES BAD,4MI,4U PLUS U PLUS U,9GUNU,3GUNU",
      "3SHESHIG,4uMES BAD,2UDUG,2UM,3uMES LAGAB,4ME PLUS DA,4Sz3,4U,2UMBg,2UMUM,3uMES KASKc,4PA",
      "2UN,3GUNU,2UR,3CROSSgG UR,3SHESHIG,2UR2,3uMES A PLUS z,6NA,4c,4z,4NUN,4U2,5PLUS ASH,6BI",
      "2UR4,2URI,2URI3,2URU,3uMES A,4ASHGAB,4Be,4DUN,4GA,4Gc,4Gi2 TrU,4Ge,4GU,4z,4IGI,4IM,4ISH",
      "4KI,4LUM,4Mg,4PA,4SHE,4SIG4,4TU,4U PLUS GUD,4UD,4URUDA,2URUDA,3uMES U,2USH,3uMES A,4KU",
      "4KUR,4TAK4,2USHX,2USH2,2USHUMX,2UTUKI,2UZ3,3uMES KASKc,2UZU,2ZA,3TrU,3SQUeEtuMES KUR",
      "2ZAG,2ZAMX,2ZE2,2ZI,3OVl ZI,2ZI3,2ZIB,3KABA TrU,2ZIG,2ZIZ2,2ZU,2ZU5,3uMES A,2ZUBUR,2ZUM",
      "2KAP ELAMITE,2AB uMES NUN,2AB2 uMES A,2AMe uMES KUG,2DAG KISIM5 uMES U2 PLUS MASH,2DAG3",
      "2DISH PLUSoHU,2DUB uMESoHE,2EZr uMES GUD,4SHE,2GA2 uMES i PLUS KAK PLUS A,4ASH2,2GE22",
      "2GIG,2HUSH,2KA uMES iSHE,4ASH3,4GISH,4GUD,4HI uMES ASH2,4LUM,4PA,4SHUL,4TU,4UR2",
      "2LAGAB uMES GI,2LU2oHESHIG uMES BAD,3uMES ESH2 PLUS Lc,4SHU,2MESH,2MUSH3 uMES ZA,2NA4",
      "2Ng,2Ng9,2NgDA2 uMES Bc,4GI,2NU11 ROTATEtNgETY DEGvES,2PESH2 ASTlISK,2PIR2",
      "2SAG uMES IGI GUNU,2u2,2UM uMES ME,2U U"]),
    (0x12400, [
      "0CUNEIFORM NUMlICw TWO ASH,3svE ASH,3FOUR ASH,3FIVE ASH,3SIX ASH,3SEVr ASH,3Ef ASH",
      "3NgE ASH,3svE DISH,3FOUR DISH,3FIVE DISH,3SIX DISH,3SEVr DISH,3Ef DISH,3NgE DISH,3FOUR U",
      "3FIVE U,3SIX U,3SEVr U,3Ef U,3NgE U,3nE GESH2,3TWO GESH2,3svE GESH2,3FOUR GESH2",
      "3FIVE GESH2,3SIX GESH2,3SEVr GESH2,3Ef GESH2,3NgE GESH2,3nE GESHU,3TWO GESHU,3svE GESHU",
      "3FOUR GESHU,3FIVE GESHU,3TWOoHe2,3svEoHe2,5VeIiTh,3FOURoHe2,3FIVEoHe2,3SIXoHe2,3SEVroHe2",
      "3EfoHe2,3NgEoHe2,3nEoHeU,3TWOoHeU,3svEoHeU,5VeIiTh,3FOURoHeU,3FIVEoHeU",
      "3SHe2 uMES Gc PLUS DISH,7Mg,3nE BURU,3TWO BURU,3svE BURU,5VeIiTh,3FOUR BURU,3FIVE BURU",
      "3svE VeIiTh ESH16,6ESH21,3FOUR VeIiTh LIMMU,6LIMMU4,6LIMMU A,7B,3SIX VeIiTh ASH9",
      "3SEVr VeIiTh IMg3,6IMg A,7B,3Ef VeIiTh USSU,6USSU3,3NgE VeIiTh ILIMMU,6ILIMMU3,6ILIMMU4",
      "6ILIMMU A,3TWO ASH TrU,3svE ASH TrU,3FOUR ASH TrU,3FIVE ASH TrU,3SIX ASH TrU,3nE Bi2",
      "3TWO Bi2,3svE Bi2,3FOUR Bi2,5VeIiTh,3FIVE Bi2,5VeIiTh,3NIGIDAMg,3NIGIDAESH,3nE ESHE3",
      "3TWO ESHE3,3nE sIRtDISH,3TWO sIRDS DISH,3FIVEoIXsS DISH,3nE sIRtVeIiTh A",
      "3TWO sIRDS VeIiTh A,3nE EfH ASH,4QUeTl ASH,3OLtASSYRIi nEoIXs,6QUeTl,3nE QUeTl GUR",
      "4HcF GUR,3ELAMITE nE sIRD,4TWO sIRDS,4FORTY,4FIFTY,3FOUR U VeIiTh,3FIVE U VeIiTh",
      "3SIX U VeIiTh,3SEVr U VeIiTh,3Ef U VeIiTh,3NgE U VeIiTh"]),
    (0x12470, [
      "0CUNEIFORM PUNCTUAunw OLtASSYRIi WORtDIVIDl,3VluCc COLn,3DIAGnc COLn,4TRICOLn,4QUADCOLn"]),
    (0x12480, [
      "0CUNEIFORMw AB uMES NUN TrU,4SHU2,2AtuMES ESH2,2BAtuMES DISH TrU,2BAHe2 uMES AB2,4NI,4ZA",
      "2BU OVl BU uMES NA2,2DA uMES TAK4,2DAG uMES KUR,2DIM uMES IGI,4U U U,2DIM2 uMES UD",
      "2DUG uMES iSHE,4ASH,5AT kFT,4Dg,4DUN,4lg2,4GA,4GI,4GIR2 GUNU,4GISH,4z,4HI,4IGI GUNU",
      "4KASKc,4KUR,4KUSHU2,5PLUS KASKc,4LAK-020,4LAM,5uMES KUR,4LUH PLUS GISH,4MASH,4MES,4MI",
      "4NI,4PI,4SHE,4SI GUNU,2E2 uMES KUR,4PAP,2lg2 X,2ESH2 CROSSgG ESH2,2EZroHESHIG uMES ASH",
      "5HI,5IGI GUNU,5LA,5Lc,5ME,5MES,5SU,3uMESoU,2GA2 uMES BAHe2,4DIM GUNU,4DUG uMES IGI GUNU",
      "6KASKc,4lr,4GA,4Ge PLUS DI,6NE,4z PLUS A,4KUSHU2 PLUS KASKc,4LAM,5uMES KUR,4LUH,4MUSH",
      "4NE,5PLUS E2,6GI,4SHIM,4ZIZ2,2GABA ROTATEtNgETY DEGvES,2GESHTg uMES U",
      "2GISH uMES GISH CROSSgG GISH,2GU2 uMES IGI GUNU,2GUtPLUS GISH uMES TAK4,2z TrU GUNU",
      "2HI uMES ASH OVl HI uMES ASH,2KA uMES BU,4KA,4U U U,4UR,2LAGAB uMES ZU OVl ZU,2LAK-003",
      "2LAK-021,2LAK-025,2LAK-030,2LAK-050,2LAK-051,2LAK-062,2LAK-079 OVl LAK-079 GUNU,2LAK-080",
      "2LAK-081 OVl LAK-081,2LAK-092,2LAK-130,2LAK-142,2LAK-210,2LAK-219,2LAK-220,2LAK-225",
      "2LAK-228,2LAK-238,2LAK-265,2LAK-266,2LAK-343,2LAK-347,2LAK-348,2LAK-383,2LAK-384",
      "2LAK-390,2LAK-441,2LAK-449,3uMES GU,4IGI,4PAP PLUS LU3,6PAP PLUS LU3,4U2 PLUS BA",
      "2LAK-450,2LAK-457,2LAK-470,2LAK-483,2LAK-490,2LAK-492,2LAK-493,2LAK-495,2LAK-550",
      "2LAK-608,2LAK-617,3uMES ASH,4BAD,4DUN3 GUNU GUNU,4KU3,4LA,4Te,4TE,4U2,4UD,4URUDA",
      "2LAK-636,2LAK-648,3uMES DUB,4GA,4IGI,5GUNU,4NI,4PAP PLUS PAP PLUS LU3,4SHESH PLUS KI,4UD",
      "4URUDA,2LAK-724,2LAK-749,2LU2 GUNU uMES ASH,3uMES DISH,4Hc,4PAP,5PLUS PAP PLUS LU3,4TAK4",
      "2MI PLUS ZA7,2MUSH OVl MUSH uMES GA,6KAK,2NgDA2 uMES DIM GUNU,4GISH,4GUL,4HI,4KESH2",
      "4LAK-050,4MASH,4PAP PLUS PAP,4U,5PLUS U,4URUDA,2SAG GUNU uMES z,3uMES r,4SHE AT kFT",
      "4TAK4,2Sz6 TrU,2SHE OVloHE,3PLUS HUB2,4NAM2,4Se,2SHU2 PLUS DUG uMES NI,4E2 uMES i",
      "2SI uMES TAK4,2TAK4 PLUSoAG,2TUM uMES Gi2 TrU,4svE DISH,2UR2 gVlTED,3uMES UD",
      "2URU uMES DeA3,4LAK-668,4LU3,2ZA7,2ZU OVl ZU PLUSoe,2ZU5 uMES svE DISH TrU"]),
    (0x12F90, [
      "0CYPRO-MgOiw CM001,2CM002,2CM004,2CM005,2CM006,2CM007,2CM008,2CM009,2CM010,2CM011,2CM012",
      "2CM012B,2CM013,2CM015,2CM017,2CM019,2CM021,2CM023,2CM024,2CM025,2CM026,2CM027,2CM028",
      "2CM029,2CM030,2CM033,2CM034,2CM035,2CM036,2CM037,2CM038,2CM039,2CM040,2CM041,2CM044",
      "2CM046,2CM047,2CM049,2CM050,2CM051,2CM052,2CM053,2CM054,2CM055,2CM056,2CM058,2CM059",
      "2CM060,2CM061,2CM062,2CM063,2CM064,2CM066,2CM067,2CM068,2CM069,2CM070,2CM071,2CM072",
      "2CM073,2CM074,2CM075,2CM075B,2CM076,2CM078,2CM079,2CM080,2CM081,2CM082,2CM083,2CM084",
      "2CM085,2CM086,2CM087,2CM088,2CM089,2CM090,2CM091,2CM092,2CM094,2CM095,2CM096,2CM097",
      "2CM098,2CM099,2CM100,2CM101,2CM102,2CM103,2CM104,2CM105,2CM107,2CM108,2CM109,2CM110",
      "2CM112,2CM114,2CM301,2CM302"])]

/-- Runs from 0x13000 on: hieroglyphs, and scripts with few writers. -/
def hieroglyphRuns : List NameRun :=
  [(0x13000, [
      "0EGYPui HIlOGLYPH A001,2A002,2A003,2A004,2A005,2A005A,2A006,2A006A,2A006B,2A007,2A008",
      "2A009,2A010,2A011,2A012,2A013,2A014,2A014A,2A015,2A016,2A017,2A017A,2A018,2A019,2A020",
      "2A021,2A022,2A023,2A024,2A025,2A026,2A027,2A028,2A029,2A030,2A031,2A032,2A032A,2A033",
      "2A034,2A035,2A036,2A037,2A038,2A039,2A040,2A040A,2A041,2A042,2A042A,2A043,2A043A,2A044",
      "2A045,2A045A,2A046,2A047,2A048,2A049,2A050,2A051,2A052,2A053,2A054,2A055,2A056,2A057",
      "2A058,2A059,2A060,2A061,2A062,2A063,2A064,2A065,2A066,2A067,2A068,2A069,2A070,2B001",
      "2B002,2B003,2B004,2B005,2B005A,2B006,2B007,2B008,2B009,2C001,2C002,2C002A,2C002B,2C002C",
      "2C003,2C004,2C005,2C006,2C007,2C008,2C009,2C010,2C010A,2C011,2C012,2C013,2C014,2C015",
      "2C016,2C017,2C018,2C019,2C020,2C021,2C022,2C023,2C024,2D001,2D002,2D003,2D004,2D005",
      "2D006,2D007,2D008,2D008A,2D009,2D010,2D011,2D012,2D013,2D014,2D015,2D016,2D017,2D018",
      "2D019,2D020,2D021,2D022,2D023,2D024,2D025,2D026,2D027,2D027A,2D028,2D029,2D030,2D031",
      "2D031A,2D032,2D033,2D034,2D034A,2D035,2D036,2D037,2D038,2D039,2D040,2D041,2D042,2D043",
      "2D044,2D045,2D046,2D046A,2D047,2D048,2D048A,2D049,2D050,2D050A,2D050B,2D050C,2D050D",
      "2D050E,2D050F,2D050G,2D050H,2D050I,2D051,2D052,2D052A,2D053,2D054,2D054A,2D055,2D056",
      "2D057,2D058,2D059,2D060,2D061,2D062,2D063,2D064,2D065,2D066,2D067,2D067A,2D067B,2D067C",
      "2D067D,2D067E,2D067F,2D067G,2D067H,2E001,2E002,2E003,2E004,2E005,2E006,2E007,2E008",
      "2E008A,2E009,2E009A,2E010,2E011,2E012,2E013,2E014,2E015,2E016,2E016A,2E017,2E017A,2E018",
      "2E019,2E020,2E020A,2E021,2E022,2E023,2E024,2E025,2E026,2E027,2E028,2E028A,2E029,2E030",
      "2E031,2E032,2E033,2E034,2E034A,2E036,2E037,2E038,2F001,2F001A,2F002,2F003,2F004,2F005",
      "2F006,2F007,2F008,2F009,2F010,2F011,2F012,2F013,2F013A,2F014,2F015,2F016,2F017,2F018",
      "2F019,2F020,2F021,2F021A,2F022,2F023,2F024,2F025,2F026,2F027,2F028,2F029,2F030,2F031",
      "2F031A,2F032,2F033,2F034,2F035,2F036,2F037,2F037A,2F038,2F038A,2F039,2F040,2F041,2F042",
      "2F043,2F044,2F045,2F045A,2F046,2F046A,2F047,2F047A,2F048,2F049,2F050,2F051,2F051A,2F051B",
      "2F051C,2F052,2F053,2G001,2G002,2G003,2G004,2G005,2G006,2G006A,2G007,2G007A,2G007B,2G008",
      "2G009,2G010,2G011,2G011A,2G012,2G013,2G014,2G015,2G016,2G017,2G018,2G019,2G020,2G020A",
      "2G021,2G022,2G023,2G024,2G025,2G026,2G026A,2G027,2G028,2G029,2G030,2G031,2G032,2G033",
      "2G034,2G035,2G036,2G036A,2G037,2G037A,2G038,2G039,2G040,2G041,2G042,2G043,2G043A,2G044",
      "2G045,2G045A,2G046,2G047,2G048,2G049,2G050,2G051,2G052,2G053,2G054,2H001,2H002,2H003",
      "2H004,2H005,2H006,2H006A,2H007,2H008,2I001,2I002,2I003,2I004,2I005,2I005A,2I006,2I007",
      "2I008,2I009,2I009A,2I010,2I010A,2I011,2I011A,2I012,2I013,2I014,2I015,2K001,2K002,2K003",
      "2K004,2K005,2K006,2K007,2K008,2L001,2L002,2L002A,2L003,2L004,2L005,2L006,2L006A,2L007",
      "2L008,2M001,2M001A,2M001B,2M002,2M003,2M003A,2M004,2M005,2M006,2M007,2M008,2M009,2M010",
      "2M010A,2M011,2M012,2M012A,2M012B,2M012C,2M012D,2M012E,2M012F,2M012G,2M012H,2M013,2M014",
      "2M015,2M015A,2M016,2M016A,2M017,2M017A,2M018,2M019,2M020,2M021,2M022,2M022A,2M023,2M024",
      "2M024A,2M025,2M026,2M027,2M028,2M028A,2M029,2M030,2M031,2M031A,2M032,2M033,2M033A,2M033B",
      "2M034,2M035,2M036,2M037,2M038,2M039,2M040,2M040A,2M041,2M042,2M043,2M044,2N001,2N002",
      "2N003,2N004,2N005,2N006,2N007,2N008,2N009,2N010,2N011,2N012,2N013,2N014,2N015,2N016",
      "2N017,2N018,2N018A,2N018B,2N019,2N020,2N021,2N022,2N023,2N024,2N025,2N025A,2N026,2N027",
      "2N028,2N029,2N030,2N031,2N032,2N033,2N033A,2N034,2N034A,2N035,2N035A,2N036,2N037,2N037A",
      "2N038,2N039,2N040,2N041,2N042,2NL001,2NL002,2NL003,2NL004,2NL005,2NL005A,2NL006,2NL007",
      "2NL008,2NL009,2NL010,2NL011,2NL012,2NL013,2NL014,2NL015,2NL016,2NL017,2NL017A,2NL018",
      "2NL019,2NL020,2NU001,2NU002,2NU003,2NU004,2NU005,2NU006,2NU007,2NU008,2NU009,2NU010",
      "2NU010A,2NU011,2NU011A,2NU012,2NU013,2NU014,2NU015,2NU016,2NU017,2NU018,2NU018A,2NU019",
      "2NU020,2NU021,2NU022,2NU022A,2O001,2O001A,2O002,2O003,2O004,2O005,2O005A,2O006,2O006A",
      "2O006B,2O006C,2O006D,2O006E,2O006F,2O007,2O008,2O009,2O010,2O010A,2O010B,2O010C,2O011",
      "2O012,2O013,2O014,2O015,2O016,2O017,2O018,2O019,2O019A,2O020,2O020A,2O021,2O022,2O023",
      "2O024,2O024A,2O025,2O025A,2O026,2O027,2O028,2O029,2O029A,2O030,2O030A,2O031,2O032,2O033",
      "2O033A,2O034,2O035,2O036,2O036A,2O036B,2O036C,2O036D,2O037,2O038,2O039,2O040,2O041,2O042",
      "2O043,2O044,2O045,2O046,2O047,2O048,2O049,2O050,2O050A,2O050B,2O051,2P001,2P001A,2P002",
      "2P003,2P003A,2P004,2P005,2P006,2P007,2P008,2P009,2P010,2P011,2Q001,2Q002,2Q003,2Q004",
      "2Q005,2Q006,2Q007,2R001,2R002,2R002A,2R003,2R003A,2R003B,2R004,2R005,2R006,2R007,2R008",
      "2R009,2R010,2R010A,2R011,2R012,2R013,2R014,2R015,2R016,2R016A,2R017,2R018,2R019,2R020",
      "2R021,2R022,2R023,2R024,2R025,2R026,2R027,2R028,2R029,2S001,2S002,2S002A,2S003,2S004",
      "2S005,2S006,2S006A,2S007,2S008,2S009,2S010,2S011,2S012,2S013,2S014,2S014A,2S014B,2S015",
      "2S016,2S017,2S017A,2S018,2S019,2S020,2S021,2S022,2S023,2S024,2S025,2S026,2S026A,2S026B",
      "2S027,2S028,2S029,2S030,2S031,2S032,2S033,2S034,2S035,2S035A,2S036,2S037,2S038,2S039",
      "2S040,2S041,2S042,2S043,2S044,2S045,2S046,2T001,2T002,2T003,2T003A,2T004,2T005,2T006",
      "2T007,2T007A,2T008,2T008A,2T009,2T009A,2T010,2T011,2T011A,2T012,2T013,2T014,2T015,2T016",
      "2T016A,2T017,2T018,2T019,2T020,2T021,2T022,2T023,2T024,2T025,2T026,2T027,2T028,2T029",
      "2T030,2T031,2T032,2T032A,2T033,2T033A,2T034,2T035,2T036,2U001,2U002,2U003,2U004,2U005",
      "2U006,2U006A,2U006B,2U007,2U008,2U009,2U010,2U011,2U012,2U013,2U014,2U015,2U016,2U017",
      "2U018,2U019,2U020,2U021,2U022,2U023,2U023A,2U024,2U025,2U026,2U027,2U028,2U029,2U029A",
      "2U030,2U031,2U032,2U032A,2U033,2U034,2U035,2U036,2U037,2U038,2U039,2U040,2U041,2U042",
      "2V001,2V001A,2V001B,2V001C,2V001D,2V001E,2V001F,2V001G,2V001H,2V001I,2V002,2V002A,2V003",
      "2V004,2V005,2V006,2V007,2V007A,2V007B,2V008,2V009,2V010,2V011,2V011A,2V011B,2V011C,2V012",
      "2V012A,2V012B,2V013,2V014,2V015,2V016,2V017,2V018,2V019,2V020,2V020A,2V020B,2V020C",
      "2V020D,2V020E,2V020F,2V020G,2V020H,2V020I,2V020J,2V020K,2V020L,2V021,2V022,2V023,2V023A",
      "2V024,2V025,2V026,2V027,2V028,2V028A,2V029,2V029A,2V030,2V030A,2V031,2V031A,2V032,2V033",
      "2V033A,2V034,2V035,2V036,2V037,2V037A,2V038,2V039,2V040,2V040A,2W001,2W002,2W003,2W003A",
      "2W004,2W005,2W006,2W007,2W008,2W009,2W009A,2W010,2W010A,2W011,2W012,2W013,2W014,2W014A",
      "2W015,2W016,2W017,2W017A,2W018,2W018A,2W019,2W020,2W021,2W022,2W023,2W024,2W024A,2W025",
      "2X001,2X002,2X003,2X004,2X004A,2X004B,2X005,2X006,2X006A,2X007,2X008,2X008A,2Y001,2Y001A",
      "2Y002,2Y003,2Y004,2Y005,2Y006,2Y007,2Y008,2Z001,2Z002,2Z002A,2Z002B,2Z002C,2Z002D,2Z003",
      "2Z003A,2Z003B,2Z004,2Z004A,2Z005,2Z005A,2Z006,2Z007,2Z008,2Z009,2Z010,2Z011,2Z012,2Z013",
      "2Z014,2Z015,2Z015A,2Z015B,2Z015C,2Z015D,2Z015E,2Z015F,2Z015G,2Z015H,2Z015I,2Z016,2Z016A",
      "2Z016B,2Z016C,2Z016D,2Z016E,2Z016F,2Z016G,2Z016H,2AA001,2AA002,2AA003,2AA004,2AA005",
      "2AA006,2AA007,2AA007A,2AA007B,2AA008,2AA009,2AA010,2AA011,2AA012,2AA013,2AA014,2AA015",
      "2AA016,2AA017,2AA018,2AA019,2AA020,2AA021,2AA022,2AA023,2AA024,2AA025,2AA026,2AA027",
      "2AA028,2AA029,2AA030,2AA031,2AA032"]),
    (0x13430, [
      "0EGYPui HIlOGLYPH VluCc JOgl,2HORIZnTc JOgl,2gSlT AT TOPoTeT,4BOTTOMoTeT,4TOP rD",
      "4BOTTOM rD,2OVlLAY MIDDk,2BEGgoEGMrT,2rDoEGMrT"]),
    (0x14400, [
      "0iATOLIi HIlOGLYPH A001,2A002,2A003,2A004,2A005,2A006,2A007,2A008,2A009,2A010,2A010A",
      "2A011,2A012,2A013,2A014,2A015,2A016,2A017,2A018,2A019,2A020,2A021,2A022,2A023,2A024",
      "2A025,2A026,2A026A,2A027,2A028,2A029,2A030,2A031,2A032,2A033,2A034,2A035,2A036,2A037",
      "2A038,2A039,2A039A,2A040,2A041,2A041A,2A042,2A043,2A044,2A045,2A045A,2A046,2A046A,2A046B",
      "2A047,2A048,2A049,2A050,2A051,2A052,2A053,2A054,2A055,2A056,2A057,2A058,2A059,2A060",
      "2A061,2A062,2A063,2A064,2A065,2A066,2A066A,2A066B,2A066C,2A067,2A068,2A069,2A070,2A071",
      "2A072,2A073,2A074,2A075,2A076,2A077,2A078,2A079,2A080,2A081,2A082,2A083,2A084,2A085",
      "2A086,2A087,2A088,2A089,2A090,2A091,2A092,2A093,2A094,2A095,2A096,2A097,2A097A,2A098",
      "2A098A,2A099,2A100,2A100A,2A101,2A101A,2A102,2A102A,2A103,2A104,2A104A,2A104B,2A104C",
      "2A105,2A105A,2A105B,2A106,2A107,2A107A,2A107B,2A107C,2A108,2A109,2A110,2A110A,2A110B",
      "2A111,2A112,2A113,2A114,2A115,2A115A,2A116,2A117,2A118,2A119,2A120,2A121,2A122,2A123",
      "2A124,2A125,2A125A,2A126,2A127,2A128,2A129,2A130,2A131,2A132,2A133,2A134,2A135,2A135A",
      "2A136,2A137,2A138,2A139,2A140,2A141,2A142,2A143,2A144,2A145,2A146,2A147,2A148,2A149",
      "2A150,2A151,2A152,2A153,2A154,2A155,2A156,2A157,2A158,2A159,2A160,2A161,2A162,2A163",
      "2A164,2A165,2A166,2A167,2A168,2A169,2A170,2A171,2A172,2A173,2A174,2A175,2A176,2A177",
      "2A178,2A179,2A180,2A181,2A182,2A183,2A184,2A185,2A186,2A187,2A188,2A189,2A190,2A191",
      "2A192,2A193,2A194,2A195,2A196,2A197,2A198,2A199,2A200,2A201,2A202,2A202A,2A202B,2A203",
      "2A204,2A205,2A206,2A207,2A207A,2A208,2A209,2A209A,2A210,2A211,2A212,2A213,2A214,2A215",
      "2A215A,2A216,2A216A,2A217,2A218,2A219,2A220,2A221,2A222,2A223,2A224,2A225,2A226,2A227",
      "2A227A,2A228,2A229,2A230,2A231,2A232,2A233,2A234,2A235,2A236,2A237,2A238,2A239,2A240",
      "2A241,2A242,2A243,2A244,2A245,2A246,2A247,2A248,2A249,2A250,2A251,2A252,2A253,2A254",
      "2A255,2A256,2A257,2A258,2A259,2A260,2A261,2A262,2A263,2A264,2A265,2A266,2A267,2A267A",
      "2A268,2A269,2A270,2A271,2A272,2A273,2A274,2A275,2A276,2A277,2A278,2A279,2A280,2A281",
      "2A282,2A283,2A284,2A285,2A286,2A287,2A288,2A289,2A289A,2A290,2A291,2A292,2A293,2A294",
      "2A294A,2A295,2A296,2A297,2A298,2A299,2A299A,2A300,2A301,2A302,2A303,2A304,2A305,2A306",
      "2A307,2A308,2A309,2A309A,2A310,2A311,2A312,2A313,2A314,2A315,2A316,2A317,2A318,2A319",
      "2A320,2A321,2A322,2A323,2A324,2A325,2A326,2A327,2A328,2A329,2A329A,2A330,2A331,2A332A",
      "2A332B,2A332C,2A333,2A334,2A335,2A336,2A336A,2A336B,2A336C,2A337,2A338,2A339,2A340,2A341",
      "2A342,2A343,2A344,2A345,2A346,2A347,2A348,2A349,2A350,2A351,2A352,2A353,2A354,2A355",
      "2A356,2A357,2A358,2A359,2A359A,2A360,2A361,2A362,2A363,2A364,2A364A,2A365,2A366,2A367",
      "2A368,2A368A,2A369,2A370,2A371,2A371A,2A372,2A373,2A374,2A375,2A376,2A377,2A378,2A379",
      "2A380,2A381,2A381A,2A382,2A383 RA OR RI,2A383A,2A384,2A385,2A386,2A386A,2A387,2A388",
      "2A389,2A390,2A391,2A392,2A393 Ef,2A394,2A395,2A396,2A397,2A398,2A399,2A400,2A401,2A402",
      "2A403,2A404,2A405,2A406,2A407,2A408,2A409,2A410 BEGg LOGOGRAM MeK,2A410A rtLOGOGRAM MeK",
      "2A411,2A412,2A413,2A414,2A415,2A416,2A417,2A418,2A419,2A420,2A421,2A422,2A423,2A424",
      "2A425,2A426,2A427,2A428,2A429,2A430,2A431,2A432,2A433,2A434,2A435,2A436,2A437,2A438",
      "2A439,2A440,2A441,2A442,2A443,2A444,2A445,2A446,2A447,2A448,2A449,2A450,2A450A,2A451",
      "2A452,2A453,2A454,2A455,2A456,2A457,2A457A,2A458,2A459,2A460,2A461,2A462,2A463,2A464",
      "2A465,2A466,2A467,2A468,2A469,2A470,2A471,2A472,2A473,2A474,2A475,2A476,2A477,2A478",
      "2A479,2A480,2A481,2A482,2A483,2A484,2A485,2A486,2A487,2A488,2A489,2A490,2A491,2A492",
      "2A493,2A494,2A495,2A496,2A497,2A501,2A502,2A503,2A504,2A505,2A506,2A507,2A508,2A509",
      "2A510,2A511,2A512,2A513,2A514,2A515,2A516,2A517,2A518,2A519,2A520,2A521,2A522,2A523",
      "2A524,2A525,2A526,2A527,2A528,2A529,2A530"]),
    (0x16800, [
      "0BAMUMaPzSE-A NGKUE MFn,3GBIEE Fn,3Pn MFn PIPAEMGBIEE,5PIPAEMBA,3NAA MFn,3SHUrSHUET",
      "3uTA MFn,3NZA MFn,3SHgDA PA NJI,3Pn PA NJI PIPAEMGBIEE,6PIPAEMBA,3MAEMBGBIEE,3TU MAEMBA",
      "3NGiGU,3MAEMVEUX,3MiSUAE,3MVEUArGAM,3SEUNYAM,3NTOQPr,3KEUKEUTNDA,3NKgDI,3SUU,3NGKUrZEUM",
      "3LAPAQ,3kT KUT,3NTAP MFAA,3MAEKEUP,3PASzE,3GHEUAlAE,3PAMSzE,3Mn NGGEUAET,3NZUN MEUT",
      "3U YUQ NAE,3GHEUAEGHEUAE,3NTAP NTAA,3SISA,3MGBASA,3MEUNJOMNDEUQ,3MOOMPUQ,3KAFA",
      "3PA klAEWA,3NDA klAEWA,3PET,3MAEMKPr,3NIKA,3PUP,3TUAEP,3LUAEP,3SnJAM,3TEUTEUWr,3MArYI",
      "3KET,3NDAiGGEUAET,3KUOQ,3MOOMEUT,3SHUM,3LOMMAE,3FIRI,3ROM,3KPOQ,3SOQ,3MAP PIEET,3SHIRAE",
      "3NTAP,3SHOQ NSHUT YUM,3NYIT MnGKEUAEQ,3PAeAE,3NKAeAE,3UNKNOWN,3NGGr,3MAESI,3NJAM,3MBiYI",
      "3NYET,3TEUAr,3SOT,3PAAM,3NSHIEE,3MAEM,3NYI,3KAQ,3NSz,3VEE,3LU,3Nr,3NAQ,3MBAQ",
      "2PzSE-B NSHUET,3TU MAEMGBIEE,3SIEE,3SET TU,3LOM NTEUM,3MBA MAEkE,3KIEEM,3YEURAE,3MBAeAE",
      "3KAM,3PEESHI,3YAFU klAEWA,3LAM NSHUT NYAM,3NuEEoHEUOQ,3NDU NJAA,3GHEUGHEUAEM,3PIT",
      "3TU NSIEE,3SHET NJAQ,3SHEUAEQTU,3MFn TEUAEQ,3MBIT MBAAKET,3NYI NTEUM,3KEUPUQ,3GHEUGHr",
      "3KEUYEUX,3LAiAE,3PeUM,3VEUM,3NGKgDI MVOP,3NGGEU MBU,3WUAET,3SAKEUAE,3TAAM,3MEUQ,3NGGUOQ",
      "4LeGE,3MFIYAQ,3SUE,3MBEURI,3MnuEr,3NYAEMAE,3PUNGAAM,3MEUT NGGEET,3FEUX,3MBUOQ,3FEE",
      "3KEUAEM,3MA NJEUArA,4NJUQA,3kT,3NGGAAM,3NSr,3MA,3KIQ,3NGOM,2PzSE-C NGKUE MAEMBA,3NZA",
      "3YUM,3WiGKUOQ,3NGGr,3NDEUAlEE,3NGKAQ,3GHeAE,3MBEEKEET,3GBAYI,3NYIR MKPeAQ MEUN,3NTU MBIT",
      "3MBEUM,3PIRIEr,3NyMBU,3MBAA CABBAGE-TvE,3KEUSHEUAEP,3GzP,3KEUKAQ,3YU MUOMAE,3NZEUM,3MBUE",
      "3NSEUAr,3MBIT,3YEUQ,3KPeAQ,3KAA,3SEUX,3NDIDA,3TAASzE,3NJUEQ,3uTA YUE,3SUAET,3NGGUAr NYAM",
      "3VEUX,3NiSiAQ,3MA KEUAlI,3NTAA,3NGGUn,3LAP,3MBIRIEr,3MGBASAQ,3NTEUNGBA,3TEUTEUX,3NGGUM",
      "3FUE,3NDEUT,3NSA,3NSzQ,3BUNG,3VEUAEPr,3MBlAE,3RU,3NJAEM,3LAM,3uTUAEP,3NSUOT NGOM,3NJEEEE",
      "3KET,3NGGU,3MAESI,3MBUAEM,3LU,3KUT,3NJAM,3NGOM,3WUP,3NGGUEET,3NSOM,3NTr,3KUOP NKAeAE",
      "3NSUN,3NDAM,3MA NSIEE,3YAA,3NDAP,3SHUEQ,3SETFn,3MBI,3MAEMBA,3MBiYI,3KEUSEUX,3MBEUX,3KEUM",
      "3MBAA PICKET,3YUWOQ,3NJEUX,3MIEE,3MUAE,3SHIQ,3Kr LAW,4FAuGUE,3NGAQ,3NAQ,3LIQ,3Pg,3Pr",
      "3TET,2PzSE-tMBUO,3WAP,3NJI,3MFn,3NJIEE,3LIEE,3NJEUT,3NSHEE,3NGGAAMAE,3NYAM,3WUAr,3NGKUN",
      "3SHEE,3NGKAP,3KEUAETMEUN,3TEUT,3SHEUAE,3NJAP,3SUE,3KET,3YAEMMAE,3KUOM,3SAP,3MFEUT,3NDEUX",
      "3McElI,3MEUT,3SEUAEQ,3Yr,3NJEUAEM,3KEUOT MBUAE,3NGKEURI,3TU,3GzA,3NGKYEE,3FEUFEUAET",
      "3NDEE,3MGBOFUM,3kUAEP,3NDn,3MnI,3MGBEUN,3PUUT,3MGBIEE,3MFO,3LUM,3NSIEEP,3MBAA,3KWAET",
      "3NYET,3TEUAr,3SOT,3YUWOQ,3KEUM,3RAEM,3TEEEE,3NGKEUAEQ,3MFEUAE,3NSIEET,3KEUP,3PIP,3PEUTAE",
      "3NYUE,3kT,3NGGAAM,3MFIEE,3NGGWAr,3YUOM,3PAP,3YUOP,3NDAM,3NTEUM,3SUAE,3KUN,3NGGEUX",
      "3NGKIEE,3TUOT,3MEUN,3KUQ,3NSUM,3TEUN,3MArJET,3NGGAP,3kUM,3NGGUOM,3NSHUT,3NJUEQ,3GHEUAE",
      "3KU,3Rr OLD,3TAE,3TOQ,3NYI,3RII,3kEEE,3MEEEE,3M,3SUU,3MU,3SHII,3SHEUX,3KYEE,3NU,3SHU",
      "3NTEE,3PEE,3NI,3SHOQ,3PUQ,3MVOP,3LOQ,3Rr MUCH,3u,3NTUU,3MBAAoEVr,3SAQ,3FAA,2PzSE-E NDAP",
      "3TOn,3MBEUM,3LAP,3VOM,3LOn,3PAA,3SOM,3RAQ,3NSHUOP,3NDUN,3PUAE,3TAM,3NGKA,3KPEUX,3WUO",
      "3SEE,3NGGEUAET,3PAAM,3TOO,3KUOP,3LOM,3NSHIEE,3NGOP,3MAEM,3NGKEUX,3NGOQ,3NSHUE,3RIMGBA",
      "3NJEUX,3PEEM,3SAA,3NGGURAE,3MGBA,3GHEUX,3NGKEUAEM,3NJAEMLI,3MAP,3LOOT,3NGGEEEE,3NDIQ",
      "3TAr NTEUM,3SET,3PUM,3NDAAoOFTNESS,3NGGUAESzE NYAM,3YIEE,3GHEUN,3TUAE,3YEUAE,3PO,3TUMAE",
      "3KEUAE,3SUAr,3TEUAEQ,3VEUAE,3WEUX,3LAAM,3PU,3TAAQ,3GzAMAE,3NGEUvUT,3SHEUAEQ,3MGBr,3MBEE",
      "3NZAQ,3NKOM,3GBET,3TUM,3KUET,3YAP,3NYI CkAVl,3YIT,3MFEUQ,3NDIAQ,3PIEEQ,3YUEQ,3kUAEM,3FUE",
      "3GBEUX,3NGKUP,3KET,3MAE,3NGKAAMI,3GHET,3FA,3NTUM,3PEUT,3YEUM,3NGGEUAE,3NYI BETWEr,3NZUQ",
      "3POn,3MIEE,3FUET,3NAE,3MUAE,3GHEUAE,3FU I,3MVI,3PUAQ,3NGKUM,3KUT,3PIET,3NTAP,3YEUAET",
      "3NGGUP,3PA PEOPk,3FU CcL,3FOM,3NJEE,3A,3TOQ,3O,3I,3LAQ,3PA PLURc,3TAA,3TAQ",
      "3NDAA MY HOUSE,3SHIQ,3YEUX,3NGUAE,3YUAr,3YOQoWIMMgG,4COVl,3YUQ,3YUN,3KEUX,3PEUX",
      "3NJEE EPOCH,3PUE,3WUE,3FEE,3VEE,3LU,3MI,3vUX,3RAE,3NGUAET,3NGA,3SHO,3SHOQ,3FU vMEDY,3NA",
      "3PI,3LOQ,3KO,3Mr,3MA,3MAQ,3TEU,3KI,3Mn,3Tr,3FAQ,3GHOM,2PzSE-F KA,3U,3KU,3EE,3vE,3TAE",
      "3NYI,3LA,3RII,3RIEE,3MEEEE,3TAA,3NDAA,3NJAEM,3M,3SUU,3SHII,3SI,3SEUX,3KYEE,3KET,3NUAE",
      "3NU,3NJUAE,3YOQ,3SHU,3YA,3NSz,3PEUX,3NTEE,3WUE,3PEE,3RU,3NI,3vUX,3Kr,3NGKWAr,3NGGA,3SHO",
      "3PUAE,3FOM,3WA,3LI,3LOQ,3KO,3MBr,3Rr,3MA,3MO,3MBAA,3TET,3KPA,3SAMBA,3VUEQ"]),
    (0x16A40, [
      "0MROaTA,2NGI,2YO,2MIM,2BA,2DA,2A,2PHI,2KzI,2zO,2DAI,2CHU,2KEAAE,2OL,2MAEM,2Ng,2PA,2OO,2O",
      "2RO,2SHI,2sEA,2EA,2WA,2E,2KO,2Li,2LA,2zI,2RI,2TEK"]),
    (0x16A60, ["0MRO DIGIT ZlO,2nE,2TWO,2svE,2FOUR,2FIVE,2SIX,2SEVr,2Ef,2NgE"]),
    (0x16A6E, [
      "0MRO DiDA,1yUBk DiDA,0TiGSAaOZ,2OC,2OQ,2OX,2AZ,2AC,2AQ,2AX,2VZ,2VC,2VQ,2VX,2EZ,2EC,2EQ",
      "2EX,2IZ,2IC,2IQ,2IX,2UZ,2UC,2UQ,2UX,2AWZ,2AWC,2AWQ,2AWX,2UIZ,2UIC,2UIQ,2UIX,2Fgc NG",
      "2LnG UEX,2SHORT UEZ,3AWX,2UEC,2UEZ,2UEQ,2UEX,2UIUZ,2UIUC,2UIUQ,2UIUX,2MZ,2MC,2MQ,2MX,2KA",
      "2Kz,2GA,2NGA,2SA,2YA,2WA,2PA,2NYA,2Pz,2BA,2MA,2NA,2z,2LA,2HTA,2TA,2DA,2RA,2Nz,2Sz,2CA",
      "2TSA,2Gz,2HTTA,2sA,2XA,2FA,2Dz,2Cz,2ZA"]),
    (0x16AC0, ["0TiGSA DIGIT ZlO,2nE,2TWO,2svE,2FOUR,2FIVE,2SIX,2SEVr,2Ef,2NgE"]),
    (0x16AD0, [
      "0BASSA VAHarNI,3KA,3SE,3FA,3MBE,3YIE,3GAH,3DHII,3KPAH,3JO,3HWAH,3WA,3ZO,3GBU,3y,3CE,3UWU",
      "3TO,3BA,3VU,3YEg,3PA,3WADDA,3A,3O,3OO,3U,3EE,3E,3I"]),
    (0x16AF0, ["0BASSA VAH COMBggG HIGH TnE,3LOW TnE,3MItTnE,3LOW-MItTnE,3HIGH-LOW TnE,2FULLoTOP"]),
    (0x16B00, [
      "0PAzWH HMnG VOWEL KEEB,3KEEV,3KIB,3KIV,3KAUB,3KAUV,3KUB,3KUV,3KEB,3KEV,3KAIB,3KAIV,3KOOB",
      "3KOOV,3KAWB,3KAWV,3KUAB,3KUAV,3KOB,3KOV,3KIAB,3KIAV,3KAB,3KAV,3KWB,3KWV,3KAAB,3KAAV",
      "2CnSniT VAU,3NTSAU,3LAU,3zU,3NLAU,3RAU,3NKAU,3QzU,3YAU,3HLAU,3MAU,3CzU,3NCzU,3HNAU,3PLzU",
      "3NsAU,3NAU,3AU,3XAU,3CAU,2MeK CIM TUB,4SO,4KES,4KzV,4SUAM,4HOM,4TAUM,2SIGN VOS sOM",
      "4TSzB CEEB,3CIM CHEEM,3VOS sIAB,4FEEM,3XYEEM NTXIV,4RHO,4TOV,4FAIB,3VOSoEEV,3MEEJoUAB",
      "3VOS NRUA,3IB YAM,3XAUS,3CIM TSOV ROG"]),
    (0x16B50, ["0PAzWH HMnG DIGIT ZlO,3nE,3TWO,3svE,3FOUR,3FIVE,3SIX,3SEVr,3Ef,3NgE"]),
    (0x16B5B, [
      "0PAzWH HMnG NUMBl TrS,3HUNDvDS,3Tr sOUSiDS,3MILLInS,3HUNDvtMILLInS,3Tr BILLInS,3TRILLInS"]),
    (0x16B63, [
      "0PAzWH HMnGw VOS LUB,3XYOO,3HLI,3sIRD-STAGE HLI,3ZWJ sAJ,3HNUB,3NQIG,3XIAB,3NTUJ,3AV",
      "3TXHEEJ CEEV,3MEEJ TSEEB,3TAU,3LOS,3MUS,3CIM zIS LUS NTOG NTOG,4CUAM TSHOOJ,4TXWV,5CHWV",
      "4PUB DAWB,4NvS TOS"]),
    (0x16B7D, [
      "0PAzWH HMnG CLiw TSHEEJ,4YEEG,4LIS,4LAUJ,4XYOOJ,4KOO,4zWJ,4MUAS,4sOJ,4TSAB,4PzB,4KzB,4zM",
      "4VAJ,4FAJ,4YAJ,4TSWB,4KWM,4VWJ"]),
    (0x16E40, [
      "0MEDEFAIDRg dM,3S,3V,3W,3AuU,3Z,3KP,3P,3T,3G,3F,3I,3K,3A,3J,3E,3B,3C,3U,3YU,3L,3Q,3HP",
      "3NY,3X,3D,3OE,3N,3R,3O,3AI,3Y,1jaM,3S,3V,3W,3AuU,3Z,3KP,3P,3T,3G,3F,3I,3K,3A,3J,3E,3B,3C",
      "3U,3YU,3L,3Q,3HP,3NY,3X,3D,3OE,3N,3R,3O,3AI,3Y,1DIGIT ZlO,2nE,2TWO,2svE,2FOUR,2FIVE,2SIX",
      "2SEVr,2Ef,2NgE,1NUMBl Tr,2EkVr,2TWELVE,2sIRTEr,2FOURTEr,2FIFTEr,2SIXTEr,2SEVrTEr,2EfEr",
      "2NgETEr,1DIGIT nE cTlNATEh,2TWO cTlNATEh,2svE cTlNATEh,1COMMA,1FULLoTOP,1SYMBOL AIVA",
      "1EXCLAMAun OH"]),
    (0x16F00, [
      "0MIAOaPA,2BA,2YI PA,2PLA,2MA,2Mz,2eCzIC MA,2FA,2VA,2VFA,2TA,2DA,2YI TTA,3TA,2TTA,2DDA",
      "2NA,2Nz,2YI NNA,2eCzIC NA,2NNA,2NNz,2LA,2LYA,2Lz,2LHYA,2TLz,2DLz,2TLHYA,2DLHYA,2KA,2GA",
      "2YI KA,2QA,2QGA,2NGA,2NGz,2eCzIC NGA,2z,2XA,2Gz,2GHz,2TSSA,2DZZA,2NYA,2NYz,2TSz,2DZz",
      "2YI TSz,3DZz,2vFORMEtTSz,2Sz,2SSA,2Zz,2ZSz,2TSA,2DZA,2YI TSA,2SA,2ZA,2ZSA,2ZZA,2ZZSA",
      "2eCzIC ZZA,2ZZYA,2ZZSYA,2WA,2AH,2Hz,2BRI,2SYI,2DZYI,2TE,2TSE,2RTE"]),
    (0x16F4F, [
      "0MIAOw CnSniT MODIFIl Be,1kTTl NAScIZAun,1SIGN ASPIRAun,2vFORMEtVOICgG,3ASPIRAun",
      "1VOWELw A,3AA,3AHH,3i,3iG,3O,3OO,3WO,3W,3E,3r,3rG,3OEY,3I,3IA,3Ii,3IiG,3IO,3IE,3II,3IU",
      "3gG,3U,3UA,3Ui,3UiG,3UU,3UEI,3UNG,3Y,3YI,3AE,3AEE,3lR,3ROUNDEtlR,3l,3ROUNDEtl,3AI,3EI",
      "3AU,3OU,3N,3NG,3UOG,3YUI,3OG,3Ol,3VW,3IG,3EA,3InG,3UI"]),
    (0x16F8F, [
      "0MIAO TnE Rf,2TOP Rf,2ABOVE,2BELOW,1kTTl TnE-2,2TnE-3,2TnE-4,2TnE-5,2TnE-6,2TnE-7,2TnE-8",
      "2vFORMEtTnE-1,3TnE-2,3TnE-4,3TnE-5,3TnE-6,3TnE-8"]),
    (0x16FE0, [
      "0TiGUT ITlAun MeK,0NUSHU ITlAun MeK,0OLtCHgESE HOOK MeK,2ITlAun MeK,0KHITi joCRIPT FILkR"]),
    (0x16FF0, ["0VIETNAMESE cTlNATE vADgG MeK CA,4NzY"]),
    (0x1AFF0, ["0KATAKiAaMgNi TnE-2,3TnE-3,3TnE-4,3TnE-5"]),
    (0x1AFF5, ["0KATAKiAaMgNi TnE-7,3TnE-8,3NAScIZEtTnE-1,4TnE-2,4TnE-3,4TnE-4,4TnE-5"]),
    (0x1AFFD, ["0KATAKiAaMgNi NAScIZEtTnE-7,4TnE-8"]),
    (0x1B000, [
      "0KATAKiAaeCzIC E,0HIRAGiAaeCzIC YE,0HrTAIGiAaA-1,2A-2,2A-3,2A-WO,2I-1,2I-2,2I-3,2I-4",
      "2U-1,2U-2,2U-3,2U-4,2U-5,2E-2,2E-3,2E-4,2E-5,2E-6,2O-1,2O-2,2O-3,2KA-1,2KA-2,2KA-3,2KA-4",
      "2KA-5,2KA-6,2KA-7,2KA-8,2KA-9,2KA-10,2KA-11,2KA-KE,2KI-1,2KI-2,2KI-3,2KI-4,2KI-5,2KI-6",
      "2KI-7,2KI-8,2KU-1,2KU-2,2KU-3,2KU-4,2KU-5,2KU-6,2KU-7,2KE-1,2KE-2,2KE-3,2KE-4,2KE-5",
      "2KE-6,2KO-1,2KO-2,2KO-3,2KO-KI,2SA-1,2SA-2,2SA-3,2SA-4,2SA-5,2SA-6,2SA-7,2SA-8,2SI-1",
      "2SI-2,2SI-3,2SI-4,2SI-5,2SI-6,2SU-1,2SU-2,2SU-3,2SU-4,2SU-5,2SU-6,2SU-7,2SU-8,2SE-1",
      "2SE-2,2SE-3,2SE-4,2SE-5,2SO-1,2SO-2,2SO-3,2SO-4,2SO-5,2SO-6,2SO-7,2TA-1,2TA-2,2TA-3",
      "2TA-4,2u-1,2u-2,2u-3,2u-4,2u-5,2u-6,2u-7,2TU-1,2TU-2,2TU-3,2TU-4,2TU-TO,2TE-1,2TE-2",
      "2TE-3,2TE-4,2TE-5,2TE-6,2TE-7,2TE-8,2TE-9,2TO-1,2TO-2,2TO-3,2TO-4,2TO-5,2TO-6,2TO-RA",
      "2NA-1,2NA-2,2NA-3,2NA-4,2NA-5,2NA-6,2NA-7,2NA-8,2NA-9,2NI-1,2NI-2,2NI-3,2NI-4,2NI-5",
      "2NI-6,2NI-7,2NI-TE,2NU-1,2NU-2,2NU-3,2NE-1,2NE-2,2NE-3,2NE-4,2NE-5,2NE-6,2NE-KO,2NO-1",
      "2NO-2,2NO-3,2NO-4,2NO-5,2z-1,2z-2,2z-3,2z-4,2z-5,2z-6,2z-7,2z-8,2z-9,2z-10,2z-11,2HI-1",
      "2HI-2,2HI-3,2HI-4,2HI-5,2HI-6,2HI-7,2HU-1,2HU-2,2HU-3,2HE-1,2HE-2,2HE-3,2HE-4,2HE-5",
      "2HE-6,2HE-7,2HO-1,2HO-2,2HO-3,2HO-4,2HO-5,2HO-6,2HO-7,2HO-8,2MA-1,2MA-2,2MA-3,2MA-4",
      "2MA-5,2MA-6,2MA-7,2MI-1,2MI-2,2MI-3,2MI-4,2MI-5,2MI-6,2MI-7,2MU-1,2MU-2,2MU-3,2MU-4",
      "2ME-1,2ME-2,2ME-MA,2MO-1,2MO-2,2MO-3,2MO-4,2MO-5,2MO-6,2YA-1,2YA-2,2YA-3,2YA-4,2YA-5",
      "2YA-YO,2YU-1,2YU-2,2YU-3,2YU-4,2YO-1,2YO-2,2YO-3,2YO-4,2YO-5,2YO-6,2RA-1,2RA-2,2RA-3",
      "2RA-4,2RI-1,2RI-2,2RI-3,2RI-4,2RI-5,2RI-6,2RI-7,2RU-1,2RU-2,2RU-3,2RU-4,2RU-5,2RU-6,2v-1",
      "2v-2,2v-3,2v-4,2RO-1,2RO-2,2RO-3,2RO-4,2RO-5,2RO-6,2WA-1,2WA-2,2WA-3,2WA-4,2WA-5,2WI-1",
      "2WI-2,2WI-3,2WI-4,2WI-5,2WE-1,2WE-2,2WE-3,2WE-4,2WO-1,2WO-2,2WO-3,2WO-4,2WO-5,2WO-6",
      "2WO-7,2N-MU-MO-1,2N-MU-MO-2,0HIRAGiAaeCzIC WU,0KATAKiAaeCzIC YI,3YE,3WU"]),
    (0x1B150, ["0HIRAGiAaj WI,3WE,3WO"]),
    (0x1B164, ["0KATAKiAaj WI,3WE,3WO,3N"]),
    (0x1BC00, [
      "0DUPLOYiaH,2X,2P,2T,2F,2K,2L,2B,2D,2V,2G,2R,2P N,2Do,2F N,2K M,2Ro,2s,2SLOi DH,2DH,2KK",
      "2SLOi J,2HL,2LH,2RH,2M,2N,2J,2S,2M N,2N M,2J M,2S J,2MbyT,2NbyT,2JbyT,4yTS gSIDE iDq",
      "2SbyT,5BELOW,2Mo,2No,2Jo,2So,2M No,2N Mo,2J Mo,2S Jo,2JobyT,3N,4S,2S T,4R,3P,4R,2To,3Ro",
      "2W,2WH,2W R,2S N,3M,2K Ro,2G Ro,2S K,4R,2A,2SLOi OW,2OA,2O,2AOU,2I,2E,2IE,2SHORT I,2UI",
      "2EE,2SLOi EH,2ROMiIi I,2SLOi EE,2LnG I,2YE,2U,2EU,2XW,2U N,2LnG U,2ROMiIi U,2UH,2SLOi U",
      "2OOH,2OW,2OU,2WA,2WO,2WI,2WEI,2WOW,2NASc U,3O,3I,3A,2PlNg i,3AM,2SLOi r,3i,3n,2VOCcIC M"]),
    (0x1BC70, [
      "0DUPLOYi AFFIX kFT HORIZnTcoECiT,2MItHORIZnTcoECiT,2Rf HORIZnTcoECiT,2LOW VluCcoECiT",
      "2MItVluCcoECiT,2HIGH VluCcoECiT,2ATTACHEDoECiT,3kFT-TO-RfoECiT,3TiGrT,3TAIL,3E HOOK",
      "3I HOOK,3TiGrT HOOK"]),
    (0x1BC80, [
      "0DUPLOYi AFFIX HIGH ACUTE,3Tf ACUTE,3GRAVE,3LnG GRAVE,3yT,3CIRCk,3LgE,3WAVE,3VluCc"]),
    (0x1BC90, [
      "0DUPLOYi AFFIX LOW ACUTE,3Tf ACUTE,3GRAVE,3LnG GRAVE,3yT,3CIRCk,3LgE,3WAVE,3VluCc,3eROW"]),
    (0x1BC9C, [
      "0DUPLOYiw ObCROSS,1sICKaSEkCTOR,1yUBk MeK,1PUNCTUAun CHgOOK FULLoTOP,0SHORsiDhATaOVlLAP",
      "2CnTgUgG OVlLAP,2yWNoTEP,2UPoTEP"]),
    (0x1CF00, [
      "0ZNAMrNY COMBggG MeK GORAZy NIZKOo KRYZHEM n kFT,3NIZKOo KRYZHEM n kFT,3TSATA n kFT",
      "3GORAZy NIZKO n kFT,3NIZKO n kFT,3SvDNE n kFT,3McO POVYSHE n kFT,3POVYSHE n kFT",
      "3VYSOKO n kFT,3McO POVYSHEo KHOKHLOM n kFT,3POVYSHEo KHOKHLOM n kFT",
      "3VYSOKOo KHOKHLOM n kFT,3GORAZy NIZKOo KRYZHEM n Rf,3NIZKOo KRYZHEM n Rf,3TSATA n Rf",
      "3GORAZy NIZKO n Rf,3NIZKO n Rf,3SvDNE n Rf,3McO POVYSHE n Rf,3POVYSHE n Rf,3VYSOKO n Rf",
      "3McO POVYSHEo KHOKHLOM n Rf,3POVYSHEo KHOKHLOM n Rf,3VYSOKOo KHOKHLOM n Rf",
      "3TSATAo KRYZHEM,3McO POVYSHEo KRYZHEM,3STRiNO McO POVYSHE,3POVYSHEo KRYZHEM,4STRiNO",
      "3VYSOKOo KRYZHEM,3McO POVYSHEoTRiNO,3GORAZy VYSOKO,3ZELO,3n,3RAVNO,3uKzYA,3BORZAYA",
      "3UDeKA,3PODVlTKA,3LOMKA,3KUPNAYA,3KACHKA,3ZEVOK,3SKOBA,3RAZSEKA,3KRYZH n kFT"]),
    (0x1CF30, [
      "0ZNAMrNY COMBggG Tnc RiGE MeK MRACHNO,5SVETLO,5TvSVETLO,2MeK ZADlZHKA",
      "3DEMESTVrNY ZADlZHKA,3OTSECHKA,3PODCzSHIE,4WIs VluCcoTROKE,3CzSHKA,4POLNAYA,3OBLACHKO",
      "3SOROCHYA NOZHKA,3TOCHKA,3DVOETOCHIE,2ATTACHgG VluCc OMET,2MeK CURVEtOMET,3KRYZH",
      "2LOWl Tnc RiGE gDICATOR,1PRIZNAK MODIFIl kVEL-2,3kVEL-3,3DIvCun FLIP,3KRYZH,3ROG"]),
    (0x1CF50, [
      "0ZNAMrNY NEUME KRYUK,3uKHY,2PeAKLIT,2DVA V CHELNU,2KLYUCH,2ZiOZHEK,2STOPITSA,3S OCHKOM",
      "2PlEVODKA,3NEPOSTOYiNAYA,2STOPITSAbSOROCHYA NOZHKA,2CHELYUSTKA,2PcKA,2ZAPYATAYA",
      "2GOLUBCHIK BORZY,3uKHY,3MRACHNY,3SVETLY,3TvSVETLY,2VRAKHIYA PROSTAYA,3MRACHNAYA",
      "3SVETLAYA,3TvSVETLAYA,3KLYUCHEVAYA PROSTAYA,4MRACHNAYA,4SVETLAYA,4TvSVETLAYA",
      "2yUBk ZAPYATAYA,2vVlSEtCHELYUSTKA,2DlBITSA,2KzMILO,2CzSHKA,2PODCzSHIE",
      "2SKAMEYTSA MRACHNAYA,3SVETLAYA,3TvSVETLAYA,3uKzYA,2DEMESTVrNY KLYUCH",
      "2SKAMEYTSA KLYUCHEVAYAoVETLAYA,3KLYUCHrEPOSTOYiNAYA,3KLYUCHEVAYA uKzYA",
      "3DVOECHELNAYA PROSTAYA,4SVETLAYA,4NEPOSTOYiNAYA,4KLYUCHEVAYA,2SLOZHIuE,3S ZAPYATOY",
      "3ZAKRYTOE,3S KRYZHEM,2KRYZH,2ROG,2FITA,2KOBYLA,2ZMEYTSA,2STATYA,3S ZAPYATOY,4KRYZHEM",
      "4ZAPYATOY I KRYZHEM,4KRYZHEM I ZAPYATOY,3ZAKRYTAYA,4S ZAPYATOY,3S ROGOM",
      "4DVUMYA ZAPYATYMI,4ZAPYATOY I PODCzSHIEM,2POLKULIZMY,2STATYA NEPOSTOYiNAYA",
      "2STvLA PROSTAYA,3MRACHNOuKzYA,3KRYZHEVAYA,3POLUPOVODNAYA,3POVODNAYA,3NEPOSTOYiNAYA",
      "3KLYUCHEPOVODNAYA,3KLYUCHrEPOSTOYiNAYA,3uKzYA PUTNAYA,3DVOECHELNAYA",
      "3DVOECHELNOKRYZHEVAYA,3DVOECHELNOPOVODNAYA,3DVOECHELNAYA KLYUCHEVAYA",
      "3DVOECHELNOPOVODNAYA KLYUCHEVAYA,3GROMNAYAbSgGk ZAPYATAYA,3GROMOPOVODNAYAbSgGk ZAPYATAYA",
      "3GROMNAYA,3GROMOPOVODNAYA,4WIs yUBk ZAPYATAYA,3GROMOKRYZHEVAYA,4POVODNAYA,2MECHIK",
      "3POVODNY,3KLYUCHEVOY,3KLYUCHEPOVODNY,3KLYUCHrEPOSTOYiNY,2STvLA TRYASOGLASNAYA",
      "3TRYASOPOVODNAYA,3TRYASOSTvLNAYA,2OSOKA,3SVETLAYA,3TvSVETLAYA,3KRYUKOVAYAoVETLAYA",
      "3KLYUCHEVAYAoVETLAYA,4NEPOSTOYiNAYA,2STvLA KRYUKOVAYA,4POVODNAYA",
      "4GROMNAYAbSgGk ZAPYATAYA,4GROMOPOVODNAYAbSgGk ZAPYATAYA,4GROMNAYA,4GROMOPOVODNAYA",
      "5WIs yUBk ZAPYATAYA,4GROMOKRYZHEVAYA,5POVODNAYA,4TRYASKA,2KUFISMA,2OBLAKO,2DUDA,2NEMKA",
      "2PAUK"])]

/-- Runs from 0x1D000 on: music, mathematics, signs of hands, and scripts. -/
def notationRuns : List NameRun :=
  [(0x1D000, [
      "0BYZiTgE MUSICcoYMBOL PSILI,3DASEIA,3PlISPOMrI,3OXEIA EKFnIuKn,4DIPLI,3VeEIA EKFnIuKn",
      "4DIPLI,3KAsISu,3SYRMAuKI,3PeAKLIuKI,3YPOKRISIS,4DIPLI,3KvMASu,3APESO EKFnIuKn",
      "3EXO EKFnIuKn,3TEkIA,3KruMATA,3APOSTROFOS,4DIPLI,3SYNEVMA,3sITA,3OLIGn eCzIn",
      "3GORGn eCzIn,3PSILn,3CzMILn,3VAsY,3ISn eCzIn,3KruMA eCzIn,3KruMATA eCzIn,3SAXIMATA",
      "3PeICHn,3STAVROS APODEXIA,3OXEIAI eCzIn,3VeEIAI eCzIn,3APODlMA eCzIn,3APOsEMA,3KLASMA",
      "3vVMA,3PIASMA eCzIn,3TgAGMA,3iATRICHISMA,3SEISMA,3SYNAGMA eCzIn,4METAoTAVROU",
      "3OYRiISMA eCzIn,3sEMA,3kMOI,3DYO,3TRIA,3TESSlA,3KRAuMATA,3APESO EXO NEO,3FsORA eCzIn",
      "3IMIFsORA,3TROMIKn eCzIn,3KATAVA TROMIKn,3PELASTn,3PSIFISTn,3KnTEVMA,3CHOvVMA eCzIn",
      "3RAPISMA,3PeAKcESMA eCzIn,3PeAKLIuKI eCzIn,3ICzDg,3NiA,3PETASMA,3KnTEVMA cLO",
      "3TROMIKn cLO,3STRAGGISMATA,3GRnsISMATA,3ISn NEO,3OLIGn NEO,3OXEIA NEO,3PETASu,3KOUFISMA",
      "3PETASTOKOUFISMA,3KRAuMOKOUFISMA,3PELASTn NEO,3KruMATA NEO iO,3KruMA NEO iO,3YPSILI",
      "3APOSTROFOS NEO,3APOSTROFOIoYNDESMOS NEO,3YPORROI,3KRAuMOYPORROn,3ELAFRn,3CzMILI",
      "3MIKRn ISn,3VeEIA NEO,3PIASMA NEO,3PSIFISTn NEO,3OMcn,3iuKrOMA,3LYGISMA,3PeAKLIuKI NEO",
      "3PeAKcESMA NEO,3ETln PeAKcESMA,3KYLISMA,3iuKrOKYLISMA,3TROMIKn NEO,3EKSTvPTn",
      "3SYNAGMA NEO,3SYRMA,3CHOvVMA NEO,3EPEGlMA,3SEISMA NEO,3XIRn KLASMA,3TROMIKOPSIFISTn",
      "3PSIFISTOLYGISMA,3TROMIKOLYGISMA,3TROMIKOPeAKcESMA,3PSIFISTOPeAKcESMA,3TROMIKOSYNAGMA",
      "3PSIFISTOSYNAGMA,3GORGOSYNsETn,3eGOSYNsETn,3ETln eGOSYNsETn,3OYRiISMA NEO,3sEMAuSMOS ESO",
      "4EXO,3sEMA APLOUN,3sES KAI APOsES,3KATAVASMA,3ryFnn,3YFr KATO,4iO,3STAVROS,3KLASMA iO",
      "3DIPLI eCzIn,3KRAuMA eCzIn,4cLO,4NEO,3APODlMA NEO,3APLI,3DIPLI,3TRIPLI,3TETRAPLI,3KORnIS",
      "3kIMMA rOS CHRnOU,4DYO CHRnn,4TRIn CHRnn,4TESSen CHRnn,4IMISEOS CHRnOU,3GORGn NEO iO",
      "4PeESuGMrn eISTlA,5DEXIA,3DIGORGn,4PeESuGMrn eISTlA KATO,6iO,5DEXIA,3TRIGORGn,3eGn",
      "3IMIDIeGn,3DIeGn,3AGOGI POLI eGI,4eGOTlI,4eGI,4METRIA,4MESI,4GORGI,4GORGOTlI,4POLI GORGI",
      "3MeTYRIA PROTOS ICHOS,4cLI PROTOS ICHOS,4DEYTlOS ICHOS,4cLI DEYTlOS ICHOS,4TRITOS ICHOS",
      "4TRIFnIAS,4TETeTOS ICHOS,5kGETOS ICHOS,4kGETOS ICHOS,4PLAGIOS ICHOS",
      "3ISAKIA TELOUS ICHIMATOS,3APOSTROFOI TELOUS ICHIMATOS,3FilOSIS TETRAFnIAS,4MnOFnIAS",
      "4DIFnIAS,3MeTYRIA VeYS ICHOS,4PROTOVeYS ICHOS,4PLAGIOS TETeTOS ICHOS,3GORsMIKn N APLOUN",
      "5DIPLOUN,3reXIS KAI FsORA VOU,3IMIFnn,3IMIFsORn,3FsORA eCzIn DEYTlOU ICHOU,4DIATnIKI PA",
      "5NiA,4NAOS ICHOS,4DIATnIKI DI,4SKLIRn DIATnn DI,4DIATnIKI KE,5ZO,5NI KATO,6iO",
      "4McAKn CHROMA DIFnIAS,6MnOFnIAS,3FHTORAoKLIRn CHROMA VASIS,3FsORAoKLIRn CHROMAoYNAFI",
      "4NriO,3CHROA ZYGOS,4KLITn,4SPAsI,3FsORA I YFESIS TETeuMORIn,4reMnIOS iuFnIA",
      "3YFESIS TRIuMORIn,3DIESIS TRIuMORIn,4TETeuMORIn,4APLI DYO yDEKATA",
      "4MnOGRAMMOS TESSlA yDEKATA,4DIGRAMMOS EX yDEKATA,4TRIGRAMMOS OKTO yDEKATA",
      "3YFESIS APLI DYO yDEKATA,4MnOGRAMMOS TESSlA yDEKATA,4DIGRAMMOS EX yDEKATA",
      "4TRIGRAMMOS OKTO yDEKATA,3GrIKI DIESIS,4YFESIS,3DIASTOLI APLI MIKRI,5MEGcI,4DIPLI",
      "4sESEOS,3SIMiSIS sESEOS,5DISIMOU,5TRISIMOU,5TETRASIMOU,4eSEOS,5DISIMOU,5TRISIMOU",
      "5TETRASIMOU,3DIGRAMMA GG,3DIFTOGGOS OU,3SuGMA,3eKuKO PA,4VOU,4GA,4DI,4KE,4ZO,4NI",
      "3KruMATA NEO MESO,3KruMA NEO MESO,3KruMATA NEO KATO,3KruMA NEO KATO,3KLASMA KATO",
      "3GORGn NEO KATO"]),
    (0x1D100, [
      "0MUSICcoYMBOLogGk BeLgE,2yUBk BeLgE,2Fgc BeLgE,2vVlSE Fgc BeLgE,2DASHEtBeLgE",
      "2SHORT BeLgE,2kFT vPEATw,2Rf vPEATw,2vPEAT yTS,2DcoEGNO,2DA CAPO,2SEGNO,2CODA",
      "2vPEATEtFIGUv-1,3FIGUv-2,3FIGUv-3,2FlMATA,3BELOW,2BvAs MeK,2CAESURA,2BRACE,2BRACKET",
      "2nE-LgEoTAFF,2TWO-LgEoTAFF,2svE-LgEoTAFF,2FOUR-LgEoTAFF,2FIVE-LgEoTAFF,2SIX-LgEoTAFF",
      "2SIX-STRgG FvTBOeD,2FOUR-STRgG FvTBOeD,2G CkF,4OTTAVA cTA,5BASSA,2C CkF,2F CkF",
      "4OTTAVA cTA,5BASSA,2DRUM CkF-1,3CkF-2"]),
    (0x1D129, [
      "0MUSICcoYMBOL MULuPk MEASUv vST,2yUBkoHeP,3FLAT,2FLAT UP,3yWN,2NATURc UP,3yWN,2SHeP UP",
      "3yWN,2QUeTl TnEoHeP,4FLAT,2COMMn uME,2CUT uME,2OTTAVA cTA,3BASSA,2QUgDICESIMA cTA,3BASSA",
      "2MULu vST,2WHOk vST,2HcF vST,2QUeTl vST,2EfH vST,2SIXTErs vST,2sIRTY-SECntvST",
      "2SIXTY-FOURs vST,2nE HUNDvtTWrTY-EfH vST,2X NOTEHEAD,2PLUS NOTEHEAD,2CIRCk X NOTEHEAD",
      "2SQUeE NOTEHEAtWHITE,4BLACK,2TRIiGk NOTEHEAtUP WHITE,5BLACK,4kFT WHITE,5BLACK,4Rf WHITE",
      "5BLACK,4yWN WHITE,5BLACK,4UP Rf WHITE,6BLACK,2MOn NOTEHEAtWHITE,4BLACK",
      "2TRIiGk-ROUNtNOTEHEAtyWN WHITE,5BLACK,2PersESIS NOTEHEAD,2VOItNOTEHEAD,2NOTEHEAtBLACK",
      "2NULL NOTEHEAD,2CLUSTl NOTEHEAtWHITE,4BLACK,2BvVE,2WHOk NOTE,2HcF NOTE,2QUeTl NOTE",
      "2EfH NOTE,2SIXTErs NOTE,2sIRTY-SECntNOTE,2SIXTY-FOURs NOTE,2nE HUNDvtTWrTY-EfH NOTE",
      "2COMBggGoTEM,3SPvCHGESiGoTEM,3TvMOLO-1,3TvMOLO-2,3TvMOLO-3,2FgGlEtTvMOLO-1,3TvMOLO-2",
      "3TvMOLO-3,2COMBggG AUGMrTAun yT,3FLAG-1,3FLAG-2,3FLAG-3,3FLAG-4,3FLAG-5,2BEGg BEAM",
      "2rtBEAM,2BEGg uE,2rtuE,2BEGgoLUR,2rDoLUR,2BEGg PHRASE,2rtPHRASE,2COMBggG ACCrT,3STACCATO",
      "3TrUTO,3STACCAuSSIMO,3MeCATO,3MeCATO-STACCATO,3ACCrT-STACCATO,3LOUv,2ePEGGIATO UP,3yWN",
      "2COMBggG yIT,3RIP,3FLIP,3SMEe,3BrD,3yUBk TnGUE,3TRIPk TnGUE,2RgFORZiy,2SUBITO,2Z,2PIiO",
      "2MEZZO,2FORTE,2CvSCry,2DECvSCry,2GRACE NOTEoLASH,4NOoLASH,2TR,2TURN,2gVlTEtTURN",
      "2TURNoLASH,3UP,2ORNAMrToTROKE-1,3STROKE-2,3STROKE-3,3STROKE-4,3STROKE-5,3STROKE-6",
      "3STROKE-7,3STROKE-8,3STROKE-9,3STROKE-10,3STROKE-11,2zUPTSuMME,2NEBrSuMME,2rtOFouMME",
      "2DEGvEoLASH,2COMBggG yWN BOW,3UP BOW,3HeMnIC,3SNAP PIZZICATO,2PEDc MeK,3UP MeK",
      "2HcF PEDc MeK,2GLISSiy UP,3yWN,2WIs FgGlNAILS,2DAMP,3cL,2MAXIMA,2LnGA,2BvVIS",
      "2SEMIBvVIS WHITE,3BLACK,2MgIMA,3BLACK,2SEMIMgIMA WHITE,3BLACK,2FUSA WHITE,3BLACK",
      "2LnGA PlFECTA vST,3IMPlFECTA vST,2BvVIS vST,2SEMIBvVIS vST,2MgIMA vST,2SEMIMgIMA vST",
      "2TEMPUS PlFECTUM CUM PROLAunE PlFECTA,6IMPlFECTA,6PlFECTA DIMgUun-1",
      "3IMPlFECTUM CUM PROLAunE PlFECTA,6IMPlFECTA,7DIMgUun-1,7DIMgUun-2,7DIMgUun-3,2CROIX",
      "2GvGORIi C CkF,3F CkF,2SQUeE B,2VIRGA,2PODATUS,2CLIVIS,2SCiDICUS,2CLIMACUS,2TORCULUS",
      "2PORvCTUS,3FkXUS,2SCiDICUS FkXUS,2TORCULUS vSUPgUS,2PESoUBPUNCuS,2KIEVi C CkF",
      "3rtOF PIECE,3Fgc NOTE,3vCITAuVE MeK,3WHOk NOTE,3HcF NOTE,3QUeTl NOTEoTEM yWN,6UP",
      "3EfH NOTEoTEM yWN,6UP,3FLATw,2SORI,2KORn"]),
    (0x1D200, [
      "0GvEK VOCc NOTAunoYMBOL-1,3SYMBOL-2,3SYMBOL-3,3SYMBOL-4,3SYMBOL-5,3SYMBOL-6,3SYMBOL-7",
      "3SYMBOL-8,3SYMBOL-9,3SYMBOL-10,3SYMBOL-11,3SYMBOL-12,3SYMBOL-13,3SYMBOL-14,3SYMBOL-15",
      "3SYMBOL-16,3SYMBOL-17,3SYMBOL-18,3SYMBOL-19,3SYMBOL-20,3SYMBOL-21,3SYMBOL-22,3SYMBOL-23",
      "3SYMBOL-24,3SYMBOL-50,3SYMBOL-51,3SYMBOL-52,3SYMBOL-53,3SYMBOL-54",
      "1gSTRUMrTc NOTAunoYMBOL-1,3SYMBOL-2,3SYMBOL-4,3SYMBOL-5,3SYMBOL-7,3SYMBOL-8,3SYMBOL-11",
      "3SYMBOL-12,3SYMBOL-13,3SYMBOL-14,3SYMBOL-17,3SYMBOL-18,3SYMBOL-19,3SYMBOL-23,3SYMBOL-24",
      "3SYMBOL-25,3SYMBOL-26,3SYMBOL-27,3SYMBOL-29,3SYMBOL-30,3SYMBOL-32,3SYMBOL-36,3SYMBOL-37",
      "3SYMBOL-38,3SYMBOL-39,3SYMBOL-40,3SYMBOL-42,3SYMBOL-43,3SYMBOL-45,3SYMBOL-47,3SYMBOL-48",
      "3SYMBOL-49,3SYMBOL-50,3SYMBOL-51,3SYMBOL-52,3SYMBOL-53,3SYMBOL-54",
      "0COMBggG GvEK MUSICc TRISEME,3TETRASEME,3PrTASEME,0GvEK MUSICc kIMMA"]),
    (0x1D2E0, [
      "0MAYi NUMlc ZlO,2nE,2TWO,2svE,2FOUR,2FIVE,2SIX,2SEVr,2Ef,2NgE,2Tr,2EkVr,2TWELVE,2sIRTEr",
      "2FOURTEr,2FIFTEr,2SIXTEr,2SEVrTEr,2EfEr,2NgETEr"]),
    (0x1D300, [
      "0MnOGRAM FOR Ees,0DIGRAM FOR HEAVrLY Ees,2HUMi Ees,2EesLY HEAVr,3HUMi,2Ees",
      "0TETRAGRAM FOR CrTv,2FULL CIRCk,2MIvD,2BeRIl,2KEEPgG j,2CnTReIETY,2ASCrT,2OPPOSIun",
      "2BRiCHgG OUT,2DEFECuVrESS OR DISTORun,2DIVlGrCE,2YOUsFULNESS,2gCvASE,2PrETRAun,2vACH",
      "2CnTACT,2HOLDgG BACK,2WAITgG,2FOLLOWgG,2ADViCE,2vkASE,2vSISTiCE,2EASE,2JOY,2CnTrun",
      "2rDEAVOUR,2DUuES,2CHiGE,2DECISIVrESS,2BOLtvSOLUun,2PACKgG,2kGIn,2CLOSrESS,2KgSHIP",
      "2GAslgG,2STRrGs,2PURITY,2FULLNESS,2vSIDrCE,2LAW OR MODEL,2vSPnSE,2GOgG TO MEET,2rCOUNTlS",
      "2STOVE,2GvATNESS,2rLeGEMrT,2PATTlN,2RITUc,2FLf,2VASTNESS OR WASTgG,2CnSTiCY,2MEASUv",
      "2ETlNITY,2UNITY,2DIMgISHMrT,2CLOSEtMOUs,2GUeDEDNESS,2GAslgG g,2MASSgG,2ACCUMULAun",
      "2EMBELLISHMrT,2yUBT,2WATCH,2SgKgG,2gNl,2DEPeTUv,2DeKrgG,2DIMMgG,2EXzUSun,2SEVliCE",
      "2STOPPAGE,2HeDNESS,2COMPkun,2CLOSUv,2FAILUv,2AGGRAVAun,2COMPLIiCE,2n sE VlGE",
      "2DIFFICULuES,2LABOURgG,2FOSTlgG"]),
    (0x1D360, [
      "0COUNTgG ROtUNIT DIGIT nE,4TWO,4svE,4FOUR,4FIVE,4SIX,4SEVr,4Ef,4NgE,2TrS DIGIT nE,4TWO",
      "4svE,4FOUR,4FIVE,4SIX,4SEVr,4Ef,4NgE,0IDEOGRAPHIC TcLY MeK nE,3TWO,3svE,3FOUR,3FIVE",
      "0TcLY MeK nE,2FIVE"]),
    (0x1D400, [
      "0MAsEMAuCc BOLtCAPITc A,3B,3C,3D,3E,3F,3G,3H,3I,3J,3K,3L,3M,3N,3O,3P,3Q,3R,3S,3T,3U,3V",
      "3W,3X,3Y,3Z,2j A,3B,3C,3D,3E,3F,3G,3H,3I,3J,3K,3L,3M,3N,3O,3P,3Q,3R,3S,3T,3U,3V,3W,3X,3Y",
      "3Z,1ITcIC CAPITc A,3B,3C,3D,3E,3F,3G,3H,3I,3J,3K,3L,3M,3N,3O,3P,3Q,3R,3S,3T,3U,3V,3W,3X",
      "3Y,3Z,2j A,3B,3C,3D,3E,3F,3G"]),
    (0x1D456, [
      "0MAsEMAuCc ITcIC j I,3J,3K,3L,3M,3N,3O,3P,3Q,3R,3S,3T,3U,3V,3W,3X,3Y,3Z",
      "1BOLtITcIC CAPITc A,4B,4C,4D,4E,4F,4G,4H,4I,4J,4K,4L,4M,4N,4O,4P,4Q,4R,4S,4T,4U,4V,4W,4X",
      "4Y,4Z,3j A,4B,4C,4D,4E,4F,4G,4H,4I,4J,4K,4L,4M,4N,4O,4P,4Q,4R,4S,4T,4U,4V,4W,4X,4Y,4Z",
      "1SCRIPT CAPITc A"]),
    (0x1D49E, ["0MAsEMAuCcoCRIPT CAPITc C,3D"]),
    (0x1D4A2, ["0MAsEMAuCcoCRIPT CAPITc G"]),
    (0x1D4A5, ["0MAsEMAuCcoCRIPT CAPITc J,3K"]),
    (0x1D4A9, ["0MAsEMAuCcoCRIPT CAPITc N,3O,3P,3Q"]),
    (0x1D4AE, ["0MAsEMAuCcoCRIPT CAPITco,3T,3U,3V,3W,3X,3Y,3Z,2j A,3B,3C,3D"]),
    (0x1D4BB, ["0MAsEMAuCcoCRIPT j F"]),
    (0x1D4BD, ["0MAsEMAuCcoCRIPT j H,3I,3J,3K,3L,3M,3N"]),
    (0x1D4C5, [
      "0MAsEMAuCcoCRIPT j P,3Q,3R,3S,3T,3U,3V,3W,3X,3Y,3Z,1BOLDoCRIPT CAPITc A,4B,4C,4D,4E,4F",
      "4G,4H,4I,4J,4K,4L,4M,4N,4O,4P,4Q,4R,4S,4T,4U,4V,4W,4X,4Y,4Z,3j A,4B,4C,4D,4E,4F,4G,4H,4I",
      "4J,4K,4L,4M,4N,4O,4P,4Q,4R,4S,4T,4U,4V,4W,4X,4Y,4Z,1FRAKTUR CAPITc A,3B"]),
    (0x1D507, ["0MAsEMAuCc FRAKTUR CAPITc D,3E,3F,3G"]),
    (0x1D50D, ["0MAsEMAuCc FRAKTUR CAPITc J,3K,3L,3M,3N,3O,3P,3Q"]),
    (0x1D516, ["0MAsEMAuCc FRAKTUR CAPITco,3T,3U,3V,3W,3X,3Y"]),
    (0x1D51E, [
      "0MAsEMAuCc FRAKTUR j A,3B,3C,3D,3E,3F,3G,3H,3I,3J,3K,3L,3M,3N,3O,3P,3Q,3R,3S,3T,3U,3V,3W",
      "3X,3Y,3Z,1yUBk-STRUCK CAPITc A,3B"]),
    (0x1D53B, ["0MAsEMAuCc yUBk-STRUCK CAPITc D,3E,3F,3G"]),
    (0x1D540, ["0MAsEMAuCc yUBk-STRUCK CAPITc I,3J,3K,3L,3M"]),
    (0x1D546, ["0MAsEMAuCc yUBk-STRUCK CAPITc O"]),
    (0x1D54A, ["0MAsEMAuCc yUBk-STRUCK CAPITco,3T,3U,3V,3W,3X,3Y"]),
    (0x1D552, [
      "0MAsEMAuCc yUBk-STRUCK j A,3B,3C,3D,3E,3F,3G,3H,3I,3J,3K,3L,3M,3N,3O,3P,3Q,3R,3S,3T,3U",
      "3V,3W,3X,3Y,3Z,1BOLtFRAKTUR CAPITc A,4B,4C,4D,4E,4F,4G,4H,4I,4J,4K,4L,4M,4N,4O,4P,4Q,4R",
      "4S,4T,4U,4V,4W,4X,4Y,4Z,3j A,4B,4C,4D,4E,4F,4G,4H,4I,4J,4K,4L,4M,4N,4O,4P,4Q,4R,4S,4T,4U",
      "4V,4W,4X,4Y,4Z,1SiS-SlIF CAPITc A,3B,3C,3D,3E,3F,3G,3H,3I,3J,3K,3L,3M,3N,3O,3P,3Q,3R,3S",
      "3T,3U,3V,3W,3X,3Y,3Z,2j A,3B,3C,3D,3E,3F,3G,3H,3I,3J,3K,3L,3M,3N,3O,3P,3Q,3R,3S,3T,3U,3V",
      "3W,3X,3Y,3Z,2BOLtCAPITc A,4B,4C,4D,4E,4F,4G,4H,4I,4J,4K,4L,4M,4N,4O,4P,4Q,4R,4S,4T,4U,4V",
      "4W,4X,4Y,4Z,3j A,4B,4C,4D,4E,4F,4G,4H,4I,4J,4K,4L,4M,4N,4O,4P,4Q,4R,4S,4T,4U,4V,4W,4X,4Y",
      "4Z,2ITcIC CAPITc A,4B,4C,4D,4E,4F,4G,4H,4I,4J,4K,4L,4M,4N,4O,4P,4Q,4R,4S,4T,4U,4V,4W,4X",
      "4Y,4Z,3j A,4B,4C,4D,4E,4F,4G,4H,4I,4J,4K,4L,4M,4N,4O,4P,4Q,4R,4S,4T,4U,4V,4W,4X,4Y,4Z",
      "2BOLtITcIC CAPITc A,5B,5C,5D,5E,5F,5G,5H,5I,5J,5K,5L,5M,5N,5O,5P,5Q,5R,5S,5T,5U,5V,5W,5X",
      "5Y,5Z,4j A,5B,5C,5D,5E,5F,5G,5H,5I,5J,5K,5L,5M,5N,5O,5P,5Q,5R,5S,5T,5U,5V,5W,5X,5Y,5Z",
      "1MnOSPACE CAPITc A,3B,3C,3D,3E,3F,3G,3H,3I,3J,3K,3L,3M,3N,3O,3P,3Q,3R,3S,3T,3U,3V,3W,3X",
      "3Y,3Z,2j A,3B,3C,3D,3E,3F,3G,3H,3I,3J,3K,3L,3M,3N,3O,3P,3Q,3R,3S,3T,3U,3V,3W,3X,3Y,3Z",
      "1ITcIC j yTkSS I,4J"]),
    (0x1D6A8, [
      "0MAsEMAuCc BOLtCAPITc cPz,3BETA,3GAMMA,3DELTA,3EPSILn,3ZETA,3ETA,3sETA,3IOTA,3KAPPA",
      "3LAMDA,3MU,3NU,3XI,3OMICRn,3PI,3RHO,3sETAoYMBOL,3SIGMA,3TAU,3UPSILn,3PHI,3CHI,3PSI",
      "3OMEGA,2NABLA,2j cPz,3BETA,3GAMMA,3DELTA,3EPSILn,3ZETA,3ETA,3sETA,3IOTA,3KAPPA,3LAMDA",
      "3MU,3NU,3XI,3OMICRn,3PI,3RHO,3FgcoIGMA,3SIGMA,3TAU,3UPSILn,3PHI,3CHI,3PSI,3OMEGA",
      "2Peuc DIFFlruc,2EPSILnoYMBOL,2sETAoYMBOL,2KAPPAoYMBOL,2PHIoYMBOL,2RHOoYMBOL,2PIoYMBOL",
      "1ITcIC CAPITc cPz,3BETA,3GAMMA,3DELTA,3EPSILn,3ZETA,3ETA,3sETA,3IOTA,3KAPPA,3LAMDA,3MU",
      "3NU,3XI,3OMICRn,3PI,3RHO,3sETAoYMBOL,3SIGMA,3TAU,3UPSILn,3PHI,3CHI,3PSI,3OMEGA,2NABLA",
      "2j cPz,3BETA,3GAMMA,3DELTA,3EPSILn,3ZETA,3ETA,3sETA,3IOTA,3KAPPA,3LAMDA,3MU,3NU,3XI",
      "3OMICRn,3PI,3RHO,3FgcoIGMA,3SIGMA,3TAU,3UPSILn,3PHI,3CHI,3PSI,3OMEGA,2Peuc DIFFlruc",
      "2EPSILnoYMBOL,2sETAoYMBOL,2KAPPAoYMBOL,2PHIoYMBOL,2RHOoYMBOL,2PIoYMBOL",
      "1BOLtITcIC CAPITc cPz,4BETA,4GAMMA,4DELTA,4EPSILn,4ZETA,4ETA,4sETA,4IOTA,4KAPPA,4LAMDA",
      "4MU,4NU,4XI,4OMICRn,4PI,4RHO,4sETAoYMBOL,4SIGMA,4TAU,4UPSILn,4PHI,4CHI,4PSI,4OMEGA",
      "3NABLA,3j cPz,4BETA,4GAMMA,4DELTA,4EPSILn,4ZETA,4ETA,4sETA,4IOTA,4KAPPA,4LAMDA,4MU,4NU",
      "4XI,4OMICRn,4PI,4RHO,4FgcoIGMA,4SIGMA,4TAU,4UPSILn,4PHI,4CHI,4PSI,4OMEGA,3Peuc DIFFlruc",
      "3EPSILnoYMBOL,3sETAoYMBOL,3KAPPAoYMBOL,3PHIoYMBOL,3RHOoYMBOL,3PIoYMBOL",
      "1SiS-SlIF BOLtCAPITc cPz,4BETA,4GAMMA,4DELTA,4EPSILn,4ZETA,4ETA,4sETA,4IOTA,4KAPPA",
      "4LAMDA,4MU,4NU,4XI,4OMICRn,4PI,4RHO,4sETAoYMBOL,4SIGMA,4TAU,4UPSILn,4PHI,4CHI,4PSI",
      "4OMEGA,3NABLA,3j cPz,4BETA,4GAMMA,4DELTA,4EPSILn,4ZETA,4ETA,4sETA,4IOTA,4KAPPA,4LAMDA",
      "4MU,4NU,4XI,4OMICRn,4PI,4RHO,4FgcoIGMA,4SIGMA,4TAU,4UPSILn,4PHI,4CHI,4PSI,4OMEGA",
      "3Peuc DIFFlruc,3EPSILnoYMBOL,3sETAoYMBOL,3KAPPAoYMBOL,3PHIoYMBOL,3RHOoYMBOL,3PIoYMBOL",
      "3ITcIC CAPITc cPz,5BETA,5GAMMA,5DELTA,5EPSILn,5ZETA,5ETA,5sETA,5IOTA,5KAPPA,5LAMDA,5MU",
      "5NU,5XI,5OMICRn,5PI,5RHO,5sETAoYMBOL,5SIGMA,5TAU,5UPSILn,5PHI,5CHI,5PSI,5OMEGA,4NABLA",
      "4j cPz,5BETA,5GAMMA,5DELTA,5EPSILn,5ZETA,5ETA,5sETA,5IOTA,5KAPPA,5LAMDA,5MU,5NU,5XI",
      "5OMICRn,5PI,5RHO,5FgcoIGMA,5SIGMA,5TAU,5UPSILn,5PHI,5CHI,5PSI,5OMEGA,4Peuc DIFFlruc",
      "4EPSILnoYMBOL,4sETAoYMBOL,4KAPPAoYMBOL,4PHIoYMBOL,4RHOoYMBOL,4PIoYMBOL",
      "1BOLtCAPITc DIGAMMA,2j DIGAMMA"]),
    (0x1D7CE, [
      "0MAsEMAuCc BOLtDIGIT ZlO,3nE,3TWO,3svE,3FOUR,3FIVE,3SIX,3SEVr,3Ef,3NgE",
      "1yUBk-STRUCK DIGIT ZlO,3nE,3TWO,3svE,3FOUR,3FIVE,3SIX,3SEVr,3Ef,3NgE,1SiS-SlIF DIGIT ZlO",
      "3nE,3TWO,3svE,3FOUR,3FIVE,3SIX,3SEVr,3Ef,3NgE,2BOLtDIGIT ZlO,4nE,4TWO,4svE,4FOUR,4FIVE",
      "4SIX,4SEVr,4Ef,4NgE,1MnOSPACE DIGIT ZlO,3nE,3TWO,3svE,3FOUR,3FIVE,3SIX,3SEVr,3Ef,3NgE",
      "0SIGNWRITgG HiD-FIST gDEX,1HiD-CIRCk gDEX,1HiD-CUP gDEX,1HiD-OVc gDEX,1HiD-HgGE gDEX",
      "1HiD-iGk gDEX,1HiD-FIST gDEX BrT,1HiD-CIRCk gDEX BrT,1HiD-FIST sUMB UNDl gDEX BrT",
      "2gDEX RAISEtKNUCKk,3CUPPED,3HgGED,4LOW,1HiD-CIRCk gDEX HgGE,1HiD-FIST gDEX MIDDk",
      "1HiD-CIRCk gDEX MIDDk,1HiD-FIST gDEX MIDDk BrT,4RAISEtKNUCKkS,4HgGED,3UP MIDDk HgGED",
      "3HgGEtMIDDk UP,3MIDDk CnJOgED,5gDEX BrT,5MIDDk BrT,5CUPPED,5HgGED,4CROSSED",
      "1HiD-CIRCk gDEX MIDDk CROSSED,1HiD-FIST MIDDk BrT OVl gDEX,2gDEX BrT OVl MIDDk",
      "3MIDDk sUMB,1HiD-CIRCk gDEX MIDDk sUMB,1HiD-FIST gDEX MIDDkoTRAf sUMB BrT,4BrT sUMBoTRAf",
      "4sUMB BrT,4HgGEDoPvAtsUMBoIDE,3UP MIDDk HgGEtsUMBoIDE,7CnJOgED,3HgGEtMIDDk UP sUMBoIDE",
      "3MIDDk UPoPvAtsUMB FORWeD,4sUMB CUPPED,5CIRCkD,5HOOKED,5HgGED",
      "2sUMB BETWEr gDEX MIDDkoTRAf,2gDEX MIDDk CnJOgEtsUMBoIDE,7CnJOgED,7BrT",
      "2MIDDk sUMB HOOKEtgDEX UP,2gDEX sUMB HOOKEtMIDDk UP,3MIDDk CnJOgEtHgGEtsUMBoIDE",
      "4CROSSEtsUMBoIDE,4CnJOgEtsUMB FORWeD,5CUPPEtsUMB FORWeD,2MIDDk sUMB CUPPEtgDEX UP",
      "2gDEX sUMB CUPPEtMIDDk UP,2MIDDk sUMB CIRCktgDEX UP,6HgGED,2gDEX sUMB iGktOUT MIDDk UP",
      "5g MIDDk UP,4CIRCktMIDDk UP,3MIDDk sUMB CnJOgEtHgGED,5iGktOUT,5iGkD",
      "2MIDDk sUMB iGktOUT gDEX UP,7CROSSED,5gDEX UP,2gDEX sUMB HOOKEtMIDDk HgGED",
      "1HiD-FLAT FOUR FgGlS,4BrT,4HgGED,4CnJOgED,5SPLIT,1HiD-CLAW FOUR FgGlS CnJOgED",
      "1HiD-FIST FOUR FgGlS CnJOgEtBrT,1HiD-HgGE FOUR FgGlS CnJOgED,1HiD-FLAT FIVE FgGlSoPvAD",
      "2HEEL FIVE FgGlSoPvAD,2FIVE FgGlSoPvAtFOUR BrT,2HEEL FIVE FgGlSoPvAtFOUR BrT",
      "2FIVE FgGlSoPvAtBrT,2HEEL FIVE FgGlSoPvAtBrT,2FIVE FgGlSoPvAtsUMB FORWeD",
      "1HiD-CUP FIVE FgGlSoPvAD,5OPr,1HiD-HgGE FIVE FgGlSoPvAtOPr,1HiD-OVc FIVE FgGlSoPvAD",
      "1HiD-FLAT FIVE FgGlSoPvAtHgGED,6sUMBoIDE,6NO sUMB,1HiD-FLAT,2BETWEr PcM FACgGS,2HEEL",
      "2sUMBoIDE,2HEEL sUMBoIDE,2sUMB BrT,3FORWeD,2SPLIT gDEX sUMBoIDE,3CrTv,4sUMBoIDE,6BrT",
      "3LITTk,1HiD-CLAW,2sUMBoIDE,2NO sUMB,2sUMB FORWeD,1HiD-HOOK CURLICUE,1HiD-HOOK",
      "1HiD-CUP OPr,1HiD-CUP,2OPr sUMBoIDE,2sUMBoIDE,2OPr NO sUMB,2NO sUMB,2OPr sUMB FORWeD",
      "2sUMB FORWeD,1HiD-CURLICUE OPr,1HiD-CURLICUE,1HiD-CIRCk,1HiD-OVc,2sUMBoIDE,2NO sUMB",
      "2sUMB FORWeD,1HiD-HgGE OPr,3sUMB FORWeD,1HiD-HgGE,2j,2OPr sUMBoIDE,2sUMBoIDE",
      "2OPr NO sUMB,2NO sUMB,2sUMBoIDE TOUCHgG gDEX,3BETWEr MIDDk RgG,1HiD-iGk",
      "1HiD-FIST gDEX MIDDk RgG,1HiD-CIRCk gDEX MIDDk RgG,1HiD-HgGE gDEX MIDDk RgG",
      "1HiD-iGk gDEX MIDDk RgG,1HiD-HgGE LITTk,1HiD-FIST gDEX MIDDk RgG BrT,5CnJOgED",
      "1HiD-HgGE gDEX MIDDk RgG CnJOgED,1HiD-FIST LITTk yWN,4RIPPkoTRAf,5CURVED,4OslS CIRCkD",
      "3UP,2sUMB UNDl LITTk UP,1HiD-CIRCk LITTk UP,1HiD-OVc LITTk UP,1HiD-iGk LITTk UP",
      "1HiD-FIST LITTk RAISEtKNUCKk,3BrT,3TOUCHES sUMB,3sUMB,1HiD-HgGE LITTk sUMB",
      "1HiD-FIST LITTk gDEX sUMB,1HiD-HgGE LITTk gDEX sUMB",
      "1HiD-iGk LITTk gDEX sUMB gDEX sUMB OUT,6sUMB,1HiD-FIST LITTk gDEX,1HiD-CIRCk LITTk gDEX",
      "1HiD-HgGE LITTk gDEX,1HiD-iGk LITTk gDEX,1HiD-FIST gDEX MIDDk LITTk",
      "1HiD-CIRCk gDEX MIDDk LITTk,1HiD-HgGE gDEX MIDDk LITTk,2RgG,1HiD-iGk gDEX MIDDk LITTk",
      "1HiD-FIST gDEX MIDDk CROSS LITTk,1HiD-CIRCk gDEX MIDDk CROSS LITTk,1HiD-FIST RgG yWN",
      "1HiD-HgGE RgG yWN gDEX sUMB HOOK MIDDk,1HiD-iGk RgG yWN MIDDk sUMB gDEX CROSS",
      "1HiD-FIST RgG UP,3RAISEtKNUCKk,3LITTk,1HiD-CIRCk RgG LITTk,1HiD-OVc RgG LITTk",
      "1HiD-iGk RgG LITTk,1HiD-FIST RgG MIDDk,4CnJOgED,4RAISEtKNUCKkS,3gDEX,3sUMB",
      "1HiD-HOOK RgG sUMB,1HiD-FIST gDEX RgG LITTk,1HiD-CIRCk gDEX RgG LITTk",
      "1HiD-CURLICUE gDEX RgG LITTk n,1HiD-HOOK gDEX RgG LITTk OUT,5g,5UNDl",
      "1HiD-CUP gDEX RgG LITTk,1HiD-HgGE gDEX RgG LITTk,1HiD-iGk gDEX RgG LITTk OUT,4LITTk",
      "1HiD-FIST MIDDk yWN,1HiD-HgGE MIDDk,1HiD-FIST MIDDk UP,1HiD-CIRCk MIDDk UP",
      "1HiD-FIST MIDDk RAISEtKNUCKk,3UP sUMBoIDE,1HiD-HOOK MIDDk sUMB",
      "1HiD-FIST MIDDk sUMB LITTk,3LITTk,3RgG LITTk,1HiD-CIRCk MIDDk RgG LITTk",
      "1HiD-CURLICUE MIDDk RgG LITTk n,1HiD-CUP MIDDk RgG LITTk,1HiD-HgGE MIDDk RgG LITTk",
      "1HiD-iGk MIDDk RgG LITTk OUT,5g,4LITTk,1HiD-CIRCk MIDDk RgG LITTk BrT",
      "1HiD-CLAW MIDDk RgG LITTk CnJOgED,6SIDE,1HiD-HOOK MIDDk RgG LITTk CnJOgEtOUT,6g,5CnJOgED",
      "1HiD-HgGE gDEX HgGED,1HiD-FIST gDEX sUMBoIDE,1HiD-HgGE gDEX sUMBoIDE",
      "1HiD-FIST gDEX sUMBoIDE sUMB DIAGnc,6CnJOgED,6BrT,5gDEX BrT,5BOs BrT,5gDEX HgGE",
      "4FORWetgDEXoTRAf,6BrT,4HOOK,4CURLICUE,4CURVE sUMB gSIDE",
      "1HiD-CLAW gDEX sUMB CURVE sUMB gSIDE,1HiD-FIST gDEX sUMB CURVE sUMB UNDl,4CIRCk",
      "1HiD-CUP gDEX sUMB,4OPr,1HiD-HgGE gDEX sUMB OPr,4LeGE,3sUMB,4j,1HiD-iGk gDEX sUMB OUT,4g",
      "3sUMB,1HiD-FIST sUMB,3HEEL,3SIDE DIAGnc,4CnJOgED,4BrT,3FORWeD,3BETWEr gDEX MIDDk",
      "4MIDDk RgG,4RgG LITTk,3UNDl TWO FgGlS,3OVl TWO FgGlS,3UNDl svE FgGlS,4FOUR FgGlS",
      "3OVl FOUR RAISEtKNUCKkS,1HiD-FIST,2HEEL,1TOUCHogGk,2MULuPk,2BETWEr,1GRASPogGk,2MULuPk",
      "2BETWEr,1STRIKEogGk,2MULuPk,2BETWEr,1BRUSHogGk,2MULuPk,2BETWEr,1RUBogGk,2MULuPk,2BETWEr",
      "1SURFACEoYMBOLS,2BETWEr,1SQUEEZE LeGEogGk,2jogGk,2LeGE MULuPk,2j MULuPk,2SEQUruc",
      "1FLICK LeGEogGk,2jogGk,2LeGE MULuPk,2j MULuPk,2SEQUruc,1SQUEEZE FLICK cTlNATgG",
      "1MOVEMrT-HgGE UP yWN LeGE,4j,3SEQUruc,2yWNoEQUruc,2UP yWN cTlNATgG LeGE,5j",
      "2SIDE TOoIDEoCISSORS,1MOVEMrT-WcLPLiE FgGl CnTACT,1MOVEMrT-FLOORPLiE FgGl CnTACT",
      "1MOVEMrT-WcLPLiEogGkoTRAf j,4MEDIUM,4LeGE,4LeGEST,3WRIST FkX,2yUBkoTRAf,3WRIST FkX",
      "3cTlNATgG,4WRIST FkX,2CROSS,2TRIPkoTRAf MOVEMrT,3WRIST FkX,3cTlNATgG,4WRIST FkX,2Brtj",
      "3MEDIUM,3LeGE,2CORNl j,3MEDIUM,3LeGE,3ROTAun,2CHECK j,3MEDIUM,3LeGE,2BOX j,3MEDIUM,3LeGE",
      "2ZIGZAG j,3MEDIUM,3LeGE,2PEAKS j,3MEDIUM,3LeGE,1TRAVEL-WcLPLiE ROTAun-WcLPLiEogGk,3yUBk",
      "3cTlNATgG,2ROTAun-FLOORPLiEogGk,3yUBk,3cTlNATgG,2SzKgG,2eMoPIRcogGk,4yUBk,4TRIPk",
      "1MOVEMrT-DIAGnc AWAY j,3MEDIUM,3LeGE,3LeGEST,2TOx j,3MEDIUM,3LeGE,3LeGEST,2BETWEr AWAY j",
      "4MEDIUM,4LeGE,4LeGEST,3TOx j,4MEDIUM,4LeGE,4LeGEST,1MOVEMrT-FLOORPLiEogGkoTRAf j,4MEDIUM",
      "4LeGE,4LeGEST,3WRIST FkX,2yUBkoTRAf,3WRIST FkX,3cTlNATgG,4WRIST FkX,2CROSS",
      "2TRIPkoTRAf MOVEMrT,3WRIST FkX,3cTlNATgG MOVEMrT,4WRIST FkX,2BrD,2CORNl j,3MEDIUM,3LeGE",
      "2CHECK,2BOX j,3MEDIUM,3LeGE,2ZIGZAG j,3MEDIUM,3LeGE,2PEAKS j,3MEDIUM,3LeGE",
      "1TRAVEL-FLOORPLiE ROTAun-FLOORPLiEogGk,3yUBk,3cTlNATgG,2ROTAun-WcLPLiEogGk,3yUBk",
      "3cTlNATgG,2SzKgG,1MOVEMrT-WcLPLiE CURVE QUeTl j,4MEDIUM,4LeGE,4LeGEST,3HcF-CIRCk j",
      "4MEDIUM,4LeGE,4LeGEST,3svE-QUeTl CIRCk j,5MEDIUM,2HUMP j,3MEDIUM,3LeGE,2LOOP j,3MEDIUM",
      "3LeGE,3j yUBk,2WAVE CURVE yUBk j,5MEDIUM,5LeGE,4TRIPk j,5MEDIUM,5LeGE,2CURVE sroTRAf",
      "2CURVEtCROSS j,4MEDIUM,1ROTAun-WcLPLiEogGk,2yUBk,2cTlNATE,1MOVEMrT-WcLPLiEozKgG",
      "2CURVE HITTgG FRnT WcL,2HUMP HITTgG FRnT WcL,2LOOP HITTgG FRnT WcL,2WAVE HITTgG FRnT WcL",
      "1ROTAun-WcLPLiEogGk HITTgG FRnT WcL,2yUBk HITTgG FRnT WcL,2cTlNATgG HITTgG FRnT WcL",
      "1MOVEMrT-WcLPLiE CURVE HITTgG CHEST,2HUMP HITTgG CHEST,2LOOP HITTgG CHEST",
      "2WAVE HITTgG CHEST,1ROTAun-WcLPLiEogGk HITTgG CHEST,2yUBk HITTgG CHEST",
      "2cTlNATgG HITTgG CHEST,1MOVEMrT-WcLPLiE WAVE DIAGnc PAs j,5MEDIUM,5LeGE",
      "1MOVEMrT-FLOORPLiE CURVE HITTgG CEILgG j,5LeGE,2HUMP HITTgG CEILgG j yUBk,5LeGE yUBk",
      "5j TRIPk,5LeGE TRIPk,2LOOP HITTgG CEILgG jogGk,5LeGEogGk,5j yUBk,5LeGE yUBk",
      "2WAVE HITTgG CEILgG j,5LeGE,1ROTAun-FLOORPLiEogGk HITTgG CEILgG,2yUBk HITTgG CEILgG",
      "2cTlNATgG HITTgG CEILgG,1MOVEMrT-FLOORPLiE CURVE HITTgG FLOOR j,5LeGE",
      "2HUMP HITTgG FLOOR j yUBk,5LeGE yUBk,5TRIPk j TRIPk,6LeGE TRIPk,2LOOP HITTgG FLOOR jogGk",
      "5LeGEogGk,5j yUBk,5LeGE yUBk,2WAVE HITTgG FLOOR j,5LeGE",
      "1ROTAun-FLOORPLiEogGk HITTgG FLOOR,2yUBk HITTgG FLOOR,2cTlNATgG HITTgG FLOOR",
      "1MOVEMrT-FLOORPLiE CURVE j,3MEDIUM,3LeGE,3LeGEST,3COMBgED,2HUMP j,2LOOP j,2WAVEoNAKE,3j",
      "3LeGE,1ROTAun-FLOORPLiEogGk,2yUBk,2cTlNATgG,1MOVEMrT-FLOORPLiEozKgG PeckL",
      "1MOVEMrT-WcLPLiE eM CIRCk jogGk,4MEDIUMogGk,4j yUBk,4MEDIUM yUBk",
      "1MOVEMrT-FLOORPLiE eM CIRCk HITTgG WcL jogGk,6MEDIUMogGk,6LeGEogGk,6j yUBk,6MEDIUM yUBk",
      "6LeGE yUBk,1MOVEMrT-WcLPLiE WRIST CIRCk FRnTogGk,5yUBk",
      "1MOVEMrT-FLOORPLiE WRIST CIRCk HITTgG WcLogGk,6yUBk,1MOVEMrT-WcLPLiE FgGl CIRCkSogGk",
      "4yUBk,1MOVEMrT-FLOORPLiE FgGl CIRCkS HITTgG WcLogGk,6yUBk,1DYNAMICmHEAtj,3LeGE,2FAST",
      "2SLOW,2TrSE,2vLAXED,2SIMULTiEOUS,3cTlNATgG,2EVlY Osl uME,2GRADUc,1HEAD,2RIM",
      "2MOVEMrT-WcLPLiEoTRAf,3uLT,2MOVEMrT-FLOORPLiEoTRAf,2MOVEMrT-WcLPLiE CURVE",
      "2MOVEMrT-FLOORPLiE CURVE,2MOVEMrT CIRCk,1FACE DIvCun POSIun NOSE FORWetuLTgG,5UP OR yWN",
      "8uLTgG,1EYEBROWSoTRAf UP,3NEUTRc,3yWN,1DvAMY EYEBROWS NEUTRc yWN,3yWN NEUTRc,3UP NEUTRc",
      "3NEUTRc UP,1FOvHEAtNEUTRc,2CnTACT,2WRgKkD,1EYES OPr,2SQUEEZED,2CLOSED,1EYE BLgKogGk",
      "3MULuPk,1EYES HcF OPr,2WIDE OPr,2HcF CLOSED,2WIDrgG MOVEMrT,1EYE WgK,1EYELASHES UP,2yWN",
      "2FLUTTlgG,1EYEGAZE-WcLPLiEoTRAf,3yUBk,3cTlNATgG,1EYEGAZE-FLOORPLiEoTRAf,3yUBk,3cTlNATgG",
      "1EYEGAZE-WcLPLiE CURVED,1EYEGAZE-FLOORPLiE CURVED,1EYEGAZE-WcLPLiE CIRCLgG",
      "1CHEEKS PUFFED,2NEUTRc,2SUCKED,1TrSE CHEEKS HIGH,3MIDDk,3LOW,1EeS,1NOSE NEUTRc,2CnTACT",
      "2WRgKkS,2WIGGkS,1AIR BLOWgG OUT,2SUCKgG g,2BLOW j ROTAunS,2SUCK j ROTAunS,1BvAs gHcE",
      "2EXHcE,1MOUs CLOSEtNEUTRc,3FORWeD,3CnTACT,2SMIk,3WRgKkD,3OPr,2FROWN,3WRgKkD,3OPr",
      "2OPr CIRCk,3FORWeD,3WRgKkD,3OVc,4WRgKkD,4YAWN,3vCTiGk,4WRgKkD,4YAWN,2KISS,3FORWeD",
      "3WRgKkD,2TrSE,3FORWeD,3SUCKED,1LIPS PvSSEtTOGEsl,1LIP LOWl OVl UPPl,2UPPl OVl LOWl",
      "1MOUs CORNlS,2WRgKkSogGk,3yUBk,1TnGUEouCKgG OUT Fe,2LICKgG LIPS,2uP BETWEr LIPS",
      "3TOUCHgG gSIDE MOUs,2gSIDE MOUs vLAXED,2MOVES AGAgST CHEEK,2CrTvouCKgG OUT,3gSIDE MOUs",
      "1TEEs,2MOVEMrT,2n TnGUE,4MOVEMrT,3LIPS,4MOVEMrT,2BITE LIPS,1MOVEMrT-WcLPLiE JAW",
      "1MOVEMrT-FLOORPLiE JAW,1NECK,1zIR,1EXCITEMrT,1SHOULDl HIPoPgE,3POSIunS",
      "1WcLPLiEoHOULDl HIP MOVE,1FLOORPLiEoHOULDl HIP MOVE,1SHOULDl uLTgG FROM WAIST",
      "1TORSO-WcLPLiEoTRAfoTvTCH,2CURVEtBrD,1TORSO-FLOORPLiE TWISTgG",
      "1UPPl BODY uLTgG FROM HIP JOgTS,1LIMB COMBgAun,2kNGs-1,2kNGs-2,2kNGs-3,2kNGs-4,2kNGs-5",
      "2kNGs-6,2kNGs-7,1FgGl,1LOCAun-WcLPLiEoPACE,1LOCAun-FLOORPLiEoPACE,1LOCAun HEf,2WIDs",
      "2DEPs,2HEAtNECK,2TORSO,2LIMBS DIGITS,1COMMA,1FULLoTOP,1SEMICOLn,1COLn,1PersESIS"]),
    (0x1DA9B, ["0SIGNWRITgG FILL MODIFIl-2,2MODIFIl-3,2MODIFIl-4,2MODIFIl-5,2MODIFIl-6"]),
    (0x1DAA1, [
      "0SIGNWRITgG ROTAun MODIFIl-2,2MODIFIl-3,2MODIFIl-4,2MODIFIl-5,2MODIFIl-6,2MODIFIl-7",
      "2MODIFIl-8,2MODIFIl-9,2MODIFIl-10,2MODIFIl-11,2MODIFIl-12,2MODIFIl-13,2MODIFIl-14",
      "2MODIFIl-15,2MODIFIl-16"]),
    (0x1DF00, [
      "0LATg jaFrG DIGRAPHbTRILL,3vVlSEDoCRIPT G,1kTTl j CAPITc TURNEtG,1javVlSEtK",
      "1kTTl j CAPITc LbBELT,1jakZHbvTROFkX HOOK,3TURNEtYbBELT,3vVlSEtrG",
      "3TURNEtRbLnG kG itvTROFkX HOOK,3TbHOOK itvTROFkX HOOK,1kTTl vTROFkX CLICKbvTROFkX HOOK",
      "1jaESHbyUBk Be,7itCURL,3TURNEtTbCURL,1kTTl gVlTEtGLOTTcoTOPbCURL,2STvTCHEtCbCURL",
      "2j CAPITc TURNEtK,1jaLbFISHHOOK,3DEZH DIGRAPHbPcATc HOOK,3LbBELT itPcATc HOOK",
      "3rGbPcATc HOOK,3TURNEtRbPcATc HOOK,3RbFISHHOOK itPcATc HOOK,3TESH DIGRAPHbPcATc HOOK",
      "3EZHbPcATc HOOK,3DEZH DIGRAPHbvTROFkX HOOK,3IbSTROKE itvTROFkX HOOK,3ObvTROFkX HOOK",
      "3TESH DIGRAPHbvTROFkX HOOK,3CbvTROFkX HOOK,3SbCURL"]),
    (0x1E000, ["0COMBggG GLAGOLIuCaAZU,3BUKY,3VEDE,3GLAGOLI,3yBRO,3YESTU,3ZHIVETE"]),
    (0x1E008, [
      "0COMBggG GLAGOLIuCaZEMLJA,3IZHE,3gIuc IZHE,3I,3DJlVI,3KAKO,3LJUDIJE,3MYSLITE,3NASHI,3nU",
      "3POKOJI,3RITSI,3SLOVO,3TVRIy,3UKU,3FRITU,3HlU"]),
    (0x1E01B, ["0COMBggG GLAGOLIuCaSHTA,3TSI,3CHRIVI,3Sz,3YlU,3YlI,3YAu"]),
    (0x1E023, ["0COMBggG GLAGOLIuCaYU,3j YUS"]),
    (0x1E026, ["0COMBggG GLAGOLIuCaYO,3IOTATEtj YUS,3BIG YUS,3IOTATEtBIG YUS,3FITA"]),
    (0x1E100, [
      "0NYIAKrG PUACHUE HMnGaMA,4TSA,4NTA,4TA,4z,4NA,4XA,4NKA,4CA,4LA,4SA,4ZA,4NCA,4NTSA,4KA",
      "4DA,4NYA,4NRA,4VA,4NTXA,4TXA,4FA,4RA,4QA,4YA,4NQA,4PA,4XYA,4NPA,4DLA,4NPLA,4zH,4MLA,4PLA",
      "4GA,4RRA,4A,4AA,4I,4U,4O,4OO,4E,4EE,4W"]),
    (0x1E130, [
      "0NYIAKrG PUACHUE HMnG TnE-B,3TnE-M,3TnE-J,3TnE-V,3TnE-S,3TnE-G,3TnE-D,3SIGN FOR PlSn",
      "5sgG,5LOCAun,5iIMc,5gVlTEBRATE,4XW XW,3SYLLABk kNGsrl"]),
    (0x1E140, ["0NYIAKrG PUACHUE HMnG DIGIT ZlO,4nE,4TWO,4svE,4FOUR,4FIVE,4SIX,4SEVr,4Ef,4NgE"]),
    (0x1E14E, ["0NYIAKrG PUACHUE HMnG LOGOGRAM NYAJ,3CIRCktCA"]),
    (0x1E290, [
      "0TOTOaPA,2BA,2TA,2DA,2KA,2GA,2MA,2NA,2NGA,2SA,2Cz,2YA,2WA,2JA,2z,2RA,2LA,2I,2BvAsY I,2IU",
      "2BvAsY IU,2U,2E,2BvAsY E,2EO,2BvAsY EO,2O,2AE,2BvAsY AE,2A,1SIGN RISgG TnE"]),
    (0x1E2C0, [
      "0WiCHOaAA,2A,2BA,2CA,2DA,2GA,2YA,2Pz,2LA,2NA,2PA,2TA,2sA,2FA,2SA,2Sz,2JA,2ZA,2WA,2VA,2KA",
      "2O,2AU,2RA,2MA,2Kz,2z,2E,2I,2NGA,2U,2LLz,2TSA,2TRA,2nG,2AiG,2iG,2gG,2n,2r,2Ai,2NYA,2Ur",
      "2YIH,1TnE TUP,2TUPNI,2KOI,2KOgI,1DIGIT ZlO,2nE,2TWO,2svE,2FOUR,2FIVE,2SIX,2SEVr,2Ef,2NgE"]),
    (0x1E2FF, ["0WiCHO NGUNw"]),
    (0x1E7E0, ["0EsIOPICoYLLABk HHYA,2HHYU,2HHYI,2HHYAA,2HHYEE,2HHYE,2HHYO"]),
    (0x1E7E8, ["0EsIOPICoYLLABk GURAGE HHWA,2HHWI,2HHWEE,2HHWE"]),
    (0x1E7ED, ["0EsIOPICoYLLABk GURAGE MWI,3MWEE"]),
    (0x1E7F0, [
      "0EsIOPICoYLLABk GURAGE QWI,3QWEE,3QWE,3BWI,3BWEE,3KWI,3KWEE,3KWE,3GWI,3GWEE,3GWE,3FWI",
      "3FWEE,3PWI,3PWEE"]),
    (0x1E800, [
      "0MrDE KIKAKUIoYLLABk M001 KI,3M002 KA,3M003 KU,3M065 KEE,3M095 KE,3M076 KOO,3M048 KO",
      "3M179 KUA,3M004 WI,3M005 WA,3M006 WU,3M126 WEE,3M118 WE,3M114 WOO,3M045 WO,3M194 WUI",
      "3M143 WEI,3M061 WVI,3M049 WVA,3M139 WVE,3M007 Mg,3M008 Mi,3M009 MUN,3M059 Mr,3M094 Mn",
      "3M154 MUi,3M189 MUr,3M010 BI,3M011 BA,3M012 BU,3M150 BEE,3M097 BE,3M103 BOO,3M138 BO",
      "3M013 I,3M014 A,3M015 U,3M163 EE,3M100 E,3M165 OO,3M147 O,3M137 EI,3M131 g,3M135 g",
      "3M195 i,3M178 r,3M019oI,3M020oA,3M021oU,3M162oEE,3M116oE,3M136oOO,3M079oO,3M196oIA",
      "3M025 LI,3M026 LA,3M027 LU,3M084 kE,3M073 k,3M054 LOO,3M153 LO,3M110 LnG k,3M016 DI",
      "3M017 DA,3M018 DU,3M089 DEE,3M180 yO,3M181 y,3M022 u,3M023 TA,3M024 TU,3M091 TEE",
      "3M055 TE,3M104 TOO,3M069 TO,3M028 JI,3M029 JA,3M030 JU,3M157 JEE,3M113 JE,3M160 JOO",
      "3M063 JO,3M175 LnG JO,3M031 YI,3M032 YA,3M033 YU,3M109 YEE,3M080 YE,3M141 YOO,3M121 YO",
      "3M034 FI,3M035 FA,3M036 FU,3M078 FEE,3M075 FE,3M133 FOO,3M088 FO,3M197 FUA,3M101 Fi",
      "3M037 Ng,3M038 Ni,3M039 NUN,3M117 Nr,3M169 Nn,3M176 HI,3M041 z,3M186 HU,3M040 HEE",
      "3M096 HE,3M042 HOO,3M140 HO,3M083 HEEI,3M128 HOOU,3M053 Hg,3M130 Hi,3M087 HUN,3M052 Hr",
      "3M193 Hn,3M046 HUi,3M090 NGGI,3M043 NGGA,3M082 NGGU,3M115 NGGEE,3M146 NGGE,3M156 NGGOO",
      "3M120 NGGO,3M159 NGGAA,3M127 NGGUA,3M086 LnG NGGE,3M106 LnG NGGOO,3M183 LnG NGGO",
      "3M155 GI,3M111 GA,3M168 GU,3M190 GEE,3M166 GUEI,3M167 GUi,3M184 NGr,3M057 NGn,3M177 NGUi",
      "3M068 PI,3M099 PA,3M050 PU,3M081 PEE,3M051 PE,3M102 POO,3M066 PO,3M145 MBI,3M062 MBA",
      "3M122 MBU,3M047 MBEE,3M188 MBEE,3M072 MBE,3M172 MBOO,3M174 MBO,3M187 MBUU,3M161 LnG MBE",
      "3M105 LnG MBOO,3M142 LnG MBO,3M132 KPI,3M092 KPA,3M074 KPU,3M044 KPEE,3M108 KPE",
      "3M112 KPOO,3M158 KPO,3M124 GBI,3M056 GBA,3M148 GBU,3M093 GBEE,3M107 GBE,3M071 GBOO",
      "3M070 GBO,3M171 RA,3M123 NDI,3M129 NDA,3M125 NDU,3M191 NDEE,3M119 NDE,3M067 NyO,3M064 Ny",
      "3M152 NJA,3M192 NJU,3M149 NJEE,3M134 NJOO,3M182 VI,3M185 VA,3M151 VU,3M173 VEE,3M085 VE",
      "3M144 VOO,3M077 VO,3M164 NYg,3M058 NYi,3M170 NYUN,3M098 NYr,3M060 NYn"]),
    (0x1E8C7, [
      "0MrDE KIKAKUI DIGIT nE,3TWO,3svE,3FOUR,3FIVE,3SIX,3SEVr,3Ef,3NgE,2COMBggG NUMBl TErS",
      "4TrS,4HUNDvDS,4sOUSiDS,4Tr sOUSiDS,4HUNDvtsOUSiDS,4MILLInS"]),
    (0x1E900, [
      "0ADLAM dcIF,3DAcI,3LAAM,3MIIM,3BA,3SgNYIIYHE,3PE,3BHE,3RA,3E,3FA,3I,3O,3Dz,3YHE,3WAW",
      "3NUN,3KAF,3YA,3U,3JIIM,3CHI,3z,3QAAF,3GA,3NYA,3TU,3Nz,3VA,3Kz,3GBE,3Zc,3KPO,3Sz,1jacIF",
      "3DAcI,3LAAM,3MIIM,3BA,3SgNYIIYHE,3PE,3BHE,3RA,3E,3FA,3I,3O,3Dz,3YHE,3WAW,3NUN,3KAF,3YA",
      "3U,3JIIM,3CHI,3z,3QAAF,3GA,3NYA,3TU,3Nz,3VA,3Kz,3GBE,3Zc,3KPO,3Sz,1cIF kNGsrl",
      "1VOWEL kNGsrl,1GEMgAun MeK,1zMZA,1CnSniT MODIFIl,1GEMgATE CnSniT MODIFIl,1NUKTA",
      "1NAScIZAun MeK"]),
    (0x1E950, ["0ADLAM DIGIT ZlO,2nE,2TWO,2svE,2FOUR,2FIVE,2SIX,2SEVr,2Ef,2NgE"]),
    (0x1E95E, ["0ADLAM gIuc EXCLAMAun MeK,2QUESun MeK"]),
    (0x1EC71, [
      "0gDICoIYAQ NUMBl nE,3TWO,3svE,3FOUR,3FIVE,3SIX,3SEVr,3Ef,3NgE,3Tr,3TWrTY,3sIRTY,3FORTY",
      "3FIFTY,3SIXTY,3SEVrTY,3EfY,3NgETY,3nE HUNDvD,3TWO HUNDvD,3svE HUNDvD,3FOUR HUNDvD",
      "3FIVE HUNDvD,3SIX HUNDvD,3SEVr HUNDvD,3Ef HUNDvD,3NgE HUNDvD,3nE sOUSiD,3TWO sOUSiD",
      "3svE sOUSiD,3FOUR sOUSiD,3FIVE sOUSiD,3SIX sOUSiD,3SEVr sOUSiD,3Ef sOUSiD,3NgE sOUSiD",
      "3Tr sOUSiD,3TWrTY sOUSiD,3sIRTY sOUSiD,3FORTY sOUSiD,3FIFTY sOUSiD,3SIXTY sOUSiD",
      "3SEVrTY sOUSiD,3EfY sOUSiD,3NgETY sOUSiD,3LAKH,3LAKHi,2LAKH MeK,2NUMBl KeOR,3KeORi",
      "3PvFIXEtnE,4TWO,4svE,4FOUR,4FIVE,4SIX,4SEVr,4Ef,4NgE,2PLACEHOLDl,2FRACun nE QUeTl,4HcF",
      "3svE QUeTlS,2RUPEE MeK,2NUMBl cTlNATE nE,4TWO,4Tr sOUSiD,2cTlNATE LAKH MeK"]),
    (0x1ED01, [
      "0OTTOMioIYAQ NUMBl nE,3TWO,3svE,3FOUR,3FIVE,3SIX,3SEVr,3Ef,3NgE,3Tr,3TWrTY,3sIRTY,3FORTY",
      "3FIFTY,3SIXTY,3SEVrTY,3EfY,3NgETY,3nE HUNDvD,3TWO HUNDvD,3svE HUNDvD,3FOUR HUNDvD",
      "3FIVE HUNDvD,3SIX HUNDvD,3SEVr HUNDvD,3Ef HUNDvD,3NgE HUNDvD,3nE sOUSiD,3TWO sOUSiD",
      "3svE sOUSiD,3FOUR sOUSiD,3FIVE sOUSiD,3SIX sOUSiD,3SEVr sOUSiD,3Ef sOUSiD,3NgE sOUSiD",
      "3Tr sOUSiD,3TWrTY sOUSiD,3sIRTY sOUSiD,3FORTY sOUSiD,3FIFTY sOUSiD,3SIXTY sOUSiD",
      "3SEVrTY sOUSiD,3EfY sOUSiD,3NgETY sOUSiD,2MeRATi,2cTlNATE NUMBl TWO,4svE,4FOUR,4FIVE",
      "4SIX,4SEVr,4Ef,4NgE,4Tr,4FOUR HUNDvD,4SIX HUNDvD,4TWO sOUSiD,4Tr sOUSiD,2FRACun nE HcF",
      "4SIXs"]),
    (0x1EE00, ["0eABIC MAsEMAuCc cEF,2BEH,2JEEM,2Dc"]),
    (0x1EE05, [
      "0eABIC MAsEMAuCc WAW,2ZAg,2zH,2TAH,2YEH,2KAF,2LAM,2MEEM,2NOn,2SEr,2Ag,2FEH,2SAD,2QAF,2vH",
      "2SHEr,2TEH,2sEH,2KzH,2sc,2DAD,2ZAH,2Gzg,2yTkSS BEH,3NOn,3FEH,3QAF"]),
    (0x1EE21, ["0eABIC MAsEMAuCc gIuc BEH,3JEEM"]),
    (0x1EE24, ["0eABIC MAsEMAuCc gIuc HEH"]),
    (0x1EE27, ["0eABIC MAsEMAuCc gIuc zH"]),
    (0x1EE29, ["0eABIC MAsEMAuCc gIuc YEH,3KAF,3LAM,3MEEM,3NOn,3SEr,3Ag,3FEH,3SAD,3QAF"]),
    (0x1EE34, ["0eABIC MAsEMAuCc gIucoHEr,3TEH,3sEH,3KzH"]),
    (0x1EE39, ["0eABIC MAsEMAuCc gIuc DAD"]),
    (0x1EE3B, ["0eABIC MAsEMAuCc gIuc Gzg"]),
    (0x1EE42, ["0eABIC MAsEMAuCc TAIktJEEM"]),
    (0x1EE47, ["0eABIC MAsEMAuCc TAIktzH"]),
    (0x1EE49, ["0eABIC MAsEMAuCc TAIktYEH"]),
    (0x1EE4B, ["0eABIC MAsEMAuCc TAIktLAM"]),
    (0x1EE4D, ["0eABIC MAsEMAuCc TAIktNOn,3SEr,3Ag"]),
    (0x1EE51, ["0eABIC MAsEMAuCc TAIkDoAD,3QAF"]),
    (0x1EE54, ["0eABIC MAsEMAuCc TAIkDoHEr"]),
    (0x1EE57, ["0eABIC MAsEMAuCc TAIktKzH"]),
    (0x1EE59, ["0eABIC MAsEMAuCc TAIktDAD"]),
    (0x1EE5B, ["0eABIC MAsEMAuCc TAIktGzg"]),
    (0x1EE5D, ["0eABIC MAsEMAuCc TAIktyTkSS NOn"]),
    (0x1EE5F, ["0eABIC MAsEMAuCc TAIktyTkSS QAF"]),
    (0x1EE61, ["0eABIC MAsEMAuCcoTvTCHEtBEH,3JEEM"]),
    (0x1EE64, ["0eABIC MAsEMAuCcoTvTCHEtHEH"]),
    (0x1EE67, ["0eABIC MAsEMAuCcoTvTCHEtzH,3TAH,3YEH,3KAF"]),
    (0x1EE6C, ["0eABIC MAsEMAuCcoTvTCHEtMEEM,3NOn,3SEr,3Ag,3FEH,3SAD,3QAF"]),
    (0x1EE74, ["0eABIC MAsEMAuCcoTvTCHEDoHEr,3TEH,3sEH,3KzH"]),
    (0x1EE79, ["0eABIC MAsEMAuCcoTvTCHEtDAD,3ZAH,3Gzg,3yTkSS BEH"]),
    (0x1EE7E, ["0eABIC MAsEMAuCcoTvTCHEtyTkSS FEH"]),
    (0x1EE80, ["0eABIC MAsEMAuCc LOOPEtcEF,3BEH,3JEEM,3Dc,3HEH,3WAW,3ZAg,3zH,3TAH,3YEH"]),
    (0x1EE8B, [
      "0eABIC MAsEMAuCc LOOPEtLAM,3MEEM,3NOn,3SEr,3Ag,3FEH,3SAD,3QAF,3vH,3SHEr,3TEH,3sEH,3KzH",
      "3sc,3DAD,3ZAH,3Gzg"]),
    (0x1EEA1, ["0eABIC MAsEMAuCc yUBk-STRUCK BEH,3JEEM,3Dc"]),
    (0x1EEA5, ["0eABIC MAsEMAuCc yUBk-STRUCK WAW,3ZAg,3zH,3TAH,3YEH"]),
    (0x1EEAB, [
      "0eABIC MAsEMAuCc yUBk-STRUCK LAM,3MEEM,3NOn,3SEr,3Ag,3FEH,3SAD,3QAF,3vH,3SHEr,3TEH,3sEH",
      "3KzH,3sc,3DAD,3ZAH,3Gzg"]),
    (0x1EEF0, ["0eABIC MAsEMAuCc OPlATOR MEEMbzHbTATWEEL,3zHbDc"])]

/-- Runs from 0x1F000 on: tiles, pictures and tags. -/
def pictureRuns : List NameRun :=
  [(0x1F000, [
      "0MAHJnG uk EAST WgD,2SOUs WgD,2WEST WgD,2NORs WgD,2vtDRAGn,2Gvr DRAGn,2WHITE DRAGn",
      "2nE OF CHeACTlS,2TWO OF CHeACTlS,2svE OF CHeACTlS,2FOUR OF CHeACTlS,2FIVE OF CHeACTlS",
      "2SIX OF CHeACTlS,2SEVr OF CHeACTlS,2Ef OF CHeACTlS,2NgE OF CHeACTlS,2nE OF BAMBOOS",
      "2TWO OF BAMBOOS,2svE OF BAMBOOS,2FOUR OF BAMBOOS,2FIVE OF BAMBOOS,2SIX OF BAMBOOS",
      "2SEVr OF BAMBOOS,2Ef OF BAMBOOS,2NgE OF BAMBOOS,2nE OF CIRCkS,2TWO OF CIRCkS",
      "2svE OF CIRCkS,2FOUR OF CIRCkS,2FIVE OF CIRCkS,2SIX OF CIRCkS,2SEVr OF CIRCkS",
      "2Ef OF CIRCkS,2NgE OF CIRCkS,2PLUM,2ORCHID,2BAMBOO,2CHRYSisEMUM,2SPRgG,2SUMMl,2AUTUMN",
      "2WgTl,2JOKl,2BACK"]),
    (0x1F030, [
      "0yMgO uk HORIZnTc BACK,2HORIZnTc-00-00,2HORIZnTc-00-01,2HORIZnTc-00-02,2HORIZnTc-00-03",
      "2HORIZnTc-00-04,2HORIZnTc-00-05,2HORIZnTc-00-06,2HORIZnTc-01-00,2HORIZnTc-01-01",
      "2HORIZnTc-01-02,2HORIZnTc-01-03,2HORIZnTc-01-04,2HORIZnTc-01-05,2HORIZnTc-01-06",
      "2HORIZnTc-02-00,2HORIZnTc-02-01,2HORIZnTc-02-02,2HORIZnTc-02-03,2HORIZnTc-02-04",
      "2HORIZnTc-02-05,2HORIZnTc-02-06,2HORIZnTc-03-00,2HORIZnTc-03-01,2HORIZnTc-03-02",
      "2HORIZnTc-03-03,2HORIZnTc-03-04,2HORIZnTc-03-05,2HORIZnTc-03-06,2HORIZnTc-04-00",
      "2HORIZnTc-04-01,2HORIZnTc-04-02,2HORIZnTc-04-03,2HORIZnTc-04-04,2HORIZnTc-04-05",
      "2HORIZnTc-04-06,2HORIZnTc-05-00,2HORIZnTc-05-01,2HORIZnTc-05-02,2HORIZnTc-05-03",
      "2HORIZnTc-05-04,2HORIZnTc-05-05,2HORIZnTc-05-06,2HORIZnTc-06-00,2HORIZnTc-06-01",
      "2HORIZnTc-06-02,2HORIZnTc-06-03,2HORIZnTc-06-04,2HORIZnTc-06-05,2HORIZnTc-06-06",
      "2VluCc BACK,2VluCc-00-00,2VluCc-00-01,2VluCc-00-02,2VluCc-00-03,2VluCc-00-04",
      "2VluCc-00-05,2VluCc-00-06,2VluCc-01-00,2VluCc-01-01,2VluCc-01-02,2VluCc-01-03",
      "2VluCc-01-04,2VluCc-01-05,2VluCc-01-06,2VluCc-02-00,2VluCc-02-01,2VluCc-02-02",
      "2VluCc-02-03,2VluCc-02-04,2VluCc-02-05,2VluCc-02-06,2VluCc-03-00,2VluCc-03-01",
      "2VluCc-03-02,2VluCc-03-03,2VluCc-03-04,2VluCc-03-05,2VluCc-03-06,2VluCc-04-00",
      "2VluCc-04-01,2VluCc-04-02,2VluCc-04-03,2VluCc-04-04,2VluCc-04-05,2VluCc-04-06",
      "2VluCc-05-00,2VluCc-05-01,2VluCc-05-02,2VluCc-05-03,2VluCc-05-04,2VluCc-05-05",
      "2VluCc-05-06,2VluCc-06-00,2VluCc-06-01,2VluCc-06-02,2VluCc-06-03,2VluCc-06-04",
      "2VluCc-06-05,2VluCc-06-06"]),
    (0x1F0A0, [
      "0PLAYgG CetBACK,2ACE OFoPADES,2TWO OFoPADES,2svE OFoPADES,2FOUR OFoPADES,2FIVE OFoPADES",
      "2SIX OFoPADES,2SEVr OFoPADES,2Ef OFoPADES,2NgE OFoPADES,2Tr OFoPADES,2JACK OFoPADES",
      "2KNf OFoPADES,2QUEr OFoPADES,2KgG OFoPADES"]),
    (0x1F0B1, [
      "0PLAYgG CetACE OF HEeTS,2TWO OF HEeTS,2svE OF HEeTS,2FOUR OF HEeTS,2FIVE OF HEeTS",
      "2SIX OF HEeTS,2SEVr OF HEeTS,2Ef OF HEeTS,2NgE OF HEeTS,2Tr OF HEeTS,2JACK OF HEeTS",
      "2KNf OF HEeTS,2QUEr OF HEeTS,2KgG OF HEeTS,2vtJOKl"]),
    (0x1F0C1, [
      "0PLAYgG CetACE OF DIAMnDS,2TWO OF DIAMnDS,2svE OF DIAMnDS,2FOUR OF DIAMnDS",
      "2FIVE OF DIAMnDS,2SIX OF DIAMnDS,2SEVr OF DIAMnDS,2Ef OF DIAMnDS,2NgE OF DIAMnDS",
      "2Tr OF DIAMnDS,2JACK OF DIAMnDS,2KNf OF DIAMnDS,2QUEr OF DIAMnDS,2KgG OF DIAMnDS",
      "2BLACK JOKl"]),
    (0x1F0D1, [
      "0PLAYgG CetACE OF CLUBS,2TWO OF CLUBS,2svE OF CLUBS,2FOUR OF CLUBS,2FIVE OF CLUBS",
      "2SIX OF CLUBS,2SEVr OF CLUBS,2Ef OF CLUBS,2NgE OF CLUBS,2Tr OF CLUBS,2JACK OF CLUBS",
      "2KNf OF CLUBS,2QUEr OF CLUBS,2KgG OF CLUBS,2WHITE JOKl,2FOOL,2TRUMP-1,2TRUMP-2,2TRUMP-3",
      "2TRUMP-4,2TRUMP-5,2TRUMP-6,2TRUMP-7,2TRUMP-8,2TRUMP-9,2TRUMP-10,2TRUMP-11,2TRUMP-12",
      "2TRUMP-13,2TRUMP-14,2TRUMP-15,2TRUMP-16,2TRUMP-17,2TRUMP-18,2TRUMP-19,2TRUMP-20",
      "2TRUMP-21"]),
    (0x1F100, [
      "0DIGIT ZlO FULLoTOP,2COMMA,1nE COMMA,1TWO COMMA,1svE COMMA,1FOUR COMMA,1FIVE COMMA",
      "1SIX COMMA,1SEVr COMMA,1Ef COMMA,1NgE COMMA,0DgGBAT CIRCkDoiS-SlIF DIGIT ZlO",
      "1NEGAuVE CIRCkDoiS-SlIF DIGIT ZlO,0CIRCktZlObSLASH,1iuCLOCKWISEm,1yLLewbOVlLAItBACKSLASH",
      "0PersESIZEtLATg dA,4B,4C,4D,4E,4F,4G,4H,4I,4J,4K,4L,4M,4N,4O,4P,4Q,4R,4S,4T,4U,4V,4W,4X",
      "4Y,4Z,0TORTOISEoHELL BRACKETEtLATg dS,0CIRCktITcIC LATg dC,5R,1CD,1WZ,0COPYkFToYMBOL",
      "0SQUeEtLATg dA,4B,4C,4D,4E,4F,4G,4H,4I,4J,4K,4L,4M,4N,4O,4P,4Q,4R,4S,4T,4U,4V,4W,4X,4Y",
      "4Z,1HV,1MV,1SD,1SS,1PPV,1WC,0NEGAuVE CIRCktLATg dA,5B,5C,5D,5E,5F,5G,5H,5I,5J,5K,5L,5M",
      "5N,5O,5P,5Q,5R,5S,5T,5U,5V,5W,5X,5Y,5Z,0RAISEtMCw,1MDw,1MRw,0CIRCktCC",
      "1CbOVlLAItBACKSLASH,1HUMi FIGUv,0NEGAuVEoQUeEtLATg dA,5B,5C,5D,5E,5F,5G,5H,5I,5J,5K,5L",
      "5M,5N,5O,5P,5Q,5R,5S,5T,5U,5V,5W,5X,5Y,5Z,0CROSSEtNEGAuVEoQUeEtLATg dP,0NEGAuVEoQUeEtIC",
      "2PA,2SA,2AB,2WC,0SQUeE DJ,0SQUeEtCL,1COOL,1FvE,1ID,1NEW,1NG,1OK,1SOS,1UPbEXCLAMAun MeK",
      "1VS,1svE D,1SECnDoCvr,1TWO K,1FOUR K,1Ef K,1FIVE POgT nE,1SEVr POgT nE",
      "1TWrTY-TWO POgT TWO,1SIXTY P,1nE HUNDvtTWrTY P,1LATg jaD,1HC,1HDR,1HI-vS,1LOSSkSS,1SHV",
      "1UHD,1VOD,0MASK WORKoYMBOL"]),
    (0x1F1E6, [
      "0vGInc gDICATORoYMBOLaA,4B,4C,4D,4E,4F,4G,4H,4I,4J,4K,4L,4M,4N,4O,4P,4Q,4R,4S,4T,4U,4V",
      "4W,4X,4Y,4Z,0SQUeE HIRAGiA HOKA,0SQUeEtKATAKiA KOKO,2SA"]),
    (0x1F210, [
      "0SQUeEtCJK UNIFIEtIDEOGRAPH-624B,3IDEOGRAPH-5B57,3IDEOGRAPH-53CC,1KATAKiA DE",
      "1CJK UNIFIEtIDEOGRAPH-4E8C,3IDEOGRAPH-591A,3IDEOGRAPH-89E3,3IDEOGRAPH-5929",
      "3IDEOGRAPH-4EA4,3IDEOGRAPH-6620,3IDEOGRAPH-7121,3IDEOGRAPH-6599,3IDEOGRAPH-524D",
      "3IDEOGRAPH-5F8C,3IDEOGRAPH-518D,3IDEOGRAPH-65B0,3IDEOGRAPH-521D,3IDEOGRAPH-7D42",
      "3IDEOGRAPH-751F,3IDEOGRAPH-8CA9,3IDEOGRAPH-58F0,3IDEOGRAPH-5439,3IDEOGRAPH-6F14",
      "3IDEOGRAPH-6295,3IDEOGRAPH-6355,3IDEOGRAPH-4E00,3IDEOGRAPH-4E09,3IDEOGRAPH-904A",
      "3IDEOGRAPH-5DE6,3IDEOGRAPH-4E2D,3IDEOGRAPH-53F3,3IDEOGRAPH-6307,3IDEOGRAPH-8D70",
      "3IDEOGRAPH-6253,3IDEOGRAPH-7981,3IDEOGRAPH-7A7A,3IDEOGRAPH-5408,3IDEOGRAPH-6E80",
      "3IDEOGRAPH-6709,3IDEOGRAPH-6708,3IDEOGRAPH-7533,3IDEOGRAPH-5272,3IDEOGRAPH-55B6",
      "3IDEOGRAPH-914D"]),
    (0x1F240, [
      "0TORTOISEoHELL BRACKETEtCJK UNIFIEtIDEOGRAPH-672C,5IDEOGRAPH-4E09,5IDEOGRAPH-4E8C",
      "5IDEOGRAPH-5B89,5IDEOGRAPH-70B9,5IDEOGRAPH-6253,5IDEOGRAPH-76D7,5IDEOGRAPH-52DD",
      "5IDEOGRAPH-6557"]),
    (0x1F250, ["0CIRCktIDEOGRAPH ADViTAGE,2ACCEPT"]),
    (0x1F260, ["0ROUNDEDoYMBOL FOR FU,3LU,3SHOU,3XI,3SHUiGXI,3CAI"]),
    (0x1F300, [
      "0CYCLnE,0FOGGY,0CLOSEtUMBvLLA,0NfbSTeS,0SUNRISE OVl MOUNTAgS,0SUNRISE,0CITYSCAPE AT DUSK",
      "0SUNSET OVl BUILDgGS,0RAgBOW,0BRIDGE AT Nf,0WATl WAVE,0VOLCiO,0MILKY WAY",
      "0Ees GLOBE EUROPE-AFRICA,2AMlICAS,2ASIA-AUSTRcIA,0GLOBEbMlIDIiS,0NEW MOnoYMBOL",
      "0WAXgG CvSCrT MOnoYMBOL,0FIRST QUeTl MOnoYMBOL,0WAXgG GIBBOUS MOnoYMBOL,0FULL MOnoYMBOL",
      "0WigG GIBBOUS MOnoYMBOL,0LAST QUeTl MOnoYMBOL,0WigG CvSCrT MOnoYMBOL,0CvSCrT MOn",
      "0NEW MOnbFACE,0FIRST QUeTl MOnbFACE,0LAST QUeTl MOnbFACE,0FULL MOnbFACE,0SUNbFACE",
      "0GLOWgGoTe,0SHOOTgGoTe,0slMOMETl,0BLACK DROPkT,0WHITEoUN,2WIs j CLOUD,2BEHgtCLOUD",
      "4WIs RAg,0CLOUDbRAg,2SNOW,2LfNgG,2TORNAy,0FOG,0WgtBLOWgG FACE,0HOT yG,0TACO,0BURRITO",
      "0CHESTNUT,0SEEDLgG,0EVlGvr TvE,0DECIDUOUS TvE,0PcM TvE,0CACTUS,0HOT PEPPl,0TULIP",
      "0CHlRY BLOSSOM,0ROSE,0HIBISCUS,0SUNFLOWl,0BLOSSOM,0Ee OF MAIZE,2RICE,0HlB",
      "0FOUR kAF CLOVl,0MAPk kAF,0FckN kAF,0kAF FLUTTlgG g WgD,0MUSHROOM,0TOMATO,0AUBlGgE",
      "0GRAPES,0MELn,0WATlMELn,0TiGlgE,0kMn,0BiiA,0PgEAPPk,0vtAPPk,0Gvr APPk,0PEe,0PEACH",
      "0CHlRIES,0STRAWBlRY,0zMBURGl,0SLICE OF PIZZA,0MEAT n BnE,0POULTRY kG,0RICE CRACKl,1BcL",
      "0COOKEtRICE,0CURRY itRICE,0STEAMgG BOWL,0SPAGHETu,0BvAD,0FRrCH FRIES",
      "0ROASTEDoWEET POTATO,0DiGO,0ODr,0SUSHI,0FRIEDoHRIMP,0FISH CAKEbSWIRL DESIGN",
      "0SOFT ICE CvAM,0SzVEtICE,0ICE CvAM,0yUGHNUT,0COOKIE,0CHOCOLATE Be,0CiDY,0LOLLIPOP",
      "0CUSTeD,0HnEY POT,0SHORTCAKE,0BrTO BOX,0POT OF FOOD,0COOKgG,0FORK itKNIFE",
      "0TEACUP WIsOUT HiDk,0SAKE BOTTk itCUP,0WgE GLASS,0COCKTAIL GLASS,0TROPICc DRgK,0BEl MUG",
      "0CLgKgG BEl MUGS,0BABY BOTTk,0FORK itKNIFEbPLATE,0BOTTkbPOPPgG CORK,0POPCORN,0RIBBn",
      "0WRAPPEtPvSrT,0BIRsDAY CAKE,0JACK-O-LiTlN,0CHRISTMAS TvE,0FAsl CHRISTMAS,0FIvWORKS",
      "0FIvWORKoPeKkR,0BcLOn,0PeTY POPPl,0CnFETu BcL,0TiABATA TvE,0CROSSEtFLAGS,0PgE DECORAun",
      "0JAPiESE yLLS,0CePoTvAMl,0WgtCHIME,0MOn VIEWgG ClEMnY,0SCHOOLoATCHEL,0GRADUAun CAP",
      "0HEeTbuP n sE kFT,0BOUQUET OF FLOWlS,0MILITeY MEDc,0vMgDl RIBBn,0MUSICc KEYBOeDbJACKS",
      "0STUDIO MICROPHnE,0kVELoLIDl,0CnTROL KNOBS,0BEAMEtASCrDgG MUSICc NOTES",
      "1DESCrDgG MUSICc NOTES,0FILM FRAMES,0ADMISSIn uCKETS,0CeOUSEL HORSE,0FlRIS WHEEL",
      "0ROLkR COASTl,0FISHgG POk itFISH,0MICROPHnE,0MOVIE CAMlA,0CgEMA,0HEADPHnE,0euST PcETTE",
      "0TOP zT,0CIRCUS TrT,0uCKET,0CLAPPl BOeD,0PlFORMgG eTS,0VIDEO GAME,0DIvCT HIT",
      "0SLOT MACHgE,0BILLIeDS,0GAME DIE,0BOWLgG,0FLOWl PLAYgG CeDS,0MUSICc NOTE",
      "0MULuPk MUSICc NOTES,0SAXOPHnE,0GUITe,0MUSICc KEYBOeD,0TRUMPET,0VIOLg,0MUSICcoCOv",
      "0RUNNgGoHIRTbSASH,0TrNIS RACQUET itBcL,0SKI iDoKI BOOT,0BASKETBcL itHOOP,0CHEQUlEtFLAG",
      "0SNOWBOeDl,0RUNNl,0SURFl,0SPORTS MEDc,0TROPHY,0HORSE RACgG,0AMlICi FOOTBcL",
      "0RUGBY FOOTBcL,0SWIMMl,0WEf LIFTl,0GOLFl,0RACgG MOTORCYCk,1Ce,0CRICKET BAT itBcL",
      "0VOLkYBcL,0FIELtHOCKEYouCK itBcL,0ICE HOCKEYouCK itPUCK,0TABk TrNIS PADDk itBcL",
      "0SNOW CAPPEtMOUNTAg,0CAMPgG,0BEACHbUMBvLLA,0BUILDgG CnSTRUCun,0HOUSE BUILDgGS,0CITYSCAPE",
      "0DlELICT HOUSE BUILDgG,0CLASSICc BUILDgG,0DESlT,1ISLiD,0NAunc PeK,0STADIUM",
      "0HOUSE BUILDgG,1WIs GeDr,0OFFICE BUILDgG,0JAPiESE POST OFFICE,0EUROPEi POST OFFICE",
      "0HOSPITc,0BiK,0AUTOMATEtTELkR MACHgE,0HOTEL,0LOVE HOTEL,0CnVrIrCEoTOv,0SCHOOL",
      "0DEPeTMrToTOv,0FACTORY,0IZAKAYA LiTlN,0JAPiESE CASTk,0EUROPEi CASTk,0WHITE PrNiT",
      "0BLACK PrNiT,0WAVgG WHITE FLAG,1BLACK FLAG,0ROSETTE,0BLACK ROSETTE,0LABEL",
      "0BADMgTn RACQUET iDoHUTTkCOCK,0BOW iDm,0AMPHORA,0EMOJI MODIFIl FITZPATRICK TYPE-1-2",
      "3TYPE-3,3TYPE-4,3TYPE-5,3TYPE-6,0RAT,0MOUSE,0OX,0WATl BUFFcO,0COW,0uGl,0kOPeD,0RABBIT",
      "0CAT,0DRAGn,0CROCODIk,0WHcE,0SNAIL,0SNAKE,0HORSE,0RAM,0GOAT,0SHEEP,0MnKEY,0ROOSTl",
      "0CHICKr,0yG,0PIG,0BOe,0EkPHiT,0OCTOPUS,0SPIRcoHELL,0BUG,0iT,0HnEYBEE,0LADY BEETk,0FISH",
      "0TROPICc FISH,0BLOWFISH,0TURTk,0zTCHgG CHICK,0BABY CHICK,0FRnT-FACgG BABY CHICK,0BIRD",
      "0PrGUg,0KOcA,0POODk,0DROMEDeY CAMEL,0BACTRIi CAMEL,0yLPHg,0MOUSE FACE,0COW FACE",
      "0uGl FACE,0RABBIT FACE,0CAT FACE,0DRAGn FACE,0SPOUTgG WHcE,0HORSE FACE,0MnKEY FACE",
      "0yG FACE,0PIG FACE,0FROG FACE,0zMSTl FACE,0WOLF FACE,0BEe FACE,0PiDA FACE,0PIG NOSE",
      "0PAW PRgTS,0CHIPMUNK,0EYES,0EYE,0Ee,0NOSE,0MOUs,0TnGUE,0WHITE UP POgTgG BACKHitgDEX",
      "1yWN POgTgG BACKHitgDEX,1kFT POgTgG BACKHitgDEX,1Rf POgTgG BACKHitgDEX,0FISTEtHiDw",
      "0WAVgG HiDw,0OK HiDw,0sUMBS UPw,1yWNw,0CLAPPgG HiDSw,0OPr HiDSw,0CROWN,0WOMiS zT",
      "0EYEGLASSES,0NECKuE,0T-SHIRT,0JEiS,0DvSS,0KIMnO,0BIKgI,0WOMiS CLOsES,0PURSE,0HiDBAG",
      "0POUCH,0MiSoHOE,0AskuCoHOE,0HIGH-HEEkDoHOE,0WOMiSoiDc,1BOOTS,0FOOTPRgTS",
      "0BUST goILHOUETTE,0BUSTS goILHOUETTE,0BOY,0GIRL,0Mi,0WOMi,0FAMILY,0Mi itWOMi HOLDgG HiDS",
      "0TWO Mr HOLDgG HiDS,1WOMr HOLDgG HiDS,0POLICE OFFICl,0WOMibBUNNY EeS,0BRIDEbVEIL",
      "0PlSnbBLntzIR,0MibGUA PI MAO,2TURBi,0OLDl Mi,1WOMi,0BABY,0CnSTRUCun WORKl,0PRgCESS",
      "0JAPiESE OGv,1GOBLg,0GHOST,0BABY iGEL,0EXTRATlvSTRIc cIr,0cIr MnSTl,0IMP,0SKULL",
      "0gFORMAun DESK PlSn,0GUeDSMi,0DiCl,0LIPSuCK,0NAIL POLISH,0FACE MASSAGE,0zIRCUT,0BeBl POk",
      "0SYRgGE,0PILL,0KISS MeK,0LOVE kTTl,0RgG,0GEMoTnE,0KISS,0BOUQUET,0COUPkbHEeT,0WEDDgG",
      "0BEATgG HEeT,0BROKr HEeT,0TWO HEeTS,0SPeKLgG HEeT,0GROWgG HEeT,0HEeTbeROW,0BLUE HEeT",
      "0Gvr HEeT,0YELLOW HEeT,0PURPk HEeT,0HEeTbRIBBn,0vVOLVgG HEeTS,0HEeT DECORAun",
      "0DIAMnDozPEbA yT gSIDE,0EkCTRIC Lf BULB,0iGloYMBOL,0BOMB,0SkEPgGoYMBOL,0COLLISInoYMBOL",
      "0SPLASHgGoWEAToYMBOL,0DROPkT,0DASHoYMBOL,0PIk OF POO,0FkXEtBICEPS,0DIZZYoYMBOL",
      "0SPEECH BcLOn,0sOUGHT BcLOn,0WHITE FLOWl,0HUNDvtPOgTSoYMBOL,0MnEY BAG,0CURRrCY EXCHiGE",
      "0HEAVY yLLew,0CvDIT CeD,0BiKNOTEbYrw,2yLLew,2EUROw,2POUNDw,0MnEYbWgGS",
      "0CHeTbUPx TRrtitYrw,0SEAT,0PlSnc COMPUTl,0BRIEFCASE,0MgIDISC,0FLOPPY DISK,0OPuCc DISC",
      "0DVD,0FIk FOLDl,0OPr FIk FOLDl,0PAGEbCURL,1FACgG UP,0CcrDe,0TEe-OFF CcrDe,0CetgDEX",
      "0CHeTbUPx TRrD,2yWNx TRrD,0Be CHeT,0CLIPBOeD,0PUSHPg,0ROUNtPUSHPg,0PAPlCLIP,0STRAf RUkR",
      "0TRIiGULe RUkR,0BOOKMeK TABS,0kDGl,0NOTEBOOK,1WIs DECORAuVE COVl,0CLOSEtBOOK,0OPr BOOK",
      "0Gvr BOOK,0BLUE BOOK,0ORiGE BOOK,0BOOKS,0NAME BADGE,0SCROLL,0MEMO,0TEkPHnE vCEIVl,0PAGl",
      "0FAX MACHgE,0SATELLITE iTrNA,0PUBLIC ADDvSS LOUDSPEAKl,0CHElgG MEGAPHnE,0OUTBOX TRAY",
      "0gBOX TRAY,0PACKAGE,0E-MAILoYMBOL,0gCOMgG rVELOPE,0rVELOPEbyWNxmq",
      "0CLOSEtMAILBOXbLOWlEtFLAG,3RAISEtFLAG,0OPr MAILBOXbRAISEtFLAG,3LOWlEtFLAG,0POSTBOX",
      "0POSTc HORN,0NEWSPAPl,0MOBIk PHnE,2WIs Rfxm AT kFT,0VIBRAun MODE,0MOBIk PHnE OFF",
      "0NO MOBIk PHnES,0iTrNAbBeS,0CAMlA,1WIs FLASH,0VIDEO CAMlA,0TEkVISIn,0RADIO",
      "0VIDEOCASSETTE,0FILM PROJECTOR,0PORTABkoTlEO,0PRAYl BEADS,0TWISTEtRfxmS",
      "0CLOCKWISE Rfx itkFTx OPr CIRCkmS,7WIs CIRCktnE OVlLAY,1yWNx itUPx OPr CIRCkmS",
      "0iuCLOCKWISE yWNx itUPx OPr CIRCkmS,0LOW BRfNESSoYMBOL,0HIGH BRfNESSoYMBOL",
      "0SPEAKlbCiCELLAunoTROKE,0SPEAKl,1WIs nEoOUNtWAVE,2svEoOUNtWAVES,0BATTlY,0EkCTRIC PLUG",
      "0kFT-POgTgG MAGNIFYgG GLASS,0Rf-POgTgG MAGNIFYgG GLASS,0LOCKbgK Pr,0CLOSEtLOCKbKEY,0KEY",
      "0LOCK,0OPr LOCK,0BELL,1WIs CiCELLAunoTROKE,0BOOKMeK,0LgKoYMBOL,0RADIO BUTTn,0BACKbkFTxmq",
      "0rDbkFTxmq,0nbEXCLAMAun MeKbkFT Rfmq,0SOnbRfxmq,0TOPbUPxmq,0NO nE UNDl EfEroYMBOL",
      "0KEYCAP Tr,0gPUToYMBOL FOR LATg CAPITc kTTlS,4j kTTlS,3NUMBlS,3SYMBOLS,3LATg kTTlS,0FIv",
      "0EkCTRIC TORCH,0WRrCH,0zMMl,0NUT itBOLT,0HOCHO,0PISTOL,0MICROSCOPE,0TEkSCOPE,0CRYSTc BcL",
      "0SIX POgTEDoTebMIDDk yT,0JAPiESEoYMBOL FOR BEGgNl,0TRIDrT EMBkM,0BLACKoQUeE BUTTn",
      "0WHITEoQUeE BUTTn,0LeGE vtCIRCk,1BLUE CIRCk,1ORiGE DIAMnD,1BLUE DIAMnD,0j ORiGE DIAMnD",
      "1BLUE DIAMnD,0UP-POgTgG vtTRIiGk,0yWN-POgTgG vtTRIiGk,0UP-POgTgG j vtTRIiGk",
      "0yWN-POgTgG j vtTRIiGk,0LOWl RfozyWEtWHITE CIRCk,0UPPl RfozyWEtWHITE CIRCk",
      "0CIRCktCROSS POMMEE,0CROSS POMMEEbHcF-CIRCk BELOW,1POMMEE,0NOTCHEtkFToEMICIRCkbsvE yTS",
      "1RfoEMICIRCkbsvE yTS,0SYMBOL FOR MeKS CzPTl,0WHITE LATg CROSS,0HEAVY LATg CROSS",
      "0CELuC CROSS,0OMoYMBOL,0yVE OF PEACE,0KAABA,0MOSQUE,0SYNAGOGUE,0MrORAHbNgE BRiCHES",
      "0BOWL OF HYGIEIA,0CLOCK FACE nE OCLOCK,2TWO OCLOCK,2svE OCLOCK,2FOUR OCLOCK,2FIVE OCLOCK",
      "2SIX OCLOCK,2SEVr OCLOCK,2Ef OCLOCK,2NgE OCLOCK,2Tr OCLOCK,2EkVr OCLOCK,2TWELVE OCLOCK",
      "2nE-sIRTY,2TWO-sIRTY,2svE-sIRTY,2FOUR-sIRTY,2FIVE-sIRTY,2SIX-sIRTY,2SEVr-sIRTY,2Ef-sIRTY",
      "2NgE-sIRTY,2Tr-sIRTY,2EkVr-sIRTY,2TWELVE-sIRTY,0RfoPEAKl,2WIs nEoOUNtWAVE,3svEoOUNtWAVES",
      "0BULLHORN,1WIsoOUNtWAVES,0RgGgG BELL,0BOOK,0CiDk,0MiTELPIECE CLOCK",
      "0BLACKoKULL itCROSSBnES,0NO PIRACY,0HOk,0Mi g BUSgESSoUIT kVITATgG,0SkUs ORoPY",
      "0DeKoUNGLASSES,0SPIDl,1WEB,0JOYSuCK,0Mi DiCgG,0kFT HitTEkPHnE vCEIVl",
      "0TEkPHnE vCEIVlbPAGE,0Rf HitTEkPHnE vCEIVl,0WHITE TOUCHTnE TEkPHnE",
      "0BLACK TOUCHTnE TEkPHnE,0TEkPHnE n TOP OF MODEM,0CLAMSHELL MOBIk PHnE,0BACK OF rVELOPE",
      "0STAMPEtrVELOPE,0rVELOPEbLfNgG,0FLYgG rVELOPE,0Pr OVloTAMPEtrVELOPE,0LgKEtPAPlCLIPS",
      "0BLACK PUSHPg,0LOWl kFT PrCIL,2BcLPOgT Pr,2FOUNTAg Pr,2PAgTBRUSH,2CRAYn,0kFT WRITgG HiD",
      "0TURNEtOK HiDw,0RAISEtHiDbFgGlSoPLAYED,0vVlSEtRAISEtHiDbFgGlSoPLAYED,1sUMBS UPw,2yWNw",
      "1VICTORY HiD,1HiDbMIDDk FgGl EXTrDED,0RAISEtHiDbPeT BETWEr MIDDk itRgG FgGlS",
      "0WHITE yWN POgTgG kFT HitgDEX,0SIDEWAYS WHITE kFT POgTgG gDEX,2Rf POgTgG gDEX",
      "1BLACK kFT POgTgG gDEX,2Rf POgTgG gDEX,0BLACK kFT POgTgG BACKHitgDEX",
      "1Rf POgTgG BACKHitgDEX,0SIDEWAYS WHITE UP POgTgG gDEX,2yWN POgTgG gDEX",
      "1BLACK UP POgTgG gDEX,2yWN POgTgG gDEX,0BLACK UP POgTgG BACKHitgDEX",
      "1yWN POgTgG BACKHitgDEX,1HEeT,0DESKTOP COMPUTl,0KEYBOetitMOUSE,0svE NETWORKEtCOMPUTlS",
      "0PRgTl,0POCKET CcCULATOR,0BLACK HeDoHELL FLOPPY DISK,0WHITE HeDoHELL FLOPPY DISK",
      "0SOFToHELL FLOPPY DISK,0TAPE CeTRIDGE,0WIvtKEYBOeD,0nE BUTTn MOUSE,0TWO BUTTn MOUSE",
      "0svE BUTTn MOUSE,0TRACKBcL,0OLtPlSnc COMPUTl,0HetDISK,0SCvr,0PRgTl ICn,0FAX ICn",
      "0OPuCc DISC ICn,0yCUMrTbTEXT,3itPICTUv,2PICTUv,0FRAMEbPICTUv,2ukS,2i X,0BLACK FOLDl",
      "0FOLDl,0OPr FOLDl,0CetgDEX DIVIDlS,1FIk BOX,0FIk CABgET,0EMPTY NOTE,2PAGE,2PAD,0NOTE",
      "1PAGE,1PAD,0EMPTY yCUMrT,1PAGE,1PAGES,0yCUMrT,0PAGE,0PAGES,0WASTEBASKET,0SPIRc NOTE PAD",
      "1CcrDe PAD,0DESKTOP WgyW,0MgIMIZE,0MAXIMIZE,0OVlLAP,0CLOCKWISE Rf itkFToEMICIRCkmS",
      "0CiCELLAun X,0gCvASE FnToIZEoYMBOL,0DECvASE FnToIZEoYMBOL,0COMPvSSIn,0OLtKEY",
      "0ROLkD-UP NEWSPAPl,0PAGEbCIRCktTEXT,0STOCK CHeT,0DAGGl KNIFE,0LIPS",
      "0SPEAKgG HEAtgoILHOUETTE,0svE RAYSq,2BELOW,2kFT,2Rf,0kFToPEECH BUBBk,0RfoPEECH BUBBk",
      "0TWOoPEECH BUBBkS,0svEoPEECH BUBBkS,0kFT sOUGHT BUBBk,0Rf sOUGHT BUBBk,0kFT iGl BUBBk",
      "0Rf iGl BUBBk,0MOOtBUBBk,0LfNgG MOOtBUBBk,1MOOD,0BcLOT BOXbBcLOT,1SCRIPT X,1BOXbSCRIPT X",
      "1BOLDoCRIPT X,1BOXbBOLDoCRIPT X,0Lf CHECK MeK,0BcLOT BOXbBOLtCHECK,0WORLtMAP,0MOUNT FUJI",
      "0TOKYO TOWl,0STATUE OF LIBlTY,0SILHOUETTE OF JAPi,0MOYAI,0GRgNgG FACE,2WIsoMILgG EYES",
      "0FACEbTEeS OF JOY,0SMILgG FACEbOPr MOUs,5iDoMILgG EYES,6COLDoWEAT,6TfLY-CLOSEtEYES,3HcO",
      "3HORNS,0WgKgG FACE,0SMILgG FACEbSMILgG EYES,0FACEoAVOURgG DELICIOUS FOOD,0vLIEVEtFACE",
      "0SMILgG FACEbHEeT-SzPEtEYES,3SUNGLASSES,0SMIRKgG FACE,0NEUTRc FACE,0EXPvSSInkSS FACE",
      "0UNAMUSEtFACE,0FACEbCOLDoWEAT,0PrSIVE FACE,0CnFUSEtFACE,0CnFOUNDEtFACE,0KISSgG FACE",
      "0FACE sROWgG A KISS,0KISSgG FACEbSMILgG EYES,3CLOSEtEYES,0FACEbSTUCK-OUT TnGUE",
      "4itWgKgG EYE,5TfLY-CLOSEtEYES,0DISAPPOgTEtFACE,0WORRIEtFACE,0iGRY FACE,0POUTgG FACE",
      "0CRYgG FACE,0PlSEVlgG FACE,0FACEbLOOK OF TRIUMPH,0DISAPPOgTEtBUT vLIEVEtFACE",
      "0FROWNgG FACEbOPr MOUs,0iGUISHEtFACE,0FEeFUL FACE,0WEeY FACE,0SkEPY FACE,0uvtFACE",
      "0GRIMACgG FACE,0LOUDLY CRYgG FACE,0FACEbOPr MOUs,0HUSHEtFACE,0FACEbOPr MOUs itCOLDoWEAT",
      "1SCvAMgG g FEe,0ASTnISHEtFACE,0FLUSHEtFACE,0SkEPgG FACE,0DIZZY FACE,0FACE WIsOUT MOUs",
      "1WIs MEDICc MASK,0GRgNgG CAT FACEbSMILgG EYES,0CAT FACEbTEeS OF JOY",
      "0SMILgG CAT FACEbOPr MOUs,4HEeT-SzPEtEYES,0CAT FACEbWRYoMIk,0KISSgG CAT FACEbCLOSEtEYES",
      "0POUTgG CAT FACE,0CRYgG CAT FACE,0WEeY CAT FACE,0SLfLY FROWNgG FACE,1SMILgG FACE",
      "0UPSIDE-yWN FACE,0FACEbROLLgG EYES,2NO GOOtGESTUv,2OK GESTUv,0PlSn BOWgG DEEPLY",
      "0SEE-NO-EVIL MnKEY,0HEe-NO-EVIL MnKEY,0SPEAK-NO-EVIL MnKEY,0zPPY PlSn RAISgG nE HiD",
      "0PlSn RAISgG BOs HiDS g CEkBRAun,1FROWNgG,1WIs POUTgG FACE,2FOLDEtHiDS",
      "0NORs WEST POgTgG kAF,0SOUs WEST POgTgG kAF,0NORs EAST POgTgG kAF,0SOUs EAST POgTgG kAF",
      "0TURNEtNORs WEST POgTgG kAF,1SOUs WEST POgTgG kAF,1NORs EAST POgTgG kAF",
      "1SOUs EAST POgTgG kAF,0NORs WEST POgTgG VgE kAF,0SOUs WEST POgTgG VgE kAF",
      "0NORs EAST POgTgG VgE kAF,0SOUs EAST POgTgG VgE kAF,0HEAVY NORs WEST POgTgG VgE kAF",
      "1SOUs WEST POgTgG VgE kAF,1NORs EAST POgTgG VgE kAF,1SOUs EAST POgTgG VgE kAF",
      "0NORs WEST POgTgG BUD,0SOUs WEST POgTgG BUD,0NORs EAST POgTgG BUD,0SOUs EAST POgTgG BUD",
      "0HEAVY NORs WEST POgTgG BUD,1SOUs WEST POgTgG BUD,1NORs EAST POgTgG BUD",
      "1SOUs EAST POgTgG BUD,0HOLLOW QUILToQUeE ORNAMrT,4g BLACKoQUeE,0SOLItQUILToQUeE ORNAMrT",
      "4g BLACKoQUeE,0kFTx ROCKET,0UPx ROCKET,0Rfx ROCKET,0yWNx ROCKET",
      "0SCRIPT LIGATUv ET ORNAMrT,0HEAVYoCRIPT LIGATUv ET ORNAMrT,0LIGATUv OPr ET ORNAMrT",
      "0HEAVY LIGATUv OPr ET ORNAMrT,1AMPlSitORNAMrT,0SWASH AMPlSitORNAMrT",
      "0SiS-SlIF HEAVY yUBk TURNEtCOMMA QUOTAun MeK ORNAMrT,3COMMA QUOTAun MeK ORNAMrT",
      "2LOW yUBk COMMA QUOTAun MeK ORNAMrT,0HEAVY gTlROBiG ORNAMrT,0SiS-SlIF gTlROBiG ORNAMrT",
      "0HEAVYoiS-SlIF gTlROBiG ORNAMrT,0VlY HEAVYoOLIDUS,2vVlSEoOLIDUS,0CHECKl BOeD",
      "0vVlSE CHECKl BOeD,0ROCKET,0HELICOPTl,0STEAM LOCOMOuVE,0RAILWAY Ce,0HIGH-SPEEtTRAg",
      "2WIs BULkT NOSE,0TRAg,0METRO,0Lf RAIL,0STAun,0TRAM,1Ce,0BUS,0nCOMgG BUS,0TROLkYBUS",
      "0BUSoTOP,0MgIBUS,0AMBULiCE,0FIv rGgE,0POLICE Ce,0nCOMgG POLICE Ce,0TAXI,0nCOMgG TAXI",
      "0AUTOMOBIk,0nCOMgG AUTOMOBIk,0vCvAunc VEHICk,0DELIVlY TRUCK,0euCULATEtLORRY,0TRACTOR",
      "0MnORAIL,0MOUNTAg RAILWAY,0SUSPrSIn RAILWAY,0MOUNTAg CABkWAY,0AlIc TRAMWAY,0SHIP",
      "0ROWBOAT,0SPEEDBOAT,0HORIZnTc TRAFFIC Lf,0VluCc TRAFFIC Lf,0CnSTRUCunw",
      "0POLICE CeS vVOLVgG Lf,0TRIiGULe FLAG n POST,0yOR,0NO rTRYw,0SMOKgGoYMBOL",
      "0NOoMOKgGoYMBOL,0PUT LITTl g ITS PLACEoYMBOL,0y NOT LITTloYMBOL,0POTABk WATloYMBOL",
      "0Nn-POTABk WATloYMBOL,0BICYCk,0NO BICYCkS,0BICYCLIST,0MOUNTAg BICYCLIST,0PEDESTRIi",
      "0NO PEDESTRIiS,0CHILDRr CROSSgG,0MrSoYMBOL,0WOMrSoYMBOL,0vSTROOM,0BABYoYMBOL,0TOIkT",
      "0WATl CLOSET,0SHOWl,0BAs,0BAsTUB,0PASSPORT CnTROL,0CUSTOMS,0BAGGAGE CLAIM,0kFT LUGGAGE",
      "0TRIiGkbROUNDEtCORNlS,0PROHIBITEDw,0CIRCktgFORMAunoOURCE,0BOYSoYMBOL,0GIRLSoYMBOL",
      "0COUCH itLAMP,0SkEPgG ACCOMMODAun,0SHOPPgG BAGS,0BELLHOP BELL,0BED,0PLACE OF WORSHIP",
      "0OCTAGncw,0SHOPPgG TROLkY,0STUPA,0PAGODA,0HgDU TEMPk,0HUT,0EkVATOR"]),
    (0x1F6DD, [
      "0PLAYGROUNDoLIDE,0WHEEL,0RgG BUOY,0zMMl itWRrCH,0SHIELD,0OIL DRUM,0MOTORWAY",
      "0RAILWAY TRACK,0MOTOR BOAT,0UP-POgTgG MILITeY AIRPLiE,1AIRPLiE,1j AIRPLiE,0j AIRPLiE",
      "0NORsEAST-POgTgG AIRPLiE,0AIRPLiE DEPeTUv,1eRIVgG"]),
    (0x1F6F0, [
      "0SATELLITE,0nCOMgG FIv rGgE,0DIESEL LOCOMOuVE,0PASSrGloHIP,0SCOOTl,0MOTORoCOOTl,0CiOE",
      "0SkD,0FLYgGoAUCl,0SKATEBOeD,0AUTO RICKSzW,0PICKUP TRUCK,0ROLkRoKATE"]),
    (0x1F700, [
      "0cCHEMICcoYMBOL FOR QUgTESSrCE,3AIR,3FIv,3Ees,3WATl,3AQUAFORuS,3AQUA vGIA,4vGIA-2,4VITAE",
      "4VITAE-2,3VgEGe,3VgEGe-2,3VgEGe-3,3SULFUR,3PHILOSOPHlSoULFUR,3BLACKoULFUR",
      "3MlCURYoUBLIMATE,4SUBLIMATE-2,4SUBLIMATE-3,3CgNABe,3ScT,3NITv,3VITRIOL,3VITRIOL-2",
      "3ROCKocT,4ScT-2,3GOLD,3SILVl,3IRn Ov,4Ov-2,3CROCUS OF IRn,3vGULUS OF IRn,3COPPl Ov",
      "3IRn-COPPl Ov,3SUBLIMATE OF COPPl,3CROCUS OF COPPl,5COPPl-2,3COPPl iuMnIATE",
      "3ScT OF COPPl iuMnIATE,3SUBLIMATE OFocT OF COPPl,3VlDIGRIS,3Tg Ov,3kAtOv,3iuMnY Ov",
      "3SUBLIMATE OF iuMnY,3ScT OF iuMnY,3SUBLIMATE OFocT OF iuMnY,3VgEGe OF iuMnY",
      "3vGULUS OF iuMnY,5iuMnY-2,3vGULUS,3vGULUS-2,3vGULUS-3,3vGULUS-4,3cKcI,3cKcI-2,3MeCASITE",
      "3Sc-AMMnIAC,3eSrIC,3vcGe,3vcGe-2,3AURIPIGMrT,3BISMUs Ov,3TeTe,3TeTe-2,3QUICK LIME,3BORAX",
      "3BORAX-2,3BORAX-3,3cUM,3OIL,3SPIRIT,3TgCTUv,3GUM,3WAX,3POWDl,3CcX,3TUTTY,3CAPUT MORTUUM",
      "3SCEPTl OF JOVE,3CADUCEUS,3TRIDrT,3STevtTRIDrT,3LODESTnE,3SOAP,3URgE,3HORSE DUNG,3ASHES",
      "3POT ASHES,3BRICK,3POWDlEtBRICK,3AMcGAM,3STRATUMoUPloTRATUM,5STRATUM-2,3SUBLIMAun",
      "3PvCIPITATE,3DISuLL,3DISSOLVE,3DISSOLVE-2,3PURIFY,3PUTvFACun,3CRUCIBk,3CRUCIBk-2",
      "3CRUCIBk-3,3CRUCIBk-4,3CRUCIBk-5,3cEMBIC,3BAs OF MeY,5VAPOURS,3vTORT,3HOUR,3Nf,3DAY-Nf",
      "3Mns,3HcF DRAM,4OUNCE"]),
    (0x1F780, [
      "0BLACK kFT-POgTgG ISOSCEkS Rf TRIiGk,1UP-POgTgG ISOSCEkS Rf TRIiGk",
      "1Rf-POgTgG ISOSCEkS Rf TRIiGk,1yWN-POgTgG ISOSCEkS Rf TRIiGk,1SLfLY j CIRCk",
      "0MEDIUM BOLtWHITE CIRCk,0BOLtWHITE CIRCk,0HEAVY WHITE CIRCk,0VlY HEAVY WHITE CIRCk",
      "0EXTvMELY HEAVY WHITE CIRCk,0WHITE CIRCk CnTAggG BLACK j CIRCk,0ROUNtTeGET",
      "0BLACK TgYoQUeE,1SLfLY joQUeE,0Lf WHITEoQUeE,0MEDIUM WHITEoQUeE,0BOLtWHITEoQUeE",
      "0HEAVY WHITEoQUeE,0VlY HEAVY WHITEoQUeE,0EXTvMELY HEAVY WHITEoQUeE",
      "0WHITEoQUeE CnTAggG BLACK VlY joQUeE,4MEDIUMoQUeE,0SQUeE TeGET,0BLACK TgY DIAMnD",
      "1VlY j DIAMnD,1MEDIUM j DIAMnD,0WHITE DIAMntCnTAggG BLACK VlY j DIAMnD,4MEDIUM DIAMnD",
      "0DIAMntTeGET,0BLACK TgY LOZrGE,1VlY j LOZrGE,1MEDIUM j LOZrGE",
      "0WHITE LOZrGE CnTAggG BLACK j LOZrGE,0sg GvEK CROSS,0Lf GvEK CROSS,0MEDIUM GvEK CROSS",
      "0BOLtGvEK CROSS,0VlY BOLtGvEK CROSS,1HEAVY GvEK CROSS,0EXTvMELY HEAVY GvEK CROSS,0sgocuv",
      "0Lfocuv,0MEDIUMocuv,0BOLDocuv,0HEAVYocuv,0VlY HEAVYocuv,0EXTvMELY HEAVYocuv",
      "0Lf FIVEoPOKEtASTlISK,0MEDIUM FIVEoPOKEtASTlISK,0BOLtFIVEoPOKEtASTlISK",
      "0HEAVY FIVEoPOKEtASTlISK,0VlY HEAVY FIVEoPOKEtASTlISK,0EXTvMELY HEAVY FIVEoPOKEtASTlISK",
      "0LfoIXoPOKEtASTlISK,0MEDIUMoIXoPOKEtASTlISK,0BOLDoIXoPOKEtASTlISK,0HEAVYoIXoPOKEtASTlISK",
      "0VlY HEAVYoIXoPOKEtASTlISK,0EXTvMELY HEAVYoIXoPOKEtASTlISK,0Lf EfoPOKEtASTlISK",
      "0MEDIUM EfoPOKEtASTlISK,0BOLtEfoPOKEtASTlISK,0HEAVY EfoPOKEtASTlISK",
      "0VlY HEAVY EfoPOKEtASTlISK,0Lf svE POgTEtBLACKoTe,0MEDIUM svE POgTEtBLACKoTe",
      "0svE POgTEtBLACKoTe,0MEDIUM svE POgTEtPgWHEELoTe,0Lf FOUR POgTEtBLACKoTe",
      "0MEDIUM FOUR POgTEtBLACKoTe,0FOUR POgTEtBLACKoTe,0MEDIUM FOUR POgTEtPgWHEELoTe",
      "0vVlSE Lf FOUR POgTEtPgWHEELoTe,0Lf FIVE POgTEtBLACKoTe,0HEAVY FIVE POgTEtBLACKoTe",
      "0MEDIUMoIX POgTEtBLACKoTe,0HEAVYoIX POgTEtBLACKoTe,0SIX POgTEtPgWHEELoTe",
      "0MEDIUM Ef POgTEtBLACKoTe,0HEAVY Ef POgTEtBLACKoTe,0VlY HEAVY Ef POgTEtBLACKoTe",
      "0HEAVY Ef POgTEtPgWHEELoTe,0Lf TWELVE POgTEtBLACKoTe,0HEAVY TWELVE POgTEtBLACKoTe",
      "3PgWHEELoTe,0CIRCktTRIiGk,0NEGAuVE CIRCktTRIiGk,0CIRCkDoQUeE,0NEGAuVE CIRCkDoQUeE"]),
    (0x1F7E0, [
      "0LeGE ORiGE CIRCk,1YELLOW CIRCk,1Gvr CIRCk,1PURPk CIRCk,1BROWN CIRCk,1vDoQUeE,1BLUEoQUeE",
      "1ORiGEoQUeE,1YELLOWoQUeE,1GvroQUeE,1PURPkoQUeE,1BROWNoQUeE"]),
    (0x1F7F0, ["0HEAVY EQUcSw"]),
    (0x1F800, [
      "0kFTxmbj TRIiGkmHEAD,0UPxmbj TRIiGkmHEAD,0Rfxmbj TRIiGkmHEAD,0yWNxmbj TRIiGkmHEAD",
      "0kFTxmbMEDIUM TRIiGkmHEAD,0UPxmbMEDIUM TRIiGkmHEAD,0RfxmbMEDIUM TRIiGkmHEAD",
      "0yWNxmbMEDIUM TRIiGkmHEAD,0kFTxmbLeGE TRIiGkmHEAD,0UPxmbLeGE TRIiGkmHEAD",
      "0RfxmbLeGE TRIiGkmHEAD,0yWNxmbLeGE TRIiGkmHEAD"]),
    (0x1F810, [
      "0kFTxmbj EQUILATlcmHEAD,0UPxmbj EQUILATlcmHEAD,0Rfxmbj EQUILATlcmHEAD",
      "0yWNxmbj EQUILATlcmHEAD,0kFTxmbEQUILATlcmHEAD,0UPxmbEQUILATlcmHEAD,0RfxmbEQUILATlcmHEAD",
      "0yWNxmbEQUILATlcmHEAD,0HEAVY kFTxmbEQUILATlcmHEAD,1UPxmbEQUILATlcmHEAD",
      "1RfxmbEQUILATlcmHEAD,1yWNxmbEQUILATlcmHEAD,1kFTxmbLeGE EQUILATlcmHEAD",
      "1UPxmbLeGE EQUILATlcmHEAD,1RfxmbLeGE EQUILATlcmHEAD,1yWNxmbLeGE EQUILATlcmHEAD",
      "0kFTx TRIiGk-HEADEDmbNeROWozFT,0UPx TRIiGk-HEADEDmbNeROWozFT",
      "0Rfx TRIiGk-HEADEDmbNeROWozFT,0yWNx TRIiGk-HEADEDmbNeROWozFT",
      "0kFTx TRIiGk-HEADEDmbMEDIUMozFT,0UPx TRIiGk-HEADEDmbMEDIUMozFT",
      "0Rfx TRIiGk-HEADEDmbMEDIUMozFT,0yWNx TRIiGk-HEADEDmbMEDIUMozFT",
      "0kFTx TRIiGk-HEADEDmbBOLDozFT,0UPx TRIiGk-HEADEDmbBOLDozFT,0Rfx TRIiGk-HEADEDmbBOLDozFT",
      "0yWNx TRIiGk-HEADEDmbBOLDozFT,0kFTx TRIiGk-HEADEDmbHEAVYozFT",
      "0UPx TRIiGk-HEADEDmbHEAVYozFT,0Rfx TRIiGk-HEADEDmbHEAVYozFT",
      "0yWNx TRIiGk-HEADEDmbHEAVYozFT,0kFTx TRIiGk-HEADEDmbVlY HEAVYozFT",
      "0UPx TRIiGk-HEADEDmbVlY HEAVYozFT,0Rfx TRIiGk-HEADEDmbVlY HEAVYozFT",
      "0yWNx TRIiGk-HEADEDmbVlY HEAVYozFT,0kFTx FgGl-POSTm,0UPx FgGl-POSTm,0Rfx FgGl-POSTm",
      "0yWNx FgGl-POSTm,0kFTxoQUeEDm,0UPxoQUeEDm,0RfxoQUeEDm,0yWNxoQUeEDm,0kFTx COMPvSSEDm",
      "0UPx COMPvSSEDm,0Rfx COMPvSSEDm,0yWNx COMPvSSEDm,0kFTx HEAVY COMPvSSEDm",
      "0UPx HEAVY COMPvSSEDm,0Rfx HEAVY COMPvSSEDm,0yWNx HEAVY COMPvSSEDm,0kFTx HEAVYm",
      "0UPx HEAVYm,0Rfx HEAVYm,0yWNx HEAVYm"]),
    (0x1F850, [
      "0kFTxoiS-SlIFm,0UPxoiS-SlIFm,0RfxoiS-SlIFm,0yWNxoiS-SlIFm,0NORs WESToiS-SlIFm",
      "1EASToiS-SlIFm,0SOUs EASToiS-SlIFm,1WESToiS-SlIFm,0kFT RfoiS-SlIFm,0UP yWNoiS-SlIFm"]),
    (0x1F860, [
      "0WIDE-HEADEtkFTx Lf BeBm,1UPx Lf BeBm,1Rfx Lf BeBm,1yWNx Lf BeBm,1NORs WEST Lf BeBm",
      "2EAST Lf BeBm,1SOUs EAST Lf BeBm,2WEST Lf BeBm,1kFTx BeBm,1UPx BeBm,1Rfx BeBm,1yWNx BeBm",
      "1NORs WEST BeBm,2EAST BeBm,1SOUs EAST BeBm,2WEST BeBm,1kFTx MEDIUM BeBm,1UPx MEDIUM BeBm",
      "1Rfx MEDIUM BeBm,1yWNx MEDIUM BeBm,1NORs WEST MEDIUM BeBm,2EAST MEDIUM BeBm",
      "1SOUs EAST MEDIUM BeBm,2WEST MEDIUM BeBm,1kFTx HEAVY BeBm,1UPx HEAVY BeBm",
      "1Rfx HEAVY BeBm,1yWNx HEAVY BeBm,1NORs WEST HEAVY BeBm,2EAST HEAVY BeBm",
      "1SOUs EAST HEAVY BeBm,2WEST HEAVY BeBm,1kFTx VlY HEAVY BeBm,1UPx VlY HEAVY BeBm",
      "1Rfx VlY HEAVY BeBm,1yWNx VlY HEAVY BeBm,1NORs WEST VlY HEAVY BeBm,2EAST VlY HEAVY BeBm",
      "1SOUs EAST VlY HEAVY BeBm,2WEST VlY HEAVY BeBm"]),
    (0x1F890, [
      "0kFTx TRIiGkmHEAD,0UPx TRIiGkmHEAD,0Rfx TRIiGkmHEAD,0yWNx TRIiGkmHEAD",
      "0kFTx WHITEm WIsg TRIiGkmHEAD,0UPx WHITEm WIsg TRIiGkmHEAD,0Rfx WHITEm WIsg TRIiGkmHEAD",
      "0yWNx WHITEm WIsg TRIiGkmHEAD,0kFTxmbNOTCHEtTAIL,0UPxmbNOTCHEtTAIL,0RfxmbNOTCHEtTAIL",
      "0yWNxmbNOTCHEtTAIL,0HEAVYmozFT WIDs nE,4TWO sIRDS,4nE HcF,5sIRD,0kFTx BOTTOM-SzDEtWHITEm",
      "0Rfx BOTTOMozDEtWHITEm,0kFTx TOPozDEtWHITEm,0Rfx TOPozDEtWHITEm,0kFTx kFT-SzDEtWHITEm",
      "0Rfx Rf-SzDEtWHITEm,0kFTx Rf-SzDEtWHITEm,0Rfx kFT-SzDEtWHITEm",
      "0kFTx BACK-uLTEDozyWEtWHITEm,0Rfx BACK-uLTEDozyWEtWHITEm,0kFTx FRnT-uLTEDozyWEtWHITEm",
      "0Rfx FRnT-uLTEDozyWEtWHITEm,0WHITEmozFT WIDs nE,4TWO sIRDS"]),
    (0x1F8B0, ["0eROW POgTgG UPx sr NORs WEST,2Rfx sr CURVgGoOUs WEST"]),
    (0x1F900, [
      "0CIRCktCROSShEEbFOUR yTS,4TWO yTS,2FORMEE,0kFT HcF CIRCkbFOUR yTS,4svE yTS,4TWO yTS,4yT",
      "2CIRCk,0yWNWetFACgG HOOK,2NOTCHEtHOOK,2HOOKbyT,2NOTCHEtHOOKbyT,0PgCHEtFgGlS,0WHITE HEeT",
      "0BROWN HEeT,0PgCHgG HiD,0ZIPPl-MOUs FACE,0MnEY-MOUs FACE,0FACEbslMOMETl,0NltFACE",
      "0sgKgG FACE,0FACEbHEAD-BiDAGE,0ROBOT FACE,0HUGGgG FACE,0SIGN OF sE HORNS,0CcL ME HiD",
      "0RAISEtBACK OF HiD,0kFT-FACgG FIST,0Rf-FACgG FIST,0HiDSzKE",
      "0HiDbgDEX itMIDDk FgGlS CROSSED,0I LOVE YOU HiDw,0FACEbCOWBOY zT,0CLOWN FACE",
      "0NAUSEATEtFACE,0ROLLgG n sE FLOOR LAUGHgG,0DROOLgG FACE,0LYgG FACE,0FACE PcM",
      "0SNEEZgG FACE,0FACEbnE EYEBROW RAISED,0GRgNgG FACEbSTe EYES,3nE LeGE itnE j EYE",
      "0FACEbFgGl COVlgG CLOSEtLIPS,0SlIOUS FACEbSYMBOLS COVlgG MOUs",
      "0SMILgG FACEbSMILgG EYES itHitCOVlgG MOUs,0FACEbOPr MOUs VOMITgG",
      "0SHOCKEtFACEbEXPLODgG HEAD,0PvGNiT WOMi,0BvAST-FEEDgG,0PcMS UP TOGEsl,0SELFIE,0PRgCE",
      "0Mi g TUXEy,0MOsl CHRISTMAS,0SHRUG,0PlSn ygG CeTWHEEL,0JUGGLgG,0FrCl,0MODlN PrTAsLn",
      "0WvSTkRS,0WATl POLO,0HiDBcL,0DIVgG MASK,0WILTEtFLOWl,0DRUMbDRUMSuCKS,0CLgKgG GLASSES",
      "0TUMBkR GLASS,0SPOn,0GOc NET,0RIFk,0FIRST PLACE MEDc,0SECntPLACE MEDc,0sIRtPLACE MEDc",
      "0BOXgG GLOVE,0Meuc eTS UNIFORM,0CURLgGoTnE,0LACROSSEouCK itBcL,0SOFTBcL,0FLYgG DISC",
      "0CROISSiT,0AVOCAy,0CUCUMBl,0BACn,0POTATO,0CeROT,0BAGUETTE BvAD,0GvrocAD",
      "0SHcLOW Pi OF FOOD,0STUFFEtFLATBvAD,0EGG,0GLASS OF MILK,0PEiUTS,0KIWIFRUIT,0PiCAKES",
      "0DUMPLgG,0FORTUNE COOKIE,0TAKEOUT BOX,0CHOPSuCKS,0BOWLbSPOn,0CUPbSTRAW,0COCnUT,0BROCCOLI",
      "0PIE,0PvTZEL,0CUT OF MEAT,0SiDWICH,0CiNEtFOOD,0kAFY Gvr,0MiGO,0MOn CAKE,0BAGEL",
      "0SMILgG FACEbSMILgG EYES itsvE HEeTS,0YAWNgG FACE,0SMILgG FACEbTEe",
      "0FACEbPeTY HORN itPeTY zT,2UNEVr EYES itWAVY MOUs,0OVlHEATEtFACE,0FvEZgG FACE,0NgJA",
      "0DISGUISEtFACE,0FACE HOLDgG BACK TEeS,1WIs PkADgG EYES,0SeI,0LAB COAT,0GOGGkS",
      "0HIKgG BOOT,0FLAToHOE,0CRAB,0LIn FACE,0SCORPIn,0TURKEY,0UNICORN FACE,0EAGk,0DUCK,0BAT",
      "0SHeK,0OWL,0FOX FACE,0BUTTlFLY,0DEl,0GORILLA,0LIZeD,0RHgOClOS,0SHRIMP,0SQUID",
      "0GIRAFFE FACE,0ZEBRA FACE,0HEDGEHOG,0SAUROPOD,0T-vX,0CRICKET,0KiGeOO,0LLAMA,0PEACOCK",
      "0HIPPOPOTAMUS,0PeROT,0RACCOn,0LOBSTl,0MOSQUITO,0MICROBE,0BADGl,0SWi,0MAMMOs,0yy,0SLOs",
      "0OTTl,0ORiGUTi,0SKUNK,0FLAMgGO,0OYSTl,0BEAVl,0BISn,0SEc,0GUIDE yG,0PROBgG CiE",
      "0EMOJI COMPnrT vtzIR,2CURLY zIR,2BcD,2WHITE zIR,0BnE,0kG,0FOOT,0TOOs,0SUPlHlO",
      "0SUPlVILLAg,0SAFETY VEST,0EebHEegG AID,0MOTORIZEtWHEELCzIR,0MiUc WHEELCzIR,0MECHiICc eM",
      "1kG,0CHEESE WEDGE,0CUPCAKE,0ScTozKl,0BEVlAGE BOX,0GeLIC,0nIn,0FcAFEL,0WAFFk,0BUTTl",
      "0MATE DRgK,0ICE CUBE,0BUBBk TEA,0TROLL,0STiDgG PlSn,0KNEELgG PlSn,0DEAF PlSn,0FACEbMnOCk",
      "0ADULT,0CHILD,0OLDl ADULT,0BEeDEtPlSn,0PlSnbHEADSCeF,1goTEAMY ROOM,1CLIMBgG",
      "1g LOTUS POSIun,0MAGE,0FAIRY,0VAMPIv,0MlPlSn,0ELF,0GrIE,0ZOMBIE,0BRAg,0ORiGE HEeT",
      "0BILktCAP,0SCeF,0GLOVES,0COAT,0SOCKS,0vtGIFT rVELOPE,0FIvCRACKl,0JIGSAW PUZZk PIECE",
      "0TEST TUBE,0PETRI DISH,0DNA yUBk HELIX,0COMPASS,0ABACUS,0FIv EXTgGUISHl,0TOOLBOX,0BRICK",
      "0MAGNET,0LUGGAGE,0LOun BOTTk,0SPOOL OF svAD,0BcL OF YeN,0SAFETY Pg,0TEDDY BEe,0BROOM",
      "0BASKET,0ROLL OF PAPl,0Be OFoOAP,0SPnGE,0vCEIPT,0NAZe AMUkT,0NEUTRc CHESS KgG,2QUEr",
      "2ROOK,2BISHOP,2KNf,2PAWN,0WHITE CHESS KNf ROTATEtFORTY-FIVE DEGvES",
      "0BLACK CHESS KNf ROTATEtFORTY-FIVE DEGvES,0NEUTRc CHESS KNf ROTATEtFORTY-FIVE DEGvES",
      "0WHITE CHESS KgG ROTATEtNgETY DEGvES,2QUEr ROTATEtNgETY DEGvES,2ROOK ROTATEtNgETY DEGvES",
      "2BISHOP ROTATEtNgETY DEGvES,2KNf ROTATEtNgETY DEGvES,2PAWN ROTATEtNgETY DEGvES",
      "0BLACK CHESS KgG ROTATEtNgETY DEGvES,2QUEr ROTATEtNgETY DEGvES,2ROOK ROTATEtNgETY DEGvES",
      "2BISHOP ROTATEtNgETY DEGvES,2KNf ROTATEtNgETY DEGvES,2PAWN ROTATEtNgETY DEGvES",
      "0NEUTRc CHESS KgG ROTATEtNgETY DEGvES,2QUEr ROTATEtNgETY DEGvES",
      "2ROOK ROTATEtNgETY DEGvES,2BISHOP ROTATEtNgETY DEGvES,2KNf ROTATEtNgETY DEGvES",
      "2PAWN ROTATEtNgETY DEGvES,0WHITE CHESS KNf ROTATEtnE HUNDvtsIRTY-FIVE DEGvES",
      "0BLACK CHESS KNf ROTATEtnE HUNDvtsIRTY-FIVE DEGvES",
      "0NEUTRc CHESS KNf ROTATEtnE HUNDvtsIRTY-FIVE DEGvES,0WHITE CHESS TURNEtKgG,3QUEr,3ROOK",
      "3BISHOP,3KNf,3PAWN,0BLACK CHESS TURNEtKgG,3QUEr,3ROOK,3BISHOP,3KNf,3PAWN",
      "0NEUTRc CHESS TURNEtKgG,3QUEr,3ROOK,3BISHOP,3KNf,3PAWN",
      "0WHITE CHESS KNf ROTATEtTWO HUNDvtTWrTY-FIVE DEGvES",
      "0BLACK CHESS KNf ROTATEtTWO HUNDvtTWrTY-FIVE DEGvES",
      "0NEUTRc CHESS KNf ROTATEtTWO HUNDvtTWrTY-FIVE DEGvES",
      "0WHITE CHESS KgG ROTATEtTWO HUNDvDoEVrTY DEGvES,2QUEr ROTATEtTWO HUNDvDoEVrTY DEGvES",
      "2ROOK ROTATEtTWO HUNDvDoEVrTY DEGvES,2BISHOP ROTATEtTWO HUNDvDoEVrTY DEGvES",
      "2KNf ROTATEtTWO HUNDvDoEVrTY DEGvES,2PAWN ROTATEtTWO HUNDvDoEVrTY DEGvES",
      "0BLACK CHESS KgG ROTATEtTWO HUNDvDoEVrTY DEGvES,2QUEr ROTATEtTWO HUNDvDoEVrTY DEGvES",
      "2ROOK ROTATEtTWO HUNDvDoEVrTY DEGvES,2BISHOP ROTATEtTWO HUNDvDoEVrTY DEGvES",
      "2KNf ROTATEtTWO HUNDvDoEVrTY DEGvES,2PAWN ROTATEtTWO HUNDvDoEVrTY DEGvES",
      "0NEUTRc CHESS KgG ROTATEtTWO HUNDvDoEVrTY DEGvES,2QUEr ROTATEtTWO HUNDvDoEVrTY DEGvES",
      "2ROOK ROTATEtTWO HUNDvDoEVrTY DEGvES,2BISHOP ROTATEtTWO HUNDvDoEVrTY DEGvES",
      "2KNf ROTATEtTWO HUNDvDoEVrTY DEGvES,2PAWN ROTATEtTWO HUNDvDoEVrTY DEGvES",
      "0WHITE CHESS KNf ROTATEtsvE HUNDvtFIFTEr DEGvES",
      "0BLACK CHESS KNf ROTATEtsvE HUNDvtFIFTEr DEGvES",
      "0NEUTRc CHESS KNf ROTATEtsvE HUNDvtFIFTEr DEGvES,0WHITE CHESS EQUIHOPPl",
      "0BLACK CHESS EQUIHOPPl,0NEUTRc CHESS EQUIHOPPl",
      "0WHITE CHESS EQUIHOPPl ROTATEtNgETY DEGvES,0BLACK CHESS EQUIHOPPl ROTATEtNgETY DEGvES",
      "0NEUTRc CHESS EQUIHOPPl ROTATEtNgETY DEGvES,0WHITE CHESS KNf-QUEr,2KNf-ROOK,2KNf-BISHOP",
      "0BLACK CHESS KNf-QUEr,2KNf-ROOK,2KNf-BISHOP"]),
    (0x1FA60, [
      "0XIiGQI vtGrlc,2MiDeg,2EkPHiT,2HORSE,2CHeIOT,2CiNn,2SOLDIl,1BLACK Grlc,2MiDeg,2EkPHiT",
      "2HORSE,2CHeIOT,2CiNn,2SOLDIl"]),
    (0x1FA70, ["0BckToHOES,0nE-PIECEoWIMSUIT,0BRIEFS,0SHORTS,0snGoiDc"]),
    (0x1FA78, ["0DROP OF BLOOD,0ADHESIVE BiDAGE,0STEsOSCOPE,0X-RAY,0CRUTCH"]),
    (0x1FA80, ["0YO-YO,0KITE,0PeACHUTE,0BOOMliG,0MAGIC WiD,0PgATA,0NESTgG yLLS"]),
    (0x1FA90, [
      "0RgGEtPLiET,0CzIR,0RAZOR,0AXE,0DIYA LAMP,0BiJO,0MILITeY HELMET,0ACCORDIn,0LnG DRUM,0COg",
      "0CePrTRYoAW,0SCvWDRIVl,0LADDl,0HOOK,0MIRROR,0WgyW,0PLUNGl,0SEWgG NEEDk,0KNOT,0BUCKET",
      "0MOUSE TRAP,0TOOsBRUSH,0HEADSTnE,0PLACeD,0ROCK,0MIRROR BcL,0IDruFICAun CeD,0LOW BATTlY",
      "0zMSA"]),
    (0x1FAB0, [
      "0FLY,0WORM,0BEETk,0COCKROACH,0POTTEtPLiT,0WOOD,0FEAsl,0LOTUS,0CORc,0EMPTY NEST",
      "0NESTbEGGS"]),
    (0x1FAC0, ["0iATOMICc HEeT,0LUNGS,0PEOPk HUGGgG,0PvGNiT Mi,1PlSn,0PlSnbCROWN"]),
    (0x1FAD0, [
      "0BLUEBlRIES,0BELL PEPPl,0OLIVE,0FLATBvAD,0TAMcE,0FnDUE,0TEAPOT,0POURgG LIQUID,0BEiS,0Je"]),
    (0x1FAE0, [
      "0MELTgG FACE,0ScUTgG FACE,0FACEbOPr EYES itHitOVl MOUs,2PEEKgG EYE,2DIAGnc MOUs",
      "0yTTEtLgE FACE,0BITgG LIP,0BUBBkS"]),
    (0x1FAF0, [
      "0HiDbgDEX FgGl itsUMB CROSSED,0Rfx HiD,0kFTx HiD,0PcM yWN HiD,1UP HiD",
      "0gDEX POgTgG AT sE VIEWl,0HEeT HiDS"]),
    (0x1FB00, [
      "0BLOCKoEXTiT-1,1SEXTiT-2,1SEXTiT-12,1SEXTiT-3,1SEXTiT-13,1SEXTiT-23,1SEXTiT-123",
      "1SEXTiT-4,1SEXTiT-14,1SEXTiT-24,1SEXTiT-124,1SEXTiT-34,1SEXTiT-134,1SEXTiT-234",
      "1SEXTiT-1234,1SEXTiT-5,1SEXTiT-15,1SEXTiT-25,1SEXTiT-125,1SEXTiT-35,1SEXTiT-235",
      "1SEXTiT-1235,1SEXTiT-45,1SEXTiT-145,1SEXTiT-245,1SEXTiT-1245,1SEXTiT-345,1SEXTiT-1345",
      "1SEXTiT-2345,1SEXTiT-12345,1SEXTiT-6,1SEXTiT-16,1SEXTiT-26,1SEXTiT-126,1SEXTiT-36",
      "1SEXTiT-136,1SEXTiT-236,1SEXTiT-1236,1SEXTiT-46,1SEXTiT-146,1SEXTiT-1246,1SEXTiT-346",
      "1SEXTiT-1346,1SEXTiT-2346,1SEXTiT-12346,1SEXTiT-56,1SEXTiT-156,1SEXTiT-256,1SEXTiT-1256",
      "1SEXTiT-356,1SEXTiT-1356,1SEXTiT-2356,1SEXTiT-12356,1SEXTiT-456,1SEXTiT-1456",
      "1SEXTiT-2456,1SEXTiT-12456,1SEXTiT-3456,1SEXTiT-13456,1SEXTiT-23456",
      "0LOWl kFT BLOCK DIAGnc LOWl MIDDk kFT TO LOWl CrTv,9Rf,4UPPl MIDDk kFT TO LOWl CrTv,9Rf",
      "5kFT TO LOWl CrTv,1Rf BLOCK DIAGnc UPPl MIDDk kFT TO UPPl CrTv,9Rf",
      "4LOWl MIDDk kFT TO UPPl CrTv,9Rf,5kFT TO UPPl CrTv,5MIDDk kFT TO UPPl MIDDk Rf",
      "5CrTv TO LOWl MIDDk Rf,5kFT TO LOWl MIDDk Rf,5CrTv TO UPPl MIDDk Rf",
      "5kFT TO UPPl MIDDk Rf,5CrTv TO UPPl Rf,1kFT BLOCK DIAGnc UPPl CrTv TO UPPl MIDDk Rf",
      "5kFT TO UPPl MIDDk Rf,5CrTv TO LOWl MIDDk Rf,5kFT TO LOWl MIDDk Rf,5CrTv TO LOWl Rf",
      "5MIDDk kFT TO LOWl MIDDk Rf,0UPPl Rf BLOCK DIAGnc LOWl MIDDk kFT TO LOWl CrTv,9Rf",
      "4UPPl MIDDk kFT TO LOWl CrTv,9Rf,5kFT TO LOWl CrTv",
      "1kFT BLOCK DIAGnc UPPl MIDDk kFT TO UPPl CrTv,9Rf,4LOWl MIDDk kFT TO UPPl CrTv,9Rf",
      "5kFT TO UPPl CrTv,5MIDDk kFT TO UPPl MIDDk Rf,5CrTv TO LOWl MIDDk Rf",
      "5kFT TO LOWl MIDDk Rf,5CrTv TO UPPl MIDDk Rf,5kFT TO UPPl MIDDk Rf,5CrTv TO UPPl Rf",
      "1Rf BLOCK DIAGnc UPPl CrTv TO UPPl MIDDk Rf,5kFT TO UPPl MIDDk Rf,5CrTv TO LOWl MIDDk Rf",
      "5kFT TO LOWl MIDDk Rf,5CrTv TO LOWl Rf,5MIDDk kFT TO LOWl MIDDk Rf",
      "1itRf itLOWl TRIiGULe svE QUeTlS BLOCK,0kFT itLOWl itRf TRIiGULe svE QUeTlS BLOCK",
      "0UPPl itkFT itLOWl TRIiGULe svE QUeTlS BLOCK,0kFT itUPPl itRf TRIiGULe svE QUeTlS BLOCK",
      "1TRIiGULe nE QUeTl BLOCK,0UPPl TRIiGULe nE QUeTl BLOCK,0Rf TRIiGULe nE QUeTl BLOCK",
      "0LOWl TRIiGULe nE QUeTl BLOCK,0VluCc nE EfH BLOCK-2,3BLOCK-3,3BLOCK-4,3BLOCK-5,3BLOCK-6",
      "3BLOCK-7,0HORIZnTc nE EfH BLOCK-2,3BLOCK-3,3BLOCK-4,3BLOCK-5,3BLOCK-6,3BLOCK-7",
      "0kFT itLOWl nE EfH BLOCK,2UPPl nE EfH BLOCK,0Rf itUPPl nE EfH BLOCK,2LOWl nE EfH BLOCK",
      "0UPPl itLOWl nE EfH BLOCK,0HORIZnTc nE EfH BLOCK-1358,0UPPl nE QUeTl BLOCK",
      "1svE EfHS BLOCK,1FIVE EfHS BLOCK,1svE QUeTlS BLOCK,1SEVr EfHS BLOCK,0Rf nE QUeTl BLOCK",
      "1svE EfHS BLOCK,1FIVE EfHS BLOCK,1svE QUeTlS BLOCK,1SEVr EfHS BLOCK,0kFT HcF MEDIUMozDE",
      "0Rf HcF MEDIUMozDE,0UPPl HcF MEDIUMozDE,0LOWl HcF MEDIUMozDE,0gVlSE MEDIUMozDE",
      "0UPPl HcF BLOCK itLOWl HcF gVlSE MEDIUMozDE,2gVlSE MEDIUMozDE itLOWl HcF BLOCK"]),
    (0x1FB94, [
      "0kFT HcF gVlSE MEDIUMozDE itRf HcF BLOCK,0CHECKl BOetFILL,0gVlSE CHECKl BOetFILL",
      "0HEAVY HORIZnTc FILL,0UPPl kFT TO LOWl Rf FILL,1Rf TO LOWl kFT FILL",
      "1itLOWl TRIiGULe HcF BLOCK,0kFT itRf TRIiGULe HcF BLOCK,0UPPl kFT TRIiGULe MEDIUMozDE",
      "1Rf TRIiGULe MEDIUMozDE,0LOWl Rf TRIiGULe MEDIUMozDE,1kFT TRIiGULe MEDIUMozDE",
      "0BOX DRAWgGS Lf DIAGnc UPPl CrTv TO MIDDk kFT,8Rf,4MIDDk kFT TO LOWl CrTv",
      "5Rf TO LOWl CrTv,4UPPl CrTv TO MIDDk kFT TO LOWl CrTv,8Rf TO LOWl CrTv",
      "4MIDDk kFT TO LOWl CrTv TO MIDDk Rf,7UPPl CrTv TO MIDDk Rf",
      "4UPPl CrTv TO MIDDk kFT itMIDDk Rf TO LOWl CrTv,8Rf itMIDDk kFT TO LOWl CrTv",
      "9TO LOWl CrTv TO MIDDk kFT,8kFT TO LOWl CrTv TO MIDDk Rf",
      "4MIDDk kFT TO UPPl CrTv TO MIDDk Rf TO LOWl CrTv",
      "5Rf TO UPPl CrTv TO MIDDk kFT TO LOWl CrTv,4DIAMnD,3HORIZnTcbVluCcoTROKE",
      "0eROWHEAD-SzPEtPOgTl,0gVlSE CHECK MeK,0kFT HcF RUNNgG Mi,0Rf HcF RUNNgG Mi",
      "0gVlSE yWNxmbuP kFTx,0kFTxm itUPPl itLOWl nE EfH BLOCK,0Rfxm itUPPl itLOWl nE EfH BLOCK",
      "0yWNxm itRf nE EfH BLOCK,0UPxm itRf nE EfH BLOCK,0kFT HcF FOLDl,0Rf HcF FOLDl",
      "0VOIDEtGvEK CROSS,0Rf OProQUeEtyT,0NEGAuVE DIAGnc CROSS,2MIDDk Rf TO LOWl CrTv,2DIAMnD",
      "0WHITE HEAVYocuvbROUNDEtCORNlS,0kFT sIRtWHITE Rf POgTgG gDEX",
      "0MIDDk sIRtWHITE Rf POgTgG gDEX,0Rf sIRtWHITE Rf POgTgG gDEX,0NEGAuVEoQUeEtQUESun MeK",
      "0SuCK FIGUv,2WIs eMS RAISED,2kigG kFT,3Rf,2WIs DvSS,0WHITE UP-POgTgG CHEVRn"]),
    (0x1FBF0, ["0SEGMrTEtDIGIT ZlO,2nE,2TWO,2svE,2FOUR,2FIVE,2SIX,2SEVr,2Ef,2NgE"]),
    (0xE0001, ["0LiGUAGE TAG"]),
    (0xE0020, [
      "0TAGoPACE,1EXCLAMAun MeK,1QUOTAun MeK,1NUMBlw,1yLLew,1PlCrTw,1AMPlSiD,1APOSTROPHE",
      "1kFT PersESIS,1Rf PersESIS,1ASTlISK,1PLUSw,1COMMA,1HYPHr-MgUS,1FULLoTOP,1SOLIDUS",
      "1DIGIT ZlO,2nE,2TWO,2svE,2FOUR,2FIVE,2SIX,2SEVr,2Ef,2NgE,1COLn,1SEMICOLn,1kSS-siw",
      "1EQUcSw,1GvATl-siw,1QUESun MeK,1COMMlCIc AT,1LATg dA,4B,4C,4D,4E,4F,4G,4H,4I,4J,4K,4L,4M",
      "4N,4O,4P,4Q,4R,4S,4T,4U,4V,4W,4X,4Y,4Z,1kFToQUeE BRACKET,1vVlSEoOLIDUS,1RfoQUeE BRACKET",
      "1CIRCUMFkX ACCrT,1LOW LgE,1GRAVE ACCrT,1LATg jaA,4B,4C,4D,4E,4F,4G,4H,4I,4J,4K,4L,4M,4N",
      "4O,4P,4Q,4R,4S,4T,4U,4V,4W,4X,4Y,4Z,1kFT CURLY BRACKET,1VluCc LgE,1Rf CURLY BRACKET",
      "1uLDE,0CiCEL TAG"])]

/-- Every run. -/
def runs : List NameRun :=
  latinRuns ++ eastRuns ++ symbolRuns ++ farRuns ++ ancientRuns ++ hieroglyphRuns ++ notationRuns ++
    pictureRuns

/-- Other names of characters. -/
def otherNames : List (String × Nat) :=
  [("NULL", 0x0), ("NUL", 0x0), ("START OF HEADING", 0x1), ("SOH", 0x1), ("START OF TEXT", 0x2),
    ("STX", 0x2), ("END OF TEXT", 0x3), ("ETX", 0x3), ("END OF TRANSMISSION", 0x4), ("EOT", 0x4),
    ("ENQUIRY", 0x5), ("ENQ", 0x5), ("ACKNOWLEDGE", 0x6), ("ACK", 0x6), ("ALERT", 0x7),
    ("BEL", 0x7), ("BACKSPACE", 0x8), ("BS", 0x8), ("CHARACTER TABULATION", 0x9),
    ("HORIZONTAL TABULATION", 0x9), ("HT", 0x9), ("TAB", 0x9), ("LINE FEED", 0xA),
    ("NEW LINE", 0xA), ("END OF LINE", 0xA), ("LF", 0xA), ("NL", 0xA), ("EOL", 0xA),
    ("LINE TABULATION", 0xB), ("VERTICAL TABULATION", 0xB), ("VT", 0xB), ("FORM FEED", 0xC),
    ("FF", 0xC), ("CARRIAGE RETURN", 0xD), ("CR", 0xD), ("SHIFT OUT", 0xE),
    ("LOCKING-SHIFT ONE", 0xE), ("SO", 0xE), ("SHIFT IN", 0xF), ("LOCKING-SHIFT ZERO", 0xF),
    ("SI", 0xF), ("DATA LINK ESCAPE", 0x10), ("DLE", 0x10), ("DEVICE CONTROL ONE", 0x11),
    ("DC1", 0x11), ("DEVICE CONTROL TWO", 0x12), ("DC2", 0x12), ("DEVICE CONTROL THREE", 0x13),
    ("DC3", 0x13), ("DEVICE CONTROL FOUR", 0x14), ("DC4", 0x14), ("NEGATIVE ACKNOWLEDGE", 0x15),
    ("NAK", 0x15), ("SYNCHRONOUS IDLE", 0x16), ("SYN", 0x16), ("END OF TRANSMISSION BLOCK", 0x17),
    ("ETB", 0x17), ("CANCEL", 0x18), ("CAN", 0x18), ("END OF MEDIUM", 0x19), ("EOM", 0x19),
    ("SUBSTITUTE", 0x1A), ("SUB", 0x1A), ("ESCAPE", 0x1B), ("ESC", 0x1B),
    ("INFORMATION SEPARATOR FOUR", 0x1C), ("FILE SEPARATOR", 0x1C), ("FS", 0x1C),
    ("INFORMATION SEPARATOR THREE", 0x1D), ("GROUP SEPARATOR", 0x1D), ("GS", 0x1D),
    ("INFORMATION SEPARATOR TWO", 0x1E), ("RECORD SEPARATOR", 0x1E), ("RS", 0x1E),
    ("INFORMATION SEPARATOR ONE", 0x1F), ("UNIT SEPARATOR", 0x1F), ("US", 0x1F), ("SP", 0x20),
    ("DELETE", 0x7F), ("DEL", 0x7F), ("PADDING CHARACTER", 0x80), ("PAD", 0x80),
    ("HIGH OCTET PRESET", 0x81), ("HOP", 0x81), ("BREAK PERMITTED HERE", 0x82), ("BPH", 0x82),
    ("NO BREAK HERE", 0x83), ("NBH", 0x83), ("INDEX", 0x84), ("IND", 0x84), ("NEXT LINE", 0x85),
    ("NEL", 0x85), ("START OF SELECTED AREA", 0x86), ("SSA", 0x86), ("END OF SELECTED AREA", 0x87),
    ("ESA", 0x87), ("CHARACTER TABULATION SET", 0x88), ("HORIZONTAL TABULATION SET", 0x88),
    ("HTS", 0x88), ("CHARACTER TABULATION WITH JUSTIFICATION", 0x89),
    ("HORIZONTAL TABULATION WITH JUSTIFICATION", 0x89), ("HTJ", 0x89),
    ("LINE TABULATION SET", 0x8A), ("VERTICAL TABULATION SET", 0x8A), ("VTS", 0x8A),
    ("PARTIAL LINE FORWARD", 0x8B), ("PARTIAL LINE DOWN", 0x8B), ("PLD", 0x8B),
    ("PARTIAL LINE BACKWARD", 0x8C), ("PARTIAL LINE UP", 0x8C), ("PLU", 0x8C),
    ("REVERSE LINE FEED", 0x8D), ("REVERSE INDEX", 0x8D), ("RI", 0x8D), ("SINGLE SHIFT TWO", 0x8E),
    ("SINGLE-SHIFT-2", 0x8E), ("SS2", 0x8E), ("SINGLE SHIFT THREE", 0x8F), ("SINGLE-SHIFT-3", 0x8F),
    ("SS3", 0x8F), ("DEVICE CONTROL STRING", 0x90), ("DCS", 0x90), ("PRIVATE USE ONE", 0x91),
    ("PRIVATE USE-1", 0x91), ("PU1", 0x91), ("PRIVATE USE TWO", 0x92), ("PRIVATE USE-2", 0x92),
    ("PU2", 0x92), ("SET TRANSMIT STATE", 0x93), ("STS", 0x93), ("CANCEL CHARACTER", 0x94),
    ("CCH", 0x94), ("MESSAGE WAITING", 0x95), ("MW", 0x95), ("START OF GUARDED AREA", 0x96),
    ("START OF PROTECTED AREA", 0x96), ("SPA", 0x96), ("END OF GUARDED AREA", 0x97),
    ("END OF PROTECTED AREA", 0x97), ("EPA", 0x97), ("START OF STRING", 0x98), ("SOS", 0x98),
    ("SINGLE GRAPHIC CHARACTER INTRODUCER", 0x99), ("SGC", 0x99),
    ("SINGLE CHARACTER INTRODUCER", 0x9A), ("SCI", 0x9A), ("CONTROL SEQUENCE INTRODUCER", 0x9B),
    ("CSI", 0x9B), ("STRING TERMINATOR", 0x9C), ("ST", 0x9C), ("OPERATING SYSTEM COMMAND", 0x9D),
    ("OSC", 0x9D), ("PRIVACY MESSAGE", 0x9E), ("PM", 0x9E), ("APPLICATION PROGRAM COMMAND", 0x9F),
    ("APC", 0x9F), ("NBSP", 0xA0), ("SHY", 0xAD), ("LATIN CAPITAL LETTER GHA", 0x1A2),
    ("LATIN SMALL LETTER GHA", 0x1A3), ("CGJ", 0x34F), ("ALM", 0x61C),
    ("SYRIAC SUBLINEAR COLON SKEWED LEFT", 0x709), ("KANNADA LETTER LLLA", 0xCDE),
    ("LAO LETTER FO FON", 0xE9D), ("LAO LETTER FO FAY", 0xE9F), ("LAO LETTER RO", 0xEA3),
    ("LAO LETTER LO", 0xEA5), ("TIBETAN MARK BKA- SHOG GI MGO RGYAN", 0xFD0),
    ("HANGUL JONGSEONG YESIEUNG-KIYEOK", 0x11EC), ("HANGUL JONGSEONG YESIEUNG-SSANGKIYEOK", 0x11ED),
    ("HANGUL JONGSEONG SSANGYESIEUNG", 0x11EE), ("HANGUL JONGSEONG YESIEUNG-KHIEUKH", 0x11EF),
    ("FVS1", 0x180B), ("FVS2", 0x180C), ("FVS3", 0x180D), ("MVS", 0x180E), ("FVS4", 0x180F),
    ("ZWSP", 0x200B), ("ZWNJ", 0x200C), ("ZWJ", 0x200D), ("LRM", 0x200E), ("RLM", 0x200F),
    ("LRE", 0x202A), ("RLE", 0x202B), ("PDF", 0x202C), ("LRO", 0x202D), ("RLO", 0x202E),
    ("NNBSP", 0x202F), ("MMSP", 0x205F), ("WJ", 0x2060), ("LRI", 0x2066), ("RLI", 0x2067),
    ("FSI", 0x2068), ("PDI", 0x2069), ("WEIERSTRASS ELLIPTIC FUNCTION", 0x2118),
    ("MICR ON US SYMBOL", 0x2448), ("MICR DASH SYMBOL", 0x2449),
    ("LEFTWARDS TRIANGLE-HEADED ARROW WITH DOUBLE VERTICAL STROKE", 0x2B7A),
    ("RIGHTWARDS TRIANGLE-HEADED ARROW WITH DOUBLE VERTICAL STROKE", 0x2B7C),
    ("YI SYLLABLE ITERATION MARK", 0xA015), ("MYANMAR LETTER KHAMTI LLA", 0xAA6E),
    ("PRESENTATION FORM FOR VERTICAL RIGHT WHITE LENTICULAR BRACKET", 0xFE18),
    ("BYTE ORDER MARK", 0xFEFF), ("BOM", 0xFEFF), ("ZWNBSP", 0xFEFF),
    ("CUNEIFORM SIGN NU11 TENU", 0x122D4), ("CUNEIFORM SIGN NU11 OVER NU11 BUR OVER BUR", 0x122D5),
    ("MEDEFAIDRIN CAPITAL LETTER H", 0x16E56), ("MEDEFAIDRIN CAPITAL LETTER NG", 0x16E57),
    ("MEDEFAIDRIN SMALL LETTER H", 0x16E76), ("MEDEFAIDRIN SMALL LETTER NG", 0x16E77),
    ("HENTAIGANA LETTER E-1", 0x1B001),
    ("BYZANTINE MUSICAL SYMBOL FTHORA SKLIRON CHROMA VASIS", 0x1D0C5)]

end CharacterName

end FormGraph
