import Intake.Text.CharName.Basic

/-!
# Names of characters: U+2A00 to U+9FFF

The names of further signs of mathematics, radicals, kana and hexagrams.

## Main definitions

* `kanaNames` — the runs of names.
-/

namespace Intake.Text

/-- The names of the characters U+2A00 to U+9FFF. -/
def kanaNames : List NameRun :=
  [(0x2A00, ["aaN-ARY CIRCLED DOT OPERATORojPLUSojTIMESgaUNION OPERATOR WITH DOT!aPLUS",
     "gaSQUARE INTERSECTION OPERATORnjUNIONajTWO LOGICAL ANDmjORajN-ARY TIMESaaMODULO TWO SUM",
     "aaSUMMATION WITH INTEGRALaaQUADRUPLE INTEGRAL OPERATORaaFINITE PART INTEGRAL",
     "aaINTEGRAL WITH DOUBLE STROKEjaAVERAGE WITH SLASHaaCIRCULATION FUNCTION",
     "aaANTICLOCKWISE INTEGRATIONaaLINE INTEGRATION WITH RECTANGULAR PATH AROUND POLE",
     "wrSEMICIRCULARrfNOT INCLUDING THEaaINTEGRAL AROUND A POINT OPERATORajQUATERNION INTEGRAL",
     "aaINTEGRAL WITH LEFTWARDS ARROW WITH HOOKoaTIMES SIGNoaINTERSECTIONoaUNIONoaOVERBAR",
     "oaUNDERBARaaJOINaaLARGE LEFT TRIANGLE OPERATORaaZ NOTATION SCHEMA COMPOSITIONsaPIPING",
     "taROJECTIONaaPLUS SIGN WITH SMALL CIRCLE ABOVEpgCIRCUMFLEX ACCENTpgTILDEpaDOT BELOWpgTILDE",
     "paSUBSCRIPT TWOpaBLACK TRIANGLEaaMINUS SIGN WITH COMMA ABOVEqaDOT BELOWqaFALLING DOTS",
     "qfRISINGaaPLUS SIGN IN LEFT HALF CIRCLEnmRIGHTaaVECTOR OR CROSS PRODUCT",
     "aaMULTIPLICATION SIGN WITH DOT ABOVEzaUNDERBARaaSEMIDIRECT PRODUCT WITH BOTTOM CLOSED",
     "baMASH PRODUCTaaMULTIPLICATION SIGN IN LEFT HALF CIRCLExmRIGHT",
     "aaCIRCLED MULTIPLICATION SIGN WITH CIRCUMFLEX ACCENTaaMULTIPLICATION SIGN IN DOUBLE CIRCLE",
     "aaCIRCLED DIVISION SIGNaaPLUS SIGN IN TRIANGLEarMINUSbrULTIPLICATIONaaINTERIOR PRODUCT",
     "aiRIGHTHAND INTERIORaaZ NOTATION RELATIONAL COMPOSITIONaaAMALGAMATION OR COPRODUCT",
     "aaINTERSECTION WITH DOTaaUNION WITH MINUS SIGNlaOVERBARanINTERSECTIONsaLOGICAL AND",
     "aaUNION WITH LOGICAL ORgaABOVE INTERSECTIONaaINTERSECTION ABOVE UNION",
     "aaUNION ABOVE BAR ABOVE INTERSECTIONaaINTERSECTION ABOVE BAR ABOVE UNION",
     "agUNION BESIDE AND JOINED WITHaaINTERSECTION BESIDE AND JOINED WITH INTERSECTION",
     "aaCLOSED UNION WITH SERIFShmINTERSECTIONaaDOUBLE SQUARE INTERSECTIONoaUNION",
     "aaCLOSED UNION WITH SERIFS AND SMASH PRODUCTaaLOGICAL AND WITH DOT ABOVEipOR",
     "aaDOUBLE LOGICAL ANDpaORaaTWO INTERSECTING LOGICAL ANDzaORadSLOPING LARGEoaAND",
     "aeLOGICAL OR OVERLAPPING LOGICALiaAND WITH MIDDLE STEMirORiaAND WITH HORIZONTAL DASHivOR",
     "iaAND WITH DOUBLE OVERBARraUNDERBARraDOUBLE UNDERBARajSMALL VEE WITH",
     "aaLOGICAL OR WITH DOUBLE OVERBARxaUNDERBARaaZ NOTATION DOMAIN ANTIRESTRICTIONlqRANGE",
     "aaEQUALS SIGN WITH DOT BELOWaaIDENTICAL WITH DOT ABOVE",
     "aaTRIPLE HORIZONTAL BAR WITH DOUBLE VERTICAL STROKE#qTRIPLEbaILDE OPERATOR WITH DOT ABOVE",
     "uaRISING DOTSaaSIMILAR MINUS SIMILARaaCONGRUENT WITH DOT ABOVEaaEQUALS WITH ASTERISK",
     "aaALMOST EQUAL TO WITH CIRCUMFLEX ACCENTbaPPROXIMATELY EQUAL OR EQUAL TO",
     "aaEQUALS SIGN ABOVE PLUS SIGNafPLUS SIGN ABOVE EQUALSaaEQUALS SIGN ABOVE TILDE OPERATOR",
     "aaDOUBLE COLON EQUALaaTWO CONSECUTIVE EQUALS SIGNSbzHREE",
     "aaEQUALS SIGN WITH TWO DOTS ABOVE AND TWO DOTS BELOWdaIVALENT WITH FOUR DOTS ABOVE",
     "aaLESS-THAN WITH CIRCLE INSIDEayGREATERaaLESS-THAN WITH QUESTION MARK ABOVEa&GREATER",
     "aaLESS-THAN OR SLANTED EQUAL TOazGREATERaaLESS-THAN OR SLANTED EQUAL TO WITH DOT INSIDE",
     "a?GREATERaaLESS-THAN OR SLANTED EQUAL TO WITH DOT ABOVEa>GREATER",
     "aaLESS-THAN OR SLANTED EQUAL TO WITH DOT ABOVE RIGHT",
     "aaGREATER-THAN OR SLANTED EQUAL TO WITH DOT ABOVE LEFTaaLESS-THAN OR APPROXIMATEauGREATER",
     "aaLESS-THAN AND SINGLE-LINE NOT EQUAL TOa+GREATERaaLESS-THAN AND NOT APPROXIMATEazGREATER",
     "aaLESS-THAN ABOVE DOUBLE-LINE EQUAL ABOVE GREATER-THAN",
     "afGREATER-THAN ABOVE DOUBLE-LINE EQUAL ABOVE LESSaaLESS-THAN ABOVE SIMILAR OR EQUAL",
     "a$GREATERaaLESS-THAN ABOVE SIMILAR ABOVE GREATER-THAN",
     "afGREATER-THAN ABOVE SIMILAR ABOVE LESS",
     "aaLESS-THAN ABOVE GREATER-THAN ABOVE DOUBLE-LINE EQUALa%GREATER-THAN ABOVE LESS",
     "agLESS-THAN ABOVE SLANTED EQUAL ABOVE GREATER-THAN ABOVE SLANTED",
     "azGREATER-THAN ABOVE SLANTED EQUAL ABOVE LESSaaSLANTED EQUAL TO OR LESS-THANufGREATER",
     "uaLESS-THAN WITH DOT INSIDEuvGREATERaaDOUBLE-LINE EQUAL TO OR LESS-THANyfGREATER",
     "mfSLANTED EQUAL TO OR LESS)fGREATERafSIMILAR OR LESSlfGREATER",
     "iaABOVE LESS-THAN ABOVE EQUALS SIGNoxGREATERaaDOUBLE NESTED LESS-THANofGREATER",
     "oaLESS-THAN WITH UNDERBARaaGREATER-THAN OVERLAPPING LESS-THANnkBESIDE",
     "aaLESS-THAN CLOSED BY CURVEavGREATERaaLESS-THAN CLOSED BY CURVE ABOVE SLANTED EQUAL",
     "a?GREATERaaSMALLER THANafLARGERaaSMALLER THAN OR EQUAL TOarLARGER",
     "aaEQUALS SIGN WITH BUMPY ABOVEaaPRECEDES ABOVE SINGLE-LINE EQUALS SIGNa&SUCCEEDS",
     "aaPRECEDES ABOVE SINGLE-LINE NOT EQUAL TOa(SUCCEEDSaaPRECEDES ABOVE EQUALS SIGNasSUCCEEDS",
     "aaPRECEDES ABOVE NOT EQUAL TOatSUCCEEDSajPRECEDES ABOVE ALMOSTawSUCCEEDS",
     "aqPRECEDES ABOVE NOTa!SUCCEEDSaaDOUBLE PRECEDEShaSUCCEEDSaaSUBSET WITH DOTcjPERSET",
     "caBSET WITH PLUS SIGN BELOWcvPERSETclBSET WITH MULTIPLICATIONc(PERSET",
     "caBSET OF OR EQUAL TO WITH DOT ABOVEc&PERSETcaBSET OF ABOVE EQUALS SIGNcvPERSET",
     "caBSET OF ABOVE TILDE OPERATORcyPERSETcaBSET OF ABOVE ALMOST EQUAL TOczPERSET",
     "cjBSET OF ABOVE NOTcwPERSETbaQUARE LEFT OPEN BOX OPERATORhsRIGHTaaCLOSED SUBSETjaPERSET",
     "jaBSET OR EQUAL TOjmPERSETaaSUBSET ABOVE SUPERSETcaPERSET ABOVE SUBSETcnBSET",
     "caPERSET ABOVE SUPERSETjaBESIDE SUBSETqaAND JOINED BY DASH WITH SUBSET",
     "aaELEMENT OF OPENING DOWNWARDSaaPITCHFORK WITH TEE TOPaaTRANSVERSAL INTERSECTIONaaFORKING",
     "aaNONFORKINGaaSHORT LEFT TACKgfDOWNgfUPaaPERPENDICULAR WITH S",
     "aaVERTICAL BAR TRIPLE RIGHT TURNSTILEakDOUBLE VERTICAL BAR LEFTapVERTICAL BAR DOUBLE",
     "a!DOUBLE VERTICALaaLONG DASH FROM LEFT MEMBER OF DOUBLE VERTICAL",
     "aaSHORT DOWN TACK WITH OVERBARgaUP TACK WITH UNDERBARoaABOVE SHORT DOWN TACKakDOUBLEhfUP",
     "haSTROKE NOT SIGNaqREVERSED DOUBLEaaDOES NOT DIVIDE WITH REVERSED NEGATION SLASH",
     "aaVERTICAL LINE WITH CIRCLE ABOVE!aBELOWasDOWN TACKaaPARALLEL WITH HORIZONTAL STROKE",
     "oaTILDE OPERATORaaTRIPLE VERTICAL BAR BINARY RELATIONuaWITH HORIZONTAL STROKE",
     "haCOLON OPERATORhaNESTED LESS-THANofGREATERaaDOUBLE-LINE SLANTED LESS-THAN OR EQUAL TO",
     "urGREATERaaTRIPLE SOLIDUS BINARY RELATIONaaLARGE TRIPLE VERTICAL BAR OPERATOR",
     "ajDOUBLE SOLIDUSaaWHITE VERTICAL BARanN-ARY WHITEbaORTH EAST WHITE ARROWgmWESTamSOUTH EAST",
     "gmWESTamLEFT RIGHTegWARDS BLACKamUPWARDSamDOWNWARDSamNORTH EASTgmWESTamSOUTH EASTgmWEST",
     "amLEFT RIGHTamUP DOWNaaRIGHTWARDS ARROW WITH TIP DOWNWARDS!aUPWARDS",
     "aaLEFTWARDS ARROW WITH TIP DOWNWARDSzaUPWARDSaaSQUARE WITH TOP HALF BLACKmlBOTTOM",
     "mlUPPER RIGHT DIAGONALmuLOWER LEFTalDIAMOND WITH LEFTnlRIGHTnlTOPnlBOTTOMbaOTTED SQUARE",
     "ahBLACK LARGEanWHITEahBLACK VERY SMALLasWHITEaaBLACK PENTAGONajWHITEgaHEXAGONaiBLACK",
     "aiHORIZONTAL BLACKaaBLACK LARGE CIRCLEgaMEDIUM DIAMONDapWHITEaaBLACK MEDIUM LOZENGEapWHITE",
     "aaBLACK SMALL DIAMONDmaLOZENGEaoWHITEaaBLACK HORIZONTAL ELLIPSEatWHITEaiBLACK VERTICAL",
     "arWHITEaaLEFT ARROW WITH SMALL CIRCLEaaTHREE LEFTWARDS ARROWS",
     "aaLEFT ARROW WITH CIRCLED PLUSbaONG LEFTWARDS SQUIGGLE ARROW",
     "baEFTWARDS TWO-HEADED ARROW WITH VERTICAL STROKE)hDOUBLE VERTICAL#aFROM BAR",
     "vaTRIPLE DASH ARROWkaARROW WITH DOTTED STEMvaTAIL WITH VERTICAL STROKE(hDOUBLE VERTICAL",
     "kaTWO-HEADED ARROW WITH TAIL.a WITH VERTICAL STROKE@hDOUBLE VERTICALkaARROW THROUGH X",
     "aaWAVE ARROW POINTING DIRECTLY LEFTaaEQUALS SIGN ABOVE LEFTWARDS ARROW",
     "awREVERSE TILDE OPERATORaaLEFTWARDS ARROW ABOVE REVERSE ALMOST EQUAL TO",
     "aaRIGHTWARDS ARROW THROUGH GREATER-THANzaSUPERSETaaLEFTWARDS QUADRUPLE ARROWaqRIGHTWARDS",
     "bgEVERSE TILDE OPERATOR ABOVE RIGHTWARDSbaIGHTWARDS ARROW ABOVE REVERSE ALMOST EQUAL TO",
     "aaTILDE OPERATOR ABOVE LEFTWARDS ARROWaaLEFTWARDS ARROW ABOVE ALMOST EQUAL TO",
     "waREVERSE TILDE OPERATORa,RIGHTWARDSaaDOWNWARDS TRIANGLE-HEADED ZIGZAG ARROW",
     "agSHORT SLANTED NORTHggBACKSLANTED SOUTHaaWHITE MEDIUM STARafBLACK SMALLalWHITE",
     "aaBLACK RIGHT-POINTING PENTAGONayWHITEaaHEAVY LARGE CIRCLEgaOVAL WITH OVAL INSIDE",
     "ghCIRCLE WITH CIRCLEmamaD SALTIREaaSLANTED NORTH ARROW WITH HOOKED HEAD",
     "aaBACKSLANTED SOUTH ARROW WITH HOOKED TAILafSLANTED NORTH ARROW WITH HORIZONTAL",
     "a#BACKSLANTED SOUTHbaENT ARROW POINTING DOWNWARDS THEN NORTH EASTa?SHORT BENT",
     "aaLEFTWARDS TRIANGLE-HEADED ARROWawUPWARDSawRIGHTWARDSawDOWNWARDSawLEFT RIGHTawUP DOWN",
     "awNORTH WESTgwEASTa#SOUTHgwWESTagLEFTWARDS TRIANGLE-HEADED DASHEDa%UPWARDSa%RIGHTWARDS",
     "a%DOWNWARDSagCLOCKWISE TRIANGLE-HEADED OPEN CIRCLEa+ANTICLOCKWISE",
     "aaLEFTWARDS TRIANGLE-HEADED ARROW TO BARa%UPWARDSa%RIGHTWARDSa%DOWNWARDS"]),
   (0x2B76, ["aaNORTH WEST TRIANGLE-HEADED ARROW TO BARg%EASTa+SOUTHg%WEST",
     "aaLEFTWARDS TRIANGLE-HEADED ARROW WITH DOUBLE HORIZONTAL STROKEa[UPWARDS TRIANGLE",
     "a[RIGHTWARDS TRIANGLEa[DOWNWARDS TRIANGLEaaHORIZONTAL TAB KEYaiVERTICAL",
     "aaLEFTWARDS TRIANGLE-HEADED ARROW OVER RIGHTWARDS TRIANGLE-HEADED ARROW",
     "awUPWARDS TRIANGLE-HEADED ARROW LEFTWARDS OF DOWNWARDS",
     "awRIGHTWARDS TRIANGLE-HEADED ARROW OVER LEFTWARDS",
     "awDOWNWARDS TRIANGLE-HEADED ARROW LEFTWARDS OF UPWARDS",
     "aaLEFTWARDS TRIANGLE-HEADED PAIRED ARROWSa&UPWARDSa&RIGHTWARDSa&DOWNWARDS",
     "aaLEFTWARDS BLACK CIRCLED WHITE ARROWa!UPWARDSa!RIGHTWARDSa!DOWNWARDS",
     "agANTICLOCKWISE TRIANGLE-HEADED RIGHT U-SHAPED&pBOTTOM&pLEFT&pTOPaaRETURN LEFThaRIGHT",
     "aaNEWLINE LEFTiaRIGHTaaFOUR CORNER ARROWS CIRCLING ANTICLOCKWISEaaRIGHTWARDS BLACK ARROW"]),
   (0x2B97, ["aaSYMBOL FOR TYPE A ELECTRONICS",
     "aaTHREE-D TOP-LIGHTED LEFTWARDS EQUILATERAL ARROWHEADiwRIGHT-LIGHTED UPWARDS",
     "iwTOP-LIGHTED RIGHTWARDSiwLEFT-LIGHTED DOWNWARDSawBLACK LEFTWARDSgwUPWARDSgwRIGHTWARDS",
     "gwDOWNWARDSaaDOWNWARDS TRIANGLE-HEADED ARROW WITH LONG TIP LEFTWARDS_aRIGHTWARDS",
     "aaUPWARDS TRIANGLE-HEADED ARROW WITH LONG TIP LEFTWARDS]aRIGHTWARDS",
     "aaLEFTWARDS TRIANGLE-HEADED ARROW WITH LONG TIP UPWARDSa]RIGHTWARDS",
     "aaLEFTWARDS TRIANGLE-HEADED ARROW WITH LONG TIP DOWNWARDSa_RIGHTWARDS",
     "aaBLACK CURVED DOWNWARDS AND LEFTWARDS ARROW#gRIGHTWARDSngUPWARDS AND LEFTWARDS",
     "zgRIGHTWARDSngLEFTWARDS AND UPWARDSnsRIGHTWARDSngLEFTWARDS AND DOWNWARDSnuRIGHTWARDS",
     "aaRIBBON ARROW DOWN LEFTsaRIGHTnaUP LEFTqaRIGHTnaLEFT UPndRIGHTnaLEFT DOWNnfRIGHT",
     "aaUPWARDS WHITE ARROW FROM BAR WITH HORIZONTAL BARca ARROWHEAD IN A RECTANGLE BOX",
     "aaOVERLAPPING WHITE SQUARESsaAND BLACK SQUARESmiBLACKaaBALLOT BOX WITH LIGHT XacCIRCLED",
     "iaBOLD XaaBLACK SQUARE CENTREDgiDIAMONDaaTURNED BLACK PENTAGONaaHORIZONTAL BLACK OCTAGON",
     "aiBLACKgaMEDIUM UP-POINTING TRIANGLE CENTREDn!DOWNn!LEFTn!RIGHTaaNEPTUNE FORM TWO",
     "aaTOP HALF BLACK CIRCLEasBOTTOMaaLIGHT FOUR POINTED BLACK CUSPayROTATED LIGHT",
     "afWHITE FOUR POINTEDasROTATED WHITEaaSQUARE POSITION INDICATORaaUNCERTAINTY SIGN",
     "aaGROUP MARKaaPLUTO FORM TWOmaHREElaFOURmaIVEaaTRANSPLUTOaaPROSERPINAaaASTRAEAaaHYGIEA",
     "aaPHOLUSaaNESSUSaaWHITE MOON SELENAaaBLACK DIAMOND ON CROSSaaTRUE LIGHT MOON ARTAaaCUPIDO",
     "aaHADESaaZEUSaaKRONOSaaAPOLLONbaDMETOSaaVULCANUSaaPOSEIDONaaLEFT HALF BLACK STARaqRIGHT",
     "aaSTAR WITH LEFT HALF BLACKklRIGHTaaLEFTWARDS TWO-HEADED ARROW WITH TRIANGLE ARROWHEADS",
     "a@UPWARDSa@RIGHTWARDSa@DOWNWARDSaaERIS FORM ONEkaTWOaaSEDNA",
     "aaRUSSIAN ASTROLOGICAL SYMBOL VIGINTILE$aNOVILE$aQUINTILE$aBINOVILE$aSENTAGON$aTREDECILE",
     "aaEQUALS SIGN WITH INFINITY BELOWaaUNITED SYMBOLahSEPARATEDahDOUBLEDahPASSED",
     "aaREVERSED RIGHT ANGLEaaHELLSCHREIBER PAUSE SYMBOLaaGLAGOLITIC CAPITAL LETTER AZU!aBUKY",
     "!aVEDE!aGLAGOLI!aDOBRO!aYESTU!aZHIVETE!aDZELO!aZEMLJA!aIZHE#aNITIAL IZHE#a!aDJERVI!aKAKO",
     "!aLJUDIJE!aMYSLITE!aNASHI!aONU!aPOKOJI!aRITSI!aSLOVO!aTVRIDO!aUKU!aFRITU!aHERU!aOTU!aPE",
     "!aSHTA!aTSI!aCHRIVI!aSHA!aYERU%aI#aATI!aSPIDERY HA!aYU!aSMALL YUS,a WITH TAIL!aYO",
     "!aIOTATED SMALL YUS!eBIG!eIOTATED BIG!aFITA!aIZHITSA!aSHTAPIC!aTROKUTASTI A",
     "!aLATINATE MYSLITE!aCAUDATE CHRIVIlaSMALL LETTER AZUyaBUKYyaVEDEyaGLAGOLIyaDOBROyaYESTU",
     "yaZHIVETEyaDZELOyaZEMLJAyaIZHEzaNITIAL IZHEzayaDJERVIyaKAKOyaLJUDIJEyaMYSLITEyaNASHIyaONU",
     "yaPOKOJIyaRITSIyaSLOVOyaTVRIDOyaUKUyaFRITUyaHERUyaOTUyaPEyaSHTAyaTSIyaCHRIVIyaSHAyaYERU#aI",
     "zaATIyaSPIDERY HAyaYUyaSMALL YUS*a WITH TAILyaYOyaIOTATED SMALL YUSyeBIGyeIOTATED BIG",
     "yaFITAyaIZHITSAyaSHTAPICyaTROKUTASTI AyaLATINATE MYSLITEyaCAUDATE CHRIVI",
     "aaLATIN CAPITAL LETTER L WITH DOUBLE BARgzSMALLgaCAPITAL LETTER L WITH MIDDLE TILDE",
     "vaP WITH STROKEvaR WITH TAILgaSMALL LETTER A WITH STROKEthT WITH DIAGONAL",
     "gaCAPITAL LETTER H WITH DESCENDERgySMALLgpCAPITAL LETTER KgySMALLgpCAPITAL LETTER ZgySMALL",
     "gaCAPITAL LETTER ALPHAvaM WITH HOOKvaTURNED A%aLPHAgaSMALL LETTER V WITH RIGHT HOOK",
     "gfCAPITAL LETTER W WITHgtSMALLtaV WITH CURLgaCAPITAL LETTER HALF HgoSMALLtaTAILLESS PHI",
     "taE WITH NOTCHtaTURNED R WITH TAILtaO WITH LOW RING INSIDEgaLETTER SMALL CAPITAL TURNED E",
     "gaSUBSCRIPT SMALL LETTER JaaMODIFIER LETTER CAPITAL V",
     "aaLATIN CAPITAL LETTER S WITH SWASH TAILvqZaaCOPTIC CAPITAL LETTER ALFAhmSMALL",
     "haCAPITAL LETTER VIDAhmSMALLhaCAPITAL LETTER GAMMAhnSMALLhaCAPITAL LETTER DALDAhnSMALL",
     "haCAPITAL LETTER EIEhlSMALLhaCAPITAL LETTER SOUhlSMALLhaCAPITAL LETTER ZATAhmSMALL",
     "haCAPITAL LETTER HATEhmSMALLhaCAPITAL LETTER THETHEhoSMALLhaCAPITAL LETTER IAUDAhnSMALL",
     "haCAPITAL LETTER KAPAhmSMALLhaCAPITAL LETTER LAULAhnSMALLhaCAPITAL LETTER MIhkSMALL",
     "haCAPITAL LETTER NIhkSMALLhaCAPITAL LETTER KSIhlSMALLhaCAPITAL LETTER OhjSMALL",
     "haCAPITAL LETTER PIhkSMALLhaCAPITAL LETTER ROhkSMALLhaCAPITAL LETTER SIMAhmSMALL",
     "haCAPITAL LETTER TAUhlSMALLhaCAPITAL LETTER UAhkSMALLhaCAPITAL LETTER FIhkSMALL",
     "haCAPITAL LETTER KHIhlSMALLhaCAPITAL LETTER PSIhlSMALLhaCAPITAL LETTER OOUhlSMALL",
     "haCAPITAL LETTER DIALECT-P ALEFhwSMALLhaCAPITAL LETTER OLD COPTIC AINhwSMALL",
     "haCAPITAL LETTER CRYPTOGRAMMIC EIEhzSMALLhaCAPITAL LETTER DIALECT-P KAPAhwSMALL",
     "haCAPITAL LETTER DIALECT-P NIhuSMALLhdCAPITAL LETTER CRYPTOGRAMMIChySMALL",
     "haCAPITAL LETTER OLD COPTIC OOUhwSMALLhaCAPITAL LETTER SAMPIhnSMALL",
     "haCAPITAL LETTER CROSSED SHEIhuSMALLhfCAPITAL LETTER OLD COPTIChxSMALL",
     "haCAPITAL LETTER OLD COPTIC ESHhwSMALLhaCAPITAL LETTER AKHMIMIC KHEIhvSMALL",
     "haCAPITAL LETTER DIALECT-P HORIhwSMALLhfCAPITAL LETTER OLD COPTIChxSMALL",
     "haCAPITAL LETTER OLD COPTIC HAhvSMALLhdCAPITAL LETTER L-SHAPEDhtSMALL",
     "haCAPITAL LETTER OLD COPTIC HEIhwSMALLhaCAPITAL LETTER OLD COPTIC HAThwSMALL",
     "haCAPITAL LETTER OLD COPTIC GANGIAhzSMALLhaCAPITAL LETTER OLD COPTIC DJAhwSMALL",
     "haCAPITAL LETTER OLD COPTIC SHIMAhySMALLhgCAPITAL LETTER OLD NUBIANhySMALL",
     "haCAPITAL LETTER OLD NUBIAN NGIhwSMALLhaCAPITAL LETTER OLD NUBIAN NYIhwSMALL",
     "haCAPITAL LETTER OLD NUBIAN WAUhwSMALLiaYMBOL KAIoaMI ROodPIoaSTAUROSoaTAU ROodKHI",
     "oaSHIMA SIMAhaCAPITAL LETTER CRYPTOGRAMMIC SHEIh!SMALL",
     "haCAPITAL LETTER CRYPTOGRAMMIC GANGIAh$SMALLhaCOMBINING NI ABOVEraSPIRITUS ASPER!aLENIS",
     "iaAPITAL LETTER BOHAIRIC KHEIhvSMALL"]),
   (0x2CF9, ["aaCOPTIC OLD NUBIAN FULL STOPsaDIRECT QUESTION MARKsoINDIRECTsaVERSE DIVIDER",
     "haFRACTION ONE HALFiaULL STOPhaMORPHOLOGICAL DIVIDERaaGEORGIAN SMALL LETTER ANwaBANwaGAN",
     "waDONwaENwaVINwaZENwaTANwaINwaKANwaLASwaMANwaNARwaONwaPARwaZHARwaRAEwaSANwaTARwaUNwaPHAR",
     "waKHARwaGHANwaQARwaSHINwaCHINxaANwaJILwaCILxaHARwaXANwaJHANwaHAExaExaIEwaWEwaHARxaOE"]),
   (0x2D27, ["aaGEORGIAN SMALL LETTER YN"]),
   (0x2D2D, ["aaGEORGIAN SMALL LETTER AEN"]),
   (0x2D30, ["aaTIFINAGH LETTER YAsaBtaHsaGtaHHqaBERBER ACADEMY YAJqaYAJsaDtaHtaDuaHraEYraAFsaK",
     "qaTUAREG YAKqaYAKHHsaHqaBERBER ACADEMY YAHqeTUAREGqaYAHHsaAsaKHqaTUAREG YAKHqaYAQ",
     "qaTUAREG YAQqaYIraAZHqaAHAGGAR YAZHqfTUAREGqaYALsaMsaNqaTUAREG YAGNzaNGqaYAPraUraARtaRsaGH",
     "qaTUAREG YAGHqfAYERqaYAStaStaHsaTtaHsaCHsaTTsaVsaWsaYsaZqaTAWELLEMET YAZqaYAZZraEraO"]),
   (0x2D6F, ["aaTIFINAGH MODIFIER LETTER LABIALIZATION MARKjfSEPARATOR"]),
   (0x2D7F, ["aaTIFINAGH CONSONANT JOINERaaETHIOPIC SYLLABLE LOAsaMOAsaROAsaSOAtaHOAsaBOAsaTOA",
     "saCOAsaNOAtaYOAsaGLOTTAL OAsaZOAsaDOAtaDOAsaJOAsaTHOAsaCHOAsaPHOAtaOAsaGGWAvaIvaEEwa"]),
   (0x2DA0, ["aaETHIOPIC SYLLABLE SSAuaUuaIuaAAuaEEvauaO"]),
   (0x2DA8, ["aaETHIOPIC SYLLABLE CCAuaUuaIuaAAuaEEvauaO"]),
   (0x2DB0, ["aaETHIOPIC SYLLABLE ZZAuaUuaIuaAAuaEEvauaO"]),
   (0x2DB8, ["aaETHIOPIC SYLLABLE CCHAvaUvaIvaAAvaEEwavaO"]),
   (0x2DC0, ["aaETHIOPIC SYLLABLE QYAuaUuaIuaAAuaEEvauaO"]),
   (0x2DC8, ["aaETHIOPIC SYLLABLE KYAuaUuaIuaAAuaEEvauaO"]),
   (0x2DD0, ["aaETHIOPIC SYLLABLE XYAuaUuaIuaAAuaEEvauaO"]),
   (0x2DD8, ["aaETHIOPIC SYLLABLE GYAuaUuaIuaAAuaEEvauaO"]),
   (0x2DE0, ["aaCOMBINING CYRILLIC LETTER BE!aVE!aGHE!aDE!aZHE#aE!aKA!aEL#aM#aN!aO!aPE!aER#aS",
     "!aTE!aHA!aTSE!aCHE!aSHA$aCHA!aFITA!aES-TE!aA!aIE!aDJERV!aMONOGRAPH UK!aYAT#aU!aIOTIFIED A",
     "!aLITTLE YUS!eBIG!eIOTIFIED BIGaaRIGHT ANGLE SUBSTITUTION MARKERmhDOTTED SUBSTITUTION",
     "aaLEFT SUBSTITUTION BRACKETavRIGHTavLEFT DOTTEDa$RIGHTbaAISED INTERPOLATION MARKER",
     "hhDOTTED INTERPOLATIONahDOTTED TRANSPOSITIONaaLEFT TRANSPOSITION BRACKETawRIGHT",
     "baAISED SQUAREaaLEFT RAISED OMISSION BRACKETayRIGHTaaEDITORIAL CORONISaaPARAGRAPHOS",
     "aaFORKED PARAGRAPHOSamREVERSED FORKEDaaHYPODIASTOLEaaDOTTED OBELOScaWNWARDS ANCORA",
     "ahUPWARDSaaDOTTED RIGHT-POINTING ANGLEcaUBLE OBLIQUE HYPHENaaINVERTED INTERROBANG",
     "aaPALM BRANCHaaHYPHEN WITH DIAERESISaaTILDE WITH RING ABOVEaaLEFT LOW PARAPHRASE BRACKET",
     "axRIGHTaaTILDE WITH DOT ABOVEpaBELOWaaLEFT VERTICAL BAR WITH QUILLayRIGHT",
     "aaTOP LEFT HALF BRACKETenRIGHTanBOTTOM LEFThnRIGHTaiLEFT SIDEWAYS UatRIGHT",
     "aaLEFT DOUBLE PARENTHESISatRIGHTaaTWO DOTS OVER ONE DOT PUNCTUATIONamONE DOT OVER TWO DOTS",
     "amSQUARED FOUR DOTaaFIVE DOT MARKafREVERSED QUESTIONaaVERTICAL TILDEaaRING POINT",
     "aaWORD SEPARATOR MIDDLE DOTaaTURNED COMMAaaRAISED DOThaCOMMAaaTURNED SEMICOLON",
     "aaDAGGER WITH LEFT GUARDmgRIGHTaaTURNED DAGGERbaOP HALF SECTION SIGNbaWO-EM DASHbiHREE",
     "aaSTENOGRAPHIC FULL STOPaaVERTICAL SIX DOTSaaWIGGLY VERTICAL LINEaaCAPITULUM",
     "aaDOUBLE HYPHENaaREVERSED COMMAaaDOUBLE LOW-REVERSED-9 QUOTATION MARK",
     "baASH WITH LEFT UPTURNbaOUBLE SUSPENSION MARKaaINVERTED LOW KAVYKAta WITH KAVYKA ABOVE",
     "aaLOW KAVYKAka WITH DOTaaDOUBLE STACKED COMMAcaTTED SOLIDUSaaTRIPLE DAGGERaaMEDIEVAL COMMA",
     "aaPARAGRAPHUS MARKbfUNCTUS ELEVATUSaaCORNISH VERSE DIVIDERbaROSS PATTY WITH RIGHT CROSSBAR",
     "rjLEFTaaTIRONIAN SIGN CAPITAL ETaaMEDIEVAL EXCLAMATION MARKjfQUESTION",
     "aaLEFT SQUARE BRACKET WITH STROKEa#RIGHTahLEFT SQUARE BRACKET WITH DOUBLEa+RIGHT",
     "aaTOP HALF LEFT PARENTHESISjmRIGHTamBOTTOM HALF LEFTmmRIGHTaaOBLIQUE HYPHEN"]),
   (0x2E80, ["aaCJK RADICAL REPEATmaCLIFFmaSECOND ONEtaTWOuaHREEmaPERSONmaBOXmaTABLEmaKNIFE ONE",
     "saTWOmaDIVINATIONmaSEALnaMALL ONEsaTWOmaLAME ONEraTWOsaHREEraFOURmaSNAKEmaTHREAD",
     "maSNOUT ONEsaTWOmaHEART ONEsaTWOnaANDmaRAP"]),
   (0x2E9B, ["aaCJK RADICAL CHOKEmaSUNmaMOONmaDEATHmaMOTHERmaCIVILIANmaWATER ONEsaTWOmaFIRE",
     "maPAW ONEqaTWOmaSIMPLIFIED HALF TREE TRUNKmaCOWmaDOGmaJADEmaBOLT OF CLOTHmaEYEmaSPIRIT ONE",
     "taTWOmaBAMBOOmaSILKmaC-SIMPLIFIED SILKmaNET ONEqaTWOraHREEqaFOURmaMESHmaSHEEPmaRAMmaEWE",
     "maOLDmaBRUSH ONEsaTWOmaMEATnaORTARmaGRASS ONEsaTWOtaHREEmaTIGERmaCLOTHESmaWEST ONEraTWO",
     "maC-SIMPLIFIED SEEmaSIMPLIFIED HORNmaHORNmaC-SIMPLIFIED SPEECH!aHELLmaFOOT",
     "maC-SIMPLIFIED CARTmaSIMPLIFIED WALKmaWALK ONEraTWOmaCITYna-SIMPLIFIED GOLDmaLONG ONEraTWO",
     "maC-SIMPLIFIED LONGzaGATEmaMOUND ONEsaTWOmaRAINmaBLUEmaC-SIMPLIFIED TANNED LEATHERzaLEAF",
     "zaWINDzaFLYmaEAT ONEqaTWOraHREEmaC-SIMPLIFIED EATmaHEADmaC-SIMPLIFIED HORSEmaBONEmaGHOST",
     "maC-SIMPLIFIED FISHzaBIRDzaSALTmaSIMPLIFIED WHEATxaYELLOWmaC-SIMPLIFIED FROG",
     "maJ-SIMPLIFIED EVENmqCmaJ-SIMPLIFIED TOOTHmrCmaJ-SIMPLIFIED DRAGONmsCmaTURTLE",
     "maJ-SIMPLIFIED TURTLEmsC"]),
   (0x2F00, ["aaKANGXI RADICAL ONEpaLINEpaDOTpaSLASHqaECONDpaHOOKpaTWOpaLIDpaMANpaLEGSpaENTER",
     "qaIGHTpaDOWN BOXpaCOVERpaICEpaTABLEpaOPEN BOXpaKNIFEpaPOWERpaWRAPpaSPOONpaRIGHT OPEN BOX",
     "paHIDING ENCLOSUREpaTENpaDIVINATIONpaSEALpaCLIFFpaPRIVATEpaAGAINpaMOUTHpaENCLOSUREqaARTH",
     "paSCHOLARpaGOra SLOWLYpaEVENINGpaBIGpaWOMANpaCHILDpaROOFpaINCHpaSMALLpaLAMEpaCORPSE",
     "paSPROUTpaMOUNTAINpaRIVERpaWORKpaONESELFpaTURBANpaDRYpaSHORT THREADpaDOTTED CLIFF",
     "paLONG STRIDEpaTWO HANDSpaSHOOTpaBOWpaSNOUTpaBRISTLEpaSTEPpaHEARTqaALBERDpaDOORpaHAND",
     "paBRANCHpaRAPpaSCRIPTpaDIPPERpaAXEpaSQUAREpaNOTpaSUNqaAYpaMOONpaTREEpaLACKpaSTOPpaDEATH",
     "paWEAPONpaDO NOTpaCOMPAREpaFURpaCLANpaSTEAMpaWATERpaFIREpaCLAWpaFATHERpaDOUBLE X",
     "paHALF TREE TRUNKpaSLICEpaFANGpaCOWpaDOGpaPROFOUNDpaJADEpaMELONpaTILEpaSWEETpaLIFEpaUSE",
     "paFIELDpaBOLT OF CLOTHpaSICKNESSpaDOTTED TENTpaWHITEpaSKINpaDISHpaEYEpaSPEARpaARROWpaSTONE",
     "qaPIRITpaTRACKpaGRAINpaCAVEpaSTANDpaBAMBOOpaRICEpaSILKpaJARpaNETpaSHEEPpaFEATHERpaOLDpaAND",
     "paPLOWpaEARpaBRUSHpaMEATqaINISTERpaSELFpaARRIVEpaMORTARpaTONGUEpaOPPOSEpaBOATpaSTOPPING",
     "paCOLORpaGRASSpaTIGERpaINSECTpaBLOODpaWALK ENCLOSUREpaCLOTHESpaWESTpaSEEpaHORNpaSPEECH",
     "paVALLEYpaBEANpaPIGpaBADGERpaSHELLpaREDqaUNpaFOOTpaBODYpaCARTpaBITTERpaMORNINGpaWALKpaCITY",
     "paWINEpaDISTINGUISHpaVILLAGEpaGOLDpaLONGpaGATEpaMOUNDpaSLAVEqaHORT TAILED BIRDpaRAINpaBLUE",
     "paWRONGpaFACEpaLEATHERpaTANNED LEATHERpaLEEKpaSOUNDpaLEAFpaWINDpaFLYpaEATpaHEADpaFRAGRANT",
     "paHORSEpaBONEpaTALLpaHAIRpaFIGHTpaSACRIFICIAL WINEpaCAULDRONpaGHOSTpaFISHpaBIRDpaSALT",
     "paDEERpaWHEATpaHEMPpaYELLOWpaMILLETpaBLACKpaEMBROIDERYpaFROGpaTRIPODpaDRUMpaRATpaNOSE",
     "paEVENpaTOOTHpaDRAGONpaTURTLEpaFLUTE"]),
   (0x2FF0, ["aaIDEOGRAPHIC DESCRIPTION CHARACTER LEFT TO RIGHT+aABOVE TO BELOW",
     "+aLEFT TO MIDDLE AND RIGHT+aABOVE TO MIDDLE AND BELOW+aFULL SURROUND+aSURROUND FROM ABOVE",
     "~aBELOW~aLEFT~aUPPER LEFT~aUPPER RIGHT~aLOWER LEFT+aOVERLAID"]),
   (0x3000, ["aaIDEOGRAPHIC SPACEmaCOMMAmaFULL STOPaaDITTO MARK",
     "aaJAPANESE INDUSTRIAL STANDARD SYMBOLaaIDEOGRAPHIC ITERATION MARKmfCLOSINGmaNUMBER ZERO",
     "aaLEFT ANGLE BRACKETaoRIGHTaoLEFT DOUBLEavRIGHTaiLEFT CORNERapRIGHTapLEFT WHITEavRIGHT",
     "aiLEFT BLACK LENTICULARazRIGHTaaPOSTAL MARKafGETAaaLEFT TORTOISE SHELL BRACKETaxRIGHT",
     "aiLEFT WHITE LENTICULARazRIGHTaiLEFT WHITE TORTOISE SHELLa%RIGHTaiLEFT WHITE SQUAREavRIGHT",
     "aaWAVE DASHaaREVERSED DOUBLE PRIME QUOTATION MARKavDOUBLEavLOW DOUBLEaaPOSTAL MARK FACE",
     "aaHANGZHOU NUMERAL ONEraTWOsaHREEraFOURsaIVEraSIXsaEVENraEIGHTraNINE",
     "aaIDEOGRAPHIC LEVEL TONE MARKmkRISINGmkDEPARTINGmkENTERINGakHANGUL SINGLE DOThoDOUBLE",
     "aaWAVY DASHaaVERTICAL KANA REPEAT MARKvaWITH VOICED SOUND MARKvaMARK UPPER HALF",
     "vlWITH VOICED SOUND MARKvfMARK LOWERaaCIRCLED POSTAL MARK",
     "aaIDEOGRAPHIC TELEGRAPH LINE FEED SEPARATOR SYMBOLaaHANGZHOU NUMERAL TENsaWENTYsaHIRTY",
     "aaVERTICAL IDEOGRAPHIC ITERATION MARKafMASUafPART ALTERNATION",
     "aaIDEOGRAPHIC VARIATION INDICATORmaHALF FILL SPACE"]),
   (0x3041, ["aaHIRAGANA LETTER SMALL AqaAqaSMALL IqaIqaSMALL UqaUqaSMALL EqaEqaSMALL OqaOqaKA",
     "qaGAqaKIqaGIqaKUqaGUqaKEqaGEqaKOqaGOqaSAqaZAqaSIqaZIqaSUqaZUqaSEqaZEqaSOqaZOqaTAqaDAqaTI",
     "qaDIqaSMALL TUqaTUqaDUqaTEqaDEqaTOqaDOqaNAraIraUraEraOqaHAqaBAqaPAqaHIqaBIqaPIqaHUqaBUqaPU",
     "qaHEqaBEqaPEqaHOqaBOqaPOqaMAraIraUraEraOqaSMALL YAqaYAqaSMALL YUqaYUqaSMALL YOqaYOqaRAraI",
     "raUraEraOqaSMALL WAqaWAraIraEraOqaNqaVUqaSMALL KAxaE"]),
   (0x3099, ["aaCOMBINING KATAKANA-HIRAGANA VOICED SOUND MARK$lSEMI-VOICED",
     "alKATAKANA-HIRAGANA VOICEDslSEMI-VOICEDafHIRAGANA ITERATIONjfVOICED ITERATION",
     "jaDIGRAPH YORIaaKATAKANA-HIRAGANA DOUBLE HYPHENia LETTER SMALL AqaAqaSMALL IqaIqaSMALL U",
     "qaUqaSMALL EqaEqaSMALL OqaOqaKAqaGAqaKIqaGIqaKUqaGUqaKEqaGEqaKOqaGOqaSAqaZAqaSIqaZIqaSU",
     "qaZUqaSEqaZEqaSOqaZOqaTAqaDAqaTIqaDIqaSMALL TUqaTUqaDUqaTEqaDEqaTOqaDOqaNAraIraUraEraOqaHA",
     "qaBAqaPAqaHIqaBIqaPIqaHUqaBUqaPUqaHEqaBEqaPEqaHOqaBOqaPOqaMAraIraUraEraOqaSMALL YAqaYA",
     "qaSMALL YUqaYUqaSMALL YOqaYOqaRAraIraUraEraOqaSMALL WAqaWAraIraEraOqaNqaVUqaSMALL KAxaE",
     "qaVAraIraEraOjaMIDDLE DOTia-HIRAGANA PROLONGED SOUND MARKif ITERATIONjfVOICED ITERATION",
     "jaDIGRAPH KOTO"]),
   (0x3105, ["aaBOPOMOFO LETTER BqaPqaMqaFqaDqaTqaNqaLqaGqaKqaHqaJqaQqaXqaZHqaCHqaSHqaRqaZqaCqaS",
     "qaAqaOqaEraHqaAIqaEIqaAUqaOUqaANqaENqaANGqaENGraRqaIqaUqaIUqaVqaNGqaGNqaIH",
     "qaO WITH DOT ABOVEqaNN"]),
   (0x3131, ["aaHANGUL LETTER KIYEOKoaSSANGKIYEOKoaKIYEOK-SIOSoaNIEUNta-CIEUCuaHIEUHoaTIKEUT",
     "oaSSANGTIKEUToaRIEULta-KIYEOKuaMIEUMuaPIEUPuaSIOSuaTHIEUTHuaPHIEUPHuaHIEUHoaMIEUMoaPIEUP",
     "oaSSANGPIEUPoaPIEUP-SIOSoaSIOSpaSANGSIOSoaIEUNGoaCIEUCoaSSANGCIEUCoaCHIEUCHoaKHIEUKH",
     "oaTHIEUTHoaPHIEUPHoaHIEUHoaApaEoaYAqaEoaEOpaoaYEOqaoaOoaWAqaEoaOEoaYOoaUoaWEOqapaIoaYUoaEU",
     "oaYIoaIhaFILLERhaLETTER SSANGNIEUNoaNIEUN-TIKEUTuaSIOSuaPANSIOSoaRIEUL-KIYEOK-SIOSuaTIKEUT",
     "uaPIEUP-SIOSvaANSIOSuaYEORINHIEUHoaMIEUM-PIEUPuaSIOSuaPANSIOSoaKAPYEOUNMIEUMoaPIEUP-KIYEOK",
     "uaTIKEUTuaSIOS-KIYEOKzaTIKEUTuaCIEUCuaTHIEUTHoaKAPYEOUNPIEUPwaSSANGPIEUPoaSIOS-KIYEOK",
     "taNIEUNtaTIKEUTtaPIEUPtaCIEUCoaPANSIOSoaSSANGIEUNGoaYESIEUNGwa-SIOSxaPANSIOS",
     "oaKAPYEOUNPHIEUPHoaSSANGHIEUHoaYEORINHIEUHpaO-YAtaEraIpaU-YEOtaraIoaARAEAtaE"]),
   (0x3190, ["aaIDEOGRAPHIC ANNOTATION LINKING MARKxfREVERSExfONExfTWOyfHREExfFOURxfTOPxfMIDDLE",
     "xfBOTTOMxfFIRSTxfSECONDxfTHIRDxfFOURTHxfHEAVENxfEARTHxfMANaaBOPOMOFO LETTER BUqaZIqaJIqaGU",
     "qaEEraNNqaOOraNNqaIRqaANNqaINNqaUNNqaIMqaNGGqaAINNraUNNraMqaOMraNGqaINNNjaFINAL LETTER P",
     "waTwaKwaHjaLETTER GHqaLHqaZYjaFINAL LETTER GjaLETTER GWqaKWqaOEqaAHaaCJK STROKE TlaWGlaXG",
     "laBXGlaSWlaHZZnaGmaPmaZWGlaSZWGlaHZTnaZPmaPWGmaZWnaZZlaNlaHlaSlaPlaSPlaDlaHZmaGlaSZmaWZmaT",
     "maGlaPDmaZlaTNlaSZZmaWGlaHXWGmaZZZGlaPGlaQ"]),
   (0x31F0, ["aaKATAKANA LETTER SMALL KUwaSIxaUwaTOwaNUwaHAxaIxaUxaExaOwaMUwaRAxaIxaUxaExaO",
     "aaPARENTHESIZED HANGUL KIYEOKvaNIEUNvaTIKEUTvaRIEULvaMIEUMvaPIEUPvaSIOSvaIEUNGvaCIEUC",
     "waHIEUCHvaKHIEUKHvaTHIEUTHvaPHIEUPHvaHIEUHvaKIYEOK AvcNIEUNvcTIKEUTvcRIEULvcMIEUMvcPIEUP",
     "vcSIOSvcIEUNGvcCIEUCwcHIEUCHvcKHIEUKHvcTHIEUTHvcPHIEUPHvcHIEUHvaCIEUC U",
     "oaKOREAN CHARACTER OJEON)a HU"]),
   (0x3220, ["aaPARENTHESIZED IDEOGRAPH ONEyaTWOzaHREEyaFOURzaIVEyaSIXzaEVENyaEIGHTyaNINEyaTEN",
     "yaMOONyaFIREyaWATERzaOODyaMETALyaEARTHyaSUNzaTOCKyaHAVEyaSOCIETYyaNAMEyaSPECIALyaFINANCIAL",
     "yaCONGRATULATIONyaLABORyaREPRESENTyaCALLyaSTUDYzaUPERVISEyaENTERPRISEyaRESOURCEyaALLIANCE",
     "yaFESTIVALyaRESTyaSELFyaREACHaaCIRCLED IDEOGRAPH QUESTIONsaKINDERGARTENsaSCHOOLsaKOTO",
     "iaNUMBER TEN ON BLACK SQUAREqqWENTYqqHIRTYpqFORTYqqIFTYpqSIXTYqqEVENTYpqEIGHTY",
     "aaPARTNERSHIP SIGNaaCIRCLED NUMBER TWENTY ONEwaTWOxaHREEwaFOURxaIVEwaSIXxaEVENwaEIGHT",
     "waNINEqaHIRTYva ONEwaTWOxaHREEwaFOURxaIVEiaHANGUL KIYEOKpaNIEUNpaTIKEUTpaRIEULpaMIEUM",
     "paPIEUPpaSIOSpaIEUNGpaCIEUCqaHIEUCHpaKHIEUKHpaTHIEUTHpaPHIEUPHpaHIEUHpaKIYEOK ApcNIEUN",
     "pcTIKEUTpcRIEULpcMIEUMpcPIEUPpcSIOSpcIEUNGpcCIEUCqcHIEUCHpcKHIEUKHpcTHIEUTHpcPHIEUPH",
     "pcHIEUHiaKOREAN CHARACTER CHAMKOzaJUEUIiaHANGUL IEUNG UaaKOREAN STANDARD SYMBOL",
     "aaCIRCLED IDEOGRAPH ONEsaTWOtaHREEsaFOURtaIVEsaSIXtaEVENsaEIGHTsaNINEsaTENsaMOONsaFIRE",
     "saWATERtaOODsaMETALsaEARTHsaSUNtaTOCKsaHAVEsaSOCIETYsaNAMEsaSPECIALsaFINANCIAL",
     "saCONGRATULATIONsaLABORsaSECRETsaMALEsaFEMALEsaSUITABLEsaEXCELLENTsaPRINTsaATTENTIONsaITEM",
     "saRESTsaCOPYuaRRECTsaHIGHsaCENTREsaLOWtaEFTsaRIGHTsaMEDICINEsaRELIGIONsaSTUDYtaUPERVISE",
     "saENTERPRISEsaRESOURCEsaALLIANCEsaNIGHTiaNUMBER THIRTY SIXxaEVENwaEIGHTwaNINEpaFORTYua ONE",
     "vaTWOwaHREEvaFOURwaIVEvaSIXwaEVENvaEIGHTvaNINEqaIFTY",
     "aaIDEOGRAPHIC TELEGRAPH SYMBOL FOR JANUARY*aFEBRUARY*aMARCH*aAPRIL*aMAY*aJUNE,aLY*aAUGUST",
     "*aSEPTEMBER*aOCTOBER*aNOVEMBER*aDECEMBERaaSQUARE HGhaERGiaVaaLIMITED LIABILITY SIGN",
     "aaCIRCLED KATAKANA AraIraUraEraOraKAsaIsaUsaEsaOraSAsaIsaUsaEsaOraTAsaIsaUsaEsaOraNAsaIsaU",
     "saEsaOraHAsaIsaUsaEsaOraMAsaIsaUsaEsaOraYAsaUsaOraRAsaIsaUsaEsaOraWAsaIsaEsaO",
     "aaSQUARE ERA NAME REIWAhaAPAATOiaRUHUAiaNPEAiaARUhaININGUjaTIhaUONhaESUKUUDOiaEKAAhaONSU",
     "iaOMUhaKAIRIjaRATTOkaORIIhaGARONjaNMAiaIGAjaNIIhaKYURIIhaGIRUDAAhaKIROlaGURAMUlaMEETORU",
     "laWATTOhaGURAMUnaTONhaKURUZEIROkaOONEiaEESUiaORUNAjaOPOhaSAIKURUjaNTIIMUiaIRINGUiaENTIlaO",
     "haDAASUiaESIiaORUhaTONhaNANOiaOTTOhaHAITUhaPAASENTOkaTUhaBAARERUhaPIASUTORUjaKURUkaOhaBIRU",
     "haHUARADDOjaIITOhaBUSSYERUhaHURANiaEKUTAARUhaPESOjaNIHIhaHERUTUhaPENSUjaEZIhaBEETAhaPOINTO",
     "haBORUTOhaHONhaPONDOhaHOORUkaNhaMAIKUROkaRUjaHHAjaRUKUjaNSYONiaIKURONjaRIlaBAARUiaEGAlaTON",
     "jaETORUhaYAADOkaRUiaUANhaRITTORUjaRAiaUPIIjaUBURUiaEMUjaNTOGENhaWATTO",
     "aaIDEOGRAPHIC TELEGRAPH SYMBOL FOR HOUR ZERO;aONE;aTWO<aHREE;aFOUR<aIVE;aSIX<aEVEN;aEIGHT",
     ";aNINE;aTEN;aELEVEN;aTWELVE<aHIRTEEN;aFOURTEEN<aIFTEEN;aSIXTEEN<aEVENTEEN;aEIGHTEEN",
     ";aNINETEEN;aTWENTY]a-ONE^aTWO_aHREE^aFOURaaSQUARE HPAhaDAhaAUhaBARhaOVhaPChaDMja SQUARED",
     "kaCUBEDhaIUhaERA NAME HEISEIqaSYOUWAqaTAISYOUqaMEIZIhaCORPORATIONhaPA AMPShaNAhaMU AiaA",
     "haKAiaBhaMBhaGBhaCALhaKCALhaPFhaNFhaMU FkaGiaGhaKGhaHZhaKHZhaMHZhaGHZhaTHZhaMU LiaLhaDL",
     "haKLhaFMhaNMhaMU MiaMhaCMhaKMhaMM SQUAREDhiCMhiMhiKMhaMM CUBEDhgCMhgMhgKMhaM OVER S",
     "pa SQUAREDhaPAhaKPAhaMPAhaGPAhaRADka OVER Sra SQUAREDhaPShaNShaMU SiaShaPVhaNVhaMU ViaV",
     "haKVhaMV MEGAhaPWhaNWhaMU WiaWhaKWhaMW MEGAhaK OHMheMhaAMhaBQhaCCiaDia OVER KGiaOhaDBhaGY",
     "haHAiaPhaINhaKKiaM CAPITALiaThaLMiaNiaOGiaXhaMB SMALLiaILiaOLhaPHiaMiaPMiaRhaSRiaVhaWB",
     "haV OVER MhhAaaIDEOGRAPHIC TELEGRAPH SYMBOL FOR DAY ONE:aTWO;aHREE:aFOUR;aIVE:aSIX;aEVEN",
     ":aEIGHT:aNINE:aTEN:aELEVEN:aTWELVE;aHIRTEEN:aFOURTEEN;aIFTEEN:aSIXTEEN;aEVENTEEN:aEIGHTEEN",
     ":aNINETEEN:aTWENTY[a-ONE]aTWO^aHREE]aFOUR^aIVE]aSIX^aEVEN]aEIGHT]aNINE;aHIRTY[a-ONE",
     "aaSQUARE GAL"]),
   (0x4DC0, ["aaHEXAGRAM FOR THE CREATIVE HEAVENraRECEPTIVE EARTHnaDIFFICULTY AT THE BEGINNING",
     "naYOUTHFUL FOLLYnaWAITINGnaCONFLICTnaTHE ARMYnaHOLDING TOGETHERnaSMALL TAMINGnaTREADING",
     "naPEACEnaSTANDSTILLnaFELLOWSHIPnaGREAT POSSESSIONnaMODESTYnaENTHUSIASMnaFOLLOWING",
     "naWORK ON THE DECAYEDnaAPPROACHnaCONTEMPLATIONnaBITING THROUGHnaGRACEnaSPLITTING APART",
     "naRETURNnaINNOCENCEnaGREAT TAMINGnaMOUTH CORNERSnaGREAT PREPONDERANCEnaTHE ABYSMAL WATER",
     "raCLINGING FIREnaINFLUENCEnaDURATIONnaRETREATnaGREAT POWERnaPROGRESS",
     "naDARKENING OF THE LIGHTnaTHE FAMILYnaOPPOSITIONoaBSTRUCTIONnaDELIVERANCEpaCREASE",
     "naINCREASEnaBREAKTHROUGHnaCOMING TO MEETnaGATHERING TOGETHERnaPUSHING UPWARDnaOPPRESSION",
     "naTHE WELLnaREVOLUTIONnaTHE CAULDRONraAROUSING THUNDERraKEEPING STILL MOUNTAIN",
     "naDEVELOPMENTnaTHE MARRYING MAIDENnaABUNDANCEnaTHE WANDERERraGENTLE WINDraJOYOUS LAKE",
     "naDISPERSIONnaLIMITATIONnaINNER TRUTHnaSMALL PREPONDERANCEnaAFTER COMPLETIONnlBEFORE"])]

end Intake.Text
