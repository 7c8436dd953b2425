import Intake.Text.CharName.Basic

/-!
# Names of characters: U+2000 to U+29FF

The names of punctuation, arrows, signs of mathematics, boxes and shapes.

## Main definitions

* `symbolNames` — the runs of names.
-/

namespace Intake.Text

/-- The names of the characters U+2000 to U+29FF. -/
def symbolNames : List NameRun :=
  [(0x2000, ["aaEN QUADbfMbaN SPACEbgMagTHREE-PER-EManFOURanSIXagFIGUREagPUNCTUATIONagTHINagHAIR",
     "agZERO WIDTHlaNON-JOINERlaJOINERaaLEFT-TO-RIGHT MARKafRIGHT-TO-LEFTaaHYPHEN",
     "aaNON-BREAKING HYPHENaaFIGURE DASHafENbfMaaHORIZONTAL BARaaDOUBLE VERTICAL LINEhfLOW",
     "aaLEFT SINGLE QUOTATION MARKawRIGHTapSINGLE LOW-9hrHIGH-REVERSEDapLEFT DOUBLEawRIGHT",
     "apDOUBLE LOW-9hrHIGH-REVERSEDbaAGGERbaOUBLE DAGGERaaBULLETaaTRIANGULAR BULLET",
     "aaONE DOT LEADERalTWOaaHORIZONTAL ELLIPSISbaYPHENATION POINTaaLINE SEPARATORakPARAGRAPH",
     "aaLEFT-TO-RIGHT EMBEDDINGakRIGHT-TO-LEFTaaPOP DIRECTIONAL FORMATTING",
     "aaLEFT-TO-RIGHT OVERRIDEajRIGHT-TO-LEFTaaNARROW NO-BREAK SPACEaaPER MILLE SIGN",
     "efTEN THOUSANDbaRIMEaaDOUBLE PRIMEagTRIPLEagREVERSEDjaDOUBLE PRIMEjgTRIPLEaaCARET",
     "aaSINGLE LEFT-POINTING ANGLE QUOTATION MARKh&RIGHTafREFERENCEafDOUBLE EXCLAMATION",
     "aaINTERROBANGaaOVERLINEaaUNDERTIEaaCHARACTER TIEbaARET INSERTION POINTaaASTERISM",
     "aaHYPHEN BULLETaaFRACTION SLASHaaLEFT SQUARE BRACKET WITH QUILLa!RIGHT",
     "aaDOUBLE QUESTION MARKafQUESTION EXCLAMATIONafEXCLAMATION QUESTIONaaTIRONIAN SIGN ET",
     "aaREVERSED PILCROW SIGNaaBLACK LEFTWARDS BULLETghRIGHTWARDSaaLOW ASTERISK",
     "aaREVERSED SEMICOLONaaCLOSE UPaaTWO ASTERISKS ALIGNED VERTICALLYaaCOMMERCIAL MINUS SIGN",
     "aaSWUNG DASHaaINVERTED UNDERTIEaaFLOWER PUNCTUATION MARKaaTHREE DOT PUNCTUATION",
     "aaQUADRUPLE PRIMEaaFOUR DOT PUNCTUATIONbqIVEaqTWOaaFOUR DOT MARKaaDOTTED CROSSaaTRICOLON",
     "aaVERTICAL FOUR DOTSaaMEDIUM MATHEMATICAL SPACEaaWORD JOINERaaFUNCTION APPLICATION",
     "aaINVISIBLE TIMESkaSEPARATORkaPLUS"]),
   (0x2066, ["aaLEFT-TO-RIGHT ISOLATEaiRIGHT-TO-LEFTaiFIRST STRONGaiPOP DIRECTIONAL",
     "aaINHIBIT SYMMETRIC SWAPPINGatACTIVATEaaINHIBIT ARABIC FORM SHAPINGauACTIVATE",
     "aaNATIONAL DIGIT SHAPESbnOMINALaaSUPERSCRIPT ZEROmaLATIN SMALL LETTER I"]),
   (0x2074, ["aaSUPERSCRIPT FOURnaIVEmaSIXnaEVENmaEIGHTmaNINEmaPLUS SIGNmaMINUSmaEQUALS SIGN",
     "maLEFT PARENTHESISmmRIGHTmaLATIN SMALL LETTER NcaBSCRIPT ZEROkaONEkaTWOlaHREEkaFOURlaIVE",
     "kaSIXlaEVENkaEIGHTkaNINEkaPLUS SIGNkaMINUSkaEQUALS SIGNkaLEFT PARENTHESISkmRIGHT"]),
   (0x2090, ["aaLATIN SUBSCRIPT SMALL LETTER A%aE%aO%aX%aSCHWA%aH%aK%aL%aM%aN%aP%aS%aT"]),
   (0x20A0, ["aaEURO-CURRENCY SIGNafCOLONbfRUZEIROafFRENCH FRANCafLIRAafMILLafNAIRAafPESETA",
     "afRUPEEafWONafNEW SHEQELafDONGafEUROafKIPafTUGRIKafDRACHMAafGERMAN PENNYafPESOafGUARANI",
     "afAUSTRALafHRYVNIAafCEDIafLIVRE TOURNOISafSPESMILOafTENGEafINDIAN RUPEEafTURKISH LIRA",
     "afNORDIC MARKafMANATafRUBLEafLARIafBITCOINafSOM"]),
   (0x20D0, ["aaCOMBINING LEFT HARPOON ABOVEkoRIGHTkaLONG VERTICAL LINE OVERLAYkwSHORT",
     "kaANTICLOCKWISE ARROW ABOVEkmCLOCKWISEkmLEFTkmRIGHTmaNG OVERLAYkiCLOCKWISE RING",
     "knANTICLOCKWISEkaTHREE DOTS ABOVEklFOURkaENCLOSING CIRCLEuaSQUAREuaDIAMOND",
     "uaCIRCLE BACKSLASHkaLEFT RIGHT ARROW ABOVEkaENCLOSING SCREENuaKEYCAP",
     "uaUPWARD POINTING TRIANGLEkaREVERSE SOLIDUS OVERLAYkiDOUBLE VERTICAL STROKE",
     "kaANNUITY SYMBOLkaTRIPLE UNDERDOTkaWIDE BRIDGE ABOVEkaLEFTWARDS ARROW OVERLAY",
     "liONG DOUBLE SOLIDUSkaRIGHTWARDS HARPOON WITH BARB DOWNWARDSk$LEFTWARDSoa ARROW BELOW",
     "kmRIGHTkaASTERISK ABOVE"]),
   (0x2100, ["aaACCOUNT OFbaDDRESSED TO THE SUBJECTaaDOUBLE-STRUCK CAPITAL CbaEGREE CELSIUS",
     "aaCENTRE LINE SYMBOLbaARE OFcaDA UNAaaEULER CONSTANTaaSCRUPLEaaDEGREE FAHRENHEIT",
     "aaSCRIPT SMALL GhaCAPITAL HakBLACK-LETTERakDOUBLE-STRUCKaaPLANCK CONSTANTpa OVER TWO PI",
     "aaSCRIPT CAPITAL IakBLACK-LETTERaaSCRIPT CAPITAL LhcSMALLaaL B BAR SYMBOL",
     "aaDOUBLE-STRUCK CAPITAL NaaNUMERO SIGNaaSOUND RECORDING COPYRIGHTbaCRIPT CAPITAL P",
     "akDOUBLE-STRUCKwaQaaSCRIPT CAPITAL RakBLACK-LETTERakDOUBLE-STRUCKaaPRESCRIPTION TAKE",
     "aaRESPONSEaaSERVICE MARKaaTELEPHONE SIGNbfRADE MARKaaVERSICLEaaDOUBLE-STRUCK CAPITAL Z",
     "aaOUNCE SIGNbfHMafINVERTED OHMaaBLACK-LETTER CAPITAL ZaaTURNED GREEK SMALL LETTER IOTA",
     "aaKELVIN SIGNafANGSTROMaaSCRIPT CAPITAL BaaBLACK-LETTER CAPITAL CaaESTIMATED SYMBOL",
     "aaSCRIPT SMALL EhcCAPITALpaFakTURNEDaaSCRIPT CAPITAL MhaSMALL OaaALEF SYMBOLahBETahGIMEL",
     "ahDALETaaINFORMATION SOURCEaaROTATED CAPITAL QaaFACSIMILE SIGNaaDOUBLE-STRUCK SMALL PI",
     "uaGAMMAogCAPITALwaPIoaN-ARY SUMMATIONaaTURNED SANS-SERIF CAPITAL G!aLavREVERSED",
     "aaTURNED SANS-SERIF CAPITAL YaaDOUBLE-STRUCK ITALIC CAPITAL DvcSMALL#aE#aI#aJ",
     "aaPROPERTY LINEaaTURNED AMPERSANDaaPER SIGNaaAKTIESELSKABaaTURNED SMALL F",
     "aaSYMBOL FOR SAMARITAN SOURCEaaVULGAR FRACTION ONE SEVENTHuaNINTHuaTENTHvaHIRDqaTWO THIRDS",
     "qaONE FIFTHqaTWO FIFTHSrhHREEqhFOURqaONE SIXTHqaFIVE SIXTHSqaONE EIGHTHqaTHREE EIGHTHS",
     "qiFIVEqiSEVENaaFRACTION NUMERATOR ONEaeROMAN NUMERALoaTWOpaHREEoaFOURpaIVEoaSIXpaEVEN",
     "oaEIGHToaNINEoaTENoaELEVENoaTWELVEoaFIFTYoaONE HUNDREDoiFIVEoaONE THOUSAND",
     "aaSMALL ROMAN NUMERAL ONEuaTWOvaHREEuaFOURvaIVEuaSIXvaEVENuaEIGHTuaNINEuaTENuaELEVEN",
     "uaTWELVEuaFIFTYuaONE HUNDREDuiFIVEuaONE THOUSANDaaROMAN NUMERAL ONE THOUSAND C D",
     "oaFIVE THOUSANDojTENoaREVERSED ONE HUNDREDaaLATIN SMALL LETTER REVERSED C",
     "aaROMAN NUMERAL SIX LATE FORMofFIFTY EARLYuaTHOUSANDojONE HUNDRED",
     "aaVULGAR FRACTION ZERO THIRDSaaTURNED DIGIT TWOoaHREE"]),
   (0x2190, ["aaLEFTWARDS ARROWagUPWARDSagRIGHTWARDSagDOWNWARDSagLEFT RIGHTagUP DOWNagNORTH WEST",
     "ggEASTalSOUTHggWESTaaLEFTWARDS ARROW WITH STROKEasRIGHTWARDSaaLEFTWARDS WAVE ARROW",
     "alRIGHTWARDSagLEFTWARDS TWO HEADEDarUPWARDSarRIGHTWARDSarDOWNWARDS",
     "aaLEFTWARDS ARROW WITH TAILaqRIGHTWARDSaaLEFTWARDS ARROW FROM BARapUPWARDSapRIGHTWARDS",
     "apDOWNWARDSaaUP DOWN ARROW WITH BASEaaLEFTWARDS ARROW WITH HOOKaqRIGHTWARDS",
     "aaLEFTWARDS ARROW WITH LOOPaqRIGHTWARDSaaLEFT RIGHT WAVE ARROWlaARROW WITH STROKE",
     "aaDOWNWARDS ZIGZAG ARROWaaUPWARDS ARROW WITH TIP LEFTWARDSxaRIGHTWARDS",
     "aaDOWNWARDS ARROW WITH TIP LEFTWARDSzaRIGHTWARDSaaRIGHTWARDS ARROW WITH CORNER DOWNWARDS",
     "aaDOWNWARDS ARROW WITH CORNER LEFTWARDSaaANTICLOCKWISE TOP SEMICIRCLE ARROWavCLOCKWISE",
     "aaNORTH WEST ARROW TO LONG BARaeLEFTWARDS ARROW TO BAR OVER RIGHTWARDS ARROW TO",
     "aaANTICLOCKWISE OPEN CIRCLE ARROWasCLOCKWISEaaLEFTWARDS HARPOON WITH BARB UPWARDS",
     "$aDOWNWARDSaaUPWARDS HARPOON WITH BARB RIGHTWARDS!aLEFTWARDS",
     "aaRIGHTWARDS HARPOON WITH BARB UPWARDS%aDOWNWARDSaaDOWNWARDS HARPOON WITH BARB RIGHTWARDS",
     "$aLEFTWARDSaaRIGHTWARDS ARROW OVER LEFTWARDS ARROWagUPWARDS ARROW LEFTWARDS OF DOWNWARDS",
     "agLEFTWARDS ARROW OVER RIGHTWARDSkaPAIRED ARROWSaoUPWARDSaoRIGHTWARDSaoDOWNWARDS",
     "aaLEFTWARDS HARPOON OVER RIGHTWARDS HARPOONaiRIGHTWARDS HARPOON OVER LEFTWARDS",
     "aaLEFTWARDS DOUBLE ARROW WITH STROKEez RIGHTazRIGHTWARDSaaLEFTWARDS DOUBLE ARROWanUPWARDS",
     "anRIGHTWARDSanDOWNWARDSanLEFT RIGHTanUP DOWNanNORTH WESTgnEASTasSOUTHgnWEST",
     "agLEFTWARDS TRIPLEanRIGHTWARDSagLEFTWARDS SQUIGGLEapRIGHTWARDS",
     "aaUPWARDS ARROW WITH DOUBLE STROKEazDOWNWARDSaaLEFTWARDS DASHED ARROWanUPWARDSanRIGHTWARDS",
     "anDOWNWARDSaaLEFTWARDS ARROW TO BARanRIGHTWARDSaaLEFTWARDS WHITE ARROWamUPWARDS",
     "amRIGHTWARDSamDOWNWARDSaaUPWARDS WHITE ARROW FROM BARuaON PEDESTAL(a WITH HORIZONTAL BAR",
     ":eVERTICALoaDOUBLE ARROW!a ON PEDESTALaaRIGHTWARDS WHITE ARROW FROM WALL",
     "aaNORTH WEST ARROW TO CORNERaqSOUTH EASTaaUP DOWN WHITE ARROW",
     "aaRIGHT ARROW WITH SMALL CIRCLEaaDOWNWARDS ARROW LEFTWARDS OF UPWARDS ARROW",
     "aaTHREE RIGHTWARDS ARROWSaaLEFTWARDS ARROW WITH VERTICAL STROKEa#RIGHTWARDSa#LEFT RIGHT",
     "eqWARDS ARROW WITH DOUBLEa+RIGHTWARDSa+LEFT RIGHTeaWARDS OPEN-HEADED ARROWasRIGHTWARDS",
     "asLEFT RIGHTaaFOR ALLaaCOMPLEMENTaaPARTIAL DIFFERENTIALaaTHERE EXISTSgaDOES NOT EXIST",
     "aaEMPTY SETaaINCREMENTaaNABLAaaELEMENT OFadNOT AN ELEMENTalSMALLaaCONTAINS AS MEMBER",
     "akDOES NOT CONTAINakSMALL CONTAINSaaEND OF PROOFaaN-ARY PRODUCTgaCOPRODUCTgaSUMMATION",
     "aaMINUS SIGNff-OR-PLUSaaDOT PLUSbaIVISION SLASHaaSET MINUSaaASTERISK OPERATORajRING",
     "ajBULLETaaSQUARE ROOTafCUBEafFOURTHaaPROPORTIONAL TOaaINFINITYaaRIGHT ANGLEaaANGLE",
     "aaMEASURED ANGLEagSPHERICALaaDIVIDESbaOES NOT DIVIDEaaPARALLEL TOadNOT PARALLEL",
     "aaLOGICAL ANDiaORaaINTERSECTIONaaUNIONaaINTEGRALaaDOUBLE INTEGRALajTRIPLEajCONTOUR",
     "ajSURFACEajVOLUMEajCLOCKWISEkaCONTOUR INTEGRALarANTICLOCKWISEaaTHEREFOREaaBECAUSEaaRATIO",
     "aaPROPORTIONaaDOT MINUSaaEXCESSaaGEOMETRIC PROPORTIONaaHOMOTHETICaaTILDE OPERATOR",
     "aaREVERSED TILDEaaINVERTED LAZY SaaSINE WAVEaaWREATH PRODUCTaaNOT TILDEagMINUS",
     "aaASYMPTOTICALLY EQUAL TOajNOT ASYMPTOTICALLYajAPPROXIMATELYodBUT NOT ACTUALLY EQUAL",
     "asNEITHER APPROXIMATELY NORajALMOSTajNOT ALMOSTajALMOST EQUAL ORaaTRIPLE TILDE",
     "aaALL EQUAL TOadEQUIVALENTadGEOMETRICALLY EQUIVALENTaaDIFFERENCE BETWEEN",
     "aaAPPROACHES THE LIMITaaGEOMETRICALLY EQUAL TOaaAPPROXIMATELY EQUAL TO OR THE IMAGE OF",
     "aaIMAGE OF OR APPROXIMATELY EQUAL TOaaCOLON EQUALSaaEQUALS COLONaaRING IN EQUAL TOfdEQUAL",
     "adCORRESPONDSaaESTIMATESbaQUIANGULAR TOaaSTAR EQUALSaaDELTA EQUAL TO",
     "aaEQUAL TO BY DEFINITIONaaMEASURED BYaaQUESTIONED EQUAL TOajNOTadIDENTICALadNOT IDENTICAL",
     "adSTRICTLY EQUIVALENTadLESS-THAN OR EQUALarGREATERajLESS-THAN OVERatGREATER",
     "ajLESS-THAN BUT NOTawGREATERaaMUCH LESS-THANffGREATERaaBETWEENaaNOT EQUIVALENT TO",
     "eaLESS-THANefGREATERbaEITHER LESS-THAN NOR EQUAL TOisGREATERadLESS-THAN OR EQUIVALENT",
     "awGREATERaoNEITHER LESS-THAN NORixGREATERaaLESS-THAN OR GREATER-THANafGREATER-THAN OR LESS",
     "afNEITHER LESS-THAN NOR GREATERifGREATER-THAN NOR LESSaaPRECEDESaaSUCCEEDS",
     "aaPRECEDES OR EQUAL TOamSUCCEEDSadPRECEDES OR EQUIVALENTarSUCCEEDSaaDOES NOT PRECEDE",
     "jaSUCCEEDaaSUBSET OFcdPERSETadNOT A SUBSETidPERSETaaSUBSET OF OR EQUAL TOcpPERSET",
     "ajNEITHER A SUBSET OF NORmqPERSETajSUBSET OF WITH NOTcvPERSETaaMULTISETia MULTIPLICATION",
     "jaUNIONaaSQUARE IMAGE OFhdORIGINALhaIMAGE OF OR EQUAL TOhpORIGINALhaCAPiaUPaaCIRCLED PLUS",
     "iaMINUSiaTIMESiaDIVISION SLASHjaOT OPERATORijRINGijASTERISKiaEQUALSiaDASHaaSQUARED PLUS",
     "iaMINUSiaTIMESiaDOT OPERATORaaRIGHT TACKafLEFTafDOWNafUPaaASSERTIONaaMODELSaaTRUEaaFORCES",
     "aaTRIPLE VERTICAL BAR RIGHT TURNSTILEaqDOUBLE VERTICAL BAR DOUBLEcaES NOT PROVEaaNOT TRUE",
     "aaDOES NOT FORCEaaNEGATED DOUBLE VERTICAL BAR DOUBLE RIGHT TURNSTILE",
     "aaPRECEDES UNDER RELATIONapSUCCEEDSaaNORMAL SUBGROUP OFaaCONTAINS AS NORMAL SUBGROUP",
     "aaNORMAL SUBGROUP OF OR EQUAL TOamCONTAINS AS NORMAL SUBGROUPaaORIGINAL OFadIMAGE",
     "aaMULTIMAPaaHERMITIAN CONJUGATE MATRIXaaINTERCALATEaaXORaaNANDbaORaaRIGHT ANGLE WITH ARC",
     "gaTRIANGLEaaN-ARY LOGICAL ANDoaORgaINTERSECTIONgaUNIONaaDIAMOND OPERATORbjOTajSTAR",
     "aaDIVISION TIMESaaBOWTIEaaLEFT NORMAL FACTOR SEMIDIRECT PRODUCTa*RIGHTatLEFTatRIGHT",
     "baEVERSED TILDE EQUALSaaCURLY LOGICAL ORoaANDaaDOUBLE SUBSETjaPERSEThaINTERSECTIONhaUNION",
     "aaPITCHFORKaaEQUAL AND PARALLEL TOaaLESS-THAN WITH DOTaoGREATERaaVERY MUCH LESS-THAN",
     "kfGREATERanLESS-THAN EQUAL TO ORafGREATER-THAN EQUAL TO OR LESSaqEQUALmfGREATERmaPRECEDES",
     "maSUCCEEDSaaDOES NOT PRECEDE OR EQUALjjSUCCEEDaaNOT SQUARE IMAGE OF OR EQUAL TOlpORIGINAL",
     "ajSQUARE IMAGE OF OR NOThtORIGINALadLESS-THAN BUT NOT EQUIVALENTa#GREATERawPRECEDES",
     "awSUCCEEDSaaNOT NORMAL SUBGROUP OFaaDOES NOT CONTAIN AS NORMAL SUBGROUP",
     "aaNOT NORMAL SUBGROUP OF OR EQUAL TOaaDOES NOT CONTAIN AS NORMAL SUBGROUP OR EQUAL",
     "aaVERTICAL ELLIPSISajMIDLINE HORIZONTALajUP RIGHT DIAGONALayDOWN",
     "aaELEMENT OF WITH LONG HORIZONTAL STROKEqsVERTICAL BAR AT END OFa_SMALL ELEMENT OF",
     "aaELEMENT OF WITH DOT ABOVEqaOVERBARaqSMALL ELEMENTaaELEMENT OF WITH UNDERBAR",
     "qaTWO HORIZONTAL STROKESaaCONTAINS WITH LONG HORIZONTAL STROKEosVERTICAL BAR AT END OF",
     "a_SMALL CONTAINSaaCONTAINS WITH OVERBARanSMALL CONTAINSaaZ NOTATION BAG MEMBERSHIP",
     "aaDIAMETER SIGNaaELECTRIC ARROWaaHOUSEaaUP ARROWHEADakDOWNaaPROJECTIVEbaERSPECTIVE",
     "aaWAVY LINEaaLEFT CEILINGaiRIGHTaaLEFT FLOORagRIGHTaaBOTTOM RIGHT CROPhfLEFTafTOP RIGHT",
     "efLEFTaaREVERSED NOT SIGNaaSQUARE LOZENGEaaARCaaSEGMENTcaCTORaaTELEPHONE RECORDER",
     "aaPOSITION INDICATORaaVIEWDATA SQUAREaaPLACE OF INTEREST SIGNafTURNED NOTaaWATCH",
     "aaHOURGLASSaaTOP LEFT CORNERehRIGHTahBOTTOM LEFThhRIGHTaaTOP HALF INTEGRALaoBOTTOMaaFROWN",
     "aaSMILEaaUP ARROWHEAD BETWEEN TWO HORIZONTAL BARSaaOPTION KEYaaERASE TO THE RIGHT",
     "aaX IN A RECTANGLE BOXaaKEYBOARDaaLEFT-POINTING ANGLE BRACKETaxRIGHTaaERASE TO THE LEFT",
     "aaBENZENE RINGaaCYLINDRICITYaaALL AROUND-PROFILEaaSYMMETRYaaTOTAL RUNOUTaaDIMENSION ORIGIN",
     "aaCONICAL TAPERaaSLOPEaaCOUNTERBOREhaSINKaaAPL FUNCTIONAL SYMBOL I-BEAMwaSQUISH QUAD",
     "waQUAD EQUAL#aDIVIDE%aAMOND#aJOT#aCIRCLEwaCIRCLE STILE%aJOTwaSLASH BARweBACKSLASH",
     "waQUAD SLASH#aBACKSLASH#aLESS-THAN#fGREATERwaLEFTWARDS VANEwfRIGHTWARDS",
     "waQUAD LEFTWARDS ARROW#gRIGHTWARDSwaCIRCLE BACKSLASHwaDOWN TACK UNDERBARxaELTA STILE",
     "waQUAD DOWN CARET$aELTAwaDOWN TACK JOTwaUPWARDS VANEwaQUAD UPWARDS ARROWwaUP TACK OVERBAR",
     "waDEL STILEwaQUAD UP CARET#aDELwaUP TACK JOTwaDOWNWARDS VANEwaQUAD DOWNWARDS ARROW",
     "yaOTE UNDERBARwjDELTAxjIAMONDwjJOTwjCIRCLEwaUP SHOE JOTwaQUOTE QUADwaCIRCLE STAR",
     "waQUAD COLONwaUP TACK DIAERESISwkDELwkSTARwkJOTwkCIRCLEwaDOWN SHOE STILEwlLEFT",
     "waTILDE DIAERESISwkGREATER-THANwaCOMMA BARwaDEL TILDEwaZILDEwaSTILE TILDE",
     "xaEMICOLON UNDERBARwaQUAD NOT EQUAL#aQUESTIONwaDOWN CARET TILDEwmUPwaIOTAwaRHOwaOMEGA",
     "waALPHA UNDERBARwjEPSILONwjIOTAwjOMEGAwaALPHAaaNOT CHECK MARK",
     "aaRIGHT ANGLE WITH DOWNWARDS ZIGZAG ARROWaaSHOULDERED OPEN BOXaaBELL SYMBOL",
     "aaVERTICAL LINE WITH MIDDLE DOTaaINSERTION SYMBOLahCONTINUOUS UNDERLINEarDISCONTINUOUS",
     "ahEMPHASISahCOMPOSITIONaaWHITE SQUARE WITH CENTRE VERTICAL LINEaaENTER SYMBOL",
     "ahALTERNATIVE KEYahHELMaaCIRCLED HORIZONTAL BAR WITH NOTCHiaTRIANGLE DOWN",
     "aaBROKEN CIRCLE WITH NORTHWEST ARROWaaUNDO SYMBOLahMONOSTABLEahHYSTERESIS",
     "ahOPEN-CIRCUIT-OUTPUT H-TYPEumLahPASSIVE-PULL-DOWN-OUTPUTnoUP",
     "aaDIRECT CURRENT SYMBOL FORM TWOaaSOFTWARE-FUNCTION SYMBOLaaAPL FUNCTIONAL SYMBOL QUAD",
     "aaDECIMAL SEPARATOR KEY SYMBOLaaPREVIOUS PAGEafNEXTaaPRINT SCREEN SYMBOLaoCLEAR",
     "aaLEFT PARENTHESIS UPPER HOOKraEXTENSIONraLOWER HOOKafRIGHT PARENTHESIS UPPERsaEXTENSION",
     "saLOWER HOOKaaLEFT SQUARE BRACKET UPPER CORNERuaEXTENSIONuaLOWER CORNER",
     "ahRIGHT SQUARE BRACKET UPPERvaEXTENSIONvaLOWER CORNERaaLEFT CURLY BRACKET UPPER HOOK",
     "taMIDDLE PIECEtaLOWER HOOKaaCURLY BRACKET EXTENSIONaaRIGHT CURLY BRACKET UPPER HOOK",
     "uaMIDDLE PIECEuaLOWER HOOKaaINTEGRAL EXTENSIONakHORIZONTAL LINE",
     "aaUPPER LEFT OR LOWER RIGHT CURLY BRACKET SECTIONgwRIGHT OR LOWER LEFTaaSUMMATION TOP",
     "kaBOTTOMaaTOP SQUARE BRACKETapBOTTOMva OVER TOP SQUARE BRACKETaaRADICAL SYMBOL BOTTOM",
     "aaLEFT VERTICAL BOX LINEasRIGHTaaHORIZONTAL SCAN LINE-1va3va7va9",
     "aaDENTISTRY SYMBOL LIGHT VERTICAL AND TOP RIGHT.gBOTTOM)aWITH CIRCLExmDOWN AND HORIZONTAL",
     "x#UPxaVERTICAL WITH TRIANGLExoDOWN AND HORIZONTALx%UPxaVERTICAL AND WAVE",
     "xfDOWN AND HORIZONTAL WITHxzUPxaDOWN AND HORIZONTALxpUPxaVERTICAL AND TOP LEFT.fBOTTOM",
     "aaSQUARE FOOTaaRETURN SYMBOLahEJECTaaVERTICAL LINE EXTENSIONaaMETRICAL BREVE",
     "jaLONG OVER SHORTjaSHORT OVER LONGjaLONG OVER TWO SHORTSjaTWO SHORTS OVER LONGuaJOINED",
     "kaRISEMEkaETRASEMEjaPENTASEMEaaEARTH GROUNDaaFUSEaaTOP PARENTHESISamBOTTOM",
     "aaTOP CURLY BRACKETaoBOTTOMaiTOP TORTOISE SHELLaxBOTTOMaaWHITE TRAPEZIUM",
     "aaBENZENE RING WITH CIRCLEaaSTRAIGHTNESSaaFLATNESSaaAC CURRENTaaELECTRICAL INTERSECTION",
     "aaDECIMAL EXPONENT SYMBOLaaBLACK RIGHT-POINTING DOUBLE TRIANGLEgzLEFTgzUPgzDOWN",
     "gaRIGHT-POINTING DOUBLE TRIANGLE WITH VERTICAL BARg[LEFT",
     "gnRIGHT-POINTING TRIANGLE WITH DOUBLEaaALARM CLOCKaaSTOPWATCHaaTIMER CLOCK",
     "aaHOURGLASS WITH FLOWING SANDaaBLACK MEDIUM LEFT-POINTING TRIANGLEnsRIGHTnsUPnsDOWN",
     "aaDOUBLE VERTICAL BARaaBLACK SQUARE FOR STOPgaCIRCLE FOR RECORDaaPOWER SYMBOL",
     "gaON-OFF SYMBOLihghSLEEPahOBSERVER EYEaaSYMBOL FOR NULLlaSTART OF HEADINGuaTEXTliEND",
     "taRANSMISSIONnaQUIRYlaACKNOWLEDGElaBELLmaACKSPACElaHORIZONTAL TABULATIONlaLINE FEED",
     "laVERTICAL TABULATIONlaFORM FEEDlaCARRIAGE RETURNlaSHIFT OUTraINlaDATA LINK ESCAPE",
     "maEVICE CONTROL ONE!aTWO#aHREE!aFOURlaNEGATIVE ACKNOWLEDGElaSYNCHRONOUS IDLE",
     "laEND OF TRANSMISSION BLOCKlaCANCELlaEND OF MEDIUMlaSUBSTITUTElaESCAPElaFILE SEPARATOR",
     "lkGROUPlkRECORDlkUNITlaSPACElaDELETEaaBLANK SYMBOLaaOPEN BOXaaSYMBOL FOR NEWLINE",
     "laDELETE FORM TWOljSUBSTITUTE"]),
   (0x2440, ["aaOCR HOOKeaCHAIReaFORKeaINVERTED FORKeaBELT BUCKLEfaOW TIE",
     "faRANCH BANK IDENTIFICATIONeaAMOUNT OF CHECKeaDASHeaCUSTOMER ACCOUNT NUMBER",
     "eaDOUBLE BACKSLASH"]),
   (0x2460, ["aaCIRCLED DIGIT ONEoaTWOpaHREEoaFOURpaIVEoaSIXpaEVENoaEIGHToaNINEiaNUMBER TEN",
     "paELEVENpaTWELVEqaHIRTEENpaFOURTEENqaIFTEENpaSIXTEENqaEVENTEENpaEIGHTEENpaNINETEENpaTWENTY",
     "aaPARENTHESIZED DIGIT ONEuaTWOvaHREEuaFOURvaIVEuaSIXvaEVENuaEIGHTuaNINEoaNUMBER TEN",
     "vaELEVENvaTWELVEwaHIRTEENvaFOURTEENwaIFTEENvaSIXTEENwaEVENTEENvaEIGHTEENvaNINETEENvaTWENTY",
     "aaDIGIT ONE FULL STOPgkTWOhkHREEgkFOURhkIVEgkSIXhkEVENgkEIGHTgkNINEakNUMBER TENhkELEVEN",
     "hkTWELVEikHIRTEENhkFOURTEENikIFTEENhkSIXTEENikEVENTEENhkEIGHTEENhkNINETEENhkTWENTY",
     "aaPARENTHESIZED LATIN SMALL LETTER A*aB*aC*aD*aE*aF*aG*aH*aI*aJ*aK*aL*aM*aN*aO*aP*aQ*aR*aS",
     "*aT*aU*aV*aW*aX*aY*aZaaCIRCLED LATIN CAPITAL LETTER A%aB%aC%aD%aE%aF%aG%aH%aI%aJ%aK%aL%aM",
     "%aN%aO%aP%aQ%aR%aS%aT%aU%aV%aW%aX%aY%aZoaSMALL LETTER A#aB#aC#aD#aE#aF#aG#aH#aI#aJ#aK#aL",
     "#aM#aN#aO#aP#aQ#aR#aS#aT#aU#aV#aW#aX#aY#aZiaDIGIT ZEROaaNEGATIVE CIRCLED NUMBER ELEVEN",
     "yaTWELVEzaHIRTEENyaFOURTEENzaIFTEENyaSIXTEENzaEVENTEENyaEIGHTEENyaNINETEENyaTWENTY",
     "aaDOUBLE CIRCLED DIGIT ONEvaTWOwaHREEvaFOURwaIVEvaSIXwaEVENvaEIGHTvaNINEpaNUMBER TEN",
     "aaNEGATIVE CIRCLED DIGIT ZEROaaBOX DRAWINGS LIGHT HORIZONTALnlHEAVYnaLIGHT VERTICALnjHEAVY",
     "naLIGHT TRIPLE DASH HORIZONTALnxHEAVYnaLIGHT TRIPLE DASH VERTICALnvHEAVY",
     "naLIGHT QUADRUPLE DASH HORIZONTALn!HEAVYnaLIGHT QUADRUPLE DASH VERTICALnyHEAVY",
     "naLIGHT DOWN AND RIGHTnaDOWN LIGHT AND RIGHT HEAVYsaHEAVY AND RIGHT LIGHT",
     "naHEAVY DOWN AND RIGHTnaLIGHT DOWN AND LEFTnaDOWN LIGHT AND LEFT HEAVY",
     "saHEAVY AND LEFT LIGHTnaHEAVY DOWN AND LEFTnaLIGHT UP AND RIGHTnaUP LIGHT AND RIGHT HEAVY",
     "qaHEAVY AND RIGHT LIGHTnaHEAVY UP AND RIGHTnaLIGHT UP AND LEFTnaUP LIGHT AND LEFT HEAVY",
     "qaHEAVY AND LEFT LIGHTnaHEAVY UP AND LEFTnaLIGHT VERTICAL AND RIGHT",
     "naVERTICAL LIGHT AND RIGHT HEAVYnaUP HEAVY AND RIGHT DOWN LIGHTngDOWN HEAVY AND RIGHT UP",
     "ngVERTICAL HEAVY AND RIGHTnaDOWN LIGHT AND RIGHT UP HEAVYngUP LIGHT AND RIGHT DOWN",
     "naHEAVY VERTICAL AND RIGHTnaLIGHT VERTICAL AND LEFTnaVERTICAL LIGHT AND LEFT HEAVY",
     "naUP HEAVY AND LEFT DOWN LIGHTngDOWN HEAVY AND LEFT UPngVERTICAL HEAVY AND LEFT",
     "naDOWN LIGHT AND LEFT UP HEAVYngUP LIGHT AND LEFT DOWNnaHEAVY VERTICAL AND LEFT",
     "naLIGHT DOWN AND HORIZONTALoaEFT HEAVY AND RIGHT DOWN LIGHTnlRIGHT HEAVY AND LEFT",
     "naDOWN LIGHT AND HORIZONTAL HEAVYsaHEAVY AND HORIZONTAL LIGHT",
     "naRIGHT LIGHT AND LEFT DOWN HEAVYnlLEFT LIGHT AND RIGHTnaHEAVY DOWN AND HORIZONTAL",
     "npLIGHT UPoaEFT HEAVY AND RIGHT UP LIGHTnjRIGHT HEAVY AND LEFT",
     "naUP LIGHT AND HORIZONTAL HEAVYqaHEAVY AND HORIZONTAL LIGHTnaRIGHT LIGHT AND LEFT UP HEAVY",
     "njLEFT LIGHT AND RIGHTnaHEAVY UP AND HORIZONTALnpLIGHT VERTICAL",
     "oaEFT HEAVY AND RIGHT VERTICAL LIGHTnpRIGHT HEAVY AND LEFT",
     "naVERTICAL LIGHT AND HORIZONTAL HEAVYnaUP HEAVY AND DOWN HORIZONTAL LIGHT",
     "nrDOWN HEAVY AND UPnrVERTICAL HEAVY ANDngLEFT UP HEAVY AND RIGHT DOWN",
     "nlRIGHT UP HEAVY AND LEFTngLEFT DOWN HEAVY AND RIGHT UPnjRIGHT DOWN HEAVY AND LEFT",
     "naDOWN LIGHT AND UP HORIZONTAL HEAVYnrUP LIGHT AND DOWNngRIGHT LIGHT AND LEFT VERTICAL",
     "npLEFT LIGHT AND RIGHTnaHEAVY VERTICAL AND HORIZONTALnlLIGHT DOUBLE DASHnxHEAVY",
     "naLIGHT DOUBLE DASH VERTICALnvHEAVYnaDOUBLE HORIZONTALuaVERTICAL",
     "paWN SINGLE AND RIGHT DOUBLEsaDOUBLE AND RIGHT SINGLEpaUBLE DOWN AND RIGHT",
     "paWN SINGLE AND LEFT DOUBLEsaDOUBLE AND LEFT SINGLEpaUBLE DOWN AND LEFT",
     "naUP SINGLE AND RIGHT DOUBLEqaDOUBLE AND RIGHT SINGLEnaDOUBLE UP AND RIGHT",
     "naUP SINGLE AND LEFT DOUBLEqaDOUBLE AND LEFT SINGLEnaDOUBLE UP AND LEFT",
     "naVERTICAL SINGLE AND RIGHT DOUBLEwaDOUBLE AND RIGHT SINGLEnaDOUBLE VERTICAL AND RIGHT",
     "naVERTICAL SINGLE AND LEFT DOUBLEwaDOUBLE AND LEFT SINGLEnaDOUBLE VERTICAL AND LEFT",
     "paWN SINGLE AND HORIZONTAL DOUBLEsaDOUBLE AND HORIZONTAL SINGLEpaUBLE DOWN AND HORIZONTAL",
     "naUP SINGLE AND HORIZONTAL DOUBLEqaDOUBLE AND HORIZONTAL SINGLEnaDOUBLE UP AND HORIZONTAL",
     "naVERTICAL SINGLE AND HORIZONTAL DOUBLEwaDOUBLE AND HORIZONTAL SINGLE",
     "naDOUBLE VERTICAL AND HORIZONTALnaLIGHT ARC DOWN AND RIGHT)aLEFTxjUP&aRIGHT",
     "taDIAGONAL UPPER RIGHT TO LOWER LEFT+aLEFT TO LOWER RIGHT$aCROSStaLEFTtaUPtaRIGHTtaDOWN",
     "naHEAVY LEFTtaUPtaRIGHTtaDOWNnaLIGHT LEFT AND HEAVY RIGHTtaUP AND HEAVY DOWN",
     "naHEAVY LEFT AND LIGHT RIGHTtaUP AND LIGHT DOWNaaUPPER HALF BLOCKagLOWER ONE EIGHTH",
     "kgQUARTERggTHREE EIGHTHSggHALFggFIVE EIGHTHSggTHREE QUARTERSggSEVEN EIGHTHSagFULL",
     "agLEFT SEVEN EIGHTHSfgTHREE QUARTERSfgFIVE EIGHTHSfgHALFfgTHREE EIGHTHSfgONE QUARTER",
     "jgEIGHTHagRIGHT HALFaaLIGHT SHADEagMEDIUMagDARKaaUPPER ONE EIGHTH BLOCKarRIGHT",
     "aaQUADRANT LOWER LEFTpaRIGHTjaUPPER LEFTta AND LOWER LEFT AND LOWER RIGHT&aRIGHT",
     "yaUPPER RIGHT AND LOWER LEFT_aRIGHTpaRIGHTua AND LOWER LEFT,a AND LOWER RIGHT",
     "aaBLACK SQUAREahWHITEma WITH ROUNDED CORNERSnaCONTAINING BLACK SMALL SQUARE",
     "aaSQUARE WITH HORIZONTAL FILLmfVERTICALmfORTHOGONAL CROSSHATCHmfUPPER LEFT TO LOWER RIGHT",
     "sfRIGHT TO LOWER LEFTmfDIAGONAL CROSSHATCHaaBLACK SMALL SQUAREanWHITEaaBLACK RECTANGLE",
     "akWHITEakBLACK VERTICALatWHITEaaBLACK PARALLELOGRAMaoWHITEaaBLACK UP-POINTING TRIANGLE",
     "avWHITEajBLACK UP-POINTING SMALLa#WHITEajBLACK RIGHT-POINTINGayWHITE",
     "ajBLACK RIGHT-POINTING SMALLa&WHITEaaBLACK RIGHT-POINTING POINTERaxWHITE",
     "aaBLACK DOWN-POINTING TRIANGLEaxWHITEajBLACK DOWN-POINTING SMALLa%WHITE",
     "ajBLACK LEFT-POINTINGaxWHITEajBLACK LEFT-POINTING SMALLa%WHITE",
     "aaBLACK LEFT-POINTING POINTERawWHITEaaBLACK DIAMONDaiWHITE",
     "na CONTAINING BLACK SMALL DIAMONDaaFISHEYEaaLOZENGEaaWHITE CIRCLEahDOTTED",
     "aaCIRCLE WITH VERTICAL FILLaaBULLSEYEbaLACK CIRCLEaaCIRCLE WITH LEFT HALF BLACKmlRIGHT",
     "mlLOWERmlUPPERsgRIGHT QUADRANTmpALL BUT UPPER LEFTaaLEFT HALF BLACK CIRCLEasRIGHT",
     "aaINVERSE BULLETiaWHITE CIRCLEanUPPER HALF INVERSEa!LOWER",
     "aaUPPER LEFT QUADRANT CIRCULAR ARCgwRIGHTa$LOWERgwLEFTaaUPPER HALF CIRCLEamLOWER",
     "aaBLACK LOWER RIGHT TRIANGLEmjLEFTgoUPPERmjRIGHTaaWHITE BULLET",
     "aaSQUARE WITH LEFT HALF BLACKmlRIGHTmlUPPER LEFT DIAGONALmuLOWER RIGHT",
     "aaWHITE SQUARE WITH VERTICAL BISECTING LINEgaUP-POINTING TRIANGLE WITH DOT",
     "aaUP-POINTING TRIANGLE WITH LEFT HALF BLACK!lRIGHTaaLARGE CIRCLE",
     "aaWHITE SQUARE WITH UPPER LEFT QUADRANTsoLOWERyjRIGHTspUPPERgjCIRCLE WITH UPPER LEFT",
     "soLOWERyjRIGHTspUPPERaaUPPER LEFT TRIANGLEgjRIGHTajLOWER LEFTaaWHITE MEDIUM SQUAREaoBLACK",
     "ahWHITE MEDIUM SMALLauBLACKaaLOWER RIGHT TRIANGLEaaBLACK SUN WITH RAYSaaCLOUDaaUMBRELLA",
     "aaSNOWMANaaCOMETaaBLACK STARafWHITEaaLIGHTNINGaaTHUNDERSTORMaaSUNaaASCENDING NODE",
     "afDESCENDINGaaCONJUNCTIONaaOPPOSITIONaaBLACK TELEPHONEakWHITEaaBALLOT BOXka WITH CHECKqaX",
     "aaSALTIREaaUMBRELLA WITH RAIN DROPSaaHOT BEVERAGEaaWHITE SHOGI PIECEamBLACKaaSHAMROCK",
     "aaREVERSED ROTATED FLORAL HEART BULLETaaBLACK LEFT POINTING INDEXgpRIGHTapWHITE LEFTgpUP",
     "gpRIGHTgpDOWNaaSKULL AND CROSSBONESaaCAUTION SIGNafRADIOACTIVEafBIOHAZARDaaCADUCEUSaaANKH",
     "aaORTHODOX CROSSaaCHI RHObaROSS OF LORRAINEjaJERUSALEMaaSTAR AND CRESCENTaaFARSI SYMBOL",
     "aaADI SHAKTIaaHAMMER AND SICKLEaaPEACE SYMBOLaaYIN YANGaaTRIGRAM FOR HEAVENmaLAKEmaFIRE",
     "maTHUNDERmaWINDnaATERmaMOUNTAINmaEARTHaaWHEEL OF DHARMAcaITE FROWNING FACEgfSMILINGanBLACK",
     "aaWHITE SUN WITH RAYSaaFIRST QUARTER MOONanLASTaaMERCURYaaFEMALE SIGNaaEARTHaaMALE SIGN",
     "aaJUPITERaaSATURNaaURANUSaaNEPTUNEaaPLUTOaaARIESaaTAURUSaaGEMINIaaCANCERaaLEOaaVIRGO",
     "aaLIBRAaaSCORPIUSbaAGITTARIUSaaCAPRICORNaaAQUARIUSaaPISCESaaWHITE CHESS KINGmaQUEENmaROOK",
     "maBISHOPmaKNIGHTmaPAWNaaBLACK CHESS KINGmaQUEENmaROOKmaBISHOPmaKNIGHTmaPAWNgaSPADE SUIT",
     "afWHITE HEARTgfDIAMONDafBLACK CLUBafWHITE SPADEafBLACK HEARTgfDIAMONDafWHITE CLUB",
     "aaHOT SPRINGSaaQUARTER NOTEafEIGHTHaaBEAMED EIGHTH NOTEShgSIXTEENTHaaMUSIC FLAT SIGN",
     "gfNATURALgfSHARPaaWEST SYRIAC CROSSanEASTaaUNIVERSAL RECYCLING SYMBOL",
     "aaRECYCLING SYMBOL FOR TYPE-1 PLASTICS!j2!j3!j4!j5!j6!j7vaGENERIC MATERIALS",
     "aaBLACK UNIVERSAL RECYCLING SYMBOLahRECYCLED PAPERanPARTIALLY-RECYCLED",
     "baERMANENT PAPER SIGNaaWHEELCHAIR SYMBOLaaDIE FACE-1ja2ja3ja4ja5ja6",
     "aaWHITE CIRCLE WITH DOT RIGHTsaTWO DOTSaaBLACK CIRCLE WITH WHITE DOT RIGHTsaTWO WHITE DOTS",
     "aaMONOGRAM FOR YANGoaINaaDIGRAM FOR GREATER YANGlaLESSER YINtaANGlaGREATER YINaaWHITE FLAG",
     "afBLACKaaHAMMER AND PICKaaANCHORaaCROSSED SWORDSaaSTAFF OF AESCULAPIUSbaCALESaaALEMBIC",
     "aaFLOWERaaGEARaaSTAFF OF HERMESaaATOM SYMBOLaaFLEUR-DE-LISaaOUTLINED WHITE STAR",
     "aaTHREE LINES CONVERGING RIGHTxaLEFTaaWARNING SIGNafHIGH VOLTAGEafDOUBLED FEMALEifMALE",
     "akINTERLOCKED FEMALE ANDafMALE AND FEMALEffWITH STROKEraAND MALE AND FEMALE SIGN",
     "afVERTICAL MALE WITH STROKEawHORIZONTALaaMEDIUM WHITE CIRCLEhhBLACKhhSMALL WHITE",
     "baARRIAGE SYMBOLahDIVORCEahUNMARRIED PARTNERSHIPaaCOFFINaaFUNERAL URNaaNEUTERaaCERES",
     "aaPALLASaaJUNOaaVESTAaaCHIRONaaBLACK MOON LILITHaaSEXTILEcaMISEXTILEaaQUINCUNX",
     "aaSESQUIQUADRATEbaOCCER BALLaaBASEBALLaaSQUARED KEYaaWHITE DRAUGHTS MANpaKING",
     "aaBLACK DRAUGHTS MANpaKINGaaSNOWMAN WITHOUT SNOWbaUN BEHIND CLOUDaaRAINaaBLACK SNOWMAN",
     "aaTHUNDER CLOUD AND RAINbaURNED WHITE SHOGI PIECEhmBLACKaaWHITE DIAMOND IN SQUARE",
     "aaCROSSING LANESaaDISABLED CARaaOPHIUCHUSaaPICKaaCAR SLIDINGaaHELMET WITH WHITE CROSS",
     "aaCIRCLED CROSSING LANESbaHAINSaaNO ENTRYaaALTERNATE ONE-WAY LEFT WAY TRAFFICavBLACK TWO",
     "azWHITEaaBLACK LEFT LANE MERGEaqWHITEaaDRIVE SLOW SIGNaaHEAVY WHITE DOWN-POINTING TRIANGLE",
     "aaLEFT CLOSED ENTRYaaSQUARED SALTIREaaFALLING DIAGONAL IN WHITE CIRCLE IN BLACK SQUARE",
     "aaBLACK TRUCKaaRESTRICTED LEFT ENTRY-1wa2aaASTRONOMICAL SYMBOL FOR URANUS",
     "aaHEAVY CIRCLE WITH STROKE AND TWO DOTS ABOVEaaPENTAGRAM",
     "aaRIGHT-HANDED INTERLACED PENTAGRAMa$LEFTakINVERTEDaaBLACK CROSS ON SHIELDaaSHINTO SHRINE",
     "aaCHURCHbaASTLEaaHISTORIC SITEaaGEAR WITHOUT HUBja HANDLESaaMAP SYMBOL FOR LIGHTHOUSE",
     "baOUNTAINaaUMBRELLA ON GROUNDaaFOUNTAINbaLAG IN HOLEbaERRYaaSAILBOATbaQUARE FOUR CORNERS",
     "baKIERaaICE SKATEaaPERSON WITH BALLaaTENTaaJAPANESE BANK SYMBOLahHEADSTONE GRAVEYARD",
     "aaFUEL PUMPaaCUP ON BLACK SQUAREaaWHITE FLAG WITH HORIZONTAL MIDDLE BLACK STRIPE",
     "aaBLACK SAFETY SCISSORSajUPPER BLADEajBLACKajLOWER BLADEajWHITEgaHEAVY CHECK MARK",
     "aaTELEPHONE LOCATION SIGNbaAPE DRIVEaaAIRPLANEaaENVELOPEaaRAISED FISThaHANDafVICTORY",
     "afWRITINGaaLOWER RIGHT PENCILaaPENCILaaUPPER RIGHT PENCILaaWHITE NIBaeBLACKaaCHECK MARK",
     "afHEAVY CHECKaaMULTIPLICATION XacHEAVY MULTIPLICATIONacBALLOTacHEAVY BALLOT",
     "aaOUTLINED GREEK CROSSamHEAVYagOPEN CENTREanHEAVY OPENagLATINagSHADOWED WHITE LATIN",
     "amOUTLINEDagMALTESEaaSTAR OF DAVIDaaFOUR TEARDROP-SPOKED ASTERISKfqBALLOONayHEAVY FOUR",
     "aqFOUR CLUBaaBLACK FOUR POINTED STARasWHITEaaSPARKLESbaTRESS OUTLINED WHITE STARalCIRCLED",
     "afOPEN CENTRE BLACKafBLACK CENTRE WHITEafOUTLINED BLACKalHEAVY OUTLINEDafPINWHEEL",
     "afSHADOWED WHITEaaHEAVY ASTERISKajOPEN CENTREajEIGHT SPOKEDgaPOINTED BLACK STARofPINWHEEL",
     "afSIX POINTED BLACKalEIGHT POINTED RECTILINEARa(HEAVY EIGHTalTWELVE POINTED",
     "aaSIXTEEN POINTED ASTERISKajTEARDROP-SPOKEDaqOPEN CENTRE TEARDROPazHEAVY",
     "aaSIX PETALLED BLACK AND WHITE FLORETTEajBLACKajWHITEajEIGHT PETALLED OUTLINED BLACK",
     "aaCIRCLED OPEN CENTRE EIGHT POINTED STARaaHEAVY TEARDROP-SPOKED PINWHEEL ASTERISK",
     "aaSNOWFLAKEaaTIGHT TRIFOLIATE SNOWFLAKEakHEAVY CHEVRONaaSPARKLEaaHEAVY SPARKLE",
     "aaBALLOON-SPOKED ASTERISKajEIGHT TEARDROP-SPOKED PROPELLERa,HEAVY EIGHTaaCROSS MARK",
     "aaSHADOWED WHITE CIRCLEaaNEGATIVE SQUARED CROSS MARK",
     "aaLOWER RIGHT DROP-SHADOWED WHITE SQUAREa*UPPERanLOWER RIGHT SHADOWEDa$UPPER",
     "aaBLACK QUESTION MARK ORNAMENTaxWHITEgoEXCLAMATIONaaBLACK DIAMOND MINUS WHITE X",
     "aaHEAVY EXCLAMATION MARK SYMBOLaaLIGHT VERTICAL BARanMEDIUManHEAVY",
     "gaSINGLE TURNED COMMA QUOTATION MARK ORNAMENTnyCOMMAg&DOUBLE TURNEDnyCOMMAg&LOW SINGLE",
     "k&DOUBLEajCURVED STEM PARAGRAPH SIGNajHEAVY EXCLAMATION MARKgoHEART EXCLAMATION",
     "gaBLACK HEARTaaROTATED HEAVY BLACK HEART BULLETaaFLORAL HEARTaaROTATED FLORAL HEART BULLET",
     "aaMEDIUM LEFT PARENTHESIS ORNAMENThvRIGHThvFLATTENED LEFTrvRIGHT",
     "hjLEFT-POINTING ANGLE BRACKETh)RIGHTajHEAVY LEFT-POINTING ANGLE QUOTATION MARKg<RIGHT",
     "gjLEFT-POINTING ANGLE BRACKETg)RIGHTarLIGHT LEFT TORTOISE SHELLg)RIGHTarMEDIUM LEFT CURLY",
     "hxRIGHTaaDINGBAT NEGATIVE CIRCLED DIGIT ONE(aTWO)aHREE(aFOUR)aIVE(aSIX)aEVEN(aEIGHT(aNINE",
     "zaNUMBER TENiaCIRCLED SANS-SERIF DIGIT ONE*aTWO+aHREE*aFOUR+aIVE*aSIX+aEVEN*aEIGHT*aNINE",
     "#aNUMBER TENiaNEGATIVE CIRCLED SANS-SERIF DIGIT ONE@aTWO[aHREE@aFOUR[aIVE@aSIX[aEVEN",
     "@aEIGHT@aNINE.aNUMBER TENaaHEAVY WIDE-HEADED RIGHTWARDS ARROWgaPLUS SIGNgfMINUSgfDIVISION",
     "gaSOUTH EAST ARROWggRIGHTWARDSggNORTH EASTagDRAFTING POINT RIGHTWARDSarHEAVY ROUND-TIPPED",
     "arTRIANGLE-HEADEDayHEAVY TRIANGLEa*DASHEDa*HEAVY DASHEDarBLACK",
     "aaTHREE-D TOP-LIGHTED RIGHTWARDS ARROWHEADi%BOTTOMavBLACK",
     "aaHEAVY BLACK CURVED DOWNWARDS AND RIGHTWARDS ARROWtvUPWARDSarSQUAT BLACK",
     "axHEAVY CONCAVE-POINTEDarRIGHT-SHADED WHITEa&LEFTaxBACK-TILTED SHADOWEDa<FRONT",
     "axHEAVY LOWER RIGHT-SHADOWEDg;UPPERa;NOTCHED LOWERaaCURLY LOOP",
     "aaNOTCHED UPPER RIGHT-SHADOWED WHITE RIGHTWARDS ARROWaxCIRCLED HEAVYarWHITE-FEATHERED",
     "agBLACK-FEATHERED SOUTH EASTqgRIGHTWARDSqgNORTH EASTalHEAVY BLACK-FEATHERED SOUTH",
     "wgRIGHTWARDSwgNORTH EASTagTEARDROP-BARBED RIGHTWARDSarHEAVY TEARDROP-SHANKEDarWEDGE-TAILED",
     "ayHEAVY WEDGEarOPEN-OUTLINEDaaDOUBLE CURLY LOOPaaTHREE DIMENSIONAL ANGLE",
     "aaWHITE TRIANGLE CONTAINING SMALL WHITE TRIANGLEaaPERPENDICULARaaOPEN SUBSEThaPERSET",
     "aaLEFT S-SHAPED BAG DELIMITERaxRIGHTaaOR WITH DOT INSIDEaaREVERSE SOLIDUS PRECEDING SUBSET",
     "aaSUPERSET PRECEDING SOLIDUSaaVERTICAL BAR WITH HORIZONTAL STROKE",
     "aaMATHEMATICAL RISING DIAGONALaaLONG DIVISIONaaMATHEMATICAL FALLING DIAGONAL",
     "aaSQUARED LOGICAL ANDqaORaaWHITE DIAMOND WITH CENTRED DOTaeAND WITH",
     "aaELEMENT OF OPENING UPWARDSaaLOWER RIGHT CORNER WITH DOTaqUPPER LEFTaaLEFT OUTER JOIN",
     "alRIGHTalFULLaaLARGE UP TACKgfDOWNbaEFT AND RIGHT DOUBLE TURNSTILEpaTACKfaMULTIMAP",
     "baONG RIGHT TACKffLEFTaaUP TACK WITH CIRCLE ABOVEaaLOZENGE DIVIDED BY HORIZONTAL RULE",
     "aaWHITE CONCAVE-SIDED DIAMOND#a WITH LEFTWARDS TICK*fRIGHTWARDSgfSQUARE WITH LEFTWARDS",
     "sfRIGHTWARDSaaMATHEMATICAL LEFT WHITE SQUARE BRACKETnvRIGHTniLEFT ANGLEnoRIGHT",
     "noLEFT DOUBLEnvRIGHTniLEFT WHITE TORTOISE SHELLn%RIGHTnaLEFT FLATTENED PARENTHESISnwRIGHT",
     "aaUPWARDS QUADRUPLE ARROWaqDOWNWARDSagANTICLOCKWISE GAPPED CIRCLEauCLOCKWISE",
     "aaRIGHT ARROW WITH CIRCLED PLUSaaLONG LEFTWARDS ARROWfgRIGHTWARDSfgLEFT RIGHT",
     "jgWARDS DOUBLEfnRIGHTWARDSfnLEFT RIGHTjaWARDS ARROW FROM BARfpRIGHTWARDSfpLEFTWARDS DOUBLE",
     "fwRIGHTWARDSqaSQUIGGLE ARROWaaBRAILLE PATTERN BLANKqaDOTS-1va2va12va3va13va23va123va4va14",
     "va24va124va34va134va234va1234va5va15va25va125va35va135va235va1235va45va145va245va1245va345",
     "va1345va2345va12345va6va16va26va126va36va136va236va1236va46va146va246va1246va346va1346",
     "va2346va12346va56va156va256va1256va356va1356va2356va12356va456va1456va2456va12456va3456",
     "va13456va23456va123456va7va17va27va127va37va137va237va1237va47va147va247va1247va347va1347",
     "va2347va12347va57va157va257va1257va357va1357va2357va12357va457va1457va2457va12457va3457",
     "va13457va23457va123457va67va167va267va1267va367va1367va2367va12367va467va1467va2467va12467",
     "va3467va13467va23467va123467va567va1567va2567va12567va3567va13567va23567va123567va4567",
     "va14567va24567va124567va34567va134567va234567va1234567va8va18va28va128va38va138va238va1238",
     "va48va148va248va1248va348va1348va2348va12348va58va158va258va1258va358va1358va2358va12358",
     "va458va1458va2458va12458va3458va13458va23458va123458va68va168va268va1268va368va1368va2368",
     "va12368va468va1468va2468va12468va3468va13468va23468va123468va568va1568va2568va12568va3568",
     "va13568va23568va123568va4568va14568va24568va124568va34568va134568va234568va1234568va78",
     "va178va278va1278va378va1378va2378va12378va478va1478va2478va12478va3478va13478va23478",
     "va123478va578va1578va2578va12578va3578va13578va23578va123578va4578va14578va24578va124578",
     "va34578va134578va234578va1234578va678va1678va2678va12678va3678va13678va23678va123678va4678",
     "va14678va24678va124678va34678va134678va234678va1234678va5678va15678va25678va125678va35678",
     "va135678va235678va1235678va45678va145678va245678va1245678va345678va1345678va2345678",
     "va12345678aaRIGHTWARDS TWO-HEADED ARROW WITH VERTICAL STROKE*hDOUBLE VERTICAL",
     "aqLEFTWARDS DOUBLE ARROW WITHa+RIGHTWARDSa+LEFT RIGHT",
     "aaRIGHTWARDS TWO-HEADED ARROW FROM BARapLEFTWARDS DOUBLEawRIGHTWARDS",
     "aaDOWNWARDS ARROW WITH HORIZONTAL STROKEa%UPWARDSiaTRIPLE ARROWanDOWNWARDS",
     "agLEFTWARDS DOUBLE DASHasRIGHTWARDSalLEFTWARDS TRIPLEasRIGHTWARDSmlWO-HEADED TRIPLE",
     "laARROW WITH DOTTED STEMaaUPWARDS ARROW TO BARanDOWNWARDS",
     "aaRIGHTWARDS ARROW WITH TAIL WITH VERTICAL STROKE)hDOUBLE VERTICAL",
     "laTWO-HEADED ARROW WITH TAIL:a WITH VERTICAL STROKE[hDOUBLE VERTICALaaLEFTWARDS ARROW-TAIL",
     "alRIGHTWARDSalLEFTWARDS DOUBLEasRIGHTWARDSaaLEFTWARDS ARROW TO BLACK DIAMONDaxRIGHTWARDS",
     "arLEFTWARDS ARROW FROM BARa)RIGHTWARDSaaNORTH WEST AND SOUTH EAST ARROW",
     "ggEAST AND SOUTH WESTgaWEST ARROW WITH HOOKgqEASTavSOUTHgqWEST",
     "aaNORTH WEST ARROW AND NORTH EAST ARROWglEAST ARROW AND SOUTH",
     "agSOUTH EAST ARROW AND SOUTH WESTglWEST ARROW AND NORTH",
     "aaRISING DIAGONAL CROSSING FALLING DIAGONALajFALLING DIAGONAL CROSSING RISING",
     "aaSOUTH EAST ARROW CROSSING NORTH EAST ARROWalNORTH EAST ARROW CROSSING SOUTH",
     "alFALLING DIAGONAL CROSSING NORTHalRISING DIAGONAL CROSSING SOUTH",
     "agNORTH EAST ARROW CROSSING NORTH WESTggWEST ARROW CROSSING NORTH EAST",
     "aaWAVE ARROW POINTING DIRECTLY RIGHTaaARROW POINTING RIGHTWARDS THEN CURVING UPWARDS",
     "<aDOWNWARDSpaDOWNWARDS THEN CURVING LEFTWARDS;aRIGHTWARDSaaRIGHT-SIDE ARC CLOCKWISE ARROW",
     "agLEFT-SIDE ARC ANTICLOCKWISEayTOPayBOTTOMaaTOP ARC CLOCKWISE ARROW WITH MINUS",
     "iaANTICLOCKWISE ARROW WITH PLUSaaLOWER RIGHT SEMICIRCULAR CLOCKWISE ARROW",
     "ggLEFT SEMICIRCULAR ANTICLOCKWISEagANTICLOCKWISE CLOSED CIRCLEauCLOCKWISE",
     "agRIGHTWARDS ARROW ABOVE SHORT LEFTWARDSagLEFTWARDS ARROW ABOVE SHORT RIGHTWARDS",
     "agSHORT RIGHTWARDS ARROW ABOVE LEFTWARDSaaRIGHTWARDS ARROW WITH PLUS BELOWawLEFTWARDS",
     "aaRIGHTWARDS ARROW THROUGH XaaLEFT RIGHT ARROW THROUGH SMALL CIRCLE",
     "anUPWARDS TWO-HEADED ARROW FROMaaLEFT BARB UP RIGHT BARB DOWN HARPOONkiDOWN RIGHT BARB UP",
     "aiUP BARB RIGHT DOWN BARB LEFTiiLEFT DOWN BARB RIGHTaiLEFT BARB UP RIGHT BARB UP",
     "aiUP BARB RIGHT DOWN BARB RIGHTaiLEFT BARB DOWN RIGHT BARB DOWN",
     "aiUP BARB LEFT DOWN BARB LEFTaaLEFTWARDS HARPOON WITH BARB UP TO BARa$RIGHTWARDS",
     "ahUPWARDS HARPOON WITH BARB RIGHTa(DOWNWARDSahLEFTWARDS HARPOON WITH BARB DOWNa&RIGHTWARDS",
     "ahUPWARDS HARPOON WITH BARB LEFTa&DOWNWARDSaeLEFTWARDS HARPOON WITH BARB UP FROM",
     "a&RIGHTWARDSajUPWARDS HARPOON WITH BARB RIGHTa*DOWNWARDSajLEFTWARDS HARPOON WITH BARB DOWN",
     "a)RIGHTWARDSajUPWARDS HARPOON WITH BARB LEFTa)DOWNWARDS",
     "aaLEFTWARDS HARPOON WITH BARB UP ABOVE LEFTWARDS HARPOON WITH BARB DOWN",
     "aaUPWARDS HARPOON WITH BARB LEFT BESIDE UPWARDS HARPOON WITH BARB RIGHT",
     "aaRIGHTWARDS HARPOON WITH BARB UP ABOVE RIGHTWARDS HARPOON WITH BARB DOWN",
     "aaDOWNWARDS HARPOON WITH BARB LEFT BESIDE DOWNWARDS HARPOON WITH BARB RIGHT",
     "aaLEFTWARDS HARPOON WITH BARB UP ABOVE RIGHTWARDS HARPOON WITH BARB UP",
     "$aDOWN ABOVE RIGHTWARDS HARPOON WITH BARB DOWN",
     "aaRIGHTWARDS HARPOON WITH BARB UP ABOVE LEFTWARDS HARPOON WITH BARB UP",
     "%aDOWN ABOVE LEFTWARDS HARPOON WITH BARB DOWN",
     "aaLEFTWARDS HARPOON WITH BARB UP ABOVE LONG DASH$kDOWN BELOW",
     "akRIGHTWARDS HARPOON WITH BARB UP ABOVE%kDOWN BELOW",
     "aaUPWARDS HARPOON WITH BARB LEFT BESIDE DOWNWARDS HARPOON WITH BARB RIGHT",
     "ayDOWNWARDS HARPOON WITH BARB LEFT BESIDE UPWARDSaaRIGHT DOUBLE ARROW WITH ROUNDED HEAD",
     "aaEQUALS SIGN ABOVE RIGHTWARDS ARROWaxTILDE OPERATORaaLEFTWARDS ARROW ABOVE TILDE OPERATOR",
     "a#RIGHTWARDSxaALMOST EQUAL TOaaLESS-THAN ABOVE LEFTWARDS ARROW",
     "caFTWARDS ARROW THROUGH LESS-THANaaGREATER-THAN ABOVE RIGHTWARDS ARROWaxSUBSET",
     "aaLEFTWARDS ARROW THROUGH SUBSETaaSUPERSET ABOVE LEFTWARDS ARROWaaLEFT FISH TAILakRIGHT",
     "akUPakDOWNaaTRIPLE VERTICAL BAR DELIMITERaaZ NOTATION SPOTlaTYPE COLON",
     "aaLEFT WHITE CURLY BRACKETauRIGHTaaLEFT WHITE PARENTHESISasRIGHT",
     "aaZ NOTATION LEFT IMAGE BRACKETloRIGHTliLEFT BINDINGlqRIGHT",
     "aaLEFT SQUARE BRACKET WITH UNDERBARa%RIGHTaaLEFT SQUARE BRACKET WITH TICK IN TOP CORNER",
     "ahRIGHT SQUARE BRACKET WITH TICK IN BOTTOMa@LEFTahRIGHT SQUARE BRACKET WITH TICK IN TOP",
     "aaLEFT ANGLE BRACKET WITH DOTaxRIGHTaaLEFT ARC LESS-THAN BRACKETanRIGHT ARC GREATER",
     "azDOUBLE LEFThnRIGHT ARC LESSaiLEFT BLACK TORTOISE SHELLa%RIGHTaaDOTTED FENCE",
     "aaVERTICAL ZIGZAG LINEaaMEASURED ANGLE OPENING LEFTaaRIGHT ANGLE VARIANT WITH SQUARE",
     "aaMEASURED RIGHT ANGLE WITH DOTaaANGLE WITH S INSIDEbaCUTE ANGLE",
     "aaSPHERICAL ANGLE OPENING LEFTyaUPaaTURNED ANGLEagREVERSEDaaANGLE WITH UNDERBAR",
     "aoREVERSED ANGLEaaOBLIQUE ANGLE OPENING UPwaDOWN",
     "aaMEASURED ANGLE WITH OPEN ARM ENDING IN ARROW POINTING UP AND RIGHT~aNTING UP AND LEFT",
     "~aNTING DOWN AND RIGHT~aNTING DOWN AND LEFT~aNTING RIGHT AND UP~hNTING LEFT",
     "~aNTING RIGHT AND DOWN~jNTING LEFTaaREVERSED EMPTY SETaaEMPTY SET WITH OVERBAR",
     "paSMALL CIRCLE ABOVEpgRIGHT ARROWpmLEFTaaCIRCLE WITH HORIZONTAL BARgeD VERTICALiaPARALLEL",
     "iaREVERSE SOLIDUSiaPERPENDICULAR",
     "ga DIVIDED BY HORIZONTAL BAR AND TOP HALF DIVIDED BY VERTICAL BARhaWITH SUPERIMPOSED X",
     "gaD ANTICLOCKWISE-ROTATED DIVISION SIGNaaUP ARROW THROUGH CIRCLEaaCIRCLED WHITE BULLET",
     "iaBULLETiaLESS-THANifGREATERga WITH SMALL CIRCLE TO THE RIGHTmnTWO HORIZONTAL STROKES",
     "aaSQUARED RISING DIAGONAL SLASHipFALLINGiaASTERISKiaSMALL CIRCLEjaQUARE",
     "aaTWO JOINED SQUARESbaRIANGLE WITH DOT ABOVEoaUNDERBARaaS IN TRIANGLE",
     "aaTRIANGLE WITH SERIFS AT BOTTOMaaRIGHT TRIANGLE ABOVE LEFT TRIANGLE",
     "aaLEFT TRIANGLE BESIDE VERTICAL BARaaVERTICAL BAR BESIDE RIGHT TRIANGLE",
     "aaBOWTIE WITH LEFT HALF BLACKmlRIGHTbaLACK BOWTIEaaTIMES WITH LEFT HALF BLACKllRIGHT",
     "aaWHITE HOURGLASSakBLACKaaLEFT WIGGLY FENCEanRIGHTanLEFT DOUBLEauRIGHT",
     "aaINCOMPLETE INFINITYajTIE OVERaaINFINITY NEGATED WITH VERTICAL BARaaDOUBLE-ENDED MULTIMAP",
     "aaSQUARE WITH CONTOURED OUTLINEaaINCREASES ASaaSHUFFLE PRODUCT",
     "aaEQUALS SIGN AND SLANTED PARALLEL)a WITH TILDE ABOVEaaIDENTICAL TO AND SLANTED PARALLEL",
     "aaGLEICH STARKaaTHERMODYNAMICaaDOWN-POINTING TRIANGLE WITH LEFT HALF BLACK$lRIGHT",
     "aaBLACK DIAMOND WITH DOWN ARROWgaLOZENGEaaWHITE CIRCLE WITH DOWN ARROWaxBLACK",
     "aaERROR-BARRED WHITE SQUAREnhBLACKnaWHITE DIAMONDniBLACKnaWHITE CIRCLEnhBLACK",
     "aaRULE-DELAYEDbaEVERSE SOLIDUS OPERATORaaSOLIDUS WITH OVERBAR",
     "aaREVERSE SOLIDUS WITH HORIZONTAL STROKEaaBIG SOLIDUSeaREVERSE SOLIDUSaaDOUBLE PLUS",
     "afTRIPLEaaLEFT-POINTING CURVED ANGLE BRACKETa&RIGHTaaTINYaaMINY"])]

end Intake.Text
