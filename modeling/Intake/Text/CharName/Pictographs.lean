import Intake.Text.CharName.Basic

/-!
# Names of characters: U+1F000 to U+E01EF

The names of tiles, cards, pictographs, tags and variation selectors.

## Main definitions

* `pictographNames` — the runs of names.
-/

namespace Intake.Text

/-- The names of the characters U+1F000 to U+E01EF. -/
def pictographNames : List NameRun :=
  [(0x1F000, ["aaMAHJONG TILE EAST WINDnfSOUTHnfWESTnfNORTHnaRED DRAGONnhGREENnhWHITE",
     "naONE OF CHARACTERSnoTWOooHREEnoFOURooIVEnoSIXooEVENnoEIGHTnoNINEnaONE OF BAMBOOSnlTWO",
     "olHREEnlFOURolIVEnlSIXolEVENnlEIGHTnlNINEnaONE OF CIRCLESnlTWOolHREEnlFOURolIVEnlSIXolEVEN",
     "nlEIGHTnlNINEnaPLUMnaORCHIDnaBAMBOOnaCHRYSANTHEMUMnaSPRINGoaUMMERnaAUTUMNnaWINTERnaJOKER",
     "naBACK"]),
   (0x1F030, ["aaDOMINO TILE HORIZONTAL BACKwa-00-00#a1#a2#a3#a4#a5#a6ya1-00#a1#a2#a3#a4#a5#a6",
     "ya2-00#a1#a2#a3#a4#a5#a6ya3-00#a1#a2#a3#a4#a5#a6ya4-00#a1#a2#a3#a4#a5#a6ya5-00#a1#a2#a3#a4",
     "#a5#a6ya6-00#a1#a2#a3#a4#a5#a6maVERTICAL BACKua-00-00za1za2za3za4za5za6wa1-00za1za2za3za4",
     "za5za6wa2-00za1za2za3za4za5za6wa3-00za1za2za3za4za5za6wa4-00za1za2za3za4za5za6wa5-00za1za2",
     "za3za4za5za6wa6-00za1za2za3za4za5za6"]),
   (0x1F0A0, ["aaPLAYING CARD BACKnaACE OF SPADESnkTWOokHREEnkFOURokIVEnkSIXokEVENnkEIGHTnkNINE",
     "nkTENnkJACKnkKNIGHTnkQUEENnkKING"]),
   (0x1F0B1, ["aaPLAYING CARD ACE OF HEARTSnkTWOokHREEnkFOURokIVEnkSIXokEVENnkEIGHTnkNINEnkTEN",
     "nkJACKnkKNIGHTnkQUEENnkKINGnaRED JOKER"]),
   (0x1F0C1, ["aaPLAYING CARD ACE OF DIAMONDSnmTWOomHREEnmFOURomIVEnmSIXomEVENnmEIGHTnmNINEnmTEN",
     "nmJACKnmKNIGHTnmQUEENnmKINGnaBLACK JOKER"]),
   (0x1F0D1, ["aaPLAYING CARD ACE OF CLUBSnjTWOojHREEnjFOURojIVEnjSIXojEVENnjEIGHTnjNINEnjTEN",
     "njJACKnjKNIGHTnjQUEENnjKINGnaWHITE JOKERnaFOOLnaTRUMP-1ta2ta3ta4ta5ta6ta7ta8ta9ta10ua1ua2",
     "ua3ua4ua5ua6ua7ua8ua9ta20ua1"]),
   (0x1F100, ["aaDIGIT ZERO FULL STOPlaCOMMAggONEggTWOhgHREEggFOURhgIVEggSIXhgEVENggEIGHTggNINE",
     "caNGBAT CIRCLED SANS-SERIF DIGIT ZEROiwNEGATIVE CIRCLEDaaCIRCLED ZERO WITH SLASH",
     "iaANTICLOCKWISE ARROWiaDOLLAR SIGN WITH OVERLAID BACKSLASH",
     "aaPARENTHESIZED LATIN CAPITAL LETTER A,aB,aC,aD,aE,aF,aG,aH,aI,aJ,aK,aL,aM,aN,aO,aP,aQ,aR",
     ",aS,aT,aU,aV,aW,aX,aY,aZaaTORTOISE SHELL BRACKETED LATIN CAPITAL LETTER S",
     "aaCIRCLED ITALIC LATIN CAPITAL LETTER C.aRiaCDiaWZbaOPYLEFT SYMBOL",
     "aaSQUARED LATIN CAPITAL LETTER A%aB%aC%aD%aE%aF%aG%aH%aI%aJ%aK%aL%aM%aN%aO%aP%aQ%aR%aS%aT",
     "%aU%aV%aW%aX%aY%aZiaHViaMViaSDjaSiaPPViaWCaaNEGATIVE CIRCLED LATIN CAPITAL LETTER A;aB;aC",
     ";aD;aE;aF;aG;aH;aI;aJ;aK;aL;aM;aN;aO;aP;aQ;aR;aS;aT;aU;aV;aW;aX;aY;aZaaRAISED MC SIGNifD",
     "ifRaaCIRCLED CCja WITH OVERLAID BACKSLASHiaHUMAN FIGURE",
     "aaNEGATIVE SQUARED LATIN CAPITAL LETTER A;aB;aC;aD;aE;aF;aG;aH;aI;aJ;aK;aL;aM;aN;aO;aP;aQ",
     ";aR;aS;aT;aU;aV;aW;aX;aY;aZaaCROSSED NEGATIVE SQUARED LATIN CAPITAL LETTER P",
     "aaNEGATIVE SQUARED ICraPAraSAraABraWCaaSQUARE DJgaD CLjaOOLiaFREEiaIDiaNEWjaGiaOKiaSOS",
     "iaUP WITH EXCLAMATION MARKiaVSiaTHREE DiaSECOND SCREENiaTWO KicFOURicEIGHTiaFIVE POINT ONE",
     "ikSEVENiaTWENTY-TWO POINT TWOiaSIXTY PicONE HUNDRED TWENTYiaLATIN SMALL LETTER DiaHCjaDR",
     "jaI-RESiaLOSSLESSiaSHViaUHDiaVODaaMASK WORK SYMBOL"]),
   (0x1F1E6, ["aaREGIONAL INDICATOR SYMBOL LETTER A*aB*aC*aD*aE*aF*aG*aH*aI*aJ*aK*aL*aM*aN*aO*aP",
     "*aQ*aR*aS*aT*aU*aV*aW*aX*aY*aZaaSQUARE HIRAGANA HOKAgaD KATAKANA KOKOraSA"]),
   (0x1F210, ["aaSQUARED CJK UNIFIED IDEOGRAPH-624B&a5B57(a3CCiaKATAKANA DE",
     "iaCJK UNIFIED IDEOGRAPH-4E8C&a591A&a89E3&a5929&a4EA4&a6620&a7121&a6599&a524D(aF8C(a18D",
     "&a65B0&a521D&a7D42(a51F&a8CA9&a58F0(a439&a6F14(a295(a355&a4E00*a9&a904A&a5DE6&a4E2D&a53F3",
     "&a6307&a8D70&a6253&a7981(aA7A&a5408&a6E80(a709*a8&a7533&a5272(a5B6&a914D"]),
   (0x1F240, ["aaTORTOISE SHELL BRACKETED CJK UNIFIED IDEOGRAPH-672C|a4E09~aE8C|a5B89|a70B9",
     "|a6253|a76D7|a52DD|a6557"]),
   (0x1F250, ["aaCIRCLED IDEOGRAPH ADVANTAGEtaCCEPT"]),
   (0x1F260, ["aaROUNDED SYMBOL FOR FUtaLUtaSHOUtaXItaSHUANGXItaCAI"]),
   (0x1F300, ["aaCYCLONEaaFOGGYaaCLOSED UMBRELLAaaNIGHT WITH STARSaaSUNRISE OVER MOUNTAINSha",
     "aaCITYSCAPE AT DUSKaaSUNSET OVER BUILDINGSaaRAINBOWaaBRIDGE AT NIGHTaaWATER WAVEaaVOLCANO",
     "aaMILKY WAYaaEARTH GLOBE EUROPE-AFRICAmaAMERICASnaSIA-AUSTRALIAaaGLOBE WITH MERIDIANS",
     "aaNEW MOON SYMBOLamWAXING CRESCENTamFIRST QUARTERamWAXING GIBBOUSamFULLamWANING GIBBOUS",
     "amLAST QUARTERamWANING CRESCENTaaCRESCENT MOONaaNEW MOON WITH FACEapFIRST QUARTERaxLAST",
     "apFULLakSUNaaGLOWING STARafSHOOTINGaaTHERMOMETERaaBLACK DROPLETaaWHITE SUN",
     "ja WITH SMALL CLOUDkgBEHINDwa WITH RAINakCLOUDlaSNOWlaLIGHTNINGlaTORNADOaaFOG",
     "aaWIND BLOWING FACEaaHOT DOGaaTACOaaBURRITOaaCHESTNUTaaSEEDLINGaaEVERGREEN TREEafDECIDUOUS",
     "afPALMaaCACTUSaaHOT PEPPERaaTULIPaaCHERRY BLOSSOMaaROSEaaHIBISCUSaaSUNFLOWERaaBLOSSOM",
     "aaEAR OF MAIZEhaRICEaaHERBaaFOUR LEAF CLOVERaaMAPLE LEAFafFALLENaaLEAF FLUTTERING IN WIND",
     "aaMUSHROOMaaTOMATOaaAUBERGINEaaGRAPESaaMELONaaWATERMELONaaTANGERINEaaLEMONaaBANANA",
     "aaPINEAPPLEaaRED APPLEagGREENaaPEARdaCHaaCHERRIESaaSTRAWBERRYaaHAMBURGERaaSLICE OF PIZZA",
     "aaMEAT ON BONEaaPOULTRY LEGaaRICE CRACKERfaBALLaaCOOKED RICEbfURRY ANDaaSTEAMING BOWL",
     "baPAGHETTIaaBREADaaFRENCH FRIESaaROASTED SWEET POTATOaaDANGOaaODENaaSUSHIaaFRIED SHRIMP",
     "baISH CAKE WITH SWIRL DESIGNaaSOFT ICE CREAMbaHAVED ICEaaICE CREAMaaDOUGHNUTaaCOOKIE",
     "baHOCOLATE BARbaANDYaaLOLLIPOPaaCUSTARDaaHONEY POTaaSHORTCAKEaaBENTO BOXaaPOT OF FOOD",
     "aaCOOKINGaaFORK AND KNIFEaaTEACUP WITHOUT HANDLEaaSAKE BOTTLE AND CUPaaWINE GLASS",
     "agCOCKTAILaaTROPICAL DRINKaaBEER MUGaaCLINKING BEER MUGSaaBABY BOTTLE",
     "aaFORK AND KNIFE WITH PLATEaaBOTTLE WITH POPPING CORKaaPOPCORNaaRIBBONaaWRAPPED PRESENT",
     "aaBIRTHDAY CAKEaaJACK-O-LANTERNaaCHRISTMAS TREEaaFATHER CHRISTMASbaIREWORKSia SPARKLER",
     "aaBALLOONaaPARTY POPPERaaCONFETTI BALLaaTANABATA TREEaaCROSSED FLAGSaaPINE DECORATION",
     "aaJAPANESE DOLLSaaCARP STREAMERaaWIND CHIMEaaMOON VIEWING CEREMONYaaSCHOOL SATCHEL",
     "aaGRADUATION CAPaaHEART WITH TIP ON THE LEFTaaBOUQUET OF FLOWERSaaMILITARY MEDAL",
     "aaREMINDER RIBBONaaMUSICAL KEYBOARD WITH JACKSaaSTUDIO MICROPHONEaaLEVEL SLIDER",
     "aaCONTROL KNOBSaaBEAMED ASCENDING MUSICAL NOTEShoDESCENDINGaaFILM FRAMES",
     "aaADMISSION TICKETSaaCAROUSEL HORSEaaFERRIS WHEELaaROLLER COASTERaaFISHING POLE AND FISH",
     "aaMICROPHONEbaOVIE CAMERAaaCINEMAaaHEADPHONEaaARTIST PALETTEaaTOP HATaaCIRCUS TENTaaTICKET",
     "aaCLAPPER BOARDaaPERFORMING ARTSaaVIDEO GAMEaaDIRECT HITaaSLOT MACHINEaaBILLIARDS",
     "aaGAME DIEaaBOWLINGaaFLOWER PLAYING CARDSaaMUSICAL NOTEcaLTIPLE MUSICAL NOTESaaSAXOPHONE",
     "aaGUITARaaMUSICAL KEYBOARDaaTRUMPETaaVIOLINaaMUSICAL SCOREaaRUNNING SHIRT WITH SASH",
     "aaTENNIS RACQUET AND BALLaaSKI AND SKI BOOTaaBASKETBALL AND HOOPaaCHEQUERED FLAG",
     "aaSNOWBOARDERaaRUNNERaaSURFERbaPORTS MEDALaaTROPHYaaHORSE RACINGaaAMERICAN FOOTBALLajRUGBY",
     "aaSWIMMERaaWEIGHT LIFTERaaGOLFERaaRACING MOTORCYCLEhaCARaaCRICKET BAT AND BALLaaVOLLEYBALL",
     "aaFIELD HOCKEY STICK AND BALLaaICE HOCKEY STICK AND PUCKaaTABLE TENNIS PADDLE AND BALL",
     "aaSNOW CAPPED MOUNTAINaaCAMPINGaaBEACH WITH UMBRELLAbaUILDING CONSTRUCTION",
     "aaHOUSE BUILDINGSaaCITYSCAPEaaDERELICT HOUSE BUILDINGajCLASSICALaaDESERTga ISLAND",
     "aaNATIONAL PARKaaSTADIUMaaHOUSE BUILDINGgaWITH GARDENaaOFFICE BUILDING",
     "aaJAPANESE POST OFFICEamEUROPEANaaHOSPITALaaBANKaaAUTOMATED TELLER MACHINEaaHOTEL",
     "aaLOVE HOTELaaCONVENIENCE STOREaaSCHOOLaaDEPARTMENT STOREaaFACTORYaaIZAKAYA LANTERN",
     "aaJAPANESE CASTLEahEUROPEANaaWHITE PENNANTaiBLACKaaWAVING WHITE FLAGhfBLACKaaROSETTE",
     "aaBLACK ROSETTEaaLABELaaBADMINTON RACQUET AND SHUTTLECOCKbaOW AND ARROWaaAMPHORA",
     "aaEMOJI MODIFIER FITZPATRICK TYPE-1-2)a3)a4)a5)a6aaRATaaMOUSEaaOXaaWATER BUFFALOaaCOW",
     "aaTIGERaaLEOPARDaaRABBITaaCATaaDRAGONaaCROCODILEaaWHALEaaSNAILdaKEaaHORSEaaRAMaaGOAT",
     "aaSHEEPaaMONKEYaaROOSTERaaCHICKENaaDOGaaPIGaaBOARaaELEPHANTaaOCTOPUSaaSPIRAL SHELLaaBUG",
     "aaANTaaHONEYBEEaaLADY BEETLEaaFISHaaTROPICAL FISHaaBLOWFISHaaTURTLEaaHATCHING CHICKagBABY",
     "agFRONT-FACING BABYaaBIRDaaPENGUINaaKOALAaaPOODLEaaDROMEDARY CAMELagBACTRIANaaDOLPHIN",
     "aaMOUSE FACEafCOWafTIGERafRABBITafCATafDRAGONaaSPOUTING WHALEaaHORSE FACEafMONKEYafDOG",
     "afPIGafFROGafHAMSTERafWOLFafBEARafPANDAbaIG NOSEbaAW PRINTSaaCHIPMUNKaaEYESdabaARaaNOSE",
     "aaMOUTHaaTONGUEaaWHITE UP POINTING BACKHAND INDEXgyDOWNgyLEFTgyRIGHTaaFISTED HAND SIGN",
     "akWAVINGakOKafTHUMBS UPhfDOWNafCLAPPING HANDSalOPENaaCROWNaaWOMANS HATaaEYEGLASSES",
     "aaNECKTIEaaT-SHIRTaaJEANSaaDRESSaaKIMONOaaBIKINIaaWOMANS CLOTHESaaPURSEaaHANDBAGaaPOUCH",
     "aaMANS SHOEafATHLETICafHIGH-HEELEDaaWOMANS SANDALhaBOOTSaaFOOTPRINTSaaBUST IN SILHOUETTE",
     "eoSbaOYaaGIRLaaMANaaWOMANaaFAMILYaaMAN AND WOMAN HOLDING HANDSaoTWO MENeoWOMEN",
     "aaPOLICE OFFICERaaWOMAN WITH BUNNY EARSaaBRIDE WITH VEILaaPERSON WITH BLOND HAIR",
     "aaMAN WITH GUA PI MAOjaTURBANaaOLDER MANgaWOMANaaBABYaaCONSTRUCTION WORKERaaPRINCESS",
     "aaJAPANESE OGREjaGOBLINaaGHOSTaaBABY ANGELaaEXTRATERRESTRIAL ALIENaaALIEN MONSTERaaIMP",
     "aaSKULLaaINFORMATION DESK PERSONaaGUARDSMANaaDANCERaaLIPSTICKaaNAIL POLISHaaFACE MASSAGE",
     "aaHAIRCUTaaBARBER POLEaaSYRINGEaaPILLaaKISS MARKaaLOVE LETTERaaRINGaaGEM STONEaaKISS",
     "aaBOUQUETaaCOUPLE WITH HEARTaaWEDDINGaaBEATING HEARTbgROKENaaTWO HEARTSaaSPARKLING HEART",
     "agGROWINGaaHEART WITH ARROWaaBLUE HEARTagGREENagYELLOWagPURPLEaaHEART WITH RIBBON",
     "aaREVOLVING HEARTSaaHEART DECORATIONaaDIAMOND SHAPE WITH A DOT INSIDEaaELECTRIC LIGHT BULB",
     "aaANGER SYMBOLaaBOMBaaSLEEPING SYMBOLahCOLLISIONahSPLASHING SWEATaaDROPLETbaASH SYMBOL",
     "aaPILE OF POOaaFLEXED BICEPSaaDIZZY SYMBOLaaSPEECH BALLOONaiTHOUGHTaaWHITE FLOWER",
     "aaHUNDRED POINTS SYMBOLaaMONEY BAGaaCURRENCY EXCHANGEaaHEAVY DOLLAR SIGNaaCREDIT CARD",
     "aaBANKNOTE WITH YEN SIGNofDOLLARofEUROofPOUNDaaMONEY WITH WINGS",
     "aaCHART WITH UPWARDS TREND AND YEN SIGNaaSEATaaPERSONAL COMPUTERaaBRIEFCASEaaMINIDISC",
     "aaFLOPPY DISKaaOPTICAL DISCaaDVDaaFILE FOLDERahOPEN FILEaaPAGE WITH CURLfaFACING UP",
     "aaCALENDARaaTEAR-OFF CALENDARaaCARD INDEXbaHART WITH UPWARDS TRENDlgDOWNWARDSaaBAR CHART",
     "aaCLIPBOARDaaPUSHPINaaROUND PUSHPINaaPAPERCLIPaaSTRAIGHT RULERagTRIANGULARaaBOOKMARK TABS",
     "aaLEDGERaaNOTEBOOKia WITH DECORATIVE COVERaaCLOSED BOOKafOPENafGREENafBLUEafORANGEaaBOOKS",
     "aaNAME BADGEaaSCROLLaaMEMOaaTELEPHONE RECEIVERaaPAGERaaFAX MACHINEaaSATELLITE ANTENNA",
     "aaPUBLIC ADDRESS LOUDSPEAKERaaCHEERING MEGAPHONEaaOUTBOX TRAYafINBOXaaPACKAGE",
     "aaE-MAIL SYMBOLaaINCOMING ENVELOPEaaENVELOPE WITH DOWNWARDS ARROW ABOVE",
     "aaCLOSED MAILBOX WITH LOWERED FLAGufRAISEDazOPENsfLOWEREDaaPOSTBOXeaAL HORNaaNEWSPAPER",
     "aaMOBILE PHONEma WITH RIGHTWARDS ARROW AT LEFTaaVIBRATION MODEaaMOBILE PHONE OFF",
     "aaNO MOBILE PHONESaaANTENNA WITH BARSaaCAMERAga WITH FLASHaaVIDEO CAMERAaaTELEVISION",
     "aaRADIOaaVIDEOCASSETTEaaFILM PROJECTORaaPORTABLE STEREObaRAYER BEADS",
     "aaTWISTED RIGHTWARDS ARROWSahCLOCKWISE RIGHTWARDS AND LEFTWARDS OPEN CIRCLE",
     "~aRROWS WITH CIRCLED ONE OVERLAYkaDOWNWARDS AND UPWARDS OPEN CIRCLE ARROWSa?ANTICLOCKWISE",
     "aaLOW BRIGHTNESS SYMBOLasHIGHaaSPEAKER WITH CANCELLATION STROKEhaha WITH ONE SOUND WAVE",
     "naTHREE SOUND WAVESaaBATTERYaaELECTRIC PLUGaaLEFT-POINTING MAGNIFYING GLASSa!RIGHT",
     "aaLOCK WITH INK PENaaCLOSED LOCK WITH KEYaaKEYaaLOCKaaOPEN LOCKaaBELL",
     "ea WITH CANCELLATION STROKEbaOOKMARKaaLINK SYMBOLaaRADIO BUTTON",
     "aaBACK WITH LEFTWARDS ARROW ABOVEa#ENDamON WITH EXCLAMATION MARK WITH LEFT RIGHT",
     "amSOON WITH RIGHTWARDSamTOP WITH UPWARDSaaNO ONE UNDER EIGHTEEN SYMBOLaaKEYCAP TEN",
     "aaINPUT SYMBOL FOR LATIN CAPITAL LETTERSxiSMALLraNUMBERSraSYMBOLSraLATIN LETTERSaaFIRE",
     "aaELECTRIC TORCHaaWRENCHaaHAMMERaaNUT AND BOLTaaHOCHOaaPISTOLaaMICROSCOPEaaTELESCOPE",
     "aaCRYSTAL BALLaaSIX POINTED STAR WITH MIDDLE DOTaaJAPANESE SYMBOL FOR BEGINNER",
     "aaTRIDENT EMBLEMaaBLACK SQUARE BUTTONaoWHITEaaLARGE RED CIRCLEghBLUEgaORANGE DIAMONDgiBLUE",
     "aiSMALL ORANGEgiBLUEaaUP-POINTING RED TRIANGLEawDOWNanUP-POINTING SMALLa$DOWN",
     "aaLOWER RIGHT SHADOWED WHITE CIRCLEa$UPPERaaCIRCLED CROSS POMMEE",
     "baROSS POMMEE WITH HALF-CIRCLE BELOWmaaaNOTCHED LEFT SEMICIRCLE WITH THREE DOTSi#RIGHT",
     "aaSYMBOL FOR MARKS CHAPTERaaWHITE LATIN CROSSamHEAVYagCELTICaaOM SYMBOLaaDOVE OF PEACE",
     "aaKAABAaaMOSQUEaaSYNAGOGUEaaMENORAH WITH NINE BRANCHESaaBOWL OF HYGIEIA",
     "aaCLOCK FACE ONE OCLOCKlhTWOmhHREElhFOURmhIVElhSIXmhEVENlhEIGHTlhNINElhTENlhELEVENlhTWELVE",
     "laONE-THIRTYlhTWOmhHREElhFOURmhIVElhSIXmhEVENlhEIGHTlhNINElhTENlhELEVENlhTWELVE",
     "aaRIGHT SPEAKERna WITH ONE SOUND WAVEtaTHREE SOUND WAVESaaBULLHORNia WITH SOUND WAVES",
     "aaRINGING BELLaaBOOKaaCANDLEaaMANTELPIECE CLOCKaaBLACK SKULL AND CROSSBONESaaNO PIRACY",
     "aaHOLEaaMAN IN BUSINESS SUIT LEVITATINGaaSLEUTH OR SPYaaDARK SUNGLASSESaaSPIDERga WEB",
     "aaJOYSTICKaaMAN DANCINGaaLEFT HAND TELEPHONE RECEIVERaaTELEPHONE RECEIVER WITH PAGE",
     "aaRIGHT HAND TELEPHONE RECEIVERaaWHITE TOUCHTONE TELEPHONEauBLACK",
     "aaTELEPHONE ON TOP OF MODEMaaCLAMSHELL MOBILE PHONEaaBACK OF ENVELOPEajSTAMPED",
     "aaENVELOPE WITH LIGHTNINGaaFLYING ENVELOPEajPEN OVER STAMPEDaaLINKED PAPERCLIPS",
     "aaBLACK PUSHPINaaLOWER LEFT PENCILlaBALLPOINT PENleFOUNTAINlaPAINTBRUSHlaCRAYON",
     "baEFT WRITING HANDaaTURNED OK HAND SIGNaaRAISED HAND WITH FINGERS SPLAYEDb!EVERSED RAISED",
     "jaTHUMBS UP SIGNqfDOWNjaVICTORY HANDjaHAND WITH MIDDLE FINGER EXTENDED",
     "baAISED HAND WITH PART BETWEEN MIDDLE AND RING FINGERS",
     "aaWHITE DOWN POINTING LEFT HAND INDEXagSIDEWAYS WHITE LEFT POINTINGppRIGHTjpBLACK LEFT",
     "ppRIGHTagBLACK LEFT POINTING BACKHANDgyRIGHTagSIDEWAYS WHITE UP POINTINGppDOWNjpBLACK UP",
     "ppDOWNagBLACK UP POINTING BACKHANDgyDOWNgaHEARTaaDESKTOP COMPUTERaaKEYBOARD AND MOUSE",
     "aaTHREE NETWORKED COMPUTERSaaPRINTERbaOCKET CALCULATORaaBLACK HARD SHELL FLOPPY DISK",
     "axWHITEasSOFTaaTAPE CARTRIDGEaaWIRED KEYBOARDaaONE BUTTON MOUSEanTWObnHREEbaRACKBALL",
     "aaOLD PERSONAL COMPUTERaaHARD DISKaaSCREENaaPRINTER ICONafFAXafOPTICAL DISC",
     "aaDOCUMENT WITH TEXTsa AND PICTUREoaPICTUREanFRAMElaTILESlaAN XaaBLACK FOLDERaaFOLDER",
     "aaOPEN FOLDERaaCARD INDEX DIVIDERSfaFILE BOXaaFILE CABINETaaEMPTY NOTEka PAGEnaDaaNOTE",
     "ea PAGEhaDaaEMPTY DOCUMENTgaPAGEkaSaaDOCUMENTaaPAGEeaSaaWASTEBASKETaaSPIRAL NOTE PAD",
     "heCALENDARaaDESKTOP WINDOWaaMINIMIZEbaAXIMIZEaaOVERLAP",
     "aaCLOCKWISE RIGHT AND LEFT SEMICIRCLE ARROWSbaANCELLATION XaaINCREASE FONT SIZE SYMBOL",
     "arDECREASEaaCOMPRESSIONaaOLD KEYaaROLLED-UP NEWSPAPERaaPAGE WITH CIRCLED TEXTaaSTOCK CHART",
     "aaDAGGER KNIFEaaLIPSaaSPEAKING HEAD IN SILHOUETTEaaTHREE RAYS ABOVElaBELOWlaLEFTlaRIGHT",
     "aaLEFT SPEECH BUBBLEaoRIGHTaaTWO SPEECH BUBBLESbpHREEaaLEFT THOUGHT BUBBLEapRIGHT",
     "ahLEFT ANGERanRIGHTahMOODahLIGHTNING MOODoaaaBALLOT BOX WITH BALLOThaSCRIPT X",
     "hcBOX WITH SCRIPTjjLDjjX WITH BOLDaaLIGHT CHECK MARKaaBALLOT BOX WITH BOLD CHECK",
     "aaWORLD MAPaaMOUNT FUJIaaTOKYO TOWERaaSTATUE OF LIBERTYbaILHOUETTE OF JAPANaaMOYAI",
     "aaGRINNING FACEna WITH SMILING EYESaaFACE WITH TEARS OF JOYaaSMILING FACE WITH OPEN MOUTH",
     "$a AND SMILING EYES*aCOLD SWEAT*aTIGHTLY-CLOSED EYESsaHALOtaORNSaaWINKING FACE",
     "aaSMILING FACE WITH SMILING EYESaaFACE SAVOURING DELICIOUS FOODaaRELIEVED FACE",
     "aaSMILING FACE WITH HEART-SHAPED EYESsaSUNGLASSESdaRKING FACEafNEUTRALafEXPRESSIONLESS",
     "afUNAMUSEDaaFACE WITH COLD SWEATaaPENSIVE FACEafCONFUSEDefOUNDEDafKISSING",
     "aaFACE THROWING A KISSaaKISSING FACE WITH SMILING EYESsfCLOSEDaaFACE WITH STUCK-OUT TONGUE",
     "!a AND WINKING EYE(aTIGHTLY-CLOSED EYESaaDISAPPOINTED FACEafWORRIEDafANGRYafPOUTING",
     "afCRYINGafPERSEVERINGaaFACE WITH LOOK OF TRIUMPHaaDISAPPOINTED BUT RELIEVED FACE",
     "aaFROWNING FACE WITH OPEN MOUTHaaANGUISHED FACEafFEARFULafWEARYafSLEEPYafTIREDafGRIMACING",
     "afLOUDLY CRYINGaaFACE WITH OPEN MOUTHaaHUSHED FACEaaFACE WITH OPEN MOUTH AND COLD SWEAT",
     "faSCREAMING IN FEARaaASTONISHED FACEafFLUSHEDafSLEEPINGafDIZZYaaFACE WITHOUT MOUTH",
     "ja MEDICAL MASKaaGRINNING CAT FACE WITH SMILING EYESaaCAT FACE WITH TEARS OF JOY",
     "aaSMILING CAT FACE WITH OPEN MOUTHwaHEART-SHAPED EYESaaCAT FACE WITH WRY SMILE",
     "aaKISSING CAT FACE WITH CLOSED EYESaaPOUTING CAT FACEajCRYINGajWEARYafSLIGHTLY FROWNING",
     "jfSMILINGafUPSIDE-DOWNaaFACE WITH ROLLING EYESkaNO GOOD GESTUREkiOKaaPERSON BOWING DEEPLY",
     "aaSEE-NO-EVIL MONKEYapHEARapSPEAKaaHAPPY PERSON RAISING ONE HAND",
     "aaPERSON RAISING BOTH HANDS IN CELEBRATIONhaFROWNINGhaWITH POUTING FACEmaFOLDED HANDS",
     "aaNORTH WEST POINTING LEAFatSOUTHaoNORTH EASTatSOUTHaoTURNED NORTH WESThtSOUTHhoNORTH EAST",
     "htSOUTHafNORTH WEST POINTING VINEaySOUTHatNORTH EASTaySOUTHatHEAVY NORTH WESTgySOUTH",
     "gtNORTH EASTgySOUTHaaNORTH WEST POINTING BUDasSOUTHanNORTH EASTasSOUTHanHEAVY NORTH WEST",
     "gsSOUTHgnNORTH EASTgsSOUTHbaOLLOW QUILT SQUARE ORNAMENT$a IN BLACK SQUARE",
     "aaSOLID QUILT SQUARE ORNAMENT#a IN BLACK SQUAREaaLEFTWARDS ROCKETahUPWARDSahRIGHTWARDS",
     "ahDOWNWARDSaaSCRIPT LIGATURE ET ORNAMENTavHEAVY SCRIPTamLIGATURE OPENarHEAVY LIGATURE",
     "gjAMPERSANDatSWASHbjANS-SERIF HEAVY DOUBLE TURNED COMMA QUOTATION MARKyyCOMMAr&LOW DOUBLE",
     "ajHEAVY INTERROBANGavSANS-SERIFa#HEAVY SANSaaVERY HEAVY SOLIDUSlaREVERSE SOLIDUS",
     "aaCHECKER BOARDagREVERSE CHECKERbaOCKETaaHELICOPTERaaSTEAM LOCOMOTIVEaaRAILWAY CAR",
     "aaHIGH-SPEED TRAINqa WITH BULLET NOSEaaTRAINaaMETROaaLIGHT RAILaaSTATIONaaTRAMea CARaaBUS",
     "aaONCOMING BUSaaTROLLEYBUSaaBUS STOPaaMINIBUSaaAMBULANCEaaFIRE ENGINEaaPOLICE CAR",
     "aeONCOMING POLICEaaTAXIaaONCOMING TAXIaaAUTOMOBILEaaONCOMING AUTOMOBILE",
     "aaRECREATIONAL VEHICLEaaDELIVERY TRUCKaaARTICULATED LORRYaaTRACTORaaMONORAIL",
     "caUNTAIN RAILWAYaiSUSPENSIONaaMOUNTAIN CABLEWAYaaAERIAL TRAMWAYaaSHIPaaROWBOATaaSPEEDBOAT",
     "aaHORIZONTAL TRAFFIC LIGHTaoVERTICALaaCONSTRUCTION SIGNaaPOLICE CARS REVOLVING LIGHT",
     "aaTRIANGULAR FLAG ON POSTaaDOORaaNO ENTRY SIGNaaSMOKING SYMBOLahNO SMOKING",
     "ahPUT LITTER IN ITS PLACEahDO NOT LITTERahPOTABLE WATERanNON-POTABLEaaBICYCLEaaNO BICYCLES",
     "aaBICYCLISTaaMOUNTAIN BICYCLISTaaPEDESTRIANaaNO PEDESTRIANSaaCHILDREN CROSSING",
     "aaMENS SYMBOLahWOMENSaaRESTROOMaaBABY SYMBOLaaTOILETaaWATER CLOSETaaSHOWERaaBATHeaTUB",
     "aaPASSPORT CONTROLaaCUSTOMSaaBAGGAGE CLAIMaaLEFT LUGGAGEaaTRIANGLE WITH ROUNDED CORNERS",
     "aaPROHIBITED SIGNaaCIRCLED INFORMATION SOURCEaaBOYS SYMBOLahGIRLSaaCOUCH AND LAMP",
     "aaSLEEPING ACCOMMODATIONbaHOPPING BAGSaaBELLHOP BELLcaDaaPLACE OF WORSHIPaaOCTAGONAL SIGN",
     "aaSHOPPING TROLLEYbaTUPAaaPAGODAaaHINDU TEMPLEbaUTaaELEVATOR"]),
   (0x1F6DD, ["aaPLAYGROUND SLIDEaaWHEELaaRING BUOYaaHAMMER AND WRENCHaaSHIELDaaOIL DRUM",
     "aaMOTORWAYaaRAILWAY TRACKaaMOTOR BOATaaUP-POINTING MILITARY AIRPLANEmaAIRPLANE",
     "maSMALL AIRPLANEajSMALLajNORTHEAST-POINTINGaaAIRPLANE DEPARTUREjaARRIVING"]),
   (0x1F6F0, ["aaSATELLITEaaONCOMING FIRE ENGINEaaDIESEL LOCOMOTIVEaaPASSENGER SHIPaaSCOOTER",
     "aaMOTOR SCOOTERaaCANOEaaSLEDaaFLYING SAUCERaaSKATEBOARDaaAUTO RICKSHAWaaPICKUP TRUCK",
     "aaROLLER SKATE"]),
   (0x1F700, ["aaALCHEMICAL SYMBOL FOR QUINTESSENCEwaAIRwaFIREwaEARTHwaWATERwaAQUAFORTIS!a REGIA",
     ")a-2#aVITAE)a-2waVINEGAR%a-2&a3waSULFURwaPHILOSOPHERS SULFURwhBLACKwaMERCURY SUBLIMATE<a-2",
     ">a3waCINNABARwaSALTwaNITREwaVITRIOL%a-2waROCK SALT(a-2waGOLDwaSILVERwaIRON ORE&a-2",
     "waCROCUS OF IRONwiREGULUSwaCOPPER OREweIRON-COPPERwaSUBLIMATE OF COPPERwkCROCUS;a-2",
     "xaOPPER ANTIMONIATEwmSALT OF COPPERxaUBLIMATE OF SALT OF COPPERwaVERDIGRISwaTIN OREweLEAD",
     "weANTIMONYwaSUBLIMATE OF ANTIMONYxmALTxmUBLIMATE OF SALTwmVINEGARwmREGULUS?a-2%a%a-2&a3&a4",
     "waALKALI$a-2waMARCASITEwaSAL-AMMONIACwaARSENICwaREALGAR%a-2waAURIPIGMENTwaBISMUTH ORE",
     "waTARTAR$a-2waQUICK LIMEwaBORAX#a-2$a3waALUMwaOILwaSPIRITwaTINCTUREwaGUMwaWAXwaPOWDER",
     "waCALXwaTUTTYwaCAPUT MORTUUMwaSCEPTER OF JOVEwaCADUCEUSwaTRIDENTwaSTARRED TRIDENT",
     "waLODESTONEwaSOAPwaURINEwaHORSE DUNGwaASHESwaPOT ASHESwaBRICKwaPOWDERED BRICKwaAMALGAM",
     "waSTRATUM SUPER STRATUM[a-2xaUBLIMATIONwaPRECIPITATEwaDISTILLzaSOLVE&a-2waPURIFY",
     "yaTREFACTIONwaCRUCIBLE&a-2(a3(a4(a5waALEMBICwaBATH OF MARY&aVAPOURSwaRETORTwaHOURwaNIGHT",
     "waDAY-NIGHTwaMONTHwaHALF DRAM#aOUNCE"]),
   (0x1F780, ["aaBLACK LEFT-POINTING ISOSCELES RIGHT TRIANGLEg+UPg+RIGHTg+DOWN",
     "gaSLIGHTLY SMALL CIRCLEahMEDIUM BOLD WHITEanBOLDanHEAVYanVERY HEAVYatEXTREMELY",
     "ahWHITE CIRCLE CONTAINING BLACK SMALLaaROUND TARGETaaBLACK TINY SQUAREghSLIGHTLY SMALL",
     "ahLIGHT WHITEanMEDIUManBOLDanHEAVYanVERY HEAVYatEXTREMELY",
     "ahWHITE SQUARE CONTAINING BLACK VERY SMALL&hMEDIUMaaSQUARE TARGETaaBLACK TINY DIAMOND",
     "giVERY SMALLgoMEDIUMaoWHITE DIAMOND CONTAINING BLACK VERY(iMEDIUMaaDIAMOND TARGET",
     "aaBLACK TINY LOZENGEgiVERY SMALLgoMEDIUMaoWHITE LOZENGE CONTAINING BLACKaaTHIN GREEK CROSS",
     "amLIGHTamMEDIUMamBOLDamVERY BOLDfmHEAVYasEXTREMELYaaTHIN SALTIREaiLIGHTaiMEDIUMaiBOLD",
     "aiHEAVYaiVERY HEAVYaoEXTREMELYaaLIGHT FIVE SPOKED ASTERISKavMEDIUMavBOLDavHEAVY",
     "avVERY HEAVYa#EXTREMELYaqLIGHT SIXauMEDIUMauBOLDauHEAVYauVERY HEAVYa!EXTREMELY",
     "aqLIGHT EIGHTawMEDIUMawBOLDawHEAVYawVERY HEAVYaaLIGHT THREE POINTED BLACK STARazMEDIUM",
     "atTHREEafMEDIUM THREE POINTED PINWHEELafLIGHT FOUR POINTED BLACKayMEDIUMatFOUR",
     "afMEDIUM FOUR POINTED PINWHEELa#REVERSE LIGHTafLIGHT FIVE POINTED BLACKayHEAVYatMEDIUM SIX",
     "axHEAVYafSIX POINTED PINWHEELafMEDIUM EIGHT POINTED BLACKazHEAVYazVERY HEAVY",
     "afHEAVY EIGHT POINTED PINWHEELafLIGHT TWELVE POINTED BLACKa!HEAVYvfPINWHEEL",
     "aaCIRCLED TRIANGLEajNEGATIVE CIRCLEDaaCIRCLED SQUAREahNEGATIVE CIRCLED"]),
   (0x1F7E0, ["aaLARGE ORANGE CIRCLEghYELLOWghGREENghPURPLEghBROWNgaRED SQUAREghBLUEghORANGE",
     "ghYELLOWghGREENghPURPLEghBROWN"]),
   (0x1F7F0, ["aaHEAVY EQUALS SIGN"]),
   (0x1F800, ["aaLEFTWARDS ARROW WITH SMALL TRIANGLE ARROWHEADa.UPWARDSa.RIGHTWARDSa.DOWNWARDS",
     "atLEFTWARDS ARROW WITH MEDIUMa:UPWARDSa:RIGHTWARDSa:DOWNWARDSatLEFTWARDS ARROW WITH LARGE",
     "a.UPWARDSa.RIGHTWARDSa.DOWNWARDS"]),
   (0x1F810, ["aaLEFTWARDS ARROW WITH SMALL EQUILATERAL ARROWHEADa<UPWARDSa<RIGHTWARDS",
     "a<DOWNWARDSawLEFTWARDS ARROW WITHa*UPWARDSa*RIGHTWARDSa*DOWNWARDSa*HEAVY LEFTWARDS",
     "g*UPWARDSg*RIGHTWARDSg*DOWNWARDSgwLEFTWARDS ARROW WITH LARGEg<UPWARDSg<RIGHTWARDS",
     "g<DOWNWARDSaaLEFTWARDS TRIANGLE-HEADED ARROW WITH NARROW SHAFTa>UPWARDSa>RIGHTWARDS",
     "a>DOWNWARDSagLEFTWARDS TRIANGLE-HEADED ARROW WITH MEDIUMa>UPWARDSa>RIGHTWARDSa>DOWNWARDS",
     "agLEFTWARDS TRIANGLE-HEADED ARROW WITH BOLDa;UPWARDSa;RIGHTWARDSa;DOWNWARDS",
     "agLEFTWARDS TRIANGLE-HEADED ARROW WITH HEAVYa<UPWARDSa<RIGHTWARDSa<DOWNWARDS",
     "amLEFTWARDS TRIANGLE-HEADED ARROW WITH VERYa]UPWARDSa]RIGHTWARDSa]DOWNWARDS",
     "aaLEFTWARDS FINGER-POST ARROWasUPWARDSasRIGHTWARDSasDOWNWARDSagLEFTWARDS SQUAREDaoUPWARDS",
     "aoRIGHTWARDSaoDOWNWARDSagLEFTWARDS COMPRESSEDarUPWARDSarRIGHTWARDSarDOWNWARDS",
     "arLEFTWARDS HEAVYaxUPWARDSaxRIGHTWARDSaxDOWNWARDSagLEFTWARDS HEAVYamUPWARDSamRIGHTWARDS",
     "amDOWNWARDS"]),
   (0x1F850, ["aaLEFTWARDS SANS-SERIF ARROWarUPWARDSarRIGHTWARDSarDOWNWARDSarNORTH WESTgrEAST",
     "awSOUTHgrWESTarLEFT RIGHTarUP DOWN"]),
   (0x1F860, ["aaWIDE-HEADED LEFTWARDS LIGHT BARB ARROWmrUPWARDSmrRIGHTWARDSmrDOWNWARDS",
     "mrNORTH WESTsrEASTmwSOUTHsrWESTmlLEFTWARDSmlUPWARDSmlRIGHTWARDSmlDOWNWARDSmlNORTH WEST",
     "slEASTmqSOUTHslWESTmlLEFTWARDS MEDIUMmsUPWARDSmsRIGHTWARDSmsDOWNWARDSmsNORTH WESTssEAST",
     "mxSOUTHssWESTmlLEFTWARDS HEAVYmrUPWARDSmrRIGHTWARDSmrDOWNWARDSmrNORTH WESTsrEASTmwSOUTH",
     "srWESTmrLEFTWARDS VERYmwUPWARDSmwRIGHTWARDSmwDOWNWARDSmwNORTH WESTswEASTm#SOUTHswWEST"]),
   (0x1F890, ["aaLEFTWARDS TRIANGLE ARROWHEADatUPWARDSatRIGHTWARDSatDOWNWARDS",
     "atLEFTWARDS WHITE ARROW WITHINa;UPWARDSa;RIGHTWARDSa;DOWNWARDS",
     "aaLEFTWARDS ARROW WITH NOTCHED TAILayUPWARDSayRIGHTWARDSayDOWNWARDS",
     "aaHEAVY ARROW SHAFT WIDTH ONEyaTWO THIRDSyaONE HALF$aTHIRD",
     "aaLEFTWARDS BOTTOM-SHADED WHITE ARROWamRIGHTWARDS BOTTOM SHADEDatLEFTWARDS TOPaxRIGHTWARDS",
     "amLEFTWARDS LEFT-SHADEDatRIGHTWARDS RIGHTazLEFTWARDSatRIGHTWARDS LEFT",
     "amLEFTWARDS BACK-TILTED SHADOWEDa*RIGHTWARDSa$LEFTWARDS FRONTa+RIGHTWARDS",
     "aaWHITE ARROW SHAFT WIDTH ONEyaTWO THIRDS"]),
   (0x1F8B0, ["aaARROW POINTING UPWARDS THEN NORTH WESTpfRIGHTWARDS THEN CURVING SOUTH"]),
   (0x1F900, ["aaCIRCLED CROSS FORMEE WITH FOUR DOTS!fTWOuaaaLEFT HALF CIRCLE WITH FOUR DOTS",
     "wfTHREExfWOwaDOTqaaaDOWNWARD FACING HOOKqaNOTCHED HOOKqaHOOK WITH DOTqjNOTCHED HOOK",
     "aaPINCHED FINGERSaaWHITE HEARTagBROWNaaPINCHING HANDaaZIPPER-MOUTH FACEalMONEY",
     "aaFACE WITH THERMOMETERaaNERD FACEafTHINKINGaaFACE WITH HEAD-BANDAGEaaROBOT FACEafHUGGING",
     "aaSIGN OF THE HORNSaaCALL ME HANDafRAISED BACK OFaaLEFT-FACING FISTamRIGHTaaHANDSHAKE",
     "ea WITH INDEX AND MIDDLE FINGERS CROSSEDaaI LOVE YOU HAND SIGNaaFACE WITH COWBOY HAT",
     "aaCLOWN FACEafNAUSEATEDaaROLLING ON THE FLOOR LAUGHINGaaDROOLING FACEafLYINGaaFACE PALM",
     "aaSNEEZING FACEaaFACE WITH ONE EYEBROW RAISEDaaGRINNING FACE WITH STAR EYES",
     "taONE LARGE AND ONE SMALL EYEaaFACE WITH FINGER COVERING CLOSED LIPS",
     "aaSERIOUS FACE WITH SYMBOLS COVERING MOUTHbpMILING FACE WITH SMILING EYES AND HAND",
     "aaFACE WITH OPEN MOUTH VOMITINGaaSHOCKED FACE WITH EXPLODING HEADaaPREGNANT WOMAN",
     "aaBREAST-FEEDINGaaPALMS UP TOGETHERaaSELFIEaaPRINCEaaMAN IN TUXEDObaOTHER CHRISTMASaaSHRUG",
     "aaPERSON DOING CARTWHEELaaJUGGLINGaaFENCERaaMODERN PENTATHLONaaWRESTLERSbaATER POLO",
     "aaHANDBALLaaDIVING MASKaaWILTED FLOWERaaDRUM WITH DRUMSTICKSaaCLINKING GLASSES",
     "aaTUMBLER GLASSaaSPOONaaGOAL NETaaRIFLEaaFIRST PLACE MEDALamSECONDamTHIRDaaBOXING GLOVE",
     "aaMARTIAL ARTS UNIFORMaaCURLING STONEaaLACROSSE STICK AND BALLaaSOFTBALLaaFLYING DISC",
     "aaCROISSANTaaAVOCADOaaCUCUMBERaaBACONaaPOTATOaaCARROTaaBAGUETTE BREADaaGREEN SALAD",
     "aaSHALLOW PAN OF FOODbaTUFFED FLATBREADaaEGGaaGLASS OF MILKaaPEANUTSaaKIWIFRUITaaPANCAKES",
     "aaDUMPLINGaaFORTUNE COOKIEaaTAKEOUT BOXaaCHOPSTICKSaaBOWL WITH SPOONaaCUP WITH STRAW",
     "baOCONUTaaBROCCOLIaaPIEbaRETZELaaCUT OF MEATaaSANDWICHaaCANNED FOODaaLEAFY GREENaaMANGO",
     "baOON CAKEaaBAGELaaSMILING FACE WITH SMILING EYES AND THREE HEARTSaaYAWNING FACE",
     "aaSMILING FACE WITH TEARaaFACE WITH PARTY HORN AND PARTY HATkaUNEVEN EYES AND WAVY MOUTH",
     "aaOVERHEATED FACEafFREEZINGaaNINJAaaDISGUISED FACEaaFACE HOLDING BACK TEARS",
     "faWITH PLEADING EYESaaSARIaaLAB COATaaGOGGLESaaHIKING BOOTaaFLAT SHOEaaCRABaaLION FACE",
     "aaSCORPIONaaTURKEYaaUNICORN FACEaaEAGLEaaDUCKaaBATaaSHARKaaOWLaaFOX FACEaaBUTTERFLYaaDEER",
     "aaGORILLAaaLIZARDaaRHINOCEROSaaSHRIMPbaQUIDaaGIRAFFE FACEafZEBRAaaHEDGEHOGaaSAUROPOD",
     "aaT-REXaaCRICKETaaKANGAROOaaLLAMAaaPEACOCKaaHIPPOPOTAMUSaaPARROTaaRACCOONaaLOBSTER",
     "aaMOSQUITObaICROBEaaBADGERaaSWANaaMAMMOTHaaDODOaaSLOTHaaOTTERbaRANGUTANaaSKUNKaaFLAMINGO",
     "aaOYSTERaaBEAVERbaISONaaSEALaaGUIDE DOGaaPROBING CANEaaEMOJI COMPONENT RED HAIRqfCURLY",
     "qaBALDqaWHITE HAIRaaBONEaaLEGaaFOOTaaTOOTHaaSUPERHEROfaVILLAINbaAFETY VEST",
     "aaEAR WITH HEARING AIDaaMOTORIZED WHEELCHAIRblANUALbaECHANICAL ARMlaLEGaaCHEESE WEDGE",
     "baUPCAKEaaSALT SHAKERaaBEVERAGE BOXaaGARLICaaONIONaaFALAFELaaWAFFLEaaBUTTERaaMATE DRINK",
     "aaICE CUBEaaBUBBLE TEAaaTROLLaaSTANDING PERSONahKNEELINGahDEAFaaFACE WITH MONOCLEaaADULT",
     "aaCHILDaaOLDER ADULTaaBEARDED PERSONaaPERSON WITH HEADSCARFhaIN STEAMY ROOMhaCLIMBING",
     "haIN LOTUS POSITIONaaMAGEaaFAIRYaaVAMPIREaaMERPERSONaaELFaaGENIEaaZOMBIEaaBRAIN",
     "aaORANGE HEARTaaBILLED CAPaaSCARFaaGLOVESaaCOATaaSOCKSaaRED GIFT ENVELOPEaaFIRECRACKER",
     "aaJIGSAW PUZZLE PIECEaaTEST TUBEaaPETRI DISHaaDNA DOUBLE HELIXaaCOMPASSaaABACUS",
     "aaFIRE EXTINGUISHERaaTOOLBOXaaBRICKaaMAGNETaaLUGGAGEbaOTION BOTTLEaaSPOOL OF THREAD",
     "aaBALL OF YARNaaSAFETY PINaaTEDDY BEARaaBROOMbaASKETaaROLL OF PAPERaaBAR OF SOAPaaSPONGE",
     "aaRECEIPTaaNAZAR AMULETbaEUTRAL CHESS KINGoaQUEENoaROOKoaBISHOPoaKNIGHToaPAWN",
     "aaWHITE CHESS KNIGHT ROTATED FORTY-FIVE DEGREESa>BLACKa>NEUTRAL",
     "aiWHITE CHESS KING ROTATED NINETYmxQUEENmxROOKmxBISHOPmxKNIGHTmxPAWNaxBLACK CHESS KING",
     "mxQUEENmxROOKmxBISHOPmxKNIGHTmxPAWNaxNEUTRAL CHESS KINGoxQUEENoxROOKoxBISHOPoxKNIGHToxPAWN",
     "aiWHITE CHESS KNIGHT ROTATED ONE HUNDRED THIRTY-FIVEa|BLACK CHESSa|NEUTRAL CHESS",
     "aaWHITE CHESS TURNED KINGtaQUEENtaROOKtaBISHOPtaKNIGHTtaPAWNaaBLACK CHESS TURNED KING",
     "taQUEENtaROOKtaBISHOPtaKNIGHTtaPAWNaaNEUTRAL CHESS TURNED KINGvaQUEENvaROOKvaBISHOP",
     "vaKNIGHTvaPAWNaaWHITE CHESS KNIGHT ROTATED TWO HUNDRED TWENTY-FIVE DEGREESa|BLACK CHESS",
     "a|NEUTRAL CHESSaiWHITE CHESS KING ROTATED TWO HUNDRED SEVENTYm.QUEENm.ROOKm.BISHOPm.KNIGHT",
     "m.PAWNa.BLACK CHESS KINGm.QUEENm.ROOKm.BISHOPm.KNIGHTm.PAWNa.NEUTRAL CHESS KINGo.QUEEN",
     "o.ROOKo.BISHOPo.KNIGHTo.PAWNaiWHITE CHESS KNIGHT ROTATED THREE HUNDRED FIFTEEN",
     "a^BLACK CHESSa^NEUTRAL CHESSaaWHITE CHESS EQUIHOPPERarBLACKarNEUTRAL",
     "aaWHITE CHESS EQUIHOPPER ROTATED NINETY DEGREESa>BLACKa>NEUTRALaaWHITE CHESS KNIGHT-QUEEN",
     "taROOKtaBISHOPaaBLACK CHESS KNIGHT-QUEENtaROOKtaBISHOP"]),
   (0x1FA60, ["aaXIANGQI RED GENERALmaMANDARINmaELEPHANTmaHORSEmaCHARIOTnaANNONmaSOLDIER",
     "iaBLACK GENERALoaMANDARINoaELEPHANToaHORSEoaCHARIOTpaANNONoaSOLDIER"]),
   (0x1FA70, ["aaBALLET SHOESaaONE-PIECE SWIMSUITaaBRIEFSaaSHORTSaaTHONG SANDAL"]),
   (0x1FA78, ["aaDROP OF BLOODaaADHESIVE BANDAGEaaSTETHOSCOPEaaX-RAYaaCRUTCH"]),
   (0x1FA80, ["aaYO-YOaaKITEaaPARACHUTEaaBOOMERANGaaMAGIC WANDaaPINATAaaNESTING DOLLS"]),
   (0x1FA90, ["aaRINGED PLANETaaCHAIRaaRAZORaaAXEaaDIYA LAMPaaBANJOaaMILITARY HELMETaaACCORDION",
     "aaLONG DRUMaaCOINbaARPENTRY SAWaaSCREWDRIVERaaLADDERaaHOOKaaMIRRORaaWINDOWaaPLUNGER",
     "aaSEWING NEEDLEaaKNOTaaBUCKETaaMOUSE TRAPaaTOOTHBRUSHaaHEADSTONEaaPLACARDaaROCK",
     "aaMIRROR BALLaaIDENTIFICATION CARDaaLOW BATTERYaaHAMSA"]),
   (0x1FAB0, ["aaFLYaaWORMaaBEETLEaaCOCKROACHaaPOTTED PLANTaaWOODaaFEATHERaaLOTUSaaCORAL",
     "aaEMPTY NESTaaNEST WITH EGGS"]),
   (0x1FAC0, ["aaANATOMICAL HEARTaaLUNGSaaPEOPLE HUGGINGbaREGNANT MANjaPERSONbaERSON WITH CROWN"]),
   (0x1FAD0, ["aaBLUEBERRIESbaELL PEPPERaaOLIVEaaFLATBREADaaTAMALEaaFONDUEaaTEAPOT",
     "aaPOURING LIQUIDaaBEANSaaJAR"]),
   (0x1FAE0, ["aaMELTING FACEafSALUTINGaaFACE WITH OPEN EYES AND HAND OVER MOUTHkaPEEKING EYE",
     "kaDIAGONAL MOUTHaaDOTTED LINE FACEaaBITING LIPbaUBBLES"]),
   (0x1FAF0, ["aaHAND WITH INDEX FINGER AND THUMB CROSSEDaaRIGHTWARDS HANDafLEFTWARDSafPALM DOWN",
     "ffUPaaINDEX POINTING AT THE VIEWERaaHEART HANDS"]),
   (0x1FB00, ["aaBLOCK SEXTANT-1oa2oa12oa3oa13oa23oa123oa4oa14oa24oa124oa34oa134oa234oa1234oa5",
     "oa15oa25oa125oa35oa235oa1235oa45oa145oa245oa1245oa345oa1345oa2345oa12345oa6oa16oa26oa126",
     "oa36oa136oa236oa1236oa46oa146pa246oa346oa1346oa2346oa12346oa56oa156oa256oa1256oa356oa1356",
     "oa2356oa12356oa456oa1456oa2456oa12456oa3456oa13456oa23456",
     "aaLOWER LEFT BLOCK DIAGONAL LOWER MIDDLE LEFT TO LOWER CENTRE~aOWER RIGHT",
     "!aUPPER MIDDLE LEFT TO LOWER CENTRE~aOWER RIGHT)aLEFT TO LOWER CENTRE",
     "ghRIGHT BLOCK DIAGONAL UPPER MIDDLE LEFT TO UPPER~aUPPER RIGHT",
     "#aLOWER MIDDLE LEFT TO UPPER CENTRE~aUPPER RIGHT*aLEFT TO UPPER CENTRE",
     "*aMIDDLE LEFT TO UPPER MIDDLE RIGHT*nCENTRE TO LOWER*wLEFT*nCENTRE TO UPPER*wLEFT",
     "*gCENTRE TO UPPERggLEFT BLOCK DIAGONAL UPPER CENTRE TO UPPER MIDDLE)wLEFT)nCENTRE TO LOWER",
     ")wLEFT)gCENTRE TO LOWER)gMIDDLE LEFT TO LOWER MIDDLE",
     "aaUPPER RIGHT BLOCK DIAGONAL LOWER MIDDLE LEFT TO LOWER CENTRE~aLOWER RIGHT",
     "#aUPPER MIDDLE LEFT TO LOWER CENTRE~aLOWER RIGHT*aLEFT TO LOWER CENTRE",
     "ghLEFT BLOCK DIAGONAL UPPER MIDDLE LEFT TO UPPER~aPPER RIGHT",
     "!aLOWER MIDDLE LEFT TO UPPER CENTRE~aPPER RIGHT)aLEFT TO UPPER CENTRE",
     ")aMIDDLE LEFT TO UPPER MIDDLE RIGHT)nCENTRE TO LOWER)wLEFT)nCENTRE TO UPPER)wLEFT",
     ")gCENTRE TO UPPERggRIGHT BLOCK DIAGONAL UPPER CENTRE TO UPPER MIDDLE*wLEFT",
     "*nCENTRE TO LOWER*wLEFT*gCENTRE TO LOWER*gMIDDLE LEFT TO LOWER MIDDLE",
     "gaAND RIGHT AND LOWER TRIANGULAR THREE QUARTERS BLOCKa)LEFT AND LOWER AND RIGHT",
     "a)UPPER AND LEFT AND LOWERa)LEFT AND UPPER AND RIGHTfgTRIANGULAR ONE QUARTERa%UPPERa%RIGHT",
     "a%LOWERaaVERTICAL ONE EIGHTH BLOCK-2!a3!a4!a5!a6!a7aaHORIZONTAL ONE EIGHTH BLOCK-2$a3$a4",
     "$a5$a6$a7aaLEFT AND LOWER ONE EIGHTH BLOCKjrUPPERa#RIGHTkrLOWERa#UPPER",
     "aaHORIZONTAL ONE EIGHTH BLOCK-1358aaUPPER ONE QUARTER BLOCKggTHREE EIGHTHSgoFIVE",
     "ggTHREE QUARTERSggSEVEN EIGHTHSagRIGHT ONE QUARTERggTHREE EIGHTHSgoFIVEggTHREE QUARTERS",
     "ggSEVEN EIGHTHSaaLEFT HALF MEDIUM SHADEasRIGHTasUPPERasLOWERanINVERSE",
     "anUPPER HALF BLOCK AND LOWER HALF INVERSElaINVERSE MEDIUM SHADE AND LOWER HALF BLOCK"]),
   (0x1FB94, ["aaLEFT HALF INVERSE MEDIUM SHADE AND RIGHT HALF BLOCKaaCHECKER BOARD FILL",
     "alINVERSE CHECKERafHEAVY HORIZONTALafUPPER LEFT TO LOWER RIGHTgfRIGHT TO LOWER LEFT",
     "gaAND LOWER TRIANGULAR HALF BLOCKawLEFT AND RIGHTaaUPPER LEFT TRIANGULAR MEDIUM SHADE",
     "gyRIGHTa&LOWERgyLEFTaaBOX DRAWINGS LIGHT DIAGONAL UPPER CENTRE TO MIDDLE LEFT~aLE RIGHT",
     "$aMIDDLE LEFT TO LOWER CENTRE,qRIGHT$qUPPER CENTRE TO MIDDLE LEFT~qLE RIGHT",
     "$aMIDDLE LEFT TO LOWER CENTRE TO MIDDLE RIGHT[xUPPER",
     "$aUPPER CENTRE TO MIDDLE LEFT AND MIDDLE RIGHT TO LOWER CENTRE~qLE RIGHT AND MIDDLE LEFT",
     "~aLE RIGHT TO LOWER CENTRE TO MIDDLE LEFT~aLE LEFT TO LOWER CENTRE TO MIDDLE RIGHT",
     "$aMIDDLE LEFT TO UPPER CENTRE TO MIDDLE RIGHT TO LOWER CENTRE",
     ",qRIGHT TO UPPER CENTRE TO MIDDLE LEFT$aDIAMONDtaHORIZONTAL WITH VERTICAL STROKE",
     "aaARROWHEAD-SHAPED POINTERaaINVERSE CHECK MARKaaLEFT HALF RUNNING MANarRIGHT",
     "aaINVERSE DOWNWARDS ARROW WITH TIP LEFTWARDS",
     "aaLEFTWARDS ARROW AND UPPER AND LOWER ONE EIGHTH BLOCKa[RIGHTWARDS",
     "arDOWNWARDS ARROW AND RIGHTa*UPWARDSaaLEFT HALF FOLDERamRIGHTaaVOIDED GREEK CROSS",
     "aaRIGHT OPEN SQUARED DOTaaNEGATIVE DIAGONAL CROSSsaMIDDLE RIGHT TO LOWER CENTREsaDIAMOND",
     "aaWHITE HEAVY SALTIRE WITH ROUNDED CORNERSaaLEFT THIRD WHITE RIGHT POINTING INDEXa*MIDDLE",
     "a*RIGHTaaNEGATIVE SQUARED QUESTION MARKaaSTICK FIGUREma WITH ARMS RAISEDnaLEANING LEFT",
     "vaRIGHTnaWITH DRESSaaWHITE UP-POINTING CHEVRON"]),
   (0x1FBF0, ["aaSEGMENTED DIGIT ZEROqaONEqaTWOraHREEqaFOURraIVEqaSIXraEVENqaEIGHTqaNINE"]),
   (0xE0001, ["aaLANGUAGE TAG"]),
   (0xE0020, ["aaTAG SPACEeaEXCLAMATION MARKefQUOTATIONeaNUMBER SIGNefDOLLARefPERCENTeaAMPERSAND",
     "faPOSTROPHEeaLEFT PARENTHESISemRIGHTeaASTERISKeaPLUS SIGNeaCOMMAeaHYPHEN-MINUSeaFULL STOP",
     "eaSOLIDUSeaDIGIT ZEROkaONEkaTWOlaHREEkaFOURlaIVEkaSIXlaEVENkaEIGHTkaNINEeaCOLONeaSEMICOLON",
     "eaLESS-THAN SIGNefEQUALSefGREATER-THANeaQUESTION MARKeaCOMMERCIAL AT",
     "eaLATIN CAPITAL LETTER AzaBzaCzaDzaEzaFzaGzaHzaIzaJzaKzaLzaMzaNzaOzaPzaQzaRzaSzaTzaUzaVzaW",
     "zaXzaYzaZfaEFT SQUARE BRACKETeaREVERSE SOLIDUSfaIGHT SQUARE BRACKETeaCIRCUMFLEX ACCENT",
     "eaLOW LINEeaGRAVE ACCENTeaLATIN SMALL LETTER AxaBxaCxaDxaExaFxaGxaHxaIxaJxaKxaLxaMxaNxaO",
     "xaPxaQxaRxaSxaTxaUxaVxaWxaXxaYxaZfaEFT CURLY BRACKETeaVERTICAL LINEeaRIGHT CURLY BRACKET",
     "eaTILDEaaCANCEL TAG"]),
   (0xE0100, ["aaVARIATION SELECTOR-17ua8ua9ta20ua1ua2ua3ua4ua5ua6ua7ua8ua9ta30ua1ua2ua3ua4ua5",
     "ua6ua7ua8ua9ta40ua1ua2ua3ua4ua5ua6ua7ua8ua9ta50ua1ua2ua3ua4ua5ua6ua7ua8ua9ta60ua1ua2ua3ua4",
     "ua5ua6ua7ua8ua9ta70ua1ua2ua3ua4ua5ua6ua7ua8ua9ta80ua1ua2ua3ua4ua5ua6ua7ua8ua9ta90ua1ua2ua3",
     "ua4ua5ua6ua7ua8ua9ta100va1va2va3va4va5va6va7va8va9ua10va1va2va3va4va5va6va7va8va9ua20va1",
     "va2va3va4va5va6va7va8va9ua30va1va2va3va4va5va6va7va8va9ua40va1va2va3va4va5va6va7va8va9ua50",
     "va1va2va3va4va5va6va7va8va9ua60va1va2va3va4va5va6va7va8va9ua70va1va2va3va4va5va6va7va8va9",
     "ua80va1va2va3va4va5va6va7va8va9ua90va1va2va3va4va5va6va7va8va9ta200va1va2va3va4va5va6va7",
     "va8va9ua10va1va2va3va4va5va6va7va8va9ua20va1va2va3va4va5va6va7va8va9ua30va1va2va3va4va5va6",
     "va7va8va9ua40va1va2va3va4va5va6va7va8va9ua50va1va2va3va4va5va6"])]

end Intake.Text
