import Intake.Text.CharName.Basic

/-!
# Names of characters: U+0020 to U+0FFF

The names of the alphabets of Europe, the Near East and India.

## Main definitions

* `alphabetNames` — the runs of names.
-/

namespace Intake.Text

/-- The names of the characters U+0020 to U+0FFF. -/
def alphabetNames : List NameRun :=
  [(0x20, ["aaSPACEaaEXCLAMATION MARKafQUOTATIONaaNUMBER SIGNafDOLLARafPERCENTaaAMPERSAND",
     "baPOSTROPHEaaLEFT PARENTHESISamRIGHTaaASTERISKaaPLUS SIGNaaCOMMAaaHYPHEN-MINUSaaFULL STOP",
     "aaSOLIDUSaaDIGIT ZEROgaONEgaTWOhaHREEgaFOURhaIVEgaSIXhaEVENgaEIGHTgaNINEaaCOLONaaSEMICOLON",
     "aaLESS-THAN SIGNafEQUALSafGREATER-THANaaQUESTION MARKaaCOMMERCIAL AT",
     "aaLATIN CAPITAL LETTER AvaBvaCvaDvaEvaFvaGvaHvaIvaJvaKvaLvaMvaNvaOvaPvaQvaRvaSvaTvaUvaVvaW",
     "vaXvaYvaZbaEFT SQUARE BRACKETaaREVERSE SOLIDUSbaIGHT SQUARE BRACKETaaCIRCUMFLEX ACCENT",
     "aaLOW LINEaaGRAVE ACCENTaaLATIN SMALL LETTER AtaBtaCtaDtaEtaFtaGtaHtaItaJtaKtaLtaMtaNtaO",
     "taPtaQtaRtaStaTtaUtaVtaWtaXtaYtaZbaEFT CURLY BRACKETaaVERTICAL LINEaaRIGHT CURLY BRACKET",
     "aaTILDE"]),
   (0xA0, ["aaNO-BREAK SPACEaaINVERTED EXCLAMATION MARKaaCENT SIGNafPOUNDafCURRENCYafYEN",
     "aaBROKEN BARaaSECTION SIGNaaDIAERESISaaCOPYRIGHT SIGNaaFEMININE ORDINAL INDICATOR",
     "aaLEFT-POINTING DOUBLE ANGLE QUOTATION MARKaaNOT SIGNaaSOFT HYPHENaaREGISTERED SIGN",
     "aaMACRONaaDEGREE SIGNafPLUS-MINUSaaSUPERSCRIPT TWOnaHREEaaACUTE ACCENTaaMICRO SIGN",
     "afPILCROWaaMIDDLE DOTaaCEDILLAaaSUPERSCRIPT ONEaaMASCULINE ORDINAL INDICATOR",
     "aaRIGHT-POINTING DOUBLE ANGLE QUOTATION MARKaaVULGAR FRACTION ONE QUARTERuaHALF",
     "qaTHREE QUARTERSaaINVERTED QUESTION MARKaaLATIN CAPITAL LETTER A WITH GRAVE$aACUTE",
     "$aCIRCUMFLEX$aTILDE$aDIAERESIS$aRING ABOVEwaEvaC WITH CEDILLAvaE WITH GRAVE$aACUTE",
     "$aCIRCUMFLEX$aDIAERESISvaI WITH GRAVE$aACUTE$aCIRCUMFLEX$aDIAERESISvaETHvaN WITH TILDE",
     "vaO WITH GRAVE$aACUTE$aCIRCUMFLEX$aTILDE$aDIAERESISaaMULTIPLICATION SIGN",
     "aaLATIN CAPITAL LETTER O WITH STROKEvaU WITH GRAVE$aACUTE$aCIRCUMFLEX$aDIAERESIS",
     "vaY WITH ACUTEvaTHORNgaSMALL LETTER SHARP StaA WITH GRAVE!aACUTE!aCIRCUMFLEX!aTILDE",
     "!aDIAERESIS!aRING ABOVEuaEtaC WITH CEDILLAtaE WITH GRAVE!aACUTE!aCIRCUMFLEX!aDIAERESIS",
     "taI WITH GRAVE!aACUTE!aCIRCUMFLEX!aDIAERESIStaETHtaN WITH TILDEtaO WITH GRAVE!aACUTE",
     "!aCIRCUMFLEX!aTILDE!aDIAERESISaaDIVISION SIGNaaLATIN SMALL LETTER O WITH STROKE",
     "taU WITH GRAVE!aACUTE!aCIRCUMFLEX!aDIAERESIStaY WITH ACUTEtaTHORNtaY WITH DIAERESIS",
     "gaCAPITAL LETTER A WITH MACRONgvSMALLgaCAPITAL LETTER A WITH BREVEguSMALL",
     "gaCAPITAL LETTER A WITH OGONEKgvSMALLgaCAPITAL LETTER C WITH ACUTEguSMALL",
     "gaCAPITAL LETTER C WITH CIRCUMFLEXgzSMALLgaCAPITAL LETTER C WITH DOT ABOVEgySMALL",
     "gaCAPITAL LETTER C WITH CARONguSMALLglCAPITAL LETTER DguSMALL",
     "gaCAPITAL LETTER D WITH STROKEgvSMALLgaCAPITAL LETTER E WITH MACRONgvSMALL",
     "gaCAPITAL LETTER E WITH BREVEguSMALLgaCAPITAL LETTER E WITH DOT ABOVEgySMALL",
     "gaCAPITAL LETTER E WITH OGONEKgvSMALLgaCAPITAL LETTER E WITH CARONguSMALL",
     "gaCAPITAL LETTER G WITH CIRCUMFLEXgzSMALLgaCAPITAL LETTER G WITH BREVEguSMALL",
     "gaCAPITAL LETTER G WITH DOT ABOVEgySMALLgaCAPITAL LETTER G WITH CEDILLAgwSMALL",
     "gaCAPITAL LETTER H WITH CIRCUMFLEXgzSMALLgaCAPITAL LETTER H WITH STROKEgvSMALL",
     "gaCAPITAL LETTER I WITH TILDEguSMALLgaCAPITAL LETTER I WITH MACRONgvSMALL",
     "gaCAPITAL LETTER I WITH BREVEguSMALLgaCAPITAL LETTER I WITH OGONEKgvSMALL",
     "gaCAPITAL LETTER I WITH DOT ABOVEgaSMALL LETTER DOTLESS IgaCAPITAL LIGATURE IJgmSMALL",
     "gaCAPITAL LETTER J WITH CIRCUMFLEXgzSMALLgaCAPITAL LETTER K WITH CEDILLAgwSMALLuaRA",
     "gaCAPITAL LETTER L WITH ACUTEguSMALLgaCAPITAL LETTER L WITH CEDILLAgwSMALL",
     "gaCAPITAL LETTER L WITH CARONguSMALLgaCAPITAL LETTER L WITH MIDDLE DOTgzSMALL",
     "gaCAPITAL LETTER L WITH STROKEgvSMALLgaCAPITAL LETTER N WITH ACUTEguSMALL",
     "gaCAPITAL LETTER N WITH CEDILLAgwSMALLgaCAPITAL LETTER N WITH CARONguSMALL",
     "vaPRECEDED BY APOSTROPHEgaCAPITAL LETTER ENGglSMALLgaCAPITAL LETTER O WITH MACRONgvSMALL",
     "gaCAPITAL LETTER O WITH BREVEguSMALLgaCAPITAL LETTER O WITH DOUBLE ACUTEg#SMALL",
     "gaCAPITAL LIGATURE OEgmSMALLgaCAPITAL LETTER R WITH ACUTEguSMALL",
     "gaCAPITAL LETTER R WITH CEDILLAgwSMALLgaCAPITAL LETTER R WITH CARONguSMALL",
     "gaCAPITAL LETTER S WITH ACUTEguSMALLgaCAPITAL LETTER S WITH CIRCUMFLEXgzSMALL",
     "gaCAPITAL LETTER S WITH CEDILLAgwSMALLgaCAPITAL LETTER S WITH CARONguSMALL",
     "gaCAPITAL LETTER T WITH CEDILLAgwSMALLgaCAPITAL LETTER T WITH CARONguSMALL",
     "gaCAPITAL LETTER T WITH STROKEgvSMALLgaCAPITAL LETTER U WITH TILDEguSMALL",
     "gaCAPITAL LETTER U WITH MACRONgvSMALLgaCAPITAL LETTER U WITH BREVEguSMALL",
     "gaCAPITAL LETTER U WITH RING ABOVEgzSMALLgaCAPITAL LETTER U WITH DOUBLE ACUTEg#SMALL",
     "gaCAPITAL LETTER U WITH OGONEKgvSMALLgaCAPITAL LETTER W WITH CIRCUMFLEXgzSMALL",
     "gqCAPITAL LETTER YgzSMALLgaCAPITAL LETTER Y WITH DIAERESISvaZ WITH ACUTEguSMALL",
     "gaCAPITAL LETTER Z WITH DOT ABOVEgySMALLgaCAPITAL LETTER Z WITH CARONguSMALLtaLONG S",
     "taB WITH STROKEgaCAPITAL LETTER B WITH HOOK$aTOPBARgvSMALLgaCAPITAL LETTER TONE SIXgqSMALL",
     "gaCAPITAL LETTER OPEN OvaC WITH HOOKgtSMALLgaCAPITAL LETTER AFRICAN DvaD WITH HOOK$aTOPBAR",
     "gvSMALLtaTURNED DELTAgaCAPITAL LETTER REVERSED EvaSCHWAvaOPEN EvaF WITH HOOKgtSMALL",
     "gkCAPITAL LETTER GwaAMMAgaSMALL LETTER HVgaCAPITAL LETTER IOTAwa WITH STROKEvaK WITH HOOK",
     "gtSMALLtaL WITH BARuaAMBDA WITH STROKEgaCAPITAL LETTER TURNED MvaN WITH LEFT HOOK",
     "gaSMALL LETTER N WITH LONG RIGHT LEGgaCAPITAL LETTER O WITH MIDDLE TILDE$aHORNgtSMALL",
     "gaCAPITAL LETTER OIgkSMALLgaCAPITAL LETTER P WITH HOOKgtSMALLgaLETTER YR",
     "gaCAPITAL LETTER TONE TWOgqSMALLgaCAPITAL LETTER ESHgaLETTER REVERSED ESH LOOP",
     "gaSMALL LETTER T WITH PALATAL HOOKgfCAPITAL LETTER T WITHgtSMALL",
     "gfCAPITAL LETTER T WITH RETROFLEXvaU WITH HORNgtSMALLgaCAPITAL LETTER UPSILONvaV WITH HOOK",
     "vkYgtSMALLgaCAPITAL LETTER Z WITH STROKEgvSMALLgaCAPITAL LETTER EZHya REVERSEDguSMALL",
     "xaWITH TAILgaLETTER TWO WITH STROKEgaCAPITAL LETTER TONE FIVEgrSMALL",
     "gaLETTER INVERTED GLOTTAL STOP WITH STROKEnaWYNNnaDENTAL CLICKngLATERALngALVEOLAR",
     "ngRETROFLEXgaCAPITAL LETTER DZ WITH CARONwl WITH SMALL LETTER ZglSMALL LETTER DZ",
     "gaCAPITAL LETTER LJwa WITH SMALL LETTER JgaSMALL LETTER LJgaCAPITAL LETTER NJ",
     "wa WITH SMALL LETTER JgaSMALL LETTER NJgaCAPITAL LETTER A WITH CARONguSMALL",
     "glCAPITAL LETTER IguSMALLglCAPITAL LETTER OguSMALLglCAPITAL LETTER UguSMALL",
     "gaCAPITAL LETTER U WITH DIAERESIS AND MACRONg,SMALL",
     "gaCAPITAL LETTER U WITH DIAERESIS AND ACUTEg+SMALL",
     "gaCAPITAL LETTER U WITH DIAERESIS AND CARONg+SMALL",
     "gaCAPITAL LETTER U WITH DIAERESIS AND GRAVEg+SMALLtaTURNED E",
     "gaCAPITAL LETTER A WITH DIAERESIS AND MACRONg,SMALLglCAPITAL LETTER A WITH DOT ABOVE",
     "g,SMALLghCAPITAL LETTER AE WITHgwSMALLgaCAPITAL LETTER G WITH STROKEgvSMALL",
     "gaCAPITAL LETTER G WITH CARONguSMALLglCAPITAL LETTER KguSMALL",
     "gaCAPITAL LETTER O WITH OGONEKgvSMALLgaCAPITAL LETTER O WITH OGONEK AND MACRONg)SMALL",
     "gaCAPITAL LETTER EZH WITH CARONgwSMALLtlJgaCAPITAL LETTER DZwa WITH SMALL LETTER Z",
     "gaSMALL LETTER DZgaCAPITAL LETTER G WITH ACUTEguSMALLgaCAPITAL LETTER HWAIRvaWYNN",
     "vaN WITH GRAVEguSMALLgaCAPITAL LETTER A WITH RING ABOVE AND ACUTEg,SMALL",
     "ggCAPITAL LETTER AE WITHgvSMALLggCAPITAL LETTER O WITH STROKE ANDg(SMALL",
     "gaCAPITAL LETTER A WITH DOUBLE GRAVEg#SMALLgaCAPITAL LETTER A WITH INVERTED BREVEg%SMALL",
     "gaCAPITAL LETTER E WITH DOUBLE GRAVEg#SMALLgaCAPITAL LETTER E WITH INVERTED BREVEg%SMALL",
     "gaCAPITAL LETTER I WITH DOUBLE GRAVEg#SMALLgaCAPITAL LETTER I WITH INVERTED BREVEg%SMALL",
     "gaCAPITAL LETTER O WITH DOUBLE GRAVEg#SMALLgaCAPITAL LETTER O WITH INVERTED BREVEg%SMALL",
     "gaCAPITAL LETTER R WITH DOUBLE GRAVEg#SMALLgaCAPITAL LETTER R WITH INVERTED BREVEg%SMALL",
     "gaCAPITAL LETTER U WITH DOUBLE GRAVEg#SMALLgaCAPITAL LETTER U WITH INVERTED BREVEg%SMALL",
     "gaCAPITAL LETTER S WITH COMMA BELOWg!SMALLgrCAPITAL LETTER Tg!SMALLgaCAPITAL LETTER YOGH",
     "gmSMALLgaCAPITAL LETTER H WITH CARONguSMALLgaCAPITAL LETTER N WITH LONG RIGHT LEG",
     "gaSMALL LETTER D WITH CURLgaCAPITAL LETTER OUgkSMALLgaCAPITAL LETTER Z WITH HOOKgtSMALL",
     "gaCAPITAL LETTER A WITH DOT ABOVEgySMALLgaCAPITAL LETTER E WITH CEDILLAgwSMALL",
     "gaCAPITAL LETTER O WITH DIAERESIS AND MACRONg,SMALLglCAPITAL LETTER O WITH TILDEg(SMALL",
     "gaCAPITAL LETTER O WITH DOT ABOVEgySMALLgaCAPITAL LETTER O WITH DOT ABOVE AND MACRON",
     "g,SMALLghCAPITAL LETTER Y WITHgvSMALLtaL WITH CURLtkNtkTtaDOTLESS JuaB DIGRAPHtiQP",
     "gaCAPITAL LETTER A WITH STROKEvmCgvSMALLgaCAPITAL LETTER L WITH BAR",
     "vaT WITH DIAGONAL STROKEgaSMALL LETTER S WITH SWASH TAILtqZgaCAPITAL LETTER GLOTTAL STOP",
     "guSMALLgaCAPITAL LETTER B WITH STROKEvaU BARvaTURNED VvaE WITH STROKEgvSMALL",
     "gmCAPITAL LETTER JgvSMALLgaCAPITAL LETTER SMALL Q WITH HOOK TAILgrSMALL LETTER",
     "gaCAPITAL LETTER R WITH STROKEgvSMALLgmCAPITAL LETTER YgvSMALLtaTURNED AtaALPHA",
     "taTURNED ALPHAtaB WITH HOOKtaOPEN OtaC WITH CURLtaD WITH TAIL!aHOOKtaREVERSED EtaSCHWA",
     "ya WITH HOOKtaOPEN EtcREVERSED OPEN+a WITH HOOKtaCLOSED REVERSED OPEN E",
     "taDOTLESS J WITH STROKEtaG WITH HOOKtaSCRIPT GgcLETTER SMALL CAPITALgaSMALL LETTER GAMMA",
     "taRAMS HORNtaTURNED HtaH WITH HOOKukENGtaI WITH STROKEuaOTAgaLETTER SMALL CAPITAL I",
     "gaSMALL LETTER L WITH MIDDLE TILDE!aBELT!aRETROFLEX HOOKuaEZHtaTURNED M#a WITH LONG LEG",
     "taM WITH HOOKtfN WITH LEFT!fRETROFLEXgaLETTER SMALL CAPITAL NgaSMALL LETTER BARRED O",
     "gaLETTER SMALL CAPITAL OEgaSMALL LETTER CLOSED OMEGAtaPHItaTURNED R#a WITH LONG LEG*aHOOK",
     "taR WITH LONG LEG!aTAIL!aFISHHOOKuoEVERSED RgaLETTER SMALL CAPITAL R#aINVERTED R",
     "gaSMALL LETTER S WITH HOOKtaESHtaDOTLESS J WITH STROKE AND HOOKtaSQUAT REVERSED ESH",
     "taESH WITH CURLtaTURNED Tua WITH RETROFLEX HOOKtaU BARuaPSILONtaV WITH HOOKtaTURNED V!aW",
     "!aYgcLETTER SMALL CAPITALgaSMALL LETTER Z WITH RETROFLEX HOOK!aCURLtaEZHwa WITH CURL",
     "gaLETTER GLOTTAL STOPnaPHARYNGEAL VOICED FRICATIVEnaINVERTED GLOTTAL STOPnaSTRETCHED C",
     "naBILABIAL CLICKnaSMALL CAPITAL BgaSMALL LETTER CLOSED OPEN E",
     "gaLETTER SMALL CAPITAL G WITH HOOK#aHgaSMALL LETTER J WITH CROSSED-TAILtaTURNED K",
     "gaLETTER SMALL CAPITAL LgaSMALL LETTER Q WITH HOOKgaLETTER GLOTTAL STOP WITH STROKE",
     "nrREVERSED GLOTTALgaSMALL LETTER DZ DIGRAPHuiEZHuaZ DIGRAPH WITH CURLtaTS DIGRAPHuiESH",
     "uaC DIGRAPH WITH CURLtaFENG DIGRAPHtiLSuiZgaLETTER BILABIAL PERCUSSIVEplDENTAL",
     "gaSMALL LETTER TURNED H WITH FISHHOOK?a AND TAILaaMODIFIER LETTER SMALL Hxa WITH HOOKwaJ",
     "waRwaTURNED R&a WITH HOOKwaCAPITAL INVERTED RwaWwaYqaPRIMEqaDOUBLE PRIMEqaTURNED COMMA",
     "qaAPOSTROPHEqaREVERSED COMMAraIGHT HALF RINGqkLEFTqaGLOTTAL STOPqfREVERSED GLOTTAL",
     "qaLEFT ARROWHEADqkRIGHTqkUPqkDOWNqaCIRCUMFLEX ACCENTaaCARONaaMODIFIER LETTER VERTICAL LINE",
     "qaMACRONqaACUTE ACCENTqhGRAVEqaLOW VERTICAL LINEuaMACRONuaGRAVE ACCENTuhACUTE",
     "qaTRIANGULAR COLONqgHALF TRIANGULARqaCENTRED RIGHT HALF RINGykLEFTqaUP TACKqfDOWN",
     "qaPLUS SIGNqfMINUSaaBREVEaaDOT ABOVEagRINGaaOGONEKaaSMALL TILDEaaDOUBLE ACUTE ACCENT",
     "aaMODIFIER LETTER RHOTIC HOOKqaCROSS ACCENTqaSMALL GAMMAwaLwaSwaXwaREVERSED GLOTTAL STOP",
     "qaEXTRA-HIGH TONE BARqjHIGHqjMIDqjLOWqjEXTRA-LOWqaYIN DEPARTING TONE MARKruANGqaVOICING",
     "qaUNASPIRATEDqaDOUBLE APOSTROPHEqaLOW DOWN ARROWHEADukUPukLEFTukRIGHTwaNG",
     "qaMIDDLE GRAVE ACCENTxhDOUBLE GRAVE&hACUTEqaLOW TILDEqaRAISED COLONqaBEGIN HIGH TONEqkEND",
     "qfBEGIN LOWqjENDqaSHELFqaOPEN SHELFqaLOW LEFT ARROWaaCOMBINING GRAVE ACCENTkhACUTE",
     "khCIRCUMFLEXkaTILDEkaMACRONkaOVERLINEkaBREVEkaDOT ABOVElaIAERESISkaHOOK ABOVEkgRING",
     "kaDOUBLE ACUTE ACCENTkaCARONkaVERTICAL LINE ABOVEklDOUBLE VERTICALraGRAVE ACCENT",
     "kaCANDRABINDUkaINVERTED BREVEkaTURNED COMMA ABOVEkgCOMMAkgREVERSED COMMA",
     "kaCOMMA ABOVE RIGHTkaGRAVE ACCENT BELOWknACUTEkgLEFT TACKklRIGHTkaLEFT ANGLE ABOVEkaHORN",
     "kaLEFT HALF RING BELOWkgUP TACKklDOWNkgPLUS SIGNklMINUSkgPALATALIZED HOOKklRETROFLEXkgDOT",
     "lgIAERESISkgRINGkgCOMMAlaEDILLAkaOGONEKkaVERTICAL LINE BELOWkgBRIDGEkgINVERTED DOUBLE ARCH",
     "kgCARONlgIRCUMFLEX ACCENTkgBREVEkgINVERTED BREVEkgTILDEkgMACRONkaLOW LINEkfDOUBLE LOW",
     "kaTILDE OVERLAYkiSHORT STROKEkpLONGkiSHORT SOLIDUSkqLONGkaRIGHT HALF RING BELOW",
     "kgINVERTED BRIDGEkgSQUARElgEAGULLkaX ABOVEkaVERTICAL TILDEkaDOUBLE OVERLINE",
     "kaGRAVE TONE MARKkkACUTEkaGREEK PERISPOMENIqaKORONISqaDIALYTIKA TONOSqaYPOGEGRAMMENI",
     "kaBRIDGE ABOVEkaEQUALS SIGN BELOWkgDOUBLE VERTICAL LINEkgLEFT ANGLEkaNOT TILDE ABOVE",
     "kgHOMOTHETICkgALMOST EQUAL TOkaLEFT RIGHT ARROW BELOWkmUPWARDSkaGRAPHEME JOINER",
     "kaRIGHT ARROWHEAD ABOVEkgLEFT HALF RINGkaFERMATAkaX BELOWkgLEFT ARROWHEADkqRIGHT",
     "!aAND UP ARROWHEAD BELOWqaHALF RING ABOVEkaDOT ABOVE RIGHTkaASTERISK BELOWkgDOUBLE RING",
     "kaZIGZAG ABOVEkaDOUBLE BREVE BELOWwaraMACRONxa BELOWraTILDEraINVERTED BREVE",
     "raRIGHTWARDS ARROW BELOWkaLATIN SMALL LETTER A%aE%aI%aO%aU%aC%aD%aH%aM%aR%aT%aV%aX",
     "aaGREEK CAPITAL LETTER HETAgmSMALLgaCAPITAL LETTER ARCHAIC SAMPIgvSMALLgaNUMERAL SIGN",
     "gfLOWER NUMERALgaCAPITAL LETTER PAMPHYLIAN DIGAMMAg!SMALL"]),
   (0x37A, ["aaGREEK YPOGEGRAMMENIgaSMALL REVERSED LUNATE SIGMA SYMBOLmuDOTTEDmuREVERSED DOTTED",
     "gaQUESTION MARKgaCAPITAL LETTER YOT"]),
   (0x384, ["aaGREEK TONOSgaDIALYTIKA TONOSggCAPITAL LETTER ALPHA WITHgaANO TELEIA",
     "gaCAPITAL LETTER EPSILON WITH TONOSwlTAvlIOTA"]),
   (0x38C, ["aaGREEK CAPITAL LETTER OMICRON WITH TONOS"]),
   (0x38E, ["aaGREEK CAPITAL LETTER UPSILON WITH TONOSvlOMEGA",
     "ggSMALL LETTER IOTA WITH DIALYTIKA ANDgaCAPITAL LETTER ALPHAvaBETAvaGAMMAvaDELTAvaEPSILON",
     "vaZETAvaETAvaTHETAvaIOTAvaKAPPAvaLAMDAvaMUvaNUvaXIvaOMICRONvaPIvaRHO"]),
   (0x3A3, ["aaGREEK CAPITAL LETTER SIGMAvaTAUvaUPSILONvaPHIvaCHIvaPSIvaOMEGA",
     "vaIOTA WITH DIALYTIKAvpUPSILONgaSMALL LETTER ALPHA WITH TONOStlEPSILONulTAtlIOTA",
     "tgUPSILON WITH DIALYTIKA ANDtaALPHAtaBETAtaGAMMAtaDELTAtaEPSILONtaZETAtaETAtaTHETAtaIOTA",
     "taKAPPAtaLAMDAtaMUtaNUtaXItaOMICRONtaPItaRHOtaFINAL SIGMAtaSIGMAtaTAUtaUPSILONtaPHItaCHI",
     "taPSItaOMEGAtaIOTA WITH DIALYTIKAtpUPSILONtaOMICRON WITH TONOStlUPSILONtlOMEGA",
     "gaCAPITAL KAI SYMBOLghBETAghTHETAghUPSILON WITH HOOKthACUTE AND HOOKtqDIAERESISghPHIhhI",
     "ghKAIgaLETTER ARCHAIC KOPPAgoSMALL LETTERgaLETTER STIGMAghSMALL LETTERgaLETTER DIGAMMA",
     "giSMALL LETTERgaLETTER KOPPAggSMALL LETTERgaLETTER SAMPIggSMALL LETTER",
     "aaCOPTIC CAPITAL LETTER SHEIhmSMALLhaCAPITAL LETTER FEIhlSMALLhaCAPITAL LETTER KHEIhmSMALL",
     "haCAPITAL LETTER HORIhmSMALLhaCAPITAL LETTER GANGIAhoSMALLhaCAPITAL LETTER SHIMAhnSMALL",
     "haCAPITAL LETTER DEIhlSMALLaaGREEK KAPPA SYMBOLghRHOghLUNATE SIGMAhaETTER YOT",
     "gaCAPITAL THETA SYMBOLghLUNATE EPSILONgpREVERSED LUNATEgaCAPITAL LETTER SHOglSMALL",
     "gaCAPITAL LUNATE SIGMA SYMBOLpaETTER SANglSMALLgaRHO WITH STROKE SYMBOL",
     "ghCAPITAL REVERSED LUNATE SIGMAouDOTTEDouREVERSED DOTTED",
     "aaCYRILLIC CAPITAL LETTER IE WITH GRAVEzaOyaDJEyaGJEyaUKRAINIAN IEyaDZE",
     "yaBYELORUSSIAN-UKRAINIAN IyaYIyaJEyaLJEyaNJEyaTSHEyaKJEyaI WITH GRAVEyaSHORT UyaDZHEyaA",
     "yaBEyaVEyaGHEyaDEyaIEyaZHEzaEyaIyaSHORT IyaKAyaELzaMzaNyaOyaPEyaERzaSyaTEyaUyaEFyaHAyaTSE",
     "yaCHEyaSHA!aCHAyaHARD SIGNyaYERUyaSOFT SIGNyaEyaYUzaAjaSMALL LETTER AwaBEwaVEwaGHEwaDEwaIE",
     "waZHExaEwaIwaSHORT IwaKAwaELxaMxaNwaOwaPEwaERxaSwaTEwaUwaEFwaHAwaTSEwaCHEwaSHAyaCHA",
     "waHARD SIGNwaYERUwaSOFT SIGNwaEwaYUxaAwaIE WITH GRAVExaOwaDJEwaGJEwaUKRAINIAN IEwaDZE",
     "waBYELORUSSIAN-UKRAINIAN IwaYIwaJEwaLJEwaNJEwaTSHEwaKJEwaI WITH GRAVEwaSHORT UwaDZHE",
     "jaCAPITAL LETTER OMEGAjnSMALLjaCAPITAL LETTER YATjlSMALLjaCAPITAL LETTER IOTIFIED EjsSMALL",
     "jaCAPITAL LETTER LITTLE YUSjsSMALLjlCAPITAL LETTER IOTIFIEDj#SMALLjeCAPITAL LETTER BIG",
     "jpSMALLjiCAPITAL LETTER IOTIFIEDjySMALLjaCAPITAL LETTER KSIjlSMALLjaCAPITAL LETTER PSI",
     "jlSMALLjaCAPITAL LETTER FITAjmSMALLjaCAPITAL LETTER IZHITSAjpSMALL",
     "jaCAPITAL LETTER IZHITSA WITH DOUBLE GRAVE ACCENTj>SMALLjaCAPITAL LETTER UKjkSMALL",
     "jaCAPITAL LETTER ROUND OMEGAjtSMALLjaCAPITAL LETTER OMEGA WITH TITLOjySMALL",
     "jaCAPITAL LETTER OTjkSMALLjaCAPITAL LETTER KOPPAjnSMALLjaTHOUSANDS SIGN",
     "baOMBINING CYRILLIC TITLOtaPALATALIZATIONtaDASIA PNEUMATAtjPSILIuaOKRYTIE",
     "taHUNDRED THOUSANDS SIGNtfMILLIONSbaYRILLIC CAPITAL LETTER SHORT I WITH TAILjzSMALL",
     "jaCAPITAL LETTER SEMISOFT SIGNjvSMALLjaCAPITAL LETTER ER WITH TICKjuSMALL",
     "jaCAPITAL LETTER GHE WITH UPTURNjxSMALLjaCAPITAL LETTER GHE WITH STROKEjxSMALL",
     "jaCAPITAL LETTER GHE WITH MIDDLE HOOKj$SMALLjaCAPITAL LETTER ZHE WITH DESCENDERj!SMALL",
     "jpCAPITAL LETTER ZEjzSMALLjpCAPITAL LETTER KAjzSMALL",
     "jaCAPITAL LETTER KA WITH VERTICAL STROKEj(SMALLjhCAPITAL LETTER KA WITHjwSMALL",
     "jaCAPITAL LETTER BASHKIR KAjsSMALLjaCAPITAL LETTER EN WITH DESCENDERjzSMALL",
     "jaCAPITAL LIGATURE EN GHEjqSMALLjaCAPITAL LETTER PE WITH MIDDLE HOOKj#SMALL",
     "jaCAPITAL LETTER ABKHASIAN HAjuSMALLjaCAPITAL LETTER ES WITH DESCENDERjzSMALL",
     "jpCAPITAL LETTER TEjzSMALLjaCAPITAL LETTER STRAIGHT UjsSMALL",
     "jaCAPITAL LETTER STRAIGHT U WITH STROKEj&SMALLjaCAPITAL LETTER HA WITH DESCENDERjzSMALL",
     "jaCAPITAL LIGATURE TE TSEjqSMALLjaCAPITAL LETTER CHE WITH DESCENDERj!SMALL",
     "jaCAPITAL LETTER CHE WITH VERTICAL STROKEj)SMALLjaCAPITAL LETTER SHHAjmSMALL",
     "jaCAPITAL LETTER ABKHASIAN CHEjvSMALLjaCAPITAL LETTER ABKHASIAN CHE WITH DESCENDERj.SMALL",
     "jaLETTER PALOCHKAjaCAPITAL LETTER ZHE WITH BREVEjwSMALLjaCAPITAL LETTER KA WITH HOOK",
     "juSMALLjaCAPITAL LETTER EL WITH TAILjuSMALLjaCAPITAL LETTER EN WITH HOOKjuSMALL",
     "jaCAPITAL LETTER EN WITH TAILjuSMALLjaCAPITAL LETTER KHAKASSIAN CHEjwSMALL",
     "jaCAPITAL LETTER EM WITH TAILjuSMALLwaPALOCHKAjaCAPITAL LETTER A WITH BREVEjuSMALL",
     "jaCAPITAL LETTER A WITH DIAERESISjySMALLjaCAPITAL LIGATURE A IEjoSMALL",
     "jaCAPITAL LETTER IE WITH BREVEjvSMALLjaCAPITAL LETTER SCHWAjnSMALL",
     "jaCAPITAL LETTER SCHWA WITH DIAERESISj$SMALLjpCAPITAL LETTER ZHEj!SMALLjpCAPITAL LETTER ZE",
     "jzSMALLjaCAPITAL LETTER ABKHASIAN DZEjvSMALLjaCAPITAL LETTER I WITH MACRONjvSMALL",
     "jaCAPITAL LETTER I WITH DIAERESISjySMALLjpCAPITAL LETTER OjySMALLjaCAPITAL LETTER BARRED O",
     "jqSMALLjaCAPITAL LETTER BARRED O WITH DIAERESISj(SMALLjpCAPITAL LETTER EjySMALL",
     "jaCAPITAL LETTER U WITH MACRONjvSMALLjaCAPITAL LETTER U WITH DIAERESISjySMALL",
     "jaCAPITAL LETTER U WITH DOUBLE ACUTEj#SMALLjaCAPITAL LETTER CHE WITH DIAERESISj!SMALL",
     "jaCAPITAL LETTER GHE WITH DESCENDERj!SMALLjaCAPITAL LETTER YERU WITH DIAERESISj#SMALL",
     "jaCAPITAL LETTER GHE WITH STROKE AND HOOKj)SMALLjfCAPITAL LETTER HA WITHjuSMALL",
     "jaCAPITAL LETTER HA WITH STROKEjwSMALLjaCAPITAL LETTER KOMI DEjpSMALL",
     "jaCAPITAL LETTER KOMI DJEjqSMALLjaCAPITAL LETTER KOMI ZJEjqSMALLjaCAPITAL LETTER KOMI DZJE",
     "jrSMALLjaCAPITAL LETTER KOMI LJEjqSMALLjaCAPITAL LETTER KOMI NJEjqSMALL",
     "jaCAPITAL LETTER KOMI SJEjqSMALLjaCAPITAL LETTER KOMI TJEjqSMALL",
     "jaCAPITAL LETTER REVERSED ZEjtSMALLjaCAPITAL LETTER EL WITH HOOKjuSMALL",
     "jaCAPITAL LETTER LHAjlSMALLjaCAPITAL LETTER RHAjlSMALLjaCAPITAL LETTER YAEjlSMALL",
     "jaCAPITAL LETTER QAjkSMALLjaCAPITAL LETTER WEjkSMALLjaCAPITAL LETTER ALEUT KAjqSMALL",
     "jaCAPITAL LETTER EL WITH MIDDLE HOOKj#SMALLjrCAPITAL LETTER ENj#SMALL",
     "jaCAPITAL LETTER PE WITH DESCENDERjzSMALLjpCAPITAL LETTER SHHAj#SMALL",
     "jaCAPITAL LETTER EN WITH LEFT HOOKjzSMALLjaCAPITAL LETTER DZZHEjnSMALL",
     "jaCAPITAL LETTER DCHEjmSMALLjaCAPITAL LETTER EL WITH DESCENDERjzSMALL"]),
   (0x531, ["aaARMENIAN CAPITAL LETTER AYByaBENyaGIMyaDAyaECHyaZAyaEHzaTyaTOyaZHEyaINIyaLIWN",
     "yaXEHyaCAyaKENyaHOyaJAyaGHADyaCHEHyaMENyaYIyaNOWyaSHAyaVOyaCHAyaPEHyaJHEHyaRAyaSEHyaVEW",
     "yaTIWNyaREHyaCOyaYIWNyaPIWRyaKEHyaOHyaFEH"]),
   (0x559, ["aaARMENIAN MODIFIER LETTER LEFT HALF RINGjaAPOSTROPHEjaEMPHASIS MARKkfXCLAMATION",
     "jaCOMMAjaQUESTION MARKjfABBREVIATIONjaSMALL LETTER TURNED AYBwaAYBwaBENwaGIMwaDAwaECHwaZA",
     "waEHxaTwaTOwaZHEwaINIwaLIWNwaXEHwaCAwaKENwaHOwaJAwaGHADwaCHEHwaMENwaYIwaNOWwaSHAwaVOwaCHA",
     "waPEHwaJHEHwaRAwaSEHwaVEWwaTIWNwaREHwaCOwaYIWNwaPIWRwaKEHwaOHwaFEHqaIGATURE ECH YIWN",
     "qaETTER YI WITH STROKEjaFULL STOPjaHYPHEN"]),
   (0x58D, ["aaRIGHT-FACING ARMENIAN ETERNITY SIGNa&LEFTafARMENIAN DRAM"]),
   (0x591, ["aaHEBREW ACCENT ETNAHTAoaSEGOLpaHALSHELEToaZAQEF QATANuaGADOLoaTIPEHAoaREVIAoaZARQA",
     "oaPASHTAoaYETIVoaTEVIRoaGERESHua MUQDAMraSHAYIMoaQARNEY PARAoaTELISHA GEDOLAoaPAZER",
     "oaATNAH HAFUKHoaMUNAHpaAHAPAKHpaERKHAua KEFULAoaDARGAoaQADMAoaTELISHA QETANA",
     "oaYERAH BEN YOMOoaOLEoaILUYoaDEHIoaZINORhaMARK MASORA CIRCLEhaPOINT SHEVAnaHATAF SEGOL",
     "taPATAHtaQAMATSoaIRIQnaTSEREnaSEGOLnaPATAHnaQAMATSnaHOLAMsa HASER FOR VAVnaQUBUTS",
     "naDAGESH OR MAPIQnaMETEGiaUNCTUATION MAQAFiaOINT RAFEiaUNCTUATION PASEQiaOINT SHIN DOToeIN",
     "iaUNCTUATION SOF PASUQhaMARK UPPER DOTmeLOWERhaPUNCTUATION NUN HAFUKHAiaOINT QAMATS QATAN"]),
   (0x5D0, ["aaHEBREW LETTER ALEFoaBEToaGIMELoaDALEToaHEoaVAVoaZAYINoaHEToaTEToaYODoaFINAL KAF",
     "oaKAFoaLAMEDoaFINAL MEMoaMEMoaFINAL NUNoaNUNoaSAMEKHoaAYINoaFINAL PEoaPEoaFINAL TSADI",
     "oaTSADIoaQOFoaRESHoaSHINoaTAV"]),
   (0x5EF, ["aaHEBREW YOD TRIANGLEhaLIGATURE YIDDISH DOUBLE VAVyaVAV YODyeDOUBLE",
     "haPUNCTUATION GERESHwaSHAYIM"]),
   (0x600, ["aaARABIC NUMBER SIGNhaSIGN SANAHhaFOOTNOTE MARKERhaSIGN SAFHAoaMVAT",
     "haNUMBER MARK ABOVEga-INDIC CUBE ROOTnfFOURTHga RAYga-INDIC PER MILLE SIGNrfTEN THOUSAND",
     "bfFGHANIbaRABIC COMMAhaDATE SEPARATORhaPOETIC VERSE SIGNhaSIGN MISRA",
     "maSALLALLAHOU ALAYHE WASSALLAMmaALAYHE ASSALLAMmaRAHMATULLAH ALAYHEoaDI ALLAHOU ANHU",
     "maTAKHALLUSiaMALL HIGH TAHsaLIGATURE ALEF WITH LAM WITH YEHsaZAINnaFATHAnaDAMMAnaKASRA",
     "iaEMICOLONhaLETTER MARKhfEND OF TEXThfTRIPLE DOT PUNCTUATIONhfQUESTION",
     "haLETTER KASHMIRI YEHoaHAMZAoaALEF WITH MADDA ABOVEygHAMZAorWAWoaALEF WITH HAMZA BELOW",
     "oaYEH WITH HAMZA ABOVEoaALEFoaBEHoaTEH MARBUTArapaHEHoaJEEMoaHAHoaKHAHoaDALoaTHALoaREH",
     "oaZAINoaSEENpaHEENpaADoaDADoaTAHoaZAHoaAINoaGHAINoaKEHEH WITH TWO DOTS ABOVE",
     "!aHREE DOTS BELOWoaFARSI YEH WITH INVERTED V%aTWO DOTS ABOVE&lHREEhaTATWEELhaLETTER FEH",
     "oaQAFoaKAFoaLAMoaMEEMoaNOONoaHEHoaWAWoaALEF MAKSURAoaYEHhaFATHATANhaDAMMATANhaKASRATAN",
     "haFATHAhaDAMMAhaKASRAhaSHADDAiaUKUNhaMADDAH ABOVEhgHAMZAnaBELOWhaSUBSCRIPT ALEF",
     "haINVERTED DAMMAhaMARK NOON GHUNNAhaZWARAKAYhaVOWEL SIGN SMALL V ABOVEsiINVERTED SMALL",
     "saDOT BELOWhaREVERSED DAMMAhaFATHA WITH TWO DOTShaWAVY HAMZA BELOWga-INDIC DIGIT ZEROtaONE",
     "taTWOuaHREEtaFOURuaIVEtaSIXuaEVENtaEIGHTtaNINEga PERCENT SIGNhaDECIMAL SEPARATOR",
     "hkTHOUSANDShaFIVE POINTED STARhaLETTER DOTLESS BEHwaQAFoaSUPERSCRIPT ALEFoaALEF WASLA",
     "uaITH WAVY HAMZA ABOVE,aBELOWoaHIGH HAMZAya ALEFzaWAWoaU WITH HAMZA ABOVEoaHIGH HAMZA YEH",
     "oaTTEHsaEHoaBEEHoaTEH WITH RINGxaTHREE DOTS ABOVE DOWNWARDSoaPEHoaTEHEHoaBEHEH",
     "oaHAH WITH HAMZA ABOVExgTWO DOTS VERTICALoaNYEHoaDYEHoaHAH WITH THREE DOTS ABOVEoaTCHEH",
     "taEHoaDDALpaAL WITH RINGxaDOT BELOW)a AND SMALL TAHqaHALpaDAHALpaUL",
     "paAL WITH THREE DOTS ABOVE DOWNWARDSxaFOUR DOTS ABOVEoaRREHpaEH WITH SMALL VxaRING",
     "xaDOT BELOWxgSMALL VxaDOT BELOW AND DOT ABOVExgTWO DOTSoaJEHoaREH WITH FOUR DOTS ABOVE",
     "ogSEEN WITH DOT BELOW AND DOTyaTHREE DOTS BELOW>a AND THREE DOTS ABOVE",
     "paAD WITH TWO DOTS BELOWyaHREE DOTS ABOVEowTAHowAINoaDOTLESS FEHoaFEH WITH DOT MOVED BELOW",
     "#aBELOWoaVEHoaFEH WITH THREE DOTS BELOWoaPEHEHoaQAF WITH DOT ABOVExgTHREE DOTSoaKEHEH",
     "oaSWASH KAFoaKAF WITH RINGxaDOT ABOVEoaNGoaKAF WITH THREE DOTS BELOWoaGAFra WITH RING",
     "oaNGOEHoaGAF WITH TWO DOTS BELOWpaUEHpaAF WITH THREE DOTS ABOVEoaLAM WITH SMALL V",
     "xaDOT ABOVExgTHREE DOTS+aBELOWogNOON WITH DOTtaGHUNNAoaRNOONoaNOON WITH RING",
     "yaTHREE DOTS ABOVEoaHEH DOACHASHMEEoaTCHEH WITH DOT ABOVEogHEH WITH YEHsaGOAL",
     "wa WITH HAMZA ABOVEoaTEH MARBUTA GOALoaWAW WITH RINGoaKIRGHIZ OEoaOEoaUoaYUoaKIRGHIZ YU",
     "oaWAW WITH TWO DOTS ABOVEoaVEoaFARSI YEHoaYEH WITH TAILxaSMALL VoaWAW WITH DOT ABOVEoaE",
     "oaYEH WITH THREE DOTS BELOWsaBARREEya WITH HAMZA ABOVEhaFULL STOPhaLETTER AE",
     "haSMALL HIGH LIGATURE SAD WITH LAM WITH ALEF MAKSURA##QAFsaMEEM INITIAL FORMsaLAM ALEF",
     "saJEEMsaTHREE DOTSsaSEENhaEND OF AYAHhaSTART OF RUB EL HIZBiaMALL HIGH ROUNDED ZERO",
     "sfUPRIGHT RECTANGULARsaDOTLESS HEAD OF KHAHsaMEEM ISOLATED FORMnaLOW SEENnaHIGH MADDAnaWAW",
     "naYEHnaHIGH YEHsaNOONhaPLACE OF SAJDAHhaEMPTY CENTRE LOW STOPufHIGH",
     "haROUNDED HIGH STOP WITH FILLED CENTREhaSMALL LOW MEEMhaLETTER DAL WITH INVERTED VoqREH",
     "aaEXTENDED ARABIC-INDIC DIGIT ZERO$aONE$aTWO%aHREE$aFOUR%aIVE$aSIX%aEVEN$aEIGHT$aNINE",
     "aaARABIC LETTER SHEEN WITH DOT BELOWopDADopGHAINhaSIGN SINDHI AMPERSANDtaPOSTPOSITION MEN",
     "haLETTER HEH WITH INVERTED VaaSYRIAC END OF PARAGRAPHhaSUPRALINEAR FULL STOPjkBLINEAR",
     "jaPRALINEAR COLONjgBLINEARhgHORIZONTALhaCOLON SKEWED LEFTuaRIGHT",
     "haSUPRALINEAR COLON SKEWED LEFTjaBLINEAR COLON SKEWED RIGHThaCONTRACTIONhaHARKLEAN OBELUS",
     "qaMETOBELUSqaASTERISCUS"]),
   (0x70F, ["aaSYRIAC ABBREVIATION MARKhaLETTER ALAPHoaSUPERSCRIPT ALAPHoaBETHoaGAMALta GARSHUNI",
     "oaDALATHpaOTLESS DALATH RISHoaHEoaWAWoaZAINoaHETHoaTETHsa GARSHUNIoaYUDHsa HEoaKAPH",
     "oaLAMADHoaMIMoaNUNoaSEMKATHoaFINAL SEMKATHoaEoaPEoaREVERSED PEoaSADHEoaQAPHoaRISHoaSHIN",
     "oaTAWoaPERSIAN BHETHwaGHAMALwaDHALATHhaPTHAHA ABOVEoaBELOWoaDOTTEDhaZQAPHA ABOVEoaBELOW",
     "oaDOTTEDhaRBASA ABOVEnaBELOWhaDOTTED ZLAMA HORIZONTALuaANGULARhaHBASA ABOVEnaBELOW",
     "ma-ESASA DOTTEDhaESASA ABOVEnaBELOWhaRWAHAhaFEMININE DOThaQUSHSHAYAhaRUKKAKHA",
     "haTWO VERTICAL DOTS ABOVEzaBELOWiaHREE DOTS ABOVEsaBELOWhaOBLIQUE LINE ABOVEuaBELOWhaMUSIC",
     "haBARREKH"]),
   (0x74D, ["aaSYRIAC LETTER SOGDIAN ZHAINwaKHAPHwaFE",
     "aaARABIC LETTER BEH WITH THREE DOTS HORIZONTALLY BELOWxaDOT BELOW AND THREE DOTS ABOVE",
     "xaTHREE DOTS POINTING UPWARDS BELOW~aDS BELOW AND TWO DOTS ABOVEygWO DOTS BELOW AND DOT",
     "xaINVERTED SMALL V BELOWxaSMALL VoaHAH WITH TWO DOTS ABOVE",
     "yaHREE DOTS POINTING UPWARDS BELOWoaDAL WITH TWO DOTS VERTICALLY BELOW AND SMALL TAH",
     "xaINVERTED SMALL V BELOWoaREH WITH STROKEoaSEEN WITH FOUR DOTS ABOVEolAIN WITH TWO",
     "ygHREE DOTS POINTING DOWNWARDSygWO DOTS VERTICALLYoaFEH WITH TWO DOTS BELOW",
     "ygHREE DOTS POINTING UPWARDSoaKEHEH WITH DOT ABOVEzgTHREE DOTS.aPOINTING UPWARDS BELOW",
     "oaMEEM WITH DOT ABOVE$aBELOWogNOON WITH TWO DOTSyaSMALL TAH&aVoaLAM WITH BAR",
     "oaREH WITH TWO DOTS VERTICALLY ABOVExgHAMZAogSEEN WITH TWO DOTS VERTICALLY",
     "oaHAH WITH SMALL ARABIC LETTER TAH BELOW|aAND TWO DOTSo@SEENo@REH",
     "oaHAH WITH SMALL ARABIC LETTER TAH ABOVEogALEF WITH EXTENDED ARABIC-INDIC DIGIT TWO",
     "~gGIT THREEogFARSI YEH WITH EXTENDED ARABIC-INDIC DIGIT TWO~gIC DIGIT THREE",
     "~aIC DIGIT FOUR BELOWoaWAW WITH EXTENDED ARABIC-INDIC DIGIT TWO ABOVE~gIT THREE",
     "ogYEH BARREE WITH EXTENDED ARABIC-INDIC DIGIT TWO~gDIC DIGIT THREE",
     "oaHAH WITH EXTENDED ARABIC-INDIC DIGIT FOUR BELOW",
     "oaSEEN WITH EXTENDED ARABIC-INDIC DIGIT FOUR ABOVEyaINVERTED VoaKAF WITH TWO DOTS ABOVE",
     "aaTHAANA LETTER HAAoaSHAVIYANIoaNOONUoaRAAoaBAAoaLHAVIYANIoaKAAFUoaALIFUoaVAAVUoaMEEMU",
     "oaFAAFUoaDHAALUoaTHAAoaLAAMUoaGAAFUpaNAVIYANIoaSEENUoaDAVIYANIoaZAVIYANIoaTAVIYANIoaYAA",
     "oaPAVIYANIoaJAVIYANIoaCHAVIYANIoaTTAAoaHHAAoaKHAAoaTHAALUoaZAAoaSHEENUpaAADHUoaDAADHUoaTO",
     "oaZOoaAINUoaGHAINUoaQAAFUoaWAAVUhaABAFILIiaABAAFILIhaIBIFILIhaEEBEEFILIhaUBUFILI",
     "haOOBOOFILIhaEBEFILIiaYBEYFILIhaOBOFILIiaABOAFILIhaSUKUNhaLETTER NAA"]),
   (0x7C0, ["aaNKO DIGIT ZEROkaONEkaTWOlaHREEkaFOURlaIVEkaSIXlaEVENkaEIGHTkaNINEeaLETTER AlaEE",
     "laIlaElaUlaOOmalaDAGBASINNAlaNlaBAlaPAlaTAlaJAlaCHAlaDAlaRAmaRAlaSAlaGBAlaFAlaKAlaLA",
     "laNA WOLOSOlaMAlaNYAmaAlaHAlaWAlaYAlaNYA WOLOSOlaJONA JAqaCHAqaRA",
     "eaCOMBINING SHORT HIGH TONEufLOWufRISINGofLONG DESCENDINGtfHIGHtfLOWtfRISING",
     "oaNASALIZATION MARKoaDOUBLE DOT ABOVEeaHIGH TONE APOSTROPHEeqLOWeaSYMBOL OO DENNEN",
     "laGBAKURUNENeaCOMMAeaEXCLAMATION MARKeaLAJANYALAN"]),
   (0x7FD, ["aaNKO DANTAYALANfaOROME SIGNefTAMANaaSAMARITAN LETTER ALAFraBITraGAMANraDALATraIY",
     "raBAAraZENraITraTITraYUTraKAAFraLABATraMIMraNUNraSINGAATraINraFIraTSAADIYraQUFraRISHraSHAN",
     "raTAAFkaMARK INra-ALAFpaOCCLUSIONpaDAGESHlaODIFIER LETTER EPENTHETIC YUTlpARK",
     "kaVOWEL SIGN LONG EvaEvaOVERLONG AAvdLONGvaAAvaOVERLONG AvcLONGvaAkcMODIFIER LETTER SHORT",
     "kiVOWEL SIGNvaLONG UvaUkaMODIFIER LETTER IkcVOWEL SIGN LONGvaIvaOvaSUKUNkaMARK NEQUDAA"]),
   (0x830, ["aaSAMARITAN PUNCTUATION NEQUDAAwaAFSAAQxaNGEDwaBAUwaATMAAUwaSHIYYAALAA",
     "kaABBREVIATION MARKkaPUNCTUATION MELODIC QITSAwaZIQAAwaQITSAwaZAEFwaTURUwaARKAANU",
     "waSOF MASHFAATwaANNAAU"]),
   (0x840, ["aaMANDAIC LETTER HALQApaABqaGqaDqaHpaUSHENNApaAZpaITpaATTqaKSAraqaLqaMqaNqaSpaIN",
     "paAPqaSZqaQqaRqaSHqaTpaDUSHENNApaKADpaAINiaAFFRICATION MARKifVOCALIZATIONifGEMINATION"]),
   (0x85E, ["aaMANDAIC PUNCTUATION"]),
   (0x860, ["aaSYRIAC LETTER MALAYALAM NGAyaJAyaNYAyaTTAyaNNA!aNAyaBHAyaRAyaLLA!aLAyaSSA"]),
   (0x870, ["aaARABIC LETTER ALEF WITH ATTACHED FATHA*aTOP RIGHT FATHAyaRIGHT MIDDLE STROKE",
     "yoLEFTyaATTACHED KASRA*aBOTTOM RIGHT KASRA*aROUND DOT ABOVE+aIGHT ROUND DOT*kLEFT",
     "*aROUND DOT BELOWyaDOT ABOVEygATTACHED TOP RIGHT FATHA AND DOTyoRIGHT MIDDLE STROKE",
     "yoATTACHED BOTTOM RIGHT KASRA*aTOP RIGHT FATHA AND LEFT RINGyoRIGHT MIDDLE STROKE",
     "yoATTACHED BOTTOM RIGHT KASRA*aRIGHT HAMZA*gLEFThgTATWEEL WITH OVERSTRUCK(aWAW",
     "uaTWO DOTS BELOWhaLETTER THIN YEHhaBASELINE ROUND DOThkRAISED",
     "haLETTER NOON WITH INVERTED SMALL VoaHAH WITH INVERTED SMALL V BELOWogTAH WITH DOT",
     "xgTHREE DOTSogKEHEH WITH TWO DOTS VERTICALLYhaVERTICAL TAIL"]),
   (0x890, ["aaARABIC POUND MARK ABOVEilIASTRE"]),
   (0x898, ["aaARABIC SMALL HIGH WORD AL-JUZnaLOW WORD ISHMAAMxaMAALAwaTASHEELhaMADDA WAAJIB",
     "haSUPERSCRIPT ALEF MOKHASSAShaDOUBLED MADDAhgHALF MADDA OVER",
     "haLETTER BEH WITH SMALL V BELOWxaHAMZA ABOVEogJEEM WITH TWO DOTSouTAH",
     "olFEH WITH DOT BELOW AND THREEoaQAF WITH DOT BELOWoaLAM WITH DOUBLE BAR",
     "oaMEEM WITH THREE DOTS ABOVEogYEH WITH TWO DOTS BELOW AND HAMZA@gDOToaREH WITH LOOP",
     "oaWAW WITH DOT WITHINoaROHINGYA YEHoaLOW ALEFoaDAL WITH THREE DOTS BELOWowSAD",
     "oaGAF WITH INVERTED STROKEoaSTRAIGHT WAWoaZAIN WITH INVERTED V ABOVE",
     "oaAIN WITH THREE DOTS BELOWogKAF WITH DOToaQAF WITH DOT BELOW AND NO DOTS ABOVE",
     "ogBEH WITH SMALL MEEMowPEHogTEH WITH SMALL TEHogREH WITH SMALL NOON",
     "orYEH WITH TWO DOTS BELOW ANDoaAFRICAN FEHwaQAFwaNOONoaPEH WITH SMALL VonTEHpnTEHpnCHEH",
     "onKEHEHoaGHAIN WITH THREE DOTS ABOVEowAFRICAN QAFowJEEM,aBELOW",
     "oaLAM WITH SMALL ARABIC LETTER TAH ABOVEoaGRAFhaSMALL FARSI YEHneHIGH FARSI",
     "saYEH BARREE WITH TWO DOTS BELOWsaWORD SAHsaZAHhaLARGE ROUND DOT ABOVExaBELOWhgSUKUN",
     "hgLARGE CIRCLEngROUND DOT INSIDE CIRCLEhaSMALL LOW WAWnaHIGH WORD AR-RUBsaSADsaAINsaQAF",
     "saNOON WITH KASRAnqLOWnaHIGH WORD ATH-THALATHAyaS-SAJDAyaN-NISFxaSAKTAxaQIFxaWAQFA",
     "saFOOTNOTE MARKERsaSIGN SAFHAhaDISPUTED END OF AYAHhaTURNED DAMMA BELOWhaCURLY FATHA",
     "naDAMMAnaKASRAnaFATHATANnaDAMMATANnaKASRATANhaTONE ONE DOT ABOVEmgTWO DOTSmgLOOP",
     "maONE DOT BELOWmgTWO DOTSmgLOOPhaOPEN FATHATANmaDAMMATANmaKASRATANhaSMALL HIGH WAW",
     "haFATHA WITH RINGsaDOT ABOVEhaKASRA WITH DOT BELOWhaLEFT ARROWHEAD ABOVEhqRIGHT",
     "haLEFT ARROWHEAD BELOWhqRIGHThaDOUBLE RIGHT ARROWHEAD ABOVE,a WITH DOThzRIGHThjDAMMA",
     "haMARK SIDEWAYS NOON GHUNNAaaDEVANAGARI SIGN INVERTED CANDRABINDUqaCANDRABINDUqaANUSVARA",
     "qaVISARGAlaLETTER SHORT AsaAtaAsaItaIsaUtaUsaVOCALIC R!aLsaCANDRA EscSHORTsaEsaAI",
     "saCANDRA OscSHORTsaOsaAUsaKAtaHAsaGAtaHAsaNGAsaCAtaHAsaJAtaHAsaNYAsaTTAuaHAsaDDAuaHAsaNNA",
     "saTAtaHAsaDAtaHAsaNAtaNNAsaPAtaHAsaBAtaHAsaMAsaYAsaRAtaRAsaLAtaLAuaLAsaVAsaSHAtaSAtaAsaHA",
     "laVOWEL SIGN OExaOElaSIGN NUKTAqaAVAGRAHAlaVOWEL SIGN AAwaIxaIwaUxaUwaVOCALIC R(aR",
     "waCANDRA EwcSHORTwaEwaAIwaCANDRA OwcSHORTwaOwaAUlaSIGN VIRAMAlaVOWEL SIGN PRISHTHAMATRA E",
     "waAWlaOMlaSTRESS SIGN UDATTAxaANUDATTAlaGRAVE ACCENTlhACUTElaVOWEL SIGN CANDRA LONG EwaUE",
     "xaUElaLETTER QAsaKHHAsaGHHAsaZAsaDDDHAsaRHAsaFAsaYYAsaVOCALIC RR!aLLlaVOWEL SIGN VOCALIC L",
     "(aLlaDANDAmaOUBLE DANDAmaIGIT ZEROraONEraTWOsaHREEraFOURsaIVEraSIXsaEVENraEIGHTraNINE",
     "laABBREVIATION SIGNlaSIGN HIGH SPACING DOTlaLETTER CANDRA AsaOEtaOEsaAWsaUEtaUE",
     "saMARWARI DDAsaZHAsaHEAVY YAsaGGAsaJJAsaGLOTTAL STOPsaDDDAsaBBAaaBENGALI ANJI",
     "iaSIGN CANDRABINDUnaANUSVARAnaVISARGA"]),
   (0x985, ["aaBENGALI LETTER AqaApaIqaIpaUqaUpaVOCALIC RxaL"]),
   (0x98F, ["aaBENGALI LETTER EpaAI"]),
   (0x993, ["aaBENGALI LETTER OpaAUpaKAqaHApaGAqaHApaNGApaCAqaHApaJAqaHApaNYApaTTAraHApaDDAraHA",
     "paNNApaTAqaHApaDAqaHApaNA"]),
   (0x9AA, ["aaBENGALI LETTER PAqaHApaBAqaHApaMApaYApaRA"]),
   (0x9B2, ["aaBENGALI LETTER LA"]),
   (0x9B6, ["aaBENGALI LETTER SHAqaSAqaApaHA"]),
   (0x9BC, ["aaBENGALI SIGN NUKTAnaAVAGRAHAiaVOWEL SIGN AAtaIuaItaUuaUtaVOCALIC R$aR"]),
   (0x9C7, ["aaBENGALI VOWEL SIGN EtaAI"]),
   (0x9CB, ["aaBENGALI VOWEL SIGN OtaAUiaSIGN VIRAMAiaLETTER KHANDA TA"]),
   (0x9D7, ["aaBENGALI AU LENGTH MARK"]),
   (0x9DC, ["aaBENGALI LETTER RRAqaHA"]),
   (0x9DF, ["aaBENGALI LETTER YYApaVOCALIC RRxaLLiaVOWEL SIGN VOCALIC L$aL"]),
   (0x9E6, ["aaBENGALI DIGIT ZEROoaONEoaTWOpaHREEoaFOURpaIVEoaSIXpaEVENoaEIGHToaNINE",
     "iaLETTER RA WITH MIDDLE DIAGONALxjLOWERiaRUPEE MARKoaSIGNiaCURRENCY NUMERATOR ONE#aTWO",
     "$aHREE#aFOUR#aONE LESS THAN THE DENOMINATORraDENOMINATOR SIXTEENiaISSHARiaGANDA MARK",
     "iaLETTER VEDIC ANUSVARAiaABBREVIATION SIGNiaSANDHI MARK"]),
   (0xA01, ["aaGURMUKHI SIGN ADAK BINDIoaBINDIoaVISARGA"]),
   (0xA05, ["aaGURMUKHI LETTER AraAqaIraIqaUraU"]),
   (0xA0F, ["aaGURMUKHI LETTER EEqaAI"]),
   (0xA13, ["aaGURMUKHI LETTER OOqaAUqaKAraHAqaGAraHAqaNGAqaCAraHAqaJAraHAqaNYAqaTTAsaHAqaDDA",
     "saHAqaNNAqaTAraHAqaDAraHAqaNA"]),
   (0xA2A, ["aaGURMUKHI LETTER PAraHAqaBAraHAqaMAqaYAqaRA"]),
   (0xA32, ["aaGURMUKHI LETTER LAraLA"]),
   (0xA35, ["aaGURMUKHI LETTER VAqaSHA"]),
   (0xA38, ["aaGURMUKHI LETTER SAqaHA"]),
   (0xA3C, ["aaGURMUKHI SIGN NUKTA"]),
   (0xA3E, ["aaGURMUKHI VOWEL SIGN AAuaIvaIuaUvaU"]),
   (0xA47, ["aaGURMUKHI VOWEL SIGN EEuaAI"]),
   (0xA4B, ["aaGURMUKHI VOWEL SIGN OOuaAUjaSIGN VIRAMA"]),
   (0xA51, ["aaGURMUKHI SIGN UDAAT"]),
   (0xA59, ["aaGURMUKHI LETTER KHHAqaGHHAqaZAqaRRA"]),
   (0xA5E, ["aaGURMUKHI LETTER FA"]),
   (0xA66, ["aaGURMUKHI DIGIT ZEROpaONEpaTWOqaHREEpaFOURqaIVEpaSIXqaEVENpaEIGHTpaNINEjaTIPPI",
     "jaADDAKjaIRIjaURAjaEK ONKARjaSIGN YAKASHjaABBREVIATION SIGN"]),
   (0xA81, ["aaGUJARATI SIGN CANDRABINDUoaANUSVARAoaVISARGA"]),
   (0xA85, ["aaGUJARATI LETTER AraAqaIraIqaUraUqaVOCALIC RyaLjaVOWEL CANDRA E"]),
   (0xA8F, ["aaGUJARATI LETTER EqaAIjaVOWEL CANDRA O"]),
   (0xA93, ["aaGUJARATI LETTER OqaAUqaKAraHAqaGAraHAqaNGAqaCAraHAqaJAraHAqaNYAqaTTAsaHAqaDDAsaHA",
     "qaNNAqaTAraHAqaDAraHAqaNA"]),
   (0xAAA, ["aaGUJARATI LETTER PAraHAqaBAraHAqaMAqaYAqaRA"]),
   (0xAB2, ["aaGUJARATI LETTER LAraLA"]),
   (0xAB5, ["aaGUJARATI LETTER VAqaSHAraSAraAqaHA"]),
   (0xABC, ["aaGUJARATI SIGN NUKTAoaAVAGRAHAjaVOWEL SIGN AAuaIvaIuaUvaUuaVOCALIC R%aRuaCANDRA E"]),
   (0xAC7, ["aaGUJARATI VOWEL SIGN EuaAIuaCANDRA O"]),
   (0xACB, ["aaGUJARATI VOWEL SIGN OuaAUjaSIGN VIRAMA"]),
   (0xAD0, ["aaGUJARATI OM"]),
   (0xAE0, ["aaGUJARATI LETTER VOCALIC RRyaLLjaVOWEL SIGN VOCALIC L%aL"]),
   (0xAE6, ["aaGUJARATI DIGIT ZEROpaONEpaTWOqaHREEpaFOURqaIVEpaSIXqaEVENpaEIGHTpaNINE",
     "jaABBREVIATION SIGNjfRUPEE"]),
   (0xAF9, ["aaGUJARATI LETTER ZHAjaSIGN SUKUNpaHADDAoaMADDAHoaTHREE-DOT NUKTA ABOVEomCIRCLE",
     "omTWO-CIRCLE"]),
   (0xB01, ["aaORIYA SIGN CANDRABINDUlaANUSVARAlaVISARGA"]),
   (0xB05, ["aaORIYA LETTER AoaAnaIoaInaUoaUnaVOCALIC RvaL"]),
   (0xB0F, ["aaORIYA LETTER EnaAI"]),
   (0xB13, ["aaORIYA LETTER OnaAUnaKAoaHAnaGAoaHAnaNGAnaCAoaHAnaJAoaHAnaNYAnaTTApaHAnaDDApaHA",
     "naNNAnaTAoaHAnaDAoaHAnaNA"]),
   (0xB2A, ["aaORIYA LETTER PAoaHAnaBAoaHAnaMAnaYAnaRA"]),
   (0xB32, ["aaORIYA LETTER LAoaLA"]),
   (0xB35, ["aaORIYA LETTER VAnaSHAoaSAoaAnaHA"]),
   (0xB3C, ["aaORIYA SIGN NUKTAlaAVAGRAHAgaVOWEL SIGN AAraIsaIraUsaUraVOCALIC R!aR"]),
   (0xB47, ["aaORIYA VOWEL SIGN EraAI"]),
   (0xB4B, ["aaORIYA VOWEL SIGN OraAUgaSIGN VIRAMA"]),
   (0xB55, ["aaORIYA SIGN OVERLINEgaAI LENGTH MARKhmU"]),
   (0xB5C, ["aaORIYA LETTER RRAoaHA"]),
   (0xB5F, ["aaORIYA LETTER YYAnaVOCALIC RRvaLLgaVOWEL SIGN VOCALIC L!aL"]),
   (0xB66, ["aaORIYA DIGIT ZEROmaONEmaTWOnaHREEmaFOURnaIVEmaSIXnaEVENmaEIGHTmaNINEgaISSHAR",
     "gaLETTER WAgaFRACTION ONE QUARTERtaHALFpaTHREE QUARTERSpaONE SIXTEENTHtaEIGHTH",
     "paTHREE SIXTEENTHS"]),
   (0xB82, ["aaTAMIL SIGN ANUSVARAlaVISARGA"]),
   (0xB85, ["aaTAMIL LETTER AoaAnaIoaInaUoaU"]),
   (0xB8E, ["aaTAMIL LETTER EoaEnaAI"]),
   (0xB92, ["aaTAMIL LETTER OoaOnaAUnaKA"]),
   (0xB99, ["aaTAMIL LETTER NGAnaCA"]),
   (0xB9C, ["aaTAMIL LETTER JA"]),
   (0xB9E, ["aaTAMIL LETTER NYAnaTTA"]),
   (0xBA3, ["aaTAMIL LETTER NNAnaTA"]),
   (0xBA8, ["aaTAMIL LETTER NAoaNNAnaPA"]),
   (0xBAE, ["aaTAMIL LETTER MAnaYAnaRAoaRAnaLAoaLApaLAnaVAnaSHAoaSAoaAnaHA"]),
   (0xBBE, ["aaTAMIL VOWEL SIGN AAraIsaIraUsaU"]),
   (0xBC6, ["aaTAMIL VOWEL SIGN EsaEraAI"]),
   (0xBCA, ["aaTAMIL VOWEL SIGN OsaOraAUgaSIGN VIRAMA"]),
   (0xBD0, ["aaTAMIL OM"]),
   (0xBD7, ["aaTAMIL AU LENGTH MARK"]),
   (0xBE6, ["aaTAMIL DIGIT ZEROmaONEmaTWOnaHREEmaFOURnaIVEmaSIXnaEVENmaEIGHTmaNINEgaNUMBER TEN",
     "naONE HUNDREDraTHOUSANDgaDAY SIGNgfMONTHgfYEARgfDEBITgfCREDITgfAS ABOVEgfRUPEEgfNUMBER"]),
   (0xC00, ["aaTELUGU SIGN COMBINING CANDRABINDU ABOVEnaANDRABINDUmaANUSVARAmaVISARGA",
     "maCOMBINING ANUSVARA ABOVEhaLETTER ApaAoaIpaIoaUpaUoaVOCALIC RwaL"]),
   (0xC0E, ["aaTELUGU LETTER EpaEoaAI"]),
   (0xC12, ["aaTELUGU LETTER OpaOoaAUoaKApaHAoaGApaHAoaNGAoaCApaHAoaJApaHAoaNYAoaTTAqaHAoaDDA",
     "qaHAoaNNAoaTApaHAoaDApaHAoaNA"]),
   (0xC2A, ["aaTELUGU LETTER PApaHAoaBApaHAoaMAoaYAoaRApaRAoaLApaLAqaLAoaVAoaSHApaSApaAoaHA"]),
   (0xC3C, ["aaTELUGU SIGN NUKTAmaAVAGRAHAhaVOWEL SIGN AAsaItaIsaUtaUsaVOCALIC R#aR"]),
   (0xC46, ["aaTELUGU VOWEL SIGN EtaEsaAI"]),
   (0xC4A, ["aaTELUGU VOWEL SIGN OtaOsaAUhaSIGN VIRAMA"]),
   (0xC55, ["aaTELUGU LENGTH MARKhfAI LENGTH"]),
   (0xC58, ["aaTELUGU LETTER TSAoaDZAoaRRRA"]),
   (0xC5D, ["aaTELUGU LETTER NAKAARA POLLU"]),
   (0xC60, ["aaTELUGU LETTER VOCALIC RRwaLLhaVOWEL SIGN VOCALIC L#aL"]),
   (0xC66, ["aaTELUGU DIGIT ZEROnaONEnaTWOoaHREEnaFOURoaIVEnaSIXoaEVENnaEIGHTnaNINE"]),
   (0xC77, ["aaTELUGU SIGN SIDDHAMhaFRACTION DIGIT ZERO FOR ODD POWERS OF FOURwxONEwxTWOxxHREE",
     "wpONE FOR EVENwyTWOxyHREEhaSIGN TUUMUaaKANNADA SIGN SPACING CANDRABINDUnaCANDRABINDU",
     "naANUSVARAnaVISARGAnaSIDDHAMiaLETTER AqaApaIqaIpaUqaUpaVOCALIC RxaL"]),
   (0xC8E, ["aaKANNADA LETTER EqaEpaAI"]),
   (0xC92, ["aaKANNADA LETTER OqaOpaAUpaKAqaHApaGAqaHApaNGApaCAqaHApaJAqaHApaNYApaTTAraHApaDDA",
     "raHApaNNApaTAqaHApaDAqaHApaNA"]),
   (0xCAA, ["aaKANNADA LETTER PAqaHApaBAqaHApaMApaYApaRAqaRApaLAqaLA"]),
   (0xCB5, ["aaKANNADA LETTER VApaSHAqaSAqaApaHA"]),
   (0xCBC, ["aaKANNADA SIGN NUKTAnaAVAGRAHAiaVOWEL SIGN AAtaIuaItaUuaUtaVOCALIC R$aR"]),
   (0xCC6, ["aaKANNADA VOWEL SIGN EuaEtaAI"]),
   (0xCCA, ["aaKANNADA VOWEL SIGN OuaOtaAUiaSIGN VIRAMA"]),
   (0xCD5, ["aaKANNADA LENGTH MARKifAI LENGTH"]),
   (0xCDD, ["aaKANNADA LETTER NAKAARA POLLUpaFA"]),
   (0xCE0, ["aaKANNADA LETTER VOCALIC RRxaLLiaVOWEL SIGN VOCALIC L$aL"]),
   (0xCE6, ["aaKANNADA DIGIT ZEROoaONEoaTWOpaHREEoaFOURpaIVEoaSIXpaEVENoaEIGHToaNINE"]),
   (0xCF1, ["aaKANNADA SIGN JIHVAMULIYAnaUPADHMANIYA"]),
   (0xD00, ["aaMALAYALAM SIGN COMBINING ANUSVARA ABOVEqaANDRABINDUpaANUSVARApaVISARGA",
     "kaLETTER VEDIC ANUSVARAraAsaAraIsaIraUsaUraVOCALIC RzaL"]),
   (0xD0E, ["aaMALAYALAM LETTER EsaEraAI"]),
   (0xD12, ["aaMALAYALAM LETTER OsaOraAUraKAsaHAraGAsaHAraNGAraCAsaHAraJAsaHAraNYAraTTAtaHAraDDA",
     "taHAraNNAraTAsaHAraDAsaHAraNAsaNNAraPAsaHAraBAsaHAraMAraYAraRAsaRAraLAsaLAtaLAraVAraSHA",
     "saSAsaAraHAraTTTAkaSIGN VERTICAL BAR VIRAMAphCIRCULARpaAVAGRAHAkaVOWEL SIGN AAvaIwaIvaUwaU",
     "vaVOCALIC R&aR"]),
   (0xD46, ["aaMALAYALAM VOWEL SIGN EwaEvaAI"]),
   (0xD4A, ["aaMALAYALAM VOWEL SIGN OwaOvaAUkaSIGN VIRAMAkaLETTER DOT REPHkaSIGN PARA"]),
   (0xD54, ["aaMALAYALAM LETTER CHILLU MyaYyaLLLkaAU LENGTH MARK",
     "kaFRACTION ONE ONE-HUNDRED-AND-SIXTIETHxaFORTIETHtaTHREE EIGHTIETHStaONE TWENTIETHyaENTH",
     "taTHREE TWENTIETHStaONE FIFTHkaLETTER ARCHAIC IIraVOCALIC RRzaLLkaVOWEL SIGN VOCALIC L&aL"]),
   (0xD66, ["aaMALAYALAM DIGIT ZEROqaONEqaTWOraHREEqaFOURraIVEqaSIXraEVENqaEIGHTqaNINE",
     "kaNUMBER TENraONE HUNDREDvaTHOUSANDkaFRACTION ONE QUARTERxaHALFtaTHREE QUARTERS",
     "taONE SIXTEENTHxaEIGHTHtaTHREE SIXTEENTHSkaDATE MARKkaLETTER CHILLU NNzayaRRyaLzaLyaK"]),
   (0xD81, ["aaSINHALA SIGN CANDRABINDUnaANUSVARAYAnaVISARGAYA"]),
   (0xD85, ["aaSINHALA LETTER AYANNAqaAYANNAqaEYANNAraEYANNApaIYANNAqaIYANNApaUYANNAqaUYANNA",
     "paIRUYANNAsaUYANNAqaLUYANNAsaUYANNApaEYANNAqaEYANNApaAIYANNApaOYANNAqaOYANNApaAUYANNA"]),
   (0xD9A, ["aaSINHALA LETTER ALPAPRAANA KAYANNApiMAHAAPRAANApaALPAPRAANA GAYANNApiMAHAAPRAANA",
     "paKANTAJA NAASIKYAYApaSANYAKA GAYANNApaALPAPRAANA CAYANNApiMAHAAPRAANApaALPAPRAANA JAYANNA",
     "piMAHAAPRAANApaTAALUJA NAASIKYAYAxaSANYOOGA NAAKSIKYAYApaSANYAKA JAYANNA",
     "paALPAPRAANA TTAYANNApjMAHAAPRAANApaALPAPRAANA DDAYANNApjMAHAAPRAANAqaUURDHAJA NAYANNA",
     "paSANYAKA DDAYANNApaALPAPRAANA TAYANNApiMAHAAPRAANApaALPAPRAANA DAYANNApiMAHAAPRAANA",
     "paDANTAJA NAYANNA"]),
   (0xDB3, ["aaSINHALA LETTER SANYAKA DAYANNApaALPAPRAANA PAYANNApiMAHAAPRAANA",
     "paALPAPRAANA BAYANNApiMAHAAPRAANAraYANNApaAMBA BAYANNApaYAYANNApaRAYANNA"]),
   (0xDBD, ["aaSINHALA LETTER DANTAJA LAYANNA"]),
   (0xDC0, ["aaSINHALA LETTER VAYANNApaTAALUJA SAYANNApiMUURDHAJApiDANTAJApaHAYANNA",
     "paMUURDHAJA LAYANNApaFAYANNA"]),
   (0xDCA, ["aaSINHALA SIGN AL-LAKUNA"]),
   (0xDCF, ["aaSINHALA VOWEL SIGN AELA-PILLAtgKETTI AEDAtlDIGAtgKETTI IStjDIGAtgKETTI PAA"]),
   (0xDD6, ["aaSINHALA VOWEL SIGN DIGA PAA-PILLA"]),
   (0xDD8, ["aaSINHALA VOWEL SIGN GAETTA-PILLAtaKOMBUVAtaDIGA KOMBUVAtaKOMBU DEKA",
     "yaVA HAA AELA-PILLA(gDIGA AELA(aGAYANUKITTAtaGAYANUKITTA"]),
   (0xDE6, ["aaSINHALA LITH DIGIT ZEROtaONEtaTWOuaHREEtaFOURuaIVEtaSIXuaEVENtaEIGHTtaNINE"]),
   (0xDF2, ["aaSINHALA VOWEL SIGN DIGA GAETTA-PILLA!aYANUKITTAiaPUNCTUATION KUNDDALIYA"]),
   (0xE01, ["aaTHAI CHARACTER KO KAIqaHO KHAIvaUATvaWAIvaONtaRAKHANGpaNGO NGUpaCHO CHANvaING",
     "vaANGpaSO SOpaCHO CHOEpaYO YINGpaDO CHADApaTO PATAKqaHO THANtaNANGMONTHOtaPHUTHAOpaNO NEN",
     "paDO DEKpaTO TAOqaHO THUNGvaAHANvaONGpaNO NUpaBO BAIMAIpaPO PLAqaHO PHUNGpaFO FApaPHO PHAN",
     "paFO FANpaPHO SAMPHAOpaMO MApaYO YAKpaRO RUAqaUpaLO LINGqaUpaWO WAENpaSO SALAsaRUSIsaSUA",
     "paHO HIPpaLO CHULApaO ANGpaHO NOKHUKpaPAIYANNOIpaSARA ApaMAI HAN-AKATpaSARA AAvaMuaIvaI",
     "uaUEwaEvavaUpaPHINTHU"]),
   (0xE3F, ["aaTHAI CURRENCY SYMBOL BAHTgaHARACTER SARA EuaAEuaOuaAI MAIMUAN#aALAIpaLAKKHANGYAO",
     "paMAIYAMOKsaTAIKHUsa EKtaTHOuaRItaCHATTAWApaTHANTHAKHATpaNIKHAHITpaYAMAKKANpaFONGMAN",
     "faDIGIT ZEROlaONElaTWOmaHREElaFOURmaIVElaSIXmaEVENlaEIGHTlaNINEfaCHARACTER ANGKHANKHU",
     "paKHOMUT"]),
   (0xE81, ["aaLAO LETTER KOmaHO SUNG"]),
   (0xE84, ["aaLAO LETTER KHO TAM"]),
   (0xE86, ["aaLAO LETTER PALI GHAlaNGOlaCOlaPALI CHAlaSO TAM"]),
   (0xE8C, ["aaLAO LETTER PALI JHAlaNYOlaPALI NYAqaTTAsaHAqaDDAsaHAqaNNAlaDOlaTOmaHO SUNGpaTAM",
     "laPALI DHAlaNOlaBOlaPOmaHO SUNGlaFO TAMlePHOlaFO SUNGlaPALI BHAlaMOlaYOlaLO LING"]),
   (0xEA5, ["aaLAO LETTER LO LOOT"]),
   (0xEA7, ["aaLAO LETTER WOlaSANSKRIT SHAvaSAmaO SUNGlfHOlaPALI LLAlaOlaHO TAMeaELLIPSIS",
     "eaVOWEL SIGN ApaMAI KANpaAAqaMpaIqaIpaYqaYpaUqaUeaSIGN PALI VIRAMAeaVOWEL SIGN MAI KON",
     "eaSEMIVOWEL SIGN LOtaNYO"]),
   (0xEC0, ["aaLAO VOWEL SIGN EqaIpaOpaAYqaI"]),
   (0xEC6, ["aaLAO KO LA"]),
   (0xEC8, ["aaLAO TONE MAI EKnaTHOoaInaCATAWAeaCANCELLATION MARKeaNIGGAHITA"]),
   (0xED0, ["aaLAO DIGIT ZEROkaONEkaTWOlaHREEkaFOURlaIVEkaSIXlaEVENkaEIGHTkaNINE"]),
   (0xEDC, ["aaLAO HO NOhaMOeaLETTER KHMU GOqaNYO"]),
   (0xF00, ["aaTIBETAN SYLLABLE OMiaMARK GTER YIG MGO TRUNCATED A!a-UM RNAM BCAD MA&dGTER TSHEG",
     "ndINITIAL YIG MGO MDUNndCLOSING YIG MGO SGABodARET YIG MGO PHUR SHADniYIG MGO TSHEG",
     "naSBRUL SHADnaBSKUR YIG MGOoiKA- SHOGnaINTERSYLLABIC TSHEGnaDELIMITER TSHEG BSTARnaSHAD",
     "naNYIS SHADnfTSHEGnfNYIS TSHEGnfRIN CHEN SPUNGSofGYA GRAMnaCARET -DZUD RTAGS ME LONG CAN",
     "naGTER TSHEGiaLOGOTYPE SIGN CHAD RTAGSwgLHAGigASTROLOGICAL SIGN SGRA GCAN -CHAR!a-KHYUD PA",
     "!aSDONG TSHUGSiaSIGN RDEL DKAR GCIGyaNYISyaSUMsaNAG GCIGxaNYISsaDKAR RDEL NAGiaDIGIT ZERO",
     "oaONEoaTWOpaHREEoaFOURpaIVEoaSIXpaEVENoaEIGHToaNINEoaHALF ONEtaTWOuaHREEtaFOURuaIVEtaSIX",
     "uaEVENtaEIGHTtaNINEtaZEROiaMARK BSDUS RTAGSnaNGAS BZUNG NYI ZLA",
     "naCARET -DZUD RTAGS BZHI MIG CANnaNGAS BZUNG SGOR RTAGSnaCHE MGOnaTSA -PHRU",
     "naGUG RTAGS GYONzaASnaANG KHANG GYONzaASiaSIGN YAR TSHESngMARiaLETTER KAqaHApaGAqaHApaNGA",
     "paCAqaHApaJA"]),
   (0xF49, ["aaTIBETAN LETTER NYApaTTAraHApaDDAraHApaNNApaTAqaHApaDAqaHApaNApaPAqaHApaBAqaHApaMA",
     "paTSAraHApaDZAraHApaWApaZHAqaApa-ApaYApaRApaLApaSHAqaSAqaApaHApaApaKSSApaFIXED-FORM RA",
     "paKKApaRRA"]),
   (0xF71, ["aaTIBETAN VOWEL SIGN AAtaIuaItaUuaUtaVOCALIC R$aR#aL$aLtaEuaEtaOuaO",
     "iaSIGN RJES SU NGA ROoaNAM BCADiaVOWEL SIGN REVERSED I%aIiaSIGN NYI ZLA NAA DAnaSNA LDAN",
     "iaMARK HALANTAnaPALUTAiaSIGN LCI RTAGSngYANGnaLCE TSA CANneMCHUnaGRU CAN RGYINGSriMED",
     "naINVERTED MCHU CANjeUBJOINED SIGN LCE TSAxeMCHUxeINVERTED MCHUsaLETTER KA!aHAzaGA!aHA",
     "zaNGAzaCA!aHAzaJA"]),
   (0xF99, ["aaTIBETAN SUBJOINED LETTER NYAzaTTA#aHAzaDDA#aHAzaNNAzaTA!aHAzaDA!aHAzaNAzaPA!aHA",
     "zaBA!aHAzaMAzaTSA#aHAzaDZA#aHAzaWAzaZHA!aAza-AzaYAzaRAzaLAzaSHA!aSA!aAzaHAzaAzaKSSA",
     "zaFIXED-FORM WA.aYA.aRA"]),
   (0xFBE, ["aaTIBETAN KU RU KHAra BZHI MIG CANiaCANTILLATION SIGN HEAVY BEAT!fLIGHT!aCANG TE-U",
     "!aSBUB -CHALiaSYMBOL DRIL BUpaRDO RJEpaPADMA GDANpaRDO RJE RGYA GRAMpaPHUR PApaNOR BU",
     "va NYIS -KHYILwhGSUMwhBZHI"]),
   (0xFCE, ["aaTIBETAN SIGN RDEL NAG RDEL DKARwaGSUMiaMARK BSKA- SHOG GI MGO RGYANnnMNYAM YIG",
     "naNYIS TSHEGnaINITIAL BRDA RNYING YIG MGO MDUN MAndCLOSING BRDA RNYING YIG MGO SGAB",
     "aaRIGHT-FACING SVASTI SIGNatLEFTaaRIGHT-FACING SVASTI SIGN WITH DOTSa%LEFT",
     "aaTIBETAN MARK LEADING MCHAN RTAGSnmTRAILING"])]

end Intake.Text
