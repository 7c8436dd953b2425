import Intake.Text.CharName.Basic

/-!
# Names of characters: U+10000 to U+15FFF

The names of the scripts of antiquity, from Linear B to the hieroglyphs.

## Main definitions

* `antiquityNames` — the runs of names.
-/

namespace Intake.Text

/-- The names of the characters U+10000 to U+15FFF. -/
def antiquityNames : List NameRun :=
  [(0x10000, ["aaLINEAR B SYLLABLE B008 Aua38 Eua28 Iua61 Oua10 Uua01 DAua45 DEua07 DIua14 DO",
     "ua51 DUva7 JAua46 JE"]),
   (0x1000D, ["aaLINEAR B SYLLABLE B036 JOua65 JUua77 KAua44 KEua67 KIua70 KOua81 KUva0 MA",
     "ua13 MEua73 MIua15 MOua23 MUua06 NAua24 NEua30 NIua52 NOva5 NUua03 PAua72 PEua39 PIua11 PO",
     "ua50 PUua16 QAua78 QEua21 QIua32 QO"]),
   (0x10028, ["aaLINEAR B SYLLABLE B060 RAua27 REua53 RIua02 ROua26 RUua31 SAua09 SEua41 SI",
     "ua12 SOua58 SUva9 TAua04 TEua37 TIua05 TOua69 TUua54 WAua75 WEua40 WIva2 WO"]),
   (0x1003C, ["aaLINEAR B SYLLABLE B017 ZAua74 ZE"]),
   (0x1003F, ["aaLINEAR B SYLLABLE B020 ZOva5 A2ua43 A3ua85 AUua71 DWEua90 DWOua48 NWAua29 PU2",
     "ua62 PTEua76 RA2ua33 RA3ua68 RO2va6 TA2ua87 TWEua91 TWO"]),
   (0x10050, ["aaLINEAR B SYMBOL B018ta9sa22sa34sa47ta9sa56sa63ta4sa79sa82ta3ta6ta9"]),
   (0x10080, ["aaLINEAR B IDEOGRAM B100 MANva2 WOMANva4 DEERva5 EQUIDwaF MAREwaM STALLION",
     "va6F EWEwaM RAMva7F SHE-GOATwfM HEva8F SOWwaM BOARva9F COWwaM BULLua20 WHEATva1 BARLEY",
     "va2 OLIVEva3 SPICEva5 CYPERUSjaMONOGRAM B127 KAPOva8 KANAKOjaIDEOGRAM B130 OILva1 WINEva2",
     "jaMONOGRAM B133 AREPAva5 MERIjaIDEOGRAM B140 BRONZEva1 GOLDva2va5 WOOLva6ua50va1 HORNva2",
     "va3va4jaMONOGRAM B156 TURO2jaIDEOGRAM B157va8va9 CLOTHua60va1va2 GARMENTva3 ARMOURva4va5",
     "va6va7va8va9ua70va1va2va3 MONTHva4va6 TREEva7va8va9ua80va1va2va3va4va5va9ua90va1 HELMET",
     "ta220 FOOTSTOOLva5 BATHTUBua30 SPEARva1 ARROWva2va3 SWORDva4va6ua40 WHEELED CHARIOTvi1",
     "va2 CHARIOT FRAMEva3 WHEELva5va6jaMONOGRAM B247 DIPTEjaIDEOGRAM B248va9ua51va2va3va4 DART",
     "va5va6va7va8va9saVESSEL B155!a200$a1$a2$a3$a4$a5$a6$a7$a8$a9#a10$a1$a2$a3$a4$a5$a6$a7$a8",
     "$a9#a21$a2$a6$a7$a8$a9#a50!a305"]),
   (0x10100, ["aaAEGEAN WORD SEPARATOR LINEwaDOThaCHECK MARK"]),
   (0x10107, ["aaAEGEAN NUMBER ONEoaTWOpaHREEoaFOURpaIVEoaSIXpaEVENoaEIGHToaNINEoaTENpaWENTY",
     "paHIRTYoaFORTYpaIFTYoaSIXTYpaEVENTYoaEIGHTYoaNINETYoaONE HUNDREDoiTWOpiHREEoiFOURpiIVE",
     "oiSIXpiEVENoiEIGHToiNINEoaONE THOUSANDojTWOpjHREEojFOURpjIVEojSIXpjEVENojEIGHTojNINEojTEN",
     "pjWENTYpjHIRTYojFORTYpjIFTYojSIXTYpjEVENTYojEIGHTYojNINETY"]),
   (0x10137, ["aaAEGEAN WEIGHT BASE UNIToaFIRST SUBUNIToiSECONDoiTHIRDoiFOURTH",
     "hiDRY MEASURE FIRSThwLIQUIDhiMEASURE SECONDpiTHIRDaaGREEK ACROPHONIC ATTIC ONE QUARTER",
     "#aHALF#aDRACHMAxaFIVEzaFTYzaVE HUNDRED$aTHOUSANDzjFTYzaVE TALENTSxiTENxiFIFTYxiONE HUNDRED",
     "xqFIVExiONE THOUSANDxrFIVE$aSTATERSxiTENxiFIFTYxiONE HUNDREDxqFIVExiONE THOUSANDxrTEN",
     "xrFIFTYxaTEN MNASraHERAEUM ONE PLETHRONraTHESPIAN ONEreHERMIONIANraEPIDAUREAN TWO",
     "reTHESPIANraCYRENAIC TWO DRACHMASrnEPIDAUREANraTROEZENIAN FIVE$aTEN(a ALTERNATE FORM",
     "raHERMIONIAN TENreMESSENIANreTHESPIAN#aHIRTYsaROEZENIAN FIFTY*a ALTERNATE FORM",
     "raHERMIONIAN FIFTYrgTHESPIAN!aONE HUNDRED!iTHREEriEPIDAUREAN FIVErnTROEZENIANsnHESPIAN",
     "rnCARYSTIANrnNAXIANraTHESPIAN ONE THOUSAND!jFIVEraDELPHIC FIVE MNASrfSTRATIAN FIFTY",
     "gaONE HALF SIGNta ALTERNATE FORMgaTWO THIRDS SIGNhfHREE QUARTERSgfYEARgfTALENTgfDRACHMA",
     "gfOBOLgfTWO OBOLShlHREEglFOURhlIVEgfMETRETESgfKYATHOS BASEgfLITRAgfOUNKIAgfXESTESgfARTABE",
     "ifOURAgfGRAMMAgfTRYBLION BASEgfZEROgfONE QUARTERgfSINUSOIDgfINDICTIONafNOMISMA"]),
   (0x10190, ["aaROMAN SEXTANS SIGNgfUNCIAgfSEMUNCIAifXTULAgfDIMIDIA SEXTULAgfSILIQUAgfDENARIUS",
     "gfQUINARIUSgfSESTERTIUSgfDUPONDIUSgfASgfCENTURIALaaASCIA SYMBOL"]),
   (0x101A0, ["aaGREEK SYMBOL TAU RHO"]),
   (0x101D0, ["aaPHAISTOS DISC SIGN PEDESTRIANuaLUMED HEADtfTATTOOEDtaCAPTIVEuaHILDtaWOMAN",
     "taHELMETtaGAUNTLETtaTIARAtaARROWtaBOWtaSHIELDtaCLUBtaMANACLESvaTTOCKtaSAWtaLIDtaBOOMERANG",
     "taCARPENTRY PLANEtaDOLIUMtaCOMBtaSLINGtaCOLUMNtaBEEHIVEtaSHIPtaHORNuaIDEtaBULLS LEGtaCAT",
     "taRAMtaEAGLEtaDOVEtaTUNNYtaBEEtaPLANE TREEtaVINEtaPAPYRUStaROSETTEtaLILYtaOX BACKtaFLUTE",
     "taGRATERtaSTRAINERuaMALL AXEtaWAVY BANDtaCOMBINING OBLIQUE STROKE"]),
   (0x10280, ["aaLYCIAN LETTER AoaEoaBpaHoaGoaDoaIoaWoaZoaTHoaJoaKoaQoaLoaMoaNoaMMoaNNoaUoaPoaKK",
     "oaRoaSoaTpaToaANoaENoaHoaX"]),
   (0x102A0, ["aaCARIAN LETTER AoaP2oaDoaLoaUUUoaRoaLDoaA2oaQoaBoaMoaOoaD2oaToaSHqa2paoaC-18oaU",
     "oaNNoaXoaNoaTT2oaPoaSSoaIoaEoaUUUUoaKpa2oaNDoaUUoaGpa2oaSTqa2oaNGoaIIoaC-39oaTToaUUU2oaRR",
     "oaMBqa2qa3qa4oaLD2oaE2oaUUU3"]),
   (0x102E0, ["aaCOPTIC EPACT THOUSANDS MARKnaDIGIT ONEtaTWOuaHREEtaFOURuaIVEtaSIXuaEVENtaEIGHT",
     "taNINEnaNUMBER TENvaWENTYvaHIRTYuaFORTYvaIFTYuaSIXTYvaEVENTYuaEIGHTYuaNINETYuaONE HUNDRED",
     "uiTWOviHREEuiFOURviIVEuiSIXviEVENuiEIGHTuiNINE"]),
   (0x10300, ["aaOLD ITALIC LETTER AsaBEsaKEsaDEsaEsaVEsaZEsaHEsaTHEsaIsaKAsaELtaMtaNtaSHsaOsaPE",
     "saSHEsaKUsaERtaSsaTEsaUsaEKSsaPHEsaKHEsaEFtaRSsaCHEsaIIsaUUsaESSlaNUMERAL ONEtaFIVEtaTEN",
     "taFIFTY"]),
   (0x1032D, ["aaOLD ITALIC LETTER YEsaNORTHERN TSEseSOUTHERNaaGOTHIC LETTER AHSAoaBAIRKANoaGIBA",
     "oaDAGSoaAIHVUSoaQAIRTHRAoaIUJAoaHAGLoaTHIUTHoaEISoaKUSMAoaLAGUSoaMANNAoaNAUTHSoaJERoaURUS",
     "oaPAIRTHRAoaNINETYoaRAIDAoaSAUILoaTEIWSoaWINJAoaFAIHUoaIGGWSoaHWAIRoaOTHALoaNINE HUNDRED"]),
   (0x10350, ["aaOLD PERMIC LETTER ANsaBURsaGAIsaDOIsaEsaZHOIsaDZHOIsaZATAsaDZITAsaIsaKOKEsaLEI",
     "saMENOEsaNENOEsaVOOIsaPEEIsaREIsaSIIsaTAIsaUsaCHERYsaSHOOIuaCHOOIsaYRYtaERUsaOtaOsaEFsaHA",
     "saTSIUsaVERsaYERvaItaATsaIEsaYUtaAsaIAaaCOMBINING OLD PERMIC LETTER AN$aDOI$aZATA$aNENOE",
     "$aSII"]),
   (0x10380, ["aaUGARITIC LETTER ALPAqaBETAqaGAMLAqaKHAqaDELTAqaHOqaWOqaZETAqaHOTAqaTETqaYOD",
     "qaKAFqaSHINqaLAMDAqaMEMqaDHALqaNUNqaZUqaSAMKAqaAINqaPUqaSADEqaQOPAqaRASHAqaTHANNAqaGHAIN",
     "qaTOqaIqaUqaSSU"]),
   (0x1039F, ["aaUGARITIC WORD DIVIDERaaOLD PERSIAN SIGN AraIraUraKAsaUraGAsaUraXAraCAraJAsaI",
     "raTAsaUraDAsaIsaUraTHAraPAraBAraFAraNAsaUraMAsaIsaUraYAraVAsaIraRAsaUraLAraSAraZAraSHAsaSA",
     "raHA"]),
   (0x103C8, ["aaOLD PERSIAN SIGN AURAMAZDAA#a-2#aHAraXSHAAYATHIYAraDAHYAAUSH!a-2raBAGAsaUUMISH",
     "maWORD DIVIDERmaNUMBER ONEtaTWOuaENuaWENTYtaHUNDRED"]),
   (0x10400, ["aaDESERET CAPITAL LETTER LONG I$aE$aA%aH$aO%aOxaSHORT I%aE%aA&aH%aO&aOxaAYxaOW",
     "xaWUxaYEExaHxaPEExaBEExaTEExaDEExaCHEExaJEExaKAYxaGAYxaEFxaVEExaETHxaTHEExaESxaZEExaESH",
     "xaZHEExaERyaLyaMyaNzaGxaOIxaEWiaSMALL LETTER LONG I!aE!aA#aH!aO#aOvaSHORT I#aE#aA$aH#aO$aO",
     "vaAYvaOWvaWUvaYEEvaHvaPEEvaBEEvaTEEvaDEEvaCHEEvaJEEvaKAYvaGAYvaEFvaVEEvaETHvaTHEEvaESvaZEE",
     "vaESHvaZHEEvaERwaLwaMwaNxaGvaOIvaEWaaSHAVIAN LETTER PEEPpaTOTpaKICKpaFEEpaTHIGHpaSOqaURE",
     "paCHURCHpaYEApaHUNGpaBIBpaDEADpaGAGpaVOWpaTHEYpaZOOpaMEASUREpaJUDGEpaWOEpaHA-HApaLOLL",
     "paMIMEpaIFpaEGGpaASHqaDOpaONpaWOOLpaOUTpaAHpaROARpaNUNpaEATpaAGEpaICEpaUPpaOAKqaOZEqaIL",
     "paAWEqaREpaORpaAIRpaERRpaARRAYpaEARpaIANpaYEWaaOSMANYA LETTER ALEFpaBApaTApaJApaXApaKHA",
     "paDEELpaRApaSAqaHIINpaDHApaCAYNpaGApaFApaQAAFpaKAAFpaLAANpaMIINpaNUUNpaWAWpaHApaYApaApaE",
     "paIpaOpaUpaAApaEEpaOO"]),
   (0x104A0, ["aaOSMANYA DIGIT ZEROoaONEoaTWOpaHREEoaFOURpaIVEoaSIXpaEVENoaEIGHToaNINE"]),
   (0x104B0, ["aaOSAGE CAPITAL LETTER AwaIxaNwaHvaBRAvaCHAvaEHCHAwawaINvaHAwaYAvaIvaKAvaEHKA",
     "vaKYAvaLAvaMAvaNAvaOwaINvaPAvaEHPAvaSAwaHAvaTAvaEHTAvaTSAvaEHTSAvaTSHAvaDHAvaUvaWAvaKHA",
     "vaGHAvaZAwaHA"]),
   (0x104D8, ["aaOSAGE SMALL LETTER AuaIvaNuaHtaBRAtaCHAtaEHCHAuauaINtaHAuaYAtaItaKAtaEHKAtaKYA",
     "taLAtaMAtaNAtaOuaINtaPAtaEHPAtaSAuaHAtaTAtaEHTAtaTSAtaEHTSAtaTSHAtaDHAtaUtaWAtaKHAtaGHA",
     "taZAuaHA"]),
   (0x10500, ["aaELBASAN LETTER ApaBEpaCEqaHEpaDEpaNDEpaDHEpaEIqapaFEpaGEqaJEpaHEpaIpaJEpaKEpaLE",
     "qaLEpaMEpaNEqaAqaJEpaOpaPEpaQEpaREqaREpaSEqaHEpaTEqaHEpaUpaVEpaXEpaYpaZEqaHEpaGHEraAMMA",
     "paKHE"]),
   (0x10530, ["aaCAUCASIAN ALBANIAN LETTER ALT!aBET!aGIM!aDAT!aEB!aZARL!aEYN!aZHIL!aTAS!aCHA",
     "!aYOWD!aZHA!aIRB!aSHA!aLAN!aINYA!aXEYN!aDYAN!aCAR!aJHOX!aKAR!aLYIT!aHEYT!aQAY!aAOR!aCHOY",
     "$aI#aYAY!aMAQ!aQAR!aNOWC!aDZYAY!aSHAK!aJAYN!aON!aTYAY!aFAM!aDZAY!aCHAT!aPEN!aGHEYS!aRAT",
     "!aSEYK!aVEYZ!aTIWR!aSHOY!aIWN!aCYAW#aAYN!aYAYD!aPIWR!aKIW"]),
   (0x1056F, ["aaCAUCASIAN ALBANIAN CITATION MARKaaVITHKUQI CAPITAL LETTER AyaBBEzaEyaCEzaHEyaDE",
     "zaHEyaEIzayaFEyaGA"]),
   (0x1057C, ["aaVITHKUQI CAPITAL LETTER HAzaHAyaIzaJEyaJEyaKAyaLAzaLAyaMEyaNEzaJEyaOyaPEyaQA",
     "yaRE"]),
   (0x1058C, ["aaVITHKUQI CAPITAL LETTER SEzaHEyaTEzaHEyaUyaVEyaXE"]),
   (0x10594, ["aaVITHKUQI CAPITAL LETTER YyaZE"]),
   (0x10597, ["aaVITHKUQI SMALL LETTER AwaBBExaEwaCExaHEwaDExaHEwaEIxawaFEwaGA"]),
   (0x105A3, ["aaVITHKUQI SMALL LETTER HAxaHAwaIxaJEwaJEwaKAwaLAxaLAwaMEwaNExaJEwaOwaPEwaQAwaRE"]),
   (0x105B3, ["aaVITHKUQI SMALL LETTER SExaHEwaTExaHEwaUwaVEwaXE"]),
   (0x105BB, ["aaVITHKUQI SMALL LETTER YwaZE"]),
   (0x10600, ["aaLINEAR A SIGN AB001sa2sa3sa4sa5sa6sa7sa8sa9ra10sa1sa3sa6sa7ra20sa1taFtaMsa2taF",
     "taMsa3taMsa4sa6sa7sa8pa028BpaB029ra30sa1sa4sa7sa8sa9ra40sa1sa4sa5sa6sa7sa8sa9ra50sa1sa3sa4",
     "sa5sa6sa7sa8sa9ra60sa1sa5sa6sa7sa9ra70sa3sa4sa6sa7sa8sa9ra80sa1sa2sa5sa6sa7pa100-102paB118",
     "ra20pa120BpaB122sa3ra31AtaBpa131CpaB164ra71ra80sa8ra91pa301ra2ra3ra4ra5ra6ra7ra8ra9AsaBsaC",
     "qa10ra1ra2ra3AsaBsaCra4ra5ra6ra7ra8ra9qa20ra1ra2ra3ra4ra5ra6ra7ra8ra9qa30ra1ra2ra3ra4ra5",
     "ra6ra7ra8ra9qa40ra1ra2ra3ra4ra5ra6ra7ra8ra9qa50ra1ra2ra3ra4ra5ra6ra7ra8ra9qa60ra1ra2ra3ra4",
     "ra5ra6ra7ra8ra9qa70ra1pa400-VASre1re2re3re4re5re6re7re8re9qe10re1re2re3re4re5re6re7re8",
     "pa501ra2ra3ra4ra5ra6ra8ra9qa10ra1ra2ra3ra5ra6qa20ra1ra3ra4ra5ra6ra7ra8ra9qa30ra1ra2ra4ra5",
     "ra6ra7ra8ra9qa40ra1ra2ra5ra7ra8ra9qa50ra1ra2ra3ra4ra5ra6ra7ra9qa63ra4ra5ra6ra8ra9qa70ra1",
     "ra2ra3ra4ra5ra6ra7ra8ra9qa80ra1ra2ra3ra4ra5ra6ra7ra8ra9qa91ra2ra4ra5ra6ra8pa600ra1ra2ra3",
     "ra4ra6ra8ra9qa10ra1ra2ra3ra4ra5ra6ra7ra8ra9qa20ra1ra2ra3ra4ra6ra7ra8ra9qa34ra7ra8qa40ra2",
     "ra3ra4ra5ra6ra8ra9qa51ra2ra3ra4ra5ra6ra7ra8ra9qa60ra1ra2ra3ra4"]),
   (0x10740, ["aaLINEAR A SIGN A701 Ara2 Bra3 Dra4 Era5 Fra6 Hra7 Jra8 Kra9 Lsa-2 L2ta3 L3ta4 L4",
     "ta6 L6qa10 Wra1 Xra2 Yra3 OMEGAra4 ABBra5 BBra7 DDqa26 EYYYqa32 JE"]),
   (0x10760, ["aaLINEAR A SIGN A800ra1ra2ra3ra4ra5ra6ra7"]),
   (0x10780, ["aaMODIFIER LETTER SMALL CAPITAL AAraUPERSCRIPT TRIANGULAR COLON$gHALF TRIANGULAR",
     "raMALL AEwaCAPITAL BwaB WITH HOOK"]),
   (0x10787, ["aaMODIFIER LETTER SMALL DZ DIGRAPH)a WITH RETROFLEX HOOK;aCURLxaEZH DIGRAPH",
     "xa WITH TAIL%aHOOK*a AND TAILwaREVERSED EwcCLOSED REVERSED OPENwaFENG DIGRAPHwaRAMS HORN",
     "waCAPITAL GwaG WITH HOOKwkCAPITAL GwaH WITH STROKEwaCAPITAL HwaHENG WITH HOOK",
     "wfDOTLESS J WITH STROKE ANDwaLS DIGRAPHxiZxa WITH BELTwkCAPITAL L",
     "wfL WITH RETROFLEX HOOK ANDxaEZH!a WITH RETROFLEX HOOKwaTURNED Y&a WITH BELT",
     "waO WITH STROKEwaCAPITAL OExaLOSED OMEGAwaQwaTURNED R WITH LONG LEG]a AND RETROFLEX HOOK",
     "waR WITH TAIL%aFISHHOOKwaCAPITAL RwaTC DIGRAPH WITH CURLxaS DIGRAPH)a WITH RETROFLEX HOOK",
     "xaESH DIGRAPHxa WITH RETROFLEX HOOKwfV WITH RIGHT"]),
   (0x107B2, ["aaMODIFIER LETTER SMALL CAPITAL YqaGLOTTAL STOP WITH STROKEqrREVERSED GLOTTAL",
     "qaBILABIAL CLICKqgDENTALqgLATERALqgALVEOLARqaRETROFLEX CLICK WITH RETROFLEX HOOK",
     "qaSMALL S WITH CURL"]),
   (0x10800, ["aaCYPRIOT SYLLABLE AraEraIraOraUraJA"]),
   (0x10808, ["aaCYPRIOT SYLLABLE JO"]),
   (0x1080A, ["aaCYPRIOT SYLLABLE KAsaEsaIsaOsaUraLAsaEsaIsaOsaUraMAsaEsaIsaOsaUraNAsaEsaIsaOsaU",
     "raPAsaEsaIsaOsaUraRAsaEsaIsaOsaUraSAsaEsaIsaOsaUraTAsaEsaIsaOsaUraWAsaEsaIsaO"]),
   (0x10837, ["aaCYPRIOT SYLLABLE XAsaE"]),
   (0x1083C, ["aaCYPRIOT SYLLABLE ZA"]),
   (0x1083F, ["aaCYPRIOT SYLLABLE ZOaaIMPERIAL ARAMAIC LETTER ALEPHyaBETHyaGIMELyaDALETHyaHE",
     "yaWAWyaZAYINyaHETHyaTETHyaYODHyaKAPHyaLAMEDHyaMEMyaNUNyaSAMEKHyaAYINyaPEyaSADHEyaQOPH",
     "yaRESHyaSHINyaTAW"]),
   (0x10857, ["aaIMPERIAL ARAMAIC SECTION SIGNraNUMBER ONEyaTWOzaHREEzaENzaWENTYyaONE HUNDRED",
     "$aTHOUSANDyjTENaaPALMYRENE LETTER ALEPHraBETHraGIMELraDALETHraHEraWAWraZAYINraHETHraTETH",
     "raYODHraKAPHraLAMEDHraMEMraFINAL NUNraNUNraSAMEKHraAYINraPEraSADHEraQOPHraRESHraSHINraTAW",
     "maFT-POINTING FLEURONkrRIGHTkaNUMBER ONEraTWOsaHREEraFOURsaIVEraTENsaWENTY",
     "aaNABATAEAN LETTER FINAL ALEPHraALEPHraFINAL BETHraBETHraGIMELraDALETHraFINAL HEraHEraWAW",
     "raZAYINraHETHraTETHraFINAL YODHraYODHraFINAL KAPHraKAPHraFINAL LAMEDHraLAMEDHraFINAL MEM",
     "raMEMraFINAL NUNraNUNraSAMEKHraAYINraPEraSADHEraQOPHraRESHraFINAL SHINraSHINraTAW"]),
   (0x108A7, ["aaNABATAEAN NUMBER ONEraTWOsaHREEraFOURkfCRUCIFORM NUMBERkaNUMBER FIVEraTEN",
     "saWENTYraONE HUNDRED"]),
   (0x108E0, ["aaHATRAN LETTER ALEPHoaBETHoaGIMELoaDALETH-RESHoaHEoaWAWoaZAYNoaHETHoaTETHoaYODH",
     "oaKAPHoaLAMEDHoaMEMoaNUNoaSAMEKHoaAYNoaPEoaSADHEoaQOPH"]),
   (0x108F4, ["aaHATRAN LETTER SHINoaTAW"]),
   (0x108FB, ["aaHATRAN NUMBER ONEoaFIVEoaTENpaWENTYoaONE HUNDREDaaPHOENICIAN LETTER ALFsaBET",
     "saGAMLsaDELTsaHEsaWAUsaZAIsaHETsaTETsaYODsaKAFsaLAMDsaMEMsaNUNsaSEMKsaAINsaPEsaSADEsaQOF",
     "saROSHsaSHINsaTAUlaNUMBER ONEsaTENtaWENTYsaONE HUNDREDsaTWOtaHREE"]),
   (0x1091F, ["aaPHOENICIAN WORD SEPARATORaaLYDIAN LETTER AoaBoaGoaDoaEoaVoaIoaYoaKoaLoaMoaNoaO",
     "oaRoaSSoaToaUoaFoaQoaSoaTToaANoaENoaLYoaNNoaC"]),
   (0x1093F, ["aaLYDIAN TRIANGULAR MARK"]),
   (0x10980, ["aaMEROITIC HIEROGLYPHIC LETTER A%aE%aI%aO%aYA%aWA%aBA(a-2%aPA%aMA%aNA(a-2&aE(a-2",
     "%aRA(a-2%aLA%aKHA%aHHA%aSA(a-2&aE%aKA%aQA%aTA(a-2&aE(a-2&aO%aDAwaSYMBOL VIDJ*a-2",
     "jaCURSIVE LETTER AyaEyaIyaOyaYAyaWAyaBAyaPAyaMAyaNAzaEyaRAyaLAyaKHAyaHHAyaSAyaARCHAIC SA",
     "yaSEyaKAyaQAyaTAzaEzaOyaDA"]),
   (0x109BC, ["aaMEROITIC CURSIVE FRACTION ELEVEN TWELFTHS!aONE HALFraLOGOGRAM RMT!aIMN",
     "raNUMBER ONEyaTWOzaHREEyaFOURzaIVEyaSIXzaEVENyaEIGHTyaNINEyaTENzaWENTYzaHIRTYyaFORTYzaIFTY",
     "yaSIXTYzaEVENTY"]),
   (0x109D2, ["aaMEROITIC CURSIVE NUMBER ONE HUNDREDyiTWOziHREEyiFOURziIVEyiSIXziEVENyiEIGHT",
     "yiNINEyaONE THOUSANDyjTWOzjHREEyjFOURzjIVEyjSIXzjEVENyjEIGHTyjNINEyjTENzjWENTYzjHIRTY",
     "yjFORTYzjIFTYyjSIXTYzjEVENTYyjEIGHTYyjNINETYyjONE HUNDREDyrTWOzrHREEyrFOURzrIVEyrSIXzrEVEN",
     "yrEIGHTyrNINEraFRACTION ONE TWELFTH!aTWO TWELFTHS#jHREE!jFOUR#jIVE!jSIX#jEVEN!jEIGHT!jNINE",
     "!jTENaaKHAROSHTHI LETTER AlaVOWEL SIGN IwaUwaVOCALIC R"]),
   (0x10A05, ["aaKHAROSHTHI VOWEL SIGN EwaO"]),
   (0x10A0C, ["aaKHAROSHTHI VOWEL LENGTH MARKlaSIGN DOUBLE RING BELOWqaANUSVARAqaVISARGA",
     "laLETTER KAtaHAsaGAtaHA"]),
   (0x10A15, ["aaKHAROSHTHI LETTER CAtaHAsaJA"]),
   (0x10A19, ["aaKHAROSHTHI LETTER NYAsaTTAuaHAsaDDAuaHAsaNNAsaTAtaHAsaDAtaHAsaNAsaPAtaHAsaBA",
     "taHAsaMAsaYAsaRAsaLAsaVAsaSHAtaSAtaAsaZAsaHAsaKKAsaTTTHAvaAsaVHA"]),
   (0x10A38, ["aaKHAROSHTHI SIGN BAR ABOVEqaCAUDAqaDOT BELOW"]),
   (0x10A3F, ["aaKHAROSHTHI VIRAMAlaDIGIT ONEraTWOsaHREEraFOURlaNUMBER TENtaWENTYsaONE HUNDRED",
     "waTHOUSANDlaFRACTION ONE HALF"]),
   (0x10A50, ["aaKHAROSHTHI PUNCTUATION DOTxaSMALL CIRCLExaCIRCLEyaRESCENT BARxaMANGALAMxaLOTUS",
     "xaDANDAyaOUBLE DANDAxaLINES"]),
   (0x10A60, ["aaOLD SOUTH ARABIAN LETTER HEzaLAMEDHzaHETHzaMEMzaQOPHzaWAWzaSHINzaRESHzaBETH",
     "zaTAWzaSATzaKAPHzaNUNzaKHETHzaSADHE#aMEKHzaFEzaALEF!aYNzaDHADHEzaGIMELzaDALETHzaGHAYN",
     "zaTETHzaZAYNzaDHALETHzaYODHzaTHAW#aETHsaNUMBER ONEzaFIFTYvaERIC INDICATOR",
     "eaNORTH ARABIAN LETTER HEHzaLAMzaHAHzaMEEMzaQAFzaWAWzaES-2zaREHzaBEHzaTEHzaES-1zaKAFzaNOON",
     "zaKHAHzaSADzaES-3zaFEHzaALEF!aINzaDADzaGEEMzaDALzaGHAINzaTAHzaZAINzaTHALzaYEHzaTHEHzaZAH",
     "saNUMBER ONEzaTEN!aWENTY"]),
   (0x10AC0, ["aaMANICHAEAN LETTER ALEPHsaBETHtaHETHsaGIMELtaHIMELsaDALETHsaHEsaWAWlaSIGN UD",
     "laLETTER ZAYINtaHAYINsaJAYINtaHAYINsaHETHsaTETHsaYODHsaKAPHsaXAPHsaKHAPHsaLAMEDHsaDHAMEDH",
     "saTHAMEDHsaMEMsaNUNsaSAMEKHsaAYINtaAYINsaPEsaFEsaSADHEsaQOPHsaXOPHsaQHOPHsaRESHsaSHIN",
     "taSHINsaTAWlaABBREVIATION MARK ABOVE%aBELOW"]),
   (0x10AEB, ["aaMANICHAEAN NUMBER ONEsaFIVEsaTENtaWENTYsaONE HUNDREDlaPUNCTUATION STARxaFLEURON",
     "xaDOUBLE DOT WITHIN DOTzlT!axaTWO DOTSxaLINE FILLER"]),
   (0x10B00, ["aaAVESTAN LETTER AqaAqaOqaAOqaNqaANqaEraEpaEqaEpaOqaOpaIqaIpaUqaUpaKEpaXEqaYEqaVE",
     "paGEqaGEqaHEpaCEpaJEpaTEqaHEpaDEqaHEpaTTEpaPEpaFEpaBEqaHEpaNGEraYEraVEqaEqaYEqaNEpaMEpaHME",
     "paYYEqaEpaVEpaREpaLEpaSEpaZEpaSHEpaZHEpaSHYEqaSHEpaHE"]),
   (0x10B39, ["aaAVESTAN ABBREVIATION MARKaaTINY TWO DOTS OVER ONE DOT PUNCTUATIONa+SMALLa+LARGE",
     "gmONE DOT OVER TWO DOTSgmTWO RINGS OVER ONE RINGgmONE RING OVER TWO RINGS",
     "aaINSCRIPTIONAL PARTHIAN LETTER ALEPH&aBETH&aGIMEL&aDALETH&aHE&aWAW&aZAYIN&aHETH&aTETH",
     "&aYODH&aKAPH&aLAMEDH&aMEM&aNUN&aSAMEKH&aAYIN&aPE&aSADHE&aQOPH&aRESH&aSHIN&aTAW"]),
   (0x10B58, ["aaINSCRIPTIONAL PARTHIAN NUMBER ONE&aTWO(aHREE&aFOUR&aTEN(aWENTY&aONE HUNDRED",
     "+aTHOUSANDqaHLAVI LETTER ALEPH%aBETH%aGIMEL%aDALETH%aHE%aWAW-AYIN-RESH%aZAYIN%aHETH%aTETH",
     "%aYODH%aKAPH%aLAMEDH%aMEM-QOPH%aNUN%aSAMEKH%aPE%aSADHE&aHIN%aTAW"]),
   (0x10B78, ["aaINSCRIPTIONAL PAHLAVI NUMBER ONE%aTWO&aHREE%aFOUR%aTEN&aWENTY%aONE HUNDRED",
     "*aTHOUSANDaaPSALTER PAHLAVI LETTER ALEPHxaBETHxaGIMELxaDALETHxaHExaWAW-AYIN-RESHxaZAYIN",
     "xaHETHxaYODHxaKAPHxaLAMEDHxaMEM-QOPHxaNUNxaSAMEKHxaPExaSADHEyaHINxaTAW"]),
   (0x10B99, ["aaPSALTER PAHLAVI SECTION MARKqfTURNED SECTIONqaFOUR DOTS WITH CROSS(aDOT"]),
   (0x10BA9, ["aaPSALTER PAHLAVI NUMBER ONExaTWOyaHREExaFOURxaTENyaWENTYxaONE HUNDRED"]),
   (0x10C00, ["aaOLD TURKIC LETTER ORKHON AscYENISEI#aEsaORKHON IscYENISEI!aEsaORKHON O!aE",
     "sdYENISEIsaORKHON ABsdYENISEIsaORKHON AEBseYENISEIsaORKHON AGsdYENISEIsaORKHON AEG",
     "seYENISEIsaORKHON ADsdYENISEIsaORKHON AEDzaEZsdYENISEIsaORKHON AYsdYENISEIsaORKHON AEY",
     "seYENISEIsaORKHON AEKseYENISEIsaORKHON OEKseYENISEIsaORKHON ALsdYENISEIsaORKHON AELzaELT",
     "!aMzaAN!aENseYENISEIsaORKHON ENTseYENISEIsaORKHON ENCseYENISEIsaORKHON ENYseYENISEI!aANG",
     "saORKHON ENGsaYENISEI AENGsaORKHON EPzaOPzaICzaECsdYENISEIsaORKHON AQsdYENISEIsaORKHON IQ",
     "sdYENISEIsaORKHON OQsdYENISEIsaORKHON ARsdYENISEIsaORKHON AER!aS!aES!aSHseYENISEI",
     "saORKHON ESHseYENISEIsaORKHON ATsdYENISEIsaORKHON AETseYENISEIsaORKHON OTzaBASH"]),
   (0x10C80, ["aaOLD HUNGARIAN CAPITAL LETTER A&aA%aEB%aAMB%aEC&aNC&aCS&aD%aAND%aE%aCLOSE E%aEE",
     "&aF&aG(aY&aH%aI&aI%aEJ&aK%aAK%aUNK%aEL(aY&aM&aN(aY%aO&aO%aNIKOLSBURG OE%dRUDIMENTA%aOEE",
     "%aEP&aMP&aR%aSHORT ER%aES(aZ&aT&aNT&aTY&aCH%aU&aU%aNIKOLSBURG UE%dRUDIMENTA%aEV&aZ(aS",
     "&aNT-SHAPED SIGN%aUS"]),
   (0x10CC0, ["aaOLD HUNGARIAN SMALL LETTER A$aA#aEB#aAMB#aEC$aNC$aCS$aD#aAND#aE#aCLOSE E#aEE$aF",
     "$aG%aY$aH#aI$aI#aEJ$aK#aAK#aUNK#aEL%aY$aM$aN%aY#aO$aO#aNIKOLSBURG OE#dRUDIMENTA#aOEE#aEP",
     "$aMP$aR#aSHORT ER#aES%aZ$aT$aNT$aTY$aCH#aU$aU#aNIKOLSBURG UE#dRUDIMENTA#aEV$aZ%aS",
     "$aNT-SHAPED SIGN#aUS"]),
   (0x10CFA, ["aaOLD HUNGARIAN NUMBER ONEvaFIVEvaTENvaFIFTYvaONE HUNDREDzaTHOUSAND",
     "aaHANIFI ROHINGYA LETTER AxaBAxaPAxaTAyaTAxaJAxaCAxaHAxaKHAxaFAxaDAyaDAxaRAyaRAxaZAxaSA",
     "yaHAxaKAxaGAxaLAxaMAxaNAxaWAxaKINNA WAxaYAxaKINNA YAxaNGAyaYAxaVAqaVOWEL AwaIwaUwaEwaO",
     "qaMARK SAKINvaNA KHONNAqaSIGN HARBAHAYvaTAHALAxaNAxaSSI"]),
   (0x10D30, ["aaHANIFI ROHINGYA DIGIT ZEROwaONEwaTWOxaHREEwaFOURxaIVEwaSIXxaEVENwaEIGHTwaNINE"]),
   (0x10E60, ["aaRUMI DIGIT ONElaTWOmaHREElaFOURmaIVElaSIXmaEVENlaEIGHTlaNINEfaNUMBER TENnaWENTY",
     "naHIRTYmaFORTYnaIFTYmaSIXTYnaEVENTYmaEIGHTYmaNINETYmaONE HUNDREDmiTWOniHREEmiFOURniIVE",
     "miSIXniEVENmiEIGHTmiNINEfaFRACTION ONE HALFsaQUARTERsaTHIRDoaTWO THIRDS"]),
   (0x10E80, ["aaYEZIDI LETTER ELIFoaBEoaPEpaHEoaTHEoaSEoaCIMpaHIMqaHIMoaHHAoaXAoaDALoaZALoaRA",
     "paHAoaZAoaJAoaSINpaHINpaADoaDADoaTAoaZEoaEYNoaXHEYNoaFAoaVAqa ALTERNATE FORMoaQAFoaKAF",
     "paHAFoaGAFoaLAMoaMIMoaNUNoaUMoaWAWoaOWoaEWoaHAYoaYOToaET"]),
   (0x10EAB, ["aaYEZIDI COMBINING HAMZA MARKrfMADDAhfHYPHENATION"]),
   (0x10EB0, ["aaYEZIDI LETTER LAM WITH DOT ABOVEogYOT WITH CIRCUMFLEX"]),
   (0x10F00, ["aaOLD SOGDIAN LETTER ALEPHtaFINAL ALEPHtaBETHtaFINAL BETHtaGIMELtaHEtaFINAL HE",
     "taWAWtaZAYINtaHETHtaYODHtaKAPHtaLAMEDHtaMEMtaNUNtaFINAL NUN$a WITH VERTICAL TAILtaSAMEKH",
     "taAYINuaLTERNATE AYINtaPEtaSADHEtaFINAL SADHE&a WITH VERTICAL TAILtaRESH-AYIN-DALETHtaSHIN",
     "taTAWtaFINAL TAW$a WITH VERTICAL TAILmaNUMBER ONEtaTWOuaHREEtaFOURuaIVEtaTENuaWENTYuaHIRTY",
     "taONE HUNDREDmaFRACTION ONE HALFmaLIGATURE AYIN-DALETH"]),
   (0x10F30, ["aaSOGDIAN LETTER ALEPHpaBETHpaGIMELpaHEpaWAWpaZAYINpaHETHpaYODHpaKAPHpaLAMEDH",
     "paMEMpaNUNpaSAMEKHpaAYINpaPEpaSADHEpaRESH-AYINpaSHINpaTAWpaFETHpaLESHiaINDEPENDENT SHIN",
     "iaCOMBINING DOT BELOWsgTWO DOTSsaDOT ABOVEsgTWO DOTSsgCURVEyaBELOWsaHOOK ABOVExaBELOW",
     "sgLONG HOOKsgRESHsgSTROKEiaNUMBER ONEpaTENqaWENTYpaONE HUNDRED",
     "iaPUNCTUATION TWO VERTICAL BARS:a WITH DOTSuaCIRCLE WITH DOTuaTWO CIRCLES WITH DOTS",
     "uaHALF CIRCLE WITH DOT"]),
   (0x10F70, ["aaOLD UYGHUR LETTER ALEPHsaBETHsaGIMEL-HETHsaWAWsaZAYINsaFINAL HETHsaYODHsaKAPH",
     "saLAMEDHsaMEMsaNUNsaSAMEKHsaPEsaSADHEsaRESHsaSHINsaTAWsaLESHlaCOMBINING DOT ABOVEzaBELOW",
     "vaTWO DOTS ABOVE&aBELOWlaPUNCTUATION BARxaTWO BARS#aDOTSxfFOUR"]),
   (0x10FB0, ["aaCHORASMIAN LETTER ALEPHsaSMALL ALEPHsaBETHsaGIMELsaDALETHsaHEsaWAWsaCURLED WAW",
     "saZAYINsaHETHsaYODHsaKAPHsaLAMEDHsaMEMsaNUNsaSAMEKHsaAYINsaPEsaRESHsaSHINsaTAWlaNUMBER ONE",
     "saTWOtaHREEsaFOURsaTENtaWENTYsaONE HUNDRED"]),
   (0x10FE0, ["aaELYMAIC LETTER ALEPHpaBETHpaGIMELpaDALETHpaHEpaWAWpaZAYINpaHETHpaTETHpaYODH",
     "paKAPHpaLAMEDHpaMEMpaNUNpaSAMEKHpaAYINpaPEpaSADHEpaQOPHpaRESHpaSHINpaTAW",
     "jaIGATURE ZAYIN-YODH"]),
   (0x11000, ["aaBRAHMI SIGN CANDRABINDUmaANUSVARAmaVISARGAmaJIHVAMULIYAmaUPADHMANIYAhaLETTER A",
     "paAoaIpaIoaUpaUoaVOCALIC RxaRwaLxaLoaEoaAIoaOoaAUoaKApaHAoaGApaHAoaNGAoaCApaHAoaJApaHA",
     "oaNYAoaTTAqaHAoaDDAqaHAoaNNAoaTApaHAoaDApaHAoaNAoaPApaHAoaBApaHAoaMAoaYAoaRAoaLAoaVAoaSHA",
     "paSApaAoaHAoaLLAoaOLD TAMIL LLLAyaRRAyaNNNAhaVOWEL SIGN AAsaBHATTIPROLU AAsaItaIsaUtaU",
     "saVOCALIC R#aR!aL#aLsaEsaAIsaOsaAUiaIRAMAhaDANDAiaOUBLE DANDAhaPUNCTUATION DOTvaUBLE DOT",
     "taLINEtaCRESCENT BARtaLOTUS"]),
   (0x11052, ["aaBRAHMI NUMBER ONEoaTWOpaHREEoaFOURpaIVEoaSIXpaEVENoaEIGHToaNINEoaTENpaWENTY",
     "paHIRTYoaFORTYpaIFTYoaSIXTYpaEVENTYoaEIGHTYoaNINETYoaONE HUNDREDsaTHOUSANDhaDIGIT ZERO",
     "naONEnaTWOoaHREEnaFOURoaIVEnaSIXoaEVENnaEIGHTnaNINEhaSIGN OLD TAMIL VIRAMA",
     "haLETTER OLD TAMIL SHORT E&aOhaVOWEL SIGN OLD TAMIL SHORT E+aOhaLETTER OLD TAMIL LLA"]),
   (0x1107F, ["aaBRAHMI NUMBER JOINERaaKAITHI SIGN CANDRABINDUmaANUSVARAmaVISARGAhaLETTER ApaA",
     "oaIpaIoaUpaUoaEoaAIoaOoaAUoaKApaHAoaGApaHAoaNGAoaCApaHAoaJApaHAoaNYAoaTTAqaHAoaDDAqaDHA",
     "qaHAoaRHAoaNNAoaTApaHAoaDApaHAoaNAoaPApaHAoaBApaHAoaMAoaYAoaRAoaLAoaVAoaSHApaSApaAoaHA",
     "haVOWEL SIGN AAsaItaIsaUtaUsaEsaAIsaOsaAUhaSIGN VIRAMAmaNUKTAhaABBREVIATION SIGN",
     "hfENUMERATIONhfNUMBERhaSECTION MARKhfDOUBLE SECTIONiaANDAiaOUBLE DANDA",
     "haVOWEL SIGN VOCALIC R"]),
   (0x110CD, ["aaKAITHI NUMBER SIGN ABOVE"]),
   (0x110D0, ["aaSORA SOMPENG LETTER SAHuaTAHuaBAHuaCAHuaDAHuaGAHuaMAHuaNGAHuaLAHuaNAHuaVAHuaPAH",
     "uaYAHuaRAHuaHAHuaKAHuaJAHuaNYAHuaAHuaEEHuaIHuaUHuaOHuaEHuaMAE"]),
   (0x110F0, ["aaSORA SOMPENG DIGIT ZEROtaONEtaTWOuaHREEtaFOURuaIVEtaSIXuaEVENtaEIGHTtaNINE"]),
   (0x11100, ["aaCHAKMA SIGN CANDRABINDUmaANUSVARAmaVISARGAhaLETTER AAoaIoaUoaEoaKAApaHAAoaGAA",
     "paHAAoaNGAAoaCAApaHAAoaJAApaHAAoaNYAAoaTTAAqaHAAoaDDAAqaHAAoaNNAAoaTAApaHAAoaDAApaHAAoaNAA",
     "oaPAApaHAAoaBAApaHAAoaMAAoaYYAApaAAoaRAAoaLAAoaWAAoaSAAoaHAAhaVOWEL SIGN AsaItaIsaUtaUsaE",
     "saAIsaOsaAUsaOIhaO MARKhfAUhaVIRAMAhaMAAYYAA"]),
   (0x11136, ["aaCHAKMA DIGIT ZEROnaONEnaTWOoaHREEnaFOURoaIVEnaSIXoaEVENnaEIGHTnaNINE",
     "haSECTION MARKhaDANDAiaOUBLE DANDAhaQUESTION MARKhaLETTER LHAAhaVOWEL SIGN AAsaEI",
     "haLETTER VAA"]),
   (0x11150, ["aaMAHAJANI LETTER AqaIqaUqaEqaOqaKAraHAqaGAraHAqaCAraHAqaJAraHAqaNYAqaTTAsaHA",
     "qaDDAsaHAqaNNAqaTAraHAqaDAraHAqaNAqaPAraHAqaBAraHAqaMAqaRAqaLAqaVAqaSAqaHAqaRRA",
     "jaSIGN NUKTAjaABBREVIATION SIGNjaSECTION MARKjaLIGATURE SHRI"]),
   (0x11180, ["aaSHARADA SIGN CANDRABINDUnaANUSVARAnaVISARGAiaLETTER AqaApaIqaIpaUqaUpaVOCALIC R",
     "yaRxaLyaLpaEpaAIpaOpaAUpaKAqaHApaGAqaHApaNGApaCAqaHApaJAqaHApaNYApaTTAraHApaDDAraHApaNNA",
     "paTAqaHApaDAqaHApaNApaPAqaHApaBAqaHApaMApaYApaRApaLAqaLApaVApaSHAqaSAqaApaHA",
     "iaVOWEL SIGN AAtaIuaItaUuaUtaVOCALIC R$aR#aL$aLtaEtaAItaOtaAUiaSIGN VIRAMAnaAVAGRAHA",
     "naJIHVAMULIYAnaUPADHMANIYAiaOMiaDANDAjaOUBLE DANDAiaABBREVIATION SIGNiaSEPARATOR",
     "jaANDHI MARKjaIGN NUKTAiaVOWEL MODIFIER MARKifEXTRA SHORT VOWELifSUTRA",
     "iaVOWEL SIGN PRISHTHAMATRA EiaSIGN INVERTED CANDRABINDUiaDIGIT ZEROoaONEoaTWOpaHREEoaFOUR",
     "paIVEoaSIXpaEVENoaEIGHToaNINEiaEKAMiaSIGN SIDDHAMiaHEADSTROKEiaCONTINUATION SIGN",
     "iaSECTION MARK-1va2"]),
   (0x111E1, ["aaSINHALA ARCHAIC DIGIT ONEwaTWOxaHREEwaFOURxaIVEwaSIXxaEVENwaEIGHTwaNINE",
     "qaNUMBER TENyaWENTYyaHIRTYxaFORTYyaIFTYxaSIXTYyaEVENTYxaEIGHTYxaNINETYxaONE HUNDRED",
     "#aTHOUSAND"]),
   (0x11200, ["aaKHOJKI LETTER ApaAoaIoaUoaEoaAIoaOoaAUoaKApaHAoaGApaGApaHAoaNGAoaCApaHAoaJApaJA"]),
   (0x11213, ["aaKHOJKI LETTER NYAoaTTAqaHAoaDDAqaHAoaNNAoaTApaHAoaDApaDDApaHAoaNAoaPApaHAoaBA",
     "paBApaHAoaMAoaYAoaRAoaLAoaVAoaSAoaHAoaLLAhaVOWEL SIGN AAsaItaIsaUsaEsaAIsaOsaAU",
     "haSIGN ANUSVARAmaVIRAMAmaNUKTAmaSHADDAhaDANDAiaOUBLE DANDAhaWORD SEPARATORhaSECTION MARK",
     "hfDOUBLE SECTIONhaABBREVIATION SIGNhaSIGN SUKUN"]),
   (0x11280, ["aaMULTANI LETTER ApaIpaUpaEpaKAqaHApaGA"]),
   (0x11288, ["aaMULTANI LETTER GHA"]),
   (0x1128A, ["aaMULTANI LETTER CAqaHApaJAqaJA"]),
   (0x1128F, ["aaMULTANI LETTER NYApaTTAraHApaDDAraDAraHApaNNApaTAqaHApaDAqaHApaNApaPAqaHApaBA"]),
   (0x1129F, ["aaMULTANI LETTER BHApaMApaYApaRApaLApaVApaSApaHApaRRAqaHAiaSECTION MARK"]),
   (0x112B0, ["aaKHUDAWADI LETTER AsaAraIsaIraUsaUraEraAIraOraAUraKAsaHAraGAsaGAsaHAraNGAraCA",
     "saHAraJAsaJAsaHAraNYAraTTAtaHAraDDAtaDAraRRAraDDHAraNNAraTAsaHAraDAsaHAraNAraPAsaHAraBA",
     "saBAsaHAraMAraYAraRAraLAraVAraSHAsaAraHAkaSIGN ANUSVARAkaVOWEL SIGN AAvaIwaIvaUwaUvaEvaAI",
     "vaOvaAUkaSIGN NUKTApaVIRAMA"]),
   (0x112F0, ["aaKHUDAWADI DIGIT ZEROqaONEqaTWOraHREEqaFOURraIVEqaSIXraEVENqaEIGHTqaNINE"]),
   (0x11300, ["aaGRANTHA SIGN COMBINING ANUSVARA ABOVEoaANDRABINDUnaANUSVARAnaVISARGA"]),
   (0x11305, ["aaGRANTHA LETTER AqaApaIqaIpaUqaUpaVOCALIC RxaL"]),
   (0x1130F, ["aaGRANTHA LETTER EEpaAI"]),
   (0x11313, ["aaGRANTHA LETTER OOpaAUpaKAqaHApaGAqaHApaNGApaCAqaHApaJAqaHApaNYApaTTAraHApaDDA",
     "raHApaNNApaTAqaHApaDAqaHApaNA"]),
   (0x1132A, ["aaGRANTHA LETTER PAqaHApaBAqaHApaMApaYApaRA"]),
   (0x11332, ["aaGRANTHA LETTER LAqaLA"]),
   (0x11335, ["aaGRANTHA LETTER VApaSHAqaSAqaApaHA"]),
   (0x1133B, ["aaCOMBINING BINDU BELOWaaGRANTHA SIGN NUKTAnaAVAGRAHAiaVOWEL SIGN AAtaIuaItaUuaU",
     "taVOCALIC R$aR"]),
   (0x11347, ["aaGRANTHA VOWEL SIGN EEtaAI"]),
   (0x1134B, ["aaGRANTHA VOWEL SIGN OOtaAUiaSIGN VIRAMA"]),
   (0x11350, ["aaGRANTHA OM"]),
   (0x11357, ["aaGRANTHA AU LENGTH MARK"]),
   (0x1135D, ["aaGRANTHA SIGN PLUTAiaLETTER VEDIC ANUSVARAvaDOUBLE ANUSVARAqaOCALIC RRxaLL",
     "iaVOWEL SIGN VOCALIC L$aL"]),
   (0x11366, ["aaCOMBINING GRANTHA DIGIT ZEROyaONEyaTWOzaHREEyaFOURzaIVEyaSIX"]),
   (0x11370, ["aaCOMBINING GRANTHA LETTER AzaKAzaNAzaVIzaPA"]),
   (0x11400, ["aaNEWA LETTER AnaAmaInaImaUnaUmaVOCALIC RvaRuaLvaLmaEmaAImaOmaAUmaKAnaHAmaGAnaHA",
     "maNGAoaHAmaCAnaHAmaJAnaHAmaNYAoaHAmaTTAoaHAmaDDAoaHAmaNNAmaTAnaHAmaDAnaHAmaNAnaHAmaPAnaHA",
     "maBAnaHAmaMAnaHAmaYAmaRAnaHAmaLAnaHAmaWAmaSHAnaSAnaAmaHAfaVOWEL SIGN AAqaIraIqaUraU",
     "qaVOCALIC RzaRyaLzaLqaEqaAIqaOqaAUfaSIGN VIRAMAkaCANDRABINDUkaANUSVARAkaVISARGAkaNUKTA",
     "kaAVAGRAHAkaFINAL ANUSVARAfaOMfaSIDDHIfaDANDAgaOUBLE DANDAfaCOMMAfaGAP FILLER",
     "faABBREVIATION SIGNfaDIGIT ZEROlaONElaTWOmaHREElaFOURmaIVElaSIXmaEVENlaEIGHTlaNINE",
     "gaOUBLE COMMAfaPLACEHOLDER MARK"]),
   (0x1145D, ["aaNEWA INSERTION SIGNfaSANDHI MARKfaLETTER VEDIC ANUSVARAfaSIGN JIHVAMULIYA",
     "kaUPADHMANIYA"]),
   (0x11480, ["aaTIRHUTA ANJIiaLETTER AqaApaIqaIpaUqaUpaVOCALIC RyaRxaLyaLpaEpaAIpaOpaAUpaKAqaHA",
     "paGAqaHApaNGApaCAqaHApaJAqaHApaNYApaTTAraHApaDDAraHApaNNApaTAqaHApaDAqaHApaNApaPAqaHApaBA",
     "qaHApaMApaYApaRApaLApaVApaSHAqaSAqaApaHAiaVOWEL SIGN AAtaIuaItaUuaUtaVOCALIC R$aR#aL$aLtaE",
     "taSHORT EtaAItaOtaSHORT OtaAUiaSIGN CANDRABINDUnaANUSVARAnaVISARGApaRAMAnaNUKTAnaAVAGRAHA",
     "iaGVANGiaABBREVIATION SIGNiaOM"]),
   (0x114D0, ["aaTIRHUTA DIGIT ZEROoaONEoaTWOpaHREEoaFOURpaIVEoaSIXpaEVENoaEIGHToaNINE"]),
   (0x11580, ["aaSIDDHAM LETTER AqaApaIqaIpaUqaUpaVOCALIC RyaRxaLyaLpaEpaAIpaOpaAUpaKAqaHApaGA",
     "qaHApaNGApaCAqaHApaJAqaHApaNYApaTTAraHApaDDAraHApaNNApaTAqaHApaDAqaHApaNApaPAqaHApaBAqaHA",
     "paMApaYApaRApaLApaVApaSHAqaSAqaApaHAiaVOWEL SIGN AAtaIuaItaUuaUtaVOCALIC R$aR"]),
   (0x115B8, ["aaSIDDHAM VOWEL SIGN EtaAItaOtaAUiaSIGN CANDRABINDUnaANUSVARAnaVISARGApaRAMA",
     "naNUKTAnaSIDDHAMiaDANDAjaOUBLE DANDAiaSEPARATOR DOTsaBARiaREPETITION MARK-1ya2ya3",
     "iaEND OF TEXT MARKiaSECTION MARK WITH TRIDENT AND U-SHAPED ORNAMENTS;aDOTTED CRESCENTS",
     "!vRAYS@aDOUBLE CRESCENTS@kTRIPLEvaDOUBLE RING)a WITH RAYSvaWITH DOUBLE CRESCENTS!kTRIPLE",
     "!kQUADRUPLE!kSEPTUPLE!aCIRCLES AND RAYS;aTWO ENCLOSURES;lFOUR",
     "iaLETTER THREE-CIRCLE ALTERNATE IqtWO:aIpaALTERNATE UimVOWEL SIGN&aU"]),
   (0x11600, ["aaMODI LETTER AnaAmaInaImaUnaUmaVOCALIC RvaRuaLvaLmaEmaAImaOmaAUmaKAnaHAmaGAnaHA",
     "maNGAmaCAnaHAmaJAnaHAmaNYAmaTTAoaHAmaDDAoaHAmaNNAmaTAnaHAmaDAnaHAmaNAmaPAnaHAmaBAnaHAmaMA",
     "maYAmaRAmaLAmaVAmaSHAnaSAnaAmaHAmaLLAfaVOWEL SIGN AAqaIraIqaUraUqaVOCALIC RzaRyaLzaLqaE",
     "qaAIqaOqaAUfaSIGN ANUSVARAkaVISARGAmaRAMAkaARDHACANDRAfaDANDAgaOUBLE DANDA",
     "faABBREVIATION SIGNfaSIGN HUVA"]),
   (0x11650, ["aaMODI DIGIT ZEROlaONElaTWOmaHREElaFOURmaIVElaSIXmaEVENlaEIGHTlaNINE"]),
   (0x11660, ["aaMONGOLIAN BIRGA WITH ORNAMENTkaROTATED BIRGAkaDOUBLE BIRGA WITH ORNAMENT",
     "kuTRIPLEkjBIRGA WITH DOUBLEkjROTATED BIRGA WITH%aDOUBLE ORNAMENTkaINVERTED BIRGA",
     "ya WITH DOUBLE ORNAMENTkaSWIRL BIRGAva WITH ORNAMENT#aDOUBLE ORNAMENTk#TURNED SWIRL"]),
   (0x11680, ["aaTAKRI LETTER AoaAnaIoaInaUoaUnaEnaAInaOnaAUnaKAoaHAnaGAoaHAnaNGAnaCAoaHAnaJA",
     "oaHAnaNYAnaTTApaHAnaDDApaHAnaNNAnaTAoaHAnaDAoaHAnaNAnaPAoaHAnaBAoaHAnaMAnaYAnaRAnaLAnaVA",
     "naSHAoaAnaHAnaRRAgaSIGN ANUSVARAlaVISARGAgaVOWEL SIGN AAraIsaIraUsaUraEraAIraOraAU",
     "gaSIGN VIRAMAlaNUKTAgaLETTER ARCHAIC KHAgaABBREVIATION SIGN"]),
   (0x116C0, ["aaTAKRI DIGIT ZEROmaONEmaTWOnaHREEmaFOURnaIVEmaSIXnaEVENmaEIGHTmaNINE"]),
   (0x11700, ["aaAHOM LETTER KAnaHAmaNGAnaAmaTAmaALTERNATE TAmaPAnaHAmaBAmaMAmaJAmaCHAmaTHAmaRA",
     "maLAmaSAmaNYAmaHAmaAmaDAnaHAmaGAmaALTERNATE GAmaGHAmaBHAmaJHAmaALTERNATE BA"]),
   (0x1171D, ["aaAHOM CONSONANT SIGN MEDIAL LA#aRA#aLIGATING RAfaVOWEL SIGN AraAqaIraIqaUraUqaE",
     "qaAWqaOqaAIraMfaSIGN KILLER"]),
   (0x11730, ["aaAHOM DIGIT ZEROlaONElaTWOmaHREElaFOURmaIVElaSIXmaEVENlaEIGHTlaNINEfaNUMBER TEN",
     "naWENTYfaSIGN SMALL SECTIONlaECTIONkaRULAIgaYMBOL VIfaLETTER CAmaTTAoaHAmaDDAoaHAmaNNA",
     "maLLA"]),
   (0x11800, ["aaDOGRA LETTER AoaAnaIoaInaUoaUnaEnaAInaOnaAUnaKAoaHAnaGAoaHAnaNGAnaCAoaHAnaJA",
     "oaHAnaNYAnaTTApaHAnaDDApaHAnaNNAnaTAoaHAnaDAoaHAnaNAnaPAoaHAnaBAoaHAnaMAnaYAnaRAnaLAnaVA",
     "naSHAoaSAoaAnaHAnaRRAgaVOWEL SIGN AAraIsaIraUsaUraVOCALIC R!aRraEraAIraOraAU",
     "gaSIGN ANUSVARAlaVISARGAnaRAMAlaNUKTAgaABBREVIATION SIGN"]),
   (0x118A0, ["aaWARANG CITI CAPITAL LETTER NGAA#aA#aWI#aYU$aA$aO#aII#aUU#aE#aO#aANG#aGA#aKO",
     "#aENY#aYUJ#aUC#aENN#aODD#aTTE#aNUNG#aDA#aAT$aM#aBU#aPU#aHIYO$aOLO%aRR$aAR#aSSUU$aII#aVIYO",
     "maSMALL LETTER NGAAzaAzaWIzaYU!aA!aOzaIIzaUUzaEzaOzaANGzaGAzaKOzaENYzaYUJzaUCzaENNzaODD",
     "zaTTEzaNUNGzaDAzaAT!aMzaBUzaPUzaHIYO!aOLO#aRR!aARzaSSUU!aIIzaVIYOmaDIGIT ZEROsaONEsaTWO",
     "taHREEsaFOURtaIVEsaSIXtaEVENsaEIGHTsaNINEmaNUMBER TENuaWENTYuaHIRTYtaFORTYuaIFTYtaSIXTY",
     "uaEVENTYtaEIGHTYtaNINETY"]),
   (0x118FF, ["aaWARANG CITI OMaaDIVES AKURU LETTER AuaAtaIuaItaUuaUtaE"]),
   (0x11909, ["aaDIVES AKURU LETTER O"]),
   (0x1190C, ["aaDIVES AKURU LETTER KAuaHAtaGAuaHAtaNGAtaCAuaHAtaJA"]),
   (0x11915, ["aaDIVES AKURU LETTER NYAtaTTA"]),
   (0x11918, ["aaDIVES AKURU LETTER DDAvaHAtaNNAtaTAuaHAtaDAuaHAtaNAtaPAuaHAtaBAuaHAtaMAtaYAuaYA",
     "taRAtaLAtaVAtaSHAuaSAuaAtaHAtaLLAtaZAmaVOWEL SIGN AAxaIyaIxaUyaUxaE"]),
   (0x11937, ["aaDIVES AKURU VOWEL SIGN AIxaO"]),
   (0x1193B, ["aaDIVES AKURU SIGN ANUSVARAraCANDRABINDUraHALANTAmaVIRAMAmaPREFIXED NASAL SIGN",
     "maMEDIAL YAmaINITIAL RAmdMEDIALmaSIGN NUKTAmaDOUBLE DANDAmaGAP FILLERmaEND OF TEXT MARK"]),
   (0x11950, ["aaDIVES AKURU DIGIT ZEROsaONEsaTWOtaHREEsaFOURtaIVEsaSIXtaEVENsaEIGHTsaNINE"]),
   (0x119A0, ["aaNANDINAGARI LETTER AuaAtaIuaItaUuaUtaVOCALIC R$aR"]),
   (0x119AA, ["aaNANDINAGARI LETTER EtaAItaOtaAUtaKAuaHAtaGAuaHAtaNGAtaCAuaHAtaJAuaHAtaNYAtaTTA",
     "vaHAtaDDAvaHAtaNNAtaTAuaHAtaDAuaHAtaNAtaPAuaHAtaBAuaHAtaMAtaYAtaRAtaLAtaVAtaSHAuaSAuaAtaHA",
     "taLLAtaRRAmaVOWEL SIGN AAxaIyaIxaUyaUxaVOCALIC R)aR"]),
   (0x119DA, ["aaNANDINAGARI VOWEL SIGN ExaAIxaOxaAUmaSIGN ANUSVARAraVISARGAtaRAMAraAVAGRAHA",
     "raSIDDHAMmaHEADSTROKEmaVOWEL SIGN PRISHTHAMATRA E"]),
   (0x11A00, ["aaZANABAZAR SQUARE LETTER AraVOWEL SIGN I$aUE%a$aE$aOE%a$aAI%aU$aREVERSED I",
     "xaLENGTH MARKraLETTER KAzaHAyaGAzaHAyaNGAyaCAzaHAyaJAyaNYAyaTTA!aHAyaDDA!aHAyaNNAyaTAzaHA",
     "yaDAzaHAyaNAyaPAzaHAyaBAzaHAyaMAyaTSA!aHAyaDZA!aHAyaZHAzaAya-AyaYAyaRAyaLAyaVAyaSHAzaSAzaA",
     "yaHAyaKSSAraFINAL CONSONANT MARKraSIGN VIRAMAwaCANDRABINDU*a WITH ORNAMENT$owaANUSVARA",
     "waVISARGAraCLUSTER-INITIAL LETTER RAzaFINAL LETTER YA;aRA;aLA;aVAraINITIAL HEAD MARK",
     "rkCLOSINGraMARK TSHEGwaSHADwaDOUBLE SHADwaLONG TSHEGraINITIAL DOUBLE-LINED HEAD MARK",
     "rxCLOSINGraSUBJOINER"]),
   (0x11A50, ["aaSOYOMBO LETTER AiaVOWEL SIGN ItaUEuataEtaOuaEtaAIuaUtaVOCALIC R#aLoaLENGTH MARK",
     "iaLETTER KAqaHApaGAqaHApaNGApaCAqaHApaJAqaHApaNYApaTTAraHApaDDAraHApaNNApaTAqaHApaDAqaHA",
     "paNApaPAqaHApaBAqaHApaMApaTSAraHApaDZApaZHAqaApa-ApaYApaRApaLApaVApaSHAqaSAqaApaHApaKSSA",
     "iaSIGN JIHVAMULIYAnaUPADHMANIYAiaCLUSTER-INITIAL LETTER RA(aLA(aSHA)aA",
     "iaFINAL CONSONANT SIGN G%aK%aNG%aD%aN%aB%aM%aR%aL%aSH&a%a-AiaSIGN ANUSVARAnaVISARGA",
     "iaGEMINATION MARKiaSUBJOINERiaMARK TSHEGnaSHADnaDOUBLE SHADnaPLUTA",
     "iaHEAD MARK WITH MOON AND SUN AND TRIPLE FLAME>aFLAME,aiaTERMINAL MARK-1wa2"]),
   (0x11AB0, ["aaCANADIAN SYLLABICS NATTILIK HI&aI%aO&aO%aA&aA$aSHRI)aI(aO)aO(aA)aAtaSPEvaIvaO",
     "vaAaaPAU CIN HAU LETTER PAtaKAtaLAtaMAtaDAtaZAtaVAtaNGAtaHAtaGAtaKHAtaSAtaBAtaCAtaTAuaHA",
     "taNAtaPHAtaRAtaFAtaCHAtaAtaEtaItaOtaUuaAtaIAtaFINAL PzaKzaTzaMzaNzaLzaWzaNGzaY",
     "maRISING TONE LONGxamaSANDHI GLOTTAL STOPmaRISING TONE LONG FINALyaFINAL",
     "mgSANDHI GLOTTAL STOPtaTONE LONGxaxa LONG FINALyaFINALmaMID-LEVEL TONE",
     "maGLOTTAL STOP VARIANTmaMID-LEVEL TONE LONG FINAL#aFINALmaLOW-FALLING TONE LONG$a",
     "maGLOTTAL STOPmaLOW-FALLING TONE LONG FINAL%aFINALmgGLOTTAL STOP"]),
   (0x11C00, ["aaBHAIKSUKI LETTER AsaAraIsaIraUsaUraVOCALIC R!aRzaL"]),
   (0x11C0A, ["aaBHAIKSUKI LETTER EraAIraOraAUraKAsaHAraGAsaHAraNGAraCAsaHAraJAsaHAraNYAraTTA",
     "taHAraDDAtaHAraNNAraTAsaHAraDAsaHAraNAraPAsaHAraBAsaHAraMAraYAraRAraLAraVAraSHAsaSAsaAraHA",
     "kaVOWEL SIGN AAvaIwaIvaUwaUvaVOCALIC R&aR%aL"]),
   (0x11C38, ["aaBHAIKSUKI VOWEL SIGN EvaAIvaOvaAUkaSIGN CANDRABINDUpaANUSVARApaVISARGAraRAMA",
     "paAVAGRAHAkaDANDAlaOUBLE DANDAkaWORD SEPARATORkaGAP FILLER-1va2"]),
   (0x11C50, ["aaBHAIKSUKI DIGIT ZEROqaONEqaTWOraHREEqaFOURraIVEqaSIXraEVENqaEIGHTqaNINE",
     "kaNUMBER ONEraTWOsaHREEraFOURsaIVEraSIXsaEVENraEIGHTraNINEraTENsaWENTYsaHIRTYraFORTYsaIFTY",
     "raSIXTYsaEVENTYraEIGHTYraNINETYkaHUNDREDS UNIT MARK"]),
   (0x11C70, ["aaMARCHEN HEAD MARKiaMARK SHADiaLETTER KAqaHApaGApaNGApaCAqaHApaJApaNYApaTAqaHA",
     "paDApaNApaPAqaHApaBApaMApaTSAraHApaDZApaWApaZHAqaApa-ApaYApaRApaLApaSHAqaApaHApaA"]),
   (0x11C92, ["aaMARCHEN SUBJOINED LETTER KA!aHAzaGAzaNGAzaCA!aHAzaJAzaNYAzaTA!aHAzaDAzaNAzaPA",
     "!aHAzaBAzaMAzaTSA#aHAzaDZAzaWAzaZHA!aA"]),
   (0x11CA9, ["aaMARCHEN SUBJOINED LETTER YAzaRAzaLAzaSHA!aAzaHAzaAiaVOWEL SIGN AAtaItaUtaEtaO",
     "iaSIGN ANUSVARAnaCANDRABINDU"]),
   (0x11D00, ["aaMASARAM GONDI LETTER AwaAvaIwaIvaUwaUvaE"]),
   (0x11D08, ["aaMASARAM GONDI LETTER AIvaO"]),
   (0x11D0B, ["aaMASARAM GONDI LETTER AUvaKAwaHAvaGAwaHAvaNGAvaCAwaHAvaJAwaHAvaNYAvaTTAxaHAvaDDA",
     "xaHAvaNNAvaTAwaHAvaDAwaHAvaNAvaPAwaHAvaBAwaHAvaMAvaYAvaRAvaLAvaVAvaSHAwaSAwaAvaHAvaLLA",
     "vaKSSAvaJNYAvaTRAoaVOWEL SIGN AAzaI!aIzaU!aUzaVOCALIC R"]),
   (0x11D3A, ["aaMASARAM GONDI VOWEL SIGN E"]),
   (0x11D3C, ["aaMASARAM GONDI VOWEL SIGN AIzaO"]),
   (0x11D3F, ["aaMASARAM GONDI VOWEL SIGN AUoaSIGN ANUSVARAtaVISARGAtaNUKTAtaCANDRAtaHALANTA",
     "oaVIRAMAoaREPHApaA-KARA"]),
   (0x11D50, ["aaMASARAM GONDI DIGIT ZEROuaONEuaTWOvaHREEuaFOURvaIVEuaSIXvaEVENuaEIGHTuaNINE"]),
   (0x11D60, ["aaGUNJALA GONDI LETTER AwaAvaIwaIvaUwaU"]),
   (0x11D67, ["aaGUNJALA GONDI LETTER EEvaAI"]),
   (0x11D6A, ["aaGUNJALA GONDI LETTER OOvaAUvaYAvaVAvaBAwaHAvaMAvaKAwaHAvaTAwaHAvaLAvaGAwaHAvaDA",
     "waHAvaNAvaCAwaHAvaTTAxaHAvaLLAvaJAwaHAvaDDAxaHAvaNGAvaPAwaHAvaHAvaRAvaSAoaVOWEL SIGN AAzaI",
     "!aIzaU!aU"]),
   (0x11D90, ["aaGUNJALA GONDI VOWEL SIGN EEzaAI"]),
   (0x11D93, ["aaGUNJALA GONDI VOWEL SIGN OOzaAUoaSIGN ANUSVARAtaVISARGAoaVIRAMAoaOM"]),
   (0x11DA0, ["aaGUNJALA GONDI DIGIT ZEROuaONEuaTWOvaHREEuaFOURvaIVEuaSIXvaEVENuaEIGHTuaNINE"]),
   (0x11EE0, ["aaMAKASAR LETTER KApaGApaNGApaPApaBApaMApaTApaDApaNApaCApaJApaNYApaYApaRApaLApaVA",
     "paSApaAiaANGKAiaVOWEL SIGN ItaUtaEtaOiaPASSIMBANGiaEND OF SECTION"]),
   (0x11FB0, ["aaLISU LETTER YHA"]),
   (0x11FC0, ["aaTAMIL FRACTION ONE THREE-HUNDRED-AND-TWENTIETHtaONE-HUNDRED-AND-SIXTIETH",
     "taEIGHTIETHtaSIXTY-FOURTHtaFORTIETHtaTHIRTY-SECONDpaTHREE EIGHTIETHSvaSIXTY-FOURTHS",
     "paONE TWENTIETHtaSIXTEENTH-1%a2taTENTHtaEIGHTHpaTHREE TWENTIETHSvaSIXTEENTHSpaONE FIFTH",
     "taQUARTERtaHALF-1ya2paTHREE QUARTERSpaDOWNSCALING FACTOR KIIZHgaSIGN NELlaCEVITU",
     "laAAZHAAKKUlaUZHAKKUlaMUUVUZHAKKUlaKURUNIlaPATHAKKUlaMUKKURUNIlaKAACUlaPANAMmaONlaVARAAKAN",
     "laPAARAMlaKUZHIlaVELIgaWET CULTIVATION SIGNgrDRYgfLANDgfSALT PANgfTRADITIONAL CREDIT",
     "sfNUMBERgfCURRENTgfAND ODDgfSPENTgfTOTALgfIN POSSESSIONgfSTARTING FROMhaIGN MUTHALIYA",
     "laVAKAIYARAA"]),
   (0x11FFF, ["aaTAMIL PUNCTUATION END OF TEXTaaCUNEIFORM SIGN Aqa TIMES AxaBADxaGAN2 TENUxaHA",
     "xaIGIxaLAGAR GUNUxaMUSHxaSAGqa2qaBra TIMES ASH2yaDUN3 GUNUyaGAL!aN2 TENUyaHAyaIGI GUNU",
     "zaMINyaLAGAByaSHESHyaU PLUS U PLUS UsaGUNUra2sa TIMES BALAGzaGAN2 TENUzaME PLUS ENzaSHA3",
     "zaTAK4qaDqaKra TIMES ERIN2yaSHITA PLUS GISHqaLra TIMES ALyaDIM2yaGISHyaHAyaKAD3zaIyaSHE",
     "yaUSHraANraEPHqaMARta TIMES SHEqaNra OVER ANsaTHREE TIMESsaPLUS NAGA OPPOSING AN PLUS NAGA",
     "$aSQUAREDraSHEqaPINqaRADta TIMES KURraKABqaSAL2raHsa ZIDA TENUtfKABA",
     "taOVER ASH TUG2 OVER TUG2 TUG2 OVER TUG2 PAP$aOVER ASH.a CROSSING ASH OVER ASH OVER ASHsa2",
     "saGABpaBAraDraG3raHAR2raLsa OVER BALsaAGraRsaA2qaIra TIMES AyaGARyaIGI GUNUqaU",
     "ra OVER BU AB!aUNsaCROSSING BUraLUGua OVER BULUGraRsa2paDAraGsa KISIM5 TIMES A PLUS MASH",
     "*aMAR)aBALAG*aI)aGA+a PLUS MASH*aI+aR2*aUD)aHA)aIR+a PLUS LU)aKAK)aLA*aU+a PLUS MASH2+aM",
     ")aNE)aPAP PLUS PAP)aSI)aTAK4)aU2 PLUS GIR2*aSHraMraRsaA3ta4qaIraBraMsa TIMES SHEsa2raN",
     "sa KASKAL U GUNU DISHraSHqaUra OVER DUsaGUNUsaSHESHIGraBsa TIMES ESH2sa2raGsaUDraHraNsa3",
     "ta GUNUya GUNUsa4raR2paEqa TIMES PAPraOVER E NUN OVER NUNqa2ra TIMES A PLUS HA PLUS DA",
     "yaGARyaMIyaSALzaHEyaUqaDINqaGIRqaLqaNra TIMES GAN2$a TENUyaMEsaCROSSING ENsdOPPOSING",
     "saSQUAREDqaRENraIN2qaSH2qaZENta TIMES A#a PLUS LAL.a TIMES LAL#aN!aBAD!aDUN3 GUNU,a GUNU",
     "!aHA$a GUNU!fIGI!aKASKAL)a SQUARED#aU3!aLA$aL TIMES LAL#aI#aU!aU2#aDpaGAra GUNUra2",
     "sa TIMES A PLUS DA PLUS HA)aHA)aIGI!aB2 TENU PLUS TAB!aN!aSH$a2 PLUS GALzaBAD#aR PLUS RA",
     "!aUR$a PLUS RAzaDA!aI#aM TIMES SHE!aUBzaEL#a PLUS LA!aN#a TIMES GAN2 TENUzfGAN2#aR!aI#a4",
     "$a PLUS A#aR2 PLUS SUzaHA PLUS LU PLUS ESH2#aL$a PLUS LA!aI PLUS LI!aUB2zaIGI GUNU",
     "!aSH PLUS HU PLUS ASHzaKAK#aSKAL!aID$a PLUS LAL!aU3 PLUS ANzaLAzaME PLUS EN!aIzaNUN",
     "$a OVER NUNzaPAzaSAL#aR!aHE$a PLUS TUR#aID!aUMzaTAK4zaU!aD#a PLUS DUtaOVER GA2raBA",
     "ta CROSSING GABAraDsa OVER GAD GAR OVER GARraLsa GAD OVER GAD GAR OVER GARsaAMraMraNsa2",
     "ta TENUuaOVER GAN2ufCROSSINGraRsa3raSHANqaESHTINwa TIMES KURqaIra TIMES EyaUsaCROSSING GI",
     "ra4sa OVER GI4teCROSSINGraDIMraR2ta GUNUsa3ta TIMES A PLUS IGI!aGAN2 TENU!aIGI",
     "!aLU PLUS IGI!aPAraSALsaHta CROSSING GISHuaTIMES BAD!aTAK4vaENUqaUra CROSSING GUra2",
     "sa TIMES KAK$a TIMES IGI GUNUzaNUNzaSAL PLUS TUG2taGUNUraDsa TIMES A PLUS KURzaKUR",
     "taOVER GUD LUGALraLraMsa TIMES SHEraRsa7saUNtaSHpaHAra TENUsaGUNUraLqaIra TIMES ASH#a2",
     "yaBADyaDISHyaGADyaKINyaNUNyaSHEyaUqaUraB2ta TIMES AN!aHAL!aKASKAL!aLISH!aUDraL2paIqa AqaB",
     "qaDIMta OVER IDIM BUR&aSQUAREDqaGraIsa DIBtaRItaOVER IGI SHIR OVER SHIR UD OVER UDtaGUNU",
     "qaLra TIMES GAN2 TENUra2qaMra TIMES TAK4saCROSSING IMsdOPPOSINGsaSQUAREDraINqaNqaRqaSHpaKA",
     "ra TIMES AzaD!a PLUS KU3zaSH2yaBAD!aLAG!aRzaIyaERIN2zaSH2yaGA!aL!aN2 TENU!aR",
     "#a PLUS SHA3 PLUS AzaI!aR2!aSH PLUS SAR%aCROSSING GISHzaU!aR7yaIGIzaMyaKAKzaI!aDyaLIzaU",
     "yaME!a PLUS DU)aGI)aTEzaI!a PLUS NUNUZyaNEzaUNyaPIyaRUyaSA!aRzaHA!aE!aID!aUzaIGzaUHURyaTAR",
     "yaUza2zaDzaMUM TIMES PAzaSHyaZIra2sa CROSSING KA2raBraD2sa3sa4sa5ta OVER KAD5raK",
     "sa TIMES IGI GUNUraLsa TIMES BADtaCROSSING KALraM2sa4raSKAL",
     "va LAGAB TIMES U OVER LAGAB TIMES Uw#OVER KASKAL LAGABqaESH2qaIra TIMES BADyaUzaDraDraN",
     "raSALsaHsaIM5va OVER KISIM5qaUra OVER HI TIMES ASH2 KU OVER HI TIMES ASH2ra3ra4",
     "sa VARIANT FORMra7raLsa GUNUraNraRsa OPPOSING KURraSHU2qaWU318paLAraGABua TIMES A",
     "$a PLUS DA PLUS HA+aGAR+aLAL$aL$aN$aSH ZIDA TENU#aBAD$aI#aDAR#aEN#aGA%aR$aUD&a PLUS GUD",
     "#aHA%aL$aI TIMES NUN#aIGI GUNU$aM%a PLUS HA,aLU#aKI%aN$aU3%aL&a PLUS HI PLUS A#aLAGAB$aISH",
     "$aU%aL#aME%a PLUS EN$aUSH#aNE#aSHE PLUS SUM%aITA PLUS GISH PLUS ERIN2[aTENU%aU2",
     "(a PLUS SHU2$aUM#aTAG%aK4$aE PLUS A PLUS SU PLUS NA#aU$a PLUS A+aU PLUS U$a2 PLUS ASH$aD",
     "$aSHvaSQUAREDtaRua TIMES SHE&a PLUS SUMvaGUNUza OVER LAGAR GUNU SHEraHSHUraLsa TIMES LAL",
     "raMsa TIMES KUR$a PLUS RUqaIraLraMMU2raSHqaUra TIMES BADra2sa TIMES ALzaBADzaESH2%a TENU",
     "zfGAN2zaHI TIMES BADzaIMzaKAD2$a3%a PLUS ASH!aIzaLA PLUS ASH#aGABzaME PLUS ENzaNE!aU",
     "zaSI PLUS ASH#aK2 PLUS BUzaTUG2uaENUtaCROSSING LU2teOPPOSINGtaSQUAREDuaHESHIGra3raGAL",
     "ua OVER LUGALwgPPOSINGvaSHESHIGraHraLraMsa OVER LUM#a GAR OVER GARpaMAra TIMES TAK4saGUNU",
     "ra2raHraRraSHta2qaEraSqaIraNqaUra OVER MUraGsa GUNUraNSUBraRGU2raSHta TIMES A!aKUR!aZA",
     "uaOVER MUSH%a TIMES A PLUS NAuaCROSSING MUSHta3ua TIMES A$a PLUS DI#aDIvaGUNUpaNAra2raGA",
     "ta INVERTEDuaTIMES SHU TENUuaOPPOSING NAGAtaRraM NUTILLUsasa2qaEra TIMES AyaUDsaSHESHIGqaI",
     "ra TIMES Era2raMsa TIMES GAN2 TENU#fR PLUS GAN2raNDA2va TIMES AN%aSH(a PLUS ASH$aGUD",
     "$aME PLUS GAN2 TENU$aNE%aUN$aSHE(a PLUS A AN;aSH>a PLUS ASH$jU2%aSHraSAGqaUra11raN",
     "sa LAGAR TIMES GAR(aMASH(aSAL+a OVER NUN LAGAR TIMES SAL(aUSHtaTENUtaOVER NUNteCROSSING",
     "(a LAGAR OVER LAGARsaUZua AB2 TIMES ASHGAB(aBI(aDUG(aGUD(aIGI GUNU(aKAD3(aLA(aNE(aSILA3",
     "(aU2vaKISIM5 TIMES BI.a UpaPAraDraNraPqaESH2qaIra TIMES AzaByaBIzaUyaEyaIzaByaUza2",
     "saCROSSING PIraRIGua TIMES KAL#aUD#aZAvaOPPOSING PIRIGpaRAraBqaIqaUpaSAraG NUTILLUsa",
     "sa TIMES AzaDU#aBzaHAzaKAK!aURzaLUMzaMIzaNUNzaSAL!aHIDzaTABzaU2!aB!aM!aR!aSHtaOVER SAG",
     "taGUNUraLsa LAGAB TIMES ASH2raNGA2raRqaHAsa3ta TIMES A!aBAD!aGISH!aNE!aSHU2!aTUR!aU",
     "#a PLUS Asa6saB6saR2raEsa HUtaOVER SHE GAD OVER GAD GAR OVER GAR$nTAB OVER TABsaG9saNsaSH",
     "ua2uaLAMraIDta TIMES A!aIMsaMta TIMES A!aBAL#aULUG!aDIN!aGAR!aIGI%a GUNU!aKUSHU2!aLUL!aMUG",
     "!aSALsaNIGsaRta TENUuaOVER SHIR BUR OVER BURsaTAraUsa OVER INVERTED SHUsa2saBURqaIra GUNU",
     "raGsa4ta OVER SIG4 SHU2raK2raLA3qaUra OVER SUraDsa2raHURraMsaASHraRsa9paTAra ASTERISK",
     "saTIMES HIyaMIsaGUNUraBsa OVER TAB NI OVER NI DISH OVER DISHtaSQUAREDraGsa TIMES BIzaGUD",
     "zaSHE#aUzaTUG2zaUDraK4raRqaEra GUNUqaIra TENUraLraRsa TIMES TAK4taOVER TIR",
     "#a GAD OVER GAD GAR OVER GARqaUraG2raKraMraRsa OVER TUR ZA OVER ZApaUqa GUDraU U",
     "raOVER U PA OVER PA GAR OVER GARyaSUR OVER SURyaU REVERSED OVER U REVERSEDqa2qaBqaD",
     "ra KUSHU2saTIMES BADyaMIyaU PLUS U PLUS U<a GUNUsaGUNUsaSHESHIGza TIMES BADraUGqaM",
     "ra TIMES LAGAByaME PLUS DAyaSHA3yaUraBINraUMta TIMES KASKAL!aPAqaNra GUNUqaRra CROSSING UR",
     "saSHESHIGra2sa TIMES A PLUS HA)aNA!aLzaHAzaNUNzaU2#a PLUS ASH*aBIra4raIsa3raUsa TIMES A",
     "!aSHGABzaBARzaDUNzaGA#aL#aN2 TENU#aR!aUzaHAzaIGI!aM!aSHzaKIzaLUMzaMINzaPAzaSHE!aIG4zaTU",
     "zaU PLUS GUD!aD!aRUDAsaDAua TIMES UqaSHsa TIMES AzaKU#aRzaTAK4saXsa2saUMXqaTUKIqaZ3",
     "sa TIMES KASKALraUpaZAra TENUsaSQUARED TIMES KURraGraMXqaE2qaIra OVER ZIra3raBsa KABA TENU",
     "raGraZ2qaUra5sa TIMES AraBURraMpaKAP ELAMITEpaAB TIMES NUNra2 TIMES AqaMAR TIMES KUG",
     "paDAG KISIM5 TIMES U2 PLUS MASHsa3qaISH PLUS SHUqaUB TIMES SHEpaEZEN TIMES GUD!aSHE",
     "paGA2 TIMES AN PLUS KAK PLUS A!aSH2qaE22qaIGpaHUSHpaKA TIMES ANSHEzaSH3yaGISHzaUD",
     "yaHI TIMES ASH2yaLUMyaPAyaSHULyaTUyaUR2paLAGAB TIMES GIqaU2 SHESHIG TIMES BAD",
     "taTIMES ESH2 PLUS LALzaSHUpaMESHqaUSH3 TIMES ZApaNA4qaINsa9saDA2 TIMES BAL$aGI",
     "qaU11 ROTATED NINETY DEGREESpaPESH2 ASTERISKqaIR2paSAG TIMES IGI GUNUpaTI2paUM TIMES ME",
     "qa U"]),
   (0x12400, ["aaCUNEIFORM NUMERIC SIGN TWO ASHyeHREExeFOURyeIVExeSIXyeEVENxeEIGHTxeNINE",
     "xaTHREE DISHxfFOURyfIVExfSIXyfEVENxfEIGHTxfNINExaFOUR UycIVExcSIXycEVENxcEIGHTxcNINE",
     "xaONE GESH2xgTWOygHREExgFOURygIVExgSIXygEVENxgEIGHTxgNINExaONE GESHUxgTWOygHREExgFOURygIVE",
     "xaTWO SHAR2ygHREE+a VARIANT FORMxaFOUR SHAR2ygIVExgSIXygEVENxgEIGHTxgNINExaONE SHARUxgTWO",
     "ygHREE+a VARIANT FORMxaFOUR SHARUygIVExaSHAR2 TIMES GAL PLUS DISH]aMINxaONE BURUxfTWO",
     "yfHREE*a VARIANT FORMxaFOUR BURUyfIVExaTHREE VARIANT FORM ESH16^a21",
     "xaFOUR VARIANT FORM LIMMU_a4_a A|aBxaSIX VARIANT FORM ASH9yaEVEN VARIANT FORM IMIN3_a A|aB",
     "xaEIGHT VARIANT FORM USSU_a3xaNINE VARIANT FORM ILIMMU|a3|a4|a AxaTWO ASH TENUyjHREExjFOUR",
     "yjIVExjSIXxaONE BAN2xfTWOyfHREExfFOUR)a VARIANT FORMyaIVE BAN2)a VARIANT FORMxaNIGIDAMIN",
     "%aESHxaONE ESHE3xgTWOxaONE THIRD DISHxfTWO THIRDSxfFIVE SIXTHSxaONE THIRD VARIANT FORM A",
     "xpTWO THIRDSxaONE EIGHTH ASH#eQUARTERyaLD ASSYRIAN ONE SIXTH>aQUARTERyaNE QUARTER GUR",
     "#eHALFxaELAMITE ONE THIRD(aTWO THIRDS(aFORTY)aIFTYxaFOUR U VARIANT FORMypIVExpSIXypEVEN",
     "xpEIGHTxpNINE"]),
   (0x12470, ["aaCUNEIFORM PUNCTUATION SIGN OLD ASSYRIAN WORD DIVIDER#aVERTICAL COLON#gDIAGONAL",
     ".aTRICOLON.aQUADCOLON"]),
   (0x12480, ["aaCUNEIFORM SIGN AB TIMES NUN TENUyaSHU2qaD TIMES ESH2paBAD TIMES DISH TENU",
     "raHAR2 TIMES AB2$aNI$aZAqaU OVER BU TIMES NA2paDA TIMES TAK4raG TIMES KURqaIM TIMES IGI",
     "zaU U Usa2 TIMES UDqaUG TIMES ANSHE!aSH$a AT LEFTzaDIN!aUNzaERIN2zaGA!aI#aR2 GUNU#aSHzaHA",
     "!aIzaIGI GUNUzaKASKAL!aUR#aSHU2(a PLUS KASKALzaLAK-020#aM$a TIMES KUR!aUH PLUS GISHzaMASH",
     "!aES!aIzaNIzaPIzaSHE!aI GUNUpaE2 TIMES KURyaPAPqaRIN2 XqaSH2 CROSSING ESH2",
     "qaZEN SHESHIG TIMES ASH+aHI+aIGI GUNU+aLA.aL+aME.aS+aSUudTIMESpaGA2 TIMES BAHAR2zaDIM GUNU",
     "!fUG TIMES IGI,aKASKALzaERENzaGA#aR PLUS DI+aNEzaHA PLUS AzaKUSHU2 PLUS KASKALzaLAM",
     "$a TIMES KUR!aUHzaMUSHzaNE#a PLUS E2*aGIzaSHIMzaZIZ2raBA ROTATED NINETY DEGREES",
     "qaESHTIN TIMES UqaISH TIMES GISH CROSSING GISHqaU2 TIMES IGI GUNUraD PLUS GISH TIMES TAK4",
     "paHA TENU GUNUqaI TIMES ASH OVER HI TIMES ASHpaKA TIMES BUyaKAyaU U UzaR",
     "paLAGAB TIMES ZU OVER ZUraK-003ua21va5ua30ua50va1ua62ua79 OVER LAK-079 GUNUua80",
     "va1 OVER LAK-081ua92ta130ua42ta210va9ua20va5va8ua38ua65va6ta343va7va8ua83va4ua90ta441va9",
     "wa TIMES GU%aIGI%aPAP PLUS LU3;aPAP PLUS LU3%aU2 PLUS BAua50va7ua70ua83ua90va2va3va5ta550",
     "ta608ua17wa TIMES ASH%aBAD%aDUN3 GUNU GUNU%aKU3%aLA%aTAR&aE%aU2&aD&aRUDAua36ua48",
     "wa TIMES DUB%aGA%aIGI)a GUNU%aNI%aPAP PLUS PAP PLUS LU3%aSHESH PLUS KI%aUD&aRUDAta724ua49",
     "qaU2 GUNU TIMES ASHtaTIMES DISHzaHALzaPAP$a PLUS PAP PLUS LU3zaTAK4paMI PLUS ZA7",
     "qaUSH OVER MUSH TIMES GA.aKAKpaNINDA2 TIMES DIM GUNU$aGISH%aUL$aHI$aKESH2$aLAK-050$aMASH",
     "$aPAP PLUS PAP$aU%a PLUS U%aRUDApaSAG GUNU TIMES HAtaTIMES ENzaSHE AT LEFTzaTAK4qaHA6 TENU",
     "raE OVER SHEtaPLUS HUB2yaNAM2yaSARraU2 PLUS DUG TIMES NIzaE2 TIMES ANqaI TIMES TAK4",
     "paTAK4 PLUS SAGqaUM TIMES GAN2 TENUzaTHREE DISHpaUR2 INVERTEDtaTIMES UDraU TIMES DARA3",
     "zaLAK-668!aU3paZA7qaU OVER ZU PLUS SARra5 TIMES THREE DISH TENU"]),
   (0x12F90, ["aaCYPRO-MINOAN SIGN CM001wa2wa4wa5wa6wa7wa8wa9va10wa1wa2xaBwa3wa5wa7wa9va21wa3wa4",
     "wa5wa6wa7wa8wa9va30wa3wa4wa5wa6wa7wa8wa9va40wa1wa4wa6wa7wa9va50wa1wa2wa3wa4wa5wa6wa8wa9",
     "va60wa1wa2wa3wa4wa6wa7wa8wa9va70wa1wa2wa3wa4wa5xaBwa6wa8wa9va80wa1wa2wa3wa4wa5wa6wa7wa8wa9",
     "va90wa1wa2wa4wa5wa6wa7wa8wa9ua100wa1wa2wa3wa4wa5wa7wa8wa9va10wa2wa4ua301wa2"]),
   (0x13000, ["aaEGYPTIAN HIEROGLYPH A001xa2xa3xa4xa5yaAxa6yaAyaBxa7xa8xa9wa10xa1xa2xa3xa4yaAxa5",
     "xa6xa7yaAxa8xa9wa20xa1xa2xa3xa4xa5xa6xa7xa8xa9wa30xa1xa2yaAxa3xa4xa5xa6xa7xa8xa9wa40yaAxa1",
     "xa2yaAxa3yaAxa4xa5yaAxa6xa7xa8xa9wa50xa1xa2xa3xa4xa5xa6xa7xa8xa9wa60xa1xa2xa3xa4xa5xa6xa7",
     "xa8xa9wa70uaB001xa2xa3xa4xa5yaAxa6xa7xa8xa9uaC001xa2yaAyaByaCxa3xa4xa5xa6xa7xa8xa9wa10yaA",
     "xa1xa2xa3xa4xa5xa6xa7xa8xa9wa20xa1xa2xa3xa4uaD001xa2xa3xa4xa5xa6xa7xa8yaAxa9wa10xa1xa2xa3",
     "xa4xa5xa6xa7xa8xa9wa20xa1xa2xa3xa4xa5xa6xa7yaAxa8xa9wa30xa1yaAxa2xa3xa4yaAxa5xa6xa7xa8xa9",
     "wa40xa1xa2xa3xa4xa5xa6yaAxa7xa8yaAxa9wa50yaAyaByaCyaDyaEyaFyaGyaHyaIxa1xa2yaAxa3xa4yaAxa5",
     "xa6xa7xa8xa9wa60xa1xa2xa3xa4xa5xa6xa7yaAyaByaCyaDyaEyaFyaGyaHuaE001xa2xa3xa4xa5xa6xa7xa8",
     "yaAxa9yaAwa10xa1xa2xa3xa4xa5xa6yaAxa7yaAxa8xa9wa20yaAxa1xa2xa3xa4xa5xa6xa7xa8yaAxa9wa30xa1",
     "xa2xa3xa4yaAxa6xa7xa8uaF001yaAxa2xa3xa4xa5xa6xa7xa8xa9wa10xa1xa2xa3yaAxa4xa5xa6xa7xa8xa9",
     "wa20xa1yaAxa2xa3xa4xa5xa6xa7xa8xa9wa30xa1yaAxa2xa3xa4xa5xa6xa7yaAxa8yaAxa9wa40xa1xa2xa3xa4",
     "xa5yaAxa6yaAxa7yaAxa8xa9wa50xa1yaAyaByaCxa2xa3uaG001xa2xa3xa4xa5xa6yaAxa7yaAyaBxa8xa9wa10",
     "xa1yaAxa2xa3xa4xa5xa6xa7xa8xa9wa20yaAxa1xa2xa3xa4xa5xa6yaAxa7xa8xa9wa30xa1xa2xa3xa4xa5xa6",
     "yaAxa7yaAxa8xa9wa40xa1xa2xa3yaAxa4xa5yaAxa6xa7xa8xa9wa50xa1xa2xa3xa4uaH001xa2xa3xa4xa5xa6",
     "yaAxa7xa8uaI001xa2xa3xa4xa5yaAxa6xa7xa8xa9yaAwa10yaAxa1yaAxa2xa3xa4xa5uaK001xa2xa3xa4xa5",
     "xa6xa7xa8uaL001xa2yaAxa3xa4xa5xa6yaAxa7xa8uaM001yaAyaBxa2xa3yaAxa4xa5xa6xa7xa8xa9wa10yaA",
     "xa1xa2yaAyaByaCyaDyaEyaFyaGyaHxa3xa4xa5yaAxa6yaAxa7yaAxa8xa9wa20xa1xa2yaAxa3xa4yaAxa5xa6",
     "xa7xa8yaAxa9wa30xa1yaAxa2xa3yaAyaBxa4xa5xa6xa7xa8xa9wa40yaAxa1xa2xa3xa4uaN001xa2xa3xa4xa5",
     "xa6xa7xa8xa9wa10xa1xa2xa3xa4xa5xa6xa7xa8yaAyaBxa9wa20xa1xa2xa3xa4xa5yaAxa6xa7xa8xa9wa30xa1",
     "xa2xa3yaAxa4yaAxa5yaAxa6xa7yaAxa8xa9wa40xa1xa2vaL001ya2ya3ya4ya5zaAya6ya7ya8ya9xa10ya1ya2",
     "ya3ya4ya5ya6ya7zaAya8ya9xa20vaU001ya2ya3ya4ya5ya6ya7ya8ya9xa10zaAya1zaAya2ya3ya4ya5ya6ya7",
     "ya8zaAya9xa20ya1ya2zaAuaO001yaAxa2xa3xa4xa5yaAxa6yaAyaByaCyaDyaEyaFxa7xa8xa9wa10yaAyaByaC",
     "xa1xa2xa3xa4xa5xa6xa7xa8xa9yaAwa20yaAxa1xa2xa3xa4yaAxa5yaAxa6xa7xa8xa9yaAwa30yaAxa1xa2xa3",
     "yaAxa4xa5xa6yaAyaByaCyaDxa7xa8xa9wa40xa1xa2xa3xa4xa5xa6xa7xa8xa9wa50yaAyaBxa1uaP001yaAxa2",
     "xa3yaAxa4xa5xa6xa7xa8xa9wa10xa1uaQ001xa2xa3xa4xa5xa6xa7uaR001xa2yaAxa3yaAyaBxa4xa5xa6xa7",
     "xa8xa9wa10yaAxa1xa2xa3xa4xa5xa6yaAxa7xa8xa9wa20xa1xa2xa3xa4xa5xa6xa7xa8xa9uaS001xa2yaAxa3",
     "xa4xa5xa6yaAxa7xa8xa9wa10xa1xa2xa3xa4yaAyaBxa5xa6xa7yaAxa8xa9wa20xa1xa2xa3xa4xa5xa6yaAyaB",
     "xa7xa8xa9wa30xa1xa2xa3xa4xa5yaAxa6xa7xa8xa9wa40xa1xa2xa3xa4xa5xa6uaT001xa2xa3yaAxa4xa5xa6",
     "xa7yaAxa8yaAxa9yaAwa10xa1yaAxa2xa3xa4xa5xa6yaAxa7xa8xa9wa20xa1xa2xa3xa4xa5xa6xa7xa8xa9wa30",
     "xa1xa2yaAxa3yaAxa4xa5xa6uaU001xa2xa3xa4xa5xa6yaAyaBxa7xa8xa9wa10xa1xa2xa3xa4xa5xa6xa7xa8",
     "xa9wa20xa1xa2xa3yaAxa4xa5xa6xa7xa8xa9yaAwa30xa1xa2yaAxa3xa4xa5xa6xa7xa8xa9wa40xa1xa2uaV001",
     "yaAyaByaCyaDyaEyaFyaGyaHyaIxa2yaAxa3xa4xa5xa6xa7yaAyaBxa8xa9wa10xa1yaAyaByaCxa2yaAyaBxa3",
     "xa4xa5xa6xa7xa8xa9wa20yaAyaByaCyaDyaEyaFyaGyaHyaIyaJyaKyaLxa1xa2xa3yaAxa4xa5xa6xa7xa8yaA",
     "xa9yaAwa30yaAxa1yaAxa2xa3yaAxa4xa5xa6xa7yaAxa8xa9wa40yaAuaW001xa2xa3yaAxa4xa5xa6xa7xa8xa9",
     "yaAwa10yaAxa1xa2xa3xa4yaAxa5xa6xa7yaAxa8yaAxa9wa20xa1xa2xa3xa4yaAxa5uaX001xa2xa3xa4yaAyaB",
     "xa5xa6yaAxa7xa8yaAuaY001yaAxa2xa3xa4xa5xa6xa7xa8uaZ001xa2yaAyaByaCyaDxa3yaAyaBxa4yaAxa5yaA",
     "xa6xa7xa8xa9wa10xa1xa2xa3xa4xa5yaAyaByaCyaDyaEyaFyaGyaHyaIxa6yaAyaByaCyaDyaEyaFyaGyaH",
     "uaAA001ya2ya3ya4ya5ya6ya7zaAzaBya8ya9xa10ya1ya2ya3ya4ya5ya6ya7ya8ya9xa20ya1ya2ya3ya4ya5ya6",
     "ya7ya8ya9xa30ya1ya2"]),
   (0x13430, ["aaEGYPTIAN HIEROGLYPH VERTICAL JOINERuhHORIZONTALuaINSERT AT TOP START&gBOTTOM",
     "&aTOP END&eBOTTOMuaOVERLAY MIDDLEuaBEGIN SEGMENTuiEND"]),
   (0x14400, ["aaANATOLIAN HIEROGLYPH A001ya2ya3ya4ya5ya6ya7ya8ya9xa10zaAya1ya2ya3ya4ya5ya6ya7",
     "ya8ya9xa20ya1ya2ya3ya4ya5ya6zaAya7ya8ya9xa30ya1ya2ya3ya4ya5ya6ya7ya8ya9zaAxa40ya1zaAya2ya3",
     "ya4ya5zaAya6zaAzaBya7ya8ya9xa50ya1ya2ya3ya4ya5ya6ya7ya8ya9xa60ya1ya2ya3ya4ya5ya6zaAzaBzaC",
     "ya7ya8ya9xa70ya1ya2ya3ya4ya5ya6ya7ya8ya9xa80ya1ya2ya3ya4ya5ya6ya7ya8ya9xa90ya1ya2ya3ya4ya5",
     "ya6ya7zaAya8zaAya9wa100zaAya1zaAya2zaAya3ya4zaAzaBzaCya5zaAzaBya6ya7zaAzaBzaCya8ya9xa10zaA",
     "zaBya1ya2ya3ya4ya5zaAya6ya7ya8ya9xa20ya1ya2ya3ya4ya5zaAya6ya7ya8ya9xa30ya1ya2ya3ya4ya5zaA",
     "ya6ya7ya8ya9xa40ya1ya2ya3ya4ya5ya6ya7ya8ya9xa50ya1ya2ya3ya4ya5ya6ya7ya8ya9xa60ya1ya2ya3ya4",
     "ya5ya6ya7ya8ya9xa70ya1ya2ya3ya4ya5ya6ya7ya8ya9xa80ya1ya2ya3ya4ya5ya6ya7ya8ya9xa90ya1ya2ya3",
     "ya4ya5ya6ya7ya8ya9wa200ya1ya2zaAzaBya3ya4ya5ya6ya7zaAya8ya9zaAxa10ya1ya2ya3ya4ya5zaAya6zaA",
     "ya7ya8ya9xa20ya1ya2ya3ya4ya5ya6ya7zaAya8ya9xa30ya1ya2ya3ya4ya5ya6ya7ya8ya9xa40ya1ya2ya3ya4",
     "ya5ya6ya7ya8ya9xa50ya1ya2ya3ya4ya5ya6ya7ya8ya9xa60ya1ya2ya3ya4ya5ya6ya7zaAya8ya9xa70ya1ya2",
     "ya3ya4ya5ya6ya7ya8ya9xa80ya1ya2ya3ya4ya5ya6ya7ya8ya9zaAxa90ya1ya2ya3ya4zaAya5ya6ya7ya8ya9",
     "zaAwa300ya1ya2ya3ya4ya5ya6ya7ya8ya9zaAxa10ya1ya2ya3ya4ya5ya6ya7ya8ya9xa20ya1ya2ya3ya4ya5",
     "ya6ya7ya8ya9zaAxa30ya1ya2AzaBzaCya3ya4ya5ya6zaAzaBzaCya7ya8ya9xa40ya1ya2ya3ya4ya5ya6ya7ya8",
     "ya9xa50ya1ya2ya3ya4ya5ya6ya7ya8ya9zaAxa60ya1ya2ya3ya4zaAya5ya6ya7ya8zaAya9xa70ya1zaAya2ya3",
     "ya4ya5ya6ya7ya8ya9xa80ya1zaAya2ya3 RA OR RIzaAya4ya5ya6zaAya7ya8ya9xa90ya1ya2ya3 EIGHTya4",
     "ya5ya6ya7ya8ya9wa400ya1ya2ya3ya4ya5ya6ya7ya8ya9xa10 BEGIN LOGOGRAM MARKzoA ENDya1ya2ya3ya4",
     "ya5ya6ya7ya8ya9xa20ya1ya2ya3ya4ya5ya6ya7ya8ya9xa30ya1ya2ya3ya4ya5ya6ya7ya8ya9xa40ya1ya2ya3",
     "ya4ya5ya6ya7ya8ya9xa50zaAya1ya2ya3ya4ya5ya6ya7zaAya8ya9xa60ya1ya2ya3ya4ya5ya6ya7ya8ya9xa70",
     "ya1ya2ya3ya4ya5ya6ya7ya8ya9xa80ya1ya2ya3ya4ya5ya6ya7ya8ya9xa90ya1ya2ya3ya4ya5ya6ya7wa501",
     "ya2ya3ya4ya5ya6ya7ya8ya9xa10ya1ya2ya3ya4ya5ya6ya7ya8ya9xa20ya1ya2ya3ya4ya5ya6ya7ya8ya9xa30"])]

end Intake.Text
