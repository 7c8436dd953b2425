import Intake.Text.CharName.Basic

/-!
# Further names of characters

The controls have no name of their own, and some characters go by an abbreviation or by a corrected
name beside the one they were given first.

## Main definitions

* `aliasNames` — the runs of names.
-/

namespace Intake.Text

/-- The names that characters have beside their own. -/
def aliasNames : List NameRun :=
  [(0x0, ["aaNULaaSOHbaTART OF TEXTaiENDiaRANSMISSIONcaQaaACKbaLERTaaBACKSPACE",
     "aaCHARACTER TABULATIONaaEND OF LINEaaLINE TABULATIONaaFFaaCARRIAGE RETURN",
     "aaLOCKING-SHIFT ONEoaZEROaaDATA LINK ESCAPEbaC1ca2ca3ca4aaNAKaaSYN",
     "aaEND OF TRANSMISSION BLOCKaaCANaaEND OF MEDIUMaaSUBaaESCaaFILE SEPARATORakGROUP",
     "aaINFORMATION SEPARATOR TWOwaONEaaSP"]),
   (0x7F, ["aaDELaaPADaaHIGH OCTET PRESETaaBPHaaNBHaaINDaaNELaaSSAaaEND OF SELECTED AREA",
     "aaCHARACTER TABULATION SETvaWITH JUSTIFICATIONaaLINE TABULATION SETaaPARTIAL LINE DOWN",
     "naBACKWARDaaREVERSE INDEXaaSINGLE SHIFT TWOoaHREEaaDCSaaPRIVATE USE ONEmaTWO",
     "aaSET TRANSMIT STATEaaCANCEL CHARACTERaaMESSAGE WAITINGaaSPAaaEND OF GUARDED AREAaaSOSbaGC",
     "baCIaaCONTROL SEQUENCE INTRODUCERaaSTaaOPERATING SYSTEM COMMANDaaPMaaAPCaaNBSP"]),
   (0xAD, ["aaSHY"]),
   (0x1A2, ["aaLATIN CAPITAL LETTER GHAglSMALL"]),
   (0x34F, ["aaCGJ"]),
   (0x61C, ["aaALM"]),
   (0x709, ["aaSYRIAC SUBLINEAR COLON SKEWED LEFT"]),
   (0xCDE, ["aaKANNADA LETTER LLLA"]),
   (0xE9D, ["aaLAO LETTER FO FON"]),
   (0xE9F, ["aaLAO LETTER FO FAY"]),
   (0xEA3, ["aaLAO LETTER RO"]),
   (0xEA5, ["aaLAO LETTER LO"]),
   (0xFD0, ["aaTIBETAN MARK BKA- SHOG GI MGO RGYAN"]),
   (0x11EC, ["aaHANGUL JONGSEONG YESIEUNG-KIYEOK!aSSANGKIYEOKraSSANGYESIEUNGraYESIEUNG-KHIEUKH"]),
   (0x180B, ["aaFVS1da2da3aaMVSaaFVS4"]),
   (0x200B, ["aaZWSPcaNJcaJaaLRMaaRLM"]),
   (0x202A, ["aaLREaaRLEaaPDFaaLROaaRLOaaNNBSP"]),
   (0x205F, ["aaMMSPaaWJ"]),
   (0x2066, ["aaLRIaaRLIaaFSIaaPDI"]),
   (0x2118, ["aaWEIERSTRASS ELLIPTIC FUNCTION"]),
   (0x2448, ["aaMICR ON US SYMBOLfhDASH"]),
   (0x2B7A, ["aaLEFTWARDS TRIANGLE-HEADED ARROW WITH DOUBLE VERTICAL STROKE"]),
   (0x2B7C, ["aaRIGHTWARDS TRIANGLE-HEADED ARROW WITH DOUBLE VERTICAL STROKE"]),
   (0xA015, ["aaYI SYLLABLE ITERATION MARK"]),
   (0xAA6E, ["aaMYANMAR LETTER KHAMTI LLA"]),
   (0xFE00, ["aaVS1ca2ca3ca4ca5ca6ca7ca8ca9ca10da1da2da3da4da5da6"]),
   (0xFE18, ["aaPRESENTATION FORM FOR VERTICAL RIGHT WHITE LENTICULAR BRACKET"]),
   (0xFEFF, ["aaBOM"]),
   (0x122D4, ["aaCUNEIFORM SIGN NU11 TENUuaOVER NU11 BUR OVER BUR"]),
   (0x16E56, ["aaMEDEFAIDRIN CAPITAL LETTER H#aNG"]),
   (0x16E76, ["aaMEDEFAIDRIN SMALL LETTER HzaNG"]),
   (0x1B001, ["aaHENTAIGANA LETTER E-1"]),
   (0x1D0C5, ["aaBYZANTINE MUSICAL SYMBOL FTHORA SKLIRON CHROMA VASIS"]),
   (0xE0100, ["aaVS17da8da9ca20da1da2da3da4da5da6da7da8da9ca30da1da2da3da4da5da6da7da8da9ca40da1",
     "da2da3da4da5da6da7da8da9ca50da1da2da3da4da5da6da7da8da9ca60da1da2da3da4da5da6da7da8da9ca70",
     "da1da2da3da4da5da6da7da8da9ca80da1da2da3da4da5da6da7da8da9ca90da1da2da3da4da5da6da7da8da9",
     "ca100ea1ea2ea3ea4ea5ea6ea7ea8ea9da10ea1ea2ea3ea4ea5ea6ea7ea8ea9da20ea1ea2ea3ea4ea5ea6ea7",
     "ea8ea9da30ea1ea2ea3ea4ea5ea6ea7ea8ea9da40ea1ea2ea3ea4ea5ea6ea7ea8ea9da50ea1ea2ea3ea4ea5ea6",
     "ea7ea8ea9da60ea1ea2ea3ea4ea5ea6ea7ea8ea9da70ea1ea2ea3ea4ea5ea6ea7ea8ea9da80ea1ea2ea3ea4ea5",
     "ea6ea7ea8ea9da90ea1ea2ea3ea4ea5ea6ea7ea8ea9ca200ea1ea2ea3ea4ea5ea6ea7ea8ea9da10ea1ea2ea3",
     "ea4ea5ea6ea7ea8ea9da20ea1ea2ea3ea4ea5ea6ea7ea8ea9da30ea1ea2ea3ea4ea5ea6ea7ea8ea9da40ea1ea2",
     "ea3ea4ea5ea6ea7ea8ea9da50ea1ea2ea3ea4ea5ea6"]),
   (0x0, ["aaNULLaaSTART OF HEADINGcaXaaETXbaOTbaNQUIRYaaACKNOWLEDGEaaBELbaS",
     "aaHORIZONTAL TABULATIONaaEOLaaVERTICAL TABULATIONaaFORM FEEDaaCRaaSHIFT OUTgaINaaDLE",
     "baEVICE CONTROL ONEpaTWOqaHREEpaFOURaaNEGATIVE ACKNOWLEDGEaaSYNCHRONOUS IDLEaaETBaaCANCEL",
     "aaEOMaaSUBSTITUTEaaESCAPEaaFSaaGSaaRECORD SEPARATORakUNIT"]),
   (0x7F, ["aaDELETEaaPADDING CHARACTERaaHOPaaBREAK PERMITTED HEREafNO BREAKaaINDEXaaNEXT LINE",
     "aaSTART OF SELECTED AREAaaESAaaHORIZONTAL TABULATION SETwaWITH JUSTIFICATION",
     "aaVERTICAL TABULATION SETaaPARTIAL LINE FORWARDnaUPaaREVERSE LINE FEEDaaSINGLE-SHIFT-2na3",
     "aaDEVICE CONTROL STRINGaaPRIVATE USE-1ma2aaSTSaaCCHaaMWaaSTART OF GUARDED AREA",
     "afEND OF PROTECTEDaaSTART OF STRINGbaINGLE GRAPHIC CHARACTER INTRODUCERhlCHARACTERaaCSI",
     "aaSTRING TERMINATORaaOSCaaPRIVACY MESSAGEaaAPPLICATION PROGRAM COMMAND"]),
   (0xFEFF, ["aaBYTE ORDER MARK"]),
   (0x9, ["aaHTaaLFaaVT"]),
   (0xE, ["aaSObaI"]),
   (0x1C, ["aaINFORMATION SEPARATOR FOURwaTHREEaaRSaaUS"]),
   (0x88, ["aaHTScaJaaVTSaaPLDcaUaaRIaaSS2ca3"]),
   (0x91, ["aaPU1ca2"]),
   (0x96, ["aaSTART OF PROTECTED AREAaaEPA"]),
   (0xFEFF, ["aaZWNBSP"]),
   (0x9, ["aaTABaaLINE FEED"]),
   (0xA, ["aaNEW LINE"]),
   (0xA, ["aaNL"])]

end Intake.Text
