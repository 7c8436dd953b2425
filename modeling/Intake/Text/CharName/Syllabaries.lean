import Intake.Text.CharName.Basic

/-!
# Names of characters: U+A000 to U+FFFF

The names of the Yi syllables, later additions to the scripts, and presentation forms.

## Main definitions

* `syllableNames` — the runs of names.
-/

namespace Intake.Text

/-- The names of the characters U+A000 to U+FFFF. -/
def syllableNames : List NameRun :=
  [(0xA000, ["aaYI SYLLABLE ITnaXnanaPnaEToaXoaoaPmaATnaXnanaPmaUOXoaoaPmaOTnaXnanaPmaEXnamaWU",
     "maBIToaXoaoaPoaETpaXpapaPnaAToaXoaoaPnaUOXpapaPnaOToaXoaoaPnaEXoaoaPnaUToaXoaoaPoaRXpanaYT",
     "oaXoaoaPoaRXpamaPIToaXoaoaPoaEXpapaPnaAToaXoaoaPnaUOXpapaPnaOToaXoaoaPnaUToaXoaoaPoaRXpa",
     "naYToaXoaoaPoaRXpamaBBITpaXpapaPpaETqaXqaqaPoaATpaXpapaPoaUOXqaqaPoaOTpaXpapaPoaEXpapaP",
     "oaUTpaXpapaPpaRXqaoaYTpaXpapaPmaNBITpaXpapaPpaEXqaqaPoaATpaXpapaPoaOTpaXpapaPoaUTpaXpapaP",
     "paRXqaoaYTpaXpapaPpaRXqamaHMITpaXpapaPpaEXqaqaPoaATpaXpapaPoaUOXqaqaPoaOTpaXpapaPoaUTpaXpa",
     "paPpaRXqaoaYXpapaPpaRXqamaMIToaXoaoaPoaEXpapaPnaAToaXoaoaPnaUOTpaXpapaPnaOToaXoaoaPnaEXoa",
     "naUToaXoaoaPoaRXpanaYToaXoaoaPmaFIToaXoaoaPnaAToaXoaoaPnaOXoaoaPnaUToaXoaoaPoaRXpanaYToaX",
     "oaoaPmaVIToaXoaoaPoaETpaXpapaPnaAToaXoaoaPnaOToaXoaoaPnaEXoaPnaUToaXoaoaPoaRXpanaYToaXoa",
     "oaPoaRXpamaDIToaXoaoaPoaEXpapaPnaAToaXoaoaPnaUOXpanaOToaXoaoaPnaEXoaoaPnaUToaXoaoaPoaRXpa",
     "maTIToaXoaoaPoaEXpapaPnaAToaXoaoaPnaUOTpaXpapaPnaOToaXoaoaPnaEXoaoaPnaUToaXoaoaPoaRXpa",
     "maDDITpaXpapaPpaEXqaqaPoaATpaXpapaPoaUOXqaqaPoaOTpaXpapaPoaEXpapaPoaUTpaXpapaPpaRXqamaNDIT",
     "paXpapaPpaEXqaoaATpaXpapaPoaOTpaXpapaPoaEXpapaPoaUTpaXpapaPpaRXqamaHNITpaXpapaPpaETqaXqa",
     "qaPoaATpaXpapaPoaUOXqaoaOTpaXpaPoaEXpapaPoaUTmaNIToaXoaoaPoaEXpapaPnaAXoaoaPnaUOXpapaPnaOT",
     "oaXoaoaPnaEXoaoaPnaUToaXoaoaPoaRXpamaHLITpaXpapaPpaEXqaqaPoaATpaXpapaPoaUOXqaqaPoaOXpapaP",
     "oaEXpapaPoaUTpaXpapaPpaRXqaoaYTpaXpapaPpaRXqamaLIToaXoaoaPoaETpaXpapaPnaAToaXoaoaPnaUOTpaX",
     "papaPnaOToaXoaoaPnaEXoaoaPnaUToaXoaoaPoaRXpanaYToaXoaoaPoaRXpamaGIToaXoaoaPoaETpaXpapaP",
     "naAToaXoaoaPnaUOTpaXpapaPnaOToaXoaoaPnaEToaXoaoaPnaUToaXoaoaPoaRXpamaKIToaXoaoaPoaEXpapaP",
     "naAToaXoaoaPnaUOXpapaPnaOToaXoaoaPnaEToaXoaoaPnaUToaXoaoaPoaRXpamaGGITpaXpapaEXqaqaPoaAT",
     "paXpapaPoaUOTqaXqaqaPoaOTpaXpapaPoaETpaXpapaPoaUTpaXpapaPpaRXqamaMGIEXqaoaATpaXpapaPoaUOX",
     "qaqaPoaOTpaXpapaPoaEXpapaPoaUTpaXpapaPpaRXqamaHXITpaXpapaPpaETqaXqaqaPoaATpaXpapaPoaUOTqaX",
     "qaqaPoaOTpaXpapaPoaEXpapaPmaNGIEXqaqaPoaATpaXpapaPoaUOTqaXqaoaOTpaXpapaPoaEXpapaPmaHIToaEX",
     "panaAToaXoaoaPnaUOTpaXpapaPnaOToaXoaoaPnaEXoaoaPmaWAToaXoaoaPnaUOXpapaPnaOXoaoaPnaEXoaoaP",
     "maZIToaXoaoaPoaEXpapaPnaAToaXoaoaPnaUOXpapaPnaOToaXoaoaPnaEXoaoaPnaUToaXoaoaPoaRXpanaYToaX",
     "oaoaPoaRXpamaCIToaXoaoaPoaETpaXpapaPnaAToaXoaoaPnaUOXpapaPnaOToaXoaoaPnaEXoaoaPnaUToaXoa",
     "oaPoaRXpanaYToaXoaoaPoaRXpamaZZITpaXpapaPpaETqaXqaqaPoaATpaXpapaPoaOXpapaPoaEXpapaPoaUXpa",
     "paPpaRXqaoaYTpaXpapaPpaRXqamaNZITpaXpapaPpaEXqaqaPoaATpaXpapaPoaUOXqaoaOXpaPoaEXpaoaUXpa",
     "paPpaRXqaoaYTpaXpapaPpaRXqamaSIToaXoaoaPoaEXpapaPnaAToaXoaoaPnaUOXpapaPnaOToaXoaoaPnaEXoa",
     "oaPnaUToaXoaoaPoaRXpanaYToaXoaoaPoaRXpanaSITpaXpapaPpaEXqaqaPoaATpaXpapaPoaOTpaXpapaPoaEX",
     "papaPoaUTpaXpapaPoaYTpaXpapaPpaRXqamaZHATpaXpapaPoaUOXqaqaPoaOTpaXpapaPoaETpaXpapaPoaUTpaX",
     "papaPpaRXqaoaYTpaXpapaPpaRXqamaCHATpaXpapaPoaUOTqaXqaqaPoaOTpaXpapaPoaETpaXpapaPoaUXpapaP",
     "paRXqaoaYTpaXpapaPpaRXqamaRRAXpaoaUOXqaoaOTpaXpapaPoaETpaXpapaPoaUTpaXpapaPpaRXqaoaYTpaXpa",
     "paPpaRXqamaNRATpaXpapaPoaOXpapaPoaETpaXpapaPoaUTpaXpapaPpaRXqaoaYTpaXpapaPpaRXqamaSHATpaX",
     "papaPoaUOXqaqaPoaOTpaXpapaPoaETpaXpapaPoaUTpaXpapaPpaRXqaoaYTpaXpapaPpaRXqamaRAToaXoaoaP",
     "naUOXpapaPnaOToaXoaoaPnaEXoaoaPnaUToaXoaoaPoaRXpanaYToaXoaoaPoaRXpamaJIToaXoaoaPoaETpaXpa",
     "paPnaUOTpaXpapaPnaOToaXoaoaPnaUToaXoaoaPoaRXpanaYToaXoaoaPoaRXpamaQIToaXoaoaPoaETpaXpapaP",
     "naUOTpaXpapaPnaOToaXoaoaPnaUToaXoaoaPoaRXpanaYToaXoaoaPoaRXpamaJJITpaXpapaPpaETqaXqaqaP",
     "oaUOXqaqaPoaOTpaXpapaPoaUTpaXpapaPpaRXqaoaYTpaXpapaPmaNJITpaXpapaPpaETqaXqaqaPoaUOXqaoaOT",
     "paXpapaPoaUXpapaPpaRXqaoaYTpaXpapaPpaRXqanaYITpaXpapaPpaETqaXqaqaPoaUOXqaqaPoaOTpaXpapaP",
     "oaUTpaXpapaPmaXIToaXoaoaPoaETpaXpapaPnaUOXpanaOToaXoaoaPnaYToaXoaoaPoaRXpamaYIToaXoaoaP",
     "oaETpaXpapaPnaUOTpaXpapaPnaOToaXoaoaPnaUToaXoaoaPoaRXpanaYToaXoaoaPoaRXpa"]),
   (0xA490, ["aaYI RADICAL QOTlaLIlaKITlaNYIPlaCYPlaSSIlaGGOPmaEPlaMIlaHXITlaLYRlaBBUTlaMOPlaYO",
     "laPUTlaHXUOlaTATlaGAlaZUPlaCYTlaDDURlaBURlaGGUOlaNYOPlaTUlaOPlaJJUTlaZOTlaPYTlaHMOlaYIT",
     "laVURlaSHYlaVEPlaZAlaJOlaNZUPlaJJYlaGOTlaJJIElaWOlaDUlaSHURlaLIElaCYmaUOPmaIPlaHXOPlaSHAT",
     "laZURlaSHOPlaCHElaZZIETlaNBIElaKE"]),
   (0xA4D0, ["aaLISU LETTER BAmaPAnaHAmaDAmaTAnaHAmaGAmaKAnaHAmaJAmaCAnaHAmaDZAmaTSAoaHAmaMAmaNA",
     "maLAmaSAmaZHAnaAmaNGAmaHAmaXAmaHHAmaFAmaWAmaSHAmaYAmaGHAmaAnaEmaEnaUmaImaOmaUnaEnaHmaOE",
     "maTONE MYA TIraNA POraMYA CYAvaBOvaNAvaJEUfaPUNCTUATION COMMAraFULL STOPaaVAI SYLLABLE EE",
     "paNnaHEEnaWEEqaNnaPEEnaBHEEoaEEnaMBEEnaKPEEnaMGBEEnaGBEEnaFEEnaVEEnaTEEoaHEEnaDHEEpaHEE",
     "naLEEnaREEnaDEEnaNDEEnaSEEoaHEEnaZEEoaHEEnaCEEnaJEEnaNJEEnaYEEnaKEEnaNGGEEnaGEEnaMEEnaNEE",
     "oaYEEnaIoaNnaHIpaNnaWIpaNnaPInaBHIoaInaMBInaKPInaMGBInaGBInaFInaVInaTIoaHInaDHIpaHInaLI",
     "naRInaDInaNDInaSIoaHInaZIoaHInaCInaJInaNJInaYInaKInaNGGInaGInaMInaNIoaYInaAoaNnaNGANnaHA",
     "paNnaWApaNnaPAnaBHAoaAnaMBAnaKPAqaNnaMGBAnaGBAnaFAnaVAnaTAoaHAnaDHApaHAnaLAnaRAnaDAnaNDA",
     "naSAoaHAnaZAoaHAnaCAnaJAnaNJAnaYAnaKApaNnaNGGAnaGAnaMAnaNAoaYAnaOOpaNnaHOOnaWOOqaNnaPOO",
     "naBHOOoaOOnaMBOOnaKPOOnaMGBOOnaGBOOnaFOOnaVOOnaTOOoaHOOnaDHOOpaHOOnaLOOnaROOnaDOOnaNDOO",
     "naSOOoaHOOnaZOOoaHOOnaCOOnaJOOnaNJOOnaYOOnaKOOnaNGGOOnaGOOnaMOOnaNOOoaYOOnaUoaNnaHUpaNnaWU",
     "paNnaPUnaBHUoaUnaMBUnaKPUnaMGBUnaGBUnaFUnaVUnaTUoaHUnaDHUpaHUnaLUnaRUnaDUnaNDUnaSUoaHUnaZU",
     "oaHUnaCUnaJUnaNJUnaYUnaKUnaNGGUnaGUnaMUnaNUoaYUnaOoaNnaNGONnaHOpaNnaWOpaNnaPOnaBHOoaOnaMBO",
     "naKPOnaMGBOnaGBOqaNnaFOnaVOnaTOoaHOnaDHOpaHOnaLOnaROnaDOnaNDOnaSOoaHOnaZOoaHOnaCOnaJOnaNJO",
     "naYOnaKOnaNGGOnaGOnaMOnaNOoaYOnaEoaNnaNGENnaHEpaNnaWEpaNnaPEnaBHEoaEnaMBEnaKPEqaNnaMGBE",
     "naGBEqaNnaFEnaVEnaTEoaHEnaDHEpaHEnaLEnaREnaDEnaNDEnaSEoaHEnaZEoaHEnaCEnaJEnaNJEnaYEnaKE",
     "naNGGEraNnaGEpaNnaMEnaNEoaYEoaGnaLENGTHENEReaCOMMAeaFULL STOPeaQUESTION MARK",
     "eaSYLLABLE NDOLE FAtaKAtaSOOgaMBOL FEENGlaKEENGlaTINGlaNIIlaBANGlaFAAlaTAAlaDANGmaOONG",
     "laKUNGlaTONGlaDO-OlaJONGeaDIGIT ZEROkaONEkaTWOlaHREEkaFOURlaIVEkaSIXlaEVENkaEIGHTkaNINE",
     "eaSYLLABLE NDOLE MAtaDO"]),
   (0xA640, ["aaCYRILLIC CAPITAL LETTER ZEMLYAjoSMALLjaCAPITAL LETTER DZELOjnSMALL",
     "jaCAPITAL LETTER REVERSED DZEjuSMALLjaCAPITAL LETTER IOTAjmSMALLjaCAPITAL LETTER DJERV",
     "jnSMALLjaCAPITAL LETTER MONOGRAPH UKjuSMALLjaCAPITAL LETTER BROAD OMEGAjtSMALL",
     "jaCAPITAL LETTER NEUTRAL YERjtSMALLjeCAPITAL LETTER YERU WITH BACKj!SMALL",
     "jaCAPITAL LETTER IOTIFIED YATjuSMALLjaCAPITAL LETTER REVERSED YUjtSMALL",
     "jaCAPITAL LETTER IOTIFIED AjsSMALLjaCAPITAL LETTER CLOSED LITTLE YUSjzSMALL",
     "jeCAPITAL LETTER BLENDEDjtSMALLjeCAPITAL LETTER IOTIFIED CLOSED LITTLEj+SMALL",
     "jaCAPITAL LETTER YNjkSMALLjaCAPITAL LETTER REVERSED TSEjuSMALLjaCAPITAL LETTER SOFT DE",
     "jpSMALLjaCAPITAL LETTER SOFT ELjpSMALLjaCAPITAL LETTER SOFT EMjpSMALL",
     "jaCAPITAL LETTER MONOCULAR OjtSMALLjcCAPITAL LETTER BINOCULARjtSMALL",
     "jcCAPITAL LETTER DOUBLE MONOCULARj!SMALLjcLETTER MULTIOCULARbaOMBINING CYRILLIC VZMET",
     "taTEN MILLIONS SIGNtoHUNDREDtoTHOUSANDaaSLAVONIC ASTERISK",
     "aaCOMBINING CYRILLIC LETTER UKRAINIAN IE!aI!aYI!aU!aHARD SIGN!aYERU!aSOFT SIGN!aOMEGA",
     "taKAVYKAtaPAYEROKbaYRILLIC KAVYKAjaPAYEROKjaCAPITAL LETTER DWEjlSMALLjaCAPITAL LETTER DZWE",
     "jmSMALLjaCAPITAL LETTER ZHWEjmSMALLjaCAPITAL LETTER CCHEjmSMALLjaCAPITAL LETTER DZZE",
     "jmSMALLjaCAPITAL LETTER TE WITH MIDDLE HOOKj#SMALLjaCAPITAL LETTER TWEjlSMALL",
     "jaCAPITAL LETTER TSWEjmSMALLjaCAPITAL LETTER TSSEjmSMALLjaCAPITAL LETTER TCHEjmSMALL",
     "jaCAPITAL LETTER HWEjlSMALLjaCAPITAL LETTER SHWEjmSMALLjaCAPITAL LETTER DOUBLE OjqSMALL",
     "jcCAPITAL LETTER CROSSEDjrSMALLaaMODIFIER LETTER CYRILLIC HARD SIGNzfSOFT",
     "aaCOMBINING CYRILLIC LETTER EF!aIOTIFIED EaaBAMUM LETTER AnaKAnaUnaKUnaEEnaREEnaTAEnaO",
     "naNYInaInaLAnaPAnaRIIpaEEnaLEEEEnaMEEEEnaTAAnaNDAAoaJAEMnaMnaSUUnaMUnaSHIIoaIoaHEUXoaEUX",
     "naKYEEoaETnaNUAEpaoaJUAEnaYOQnaSHUnaYUQoaAnaNSHAnaKEUXnaPEUXnaNJEEoaTEEnaPUEnaWUEnaPEE",
     "naFEEnaRUnaLUnaMInaNInaREUXoaAEnaKENnaNGKWAENpaGApaAnaSHOnaPUAEnaFUoaOMnaWAnaNAnaLInaPI",
     "naLOQnaKOnaMBENnaRENnaMENoaAnaTInaKInaMOoaBAAnaTETnaKPAnaTENnaNTUUnaSAMBAnaFAAMAEnaKOVUU",
     "paGHOMgaCOMBINING MARK KOQNDONvaTUKWENTISgaNJAEMLIgaFULL STOPgaCOLONiaMMAgaSEMICOLON",
     "gaQUESTION MARK"]),
   (0xA700, ["aaMODIFIER LETTER CHINESE TONE YIN PING&fANG&aIN SHANG&gANG&aIN QU&dANG&aIN RU",
     "&dANGqaEXTRA-HIGH DOTTED TONE BARqqHIGHqqMIDqqLOWqqEXTRA-LOWwjHIGH DOTTED LEFT-STEMq!HIGH",
     "q!MIDq!LOWq!EXTRA-LOWwtHIGHqtHIGHqtMIDqtLOWqtEXTRA-LOWqeDOT VERTICALuaSLASH",
     "uaHORIZONTAL BARqaLOWER RIGHT CORNER ANGLEqaRAISED UP ARROWxgDOWNxaEXCLAMATION MARK",
     "xfINVERTED EXCLAMATIONq!LOWqaSTRESS AND HIGH TONE#fLOW",
     "aaLATIN CAPITAL LETTER EGYPTOLOGICAL ALEFg!SMALLgaCAPITAL LETTER EGYPTOLOGICAL AINgzSMALL",
     "gaCAPITAL LETTER HENGgmSMALLgaCAPITAL LETTER TZgkSMALLgaCAPITAL LETTER TRESILLOgqSMALL",
     "gaCAPITAL LETTER CUATRILLOgrSMALLgaCAPITAL LETTER CUATRILLO WITH COMMAg$SMALL",
     "gaLETTER SMALL CAPITAL F#aSgaCAPITAL LETTER AAgkSMALLgaCAPITAL LETTER AOgkSMALL",
     "gaCAPITAL LETTER AUgkSMALLgaCAPITAL LETTER AVgkSMALL",
     "gaCAPITAL LETTER AV WITH HORIZONTAL BARg&SMALLgaCAPITAL LETTER AYgkSMALL",
     "gaCAPITAL LETTER REVERSED C WITH DOTg#SMALLgaCAPITAL LETTER K WITH STROKEgvSMALL",
     "ghCAPITAL LETTER K WITH DIAGONALg&SMALLgqCAPITAL LETTER K WITH STROKE ANDg?SMALL",
     "gaCAPITAL LETTER BROKEN LgqSMALLgaCAPITAL LETTER L WITH HIGH STROKEg!SMALL",
     "gaCAPITAL LETTER O WITH LONG STROKE OVERLAYg+SMALLgaCAPITAL LETTER O WITH LOOPgtSMALL",
     "gaCAPITAL LETTER OOgkSMALLgaCAPITAL LETTER P WITH STROKE THROUGH DESCENDERg<SMALL",
     "gaCAPITAL LETTER P WITH FLOURISHgxSMALLgaCAPITAL LETTER P WITH SQUIRREL TAILg$SMALL",
     "gaCAPITAL LETTER Q WITH STROKE THROUGH DESCENDERg<SMALL",
     "gaCAPITAL LETTER Q WITH DIAGONAL STROKEg&SMALLgaCAPITAL LETTER R ROTUNDAgrSMALL",
     "giCAPITAL LETTER RUMgtSMALLgaCAPITAL LETTER V WITH DIAGONAL STROKEg&SMALL",
     "gaCAPITAL LETTER VYgkSMALLgaCAPITAL LETTER VISIGOTHIC ZguSMALL",
     "gaCAPITAL LETTER THORN WITH STROKEgzSMALL",
     "gaCAPITAL LETTER THORN WITH STROKE THROUGH DESCENDERg[SMALLgaCAPITAL LETTER VENDgmSMALL",
     "gaCAPITAL LETTER ETgkSMALLgaCAPITAL LETTER ISgkSMALLgaCAPITAL LETTER CONglSMALL",
     "aaMODIFIER LETTER USaaLATIN SMALL LETTER DUMtaLUMtaMUMtaNUMtaRUMgeLETTER SMALL CAPITAL",
     "gaSMALL LETTER TUMtaUMgaCAPITAL LETTER INSULAR DgrSMALLgaCAPITAL LETTER INSULAR FgrSMALL",
     "gaCAPITAL LETTER INSULAR GvcTURNED INSULARgySMALLgaCAPITAL LETTER TURNED LgqSMALL",
     "gaCAPITAL LETTER INSULAR RgrSMALLgaCAPITAL LETTER INSULAR SgrSMALL",
     "gaCAPITAL LETTER INSULAR TgrSMALLaaMODIFIER LETTER LOW CIRCUMFLEX ACCENTqaCOLON",
     "qaSHORT EQUALS SIGNaaLATIN CAPITAL LETTER SALTILLOgqSMALLgaCAPITAL LETTER TURNED H",
     "gaSMALL LETTER L WITH RETROFLEX HOOK AND BELTgaLETTER SINOLOGICAL DOT",
     "gaCAPITAL LETTER N WITH DESCENDERgySMALLgaCAPITAL LETTER C WITH BARgsSMALL!aPALATAL HOOK",
     "tsHgaCAPITAL LETTER B WITH FLOURISHgxSMALLgaCAPITAL LETTER F WITH STROKEgvSMALL",
     "gaCAPITAL LETTER VOLAPUK AEgsSMALLgaCAPITAL LETTER VOLAPUK OEgsSMALL",
     "gaCAPITAL LETTER VOLAPUK UEgsSMALLgaCAPITAL LETTER G WITH OBLIQUE STROKEg%SMALL",
     "guCAPITAL LETTER Kg%SMALLguCAPITAL LETTER Ng%SMALLguCAPITAL LETTER Rg%SMALL",
     "guCAPITAL LETTER Sg%SMALLgaCAPITAL LETTER H WITH HOOKvaREVERSED OPEN EvaSCRIPT G",
     "vaL WITH BELTvaSMALL CAPITAL IgaLETTER SMALL CAPITAL QgaCAPITAL LETTER TURNED K$aT",
     "vaJ WITH CROSSED-TAILvaCHIvaBETAgmSMALLgaCAPITAL LETTER OMEGAgnSMALL",
     "gaCAPITAL LETTER U WITH STROKEgvSMALLgaCAPITAL LETTER GLOTTAL AgrSMALL",
     "gaCAPITAL LETTER GLOTTAL IgrSMALLgaCAPITAL LETTER GLOTTAL UgrSMALL",
     "gaCAPITAL LETTER OLD POLISH OguSMALLgaCAPITAL LETTER ANGLICANA WgtSMALL",
     "gaCAPITAL LETTER C WITH PALATAL HOOKvfS WITHvfZ WITH PALATALvaD WITH SHORT STROKE OVERLAY",
     "g,SMALLg!CAPITAL LETTER Sg,SMALL"]),
   (0xA7D0, ["aaLATIN CAPITAL LETTER CLOSED INSULAR GgySMALL"]),
   (0xA7D3, ["aaLATIN SMALL LETTER DOUBLE THORN"]),
   (0xA7D5, ["aaLATIN SMALL LETTER DOUBLE WYNNgaCAPITAL LETTER MIDDLE SCOTS SgwSMALL",
     "gcCAPITAL LETTER SIGMOIDgrSMALL"]),
   (0xA7F2, ["aaMODIFIER LETTER CAPITAL CyaFyaQaaLATIN CAPITAL LETTER REVERSED HALF HgxSMALL",
     "gaEPIGRAPHIC LETTER SIDEWAYS IaaMODIFIER LETTER CAPITAL H WITH STROKEqaSMALL LIGATURE OE",
     "aaLATIN LETTER SMALL CAPITAL TURNED MgaEPIGRAPHIC LETTER REVERSED F*aPyaINVERTED Mza LONGA",
     "yaARCHAIC MaaSYLOTI NAGRI LETTER AuaInaSIGN DVISVARAnaLETTER UuaEuaOnaSIGN HASANTA",
     "naLETTER KOvaHOuaGOvaHOnaSIGN ANUSVARAnaLETTER COvaHOuaJOvaHOuaTTOwaHOuaDDOwaHOuaTOvaHO",
     "uaDOvaHOuaNOuaPOvaHOuaBOvaHOuaMOuaROuaLOuaRROuaSOuaHOnaVOWEL SIGN AyaIyaUyaEyaOO",
     "naPOETRY MARK-1za2za3za4naSIGN ALTERNATE HASANTA"]),
   (0xA830, ["aaNORTH INDIC FRACTION ONE QUARTERzaHALFvaTHREE QUARTERSvaONE SIXTEENTHzaEIGHTH",
     "vaTHREE SIXTEENTHSmaQUARTER MARKmfPLACEHOLDERmfRUPEEmfQUANTITY"]),
   (0xA840, ["aaPHAGS-PA LETTER KAraHAqaGAqaNGAqaCAraHAqaJAqaNYAqaTAraHAqaDAqaNAqaPAraHAqaBAqaMA",
     "qaTSAsaHAqaDZAqaWAqaZHAraAqaSMALL AqaYAqaRAqaLAqaSHAraAqaHAqaAqaIqaUqaEqaOqaQAqaXAqaFA",
     "qaGGAqaEEjaSUBJOINED LETTER WA!aYAjaLETTER TTAsaHAqaDDAqaNNAqaALTERNATE YAqaVOICELESS SHA",
     "vaD HAqaASPIRATED FAjaSUBJOINED LETTER RAlkPERFIXEDjaLETTER CANDRABINDUjaSINGLE HEAD MARK",
     "jkDOUBLEjaMARK SHADoaDOUBLE SHAD"]),
   (0xA880, ["aaSAURASHTRA SIGN ANUSVARAqaVISARGAlaLETTER AtaAsaItaIsaUtaUsaVOCALIC R#aR!aL#aL",
     "saEtaEsaAIsaOtaOsaAUsaKAtaHAsaGAtaHAsaNGAsaCAtaHAsaJAtaHAsaNYAsaTTAuaHAsaDDAuaHAsaNNAsaTA",
     "taHAsaDAtaHAsaNAsaPAtaHAsaBAtaHAsaMAsaYAsaRAsaLAsaVAsaSHAtaSAtaAsaHAsaLLA",
     "laCONSONANT SIGN HAARUlaVOWEL SIGN AAwaIxaIwaUxaUwaVOCALIC R(aR&aL(aLwaExaEwaAIwaOxaOwaAU",
     "laSIGN VIRAMAqaCANDRABINDU"]),
   (0xA8CE, ["aaSAURASHTRA DANDAmaOUBLE DANDAmaIGIT ZEROraONEraTWOsaHREEraFOURsaIVEraSIXsaEVEN",
     "raEIGHTraNINE"]),
   (0xA8E0, ["aaCOMBINING DEVANAGARI DIGIT ZERO#aONE#aTWO$aHREE#aFOUR$aIVE#aSIX$aEVEN#aEIGHT",
     "#aNINEvaLETTER A$aU$aKA$aNA$aPA$aRA$aVIvaSIGN AVAGRAHA",
     "aaDEVANAGARI SIGN SPACING CANDRABINDUqaCANDRABINDU VIRAMAqhDOUBLE CANDRABINDU",
     "qaCANDRABINDU TWO%aHREE$aAVAGRAHAqaPUSHPIKAlaGAP FILLERlaCARETlaHEADSTROKElaSIGN SIDDHAM",
     "laJAIN OMlaLETTER AYldVOWEL SIGNaaKAYAH LI DIGIT ZEROpaONEpaTWOqaHREEpaFOURqaIVEpaSIX",
     "qaEVENpaEIGHTpaNINEjaLETTER KAraHAqaGAqaNGAqaSAraHAqaZAqaNYAqaTAqaHTAqaNAqaPAraHAqaMAqaDA",
     "qaBAqaRAqaYAqaLAqaWAqaTHAqaHAqaVAqaCAqaAqaOEqaIqaOOjaVOWEL UEpaEpaUpaEEpaOjaTONE PLOPHU",
     "oaCALYAta PLOPHUjaSIGN CWIoaSHYAaaREJANG LETTER KAoaGAoaNGAoaTAoaDAoaNAoaPAoaBAoaMAoaCA",
     "oaJAoaNYAoaSAoaRAoaLAoaYAoaWAoaHAoaMBAoaNGGApaDApaYJAoaAhaVOWEL SIGN IsaUsaEsaAIsaOsaAU",
     "saEUtaAhaCONSONANT SIGN NGxawaRwaHhaVIRAMA"]),
   (0xA95F, ["aaREJANG SECTION MARKaaHANGUL CHOSEONG TIKEUT-MIEUMxaPIEUPxaSIOSxaCIEUC",
     "qaRIEUL-KIYEOKwaSSANGKIYEOKwaTIKEUTwaSSANGTIKEUTwaMIEUMwaPIEUPwaSSANGPIEUPwaKAPYEOUNPIEUP",
     "waSIOSwaCIEUCwaKHIEUKHqaMIEUM-KIYEOKwaTIKEUTwaSIOSqaPIEUP-SIOS-THIEUTHwaKHIEUKHwaHIEUH",
     "qaSSANGSIOS-PIEUPqaIEUNG-RIEULwaHIEUHqgSSANGCIEUCvaTHIEUTHqaPHIEUPH-HIEUHqaHIEUH-SIOS",
     "qaSSANGYEORINHIEUH"]),
   (0xA980, ["aaJAVANESE SIGN PANYANGGAoaCECAKoaLAYARoaWIGNYANjaLETTER AqaI KAWIraraIqaU",
     "qaPA CEREKqaNGA LELETza RASWADIqaEqaAIqaOqaKAsa SASAKtaMURDAqaGAsa MURDAqaNGAqaCAsa MURDA",
     "qaJAqaNYA MURDAqaJA MAHAPRANAqaNYAqaTTAta MAHAPRANAqaDDAta MAHAPRANAqaNA MURDAqaTAsa MURDA",
     "qaDAsa MAHAPRANAqaNAqaPAsa MURDAqaBAsa MURDAqaMAqaYAqaRAsa AGUNGqaLAqaWAqaSA MURDA",
     "uaAHAPRANAsaqaHAjaSIGN CECAK TELUjaVOWEL SIGN TARUNGvaOLONGuaWULUya MELIKuaSUKUya MENDUT",
     "uaTALINGuaDIRGA MUREuaPEPETjaCONSONANT SIGN KERETyaPENGKALyaCAKRAjaPANGKONjaLEFT RERENGGAN",
     "jkRIGHTjaPADA ANDAPoaMADYAoaLUHURoaWINDUoaPANGKAToaLINGSApaUNGSIoaADEGsa ADEGoaPISELEH",
     "jiTURNED PADA"]),
   (0xA9CF, ["aaJAVANESE PANGRANGKEPjaDIGIT ZEROpaONEpaTWOqaHREEpaFOURqaIVEpaSIXqaEVENpaEIGHT",
     "paNINE"]),
   (0xA9DE, ["aaJAVANESE PADA TIRTA TUMETESoaISEN-ISENaaMYANMAR LETTER SHAN GHAuaCHAuaJHAuaNNA",
     "uaBHAiaSIGN SHAN SAWiaMODIFIER LETTER SHAN REDUPLICATIONiaLETTER TAI LAING NYAzaFAzaGA!aHA",
     "zaJA!aHAzaDDA#aHAzaNNAiaTAI LAING DIGIT ZEROyaONEyaTWOzaHREEyaFOURzaIVEyaSIXzaEVENyaEIGHT",
     "yaNINEiaLETTER TAI LAING LLAzaDA!aHAzaBA!aHA"]),
   (0xAA00, ["aaCHAM LETTER AmaImaUmaEmaAImaOmaKAnaHAmaGAnaHAmaNGUEoaAmaCHAoaHAmaJAnaHAmaNHUEoaA",
     "oaJAmaTAnaHAmaDAnaHAmaNUEnaAmaDDAmaPAnaPAnaHAmaBAnaHAmaMUEnaAmaBBAmaYAmaRAmaLAmaVAmaSSAnaA",
     "maHAfaVOWEL SIGN AAqaIraIqaEIqaUqaOEraqaAIraUqaUEfaCONSONANT SIGN YAuaRAuaLAuaWA"]),
   (0xAA40, ["aaCHAM LETTER FINAL KsaGsaNGfjCONSONANT SIGNfaLETTER FINAL CHsaTsaNsaPsaYsaRsaL",
     "saSSfaCONSONANT SIGN FINAL M!aH"]),
   (0xAA50, ["aaCHAM DIGIT ZEROlaONElaTWOmaHREElaFOURmaIVElaSIXmaEVENlaEIGHTlaNINE"]),
   (0xAA5C, ["aaCHAM PUNCTUATION SPIRALraDANDAsaOUBLE DANDArgTRIPLEaaMYANMAR LETTER KHAMTI GA",
     "waCAxaHAwaJAxaHAwaNYAwaTTAyaHAwaDDAyaHAxaHAwaNAwaSAwaHAxaHAwaFA",
     "iaMODIFIER LETTER KHAMTI REDUPLICATIONiaLETTER KHAMTI XAwaZAwaRAjaOGOGRAM KHAMTI OAYyaQN",
     "yaHMiaSYMBOL AITON EXCLAMATIONvaONEvaTWOiaLETTER AITON RAiaSIGN PAO KAREN TONE",
     "naTAI LAING TONE-2$a5iaLETTER SHWE PALAUNG CHA$aSHAaaTAI VIET LETTER LOW KOqdHIGHqaLOW KHO",
     "qeHIGHqaLOW KHHOqfHIGHqaLOW GOqdHIGHqaLOW NGOqeHIGHqaLOW COqdHIGHqaLOW CHOqeHIGHqaLOW SO",
     "qdHIGHqaLOW NYOqeHIGHqaLOW DOqdHIGHqaLOW TOqdHIGHqaLOW THOqeHIGHqaLOW NOqdHIGHqaLOW BO",
     "qdHIGHqaLOW POqdHIGHqaLOW PHOqeHIGHqaLOW FOqdHIGHqaLOW MOqdHIGHqaLOW YOqdHIGHqaLOW RO",
     "qdHIGHqaLOW LOqdHIGHqaLOW VOqdHIGHqaLOW HOqdHIGHqaLOW OqcHIGHjaMAI KANGjaVOWEL AApaIpaUEqa",
     "paEpaOjaMAI KHITjaVOWEL IApaUEAqaApaAUEqaYqaNqaMjaTONE MAI EKsaNUENGsaTHOsaSONG"]),
   (0xAADB, ["aaTAI VIET SYMBOL KONqaNUENGqaSAMqaHO HOIqaKOI KOIaaMEETEI MAYEK LETTER EuaOuaCHA",
     "uaNYAuaTTAwaHAuaDDAwaHAuaNNAuaSHAvaSAnaVOWEL SIGN IIyaUUyaAAIzaUzaAUnaCHEIKHAN",
     "naAHANG KHUDAMoaNJInaSYLLABLE REPETITION MARKnqWORDnaVOWEL SIGN VISARGAoaIRAMA"]),
   (0xAB01, ["aaETHIOPIC SYLLABLE TTHUvaIvaAAvaEEwavaO"]),
   (0xAB09, ["aaETHIOPIC SYLLABLE DDHUvaIvaAAvaEEwavaO"]),
   (0xAB11, ["aaETHIOPIC SYLLABLE DZUuaIuaAAuaEEvauaO"]),
   (0xAB20, ["aaETHIOPIC SYLLABLE CCHHAwaUwaIwaAAwaEExawaO"]),
   (0xAB28, ["aaETHIOPIC SYLLABLE BBAuaUuaIuaAAuaEEvauaO"]),
   (0xAB30, ["aaLATIN SMALL LETTER BARRED ALPHAtaA REVERSED-SCHWAtaBLACKLETTER EucARRED",
     "taE WITH FLOURISHtaLENIS FtaSCRIPT G WITH CROSSED-TAILtaL WITH INVERTED LAZY S",
     "!aDOUBLE MIDDLE TILDE!aMIDDLE RINGtaM WITH CROSSED-TAILtsNtsENGtaBLACKLETTER O",
     ")a WITH STROKEtoOPENtaINVERTED OEtaTURNED OE WITH STROKE+aHORIZONTAL STROKE#a OPEN-O",
     "+a WITH STROKEtaSTIRRUP RgaLETTER SMALL CAPITAL R WITH RIGHT LEG",
     "gaSMALL LETTER R WITHOUT HANDLEtaDOUBLE RtaR WITH CROSSED-TAILtsDOUBLE RtaSCRIPT R",
     "#a WITH RINGtaBASELINE ESHtaU WITH SHORT RIGHT LEGvqBAR WITHuaItaTURNED UI",
     "taU WITH LEFT HOOKtaCHIwa WITH LOW RIGHT RING)aLEFT SERIFtaX WITH LOW RIGHT RING",
     "$aNG LEFT LEG<a AND LOW RIGHT RING>aWITH SERIFtaY WITH SHORT RIGHT LEG",
     "aaMODIFIER BREVE WITH INVERTED BREVEjaLETTER SMALL HENGwaL WITH INVERTED LAZY S",
     "%aMIDDLE TILDEwaU WITH LEFT HOOKaaLATIN SMALL LETTER SAKHA YATtaIOTIFIED EtaOPEN OEtaUO",
     "taINVERTED ALPHAaaGREEK LETTER SMALL CAPITAL OMEGA",
     "aaLATIN SMALL LETTER DZ DIGRAPH WITH RETROFLEX HOOKt$TSuaURNED R WITH MIDDLE TILDE",
     "aaMODIFIER LETTER SMALL TURNED WqaLEFT TACKqfRIGHT"]),
   (0xAB70, ["aaCHEROKEE SMALL LETTER AwaEwaIwaOwaUwaVwaGAwaKAwaGExaIxaOxaUxaVwaHAxaExaIxaOxaU",
     "xaVwaLAxaExaIxaOxaUxaVwaMAxaExaIxaOxaUwaNAwaHNAwaNAHxaExaIxaOxaUxaVwaQUAyaEyaIyaOyaUyaV",
     "waSAxaxaExaIxaOxaUxaVwaDAwaTAwaDEwaTEwaDIwaTIwaDOxaUxaVxaLAwaTLAyaEyaIyaOyaUyaVxaSAyaEyaI",
     "yaOyaUyaVwaWAxaExaIxaOxaUxaVwaYAaaMEETEI MAYEK LETTER KOKuaSAMuaLAIuaMITuaPAuaNAuaCHIL",
     "uaTILuaKHOUuaNGOUuaTHOUuaWAIuaYANGuaHUKuaUNuaIuaPHAMuaATIYAuaGOKuaJHAMuaRAIuaBAuaJILuaDIL",
     "uaGHOUuaDHOUuaBHAMuaKOK LONSUMuhLAIuhMITuhPAuhNAuhTILuhNGOUuhInaVOWEL SIGN ONAPyaINAP",
     "yaANAPyaYENAPyaSOUNAPyaUNAPyaCHEINAPyaNUNGnaCHEIKHEInaLUM IYEKnfAPUN"]),
   (0xABF0, ["aaMEETEI MAYEK DIGIT ZEROtaONEtaTWOuaHREEtaFOURuaIVEtaSIXuaEVENtaEIGHTtaNINE"]),
   (0xD7B0, ["aaHANGUL JUNGSEONG O-YEOtaO-IraYO-AvaEuaEOraU-YEOtaI-IraYU-AEuaOraEU-AuaEOvauaO",
     "rcI-YAvaEuaEOvataO-ItaYOuaUtaIraARAEA-AxaE"]),
   (0xD7CB, ["aaHANGUL JONGSEONG NIEUN-RIEULxaCHIEUCHraSSANGTIKEUT$a-PIEUPrgTIKEUTyaSIOS",
     "$a-KIYEOKyaCIEUCzaHIEUCHyaTHIEUTHraRIEUL-SSANGKIYEOKxaKIYEOK-HIEUHraSSANGRIEUL-KHIEUKH",
     "raRIEUL-MIEUM-HIEUHxaPIEUP-TIKEUT%aPHIEUPHxaYESIEUNGzaORINHIEUH-HIEUHraKAPYEOUNRIEUL",
     "raMIEUM-NIEUNxaSSANGNIEUNraSSANGMIEUMraMIEUM-PIEUP-SIOSxaCIEUCraPIEUP-TIKEUT",
     "xaRIEUL-PHIEUPHxaMIEUMraSSANGPIEUPraPIEUP-SIOS-TIKEUTxaCIEUCyaHIEUCHraSIOS-MIEUM",
     "waKAPYEOUNPIEUPsaSANGSIOS-KIYEOK#aTIKEUTsaIOS-PANSIOSwaCIEUCxaHIEUCHwaTHIEUTHwaHIEUH",
     "raPANSIOS-PIEUPzaKAPYEOUNPIEUPraYESIEUNG-MIEUM!aHIEUHraCIEUC-PIEUPxaSSANGPIEUPraSSANGCIEUC",
     "raPHIEUPH-SIOSzaTHIEUTH"]),
   (0xFB00, ["aaLATIN SMALL LIGATURE FFwaIwaLwaFIxaLvaLONG S TvaST"]),
   (0xFB13, ["aaARMENIAN SMALL LIGATURE MEN NOW$aECH$aINIyaVEW NOWyaMEN XEH"]),
   (0xFB1D, ["aaHEBREW LETTER YOD WITH HIRIQhaPOINT JUDEO-SPANISH VARIKA",
     "haLIGATURE YIDDISH YOD YOD PATAHiaETTER ALTERNATIVE AYINoaWIDE ALEFtaDALETtaHEtaKAFtaLAMED",
     "taFINAL MEMtaRESHtaTAVoaALTERNATIVE PLUS SIGNoaSHIN WITH SHIN DOTzeINyeDAGESH AND SHIN.eIN",
     "oaALEF WITH PATAHyaQAMATSyaMAPIQoaBET WITH DAGESHomGIMELomDALEToaHE WITH MAPIQ",
     "oaVAV WITH DAGESHomZAYIN"]),
   (0xFB38, ["aaHEBREW LETTER TET WITH DAGESHomYODomFINAL KAFomKAFomLAMED"]),
   (0xFB3E, ["aaHEBREW LETTER MEM WITH DAGESH"]),
   (0xFB40, ["aaHEBREW LETTER NUN WITH DAGESHomSAMEKH"]),
   (0xFB43, ["aaHEBREW LETTER FINAL PE WITH DAGESHomPE"]),
   (0xFB46, ["aaHEBREW LETTER TSADI WITH DAGESHomQOFomRESHomSHINomTAVoaVAV WITH HOLAM",
     "oaBET WITH RAFEokKAFokPEiaIGATURE ALEF LAMEDaaARABIC LETTER ALEF WASLA ISOLATED FORM",
     "zfFINALofBEEH ISOLATEDtfFINALtfINITIALtfMEDIALofPEH ISOLATEDsfFINALsfINITIALsfMEDIAL",
     "ofBEHEH ISOLATEDufFINALufINITIALufMEDIALofTTEHEH ISOLATEDvfFINALvfINITIALvfMEDIAL",
     "pfEHEH ISOLATEDufFINALufINITIALufMEDIALpfTEH ISOLATEDtfFINALtfINITIALtfMEDIAL",
     "ofVEH ISOLATEDsfFINALsfINITIALsfMEDIALofPEHEH ISOLATEDufFINALufINITIALufMEDIAL",
     "ofDYEH ISOLATEDtfFINALtfINITIALtfMEDIALofNYEH ISOLATEDtfFINALtfINITIALtfMEDIAL",
     "ofTCHEH ISOLATEDufFINALufINITIALufMEDIALtfEH ISOLATEDwfFINALwfINITIALwfMEDIAL",
     "ofDDAHAL ISOLATEDvfFINALpfAHAL ISOLATEDufFINALpfUL ISOLATEDsfFINALpfDAL ISOLATEDtfFINAL",
     "ofJEH ISOLATEDsfFINALofRREH ISOLATEDtfFINALofKEHEH ISOLATEDufFINALufINITIALufMEDIAL",
     "ofGAF ISOLATEDsfFINALsfINITIALsfMEDIALpfUEH ISOLATEDtfFINALtfINITIALtfMEDIAL",
     "ofNGOEH ISOLATEDufFINALufINITIALufMEDIALpfOON GHUNNA ISOLATED!fFINALofRNOON ISOLATED",
     "ufFINALufINITIALufMEDIALofHEH WITH YEH ABOVE ISOLATED*fFINALsfGOAL ISOLATEDxfFINAL",
     "xfINITIALxfMEDIALsfDOACHASHMEE ISOLATED&fFINAL&fINITIAL&fMEDIALofYEH BARREE ISOLATED",
     "zfFINALzfWITH HAMZA ABOVE ISOLATED@fFINALhaSYMBOL DOT ABOVEsaBELOWoaTWO DOTS ABOVExaBELOW",
     "paHREE DOTS ABOVEzaBELOWzaPOINTING DOWNWARDS ABOVE]aBELOWoaFOUR DOTS ABOVEyaBELOW",
     "ogDOUBLE VERTICAL BARoaTWO DOTS VERTICALLY ABOVE+aBELOWoaRINGoaSMALL TAH ABOVEyaBELOW",
     "oaWASLA ABOVE"]),
   (0xFBD3, ["aaARABIC LETTER NG ISOLATED FORMrfFINALrfINITIALrfMEDIALofU ISOLATEDqfFINAL",
     "ofOE ISOLATEDrfFINALofYU ISOLATEDrfFINALofU WITH HAMZA ABOVE ISOLATEDooVErfFINAL",
     "ofKIRGHIZ OE ISOLATEDzfFINALwfYU ISOLATEDzfFINALofE ISOLATEDqfFINALqfINITIALqfMEDIAL",
     "ofUIGHUR KAZAKH KIRGHIZ ALEF MAKSURA INITIAL~f MEDIAL",
     "ifIGATURE YEH WITH HAMZA ABOVE WITH ALEF ISOLATED|fFINAL[fE ISOLATED^fFINAL@fWAW ISOLATED",
     "_fFINAL@fU ISOLATED]fFINAL@fOE ISOLATED^fFINAL@fYU ISOLATED^fFINAL@fE ISOLATED]fFINAL",
     "]fINITIALqfUIGHUR KIRGHIZ YEH WITH HAMZA ABOVE WITH ALEF MAKSURA ISOLATED",
     "~fOVE WITH ALEF MAKSURA FINAL~fOVE WITH ALEF MAKSURA INITIALifETTER FARSI YEH ISOLATED",
     "yfFINALyfINITIALyfMEDIALifIGATURE YEH WITH HAMZA ABOVE WITH JEEM ISOLATED@oHAH@oMEEM",
     "@oALEF MAKSURA@oYEHqoBEH WITH JEEMzoHAHzoKHAHzoMEEMzoALEF MAKSURAzoYEHqoTEH WITH JEEMzoHAH",
     "zoKHAHzoMEEMzoALEF MAKSURAzoYEHroHEH WITH JEEM!oMEEM!oALEF MAKSURA!oYEHqoJEEM WITH HAH",
     "!oMEEMqoHAH WITH JEEMzoMEEMqoKHAH WITH JEEM!oHAH!oMEEMqoSEEN WITH JEEM!oHAH!oKHAH!oMEEM",
     "roAD WITH HAHzoMEEMqoDAD WITH JEEMzoHAHzoKHAHzoMEEMqoTAH WITH HAHzoMEEMqyZAH",
     "qoAIN WITH JEEMzoMEEMqoGHAIN WITH JEEM#oMEEMqoFEH WITH JEEMzoHAHzoKHAHzoMEEMzoALEF MAKSURA",
     "zoYEHqoQAF WITH HAHzoMEEMzoALEF MAKSURAzoYEHqoKAF WITH ALEFzoJEEMzoHAHzoKHAHzoLAMzoMEEM",
     "zoALEF MAKSURAzoYEHqoLAM WITH JEEMzoHAHzoKHAHzoMEEMzoALEF MAKSURAzoYEHqoMEEM WITH JEEM",
     "!oHAH!oKHAH!oMEEM!oALEF MAKSURA!oYEHqoNOON WITH JEEM!oHAH!oKHAH!oMEEM!oALEF MAKSURA!oYEH",
     "qoHEH WITH JEEMzoMEEMzoALEF MAKSURAzoYEHqoYEH WITH JEEMzoHAHzoKHAHzoMEEMzoALEF MAKSURA",
     "zoYEHqoTHAL WITH SUPERSCRIPT ALEFq.REHq.ALEF MAKSURAqoSHADDA WITH DAMMATAN$oKASRATAN",
     "$oFATHA$oDAMMA$oKASRA$oSUPERSCRIPT ALEFqfYEH WITH HAMZA ABOVE WITH REH FINAL@lZAIN@lMEEM",
     "@lNOON@lALEF MAKSURA@lYEHqlBEH WITH REHzlZAINzlMEEMzlNOONzlALEF MAKSURAzlYEHqlTEH WITH REH",
     "zlZAINzlMEEMzlNOONzlALEF MAKSURAzlYEHrlHEH WITH REH!lZAIN!lMEEM!lNOON!lALEF MAKSURA!lYEH",
     "qlFEH WITH ALEF MAKSURAzlYEHqlQAF WITH ALEF MAKSURAzlYEHqlKAF WITH ALEFzlLAMzlMEEM",
     "zlALEF MAKSURAzlYEHqlLAM WITH MEEMzlALEF MAKSURAzlYEHqlMEEM WITH ALEF!lMEEMqlNOON WITH REH",
     "!lZAIN!lMEEM!lNOON!lALEF MAKSURA!lYEHqlALEF MAKSURA WITH SUPERSCRIPT ALEFqlYEH WITH REH",
     "zlZAINzlMEEMzlNOONzlALEF MAKSURAzlYEHzfHAMZA ABOVE WITH JEEM INITIAL@nHAH@nKHAH@nMEEM@nHEH",
     "qnBEH WITH JEEMznHAHznKHAHznMEEMznHEHqnTEH WITH JEEMznHAHznKHAHznMEEMznHEHrnHEH WITH MEEM",
     "qnJEEM WITH HAH!nMEEMqnHAH WITH JEEMznMEEMqnKHAH WITH JEEM!nMEEMqnSEEN WITH JEEM!nHAH",
     "!nKHAH!nMEEMrnAD WITH HAHznKHAHznMEEMqnDAD WITH JEEMznHAHznKHAHznMEEMqnTAH WITH HAH",
     "qnZAH WITH MEEMqnAIN WITH JEEMznMEEMqnGHAIN WITH JEEM#nMEEMqnFEH WITH JEEMznHAHznKHAH",
     "znMEEMqnQAF WITH HAHznMEEMqnKAF WITH JEEMznHAHznKHAHznLAMznMEEMqnLAM WITH JEEMznHAHznKHAH",
     "znMEEMznHEHqnMEEM WITH JEEM!nHAH!nKHAH!nMEEMqnNOON WITH JEEM!nHAH!nKHAH!nMEEM!nHEH",
     "qnHEH WITH JEEMznMEEMznSUPERSCRIPT ALEFqnYEH WITH JEEMznHAHznKHAHznMEEMznHEH",
     "!fAMZA ABOVE WITH MEEM MEDIAL@mHEHqmBEH WITH MEEMzmHEHqmTEH WITH MEEMzmHEHrmHEH WITH MEEM",
     "!mHEHqmSEEN WITH MEEM!mHEHrmHEEN WITH MEEM#mHEHqmKAF WITH LAMzmMEEMqwLAMqwNOON!mHEH",
     "qmYEH WITH MEEMzmHEHqmSHADDA WITH FATHA$mDAMMA$mKASRAqfTAH WITH ALEF MAKSURA ISOLATEDzoYEH",
     "qoAIN WITH ALEF MAKSURAzoYEHqoGHAIN WITH ALEF MAKSURA#oYEHqoSEEN WITH ALEF MAKSURA!oYEH",
     "roHEEN WITH ALEF MAKSURA#oYEHqoHAH WITH ALEF MAKSURAzoYEHqoJEEM WITH ALEF MAKSURA!oYEH",
     "qoKHAH WITH ALEF MAKSURA!oYEHqoSAD WITH ALEF MAKSURAzoYEHqoDAD WITH ALEF MAKSURAzoYEH",
     "qoSHEEN WITH JEEM#oHAH#oKHAH#oMEEM#oREHrxEENrxADqxDADqfTAH WITH ALEF MAKSURA FINALzlYEH",
     "qlAIN WITH ALEF MAKSURAzlYEHqlGHAIN WITH ALEF MAKSURA#lYEHqlSEEN WITH ALEF MAKSURA!lYEH",
     "rlHEEN WITH ALEF MAKSURA#lYEHqlHAH WITH ALEF MAKSURAzlYEHqlJEEM WITH ALEF MAKSURA!lYEH",
     "qlKHAH WITH ALEF MAKSURA!lYEHqlSAD WITH ALEF MAKSURAzlYEHqlDAD WITH ALEF MAKSURAzlYEH",
     "qlSHEEN WITH JEEM#lHAH#lKHAH#lMEEM#lREHruEENruADquDADqfSHEEN WITH JEEM INITIAL#nHAH#nKHAH",
     "#nMEEMrnEEN WITH HEHrwHEENqnTAH WITH MEEMqfSEEN WITH JEEM MEDIAL!mHAH!mKHAH",
     "rmHEEN WITH JEEM#mHAH#mKHAHqmTAH WITH MEEMqwZAHqfALEF WITH FATHATAN FINAL,fISOLATED",
     "aaORNATE LEFT PARENTHESIShmRIGHTaaARABIC LIGATURE RAHIMAHU ALLAAHsaDI ALLAAHU ANH)aAA)aUM",
     "+aAA*aNNAqaSALLALLAAHU ALAYHI WA-AALIHqaALAYHI AS-SALAAMwkMxkAAwh AS-SALAATU WAS",
     "qaQUDDISA SIRRAHqaSALLALLAHU ALAYHI WAAALIHEE WA-SALLAMqaALAYHAA AS-SALAAM",
     "qaTABAARAKA WA-TAAALAAqaRAHIMAHUM ALLAAHqaTEH WITH JEEM WITH MEEM INITIAL FORM",
     "zfHAH WITH JEEM FINAL<fINITIAL+nMEEMzxKHAHznMEEM WITH JEEM,nHAH,nKHAH",
     "qfJEEM WITH MEEM WITH HAH FINAL>fINITIALqfHAH WITH MEEM WITH YEH FINAL,lALEF MAKSURA",
     "qfSEEN WITH HAH WITH JEEM INITIAL!nJEEM WITH HAH.fALEF MAKSURA FINAL!lMEEM WITH HAH",
     ">fINITIAL.nJEEM.fMEEM FINAL?fINITIALrfAD WITH HAH WITH HAH FINAL;fINITIAL",
     "zfMEEM WITH MEEM FINALrvHEEN WITH HAH?fINITIAL#fJEEM WITH YEH FINAL#lMEEM WITH KHAH",
     "@fINITIAL:fMEEM FINAL@fINITIALqfDAD WITH HAH WITH ALEF MAKSURA FINALzlKHAH WITH MEEM",
     ">fINITIALqfTAH WITH MEEM WITH HAH FINAL<fINITIAL,nMEEM,fYEH FINALqlAIN WITH JEEM WITH MEEM",
     "zvMEEM>fINITIAL,fALEF MAKSURA FINALqlGHAIN WITH MEEM WITH MEEM:lYEH:lALEF MAKSURA",
     "qlFEH WITH KHAH WITH MEEM>fINITIALqfQAF WITH MEEM WITH HAH FINAL,lMEEMqvLAM WITH HAH+lYEH",
     "+lALEF MAKSURAzfJEEM WITH JEEM INITIAL>fFINALzlKHAH WITH MEEM>fINITIAL",
     "zfMEEM WITH HAH FINAL<fINITIALqnMEEM WITH HAH WITH JEEM,nMEEM,fYEH FINAL",
     "!fJEEM WITH HAH INITIAL.nMEEM!nKHAH WITH JEEM.nMEEM"]),
   (0xFD92, ["aaARABIC LIGATURE MEEM WITH JEEM WITH KHAH INITIAL FORMqnHEH WITH MEEM WITH JEEM",
     ",nMEEMqxNOON WITH HAH,fALEF MAKSURA FINAL!lJEEM WITH MEEM?fINITIAL.fALEF MAKSURA FINAL",
     "!lMEEM WITH YEH.lALEF MAKSURAqlYEH WITH MEEM WITH MEEM>fINITIAL",
     "qfBEH WITH KHAH WITH YEH FINALquTEH WITH JEEM,lALEF MAKSURAzlKHAH WITH YEH,lALEF MAKSURA",
     "zlMEEM WITH YEH,lALEF MAKSURAqlJEEM WITH MEEM WITH YEH!lHAH WITH ALEF MAKSURA!%MEEM",
     "q%SEEN WITH KHAHrlAD WITH HAH WITH YEHr%HEENq%DADquLAM WITH JEEMzuMEEMquYEH WITH HAHzuJEEM",
     "zuMEEMq&MEEMq&QAFquNOON WITH HAHqfQAF WITH MEEM WITH HAH INITIALqnLAM WITH HAH WITH MEEM",
     "qfAIN WITH MEEM WITH YEH FINALq&KAFqfNOON WITH JEEM WITH HAH INITIAL",
     "qfMEEM WITH KHAH WITH YEH FINALqfLAM WITH JEEM WITH MEEM INITIAL",
     "qfKAF WITH MEEM WITH MEEM FINALqvLAM WITH JEEMqlNOON WITH JEEM WITH HAH",
     "qlJEEM WITH HAH WITH YEHquHAH WITH JEEMq&MEEMquFEH WITH MEEMquBEH WITH HAH",
     "qfKAF WITH MEEM WITH MEEM INITIALqxAIN WITH JEEMqxSAD WITH MEEM",
     "rfEEN WITH KHAH WITH YEH FINALquNOON WITH JEEM"]),
   (0xFDCF, ["aaARABIC LIGATURE SALAAMUHU ALAYNAA"]),
   (0xFDF0, ["aaARABIC LIGATURE SALLA USED AS KORANIC STOP SIGN ISOLATED FORMq>QALAqoALLAHroKBAR",
     "qoMOHAMMADqoSALAMqoRASOULqoALAYHEqoWASALLAMqoSALLAvaLLAHOU ALAYHE WASALLAM",
     "qaJALLAJALALOUHOUaaRIAL SIGNaaARABIC LIGATURE BISMILLAH AR-RAHMAN AR-RAHEEM",
     "qaSUBHAANAHU WA TAAALAAqaAZZA WA JALLaaVARIATION SELECTOR-1ta2ta3ta4ta5ta6ta7ta8ta9ta10ua1",
     "ua2ua3ua4ua5ua6aaPRESENTATION FORM FOR VERTICAL COMMA(aIDEOGRAPHIC COMMA[aFULL STOP(aCOLON",
     "(aSEMICOLON(aEXCLAMATION MARK(fQUESTION(aLEFT WHITE LENTICULAR BRACKET",
     "(aRIGHT WHITE LENTICULAR BRAKCET(aHORIZONTAL ELLIPSIS"]),
   (0xFE20, ["aaCOMBINING LIGATURE LEFT HALFtfRIGHTkfDOUBLE TILDE LEFTxfRIGHTkfMACRON LEFT",
     "rfRIGHTkaCONJOINING MACRONkaLIGATURE LEFT HALF BELOWtlRIGHTklTILDE LEFTqlRIGHT",
     "klMACRON LEFTrlRIGHTkgCONJOINING MACRONlaYRILLIC TITLO LEFT HALFzfRIGHT",
     "aaPRESENTATION FORM FOR VERTICAL TWO DOT LEADER(aEM DASH)fN(aLOW LINE(fWAVY LOW",
     "(aLEFT PARENTHESIS(mRIGHT(aLEFT CURLY BRACKET(oRIGHT(iLEFT TORTOISE SHELL(xRIGHT",
     "(iLEFT BLACK LENTICULAR(zRIGHT(iLEFT DOUBLE ANGLE(vRIGHT(oLEFT(oRIGHT(iLEFT CORNER(pRIGHT",
     "(pLEFT WHITE(vRIGHTaaSESAME DOTaeWHITE SESAME",
     "aaPRESENTATION FORM FOR VERTICAL LEFT SQUARE BRACKET(pRIGHTaaDASHED OVERLINEajCENTRELINE",
     "ajWAVYajDOUBLE WAVYbaASHED LOW LINEajCENTRELINEajWAVYaaSMALL COMMAgaIDEOGRAPHIC COMMA",
     "gaFULL STOP"]),
   (0xFE54, ["aaSMALL SEMICOLONgaCOLONgaQUESTION MARKgfEXCLAMATIONhaM DASHgaLEFT PARENTHESIS",
     "gmRIGHTgaLEFT CURLY BRACKETgoRIGHTgiLEFT TORTOISE SHELLgxRIGHTgaNUMBER SIGNgaAMPERSAND",
     "haSTERISKgaPLUS SIGNgaHYPHEN-MINUSgaLESS-THAN SIGNgkGREATERgfEQUALS"]),
   (0xFE68, ["aaSMALL REVERSE SOLIDUSgaDOLLAR SIGNgfPERCENTgaCOMMERCIAL AT"]),
   (0xFE70, ["aaARABIC FATHATAN ISOLATED FORMhaTATWEEL WITH FATHATAN ABOVE",
     "haDAMMATAN ISOLATED FORMhaTAIL FRAGMENThaKASRATAN ISOLATED FORM"]),
   (0xFE76, ["aaARABIC FATHA ISOLATED FORMnfMEDIALhfDAMMA ISOLATEDnfMEDIALhfKASRA ISOLATED",
     "nfMEDIALhfSHADDA ISOLATEDofMEDIALifUKUN ISOLATEDnfMEDIALhfLETTER HAMZA ISOLATED",
     "ooALEF WITH MADDA ABOVE.fFINALyfHAMZA ABOVE ISOLATED.fFINALofWAW WITH HAMZA ABOVE ISOLATED",
     ",fFINALofALEF WITH HAMZA BELOW ISOLATED.fFINALofYEH WITH HAMZA ABOVE ISOLATED,fFINAL",
     ",fINITIAL,fMEDIALofALEF ISOLATEDtfFINALofBEH ISOLATEDsfFINALsfINITIALsfMEDIAL",
     "ofTEH MARBUTA ISOLATED!fFINALsfISOLATEDsfFINALsfINITIALsfMEDIALpfHEH ISOLATEDtfFINAL",
     "tfINITIALtfMEDIALofJEEM ISOLATEDtfFINALtfINITIALtfMEDIALofHAH ISOLATEDsfFINALsfINITIAL",
     "sfMEDIALofKHAH ISOLATEDtfFINALtfINITIALtfMEDIALofDAL ISOLATEDsfFINALofTHAL ISOLATEDtfFINAL",
     "ofREH ISOLATEDsfFINALofZAIN ISOLATEDtfFINALofSEEN ISOLATEDtfFINALtfINITIALtfMEDIAL",
     "pfHEEN ISOLATEDufFINALufINITIALufMEDIALpfAD ISOLATEDsfFINALsfINITIALsfMEDIALofDAD ISOLATED",
     "sfFINALsfINITIALsfMEDIALofTAH ISOLATEDsfFINALsfINITIALsfMEDIALofZAH ISOLATEDsfFINAL",
     "sfINITIALsfMEDIALofAIN ISOLATEDsfFINALsfINITIALsfMEDIALofGHAIN ISOLATEDufFINALufINITIAL",
     "ufMEDIALofFEH ISOLATEDsfFINALsfINITIALsfMEDIALofQAF ISOLATEDsfFINALsfINITIALsfMEDIAL",
     "ofKAF ISOLATEDsfFINALsfINITIALsfMEDIALofLAM ISOLATEDsfFINALsfINITIALsfMEDIAL",
     "ofMEEM ISOLATEDtfFINALtfINITIALtfMEDIALofNOON ISOLATEDtfFINALtfINITIALtfMEDIAL",
     "ofHEH ISOLATEDsfFINALsfINITIALsfMEDIALofWAW ISOLATEDsfFINALofALEF MAKSURA ISOLATED#fFINAL",
     "ofYEH ISOLATEDsfFINALsfINITIALsfMEDIALifIGATURE LAM WITH ALEF WITH MADDA ABOVE ISOLATED",
     "|fFINAL,fHAMZA ABOVE ISOLATED|fFINAL?fBELOW ISOLATED|fFINAL&fISOLATED&fFINAL"]),
   (0xFEFF, ["aaZERO WIDTH NO-BREAK SPACE"]),
   (0xFF01, ["aaFULLWIDTH EXCLAMATION MARKkfQUOTATIONkaNUMBER SIGNkfDOLLARkfPERCENTkaAMPERSAND",
     "laPOSTROPHEkaLEFT PARENTHESISkmRIGHTkaASTERISKkaPLUS SIGNkaCOMMAkaHYPHEN-MINUSkaFULL STOP",
     "kaSOLIDUSkaDIGIT ZEROqaONEqaTWOraHREEqaFOURraIVEqaSIXraEVENqaEIGHTqaNINEkaCOLONkaSEMICOLON",
     "kaLESS-THAN SIGNkfEQUALSkfGREATER-THANkaQUESTION MARKkaCOMMERCIAL AT",
     "kaLATIN CAPITAL LETTER A(aB(aC(aD(aE(aF(aG(aH(aI(aJ(aK(aL(aM(aN(aO(aP(aQ(aR(aS(aT(aU(aV(aW",
     "(aX(aY(aZlaEFT SQUARE BRACKETkaREVERSE SOLIDUSlaIGHT SQUARE BRACKETkaCIRCUMFLEX ACCENT",
     "kaLOW LINEkaGRAVE ACCENTkaLATIN SMALL LETTER A%aB%aC%aD%aE%aF%aG%aH%aI%aJ%aK%aL%aM%aN%aO",
     "%aP%aQ%aR%aS%aT%aU%aV%aW%aX%aY%aZlaEFT CURLY BRACKETkaVERTICAL LINEkaRIGHT CURLY BRACKET",
     "kaTILDEkaLEFT WHITE PARENTHESISksRIGHTaaHALFWIDTH IDEOGRAPHIC FULL STOP",
     "kaLEFT CORNER BRACKETkpRIGHTkaIDEOGRAPHIC COMMAkaKATAKANA MIDDLE DOTtaLETTER WO!aSMALL A",
     ")aI)aU)aE)aO)aYA*aU*aO)aTUsa-HIRAGANA PROLONGED SOUND MARKsa LETTER A!aI!aU!aE!aO!aKA#aI",
     "#aU#aE#aO!aSA#aI#aU#aE#aO!aTA#aI#aU#aE#aO!aNA#aI#aU#aE#aO!aHA#aI#aU#aE#aO!aMA#aI#aU#aE#aO",
     "!aYA#aU#aO!aRA#aI#aU#aE#aO!aWA!aNtaVOICED SOUND MARKtlSEMI-VOICEDkaHANGUL FILLER",
     "raLETTER KIYEOKyaSSANGKIYEOKyaKIYEOK-SIOSyaNIEUN%a-CIEUC&aHIEUHyaTIKEUTyaSSANGTIKEUT",
     "yaRIEUL%a-KIYEOK&aMIEUM&aPIEUP&aSIOS&aTHIEUTH&aPHIEUPH&aHIEUHyaMIEUMyaPIEUPyaSSANGPIEUP",
     "yaPIEUP-SIOSyaSIOSzaSANGSIOSyaIEUNGyaCIEUCyaSSANGCIEUCyaCHIEUCHyaKHIEUKHyaTHIEUTHyaPHIEUPH",
     "yaHIEUH"]),
   (0xFFC2, ["aaHALFWIDTH HANGUL LETTER AzaEyaYA!aEyaEOza"]),
   (0xFFCA, ["aaHALFWIDTH HANGUL LETTER YEO!ayaOyaWA!aEyaOE"]),
   (0xFFD2, ["aaHALFWIDTH HANGUL LETTER YOyaUyaWEO!azaIyaYU"]),
   (0xFFDA, ["aaHALFWIDTH HANGUL LETTER EUyaYIyaI"]),
   (0xFFE0, ["aaFULLWIDTH CENT SIGNkfPOUNDkfNOTkaMACRONkaBROKEN BARkaYEN SIGNkfWON"]),
   (0xFFE8, ["aaHALFWIDTH FORMS LIGHT VERTICALkaLEFTWARDS ARROWkgUPWARDSkgRIGHTWARDSkgDOWNWARDS",
     "kaBLACK SQUAREkaWHITE CIRCLE"]),
   (0xFFF9, ["aaINTERLINEAR ANNOTATION ANCHORxaSEPARATORxaTERMINATOR",
     "aaOBJECT REPLACEMENT CHARACTERakREPLACEMENT"])]

end Intake.Text
