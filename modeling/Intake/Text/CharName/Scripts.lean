import Intake.Text.CharName.Basic

/-!
# Names of characters: U+1000 to U+1FFF

The names of the scripts of South-East Asia, Africa and America, and the older letters of Greek.

## Main definitions

* `scriptNames` — the runs of names.
-/

namespace Intake.Text

/-- The names of the characters U+1000 to U+1FFF. -/
def scriptNames : List NameRun :=
  [(0x1000, ["aaMYANMAR LETTER KAqaHApaGAqaHApaNGApaCAqaHApaJAqaHApaNYAqaNYApaTTAraHApaDDAraHA",
     "paNNApaTAqaHApaDAqaHApaNApaPAqaHApaBAqaHApaMApaYApaRApaLApaWApaSApaHApaLLApaApaSHAN ApaI",
     "qaIpaUqaUpaEpaMON EpaOpaAUiaVOWEL SIGN TALL AAtaAAtaIuaItaUuaUtaEtaAItaMON IIxaOtaE ABOVE",
     "iaSIGN ANUSVARAnaDOT BELOWnaVISARGApaRAMAnaASATiaCONSONANT SIGN MEDIAL YA&aRA&aWA&aHA",
     "iaLETTER GREAT SAiaDIGIT ZEROoaONEoaTWOpaHREEoaFOURpaIVEoaSIXpaEVENoaEIGHToaNINE",
     "iaSIGN LITTLE SECTIONnaSECTIONjaYMBOL LOCATIVEpaCOMPLETEDpaAFOREMENTIONEDpaGENITIVE",
     "iaLETTER SHAqaSApaVOCALIC RyaRxaLyaLiaVOWEL SIGN VOCALIC R$aR#aL$aLiaLETTER MON NGAtaJHA",
     "taBBAvaEiaCONSONANT SIGN MON MEDIAL NA+aMA+aLAiaLETTER SGAW KAREN SHA",
     "iaVOWEL SIGN SGAW KAREN EUiaTONE MARK SGAW KAREN HATHI%aKE PHO",
     "iaLETTER WESTERN PWO KAREN THA*aPWAiaVOWEL SIGN WESTERN PWO KAREN EU:aUE",
     "iaSIGN WESTERN PWO KAREN TONE-1.a2.a3.a4.a5iaLETTER EASTERN PWO KAREN NNA*aYWA*aGHWA",
     "iaVOWEL SIGN GEBA KAREN ItaKAYAH OEzaUzaEEiaLETTER SHAN KAvaHAuaGAuaCAuaZAuaNYAuaDAuaNA",
     "uaPHAuaFAuaBAuaTHAuaHAiaCONSONANT SIGN SHAN MEDIAL WAiaVOWEL SIGN SHAN AAyaEza ABOVE",
     "yaFINAL YiaSIGN SHAN TONE-2xa3xa5xa6saCOUNCIL TONE-2(a3!aEMPHATIC TONE",
     "iaLETTER RUMAI PALAUNG FAiaSIGN RUMAI PALAUNG TONE-5jaHAN DIGIT ZEROtaONEtaTWOuaHREEtaFOUR",
     "uaIVEtaSIXuaEVENtaEIGHTtaNINEjaIGN KHAMTI TONE-1za3iaVOWEL SIGN AITON A!aI",
     "iaSYMBOL SHAN ONEuaEXCLAMATIONaaGEORGIAN CAPITAL LETTER ANyaBANyaGANyaDONyaENyaVINyaZEN",
     "yaTANyaINyaKANyaLASyaMANyaNARyaONyaPARyaZHARyaRAEyaSANyaTARyaUNyaPHARyaKHARyaGHANyaQAR",
     "yaSHINyaCHINzaANyaJILyaCILzaHARyaXANyaJHANyaHAEzaEzaIEyaWEyaHARzaOE"]),
   (0x10C7, ["aaGEORGIAN CAPITAL LETTER YN"]),
   (0x10CD, ["aaGEORGIAN CAPITAL LETTER AEN"]),
   (0x10D0, ["aaGEORGIAN LETTER ANqaBANqaGANqaDONqaENqaVINqaZENqaTANqaINqaKANqaLASqaMANqaNARqaON",
     "qaPARqaZHARqaRAEqaSANqaTARqaUNqaPHARqaKHARqaGHANqaQARqaSHINqaCHINraANqaJILqaCILraHARqaXAN",
     "qaJHANqaHAEraEraIEqaWEqaHARraOEqaFIqaYNqaELIFIqaTURNED GANqaAINjaPARAGRAPH SEPARATOR",
     "aaMODIFIER LETTER GEORGIAN NARaaGEORGIAN LETTER AENqaHARD SIGNqfLABIAL",
     "aaHANGUL CHOSEONG KIYEOKqaSSANGKIYEOKqaNIEUNqaTIKEUTqaSSANGTIKEUTqaRIEULqaMIEUMqaPIEUP",
     "qaSSANGPIEUPraIOSraSANGSIOSqaIEUNGqaCIEUCqaSSANGCIEUCqaCHIEUCHqaKHIEUKHqaTHIEUTHqaPHIEUPH",
     "qaHIEUHqaNIEUN-KIYEOKqaSSANGNIEUNqaNIEUN-TIKEUTwaPIEUPqaTIKEUT-KIYEOKqaRIEUL-NIEUN",
     "qaSSANGRIEULqaRIEUL-HIEUHqaKAPYEOUNRIEULqaMIEUM-PIEUPqaKAPYEOUNMIEUMqaPIEUP-KIYEOKwaNIEUN",
     "waTIKEUTwaSIOS!a-KIYEOK#aTIKEUT#aPIEUPxaSANGSIOSxaIOS-CIEUCwaCIEUCxaHIEUCHwaTHIEUTH",
     "waPHIEUPHqaKAPYEOUNPIEUPyaSSANGPIEUPqaSIOS-KIYEOKvaNIEUNvaTIKEUTvaRIEULvaMIEUMvaPIEUP",
     "!a-KIYEOKvaSSANGSIOSvaIEUNGvaCIEUCwaHIEUCHvaKHIEUKHvaTHIEUTHvaPHIEUPHvaHIEUHqaCHITUEUMSIOS",
     "zaSANGSIOSraEONGCHIEUMSIOS$aSANGSIOSqaPANSIOSqaIEUNG-KIYEOKwaTIKEUTwaMIEUMwaPIEUPwaSIOS",
     "waPANSIOSqaSSANGIEUNGqaIEUNG-CIEUCxaHIEUCHwaTHIEUTHwaPHIEUPHqaYESIEUNGqaCIEUC-IEUNG",
     "raHITUEUMCIEUCyaSSANGCIEUCraEONGCHIEUMCIEUC#aSSANGCIEUCraHIEUCH-KHIEUKHyaHIEUH",
     "taTUEUMCHIEUCHraEONGCHIEUMCHIEUCHqaPHIEUPH-PIEUPqaKAPYEOUNPHIEUPHqaSSANGHIEUHqaYEORINHIEUH",
     "qaKIYEOK-TIKEUTqaNIEUN-SIOSwaCIEUCwaHIEUHqaTIKEUT-RIEULqaFILLERhhJUNGSEONGraAsaEraYAtaE",
     "raEOsaraYEOtaraOraWAtaEraOEraYOraUraWEOtasaIraYUraEUraYIraIraA-OtaUraYA-OuaYOraEO-OuaUuaEU",
     "raYEO-OvaUraO-EOuataYEtaOtaUraYO-YAwaEvaEOuaOuaIraU-AuaEtaEO-EUtaYEtaUraYU-AuaEOvauaYEOwa",
     "uaUuaIraEU-UuaEUraYI-UraI-AtaYAtaOtaUtaEUtaARAEAraARAEAwa-EOxaUxaIraSSANGARAEAraA-EUraYA-U",
     "saEO-YArdOvaEiaONGSEONG KIYEOKraSSANGKIYEOKraKIYEOK-SIOSraNIEUNwa-CIEUCxaHIEUHraTIKEUT",
     "raRIEULwa-KIYEOKxaMIEUMxaPIEUPxaSIOSxaTHIEUTHxaPHIEUPHxaHIEUHraMIEUMraPIEUPwa-SIOSraSIOS",
     "saSANGSIOSraIEUNGraCIEUCsaHIEUCHraKHIEUKHraTHIEUTHraPHIEUPHraHIEUHraKIYEOK-RIEUL",
     "yaSIOS-KIYEOKrhNIEUNxaTIKEUTxaSIOSxaPANSIOSxaTHIEUTHraTIKEUT-KIYEOKyaRIEUL",
     "raRIEUL-KIYEOK-SIOSxaNIEUNxaTIKEUT%a-HIEUHraSSANGRIEULraRIEUL-MIEUM-KIYEOK%aSIOSxfPIEUP",
     "%aHIEUHxaKAPYEOUNPIEUPxaSSANGSIOSxaPANSIOSxaKHIEUKHxaYEORINHIEUHraMIEUM-KIYEOKxaRIEUL",
     "xaPIEUPxaSIOSyaSANGSIOSxaPANSIOSxaCHIEUCHxaHIEUHraKAPYEOUNMIEUMraPIEUP-RIEULxaPHIEUPH",
     "xaHIEUHraKAPYEOUNPIEUPraSIOS-KIYEOKwaTIKEUTwaRIEULwaPIEUPraPANSIOSraIEUNG-KIYEOK",
     "xaSSANGKIYEOKraSSANGIEUNGraIEUNG-KHIEUKHraYESIEUNGza-SIOS!aPANSIOSraPHIEUPH-PIEUP",
     "raKAPYEOUNPHIEUPHraHIEUH-NIEUNxaRIEULxaMIEUMxaPIEUPraYEORINHIEUHraKIYEOK-NIEUNyaPIEUP",
     "yaCHIEUCHyaKHIEUKHyaHIEUHraSSANGNIEUNaaETHIOPIC SYLLABLE HAtaUtaItaAAtaEEuataOuaAsaLAtaU",
     "taItaAAtaEEuataOtaWAsaHHAuaUuaIuaAAuaEEvauaOuaWAsaMAtaUtaItaAAtaEEuataOtaWAsaSZAuaUuaIuaAA",
     "uaEEvauaOuaWAsaRAtaUtaItaAAtaEEuataOtaWAsaSAtaUtaItaAAtaEEuataOtaWAtaHAuaUuaIuaAAuaEEvauaO",
     "uaWAsaQAtaUtaItaAAtaEEuataOuaAtaWA"]),
   (0x124A, ["aaETHIOPIC SYLLABLE QWIuaAAuaEEva"]),
   (0x1250, ["aaETHIOPIC SYLLABLE QHAuaUuaIuaAAuaEEvauaO"]),
   (0x1258, ["aaETHIOPIC SYLLABLE QHWA"]),
   (0x125A, ["aaETHIOPIC SYLLABLE QHWIvaAAvaEEwa"]),
   (0x1260, ["aaETHIOPIC SYLLABLE BAtaUtaItaAAtaEEuataOtaWAsaVAtaUtaItaAAtaEEuataOtaWAsaTAtaUtaI",
     "taAAtaEEuataOtaWAsaCAtaUtaItaAAtaEEuataOtaWAsaXAtaUtaItaAAtaEEuataOuaAtaWA"]),
   (0x128A, ["aaETHIOPIC SYLLABLE XWIuaAAuaEEva"]),
   (0x1290, ["aaETHIOPIC SYLLABLE NAtaUtaItaAAtaEEuataOtaWAtaYAuaUuaIuaAAuaEEvauaOuaWA",
     "saGLOTTAL A!aU!aI!aAA!aEE#a!aO!aWAsaKAtaUtaItaAAtaEEuataOuaAtaWA"]),
   (0x12B2, ["aaETHIOPIC SYLLABLE KWIuaAAuaEEva"]),
   (0x12B8, ["aaETHIOPIC SYLLABLE KXAuaUuaIuaAAuaEEvauaO"]),
   (0x12C0, ["aaETHIOPIC SYLLABLE KXWA"]),
   (0x12C2, ["aaETHIOPIC SYLLABLE KXWIvaAAvaEEwa"]),
   (0x12C8, ["aaETHIOPIC SYLLABLE WAtaUtaItaAAtaEEuataOuaAsaPHARYNGEAL A%aU%aI%aAA%aEE&a%aO"]),
   (0x12D8, ["aaETHIOPIC SYLLABLE ZAtaUtaItaAAtaEEuataOtaWAtaHAuaUuaIuaAAuaEEvauaOuaWAsaYAtaUtaI",
     "taAAtaEEuataOuaAsaDAtaUtaItaAAtaEEuataOtaWAtaDAuaUuaIuaAAuaEEvauaOuaWAsaJAtaUtaItaAAtaEEua",
     "taOtaWAsaGAtaUtaItaAAtaEEuataOuaAtaWA"]),
   (0x1312, ["aaETHIOPIC SYLLABLE GWIuaAAuaEEva"]),
   (0x1318, ["aaETHIOPIC SYLLABLE GGAuaUuaIuaAAuaEEvauaOuaWAAsaTHAuaUuaIuaAAuaEEvauaOuaWAsaCHA",
     "uaUuaIuaAAuaEEvauaOuaWAsaPHAuaUuaIuaAAuaEEvauaOuaWAsaTSAuaUuaIuaAAuaEEvauaOuaWAtaZAuaUuaI",
     "uaAAuaEEvauaOvaAsaFAtaUtaItaAAtaEEuataOtaWAsaPAtaUtaItaAAtaEEuataOtaWAsaRYAsaMYAsaFYA"]),
   (0x135D, ["aaETHIOPIC COMBINING GEMINATION AND VOWEL LENGTH MARKtmVOWELtfGEMINATIONjfSECTION",
     "jaWORDSPACEjaFULL STOPjaCOMMAjaSEMICOLONjaCOLONjaPREFACE COLONjaQUESTION MARK",
     "jaPARAGRAPH SEPARATORjaDIGIT ONEpaTWOqaHREEpaFOURqaIVEpaSIXqaEVENpaEIGHTpaNINEjaNUMBER TEN",
     "raWENTYraHIRTYqaFORTYraIFTYqaSIXTYraEVENTYqaEIGHTYqaNINETYqaHUNDREDqaTEN THOUSAND"]),
   (0x1380, ["aaETHIOPIC SYLLABLE SEBATBEIT MWAsaMWIuaEEvasaSEBATBEIT BWAsaBWIuaEEva",
     "saSEBATBEIT FWAsaFWIuaEEvasaSEBATBEIT PWAsaPWIuaEEvajaTONAL MARK YIZETuaDERETuaRIKRIK",
     "uaSHORT RIKRIKuaDIFATuaKENATuaCHIRETuaHIDETuaDERET-HIDETuaKURT"]),
   (0x13A0, ["aaCHEROKEE LETTER AqaEqaIqaOqaUqaVqaGAqaKAqaGEraIraOraUraVqaHAraEraIraOraUraVqaLA",
     "raEraIraOraUraVqaMAraEraIraOraUqaNAqaHNAqaNAHraEraIraOraUraVqaQUAsaEsaIsaOsaUsaVqaSAraraE",
     "raIraOraUraVqaDAqaTAqaDEqaTEqaDIqaTIqaDOraUraVraLAqaTLAsaEsaIsaOsaUsaVraSAsaEsaIsaOsaUsaV",
     "qaWAraEraIraOraUraVqaYAraEraIraOraUraVqaMV"]),
   (0x13F8, ["aaCHEROKEE SMALL LETTER YExaIxaOxaUxaVwaMV"]),
   (0x1400, ["aaCANADIAN SYLLABICS HYPHENtaEtaAAItaIuaItaOuaOtaY-CREE OOtaCARRIER EE#aItaAuaA",
     "taWEvaST-CREE WEuaIuaEST-CREE WIuaIIuaEST-CREE WIIuaOuaEST-CREE WOuaOOuaEST-CREE WOO",
     "teNASKAPItaWAuaEST-CREE WAuaAAuaEST-CREE WAAteNASKAPItaAItaY-CREE WtaGLOTTAL STOP",
     "taFINAL ACUTEzaGRAVEzaBOTTOM HALF RINGzkTOPzkRIGHT#aNGzaDOUBLE ACUTE",
     ")aSHORT VERTICAL STROKESzaMIDDLE DOTzaSHORT HORIZONTAL STROKEzaPLUSzaDOWN TACKtaENtaINtaON",
     "taANtaPEuaAAIuaIvaIuaOvaOtaY-CREE POOtaCARRIER HEE$aItaPAvaAuaWEtaWEST-CREE PWEtaPWI",
     "taWEST-CREE PWItaPWIItaWEST-CREE PWIItaPWOtaWEST-CREE PWOtaPWOOtaWEST-CREE PWOOtaPWA",
     "taWEST-CREE PWAtaPWAAtaWEST-CREE PWAAtkYtaPtaWEST-CREE PtaCARRIER HtaTEuaAAIuaIvaIuaOvaO",
     "taY-CREE TOOtaCARRIER DEE$aItaTAvaAuaWEtaWEST-CREE TWEtaTWItaWEST-CREE TWItaTWII",
     "taWEST-CREE TWIItaTWOtaWEST-CREE TWOtaTWOOtaWEST-CREE TWOOtaTWAtaWEST-CREE TWAtaTWAA",
     "taWEST-CREE TWAAtfNASKAPItaTuaTEvaIvaOvaAtaKEuaAAIuaIvaIuaOvaOtaY-CREE KOOtaKAvaAuaWE",
     "taWEST-CREE KWEtaKWItaWEST-CREE KWItaKWIItaWEST-CREE KWIItaKWOtaWEST-CREE KWOtaKWOO",
     "taWEST-CREE KWOOtaKWAtaWEST-CREE KWAtaKWAAtaWEST-CREE KWAAtfNASKAPItaKuaW",
     "taSOUTH-SLAVEY KEH*aIH*aOH*aAHtaCEuaAAIuaIvaIuaOvaOtaY-CREE COOtaCAvaAuaWEtaWEST-CREE CWE",
     "taCWItaWEST-CREE CWItaCWIItaWEST-CREE CWIItaCWOtaWEST-CREE CWOtaCWOOtaWEST-CREE CWOOtaCWA",
     "taWEST-CREE CWAtaCWAAtaWEST-CREE CWAAtfNASKAPItaCtaSAYISI THtaMEuaAAIuaIvaIuaOvaO",
     "taY-CREE MOOtaMAvaAuaWEtaWEST-CREE MWEtaMWItaWEST-CREE MWItaMWIItaWEST-CREE MWIItaMWO",
     "taWEST-CREE MWOtaMWOOtaWEST-CREE MWOOtaMWAtaWEST-CREE MWAtaMWAAtaWEST-CREE MWAAtfNASKAPI",
     "taMtaWEST-CREE MtaMHtaATHAPASCAN MtcSAYISItaNEuaAAIuaIvaIuaOvaOtaY-CREE NOOtaNAvaAuaWE",
     "taWEST-CREE NWEtaNWAtaWEST-CREE NWAtaNWAAtaWEST-CREE NWAAtfNASKAPIuataCARRIER NGtaNHtaLE",
     "uaAAIuaIvaIuaOvaOtaY-CREE LOOtaLAvaAuaWEtaWEST-CREE LWEtaLWItaWEST-CREE LWItaLWII",
     "taWEST-CREE LWIItaLWOtaWEST-CREE LWOtaLWOOtaWEST-CREE LWOOtaLWAtaWEST-CREE LWAtaLWAA",
     "taWEST-CREE LWAAtaLtaWEST-CREE LtcMEDIALtaSEuaAAIuaIvaIuaOvaOtaY-CREE SOOtaSAvaAuaWE",
     "taWEST-CREE SWEtaSWItaWEST-CREE SWItaSWIItaWEST-CREE SWIItaSWOtaWEST-CREE SWOtaSWOO",
     "taWEST-CREE SWOOtaSWAtaWEST-CREE SWAtaSWAAtaWEST-CREE SWAAtfNASKAPItaStaATHAPASCAN StaSW",
     "taBLACKFOOT StaMOOSE-CREE SKtaNASKAPI SKW$a-W$aPWA$aTWA$aKWA$aCWAtaSHEvaIwaIvaOwaOvaAwaA",
     "vaWEtaWEST-CREE SHWEtaSHWItaWEST-CREE SHWItaSHWIItaWEST-CREE SHWIItaSHWOtaWEST-CREE SHWO",
     "taSHWOOtaWEST-CREE SHWOOtaSHWAtaWEST-CREE SHWAtaSHWAAtaWEST-CREE SHWAAtaSHtaYEuaAAIuaIvaI",
     "uaOvaOua-CREE YOOuaAvaAuaWEtaWEST-CREE YWEtaYWItaWEST-CREE YWItaYWIItaWEST-CREE YWIItaYWO",
     "taWEST-CREE YWOtaYWOOtaWEST-CREE YWOOtaYWAtaWEST-CREE YWAtaYWAAtaWEST-CREE YWAAtfNASKAPI",
     "taYtaBIBLE-CREE YthWESTtaSAYISI YItaREua-CREE REtaWEST-CREE LEtaRAAIuaIvaIuaOvaO",
     "taWEST-CREE LOtaRAvaAtaWEST-CREE LAtaRWAAtaWEST-CREE RWAAtaRtaWEST-CREE RtcMEDIALtaFEuaAAI",
     "uaIvaIuaOvaOuaAvaAuaWAAtaWEST-CREE FWAAtaFtaTHEtaN-CREE THEtaTHItaN-CREE THItaTHII",
     "taN-CREE THIItaTHOwaOvaAwaAvaWAAtaWEST-CREE THWAAtaTHuaTHEwaIwaOwaAwauaYEvaIvaOvaA",
     "taNUNAVIK HE$aI%aI$aO%aO$aA%aA$aycUTtaHKtaQAAIuaIvaIuaOvaOuaAvaAuataTLHEwaIwaOwaA",
     "taWEST-CREE RE&aI&aO&aAtaNGAAIvaIwaIvaOwaOvaAwaAvauaNGtaSAYISI SHE$aI$aO$aA",
     "taWOODS-CREE THE)aI)aO)aA)ataLHIwaIvaOwaOvaAwaAvataTH-CREE THE%aI&aI%aO&aO%aA&aA%a",
     "taAIVILIK BtaBLACKFOOT E%aI%aO%aA%aWE&aI&aO&aA%aNE&aI&aO&aA%aKE&aI&aO&aAtaSAYISI HE#aI#aO",
     "#aAtaCARRIER GHU%aO%aE&aE%aI%aA#aRU$aO$aE%aE$aI$aA#aWU$aO$aE%aE$aI$aA#aHWU%aO%aE&aE%aI%aA",
     "#aTHU%aO%aE&aE%aI%aA$aTU%aO%aE&aE%aI%aA#aPU$aO$aE%aE$aI$aA$a#aGU$aO$aE%aE$aI$aA#aKHU%aO%aE",
     "&aE%aI%aA$aKU%aO%aE&aE%aI%aA%a#aNU$aO$aE%aE$aI$aA#aMU$aO$aE%aE$aI$aA#aYU$aO$aE%aE$aI$aA",
     "#aJUtdSAYISItaCARRIER JO$aE%aE$aItdSAYISItaCARRIER JA$aJU%aO%aE&aE%aI%aA#aLU$aO$aE%aE$aI",
     "$aA#aDLU%aO%aE&aE%aI%aA#aLHU%aO%aE&aE%aI%aA#aTLHU&aO&aE(aE&aI&aA%aU%aO%aE&aE%aI%aA#aZU$aO",
     "$aE%aE$aI$aA$a#aINITIAL Z#aDZU%aO%aE&aE%aI%aA#aSU$aO$aE%aE$aI$aA$aHU%aO%aE&aE%aI%aA%a#aTSU",
     "%aO%aE&aE%aI%aA#aCHU%aO%aE&aE%aI%aA#aTTSU&aO&aE(aE&aI&aAuaHI SIGNtaFULL STOPtaQAItaNGAI",
     "uaNGIxaIwaOxaOwaAxaAtaWOODS-CREE THWEE*aI+aI*aO+aO*aA+aA&aFINAL THtaBLACKFOOT W",
     "aaOGHAM SPACE MARKgaLETTER BEITHnaLUISnaFEARNnaSAILnaNIONnaUATHnaDAIRnaTINNEnaCOLLoaEIRT",
     "naMUINnaGORTnaNGEADALnaSTRAIFnaRUISnaAILMnaONNnaURnaEADHADHnaIODHADHnaEABHADHnaOR",
     "naUILLEANNnaIFINnaEAMHANCHOLLnaPEITHgaFEATHER MARKgfREVERSED FEATHER"]),
   (0x16A0, ["aaRUNIC LETTER FEHU FEOH FE FnaVnaURUZ UR UnaYRoanaWnaTHURISAZ THURS THORNnaETH",
     "naANSUZ AnaOS OnaAC AoaESCnaLONG-BRANCH-OSS OngSHORT-TWIGnaOoaEoaNnaRAIDO RAD REID R",
     "naKAUNAnaCENnaKAUN KnaGnaENGnaGEBO GYFU GoaARnaWUNJO WYNN WnaHAGLAZ HpcEGL",
     "ncLONG-BRANCH-HAGALLnjSHORT-TWIGnaNAUDIZ NYD NAUD NncSHORT-TWIG-NAUDnaDOTTED-N",
     "naISAZ IS ISS InaEnaJERAN JnaGERnaLONG-BRANCH-AR AEnaSHORT-TWIG-AR AnaIWAZ EOH",
     "naPERTHO PEORTH PnaALGIZ EOLHXnaSOWILO SocIGEL LONG-BRANCH-SOLogHORT-TWIGnaCnaZ",
     "naTIWAZ TIR TYR TncSHORT-TWIG-TYRnaDnaBERKANAN BEORC BJARKAN BncSHORT-TWIG-BJARKAN",
     "naDOTTED-PncOPENnaEHWAZ EH EnaMANNAZ MAN MncLONG-BRANCH-MADRnhSHORT-TWIG",
     "naLAUKAZ LAGU LOGR LnaDOTTED-LnaINGWAZqanaDAGAZ DAEG DnaOTHALAN ETHEL OnaEARnaIORnaCWEORTH",
     "oaALCoaEALCnaSTANnaLONG-BRANCH-YRndSHORT-TWIGndICELANDICnaQnaXgaSINGLE PUNCTUATION",
     "gmMULTIPLEgmCROSSgaARLAUG SYMBOLghTVIMADURghBELGTHORgaLETTER KnaSHnaOOnaFRANKS CASKET OS",
     "#aIS#aEH#aAC$aESC"]),
   (0x1700, ["aaTAGALOG LETTER ApaIpaUpaKApaGApaNGApaTApaDApaNApaPApaBApaMApaYApaRApaLApaWApaSA",
     "paHAiaVOWEL SIGN ItaUiaSIGN VIRAMAnaPAMUDPOD"]),
   (0x171F, ["aaTAGALOG LETTER ARCHAIC RAaaHANUNOO LETTER ApaIpaUpaKApaGApaNGApaTApaDApaNApaPA",
     "paBApaMApaYApaRApaLApaWApaSApaHAiaVOWEL SIGN ItaUiaSIGN PAMUDPOD",
     "aaPHILIPPINE SINGLE PUNCTUATIONlmDOUBLE"]),
   (0x1740, ["aaBUHID LETTER AnaInaUnaKAnaGAnaNGAnaTAnaDAnaNAnaPAnaBAnaMAnaYAnaRAnaLAnaWAnaSA",
     "naHAgaVOWEL SIGN IraU"]),
   (0x1760, ["aaTAGBANWA LETTER AqaIqaUqaKAqaGAqaNGAqaTAqaDAqaNAqaPAqaBAqaMAqaYA"]),
   (0x176E, ["aaTAGBANWA LETTER LAqaWAqaSA"]),
   (0x1772, ["aaTAGBANWA VOWEL SIGN IuaU"]),
   (0x1780, ["aaKHMER LETTER KAoaHAoaOoaHOnaNGOnaCAoaHAoaOoaHOnaNYOnaDAnaTTHAnaDOnaTTHOnaNNOnaTA",
     "oaHAoaOoaHOnaNOnaBAnaPHAoaOoaHOnaMOnaYOnaROnaLOnaVOnaSHAoaSOoaAnaHAnaLAnaQA",
     "gaINDEPENDENT VOWEL QAQ!aAzaI!aIzaU!aK!aU#aVyaRY!aYyaLY!aYyaQEzaAIzaOO TYPE ONE*aTWOzaAU",
     "gaVOWEL INHERENT AQwaAmdSIGNraIsaIraYsaYraUsaUsaAraOEraYAraIEraEraAEsaIraOOraAU",
     "gaSIGN NIKAHITlaREAHMUKlaYUUKALEAPINTUlaMUUSIKATOANlaTRIISAPlaBANTOClaROBATlaTOANDAKHIAT",
     "laKAKABATlaAHSDAlaSAMYOK SANNYAlaVIRIAMlaCOENGlaBATHAMASATlaKHANlaBARIYOOSAN",
     "laCAMNUC PII KUUHlaLEK TOOlaBEYYALlaPHNAEK MUANlaKOOMUUTgaCURRENCY SYMBOL RIEL",
     "gaSIGN AVAKRAHASANYAmaTTHACAN"]),
   (0x17E0, ["aaKHMER DIGIT ZEROmaONEmaTWOnaHREEmaFOURnaIVEmaSIXnaEVENmaEIGHTmaNINE"]),
   (0x17F0, ["aaKHMER SYMBOL LEK ATTAK SONxaMUOYxaPIIxaBEIyaUONxaPRAM#a-MUOY$aPII$aBEI%aUON"]),
   (0x1800, ["aaMONGOLIAN BIRGAkaELLIPSISkaCOMMAkaFULL STOPkaCOLONkaFOUR DOTSkaTODO SOFT HYPHEN",
     "kaSIBE SYLLABLE BOUNDARY MARKERkaMANCHU COMMAraFULL STOPkaNIRUGU",
     "kaFREE VARIATION SELECTOR ONE+aTWO,aHREEkaVOWEL SEPARATORkaFREE VARIATION SELECTOR FOUR",
     "kaDIGIT ZEROqaONEqaTWOraHREEqaFOURraIVEqaSIXraEVENqaEIGHTqaNINE"]),
   (0x1820, ["aaMONGOLIAN LETTER AraEraIraOraUraOEraUEraEEraNAraANGraBAraPAraQAraGAraMAraLAraSA",
     "saHAraTAraDAraCHAraJAraYAraRAraWAraFAraKAsaHAraTSAraZAraHAAraZRAraLHAraZHIraCHI",
     "raTODO LONG VOWEL SIGNwaEwaIwaOwaUwaOEwaUEwaANGwaBAwaPAwaQAwaGAwaMAwaTAwaDAwaCHAwaJAwaTSA",
     "waYAwaWAwaKAwaGAAwaHAAwaJIAwaNIAwaDZAraSIBE EwaIxaYwaUExawaANGwaKAwaGAwaHAwaPAwaSHAwaTA",
     "waDAwaJAwaFAwaGAAwaHAAwaTSAwaZAwaRAAwaCHAwaZHAraMANCHU IyaKAyaRAyaFAyaZHA",
     "raCHA WITH TWO DOTS"]),
   (0x1880, ["aaMONGOLIAN LETTER ALI GALI ANUSVARA ONE!eVISARGA!aDAMARU!aUBADAMA",
     "!aINVERTED UBADAMA!aBALUDA!aTHREE BALUDA!aA!aI!aKA!aNGA!aCA!aTTA$aHA!aDDA!aNNA!aTA!aDA!aPA",
     "#aHA!aSSA!aZHA#aA!aAHraTODO ALI GALI TA(aZHAraMANCHU ALI GALI GHA*aNGA*aCA*aJHA*aTTA*aDDHA",
     "*aTA*aDHA*aSSA*aCYA*aZHA+aAraALI GALI HALF U(aYAraMANCHU ALI GALI BHAraALI GALI DAGALGA",
     "raMANCHU ALI GALI LHA"]),
   (0x18B0, ["aaCANADIAN SYLLABICS OYtaAYuaAYtaWAYtaPOYuaAYuaWOYtaTAYtaKAYuaWAYtaMAYtaNOYuaAY",
     "taLAYtaSOYuaAYuaHOYvaAYvaWOYtaYOYuaAYtaRAYtaNWItaOJIBWAY NWItaNWIItaOJIBWAY NWIItaNWO",
     "taOJIBWAY NWOtaNWOOtaOJIBWAY NWOOtaRWEEvaIwaIvaOwaOvaAtaOJIBWAY P#aT#aK#aC#aM#aN#aS$aH",
     "taEASTERN WtcWESTERNtaFINAL SMALL RINGzaRAISED DOTtaR-CREE RWEtaWEST-CREE LOO&aAAtaTHWEwaA",
     "uaTHWEwaOOwaAAuaLHWEwaOOtaSAYISI SHWE$aOO!aHOOtaCARRIER GWU#aDENE GEE#aGAA$aWAtaSAYISI JUU",
     "taCARRIER JWAtaBEAVER DENE L(aRtaCARRIER DENTAL S"]),
   (0x1900, ["aaLIMBU VOWEL-CARRIER LETTERgaLETTER KAoaHAnaGAoaHAnaNGAnaCAoaHAnaJAoaHAnaYANnaTA",
     "oaHAnaDAoaHAnaNAnaPAoaHAnaBAoaHAnaMAnaYAnaRAnaLAnaWAnaSHAoaSAoaAnaHAnaGYANnaTRA"]),
   (0x1920, ["aaLIMBU VOWEL SIGN AraIraUraEEraAIraOOraAUraEraOgaSUBJOINED LETTER YAxaRAxaWA"]),
   (0x1930, ["aaLIMBU SMALL LETTER KAtaNGAtaANUSVARAtaTAtaNAtaPAtaMAtaRAtaLAhaIGN MUKPHRENG",
     "laKEMPHRENGlaSA-I"]),
   (0x1940, ["aaLIMBU SIGN LOO"]),
   (0x1944, ["aaLIMBU EXCLAMATION MARKgfQUESTIONgaDIGIT ZEROmaONEmaTWOnaHREEmaFOURnaIVEmaSIX",
     "naEVENmaEIGHTmaNINEaaTAI LE LETTER KAoaXAoaNGAoaTSAoaSAoaYAoaTApaHAoaLAoaPApaHAoaMAoaFA",
     "oaVAoaHAoaQAoaKHAoaTSHAoaNAoaAoaIoaEEpaHoaUoaOOpaoaUEoaEoaAUEpaI"]),
   (0x1970, ["aaTAI LE LETTER TONE-2ta3ta4ta5ta6"]),
   (0x1980, ["aaNEW TAI LUE LETTER HIGH QAtdLOWtaHIGH KAyaXAyaNGAtaLOW KAxaXAxaNGAtaHIGH TSAyaSA",
     "yaYAtaLOW TSAxaSAxaYAtaHIGH TAzaHAyaNAtaLOW TAyaHAxaNAtaHIGH PAzaHAyaMAtaLOW PAyaHAxaMA",
     "taHIGH FAyaVAyaLAtaLOW FAxaVAxaLAtaHIGH HAyaDAyaBAtaLOW HAxaDAxaBAtaHIGH KVAyaXVAtaLOW KVA",
     "xaXVAtaHIGH SUAteLOW"]),
   (0x19B0, ["aaNEW TAI LUE VOWEL SIGN VOWEL SHORTENERxaAAxaIIxaUyaUxaExaAExaOyaAxaUExaAYyaAY",
     "xaUYxaOYyaAYxaUEYxaIYmaLETTER FINAL VzaNG!azaMzaKzaDzaBmaTONE MARK-1wa2"]),
   (0x19D0, ["aaNEW TAI LUE DIGIT ZEROsaONEsaTWOtaHREEsaFOURtaIVEsaSIXtaEVENsaEIGHTsaNINE",
     "maTHAM DIGIT ONE"]),
   (0x19DE, ["aaNEW TAI LUE SIGN LAEuaVaaKHMER SYMBOL PATHAMASATnaMUOY KOETnfPIInfBEIofUONnfPRAM",
     "rf-MUOYsfPIIsfBEItfUONnfDAPqf-MUOYrfPIIrfBEIsfUONrfPRAMnaTUTEYASATnaMUOY ROCnePIIneBEI",
     "oeUONnePRAMre-MUOYsePIIseBEIteUONneDAPqe-MUOYrePIIreBEIseUONrePRAMaaBUGINESE LETTER KAqaGA",
     "qaNGAsaKAqaPAqaBAqaMAraPAqaTAqaDAqaNAraRAqaCAqaJAqaNYAsaCAqaYAqaRAqaLAqaVAqaSAqaAqaHA",
     "jaVOWEL SIGN IuaUuaEuaOuaAE"]),
   (0x1A1E, ["aaBUGINESE PALLAWAjaEND OF SECTIONaaTAI THAM LETTER HIGH KAwaHAwaXAqaLOW KAvaXA",
     "vaHAqaNGAqaHIGH CAwaHAqaLOW CAuaSAuaCHAqaNYAqaRATAqaHIGH RATHAqaDAqaLOW RATHAqaRANA",
     "qaHIGH TAwaHAqaLOW TAvaHAqaNAqaBAqaHIGH PAwaHAvaFAqaLOW PAuaFAuaPHAqaMAqaLOW YAqdHIGHqaRA",
     "raUEqaLAraUEqaWAqaHIGH SHAwaSAwaAvaHAqaLLAqaAqaLOW HAqaIraIqaUraUqaEEqaOOqaLAEqaGREAT SA",
     "jaCONSONANT SIGN MEDIAL RA(aLAyaLA TANG LAIjeSIGN MAI KANGjaCONSONANT SIGN FINAL NGA",
     "yaLOW PAydHIGH RATHA OR LOWyaMAyaBAyaSA"]),
   (0x1A60, ["aaTAI THAM SIGN SAKOTjaVOWEL SIGN AuaMAI SATuaAAuaTALL AAuaIvaIuaUEvaUEvavaUuaO",
     "vaA BELOWvaYuaEuaAEuaOOuaAIuaTHAM AIuaOA ABOVEjaSIGN MAI KANGoaTONE-1ta2oaKHUEN TONE-3za4",
     "za5oaRA HAAMoaMAI SAMoaKHUEN-LUE KARAN"]),
   (0x1A7F, ["aaTAI THAM COMBINING CRYPTOGRAMMIC DOTjaHORA DIGIT ZEROuaONEuaTWOvaHREEuaFOURvaIVE",
     "uaSIXvaEVENuaEIGHTuaNINE"]),
   (0x1A90, ["aaTAI THAM THAM DIGIT ZEROuaONEuaTWOvaHREEuaFOURvaIVEuaSIXvaEVENuaEIGHTuaNINE"]),
   (0x1AA0, ["aaTAI THAM SIGN WIANGtaWAAKoaSAWANoaKEOWoaHOYoaDOKMAIoaREVERSED ROTATED RANA",
     "oaMAI YAMOKoaKAANsaKUUoaSATKAANvaKUUoaHANGoaCAANG"]),
   (0x1AB0, ["aaCOMBINING DOUBLED CIRCUMFLEX ACCENTlaIAERESIS-RINGkaINFINITYkaDOWNWARDS ARROW",
     "kaTRIPLE DOTkaX-X BELOWkgWIGGLY LINEkgOPEN MARKklDOUBLE OPENkgLIGHT CENTRALIZATION STROKE",
     "k$STRONGkaPARENTHESES ABOVEkgDOUBLE PARENTHESESkaPARENTHESES BELOWwaOVERLAY",
     "kaLATIN SMALL LETTER W BELOW%gTURNED WlaEFT PARENTHESIS ABOVE LEFT",
     "kaRIGHT PARENTHESIS ABOVE RIGHTkaLEFT PARENTHESIS BELOW LEFT",
     "kaRIGHT PARENTHESIS BELOW RIGHTkaSQUARE BRACKETS ABOVEkgNUMBER SIGNkgINVERTED DOUBLE ARCH",
     "kgPLUS SIGNklDOUBLE PLUS#aBELOWkaTRIPLE ACUTE ACCENTkaLATIN SMALL LETTER INSULAR G:aR:aT"]),
   (0x1B00, ["aaBALINESE SIGN ULU RICEMsaCANDRAoaCECEKoaSURANGoaBISAHjaLETTER AKARAva TEDUNG",
     "qaIKARAva TEDUNGqaUKARAva TEDUNGqaRA REPAxa TEDUNGqaLA LENGAya TEDUNGqaEKARAqaAIKARA",
     "qaOKARAva TEDUNGqaKAsa MAHAPRANAqaGAsa GORAqaNGAqaCAsa LACAqaJAsa JERAqaNYAqaTA LATIK",
     "taMURDA MAHAPRANAqaDA MURDA ALPAPRANAzaMAHAPRANAqaNA RAMBATqaTAsa TAWAqaDAsa MADUqaNAqaPA",
     "sa KAPALqaBAsa KEMBANGqaMAqaYAqaRAqaLAqaWAqaSA SAGAvaPAsaqaHAjaSIGN REREKAN",
     "jaVOWEL SIGN TEDUNGuaULUxa SARIuaSUKUya ILUTuaRA REPA#a TEDUNGuaLA LENGA$a TEDUNGuaTALING",
     "!a REPA#aTEDUNG#aREPA TEDUNGuaPEPETza TEDUNGjaADEG ADEGjaLETTER KAF SASAKrgHOTqgTZIRqgEF",
     "qgVEqgZALqgASYURAraRCHAIC JNYA"]),
   (0x1B50, ["aaBALINESE DIGIT ZEROpaONEpaTWOqaHREEpaFOURqaIVEpaSIXqaEVENpaEIGHTpaNINEjaPANTI",
     "laMADAjaWINDUjaCARIK PAMUNGKAHpaSIKIpaPARERENjaPAMENENGjaMUSICAL SYMBOL DONGzaENGzaUNG",
     "zaANG$a SURANGzaINGzaAENGzaEUNGzaAING!aNG GEDEyaCOMBINING TEGEH+aENDEP+aKEMPUL;aLI",
     "+aJEGOGAN+aKEMPUL WITH JEGOGAN;nLI+aBENDE+aGONGyaRIGHT-HAND OPEN DUG?aAG,aCLOSED TUK[aAK",
     "yaLEFT-HAND OPEN PANG>aUNG+aCLOSED PLAK[aUK+aOPEN PINGjaPANTI LANTANGliMADA"]),
   (0x1B80, ["aaSUNDANESE SIGN PANYECEKsaGLAYARtaWISADkaLETTER AraIraUraAEraOraEsaUraKAraQAraGA",
     "raNGAraCAraJAraZAraNYAraTAraDAraNAraPAraFAraVAraBAraMAraYAraRAraLAraWAraSAraXAraHA",
     "kaCONSONANT SIGN PAMINGKAL#aNYAKRA%aIKUkaVOWEL SIGN PANGHULUyaYUKUyaAELAENGyaOLONGxaMEPET",
     "xaNEULEUNGkaSIGN PAMAAEHpaVIRAMAkaCONSONANT SIGN PASANGAN MA+aWAkaLETTER KHAraSYA",
     "kaDIGIT ZEROqaONEqaTWOraHREEqaFOURraIVEqaSIXraEVENqaEIGHTqaNINEkaAVAGRAHAkaLETTER REUraLEU",
     "raBHAraFINAL KxaMaaBATAK LETTER AnaSIMALUNGUN AnaHAnaSIMALUNGUN HAndMANDAILINGnaBA",
     "naKARO BAnaPAnaSIMALUNGUN PAnaNAnaMANDAILING NAnaWAnaSIMALUNGUN WAndPAKPAKnaGA",
     "naSIMALUNGUN GAnaJAnaDAnaRAnaSIMALUNGUN RAnaMAnaSIMALUNGUN MAoaOUTHERN TAndNORTHERNnaSA",
     "oaIMALUNGUN SAndMANDAILINGnaYAnaSIMALUNGUN YAnaNGAnaLAnaSIMALUNGUN LAnaNYAnaCAnaNDAnaMBA",
     "naInaUgaSIGN TOMPIgaVOWEL SIGN EraPAKPAK EraEEraIraKARO IraOraKARO OraU",
     "sa FOR SIMALUNGUN SAgaCONSONANT SIGN NGvaHgaPANGOLATjaONGONAN"]),
   (0x1BFC, ["aaBATAK SYMBOL BINDU NA METEKtaPINARBORAStaJUDULtaPANGOLATaaLEPCHA LETTER KApaLA",
     "paHAoaGApaLAoaNGAoaCApaHAoaJAoaNYAoaTApaHAoaDAoaNAoaPApaLApaHAoaFApaLAoaBApaLAoaMApaLA",
     "oaTSAqaHAoaDZAoaYAoaRAoaLAoaHApaLAoaVAoaSApaHAoaWAoaAhaSUBJOINED LETTER YAyaRA",
     "haVOWEL SIGN AAsaIsaOtaOsaUtaUsaEhaCONSONANT SIGN KwaMwaLwaNwaPwaRwaTwaNYIN-DOwaKANG",
     "haSIGN RANmaNUKTA"]),
   (0x1C3B, ["aaLEPCHA PUNCTUATION TA-ROLteNYET THYOOM TAtaCER-WAtdTSHOOK CERzahaDIGIT ZEROnaONE",
     "naTWOoaHREEnaFOURoaIVEnaSIXoaEVENnaEIGHTnaNINE"]),
   (0x1C4D, ["aaLEPCHA LETTER TTAqaHAoaDDAaaOL CHIKI DIGIT ZEROpaONEpaTWOqaHREEpaFOURqaIVEpaSIX",
     "qaEVENpaEIGHTpaNINEjaLETTER LAqaATraGraNGraLqaLAAqaAAKsaJsaMsaWqaLIqaISraHraNYraRqaLUqaUC",
     "raDraNNraYqaLEqaEPraDDraNraRRqaLOqaOTTraBraVraHjaMU TTUDDAGjaGAAHLAA TTUDDAAGjjMU-GAAHLAA",
     "jaRELAAjaPHAARKAAjaAHADjaPUNCTUATION MUCAADvaDOUBLE MUCAAD",
     "aaCYRILLIC SMALL LETTER ROUNDED VEwaLONG-LEGGED DEwaNARROW OwaWIDE ESwaTALL TE",
     "xdHREE-LEGGEDxaALL HARD SIGN#aYATwaUNBLENDED UK"]),
   (0x1C90, ["aaGEORGIAN MTAVRULI CAPITAL LETTER AN*aBAN*aGAN*aDON*aEN*aVIN*aZEN*aTAN*aIN*aKAN",
     "*aLAS*aMAN*aNAR*aON*aPAR*aZHAR*aRAE*aSAN*aTAR*aUN*aPHAR*aKHAR*aGHAN*aQAR*aSHIN*aCHIN+aAN",
     "*aJIL*aCIL+aHAR*aXAN*aJHAN*aHAE+aE+aIE*aWE*aHAR+aOE*aFI*aYN*aELIFI*aTURNED GAN*aAIN"]),
   (0x1CBD, ["aaGEORGIAN MTAVRULI CAPITAL LETTER AEN*aHARD SIGN*fLABIAL",
     "aaSUNDANESE PUNCTUATION BINDU SURYA$aPANGLONG%aURNAMA$aCAKRA$aLEU SATANGA$iKA$iDA$iBA"]),
   (0x1CD0, ["aaVEDIC TONE KARSHANAlaSHARAlaPRENKHAgaSIGN NIHSHVASAlaYAJURVEDIC MIDLINE SVARITA",
     "giTONE YAJURVEDIC AGGRAVATED INDEPENDENTwiINDEPENDENTwiKATHAKA INDEPENDENTlaCANDRA BELOW",
     "laYAJURVEDIC KATHAKA INDEPENDENT SVARITA SCHROEDERlaDOUBLE SVARITAliTRIPLE",
     "laKATHAKA ANUDATTAlaDOT BELOWlgTWO DOTSmlHREElaRIGVEDIC KASHMIRI INDEPENDENT SVARITA",
     "luATHARVAVEDICgiSIGN VISARGAtaUDATTAlhREVERSED VISARGAlaVISARGA ANUDATTAljREVERSED VISARGA",
     "laVISARGA UDATTA WITH TAILtkANUDATTAlaANUSVARA ANTARGOMUKHAuaBAHIRGOMUKHAuaVAMAGOMUKHA",
     "(a WITH TAILlaTIRYAKlaHEXIFORM LONG ANUSVARAljLONGljRTHANG LONGlaANUSVARA UBHAYATO MUKHA",
     "maRDHAVISARGAlaROTATED ARDHAVISARGAgaTONE CANDRA ABOVEgaSIGN JIHVAMULIYAlaUPADHMANIYA",
     "laATIKRAMAgaTONE RING ABOVElgDOUBLE RINGgaSIGN DOUBLE ANUSVARA ANTARGOMUKHA"]),
   (0x1D00, ["aaLATIN LETTER SMALL CAPITAL A$aEgdSMALL LETTER TURNED",
     "gaLETTER SMALL CAPITAL BARRED B#aC#aD#aETH$agcSMALL LETTER TURNED OPEN!aI",
     "gaLETTER SMALL CAPITAL J#aK#aL WITH STROKE#aM#aREVERSED N#aO$aPEN OgcSMALL LETTER SIDEWAYS",
     "%aPEN O%a WITH STROKEtaTURNED OEgaLETTER SMALL CAPITAL OUgaSMALL LETTER TOP HALF OthBOTTOM",
     "gaLETTER SMALL CAPITAL P#aREVERSED R#cTURNED$a#aUgcSMALL LETTER SIDEWAYS$aDIAERESIZED U",
     "$aTURNED MgaLETTER SMALL CAPITAL V#aW#aZ#aEZHnaVOICED LARYNGEAL SPIRANTnaAIN",
     "aaGREEK LETTER SMALL CAPITAL GAMMA#aLAMDA#aPI#aRHO#aPSIaaCYRILLIC LETTER SMALL CAPITAL EL",
     "aaMODIFIER LETTER CAPITAL AzaEyaBzaARRED ByaDyaEyaREVERSED EyaGyaHyaIyaJyaKyaLyaMyaN",
     "yaREVERSED NyaOzaUyaPyaRyaTyaUyaWqaSMALL AwaTURNED AwaALPHAwaTURNED AEwaBwaDwaEwaSCHWA",
     "waOPEN EwcTURNED OPENwaGwaTURNED IwaKwaMwaENGwaOxaPEN OwcTOP HALFwhBOTTOMwaPwaTwaU",
     "waSIDEWAYS UwaTURNED MwaVwaAINwaBETAwaGREEK GAMMAwaDELTAwaGREEK PHIwaCHI",
     "aaLATIN SUBSCRIPT SMALL LETTER I%aR%aU%aVaaGREEK SUBSCRIPT SMALL LETTER BETA%aGAMMA%aRHO",
     "%aPHI%aCHIaaLATIN SMALL LETTER UEtaB WITH MIDDLE TILDEtsDtsFtsMtsNtsPtsR",
     "!gFISHHOOK AND MIDDLEtnS WITHtsTtsZtaTURNED GaaMODIFIER LETTER CYRILLIC EN",
     "aaLATIN SMALL LETTER INSULAR GtaTH WITH STRIKETHROUGHmaCAPITAL LETTER I WITH STROKE",
     "mmLETTER IOTAtmPmmCAPITAL LETTER UmmLETTER UPSILONtaB WITH PALATAL HOOKtsDtsFtsGtsKtsLtsM",
     "tsNtsPtsRtsStsESHtsVtsXtsZtfA WITH RETROFLEXuuLPHAtaD WITH HOOK AND TAIL",
     "taE WITH RETROFLEX HOOKtuOPEN EtwREVERSED OPENtuSCHWAtuItuOPEN OtuESHtuUtuEZH",
     "aaMODIFIER LETTER SMALL TURNED ALPHAwaCxa WITH CURLwaETHwaREVERSED OPEN EwaF",
     "waDOTLESS J WITH STROKEwaSCRIPT GwaTURNED HwaI WITH STROKExaOTAwaCAPITAL I(a WITH STROKE",
     "waJ WITH CROSSED-TAILwaL WITH RETROFLEX HOOK%fPALATALwaCAPITAL LwaM WITH HOOK",
     "waTURNED M WITH LONG LEGwaN WITH LEFT HOOK%fRETROFLEXwaCAPITAL NwaBARRED OwaPHI",
     "waS WITH HOOKwaESHwaT WITH PALATAL HOOKwaU BARxaPSILONwaCAPITAL UwaV WITH HOOKwaTURNED V",
     "waZxa WITH RETROFLEX HOOK%aCURLwaEZHwaTHETAaaCOMBINING DOTTED GRAVE ACCENTrhACUTE",
     "kaSNAKE BELOWlaUSPENSION MARKkaMACRON-ACUTEkaGRAVE-MACRONkaMACRON-GRAVEkaACUTE-MACRON",
     "kaGRAVE-ACUTE-GRAVEkaACUTE-GRAVE-ACUTEkaLATIN SMALL LETTER R BELOWkaBREVE-MACRON",
     "kaMACRON-BREVEkaDOUBLE CIRCUMFLEX ABOVEkgOGONEKkaZIGZAG BELOWkgISkaUR ABOVElgS",
     "kgLATIN SMALL LETTER FLATTENED OPEN A%aAE&aO&aV%aC CEDILLA%aINSULAR D%aETH%aG",
     "qcLETTER SMALL CAPITALqaSMALL LETTER K%aLqcLETTER SMALL CAPITAL:aMqaSMALL LETTER N",
     "qcLETTER SMALL CAPITAL:aRqaSMALL LETTER R ROTUNDA%aS%aLONG S%aZ%aALPHA%aB&aETA%aSCHWA%aF",
     "%aL WITH DOUBLE MIDDLE TILDE%aO WITH LIGHT CENTRALIZATION STROKE%aP%aESH",
     "%aU WITH LIGHT CENTRALIZATION STROKE%aW%aA WITH DIAERESIS%pO%pUkaUP TACK ABOVE",
     "kaKAVYKA ABOVE RIGHTxaLEFTklDOTkaWIDE INVERTED BRIDGE BELOWkaDOT BELOW LEFTlaELETION MARK",
     "laOUBLE INVERTED BREVE BELOWkgALMOST EQUAL TOkaLEFT ARROWHEAD ABOVE",
     "kaRIGHT ARROWHEAD AND DOWN ARROWHEAD BELOWagLATIN CAPITAL LETTER A WITH RINGgzSMALL",
     "gaCAPITAL LETTER B WITH DOT ABOVEgySMALLgaCAPITAL LETTER B WITH DOT BELOWgySMALL",
     "ggCAPITAL LETTER B WITH LINEgzSMALLgaCAPITAL LETTER C WITH CEDILLA AND ACUTEg)SMALL",
     "gaCAPITAL LETTER D WITH DOT ABOVEgySMALLgaCAPITAL LETTER D WITH DOT BELOWgySMALL",
     "ggCAPITAL LETTER D WITH LINEgzSMALLgaCAPITAL LETTER D WITH CEDILLAgwSMALL",
     "gaCAPITAL LETTER D WITH CIRCUMFLEX BELOWg(SMALLgaCAPITAL LETTER E WITH MACRON AND GRAVE",
     "g(SMALLgaCAPITAL LETTER E WITH MACRON AND ACUTEg(SMALL",
     "gaCAPITAL LETTER E WITH CIRCUMFLEX BELOWg(SMALLggCAPITAL LETTER E WITH TILDEg!SMALL",
     "gaCAPITAL LETTER E WITH CEDILLA AND BREVEg)SMALLgaCAPITAL LETTER F WITH DOT ABOVEgySMALL",
     "gaCAPITAL LETTER G WITH MACRONgvSMALLgaCAPITAL LETTER H WITH DOT ABOVEgySMALL",
     "gaCAPITAL LETTER H WITH DOT BELOWgySMALLgaCAPITAL LETTER H WITH DIAERESISgySMALL",
     "gaCAPITAL LETTER H WITH CEDILLAgwSMALLgaCAPITAL LETTER H WITH BREVE BELOWg!SMALL",
     "ggCAPITAL LETTER I WITH TILDEg!SMALLgaCAPITAL LETTER I WITH DIAERESIS AND ACUTEg+SMALL",
     "ggCAPITAL LETTER K WITHguSMALLgaCAPITAL LETTER K WITH DOT BELOWgySMALL",
     "ggCAPITAL LETTER K WITH LINEgzSMALLggCAPITAL LETTER L WITH DOTgySMALL",
     "gaCAPITAL LETTER L WITH DOT BELOW AND MACRONg,SMALLgaCAPITAL LETTER L WITH LINE BELOW",
     "gzSMALLggCAPITAL LETTER L WITH CIRCUMFLEXg(SMALLgaCAPITAL LETTER M WITH ACUTEguSMALL",
     "gaCAPITAL LETTER M WITH DOT ABOVEgySMALLgaCAPITAL LETTER M WITH DOT BELOWgySMALL",
     "gaCAPITAL LETTER N WITH DOT ABOVEgySMALLgaCAPITAL LETTER N WITH DOT BELOWgySMALL",
     "ggCAPITAL LETTER N WITH LINEgzSMALLggCAPITAL LETTER N WITH CIRCUMFLEXg(SMALL",
     "gaCAPITAL LETTER O WITH TILDE AND ACUTEg&SMALLgaCAPITAL LETTER O WITH TILDE AND DIAERESIS",
     "g+SMALLgaCAPITAL LETTER O WITH MACRON AND GRAVEg(SMALL",
     "gaCAPITAL LETTER O WITH MACRON AND ACUTEg(SMALLggCAPITAL LETTER P WITHguSMALL",
     "gaCAPITAL LETTER P WITH DOT ABOVEgySMALLgpCAPITAL LETTER RgySMALL",
     "gaCAPITAL LETTER R WITH DOT BELOWgySMALLgaCAPITAL LETTER R WITH DOT BELOW AND MACRON",
     "g,SMALLgaCAPITAL LETTER R WITH LINE BELOWgzSMALLgaCAPITAL LETTER S WITH DOT ABOVEgySMALL",
     "gaCAPITAL LETTER S WITH DOT BELOWgySMALLgaCAPITAL LETTER S WITH ACUTE AND DOT ABOVEg+SMALL",
     "goCAPITAL LETTER S WITH CARONg+SMALLgoCAPITAL LETTER S WITH DOT BELOWg;SMALL",
     "gkCAPITAL LETTER T WITHgySMALLgaCAPITAL LETTER T WITH DOT BELOWgySMALL",
     "ggCAPITAL LETTER T WITH LINEgzSMALLggCAPITAL LETTER T WITH CIRCUMFLEXg(SMALL",
     "ggCAPITAL LETTER U WITH DIAERESISg&SMALLggCAPITAL LETTER U WITH TILDEg!SMALL",
     "ggCAPITAL LETTER U WITH CIRCUMFLEXg(SMALLgaCAPITAL LETTER U WITH TILDE AND ACUTEg&SMALL",
     "gaCAPITAL LETTER U WITH MACRON AND DIAERESISg,SMALLgaCAPITAL LETTER V WITH TILDEguSMALL",
     "gaCAPITAL LETTER V WITH DOT BELOWgySMALLgaCAPITAL LETTER W WITH GRAVEguSMALL",
     "gaCAPITAL LETTER W WITH ACUTEguSMALLgaCAPITAL LETTER W WITH DIAERESISgySMALL",
     "gaCAPITAL LETTER W WITH DOT ABOVEgySMALLgaCAPITAL LETTER W WITH DOT BELOWgySMALL",
     "gaCAPITAL LETTER X WITH DOT ABOVEgySMALLgaCAPITAL LETTER X WITH DIAERESISgySMALL",
     "gaCAPITAL LETTER Y WITH DOT ABOVEgySMALLgaCAPITAL LETTER Z WITH CIRCUMFLEXgzSMALL",
     "gaCAPITAL LETTER Z WITH DOT BELOWgySMALLggCAPITAL LETTER Z WITH LINEgzSMALLtqH",
     "taT WITH DIAERESIStaW WITH RING ABOVEtqYtaA WITH RIGHT HALF RINGtaLONG S WITH DOT ABOVE",
     ")aIAGONAL STROKE(hHIGHgaCAPITAL LETTER SHARP SgaSMALL LETTER DELTA",
     "gaCAPITAL LETTER A WITH DOT BELOWgySMALLgaCAPITAL LETTER A WITH HOOK ABOVEgzSMALL",
     "gaCAPITAL LETTER A WITH CIRCUMFLEX AND ACUTEg,SMALL",
     "gaCAPITAL LETTER A WITH CIRCUMFLEX AND GRAVEg,SMALL",
     "gaCAPITAL LETTER A WITH CIRCUMFLEX AND HOOK ABOVEg>SMALL",
     "gaCAPITAL LETTER A WITH CIRCUMFLEX AND TILDEg,SMALL",
     "gaCAPITAL LETTER A WITH CIRCUMFLEX AND DOT BELOWg<SMALL",
     "gaCAPITAL LETTER A WITH BREVE AND ACUTEg&SMALLgaCAPITAL LETTER A WITH BREVE AND GRAVE",
     "g&SMALLgaCAPITAL LETTER A WITH BREVE AND HOOK ABOVEg,SMALL",
     "gaCAPITAL LETTER A WITH BREVE AND TILDEg&SMALLgaCAPITAL LETTER A WITH BREVE AND DOT BELOW",
     "g+SMALLgkCAPITAL LETTER E WITHgySMALLgaCAPITAL LETTER E WITH HOOK ABOVEgzSMALL",
     "gaCAPITAL LETTER E WITH TILDEguSMALLgaCAPITAL LETTER E WITH CIRCUMFLEX AND ACUTEg,SMALL",
     "gaCAPITAL LETTER E WITH CIRCUMFLEX AND GRAVEg,SMALL",
     "gaCAPITAL LETTER E WITH CIRCUMFLEX AND HOOK ABOVEg>SMALL",
     "gaCAPITAL LETTER E WITH CIRCUMFLEX AND TILDEg,SMALL",
     "gaCAPITAL LETTER E WITH CIRCUMFLEX AND DOT BELOWg<SMALLgaCAPITAL LETTER I WITH HOOK ABOVE",
     "gzSMALLgaCAPITAL LETTER I WITH DOT BELOWgySMALLgpCAPITAL LETTER OgySMALL",
     "gaCAPITAL LETTER O WITH HOOK ABOVEgzSMALLgaCAPITAL LETTER O WITH CIRCUMFLEX AND ACUTE",
     "g,SMALLgaCAPITAL LETTER O WITH CIRCUMFLEX AND GRAVEg,SMALL",
     "gaCAPITAL LETTER O WITH CIRCUMFLEX AND HOOK ABOVEg>SMALL",
     "gaCAPITAL LETTER O WITH CIRCUMFLEX AND TILDEg,SMALL",
     "gaCAPITAL LETTER O WITH CIRCUMFLEX AND DOT BELOWg<SMALL",
     "gaCAPITAL LETTER O WITH HORN AND ACUTEg%SMALLgaCAPITAL LETTER O WITH HORN AND GRAVEg%SMALL",
     "gaCAPITAL LETTER O WITH HORN AND HOOK ABOVEg+SMALLgaCAPITAL LETTER O WITH HORN AND TILDE",
     "g%SMALLgaCAPITAL LETTER O WITH HORN AND DOT BELOWg*SMALLgkCAPITAL LETTER U WITHgySMALL",
     "gaCAPITAL LETTER U WITH HOOK ABOVEgzSMALLgaCAPITAL LETTER U WITH HORN AND ACUTEg%SMALL",
     "gaCAPITAL LETTER U WITH HORN AND GRAVEg%SMALLgaCAPITAL LETTER U WITH HORN AND HOOK ABOVE",
     "g+SMALLgaCAPITAL LETTER U WITH HORN AND TILDEg%SMALL",
     "gaCAPITAL LETTER U WITH HORN AND DOT BELOWg*SMALLgaCAPITAL LETTER Y WITH GRAVEguSMALL",
     "gaCAPITAL LETTER Y WITH DOT BELOWgySMALLgaCAPITAL LETTER Y WITH HOOK ABOVEgzSMALL",
     "gaCAPITAL LETTER Y WITH TILDEguSMALLgaCAPITAL LETTER MIDDLE-WELSH LLgxSMALL",
     "gaCAPITAL LETTER MIDDLE-WELSH VgwSMALLgaCAPITAL LETTER Y WITH LOOPgtSMALL",
     "aaGREEK SMALL LETTER ALPHA WITH PSILI&aDASIA&aPSILI AND VARIA&kDASIA&aPSILI AND OXIA",
     "&jDASIA&aPSILI AND PERISPOMENI&qDASIAgaCAPITAL LETTER ALPHA WITH PSILI)aDASIA",
     ")aPSILI AND VARIA)kDASIA)aPSILI AND OXIA)jDASIA)aPSILI AND PERISPOMENI)qDASIA",
     "gaSMALL LETTER EPSILON WITH PSILI)aDASIA)aPSILI AND VARIA)kDASIA)aPSILI AND OXIA)jDASIA"]),
   (0x1F18, ["aaGREEK CAPITAL LETTER EPSILON WITH PSILI+aDASIA+aPSILI AND VARIA+kDASIA",
     "+aPSILI AND OXIA+jDASIA"]),
   (0x1F20, ["aaGREEK SMALL LETTER ETA WITH PSILI$aDASIA$aPSILI AND VARIA$kDASIA$aPSILI AND OXIA",
     "$jDASIA$aPSILI AND PERISPOMENI$qDASIAgaCAPITAL LETTER ETA WITH PSILI&aDASIA",
     "&aPSILI AND VARIA&kDASIA&aPSILI AND OXIA&jDASIA&aPSILI AND PERISPOMENI&qDASIA",
     "gaSMALL LETTER IOTA WITH PSILI%aDASIA%aPSILI AND VARIA%kDASIA%aPSILI AND OXIA%jDASIA",
     "%aPSILI AND PERISPOMENI%qDASIAgaCAPITAL LETTER IOTA WITH PSILI(aDASIA(aPSILI AND VARIA",
     "(kDASIA(aPSILI AND OXIA(jDASIA(aPSILI AND PERISPOMENI(qDASIA",
     "gaSMALL LETTER OMICRON WITH PSILI)aDASIA)aPSILI AND VARIA)kDASIA)aPSILI AND OXIA)jDASIA"]),
   (0x1F48, ["aaGREEK CAPITAL LETTER OMICRON WITH PSILI+aDASIA+aPSILI AND VARIA+kDASIA",
     "+aPSILI AND OXIA+jDASIA"]),
   (0x1F50, ["aaGREEK SMALL LETTER UPSILON WITH PSILI)aDASIA)aPSILI AND VARIA)kDASIA",
     ")aPSILI AND OXIA)jDASIA)aPSILI AND PERISPOMENI)qDASIA"]),
   (0x1F59, ["aaGREEK CAPITAL LETTER UPSILON WITH DASIA"]),
   (0x1F5B, ["aaGREEK CAPITAL LETTER UPSILON WITH DASIA AND VARIA"]),
   (0x1F5D, ["aaGREEK CAPITAL LETTER UPSILON WITH DASIA AND OXIA"]),
   (0x1F5F, ["aaGREEK CAPITAL LETTER UPSILON WITH DASIA AND PERISPOMENI",
     "gaSMALL LETTER OMEGA WITH PSILI&aDASIA&aPSILI AND VARIA&kDASIA&aPSILI AND OXIA&jDASIA",
     "&aPSILI AND PERISPOMENI&qDASIAgaCAPITAL LETTER OMEGA WITH PSILI)aDASIA)aPSILI AND VARIA",
     ")kDASIA)aPSILI AND OXIA)jDASIA)aPSILI AND PERISPOMENI)qDASIA",
     "gaSMALL LETTER ALPHA WITH VARIA&aOXIAtaEPSILON WITH VARIA)aOXIAuaTA WITH VARIA$aOXIA",
     "taIOTA WITH VARIA%aOXIAtaOMICRON WITH VARIA)aOXIAtaUPSILON WITH VARIA)aOXIA",
     "taOMEGA WITH VARIA&aOXIA"]),
   (0x1F80, ["aaGREEK SMALL LETTER ALPHA WITH PSILI AND YPOGEGRAMMENI&sDASIA&sPSILI AND VARIA",
     "&$DASIA&sPSILI AND OXIA&#DASIA&sPSILI AND PERISPOMENI&+DASIA",
     "gaCAPITAL LETTER ALPHA WITH PSILI AND PROSGEGRAMMENI)tDASIA)tPSILI AND VARIA)%DASIA",
     ")tPSILI AND OXIA)$DASIA)tPSILI AND PERISPOMENI),DASIA",
     "gaSMALL LETTER ETA WITH PSILI AND YPOGEGRAMMENI$sDASIA$sPSILI AND VARIA$$DASIA",
     "$sPSILI AND OXIA$#DASIA$sPSILI AND PERISPOMENI$+DASIA",
     "gaCAPITAL LETTER ETA WITH PSILI AND PROSGEGRAMMENI&tDASIA&tPSILI AND VARIA&%DASIA",
     "&tPSILI AND OXIA&$DASIA&tPSILI AND PERISPOMENI&,DASIA",
     "gaSMALL LETTER OMEGA WITH PSILI AND YPOGEGRAMMENI&sDASIA&sPSILI AND VARIA&$DASIA",
     "&sPSILI AND OXIA&#DASIA&sPSILI AND PERISPOMENI&+DASIA",
     "gaCAPITAL LETTER OMEGA WITH PSILI AND PROSGEGRAMMENI)tDASIA)tPSILI AND VARIA)%DASIA",
     ")tPSILI AND OXIA)$DASIA)tPSILI AND PERISPOMENI),DASIAgaSMALL LETTER ALPHA WITH VRACHY",
     "&aMACRON&aVARIA AND YPOGEGRAMMENI&aYPOGEGRAMMENI&aOXIA AND YPOGEGRAMMENI"]),
   (0x1FB6, ["aaGREEK SMALL LETTER ALPHA WITH PERISPOMENI?a AND YPOGEGRAMMENI",
     "gaCAPITAL LETTER ALPHA WITH VRACHY)aMACRON)aVARIA)aOXIA)aPROSGEGRAMMENIgaKORONIS",
     "gaPROSGEGRAMMENIhaSILIhaERISPOMENIgaDIALYTIKA AND PERISPOMENI",
     "gaSMALL LETTER ETA WITH VARIA AND YPOGEGRAMMENI$aYPOGEGRAMMENI$aOXIA AND YPOGEGRAMMENI"]),
   (0x1FC6, ["aaGREEK SMALL LETTER ETA WITH PERISPOMENI<a AND YPOGEGRAMMENI",
     "gaCAPITAL LETTER EPSILON WITH VARIA+aOXIAwaTA WITH VARIA&aOXIA&aPROSGEGRAMMENI",
     "gaPSILI AND VARIAqaOXIAqaPERISPOMENIgaSMALL LETTER IOTA WITH VRACHY%aMACRON",
     "%aDIALYTIKA AND VARIA[aOXIA"]),
   (0x1FD6, ["aaGREEK SMALL LETTER IOTA WITH PERISPOMENI%aDIALYTIKA AND PERISPOMENI",
     "gaCAPITAL LETTER IOTA WITH VRACHY(aMACRON(aVARIA(aOXIA"]),
   (0x1FDD, ["aaGREEK DASIA AND VARIAqaOXIAqaPERISPOMENIgaSMALL LETTER UPSILON WITH VRACHY",
     ")aMACRON)aDIALYTIKA AND VARIA_aOXIAtaRHO WITH PSILI$aDASIAtaUPSILON WITH PERISPOMENI",
     ")aDIALYTIKA AND PERISPOMENIgaCAPITAL LETTER UPSILON WITH VRACHY+aMACRON+aVARIA+aOXIA",
     "vaRHO WITH DASIAgaDIALYTIKA AND VARIAuaOXIAgaVARIA"]),
   (0x1FF2, ["aaGREEK SMALL LETTER OMEGA WITH VARIA AND YPOGEGRAMMENI&aYPOGEGRAMMENI",
     "&aOXIA AND YPOGEGRAMMENI"]),
   (0x1FF6, ["aaGREEK SMALL LETTER OMEGA WITH PERISPOMENI?a AND YPOGEGRAMMENI",
     "gaCAPITAL LETTER OMICRON WITH VARIA+aOXIAxaEGA WITH VARIA)aOXIA)aPROSGEGRAMMENIgaOXIA",
     "gaDASIA"])]

end Intake.Text
