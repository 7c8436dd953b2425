import Intake.Text.CharName.Basic

/-!
# Names of characters: U+16000 to U+1EFFF

The names of rare scripts, and the notations of music and mathematics.

## Main definitions

* `notationNames` — the runs of names.
-/

namespace Intake.Text

/-- The names of the characters U+16000 to U+1EFFF. -/
def notationNames : List NameRun :=
  [(0x16800, ["aaBAMUM LETTER PHASE-A NGKUE MFONvaGBIEE FONvaPON MFON PIPAEMGBIEE.aBAvaNAA MFON",
     "vaSHUENSHUETvaTITA MFONvfNZAvaSHINDA PA NJIvaPON PA NJI PIPAEMGBIEE;aBAvaMAEMBGBIEE",
     "vaTU MAEMBAvaNGANGUvaMAEMVEUXxaNSUAEwaVEUAENGAMvaSEUNYAMvaNTOQPENvaKEUKEUTNDAvaNKINDIvaSUU",
     "vaNGKUENZEUMvaLAPAQwaET KUTvaNTAP MFAAvaMAEKEUPvaPASHAEvaGHEUAERAEvaPAMSHAEvaMON NGGEUAET",
     "vaNZUN MEUTvaU YUQ NAEvaGHEUAEGHEUAEvaNTAP NTAAvaSISAvaMGBASAwaEUNJOMNDEUQwaOOMPUQvaKAFA",
     "vaPA LEERAEWAvjNDAvaPETvaMAEMKPENvaNIKAvaPUPvaTUAEPvaLUAEPvaSONJAMvaTEUTEUWENvaMAENYIvaKET",
     "vaNDAANGGEUAETvaKUOQvaMOOMEUTvaSHUMvaLOMMAEvaFIRIvaROMvaKPOQvaSOQvaMAP PIEETvaSHIRAEvaNTAP",
     "vaSHOQ NSHUT YUMvaNYIT MONGKEUAEQvaPAARAEvaNKAARAEvaUNKNOWNvaNGGENvaMAESIvaNJAMvaMBANYI",
     "vaNYETvaTEUAENvaSOTvaPAAMvaNSHIEEvaMAEMvaNYIvaKAQvaNSHAvaVEEvaLUvaNENwaAQvaMBAQtaB NSHUET",
     "vaTU MAEMGBIEEvaSIEEwaET TUvaLOM NTEUMvaMBA MAELEEvaKIEEMvaYEURAEvaMBAARAEvaKAMvaPEESHI",
     "vaYAFU LEERAEWAvaLAM NSHUT NYAMvaNTIEE SHEUOQwaDU NJAAvaGHEUGHEUAEMvaPITvaTU NSIEE",
     "vaSHET NJAQyaUAEQTUvaMFON TEUAEQwaBIT MBAAKETvaNYI NTEUMvaKEUPUQvaGHEUGHENvaKEUYEUX",
     "vaLAANAEvaPARUMvaVEUMvaNGKINDI MVOPxaGEU MBUvaWUAETvaSAKEUAEvaTAAMvaMEUQvaNGGUOQ#a LARGE",
     "vaMFIYAQvaSUEvaMBEURIwaONTIEENvaNYAEMAEvaPUNGAAMvaMEUT NGGEETvaFEUXvaMBUOQvaFEEvaKEUAEM",
     "vaMA NJEUAENA!aUQAvaLETvaNGGAAMwaSENvaMAvaKIQvaNGOMtaC NGKUE MAEMBAwaZAvaYUMvaWANGKUOQ",
     "vaNGGENwaDEUAEREEwaGKAQvaGHARAEvaMBEEKEETvaGBAYIvaNYIR MKPARAQ MEUNwaTU MBITvaMBEUM",
     "vaPIRIEENvaNDOMBUvaMBAA CABBAGE-TREEvaKEUSHEUAEPvaGHAPvaKEUKAQvaYU MUOMAEvaNZEUMvaMBUE",
     "vaNSEUAENvaMBITvaYEUQvaKPARAQwaAAvaSEUXvaNDIDAvaTAASHAEvaNJUEQvaTITA YUEvaSUAET",
     "vaNGGUAEN NYAMvaVEUXvaNANSANAQvaMA KEUAERIvaNTAAwaGGUONvaLAPvaMBIRIEENwaGBASAQvaNTEUNGBA",
     "vaTEUTEUXvaNGGUMvaFUEvaNDEUTwaSAxaHAQvaBUNGvaVEUAEPENvaMBERAEvaRUvaNJAEMvaLAMvaTITUAEP",
     "vaNSUOT NGOMwaJEEEEvaKETvaNGGUvaMAESIwaBUAEMvaLUvaKUTvaNJAMwaGOMvaWUPvaNGGUEETwaSOMwaTEN",
     "vaKUOP NKAARAEvaNSUNwaDAMvaMA NSIEEvaYAAvaNDAPvaSHUEQwaETFONvaMBIwaAEMBAwaBANYIvaKEUSEUX",
     "vaMBEUXvaKEUMvaMBAA PICKETvaYUWOQvaNJEUXvaMIEEwaUAEvaSHIQvaKEN LAWzaFATIGUEvaNGAQwaAQvaLIQ",
     "vaPINwaENvaTETtaD MBUOvaWAPvaNJIvaMFONvaNJIEEvaLIEEvaNJEUTwaSHEEwaGGAAMAEwaYAMvaWUAEN",
     "vaNGKUNvaSHEEvaNGKAPvaKEUAETMEUNvaTEUTvaSHEUAEvaNJAPvaSUEvaKETvaYAEMMAEvaKUOMvaSAPvaMFEUT",
     "vaNDEUXvaMALEERIwaEUTvaSEUAEQvaYENvaNJEUAEMvaKEUOT MBUAEvaNGKEURIvaTUvaGHAAvaNGKYEE",
     "vaFEUFEUAETvaNDEEvaMGBOFUMvaLEUAEPvaNDONvaMONIwaGBEUNvaPUUTvaMGBIEEwaFOvaLUMvaNSIEEPvaMBAA",
     "vaKWAETvaNYETvaTEUAENvaSOTvaYUWOQvaKEUMvaRAEMvaTEEEEvaNGKEUAEQvaMFEUAEvaNSIEETvaKEUPvaPIP",
     "waEUTAEvaNYUEvaLETvaNGGAAMvaMFIEEvaNGGWAENvaYUOMvaPAPvaYUOPvaNDAMwaTEUMvaSUAEvaKUNvaNGGEUX",
     "xaKIEEvaTUOTvaMEUNvaKUQvaNSUMvaTEUNvaMAENJETvaNGGAPvaLEUMvaNGGUOMwaSHUTwaJUEQvaGHEUAEvaKU",
     "vaREN OLDvaTAEwaOQvaNYIvaRIIvaLEEEEvaMEEEEwavaSUUvaMUvaSHIIxaEUXvaKYEEvaNUvaSHUvaNTEEvaPEE",
     "vaNIvaSHOQvaPUQvaMVOPvaLOQvaREN MUCHvaTIvaNTUUvaMBAA SEVENvaSAQvaFAAtaE NDAPvaTOONvaMBEUM",
     "vaLAPvaVOMvaLOONvaPAAvaSOMvaRAQvaNSHUOPwaDUNvaPUAEvaTAMvaNGKAvaKPEUXvaWUOvaSEEvaNGGEUAET",
     "vaPAAMvaTOOvaKUOPvaLOMvaNSHIEEwaGOPvaMAEMvaNGKEUXxaOQwaSHUEvaRIMGBAvaNJEUXvaPEEMvaSAA",
     "vaNGGURAEvaMGBAvaGHEUXvaNGKEUAEMwaJAEMLIvaMAPvaLOOTvaNGGEEEEwaDIQvaTAEN NTEUMvaSETvaPUM",
     "vaNDAA SOFTNESSwaGGUAESHAE NYAMvaYIEEvaGHEUNvaTUAEvaYEUAEvaPOvaTUMAEvaKEUAEvaSUAENvaTEUAEQ",
     "vaVEUAEvaWEUXvaLAAMvaPUvaTAAQvaGHAAMAEvaNGEUREUTvaSHEUAEQvaMGBENwaBEEvaNZAQwaKOMvaGBET",
     "vaTUMvaKUETvaYAPvaNYI CLEAVERvaYITvaMFEUQvaNDIAQvaPIEEQvaYUEQvaLEUAEMvaFUEvaGBEUXvaNGKUP",
     "vaKETvaMAEvaNGKAAMIvaGHETvaFAvaNTUMvaPEUTvaYEUMvaNGGEUAEwaYI BETWEENwaZUQvaPOONvaMIEE",
     "vaFUETvaNAEvaMUAEvaGHEUAEvaFU IvaMVIvaPUAQvaNGKUMvaKUTvaPIETvaNTAPvaYEUAETvaNGGUP",
     "vaPA PEOPLEvaFU CALLwaOMvaNJEEvaAvaTOQvaOvaIvaLAQvaPA PLURALvaTAAxaQvaNDAA MY HOUSEvaSHIQ",
     "vaYEUXvaNGUAEvaYUAENwaOQ SWIMMINGzaCOVERwaUQxaNvaKEUXvaPEUXvaNJEE EPOCHvaPUEvaWUEvaFEE",
     "vaVEEvaLUvaMIvaREUXwaAEvaNGUAETxaAvaSHOyaQvaFU REMEDYvaNAvaPIvaLOQvaKOvaMENwaAxaQvaTEUvaKI",
     "vaMONvaTENvaFAQvaGHOMtaF KAvaUvaKUvaEEvaREEvaTAEvaNYIvaLAvaRIIxaEEvaMEEEEvaTAAvaNDAAwaJAEM",
     "vaMvaSUUwaHIIwaIwaEUXvaKYEEwaETvaNUAExawaJUAEvaYOQvaSHUvaYAvaNSHAvaPEUXvaNTEEvaWUEvaPEE",
     "vaRUvaNIvaREUXvaKENvaNGKWAENxaGAvaSHOvaPUAEvaFOMvaWAvaLIwaOQvaKOvaMBENvaRENvaMAwaOwaBAA",
     "vaTETvaKPAvaSAMBAvaVUEQ"]),
   (0x16A40, ["aaMRO LETTER TAlaNGIlaYOlaMIMlaBAlaDAlaAlaPHIlaKHAIlaHAOlaDAIlaCHUlaKEAAElaOL",
     "laMAEMlaNINlaPAlaOOmalaROlaSHIlaTHEAlaEAlaWAlaElaKOlaLANnalaHAIlaRIlaTEK"]),
   (0x16A60, ["aaMRO DIGIT ZEROkaONEkaTWOlaHREEkaFOURlaIVEkaSIXlaEVENkaEIGHTkaNINE"]),
   (0x16A6E, ["aaMRO DANDAfaOUBLE DANDAaaTANGSA LETTER OZpaCpaQpaXoaAZpaCpaQpaXoaVZpaCpaQpaXoaEZ",
     "paCpaQpaXoaIZpaCpaQpaXoaUZpaCpaQpaXoaAWZqaCqaQqaXoaUIZqaCqaQqaXoaFINAL NGoaLONG UEX",
     "oaSHORT UEZuaAWXoaUECqaZqaQqaXpaIUZraCraQraXoaMZpaCpaQpaXoaKApaHAoaGAoaNGAoaSAoaYAoaWAoaPA",
     "oaNYAoaPHAoaBAoaMAoaNAoaHAoaLAoaHTAoaTAoaDAoaRAoaNHAoaSHAoaCAoaTSAoaGHAoaHTTAoaTHAoaXAoaFA",
     "oaDHAoaCHAoaZA"]),
   (0x16AC0, ["aaTANGSA DIGIT ZEROnaONEnaTWOoaHREEnaFOURoaIVEnaSIXoaEVENnaEIGHTnaNINE"]),
   (0x16AD0, ["aaBASSA VAH LETTER ENNIraKAraSEraFAraMBEraYIEraGAHraDHIIraKPAHraJOraHWAHraWAraZO",
     "raGBUraDOraCEraUWUraTOraBAraVUraYEINraPAraWADDAraAraOsaOraUraEEsaraI"]),
   (0x16AF0, ["aaBASSA VAH COMBINING HIGH TONEufLOWufMIDufLOW-MIDufHIGH-LOWkaFULL STOP"]),
   (0x16B00, ["aaPAHAWH HMONG VOWEL KEEBwaVuaIBvaVuaAUBwaVuaUBvaVuaEBvaVuaAIBwaVuaOOBwaVuaAWBwaV",
     "uaUABwaVuaOBvaVuaIABwaVuaABvaVuaWBvaVuaAABwaVnaCONSONANT VAUxaNTSAUxaLAUxaHAUxaNLAUxaRAU",
     "xaNKAUxaQHAUxaYAUxaHLAUxaMAUxaCHAUxaNCHAUxaHNAUxaPLHAUxaNTHAUyaAUxaAUxaXAUxaCAU",
     "naMARK CIM TUBwaSOwaKESxaHAVwaSUAMwaHOMwaTAUMnaSIGN VOS THOMxaSHAB CEEBsaCIM CHEEM",
     "saVOS THIABwaFEEMsaXYEEM NTXIVyaRHOyaTOVyaFAIBsaVOS SEEVsaMEEJ SUABsaVOS NRUAsaIB YAM",
     "saXAUSsaCIM TSOV ROG"]),
   (0x16B50, ["aaPAHAWH HMONG DIGIT ZEROtaONEtaTWOuaHREEtaFOURuaIVEtaSIXuaEVENtaEIGHTtaNINE"]),
   (0x16B5B, ["aaPAHAWH HMONG NUMBER TENSuaHUNDREDSuaTEN THOUSANDSuaMILLIONSuaHUNDRED MILLIONS",
     "uaTEN BILLIONSvaRILLIONS"]),
   (0x16B63, ["aaPAHAWH HMONG SIGN VOS LUBsaXYOOsaHLIsaTHIRD-STAGE HLIsaZWJ THAJsaHNUBsaNQIG",
     "saXIABsaNTUJsaAVsaTXHEEJ CEEVsaMEEJ TSEEBsaTAUsaLOSsaMUSsaCIM HAIS LUS NTOG NTOG",
     "waCUAM TSHOOJwaTXWV!a CHWVwaPUB DAWBwaNRES TOS"]),
   (0x16B7D, ["aaPAHAWH HMONG CLAN SIGN TSHEEJxaYEEGxaLISyaAUJxaXYOOJxaKOOxaHAWJxaMUASxaTHOJ",
     "yaSABxaPHABxaKHABxaHAMxaVAJxaFAJxaYAJxaTSWBxaKWMxaVWJ"]),
   (0x16E40, ["aaMEDEFAIDRIN CAPITAL LETTER M#aS#aV#aW#aATIU#aZ#aKP#aP#aT#aG#aF#aI#aK#aA#aJ#aE",
     "#aB#aC#aU#aYU#aL#aQ#aHP#aNY#aX#aD#aOE#aN#aR#aO#aAI#aYmaSMALL LETTER MzaSzaVzaWzaATIUzaZ",
     "zaKPzaPzaTzaGzaFzaIzaKzaAzaJzaEzaBzaCzaUzaYUzaLzaQzaHPzaNYzaXzaDzaOEzaNzaRzaOzaAIzaY",
     "maDIGIT ZEROsaONEsaTWOtaHREEsaFOURtaIVEsaSIXtaEVENsaEIGHTsaNINEmaNUMBER TENtaELEVEN",
     "taTWELVEuaHIRTEENtaFOURTEENuaIFTEENtaSIXTEENuaEVENTEENtaEIGHTEENtaNINETEEN",
     "maDIGIT ONE ALTERNATE FORMspTWOtpHREEmaCOMMAmaFULL STOPmaSYMBOL AIVAmaEXCLAMATION OH"]),
   (0x16F00, ["aaMIAO LETTER PAmaBAmaYI PAmaPLAmaMAnaHAmaARCHAIC MAmaFAmaVAnaFAmaTAmaDAmaYI TTA",
     "qaAmaTTAmaDDAmaNAnaHAmaYI NNAmaARCHAIC NAmaNNAoaHAmaLAnaYAnaHAoaYAmaTLHAmaDLHAmaTLHYA",
     "maDLHYAmaKAmaGAmaYI KAmaQAnaGAmaNGAoaHAmaARCHAIC NGAmaHAmaXAmaGHAoaHAmaTSSAmaDZZAmaNYAoaHA",
     "maTSHAmaDZHAmaYI TSHApaDZHAmaREFORMED TSHAmaSHAnaSAmaZHAnaSHAmaTSAmaDZAmaYI TSAmaSAmaZA",
     "naSAnaZAoaSAmaARCHAIC ZZAmaZZYAoaSYAmaWAmaAHmaHHAmaBRImaSYImaDZYImaTEnaSEmaRTE"]),
   (0x16F4F, ["aaMIAO SIGN CONSONANT MODIFIER BARfaLETTER NASALIZATIONfaSIGN ASPIRATION",
     "kaREFORMED VOICINGtaASPIRATIONfaVOWEL SIGN AraAraHHraNsaGqaOraOqaWOraqaEraNsaGqaOEYqaIraA",
     "saNtaGraOraEraIraUraNGqaUraAsaNtaGraUraEIraNGqaYraIqaAEsaEqaERRqaROUNDED ERRqaER",
     "qaROUNDED ERqaAIqaEIqaAUqaOUqaNraGqaUOGqaYUIqaOGraERqaVWqaIGqaEAqaIONGqaUI"]),
   (0x16F8F, ["aaMIAO TONE RIGHTkaTOP RIGHTkaABOVEkaBELOWfaLETTER TONE-2ra3ra4ra5ra6ra7ra8",
     "maREFORMED TONE-1!a2!a4!a5!a6!a8"]),
   (0x16FE0, ["aaTANGUT ITERATION MARKapNUSHUafOLD CHINESE HOOKmfITERATION",
     "aaKHITAN SMALL SCRIPT FILLER"]),
   (0x16FF0, ["aaVIETNAMESE ALTERNATE READING MARK CA+aNHAY"]),
   (0x18800, ["aaTANGUT COMPONENT-001ta2ta3ta4ta5ta6ta7ta8ta9sa10ta1ta2ta3ta4ta5ta6ta7ta8ta9sa20",
     "ta1ta2ta3ta4ta5ta6ta7ta8ta9sa30ta1ta2ta3ta4ta5ta6ta7ta8ta9sa40ta1ta2ta3ta4ta5ta6ta7ta8ta9",
     "sa50ta1ta2ta3ta4ta5ta6ta7ta8ta9sa60ta1ta2ta3ta4ta5ta6ta7ta8ta9sa70ta1ta2ta3ta4ta5ta6ta7ta8",
     "ta9sa80ta1ta2ta3ta4ta5ta6ta7ta8ta9sa90ta1ta2ta3ta4ta5ta6ta7ta8ta9ra100ta1ta2ta3ta4ta5ta6",
     "ta7ta8ta9sa10ta1ta2ta3ta4ta5ta6ta7ta8ta9sa20ta1ta2ta3ta4ta5ta6ta7ta8ta9sa30ta1ta2ta3ta4ta5",
     "ta6ta7ta8ta9sa40ta1ta2ta3ta4ta5ta6ta7ta8ta9sa50ta1ta2ta3ta4ta5ta6ta7ta8ta9sa60ta1ta2ta3ta4",
     "ta5ta6ta7ta8ta9sa70ta1ta2ta3ta4ta5ta6ta7ta8ta9sa80ta1ta2ta3ta4ta5ta6ta7ta8ta9sa90ta1ta2ta3",
     "ta4ta5ta6ta7ta8ta9ra200ta1ta2ta3ta4ta5ta6ta7ta8ta9sa10ta1ta2ta3ta4ta5ta6ta7ta8ta9sa20ta1",
     "ta2ta3ta4ta5ta6ta7ta8ta9sa30ta1ta2ta3ta4ta5ta6ta7ta8ta9sa40ta1ta2ta3ta4ta5ta6ta7ta8ta9sa50",
     "ta1ta2ta3ta4ta5ta6ta7ta8ta9sa60ta1ta2ta3ta4ta5ta6ta7ta8ta9sa70ta1ta2ta3ta4ta5ta6ta7ta8ta9",
     "sa80ta1ta2ta3ta4ta5ta6ta7ta8ta9sa90ta1ta2ta3ta4ta5ta6ta7ta8ta9ra300ta1ta2ta3ta4ta5ta6ta7",
     "ta8ta9sa10ta1ta2ta3ta4ta5ta6ta7ta8ta9sa20ta1ta2ta3ta4ta5ta6ta7ta8ta9sa30ta1ta2ta3ta4ta5ta6",
     "ta7ta8ta9sa40ta1ta2ta3ta4ta5ta6ta7ta8ta9sa50ta1ta2ta3ta4ta5ta6ta7ta8ta9sa60ta1ta2ta3ta4ta5",
     "ta6ta7ta8ta9sa70ta1ta2ta3ta4ta5ta6ta7ta8ta9sa80ta1ta2ta3ta4ta5ta6ta7ta8ta9sa90ta1ta2ta3ta4",
     "ta5ta6ta7ta8ta9ra400ta1ta2ta3ta4ta5ta6ta7ta8ta9sa10ta1ta2ta3ta4ta5ta6ta7ta8ta9sa20ta1ta2",
     "ta3ta4ta5ta6ta7ta8ta9sa30ta1ta2ta3ta4ta5ta6ta7ta8ta9sa40ta1ta2ta3ta4ta5ta6ta7ta8ta9sa50ta1",
     "ta2ta3ta4ta5ta6ta7ta8ta9sa60ta1ta2ta3ta4ta5ta6ta7ta8ta9sa70ta1ta2ta3ta4ta5ta6ta7ta8ta9sa80",
     "ta1ta2ta3ta4ta5ta6ta7ta8ta9sa90ta1ta2ta3ta4ta5ta6ta7ta8ta9ra500ta1ta2ta3ta4ta5ta6ta7ta8ta9",
     "sa10ta1ta2ta3ta4ta5ta6ta7ta8ta9sa20ta1ta2ta3ta4ta5ta6ta7ta8ta9sa30ta1ta2ta3ta4ta5ta6ta7ta8",
     "ta9sa40ta1ta2ta3ta4ta5ta6ta7ta8ta9sa50ta1ta2ta3ta4ta5ta6ta7ta8ta9sa60ta1ta2ta3ta4ta5ta6ta7",
     "ta8ta9sa70ta1ta2ta3ta4ta5ta6ta7ta8ta9sa80ta1ta2ta3ta4ta5ta6ta7ta8ta9sa90ta1ta2ta3ta4ta5ta6",
     "ta7ta8ta9ra600ta1ta2ta3ta4ta5ta6ta7ta8ta9sa10ta1ta2ta3ta4ta5ta6ta7ta8ta9sa20ta1ta2ta3ta4",
     "ta5ta6ta7ta8ta9sa30ta1ta2ta3ta4ta5ta6ta7ta8ta9sa40ta1ta2ta3ta4ta5ta6ta7ta8ta9sa50ta1ta2ta3",
     "ta4ta5ta6ta7ta8ta9sa60ta1ta2ta3ta4ta5ta6ta7ta8ta9sa70ta1ta2ta3ta4ta5ta6ta7ta8ta9sa80ta1ta2",
     "ta3ta4ta5ta6ta7ta8ta9sa90ta1ta2ta3ta4ta5ta6ta7ta8ta9ra700ta1ta2ta3ta4ta5ta6ta7ta8ta9sa10",
     "ta1ta2ta3ta4ta5ta6ta7ta8ta9sa20ta1ta2ta3ta4ta5ta6ta7ta8ta9sa30ta1ta2ta3ta4ta5ta6ta7ta8ta9",
     "sa40ta1ta2ta3ta4ta5ta6ta7ta8ta9sa50ta1ta2ta3ta4ta5ta6ta7ta8ta9sa60ta1ta2ta3ta4ta5ta6ta7ta8"]),
   (0x1AFF0, ["aaKATAKANA LETTER MINNAN TONE-2$a3$a4$a5"]),
   (0x1AFF5, ["aaKATAKANA LETTER MINNAN TONE-7$a8xaNASALIZED TONE-1;a2;a3;a4;a5"]),
   (0x1AFFD, ["aaKATAKANA LETTER MINNAN NASALIZED TONE-7;a8"]),
   (0x1B000, ["aaKATAKANA LETTER ARCHAIC EaaHIRAGANA LETTER ARCHAIC YEbaENTAIGANA LETTER A-1ua2",
     "ua3uaWOsaI-1ua2ua3ua4saU-1ua2ua3ua4ua5saE-2ua3ua4ua5ua6saO-1ua2ua3saKA-1va2va3va4va5va6va7",
     "va8va9va10wa1vaKEtaI-1va2va3va4va5va6va7va8taU-1va2va3va4va5va6va7taE-1va2va3va4va5va6",
     "taO-1va2va3vaKIsaSA-1va2va3va4va5va6va7va8taI-1va2va3va4va5va6taU-1va2va3va4va5va6va7va8",
     "taE-1va2va3va4va5taO-1va2va3va4va5va6va7saTA-1va2va3va4taI-1va2va3va4va5va6va7taU-1va2va3",
     "va4vaTOtaE-1va2va3va4va5va6va7va8va9taO-1va2va3va4va5va6vaRAsaNA-1va2va3va4va5va6va7va8va9",
     "taI-1va2va3va4va5va6va7vaTEtaU-1va2va3taE-1va2va3va4va5va6vaKOtaO-1va2va3va4va5saHA-1va2",
     "va3va4va5va6va7va8va9va10wa1taI-1va2va3va4va5va6va7taU-1va2va3taE-1va2va3va4va5va6va7taO-1",
     "va2va3va4va5va6va7va8saMA-1va2va3va4va5va6va7taI-1va2va3va4va5va6va7taU-1va2va3va4taE-1va2",
     "vaMAtaO-1va2va3va4va5va6saYA-1va2va3va4va5vaYOtaU-1va2va3va4taO-1va2va3va4va5va6saRA-1va2",
     "va3va4taI-1va2va3va4va5va6va7taU-1va2va3va4va5va6taE-1va2va3va4taO-1va2va3va4va5va6saWA-1",
     "va2va3va4va5taI-1va2va3va4va5taE-1va2va3va4taO-1va2va3va4va5va6va7saN-MU-MO-1!a2",
     "baIRAGANA LETTER ARCHAIC WUaaKATAKANA LETTER ARCHAIC YIzaEyaWU"]),
   (0x1B150, ["aaHIRAGANA LETTER SMALL WIxaExaO"]),
   (0x1B164, ["aaKATAKANA LETTER SMALL WIxaExaOwaN"]),
   (0x1BC00, ["aaDUPLOYAN LETTER HqaXqaPqaTqaFqaKqaLqaBqaDqaVqaGqaRqaP NqaD SqaF NqaK MqaR SqaTH",
     "qaSLOAN DHqaDHqaKKqaSLOAN JqaHLqaLHqaRHqaMqaNqaJqaSqaM NqaN MqcJqaS JqaM WITH DOTqjNqjJ",
     "!aS INSIDE AND ABOVEqaS WITH DOT!a BELOWqaM SqcNqcJqcSqcM NqcN MqeJqcS JqaJ S WITH DOTsaN",
     "ta SqaS Tta RsaPta RqaT SsaR SqaWraHra RqaS NsaMqaK R SqeGqaS Kta RqaAqaSLOAN OWqaOAra",
     "qaAOUqaIqaEqaIEqaSHORT IqaUIqaEEqaSLOAN EHqaROMANIAN IqaSLOAN EEqaLONG IqaYEqaUqaEUqaXW",
     "qaU NqaLONG UqcROMANIANqaUHqaSLOAN UqaOOHraWraUqaWAraOraIraEIraOWqaNASAL UwaOwaIwaA",
     "qaPERNIN ANyaMqaSLOAN ENwaANwaONqaVOCALIC M"]),
   (0x1BC70, ["aaDUPLOYAN AFFIX LEFT HORIZONTAL SECANTpsMIDpsRIGHTphLOW VERTICALpqMIDpqHIGH",
     "phATTACHEDyaLEFT-TO-RIGHT SECANTyaTANGENT!aILyaE HOOKyfIyfTANGENT"]),
   (0x1BC80, ["aaDUPLOYAN AFFIX HIGH ACUTEuaTIGHT ACUTEuaGRAVEuaLONG GRAVEuaDOTuaCIRCLEuaLINE",
     "uaWAVEuaVERTICAL"]),
   (0x1BC90, ["aaDUPLOYAN AFFIX LOW ACUTEtaTIGHT ACUTEtaGRAVEtaLONG GRAVEtaDOTtaCIRCLEtaLINE",
     "taWAVEtaVERTICALtaARROW"]),
   (0x1BC9C, ["aaDUPLOYAN SIGN O WITH CROSSjaTHICK LETTER SELECTORjaDOUBLE MARK",
     "jaPUNCTUATION CHINOOK FULL STOPaaSHORTHAND FORMAT LETTER OVERLAPriCONTINUINGraDOWN STEP",
     "rfUP"]),
   (0x1CF00, ["aaZNAMENNY COMBINING MARK GORAZDO NIZKO S KRYZHEM ON LEFTysNIZKOyiTSATA",
     "yiGORAZDO NIZKOyiNIZKOyiSREDNEyiMALO POVYSHEyiPOVYSHEyiVYSOKOyiMALO POVYSHE S KHOKHLOM",
     "ytPOVYSHEytVYSOKOyaGORAZDO NIZKO S KRYZHEM ON RIGHTytNIZKOyjTSATAyjGORAZDO NIZKOyjNIZKO",
     "yjSREDNEyjMALO POVYSHEyjPOVYSHEyjVYSOKOyjMALO POVYSHE S KHOKHLOMyuPOVYSHEyuVYSOKO",
     "yaTSATA S KRYZHEMykMALO POVYSHEyaSTRANNO MALO POVYSHEyaPOVYSHE S KRYZHEM*aTRANNO",
     "yaVYSOKO S KRYZHEMyaMALO POVYSHE STRANNOyaGORAZDO VYSOKOyaZELOyaONyaRAVNOyaTIKHAYA",
     "yaBORZAYAyaUDARKAyaPODVERTKAyaLOMKAyaKUPNAYAzaACHKAyaZEVOKyaSKOBAyaRAZSEKAyaKRYZH ON LEFT"]),
   (0x1CF30, ["aaZNAMENNY COMBINING TONAL RANGE MARK MRACHNO.aSVETLO.aTRESVETLOtaMARK ZADERZHKA",
     "yaDEMESTVENNY ZADERZHKAyaOTSECHKAyaPODCHASHIE+a WITH VERTICAL STROKEyaCHASHKA(a POLNAYA",
     "yaOBLACHKOyaSOROCHYA NOZHKAyaTOCHKAyaDVOETOCHIEtaATTACHING VERTICAL OMETtfMARK CURVED",
     "yaKRYZHtaLOWER TONAL RANGE INDICATORjaPRIZNAK MODIFIER LEVEL-2)a3!aDIRECTION FLIP!aKRYZH",
     "!aROG"]),
   (0x1CF50, ["aaZNAMENNY NEUME KRYUKua TIKHYpaPARAKLITpaDVA V CHELNUpaKLYUCHpaZANOZHEK",
     "paSTOPITSAxa S OCHKOMpaPEREVODKAya NEPOSTOYANNAYApaSTOPITSA WITH SOROCHYA NOZHKA",
     "paCHELYUSTKApaPALKApaZAPYATAYApaGOLUBCHIK BORZYzaTIKHYzaMRACHNYzaSVETLYzaTRESVETLY",
     "paVRAKHIYA PROSTAYAyaMRACHNAYAyaSVETLAYAyaTRESVETLAYAyaKLYUCHEVAYA PROSTAYA.aMRACHNAYA",
     ".aSVETLAYA.aTRESVETLAYApaDOUBLE ZAPYATAYApaREVERSED CHELYUSTKApaDERBITSApaKHAMILOpaCHASHKA",
     "paPODCHASHIEpaSKAMEYTSA MRACHNAYAzaSVETLAYAzaTRESVETLAYA!aIKHAYApaDEMESTVENNY KLYUCH",
     "paSKAMEYTSA KLYUCHEVAYA SVETLAYA)aNEPOSTOYANNAYA)aVAYA TIKHAYAzaDVOECHELNAYA PROSTAYA",
     ";aSVETLAYA;aNEPOSTOYANNAYA;aKLYUCHEVAYAqaLOZHITIEya S ZAPYATOYzaZAKRYTOEzaS KRYZHEMpaKRYZH",
     "paROGpaFITApaKOBYLApaZMEYTSApaSTATYAva S ZAPYATOYyaKRYZHEMyaZAPYATOY I KRYZHEM",
     "yaKRYZHEM I ZAPYATOYwaZAKRYTAYA(a S ZAPYATOYwaS ROGOMyaDVUMYA ZAPYATYMI",
     "yaZAPYATOY I PODCHASHIEMpaPOLKULIZMYpaSTATYA NEPOSTOYANNAYAraRELA PROSTAYAwaMRACHNOTIKHAYA",
     "waKRYZHEVAYAwaPOLUPOVODNAYAyaVODNAYAwaNEPOSTOYANNAYAwaKLYUCHEPOVODNAYA%aNEPOSTOYANNAYA",
     "waTIKHAYA PUTNAYAwaDVOECHELNAYA(aOKRYZHEVAYA)aPOVODNAYA(aAYA KLYUCHEVAYA(mOPOVODNAYA",
     "waGROMNAYA WITH SINGLE ZAPYATAYA!wOPOVODNAYA!aNAYA!aOPOVODNAYA.a WITH DOUBLE ZAPYATAYA",
     "#aKRYZHEVAYA:a POVODNAYApaMECHIKva POVODNYwaKLYUCHEVOY%aPOVODNY%aNEPOSTOYANNY",
     "paSTRELA TRYASOGLASNAYA$aPOVODNAYA$aSTRELNAYApaOSOKAua SVETLAYAvaTRESVETLAYA",
     "vaKRYUKOVAYA SVETLAYAwjLYUCHEVAYA*aNEPOSTOYANNAYApaSTRELA KRYUKOVAYA)a POVODNAYA",
     "*aGROMNAYA WITH SINGLE ZAPYATAYA:wOPOVODNAYA:aNAYA:aOPOVODNAYA|a WITH DOUBLE ZAPYATAYA",
     ";aKRYZHEVAYA~a POVODNAYA*aTRYASKApaKUFISMApaOBLAKOpaDUDApaNEMKApaPAUK"]),
   (0x1D000, ["aaBYZANTINE MUSICAL SYMBOL PSILIzaDASEIAzaPERISPOMENIzaOXEIA EKFONITIKON(aDIPLI",
     "zaVAREIA EKFONITIKON)aDIPLIzaKATHISTIzaSYRMATIKIzaPARAKLITIKIzaYPOKRISIS+a DIPLIzaKREMASTI",
     "zaAPESO EKFONITIKONzmEXOzaTELEIAzaKENTIMATAzaAPOSTROFOS,a DIPLIzaSYNEVMAzaTHITA",
     "zaOLIGON ARCHAIONzjGORGONzaPSILONzaCHAMILONzaVATHYzaISON ARCHAIONzjKENTIMA)jTAzaSAXIMATA",
     "zaPARICHONzaSTAVROS APODEXIAzaOXEIAI ARCHAIONzjVAREIAIzjAPODERMA$aTHEMAzaKLASMAzaREVMA",
     "zaPIASMA ARCHAIONzaTINAGMAzaANATRICHISMAzaSEISMA!aYNAGMA ARCHAION*aMETA STAVROU",
     "zaOYRANISMA ARCHAIONzaTHEMAzaLEMOIzaDYOzaTRIA!aESSERAzaKRATIMATAzaAPESO EXO NEO",
     "zaFTHORA ARCHAIONzaIMIFTHORAzaTROMIKON ARCHAIONzaKATAVA TROMIKONzaPELASTON!aSIFISTON",
     "zaKONTEVMAzaCHOREVMA ARCHAIONzaRAPISMAzaPARAKALESMA ARCHAION&jLITIKIzaICHADINzaNANA",
     "zaPETASMAzaKONTEVMA ALLOzfTROMIKONzaSTRAGGISMATAzaGRONTHISMATAzaISON NEOzeOLIGON!eXEIA",
     "zaPETASTIzaKOUFISMAzaPETASTOKOUFISMAzaKRATIMOKOUFISMAzaPELASTON NEOzaKENTIMATA NEO ANO)i",
     "zaYPSILIzaAPOSTROFOS NEO+eI SYNDESMOSzaYPORROIzaKRATIMOYPORROONzaELAFRONzaCHAMILI",
     "zaMIKRON ISONzaVAREIA NEOzePIASMA!eSIFISTONzaOMALONzaANTIKENOMAzaLYGISMAzaPARAKLITIKI NEO",
     "&eALESMAzaETERON PARAKALESMAzaKYLISMAzaANTIKENOKYLISMAzaTROMIKON NEOzaEKSTREPTON",
     "zaSYNAGMA NEO#aRMAzaCHOREVMA NEOzaEPEGERMAzaSEISMA NEOzaXIRON KLASMAzaTROMIKOPSIFISTON",
     "zaPSIFISTOLYGISMAzaTROMIKOLYGISMA)aPARAKALESMAzaPSIFISTOPARAKALESMAzaTROMIKOSYNAGMA",
     "zaPSIFISTOSYNAGMAzaGORGOSYNTHETONzaARGOSYNTHETONzaETERON ARGOSYNTHETONzaOYRANISMA NEO",
     "zaTHEMATISMOS ESO;aXO&a APLOUN$aS KAI APOTHESzaKATAVASMAzaENDOFONONzaYFEN KATO&aANO",
     "zaSTAVROSzaKLASMA ANOzaDIPLI ARCHAIONzjKRATIMA+aLLO*aNEOzeAPODERMA#aLIzaDIPLIzaTRIPLI",
     "!aETRAPLIzaKORONISzaLEIMMA ENOS CHRONOU)aDYO CHRONON)iTRION*iESSARON)aIMISEOS CHRONOU",
     "zaGORGON NEO ANO)aPARESTIGMENON ARISTERA_aDEXIAzaDIGORGON*a PARESTIGMENON ARISTERA KATO",
     "~aARISTERA ANO~aDEXIAzaTRIGORGONzaARGONzaIMIDIARGONzaDIARGONzaAGOGI POLI ARGI(aARGOTERI+aI",
     "(aMETRIA*aSI(aGORGI,aOTERI(aPOLI GORGIzaMARTYRIA PROTOS ICHOS+gALLI PROTOS+gDEYTEROS",
     "+gALLI DEYTEROS+gTRITOS:aFONIAS,aETARTOS ICHOS[aLEGETOS ICHOS+gLEGETOS+gPLAGIOS",
     "zaISAKIA TELOUS ICHIMATOSzrAPOSTROFOIzaFANEROSIS TETRAFONIAS,aMONOFONIAS,aDIFONIAS",
     "zaMARTYRIA VARYS ICHOS+gPROTOVARYS,gLAGIOS TETARTOSzaGORTHMIKON N APLOUN;aDIPLOUN",
     "zaENARXIS KAI FTHORA VOUzaIMIFONON%aTHORONzaFTHORA ARCHAION DEYTEROU ICHOU)aDIATONIKI PA",
     "@aNANA)aNAOS ICHOS)aDIATONIKI DI)dSKLIRON DIATONON)aDIATONIKI KE@aZO@aNI KATO^aANO",
     ")aMALAKON CHROMA DIFONIAS|aMONOFONIAS!aHTORA SKLIRON CHROMA VASIS",
     "!aTHORA SKLIRON CHROMA SYNAFI)aNENANOzaCHROA ZYGOS(aKLITON(aSPATHI",
     "zaFTHORA I YFESIS TETARTIMORION)aENARMONIOS ANTIFONIAzaYFESIS TRITIMORIONzmDIESIS",
     "*aETARTIMORION)aAPLI DYO DODEKATA)jMONOGRAMMOS TESSERA)jDIGRAMMOS EX)jTRIGRAMMOS OKTO",
     "zjYFESIS APLI DYO)jMONOGRAMMOS TESSERA)jDIGRAMMOS EX)jTRIGRAMMOS OKTOzaGENIKI DIESIS",
     ")aYFESISzaDIASTOLI APLI MIKRI>aEGALI+aDIPLI+aTHESEOSziSIMANSIS?a DISIMOU@aTRISIMOU",
     "[aETRASIMOU+aARSEOS>a DISIMOU?aTRISIMOU@aETRASIMOUzaDIGRAMMA GG#aFTOGGOS OUzaSTIGMA",
     "zaARKTIKO PA*aVOU*aGA*aDI*aKE*aZO*aNIzaKENTIMATA NEO MESO)j)aTA NEO KATO)j!fLASMA",
     "zfGORGON NEO"]),
   (0x1D100, ["aaMUSICAL SYMBOL SINGLE BARLINEpiDOUBLEpiFINALpiREVERSE FINALpiDASHEDpiSHORT",
     "paLEFT REPEAT SIGNpmRIGHTqaEPEAT DOTSpaDAL SEGNOra CAPOpaSEGNOpaCODApaREPEATED FIGURE-1(a2",
     "(a3paFERMATAwa BELOWpaBREATH MARKpaCAESURApaBRACEtaKETpaONE-LINE STAFFplTWOqlHREEplFOUR",
     "qlIVEplSIXtaSTRING FRETBOARDprFOURpaG CLEFva OTTAVA ALTA%aBASSApaC CLEFpfFva OTTAVA ALTA",
     "%aBASSApaDRUM CLEF-1za2"]),
   (0x1D129, ["aaMUSICAL SYMBOL MULTIPLE MEASURE RESTpaDOUBLE SHARPwaFLATpaFLAT UPuaDOWN",
     "paNATURAL UPxaDOWNpaSHARP UPvaDOWNpaQUARTER TONE SHARP$aFLATpaCOMMON TIMEqfUTpaOTTAVA ALTA",
     "waBASSApaQUINDICESIMA ALTA$aBASSApaMULTI RESTpfWHOLEpfHALFpfQUARTERpfEIGHTHpfSIXTEENTH",
     "pfTHIRTY-SECONDpfSIXTY-FOURTHpfONE HUNDRED TWENTY-EIGHTHpaX NOTEHEADpjPLUSpjCIRCLE X",
     "paSQUARE NOTEHEAD WHITE(aBLACKpaTRIANGLE NOTEHEAD UP WHITE.aBLACK*aLEFT WHITE;aBLACK",
     "*aRIGHT WHITE<aBLACK*aDOWN WHITE;aBLACK*aUP RIGHT WHITE@aBLACKpaMOON NOTEHEAD WHITE%aBLACK",
     "paTRIANGLE-ROUND NOTEHEAD DOWN WHITE]aBLACKpaPARENTHESIS NOTEHEADpjVOIDpaNOTEHEAD BLACK",
     "qaULL NOTEHEADpaCLUSTER NOTEHEAD WHITE)aBLACKpaBREVEpaWHOLE NOTEpfHALFpfQUARTERpfEIGHTH",
     "pfSIXTEENTHpfTHIRTY-SECONDpfSIXTY-FOURTHpfONE HUNDRED TWENTY-EIGHTHpaCOMBINING STEM",
     "!aPRECHGESANG STEMzaTREMOLO-1*a2*a3paFINGERED TREMOLO-1)a2)a3paCOMBINING AUGMENTATION DOT",
     "zaFLAG-1&a2&a3&a4&a5paBEGIN BEAMpfENDpaBEGIN TIEpeENDpaBEGIN SLURpfENDpaBEGIN PHRASEphEND",
     "paCOMBINING ACCENTzaSTACCATOzaTENUTOzaSTACCATISSIMOzaMARCATO)a-STACCATOzjACCENTzaLOURE",
     "paARPEGGIATO UP!aDOWNpaCOMBINING DOITzaRIPzaFLIPzaSMEARzaBENDzaDOUBLE TONGUEzhTRIPLE",
     "paRINFORZANDOpaSUBITOpaZpaPIANOpaMEZZOpaFORTEpaCRESCENDOpaDECRESCENDOpaGRACE NOTE SLASH",
     "!aNO SLASHpaTRqaURNpaINVERTED TURNpaTURN SLASHuaUPpaORNAMENT STROKE-1(a2(a3(a4(a5(a6(a7(a8",
     "(a9(a10)a1paHAUPTSTIMMEpaNEBENSTIMMEpaEND OF STIMMEpaDEGREE SLASHpaCOMBINING DOWN BOWzeUP",
     "zaHARMONICzaSNAP PIZZICATOpaPEDAL MARKvaUP MARKpfHALF PEDALpaGLISSANDO UPzaDOWN",
     "paWITH FINGERNAILSpaDAMPta ALLpaMAXIMApaLONGApaBREVISpaSEMIBREVIS WHITE!aBLACKpaMINIMA",
     "va BLACKpaSEMIMINIMA WHITE!aBLACKpaFUSA WHITEuaBLACKpaLONGA PERFECTA RESTvfIMPERFECTA",
     "pfBREVISpfSEMIBREVISpfMINIMApfSEMIMINIMApaTEMPUS PERFECTUM CUM PROLATIONE PERFECTA",
     "|aIMPERFECTA|aPERFECTA DIMINUTION-1waIMPERFECTUM CUM PROLATIONE PERFECTA~a IMPERFECTA",
     "~a IMPERFECTA DIMINUTION-1~a IMPERFECTA DIMINUTION-2~a IMPERFECTA DIMINUTION-3paCROIX",
     "paGREGORIAN C CLEFzfFpaSQUARE BpaVIRGApaPODATUSpaCLIVISpaSCANDICUSpaCLIMACUSpaTORCULUS",
     "paPORRECTUSya FLEXUSphSCANDICUSpaTORCULUS RESUPINUSpaPES SUBPUNCTISpaKIEVAN C CLEF",
     "waEND OF PIECEwaFINAL NOTEwaRECITATIVE MARKwaWHOLE NOTEwfHALFwaQUARTER NOTE STEM DOWN>aUP",
     "waEIGHTH NOTE STEM DOWN<aUPwaFLAT SIGNpaSORIpaKORON"]),
   (0x1D200, ["aaGREEK VOCAL NOTATION SYMBOL-1$a2$a3$a4$a5$a6$a7$a8$a9$a10%a1%a2%a3%a4%a5%a6%a7",
     "%a8%a9$a20%a1%a2%a3%a4$a50%a1%a2%a3%a4gaINSTRUMENTAL NOTATION SYMBOL-1,a2,a4,a5,a7,a8,a11",
     ".a2.a3.a4.a7.a8.a9,a23.a4.a5.a6.a7.a9,a30.a2.a6.a7.a8.a9,a40.a2.a3.a5.a7.a8.a9,a50.a1.a2",
     ".a3.a4aaCOMBINING GREEK MUSICAL TRISEMEzaETRASEMEyaPENTASEMEaaGREEK MUSICAL LEIMMA"]),
   (0x1D2E0, ["aaMAYAN NUMERAL ZEROoaONEoaTWOpaHREEoaFOURpaIVEoaSIXpaEVENoaEIGHToaNINEoaTEN",
     "oaELEVENoaTWELVEpaHIRTEENoaFOURTEENpaIFTEENoaSIXTEENpaEVENTEENoaEIGHTEENoaNINETEEN"]),
   (0x1D300, ["aaMONOGRAM FOR EARTHagDIGRAM FOR HEAVENLYmgUMANlaEARTHLY HEAVENuaUMANqa",
     "aaTETRAGRAM FOR CENTREoaFULL CIRCLEoaMIREDoaBARRIERoaKEEPING SMALLoaCONTRARIETYoaASCENT",
     "oaOPPOSITIONoaBRANCHING OUToaDEFECTIVENESS OR DISTORTIONpaIVERGENCEoaYOUTHFULNESS",
     "oaINCREASEoaPENETRATIONoaREACHoaCONTACToaHOLDING BACKoaWAITINGoaFOLLOWINGoaADVANCE",
     "oaRELEASEqaSISTANCEoaEASEoaJOYoaCONTENTIONoaENDEAVOURoaDUTIESoaCHANGEoaDECISIVENESS",
     "oaBOLD RESOLUTIONoaPACKINGoaLEGIONoaCLOSENESSoaKINSHIPoaGATHERINGoaSTRENGTHoaPURITY",
     "oaFULLNESSoaRESIDENCEoaLAW OR MODELoaRESPONSEoaGOING TO MEEToaENCOUNTERSoaSTOVEoaGREATNESS",
     "oaENLARGEMENToaPATTERNoaRITUALoaFLIGHToaVASTNESS OR WASTINGoaCONSTANCYoaMEASUREoaETERNITY",
     "oaUNITYoaDIMINISHMENToaCLOSED MOUTHoaGUARDEDNESSpaATHERING INoaMASSINGoaACCUMULATION",
     "oaEMBELLISHMENToaDOUBToaWATCHoaSINKINGoaINNERoaDEPARTUREpaARKENINGpaIMMINGoaEXHAUSTION",
     "oaSEVERANCEpaTOPPAGEoaHARDNESSoaCOMPLETIONpaLOSUREoaFAILUREoaAGGRAVATIONoaCOMPLIANCE",
     "oaON THE VERGEoaDIFFICULTIESoaLABOURINGoaFOSTERING"]),
   (0x1D360, ["aaCOUNTING ROD UNIT DIGIT ONEyaTWOzaHREEyaFOURzaIVEyaSIXzaEVENyaEIGHTyaNINE",
     "naTENS DIGIT ONEyaTWOzaHREEyaFOURzaIVEyaSIXzaEVENyaEIGHTyaNINEaaIDEOGRAPHIC TALLY MARK ONE",
     "xaTWOyaHREExaFOURyaIVEaaTALLY MARK ONElaFIVE"]),
   (0x1D400, ["aaMATHEMATICAL BOLD CAPITAL A!aB!aC!aD!aE!aF!aG!aH!aI!aJ!aK!aL!aM!aN!aO!aP!aQ!aR",
     "!aS!aT!aU!aV!aW!aX!aY!aZsaSMALL AyaByaCyaDyaEyaFyaGyaHyaIyaJyaKyaLyaMyaNyaOyaPyaQyaRyaSyaT",
     "yaUyaVyaWyaXyaYyaZnaITALIC CAPITAL A$aB$aC$aD$aE$aF$aG$aH$aI$aJ$aK$aL$aM$aN$aO$aP$aQ$aR$aS",
     "$aT$aU$aV$aW$aX$aY$aZuaSMALL A!aB!aC!aD!aE!aF!aG"]),
   (0x1D456, ["aaMATHEMATICAL ITALIC SMALL I!aJ!aK!aL!aM!aN!aO!aP!aQ!aR!aS!aT!aU!aV!aW!aX!aY!aZ",
     "naBOLD ITALIC CAPITAL A*aB*aC*aD*aE*aF*aG*aH*aI*aJ*aK*aL*aM*aN*aO*aP*aQ*aR*aS*aT*aU*aV*aW",
     "*aX*aY*aZzaSMALL A(aB(aC(aD(aE(aF(aG(aH(aI(aJ(aK(aL(aM(aN(aO(aP(aQ(aR(aS(aT(aU(aV(aW(aX(aY",
     "(aZnaSCRIPT CAPITAL A"]),
   (0x1D49E, ["aaMATHEMATICAL SCRIPT CAPITAL C$aD"]),
   (0x1D4A2, ["aaMATHEMATICAL SCRIPT CAPITAL G"]),
   (0x1D4A5, ["aaMATHEMATICAL SCRIPT CAPITAL J$aK"]),
   (0x1D4A9, ["aaMATHEMATICAL SCRIPT CAPITAL N$aO$aP$aQ"]),
   (0x1D4AE, ["aaMATHEMATICAL SCRIPT CAPITAL S$aT$aU$aV$aW$aX$aY$aZuaSMALL A!aB!aC!aD"]),
   (0x1D4BB, ["aaMATHEMATICAL SCRIPT SMALL F"]),
   (0x1D4BD, ["aaMATHEMATICAL SCRIPT SMALL H!aI!aJ!aK!aL!aM!aN"]),
   (0x1D4C5, ["aaMATHEMATICAL SCRIPT SMALL P!aQ!aR!aS!aT!aU!aV!aW!aX!aY!aZ",
     "naBOLD SCRIPT CAPITAL A*aB*aC*aD*aE*aF*aG*aH*aI*aJ*aK*aL*aM*aN*aO*aP*aQ*aR*aS*aT*aU*aV*aW",
     "*aX*aY*aZzaSMALL A(aB(aC(aD(aE(aF(aG(aH(aI(aJ(aK(aL(aM(aN(aO(aP(aQ(aR(aS(aT(aU(aV(aW(aX(aY",
     "(aZnaFRAKTUR CAPITAL A%aB"]),
   (0x1D507, ["aaMATHEMATICAL FRAKTUR CAPITAL D%aE%aF%aG"]),
   (0x1D50D, ["aaMATHEMATICAL FRAKTUR CAPITAL J%aK%aL%aM%aN%aO%aP%aQ"]),
   (0x1D516, ["aaMATHEMATICAL FRAKTUR CAPITAL S%aT%aU%aV%aW%aX%aY"]),
   (0x1D51E, ["aaMATHEMATICAL FRAKTUR SMALL A#aB#aC#aD#aE#aF#aG#aH#aI#aJ#aK#aL#aM#aN#aO#aP#aQ#aR",
     "#aS#aT#aU#aV#aW#aX#aY#aZnaDOUBLE-STRUCK CAPITAL A,aB"]),
   (0x1D53B, ["aaMATHEMATICAL DOUBLE-STRUCK CAPITAL D,aE,aF,aG"]),
   (0x1D540, ["aaMATHEMATICAL DOUBLE-STRUCK CAPITAL I,aJ,aK,aL,aM"]),
   (0x1D546, ["aaMATHEMATICAL DOUBLE-STRUCK CAPITAL O"]),
   (0x1D54A, ["aaMATHEMATICAL DOUBLE-STRUCK CAPITAL S,aT,aU,aV,aW,aX,aY"]),
   (0x1D552, ["aaMATHEMATICAL DOUBLE-STRUCK SMALL A*aB*aC*aD*aE*aF*aG*aH*aI*aJ*aK*aL*aM*aN*aO*aP",
     "*aQ*aR*aS*aT*aU*aV*aW*aX*aY*aZnaBOLD FRAKTUR CAPITAL A+aB+aC+aD+aE+aF+aG+aH+aI+aJ+aK+aL+aM",
     "+aN+aO+aP+aQ+aR+aS+aT+aU+aV+aW+aX+aY+aZ!aSMALL A)aB)aC)aD)aE)aF)aG)aH)aI)aJ)aK)aL)aM)aN)aO",
     ")aP)aQ)aR)aS)aT)aU)aV)aW)aX)aY)aZnaSANS-SERIF CAPITAL A)aB)aC)aD)aE)aF)aG)aH)aI)aJ)aK)aL",
     ")aM)aN)aO)aP)aQ)aR)aS)aT)aU)aV)aW)aX)aY)aZyaSMALL A&aB&aC&aD&aE&aF&aG&aH&aI&aJ&aK&aL&aM&aN",
     "&aO&aP&aQ&aR&aS&aT&aU&aV&aW&aX&aY&aZyaBOLD CAPITAL A:aB:aC:aD:aE:aF:aG:aH:aI:aJ:aK:aL:aM",
     ":aN:aO:aP:aQ:aR:aS:aT:aU:aV:aW:aX:aY:aZ%aSMALL A,aB,aC,aD,aE,aF,aG,aH,aI,aJ,aK,aL,aM,aN,aO",
     ",aP,aQ,aR,aS,aT,aU,aV,aW,aX,aY,aZyaITALIC CAPITAL A<aB<aC<aD<aE<aF<aG<aH<aI<aJ<aK<aL<aM<aN",
     "<aO<aP<aQ<aR<aS<aT<aU<aV<aW<aX<aY<aZ(aSMALL A:aB:aC:aD:aE:aF:aG:aH:aI:aJ:aK:aL:aM:aN:aO:aP",
     ":aQ:aR:aS:aT:aU:aV:aW:aX:aY:aZyaBOLD ITALIC CAPITAL A]aB]aC]aD]aE]aF]aG]aH]aI]aJ]aK]aL]aM",
     "]aN]aO]aP]aQ]aR]aS]aT]aU]aV]aW]aX]aY]aZ.aSMALL A@aB@aC@aD@aE@aF@aG@aH@aI@aJ@aK@aL@aM@aN@aO",
     "@aP@aQ@aR@aS@aT@aU@aV@aW@aX@aY@aZnaMONOSPACE CAPITAL A(aB(aC(aD(aE(aF(aG(aH(aI(aJ(aK(aL(aM",
     "(aN(aO(aP(aQ(aR(aS(aT(aU(aV(aW(aX(aY(aZxaSMALL A%aB%aC%aD%aE%aF%aG%aH%aI%aJ%aK%aL%aM%aN%aO",
     "%aP%aQ%aR%aS%aT%aU%aV%aW%aX%aY%aZnaITALIC SMALL DOTLESS I+aJ"]),
   (0x1D6A8, ["aaMATHEMATICAL BOLD CAPITAL ALPHA!aBETA!aGAMMA!aDELTA!aEPSILON!aZETA!aETA!aTHETA",
     "!aIOTA!aKAPPA!aLAMDA!aMU!aNU!aXI!aOMICRON!aPI!aRHO!aTHETA SYMBOL!aSIGMA!aTAU!aUPSILON!aPHI",
     "!aCHI!aPSI!aOMEGAsaNABLAsaSMALL ALPHAyaBETAyaGAMMAyaDELTAyaEPSILONyaZETAyaETAyaTHETAyaIOTA",
     "yaKAPPAyaLAMDAyaMUyaNUyaXIyaOMICRONyaPIyaRHOyaFINAL SIGMAyaSIGMAyaTAUyaUPSILONyaPHIyaCHI",
     "yaPSIyaOMEGAsaPARTIAL DIFFERENTIALsaEPSILON SYMBOLshTHETAshKAPPAshPHIshRHOshPI",
     "naITALIC CAPITAL ALPHA$aBETA$aGAMMA$aDELTA$aEPSILON$aZETA$aETA$aTHETA$aIOTA$aKAPPA$aLAMDA",
     "$aMU$aNU$aXI$aOMICRON$aPI$aRHO$aTHETA SYMBOL$aSIGMA$aTAU$aUPSILON$aPHI$aCHI$aPSI$aOMEGA",
     "uaNABLAuaSMALL ALPHA!aBETA!aGAMMA!aDELTA!aEPSILON!aZETA!aETA!aTHETA!aIOTA!aKAPPA!aLAMDA",
     "!aMU!aNU!aXI!aOMICRON!aPI!aRHO!aFINAL SIGMA!aSIGMA!aTAU!aUPSILON!aPHI!aCHI!aPSI!aOMEGA",
     "uaPARTIAL DIFFERENTIALuaEPSILON SYMBOLuhTHETAuhKAPPAuhPHIuhRHOuhPI",
     "naBOLD ITALIC CAPITAL ALPHA*aBETA*aGAMMA*aDELTA*aEPSILON*aZETA*aETA*aTHETA*aIOTA*aKAPPA",
     "*aLAMDA*aMU*aNU*aXI*aOMICRON*aPI*aRHO*aTHETA SYMBOL*aSIGMA*aTAU*aUPSILON*aPHI*aCHI*aPSI",
     "*aOMEGAzaNABLAzaSMALL ALPHA(aBETA(aGAMMA(aDELTA(aEPSILON(aZETA(aETA(aTHETA(aIOTA(aKAPPA",
     "(aLAMDA(aMU(aNU(aXI(aOMICRON(aPI(aRHO(aFINAL SIGMA(aSIGMA(aTAU(aUPSILON(aPHI(aCHI(aPSI",
     "(aOMEGAzaPARTIAL DIFFERENTIALzaEPSILON SYMBOLzhTHETAzhKAPPAzhPHIzhRHOzhPI",
     "naSANS-SERIF BOLD CAPITAL ALPHA:aBETA:aGAMMA:aDELTA:aEPSILON:aZETA:aETA:aTHETA:aIOTA",
     ":aKAPPA:aLAMDA:aMU:aNU:aXI:aOMICRON:aPI:aRHO:aTHETA SYMBOL:aSIGMA:aTAU:aUPSILON:aPHI:aCHI",
     ":aPSI:aOMEGA%aNABLA%aSMALL ALPHA,aBETA,aGAMMA,aDELTA,aEPSILON,aZETA,aETA,aTHETA,aIOTA",
     ",aKAPPA,aLAMDA,aMU,aNU,aXI,aOMICRON,aPI,aRHO,aFINAL SIGMA,aSIGMA,aTAU,aUPSILON,aPHI,aCHI",
     ",aPSI,aOMEGA%aPARTIAL DIFFERENTIAL%aEPSILON SYMBOL%hTHETA%hKAPPA%hPHI%hRHO%hPI",
     "%aITALIC CAPITAL ALPHA]aBETA]aGAMMA]aDELTA]aEPSILON]aZETA]aETA]aTHETA]aIOTA]aKAPPA]aLAMDA",
     "]aMU]aNU]aXI]aOMICRON]aPI]aRHO]aTHETA SYMBOL]aSIGMA]aTAU]aUPSILON]aPHI]aCHI]aPSI]aOMEGA",
     ".aNABLA.aSMALL ALPHA@aBETA@aGAMMA@aDELTA@aEPSILON@aZETA@aETA@aTHETA@aIOTA@aKAPPA@aLAMDA",
     "@aMU@aNU@aXI@aOMICRON@aPI@aRHO@aFINAL SIGMA@aSIGMA@aTAU@aUPSILON@aPHI@aCHI@aPSI@aOMEGA",
     ".aPARTIAL DIFFERENTIAL.aEPSILON SYMBOL.hTHETA.hKAPPA.hPHI.hRHO.hPInaBOLD CAPITAL DIGAMMA",
     "siSMALL"]),
   (0x1D7CE, ["aaMATHEMATICAL BOLD DIGIT ZEROyaONEyaTWOzaHREEyaFOURzaIVEyaSIXzaEVENyaEIGHTyaNINE",
     "naDOUBLE-STRUCK DIGIT ZERO*aONE*aTWO+aHREE*aFOUR+aIVE*aSIX+aEVEN*aEIGHT*aNINE",
     "naSANS-SERIF DIGIT ZERO&aONE&aTWO(aHREE&aFOUR(aIVE&aSIX(aEVEN&aEIGHT&aNINE",
     "yaBOLD DIGIT ZERO,aONE,aTWO.aHREE,aFOUR.aIVE,aSIX.aEVEN,aEIGHT,aNINEnaMONOSPACE DIGIT ZERO",
     "%aONE%aTWO&aHREE%aFOUR&aIVE%aSIX&aEVEN%aEIGHT%aNINEaaSIGNWRITING HAND-FIST INDEXrgCIRCLE",
     "sgUPrgOVALrgHINGErgANGLEraFIST INDEX BENTrlCIRCLErlFIST THUMB UNDERwaINDEX RAISED KNUCKLE",
     "$aCUPPED$aHINGED+a LOWraCIRCLE INDEX HINGEraFIST INDEX MIDDLErnCIRCLE",
     "raFIST INDEX MIDDLE BENT,aRAISED KNUCKLES,aHINGED$hUP MIDDLE$aHINGED MIDDLE UP",
     "$aMIDDLE CONJOINED]a INDEX BENT^fMIDDLE^aCUPPED^aHINGED.aROSSEDrvCIRCLE",
     "raFIST MIDDLE BENT OVER INDEXwaINDEX BENT OVER MIDDLE$aMIDDLE THUMBrtCIRCLE",
     "raFIST INDEX MIDDLE STRAIGHT THUMB BENT,aBENT THUMB STRAIGHT,aTHUMB BENT",
     ",aHINGED SPREAD THUMB SIDE$lUP MIDDLE HINGED~aMB CONJOINED$aHINGED MIDDLE UP THUMB SIDE",
     "$aMIDDLE UP SPREAD THUMB FORWARD,aTHUMB CUPPED@aIRCLED?aHOOKED@aINGED",
     "waTHUMB BETWEEN INDEX MIDDLE STRAIGHTwaINDEX MIDDLE CONJOINED THUMB SIDE",
     "~aMB SIDE CONJOINED~aMB SIDE BENTwaMIDDLE THUMB HOOKED INDEX UPwdINDEX THUMB HOOKED MIDDLE",
     "$aMIDDLE CONJOINED HINGED THUMB SIDE.lROSSED.aONJOINED THUMB FORWARD^iCUPPED THUMB",
     "waMIDDLE THUMB CUPPED INDEX UPwdINDEX THUMB CUPPED MIDDLEwdMIDDLE THUMB CIRCLED INDEX",
     "~a HINGEDwaINDEX THUMB ANGLED OUT MIDDLE UP?kIN+kCIRCLED$aMIDDLE THUMB CONJOINED HINGED",
     "?aANGLED OUT|awaMIDDLE THUMB ANGLED OUT INDEX UP~aDEX CROSSED@aINDEX UP",
     "waINDEX THUMB HOOKED MIDDLE HINGEDsaLAT FOUR FINGERS+a BENT,aHINGED,aCONJOINED]a SPLIT",
     "raCLAW FOUR FINGERS CONJOINEDraFIST FOUR FINGERS CONJOINED BENT",
     "raHINGE FOUR FINGERS CONJOINEDraFLAT FIVE FINGERS SPREADwpHEEL FIVE",
     "waFIVE FINGERS SPREAD FOUR BENTwzHEEL FIVEwfFIVE FINGERS SPREADwuHEEL FIVE",
     "waFIVE FINGERS SPREAD THUMB FORWARDraCUP FIVE FINGERS SPREAD>a OPENrzHINGE",
     "raOVAL FIVE FINGERS SPREADraFLAT FIVE FINGERS SPREAD HINGED~a THUMB SIDE~a NO THUMBva",
     "va BETWEEN PALM FACINGSwaHEELwaTHUMB SIDEwfHEEL THUMBwaTHUMB BENT$aFORWARD",
     "waSPLIT INDEX THUMB SIDE$aCENTRE+a THUMB SIDE^a BENT$aLITTLEraCLAWva THUMB SIDEwaNO THUMB",
     "waTHUMB FORWARDraHOOK CURLICUEvaraCUP OPENuaua OPEN THUMB SIDEvfTHUMBvaOPEN NO THUMBvgNO",
     "vaOPEN THUMB FORWARDviTHUMBtaRLICUE OPENzasaIRCLEraOVALva THUMB SIDEwaNO THUMB",
     "waTHUMB FORWARDraHINGE OPEN#a THUMB FORWARDwawa SMALLxaOPEN THUMB SIDExfTHUMB",
     "xaOPEN NO THUMBxgNOxaTHUMB SIDE TOUCHING INDEX%aBETWEEN MIDDLE RINGraANGLE",
     "raFIST INDEX MIDDLE RINGrsCIRCLErsHINGErsANGLEraHINGE LITTLEraFIST INDEX MIDDLE RING BENT",
     ">aCONJOINEDr$HINGEraFIST LITTLE DOWN*a RIPPLE STRAIGHT?aCURVED+aOTHERS CIRCLED%aUP",
     "wdTHUMB UNDER LITTLErkCIRCLErkOVALrkANGLEraFIST LITTLE RAISED KNUCKLE%aBENT%aTOUCHES THUMB",
     "&aHUMBrnHINGErgFIST LITTLE INDEXrtHINGEraANGLE LITTLE INDEX THUMB INDEX THUMB OUT~aTHUMB",
     "raFIST LITTLE INDEXrnCIRCLErnHINGErnANGLEraFIST INDEX MIDDLE LITTLEruCIRCLEruHINGExaRING",
     "raANGLE INDEX MIDDLE LITTLErhFIST INDEX MIDDLE CROSSr!CIRCLEraFIST RING DOWN",
     "raHINGE RING DOWN INDEX THUMB HOOK MIDDLEraANGLE RING DOWN MIDDLE THUMB INDEX CROSS",
     "raFIST RING UP#aRAISED KNUCKLE#aLITTLErmCIRCLErmOVALrmANGLEraFIST RING MIDDLE*a CONJOINED",
     "+aRAISED KNUCKLES#aINDEX#aTHUMBrlHOOKraFIST INDEX RING LITTLErsCIRCLE",
     "saURLICUE INDEX RING LITTLE ONraHOOK INDEX RING LITTLE OUT>aIN>aUNDER",
     "raCUP INDEX RING LITTLErsHINGEraANGLE INDEX RING LITTLE OUT>araFIST MIDDLE DOWN",
     "raHINGE MIDDLEraFIST MIDDLE UPrkCIRCLEraFIST MIDDLE RAISED KNUCKLE%aUP THUMB SIDE",
     "raHOOK MIDDLE THUMBraFIST MIDDLE THUMB LITTLE%aLITTLE%aRING LITTLErtCIRCLE",
     "saURLICUE MIDDLE RING LITTLE ONtaP MIDDLE RING LITTLErtHINGEraANGLE MIDDLE RING LITTLE OUT",
     "@aIN?araCIRCLE MIDDLE RING LITTLE BENTsaLAW MIDDLE RING LITTLE CONJOINED~aED SIDE",
     "raHOOK MIDDLE RING LITTLE CONJOINED OUT~aED IN~aEDsaINGE INDEX HINGED",
     "raFIST INDEX THUMB SIDErrHINGEraFIST INDEX THUMB SIDE THUMB DIAGONAL^aCONJOINED^aBENT",
     "<fINDEX<fBOTH<aINDEX HINGE+aFORWARD INDEX STRAIGHT~aBENT+aHOOK+aCURLICUE:aVE THUMB INSIDE",
     "r(CLAWraFIST INDEX THUMB CURVE THUMB UNDER,aIRCLEraCUP INDEX THUMB)a OPENrrHINGE,aLARGE+a",
     "+a SMALLraANGLE INDEX THUMB OUT,aIN+argFIST#a HEEL$aSIDE DIAGONAL*aCONJOINED*aBENT",
     "$aFORWARD$aBETWEEN INDEX MIDDLE.aMIDDLE RING.aRING LITTLE$aUNDER TWO FINGERS$mOVER",
     "$iUNDER THREE+iFOUR$aOVER FOUR RAISED KNUCKLESvava HEELmaTOUCH SINGLEsaMULTIPLEsaBETWEEN",
     "maGRASP SINGLEsaMULTIPLEsaBETWEENmaSTRIKE SINGLEtaMULTIPLEtaBETWEENmaBRUSH SINGLE",
     "saMULTIPLEsaBETWEENmaRUB SINGLEqaMULTIPLEqaBETWEENmaSURFACE SYMBOLSuaBETWEEN",
     "naQUEEZE LARGE SINGLEuhSMALLuaLARGE MULTIPLEujSMALLvaEQUENTIALmaFLICK LARGE SINGLEshSMALL",
     "saLARGE MULTIPLEsjSMALLtaEQUENTIALmaSQUEEZE FLICK ALTERNATING",
     "maMOVEMENT-HINGE UP DOWN LARGE,aSMALL&aSEQUENTIAL#lDOWN#aUP DOWN ALTERNATING LARGE|aSMALL",
     "#aSIDE TO SIDE SCISSORSvaWALLPLANE FINGER CONTACTvpFLOORPLANE",
     "vaWALLPLANE SINGLE STRAIGHT SMALL|aMEDIUM|aLARGE~aARGEST;aWRIST FLEX(aDOUBLE STRAIGHT",
     ";aWRIST FLEX;aALTERNATING~aG WRIST FLEX(aCROSS(aTRIPLE STRAIGHT MOVEMENT;aWRIST FLEX",
     ";aALTERNATING~aG WRIST FLEX(aBEND SMALL.aMEDIUM.aLARGE(aCORNER SMALL;aMEDIUM;aLARGE",
     ";aROTATION)aHECK SMALL:aMEDIUM:aLARGE(aBOX SMALL,aMEDIUM,aLARGE(aZIGZAG SMALL;aMEDIUM",
     ";aLARGE(aPEAKS SMALL:aMEDIUM:aLARGEmaTRAVEL-WALLPLANE ROTATION-WALLPLANE SINGLE~aDOUBLE",
     "~aALTERNATING;aFLOORPLANE SINGLE~a DOUBLE~a ALTERNATING%aSHAKING%aARM SPIRAL SINGLE",
     ">aDOUBLE>aTRIPLEmaMOVEMENT-DIAGONAL AWAY SMALL,aMEDIUM,aLARGE>aST&aTOWARDS SMALL;aMEDIUM",
     ";aLARGE[aST&aBETWEEN AWAY SMALL[aMEDIUM[aLARGE~aST;aTOWARDS SMALL_aMEDIUM_aLARGE~aRGEST",
     "vaFLOORPLANE SINGLE STRAIGHT SMALL~aMEDIUM~aLARGE~aLARGEST<aWRIST FLEX)aDOUBLE STRAIGHT",
     "<aWRIST FLEX<aALTERNATING~aNG WRIST FLEX)aCROSS)aTRIPLE STRAIGHT MOVEMENT<aWRIST FLEX",
     "<aALTERNATING MOVEMENT~aNG WRIST FLEX)aBEND)aCORNER SMALL<aMEDIUM<aLARGE*aHECK)aBOX SMALL",
     ".aMEDIUM.aLARGE)aZIGZAG SMALL<aMEDIUM<aLARGE)aPEAKS SMALL;aMEDIUM;aLARGE",
     "maTRAVEL-FLOORPLANE ROTATION-FLOORPLANE SINGLE~aE DOUBLE~aE ALTERNATING<aWALLPLANE SINGLE",
     "~a DOUBLE~a ALTERNATING&aSHAKINGmaMOVEMENT-WALLPLANE CURVE QUARTER SMALL^aMEDIUM^aLARGE",
     "~aGEST:aHALF-CIRCLE SMALL~a MEDIUM~a LARGE~a LARGEST:aTHREE-QUARTER CIRCLE SMALL",
     "~aER CIRCLE MEDIUM(aHUMP SMALL.aMEDIUM.aLARGE(aLOOP SMALL.aMEDIUM.aLARGE.aSMALL DOUBLE",
     "(aWAVE CURVE DOUBLE SMALL~a MEDIUM~a LARGE@aTRIPLE SMALL~a MEDIUM~a LARGE",
     "(aCURVE THEN STRAIGHT.aD CROSS SMALL]aMEDIUMmaROTATION-WALLPLANE SINGLE(aDOUBLE(aALTERNATE",
     "maMOVEMENT-WALLPLANE SHAKING(aCURVE HITTING FRONT WALL(tHUMP(tLOOP(tWAVE",
     "mtROTATION-WALLPLANE SINGLE(tDOUBLE(tALTERNATINGmaMOVEMENT-WALLPLANE CURVE HITTING CHEST",
     "(oHUMP(oLOOP(oWAVEmoROTATION-WALLPLANE SINGLE(oDOUBLE(oALTERNATING",
     "maMOVEMENT-WALLPLANE WAVE DIAGONAL PATH SMALL~aH MEDIUM~aH LARGE",
     "vaFLOORPLANE CURVE HITTING CEILING SMALL~aILING LARGE)aHUMP HITTING CEILING SMALL DOUBLE",
     "~hLING LARGE~aLING SMALL TRIPLE~hLING LARGE)aLOOP HITTING CEILING SMALL SINGLE~hLING LARGE",
     "~aLING SMALL DOUBLE~hLING LARGE)aWAVE HITTING CEILING SMALL~aLING LARGE",
     "maROTATION-FLOORPLANE SINGLE HITTING CEILING)qDOUBLE)qALTERNATING",
     "maMOVEMENT-FLOORPLANE CURVE HITTING FLOOR SMALL~aOOR LARGE",
     ")aHUMP HITTING FLOOR SMALL DOUBLE~hOR LARGE~aOR TRIPLE SMALL TRIPLE~hOR TRIPLE LARGE",
     ")aLOOP HITTING FLOOR SMALL SINGLE~hOR LARGE~aOR SMALL DOUBLE~hOR LARGE",
     ")aWAVE HITTING FLOOR SMALL~aOR LARGEmaROTATION-FLOORPLANE SINGLE HITTING FLOOR)oDOUBLE",
     ")oALTERNATINGmaMOVEMENT-FLOORPLANE CURVE SMALL;aMEDIUM;aLARGE[aST;aCOMBINED)aHUMP SMALL",
     ")gLOOP)aWAVE SNAKE;aMALL:aLARGEmaROTATION-FLOORPLANE SINGLE)aDOUBLE)aALTERNATING",
     "maMOVEMENT-FLOORPLANE SHAKING PARALLELvaWALLPLANE ARM CIRCLE SMALL SINGLE@hMEDIUM",
     "@aSMALL DOUBLE@hMEDIUMvaFLOORPLANE ARM CIRCLE HITTING WALL SMALL SINGLE~hNG WALL MEDIUM",
     "~hNG WALL LARGE~aNG WALL SMALL DOUBLE~hNG WALL MEDIUM~hNG WALL LARGE",
     "vaWALLPLANE WRIST CIRCLE FRONT SINGLE~aT DOUBLE",
     "vaFLOORPLANE WRIST CIRCLE HITTING WALL SINGLE~aTING WALL DOUBLE",
     "vaWALLPLANE FINGER CIRCLES SINGLE_aDOUBLEvaFLOORPLANE FINGER CIRCLES HITTING WALL SINGLE",
     "~aITTING WALL DOUBLEmaDYNAMIC ARROWHEAD SMALL&aLARGEuaFASTuaSLOWuaTENSEuaRELAXED",
     "uaSIMULTANEOUS)a ALTERNATINGuaEVERY OTHER TIMEuaGRADUALmaHEADqa RIM",
     "raMOVEMENT-WALLPLANE STRAIGHT.aTILT!aFLOORPLANE STRAIGHT!aWALLPLANE CURVE!gFLOORPLANE",
     "za CIRCLEmaFACE DIRECTION POSITION NOSE FORWARD TILTING?aUP OR DOWN~aOWN TILTING",
     "maEYEBROWS STRAIGHT UP&aNEUTRAL&aDOWNmfDREAMY EYEBROWS NEUTRAL$aDOWN NEUTRAL$iUP",
     "$aNEUTRAL UPmaFOREHEAD NEUTRALvaCONTACTvaWRINKLEDmaEYES OPENraSQUEEZEDraCLOSED",
     "pa BLINK SINGLEwaMULTIPLEpaS HALF OPENrfWIDEraHALF CLOSEDraWIDENING MOVEMENTpa WINK",
     "paLASHES UPwaDOWNwaFLUTTERINGpaGAZE-WALLPLANE STRAIGHT;a DOUBLE<aALTERNATING",
     "uaFLOORPLANE STRAIGHT<a DOUBLE>aALTERNATINGuaWALLPLANE CURVEDuhFLOORPLANE",
     "uaWALLPLANE CIRCLINGmaCHEEKS PUFFEDtaNEUTRALtaSUCKEDmaTENSE CHEEKS HIGHzaMIDDLEzaLOWmaEARS",
     "maNOSE NEUTRALraCONTACTraWRINKLESsaIGGLESmaAIR BLOWING OUTqaSUCKING IN",
     "qaBLOW SMALL ROTATIONSqqSUCKmaBREATH INHALEtaEXHALEmaMOUTH CLOSED NEUTRALzaFORWARD",
     "zaCONTACTsaSMILExa WRINKLEDyaOPENsaFROWNxa WRINKLEDyaOPENsaOPEN CIRCLExaFORWARDxaWRINKLED",
     "xaOVAL#a WRINKLED$aYAWNxaRECTANGLE)a WRINKLED*aYAWNsaKISSwa FORWARDxaWRINKLEDsaTENSE",
     "xa FORWARDyaSUCKEDmaLIPS PRESSED TOGETHERpa LOWER OVER UPPERqaUPPER OVER LOWER",
     "maMOUTH CORNERSsaWRINKLES SINGLE#aDOUBLEmaTONGUE STICKING OUT FARtaLICKING LIPS",
     "tfTIP BETWEENxaTOUCHING INSIDE MOUTHtaINSIDE MOUTH RELAXEDtaMOVES AGAINST CHEEK",
     "taCENTRE STICKING OUT!aINSIDE MOUTHnaEETHra MOVEMENTsaON TONGUE#a MOVEMENTvaLIPS",
     "za MOVEMENTsaBITE LIPSmaMOVEMENT-WALLPLANE JAWveFLOORPLANEmaNECKmaHAIRmaEXCITEMENT",
     "maSHOULDER HIP SPINEzaPOSITIONSmaWALLPLANE SHOULDER HIP MOVEmsFLOORPLANE",
     "maSHOULDER TILTING FROM WAISTmaTORSO-WALLPLANE STRAIGHT STRETCH$aCURVED BEND",
     "saFLOORPLANE TWISTINGmaUPPER BODY TILTING FROM HIP JOINTSmaLIMB COMBINATIONraLENGTH-1ya2",
     "ya3ya4ya5ya6ya7maFINGERmaLOCATION-WALLPLANE SPACEvgFLOORPLANEua HEIGHTvaWIDTHvaDEPTH",
     "vaHEAD NECKvaTORSOvaLIMBS DIGITSmaCOMMAmaFULL STOPmaSEMICOLONmaCOLONmaPARENTHESIS"]),
   (0x1DA9B, ["aaSIGNWRITING FILL MODIFIER-2!a3!a4!a5!a6"]),
   (0x1DAA1, ["aaSIGNWRITING ROTATION MODIFIER-2&a3&a4&a5&a6&a7&a8&a9&a10(a1(a2(a3(a4(a5(a6"]),
   (0x1DF00, ["aaLATIN SMALL LETTER FENG DIGRAPH WITH TRILLtaREVERSED SCRIPT G",
     "gcLETTER SMALL CAPITAL TURNEDgaSMALL LETTER REVERSED KgaLETTER SMALL CAPITAL L WITH BELT",
     "gaSMALL LETTER LEZH WITH RETROFLEX HOOKtaTURNED Y WITH BELTtaREVERSED ENG",
     "taTURNED R WITH LONG LEG AND RETROFLEX HOOKut WITH HOOKgpLETTER RETROFLEX CLICK WITH",
     "gaSMALL LETTER ESH WITH DOUBLE BAR;a AND CURLtfTURNED T WITHgkLETTER INVERTED GLOTTAL STOP",
     "nkSTRETCHED CoaMALL CAPITAL TURNED KgaSMALL LETTER L WITH FISHHOOK",
     "taDEZH DIGRAPH WITH PALATAL HOOKtnL WITH BELT ANDtnENG WITHtsTURNED RtnR WITH FISHHOOK AND",
     "tnTESH DIGRAPH WITHtsEZHtfDEZH DIGRAPH WITH RETROFLEXtpI WITH STROKE ANDtpO WITH",
     "tuTESH DIGRAPHtuCtaS WITH CURL"]),
   (0x1E000, ["aaCOMBINING GLAGOLITIC LETTER AZU$aBUKY$aVEDE$aGLAGOLI$aDOBRO$aYESTU$aZHIVETE"]),
   (0x1E008, ["aaCOMBINING GLAGOLITIC LETTER ZEMLJA$aIZHE%aNITIAL IZHE%a$aDJERVI$aKAKO$aLJUDIJE",
     "$aMYSLITE$aNASHI$aONU$aPOKOJI$aRITSI$aSLOVO$aTVRIDO$aUKU$aFRITU$aHERU"]),
   (0x1E01B, ["aaCOMBINING GLAGOLITIC LETTER SHTA$aTSI$aCHRIVI$aSHA$aYERU(aI%aATI"]),
   (0x1E023, ["aaCOMBINING GLAGOLITIC LETTER YU$aSMALL YUS"]),
   (0x1E026, ["aaCOMBINING GLAGOLITIC LETTER YO$aIOTATED SMALL YUS$eBIG$eIOTATED BIG$aFITA"]),
   (0x1E100, ["aaNYIAKENG PUACHUE HMONG LETTER MA&aTSA&aNTA&aTA&aHA&aNA&aXA&aNKA&aCA&aLA&aSA&aZA",
     "&aNCA(aTSA&aKA&aDA&aNYA(aRA&aVA&aNTXA&aTXA&aFA&aRA&aQA&aYA&aNQA&aPA&aXYA&aNPA&aDLA&aNPLA",
     "&aHAH&aMLA&aPLA&aGA&aRRA&aA(aA&aI&aU&aO(aO&aE(aE&aW"]),
   (0x1E130, ["aaNYIAKENG PUACHUE HMONG TONE-B$aM$aJ$aV$aS$aG$aDxaSIGN FOR PERSON)aTHING",
     ")aLOCATION)aANIMAL)aINVERTEBRATE$aXW XWyaYLLABLE LENGTHENER"]),
   (0x1E140, ["aaNYIAKENG PUACHUE HMONG DIGIT ZERO%aONE%aTWO&aHREE%aFOUR&aIVE%aSIX&aEVEN%aEIGHT",
     "%aNINE"]),
   (0x1E14E, ["aaNYIAKENG PUACHUE HMONG LOGOGRAM NYAJxaCIRCLED CA"]),
   (0x1E290, ["aaTOTO LETTER PAmaBAmaTAmaDAmaKAmaGAmaMAmaNAnaGAmaSAmaCHAmaYAmaWAmaJAmaHAmaRAmaLA",
     "maImaBREATHY ImaIUmaBREATHY IUmaUmaEmaBREATHY EmaEOmaBREATHY EOmaOmaAEmaBREATHY AEmaA",
     "faSIGN RISING TONE"]),
   (0x1E2C0, ["aaWANCHO LETTER AApaoaBAoaCAoaDAoaGAoaYAoaPHAoaLAoaNAoaPAoaTApaHAoaFAoaSApaHAoaJA",
     "oaZAoaWAoaVAoaKAoaOoaAUoaRAoaMAoaKHAoaHAoaEoaIoaNGAoaUoaLLHAoaTSApaRAoaONGoaAANGpaNGoaING",
     "oaONoaENoaAANoaNYAoaUENoaYIHhaTONE TUPpaNImaKOIpaNIhaDIGIT ZEROnaONEnaTWOoaHREEnaFOURoaIVE",
     "naSIXoaEVENnaEIGHTnaNINE"]),
   (0x1E2FF, ["aaWANCHO NGUN SIGN"]),
   (0x1E7E0, ["aaETHIOPIC SYLLABLE HHYAvaUvaIvaAAvaEEwavaO"]),
   (0x1E7E8, ["aaETHIOPIC SYLLABLE GURAGE HHWAsaHHWIvaEEwa"]),
   (0x1E7ED, ["aaETHIOPIC SYLLABLE GURAGE MWI#aEE"]),
   (0x1E7F0, ["aaETHIOPIC SYLLABLE GURAGE QWI#aEE$azaBWI#aEEzaKWI#aEE$azaGWI#aEE$azaFWI#aEEzaPWI",
     "#aEE"]),
   (0x1E800, ["aaMENDE KIKAKUI SYLLABLE M001 KI!a2 KA!a3 KUza65 KEEza95 KEza76 KOOza48 KO",
     "ya179 KUAya004 WI!a5 WA!a6 WUya126 WEEza18 WE!a4 WOOya045 WOya194 WUIza43 WEIya061 WVI",
     "za49 WVAya139 WVEya007 MIN!a8 MAN!a9 MUNza59 MENza94 MONya154 MUANza89 MUENya010 BI!a1 BA",
     "!a2 BUya150 BEEya097 BEya103 BOOza38 BOya013 I!a4 A!a5 Uya163 EEza00 Eza65 OOza47 Oza37 EI",
     "!a1 IN!d5za95 ANza78 ENya019 SIza20 SA!a1 SUya162 SEEza16 SEza36 SOOya079 SOya196 SIA",
     "ya025 LI!a6 LA!a7 LUza84 LEEza73 LEza54 LOOya153 LOza10 LONG LEya016 DI!a7 DA!a8 DU",
     "za89 DEEya180 DOO!a1 DOya022 TI!a3 TA!a4 TUza91 TEEza55 TEya104 TOOya069 TOza28 JI!a9 JA",
     "za30 JUya157 JEEza13 JEza60 JOOya063 JOyd175 LONGya031 YI!a2 YA!a3 YUya109 YEEya080 YE",
     "ya141 YOOza21 YOya034 FI!a5 FA!a6 FUza78 FEE!a5 FEya133 FOOya088 FOya197 FUAza01 FAN",
     "ya037 NIN!a8 NAN!a9 NUNya117 NENza69 NONza76 HIya041 HAya186 HUya040 HEEza96 HEza42 HOO",
     "ya140 HOya083 HEEIya128 HOOUya053 HINya130 HANya087 HUNza52 HENya193 HONya046 HUAN",
     "za90 NGGIza43 NGGAza82 NGGUya115 NGGEEza46 NGGEza56 NGGOOza20 NGGOza59 NGGAAza27 NGGUA",
     "ya086 LONG NGGEya106 LONG NGGOOza83 LONG NGGOza55 GIza11 GAza68 GUza90 GEEza66 GUEI",
     "!a7 GUANza84 NGENya057 NGONya177 NGUANya068 PIza99 PAza50 PUza81 PEEza51 PEya102 POO",
     "ya066 POya145 MBIya062 MBAya122 MBUya047 MBEEyf188ya072 MBEya172 MBOO!a4 MBOza87 MBUU",
     "za61 LONG MBEza05 LONG MBOOza42 LONG MBOza32 KPIya092 KPAza74 KPUza44 KPEEya108 KPE",
     "za12 KPOOza58 KPOza24 GBIya056 GBAya148 GBUya093 GBEEya107 GBEya071 GBOO!a0 GBOya171 RA",
     "za23 NDI!a9 NDA!a5 NDUza91 NDEEza19 NDEya067 NDOO!a4 NDOya152 NJAza92 NJUza49 NJEE",
     "za34 NJOOza82 VI!a5 VAza51 VUza73 VEEya085 VEya144 VOOya077 VOya164 NYINya058 NYAN",
     "ya170 NYUNya098 NYENza60 NYON"]),
   (0x1E8C7, ["aaMENDE KIKAKUI DIGIT ONEuaTWOvaHREEuaFOURvaIVEuaSIXvaEVENuaEIGHTuaNINE",
     "oaCOMBINING NUMBER TEENS*aNS(aHUNDREDS(aTHOUSANDS)aEN THOUSANDS(kHUNDRED(aMILLIONS"]),
   (0x1E900, ["aaADLAM CAPITAL LETTER ALIFvaDAALIvaLAAMvaMIIMvaBAvaSINNYIIYHEvaPEvaBHEvaRAvaE",
     "vaFAvaIvaOvaDHAvaYHEvaWAWvaNUNvaKAFvaYAvaUvaJIIMvaCHIvaHAvaQAAFvaGAvaNYAvaTUvaNHAvaVAvaKHA",
     "vaGBEvaZALvaKPOvaSHAgaSMALL LETTER ALIFtaDAALItaLAAMtaMIIMtaBAtaSINNYIIYHEtaPEtaBHEtaRAtaE",
     "taFAtaItaOtaDHAtaYHEtaWAWtaNUNtaKAFtaYAtaUtaJIIMtaCHItaHAtaQAAFtaGAtaNYAtaTUtaNHAtaVAtaKHA",
     "taGBEtaZALtaKPOtaSHAgaALIF LENGTHENERglVOWELgaGEMINATION MARKgaHAMZAgaCONSONANT MODIFIER",
     "gjGEMINATE CONSONANTgaNUKTAhaASALIZATION MARK"]),
   (0x1E950, ["aaADLAM DIGIT ZEROmaONEmaTWOnaHREEmaFOURnaIVEmaSIXnaEVENmaEIGHTmaNINE"]),
   (0x1E95E, ["aaADLAM INITIAL EXCLAMATION MARKofQUESTION"]),
   (0x1EC71, ["aaINDIC SIYAQ NUMBER ONEtaTWOuaHREEtaFOURuaIVEtaSIXuaEVENtaEIGHTtaNINEtaTEN",
     "uaWENTYuaHIRTYtaFORTYuaIFTYtaSIXTYuaEVENTYtaEIGHTYtaNINETYtaONE HUNDREDtiTWOuiHREEtiFOUR",
     "uiIVEtiSIXuiEVENtiEIGHTtiNINEtaONE THOUSANDtjTWOujHREEtjFOURujIVEtjSIXujEVENtjEIGHTtjNINE",
     "tjTENujWENTYujHIRTYtjFORTYujIFTYtjSIXTYujEVENTYtjEIGHTYtjNINETYtaLAKHxaANmaLAKH MARK",
     "maNUMBER KARORyaANtaPREFIXED ONE$aTWO%aHREE$aFOUR%aIVE$aSIX%aEVEN$aEIGHT$aNINE",
     "maPLACEHOLDERmaFRACTION ONE QUARTERzaHALFvaTHREE QUARTERSmaRUPEE MARK",
     "maNUMBER ALTERNATE ONE%aTWO&aEN THOUSANDmaALTERNATE LAKH MARK"]),
   (0x1ED01, ["aaOTTOMAN SIYAQ NUMBER ONEvaTWOwaHREEvaFOURwaIVEvaSIXwaEVENvaEIGHTvaNINEvaTEN",
     "waWENTYwaHIRTYvaFORTYwaIFTYvaSIXTYwaEVENTYvaEIGHTYvaNINETYvaONE HUNDREDviTWOwiHREEviFOUR",
     "wiIVEviSIXwiEVENviEIGHTviNINEvaONE THOUSANDvjTWOwjHREEvjFOURwjIVEvjSIXwjEVENvjEIGHTvjNINE",
     "vjTENwjWENTYwjHIRTYvjFORTYwjIFTYvjSIXTYwjEVENTYvjEIGHTYvjNINETYoaMARRATAN",
     "oaALTERNATE NUMBER TWO)aHREE(aFOUR)aIVE(aSIX)aEVEN(aEIGHT(aNINE(aTEN(aFOUR HUNDRED(iSIX",
     "(aTWO THOUSAND)jENoaFRACTION ONE HALF#aSIXTH"]),
   (0x1EE00, ["aaARABIC MATHEMATICAL ALEFuaBEHuaJEEMuaDAL"]),
   (0x1EE05, ["aaARABIC MATHEMATICAL WAWuaZAINuaHAHuaTAHuaYEHuaKAFuaLAMuaMEEMuaNOONuaSEENuaAIN",
     "uaFEHuaSADuaQAFuaREHuaSHEENuaTEHvaHEHuaKHAHuaTHALuaDADuaZAHuaGHAINuaDOTLESS BEH$aNOON$aFEH",
     "$aQAF"]),
   (0x1EE21, ["aaARABIC MATHEMATICAL INITIAL BEH$aJEEM"]),
   (0x1EE24, ["aaARABIC MATHEMATICAL INITIAL HEH"]),
   (0x1EE27, ["aaARABIC MATHEMATICAL INITIAL HAH"]),
   (0x1EE29, ["aaARABIC MATHEMATICAL INITIAL YEH$aKAF$aLAM$aMEEM$aNOON$aSEEN$aAIN$aFEH$aSAD$aQAF"]),
   (0x1EE34, ["aaARABIC MATHEMATICAL INITIAL SHEEN$aTEH%aHEH$aKHAH"]),
   (0x1EE39, ["aaARABIC MATHEMATICAL INITIAL DAD"]),
   (0x1EE3B, ["aaARABIC MATHEMATICAL INITIAL GHAIN"]),
   (0x1EE42, ["aaARABIC MATHEMATICAL TAILED JEEM"]),
   (0x1EE47, ["aaARABIC MATHEMATICAL TAILED HAH"]),
   (0x1EE49, ["aaARABIC MATHEMATICAL TAILED YEH"]),
   (0x1EE4B, ["aaARABIC MATHEMATICAL TAILED LAM"]),
   (0x1EE4D, ["aaARABIC MATHEMATICAL TAILED NOON#aSEEN#aAIN"]),
   (0x1EE51, ["aaARABIC MATHEMATICAL TAILED SAD#aQAF"]),
   (0x1EE54, ["aaARABIC MATHEMATICAL TAILED SHEEN"]),
   (0x1EE57, ["aaARABIC MATHEMATICAL TAILED KHAH"]),
   (0x1EE59, ["aaARABIC MATHEMATICAL TAILED DAD"]),
   (0x1EE5B, ["aaARABIC MATHEMATICAL TAILED GHAIN"]),
   (0x1EE5D, ["aaARABIC MATHEMATICAL TAILED DOTLESS NOON"]),
   (0x1EE5F, ["aaARABIC MATHEMATICAL TAILED DOTLESS QAF"]),
   (0x1EE61, ["aaARABIC MATHEMATICAL STRETCHED BEH&aJEEM"]),
   (0x1EE64, ["aaARABIC MATHEMATICAL STRETCHED HEH"]),
   (0x1EE67, ["aaARABIC MATHEMATICAL STRETCHED HAH&aTAH&aYEH&aKAF"]),
   (0x1EE6C, ["aaARABIC MATHEMATICAL STRETCHED MEEM&aNOON&aSEEN&aAIN&aFEH&aSAD&aQAF"]),
   (0x1EE74, ["aaARABIC MATHEMATICAL STRETCHED SHEEN&aTEH(aHEH&aKHAH"]),
   (0x1EE79, ["aaARABIC MATHEMATICAL STRETCHED DAD&aZAH&aGHAIN&aDOTLESS BEH"]),
   (0x1EE7E, ["aaARABIC MATHEMATICAL STRETCHED DOTLESS FEH"]),
   (0x1EE80, ["aaARABIC MATHEMATICAL LOOPED ALEF#aBEH#aJEEM#aDAL#aHEH#aWAW#aZAIN#aHAH#aTAH#aYEH"]),
   (0x1EE8B, ["aaARABIC MATHEMATICAL LOOPED LAM#aMEEM#aNOON#aSEEN#aAIN#aFEH#aSAD#aQAF#aREH",
     "#aSHEEN#aTEH$aHEH#aKHAH#aTHAL#aDAD#aZAH#aGHAIN"]),
   (0x1EEA1, ["aaARABIC MATHEMATICAL DOUBLE-STRUCK BEH+aJEEM+aDAL"]),
   (0x1EEA5, ["aaARABIC MATHEMATICAL DOUBLE-STRUCK WAW+aZAIN+aHAH+aTAH+aYEH"]),
   (0x1EEAB, ["aaARABIC MATHEMATICAL DOUBLE-STRUCK LAM+aMEEM+aNOON+aSEEN+aAIN+aFEH+aSAD+aQAF",
     "+aREH+aSHEEN+aTEH,aHEH+aKHAH+aTHAL+aDAD+aZAH+aGHAIN"]),
   (0x1EEF0, ["aaARABIC MATHEMATICAL OPERATOR MEEM WITH HAH WITH TATWEEL%aHAH WITH DAL"])]

end Intake.Text
