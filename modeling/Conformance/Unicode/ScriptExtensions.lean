import Conformance.Unicode.Table

/-!
# Script extensions

The scripts in which a character is used, as of version 16 of the standard. A script whose set is the same
as its script set is listed here as well, so that a look-up needs one table only.
-/

set_option autoImplicit false

namespace Conformance.Unicode

/-- The characters used in each script, under its names. -/
def scriptExtensions : List NamedSet := [
  ⟨["adlm", "adlam"],
    "CIhbBgbJWobFHhbGLRiCyekec"⟩,
  ⟨["ahom"],
    "EBRcBbcpex"⟩,
  ⟨["hluw", "anatolianhieroglyphs"],
    "ESSeWl"⟩,
  ⟨["arab", "arabic"],
    "CHcfbIhbBiDcBwJgBfbcfCxbBdIVnbFHhbCZRaElqRdcCchbBgqEifbFfBMhBcEIeBfCpdCdeDGLsebBbbcbbcbb" ++
    "kbebbbbgbebbbbbbdbcbbcbbbbbbbbbbcbbcebhbebebbbkbrfdbfbrCac"⟩,
  ⟨["armn", "armenian"],
    "BDwbVgBmcBycdDOZjf"⟩,
  ⟨["avst", "avestan"],
    "HbbRFscDFQcCcdh"⟩,
  ⟨["bali", "balinese"],
    "KFwCzbBy"⟩,
  ⟨["bamu", "bamum"],
    "CLCqDkCVCqVx"⟩,
  ⟨["bass", "bassavah"],
    "FHKiBecg"⟩,
  ⟨["batk", "batak"],
    "KNgCaie"⟩,
  ⟨["beng", "bengali"],
    "BAybCMucrcBaebicccwbhbbdecjccceibecbfczHDhbbbccbbibibcbebcdCBAfb"⟩,
  ⟨["bhks", "bhaiksuki"],
    "EDOijbBtbokBd"⟩,
  ⟨["bopo", "bopomofo"],
    "BBjbbdnbqcRBxdekbnkecbgbHnbjBrEiBgCZLtcKwf"⟩,
  ⟨["brah", "brahmi"],
    "DZAeDaeBkjb"⟩,
  ⟨["brai", "braille"],
    "PDwJw"⟩,
  ⟨["bugi", "buginese"],
    "JWaBcccCCKtb"⟩,
  ⟨["buhd", "buhid"],
    "IUncju"⟩,
  ⟨["cans", "canadianaboriginal"],
    "HOyYqVoCsDTPqq"⟩,
  ⟨["cari", "carian"],
    "HbbLZmbcbFGdbDCLqBx"⟩,
  ⟨["aghb", "caucasianalbanian"],
    "BDsbBsbBsbDTQnCalb"⟩,
  ⟨["cakm", "chakma"],
    "DTmkCKekDTFqCbbs"⟩,
  ⟨["cham"],
    "CMJwCdjockce"⟩,
  ⟨["cher", "cherokee"],
    "BDodbbgcwclcGFuDicgCFJeDc"⟩,
  ⟨["chrs", "chorasmian"],
    "DYXcBc"⟩,
  ⟨["zyyy", "common"],
    "aCnBagBaBvbmbcbfxbBfbRhdbkbbdbbjbbbgffcuEwbgbbbYnbIhbTwbCAubPpeGDbmcBhbBfbkbcbhbldlbprBh" ++
    "ClBmbdcgbBbbrBpdeZqwlvBJsJwYecBgbEbTsxbyckbebbbBaQcbdbnbnbvbUjyBfbBxpmeGfkfDsBfbJToCmBHS" ++
    "qBaDydBLobocBFHskwvcmbtbeFrbbBgBagBagExhbhkfPmnBzBtCYNbJqgQuGaEmCiJmkBncCkdrichBeeCjIfum" ++
    "umDjBbhFfDhbCtbccbcccebmbbbhbCnbecibhbBcbebfbbdhbNccLgcByHThCqCyCjBBeBseDwmpcpbpbBlkGsCe" ++
    "BabcnBsejxgFyBLwerdndEpeDrgmebpmeCeikgBoiBecmecCkNcmocndkfCehpclgjhFrbDyBSUXbbBeDs"⟩,
  ⟨["copt", "qaac", "coptic"],
    "HbbWmbdcbbEecEeoPJkEmfhKtbDCPcBc"⟩,
  ⟨["xsux", "cuneiform"],
    "EFBsBJmDyEhbflHo"⟩,
  ⟨["cprt", "cypriot"],
    "DTImdeBtdjCOmgcbbBsbcdbcb"⟩,
  ⟨["cpmn", "cyprominoan"],
    "DTImcRQkDv"⟩,
  ⟨["cyrl", "cyrillic"],
    "BAybCpdbbbbbbcbfbJeLsIVolGebCybExbGApBgCpbBTLkDsBHEccDHPgCkBhb"⟩,
  ⟨["dsrt", "deseret"],
    "DUMaDc"⟩,
  ⟨["deva", "devanagari"],
    "BAybCJrDfcBrHIeBnbcBNabBZFrkGkBgBREmk"⟩,
  ⟨["diak", "divesakuru"],
    "ECKuhcbcibcbBebccmjk"⟩,
  ⟨["dogr", "dogra"],
    "DOmmCIDckBQIoCi"⟩,
  ⟨["dupl", "duployan"],
    "HbbWtcbbycQIhbFUQlEdfndjhkci"⟩,
  ⟨["egyp", "egyptianhieroglyphs"],
    "ELDgBQskFXr"⟩,
  ⟨["elba", "elbasan"],
    "HbbWrbDTScBo"⟩,
  ⟨["elym", "elymaic"],
    "DYYyx"⟩,
  ⟨["ethi", "ethiopic"],
    "BEcbFRdCvbechbbbecBpbecBhbechbbbecpbCfbecCpcBgdBaJVaxjhbhbhbhbhbhbhbhBVKcgcgcgjhbhEPYfhb" ++
    "ebcbp"⟩,
  ⟨["gara", "garay"],
    "CHobobdbDVQuBmdBdic"⟩,
  ⟨["geor", "georgian"],
    "HbbBVlbEFeBmbbfbcBwEJwBrcdBJmbEUnBmbbfbJzb"⟩,
  ⟨["glag", "glagolitic"],
    "HbbWpbbbOsbcbJxbEIrbFVibEKrDsSpbBTNfbEOTkhbrchbcbf"⟩,
  ⟨["goth", "gothic"],
    "HbbWqccbBobDSYoBb"⟩,
  ⟨["gran", "grantha"],
    "DNtcrcYqoGKabbcBeddcBNabDNRjebicccwbhbcbfbkcccdcbgbfhchdfERrcbb"⟩,
  ⟨["grek", "greek"],
    "HbbWmccbbbbbkbBubcbBqicebbebbbbdbbbubCloqJNqfByfefDgdMgwcgcBmcgcibbbbbbbBfcCbbpbocgbtcdb" ++
    "jDqbHsbCAJebBGNiDbrbDAXrCs"⟩,
  ⟨["gujr", "gujarati"],
    "DNtcrcKxdbjbdbwbhbcbfckbdbdcbpecmhhCHNsk"⟩,
  ⟨["gong", "gunjalagondi"],
    "HbbDHkcEANigbcbBlbcbghk"⟩,
  ⟨["guru", "gurmukhi"],
    "DNtcrcFzdbgeccwbhbcbcbccbbfeccddbhebbhrCHSzk"⟩,
  ⟨["gukh", "gurungkhema"],
    "DOnbFADeCg"⟩,
  ⟨["han", "hani"],
    "HbbRIuBabDlmIgBaqbdbnbnbncbgjHfbFsqBgBmjbBwBoCeBxpmBzbDkzkfDsBfbJToCmBFBkCQyiBFBcOccEcBH" ++
    "rcKwfBQPocmcBLRasLRycFEsCLFcBgGDugIocINqoLBlpXyDQwUwCFyHHzfGFg"⟩,
  ⟨["hang", "hangul"],
    "GLkJwLJldekbnodgbHnbCbDqEjBfCnBfBTAnBdYtQNsmxeBxOMzcKwfCgBfdgcgcgcd"⟩,
  ⟨["rohg", "hanifirohingya"],
    "CHobobdbBgbFrbDVHjBoik"⟩,
  ⟨["hano", "hanunoo"],
    "ITsx"⟩,
  ⟨["hatr", "hatran"],
    "DWIatbcff"⟩,
  ⟨["hebr", "hebrew"],
    "BDvcYyCdiBbegDOVwBabfbbbcbcbk"⟩,
  ⟨["hira", "hiragana"],
    "SErdekbnqgbbecdDiciDmcCZTgcKwfkbBtcCOUrLbsbBddYMvb"⟩,
  ⟨["armi", "imperialaramaic"],
    "DWBwwbj"⟩,
  ⟨["qaai", "zinh", "inherited"],
    "BEdbcbbmbcdhcbcqbcbsbfbeCGmcGOxBfBDbCcbbbfUecHmBgDFSqqqoBLnbCZQoBucxUydrichBeeBTLHiJg"⟩,
  ⟨["phli", "inscriptionalpahlavi"],
    "DXGqtfi"⟩,
  ⟨["prti", "inscriptionalparthian"],
    "DXFkwci"⟩,
  ⟨["java", "javanese"],
    "CMEyDablec"⟩,
  ⟨["kthi", "kaithi"],
    "DOokNXxbBUFekBNMsCpkb"⟩,
  ⟨["knda", "kannada"],
    "DNtcrcBEonbdbxbkbfcjbdbehcgcbeckbdGAebbcgbxbbbCASxg"⟩,
  ⟨["kana", "katakana"],
    "BDtbBdbQZtdekbnqgbbecDnedDsJgqIaBvbDkCYWbcKwClCOUaebhbcbbLbdByboe"⟩,
  ⟨["kawi"],
    "EERwrbBpdBd"⟩,
  ⟨["kali", "kayahli"],
    "CMAaBw"⟩,
  ⟨["khar", "kharoshthi"],
    "DWTcebcfibdbBdcdekhj"⟩,
  ⟨["kits", "khitansmallscript"],
    "FJIibKGxScBpb"⟩,
  ⟨["khmr", "khmer"],
    "IXkDqckgkSsBg"⟩,
  ⟨["khoj", "khojki"],
    "EDikCHOikBOBmsbBv"⟩,
  ⟨["sind", "khudawadi"],
    "DOmcCIDmkBOIgChfk"⟩,
  ⟨["krai", "kiratrai"],
    "FIIiCg"⟩,
  ⟨["lao", "laoo"],
    "FMvcbbbfbybbbxcfbbbhbkce"⟩,
  ⟨["latn", "latin"],
    "CnBagBaBvbmbcbfxbBfbRhdbkbbdbbjbbbgfBbpbcbbmbcdhcbcBmbfbenKrcBVecCXkbEOiBmgBxfefnbCsCfbh" ++
    "JwLrbCnbnbqnDfbCfcgbBbbrBpECtBgPrbBTUmiBaDydCpccbbbivoLqbTtBrbjbeBEDqhBOkBagBaDCfgbBqbjD" ++
    "DNpBfgg"⟩,
  ⟨["lepc", "lepcha"],
    "KPsCedpdd"⟩,
  ⟨["limb", "limbu"],
    "DOnbFXqBfbmemebdm"⟩,
  ⟨["lina", "lineara"],
    "DTItBtBVgLzjwki"⟩,
  ⟨["linb", "linearb"],
    "DSYqmbBabtbcbpcoBiEtfdeBtdj"⟩,
  ⟨["lisu"],
    "BAybqbRDkcBSFsBwBUMab"⟩,
  ⟨["lyci", "lycian"],
    "MGobDHQrBd"⟩,
  ⟨["lydi", "lydian"],
    "HbbRFtbDEXqBafb"⟩,
  ⟨["mahj", "mahajani"],
    "HbbDHkmCIDckBNUsBn"⟩,
  ⟨["maka", "makasar"],
    "EEQqz"⟩,
  ⟨["mlym", "malayalam"],
    "DNtcrcBJmnbdbBzbdbgeqcBaFVebxbCASzd"⟩,
  ⟨["mand", "mandaic"],
    "CJobTrBccb"⟩,
  ⟨["mani", "manichaean"],
    "CJobDUQxBnem"⟩,
  ⟨["marc", "marchen"],
    "EDSqBgcwbo"⟩,
  ⟨["gonm", "masaramgondi"],
    "DOmcEAJqhbcbBsdbbcbjik"⟩,
  ⟨["medf", "medefaidrin"],
    "FISeDn"⟩,
  ⟨["mtei", "meeteimayek"],
    "CMSmxHtBuck"⟩,
  ⟨["mend", "mendekikakui"],
    "HCUyHpcq"⟩,
  ⟨["merc", "meroiticcursive"],
    "DWPkyeucBu"⟩,
  ⟨["mero", "meroitichieroglyphs"],
    "MGrbDKHmBg"⟩,
  ⟨["miao", "plrd"],
    "FIZoCxeCfhr"⟩,
  ⟨["modi"],
    "CLSakBPOwCrlk"⟩,
  ⟨["mong", "mongolian"],
    "JCiBagDlhBrCWabFZtcfeDJFwn"⟩,
  ⟨["mro", "mroo"],
    "FHEuBfbkec"⟩,
  ⟨["mult", "multani"],
    "DYkkDWAahbbbebpbl"⟩,
  ⟨["mymr", "myanmar"],
    "GBoGeCFUcbGvBfDtBgBPAmu"⟩,
  ⟨["nbat", "nabataean"],
    "DWEiBfij"⟩,
  ⟨["nagm", "nagmundari"],
    "HBPoBq"⟩,
  ⟨["nand", "nandinagari"],
    "DOmcBImkGBhbibhbCASrgBQYsicBucl"⟩,
  ⟨["talu", "newtailue"],
    "JRcBseBagldc"⟩,
  ⟨["newa"],
    "EANoDobf"⟩,
  ⟨["nko", "nkoo"],
    "CHobobdbQaChcdDOWsc"⟩,
  ⟨["nshu", "nushu"],
    "FJIfbYVmPg"⟩,
  ⟨["hmnp", "nyiakengpuachuehmong"],
    "HAEaBtdockec"⟩,
  ⟨["ogam", "ogham"],
    "INoBd"⟩,
  ⟨["olck", "olchiki"],
    "KSuBw"⟩,
  ⟨["onao", "olonal"],
    "DOmcGYKwBreb"⟩,
  ⟨["hung", "oldhungarian"],
    "MGobcbFGdbpbDGEgBznBzhg"⟩,
  ⟨["ital", "olditalic"],
    "DUCeBkjd"⟩,
  ⟨["narb", "oldnortharabian"],
    "DWYaBg"⟩,
  ⟨["perm", "oldpermic"],
    "HbbWmbfdkbOdbDSMuBr"⟩,
  ⟨["xpeo", "oldpersian"],
    "DUIiBkeo"⟩,
  ⟨["sogo", "oldsogdian"],
    "DYQiBo"⟩,
  ⟨["sarb", "oldsoutharabian"],
    "DWWuBg"⟩,
  ⟨["orkh", "oldturkic"],
    "MGobFGfbDFZzCv"⟩,
  ⟨["ougr", "olduyghur"],
    "CJobDUSvbBSfBa"⟩,
  ⟨["orya", "oriya"],
    "DNtcrcPvdbicccwbhbcbfcjcccdhdecbfcsGPebxb"⟩,
  ⟨["osge", "osage"],
    "BDpbcbgbCybDTLvBkeBk"⟩,
  ⟨["osma", "osmanya"],
    "DUQyBeck"⟩,
  ⟨["hmng", "pahawhhmong"],
    "FHMeCskkbhbvft"⟩,
  ⟨["palm", "palmyrene"],
    "DWDcBg"⟩,
  ⟨["pauc", "paucinhau"],
    "EDCaCf"⟩,
  ⟨["phag", "phagspa"],
    "JCkcbbDCjbFZubBTNxCe"⟩,
  ⟨["phnx", "phoenician"],
    "DWJgBcdb"⟩,
  ⟨["phlp", "psalterpahlavi"],
    "CJobDUYhshemh"⟩,
  ⟨["rjng", "rejang"],
    "CMBwBklb"⟩,
  ⟨["runr", "runic"],
    "IOuDl"⟩,
  ⟨["samr", "samaritan"],
    "DAuBucpOJqb"⟩,
  ⟨["saur", "saurashtra"],
    "CLVcCsim"⟩,
  ⟨["shrd", "sharada"],
    "DNtbHKfbbbcccbCATrgcbBNWpDs"⟩,
  ⟨["shaw", "shavian"],
    "HbbDUIaBw"⟩,
  ⟨["sidd", "siddham"],
    "EBCiCccBm"⟩,
  ⟨["sgnw", "signwriting"],
    "GWTkZcpfbp"⟩,
  ⟨["sinh", "sinhala"],
    "DOmcBOldbsdybjbbchdbegbbbigkcdFRpbDOTqu"⟩,
  ⟨["sogd", "sogdian"],
    "CJobDWIpBq"⟩,
  ⟨["sora", "sorasompeng"],
    "DZIezhk"⟩,
  ⟨["soyo", "soyombo"],
    "ECXsDf"⟩,
  ⟨["sund", "sundanese"],
    "KKuCmJwi"⟩,
  ⟨["sunu", "sunuwar"],
    "BDocbbjbcbBcbdbECGkBiok"⟩,
  ⟨["sylo", "sylotinagri"],
    "DOmcEykCHWiBt"⟩,
  ⟨["syrc", "syriac"],
    "BDrcccbbvbcdhcbbBCdboccbBgbklBabFnobCicdKmlIEfbbb"⟩,
  ⟨["tglg", "tagalog"],
    "ISmwjbvc"⟩,
  ⟨["tagb", "tagbanwa"],
    "IUncBpnbdbc"⟩,
  ⟨["tale", "taile"],
    "BDocfcdbEZzkDKwBecf"⟩,
  ⟨["lana", "taitham"],
    "JXgClbBdclgkgo"⟩,
  ⟨["tavt", "taiviet"],
    "CMOuCpyf"⟩,
  ⟨["takr", "takri"],
    "DOmcCIDmkBPTuCggk"⟩,
  ⟨["taml", "tamil"],
    "DNtcrcUucbgddbedcbbbcdcdddmefddbecbgbovGKdbCBBkbBOEfbbbCdcETfBynb"⟩,
  ⟨["tnsa", "tangsa"],
    "FHGqDbbk"⟩,
  ⟨["tang", "tangut"],
    "SEaqTbbEQKmbBfJCaiBDoTsj"⟩,
  ⟨["telu", "telugu"],
    "DNtcrcZqnbdbxbqcjbdbehcbdcbceckhjGFabxb"⟩,
  ⟨["thaa", "thaana"],
    "CHoboccbCmkKsByDPGqbkb"⟩,
  ⟨["thai"],
    "BAybBabBrbBtbEClCgfBc"⟩,
  ⟨["tibt", "tibetan"],
    "FRsCubBkeBnbBkbpbhecMEve"⟩,
  ⟨["tfng", "tifinagh"],
    "BDqbbbcbbbPZaCehcob"⟩,
  ⟨["tirh", "tirhuta"],
    "DNtcrcHKmbCASzkBPAcCuik"⟩,
  ⟨["todr", "todhri"],
    "BDpbcbcbjbbbCwbDTWbCa"⟩,
  ⟨["toto"],
    "BAybGZSlBf"⟩,
  ⟨["tutg", "tulutigalari"],
    "EXakGBqbbbCASxgHfbBOJekbbcbbBmbkbbcbbebkbcic"⟩,
  ⟨["ugar", "ugaritic"],
    "DUHcBebb"⟩,
  ⟨["vai", "vaii"],
    "CKMqLo"⟩,
  ⟨["vith", "vithkuqi"],
    "DVAelbpbhbcblbpbhbc"⟩,
  ⟨["wcho", "wancho"],
    "HAVgCgfb"⟩,
  ⟨["wara", "warangciti"],
    "ECHcDfmb"⟩,
  ⟨["yezi", "yezidi"],
    "CHobobdbCmkDWAgBqbdcc"⟩,
  ⟨["yi", "yiii"],
    "SErcfkciIpbBQBcBSvdCdBIIcf"⟩,
  ⟨["zanb", "zanabazarsquare"],
    "ECUqCu"⟩]

end Conformance.Unicode
