import Conformance.Unicode.Table

/-!
# Scripts

The script that each character belongs to, as of version 16 of the standard.
-/

set_option autoImplicit false

namespace Conformance.Unicode

/-- The characters of each script, under its names. -/
def scripts : List NamedSet := [
  ⟨["adlm", "adlam"],
    "HDEuCyekec"⟩,
  ⟨["ahom"],
    "EBRcBbcpex"⟩,
  ⟨["hluw", "anatolianhieroglyphs"],
    "ESSeWl"⟩,
  ⟨["arab", "arabic"],
    "CHcfbgbobdbBgbklBabEebBiDcBwJgBfbcfCxbBdDNTwElqNzcDccCchbBgqEifbFfFVnBfCpdCdeDGLsebBbbcb" ++
    "bcbbkbebbbbgbebbbbbbdbcbbcbbbbbbbbbbcbbcebhbebebbbkbrfdbfbrCac"⟩,
  ⟨["armn", "armenian"],
    "BZdBmcBycdDOZjf"⟩,
  ⟨["avst", "avestan"],
    "DXCyCcdh"⟩,
  ⟨["bali", "balinese"],
    "KFwCzbBy"⟩,
  ⟨["bamu", "bamum"],
    "CLCqDkCVCqVx"⟩,
  ⟨["bass", "bassavah"],
    "FHKiBecg"⟩,
  ⟨["batk", "batak"],
    "KNgCaie"⟩,
  ⟨["beng", "bengali"],
    "DPoebicccwbhbbdecjccceibecbfcz"⟩,
  ⟨["bhks", "bhaiksuki"],
    "EDOijbBtbokBd"⟩,
  ⟨["bopo", "bopomofo"],
    "BCscRLxBrEiBg"⟩,
  ⟨["brah", "brahmi"],
    "DZAeDaeBkjb"⟩,
  ⟨["brai", "braille"],
    "PDwJw"⟩,
  ⟨["bugi", "buginese"],
    "JWaBccc"⟩,
  ⟨["buhd", "buhid"],
    "IUyu"⟩,
  ⟨["cans", "canadianaboriginal"],
    "HOyYqVoCsDTPqq"⟩,
  ⟨["cari", "carian"],
    "DTYmBx"⟩,
  ⟨["aghb", "caucasianalbanian"],
    "DUXsCalb"⟩,
  ⟨["cakm", "chakma"],
    "DZKaCbbs"⟩,
  ⟨["cham"],
    "CMJwCdjockce"⟩,
  ⟨["cher", "cherokee"],
    "HLgDicgCFJeDc"⟩,
  ⟨["chrs", "chorasmian"],
    "DYXcBc"⟩,
  ⟨["zyyy", "common"],
    "aCnBagBaBvbpbfxbBfbRhBnffcuEmbjbgbbbYnbgbobdbBgbGabTwbEzcBVtbPpeLebCGldCtcHvcbbBVhbnbheb" ++
    "gbdcbBDtmcDjbldlbprBhClBmbdcgbBbbrBpdeZqwlvBJsJwYecBgbEbTsDqPmvbbbzpieeDncdbDmcFrqBgBmjb" ++
    "BwCmBfDdBvbDkGmJToCmBHSiBiDydGjkJkbGebPfbocBEZqcIakwBjbtbeFrbbBgBagBalkbBtcCmhbhkfJydeBt" ++
    "djDcnBzBtIuBbCSHweFVgJqgQuGaEmCiJmkBncCkdrichBeeCjIfumumDjjzFfDhbCtbccbcccebmbbbhbCnbeci" ++
    "bhbBcbebfbbdhbNccLgcByHThCqCyCjBBeBseDwmpcpbpbBlkGsCeBabcnBsejhcogFyBLwerdndEpeDrgmebpme" ++
    "CeikgBoiBecmecCkNcmocndkfCehpclgjhFrbDyBSUXbbBeDs"⟩,
  ⟨["copt", "qaac", "coptic"],
    "BMgoPJkEmfh"⟩,
  ⟨["xsux", "cuneiform"],
    "EFBsBJmDyEhbflHo"⟩,
  ⟨["cprt", "cypriot"],
    "DVZkgcbbBsbcdbcb"⟩,
  ⟨["cpmn", "cyprominoan"],
    "EKYyDv"⟩,
  ⟨["cyrl", "cyrillic"],
    "BNkFdcGnIVolGebCybGFnBgBTOaDsBHEccDHPgCkBhb"⟩,
  ⟨["dsrt", "deseret"],
    "DUMaDc"⟩,
  ⟨["deva", "devanagari"],
    "DKqDdepcBaCIJgBgBREmk"⟩,
  ⟨["diak", "divesakuru"],
    "ECKuhcbcibcbBebccmjk"⟩,
  ⟨["dogr", "dogra"],
    "ECAyCi"⟩,
  ⟨["dupl", "duployan"],
    "GMDsEdfndjhkce"⟩,
  ⟨["egyp", "egyptianhieroglyphs"],
    "ELDgBQskFXr"⟩,
  ⟨["elba", "elbasan"],
    "DUVwBo"⟩,
  ⟨["elym", "elymaic"],
    "DYYyx"⟩,
  ⟨["ethi", "ethiopic"],
    "GVgCvbechbbbecBpbecBhbechbbbecpbCfbecCpcBgdBaJVaxjhbhbhbhbhbhbhbhBVKcgcgcgjhbhEPYfhbebcb" ++
    "p"⟩,
  ⟨["gara", "garay"],
    "DXZcBmdBdic"⟩,
  ⟨["geor", "georgian"],
    "GHsBmbbfbcBrbeEJwBrcdGEaBmbbfb"⟩,
  ⟨["glag", "glagolitic"],
    "QRgDsGIZghbrchbcbf"⟩,
  ⟨["goth", "gothic"],
    "DUEaBb"⟩,
  ⟨["gran", "grantha"],
    "EADsebicccwbhbcbfcjcccdcbgbfhchdf"⟩,
  ⟨["grek", "greek"],
    "BHwebdcebbebbbbdbbbubCloqJNqfByfefDgbMiwcgcBmcgcibbbbbbbBfcCbbpbocgbtcdbjLjbCAJebBGNiDbr" ++
    "bDAXrCs"⟩,
  ⟨["gujr", "gujarati"],
    "DZldbjbdbwbhbcbfckbdbdcbpecmhh"⟩,
  ⟨["gong", "gunjalagondi"],
    "EEBwgbcbBlbcbghk"⟩,
  ⟨["guru", "gurmukhi"],
    "DUndbgeccwbhbcbcbccbbfeccddbhebbhr"⟩,
  ⟨["gukh", "gurungkhema"],
    "FDRsCg"⟩,
  ⟨["han", "hani"],
    "RPwBabDlmIgBvbbbzjoeBLcJToCmBFBkBHSiOccEcBSIicmcCCOkCLFcBgGDugIocINqoLBlpXyDQwUwCFyHHzfG" ++
    "Fg"⟩,
  ⟨["hang", "hangul"],
    "GLkJwLLecJxDqEjBfCnBfBTAnBdYtQNsmxeBxPAiBfdgcgcgcd"⟩,
  ⟨["rohg", "hanifirohingya"],
    "DXWqBoik"⟩,
  ⟨["hano", "hanunoo"],
    "ITsv"⟩,
  ⟨["hatr", "hatran"],
    "DWIatbcff"⟩,
  ⟨["hebr", "hebrew"],
    "CCvCdiBbegDOVwBabfbbbcbcbk"⟩,
  ⟨["hira", "hiragana"],
    "SHdDigdFPEvLbsbBddYMvb"⟩,
  ⟨["armi", "imperialaramaic"],
    "DWBwwbj"⟩,
  ⟨["qaai", "zinh", "inherited"],
    "BDoEiKrcRklBabBCieGOxBfTtdbnbhebgbdcHqCmUecHmBhFTxeEdcCZUjqqoBLnbIsbGFabCTCuBucxUydrichB" ++
    "eeBTLHiJg"⟩,
  ⟨["phli", "inscriptionalpahlavi"],
    "DXGqtfi"⟩,
  ⟨["prti", "inscriptionalparthian"],
    "DXFkwci"⟩,
  ⟨["java", "javanese"],
    "CMEyDackec"⟩,
  ⟨["kthi", "kaithi"],
    "DZFcCpkb"⟩,
  ⟨["knda", "kannada"],
    "ETcnbdbxbkbfcjbdbehcgcbeckbd"⟩,
  ⟨["kana", "katakana"],
    "SKvDmcdJgqIaBvbDkCZHekbBtCOUcebhbcbbLbdByboe"⟩,
  ⟨["kawi"],
    "EERwrbBpdBd"⟩,
  ⟨["kali", "kayahli"],
    "CMAaBubb"⟩,
  ⟨["khar", "kharoshthi"],
    "DWTcebcfibdbBdcdekhj"⟩,
  ⟨["kits", "khitansmallscript"],
    "FJIibKGxScBpb"⟩,
  ⟨["khmr", "khmer"],
    "IXkDqckgkSsBg"⟩,
  ⟨["khoj", "khojki"],
    "DZTwsbBv"⟩,
  ⟨["sind", "khudawadi"],
    "EAAqChfk"⟩,
  ⟨["krai", "kiratrai"],
    "FIIiCg"⟩,
  ⟨["lao", "laoo"],
    "FMvcbbbfbybbbxcfbbbhbkce"⟩,
  ⟨["latn", "latin"],
    "CnBagBaBvbpbfxbBfbRhBnfJXbBmgBxfefnbCsCnJwOfbnbqnFlcgbBbbrBpECtBgBULmDydCpccbbbivoBFkBrb" ++
    "jbeBEDqhBOkBagBaDCfgbBqbjDDNpBfgg"⟩,
  ⟨["lepc", "lepcha"],
    "KPsCedpdd"⟩,
  ⟨["limb", "limbu"],
    "JMeBfbmemebdm"⟩,
  ⟨["lina", "lineara"],
    "DVFsLzjwki"⟩,
  ⟨["linb", "linearb"],
    "DSYqmbBabtbcbpcoBiEt"⟩,
  ⟨["lisu"],
    "CKKuBwBUMab"⟩,
  ⟨["lyci", "lycian"],
    "DTXgBd"⟩,
  ⟨["lydi", "lydian"],
    "DWKmBafb"⟩,
  ⟨["mahj", "mahajani"],
    "DZNcBn"⟩,
  ⟨["maka", "makasar"],
    "EEQqz"⟩,
  ⟨["mlym", "malayalam"],
    "EYanbdbBzbdbgeqcBa"⟩,
  ⟨["mand", "mandaic"],
    "DDgBccb"⟩,
  ⟨["mani", "manichaean"],
    "DXAmBnem"⟩,
  ⟨["marc", "marchen"],
    "EDSqBgcwbo"⟩,
  ⟨["gonm", "masaramgondi"],
    "EDYehbcbBsdbbcbjik"⟩,
  ⟨["medf", "medefaidrin"],
    "FISeDn"⟩,
  ⟨["mtei", "meeteimayek"],
    "CMSmxHtBuck"⟩,
  ⟨["mend", "mendekikakui"],
    "HCUyHpcq"⟩,
  ⟨["merc", "meroiticcursive"],
    "DWPkyeucBu"⟩,
  ⟨["mero", "meroitichieroglyphs"],
    "DWOeBg"⟩,
  ⟨["miao", "plrd"],
    "FIZoCxeCfhr"⟩,
  ⟨["modi"],
    "EBHgCrlk"⟩,
  ⟨["mong", "mongolian"],
    "JCiccbbugDlhBrDSCbn"⟩,
  ⟨["mro", "mroo"],
    "FHEuBfbkec"⟩,
  ⟨["mult", "multani"],
    "DZYuhbbbebpbl"⟩,
  ⟨["mymr", "myanmar"],
    "GBoGeCGAyBfDtBgBPAmu"⟩,
  ⟨["nbat", "nabataean"],
    "DWEiBfij"⟩,
  ⟨["nagm", "nagmundari"],
    "HBPoBq"⟩,
  ⟨["nand", "nandinagari"],
    "ECQyicBucl"⟩,
  ⟨["talu", "newtailue"],
    "JRcBseBagldc"⟩,
  ⟨["newa"],
    "EANoDobf"⟩,
  ⟨["nko", "nkoo"],
    "CYiChcd"⟩,
  ⟨["nshu", "nushu"],
    "FJIfbYVmPg"⟩,
  ⟨["hmnp", "nyiakengpuachuehmong"],
    "HAEaBtdockec"⟩,
  ⟨["ogam", "ogham"],
    "INoBd"⟩,
  ⟨["olck", "olchiki"],
    "KSuBw"⟩,
  ⟨["onao", "olonal"],
    "HBZkBreb"⟩,
  ⟨["hung", "oldhungarian"],
    "DXRsBznBzhg"⟩,
  ⟨["ital", "olditalic"],
    "DUCeBkjd"⟩,
  ⟨["narb", "oldnortharabian"],
    "DWYaBg"⟩,
  ⟨["perm", "oldpermic"],
    "DUFgBr"⟩,
  ⟨["xpeo", "oldpersian"],
    "DUIiBkeo"⟩,
  ⟨["sogo", "oldsogdian"],
    "DYQiBo"⟩,
  ⟨["sarb", "oldsoutharabian"],
    "DWWuBg"⟩,
  ⟨["orkh", "oldturkic"],
    "DXMuCv"⟩,
  ⟨["ougr", "olduyghur"],
    "DYUqBa"⟩,
  ⟨["orya", "oriya"],
    "EEjdbicccwbhbcbfcjcccdhdecbfcs"⟩,
  ⟨["osge", "osage"],
    "DUSuBkeBk"⟩,
  ⟨["osma", "osmanya"],
    "DUQyBeck"⟩,
  ⟨["hmng", "pahawhhmong"],
    "FHMeCskkbhbvft"⟩,
  ⟨["palm", "palmyrene"],
    "DWDcBg"⟩,
  ⟨["pauc", "paucinhau"],
    "EDCaCf"⟩,
  ⟨["phag", "phagspa"],
    "CLSqCe"⟩,
  ⟨["phnx", "phoenician"],
    "DWJgBcdb"⟩,
  ⟨["phlp", "psalterpahlavi"],
    "DXHwshemh"⟩,
  ⟨["rjng", "rejang"],
    "CMBwBklb"⟩,
  ⟨["runr", "runic"],
    "IOuCxdl"⟩,
  ⟨["samr", "samaritan"],
    "DAuBucp"⟩,
  ⟨["saur", "saurashtra"],
    "CLVcCsim"⟩,
  ⟨["shrd", "sharada"],
    "DZOyDs"⟩,
  ⟨["shaw", "shavian"],
    "DUPcBw"⟩,
  ⟨["sidd", "siddham"],
    "EBCiCccBm"⟩,
  ⟨["sgnw", "signwriting"],
    "GWTkZcpfbp"⟩,
  ⟨["sinh", "sinhala"],
    "FCzdbsdybjbbchdbegbbbigkcdDULgu"⟩,
  ⟨["sogd", "sogdian"],
    "DYSeBq"⟩,
  ⟨["sora", "sorasompeng"],
    "DZIezhk"⟩,
  ⟨["soyo", "soyombo"],
    "ECXsDf"⟩,
  ⟨["sund", "sundanese"],
    "KKuCmJwi"⟩,
  ⟨["sunu", "sunuwar"],
    "EDLwBiok"⟩,
  ⟨["sylo", "sylotinagri"],
    "CLQeBt"⟩,
  ⟨["syrc", "syriac"],
    "CQyobCicdKml"⟩,
  ⟨["tglg", "tagalog"],
    "ISmwjb"⟩,
  ⟨["tagb", "tagbanwa"],
    "IWenbdbc"⟩,
  ⟨["tale", "taile"],
    "JPgBecf"⟩,
  ⟨["lana", "taitham"],
    "JXgClbBdclgkgo"⟩,
  ⟨["tavt", "taiviet"],
    "CMOuCpyf"⟩,
  ⟨["takr", "takri"],
    "EBMeCggk"⟩,
  ⟨["taml", "tamil"],
    "EJicbgddbedcbbbcdcdddmefddbecbgbovEALhBynb"⟩,
  ⟨["tnsa", "tangsa"],
    "FHGqDbbk"⟩,
  ⟨["tang", "tangut"],
    "FJIebBfJCaiBDoTsj"⟩,
  ⟨["telu", "telugu"],
    "EOenbdbxbqcjbdbehcbdcbceckhj"⟩,
  ⟨["thaa", "thaana"],
    "CVwBy"⟩,
  ⟨["thai"],
    "FHxCgfBc"⟩,
  ⟨["tibt", "tibetan"],
    "FRsCubBkeBnbBkbpbhec"⟩,
  ⟨["tfng", "tifinagh"],
    "RCyCehcob"⟩,
  ⟨["tirh", "tirhuta"],
    "EASmCuik"⟩,
  ⟨["todr", "todhri"],
    "DVDgCa"⟩,
  ⟨["toto"],
    "HATkBf"⟩,
  ⟨["tutg", "tulutigalari"],
    "EAIqkbbcbbBmbkbbcbbebkbcic"⟩,
  ⟨["ugar", "ugaritic"],
    "DUHcBebb"⟩,
  ⟨["vai", "vaii"],
    "CKMqLo"⟩,
  ⟨["vith", "vithkuqi"],
    "DVAelbpbhbcblbpbhbc"⟩,
  ⟨["wcho", "wancho"],
    "HAVgCgfb"⟩,
  ⟨["wara", "warangciti"],
    "ECHcDfmb"⟩,
  ⟨["yezi", "yezidi"],
    "DYLkBqbdcc"⟩,
  ⟨["yi", "yiii"],
    "CIPkBSvdCd"⟩,
  ⟨["zanb", "zanabazarsquare"],
    "ECUqCu"⟩]

end Conformance.Unicode
