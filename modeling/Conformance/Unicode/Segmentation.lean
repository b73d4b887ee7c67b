import Conformance.Unicode.Table

/-!
# Text segmentation classes

The classes of characters that the rules for breaking text into clusters, words and sentences use, as of
version 16 of the standard.
-/

set_option autoImplicit false

namespace Conformance.Unicode

/-- The characters of each class of grapheme cluster breaks. -/
def graphemeClusterBreaks : List NamedSet := [
  ⟨["cr"],
    "nb"⟩,
  ⟨["cn", "control"],
    "akbcbsDrBhnbCBmbGUrbDAqbccyhBxqDGHjbJgmTUaqBZQueHWxiBTKZlBgDsEyJgFIm"⟩,
  ⟨["ex", "extend"],
    "BDoEiKphKdBtbbbcbcbbCulBwvqbDxhcgccbeBjbBeBbDnlCgjjbyebjbdbfBrdChjBqybBgCdbbbeiebdhkcBdb" ++
    "CgbbbceibjbkcBabccCfbececcddbBecdblcCfbefbcebucwgbbCgbbcbeibhdkcBebChbbbmbjbBobdbCdbbdfd" ++
    "behclcBdbCgbccbbddbehclcBccCfcbbceibjbkcBdbCubebcdbbibDdbchmiDubcjlhCvcBbbbbbbCdobfbcflb" ++
    "BkjbDyebgbccczcedqenbccgbpbBBbdBKkeBcdBdcBecCmcbhibcljbBtdbbEncBibEodecjbgdIlccbCgbbhbbb" ++
    "bcigkcbBwBfBxeBwkedBmjmcBgecgCebbcdbbfCeiccFwdbnbhebgbdcHqCmUebHnBhEOcdFlbDsBgVigEbcBSQe" ++
    "ebkBgcDccKmbdbebzcfbFvcBasnbBmizlbbBsdBwbcecccbBkbCpgccccmbibBvbBzbbdccfcbbBqcibJebcbebB" ++
    "DZsbBCjqqqOccXhbIsbFtfCMgdbcfeBodebGjcWbeCnfMfcDbeCslBxeEtbCcpBpbcckdBxecchbCjdBkfbiCkbm" ++
    "cCajbbiecbDrdcegbcbGbbdivcCfcbbbbmbjbohdfCpbcgbbcbbdedbbocDhicdbbxbDdbcgbbcbbcbcJbbcegcb" ++
    "cBbcDhicbbcEcbbbciDxbbbcebfJzjbcJlbkeebFoeccebBgkBogceibjgcdBunbcPqhbgbbDewchbcbcEsgdbbc" ++
    "bhbbCucdbbbNjclcCaffdxbHXtbgpQYymddDSafChhBOibCleDdblcBDAxcGYzBucxUwfdgiichBeeFsdCYdCdeB" ++
    "yibobwfbpCAihbrchbcbfDwbGehOlbCjeToeJucBCihEfhEBgfBSXYuDsEyJg"⟩,
  ⟨["l"],
    "GLkDsCFOqBd"⟩,
  ⟨["lf"],
    "kb"⟩,
  ⟨["lv"],
    "CNDobBbbBbbBbbBbbBbbBbbBbbBbbBbbBbbBbbBbbBbbBbbBbbBbbBbbBbbBbbBbbBbbBbbBbbBbbBbbBbbBbbBb" ++
    "bBbbBbbBbbBbbBbbBbbBbbBbbBbbBbbBbbBbbBbbBbbBbbBbbBbbBbbBbbBbbBbbBbbBbbBbbBbbBbbBbbBbbBbb" ++
    "BbbBbbBbbBbbBbbBbbBbbBbbBbbBbbBbbBbbBbbBbbBbbBbbBbbBbbBbbBbbBbbBbbBbbBbbBbbBbbBbbBbbBbbB" ++
    "bbBbbBbbBbbBbbBbbBbbBbbBbbBbbBbbBbbBbbBbbBbbBbbBbbBbbBbbBbbBbbBbbBbbBbbBbbBbbBbbBbbBbbBb" ++
    "bBbbBbbBbbBbbBbbBbbBbbBbbBbbBbbBbbBbbBbbBbbBbbBbbBbbBbbBbbBbbBbbBbbBbbBbbBbbBbbBbbBbbBbb" ++
    "BbbBbbBbbBbbBbbBbbBbbBbbBbbBbbBbbBbbBbbBbbBbbBbbBbbBbbBbbBbbBbbBbbBbbBbbBbbBbbBbbBbbBbbB" ++
    "bbBbbBbbBbbBbbBbbBbbBbbBbbBbbBbbBbbBbbBbbBbbBbbBbbBbbBbbBbbBbbBbbBbbBbbBbbBbbBbbBbbBbbBb" ++
    "bBbbBbbBbbBbbBbbBbbBbbBbbBbbBbbBbbBbbBbbBbbBbbBbbBbbBbbBbbBbbBbbBbbBbbBbbBbbBbbBbbBbbBbb" ++
    "BbbBbbBbbBbbBbbBbbBbbBbbBbbBbbBbbBbbBbbBbbBbbBbbBbbBbbBbbBbbBbbBbbBbbBbbBbbBbbBbbBbbBbbB" ++
    "bbBbbBbbBbbBbbBbbBbbBbbBbbBbbBbbBbbBbbBbbBbbBbbBbbBbbBbbBbbBbbBbbBbbBbbBbbBbbBbbBbbBbbBb" ++
    "bBbbBbbBbbBbbBbbBbbBbbBbbBbbBbbBbbBbbBbbBbbBbbBbbBbbBbbBbbBbbBbbBbbBbbBbbBbbBbbBbbBbbBbb" ++
    "BbbBbbBbbBbbBbbBbbBbbBbbBbbBbbBbbBbbBbbBbbBbbBbbBbbBbbBbbBbbBbbBbbBbbBbbBbbBbbBbbBbbBbbB" ++
    "bbBbbBbbBbbBbbBbbBbbBbbBbbBbbBbbBbbBbbBbbBbbBbbBbbBbbBbbBbbBbbBbbBbbBbbBbbBbbBbbBbbBbbBb" ++
    "bBbbBbbBbbBbbBbbBbbBbbBbbBbbBbbBbbBbbBbbBbbBbbBbbBbbBbb"⟩,
  ⟨["lvt"],
    "CNDpBbbBbbBbbBbbBbbBbbBbbBbbBbbBbbBbbBbbBbbBbbBbbBbbBbbBbbBbbBbbBbbBbbBbbBbbBbbBbbBbbBbb" ++
    "BbbBbbBbbBbbBbbBbbBbbBbbBbbBbbBbbBbbBbbBbbBbbBbbBbbBbbBbbBbbBbbBbbBbbBbbBbbBbbBbbBbbBbbB" ++
    "bbBbbBbbBbbBbbBbbBbbBbbBbbBbbBbbBbbBbbBbbBbbBbbBbbBbbBbbBbbBbbBbbBbbBbbBbbBbbBbbBbbBbbBb" ++
    "bBbbBbbBbbBbbBbbBbbBbbBbbBbbBbbBbbBbbBbbBbbBbbBbbBbbBbbBbbBbbBbbBbbBbbBbbBbbBbbBbbBbbBbb" ++
    "BbbBbbBbbBbbBbbBbbBbbBbbBbbBbbBbbBbbBbbBbbBbbBbbBbbBbbBbbBbbBbbBbbBbbBbbBbbBbbBbbBbbBbbB" ++
    "bbBbbBbbBbbBbbBbbBbbBbbBbbBbbBbbBbbBbbBbbBbbBbbBbbBbbBbbBbbBbbBbbBbbBbbBbbBbbBbbBbbBbbBb" ++
    "bBbbBbbBbbBbbBbbBbbBbbBbbBbbBbbBbbBbbBbbBbbBbbBbbBbbBbbBbbBbbBbbBbbBbbBbbBbbBbbBbbBbbBbb" ++
    "BbbBbbBbbBbbBbbBbbBbbBbbBbbBbbBbbBbbBbbBbbBbbBbbBbbBbbBbbBbbBbbBbbBbbBbbBbbBbbBbbBbbBbbB" ++
    "bbBbbBbbBbbBbbBbbBbbBbbBbbBbbBbbBbbBbbBbbBbbBbbBbbBbbBbbBbbBbbBbbBbbBbbBbbBbbBbbBbbBbbBb" ++
    "bBbbBbbBbbBbbBbbBbbBbbBbbBbbBbbBbbBbbBbbBbbBbbBbbBbbBbbBbbBbbBbbBbbBbbBbbBbbBbbBbbBbbBbb" ++
    "BbbBbbBbbBbbBbbBbbBbbBbbBbbBbbBbbBbbBbbBbbBbbBbbBbbBbbBbbBbbBbbBbbBbbBbbBbbBbbBbbBbbBbbB" ++
    "bbBbbBbbBbbBbbBbbBbbBbbBbbBbbBbbBbbBbbBbbBbbBbbBbbBbbBbbBbbBbbBbbBbbBbbBbbBbbBbbBbbBbbBb" ++
    "bBbbBbbBbbBbbBbbBbbBbbBbbBbbBbbBbbBbbBbbBbbBbbBbbBbbBbbBbbBbbBbbBbbBbbBbbBbbBbbBbbBbbBbb" ++
    "BbbBbbBbbBbbBbbBbbBbbBbbBbbBbbBbbBbbBbbBbbBbbBbbBbbBbbBb"⟩,
  ⟨["pp", "prepend"],
    "CHcgIhbBxbOucDcbBRnbDUGkbpbJkcUfbCBlbbbJobCvgBAybRbb"⟩,
  ⟨["ri", "regionalindicator"],
    "HGOkBa"⟩,
  ⟨["sm", "spacingmark"],
    "DKtbCdbcdiebcBycChcgcccCcbCgdCobCgdibbcCbcCibgcccEkbbcddbdCadCjeCjcCgbcbbcBubocChcfdbdCb" ++
    "cCycghtcClbExbFicClbGvbjczcBsbCSvbhibcNiecdecbgIqcCgbbbvgFpbCfeCmbBebecClbcdbbCbiicGpbvb" ++
    "CAShccbDkcByqFmbBwbBwcecccEhcccybGbbccfbJdcbcbcbbBLXjbbbExbBtdecElbycChbBwdjbobDpddcGqdB" ++
    "fcChbbeccccvcDhcpbbcDzdicdbEdcgbbcbbcbJecgecbEjdicbbEfbbcEgbhbKbdjbJofbchbbbFmdieebDgbBd" ++
    "cCkbPrbobEcbhbcbIffecbbNmcmbBwcicYZadFJgCd"⟩,
  ⟨["t"],
    "GRwDkCWXnBx"⟩,
  ⟨["v"],
    "GPcCuCWZwxCERcbde"⟩,
  ⟨["zwj"],
    "MDpb"⟩]

def wordBreaks : List NamedSet := [
  ⟨["le", "aletter"],
    "CnBagBaBvbkbebfxbBfbSmgBiEifbccebbgbbdbbbubDfbFjiGkbBmcebbbBpbbEabBsBrBjcbDvbbpchckdcbpc" ++
    "bBeBdDllbyBhjcebfwebjbdbxzhlfybgrBqCgCcdbsbhkpqeicccwbhbbdedbqbncbdockbigeccwbhbcbcbcBfe" ++
    "bbtdqjbdbwbhbcbfdbsbpcxblicccwbhbcbfdbBecbdpbrbbgddbedcbbbcdcdddmwbCaibdbxbqdbBadcbccBeb" ++
    "eibdbxbkbfdbBfcbcpcrjbdbBpcbqbfdidygfsdybjbbchMbbClibBkBbfKpBmbbfbcBrbMvbechbbbecBpbecBh" ++
    "bechbbbecpbCfbecCpBlqqDicgdXwcrbBafCxdlhsntosonbdGtDlhfcBibbfCskBfIrxJeBvriCcBenckBsBaBk" ++
    "BpdkBkclfBrcdBpebgbcdbfHkCmKscgcBmcgcibbbbbbbBfcCbbhbbddbhdecgenfdbhEmbnbqnDxbebckbbdfgb" ++
    "bbbbbeblceffebrBpBFhCaCRuIvgedcmBmbbfbcCehbqxjhbhbhbhbhbhbhbhDcbSbbCbcHsBrbDqrBgBPToBSvC" ++
    "pBucKjdqkcuBvqBfcDcyHqccbbbivqbdbebxBdCaoByCkgdbbclBckxzBdhBvBcbBwBpxdbiFslhdmgcgcgjhbhb" ++
    "CggElBdQNsmxeBxNGuhmfCeDuBhNzsCmcCcBomEmfbFfBkBagBaCrBfdgcgcgcdBjmbBabtbcbpcoBiEtCrCbKhB" ++
    "ddBxBvBgnBefBmkBecBkeibfBqGcsBkeBkeBoiCamlbpbhbcblbpbhbcdCamLzjwkiygbBqbjCrgcbbBsbcdbcxk" ++
    "xjBfCntbckwkBaCsCegcCmbpebdbBdBqBddBdBjibBcBbCckwktnsEgCvCdBznBznBkBmBcjxJqBqgcqdChBdkbi" ++
    "wBqsBuvBbxmCbCfccbnBtBgzBaBkBdbcbiBjdbmBwoevbbbBjsbztcClhbbbebpbkhBvBmicccwbhbcbfdbsbmfB" ++
    "ekbbcbbBmbbzbbbBsCbseudBeBwucbbHcBvBpeBkBwubChBrnbMpBsEmCmBficbcibcbypbbbDqicBnqbbbBcbkB" ++
    "ohbvblButbsCvHrBhBfjbBlrbBxBeEihbcbBmvbzgbcbBgobMptpbbnbBiEubDbBJmDyEhrHoDXkDtpBPgrgzFXr" ++
    "fWlKDdBeCPuVxhBfrDbrBesBwqeBfvftQqBtIdCmEyCxfbConCmcbbBCVkEdfndjhkIWkDhbCtbccbcccebmbbbh" ++
    "bCnbecibhbBcbebfbbdhbNcczbzbBfbzbBfbzbBfbzbBfbzbiCSyBfggKbCkFqBtkhqbMjBesBsSqBcIuBecbTbh" ++
    "bebcbpbHpChCqhbBUiebBbbcbbcbbkbebbbbgbebbbbbbdbcbbcbbbbbbbbbbcbbcebhbebebbbkbrfdbfbrYeBa" ++
    "gBagBa"⟩,
  ⟨["cr"],
    "nb"⟩,
  ⟨["dq", "doublequote"],
    "Bib"⟩,
  ⟨["extend"],
    "BDoEiKphKdBtbbbcbcbbCulBwvqbDxhcgccbeBjbBeBbDnlCgjjbyebjbdbfBrdChjBqybBhCcdbsbhkcBddCebb" ++
    "hcccdjbkcBabcdCebbfeccddbBecdbldCebbibdbducwgbdCebbhcccdhdkcBebChfddbejbBofCdbbhbdbehclc" ++
    "BddCebbhbdbehclcpbmeCdcbhbdbejbkcBddCsbegbbbiscCjbchmiDubcjlhCvcBbbbbbbecBxubcflbBkjbDwu" ++
    "xeedbdchdenmbbkeBBbdBKkeBcdBdcBecCmBgjbBtdbbEncBibEomemIlfCfkbBdcbBwBfBxfBvrBmjmdBenCeoB" ++
    "wuFwdbvebgbcdHqCmUebHnBhEOcdFlbDsBgVigEbcBSQeebkBgcDccKmbdbebxfebDfcBysBasnbBmiznBseBvoB" ++
    "kbCpombicBtdBybbdccfcbbBpffcJcibcBDZsbBCjqqqOccXhbIsbFtfCMgdbcfeBodebGjcWbeCnfMfcDbeCslB" ++
    "xeEsdCbpBpbcckeBtlhbCjdBkoqcBsbmdBwoiebcDomgbcbGbmveCdcbhcccdjbkcchdfCpjbbcbbebfbbocDesx" ++
    "bDduJbhcjBbcDerEcnDxpJwpJlgbccebbbcFlhchdbBckBohbeibjlBuqPpibiDewboEsgdbbcbhbbCofbcbfNje" ++
    "jcbbBwhdfxbHXtbgpQYysDSafChhBOibbCdheDdblcBDAxcGYzBucxUwfdgiichBeeFsdCYdCdeByibobwfbpCAi" ++
    "hbrchbcbfDwbGehOlbCjeToeJucBCihEfhEBgfBSXYuDsEyJg"⟩,
  ⟨["ex", "extendnumlet"],
    "DrbMBfbpctbDGAocydJfb"⟩,
  ⟨["fo", "format"],
    "GrbCBmbGUrbDAtcBafBxfbkDGHjbJpdTUaqBZQueHWxiBTKZmb"⟩,
  ⟨["hl", "hebrewletter"],
    "CFgBbeeDOVybbkbnbfbbbcbcbk"⟩,
  ⟨["ka", "katakana"],
    "SGnfDxcdDnbeJgqIaBvbDkCZHeCeCOUcebhbcbbLbdByboe"⟩,
  ⟨["lf"],
    "kb"⟩,
  ⟨["ml", "midletter"],
    "CgbEubBBrbSdbFsbJXybDGBbbCnbHob"⟩,
  ⟨["mn", "midnum"],
    "BsbobBGcbUcbFacDqbPfbJFfbDGChbdbHbbob"⟩,
  ⟨["mb", "midnumlet"],
    "BubMCfckbDGDpbGybgb"⟩,
  ⟨["nl", "newline"],
    "lcEqbLZmc"⟩,
  ⟨["nu", "numeric"],
    "BwkCEwgDmkbbEjbskHqkHqcDcbFbkEokEokEokEokEokEokEokEokEokDskEokCskKskCskCTqkBmkLokEylGjkg" ++
    "kHakDikFekgkCAEokBAckBmkHqkwkDikPqkBFMckCCkkDFykgkBEqkCzbpbBikCikFokKskNekEokOkkDykguCyk" ++
    "QgkDykZmkDikJmkCskQgkYYgkDMckDikFekUokBKDykECqByDNckQgkTikJnkBGvkHBak"⟩,
  ⟨["ri", "regionalindicator"],
    "HGOkBa"⟩,
  ⟨["sq", "singlequote"],
    "Bnb"⟩,
  ⟨["wsegspace"],
    "BgbIMhbDPnhbdDgbFXwb"⟩,
  ⟨["zwj"],
    "MDpb"⟩]

def sentenceBreaks : List NamedSet := [
  ⟨["at", "aterm"],
    "BubMCrbDGDpbHfb"⟩,
  ⟨["cr"],
    "nb"⟩,
  ⟨["cl", "close"],
    "BibedBxbbbBdbbbBtbpbFMseCUncDPjizckcCccocYjeBdcBPgghoDbcBfkPnwCleBgcBNmoocckybsiQlkcibdC" ++
    "ZRqcIhcBcqccqgGncBxbbbBdbbbbcbcDPOsd"⟩,
  ⟨["ex", "extend"],
    "BDoEiKphKdBtbbbcbcbbCulBwvqbDxhcgccbeBjbBeBbDnlCgjjbyebjbdbfBrdChjBqybBhCcdbsbhkcBddCebb" ++
    "hcccdjbkcBabcdCebbfeccddbBecdbldCebbibdbducwgbdCebbhcccdhdkcBebChfddbejbBofCdbbhbdbehclc" ++
    "BddCebbhbdbehclcpbmeCdcbhbdbejbkcBddCsbegbbbiscCjbchmiDubcjlhCvcBbbbbbbecBxubcflbBkjbDwu" ++
    "xeedbdchdenmbbkeBBbdBKkeBcdBdcBecCmBgjbBtdbbEncBibEomemIlfCfkbBdcbBwBfBxfBvrBmjmdBenCeoB" ++
    "wuFwdbvebgbcdHqCmUecHmBhEOcdFlbDsBgVigEbcBSQeebkBgcDccKmbdbebxfebDfcBysBasnbBmiznBseBvoB" ++
    "kbCpombicBtdBybbdccfcbbBpffcJcibcBDZsbBCjqqqOccXhbIsbFtfCMgdbcfeBodebGjcWbeCnfMfcDbeCslB" ++
    "xeEsdCbpBpbcckeBtlhbCjdBkoqcBsbmdBwoiebcDomgbcbGbmveCdcbhcccdjbkcchdfCpjbbcbbebfbbocDesx" ++
    "bDduJbhcjBbcDerEcnDxpJwpJlgbccebbbcFlhchdbBckBohbeibjlBuqPpibiDewboEsgdbbcbhbbCofbcbfNje" ++
    "jcbbBwhdfxbHXtbgpQYysDSafChhBOibbCdheDdblcBDAxcGYzBucxUwfdgiichBeeFsdCYdCdeByibobwfbpCAi" ++
    "hbrchbcbfDwbGehOlbCjeToeJucBCihEfhBTCAfDsEyJg"⟩,
  ⟨["fo", "format"],
    "GrbCBmbJibGLibDAqbccBafBxfbkDGHjbJpdTUaqBZQueHWxiBTKZmb"⟩,
  ⟨["lf"],
    "kb"⟩,
  ⟨["lo", "lower"],
    "DtBaBvbkbebBkybibbbbbbbbbbbbbbbbbbbbbbbbbbbbbbbbbbbbbbbbbbbbbbbbbbbbbbbcbbbbbbbbbbbbbbbc" ++
    "bbbbbbbbbbbbbbbbbbbbbbbbbbbbbbbbbbbbbbbbbbbbbbcbbbbdcbbbcbdcebcbddcbcbbbbbcbbcbbcbdbbbcc" ++
    "cdgbcbcbbbbbbbbbbbbbbbbcbbbbbbbbbbbbbbbbbccbbbdbbbbbbbbbbbbbbbbbbbbbbbbbbbbbbbbbbbbbbbbb" ++
    "bbbbbbbbbbbbbbbbbhcbccbbebbbbbbbbCrbBkhcBefFkbbbdbcesbBbBjbcddbbbbbbbbbbbbbbbbbbbbbbbfbb" ++
    "cbccBzBwbbbbbbbbbbbbbbbbbbbbbbbbbbbbbbbbbbjbbbbbbbbbbbbbbbbbbbbbbbbbbbbbbbbbbbbbbbbbbbbb" ++
    "bbbbbbbbcbbbbbbbbbbbbcbbbbbbbbbbbbbbbbbbbbbbbbbbbbbbbbbbbbbbbbbbbbbbbbbbbbbbbbbbbbbbbbbb" ++
    "bbbbbbbbbbbbbbbbbbbbbbbbbbbbbbBwBpEItbBDjgDFujbbEnHkCnbbbbbbbbbbbbbbbbbbbbbbbbbbbbbbbbbb" ++
    "bbbbbbbbbbbbbbbbbbbbbbbbbbbbbbbbbbbbbbbbbbbbbbbbbbbbbbbbbbbbbbbbbbbbbbbbbbbbbbbbbbbbbbbb" ++
    "bbbbbbbbbbbbbbbbbbbbbbbbbbjbbbbbbbbbbbbbbbbbbbbbbbbbbbbbbbbbbbbbbbbbbbbbbbbbbbbbbbbbbbbb" ++
    "bbbbbbbbbbbbbbbbbbbbbbbbbbbbbbbbbbbbjigkiiiigkiiiiociiiiiifbcgbddbciecciikdbcErbnbqnEfbd" ++
    "cdbBbbebebccieebBhqebBGlBaCTqBwbbdcbbbbbbebbcbidbbbbbbbbbbbbbbbbbbbbbbbbbbbbbbbbbbbbbbbb" ++
    "bbbbbbbbbbbbbbbbbbbbbbbbbbbbbbbbbbbbbbbbbbbbbbbbbbbbbbbbbbchbbbebmBmbbfbBTWdbbbbbbbbbbbb" ++
    "bbbbbbbbbbbbbbbbbbbbbbbbbbbbbbbbbtbbbbbbbbbbbbbbbbbbbbbbbbbbdFdbbbbbbbbbbbbdbbbbbbbbbbbb" ++
    "bbbbbbbbbbbbbbbbbbbbbbbbbbbbbbbbbbbbbbbbbbbbbbbbbkbbbbcbbbbbbbbbebbbcbbdbbbbbbbbbbbbbbbb" ++
    "bbbbfbfbbbbbbbbbbbbbbbebbbcbdbbbbbbbbbbbwdbbbdBFpBrbogDcBEAihmfBOzBaBVhBoFgBkFzlbpbhbcRj" ++
    "bcdbBqbjBXlBzEvwEGoBgBGJwBgBMMkBaBahbsBaBaBaebbbhblBaBaBaBaBaBaBaBaBaBaBaBaBaBaBaBaBaBcB" ++
    "czbgBazbgBazbgBazbgBazbgbbCSykbuggKbCkDHsBi"⟩,
  ⟨["nu", "numeric"],
    "BwkCEwgDmkbcEibskHqkHqcDcbFbkEokEokEokEokEokEokEokEokEokDskEokCskKskCskCTqkBmkLokEylGjkg" ++
    "kHakDikFekgkCAEokBAckBmkHqkwkDikPqkBFMckCCkkDFykgkBEqkCzbpbBikCikFokKskNekEokOkkDykguCyk" ++
    "QgkDykZmkDikJmkCskQgkYYgkDMckDikFekUokBKDykECqByDNckQgkTikJnkBGvkHBak"⟩,
  ⟨["le", "oletter"],
    "RbbeeIabBkhgmBabbbFdbSqbEoBbefBsBrBjcbDvbbpchckdcbqbbBeBdDllbyBhjcebfwebjbdbxzhlfybgrBqC" ++
    "gCcdbsbhkpqeicccwbhbbdedbqbncbdockbigeccwbhbcbcbcBfebbtdqjbdbwbhbcbfdbsbpcxblicccwbhbcbf" ++
    "dbBecbdpbrbbgddbedcbbbcdcdddmwbCaibdbxbqdbBadcbccBebeibdbxbkbfdbBfcbcpcrjbdbBpcbqbfdidyg" ++
    "fsdybjbbchCgBwbcmhCgcbbbfbybbbkbcjbcfbbveBgbClibBkBbfElBrubqgeedbdchdenmbCnBrcMubechbbbe" ++
    "cBpbecBhbechbbbecpbCfbecCpBlqEjXwcrbBafCxdlhsntosonbdpCaBjbebCpDlhfcBibbfCskBfBxBecflBse" ++
    "BaCcxjCbDebDpBvriCcBenckBsBaBkBpdkBksBrcdBpebgbcdbBPqeCtdceEKtCehbqxjhbhbhbhbhbhbhbhDcbS" ++
    "bdzjhfcfeDigdbDmbefBrbDqrBgBwqTsJToCmBGUfCpBucKjdqkcCobqbBgDcBnjEabgbDzbdhbdbebxBdCaoByC" ++
    "kgdbbclBckxzBdhBvBcbqfbkkfbBpxdbiuxdbdBybbdccfcbbbydclhdmgcgcgjhbhFpBjBdQNsmxeBxMNcOccEc" ++
    "CpbbkbnbfbbbcbcbEeBhNzsCmcCcBomEmfbFfEbCecBfdgcgcgcdBjmbBabtbcbpcoBiEtCrCbKhBddBxBvBgnBe" ++
    "fBmkBecBkeibfEsDaDuBoiCaDoCamLzjwkizcEvgcbbBsbcdbcxkxjBfCntbckwkBaCsCegcCmbpebdbBdBqBddB" ++
    "dBjibBcBbCckwktnsEgCvHbBkBmgBfbKmBqgcqdChBdkbiwBqsBuvBbxmCbCfccbnBtBgzBaBkBdbcbiBjdbmBwo" ++
    "evbbbBjsbztcClhbbbebpbkhBvBmicccwbhbcbfdbsbmfBekbbcbbBmbbzbbbBsCbseudBeBwucbbHcBvBpeBkBw" ++
    "ubChBrnbCtBbBlhHdBsIdicbcibcbypbbbDqicBnqbbbBcbkBohbvblButbsCvHrBhBfjbBlrbBxBeEihbcbBmvb" ++
    "zgbcbBgobMptpbbnbBiEubDbBJmDyEhrHoDXkDtpBPgrgzFXrfWlKDdBeCPuVxhBfrDbrBesBwqeBfvftQqBtPnC" ++
    "xfbConCmcbbBcJCaiBVqBpkNFrebhbcbLfpbBddcboeiPgDKuEdfndjhkNBcbThBtkhqbMjBesBsSqBcIuBecbTb" ++
    "hbebcbpbHpFebBUiebBbbcbbcbbkbebbbbgbebbbbbbdbcbbcbbbbbbbbbbcbbcebhbebebbbkbrfdbfbrGOaCLF" ++
    "cBgGDugIocINqoLBlpXyDQwUwCFyHHzfGFg"⟩,
  ⟨["sc", "scontinue"],
    "BscmcBGcbSkbGscSwbGBxbfbDBecGAubDAAwcbcBccBdccccbkbGmcmcCub"⟩,
  ⟨["st", "sterm"],
    "BhbBdbCAbbFrdGybBrdJmbCjbbbdcLhcCPwcBEkbecBDtbHqcGbcBtbfbMccNqeGgckcccBddHfcCncBKucjdEUx" ++
    "dLubnbwcQnbBSHwbKkcItbdbOscDicDrbFwcFrdFocJpbBFCwbccClcGnbBdbCnbEDwcBXdfBseHhcEneExdEzcg" ++
    "bqcDkcbcEebLmcEncOjcfpEbcJpdTxbbbJrcDjcQecBAqcCwcBCMbcFdbCnclbVhcLkbBDOgbLImb"⟩,
  ⟨["se", "sep"],
    "FdbLZmc"⟩,
  ⟨["sp"],
    "jbbctbExbIHjbDPnlBkbBvbFXwb"⟩,
  ⟨["up", "upper"],
    "CnBaDxxbhBhbbbbbbbbbbbbbbbbbbbbbbbbbbbbbbbbbbbbbbbbbbbbbbbbbbbbbbbcbbbbbbbbbbbbbbbcbbbbb" ++
    "bbbbbbbbbbbbbbbbbbbbbbbbbbbbbbbbbbbbbbbbbcbbbbdcbbbcbdcebcbddcbcbbbbbcbbcbbcbdbbbcdbhcbc" ++
    "bcbbbbbbbbbbbbbbbbcbbbbbbbbbbbbbbbbbccbbbdbbbbbbbbbbbbbbbbbbbbbbbbbbbbbbbbbbbbbbbbbbbbbb" ++
    "bbbbbbbbbbbbhcbccbbebbbbbbbbLdbbbdbibgbbdbbbcbrbjBjbcddbbbbbbbbbbbbbbbbbbbbbbbfbcbbccBzB" ++
    "wbbbbbbbbbbbbbbbbbbbbbbbbbbbbbbbbbjbbbbbbbbbbbbbbbbbbbbbbbbbbbbbbbbbbbbbbbbbbbbbbbbbbbbb" ++
    "bcbbbbbbbbbbbbcbbbbbbbbbbbbbbbbbbbbbbbbbbbbbbbbbbbbbbbbbbbbbbbbbbbbbbbbbbbbbbbbbbbbbbbbb" ++
    "bbbbbbbbbbbbbbbbbbbbbbcBmEHdBmbbfbBBuDiDGlbOkbbbbbbbbbbbbbbbbbbbbbbbbbbbbbbbbbbbbbbbbbbb" ++
    "bbbbbbbbbbbbbbbbbbbbbbbbbbbbbbbbbbbbbbbbbbbbbbbbbbbbbbbbbbbbbbbbbbbbbbbbbbbbbbbbbbbbbbbb" ++
    "bbbbbbbbbbbbbbbbbbjbbbbbbbbbbbbbbbbbbbbbbbbbbbbbbbbbbbbbbbbbbbbbbbbbbbbbbbbbbbbbbbbbbbbb" ++
    "bbbbbbbbbbbbbbbbbbbbbbbbbbbbjiigkiiiiglbbbbbbbiiyiiiiiiflflemflfKbbebddcdcbdfgbbbbbbecek" ++
    "cfbBaqtbBFmBaCSuBwBwbbdcbbbbbbebbcbidbbbbbbbbbbbbbbbbbbbbbbbbbbbbbbbbbbbbbbbbbbbbbbbbbbb" ++
    "bbbbbbbbbbbbbbbbbbbbbbbbbbbbbbbbbbbbbbbbbbbbbbbibbbebBTYjbbbbbbbbbbbbbbbbbbbbbbbbbbbbbbb" ++
    "bbbbbbbbbbbbbbtbbbbbbbbbbbbbbbbbbbbbbbbbbbFfbbbbbbbbbbbbbdbbbbbbbbbbbbbbbbbbbbbbbbbbbbbb" ++
    "bbbbbbbbbbbbbbbbbbbbbbbbbbbbbbbkbbbbcbbbbbbbbebbbcbbbdbbbbbbbbbbbbbbbbbbbbfbfbbbbbbbbbbb" ++
    "bbbbebbbcdbfbbbbbbbybBHAhBaBUzBoFgBkGalbpbhbcCQcBzGbwEGoBgBGJwBgBMMqBaBaBaBaBaBabbccbccc" ++
    "ebiBaBaBacbecibhBbcbebfbbdhBbBaBaBaBaBaBaBaBaBaBaBaBezBhzBhzBhzBhzBhbGNlBiDBiBagBagBa"⟩]

end Conformance.Unicode
