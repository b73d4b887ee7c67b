import Conformance.Unicode.Table

/-!
# Characters on display

Which characters can be told from one another when a text is shown, as of version 17 of the standard.
-/

set_option autoImplicit false

namespace Conformance.Unicode

/-- Characters that leave no mark of their own: controls, formats, private use, unassigned code points,
separators, and the fillers and selectors that a display may ignore. -/
def invisibleCharacters : CodePointSet := .ofGaps <|
    "aBhDqBimbZxbBocgehbbbubPhbBmcBycdbCdiBbegrwbHkbBwcChcDxoChcBxcpbBccbblfBghCxbGfbicccwbhb" ++
    "bdecjccceibecbfczcdbgeccwbhbcbcbccbbfeccddbhebbhrkdbjbdbwbhbcbfckbdbdcbpecmhhbdbicccwbhb" ++
    "cbfcjcccdhdecbfcskcbgddbedcbbbcdcdddmefddbecbgbovfnbdbxbqcjbdbehcbdbcceckhwbdbxbkbfcjbdb" ++
    "ehcfdbeckbdmnbdbBzbdbgeqcBabdbsdybjbbchdbegbbbigkcdmCgeBdBlcbbbfbybbbxcfbbbhbkceBgCubBke" ++
    "BnbBkbpbnBlHqbbfbcFncIybechbbbecBpbecBhbechbbbecpbCfbecCpcBgdBagDicgcYqbBcdDlhwjyjumnbdb" ++
    "cmCacBockgkglfkgDlhBrfCskBfbmemebdBqcflBseBagldCkcCnbBdclgkgocBucmuCzbGkiCidpdCkfBrcliBr" ++
    "fUocgcBmcgcibbbbbbbBfcCbbpbocgbtcdbjryiBvrccBbbndBioBhpFkeZqwlvCRscOsfBtbbfbcCehcoyjhbhb" ++
    "hbhbhbhbhbhbEwBiBabDlmIgBaqbClbDicDzfBrbBzbBqbDijBwbBRIrdCdjNkuHciInuCidkgCeiCsimgEmlBed" ++
    "DableBhbCdjockcDzyBckgcgcgjhbhbCieEwckgQNsmxeBxMNcOccEcBmhmffBabfbbbcbcbZaBgqqkgBzbtbeef" ++
    "bFfeGdbBedgcgcgcddhbhnccmbBabtbcbpcoBiEtfdeBtdDkbndbBvBuFaBddBxpBceBkjBefBrfBebBleoBqGcc" ++
    "kgBkeBkeBoiCalmbpbhbcblbpbhbcdCamLzjwkiygbBqbjCrgcbbBsbcdbcxbCuijBwtbcfBhdBbfBbBmCeeucBy" ++
    "bcfibdbBdcdekhjhCmBgBnemjCcdBdcBbfBahemhDcCvCdBznBzhBuikgBmdBdicIaBfbBqbdccqgijBhBuiBqwB" ++
    "aBmBcuxjDaeBkjCkbfnzhkgCbbsiBnjDsbulsbBvCkhbbbebpblgChfkgebicccwbhbcbfbkcccdcbgbfhchdflk" ++
    "bbcbbBmbkbbcbbebkbcicBdDobfBeCuikGkCccBmBiCrlkgntCggkguBcBbcpexHdCiDwDfmicbcibcbBebccmjk" ++
    "CsicBuclBbCuiDfnCvhkDiiDkBiokgjbBtbokBddBgcwboCvhbcbBsdbbcbjikggbcbBlbcbghkgBsekJmzhrbBp" ++
    "dBdDhbpBynBJnDyEhbflHoDXkDvnBPgqwkFXrfWlKDdCgCOsVxhBfbkeDdbkgBecgkCskkbhbvftQqCgHqDnfzcz" ++
    "BsCxeCfhrCmflhjKXyBpBgDtElMWrebhbcbLfpbBddcboeiPgDKuEdfndjhkceFVkJtdQugxprpBucxjEmCiJmkB" ++
    "ncCwiEivCsEsumumDjjzFfDhbCtbccbcccebmbbbhbCnbecibhbBcbebfbbdhbNccLgcBBapfbpBQmBfggIfhbrc" ++
    "hbcbffCkBhbEiBtdockecMiBfrCgfbRwBqIgBrebHkBfbwicIqhbebcbpbHpcqBpCyekecBEfCqCyCjHmebBbbcb" ++
    "bcbbkbebbbbgbebbbbbbdbcbbcbbbbbbbbbbcbbcebhbebebbbkbrfdbfbrCacKkBseDwmpcpbpbBlkGsCeBdnBs" ++
    "ejhcogFyBLxdrdndIkgmebpmeCeikgBoiBecmecojBnNgiocndldCfbbeqcmekhFrbDzBNpCLFcBgGMocIOccLBl" ++
    "pXyDQwUwCFyHHzfMOoBZLJy"

/-- Marks that are drawn onto the character before them. -/
def extendingMarks : CodePointSet := .ofGaps <|
    "BDoEiKphKdBtbbbcbcbbCulBwvqbDxhcgccbeBjbBeBbDnlCgjjbyebjbdbfBrdChjBqybBgCdbbbeiebdhkcBdb" ++
    "CgbbbceibjbkcBabccCfbececcddbBecdblcCfbefbcebucwgbbCgbbcbeibhdkcBebChbbbmbjbBobdbCdbbdfd" ++
    "behclcBdbCgbccbbddbehclcBccCfcbbceibjbkcBdbCubebcdbbibDdbchmiDubcjlhCvcBbbbbbbCdobfbcflb" ++
    "BkjbDyebgbccczcedqenbccgbpbBBbdBKkeBcdBdcBecCmcbhibcljbBtdbbEncBibEodecjbgdIlccbCgbbhbbb" ++
    "bcigkcbBwBucmueBwkedBmjmcBgecgCebbcdbbfCeiccFwdbnbhebgbdcHqCmUebHnBhEOcdFlbDsBgVigEbcBSQ" ++
    "eebkBgcDccKmbdbebzcfbFvcBasnbBmizlbbBsdBwbcecccbBkbCpgccccmbibBvbBzbbdccfcbbBqcibJebcbeb" ++
    "BDZsbBCjqqqBLlbIsbFtfCMgdbcfeBodebGjcWbeCnfMfcCzgCslBxeEtbCcpBpbcckdBxecchbCjdBkfbiCkbmc" ++
    "CajbbiecbDrdcegbcbGbbdivcCfcbbbbmbjbohdfCpbcgbbcbbdedbbocDhicdbbxbDdbcgbbcbbcbcJbbcegcbc" ++
    "BbcDhicbbcEcbbbciDxbbbcebfJzjbcJlbkeebFoeccebBgkBogceibjgcdBunbcHqbbdbbHthbgbbDewchbcbcE" ++
    "sgdbbcbhbbCucdbbbNjclcCaffdxbHXtbgpQYymddDSafChhBOibCleDdblcBDAxcGYzBucxUwfdgiichBeeFsdC" ++
    "YdCdeByibobwfbpCAihbrchbcbfDwbGehOlbCjeToeJucJjbcbhcfbSghEfhBTCAfDsEyJg"

end Conformance.Unicode
