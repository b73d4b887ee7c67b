import Conformance.Unicode.Table

/-!
# Characters of names

The characters that the names of groups are made of, as of version 17 of the standard.
-/

set_option autoImplicit false

namespace Conformance.Unicode

def letters : CodePointSet := .ofGaps <|
    "CnBagBaBvbkbebfxbBfbRqemofhbbbDibBdsbccebbgbbdbbbubDfbFjiGkbBmcbgBpBnobbbcbcbbiBbeeBdlfC" ++
    "ebhoDybieiedkdcbqBwnDxyBhjcebfycttzhlfybhhbiBqkmdhgCybqbdepntbicccwbhbbdediccccbbibecbfm" ++
    "ckbedbgeccwbhbcbcbcefecccebhebbrgldbjbdbwbhbcbfdjbdbcdbpeveedbicccwbhbcbfdiccccjcecbfnbq" ++
    "cbgddbedcbbbcdcdddmefddbddbgbBonbdbxbqdibdbdicbdbcceBcebibdbxbkbfdibdbdicfdbendmnbdbBpci" ++
    "bdbdbbfehfwgbdbsdybjbbchigbbbiscnCgfhgbBzcbbbfbybbbtbdcfbbgboeBgbClibBketeqbBkCpCdbbcfqC" ++
    "mkecBmbbfbcBrbMvbechbbbecBpbecBhbechbbbecpbCfbecCpBlqqDicgdXwcrbBafCxdlhulvmumnbdbcmCact" ++
    "obebCpDlhBrfCskBfbmejxBecflBseBaCcBceClcuBybxcldBxCabpbiBzBqcekBsbloCdwdkBkclfBrcdBpebgb" ++
    "cdbfHktBilKscgcBmcgcibbbbbbbBfcCbbhbbddbhdecgenfdbhEmbnbqnDxbebckbbdfgbbbbbbeblceffebrBp" ++
    "BFhCaCRuIvgedcmBmbbfbcCehbqxjhbhbhbhbhbhbhbhbBgBvbSbdzjhfcfeDigdbDmbefBrbDqrBgBwqTsJToCm" ++
    "BGUfCpBucKjdqkcuBvfidEjBnjcDzcDeuvbBhyCamCqbbBsgdbbdkBhfBjnBddBzbmpbqqkfbCdjosxdCrbbbbyd" ++
    "cqcelgcgcgjhbhbBrbogEtvQNsmxeBxMNcOccEcBmhmffmbnbfbbbcbcbEeBhNzsCmcCcBomEmfbFfBkBagBalDl" ++
    "dgcgcgcdBjmbBabtbcbpcoBiEtCrCbKhBddBxBvBgnBefBrfBecBkeibfBqGcsBkeBkeBoiCamlbpbhbcblbpbhb" ++
    "cdCamLzjwkiygbBqbjCrgcbbBsbcdbcxkxjBfCntbckwkBagBaBmCegcCmebcfibdbBdBqBddBdBjibBcBbCckwk" ++
    "tnsEgCvCdBznBznBoBiBcdbfxJqBqbcdcqgByddBdkbiwBqsBuvBbxjCsBrfkCfjbnzxBzreiBjdbjCmbejckbbb" ++
    "BjsbBicbgeCkhbbbebpbkhCfxebicccwbhbcbfdiccccdbgbfhBckbbcbbBmbkbbcbbebcdbbbBsCobdbeudBeCo" ++
    "ccbbHcCcchzgBiClbbdbChCccbCtBbcovhHdCfDzCmBficbcibcbBebcccceDpicBucgbbbcBbBzckrCufbsCvDz" ++
    "iDkBhBfjbBtbhbbBxBecwboCvhbcbBsdbbcbdbbccygbcbBlbcbebbxBsKaxjrbBpddEhbDbBJmDyEhrHoDXkDtp" ++
    "BPgrgzFXrfWlKDdBvCPdVxhBfrDbrBesBwqeBfvftQqBtIdCmBgzczBsCxeCfhrCmcbbmhjKXyBpBgDtElMWrebh" ++
    "bcbLfpbBddcboeiPgDKuEdfndjhkebIWfDhbCtbccbcccebmbbbhbCnbecibhbBcbebfbbdhbNcczbzbBfbzbBfb" ++
    "zbBfbzbBfbzbiCSyBfggIfhbrchbcbffCkBhbEiBtkhqbMjBesBsSqBcIuBecbHzBfbwicIqhbebcbpbHpChCqdb" ++
    "dbBUiebBbbcbbcbbkbebbbbgbebbbbbbdbcbbcbbbbbbbbbbcbbcebhbebebbbkbrfdbfbrYeBagBagBaFMkCLFc" ++
    "BgGMocIOccLBlpXyDQwUwCFyHHzfMOo"

/-- Decimal digits, numerals that are letters, and other numerals. -/
def numerals : CodePointSet := .ofGaps <|
    "BwkEqcfbcdCDlkFekHqkPwkEokegEekEokEokcgEgnElkihDzkEahhtEfkDskEokCsuKikCskBBruBHxdJfkgkwk" ++
    "LokEylGjkgkHakDikFekgkBOgbdggkHqBzcfBByCiDawYgBeCBhbBDxbzjodNfeFikBeibpBgkBnpBRSakHgkMig" ++
    "FykBmkHqkwkDikPqkBFMckSzBtmCfrcNdBbBkeBdbibFefHukBKgizhBnjCxfwgGeccqcBuCmjCacBedCxfEaiyi" ++
    "BphMsgBwkgkKsBfGckBqeEihFeBeEykCikFokhuJrkNekEokOkkDykguCymQetDpkZmkDiBdItkCskCckNukDyvB" ++
    "PbEhXAfkDMckDikFekbhUgkKcxNldBJFlkCEwumuEezBQrByDNckQgkTikJnkBBojEykBElChbdbeCyBtbpBLanE" ++
    "Dfk"

end Conformance.Unicode
