import Conformance.Unicode.Table

/-!
# Ages of characters

The version of the standard in which a character was assigned, up to version 16.
-/

set_option autoImplicit false

namespace Conformance.Unicode

/-- The characters assigned in each version, oldest version first, under its names. -/
def ages : List NamedSet := [
  ⟨["1.1", "v11"],
    "aTieBeCeDlhBvbkwCsBacscebdbfhbbbubBsbhdbbbbbbbbsnmbCobmbBpjCbccccdBcciccCdBmchbBnbbBmkbj" ++
    "mBbffxbobdbbBaftnocCucfbpbBeckTzdbCbcscfdzqdbicccwbhbbdecbbhcccdjbecbfcvhbcgeccwbhbcbcbc" ++
    "cbbfeccdlebbhpmdbhbbbdbwbhbcbfckbdbdcbpbfkrdbicccwbhbccecidccdicecbdelrcbgddbedcbbbcdcdd" ++
    "dibdefddbejbpmodbibdbxbkbfehbdbehcjcekscbibdbxbkbfehbdbehchbbcekscbibdbxbqegcdbejbicekFp" ++
    "CgeBdBlcbbccbbcbgebhbdbbbbccbnbdcfbbbgckccRiBmkBnebeDmfCqfDeEOkFzfDmgwcgcBmcgcibbbbbbbBf" ++
    "cCbbpbocgbtcdbjbBvbxBjhdBbrlBlsBeCfBaBwnDnvJiobbErFdBlBblvFjvFukDcqugDiFpebecBcbBjbbbedb" ++
    "bhchoBfdyboDDhCehbbDgegcDqgBoeDqbqDsBddBkBcBcdBypmeBvbEpeDvcBfJWbBEXyYJqJXuIchmfgzbfbbbc" ++
    "bcbEeBhObqCmcCcBomBkemvekbtbeedbbbFfcbbDqcDqdgcgcgcddhbhod"⟩,
  ⟨["2.0", "v20"],
    "CCvrbnubDMxCubBhhBbegbbbvdhbbFQnbUhbCATwQNsEIFycDSYocDSYocDSYocDSYocDSYocDSYocDSYocDSYoc" ++
    "DSYocDSYocDSYocDSYocDSYoHLXi"⟩,
  ⟨["2.1", "v21"],
    "MJsbDGOtb"⟩,
  ⟨["3.0", "v30"],
    "TieBeicsEnfBxbkfDjjtbEmbdbbbbbbbBebmbCobmbBqcceDocGabHsdDucfbpbBqfbobBedBbCbBxCFhcbsdybj" ++
    "bbchdbegbbbisdOjbBrbxdhbbdbpcbBwBibfbcbhdegBaQghbClbbbechbbbecBnbbbecBfbbbechbbbechbhbxb" ++
    "BfbbbechbBnbtgBcBjDhmYgjBddDdFnDpdkwpbkgDkiBqCWbbygDrdBycDhcCubDzjKjbErbbBeFicRpiBhbDicP" ++
    "iJwCCeBabDlmIgBamCiddbNpyWmJTeBFEgBSvdscqbmbdbbBGScbBVvd"⟩,
  ⟨["3.1", "v31"],
    "BMycDQQcBgBXwBfbemBbGzBmcBmCZDqJmkBndGyVaDhbCtbccbcccebmbbbebcbCnbecibhbBcbebfbbdhbNaeLe" ++
    "eByPDwCLEtBETdUwBPCQtbBeDs"⟩,
  ⟨["3.2", "v32"],
    "UybLqbtnEacBcbFrcCfcccccBxqNmcMjbDNhcCHjnbhlxjumnbdbcDIxbgfebhfnbCkcByhDepGmmJioEubBeCaK" ++
    "yuFvkDkiwcDmmckIooDmBceqJwTsBZndDjcicDqbJgqDdpDdpBRDicqbmbdbBGJaChBJdbdqCbcBsbJbc"⟩,
  ⟨["4.0", "v40"],
    "UzbsdEpcClrDcifdFvfTwejjCmdFtcpbBtdBddQubHcbCpbbbFgbDgdnbCpbChbEziHlcEFnbskKcBddmemebdBq" ++
    "cfEdBgBDoEeBCpcIwbZjcLqbKqcEmiocBRaoCRncBxbBrcDaeGleDvcBfbJToCmCOQvbCvcQxmbBabtbcbpcoBiE" ++
    "tfdeBtdjWeBebbFecBmDcckBGwgcbbBsbcdbcbCYUiDjNybBTKDaJg"⟩,
  ⟨["4.1", "v41"],
    "VvlKsfGdeJmcGobBidCpbsbCggJhBeUhbDcbStbBvbBMncLjcbbKgbClbClbBnbBfbBfbBfbpbBnbxcBfBaCGcBq" ++
    "gBagkecBgBcccBGmDkZhcbhBxfBdeCbbDcbpbYulWabDxcslfqKkhBGhgJcBvbBvBhEdoBtkCcjbqxjhbhbhbhbh" ++
    "bhbhbhBhyecBJuqGsbBPItwCToxIzBsBFEaEcBFqkBFaCxUnBkeoCIsebcfibdbBbedejijCXPvCsBRac"⟩,
  ⟨["5.0", "v50"],
    "WgoLndMzbBqgqeGkbTxChOucbcBHicncFIjCyeBtWlhBzcBCueDpcCbbXbmBBmbKqeBGjhfeMenheBULjefcLaCe" ++
    "BKOmBafbIRgBHvFpDvneCOGisBQuc"⟩,
  ⟨["5.1", "v51"],
    "BHweccDjbHbbFkqIsflfBgfLqsTdcIobBjbHybBdcEebEebBacicuiHhbgbBdcmgdhSxcDtbddCzbfbcbhdegBaC" ++
    "mecDBebBBxBrdmCsCedpdBzMtBcGzeDmgNsbFjbDqbCbeBYabvkdeKebBfeBFffeBpdfKudbdegNqBgyectBDkbG" ++
    "guBPPoiBZoLouBgcsiBcFbfcEdEgfEyCrjmBmDglbGeCdjockceBFSudBHpmCaBuFaBddBxCKdBafbCXSjbLRqBs" ++
    "eDw"⟩,
  ⟨["5.2", "v52"],
    "BYqcBCcBucpHlbCzbgbBjcEybCFpeHleHgfCqfDegTsbYgjVoCsGycBubCrClbBdclgkgoVaBjKgbBAudFvdCcbX" ++
    "ibBArcBddekbtbbeyDjbBNhfKsbncEdhMhbBOcmBPLsiBXkBwQaDkMakGkBcDwBddDablecEyBceCpyfIqBuckQO" ++
    "kxeBxNBbdFGcwbjHecMmBgEyCcdBdcBbfiEyCvUpBfTtCoLVqBPfCTNdlfBfcblbbbcbdbdfibhbzbbccbkecbEh" ++
    "bpBiojCQLjGDp"⟩,
  ⟨["6.0", "v60"],
    "BYscJobCkbSmBccbIlctbgcBbfTmgQrbqbtbWbeCvcBIocDEnCaieTobZoiBcbBFjlBCcbtbbeBdbecBcbBjbbbe" ++
    "djcCadybobocCDkbobBPodBSEncLncbcokDcbBDugcgcgjhbhBEMtqHRiDaeBeBHEeVxBALbcYMgpcocpbpDcbbl" ++
    "bbbcbdbdfibhbkgjbbccbkecbkCxBabcBvjvcGsBhpgbCsdumBlbfvrpClbbbHabedCksyFrfbqbdbbbbbbbdbgc" ++
    "ebbcebmelBwCsCgEmCUQmIo"⟩,
  ⟨["6.1", "v61"],
    "CCtbEmbZrbblCdBbTdbBMrcStbfbBvdEBbdmgJwiBreECqbbbBYqcBzbfbCecHukBRAebCNniBjbJicwbCzcBCox" ++
    "BDZzcFUuCegcCRozhkgCbboCiCvhkBTuCeikBHKoCrlBvqrBVWiebBbbcbbcbbkbebbbbgbebbbbbbdbcbbcbbbb" ++
    "bbbbbbcbbcebhbebebbbkbrfdbfbrCacYicBLseHgbqbdbbbbbbbdbgcebbceb"⟩,
  ⟨["6.2", "v62"],
    "MKgb"⟩,
  ⟨["6.3", "v63"],
    "CIebJYve"⟩,
  ⟨["7.0", "v70"],
    "BIlbQiiDpcEobZrblgCybEqbhbYpbBzbCybExbIukDKriVccPlpVxcJdpBBhdBFqhBDtbBQidkBacBgcBidmbiXu" ++
    "hBTOvgJmmldccCrbSuBfEveGuBwecBFIvhBHdctbMhBcBjbBwBrOzBoiCalbFoLzjwkiJoClijRwBgBgBnemFhsh" ++
    "emhBVjbIaBnDibmbgulsbBrEkChfkhdbicccwbhbcbfcjcccdjbfhchdfKhCuikGkCccsCcCrlkWkDfmbRgCfDFi" ++
    "BqHumfbBALfBfbkecDsBecgkCskkbhbvftBEMaEdfndjhkciQKyHpcqCZwbBgwvcUmmjbCsbwmBlbfefmrhCtbbb" ++
    "HabecClcehBdsbBpbDiCscnBwCskqndeFkDhBrmeCeikgBoiBe"⟩,
  ⟨["8.0", "v80"],
    "DHrcBubUnbNobKabCMvbcgEVobHvcDYeeBRWvjCOubJgbBigMmcXmemDcBFFqcEBgtbcffHgccqcBuYqBznBzhgB" ++
    "VdeofGehbbbebpblDibDbbYjuLeBadpeqERpbIwHoLQqWlCAWllCHzZcpfbpJHddDacDbfBkiJvbCxfJjcFjbWdj" ++
    "DzfChbCUClINq"⟩,
  ⟨["9.0", "v90"],
    "DHuiwpBJpbHybedbhxdFRzjOgbCHbeDXccBTZlbKsbBHQdcBEvBkeBkFAobRhDmbbbbTunCCxjbBtbokBddBgcwb" ++
    "oBFMvbBfJBptBDbBGFlhbrchbcbfDIzCxfkecDDbsFmbBFybBpbLocBhdVagbiibcmbmepBmn"⟩,
  ⟨["10.0", "v100"],
    "DEmlPlcJsgTsbCgcFYwbJueBBhbBFzbCZabYcfBCmbBPXnvBLPidIQqCuiCacxbfXhhbcbBsdbbcbjikBFGpbYHk" ++
    "KzDdPgYAegBRpcBicTzmtbiibczbsnBmgCexDCPdLBl"⟩,
  ⟨["11.0", "v110"],
    "CAybBnbDybUfdIdbLmbEpbPhbExbENrbBOhBrcdFRmdwzepWpfBCibBPYhfCYhbicMmcBKVccsbBAtBoikRmBoiB" ++
    "qOhbEodTgbLebBAxbIvCiXlbBBegbcbBlbcbghkLyzBEApDnJPifBCJuuEwhJLwCqBScbCEzbIleOidBcfcedbbe" ++
    "ylnkhcBkzDso"⟩,
  ⟨["12.0", "v120"],
    "EStbUgbcbcbbgebhbhccbnbFKhbFPubCbbWtbBTZmgcfBJrcBMBgxBRkbXcbBCpicBuclGdcBZmBynbHQujWJkge" ++
    "bBvjDmcJCwgPRcdreSAqBtdockecOeCgfbCJzbBKnCjBPebCBgbBkbIvmLddBvbBxbjbBpgdckgdicdBwDgBceed" ++
    "fdng"⟩,
  ⟨["12.1", "v121"],
    "TIdb"⟩,
  ⟨["13.0", "v130"],
    "DIckZdbQobEubFAjcGJubBAudBHofKPikBFDgnCYseBqcCbbBFveBGQqbEWxBqbdccJuBcOpbFecZabfcBTmhcbc" ++
    "ibcbBebccmjkCKkbBEJrblcKFxSpBqjBLWudDpdCjbBYucBjcQtcDmbDxbecBqcgdBdbGmboepthhjdnhBpFrbCd" ++
    "BlkCMSjhBHTqHHz"⟩,
  ⟨["14.0", "v140"],
    "CIfbWwBfbcgivbslBHpbBgbExbDWhbhbjbJfbBAnoEvbBwcYlbBBhbEIobBvbTflBRAtdCYicocbbbfydBFTdbOr" ++
    "qExbBucCVglbpbhbcblbpbhbcRjgbBqbjCXxBaIwgCybCGsbFehBHpqHWyDvWDxDbbkBAEwebhbcLceLIbBucxjE" ++
    "mVdcEYvBfBHxBfBZdhbebcbpFQkdKmbPcbDebGscBsekeidrdgiihCNCpcGEve"⟩,
  ⟨["15.0", "v150"],
    "EXnbSgbDTAkdBFzdDIckBNarbBpdBcHXdbjBdBVHkbBibMRauERhgKbCkBhbBPwBqGUcbFvdefDlbZrdpcBkdldb" ++
    "bockcmbocCTHobBIWsGFg"⟩,
  ⟨["15.1", "v151"],
    "SEmeTbbKEIqXy"⟩,
  ⟨["16.0", "v160"],
    "DGpbHCgcBvbKfcCWydFFecBSQvdmdBJOlCaCTwBmdBdicLudCdbBSlkbbcbbBmbkbbcbbebkbcicBCvuBVwBiokB" ++
    "HgbHYzFXrKZtCgEOkCgLYjbXWiJqgQuIToBrebHCckecRnbfbBubhbvbcbjbIrBl"⟩]

end Conformance.Unicode
