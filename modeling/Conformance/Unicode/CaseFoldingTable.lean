import Conformance.Unicode.Table

/-!
# Simple case folding

A character that differs from its simple case folding is listed with it. Two characters are the same up
to case when they have the same folding.
-/

set_option autoImplicit false

namespace Conformance.Unicode

/-- The characters with a simple case folding of their own, in order. For each: the distance from the
one before, and the distance to its folding, doubled for a folding further on and doubled less one for
one further back. -/
def foldingGaps : String :=
    "CnCmbCmbCmbCmbCmbCmbCmbCmbCmbCmbCmbCmbCmbCmbCmbCmbCmbCmbCmbCmbCmbCmbCmbCmbCmbCmDnCHqlCmb" ++
    "CmbCmbCmbCmbCmbCmbCmbCmbCmbCmbCmbCmbCmbCmbCmbCmbCmbCmbCmbCmbCmbCmcCmbCmbCmbCmbCmbCmbCmBi" ++
    "cccccccccccccccccccccccccccccccccccccccccccccccecccccdcccccccccccccccdcccccccccccccccccc" ++
    "ccccccccccccccccccccccccccccJhbccccccUpcQebccccPwbccPubPubcdGcbPobPqbccPubPycQgbQcbceQgb" ++
    "QkcQmbccccccQubccQudccQubccQsbQsbccccQwbceciebccebccebcccccccccccccccccdcccccccccccccccc" ++
    "cdebccccHlbEhbccccccccccccccccccccccccccccccccccccccccJzcccccccccccccccccciBFYkbccMnbBFY" ++
    "edccOzbFibFmbcccccccccJnIyBrcccecjIyhCycCwbCwbCwcEycEwbEwcCmbCmbCmbCmbCmbCmbCmbCmbCmbCmb" ++
    "CmbCmbCmbCmbCmbCmbCmcCmbCmbCmbCmbCmbCmbCmbCmbCmxcnqbChbBxeBdbBrccccccccccccccccccccccccc" ++
    "EdbDrdEpbExcccnbcdJzbJzbJzbGebGebGebGebGebGebGebGebGebGebGebGebGebGebGebGebCmbCmbCmbCmbC" ++
    "mbCmbCmbCmbCmbCmbCmbCmbCmbCmbCmbCmbCmbCmbCmbCmbCmbCmbCmbCmbCmbCmbCmbCmbCmbCmbCmbCmBxcccc" ++
    "ccccccccccccccccccccccccccccckccccccccccccccccccccccccccccccccccccccccccccccccccccccBebc" ++
    "ccccccccccccdccccccccccccccccccccccccccccccccccccccccccccccccccccccccccccccccccccccccccc" ++
    "ccccccccccccccccccccdDsbDsbDsbDsbDsbDsbDsbDsbDsbDsbDsbDsbDsbDsbDsbDsbDsbDsbDsbDsbDsbDsbD" ++
    "sbDsbDsbDsbDsbDsbDsbDsbDsbDsbDsbDsbDsbDsbDsbDsEHeVMubVMubVMubVMubVMubVMubVMubVMubVMubVMu" ++
    "bVMubVMubVMubVMubVMubVMubVMubVMubVMubVMubVMubVMubVMubVMubVMubVMubVMubVMubVMubVMubVMubVMu" ++
    "bVMubVMubVMubVMubVMubVMucVMugVMuBFfpbpbpbpbpbpDFvSKpbSKnbSJvbSJrbSJrbSJtbSJfbSHjbEAIwbch" ++
    "IXjbIXjbIXjbIXjbIXjbIXjbIXjbIXjbIXjbIXjbIXjbIXjbIXjbIXjbIXjbIXjbIXjbIXjbIXjbIXjbIXjbIXjb" ++
    "IXjbIXjbIXjbIXjbIXjbIXjbIXjbIXjbIXjbIXjbIXjbIXjbIXjbIXjbIXjbIXjbIXjbIXjbIXjbIXjbIXjdIXjb" ++
    "IXjbIXjMjccccccccccccccccccccccccccccccccccccccccccccccccccccccccccccccccccccccccccccccc" ++
    "cccccccccccccccccccccccccccccccccccccccccccccccccccccccccccccccccccccchEldWNtccccccccccc" ++
    "ccccccccccccccccccccccccccccccccccccccccccccccccccccccccccccccccccccccccccccccccccccckpb" ++
    "pbpbpbpbpbpbpjpbpbpbpbpbplpbpbpbpbpbpbpbpjpbpbpbpbpbpbpbpjpbpbpbpbpbpmpcpcpcpjpbpbpbpbpb" ++
    "pbpbpzpbpbpbpbpbpbpbpjpbpbpbpbpbpbpbpjpbpbpbpbpbpbpbpjpbpbFrbFrbrcVFtkGpbGpbGpbGpbrhVKnf" ++
    "pbpbHrbHriVJhfpbpbIpbIpbnmJvbJvbJrbJrbrLmWGfeYUvbYLnhCeBuBgbBgbBgbBgbBgbBgbBgbBgbBgbBgbB" ++
    "gbBgbBgbBgbBgbBgucBFnCabCabCabCabCabCabCabCabCabCabCabCabCabCabCabCabCabCabCabCabCabCabC" ++
    "abCabCabCaCSvDsbDsbDsbDsbDsbDsbDsbDsbDsbDsbDsbDsbDsbDsbDsbDsbDsbDsbDsbDsbDsbDsbDsbDsbDsb" ++
    "DsbDsbDsbDsbDsbDsbDsbDsbDsbDsbDsbDsbDsbDsbDsbDsbDsbDsbDsbDsbDsbDsbDsBxccBFUjbLHjbBFTddcc" ++
    "ccccBFXfbBFUvbBFXlbBFXjccdcjBFZxbBFZxbcccccccccccccccccccccccccccccccccccccccccccccccccc" ++
    "cccccccccccccccccccccccccccccccccccccccccccccccccjcccfcBTYkccccccccccccccccccccccccccccc" ++
    "ccccccccccccccccucccccccccccccccccccccccccccFgcccccccccccccecccccccccccccccccccccccccccc" ++
    "ccccccccccccccccccccccccccccccccclccccEANvbcccccccccfccEVChdccceccccccccccccccccccccEVEl" ++
    "bEVFhbEVEzbEVEfbEVElcEVApbEVClbEVAvbCTkbccccccccccccccccDrbEVEjbEARvbccccEVHdbcecgcccccc" ++
    "EVXxzcBIhEKZnbEKZnbEKZnbEKZnbEKZnbEKZnbEKZnbEKZnbEKZnbEKZnbEKZnbEKZnbEKZnbEKZnbEKZnbEKZn" ++
    "bEKZnbEKZnbEKZnbEKZnbEKZnbEKZnbEKZnbEKZnbEKZnbEKZnbEKZnbEKZnbEKZnbEKZnbEKZnbEKZnbEKZnbEK" ++
    "ZnbEKZnbEKZnbEKZnbEKZnbEKZnbEKZnbEKZnbEKZnbEKZnbEKZnbEKZnbEKZnbEKZnbEKZnbEKZnbEKZnbEKZnb" ++
    "EKZnbEKZnbEKZnbEKZnbEKZnbEKZnbEKZnbEKZnbEKZnbEKZnbEKZnbEKZnbEKZnbEKZnbEKZnbEKZnbEKZnbEKZ" ++
    "nbEKZnbEKZnbEKZnbEKZnbEKZnbEKZnbEKZnbEKZnbEKZnbEKZnbEKZnBEAocBOmCmbCmbCmbCmbCmbCmbCmbCmb" ++
    "CmbCmbCmbCmbCmbCmbCmbCmbCmbCmbCmbCmbCmbCmbCmbCmbCmbCmBVaDcbDcbDcbDcbDcbDcbDcbDcbDcbDcbDc" ++
    "bDcbDcbDcbDcbDcbDcbDcbDcbDcbDcbDcbDcbDcbDcbDcbDcbDcbDcbDcbDcbDcbDcbDcbDcbDcbDcbDcbDcbDcF" ++
    "hDcbDcbDcbDcbDcbDcbDcbDcbDcbDcbDcbDcbDcbDcbDcbDcbDcbDcbDcbDcbDcbDcbDcbDcbDcbDcbDcbDcbDcb" ++
    "DcbDcbDcbDcbDcbDcbDcGbDabDabDabDabDabDabDabDabDabDabDacDabDabDabDabDabDabDabDabDabDabDab" ++
    "DabDabDabDacDabDabDabDabDabDabDacDabDaCQdEybEybEybEybEybEybEybEybEybEybEybEybEybEybEybEy" ++
    "bEybEybEybEybEybEybEybEybEybEybEybEybEybEybEybEybEybEybEybEybEybEybEybEybEybEybEybEybEyb" ++
    "EybEybEybEybEybEyGcCmbCmbCmbCmbCmbCmbCmbCmbCmbCmbCmbCmbCmbCmbCmbCmbCmbCmbCmbCmbCmbCmEGpC" ++
    "mbCmbCmbCmbCmbCmbCmbCmbCmbCmbCmbCmbCmbCmbCmbCmbCmbCmbCmbCmbCmbCmbCmbCmbCmbCmbCmbCmbCmbCm" ++
    "bCmbCmBGJxCmbCmbCmbCmbCmbCmbCmbCmbCmbCmbCmbCmbCmbCmbCmbCmbCmbCmbCmbCmbCmbCmbCmbCmbCmbCmb" ++
    "CmbCmbCmbCmbCmbCmBULlCqbCqbCqbCqbCqbCqbCqbCqbCqbCqbCqbCqbCqbCqbCqbCqbCqbCqbCqbCqbCqbCqbC" ++
    "qbCqbCqbCqbCqbCqbCqbCqbCqbCqbCqbCq"

end Conformance.Unicode
