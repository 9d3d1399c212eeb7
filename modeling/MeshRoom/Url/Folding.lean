import MeshRoom.Text.Composition

/-!
# Folding of names

Names that differ only in case, in width or in the form of their letters are the same name. Folding
brings every character of a name into the one form it counts in: most stay, some are left out, some
are replaced by others, and some are in no name.
-/

namespace MeshRoom.Url

open Text

/-! ### Tables -/

/-- What becomes of some characters: they are left out, a run of them is shifted, every one or every
other one, or one character is replaced by several. -/
inductive FoldRule where
  | drop (start count : Nat)
  | shift (start count step : Nat) (way : Int)
  | replace (source : Nat) (targets : List Nat)
deriving Repr

/-- Code points by the ways from each to the next, so many of them, and what is left of the ways. -/
def targetsFrom (source : Nat) : Nat → List Nat → List Nat × List Nat
  | count + 1, way :: ways =>
    let target := (source + signed way).toNat
    let (targets, rest) := targetsFrom target count ways
    (target :: targets, rest)
  | _, ways => ([], ways)

/-- Rules from the distances between them, up to so many of them. -/
def foldRulesFrom : Nat → Nat → List Nat → List FoldRule
  | fuel + 1, start, gap :: 0 :: count :: rest =>
    .drop (start + gap) count :: foldRulesFrom fuel (start + gap) rest
  | fuel + 1, start, gap :: 1 :: count :: step :: way :: rest =>
    .shift (start + gap) count step (signed way) :: foldRulesFrom fuel (start + gap) rest
  | fuel + 1, start, gap :: count :: ways =>
    let (targets, rest) := targetsFrom (start + gap) count ways
    .replace (start + gap) targets :: foldRulesFrom fuel (start + gap) rest
  | _, _, _ => []

/-- What names are folded by, beyond ASCII. -/
def foldRules : List FoldRule :=
  let ns := numbers
    ["fKBBBiPICjBbtSCBBBeZDABCCjPbtKDBCBiPCCjZbtEBBBBbvUDCkDbvUBBBBjBBBBBe7CDjHshMshFBDjJshMshJBDj",
     "HshIshFCBXBcEYBHBcEbKBYCCbSCnHboUCCnLCBCnNCBBCCCFBDCCGCoBfABCoDfABBECCICyWbjJBBXCCbQBBBiBBBD",
     "CCGBBBrZCBBBoABBCCCEBBBnWBBBBCCBCBnUCBBBCDBBBfIBBBBnOBBBBnQBBBBCCBBBnUBBBBnYCBBBoCBBBBn6BBBB",
     "CEBBBoCBBBBoGCBBBoIBBDCCGBBBoQBBBBCCBBBoQDBBBCCBBBoQBBBBCCBCBoOCBCCCEBBBoSBBBBCEBBBCICxNsYBC",
     "xPsYBCxRsYBCxDDBCxFDBCxHDBCxFHBCxHHBCxJHBBICCRBJCCTC0NbOBC0PbOBC0RbOBBBBCCBBBgNBBBBdVBBUCCbK",
     "BBBiTCBJCCYBBBx3UBBBBCCBBBkZBBBBx3ODBBBCCBBBm7BBBBeSBBBBeWBBFCCdQBCCbi5BBBBe7CBBBbiNBBBBd5BB",
     "BBdZBBBBdPBBBBbiLBBBBbiJbCCbqLbtOBCbqNbtQBCbqPbtWBCbqRbvWBCbqTbtIBCbqVbtYDBBBiJBBBBbl5BBBBbl",
     "PBBBBblHBBBBfHdCBCBeHDBBBdFBCd7NBBBBhWKABbDBCCCEBBBmNCBBBCECb1FcbMEBBBbzTBBBBhWFCb1ZbtEBDb15",
     "btSNBBBBcQBBBBbr7BBDBcOEBBBeICBCBeGDBRBcESBJBcEbOBBBQBBBBb7BBBBbTBBBBZBBBBLBBBBRBBBB7BBBBbNC",
     "BMCCYBBBdRBBBBdFBBBBdDCBBBd7BBBBeHCBBBCCBBBdRBBBBCDBDBiTDBQBfKQBbCBcEcUBRCCbMB5CCbYBBBbABBHC",
     "CPBbSCCdHBbIBdGc4CcHb6h6CfFfEBCdBc6BCfKfPBCdBcYyQCeNcSBCeNcQBCeNcOBCeFcEBCd5bYBCd5bWBCdLbEBC",
     "dF4eFCd5bYBCd5bWCCdF4cYCBUDCEIbFCeNcQBCeNcOBCeFcEDCdLbEiOCd5bYBCd5bWyGCbWbXeICbWbXbLCdHbFBCd",
     "JTbRBBBBbZCBhYKCBhEFCBgYFCBgOFCBgENCcVhYKCDCCCHGBCeAdJBDd6eJbABCd6dLBDd4eLbAICbBbASCBcOKCBbY",
     "FCBbOFCBbEFCBYNCcVcOhVBbIBqeIbJBBBqeIGBBBqeIbRBBBcDdJACwFBGBPbb4ACc5AFbiBBBBnyXBBBBnyVBBBBny",
     "DBBCBnx7CBBBnyBBBBBnxRBBBBnv7BBBBcslEBBBBCHBbNBguPbPBDBguPdVBBBqlLBBBBqcRBBCCqlNDBFCqlNBBBBp",
     "qNCBECqlNIBBBqlPBBBBpmPBBBBqlRBBBBqlPBBCBqlNCBBBqlLBBBBqm5BBCBpj7CBBBePBBBBqnDBBCBqnBCBBBpjX",
     "BBCBpjVCBBBqnFCBBBqnBBBCCqm7BBBBp2HCBBBpkVBBCBeDCBBBqnFBBCBqm7CBBBd7BBBBpjLBBBBqnDBBBBdTBBDB",
     "osBDBCBoq5CBBBqoNBBBBqn5BBCBqnXCBCBosTCBBBorXBBCBorPPBBBokRbFBBBppTBBBBqsVBBBBppRBBBBqjNBBBB",
     "ppHBBBBqsXBBBBppFBBBBppDBBBBpo5BBDBpoXDBBBc5BBBBplPBBBBpoXBBBBcNBBBBplRBBBBpoVBBBBpoZBBEBpoX",
     "EBBBpoTBBCBpoBCBBBp2PBBCBpnXCBBBkLBBCBpnZCBBBqtHBBDBpnVDBBBoyFcFBcPCCfECrfXbkKBBBBdZDBBBq1TC",
     "BbSCCdOBIBPQBGBPQBIBPQBIBPQBGBPRBECPPBIBPJBBBpx5CBBBpx7CBBBpyBCBBBpyDCBBBpwJCBBBpwLCBBBpwNDC",
     "iPppPBCiPppRBCiPppTBCiPppVBCiPppXBCiPppZBCiPpp5BCiPpp7BCjBppPBCjBppRBCjBppTBCjBppVBCjBppXBCj",
     "BppZBCjBpp5BCjBpp7BChNprTBChNprVBChNprXBChNprZBChNpr5BChNpr7BChNpsBBChNpsDBCh7prTBCh7prVBCh7",
     "prXBCh7prZBCh7pr5BCh7pr7BCh7psBBCh7psDBCeHpv5BCeHpv7BCeHpwBBCeHpwDBCeHpwFBCeHpwHBCeHpwJBCeHp",
     "wLBCeXpv5BCeXpv7BCeXpwBBCeXpwDBCeXpwFBCeXpwHBCeXpwJBCeXpwLDCeLpw7BCp17QBCp2L4DCBp1TBBCBPCBBB",
     "e5BBBBp2ZBCp2RQBCr3PbuKBBBBp2FBCr3TbuKBCr3VbxOBDr3XbtSd4BCfFpxHBCp2TEBCp3JWDCBp2VBBCCfVBBBBp",
     "3VCBBBp3XBCp3HEBDsaRbuKbHBDsaTbuKbFBDsaVbuKdEEBBBqcJFBCBPCBBBgTBBBBqaXCDsbTbuMbJBDsbVbuMbHBD",
     "sbXbuMdCEBBBqbHFBCBPCBBBhNBBBBp3ZBBBBNBDscVbtSPBDscXbtSNBBBBr2RDChZpxXBCqaTbBBCqaLbLDCBqb5BB",
     "BBiPBBCCqaZBBBBiLCCqbHbBBCsdXbtEBCsdZbuMCBBBsd7BBBBseBBBBBseDBBBBseFBBBBseHBBBBseJBBBBseLBBB",
     "BseNBBBBsePBBBBseRBBBBseTBABGBBBBGCsfPbwOYBBBshDECBABDDAACCBABDDAAFCsh5ACCsiDbtMJCsgTABCsgVb",
     "7BCsiXcAOEcNAAAIBBBskJBAFKAGGBBBskLBBBBsgTDBGBskLGBBBslLBBBB1EBBBBskJBBCBslXCBBBshHBBKBslNKB",
     "BBsmNBBBB0CBBBBslLBBCBsmZDBBBsjHBBBBsjBBBBBsiNBBBBsh5BBBBrf5BBBBsjDBBEBsi7EBBBsi5BBCBsiXNCsj",
     "VCc6DsqVdJdOBDsqXdJeQBBBBsqVBCslTfDCDsq5dNeIBDsq7dNeUBBBBrnNCCsmBe5BBCBsq7CBBBsrBBBBBsrDBBBB",
     "srFBBBBsePBBBBsrHBBBBsrJBBBBsrFBBCCsrHDCsrJCDBDBsrLDBBBsrNBBBBsrPDCsrTLBDsrT7OBCsrVNCBBBsrNC",
     "BBBqvDCBBBsrVCBBBssZBBBBskXBBCBstRDBBBstRBBCBstTCBBBb4BBBBstJBBBBstHBBEBprPEBBBst7CDsuJJbQBB",
     "BBqxFBBBBqyDBBBBqyFBBBBqxLBBBBn6FBBBsvDBBCBsvFCBCBsu7IDszHshMsg7BDszJshMsgZBEszLshMshLBBDszN",
     "shMshHBDszNshKshHBDszRshMshDBDszRshKshDBDszRshIshDBDszRshGshDBDszZshMshBBDszTshEshBBDsz7shMs",
     "g5BDsz5shIsg5BDszZshEsg5BDszXshAsg5BCs0HshMBBBBswRBCswTABDswVAABCswX4BBBBsv7BCswBZBDswDZABEs",
     "wFZAABCsxDbABBBBswFBCswH7BDswJ7ABBBBsxFBBCBsxZCBBBsxJBBBBsxTBCsxVABDsxXAABCsxZ4BBBBsxBBCsxDZ",
     "BDsxFZABEsxHZAABCsyFbABBBBsxHBCsxJ7BDsxL7ABBBBsyHBBCBsy5CBBBsyLEBBBCGDs3DshOshHfNCBABDDAACCB",
     "ABDDAAiJBCBhjUkLBJBurPJCusDBBCusFABCusHCBCusJEBCusLGBCusNIBCusPKBCusRMBCusTOBCusVQBCusVDBDut",
     "NSPBDutPURBDutRWTBDutTYVBDutV4XBDutX6ZBDutZbA5BDut5bC7BDut7bEbBBEuuBSBNBEuuDSAPBEuuFSCRBEuuH",
     "SETBEuuJSGVBEuuLSIXBEuuNSKZBEuuPSM5BEuuRSO7BEuuTSQbBBEuuVUDNVDuwDdYdVBDuwFd4dXBDuwHd6dZBDuwJ",
     "eAd5BDuwLeCd7BDuwNeEeBBDuwPeGeDBDuwReIeFBDuwTeKeHBDuwVeMeJBDuwXeOeLBDuwZeQeNBDuw5eSePBDuw7eU",
     "eRBDuxBeWeTBDuxDeYeVBDuxFe4eXBDuxHe6eZBDuxJfAe5BDuxLfCe7BDuxNfEfBBDuxPfGfDBDuxRfIfFBDuxTfKfH",
     "BDuxVfMfJBDuxXfOfLBB4BuuB4B4BuvX4BBBu0XbnYEeoNAAAdODyaTAGBCyaPABDyaRAAdMCCwqRjWBbSBdGdGBBBCC",
     "BBBx0FBBBBioHBBBBxzDDBDCCGBBBx2TBBBBx0RBBBBx2ZBBBBx2XCBBBCDBBBCHBBBzcDBBBBzbLBBCBya7CBbUCCdR",
     "BCCCHBBBCeFBBB5kEBBBbeyEcYBBBcec6NBBBrtCBBBBrvUBBBBrwQBBBBrxCBBBBryWBBBBr1SBBBBr2ABBBBr3IBBB",
     "Bsa6BBBBtn4BBBBtqKBBBBtqUBBBBtsEBBBBttMBBBBtuWBBBBtyGBBBBtzQBBBBt0GBBBBugOBBBBumUBBBBuoOBBBB",
     "uoWBBBBuqUBBBBurGBBBBus6BBBButWBBBBuvKBBBBuyWBBBBuz4BBBBu1SBBBBwr6BBBBwwUBBBBxxIBBBBxyWBBBBx",
     "zGBBBBxz4BBBBx1ABBBBycABBBBzdWBBBBzg4BBBBzoYBBBBzqIBBBBzrOBBBBzs4BBBBzwMBBBBzwQBBBB0qSBBBB0r",
     "GBBBB0r6BBBB0sWBBBB00MBBBB004BBBB01EBBBB1e4BBBB1fOBBBB1gIBBBB1gWBBBB1kWBBBB1lYBBBB1m6BBBB1sG",
     "BBBB204BBBB234BBBB3bGBBBBbauOBBBBbauWBBBBba0GBBBBba1GBBBBba2ABBBBba3KBBBBbbb4BBBBbbcEBBBBbbt",
     "4BBBBbbvMBBBBbbxOBBBBbebEBBBBbefOBBBBbeg6BBBBbekWBBBBbemIBBBBbemYBBBBbenGBBBBbeqSBBBBbeq4BBB",
     "Bbes6BBBBbhaYBBBBbiaQBBBBbibIBBBBbibQBBBBbibWBBBBbicGBBBBbidKBBBBbidMBBBBbiiWBBBBbixCBBBBbix",
     "KBBBBbjp4BBBBbjqOBBBBbjtWBBBBbjuEBBBBbjuUBBBBbjvEBBBBbj1EBBBBbj1QBBBBbkmUBBBBbknCBBBBbkqIBBB",
     "BbkrKBBBBbkuMBBBBblgEBBBBblgQBBBBblhSBBBBbl3KBBBBbmhUBBBBbmiABBBBbmuCBBBBbmzYBBBBbm2YBBBBbnx",
     "6BBBBbocWBBBBbpk6BBBBbpmUBBBBbpqMBBBBbptWBBBBbpyGBBBBbpy4BBBBbpzGBBBBbp1KBBBBbqcKBBBBbqc6BBB",
     "Bbqz6BBBBbq0KBBBBbq04BBBBbq1MBBBBbq2MBBBBbq3KBBBBbq3QBBBBbreWBBBBbre6BBBBbrfIBBBBbtkSBBBBbtm",
     "QBBBBbunWBBBBbuoOBBBBbup6BBBBbveWBBBBbvfQBBBBbvkGBBBBbvnGBBBBbwu6BBBBbwv4BBBBbwwYBBBBbwzCBBB",
     "Bbw1OBBBBbxkUBBBBbxlMBBBBbxpYBBBBbycIBBBBbyeIBBBBbysEBBBBbytOBBBBbytWBBBBbzeKBBBBbzqQBBBBbzy",
     "YBBBBbzzEBBBBbzzMBBBBb11SBBBBb12EBBBBb2iOBBBBb2sUBBBBb2sYBBBBb2v4BBBBb22YBBBBb23SBBBBb23YBBB",
     "Bb3aGBBBBb3gUBBBBb3i4BBBBb3jGBBBBb3kCBBBBb3vEBBBBb3yOBBBBb3yUBBBBcagYBBBBcag6BBBBcaiEBBBBcay",
     "4BBBBca2ABBBBca2MBBBBcbdABBBBcbdSBBBBcbdWBBBBcbeKBBBBcbgIBBBBcccQBBBBcc3EBBBBcc3WBBBBcdcGBBB",
     "BcddSBBBBcdeCBBBBcdeUBBBBcde4BBBBcdhOBBBBcdhUBBBBcdiWBBBBcdjABBBBcdjYBBBBcdlQBBBBcdmOBBBBcdm",
     "6BBBBcdqYBBBBcdrWBBBBcdr6bNBBB1hBCBBB1gHbWBBBcLCBBBt16BBCBt2CdIC1rL1rIBC1rN1rKDCbPEdGCfBbMbU",
     "BCBsjLCBCCr2FBBBBsjNCBBBr2FBBDBsjRDBGBr2HGBBBsiTBBDBskBDBBBsiNBBKBskDKBVBse5VABBBCBslPCBCBr3",
     "VCBBBr3PBBBBr3NBBBBr3FBBBBr27BBBBr25BBBBslRBBBBr2XBBBBr2VBBCBslVCBBBslTBBCBslRCBBBslLBBBBslJ",
     "BBFBslHFBBBslDBBBBsk5BBBBskJBBBBsj5BBBBsjTBBCBr2VCBDBsjDDBCBsgJCBBBsgFBBCBsfTCBBBsfRBBBBse7B",
     "BBBseZEBBBqfGBBBBqoOBBBBqfUBBBBvgEBBBBqfSBBBBqh4BBBBqfQBBBBbinUBBBBqkSBBBBqgIBBBBqeSBBBBwo6B",
     "BBBvlGBBBBqqWdHD2kTjrOjrLBD2kVjrSjrPBD2kXjrUjrRBD2kZjrYjrVBD2k5jr4jrXBD2k7jr6jrZBD2lBjsCjr7B",
     "D2lDjsGjsDBD2lFjsIjsFBD2lHjsMjsJBD2lJjsOjsLBD2lLjsQjsNBD2lNjsSjsPBD2lPjsUjsRBD2lRdhwYdhwVBD2",
     "lTdklGdklDBD2lVdluMdluJBD2lXdoiYdoiVBD2lZdpsAdpr5BD2l5dq1Gdq1DBD2l7dtpSdtpPBD2mBdweAdwd5BD2m",
     "DdxnGdxnDBD2mFd0bSd0bPBD2mHd1kYd1kVBD2mJd2uAd2t5BD2mLd33Gd33DBD2mNebiMebiJBD2mPdyhOdyhLBE2mR",
     "dws6bcAdxuZBE2mTdws6jnWeccRCD2mXboiQboiNBD2mZbor4borXBD2m5bojEbojBBD2m7btjUbtjRBD2nBbosMbosJ",
     "BD2nDbqhAbqg5BD2nFboiWboiTBD2nHbqg4bqgXBD2nJbooWbooTBD2nLbriGbriDBD2nNb2pWb2pTBD2nPcdz6cdzZB",
     "D2nRcboAcbn5BD2nTb2r4b2rXBD2nVcwz6cwzZBD2nXbtoGbtoDBD2nZb10Kb10HBD2n5b3fCb3e7BD2n7b2pYb2pVBD",
     "2oBci0Qci0NBD2oDbrvYbrvVBD2oFcfbAcfa5BD2oHct1Mct1JBD2oJci2Sci2PBD2oLbq2Ybq2VBD2oNboxUboxRBD2",
     "oPbr3Gbr3DBD2oRbv1Gbv1DBD2oTchqKchqHBD2oVbozUbozRBD2oXct36ct3ZBD2oZbrjObrjLBD2o5ci3Uci3RBD2o",
     "7bo0Wbo0TBD2pBcnyQcnyNBD2pDcnzEcnzBBBBBt2CBBBBzeSBBBB3eWBBBBbluUJD2lFI7BC2pLBBC2pNABC2pPCBC2",
     "pREBC2pTGBC2pVIBC2pXKBC2pZMBC2p5OBC2p5FBC2p7DBC2qBBBC2qDABC2qFCBC2qHEBBBBs3RBBCBs3PCBDBs3NDB",
     "BBs3LBBCBs3JCBFBs3HFBBBcjeYBBBBclxEBBBBcncIBBBBcpuSBBBBcq3WBBBBcsi4BBBBcu1GBBBBcxpQBBBBcyyUB",
     "BBBc1nABBBBc2wEBBBBdabIBBBBdbkMBBBBdctQBCc1nWry5BCczsO17BBBBcyjGCBBBptKBBBBp2SBBBBptYBBBBuuI",
     "BBBBp26BBBBrrOBBBBptEBBBBrrGBBBBpzABBBBssMBBBB3z4BBBBbfgABBBBbcyABBBB31YBBBBbyfYBBBBuyABBBB3",
     "gCBBBBbaoWBBBB3zMBBBBbkgCBBBBtbIBBBBbgkMBBBBbvgWBBBBbkh4BBBBsiABBBBbkp6BBBBbh04BBBBwc6BBBBbx",
     "k4BBBBrlMBBBBsuEBBBBbdeWBBBBb1uOBBBBqfKBBBBrsOBBBBbciQBBBBprSBBBBpt4BBBBprQBBBBysCBBBBs2GBBB",
     "Bsp4BBBBxiOBBBBxfEBBBBbiyGBBBBqdOBBBBbvhUBBBBsrEBBBBvzWBC2vVGBC2vXIBC2vZKBC2v5MBC2v5HBC2v7FB",
     "C2wBDBC2wDBBC2wFABC2wHCBC2wJEBC2wLGBC2wNIBC2wPKBC2wPJBC2wZb2pEBC2wZb2pCBC2wZb2pABC2wZb2o6BC2",
     "wZb2o4BC2wZb2oYBC2wZb2oWBC2wZb2oUBC2wZb2oSBD2xNBb2pGBD2xPAb2pEBD2xRCb2pCBC2t7BBD2uH4VBC2uJbE",
     "BD2t5QbBBBBBbhFBBBBbhDBBBBbhBBBBBbg7BBCBbg5CBBBbgZBBBBbgXBBBBbgVBBBBbgTBBBBbgRBBBBbgPBBBBbgN",
     "BBBBbgLBBBBbgJBBBBbgHBBBBbgFBBBBbgBBBBBbf7BBBBbf5BBGBbfZGBBBbfVBBBBbfRBBBBbfNBBBBbfJBBFBbfFF",
     "BBBbfDBBBBbfBBBGBbe7GBEBbe5ECp0CdgQBEbkLdEc4dNBEbkNe4bNdNBEbkPfMbTdVBDbkRgAbDBEbkPcScUeNBDbk",
     "RfIdJBDbkPGe6BFbkNbETfEdLBEbkPfSfLfMBDbkNe4dZBDbkPfObZBDbkPNeUBEbkReEcPKBEbkTeMFbGBDbkTeKMBD",
     "bkVeWbLBCbkTDBDbkVb6dIBEbkZdWKbGBEbkZeCcZeABCbk7eIBFblBeIeBdYRBGblDeIXbYdNcKBFblFeIEc5KBDblB",
     "dYRBFblDdYRbRc4BFblHeAdDbRe4BEblJeEbAdDBDblHfAeNBDblFdWcFBDblHe4cBBEblFbDWeABFblHeEdJd6bZBEb",
     "lFdMSeNBDbk7dWdJBDblBdWcZBDbkXeAeNBCbkLbBBCbkJcIBCbkNc4BCbkLIBDbkFVKBDbkFcZcEBFbkDc4eJdWcZBD",
     "bkFc4dVBEbkJc6bBBBFbkDdJbQbAcKBDbkFcNeABCbkHcFBCbkLbSBFbkJdNeYcPMBEbkLdJf6dNBFbkLbHXbBeQBDbk",
     "PbKUBFbkLcVbCeCbDBCbkJb5BDbkL7OBDbkRbIcRBDbkPbUdZBDbkRcIePBDbkVcKeBBEbkPdXfIcZBDbkTbAcJBCbkX",
     "bSBDbkVbOcXBDbk5cGbDBDbk7cGRBEbkZdZWeEBDbk5dZeWBDbk7bXYBDblB4d7BFblDbMd7dGYBEblDdFeEMBCblFWB",
     "FblHWbVc6bDBCblFdPBEblHdPb4c4BEblJbYdNcKBDblFbSdLBDblHbSbDBDblFePfMBEbk7cRKcKBCblBBBDblBbPcU",
     "BEblDbEcPbMBCblDXBFblFOcZbNeKBDblBc5KBC3dBceaSBC3dBceaQBC3dBceaOBC3dBceaMBC3dBceaKBC3dBceaIB",
     "C3dBceaGBC3dBceaEBC3dBceaCBC3dBceaABD3dTBceaSBD3dVAceaQBD3dXCceaOBD3dZEceaMBD3d5GceaKBD3d7Ic",
     "eaIBD3eBKceaGBD3eDMceaEBD3eFOceaCBD3eHQceaABD3eHDceaSBD3eJBceaQBD3eLAceaOBD3eNCceaMBD3ePEcea",
     "KBD3a7Q7BC3bJFBC3bRbKBD3bRBbEBC3aXOBC3aXZBC3bTSBD3bVSd5BD3bXSdZBC3bPYBCynKcbUBC2zEkaZBCvmYkl",
     "GBC2w6dx6BE324ffLjcJx3GBC3bN7BC3bTZBC1fJb1HBC3bZXBC3cBTBC3cDRBC3cBVBC3cPJBD3cZDWBE3cLPDWBC3c",
     "DTBC3cJPBC1f7b05BC1gBb0ZBC3cRLBC3cXHBC3dBbGBD3c5FbGBD3cZJbGBD3dJCbGBD3cPXbGBC1gRb0PBC3dDBBC3",
     "dXQBC3dLCBC3dXOBC3dJBBC1g7b0NBC3dPABC3eHUBC3dXEBD3dVAd5BD3eNUd5BC3dZd5BD3eBEd5BD3d7AdZBD3eVU",
     "dZBC3eDdZBD3eJEdZBD3eHteMtd7BE3eJteMtd7eJBC3eF7BD3eRK7BD3ePG7BD3e7S7BD3eJbDGBF3eLbDGtfAtd7BG",
     "3eNbDGtfAtd7eJBC3eTGBC3eZKBC1iPb0BBC3fBMBC3e5MBC3fDQBC1iXbzZBC3fJSBC3fPWBC3fNSBC3fJOBC3fPSBC",
     "1jFbzXBC3fVUBC3f5YBC3fZUBC3gBb1OBC3f7b1KCC3gZbABC3gZABC3g5CBE3g7tfCtePHCC3hBDBC3g5bGBC3g5NBC",
     "3g7QBC3g7KBC3g5ABC3g7EBC3hBSBC3hBCBC3hDEBD3hFGPBC3hHYBC3hHVBD3hJHGBD3hLEFBC3hHPCD3hLAFBC3hNE",
     "BC3hJBBC3hLGBC3hFbLBD3hJtdYteLBD3iXtfGteLBC3mBb1zWBC3mBb1zUBC3mBb1zSBC3mBb1zQBC3mBb1zOBC3mBb",
     "1zMBC3mBb1zKBC3mBb1zIBC3mBb1zGBD3mTBb1zYBD3mVAb1zWBD3mXCb1zUBD3mZEb1zSBD3m5Gb1zQBD3m7Ib1zOBD",
     "3nBKb1zMBD3nDMb1zKBD3nFOb1zIBD3nHQb1zGBD3nHDb1zYBD3nJBb1zWBD3nLAb1zUBD3nNCb1zSBD3nPEb1zQBD3n",
     "RGb1zOBD3nTIb1zMBD3nVKb1zKBD3nXMb1zIBD3nZOb1zGBD3nZFb1zYBD3n5Db1zWBD3kPLWbco7BXCCcEBOCC6BBBd",
     "ckHBBBBdckFeNBHCCQBbBCCcCBBBBJBCCCEBBBcspNBBFCCNBBBCCBBBdd2TDBCCCGBKCCUBBBdeaPBBBBdebHBBBBde",
     "a7BBBBdeaJBBBBdeaPCBBBdd1FBBBBdd2XBBBBdd1LBBBBcb4BBICCQBBBdFBBBBdeaNBBBBcss5BBCCCEBBBdecZBBI",
     "CCQBBBderLVBBBdfiPBBBBdfjTBBBBdfjPBBBBdfiZBBBBCDBBBde07BBBBdeyD25BBBclXBBBBcPBBBBdgdLBBBBZKB",
     "BBdgbZHBcUBc0k5wb4BBBcbzNBBBBcxcRBBBBcamXBBBBcbrDBBBBcssRBBBBdhfLBBBBdd2FBBBBbu0BBBBBbu0DBBB",
     "BdazZBBBBb2vTBBBBddaTBBBBda0TBBBBcz2RBBBBcojTBBBBcjeHBBBBcfjPBBBBceoJBBBBcdxFBBBBb3nVBBBBcvl",
     "VBBBBcts5BBBBcrpDBBBBcpxTBBBBcgoJBBBBb23PBBBBbyeBBBBBdhbPBBBBdehDBBBBcuzDBBBBcqyFBBBBcflVBBB",
     "BbvxFBBBBc2tHBBBBcsbXBBBBcfsLBBBBcdrFBBBBczqDBBBBch0DBBBBcejBBBBBc1yPBBBBcxc5BBBBctpBBBBBcqk",
     "BBBBBb3lFBBBBdgpLBBBBdfiBBBBBdesNBBBBcynBBBBBcu3VBBBBcq0HBBBBcodVBBBBci2NBBBBcfpXBBBBcfkDBBB",
     "Bcba5BBBBbzw5BBBBbxkTBBBBbv1JBBBBcngFBBBBcmuBBBBBckjTBBBBcgyRBBBBb2eVBBBBbvsZBBBBccyNBBBBdbh",
     "HBBBBc1wNBBBBclbNBBBBcivHBBBBcqwDBBBBcncZBBBBcbwDBBBBbz17BBBBdbiHBBBBc3h5BBBBcvoJBBBBctj5BBB",
     "BcstLBBBBcksLBBBBckaZBBBBb0j7BBBBdevRBBBBcivJBBBBdfiDBBBBdfjHBBBBcmlJBBBBckjLBBBBcgxTBBBBb0h",
     "VBBBBccoXBBBBcztJBBBBcvqPBBBBccxTBBBBdhkZBBBBc3rNBBBBc1gLBBBBcqeLBBBBcpbZBBBBdesDBBBBcnbPBBB",
     "BdgpJBBBBc1nXBBBBdhoLBBBBct3VBBBBcyeZBBBBckvBBBBBdehFBBBBdbsTBBBBcofZBBBBcgtHBBBBcdaNBBBBcus",
     "PBBBBcaeZBBBBcue5BBBBczrXBBBBchnLBBBBczhDBBBBcpd5BBBBdheVBBBBdfsFBBBBdflZBBBBcwoFBBBBck0DBBB",
     "BchvXBBBBcc2VBBBBb23PBBBBdewHBBBBdeaDBBBBdbbRBBBBc12HBBBBcybNBBBBcshBBBBBcnaRBBBBb0yBBBBBbyd",
     "HBBBBbvwBBBBBbvsNBBBBde27BBBBcxoZBBBBcuyZBBBBcal5BBBBc2hBBBBBc0oBBBBBc0gTBBBBcywJBBBBcswRBBB",
     "Bcrp7BBBBcpuRBBBBcmu7BBBBckj7BBBBci1VBBBBcaqTBBBBcglDBBBBb335BBBBb2gFBBBBdfi7BBBBde3VBBBBddx",
     "5BBBBcrzLBBBBcegHBBBBcddXBBBBc2cVBBBBc1mXBBBBczmVBBBBcuwZBBBBclkHBBBBcqkHBBBBdheLBBBBdcqPBBB",
     "Bc3wNBBBBc2vLBBBBc1kXBBBBcqgRBBBBcpyNBBBBcjnPBBBBcjcDBBBBb20FBBBBb0fBBBBBbz3TBBBBbzpZBBBBdgy",
     "DBBBBcmzBBBBBb3fDBBBBb0jRBBBBc02PBBBBdhlZBBBBdgcFBBBBc3xFBBBBc3rZBBBBcyiJBBBBcvxDBBBBcrkDBBB",
     "BcoyFBBBBcgm5BBBBb30VBBBBbvjTBBBBcxwZBBBBb0tVBBBBdfeHBBBBcxgZBBBBcw25BBBBct2NBBBBctfLBBBBcqc",
     "ZBBBBcpkPBBBBcnsFBBBBck27BBBBbznBBBBBdfxZBBBBc0h7BBBBb0pTBBBBdgpPBBBBc3e5BBBBctr7BBBBcauRBBB",
     "Bc1xLBBBBc0yBBBBBcw1TBBBBcqmPBBBBb0pJBBBBdfmDBBBBdejXBBBBc3rRBBBBcycNBBBBcxlPBBBBcwsPBBBBcug",
     "HBBBBcqeTBBBBcpc7BBBBcjtLBBBBcekDBBBBcei7BBBBb3gZBBBBb0kDBBBBdeyPBBBBctfRBBBBdejZBBBBcrnBBBB",
     "BcpzTBBBBcf3BBBBBb0oXBBBBbxhPBBBBbv2TBBBBcxh5BBBBctwDBBBBcii5BBBBcmkLBBBBcmeXBBBBclkFBBBBcq1",
     "ZBBBBcseTBBBBcc2HBBBBdhmNBBBBchrFBBBBdfnHBBBBdfqVBBBBc2lLBBBBc0aFBBBBclgJBBBBdae7BBBBcueVBBB",
     "BcxyHBBBBcawTBBBBcevBBBBBb0wDBBBBcd35BBBBc2jBBBBBdgaXBBBBddoBDBBBdb3ZCBBBcx3JDBBBdfuZBBBBcqw",
     "TBBBBcouZBBBBcnjFBBBBcng7BBBBcngRBBBBcndZBBBBb0fVBBBBcljTBBBBcjsRCBBBcgaTCBBBcdhFDBBBcahXBBB",
     "Bb3yVEBBBbzjLBBBBbziRBBBBbzfVBBBBbwsFBBBBb31JBBBBb0rRBBBBdg37BBBBdgjFBBBBdgcNBBBBdfhFBBBBdff",
     "NBBBBde2HBBBBddtDBBBBddmFBBBBddfVBBBBdceJBBBBdb1NBBBBc3xXBBBBc3xFBBBBc1mNBBBBc02LBBBBc0z5BBB",
     "Bc0tJBBBBcyv7BBBBcymHBBBBcyaTBBBBcw1LBBBBcudBBBBBctwHBBBBcteVBBBBcrzRBBBBcrnBBBBBcqjRBBBBcnx",
     "7BBBBcnmPBBBBcnlZBBBBcnl7BBBBcnlPBBBBcnlFBBBBcnkXBBCBcnhTCBBBcmzZBBBBcmvRBBBBcmaLBBBBckwZBBB",
     "BckvPBBBBckrZBBBBcj1RBBBBcjrZBBBBcipLBBBBcigDBBBBcigFBBBBcheLBBBBcenZBBBBcee7BBBBcdkZBBBBcdh",
     "FBBBBccj5BBBBccgNBBBBcauXBBBBcamFBBBBb0sNBBBBbz3RBBBBbzzTBBBBc1rRBBBBgg0QBBBBcinTDBBBdiaLBBB",
     "Bdf3VBBBBdge5BBBBdhhPBBBBdghLBBBBdgdPBBBBdflXBBBBdfiNBBBBddxPBBBBdd2LBBBBddx5BBBBddtDBBBBdch",
     "BBBBBdcbFBBBBdbvRBBBBdbuRBBBBdbcTBBBBdatPBBBBc2rBBBBBc2qTBBBBc2hDBBBBc2cTBBBBc1mXBBBBc1e7BBB",
     "Bc1jVBBBBc1aZBBBBc1d7BBBBc0yJBBBBc0t7BBBBczxLBBBBczrRBBBBczoBBBBBcy0XBBBBcyhXBBBBcx07BBBBcx0",
     "XBBBBcxw5BBBBcvmLBBBBcviDBBBBcumDBBBBctoZBBBBctp7BBBBctkHBBBBcsxPBBBBcsbFBBBBcopBBBBBcrsBBBB",
     "Bcrj7BBBBcrbZBBBBcqkDBBBBcqaHBBBBcp0XBBBBcplXBBBBcplVBBBBcpaLBBBBco3JBBBBco1VBBBBcowBBBBBcow",
     "XBBBBcn0NBBBBcmyFBBBBcmgFBBBBclxXBBBBcli5BBBBck2XBBBBckgZBBBBcjxTBBBBch1LBBBBchq7BBBBcfqTBBB",
     "BceqJBBBBcelXBBBBcekXBBBBcdvBBBBBcdrJBBBBcduLBBBBcdqZBBBBcdrDBBBBcdsJBBBBcdnJBBBBcdh7BBBBccm",
     "RBBBBcbfJBBBBcaoNBBBBb3yZBBBBb3kFBBBBb1bRBBBBb0yXBBBBb0rFBBBBb0iLBBBBb0gBBBBBb0fJBBBBb0cFBBB",
     "BbynXBBBBbv0LBBBBfvpIBBBBfvoYBBBBf2cEBBBBdsxHBBBBdqgZBBBBdqeVBBBBgplSBBBBgvlGBBBBhkvSBBBBbwc",
     "7BBBBbv2BbJCewq5ABCewq7GBCewrBMBDewrDAGBDewrFAMBCewqLCBCewqNCNCetv5EBCetv77BCetwBRBCetvNPBCe",
     "twFNGCetpZcNCCetoJd5BBBBetpNBBBBetqVBBCBetqRCBDBetqFDBBBetpPBBBBetpNBBBBewxRBCetpTcTBCetpVcR",
     "BDetpXc7KBDetpZc7MBCetrRbTBCetrTbRBCetrVbJBCetrVbLBCetrVbNBCetrVbPBCetrVbRBCetrVbTBCetrVbVCC",
     "etrVbZBCetrVb5BCetrVb7BCetrVcBBCetrVcDCCetrVcHCCetrVcLBCetrVcNCCetrVcRBCetrVcTCCetrVcXBCetrV",
     "cZBCetrVc5BCetrVc7BCetrVdBBCettFbZBCettPbFBCets5bZBCetsLcNBCettXYBBBBetjDBBBBetjFBBBBetiRBBB",
     "BetiTBBBBetiVBBBBetiXBBBBetiTBBBBetiVBBCCetiXBBCCetiZDBBBeti5BBBBeti7BBBBetjNBBBBetjPBBBBetj",
     "RBBBBetjTBBBBetjLBBBBetjNBBBBetjPBBBBetjRBBBBetkBBBBBetkDBBBBetkFBBBBetkHBBBBethNBBBBethPBBC",
     "CethRBBCCethTDBBBethVBBBBethXBBBBetkDBBBBetkFBBBBetkHBBBBetkJBBBBetkNBBBBetkPBBBBetkRBBBBetk",
     "TBBBBetkPBBBBetkRBBBBetkTBBCBetkVCBBBetkXBBBBetkZBBBBetk5BBBBetkRBBBBetkTBBCCetkXBBCCetkZDBB",
     "BetlJBBBBetlLBBBBetkLBBBBetkNBBBBetk7BBBBetlBBBBBetjPBBBBetjRBBBBetjTBBBBetjVBBBBetjLBBBBetj",
     "NBBBBetjPBBBBetjRBBBBetjLBBBBetjNBBBBetjPBBBBetjRBBBBetjXBBBBetjZBBBBetj5BBBBetj7BBBBetjNBBC",
     "BetjPCBBBetjRBBBBetjTBBBBetjVBBBBetjNBBCBetjPCBBBetjRBBBBetjTBBBBetjVBBBBetj7BBBBetkBBBBBetk",
     "DBBBBetkFBBBBeti5BBCBeti7CBBBetjBbEBBBetnZBBBBetn5BBBBetn7BBBBetoBBBBBetmLBBBBetmNBBCCetmRBB",
     "CCetmTDCetmXfPBBBBetmRBBBBetmTBBBBetnDBBBBetnFBBBBetm7BBBBetnBBBBBetmTBBBBetmVBBBBetmXBBBBet",
     "mZBBBBetv5BBBBetv7BCetyLCBCetyNCBCetyPlUBCetyRlUBCetyTcIBCetyVcIBCetyXkWBCetyZkWBCety5kUBCet",
     "y7kUBCetzBkYBCetzDkYBCetzFlKBCetzHlKBCetzJlKBCetzLcKBCetzNcKBCetzPcKBBBBetoPBBBBetoRBBBBetoT",
     "BBBBetoVBCetzZMBCetz5OBCetz7cCBCet0BcKBCet0DcMBCet0BIBCet0DKBCet0FMBCet0Hb6BCet0JcGBCet0LcIB",
     "Cet0JEBCet0LGBCet0NIBCet0PbYBCet0RcCBCet0TcEBCet0TCBCet0VbWBCet0XcABCet0ZcCBCet0ZCBCet05bUBC",
     "et05BBCet07bSBCet07DBCet1BBBCet1DbQBCet0ZNBCet05LBCet07JBCet1BbGBCet07PBCet1BbCBCet1BTBCet1D",
     "RBCet1FPBCet1HbABCet1HTBCet1J6BCet1J4BCet1JZBCet1LYBCet1L5BCet1NWBCet1BbLBCet1DbJBCet1FbHBCe",
     "t1HIBCet1JQBCet1LSBCet1LbLBCet1NGBCet1POBCet1RQBCet1RbZBCet1TbPBCet1VbNBCet1XbLBCet1ZCBCet15",
     "EBCet17MBCet2BOBCet2BbRBCet2DbPBCet2FbNBCet2HCBCet2JKBCet2LMBCet2LbTBCet2NbRBCet2PbPBCet2RAB",
     "Cet2TIBCet2VKBCet2VbVBCet2XbTBCet2ZbRBCet25BBCet27GBCet3BIBCet3BbXBCet3DDBCet3FEBCet3HGBCet3",
     "Db7BCet3Fb5BCet3HbZBCet3JJBCet3LBBCet3NABCeubHeIBCeubHeGBCet3VcSBDexo5dpKKBDexo7dpMIBDexpBdp",
     "OGBDexpDdpQEBDexpFdpSCBDexpHdpUcCBCeucPWBCeucRYBCeucTcCBCeucVcEBCeucXcKBCeucZcMBCeucXSBCeucZ",
     "UBCeuc5b6BCeuc7cABCeudBcGBCeudDcIBCeudBOBCeudDQBCeudFbYBCeudHb4BCeudJcCBCeudLcEBCeudLMBCeudN",
     "OBCeudPbWBCeudRbYBCeudTcABCeudVcCBCeucJQBCeucLSBCeucLOBCeucNQBCeucNbZBCeucPCBCeucREBCeucTMBC",
     "eucVOBCeucVCBCeucXKBCeucZMBCeucZb7BCeuc5ABCeuc5bLBCeuc7bJBCeudBBBCeudDABCeudFGBCeudHIBCeudDc",
     "SBCeudDbTBCeudFbRBCeudHJBCeudJHBCeudLBBCeudNABCeuf5MBCeuf7OBCeugBQBCeugDcCBCeugFcGBCeugDIBCe",
     "ugFKBCeugHMBCeugJb6BCeugLcCBCeugJEBCeugLGBCeugNIBCeugPbYBCeugRb6BCeugRbWBCeugRCBCeugTbUBCeug",
     "TBBCeugVbSBCeugVDBCeugXbQBCeugPNBCeugRLBCeugTJBCeugVbGBCeugTPBCeugVNBCeugXbCBCeugXTBCeugZRBC",
     "eug5PBCeug7bABCeug7TBCeug74BCeug7ZBCeuhBYBCeuhB5BCeuhDWBCeugVbLBCeugXbJBCeugZbHBCeug5IBCeug5",
     "bLBCeug7GBCeug7bPBCeuhBbNBCeuhDbLBCeuhFCBCeuhHEBCeuhHbRBCeuhJbPBCeuhLbNBCeuhNCBCeuhPGBCeuhPb",
     "TBCeuhRbRBCeuhTbPBCeuhVABCeuhVbVBCeuhXbTBCeuhZbRBCeuh5BBCeuh7CBCeuh7bXBCeuiBDBCeuiDcWBCeuh7b",
     "7BCeuiBb5BCeuiDbZBCeuiFJBCeuiHFBCeukVcCBCeukXcGBCeukVb6BCeukXcCBCeukVbYBCeukXb6BCeukXbWBCeuk",
     "Zb4BCeukLbGBCeukNbKBCeukNbEBCeukPbIBCeujRCBCeujTEBCeujTCBCeujRBBCeujTCBCeujNJBCeujPFBDeukH6G",
     "BDeukJbAEBDeukLbCCBCeulBbGBCeulDbIBCeulBbCBCeulDbEBCeulDbABCeulFbCBCeulVbOBCeulXbQBCeulXbMBC",
     "eulZbOBCeumLb4BCeumNb6BCeumRb6BCeumTcABCeumRbYBCeumTb4BCeumHbKBCeumJbMBCeumJbIBCeumLbKBCeumR",
     "PBCeumTNBCeumVLBCeumXbEBCeumZFBCeum7DBCeum5HBCeum5JBCeum5bGBCeum7bIBCeum5bCBCeum7bEBCeum7bAB",
     "CeunBbCBCeunRbOBCeunTbQBCeunTbMBCeunVbOBCeuoHb4BCeuoJb6BCeuoNb6BCeuoPcABCeuoNbYBCeuoPb4BCeuo",
     "DbKBCeuoFbMBCeuoFbIBCeuoHbKBCeuoNPBCeuoPNBCeuoRLBCeuoTbEBCeuoVFBCeuoZDBCeuoXHBCeuoXJBCeuo7PB",
     "CeupBNBCeupDLBCeupFbEBCeupJbKBCeupJbIBCeupF6BCeupPNBCeupRLBCeupTJBCeupTPBCeupVNBCeupXLBCeupT",
     "6BCeupT4BCeuqZcMBCeuq5cMTDeur7EbUBDeusBGBBDeusDGBBDeusFGbSBDeusHIbQBDeusJbYbTBDeusLbYbRBDeus",
     "NbYbPBDeusLbUbRBDeusNbUbRBDeusNbSKBDeusPbSIBDeusFLBBDeusHNCBDeusJNb6BDeusLbGbRBDeusNbGbRBDeu",
     "sPbGbTBDeusRbGABDeusTbGABDeusRPABDeusTPABDeusVbCABDeusZNbSBDeus5NbSBDeus7PcABDeutBbEbPBDeutD",
     "bEbPBDeutFbEABDeutHbEABDeutFRb4BDeutHPbQBDeutJPbQBDeutJ6bRBDeutL6bRBDeutN6ABDeutP6KBDeutNZbU",
     "BDeutPYABDeutRYABDeutTYIBDeutTWABDeutVWKBDeutXWIBDeutLbHbQBDeutNbHbQBDeutNGbRBDeutPGABDeutNb",
     "PbSBDeutPbPb6BDeutRbPb4BDeutTbRABDeutVbRABDeutXbNbQBDeutZbNbQBDeut5CbRBDeut7CbRBDeut7bRBBDeu",
     "uBbRbSBDeuuDbRb6BDeuuFbTCBDeuuHbTbUBDeuuJbPDBDeuuLbPbQDDeuuRbTEBDeuuPDbTBDeuuRDABDeuuVbTbSBD",
     "euuXbTb4BDeuuZbVbUBDeuu5bVbUBDeuu7bVb6BDeuvBBKBDeuvDBIBDeuu5JABDeuu7JABDeuxJMb4BDeuxHEcABDeu",
     "xJEb6BDeuxLIb4BDeuxNIbYBDeuxPbYKBDeuxRbYIBDeuxPbUKBDeuxRCb4BDeuxTbUIBDeuxHJbYBDeuxFPb6BDeuxJ",
     "Nb6BDeuxHRb6BDeuwLbRcABDeuwNCKBDeuwDb5b6BDeuwFb7cABDeuwHJKBDeuwTAKBDeuw5GKBDeuwVbTb6BDeuxBGb",
     "RBDeuw7bPbSBDeuxXYKBDeuxFEKBDeuxBbVCBDeuxFbPb4BDeuxJbRbUBDeuxNEABDeuxNbRbUBDeuxLbVCBDeuzFCb6",
     "BDeuzFBcABDeuxTbTcABDeux7IKBDeuzVKb6BDeux7EABDeuyVZbUBDeuzBbCABDeuzHJb4BDeuyBbVcAbLDeu15bAjO",
     "BDeu1DEjOBEeu27b6AGBEeu3Bb4bXSBEeu1DbRbSbNBEeu2HbAVYBEeu2REbMHBEeu2DWMFBEeu1FbLbECBDeu2PbAKB",
     "Seu2RbAKdpDdm4b6AGdo7doCWMFdo7dpCbLbECBIeu3HbSdoXdnGbSb5b6GBEeu27kKk7b6EAQQBBBeynBBBBBd1gXCB",
     "CBeymJCBBBeyoDBBBBeymFBBCBd1fX4BBBegkVBBBBegkZBBBBeyl7BBBBeymBBBCBeypXCBBBeykLBBBBeykJBBCBd1",
     "iFCBCBd1iRCBCBd1jDCBCBd1jLCBEBd1jHGBBBeynRBBBBeynPBCeyrTbtMBCeyrVbtMBCeyrXbtMBCeyrZbtMBBBBey",
     "nVBBBBeynXBBBBeynZBBBBeyrJBBBBd1lBDBBBeyqRBBBBeyqVBBBBeyqNBBBBeysPBBBBegnJBBCBeysFCBBBeymXBB",
     "BBeymVBBCBd1kRCBBBeys5BBBBeysXBBCBeysRCBBBeysPBBBBeyrRBBBBeyrPBBBBeyrTCBBBeypVBBCBeytPCBBBey",
     "rXFCeyuHdpIBCevfXWBCeyuLdpKCCeyuPdpMCCeyuTdpOBCevgF6BCeyuXdpQBCevgJbABCeyu5dpSBCevgNbCBCeyvB",
     "dpUBCevgRbEBCeyvFdpWBCevgVbGBBCBeviZCBCBevi5CBCBevi7CBCBevjBCBCBevjDCBBBevjFBBBBevjHBBCBevjJ",
     "CBCBevjLCBBBevjNBBBBevjPBBCBevjRCBCBevjTCBBBevjVBBBBevjXBBCBevjZCBBBevj5BBBBevj7BBCBevkBCBBB",
     "evkDBBBBevkFBBCBevkHCBBBevkJBBBBevkLBBCBevkNCBBBevkPBBBBevkRBBCBevkTCBCBevkVCBCBevkXCBCBevkZ",
     "CBCBevk5CBBBevk7BBBBevlBBBCBevlDCBBBevlFBBBBevlHBBCBevlJCBBBevlLBBBBevlNBBCBevlPCBBBevlRBBBB",
     "evlTBBCBevlVCBBBevlXBBBBevlZBBCBevl5CBBBevl7BBBBevmBBBCBevmDCBBBevmFBBBBevmHBBCBevmJCBBBevmL",
     "BBBBevmNBBBBevmPBBBBevmDBBBBevmFBBBBevmHBBCBevmJCBBBevmLBBBBevmNBBCBevmPCBBBevmRBBBBevmTBBCB",
     "evmVCBBBevmXBBBBevmZBBCBevm5CBBBevm7BBBBevnBBBCBevnDCBBBevnFBBBBevnHBBCBevnJCBBBevnLBBBBevnN",
     "BBCBevnPCBCBevnRCBCBevnTCBBBevnVBBBBevnXBBBBevnZBCevoJcHBCevoLcHBCevoNcFBCevoPcFBCevoRcBBCev",
     "oTcBBCevoVb5BCevoXb5DABCBbCBey3ZbCB4Bey1V4BbGBey3ZbGBCBebtVCBBBezfLBBCBd12PCBBBd13LBBBBd1mXB",
     "BBBd1nNBBBBd1s5BBBBd1sZBBBBd1sXBBBBd1sVBBBBd1sTBBBBd1oZBBBBd1oXBBBBd1oVBBBBd1rFBBBBd1nNBBBBd",
     "1tPBBBBd1tNBBBBd1tLBBBBd1tJBBCBd1tHCBBBd1tFBBBBd1tDBBBBd1tBBBBBd1s7BBBBd1s5BBBBd1sZBBBBd1sXB",
     "BBBd1sVBBBBd1sTBBBBd1sRBBBBd1sPBBBBd1sLBBBBd1sJBBBBd1sHBBGBd1sFGBBBd1sBBBBBd1r5BBBBd1rXBBBBd",
     "1rTBBFBd1rPFBBBd1rNBBBBd1rLBBGBd1rJGBBBd1rHBBBBd1rBBBCBd1xDCABBBCBepwRCBCCeplLBBBBepwTCBBBep",
     "lLBBDBepwXDBGBeplNGBBBepvZBBDBepxHDBBBepvTBBKBepxJNBGBepsJIBGBepsNIBGBepsRIBDBepsVGBCBezgDCB",
     "BBezfRBCezo7btKBBBBezgDBBBBezgHBBBBeg35CBBBeepZBBEBegoVEBBBeefTBBBBeecZbeWBbKBcUf4BbGBcUgMBT",
     "CcSBBFCcSMBHCcSQBDCcSIBBBcSqMBCBe2jDCBBBe3l5BBBBe2m7BBBBe2rVCBCCe2mPBBBBbwmLCBBBe2mTBBCBe2r5",
     "CBBBendJBBBBe2r7BBBBe2rTBBBBe2mVBBBBe2rLBBBBe2rRBBBBe2rXBBBBe2n5BBBBe3iXBBBBe2n7BBBBe2rRBBBB",
     "e2pVBBCBe2nHCBBBe2rPBBBBecqIBBBBbytLBBBBe2rRBBBBecqEBBBBe2pRBBBBecqCBBBBe3mXBBCBe2rLCBBBe3v7",
     "BBBBe2rJBBBBecpYBBCBe2rHCBBBe2rFBBBBe2oRBBBBe2oXBBBBbwoXBBBBe2oZBBBBe2q7BBBBeevXCBBBe2qVBBCB",
     "e2pRCBBBe2qJBBDBe3aXDBBBecoWBBBBecqAbkWBbVBeIg6BWBcEdgQBbCBcEykUBbCBcEdGBZBbYwfSAEesKB4Biv2N",
     "4BKBiwdNbhYCN6BCN4BDP4SBDR4UBDT4WBDV4YBDX44PAIcMCDfRBCDfTBDHfRSBDHfTSBDLfRUBDLfTUtGB4Bi0aV4B",
     "4Bi0cN4B4Bi0eF4BNCi0f5BBDCi0f5IBJCi0f5RB4Bi0hT4B4Bi0jL4BCCi0lDDBBBi0lDDBBBi0lDDBCBi0lDEBEBi0",
     "lDFBIBi0lDIBEBi0mZFBLCi0mZDBDCi0mZIBFCi0mZKB4Bi0oR4B4Bi0qJ4BCBi0sBDBEBi0sBGBIBi0sBJBHBi0sBIB",
     "4Bi0tX4BCBi0vPDBEBi0vPFBFBi0vPGBBBi0vPEBHBi0vPIB4Bi0xH4B4Bi0y74B4Bi00V4B4Bi02N4B4Bi1aF4B4Bi1",
     "b54B4Bi1dT4B4Bi1fL4B4Bi1hD4B4Bi1iZ4B4Bi1kR4B4Bi1mJ4B4Bi1oB4BBBi1b5BBBBi0oPDBRBiztPRBBBizuFBB",
     "HBiztPHBBBiinNBBRBizvHRBBBizvFBBHBizvHHBBBiipPBBBBizwVBBBBizwRBBBBizwPBBBBizvXBBBBizwFBBBBiz",
     "wJBBRBizxLRBBBizyBBBHBizxLHBBBiirJBBRBizzDRBBBizzBBBHBizzDHBBBiitLBBBBiz0RBBBBiz0NBBBBiz0LBB",
     "BBizzTBBBBiz0BBBBBiz0FBBRBiz1HRBBBiz15BBHBiz1HHBBBiivFBBRBiz27RBBBiz25BBHBiz27HBBBiixHBBBBi0",
     "aNBBBBi0aJBBBBi0aHBBBBiz3PBBBBiz35BBBBi0aBBBRBi0bDRBBBi0bXBBHBi0bDHBBBiizBBBRBi0cZRBBBi0cXBB",
     "HBi0cZHBBBii1DBBBBi0eJBBBBi0eFBBBBi0eDBBBBi0dLBBBBi0dXBBBBi0d5BBRBi0e7RBBBi0fTBBHBi0e7HBBBii",
     "25BBRBi0gVRBBBi0gTBBHBi0gVHBBBija7BBBBi0iFBBBBi0iBBBBBi0h7BBBBi0hHBBBBi0hTBBBBi0hXBBBBi0f5BB",
     "BBi0f7DBKBi2i5KBKBi2jRKBKBi2kHKBKBi2k5KBKBi2lRckGBJBjaxVJBDBjaxTDBLBjaxRLBBBjaxNBBCBjaxLCBBB",
     "f2oVBBBBjaoHBBBBjaxBBBBBjaw7BBBBjanLBBBBjarJBBBBjapHBBJBjaz5JBCBjazZCBCBjazVCBBBjazTBBGBjazR",
     "GBCBjazPCBBBjau5BBBBjay5BBBBjazBBBBBjayNBBBBjatNBBBBf2uVBBBBjatFcnFBbEBcIbmUBCBjhp5CBBBjhpVB",
     "BBBjhpRCBBBjhoBBBBBjhpRBBBBjhp7BBBBjhpLBBBBjhoFBBEBjhoVEBBBjhqBBBBBjhpVBBBBjhpHBBBBjhqDBBBBj",
     "hpJBBBBjhqPBBBBjhqLBBCBjhrDCBBBjhq7BBBBjhq5BBBBjhqRBBBBjhqPBBBBjhqNBBBBjhnBBBBBjhiBBBBBjhjXB",
     "BBBjhnFCBBBjhsBBBBBjhrZCBBBjhqFDBBBjhsDCBBBjhqJBBEBjhqZEBBBjhsFBBBBjhrZBBBBjhrLBBBBjhsHBBBBj",
     "hrNCBBBjhsPBBCBjhtHCBBBjhtDCBBBjhsVCBBBjhsRHBBBjht7FBBBjhuHCBBBjhsNCBCCjhs7DBBBjhuJBBBBjht7C",
     "BBBjhuLBBBBjhtRCBBBjhuTDBBBjhvHCBBBjhuZCBBBjhuVCBBBjhmJCBBBjhrNCBBBjhwJBBBBjhwDCBBBjhuNDBBBj",
     "hwLBBBBjhvXBBBBjhuRBBCCjhvDDBBBjhvDBBBBjhwNBBBBjhwDBBBBjhvTBBBBjhwPBBBBjhvVCBBBjhwXBBCBjhxPC",
     "BBBjhxLCBBBjhw7BBBBjhw5BBBBjhwZBBBBjhtNCBBBjhqFCBCBjhyNCBBBjhyHBBBBjhyDBBCBjhwRCBBBjhyDBBBBj",
     "hyPBBBBjhx5BBBBjhwVCBDBjhxHDBBBjhyRBBBBjhyHBBBBjhxXBBBBjhyTBBBBjhxZBBBBjhzBBBBBjhy5BBCBjhzTC",
     "BBBjhzPBBBBjhzNBBBBjhzDBBBBjhzBBBBBjhy7GBBBjh0RBBBBjh0LBBBBjh0HCBBBjhyVBBBBjh0HBBBBjh0TBBBBj",
     "h0BBBBBjhyZCBDBjhzLDBBBjh0VBBBBjh0LBBBBjhz5BBBBjh0XBBBBjhz7BBBBjh1FBBBBjh1BBBCBjh1XCBBBjh1TB",
     "BBBjh1RBBBBjh1HBBBBjh1FBBBBjh1DtMCjms7HBCjms7JBCjms7LBCjms7NBCjms7PBCjms7RBCjms7TBCjms7VBCjm",
     "s7XBCjms7ZGDjmuPdYdVBDjmuRd4dXBDjmuTd6dZBDjmuVeAd5BDjmuXeCd7BDjmuZeEeBBDjmu5eGeDBDjmu7eIeFBD",
     "jmvBeKeHBDjmvDeMeJBDjmvFeOeLBDjmvHeQeNBDjmvJeSePBDjmvLeUeRBDjmvNeWeTBDjmvPeYeVBDjmvRe4eXBDjm",
     "vTe6eZBDjmvVfAe5BDjmvXfCe7BDjmvZfEfBBDjmv5fGfDBDjmv7fIfFBDjmwBfKfHBDjmwDfMfJBDjmwFfOfLBDipoL",
     "1cZ1c6BBBBjmsLBBBBjmrNBCjmsPCBCjmrHGCB4BjmsZ4CjmuD6BCjmtZSBCjmtP7BCjmtRABDjmtZAMBCjmtNbJ5Cjm",
     "v5TBCjmv7RBCjmwBKbGCjmzBMdWCipvXdFBCipsDABBBBipsBOBBBhrmVBBBBhvlNBBBBhzuHBBBBipr7BBBBh2t7BBB",
     "Bhwt5BBBBgy1LBBBBhwtBBBBBh2sTBBBBhph5BBBBhjaFBBBBhprBBBBBh0qNBBBBhtaNBBBBh03LBBBBhppXBBBBh0t",
     "5BBBBhcdTBBBBhgwRBBBBgxk5BBBBhwxVBBBBhzoHBBBBhkf7BBBBhrjJBBBBhq0RBBBBh3aVBBBBh3aFBBBBgvjPBBB",
     "Bht3RBBBBh217BBBBhztPBBBBhrcHBBBBgw2PBBBBhroLBBBBheiZBBBBhdwJBBBBhzsPBBBBhkqZBBBBhoyJBBBBhoy",
     "NBBBBhgwVBBBBh0p5BBBBhyuHBBBBguxJFDiqc5bbkIbbkFBDiqc7rbIrbFBDiqdBrkArj5BDiqdDyvUyvRBDiqdFbgx",
     "IbgxFBDiqdH2rQ2rNBDiqdJbkhUbkhRBDiqdLtxUtxRBDiqdNbajAbai5IBBBhtdDBBBBhzwDcwDBKBjszRclu6BBBm1",
     "zLBBBBm1zXBBBBm1zHBBBBeunLBBBBm1gHBBBBm1bDBBBBm1aJBBBBm0zTBBBBm0rVBBBBm0pVBBBBm0kRBBBBm0mHBB",
     "BBnmnNBBBBerrDBBBBm0eBBBBBm0dTBBBBm0cTBBBBm0bNBBBBesgPBBBBnmmDBBBBm0cVBBBBm0aHBBBBesdTBBBBmz",
     "3VBBBBmz25BBBBm1rPBBBBmz2PBBBBmz17BBBBb2eZBBBBmzxZBBBBmzw7BBBBnmkLBBBBmztLBBBBmzsVBBBBmzpZBB",
     "BBmzpRBBBBnmhDBBBBmzkLBBBBmzkJBBBBmziRBBBBmzhFBBCBmzgPCBBBmzfNBBBBmzcFBBBBmzbVBBBBmzbFBBBBmy",
     "3RBBCCmy27BBBBmy25CBBBmy3BBBBBepmLBBBBmipHBBBBmyyHBBBBmyw5BBBBeov5BBBBmywHBBBBmyv5BBBBmyuRBB",
     "BBmykPBBBBmyrLBBBBmyqLBBBBmyoJBBBBmykPBBBBmye7BBBBmydJBBBBmx25BBBBmx15BBBBmxzXBBBBmxzZBBBBmx",
     "yPBBBBmxxLBBBBmxw5BBBBmxv7BBBBmw3LBBBBmxrRBBBBmw3NBBBBmxmVBBBBmxkNBBBBmz0BBBBBmv2JBBBBmwrRBB",
     "BBmwpDBBBBmwnPBBBBmwwHBBBBmwlFBBBBmwlJBBBBmwdFBBBBejl5BBBBmv2TBBBBmv2LBBBBmv1NBBBBmv0FBBBBmv",
     "zVBBBBmvvPBBBBeimHBBBBeih5BBBBmvmPBBBBmvjNBBBBmviVBBBBmvoBBBBBmveTBBBBnlkBBBBBnljFBBBBmuyBBB",
     "BBmuuPBBBBmuuRBBBBegtVBBBBmulZBBBBmukPBBBBmujRBBBBmuiZBBBBef1TBBBBmuiFBBBBmuhXBBBBmslPBBBBmu",
     "gBBBBBnlbHBBBBmucBBBBBmubFBBBBmtzXBBBBmt3HBBCCeekRBBBBmtrHCBBBmtoPBBBBmtoXBBBBmtnVBBCBmthBCB",
     "BBnkuPBBBBmtfLBBBBmtcRBBBBmtbHBBBBms2LBBBBnkrNBBBBecjVBBBBnkpZBBBBmsx5BBBBmsxXBBBBmsxTBBBBms",
     "wLBBBBbskNBBBBmstBBBBBeblRBBBBeblTBBBBl2vVBBBBmsq5BBBBmsq7BBBBnklTBBBBdwq7BBBBczwTBBBBmsm7BB",
     "BBmsmNBBBBnkkDBBBBmsjNBBBBmsgDBBBBmsfPBBBBmsdJBBBBmryJBBBBnkeVBBBBnkgXBBBBmrxHBBBBd3kXBBBBmr",
     "t7BBBBmrlNBBBBmrlHBBBBmrlFBBBBmrlLBBBBmriLBBBBmrhDBBBBmreXBBBBmrfXBBBBmrfDBBBBmrcBBBBBmraXBB",
     "BBmraRBBBBmq25BBBBmq2HBBBBmqx5BBBBmqsLBBBBmqqDBBBBmqh5BBBBd1aDBBBBmqjJBBBBmqnVBBBBmqgRBBBBmq",
     "eZBBBBmp2NBBBBd0pHBBBBmpyNBBBBmqaVBBBBmqcTBBBBnjuTBBBBmpt7BBBBmpsTBBBBmpqTBBBBmptHBBBBnjqZBB",
     "BBmpe7BBBBmpdDBBBBdygDBBBBmozJBBBBmog5BBBBmosTBBBBnjfXBBBBmon7BBBBnjhBBBBBnjjPBBBBm0mPBBBBm0",
     "mLBBBBmog5BBBBmonTBBBBl3sZBBBBnehBBBBBmofTBBBBmofNBBBBmofDBBBBmobDBBBBmob5BBBBdwdZBBBBnjdTBB",
     "BBmnu7BBBBmn2ZBBBBmnpHBBBBmnl5BBBBdvw5BBBBmnlNBBBBmns5BBBBmncTBBBBni2TBBBBmm3VBBBBmmxJBBBBmm",
     "sTBBBBmmgBBBBBdupXBBBBmmcXBBBBniu5BBBBml2HBBBBdtlTBBBBmly7BBBBnirRBBBBmlxDBBBBmluFBBCBmlsNCB",
     "BBdsjVBBBBefdLBBBBdscRBBBBmli5BBBBdrcVBBBBmlbPBBBBmlaTBBBBmlhPBBBBmkz5BBBBmkxJBBBBmktRBBBBmk",
     "xHBBBBmkuTBBBBmktVBBBBmks5BBBBdq05BBBBmkyNBBBBmkhXBBBBmkdTBBBBnid5BBBBmj1RBBBBmj15BBBBdp2LBB",
     "BBmklXBBBBmjq7BBBBdptFBBBBdpqBBBBBmjlJBBBBmjdVBBBBmjfRBBBBmjfZBBBBnh2DBBBBmjcZBBBBmi3PBBBBmi",
     "37BBBBmi0NBBBBesxRBBBBmiqNBBBBdn2PBBBBmikXBBBBdngXBBBBmibRBBBBmiaXBBBBmh3BBBBBdl0VBBBBmhz7BB",
     "BBmhyTBBBBdlgZBBBBdkwBBBBBmhjRBBBBmhiPBBBBnhk5BBBBmhg5BBBBnhkHBBBBnhkJBBBBmg0JBBBBmgy7BBBBmg",
     "xTBBBBmgwLBBBBmgrZBBBBnheDBBBBmgl7BBBBdimNBBBBmgkLBBBBdigNBBBBmghFBBBBectRBBBBmf0TBBBBdgoPBB",
     "BBdgnBBBBBdgdXBBBBngtZBBBBngtDBBBBmflZBBBBdfwLBBBBdfwPBBBBdft7BBBBdfsJBBCBmfjLCBBBmfjNBBBBmf",
     "gTBBBBngqPBBBBmfcNBBBBngpXBBBBngkPBBBBdd3FBBBBmetVBBBBmepTBBBBmelNBBBBngfVBBBBdcyXBBBBmecNBB",
     "BBdcrFBBBBdcoLBBBBmd2ZBBBBmdwXBBBBngbDBBBBmdrHBBBBmdqTBBBBmdqLBBBBda2PBBBBdaiTBBBBdaiVBBBBmd",
     "gBBBBBnfrRBBBBc3vRBBBBmcvZBBBBmcvVBBBBnfpLBBBBc3hTBBBBmceHBBBBnfhPBBBBmcc5BBBBmcdJBBBBmcbNBB",
     "BBc1qNBBBBmby7BBBBnfbNBBBBmbsNBBBBmboRBBBBmbkFBBBBne2JBBBBc0b7BBBBcz37BBBBne0BBBBBczuLBBBBma",
     "t7BBBBcznXBBBBmasJBBBBmalTBBBBmak7BBBBcyqRBBBBcylXBBBBmafDBBBBcydBBBBBmaeFBBBBdwvLBBBBnesTBB",
     "BBl337BBBBl3yTBBBBnepHBBBBl3uZBBBBmvsRBBBBcw3RBBBBcw2VBBBBdwsPBBBBdwr7BBBBl3iHBBBBl3iDBBBBlv",
     "qBBBBBnejPBBBBl225BBBBl23LBBBBl22HBBBBm0gBBBBBl21BBBBBl207BBBBl20LBBBBl2xVBBBBcu3PBBBBl2x5BB",
     "BBl2uHBBBBl2pTBBBBl2kXBBBBl2uBBBBBl2jZBBBBl2hDBBBBl13VBBBBl2rDBBBBl2jHBBBBl2jFBBBBl2iFBBBBcu",
     "nVBBBBctxFBBBBcudHBBBBnd2LBBBBl1uBBBBBl1t7BBBBl1rVBBBBcqeZBBBBl1mTBBBBcsxXBBBBndzPBBBBndzJBB",
     "BBcspDBBBBcrz5BBBBndyZBBBBl01LBBBBl00TBBBBl0z7BBBBl0z5BBBBl0vVBBBBl0x7BBBBl0pDBBBBl0sDBBBBl0",
     "iDBBBBl0nRBBBBl0jFBBBBl0hNBBBBndsPBBBBl0bPBBBBlz3NBBBBndqNBBBBlzxHBBBBlzxDBBBBcov7BBBBlzpPBB",
     "BBlzpDBBBBndmZBBBBlznLBBBBnnlHBBBBcnnPBBBBcnbJBBBBndeBBBBBnddPBBBBlypTBBBBlykRBBBBlyaFBBBBlx",
     "qVBBBBclgFBBBBlxlDBBBBlxjVBBBBlxdXBBBBlw1VBBBBcjxLBBBBerrHBBBBlwwJBBBBlwxLBBBBlwt7BBBBerc7BB",
     "BBlwe5BBBBlv2JBBBBcgaTBBBBcf25BBBBlvfJBBBBlu3FBBBBlu1DBBBBcfhXBBBBlu0RBBBBluhTBBCBlt1DCBBBlu",
     "dJBBBBlth7BBBBltgFBBBBccqNBBBBlslLBBBBnbrZBBBBlsiRBBBBcbvJBBBBnbmTBBBBlru5BBBBmue5BBBBlroTBB",
     "BBb3qVBBBBb3cRBBBBnbd7BBBBnbdPBBBBlrcLBBBBb13XBBBBna3VBBBBb1uRBBBBlq3XBBBBlq3ZBBBBlq15BBBBb1",
     "bTBBBBlqpVBBBBnavRBBBBlqlDBBBBlqcXBBBBlqbBBBBBlp1DBBBBnalRBBBBbx2VBBBBlpi5BBBBlosZBBBBlogJBB",
     "BBm3yZBBBBm3wZBBBBln3NBBBBbuxJBBBBm3wJBBBBbutXBBBBbucFBBBBbtxPBBBBlnhFBBBBm3qLBBBBlndFBBBBln",
     "c5BBBBlncPBBBBlnb5BBBBlnbPBBBBlm3DBBBBbrzP0w2TAiA"]
  foldRulesFrom ns.length 0 ns

/-- The characters that are in no name. -/
def strangerRuns : Runs :=
  .ofGaps 0 1 (numbers
    ["eIbCyICGEHBBBUBnHBbICbUCDBbZI5EGRWBgMBbSCb7CdLOb7CbTCPB6CBBLFbCHcPBfLBICCCWBHBBDECJCCCEIBECB",
     "FCZCDBGECCWBHBCBCBCCBBFECCDDBHEBBHRKDBJBDBWBHBCBFCKBDBDCBPECMHHBDBICCCWBHBCBFCJCCCDHDECBFCSK",
     "CBGDDBEDCBBBCDCDDDMEFDDBECBGBOVFNBDBXBQCJBDBEHCBDBCCECKHWBDBXBKBFCJBDBEHCFDBECKBDMNBDBbVBDBG",
     "EQC4BDBSDYBJBBCHDBEGBBBIGKCDMb6E7bHCBBBFBYBBBXCFBBBHBKCEbCcMBbGEbJBbGBPBNbHgSBBFBCmRBECHBBBE",
     "CbLBECbDBECHBBBECPBb5BECcHCbCD4Gc4CGCvKB6Dc7HWJYJUMNBDBCMdECKGKG4Gc7HbNFcKKbBBMEMEBDbMCFLbOE",
     "4GLDcCCcFB7CLGKGOCbQCMUcRBfQIcADPDcCFbNCLIbNFrYCGCbICGCIBBBBBBBbBCbXBPBOCGBTCDBJBOCUDBHbYFIC",
     "5BNDbEObDPeUEwGWLVbKUb2MCmWFbPBBFBCb4HCOYJHBHBHBHBHBHBHBHBeGbE4Bc7MhEbMcEBc4CdNFbNBdEBc4KbRB",
     "n6BEBQBbcbWDbZJlSUgEIhLUcADKGb4IcKIMGd4LbADcSBLEbDBbZJOCKCdNY6KGCGCGJHBHBcAEeGCKGmmMMXEbTjlW",
     "mGCdQbIHMFF4BFBBBCBCBvUbCbEBGHQBbDCTBEEFBePCBBgKDGCGCGCDDHBHRMB4BTBCBPCObEeDFDEbPDc6BNDBbRbQ",
     "eK7DbTP6EbGJbAFbNFbABbHEObMfICKGbGEbGEbKIbWLMBPBHBCBLBPBHBCDbWMkLJWKIYGBbMBJcJGCBBbOBCDBCXBc",
     "MIJbSTBCFbDD5F5bIb4EUCbUBCFIBDB7CDEKHJHcEbCbJEMJbYD7C5F4HEMHcUcNbZbVNbVHbQIKGbID7ICg6bBBbMBD",
     "CCQGIJbDbQIbMW4bI6UXJcSEbGJcCBFNZHKGbXBSIbJJdGBULSBbRcCHBBBEBPBLGb7FKGEBICCCWBHBCBFBKCCCDCBG",
     "BFHCHDFLKBBCBBbIBKBBCBBEBKBCIC7dCBFbAcMIKfQbYCbIbEcJLKGNTb6GKGU65CPEXgFcAdKcXMICBCIBCBbABCCM",
     "JKcKICbQCL5cMIcXNcNHKc4Ic6bEOKGJBbPBOK7DbCCWBOcNHBCBbODBBCBJIKGGBCBbHBCBGHKGbOEKiGZHRBbLD7cZ",
     "BPbUNbaXdMdVBFLgQc14dJNbfWQWKenFFtNhsBb6b1Ys7HbBBKEcVBKGbACGKcKKKBHBVFToMb6gSdBFZCZbOcPEb5HR",
     "cEFLHJigCbLbCdHdZjuBEBHBCBjVPB7DCBOEInGcq6dRFNDJHKCIelCiNDoQGXPRPbQCXJd4cAiGKbJCgOVcKeCUMUMc",
     "5JZePcZBcLBCCBCCCEBMBBBHBcFBECIBHB6BEBFBBDHBlKCjWCxMPFBPbgYbBGGhDHBRCHBCBFFcCbDBdWbPDOCKECkU",
     "bBRb6FBpObMhEbNEBgMbBBWIChOHBEBCBPBgRCQbLcQEKEC0FcIcQcBgOEB5BCBBCBBKBEBBBBGBEBBBBBBDBCBBCBBB",
     "BBBBBBBCBBCEBHBEBEBBBKBRFDBFBRbWCjAbOEdKMPCPBPBbHLfXb47NbOEJHCOGfEbcZDRDNDhIGMEBPMEb4IKGbKIb",
     "ACMECOJbJlOIOCNDLDb5BBEQCMEKHe5BdNbeJbroAbCe0CCgmOCijDPuWcwGsCbuGfoTFjnA0gkSiA"])

/-- The marks, which no label starts with. -/
def markRuns : Runs :=
  .ofGaps 0 1 (numbers
    ["zSdXjEIiWbPBBBCBCBJcELbSVQBdLIBGCCBEbFBbA7c7Lb6JJBYEBJBDBHbLFb6IbMb6bYDBSBPCC7EbZBBQJJCEYHbZ",
     "bCUCDBLEbZBBSSEULbZBBbDDE6Bb7SHP4FbZBB4KE5Db4BBbBFENRbZCBQJBKE5EcJ6MCcBBCLIIdIBCJLIcMC5BBBBB",
     "ECbTUBCFbTIBdKUXEEDBDCHDENMBBKExNDbbQNTD7OSObYbAJDfPCbEBd6bChFHbZbNbScZbRRbIJMDbANb4WbKXe7DB",
     "VEBGBCDgScFx7bWdlVEeUBdGbCsOGdPEbdpMEBKbCCcUCjCBDBEBXFEEcUCbU4SSNBbIIZYbDEbRObGBcHXDBIEbNDbU",
     "BBDCCFCBBbLFFMhQIBEwpUe6uWbHbbWeLdGBe7KbzPPbKIfPGs7MmTCcUDcKLbTEeCDbXPbLBCCKEbPLHObSDbGPPCbO",
     "BMDbSOIEBCdCMGBCcDdFRQFbYCBSHGFfIbXSXBcVUhZS5bGbSRdQNdLTiMPiFPBBBCeVQD6BKbKHBEIJBLbQQnPRcWdU",
     "bTVBJb6OlREJCBBbSPf3DBGeoFlcIFb7Hbe6BBcGcV6vxXCfgZcUrXFDWCHbAEe6Dcf7bZEbUIBOBWbhPiQiQbSHmPSb",
     "OEq6EbdCcWbEH"])

/-! ### Folding -/

/-- What a rule makes of a code point, if it is about it. -/
def FoldRule.targets? (n : Nat) : FoldRule → Option (List Nat)
  | .drop start count => if start ≤ n ∧ n < start + count then some [] else none
  | .shift start count step way =>
    if start ≤ n ∧ n < start + count * step ∧ (n - start) % step = 0 then some [(n + way).toNat]
    else none
  | .replace source targets => if n = source then some targets else none

/-- What becomes of a character, unless it is in no name. -/
def foldChar? (c : Char) : Option (List Char) :=
  if c.toNat < 0x80 then some [c.toLower]
  else if strangerRuns.valueAt 0 c.toNat = 1 then none
  else
    match foldRules.findSome? (FoldRule.targets? c.toNat) with
    | some targets => some (targets.map Char.ofNat)
    | none => some [c]

def isAscii (cs : List Char) : Bool := cs.all (·.toNat < 0x80)

/-- The form that a name counts in. -/
def fold? (name : List Char) : Option (List Char) :=
  if isAscii name then some (name.map Char.toLower)
  else (name.mapM foldChar?).map fun parts => compose parts.flatten

/-- Whether a text starts with a mark. -/
def startsWithMark (cs : List Char) : Bool := cs.head?.any fun c => markRuns.valueAt 0 c.toNat = 1

end MeshRoom.Url
