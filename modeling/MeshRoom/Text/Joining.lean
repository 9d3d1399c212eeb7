import MeshRoom.Text.Composition

/-!
# Joiners

Two characters without an image of their own say whether the letters beside them are joined. They
stand behind the sign that takes the vowel from a consonant; the one that keeps letters apart may
also stand between letters that would join otherwise.
-/

namespace MeshRoom.Text

/-- How a letter joins those beside it: not at all, the one behind it, the one before it, both, or
so as if it were not there. -/
inductive Joining where
  | apart
  | behind
  | before
  | both
  | transparent
deriving DecidableEq, Repr

/-- Joining along the code points. -/
def joiningRuns : Runs :=
  .ofNumbers 0 (numbers
    ["zSEdXAjEEIAiWEbPABEBABECABECABEJAcEELAFDBABCEDBCBDBCBDFCEDVCBDCEVAODCEBCDAFDPCSDbICBDCCJDBCB",
     "DBCBDCCCABCBEIABEGACECABEECCAKDDACDBAQCBEBDDCFDECBDJCBDBCBDBCBDCCBE7CBDLCDDPCCDECBDBCCDDCCDG",
     "AbIELAZDbDEJAGDDEBAYEEABEJABEDABEHAQCBDFCCDBCBDKCBDBCDEFACDBABDEABCBDBC4DEACDFCBDIEJDKCDABCB",
     "DCCCDGCBDPABEb5AbZEBABEBAEEIAEEBADEPACECA7EBAb6EBAEEGAGEBAUEEAYEFAb5ECADE5AUECADEBALECAb5EBA",
     "EEIAEEDASEEAUEIAb6EBACEBABEGAGEKALEEA6EBAcBEBAMEDAbSEBADEBAbZEBABEDAFESAKEEA5EBAb6EBACEBAGEB",
     "AFEJANEEA4ECAb5ECAEEFAHEBAUEEA5EBAcMEFADEGAc7EBACELAIEIAdIEBACEJALEIAcMECA5EBABEBABEBAbZEOAB",
     "EFABECAFEbTAIEBAdMEEABEGABECACECAZECAEEDAQEEANEBACECAGEBAPEBAxNEDAbbQEDA7ECAbAEOASEOAbZEHAIE",
     "BACELAJEDAbJDBACDGAQDdGAFECDbEEBDGAdWEDAEECAJEBAGEHAhFECACEDAb4EBABEJABEBACEIAGENAbSEcYAbSEB",
     "ABEFABEBAFEBAbKEJAMECAbCEEACECABEDAb4EBABECADEBABEDAb6EIACEFAe7EDABENABEHAEEBAGEBADECAgSEcFA",
     "rODDAgMEbWAdlVEEAeUEBAdGEbCAsOEEAdREEAbdpMEEABEKAbCECAcUECAjCEBADEBAEEBAZECAFEEAQDbUBBAcVEKA",
     "SESANEBAbIEIAZELAbQEDAbSEBACEEACECAbJEBAcHEGACECACELADEBAIEBAbREBAbVEBABEDACECAFECABEBAbMECA",
     "IELAhSEBACEBAEEDAwpUEe6AuWEbHAbbWEeLAdGEBAe7EKAbzPEPAbKEIAeIDFCBABCBABCCACBBCFDEBBDFCBDDCBAC",
     "CBEGDECBAeYDBCBDBCDDDCBDCCBDBCCDBCIAQCEDCAlHBBDbDCBDBEMAb5EFAkRECAVCBDCABDKAbMEGAbSDDCBDRABE",
     "LDDCBA5DECCDMEEAbMDBABDCCDABDBCCDCCBDCABDBCCDBAECBDBBVAbDEBAbYEPAbLEBACECAKEDAbTEEACECAHEOAb",
     "SEDAbGEFABEJAcBEBAMECAbWEJAKEEACEBAdFEDACEBABECAGEBACEcDAdFEBADENAQECAb5ECADEBAbHE4Ab7EHAMEB",
     "ABEBABEBAOEbBAb4EIACEDABEBAXEBAcYEGABEBAEECABECAh6EGAEECABECA5EbGAbVEIACEBABECAdQEBABEBACEGA",
     "BEBAdLEBABEBACEEABEJAiPEJABECAiQECABEBAEEBAeYEIAEEBAbCEKAbKEGACEEAIEJABEGACEDAbQENABECAgSEBA",
     "BEDABEBAgVEOABEBAcWEXABEHABECABEcPAbTEVABEJAcEEDACEBABEBAlRECALECAbWEIACEBABEBAXEc4AfzOEBAGE",
     "ZAmvYEMADEDAcxGEFAb7EHAbe6EBAcDEEAcVEMAvyJECAfgZEcUArZEDAREIACEHAbAEEAe6EDAcf7EbZAEEbUAIEBAO",
     "EBAWEbhPAiQEiQAbSEHAmPESAbOEEAq6EEAiOECAiDEBACEBAHECAFEJApQEcWDbEEMA"])

/-- How a letter joins those beside it. -/
def joining (c : Char) : Joining :=
  match joiningRuns.valueAt 0 c.toNat with
  | 0 => .apart
  | 1 => .behind
  | 2 => .before
  | 3 => .both
  | _ => .transparent

/-- What keeps letters apart. -/
def separator : Char := '\u200c'

/-- What joins letters. -/
def joiner : Char := '\u200d'

/-- Whether the first letter that is not transparent joins in one of some ways. -/
def joinsIn (ways : List Joining) (cs : List Char) : Bool :=
  match cs.find? fun c => joining c ≠ .transparent with
  | some c => ways.contains (joining c)
  | none => false

/-- Whether a joiner may stand between what is before it, the nearest first, and what is behind. -/
def joinerFits (c : Char) (before behind : List Char) : Bool :=
  (before.head?.any fun d => classOf d.toNat = viramaClass) ||
    (c = separator && joinsIn [.behind, .both] before && joinsIn [.before, .both] behind)

/-- Whether every joiner of a text may stand where it does, what is before being given, the nearest
first. -/
def joinersFit (before : List Char) : List Char → Bool
  | [] => true
  | c :: rest =>
    ((c ≠ separator && c ≠ joiner) || joinerFits c before rest) && joinersFit (c :: before) rest

end MeshRoom.Text
