import MeshRoom.Text.Runs

/-!
# Directions of writing

Every character is written from left to right, from right to left, or as what stands beside it. A
label has one direction: it starts with a letter of that direction, ends with one or with a figure,
and holds nothing of the other.
-/

namespace MeshRoom.Text

/-- How a character stands in a line: letters of either direction, figures of either, marks, and
what has no direction of its own. -/
inductive Direction where
  | left
  | right
  | rightFigure
  | figure
  | mark
  | neutral
deriving DecidableEq, Repr

/-- Directions along the code points. -/
def directionRuns : Runs :=
  .ofNumbers 0 (numbers
    ["AFbSDKFbJA4FdKAYFBAo7FCAHFOACF6ABFREdXAEFCAeHFCAeTEIAiPFHEbPBBEBBBECBBECBBEJBbYFCBBFCBBFBBBF",
     "CELBbSEVCKFBCCBDEBBdLEIFBEGBCECFBEEBCDKBXEBBbAE7Bc7ELBb6EJBCFEBDEBBYEEBBEJBBEDBBEHBbLEFBb6EI",
     "BbMEb5AbZEBABEBAEEIAEEBADEPACECA7EBAb6EBAEEGAGEBAUEEAMFCAHFBACEFAb5ECADE5AUECADEBALECAb5EBAE",
     "EIAEEDASEEALFIABEIAb6EBACEBABEGAGEKALEEA6EBAcBEBAMEDAbFFNEBADEBAbZEBABEDAFESAKEEASFHACEBAb6E",
     "BAPEJANEEA4ECAb5ECAEEFAHEBAUEEA5EBAcMEFADEGAc7EBACELFBAHEIAdIEBACEJALEIAcMECA5EBABEBABEBFEAb",
     "VEOABEFABECAFEbTAIEBAdMEEABEGABECACECAZECAEEDAQEEANEBACECAGEBAPEBAxNEDAbSFQAdGFBAwGFFAdYEDA7",
     "ECAbAEOASEOAbZEHAIEBACELAHFBABEDAQFbCAd5ECAbEEBAd6EDAEECAJEBAGEHFGAfCFbEAXECACEDAb4EBABEJABE",
     "BACEIAGENAbSEcYAbSEBABEFABEBAFEBAbKEJAMECAbCEEACECABEDAb4EBABECADEBABEDAb6EIACEFAe7EDABENABE",
     "HAEEBAGEBADECAgSEcFArNFgQEbWFcOAcAFoIAcJF4ABF0KABFlJAiQF1GAgBFHADEEAGFHAeHEBAdGEbCFrHADFZAJE",
     "EACFBAGFEACFEAc6EEADFBAdAFBAgQFbSAh1KFcEAysUFcEAkRFDAdFEEFBEKFDA7ECAcUECAOFbFAdLFBAeBEBADEBA",
     "EEBAZECABFEEEAIFIAbWFMAcIEKASESANEBAbIEIAZELAbQEDAbSEBACEEACECAbJEBAcHEGACECACELADEBAIEBAbRE",
     "BAbVEBABEDACECAFECABEBAbMECAIELAdPFc4AbHEBACEBAEEDAwpUEe6BnGFhQEbHFbQBnHAiRFBAcCFcRADFcEAbPE",
     "eLAdGEBDbBAd6EKAbiMBjRFBBhPEPBbKEIBfPEGBcSFHBqEEMClGBbNECBcUEDBcKELBbTEEBeCABEBAbYEPALFUAKEB",
     "ACECAKEDAbTEEACECAHEOAbSEDAbGEFABEJAcBEBAMECAbWEJAKEEACEBAdFEDACEBABECAGEBACEcDAdFEBADENAQEC",
     "Ab5ECADEBAbHEfEAb4EIACEDABEBAXEBAcYEGABEBAEECABECAh6EGAEECABECA5EbGAbVEIACEBABECAbBFbCAbNEBA",
     "BEBACEGABEBAdLEDACEEABEJAiPEJABECAiQECABEBAEEBAeYEIAEEBAbCEGACECAbKEGACEEAIEJABEGACEDAbQENAB",
     "ECAnQEOAcYEXABEHABECABEcPAbTEVABEJAcEEDACEBABEBAlRECALECAbWEIACEBABEBAe4FbMAfwZEBAGEeoFAlcIE",
     "FAb7EHAbe6EBAcDEEAcTFBABEMAvyJECAfgZEcUArZEDAREIACEHAbAEEAb7Fc7EDFeDAcEFdGAb0QEbZAEEbUAIEBAO",
     "EBAWEbhPAiQEiQAbSEHAmPESAbOEEAPFpPA6EEA0EBg6EcWBbEEHBbsFFuIA7FDAcBFb5AeCFd0IA"])

/-- The direction of a character. -/
def direction (c : Char) : Direction :=
  match directionRuns.valueAt 0 c.toNat with
  | 0 => .left
  | 1 => .right
  | 2 => .rightFigure
  | 3 => .figure
  | 4 => .mark
  | _ => .neutral

/-- Whether a character makes the labels beside it mind their direction. -/
def asksForDirection (c : Char) : Bool :=
  0x80 ≤ c.toNat && [.right, .rightFigure].contains (direction c)

/-- Whether the last direction that is no mark is among some. -/
def endsIn (allowed : List Direction) (ds : List Direction) : Bool :=
  match (ds.filter (· ≠ .mark)).getLast? with
  | some d => allowed.contains d
  | none => false

/-- Whether a label keeps to one direction. -/
def keepsDirection (label : List Char) : Bool :=
  let ds := label.map direction
  match ds with
  | [] => true
  | .left :: _ =>
    ds.all [.left, .figure, .mark, .neutral].contains && endsIn [.left, .figure] ds
  | .right :: _ =>
    ds.all (· ≠ .left) && endsIn [.right, .rightFigure, .figure] ds &&
      !(ds.contains .figure && ds.contains .rightFigure)
  | _ => false

end MeshRoom.Text
