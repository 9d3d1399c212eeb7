import MeshRoom.Text.Runs

/-!
# Composed text

Text with accents can be spelled in several ways. In the composed spelling every letter takes up the
marks it has a code point with, and the marks left over follow it in the order of their classes.
-/

namespace MeshRoom.Text

/-! ### Tables -/

/-- Combining classes. Zero is that of all characters but marks. -/
def classRuns : Runs :=
  .ofNumbers 0 (numbers
    ["zShUVhWBhKEhWBhGBhKFgWChKEgWChKLBFhKEhUKhKDhUDhKDhUDhKEhUBhWBhKChUBhXBhYChXBhYChXBhUOAjEhUFA",
     "iZhKBhUEhKBhUDhMBhKBhUGhKGhUChKBhUChMBhSBhUBKBLBMBNBOBPBQBRBSBTCUBVBWBABXBABYBZBABhUBhKBABSJ",
     "AcEhUIbABbBBbCBAbS5B6B7BbABbBBbCBbDBbEBhUChKChUFhKBhUChKBAQbFBAdLhUIABhUEhKBhUBAChUCABhKBhUC",
     "hKBAbFbGBAbAhUBhKBhUChKBhUChKDhUBhKChUBhKBhUDhKBhUBhKBhUBhKBhUBhKBhUEAfIhUHhKBhUBAJhKBAYhUEA",
     "BhUJABhUDABhUHAbLhKFAb6hUBhKDhUEAbMhUFhKFhUPhKBhUChKBhUChKBhUDhKD5B6B7BhUDhKBhUChKChUFAcAHBA",
     "QJBADhUBhKBhUCAdNHBAQJBAbShUDAb7HCAPJEAdRHBAQJDAdSHBAQJIAeAJDAdSHBAQJIcYBdBCAdKHBAQJIAdMJCAQ",
     "JBAeEJFAdPdNCJFAJdREAdSd6CJBANeCEAcQhKCA5hKBABhKBABhGBAbZeJBeKCeMGeKEACeKChUCJBABhUCAcChKBAd",
     "WHBABJCAcWhKBAx7hUDAbbSJLAVJBAfHJBAKhUDAgVhSBAeXhMBhUBhKFAhFhUBhKBAcLJBAUhUKhKBAbShUFhKGhUCh",
     "KBABhKChUChKChUFhKBhUbXAbWHBAPJBAbIhUBhKBhUHAbYJCAb6HBALJKAb7HEAe7hUDABBBhKFhUChKEhUBABBHAEh",
     "KBAGhUBADhUCAgShUChKBhUHhKBhUChYBhEBhKBgWBhUbHhWBhSChKBhIBhUBhXBhKBhUBhKCAx7hUCBChUEBDhUCAEh",
     "UBADBChUBhKBhUBBChKEhUUAdlVhUEAeUJBAdGhUbCAsOhIBhSBhWBhMBhOCAdPIEAbdpMhUBAEhUKAbChUCAcUhUCAj",
     "GJBAbHJEAe6JBA5hUSAb5hKDAbHJMAcYHBAMJBAh7hUBABhUChKBAChUCAFhUCABhUBAbWJLAh4JDAwpU4e6AuWhUHhK",
     "HhUXAbbWhKeLAdGhKBAe7hUKAbz5hKBABhUBAbKhUBBBhKFJBAfPhUBhKFAs7hUMAmThUCAcUhKDAcKhKChUDhKBhUBh",
     "KEAbThUBhKBhUBhKBAgMJBAbLJBAOJBAb5JBHBAcJhUDAbSJDAcBHBAcQJBAJHBAdQJBHBAf6HBJGAcPHCAQJDAWhUfE",
     "AcGJBADHBAXhUBAdJJBHBAiLJBHBAeGJBAd6JBHBAdZJFAiZJBHBAiSJCAEHBAfGJBAcXJBASJJAcNJBAoBJBAiSHBAB",
     "JCAcVJBAoFJCAvpXBFAb7hUHAbkJGQAvxYBBAf1IhGCBDADhQBhGNhKIAChUFhKCAbAhUEAe6hUDAd1FhUiQAbShUHAm",
     "PhUSAbOhUEAq6hWChKBhUBAbdChKcWAbEhUGHBA"])

/-- The combining class of a code point. -/
def classOf (n : Nat) : Nat := classRuns.valueAt 0 n

/-- The class of the sign that takes the vowel from a consonant. -/
def viramaClass : Nat := 9

/-- A character that is spelled by two others. -/
structure Composite where
  whole : Nat
  first : Nat
  second : Nat
deriving DecidableEq, Repr

/-- Composites, from the distances between them, the way from each to its first part, and its
second part. -/
def compositesFrom (start : Nat) : List Nat → List Composite
  | gap :: way :: second :: rest =>
    let whole := start + gap
    { whole, first := (whole + signed way).toNat, second } :: compositesFrom whole rest
  | _ => []

/-- The composites other than syllables of Hangul. -/
def composites : List Composite :=
  compositesFrom 0 (numbers
    ["hOiNzSBiPzTBiRzUBiTzVBiVz4BiXz6CiX05BiVzSBiXzTBiZzUBi5z4BiVzSBiXzTBiZzUBi5z4CiVzVBiVzSBiXzTB",
     "iZzUBi5zVBi7z4DiXzSBiZzTBi5zUBi7z4BiXzTCi5z4CkTzWCkXzYCk506Ck5zTClBzUClFzZClJ0AClL0AElRzWClV",
     "zYClZzZCl706CmD0ACmDzUCmHzYCmLzZCmP05CmRzUEmXzVCm5zWCnBzYCnF06GnPzUCnR05DnVzTCnZ05Cn70AGoHzT",
     "CoL05CoP0AFoXzWCo5zYCpBz7EpDzTCpH05CpL0ACpNzTCpRzUCpV05CpZ0ACp505CqB0AEqHzVCqLzWCqPzYCqTz6Cq",
     "Xz7Cq506Cq5zUCq5zUDrBzTCrFzZCrJ0AbFuL0PPu70PbAyJ0ACx50ACxT0ACxL0ACoPzWCoTzTCoX0ACo5zSDqVzWCe",
     "UzWCqZzWEzR0ACzN0ACzJ06CDzWCk40ABz70AF0PzTE0JzSCsPzTCsRzTCrPzTC1V0DC1Z0FC1V0DC1Z0FC1V0DC1Z0F",
     "C1R0DC1V0FC1T0DC1X0FC1V0DC1Z0FC2D04C2F04E3H0AIbaHzZCbaD05CuRzWCuXzWC3ZzZCDzWC3NzWlTd4zT6KzTB",
     "QzTBSzTBUzTBbYzT4bDz4BLz4BZzTBPzTBJzTdRBzYXbXzSBbZz4CcDzTEBz4FcHzTBcNzSBbXzYZD0DcPjJzYPkVzYC",
     "kZz4EkXzYEDz4ClDz4ClFz4ElLzWClPz4ClHz4EDz4CkTz4ClNzWClRz4ClVz7ClRz4ElRz4j5Kbx7BIbyABcMbyABEb",
     "yBBcMbyAfEbMbyACBbyARBbyAt6BcsYIBcsYDBcsYfBHcxEBJcx7mUBdgWDHdf6BJdgXcMDdlBbYHdkGBHdkGBLdlBeE",
     "DdpIeABdtPHBdtPBDdtQCHds4BBdtPeHHdxABHdxABLdxZeWBd1UCFd1ZBBd1UBJd2LtOBesCdcYBhwFCBhwFCBhwFCB",
     "hwFCBhwFEBhwFbLBhwFCBhwFDDhwFBDhwFCBhwFxMqzR0ZCqzTzZCqzX0XCqz51HCqrFzTCq0BzZCq0F0XCq0J1HCq0N",
     "05Cq0R1DCqpBzSCqpFzTCq051DCq1B1GCp1BzYCq1HzZCq1JzWCq1LzZCq1P0XCq1Tz4Cq1X05Cq151ECq171GCqtFzT",
     "Cq2DzTCq2H0XCq2L1HCq2N0XCDzWCq2V1HCq2Z1DCq25zTCq3BzZCq3F0XCq3HzZCq3L0XCq3P1HCq3T1DCquXzTCqu5",
     "z4CqpFzSCqpJzTCraFzTCraJzZCraJzZCraN0XCDzWCraV1HCraXzZCra50XCqpRzZCqpJzZCLzZCrbLzZCrbP0XCrbT",
     "1HCrbX1DCrbZ0YCrb71GCrcD1DCqp7zTCqp7z4CrcNzVCrcR0XCrcTzSCrcXzTCrc5z4CrdBzZCrdF0XCrdHzZCrdLz4",
     "CrdNzZCrdPzUCrdT0XCrdX1HBrfB1HBreJz4BreFz6BreDz6IrgH0XCrgLz5Cq15zTCq2BzSCq2Fz5Cq2JzVCXzUCq0L",
     "zTCq0PzSCq0Tz5Cq0XzVCbNzYCrhR0XCrhVz5CrhZzVCq3DzTCq3HzSCq3Lz5Cq3PzVC5zUCriLz5CriP0XCriH0XCri",
     "Lz5Cq3TzTCq3XzSCq35z5CraBzVCXzUCqsXzTCqs5zSCqtBz5CqtFzVCqtJ0XCrjN0XCrjRz5CqsVzTCqsZzSCqs7z5C",
     "qtDzVCqtH0XCrkDzSCrkH0XCrkLz5CrkPzVHpqB0HBpqD0IBDzSBDzSBHzTBHzTBL1YBL1YJpqZ0HBpq50IBDzSBDzSB",
     "HzTBHzTLprX0HBprZ0IBDzSBDzSBHzTBHzTBL1YBL1YJpsV0HBpsX0IBDzSBDzSBHzTBHzTBL1YBL1YJptL0HBptN0IB",
     "DzSBDzSBHzTBHzTLpuB0HBpuD0IBDzSBDzSBHzTBHzTBL1YBL1YJpuZ0HBpu50IBDzSBDzSBHzTBHzTBL1YBL1YJpxPz",
     "SCpxLzSCpxLzSCpxLzSCpxDzSCpwZzSCpwVzSbWp1XzYBp1ZzWFp2F1YQp2Z1YKp3LzYBp3NzWBp2LzSEp3X1YBp2V1Y",
     "Jp3TzYBp3VzWBp3LzSCqaF0HBqaH0IBqaB1YBp3V1YPqaZ1YoAT1OBR1OTbV1ObBG1OBM1OBG1ObXB1OFB1ODB1OYB1O",
     "CB1O5J1ODB1ODD1OCB1OXtmR1OCB1OLcD1OBtnR1OBtnP1OBX1OBX1ODD1OBD1ODD1OBD1OHL1OBL1ODD1OBD1ODD1OB",
     "D1ObFT1OBJ1OBJ1OBH1ObTgT1OBgT1OBfL1OBfL1OHdV1OBdV1OBdV1OBdV1OdyDBnyVCBnyVCBnyVCBnyVCBnyVCBny",
     "VCBnyVCBnyVCBnyVCBnyVCBnyVCBnyVDBnyVCBnyVCBnyVHBnyVBDnyWCBnyVBDnyWCBnyVBDnyWCBnyVBDnyWCBnyVB",
     "DnyWXfFnyVKBnyVOBnyVCBnyVCBnyVCBnyVCBnyVCBnyVCBnyVCBnyVCBnyVCBnyVCBnyVCBnyVDBnyVCBnyVCBnyVHB",
     "nyVBDnyWCBnyVBDnyWCBnyVBDnyWCBnyVBDnyWCBnyVBDnyWXfFnyVDPnyVBPnyVBPnyVBPnyVEBnyVcdsEBcrrICBcr",
     "rIPLcrrIeLGcru5BGcru5sAHcsiWBJcsjRmHDcsvMBFcsvCCJcsvPiMDcs3RBDcs3R3XFct3O"])

/-! ### Hangul -/

/-- The parts of a syllable: a syllable without a final consonant and that consonant, or a leading
consonant and a vowel. -/
def syllableParts? (n : Nat) : Option (Nat × Nat) :=
  if n < 0xAC00 ∨ 0xD7A3 < n then none
  else
    let i := n - 0xAC00
    if i % 28 = 0 then some (0x1100 + i / 588, 0x1161 + i % 588 / 28)
    else some (n - i % 28, 0x11A7 + i % 28)

/-- The syllable of two parts. -/
def syllable? (a b : Nat) : Option Nat :=
  if 0x1100 ≤ a ∧ a < 0x1113 ∧ 0x1161 ≤ b ∧ b < 0x1176 then
    some (0xAC00 + (a - 0x1100) * 588 + (b - 0x1161) * 28)
  else if 0xAC00 ≤ a ∧ a ≤ 0xD7A3 ∧ (a - 0xAC00) % 28 = 0 ∧ 0x11A8 ≤ b ∧ b < 0x11C3 then
    some (a + (b - 0x11A7))
  else none

/-! ### Spelling out -/

/-- The two parts of a character that has such. -/
def parts? (n : Nat) : Option (Nat × Nat) :=
  (syllableParts? n).or
    ((composites.find? fun p => p.whole = n).map fun p => (p.first, p.second))

/-- The character of two parts, if there is one. -/
def whole? (a b : Nat) : Option Nat :=
  (syllable? a b).or ((composites.find? fun p => p.first = a && p.second = b).map (·.whole))

/-- A character spelled out, its first part in up to so many steps. -/
def spellOut : Nat → Nat → List Nat
  | 0, n => [n]
  | depth + 1, n =>
    match parts? n with
    | some (a, b) => spellOut depth a ++ [b]
    | none => [n]

/-- How often the first part of a character has parts itself, at most. -/
def spellingDepth : Nat := 4

/-! ### Order and composition -/

/-- Put a code point before an ordered text: a mark passes the marks of lower classes. -/
def insertMark (n : Nat) : List Nat → List Nat
  | [] => [n]
  | m :: rest =>
    if 0 < classOf m ∧ classOf m < classOf n then m :: insertMark n rest else n :: m :: rest

/-- A text with the marks on each letter in the order of their classes. -/
def orderMarks (ns : List Nat) : List Nat := ns.foldr insertMark []

/-- Compose an ordered text, behind a letter and the marks that it has not taken up. A mark is out
of reach behind one of its own class, and a letter behind any mark. -/
def composeAfter (letter : Nat) (marks : List Nat) : List Nat → List Nat
  | [] => letter :: marks
  | n :: rest =>
    let reached := marks.getLast?.all fun m => classOf m < classOf n
    match if reached then whole? letter n else none with
    | some whole => composeAfter whole marks rest
    | none =>
      if classOf n = 0 then letter :: marks ++ composeAfter n [] rest
      else composeAfter letter (marks ++ [n]) rest

/-- Compose an ordered text. Marks at its start belong to no letter. -/
def composeOrdered : List Nat → List Nat
  | [] => []
  | n :: rest => if classOf n = 0 then composeAfter n [] rest else n :: composeOrdered rest

/-- The composed spelling of a text. -/
def compose (cs : List Char) : List Char :=
  let spelled := cs.flatMap fun c => spellOut spellingDepth c.toNat
  (composeOrdered (orderMarks spelled)).map Char.ofNat

end MeshRoom.Text
