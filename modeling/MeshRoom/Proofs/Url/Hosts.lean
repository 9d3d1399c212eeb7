import MeshRoom.Url.Host
import Mathlib.Data.List.Basic
import Mathlib.Tactic.Lemma

/-!
# Hosts named in ASCII

A name in ASCII without percent signs is read as it is, in lower case. It is a domain, unless it
spells an address of four bytes, which no name does that starts with a letter.
-/

namespace MeshRoom

open Url

/-! ### Percent signs -/

namespace Percent

variable {cs : List Char}

lemma decodeBytes_of_notMem (h : '%' ∉ cs) : decodeBytes cs = cs.flatMap String.utf8EncodeChar := by
  induction cs with
  | nil => rfl
  | cons c cs ih =>
    simp only [List.mem_cons, not_or] at h
    rw [decodeBytes, ih h.2, List.flatMap_cons]
    rintro a b rest rfl
    exact absurd rfl h.1

/-- Without percent signs there is nothing to decode. -/
lemma decode?_of_notMem (h : '%' ∉ cs) : decode? cs = some cs := by
  have hbytes : (⟨(cs.flatMap String.utf8EncodeChar).toArray⟩ : ByteArray) = cs.utf8Encode := by
    ext1
    simp [List.utf8Encode]
  have hvalid : cs.utf8Encode.IsValidUTF8 := ⟨cs, rfl⟩
  rw [decode?, decodeBytes_of_notMem h, hbytes, String.fromUTF8?, dif_pos hvalid]
  exact congrArg some String.toList_ofList

end Percent

/-! ### Names -/

namespace Url

variable {name : List Char}

lemma cut_ne_nil (sep : Char) (cs : List Char) : cut sep cs ≠ [] := by
  cases cs with
  | nil => simp [cut]
  | cons c cs =>
    rw [cut]
    split
    · simp
    · split <;> simp

/-- The parts of a text with what they were cut at are the text. -/
lemma flatten_cut (sep : Char) (cs : List Char) :
    ((cut sep cs).intersperse [sep]).flatten = cs := by
  induction cs with
  | nil => rfl
  | cons c cs ih =>
    rw [cut]
    split
    case h_1 hnil => exact absurd hnil (cut_ne_nil sep cs)
    case h_2 part parts hparts =>
      rw [hparts] at ih
      split
      case isTrue hsep =>
        rw [List.intersperse_cons_cons, hsep]
        simpa using ih
      case isFalse =>
        cases parts <;> simpa using ih

/-- A label in ASCII is written as it is. -/
lemma written_of_ofFolded? {label : List Char} (hascii : isAscii label = true) {l : Label}
    (h : Label.ofFolded? label = some l) : l.written = label := by
  rw [Label.ofFolded?, if_pos hascii, if_pos hascii] at h
  split at h
  · obtain ⟨spelled, -, rfl⟩ := Option.map_eq_some_iff.1 h
    rfl
  · cases h
    rfl

lemma mem_of_mem_cut {sep c : Char} {part cs : List Char} (hpart : part ∈ cut sep cs)
    (hc : c ∈ part) : c ∈ cs := by
  induction cs generalizing part with
  | nil =>
    rw [cut, List.mem_singleton] at hpart
    rw [hpart] at hc
    exact hc
  | cons d cs ih =>
    rw [cut] at hpart
    split at hpart
    case h_1 hnil => exact absurd hnil (cut_ne_nil sep cs)
    case h_2 first parts hparts =>
      rw [hparts] at ih
      split at hpart
      · rcases List.mem_cons.1 hpart with rfl | hpart
        · cases hc
        · exact List.mem_cons_of_mem d (ih hpart hc)
      · rcases List.mem_cons.1 hpart with rfl | hpart
        · rcases List.mem_cons.1 hc with rfl | hc
          · exact List.mem_cons_self
          · exact List.mem_cons_of_mem d (ih List.mem_cons_self hc)
        · exact List.mem_cons_of_mem d (ih (List.mem_cons_of_mem first hpart) hc)

lemma written_of_mapM {parts : List (List Char)} (hascii : ∀ part ∈ parts, isAscii part = true)
    {labels : List Label} (h : parts.mapM Label.ofFolded? = some labels) :
    labels.map Label.written = parts := by
  induction parts generalizing labels with
  | nil =>
    cases h
    rfl
  | cons part parts ih =>
    rw [List.mapM_cons] at h
    obtain ⟨label, hlabel, h⟩ := Option.bind_eq_some_iff.1 h
    obtain ⟨others, hothers, h⟩ := Option.bind_eq_some_iff.1 h
    cases h
    rw [List.map_cons, written_of_ofFolded? (hascii part List.mem_cons_self) hlabel,
      ih (fun part hpart => hascii part (List.mem_cons_of_mem _ hpart)) hothers]

lemma isAscii_map_toLower (h : isAscii name = true) : isAscii (name.map Char.toLower) = true := by
  simp only [isAscii, List.all_eq_true, decide_eq_true_eq, List.mem_map] at h ⊢
  rintro _ ⟨c, hc, rfl⟩
  by_cases hupper : c.val ≥ 'A'.val ∧ c.val ≤ 'Z'.val
  · have hletter : c.toNat ≤ 'Z'.toNat := hupper.2
    calc c.toLower.toNat = (c.val + ('a'.val - 'A'.val)).toNat :=
          congrArg Char.toNat (dif_pos hupper)
      _ = c.toNat + 32 := by
        rw [UInt32.toNat_add]
        exact Nat.mod_eq_of_lt (Nat.lt_of_le_of_lt (Nat.add_le_add_right hletter _) (by decide))
      _ ≤ 'Z'.toNat + 32 := Nat.add_le_add_right hletter 32
      _ < 0x80 := by decide
  · have hlower : c.toLower = c := dif_neg hupper
    rw [hlower]
    exact h c hc

/-- A name in ASCII is put into lower case and nothing else. -/
lemma asciiName?_of_isAscii (h : isAscii name = true) {written : List Char}
    (hname : asciiName? name = some written) : written = name.map Char.toLower := by
  rw [asciiName?, fold?, if_pos h] at hname
  obtain ⟨_, hfolded, hname⟩ := Option.bind_eq_some_iff.1 hname
  cases hfolded
  obtain ⟨labels, hlabels, hname⟩ := Option.bind_eq_some_iff.1 hname
  dsimp only at hname
  split at hname
  · cases hname
  · have hascii : ∀ part ∈ cut '.' (name.map Char.toLower), isAscii part = true := by
      intro part hpart
      have hall := List.all_eq_true.1 (isAscii_map_toLower h)
      exact List.all_eq_true.2 fun c hc => hall c (mem_of_mem_cut hpart hc)
    rw [written_of_mapM hascii hlabels, flatten_cut] at hname
    exact (Option.some.inj hname).symm

end Url

/-! ### Hosts -/

namespace Host

variable {cs : List Char} {c : Char}

lemma ipv4Part?_of_hexValue? (h : Text.hexValue? c = none) (digits : List Char) :
    ipv4Part? (c :: digits) = none := by
  have hzero : c ≠ '0' := by
    rintro rfl
    cases h
  rw [ipv4Part?]
  · simp [number?, h]
  all_goals
    intros
    simp_all

/-- A name that starts with no digit is no address. -/
lemma ipv4?_of_hexValue? (h : Text.hexValue? c = none) (hdot : c ≠ '.') (cs : List Char) :
    ipv4? (c :: cs) = none := by
  obtain ⟨first, parts, hcut⟩ : ∃ first parts, cut '.' (c :: cs) = (c :: first) :: parts := by
    rw [cut]
    split
    · exact ⟨[], [], rfl⟩
    · rw [if_neg hdot]
      exact ⟨_, _, rfl⟩
  obtain ⟨parts', hparts⟩ : ∃ parts', dottedParts (c :: cs) = (c :: first) :: parts' := by
    rw [dottedParts, hcut]
    split
    case isTrue hmany =>
      cases parts with
      | nil => simp at hmany
      | cons part parts => exact ⟨_, rfl⟩
    case isFalse => exact ⟨parts, rfl⟩
  rw [ipv4?, hparts, List.mapM_cons, ipv4Part?_of_hexValue? h]
  rfl

/-- A host in ASCII without percent signs is a domain as it is, in lower case, or an address. -/
lemma parse?_of_isAscii (hascii : isAscii cs = true) (hpercent : '%' ∉ cs)
    (hbracket : cs.head? ≠ some '[') {h : Host} (hparse : parse? cs = some h) :
    h = .domain (String.ofList (cs.map Char.toLower)) ∨
      ∃ address, ipv4? (cs.map Char.toLower) = some address ∧ h = .ipv4 address := by
  rw [parse?] at hparse
  · rw [Percent.decode?_of_notMem hpercent] at hparse
    obtain ⟨_, hdecoded, hparse⟩ := Option.bind_eq_some_iff.1 hparse
    cases hdecoded
    obtain ⟨name, hname, hparse⟩ := Option.bind_eq_some_iff.1 hparse
    rw [asciiName?_of_isAscii hascii hname] at hparse
    split at hparse
    · cases hparse
    · split at hparse
      · obtain ⟨address, haddress, rfl⟩ := Option.map_eq_some_iff.1 hparse
        exact .inr ⟨address, haddress, rfl⟩
      · exact .inl (Option.some.inj hparse).symm
  · rintro rest rfl
    exact hbracket rfl

end Host

end MeshRoom
