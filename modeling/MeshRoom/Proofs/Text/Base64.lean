import MeshRoom.Text.Base64
import Mathlib.Tactic.Lemma

/-!
# Base64 is canonical

Every list of bytes is written as exactly one text, and that text alone is read as those bytes.
-/

namespace MeshRoom.Base64

/-! ### Digits -/

lemma value?_digit {n : Nat} (h : n < 64) : value? (digit n) = some n := by
  decide +revert

lemma digit_ne_pad {n : Nat} (h : n < 64) : digit n ≠ '=' := by
  decide +revert

/-- Only the digit of a value has that value. -/
lemma eq_digit_of_value? {c : Char} {n : Nat} (h : value? c = some n) : n < 64 ∧ c = digit n := by
  have hc : Char.ofNat c.toNat = c := Char.ofNat_toNat c
  unfold value? at h
  split at h
  case isTrue hrange =>
    have hlow : 65 ≤ c.toNat := hrange.1
    have hhigh : c.toNat ≤ 90 := hrange.2
    cases h
    refine ⟨by omega, ?_⟩
    rw [digit, if_pos (by omega), Nat.sub_add_cancel hlow, hc]
  split at h
  case isTrue hrange =>
    have hlow : 97 ≤ c.toNat := hrange.1
    have hhigh : c.toNat ≤ 122 := hrange.2
    cases h
    refine ⟨by omega, ?_⟩
    rw [digit, if_neg (by omega), if_pos (by omega), Nat.sub_add_cancel (by omega), hc]
  split at h
  case isTrue hrange =>
    have hlow : 48 ≤ c.toNat := hrange.1
    have hhigh : c.toNat ≤ 57 := hrange.2
    cases h
    refine ⟨by omega, ?_⟩
    rw [digit, if_neg (by omega), if_neg (by omega), if_pos (by omega), Nat.add_sub_cancel, hc]
  split at h
  case isTrue hplus =>
    cases h
    exact ⟨by decide, hplus⟩
  split at h
  case isTrue hslash =>
    cases h
    exact ⟨by decide, hslash⟩
  case isFalse => cases h

/-! ### Groups -/

lemma toNat_join {high low : Nat} (h : high + low < 256) : (join high low).toNat = high + low := by
  rw [join, UInt8.toNat_ofNat', Nat.mod_eq_of_lt h]

lemma join_eq {a : UInt8} {high low : Nat} (h : high + low = a.toNat) : join high low = a := by
  rw [join, h, UInt8.ofNat_toNat]

lemma decode?_one (a b : Char) : decode? [a, b, '=', '='] = decodeOne? a b := by rw [decode?]

lemma decode?_two {a b c : Char} (hc : c ≠ '=') : decode? [a, b, c, '='] = decodeTwo? a b c := by
  rw [decode?]
  exact fun h => hc h

lemma decode?_three {a b c d : Char} (hd : d ≠ '=') (rest : List Char) :
    decode? (a :: b :: c :: d :: rest)
      = (decodeThree? a b c d).bind fun group => (decode? rest).map (group ++ ·) := by
  rw [decode?]
  · cases decodeThree? a b c d with
    | none => rfl
    | some group => cases decode? rest <;> rfl
  · exact fun _ h => absurd h hd
  · exact fun h => absurd h hd

lemma encode_of_decodeOne? {a b : Char} {bytes : List UInt8} (h : decodeOne? a b = some bytes) :
    encode bytes = [a, b, '=', '='] := by
  simp only [decodeOne?, Option.bind_eq_bind, Option.bind_eq_some_iff] at h
  obtain ⟨x, hx, y, hy, h⟩ := h
  obtain ⟨hx, rfl⟩ := eq_digit_of_value? hx
  obtain ⟨hy, rfl⟩ := eq_digit_of_value? hy
  split at h
  case isTrue hzero =>
    cases h
    have hfirst := toNat_join (show x * 4 + y / 16 < 256 by omega)
    rw [encode, hfirst, show (x * 4 + y / 16) / 4 = x by omega,
      show (x * 4 + y / 16) % 4 * 16 = y by omega]
  case isFalse => cases h

lemma encode_of_decodeTwo? {a b c : Char} {bytes : List UInt8}
    (h : decodeTwo? a b c = some bytes) : encode bytes = [a, b, c, '='] := by
  simp only [decodeTwo?, Option.bind_eq_bind, Option.bind_eq_some_iff] at h
  obtain ⟨x, hx, y, hy, z, hz, h⟩ := h
  obtain ⟨hx, rfl⟩ := eq_digit_of_value? hx
  obtain ⟨hy, rfl⟩ := eq_digit_of_value? hy
  obtain ⟨hz, rfl⟩ := eq_digit_of_value? hz
  split at h
  case isTrue hzero =>
    cases h
    have hfirst := toNat_join (show x * 4 + y / 16 < 256 by omega)
    have hsecond := toNat_join (show y % 16 * 16 + z / 4 < 256 by omega)
    rw [encode, hfirst, hsecond, show (x * 4 + y / 16) / 4 = x by omega,
      show (x * 4 + y / 16) % 4 * 16 + (y % 16 * 16 + z / 4) / 16 = y by omega,
      show (y % 16 * 16 + z / 4) % 16 * 4 = z by omega]
  case isFalse => cases h

lemma encode_of_decodeThree? {a b c d : Char} {bytes : List UInt8}
    (h : decodeThree? a b c d = some bytes) (rest : List UInt8) :
    encode (bytes ++ rest) = a :: b :: c :: d :: encode rest := by
  simp only [decodeThree?, Option.bind_eq_bind, Option.bind_eq_some_iff] at h
  obtain ⟨x, hx, y, hy, z, hz, w, hw, h⟩ := h
  obtain ⟨hx, rfl⟩ := eq_digit_of_value? hx
  obtain ⟨hy, rfl⟩ := eq_digit_of_value? hy
  obtain ⟨hz, rfl⟩ := eq_digit_of_value? hz
  obtain ⟨hw, rfl⟩ := eq_digit_of_value? hw
  cases h
  have hfirst := toNat_join (show x * 4 + y / 16 < 256 by omega)
  have hsecond := toNat_join (show y % 16 * 16 + z / 4 < 256 by omega)
  have hthird := toNat_join (show z % 4 * 64 + w < 256 by omega)
  simp only [List.cons_append, List.nil_append]
  rw [encode, hfirst, hsecond, hthird, show (x * 4 + y / 16) / 4 = x by omega,
    show (x * 4 + y / 16) % 4 * 16 + (y % 16 * 16 + z / 4) / 16 = y by omega,
    show (y % 16 * 16 + z / 4) % 16 * 4 + (z % 4 * 64 + w) / 64 = z by omega,
    show (z % 4 * 64 + w) % 64 = w by omega]

/-! ### Reading and writing -/

/-- What is written is read. -/
lemma decode?_encode (bytes : List UInt8) : decode? (encode bytes) = some bytes := by
  fun_induction encode bytes with
  | case1 => rfl
  | case2 a =>
    have ha := a.toNat_lt
    rw [decode?_one, decodeOne?, value?_digit (by omega), value?_digit (by omega)]
    simp only [Option.bind_eq_bind, Option.bind_some, Nat.mul_mod_left, if_true, Option.some.injEq,
      List.cons.injEq, and_true]
    exact join_eq (by omega)
  | case3 a b =>
    have ha := a.toNat_lt
    have hb := b.toNat_lt
    rw [decode?_two (digit_ne_pad (by omega)), decodeTwo?, value?_digit (by omega),
      value?_digit (by omega), value?_digit (by omega)]
    simp only [Option.bind_eq_bind, Option.bind_some, Nat.mul_mod_left, if_true, Option.some.injEq,
      List.cons.injEq, and_true]
    exact ⟨join_eq (by omega), join_eq (by omega)⟩
  | case4 a b c rest ih =>
    have ha := a.toNat_lt
    have hb := b.toNat_lt
    have hc := c.toNat_lt
    rw [decode?_three (digit_ne_pad (by omega)), decodeThree?, value?_digit (by omega),
      value?_digit (by omega), value?_digit (by omega), value?_digit (by omega), ih]
    simp only [Option.bind_eq_bind, Option.bind_some, Option.map_some, Option.some.injEq,
      List.cons_append, List.nil_append, List.cons.injEq, and_true]
    exact ⟨join_eq (by omega), join_eq (by omega), join_eq (by omega)⟩

/-- Only what is written is read. -/
lemma encode_of_decode? {digits : List Char} {bytes : List UInt8}
    (h : decode? digits = some bytes) : encode bytes = digits := by
  fun_induction decode? digits generalizing bytes with
  | case1 =>
    cases h
    rfl
  | case2 a b => exact encode_of_decodeOne? h
  | case3 a b c hc => exact encode_of_decodeTwo? h
  | case4 a b c d rest _ _ ih =>
    simp only [Option.bind_eq_bind, Option.bind_eq_some_iff, Option.some.injEq] at h
    obtain ⟨group, hgroup, rest', hrest, rfl⟩ := h
    rw [encode_of_decodeThree? hgroup, ih hrest]
  | case5 => cases h

theorem decode?_eq_some_iff {digits : List Char} {bytes : List UInt8} :
    decode? digits = some bytes ↔ digits = encode bytes :=
  ⟨fun h => (encode_of_decode? h).symm, fun h => h ▸ decode?_encode bytes⟩

end MeshRoom.Base64
