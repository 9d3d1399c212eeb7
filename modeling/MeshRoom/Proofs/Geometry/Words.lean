import MeshRoom.Geometry.Words
import Mathlib.Algebra.Group.Nat.Defs
import Mathlib.Tactic.Lemma

/-!
# Words and groups come apart and together again

Bytes that make whole words are those of the words read from them, and items that make whole groups
are those of the groups.
-/

namespace MeshRoom.Words

/-! ### Words -/

/-- Bits above all those of a number are added to it. -/
lemma add_eq_or {i x y : Nat} (h : y < 2 ^ i) : y + 2 ^ i * x = y ||| 2 ^ i * x := by
  rw [Nat.add_comm, Nat.two_pow_add_eq_or_of_lt h, Nat.or_comm]

lemma toNat_ofBytes (a b c d : UInt8) :
    (ofBytes a b c d).toNat
      = a.toNat + 2 ^ 8 * b.toNat + 2 ^ 16 * c.toNat + 2 ^ 24 * d.toNat := by
  have ha := a.toNat_lt
  have hb := b.toNat_lt
  have hc := c.toNat_lt
  have hd := d.toNat_lt
  have hsecond : b.toNat <<< 8 % 2 ^ 32 = 2 ^ 8 * b.toNat := by
    rw [Nat.shiftLeft_eq]
    omega
  have hthird : c.toNat <<< 16 % 2 ^ 32 = 2 ^ 16 * c.toNat := by
    rw [Nat.shiftLeft_eq]
    omega
  have hfourth : d.toNat <<< 24 % 2 ^ 32 = 2 ^ 24 * d.toNat := by
    rw [Nat.shiftLeft_eq]
    omega
  rw [add_eq_or (by omega), add_eq_or (by omega), add_eq_or (by omega), ← hsecond, ← hthird,
    ← hfourth]
  simp only [ofBytes, UInt32.toNat_or, UInt32.toNat_shiftLeft, UInt8.toNat_toUInt32]
  rfl

lemma ofBytes_bytes (w : UInt32) :
    ofBytes w.toUInt8 (w >>> 8).toUInt8 (w >>> 16).toUInt8 (w >>> 24).toUInt8 = w := by
  have hw := w.toNat_lt
  apply UInt32.toNat_inj.1
  simp only [toNat_ofBytes, UInt32.toNat_toUInt8, UInt32.toNat_shiftRight, UInt32.reduceToNat,
    Nat.reduceMod, Nat.shiftRight_eq_div_pow]
  omega

lemma bytesOf_ofBytes (a b c d : UInt8) : bytesOf (ofBytes a b c d) = [a, b, c, d] := by
  have ha := a.toNat_lt
  have hb := b.toNat_lt
  have hc := c.toNat_lt
  have hd := d.toNat_lt
  simp only [bytesOf, List.cons.injEq, and_true, ← UInt8.toNat_inj, UInt32.toNat_toUInt8,
    UInt32.toNat_shiftRight, UInt32.reduceToNat, Nat.reduceMod, toNat_ofBytes,
    Nat.shiftRight_eq_div_pow]
  omega

lemma toBytes_cons (w : UInt32) (ws : List UInt32) :
    toBytes (w :: ws) = bytesOf w ++ toBytes ws := rfl

lemma length_toBytes (ws : List UInt32) : (toBytes ws).length = 4 * ws.length := by
  induction ws with
  | nil => rfl
  | cons w ws ih =>
    rw [toBytes_cons, List.length_append, ih, List.length_cons]
    simp only [bytesOf, List.length_cons, List.length_nil]
    omega

@[simp] lemma read_toBytes (ws : List UInt32) : read (toBytes ws) = ws := by
  induction ws with
  | nil => rfl
  | cons w ws ih =>
    simp only [toBytes_cons, bytesOf, List.cons_append, List.nil_append, read]
    rw [ofBytes_bytes, ih]

lemma toBytes_read {bytes : List UInt8} (h : bytes.length % 4 = 0) :
    toBytes (read bytes) = bytes := by
  fun_induction read bytes with
  | case1 a b c d rest ih =>
    have hrest : rest.length % 4 = 0 := by
      simp only [List.length_cons] at h
      omega
    rw [toBytes_cons, bytesOf_ofBytes, ih hrest]
    rfl
  | case2 bytes hshort =>
    match bytes with
    | [] => rfl
    | [_] | [_, _] | [_, _, _] => simp at h
    | a :: b :: c :: d :: rest => exact absurd rfl (hshort a b c d rest)

/-! ### Groups -/

section Groups

variable {α : Type _}

/-- The items of a pair. -/
def ofPair (p : α × α) : List α := [p.1, p.2]

/-- The items of a triple. -/
def ofTriple (t : α × α × α) : List α := [t.1, t.2.1, t.2.2]

@[simp] lemma pairs_flatMap (ps : List (α × α)) : pairs (ps.flatMap ofPair) = ps := by
  induction ps with
  | nil => rfl
  | cons p ps ih => simp [ofPair, pairs, ih]

@[simp] lemma triples_flatMap (ts : List (α × α × α)) : triples (ts.flatMap ofTriple) = ts := by
  induction ts with
  | nil => rfl
  | cons t ts ih => simp [ofTriple, triples, ih]

lemma flatMap_pairs {items : List α} (h : items.length % 2 = 0) :
    (pairs items).flatMap ofPair = items := by
  fun_induction pairs items with
  | case1 a b rest ih =>
    have hrest : rest.length % 2 = 0 := by
      simp only [List.length_cons] at h
      omega
    rw [List.flatMap_cons, ih hrest]
    rfl
  | case2 items hshort =>
    match items with
    | [] => rfl
    | [_] => simp at h
    | a :: b :: rest => exact absurd rfl (hshort a b rest)

lemma flatMap_triples {items : List α} (h : items.length % 3 = 0) :
    (triples items).flatMap ofTriple = items := by
  fun_induction triples items with
  | case1 a b c rest ih =>
    have hrest : rest.length % 3 = 0 := by
      simp only [List.length_cons] at h
      omega
    rw [List.flatMap_cons, ih hrest]
    rfl
  | case2 items hshort =>
    match items with
    | [] => rfl
    | [_] | [_, _] => simp at h
    | a :: b :: c :: rest => exact absurd rfl (hshort a b c rest)

lemma length_flatMap_pair (ps : List (α × α)) : (ps.flatMap ofPair).length = 2 * ps.length := by
  induction ps with
  | nil => rfl
  | cons p ps ih =>
    rw [List.flatMap_cons, List.length_append, ih, List.length_cons]
    simp only [ofPair, List.length_cons, List.length_nil]
    omega

lemma length_flatMap_triple (ts : List (α × α × α)) :
    (ts.flatMap ofTriple).length = 3 * ts.length := by
  induction ts with
  | nil => rfl
  | cons t ts ih =>
    rw [List.flatMap_cons, List.length_append, ih, List.length_cons]
    simp only [ofTriple, List.length_cons, List.length_nil]
    omega

end Groups

end MeshRoom.Words
