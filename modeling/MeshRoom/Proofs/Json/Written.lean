import MeshRoom.Json.Decode
import MeshRoom.Proofs.Json.Entries
import Mathlib.Data.List.Forall2

/-!
# Members as they are written

A text may write a name of an object twice. As a value the object then has the last of what is
written there; as a record it is refused if the name is that of a field. Of a name that is written
once both have the same.
-/

namespace MeshRoom.Json

/-! ### Objects -/

/-- The members of the object that a text holds, as they are written: a name may occur twice. -/
def Value.written? (text : String) : Option (List (String × Value)) :=
  (Tree.read? text).bind fun
    | .object members => Tree.valueMembers? (nestingLimit - 1) members
    | _ => none

/-- A text is read as an object if it holds one, and then of each name the last value counts. -/
lemma Value.read?_eq_object_iff {text : String} {members : Entries Value} :
    Value.read? text = some (.object members) ↔
      ∃ written, Value.written? text = some written ∧ Entries.ofPairs written = members := by
  rw [Value.read?, Value.written?]
  cases Tree.read? text with
  | none => simp
  | some t =>
    have hlimit : nestingLimit = nestingLimit - 1 + 1 := rfl
    cases t with
    | null | bool | number | string => simp [Tree.value?]
    | array items =>
      rw [Option.bind_eq_bind, Option.bind_some, hlimit, Tree.value?]
      simp
    | object ms =>
      rw [Option.bind_eq_bind, Option.bind_some, hlimit, Tree.value?]
      simp

/-! ### Trees of members -/

namespace Tree

/-- A member whose tree has a value. -/
def Means (room : Nat) (n : String × Tree) (m : String × Value) : Prop :=
  n.1 = m.1 ∧ n.2.value? room = some m.2

/-- Members that have a meaning are there under their names, in the order in which they are
written. -/
lemma exists_named {room : Nat} {members : List (Option String × Tree)}
    {written : List (String × Value)} (h : valueMembers? room members = some written) :
    ∃ named : List (String × Tree), members.mapM (fun (k, t) => k.map (·, t)) = some named ∧
      List.Forall₂ (Means room) named written := by
  induction members generalizing written with
  | nil =>
    rw [valueMembers?] at h
    cases h
    exact ⟨[], rfl, .nil⟩
  | cons member members ih =>
    obtain ⟨k, t⟩ := member
    simp only [valueMembers?, Option.bind_eq_bind, Option.bind_eq_some_iff, Option.some.injEq] at h
    obtain ⟨m, hm, rest, hrest, rfl⟩ := h
    obtain ⟨named, hnamed, hmeans⟩ := ih hrest
    cases k with
    | none => simp [named?] at hm
    | some k =>
      cases hv : t.value? room with
      | none => simp [named?, hv] at hm
      | some v =>
        obtain rfl : (k, v) = m := by simpa [named?, hv] using hm
        refine ⟨(k, t) :: named, ?_, .cons ⟨rfl, hv⟩ hmeans⟩
        simp [List.mapM_cons, hnamed]

end Tree

/-! ### Fields of records -/

section Fields

variable {room : Nat} {named : List (String × Tree)} {written : List (String × Value)} {k : String}

lemma Tree.means_filter (h : List.Forall₂ (Tree.Means room) named written) (k : String) :
    List.Forall₂ (Tree.Means room) (named.filter fun (j, _) => [k].contains j)
      (written.filter fun (j, _) => [k].contains j) := by
  refine List.rel_filter ?_ h
  rintro ⟨j, t⟩ ⟨_, v⟩ ⟨rfl, -⟩
  exact Iff.rfl

/-- A field that is not written is not there. -/
lemma Record.field?_of_notMem (h : List.Forall₂ (Tree.Means room) named written)
    (hk : k ∉ Entries.keys written) (index : Nat) :
    Record.field? ⟨room, .inr named⟩ index [k] = some none := by
  have hnone : written.filter (fun (j, _) => [k].contains j) = [] := by
    refine List.filter_eq_nil_iff.2 fun m hm hj => hk ?_
    obtain rfl : m.1 = k := by simpa using hj
    exact List.mem_map_of_mem hm
  have hfilter := Tree.means_filter h k
  rw [hnone, List.forall₂_nil_right_iff] at hfilter
  simp only [Record.field?, hfilter]

/-- A field that is written once is there, with the value that is written. -/
lemma Record.exists_field? (h : List.Forall₂ (Tree.Means room) named written) {v : Value}
    (hv : written.filter (fun (j, _) => [k].contains j) = [(k, v)]) (index : Nat) :
    ∃ t, Record.field? ⟨room, .inr named⟩ index [k] = some (some t) ∧ t.value? room = some v := by
  have hfilter := Tree.means_filter h k
  rw [hv] at hfilter
  obtain ⟨⟨j, t⟩, _, ⟨-, ht⟩, hnil, hnamed⟩ := List.forall₂_cons_right_iff.1 hfilter
  obtain rfl := List.forall₂_nil_right_iff.1 hnil
  exact ⟨t, by simp only [Record.field?, hnamed], ht⟩

end Fields

/-- A string is decoded from what has a string for its value. -/
lemma Decoder.string_eq_asString? {room : Nat} {t : Tree} {v : Value}
    (h : t.value? room = some v) : Decoder.string room t = v.asString? := by
  cases t with
  | null | bool =>
    rw [Tree.value?] at h
    cases h
    rfl
  | number n =>
    rw [Tree.value?] at h
    obtain ⟨n, -, rfl⟩ := Option.map_eq_some_iff.1 h
    rfl
  | string s =>
    rw [Tree.value?] at h
    obtain ⟨s, rfl, rfl⟩ := Option.map_eq_some_iff.1 h
    rfl
  | array | object =>
    cases room with
    | zero => simp [Tree.value?] at h
    | succ room =>
      rw [Tree.value?] at h
      obtain ⟨_, -, rfl⟩ := Option.map_eq_some_iff.1 h
      rfl

lemma Value.asString?_eq_none {v : Value} (h : ∀ s, v ≠ .string s) : v.asString? = none := by
  cases v with
  | string s => exact absurd rfl (h s)
  | null | bool | number | array | object => rfl

end MeshRoom.Json
