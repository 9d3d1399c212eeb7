import MeshRoom.Json.Tree
import MeshRoom.Proofs.Json.Entries
import MeshRoom.Proofs.Json.Scanning

/-!
# Values read back from their text

The tokens of a value are read into the tree that the value is written as, and the meaning of that
tree is the value again: so a value that has distinct names and does not nest too deep is read back
from its text. The text of one that nests too deep is not read at all.
-/

namespace MeshRoom

namespace Json

/-! ### The tree of the tokens -/

namespace Reader

lemma run_of_step {r u : Reader} {t : Token} (h : r.step t = some u) (ts : List Token) :
    r.run (t :: ts) = u.run ts := by
  rw [run, h]
  rfl

lemma exists_tokens (v : Value) : ∃ t ts, v.tokens = t :: ts ∧ t ≠ .closeArray := by
  match v with
  | .null | .bool _ | .number _ | .string _ | .array [] | .object [] => exact ⟨_, _, rfl, by simp⟩
  | .array (_ :: _) | .object ((_, _) :: _) => exact ⟨_, _, rfl, by simp⟩

/-- Before the first item of an array an item is read like any value. -/
lemma run_itemOrClose (stack : List Frame) (v : Value) (ts : List Token) :
    (itemOrClose stack).run (v.tokens ++ ts)
      = (value (.array [] :: stack)).run (v.tokens ++ ts) := by
  obtain ⟨t, us, htokens, ht⟩ := exists_tokens v
  have hstep : (itemOrClose stack).step t = (value (.array [] :: stack)).step t := by
    cases t <;> first | rfl | exact absurd rfl ht
  rw [htokens, List.cons_append, run, hstep, run]

mutual

/-- The tokens of a value are read into its tree. -/
theorem run_tokens : (v : Value) → (stack : List Frame) → (ts : List Token) →
    (value stack).run (v.tokens ++ ts) = (complete (.ofValue v) stack).run ts
  | .null, _, _ | .bool _, _, _ | .number _, _, _ | .string _, _, _ => run_of_step rfl _
  | .array [], stack, ts => by
    exact (run_of_step (u := itemOrClose stack) rfl _).trans (run_of_step rfl _)
  | .array (v :: vs), stack, ts => by
    rw [Value.tokens, List.cons_append, run_of_step (u := itemOrClose stack) rfl,
      List.append_assoc, run_itemOrClose, run_tokens v, complete, List.append_assoc,
      List.singleton_append, run_itemTokens vs]
    rfl
  | .object [], stack, ts => by
    exact (run_of_step (u := nameOrClose stack) rfl _).trans (run_of_step rfl _)
  | .object ((k, v) :: ms), stack, ts => by
    simp only [Value.tokens, List.cons_append, List.append_assoc, List.nil_append]
    rw [run_of_step (u := nameOrClose stack) rfl, run_of_step (u := colon [] (some k) stack) rfl,
      run_of_step (u := value (.object [] (some k) :: stack)) rfl, run_tokens v, complete,
      run_memberTokens ms]
    rfl

lemma run_itemTokens : (vs : List Value) → (items : List Tree) → (stack : List Frame) →
    (ts : List Token) → (afterItem items stack).run (Value.itemTokens vs ++ .closeArray :: ts)
      = (complete (.array (items.reverse ++ Tree.ofValues vs)) stack).run ts
  | [], items, stack, ts => by
    rw [Value.itemTokens, List.nil_append, run_of_step rfl, Tree.ofValues, List.append_nil]
  | v :: vs, items, stack, ts => by
    rw [Value.itemTokens, List.cons_append, run_of_step (u := value (.array items :: stack)) rfl,
      List.append_assoc, run_tokens v, complete, run_itemTokens vs, List.reverse_cons,
      List.append_assoc]
    rfl

lemma run_memberTokens : (ms : List (String × Value)) → (members : List (Option String × Tree)) →
    (stack : List Frame) → (ts : List Token) →
      (afterMember members stack).run (Value.memberTokens ms ++ .closeObject :: ts)
        = (complete (.object (members.reverse ++ Tree.ofMembers ms)) stack).run ts
  | [], members, stack, ts => by
    rw [Value.memberTokens, List.nil_append, run_of_step rfl, Tree.ofMembers, List.append_nil]
  | (k, v) :: ms, members, stack, ts => by
    rw [Value.memberTokens, List.cons_append, List.cons_append, List.cons_append,
      run_of_step (u := name members stack) rfl,
      run_of_step (u := colon members (some k) stack) rfl,
      run_of_step (u := value (.object members (some k) :: stack)) rfl, List.append_assoc,
      run_tokens v, complete, run_memberTokens ms, List.reverse_cons, List.append_assoc]
    rfl

end

end Reader

namespace Tree

/-- The text of a value is read into the tree of the value. -/
lemma read?_text (v : Value) : read? v.text = some (ofValue v) := by
  have hrun := Reader.run_tokens v [] []
  rw [List.append_nil] at hrun
  rw [read?, v.run_text, Option.bind_eq_bind, Option.bind_some, hrun]
  rfl

/-! ### The meaning of the tree -/

mutual

/-- The tree of a value means the value, where there is room for it. -/
theorem value?_ofValue : (v : Value) → (room : Nat) → v.depth ≤ room → v.Distinct →
    (ofValue v).value? room = some v
  | .null, _, _, _ | .bool _, _, _, _ | .number _, _, _, _ | .string _, _, _, _ => by
    simp [ofValue, value?]
  | .array items, 0, hdepth, _ => by simp [Value.depth] at hdepth
  | .array items, room + 1, hdepth, hdistinct => by
    have hroom : Value.depthItems items ≤ room := by
      rw [Value.depth] at hdepth
      omega
    rw [ofValue, value?, values?_ofValues items room hroom hdistinct, Option.map_some]
  | .object members, 0, hdepth, _ => by simp [Value.depth] at hdepth
  | .object members, room + 1, hdepth, hdistinct => by
    have hroom : Value.depthMembers members ≤ room := by
      rw [Value.depth] at hdepth
      omega
    rw [ofValue, value?, valueMembers?_ofMembers members room hroom hdistinct.2, Option.map_some,
      Entries.ofPairs_of_nodup hdistinct.1]

lemma values?_ofValues : (vs : List Value) → (room : Nat) → Value.depthItems vs ≤ room →
    Value.DistinctItems vs → values? room (ofValues vs) = some vs
  | [], _, _, _ => by rw [ofValues, values?]
  | v :: vs, room, hdepth, hdistinct => by
    rw [Value.depthItems, Nat.max_le] at hdepth
    rw [ofValues, values?, value?_ofValue v room hdepth.1 hdistinct.1,
      values?_ofValues vs room hdepth.2 hdistinct.2]
    rfl

lemma valueMembers?_ofMembers : (ms : List (String × Value)) → (room : Nat) →
    Value.depthMembers ms ≤ room → Value.DistinctMembers ms →
      valueMembers? room (ofMembers ms) = some ms
  | [], _, _, _ => by rw [ofMembers, valueMembers?]
  | (k, v) :: ms, room, hdepth, hdistinct => by
    rw [Value.depthMembers, Nat.max_le] at hdepth
    rw [ofMembers, valueMembers?, value?_ofValue v room hdepth.1 hdistinct.1,
      valueMembers?_ofMembers ms room hdepth.2 hdistinct.2]
    rfl

end

mutual

/-- Where there is not enough room, the tree of a value means nothing. -/
theorem value?_ofValue_eq_none : (v : Value) → (room : Nat) → room < v.depth →
    (ofValue v).value? room = none
  | .null, _, hdepth | .bool _, _, hdepth | .number _, _, hdepth | .string _, _, hdepth => by
    simp [Value.depth] at hdepth
  | .array _, 0, _ => by rw [ofValue, value?]
  | .array items, room + 1, hdepth => by
    have hroom : room < Value.depthItems items := by
      rw [Value.depth] at hdepth
      omega
    rw [ofValue, value?, values?_ofValues_eq_none items room hroom, Option.map_none]
  | .object _, 0, _ => by rw [ofValue, value?]
  | .object members, room + 1, hdepth => by
    have hroom : room < Value.depthMembers members := by
      rw [Value.depth] at hdepth
      omega
    rw [ofValue, value?, valueMembers?_ofMembers_eq_none members room hroom, Option.map_none]

lemma values?_ofValues_eq_none : (vs : List Value) → (room : Nat) → room < Value.depthItems vs →
    values? room (ofValues vs) = none
  | [], _, hdepth => by simp [Value.depthItems] at hdepth
  | v :: vs, room, hdepth => by
    rw [Value.depthItems, lt_max_iff] at hdepth
    rw [ofValues, values?]
    rcases hdepth with hitem | hrest
    · rw [value?_ofValue_eq_none v room hitem]
      rfl
    · rw [values?_ofValues_eq_none vs room hrest]
      cases (ofValue v).value? room <;> rfl

lemma valueMembers?_ofMembers_eq_none : (ms : List (String × Value)) → (room : Nat) →
    room < Value.depthMembers ms → valueMembers? room (ofMembers ms) = none
  | [], _, hdepth => by simp [Value.depthMembers] at hdepth
  | (k, v) :: ms, room, hdepth => by
    rw [Value.depthMembers, lt_max_iff] at hdepth
    rw [ofMembers, valueMembers?]
    rcases hdepth with hmember | hrest
    · rw [value?_ofValue_eq_none v room hmember]
      rfl
    · rw [valueMembers?_ofMembers_eq_none ms room hrest]
      cases (ofValue v).value? room <;> rfl

end

end Tree

/-- A value with distinct names that does not nest too deep is read back from its text. -/
theorem Value.read?_text {v : Value} (hdistinct : v.Distinct) (hdepth : v.depth ≤ nestingLimit) :
    Value.read? v.text = some v := by
  rw [Value.read?, Tree.read?_text, Option.bind_eq_bind, Option.bind_some]
  exact Tree.value?_ofValue v nestingLimit hdepth hdistinct

/-- The text of a value that nests too deep is not read. -/
theorem Value.read?_text_eq_none {v : Value} (hdepth : nestingLimit < v.depth) :
    Value.read? v.text = none := by
  rw [Value.read?, Tree.read?_text, Option.bind_eq_bind, Option.bind_some]
  exact Tree.value?_ofValue_eq_none v nestingLimit hdepth

end Json

end MeshRoom
