import MeshRoom.Proofs.Json.Records
import MeshRoom.Wire.Envelope

/-!
# Frames read back

The frame of an envelope is read as the envelope, and a flat frame as an envelope that carries what
the frame was made of. An object is carried without the task it may have of its own, which the task
of the frame replaces, and one that has parameters is taken for a frame that carries them alone.

An envelope nests one deeper than its parameters, a flat frame of an object no deeper than the
object. So parameters that nest as deep as a text may are read by themselves but not from the frame
of an envelope.
-/

namespace MeshRoom.Wire

open Json

namespace Envelope

/-! ### Envelopes -/

/-- A frame whose task was taken out carries its parameters, or else what is left. -/
lemma ofMembers_of_takeFirst? {members rest : Entries Value} {task : String}
    (h : takeFirst? taskNames members = some (.string task, rest)) :
    ofMembers members = .ok ⟨task, (rest.lookup "parameters").getD (.object rest)⟩ := by
  rw [ofMembers, h, ← Entries.map_fst_take?]
  dsimp only
  cases Entries.take? "parameters" rest <;> rfl

lemma takeFirst?_of_take? {members rest : Entries Value} {v : Value}
    (h : members.take? "task" = some (v, rest)) :
    takeFirst? taskNames members = some (v, rest) := by
  rw [takeFirst?, taskNames, List.findSome?_cons, h]

lemma distinct_toValue {e : Envelope} (h : e.parameters.Distinct) : e.toValue.Distinct :=
  ⟨by simp [Entries.keys], trivial, h, trivial⟩

/-- An envelope nests one deeper than its parameters. -/
lemma depth_toValue (e : Envelope) : e.toValue.depth = e.parameters.depth + 1 := by
  simp [toValue, Value.depth, Value.depthMembers, Nat.add_comm]

/-- The frame of an envelope is read as the envelope. -/
lemma parse_text {e : Envelope} (h : e.parameters.Distinct)
    (hdepth : e.parameters.depth < nestingLimit) : parse e.text = .ok e := by
  have hroom : e.toValue.depth ≤ nestingLimit := by
    rw [depth_toValue]
    exact hdepth
  have htake : Entries.take? "task" [("task", .string e.task), ("parameters", e.parameters)]
      = some (.string e.task, [("parameters", e.parameters)]) := rfl
  rw [parse, text, Value.read?_text (distinct_toValue h) hroom]
  exact ofMembers_of_takeFirst? (takeFirst?_of_take? htake)

lemma parse_text_of_deep {e : Envelope} (hdepth : nestingLimit ≤ e.parameters.depth) :
    parse e.text = .error .invalidJson := by
  have hroom : nestingLimit < e.toValue.depth := by
    rw [depth_toValue]
    exact Nat.lt_succ_of_le hdepth
  rw [parse, text, Value.read?_text_eq_none hroom]

/-! ### Flat frames -/

/-- An object keeps names distinct, and nests no deeper, with one more member that is a string. -/
lemma distinct_insert {members : Entries Value} (h : (Value.object members).Distinct)
    (k s : String) : (Value.object (members.insert k (.string s))).Distinct := by
  refine ⟨Entries.nodup_keys_insert h.1 k _, Value.distinctMembers_iff.2 fun m hm => ?_⟩
  obtain rfl | hm := Entries.mem_insert hm
  · trivial
  · exact Value.distinctMembers_iff.1 h.2 m hm

lemma depth_insert_le (members : Entries Value) (k s : String) :
    (Value.object (members.insert k (.string s))).depth ≤ (Value.object members).depth := by
  refine Nat.add_le_add_left (Value.depthMembers_le_iff.2 fun m hm => ?_) 1
  obtain rfl | hm := Entries.mem_insert hm
  · exact Nat.zero_le _
  · exact Value.depthMembers_le_iff.1 (Nat.le_refl _) m hm

/-- The flat frame of an object carries the parameters that the object has, or else the object
without its task, and in the same order if it has none. -/
lemma parse_flatValue (task : String) {members : Entries Value}
    (hdistinct : (Value.object members).Distinct)
    (hdepth : (Value.object members).depth ≤ nestingLimit) :
    ∃ rest, rest.Perm (members.without "task") ∧ ("task" ∉ members.keys → rest = members) ∧
      parse (flatValue task (.object members)).text
        = .ok ⟨task, (members.lookup "parameters").getD (.object rest)⟩ := by
  let framed : Entries Value := members.insert "task" (.string task)
  have hkeys : framed.keys.Nodup := Entries.nodup_keys_insert hdistinct.1 "task" _
  obtain ⟨⟨v, rest⟩, htake, hv⟩ : ∃ taken, framed.take? "task" = some taken ∧
      taken.1 = .string task := by
    refine Option.map_eq_some_iff.1 ?_
    rw [Entries.map_fst_take?, Entries.lookup_insert, if_pos rfl]
  obtain rfl : v = .string task := hv
  have hrest : rest.Perm (members.without "task") := by
    rw [← Entries.without_insert "task" (.string task) members]
    exact Entries.perm_of_take? hkeys htake
  refine ⟨rest, hrest, fun hnew => ?_, ?_⟩
  · -- the task was put last, so that nothing moves when it is taken out
    have hlast := Entries.take?_concat hnew (Value.string task)
    rw [← Entries.insert_of_notMem hnew, htake] at hlast
    exact congrArg Prod.snd (Option.some.inj hlast)
  · have hlookup : rest.lookup "parameters" = members.lookup "parameters" := by
      rw [Entries.lookup_of_take? hkeys htake, if_neg (by decide), Entries.lookup_insert,
        if_neg (by decide)]
    rw [flatValue, parse, Value.read?_text (distinct_insert hdistinct "task" task)
      (Nat.le_trans (depth_insert_le members "task" task) hdepth), ← hlookup]
    exact ofMembers_of_takeFirst? (takeFirst?_of_take? htake)

/-! ### Frames of either shape -/

/-- What the two shapes of frames are made of is read back, up to the depth at which texts are still
read: the frame of an envelope is read as the envelope, and not at all if that nests too deep; a
flat frame carries its body, where an object yields its place to the parameters it has, and comes
without the task it has. -/
theorem frames_read_back (task : String) {v : Value} (hv : v.Distinct) :
    (v.depth < nestingLimit → parse (text ⟨task, v⟩) = .ok ⟨task, v⟩ ∧
      (parse (text ⟨task, v⟩)).map text = .ok (text ⟨task, v⟩)) ∧
    (nestingLimit ≤ v.depth → parse (text ⟨task, v⟩) = .error .invalidJson) ∧
    ((∀ members : Entries Value, v ≠ .object members) → v.depth < nestingLimit →
      parse (flatMessage task (.value v)) = .ok ⟨task, v⟩) ∧
    (∀ members : Entries Value, v = .object members → v.depth ≤ nestingLimit →
      ∃ rest : Entries Value, rest.Perm (members.without "task") ∧
        ("task" ∉ members.keys → rest = members) ∧
          parse (flatMessage task (.value v))
            = .ok ⟨task, (v.get? "parameters").getD (.object rest)⟩) := by
  refine ⟨fun hdepth => ?_, fun hdeep => ?_, fun hbody hdepth => ?_, ?_⟩
  · have hparse : parse (text ⟨task, v⟩) = .ok ⟨task, v⟩ := parse_text hv hdepth
    exact ⟨hparse, congrArg (Except.map text) hparse⟩
  · exact parse_text_of_deep hdeep
  · have hflat : flatValue task v = (mk task v).toValue := by
      cases v with
      | object members => exact absurd rfl (hbody members)
      | null | bool _ | number _ | string _ | array _ => rfl
    rw [flatMessage, Document.toValue, hflat]
    exact parse_text hv hdepth
  · rintro members rfl hdepth
    exact parse_flatValue task hv hdepth

/-- An object that has a task has its last member moved into the place of the task. -/
theorem frames_read_back_own_task :
    let members : Entries Value :=
      [("target", .array []), ("task", .bool true), ("up", .null), ("zoom", .string "2")]
    ∃ rest : Entries Value,
      rest.Perm [("target", .array []), ("up", .null), ("zoom", .string "2")] ∧
      parse (flatMessage "syncParams" (.value (.object members)))
        = .ok ⟨"syncParams", .object rest⟩ := by
  intro members
  have hdistinct : (Value.object members).Distinct :=
    ⟨by decide, trivial, trivial, trivial, trivial, trivial⟩
  obtain ⟨rest, hperm, -, hparse⟩ :=
    (frames_read_back "syncParams" hdistinct).2.2.2 members rfl (by decide)
  exact ⟨rest, hperm, hparse⟩

end Envelope

end MeshRoom.Wire
