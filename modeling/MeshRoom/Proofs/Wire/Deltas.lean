import MeshRoom.Proofs.Wire.Messages

/-!
# Deltas built and read back

A delta starts as the removal of some meshes, and payloads are put into it one after the other. Its
edits follow: a mesh keeps the place where it is first named, and becomes what was last said of it.
The record of a payload has no member that could be taken for a mark of removal, so no payload is
lost, and the text of the delta is read as the delta again.
-/

namespace MeshRoom.Wire

open Json

/-! ### Edits from their values -/

namespace MeshEdit

lemma ofValue?_removalMark : ofValue? removalMark = some .remove := by
  rfl

/-- No member of the record of a payload is called as the mark of a removal is. -/
lemma get?_remove_document (p : MeshPayload) : p.document.toValue.get? "remove" = none := by
  rw [MeshPayload.document, Document.toValue_record, Value.get?,
    Entries.lookup_eq_none_iff_notMem, Document.keys_fieldValues]
  intro hmem
  have hname := (List.filter_sublist.map Field.name).subset hmem
  simp at hname

/-- The record of a payload stands for the payload. -/
lemma ofValue?_document (p : MeshPayload) : ofValue? p.document.toValue = some (.upsert p) := by
  rw [ofValue?, get?_remove_document, Option.bind_none, if_neg (by simp), p.restores.onValue]
  rfl

end MeshEdit

namespace MeshDelta

/-! ### One insert -/

/-- An insert is one edit more: in the place of the mesh if it has one, at the end otherwise. -/
lemma edits_insert (d : MeshDelta) (uuid : String) (payload : MeshPayload) :
    (d.insert uuid payload).edits = d.edits.insert uuid (some (.upsert payload)) := by
  rw [edits, insert, Entries.mapValues_insert, MeshEdit.ofValue?_document, edits]

lemma edits_removal (uuids : List String) :
    (removal uuids).edits = Entries.ofPairs (uuids.map fun uuid => (uuid, some .remove)) := by
  induction uuids using List.reverseRecOn with
  | nil => rfl
  | append_singleton uuids uuid ih =>
    rw [edits, removal] at ih ⊢
    rw [List.map_append, List.map_append, List.map_singleton, List.map_singleton,
      Entries.ofPairs_concat, Entries.ofPairs_concat, Entries.mapValues_insert, ih,
      MeshEdit.ofValue?_removalMark]

/-! ### Reading the text of a delta -/

/-- A delta is whole if its meshes are named once each and its entries have distinct names and leave
room for the delta around them. -/
lemma isWhole_iff {d : MeshDelta} : d.IsWhole ↔
    d.meshes.keys.Nodup ∧ ∀ e ∈ d.meshes, e.2.Distinct ∧ e.2.depth ≤ nestingLimit - 2 := by
  have hdepth : (Value.object d.meshes).depth < nestingLimit ↔
      ∀ e ∈ d.meshes, e.2.depth ≤ nestingLimit - 2 := by
    rw [Value.depth, ← Value.depthMembers_le_iff, nestingLimit]
    omega
  constructor
  · intro h
    have hvalues := Value.distinctMembers_iff.1 h.distinct.2
    exact ⟨h.distinct.1, fun e he => ⟨hvalues e he, hdepth.1 h.depth e he⟩⟩
  · rintro ⟨hkeys, hvalues⟩
    exact ⟨⟨hkeys, Value.distinctMembers_iff.2 fun e he => (hvalues e he).1⟩,
      hdepth.2 fun e he => (hvalues e he).2⟩

/-- A removal is whole. -/
lemma isWhole_removal (uuids : List String) : (removal uuids).IsWhole := by
  refine isWhole_iff.2 ⟨Entries.nodup_keys_ofPairs _, ?_⟩
  intro e he
  have hvalue := (Entries.lookup_eq_some_iff_mem (Entries.nodup_keys_ofPairs _)).2 he
  rw [Entries.lookup_ofPairs] at hvalue
  obtain ⟨uuid, -, rfl⟩ : ∃ uuid ∈ uuids, (uuid, MeshEdit.removalMark) = e := by
    simpa using Entries.mem_of_lookup hvalue
  exact ⟨⟨by simp [Entries.keys], trivial, trivial⟩, Nat.le_of_ble_eq_true rfl⟩

/-- An insert keeps a delta whole. -/
lemma IsWhole.insert {d : MeshDelta} (h : d.IsWhole) (uuid : String) (payload : MeshPayload) :
    (d.insert uuid payload).IsWhole := by
  obtain ⟨hkeys, hvalues⟩ := isWhole_iff.1 h
  refine isWhole_iff.2 ⟨Entries.nodup_keys_insert hkeys _ _, fun e he => ?_⟩
  rcases Entries.mem_insert he with rfl | he
  · exact ⟨payload.fits.distinct, payload.fits.depth.trans (by decide)⟩
  · exact hvalues e he

/-- The text of a whole delta is read as the delta. -/
lemma IsWhole.onText_text {d : MeshDelta} (h : d.IsWhole) :
    decoder.onText d.document.text = some d := by
  -- No single stands in the document, so it is written as its value is.
  have htext : d.document.text = d.document.toValue.text := rfl
  have hroom : d.document.toValue.depth ≤ 126 + 1 :=
    Document.depth_record_le_iff.2 (by simpa [Document.toValue] using Nat.le_of_lt_succ h.depth)
  rw [Decoder.onText, htext, Tree.read?_text, Option.bind_eq_bind, Option.bind_some]
  exact (restores h).reads nestingLimit hroom

/-! ### Built deltas -/

/-- The delta that removes some meshes and puts payloads under others, one after the other. -/
def built (uuids : List String) (inserts : List (String × MeshPayload)) : MeshDelta :=
  inserts.foldl (fun d (uuid, payload) => d.insert uuid payload) (removal uuids)

/-- What is last said of a mesh that is named. -/
def lastEdit (inserts : List (String × MeshPayload)) (uuid : String) : MeshEdit :=
  match inserts.reverse.lookup uuid with
  | some payload => .upsert payload
  | none => .remove

variable (uuids : List String) (inserts : List (String × MeshPayload))

lemma built_concat (uuid : String) (payload : MeshPayload) :
    built uuids (inserts ++ [(uuid, payload)]) = (built uuids inserts).insert uuid payload :=
  List.foldl_concat _ _ _ _

lemma isWhole_built : (built uuids inserts).IsWhole := by
  induction inserts using List.reverseRecOn with
  | nil => exact isWhole_removal uuids
  | append_singleton inserts e ih =>
    rw [built_concat]
    exact ih.insert e.1 e.2

/-- The edits of a built delta are the removals and then the payloads, written one after the
other. -/
lemma edits_built : (built uuids inserts).edits
    = Entries.ofPairs (uuids.map (fun uuid => (uuid, some .remove))
      ++ inserts.map fun (uuid, payload) => (uuid, some (.upsert payload))) := by
  induction inserts using List.reverseRecOn with
  | nil => simpa [built] using edits_removal uuids
  | append_singleton inserts e ih =>
    rw [built_concat, edits_insert, ih, List.map_append, ← List.append_assoc, List.map_singleton,
      Entries.ofPairs_concat]

lemma keys_edits_built : (built uuids inserts).edits.keys
    = (uuids ++ Entries.keys inserts).eraseDups := by
  rw [edits_built, Entries.keys_ofPairs]
  simp [Entries.keys, Function.comp_def]

/-- A mesh that is named has the edit that is last said of it. -/
lemma lookup_edits_built {uuid : String} (h : uuid ∈ uuids ++ Entries.keys inserts) :
    (built uuids inserts).edits.lookup uuid = some (some (lastEdit inserts uuid)) := by
  have hpayloads : (inserts.map fun (j, payload) => (j, some (MeshEdit.upsert payload))).reverse
      = Entries.mapValues (fun payload => some (.upsert payload)) inserts.reverse :=
    List.map_reverse.symm
  rw [edits_built, Entries.lookup_ofPairs, List.reverse_append, List.lookup_append, hpayloads,
    Entries.lookup_mapValues, lastEdit]
  cases hlast : inserts.reverse.lookup uuid with
  | some payload => rfl
  | none =>
    have hnot : uuid ∉ Entries.keys inserts := by
      simpa [Entries.keys] using Entries.lookup_eq_none_iff_notMem.1 hlast
    have hremoved : uuid ∈ uuids.reverse :=
      List.mem_reverse.2 ((List.mem_append.1 h).resolve_right hnot)
    rw [← List.map_reverse, Entries.lookup_map_const hremoved]
    rfl

/-- A delta that is built of a removal and inserts names every mesh once, in the order in which the
meshes are first named, with the payload last put under it or its removal, and is read back from its
text. An insert leaves the edits of other meshes as they are, and where they are; a delta is empty
when there are no edits. -/
theorem built_read_back : (built uuids inserts).edits
      = (uuids ++ Entries.keys inserts).eraseDups.map
          (fun uuid => (uuid, some (lastEdit inserts uuid))) ∧
    (built uuids inserts).edits.keys.Nodup ∧
    (∀ (d : MeshDelta) (uuid : String) (payload : MeshPayload),
      (d.insert uuid payload).edits.without uuid = d.edits.without uuid) ∧
    (∀ d : MeshDelta, d.isEmpty = true ↔ d.edits = []) ∧
    decoder.onText (built uuids inserts).document.text = some (built uuids inserts) := by
  have hkeys := keys_edits_built uuids inserts
  have hnodup : (built uuids inserts).edits.keys.Nodup := by
    rw [edits_built]
    exact Entries.nodup_keys_ofPairs _
  refine ⟨?_, hnodup, ?_, ?_, (isWhole_built uuids inserts).onText_text⟩
  · rw [← hkeys]
    apply Entries.eq_map_keys hnodup
    intro uuid huuid
    rw [hkeys, List.mem_eraseDups] at huuid
    exact lookup_edits_built uuids inserts huuid
  · intro d uuid payload
    rw [edits_insert, Entries.without_insert]
  · intro d
    rw [isEmpty, List.isEmpty_iff, edits, Entries.mapValues, List.map_eq_nil_iff]

end MeshDelta

end MeshRoom.Wire
