import MeshRoom.Json.Decode
import MeshRoom.Proofs.Json.Entries
import MeshRoom.Proofs.Json.Reading
import MeshRoom.Proofs.Number.Widening

/-!
# Records read back from their documents

A decoder restores what a document was made of if it reads the document's value back, wherever its
containers have room. Records are restored field by field: a field is found under its names as long
as no other field goes by one of them. Lists and entries are restored one by one.
-/

namespace MeshRoom.Json

variable {α : Type}

/-! ### Values of records -/

/-- All that a field holds has a property. -/
def Field.All (P : Document → Prop) (f : Field) : Prop := ∀ d ∈ f.content, P d

namespace Field

variable {P : Document → Prop}

@[simp] lemma all_always (name : String) (d : Document) : (always name d).All P ↔ P d := by
  simp [All, always]

@[simp] lemma all_given (name : String) (toDocument : α → Document) (x : Option α) :
    (given name toDocument x).All P ↔ ∀ y ∈ x, P (toDocument y) := by
  simp [All, given]

@[simp] lemma all_when (name : String) (present : Bool) (d : Document) :
    (when name present d).All P ↔ (present = true → P d) := by
  cases present <;> simp [All, when]

@[simp] lemma name_always (name : String) (d : Document) : (always name d).name = name := rfl

@[simp] lemma name_given (name : String) (toDocument : α → Document) (x : Option α) :
    (given name toDocument x).name = name := rfl

@[simp] lemma name_when (name : String) (present : Bool) (d : Document) :
    (when name present d).name = name := rfl

end Field

namespace Value

lemma depthMembers_le_iff {ms : List (String × Value)} {room : Nat} :
    depthMembers ms ≤ room ↔ ∀ m ∈ ms, m.2.depth ≤ room := by
  induction ms with
  | nil => simp [depthMembers]
  | cons m ms ih => simp [depthMembers, ih]

lemma distinctMembers_iff {ms : List (String × Value)} :
    DistinctMembers ms ↔ ∀ m ∈ ms, m.2.Distinct := by
  induction ms with
  | nil => simp [DistinctMembers]
  | cons m ms ih => simp [DistinctMembers, ih]

lemma depthItems_le_iff {vs : List Value} {room : Nat} :
    depthItems vs ≤ room ↔ ∀ v ∈ vs, v.depth ≤ room := by
  induction vs with
  | nil => simp [depthItems]
  | cons v vs ih => simp [depthItems, ih]

lemma distinctItems_iff {vs : List Value} : DistinctItems vs ↔ ∀ v ∈ vs, v.Distinct := by
  induction vs with
  | nil => simp [DistinctItems]
  | cons v vs ih => simp [DistinctItems, ih]

end Value

lemma Tree.ofValues_eq_map (vs : List Value) : ofValues vs = vs.map ofValue := by
  induction vs with
  | nil => rfl
  | cons v vs ih => rw [ofValues, ih, List.map_cons]

namespace Document

lemma toMembers_eq_map (ms : List (String × Document)) :
    toMembers ms = ms.map fun (k, d) => (k, d.toValue) := by
  induction ms with
  | nil => rfl
  | cons m ms ih => rw [toMembers, ih, List.map_cons]

lemma toValues_eq_map (ds : List Document) : toValues ds = ds.map toValue := by
  induction ds with
  | nil => rfl
  | cons d ds ih => rw [toValues, ih, List.map_cons]

/-- The values of the fields that are present. -/
def fieldValues (fields : List Field) : List (String × Value) :=
  fields.filterMap fun f => f.content.map fun d => (f.name, d.toValue)

lemma toValue_record (fields : List Field) :
    (record fields).toValue = .object (fieldValues fields) := by
  rw [record, toValue, toMembers_eq_map, List.map_filterMap]
  congr 2
  funext f
  rw [Field.member?, Option.map_map]
  rfl

/-- The names of a record are those of the fields that are present. -/
lemma keys_fieldValues (fields : List Field) : Entries.keys (fieldValues fields)
    = (fields.filter fun f => f.content.isSome).map Field.name := by
  induction fields with
  | nil => rfl
  | cons f fields ih =>
    rw [fieldValues, Entries.keys] at ih ⊢
    cases hcontent : f.content with
    | none => simp [hcontent, ih]
    | some d => simp [hcontent, ih]

lemma mem_fieldValues {fields : List Field} {m : String × Value} :
    m ∈ fieldValues fields ↔ ∃ f ∈ fields, ∃ d ∈ f.content, (f.name, d.toValue) = m := by
  simp [fieldValues]

lemma forall_mem_fieldValues {fields : List Field} {P : Value → Prop} :
    (∀ m ∈ fieldValues fields, P m.2) ↔ ∀ f ∈ fields, f.All fun d => P d.toValue := by
  constructor
  · intro h f hf d hd
    exact h _ (mem_fieldValues.2 ⟨f, hf, d, hd, rfl⟩)
  · intro h m hm
    obtain ⟨f, hf, d, hd, rfl⟩ := mem_fieldValues.1 hm
    exact h f hf d hd

/-- A record nests one deeper than its fields. -/
lemma depth_record_le_iff {fields : List Field} {room : Nat} :
    (record fields).toValue.depth ≤ room + 1 ↔
      ∀ f ∈ fields, f.All fun d => d.toValue.depth ≤ room := by
  rw [toValue_record, Value.depth, Nat.add_comm, Nat.add_le_add_iff_right,
    Value.depthMembers_le_iff]
  exact forall_mem_fieldValues (P := fun v => v.depth ≤ room)

/-- The value of a document has distinct names and nests no deeper than there is room. -/
structure Fits (d : Document) (room : Nat) : Prop where
  distinct : d.toValue.Distinct
  depth : d.toValue.depth ≤ room

lemma fits_bool (b : Bool) (room : Nat) : (bool b).Fits room := ⟨trivial, Nat.zero_le room⟩

lemma fits_number (n : Number) (room : Nat) : (number n).Fits room := ⟨trivial, Nat.zero_le room⟩

lemma fits_string (s : String) (room : Nat) : (string s).Fits room := ⟨trivial, Nat.zero_le room⟩

lemma fits_single (x : Single) (room : Nat) : (single x).Fits room := by
  refine ⟨?_, ?_⟩ <;> rw [toValue] <;> cases x.widen? with
  | none => first | trivial | exact Nat.zero_le room
  | some y => first | trivial | exact Nat.zero_le room

lemma fits_value {v : Value} {room : Nat} (hdistinct : v.Distinct) (hdepth : v.depth ≤ room) :
    (value v).Fits room := ⟨hdistinct, hdepth⟩

lemma Fits.mono {d : Document} {room room' : Nat} (h : d.Fits room) (hle : room ≤ room') :
    d.Fits room' := ⟨h.distinct, Nat.le_trans h.depth hle⟩

/-- A list fits if its items do. -/
lemma fits_array {ds : List Document} {room : Nat} (h : ∀ d ∈ ds, d.Fits room) :
    (array ds).Fits (room + 1) := by
  constructor
  · rw [toValue, toValues_eq_map, Value.Distinct, Value.distinctItems_iff]
    exact List.forall_mem_map.2 fun d hd => (h d hd).distinct
  · rw [toValue, toValues_eq_map, Value.depth, Nat.add_comm, Nat.add_le_add_iff_right,
      Value.depthItems_le_iff]
    exact List.forall_mem_map.2 fun d hd => (h d hd).depth

/-- Entries fit if what is under their names does and the names are distinct. -/
lemma fits_object {es : Entries Document} {room : Nat} (hkeys : es.keys.Nodup)
    (h : ∀ e ∈ es, e.2.Fits room) : (object es).Fits (room + 1) := by
  constructor
  · rw [toValue, toMembers_eq_map, Value.Distinct, Value.distinctMembers_iff]
    exact ⟨by simpa [Entries.keys, Function.comp_def] using hkeys,
      List.forall_mem_map.2 fun e he => (h e he).distinct⟩
  · rw [toValue, toMembers_eq_map, Value.depth, Nat.add_comm, Nat.add_le_add_iff_right,
      Value.depthMembers_le_iff]
    exact List.forall_mem_map.2 fun e he => (h e he).depth

/-- A record fits if its fields do and have names of their own. -/
lemma fits_record {fields : List Field} {room : Nat} (hnames : (fields.map Field.name).Nodup)
    (h : ∀ f ∈ fields, f.All (·.Fits room)) : (record fields).Fits (room + 1) := by
  refine ⟨?_, depth_record_le_iff.2 fun f hf d hd => (h f hf d hd).depth⟩
  rw [toValue_record, Value.Distinct, keys_fieldValues]
  exact ⟨(List.filter_sublist.map Field.name).nodup hnames,
    Value.distinctMembers_iff.2 (forall_mem_fieldValues.2 fun f hf d hd => (h f hf d hd).distinct)⟩

end Document

/-! ### Restoring -/

/-- A decoder reads back what a document was made of, wherever the document has room. -/
structure Decoder.Restores (dec : Decoder α) (d : Document) (x : α) : Prop where
  present : d.toValue ≠ .null
  reads : ∀ room, d.toValue.depth ≤ room → dec room (.ofValue d.toValue) = some x

namespace Decoder

variable {dec : Decoder α} {d : Document} {x : α}

/-- A value is read back by itself. -/
lemma Restores.onValue (h : dec.Restores d x) : dec.onValue d.toValue = some x :=
  h.reads _ (Nat.le_refl _)

lemma restores_bool (b : Bool) : bool.Restores (.bool b) b := ⟨nofun, fun _ _ => rfl⟩

lemma restores_string (s : String) : string.Restores (.string s) s := ⟨nofun, fun _ _ => rfl⟩

lemma restores_uint32 (n : UInt32) : uint32.Restores (.number (.ofUInt32 n)) n := by
  refine ⟨nofun, fun room _ => ?_⟩
  have hn : (0 : Int) ≤ n.toNat ∧ (n.toNat : Int).toNat < UInt32.size :=
    ⟨Int.natCast_nonneg _, n.toNat_lt⟩
  have hback : UInt32.ofNat (n.toNat : Int).toNat = n := UInt32.ofNat_toNat
  exact (if_pos hn).trans (congrArg some hback)

lemma restores_int64 (n : Int64) : int64.Restores (.number (.ofInt64 n)) n := by
  refine ⟨nofun, fun room _ => ?_⟩
  have hback : Int64.ofInt n.toInt = n := Int64.ofInt_toInt n
  exact (if_pos n.toInt_le).trans (congrArg some hback)

/-- A finite single goes through double precision unchanged. -/
lemma restores_single {x : Single} (h : x.isFinite) : single.Restores (.single x) x := by
  obtain ⟨y, hwiden, hnarrow⟩ := Single.exists_widen? h
  have hvalue : (Document.single x).toValue = .number (.real y) := by
    rw [Document.toValue, hwiden]
  refine ⟨by simp [hvalue], fun room _ => ?_⟩
  rw [hvalue]
  exact congrArg some hnarrow

lemma Restores.nullable (h : dec.Restores d x) : (nullable dec).Restores d (some x) := by
  refine ⟨h.present, fun room hroom => ?_⟩
  have hreads := h.reads room hroom
  have hpresent := h.present
  generalize d.toValue = v at hreads hpresent
  cases v with
  | null => exact absurd rfl hpresent
  | bool _ | number _ | string _ | array _ | object _ =>
    exact congrArg (Option.map some) hreads

/-- A list is restored item by item. -/
lemma restores_list {toDocument : α → Document} {xs : List α}
    (h : ∀ x ∈ xs, dec.Restores (toDocument x) x) :
    (list dec).Restores (.array (xs.map toDocument)) xs := by
  refine ⟨nofun, fun room hroom => ?_⟩
  rw [Document.toValue, Document.toValues_eq_map, Value.depth] at hroom
  cases room with
  | zero => omega
  | succ room =>
    rw [Nat.add_comm, Nat.add_le_add_iff_right, Value.depthItems_le_iff] at hroom
    rw [Document.toValue, Document.toValues_eq_map, Tree.ofValue, Tree.ofValues_eq_map, list]
    induction xs with
    | nil => rfl
    | cons x xs ih =>
      rw [List.forall_mem_cons] at h
      simp only [List.map_cons, List.forall_mem_cons] at hroom
      simp only [List.map_cons, List.mapM_cons, h.1.reads room hroom.1, ih h.2 hroom.2]
      rfl

lemma mapM_members {toValue : α → Value} {es : Entries α}
    {read : Option String × Tree → Option (String × α)}
    (h : ∀ e ∈ es, read (some e.1, .ofValue (toValue e.2)) = some e) :
    (Tree.ofMembers (es.mapValues toValue)).mapM read = some es := by
  induction es with
  | nil => rfl
  | cons e es ih =>
    rw [List.forall_mem_cons] at h
    rw [Entries.mapValues, List.map_cons, Tree.ofMembers, List.mapM_cons, ← Entries.mapValues,
      h.1, ih h.2]
    rfl

/-- Entries are read back name by name, if their names are distinct. -/
lemma entries_ofValue {toValue : α → Value} {es : Entries α} (hkeys : es.keys.Nodup)
    (h : ∀ e ∈ es, ∀ room, (toValue e.2).depth ≤ room →
      dec room (.ofValue (toValue e.2)) = some e.2)
    (room : Nat) (hroom : (Value.object (es.mapValues toValue)).depth ≤ room) :
    entries dec room (.ofValue (.object (es.mapValues toValue))) = some es := by
  rw [Value.depth] at hroom
  cases room with
  | zero => omega
  | succ room =>
    rw [Nat.add_comm, Nat.add_le_add_iff_right, Value.depthMembers_le_iff] at hroom
    rw [Tree.ofValue, entries, mapM_members]
    · exact congrArg some (Entries.ofPairs_of_nodup hkeys)
    · intro e he
      have hread : dec room (.ofValue (toValue e.2)) = some e.2 :=
        h e he room (List.forall_mem_map.1 hroom e he)
      dsimp only
      rw [hread]
      rfl

end Decoder

/-- A decoder does not read a document, wherever the document has room. -/
def Decoder.Refuses (dec : Decoder α) (d : Document) : Prop :=
  ∀ room, d.toValue.depth ≤ room → dec room (.ofValue d.toValue) = none

namespace Decoder

/-- What is not finite is written as `null`, which is no number. -/
lemma refuses_single {x : Single} (h : x.isFinite = false) : single.Refuses (.single x) := by
  intro room _
  have hvalue : (Document.single x).toValue = .null := by
    simp [Document.toValue, Single.widen?, h]
  rw [hvalue]
  rfl

lemma Refuses.nullable {dec : Decoder α} {d : Document} (h : dec.Refuses d)
    (hpresent : d.toValue ≠ .null) : (nullable dec).Refuses d := by
  intro room hroom
  have hnone := h room hroom
  generalize d.toValue = v at hnone hpresent
  cases v with
  | null => exact absurd rfl hpresent
  | bool _ | number _ | string _ | array _ | object _ => exact congrArg (Option.map some) hnone

end Decoder

/-! ### Open records -/

/-- What an open record that was written from fields holds. -/
structure Record.Holds (r : Record) (fields : List Field) : Prop where
  field : ∀ index names f, (fields.filter fun f => names.contains f.name) = [f] →
    r.field? index names = some (f.content.map fun d => .ofValue d.toValue)
  room : ∀ f ∈ fields, f.All fun d => d.toValue.depth ≤ r.room

namespace Document

/-- The trees of the fields that are present. -/
def fieldTrees (fields : List Field) : List (String × Tree) :=
  fields.filterMap fun f => f.content.map fun d => (f.name, .ofValue d.toValue)

lemma mapM_ofMembers (ms : List (String × Value)) :
    (Tree.ofMembers ms).mapM (fun (k, t) => k.map (·, t))
      = some (ms.map fun (k, v) => (k, Tree.ofValue v)) := by
  induction ms with
  | nil => rfl
  | cons m ms ih =>
    rw [Tree.ofMembers, List.mapM_cons, ih]
    rfl

lemma open?_record (count room : Nat) (fields : List Field) :
    Record.open? count (room + 1) (.ofValue (record fields).toValue)
      = some ⟨room, .inr (fieldTrees fields)⟩ := by
  have htrees : (fieldValues fields).map (fun (k, v) => (k, Tree.ofValue v))
      = fieldTrees fields := by
    rw [fieldValues, fieldTrees, List.map_filterMap]
    congr 1
    funext f
    rw [Option.map_map]
    rfl
  rw [toValue_record, Tree.ofValue, Record.open?, mapM_ofMembers, htrees]
  rfl

/-- The trees under some names are those of the fields that have the names. -/
lemma filter_fieldTrees (fields : List Field) (names : List String) :
    (fieldTrees fields).filter (fun (k, _) => names.contains k)
      = fieldTrees (fields.filter fun f => names.contains f.name) := by
  rw [fieldTrees, fieldTrees, List.filter_filterMap, List.filterMap_filter]
  congr 1
  funext f
  cases f.content with
  | none => simp
  | some d => rfl

/-- A record is opened wherever it has room. -/
lemma exists_open? (count : Nat) {fields : List Field} {room : Nat}
    (h : (record fields).toValue.depth ≤ room) : ∃ r : Record,
      Record.open? count room (.ofValue (record fields).toValue) = some r ∧ r.Holds fields := by
  match room with
  | 0 =>
    rw [toValue_record, Value.depth] at h
    omega
  | room + 1 =>
    refine ⟨_, open?_record count room fields, ?_, depth_record_le_iff.1 h⟩
    intro index names f hf
    dsimp only [Record.field?]
    rw [filter_fieldTrees, hf, fieldTrees]
    cases hcontent : f.content with
    | none => simp [hcontent]
    | some d => simp [hcontent]

end Document

namespace Record.Holds

variable {r : Record} {fields : List Field} {dec : Decoder α} {index : Nat} {names : List String}
  {name : String}

/-- What a field has is there, with room for it in the record. -/
lemma tree (h : r.Holds fields) (index : Nat) {f : Field} {d : Document}
    (hfield : (fields.filter fun f => names.contains f.name) = [f]) (hd : f.content = some d) :
    r.field? index names = some (some (.ofValue d.toValue)) ∧ d.toValue.depth ≤ r.room := by
  have hmem : f ∈ fields := List.mem_of_mem_filter (hfield ▸ List.mem_singleton_self f)
  refine ⟨?_, h.room f hmem d hd⟩
  rw [h.field index names f hfield, hd]
  rfl

/-- What a field has is read with the room of the record. -/
lemma reads (h : r.Holds fields) (index : Nat) {f : Field} {d : Document} {x : α}
    (hfield : (fields.filter fun f => names.contains f.name) = [f]) (hd : f.content = some d)
    (hx : ∀ room, d.toValue.depth ≤ room → dec room (.ofValue d.toValue) = some x) :
    r.field? index names = some (some (.ofValue d.toValue)) ∧
      dec r.room (.ofValue d.toValue) = some x := by
  obtain ⟨htree, hroom⟩ := h.tree index hfield hd
  exact ⟨htree, hx _ hroom⟩

/-- A field that is always written is there to be read. -/
lemma required (h : r.Holds fields) {d : Document} {x : α}
    (hfield : (fields.filter fun f => names.contains f.name) = [.always name d])
    (hx : dec.Restores d x) : r.required index names dec = some x := by
  obtain ⟨htree, hread⟩ := h.reads index hfield rfl hx.reads
  rw [Record.required, htree]
  exact hread

/-- So it is where it has a default. -/
lemma always (h : r.Holds fields) {d : Document} {x dflt : α}
    (hfield : (fields.filter fun f => names.contains f.name) = [.always name d])
    (hx : dec.Restores d x) : r.optional index names dec dflt = some x := by
  obtain ⟨htree, hread⟩ := h.reads index hfield rfl hx.reads
  rw [Record.optional, htree]
  exact hread

/-- A field that is refused is not read, whether it has a default or not. -/
lemma refused (h : r.Holds fields) {f : Field} {d : Document} (dflt : α)
    (hfield : (fields.filter fun f => names.contains f.name) = [f]) (hd : f.content = some d)
    (hx : dec.Refuses d) :
    r.required index names dec = none ∧ r.optional index names dec dflt = none := by
  obtain ⟨htree, hroom⟩ := h.tree index hfield hd
  rw [Record.required, Record.optional, htree]
  exact ⟨hx _ hroom, hx _ hroom⟩

/-- A field that is written when it has a value is read back, no value being its default. -/
lemma given (h : r.Holds fields) {toDocument : α → Document} {x : Option α}
    (hfield : (fields.filter fun f => names.contains f.name) = [.given name toDocument x])
    (hx : ∀ y ∈ x, dec.Restores (toDocument y) y) :
    r.optional index names (.nullable dec) none = some x := by
  cases x with
  | none =>
    rw [Record.optional, h.field index names _ hfield]
    rfl
  | some y =>
    obtain ⟨htree, hread⟩ := h.reads index hfield rfl (hx y rfl).nullable.reads
    rw [Record.optional, htree]
    exact hread

/-- A field that is written unless it has its default is read back. -/
lemma when (h : r.Holds fields) {present : Bool} {d : Document} {x dflt : α}
    (hfield : (fields.filter fun f => names.contains f.name) = [.when name present d])
    (hx : present = true → dec.Restores d x) (hdflt : present = false → dflt = x) :
    r.optional index names dec dflt = some x := by
  cases present with
  | false =>
    rw [Record.optional, h.field index names _ hfield, hdflt rfl]
    rfl
  | true =>
    obtain ⟨htree, hread⟩ := h.reads index hfield rfl (hx rfl).reads
    rw [Record.optional, htree]
    exact hread

/-- So is a flag that is written when it is set, its default being not to be set. -/
lemma flag (h : r.Holds fields) {b : Bool}
    (hfield : (fields.filter fun f => names.contains f.name) = [.when name b (.bool b)]) :
    r.optional index names .bool false = some b :=
  h.when hfield (fun _ => Decoder.restores_bool b) Eq.symm

/-- A field of any value is read back, `null` included. -/
lemma value (h : r.Holds fields) {v dflt : Value} (hv : v.Distinct)
    (hfield : (fields.filter fun f => names.contains f.name) = [.always name (.value v)]) :
    r.optional index names .value dflt = some v := by
  have hv : ∀ room, v.depth ≤ room → Decoder.value room (.ofValue v) = some v :=
    fun room hroom => Tree.value?_ofValue v room hroom hv
  obtain ⟨htree, hread⟩ := h.reads index hfield rfl hv
  rw [Record.optional, htree]
  exact hread

end Record.Holds

end MeshRoom.Json
