import MeshRoom.Proofs.Scene.Contents

/-!
# The meshes that a server has

A server has a payload for every mesh of a room and changes them by the entries of deltas, just as a
scene that follows the deltas does. When all entries can be read and all meshes are accepted, what a
scene shows and what the server has are told by the same decisions.

A reply lists the meshes that the server has at some moment. Who follows the reply has these meshes
as the server did, and the others as before. Followed among the deltas, and later than some that it
does not know of, a reply may put a mesh back to what it was.
-/

namespace MeshRoom

open Json Wire Contents

/-- The meshes that a server has. -/
abbrev ServedMeshes := Table MeshPayload

namespace ServedMeshes

/-- Follow an entry. -/
def follow (t : ServedMeshes) (e : String × Value) : ServedMeshes :=
  match MeshEdit.ofValue? e.2 with
  | none => t
  | some .remove => t.erase e.1
  | some (.upsert p) => t.insert e.1 p

/-- Follow deltas one after the other. -/
def followAll (ds : List MeshDelta) (t : ServedMeshes) : ServedMeshes :=
  ds.foldl (fun t d => d.meshes.foldl follow t) t

lemma followAll_append (ds ds' : List MeshDelta) (t : ServedMeshes) :
    followAll (ds ++ ds') t = followAll ds' (followAll ds t) := List.foldl_append

/-- What is to be shown of a mesh. -/
def content? (uuid : String) (t : ServedMeshes) : Option MeshContent :=
  t[uuid]?.bind fun p => (Geometry.decode p).toOption.map (MeshContent.ofPayload uuid p)

end ServedMeshes

/-- A payload that can be read, of a mesh that is accepted. -/
def IsSoundPayload (accepts : Geometry → Bool) (p : MeshPayload) : Prop :=
  ∃ g, Geometry.decode p = .ok g ∧ accepts g = true

/-- An entry that can be read: a removal, or a mesh that is accepted. -/
inductive IsSoundEntry (accepts : Geometry → Bool) (v : Value) : Prop where
  | remove (hv : MeshEdit.ofValue? v = some .remove)
  | upsert (p : MeshPayload) (hv : MeshEdit.ofValue? v = some (.upsert p))
      (hp : IsSoundPayload accepts p)

/-- Every mesh that a server has is accepted. -/
def ServedMeshes.AreSound (accepts : Geometry → Bool) (t : ServedMeshes) : Prop :=
  ∀ (uuid : String) (p : MeshPayload), t[uuid]? = some p → IsSoundPayload accepts p

/-- Every entry of a delta can be read, and its mesh is accepted. -/
def Wire.MeshDelta.IsSound (accepts : Geometry → Bool) (d : MeshDelta) : Prop :=
  ∀ e ∈ d.meshes, IsSoundEntry accepts e.2

/-- A reply lists the meshes of a server: it names each of them once, with its payload, and no
other. -/
structure Wire.MeshDelta.Lists (reply : MeshDelta) (t : ServedMeshes) : Prop where
  nodup : reply.meshes.keys.Nodup
  lookup (uuid : String) :
    reply.edits.lookup uuid = t[uuid]?.map fun p => some (MeshEdit.upsert p)

variable {accepts : Geometry → Bool}

/-! ### Decisions of deltas -/

/-- The last decision of deltas about a mesh, if there is one. -/
def lastDecision (accepts : Geometry → Bool) (uuid : String) (ds : List MeshDelta) :
    Option (Option MeshContent) :=
  (ds.flatMap fun d => decisions accepts uuid d.meshes).getLast?

/-- Later deltas decide before earlier ones. -/
lemma lastDecision_append (uuid : String) (ds ds' : List MeshDelta) :
    lastDecision accepts uuid (ds ++ ds')
      = (lastDecision accepts uuid ds').or (lastDecision accepts uuid ds) := by
  rw [lastDecision, List.flatMap_append, List.getLast?_append]
  rfl

lemma lastDecision_singleton (uuid : String) (d : MeshDelta) :
    lastDecision accepts uuid [d] = (decisions accepts uuid d.meshes).getLast? := by
  simp [lastDecision]

lemma decision?_remove {uuid : String} {v : Value} (hv : MeshEdit.ofValue? v = some .remove) :
    decision? accepts uuid v = some none := by
  simp [decision?, Scene.Instruction.ofValue, hv]

lemma decision?_upsert {uuid : String} {v : Value} {p : MeshPayload} {g : Geometry}
    (hv : MeshEdit.ofValue? v = some (.upsert p)) (hg : Geometry.decode p = .ok g)
    (haccepts : accepts g = true) :
    decision? accepts uuid v = some (some (.ofPayload uuid p g)) := by
  simp [decision?, Scene.Instruction.ofValue, hv, hg, haccepts]

/-- An entry that can be read decides. -/
lemma IsSoundEntry.isSome_decision? {v : Value} (h : IsSoundEntry accepts v) (uuid : String) :
    (decision? accepts uuid v).isSome := by
  cases h with
  | remove hv =>
    rw [decision?_remove hv]
    rfl
  | upsert p hv hp =>
    obtain ⟨g, hg, haccepts⟩ := hp
    rw [decision?_upsert hv hg haccepts]
    rfl

/-- Deltas that can be read decide about all meshes that they name. -/
lemma lastDecision_eq_none_iff {uuid : String} {ds : List MeshDelta}
    (hds : ∀ d ∈ ds, d.IsSound accepts) :
    lastDecision accepts uuid ds = none ↔ ∀ d ∈ ds, uuid ∉ d.meshes.keys := by
  rw [lastDecision, List.getLast?_eq_none_iff, List.flatMap_eq_nil_iff]
  refine forall₂_congr fun d hd => ⟨fun hnone hkey => ?_, decisions_eq_nil⟩
  obtain ⟨e, he, rfl⟩ := List.mem_map.1 hkey
  have hdecides : (decision? accepts e.1 e.2).isSome := (hds d hd e he).isSome_decision? e.1
  have hundecided : decision? accepts e.1 e.2 = none := by
    simpa using List.filterMap_eq_nil_iff.1 hnone e he
  rw [hundecided] at hdecides
  cases hdecides

/-! ### What a server has, by decisions -/

namespace ServedMeshes

lemma content?_insert {uuid : String} {p : MeshPayload} {g : Geometry} (t : ServedMeshes)
    (hg : Geometry.decode p = .ok g) (k : String) :
    content? k (t.insert uuid p)
      = if k = uuid then some (.ofPayload uuid p g) else content? k t := by
  rw [content?, getElem?_insert_ite]
  split
  case isTrue hk => simp [hk, hg, Except.toOption]
  case isFalse => rfl

lemma content?_erase (uuid : String) (t : ServedMeshes) (k : String) :
    content? k (t.erase uuid) = if k = uuid then none else content? k t := by
  rw [content?, getElem?_erase_ite]
  split
  case isTrue => rfl
  case isFalse => rfl

/-- An entry that can be read changes what a server has as it decides. -/
lemma content?_follow {e : String × Value} (he : IsSoundEntry accepts e.2) (t : ServedMeshes)
    (k : String) :
    content? k (follow t e)
      = if k = e.1 then (decision? accepts e.1 e.2).getD (content? k t) else content? k t := by
  cases he with
  | remove hv =>
    rw [follow, hv, decision?_remove hv]
    exact content?_erase e.1 t k
  | upsert p hv hp =>
    obtain ⟨g, hg, haccepts⟩ := hp
    rw [follow, hv, decision?_upsert hv hg haccepts]
    exact content?_insert t hg k

lemma content?_foldl_follow {es : List (String × Value)}
    (hes : ∀ e ∈ es, IsSoundEntry accepts e.2) (t : ServedMeshes) (k : String) :
    content? k (es.foldl follow t) = ((decisions accepts k es).getLast?).getD (content? k t) := by
  induction es generalizing t with
  | nil => rfl
  | cons e es ih =>
    rw [List.foldl_cons, ih fun e' he' => hes e' (List.mem_cons_of_mem e he'),
      content?_follow (hes e List.mem_cons_self)]
    by_cases hk : e.1 = k
    · subst hk
      cases hc : decision? accepts e.1 e.2 with
      | none => simp [decisions, hc]
      | some c => simp [decisions, hc, List.getLast?_cons]
    · simp [decisions, hk, Ne.symm hk]

/-- The last decision about a mesh counts. -/
lemma content?_followAll {ds : List MeshDelta} (hds : ∀ d ∈ ds, d.IsSound accepts)
    (t : ServedMeshes) (k : String) :
    content? k (followAll ds t) = (lastDecision accepts k ds).getD (content? k t) := by
  induction ds generalizing t with
  | nil => rfl
  | cons d ds ih =>
    have hsplit : lastDecision accepts k (d :: ds)
        = (lastDecision accepts k ds).or (decisions accepts k d.meshes).getLast? := by
      rw [← lastDecision_singleton, ← lastDecision_append]
      rfl
    have hrest : ∀ d' ∈ ds, d'.IsSound accepts := fun d' hd' => hds d' (List.mem_cons_of_mem d hd')
    rw [followAll, List.foldl_cons, ← followAll, ih hrest,
      content?_foldl_follow (hds d List.mem_cons_self), hsplit]
    cases lastDecision accepts k ds with
    | none => rfl
    | some c => rfl

lemma AreSound.follow {t : ServedMeshes} (ht : t.AreSound accepts) {e : String × Value}
    (he : IsSoundEntry accepts e.2) : (follow t e).AreSound accepts := by
  intro k p hp
  unfold ServedMeshes.follow at hp
  cases he with
  | remove hv =>
    rw [hv, getElem?_erase_ite] at hp
    split at hp
    case isTrue => cases hp
    case isFalse => exact ht k p hp
  | upsert q hv hq =>
    rw [hv, getElem?_insert_ite] at hp
    split at hp
    case isTrue =>
      obtain rfl := Option.some.inj hp
      exact hq
    case isFalse => exact ht k p hp

lemma AreSound.followAll {t : ServedMeshes} (ht : t.AreSound accepts) {ds : List MeshDelta}
    (hds : ∀ d ∈ ds, d.IsSound accepts) : (followAll ds t).AreSound accepts := by
  refine List.foldlRecOn (motive := AreSound accepts) ds _ ht fun t ht d hd => ?_
  refine List.foldlRecOn (motive := AreSound accepts) d.meshes _ ht fun t ht e he => ?_
  exact ht.follow (hds d hd e he)

end ServedMeshes

/-! ### Replies -/

/-- Entries that name each mesh once decide about a mesh only by its entry. -/
lemma decisions_of_nodup {es : Entries Value} (h : es.keys.Nodup) (uuid : String) :
    decisions accepts uuid es = ((es.lookup uuid).bind (decision? accepts uuid)).toList := by
  induction es with
  | nil => rfl
  | cons e es ih =>
    obtain ⟨k, v⟩ := e
    obtain ⟨hk, hes⟩ := List.nodup_cons.1 h
    by_cases hkey : k = uuid
    · subst hkey
      have hnil : decisions accepts k es = [] := decisions_eq_nil hk
      simp only [decisions] at hnil
      cases hc : decision? accepts k v <;> simp [decisions, hc, hnil]
    · rw [Entries.lookup_cons, if_neg (Ne.symm hkey), ← ih hes]
      simp [decisions, hkey]

lemma lookup_edits (d : MeshDelta) (uuid : String) :
    d.edits.lookup uuid = (d.meshes.lookup uuid).map MeshEdit.ofValue? :=
  Entries.lookup_mapValues _ _ _

/-- A reply decides about the meshes that the server has, as the server has them, and about no
other. -/
lemma lastDecision_reply {reply : MeshDelta} {t : ServedMeshes} (h : reply.Lists t)
    (ht : t.AreSound accepts) (uuid : String) :
    lastDecision accepts uuid [reply] = (t.content? uuid).map some := by
  have hlookup := (lookup_edits reply uuid).symm.trans (h.lookup uuid)
  rw [lastDecision_singleton, decisions_of_nodup h.nodup, ServedMeshes.content?]
  cases hv : reply.meshes.lookup uuid with
  | none =>
    rw [hv] at hlookup
    rw [Option.map_eq_none_iff.1 hlookup.symm]
    rfl
  | some v =>
    rw [hv] at hlookup
    obtain ⟨p, hp, hedit⟩ := Option.map_eq_some_iff.1 hlookup.symm
    obtain ⟨g, hg, haccepts⟩ := ht uuid p hp
    simp [hp, hg, decision?_upsert hedit.symm hg haccepts, Except.toOption]

/-- A reply does not name the meshes that the server does not have. -/
lemma content?_eq_none_iff {reply : MeshDelta} {t : ServedMeshes} (h : reply.Lists t)
    (ht : t.AreSound accepts) (uuid : String) :
    t.content? uuid = none ↔ uuid ∉ reply.meshes.keys := by
  have hlookup := (lookup_edits reply uuid).symm.trans (h.lookup uuid)
  rw [← Entries.lookup_eq_none_iff_notMem, ← Option.map_eq_none_iff (f := MeshEdit.ofValue?),
    hlookup, Option.map_eq_none_iff, ServedMeshes.content?]
  cases hp : t[uuid]? with
  | none => simp
  | some p =>
    obtain ⟨g, hg, -⟩ := ht uuid p hp
    simp [hg, Except.toOption]

/-! ### Replies among deltas -/

/-- The reply, which knew of the first `known` of the deltas and was applied after the first
`before` of them, put a mesh back to what it was before one of these, and no later delta names
it. -/
structure Overtaken (pushed : List MeshDelta) (known before : Nat) (reply : MeshDelta)
    (uuid : String) : Prop where
  listed : uuid ∈ reply.meshes.keys
  newer : ∃ d ∈ (pushed.take before).drop known, uuid ∈ d.meshes.keys
  last : ∀ d ∈ pushed.drop before, uuid ∉ d.meshes.keys

variable {pushed : List MeshDelta} {reply : MeshDelta} {t : ServedMeshes} {known before : Nat}

/-- Deltas that a reply does not know of were followed before it was applied or after that. -/
lemma mem_of_mem_drop (before : Nat) {d : MeshDelta} (hd : d ∈ pushed.drop known) :
    d ∈ (pushed.take before).drop known ∨ d ∈ pushed.drop before := by
  rw [← List.take_append_drop before pushed, List.drop_append] at hd
  exact (List.mem_append.1 hd).imp_right List.mem_of_mem_drop

lemma lastDecision_split (n : Nat) (ds : List MeshDelta) (uuid : String) :
    lastDecision accepts uuid ds
      = (lastDecision accepts uuid (ds.drop n)).or (lastDecision accepts uuid (ds.take n)) := by
  rw [← lastDecision_append, List.take_append_drop]

/-- A reply among deltas decides about what it lists, unless a later delta does. -/
lemma lastDecision_among (ht : t.AreSound accepts) (hreply : reply.Lists t)
    (before after : List MeshDelta) (uuid : String) :
    lastDecision accepts uuid (before ++ reply :: after)
      = (lastDecision accepts uuid after).or
        (((t.content? uuid).map some).or (lastDecision accepts uuid before)) := by
  rw [← lastDecision_reply hreply ht, ← lastDecision_append, ← lastDecision_append,
    List.append_assoc]
  rfl

/-- An overtaken mesh is as the server had it when it replied. -/
lemma content_of_overtaken (hpushed : ∀ d ∈ pushed, d.IsSound accepts) (ht : t.AreSound accepts)
    (hreply : reply.Lists (ServedMeshes.followAll (pushed.take known) t)) {uuid : String}
    (h : Overtaken pushed known before reply uuid) :
    (lastDecision accepts uuid (pushed.take before ++ reply :: pushed.drop before)).getD none
      = (ServedMeshes.followAll (pushed.take known) t).content? uuid := by
  have hlisted : (ServedMeshes.followAll (pushed.take known) t).AreSound accepts :=
    ht.followAll fun d hd => hpushed d (List.mem_of_mem_take hd)
  have hafter : lastDecision accepts uuid (pushed.drop before) = none :=
    (lastDecision_eq_none_iff fun d hd => hpushed d (List.mem_of_mem_drop hd)).2 h.last
  obtain ⟨c, hc⟩ := Option.ne_none_iff_exists'.1
    (mt (content?_eq_none_iff hreply hlisted uuid).1 (not_not_intro h.listed))
  rw [lastDecision_among hlisted hreply, hafter, hc]
  rfl

/-- A mesh that is not overtaken is as the server has it in the end. -/
lemma content_of_not_overtaken (hpushed : ∀ d ∈ pushed, d.IsSound accepts)
    (ht : t.AreSound accepts)
    (hreply : reply.Lists (ServedMeshes.followAll (pushed.take known) t)) {uuid : String}
    (h : ¬ Overtaken pushed known before reply uuid) :
    (lastDecision accepts uuid (pushed.take before ++ reply :: pushed.drop before)).getD none
      = (ServedMeshes.followAll pushed t).content? uuid := by
  have hknown : ∀ d ∈ pushed.take known, d.IsSound accepts :=
    fun d hd => hpushed d (List.mem_of_mem_take hd)
  have hlater : ∀ n, ∀ d ∈ pushed.drop n, d.IsSound accepts :=
    fun n d hd => hpushed d (List.mem_of_mem_drop hd)
  have hlisted : (ServedMeshes.followAll (pushed.take known) t).AreSound accepts :=
    ht.followAll hknown
  have hsame := ServedMeshes.content?_followAll hknown t uuid
  rw [lastDecision_among hlisted hreply, ServedMeshes.content?_followAll hpushed]
  cases hafter : lastDecision accepts uuid (pushed.drop before) with
  | some c =>
    rw [lastDecision_split before pushed, hafter]
    rfl
  | none =>
    have hbefore : lastDecision accepts uuid pushed
        = lastDecision accepts uuid (pushed.take before) := by
      rw [lastDecision_split before pushed, hafter, Option.none_or]
    cases hc : (ServedMeshes.followAll (pushed.take known) t).content? uuid with
    | some c =>
      -- the reply lists the mesh, so no delta names it that the reply does not know of
      have hkey : uuid ∈ reply.meshes.keys := not_not.1 fun hnot => by
        rw [(content?_eq_none_iff hreply hlisted uuid).2 hnot] at hc
        cases hc
      have hlast := (lastDecision_eq_none_iff (hlater before)).1 hafter
      have hnewer : lastDecision accepts uuid (pushed.drop known) = none := by
        refine (lastDecision_eq_none_iff (hlater known)).2 fun d hd hd' => ?_
        rcases mem_of_mem_drop before hd with hbetween | hend
        · exact h ⟨hkey, ⟨d, hbetween, hd'⟩, hlast⟩
        · exact hlast d hend hd'
      rw [lastDecision_split known pushed, hnewer, Option.none_or, Option.none_or, ← hsame, hc]
      rfl
    | none =>
      -- nothing is put back, so all decisions about the mesh are those of the deltas
      rw [hbefore]
      cases hd : lastDecision accepts uuid (pushed.take before) with
      | some c => rfl
      | none =>
        rw [hd, lastDecision_split known pushed, Option.or_eq_none_iff] at hbefore
        rw [hc, hbefore.2] at hsame
        exact hsame

end MeshRoom
