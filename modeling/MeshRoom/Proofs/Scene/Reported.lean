import MeshRoom.Proofs.Scene.Reporting
import MeshRoom.Proofs.View.Headless
import MeshRoom.Proofs.View.Recording
import Mathlib.Data.List.Nodup

/-!
# Reports are exact

The report of a delta sorts the meshes that the delta names by whether they were there before and
whether they are there afterwards, in the order of the delta. A mesh in none of the lists is as it
was, its objects included. What has failed is what could not be read, or what the view rejected at
its turn.

All that a delta does to the view is about objects, until the camera is set at the end.
-/

namespace MeshRoom

open Json Relation Wire

/-- What a fate means for a mesh: whether it was there before, whether it is there afterwards, and
whether the entry asked for it. -/
def EntryFate.Means (before after asked : Bool) : EntryFate → Prop
  | .added => before = false ∧ after = true ∧ asked = true
  | .rebuilt => before = true ∧ after = true ∧ asked = true
  | .removed => before = true ∧ after = false ∧ asked = false
  | .unknown => before = false ∧ after = false ∧ asked = false
  | .unread _ => before = after ∧ asked = false
  | .rejected _ replaced => before = replaced ∧ after = false ∧ asked = true

namespace EntryFate.Means

variable {f : EntryFate} {before after asked : Bool}

lemma eq_added (h : f.Means before after asked) : decide (f = .added) = (!before && after) := by
  cases f <;> simp_all [Means]

lemma eq_rebuilt (h : f.Means before after asked) :
    decide (f = .rebuilt) = (before && after && asked) := by
  cases f <;> simp_all [Means]

lemma isLoss_eq (h : f.Means before after asked) : f.isLoss = (before && !after) := by
  cases f <;> simp_all [Means, isLoss]

end EntryFate.Means

/-! ### Lists of a report -/

namespace Report

variable {r : Report} {p : EntryFate → Bool}

lemma sublist_having (r : Report) (p : EntryFate → Bool) :
    (r.having p).Sublist (r.fates.map Prod.fst) :=
  List.filter_sublist.map _

lemma having_cons (uuid : String) (f : EntryFate) (fates : List (String × EntryFate))
    (framed : Bool) (p : EntryFate → Bool) : having ⟨(uuid, f) :: fates, framed⟩ p
      = if p f then uuid :: having ⟨fates, framed⟩ p else having ⟨fates, framed⟩ p := by
  cases hp : p f <;> simp [having, hp]

lemma mem_failed {uuid : String} {e : EntryError} :
    (uuid, e) ∈ r.failed ↔ ∃ f, (uuid, f) ∈ r.fates ∧ f.error? = some e := by
  simp [failed]

lemma map_fst_failed (r : Report) :
    r.failed.map Prod.fst = r.having fun f => f.error?.isSome := by
  obtain ⟨fates, framed⟩ := r
  simp only [failed, having]
  induction fates with
  | nil => rfl
  | cons f fates ih =>
    cases herror : f.2.error? with
    | none => simpa [herror] using ih
    | some e => simpa [herror] using ih

/-! #### Where every mesh has one fate -/

section

variable (hkeys : (r.fates.map Prod.fst).Nodup)
include hkeys

lemma fate_unique {uuid : String} {f f' : EntryFate} (h : (uuid, f) ∈ r.fates)
    (h' : (uuid, f') ∈ r.fates) : f = f' :=
  congrArg Prod.snd (List.inj_on_of_nodup_map hkeys h h' rfl)

lemma nodup_having (p : EntryFate → Bool) : (r.having p).Nodup :=
  hkeys.sublist (r.sublist_having p)

/-- The meshes of one fate have no fate of a kind that excludes it. -/
lemma disjoint_having_eq {f : EntryFate} (h : p f = false) :
    (r.having (· = f)).Disjoint (r.having p) := by
  intro uuid hp hp'
  obtain ⟨f₁, hf₁, heq⟩ := mem_having.1 hp
  obtain ⟨f₂, hf₂, hpf⟩ := mem_having.1 hp'
  rw [← fate_unique hkeys hf₁ hf₂, of_decide_eq_true heq, h] at hpf
  cases hpf

lemma nodup_added_updated_removed : (r.added ++ r.updated ++ r.removed).Nodup := by
  have hgains : r.added.Disjoint r.updated := disjoint_having_eq hkeys rfl
  have hadded : r.added.Disjoint r.removed := disjoint_having_eq hkeys rfl
  have hupdated : r.updated.Disjoint r.removed := disjoint_having_eq hkeys rfl
  exact ((nodup_having hkeys _).append (nodup_having hkeys _) hgains).append (nodup_having hkeys _)
    (List.disjoint_append_left.2 ⟨hadded, hupdated⟩)

lemma disjoint_failed : (r.failed.map Prod.fst).Disjoint (r.added ++ r.updated) := by
  have hadded : r.added.Disjoint (r.failed.map Prod.fst) :=
    map_fst_failed r ▸ disjoint_having_eq hkeys rfl
  have hupdated : r.updated.Disjoint (r.failed.map Prod.fst) :=
    map_fst_failed r ▸ disjoint_having_eq hkeys rfl
  exact List.disjoint_symm (List.disjoint_append_left.2 ⟨hadded, hupdated⟩)

/-- What has failed and is gone is what was rejected while it was to replace a mesh. -/
lemma mem_failed_and_removed_iff {uuid : String} :
    uuid ∈ r.failed.map Prod.fst ∧ uuid ∈ r.removed
      ↔ ∃ e, (uuid, EntryFate.rejected e true) ∈ r.fates := by
  rw [map_fst_failed, mem_having, mem_removed]
  constructor
  · rintro ⟨⟨f, hf, herror⟩, ⟨f', hf', hloss⟩⟩
    obtain rfl := fate_unique hkeys hf hf'
    cases f with
    | rejected e replaced =>
      obtain rfl : replaced = true := hloss
      exact ⟨e, hf⟩
    | added | rebuilt | removed | unknown => cases herror
    | unread => cases hloss
  · rintro ⟨e, he⟩
    exact ⟨⟨_, he, rfl⟩, ⟨_, he, rfl⟩⟩

end

end Report

/-! ### What is done to objects -/

/-- One thing that is done to the objects of a view. -/
inductive View.ObjectStep {V : Type} [View V] : V → V → Prop where
  | build {name : String} {g : Geometry} {face : Face} {visible : Bool} {v v' : V} {h : Handle}
    (hbuild : View.build name g face visible v = .ok (h, v')) : ObjectStep v v'
  | attach (h : Handle) (v : V) : ObjectStep v (View.attach h v)
  | detach (h : Handle) (v : V) : ObjectStep v (View.detach h v)
  | dispose (h : Handle) (v : V) : ObjectStep v (View.dispose h v)

/-- A recording view records what is done to its objects. -/
lemma RecordingView.calls_of_objectStep {v v' : RecordingView} (h : View.ObjectStep v v') :
    ∃ c : ViewCall, c.handle?.isSome ∧ v'.calls = v.calls ++ [c] := by
  cases h with
  | build hbuild =>
    simp only [View.build, RecordingView.build] at hbuild
    split at hbuild
    · cases hbuild
    · cases hbuild
      exact ⟨.build _ _ _, rfl, rfl⟩
  | attach h => exact ⟨.attach h, rfl, rfl⟩
  | detach h => exact ⟨.detach h, rfl, rfl⟩
  | dispose h => exact ⟨.dispose h, rfl, rfl⟩

lemma RecordingView.calls_of_objectSteps {v v' : RecordingView}
    (h : ReflTransGen View.ObjectStep v v') :
    ∃ cs : List ViewCall, (∀ c ∈ cs, c.handle?.isSome) ∧ v'.calls = v.calls ++ cs := by
  induction h with
  | refl => exact ⟨[], by simp, by simp⟩
  | tail _ hstep ih =>
    obtain ⟨cs, hcs, hcalls⟩ := ih
    obtain ⟨c, hc, hcall⟩ := calls_of_objectStep hstep
    refine ⟨cs ++ [c], ?_, ?_⟩
    · simpa [or_imp, forall_and] using ⟨hcs, hc⟩
    · rw [hcall, hcalls, List.append_assoc]

namespace Scene

variable {V : Type} [View V]

lemma objectSteps_release (r : Resource) (v : V) :
    ReflTransGen View.ObjectStep v (release r v) :=
  .tail (.tail (.tail (.single (.detach r.primary v)) (.detach r.backface _))
    (.dispose r.primary _)) (.dispose r.backface _)

lemma objectSteps_evict (uuid : String) (s : Scene V) :
    ReflTransGen View.ObjectStep s.view (s.evict uuid).view := by
  unfold evict
  split
  · exact .refl
  · exact objectSteps_release _ _

lemma objectSteps_build {uuid : String} {p : MeshPayload} {g : Geometry} {v v' : V}
    {result : Except Rejection Resource} (h : build uuid p g v = (result, v')) :
    ReflTransGen View.ObjectStep v v' := by
  unfold build at h
  dsimp only at h
  split at h
  case h_1 =>
    cases h
    exact .refl
  case h_2 primary v₁ hfront =>
    split at h
    case h_1 =>
      cases h
      exact .tail (.single (.build hfront)) (.dispose primary v₁)
    case h_2 backface v₂ hback =>
      cases h
      exact .tail (.tail (.tail (.single (.build hfront)) (.build hback)) (.attach primary v₂))
        (.attach backface _)

variable {uuid : String} {v : Value} {s : Scene V} {fs : EntryFate × Scene V}

lemma EntryRule.objectSteps (h : EntryRule uuid v s fs) :
    ReflTransGen View.ObjectStep s.view fs.2.view := by
  cases h with
  | unread => exact .refl
  | remove => exact objectSteps_evict uuid s
  | build p g r view hv hbuild => exact (objectSteps_evict uuid s).trans (objectSteps_build hbuild)
  | reject p g e view hv hbuild => exact (objectSteps_evict uuid s).trans (objectSteps_build hbuild)

lemma objectSteps_applyEntries (es : List (String × Value)) (s : Scene V) :
    ReflTransGen View.ObjectStep s.view (s.applyEntries es).2.view := by
  induction es generalizing s with
  | nil => exact .refl
  | cons e es ih => exact (EntryRule.of_applyEntry e.1 e.2 s).objectSteps.trans (ih _)

/-- The camera is set once the objects are as they should be. -/
lemma exists_view_apply (delta : MeshDelta) (refresh : Bool) (s : Scene V) :
    ∃ v, ReflTransGen View.ObjectStep s.view v ∧ (s.apply delta refresh).2.view
      = View.recenter refresh (if (s.apply delta refresh).1.framed then View.fit v else v) :=
  ⟨_, objectSteps_applyEntries delta.meshes s, rfl⟩

/-! ### An entry -/

/-- Whether an entry can be read and asks for a mesh. -/
def asksForMesh (v : Value) : Bool :=
  match Instruction.ofValue v with
  | .ok (.replace _ _) => true
  | _ => false

lemma Instruction.ofValue_ne_rejected (v : Value) (e : Rejection) :
    Instruction.ofValue v ≠ .error (.rejected e) := by
  unfold Instruction.ofValue
  split
  · simp
  · simp
  · split <;> simp

/-- Why an entry is not followed: it cannot be read, or the view rejects what it asks for once the
objects that the mesh had are given up. -/
def refusal? (uuid : String) (v : Value) (s : Scene V) : Option EntryError :=
  match Instruction.ofValue v with
  | .error e => some e
  | .ok .remove => none
  | .ok (.replace p g) =>
    match (build uuid p g (s.evict uuid).view).1 with
    | .ok _ => none
    | .error r => some (.rejected r)

namespace EntryRule

lemma means (h : EntryRule uuid v s fs) :
    fs.1.Means (s.has uuid) (fs.2.has uuid) (asksForMesh v) := by
  cases h with
  | unread e hv => exact ⟨rfl, by simp [asksForMesh, hv]⟩
  | remove hv =>
    have hgone : (s.evict uuid).has uuid = false := by simp [has_eq_isSome, resource?_evict]
    cases s.has uuid <;> simp [EntryFate.Means, hgone, asksForMesh, hv]
  | build p g r view hv hbuild =>
    have hthere : (Scene.mk view ((s.evict uuid).meshes.insert uuid r)).has uuid = true := by
      simp [has_eq_isSome, resource?_insert]
    cases s.has uuid <;> simp [EntryFate.Means, hthere, asksForMesh, hv]
  | reject p g e view hv hbuild =>
    have hgone : (Scene.mk view (s.evict uuid).meshes).has uuid = false := by
      simp [has_eq_isSome, resource?_withView, resource?_evict]
    simp [EntryFate.Means, hgone, asksForMesh, hv]

lemma error?_eq (h : EntryRule uuid v s fs) : fs.1.error? = refusal? uuid v s := by
  cases h with
  | unread e hv => simp [refusal?, hv, EntryFate.error?]
  | remove hv => cases s.has uuid <;> simp [refusal?, hv, EntryFate.error?]
  | build p g r view hv hbuild =>
    cases s.has uuid <;> simp [refusal?, hv, hbuild, EntryFate.error?]
  | reject p g e view hv hbuild => simp [refusal?, hv, hbuild, EntryFate.error?]

/-- Only what was read can be rejected. -/
lemma eq_rejected (h : EntryRule uuid v s fs) {e : Rejection}
    (he : fs.1.error? = some (.rejected e)) : fs.1 = .rejected e (s.has uuid) := by
  cases h with
  | unread e' hv =>
    obtain rfl : e' = .rejected e := Option.some.inj he
    exact absurd hv (Instruction.ofValue_ne_rejected v e)
  | remove => cases hhas : s.has uuid <;> simp [hhas, EntryFate.error?] at he
  | build => cases hhas : s.has uuid <;> simp [hhas, EntryFate.error?] at he
  | reject p g e' =>
    obtain rfl : e' = e := by simpa [EntryFate.error?] using he
    rfl

/-- An entry that neither adds nor rebuilds nor removes its mesh leaves it alone. -/
lemma resource?_of_not_listed (h : EntryRule uuid v s fs) (hgain : fs.1.isGain = false)
    (hloss : fs.1.isLoss = false) : fs.2.resource? uuid = s.resource? uuid := by
  cases h with
  | unread => rfl
  | remove hv =>
    cases hhas : s.has uuid with
    | true => simp [hhas, EntryFate.isLoss] at hloss
    | false => rw [resource?_evict, if_pos rfl, resource?_of_not_has hhas]
  | build p g r view hv hbuild => cases hhas : s.has uuid <;> simp [hhas, EntryFate.isGain] at hgain
  | reject p g e view hv hbuild =>
    have hhas : s.has uuid = false := hloss
    rw [resource?_withView, resource?_evict, if_pos rfl, resource?_of_not_has hhas]

end EntryRule

/-! ### Entries at their turn -/

lemma resource?_applyEntries_of_notMem {es : List (String × Value)} {k : String}
    (hk : k ∉ Entries.keys es) (s : Scene V) :
    (s.applyEntries es).2.resource? k = s.resource? k := by
  induction es generalizing s with
  | nil => rfl
  | cons e es ih =>
    obtain ⟨hne, hk⟩ := not_or.1 (mt List.mem_cons.2 hk)
    exact (ih hk _).trans ((EntryRule.of_applyEntry e.1 e.2 s).resource?_of_ne hne)

lemma has_applyEntries_of_notMem {es : List (String × Value)} {k : String}
    (hk : k ∉ Entries.keys es) (s : Scene V) : (s.applyEntries es).2.has k = s.has k := by
  rw [has_eq_isSome, has_eq_isSome, resource?_applyEntries_of_notMem hk]

lemma applyEntries_append (before after : List (String × Value)) (s : Scene V) :
    s.applyEntries (before ++ after)
      = ((s.applyEntries before).1 ++ ((s.applyEntries before).2.applyEntries after).1,
        ((s.applyEntries before).2.applyEntries after).2) := by
  induction before generalizing s with
  | nil => rfl
  | cons e before ih => simp [applyEntries, ih]

lemma map_fst_applyEntries (es : List (String × Value)) (s : Scene V) :
    (s.applyEntries es).1.map Prod.fst = Entries.keys es := by
  induction es generalizing s with
  | nil => rfl
  | cons e es ih => exact congrArg (e.1 :: ·) (ih _)

lemma mem_keys_of_mem_applyEntries {es : List (String × Value)} {k : String} {f : EntryFate}
    (h : (k, f) ∈ (s.applyEntries es).1) : k ∈ Entries.keys es := by
  rw [← map_fst_applyEntries es s]
  exact List.mem_map.2 ⟨_, h, rfl⟩

lemma notMem_of_nodup_keys {before after : List (String × Value)} {k : String}
    (hkeys : (Entries.keys (before ++ (k, v) :: after)).Nodup) :
    k ∉ Entries.keys before ∧ k ∉ Entries.keys after := by
  rw [Entries.keys, List.map_append, List.map_cons, List.nodup_middle, List.nodup_cons,
    List.mem_append, not_or] at hkeys
  exact hkeys.1

/-- The fate of a mesh is decided at its turn. -/
lemma mem_applyEntries_iff {before after : List (String × Value)} {k : String} {f : EntryFate}
    (hkeys : (Entries.keys (before ++ (k, v) :: after)).Nodup) :
    (k, f) ∈ (s.applyEntries (before ++ (k, v) :: after)).1
      ↔ f = ((s.applyEntries before).2.applyEntry k v).1 := by
  obtain ⟨hbefore, hafter⟩ := notMem_of_nodup_keys hkeys
  have hcons : (s.applyEntries (before ++ (k, v) :: after)).1 = (s.applyEntries before).1
      ++ (k, ((s.applyEntries before).2.applyEntry k v).1)
        :: (((s.applyEntries before).2.applyEntry k v).2.applyEntries after).1 :=
    congrArg Prod.fst (applyEntries_append before _ s)
  rw [hcons, List.mem_append, List.mem_cons, Prod.mk.injEq]
  constructor
  · rintro (h | ⟨-, rfl⟩ | h)
    · exact absurd (mem_keys_of_mem_applyEntries h) hbefore
    · rfl
    · exact absurd (mem_keys_of_mem_applyEntries h) hafter
  · exact fun h => .inr (.inl ⟨rfl, h⟩)

/-- What came of an entry is what following it gave, the mesh being before its turn as it was in the
beginning, and in the end as it was after its turn. -/
lemma exists_rule_of_mem {es : List (String × Value)} (hkeys : (Entries.keys es).Nodup)
    {k : String} {f : EntryFate} (h : (k, f) ∈ (s.applyEntries es).1) :
    ∃ (v : Value) (sₖ s' : Scene V), EntryRule k v sₖ (f, s') ∧ sₖ.resource? k = s.resource? k ∧
      (s.applyEntries es).2.resource? k = s'.resource? k := by
  obtain ⟨e, he, rfl⟩ := List.mem_map.1 (mem_keys_of_mem_applyEntries h)
  obtain ⟨before, after, rfl⟩ := List.append_of_mem he
  obtain ⟨hbefore, hafter⟩ := notMem_of_nodup_keys hkeys
  let sₖ := (s.applyEntries before).2
  refine ⟨e.2, sₖ, (sₖ.applyEntry e.1 e.2).2, ?_, ?_, ?_⟩
  · rw [(mem_applyEntries_iff hkeys).1 h]
    exact .of_applyEntry e.1 e.2 sₖ
  · exact resource?_applyEntries_of_notMem hbefore s
  · rw [applyEntries_append]
    exact resource?_applyEntries_of_notMem hafter _

/-- The meshes with a fate of some kind, if the kind shows in whether the mesh is there before and
afterwards and in what the entry asks for. -/
lemma having_applyEntries {p : EntryFate → Bool} {q : Bool → Bool → Bool → Bool}
    (hpq : ∀ {f : EntryFate} {before after asked}, f.Means before after asked →
      p f = q before after asked) {es : List (String × Value)} (hkeys : (Entries.keys es).Nodup)
    (framed : Bool) (s : Scene V) : Report.having ⟨(s.applyEntries es).1, framed⟩ p
      = Entries.keys (es.filter fun e =>
        q (s.has e.1) ((s.applyEntries es).2.has e.1) (asksForMesh e.2)) := by
  induction es generalizing s with
  | nil => rfl
  | cons e es ih =>
    obtain ⟨hnot, hkeys⟩ := List.nodup_cons.1 hkeys
    have hrule := EntryRule.of_applyEntry e.1 e.2 s
    have hentries : s.applyEntries (e :: es)
        = ((e.1, (s.applyEntry e.1 e.2).1) :: ((s.applyEntry e.1 e.2).2.applyEntries es).1,
          ((s.applyEntry e.1 e.2).2.applyEntries es).2) := rfl
    generalize s.applyEntry e.1 e.2 = fs at hrule hentries
    obtain ⟨f, s₁⟩ := fs
    -- no later entry names the first mesh, and the first entry leaves the later meshes alone
    have hhead : q (s.has e.1) ((s₁.applyEntries es).2.has e.1) (asksForMesh e.2) = p f := by
      rw [has_applyEntries_of_notMem hnot, hpq hrule.means]
    have hsame : ∀ e' ∈ es, s₁.has e'.1 = s.has e'.1 := by
      intro e' he'
      have hne : e'.1 ≠ e.1 := fun heq => hnot (List.mem_map.2 ⟨e', he', heq⟩)
      rw [has_eq_isSome, has_eq_isSome, hrule.resource?_of_ne hne]
    have htail : es.filter (fun e' =>
          q (s₁.has e'.1) ((s₁.applyEntries es).2.has e'.1) (asksForMesh e'.2))
        = es.filter fun e' =>
          q (s.has e'.1) ((s₁.applyEntries es).2.has e'.1) (asksForMesh e'.2) :=
      List.filter_congr fun e' he' => by rw [hsame e' he']
    rw [hentries, Report.having_cons, ih hkeys s₁, htail, List.filter_cons, hhead,
      apply_ite Entries.keys]
    rfl

/-! ### Deltas -/

/-- What a delta does to a scene is what its report says. -/
structure Reported (s : Scene V) (delta : MeshDelta) (refresh : Bool) (r : Report) (s' : Scene V) :
    Prop where
  /-- What was not there before and is there afterwards has been added. -/
  added : r.added = Entries.keys (delta.meshes.filter fun e => !s.has e.1 && s'.has e.1)
  /-- What was there before and is not there afterwards has been removed. -/
  removed : r.removed = Entries.keys (delta.meshes.filter fun e => s.has e.1 && !s'.has e.1)
  /-- What is there before and afterwards has been updated if the entry asks for a mesh. -/
  updated : r.updated
    = Entries.keys (delta.meshes.filter fun e => s.has e.1 && s'.has e.1 && asksForMesh e.2)
  /-- No mesh is listed twice. -/
  nodup : (r.added ++ r.updated ++ r.removed).Nodup
  /-- What is not listed is as it was. -/
  unlisted (k : String) (hadded : k ∉ r.added) (hupdated : k ∉ r.updated)
    (hremoved : k ∉ r.removed) : s'.resource? k = s.resource? k
  /-- What has failed is told in the order of the delta. -/
  failed : (r.failed.map Prod.fst).Sublist delta.meshes.keys
  /-- An entry fails if it is refused at its turn. -/
  mem_failed_iff (before after : List (String × Value)) (k : String) (v : Value) (e : EntryError)
    (h : delta.meshes = before ++ (k, v) :: after) :
    (k, e) ∈ r.failed ↔ refusal? k v (s.applyEntries before).2 = some e
  /-- What has failed has been neither added nor updated. -/
  failed_disjoint : (r.failed.map Prod.fst).Disjoint (r.added ++ r.updated)
  /-- What has failed has been removed if it was there and its replacement was rejected. -/
  failed_removed (k : String) : k ∈ r.failed.map Prod.fst ∧ k ∈ r.removed
    ↔ s.has k = true ∧ ∃ e, (k, .rejected e) ∈ r.failed
  /-- The meshes are framed if they are the first ones. -/
  framed : r.framed = (s.isEmpty && !s'.isEmpty)
  /-- The camera is set once the objects are as they should be. -/
  view : ∃ v, ReflTransGen View.ObjectStep s.view v ∧
    s'.view = View.recenter refresh (if r.framed then View.fit v else v)

/-- What a delta names and does not list is as it was. -/
lemma resource?_of_unlisted {delta : MeshDelta} (hkeys : delta.meshes.keys.Nodup) (refresh : Bool)
    {k : String} (hshown : k ∉ (s.apply delta refresh).1.shown)
    (hremoved : k ∉ (s.apply delta refresh).1.removed) :
    (s.apply delta refresh).2.resource? k = s.resource? k := by
  by_cases hk : k ∈ delta.meshes.keys
  · rw [← map_fst_applyEntries delta.meshes s] at hk
    obtain ⟨⟨_, f⟩, hf, rfl⟩ := List.mem_map.1 hk
    obtain ⟨v, sₖ, s', hrule, hbefore, hafter⟩ := exists_rule_of_mem hkeys hf
    have hgain : f.isGain = false :=
      Bool.eq_false_iff.2 fun hgain => hshown (Report.mem_shown.2 ⟨f, hf, hgain⟩)
    have hloss : f.isLoss = false :=
      Bool.eq_false_iff.2 fun hloss => hremoved (Report.mem_removed.2 ⟨f, hf, hloss⟩)
    exact hafter.trans ((hrule.resource?_of_not_listed hgain hloss).trans hbefore)
  · exact resource?_applyEntries_of_notMem hk s

lemma mem_failed_apply_iff {before after : List (String × Value)} {k : String}
    (hkeys : (Entries.keys (before ++ (k, v) :: after)).Nodup) (refresh : Bool) {e : EntryError} :
    (k, e) ∈ (s.apply ⟨before ++ (k, v) :: after⟩ refresh).1.failed
      ↔ refusal? k v (s.applyEntries before).2 = some e := by
  rw [Report.mem_failed, ← (EntryRule.of_applyEntry k v (s.applyEntries before).2).error?_eq]
  constructor
  · rintro ⟨f, hf, herror⟩
    rwa [← (mem_applyEntries_iff hkeys).1 hf]
  · exact fun herror => ⟨_, (mem_applyEntries_iff hkeys).2 rfl, herror⟩

/-- What was rejected while it was to replace a mesh is what was rejected and was there. -/
lemma rejected_true_mem_iff {es : List (String × Value)} (hkeys : (Entries.keys es).Nodup)
    {k : String} {e : Rejection} : (k, EntryFate.rejected e true) ∈ (s.applyEntries es).1
      ↔ s.has k = true ∧ ∃ f, (k, f) ∈ (s.applyEntries es).1 ∧ f.error? = some (.rejected e) := by
  have hhas : ∀ {f}, (k, f) ∈ (s.applyEntries es).1 → f.error? = some (.rejected e) →
      f = .rejected e (s.has k) := by
    intro f hf herror
    obtain ⟨v, sₖ, s', hrule, hbefore, -⟩ := exists_rule_of_mem hkeys hf
    rw [has_eq_isSome, ← hbefore, ← has_eq_isSome]
    exact hrule.eq_rejected herror
  constructor
  · intro h
    have heq := hhas h rfl
    injection heq with _ htrue
    exact ⟨htrue.symm, _, h, rfl⟩
  · rintro ⟨htrue, f, hf, herror⟩
    have heq := hhas hf herror
    rwa [heq, htrue] at hf

lemma reported_apply (delta : MeshDelta) (hkeys : delta.meshes.keys.Nodup) (refresh : Bool)
    (s : Scene V) : Reported s delta refresh (s.apply delta refresh).1 (s.apply delta refresh).2 :=
  have hfates : (s.apply delta refresh).1.fates.map Prod.fst = delta.meshes.keys :=
    map_fst_applyEntries delta.meshes s
  have honce : ((s.apply delta refresh).1.fates.map Prod.fst).Nodup := hfates ▸ hkeys
  { added := having_applyEntries EntryFate.Means.eq_added hkeys _ s
    removed := having_applyEntries EntryFate.Means.isLoss_eq hkeys _ s
    updated := having_applyEntries EntryFate.Means.eq_rebuilt hkeys _ s
    nodup := Report.nodup_added_updated_removed honce
    unlisted := fun k hadded hupdated hremoved =>
      resource?_of_unlisted hkeys refresh (by simp [Report.shown, hadded, hupdated]) hremoved
    failed := by
      rw [Report.map_fst_failed, ← hfates]
      exact Report.sublist_having _ _
    mem_failed_iff := by
      obtain ⟨meshes⟩ := delta
      rintro before after k v e rfl
      exact mem_failed_apply_iff hkeys refresh
    failed_disjoint := Report.disjoint_failed honce
    failed_removed := fun k => by
      rw [Report.mem_failed_and_removed_iff honce, ← exists_and_left]
      refine exists_congr fun e => ?_
      rw [Report.mem_failed]
      exact rejected_true_mem_iff hkeys
    framed := rfl
    view := exists_view_apply delta refresh s }

/-- What a recording view records of a delta: what is done to objects, then a call to frame the
meshes if they are framed, and a call to centre the camera. -/
lemma exists_calls_apply (delta : MeshDelta) (refresh : Bool) (s : Scene RecordingView) :
    ∃ cs : List ViewCall, (∀ c ∈ cs, c.handle?.isSome) ∧ (s.apply delta refresh).2.view.calls
      = s.view.calls ++ cs ++ (if (s.apply delta refresh).1.framed then [.fit] else [])
        ++ [.recenter refresh] := by
  obtain ⟨v, hsteps, hview⟩ := exists_view_apply delta refresh s
  obtain ⟨cs, hcs, hcalls⟩ := RecordingView.calls_of_objectSteps hsteps
  refine ⟨cs, hcs, ?_⟩
  rw [hview, ← hcalls]
  cases (s.apply delta refresh).1.framed with
  | true => rfl
  | false => simp [View.recenter, RecordingView.record]

/-- The report of a delta, which has each name once when it was read, tells exactly what the delta
does to a scene, on any view; and a recording view records that the camera is set once, at the
end. -/
theorem reported_and_recorded :
    (∀ (V : Type) [View V] (s : Scene V) (delta : MeshDelta) (refresh : Bool),
      delta.meshes.keys.Nodup →
        Reported s delta refresh (s.apply delta refresh).1 (s.apply delta refresh).2) ∧
    ∀ (s : Scene RecordingView) (delta : MeshDelta) (refresh : Bool),
      ∃ cs : List ViewCall, (∀ c ∈ cs, c.handle?.isSome) ∧ (s.apply delta refresh).2.view.calls
        = s.view.calls ++ cs ++ (if (s.apply delta refresh).1.framed then [.fit] else [])
          ++ [.recenter refresh] :=
  ⟨fun _ _ s delta refresh hkeys => reported_apply delta hkeys refresh s,
    fun s delta refresh => exists_calls_apply delta refresh s⟩

/-- A replacement with a corner infinitely far away is rejected and takes its mesh along; an entry
that cannot be read leaves its mesh alone. -/
theorem reported_and_recorded_rejected :
    let mesh : Value := .object [("V", .string "")]
    let far : Value := .object [("V", .string "AACAfwAAAAAAAAAA")]
    let s : Scene HeadlessView :=
      (apply ⟨[("a", mesh), ("b", mesh), ("c", mesh), ("d", mesh)]⟩ true
        ⟨.ofWindow 800 600, ∅⟩).2
    let delta : MeshDelta := ⟨[("e", mesh), ("d", .null), ("c", .object [("remove", .bool true)]),
      ("b", far), ("a", mesh)]⟩
    let r := (s.apply delta true).1
    let s' := (s.apply delta true).2
    delta.meshes.keys.Nodup ∧ r.added = ["e"] ∧ r.updated = ["a"] ∧ r.removed = ["c", "b"] ∧
      ("b" ∈ r.failed.map Prod.fst ∧ "b" ∈ r.removed) ∧ s'.resource? "d" = s.resource? "d" := by
  intro mesh far s delta r s'
  have hkeys : delta.meshes.keys.Nodup := by decide
  have h := reported_and_recorded.1 HeadlessView s delta true hkeys
  refine ⟨hkeys, h.added.trans ?_, h.updated.trans ?_, h.removed.trans ?_,
    (h.failed_removed "b").2 ⟨?_, ⟨"b", .nonFinitePosition⟩, ?_⟩, h.unlisted "d" ?_ ?_ ?_⟩
  all_goals decide +kernel

end Scene

end MeshRoom
