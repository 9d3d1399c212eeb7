import MeshRoom.Proofs.Table
import MeshRoom.Scene.Basic

/-!
# Rules of a scene

Everything that following one entry can do to a scene, as a rule for each way it can go: the entry
is not read, removes its mesh, builds it, or has it rejected. The rules hold for any view; nothing
is said here about what becomes of the objects.

A mesh is kept under its own name, and an entry touches no mesh but the one it names.
-/

namespace MeshRoom

open Json Wire

/-! ### Content -/

/-- What a scene holds of a mesh, its objects apart. -/
structure MeshContent where
  name : String
  visible : Bool
  vertexCount : Nat
  faceCount : Nat
deriving DecidableEq, Repr

/-- The content of a mesh. -/
def Resource.content (r : Resource) : MeshContent :=
  ⟨r.name, r.visible, r.vertexCount, r.faceCount⟩

/-- The content that a payload gives a mesh. A payload without a name is shown under the mesh's. The
positions of its geometry are counted, and the triangles. -/
def MeshContent.ofPayload (uuid : String) (p : MeshPayload) (g : Geometry) : MeshContent :=
  ⟨if p.name.isEmpty then uuid else p.name, p.visible, g.positions.length, g.triangles.length⟩

namespace Scene

variable {V : Type}

/-- The contents of a scene. -/
def contents (s : Scene V) : Table MeshContent := s.meshes.map fun _ r => r.content

/-- Every mesh is kept under its own name. -/
def Keyed (s : Scene V) : Prop := ∀ uuid r, s.resource? uuid = some r → r.uuid = uuid

@[simp] lemma getElem?_contents (s : Scene V) (uuid : String) :
    s.contents[uuid]? = (s.resource? uuid).map Resource.content := by
  simp [contents, resource?]

lemma has_eq_isSome (s : Scene V) (uuid : String) : s.has uuid = (s.resource? uuid).isSome := by
  simp [has, resource?]

lemma resource?_of_not_has {s : Scene V} {uuid : String} (h : s.has uuid = false) :
    s.resource? uuid = none := by
  rwa [has_eq_isSome, Option.isSome_eq_false_iff, Option.isNone_iff_eq_none] at h

/-- The view has no part in which meshes there are. -/
lemma resource?_withView (view : V) (s : Scene V) (k : String) :
    (Scene.mk view s.meshes).resource? k = s.resource? k := rfl

lemma resource?_insert (view : V) (meshes : Table Resource) (uuid k : String) (r : Resource) :
    (Scene.mk view (meshes.insert uuid r)).resource? k
      = if k = uuid then some r else (Scene.mk view meshes).resource? k :=
  getElem?_insert_ite meshes uuid k r

lemma keyed_empty (v : V) : Keyed (⟨v, ∅⟩ : Scene V) := by
  intro uuid r hr
  simp [resource?] at hr

variable [View V]

/-! ### Parts of a rule -/

lemma meshes_evict (uuid : String) (s : Scene V) :
    (s.evict uuid).meshes = s.meshes.erase uuid := by
  unfold evict
  split
  case h_1 hnone =>
    refine Std.ExtTreeMap.ext_getElem? fun k => ?_
    rw [getElem?_erase_ite]
    split
    case isTrue hk => exact hk ▸ hnone
    case isFalse => rfl
  case h_2 => rfl

lemma resource?_evict (uuid k : String) (s : Scene V) :
    (s.evict uuid).resource? k = if k = uuid then none else s.resource? k := by
  rw [resource?, meshes_evict]
  exact getElem?_erase_ite s.meshes uuid k

/-- What is built for a payload is the mesh the payload describes. -/
lemma build_ok {uuid : String} {p : MeshPayload} {g : Geometry} {v v' : V} {r : Resource}
    (h : build uuid p g v = (.ok r, v')) :
    r.uuid = uuid ∧ r.content = .ofPayload uuid p g := by
  unfold build at h
  dsimp only at h
  generalize hname : (if p.name.isEmpty then uuid else p.name) = name at h
  split at h
  · cases h
  · split at h
    · cases h
    · cases h
      subst hname
      exact ⟨rfl, rfl⟩

/-! ### Rules -/

/-- The ways in which following an entry can go, with the fate it is given and the scene after
it. -/
inductive EntryRule (uuid : String) (v : Value) (s : Scene V) : EntryFate × Scene V → Prop where
  | unread (e : EntryError) (hv : Instruction.ofValue v = .error e) :
      EntryRule uuid v s (.unread e, s)
  | remove (hv : Instruction.ofValue v = .ok .remove) :
      EntryRule uuid v s (if s.has uuid then .removed else .unknown, s.evict uuid)
  | build (p : MeshPayload) (g : Geometry) (r : Resource) (view : V)
      (hv : Instruction.ofValue v = .ok (.replace p g))
      (hbuild : Scene.build uuid p g (s.evict uuid).view = (.ok r, view)) :
      EntryRule uuid v s
        (if s.has uuid then .rebuilt else .added, ⟨view, (s.evict uuid).meshes.insert uuid r⟩)
  | reject (p : MeshPayload) (g : Geometry) (e : Rejection) (view : V)
      (hv : Instruction.ofValue v = .ok (.replace p g))
      (hbuild : Scene.build uuid p g (s.evict uuid).view = (.error e, view)) :
      EntryRule uuid v s (.rejected e (s.has uuid), ⟨view, (s.evict uuid).meshes⟩)

lemma EntryRule.of_applyEntry (uuid : String) (v : Value) (s : Scene V) :
    EntryRule uuid v s (s.applyEntry uuid v) := by
  unfold applyEntry
  split
  case h_2 e hv => exact .unread e hv
  case h_1 i hv =>
    unfold fulfil
    cases i with
    | remove => exact .remove hv
    | replace p g =>
      dsimp only
      split
      case h_1 r view hbuild => exact .build p g r view hv hbuild
      case h_2 e view hbuild => exact .reject p g e view hv hbuild

variable {uuid : String} {v : Value} {s : Scene V} {fs : EntryFate × Scene V}

/-- An entry leaves every other mesh alone, its objects included. -/
lemma EntryRule.resource?_of_ne (h : EntryRule uuid v s fs) {k : String} (hk : k ≠ uuid) :
    fs.2.resource? k = s.resource? k := by
  cases h with
  | unread => rfl
  | remove => rw [resource?_evict, if_neg hk]
  | build => rw [resource?_insert, if_neg hk, resource?_withView, resource?_evict, if_neg hk]
  | reject => rw [resource?_withView, resource?_evict, if_neg hk]

lemma EntryRule.keyed (h : EntryRule uuid v s fs) (hs : s.Keyed) : fs.2.Keyed := by
  intro k r hr
  by_cases hk : k = uuid
  · subst hk
    cases h with
    | unread => exact hs k r hr
    | remove => simp [resource?_evict] at hr
    | build p g r' view hv hbuild =>
      rw [resource?_insert, if_pos rfl] at hr
      cases hr
      exact (build_ok hbuild).1
    | reject p g e view =>
      rw [resource?_withView, resource?_evict, if_pos rfl] at hr
      cases hr
  · exact hs k r (h.resource?_of_ne hk ▸ hr)

/-! ### Deltas -/

/-- Parameters that are followed either carry no meshes or a delta. -/
lemma applyParameters_ok {s s' : Scene V} {v : Value} {r : Report}
    (h : s.applyParameters v = .ok (r, s')) :
    (r, s') = ({}, s) ∨ ∃ delta, (r, s') = s.apply delta true := by
  unfold applyParameters at h
  split at h
  · cases h
    exact .inl rfl
  · split at h
    · cases h
    · cases h
      exact .inr ⟨_, rfl⟩

lemma keyed_applyEntries (es : List (String × Value)) {s : Scene V} (h : s.Keyed) :
    (s.applyEntries es).2.Keyed := by
  induction es generalizing s with
  | nil => exact h
  | cons e es ih => exact ih ((EntryRule.of_applyEntry e.1 e.2 s).keyed h)

lemma keyed_apply (delta : MeshDelta) (refresh : Bool) {s : Scene V} (h : s.Keyed) :
    (s.apply delta refresh).2.Keyed :=
  keyed_applyEntries delta.meshes h

end Scene

end MeshRoom
