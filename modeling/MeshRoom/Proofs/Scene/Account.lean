import MeshRoom.Proofs.Scene.Rules
import Mathlib.Logic.Relation

/-!
# Scenes account for their objects

A view is said to keep account of its objects when a relation `A owned v` between lists of handles
and states of the view survives what scenes do to views: a mesh that is built adds its two handles
to the list, one that is rejected adds none, and releasing a mesh takes its handles off the list.

A scene over such a view then accounts, after every run, for exactly the handles of its meshes.
-/

namespace MeshRoom

open Json Wire

/-- The handles of a mesh. -/
def Resource.handles (r : Resource) : List Handle := [r.primary, r.backface]

/-- The handles of the meshes of a table. -/
def handlesOf (meshes : Table Resource) : List Handle := meshes.values.flatMap Resource.handles

namespace Scene

variable {V : Type} [View V]

/-- The handles of the meshes of a scene. -/
def handles (s : Scene V) : List Handle := handlesOf s.meshes

/-- A relation between the handles that are owned and the view, which building and releasing meshes
maintain. -/
structure Bookkeeping (A : List Handle → V → Prop) : Prop where
  perm {owned owned' : List Handle} {v : V} : owned.Perm owned' → A owned v → A owned' v
  build_ok {owned : List Handle} {v v' : V} {uuid : String} {p : MeshPayload} {g : Geometry}
    {r : Resource} : A owned v → build uuid p g v = (.ok r, v') → A (r.handles ++ owned) v'
  build_error {owned : List Handle} {v v' : V} {uuid : String} {p : MeshPayload} {g : Geometry}
    {e : Rejection} : A owned v → build uuid p g v = (.error e, v') → A owned v'
  release {owned : List Handle} {v : V} {r : Resource} :
    A (r.handles ++ owned) v → A owned (release r v)
  fit {owned : List Handle} {v : V} : A owned v → A owned (View.fit v)
  recenter {owned : List Handle} {v : V} (refresh : Bool) :
    A owned v → A owned (View.recenter refresh v)

/-! ### Handles of tables -/

lemma length_handlesOf (meshes : Table Resource) : (handlesOf meshes).length = 2 * meshes.size := by
  have hlen : ∀ rs : List Resource, (rs.flatMap Resource.handles).length = 2 * rs.length := by
    intro rs
    induction rs with
    | nil => rfl
    | cons r rs ih =>
      simp only [List.flatMap_cons, List.length_append, ih, Resource.handles, List.length_cons,
        List.length_nil]
      omega
  rw [handlesOf, hlen, length_values]

lemma handlesOf_insert_perm {meshes : Table Resource} {uuid : String}
    (h : meshes[uuid]? = none) (r : Resource) :
    (handlesOf (meshes.insert uuid r)).Perm (r.handles ++ handlesOf meshes) := by
  simpa [handlesOf] using (values_insert_perm h r).flatMap_right Resource.handles

lemma handlesOf_erase_perm {meshes : Table Resource} {uuid : String} {r : Resource}
    (h : meshes[uuid]? = some r) :
    (handlesOf meshes).Perm (r.handles ++ handlesOf (meshes.erase uuid)) := by
  simpa [handlesOf] using (values_erase_perm h).flatMap_right Resource.handles

/-! ### Steps of a scene -/

namespace Bookkeeping

variable {A : List Handle → V → Prop} (hA : Bookkeeping A)
include hA

lemma evict {s : Scene V} (h : A s.handles s.view) (uuid : String) :
    A (s.evict uuid).handles (s.evict uuid).view := by
  unfold Scene.evict
  split
  case h_1 => exact h
  case h_2 r hr => exact hA.release (hA.perm (handlesOf_erase_perm hr) h)

lemma entry {uuid : String} {v : Value} {s : Scene V} {fs : EntryFate × Scene V}
    (hrule : EntryRule uuid v s fs) (h : A s.handles s.view) : A fs.2.handles fs.2.view := by
  cases hrule with
  | unread => exact h
  | remove => exact hA.evict h uuid
  | build p g r view hv hbuild =>
    have hfree : (s.evict uuid).meshes[uuid]? = none := by simp [meshes_evict]
    exact hA.perm (handlesOf_insert_perm hfree r).symm (hA.build_ok (hA.evict h uuid) hbuild)
  | reject p g e view hv hbuild => exact hA.build_error (hA.evict h uuid) hbuild

lemma entries (es : List (String × Value)) {s : Scene V} (h : A s.handles s.view) :
    A (s.applyEntries es).2.handles (s.applyEntries es).2.view := by
  induction es generalizing s with
  | nil => exact h
  | cons e es ih => exact ih (hA.entry (.of_applyEntry e.1 e.2 s) h)

lemma apply (delta : MeshDelta) (refresh : Bool) {s : Scene V} (h : A s.handles s.view) :
    A (s.apply delta refresh).2.handles (s.apply delta refresh).2.view := by
  have hentries := hA.entries delta.meshes h
  unfold Scene.apply
  dsimp only
  refine hA.recenter refresh ?_
  split
  · exact hA.fit hentries
  · exact hentries

/-- Meshes are released one after the other, in any order. -/
lemma releaseAll (rs : List Resource) {owned : List Handle} {v : V}
    (h : A (rs.flatMap Resource.handles ++ owned) v) :
    A owned (rs.foldl (fun v r => Scene.release r v) v) := by
  induction rs generalizing v with
  | nil => exact h
  | cons r rs ih =>
    refine ih (hA.release ?_)
    simpa using h

end Bookkeeping

/-! ### Runs -/

/-- What may happen to a scene while a user acts on its view as `input` says. A scene is cleared in
whatever order its table lists the meshes. -/
inductive Step (input : V → V → Prop) : Scene V → Scene V → Prop where
  | apply (delta : MeshDelta) (refresh : Bool) (s : Scene V) :
      Step input s (s.apply delta refresh).2
  | parameters {s s' : Scene V} {v : Value} {r : Report} (h : s.applyParameters v = .ok (r, s')) :
      Step input s s'
  | clear {s : Scene V} {order : List Resource} (h : order.Perm s.meshes.values) :
      Step input s ⟨order.foldl (fun v r => release r v) s.view, ∅⟩
  | input {s : Scene V} {v : V} (h : input s.view v) : Step input s { s with view := v }

/-- Clearing the oldest meshes first is one of the orders. -/
lemma step_clear (input : V → V → Prop) (s : Scene V) : Step input s s.clear.2 :=
  .clear (List.mergeSort_perm _ _)

lemma Bookkeeping.step {A : List Handle → V → Prop} (hA : Bookkeeping A) {input : V → V → Prop}
    (hinput : ∀ {owned v v'}, input v v' → A owned v → A owned v') {s s' : Scene V}
    (hstep : Step input s s') (h : A s.handles s.view) : A s'.handles s'.view := by
  cases hstep with
  | apply delta refresh => exact hA.apply delta refresh h
  | parameters hok =>
    obtain heq | ⟨delta, heq⟩ := applyParameters_ok hok
    · cases heq
      exact h
    · have happly := hA.apply delta true h
      rwa [← heq] at happly
  | clear horder =>
    refine hA.releaseAll _ (hA.perm ?_ h)
    have hnone : handlesOf ∅ = [] := by simp [handlesOf, values_eq_map_toList]
    rw [show handles ⟨_, ∅⟩ = [] from hnone, List.append_nil]
    exact (horder.flatMap_right Resource.handles).symm
  | input hview => exact hinput hview h

/-- Whatever happens to a scene, its view accounts for the handles of its meshes. -/
theorem Bookkeeping.run {A : List Handle → V → Prop} (hA : Bookkeeping A) {input : V → V → Prop}
    (hinput : ∀ {owned v v'}, input v v' → A owned v → A owned v') {s s' : Scene V}
    (hrun : Relation.ReflTransGen (Step input) s s') (h : A s.handles s.view) :
    A s'.handles s'.view := by
  induction hrun with
  | refl => exact h
  | tail _ hstep ih => exact hA.step hinput hstep ih

lemma Keyed.step {input : V → V → Prop} {s s' : Scene V} (hstep : Step input s s')
    (h : s.Keyed) : s'.Keyed := by
  cases hstep with
  | apply delta refresh => exact keyed_apply delta refresh h
  | parameters hok =>
    obtain heq | ⟨delta, heq⟩ := applyParameters_ok hok
    · cases heq
      exact h
    · have happly := keyed_apply delta true h
      rwa [← heq] at happly
  | clear => exact keyed_empty _
  | input => exact h

/-- Whatever happens to a scene, every mesh stays under its own name. -/
theorem Keyed.run {input : V → V → Prop} {s s' : Scene V}
    (hrun : Relation.ReflTransGen (Step input) s s') (h : s.Keyed) : s'.Keyed := by
  induction hrun with
  | refl => exact h
  | tail _ hstep ih => exact Keyed.step hstep ih

end Scene

end MeshRoom
