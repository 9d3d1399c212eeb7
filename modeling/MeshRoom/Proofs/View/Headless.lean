import MeshRoom.Proofs.Scene.Account
import MeshRoom.View.Headless

/-!
# The account of a headless view

A headless view keeps the objects of the meshes in the scene and no others, and all of them are in
its group.
-/

namespace MeshRoom.HeadlessView

open Scene Wire

/-- What a user and the passing of time do to a headless view: they move the controls and the
clock. -/
inductive Input : HeadlessView → HeadlessView → Prop where
  | adjust (controls : Controls) (v : HeadlessView) : Input v { v with controls }
  | pass (clock : Int64) (v : HeadlessView) : Input v { v with clock }

/-- The objects are those owned, each of them in the group. -/
structure Accounts (owned : List Handle) (v : HeadlessView) : Prop where
  nodup : owned.Nodup
  mem : ∀ h, h ∈ v.objects ↔ h ∈ owned
  attached : ∀ (h : Handle) (o : HeadlessObject), v.objects[h]? = some o → o.attached
  le_built : ∀ h ∈ owned, h ≤ v.built

variable {v v' : HeadlessView} {owned : List Handle}

/-! ### Objects -/

@[simp] lemma built_setAttached (attached : Bool) (h : Handle) (v : HeadlessView) :
    (v.setAttached attached h).built = v.built := by
  unfold setAttached
  split <;> rfl

lemma getElem?_setAttached (attached : Bool) (h k : Handle) (v : HeadlessView) :
    (v.setAttached attached h).objects[k]?
      = if k = h then v.objects[h]?.map fun o => { o with attached } else v.objects[k]? := by
  unfold setAttached
  split
  case h_1 o ho =>
    rw [getElem?_insert_ite, ho]
    rfl
  case h_2 hnone =>
    split
    case isTrue hk => rw [hk, hnone, Option.map_none]
    case isFalse => rfl

lemma getElem?_dispose (h k : Handle) (v : HeadlessView) :
    (v.dispose h).objects[k]? = if k = h then none else v.objects[k]? :=
  getElem?_erase_ite v.objects h k

/-- The camera is apart from the objects. -/
lemma fit_keeps (v : HeadlessView) : v.fit.objects = v.objects ∧ v.fit.built = v.built := by
  unfold fit
  split
  · exact ⟨rfl, rfl⟩
  · exact ⟨rfl, rfl⟩

lemma measure_keeps (refresh : Bool) (v : HeadlessView) :
    (v.measure refresh).objects = v.objects ∧ (v.measure refresh).built = v.built := by
  unfold measure
  split
  · exact ⟨rfl, rfl⟩
  · exact ⟨rfl, rfl⟩

lemma recenter_keeps (refresh : Bool) (v : HeadlessView) :
    (v.recenter refresh).objects = v.objects ∧ (v.recenter refresh).built = v.built := by
  unfold recenter
  dsimp only
  split
  · exact ⟨rfl, rfl⟩
  · split
    · exact measure_keeps refresh v
    · exact measure_keeps refresh v

/-! ### What scenes do to the view -/

variable {uuid : String} {p : MeshPayload} {g : Geometry} {r : Resource}

/-- A mesh that is built has both its objects in the group. -/
lemma build_ok (h : Scene.build uuid p g v = (.ok r, v')) :
    r.handles = [v.built + 1, v.built + 2] ∧ v'.built = v.built + 2 ∧
      ∃ front back : HeadlessObject, front.attached ∧ back.attached ∧
        ∀ k, v'.objects[k]? = if k = v.built + 1 then some front
          else if k = v.built + 2 then some back else v.objects[k]? := by
  by_cases hfinite : g.positions.all Vec3.isFinite
  · simp only [Scene.build, View.build, View.attach, HeadlessView.build, hfinite, if_true,
      Prod.mk.injEq, Except.ok.injEq] at h
    obtain ⟨rfl, rfl⟩ := h
    refine ⟨rfl, by simp, ⟨.front, p.visible, true, g.positions⟩,
      ⟨.back, p.visible, true, g.positions⟩, rfl, rfl, fun k => ?_⟩
    simp only [getElem?_setAttached, getElem?_insert_ite]
    by_cases h1 : k = v.built + 1
    · simp [h1]
    · by_cases h2 : k = v.built + 2
      · simp [h2]
      · simp [h1, h2]
  · simp [Scene.build, View.build, HeadlessView.build, hfinite] at h

/-- Positions decide for both sides alike, so a rejected mesh leaves nothing behind. -/
lemma build_error {e : Rejection} (h : Scene.build uuid p g v = (.error e, v')) : v' = v := by
  by_cases hfinite : g.positions.all Vec3.isFinite
  · simp [Scene.build, View.build, HeadlessView.build, hfinite] at h
  · simp only [Scene.build, View.build, HeadlessView.build, hfinite, if_false, Prod.mk.injEq,
      Bool.false_eq_true] at h
    exact h.2.symm

lemma built_release (r : Resource) (v : HeadlessView) : (Scene.release r v).built = v.built := by
  simp [Scene.release, View.detach, View.dispose, dispose]

/-- Other objects stay as they are when a mesh is released. -/
lemma getElem?_release (r : Resource) (v : HeadlessView) (k : Handle) :
    (Scene.release r v).objects[k]? = if k ∈ r.handles then none else v.objects[k]? := by
  simp only [Scene.release, View.detach, View.dispose, getElem?_dispose, getElem?_setAttached,
    Resource.handles, List.mem_cons, List.not_mem_nil, or_false]
  by_cases hb : k = r.backface
  · simp [hb]
  · by_cases hp : k = r.primary
    · simp [hp]
    · simp [hb, hp]

/-! ### The account is kept -/

namespace Accounts

lemma of_keeps (h : Accounts owned v) (hkeeps : v'.objects = v.objects ∧ v'.built = v.built) :
    Accounts owned v' where
  nodup := h.nodup
  mem := hkeeps.1 ▸ h.mem
  attached := hkeeps.1 ▸ h.attached
  le_built := hkeeps.2 ▸ h.le_built

lemma withMesh (h : Accounts owned v) (hbuild : Scene.build uuid p g v = (.ok r, v')) :
    Accounts (r.handles ++ owned) v' := by
  obtain ⟨hhandles, hbuilt, front, back, hfront, hback, hget⟩ := build_ok hbuild
  have hnew : ∀ k, v.built < k → k ∉ owned := fun k hk hm => Nat.not_le.2 hk (h.le_built k hm)
  refine ⟨?_, fun k => ?_, fun k o ho => ?_, fun k hk => ?_⟩
  · rw [hhandles]
    have h1 : v.built + 1 ∉ owned := hnew _ (by omega)
    have h2 : v.built + 2 ∉ owned := hnew _ (by omega)
    simp [h1, h2, h.nodup]
  · rw [Std.ExtTreeMap.mem_iff_isSome_getElem?, hget, hhandles]
    by_cases h1 : k = v.built + 1
    · simp [h1]
    · by_cases h2 : k = v.built + 2
      · simp [h2]
      · simpa [h1, h2] using h.mem k
  · rw [hget] at ho
    split at ho
    · cases ho
      exact hfront
    · split at ho
      · cases ho
        exact hback
      · exact h.attached k o ho
  · rw [hbuilt]
    rw [hhandles, List.mem_append, List.mem_cons, List.mem_singleton] at hk
    obtain (rfl | rfl) | hk := hk
    · exact Nat.le_succ _
    · exact Nat.le_refl _
    · exact Nat.le_trans (h.le_built k hk) (Nat.le_add_right _ _)

lemma withoutMesh (h : Accounts (r.handles ++ owned) v) : Accounts owned (Scene.release r v) := by
  obtain ⟨-, howned, hdisjoint⟩ := List.nodup_append.1 h.nodup
  refine ⟨howned, fun k => ?_, fun k o ho => ?_, fun k hk => ?_⟩
  · rw [Std.ExtTreeMap.mem_iff_isSome_getElem?, getElem?_release]
    by_cases hk : k ∈ r.handles
    · have hnot : k ∉ owned := fun hm => hdisjoint k hk k hm rfl
      simp [hk, hnot]
    · simpa [hk] using h.mem k
  · rw [getElem?_release] at ho
    split at ho
    · cases ho
    · exact h.attached k o ho
  · rw [built_release]
    exact h.le_built k (List.mem_append_right _ hk)

lemma input (hinput : Input v v') (h : Accounts owned v) : Accounts owned v' := by
  cases hinput with
  | adjust => exact h.of_keeps ⟨rfl, rfl⟩
  | pass => exact h.of_keeps ⟨rfl, rfl⟩

/-- The objects of the view are those owned. -/
lemma keys_perm (h : Accounts owned v) : v.objects.keys.Perm owned := by
  refine (List.perm_ext_iff_of_nodup ?_ h.nodup).2 fun k => ?_
  · exact v.objects.distinct_keys.imp fun {a b} (hne : ¬ compare a b = .eq) (heq : a = b) =>
      hne (by rw [heq]; exact Std.ReflCmp.compare_self)
  · rw [Std.ExtTreeMap.mem_keys]
    exact h.mem k

/-- All objects of the view are in the group. -/
lemma length_group (h : Accounts owned v) : v.group.length = owned.length := by
  have hall : v.group = v.objects.values := by
    refine List.filter_eq_self.2 fun o ho => ?_
    obtain ⟨k, hk⟩ := mem_values.1 ho
    exact h.attached k o hk
  rw [hall, length_values, ← h.keys_perm.length_eq, Std.ExtTreeMap.length_keys]

end Accounts

lemma accounts_nil (width height : Nat) : Accounts [] (ofWindow width height) where
  nodup := .nil
  mem h := by simp [ofWindow]
  attached h o ho := by simp [ofWindow] at ho
  le_built h hm := by cases hm

/-- Scenes keep the account of a headless view. -/
theorem bookkeeping : Bookkeeping Accounts where
  perm hperm h :=
    { nodup := hperm.nodup_iff.1 h.nodup
      mem := fun k => (h.mem k).trans hperm.mem_iff
      attached := h.attached
      le_built := fun k hk => h.le_built k (hperm.mem_iff.2 hk) }
  build_ok h hbuild := h.withMesh hbuild
  build_error h hbuild := build_error hbuild ▸ h
  release h := h.withoutMesh
  fit h := h.of_keeps (fit_keeps _)
  recenter refresh h := h.of_keeps (recenter_keeps refresh _)

end MeshRoom.HeadlessView
