import MeshRoom.Proofs.Scene.Account
import MeshRoom.View.Recording
import Mathlib.Tactic.ByContra

/-!
# The account of a recording view

A recording view tells of each object what was done with it. An object of a mesh in the scene was
built and put into the group; any other was never built, or was given up once, after it was taken
out of the group if it had been in it.
-/

namespace MeshRoom

open Scene Wire

/-- The object that a call is about. -/
def ViewCall.handle? : ViewCall → Option Handle
  | .build _ _ h | .attach h | .detach h | .dispose h => some h
  | .fit | .recenter _ => none

/-- The lives of an object by the calls about it, for one that is owned and for one that is not.
Abandoned is a front whose back was rejected. -/
inductive Life (h : Handle) : (owned : Bool) → List ViewCall → Prop where
  | unbuilt : Life h false []
  | shown (name : String) (face : Face) : Life h true [.build name face h, .attach h]
  | released (name : String) (face : Face) :
      Life h false [.build name face h, .attach h, .detach h, .dispose h]
  | abandoned (name : String) : Life h false [.build name .front h, .dispose h]

lemma Life.of_owned {h : Handle} {cs : List ViewCall} (hlife : Life h true cs) :
    ∃ name face, cs = [.build name face h, .attach h] := by
  cases hlife with
  | shown name face => exact ⟨name, face, rfl⟩

namespace RecordingView

/-- The calls about an object, in order. -/
def history (v : RecordingView) (h : Handle) : List ViewCall :=
  v.calls.filter (·.handle? = some h)

/-- What a user does to a recording view: have one side rejected from now on, or move the
controls. -/
inductive Input : RecordingView → RecordingView → Prop where
  | reject (face : Face) (v : RecordingView) : Input v { v with rejects := some face }
  | adjust (f : Controls → Controls) (v : RecordingView) : Input v (v.adjust f)

/-- The objects that are alive are those owned, and every object has led one of the lives. -/
structure Accounts (owned : List Handle) (v : RecordingView) : Prop where
  nodup : owned.Nodup
  live : v.live.Perm owned
  life : ∀ h, Life h (h ∈ owned) (v.history h)
  fresh : ∀ h, v.built < h → v.history h = []

lemma history_append {v v' : RecordingView} {cs : List ViewCall} (hcalls : v'.calls = v.calls ++ cs)
    (h : Handle) : v'.history h = v.history h ++ cs.filter (·.handle? = some h) := by
  simp [history, hcalls]

namespace Accounts

variable {owned : List Handle} {v : RecordingView}

lemma le_built (h : Accounts owned v) {k : Nat} (hk : k ∈ owned) : k ≤ v.built := by
  by_contra hlt
  have hlife := h.life k
  rw [h.fresh k (Nat.lt_of_not_le hlt)] at hlife
  simp only [hk, decide_true] at hlife
  cases hlife

/-- Calls that are about no object change nothing. -/
lemma record_other (h : Accounts owned v) {c : ViewCall} (hc : c.handle? = none) :
    Accounts owned (v.record c) := by
  have hhist : ∀ k, (v.record c).history k = v.history k := by
    intro k
    simp [record, history, hc]
  exact ⟨h.nodup, h.live, fun k => hhist k ▸ h.life k, fun k hk => hhist k ▸ h.fresh k hk⟩

end Accounts

/-! ### What scenes do to the view -/

variable {v v' : RecordingView} {uuid : String} {p : MeshPayload} {g : Geometry} {r : Resource}

/-- The view once it has built both sides of a mesh. -/
def withMesh (name : String) (v : RecordingView) : RecordingView :=
  { v with
    built := v.built + 2
    live := v.live ++ [v.built + 1, v.built + 2]
    calls := v.calls ++
      [.build name .front (v.built + 1), .build name .back (v.built + 2),
        .attach (v.built + 1), .attach (v.built + 2)] }

/-- The view once it has rejected the back of a mesh. -/
def withoutBack (name : String) (v : RecordingView) : RecordingView :=
  { v with
    built := v.built + 1
    live := (v.live ++ [v.built + 1]).filter (· ≠ v.built + 1)
    calls := v.calls ++ [.build name .front (v.built + 1), .dispose (v.built + 1)] }

/-- The view once it has given up the objects of a mesh. -/
def withoutMesh (r : Resource) (v : RecordingView) : RecordingView :=
  { v with
    live := (v.live.filter (· ≠ r.primary)).filter (· ≠ r.backface)
    calls := v.calls ++
      [.detach r.primary, .detach r.backface, .dispose r.primary, .dispose r.backface] }

lemma build_ok (h : Scene.build uuid p g v = (.ok r, v')) :
    r.handles = [v.built + 1, v.built + 2] ∧ ∃ name, v' = v.withMesh name := by
  obtain ⟨controls, calls, built, live, _ | face⟩ := v
  · simp only [Scene.build, View.build, View.attach, RecordingView.build, record, reduceCtorEq,
      if_false, Prod.mk.injEq, Except.ok.injEq] at h
    obtain ⟨rfl, rfl⟩ := h
    refine ⟨rfl, if p.name.isEmpty then uuid else p.name, ?_⟩
    simp [withMesh]
  · cases face <;> simp [Scene.build, View.build, RecordingView.build, record] at h

lemma build_error {e : Rejection} (h : Scene.build uuid p g v = (.error e, v')) :
    v' = v ∨ ∃ name, v' = v.withoutBack name := by
  obtain ⟨controls, calls, built, live, _ | face⟩ := v
  · simp [Scene.build, View.build, RecordingView.build, record] at h
  · cases face with
    | front =>
      simp only [Scene.build, View.build, RecordingView.build, if_true, Prod.mk.injEq] at h
      exact .inl h.2.symm
    | back =>
      simp only [Scene.build, View.build, View.dispose, RecordingView.build, dispose, record,
        reduceCtorEq, Option.some.injEq, if_true, if_false, Prod.mk.injEq] at h
      obtain ⟨-, rfl⟩ := h
      refine .inr ⟨if p.name.isEmpty then uuid else p.name, ?_⟩
      simp [withoutBack]

lemma release_eq (r : Resource) (v : RecordingView) : Scene.release r v = v.withoutMesh r := by
  simp [Scene.release, View.detach, View.dispose, dispose, record, withoutMesh]

/-! ### The account is kept -/

namespace Accounts

variable {owned : List Handle}

lemma built_lt_notMem (h : Accounts owned v) {k : Nat} (hk : v.built < k) : k ∉ owned := by
  intro hm
  have := h.le_built hm
  omega

lemma withMesh (h : Accounts owned v) (name : String) :
    Accounts ([v.built + 1, v.built + 2] ++ owned) (v.withMesh name) where
  nodup := by
    have h1 : v.built + 1 ∉ owned := h.built_lt_notMem (by omega)
    have h2 : v.built + 2 ∉ owned := h.built_lt_notMem (by omega)
    simp [h1, h2, h.nodup]
  live := List.perm_append_comm.trans (h.live.append_left _)
  life k := by
    rw [history_append rfl]
    by_cases h1 : k = v.built + 1
    · subst h1
      rw [h.fresh _ (by omega)]
      simpa [ViewCall.handle?] using Life.shown name .front
    · by_cases h2 : k = v.built + 2
      · subst h2
        rw [h.fresh _ (by omega)]
        simpa [ViewCall.handle?] using Life.shown name .back
      · simpa [ViewCall.handle?, h1, h2, Ne.symm h1, Ne.symm h2] using h.life k
  fresh k hk := by
    have hk : v.built + 2 < k := hk
    have h1 : v.built + 1 ≠ k := by omega
    have h2 : v.built + 2 ≠ k := by omega
    rw [history_append rfl, h.fresh k (by omega)]
    simp [ViewCall.handle?, h1, h2]

lemma withoutBack (h : Accounts owned v) (name : String) :
    Accounts owned (v.withoutBack name) where
  nodup := h.nodup
  live := by
    have hnew : v.built + 1 ∉ v.live := fun hm =>
      h.built_lt_notMem (by omega) (h.live.mem_iff.1 hm)
    have hkeep : v.live.filter (· ≠ v.built + 1) = v.live :=
      List.filter_eq_self.2 fun k hk => decide_eq_true (ne_of_mem_of_not_mem hk hnew)
    simp only [RecordingView.withoutBack, List.filter_append, hkeep]
    simpa using h.live
  life k := by
    rw [history_append rfl]
    by_cases hk : k = v.built + 1
    · subst hk
      have hnew : v.built + 1 ∉ owned := h.built_lt_notMem (by omega)
      rw [h.fresh _ (by omega)]
      simpa [ViewCall.handle?, hnew] using Life.abandoned name
    · simpa [ViewCall.handle?, hk, Ne.symm hk] using h.life k
  fresh k hk := by
    have hk : v.built + 1 < k := hk
    rw [history_append rfl, h.fresh k (by omega)]
    simp [ViewCall.handle?, Nat.ne_of_lt hk]

lemma withoutMesh {r : Resource} (h : Accounts (r.handles ++ owned) v) :
    Accounts owned (v.withoutMesh r) := by
  have hnodup : (r.primary :: r.backface :: owned).Nodup := h.nodup
  simp only [List.nodup_cons, List.mem_cons, not_or] at hnodup
  obtain ⟨⟨hne, hp⟩, hb, howned⟩ := hnodup
  refine ⟨howned, ?_, fun k => ?_, fun k hk => ?_⟩
  · have hrest : ((r.handles ++ owned).filter (· ≠ r.primary)).filter (· ≠ r.backface) = owned := by
      have hkeep : ∀ x ∉ owned, owned.filter (· ≠ x) = owned := fun x hx =>
        List.filter_eq_self.2 fun k hk => decide_eq_true (ne_of_mem_of_not_mem hk hx)
      simp only [List.filter_append, hkeep _ hp, hkeep _ hb]
      simp [Resource.handles]
    exact hrest ▸ (h.live.filter (· ≠ r.primary)).filter (· ≠ r.backface)
  · rw [history_append rfl]
    by_cases hk : k ∈ r.handles
    · -- an object of the mesh is shown, and its life ends here
      have hlife := h.life k
      rw [decide_eq_true (List.mem_append_left owned hk)] at hlife
      obtain ⟨name, face, hcs⟩ := hlife.of_owned
      simp only [Resource.handles, List.mem_cons, List.not_mem_nil, or_false] at hk
      rw [hcs]
      obtain rfl | rfl := hk
      · simpa [ViewCall.handle?, hp, Ne.symm hne] using Life.released name face
      · simpa [ViewCall.handle?, hb, hne] using Life.released name face
    · simp only [Resource.handles, List.mem_cons, List.not_mem_nil, or_false, not_or] at hk
      simpa [ViewCall.handle?, Resource.handles, hk.1, hk.2, Ne.symm hk.1, Ne.symm hk.2]
        using h.life k
  · have hnone : k ∉ r.handles := fun hm =>
      h.built_lt_notMem hk (List.mem_append_left owned hm)
    simp only [Resource.handles, List.mem_cons, List.not_mem_nil, or_false, not_or] at hnone
    rw [history_append rfl, h.fresh k hk]
    simp [ViewCall.handle?, Ne.symm hnone.1, Ne.symm hnone.2]

lemma input (hinput : Input v v') (h : Accounts owned v) : Accounts owned v' := by
  cases hinput with
  | reject => exact ⟨h.nodup, h.live, h.life, h.fresh⟩
  | adjust => exact ⟨h.nodup, h.live, h.life, h.fresh⟩

end Accounts

lemma accounts_nil : Accounts [] ({} : RecordingView) where
  nodup := .nil
  live := .nil
  life _ := .unbuilt
  fresh _ _ := rfl

/-- Scenes keep the account of a recording view. -/
theorem bookkeeping : Bookkeeping Accounts where
  perm hperm h :=
    { nodup := hperm.nodup_iff.1 h.nodup
      live := h.live.trans hperm
      life := fun k => by simpa [hperm.mem_iff] using h.life k
      fresh := h.fresh }
  build_ok h hbuild := by
    obtain ⟨hhandles, name, rfl⟩ := build_ok hbuild
    exact hhandles ▸ h.withMesh name
  build_error h hbuild := by
    obtain rfl | ⟨name, rfl⟩ := build_error hbuild
    · exact h
    · exact h.withoutBack name
  release h := release_eq _ _ ▸ h.withoutMesh
  fit h := h.record_other rfl
  recenter _ h := h.record_other rfl

end RecordingView

end MeshRoom
