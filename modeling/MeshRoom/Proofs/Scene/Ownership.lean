import MeshRoom.Proofs.View.Headless
import MeshRoom.Proofs.View.Recording

/-!
# Objects are owned by meshes

Whatever deltas are applied to a scene, well-formed or not, whether it is cleared in between, and
whichever sides the view rejects: the objects of the view are those of the meshes, two to a mesh,
and every other object that was built has been given up once.
-/

namespace MeshRoom.Scene

open Json Relation Wire

lemma length_handles {V : Type} (s : Scene V) : s.handles.length = 2 * s.size :=
  length_handlesOf s.meshes

variable {V : Type}

lemma handles_empty (v : V) : handles (⟨v, ∅⟩ : Scene V) = [] := by
  rw [← List.length_eq_zero_iff, length_handles]
  rfl

/-- After any run from an empty scene on a recording view, the objects that are alive are those of
the meshes, all distinct, and every object has led one of the lives. On a headless view, the objects
are those of the meshes as well, and all of them are in the group. -/
theorem handles_accounted :
    (∀ s : Scene RecordingView, ReflTransGen (Step RecordingView.Input) ⟨{}, ∅⟩ s →
      s.view.live.Perm s.handles ∧ s.handles.Nodup ∧ s.handles.length = 2 * s.size ∧ s.Keyed ∧
        ∀ h, Life h (h ∈ s.handles) (s.view.history h)) ∧
    (∀ (width height : Nat) (s : Scene HeadlessView),
      ReflTransGen (Step HeadlessView.Input) ⟨.ofWindow width height, ∅⟩ s →
        s.view.objects.keys.Perm s.handles ∧ s.handles.Nodup ∧ s.handles.length = 2 * s.size ∧
          s.Keyed ∧
            (∀ (h : Handle) (o : HeadlessObject), s.view.objects[h]? = some o → o.attached) ∧
              s.view.group.length = 2 * s.size) := by
  refine ⟨fun s hrun => ?_, fun width height s hrun => ?_⟩
  · have h : RecordingView.Accounts s.handles s.view := by
      refine RecordingView.bookkeeping.run (fun hinput h => h.input hinput) hrun ?_
      rw [handles_empty]
      exact RecordingView.accounts_nil
    exact ⟨h.live, h.nodup, s.length_handles, Keyed.run hrun (keyed_empty _), h.life⟩
  · have h : HeadlessView.Accounts s.handles s.view := by
      refine HeadlessView.bookkeeping.run (fun hinput h => h.input hinput) hrun ?_
      rw [handles_empty]
      exact HeadlessView.accounts_nil width height
    exact ⟨h.keys_perm, h.nodup, s.length_handles, Keyed.run hrun (keyed_empty _), h.attached,
      h.length_group.trans s.length_handles⟩

/-- A mesh that is sent again after the view began to reject back sides takes its objects along. -/
theorem handles_accounted_rejected_back :
    let delta : MeshDelta := ⟨[("m", .object [("V", .string "")])]⟩
    let s : Scene RecordingView := (apply delta true ⟨{}, ∅⟩).2
    let s' := (apply delta true { s with view := { s.view with rejects := some .back } }).2
    s.view.live = [1, 2] ∧ s'.view.live.Perm [] ∧
      Life 3 (3 ∈ s'.handles) [.build "m" .front 3, .dispose 3] := by
  intro delta s s'
  have hrun : ReflTransGen (Step RecordingView.Input) ⟨{}, ∅⟩ s' :=
    .tail (.tail (.single (.apply delta true _)) (.input (.reject .back _))) (.apply delta true _)
  obtain ⟨hlive, -, -, -, hlife⟩ := handles_accounted.1 s' hrun
  have hnone : s'.handles = [] := by decide +kernel
  refine ⟨by decide +kernel, hnone ▸ hlive, ?_⟩
  have hhistory : s'.view.history 3 = [.build "m" .front 3, .dispose 3] := by decide +kernel
  exact hhistory ▸ hlife 3

end MeshRoom.Scene
