import MeshRoom.Scene.Basic
import MeshRoom.View.Headless
import MeshRoom.View.Recording
import Mathlib.Tactic.Lemma

/-!
# Which sides a view builds

A view that screens meshes decides by a setting, by the geometry and by the side whether it builds
a side of a mesh. Only its owner changes the setting, so both sides of a mesh, and all meshes of a
delta, are judged alike.
-/

namespace MeshRoom

open Wire

/-- A view that screens meshes by a setting of type `σ`. -/
class Screening (V : Type) (σ : outParam Type) [View V] where
  setting : V → σ
  adjust : σ → V → V
  accepts : σ → Geometry → Face → Bool
  setting_adjust (x : σ) (v : V) : setting (adjust x v) = x
  build_ok {name : String} {g : Geometry} {face : Face} {visible : Bool} {v v' : V} {h : Handle}
    (hbuild : View.build name g face visible v = .ok (h, v')) :
    accepts (setting v) g face = true ∧ setting v' = setting v
  build_error {name : String} {g : Geometry} {face : Face} {visible : Bool} {v : V} {e : Rejection}
    (hbuild : View.build name g face visible v = .error e) : accepts (setting v) g face = false
  setting_attach (h : Handle) (v : V) : setting (View.attach h v) = setting v
  setting_detach (h : Handle) (v : V) : setting (View.detach h v) = setting v
  setting_dispose (h : Handle) (v : V) : setting (View.dispose h v) = setting v
  setting_fit (v : V) : setting (View.fit v) = setting v
  setting_recenter (refresh : Bool) (v : V) : setting (View.recenter refresh v) = setting v

/-- A recording view rejects one side of every mesh, if it is told to. -/
instance : Screening RecordingView (Option Face) where
  setting v := v.rejects
  adjust rejects v := { v with rejects }
  accepts rejects _ face := rejects ≠ some face
  setting_adjust _ _ := rfl
  build_ok {name g face visible v v' h} hbuild := by
    simp only [View.build, RecordingView.build] at hbuild
    split at hbuild
    · cases hbuild
    · cases hbuild
      exact ⟨by simpa, rfl⟩
  build_error {name g face visible v e} hbuild := by
    simp only [View.build, RecordingView.build] at hbuild
    split at hbuild
    · simpa
    · cases hbuild
  setting_attach _ _ := rfl
  setting_detach _ _ := rfl
  setting_dispose _ _ := rfl
  setting_fit _ := rfl
  setting_recenter _ _ := rfl

/-- A headless view rejects meshes with a position that is not finite. -/
instance : Screening HeadlessView Unit where
  setting _ := ()
  adjust _ v := v
  accepts _ g _ := g.positions.all Vec3.isFinite
  setting_adjust _ _ := rfl
  build_ok {name g face visible v v' h} hbuild := by
    simp only [View.build, HeadlessView.build] at hbuild
    split at hbuild
    case isTrue hfinite => exact ⟨hfinite, rfl⟩
    case isFalse => cases hbuild
  build_error {name g face visible v e} hbuild := by
    simp only [View.build, HeadlessView.build] at hbuild
    split at hbuild
    case isTrue => cases hbuild
    case isFalse hnot => exact Bool.eq_false_iff.2 hnot
  setting_attach _ _ := rfl
  setting_detach _ _ := rfl
  setting_dispose _ _ := rfl
  setting_fit _ := rfl
  setting_recenter _ _ := rfl

namespace Screening

variable {V σ : Type} [View V] [Screening V σ]

/-- Whether a view with the setting builds both sides of a mesh. -/
def acceptsBoth (V : Type) {σ : Type} [View V] [Screening V σ] (x : σ) (g : Geometry) : Bool :=
  accepts (V := V) x g .front && accepts (V := V) x g .back

variable {uuid : String} {p : MeshPayload} {g : Geometry} {v v' : V}

lemma setting_release (r : Resource) (v : V) : setting (Scene.release r v) = setting v := by
  simp only [Scene.release, setting_dispose, setting_detach]

/-- A mesh is built if both its sides are accepted. -/
lemma scene_build_ok {r : Resource} (h : Scene.build uuid p g v = (.ok r, v')) :
    acceptsBoth V (setting v) g = true ∧ setting v' = setting v := by
  unfold Scene.build at h
  dsimp only at h
  split at h
  · cases h
  case h_2 primary v₁ hfront =>
    obtain ⟨hacceptsFront, hsame⟩ := build_ok hfront
    split at h
    · cases h
    case h_2 backface v₂ hback =>
      obtain ⟨hacceptsBack, hsame'⟩ := build_ok hback
      cases h
      rw [hsame] at hacceptsBack
      refine ⟨?_, ?_⟩
      · rw [acceptsBoth, hacceptsFront, hacceptsBack]
        rfl
      · rw [setting_attach, setting_attach, hsame', hsame]

/-- A mesh is rejected if one of its sides is. -/
lemma scene_build_error {e : Rejection} (h : Scene.build uuid p g v = (.error e, v')) :
    acceptsBoth V (setting v) g = false ∧ setting v' = setting v := by
  unfold Scene.build at h
  dsimp only at h
  split at h
  case h_1 hfront =>
    cases h
    rw [acceptsBoth, build_error hfront]
    exact ⟨rfl, rfl⟩
  case h_2 primary v₁ hfront =>
    obtain ⟨-, hsame⟩ := build_ok hfront
    split at h
    case h_1 hback =>
      cases h
      have hrejects := build_error hback
      rw [hsame] at hrejects
      rw [acceptsBoth, hrejects, Bool.and_false, setting_dispose]
      exact ⟨rfl, hsame⟩
    · cases h

end Screening

end MeshRoom
