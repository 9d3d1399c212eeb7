import MeshRoom.Proofs.Number.Numeric
import MeshRoom.View.Controls

/-!
# What is read is numeric

A document has no way to write what is not a number, so the coordinates of every message that is
read are numbers.
-/

namespace MeshRoom

open Json

/-! ### Decoders and what they yield -/

namespace Json

variable {α : Type}

/-- Whatever a decoder reads has a property. -/
def Decoder.Yields (d : Decoder α) (P : α → Prop) : Prop := ∀ room t x, d room t = some x → P x

variable {d : Decoder α} {P : α → Prop}

lemma Decoder.Yields.nullable (h : d.Yields P) :
    (Decoder.nullable d).Yields fun o => ∀ x ∈ o, P x := by
  intro room t o ho x hx
  unfold Decoder.nullable at ho
  split at ho
  · cases ho
    cases hx
  · obtain ⟨y, hy, rfl⟩ := Option.map_eq_some_iff.1 ho
    cases hx
    exact h _ _ _ hy

lemma Decoder.Yields.required (h : d.Yields P) {r : Record} {index : Nat} {names : List String}
    {x : α} (hx : r.required index names d = some x) : P x := by
  simp only [Record.required, Option.bind_eq_bind, Option.bind_eq_some_iff] at hx
  obtain ⟨-, -, t, -, hfield⟩ := hx
  exact h _ _ _ hfield

lemma Decoder.Yields.optional (h : d.Yields P) {r : Record} {index : Nat} {names : List String}
    {dflt x : α} (hdflt : P dflt) (hx : r.optional index names d dflt = some x) : P x := by
  simp only [Record.optional, Option.bind_eq_bind, Option.bind_eq_some_iff] at hx
  obtain ⟨_ | t, -, hfield⟩ := hx
  · cases hfield
    exact hdflt
  · exact h _ _ _ hfield

lemma Decoder.yields_single : Decoder.single.Yields Single.Numeric := by
  intro room t x hx
  unfold Decoder.single at hx
  split at hx
  · cases hx
    exact Single.numeric_ofInt _
  · cases hx
    exact Single.numeric_narrow _
  · cases hx

end Json

lemma Vec3.yields_decoder : Vec3.decoder.Yields Vec3.Numeric := by
  intro room t v hv
  simp only [Vec3.decoder, Option.bind_eq_bind, Option.bind_eq_some_iff, Option.some.injEq] at hv
  obtain ⟨r, -, x, hx, y, hy, z, hz, rfl⟩ := hv
  exact ⟨Decoder.yields_single.required hx, Decoder.yields_single.required hy,
    Decoder.yields_single.required hz⟩

/-! ### Cameras -/

/-- The fields that a camera change assigns are numbers. -/
structure CameraChange.Numeric (c : CameraChange) : Prop where
  target : ∀ v ∈ c.target, v.Numeric
  position : ∀ v ∈ c.position, v.Numeric
  up : ∀ v ∈ c.up, v.Numeric
  zoom : ∀ x ∈ c.zoom, x.Numeric

namespace Wire

/-- A camera notice changes the camera to numbers. -/
lemma CameraNotice.yields_decoder :
    CameraNotice.decoder.Yields fun n => (CameraChange.ofNotice n).Numeric := by
  intro room t n hn
  simp only [CameraNotice.decoder, Option.bind_eq_bind, Option.bind_eq_some_iff,
    Option.some.injEq] at hn
  obtain ⟨r, -, session, -, timestamp, -, target, htarget, position, hposition, up, hup, zoom,
    hzoom, rfl⟩ := hn
  have hnone : ∀ v ∈ (none : Option Vec3), v.Numeric := fun _ hv => nomatch hv
  have hzero : ∀ x ∈ (none : Option Single), x.Numeric := fun _ hx => nomatch hx
  exact
    { target := Vec3.yields_decoder.nullable.optional hnone htarget
      position := Vec3.yields_decoder.nullable.optional hnone hposition
      up := Vec3.yields_decoder.nullable.optional hnone hup
      zoom := Decoder.yields_single.nullable.optional hzero hzoom }

/-- So does a canvas. -/
lemma Canvas.yields_decoder : Canvas.decoder.Yields fun c => (CameraChange.ofCanvas c).Numeric := by
  have hnone : ∀ v ∈ (none : Option Vec3), v.Numeric := fun _ hv => nomatch hv
  have hzero : ∀ x ∈ (none : Option Single), x.Numeric := fun _ hx => nomatch hx
  have hcontrols : Canvas.controlsDecoder.Yields fun o => ∀ v ∈ o, v.Numeric := by
    intro room t o ho
    simp only [Canvas.controlsDecoder, Option.bind_eq_bind, Option.bind_eq_some_iff] at ho
    obtain ⟨r, -, htarget⟩ := ho
    exact Vec3.yields_decoder.nullable.optional hnone htarget
  have hcamera : CanvasCamera.decoder.Yields fun c => (∀ v ∈ c.position, v.Numeric) ∧
      (∀ v ∈ c.up, v.Numeric) ∧ ∀ x ∈ c.zoom, x.Numeric := by
    intro room t c hc
    simp only [CanvasCamera.decoder, Option.bind_eq_bind, Option.bind_eq_some_iff,
      Option.some.injEq] at hc
    obtain ⟨r, -, position, hposition, up, hup, zoom, hzoom, rfl⟩ := hc
    exact ⟨Vec3.yields_decoder.nullable.optional hnone hposition,
      Vec3.yields_decoder.nullable.optional hnone hup,
      Decoder.yields_single.nullable.optional hzero hzoom⟩
  intro room t c hc
  simp only [Canvas.decoder, Option.bind_eq_bind, Option.bind_eq_some_iff, Option.some.injEq] at hc
  obtain ⟨r, -, target, htarget, camera, hcam, cursors, -, rfl⟩ := hc
  obtain ⟨hposition, hup, hzoom⟩ := hcamera.optional ⟨hnone, hnone, hzero⟩ hcam
  exact ⟨hcontrols.optional hnone htarget, hposition, hup, hzoom⟩

end Wire

end MeshRoom
