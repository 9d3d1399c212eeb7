import MeshRoom.Proofs.Client.Greeting
import MeshRoom.Proofs.Sync.Network
import MeshRoom.Proofs.View.Headless

/-!
# Framing the meshes of a room

A headless view moves its camera for the meshes it shows: it frames the first ones and stands clear
of all of them after every delta. The baseline does not follow, so the tick after a delta tells the
room of the camera as if a user had moved it. While nobody else moves the camera, this is all that
ticks tell of it: nothing without a delta since the last one, the target and the zoom only if an
empty scene has been framed, and the upward direction never.
-/

namespace MeshRoom

open Json Wire

/-! ### What moves the camera of a headless view -/

namespace HeadlessView

variable {v v' : HeadlessView}

lemma controls_setAttached (attached : Bool) (h : Handle) (v : HeadlessView) :
    (v.setAttached attached h).controls = v.controls := by
  unfold setAttached
  split <;> rfl

lemma controls_build {uuid : String} {p : MeshPayload} {g : Geometry}
    {result : Except Rejection Resource} (h : Scene.build uuid p g v = (result, v')) :
    v'.controls = v.controls := by
  by_cases hfinite : g.positions.all Vec3.isFinite
  · simp only [Scene.build, View.build, View.attach, HeadlessView.build, hfinite, if_true,
      Prod.mk.injEq] at h
    rw [← h.2, controls_setAttached, controls_setAttached]
  · simp only [Scene.build, View.build, HeadlessView.build, hfinite, if_false, Prod.mk.injEq,
      Bool.false_eq_true] at h
    rw [h.2]

lemma controls_evict (uuid : String) (s : Scene HeadlessView) :
    (s.evict uuid).view.controls = s.view.controls := by
  unfold Scene.evict
  split
  case h_1 => rfl
  case h_2 r _ =>
    show (((s.view.setAttached false r.primary).setAttached false r.backface).controls) = _
    rw [controls_setAttached, controls_setAttached]

/-- Building and releasing meshes moves nothing. -/
lemma controls_entry {uuid : String} {e : Value} {s : Scene HeadlessView}
    {fs : EntryFate × Scene HeadlessView} (h : Scene.EntryRule uuid e s fs) :
    fs.2.view.controls = s.view.controls := by
  cases h with
  | unread => rfl
  | remove => exact controls_evict uuid s
  | build p g r view hv hbuild => exact (controls_build hbuild).trans (controls_evict uuid s)
  | reject p g err view hv hbuild => exact (controls_build hbuild).trans (controls_evict uuid s)

lemma controls_applyEntries (es : List (String × Value)) (s : Scene HeadlessView) :
    (s.applyEntries es).2.view.controls = s.view.controls := by
  induction es generalizing s with
  | nil => rfl
  | cons e es ih => exact (ih _).trans (controls_entry (.of_applyEntry e.1 e.2 s))

lemma up_fit (v : HeadlessView) : v.fit.controls.camera.up = v.controls.camera.up := by
  unfold fit
  split <;> rfl

lemma controls_measure (refresh : Bool) (v : HeadlessView) :
    (v.measure refresh).controls = v.controls := by
  unfold measure
  split <;> rfl

/-- To stand clear of the meshes, the camera moves without turning or zooming. -/
lemma recenter_camera (refresh : Bool) (v : HeadlessView) :
    (v.recenter refresh).controls.camera.target = v.controls.camera.target ∧
      (v.recenter refresh).controls.camera.up = v.controls.camera.up ∧
        (v.recenter refresh).controls.camera.zoom = v.controls.camera.zoom := by
  unfold recenter
  dsimp only
  split
  · exact ⟨rfl, rfl, rfl⟩
  · rw [← controls_measure refresh v]
    split <;> exact ⟨rfl, rfl, rfl⟩

/-- A delta never turns the camera upside down, and moves its target or zooms only if it frames the
first meshes. -/
lemma apply_camera (delta : MeshDelta) (refresh : Bool) (s : Scene HeadlessView) :
    let camera := (s.apply delta refresh).2.view.controls.camera
    camera.up = s.view.controls.camera.up ∧
      ((s.apply delta refresh).1.framed = false →
        camera.target = s.view.controls.camera.target ∧
          camera.zoom = s.view.controls.camera.zoom) := by
  have hentries := controls_applyEntries delta.meshes s
  unfold Scene.apply
  dsimp only
  split
  case isTrue hframed =>
    obtain ⟨-, hup, -⟩ := recenter_camera refresh (s.applyEntries delta.meshes).2.view.fit
    refine ⟨hup.trans ?_, fun hnot => absurd hframed (Bool.eq_false_iff.1 hnot)⟩
    rw [up_fit, hentries]
  case isFalse hframed =>
    obtain ⟨htarget, hup, hzoom⟩ := recenter_camera refresh (s.applyEntries delta.meshes).2.view
    rw [hentries] at htarget hup hzoom
    exact ⟨hup, fun _ => ⟨htarget, hzoom⟩⟩

end HeadlessView

/-! ### Frames that carry a delta -/

/-- Whether a frame tells of the camera of some session. -/
def tellsCamera (text : String) : Bool :=
  match Envelope.parse text with
  | .error _ => false
  | .ok e => e.task = Task.syncParams

namespace Client

variable {V : Type} [View V] {c : Client V} {text : String}

/-- The delta that a frame carries to a handler of deltas. -/
def delta? (text : String) (c : Client V) : Option MeshDelta :=
  match Envelope.parse text with
  | .error _ => none
  | .ok e =>
    match c.dispatcher.handler? e.task, e.parameters.get? "meshes" with
    | some (.followMeshes _), some _ => MeshDelta.decoder.onValue e.parameters
    | _, _ => none

/-- A frame that does not tell of a camera leaves the baseline alone, and the scene too, unless it
carries a delta. -/
lemma handle_foreign (hd : c.dispatcher.IsStandard) (h : tellsCamera text = false) :
    (c.handle text).2.room.sync.baseline = c.room.sync.baseline ∧
      (c.handle text).2.room.scene = match c.delta? text with
        | some delta => (c.room.scene.apply delta true).2
        | none => c.room.scene := by
  cases hparse : Envelope.parse text with
  | error => simp [handle, Dispatcher.dispatch, delta?, hparse]
  | ok e =>
    cases hfind : c.dispatcher.handler? e.task with
    | none => simp [handle, Dispatcher.dispatch, Dispatcher.deliver, delta?, hparse, hfind]
    | some handler =>
      have hcamera : handler ≠ .followCamera := by
        rintro rfl
        have htask : e.task ≠ Task.syncParams := by simpa [tellsCamera, hparse] using h
        rcases hd.others hfind with hcore | ⟨-, reporting, hdeltas⟩
        · simp [Handler.core, htask] at hcore
        · cases hdeltas
      have hrule := Handler.Rule.of_run handler e.parameters c.room
      rw [handle_of_handler hparse hfind (hd.isFixed hfind)]
      refine ⟨hrule.baseline hcamera, ?_⟩
      by_cases hmeshes : ∃ reporting, handler = .followMeshes reporting
      · obtain ⟨reporting, rfl⟩ := hmeshes
        simp only [Handler.run, delta?, hparse, hfind, Scene.applyParameters]
        cases e.parameters.get? "meshes" with
        | none => cases reporting <;> rfl
        | some =>
          cases MeshDelta.decoder.onValue e.parameters with
          | none => rfl
          | some delta => cases reporting <;> rfl
      · have hother : ∀ reporting, handler ≠ .followMeshes reporting :=
          fun reporting heq => hmeshes ⟨reporting, heq⟩
        have hnone : c.delta? text = none := by
          simp only [delta?, hparse, hfind]
          split
          case h_1 hsome _ => exact absurd (Option.some.inj hsome) (hother _)
          case h_2 => rfl
        rw [hnone]
        exact hrule.scene hcamera hother

end Client

/-! ### Runs -/

/-- The camera is numbers. -/
structure Camera.Numeric (c : Camera) : Prop where
  target : c.target.Numeric
  position : c.position.Numeric
  up : c.up.Numeric
  zoom : c.zoom.Numeric

instance (x : Single) : Decidable x.Numeric := inferInstanceAs (Decidable (x.isNaN = false))

instance (v : Vec3) : Decidable v.Numeric :=
  inferInstanceAs (Decidable (v.x.Numeric ∧ v.y.Numeric ∧ v.z.Numeric))

instance (c : Camera) : Decidable c.Numeric :=
  decidable_of_iff (c.target.Numeric ∧ c.position.Numeric ∧ c.up.Numeric ∧ c.zoom.Numeric)
    ⟨fun ⟨target, position, up, zoom⟩ => ⟨target, position, up, zoom⟩,
      fun h => ⟨h.target, h.position, h.up, h.zoom⟩⟩

/-- A client that shows its meshes in a headless view, with the camera as it was when the client
last ticked or took over the canvas, and what the deltas since have done. -/
structure Framing where
  client : Client HeadlessView
  known : Camera
  since : List Report := []

namespace Framing

/-- What may happen while nobody moves the camera: frames arrive, the client ticks, and its user
moves the pointer. -/
inductive Act where
  | frame (text : String)
  | tick
  | point (x y : Single) (icon : UInt32)

/-- Whether an act is none that tells of a camera. -/
def Act.isForeign : Act → Bool
  | .frame text => !tellsCamera text
  | _ => true

/-- The controls of the client. -/
def controls (s : Framing) : Controls := s.client.room.controls

/-- One act. -/
def step (s : Framing) : Act → Framing
  | .frame text =>
    { s with
      client := (s.client.handle text).2
      since := s.since ++
        ((s.client.delta? text).map fun d => (s.client.room.scene.apply d true).1).toList }
  | .tick => { client := s.client.tick.2, known := s.controls.camera }
  | .point x y icon =>
    let scene := { s.client.room.scene with view := s.client.room.scene.view.movePointer x y icon }
    { s with client := { s.client with room := { s.client.room with scene } } }

/-- A client that has just taken over a canvas. -/
def start (canvas : Canvas) (c : Client HeadlessView) : Framing :=
  let room := c.room.seed canvas
  { client := { c with room }, known := room.controls.camera }

/-- What has come of acts since a canvas was taken over. -/
def run (canvas : Canvas) (c : Client HeadlessView) (acts : List Act) : Framing :=
  acts.foldl step (start canvas c)

lemma run_concat (canvas : Canvas) (c : Client HeadlessView) (acts : List Act) (a : Act) :
    run canvas c (acts ++ [a]) = (run canvas c acts).step a := by
  rw [run, List.foldl_append]
  rfl

/-- The baseline is the known camera, from which only the deltas since have moved the live one. -/
structure Accounts (s : Framing) : Prop where
  standard : s.client.dispatcher.IsStandard
  assigned : s.client.room.session.isAssigned = true
  baseline : ∃ cursor, s.client.room.sync.baseline = some (.capture s.known cursor)
  up : s.controls.camera.up = s.known.up
  numericUp : s.known.up.Numeric
  still : s.since = [] → s.controls.camera = s.known
  unframed : (∀ r ∈ s.since, r.framed = false) →
    s.controls.camera.target = s.known.target ∧ s.controls.camera.zoom = s.known.zoom

namespace Accounts

variable {s : Framing}

lemma start {canvas : Canvas} {c : Client HeadlessView} (hd : c.dispatcher.IsStandard)
    (hassigned : c.room.session.isAssigned = true) (hcontrols : c.room.controls.Numeric)
    (hcanvas : (CameraChange.ofCanvas canvas).Numeric) : Accounts (Framing.start canvas c) where
  standard := hd
  assigned := hassigned
  baseline := ⟨c.room.controls.cursor, rfl⟩
  up := rfl
  numericUp := (hcontrols.move hcanvas).up
  still _ := rfl
  unframed _ := ⟨rfl, rfl⟩

/-- A frame that carries no delta leaves the camera where it is. -/
lemma frame_without (h : Accounts s) {text : String} (htext : tellsCamera text = false)
    (hdelta : s.client.delta? text = none) : Accounts (s.step (.frame text)) := by
  obtain ⟨hbaseline, hscene⟩ := Client.handle_foreign h.standard htext
  rw [hdelta] at hscene
  have hsince : (s.step (.frame text)).since = s.since := by simp [step, hdelta]
  have hcontrols : (s.step (.frame text)).controls = s.controls :=
    congrArg (fun scene : Scene HeadlessView => scene.view.controls) hscene
  exact
    { standard := Client.dispatcher_handle h.standard text ▸ h.standard
      assigned := Client.isAssigned_handle h.assigned text
      baseline := h.baseline.imp fun cursor hcapture => hbaseline.trans hcapture
      up := hcontrols ▸ h.up
      numericUp := h.numericUp
      still := by
        rw [hsince, hcontrols]
        exact h.still
      unframed := by
        rw [hsince, hcontrols]
        exact h.unframed }

/-- A frame that carries a delta moves the camera as the delta does. -/
lemma frame_with (h : Accounts s) {text : String} (htext : tellsCamera text = false)
    {delta : MeshDelta} (hdelta : s.client.delta? text = some delta) :
    Accounts (s.step (.frame text)) := by
  obtain ⟨hbaseline, hscene⟩ := Client.handle_foreign h.standard htext
  rw [hdelta] at hscene
  obtain ⟨hup, hunframed⟩ := HeadlessView.apply_camera delta true s.client.room.scene
  have hsince : (s.step (.frame text)).since
      = s.since ++ [(s.client.room.scene.apply delta true).1] := by simp [step, hdelta]
  have hcontrols : (s.step (.frame text)).controls
      = (s.client.room.scene.apply delta true).2.view.controls :=
    congrArg (fun scene : Scene HeadlessView => scene.view.controls) hscene
  exact
    { standard := Client.dispatcher_handle h.standard text ▸ h.standard
      assigned := Client.isAssigned_handle h.assigned text
      baseline := h.baseline.imp fun cursor hcapture => hbaseline.trans hcapture
      up := by
        rw [hcontrols, hup]
        exact h.up
      numericUp := h.numericUp
      still := by
        rw [hsince]
        exact fun hnil => absurd hnil (List.concat_ne_nil _ _)
      unframed := by
        rw [hsince, hcontrols]
        intro hall
        obtain ⟨hbefore, hlast⟩ := List.forall_mem_append.1 hall
        obtain ⟨htarget, hzoom⟩ := hunframed (hlast _ List.mem_cons_self)
        obtain ⟨htarget', hzoom'⟩ := h.unframed hbefore
        exact ⟨htarget.trans htarget', hzoom.trans hzoom'⟩ }

lemma tick (h : Accounts s) : Accounts (s.step .tick) where
  standard := h.standard
  assigned := h.assigned
  baseline := by
    obtain ⟨cursor, hcapture⟩ := h.baseline
    obtain ⟨id, hid⟩ := Option.isSome_iff_exists.1 h.assigned
    refine ⟨s.controls.cursor <|> cursor, ?_⟩
    show (s.client.room.sync.tick s.client.room.session s.controls).2.baseline = _
    rw [Sync.tick, hcapture, hid]
    rfl
  up := rfl
  numericUp := by
    show s.controls.camera.up.Numeric
    rw [h.up]
    exact h.numericUp
  still _ := rfl
  unframed _ := ⟨rfl, rfl⟩

lemma point (h : Accounts s) (x y : Single) (icon : UInt32) :
    Accounts (s.step (.point x y icon)) :=
  ⟨h.standard, h.assigned, h.baseline, h.up, h.numericUp, h.still, h.unframed⟩

lemma step (h : Accounts s) {a : Act} (ha : a.isForeign = true) : Accounts (s.step a) := by
  cases a with
  | frame text =>
    have htext : tellsCamera text = false := by simpa [Act.isForeign] using ha
    cases hdelta : s.client.delta? text with
    | none => exact h.frame_without htext hdelta
    | some delta => exact h.frame_with htext hdelta
  | tick => exact h.tick
  | point x y icon => exact h.point x y icon

/-- A tick tells the parts of the camera that are elsewhere than they are known to be. -/
lemma tells (h : Accounts s) {p : Part} (hp : p ≠ .cursor) :
    s.client.tick.1.tells p = (Baseline.capture s.known none).lags s.controls p := by
  obtain ⟨cursor, hcapture⟩ := h.baseline
  obtain ⟨id, hid⟩ := Option.isSome_iff_exists.1 h.assigned
  have htick : s.client.tick.1 = Sync.differences id s.controls (.capture s.known cursor) := by
    show (s.client.room.sync.tick s.client.room.session s.controls).1 = _
    rw [Sync.tick, hcapture, hid]
  rw [htick, Baseline.tells_differences]
  cases p with
  | cursor => exact absurd rfl hp
  | target | position | up | zoom => rfl

end Accounts

lemma accounts_run {canvas : Canvas} {c : Client HeadlessView} (hd : c.dispatcher.IsStandard)
    (hassigned : c.room.session.isAssigned = true) (hcontrols : c.room.controls.Numeric)
    (hcanvas : (CameraChange.ofCanvas canvas).Numeric) {acts : List Act}
    (hacts : ∀ a ∈ acts, a.isForeign = true) : Accounts (run canvas c acts) := by
  induction acts using List.reverseRecOn with
  | nil => exact .start hd hassigned hcontrols hcanvas
  | append_singleton acts a ih =>
    obtain ⟨hbefore, ha⟩ := List.forall_mem_append.1 hacts
    rw [run_concat]
    exact (ih hbefore).step (ha a List.mem_cons_self)

/-- While nobody moves the camera of a client that has taken over a canvas, whatever it shows: a
tick tells the parts of the camera in which deltas have moved it since the client last ticked or
took over the canvas. So it never tells the upward direction; it tells the target and the zoom only
if a delta has framed an empty scene; and it tells nothing of the camera without a delta. -/
theorem tick_tells_framing {c : Client HeadlessView} (hd : c.dispatcher.IsStandard)
    (hassigned : c.room.session.isAssigned = true) (hcontrols : c.room.controls.Numeric)
    {canvas : Canvas} (hcanvas : (CameraChange.ofCanvas canvas).Numeric) {acts : List Act}
    (hacts : ∀ a ∈ acts, a.isForeign = true) :
    let s := run canvas c acts
    let t := s.client.tick.1
    (∀ p, p ≠ .cursor → t.tells p = (Baseline.capture s.known none).lags s.controls p) ∧
      t.tells .up = false ∧
        (s.controls.camera.Numeric →
          ((∀ r ∈ s.since, r.framed = false) → t.tells .target = false ∧ t.tells .zoom = false) ∧
            (s.since = [] → t.camera = none)) := by
  intro s t
  have h : Accounts s := accounts_run hd hassigned hcontrols hcanvas hacts
  have htells : ∀ p, p ≠ .cursor →
      t.tells p = (Baseline.capture s.known none).lags s.controls p := fun p hp => h.tells hp
  refine ⟨htells, ?_, fun hnumeric => ⟨fun hunframed => ?_, fun hnil => ?_⟩⟩
  · rw [htells .up (by decide)]
    simp [Baseline.lags, Baseline.capture, h.up, h.numericUp.agrees_self]
  · obtain ⟨htarget, hzoom⟩ := h.unframed hunframed
    rw [htells .target (by decide), htells .zoom (by decide)]
    simp [Baseline.lags, Baseline.capture, ← htarget, ← hzoom, hnumeric.target.agrees_self,
      hnumeric.zoom.agrees_self]
  · refine Sync.camera_tick_eq_none fun p hp => ?_
    show t.tells p = false
    rw [htells p hp, ← h.still hnil]
    cases p with
    | target => simp [Baseline.lags, Baseline.capture, hnumeric.target.agrees_self]
    | position => simp [Baseline.lags, Baseline.capture, hnumeric.position.agrees_self]
    | up => simp [Baseline.lags, Baseline.capture, hnumeric.up.agrees_self]
    | zoom => simp [Baseline.lags, Baseline.capture, hnumeric.zoom.agrees_self]
    | cursor => exact absurd rfl hp

/-- A client that has joined a room with nothing in it, in a window of 800 by 600. -/
def windowed : Client HeadlessView :=
  let options : ClientOptions := ⟨"lobby", ⟨"http", "", "", none, none, .segments [], none, none⟩,
    ⟨5000⟩, ⟨16⟩⟩
  let joined : Client HeadlessView :=
    Client.join options {} (.ofWindow 800 600) ⟨options.httpBase, true, ∅, []⟩
  { joined with room := { joined.room with session := ⟨some "me"⟩ } }

/-- The canvas of a room that is looked at from further away. -/
def farther : Canvas :=
  { target := some ⟨1, 0, 0⟩
    camera := { position := some ⟨1, 0, 20⟩, up := some ⟨0, 1, 0⟩, zoom := some 2 } }

lemma numeric_farther : (CameraChange.ofCanvas farther).Numeric where
  target := by decide +kernel
  position := by decide +kernel
  up := by decide +kernel
  zoom := by decide +kernel

/-- A frame with the mesh of one triangle. -/
def triangle : String :=
  "\x7b\"task\":\"syncMeshes\",\"parameters\":\x7b\"meshes\":\x7b\"a\":\x7b\"name\":\"cube\"," ++
    "\"visibility\":true,\"V\":\"AAAAAAAAAAAAAAAAAACAPwAAAAAAAAAAAAAAAAAAgD8AAAAA\"," ++
      "\"F\":\"AAAAAAEAAAACAAAA\"\x7d\x7d\x7d\x7d"

lemma tellsCamera_triangle : tellsCamera triangle = false := by decide +kernel

/-- The client does not tell of a turned camera when it frames the triangle, and after that it has
nothing more to tell of its camera. -/
theorem tick_tells_framing_triangle :
    (run farther windowed [.frame triangle]).client.tick.1.tells .up = false ∧
      (run farther windowed [.frame triangle, .tick]).client.tick.1.camera = none := by
  have hspec {acts : List Act} (hacts : ∀ a ∈ acts, a.isForeign = true) :=
    tick_tells_framing (c := windowed) Dispatcher.isStandard_core rfl .default numeric_farther hacts
  have hframe : ∀ a ∈ [Act.frame triangle], a.isForeign = true := by
    simp [Act.isForeign, tellsCamera_triangle]
  have htick : ∀ a ∈ [Act.frame triangle, .tick], a.isForeign = true := by
    simp [Act.isForeign, tellsCamera_triangle]
  refine ⟨(hspec hframe).2.1, ((hspec htick).2.2 ?_).2 ?_⟩
  · decide +kernel
  · exact List.isEmpty_iff.1 (by decide +kernel)

/-- It is told when the first meshes of an empty room are framed, although nobody has moved the
camera. -/
theorem not_framing_never_told :
    ¬ ∀ (c : Client HeadlessView) (canvas : Canvas) (acts : List Act),
      c.dispatcher.IsStandard → c.room.session.isAssigned = true → c.room.controls.Numeric →
        (CameraChange.ofCanvas canvas).Numeric → (∀ a ∈ acts, a.isForeign = true) →
          (run canvas c acts).client.tick.1.camera = none := by
  intro h
  have hacts : ∀ a ∈ [Act.tick, .frame triangle], a.isForeign = true := by
    simp [Act.isForeign, tellsCamera_triangle]
  have hnone := h windowed farther [.tick, .frame triangle] Dispatcher.isStandard_core rfl .default
    numeric_farther hacts
  have htold : (run farther windowed [.tick, .frame triangle]).client.tick.1.camera.isSome
      = true := by decide +kernel
  rw [hnone] at htold
  cases htold

end Framing

end MeshRoom
