import MeshRoom.Proofs.Client.Greeting
import MeshRoom.Proofs.Sync.Lag
import MeshRoom.Proofs.View.Recording

/-!
# How far a client has been started

A client that receives nothing but greetings, and whose user does nothing in the view, is all the
while what the replies to its requests have made of it: its plugins are those listed, its scene is
that of the meshes and then of the canvas, and its baseline does not lag. A client that has been
given no identity has asked for nothing and told nothing.
-/

namespace MeshRoom

open Json Wire

/-! ### What holds while a client is started -/

/-- What is read by a decoder has what the decoder yields. -/
lemma Json.Decoder.Yields.held? {α : Type} {d : Decoder α} {P : α → Prop} (h : d.Yields P)
    {reply : Except RequestError String} {x : α} (hx : MeshRoom.held? d reply = some x) : P x := by
  obtain ⟨body, -, hbody⟩ := Option.bind_eq_some_iff.1 hx
  obtain ⟨t, -, ht⟩ := Option.bind_eq_some_iff.1 hbody
  exact h _ _ _ ht

namespace Sync

variable {s : Sync} {c : Controls}

lemma lags_of_not_seeded (h : s.isSeeded = false) (c : Controls) (p : Part) :
    s.lags c p = false := by
  rw [lags, Option.isSome_eq_false_iff.1 h |> Option.isNone_iff_eq_none.1, Option.any_none]

/-- A tick leaves a baseline there, and one that does not lag does not lag after it. -/
lemma caughtUp_tick (own : Session) (hnumeric : c.Numeric) (h : ∀ p, s.lags c p = false) :
    (s.tick own c).2.isSeeded = s.isSeeded ∧ ∀ p, (s.tick own c).2.lags c p = false := by
  unfold tick
  split
  case h_1 b id hbaseline hid =>
    exact ⟨by rw [isSeeded, isSeeded, hbaseline]; rfl, Baseline.lags_capture hnumeric b.cursor⟩
  case h_2 => exact ⟨rfl, h⟩

lemma tick_of_caughtUp (own : Session) (h : ∀ p, s.lags c p = false) : (s.tick own c).1 = {} :=
  tick_eq_empty fun p => Bool.eq_false_iff.2 fun htells =>
    Bool.eq_false_iff.1 (h p) (lags_of_tells htells)

end Sync

/-- Nothing that a scene does to a recording view moves the controls. -/
lemma RecordingView.bookkeeping_controls (controls : Controls) :
    Scene.Bookkeeping fun _ (v : RecordingView) => v.controls = controls where
  perm _ h := h
  build_ok h hbuild := by
    obtain ⟨-, name, rfl⟩ := build_ok hbuild
    exact h
  build_error h hbuild := by
    rcases build_error hbuild with rfl | ⟨name, rfl⟩
    · exact h
    · exact h
  release h := by
    rw [release_eq]
    exact h
  fit h := h
  recenter _ h := h

namespace Client

/-- How far a client has been started, by the replies there have been and the steps ahead. -/
inductive Stage : List (Except RequestError String) → List Boot → Prop where
  | joined : Stage [] Boot.all
  | listed (listing : Except RequestError String) : Stage [listing] [.meshes, .canvas, .ready]
  | pulled (listing meshes : Except RequestError String) :
      Stage [listing, meshes] [.canvas, .ready]
  | seeded (listing meshes canvas : Except RequestError String) :
      Stage [listing, meshes, canvas] [.ready]
  | started (listing meshes canvas : Except RequestError String) :
      Stage [listing, meshes, canvas] []

/-- The scene of a view that has shown nothing yet, with the delta and the canvas that have been
pulled. -/
def sceneWith (view : RecordingView) (delta : Option MeshDelta) (canvas : Option Canvas) :
    Scene RecordingView :=
  let pulled : Scene RecordingView := match delta with
    | some delta => (Scene.apply delta true { view }).2
    | none => { view }
  match canvas with
  | some canvas => { pulled with view := View.move (.ofCanvas canvas) pulled.view }
  | none => pulled

/-- What holds of a client that is being started and receives nothing but greetings. -/
structure Progress (view : RecordingView) (replies : List (Except RequestError String))
    (ahead : List Boot) (c : Client RecordingView) : Prop where
  stage : Stage replies ahead
  standard : c.dispatcher.IsStandard
  plugins : c.plugins = (replies[0]?.map fun listing =>
    LoadReport.load .builtin (.followMeshes true) (listedIn listing)).getD {}
  milestones : c.room.milestones =
    (replies[0]?.map fun _ => Event.pluginsLoaded c.plugins.loadedNames).toList ++
      if ahead = [] then [.ready] else []
  scene : c.room.scene = sceneWith view (replies[1]?.bind (held? MeshDelta.decoder))
    (replies[2]?.bind (held? Canvas.decoder))
  seeded : c.room.sync.isSeeded = (replies[2]?.bind (held? Canvas.decoder)).isSome
  numeric : c.room.controls.Numeric
  caughtUp : ∀ p, c.room.sync.lags c.room.controls p = false
  sent : c.channel.sent = []
  inbound : ∀ text ∈ c.channel.inbound, isGreeting text = true

namespace Progress

variable {view : RecordingView} {replies : List (Except RequestError String)} {ahead : List Boot}
  {c c' : Client RecordingView}

lemma beside (h : Progress view replies ahead c) (hc : Beside c c') :
    Progress view replies ahead c' where
  stage := h.stage
  standard := hc.dispatcher ▸ h.standard
  plugins := hc.plugins.trans h.plugins
  milestones := by rw [hc.milestones, hc.plugins, h.milestones]
  scene := hc.scene.trans h.scene
  seeded := by rw [hc.sync, h.seeded]
  numeric := by
    rw [Room.controls, hc.scene]
    exact h.numeric
  caughtUp := by
    rw [Room.controls, hc.scene, hc.sync]
    exact h.caughtUp
  sent := by rw [hc.channel, h.sent]
  inbound := by
    rw [hc.channel]
    exact h.inbound

/-- The channel matters only for what was sent and what is waiting. -/
lemma withChannel (h : Progress view replies ahead c) (channel : MemoryChannel)
    (hsent : channel.sent = c.channel.sent)
    (hinbound : ∀ text ∈ channel.inbound, isGreeting text = true) :
    Progress view replies ahead { c with channel } :=
  { h with
    sent := hsent.trans h.sent
    inbound := hinbound }

/-- Receiving a greeting. -/
lemma handle (h : Progress view replies ahead c) {text : String} (htext : isGreeting text = true) :
    Progress view replies ahead (c.handle text).2 := by
  obtain ⟨session, events, hhandle, -, hmilestones⟩ := handle_greeting h.standard htext
  rw [hhandle]
  exact { h with milestones := hmilestones.trans h.milestones }

lemma receiveMany_one (h : Progress view replies ahead c) :
    Progress view replies ahead (c.receiveMany 1) := by
  refine of_receiveMany_one h fun text rest hinbound => ?_
  obtain ⟨htext, hrest⟩ := List.forall_mem_cons.1 (hinbound ▸ h.inbound)
  exact (h.withChannel { c.channel with inbound := rest } rfl hrest).handle htext

/-- A frame of the screen finds nothing to tell. -/
lemma frame (h : Progress view replies ahead c) : Progress view replies ahead c.frame := by
  unfold Client.frame
  split
  case isFalse => exact h
  case isTrue =>
    obtain ⟨hseeded, hcaughtUp⟩ := Sync.caughtUp_tick c.room.session h.numeric h.caughtUp
    have htick : (c.room.sync.tick c.room.session c.room.controls).1 = {} :=
      Sync.tick_of_caughtUp c.room.session h.caughtUp
    have hchannel : c.tick.2.channel = c.channel := by
      show (c.room.sync.tick c.room.session c.room.controls).1.messages.foldl _ _ = _
      rw [htick]
      rfl
    exact
      { h with
        seeded := hseeded.trans h.seeded
        caughtUp := hcaughtUp
        sent := by rw [hchannel, h.sent]
        inbound := by
          rw [hchannel]
          exact h.inbound }

lemma plugins_boot (h : Progress view [] Boot.all c) (listing : Except RequestError String)
    (hlisting : listing
      = (c.requester.send c.room.session Task.listPlugins (.object []) c.server).1) :
    Progress view [listing] [.meshes, .canvas, .ready] (c.loadPlugins .builtin) where
  stage := .listed listing
  standard := h.standard.registerAll fun added hadded =>
    (handlers_load_builtin _ _ added hadded).imp_right fun hdeltas => ⟨true, hdeltas⟩
  plugins := by
    rw [plugins_loadPlugins, hlisting]
    rfl
  milestones := by
    rw [milestones_loadPlugins, h.milestones]
    rfl
  scene := h.scene
  seeded := h.seeded
  numeric := h.numeric
  caughtUp := h.caughtUp
  sent := h.sent
  inbound := h.inbound

lemma meshes_boot {listing : Except RequestError String}
    (h : Progress view [listing] [.meshes, .canvas, .ready] c) (meshes : Except RequestError String)
    (hmeshes : meshes
      = (c.requester.send c.room.session Task.pullCurrentMeshes (.object []) c.server).1) :
    Progress view [listing, meshes] [.canvas, .ready] c.pullMeshes := by
  obtain ⟨c', hbeside, hpull⟩ := c.pullMeshes_spec
  have h' := h.beside hbeside
  rw [← hmeshes] at hpull
  have hscene : c'.room.scene = { view } := h'.scene
  cases hdelta : held? MeshDelta.decoder meshes with
  | none =>
    rw [hdelta] at hpull
    rw [hpull]
    exact
      { h' with
        stage := .pulled listing meshes
        milestones := h'.milestones
        scene := by
          show _ = sceneWith view (held? MeshDelta.decoder meshes) none
          rw [hdelta, hscene]
          rfl }
  | some delta =>
    rw [hdelta] at hpull
    rw [hpull]
    have hcontrols : (c'.room.applyMeshes delta).controls = c'.room.controls :=
      (RecordingView.bookkeeping_controls _).apply delta true rfl
    exact
      { h' with
        stage := .pulled listing meshes
        milestones := h'.milestones
        scene := by
          show (c'.room.scene.apply delta true).2
            = sceneWith view (held? MeshDelta.decoder meshes) none
          rw [hdelta, hscene]
          rfl
        numeric := hcontrols ▸ h'.numeric
        caughtUp := hcontrols ▸ h'.caughtUp }

lemma canvas_boot {listing meshes : Except RequestError String}
    (h : Progress view [listing, meshes] [.canvas, .ready] c) (canvas : Except RequestError String)
    (hcanvas : canvas
      = (c.requester.send c.room.session Task.pullCanvasParameters (.object []) c.server).1) :
    Progress view [listing, meshes, canvas] [.ready] c.pullCanvas := by
  obtain ⟨c', hbeside, hpull⟩ := c.pullCanvas_spec
  have h' := h.beside hbeside
  rw [← hcanvas] at hpull
  have hscene : c'.room.scene = sceneWith view (held? MeshDelta.decoder meshes) none := h'.scene
  cases hheld : held? Canvas.decoder canvas with
  | none =>
    rw [hheld] at hpull
    rw [hpull]
    exact
      { h' with
        stage := .seeded listing meshes canvas
        milestones := h'.milestones
        scene := by
          show _ = sceneWith view (held? MeshDelta.decoder meshes) (held? Canvas.decoder canvas)
          rw [hheld, hscene]
        seeded := by
          show _ = (held? Canvas.decoder canvas).isSome
          rw [hheld, h'.seeded]
          rfl }
  | some taken =>
    rw [hheld] at hpull
    rw [hpull]
    have hnumeric : (CameraChange.ofCanvas taken).Numeric := Canvas.yields_decoder.held? hheld
    exact
      { h' with
        stage := .seeded listing meshes canvas
        milestones := h'.milestones
        scene := by
          show _ = sceneWith view (held? MeshDelta.decoder meshes) (held? Canvas.decoder canvas)
          rw [hheld]
          show (c'.room.seed taken).scene = { sceneWith view (held? MeshDelta.decoder meshes) none with
            view := View.move (.ofCanvas taken)
              (sceneWith view (held? MeshDelta.decoder meshes) none).view }
          rw [← hscene]
          rfl
        seeded := by
          show _ = (held? Canvas.decoder canvas).isSome
          rw [hheld]
          rfl
        numeric := h'.numeric.move hnumeric
        caughtUp := Sync.lags_seed h'.numeric hnumeric }

lemma ready_boot {listing meshes canvas : Except RequestError String}
    (h : Progress view [listing, meshes, canvas] [.ready] c) :
    Progress view [listing, meshes, canvas] [] (c.tell .ready) :=
  { h with
    stage := .started listing meshes canvas
    milestones := by
      have hmilestones : (c.tell .ready).room.milestones = c.room.milestones ++ [.ready] :=
        List.filter_append ..
      rw [hmilestones, h.milestones]
      rfl }

/-- Each step of starting, with the reply to it. -/
lemma boot {b : Boot} {source : ModuleSource Module} (hsource : source = .builtin)
    (h : Progress view replies (b :: ahead) c) :
    Progress view (replies ++ (b.reply? c).toList) ahead (b.run source c) := by
  subst hsource
  cases h.stage with
  | joined => exact h.plugins_boot _ rfl
  | listed listing => exact h.meshes_boot _ rfl
  | pulled listing meshes => exact h.canvas_boot _ rfl
  | seeded listing meshes canvas => exact h.ready_boot

end Progress

/-- A client that has been started with replies to its three requests. Each plugin that is listed
has been loaded as it would be alone. -/
structure Started (view : RecordingView) (listing meshes canvas : Except RequestError String)
    (c : Client RecordingView) : Prop where
  milestones : c.room.milestones = [.pluginsLoaded c.plugins.loadedNames, .ready]
  plugins : c.plugins.plugins = (listedIn listing).map fun d =>
    ((Loader.ofSource .builtin (.followMeshes true)).load d ()).1
  scene : c.room.scene = sceneWith view (held? MeshDelta.decoder meshes) (held? Canvas.decoder canvas)
  seeded : c.room.sync.isSeeded = (held? Canvas.decoder canvas).isSome
  silent : c.tick.1 = {}
  sent : c.channel.sent = []

lemma Progress.started {view : RecordingView} {replies : List (Except RequestError String)}
    {c : Client RecordingView} (h : Progress view replies [] c) :
    ∃ listing meshes canvas, replies = [listing, meshes, canvas] ∧
      c.Started view listing meshes canvas := by
  obtain ⟨listing, meshes, canvas, rfl⟩ :
      ∃ listing meshes canvas, replies = [listing, meshes, canvas] := by
    cases h.stage with
    | started listing meshes canvas => exact ⟨listing, meshes, canvas, rfl⟩
  exact ⟨listing, meshes, canvas, rfl,
    { milestones := h.milestones
      plugins := by rw [h.plugins, ← LoadReport.plugins_load]; rfl
      scene := h.scene
      seeded := h.seeded
      silent := Sync.tick_of_caughtUp c.room.session h.caughtUp
      sent := h.sent }⟩

/-! ### What holds of a client without identity -/

/-- What holds of a client that has been given no identity: it has asked for nothing and told
nothing. -/
structure Unnamed {V : Type} (seen : List SeenRequest) (c : Client V) : Prop where
  session : c.room.session.id = none
  standard : c.dispatcher.IsStandard
  seen : c.server.seen = seen
  sent : c.channel.sent = []
  inbound : ∀ text ∈ c.channel.inbound, isGreeting text = false

namespace Unnamed

variable {V : Type} {seen : List SeenRequest} {c c' : Client V}

lemma beside (h : Unnamed seen c) (hc : Beside c c')
    (hears : c.server.Hears c.room.session c'.server) : Unnamed seen c' where
  session := by rw [hc.session, h.session]
  standard := hc.dispatcher ▸ h.standard
  seen := by
    obtain ⟨heard, hseen, hcarries⟩ := hears
    have hnone : heard = [] := by
      refine List.eq_nil_iff_forall_not_mem.2 fun r hr => ?_
      obtain ⟨id, hid, -⟩ := hcarries r hr
      rw [h.session] at hid
      cases hid
    rw [hseen, hnone, List.append_nil, h.seen]
  sent := by rw [hc.channel, h.sent]
  inbound := by
    rw [hc.channel]
    exact h.inbound

lemma withChannel (h : Unnamed seen c) (channel : MemoryChannel)
    (hsent : channel.sent = c.channel.sent)
    (hinbound : ∀ text ∈ channel.inbound, isGreeting text = false) :
    Unnamed seen { c with channel } :=
  { h with
    sent := hsent.trans h.sent
    inbound := hinbound }

lemma watch (h : Unnamed seen c) : Unnamed seen c.watch := by
  have hserver : c.watch.server = c.server := by
    unfold Client.watch
    split
    · split <;> rfl
    · rfl
  exact h.beside c.beside_watch (hserver ▸ .refl _ _)

lemma renderMany_one (h : Unnamed seen c) : Unnamed seen (c.renderMany 1) :=
  h.beside c.beside_renderMany_one c.hears_renderMany_one.1

variable [View V]

lemma handle (h : Unnamed seen c) {text : String} (htext : isGreeting text = false) :
    Unnamed seen (c.handle text).2 where
  session := (id_handle_of_not_greeting h.standard htext).trans h.session
  standard := dispatcher_handle h.standard text ▸ h.standard
  seen := h.seen
  sent := h.sent
  inbound := h.inbound

lemma receiveMany_one (h : Unnamed seen c) : Unnamed seen (c.receiveMany 1) := by
  refine of_receiveMany_one h fun text rest hinbound => ?_
  obtain ⟨htext, hrest⟩ := List.forall_mem_cons.1 (hinbound ▸ h.inbound)
  exact (h.withChannel { c.channel with inbound := rest } rfl hrest).handle htext

end Unnamed

end Client

end MeshRoom
