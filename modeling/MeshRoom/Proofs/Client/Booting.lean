import MeshRoom.Proofs.Client.Identity
import MeshRoom.Proofs.Client.Loss

/-!
# The steps of starting

What each step of starting does, given the reply of the server to the request it makes. A reply that
is missing, that does not say that the request succeeded, or that cannot be read stands for nothing:
no plugins, no meshes, no canvas. The step is done all the same.

Everything else that a client does meanwhile is beside starting it.
-/

namespace MeshRoom

open Json Wire

/-! ### Replies -/

/-- What a reply holds, if there is one and it can be read. -/
def held? {α : Type} (d : Decoder α) (reply : Except RequestError String) : Option α :=
  reply.toOption.bind d.onText

/-- The plugins that a reply lists. -/
def listedIn (reply : Except RequestError String) : List PluginDescriptor :=
  ((held? .value reply).bind PluginDescriptor.listOfValue?).getD []

lemma Requester.toOption_callAs {α : Type} (d : Decoder α) (r : Requester) (own : Session)
    (task : String) (payload : Value) (server : Server) :
    (r.callAs d own task payload server).result.toOption
      = held? d (r.send own task payload server).1 := by
  show ((r.send own task payload server).1.bind (decodeBody task d)).toOption = _
  cases (r.send own task payload server).1 with
  | error => rfl
  | ok body =>
    show (decodeBody task d body).toOption = d.onText body
    unfold decodeBody
    cases d.onText body <;> rfl

/-! ### Milestones -/

/-- Whether an event tells how far a client has been started. -/
def Event.isMilestone : Event → Bool
  | .pluginsLoaded _ | .ready => true
  | _ => false

namespace Room

variable {V : Type}

/-- The milestones that have been told. -/
def milestones (room : Room V) : List Event := room.events.filter Event.isMilestone

lemma milestones_of_append {room room' : Room V} {es : List Event}
    (hevents : room'.events = room.events ++ es) (hes : ∀ e ∈ es, e.isMilestone = false) :
    room'.milestones = room.milestones := by
  have hnone : es.filter Event.isMilestone = [] :=
    List.filter_eq_nil_iff.2 fun e he => Bool.eq_false_iff.1 (hes e he)
  rw [milestones, hevents, List.filter_append, hnone, List.append_nil, milestones]

lemma milestones_tell {room : Room V} {e : Event} (he : e.isMilestone = false) :
    (room.tell e).milestones = room.milestones :=
  milestones_of_append rfl (by simpa using he)

end Room

lemma isMilestone_eventsOf {α : Type} (r : Requester) (task : String)
    (result : Except RequestError α) : ∀ e ∈ r.eventsOf task result, e.isMilestone = false := by
  intro e he
  obtain ⟨message, rfl⟩ := r.mem_eventsOf he
  rfl

lemma LoadReport.isMilestone_events (r : LoadReport) : ∀ e ∈ r.events, e.isMilestone = false := by
  intro e he
  obtain ⟨p, -, hp⟩ := List.mem_filterMap.1 he
  unfold LoadedPlugin.event? at hp
  split at hp
  · cases hp
    rfl
  · cases hp

namespace Client

variable {V : Type}

/-! ### What is beside starting -/

/-- Whatever a client does beside receiving frames, being started and ticking: of all that starting
is about, nothing changes. -/
structure Beside (c c' : Client V) : Prop where
  session : c'.room.session = c.room.session
  scene : c'.room.scene = c.room.scene
  sync : c'.room.sync = c.room.sync
  channel : c'.channel = c.channel
  dispatcher : c'.dispatcher = c.dispatcher
  plugins : c'.plugins = c.plugins
  milestones : c'.room.milestones = c.room.milestones

lemma Beside.refl (c : Client V) : Beside c c := ⟨rfl, rfl, rfl, rfl, rfl, rfl, rfl⟩

lemma beside_watch (c : Client V) : Beside c c.watch := by
  unfold watch
  split
  · split
    · exact .refl c
    · exact ⟨rfl, rfl, rfl, rfl, rfl, rfl, Room.milestones_tell rfl⟩
  · exact .refl c

lemma beside_call (task : String) (payload : Value) (c : Client V) :
    Beside c (c.call task payload).2 := by
  rw [call, foldl_tell]
  exact ⟨rfl, rfl, rfl, rfl, rfl, rfl,
    Room.milestones_of_append rfl (isMilestone_eventsOf _ _ _)⟩

lemma beside_callAs {α : Type} {d : Decoder α} {task : String} {payload : Value}
    {c c' : Client V} {result : Except RequestError α}
    (h : c.callAs d task payload = (result, c')) :
    Beside c c' ∧
      result.toOption = held? d (c.requester.send c.room.session task payload c.server).1 := by
  rw [callAs, foldl_tell] at h
  cases h
  exact ⟨⟨rfl, rfl, rfl, rfl, rfl, rfl,
    Room.milestones_of_append rfl (isMilestone_eventsOf _ _ _)⟩, c.requester.toOption_callAs ..⟩

lemma beside_render? {c c' : Client V} (h : c.render? = some c') : Beside c c' := by
  unfold render? at h
  split at h
  case h_1 =>
    cases h
    exact ⟨rfl, rfl, rfl, rfl, rfl, rfl, Room.milestones_tell rfl⟩
  case h_2 e hook hooks hcurrent =>
    have hevents : ∀ ev ∈ (hook.run c.requester c.room.session e c.server).events,
        ev.isMilestone = false := by
      intro ev hev
      obtain ⟨task, message, rfl⟩ := hook.mem_events_run hev
      rfl
    cases h
    simp only [foldl_tell]
    exact ⟨rfl, rfl, rfl, rfl, rfl, rfl, Room.milestones_of_append rfl hevents⟩
  case h_3 uuid gone hcurrent hgone =>
    cases h
    dsimp only
    split
    · exact ⟨rfl, rfl, rfl, rfl, rfl, rfl, rfl⟩
    · exact ⟨rfl, rfl, rfl, rfl, rfl, rfl, Room.milestones_tell rfl⟩
  case h_6 => cases h
  all_goals
    cases h
    exact ⟨rfl, rfl, rfl, rfl, rfl, rfl, rfl⟩

lemma beside_renderMany_one (c : Client V) : Beside c (c.renderMany 1) := by
  unfold renderMany
  split
  case h_1 c' hrender => exact beside_render? hrender
  case h_2 => exact .refl c

/-! ### Replies to the steps -/

namespace Boot

/-- The task that a step asks for. -/
def task? : Boot → Option String
  | .plugins => some Task.listPlugins
  | .meshes => some Task.pullCurrentMeshes
  | .canvas => some Task.pullCanvasParameters
  | .ready => none

/-- The reply to what a step asks for. -/
def reply? (c : Client V) (b : Boot) : Option (Except RequestError String) :=
  b.task?.map fun task => (c.requester.send c.room.session task (.object []) c.server).1

end Boot

variable (c : Client V)

lemma plugins_loadPlugins (source : ModuleSource Module) :
    (c.loadPlugins source).plugins = LoadReport.load source (.followMeshes true)
      (listedIn (c.requester.send c.room.session Task.listPlugins (.object []) c.server).1) := by
  have hheld := c.requester.toOption_callAs .value c.room.session Task.listPlugins (.object [])
    c.server
  unfold loadPlugins Requester.listPlugins listedIn
  rw [← hheld]
  dsimp only
  congr 1
  cases (c.requester.callAs .value c.room.session Task.listPlugins (.object []) c.server).result with
  | error => rfl
  | ok v =>
    show _ = (PluginDescriptor.listOfValue? v).getD []
    dsimp only
    cases PluginDescriptor.listOfValue? v <;> rfl

lemma milestones_loadPlugins (source : ModuleSource Module) :
    (c.loadPlugins source).room.milestones
      = c.room.milestones ++ [.pluginsLoaded (c.loadPlugins source).plugins.loadedNames] := by
  let told := (c.requester.listPlugins c.room.session c.server).2.1
  let plugins := (c.loadPlugins source).plugins
  have hevents : (c.loadPlugins source).room.events
      = c.room.events ++ (told ++ plugins.events) ++ [.pluginsLoaded plugins.loadedNames] := by
    rw [← List.append_assoc]
    rfl
  have hsilent : ∀ e ∈ told ++ plugins.events, e.isMilestone = false := by
    intro e he
    rcases List.mem_append.1 he with htold | hplugins
    · exact isMilestone_eventsOf _ _ _ e htold
    · exact plugins.isMilestone_events e hplugins
  have hnone : (told ++ plugins.events).filter Event.isMilestone = [] :=
    List.filter_eq_nil_iff.2 fun e he => Bool.eq_false_iff.1 (hsilent e he)
  rw [Room.milestones, hevents, List.filter_append, List.filter_append, hnone, List.append_nil]
  rfl

variable [View V]

/-- Pulling the meshes applies the delta in the reply, if there is one. -/
lemma pullMeshes_spec :
    ∃ c', Beside c c' ∧
      c.pullMeshes =
        match held? MeshDelta.decoder
            (c.requester.send c.room.session Task.pullCurrentMeshes (.object []) c.server).1 with
        | some delta => { c' with room := c'.room.applyMeshes delta }
        | none => c' := by
  unfold pullMeshes
  split
  case h_1 delta c' hcalled =>
    obtain ⟨hbeside, hheld⟩ := beside_callAs hcalled
    exact ⟨c', hbeside, by rw [← hheld]; rfl⟩
  case h_2 e c' hcalled =>
    obtain ⟨hbeside, hheld⟩ := beside_callAs hcalled
    exact ⟨c', hbeside, by rw [← hheld]; rfl⟩

/-- Pulling the canvas takes over the one in the reply, if there is one. -/
lemma pullCanvas_spec :
    ∃ c', Beside c c' ∧
      c.pullCanvas =
        match held? Canvas.decoder
            (c.requester.send c.room.session Task.pullCanvasParameters (.object []) c.server).1 with
        | some canvas => { c' with room := c'.room.seed canvas }
        | none => c' := by
  unfold pullCanvas
  split
  case h_1 canvas c' hcalled =>
    obtain ⟨hbeside, hheld⟩ := beside_callAs hcalled
    exact ⟨c', hbeside, by rw [← hheld]; rfl⟩
  case h_2 e c' hcalled =>
    obtain ⟨hbeside, hheld⟩ := beside_callAs hcalled
    exact ⟨c', hbeside, by rw [← hheld]; rfl⟩

end Client

end MeshRoom
