import MeshRoom.Proofs.Client.Rendering

/-!
# Watching for the loss of a channel

A client tells that its channel is lost when it watches, and never else: whatever else it does, it
leaves alone who listens to the channel and what the listener has been told, and tells only of other
things. So it comes to one account: whether the channel is lost, what the listener was told, and
what the client has told of that.
-/

namespace MeshRoom

open Json Wire

variable {V : Type}

/-! ### Disconnections -/

/-- The reason of the loss of the channel, if an event tells of it. -/
def Event.loss? : Event → Option String
  | .disconnected reason => some reason
  | _ => none

namespace Room

/-- The losses of the channel that have been told. -/
def disconnections (room : Room V) : List String := room.events.filterMap Event.loss?

lemma disconnections_tell (e : Event) (room : Room V) :
    (room.tell e).disconnections = room.disconnections ++ e.loss?.toList := by
  rw [disconnections, tell, List.filterMap_append, List.filterMap_cons, List.filterMap_nil]
  cases e.loss? <;> rfl

lemma disconnections_of_append {room room' : Room V} {es : List Event}
    (hevents : room'.events = room.events ++ es) (hes : ∀ e ∈ es, e.loss? = none) :
    room'.disconnections = room.disconnections := by
  rw [disconnections, hevents, List.filterMap_append, List.filterMap_eq_nil_iff.2 hes,
    List.append_nil, disconnections]

end Room

/-! ### What does not tell of a loss -/

lemma loss?_eventsOf {α : Type} (r : Requester) (task : String) (result : Except RequestError α) :
    ∀ e ∈ r.eventsOf task result, e.loss? = none := by
  intro e he
  obtain ⟨message, rfl⟩ := r.mem_eventsOf he
  rfl

lemma Hook.loss?_events (h : Hook) (r : Requester) (own : Session) (e : MeshEntry)
    (server : Server) : ∀ ev ∈ (h.run r own e server).events, ev.loss? = none := by
  intro ev hev
  obtain ⟨task, message, rfl⟩ := h.mem_events_run hev
  rfl

lemma LoadReport.loss?_events (r : LoadReport) : ∀ e ∈ r.events, e.loss? = none := by
  intro e he
  obtain ⟨p, -, hp⟩ := List.mem_filterMap.1 he
  unfold LoadedPlugin.event? at hp
  split at hp
  · cases hp
    rfl
  · cases hp

namespace Handler

lemma disconnections_reading {α : Type} {subject : String} {d : Decoder α} {parameters : Value}
    {room : Room V} {go : α → Reply Handler × Room V}
    (hgo : ∀ x, (go x).2.disconnections = room.disconnections) :
    (reading subject d parameters room go).2.disconnections = room.disconnections := by
  unfold reading
  split
  case h_1 x _ => exact hgo x
  case h_2 => rfl

variable [View V]

lemma disconnections_run (h : Handler) (parameters : Value) (room : Room V) :
    (h.run parameters room).2.disconnections = room.disconnections := by
  cases h with
  | assignSession =>
    refine disconnections_reading fun grant => ?_
    cases room.session.assign grant.session with
    | ok session => exact (Room.disconnections_tell _ _).trans (List.append_nil _)
    | error => rfl
  | tellBusy =>
    exact disconnections_reading fun _ => (Room.disconnections_tell _ _).trans (List.append_nil _)
  | tellReload => exact (Room.disconnections_tell _ _).trans (List.append_nil _)
  | followCamera => exact disconnections_reading fun _ => rfl
  | followCursor => exact disconnections_reading fun _ => rfl
  | followMeshes reporting =>
    unfold run
    cases room.scene.applyParameters parameters with
    | ok => cases reporting <;> rfl
    | error => rfl
  | scripted => rfl

end Handler

lemma Dispatcher.disconnections_dispatch [View V] (d : Dispatcher Handler) (text : String)
    (room : Room V) :
    (d.dispatch Handler.run text room).2.2.disconnections = room.disconnections := by
  unfold dispatch
  split
  case h_2 => rfl
  case h_1 e _ =>
    unfold deliver
    split
    case h_1 => rfl
    case h_2 h _ => exact h.disconnections_run e.parameters room

namespace MemoryChannel

lemma push_eq (channel : MemoryChannel) (text : String) :
    ∃ inbound, channel.push text = { channel with inbound } := by
  unfold push
  split
  · exact ⟨_, rfl⟩
  · exact ⟨_, rfl⟩

lemma mem_inbound_push {channel : MemoryChannel} {text t : String}
    (h : t ∈ (channel.push text).inbound) : t ∈ channel.inbound ∨ t = text := by
  unfold push at h
  split at h
  · exact (List.mem_append.1 h).imp_right List.mem_singleton.1
  · exact .inl h

lemma sent_push (channel : MemoryChannel) (text : String) :
    (channel.push text).sent = channel.sent := by
  obtain ⟨inbound, hpush⟩ := channel.push_eq text
  rw [hpush]

lemma disconnect_keeps (channel : MemoryChannel) (reason : String) :
    (channel.disconnect reason).sent = channel.sent ∧
      (channel.disconnect reason).inbound = channel.inbound := by
  unfold disconnect
  split <;> exact ⟨rfl, rfl⟩

/-- Where there is no listener, nobody is told of a loss. -/
lemma disconnect_of_listener {channel : MemoryChannel} (h : channel.listener = none)
    (reason : String) : channel.disconnect reason = { channel with isOpen := false } := by
  cases hopen : channel.isOpen with
  | true => simp [disconnect, hopen, h]
  | false =>
    rw [disconnect, hopen, if_neg Bool.false_ne_true]
    exact congrArg (fun isOpen => { channel with isOpen }) hopen

lemma disconnect_of_closed {channel : MemoryChannel} (h : channel.isOpen = false)
    (reason : String) : channel.disconnect reason = channel := by
  rw [disconnect, h, if_neg Bool.false_ne_true]

lemma post_of_closed {channel : MemoryChannel} (h : channel.isOpen = false) (text : String) :
    channel.post text = channel := by
  rw [post, send, h, if_neg Bool.false_ne_true]

lemma sent_post {channel : MemoryChannel} (h : channel.isOpen = true) (text : String) :
    (channel.post text).sent = channel.sent ++ [text] := by
  rw [post, send, if_pos h]

/-- Sending, or failing to send, tells nobody of a loss. -/
lemma foldl_post (texts : List String) (channel : MemoryChannel) :
    (texts.foldl post channel).isOpen = channel.isOpen ∧
      (texts.foldl post channel).listener = channel.listener ∧
        (texts.foldl post channel).losses = channel.losses := by
  induction texts generalizing channel with
  | nil => exact ⟨rfl, rfl, rfl⟩
  | cons text texts ih =>
    obtain ⟨hopen, hlistener, hlosses⟩ := ih (channel.post text)
    rw [List.foldl_cons, hopen, hlistener, hlosses]
    cases h : channel.isOpen <;> simp [post, send, h]

end MemoryChannel

namespace Client

/-- Whatever a client does beside watching: its channel is as lost as before, with the same listener
and the same told to it, and nothing is told of a loss. -/
structure Oblivious (c c' : Client V) : Prop where
  isOpen : c'.channel.isOpen = c.channel.isOpen
  registered : c'.channel.listener = c.channel.listener
  losses : c'.channel.losses = c.channel.losses
  listener : c'.listener = c.listener
  lossTold : c'.lossTold = c.lossTold
  disconnections : c'.room.disconnections = c.room.disconnections

namespace Oblivious

lemma refl (c : Client V) : Oblivious c c := ⟨rfl, rfl, rfl, rfl, rfl, rfl⟩

lemma trans {c c' c'' : Client V} (h : Oblivious c c') (h' : Oblivious c' c'') :
    Oblivious c c'' where
  isOpen := h'.isOpen.trans h.isOpen
  registered := h'.registered.trans h.registered
  losses := h'.losses.trans h.losses
  listener := h'.listener.trans h.listener
  lossTold := h'.lossTold.trans h.lossTold
  disconnections := h'.disconnections.trans h.disconnections

/-- Changes to the room that tell only other things. -/
lemma of_room {c c' : Client V} (hchannel : c'.channel = c.channel)
    (hlistener : c'.listener = c.listener) (htold : c'.lossTold = c.lossTold)
    (hroom : c'.room.disconnections = c.room.disconnections) : Oblivious c c' :=
  ⟨by rw [hchannel], by rw [hchannel], by rw [hchannel], hlistener, htold, hroom⟩

lemma tell {c c' : Client V} (h : Oblivious c c') {e : Event} (he : e.loss? = none) :
    Oblivious c (c'.tell e) where
  isOpen := h.isOpen
  registered := h.registered
  losses := h.losses
  listener := h.listener
  lossTold := h.lossTold
  disconnections := by
    rw [Client.tell, Room.disconnections_tell, he, Option.toList_none, List.append_nil,
      h.disconnections]

end Oblivious

/-! ### Being told of a loss -/

/-- The channel is lost for some reason, and for some reason the listener of the client has been
told of it, which the client tells once it has watched. -/
structure Accounts (lost told : Option String) (c : Client V) : Prop where
  isOpen : c.channel.isOpen = lost.isNone
  registered : c.channel.isOpen = true → c.channel.listener = some c.listener
  losses : (c.channel.losses.find? fun l => l.listener = c.listener) = told.map (⟨c.listener, ·⟩)
  lossTold : c.lossTold = true → told ≠ none
  disconnections : c.room.disconnections = if c.lossTold then told.toList else []

namespace Accounts

variable {lost told : Option String} {c c' : Client V}

lemma oblivious (h : Accounts lost told c) (hc : Oblivious c c') : Accounts lost told c' where
  isOpen := hc.isOpen.trans h.isOpen
  registered := by
    rw [hc.isOpen, hc.registered, hc.listener]
    exact h.registered
  losses := by
    rw [hc.losses, hc.listener]
    exact h.losses
  lossTold := by
    rw [hc.lossTold]
    exact h.lossTold
  disconnections := by
    rw [hc.disconnections, hc.lossTold]
    exact h.disconnections

/-- The listener is told when an open channel is dropped. -/
lemma disconnect (h : Accounts none none c) (reason : String) :
    Accounts (some reason) (some reason) { c with channel := c.channel.disconnect reason } := by
  have hopen : c.channel.isOpen = true := h.isOpen
  have hlistener := h.registered hopen
  have hnone : (c.channel.losses.find? fun l => l.listener = c.listener) = none := h.losses
  have htold : c.lossTold = false := Bool.eq_false_iff.2 fun ht => h.lossTold ht rfl
  refine ⟨?_, ?_, ?_, fun _ => Option.some_ne_none _, ?_⟩
  · simp [MemoryChannel.disconnect, hopen]
  · simp [MemoryChannel.disconnect, hopen]
  · simp [MemoryChannel.disconnect, hopen, hlistener, List.find?_append, hnone]
  · simpa [htold] using h.disconnections

/-- Nobody is told when a channel is dropped again. -/
lemma disconnect_again {reason : String} (h : Accounts (some reason) told c) (again : String) :
    Accounts (some reason) told { c with channel := c.channel.disconnect again } := by
  have hclosed : c.channel.isOpen = false := h.isOpen
  rw [MemoryChannel.disconnect_of_closed hclosed]
  exact h

lemma watch (h : Accounts lost told c) :
    Accounts lost told c.watch ∧ c.watch.room.disconnections = told.toList := by
  have hlosses := h.losses
  have hdisconnections := h.disconnections
  unfold Client.watch
  cases told with
  | none =>
    rw [hlosses]
    exact ⟨h, by simpa using hdisconnections⟩
  | some reason =>
    rw [hlosses]
    cases htold : c.lossTold with
    | true => exact ⟨by simpa [htold] using h, by simpa [htold] using hdisconnections⟩
    | false =>
      rw [htold] at hdisconnections
      have htells : (c.room.tell (.disconnected reason)).disconnections = [reason] := by
        rw [Room.disconnections_tell, hdisconnections]
        rfl
      exact ⟨⟨h.isOpen, h.registered, hlosses, fun _ => Option.some_ne_none _, htells⟩, htells⟩

end Accounts

/-! ### What a client does beside watching -/

lemma oblivious_push (text : String) (c : Client V) :
    Oblivious c { c with channel := c.channel.push text } := by
  obtain ⟨inbound, hpush⟩ := c.channel.push_eq text
  rw [hpush]
  exact ⟨rfl, rfl, rfl, rfl, rfl, rfl⟩

lemma oblivious_call (task : String) (payload : Value) (c : Client V) :
    Oblivious c (c.call task payload).2 := by
  rw [call, foldl_tell]
  exact .of_room rfl rfl rfl (Room.disconnections_of_append rfl (loss?_eventsOf _ _ _))

lemma oblivious_callAs {α : Type} {d : Decoder α} {task : String} {payload : Value}
    {c c' : Client V} {result : Except RequestError α}
    (h : c.callAs d task payload = (result, c')) : Oblivious c c' := by
  rw [callAs, foldl_tell] at h
  cases h
  exact .of_room rfl rfl rfl (Room.disconnections_of_append rfl (loss?_eventsOf _ _ _))

lemma oblivious_render? {c c' : Client V} (h : c.render? = some c') : Oblivious c c' := by
  unfold render? at h
  split at h
  case h_1 =>
    cases h
    apply Oblivious.tell
    · exact .of_room rfl rfl rfl rfl
    · rfl
  case h_2 e hook hooks hcurrent =>
    cases h
    simp only [foldl_tell]
    exact .of_room rfl rfl rfl
      (Room.disconnections_of_append rfl (hook.loss?_events _ _ _ _))
  case h_3 uuid gone hcurrent hgone =>
    cases h
    dsimp only
    split
    · exact .of_room rfl rfl rfl rfl
    · apply Oblivious.tell
      · exact .of_room rfl rfl rfl rfl
      · rfl
  case h_4 =>
    cases h
    exact .of_room rfl rfl rfl rfl
  case h_5 =>
    cases h
    exact .of_room rfl rfl rfl rfl
  case h_6 => cases h

lemma oblivious_renderMany_one (c : Client V) : Oblivious c (c.renderMany 1) := by
  unfold renderMany
  split
  case h_1 c' hrender => exact oblivious_render? hrender
  case h_2 => exact .refl c

lemma oblivious_loadPlugins (source : ModuleSource Module) (c : Client V) :
    Oblivious c (c.loadPlugins source) := by
  let listed := c.requester.callAs .value c.room.session Task.listPlugins (.object []) c.server
  let plugins := (c.loadPlugins source).plugins
  have hevents : (c.loadPlugins source).room.events = c.room.events ++
      (listed.events ++ plugins.events ++ [.pluginsLoaded plugins.loadedNames]) := by
    rw [← List.append_assoc, ← List.append_assoc]
    rfl
  refine .of_room rfl rfl rfl (Room.disconnections_of_append hevents fun e he => ?_)
  rcases List.mem_append.1 he with hin | hlast
  · rcases List.mem_append.1 hin with hlisted | hplugins
    · exact loss?_eventsOf c.requester Task.listPlugins _ e hlisted
    · exact plugins.loss?_events e hplugins
  · rw [List.mem_singleton.1 hlast]
    rfl

variable [View V]

lemma oblivious_receive? {c c' : Client V} (h : c.receive? = some c') : Oblivious c c' := by
  unfold receive? MemoryChannel.receive at h
  cases hinbound : c.channel.inbound with
  | nil => cases hopen : c.channel.isOpen <;> simp [hinbound, hopen] at h
  | cons text rest =>
    simp only [hinbound, Option.some.injEq] at h
    rw [← h]
    exact ⟨rfl, rfl, rfl, rfl, rfl, c.dispatcher.disconnections_dispatch text c.room⟩

lemma oblivious_receiveMany_one (c : Client V) : Oblivious c (c.receiveMany 1) := by
  unfold receiveMany
  split
  case h_1 c' hreceive => exact oblivious_receive? hreceive
  case h_2 => exact .refl c

lemma oblivious_pullMeshes (c : Client V) : Oblivious c c.pullMeshes := by
  unfold pullMeshes
  split
  case h_1 delta c' hcalled => exact (oblivious_callAs hcalled).trans (.of_room rfl rfl rfl rfl)
  case h_2 e c' hcalled => exact oblivious_callAs hcalled

lemma oblivious_pullCanvas (c : Client V) : Oblivious c c.pullCanvas := by
  unfold pullCanvas
  split
  case h_1 canvas c' hcalled => exact (oblivious_callAs hcalled).trans (.of_room rfl rfl rfl rfl)
  case h_2 e c' hcalled => exact oblivious_callAs hcalled

lemma oblivious_frame (c : Client V) : Oblivious c c.frame := by
  unfold frame
  split
  · let t := (c.room.sync.tick c.room.session c.room.controls).1
    obtain ⟨hopen, hlistener, hlosses⟩ := MemoryChannel.foldl_post t.messages c.channel
    exact ⟨hopen, hlistener, hlosses, rfl, rfl, rfl⟩
  · exact .refl c

end Client

end MeshRoom
