import MeshRoom.Proofs.Client.Progress

/-!
# Starting, whatever is replied

A client that has been greeted with its identity gets started whatever the server replies to the
requests it makes meanwhile, and a reply that says nothing costs it no more than what was asked for.
The meshes come before the canvas and the frames of the screen after both, so that the client has
nothing to tell of its own until its user moves. A client that is not greeted is not started, and
neither asks for anything nor tells anything.
-/

namespace MeshRoom

open Json Wire

namespace Stay

/-! ### Runs -/

section

variable {V : Type}

/-- Whether an act is one that a client is left in peace by: no frame but a greeting, and its user
does nothing in the view. -/
def Act.isQuiet : Act V → Bool
  | .push text => isGreeting text
  | .look _ => false
  | _ => true

/-- Whether an act greets the client. -/
def Act.greets : Act V → Bool
  | .push text => isGreeting text
  | _ => false

/-- The reply to the request that an act makes for the client to be started. -/
def reply? (s : Stay V) : Act V → Option (Except RequestError String)
  | .boot =>
    match s with
    | .joined c (b :: _) => if b.isDue c.room.session then b.reply? c else none
    | _ => none
  | _ => none

variable [View V] (setting : Setting V)

/-- The replies to the requests that are made for the client to be started. -/
def repliesFrom : Stay V → List (Act V) → List (Except RequestError String)
  | _, [] => []
  | s, a :: acts => (s.reply? a).toList ++ repliesFrom (s.step setting a) acts

/-- The replies from the moment the channel is connected. -/
def replies (acts : List (Act V)) : List (Except RequestError String) :=
  repliesFrom setting (.connected {}) acts

end

/-! ### Runs in which the client is left in peace -/

/-- What holds of a stay in which the client receives nothing but greetings and its user does
nothing. -/
inductive InPeace (view : RecordingView) (replies : List (Except RequestError String)) :
    Stay RecordingView → Prop where
  | connected (channel : MemoryChannel) (hreplies : replies = []) (hsent : channel.sent = [])
      (hinbound : ∀ text ∈ channel.inbound, isGreeting text = true) :
      InPeace view replies (.connected channel)
  | joined (c : Client RecordingView) (ahead : List Client.Boot)
      (hc : c.Progress view replies ahead) : InPeace view replies (.joined c ahead)

namespace InPeace

variable {setting : Setting RecordingView} {replies : List (Except RequestError String)}

lemma progress_join (hview : (View.controls setting.view).Numeric) {channel : MemoryChannel}
    (hsent : channel.sent = []) (hinbound : ∀ text ∈ channel.inbound, isGreeting text = true) :
    (Client.join setting.options channel setting.view setting.server).Progress setting.view []
      Client.Boot.all where
  stage := .joined
  standard := Dispatcher.isStandard_core
  plugins := rfl
  milestones := rfl
  scene := rfl
  seeded := rfl
  numeric := hview
  caughtUp := Sync.lags_of_not_seeded rfl _
  sent := hsent
  inbound := hinbound

lemma step_connected (hview : (View.controls setting.view).Numeric) {channel : MemoryChannel}
    (h : InPeace setting.view replies (.connected channel)) {a : Act RecordingView}
    (ha : a.isQuiet = true) : InPeace setting.view replies (step setting (.connected channel) a) := by
  rcases h with ⟨_, rfl, hsent, hinbound⟩
  cases a with
  | push text =>
    refine .connected _ rfl ((channel.sent_push text).trans hsent) fun t ht => ?_
    rcases MemoryChannel.mem_inbound_push ht with hold | rfl
    · exact hinbound t hold
    · exact ha
  | drop reason =>
    obtain ⟨hsame, hwaiting⟩ := channel.disconnect_keeps reason
    exact .connected _ rfl (hsame.trans hsent) (hwaiting ▸ hinbound)
  | join => exact .joined _ _ (progress_join hview hsent hinbound)
  | look => cases ha
  | boot | receive | watch | render | frame | request => exact .connected _ rfl hsent hinbound

lemma step_joined (hsource : setting.source = .builtin) {c : Client RecordingView}
    {ahead : List Client.Boot} (h : InPeace setting.view replies (.joined c ahead))
    {a : Act RecordingView} (ha : a.isQuiet = true) :
    InPeace setting.view (replies ++ ((Stay.joined c ahead).reply? a).toList)
      (step setting (.joined c ahead) a) := by
  rcases h with _ | ⟨_, _, hc⟩
  -- an act that is no step of starting makes no request for one
  have hnone {c' : Client RecordingView} (hc' : c'.Progress setting.view replies ahead) :
      InPeace setting.view (replies ++ []) (.joined c' ahead) := by
    rw [List.append_nil]
    exact .joined c' ahead hc'
  cases a with
  | push text =>
    refine hnone (hc.withChannel _ (c.channel.sent_push text) fun t ht => ?_)
    rcases MemoryChannel.mem_inbound_push ht with hold | rfl
    · exact hc.inbound t hold
    · exact ha
  | drop reason =>
    obtain ⟨hsame, hwaiting⟩ := c.channel.disconnect_keeps reason
    exact hnone (hc.withChannel _ hsame (hwaiting ▸ hc.inbound))
  | join => exact hnone hc
  | boot =>
    cases ahead with
    | nil => exact hnone hc
    | cons b ahead =>
      by_cases hdue : b.isDue c.room.session = true
      · have hstep : step setting (.joined c (b :: ahead)) .boot
            = .joined (b.run setting.source c) ahead := if_pos hdue
        have hreply : (Stay.joined c (b :: ahead)).reply? .boot = b.reply? c := if_pos hdue
        rw [hstep, hreply]
        exact .joined _ _ (hc.boot hsource)
      · have hstep : step setting (.joined c (b :: ahead)) .boot = .joined c (b :: ahead) :=
          if_neg hdue
        have hreply : (Stay.joined c (b :: ahead)).reply? .boot = none := if_neg hdue
        rw [hstep, hreply]
        exact hnone hc
  | receive => exact hnone hc.receiveMany_one
  | watch => exact hnone (hc.beside c.beside_watch)
  | render => exact hnone (hc.beside c.beside_renderMany_one)
  | look => cases ha
  | frame =>
    cases ahead with
    | nil => exact hnone hc.frame
    | cons => exact hnone hc
  | request task payload =>
    cases ahead with
    | nil => exact hnone (hc.beside (c.beside_call task payload))
    | cons => exact hnone hc

end InPeace

section

variable {V : Type}

/-- What holds of a stay in which the client is not greeted. -/
inductive Ungreeted (setting : Setting V) : Stay V → Prop where
  | connected (channel : MemoryChannel) (hsent : channel.sent = [])
      (hinbound : ∀ text ∈ channel.inbound, isGreeting text = false) :
      Ungreeted setting (.connected channel)
  | joined (c : Client V) (hc : c.Unnamed setting.server.seen) :
      Ungreeted setting (.joined c Client.Boot.all)

variable [View V] {setting : Setting V}

lemma Ungreeted.step {s : Stay V} (h : Ungreeted setting s) {a : Act V} (ha : a.greets = false) :
    Ungreeted setting (s.step setting a) := by
  cases h with
  | connected channel hsent hinbound =>
    cases a with
    | push text =>
      refine .connected _ ((channel.sent_push text).trans hsent) fun t ht => ?_
      rcases MemoryChannel.mem_inbound_push ht with hold | rfl
      · exact hinbound t hold
      · exact ha
    | drop reason =>
      obtain ⟨hsame, hwaiting⟩ := channel.disconnect_keeps reason
      exact .connected _ (hsame.trans hsent) (hwaiting ▸ hinbound)
    | join => exact .joined _ ⟨rfl, Dispatcher.isStandard_core, rfl, hsent, hinbound⟩
    | boot | receive | watch | render | look | frame | request =>
      exact .connected _ hsent hinbound
  | joined c hc =>
    cases a with
    | push text =>
      refine .joined _ (hc.withChannel _ (c.channel.sent_push text) fun t ht => ?_)
      rcases MemoryChannel.mem_inbound_push ht with hold | rfl
      · exact hc.inbound t hold
      · exact ha
    | drop reason =>
      obtain ⟨hsame, hwaiting⟩ := c.channel.disconnect_keeps reason
      exact .joined _ (hc.withChannel _ hsame (hwaiting ▸ hc.inbound))
    | boot =>
      -- the first step of starting waits for the identity
      have hdue : ¬ Client.Boot.plugins.isDue c.room.session = true := by
        simp [Client.Boot.isDue, Session.isAssigned, hc.session]
      have hstep : Stay.step setting (.joined c Client.Boot.all) .boot
          = .joined c Client.Boot.all := if_neg hdue
      rw [hstep]
      exact .joined c hc
    | receive => exact .joined _ hc.receiveMany_one
    | watch => exact .joined _ hc.watch
    | render => exact .joined _ hc.renderMany_one
    | look view => exact .joined _ ⟨hc.session, hc.standard, hc.seen, hc.sent, hc.inbound⟩
    | join | frame | request => exact .joined c hc

lemma run_append (acts more : List (Act V)) :
    run setting (acts ++ more) = more.foldl (step setting) (run setting acts) :=
  List.foldl_append

end

/-! ### Starting -/

end Stay

end MeshRoom
