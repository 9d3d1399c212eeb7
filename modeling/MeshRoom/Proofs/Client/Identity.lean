import MeshRoom.Proofs.Client.Refusal
import MeshRoom.Proofs.Client.Rendering
import MeshRoom.Proofs.Request.Stamping
import MeshRoom.Proofs.Room.Rules
import MeshRoom.Proofs.Session
import MeshRoom.Proofs.Wire.Notices
import Mathlib.Data.List.Induction

/-!
# A client under one identity

A client gets its identity from frames, which may come at any time, may be repeated, be empty, or
contradict each other. Whatever comes, and whatever the client does meanwhile: the first identity
offered that is not empty is the only one it ever has, and the only one that it sends, in the frames
that tell of its camera and cursor and in the requests that name no other session. Before it has one
it sends none of these.
-/

namespace MeshRoom

open Json Wire

/-! ### Frames that name a session -/

namespace Wire

/-- The names under which a message may give its session. -/
def sessionNames : List String := ["sessionId", "sessionUUID", "UUID"]

/-- A frame that tells of the camera or cursor of the session `id`, and names no other session. -/
def NamesSession (id text : String) : Prop :=
  ∃ task name members, (task, name) ∈ [(Task.syncParams, "sessionId"), (Task.syncCursor, "UUID")] ∧
    Envelope.parse text = .ok ⟨task, .object members⟩ ∧
      (members.filter fun m => sessionNames.contains m.1) = [(name, .string id)]

lemma filter_fieldValues (p : String → Bool) (fields : List Field) :
    ((Document.fieldValues fields).filter fun m => p m.1)
      = Document.fieldValues (fields.filter fun f => p f.name) := by
  induction fields with
  | nil => rfl
  | cons f fields ih =>
    rw [Document.fieldValues, Document.fieldValues] at ih ⊢
    cases hcontent : f.content with
    | none => cases hp : p f.name <;> simp [hcontent, hp, ih]
    | some d => cases hp : p f.name <;> simp [hcontent, hp, ih]

lemma namesSession_camera (n : CameraNotice) :
    NamesSession n.session (flatMessage Task.syncParams n.document) := by
  have hparse := n.parse_frame Task.syncParams
  rw [CameraNotice.document, Document.toValue_record] at hparse
  refine ⟨_, _, _, List.mem_cons_self, hparse, ?_⟩
  rw [filter_fieldValues]
  rfl

lemma namesSession_cursor (n : CursorNotice) :
    NamesSession n.session (flatMessage Task.syncCursor n.document) := by
  have hparse := n.parse_frame Task.syncCursor
  rw [CursorNotice.document, Document.toValue_record] at hparse
  refine ⟨_, _, _, List.mem_cons_of_mem _ List.mem_cons_self, hparse, ?_⟩
  rw [filter_fieldValues]
  rfl

end Wire

lemma Sync.session_differences {id : String} {controls : Controls} {b : Baseline}
    {n : CameraNotice} (h : (differences id controls b).camera = some n) : n.session = id := by
  unfold differences at h
  dsimp only at h
  split at h
  · cases h
    rfl
  · cases h

/-- Everything that a tick tells names the session. -/
lemma Sync.namesSession_tick {own : Session} {controls : Controls} {s : Sync} {text : String}
    (h : text ∈ (s.tick own controls).1.messages) :
    ∃ id, own.id = some id ∧ NamesSession id text := by
  unfold tick at h
  split at h
  case h_2 => cases h
  case h_1 b id _ hid =>
    refine ⟨id, hid, ?_⟩
    rcases List.mem_append.1 h with hcamera | hcursor
    · obtain ⟨n, hn, rfl⟩ := Option.map_eq_some_iff.1 (Option.mem_toList.1 hcamera)
      exact session_differences hn ▸ namesSession_camera n
    · obtain ⟨n, hn, rfl⟩ := Option.map_eq_some_iff.1 (Option.mem_toList.1 hcursor)
      obtain ⟨c, -, rfl⟩ := Option.map_eq_some_iff.1 hn
      exact namesSession_cursor _

lemma Sync.namesSession_farewell {own : Session} {controls : Controls} {text : String}
    (h : farewell? own controls = some text) : ∃ id, own.id = some id ∧ NamesSession id text := by
  obtain ⟨id, hid, rfl⟩ := Option.map_eq_some_iff.1 h
  exact ⟨id, hid, namesSession_cursor _⟩

/-! ### Frames that offer an identity -/

/-- The identity that a frame grants. -/
def granted? (text : String) : Option String :=
  match Envelope.parse text with
  | .error _ => none
  | .ok e =>
    if e.task = Task.initializeSession then
      (SessionGrant.decoder.onValue e.parameters).map SessionGrant.session
    else none

variable {V : Type} [View V]

namespace Client

/-- The identity that a frame offers: it goes to the handler of identities, which can read it. -/
def offered? (text : String) (c : Client V) : Option String :=
  match Envelope.parse text with
  | .error _ => none
  | .ok e =>
    match c.dispatcher.handler? e.task with
    | some .assignSession =>
      (SessionGrant.decoder.onValue e.parameters).map SessionGrant.session
    | _ => none

omit [View V] in
lemma exists_of_offered? {text : String} {c : Client V} {id : String}
    (h : c.offered? text = some id) :
    ∃ e grant, Envelope.parse text = .ok e ∧ c.dispatcher.handler? e.task = some .assignSession ∧
      SessionGrant.decoder.onValue e.parameters = some grant ∧ grant.session = id := by
  unfold offered? at h
  split at h
  case h_1 => cases h
  case h_2 e hparse =>
    split at h
    case h_1 hfind =>
      obtain ⟨grant, hgrant, hid⟩ := Option.map_eq_some_iff.1 h
      exact ⟨e, grant, hparse, hfind, hgrant, hid⟩
    case h_2 => cases h

omit [View V] in
/-- A client with the standard handlers is offered the identities that are granted. -/
lemma offered?_eq_granted? {c : Client V} (hd : c.dispatcher.IsStandard) (text : String) :
    c.offered? text = granted? text := by
  unfold offered? granted?
  cases Envelope.parse text with
  | error => rfl
  | ok e =>
    dsimp only
    split_ifs with htask
    · have hcore := hd.core (Task.initializeSession, .assignSession) (by simp [Handler.core])
      rw [htask, hcore]
    · split
      case h_2 => rfl
      case h_1 hfind =>
        -- no other task has the handler of identities
        rcases hd.others hfind with hcore | ⟨-, reporting, hdeltas⟩
        · simp [Handler.core, htask] at hcore
        · cases hdeltas

/-- A frame that offers an identity is handled if the session accepts it; and no other frame touches
the session. -/
lemma session_handle (text : String) (c : Client V) :
    match c.offered? text with
    | some id => (c.handle text).2.room.session = c.room.session.offer id ∧
        (c.handle text).1.isHandled = c.room.session.accepts id
    | none => (c.handle text).2.room.session = c.room.session := by
  cases hparse : Envelope.parse text with
  | error => simp [offered?, handle, Dispatcher.dispatch, hparse]
  | ok e =>
    cases hfind : c.dispatcher.handler? e.task with
    | none => simp [offered?, handle, Dispatcher.dispatch, Dispatcher.deliver, hparse, hfind]
    | some h =>
      have hroom : (c.handle text).2.room = (h.run e.parameters c.room).2 := by
        simp [handle, Dispatcher.dispatch, Dispatcher.deliver, hparse, hfind]
      have houtcome : (c.handle text).1
          = Dispatcher.outcome e.task (h.run e.parameters c.room).1.result := by
        simp [handle, Dispatcher.dispatch, Dispatcher.deliver, hparse, hfind]
      rw [hroom, houtcome]
      by_cases hassign : h = .assignSession
      · subst hassign
        cases hgrant : SessionGrant.decoder.onValue e.parameters with
        | none => simp [offered?, hparse, hfind, hgrant, Handler.run, Handler.reading]
        | some grant =>
          have hoffered : c.offered? text = some grant.session := by
            simp [offered?, hparse, hfind, hgrant]
          rw [hoffered]
          simp only [Handler.run, Handler.reading, hgrant, Session.offer, Session.accepts]
          cases c.room.session.assign grant.session with
          | ok => exact ⟨rfl, rfl⟩
          | error => exact ⟨rfl, rfl⟩
      · have hoffered : c.offered? text = none := by
          simp only [offered?, hparse, hfind]
          split
          case h_1 hsome => exact absurd (Option.some.inj hsome) hassign
          case h_2 => rfl
        rw [hoffered]
        exact (Handler.Rule.of_run h e.parameters c.room).session hassign

/-! ### What a client asks for -/

variable (c : Client V)

omit [View V] in
lemma hears_loadPlugins (source : ModuleSource Module) :
    c.server.Hears c.room.session (c.loadPlugins source).server :=
  Server.Hears.callAs rfl .value c.requester Task.listPlugins

omit [View V] in
lemma hears_callAs {α : Type} {d : Decoder α} {task : String} {result : Except RequestError α}
    {c c' : Client V} (h : c.callAs d task (.object []) = (result, c')) :
    c.server.Hears c.room.session c'.server ∧ c'.room.session = c.room.session := by
  rw [callAs, foldl_tell] at h
  cases h
  exact ⟨Server.Hears.callAs rfl d c.requester task, rfl⟩

lemma hears_pullMeshes :
    c.server.Hears c.room.session c.pullMeshes.server ∧
      c.pullMeshes.room.session = c.room.session := by
  unfold pullMeshes
  split
  case h_1 delta c' hcalled =>
    obtain ⟨hheard, hsession⟩ := hears_callAs hcalled
    exact ⟨hheard, hsession⟩
  case h_2 e c' hcalled => exact hears_callAs hcalled

lemma hears_pullCanvas :
    c.server.Hears c.room.session c.pullCanvas.server ∧
      c.pullCanvas.room.session = c.room.session := by
  unfold pullCanvas
  split
  case h_1 canvas c' hcalled =>
    obtain ⟨hheard, hsession⟩ := hears_callAs hcalled
    exact ⟨hheard, hsession⟩
  case h_2 e c' hcalled => exact hears_callAs hcalled

omit [View V] in
lemma hears_render? {c c' : Client V} (h : c.render? = some c') :
    c.server.Hears c.room.session c'.server ∧ c'.room.session = c.room.session := by
  unfold render? at h
  split at h
  case h_2 e hook hooks hcurrent =>
    cases h
    simp only [foldl_tell, and_true]
    exact Server.Hears.hook hook c.requester e
  case h_3 uuid gone hcurrent hgone =>
    cases h
    dsimp only
    split
    · exact ⟨.refl _ _, rfl⟩
    · exact ⟨.refl _ _, rfl⟩
  case h_6 => cases h
  all_goals
    cases h
    exact ⟨.refl _ _, rfl⟩

omit [View V] in
lemma hears_renderMany_one :
    c.server.Hears c.room.session (c.renderMany 1).server ∧
      (c.renderMany 1).room.session = c.room.session := by
  unfold renderMany
  split
  case h_1 c' hrender => exact hears_render? hrender
  case h_2 => exact ⟨.refl _ _, rfl⟩

end Client

/-! ### A ledger of the identity -/

/-- An offer of an identity: whether it was accepted, and the session before and after it. -/
structure Offering where
  id : String
  accepted : Bool
  before : Session
  after : Session

/-- An offer is accepted if it is of the identity afterwards, and otherwise changes nothing. -/
structure Offering.IsSound (o : Offering) : Prop where
  accepted : o.accepted = true ↔ o.id ≠ "" ∧ o.after.id = some o.id
  refused : o.accepted = false → o.after = o.before

/-- A client, with all that has had to do with its identity: the offers of one, what those were told
who waited for it, the frames that the client has made up to tell of itself, and the requests that
its server has heard for payloads that name no session. -/
structure Ledger (V : Type) where
  client : Client V
  offerings : List Offering := []
  awaited : List (Except SessionError String) := []
  frames : List String := []
  requests : List SeenRequest := []

namespace Ledger

/-- What may happen to a client. Frames arrive; identities are offered to it, and waited for while
they are; it is started, renders, and ticks; its user moves in the view and makes requests; and it
leaves. -/
inductive Act (V : Type) where
  | frame (text : String)
  | offer (id : String)
  | wait (limit : Duration) (offers : List Offer)
  | loadPlugins (source : ModuleSource Module)
  | pullMeshes
  | pullCanvas
  | render
  | look (view : V)
  | tick
  | request (task : String) (payload : Value)
  | leave

section

variable {V : Type}

/-- The identity of the client. -/
def identity (l : Ledger V) : Option String := l.client.room.session.id

/-- Enter the requests that the server has heard since. -/
def asking (client : Client V) (l : Ledger V) : Ledger V :=
  { l with
    client
    requests := l.requests ++ client.server.seen.drop l.client.server.seen.length }

/-- Offer an identity. -/
def offer (l : Ledger V) (id : String) : Ledger V :=
  let before := l.client.room.session
  let after := before.offer id
  { l with
    client := { l.client with room := { l.client.room with session := after } }
    offerings := l.offerings ++ [⟨id, before.accepts id, before, after⟩] }

end

variable {V : Type} [View V]

/-- Take a frame in. -/
def frame (text : String) (l : Ledger V) : Ledger V :=
  let (outcome, client) := l.client.handle text
  let offered := l.client.offered? text
  { l with
    client
    offerings := l.offerings ++ (offered.map fun id =>
      ⟨id, outcome.isHandled, l.client.room.session, client.room.session⟩).toList }

/-- One act. -/
def step (l : Ledger V) : Act V → Ledger V
  | .frame text => l.frame text
  | .offer id => l.offer id
  | .wait limit offers =>
    let answer := l.client.room.session.await limit offers
    let l := (Session.inTime limit offers).foldl offer l
    { l with awaited := l.awaited ++ [answer] }
  | .loadPlugins source => l.asking (l.client.loadPlugins source)
  | .pullMeshes => l.asking l.client.pullMeshes
  | .pullCanvas => l.asking l.client.pullCanvas
  | .render => l.asking (l.client.renderMany 1)
  | .look view =>
    let scene := { l.client.room.scene with view }
    { l with client := { l.client with room := { l.client.room with scene } } }
  | .tick =>
    let (t, client) := l.client.tick
    { l with client, frames := l.frames ++ t.messages }
  | .request task payload =>
    let client := (l.client.call task payload).2
    if isAnonymous payload then l.asking client else { l with client }
  | .leave =>
    let farewell := Sync.farewell? l.client.room.session l.client.room.controls
    { l with client := l.client.shutdown, frames := l.frames ++ farewell.toList }

/-- What has come of acts. -/
def run (start : Client V) (acts : List (Act V)) : Ledger V :=
  acts.foldl step { client := start }

lemma run_concat (start : Client V) (acts : List (Act V)) (a : Act V) :
    run start (acts ++ [a]) = (run start acts).step a := by
  rw [run, List.foldl_append]
  rfl

omit [View V] in
lemma session_foldl_offer (ids : List String) (l : Ledger V) :
    (ids.foldl offer l).client.room.session = ids.foldl Session.offer l.client.room.session := by
  induction ids generalizing l with
  | nil => rfl
  | cons id ids ih => exact ih (l.offer id)

/-! ### Discipline -/

/-- The discipline of a client: its identity is the first one offered that was not empty, and every
offer, every answer to those who waited, every frame and every request agrees with it. -/
structure Disciplined (l : Ledger V) : Prop where
  identity : l.identity = firstNamed? (l.offerings.map Offering.id)
  offerings : ∀ o ∈ l.offerings, o.IsSound
  kept : ∀ o ∈ l.offerings, ∀ id, o.after.id = some id → l.identity = some id
  awaited : ∀ id, .ok id ∈ l.awaited → l.identity = some id
  frames : ∀ text ∈ l.frames, ∃ id, l.identity = some id ∧ NamesSession id text
  requests : ∀ r ∈ l.requests, ∃ id, l.identity = some id ∧ r.Carries id

namespace Disciplined

variable {l : Ledger V}

omit [View V] in
lemma start (c : Client V) (h : c.room.session.id = none) : Disciplined { client := c } where
  identity := h
  offerings := by simp
  kept := by simp
  awaited := by simp
  frames := by simp
  requests := by simp

omit [View V] in
/-- An offer that the session is asked to accept, by whatever way it comes. -/
lemma offering (h : l.Disciplined) {id : String} {accepted : Bool} {client : Client V}
    (haccepted : accepted = l.client.room.session.accepts id)
    (hsession : client.room.session = l.client.room.session.offer id) :
    Disciplined
      { l with
        client
        offerings :=
          l.offerings ++ [⟨id, accepted, l.client.room.session, client.room.session⟩] } := by
  have hstays : ∀ id', l.identity = some id' → client.room.session.id = some id' := by
    intro id' hid'
    rw [hsession]
    exact Session.id_offer_of_id hid' id
  refine
    { identity := ?_
      offerings := fun o ho => ?_
      kept := fun o ho id' hafter => ?_
      awaited := fun id' hid' => hstays id' (h.awaited id' hid')
      frames := fun text htext => (h.frames text htext).imp fun id' => .imp_left (hstays id')
      requests := fun r hr => (h.requests r hr).imp fun id' => .imp_left (hstays id') }
  · rw [List.map_append, firstNamed?_append, ← h.identity, Ledger.identity, hsession,
      Session.id_offer]
    rfl
  · rcases List.mem_append.1 ho with hold | hnew
    · exact h.offerings o hold
    · obtain rfl := List.mem_singleton.1 hnew
      rw [haccepted, hsession]
      exact ⟨Session.accepts_iff _ _, Session.offer_of_refused⟩
  · rcases List.mem_append.1 ho with hold | hnew
    · exact hstays id' (h.kept o hold id' hafter)
    · obtain rfl := List.mem_singleton.1 hnew
      exact hafter

omit [View V] in
lemma offer (h : l.Disciplined) (id : String) : (l.offer id).Disciplined :=
  h.offering rfl rfl

omit [View V] in
lemma foldl_offer (h : l.Disciplined) (ids : List String) :
    (ids.foldl Ledger.offer l).Disciplined := by
  induction ids generalizing l with
  | nil => exact h
  | cons id ids ih => exact ih (h.offer id)

omit [View V] in
/-- Acts that have nothing to do with the session, but may tell the room or ask the server of it. -/
lemma aside (h : l.Disciplined) {client : Client V} {frames : List String}
    {requests : List SeenRequest} (hsession : client.room.session = l.client.room.session)
    (hframes : ∀ text ∈ frames, ∃ id, l.identity = some id ∧ NamesSession id text)
    (hrequests : ∀ r ∈ requests, ∃ id, l.identity = some id ∧ r.Carries id) :
    Disciplined
      { l with client, frames := l.frames ++ frames, requests := l.requests ++ requests } := by
  have hidentity : client.room.session.id = l.identity := congrArg Session.id hsession
  refine
    { identity := hidentity.trans h.identity
      offerings := h.offerings
      kept := fun o ho id hafter => hidentity.trans (h.kept o ho id hafter)
      awaited := fun id hid => hidentity.trans (h.awaited id hid)
      frames := fun text htext => ?_
      requests := fun r hr => ?_ }
  · rw [Ledger.identity, hidentity]
    exact (List.mem_append.1 htext).elim (h.frames text) (hframes text)
  · rw [Ledger.identity, hidentity]
    exact (List.mem_append.1 hr).elim (h.requests r) (hrequests r)

omit [View V] in
lemma telling (h : l.Disciplined) {client : Client V} {frames : List String}
    (hsession : client.room.session = l.client.room.session)
    (hframes : ∀ text ∈ frames, ∃ id, l.identity = some id ∧ NamesSession id text) :
    Disciplined { l with client, frames := l.frames ++ frames } := by
  have haside := h.aside hsession hframes (List.forall_mem_nil _)
  rwa [List.append_nil] at haside

omit [View V] in
lemma moving (h : l.Disciplined) {client : Client V}
    (hsession : client.room.session = l.client.room.session) : Disciplined { l with client } := by
  have htelling := h.telling hsession (List.forall_mem_nil _)
  rwa [List.append_nil] at htelling

omit [View V] in
lemma asking (h : l.Disciplined) {client : Client V}
    (hears : l.client.server.Hears l.client.room.session client.server)
    (hsession : client.room.session = l.client.room.session) : (l.asking client).Disciplined := by
  obtain ⟨heard, hseen, hcarries⟩ := hears
  have haside := h.aside hsession (List.forall_mem_nil _) hcarries
  rw [List.append_nil] at haside
  rwa [Ledger.asking, hseen, List.drop_left]

lemma frame (h : l.Disciplined) (text : String) : (l.frame text).Disciplined := by
  have hsession := l.client.session_handle text
  unfold Ledger.frame
  cases hoffered : l.client.offered? text with
  | some id =>
    rw [hoffered] at hsession
    exact h.offering hsession.2 hsession.1
  | none =>
    rw [hoffered] at hsession
    simpa using h.moving hsession

lemma step (h : l.Disciplined) (a : Act V) : (l.step a).Disciplined := by
  cases a with
  | frame text => exact h.frame text
  | offer id => exact h.offer id
  | wait limit offers =>
    have hoffers := h.foldl_offer (Session.inTime limit offers)
    have hsession := session_foldl_offer (Session.inTime limit offers) l
    rw [← Session.within_eq_foldl] at hsession
    refine { hoffers with awaited := fun id hid => ?_ }
    rcases List.mem_append.1 hid with hold | hnew
    · exact hoffers.awaited id hold
    · -- who waits is answered from the session as all the offers in time have left it
      have hanswer := (Session.await_eq_ok_iff _ _ _ _).1 (List.mem_singleton.1 hnew).symm
      rwa [← hsession] at hanswer
  | loadPlugins source => exact h.asking (l.client.hears_loadPlugins source) rfl
  | pullMeshes => exact h.asking l.client.hears_pullMeshes.1 l.client.hears_pullMeshes.2
  | pullCanvas => exact h.asking l.client.hears_pullCanvas.1 l.client.hears_pullCanvas.2
  | render => exact h.asking l.client.hears_renderMany_one.1 l.client.hears_renderMany_one.2
  | look view => exact h.moving rfl
  | tick => exact h.telling rfl fun text htext => Sync.namesSession_tick htext
  | request task payload =>
    have hsession : (l.client.call task payload).2.room.session = l.client.room.session := by
      rw [Client.call, Client.foldl_tell]
    unfold Ledger.step
    dsimp only
    split
    case isTrue hanonymous =>
      have hserver : (l.client.call task payload).2.server
          = (l.client.requester.call l.client.room.session task payload l.client.server).server := by
        rw [Client.call, Client.foldl_tell]
      exact h.asking (hserver ▸ Server.Hears.call hanonymous _ task) hsession
    case isFalse => exact h.moving hsession
  | leave =>
    refine h.telling ?_ fun text htext => ?_
    · unfold Client.shutdown Client.sayFarewell
      split <;> rfl
    · exact Sync.namesSession_farewell (Option.mem_toList.1 htext)

end Disciplined

/-- What was offered stays on record. -/
lemma offerings_prefix_step (l : Ledger V) (a : Act V) :
    l.offerings <+: (l.step a).offerings := by
  cases a with
  | frame text => exact List.prefix_append _ _
  | offer id => exact List.prefix_append _ _
  | wait limit offers =>
    have hfold : ∀ ids : List String, l.offerings <+: (ids.foldl offer l).offerings := by
      intro ids
      induction ids using List.reverseRecOn with
      | nil => exact List.prefix_refl _
      | append_singleton ids id ih =>
        rw [List.foldl_append]
        exact ih.trans (List.prefix_append _ _)
    exact hfold _
  | request task payload =>
    unfold step
    dsimp only
    split <;> exact List.prefix_refl _
  | _ => exact List.prefix_refl _

lemma offerings_prefix_run (start : Client V) (acts more : List (Act V)) :
    (run start acts).offerings <+: (run start (acts ++ more)).offerings := by
  induction more using List.reverseRecOn with
  | nil => simp
  | append_singleton more a ih =>
    rw [← List.append_assoc, run_concat]
    exact ih.trans (offerings_prefix_step _ a)

lemma disciplined_run {start : Client V} (h : start.room.session.id = none) (acts : List (Act V)) :
    (run start acts).Disciplined := by
  induction acts using List.reverseRecOn with
  | nil => exact .start start h
  | append_singleton acts a ih =>
    rw [run_concat]
    exact ih.step a

/-- From when a client joins, whatever happens: it is disciplined; the identity that it has is not
empty and is the one it has for good; and as long as it has none, it has neither told the room of
itself nor asked the server anything in its own name, and has nothing to tell. With the standard
handlers, what a frame offers to it is the identity that the text of the frame grants. -/
theorem disciplined_from_join (options : ClientOptions) (channel : MemoryChannel) (view : V)
    (server : Server) (acts more : List (Act V)) :
    let start := Client.join options channel view server
    let l := run start acts
    l.Disciplined ∧
      (∀ id, l.identity = some id → id ≠ "" ∧ (run start (acts ++ more)).identity = some id) ∧
      (l.identity = none →
        l.frames = [] ∧ l.requests = [] ∧ l.client.tick.1 = {} ∧
          Sync.farewell? l.client.room.session l.client.room.controls = none) ∧
      (l.client.dispatcher.IsStandard → ∀ text, l.client.offered? text = granted? text) := by
  intro start l
  have hl : l.Disciplined := disciplined_run rfl acts
  have hmore : (run start (acts ++ more)).Disciplined := disciplined_run rfl (acts ++ more)
  refine ⟨hl, fun id hid => ?_, fun hnone => ?_, Client.offered?_eq_granted?⟩
  · have hfirst : firstNamed? (l.offerings.map Offering.id) = some id := hl.identity ▸ hid
    refine ⟨ne_empty_of_firstNamed? hfirst, ?_⟩
    obtain ⟨later, hlater⟩ := offerings_prefix_run start acts more
    rw [hmore.identity, ← hlater, List.map_append, firstNamed?_append, hfirst, Option.some_or]
  · have hnobody : ∀ id, l.identity ≠ some id := by simp [hnone]
    refine ⟨?_, ?_, ?_, ?_⟩
    · refine List.eq_nil_iff_forall_not_mem.2 fun text htext => ?_
      obtain ⟨id, hid, -⟩ := hl.frames text htext
      exact hnobody id hid
    · refine List.eq_nil_iff_forall_not_mem.2 fun r hr => ?_
      obtain ⟨id, hid, -⟩ := hl.requests r hr
      exact hnobody id hid
    · show (l.client.room.sync.tick l.client.room.session l.client.room.controls).1 = {}
      unfold Sync.tick
      split
      case h_1 id _ hid => exact absurd hid (hnobody id)
      case h_2 => rfl
    · exact congrArg (Option.map _) hnone

end Ledger

end MeshRoom
