import MeshRoom.Proofs.Client.Refusal
import MeshRoom.Proofs.Client.Rendering
import MeshRoom.Proofs.Scene.Served
import Mathlib.Logic.Relation

/-!
# Joining a room

While a client joins a room, the server goes on changing its meshes and pushes every delta as a
frame. The client follows the frames from the beginning and at some time asks for the meshes, which
the server lists as they are when it replies. The reply and the frames come by different ways, so
the client may have followed any number of deltas when it applies the reply.

Nothing in a reply tells which deltas it knows of. A mesh that it lists is put back as it was, even
if the client has already followed a delta about it that the reply does not know of; the mesh then
stays so until another delta names it. All other meshes end up as the server has them.
-/

namespace MeshRoom

open Json Wire Contents Screening Relation

/-! ### Frames of deltas -/

/-- The delta that a frame pushes. -/
def pushedDelta? (text : String) : Option MeshDelta :=
  match Envelope.parse text with
  | .ok ⟨task, parameters⟩ =>
    if task = Task.syncMeshes ∧ (parameters.get? "meshes").isSome then
      MeshDelta.decoder.onValue parameters
    else none
  | .error _ => none

namespace Client

variable {V : Type}

/-- The deltas that have been pushed and not been followed. -/
def waiting (c : Client V) : List MeshDelta := c.channel.inbound.filterMap pushedDelta?

lemma waiting_push {c : Client V} {text : String} {d : MeshDelta}
    (hd : pushedDelta? text = some d) (hopen : c.channel.isOpen = true) :
    ({ c with channel := c.channel.push text } : Client V).waiting = c.waiting ++ [d] := by
  simp [waiting, MemoryChannel.push, hopen, hd]

variable [View V]

/-- A frame that pushes a delta has it followed. -/
lemma handle_pushed {c : Client V} {text : String} {d : MeshDelta} (hd : pushedDelta? text = some d)
    (hhandler : c.dispatcher.handler? Task.syncMeshes = some (.followMeshes true)) :
    (c.handle text).2 = { c with room := c.room.applyMeshes d } := by
  unfold pushedDelta? at hd
  split at hd
  case h_2 => cases hd
  case h_1 task parameters hparse =>
    split at hd
    case isFalse => cases hd
    case isTrue hmeshes =>
      obtain ⟨rfl, hsome⟩ := hmeshes
      obtain ⟨v, hv⟩ := Option.isSome_iff_exists.1 hsome
      rw [handle_of_handler hparse hhandler trivial]
      simp only [Handler.run, Scene.applyParameters, hv, hd]
      rfl

/-- Receiving a frame that pushes a delta. -/
lemma receiveMany_pushed {c : Client V} {text : String} {rest : List String} {d : MeshDelta}
    (hnext : c.channel.inbound = text :: rest) (hd : pushedDelta? text = some d)
    (hhandler : c.dispatcher.handler? Task.syncMeshes = some (.followMeshes true)) :
    c.receiveMany 1 = { c with
      channel := { c.channel with inbound := rest }
      room := c.room.applyMeshes d } := by
  rw [receiveMany, receive?, MemoryChannel.receive, hnext]
  exact handle_pushed hd hhandler

omit [View V] in
lemma waiting_of_next {c : Client V} {text : String} {rest : List String} {d : MeshDelta}
    (hnext : c.channel.inbound = text :: rest) (hd : pushedDelta? text = some d) :
    c.waiting = d :: rest.filterMap pushedDelta? := by
  simp [waiting, hnext, hd]

end Client

/-! ### Joining -/

/-- How far the request for the meshes of a room has come. -/
inductive Pull where
  | asked
  /-- The server replied when it had pushed so many deltas. -/
  | answered (known : Nat) (reply : MeshDelta)
  /-- The client applied the reply when it had followed so many deltas. -/
  | applied (known : Nat) (reply : MeshDelta) (before : Nat)

namespace Pull

/-- The deltas that were followed, with the reply among them once it has been applied. -/
def among (followed : List MeshDelta) : Pull → List MeshDelta
  | .applied _ reply before => followed.take before ++ reply :: followed.drop before
  | _ => followed

/-- A reply lists the meshes that the server had after some of the deltas it pushed, and was applied
after some of those that were followed. -/
def IsPlaced (t : ServedMeshes) (pushed followed : List MeshDelta) : Pull → Prop
  | .asked => True
  | .answered known reply =>
    known ≤ pushed.length ∧ reply.Lists (ServedMeshes.followAll (pushed.take known) t)
  | .applied known reply before =>
    known ≤ pushed.length ∧ reply.Lists (ServedMeshes.followAll (pushed.take known) t) ∧
      before ≤ followed.length

variable {t : ServedMeshes} {pushed followed : List MeshDelta} {pull : Pull}

lemma IsPlaced.push (h : pull.IsPlaced t pushed followed) (d : MeshDelta) :
    pull.IsPlaced t (pushed ++ [d]) followed := by
  cases pull with
  | asked => trivial
  | answered known reply =>
    obtain ⟨hknown, hreply⟩ := h
    refine ⟨Nat.le_trans hknown (by simp), ?_⟩
    rwa [List.take_append_of_le_length hknown]
  | applied known reply before =>
    obtain ⟨hknown, hreply, hbefore⟩ := h
    refine ⟨Nat.le_trans hknown (by simp), ?_, hbefore⟩
    rwa [List.take_append_of_le_length hknown]

lemma IsPlaced.follow (h : pull.IsPlaced t pushed followed) (d : MeshDelta) :
    pull.IsPlaced t pushed (followed ++ [d]) := by
  cases pull with
  | asked => trivial
  | answered => exact h
  | applied =>
    obtain ⟨hknown, hreply, hbefore⟩ := h
    exact ⟨hknown, hreply, Nat.le_trans hbefore (by simp)⟩

/-- A delta that is followed after a reply was applied comes after the reply. -/
lemma IsPlaced.among_concat (h : pull.IsPlaced t pushed followed) (d : MeshDelta) :
    pull.among (followed ++ [d]) = pull.among followed ++ [d] := by
  cases pull with
  | asked => rfl
  | answered => rfl
  | applied known reply before =>
    have hbefore : before ≤ followed.length := h.2.2
    simp [among, List.take_append_of_le_length hbefore, List.drop_append_of_le_length hbefore]

end Pull

/-- A room that a client joins: the client, the meshes that the server has, the deltas that it has
pushed so far, those that the client has followed, and the request for the meshes. -/
structure Joining (V : Type) where
  client : Client V
  meshes : ServedMeshes
  pushed : List MeshDelta := []
  followed : List MeshDelta := []
  pull : Pull := .asked

namespace Joining

variable {V σ : Type} [View V] [Screening V σ]

/-- A client that has done something else than following deltas: its meshes, what its view accepts,
the deltas that wait and the handler of deltas are as before. -/
structure Aside (c c' : Client V) : Prop where
  meshes : c'.room.scene.meshes = c.room.scene.meshes
  setting : setting c'.room.scene.view = setting c.room.scene.view
  waiting : c'.waiting = c.waiting
  handler : c'.dispatcher.handler? Task.syncMeshes = c.dispatcher.handler? Task.syncMeshes

/-- What the view of the client accepts. -/
def accepts (w : Joining V) : Geometry → Bool :=
  acceptsBoth V (setting w.client.room.scene.view)

/-- The server changes its meshes by a delta, and pushes it as a frame. -/
def push (d : MeshDelta) (text : String) (w : Joining V) : Joining V :=
  { w with
    client := { w.client with channel := w.client.channel.push text }
    meshes := w.meshes.followAll [d]
    pushed := w.pushed ++ [d] }

/-- The server replies. -/
def answer (reply : MeshDelta) (w : Joining V) : Joining V :=
  { w with pull := .answered w.pushed.length reply }

/-- The client receives the next frame, which pushes a delta. -/
def receive (d : MeshDelta) (w : Joining V) : Joining V :=
  { w with client := w.client.receiveMany 1, followed := w.followed ++ [d] }

/-- The client applies the reply. -/
def apply (known : Nat) (reply : MeshDelta) (w : Joining V) : Joining V :=
  { w with
    client := { w.client with room := w.client.room.applyMeshes reply }
    pull := .applied known reply w.followed.length }

/-- One step of joining a room. -/
inductive Step : Joining V → Joining V → Prop where
  | push {d : MeshDelta} {text : String} (w : Joining V) (htext : pushedDelta? text = some d)
      (hd : d.IsSound w.accepts) (hopen : w.client.channel.isOpen = true) : Step w (w.push d text)
  | answer {reply : MeshDelta} (w : Joining V) (hpull : w.pull = .asked)
      (hreply : reply.Lists w.meshes) : Step w (w.answer reply)
  | receive {text : String} {rest : List String} {d : MeshDelta} (w : Joining V)
      (hnext : w.client.channel.inbound = text :: rest) (htext : pushedDelta? text = some d) :
      Step w (w.receive d)
  | apply {known : Nat} {reply : MeshDelta} (w : Joining V)
      (hpull : w.pull = .answered known reply) : Step w (w.apply known reply)
  | aside {c : Client V} (w : Joining V) (hc : Aside w.client c) : Step w { w with client := c }

/-- What holds while a client joins a room, when its view accepts some meshes and the server had
others at first: the server has followed the deltas it pushed, and the client those it received,
with the reply among them. -/
structure Mirrors (accepts : Geometry → Bool) (t : ServedMeshes) (w : Joining V) : Prop where
  accepts_eq : w.accepts = accepts
  handler : w.client.dispatcher.handler? Task.syncMeshes = some (.followMeshes true)
  sound : ∀ d ∈ w.pushed, d.IsSound accepts
  order : w.followed ++ w.client.waiting = w.pushed
  served : w.meshes = ServedMeshes.followAll w.pushed t
  placed : w.pull.IsPlaced t w.pushed w.followed
  shown (uuid : String) : w.client.room.scene.contents[uuid]?
    = (lastDecision accepts uuid (w.pull.among w.followed)).getD none

variable {accepts : Geometry → Bool} {t : ServedMeshes} {w w' : Joining V}

/-! ### Following a delta -/

lemma contents_applyMeshes (d : MeshDelta) (room : Room V) (uuid : String) :
    (room.applyMeshes d).scene.contents[uuid]?
      = (lastDecision (acceptsBoth V (setting room.scene.view)) uuid [d]).getD
        room.scene.contents[uuid]? := by
  rw [lastDecision_singleton, ← getElem?_followAll, ← Scene.contents_apply d true]
  rfl

lemma setting_applyEntries (es : List (String × Value)) (s : Scene V) :
    setting (s.applyEntries es).2.view = setting s.view := by
  induction es generalizing s with
  | nil => rfl
  | cons e es ih => exact (ih _).trans (Scene.EntryRule.of_applyEntry e.1 e.2 s).contents.2

lemma setting_applyMeshes (d : MeshDelta) (room : Room V) :
    setting (room.applyMeshes d).scene.view = setting room.scene.view := by
  have hentries := setting_applyEntries d.meshes room.scene
  simp only [Room.applyMeshes, Room.report, Scene.apply, setting_recenter]
  split
  case isTrue => rw [setting_fit, hentries]
  case isFalse => exact hentries

/-- Following one more delta. -/
lemma shown_applyMeshes (h : Mirrors accepts t w) (d : MeshDelta) (uuid : String) :
    (w.client.room.applyMeshes d).scene.contents[uuid]?
      = (lastDecision accepts uuid (w.pull.among w.followed ++ [d])).getD none := by
  rw [contents_applyMeshes, h.shown, lastDecision_append, ← h.accepts_eq, Joining.accepts]
  cases lastDecision (acceptsBoth V (setting w.client.room.scene.view)) uuid [d] with
  | none => rfl
  | some c => rfl

/-! ### Steps -/

namespace Mirrors

lemma push (h : Mirrors accepts t w) {d : MeshDelta} {text : String}
    (htext : pushedDelta? text = some d) (hd : d.IsSound w.accepts)
    (hopen : w.client.channel.isOpen = true) : Mirrors accepts t (w.push d text) where
  accepts_eq := h.accepts_eq
  handler := h.handler
  sound e he := by
    rcases List.mem_append.1 he with hold | hnew
    · exact h.sound e hold
    · rw [List.mem_singleton.1 hnew]
      exact h.accepts_eq ▸ hd
  order := by
    rw [Joining.push, Client.waiting_push htext hopen, ← List.append_assoc, h.order]
  served := by
    rw [Joining.push, h.served, ← ServedMeshes.followAll_append]
  placed := h.placed.push d
  shown := h.shown

lemma answer (h : Mirrors accepts t w) {reply : MeshDelta} (hpull : w.pull = .asked)
    (hreply : reply.Lists w.meshes) : Mirrors accepts t (w.answer reply) where
  accepts_eq := h.accepts_eq
  handler := h.handler
  sound := h.sound
  order := h.order
  served := h.served
  placed := by
    have hlisted : reply.Lists (ServedMeshes.followAll (w.pushed.take w.pushed.length) t) := by
      rw [List.take_length, ← h.served]
      exact hreply
    exact ⟨Nat.le_refl _, hlisted⟩
  shown uuid := by
    have hshown := h.shown uuid
    rw [hpull] at hshown
    exact hshown

lemma receive (h : Mirrors accepts t w) {text : String} {rest : List String} {d : MeshDelta}
    (hnext : w.client.channel.inbound = text :: rest) (htext : pushedDelta? text = some d) :
    Mirrors accepts t (w.receive d) := by
  rw [Joining.receive, Client.receiveMany_pushed hnext htext h.handler]
  refine { accepts_eq := ?_, handler := h.handler, sound := h.sound, order := ?_,
           served := h.served, placed := h.placed.follow d, shown := fun uuid => ?_ }
  · rw [← h.accepts_eq, Joining.accepts, Joining.accepts, setting_applyMeshes]
  · rw [← h.order, Client.waiting_of_next hnext htext, List.append_assoc]
    rfl
  · rw [shown_applyMeshes h, h.placed.among_concat]

lemma apply (h : Mirrors accepts t w) {known : Nat} {reply : MeshDelta}
    (hpull : w.pull = .answered known reply) : Mirrors accepts t (w.apply known reply) where
  accepts_eq :=
    (congrArg (acceptsBoth V) (setting_applyMeshes reply w.client.room)).trans h.accepts_eq
  handler := h.handler
  sound := h.sound
  order := h.order
  served := h.served
  placed := by
    have hplaced := h.placed
    rw [hpull] at hplaced
    exact ⟨hplaced.1, hplaced.2, Nat.le_refl _⟩
  shown uuid := by
    have hshown := shown_applyMeshes h reply uuid
    rw [hpull] at hshown
    rw [Joining.apply, Pull.among, List.take_length, List.drop_length]
    exact hshown

lemma aside (h : Mirrors accepts t w) {c : Client V} (hc : Aside w.client c) :
    Mirrors accepts t { w with client := c } where
  accepts_eq := by
    rw [← h.accepts_eq, Joining.accepts, Joining.accepts, hc.setting]
  handler := hc.handler.trans h.handler
  sound := h.sound
  order := by rw [hc.waiting, h.order]
  served := h.served
  placed := h.placed
  shown uuid := by
    rw [Scene.contents, hc.meshes]
    exact h.shown uuid

lemma step (h : Mirrors accepts t w) (hstep : Step w w') : Mirrors accepts t w' := by
  cases hstep with
  | push w htext hd hopen => exact h.push htext hd hopen
  | answer w hpull hreply => exact h.answer hpull hreply
  | receive w hnext htext => exact h.receive hnext htext
  | apply w hpull => exact h.apply hpull
  | aside w hc => exact h.aside hc

lemma run (h : Mirrors accepts t w) (hrun : ReflTransGen Step w w') : Mirrors accepts t w' := by
  induction hrun with
  | refl => exact h
  | tail _ hstep ih => exact ih.step hstep

/-- A client that has joined has no meshes, and has followed nothing. -/
lemma join {channel : MemoryChannel} (hquiet : channel.inbound.filterMap pushedDelta? = [])
    (options : ClientOptions) (view : V) (server : Server) (t : ServedMeshes) :
    Mirrors (acceptsBoth V (setting view)) t
      { client := Client.join options channel view server, meshes := t } where
  accepts_eq := rfl
  handler := Dispatcher.isStandard_core.core (Task.syncMeshes, .followMeshes true) (by decide)
  sound _ hd := nomatch hd
  order := hquiet
  served := rfl
  placed := trivial
  shown uuid := by simp [Client.join, Scene.resource?, Pull.among, lastDecision]

/-- Once every delta has been followed, a client shows what they make of no meshes with the reply
among them. -/
lemma shown_of_done (h : Mirrors accepts t w) {known before : Nat} {reply : MeshDelta}
    (hpull : w.pull = .applied known reply before) (hdone : w.client.waiting = []) (uuid : String) :
    w.client.room.scene.contents[uuid]?
      = (lastDecision accepts uuid (w.pushed.take before ++ reply :: w.pushed.drop before)).getD
        none := by
  have hfollowed : w.followed = w.pushed := by rw [← h.order, hdone, List.append_nil]
  rw [h.shown, hpull, hfollowed, Pull.among]

end Mirrors

/-! ### Once a room has been joined -/

variable {options : ClientOptions} {channel : MemoryChannel} {view : V} {server : Server}

/-- Once a client has followed every delta and applied the reply, it has the meshes of the server,
except that overtaken ones are as the server had them when it replied. -/
theorem contents_joined (hquiet : channel.inbound.filterMap pushedDelta? = [])
    (ht : t.AreSound (acceptsBoth V (setting view)))
    (hrun : ReflTransGen Step
      { client := Client.join options channel view server, meshes := t } w)
    {known before : Nat} {reply : MeshDelta} (hpull : w.pull = .applied known reply before)
    (hdone : w.client.waiting = []) (uuid : String) :
    (Overtaken w.pushed known before reply uuid →
        w.client.room.scene.contents[uuid]?
          = (ServedMeshes.followAll (w.pushed.take known) t).content? uuid) ∧
      (¬ Overtaken w.pushed known before reply uuid →
        w.client.room.scene.contents[uuid]? = w.meshes.content? uuid) := by
  have h := (Mirrors.join hquiet options view server t).run hrun
  obtain ⟨-, hreply, -⟩ : Pull.IsPlaced t w.pushed w.followed (.applied known reply before) :=
    hpull ▸ h.placed
  rw [h.shown_of_done hpull hdone, h.served]
  exact ⟨content_of_overtaken h.sound ht hreply, content_of_not_overtaken h.sound ht hreply⟩

/-- A client that applies a reply which knows of every delta it has followed so far has the meshes
of the server once it has followed the others. -/
theorem contents_joined_of_le (hquiet : channel.inbound.filterMap pushedDelta? = [])
    (ht : t.AreSound (acceptsBoth V (setting view)))
    (hrun : ReflTransGen Step
      { client := Client.join options channel view server, meshes := t } w)
    {known before : Nat} {reply : MeshDelta} (hpull : w.pull = .applied known reply before)
    (hdone : w.client.waiting = []) (hle : before ≤ known) (uuid : String) :
    w.client.room.scene.contents[uuid]? = w.meshes.content? uuid := by
  have h := (Mirrors.join hquiet options view server t).run hrun
  obtain ⟨-, hreply, -⟩ : Pull.IsPlaced t w.pushed w.followed (.applied known reply before) :=
    hpull ▸ h.placed
  rw [h.shown_of_done hpull hdone, h.served]
  refine content_of_not_overtaken h.sound ht hreply fun hover => ?_
  obtain ⟨d, hd, -⟩ := hover.newer
  rw [List.drop_eq_nil_of_le (by simp; omega)] at hd
  cases hd

/-! ### Pulling the meshes -/

/-- A request is beside the point of following deltas. -/
lemma aside_callAs {α : Type} (d : Decoder α) (task : String) (payload : Value) (c : Client V) :
    Aside c (c.callAs d task payload).2 := by
  rw [Client.callAs, Client.foldl_tell]
  exact ⟨rfl, rfl, rfl, rfl⟩

/-- A client that pulls the meshes asks for them, and applies the reply at once. -/
lemma run_pullMeshes {reply : MeshDelta} (hpull : w.pull = .asked) (hreply : reply.Lists w.meshes)
    (hcall : (w.client.callAs MeshDelta.decoder Task.pullCurrentMeshes (.object [])).1
      = .ok reply) :
    ReflTransGen Step w
      { w with
        client := w.client.pullMeshes
        pull := .applied w.pushed.length reply w.followed.length } := by
  obtain ⟨c, hcalled⟩ :
      ∃ c, w.client.callAs MeshDelta.decoder Task.pullCurrentMeshes (.object []) = (.ok reply, c) :=
    ⟨_, Prod.ext hcall rfl⟩
  have hside : Aside w.client c := by
    have h := aside_callAs MeshDelta.decoder Task.pullCurrentMeshes (.object []) w.client
    rwa [hcalled] at h
  rw [Client.pullMeshes, hcalled]
  refine .tail (.tail (.single (.answer w hpull hreply)) (.aside _ hside)) ?_
  exact .apply { w with client := c, pull := .answered w.pushed.length reply } rfl

/-! ### A reply that comes late -/

/-- Two meshes without vertices. -/
def twoMeshes : MeshDelta :=
  ⟨[("a", .object [("V", .string "")]), ("b", .object [("V", .string "")])]⟩

/-- One of them is gone. -/
def oneGone : MeshDelta := .removal ["a"]

/-- A room without meshes, which a client has just joined. -/
def atFirst : Joining RecordingView :=
  let options : ClientOptions := ⟨"lobby", ⟨"http", "", "", none, none, .segments [], none, none⟩,
    ⟨5000⟩, ⟨16⟩⟩
  { client := Client.join options {} {} ⟨options.httpBase, true, ∅, []⟩, meshes := ∅ }

/-- The frame that pushes a delta. -/
def frameOf (d : MeshDelta) : String := flatMessage Task.syncMeshes d.document

/-- The server adds two meshes, replies, and takes one of them away. -/
def lateReply : Joining RecordingView :=
  ((atFirst.push twoMeshes (frameOf twoMeshes)).answer twoMeshes).push oneGone (frameOf oneGone)

/-- The client follows both deltas before it applies the reply. -/
def overtaken : Joining RecordingView :=
  ((lateReply.receive twoMeshes).receive oneGone).apply 1 twoMeshes

lemma isSound_twoMeshes : twoMeshes.IsSound (acceptsBoth RecordingView none) := by
  have hmesh : IsSoundEntry (acceptsBoth RecordingView none) (.object [("V", .string "")]) :=
    .upsert { vertices := some "" } (by decide +kernel) ⟨⟨[], [], none, none, []⟩, rfl, rfl⟩
  intro e he
  simp only [twoMeshes, List.mem_cons, List.not_mem_nil, or_false] at he
  rcases he with rfl | rfl
  · exact hmesh
  · exact hmesh

lemma lists_twoMeshes : twoMeshes.Lists (ServedMeshes.followAll [twoMeshes] ∅) where
  nodup := by decide
  lookup uuid := by
    have hmesh : MeshEdit.ofValue? (.object [("V", .string "")])
        = some (.upsert { vertices := some "" }) := by decide +kernel
    have hserved : ServedMeshes.followAll [twoMeshes] ∅
        = ((∅ : ServedMeshes).insert "a" { vertices := some "" }).insert "b"
          { vertices := some "" } := by
      simp [ServedMeshes.followAll, ServedMeshes.follow, twoMeshes, hmesh]
    rw [hserved, lookup_edits, getElem?_insert_ite, getElem?_insert_ite]
    simp only [twoMeshes, Entries.lookup_cons]
    by_cases ha : uuid = "a"
    · simp [ha, hmesh]
    · by_cases hb : uuid = "b"
      · simp [hb, hmesh]
      · simp [ha, hb]

lemma run_overtaken : ReflTransGen Step atFirst overtaken := by
  have hfirst : pushedDelta? (frameOf twoMeshes) = some twoMeshes := by decide +kernel
  have hsecond : pushedDelta? (frameOf oneGone) = some oneGone := by decide +kernel
  have hgone : oneGone.IsSound (acceptsBoth RecordingView none) := by
    intro e he
    rw [List.mem_singleton.1 he]
    exact .remove (by decide +kernel)
  have hlate : ReflTransGen Step atFirst lateReply :=
    ((ReflTransGen.single (.push atFirst hfirst isSound_twoMeshes rfl)).tail
      (.answer _ rfl lists_twoMeshes)).tail (.push _ hsecond hgone rfl)
  have hnext : (lateReply.receive twoMeshes).client.channel.inbound = frameOf oneGone :: [] := by
    decide +kernel
  exact ((hlate.tail (.receive _ rfl hfirst)).tail (.receive _ hnext hsecond)).tail (.apply _ rfl)

lemma waiting_overtaken : overtaken.client.waiting = [] := by decide +kernel

/-- The client keeps the mesh that is gone, since the reply listed it, and has the other one as the
server does. -/
theorem contents_joined_overtaken :
    overtaken.client.room.scene.contents["a"]? = some ⟨"a", true, 0, 0⟩ ∧
      overtaken.client.room.scene.contents["b"]? = overtaken.meshes.content? "b" := by
  have hjoined := contents_joined rfl (by simp [ServedMeshes.AreSound]) run_overtaken rfl
    waiting_overtaken
  refine ⟨?_, ?_⟩
  · have hover : Overtaken overtaken.pushed 1 2 twoMeshes "a" :=
      ⟨by decide, ⟨oneGone, List.mem_singleton.2 rfl, by decide⟩, fun _ hd => nomatch hd⟩
    rw [(hjoined "a").1 hover]
    decide +kernel
  · refine (hjoined "b").2 fun hover => ?_
    obtain ⟨d, hd, hkey⟩ := hover.newer
    rw [List.mem_singleton.1 hd] at hkey
    exact absurd hkey (by decide)

/-- Not every way of joining a room ends with the meshes of the server. -/
theorem not_contents_joined_always :
    ¬ ∀ (w : Joining RecordingView) (known before : Nat) (reply : MeshDelta),
      ReflTransGen Step atFirst w → w.pull = .applied known reply before → w.client.waiting = [] →
        ∀ uuid : String, w.client.room.scene.contents[uuid]? = w.meshes.content? uuid := by
  intro h
  have hsame := h overtaken 1 2 twoMeshes run_overtaken rfl waiting_overtaken "a"
  exact absurd hsame (by decide +kernel)

end Joining

end MeshRoom
