import MeshRoom.Proofs.Client.Watching
import MeshRoom.Proofs.Session
import MeshRoom.View.Recording
import Mathlib.Data.List.Induction

/-!
# The loss of a channel

From connecting to leaving, a client may lose its channel at any time: before it joins the room,
while it is started, or later. What is told of it depends on one thing only. Joining registers the
listener, so a channel that is dropped later is told lost once, however the steps of the client
fall, as soon as it watches. A channel that is dropped before is never told lost: there was nobody
to be told, and what had arrived may still get the client started.
-/

namespace MeshRoom

open Json Wire

variable {V : Type}

namespace Client

/-! ### Step by step -/

lemma renderMany_renderMany_one (n : Nat) (c : Client V) :
    (c.renderMany 1).renderMany n = c.renderMany (n + 1) := by
  cases h : c.render? with
  | some c' => simp [renderMany, h]
  | none => cases n <;> simp [renderMany, h]

variable [View V]

lemma receiveMany_receiveMany_one (n : Nat) (c : Client V) :
    (c.receiveMany 1).receiveMany n = c.receiveMany (n + 1) := by
  cases h : c.receive? with
  | some c' => simp [receiveMany, h]
  | none => cases n <;> simp [receiveMany, h]

/-! ### Being started -/

/-- What a client does once it has its identity. -/
inductive Boot where
  | plugins
  | meshes
  | canvas
  | ready
deriving DecidableEq, Repr

namespace Boot

/-- Do a step of starting. -/
def run (source : ModuleSource Module) (c : Client V) : Boot → Client V
  | .plugins => c.loadPlugins source
  | .meshes => c.pullMeshes
  | .canvas => c.pullCanvas
  | .ready => c.tell .ready

/-- Whether a step can be done. The first one waits for the identity. -/
def isDue (session : Session) : Boot → Bool
  | .plugins => session.isAssigned
  | _ => true

/-- The steps of starting, in order. -/
def all : List Boot := [.plugins, .meshes, .canvas, .ready]

lemma oblivious_run (source : ModuleSource Module) (c : Client V) (b : Boot) :
    Oblivious c (b.run source c) := by
  cases b with
  | plugins => exact oblivious_loadPlugins source c
  | meshes => exact oblivious_pullMeshes c
  | canvas => exact oblivious_pullCanvas c
  | ready =>
    refine .tell (.of_room rfl rfl rfl rfl) ?_
    rfl

end Boot

/-- A client is started step by step, and then begins with its frames. -/
lemma boot_eq_foldl (source : ModuleSource Module) (c : Client V) :
    c.boot source = (Boot.all.foldl (Boot.run source) c).frame := rfl

end Client

/-! ### Staying in a room -/

/-- A channel that is connected, or a client that has joined, with the steps it still has to do to
be started. -/
inductive Stay (V : Type) where
  | connected (channel : MemoryChannel)
  | joined (client : Client V) (ahead : List Client.Boot)

namespace Stay

/-- What a client is started with. -/
structure Setting (V : Type) where
  options : ClientOptions
  view : V
  server : Server
  source : ModuleSource Module

/-- What may happen during a stay. The other side pushes frames and drops the channel; the client
joins, is started, and does its several things side by side; its user moves in the view and, once it
is started, makes requests. A request and what follows from its answer are one act, since the
channel has no part in them. -/
inductive Act (V : Type) where
  | push (text : String)
  | drop (reason : String)
  | join
  | boot
  | receive
  | watch
  | render
  | frame
  | look (view : V)
  | request (task : String) (payload : Value)

/-- The reasons for which the other side drops the channel. -/
def drops (acts : List (Act V)) : List String :=
  acts.filterMap fun
    | .drop reason => some reason
    | _ => none

/-- Whether the client joins. -/
def Act.isJoin : Act V → Bool
  | .join => true
  | _ => false

/-- What happens before the client joins. -/
def unjoined (acts : List (Act V)) : List (Act V) := acts.takeWhile fun a => !a.isJoin

/-- The loss that a client is told of: the first one, if the channel was not dropped before the
client joined. -/
def reportable? (acts : List (Act V)) : Option String :=
  match drops (unjoined acts) with
  | [] => (drops acts).head?
  | _ :: _ => none

lemma drops_append (acts more : List (Act V)) : drops (acts ++ more) = drops acts ++ drops more :=
  List.filterMap_append

lemma unjoined_append {acts : List (Act V)} (h : acts.any Act.isJoin = true) (more : List (Act V)) :
    unjoined (acts ++ more) = unjoined acts := by
  induction acts with
  | nil => cases h
  | cons a acts ih =>
    cases ha : a.isJoin with
    | true => simp [unjoined, ha]
    | false =>
      have hrest : acts.any Act.isJoin = true := by simpa [ha] using h
      simpa [unjoined, ha] using ih hrest

lemma reportable?_of_drops {acts : List (Act V)} (h : drops acts = []) :
    reportable? acts = none := by
  rw [reportable?, h]
  split <;> rfl

/-- When a client joins, it is told of nothing that came before. -/
lemma reportable?_join {acts : List (Act V)} (h : acts.any Act.isJoin = false) :
    reportable? (acts ++ [.join]) = none := by
  have hall : ∀ a ∈ acts, (!a.isJoin) = true := by simpa using h
  have hunjoined : unjoined (acts ++ [.join]) = acts := by
    rw [unjoined, List.takeWhile_append_of_pos hall]
    exact List.append_nil acts
  rw [reportable?, hunjoined, drops_append]
  cases drops acts <;> rfl

/-- Once the client has joined, only the first drop is told of. -/
lemma reportable?_append {acts : List (Act V)} (h : acts.any Act.isJoin = true)
    (more : List (Act V)) :
    reportable? (acts ++ more)
      = if drops acts = [] then (drops more).head? else reportable? acts := by
  rw [reportable?, reportable?, unjoined_append h, drops_append]
  split_ifs with hnone
  · have hbefore : drops (unjoined acts) = [] := by
      have hsub : (drops (unjoined acts)).Sublist (drops acts) :=
        (List.takeWhile_sublist _).filterMap _
      rw [hnone] at hsub
      exact List.sublist_nil.1 hsub
    rw [hbefore, hnone, List.nil_append]
  · obtain ⟨reason, rest, hdrops⟩ := List.exists_cons_of_ne_nil hnone
    rw [hdrops]
    rfl

/-- Whether the client is started. -/
def isStarted : Stay V → Bool
  | .joined _ [] => true
  | _ => false

lemma exists_of_isStarted {s : Stay V} (h : s.isStarted = true) : ∃ c, s = .joined c [] := by
  cases s with
  | connected => cases h
  | joined c ahead =>
    cases ahead with
    | nil => exact ⟨c, rfl⟩
    | cons => cases h

/-- Change the channel. -/
def onChannel (f : MemoryChannel → MemoryChannel) : Stay V → Stay V
  | .connected channel => .connected (f channel)
  | .joined c ahead => .joined { c with channel := f c.channel } ahead

/-- Change the client, once it has joined. -/
def onClient (f : Client V → Client V) : Stay V → Stay V
  | .joined c ahead => .joined (f c) ahead
  | s => s

/-- Change the client, once it is started. -/
def onStarted (f : Client V → Client V) : Stay V → Stay V
  | .joined c [] => .joined (f c) []
  | s => s

/-! ### Accounts of a stay -/

/-- What holds after acts: before the client joins nobody has been told anything, and later only its
listener has. -/
inductive Accounts (acts : List (Act V)) : Stay V → Prop where
  | connected (channel : MemoryChannel) (hjoin : acts.any Act.isJoin = false)
      (hopen : channel.isOpen = (drops acts).isEmpty) (hlistener : channel.listener = none)
      (hlosses : channel.losses = []) : Accounts acts (.connected channel)
  | joined (c : Client V) (ahead : List Client.Boot) (hjoin : acts.any Act.isJoin = true)
      (hc : c.Accounts (drops acts).head? (reportable? acts)) : Accounts acts (.joined c ahead)

namespace Accounts

variable {acts : List (Act V)}

/-- Once the client has joined, acts that are no drop change nothing in what it is told of. -/
lemma kept {c c' : Client V} {ahead : List Client.Boot} (h : Accounts acts (.joined c ahead))
    {a : Act V} (ha : drops [a] = [])
    (hc : ∀ lost told, c.Accounts lost told → c'.Accounts lost told) (ahead' : List Client.Boot) :
    Accounts (acts ++ [a]) (.joined c' ahead') := by
  rcases h with _ | ⟨_, _, hjoin, haccounts⟩
  have hsame : reportable? (acts ++ [a]) = reportable? acts := by
    rw [reportable?_append hjoin, ha]
    split_ifs with hnone
    · exact (reportable?_of_drops hnone).symm
    · rfl
  refine .joined _ _ (by rw [List.any_append, hjoin, Bool.true_or]) ?_
  rw [drops_append, ha, List.append_nil, hsame]
  exact hc _ _ haccounts

lemma aside {c c' : Client V} {ahead : List Client.Boot} (h : Accounts acts (.joined c ahead))
    {a : Act V} (ha : drops [a] = []) (hc : c.Oblivious c') (ahead' : List Client.Boot) :
    Accounts (acts ++ [a]) (.joined c' ahead') :=
  h.kept ha (fun _ _ haccounts => haccounts.oblivious hc) ahead'

lemma onStarted {c : Client V} {ahead : List Client.Boot} (h : Accounts acts (.joined c ahead))
    {a : Act V} (ha : drops [a] = []) {f : Client V → Client V} (hf : c.Oblivious (f c)) :
    Accounts (acts ++ [a]) (onStarted f (.joined c ahead)) := by
  cases ahead with
  | nil => exact h.aside ha hf []
  | cons b ahead => exact h.aside ha (.refl c) (b :: ahead)

lemma drop {c : Client V} {ahead : List Client.Boot} (h : Accounts acts (.joined c ahead))
    (reason : String) :
    Accounts (acts ++ [.drop reason])
      (.joined { c with channel := c.channel.disconnect reason } ahead) := by
  rcases h with _ | ⟨_, _, hjoin, haccounts⟩
  refine .joined _ _ (by rw [List.any_append, hjoin, Bool.true_or]) ?_
  rw [drops_append, reportable?_append hjoin]
  cases hdrops : drops acts with
  | nil =>
    rw [hdrops, reportable?_of_drops hdrops] at haccounts
    exact haccounts.disconnect reason
  | cons first rest =>
    rw [hdrops] at haccounts
    exact haccounts.disconnect_again reason

end Accounts

/-! ### Runs -/

variable [View V]

/-- One act, or nothing, if it cannot be done yet. -/
def step (setting : Setting V) (s : Stay V) : Act V → Stay V
  | .push text => s.onChannel (·.push text)
  | .drop reason => s.onChannel (·.disconnect reason)
  | .join =>
    match s with
    | .connected channel =>
      .joined (Client.join setting.options channel setting.view setting.server) Client.Boot.all
    | .joined _ _ => s
  | .boot =>
    match s with
    | .joined c (b :: ahead) =>
      if b.isDue c.room.session then .joined (b.run setting.source c) ahead else s
    | _ => s
  | .receive => s.onClient (·.receiveMany 1)
  | .watch => s.onClient Client.watch
  | .render => s.onClient (·.renderMany 1)
  | .look view =>
    s.onClient fun c => { c with room := { c.room with scene := { c.room.scene with view } } }
  | .frame => s.onStarted Client.frame
  | .request task payload => s.onStarted fun c => (c.call task payload).2

/-- What has come of acts, from the moment the channel is connected. -/
def run (setting : Setting V) (acts : List (Act V)) : Stay V :=
  acts.foldl (step setting) (.connected {})

lemma run_concat (setting : Setting V) (acts : List (Act V)) (a : Act V) :
    run setting (acts ++ [a]) = (run setting acts).step setting a := by
  rw [run, List.foldl_append]
  rfl

namespace Accounts

variable (setting : Setting V) {acts : List (Act V)}

/-- Before the client joins, only the other side does anything. -/
lemma step_connected {channel : MemoryChannel} (h : Accounts acts (.connected channel))
    (a : Act V) : Accounts (acts ++ [a]) (step setting (.connected channel) a) := by
  rcases h with ⟨_, hjoin, hopen, hlistener, hlosses⟩
  have hkeep : a.isJoin = false → (acts ++ [a]).any Act.isJoin = false := by
    intro ha
    rw [List.any_append, hjoin, Bool.false_or, List.any_cons, ha]
    rfl
  have hsame : drops [a] = [] → (drops (acts ++ [a])).isEmpty = (drops acts).isEmpty := by
    intro ha
    rw [drops_append, ha, List.append_nil]
  cases a with
  | push text =>
    obtain ⟨inbound, hpush⟩ := channel.push_eq text
    rw [step, onChannel, hpush]
    exact .connected _ (hkeep rfl) (hopen.trans (hsame rfl).symm) hlistener hlosses
  | drop reason =>
    -- the drop finds no listener, which is why nobody will ever be told of it
    rw [step, onChannel, MemoryChannel.disconnect_of_listener hlistener]
    refine .connected _ (hkeep rfl) ?_ hlistener hlosses
    rw [drops_append]
    cases drops acts <;> rfl
  | join =>
    refine .joined _ _ (by simp [Act.isJoin]) ?_
    rw [reportable?_join hjoin, drops_append]
    -- a channel that is closed already is listened to all the same
    refine
      { isOpen := ?_
        registered := fun _ => rfl
        losses := by simp [Client.join, MemoryChannel.listen, hlosses]
        lossTold := fun ht => nomatch ht
        disconnections := rfl }
    show channel.isOpen = _
    rw [hopen]
    cases drops acts <;> rfl
  | boot | receive | watch | render | frame | look | request =>
    exact .connected _ (hkeep rfl) (hopen.trans (hsame rfl).symm) hlistener hlosses

/-- Once the client has joined, it is oblivious of every act but a drop and its own watching. -/
lemma step_joined {c : Client V} {ahead : List Client.Boot} (h : Accounts acts (.joined c ahead))
    (a : Act V) : Accounts (acts ++ [a]) (step setting (.joined c ahead) a) := by
  cases a with
  | drop reason => exact h.drop reason
  | watch => exact h.kept (a := .watch) rfl (fun _ _ haccounts => haccounts.watch.1) ahead
  | push text => exact h.aside (a := .push text) rfl (c.oblivious_push text) ahead
  | join => exact h.aside (a := .join) rfl (.refl c) ahead
  | boot =>
    cases ahead with
    | nil => exact h.aside (a := .boot) rfl (.refl c) []
    | cons b ahead =>
      rw [step]
      split_ifs
      · exact h.aside (a := .boot) rfl (b.oblivious_run setting.source c) ahead
      · exact h.aside (a := .boot) rfl (.refl c) (b :: ahead)
  | receive => exact h.aside (a := .receive) rfl c.oblivious_receiveMany_one ahead
  | render => exact h.aside (a := .render) rfl c.oblivious_renderMany_one ahead
  | look view =>
    have hlook : c.Oblivious
        { c with room := { c.room with scene := { c.room.scene with view } } } :=
      .of_room rfl rfl rfl rfl
    exact h.aside (a := .look view) rfl hlook ahead
  | frame => exact h.onStarted (a := .frame) rfl c.oblivious_frame
  | request task payload =>
    exact h.onStarted (a := .request task payload) rfl (c.oblivious_call task payload)

end Accounts

/-! ### Starting at one go -/

section

variable (setting : Setting V)

lemma foldl_receive (n : Nat) (c : Client V) (ahead : List Client.Boot) :
    (List.replicate n .receive).foldl (step setting) (.joined c ahead)
      = .joined (c.receiveMany n) ahead := by
  induction n generalizing c with
  | zero => rfl
  | succ n ih =>
    rw [List.replicate_succ, List.foldl_cons, ← c.receiveMany_receiveMany_one n]
    exact ih (c.receiveMany 1)

lemma foldl_render (n : Nat) (c : Client V) (ahead : List Client.Boot) :
    (List.replicate n .render).foldl (step setting) (.joined c ahead)
      = .joined (c.renderMany n) ahead := by
  induction n generalizing c with
  | zero => rfl
  | succ n ih =>
    rw [List.replicate_succ, List.foldl_cons, ← c.renderMany_renderMany_one n]
    exact ih (c.renderMany 1)

lemma foldl_boot {c : Client V} (h : c.room.session.isAssigned = true) :
    (List.replicate Client.Boot.all.length .boot).foldl (step setting) (.joined c Client.Boot.all)
      = .joined (Client.Boot.all.foldl (Client.Boot.run setting.source) c) [] := by
  have hdue : Client.Boot.plugins.isDue c.room.session = true := h
  have hfirst : step setting (.joined c Client.Boot.all) .boot
      = .joined (c.loadPlugins setting.source) [.meshes, .canvas, .ready] := if_pos hdue
  rw [Client.Boot.all, List.length_cons, List.replicate_succ, List.foldl_cons, ← Client.Boot.all,
    hfirst]
  rfl

/-- Settling, act by act. -/
def settling (c : Client V) : List (Act V) :=
  List.replicate c.channel.inbound.length .receive ++
    .watch :: List.replicate c.receiveAll.watch.work .render

lemma foldl_settling (c : Client V) (ahead : List Client.Boot) :
    (settling c).foldl (step setting) (.joined c ahead) = .joined c.settle ahead := by
  rw [settling, List.foldl_append, foldl_receive, List.foldl_cons]
  exact foldl_render setting _ c.receiveAll.watch ahead

/-- Starting, act by act. -/
def starting (c : Client V) : List (Act V) :=
  settling c ++ List.replicate Client.Boot.all.length .boot ++ [.frame]

/-- A client that has its identity once it has settled is started, by these very acts. -/
lemma foldl_starting {c : Client V} (h : c.settle.room.session.isAssigned = true)
    (limit : Duration) :
    (c.start setting.source limit).1 = .ok () ∧
      (starting c).foldl (step setting) (.joined c Client.Boot.all)
        = .joined (c.start setting.source limit).2 [] := by
  have hstart : c.start setting.source limit = (.ok (), c.settle.boot setting.source) := by
    obtain ⟨id, hid⟩ := Option.isSome_iff_exists.1 h
    have hawait : c.settle.room.session.await limit [] = .ok id :=
      (Session.await_eq_ok_iff _ limit [] id).2 hid
    simp only [Client.start, hawait]
  rw [hstart]
  refine ⟨rfl, ?_⟩
  rw [starting, List.foldl_append, List.foldl_append, foldl_settling, foldl_boot setting h,
    Client.boot_eq_foldl]
  rfl

/-- A client that starts at one go goes one of the ways in which a stay can go on. -/
theorem exists_foldl_start {limit : Duration} {c c' : Client V}
    (h : c.start setting.source limit = (.ok (), c')) :
    ∃ acts : List (Act V),
      acts.foldl (step setting) (.joined c Client.Boot.all) = .joined c' [] := by
  refine ⟨starting c, ?_⟩
  suffices hassigned : c.settle.room.session.isAssigned = true by
    rw [(foldl_starting setting hassigned limit).2, h]
  unfold Client.start at h
  dsimp only at h
  split at h
  case h_1 => cases h
  case h_2 id hid => exact Option.isSome_of_eq_some ((Session.await_eq_ok_iff _ limit [] id).1 hid)

end

/-! ### What is told -/

lemma accounts_run (setting : Setting V) (acts : List (Act V)) :
    Accounts acts (run setting acts) := by
  induction acts using List.reverseRecOn with
  | nil => exact .connected {} rfl rfl rfl rfl
  | append_singleton acts a ih =>
    rw [run_concat]
    cases hs : run setting acts with
    | connected channel => exact (hs ▸ ih).step_connected setting a
    | joined c ahead => exact (hs ▸ ih).step_joined setting a

/-- Whatever happened before, in whatever order: a client that has joined tells of no loss but the
first, and of that only once and only if the channel was not dropped before it joined; once it has
watched, it has told of it. -/
theorem disconnections_eq_reportable (setting : Setting V) {acts : List (Act V)} {c : Client V}
    {ahead : List Client.Boot} (h : run setting acts = .joined c ahead) :
    c.room.disconnections <+: (reportable? acts).toList ∧
      c.watch.room.disconnections = (reportable? acts).toList := by
  have haccounts : Accounts acts (.joined c ahead) := h ▸ accounts_run setting acts
  rcases haccounts with _ | ⟨_, _, -, hc⟩
  refine ⟨?_, hc.watch.2⟩
  rw [hc.disconnections]
  split_ifs
  · exact List.prefix_refl _
  · exact List.nil_prefix

/-- A setting in which the server cannot be reached. -/
def remote : Setting RecordingView :=
  let options : ClientOptions := ⟨"lobby", ⟨"http", "", "", none, none, .segments [], none, none⟩,
    ⟨5000⟩, ⟨16⟩⟩
  { options, view := {}, server := ⟨options.httpBase, false, ∅, []⟩, source := {} }

/-- The frame that assigns an identity. -/
def greeting : String := "\x7b\"task\":\"initializeSession\",\"sessionUUID\":\"s-1\"\x7d"

/-- A channel that is dropped while the client is started is told lost, once. -/
theorem disconnections_eq_reportable_while_started :
    ∃ c, run remote [.push greeting, .join, .receive, .boot, .drop "gone", .boot, .boot, .boot,
        .drop "again"] = .joined c [] ∧ c.watch.room.disconnections = ["gone"] := by
  let acts : List (Act RecordingView) :=
    [.push greeting, .join, .receive, .boot, .drop "gone", .boot, .boot, .boot, .drop "again"]
  have hstarted : (run remote acts).isStarted = true := by decide +kernel
  obtain ⟨c, hc⟩ := exists_of_isStarted hstarted
  exact ⟨c, hc, (disconnections_eq_reportable remote hc).2⟩

/-- A channel that is dropped before the client joins is not told lost, although the client gets
started. -/
theorem not_loss_always_told :
    ¬ ∀ (setting : Setting RecordingView) (acts : List (Act RecordingView))
      (c : Client RecordingView), run setting acts = .joined c [] → drops acts ≠ [] →
        c.watch.room.disconnections.length = 1 := by
  intro h
  let acts : List (Act RecordingView) :=
    [.push greeting, .drop "gone", .join, .receive, .boot, .boot, .boot, .boot]
  have hstarted : (run remote acts).isStarted = true := by decide +kernel
  obtain ⟨c, hc⟩ := exists_of_isStarted hstarted
  have hone := h remote acts c hc (by decide)
  have haccounts : Accounts acts (.joined c []) := hc ▸ accounts_run remote acts
  rcases haccounts with _ | ⟨_, _, -, htold⟩
  rw [htold.watch.2] at hone
  exact absurd hone (by decide)

end Stay

end MeshRoom
