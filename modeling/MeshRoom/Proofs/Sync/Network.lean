import MeshRoom.Proofs.Sync.Lag
import MeshRoom.View.Headless
import MeshRoom.View.Recording
import Mathlib.Data.List.Induction
import Mathlib.Logic.Function.Basic

/-!
# No feedback between clients

Any number of clients follow the cameras and cursors that the others tell. Whatever they tell one
another, in whatever order it arrives, repeated or lost: a client tells a part only if its own user
has set it since it last ticked or took over a canvas. So nothing that is told is ever told back.
-/

namespace MeshRoom

open Json Wire

/-- A view whose controls are what they were last set to. -/
class KeepsControls (V : Type) [View V] : Prop where
  controls_setControls (c : Controls) (v : V) : View.controls (View.setControls c v) = c

instance : KeepsControls RecordingView := ⟨fun _ _ => rfl⟩

instance : KeepsControls HeadlessView := ⟨fun _ _ => rfl⟩

/-! ### Rooms -/

namespace Room

variable {V : Type} [View V]

/-- The user sets something. -/
def edit (e : Edit) (room : Room V) : Room V := room.withSync (e.apply room.controls, room.sync)

/-- One tick. -/
def tick (room : Room V) : Tick × Room V :=
  let (t, sync) := room.sync.tick room.session room.controls
  (t, { room with sync })

/-- The handlers of what clients tell one another of camera and cursor. -/
def followers : Dispatcher Handler :=
  Dispatcher.registerAll {} [(Task.syncParams, .followCamera), (Task.syncCursor, .followCursor)]

/-- Receive a frame. -/
def deliver (text : String) (room : Room V) : Room V :=
  (followers.dispatch Handler.run text room).2.2

/-- The tick of a client is the tick of its room. -/
lemma tick_client (c : Client V) : c.tick.1 = c.room.tick.1 ∧ c.tick.2.room = c.room.tick.2 :=
  ⟨rfl, rfl⟩

/-- What a frame can lead to. -/
inductive DeliverRule (room : Room V) : Room V → Prop where
  | ignored : DeliverRule room room
  | camera (n : CameraNotice) (hn : (CameraChange.ofNotice n).Numeric) :
      DeliverRule room (room.followCamera n)
  | cursor (n : CursorNotice) : DeliverRule room (room.followCursor n).2

lemma handler?_followers {task : String} {h : Handler} (hh : followers.handler? task = some h) :
    h = .followCamera ∨ h = .followCursor := by
  simp only [followers, Dispatcher.registerAll, List.foldl_cons, List.foldl_nil,
    Dispatcher.register, Dispatcher.handler?, getElem?_insert_ite] at hh
  split at hh
  · cases hh
    exact .inr rfl
  · split at hh
    · cases hh
      exact .inl rfl
    · simp at hh

lemma DeliverRule.of_deliver (text : String) (room : Room V) :
    DeliverRule room (room.deliver text) := by
  unfold deliver Dispatcher.dispatch
  split
  case h_2 => exact .ignored
  case h_1 e _ =>
    unfold Dispatcher.deliver
    split
    case h_1 => exact .ignored
    case h_2 h hh =>
      obtain rfl | rfl := handler?_followers hh
      · simp only [Handler.run, Handler.reading]
        split
        case h_1 n hn => exact .camera n (CameraNotice.yields_decoder _ _ _ hn)
        case h_2 => exact .ignored
      · simp only [Handler.run, Handler.reading]
        split
        case h_1 n hn => exact .cursor n
        case h_2 => exact .ignored

/-- The session has its identity, the controls are numeric, and the baseline lags in no part but
those that recent edits set. -/
structure Synced (room : Room V) (recent : List Edit) : Prop where
  assigned : room.session.isAssigned
  numeric : room.controls.Numeric
  edited : ∀ p, room.sync.lags room.controls p = true → ∃ e ∈ recent, e.sets p = true

namespace Synced

variable {room : Room V} {recent : List Edit}

lemma tick (h : Synced room recent) : Synced room.tick.2 [] where
  assigned := h.assigned
  numeric := h.numeric
  edited p hlags := absurd hlags (Bool.eq_false_iff.1 (Sync.lags_tick h.numeric h.assigned p))

lemma tells (h : Synced room recent) {p : Part} (htells : room.tick.1.tells p = true) :
    ∃ e ∈ recent, e.sets p = true :=
  h.edited p (Sync.lags_of_tells htells)

lemma tick_eq_empty (h : Synced room []) : room.tick.1 = {} := by
  refine Sync.tick_eq_empty fun p => Bool.eq_false_iff.2 fun htells => ?_
  obtain ⟨e, he, -⟩ := h.tells htells
  cases he

end Synced

variable [KeepsControls V]

@[simp] lemma controls_withSync (cs : Controls × Sync) (room : Room V) :
    (room.withSync cs).controls = cs.1 :=
  KeepsControls.controls_setControls cs.1 room.scene.view

namespace Synced

variable {room : Room V} {recent : List Edit}

lemma edit (h : Synced room recent) (e : Edit) : Synced (room.edit e) (recent ++ [e]) where
  assigned := h.assigned
  numeric := by
    rw [Room.edit, controls_withSync]
    exact h.numeric.edit e
  edited p hlags := by
    rw [Room.edit, controls_withSync] at hlags
    obtain hsets | hlags := Sync.lags_edit hlags
    · exact ⟨e, List.mem_append_right _ (List.mem_singleton_self e), hsets⟩
    · obtain ⟨e', he', hsets⟩ := h.edited p hlags
      exact ⟨e', List.mem_append_left _ he', hsets⟩

lemma seed (h : Synced room recent) {canvas : Canvas}
    (hcanvas : (CameraChange.ofCanvas canvas).Numeric) : Synced (room.seed canvas) [] where
  assigned := h.assigned
  numeric := by
    rw [Room.seed, controls_withSync]
    exact h.numeric.move hcanvas
  edited p hlags := by
    rw [Room.seed, controls_withSync] at hlags
    exact absurd hlags (Bool.eq_false_iff.1 (Sync.lags_seed h.numeric hcanvas p))

lemma deliver {room' : Room V} (hrule : DeliverRule room room') (h : Synced room recent) :
    Synced room' recent := by
  cases hrule with
  | ignored => exact h
  | cursor n => exact ⟨h.assigned, h.numeric, h.edited⟩
  | camera n hn =>
    refine ⟨h.assigned, ?_, fun p hlags => ?_⟩
    · rw [Room.followCamera, controls_withSync, Sync.followCamera]
      split
      · exact h.numeric.move hn
      · exact h.numeric
    · rw [Room.followCamera, controls_withSync] at hlags
      exact h.edited p (Sync.lags_followCamera h.numeric hn hlags)

end Synced

end Room

/-! ### Networks -/

/-- Clients of one room, each with a view of its own, and the ticks there have been. -/
structure Network (ι : Type) (V : ι → Type) where
  rooms : (i : ι) → Room (V i)
  log : List (ι × Tick) := []

/-- What may happen in a network. A frame that is delivered is any of those sent so far. -/
inductive Act (ι : Type) where
  | edit (i : ι) (e : Edit)
  | seed (i : ι) (canvas : Canvas) (numeric : (CameraChange.ofCanvas canvas).Numeric)
  | tick (i : ι)
  | deliver (i : ι) (k : Nat)

namespace Network

variable {ι : Type} [DecidableEq ι] {V : ι → Type}

/-- Clients that have joined under any identities, before they take over the canvas. -/
def joined (id : ι → String) (view : (i : ι) → V i) : Network ι V :=
  { rooms := fun i => { scene := { view := view i }, session := ⟨some (id i)⟩ } }

/-- The frames that have been sent. -/
def sent (n : Network ι V) : List String := n.log.flatMap fun (_, t) => t.messages

/-- Change the room of one client. -/
def withRoom (i : ι) (room : Room (V i)) (n : Network ι V) : Network ι V :=
  { n with rooms := Function.update n.rooms i room }

/-- How many ticks of a client told something of a kind. -/
def told (i : ι) (kind : Tick → Bool) (n : Network ι V) : Nat :=
  n.log.countP fun (j, t) => j = i && kind t

variable [∀ i, View (V i)]

def step (n : Network ι V) : Act ι → Network ι V
  | .edit i e => n.withRoom i ((n.rooms i).edit e)
  | .seed i canvas _ => n.withRoom i ((n.rooms i).seed canvas)
  | .tick i => { n.withRoom i (n.rooms i).tick.2 with log := n.log ++ [(i, (n.rooms i).tick.1)] }
  | .deliver i k =>
    match n.sent[k]? with
    | some text => n.withRoom i ((n.rooms i).deliver text)
    | none => n

def run (acts : List (Act ι)) (n : Network ι V) : Network ι V := acts.foldl step n

end Network

/-! ### Recent edits -/

namespace Act

variable {ι : Type} [DecidableEq ι]

/-- The edits of a client since its last tick or canvas, after one more act. -/
def after (i : ι) (recent : List Edit) : Act ι → List Edit
  | .edit j e => if j = i then recent ++ [e] else recent
  | .seed j _ _ | .tick j => if j = i then [] else recent
  | .deliver _ _ => recent

/-- The edits of a client since its last tick or canvas. -/
def recent (i : ι) (acts : List (Act ι)) : List Edit := acts.foldl (after i) []

/-- Whether an act is a tick of a client. -/
def isTick (i : ι) : Act ι → Bool
  | .tick j => j = i
  | _ => false

/-- How many ticks of a client come after edits. -/
def ticksAfterEdits (i : ι) (acts : List (Act ι)) : Nat :=
  (List.range acts.length).countP fun k =>
    (acts[k]?.any (isTick i)) && !(recent i (acts.take k)).isEmpty

lemma recent_concat (i : ι) (acts : List (Act ι)) (a : Act ι) :
    recent i (acts ++ [a]) = a.after i (recent i acts) := by
  rw [recent, List.foldl_append]
  rfl

lemma ticksAfterEdits_concat (i : ι) (acts : List (Act ι)) (a : Act ι) :
    ticksAfterEdits i (acts ++ [a]) = ticksAfterEdits i acts
      + if a.isTick i && !(recent i acts).isEmpty then 1 else 0 := by
  have hbefore : ∀ k ∈ List.range acts.length,
      ((acts ++ [a])[k]?.any (isTick i) && !(recent i ((acts ++ [a]).take k)).isEmpty)
        = (acts[k]?.any (isTick i) && !(recent i (acts.take k)).isEmpty) := by
    intro k hk
    have hk := List.mem_range.1 hk
    rw [List.getElem?_append_left hk, List.take_append_of_le_length (Nat.le_of_lt hk)]
  rw [ticksAfterEdits, List.length_append, List.length_singleton, List.range_succ,
    List.countP_append, List.countP_congr fun k hk => by rw [hbefore k hk]]
  simp [ticksAfterEdits, List.countP_singleton]

end Act

/-! ### Runs -/

namespace Network

open Act Room

variable {ι : Type} [DecidableEq ι] {V : ι → Type}

lemma rooms_withRoom_self (i : ι) (room : Room (V i)) (n : Network ι V) :
    (n.withRoom i room).rooms i = room := by
  simp [withRoom]

lemma rooms_withRoom_of_ne {i j : ι} (h : j ≠ i) (room : Room (V i)) (n : Network ι V) :
    (n.withRoom i room).rooms j = n.rooms j := by
  simp [withRoom, h]

variable [∀ i, View (V i)]

lemma run_concat (acts : List (Act ι)) (a : Act ι) (n : Network ι V) :
    run (acts ++ [a]) n = (run acts n).step a := by
  rw [run, List.foldl_append]
  rfl

/-- A tick is logged, and nothing else is. -/
lemma told_step (i : ι) (kind : Tick → Bool) (n : Network ι V) (a : Act ι) :
    (n.step a).told i kind
      = n.told i kind + if a.isTick i && kind (n.rooms i).tick.1 then 1 else 0 := by
  cases a with
  | edit j e => rfl
  | seed j canvas hcanvas => rfl
  | tick j =>
    by_cases hj : j = i
    · subst hj
      simp [told, step, isTick]
    · simp [told, step, isTick, hj]
  | deliver j k =>
    cases hsent : n.sent[k]? with
    | none => simp [step, hsent, isTick]
    | some text => simp [step, hsent, isTick, told, withRoom]

/-- Changing the room of a client keeps all clients in step with their recent edits, if it keeps
that one. -/
lemma synced_withRoom {n : Network ι V} {i j : ι} {room : Room (V j)} (f : List Edit → List Edit)
    (hroom : ∀ {recent}, Synced (n.rooms j) recent → Synced room (f recent)) {recent : List Edit}
    (h : Synced (n.rooms i) recent) :
    Synced ((n.withRoom j room).rooms i) (if j = i then f recent else recent) := by
  split
  case isTrue hj =>
    subst hj
    rw [rooms_withRoom_self]
    exact hroom h
  case isFalse hj =>
    rw [rooms_withRoom_of_ne (Ne.symm hj)]
    exact h

variable [∀ i, KeepsControls (V i)]

/-- Every act keeps every client in step with its own recent edits. -/
lemma synced_step {n : Network ι V} {i : ι} {recent : List Edit}
    (h : Synced (n.rooms i) recent) (a : Act ι) :
    Synced ((n.step a).rooms i) (a.after i recent) := by
  cases a with
  | edit j e => exact synced_withRoom (· ++ [e]) (·.edit e) h
  | seed j canvas hcanvas => exact synced_withRoom (fun _ => []) (·.seed hcanvas) h
  | tick j => exact synced_withRoom (fun _ => []) (·.tick) h
  | deliver j k =>
    simp only [step, after]
    split
    case h_1 text _ =>
      have hdeliver := synced_withRoom id (·.deliver (.of_deliver text (n.rooms j))) h
      rwa [id_eq, ite_self] at hdeliver
    case h_2 => exact h

variable (id : ι → String) {view : (i : ι) → V i}

lemma synced_run (hnumeric : ∀ i, (View.controls (view i)).Numeric) (acts : List (Act ι)) (i : ι) :
    Synced ((run acts (joined id view)).rooms i) (recent i acts) := by
  induction acts using List.reverseRecOn with
  | nil => exact ⟨rfl, hnumeric i, fun p hlags => nomatch hlags⟩
  | append_singleton acts a ih =>
    rw [run_concat, recent_concat]
    exact synced_step ih a

/-- A client tells something of a kind once for a tick after edits, at most. -/
lemma told_run_le (hnumeric : ∀ i, (View.controls (view i)).Numeric) {kind : Tick → Bool}
    (hkind : kind {} = false) (acts : List (Act ι)) (i : ι) :
    (run acts (joined id view)).told i kind ≤ ticksAfterEdits i acts := by
  induction acts using List.reverseRecOn with
  | nil => exact Nat.le_refl 0
  | append_singleton acts a ih =>
    rw [run_concat, told_step, ticksAfterEdits_concat]
    refine Nat.add_le_add ih ?_
    have hsynced := synced_run id hnumeric acts i
    cases hrecent : recent i acts with
    | nil =>
      rw [hrecent] at hsynced
      simp [hsynced.tick_eq_empty, hkind]
    | cons e es =>
      cases a.isTick i with
      | false => exact Nat.le_refl 0
      | true =>
        simp only [Bool.true_and, List.isEmpty_cons, Bool.not_false, if_true]
        split
        · exact Nat.le_refl 1
        · exact Nat.zero_le 1

/-- Whatever clients tell one another, a tick tells a part only if the user of the client has set it
since the tick or canvas before. So a client sends nothing without an edit, and sends camera and
cursor once for a tick after edits, at most. -/
theorem tick_tells_edited (hnumeric : ∀ i, (View.controls (view i)).Numeric) (acts : List (Act ι))
    (i : ι) :
    let n := run acts (joined id view)
    let t := (n.rooms i).tick.1
    (∀ p, t.tells p = true → ∃ e ∈ recent i acts, e.sets p = true) ∧
      (recent i acts = [] → t.messages = []) ∧
        n.told i (·.camera.isSome) ≤ ticksAfterEdits i acts ∧
          n.told i (·.cursor.isSome) ≤ ticksAfterEdits i acts := by
  have hsynced := synced_run id hnumeric acts i
  have htold : ∀ {kind : Tick → Bool}, kind {} = false →
      (run acts (joined id view)).told i kind ≤ ticksAfterEdits i acts :=
    fun hkind => told_run_le id hnumeric hkind acts i
  refine ⟨fun p htells => hsynced.tells htells, fun hrecent => ?_, htold rfl, htold rfl⟩
  rw [hrecent] at hsynced
  rw [hsynced.tick_eq_empty]
  rfl

/-- A zoom that one client sets reaches the other, which does not tell it back. -/
theorem tick_tells_edited_zoom :
    let edit : Edit :=
      { change := { zoom := some 2 }
        numeric := ⟨nofun, nofun, nofun, fun _ hx => Option.some.inj hx ▸ Single.numeric_ofInt 2⟩
        numericCursor := fun _ hc => by cases hc }
    let canvas : Canvas := {}
    let seed (i : Bool) : Act Bool := .seed i canvas ⟨nofun, nofun, nofun, nofun⟩
    let acts : List (Act Bool) :=
      [seed false, seed true, .edit false edit, .tick false, .deliver true 0]
    let id : Bool → String := fun i => if i then "b" else "a"
    let n : Network Bool fun _ => RecordingView := run acts (joined id fun _ => {})
    (n.rooms true).controls.camera.zoom = 2 ∧ (n.rooms true).tick.1.messages = [] := by
  intro edit canvas seed acts id n
  refine ⟨by decide +kernel, ?_⟩
  exact (tick_tells_edited id (fun _ => Controls.Numeric.default) acts true).2.1 rfl

end Network

end MeshRoom
