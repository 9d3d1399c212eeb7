import MeshRoom.Proofs.Client.Greeting
import MeshRoom.Proofs.Sync.Following
import MeshRoom.View.Recording

/-!
# Leaving a room

A client that leaves tells the room that its cursor is gone, then closes the channel, and only then
stops its loop of frames, which may be anywhere in a frame meanwhile. What the loop still sends
before the channel is closed comes after the farewell. So the others end up with the cursor that was
told last between the farewell and the close, and nobody will ever take it away; only if none was
told in between do they end up without one.
-/

namespace MeshRoom

open Json Wire

/-! ### Notices of a session -/

namespace Notice

/-- The notice that the cursor of a session is gone. -/
def farewell (id : String) (strokeTime : Int64) : Notice :=
  .cursor { session := id, timestamp := strokeTime, removed := true }

/-- The cursor that is shown to whoever receives a notice. One that is not finite cannot be read. -/
def shown? : Notice → Option Cursor
  | .camera _ => none
  | .cursor n => (n.cursor.filter fun m => m.dir.isFinite).map .ofMark

/-- What a session tells of itself as long as it is there. -/
inductive IsLive (id : String) : Notice → Prop where
  | camera (n : CameraNotice) (hn : n.session = id) : IsLive id (.camera n)
  | cursor (strokeTime : Int64) (c : Cursor) :
      IsLive id (.cursor { session := id, timestamp := strokeTime, cursor := some c.mark })

variable {id : String}

lemma shown?_mark (strokeTime : Int64) (c : Cursor) :
    (cursor { session := id, timestamp := strokeTime, cursor := some c.mark }).shown?
      = if c.dir.isFinite then some c else none := by
  simp only [shown?, Option.filter]
  cases hfinite : c.dir.isFinite <;> simp [Cursor.mark, Cursor.ofMark, hfinite]

/-- A tick tells nothing but what is live. -/
lemma isLive_tick {own : Session} (hid : own.id = some id) (controls : Controls) (s : Sync) :
    ∀ m ∈ ofTick (s.tick own controls).1, m.IsLive id := by
  intro m hm
  rw [Sync.tick, hid] at hm
  cases hbaseline : s.baseline with
  | none =>
    rw [hbaseline] at hm
    cases hm
  | some b =>
    simp only [hbaseline, ofTick, List.mem_append, Option.mem_toList, Option.map_eq_some_iff] at hm
    obtain ⟨n, hn, rfl⟩ | ⟨n, hn, rfl⟩ := hm
    · exact .camera n (Sync.session_differences hn)
    · obtain ⟨c, -, rfl⟩ := Option.map_eq_some_iff.1 hn
      exact .cursor controls.strokeTime c

end Notice

/-! ### What the others end up with -/

namespace Room

variable {W : Type} [View W] {id : String} {m : Notice}

lemma session_deliver (text : String) (peer : Room W) :
    (peer.deliver text).session = peer.session := by
  have hrule := DeliverRule.of_deliver text peer
  generalize peer.deliver text = peer' at hrule ⊢
  cases hrule <;> rfl

lemma session_deliverAll (texts : List String) (peer : Room W) :
    (peer.deliverAll texts).session = peer.session := by
  induction texts generalizing peer with
  | nil => rfl
  | cons text texts ih => exact (ih _).trans (peer.session_deliver text)

/-- After the farewell of a session the others do not show its cursor. -/
lemma cursor_farewell (hid : id ≠ "") {peer : Room W} (hpeer : peer.session.owns id = false)
    (strokeTime : Int64) :
    (peer.deliver (Notice.farewell id strokeTime).text).sync.cursors[id]? = none := by
  have hfinite : (Notice.farewell id strokeTime).IsFinite := nofun
  have hheard : ¬ (id.isEmpty || peer.session.owns id) = true := by simp [hid, hpeer]
  have hplace : (Notice.farewell id strokeTime).place peer.session peer.sync.cursors
      = (peer.sync.cursors.drop id).2 := congrArg Prod.snd (if_neg hheard)
  rw [deliver_text hfinite, cursors_follow, hplace, CursorTable.drop]
  split
  case isTrue => rw [getElem?_erase_ite, if_pos rfl]
  case isFalse hout => exact getElem?_neg _ _ hout

/-- The others show the cursor that they are told of last. -/
lemma cursor_live (hid : id ≠ "") {peer : Room W} (hpeer : peer.session.owns id = false)
    (hm : m.IsLive id) :
    (peer.deliver m.text).sync.cursors[id]? = m.shown?.or peer.sync.cursors[id]? := by
  cases hm with
  | camera n hn =>
    have hrule := Handler.Rule.of_run .followCamera n.document.toValue peer
    rw [Notice.text, deliver_of_handler (n.parse_frame Task.syncParams) handler?_syncParams]
    generalize (Handler.followCamera.run n.document.toValue peer).2 = peer' at hrule ⊢
    cases hrule with
    | failed => rfl
    | camera n' => exact congrArg (·[id]?) (peer.cursors_follow (.camera n'))
  | cursor strokeTime c =>
    let n : CursorNotice := { session := id, timestamp := strokeTime, cursor := some c.mark }
    rw [Notice.shown?_mark]
    split
    case isTrue hfinite =>
      have hheard : ¬ (id.isEmpty || peer.session.owns id) = true := by simp [hid, hpeer]
      have hplace : (Notice.cursor n).place peer.session peer.sync.cursors
          = (peer.sync.cursors.place id c).2 := congrArg Prod.snd (if_neg hheard)
      have hread : (Notice.cursor n).IsFinite := by
        rintro _ ⟨⟩
        exact hfinite
      rw [deliver_text hread, cursors_follow, hplace, Option.some_or]
      exact (getElem?_insert_ite _ _ _ _).trans (if_pos rfl)
    case isFalse hfinite =>
      have hunread : CursorNotice.decoder.onValue n.document.toValue = none :=
        CursorNotice.refuses rfl (Bool.eq_false_iff.2 hfinite) _ (Nat.le_refl _)
      rw [Notice.text, deliver_of_handler (n.parse_frame Task.syncCursor) handler?_syncCursor,
        Handler.run, Handler.reading, hunread]
      exact Option.none_or.symm

lemma cursor_live_all (hid : id ≠ "") {peer : Room W} (hpeer : peer.session.owns id = false)
    {ms : List Notice} (hms : ∀ m ∈ ms, m.IsLive id) :
    (peer.deliverAll (ms.map Notice.text)).sync.cursors[id]?
      = (ms.filterMap Notice.shown?).getLast?.or peer.sync.cursors[id]? := by
  induction ms generalizing peer with
  | nil => rfl
  | cons m ms ih =>
    obtain ⟨hm, hrest⟩ := List.forall_mem_cons.1 hms
    have hnext : (peer.deliver m.text).session.owns id = false := by
      rw [session_deliver, hpeer]
    have hcursor := ih hnext hrest
    rw [cursor_live hid hpeer hm, ← Option.or_assoc] at hcursor
    rw [List.map_cons]
    refine hcursor.trans (congrArg (Option.or · _) ?_)
    cases hshown : m.shown? with
    | none => rw [List.filterMap_cons_none hshown, Option.or_none]
    | some c =>
      rw [List.filterMap_cons_some hshown, List.getLast?_cons]
      cases (ms.filterMap Notice.shown?).getLast? <;> rfl

lemma deliverAll_cons (text : String) (texts : List String) (peer : Room W) :
    peer.deliverAll (text :: texts) = (peer.deliver text).deliverAll texts := rfl

lemma deliverAll_append (texts more : List String) (peer : Room W) :
    peer.deliverAll (texts ++ more) = (peer.deliverAll texts).deliverAll more :=
  List.foldl_append

/-- Whatever they were told before a farewell, the others show the cursor that they are told of last
after it. -/
lemma cursor_after_farewell (hid : id ≠ "") {peer : Room W} (hpeer : peer.session.owns id = false)
    (told : List String) (strokeTime : Int64) {ms : List Notice} (hms : ∀ m ∈ ms, m.IsLive id) :
    (peer.deliverAll (told ++ (Notice.farewell id strokeTime).text :: ms.map Notice.text)
      ).sync.cursors[id]? = (ms.filterMap Notice.shown?).getLast? := by
  have htold : (peer.deliverAll told).session.owns id = false := by
    rw [session_deliverAll, hpeer]
  have hheard : ((peer.deliverAll told).deliver
      (Notice.farewell id strokeTime).text).session.owns id = false := by
    rw [session_deliver, htold]
  rw [deliverAll_append, deliverAll_cons, cursor_live_all hid hheard hms,
    cursor_farewell hid htold, Option.or_none]

end Room

/-! ### A client that leaves -/

/-- Where the loop of frames is: it still has notices of a frame to send, before it comes to the
next one; it has found the channel open for a frame; or it has ended. -/
inductive FrameLoop where
  | sending (ahead : List Notice)
  | checked
  | ended

/-- The notices that the loop has still to send. -/
def FrameLoop.ahead : FrameLoop → List Notice
  | .sending ahead => ahead
  | _ => []

namespace Client

variable {V : Type} [View V]

/-- What a client does to leave. -/
inductive Parting where
  | farewell
  | close
  | stop
  | release
deriving DecidableEq, Repr

namespace Parting

/-- Do a step of leaving. To stop the loop of frames is only to ask it to end. -/
def run (c : Client V) : Parting → Client V
  | .farewell => c.sayFarewell
  | .close => c.close
  | .stop => c
  | .release => c.release

/-- The steps of leaving, in order. -/
def all : List Parting := [.farewell, .close, .stop, .release]

lemma session_run (c : Client V) (p : Parting) : (p.run c).room.session = c.room.session := by
  cases p with
  | farewell =>
    show c.sayFarewell.room.session = _
    unfold sayFarewell
    split <;> rfl
  | close | stop | release => rfl

/-- A farewell is sent if the channel is open. -/
lemma sent_farewell {c : Client V} {id : String} (hid : c.room.session.id = some id)
    (hopen : c.channel.isOpen = true) :
    (farewell.run c).channel.sent
      = c.channel.sent ++ [(Notice.farewell id c.room.controls.strokeTime).text] := by
  have hfarewell : Sync.farewell? c.room.session c.room.controls
      = some (Notice.farewell id c.room.controls.strokeTime).text := by
    rw [Sync.farewell?, hid]
    rfl
  rw [run, sayFarewell, hfarewell]
  exact MemoryChannel.sent_post hopen _

/-- Over a closed channel nothing is sent to leave. -/
lemma run_of_closed {c : Client V} (hclosed : c.channel.isOpen = false) (p : Parting) :
    (p.run c).channel.isOpen = false ∧ (p.run c).channel.sent = c.channel.sent := by
  cases p with
  | farewell =>
    show c.sayFarewell.channel.isOpen = false ∧ c.sayFarewell.channel.sent = _
    unfold sayFarewell
    split
    · rw [MemoryChannel.post_of_closed hclosed]
      exact ⟨hclosed, rfl⟩
    · exact ⟨hclosed, rfl⟩
  | close => exact ⟨rfl, rfl⟩
  | stop | release => exact ⟨hclosed, rfl⟩

end Parting

/-- A client that leaves at one go leaves no cursor behind. -/
theorem cursor_after_shutdown {c : Client V} {id : String} (hid : c.room.session.id = some id)
    (hne : id ≠ "") (hopen : c.channel.isOpen = true) {W : Type} [View W] {peer : Room W}
    (hpeer : peer.session.owns id = false) :
    (peer.deliverAll c.shutdown.channel.sent).sync.cursors[id]? = none := by
  have hsent : c.shutdown.channel.sent
      = c.channel.sent ++ [(Notice.farewell id c.room.controls.strokeTime).text] :=
    Parting.sent_farewell hid hopen
  rw [hsent]
  exact Room.cursor_after_farewell hne hpeer c.channel.sent _ (List.forall_mem_nil _)

end Client

/-- A client that may be leaving, with where its loop of frames is and the steps it still has to do
to leave. -/
structure Leaving (V : Type) where
  client : Client V
  loop : FrameLoop := .sending []
  ahead : List Client.Parting := Client.Parting.all

namespace Leaving

/-- What may happen while a client leaves. The loop of frames checks the channel, ticks, sends one
notice, or ends because it was asked to; the client does the next step of leaving; and all that it
does beside goes on: the other side pushes frames and drops the channel, the client receives,
watches, renders and makes requests, and its user moves in the view. -/
inductive Act (V : Type) where
  | check
  | tick
  | send
  | cease
  | part
  | push (text : String)
  | drop (reason : String)
  | receive
  | watch
  | render
  | look (view : V)
  | request (task : String) (payload : Value)

namespace Act

variable {V : Type}

/-- Whether an act is a step of leaving. -/
def isParting : Act V → Bool
  | .part => true
  | _ => false

/-- Whether an act sends a notice. -/
def isSend : Act V → Bool
  | .send => true
  | _ => false

end Act

variable {V : Type} [View V]

/-- Begin a frame, if the one before is done, or end with the channel. -/
def check (s : Leaving V) : Leaving V :=
  match s.loop with
  | .sending [] => { s with loop := if s.client.isConnected then .checked else .ended }
  | _ => s

/-- Tick, if a frame has begun. -/
def tick (s : Leaving V) : Leaving V :=
  match s.loop with
  | .checked =>
    let (t, room) := s.client.room.tick
    { s with client := { s.client with room }, loop := .sending (Notice.ofTick t) }
  | _ => s

/-- Send the next notice of a frame, if there is one and that is possible. -/
def send (s : Leaving V) : Leaving V :=
  match s.loop with
  | .sending (m :: ms) =>
    let channel := s.client.channel.post m.text
    { s with client := { s.client with channel }, loop := .sending ms }
  | _ => s

/-- End the loop, if it has been asked to end. -/
def cease (s : Leaving V) : Leaving V :=
  if .stop ∈ s.ahead then s else { s with loop := .ended }

/-- Do the next step of leaving, if there is one. -/
def part (s : Leaving V) : Leaving V :=
  match s.ahead with
  | p :: ahead => { s with client := p.run s.client, ahead }
  | [] => s

/-- One act, or nothing, if it cannot be done yet. -/
def step (s : Leaving V) : Act V → Leaving V
  | .check => s.check
  | .tick => s.tick
  | .send => s.send
  | .cease => s.cease
  | .part => s.part
  | .push text =>
    { s with client := { s.client with channel := s.client.channel.push text } }
  | .drop reason =>
    { s with client := { s.client with channel := s.client.channel.disconnect reason } }
  | .receive => { s with client := s.client.receiveMany 1 }
  | .watch => { s with client := s.client.watch }
  | .render => { s with client := s.client.renderMany 1 }
  | .look view =>
    let scene := { s.client.room.scene with view }
    { s with client := { s.client with room := { s.client.room with scene } } }
  | .request task payload => { s with client := (s.client.call task payload).2 }

/-- What has come of acts. -/
def run (c : Client V) (acts : List (Act V)) : Leaving V := acts.foldl step { client := c }

lemma run_append (c : Client V) (acts more : List (Act V)) :
    run c (acts ++ more) = more.foldl step (run c acts) := List.foldl_append

/-! ### Frames and leaving at one go -/

lemma foldl_send (ms : List Notice) (c : Client V) (ahead : List Client.Parting) :
    (List.replicate ms.length .send).foldl step ⟨c, .sending ms, ahead⟩
      = ⟨{ c with channel := (ms.map Notice.text).foldl MemoryChannel.post c.channel },
          .sending [], ahead⟩ := by
  induction ms generalizing c with
  | nil => rfl
  | cons m ms ih => exact ih { c with channel := c.channel.post m.text }

/-- A frame, act by act. -/
def framing (c : Client V) : List (Act V) :=
  if c.isConnected then .check :: .tick :: List.replicate (Notice.ofTick c.tick.1).length .send
  else [.check]

lemma foldl_framing (c : Client V) (ahead : List Client.Parting) :
    (framing c).foldl step ⟨c, .sending [], ahead⟩
      = ⟨c.frame, if c.isConnected then .sending [] else .ended, ahead⟩ := by
  unfold framing Client.frame
  cases hopen : c.isConnected with
  | false => simp [step, check, hopen]
  | true =>
    let ticked := { c with room := c.tick.2.room }
    have hbegun : [Act.check, .tick].foldl step ⟨c, .sending [], ahead⟩
        = ⟨ticked, .sending (Notice.ofTick c.tick.1), ahead⟩ := by
      simp only [List.foldl_cons, List.foldl_nil, step, check, hopen, if_true]
      rfl
    have hsent : c.tick.2 = { ticked with
        channel := ((Notice.ofTick c.tick.1).map Notice.text).foldl MemoryChannel.post c.channel } := by
      rw [← Notice.messages_eq_map]
      rfl
    rw [if_pos rfl, if_pos rfl, if_pos rfl, hsent, ← foldl_send, ← hbegun]
    rfl

lemma foldl_part (c : Client V) (loop : FrameLoop) :
    (List.replicate Client.Parting.all.length .part).foldl step ⟨c, loop, Client.Parting.all⟩
      = ⟨c.shutdown, loop, []⟩ := rfl

/-- A client that leaves at one go after a frame at one go goes one of the ways in which it may
leave. -/
theorem run_framing_part (c : Client V) :
    (run c (framing c ++ List.replicate Client.Parting.all.length .part)).client
      = c.frame.shutdown := by
  rw [run_append, run, foldl_framing, foldl_part]

/-! ### What is sent -/

/-- The client has its identity, and the notices under way are its own. -/
structure Own (id : String) (s : Leaving V) : Prop where
  session : s.client.room.session.id = some id
  live : ∀ m ∈ s.loop.ahead, m.IsLive id

/-- From one state to another the client keeps its identity and does no step of leaving, and some
notices of its own are sent, none if the channel is closed. -/
structure Sends (id : String) (ms : List Notice) (s s' : Leaving V) : Prop where
  own : Own id s'
  ahead : s'.ahead = s.ahead
  sent : s'.client.channel.sent = s.client.channel.sent ++ ms.map Notice.text
  live : ∀ m ∈ ms, m.IsLive id
  closed : s.client.channel.isOpen = false → s'.client.channel.isOpen = false ∧ ms = []

section

omit [View V]

variable {id : String} {s s' s'' : Leaving V} {ms ms' : List Notice}

namespace Sends

lemma trans (h : Sends id ms s s') (h' : Sends id ms' s' s'') : Sends id (ms ++ ms') s s'' where
  own := h'.own
  ahead := h'.ahead.trans h.ahead
  sent := by rw [h'.sent, h.sent, List.map_append, List.append_assoc]
  live := List.forall_mem_append.2 ⟨h.live, h'.live⟩
  closed hclosed := by
    obtain ⟨hstill, rfl⟩ := h.closed hclosed
    exact h'.closed hstill

/-- The loop goes on without sending anything. -/
lemma of_loop (h : Own id s) (loop : FrameLoop) (hlive : ∀ m ∈ loop.ahead, m.IsLive id) :
    Sends id [] s { s with loop } where
  own := ⟨h.session, hlive⟩
  ahead := rfl
  sent := (List.append_nil _).symm
  live := List.forall_mem_nil _
  closed hclosed := ⟨hclosed, rfl⟩

lemma refl (h : Own id s) : Sends id [] s s := of_loop h s.loop h.live

/-- The client goes on without sending anything. -/
lemma of_client (h : Own id s) {client : Client V} (hsession : client.room.session.id = some id)
    (hsent : client.channel.sent = s.client.channel.sent)
    (hclosed : s.client.channel.isOpen = false → client.channel.isOpen = false) :
    Sends id [] s { s with client } where
  own := ⟨hsession, h.live⟩
  ahead := rfl
  sent := hsent.trans (List.append_nil _).symm
  live := List.forall_mem_nil _
  closed hc := ⟨hclosed hc, rfl⟩

lemma of_beside (h : Own id s) {client : Client V} (hclient : s.client.Beside client) :
    Sends id [] s { s with client } := by
  refine of_client h ?_ ?_ ?_
  · rw [hclient.session, h.session]
  · rw [hclient.channel]
  · rw [hclient.channel]
    exact fun hclosed => hclosed

lemma check (h : Own id s) : Sends id [] s s.check := by
  unfold Leaving.check
  split
  · refine of_loop h _ ?_
    split <;> exact List.forall_mem_nil _
  · exact refl h

/-- The channel takes a notice that is sent, if it is open. -/
lemma send (h : Own id s) : ∃ ms, ms.length ≤ 1 ∧ Sends id ms s s.send := by
  unfold Leaving.send
  split
  case h_1 m ms hloop =>
    have hlive := h.live
    rw [hloop] at hlive
    obtain ⟨hm, hms⟩ := List.forall_mem_cons.1 hlive
    cases hopen : s.client.channel.isOpen with
    | false =>
      rw [MemoryChannel.post_of_closed hopen]
      exact ⟨[], Nat.zero_le 1, of_loop h _ hms⟩
    | true =>
      refine ⟨[m], Nat.le_refl 1, ⟨h.session, hms⟩, rfl,
        MemoryChannel.sent_post hopen m.text, ?_, fun hclosed => ?_⟩
      · exact List.forall_mem_singleton.2 hm
      · rw [hopen] at hclosed
        cases hclosed
  case h_2 => exact ⟨[], Nat.zero_le 1, refl h⟩

lemma cease (h : Own id s) : Sends id [] s s.cease := by
  unfold Leaving.cease
  split
  · exact refl h
  · exact of_loop h .ended (List.forall_mem_nil _)

end Sends

end

namespace Sends

variable {id : String} {s : Leaving V}

lemma tick (h : Own id s) : Sends id [] s s.tick := by
  unfold Leaving.tick
  split
  · have hticked : Sends id [] s
        { s with client := { s.client with room := s.client.room.tick.2 } } :=
      of_client h h.session rfl fun hclosed => hclosed
    have hlive := Notice.isLive_tick h.session s.client.room.controls s.client.room.sync
    exact hticked.trans (of_loop hticked.own (.sending _) hlive)
  · exact refl h

lemma receive (h : Own id s) : Sends id [] s { s with client := s.client.receiveMany 1 } := by
  have hkept : (s.client.receiveMany 1).room.session.id = some id ∧
      (s.client.receiveMany 1).channel.sent = s.client.channel.sent ∧
        (s.client.receiveMany 1).channel.isOpen = s.client.channel.isOpen :=
    Client.of_receiveMany_one
      (P := fun c => c.room.session.id = some id ∧ c.channel.sent = s.client.channel.sent ∧
        c.channel.isOpen = s.client.channel.isOpen)
      ⟨h.session, rfl, rfl⟩ fun text rest _ => ⟨Client.id_handle_of_id h.session text, rfl, rfl⟩
  obtain ⟨hsession, hsent, hopen⟩ := hkept
  exact of_client h hsession hsent hopen.trans

/-- What an act sends that is no step of leaving. -/
lemma step (h : Own id s) {a : Act V} (ha : a.isParting = false) :
    ∃ ms, ms.length ≤ [a].countP Act.isSend ∧ Sends id ms s (s.step a) := by
  cases a with
  | check => exact ⟨[], Nat.le_refl 0, check h⟩
  | tick => exact ⟨[], Nat.le_refl 0, tick h⟩
  | send => exact send h
  | cease => exact ⟨[], Nat.le_refl 0, cease h⟩
  | part => cases ha
  | push text =>
    obtain ⟨inbound, hpush⟩ := s.client.channel.push_eq text
    refine ⟨[], Nat.le_refl 0, of_client h h.session (s.client.channel.sent_push text) ?_⟩
    rw [hpush]
    exact fun hclosed => hclosed
  | drop reason =>
    refine ⟨[], Nat.le_refl 0,
      of_client h h.session (s.client.channel.disconnect_keeps reason).1 fun hclosed => ?_⟩
    rw [MemoryChannel.disconnect_of_closed hclosed, hclosed]
  | receive => exact ⟨[], Nat.le_refl 0, receive h⟩
  | watch => exact ⟨[], Nat.le_refl 0, of_beside h s.client.beside_watch⟩
  | render => exact ⟨[], Nat.le_refl 0, of_beside h s.client.beside_renderMany_one⟩
  | look view => exact ⟨[], Nat.le_refl 0, of_client h h.session rfl fun hclosed => hclosed⟩
  | request task payload =>
    exact ⟨[], Nat.le_refl 0, of_beside h (s.client.beside_call task payload)⟩

end Sends

variable {id : String} {s : Leaving V}

/-- What is sent between two steps of leaving. -/
lemma exists_sends (h : Own id s) {acts : List (Act V)}
    (hacts : ∀ a ∈ acts, a.isParting = false) :
    ∃ ms, ms.length ≤ acts.countP Act.isSend ∧ Sends id ms s (acts.foldl step s) := by
  induction acts generalizing s with
  | nil => exact ⟨[], Nat.le_refl 0, .refl h⟩
  | cons a acts ih =>
    obtain ⟨ha, hrest⟩ := List.forall_mem_cons.1 hacts
    obtain ⟨ms, hlength, hsends⟩ := Sends.step h ha
    obtain ⟨ms', hlength', hsends'⟩ := ih hsends.own hrest
    refine ⟨ms ++ ms', ?_, hsends.trans hsends'⟩
    rw [← List.singleton_append, List.countP_append, List.length_append]
    exact Nat.add_le_add hlength hlength'

lemma Own.part (h : Own id s) : Own id s.part := by
  unfold Leaving.part
  split
  case h_1 p ahead _ => exact ⟨(congrArg Session.id (p.session_run s.client)).trans h.session, h.live⟩
  case h_2 => exact h

/-- Over a closed channel nothing is sent, whatever happens. -/
lemma sent_of_closed (h : Own id s) (hclosed : s.client.channel.isOpen = false)
    (acts : List (Act V)) :
    (acts.foldl step s).client.channel.sent = s.client.channel.sent := by
  induction acts generalizing s with
  | nil => rfl
  | cons a acts ih =>
    cases ha : a.isParting with
    | false =>
      obtain ⟨ms, -, hsends⟩ := Sends.step h ha
      obtain ⟨hstill, rfl⟩ := hsends.closed hclosed
      rw [List.foldl_cons, ih hsends.own hstill, hsends.sent]
      exact List.append_nil _
    | true =>
      obtain rfl : a = .part := by
        cases a <;> first | rfl | cases ha
      have hpart : s.part.client.channel.isOpen = false ∧
          s.part.client.channel.sent = s.client.channel.sent := by
        unfold Leaving.part
        split
        case h_1 p ahead _ => exact p.run_of_closed hclosed
        case h_2 => exact ⟨hclosed, rfl⟩
      exact (ih h.part hpart.1).trans hpart.2

lemma part_of_ahead {p : Client.Parting} {ahead : List Client.Parting} (h : s.ahead = p :: ahead) :
    s.part = { s with client := p.run s.client, ahead } := by
  rw [part, h]

/-- From the farewell on, what the loop sends before the channel is closed is all that is sent. -/
lemma exists_late (h : Own id s) (hahead : s.ahead = Client.Parting.all)
    (hopen : s.client.channel.isOpen = true) {between : List (Act V)}
    (hbetween : ∀ a ∈ between, a.isParting = false) (after : List (Act V)) :
    ∃ late : List Notice, (∀ m ∈ late, m.IsLive id) ∧ late.length ≤ between.countP Act.isSend ∧
      ((.part :: between ++ .part :: after).foldl step s).client.channel.sent
        = s.client.channel.sent
          ++ (Notice.farewell id s.client.room.controls.strokeTime).text
            :: late.map Notice.text := by
  have hfarewell := part_of_ahead hahead
  obtain ⟨late, hlength, hlate⟩ := exists_sends h.part hbetween
  have hclose : (between.foldl step s.part).part = _ :=
    part_of_ahead (hlate.ahead.trans (congrArg Leaving.ahead hfarewell))
  have hclosed : (between.foldl step s.part).part.client.channel.isOpen = false := by
    rw [hclose]
    rfl
  refine ⟨late, hlate.live, hlength, ?_⟩
  calc ((.part :: between ++ .part :: after).foldl step s).client.channel.sent
    _ = (after.foldl step (between.foldl step s.part).part).client.channel.sent := by
      rw [List.foldl_append]
      rfl
    _ = (between.foldl step s.part).part.client.channel.sent :=
      sent_of_closed hlate.own.part hclosed after
    _ = (between.foldl step s.part).client.channel.sent := by
      rw [hclose]
      rfl
    _ = s.part.client.channel.sent ++ late.map Notice.text := hlate.sent
    _ = s.client.channel.sent
          ++ (Notice.farewell id s.client.room.controls.strokeTime).text
            :: late.map Notice.text := by
      rw [hfarewell, Client.Parting.sent_farewell h.session hopen, List.append_assoc]
      rfl

/-- Whatever happens while a client leaves, in whatever order: if the channel is open when it says
farewell, then after the farewell the channel takes only what the loop of frames sends before the
channel is closed. Another session that receives all of it ends up with the cursor that it was told
last after the farewell, and without one if it was told none; so it does if nothing was sent in
between. -/
theorem shown_eq_last_told {c : Client V} {id : String} (hid : c.room.session.id = some id)
    (hne : id ≠ "") {before between : List (Act V)} (after : List (Act V))
    (hbefore : ∀ a ∈ before, a.isParting = false)
    (hbetween : ∀ a ∈ between, a.isParting = false)
    (hopen : (run c before).client.channel.isOpen = true) :
    let told := (run c before).client.channel.sent
    let sent := (run c (before ++ (.part :: between ++ .part :: after))).client.channel.sent
    ∃ (strokeTime : Int64) (late : List Notice),
      sent = told ++ (Notice.farewell id strokeTime).text :: late.map Notice.text ∧
        (∀ m ∈ late, m.IsLive id) ∧ late.length ≤ between.countP Act.isSend ∧
          ∀ {W : Type} [View W] (peer : Room W), peer.session.owns id = false →
            (peer.deliverAll sent).sync.cursors[id]? = (late.filterMap Notice.shown?).getLast? := by
  intro told sent
  obtain ⟨ms, -, hstart⟩ :=
    exists_sends (s := { client := c }) ⟨hid, List.forall_mem_nil _⟩ hbefore
  obtain ⟨late, hlive, hlength, hlate⟩ :=
    exists_late hstart.own hstart.ahead hopen hbetween after
  have hsent : sent = told ++ (Notice.farewell id
      (run c before).client.room.controls.strokeTime).text :: late.map Notice.text :=
    (congrArg (fun s : Leaving V => s.client.channel.sent) (run_append c before _)).trans hlate
  refine ⟨_, late, hsent, hlive, hlength, fun peer hpeer => ?_⟩
  rw [hsent]
  exact Room.cursor_after_farewell hne hpeer told _ hlive

/-- A client that has joined a room and taken over its canvas. -/
def present : Client RecordingView :=
  let joined := Client.join Stay.remote.options {} Stay.remote.view Stay.remote.server
  let room := { joined.room with session := ⟨some "me"⟩ }
  { joined with room := room.seed {} }

/-- A view in which the pointer has been moved. -/
def pointed : RecordingView := { controls := { cursor := some ⟨⟨1, 2⟩, 1⟩ } }

/-- Another session in the same room. -/
def neighbour : Room RecordingView := { scene := { view := {} }, session := ⟨some "other"⟩ }

/-- If the loop sends its notice before the farewell, the others end up without the cursor. -/
theorem shown_eq_last_told_in_time :
    (neighbour.deliverAll (run present ([.check, .look pointed, .tick, .send] ++
      (.part :: [.check] ++ .part :: [.part, .cease, .part]))).client.channel.sent
        ).sync.cursors["me"]? = none := by
  have hopen : (run present [.check, .look pointed, .tick, .send]).client.channel.isOpen = true := by
    decide +kernel
  obtain ⟨strokeTime, late, -, -, hlength, hshown⟩ :=
    shown_eq_last_told rfl (by decide) [.part, .cease, .part] (by decide)
      (by decide : ∀ a ∈ [Act.check], a.isParting = false) hopen
  obtain rfl : late = [] := List.eq_nil_of_length_eq_zero (Nat.le_zero.1 hlength)
  exact hshown neighbour rfl

/-- If the loop comes to it between the farewell and the close, the others end up with the cursor of
a session that is gone. -/
theorem not_forgotten_always :
    ¬ ∀ (c : Client RecordingView) (id : String) (before between after : List (Act RecordingView))
      (peer : Room RecordingView), c.room.session.id = some id → id ≠ "" →
        (∀ a ∈ before, a.isParting = false) → (∀ a ∈ between, a.isParting = false) →
          (run c before).client.channel.isOpen = true → peer.session.owns id = false →
            (peer.deliverAll (run c (before ++ (.part :: between ++ .part :: after))
              ).client.channel.sent).sync.cursors[id]? = none := by
  intro h
  have hopen : (run present [.check]).client.channel.isOpen = true := by decide +kernel
  have hnone := h present "me" [.check] [.look pointed, .tick, .send] [.part, .cease, .part] neighbour
    rfl (by decide) (by decide) (by decide) hopen rfl
  have hshown : (neighbour.deliverAll (run present ([.check] ++
      (.part :: [.look pointed, .tick, .send] ++ .part :: [.part, .cease, .part]))
        ).client.channel.sent).sync.cursors["me"]?.isSome = true := by decide +kernel
  rw [hnone] at hshown
  cases hshown

end Leaving

end MeshRoom
