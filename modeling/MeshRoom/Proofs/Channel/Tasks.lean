import MeshRoom.Channel.Socket
import Mathlib.Tactic.Lemma

/-!
# The tasks of a socket

The owner of a socket, its writer and its reader run side by side, and each may come between any two
steps of another. So they are taken apart here as far as they touch what they share. A send looks
whether the channel is open before it queues its frame. The reader that comes upon an ending marks
the channel closed before it tells the listener, and then has the writer stopped, who may not stop
at once. Closing detaches the listener, marks the channel closed, queues the last frame and waits
for it, and then has the reader cancelled, who may not stop at once either.

Done without interruption, these steps are the operations of the socket.
-/

namespace MeshRoom

/-! ### Sending and writing -/

namespace Socket

lemma send_of_closed {s : Socket} (h : s.isOpen = false) (text : String) :
    s.send text = .error .notConnected := by
  simp [send, h]

lemma writeMany_of_write?_eq_none {s : Socket} (h : s.write? = none) (n : Nat) :
    s.writeMany n = s := by
  cases n <;> simp [writeMany, h]

/-- The writer that comes to the last frame stops. -/
lemma writing_writeMany {n : Nat} {s : Socket} (hn : s.queue.length ≤ n) (h : .close ∈ s.queue) :
    (s.writeMany n).writing = false := by
  induction n generalizing s with
  | zero =>
    rw [List.eq_nil_of_length_eq_zero (Nat.le_zero.1 hn)] at h
    cases h
  | succ n ih =>
    cases hwriting : s.writing with
    | false =>
      have hnone : s.write? = none := by simp [write?, hwriting]
      rw [writeMany_of_write?_eq_none hnone, hwriting]
    | true =>
      obtain ⟨frame, queue, hqueue⟩ := List.exists_cons_of_ne_nil (List.ne_nil_of_mem h)
      rw [hqueue] at h hn
      have hwrite : s.write? = some
          { s with queue, written := s.written ++ [frame], writing := frame ≠ .close } := by
        simp [write?, hwriting, hqueue]
      simp only [writeMany, hwrite]
      by_cases hlast : frame = .close
      · rw [writeMany_of_write?_eq_none] <;> simp [write?, hlast]
      · exact ih (Nat.le_of_succ_le_succ hn) ((List.mem_cons.1 h).resolve_left (Ne.symm hlast))

end Socket

/-! ### Where the tasks are -/

/-- Where the reader is: it reads; or it has come upon an ending, and has to mark the channel
closed, to tell the listener, and to have the writer stopped, until it has ended. While it reads, it
may be cancelled. -/
inductive Reader where
  | reading
  | marking (reason : String)
  | telling (reason : String)
  | finishing
  | ended
  | cancelled
deriving DecidableEq, Repr

/-- Where the owner is in closing: it has not begun; it has to detach the listener, to mark the
channel closed, to queue the last frame, to wait for it, and to have the reader cancelled; or it is
done. -/
inductive Closer where
  | idle
  | detaching
  | marking
  | queueing
  | waiting
  | cancelling
  | done
deriving DecidableEq, Repr

/-- A socket with its tasks under way. `sending` are the frames of the sends that have found the
channel open and have not queued them yet, `accepted` the ones whose sends were answered well, and
`received` the texts that the owner has received. -/
structure Traffic where
  socket : Socket := {}
  reader : Reader := .reading
  closer : Closer := .idle
  sending : List String := []
  accepted : List String := []
  received : List String := []

namespace Traffic

/-- What may happen. The owner sends, in two steps; receives; registers a listener; and closes, in
several steps, of which waiting may be given up. The writer writes, fails to write, or stops because
it was asked to. Frames arrive; the reader does its next step, or is cancelled because it was asked
to be. -/
inductive Act where
  | check (text : String)
  | enqueue (text : String)
  | receive
  | listen
  | close
  | proceed
  | giveUp
  | write
  | failWrite (reason : String)
  | stopWriter
  | arrive (frame : Incoming)
  | read
  | cancel
deriving DecidableEq

/-! ### Steps -/

/-- Queue the frame of a send that found the channel open. It is lost if the writer has stopped. -/
def enqueue (text : String) (t : Traffic) : Traffic :=
  if text ∈ t.sending then
    let sending := t.sending.erase text
    if t.socket.writing then
      { t with
        socket := { t.socket with queue := t.socket.queue ++ [.text text] }
        sending
        accepted := t.accepted ++ [text] }
    else { t with sending }
  else t

/-- Take the next text that was received. -/
def receive (t : Traffic) : Traffic :=
  match t.socket.receive with
  | (.frame text, socket) => { t with socket, received := t.received ++ [text] }
  | _ => t

/-- The next step of closing. -/
def proceed (t : Traffic) : Traffic :=
  match t.closer with
  | .idle | .done => t
  | .detaching => { t with socket := { t.socket with listener := none }, closer := .marking }
  | .marking =>
    { t with
      socket := { t.socket with isOpen := false }
      closer := if t.socket.isOpen then .queueing else .cancelling }
  | .queueing =>
    if t.socket.writing then
      { t with socket := { t.socket with queue := t.socket.queue ++ [.close] }, closer := .waiting }
    else { t with closer := .cancelling }
  | .waiting => if t.socket.writing then t else { t with closer := .cancelling }
  | .cancelling => { t with closer := .done }

/-- The next step of the reader. -/
def read (t : Traffic) : Traffic :=
  match t.reader with
  | .reading =>
    match t.socket.arriving with
    | [] => t
    | frame :: arriving =>
      let socket := { t.socket with arriving }
      match frame.effect with
      | .receive text => { t with socket := { socket with inbound := socket.inbound ++ [text] } }
      | .skip => { t with socket }
      | .stop reason => { t with socket, reader := .marking reason }
  | .marking reason =>
    { t with
      socket := { t.socket with isOpen := false }
      reader := if t.socket.isOpen then .telling reason else .finishing }
  | .telling reason =>
    { t with
      socket :=
        { t.socket with
          listener := none
          losses := t.socket.losses ++ (t.socket.listener.map (⟨·, reason⟩)).toList }
      reader := .finishing }
  | .finishing => { t with socket := { t.socket with reading := false }, reader := .ended }
  | .ended | .cancelled => t

/-- One act, or nothing, if it cannot be done now. -/
def step (t : Traffic) : Act → Traffic
  | .check text => if t.socket.isOpen then { t with sending := t.sending ++ [text] } else t
  | .enqueue text => t.enqueue text
  | .receive => t.receive
  | .listen => { t with socket := t.socket.listen }
  | .close => if t.closer = .idle then { t with closer := .detaching } else t
  | .proceed => t.proceed
  | .giveUp => if t.closer = .waiting then { t with closer := .cancelling } else t
  | .write => { t with socket := t.socket.write?.getD t.socket }
  | .failWrite reason => { t with socket := (t.socket.failWrite? reason).getD t.socket }
  | .stopWriter =>
    if t.reader = .finishing ∨ t.reader = .ended then
      { t with socket := { t.socket with writing := false } }
    else t
  | .arrive frame => { t with socket := t.socket.arrive frame }
  | .read => t.read
  | .cancel =>
    if t.closer = .done ∧ t.reader = .reading then
      { t with socket := { t.socket with reading := false }, reader := .cancelled }
    else t

/-- What has come of acts, from the moment the socket is connected. -/
def run (acts : List Act) : Traffic := acts.foldl step {}

lemma run_append (acts more : List Act) : run (acts ++ more) = more.foldl step (run acts) :=
  List.foldl_append

lemma run_concat (acts : List Act) (a : Act) : run (acts ++ [a]) = (run acts).step a :=
  run_append acts [a]

/-- To receive moves one text from what may be received to what was, or does nothing. -/
lemma exists_receive_eq (t : Traffic) :
    ∃ inbound received,
      t.receive = { t with socket := { t.socket with inbound }, received } ∧
        received ++ inbound = t.received ++ t.socket.inbound := by
  cases hinbound : t.socket.inbound with
  | nil =>
    have hnothing : t.receive = t := by
      cases hreading : t.socket.reading <;> simp [receive, Socket.receive, hinbound, hreading]
    exact ⟨t.socket.inbound, t.received, hnothing, by rw [hinbound]⟩
  | cons text inbound =>
    refine ⟨inbound, t.received ++ [text], ?_, by simp⟩
    simp [receive, Socket.receive, hinbound]

/-! ### The operations of a socket -/

variable (s : Socket)

/-- A send is to look and then to queue. -/
theorem socket_send (text : String) :
    ([.check text, .enqueue text].foldl step { socket := s }).socket
      = match s.send text with
        | .ok s' => s'
        | .error _ => s := by
  cases hopen : s.isOpen <;> cases hwriting : s.writing <;>
    simp [step, enqueue, Socket.send, hopen, hwriting]

/-- To read a frame is to do all that the reader does about it. -/
theorem exists_socket_read? {s' : Socket} (hs : s.read? = some s') :
    ∃ acts : List Act, (acts.foldl step { socket := s }).socket = s' := by
  unfold Socket.read? at hs
  split at hs
  case h_2 => cases hs
  case h_1 frame arriving _ harriving =>
    dsimp only at hs
    split at hs
    case h_1 text heffect =>
      obtain rfl := Option.some.inj hs
      exact ⟨[.read], by simp [step, read, harriving, heffect]⟩
    case h_2 heffect =>
      obtain rfl := Option.some.inj hs
      exact ⟨[.read], by simp [step, read, harriving, heffect]⟩
    case h_3 reason heffect =>
      obtain rfl := Option.some.inj hs
      refine ⟨[.read, .read, .read, .read, .stopWriter], ?_⟩
      cases hopen : s.isOpen <;> simp [step, read, harriving, heffect, hopen, Socket.lose]

lemma foldl_write (n : Nat) (t : Traffic) :
    (List.replicate n .write).foldl step t = { t with socket := t.socket.writeMany n } := by
  induction n generalizing t with
  | zero => rfl
  | succ n ih =>
    rw [List.replicate_succ, List.foldl_cons, ih]
    cases hwrite : t.socket.write? with
    | some socket => simp [step, Socket.writeMany, hwrite]
    | none => simp [step, Socket.writeMany, hwrite, Socket.writeMany_of_write?_eq_none]

/-- To close is to do the steps of closing, the writer writing in between, and to have the reader
stop at once. -/
theorem exists_socket_close :
    ∃ acts : List Act, (acts.foldl step { socket := s }).socket = s.close := by
  let n := s.beginClose.queue.length
  have hflush : s.beginClose.flush = s.beginClose.writeMany n := rfl
  refine ⟨[.close, .proceed, .proceed, .proceed] ++ List.replicate n .write ++
    [.proceed, .proceed, .cancel], ?_⟩
  rw [List.foldl_append, List.foldl_append, foldl_write, Socket.close, hflush]
  cases hopen : s.isOpen with
  | false => simp [step, proceed, Socket.beginClose, Socket.finishClose, hopen]
  | true =>
    cases hwriting : s.writing with
    | false => simp [step, proceed, Socket.beginClose, Socket.finishClose, hopen, hwriting]
    | true =>
      have hwritten : (s.beginClose.writeMany n).writing = false :=
        Socket.writing_writeMany (Nat.le_refl n) (by simp [Socket.beginClose, hopen, hwriting])
      simp only [Socket.beginClose, hopen, hwriting, Bool.and_self, if_true] at hwritten ⊢
      simp [step, proceed, Socket.finishClose, hopen, hwriting, hwritten]

end Traffic

end MeshRoom
