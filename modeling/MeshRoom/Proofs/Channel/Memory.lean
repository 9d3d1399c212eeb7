import MeshRoom.Channel.Memory
import Mathlib.Data.List.Induction

/-!
# Runs of a channel in memory

Whatever is done with a channel, in whatever order, is logged with its answer. The log and the
channel together account for everything: what was accepted to be sent was taken or is still
recorded, and what was pushed was received or is still waiting, each in its order.

The first act that closes the channel decides the rest. Only what was pushed before it counts; if it
came from the other side, the listener registered last before it is told, and nobody is told
anything else.
-/

namespace MeshRoom.MemoryChannel

/-! ### Acts -/

/-- What is done with a channel, by its owner or from the other side. -/
inductive Act where
  | send (text : String)
  | push (text : String)
  | listen
  | disconnect (reason : String)
  | close
  | receive
  | takeSent
deriving DecidableEq, Repr

/-- What an act answers. -/
inductive Answer where
  | done
  | sent (result : Except ChannelError Unit)
  | received (arrival : Arrival)
  | taken (frames : List String)

/-- Whether an act closes the channel, from either side. -/
def Act.isClosing : Act → Bool
  | .disconnect _ | .close => true
  | _ => false

/-- Do something with a channel. -/
def perform (c : MemoryChannel) : Act → Answer × MemoryChannel
  | .send text =>
    match c.send text with
    | .ok c' => (.sent (.ok ()), c')
    | .error e => (.sent (.error e), c)
  | .push text => (.done, c.push text)
  | .listen => (.done, c.listen)
  | .disconnect reason => (.done, c.disconnect reason)
  | .close => (.done, c.close)
  | .receive => (.received c.receive.1, c.receive.2)
  | .takeSent => (.taken c.takeSent.1, c.takeSent.2)

/-- Acts with what they answered, in order. -/
abbrev Log := List (Act × Answer)

/-- Do one thing after the other with a new channel, and log the answers. -/
def run (acts : List Act) : Log × MemoryChannel :=
  acts.foldl (fun (log, c) a => (log ++ [(a, (c.perform a).1)], (c.perform a).2)) ([], {})

lemma run_concat (acts : List Act) (a : Act) :
    run (acts ++ [a]) = ((run acts).1 ++ [(a, ((run acts).2.perform a).1)],
      ((run acts).2.perform a).2) := by
  rw [run, List.foldl_append]
  rfl

/-! ### What a log tells -/

namespace Log

/-- The frames that were accepted to be sent. -/
def accepted (log : Log) : List String :=
  log.filterMap fun
    | (.send text, .sent (.ok ())) => some text
    | _ => none

/-- The frames that were taken from the record of what was sent. -/
def taken (log : Log) : List String :=
  log.flatMap fun
    | (_, .taken frames) => frames
    | _ => []

/-- The frames that were received. -/
def received (log : Log) : List String :=
  log.filterMap fun
    | (_, .received (.frame text)) => some text
    | _ => none

variable (log : Log) (e : Act × Answer)

lemma accepted_concat : accepted (log ++ [e]) = log.accepted ++ accepted [e] :=
  List.filterMap_append

lemma taken_concat : taken (log ++ [e]) = log.taken ++ taken [e] := List.flatMap_append

lemma received_concat : received (log ++ [e]) = log.received ++ received [e] :=
  List.filterMap_append

end Log

/-! ### What acts come to -/

/-- The first act that closes the channel. -/
def ending? (acts : List Act) : Option Act := acts.find? Act.isClosing

/-- The acts that come before the channel is closed. -/
def opening (acts : List Act) : List Act := acts.takeWhile fun a => !a.isClosing

/-- The frames that are pushed. -/
def pushed (acts : List Act) : List String :=
  acts.filterMap fun
    | .push text => some text
    | _ => none

/-- The listener that is registered last. -/
def lastListener? (acts : List Act) : Option Nat :=
  match acts.count .listen with
  | 0 => none
  | n + 1 => some n

/-- What is told of the loss of the channel, to the listener registered last before it, unless the
owner closed the channel first. -/
def loss? (acts : List Act) : Option LossNotice :=
  match ending? acts with
  | some (.disconnect reason) => (lastListener? (opening acts)).map (⟨·, reason⟩)
  | _ => none

lemma ending?_concat (acts : List Act) (a : Act) :
    ending? (acts ++ [a]) = (ending? acts).or (if a.isClosing then some a else none) := by
  rw [ending?, List.find?_append, List.find?_singleton]
  rfl

lemma opening_of_ending?_eq_none {acts : List Act} (h : ending? acts = none) :
    opening acts = acts := by
  have hopen : ∀ a ∈ acts, (!a.isClosing) = true := by
    simpa [ending?, List.find?_eq_none] using h
  calc opening acts
    _ = opening (acts ++ []) := by rw [List.append_nil]
    _ = acts ++ opening [] := List.takeWhile_append_of_pos hopen
    _ = acts := List.append_nil acts

/-- An act counts as long as the channel has not been closed and does not close it. -/
lemma opening_concat (acts : List Act) (a : Act) :
    opening (acts ++ [a])
      = opening acts ++ if (ending? acts).isNone && !a.isClosing then [a] else [] := by
  cases hending : ending? acts with
  | none =>
    have hopen : ∀ b ∈ acts, (!b.isClosing) = true := by
      simpa [ending?, List.find?_eq_none] using hending
    rw [opening, List.takeWhile_append_of_pos hopen, opening_of_ending?_eq_none hending]
    cases ha : a.isClosing <;> simp [ha]
  | some b =>
    obtain ⟨hb, before, after, rfl, hbefore⟩ := List.find?_eq_some_iff_append.1 hending
    have hshort : ∀ after, opening (before ++ b :: after) = before := by
      intro after
      rw [opening, List.takeWhile_append_of_pos hbefore, List.takeWhile_cons_of_neg (by simp [hb]),
        List.append_nil]
    simp [hshort, List.append_assoc]

/-- Nothing done with a closed channel is its first closing. -/
lemma ending?_append {acts : List Act} (h : ending? acts ≠ none) (more : List Act) :
    ending? (acts ++ more) = ending? acts := by
  rw [ending?, List.find?_append, ← ending?, Option.or_of_isSome (Option.isSome_iff_ne_none.2 h)]

/-- Once the channel is closed, nothing that is done counts. -/
lemma opening_append {acts : List Act} (h : ending? acts ≠ none) (more : List Act) :
    opening (acts ++ more) = opening acts := by
  induction more using List.reverseRecOn with
  | nil => rw [List.append_nil]
  | append_singleton more a ih =>
    have hclosed : (ending? (acts ++ more)).isNone = false := by
      rw [ending?_append h, Option.isNone_eq_false_iff]
      exact Option.isSome_iff_ne_none.2 h
    rw [← List.append_assoc, opening_concat, ih, hclosed, Bool.false_and,
      if_neg Bool.false_ne_true, List.append_nil]

lemma pushed_append (acts more : List Act) : pushed (acts ++ more) = pushed acts ++ pushed more :=
  List.filterMap_append

lemma lastListener?_concat (acts : List Act) (a : Act) :
    lastListener? (acts ++ [a])
      = if a = .listen then some (acts.count .listen) else lastListener? acts := by
  rw [lastListener?, lastListener?, List.count_append]
  split_ifs with h
  · rw [h]; rfl
  · rw [List.count_singleton, if_neg (by simpa using h)]; rfl

/-- Only the act that closes the channel tells a loss. -/
lemma loss?_concat (acts : List Act) (a : Act) :
    loss? (acts ++ [a]) = match ending? acts, a with
      | none, .disconnect reason => (lastListener? acts).map (⟨·, reason⟩)
      | _, _ => loss? acts := by
  cases hending : ending? acts with
  | some b =>
    have hne : ending? acts ≠ none := by rw [hending]; exact Option.some_ne_none b
    rw [loss?, ending?_append hne, opening_append hne, ← loss?]
  | none =>
    rw [loss?, loss?, ending?_concat, opening_concat, hending, opening_of_ending?_eq_none hending]
    cases a <;> simp [Act.isClosing]

/-! ### One act -/

variable (c : MemoryChannel) (a : Act)

/-- A channel stays open until an act closes it. -/
@[simp]
lemma isOpen_perform : (c.perform a).2.isOpen = (c.isOpen && !a.isClosing) := by
  cases a with
  | send | push | disconnect =>
    cases h : c.isOpen <;> simp [perform, send, push, disconnect, Act.isClosing, h]
  | receive => cases h : c.inbound <;> simp [perform, receive, Act.isClosing, h]
  | listen | close | takeSent => simp [perform, listen, close, takeSent, Act.isClosing]

/-- What an act takes and leaves is what was there and what it had accepted. -/
lemma taken_append_sent_perform :
    Log.taken [(a, (c.perform a).1)] ++ (c.perform a).2.sent
      = c.sent ++ Log.accepted [(a, (c.perform a).1)] := by
  cases a with
  | send | push | disconnect =>
    cases h : c.isOpen <;> simp [perform, send, push, disconnect, Log.taken, Log.accepted, h]
  | receive => cases h : c.inbound <;> simp [perform, receive, Log.taken, Log.accepted, h]
  | listen | close | takeSent => simp [perform, listen, close, takeSent, Log.taken, Log.accepted]

/-- What an act receives and leaves waiting is what was waiting and what it pushed, if the channel
is open. -/
lemma received_append_inbound_perform :
    Log.received [(a, (c.perform a).1)] ++ (c.perform a).2.inbound
      = c.inbound ++ if c.isOpen then pushed [a] else [] := by
  cases a with
  | send | push | disconnect =>
    cases h : c.isOpen <;> simp [perform, send, push, disconnect, Log.received, pushed, h]
  | receive =>
    cases h : c.inbound with
    | nil => cases ho : c.isOpen <;> simp [perform, receive, Log.received, pushed, h, ho]
    | cons text rest => simp [perform, receive, Log.received, pushed, h]
  | listen | close | takeSent => simp [perform, listen, close, takeSent, Log.received, pushed]

/-- Listeners are numbered in the order they are registered. -/
lemma listeners_perform : (c.perform a).2.listeners = c.listeners + [a].count .listen := by
  cases a with
  | send | push | disconnect =>
    cases h : c.isOpen <;> simp [perform, send, push, disconnect, h]
  | receive => cases h : c.inbound <;> simp [perform, receive, h]
  | listen | close | takeSent => simp [perform, listen, close, takeSent]

/-- As long as the channel is open, the listener is the one registered last. -/
lemma listener_perform (h : (c.perform a).2.isOpen = true) :
    (c.perform a).2.listener = if a = .listen then some c.listeners else c.listener := by
  cases a with
  | send | push => cases ho : c.isOpen <;> simp [perform, send, push, ho]
  | receive => cases hi : c.inbound <;> simp [perform, receive, hi]
  | disconnect | close => simp [Act.isClosing] at h
  | listen | takeSent => simp [perform, listen, takeSent]

/-- Only a disconnect of an open channel tells a loss. -/
lemma losses_perform :
    (c.perform a).2.losses = c.losses ++
      match a with
      | .disconnect reason => if c.isOpen then (c.listener.map (⟨·, reason⟩)).toList else []
      | _ => [] := by
  cases a with
  | send | push | disconnect =>
    cases h : c.isOpen <;> simp [perform, send, push, disconnect, h]
  | receive => cases h : c.inbound <;> simp [perform, receive, h]
  | listen | close | takeSent => simp [perform, listen, close, takeSent]

/-- Only the owner of an open channel closes it gracefully. -/
lemma gracefully_perform :
    (c.perform a).2.gracefully = (c.gracefully || (c.isOpen && a == .close)) := by
  cases a with
  | send | push | disconnect =>
    cases h : c.isOpen <;> simp [perform, send, push, disconnect, h]
  | receive => cases h : c.inbound <;> simp [perform, receive, h]
  | listen | close | takeSent => simp [perform, listen, close, takeSent]

/-! ### One act after the other -/

variable (acts : List Act)

lemma isOpen_run : (run acts).2.isOpen = (ending? acts).isNone := by
  induction acts using List.reverseRecOn with
  | nil => rfl
  | append_singleton acts a ih =>
    rw [run_concat, isOpen_perform, ih, ending?_concat]
    cases ending? acts <;> cases a.isClosing <;> rfl

lemma taken_append_sent_run : (run acts).1.taken ++ (run acts).2.sent = (run acts).1.accepted := by
  induction acts using List.reverseRecOn with
  | nil => rfl
  | append_singleton acts a ih =>
    rw [run_concat, Log.taken_concat, Log.accepted_concat, List.append_assoc,
      taken_append_sent_perform, ← List.append_assoc, ih]

lemma received_append_inbound_run :
    (run acts).1.received ++ (run acts).2.inbound = pushed (opening acts) := by
  induction acts using List.reverseRecOn with
  | nil => rfl
  | append_singleton acts a ih =>
    rw [run_concat, Log.received_concat, List.append_assoc, received_append_inbound_perform,
      ← List.append_assoc, ih, isOpen_run, opening_concat, pushed_append]
    cases (ending? acts).isNone with
    | false => rfl
    | true => cases a <;> rfl

lemma listeners_run : (run acts).2.listeners = acts.count .listen := by
  induction acts using List.reverseRecOn with
  | nil => rfl
  | append_singleton acts a ih => rw [run_concat, listeners_perform, ih, List.count_append]

/-- As long as the channel is open, it is the listener registered last that would be told. -/
lemma listener_run (h : (run acts).2.isOpen = true) :
    (run acts).2.listener = lastListener? acts := by
  induction acts using List.reverseRecOn with
  | nil => rfl
  | append_singleton acts a ih =>
    rw [run_concat] at h ⊢
    have hbefore : (run acts).2.isOpen = true := by
      rw [isOpen_perform, Bool.and_eq_true] at h
      exact h.1
    rw [listener_perform _ _ h, ih hbefore, listeners_run, lastListener?_concat]

lemma losses_run : (run acts).2.losses = (loss? acts).toList := by
  induction acts using List.reverseRecOn with
  | nil => rfl
  | append_singleton acts a ih =>
    rw [run_concat, losses_perform, ih, loss?_concat, isOpen_run]
    cases hending : ending? acts with
    | some b => cases a <;> simp
    | none =>
      -- the channel is still open, so that its listener is the last one and nothing was told yet
      have hloss : loss? acts = none := by rw [loss?, hending]
      have hopen : (run acts).2.isOpen = true := by rw [isOpen_run, hending]; rfl
      rw [listener_run acts hopen, hloss]
      cases a <;> rfl

lemma gracefully_run : (run acts).2.gracefully = true ↔ ending? acts = some .close := by
  induction acts using List.reverseRecOn with
  | nil => simp [run, ending?]
  | append_singleton acts a ih =>
    rw [run_concat, gracefully_perform, Bool.or_eq_true, ih, isOpen_run, ending?_concat]
    cases ending? acts with
    | some b => simp
    | none => cases a <;> simp [Act.isClosing]

/-- The log of a run and the channel it leaves account for everything that was done. The channel is
open until the first act that closes it, which decides for good what counts as pushed, and only an
open channel accepts a frame. What was accepted was taken or is still recorded. The frames received
are the first ones that counted as pushed; the next one is the next to be received, and after the
last nothing comes of a closed channel. A loss is told at most once, to the listener registered
last, and only where the owner did not close the channel first, which is when it ends gracefully. -/
theorem run_accounted_for (text : String) (more : List Act) :
    ((run acts).2.isOpen = (ending? acts).isNone
      ∧ ((run acts).2.isOpen = false →
          (run (acts ++ more)).2.isOpen = false ∧ opening (acts ++ more) = opening acts)
      ∧ ((run acts).2.perform (.send text)).1
          = .sent (if (run acts).2.isOpen then .ok () else .error .notConnected))
    ∧ (run acts).1.taken ++ (run acts).2.sent = (run acts).1.accepted
    ∧ ((run acts).1.received <+: pushed (opening acts)
      ∧ ((run acts).2.perform .receive).1
          = .received (match (pushed (opening acts))[(run acts).1.received.length]? with
            | some next => .frame next
            | none => if (run acts).2.isOpen then .pending else .ended))
    ∧ (run acts).2.losses = (loss? acts).toList
    ∧ ((run acts).2.gracefully = true ↔ ending? acts = some .close) := by
  refine ⟨⟨isOpen_run acts, fun hclosed => ?_, ?_⟩, taken_append_sent_run acts, ⟨?_, ?_⟩,
    losses_run acts, gracefully_run acts⟩
  · have hending : ending? acts ≠ none := by
      intro hnone
      rw [isOpen_run, hnone] at hclosed
      exact absurd hclosed (by decide)
    exact ⟨by rw [isOpen_run, ending?_append hending, ← isOpen_run, hclosed],
      opening_append hending more⟩
  · cases h : (run acts).2.isOpen <;> simp [perform, send, h]
  · exact ⟨_, received_append_inbound_run acts⟩
  · rw [← received_append_inbound_run, List.getElem?_append_right (Nat.le_refl _), Nat.sub_self]
    cases h : (run acts).2.inbound <;> simp [perform, receive, h]

/-- A frame that was pushed before the other side closed the channel is still received, and nothing
after it; the loss is told once, although the channel is dropped again. -/
theorem run_accounted_for_lost :
    let acts : List Act :=
      [.listen, .push "queued", .disconnect "server gone", .disconnect "again", .receive]
    (run acts).1.received = ["queued"] ∧
      ((run acts).2.perform .receive).1 = .received .ended ∧
        (run acts).2.losses = [⟨0, "server gone"⟩] ∧
          (run (acts ++ [.listen, .push "late"])).2.isOpen = false := by
  intro acts
  obtain ⟨⟨-, hclosed, -⟩, -, ⟨-, hnext⟩, hlosses, -⟩ :=
    run_accounted_for acts "" [.listen, .push "late"]
  exact ⟨rfl, hnext, hlosses, (hclosed rfl).1⟩

end MeshRoom.MemoryChannel
