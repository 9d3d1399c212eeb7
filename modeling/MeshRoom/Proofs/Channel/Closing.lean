import MeshRoom.Proofs.Channel.Endings
import MeshRoom.Proofs.Channel.Tasks
import Mathlib.Tactic.ByContra

/-!
# Closing a socket

When the owner of a socket closes it, everything that it has sent goes out first, and then one last
frame. Who is told nothing of the end is the listener, since it is detached before the channel is
marked closed, and the reader, who finds it marked, tells nobody. For this the other side has to let
the last frame be written before it ends the stream, the writer has to succeed, the owner has to
wait for it, and must not send meanwhile; the tasks may come between each other's steps as they
like.
-/

namespace MeshRoom

namespace Closer

/-- Whether the owner has still to mark the channel closed. -/
def isEarly : Closer → Bool
  | .idle | .detaching | .marking => true
  | _ => false

/-- What closing has put behind the frames of the sends. -/
def lastFrame : Closer → List Outgoing
  | .waiting | .cancelling | .done => [.close]
  | _ => []

end Closer

namespace Traffic

/-- Whether an act is in order: the owner does not send while it closes, nor close while it sends,
and waits for the last frame; writing succeeds; and what ends the stream arrives behind the last
frame. -/
def Act.isOrderly (t : Traffic) : Act → Bool
  | .check _ => t.closer = .idle ∨ t.closer = .done
  | .close => t.sending = []
  | .arrive frame => frame.isEnding → .close ∈ t.socket.written
  | .giveUp | .failWrite _ => false
  | _ => true

/-- Whether acts are in order, one after the other. -/
def areOrderly (t : Traffic) : List Act → Bool
  | [] => true
  | a :: acts => a.isOrderly t && (t.step a).areOrderly acts

lemma areOrderly_append (t : Traffic) (acts more : List Act) :
    t.areOrderly (acts ++ more) = (t.areOrderly acts && (acts.foldl step t).areOrderly more) := by
  induction acts generalizing t with
  | nil => rfl
  | cons a acts ih => simp [areOrderly, ih, Bool.and_assoc]

/-! ### What stays in order -/

/-- What holds as long as all is in order: what is written and what is queued are the frames of the
sends and then the last frame, and before that is written the reader comes upon no ending. -/
structure InOrder (t : Traffic) : Prop where
  flow : t.socket.written ++ t.socket.queue = t.accepted.map .text ++ t.closer.lastFrame
  isOpen : t.socket.isOpen = t.closer.isEarly
  writing : t.socket.writing = true ↔ .close ∉ t.socket.written
  losses : t.socket.losses = []
  reading : .close ∉ t.socket.written →
    t.reader = .reading ∧ ∀ frame ∈ t.socket.arriving, frame.isEnding = false
  quiet : ∀ reason, t.reader ≠ .telling reason
  flushed : t.closer = .cancelling ∨ t.closer = .done → .close ∈ t.socket.written
  sending : t.closer ≠ .idle → t.sending = []

lemma close_notMem_map (texts : List String) : Outgoing.close ∉ texts.map .text := by
  simp

namespace InOrder

variable {t : Traffic}

lemma close_notMem (h : t.InOrder) (hlast : t.closer.lastFrame = []) :
    .close ∉ t.socket.written ∧ .close ∉ t.socket.queue := by
  have hflow := h.flow
  rw [hlast, List.append_nil] at hflow
  rw [← not_or, ← List.mem_append, hflow]
  exact close_notMem_map t.accepted

/-- Once the last frame is written, everything is. -/
lemma of_close_mem (h : t.InOrder) (hclose : .close ∈ t.socket.written) :
    t.socket.written = t.accepted.map .text ++ [.close] ∧ t.socket.queue = [] ∧
      t.closer.isEarly = false := by
  have hlast : t.closer.lastFrame = [.close] ∧ t.closer.isEarly = false := by
    cases hcloser : t.closer with
    -- before the last frame is queued, only frames of the sends are written
    | idle | detaching | marking | queueing =>
      exact absurd hclose (h.close_notMem (by rw [hcloser]; rfl)).1
    | waiting | cancelling | done => exact ⟨rfl, rfl⟩
  have hflow := h.flow
  rw [hlast.1] at hflow
  -- a frame behind the last one would leave the last one among the frames of the sends
  have hqueue : t.socket.queue = [] := by
    rcases List.eq_nil_or_concat t.socket.queue with hnil | ⟨queue, frame, hqueue⟩
    · exact hnil
    · rw [hqueue, List.concat_eq_append, ← List.append_assoc] at hflow
      have hsent := (List.append_inj' hflow rfl).1
      have hmem : .close ∈ t.socket.written ++ queue := List.mem_append_left _ hclose
      rw [hsent] at hmem
      exact absurd hmem (close_notMem_map t.accepted)
  rw [hqueue, List.append_nil] at hflow
  exact ⟨hflow, hqueue, hlast.2⟩

/-- Only once the last frame is written does the reader do anything but read. -/
lemma close_mem_of_reader (h : t.InOrder) (hreader : t.reader ≠ .reading) :
    .close ∈ t.socket.written := by
  by_contra hclose
  exact hreader (h.reading hclose).1

lemma start : InOrder {} where
  flow := rfl
  isOpen := rfl
  writing := by simp
  losses := rfl
  reading := by simp
  quiet := by simp
  flushed := by simp
  sending := by simp

lemma enqueue (h : t.InOrder) (text : String) : (t.enqueue text).InOrder := by
  unfold Traffic.enqueue
  split
  case isFalse => exact h
  case isTrue hsending =>
    have hidle : t.closer = .idle := by
      by_contra hcloser
      rw [h.sending hcloser] at hsending
      cases hsending
    have hlast : t.closer.lastFrame = [] := by rw [hidle]; rfl
    have hwriting : t.socket.writing = true := h.writing.2 (h.close_notMem hlast).1
    dsimp only
    rw [if_pos hwriting]
    refine { h with flow := ?_, sending := fun hcloser => absurd hidle hcloser }
    have hflow := h.flow
    rw [hlast, List.append_nil] at hflow ⊢
    rw [← List.append_assoc, hflow, List.map_append]
    rfl

lemma receive (h : t.InOrder) : t.receive.InOrder := by
  obtain ⟨inbound, received, hreceive, -⟩ := t.exists_receive_eq
  rw [hreceive]
  exact { h with }

lemma proceed (h : t.InOrder) : t.proceed.InOrder := by
  obtain ⟨s, reader, closer, sending, accepted, received⟩ := t
  cases closer with
  | idle | done => exact h
  | detaching =>
    simp only [Traffic.proceed]
    exact { h with flushed := by simp, sending := fun _ => h.sending (by simp) }
  | marking =>
    have hopen : s.isOpen = true := h.isOpen
    unfold Traffic.proceed
    dsimp only
    rw [if_pos hopen]
    exact { h with isOpen := rfl, flushed := by simp, sending := fun _ => h.sending (by simp) }
  | queueing =>
    have hwriting : s.writing = true := h.writing.2 (h.close_notMem rfl).1
    unfold Traffic.proceed
    dsimp only
    rw [if_pos hwriting]
    refine { h with flow := ?_, flushed := by simp, sending := fun _ => h.sending (by simp) }
    have hflow := h.flow
    simp only [Closer.lastFrame, List.append_nil] at hflow ⊢
    rw [← List.append_assoc, hflow]
  | waiting =>
    simp only [Traffic.proceed]
    split
    case isTrue => exact h
    case isFalse hstopped =>
      have hclose : .close ∈ s.written := by
        by_contra hclose
        exact hstopped (h.writing.2 hclose)
      exact { h with flushed := fun _ => hclose, sending := fun _ => h.sending (by simp) }
  | cancelling =>
    exact { h with
      flushed := fun _ => h.flushed (.inl rfl)
      sending := fun _ => h.sending (by simp) }

lemma write (h : t.InOrder) : (t.step .write).InOrder := by
  rw [Traffic.step, Socket.write?]
  split
  case h_2 => exact h
  case h_1 frame queue hwriting hqueue =>
    have hclose : .close ∉ t.socket.written := h.writing.1 hwriting
    refine { h with flow := ?_, writing := ?_, reading := ?_, flushed := ?_ }
    · have hflow := h.flow
      rw [hqueue] at hflow
      rw [Option.getD_some, List.append_assoc, List.singleton_append, hflow]
    · dsimp only [Option.getD_some]
      rw [decide_eq_true_eq, List.mem_append, List.mem_singleton, not_or]
      exact ⟨fun hne => ⟨hclose, Ne.symm hne⟩, fun hnot => Ne.symm hnot.2⟩
    · intro _
      exact h.reading hclose
    · intro hcloser
      exact absurd (h.flushed hcloser) hclose

lemma read (h : t.InOrder) : t.read.InOrder := by
  unfold Traffic.read
  split
  case h_1 hreading =>
    split
    case h_1 => exact h
    case h_2 frame arriving harriving =>
      have hrest : .close ∉ t.socket.written →
          frame.isEnding = false ∧ ∀ f ∈ arriving, f.isEnding = false := by
        intro hclose
        have harrived := (h.reading hclose).2
        rw [harriving] at harrived
        exact List.forall_mem_cons.1 harrived
      dsimp only
      split
      case h_1 | h_2 => exact { h with reading := fun hclose => ⟨hreading, (hrest hclose).2⟩ }
      case h_3 reason heffect =>
        refine { h with reading := fun hclose => ?_, quiet := by simp }
        have hgo := Incoming.effect_of_not_isEnding (hrest hclose).1
        rw [heffect] at hgo
        split at hgo <;> cases hgo
  case h_2 reason hmarking =>
    have hclose := h.close_mem_of_reader (by simp [hmarking])
    have hclosed : t.socket.isOpen = false := h.isOpen.trans (h.of_close_mem hclose).2.2
    -- the owner has marked the channel closed before, so nobody is told
    rw [hclosed, if_neg Bool.false_ne_true]
    exact { h with
      isOpen := hclosed.symm.trans h.isOpen
      reading := fun hnot => absurd hclose hnot
      quiet := by simp }
  case h_3 reason htelling => exact absurd htelling (h.quiet reason)
  case h_4 hfinishing =>
    have hclose := h.close_mem_of_reader (by simp [hfinishing])
    exact { h with reading := fun hnot => absurd hclose hnot, quiet := by simp }
  case h_5 | h_6 => exact h

lemma step (h : t.InOrder) {a : Act} (ha : a.isOrderly t = true) : (t.step a).InOrder := by
  cases a with
  | check text =>
    simp only [Traffic.step]
    split
    case isFalse => exact h
    case isTrue hopen =>
      refine { h with sending := fun hcloser => ?_ }
      have hdone : t.closer = .done := by simpa [Act.isOrderly, hcloser] using ha
      rw [h.isOpen, hdone] at hopen
      cases hopen
  | enqueue text => exact h.enqueue text
  | receive => exact h.receive
  | listen => exact { h with }
  | close =>
    simp only [Traffic.step]
    split
    case isFalse => exact h
    case isTrue hidle =>
      have hnone : t.sending = [] := by simpa [Act.isOrderly] using ha
      refine { h with flow := ?_, isOpen := ?_, flushed := by simp, sending := fun _ => hnone }
      · rw [h.flow, hidle]
        rfl
      · rw [h.isOpen, hidle]
        rfl
  | proceed => exact h.proceed
  | giveUp | failWrite => cases ha
  | write => exact h.write
  | stopWriter =>
    simp only [Traffic.step]
    split
    case isFalse => exact h
    case isTrue hreader =>
      have hclose := h.close_mem_of_reader (by rintro hreading; simp [hreading] at hreader)
      exact { h with writing := by simp [hclose] }
  | arrive frame =>
    have hframe : frame.isEnding = false ∨ .close ∈ t.socket.written := by
      simpa [Act.isOrderly] using ha
    refine { h with reading := fun hclose => ⟨(h.reading hclose).1, ?_⟩ }
    intro f hf
    rcases List.mem_append.1 hf with hf | hf
    · exact (h.reading hclose).2 f hf
    · obtain rfl := List.mem_singleton.1 hf
      exact hframe.resolve_right hclose
  | read => exact h.read
  | cancel =>
    simp only [Traffic.step]
    split
    case isFalse => exact h
    case isTrue hdone =>
      have hclose := h.flushed (.inr hdone.1)
      exact { h with reading := fun hnot => absurd hclose hnot, quiet := by simp }

lemma foldl (h : t.InOrder) {acts : List Act} (hacts : t.areOrderly acts = true) :
    (acts.foldl Traffic.step t).InOrder := by
  induction acts generalizing t with
  | nil => exact h
  | cons a acts ih =>
    rw [areOrderly, Bool.and_eq_true] at hacts
    exact ih (h.step hacts.1) hacts.2

end InOrder

/-! ### Once closing has begun -/

variable {t : Traffic}

lemma proceed_of_begun (hbegun : t.closer ≠ .idle) :
    t.proceed.closer ≠ .idle ∧ t.proceed.accepted = t.accepted := by
  unfold proceed
  split
  case h_1 | h_2 => exact ⟨hbegun, rfl⟩
  case h_3 | h_7 => exact ⟨by simp, rfl⟩
  case h_4 =>
    dsimp only
    split <;> exact ⟨by simp, rfl⟩
  case h_5 => split <;> exact ⟨by simp, rfl⟩
  case h_6 =>
    split
    · exact ⟨hbegun, rfl⟩
    · exact ⟨by simp, rfl⟩

lemma read_closer : t.read.closer = t.closer ∧ t.read.accepted = t.accepted := by
  unfold read
  split
  case h_1 =>
    split
    · exact ⟨rfl, rfl⟩
    · dsimp only
      split <;> exact ⟨rfl, rfl⟩
  all_goals exact ⟨rfl, rfl⟩

/-- Closing that has begun does not begin again, and no send is answered well any more. -/
lemma step_of_begun (hbegun : t.closer ≠ .idle) (hsending : t.sending = []) (a : Act) :
    (t.step a).closer ≠ .idle ∧ (t.step a).accepted = t.accepted := by
  cases a with
  | check | stopWriter | cancel =>
    simp only [step]
    split <;> exact ⟨hbegun, rfl⟩
  | enqueue => simp [step, enqueue, hsending, hbegun]
  | receive =>
    obtain ⟨inbound, received, hreceive, -⟩ := t.exists_receive_eq
    rw [step, hreceive]
    exact ⟨hbegun, rfl⟩
  | listen | write | failWrite | arrive => exact ⟨hbegun, rfl⟩
  | close => simp [step, hbegun]
  | giveUp =>
    simp only [step]
    split
    · exact ⟨by simp, rfl⟩
    · exact ⟨hbegun, rfl⟩
  | proceed => exact proceed_of_begun hbegun
  | read => exact ⟨by rwa [step, read_closer.1], read_closer.2⟩

namespace InOrder

/-- All that is said to be sent when closing has begun was sent before. -/
lemma foldl_of_begun (h : t.InOrder) (hbegun : t.closer ≠ .idle) {acts : List Act}
    (hacts : t.areOrderly acts = true) :
    (acts.foldl Traffic.step t).closer ≠ .idle ∧
      (acts.foldl Traffic.step t).accepted = t.accepted := by
  induction acts generalizing t with
  | nil => exact ⟨hbegun, rfl⟩
  | cons a acts ih =>
    rw [areOrderly, Bool.and_eq_true] at hacts
    obtain ⟨hstep, haccepted⟩ := step_of_begun hbegun (h.sending hbegun) a
    obtain ⟨hlast, hrest⟩ := ih (h.step hacts.1) hstep hacts.2
    exact ⟨hlast, hrest.trans haccepted⟩

/-- At any time, what is written is a part of what is to be written in the end. -/
lemma written_prefix (h : t.InOrder) :
    t.socket.written <+: t.accepted.map .text ++ [.close] := by
  have hpart : t.socket.written <+: t.accepted.map .text ++ t.closer.lastFrame :=
    ⟨_, h.flow⟩
  refine hpart.trans ((List.prefix_append_right_inj _).2 ?_)
  cases t.closer <;> decide

end InOrder

/-! ### Coming to an end -/

/-- Whether closing comes to its end, if the writer writes and the owner goes on. -/
def CanFinish (t : Traffic) : Prop :=
  ∃ more : List Act, (∀ a ∈ more, a = .write ∨ a = .proceed) ∧
    (more.foldl step t).closer = .done

lemma CanFinish.of_foldl (more : List Act) (hmore : ∀ a ∈ more, a = .write ∨ a = .proceed)
    (h : (more.foldl step t).CanFinish) : t.CanFinish := by
  obtain ⟨rest, hrest, hdone⟩ := h
  refine ⟨more ++ rest, List.forall_mem_append.2 ⟨hmore, hrest⟩, ?_⟩
  rwa [List.foldl_append]

lemma CanFinish.of_proceed (h : t.proceed.CanFinish) : t.CanFinish :=
  .of_foldl [.proceed] (by simp) h

lemma canFinish_of_cancelling (hcloser : t.closer = .cancelling) : t.CanFinish :=
  .of_proceed ⟨[], by simp, by simp [proceed, hcloser]⟩

namespace InOrder

/-- The owner that waits for the last frame waits for what the writer comes to. -/
lemma canFinish_of_waiting (h : t.InOrder) (hcloser : t.closer = .waiting) : t.CanFinish := by
  let n := t.socket.queue.length
  refine .of_foldl (List.replicate n .write) (fun a ha => .inl (List.eq_of_mem_replicate ha)) ?_
  rw [foldl_write]
  have hstopped : (t.socket.writeMany n).writing = false := by
    by_cases hclose : .close ∈ t.socket.written
    · have hwriting : t.socket.writing = false := by
        rw [Bool.eq_false_iff, ne_eq, h.writing]
        exact not_not_intro hclose
      rw [Socket.writeMany_of_write?_eq_none (by simp [Socket.write?, hwriting]), hwriting]
    · refine Socket.writing_writeMany (Nat.le_refl n) ?_
      have hmem : .close ∈ t.socket.written ++ t.socket.queue := by
        rw [h.flow, hcloser]
        exact List.mem_append_right _ (List.mem_singleton_self _)
      exact (List.mem_append.1 hmem).resolve_left hclose
  exact .of_proceed (canFinish_of_cancelling (by simp [Traffic.proceed, hcloser, hstopped]))

lemma canFinish_of_queueing (h : t.InOrder) (hcloser : t.closer = .queueing) : t.CanFinish := by
  have hwriting : t.socket.writing = true :=
    h.writing.2 (h.close_notMem (by rw [hcloser]; rfl)).1
  exact .of_proceed (h.proceed.canFinish_of_waiting (by simp [Traffic.proceed, hcloser, hwriting]))

lemma canFinish_of_marking (h : t.InOrder) (hcloser : t.closer = .marking) : t.CanFinish := by
  have hopen : t.socket.isOpen = true := by rw [h.isOpen, hcloser]; rfl
  exact .of_proceed (h.proceed.canFinish_of_queueing (by simp [Traffic.proceed, hcloser, hopen]))

lemma canFinish (h : t.InOrder) (hbegun : t.closer ≠ .idle) : t.CanFinish := by
  cases hcloser : t.closer with
  | idle => exact absurd hcloser hbegun
  | detaching =>
    exact .of_proceed (h.proceed.canFinish_of_marking (by simp [Traffic.proceed, hcloser]))
  | marking => exact h.canFinish_of_marking hcloser
  | queueing => exact h.canFinish_of_queueing hcloser
  | waiting => exact h.canFinish_of_waiting hcloser
  | cancelling => exact canFinish_of_cancelling hcloser
  | done => exact ⟨[], by simp, hcloser⟩

end InOrder

/-! ### Closing -/

/-- What the owner has sent when it closes a socket is written, in order and once, and then one last
frame and nothing else; closing ends once that is written; no send is answered well afterwards; and
nobody is told of an end, however the other side ends the stream behind the last frame, and however
the owner, the writer and the reader come between each other's steps. -/
theorem written_of_close {before after : List Act} (hidle : (run before).closer = .idle)
    (horderly : areOrderly {} (before ++ .close :: after) = true) :
    let t := run (before ++ .close :: after)
    t.socket.losses = [] ∧
      t.socket.written <+: (run before).accepted.map .text ++ [.close] ∧
      (t.closer = .done →
        t.socket.written = (run before).accepted.map .text ++ [.close] ∧
        t.socket.isOpen = false ∧ ∀ text, t.socket.send text = .error .notConnected) ∧
      t.CanFinish := by
  intro t
  have h : t.InOrder := InOrder.start.foldl horderly
  rw [areOrderly_append, Bool.and_eq_true, areOrderly, Bool.and_eq_true] at horderly
  obtain ⟨hbefore, hclose, hafter⟩ := horderly
  have hclosing : ((run before).step .close).InOrder := (InOrder.start.foldl hbefore).step hclose
  have hbegun : ((run before).step .close).closer ≠ .idle ∧
      ((run before).step .close).accepted = (run before).accepted := by
    simp [step, hidle]
  obtain ⟨hcloser, haccepted⟩ := hclosing.foldl_of_begun hbegun.1 hafter
  have hrun : t = after.foldl step ((run before).step .close) := run_append before _
  rw [← hrun] at hcloser haccepted
  rw [hbegun.2] at haccepted
  refine ⟨h.losses, haccepted ▸ h.written_prefix, fun hdone => ?_, h.canFinish hcloser⟩
  have hflushed := h.of_close_mem (h.flushed (.inr hdone))
  have hopen : t.socket.isOpen = false := h.isOpen.trans hflushed.2.2
  exact ⟨haccepted ▸ hflushed.1, hopen, Socket.send_of_closed hopen⟩

/-- The writer writes one text before the owner closes and the other after it; the other side
answers the last frame, and the reader comes upon that, before the owner has gone on. -/
theorem written_of_close_answered :
    let before : List Act :=
      [.listen, .check "a", .enqueue "a", .check "b", .write, .enqueue "b"]
    let after : List Act :=
      [.proceed, .proceed, .proceed, .write, .write, .arrive (.close none), .read, .proceed, .read,
        .read, .stopWriter, .proceed]
    let t := run (before ++ .close :: after)
    t.closer = .done ∧ t.reader = .ended ∧ t.socket.losses = [] ∧
      t.socket.written = [.text "a", .text "b", .close] ∧
      t.socket.send "c" = .error .notConnected := by
  intro before after t
  obtain ⟨hlosses, -, hwritten, -⟩ := @written_of_close before after rfl (by rfl)
  obtain ⟨hflushed, -, hsend⟩ := hwritten rfl
  exact ⟨rfl, rfl, hlosses, hflushed, hsend "c"⟩

end Traffic

end MeshRoom
