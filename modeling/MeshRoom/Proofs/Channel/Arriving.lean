import MeshRoom.Proofs.Channel.Endings
import MeshRoom.Proofs.Channel.Tasks
import Mathlib.Data.List.Induction

/-!
# What arrives on a socket

The owner of a socket receives the texts of the frames that arrive before the stream ends, in the
order they arrive, and then nothing ever again. The reader that has come upon the ending closes the
channel by its next step, for good. The end is told once, to the listener registered last, with the
reason that the ending gives. This holds of a socket that the owner does not close and whose writer
does not fail, however the owner, the writer and the reader come between each other's steps.
-/

namespace MeshRoom

namespace Incoming

/-! ### What frames say -/

/-- The texts that come before the stream ends. -/
def texts : List Incoming → List String
  | [] => []
  | f :: frames => if f.isEnding then [] else f.text?.toList ++ texts frames

/-- What ends the stream. -/
def ending? (frames : List Incoming) : Option Incoming := frames.find? isEnding

lemma texts_append (frames more : List Incoming) :
    texts (frames ++ more) = texts frames ++ if ending? frames = none then texts more else [] := by
  induction frames with
  | nil => rfl
  | cons f frames ih => cases hf : f.isEnding <;> simp_all [texts, ending?]

lemma texts_of_ending?_eq_none {frames : List Incoming} (h : ending? frames = none) :
    texts frames = frames.filterMap text? := by
  induction frames with
  | nil => rfl
  | cons f frames ih =>
    simp only [ending?, List.find?_eq_none, List.forall_mem_cons] at h ih
    rw [texts, if_neg h.1, ih h.2]
    cases htext : f.text? <;> simp [htext]

end Incoming

/-- Nothing will ever be received if nothing is left and the reader has stopped. -/
lemma Socket.receive_eq_ended {s : Socket} :
    s.receive.1 = .ended ↔ s.inbound = [] ∧ s.reading = false := by
  cases hinbound : s.inbound <;> cases hreading : s.reading <;>
    simp [Socket.receive, hinbound, hreading]

open Incoming (texts ending?)

namespace Traffic

/-- The frame that arrives. -/
def Act.arrived? : Act → Option Incoming
  | .arrive frame => some frame
  | _ => none

/-- The frames that arrive, one after the other. -/
def arrivals (acts : List Act) : List Incoming := acts.filterMap Act.arrived?

/-- Whether an act is neither the beginning of closing nor a failure to write. -/
def Act.isHarmless : Act → Bool
  | .close | .failWrite _ => false
  | _ => true

/-! ### Listeners and closing -/

/-- An act registers no listener unless it is to, and opens no channel that is closed. -/
lemma step_keeps (t : Traffic) (a : Act) :
    (t.step a).socket.listeners = t.socket.listeners + (if a = .listen then 1 else 0) ∧
      (t.socket.isOpen = false → (t.step a).socket.isOpen = false) := by
  cases a with
  | listen | arrive => exact ⟨rfl, id⟩
  | check | close | giveUp | stopWriter | cancel =>
    simp only [step]
    split <;> exact ⟨rfl, id⟩
  | enqueue text =>
    simp only [step, enqueue]
    split
    · split <;> exact ⟨rfl, id⟩
    · exact ⟨rfl, id⟩
  | receive =>
    obtain ⟨inbound, received, hreceive, -⟩ := t.exists_receive_eq
    rw [step, hreceive]
    exact ⟨rfl, id⟩
  | proceed =>
    simp only [step, proceed]
    cases t.closer with
    | idle | detaching | cancelling | done => exact ⟨rfl, id⟩
    | marking => exact ⟨rfl, fun _ => rfl⟩
    | queueing | waiting => dsimp only; split <;> exact ⟨rfl, id⟩
  | write =>
    simp only [step, Socket.write?]
    split <;> exact ⟨rfl, id⟩
  | failWrite reason =>
    simp only [step, Socket.failWrite?]
    split
    · simp only [Option.getD_some, Socket.lose]
      split
      · exact ⟨rfl, fun _ => rfl⟩
      · exact ⟨rfl, id⟩
    · exact ⟨rfl, id⟩
    · exact ⟨rfl, id⟩
  | read =>
    simp only [step, read]
    cases t.reader with
    | telling | finishing | ended | cancelled => exact ⟨rfl, id⟩
    | marking => exact ⟨rfl, fun _ => rfl⟩
    | reading =>
      cases t.socket.arriving with
      | nil => exact ⟨rfl, id⟩
      | cons frame =>
        dsimp only
        split <;> exact ⟨rfl, id⟩

lemma listeners_foldl (acts : List Act) (t : Traffic) :
    (acts.foldl step t).socket.listeners = t.socket.listeners + acts.count .listen := by
  induction acts generalizing t with
  | nil => rfl
  | cons a acts ih =>
    rw [List.foldl_cons, ih, (t.step_keeps a).1, List.count_cons, Nat.add_right_comm,
      Nat.add_assoc]
    simp

lemma isOpen_foldl {t : Traffic} (h : t.socket.isOpen = false) (acts : List Act) :
    (acts.foldl step t).socket.isOpen = false := by
  induction acts generalizing t with
  | nil => exact h
  | cons a acts ih => exact ih ((t.step_keeps a).2 h)

/-! ### What else happens -/

/-- Whether an act has to do with sending, writing or closing alone. -/
def Act.isAside : Act → Bool
  | .check _ | .enqueue _ | .proceed | .giveUp | .write | .stopWriter | .cancel => true
  | _ => false

/-- Such acts of an owner that is not closing touch neither what arrives nor who is told. -/
lemma exists_step_eq_of_isAside {t : Traffic} (hcloser : t.closer = .idle) {a : Act}
    (ha : a.isAside = true) :
    ∃ queue written writing sending accepted,
      t.step a = { t with
        socket := { t.socket with queue, written, writing }
        sending
        accepted } := by
  cases a with
  | check | stopWriter =>
    simp only [step]
    split <;> exact ⟨_, _, _, _, _, rfl⟩
  | enqueue =>
    simp only [step, enqueue]
    split
    · split <;> exact ⟨_, _, _, _, _, rfl⟩
    · exact ⟨_, _, _, _, _, rfl⟩
  | write =>
    simp only [step, Socket.write?]
    split <;> exact ⟨_, _, _, _, _, rfl⟩
  | proceed =>
    have hstep : t.step .proceed = t := by simp [step, proceed, hcloser]
    exact ⟨_, _, _, _, _, hstep⟩
  | giveUp =>
    have hstep : t.step .giveUp = t := by simp [step, hcloser]
    exact ⟨_, _, _, _, _, hstep⟩
  | cancel =>
    have hstep : t.step .cancel = t := by simp [step, hcloser]
    exact ⟨_, _, _, _, _, hstep⟩
  | receive | listen | close | failWrite | arrive | read => cases ha

/-! ### Before the end -/

/-- What holds as long as the reader has come upon no ending: what the frames that have arrived say
has been received, may be received, or has not been read, in this order. -/
structure Reads (frames : List Incoming) (t : Traffic) : Prop where
  closer : t.closer = .idle
  reader : t.reader = .reading
  isOpen : t.socket.isOpen = true
  reading : t.socket.reading = true
  losses : t.socket.losses = []
  listener : ∀ n, t.socket.listeners = n + 1 → t.socket.listener = some n
  ending : ending? t.socket.arriving = ending? frames
  texts : t.received ++ t.socket.inbound ++ texts t.socket.arriving = texts frames

/-- What holds once it has come upon one: the channel is marked closed, and then the listener
registered last is told, which is none of those before the last of the first `n`. -/
structure Stops (texts : List String) (n : Nat) (reason : String) (t : Traffic) : Prop where
  closer : t.closer = .idle
  reader : t.reader = .marking reason ∨ t.reader = .telling reason ∨ t.reader = .finishing ∨
    t.reader = .ended
  isOpen : t.socket.isOpen = true ↔ t.reader = .marking reason
  reading : t.socket.reading = true ↔ t.reader ≠ .ended
  listeners : n ≤ t.socket.listeners
  untold : t.reader = .marking reason ∨ t.reader = .telling reason → t.socket.losses = [] ∧
    ∀ l, t.socket.listeners = l + 1 → t.socket.listener = some l
  told : t.reader = .finishing ∨ t.reader = .ended →
    ∃ l, n ≤ l + 1 ∧ l < t.socket.listeners ∧ t.socket.losses = [⟨l, reason⟩]
  texts : t.received ++ t.socket.inbound = texts

variable {frames : List Incoming} {t : Traffic}

lemma Reads.start : Reads [] {} where
  closer := rfl
  reader := rfl
  isOpen := rfl
  reading := rfl
  losses := rfl
  listener := nofun
  ending := rfl
  texts := rfl

lemma Reads.arrive (h : t.Reads frames) (f : Incoming) :
    (t.step (.arrive f)).Reads (frames ++ [f]) := by
  refine { h with ending := ?_, texts := ?_ }
  · show (t.socket.arriving ++ [f]).find? Incoming.isEnding = _
    have hending := h.ending
    rw [ending?, ending?] at hending
    rw [ending?, List.find?_append, List.find?_append, hending]
  · show t.received ++ t.socket.inbound ++ Incoming.texts (t.socket.arriving ++ [f]) = _
    rw [Incoming.texts_append, Incoming.texts_append, h.ending, ← List.append_assoc, h.texts]

lemma Reads.receive (h : t.Reads frames) : t.receive.Reads frames := by
  obtain ⟨inbound, received, hreceive, htexts⟩ := t.exists_receive_eq
  rw [hreceive]
  refine { h with texts := ?_ }
  rw [← h.texts, ← htexts]

/-- The reader goes on to read, or it comes upon the ending. -/
lemma Reads.read (h : t.Reads frames) :
    t.read.Reads frames ∨ ∃ ending reason, ending? frames = some ending ∧
      ending.Ends reason ∧
      t.read.Stops (Incoming.texts frames) t.socket.listeners reason := by
  unfold Traffic.read
  rw [h.reader]
  dsimp only
  split
  case h_1 => exact .inl h
  case h_2 f arriving harriving =>
    have hending := h.ending
    have htexts := h.texts
    rw [harriving] at hending htexts
    cases hf : f.isEnding with
    | false =>
      rw [ending?, List.find?_cons_of_neg (by simp [hf])] at hending
      rw [Incoming.texts, hf, if_neg Bool.false_ne_true] at htexts
      rw [Incoming.effect_of_not_isEnding hf]
      left
      cases hsaid : f.text? with
      | some text =>
        rw [hsaid] at htexts
        refine { h with reader := rfl, ending := hending, texts := ?_ }
        rw [← htexts]
        simp
      | none =>
        rw [hsaid] at htexts
        exact { h with reader := rfl, ending := hending, texts := htexts }
    | true =>
      rw [ending?, List.find?_cons_of_pos hf] at hending
      rw [Incoming.texts, hf, if_pos rfl, List.append_nil] at htexts
      obtain ⟨reason, hends⟩ := Incoming.exists_ends_of_isEnding hf
      rw [hends.effect]
      refine .inr ⟨f, reason, hending.symm, hends, { h with
        reader := .inl rfl
        isOpen := by simp [h.isOpen]
        reading := by simp [h.reading]
        listeners := Nat.le_refl _
        untold := fun _ => ⟨h.losses, h.listener⟩
        told := by simp
        texts := htexts }⟩

lemma Reads.aside (h : t.Reads frames) {a : Act} (ha : a.isAside = true) :
    (t.step a).Reads frames := by
  obtain ⟨queue, written, writing, sending, accepted, hstep⟩ :=
    exists_step_eq_of_isAside h.closer ha
  rw [hstep]
  exact { h with }

lemma Reads.listen (h : t.Reads frames) : (t.step .listen).Reads frames :=
  { h with listener := fun _ hn => congrArg some (Nat.succ.inj hn) }

lemma Reads.step (h : t.Reads frames) {a : Act} (ha : a.isHarmless = true) :
    (t.step a).Reads (frames ++ arrivals [a]) ∨
      ∃ ending reason, ending? frames = some ending ∧ ending.Ends reason ∧
        (t.step a).Stops (Incoming.texts frames) t.socket.listeners reason := by
  have hframes : a.arrived? = none → frames ++ arrivals [a] = frames := by
    intro hnone
    simp [arrivals, hnone]
  cases a with
  | close | failWrite => cases ha
  | arrive f => exact .inl (h.arrive f)
  | receive =>
    rw [hframes rfl]
    exact .inl h.receive
  | listen =>
    rw [hframes rfl]
    exact .inl h.listen
  | read =>
    rw [hframes rfl]
    exact h.read
  | check text | enqueue text | proceed | giveUp | write | stopWriter | cancel =>
    rw [hframes rfl]
    exact .inl (h.aside rfl)

/-! ### After the end -/

variable {said : List String} {n : Nat} {reason : String}

lemma Stops.mono (h : t.Stops said n reason) {m : Nat} (hm : m ≤ n) :
    t.Stops said m reason where
  closer := h.closer
  reader := h.reader
  isOpen := h.isOpen
  reading := h.reading
  listeners := Nat.le_trans hm h.listeners
  untold := h.untold
  told hreader := by
    obtain ⟨l, hlow, hlt, hlosses⟩ := h.told hreader
    exact ⟨l, Nat.le_trans hm hlow, hlt, hlosses⟩
  texts := h.texts

lemma Stops.aside (h : t.Stops said n reason) {a : Act} (ha : a.isAside = true) :
    (t.step a).Stops said n reason := by
  obtain ⟨queue, written, writing, sending, accepted, hstep⟩ :=
    exists_step_eq_of_isAside h.closer ha
  rw [hstep]
  exact { h with }

lemma Stops.listen (h : t.Stops said n reason) : (t.step .listen).Stops said n reason where
  closer := h.closer
  reader := h.reader
  isOpen := h.isOpen
  reading := h.reading
  listeners := Nat.le_succ_of_le h.listeners
  untold hreader := ⟨(h.untold hreader).1, fun _ hn => congrArg some (Nat.succ.inj hn)⟩
  told hreader := by
    obtain ⟨l, hlow, hlt, hlosses⟩ := h.told hreader
    exact ⟨l, hlow, Nat.lt_succ_of_lt hlt, hlosses⟩
  texts := h.texts

lemma Stops.receive (h : t.Stops said n reason) : t.receive.Stops said n reason := by
  obtain ⟨inbound, received, hreceive, htexts⟩ := t.exists_receive_eq
  rw [hreceive]
  exact { h with texts := htexts.trans h.texts }

lemma Stops.read (h : t.Stops said n reason) (hn : 0 < n) : t.read.Stops said n reason := by
  unfold Traffic.read
  rcases h.reader with hreader | hreader | hreader | hreader <;> rw [hreader] <;> dsimp only
  · have hopen : t.socket.isOpen = true := h.isOpen.2 hreader
    rw [if_pos hopen]
    have hreading : t.socket.reading = true := h.reading.2 (by simp [hreader])
    exact { h with
      reader := .inr (.inl rfl)
      isOpen := by simp
      reading := by simp [hreading]
      untold := fun _ => h.untold (.inl hreader)
      told := by simp }
  · -- the listener registered last is told
    obtain ⟨hlosses, hlistener⟩ := h.untold (.inr hreader)
    obtain ⟨l, hl⟩ := Nat.exists_eq_add_one.2 (Nat.lt_of_lt_of_le hn h.listeners)
    have hreading : t.socket.reading = true := h.reading.2 (by simp [hreader])
    have hopen : t.socket.isOpen = false := by simp [Bool.eq_false_iff, h.isOpen, hreader]
    exact { h with
      reader := .inr (.inr (.inl rfl))
      isOpen := by simp [hopen]
      reading := by simp [hreading]
      untold := by simp
      told := fun _ => ⟨l, hl ▸ h.listeners, by simp [hl], by simp [hlosses, hlistener l hl]⟩ }
  · have hopen : t.socket.isOpen = false := by simp [Bool.eq_false_iff, h.isOpen, hreader]
    exact { h with
      reader := .inr (.inr (.inr rfl))
      isOpen := by simp [hopen]
      reading := by simp
      untold := by simp
      told := fun _ => h.told (.inl hreader) }
  · exact h

/-- The next thing that the reader does closes the channel, unless it is closed already. -/
lemma Stops.isOpen_read (h : t.Stops said n reason) : (t.step .read).socket.isOpen = false := by
  by_cases hreader : t.reader = .marking reason
  · simp [Traffic.step, Traffic.read, hreader]
  · exact (t.step_keeps .read).2 (Bool.eq_false_iff.2 fun hopen => hreader (h.isOpen.1 hopen))

lemma Stops.step (h : t.Stops said n reason) (hn : 0 < n) {a : Act} (ha : a.isHarmless = true) :
    (t.step a).Stops said n reason := by
  cases a with
  | close | failWrite => cases ha
  | arrive f => exact { h with }
  | receive => exact h.receive
  | listen => exact h.listen
  | read => exact h.read hn
  | check text | enqueue text | proceed | giveUp | write | stopWriter | cancel =>
    exact h.aside rfl

lemma Stops.foldl (h : t.Stops said n reason) (hn : 0 < n) {acts : List Act}
    (hacts : ∀ a ∈ acts, a.isHarmless = true) :
    (acts.foldl Traffic.step t).Stops said n reason := by
  induction acts generalizing t with
  | nil => exact h
  | cons a acts ih =>
    rw [List.forall_mem_cons] at hacts
    exact ih (h.step hn hacts.1) hacts.2

/-- There is nothing else to receive than what was said. -/
lemma Stops.receive_eq (h : t.Stops said n reason) (hended : t.reader = .ended) :
    t.socket.receive.1 = match said[t.received.length]? with
      | some text => .frame text
      | none => .ended := by
  have hreading : t.socket.reading = false := by simp [Bool.eq_false_iff, h.reading, hended]
  rw [← h.texts, List.getElem?_append_right (Nat.le_refl _), Nat.sub_self]
  cases hinbound : t.socket.inbound <;> simp [Socket.receive, hinbound, hreading]

lemma Stops.exists_ended (h : t.Stops said n reason) :
    ∃ k, ((List.replicate k .read).foldl Traffic.step t).reader = .ended := by
  rcases h.reader with hreader | hreader | hreader | hreader
  · have hopen : t.socket.isOpen = true := h.isOpen.2 hreader
    exact ⟨3, by simp [List.replicate, Traffic.step, Traffic.read, hreader, hopen]⟩
  · exact ⟨2, by simp [List.replicate, Traffic.step, Traffic.read, hreader]⟩
  · exact ⟨1, by simp [List.replicate, Traffic.step, Traffic.read, hreader]⟩
  · exact ⟨0, hreader⟩

/-! ### A whole run -/

/-- The reader goes on to read, or has come upon the ending. -/
lemma Reads.foldl (h : t.Reads frames) {acts : List Act}
    (hacts : ∀ a ∈ acts, a.isHarmless = true) (hn : n ≤ t.socket.listeners) (hpos : 0 < n) :
    (acts.foldl Traffic.step t).Reads (frames ++ arrivals acts) ∨
      ∃ ending reason, ending? (frames ++ arrivals acts) = some ending ∧
        ending.Ends reason ∧
        (acts.foldl Traffic.step t).Stops (Incoming.texts (frames ++ arrivals acts)) n reason := by
  -- once the reader stops, what it was stopped by stays the first ending, whatever else arrives
  induction acts generalizing t frames with
  | nil =>
    rw [arrivals, List.filterMap_nil, List.append_nil]
    exact .inl h
  | cons a acts ih =>
    rw [List.forall_mem_cons] at hacts
    have hframes : frames ++ arrivals (a :: acts) = frames ++ arrivals [a] ++ arrivals acts := by
      rw [List.append_assoc, arrivals, arrivals, arrivals, ← List.filterMap_append]
      rfl
    rcases h.step hacts.1 with hreads | ⟨ending, reason, hending, hends, hstops⟩
    · rw [hframes]
      refine ih hreads hacts.2 (Nat.le_trans hn ?_)
      rw [(t.step_keeps a).1]
      exact Nat.le_add_right _ _
    · right
      refine ⟨ending, reason, ?_, hends, ?_⟩
      · rw [ending?, List.find?_append, ← ending?, hending, Option.some_or]
      · rw [Incoming.texts_append, hending, if_neg (Option.some_ne_none _), List.append_nil]
        exact (hstops.mono hn).foldl hpos hacts.2

lemma Reads.exists_ended (h : t.Reads frames) (hending : ending? frames ≠ none) :
    ∃ k, ((List.replicate k .read).foldl Traffic.step t).reader = .ended := by
  rw [← h.ending] at hending
  -- every frame that is read is one less before the ending
  induction harriving : t.socket.arriving generalizing t with
  | nil =>
    rw [harriving] at hending
    exact absurd rfl hending
  | cons f arriving ih =>
    have hrest : t.read.socket.arriving = arriving := by
      simp only [Traffic.read, h.reader, harriving]
      split <;> rfl
    have hread : ∃ k, ((List.replicate k .read).foldl Traffic.step t.read).reader = .ended := by
      rcases h.read with hreads | ⟨_, _, _, _, hstops⟩
      · refine ih hreads ?_ hrest
        rwa [hreads.ending, ← h.ending]
      · exact hstops.exists_ended
    obtain ⟨k, hk⟩ := hread
    exact ⟨k + 1, hk⟩

/-- As long as nothing has arrived that ends the stream, the reader reads. -/
lemma reads_run {acts : List Act} (hacts : ∀ a ∈ acts, a.isHarmless = true)
    (harrivals : ∀ f ∈ arrivals acts, f.isEnding = false) : (run acts).Reads (arrivals acts) := by
  induction acts using List.reverseRecOn with
  | nil => exact Reads.start
  | append_singleton acts a ih =>
    have hframes : arrivals (acts ++ [a]) = arrivals acts ++ arrivals [a] := List.filterMap_append
    rw [hframes, List.forall_mem_append] at harrivals
    rw [List.forall_mem_append, List.forall_mem_singleton] at hacts
    rw [run_concat, hframes]
    refine ((ih hacts.1 harrivals.1).step hacts.2).resolve_right ?_
    rintro ⟨ending, _, hending, _⟩
    have hfalse := harrivals.1 ending (List.mem_of_find?_eq_some hending)
    rw [List.find?_some hending] at hfalse
    cases hfalse

/-- Of a stream that ends, the owner receives the texts that come before the end, in order, and then
nothing ever again. The reader that has come upon the ending has closed the channel, unless that is
what it does next, and then it does so for good. By the time it finishes, the listener registered
last has been told, alone and once, with the reason that the ending gives; and the reader does come
upon it. -/
theorem received_of_ends {before after : List Act} {ending : Incoming} {reason : String}
    (hacts : ∀ a ∈ before ++ .arrive ending :: after, a.isHarmless = true)
    (hlisten : .listen ∈ before) (hbefore : ∀ f ∈ arrivals before, f.isEnding = false)
    (hends : ending.Ends reason) :
    let said := (arrivals before).filterMap Incoming.text?
    let t := run (before ++ .arrive ending :: after)
    t.received ++ t.socket.inbound <+: said ∧
      (t.socket.receive.1 = .ended → t.received = said) ∧
      (t.reader ≠ .reading → t.reader ≠ .marking reason →
        t.socket.isOpen = false ∧ ∀ text, t.socket.send text = .error .notConnected) ∧
      (t.reader ≠ .reading → ∀ more : List Act,
        let t' := more.foldl step (t.step .read)
        t'.socket.isOpen = false ∧ ∀ text, t'.socket.send text = .error .notConnected) ∧
      (t.reader = .finishing ∨ t.reader = .ended →
        ∃ l, t.socket.losses = [⟨l, reason⟩] ∧ before.count .listen ≤ l + 1 ∧
          l < (before ++ .arrive ending :: after).count .listen) ∧
      (t.reader = .ended → t.socket.receive.1 = match said[t.received.length]? with
        | some text => .frame text
        | none => .ended) ∧
      ∃ k, ((List.replicate k .read).foldl step t).reader = .ended := by
  intro said t
  rw [List.forall_mem_append] at hacts
  have hnone : ending? (arrivals before) = none := by
    rw [ending?, List.find?_eq_none]
    intro f hf
    rw [hbefore f hf]
    exact Bool.false_ne_true
  have harrivals : arrivals (.arrive ending :: after) = ending :: arrivals after := rfl
  have hsaid : texts (arrivals before ++ arrivals (.arrive ending :: after)) = said := by
    rw [harrivals, Incoming.texts_append, if_pos hnone, Incoming.texts_of_ending?_eq_none hnone,
      Incoming.texts, if_pos hends.isEnding, List.append_nil]
  have hending : ending? (arrivals before ++ arrivals (.arrive ending :: after)) = some ending := by
    rw [harrivals, ending?, List.find?_append, ← ending?, hnone, Option.none_or,
      List.find?_cons_of_pos hends.isEnding]
  have hlisteners : (run before).socket.listeners = before.count .listen := by
    rw [run, listeners_foldl]
    exact Nat.zero_add _
  have hpos : 0 < before.count .listen := List.count_pos_iff.2 hlisten
  have hrun := (reads_run hacts.1 hbefore).foldl hacts.2 (Nat.le_of_eq hlisteners.symm) hpos
  rw [← run_append, hsaid, hending] at hrun
  rcases hrun with hreads | ⟨_, reason', hsome, hends', hstops⟩
  -- the ending has arrived, but the reader has not come to it
  · refine ⟨⟨_, hreads.texts.trans hsaid⟩, ?_, fun hreader => absurd hreads.reader hreader,
      fun hreader => absurd hreads.reader hreader, ?_, ?_, hreads.exists_ended (by simp [hending])⟩
    · intro hended
      have hreading := (Socket.receive_eq_ended.1 hended).2
      rw [hreads.reading] at hreading
      cases hreading
    · simp [t, hreads.reader]
    · simp [t, hreads.reader]
  · obtain rfl := Option.some.inj hsome
    obtain rfl : reason = reason' :=
      ReadEffect.stop.inj (hends.effect.symm.trans hends'.effect)
    refine ⟨⟨[], (List.append_nil _).trans hstops.texts⟩, ?_, ?_, ?_, ?_, hstops.receive_eq,
      hstops.exists_ended⟩
    · intro hended
      have htexts := hstops.texts
      rwa [(Socket.receive_eq_ended.1 hended).1, List.append_nil] at htexts
    · intro _ hreader
      have hopen : t.socket.isOpen = false :=
        Bool.eq_false_iff.2 fun hopen => hreader (hstops.isOpen.1 hopen)
      exact ⟨hopen, Socket.send_of_closed hopen⟩
    · intro _ more
      have hopen := isOpen_foldl hstops.isOpen_read more
      exact ⟨hopen, Socket.send_of_closed hopen⟩
    · intro hreader
      obtain ⟨l, hlow, hlt, hlosses⟩ := hstops.told hreader
      refine ⟨l, hlosses, hlow, ?_⟩
      rwa [run, listeners_foldl, Nat.zero_add] at hlt

/-- The owner receives one text before the other side closes, and one after it. -/
theorem received_of_ends_closed :
    let before : List Act :=
      [.listen, .arrive (.text "one"), .read, .arrive (.ping []), .receive,
        .arrive (.binary [0x74, 0x77, 0x6f])]
    let after : List Act :=
      [.read, .read, .receive, .check "late", .read, .read, .read, .read, .stopWriter]
    let t := run (before ++ .arrive (.close (some (1000, "done"))) :: after)
    t.received = ["one", "two"] ∧ t.socket.receive.1 = .ended ∧
      t.socket.losses = [⟨0, "done"⟩] ∧ t.socket.send "late" = .error .notConnected := by
  intro before after t
  have hends : (Incoming.close (some (1000, "done"))).Ends "done" :=
    .explained (by decide) (by decide) (by decide)
  have hended : t.reader = .ended := by decide +kernel
  have hnothing : t.socket.receive.1 = .ended := by decide +kernel
  obtain ⟨-, hreceived, hclosed, -, htold, -⟩ :=
    @received_of_ends before after _ _ (by decide) (by decide) (by decide) hends
  obtain ⟨l, hlosses, -, hlt⟩ := htold (.inr hended)
  obtain rfl : l = 0 := Nat.lt_one_iff.1 hlt
  have hsend := (hclosed (hended.trans_ne nofun) (hended.trans_ne nofun)).2 "late"
  exact ⟨(hreceived hnothing).trans (by decide +kernel), hnothing, hlosses, hsend⟩

/-- There is a text of any size. -/
lemma exists_utf8ByteSize_eq (n : Nat) : ∃ text : String, text.utf8ByteSize = n := by
  induction n with
  | zero => exact ⟨"", rfl⟩
  | succ n ih =>
    obtain ⟨text, rfl⟩ := ih
    exact ⟨text.push 'a', String.utf8ByteSize_push⟩

/-- A close frame whose code none may carry does not have its reason told; a text that no frame may
carry is not received; what comes after a ping that no control frame may carry is not received; and
a reader that has come upon the ending may not have closed the channel yet. -/
theorem not_received_and_told :
    (¬ ∀ (before after : List Act) (code : Nat) (reason : String),
      (∀ a ∈ before ++ .arrive (.close (some (code, reason))) :: after, a.isHarmless = true) →
      .listen ∈ before → (∀ f ∈ arrivals before, f.isEnding = false) → reason ≠ "" →
      let t := run (before ++ .arrive (.close (some (code, reason))) :: after)
      t.reader = .ended → ∃ l, t.socket.losses = [⟨l, reason⟩]) ∧
    (¬ ∀ (before after : List Act) (text : String),
      (∀ a ∈ before ++ .arrive (.text text) :: .arrive .finished :: after,
        a.isHarmless = true) →
      .listen ∈ before → (∀ f ∈ arrivals before, f.isEnding = false) →
      let t := run (before ++ .arrive (.text text) :: .arrive .finished :: after)
      t.reader = .ended → text ∈ t.received ++ t.socket.inbound) ∧
    (¬ ∀ (before after : List Act) (bytes : List UInt8) (text : String),
      (∀ a ∈ before ++ .arrive (.ping bytes) :: .arrive (.text text) :: after,
        a.isHarmless = true) →
      .listen ∈ before → (∀ f ∈ arrivals before, f.isEnding = false) →
      let t := run (before ++ .arrive (.ping bytes) :: .arrive (.text text) :: after)
      t.reader = .ended → text ∈ t.received ++ t.socket.inbound) ∧
    ¬ ∀ (before after : List Act) (ending : Incoming) (reason : String),
      (∀ a ∈ before ++ .arrive ending :: after, a.isHarmless = true) →
      .listen ∈ before → (∀ f ∈ arrivals before, f.isEnding = false) →
      ending.Ends reason →
      let t := run (before ++ .arrive ending :: after)
      t.reader ≠ .reading → t.socket.isOpen = false := by
  let reads : List Act := [.read, .read, .read, .read]
  refine ⟨fun h => ?_, fun h => ?_, fun h => ?_, fun h => ?_⟩
  · obtain ⟨l, hlosses⟩ := h [.listen] reads 1014 "bad gateway" (by decide) (by decide)
      (by decide) (by decide) rfl
    have htold : "Protocol violation" = "bad gateway" :=
      congrArg LossNotice.reason (List.head_eq_of_cons_eq hlosses)
    exact absurd htold (by decide)
  · obtain ⟨text, hsize⟩ := exists_utf8ByteSize_eq (Incoming.frameLimit + 1)
    have hexceeds : Incoming.Exceeds ([] ++ text.utf8ByteSize :: []) _ :=
      .frame (by decide) (Nat.lt_of_lt_of_eq (Nat.lt_succ_self _) hsize.symm)
    have heffect := (Incoming.Ends.exceeding (f := .text text) hexceeds).effect
    have hreceived := h [.listen] reads text (by simp [reads, Act.isHarmless]) (by decide)
      (by decide)
    simp [run, step, read, Socket.listen, Socket.arrive, heffect, reads] at hreceived
  · have hreceived := h [.listen] reads (List.replicate 126 0) "late" (by decide) (by decide)
      (by decide) (by decide +kernel)
    exact absurd hreceived (by decide +kernel)
  · have hclosed := h [.listen] [.read] .finished _ (by decide) (by decide) (by decide) .finished
    exact absurd (hclosed (by decide)) (by decide)

end Traffic

end MeshRoom
