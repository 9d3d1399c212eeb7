import MeshRoom.Dispatch.Script
import MeshRoom.Proofs.Json.Entries
import MeshRoom.Proofs.Table
import Mathlib.Data.List.Induction

/-!
# Routing

Whatever is asked of a dispatcher, in whatever order, and whatever its handlers do, a frame calls
the handler that was registered last for its task, once, or none at all. What handlers register
while they run is registered as if it had been asked for right after the frame that called them.
-/

namespace MeshRoom

open Json Wire

namespace Dispatcher

variable {H σ : Type}

/-! ### The handlers registered -/

lemma handler?_register (d : Dispatcher H) (task : String) (h : H) (k : String) :
    (d.register task h).handler? k = if k = task then some h else d.handler? k :=
  getElem?_insert_ite d.handlers task k h

/-- The handler of a task is the one registered last for it. -/
lemma handler?_registerAll (d : Dispatcher H) (hs : List (String × H)) (task : String) :
    (d.registerAll hs).handler? task = (hs.reverse.lookup task).or (d.handler? task) := by
  induction hs generalizing d with
  | nil => rfl
  | cons entry hs ih =>
    obtain ⟨k, h⟩ := entry
    rw [registerAll, List.foldl_cons, ← registerAll, ih, handler?_register, List.reverse_cons,
      List.lookup_append, Entries.lookup_cons, Option.or_assoc]
    split <;> rfl

/-- A dispatcher has for each task what was registered last for it since it was made. -/
lemma handler?_registerAll_empty (hs : List (String × H)) (task : String) :
    (registerAll {} hs).handler? task = hs.reverse.lookup task :=
  (handler?_registerAll {} hs task).trans Option.or_none

/-- A handler is one of those registered, or was there before. -/
lemma mem_of_handler?_registerAll {d : Dispatcher H} {hs : List (String × H)} {task : String} {h : H}
    (hh : (d.registerAll hs).handler? task = some h) :
    (task, h) ∈ hs ∨ d.handler? task = some h := by
  rw [handler?_registerAll, Option.or_eq_some_iff] at hh
  rcases hh with hlast | ⟨-, hbefore⟩
  · exact .inl (List.mem_reverse.1 (Entries.mem_of_lookup hlast))
  · exact .inr hbefore

lemma registerAll_append (d : Dispatcher H) (hs hs' : List (String × H)) :
    d.registerAll (hs ++ hs') = (d.registerAll hs).registerAll hs' :=
  List.foldl_append

/-- The tasks are in order, none twice. -/
lemma tasks_pairwise (d : Dispatcher H) : d.tasks.Pairwise (· < ·) :=
  d.handlers.ordered_keys.imp compareOfLessAndEq_eq_lt.1

lemma mem_tasks_iff {d : Dispatcher H} {task : String} :
    task ∈ d.tasks ↔ (d.handler? task).isSome = true := by
  rw [tasks, Std.ExtTreeMap.mem_keys, Std.ExtTreeMap.mem_iff_isSome_getElem?, handler?]

/-! ### Acts -/

/-- What is asked of a dispatcher. -/
inductive Act (H : Type) where
  | register (task : String) (h : H)
  | dispatch (text : String)
  | deliver (e : Envelope)

/-- What is answered: the handler that was replaced, or what became of a frame. -/
inductive Answer (H : Type) where
  | registered (replaced : Option H)
  | told (o : Outcome)

/-- A call of a handler: what it was handed, and what it answered. -/
structure Call (H : Type) where
  handler : H
  parameters : Value
  reply : Reply H

/-- An act with its answer and the calls of handlers that it made. -/
structure Turn (H : Type) where
  act : Act H
  answer : Answer H
  calls : List (Call H)

/-- What was registered in a turn: by the act itself, or by the handlers called while they ran. -/
def Turn.registrations (turn : Turn H) : List (String × H) :=
  (match turn.act with
    | .register task h => [(task, h)]
    | .dispatch _ | .deliver _ => []) ++ turn.calls.flatMap fun c => c.reply.registers

/-- What was registered in turns, in order. -/
def registrations (turns : List (Turn H)) : List (String × H) := turns.flatMap Turn.registrations

/-- The turns taken so far, with the dispatcher and the state of the handlers as they are now. -/
structure History (H σ : Type) where
  turns : List (Turn H) := []
  dispatcher : Dispatcher H := {}
  state : σ

variable (run : H → Value → σ → Reply H × σ)

/-- Run handlers and note their calls. -/
def noting (h : H) (parameters : Value) : List (Call H) × σ → Reply H × List (Call H) × σ
  | (calls, s) =>
    let answer := run h parameters s
    (answer.1, calls ++ [⟨h, parameters, answer.1⟩], answer.2)

/-- Do something with a dispatcher. -/
def History.perform (p : History H σ) (a : Act H) : History H σ :=
  match a with
  | .register task h =>
    let answer := p.dispatcher.replace task h
    ⟨p.turns ++ [⟨a, .registered answer.1, []⟩], answer.2, p.state⟩
  | .dispatch text =>
    let answer := p.dispatcher.dispatch run text p.state
    let noted := p.dispatcher.dispatch (noting run) text ([], p.state)
    ⟨p.turns ++ [⟨a, .told answer.1, noted.2.2.1⟩], answer.2.1, answer.2.2⟩
  | .deliver e =>
    let answer := p.dispatcher.deliver run e p.state
    let noted := p.dispatcher.deliver (noting run) e ([], p.state)
    ⟨p.turns ++ [⟨a, .told answer.1, noted.2.2.1⟩], answer.2.1, answer.2.2⟩

/-- Do one thing after the other with a new dispatcher. -/
def performAll (acts : List (Act H)) (s : σ) : History H σ :=
  acts.foldl (History.perform run) { state := s }

lemma performAll_concat (acts : List (Act H)) (a : Act H) (s : σ) :
    performAll run (acts ++ [a]) s = (performAll run acts s).perform run a := by
  rw [performAll, List.foldl_append]
  rfl

/-! ### One act -/

/-- The envelope that an act brings: that of a frame which is one, or the one that is delivered. -/
def Act.envelope? : Act H → Option Envelope
  | .register _ _ => none
  | .dispatch text => (Envelope.parse text).toOption
  | .deliver e => some e

/-- How a turn goes after certain registrations, with the state of the handlers before and after. A
handler is called for an envelope whose task was registered: the one registered last, with the
parameters of the envelope, and nobody else. -/
inductive Routed (registered : List (String × H)) (s : σ) : Turn H → σ → Prop where
  | registered (task : String) (h : H) :
      Routed registered s ⟨.register task h, .registered (registered.reverse.lookup task), []⟩ s
  | malformed {text : String} {e : EnvelopeError} (h : Envelope.parse text = .error e) :
      Routed registered s ⟨.dispatch text, .told (.malformed e), []⟩ s
  | unknown {a : Act H} {e : Envelope} (ha : a.envelope? = some e)
      (hnone : registered.reverse.lookup e.task = none) :
      Routed registered s ⟨a, .told (.unknownTask e.task), []⟩ s
  | handled {a : Act H} {e : Envelope} {h : H} {reply : Reply H} {s' : σ}
      (ha : a.envelope? = some e) (hsome : registered.reverse.lookup e.task = some h)
      (hrun : run h e.parameters s = (reply, s')) (hresult : reply.result = .ok ()) :
      Routed registered s ⟨a, .told (.handled e.task), [⟨h, e.parameters, reply⟩]⟩ s'
  | failed {a : Act H} {e : Envelope} {h : H} {reply : Reply H} {s' : σ} {err : HandlerError}
      (ha : a.envelope? = some e) (hsome : registered.reverse.lookup e.task = some h)
      (hrun : run h e.parameters s = (reply, s')) (hresult : reply.result = .error err) :
      Routed registered s ⟨a, .told (.handlerFailed e.task err), [⟨h, e.parameters, reply⟩]⟩ s'

variable {run}

lemma deliver_of_none {d : Dispatcher H} {e : Envelope} (h : d.handler? e.task = none) (s : σ) :
    d.deliver run e s = (.unknownTask e.task, d, s) := by
  rw [deliver, h]

lemma deliver_of_some {d : Dispatcher H} {e : Envelope} {h : H} (hh : d.handler? e.task = some h)
    (s : σ) : d.deliver run e s = (outcome e.task (run h e.parameters s).1.result,
      d.registerAll (run h e.parameters s).1.registers, (run h e.parameters s).2) := by
  rw [deliver, hh]

/-- What is registered while an envelope is delivered is what the handler that was called registers.
-/
lemma deliver_registers (d : Dispatcher H) (e : Envelope) (s : σ) :
    (d.deliver run e s).2.1 = d.registerAll
      ((d.deliver (noting run) e ([], s)).2.2.1.flatMap fun c => c.reply.registers) := by
  cases hh : d.handler? e.task with
  | none =>
    rw [deliver_of_none hh, deliver_of_none hh]
    rfl
  | some h =>
    rw [deliver_of_some hh, deliver_of_some hh]
    simp [noting]

lemma Routed.of_deliver {registered : List (String × H)} {d : Dispatcher H}
    (hd : ∀ task, d.handler? task = registered.reverse.lookup task) {a : Act H} {e : Envelope}
    (ha : a.envelope? = some e) (s : σ) :
    Routed run registered s
      ⟨a, .told (d.deliver run e s).1, (d.deliver (noting run) e ([], s)).2.2.1⟩
      (d.deliver run e s).2.2 := by
  cases hh : d.handler? e.task with
  | none =>
    rw [deliver_of_none hh, deliver_of_none hh]
    exact .unknown ha ((hd e.task).symm.trans hh)
  | some h =>
    have hlast : registered.reverse.lookup e.task = some h := (hd e.task).symm.trans hh
    rw [deliver_of_some hh, deliver_of_some hh]
    cases hresult : (run h e.parameters s).1.result with
    | ok => exact .handled ha hlast rfl hresult
    | error err => exact .failed ha hlast rfl hresult

/-- An act adds its turn to the history, and to the dispatcher what was registered in it. -/
lemma exists_routed (run : H → Value → σ → Reply H × σ) {p : History H σ}
    {registered : List (String × H)} (hp : p.dispatcher = registerAll {} registered)
    (a : Act H) :
    ∃ turn, (p.perform run a).turns = p.turns ++ [turn] ∧ turn.act = a ∧
      Routed run registered p.state turn (p.perform run a).state ∧
      (p.perform run a).dispatcher = p.dispatcher.registerAll turn.registrations := by
  have hd (task : String) : p.dispatcher.handler? task = registered.reverse.lookup task := by
    rw [hp, handler?_registerAll_empty]
  cases a with
  | register task h =>
    have hreplaced : (p.dispatcher.replace task h).1 = registered.reverse.lookup task := hd task
    refine ⟨_, rfl, rfl, ?_, rfl⟩
    rw [hreplaced]
    exact .registered task h
  | deliver e =>
    exact ⟨_, rfl, rfl, .of_deliver hd rfl p.state, deliver_registers p.dispatcher e p.state⟩
  | dispatch text =>
    cases hparse : Envelope.parse text with
    | error e =>
      refine ⟨⟨.dispatch text, .told (.malformed e), []⟩, ?_, rfl, ?_, ?_⟩
      · simp [History.perform, dispatch, hparse]
      · simpa [History.perform, dispatch, hparse] using Routed.malformed hparse
      · simp [History.perform, dispatch, hparse, Turn.registrations, registerAll]
    | ok e =>
      -- a frame that is an envelope is routed as that envelope is
      have hframe : (Act.dispatch text : Act H).envelope? = some e := by
        rw [Act.envelope?, hparse]
        rfl
      refine ⟨⟨.dispatch text, .told (p.dispatcher.deliver run e p.state).1,
        (p.dispatcher.deliver (noting run) e ([], p.state)).2.2.1⟩, ?_, rfl, ?_, ?_⟩
      · simp [History.perform, dispatch, hparse]
      · simpa [History.perform, dispatch, hparse] using Routed.of_deliver hd hframe p.state
      · simpa [History.perform, dispatch, hparse, Turn.registrations] using
          deliver_registers p.dispatcher e p.state

/-! ### Histories -/

lemma registrations_concat (turns : List (Turn H)) (turn : Turn H) :
    registrations (turns ++ [turn]) = registrations turns ++ turn.registrations := by
  simp [registrations]

/-- The dispatcher has what was registered, and nothing else. -/
lemma dispatcher_performAll (acts : List (Act H)) (s : σ) :
    (performAll run acts s).dispatcher
      = registerAll {} (registrations (performAll run acts s).turns) := by
  induction acts using List.reverseRecOn with
  | nil => rfl
  | append_singleton acts a ih =>
    obtain ⟨turn, hturns, -, -, hdispatcher⟩ := exists_routed run ih a
    rw [performAll_concat, hdispatcher, hturns, registrations_concat, registerAll_append, ← ih]

/-- Whatever has been asked of a dispatcher, the next act is routed by what was registered before
it, and adds to that what is registered in its own turn; and the tasks are those that were
registered. -/
theorem routed_by_registrations (run : H → Value → σ → Reply H × σ) (s : σ) (acts : List (Act H))
    (a : Act H) :
    let past := performAll run acts s
    let now := performAll run (acts ++ [a]) s
    (∃ turn, now.turns = past.turns ++ [turn] ∧ turn.act = a ∧
      Routed run (registrations past.turns) past.state turn now.state ∧
      now.dispatcher = past.dispatcher.registerAll turn.registrations) ∧
    (∀ task, past.dispatcher.handler? task = (registrations past.turns).reverse.lookup task) ∧
    past.dispatcher.tasks.Pairwise (· < ·) ∧
    ∀ task, task ∈ past.dispatcher.tasks ↔ ∃ h, (task, h) ∈ registrations past.turns := by
  intro past now
  have hpast : past.dispatcher = registerAll {} (registrations past.turns) :=
    dispatcher_performAll acts s
  have hhandler (task : String) :
      past.dispatcher.handler? task = (registrations past.turns).reverse.lookup task := by
    rw [hpast, handler?_registerAll_empty]
  refine ⟨?_, hhandler, tasks_pairwise _, fun task => ?_⟩
  · rw [show now = past.perform run a from performAll_concat run acts a s]
    exact exists_routed run hpast a
  · rw [mem_tasks_iff, hhandler, Entries.isSome_lookup_iff]
    simp [Entries.keys]

/-- A handler that registers another for its own task is called once, and the other from then on. -/
example :
    let frame := "\x7b\"task\":\"undo\",\"parameters\":[]\x7d"
    let past := performAll Script.run
      [.register "undo" { label := "a", step := .spawn "undo" }, .dispatch frame, .dispatch frame] []
    past.state = [.called "a" (.array []), .called "a+" (.array [])] ∧
      past.dispatcher.tasks = ["undo"] := by
  decide +kernel

end Dispatcher

end MeshRoom
