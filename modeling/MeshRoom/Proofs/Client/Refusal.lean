import MeshRoom.Client.Lifecycle
import MeshRoom.Proofs.Dispatch.Routing
import MeshRoom.View.Recording

/-!
# Frames that are not followed

A frame may be no envelope, may name a task without a handler, or may be refused by the handler of
its task. In each case a client is left exactly as it was. This holds of the handlers that every
client has and of those that the plugins which come with it add for deltas: what they do, they do
after the last point where they can fail, and none of them registers another.

A handler that is laid down as data is no such handler: it logs its call and then fails.
-/

namespace MeshRoom

open Json Wire

variable {V : Type}

/-! ### Handlers -/

namespace Handler

/-- A handler that is not laid down as data. -/
def IsFixed : Handler → Prop
  | .scripted _ => False
  | _ => True

/-- What goes on after reading the parameters leaves a room alone if it fails, and so does the
reading. -/
lemma reading_failed {α : Type} {subject : String} {d : Decoder α} {parameters : Value}
    {room : Room V} {go : α → Reply Handler × Room V} {e : HandlerError}
    (hgo : ∀ x, (go x).1.result = .error e → (go x).2 = room)
    (h : (reading subject d parameters room go).1.result = .error e) :
    (reading subject d parameters room go).2 = room := by
  unfold reading at h ⊢
  cases hx : d.onValue parameters with
  | some x =>
    rw [hx] at h
    exact hgo x h
  | none => rfl

/-- What registers no handler after reading the parameters registers none at all. -/
lemma reading_registers {α : Type} (subject : String) (d : Decoder α) (parameters : Value)
    {room : Room V} {go : α → Reply Handler × Room V} (hgo : ∀ x, (go x).1.registers = []) :
    (reading subject d parameters room go).1.registers = [] := by
  unfold reading
  split
  case h_1 x _ => exact hgo x
  case h_2 => rfl

variable [View V]

/-- A handler that is not laid down as data leaves the room alone if it fails. -/
lemma room_of_failed {h : Handler} (hh : h.IsFixed) {parameters : Value} {room : Room V}
    {e : HandlerError} (he : (h.run parameters room).1.result = .error e) :
    (h.run parameters room).2 = room := by
  cases h with
  | assignSession =>
    refine reading_failed (fun grant hgrant => ?_) he
    -- the one place where parameters that can be read are still refused
    cases hassign : room.session.assign grant.session with
    | ok session =>
      rw [hassign] at hgrant
      cases hgrant
    | error => rfl
  | tellBusy => exact reading_failed (fun _ hn => nomatch hn) he
  | tellReload => cases he
  | followCamera => exact reading_failed (fun _ hn => nomatch hn) he
  | followCursor => exact reading_failed (fun _ hn => nomatch hn) he
  | followMeshes =>
    unfold run at he ⊢
    cases hmeshes : room.scene.applyParameters parameters with
    | ok =>
      rw [hmeshes] at he
      cases he
    | error => rfl
  | scripted => exact hh.elim

/-- A handler that is not laid down as data registers no other. -/
lemma registers_of_isFixed {h : Handler} (hh : h.IsFixed) (parameters : Value) (room : Room V) :
    (h.run parameters room).1.registers = [] := by
  cases h with
  | assignSession =>
    refine reading_registers _ _ _ fun grant => ?_
    cases room.session.assign grant.session with
    | ok => rfl
    | error => rfl
  | tellBusy => exact reading_registers _ _ _ fun _ => rfl
  | tellReload => rfl
  | followCamera => exact reading_registers _ _ _ fun _ => rfl
  | followCursor => exact reading_registers _ _ _ fun _ => rfl
  | followMeshes =>
    unfold run
    cases room.scene.applyParameters parameters with
    | ok => rfl
    | error => rfl
  | scripted => exact hh.elim

end Handler

/-! ### Handlers of deltas -/

/-- The tasks for which plugins that come with the client follow deltas. -/
def deltaTasks : List String :=
  [Task.undo, Task.redo, Task.loadPolygonMesh, Task.toggleMeshVisibility]

namespace Dispatcher

/-- The handlers that every client has are there, and if there are others, they follow deltas for
plugins that come with the client. -/
structure IsStandard (d : Dispatcher Handler) : Prop where
  core : ∀ entry ∈ Handler.core, d.handler? entry.1 = some entry.2
  others : ∀ {task h}, d.handler? task = some h →
    (task, h) ∈ Handler.core ∨ task ∈ deltaTasks ∧ ∃ reporting, h = .followMeshes reporting

variable {d : Dispatcher Handler}

lemma IsStandard.isFixed (hd : d.IsStandard) {task : String} {h : Handler}
    (hh : d.handler? task = some h) : h.IsFixed := by
  rcases hd.others hh with hcore | ⟨-, reporting, rfl⟩
  · have hall : ∀ entry ∈ Handler.core, entry.2.IsFixed := by
      simp [Handler.core, Handler.IsFixed]
    exact hall _ hcore
  · trivial

/-- The handlers that every client has make a standard dispatcher. -/
lemma isStandard_core : IsStandard (registerAll {} Handler.core) where
  core := by decide +kernel
  others hh := by
    rcases mem_of_handler?_registerAll hh with hcore | hnone
    · exact .inl hcore
    · simp [handler?] at hnone

/-- A handler of deltas may be added for each of the tasks that plugins follow deltas for. -/
lemma IsStandard.register (hd : d.IsStandard) {task : String} (htask : task ∈ deltaTasks)
    (reporting : Bool) : (d.register task (.followMeshes reporting)).IsStandard where
  core entry hentry := by
    have hother : ∀ e ∈ Handler.core, e.1 ∉ deltaTasks := by decide +kernel
    have hne : entry.1 ≠ task := by
      rintro rfl
      exact hother entry hentry htask
    rw [handler?_register, if_neg hne]
    exact hd.core entry hentry
  others {k h} hh := by
    rw [handler?_register] at hh
    split at hh
    case isTrue hk =>
      obtain rfl := Option.some.inj hh
      exact .inr ⟨hk ▸ htask, reporting, rfl⟩
    case isFalse => exact hd.others hh

lemma IsStandard.registerAll (hd : d.IsStandard) {hs : List (String × Handler)}
    (hhs : ∀ entry ∈ hs, entry.1 ∈ deltaTasks ∧ ∃ reporting, entry.2 = .followMeshes reporting) :
    (d.registerAll hs).IsStandard := by
  induction hs generalizing d with
  | nil => exact hd
  | cons entry hs ih =>
    obtain ⟨htask, reporting, hh⟩ := hhs entry List.mem_cons_self
    refine ih (d := d.register entry.1 entry.2) ?_ fun e he => hhs e (List.mem_cons_of_mem _ he)
    rw [hh]
    exact hd.register htask reporting

end Dispatcher

/-! ### The plugins that come with a client -/

/-- The handlers that a plugin which comes with a client adds follow deltas. -/
lemma handlers_builtin (deltas : Handler) :
    ∀ entry ∈ Module.builtin, ∀ added ∈ (entry.2.init deltas).handlers,
      added.1 ∈ deltaTasks ∧ added.2 = deltas := by
  simp [Module.builtin, Module.init, deltaTasks]

/-- A module registered under a name is found by it, unless another one is found by path. -/
lemma find?_register (s : ModuleSource Module) (name : String) (m : Module) (spec : ModuleSpec) :
    (s.register name m).find? spec
      = (s.byPath[spec.path]? <|> if spec.name = name then some m else s.byName[spec.name]?) :=
  congrArg (s.byPath[spec.path]? <|> ·) (getElem?_insert_ite s.byName name spec.name m)

/-- A module that is found was registered, or was found before. -/
lemma mem_of_find?_registered {ms : List (String × Module)} {s : ModuleSource Module}
    {spec : ModuleSpec} {m : Module}
    (h : (ms.foldl (fun s (name, m) => s.register name m) s).find? spec = some m) :
    (spec.name, m) ∈ ms ∨ s.find? spec = some m := by
  induction ms generalizing s with
  | nil => exact .inr h
  | cons entry ms ih =>
    rcases ih h with hin | hbefore
    · exact .inl (List.mem_cons_of_mem _ hin)
    rw [find?_register] at hbefore
    split at hbefore
    case isTrue hname =>
      cases hpath : s.byPath[spec.path]? with
      | some other =>
        rw [hpath] at hbefore
        exact .inr (by rw [ModuleSource.find?, hpath]; exact hbefore)
      | none =>
        rw [hpath] at hbefore
        obtain rfl := Option.some.inj hbefore
        exact .inl (List.mem_cons.2 (.inl (Prod.ext hname rfl)))
    case isFalse => exact .inr hbefore

lemma mem_builtin_of_find? {spec : ModuleSpec} {m : Module}
    (h : ModuleSource.builtin.find? spec = some m) : (spec.name, m) ∈ Module.builtin := by
  rcases mem_of_find?_registered h with hin | hnone
  · exact hin
  · simp [ModuleSource.find?] at hnone

lemma find?_of_fetch {source : ModuleSource Module} {spec : ModuleSpec} {m : Module}
    (h : source.fetch spec = .ok m) : source.find? spec = some m := by
  unfold ModuleSource.fetch at h
  split at h
  case h_1 hfind =>
    cases h
    exact hfind
  case h_2 => cases h

/-- What a plugin adds is what a module adds that was found for it. -/
lemma module_of_handler {source : ModuleSource Module} {deltas : Handler} {d : PluginDescriptor}
    {added : String × Handler}
    (h : added ∈ ((Loader.ofSource source deltas).load d ()).1.installation.handlers) :
    ∃ spec m, source.find? spec = some m ∧ added ∈ (m.init deltas).handlers := by
  unfold Loader.load at h
  split at h
  case isTrue => cases h
  split at h
  case isTrue => cases h
  split at h
  case h_1 => cases h
  case h_2 version _ =>
    dsimp only at h
    cases hfetch : source.fetch ⟨d.name, version⟩ with
    | error e =>
      simp only [Loader.ofSource, hfetch] at h
      cases h
    | ok m =>
      refine ⟨_, m, find?_of_fetch hfetch, ?_⟩
      simp only [Loader.ofSource, hfetch] at h
      split at h
      case h_1 => exact h
      case h_2 => exact h

/-- Every handler that a plugin which comes with the client adds follows deltas. -/
lemma handlers_load_builtin (deltas : Handler) (ds : List PluginDescriptor) :
    ∀ added ∈ (LoadReport.load .builtin deltas ds).handlers,
      added.1 ∈ deltaTasks ∧ added.2 = deltas := by
  intro added hadded
  obtain ⟨p, hp, hin⟩ := List.mem_flatMap.1 hadded
  rw [LoadReport.plugins_load] at hp
  obtain ⟨d, -, rfl⟩ := List.mem_map.1 hp
  obtain ⟨spec, m, hfind, hinit⟩ := module_of_handler hin
  exact handlers_builtin deltas _ (mem_builtin_of_find? hfind) added hinit

/-! ### Clients -/

namespace Client

/-- A client that has joined and loaded plugins that come with it has the handlers that every client
has, and handlers of deltas. -/
theorem isStandard_loadPlugins (options : ClientOptions) (channel : MemoryChannel) (view : V)
    (server : Server) :
    ((join options channel view server).loadPlugins .builtin).dispatcher.IsStandard :=
  Dispatcher.isStandard_core.registerAll fun added hadded =>
    (handlers_load_builtin _ _ added hadded).imp_right fun hdeltas => ⟨true, hdeltas⟩

variable [View V] {c : Client V}

/-- A frame for a handler that is not laid down as data changes at most the room, and not even that
if the handler fails. -/
lemma handle_of_handler {text : String} {e : Envelope} {h : Handler}
    (hparse : Envelope.parse text = .ok e) (hfind : c.dispatcher.handler? e.task = some h)
    (hfixed : h.IsFixed) :
    c.handle text = (Dispatcher.outcome e.task (h.run e.parameters c.room).1.result,
      { c with room := (h.run e.parameters c.room).2 }) := by
  simp [handle, Dispatcher.dispatch, Dispatcher.deliver, Dispatcher.registerAll, hparse, hfind,
    Handler.registers_of_isFixed hfixed]

/-- A frame is handled and changes at most the room, or it is not handled and changes nothing. -/
lemma handle_cases (hd : c.dispatcher.IsStandard) (text : String) :
    ((c.handle text).1.isHandled = true ∧ ∃ room, (c.handle text).2 = { c with room }) ∨
      ((c.handle text).1.isHandled = false ∧ (c.handle text).2 = c) := by
  cases hparse : Envelope.parse text with
  | error => exact .inr (by simp [handle, Dispatcher.dispatch, hparse, Outcome.isHandled])
  | ok e =>
    cases hfind : c.dispatcher.handler? e.task with
    | none =>
      refine .inr ?_
      simp [handle, Dispatcher.dispatch, Dispatcher.deliver, hparse, hfind, Outcome.isHandled]
    | some handler =>
      have hfixed : handler.IsFixed := hd.isFixed hfind
      rw [handle_of_handler hparse hfind hfixed]
      cases hresult : (handler.run e.parameters c.room).1.result with
      | ok => exact .inl ⟨rfl, _, rfl⟩
      | error => exact .inr ⟨rfl, by rw [Handler.room_of_failed hfixed hresult]⟩

/-- A frame leaves the handlers of a client as they are. -/
lemma dispatcher_handle (hd : c.dispatcher.IsStandard) (text : String) :
    (c.handle text).2.dispatcher = c.dispatcher := by
  rcases handle_cases hd text with ⟨-, room, hroom⟩ | ⟨-, hsame⟩
  · rw [hroom]
  · rw [hsame]

/-- A frame that is not followed leaves a client exactly as it was. -/
theorem handle_of_not_handled (hd : c.dispatcher.IsStandard) {text : String}
    (h : (c.handle text).1.isHandled = false) : (c.handle text).2 = c := by
  rcases handle_cases hd text with ⟨hhandled, -⟩ | ⟨-, hsame⟩
  · rw [h] at hhandled
    cases hhandled
  · exact hsame

/-- A client that has its identity refuses another one, and is left as it was. -/
theorem handle_of_not_handled_other_identity :
    let options : ClientOptions := ⟨"lobby", ⟨"http", "", "", none, none, .segments [], none, none⟩,
      ⟨5000⟩, ⟨16⟩⟩
    let joined : Client RecordingView := join options {} {} ⟨options.httpBase, true, ∅, []⟩
    let c : Client RecordingView :=
      { joined with
        room := { joined.room with session := ⟨some "s1"⟩ }
        dispatcher := joined.dispatcher.register Task.undo (.followMeshes true) }
    let text := "\x7b\"task\":\"initializeSession\",\"sessionUUID\":\"s2\"\x7d"
    (c.handle text).1
        = .handlerFailed Task.initializeSession (.session (.alreadyAssigned "s1" "s2")) ∧
      (c.handle text).2 = c := by
  intro options joined c text
  have hstandard : c.dispatcher.IsStandard :=
    Dispatcher.isStandard_core.register (by decide) true
  have houtcome : (c.handle text).1
      = .handlerFailed Task.initializeSession (.session (.alreadyAssigned "s1" "s2")) := by
    decide +kernel
  exact ⟨houtcome, handle_of_not_handled hstandard (by rw [houtcome]; rfl)⟩

/-! ### Runs of frames -/

/-- Dispatch frames one after the other. -/
def handleAll (texts : List String) (c : Client V) : Client V :=
  texts.foldl (fun c text => (c.handle text).2) c

/-- The frames of a run that are followed. -/
def followed : List String → Client V → List String
  | [], _ => []
  | text :: texts, c =>
    let (outcome, c) := c.handle text
    if outcome.isHandled then text :: followed texts c else followed texts c

/-- A client is where it would be without the frames that it did not follow. -/
theorem handleAll_followed (hd : c.dispatcher.IsStandard) (texts : List String) :
    c.handleAll (followed texts c) = c.handleAll texts := by
  induction texts generalizing c with
  | nil => rfl
  | cons text texts ih =>
    have hrest := ih (c := (c.handle text).2) (dispatcher_handle hd text ▸ hd)
    rcases handle_cases hd text with ⟨hhandled, -⟩ | ⟨hhandled, hsame⟩
    · simpa [followed, handleAll, hhandled] using hrest
    · rw [hsame] at hrest
      simpa [followed, handleAll, hhandled, hsame] using hrest

end Client

end MeshRoom
