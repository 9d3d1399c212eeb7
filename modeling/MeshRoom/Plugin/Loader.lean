import MeshRoom.Plugin.Module
import MeshRoom.Wire.Plugin

/-!
# Loading plugins

Plugins are loaded in the order of their descriptors, those that are installed and have a module.
A plugin that fails is told, and the others are loaded all the same.

Modules are of any type `M`; where they come from and how they are initialised is given by a loader,
and both may depend on a state `σ` and change it.
-/

namespace MeshRoom

open Json Wire

/-- Why a plugin fails to load. Why a module is unavailable is said by where it is looked for. -/
inductive PluginError where
  | noVersion (name : String)
  | moduleNotFound (path : String)
  | unavailable (message : String)
  | init (name : String) (e : HandlerError)
deriving DecidableEq, Repr

/-- What is told about a plugin that fails to load. -/
def PluginError.message : PluginError → String
  | .noVersion name => "plugin " ++ name ++ " advertises no concrete version"
  | .moduleNotFound path => "no module at " ++ path
  | .unavailable message => message
  | .init name e => "plugin " ++ name ++ " failed to initialise: " ++ e.message

/-- The module of a version, or that there is none. -/
def ModuleSource.fetch {M : Type} (source : ModuleSource M) (spec : ModuleSpec) :
    Except PluginError M :=
  match source.find? spec with
  | some m => .ok m
  | none => .error (.moduleNotFound spec.path)

/-- Why there is no list of plugins. -/
inductive ListingError where
  | request (e : RequestError)
  | descriptors
deriving DecidableEq, Repr

/-- What became of a plugin. -/
inductive PluginFate where
  | notInstalled
  | noModule
  | loaded (spec : ModuleSpec)
  | failed (e : PluginError)
deriving DecidableEq, Repr

/-- A plugin with its fate, and what its module did. -/
structure LoadedPlugin where
  name : String
  fate : PluginFate
  installation : Installation := {}

namespace LoadedPlugin

/-- The event that a plugin's failure causes. -/
def event? (p : LoadedPlugin) : Option Event :=
  match p.fate with
  | .failed e => some (.pluginFailed p.name e.message)
  | _ => none

end LoadedPlugin

/-- The plugins of a list, each with its fate. -/
structure LoadReport where
  plugins : List LoadedPlugin := []

namespace LoadReport

/-- The plugins that were loaded. -/
def loaded (r : LoadReport) : List ModuleSpec :=
  r.plugins.filterMap fun p => match p.fate with | .loaded spec => some spec | _ => none

def loadedNames (r : LoadReport) : List String := r.loaded.map ModuleSpec.name

/-- The plugins that were passed over. -/
def skipped (r : LoadReport) : List (String × PluginFate) :=
  r.plugins.filterMap fun p =>
    match p.fate with
    | .notInstalled | .noModule => some (p.name, p.fate)
    | _ => none

/-- The plugins that failed. -/
def failed (r : LoadReport) : List (String × PluginError) :=
  r.plugins.filterMap fun p => match p.fate with | .failed e => some (p.name, e) | _ => none

def events (r : LoadReport) : List Event := r.plugins.filterMap LoadedPlugin.event?

/-- The handlers that the modules add. -/
def handlers (r : LoadReport) : List (String × Handler) :=
  r.plugins.flatMap fun p => p.installation.handlers

/-- The hooks that the modules add. -/
def hooks (r : LoadReport) : List Hook := r.plugins.flatMap fun p => p.installation.hooks

/-- What the modules log. -/
def log (r : LoadReport) : List LogEntry := r.plugins.flatMap fun p => p.installation.log

end LoadReport

/-! ### Loaders -/

/-- What loads plugins: where the module of a version comes from, how a module is initialised, and
whether failures are told. -/
structure Loader (M σ : Type) where
  find : ModuleSpec → σ → Except PluginError M × σ
  init : M → σ → Installation × σ
  reporting : Bool := true

/-- What came of loading plugins: the report, the events it caused, and the state after it. -/
structure Loading (σ : Type) where
  report : LoadReport := {}
  events : List Event := []
  state : σ

namespace Loader

variable {M σ : Type}

/-- Load the plugin of a descriptor. -/
def load (l : Loader M σ) (d : PluginDescriptor) (s : σ) : LoadedPlugin × σ :=
  if !d.isInstalled then ({ name := d.name, fate := .notInstalled }, s)
  else if !d.hasModule then ({ name := d.name, fate := .noModule }, s)
  else
    match d.resolvedVersion? with
    | none => ({ name := d.name, fate := .failed (.noVersion d.name) }, s)
    | some version =>
      let spec : ModuleSpec := ⟨d.name, version⟩
      match l.find spec s with
      | (.error e, s) => ({ name := d.name, fate := .failed e }, s)
      | (.ok m, s) =>
        let (installation, s) := l.init m s
        match installation.result with
        | .ok () => ({ name := d.name, fate := .loaded spec, installation }, s)
        | .error e => ({ name := d.name, fate := .failed (.init d.name e), installation }, s)

/-- The events that the fate of a plugin causes. -/
def eventsOf (l : Loader M σ) (p : LoadedPlugin) : List Event :=
  if l.reporting then p.event?.toList else []

/-- Load plugins one after the other. -/
def loadAll (l : Loader M σ) : List PluginDescriptor → σ → Loading σ
  | [], s => { state := s }
  | d :: ds, s =>
    let (p, s) := l.load d s
    let rest := l.loadAll ds s
    { report := ⟨p :: rest.report.plugins⟩
      events := l.eventsOf p ++ rest.events
      state := rest.state }

/-- The loader of modules that are laid down. What they do depends on no state. -/
def ofSource (source : ModuleSource Module) (deltas : Handler) : Loader Module Unit where
  find spec _ := (source.fetch spec, ())
  init m _ := (m.init deltas, ())

end Loader

namespace LoadReport

/-- Load plugins whose modules are laid down. -/
def load (source : ModuleSource Module) (deltas : Handler) (ds : List PluginDescriptor) :
    LoadReport :=
  ((Loader.ofSource source deltas).loadAll ds ()).report

/-- Of modules that are laid down, each is loaded as it would be alone. -/
theorem plugins_load (source : ModuleSource Module) (deltas : Handler)
    (ds : List PluginDescriptor) :
    (load source deltas ds).plugins
      = ds.map fun d => ((Loader.ofSource source deltas).load d ()).1 := by
  induction ds with
  | nil => rfl
  | cons d ds ih => exact congrArg (_ :: ·) ih

end LoadReport

/-! ### Talking to the server -/

namespace Requester

/-- Ask for the list of plugins. -/
def listPlugins (r : Requester) (own : Session) (server : Server) :
    Except ListingError (List PluginDescriptor) × List Event × Server :=
  let called := r.callAs .value own Task.listPlugins (.object []) server
  let result := match called.result with
    | .error e => .error (.request e)
    | .ok v =>
      match PluginDescriptor.listOfValue? v with
      | some ds => .ok ds
      | none => .error .descriptors
  (result, called.events, called.server)

/-- Ask for other versions of plugins. -/
def updatePlugins (r : Requester) (own : Session) (selections : List PluginSelection)
    (server : Server) : Called String :=
  let payload := Document.array (selections.map PluginSelection.document)
  r.call own Task.updatePlugins payload.toValue server

end Requester

end MeshRoom
