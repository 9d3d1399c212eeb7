import MeshRoom.Plugin.Loader
import Mathlib.Data.List.Forall2
import Mathlib.Tactic.Lemma

/-!
# Loading in turn

However modules are come by, and whatever they do when they are initialised, every descriptor of a
list has its turn, one after the other, and one outcome: its plugin is passed over, loaded, or
failed. A module is initialised in the turn of a descriptor for which it was found, once, and in no
other.

What is told are the failures, in order. Loading two lists one after the other is loading them as
one list, and where modules do not depend on each other a plugin fares as it would alone.
-/

namespace MeshRoom

open Wire

/-! ### The version to load -/

namespace Wire.PluginDescriptor

variable {d : PluginDescriptor} {v : String}

lemma isConcrete_iff : isConcrete v = true ↔ v ≠ "" ∧ v ≠ latestVersion := by
  simp [isConcrete]

lemma isInstalled_iff : d.isInstalled = true ↔ d.installedVersion ≠ "" := by
  simp [isInstalled]

/-- How a descriptor selects a version: the one that it pins, else the newest it advertises, else
the first that it lists, of those that name one version. -/
inductive Selects (d : PluginDescriptor) : String → Prop where
  | pinned (h : isConcrete d.installedVersion = true) : Selects d d.installedVersion
  | newest {v : String} (h : d.installedVersion = latestVersion) (hnewest : d.latest = some v)
      (hv : isConcrete v = true) : Selects d v
  | listed {v : String} {before after : List String} (h : d.installedVersion = latestVersion)
      (hnewest : ∀ w, d.latest = some w → isConcrete w = false)
      (hlisted : d.versions = before ++ v :: after)
      (hbefore : ∀ w ∈ before, isConcrete w = false) (hv : isConcrete v = true) : Selects d v

lemma Selects.isConcrete (h : d.Selects v) : Wire.isConcrete v = true := by
  cases h <;> assumption

lemma find?_listed_iff (versions : List String) :
    versions.find? Wire.isConcrete = some v ↔ Wire.isConcrete v = true ∧
      ∃ before after, versions = before ++ v :: after ∧
        ∀ w ∈ before, Wire.isConcrete w = false := by
  rw [List.find?_eq_some_iff_append]
  simp

/-- A descriptor resolves to the version it selects. -/
lemma resolvedVersion?_eq_some_iff : d.resolvedVersion? = some v ↔ d.Selects v := by
  unfold resolvedVersion?
  split
  case isTrue hlatest =>
    have hunpinned : Wire.isConcrete d.installedVersion = false := by
      simp [Wire.isConcrete, hlatest]
    rw [List.find?_append, Option.or_eq_some_iff, find?_listed_iff d.versions]
    constructor
    · rintro (hnewest | ⟨hnewest, hv, before, after, hlisted, hbefore⟩)
      · have hmem := List.mem_of_find?_eq_some hnewest
        exact .newest hlatest (Option.mem_toList.1 hmem) (List.find?_some hnewest)
      · refine .listed hlatest (fun w hw => ?_) hlisted hbefore hv
        simpa using List.find?_eq_none.1 hnewest w (Option.mem_toList.2 hw)
    · intro h
      cases h with
      | pinned h => simp [h] at hunpinned
      | newest _ hnewest hv => exact .inl (by simp [hnewest, hv])
      | @listed _ before after _ hnewest hlisted hbefore hv =>
        refine .inr ⟨List.find?_eq_none.2 fun w hw => ?_, hv, before, after, hlisted, hbefore⟩
        simpa using hnewest w (Option.mem_toList.1 hw)
  case isFalse hlatest =>
    constructor
    · intro h
      split at h
      case isTrue hinstalled =>
        obtain rfl := Option.some.inj h
        exact .pinned (isConcrete_iff.2 ⟨isInstalled_iff.1 hinstalled, hlatest⟩)
      case isFalse => cases h
    · intro h
      cases h with
      | pinned h => rw [if_pos (isInstalled_iff.2 (isConcrete_iff.1 h).1)]
      | newest h => exact absurd h hlatest
      | listed h => exact absurd h hlatest

end Wire.PluginDescriptor

/-! ### Reports -/

/-- What is kept of one side of a correspondence corresponds to a part of the other side. -/
lemma exists_sublist_of_forall₂ {α β γ : Type} {R : α → β → Prop} (f : β → Option γ) {xs : List α}
    {ys : List β} (h : List.Forall₂ R xs ys) :
    ∃ zs, zs.Sublist xs ∧
      List.Forall₂ (fun x z => ∃ y, R x y ∧ f y = some z) zs (ys.filterMap f) := by
  induction h with
  | nil => exact ⟨[], .slnil, .nil⟩
  | @cons x y xs ys hxy _ ih =>
    obtain ⟨zs, hsub, hzs⟩ := ih
    cases hf : f y with
    | none => exact ⟨zs, hsub.cons x, by simpa [hf] using hzs⟩
    | some z => exact ⟨x :: zs, hsub.cons_cons x, by simpa [hf] using ⟨⟨y, hxy, hf⟩, hzs⟩⟩

namespace LoadReport

lemma length_parts (r : LoadReport) :
    r.loaded.length + r.skipped.length + r.failed.length = r.plugins.length := by
  obtain ⟨ps⟩ := r
  induction ps with
  | nil => rfl
  | cons p ps ih =>
    simp only [LoadReport.loaded, LoadReport.skipped, LoadReport.failed, List.length_cons] at ih ⊢
    cases hfate : p.fate <;> simp only [List.filterMap_cons, hfate, List.length_cons] <;> omega

/-- The events of a report are its failures, told in their order and in their words. -/
lemma events_eq_map_failed (r : LoadReport) :
    r.events = r.failed.map fun entry => .pluginFailed entry.1 entry.2.message := by
  unfold LoadReport.events LoadReport.failed
  rw [List.map_filterMap]
  congr 1
  funext p
  unfold LoadedPlugin.event?
  cases p.fate <;> rfl

end LoadReport

namespace Loader

variable {M σ : Type}

/-! ### Turns -/

/-- An initialisation: the module, and what it did. -/
structure InitCall (M : Type) where
  module : M
  installation : Installation

/-- Load plugins and note the initialisations. -/
def noting (l : Loader M σ) : Loader M (List (InitCall M) × σ) where
  find spec := fun (calls, s) =>
    let found := l.find spec s
    (found.1, calls, found.2)
  init m := fun (calls, s) =>
    let done := l.init m s
    (done.1, calls ++ [⟨m, done.1⟩], done.2)
  reporting := l.reporting

/-- A descriptor of a plugin that is to be loaded. -/
def IsDue (d : PluginDescriptor) : Prop := d.installedVersion ≠ "" ∧ d.hasModule = true

/-- How the turn of a descriptor goes: what becomes of the plugin, which modules are initialised,
and the state afterwards. -/
inductive Turn (l : Loader M σ) (d : PluginDescriptor) (s : σ) :
    LoadedPlugin → List (InitCall M) → σ → Prop where
  | notInstalled (h : d.installedVersion = "") :
      Turn l d s { name := d.name, fate := .notInstalled } [] s
  | noModule (h : d.installedVersion ≠ "") (hmodule : d.hasModule = false) :
      Turn l d s { name := d.name, fate := .noModule } [] s
  | noVersion (hdue : IsDue d) (hversion : ∀ v, ¬ d.Selects v) :
      Turn l d s { name := d.name, fate := .failed (.noVersion d.name) } [] s
  | notFound {v : String} {e : PluginError} {s' : σ} (hdue : IsDue d) (hversion : d.Selects v)
      (hfind : l.find ⟨d.name, v⟩ s = (.error e, s')) :
      Turn l d s { name := d.name, fate := .failed e } [] s'
  | failed {v : String} {m : M} {installation : Installation} {e : HandlerError} {s' s'' : σ}
      (hdue : IsDue d) (hversion : d.Selects v) (hfind : l.find ⟨d.name, v⟩ s = (.ok m, s'))
      (hinit : l.init m s' = (installation, s'')) (hresult : installation.result = .error e) :
      Turn l d s { name := d.name, fate := .failed (.init d.name e), installation }
        [⟨m, installation⟩] s''
  | loaded {v : String} {m : M} {installation : Installation} {s' s'' : σ}
      (hdue : IsDue d) (hversion : d.Selects v) (hfind : l.find ⟨d.name, v⟩ s = (.ok m, s'))
      (hinit : l.init m s' = (installation, s'')) (hresult : installation.result = .ok ()) :
      Turn l d s { name := d.name, fate := .loaded ⟨d.name, v⟩, installation }
        [⟨m, installation⟩] s''

/-- Descriptors that have their turns one after the other. -/
inductive Turns (l : Loader M σ) :
    List PluginDescriptor → σ → List LoadedPlugin → List (InitCall M) → σ → Prop where
  | nil (s : σ) : Turns l [] s [] [] s
  | cons {d : PluginDescriptor} {ds : List PluginDescriptor} {p : LoadedPlugin}
      {ps : List LoadedPlugin} {calls calls' : List (InitCall M)} {s s' s'' : σ}
      (h : Turn l d s p calls s') (hs : Turns l ds s' ps calls' s'') :
      Turns l (d :: ds) s (p :: ps) (calls ++ calls') s''

variable (l : Loader M σ)

/-- Loading a plugin is the turn of its descriptor, and so it is with the initialisations noted. -/
lemma exists_turn (d : PluginDescriptor) (s : σ) (calls : List (InitCall M)) :
    ∃ new, l.noting.load d (calls, s) = ((l.load d s).1, calls ++ new, (l.load d s).2) ∧
      Turn l d s (l.load d s).1 new (l.load d s).2 := by
  unfold load
  by_cases hinstalled : d.isInstalled = true
  case neg =>
    have hnone : d.installedVersion = "" := by
      simpa using mt PluginDescriptor.isInstalled_iff.2 hinstalled
    exact ⟨[], by simp [hinstalled], by simpa [hinstalled] using Turn.notInstalled hnone⟩
  have hsome := PluginDescriptor.isInstalled_iff.1 hinstalled
  by_cases hmodule : d.hasModule = true
  case neg =>
    rw [Bool.not_eq_true] at hmodule
    exact ⟨[], by simp [hinstalled, hmodule],
      by simpa [hinstalled, hmodule] using Turn.noModule hsome hmodule⟩
  have hdue : IsDue d := ⟨hsome, hmodule⟩
  simp only [hinstalled, hmodule, Bool.not_true, Bool.false_eq_true, if_false]
  cases hversion : d.resolvedVersion? with
  | none =>
    refine ⟨[], by simp, .noVersion hdue fun v hv => ?_⟩
    rw [PluginDescriptor.resolvedVersion?_eq_some_iff.2 hv] at hversion
    cases hversion
  | some v =>
    have hselects := PluginDescriptor.resolvedVersion?_eq_some_iff.1 hversion
    obtain ⟨found, s', hfind⟩ : ∃ found s', l.find ⟨d.name, v⟩ s = (found, s') := ⟨_, _, rfl⟩
    cases found with
    | error e =>
      exact ⟨[], by simp [noting, hfind],
        by simpa [hfind] using Turn.notFound hdue hselects hfind⟩
    | ok m =>
      obtain ⟨installation, s'', hinit⟩ : ∃ i s'', l.init m s' = (i, s'') := ⟨_, _, rfl⟩
      refine ⟨[⟨m, installation⟩], ?_⟩
      cases hresult : installation.result with
      | error e =>
        exact ⟨by simp [noting, hfind, hinit, hresult],
          by simpa [hfind, hinit, hresult] using Turn.failed hdue hselects hfind hinit hresult⟩
      | ok =>
        exact ⟨by simp [noting, hfind, hinit, hresult],
          by simpa [hfind, hinit, hresult] using Turn.loaded hdue hselects hfind hinit hresult⟩

/-- Loading a list is the turns of its descriptors. -/
lemma exists_turns (ds : List PluginDescriptor) (s : σ) (calls : List (InitCall M)) :
    ∃ new, (l.noting.loadAll ds (calls, s)).state = (calls ++ new, (l.loadAll ds s).state) ∧
      Turns l ds s (l.loadAll ds s).report.plugins new (l.loadAll ds s).state := by
  induction ds generalizing s calls with
  | nil => exact ⟨[], by simp [loadAll], .nil s⟩
  | cons d ds ih =>
    obtain ⟨new, hnoted, hturn⟩ := l.exists_turn d s calls
    obtain ⟨more, hstate, hturns⟩ := ih (l.load d s).2 (calls ++ new)
    refine ⟨new ++ more, ?_, .cons hturn hturns⟩
    simp only [loadAll, hnoted]
    rw [hstate, List.append_assoc]

/-! ### One outcome each -/

lemma Turns.forall₂ {l : Loader M σ} {ds : List PluginDescriptor} {s s' : σ}
    {ps : List LoadedPlugin} {calls : List (InitCall M)} (h : Turns l ds s ps calls s') :
    List.Forall₂ (fun d p => ∃ s calls s', Turn l d s p calls s') ds ps := by
  induction h with
  | nil => exact .nil
  | cons h _ ih => exact .cons ⟨_, _, _, h⟩ ih

/-- How a report accounts for a list of descriptors: those that were loaded, skipped and failed are
parts of the list, in its order, and no descriptor is left over. -/
structure Accounts (r : LoadReport) (ds : List PluginDescriptor) : Prop where
  loaded : ∃ part : List PluginDescriptor, part.Sublist ds ∧
    List.Forall₂ (fun d (spec : ModuleSpec) => IsDue d ∧ spec.name = d.name ∧
      d.Selects spec.version ∧ spec.version ≠ "" ∧ spec.version ≠ latestVersion) part r.loaded
  skipped : ∃ part : List PluginDescriptor, part.Sublist ds ∧
    List.Forall₂ (fun d (entry : String × PluginFate) => entry.1 = d.name ∧
      (d.installedVersion = "" ∧ entry.2 = .notInstalled ∨
        d.installedVersion ≠ "" ∧ d.hasModule = false ∧ entry.2 = .noModule)) part r.skipped
  failed : ∃ part : List PluginDescriptor, part.Sublist ds ∧
    List.Forall₂ (fun d (entry : String × PluginError) => IsDue d ∧ entry.1 = d.name) part r.failed
  length : r.loaded.length + r.skipped.length + r.failed.length = ds.length

lemma Turns.accounts {l : Loader M σ} {ds : List PluginDescriptor} {s s' : σ} {r : LoadReport}
    {calls : List (InitCall M)} (h : Turns l ds s r.plugins calls s') : Accounts r ds where
  loaded := by
    obtain ⟨part, hsub, hpart⟩ := exists_sublist_of_forall₂ _ h.forall₂
    refine ⟨part, hsub, hpart.imp ?_⟩
    rintro d spec ⟨p, ⟨s, calls, s', hturn⟩, hfate⟩
    cases hturn with
    | loaded hdue hversion =>
      cases hfate
      exact ⟨hdue, rfl, hversion, PluginDescriptor.isConcrete_iff.1 hversion.isConcrete⟩
    | _ => cases hfate
  skipped := by
    obtain ⟨part, hsub, hpart⟩ := exists_sublist_of_forall₂ _ h.forall₂
    refine ⟨part, hsub, hpart.imp ?_⟩
    rintro d entry ⟨p, ⟨s, calls, s', hturn⟩, hfate⟩
    cases hturn with
    | notInstalled h =>
      cases hfate
      exact ⟨rfl, .inl ⟨h, rfl⟩⟩
    | noModule h hmodule =>
      cases hfate
      exact ⟨rfl, .inr ⟨h, hmodule, rfl⟩⟩
    | _ => cases hfate
  failed := by
    obtain ⟨part, hsub, hpart⟩ := exists_sublist_of_forall₂ _ h.forall₂
    refine ⟨part, hsub, hpart.imp ?_⟩
    rintro d entry ⟨p, ⟨s, calls, s', hturn⟩, hfate⟩
    cases hturn with
    | notInstalled | noModule | loaded => cases hfate
    | noVersion hdue | notFound hdue | failed hdue =>
      cases hfate
      exact ⟨hdue, rfl⟩
  length := r.length_parts.trans h.forall₂.length_eq.symm

/-! ### What is told -/

lemma eventsOf_eq (p : LoadedPlugin) (ps : List LoadedPlugin) :
    l.eventsOf p ++ (if l.reporting then ps.filterMap LoadedPlugin.event? else [])
      = if l.reporting then (p :: ps).filterMap LoadedPlugin.event? else [] := by
  unfold eventsOf
  split
  case isTrue => cases h : p.event? <;> simp [h]
  case isFalse => rfl

lemma events_loadAll (ds : List PluginDescriptor) (s : σ) :
    (l.loadAll ds s).events = if l.reporting then (l.loadAll ds s).report.events else [] := by
  induction ds generalizing s with
  | nil => exact (ite_self _).symm
  | cons d ds ih =>
    show l.eventsOf _ ++ (l.loadAll ds _).events = _
    rw [ih]
    exact l.eventsOf_eq _ _

/-! ### Independent modules -/

/-- Modules do not depend on each other if neither whether one is found nor whether its
initialisation succeeds depends on what was done before. -/
structure Independent (l : Loader M σ) : Prop where
  find (spec : ModuleSpec) (s s' : σ) : (l.find spec s).1 = (l.find spec s').1
  init (m : M) (s s' : σ) : (l.init m s).1.result = (l.init m s').1.result

lemma Independent.fate_load {l : Loader M σ} (h : l.Independent) (d : PluginDescriptor) (s s' : σ) :
    (l.load d s).1.fate = (l.load d s').1.fate := by
  unfold load
  split
  case isTrue => rfl
  split
  case isTrue => rfl
  cases d.resolvedVersion? with
  | none => rfl
  | some v =>
    have hfind := h.find ⟨d.name, v⟩ s s'
    obtain ⟨found, t, ht⟩ : ∃ found t, l.find ⟨d.name, v⟩ s = (found, t) := ⟨_, _, rfl⟩
    obtain ⟨found', t', ht'⟩ : ∃ found t, l.find ⟨d.name, v⟩ s' = (found, t) := ⟨_, _, rfl⟩
    rw [ht, ht'] at hfind
    obtain rfl : found = found' := hfind
    cases found with
    | error e => simp [ht, ht']
    | ok m =>
      have hinit := h.init m t t'
      simp only [ht, ht', ← hinit]
      cases (l.init m t).1.result <;> rfl

/-- A plugin fares as it would alone. -/
lemma Independent.fates_loadAll {l : Loader M σ} (h : l.Independent) (ds : List PluginDescriptor)
    (s s₀ : σ) : (l.loadAll ds s).report.plugins.map LoadedPlugin.fate
      = ds.map fun d => (l.load d s₀).1.fate := by
  induction ds generalizing s with
  | nil => rfl
  | cons d ds ih =>
    show (l.load d s).1.fate :: (l.loadAll ds (l.load d s).2).report.plugins.map _ = _
    rw [ih, h.fate_load d s s₀, List.map_cons]

/-! ### One list after the other -/

/-- What came of two loadings makes up what came of a third one. -/
structure Joins (first second both : Loading σ) : Prop where
  loaded : both.report.loaded = first.report.loaded ++ second.report.loaded
  skipped : both.report.skipped = first.report.skipped ++ second.report.skipped
  failed : both.report.failed = first.report.failed ++ second.report.failed
  handlers : both.report.handlers = first.report.handlers ++ second.report.handlers
  hooks : both.report.hooks = first.report.hooks ++ second.report.hooks
  log : both.report.log = first.report.log ++ second.report.log
  events : both.events = first.events ++ second.events
  state : both.state = second.state

lemma loadAll_append (ds ds' : List PluginDescriptor) (s : σ) :
    let first := l.loadAll ds s
    let second := l.loadAll ds' first.state
    l.loadAll (ds ++ ds') s =
      { report := ⟨first.report.plugins ++ second.report.plugins⟩
        events := first.events ++ second.events
        state := second.state } := by
  induction ds generalizing s with
  | nil => rfl
  | cons d ds ih =>
    simp only [List.cons_append, loadAll, ih, List.append_assoc]

lemma joins_loadAll (ds ds' : List PluginDescriptor) (s : σ) :
    let first := l.loadAll ds s
    Joins first (l.loadAll ds' first.state) (l.loadAll (ds ++ ds') s) := by
  intro first
  rw [loadAll_append]
  exact ⟨List.filterMap_append, List.filterMap_append, List.filterMap_append,
    List.flatMap_append, List.flatMap_append, List.flatMap_append, rfl, rfl⟩

/-- Loading gives every descriptor its turn, in the order of the list: the plugin is passed over or
its module is looked for, and a module that is found is initialised once. The report accounts for
the list, its failures are what is told, modules that do not depend on each other fare as they would
alone, and lists that are loaded one after the other are loaded as one. -/
theorem loaded_in_turn (s : σ) (ds : List PluginDescriptor) :
    let loading := l.loadAll ds s
    let report := loading.report
    Turns l ds s report.plugins (l.noting.loadAll ds ([], s)).state.1 loading.state ∧
    Accounts report ds ∧
    loading.events = (if l.reporting then
      report.failed.map fun entry => .pluginFailed entry.1 entry.2.message else []) ∧
    (l.Independent → ∀ s₀, report.plugins.map LoadedPlugin.fate
      = ds.map fun d => (l.load d s₀).1.fate) ∧
    ∀ ds', Joins loading (l.loadAll ds' loading.state) (l.loadAll (ds ++ ds') s) := by
  intro loading report
  obtain ⟨calls, hstate, hturns⟩ := l.exists_turns ds s []
  refine ⟨?_, hturns.accounts, ?_, fun h => h.fates_loadAll ds s,
    fun ds' => l.joins_loadAll ds ds' s⟩
  · rw [hstate]
    exact hturns
  · rw [← LoadReport.events_eq_map_failed]
    exact l.events_loadAll ds s

/-- Modules that are laid down do not depend on each other: one that fails, one that is missing, and
a plugin without a version, leave the others alone. -/
theorem loaded_in_turn_laid_down :
    let source := (ModuleSource.builtin.register "bad" (.scripted "bad" (.fail "no")))
      |>.registerVersion ⟨"undo", "2.0"⟩ (.deltaTask Task.undo)
    let l := Loader.ofSource source (.followMeshes true)
    let ds : List PluginDescriptor := [
      { name := "bad", installedVersion := "1.0", hasModule := true },
      { name := "redo", hasModule := true },
      { name := "gone", installedVersion := "1.0", hasModule := true },
      { name := "loose", installedVersion := "latest", versions := ["latest", ""],
        hasModule := true },
      { name := "undo", installedVersion := "latest", versions := ["latest", "2.0"],
        hasModule := true }]
    l.Independent ∧ (l.loadAll ds ()).report.plugins.map LoadedPlugin.fate =
      [.failed (.init "bad" (.refusal "no")), .notInstalled,
        .failed (.moduleNotFound "plugin/gone_1.0/module.js"), .failed (.noVersion "loose"),
        .loaded ⟨"undo", "2.0"⟩] := by
  intro source l ds
  have hindependent : l.Independent := ⟨fun _ _ _ => rfl, fun _ _ _ => rfl⟩
  refine ⟨hindependent, ((loaded_in_turn l () ds).2.2.2.1 hindependent ()).trans ?_⟩
  decide +kernel

end Loader

end MeshRoom
