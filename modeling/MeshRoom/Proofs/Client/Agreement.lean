import MeshRoom.Proofs.Client.Rendering
import MeshRoom.View.Recording
import Mathlib.Logic.Relation

/-!
# Entries agree with the scene in the end

Deltas are applied, their reports are queued, and entries are rendered, each at its own time: a
report may be queued later than one of a later delta, and a mesh may be replaced or removed while
hooks add to its entry. An interface that follows the events still knows of every mesh what the
scene holds once no report is held back or queued and nothing is being rendered.

Until then a mesh of which it knows something else is noted down, in a report or by the renderer.
-/

namespace MeshRoom

open Json Relation Wire

/-! ### Interleavings -/

/-- A client at work, with the reports of deltas that have been applied, not yet queued. -/
structure AtWork (V : Type) where
  client : Client V
  held : List Report := []

namespace AtWork

open Client

variable {V : Type}

/-- Put a scene that a delta led to in place, and hold the report. -/
def hold (r : Report) (scene : Scene V) (w : AtWork V) : AtWork V :=
  ⟨{ w.client with room := { w.client.room with scene } }, w.held ++ [r]⟩

/-- What may happen to a client at work: a delta is applied, a report that is held is queued,
rendering goes on, or the client does something else. -/
inductive Step [View V] : AtWork V → AtWork V → Prop where
  | apply (delta : MeshDelta) (refresh : Bool) (w : AtWork V) :
      Step w
        (w.hold (w.client.room.scene.apply delta refresh).1
          (w.client.room.scene.apply delta refresh).2)
  | parameters {w : AtWork V} {v : Value} {r : Report} {scene : Scene V}
      (h : w.client.room.scene.applyParameters v = .ok (r, scene)) : Step w (w.hold r scene)
  | queue (before after : List Report) (r : Report) (c : Client V) :
      Step ⟨c, before ++ r :: after⟩ ⟨{ c with room := c.room.report r }, before ++ after⟩
  | render {c c' : Client V} {held : List Report} (h : c.render? = some c') :
      Step ⟨c, held⟩ ⟨c', held⟩
  | aside {c c' : Client V} {held : List Report} (h : c.Aside c') : Step ⟨c, held⟩ ⟨c', held⟩

/-- A mesh is on a list of the renderer, or on that list of a report that is held or queued. -/
def Noted (names : Report → List String) (first : List String) (w : AtWork V) (k : String) : Prop :=
  k ∈ first ∨ ∃ r ∈ w.held ++ w.client.room.reports, k ∈ names r

/-- What an interface will know of a mesh is what the scene holds, or the mesh is noted down. -/
structure Agrees (w : AtWork V) : Prop where
  keyed : w.client.room.scene.Keyed
  covered : ∀ k, Covered (w.client.expects k) w.client.room.scene.contents[k]?
    (Noted Report.removed w.client.renderer.gone w k)
    (Noted Report.shown w.client.renderer.shown w k)

variable {w : AtWork V}

lemma Noted.of_ne {names : Report → List String} {uuid k : String} {first : List String}
    (h : Noted names (uuid :: first) w k) (hk : k ≠ uuid) : Noted names first w k := by
  obtain hfirst | hreport := h
  · exact .inl (List.mem_of_ne_of_mem hk hfirst)
  · exact .inr hreport

lemma Noted.hold {names : Report → List String} {first : List String} {r : Report} {k : String}
    (scene : Scene V) (h : Noted names first w k ∨ k ∈ names r) :
    Noted names first (w.hold r scene) k := by
  obtain (hfirst | ⟨r', hr', hk⟩) | hk := h
  · exact .inl hfirst
  · refine .inr ⟨r', ?_, hk⟩
    simp only [AtWork.hold, List.mem_append] at hr' ⊢
    exact hr'.imp_left .inl
  · refine .inr ⟨r, ?_, hk⟩
    simp [AtWork.hold]

/-- A report that is queued goes on noting what it did. -/
lemma Noted.queue {names : Report → List String} {first : List String} {before after : List Report}
    {r : Report} {c : Client V} {k : String} (h : Noted names first ⟨c, before ++ r :: after⟩ k) :
    Noted names first ⟨{ c with room := c.room.report r }, before ++ after⟩ k := by
  obtain hfirst | ⟨r', hr', hk⟩ := h
  · exact .inl hfirst
  · refine .inr ⟨r', ?_, hk⟩
    simp only [Room.report, List.mem_append, List.mem_cons, List.not_mem_nil, or_false] at hr' ⊢
    obtain (hr' | hr' | hr') | hr' := hr'
    · exact .inl (.inl hr')
    · exact .inr (.inr hr')
    · exact .inl (.inr hr')
    · exact .inr (.inl hr')

/-- What a report notes is on the list of the renderer once it takes the report. -/
lemma Noted.take {names : Report → List String} {r : Report} {reports held : List Report}
    {c : Client V} {k : String} (hreports : c.room.reports = r :: reports)
    (h : Noted names [] ⟨c, held⟩ k) (renderer : Renderer) :
    Noted names (names r) ⟨{ c with room := { c.room with reports }, renderer }, held⟩ k := by
  obtain hfirst | ⟨r', hr', hk⟩ := h
  · cases hfirst
  · simp only [hreports, List.mem_append, List.mem_cons] at hr'
    obtain hr' | rfl | hr' := hr'
    · exact .inr ⟨r', List.mem_append_left _ hr', hk⟩
    · exact .inl hk
    · exact .inr ⟨r', List.mem_append_right _ hr', hk⟩

namespace Agrees

/-- A delta keeps agreement if its report names what it changes. -/
lemma hold (h : Agrees w) {r : Report} {scene : Scene V} (hkeyed : scene.Keyed)
    (hcovered : ∀ k, Covered w.client.room.scene.contents[k]? scene.contents[k]?
      (k ∈ r.removed) (k ∈ r.shown)) : Agrees (w.hold r scene) where
  keyed := hkeyed
  covered k := ((h.covered k).trans (hcovered k)).mono (Noted.hold scene) (Noted.hold scene)

lemma queue {before after : List Report} {r : Report} {c : Client V}
    (h : Agrees ⟨c, before ++ r :: after⟩) :
    Agrees ⟨{ c with room := c.room.report r }, before ++ after⟩ where
  keyed := h.keyed
  covered k := (h.covered k).mono Noted.queue Noted.queue

lemma aside {c c' : Client V} {held : List Report} (haside : c.Aside c') (h : Agrees ⟨c, held⟩) :
    Agrees ⟨c', held⟩ := by
  obtain ⟨es, hevents, hother⟩ := haside.events
  have hresource : ∀ k, c'.room.scene.resource? k = c.room.scene.resource? k := fun k => by
    rw [Scene.resource?, Scene.resource?, haside.meshes]
  have hexpects : ∀ k, c'.expects k = c.expects k := fun k => by
    rw [expects, expects, haside.mesh, hevents, Event.known_append_other hother]
  refine ⟨fun k r hr => h.keyed k r (hresource k ▸ hr), fun k => ?_⟩
  have hcovered := h.covered k
  simp only [Noted, Scene.getElem?_contents] at hcovered ⊢
  rwa [hexpects, hresource, haside.gone, haside.shown, haside.reports]

lemma render {c c' : Client V} {held : List Report} (hrule : RenderRule c c')
    (h : Agrees ⟨c, held⟩) : Agrees ⟨c', held⟩ := by
  cases hrule with
  | decorate haside => exact h.aside haside
  | update e hcurrent =>
    have hexpects : ∀ k, (Client.tell (.entryUpdated e)
        { c with renderer := { c.renderer with current := none } }).expects k = c.expects k := by
      intro k
      simp [expects, Renderer.mesh?, hcurrent, Client.tell, Room.tell, Event.getElem?_known_updated]
    exact ⟨h.keyed, fun k => hexpects k ▸ h.covered k⟩
  | present uuid gone hcurrent hgone hhas =>
    refine ⟨h.keyed, fun k => ?_⟩
    have hcovered := h.covered k
    rw [hgone] at hcovered
    cases hcovered with
    | agreed heq => exact .agreed heq
    | shown hsome hshown => exact .shown hsome hshown
    | gone hnone hgone =>
      refine .gone hnone (hgone.of_ne ?_)
      rintro rfl
      rw [Scene.has_eq_isSome] at hhas
      rw [Scene.getElem?_contents, Option.map_eq_none_iff] at hnone
      simp [hnone] at hhas
  | absent uuid gone hcurrent hgone hhas =>
    have hexpects : ∀ k, (Client.tell (.entryRemoved uuid)
        { c with renderer := { c.renderer with gone } }).expects k
          = if k = uuid then none else c.expects k := by
      intro k
      simp [expects, Renderer.mesh?, hcurrent, Client.tell, Room.tell, Event.getElem?_known_removed]
    refine ⟨h.keyed, fun k => ?_⟩
    rw [hexpects]
    by_cases hk : k = uuid
    · subst hk
      refine .agreed ?_
      rw [if_pos rfl, Scene.getElem?_contents]
      exact (Option.map_eq_none_iff.2 (Scene.resource?_of_not_has hhas)).symm
    · rw [if_neg hk]
      have hcovered := h.covered k
      rw [hgone] at hcovered
      exact hcovered.mono (·.of_ne hk) id
  | start uuid shown hcurrent hgone hshown =>
    refine ⟨h.keyed, fun k => ?_⟩
    have hcovered := h.covered k
    rw [hgone, hshown] at hcovered
    cases hr : c.room.scene.resource? uuid with
    | none =>
      cases hcovered with
      | agreed heq => exact .agreed (by simpa [expects, Renderer.mesh?, hcurrent] using heq)
      | gone hnone hgone => exact .gone hnone hgone
      | shown hsome hshown =>
        refine .shown hsome (hshown.of_ne ?_)
        rintro rfl
        simp [hr] at hsome
    | some r =>
      by_cases hk : k = uuid
      · subst hk
        refine .agreed ?_
        simp [expects, Renderer.mesh?, MeshEntry.ofResource, h.keyed k r hr, hr, MeshEntry.content,
          Resource.content]
      · have hne : k ≠ r.uuid := by rwa [h.keyed uuid r hr]
        refine (hcovered.mono id (·.of_ne hk)).of_eq ?_
        simp [expects, Renderer.mesh?, MeshEntry.ofResource, hcurrent, hne]
  | take r reports hcurrent hgone hshown hreports =>
    refine ⟨h.keyed, fun k => ?_⟩
    have hcovered := h.covered k
    rw [hgone, hshown] at hcovered
    refine (hcovered.mono (·.take hreports _) (·.take hreports _)).of_eq ?_
    simp [expects, Renderer.mesh?, hcurrent]

lemma step [View V] {w w' : AtWork V} (hstep : Step w w') (h : Agrees w) : Agrees w' := by
  cases hstep with
  | apply delta refresh =>
    exact h.hold (Scene.keyed_apply delta refresh h.keyed)
      (Scene.covered_apply delta refresh w.client.room.scene)
  | parameters hok =>
    obtain heq | ⟨delta, heq⟩ := Scene.applyParameters_ok hok
    · cases heq
      exact h.hold h.keyed fun k => .agreed rfl
    · cases heq
      exact h.hold (Scene.keyed_apply delta true h.keyed)
        (Scene.covered_apply delta true w.client.room.scene)
  | queue => exact h.queue
  | render hrender => exact h.render (.of_render? hrender)
  | aside haside => exact h.aside haside

lemma run [View V] {w w' : AtWork V} (hrun : ReflTransGen Step w w') (h : Agrees w) :
    Agrees w' := by
  induction hrun with
  | refl => exact h
  | tail _ hstep ih => exact ih.step hstep

end Agrees

lemma agrees_join [View V] (options : ClientOptions) (channel : MemoryChannel) (view : V)
    (server : Server) : Agrees ⟨join options channel view server, []⟩ where
  keyed := Scene.keyed_empty view
  covered k := by
    refine .agreed ?_
    simp [expects, Renderer.mesh?, join, Event.known, Scene.resource?]

/-! ### Operations of a client as runs -/

variable [View V]

/-- What the client does with a delta that it pulled is to apply it and to queue its report. -/
lemma run_applyMeshes (delta : MeshDelta) (c : Client V) (held : List Report) :
    ReflTransGen Step ⟨c, held⟩ ⟨{ c with room := c.room.applyMeshes delta }, held⟩ := by
  have hqueue := Step.queue held [] (c.room.scene.apply delta true).1
    { c with room := { c.room with scene := (c.room.scene.apply delta true).2 } }
  rw [List.append_nil] at hqueue
  exact .tail (.single (.apply delta true ⟨c, held⟩)) hqueue

/-- So is what it does with parameters of a frame that carry a delta. -/
lemma run_followMeshes {parameters : Value} {r : Report} {scene : Scene V} {c : Client V}
    (h : c.room.scene.applyParameters parameters = .ok (r, scene)) (held : List Report) :
    ReflTransGen Step ⟨c, held⟩
      ⟨{ c with room := ((Handler.followMeshes true).run parameters c.room).2 }, held⟩ := by
  have hqueue := Step.queue held [] r { c with room := { c.room with scene } }
  rw [List.append_nil] at hqueue
  have hrun : ((Handler.followMeshes true).run parameters c.room).2
      = Room.report r { c.room with scene } := by
    simp [Handler.run, h]
  rw [hrun]
  exact .tail (.single (.parameters (w := ⟨c, held⟩) h)) hqueue

lemma run_renderMany (n : Nat) (c : Client V) (held : List Report) :
    ReflTransGen Step ⟨c, held⟩ ⟨c.renderMany n, held⟩ := by
  induction n generalizing c with
  | zero => exact .refl
  | succ n ih =>
    unfold renderMany
    split
    case h_1 c' hrender => exact .head (.render hrender) (ih c')
    case h_2 => exact .refl

/-- Reports that are held may be queued in the order in which they were taken. -/
lemma run_queueAll (c : Client V) (held : List Report) :
    ReflTransGen Step ⟨c, held⟩
      ⟨{ c with room := { c.room with reports := c.room.reports ++ held } }, []⟩ := by
  induction held generalizing c with
  | nil => rw [List.append_nil]
  | cons r held ih =>
    have hrest := ih { c with room := c.room.report r }
    simp only [Room.report, List.append_assoc, List.singleton_append] at hrest
    exact .head (.queue [] held r c) hrest

/-- Whatever is held back or being rendered, a client can come to rest with the meshes it has. -/
theorem exists_run_idle (w : AtWork V) :
    ∃ c : Client V, ReflTransGen Step w ⟨c, []⟩ ∧ c.room.reports = [] ∧ c.renderer = {} ∧
      c.room.scene.meshes = w.client.room.scene.meshes := by
  obtain ⟨c, held⟩ := w
  let queued : Client V := { c with room := { c.room with reports := c.room.reports ++ held } }
  obtain ⟨hidle, hreports⟩ := renderMany_idle (Nat.le_refl queued.work)
  refine ⟨queued.renderAll, ?_, hreports, hidle, meshes_renderMany queued.work queued⟩
  exact (run_queueAll c held).trans (run_renderMany queued.work queued [])

/-! ### Agreement -/

/-- Once nothing is held back, queued or being rendered, an interface that has followed the events
of a client since it joined knows of every mesh what the scene holds. -/
theorem known_eq_contents (options : ClientOptions) (channel : MemoryChannel) (view : V)
    (server : Server) {w : AtWork V}
    (hrun : ReflTransGen Step ⟨join options channel view server, []⟩ w) (hheld : w.held = [])
    (hqueue : w.client.room.reports = []) (hidle : w.client.renderer = {}) :
    Event.known w.client.room.events = w.client.room.scene.contents := by
  have h : Agrees w := (agrees_join options channel view server).run hrun
  have hnone : ∀ names k, ¬ Noted names [] w k := by
    rintro names k (hfirst | ⟨r, hr, -⟩)
    · cases hfirst
    · rw [hheld, hqueue] at hr
      cases hr
  refine Std.ExtTreeMap.ext_getElem? fun k => ?_
  have hcovered := h.covered k
  rw [hidle] at hcovered
  rw [← hcovered.eq_of_none (hnone _ k) (hnone _ k)]
  simp [expects, hidle, Renderer.mesh?]

/-- A mesh that is removed while a hook adds to its entry is told gone after its entry. -/
theorem known_eq_contents_removed_while_rendered :
    let options : ClientOptions := ⟨"lobby", ⟨"http", "", "", none, none, .segments [], none, none⟩,
      ⟨5000⟩, ⟨16⟩⟩
    let mesh : Value := .object [("V", .string "")]
    let added : MeshDelta := ⟨[("a", mesh), ("b", mesh)]⟩
    let removed : MeshDelta := ⟨[("a", MeshEdit.removalMark)]⟩
    let joined : Client RecordingView := join options {} {} ⟨options.httpBase, true, ∅, []⟩
    let hooked : Client RecordingView := { joined with hooks := [.visibilityToggle] }
    let rendering := Client.renderMany 2 { hooked with room := hooked.room.applyMeshes added }
    let done := Client.renderMany 12 { rendering with room := rendering.room.applyMeshes removed }
    rendering.renderer.current.isSome ∧ Event.known done.room.events = done.room.scene.contents ∧
      done.room.scene.uuids = ["b"] := by
  intro options mesh added removed joined hooked rendering done
  have haside : joined.Aside hooked :=
    { meshes := rfl, reports := rfl, gone := rfl, shown := rfl, mesh := rfl
      events := ⟨[], (List.append_nil _).symm, fun _ he => nomatch he⟩ }
  have hrun : ReflTransGen Step ⟨joined, []⟩ ⟨done, []⟩ :=
    (ReflTransGen.single (.aside haside)).trans
      ((run_applyMeshes added hooked []).trans
        ((run_renderMany 2 _ []).trans
          ((run_applyMeshes removed rendering []).trans (run_renderMany 12 _ []))))
  refine ⟨by decide +kernel, ?_, by decide +kernel⟩
  have hqueue : done.room.reports = [] := by decide +kernel
  have hidle : done.renderer = {} := by decide +kernel
  exact known_eq_contents options {} ({} : RecordingView) _ hrun rfl hqueue hidle

end AtWork

end MeshRoom
