import MeshRoom.Client.Lifecycle
import MeshRoom.Proofs.Scene.Reporting

/-!
# Rules of a renderer

Everything that rendering can do in one step, as a rule for each way it can go. What hooks do to an
entry counts as being beside the point: the entry goes on showing the mesh it did.

Every step brings rendering nearer to its end.
-/

namespace MeshRoom

open Json Wire

/-! ### What an interface knows -/

/-- The content that an entry shows. -/
def MeshEntry.content (e : MeshEntry) : MeshContent :=
  ⟨e.name, e.visible, e.vertexCount, e.faceCount⟩

namespace Event

/-- Whether an event is about a mesh. -/
def isAboutMesh : Event → Bool
  | .entryUpdated _ | .entryRemoved _ => true
  | _ => false

/-- Follow an event. -/
def follow (t : Table MeshContent) : Event → Table MeshContent
  | .entryUpdated e => t.insert e.uuid e.content
  | .entryRemoved uuid => t.erase uuid
  | _ => t

/-- What an interface knows that has followed all events. -/
def known (es : List Event) : Table MeshContent := es.foldl follow ∅

lemma known_append_other {es other : List Event} (h : ∀ e ∈ other, e.isAboutMesh = false) :
    known (es ++ other) = known es := by
  rw [known, List.foldl_append, ← known]
  generalize known es = t
  induction other with
  | nil => rfl
  | cons e other ih =>
    have he : follow t e = t := by
      have := h e List.mem_cons_self
      cases e with
      | entryUpdated | entryRemoved => cases this
      | _ => rfl
    rw [List.foldl_cons, he]
    exact ih fun e' he' => h e' (List.mem_cons_of_mem e he')

lemma getElem?_known_updated (es : List Event) (e : MeshEntry) (k : String) :
    (known (es ++ [.entryUpdated e]))[k]?
      = if k = e.uuid then some e.content else (known es)[k]? := by
  rw [known, List.foldl_append, ← known]
  exact getElem?_insert_ite (known es) e.uuid k e.content

lemma getElem?_known_removed (es : List Event) (uuid k : String) :
    (known (es ++ [.entryRemoved uuid]))[k]? = if k = uuid then none else (known es)[k]? := by
  rw [known, List.foldl_append, ← known]
  exact getElem?_erase_ite (known es) uuid k

end Event

/-! ### Hooks -/

/-- All that a request tells is that it failed. -/
lemma Requester.mem_eventsOf {α : Type} (r : Requester) {task : String}
    {result : Except RequestError α} {e : Event} (he : e ∈ r.eventsOf task result) :
    ∃ message, e = .requestFailed task message := by
  cases result with
  | ok => cases he
  | error =>
    simp only [Requester.eventsOf] at he
    split at he
    · exact ⟨_, List.mem_singleton.1 he⟩
    · cases he

/-- All that a hook tells is that a request failed. -/
lemma Hook.mem_events_run (h : Hook) {r : Requester} {own : Session} {e : MeshEntry}
    {server : Server} {ev : Event} (hev : ev ∈ (h.run r own e server).events) :
    ∃ task message, ev = .requestFailed task message := by
  cases h with
  | visibilityToggle => cases hev
  | label text fails => cases hev
  | healthBadge => exact ⟨_, r.mem_eventsOf hev⟩

/-- A hook leaves the mesh of an entry alone, and tells of no mesh. -/
lemma Hook.run_spec (h : Hook) (r : Requester) (own : Session) (e : MeshEntry) (server : Server) :
    (h.run r own e server).entry.uuid = e.uuid ∧
      (h.run r own e server).entry.content = e.content ∧
        ∀ ev ∈ (h.run r own e server).events, ev.isAboutMesh = false := by
  have hevents : ∀ ev ∈ (h.run r own e server).events, ev.isAboutMesh = false := by
    intro ev hev
    obtain ⟨task, message, rfl⟩ := h.mem_events_run hev
    rfl
  cases h with
  | visibilityToggle => exact ⟨rfl, rfl, hevents⟩
  | label text fails => exact ⟨rfl, rfl, hevents⟩
  | healthBadge => exact ⟨rfl, rfl, hevents⟩

/-! ### Rules of a renderer -/

/-- The mesh that is being rendered, by its name and the content its entry shows. -/
def Renderer.mesh? (r : Renderer) : Option (String × MeshContent) :=
  r.current.map fun (e, _) => (e.uuid, e.content)

namespace Client

variable {V : Type}

/-- Whatever a client does beside applying deltas, queueing reports and rendering: its meshes and
what is noted down of them stay, an entry shows the mesh it did, and no event is about a mesh. -/
structure Aside (c c' : Client V) : Prop where
  meshes : c'.room.scene.meshes = c.room.scene.meshes
  reports : c'.room.reports = c.room.reports
  gone : c'.renderer.gone = c.renderer.gone
  shown : c'.renderer.shown = c.renderer.shown
  mesh : c'.renderer.mesh? = c.renderer.mesh?
  events : ∃ es, c'.room.events = c.room.events ++ es ∧ ∀ e ∈ es, e.isAboutMesh = false

lemma foldl_tell (es : List Event) (c : Client V) :
    es.foldl (fun c e => c.tell e) c
      = { c with room := { c.room with events := c.room.events ++ es } } := by
  induction es generalizing c with
  | nil => simp
  | cons e es ih =>
    rw [List.foldl_cons, ih]
    simp [tell, Room.tell]

/-- The ways in which rendering can go on. -/
inductive RenderRule (c : Client V) : Client V → Prop where
  | update (e : MeshEntry) (hcurrent : c.renderer.current = some (e, [])) :
      RenderRule c
        (Client.tell (.entryUpdated e) { c with renderer := { c.renderer with current := none } })
  | decorate {c' : Client V} (haside : Aside c c') : RenderRule c c'
  | present (uuid : String) (gone : List String) (hcurrent : c.renderer.current = none)
      (hgone : c.renderer.gone = uuid :: gone) (hhas : c.room.scene.has uuid = true) :
      RenderRule c { c with renderer := { c.renderer with gone } }
  | absent (uuid : String) (gone : List String) (hcurrent : c.renderer.current = none)
      (hgone : c.renderer.gone = uuid :: gone) (hhas : c.room.scene.has uuid = false) :
      RenderRule c
        (Client.tell (.entryRemoved uuid) { c with renderer := { c.renderer with gone } })
  | start (uuid : String) (shown : List String) (hcurrent : c.renderer.current = none)
      (hgone : c.renderer.gone = []) (hshown : c.renderer.shown = uuid :: shown) :
      RenderRule c
        { c with
          renderer :=
            { shown
              current :=
                (c.room.scene.resource? uuid).map fun r => (MeshEntry.ofResource r, c.hooks) } }
  | take (r : Report) (reports : List Report) (hcurrent : c.renderer.current = none)
      (hgone : c.renderer.gone = []) (hshown : c.renderer.shown = [])
      (hreports : c.room.reports = r :: reports) :
      RenderRule c
        { c with
          room := { c.room with reports }
          renderer := { gone := r.removed, shown := r.shown } }

lemma aside_decorate {c : Client V} {e : MeshEntry} {h : Hook} {hooks : List Hook}
    (hcurrent : c.renderer.current = some (e, h :: hooks)) :
    Aside c
      { (c.decorate h e).2 with
        renderer :=
          { (c.decorate h e).2.renderer with current := some ((c.decorate h e).1, hooks) } } := by
  obtain ⟨huuid, hcontent, hevents⟩ := h.run_spec c.requester c.room.session e c.server
  simp only [decorate, foldl_tell]
  exact
    { meshes := rfl
      reports := rfl
      gone := rfl
      shown := rfl
      mesh := by simp [Renderer.mesh?, hcurrent, huuid, hcontent]
      events := ⟨_, rfl, hevents⟩ }

lemma RenderRule.of_render? {c c' : Client V} (h : c.render? = some c') : RenderRule c c' := by
  unfold render? at h
  split at h
  case h_1 e hcurrent =>
    cases h
    exact .update e hcurrent
  case h_2 e hook hooks hcurrent =>
    cases h
    exact .decorate (aside_decorate hcurrent)
  case h_3 uuid gone hcurrent hgone =>
    cases h
    dsimp only
    split
    case isTrue hhas => exact .present uuid gone hcurrent hgone hhas
    case isFalse hhas => exact .absent uuid gone hcurrent hgone (Bool.eq_false_iff.2 hhas)
  case h_4 uuid shown hcurrent hgone hshown =>
    cases h
    exact .start uuid shown hcurrent hgone hshown
  case h_5 r reports hcurrent hgone hshown hreports =>
    cases h
    exact .take r reports hcurrent hgone hshown hreports
  case h_6 => cases h

/-- What an interface will know of a mesh once the entry that is being rendered has been told. -/
def expects (c : Client V) (k : String) : Option MeshContent :=
  match c.renderer.mesh? with
  | some (uuid, content) => if k = uuid then some content else (Event.known c.room.events)[k]?
  | none => (Event.known c.room.events)[k]?

end Client

/-! ### Progress -/

namespace Client

variable {V : Type}

lemma foldl_reportWork (c : Client V) (rs : List Report) (n : Nat) :
    rs.foldl (fun n r => n + c.reportWork r) n
      = n + rs.foldl (fun n r => n + c.reportWork r) 0 := by
  induction rs generalizing n with
  | nil => rfl
  | cons r rs ih =>
    rw [List.foldl_cons, List.foldl_cons, ih, ih (0 + c.reportWork r)]
    omega

/-- Rendering gets nearer to its end with every step. -/
lemma work_lt_of_render? {c c' : Client V} (h : c.render? = some c') : c'.work < c.work := by
  unfold render? at h
  split at h
  case h_1 e hcurrent =>
    cases h
    simp [work, hcurrent, tell, Room.tell, entryWork, reportWork]
  case h_2 e hook hooks hcurrent =>
    cases h
    simp [work, hcurrent, foldl_tell, entryWork, reportWork]
  case h_3 uuid gone hcurrent hgone =>
    cases h
    dsimp only
    split
    · simp [work, hcurrent, hgone, entryWork, reportWork]
    · simp [work, hcurrent, hgone, tell, Room.tell, entryWork, reportWork]
  case h_4 uuid shown hcurrent hgone hshown =>
    cases h
    have hcons : (shown.length + 1) * (c.hooks.length + 2)
        = shown.length * (c.hooks.length + 2) + (c.hooks.length + 2) := Nat.succ_mul _ _
    cases c.room.scene.resource? uuid with
    | none =>
      simp only [work, hcurrent, hgone, hshown, entryWork, List.length_cons, hcons]
      simp [reportWork, entryWork]
    | some r =>
      simp only [work, hcurrent, hgone, hshown, entryWork, List.length_cons, hcons]
      simp [reportWork, entryWork]
      omega
  case h_5 r reports hcurrent hgone hshown hreports =>
    cases h
    simp only [work, hcurrent, hgone, hshown, hreports, List.foldl_cons]
    rw [foldl_reportWork c reports (0 + c.reportWork r)]
    simp [reportWork, entryWork]
  case h_6 => cases h

lemma renderer_of_render?_eq_none {c : Client V} (h : c.render? = none) :
    c.renderer = {} ∧ c.room.reports = [] := by
  unfold render? at h
  split at h
  case h_6 hcurrent hgone hshown hreports =>
    refine ⟨?_, hreports⟩
    calc c.renderer = ⟨c.renderer.gone, c.renderer.shown, c.renderer.current⟩ := rfl
      _ = {} := by rw [hgone, hshown, hcurrent]
  all_goals cases h

/-- Rendering comes to its end. -/
theorem renderMany_idle {n : Nat} {c : Client V} (h : c.work ≤ n) :
    (c.renderMany n).renderer = {} ∧ (c.renderMany n).room.reports = [] := by
  induction n generalizing c with
  | zero =>
    refine renderer_of_render?_eq_none ?_
    cases hrender : c.render? with
    | none => exact hrender
    | some c' =>
      have := work_lt_of_render? hrender
      omega
  | succ n ih =>
    unfold renderMany
    cases hrender : c.render? with
    | none => exact renderer_of_render?_eq_none hrender
    | some c' => exact ih (Nat.le_of_lt_succ (Nat.lt_of_lt_of_le (work_lt_of_render? hrender) h))

lemma meshes_renderMany (n : Nat) (c : Client V) :
    (c.renderMany n).room.scene.meshes = c.room.scene.meshes := by
  induction n generalizing c with
  | zero => rfl
  | succ n ih =>
    unfold renderMany
    split
    case h_1 c' hrender =>
      rw [ih]
      cases RenderRule.of_render? hrender with
      | decorate haside => exact haside.meshes
      | _ => rfl
    case h_2 => rfl

end Client

end MeshRoom
