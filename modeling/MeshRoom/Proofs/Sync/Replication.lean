import MeshRoom.Proofs.Sync.Following

/-!
# A replica follows an editor

One client edits and ticks; another receives what the ticks tell, in order and once each, and edits
nothing itself. Both start from the same canvas. The replica may lag behind, but it never diverges:
once it has received what is on its way, it shows what the baseline of the editor has.
-/

namespace MeshRoom

open Json Wire

/-! ### Complete canvases -/

/-- All four camera fields of a canvas are there and finite. -/
structure Wire.Canvas.IsComplete (canvas : Canvas) : Prop where
  target : canvas.target.any Vec3.isFinite
  position : canvas.camera.position.any Vec3.isFinite
  up : canvas.camera.up.any Vec3.isFinite
  zoom : canvas.camera.zoom.any Single.isFinite

section Given

variable {α : Type} {p : α → Bool} {o : Option α}

/-- What is there is taken over. -/
lemma any_getD (h : o.any p = true) (x : α) : p (o.getD x) = true := by
  cases o with
  | none => cases h
  | some y => exact h

/-- What is there is taken over by both. -/
lemma agrees_getD {agrees : α → α → Bool} (h : o.any p = true)
    (hself : ∀ y, p y = true → agrees y y = true) (x y : α) :
    agrees (o.getD x) (o.getD y) = true := by
  cases o with
  | none => cases h
  | some z => exact hself z h

end Given

namespace Wire.Canvas.IsComplete

variable {canvas : Canvas}

/-- Controls that take over a complete canvas are finite, if their cursor is. -/
lemma isFinite_move (h : canvas.IsComplete) {c : Controls} (hc : ∀ k ∈ c.cursor, k.dir.isFinite) :
    (c.move (.ofCanvas canvas)).IsFinite where
  target := any_getD h.target _
  position := any_getD h.position _
  up := any_getD h.up _
  zoom := any_getD h.zoom _
  cursor := hc

/-- All that take over the same complete canvas show the same. -/
lemma matches_move (h : canvas.IsComplete) (c d : Controls) (known : Option Cursor) :
    (Baseline.capture (c.move (.ofCanvas canvas)).camera known).Matches
      (d.move (.ofCanvas canvas)).camera where
  target := agrees_getD h.target (fun _ hv => (Vec3.numeric_of_isFinite hv).agrees_self) _ _
  position := agrees_getD h.position (fun _ hv => (Vec3.numeric_of_isFinite hv).agrees_self) _ _
  up := agrees_getD h.up (fun _ hv => (Vec3.numeric_of_isFinite hv).agrees_self) _ _
  zoom := agrees_getD h.zoom (fun _ hx => (Single.numeric_of_isFinite hx).agrees_self) _ _

end Wire.Canvas.IsComplete

/-- The cursors of a canvas are shown under their own names only. -/
lemma CursorTable.getElem?_placeAll {a : String} {es : Entries CursorMark} (h : a ∉ es.keys)
    (t : CursorTable) :
    (es.foldl (fun t (id, m) => (t.place id (.ofMark m)).2) t)[a]? = t[a]? := by
  induction es generalizing t with
  | nil => rfl
  | cons e es ih =>
    simp only [Entries.keys, List.map_cons, List.mem_cons, not_or] at h
    rw [List.foldl_cons, ih h.2]
    dsimp only [place]
    rw [getElem?_insert_ite, if_neg h.1]

/-! ### An editor and a replica -/

/-- An editor and a replica, the frames on their way from the one to the other, and what each has
told with its ticks. -/
structure Replication (V W : Type) where
  editor : Room V
  replica : Room W
  flight : List String := []
  told : List Tick := []
  replies : List Tick := []

namespace Replication

/-- What may happen: the editor's view is moved in any way that leaves its controls finite, either
side ticks, or the first of the frames on their way arrives. -/
inductive Act (V : Type) [View V] where
  | edit (view : V) (finite : (View.controls view).IsFinite)
  | tick
  | deliver
  | reply

variable {V W : Type} [View V] [View W]

/-- Both have an identity, which is never empty, a view of their own, and the canvas of the room. -/
def start (a b : String) (canvas : Canvas) (v : V) (w : W) : Replication V W where
  editor := ({ scene := { view := v }, session := ⟨some a⟩ } : Room V).seed canvas
  replica := ({ scene := { view := w }, session := ⟨some b⟩ } : Room W).seed canvas

def step (s : Replication V W) : Act V → Replication V W
  | .edit view _ => { s with editor := { s.editor with scene := { s.editor.scene with view } } }
  | .tick =>
    { s with
      editor := s.editor.tick.2
      flight := s.flight ++ s.editor.tick.1.messages
      told := s.told ++ [s.editor.tick.1] }
  | .deliver =>
    match s.flight with
    | [] => s
    | text :: flight => { s with replica := s.replica.deliver text, flight }
  | .reply =>
    { s with replica := s.replica.tick.2, replies := s.replies ++ [s.replica.tick.1] }

def run (acts : List (Act V)) (s : Replication V W) : Replication V W := acts.foldl step s

/-- Whether a cursor has been told. -/
def hasToldCursor (s : Replication V W) : Bool := s.told.any (·.cursor.isSome)

/-- The replica follows: it changes nothing by itself, and what it will show once it has followed
the notices on their way is what the baseline of the editor has. -/
structure Tracks (a b : String) (s : Replication V W) (base : Baseline) (ms : List Notice) :
    Prop where
  editor : s.editor.session = ⟨some a⟩
  finite : s.editor.controls.IsFinite
  baseline : s.editor.sync.baseline = some base
  flight : s.flight = ms.map Notice.text
  readable : ∀ m ∈ ms, m.IsFinite
  replica : s.replica.session = ⟨some b⟩
  synced : s.replica.Synced []
  camera : base.Matches (ms.foldl (Notice.move ⟨some b⟩) s.replica.controls).camera
  cursor : base.MatchesCursor s.hasToldCursor
    (ms.foldl (Notice.place ⟨some b⟩) s.replica.sync.cursors)[a]?
  replies : ∀ t ∈ s.replies, t = {}

namespace Tracks

variable {a b : String} {s : Replication V W} {base : Baseline} {ms : List Notice}

lemma edit (h : Tracks a b s base ms) (view : V) (finite : (View.controls view).IsFinite) :
    Tracks a b (s.step (.edit view finite)) base ms where
  editor := h.editor
  finite := finite
  baseline := h.baseline
  flight := h.flight
  readable := h.readable
  replica := h.replica
  synced := h.synced
  camera := h.camera
  cursor := h.cursor
  replies := h.replies

/-- A tick of the editor moves the baseline, and tells what makes the replica follow it. -/
lemma tick (h : Tracks a b s base ms) (ha : a ≠ "") (hab : a ≠ b) :
    ∃ base' ms', Tracks a b (s.step .tick) base' ms' := by
  let live := s.editor.controls
  have hlive : live.Numeric := h.finite.numeric
  have hown : (⟨some b⟩ : Session).owns a = false := by
    simpa [Session.owns] using Ne.symm hab
  have htick : s.editor.sync.tick s.editor.session live = (Sync.differences a live base,
      { s.editor.sync with
        baseline := some (.capture live.camera (live.cursor <|> base.cursor)) }) := by
    rw [Sync.tick, h.baseline, h.editor]
  have htold : s.editor.tick.1 = Sync.differences a live base := congrArg Prod.fst htick
  have hcursor : (Sync.differences a live base).cursor.isSome
      = (base.cursorNews live.cursor).isSome := Option.isSome_map
  refine ⟨.capture live.camera (live.cursor <|> base.cursor),
    ms ++ Notice.ofTick (Sync.differences a live base), ?_⟩
  exact
    { editor := h.editor
      finite := h.finite
      baseline := congrArg (fun r => r.2.baseline) htick
      flight := by
        rw [List.map_append, ← h.flight, ← Notice.messages_eq_map, ← htold]
        rfl
      readable := by
        intro m hm
        rcases List.mem_append.1 hm with hm | hm
        · exact h.readable m hm
        · exact Notice.isFinite_differences h.finite m hm
      replica := h.replica
      synced := h.synced
      camera := by
        rw [List.foldl_append, Notice.foldl_move_differences hown]
        exact h.camera.tick hlive _
      cursor := by
        have hnow := h.cursor.tick hlive
        rw [List.foldl_append, Notice.foldl_place_differences ha hown, hasToldCursor]
        rw [← hcursor, ← htold] at hnow
        rw [step, List.any_append]
        simpa [hasToldCursor] using hnow
      replies := h.replies }

/-- The replica follows the first notice on its way, if there is one. -/
lemma deliver [KeepsControls W] (h : Tracks a b s base ms) :
    ∃ ms', Tracks a b (s.step .deliver) base ms' := by
  cases ms with
  | nil =>
    have hflight : s.flight = [] := h.flight
    refine ⟨[], ?_⟩
    rw [step, hflight]
    exact h
  | cons m ms =>
    have hflight : s.flight = m.text :: ms.map Notice.text := h.flight
    have hdeliver := Room.deliver_text (h.readable m List.mem_cons_self) s.replica
    have hsynced := h.synced.deliver (.of_deliver m.text s.replica)
    refine ⟨ms, ?_⟩
    rw [step, hflight]
    dsimp only
    rw [hdeliver] at hsynced ⊢
    exact
      { h with
        flight := rfl
        readable := fun m' hm' => h.readable m' (List.mem_cons_of_mem m hm')
        replica := (Room.session_follow s.replica m).trans h.replica
        synced := hsynced
        camera := by
          rw [Room.controls_follow, h.replica]
          exact h.camera
        cursor := by
          rw [Room.cursors_follow, h.replica]
          exact h.cursor }

/-- The replica has nothing to tell. -/
lemma reply (h : Tracks a b s base ms) : Tracks a b (s.step .reply) base ms where
  editor := h.editor
  finite := h.finite
  baseline := h.baseline
  flight := h.flight
  readable := h.readable
  replica := h.replica
  synced := h.synced.tick
  camera := h.camera
  cursor := by
    rw [step, Room.cursors_tick]
    exact h.cursor
  replies := by
    intro t ht
    rcases List.mem_append.1 ht with ht | ht
    · exact h.replies t ht
    · rw [List.mem_singleton.1 ht]
      exact h.synced.tick_eq_empty

/-- Every act keeps the replica on track. -/
lemma step [KeepsControls W] (h : Tracks a b s base ms) (ha : a ≠ "") (hab : a ≠ b) (act : Act V) :
    ∃ base' ms', Tracks a b (s.step act) base' ms' := by
  cases act with
  | edit view finite => exact ⟨base, ms, h.edit view finite⟩
  | tick => exact h.tick ha hab
  | deliver =>
    obtain ⟨ms', h'⟩ := h.deliver
    exact ⟨base, ms', h'⟩
  | reply => exact ⟨base, ms, h.reply⟩

variable [KeepsControls V] [KeepsControls W]

/-- The replica starts on track. -/
lemma start {canvas : Canvas} (hcanvas : canvas.IsComplete) (hnew : a ∉ canvas.cursors.keys)
    {v : V} {w : W} (hv : ∀ k ∈ (View.controls v).cursor, k.dir.isFinite)
    (hw : ∀ k ∈ (View.controls w).cursor, k.dir.isFinite) :
    ∃ base, Tracks a b (start a b canvas v w) base [] := by
  let own : Session := ⟨some b⟩
  let change := CameraChange.ofCanvas canvas
  have heditor : (Replication.start a b canvas v w).editor.controls
      = (View.controls v).move change := Room.controls_withSync _ _
  have hreplica : (Replication.start a b canvas v w).replica.controls
      = (View.controls w).move change := Room.controls_withSync _ _
  have hfinite := hcanvas.isFinite_move hv
  have hcursors : (Replication.start a b canvas v w).replica.sync.cursors[a]? = none := by
    have hothers : a ∉ Entries.keys (canvas.cursors.filter fun (id, _) => !own.owns id) :=
      fun hmem => hnew ((List.filter_sublist.map Prod.fst).subset hmem)
    exact (CursorTable.getElem?_placeAll hothers ∅).trans Std.ExtTreeMap.getElem?_empty
  refine ⟨.capture ((View.controls v).move change).camera (View.controls v).cursor, ?_⟩
  exact
    { editor := rfl
      finite := heditor ▸ hfinite
      baseline := rfl
      flight := rfl
      readable := nofun
      replica := rfl
      synced :=
        { assigned := rfl
          numeric := hreplica ▸ (hcanvas.isFinite_move hw).numeric
          edited := by
            intro p hlags
            rw [hreplica] at hlags
            have hcaught := Baseline.lags_capture_live (hcanvas.isFinite_move hw).numeric p
            exact absurd hlags (Bool.eq_false_iff.1 hcaught) }
      camera := by
        rw [List.foldl_nil, hreplica]
        exact hcanvas.matches_move _ _ _
      cursor := hcursors
      replies := nofun }

end Tracks

/-! ### Runs -/

lemma run_concat (acts : List (Act V)) (act : Act V) (s : Replication V W) :
    run (acts ++ [act]) s = (run acts s).step act := by
  rw [run, List.foldl_append]
  rfl

section Runs

variable [KeepsControls V] [KeepsControls W] {a b : String} {canvas : Canvas} {v : V} {w : W}

/-- Whatever happens, the replica stays on track. -/
lemma tracks_run (ha : a ≠ "") (hab : a ≠ b) (hcanvas : canvas.IsComplete)
    (hnew : a ∉ canvas.cursors.keys) (hv : ∀ k ∈ (View.controls v).cursor, k.dir.isFinite)
    (hw : ∀ k ∈ (View.controls w).cursor, k.dir.isFinite) (acts : List (Act V)) :
    ∃ base ms, Tracks a b (run acts (start a b canvas v w)) base ms := by
  induction acts using List.reverseRecOn with
  | nil =>
    obtain ⟨base, h⟩ := Tracks.start hcanvas hnew hv hw
    exact ⟨base, [], h⟩
  | append_singleton acts act ih =>
    obtain ⟨base, ms, h⟩ := ih
    rw [run_concat]
    exact h.step ha hab act

/-- Whatever the editor does and whenever its frames arrive: once it receives those on their way,
the replica shows the camera of the editor's baseline. When none is on its way it does show it, and
of the editor's cursor it shows nothing, if that was never told, and else the one of the baseline.
The replica itself never tells anything. -/
theorem replica_matches_baseline (ha : a ≠ "") (hab : a ≠ b) (hcanvas : canvas.IsComplete)
    (hnew : a ∉ canvas.cursors.keys) (hv : ∀ k ∈ (View.controls v).cursor, k.dir.isFinite)
    (hw : ∀ k ∈ (View.controls w).cursor, k.dir.isFinite) (acts : List (Act V)) :
    let s := run acts (start a b canvas v w)
    ∃ base, s.editor.sync.baseline = some base ∧
      base.Matches (s.replica.deliverAll s.flight).controls.camera ∧
        (s.flight = [] → base.Matches s.replica.controls.camera ∧
          base.MatchesCursor s.hasToldCursor s.replica.sync.cursors[a]?) ∧
            ∀ t ∈ s.replies, t.messages = [] := by
  intro s
  obtain ⟨base, ms, h⟩ : ∃ base ms, Tracks a b s base ms :=
    tracks_run ha hab hcanvas hnew hv hw acts
  refine ⟨base, h.baseline, ?_, fun hflight => ?_, fun t ht => ?_⟩
  · obtain ⟨-, hcontrols, -⟩ := Room.followAll ms s.replica
    rw [h.flight, Room.deliverAll_text h.readable, hcontrols, h.replica]
    exact h.camera
  · have hms : ms = [] := List.map_eq_nil_iff.1 (h.flight.symm.trans hflight)
    subst hms
    exact ⟨h.camera, h.cursor⟩
  · rw [h.replies t ht]
    rfl

end Runs

/-- A zoom and a cursor that the editor sets reach the replica. -/
theorem replica_matches_baseline_edited :
    let point : Vec3 := ⟨1, 2, 3⟩
    let canvas : Canvas := { target := some point, camera := ⟨some point, some point, some 1⟩ }
    let view : RecordingView :=
      { controls := { camera := { zoom := 2 }, cursor := some ⟨⟨3, 4⟩, 7⟩ } }
    let edit : Act RecordingView := .edit view ⟨rfl, rfl, rfl, rfl, by decide⟩
    let s : Replication RecordingView RecordingView :=
      run [edit, .tick, .deliver, .deliver] (start "a" "b" canvas {} {})
    s.flight = [] ∧ ∃ base, s.editor.sync.baseline = some base ∧ base.zoom = 2 ∧
      base.Matches s.replica.controls.camera ∧
        base.MatchesCursor true s.replica.sync.cursors["a"]? := by
  intro point canvas view edit s
  have hcanvas : canvas.IsComplete := ⟨rfl, rfl, rfl, rfl⟩
  have hflight : s.flight = [] := by decide +kernel
  have htold : s.hasToldCursor = true := by decide +kernel
  have hzoom : s.editor.sync.baseline.map Baseline.zoom = some 2 := by decide +kernel
  obtain ⟨base, hbaseline, -, hquiet, -⟩ :=
    replica_matches_baseline (a := "a") (b := "b") (v := ({} : RecordingView))
      (w := ({} : RecordingView)) (by decide) (by decide) hcanvas List.not_mem_nil (by decide)
      (by decide) [edit, .tick, .deliver, .deliver]
  obtain ⟨hcamera, hcursor⟩ := hquiet hflight
  rw [htold] at hcursor
  rw [hbaseline, Option.map_some] at hzoom
  with_reducible exact ⟨hflight, base, hbaseline, Option.some.inj hzoom, hcamera, hcursor⟩

end Replication

end MeshRoom
