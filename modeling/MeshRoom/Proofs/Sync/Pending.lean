import MeshRoom.Proofs.Sync.Following

/-!
# What is pending

Camera fields that a user has moved are pending until the next tick tells them. When a notice of
another session is followed in between, the fields it assigns are no longer pending, as everybody
has them from that notice; all others stay so. Thus a tick neither tells back what came from others
nor forgets what was moved here.
-/

namespace MeshRoom

open Json Wire

/-! ### Changes -/

/-- The fields of a change that another change does not assign. -/
def CameraChange.without (change other : CameraChange) : CameraChange where
  target := if other.target.isSome then none else change.target
  position := if other.position.isSome then none else change.position
  up := if other.up.isSome then none else change.up
  zoom := if other.zoom.isSome then none else change.zoom

/-- The notice by which a session tells a change, if there is any. -/
def Wire.CameraNotice.ofChange? (id : String) (time : Int64) (change : CameraChange) :
    Option CameraNotice :=
  if change.isEmpty then none
  else some ⟨id, time, change.target, change.position, change.up, change.zoom⟩

namespace Baseline

/-- The baseline with the fields of a change. -/
def assign (b : Baseline) (change : CameraChange) : Baseline :=
  { b with
    target := change.target.getD b.target
    position := change.position.getD b.position
    up := change.up.getD b.up
    zoom := change.zoom.getD b.zoom }

section Field

variable {α : Type} {agrees : α → α → Bool} {o : Option α} {live known : α}

lemma adopted_eq_getD : (if o.isSome then o.getD live else known) = o.getD known := by
  cases o <;> rfl

/-- A field is no news once it has been assigned on both sides, and else as much as before. -/
lemma news_assigned (hself : ∀ x ∈ o, agrees x x = true) :
    news agrees (o.getD known) (o.getD live)
      = if o.isSome then none else news agrees known live := by
  cases o with
  | none => rfl
  | some x => exact if_pos (hself x rfl)

end Field

/-- The baseline adopts the values that are assigned. -/
lemma adopt_apply (b : Baseline) (change : CameraChange) (camera : Camera) :
    b.adopt change (change.apply camera) = b.assign change := by
  simp only [adopt, CameraChange.apply, adopted_eq_getD, assign]

/-- A change on both sides takes its own fields out of what has changed. -/
lemma change_assign (b : Baseline) {change : CameraChange} (h : change.Numeric) (camera : Camera) :
    (b.assign change).change (change.apply camera) = (b.change camera).without change := by
  simp only [Baseline.change, assign, CameraChange.apply, CameraChange.without,
    news_assigned fun v hv => (h.target v hv).agrees_self,
    news_assigned fun v hv => (h.position v hv).agrees_self,
    news_assigned fun v hv => (h.up v hv).agrees_self,
    news_assigned fun x hx => (h.zoom x hx).agrees_self]

end Baseline

namespace Sync

/-! ### Ticks -/

/-- A tick tells the camera fields that have changed since the baseline. -/
lemma camera_differences (id : String) (c : Controls) (b : Baseline) :
    (differences id c b).camera = CameraNotice.ofChange? id c.strokeTime (b.change c.camera) := by
  let n : CameraNotice := ⟨id, c.strokeTime, (b.change c.camera).target,
    (b.change c.camera).position, (b.change c.camera).up, (b.change c.camera).zoom⟩
  have hempty : (b.change c.camera).isEmpty = !n.hasChanges := CameraNotice.isEmpty_ofNotice n
  have hcamera : (differences id c b).camera = if n.hasChanges then some n else none := rfl
  rw [hcamera, CameraNotice.ofChange?, hempty]
  cases n.hasChanges <;> rfl

variable {own : Session} {s : Sync} {b : Baseline} {id : String} {n : CameraNotice}

lemma tick_of_seeded (hseeded : s.baseline = some b) (hid : own.id = some id) (c : Controls) :
    (s.tick own c).1 = differences id c b := by
  rw [tick, hseeded, hid]

/-! ### Following -/

/-- A notice is heeded if it comes from another session and assigns something. -/
lemma heeds_iff (hid : own.id = some id) :
    heeds own n = true ↔ n.session ≠ id ∧ (CameraChange.ofNotice n).isEmpty = false := by
  rw [heeds, Session.owns, hid, Bool.and_eq_true, Bool.not_eq_true', Bool.not_eq_true',
    decide_eq_false_iff_not, Option.some.injEq, eq_comm]

lemma followCamera_of_heeded (hseeded : s.baseline = some b) (hheeds : heeds own n = true)
    (c : Controls) :
    s.followCamera own n c
      = (c.move (.ofNotice n), { s with baseline := some (b.assign (.ofNotice n)) }) := by
  rw [followCamera, if_pos hheeds, hseeded]
  exact congrArg (fun b => (c.move (.ofNotice n), { s with baseline := some b }))
    (b.adopt_apply (.ofNotice n) c.camera)

lemma followCamera_of_not_heeded (hheeds : heeds own n = false) (c : Controls) :
    s.followCamera own n c = (c, s) :=
  if_neg (Bool.eq_false_iff.1 hheeds)

/-- What there is to tell after a change on both sides is what there was before, without the fields
of the change. -/
lemma differences_assigned {change : CameraChange} (h : change.Numeric) (id : String) (c : Controls)
    (b : Baseline) :
    differences id (c.move change) (b.assign change)
      = { camera := CameraNotice.ofChange? id c.strokeTime ((b.change c.camera).without change)
          cursor := (differences id c b).cursor } := by
  have hcamera := camera_differences id (c.move change) (b.assign change)
  rw [Controls.move, b.change_assign h] at hcamera
  exact congrArg (Tick.mk · (differences id c b).cursor) hcamera

/-- A notice is followed unless it comes from the own session or assigns nothing, in which case
nothing changes. If it is followed, the fields it assigns change in the camera and in the baseline
and nothing else does; the next tick tells what was pending without these fields, and the cursor as
it would have told it anyway. -/
theorem tick_followCamera (hseeded : s.baseline = some b) (hid : own.id = some id) {room : Nat}
    {t : Tree} (hn : CameraNotice.decoder room t = some n) (c : Controls) :
    let change := CameraChange.ofNotice n
    let followed := s.followCamera own n c
    (heeds own n = true ↔ n.session ≠ id ∧ change.isEmpty = false) ∧
      (heeds own n = false → followed = (c, s)) ∧
        (heeds own n = true →
          followed.1 = c.move change ∧ followed.2 = { s with baseline := some (b.assign change) } ∧
            (followed.2.tick own followed.1).1
              = { camera :=
                    CameraNotice.ofChange? id c.strokeTime ((b.change c.camera).without change)
                  cursor := (s.tick own c).1.cursor }) := by
  intro change followed
  refine ⟨heeds_iff hid, fun hheeds => followCamera_of_not_heeded hheeds c, fun hheeds => ?_⟩
  have hfollowed : followed = (c.move change, { s with baseline := some (b.assign change) }) :=
    followCamera_of_heeded hseeded hheeds c
  refine ⟨by rw [hfollowed], by rw [hfollowed], ?_⟩
  rw [hfollowed, tick_of_seeded rfl hid, tick_of_seeded hseeded hid]
  exact differences_assigned (CameraNotice.yields_decoder room t n hn) id c b

/-- Of a target and a zoom that the user has moved, only the target is told once another session has
set the zoom. -/
theorem tick_followCamera_zoom :
    let own : Session := ⟨some "me"⟩
    let s : Sync := { baseline := some (.capture {} none) }
    let c : Controls := { camera := { target := ⟨1, 0, 0⟩, zoom := 2 } }
    let n : CameraNotice := { session := "other", up := some ⟨1, 0, 0⟩, zoom := some 3 }
    let followed := s.followCamera own n c
    followed.1.camera = { target := ⟨1, 0, 0⟩, up := ⟨1, 0, 0⟩, zoom := 3 } ∧
      (followed.2.tick own followed.1).1
        = { camera := some { session := "me", target := some ⟨1, 0, 0⟩ } } := by
  intro own s c n followed
  have hread : CameraNotice.decoder.onText
      "\x7b\"sessionId\":\"other\",\"up\":\x7b\"x\":1,\"y\":0,\"z\":0\x7d,\"zoom\":3\x7d"
        = some n := by decide +kernel
  simp only [Decoder.onText, Option.bind_eq_bind, Option.bind_eq_some_iff] at hread
  obtain ⟨t, -, hn⟩ := hread
  obtain ⟨hheeds, -, htells⟩ :=
    tick_followCamera (show s.baseline = some _ from rfl) (show own.id = some _ from rfl) hn c
  obtain ⟨hmove, -, htick⟩ := htells (hheeds.2 ⟨by decide, rfl⟩)
  exact ⟨congrArg Controls.camera hmove, htick.trans (by decide +kernel)⟩

/-! ### Following many notices -/

/-- Follow notices one after the other. -/
def followCameras (own : Session) (ns : List CameraNotice) (cs : Controls × Sync) :
    Controls × Sync :=
  ns.foldl (fun cs n => cs.2.followCamera own n cs.1) cs

/-- What is still pending of a change after a notice. -/
def stillPending (own : Session) (pending : CameraChange) (n : CameraNotice) : CameraChange :=
  if heeds own n then pending.without (.ofNotice n) else pending

/-- However many notices come in before the next tick, it tells what was pending without all the
fields they assign. -/
theorem tick_followCameras (hseeded : s.baseline = some b) (hid : own.id = some id)
    {ns : List CameraNotice} (hns : ∀ n ∈ ns, (CameraChange.ofNotice n).Numeric) (c : Controls) :
    let followed := followCameras own ns (c, s)
    (followed.2.tick own followed.1).1
      = { camera := CameraNotice.ofChange? id c.strokeTime
            (ns.foldl (stillPending own) (b.change c.camera))
          cursor := (s.tick own c).1.cursor } := by
  rw [tick_of_seeded hseeded hid]
  induction ns generalizing c s b with
  | nil =>
    have hcamera := camera_differences id c b
    exact (tick_of_seeded hseeded hid c).trans
      (congrArg (Tick.mk · (differences id c b).cursor) hcamera)
  | cons n ns ih =>
    obtain ⟨hn, hrest⟩ := List.forall_mem_cons.1 hns
    rw [followCameras, List.foldl_cons, ← followCameras, List.foldl_cons, stillPending]
    cases hheeds : heeds own n with
    | true =>
      rw [followCamera_of_heeded hseeded hheeds, ← b.change_assign hn]
      exact ih rfl hrest (c.move (.ofNotice n))
    | false =>
      rw [followCamera_of_not_heeded hheeds]
      exact ih hseeded hrest c

end Sync

end MeshRoom
