import MeshRoom.Proofs.Sync.Network

/-!
# Ticks settle on numbers

After a tick the baseline is what is live, so the next tick has nothing to tell, if what is live are
numbers. A part with a coordinate that is not a number differs even from itself: it is told again
on every tick, for ever.
-/

namespace MeshRoom

open Wire

/-! ### What agrees with itself -/

lemma Single.agrees_self_iff {x : Single} : x.agrees x = true ↔ x.Numeric := by
  simp [agrees, Numeric]

lemma Vec3.agrees_self_iff {a : Vec3} : a.agrees a = true ↔ a.Numeric := by
  simp only [agrees, Bool.and_eq_true, Single.agrees_self_iff, Numeric, and_assoc]

lemma Cursor.agrees_self_iff {c : Cursor} : c.agrees c = true ↔ c.dir.Numeric := by
  simp only [agrees, Vec2.agrees, Bool.and_eq_true, Single.agrees_self_iff, Vec2.Numeric,
    beq_self_eq_true, and_true]

/-- What is live in a part is numbers. -/
def Controls.NumericIn (c : Controls) : Part → Prop
  | .target => c.camera.target.Numeric
  | .position => c.camera.position.Numeric
  | .up => c.camera.up.Numeric
  | .zoom => c.camera.zoom.Numeric
  | .cursor => ∀ k ∈ c.cursor, k.dir.Numeric

lemma Controls.numeric_iff {c : Controls} : c.Numeric ↔ ∀ p, c.NumericIn p := by
  constructor
  · intro h p
    cases p with
    | target => exact h.target
    | position => exact h.position
    | up => exact h.up
    | zoom => exact h.zoom
    | cursor => exact h.cursor
  · exact fun h => ⟨h .target, h .position, h .up, h .zoom, h .cursor⟩

/-- A baseline that is captured lags in the parts that are not numbers. -/
lemma Baseline.lags_capture_iff (c : Controls) (known : Option Cursor) (p : Part) :
    (capture c.camera (c.cursor <|> known)).lags c p = true ↔ ¬ c.NumericIn p := by
  cases p with
  | target => simp [lags, capture, Controls.NumericIn, ← Vec3.agrees_self_iff]
  | position => simp [lags, capture, Controls.NumericIn, ← Vec3.agrees_self_iff]
  | up => simp [lags, capture, Controls.NumericIn, ← Vec3.agrees_self_iff]
  | zoom => simp [lags, capture, Controls.NumericIn, ← Single.agrees_self_iff]
  | cursor =>
    cases hcursor : c.cursor with
    | none => cases known <;> simp [lags, capture, cursorNews, hcursor, Controls.NumericIn]
    | some k =>
      simp [lags, capture, cursorNews, hcursor, isSome_news, Controls.NumericIn,
        ← Cursor.agrees_self_iff]

/-- A tick is empty if and only if it tells no part. -/
lemma Sync.tick_eq_empty_iff {own : Session} {s : Sync} {c : Controls} :
    (s.tick own c).1 = {} ↔ ∀ p, (s.tick own c).1.tells p = false := by
  refine ⟨fun hempty p => ?_, tick_eq_empty⟩
  rw [hempty]
  cases p <;> rfl

namespace Room

variable {V : Type} [View V] {room : Room V}

/-! ### Tick after tick -/

/-- So many ticks in a row. -/
def ticks : Nat → Room V → List Tick
  | 0, _ => []
  | n + 1, room => room.tick.1 :: ticks n room.tick.2

/-- The room with what is live as its baseline, but for the cursor. -/
def withKnown (cursor : Option Cursor) (room : Room V) : Room V :=
  { room with
    sync := { room.sync with baseline := some (.capture room.controls.camera cursor) } }

lemma tick_of_seeded {b : Baseline} {id : String} (hseeded : room.sync.baseline = some b)
    (hid : room.session.id = some id) :
    room.tick = (Sync.differences id room.controls b,
      room.withKnown (room.controls.cursor <|> b.cursor)) := by
  have hsync : room.tick = ((room.sync.tick room.session room.controls).1,
      { room with sync := (room.sync.tick room.session room.controls).2 }) := rfl
  rw [hsync, Sync.tick, hseeded, hid]
  rfl

/-- A room that has ticked stays as it is on every further tick. -/
lemma exists_repeated (hseeded : room.sync.isSeeded = true)
    (hassigned : room.session.isAssigned = true) :
    ∃ id known, room.tick.2.tick = (Sync.differences id room.controls
      (.capture room.controls.camera (room.controls.cursor <|> known)), room.tick.2) := by
  obtain ⟨b, hb⟩ := Option.isSome_iff_exists.1 hseeded
  obtain ⟨id, hid⟩ := Option.isSome_iff_exists.1 hassigned
  let known := room.controls.cursor <|> b.cursor
  have hcursor : ∀ live other : Option Cursor, (live <|> (live <|> other)) = (live <|> other) := by
    intro live other
    cases live <;> rfl
  have hagain : (room.withKnown known).tick = (Sync.differences id room.controls
      (.capture room.controls.camera known), room.withKnown (room.controls.cursor <|> known)) :=
    tick_of_seeded rfl hid
  refine ⟨id, b.cursor, ?_⟩
  rw [tick_of_seeded hb hid, hagain, hcursor room.controls.cursor b.cursor]

/-- While nothing changes, a room that has ticked tells again on every tick exactly what is not a
number. So ticks settle if and only if all that is live are numbers. -/
theorem ticks_eq_replicate (hseeded : room.sync.isSeeded = true)
    (hassigned : room.session.isAssigned = true) :
    let t := room.tick.2.tick.1
    (t = {} ↔ room.controls.Numeric) ∧
      (∀ p, t.tells p = true ↔ ¬ room.controls.NumericIn p) ∧
        ∀ n, room.tick.2.ticks n = List.replicate n t := by
  intro t
  obtain ⟨id, known, hrepeated⟩ := exists_repeated hseeded hassigned
  have htells : ∀ p, t.tells p = true ↔ ¬ room.controls.NumericIn p := by
    intro p
    rw [show t = _ from congrArg Prod.fst hrepeated, Baseline.tells_differences]
    exact Baseline.lags_capture_iff room.controls known p
  refine ⟨?_, htells, fun n => ?_⟩
  · rw [Controls.numeric_iff]
    have hempty : t = {} ↔ ∀ p, t.tells p = false := Sync.tick_eq_empty_iff
    refine hempty.trans (forall_congr' fun p => ?_)
    rw [← Bool.not_eq_true, htells p, not_not]
  · induction n with
    | zero => rfl
    | succ n ih =>
      rw [ticks, List.replicate_succ, congrArg Prod.snd hrepeated, ih]

/-- A room whose canvas has the camera look at a place infinitely far away, once the mesh of a
triangle has come in and has been framed. -/
def infinitelyFar : Room HeadlessView :=
  let view : HeadlessView := .ofWindow 800 600
  let room : Room HeadlessView := { scene := { view }, session := ⟨some "me"⟩ }
  let canvas : Canvas :=
    { target := some ⟨.ofDecimal 1 39, 0, 0⟩
      camera := { position := some ⟨1, 0, 20⟩, up := some ⟨0, 1, 0⟩, zoom := some 2 } }
  let triangle : Json.Value := .object
    [("V", .string "AAAAAAAAAAAAAAAAAACAPwAAAAAAAAAAAAAAAAAAgD8AAAAA"),
      ("F", .string "AAAAAAEAAAACAAAA")]
  (room.seed canvas).applyMeshes ⟨[("a", triangle)]⟩

/-- The target it looks at afterwards is not a number and is told on every tick. -/
theorem ticks_eq_replicate_infinitely_far :
    infinitelyFar.sync.isSeeded = true ∧ infinitelyFar.session.isAssigned = true ∧
      (infinitelyFar.tick.2.ticks 1000).countP (·.tells .target) = 1000 := by
  have hseeded : infinitelyFar.sync.isSeeded = true := rfl
  have hassigned : infinitelyFar.session.isAssigned = true := rfl
  obtain ⟨-, htells, hrepeated⟩ := ticks_eq_replicate hseeded hassigned
  refine ⟨hseeded, hassigned, ?_⟩
  have hx : infinitelyFar.controls.camera.target.x.isNaN = true := by decide +kernel
  have htarget : infinitelyFar.tick.2.tick.1.tells .target = true :=
    (htells .target).2 fun hnumeric => absurd (hx.symm.trans hnumeric.1) (by decide)
  rw [hrepeated, List.countP_replicate, if_pos htarget]

/-- So not every room settles. -/
theorem not_tick_settles_always :
    ¬ ∀ room : Room HeadlessView, room.sync.isSeeded = true → room.session.isAssigned = true →
      room.tick.2.tick.1 = {} := by
  intro h
  have htold : infinitelyFar.tick.2.tick.1.tells .target = true := by decide +kernel
  rw [h infinitelyFar rfl rfl] at htold
  cases htold

end Room

end MeshRoom
