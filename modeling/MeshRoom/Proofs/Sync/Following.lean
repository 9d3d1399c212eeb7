import MeshRoom.Proofs.Sync.Network
import MeshRoom.Proofs.Wire.Notices

/-!
# Following a tick

To receive the frames of a tick is to follow its notices, if all they tell is finite. A session that
follows what a tick tells catches up with the baseline that the tick leaves: the camera fields that
have changed are taken over, and the others agreed already.

A field that agrees with the baseline is not told although the baseline moves to it, so what the two
have may differ in the sign of a zero; numerically they agree.
-/

namespace MeshRoom

open Json Wire

/-! ### Finite controls -/

lemma Vec3.numeric_of_isFinite {v : Vec3} (h : v.isFinite) : v.Numeric := by
  simp only [isFinite, Bool.and_eq_true] at h
  obtain ⟨⟨hx, hy⟩, hz⟩ := h
  exact ⟨Single.numeric_of_isFinite hx, Single.numeric_of_isFinite hy,
    Single.numeric_of_isFinite hz⟩

lemma Vec2.numeric_of_isFinite {v : Vec2} (h : v.isFinite) : v.Numeric := by
  simp only [isFinite, Bool.and_eq_true] at h
  exact ⟨Single.numeric_of_isFinite h.1, Single.numeric_of_isFinite h.2⟩

/-- All that is synchronised of the controls is finite. -/
structure Controls.IsFinite (c : Controls) : Prop where
  target : c.camera.target.isFinite
  position : c.camera.position.isFinite
  up : c.camera.up.isFinite
  zoom : c.camera.zoom.isFinite
  cursor : ∀ k ∈ c.cursor, k.dir.isFinite

lemma Controls.IsFinite.numeric {c : Controls} (h : c.IsFinite) : c.Numeric where
  target := Vec3.numeric_of_isFinite h.target
  position := Vec3.numeric_of_isFinite h.position
  up := Vec3.numeric_of_isFinite h.up
  zoom := Single.numeric_of_isFinite h.zoom
  cursor k hk := Vec2.numeric_of_isFinite (h.cursor k hk)

/-! ### Agreement -/

/-- What agrees with the same agrees with one another. -/
lemma Single.agrees_of_common {x y z : Single} (hx : x.agrees z) (hy : y.agrees z) :
    x.agrees y := by
  simp only [agrees, Bool.and_eq_true, beq_iff_eq] at hx hy ⊢
  exact ⟨⟨hx.1.1, hy.1.1⟩, hx.2.trans hy.2.symm⟩

lemma Vec3.agrees_of_common {a b c : Vec3} (ha : a.agrees c) (hb : b.agrees c) : a.agrees b := by
  simp only [agrees, Bool.and_eq_true] at ha hb ⊢
  exact ⟨⟨Single.agrees_of_common ha.1.1 hb.1.1, Single.agrees_of_common ha.1.2 hb.1.2⟩,
    Single.agrees_of_common ha.2 hb.2⟩

lemma Cursor.agrees_of_common {a b c : Cursor} (ha : a.agrees c) (hb : b.agrees c) :
    a.agrees b := by
  simp only [agrees, Vec2.agrees, Bool.and_eq_true, beq_iff_eq] at ha hb ⊢
  exact ⟨⟨Single.agrees_of_common ha.1.1 hb.1.1, Single.agrees_of_common ha.1.2 hb.1.2⟩,
    ha.2.trans hb.2.symm⟩

/-- The synchronised fields of a camera agree with a baseline. -/
structure Baseline.Matches (b : Baseline) (c : Camera) : Prop where
  target : c.target.agrees b.target
  position : c.position.agrees b.position
  up : c.up.agrees b.up
  zoom : c.zoom.agrees b.zoom

/-- A field that agreed with the known value agrees with the live one once it has followed the
news. -/
lemma Baseline.agrees_news {α : Type} {agrees : α → α → Bool} {x known live : α}
    (hcommon : ∀ {x y z}, agrees x z = true → agrees y z = true → agrees x y = true)
    (hself : agrees live live = true) (hx : agrees x known = true) :
    agrees ((news agrees known live).getD x) live = true := by
  unfold news
  split
  case isTrue hlive => exact hcommon hx hlive
  case isFalse => exact hself

/-! ### Notices -/

/-- What a tick tells in one frame. -/
inductive Notice where
  | camera (n : CameraNotice)
  | cursor (n : CursorNotice)

namespace Notice

/-- The frame of a notice. -/
def text : Notice → String
  | .camera n => flatMessage Task.syncParams n.document
  | .cursor n => flatMessage Task.syncCursor n.document

/-- All that a notice tells is finite. -/
def IsFinite : Notice → Prop
  | .camera n => n.IsFinite
  | .cursor n => ∀ m ∈ n.cursor, m.dir.isFinite

/-- The notices of a tick, the camera first. -/
def ofTick (t : Tick) : List Notice :=
  (t.camera.map .camera).toList ++ (t.cursor.map .cursor).toList

lemma messages_eq_map (t : Tick) : t.messages = (ofTick t).map text := by
  obtain ⟨camera, cursor⟩ := t
  cases camera <;> cases cursor <;> rfl

/-- What controls become when a session follows a notice. -/
def move (own : Session) (c : Controls) : Notice → Controls
  | .camera n => if Sync.heeds own n then c.move (.ofNotice n) else c
  | .cursor _ => c

/-- What the cursors of the others become when a session follows a notice. -/
def place (own : Session) (t : CursorTable) : Notice → CursorTable
  | .camera _ => t
  | .cursor n => (t.follow own n).2

end Notice

namespace Room

variable {V : Type} [View V]

/-- Follow a notice. -/
def follow (room : Room V) : Notice → Room V
  | .camera n => room.followCamera n
  | .cursor n => (room.followCursor n).2

lemma handler?_syncParams : followers.handler? Task.syncParams = some .followCamera := by
  have hne : Task.syncParams ≠ Task.syncCursor := by decide
  simp only [followers, Dispatcher.registerAll, List.foldl_cons, List.foldl_nil,
    Dispatcher.register, Dispatcher.handler?, getElem?_insert_ite, hne, if_false, if_true]

lemma handler?_syncCursor : followers.handler? Task.syncCursor = some .followCursor := by
  simp only [followers, Dispatcher.registerAll, List.foldl_cons, List.foldl_nil,
    Dispatcher.register, Dispatcher.handler?, getElem?_insert_ite, if_true]

/-- A frame that is an envelope goes to the handler of its task. -/
lemma deliver_of_handler {text : String} {e : Envelope} {handler : Handler}
    (htext : Envelope.parse text = .ok e) (hhandler : followers.handler? e.task = some handler)
    (room : Room V) : room.deliver text = (handler.run e.parameters room).2 := by
  rw [deliver, Dispatcher.dispatch, htext]
  dsimp only
  rw [Dispatcher.deliver, hhandler]

/-- To receive the frame of a notice is to follow the notice. -/
theorem deliver_text {m : Notice} (h : m.IsFinite) (room : Room V) :
    room.deliver m.text = room.follow m := by
  cases m with
  | camera n =>
    have hread := (CameraNotice.restores h).onValue
    rw [Notice.text, deliver_of_handler (n.parse_frame Task.syncParams) handler?_syncParams,
      Handler.run, Handler.reading, hread]
    rfl
  | cursor n =>
    have hread := (CursorNotice.restores h).onValue
    rw [Notice.text, deliver_of_handler (n.parse_frame Task.syncCursor) handler?_syncCursor,
      Handler.run, Handler.reading, hread]
    rfl

lemma session_follow (room : Room V) (m : Notice) : (room.follow m).session = room.session := by
  cases m <;> rfl

lemma cursors_follow (room : Room V) (m : Notice) :
    (room.follow m).sync.cursors = m.place room.session room.sync.cursors := by
  cases m with
  | camera n =>
    simp only [follow, followCamera, withSync, Sync.followCamera, Notice.place]
    split <;> rfl
  | cursor n => rfl

lemma cursors_tick (room : Room V) : room.tick.2.sync.cursors = room.sync.cursors := by
  change (room.sync.tick room.session room.controls).2.cursors = room.sync.cursors
  rw [Sync.tick]
  split <;> rfl

lemma controls_follow [KeepsControls V] (room : Room V) (m : Notice) :
    (room.follow m).controls = m.move room.session room.controls := by
  cases m with
  | camera n =>
    rw [follow, followCamera, controls_withSync, Sync.followCamera, Notice.move]
    split <;> rfl
  | cursor n => rfl

/-- Following notices leaves the session alone, and what becomes of controls and cursors depends on
nothing else. -/
lemma followAll [KeepsControls V] (ms : List Notice) (room : Room V) :
    (ms.foldl follow room).session = room.session ∧
      (ms.foldl follow room).controls = ms.foldl (Notice.move room.session) room.controls ∧
        (ms.foldl follow room).sync.cursors
          = ms.foldl (Notice.place room.session) room.sync.cursors := by
  induction ms generalizing room with
  | nil => exact ⟨rfl, rfl, rfl⟩
  | cons m ms ih =>
    have hrest := ih (room.follow m)
    rwa [session_follow, controls_follow, cursors_follow] at hrest

/-- Receive frames one after the other. -/
def deliverAll (texts : List String) (room : Room V) : Room V :=
  texts.foldl (fun room text => room.deliver text) room

lemma deliverAll_text {ms : List Notice} (h : ∀ m ∈ ms, m.IsFinite) (room : Room V) :
    room.deliverAll (ms.map Notice.text) = ms.foldl follow room := by
  induction ms generalizing room with
  | nil => rfl
  | cons m ms ih =>
    have hrest := ih (fun m' hm' => h m' (List.mem_cons_of_mem m hm')) (room.deliver m.text)
    rw [deliver_text (h m List.mem_cons_self)] at hrest
    rw [List.map_cons, deliverAll, List.foldl_cons, deliver_text (h m List.mem_cons_self)]
    exact hrest

end Room

/-! ### What a tick leads to -/

section Tick

variable {id : String} {own : Session} {c live : Controls} {b : Baseline}

/-- The camera fields that have changed since the baseline. -/
def Baseline.change (b : Baseline) (camera : Camera) : CameraChange where
  target := news Vec3.agrees b.target camera.target
  position := news Vec3.agrees b.position camera.position
  up := news Vec3.agrees b.up camera.up
  zoom := news Single.agrees b.zoom camera.zoom

lemma Baseline.mem_news {α : Type} {agrees : α → α → Bool} {known live x : α}
    (h : x ∈ news agrees known live) : x = live := by
  unfold news at h
  split at h
  · cases h
  · exact (Option.some.inj h).symm

lemma Baseline.mem_cursorNews {live : Option Cursor} {c : Cursor} (h : c ∈ b.cursorNews live) :
    live = some c := by
  unfold cursorNews at h
  split at h
  · rw [mem_news h]
  · exact h
  · cases h

/-- What is told of finite controls is finite. -/
lemma Notice.isFinite_differences (h : live.IsFinite) :
    ∀ m ∈ Notice.ofTick (Sync.differences id live b), m.IsFinite := by
  intro m hm
  simp only [Notice.ofTick, List.mem_append, Option.mem_toList, Option.map_eq_some_iff] at hm
  obtain ⟨n, hn, rfl⟩ | ⟨n, hn, rfl⟩ := hm
  · simp only [Sync.differences] at hn
    split at hn
    case isTrue =>
      cases hn
      exact ⟨fun v hv => Baseline.mem_news hv ▸ h.target,
        fun v hv => Baseline.mem_news hv ▸ h.position, fun v hv => Baseline.mem_news hv ▸ h.up,
        fun x hx => Baseline.mem_news hx ▸ h.zoom⟩
    case isFalse => cases hn
  · obtain ⟨c, hc, rfl⟩ := Option.map_eq_some_iff.1 hn
    rintro m ⟨⟩
    exact h.cursor c (Baseline.mem_cursorNews hc)

lemma Wire.CameraNotice.isEmpty_ofNotice (n : CameraNotice) :
    (CameraChange.ofNotice n).isEmpty = !n.hasChanges := by
  obtain ⟨session, timestamp, target, position, up, zoom⟩ := n
  cases target <;> cases position <;> cases up <;> cases zoom <;> rfl

lemma Controls.move_of_isEmpty {change : CameraChange} (h : change.isEmpty) (c : Controls) :
    c.move change = c := by
  simp only [CameraChange.isEmpty, Bool.and_eq_true, Option.isNone_iff_eq_none] at h
  obtain ⟨⟨⟨htarget, hposition⟩, hup⟩, hzoom⟩ := h
  simp [Controls.move, CameraChange.apply, htarget, hposition, hup, hzoom]

/-- A session that follows a tick takes over the camera fields that have changed. -/
lemma Notice.foldl_move_differences (hown : own.owns id = false) (c : Controls) :
    (Notice.ofTick (Sync.differences id live b)).foldl (Notice.move own) c
      = c.move (b.change live.camera) := by
  have hcursor : ∀ (n : Option CursorNotice) (c : Controls),
      ((n.map Notice.cursor).toList).foldl (Notice.move own) c = c := by
    intro n c
    cases n <;> rfl
  let notice : CameraNotice := ⟨id, live.strokeTime, (b.change live.camera).target,
    (b.change live.camera).position, (b.change live.camera).up, (b.change live.camera).zoom⟩
  have hempty : (b.change live.camera).isEmpty = !notice.hasChanges :=
    CameraNotice.isEmpty_ofNotice notice
  have hcamera : (Sync.differences id live b).camera
      = if notice.hasChanges then some notice else none := rfl
  rw [Notice.ofTick, List.foldl_append, hcursor, hcamera]
  cases hchanges : notice.hasChanges with
  | false =>
    rw [hchanges] at hempty
    exact (Controls.move_of_isEmpty hempty c).symm
  | true =>
    have hheeds : Sync.heeds own notice = true := by
      rw [Sync.heeds, CameraNotice.isEmpty_ofNotice, hchanges, hown]
      rfl
    exact if_pos hheeds

/-- A session that follows a tick puts the cursor in its place if that has changed. -/
lemma Notice.foldl_place_differences (hid : id ≠ "") (hown : own.owns id = false)
    (t : CursorTable) :
    (Notice.ofTick (Sync.differences id live b)).foldl (Notice.place own) t
      = match b.cursorNews live.cursor with
        | some c => t.insert id c
        | none => t := by
  have hcamera : ∀ (n : Option CameraNotice) (t : CursorTable),
      ((n.map Notice.camera).toList).foldl (Notice.place own) t = t := by
    intro n t
    cases n <;> rfl
  have hcursor : (Sync.differences id live b).cursor = (b.cursorNews live.cursor).map fun c =>
      { session := id, timestamp := live.strokeTime, cursor := some c.mark } := rfl
  rw [Notice.ofTick, List.foldl_append, hcamera, hcursor]
  cases b.cursorNews live.cursor with
  | none => rfl
  | some c =>
    have hother : ¬ (id.isEmpty || own.owns id) = true := by simp [hown, hid]
    have hthere : ¬ CursorNotice.isRemoval
        { session := id, timestamp := live.strokeTime, cursor := some c.mark } = true := by
      simp [CursorNotice.isRemoval, Cursor.mark]
    simp only [Option.map_some, Option.toList_some, List.foldl_cons, List.foldl_nil, Notice.place,
      CursorTable.follow]
    rw [if_neg hother, if_neg hthere]
    rfl

/-- Who agreed with the baseline agrees with the one that a tick leaves, once it has followed what
the tick tells. -/
lemma Baseline.Matches.tick (h : b.Matches c.camera) (hlive : live.Numeric)
    (known : Option Cursor) :
    (capture live.camera known).Matches (c.move (b.change live.camera)).camera where
  target := agrees_news Vec3.agrees_of_common hlive.target.agrees_self h.target
  position := agrees_news Vec3.agrees_of_common hlive.position.agrees_self h.position
  up := agrees_news Vec3.agrees_of_common hlive.up.agrees_self h.up
  zoom := agrees_news Single.agrees_of_common hlive.zoom.agrees_self h.zoom

/-- What the others show of a cursor: none if it was never told, else one that agrees with the known
one. -/
def Baseline.MatchesCursor (b : Baseline) (told : Bool) (shown : Option Cursor) : Prop :=
  if told then ∃ c ∈ shown, ∃ k ∈ b.cursor, c.agrees k = true else shown = none

/-- A cursor that is not told is none, or agrees with the known one. -/
lemma Baseline.cursorNews_eq_none {live : Option Cursor} (h : b.cursorNews live = none) :
    ∀ c ∈ live, ∃ k ∈ b.cursor, c.agrees k = true := by
  rintro c ⟨⟩
  unfold cursorNews at h
  split at h
  case h_1 known heq hknown =>
    cases heq
    refine ⟨known, hknown, ?_⟩
    have hsome := isSome_news Cursor.agrees known c
    rw [h] at hsome
    simpa using hsome
  case h_2 => cases h
  case h_3 hgone _ => cases hgone

lemma Baseline.MatchesCursor.tick {told : Bool} {t : CursorTable}
    (h : b.MatchesCursor told t[id]?) (hlive : live.Numeric) :
    (capture live.camera (live.cursor <|> b.cursor)).MatchesCursor
      (told || (b.cursorNews live.cursor).isSome)
      (match b.cursorNews live.cursor with
        | some c => t.insert id c
        | none => t)[id]? := by
  cases hnews : b.cursorNews live.cursor with
  | some c =>
    have hcursor : live.cursor = some c := mem_cursorNews hnews
    have hself : c.agrees c = true := Cursor.agrees_self (hlive.cursor c hcursor)
    simp [MatchesCursor, capture, hcursor, hself]
  | none =>
    have hquiet := cursorNews_eq_none hnews
    cases hcursor : live.cursor with
    | none => simpa [MatchesCursor, capture] using h
    | some c =>
      obtain ⟨k, hk, hagrees⟩ := hquiet c hcursor
      cases told with
      | false => simpa [MatchesCursor] using h
      | true =>
        -- what the others show agrees with the known cursor, and so does the live one
        obtain ⟨shown, hshown, known, hknown, hmatch⟩ := h
        cases hknown.symm.trans hk
        exact ⟨shown, hshown, c, rfl, Cursor.agrees_of_common hmatch hagrees⟩

end Tick

end MeshRoom
