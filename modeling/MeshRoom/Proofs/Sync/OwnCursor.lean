import MeshRoom.Proofs.Session
import MeshRoom.Proofs.Sync.Following

/-!
# The own cursor

Among the cursors of the others, the own one is left alone as soon as the session has its identity:
no canvas and no notice shows it or takes it away any more. What was said of it before the session
was given its name stays. So a session that is told where its own cursor is, and only then its name,
goes on to show that cursor as another's.
-/

namespace MeshRoom

open Wire

/-! ### One cursor in the table -/

/-- What a notice says of the cursor of its session: that it is gone, where it is, or nothing. -/
def Wire.CursorNotice.says? (n : CursorNotice) : Option (Option Cursor) :=
  if n.isRemoval then some none else n.cursor.map fun m => some (.ofMark m)

namespace CursorTable

lemma getElem?_drop (t : CursorTable) (id a : String) :
    (t.drop id).2[a]? = if a = id then none else t[a]? := by
  unfold drop
  split
  case isTrue => exact getElem?_erase_ite t id a
  case isFalse hid =>
    split
    case isTrue ha => rw [ha, Std.ExtTreeMap.getElem?_eq_none hid]
    case isFalse => rfl

lemma getElem?_place (t : CursorTable) (id a : String) (c : Cursor) :
    (t.place id c).2[a]? = if a = id then some c else t[a]? :=
  getElem?_insert_ite t id a c

/-- A notice is followed for the session it comes from, if that has a name and is not the own one.
-/
lemma getElem?_follow (own : Session) (n : CursorNotice) (t : CursorTable) (a : String) :
    (t.follow own n).2[a]?
      = if a = n.session ∧ a ≠ "" ∧ own.owns a = false then n.says?.getD t[a]? else t[a]? := by
  unfold follow
  split
  case isTrue hignored =>
    rw [if_neg]
    rintro ⟨rfl, hne, hother⟩
    simp [hne, hother] at hignored
  case isFalse hheeded =>
    have hother : n.session ≠ "" ∧ own.owns n.session = false := by simpa using hheeded
    have hsame : (a = n.session ∧ a ≠ "" ∧ own.owns a = false) ↔ a = n.session :=
      ⟨And.left, fun ha => ⟨ha, by rwa [ha]⟩⟩
    simp only [hsame, CursorNotice.says?]
    split
    case isTrue => exact getElem?_drop t n.session a
    case isFalse =>
      cases n.cursor with
      | none => exact (ite_self _).symm
      | some m => exact getElem?_place t n.session a (.ofMark m)

/-- Of the cursors put in place one after the other, the last one under each name stays. -/
lemma getElem?_foldl_place (es : Entries CursorMark) (t : CursorTable) (a : String) :
    (es.foldl (fun t (id, m) => (t.place id (.ofMark m)).2) t)[a]?
      = ((es.reverse.lookup a).map Cursor.ofMark).or t[a]? := by
  induction es generalizing t with
  | nil => rfl
  | cons e es ih =>
    obtain ⟨id, m⟩ := e
    rw [List.foldl_cons, ih, getElem?_place, List.reverse_cons, List.lookup_append,
      Entries.lookup_cons, Option.map_or, Option.or_assoc]
    split <;> rfl

end CursorTable

namespace Room

variable {V : Type} [View V]

/-! ### What may happen -/

/-- What concerns the session, its canvas and the others: an identity is offered, the canvas of the
room taken over, a notice followed, or the room told of what has changed. -/
inductive Act where
  | offer (id : String)
  | seed (canvas : Canvas)
  | follow (notice : Notice)
  | tick

/-- The room after an act. -/
def perform (room : Room V) : Act → Room V
  | .offer id => { room with session := room.session.offer id }
  | .seed canvas => room.seed canvas
  | .follow notice => room.follow notice
  | .tick => room.tick.2

/-- The room after acts, one after the other. -/
def performAll (acts : List Act) (room : Room V) : Room V := acts.foldl perform room

namespace Act

/-- Whether an act gives a name. -/
def names : Act → Bool
  | .offer id => !id.isEmpty
  | _ => false

/-- What an act says of the cursor of a session. -/
def says? (id : String) : Act → Option (Option Cursor)
  | .seed canvas => (canvas.cursors.reverse.lookup id).map fun m => some (.ofMark m)
  | .follow (.cursor n) => if id = n.session then n.says? else none
  | _ => none

end Act

/-- What was last said of the cursor of a session, if it was shown at first or not. -/
def lastSaid (id : String) (acts : List Act) (shown : Option Cursor) : Option Cursor :=
  acts.foldl (fun shown a => (a.says? id).getD shown) shown

/-! ### One act -/

lemma session_perform (room : Room V) (a : Act) :
    (room.perform a).session.id
      = match a with
        | .offer id => (room.session.offer id).id
        | _ => room.session.id := by
  cases a with
  | offer | seed | tick => rfl
  | follow notice => exact congrArg Session.id (session_follow room notice)

/-- An act changes what is shown of another session to what it says, and nothing of the own. -/
lemma cursor_perform (room : Room V) (a : Act) {id : String} (hid : id ≠ "") :
    (room.perform a).sync.cursors[id]?
      = if room.session.owns id then room.sync.cursors[id]?
        else (a.says? id).getD room.sync.cursors[id]? := by
  cases a with
  | offer => exact (ite_self _).symm
  | tick => exact (congrArg (·[id]?) (cursors_tick room)).trans (ite_self _).symm
  | seed canvas =>
    rw [perform, seed, withSync, Sync.seed, CursorTable.getElem?_foldl_place, ← List.filter_reverse,
      Entries.lookup_filter fun id => !room.session.owns id]
    cases room.session.owns id with
    | true => rfl
    | false =>
      rw [Act.says?]
      cases canvas.cursors.reverse.lookup id <;> rfl
  | follow notice =>
    rw [perform, cursors_follow]
    cases notice with
    | camera => exact (ite_self _).symm
    | cursor n =>
      rw [Notice.place, CursorTable.getElem?_follow, Act.says?]
      cases howns : room.session.owns id with
      | true => simp
      | false =>
        by_cases hn : id = n.session
        · rw [if_pos ⟨hn, hid, rfl⟩, if_pos hn]
          rfl
        · rw [if_neg fun h => hn h.1, if_neg hn]
          rfl

/-! ### A whole run -/

variable {room : Room V} {id : String}

/-- Once the session has its name, it keeps it, and its own cursor is left alone. -/
lemma performAll_of_named (hid : id ≠ "") (hroom : room.session.id = some id) (acts : List Act) :
    (room.performAll acts).session.id = some id ∧
      (room.performAll acts).sync.cursors[id]? = room.sync.cursors[id]? := by
  induction acts generalizing room with
  | nil => exact ⟨hroom, rfl⟩
  | cons a acts ih =>
    have hsession : (room.perform a).session.id = some id := by
      rw [session_perform]
      cases a with
      | offer offered => exact Session.id_offer_of_id hroom offered
      | seed | follow | tick => exact hroom
    have hcursor : (room.perform a).sync.cursors[id]? = room.sync.cursors[id]? := by
      rw [cursor_perform room a hid, if_pos (by simp [Session.owns, hroom])]
    obtain ⟨hnamed, hleft⟩ := ih hsession
    exact ⟨hnamed, hleft.trans hcursor⟩

/-- No session is ever given the empty name. -/
lemma id_performAll_ne (hroom : room.session.id ≠ some "") (acts : List Act) :
    (room.performAll acts).session.id ≠ some "" := by
  induction acts generalizing room with
  | nil => exact hroom
  | cons a acts ih =>
    refine ih ?_
    rw [session_perform]
    cases a with
    | seed | follow | tick => exact hroom
    | offer offered =>
      dsimp only
      rw [Session.id_offer]
      cases hsession : room.session.id with
      | some current => rwa [hsession] at hroom
      | none =>
        rw [Option.none_or]
        exact fun hempty => ne_empty_of_firstNamed? hempty rfl

/-- What a session that was given its name shows of its own cursor is what was last said of it
before; nothing that comes afterwards changes that. -/
theorem own_cursor_eq_lastSaid (hroom : room.session.id = none) {acts : List Act}
    (hid : (room.performAll acts).session.id = some id) :
    (room.performAll acts).sync.cursors[id]?
      = lastSaid id (acts.takeWhile fun a => !a.names) room.sync.cursors[id]? := by
  have hne : id ≠ "" := by
    rintro rfl
    exact id_performAll_ne (by simp [hroom]) acts hid
  -- until a name is given no cursor is the own one, and afterwards the own one is left alone
  induction acts generalizing room with
  | nil => rfl
  | cons a acts ih =>
    cases hnames : a.names with
    | true =>
      obtain ⟨offered, rfl⟩ : ∃ offered, a = .offer offered := by
        cases a with
        | offer offered => exact ⟨offered, rfl⟩
        | seed | follow | tick => cases hnames
      have hoffered : offered ≠ "" := by simpa [Act.names] using hnames
      have hsession : (room.perform (.offer offered)).session.id = some offered := by
        rw [session_perform]
        simp [Session.id_offer, hroom, firstNamed?, hoffered]
      obtain ⟨hnamed, hleft⟩ := performAll_of_named hoffered hsession acts
      obtain rfl : offered = id := Option.some.inj (hnamed.symm.trans hid)
      rw [List.takeWhile_cons_of_neg (by simp [hnames])]
      exact hleft
    | false =>
      have hsession : (room.perform a).session.id = none := by
        rw [session_perform]
        cases a with
        | seed | follow | tick => exact hroom
        | offer offered =>
          have hempty : offered = "" := by simpa [Act.names] using hnames
          simp [Session.id_offer, hroom, firstNamed?, hempty]
      rw [List.takeWhile_cons_of_pos (by simp [hnames])]
      refine (ih hsession hid).trans ?_
      rw [cursor_perform room a hne, if_neg (by simp [Session.owns, hroom])]
      rfl

/-- A cursor that was shown and taken away before the session was given its name is not shown
afterwards, whatever the canvas and further notices say. -/
theorem own_cursor_eq_lastSaid_taken_away :
    let room : Room RecordingView := { scene := { view := {} } }
    let acts : List Act :=
      [.seed { cursors := [("me", { icon := 1 }), ("other", { icon := 2 })] },
        .follow (.cursor { session := "me", removed := true }), .offer "", .offer "me", .offer "you",
        .follow (.cursor { session := "me", cursor := some { icon := 3 } }),
        .seed { cursors := [("me", { icon := 4 })] }, .tick]
    (room.performAll acts).sync.cursors["me"]? = none := by
  intro room acts
  have hid : (room.performAll acts).session.id = some "me" := by decide +kernel
  exact (own_cursor_eq_lastSaid rfl hid).trans (by decide +kernel)

/-- A session that is told where its own cursor is before it is given its name shows it. -/
theorem not_own_cursor_hidden_always :
    ¬ ∀ (room : Room RecordingView) (acts : List Act) (id : String), room.session.id = none →
      room.sync.cursors = ∅ → (room.performAll acts).session.id = some id →
        (room.performAll acts).sync.cursors[id]? = none := by
  intro h
  let room : Room RecordingView := { scene := { view := {} } }
  let acts : List Act :=
    [.follow (.cursor { session := "me", cursor := some { icon := 1 } }), .offer "me"]
  have hid : (room.performAll acts).session.id = some "me" := by decide +kernel
  have hshown : (room.performAll acts).sync.cursors["me"]?.isSome = true := by decide +kernel
  rw [h room acts "me" rfl rfl hid] at hshown
  cases hshown

end Room

end MeshRoom
