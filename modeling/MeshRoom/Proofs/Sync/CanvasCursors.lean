import MeshRoom.Proofs.Sync.OwnCursor

/-!
# The cursors of a canvas

When a canvas is taken over, the cursors it has of the other sessions are shown. If those sessions
told of the same cursors by notices, the same would be shown but for two kinds of entry: a cursor
that is marked as gone would be taken away, but the canvas shows it; and a cursor under the empty
name would be ignored, but the canvas shows it.
-/

namespace MeshRoom

open Wire

/-! ### Canvases as notices -/

/-- What a canvas has of the cursor of a session. Of entries under one name the last counts. -/
def Wire.Canvas.cursor? (canvas : Canvas) (id : String) : Option CursorMark :=
  canvas.cursors.reverse.lookup id

namespace Wire.CursorNotice

/-- The notice by which a session tells what an entry of a canvas has of its cursor. -/
def ofEntry (e : String × CursorMark) : CursorNotice := { session := e.1, cursor := some e.2 }

lemma says?_ofEntry (e : String × CursorMark) :
    (ofEntry e).says? = some (if e.2.removed then none else some (.ofMark e.2)) := by
  have hremoval : (ofEntry e).isRemoval = e.2.removed := rfl
  rw [says?, hremoval]
  split <;> rfl

end Wire.CursorNotice

namespace Sync

/-- Follow entries of a canvas one after the other, as if their sessions had told them. -/
def followEntries (own : Session) (es : Entries CursorMark) (s : Sync) : Sync :=
  es.foldl (fun s e => (s.followCursor own (.ofEntry e)).2) s

lemma getElem?_followCursor (own : Session) (n : CursorNotice) (s : Sync) (id : String) :
    (s.followCursor own n).2.cursors[id]?
      = if id = n.session ∧ id ≠ "" ∧ own.owns id = false then n.says?.getD s.cursors[id]?
        else s.cursors[id]? :=
  CursorTable.getElem?_follow own n s.cursors id

/-- Of the entries of a session that can tell of its cursor, the last one counts. -/
lemma getElem?_followEntries (own : Session) (es : Entries CursorMark) (s : Sync) {id : String}
    (hid : id ≠ "") (hother : own.owns id = false) :
    (s.followEntries own es).cursors[id]?
      = ((es.reverse.lookup id).map fun m => if m.removed then none else some (.ofMark m)).getD
          s.cursors[id]? := by
  induction es generalizing s with
  | nil => rfl
  | cons e es ih =>
    rw [followEntries, List.foldl_cons, ← followEntries, ih, getElem?_followCursor,
      List.reverse_cons, List.lookup_append, Entries.lookup_cons, CursorNotice.says?_ofEntry]
    cases es.reverse.lookup id with
    | some m => rfl
    | none =>
      by_cases he : id = e.1
      · subst he
        rw [if_pos ⟨rfl, hid, hother⟩]
        simp
      · rw [if_neg fun h => he h.1]
        simp [he]

/-- Nobody and the own session cannot tell of a cursor. -/
lemma getElem?_followEntries_of_ignored (own : Session) (es : Entries CursorMark) (s : Sync)
    {id : String} (hid : id = "" ∨ own.owns id = true) :
    (s.followEntries own es).cursors[id]? = s.cursors[id]? := by
  induction es generalizing s with
  | nil => rfl
  | cons e es ih =>
    rw [followEntries, List.foldl_cons, ← followEntries, ih, getElem?_followCursor, if_neg]
    rintro ⟨-, hne, hother⟩
    obtain hempty | hown := hid
    · exact hne hempty
    · simp [hown] at hother

/-- A canvas shows what it has of the other sessions. -/
lemma getElem?_seed (own : Session) (canvas : Canvas) (c : Controls) (s : Sync) (id : String) :
    (s.seed own canvas c).2.cursors[id]?
      = if own.owns id then s.cursors[id]?
        else ((canvas.cursor? id).map Cursor.ofMark).or s.cursors[id]? := by
  rw [seed, CursorTable.getElem?_foldl_place, ← List.filter_reverse,
    Entries.lookup_filter fun id => !own.owns id]
  cases own.owns id <;> rfl

/-! ### Where the two differ -/

variable {own : Session} {canvas : Canvas} {s : Sync} {id : String} {m : CursorMark}

lemma getElem?_seed_of_entry (hm : canvas.cursor? id = some m) (hother : own.owns id = false)
    (c : Controls) : (s.seed own canvas c).2.cursors[id]? = some (.ofMark m) := by
  simp [getElem?_seed, hother, hm]

/-- Where the canvas has nothing of another session, the table is as before either way. -/
lemma seed_alike_of_no_entry (h : own.owns id = true ∨ canvas.cursor? id = none) (c : Controls) :
    (s.seed own canvas c).2.cursors[id]? = (s.followEntries own canvas.cursors).cursors[id]? := by
  rw [getElem?_seed]
  by_cases hignored : id = "" ∨ own.owns id = true
  · rw [getElem?_followEntries_of_ignored own canvas.cursors s hignored]
    obtain hown | hnone := h
    · rw [if_pos hown]
    · rw [hnone, Option.map_none, Option.none_or, ite_self]
  · rw [not_or, Bool.not_eq_true] at hignored
    obtain ⟨hid, hother⟩ := hignored
    have hnone : canvas.cursor? id = none := h.resolve_left (by simp [hother])
    rw [getElem?_followEntries own canvas.cursors s hid hother, ← Canvas.cursor?, hnone, hother]
    rfl

/-- What notices show of a session that the canvas has an entry of. -/
lemma getElem?_followEntries_of_entry (hm : canvas.cursor? id = some m)
    (hother : own.owns id = false) :
    (s.followEntries own canvas.cursors).cursors[id]?
      = if id = "" then s.cursors[""]? else if m.removed then none else some (.ofMark m) := by
  by_cases hid : id = ""
  · rw [getElem?_followEntries_of_ignored own canvas.cursors s (.inl hid), if_pos hid, hid]
  · rw [getElem?_followEntries own canvas.cursors s hid hother, ← Canvas.cursor?, hm, if_neg hid]
    rfl

/-- An entry of another session is shown alike if it is not marked as gone. One under the empty name
no notice can show, so it has to be shown there before. -/
lemma getElem?_seed_eq_iff (hm : canvas.cursor? id = some m) (hother : own.owns id = false)
    (c : Controls) :
    (s.seed own canvas c).2.cursors[id]? = (s.followEntries own canvas.cursors).cursors[id]? ↔
      if id = "" then s.cursors[""]? = some (.ofMark m) else m.removed = false := by
  rw [getElem?_seed_of_entry hm hother c, getElem?_followEntries_of_entry hm hother]
  by_cases hid : id = ""
  · simp [hid, eq_comm]
  · cases m.removed <;> simp [hid]

lemma exists_entry_of_ne {c : Controls}
    (hne : (s.seed own canvas c).2.cursors[id]?
      ≠ (s.followEntries own canvas.cursors).cursors[id]?) :
    ∃ m, canvas.cursor? id = some m ∧ own.owns id = false := by
  cases hm : canvas.cursor? id with
  | none => exact absurd (seed_alike_of_no_entry (.inr hm) c) hne
  | some m =>
    refine ⟨m, rfl, Bool.eq_false_iff.2 fun hown => ?_⟩
    exact hne (seed_alike_of_no_entry (.inl hown) c)

/-- A canvas shows the same cursors as notices of its entries, if no entry of another session is
marked as gone, nor is under the empty name unless it is shown there already. Any other entry is
shown by the canvas, while notices leave nothing of it, or what was under the empty name before. -/
theorem seed_eq_followEntries_iff (own : Session) (canvas : Canvas) (c : Controls) (s : Sync) :
    let shown := (s.seed own canvas c).2.cursors
    let told := (s.followEntries own canvas.cursors).cursors
    (shown = told ↔
      ∀ id m, canvas.cursor? id = some m → own.owns id = false →
        if id = "" then s.cursors[""]? = some (.ofMark m) else m.removed = false) ∧
    ∀ id, shown[id]? ≠ told[id]? →
      ∃ m, canvas.cursor? id = some m ∧ own.owns id = false ∧ shown[id]? = some (.ofMark m) ∧
        told[id]? = if id = "" then s.cursors[""]? else none := by
  intro shown told
  refine ⟨⟨fun heq id m hm hother => ?_, fun h => ?_⟩, fun id hne => ?_⟩
  · exact (getElem?_seed_eq_iff hm hother c).1 (congrArg (·[id]?) heq)
  · refine Std.ExtTreeMap.ext_getElem? fun id => Classical.byContradiction fun hne => ?_
    obtain ⟨m, hm, hother⟩ := exists_entry_of_ne hne
    exact hne ((getElem?_seed_eq_iff hm hother c).2 (h id m hm hother))
  · obtain ⟨m, hm, hother⟩ := exists_entry_of_ne hne
    refine ⟨m, hm, hother, getElem?_seed_of_entry hm hother c, ?_⟩
    have hdiffers := mt (getElem?_seed_eq_iff hm hother c).2 hne
    rw [getElem?_followEntries_of_entry hm hother]
    by_cases hid : id = ""
    · simp [hid]
    · have hremoved : m.removed = true := by simpa [hid] using hdiffers
      simp [hid, hremoved]

/-- A cursor that is marked as gone is shown by a canvas, although a notice of it would take it
away. -/
theorem not_seed_eq_followEntries_always :
    ¬ ∀ (own : Session) (canvas : Canvas) (c : Controls) (s : Sync),
      (s.seed own canvas c).2.cursors = (s.followEntries own canvas.cursors).cursors := by
  intro h
  let canvas : Canvas := { cursors := [("gone", { icon := 1, removed := true })] }
  have hshown : ((({} : Sync).seed ⟨some "me"⟩ canvas {}).2.cursors["gone"]?).isSome = true := by
    decide +kernel
  have htold : (({} : Sync).followEntries ⟨some "me"⟩ canvas.cursors).cursors["gone"]? = none := by
    decide +kernel
  rw [h, htold] at hshown
  cases hshown

end Sync

end MeshRoom
