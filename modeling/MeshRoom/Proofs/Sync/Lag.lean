import MeshRoom.Client.Basic
import MeshRoom.Proofs.Table
import MeshRoom.Proofs.Wire.Numeric

/-!
# Where the baseline lags behind

A tick tells exactly the parts in which the baseline lags behind the live values. What the user sets
makes it lag; a tick and a canvas that is taken over make it catch up; and what other sessions tell
never makes it lag, since it moves along.

All of this is about numbers: a coordinate that is not a number would lag behind itself.
-/

namespace MeshRoom

open Json Wire

/-- The parts of what a user moves, each told on its own. -/
inductive Part where
  | target
  | position
  | up
  | zoom
  | cursor
deriving DecidableEq, Repr

/-- Whether a tick tells a part. -/
def Tick.tells (t : Tick) : Part → Bool
  | .target => (t.camera.bind (·.target)).isSome
  | .position => (t.camera.bind (·.position)).isSome
  | .up => (t.camera.bind (·.up)).isSome
  | .zoom => (t.camera.bind (·.zoom)).isSome
  | .cursor => t.cursor.isSome

/-- Whether the baseline lags behind live values in a part. -/
def Baseline.lags (b : Baseline) (c : Controls) : Part → Bool
  | .target => !c.camera.target.agrees b.target
  | .position => !c.camera.position.agrees b.position
  | .up => !c.camera.up.agrees b.up
  | .zoom => !c.camera.zoom.agrees b.zoom
  | .cursor => (b.cursorNews c.cursor).isSome

/-- What a user sets: camera fields and a cursor, all of them numbers. -/
structure Edit where
  change : CameraChange := {}
  cursor : Option Cursor := none
  numeric : change.Numeric
  numericCursor : ∀ c ∈ cursor, c.dir.Numeric

namespace Edit

/-- Whether a part is set. -/
def sets (e : Edit) : Part → Bool
  | .target => e.change.target.isSome
  | .position => e.change.position.isSome
  | .up => e.change.up.isSome
  | .zoom => e.change.zoom.isSome
  | .cursor => e.cursor.isSome

def apply (e : Edit) (c : Controls) : Controls :=
  { c.move e.change with cursor := e.cursor <|> c.cursor }

end Edit

/-! ### Numeric controls -/

/-- All that is synchronised of the controls is numbers. -/
structure Controls.Numeric (c : Controls) : Prop where
  target : c.camera.target.Numeric
  position : c.camera.position.Numeric
  up : c.camera.up.Numeric
  zoom : c.camera.zoom.Numeric
  cursor : ∀ k ∈ c.cursor, k.dir.Numeric

lemma Cursor.agrees_self {c : Cursor} (h : c.dir.Numeric) : c.agrees c := by
  simp [agrees, h.agrees_self]

lemma numeric_getD {α : Type} {P : α → Prop} {o : Option α} {x : α} (ho : ∀ y ∈ o, P y) (hx : P x) :
    P (o.getD x) := by
  cases o with
  | none => exact hx
  | some y => exact ho y rfl

namespace Controls.Numeric

variable {c : Controls}

lemma move (h : c.Numeric) {change : CameraChange} (hchange : change.Numeric) :
    (c.move change).Numeric where
  target := numeric_getD hchange.target h.target
  position := numeric_getD hchange.position h.position
  up := numeric_getD hchange.up h.up
  zoom := numeric_getD hchange.zoom h.zoom
  cursor := h.cursor

/-- The controls that every view starts with are numeric. -/
lemma default : ({} : Controls).Numeric where
  target := ⟨Single.numeric_ofInt _, Single.numeric_ofInt _, Single.numeric_ofInt _⟩
  position := ⟨Single.numeric_ofInt _, Single.numeric_ofInt _, Single.numeric_ofInt _⟩
  up := ⟨Single.numeric_ofInt _, Single.numeric_ofInt _, Single.numeric_ofInt _⟩
  zoom := Single.numeric_ofInt _
  cursor _ hk := nomatch hk

lemma edit (h : c.Numeric) (e : Edit) : (e.apply c).Numeric where
  target := (h.move e.numeric).target
  position := (h.move e.numeric).position
  up := (h.move e.numeric).up
  zoom := (h.move e.numeric).zoom
  cursor := by
    cases hcursor : e.cursor with
    | none => simpa [Edit.apply, hcursor] using h.cursor
    | some k => simpa [Edit.apply, hcursor] using e.numericCursor k hcursor

end Controls.Numeric

/-! ### Baselines -/

namespace Baseline

lemma isSome_news {α : Type} (agrees : α → α → Bool) (known live : α) :
    (news agrees known live).isSome = !agrees live known := by
  unfold news
  cases agrees live known with
  | false => rfl
  | true => rfl

lemma isSome_bind_notice {α : Type} {n : CameraNotice} {f : CameraNotice → Option α}
    (h : (f n).isSome → n.hasChanges) :
    ((if n.hasChanges then some n else none).bind f).isSome = (f n).isSome := by
  by_cases hchanges : n.hasChanges
  · rw [if_pos hchanges, Option.bind_some]
  · rw [if_neg hchanges, Option.bind_none]
    exact (Bool.eq_false_iff.2 fun hsome => hchanges (h hsome)).symm

/-- Differences are told in the parts in which the baseline lags. -/
lemma tells_differences (id : String) (c : Controls) (b : Baseline) (p : Part) :
    (Sync.differences id c b).tells p = b.lags c p := by
  cases p with
  | target =>
    refine (isSome_bind_notice fun h => ?_).trans (isSome_news _ _ _)
    simp [CameraNotice.hasChanges, h]
  | position =>
    refine (isSome_bind_notice fun h => ?_).trans (isSome_news _ _ _)
    simp [CameraNotice.hasChanges, h]
  | up =>
    refine (isSome_bind_notice fun h => ?_).trans (isSome_news _ _ _)
    simp [CameraNotice.hasChanges, h]
  | zoom =>
    refine (isSome_bind_notice fun h => ?_).trans (isSome_news _ _ _)
    simp [CameraNotice.hasChanges, h]
  | cursor => exact Option.isSome_map

/-- A baseline that is captured does not lag. A cursor that is gone may stay known. -/
lemma lags_capture {c : Controls} (h : c.Numeric) (known : Option Cursor) (p : Part) :
    (capture c.camera (c.cursor <|> known)).lags c p = false := by
  cases p with
  | target => simp [lags, capture, h.target.agrees_self]
  | position => simp [lags, capture, h.position.agrees_self]
  | up => simp [lags, capture, h.up.agrees_self]
  | zoom => simp [lags, capture, h.zoom.agrees_self]
  | cursor =>
    cases hcursor : c.cursor with
    | none => cases known <;> simp [lags, capture, cursorNews, hcursor]
    | some k =>
      have hagrees := Cursor.agrees_self (h.cursor k hcursor)
      simp [lags, capture, cursorNews, hcursor, isSome_news, hagrees]

/-- Nor does one that is captured of live values alone. -/
lemma lags_capture_live {c : Controls} (h : c.Numeric) (p : Part) :
    (capture c.camera c.cursor).lags c p = false := by
  have hcapture := lags_capture h none p
  rwa [Option.orElse_eq_orElse, Option.orElse_eq_or, Option.or_none] at hcapture

section Field

variable {α : Type} {agrees : α → α → Bool} {o : Option α} {live known : α}

/-- A field lags after an assignment only if it was assigned or lagged before. -/
lemma lag_of_assigned (h : (!agrees (o.getD live) known) = true) :
    o.isSome = true ∨ (!agrees live known) = true := by
  cases o with
  | none => exact .inr h
  | some x => exact .inl rfl

/-- A field that the baseline adopts where it was assigned lags only if it did before. -/
lemma lag_of_adopted (hself : agrees (o.getD live) (o.getD live) = true)
    (h : (!agrees (o.getD live) (if o.isSome then o.getD live else known)) = true) :
    (!agrees live known) = true := by
  cases o with
  | none => exact h
  | some x =>
    have hself : agrees x x = true := hself
    simp [hself] at h

end Field

/-- A part lags after an edit only if it was set or lagged before. -/
lemma lags_edit {b : Baseline} {c : Controls} {e : Edit} {p : Part}
    (h : b.lags (e.apply c) p = true) : e.sets p = true ∨ b.lags c p = true := by
  cases p with
  | target => exact lag_of_assigned h
  | position => exact lag_of_assigned h
  | up => exact lag_of_assigned h
  | zoom => exact lag_of_assigned h
  | cursor =>
    cases hcursor : e.cursor with
    | none => exact .inr (by simpa [lags, Edit.apply, Controls.move, hcursor] using h)
    | some k => exact .inl (by simp [Edit.sets, hcursor])

/-- A change that the baseline adopts lets no part lag that did not. -/
lemma lags_adopt {b : Baseline} {c : Controls} {change : CameraChange}
    (hnumeric : (c.move change).Numeric) {p : Part}
    (h : (b.adopt change (c.move change).camera).lags (c.move change) p = true) :
    b.lags c p = true := by
  cases p with
  | target => exact lag_of_adopted hnumeric.target.agrees_self h
  | position => exact lag_of_adopted hnumeric.position.agrees_self h
  | up => exact lag_of_adopted hnumeric.up.agrees_self h
  | zoom => exact lag_of_adopted hnumeric.zoom.agrees_self h
  | cursor => exact h

end Baseline

/-! ### Synchronisation -/

namespace Sync

/-- Whether the baseline, if there is one, lags behind live values. -/
def lags (s : Sync) (c : Controls) (p : Part) : Bool := s.baseline.any (·.lags c p)

variable {own : Session} {s : Sync} {c : Controls} {p : Part}

lemma lags_edit {e : Edit} (h : s.lags (e.apply c) p = true) :
    e.sets p = true ∨ s.lags c p = true := by
  unfold lags at h ⊢
  cases hbaseline : s.baseline with
  | none => simp [hbaseline] at h
  | some b =>
    rw [hbaseline] at h
    exact Baseline.lags_edit h

lemma lags_seed (h : c.Numeric) {canvas : Canvas}
    (hcanvas : (CameraChange.ofCanvas canvas).Numeric) (p : Part) :
    (s.seed own canvas c).2.lags (s.seed own canvas c).1 p = false :=
  Baseline.lags_capture_live (h.move hcanvas) p

lemma lags_followCamera (h : c.Numeric) {n : CameraNotice} (hn : (CameraChange.ofNotice n).Numeric)
    (hlags : (s.followCamera own n c).2.lags (s.followCamera own n c).1 p = true) :
    s.lags c p = true := by
  unfold followCamera at hlags
  split at hlags
  · unfold lags at hlags ⊢
    cases hbaseline : s.baseline with
    | none => simp [hbaseline] at hlags
    | some b =>
      simp only [hbaseline, Option.map_some] at hlags
      exact Baseline.lags_adopt (h.move hn) hlags
  · exact hlags

/-- Only a part that lags is told. -/
lemma lags_of_tells (h : (s.tick own c).1.tells p = true) : s.lags c p = true := by
  unfold tick at h
  split at h
  case h_1 b id hbaseline _ =>
    rw [Baseline.tells_differences] at h
    simp [lags, hbaseline, h]
  case h_2 => cases p <;> cases h

/-- A session that has its identity catches up with every tick. -/
lemma lags_tick (h : c.Numeric) (hown : own.isAssigned) (p : Part) :
    (s.tick own c).2.lags c p = false := by
  unfold tick
  split
  case h_1 b id hbaseline hid => exact Baseline.lags_capture h b.cursor p
  case h_2 hnone =>
    cases hbaseline : s.baseline with
    | none => simp [lags, hbaseline]
    | some b =>
      obtain ⟨id, hid⟩ := Option.isSome_iff_exists.1 hown
      exact absurd hid (hnone b id hbaseline)

/-- A camera that is told has changes. -/
lemma hasChanges_of_tick {n : CameraNotice} (h : (s.tick own c).1.camera = some n) :
    n.hasChanges := by
  unfold tick at h
  split at h
  · simp only [differences] at h
    split at h
    case isTrue hchanges =>
      cases h
      exact hchanges
    case isFalse => cases h
  · cases h

/-- A tick that tells no part of the camera tells no camera. -/
lemma camera_tick_eq_none (h : ∀ p, p ≠ .cursor → (s.tick own c).1.tells p = false) :
    (s.tick own c).1.camera = none := by
  have hchanges : ∀ n, (s.tick own c).1.camera = some n → n.hasChanges :=
    fun _ => hasChanges_of_tick
  generalize (s.tick own c).1 = t at h hchanges
  obtain ⟨camera, cursor⟩ := t
  cases camera with
  | none => rfl
  | some n =>
    have htarget : n.target.isSome = false := h .target nofun
    have hposition : n.position.isSome = false := h .position nofun
    have hup : n.up.isSome = false := h .up nofun
    have hzoom : n.zoom.isSome = false := h .zoom nofun
    have := hchanges n rfl
    simp [CameraNotice.hasChanges, htarget, hposition, hup, hzoom] at this

/-- A tick that tells no part is empty. -/
lemma tick_eq_empty (h : ∀ p, (s.tick own c).1.tells p = false) : (s.tick own c).1 = {} := by
  have hcamera := camera_tick_eq_none fun p _ => h p
  have hcursor : (s.tick own c).1.cursor = none :=
    Option.isNone_iff_eq_none.1 (Option.isSome_eq_false_iff.1 (h .cursor))
  calc (s.tick own c).1 = ⟨(s.tick own c).1.camera, (s.tick own c).1.cursor⟩ := rfl
    _ = {} := by rw [hcamera, hcursor]

end Sync

end MeshRoom
