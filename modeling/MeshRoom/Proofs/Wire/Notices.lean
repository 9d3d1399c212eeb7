import MeshRoom.Proofs.Wire.Frames
import MeshRoom.View.Controls

/-!
# Notices read back from their frames

The flat frame of a record is read as an envelope that carries the record, since taking the task
out, which was put at the end, leaves the fields as they are. And camera and cursor notices, if all
they tell is finite, are restored from their records: so what is received is what was sent.
-/

namespace MeshRoom

open Json

/-! ### Flat frames of records -/

namespace Wire

/-- The flat frame of a record carries the record. -/
theorem Envelope.parse_flatMessage (task : String) {fields : List Field} (room : Nat)
    (hnames : ("task" :: "parameters" :: fields.map Field.name).Nodup)
    (h : ∀ f ∈ fields, f.All (·.Fits room)) (hroom : room < nestingLimit) :
    Envelope.parse (flatMessage task (.record fields))
      = .ok ⟨task, (Document.record fields).toValue⟩ := by
  obtain ⟨htask, hrest⟩ := List.nodup_cons.1 hnames
  obtain ⟨hparameters, hfields⟩ := List.nodup_cons.1 hrest
  have hkeys : (Entries.keys (Document.fieldValues fields)).Sublist (fields.map Field.name) := by
    rw [Document.keys_fieldValues]
    exact List.filter_sublist.map Field.name
  obtain ⟨hdistinct, hdepth⟩ := Document.fits_record hfields h
  rw [Document.toValue_record] at hdistinct hdepth
  obtain ⟨rest, -, hrest, hparse⟩ := parse_flatValue task hdistinct (Nat.le_trans hdepth hroom)
  have hlookup : (Document.fieldValues fields).lookup "parameters" = none :=
    Entries.lookup_eq_none_iff_notMem.2 fun hk => hparameters (hkeys.subset hk)
  rw [flatMessage, Document.toValue_record, hparse, hlookup,
    hrest fun hk => htask (List.mem_cons_of_mem _ (hkeys.subset hk))]
  rfl

end Wire

/-! ### Vectors -/

namespace Vec3

lemma fits (v : Vec3) : v.document.Fits 1 :=
  Document.fits_record (by simp) (by simp [Document.fits_single])

lemma restores {v : Vec3} (h : v.isFinite) : decoder.Restores v.document v := by
  simp only [isFinite, Bool.and_eq_true] at h
  obtain ⟨⟨hx, hy⟩, hz⟩ := h
  refine ⟨nofun, fun room hroom => ?_⟩
  obtain ⟨r, hopen, hr⟩ := Document.exists_open? 3 hroom
  have hx : r.required 0 ["x"] .single = some v.x :=
    hr.required rfl (Decoder.restores_single hx)
  have hy : r.required 1 ["y"] .single = some v.y :=
    hr.required rfl (Decoder.restores_single hy)
  have hz : r.required 2 ["z"] .single = some v.z :=
    hr.required rfl (Decoder.restores_single hz)
  simp only [decoder, document, hopen, hx, hy, hz, Option.bind_eq_bind, Option.bind_some]

end Vec3

/-- Both coordinates are finite. -/
def Vec2.isFinite (a : Vec2) : Bool := a.x.isFinite && a.y.isFinite

namespace Vec2

lemma fits (v : Vec2) : v.document.Fits 1 :=
  Document.fits_record (by simp) (by simp [Document.fits_single])

lemma restores {v : Vec2} (h : v.isFinite) : decoder.Restores v.document v := by
  simp only [isFinite, Bool.and_eq_true] at h
  refine ⟨nofun, fun room hroom => ?_⟩
  obtain ⟨r, hopen, hr⟩ := Document.exists_open? 2 hroom
  have hx : r.required 0 ["x"] .single = some v.x :=
    hr.required rfl (Decoder.restores_single h.1)
  have hy : r.required 1 ["y"] .single = some v.y :=
    hr.required rfl (Decoder.restores_single h.2)
  simp only [decoder, document, hopen, hx, hy, Option.bind_eq_bind, Option.bind_some]

lemma refuses {v : Vec2} (h : v.isFinite = false) : decoder.Refuses v.document := by
  intro room hroom
  obtain ⟨r, hopen, hr⟩ := Document.exists_open? 2 hroom
  simp only [decoder, document, hopen, Option.bind_eq_bind, Option.bind_some]
  cases hx : v.x.isFinite with
  | false =>
    have hnone : r.required 0 ["x"] .single = none :=
      (hr.refused 0 rfl rfl (Decoder.refuses_single hx)).1
    rw [hnone, Option.bind_none]
  | true =>
    have hy : v.y.isFinite = false := by simpa [isFinite, hx] using h
    have hnone : r.required 1 ["y"] .single = none :=
      (hr.refused 0 rfl rfl (Decoder.refuses_single hy)).1
    simp only [hnone, Option.bind_none, Option.bind_fun_none]

end Vec2

namespace Wire

/-! ### Cameras -/

namespace CameraNotice

/-- All that a camera notice tells is finite. -/
structure IsFinite (n : CameraNotice) : Prop where
  target : ∀ v ∈ n.target, v.isFinite
  position : ∀ v ∈ n.position, v.isFinite
  up : ∀ v ∈ n.up, v.isFinite
  zoom : ∀ x ∈ n.zoom, x.isFinite

variable {n : CameraNotice}

/-- The frame of a camera notice carries its record. -/
lemma parse_frame (n : CameraNotice) (task : String) :
    Envelope.parse (flatMessage task n.document) = .ok ⟨task, n.document.toValue⟩ := by
  refine Envelope.parse_flatMessage _ 1 (by simp) ?_ (by decide)
  simp [Document.fits_string, Document.fits_number, Document.fits_single, Vec3.fits]

/-- A camera notice is restored from its record. -/
theorem restores (h : n.IsFinite) : decoder.Restores n.document n := by
  refine ⟨nofun, fun room hroom => ?_⟩
  obtain ⟨r, hopen, hr⟩ := Document.exists_open? 6 hroom
  have hsession : r.optional 0 ["sessionId", "sessionUUID"] .string "" = some n.session :=
    hr.always rfl (Decoder.restores_string n.session)
  have htimestamp : r.optional 1 ["timestamp"] .int64 0 = some n.timestamp :=
    hr.always rfl (Decoder.restores_int64 n.timestamp)
  have htarget : r.optional 2 ["target"] (.nullable Vec3.decoder) none = some n.target :=
    hr.given rfl fun v hv => Vec3.restores (h.target v hv)
  have hposition : r.optional 3 ["pos"] (.nullable Vec3.decoder) none = some n.position :=
    hr.given rfl fun v hv => Vec3.restores (h.position v hv)
  have hup : r.optional 4 ["up"] (.nullable Vec3.decoder) none = some n.up :=
    hr.given rfl fun v hv => Vec3.restores (h.up v hv)
  have hzoom : r.optional 5 ["zoom"] (.nullable .single) none = some n.zoom :=
    hr.given rfl fun x hx => Decoder.restores_single (h.zoom x hx)
  simp only [decoder, document, hopen, hsession, htimestamp, htarget, hposition, hup, hzoom,
    Option.bind_eq_bind, Option.bind_some]

end CameraNotice

/-! ### Cursors -/

namespace CursorMark

lemma fits (m : CursorMark) : m.document.Fits 2 :=
  Document.fits_record (by simp) (by simp [Document.fits_bool, Document.fits_number, Vec2.fits])

/-- A cursor mark is restored from its record. -/
lemma restores {m : CursorMark} (h : m.dir.isFinite) :
    decoder.Restores m.document m := by
  refine ⟨nofun, fun room hroom => ?_⟩
  obtain ⟨r, hopen, hr⟩ := Document.exists_open? 3 hroom
  have hdir : r.optional 0 ["dir"] Vec2.decoder ⟨0, 0⟩ = some m.dir :=
    hr.always rfl (Vec2.restores h)
  have hicon : r.optional 1 ["idx"] .uint32 0 = some m.icon :=
    hr.always rfl (Decoder.restores_uint32 m.icon)
  have hremoved : r.optional 2 ["remove"] .bool false = some m.removed := hr.flag rfl
  simp only [decoder, document, hopen, hdir, hicon, hremoved, Option.bind_eq_bind,
    Option.bind_some]

lemma refuses {m : CursorMark} (h : m.dir.isFinite = false) : decoder.Refuses m.document := by
  intro room hroom
  obtain ⟨r, hopen, hr⟩ := Document.exists_open? 3 hroom
  simp only [decoder, document, hopen, Option.bind_eq_bind, Option.bind_some]
  rw [(hr.refused ⟨0, 0⟩ rfl rfl (Vec2.refuses h)).2]
  rfl

end CursorMark

namespace CursorNotice

variable {n : CursorNotice}

/-- The frame of a cursor notice carries its record. -/
lemma parse_frame (n : CursorNotice) (task : String) :
    Envelope.parse (flatMessage task n.document) = .ok ⟨task, n.document.toValue⟩ := by
  refine Envelope.parse_flatMessage _ 2 (by simp) ?_ (by decide)
  simp [Document.fits_bool, Document.fits_string, Document.fits_number, CursorMark.fits]

/-- A cursor notice is restored from its record. -/
theorem restores (h : ∀ m ∈ n.cursor, m.dir.isFinite) : decoder.Restores n.document n := by
  refine ⟨nofun, fun room hroom => ?_⟩
  obtain ⟨r, hopen, hr⟩ := Document.exists_open? 4 hroom
  have hsession : r.optional 0 ["UUID", "sessionUUID", "sessionId"] .string ""
      = some n.session := hr.always rfl (Decoder.restores_string n.session)
  have htimestamp : r.optional 1 ["timestamp"] .int64 0 = some n.timestamp :=
    hr.always rfl (Decoder.restores_int64 n.timestamp)
  have hremoved : r.optional 2 ["remove"] .bool false = some n.removed := hr.flag rfl
  have hcursor : r.optional 3 ["cursor"] (.nullable CursorMark.decoder) none = some n.cursor :=
    hr.given rfl fun m hm => CursorMark.restores (h m hm)
  simp only [decoder, document, hopen, hsession, htimestamp, hremoved, hcursor,
    Option.bind_eq_bind, Option.bind_some]

/-- A cursor that is not finite is not read back, nor is anything else of its notice. -/
lemma refuses {m : CursorMark} (hcursor : n.cursor = some m) (h : m.dir.isFinite = false) :
    decoder.Refuses n.document := by
  intro room hroom
  obtain ⟨r, hopen, hr⟩ := Document.exists_open? 4 hroom
  have hnone : r.optional 3 ["cursor"] (.nullable CursorMark.decoder) none = none :=
    (hr.refused none rfl (congrArg (Option.map _) hcursor)
      ((CursorMark.refuses h).nullable nofun)).2
  simp only [decoder, document, hopen, hnone, Option.bind_eq_bind, Option.bind_some,
    Option.bind_none, Option.bind_fun_none]

end CursorNotice

end Wire

end MeshRoom
