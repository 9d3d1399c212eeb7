import MeshRoom.Proofs.Wire.Notices
import MeshRoom.Wire.Mesh
import MeshRoom.Wire.Plugin

/-!
# Messages read back from their frames

Whatever a message is about, it comes out of its flat frame as it was put in: the frame is read as
an envelope of its task, and the parameters of the envelope as the message. So what a field leaves
unwritten is what its reader takes for granted.

Numbers have to be finite, since others are written as `null`. Values that a message is handed on
with may nest as deep as the frame leaves room for.
-/

namespace MeshRoom

open Json

/-! ### Vectors and cursors by themselves -/

lemma Vec3.parse_frame (v : Vec3) (task : String) :
    Wire.Envelope.parse (Wire.flatMessage task v.document) = .ok ⟨task, v.document.toValue⟩ := by
  refine Wire.Envelope.parse_flatMessage task 0 (by simp) ?_ (by decide)
  simp [Document.fits_single]

lemma Vec2.parse_frame (v : Vec2) (task : String) :
    Wire.Envelope.parse (Wire.flatMessage task v.document) = .ok ⟨task, v.document.toValue⟩ := by
  refine Wire.Envelope.parse_flatMessage task 0 (by simp) ?_ (by decide)
  simp [Document.fits_single]

namespace Wire

lemma CursorMark.parse_frame (m : CursorMark) (task : String) :
    Envelope.parse (flatMessage task m.document) = .ok ⟨task, m.document.toValue⟩ := by
  refine Envelope.parse_flatMessage task 1 (by simp) ?_ (by decide)
  simp [Document.fits_bool, Document.fits_number, Vec2.fits]

/-! ### The canvas of a room -/

namespace CanvasCamera

/-- All that the camera of a canvas has is finite. -/
structure IsFinite (c : CanvasCamera) : Prop where
  position : ∀ v ∈ c.position, v.isFinite
  up : ∀ v ∈ c.up, v.isFinite
  zoom : ∀ x ∈ c.zoom, x.isFinite

lemma fits (c : CanvasCamera) : c.document.Fits 2 :=
  Document.fits_record (by simp) (by simp [Document.fits_single, Vec3.fits])

lemma restores {c : CanvasCamera} (h : c.IsFinite) : decoder.Restores c.document c := by
  refine ⟨nofun, fun room hroom => ?_⟩
  obtain ⟨r, hopen, hr⟩ := Document.exists_open? 3 hroom
  have hposition : r.optional 0 ["position"] (.nullable Vec3.decoder) none = some c.position :=
    hr.given rfl fun v hv => Vec3.restores (h.position v hv)
  have hup : r.optional 1 ["up"] (.nullable Vec3.decoder) none = some c.up :=
    hr.given rfl fun v hv => Vec3.restores (h.up v hv)
  have hzoom : r.optional 2 ["zoom"] (.nullable .single) none = some c.zoom :=
    hr.given rfl fun x hx => Decoder.restores_single (h.zoom x hx)
  simp only [decoder, document, hopen, hposition, hup, hzoom, Option.bind_eq_bind,
    Option.bind_some]

end CanvasCamera

namespace Canvas

/-- All that a canvas has is finite, and its cursors are in the order of their names, each of which
occurs once. -/
structure IsWhole (c : Canvas) : Prop where
  target : ∀ v ∈ c.target, v.isFinite
  camera : c.camera.IsFinite
  cursors : ∀ e ∈ c.cursors, e.2.dir.isFinite
  ordered : c.cursors.Pairwise fun a b => a.1 < b.1

variable {c : Canvas}

lemma IsWhole.nodup_keys (h : c.IsWhole) : c.cursors.keys.Nodup := by
  rw [Entries.keys, List.nodup_iff_pairwise_ne, List.pairwise_map]
  exact h.ordered.imp String.ne_of_lt

lemma IsWhole.sorted_cursors (h : c.IsWhole) : sorted c.cursors = c.cursors := by
  refine List.mergeSort_of_pairwise (h.ordered.imp fun hlt => ?_)
  exact decide_eq_true (Std.le_of_lt hlt)

lemma fits_controls (target : Option Vec3) : (controlsDocument target).Fits 2 :=
  Document.fits_record (by simp) (by simp [Vec3.fits])

lemma restores_controls {target : Option Vec3} (h : ∀ v ∈ target, v.isFinite) :
    controlsDecoder.Restores (controlsDocument target) target := by
  refine ⟨nofun, fun room hroom => ?_⟩
  obtain ⟨r, hopen, hr⟩ := Document.exists_open? 1 hroom
  have htarget : r.optional 0 ["target"] (.nullable Vec3.decoder) none = some target :=
    hr.given rfl fun v hv => Vec3.restores (h v hv)
  simp only [controlsDecoder, controlsDocument, hopen, htarget, Option.bind_eq_bind,
    Option.bind_some]

lemma fits_cursors (h : c.IsWhole) :
    (Document.object (c.cursors.mapValues CursorMark.document)).Fits 3 := by
  refine Document.fits_object ?_ ?_
  · have hkeys := h.nodup_keys
    rwa [Entries.keys, Entries.mapValues, List.map_map]
  · exact List.forall_mem_map.2 fun e _ => CursorMark.fits e.2

lemma restores_cursors (h : c.IsWhole) : (Decoder.entries CursorMark.decoder).Restores
    (.object (c.cursors.mapValues CursorMark.document)) c.cursors := by
  have hvalue : (Document.object (c.cursors.mapValues CursorMark.document)).toValue
      = .object (c.cursors.mapValues fun m => m.document.toValue) := by
    rw [Document.toValue, Document.toMembers_eq_map, Entries.mapValues, List.map_map]
    rfl
  constructor
  · rw [hvalue]
    intro hnull
    cases hnull
  · rw [hvalue]
    apply Decoder.entries_ofValue h.nodup_keys
    intro e he
    exact (CursorMark.restores (h.cursors e he)).reads

lemma parse_frame (h : c.IsWhole) (task : String) :
    Envelope.parse (flatMessage task c.document) = .ok ⟨task, c.document.toValue⟩ := by
  refine Envelope.parse_flatMessage task 3 (by simp) ?_ (by decide)
  have hcontrols := (fits_controls c.target).mono (Nat.le_succ 2)
  have hcamera := c.camera.fits.mono (Nat.le_succ 2)
  simp [hcontrols, hcamera, fits_cursors h]

/-- A canvas is restored from its record. -/
theorem restores (h : c.IsWhole) : decoder.Restores c.document c := by
  refine ⟨nofun, fun room hroom => ?_⟩
  obtain ⟨r, hopen, hr⟩ := Document.exists_open? 3 hroom
  have htarget : r.optional 0 ["controls"] controlsDecoder none = some c.target :=
    hr.always rfl (restores_controls h.target)
  have hcamera : r.optional 1 ["camera"] CanvasCamera.decoder {} = some c.camera :=
    hr.always rfl (CanvasCamera.restores h.camera)
  have hcursors : r.optional 2 ["cursors"] (.entries CursorMark.decoder) [] = some c.cursors :=
    hr.always rfl (restores_cursors h)
  simp only [decoder, document, hopen, htarget, hcamera, hcursors, h.sorted_cursors,
    Option.bind_eq_bind, Option.bind_some]

end Canvas

/-! ### Meshes -/

namespace TexturePayload

lemma fits (p : TexturePayload) : p.document.Fits 1 :=
  Document.fits_record (by simp) (by simp [Document.fits_string, Document.fits_number])

lemma parse_frame (p : TexturePayload) (task : String) :
    Envelope.parse (flatMessage task p.document) = .ok ⟨task, p.document.toValue⟩ := by
  refine Envelope.parse_flatMessage task 0 (by simp) ?_ (by decide)
  simp [Document.fits_string, Document.fits_number]

lemma restores (p : TexturePayload) : decoder.Restores p.document p := by
  refine ⟨nofun, fun room hroom => ?_⟩
  obtain ⟨r, hopen, hr⟩ := Document.exists_open? 4 hroom
  have hname : r.optional 0 ["name"] .string "" = some p.name :=
    hr.always rfl (Decoder.restores_string p.name)
  have hwidth : r.required 1 ["width"] .uint32 = some p.width :=
    hr.required rfl (Decoder.restores_uint32 p.width)
  have hheight : r.required 2 ["height"] .uint32 = some p.height :=
    hr.required rfl (Decoder.restores_uint32 p.height)
  have hdata : r.required 3 ["texData"] .string = some p.data :=
    hr.required rfl (Decoder.restores_string p.data)
  simp only [decoder, document, hopen, hname, hwidth, hheight, hdata, Option.bind_eq_bind,
    Option.bind_some]

end TexturePayload

namespace MeshPayload

lemma fits_textures (p : MeshPayload) :
    (Document.array (p.textures.map TexturePayload.document)).Fits 2 :=
  Document.fits_array (List.forall_mem_map.2 fun t _ => t.fits)

lemma fits (p : MeshPayload) : p.document.Fits 3 := by
  refine Document.fits_record (by simp) ?_
  simp [Document.fits_string, Document.fits_bool, p.fits_textures]

lemma parse_frame (p : MeshPayload) (task : String) :
    Envelope.parse (flatMessage task p.document) = .ok ⟨task, p.document.toValue⟩ := by
  refine Envelope.parse_flatMessage task 2 (by simp) ?_ (by decide)
  simp [Document.fits_string, Document.fits_bool, p.fits_textures]

/-- A payload is restored from its record. -/
theorem restores (p : MeshPayload) : decoder.Restores p.document p := by
  refine ⟨nofun, fun room hroom => ?_⟩
  obtain ⟨r, hopen, hr⟩ := Document.exists_open? 7 hroom
  have hname : r.optional 0 ["name"] .string "" = some p.name :=
    hr.always rfl (Decoder.restores_string p.name)
  have hvisible : r.optional 1 ["visibility"] .bool true = some p.visible :=
    hr.always rfl (Decoder.restores_bool p.visible)
  have hvertices : r.optional 2 ["V"] (.nullable .string) none = some p.vertices :=
    hr.given rfl fun s _ => Decoder.restores_string s
  have hfaces : r.optional 3 ["F"] (.nullable .string) none = some p.faces :=
    hr.given rfl fun s _ => Decoder.restores_string s
  have hcolors : r.optional 4 ["VC"] (.nullable .string) none = some p.colors :=
    hr.given rfl fun s _ => Decoder.restores_string s
  have htexcoords : r.optional 5 ["TC"] (.nullable .string) none = some p.texcoords :=
    hr.given rfl fun s _ => Decoder.restores_string s
  have htextures : r.optional 6 ["textures"] (.list TexturePayload.decoder) []
      = some p.textures := by
    refine hr.when rfl (fun _ => Decoder.restores_list fun t _ => t.restores) fun hempty => ?_
    rw [Bool.not_eq_false', List.isEmpty_iff] at hempty
    exact hempty.symm
  simp only [decoder, document, hopen, hname, hvisible, hvertices, hfaces, hcolors, htexcoords,
    htextures, Option.bind_eq_bind, Option.bind_some]

end MeshPayload

namespace MeshDelta

/-- The entries of a delta have distinct names throughout, and leave room for the frame. -/
structure IsWhole (d : MeshDelta) : Prop where
  distinct : (Value.object d.meshes).Distinct
  depth : (Value.object d.meshes).depth < nestingLimit

variable {d : MeshDelta}

lemma restores_meshes (h : d.IsWhole) :
    (Decoder.entries .value).Restores (.value (.object d.meshes)) d.meshes := by
  refine ⟨nofun, ?_⟩
  have hsame : d.meshes.mapValues id = d.meshes := List.map_id d.meshes
  have hentries : ∀ room, (Value.object (d.meshes.mapValues id)).depth ≤ room →
      Decoder.value.entries room (.ofValue (.object (d.meshes.mapValues id))) = some d.meshes := by
    apply Decoder.entries_ofValue h.distinct.1
    intro e he room hroom
    exact Tree.value?_ofValue e.2 room hroom (Value.distinctMembers_iff.1 h.distinct.2 e he)
  rwa [hsame] at hentries

lemma parse_frame (h : d.IsWhole) (task : String) :
    Envelope.parse (flatMessage task d.document) = .ok ⟨task, d.document.toValue⟩ := by
  refine Envelope.parse_flatMessage task 126 (by simp) ?_ (by decide)
  have hmeshes : (Document.value (.object d.meshes)).Fits 126 :=
    Document.fits_value h.distinct (Nat.le_of_lt_succ h.depth)
  simp [hmeshes]

/-- A delta is restored from its record. -/
theorem restores (h : d.IsWhole) : decoder.Restores d.document d := by
  refine ⟨nofun, fun room hroom => ?_⟩
  obtain ⟨r, hopen, hr⟩ := Document.exists_open? 1 hroom
  have hmeshes : r.optional 0 ["meshes"] (.entries .value) [] = some d.meshes :=
    hr.always rfl (restores_meshes h)
  simp only [decoder, document, hopen, hmeshes, Option.bind_eq_bind, Option.bind_some]

end MeshDelta

namespace MeshHealth

lemma parse_frame (h : MeshHealth) (task : String) :
    Envelope.parse (flatMessage task h.document) = .ok ⟨task, h.document.toValue⟩ := by
  refine Envelope.parse_flatMessage task 0 (by simp) ?_ (by decide)
  simp [Document.fits_bool]

lemma restores (h : MeshHealth) : decoder.Restores h.document h := by
  refine ⟨nofun, fun room hroom => ?_⟩
  obtain ⟨r, hopen, hr⟩ := Document.exists_open? 3 hroom
  have hclosed : r.required 0 ["closed"] .bool = some h.closed :=
    hr.required rfl (Decoder.restores_bool h.closed)
  have hedge : r.required 1 ["edgeManifold"] .bool = some h.edgeManifold :=
    hr.required rfl (Decoder.restores_bool h.edgeManifold)
  have hvertex : r.required 2 ["vertexManifold"] .bool = some h.vertexManifold :=
    hr.required rfl (Decoder.restores_bool h.vertexManifold)
  simp only [decoder, document, hopen, hclosed, hedge, hvertex, Option.bind_eq_bind,
    Option.bind_some]

end MeshHealth

/-! ### Plugins -/

namespace PluginDescriptor

/-- The description of a plugin has distinct names throughout, and leaves room for the frame. -/
structure IsWhole (d : PluginDescriptor) : Prop where
  distinct : d.description.Distinct
  depth : d.description.depth < nestingLimit

variable {d : PluginDescriptor}

lemma parse_frame (h : d.IsWhole) (task : String) :
    Envelope.parse (flatMessage task d.document) = .ok ⟨task, d.document.toValue⟩ := by
  refine Envelope.parse_flatMessage task 126 (by simp) ?_ (by decide)
  have hversions : (Document.array (d.versions.map .string)).Fits 126 := by
    apply Document.fits_array
    exact List.forall_mem_map.2 fun s _ => Document.fits_string s 125
  have hdescription : (Document.value d.description).Fits 126 :=
    Document.fits_value h.distinct (Nat.le_of_lt_succ h.depth)
  simp [Document.fits_string, Document.fits_bool, hversions, hdescription]

/-- A descriptor is restored from its record. -/
theorem restores (h : d.IsWhole) : decoder.Restores d.document d := by
  refine ⟨nofun, fun room hroom => ?_⟩
  obtain ⟨r, hopen, hr⟩ := Document.exists_open? 7 hroom
  have hname : r.optional 0 ["name"] .string "" = some d.name :=
    hr.always rfl (Decoder.restores_string d.name)
  have hversions : r.optional 1 ["versions"] (.list .string) [] = some d.versions :=
    hr.always rfl (Decoder.restores_list fun s _ => Decoder.restores_string s)
  have hlatest : r.optional 2 ["latest"] (.nullable .string) none = some d.latest :=
    hr.given rfl fun s _ => Decoder.restores_string s
  have hinstalled : r.optional 3 ["installedVersion"] .string "" = some d.installedVersion :=
    hr.always rfl (Decoder.restores_string d.installedVersion)
  have hdescription : r.optional 4 ["description"] .value .null = some d.description :=
    hr.value h.distinct rfl
  have hoptional : r.optional 5 ["optional"] .bool false = some d.optional :=
    hr.always rfl (Decoder.restores_bool d.optional)
  have hmodule : r.optional 6 ["hasModuleJS"] .bool false = some d.hasModule :=
    hr.always rfl (Decoder.restores_bool d.hasModule)
  simp only [decoder, document, hopen, hname, hversions, hlatest, hinstalled, hdescription,
    hoptional, hmodule, Option.bind_eq_bind, Option.bind_some]

end PluginDescriptor

namespace PluginSelection

lemma parse_frame (s : PluginSelection) (task : String) :
    Envelope.parse (flatMessage task s.document) = .ok ⟨task, s.document.toValue⟩ := by
  refine Envelope.parse_flatMessage task 0 (by simp) ?_ (by decide)
  simp [Document.fits_string]

lemma restores (s : PluginSelection) : decoder.Restores s.document s := by
  refine ⟨nofun, fun room hroom => ?_⟩
  obtain ⟨r, hopen, hr⟩ := Document.exists_open? 2 hroom
  have hname : r.required 0 ["name"] .string = some s.name :=
    hr.required rfl (Decoder.restores_string s.name)
  have hversion : r.required 1 ["version"] .string = some s.version :=
    hr.required rfl (Decoder.restores_string s.version)
  simp only [decoder, document, hopen, hname, hversion, Option.bind_eq_bind, Option.bind_some]

end PluginSelection

/-! ### Session and server state -/

namespace SessionGrant

lemma parse_frame (g : SessionGrant) (task : String) :
    Envelope.parse (flatMessage task g.document) = .ok ⟨task, g.document.toValue⟩ := by
  refine Envelope.parse_flatMessage task 0 (by simp) ?_ (by decide)
  simp [Document.fits_string]

lemma restores (g : SessionGrant) : decoder.Restores g.document g := by
  refine ⟨nofun, fun room hroom => ?_⟩
  obtain ⟨r, hopen, hr⟩ := Document.exists_open? 1 hroom
  have hsession : r.required 0 ["sessionUUID"] .string = some g.session :=
    hr.required rfl (Decoder.restores_string g.session)
  simp only [decoder, document, hopen, hsession, Option.bind_eq_bind, Option.bind_some]

end SessionGrant

namespace BusyNotice

lemma parse_frame (n : BusyNotice) (task : String) :
    Envelope.parse (flatMessage task n.document) = .ok ⟨task, n.document.toValue⟩ := by
  refine Envelope.parse_flatMessage task 0 (by simp) ?_ (by decide)
  simp [Document.fits_bool]

lemma restores (n : BusyNotice) : decoder.Restores n.document n := by
  refine ⟨nofun, fun room hroom => ?_⟩
  obtain ⟨r, hopen, hr⟩ := Document.exists_open? 1 hroom
  have hbusy : r.required 0 ["isBusy"] .bool = some n.busy :=
    hr.required rfl (Decoder.restores_bool n.busy)
  simp only [decoder, document, hopen, hbusy, Option.bind_eq_bind, Option.bind_some]

end BusyNotice

/-! ### Messages of any kind -/

/-- What a message may be. -/
inductive Kind where
  | vec2
  | vec3
  | cameraNotice
  | cursorMark
  | cursorNotice
  | canvas
  | texturePayload
  | meshPayload
  | meshDelta
  | meshHealth
  | pluginDescriptor
  | pluginSelection
  | sessionGrant
  | busyNotice
deriving DecidableEq, Repr

namespace Kind

/-- The messages of a kind. -/
def Message : Kind → Type
  | vec2 => Vec2
  | vec3 => Vec3
  | cameraNotice => CameraNotice
  | cursorMark => CursorMark
  | cursorNotice => CursorNotice
  | canvas => Canvas
  | texturePayload => TexturePayload
  | meshPayload => MeshPayload
  | meshDelta => MeshDelta
  | meshHealth => MeshHealth
  | pluginDescriptor => PluginDescriptor
  | pluginSelection => PluginSelection
  | sessionGrant => SessionGrant
  | busyNotice => BusyNotice

/-- What a message is written as. -/
def document : (k : Kind) → k.Message → Document
  | vec2 => Vec2.document
  | vec3 => Vec3.document
  | cameraNotice => CameraNotice.document
  | cursorMark => CursorMark.document
  | cursorNotice => CursorNotice.document
  | canvas => Canvas.document
  | texturePayload => TexturePayload.document
  | meshPayload => MeshPayload.document
  | meshDelta => MeshDelta.document
  | meshHealth => MeshHealth.document
  | pluginDescriptor => PluginDescriptor.document
  | pluginSelection => PluginSelection.document
  | sessionGrant => SessionGrant.document
  | busyNotice => BusyNotice.document

/-- Reads the messages of a kind. -/
def decoder : (k : Kind) → Decoder k.Message
  | vec2 => Vec2.decoder
  | vec3 => Vec3.decoder
  | cameraNotice => CameraNotice.decoder
  | cursorMark => CursorMark.decoder
  | cursorNotice => CursorNotice.decoder
  | canvas => Canvas.decoder
  | texturePayload => TexturePayload.decoder
  | meshPayload => MeshPayload.decoder
  | meshDelta => MeshDelta.decoder
  | meshHealth => MeshHealth.decoder
  | pluginDescriptor => PluginDescriptor.decoder
  | pluginSelection => PluginSelection.decoder
  | sessionGrant => SessionGrant.decoder
  | busyNotice => BusyNotice.decoder

/-- The messages whose numbers are finite, and whose values leave room for the frame. -/
def IsWhole : (k : Kind) → k.Message → Prop
  | vec2 => fun v => v.isFinite
  | vec3 => fun v => v.isFinite
  | cameraNotice => CameraNotice.IsFinite
  | cursorMark => fun m => m.dir.isFinite
  | cursorNotice => fun n => ∀ m ∈ n.cursor, m.dir.isFinite
  | canvas => Canvas.IsWhole
  | meshDelta => MeshDelta.IsWhole
  | pluginDescriptor => PluginDescriptor.IsWhole
  | texturePayload | meshPayload | meshHealth | pluginSelection | sessionGrant | busyNotice =>
    fun _ => True

end Kind

/-- Every message comes out of its flat frame as it was put in, under the task of the frame. -/
theorem messages_read_back (k : Kind) (x : k.Message) (hx : k.IsWhole x) (task : String) :
    ∃ parameters, Envelope.parse (flatMessage task (k.document x)) = .ok ⟨task, parameters⟩ ∧
      k.decoder.onValue parameters = some x := by
  cases k with
  | vec2 => exact ⟨_, Vec2.parse_frame x task, (Vec2.restores hx).onValue⟩
  | vec3 => exact ⟨_, Vec3.parse_frame x task, (Vec3.restores hx).onValue⟩
  | cameraNotice => exact ⟨_, CameraNotice.parse_frame x task, (CameraNotice.restores hx).onValue⟩
  | cursorMark => exact ⟨_, CursorMark.parse_frame x task, (CursorMark.restores hx).onValue⟩
  | cursorNotice => exact ⟨_, CursorNotice.parse_frame x task, (CursorNotice.restores hx).onValue⟩
  | canvas => exact ⟨_, Canvas.parse_frame hx task, (Canvas.restores hx).onValue⟩
  | texturePayload =>
    exact ⟨_, TexturePayload.parse_frame x task, (TexturePayload.restores x).onValue⟩
  | meshPayload => exact ⟨_, MeshPayload.parse_frame x task, (MeshPayload.restores x).onValue⟩
  | meshDelta => exact ⟨_, MeshDelta.parse_frame hx task, (MeshDelta.restores hx).onValue⟩
  | meshHealth => exact ⟨_, MeshHealth.parse_frame x task, (MeshHealth.restores x).onValue⟩
  | pluginDescriptor =>
    exact ⟨_, PluginDescriptor.parse_frame hx task, (PluginDescriptor.restores hx).onValue⟩
  | pluginSelection =>
    exact ⟨_, PluginSelection.parse_frame x task, (PluginSelection.restores x).onValue⟩
  | sessionGrant => exact ⟨_, SessionGrant.parse_frame x task, (SessionGrant.restores x).onValue⟩
  | busyNotice => exact ⟨_, BusyNotice.parse_frame x task, (BusyNotice.restores x).onValue⟩

/-- The cursors of a canvas keep their order, and a cursor that is gone stays so; a negative zero
and a tenth go through double precision. -/
theorem messages_read_back_canvas :
    let canvas : Canvas :=
      { camera := { position := some ⟨⟨0x3dcccccd⟩, ⟨0x80000000⟩, ⟨0x00000001⟩⟩ }
        cursors := [("", {}), ("s-1", { dir := ⟨⟨0xbf000000⟩, ⟨0⟩⟩, icon := 3, removed := true })] }
    Canvas.IsWhole canvas ∧
      ∃ parameters, Envelope.parse (flatMessage "canvas" canvas.document)
        = .ok ⟨"canvas", parameters⟩ ∧ Canvas.decoder.onValue parameters = some canvas := by
  intro canvas
  have hcamera : canvas.camera.IsFinite := ⟨by decide, by decide, by decide⟩
  have hwhole : canvas.IsWhole := ⟨by decide, hcamera, by decide, by decide⟩
  exact ⟨hwhole, messages_read_back .canvas canvas hwhole "canvas"⟩

end Wire

end MeshRoom
