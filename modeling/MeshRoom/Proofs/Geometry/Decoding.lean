import MeshRoom.Geometry.Mesh
import MeshRoom.Proofs.Geometry.Words
import MeshRoom.Proofs.Text.Base64

/-!
# A payload holds the geometry it was written from

The buffers of a payload that holds a geometry are what the encoders write of that geometry, and
only of one whose faces refer to its vertices and whose attributes come one to a vertex. So every
buffer that is accepted is written again as the same text.
-/

namespace MeshRoom

open Wire Words

/-! ### Coordinates in order -/

/-- The coordinates of a vector, in order. -/
def Vec3.coords (v : Vec3) : List Single := [v.x, v.y, v.z]

/-- The coordinates of an offset, in order. -/
def Vec2.coords (v : Vec2) : List Single := [v.x, v.y]

/-- The corners of a face, in order. -/
def Triangle.corners (t : Triangle) : List UInt32 := [t.a, t.b, t.c]

/-- The payload of an image. -/
def Texture.payload (t : Texture) : TexturePayload :=
  ⟨t.name, t.width, t.height, String.ofList (Base64.encode t.data)⟩

namespace Geometry

/-- The buffer of vectors. -/
def encodeVectors3 (vs : List Vec3) : String := encodeSingles (vs.flatMap Vec3.coords)

/-- The buffer of offsets. -/
def encodeVectors2 (vs : List Vec2) : String := encodeSingles (vs.flatMap Vec2.coords)

/-- The buffer of faces. -/
def encodeTriangles (ts : List Triangle) : String :=
  encodeInts ((ts.flatMap Triangle.corners).map UInt32.toInt32)

/-- Every corner of a face is one of so many vertices, and a signed word can say which. -/
def InRange (count : Nat) (t : Triangle) : Prop :=
  ∀ i ∈ t.corners, i.toNat < count ∧ i.toNat < 2 ^ 31

/-- A payload is what the encoders write of a geometry. -/
structure Written (p : MeshPayload) (g : Geometry) : Prop where
  vertices : p.vertices = some (encodeVectors3 g.positions)
  faces : p.faces = none ∧ g.triangles = [] ∨
    p.faces = some (encodeTriangles g.triangles) ∧ ∀ t ∈ g.triangles, InRange g.vertexCount t
  colors : p.colors = g.colors.map encodeVectors3 ∧ ∀ cs ∈ g.colors, cs.length = g.vertexCount
  texcoords : p.texcoords = g.texcoords.map encodeVectors2 ∧
    ∀ cs ∈ g.texcoords, cs.length = g.vertexCount
  textures : p.textures = g.textures.map Texture.payload

/-! ### Buffers -/

lemma bind_eq_ok_iff {ε α β : Type} {x : Except ε α} {f : α → Except ε β} {b : β} :
    (x >>= f) = .ok b ↔ ∃ a, x = .ok a ∧ f a = .ok b := by
  cases x with
  | error e => simp [bind, Except.bind]
  | ok a => simp [bind, Except.bind]

lemma decodeBytes_eq_ok_iff {b : Buffer} {text : String} {bytes : List UInt8} :
    decodeBytes b text = .ok bytes ↔ text = String.ofList (Base64.encode bytes) := by
  have htext : text.toList = Base64.encode bytes ↔ text = String.ofList (Base64.encode bytes) := by
    rw [← String.toList_inj, String.toList_ofList]
  rw [← htext, ← Base64.decode?_eq_some_iff, decodeBytes]
  cases Base64.decode? text.toList with
  | none => simp
  | some bytes' => simp

/-- Words are read from a buffer if it is what is written of them and they make whole entries. -/
lemma decodeWords_eq_ok_iff {b : Buffer} (hstride : 4 ∣ b.stride) {text : String}
    {ws : List UInt32} :
    decodeWords b text = .ok ws ↔ text = encodeWords ws ∧ b.stride ∣ 4 * ws.length := by
  rw [decodeWords, bind_eq_ok_iff]
  constructor
  · rintro ⟨bytes, hbytes, hwords⟩
    split at hwords
    case isTrue hwhole =>
      cases hwords
      have hwhole := Nat.dvd_of_mod_eq_zero hwhole
      have hread := toBytes_read (Nat.mod_eq_zero_of_dvd (Nat.dvd_trans hstride hwhole))
      rw [encodeWords, ← length_toBytes, hread]
      exact ⟨decodeBytes_eq_ok_iff.1 hbytes, hwhole⟩
    case isFalse => cases hwords
  · rintro ⟨rfl, hwhole⟩
    refine ⟨toBytes ws, decodeBytes_eq_ok_iff.2 rfl, ?_⟩
    rw [length_toBytes, if_pos (Nat.mod_eq_zero_of_dvd hwhole), read_toBytes]

/-! ### Entries -/

/-- Words grouped as the entries of a buffer, and entries written as words, undo one another. -/
structure Grouping (b : Buffer) {α : Type} (entries : List UInt32 → List α)
    (words : List α → List UInt32) : Prop where
  stride : 4 ∣ b.stride
  entries_words (items : List α) : entries (words items) = items
  words_entries (ws : List UInt32) (h : b.stride ∣ 4 * ws.length) : words (entries ws) = ws
  whole (items : List α) : b.stride ∣ 4 * (words items).length

/-- The words of vectors are those of triples. -/
lemma bits_coords3 (vs : List Vec3) : (vs.flatMap Vec3.coords).map Single.bits
    = (vs.map fun v => (v.x.bits, v.y.bits, v.z.bits)).flatMap ofTriple := by
  rw [List.map_flatMap, List.flatMap_map]
  rfl

/-- The words of offsets are those of pairs. -/
lemma bits_coords2 (vs : List Vec2) : (vs.flatMap Vec2.coords).map Single.bits
    = (vs.map fun v => (v.x.bits, v.y.bits)).flatMap ofPair := by
  rw [List.map_flatMap, List.flatMap_map]
  rfl

lemma grouping_vectors3 {b : Buffer} (hb : b.stride = 12) :
    Grouping b vectors3 fun vs => (vs.flatMap Vec3.coords).map Single.bits where
  stride := ⟨3, hb⟩
  entries_words vs := by
    rw [bits_coords3, vectors3, triples_flatMap, List.map_map]
    exact List.map_id vs
  words_entries ws h := by
    rw [hb] at h
    rw [bits_coords3, vectors3, List.map_map]
    calc ((triples ws).map _).flatMap ofTriple = (triples ws).flatMap ofTriple :=
          congrArg (List.flatMap ofTriple) (List.map_id _)
      _ = ws := flatMap_triples (by omega)
  whole vs := by
    rw [bits_coords3, length_flatMap_triple, hb]
    omega

lemma grouping_vectors2 {b : Buffer} (hb : b.stride = 8) :
    Grouping b vectors2 fun vs => (vs.flatMap Vec2.coords).map Single.bits where
  stride := ⟨2, hb⟩
  entries_words vs := by
    rw [bits_coords2, vectors2, pairs_flatMap, List.map_map]
    exact List.map_id vs
  words_entries ws h := by
    rw [hb] at h
    rw [bits_coords2, vectors2, List.map_map]
    calc ((pairs ws).map _).flatMap ofPair = (pairs ws).flatMap ofPair :=
          congrArg (List.flatMap ofPair) (List.map_id _)
      _ = ws := flatMap_pairs (by omega)
  whole vs := by
    rw [bits_coords2, length_flatMap_pair, hb]
    omega

variable {α : Type} {b : Buffer} {entries : List UInt32 → List α} {words : List α → List UInt32}

/-- Entries are read from a buffer if it is what is written of them. -/
lemma exists_decodeWords_iff (hb : Grouping b entries words) {text : String} {items : List α} :
    (∃ ws, decodeWords b text = .ok ws ∧ entries ws = items) ↔
      text = encodeWords (words items) := by
  constructor
  · rintro ⟨ws, hws, rfl⟩
    obtain ⟨htext, hwhole⟩ := (decodeWords_eq_ok_iff hb.stride).1 hws
    rwa [hb.words_entries ws hwhole]
  · rintro rfl
    exact ⟨words items, (decodeWords_eq_ok_iff hb.stride).2 ⟨rfl, hb.whole items⟩,
      hb.entries_words items⟩

/-- An attribute is read if it is what is written of it, with one entry to a vertex. -/
lemma decodeAttribute_eq_ok_iff (hb : Grouping b entries words) {count : Nat}
    {text? : Option String} {items? : Option (List α)} :
    decodeAttribute b count entries text? = .ok items? ↔
      text? = items?.map (fun items => encodeWords (words items)) ∧
        ∀ items ∈ items?, items.length = count := by
  cases text? with
  | none =>
    rw [decodeAttribute]
    cases items? with
    | none => simp
    | some items => simp
  | some text =>
    rw [decodeAttribute, bind_eq_ok_iff]
    constructor
    · rintro ⟨ws, hws, hitems⟩
      dsimp only at hitems
      split at hitems
      case isTrue hcount =>
        cases hitems
        have htext := (exists_decodeWords_iff hb).1 ⟨ws, hws, rfl⟩
        exact ⟨congrArg some htext, fun items hitems => Option.mem_some.1 hitems ▸ hcount⟩
      case isFalse => cases hitems
    · rintro ⟨htext, hcount⟩
      cases items? with
      | none => cases htext
      | some items =>
        obtain ⟨ws, hws, rfl⟩ := (exists_decodeWords_iff hb).2 (Option.some.inj htext)
        refine ⟨ws, hws, ?_⟩
        dsimp only
        rw [if_pos (hcount _ rfl)]

/-! ### Faces -/

/-- A word below the sign bit is itself as a signed one, any other is negative. -/
lemma toInt_toInt32 (w : UInt32) :
    w.toNat < 2 ^ 31 ∧ w.toInt32.toInt = w.toNat ∨ 2 ^ 31 ≤ w.toNat ∧ w.toInt32.toInt < 0 := by
  have hw := w.toNat_lt
  have htoInt : w.toInt32.toInt
      = if 2 * w.toNat < 2 ^ 32 then (w.toNat : Int) else w.toNat - 2 ^ 32 :=
    BitVec.toInt_eq_toNat_cond w.toBitVec
  split at htoInt <;> omega

lemma decodeIndex_eq_ok_iff {count face : Nat} {w i : UInt32} :
    decodeIndex count face w = .ok i ↔ w = i ∧ i.toNat < count ∧ i.toNat < 2 ^ 31 := by
  have hsigned := toInt_toInt32 w
  unfold decodeIndex
  dsimp only
  split
  case isTrue hout =>
    refine ⟨nofun, ?_⟩
    rintro ⟨rfl, hcount, hword⟩
    omega
  case isFalse hin =>
    rw [Except.ok.injEq]
    refine ⟨?_, And.left⟩
    rintro rfl
    exact ⟨rfl, by omega⟩

/-- Faces are read from triples of words if they are those words, all of them in range. -/
lemma decodeFaces_eq_ok_iff {count face : Nat} {es : List (UInt32 × UInt32 × UInt32)}
    {ts : List Triangle} :
    decodeFaces count face es = .ok ts ↔
      es = ts.map (fun t => (t.a, t.b, t.c)) ∧ ∀ t ∈ ts, InRange count t := by
  induction es generalizing face ts with
  | nil => cases ts <;> simp [decodeFaces]
  | cons e es ih =>
    obtain ⟨a, b, c⟩ := e
    simp only [decodeFaces, bind_eq_ok_iff, decodeIndex_eq_ok_iff, ih]
    constructor
    · rintro ⟨_, ⟨rfl, ha⟩, _, ⟨rfl, hb⟩, _, ⟨rfl, hc⟩, ts, ⟨rfl, hts⟩, hcons⟩
      cases hcons
      refine ⟨rfl, fun t ht => ?_⟩
      obtain rfl | ht := List.mem_cons.1 ht
      · simpa [InRange, Triangle.corners] using ⟨ha, hb, hc⟩
      · exact hts t ht
    · rintro ⟨hes, hts⟩
      cases ts with
      | nil => cases hes
      | cons t ts =>
        cases hes
        have ht := hts t List.mem_cons_self
        simp only [InRange, Triangle.corners, List.forall_mem_cons] at ht
        exact ⟨_, ⟨rfl, ht.1⟩, _, ⟨rfl, ht.2.1⟩, _, ⟨rfl, ht.2.2.1⟩, ts,
          ⟨rfl, fun t' ht' => hts t' (List.mem_cons_of_mem t ht')⟩, rfl⟩

/-- The words of faces are those of triples. -/
lemma words_corners (ts : List Triangle) :
    ((ts.flatMap Triangle.corners).map UInt32.toInt32).map Int32.toUInt32
      = (ts.map fun t => (t.a, t.b, t.c)).flatMap ofTriple := by
  rw [List.map_map, List.flatMap_map]
  exact List.map_id _

lemma decodeTriangles_eq_ok_iff {count : Nat} {text? : Option String} {ts : List Triangle} :
    decodeTriangles count text? = .ok ts ↔ text? = none ∧ ts = [] ∨
      text? = some (encodeTriangles ts) ∧ ∀ t ∈ ts, InRange count t := by
  cases text? with
  | none => simp [decodeTriangles, eq_comm]
  | some text =>
    have hstride : 4 ∣ Buffer.faces.stride := ⟨3, rfl⟩
    simp only [decodeTriangles, bind_eq_ok_iff, decodeWords_eq_ok_iff hstride,
      decodeFaces_eq_ok_iff, encodeTriangles, encodeInts, words_corners, reduceCtorEq, false_and,
      false_or, Option.some.injEq]
    constructor
    · rintro ⟨ws, ⟨rfl, hwhole⟩, htriples, hrange⟩
      have hwhole : 12 ∣ 4 * ws.length := hwhole
      rw [← htriples, flatMap_triples (by omega)]
      exact ⟨rfl, hrange⟩
    · rintro ⟨rfl, hrange⟩
      refine ⟨_, ⟨rfl, ?_⟩, triples_flatMap _, hrange⟩
      rw [length_flatMap_triple]
      exact ⟨ts.length, by rw [List.length_map, Buffer.stride]; omega⟩

/-! ### Textures -/

lemma decodeTexture_eq_ok_iff {p : TexturePayload} {t : Texture} :
    decodeTexture p = .ok t ↔ p = t.payload := by
  simp only [decodeTexture, bind_eq_ok_iff, decodeBytes_eq_ok_iff, Except.ok.injEq]
  constructor
  · rintro ⟨data, hdata, rfl⟩
    rw [Texture.payload, ← hdata]
  · rintro rfl
    exact ⟨t.data, rfl, rfl⟩

lemma mapM_decodeTexture_eq_ok_iff {ps : List TexturePayload} {ts : List Texture} :
    ps.mapM decodeTexture = .ok ts ↔ ps = ts.map Texture.payload := by
  induction ps generalizing ts with
  | nil => cases ts <;> simp [pure, Except.pure]
  | cons p ps ih =>
    simp only [List.mapM_cons, bind_eq_ok_iff, decodeTexture_eq_ok_iff, ih]
    constructor
    · rintro ⟨t, rfl, ts, rfl, hcons⟩
      cases hcons
      rfl
    · intro h
      cases ts with
      | nil => cases h
      | cons t ts =>
        cases h
        exact ⟨t, rfl, ts, rfl, rfl⟩

/-! ### Payloads -/

/-- A payload holds a geometry if and only if the encoders write that geometry as the payload. -/
theorem decode_eq_ok_iff_written {p : MeshPayload} {g : Geometry} :
    decode p = .ok g ↔ Written p g := by
  obtain ⟨positions, triangles, colors, texcoords, textures⟩ := g
  cases hvertices : p.vertices with
  | none =>
    simp only [decode, hvertices]
    refine ⟨nofun, fun h => ?_⟩
    cases hvertices.symm.trans h.vertices
  | some text =>
    simp only [decode, hvertices, bind_eq_ok_iff, decodeTriangles_eq_ok_iff,
      mapM_decodeTexture_eq_ok_iff, Except.ok.injEq,
      decodeAttribute_eq_ok_iff (grouping_vectors3 (b := .colors) rfl),
      decodeAttribute_eq_ok_iff (grouping_vectors2 (b := .texcoords) rfl)]
    have hpositions : (∃ ws, decodeWords .vertices text = .ok ws ∧ vectors3 ws = positions) ↔ _ :=
      exists_decodeWords_iff (grouping_vectors3 rfl)
    constructor
    · rintro ⟨ws, hws, _, hfaces, _, hcolors, _, htexcoords, _, htextures, hg⟩
      cases hg
      refine ⟨?_, hfaces, hcolors, htexcoords, htextures⟩
      rw [hvertices]
      exact congrArg some (hpositions.1 ⟨ws, hws, rfl⟩)
    · intro h
      obtain ⟨ws, hws, rfl⟩ := hpositions.2 (Option.some.inj (hvertices.symm.trans h.vertices))
      exact ⟨ws, hws, _, h.faces, _, h.colors, _, h.texcoords, _, h.textures, rfl⟩

/-- The payload of a triangle holds its three corners and one face. -/
example : (decode (trianglePayload "t")).toOption.map (fun g => (g.vertexCount, g.triangles))
    = some (3, [⟨0, 1, 2⟩]) := by
  decide +kernel

end Geometry

end MeshRoom
