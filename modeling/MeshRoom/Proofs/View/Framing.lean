import MeshRoom.Proofs.Geometry.Spheres
import MeshRoom.Proofs.View.Headless

/-!
# Framing in any order

A headless view keeps its objects in a table and goes through them to measure the meshes. In
whichever order it does so each time, and whichever of two zeros is taken for the lesser or the
greater, the view is the same after any acts, up to the signs of zeros in the places of its camera
and its bounds: the sphere around the points does not depend on their order, and the camera depends
on the sphere without telling the sign of a zero.
-/

namespace MeshRoom

/-! ### Vectors up to the signs of zeros -/

namespace Vec3.Alike

variable {a a' b b' : Vec3}

lemma rank_dot (ha : a.Alike a') (hb : b.Alike b') : (a.dot b).rank = (a'.dot b').rank :=
  Single.rank_add (Single.rank_add (Single.rank_mul ha.x hb.x) (Single.rank_mul ha.y hb.y))
    (Single.rank_mul ha.z hb.z)

lemma direction (h : a.Alike b) : a.direction.Alike b.direction := by
  rw [Vec3.direction, Vec3.direction, h.length_eq]
  split
  · exact h.scale _
  · exact .refl _

end Vec3.Alike

/-- The same camera up to the signs of zeros in its place and its planes. -/
structure Camera.Alike (c d : Camera) : Prop where
  target : c.target.Alike d.target
  position : c.position.Alike d.position
  up : c.up = d.up
  zoom : c.zoom = d.zoom
  near : c.near.rank = d.near.rank
  far : c.far.rank = d.far.rank

lemma Camera.Alike.refl (c : Camera) : c.Alike c := ⟨.refl _, .refl _, rfl, rfl, rfl, rfl⟩

lemma Camera.Alike.apply {c d : Camera} (h : c.Alike d) (change : CameraChange) :
    (change.apply c).Alike (change.apply d) where
  target := by
    cases htarget : change.target with
    | none => simpa [CameraChange.apply, htarget] using h.target
    | some a => simpa [CameraChange.apply, htarget] using Vec3.Alike.refl a
  position := by
    cases hposition : change.position with
    | none => simpa [CameraChange.apply, hposition] using h.position
    | some a => simpa [CameraChange.apply, hposition] using Vec3.Alike.refl a
  up := by rw [CameraChange.apply, CameraChange.apply, h.up]
  zoom := by rw [CameraChange.apply, CameraChange.apply, h.zoom]
  near := h.near
  far := h.far

namespace HeadlessView

/-- The same view up to the signs of zeros in its camera and its bounds. -/
structure Alike (v w : HeadlessView) : Prop where
  width : v.width = w.width
  height : v.height = w.height
  objects : v.objects = w.objects
  built : v.built = w.built
  camera : v.controls.camera.Alike w.controls.camera
  cursor : v.controls.cursor = w.controls.cursor
  strokeTime : v.controls.strokeTime = w.controls.strokeTime
  panSpeed : v.panSpeed = w.panSpeed
  bounds : Option.Rel Sphere.Alike v.bounds w.bounds
  clock : v.clock = w.clock

variable {v w : HeadlessView} {s t : Sphere}

/-! ### Framing a sphere -/

lemma Alike.frame (h : v.Alike w) (hs : s.Alike t) : (v.frame s).Alike (w.frame t) := by
  have hshift := hs.center.sub h.camera.target
  have hposition := h.camera.position.add hshift
  have htarget := h.camera.target.add hshift
  have hdistance := (hposition.sub htarget).length_eq
  have hzoom : (v.frame s).controls.camera.zoom = (w.frame t).controls.camera.zoom := by
    rw [HeadlessView.frame, HeadlessView.frame]
    dsimp only
    rw [hs.radius, h.width, h.height, h.camera.zoom]
  have hfar : (v.frame s).controls.camera.far = (w.frame t).controls.camera.far := by
    rw [HeadlessView.frame, HeadlessView.frame]
    dsimp only
    rw [hdistance]
  have hspeed : (v.frame s).panSpeed = (w.frame t).panSpeed := by
    rw [HeadlessView.frame, HeadlessView.frame]
    dsimp only
    rw [hdistance, h.panSpeed]
  exact { h with
    camera := ⟨htarget, hposition, h.camera.up, hzoom, h.camera.near, congrArg _ hfar⟩
    panSpeed := hspeed }

lemma Alike.standClear (h : v.Alike w) (hs : s.Alike t) :
    (v.standClear s).Alike (w.standClear t) := by
  have hshift : ((s.center - v.controls.camera.target).length + s.radius) * clearance
      = ((t.center - w.controls.camera.target).length + t.radius) * clearance := by
    rw [(hs.center.sub h.camera.target).length_eq, hs.radius]
  have hposition : (v.standClear s).controls.camera.position.Alike
      (w.standClear t).controls.camera.position := by
    have hdirection := (h.camera.position.sub h.camera.target).direction
    rw [HeadlessView.standClear, HeadlessView.standClear]
    dsimp only
    rw [hshift]
    exact h.camera.target.add (hdirection.scale _)
  have hdepth := (hs.center.sub hposition).rank_dot (h.camera.target.sub hposition).direction
  have hreach : s.radius * clearance = t.radius * clearance := by rw [hs.radius]
  have hspeed : (v.standClear s).panSpeed = (w.standClear t).panSpeed := by
    rw [HeadlessView.standClear, HeadlessView.standClear]
    dsimp only
    rw [hshift, h.panSpeed]
  exact { h with
    camera := ⟨h.camera.target, hposition, h.camera.up, h.camera.zoom,
      Single.rank_sub hdepth (congrArg _ hreach), Single.rank_add hdepth (congrArg _ hreach)⟩
    panSpeed := hspeed }

lemma Alike.stroke (h : v.Alike w) : v.stroke.Alike w.stroke := { h with strokeTime := h.clock }

/-- Frame a sphere, if there is one. -/
def fitTo (s? : Option Sphere) (v : HeadlessView) : HeadlessView :=
  match s? with
  | none => v
  | some s => (v.frame s).stroke

/-- Stand clear of what was measured before, or of a sphere, if there is one. -/
def recenterTo (refresh : Bool) (s? : Option Sphere) (v : HeadlessView) : HeadlessView :=
  if v.group.isEmpty then v
  else
    let v := if refresh || v.bounds.isNone then { v with bounds := s? } else v
    match v.bounds with
    | none => v
    | some s => (v.standClear s).stroke

lemma fit_eq (v : HeadlessView) : v.fit = v.fitTo (boundingSphere? (v.points true)) := rfl

lemma recenter_eq (refresh : Bool) (v : HeadlessView) :
    v.recenter refresh = v.recenterTo refresh (boundingSphere? (v.points false)) := rfl

variable {s? t? : Option Sphere}

lemma Alike.fitTo (h : v.Alike w) (hs : Option.Rel Sphere.Alike s? t?) :
    (v.fitTo s?).Alike (w.fitTo t?) := by
  cases hs with
  | none => exact h
  | some hs => exact (h.frame hs).stroke

lemma Alike.withBounds (h : v.Alike w) (hs : Option.Rel Sphere.Alike s? t?) :
    Alike { v with bounds := s? } { w with bounds := t? } := { h with bounds := hs }

lemma Alike.recenterTo (h : v.Alike w) (refresh : Bool) (hs : Option.Rel Sphere.Alike s? t?) :
    (v.recenterTo refresh s?).Alike (w.recenterTo refresh t?) := by
  have hgroup : v.group = w.group := by rw [group, group, h.objects]
  have hmeasured : v.bounds.isNone = w.bounds.isNone := by
    have hbounds := h.bounds
    generalize v.bounds = b at hbounds ⊢
    generalize w.bounds = b' at hbounds ⊢
    cases hbounds with
    | none => rfl
    | some => rfl
  have hstand {v w : HeadlessView} (h : v.Alike w) :
      Alike (match v.bounds with | none => v | some s => (v.standClear s).stroke)
        (match w.bounds with | none => w | some s => (w.standClear s).stroke) := by
    have hbounds := h.bounds
    generalize v.bounds = b at hbounds ⊢
    generalize w.bounds = b' at hbounds ⊢
    cases hbounds with
    | none => exact h
    | some hs => exact (h.standClear hs).stroke
  rw [HeadlessView.recenterTo, HeadlessView.recenterTo, hgroup, hmeasured]
  split
  case isTrue => exact h
  case isFalse =>
    split
    case isTrue => exact hstand (h.withBounds hs)
    case isFalse => exact hstand h

/-! ### Objects in any order -/

/-- The points of the front sides that are in the group, the objects coming in some order. -/
def pointsOf (onlyVisible : Bool) (order : List HeadlessObject) : List Vec3 :=
  ((order.filter (·.attached)).filter fun o =>
    o.face = .front && (!onlyVisible || o.visible)).flatMap (·.positions)

lemma points_eq (onlyVisible : Bool) (v : HeadlessView) :
    v.points onlyVisible = pointsOf onlyVisible v.objects.values := rfl

lemma pointsOf_perm {order order' : List HeadlessObject} (hperm : order.Perm order')
    (onlyVisible : Bool) : (pointsOf onlyVisible order).Perm (pointsOf onlyVisible order') :=
  ((hperm.filter _).filter _).flatMap_right _

/-- All positions of the objects are finite. -/
def IsFinite (v : HeadlessView) : Prop :=
  ∀ (h : Handle) (o : HeadlessObject), v.objects[h]? = some o → ∀ p ∈ o.positions, p.isFinite

lemma IsFinite.points (h : v.IsFinite) (onlyVisible : Bool) :
    ∀ p ∈ v.points onlyVisible, p.isFinite := by
  intro p hp
  rw [points_eq, pointsOf, List.mem_flatMap] at hp
  obtain ⟨o, ho, hp⟩ := hp
  obtain ⟨handle, hget⟩ := mem_values.1 (List.mem_of_mem_filter (List.mem_of_mem_filter ho))
  exact h handle o hget p hp

/-- What is measured of the meshes does not depend on the order of the objects. -/
lemma IsFinite.measured (h : v.IsFinite) {onlyVisible : Bool} {order : List HeadlessObject}
    (horder : order.Perm v.objects.values) (hs : Measures (pointsOf onlyVisible order) s?) :
    Option.Rel Sphere.Alike (boundingSphere? (v.points onlyVisible)) s? :=
  (measures_boundingSphere? (h.points onlyVisible)).alike hs (pointsOf_perm horder.symm onlyVisible)
    (h.points onlyVisible)

/-! ### Acts on a view -/

/-- What befalls a view. -/
inductive Act where
  | build (name : String) (g : Geometry) (face : Face) (visible : Bool)
  | attach (attached : Bool) (h : Handle)
  | dispose (h : Handle)
  | move (change : CameraChange)
  | point (x y : Single) (icon : UInt32)
  | stroke
  | pass (clock : Int64)
  | fit
  | recenter (refresh : Bool)

/-- What a view becomes. -/
def perform (v : HeadlessView) : Act → HeadlessView
  | .build name g face visible =>
    match v.build name g face visible with
    | .ok (_, v) => v
    | .error _ => v
  | .attach attached h => v.setAttached attached h
  | .dispose h => v.dispose h
  | .move change => View.move change v
  | .point x y icon => v.movePointer x y icon
  | .stroke => v.stroke
  | .pass clock => { v with clock }
  | .fit => v.fit
  | .recenter refresh => v.recenter refresh

/-- What a view may become, if its objects come in any order where the meshes are measured. -/
inductive Step (v : HeadlessView) : Act → HeadlessView → Prop where
  | own (a : Act) : Step v a (v.perform a)
  | fit (order : List HeadlessObject) (s? : Option Sphere) (h : order.Perm v.objects.values)
      (hs : Measures (pointsOf true order) s?) : Step v .fit (v.fitTo s?)
  | recenter (refresh : Bool) (order : List HeadlessObject) (s? : Option Sphere)
      (h : order.Perm v.objects.values) (hs : Measures (pointsOf false order) s?) :
      Step v (.recenter refresh) (v.recenterTo refresh s?)

/-- Acts one after the other. -/
inductive Run : HeadlessView → List Act → HeadlessView → Prop where
  | nil (v : HeadlessView) : Run v [] v
  | cons {v v' v'' : HeadlessView} {a : Act} {acts : List Act} (h : Step v a v')
      (hrest : Run v' acts v'') : Run v (a :: acts) v''

variable {v' w' : HeadlessView} {a : Act}

lemma alike_sphere_self (s? : Option Sphere) : Option.Rel Sphere.Alike s? s? := by
  cases s? with
  | none => exact .none
  | some s => exact .some (.refl s)

lemma Alike.points_eq (h : v.Alike w) (onlyVisible : Bool) :
    v.points onlyVisible = w.points onlyVisible := by
  rw [points, points, group, group, h.objects]

lemma perform_build (name : String) (g : Geometry) (face : Face) (visible : Bool)
    (v : HeadlessView) : v.perform (.build name g face visible)
      = if g.positions.all Vec3.isFinite then
          { v with
            built := v.built + 1
            objects := v.objects.insert (v.built + 1) { face, visible, positions := g.positions } }
        else v := by
  rw [perform, HeadlessView.build]
  cases g.positions.all Vec3.isFinite with
  | true => rfl
  | false => rfl

/-- Views that are alike stay alike. -/
lemma Alike.perform (h : v.Alike w) (a : Act) : (v.perform a).Alike (w.perform a) := by
  cases a with
  | build name g face visible =>
    have hbuilt : v.built + 1 = w.built + 1 := congrArg _ h.built
    rw [perform_build, perform_build]
    split
    case isTrue => exact { h with objects := by rw [hbuilt, h.objects], built := hbuilt }
    case isFalse => exact h
  | attach attached handle =>
    rw [HeadlessView.perform, HeadlessView.perform, setAttached, setAttached, h.objects]
    split
    · exact { h with objects := rfl }
    · exact h
  | dispose handle =>
    exact { h with objects := congrArg (·.erase handle) h.objects }
  | move change => exact { h with camera := h.camera.apply change }
  | point x y icon =>
    have hcursor : (v.movePointer x y icon).controls.cursor
        = (w.movePointer x y icon).controls.cursor := by
      rw [movePointer, movePointer, h.width, h.height]
    exact { h with cursor := hcursor }
  | stroke => exact h.stroke
  | pass clock => exact { h with clock := rfl }
  | fit =>
    rw [HeadlessView.perform, HeadlessView.perform, fit_eq, fit_eq, h.points_eq]
    exact h.fitTo (alike_sphere_self _)
  | recenter refresh =>
    rw [HeadlessView.perform, HeadlessView.perform, recenter_eq, recenter_eq, h.points_eq]
    exact h.recenterTo refresh (alike_sphere_self _)

lemma objects_fitTo (s? : Option Sphere) (v : HeadlessView) : (v.fitTo s?).objects = v.objects := by
  cases s? with
  | none => rfl
  | some s => rfl

lemma objects_recenterTo (refresh : Bool) (s? : Option Sphere) (v : HeadlessView) :
    (v.recenterTo refresh s?).objects = v.objects := by
  have hmeasured (v : HeadlessView) :
      (match v.bounds with | none => v | some s => (v.standClear s).stroke).objects
        = v.objects := by
    split
    · rfl
    · rfl
  rw [recenterTo]
  split
  case isTrue => rfl
  case isFalse =>
    split
    case isTrue => exact hmeasured _
    case isFalse => exact hmeasured v

lemma IsFinite.of_objects (h : v.IsFinite) (hobjects : v'.objects = v.objects) : v'.IsFinite :=
  fun handle o ho => h handle o (hobjects ▸ ho)

/-- Objects are only built of finite positions. -/
lemma IsFinite.perform (h : v.IsFinite) (a : Act) : (v.perform a).IsFinite := by
  cases a with
  | build name g face visible =>
    rw [perform_build]
    split
    case isTrue hfinite =>
      intro handle o ho
      rw [getElem?_insert_ite] at ho
      split at ho
      case isTrue =>
        cases ho
        exact List.all_eq_true.1 hfinite
      case isFalse => exact h handle o ho
    case isFalse => exact h
  | attach attached handle =>
    intro k o ho
    rw [HeadlessView.perform, getElem?_setAttached] at ho
    split at ho
    case isTrue =>
      obtain ⟨o', ho', rfl⟩ := Option.map_eq_some_iff.1 ho
      exact h handle o' ho'
    case isFalse => exact h k o ho
  | dispose handle =>
    intro k o ho
    rw [HeadlessView.perform, getElem?_dispose] at ho
    split at ho
    case isTrue => cases ho
    case isFalse => exact h k o ho
  | move | point | stroke | pass => exact h.of_objects rfl
  | fit => exact h.of_objects (fit_keeps v).1
  | recenter refresh => exact h.of_objects (recenter_keeps refresh v).1

lemma IsFinite.step (h : v.IsFinite) (hstep : Step v a v') : v'.IsFinite := by
  cases hstep with
  | own => exact h.perform a
  | fit => exact h.of_objects (objects_fitTo _ v)
  | recenter refresh => exact h.of_objects (objects_recenterTo refresh _ v)

/-- The order of the objects makes no difference to one act. -/
lemma Alike.step (h : v.Alike w) (hw : w.IsFinite) (hstep : Step w a w') :
    (v.perform a).Alike w' := by
  cases hstep with
  | own => exact h.perform a
  | fit order s? horder hs =>
    rw [HeadlessView.perform, fit_eq, h.points_eq]
    exact h.fitTo (hw.measured horder hs)
  | recenter refresh order s? horder hs =>
    rw [HeadlessView.perform, recenter_eq, h.points_eq]
    exact h.recenterTo refresh (hw.measured horder hs)

/-- Nor does it to many. -/
lemma Alike.run {acts : List Act} (h : v.Alike w) (hw : w.IsFinite) (hrun : Run w acts w') :
    (acts.foldl HeadlessView.perform v).Alike w' := by
  induction hrun generalizing v with
  | nil => exact h
  | cons hstep _ ih => exact ih (h.step hw hstep) (hw.step hstep)

lemma run_own (acts : List Act) (v : HeadlessView) : Run v acts (acts.foldl perform v) := by
  induction acts generalizing v with
  | nil => exact .nil v
  | cons a acts ih => exact .cons (.own a) (ih (v.perform a))

lemma Run.concat {acts : List Act} (hrun : Run v acts v') (hstep : Step v' a w') :
    Run v (acts ++ [a]) w' := by
  induction hrun with
  | nil => exact .cons hstep (.nil w')
  | cons h _ ih => exact .cons h (ih hstep)

lemma IsFinite.run {acts : List Act} (h : v.IsFinite) (hrun : Run v acts v') : v'.IsFinite := by
  induction hrun with
  | nil => exact h
  | cons hstep _ ih => exact ih (h.step hstep)

/-- Whatever the order of the objects, what is computed from it may come about. -/
lemma IsFinite.step_fit (h : v.IsFinite) {order : List HeadlessObject}
    (horder : order.Perm v.objects.values) :
    Step v .fit (v.fitTo (boundingSphere? (pointsOf true order))) := by
  have hperm := pointsOf_perm horder true
  refine .fit order _ horder (measures_boundingSphere? fun p hp => ?_)
  exact h.points true p (hperm.mem_iff.1 hp)

lemma Alike.refl (v : HeadlessView) : v.Alike v :=
  ⟨rfl, rfl, rfl, rfl, .refl _, rfl, rfl, rfl, alike_sphere_self _, rfl⟩

lemma isFinite_ofWindow (width height : Nat) : (ofWindow width height).IsFinite := by
  intro handle o ho
  simp [ofWindow] at ho

end HeadlessView

open HeadlessView in
/-- The sphere around finite points does not depend on their order: the radius is the same and the
centre is numerically equal, and no point is farther from the centre than the radius. It is one that
may be measured, and all of that holds of any that may, whichever of two zeros is taken for the
lesser or the greater. So neither what a view has measured nor what it frames depends on the orders
in which it goes through its objects. -/
theorem sphere_and_framing_any_order :
    (∀ points points' : List Vec3, points ≠ [] → (∀ p ∈ points, p.isFinite = true) →
      points.Perm points' →
        ∃ s s', boundingSphere? points = some s ∧ boundingSphere? points' = some s' ∧
          s.radius = s'.radius ∧ s.center.agrees s'.center = true ∧
          ∀ p ∈ points, (p.distance s.center).atMost s.radius = true) ∧
    (∀ points : List Vec3, (∀ p ∈ points, p.isFinite = true) →
      Measures points (boundingSphere? points)) ∧
    (∀ (points points' : List Vec3) (s? s?' : Option Sphere), Measures points s? →
      Measures points' s?' → points ≠ [] → (∀ p ∈ points, p.isFinite = true) →
        points.Perm points' →
          ∃ s s', s? = some s ∧ s?' = some s' ∧
            s.radius = s'.radius ∧ s.center.agrees s'.center = true ∧
            ∀ p ∈ points, (p.distance s.center).atMost s.radius = true) ∧
    ∀ (width height : Nat) (acts : List Act) (v : HeadlessView),
      Run (ofWindow width height) acts v →
        Alike (acts.foldl perform (ofWindow width height)) v := by
  refine ⟨fun points points' hne hfinite hperm => ?_, fun points => measures_boundingSphere?,
    fun points points' s? s?' hs hs' hne hfinite hperm => hs.exists_spheres hs' hne hperm hfinite,
    fun width height acts v hrun => ?_⟩
  · have hfinite' : ∀ p ∈ points', p.isFinite := fun p hp => hfinite p (hperm.mem_iff.2 hp)
    exact (measures_boundingSphere? hfinite).exists_spheres (measures_boundingSphere? hfinite')
      hne hperm hfinite
  · exact (Alike.refl _).run (isFinite_ofWindow width height) hrun

/-- Two meshes of a point each are put into the group of a view. -/
def HeadlessView.twoMeshes : List Act :=
  [.build "front" { positions := [⟨0, 1, 2⟩] } .front true, .attach true 1,
    .build "back" { positions := [⟨⟨0x80000000⟩, 3, 1⟩] } .front true, .attach true 2]

open HeadlessView in
theorem sphere_and_framing_any_order_signed_zeros :
    (∃ s s', boundingSphere? [⟨0, 1, 2⟩, ⟨⟨0x80000000⟩, 3, 1⟩] = some s ∧
      boundingSphere? [⟨⟨0x80000000⟩, 3, 1⟩, ⟨0, 1, 2⟩] = some s' ∧
      s.radius = s'.radius ∧ s.center.agrees s'.center = true ∧
      ∀ p ∈ [Vec3.mk 0 1 2, ⟨⟨0x80000000⟩, 3, 1⟩],
        (p.distance s.center).atMost s.radius = true) ∧
    Measures [⟨0, 1, 2⟩, ⟨⟨0x80000000⟩, 3, 1⟩]
      (boundingSphere? [⟨0, 1, 2⟩, ⟨⟨0x80000000⟩, 3, 1⟩]) ∧
    (∀ s?, Measures [⟨⟨0x80000000⟩, 3, 1⟩, ⟨0, 1, 2⟩] s? →
      ∃ s s', boundingSphere? [⟨0, 1, 2⟩, ⟨⟨0x80000000⟩, 3, 1⟩] = some s ∧ s? = some s' ∧
        s.radius = s'.radius ∧ s.center.agrees s'.center = true ∧
        ∀ p ∈ [Vec3.mk 0 1 2, ⟨⟨0x80000000⟩, 3, 1⟩],
          (p.distance s.center).atMost s.radius = true) ∧
    Alike (twoMeshes.foldl perform (ofWindow 800 600)).fit
      ((twoMeshes.foldl perform (ofWindow 800 600)).fitTo (boundingSphere?
        (pointsOf true (twoMeshes.foldl perform (ofWindow 800 600)).objects.values.reverse))) := by
  have hfinite : ∀ p ∈ [Vec3.mk 0 1 2, ⟨⟨0x80000000⟩, 3, 1⟩], p.isFinite = true := by decide
  obtain ⟨hplain, hown, hties, hviews⟩ := sphere_and_framing_any_order
  refine ⟨hplain _ _ (by simp) hfinite (.swap _ _ _), hown _ hfinite,
    fun s? hs => hties _ _ _ _ (hown _ hfinite) hs (by simp) hfinite (.swap _ _ _), ?_⟩
  have hmeshes := run_own twoMeshes (ofWindow 800 600)
  have hview := (isFinite_ofWindow 800 600).run hmeshes
  have hlast := hviews 800 600 _ _ (hmeshes.concat (hview.step_fit (List.reverse_perm _)))
  rwa [List.foldl_concat] at hlast

end MeshRoom
