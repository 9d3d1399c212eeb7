import MeshRoom.Proofs.Number.Arithmetic
import MeshRoom.Geometry.Sphere
import Mathlib.Data.List.Perm.Basic
import Mathlib.Order.RelClasses

/-!
# Spheres in any order

The sphere around finite points does not depend on the order of the points. The corners of their box
do not, up to the signs of zeros, since each coordinate of a corner is one that comes first among
those of the points; so the centre does not either, being a number even where the sum of the corners
is infinite. Distances from centres that differ in the signs of zeros are the same, and the farthest
is the radius.

Of two zeros either may be taken for the lesser or the greater, each time anew. So what is measured
is a relation here, and the sphere that is computed is one that may be measured.
-/

namespace MeshRoom

/-! ### Least and greatest numbers -/

namespace Single

/-- One of two numbers is taken, such that neither comes before it. -/
structure Takes (before : Int → Int → Prop) (x y r : Single) : Prop where
  taken : r = x ∨ r = y
  left : before r.rank x.rank
  right : before r.rank y.rank

/-- One of many numbers is taken, going through them. -/
inductive TakesOf (before : Int → Int → Prop) : Single → List Single → Single → Prop where
  | nil (x : Single) : TakesOf before x [] x
  | cons {x y r s : Single} {ys : List Single} (h : Takes before x y r)
      (hrest : TakesOf before r ys s) : TakesOf before x (y :: ys) s

lemma below_eq {x y : Single} (hx : x.Numeric) (hy : y.Numeric) :
    x.below y = decide (x.rank < y.rank) := by
  rw [Numeric] at hx hy
  simp [below, hx, hy]

lemma takes_least {x y : Single} (hx : x.Numeric) (hy : y.Numeric) :
    Takes (· ≤ ·) x y (x.least y) := by
  rw [least, if_neg (Bool.eq_false_iff.1 hx), below_eq hy hx]
  split
  case isTrue hlt => exact ⟨.inr rfl, (of_decide_eq_true hlt).le, le_refl _⟩
  case isFalse hnot => exact ⟨.inl rfl, le_refl _, not_lt.1 (mt decide_eq_true hnot)⟩

lemma takes_greatest {x y : Single} (hx : x.Numeric) (hy : y.Numeric) :
    Takes (· ≥ ·) x y (x.greatest y) := by
  rw [greatest, if_neg (Bool.eq_false_iff.1 hx), below_eq hx hy]
  split
  case isTrue hlt => exact ⟨.inr rfl, (of_decide_eq_true hlt).le, le_refl _⟩
  case isFalse hnot => exact ⟨.inl rfl, le_refl _, not_lt.1 (mt decide_eq_true hnot)⟩

variable {before : Int → Int → Prop} {x x' r r' : Single} {xs xs' : List Single}

lemma Takes.numeric {y : Single} (h : Takes before x y r) (hx : x.Numeric) (hy : y.Numeric) :
    r.Numeric := by
  rcases h.taken with rfl | rfl
  · exact hx
  · exact hy

/-- A function that takes one of two numbers takes one of many. -/
lemma takesOf_foldl {take : Single → Single → Single}
    (htake : ∀ x y, x.Numeric → y.Numeric → Takes before x y (take x y))
    (h : ∀ y ∈ x :: xs, y.Numeric) : TakesOf before x xs (xs.foldl take x) := by
  induction xs generalizing x with
  | nil => exact .nil x
  | cons y xs ih =>
    simp only [List.forall_mem_cons] at h
    obtain ⟨hx, hy, hxs⟩ := h
    have htakes := htake x y hx hy
    exact .cons htakes (ih (List.forall_mem_cons.2 ⟨htakes.numeric hx hy, hxs⟩))

namespace TakesOf

/-- What is taken is one of the numbers. -/
lemma mem (h : TakesOf before x xs r) : r ∈ x :: xs := by
  induction h with
  | nil x => exact List.mem_singleton_self x
  | cons htakes _ ih =>
    rcases htakes.taken with rfl | rfl
    · exact List.cons_subset_cons _ (List.subset_cons_self _ _) ih
    · exact List.mem_cons_of_mem _ ih

variable [IsPartialOrder Int before]

/-- None of them comes before it. -/
lemma before_mem (h : TakesOf before x xs r) : ∀ y ∈ x :: xs, before r.rank y.rank := by
  induction h with
  | nil x =>
    intro y hy
    rw [List.mem_singleton.1 hy]
    exact Std.Refl.refl _
  | cons htakes _ ih =>
    rw [List.forall_mem_cons] at ih
    rw [List.forall_mem_cons, List.forall_mem_cons]
    exact ⟨IsTrans.trans _ _ _ ih.1 htakes.left, IsTrans.trans _ _ _ ih.1 htakes.right, ih.2⟩

/-- What is taken does not depend on the order, but for the sign of a zero. -/
lemma rank_eq (h : TakesOf before x xs r) (h' : TakesOf before x' xs' r')
    (hperm : (x :: xs).Perm (x' :: xs')) : r.rank = r'.rank :=
  Std.Antisymm.antisymm _ _ (h.before_mem _ (hperm.mem_iff.2 h'.mem))
    (h'.before_mem _ (hperm.mem_iff.1 h.mem))

end TakesOf

/-- Numeric order, equality included. -/
def atMost (x y : Single) : Bool := x.below y || x.agrees y

lemma atMost_of_rank_le {y : Single} (hx : x.Numeric) (hy : y.Numeric) (h : x.rank ≤ y.rank) :
    x.atMost y = true := by
  rw [Numeric] at hx hy
  rw [le_iff_lt_or_eq] at h
  simpa [atMost, below, agrees, hx, hy] using h

end Single

/-! ### Vectors up to the signs of zeros -/

namespace Vec3

/-- The same coordinates up to the signs of zeros. -/
structure Alike (a b : Vec3) : Prop where
  x : a.x.rank = b.x.rank
  y : a.y.rank = b.y.rank
  z : a.z.rank = b.z.rank

variable {a a' b b' : Vec3}

lemma Alike.refl (a : Vec3) : a.Alike a := ⟨rfl, rfl, rfl⟩

lemma Alike.add (ha : a.Alike a') (hb : b.Alike b') : (a + b).Alike (a' + b') :=
  ⟨Single.rank_add ha.x hb.x, Single.rank_add ha.y hb.y, Single.rank_add ha.z hb.z⟩

lemma Alike.sub (ha : a.Alike a') (hb : b.Alike b') : (a - b).Alike (a' - b') :=
  ⟨Single.rank_sub ha.x hb.x, Single.rank_sub ha.y hb.y, Single.rank_sub ha.z hb.z⟩

lemma Alike.scale (h : a.Alike b) (k : Single) : (a.scale k).Alike (b.scale k) :=
  ⟨Single.rank_mul h.x rfl, Single.rank_mul h.y rfl, Single.rank_mul h.z rfl⟩

/-- Lengths do not tell the signs of zeros. -/
lemma Alike.length_eq (h : a.Alike b) : a.length = b.length := by
  rw [length, length, dot, dot, Single.mul_self_of_rank_eq h.x, Single.mul_self_of_rank_eq h.y,
    Single.mul_self_of_rank_eq h.z]

lemma Alike.distance_eq (h : a.Alike b) (p : Vec3) : p.distance a = p.distance b :=
  ((Alike.refl p).sub h).length_eq

lemma Alike.agrees (h : a.Alike b) (ha : a.Numeric) (hb : b.Numeric) : a.agrees b := by
  obtain ⟨hax, hay, haz⟩ := ha
  obtain ⟨hbx, hby, hbz⟩ := hb
  rw [Single.Numeric] at hax hay haz hbx hby hbz
  simp [Vec3.agrees, Single.agrees, hax, hay, haz, hbx, hby, hbz, h.x, h.y, h.z]

lemma isFinite_iff : a.isFinite = true ↔ a.x.isFinite ∧ a.y.isFinite ∧ a.z.isFinite := by
  rw [isFinite, Bool.and_eq_true, Bool.and_eq_true, and_assoc]

lemma positive_length (h : a.Numeric) : a.length.Positive :=
  ((h.1.mul_self.add h.2.1.mul_self).add h.2.2.mul_self).sqrt

/-- The distance of a finite point from anywhere is a number, if perhaps an infinite one. -/
lemma positive_distance (ha : a.isFinite) (hb : b.Numeric) : (a.distance b).Positive := by
  obtain ⟨hx, hy, hz⟩ := isFinite_iff.1 ha
  exact positive_length ⟨Single.numeric_sub hx hb.1, Single.numeric_sub hy hb.2.1,
    Single.numeric_sub hz hb.2.2⟩

/-! ### Corners -/

/-- The corner of the box around points, on the side that comes first. -/
structure Corner (before : Int → Int → Prop) (p : Vec3) (ps : List Vec3) (c : Vec3) : Prop where
  x : Single.TakesOf before p.x (ps.map x) c.x
  y : Single.TakesOf before p.y (ps.map y) c.y
  z : Single.TakesOf before p.z (ps.map z) c.z

variable {before : Int → Int → Prop} {p p' c c' : Vec3} {ps ps' : List Vec3}

/-- Finite points have finite coordinates. -/
lemma isFinite_coordinates (h : ∀ q ∈ ps, q.isFinite) : (∀ k ∈ ps.map x, k.isFinite) ∧
    (∀ k ∈ ps.map y, k.isFinite) ∧ ∀ k ∈ ps.map z, k.isFinite := by
  simp only [List.forall_mem_map]
  exact ⟨fun q hq => (isFinite_iff.1 (h q hq)).1, fun q hq => (isFinite_iff.1 (h q hq)).2.1,
    fun q hq => (isFinite_iff.1 (h q hq)).2.2⟩

/-- A corner is found by taking one of two coordinates each time. -/
lemma corner_foldl {take : Single → Single → Single} {corner : Vec3 → Vec3 → Vec3}
    (htake : ∀ x y, x.Numeric → y.Numeric → Single.Takes before x y (take x y))
    (hcorner : ∀ a b, corner a b = ⟨take a.x b.x, take a.y b.y, take a.z b.z⟩)
    (h : ∀ q ∈ p :: ps, q.isFinite) : Corner before p ps (ps.foldl corner p) := by
  have hfoldl : ps.foldl corner p
      = ⟨(ps.map x).foldl take p.x, (ps.map y).foldl take p.y, (ps.map z).foldl take p.z⟩ := by
    clear h
    induction ps generalizing p with
    | nil => rfl
    | cons q ps ih =>
      rw [List.foldl_cons, ih, hcorner]
      rfl
  obtain ⟨hx, hy, hz⟩ := isFinite_coordinates h
  rw [hfoldl]
  exact ⟨Single.takesOf_foldl htake fun k hk => Single.numeric_of_isFinite (hx k hk),
    Single.takesOf_foldl htake fun k hk => Single.numeric_of_isFinite (hy k hk),
    Single.takesOf_foldl htake fun k hk => Single.numeric_of_isFinite (hz k hk)⟩

namespace Corner

/-- The corner of the box around finite points is finite. -/
lemma isFinite (hc : Corner before p ps c) (h : ∀ q ∈ p :: ps, q.isFinite) : c.isFinite := by
  obtain ⟨hx, hy, hz⟩ := isFinite_coordinates h
  exact isFinite_iff.2 ⟨hx _ hc.x.mem, hy _ hc.y.mem, hz _ hc.z.mem⟩

/-- The corner does not depend on the order of the points, but for the signs of zeros. -/
lemma alike [IsPartialOrder Int before] (hc : Corner before p ps c) (hc' : Corner before p' ps' c')
    (hperm : (p :: ps).Perm (p' :: ps')) : c.Alike c' :=
  ⟨hc.x.rank_eq hc'.x (hperm.map Vec3.x), hc.y.rank_eq hc'.y (hperm.map Vec3.y),
    hc.z.rank_eq hc'.z (hperm.map Vec3.z)⟩

end Corner

end Vec3

/-! ### Spheres -/

/-- The sphere around points, whichever of two zeros is taken for the lesser or the greater. -/
inductive Measures : List Vec3 → Option Sphere → Prop where
  | nil : Measures [] none
  | cons {p lower upper : Vec3} {ps : List Vec3} {s : Sphere}
      (hlower : Vec3.Corner (· ≤ ·) p ps lower) (hupper : Vec3.Corner (· ≥ ·) p ps upper)
      (hcenter : s.center = (lower + upper).scale (.ofDecimal 5 (-1)))
      (hradius : Single.TakesOf (· ≥ ·) 0 ((p :: ps).map (Vec3.distance · s.center)) s.radius) :
      Measures (p :: ps) (some s)

/-- The same sphere up to the signs of zeros in its centre. -/
structure Sphere.Alike (s t : Sphere) : Prop where
  center : s.center.Alike t.center
  radius : s.radius = t.radius

lemma Sphere.Alike.refl (s : Sphere) : s.Alike s := ⟨.refl _, rfl⟩

/-- The middle of the box around finite points is a number, if perhaps an infinite one. -/
lemma numeric_center {p lower upper : Vec3} {ps : List Vec3}
    (hlower : Vec3.Corner (· ≤ ·) p ps lower) (hupper : Vec3.Corner (· ≥ ·) p ps upper)
    (h : ∀ q ∈ p :: ps, q.isFinite) :
    ((lower + upper).scale (.ofDecimal 5 (-1))).Numeric := by
  obtain ⟨hlx, hly, hlz⟩ := Vec3.isFinite_iff.1 (hlower.isFinite h)
  obtain ⟨hux, huy, huz⟩ := Vec3.isFinite_iff.1 (hupper.isFinite h)
  have hhalf {x : Single} (hx : x.Numeric) : (x * .ofDecimal 5 (-1)).Numeric :=
    Single.numeric_mul hx (by decide) (by decide)
  exact ⟨hhalf (Single.numeric_add hlx hux), hhalf (Single.numeric_add hly huy),
    hhalf (Single.numeric_add hlz huz)⟩

/-- The distances of finite points from a centre, and zero, are positive numbers. -/
lemma positive_distances {c : Vec3} {points : List Vec3} (hc : c.Numeric)
    (h : ∀ q ∈ points, q.isFinite) : ∀ x ∈ 0 :: points.map (Vec3.distance · c), x.Positive := by
  rw [List.forall_mem_cons, List.forall_mem_map]
  exact ⟨⟨Single.numeric_ofInt 0, rfl⟩, fun q hq => Vec3.positive_distance (h q hq) hc⟩

/-- The sphere that is computed around finite points is one that may be measured. -/
lemma measures_boundingSphere? {points : List Vec3} (h : ∀ q ∈ points, q.isFinite) :
    Measures points (boundingSphere? points) := by
  cases points with
  | nil => exact .nil
  | cons p ps =>
    have hlower : Vec3.Corner (· ≤ ·) p ps (ps.foldl Vec3.least p) :=
      Vec3.corner_foldl (fun _ _ => Single.takes_least) (fun _ _ => rfl) h
    have hupper : Vec3.Corner (· ≥ ·) p ps (ps.foldl Vec3.greatest p) :=
      Vec3.corner_foldl (fun _ _ => Single.takes_greatest) (fun _ _ => rfl) h
    have hpositive := positive_distances (numeric_center hlower hupper h) h
    exact .cons hlower hupper rfl (Single.takesOf_foldl (fun _ _ => Single.takes_greatest)
      fun x hx => (hpositive x hx).numeric)

namespace Measures

variable {points points' : List Vec3} {s? s?' : Option Sphere} {s : Sphere}

/-- The centre of a measured sphere is a number, and no point is farther from it than the radius,
which is a positive number. -/
lemma spec (hs : Measures points (some s)) (h : ∀ q ∈ points, q.isFinite) :
    s.center.Numeric ∧ s.radius.Positive ∧
      ∀ q ∈ points, (q.distance s.center).atMost s.radius = true := by
  cases hs with
  | cons hlower hupper hcenter hradius =>
    have hnumeric : s.center.Numeric := hcenter ▸ numeric_center hlower hupper h
    have hpositive := positive_distances hnumeric h
    have hs := hpositive _ hradius.mem
    refine ⟨hnumeric, hs, fun q hq => ?_⟩
    have hmem : q.distance s.center ∈ (0 : Single) :: List.map _ _ :=
      List.mem_cons_of_mem 0 (List.mem_map_of_mem (f := (Vec3.distance · s.center)) hq)
    exact Single.atMost_of_rank_le (hpositive _ hmem).numeric hs.numeric
      (hradius.before_mem _ hmem)

/-- What is measured of finite points does not depend on their order. -/
lemma alike (hs : Measures points s?) (hs' : Measures points' s?') (hperm : points.Perm points')
    (h : ∀ q ∈ points, q.isFinite) : Option.Rel Sphere.Alike s? s?' := by
  have h' : ∀ q ∈ points', q.isFinite := fun q hq => h q (hperm.mem_iff.2 hq)
  cases hs with
  | nil =>
    cases hs' with
    | nil => exact .none
    | cons => exact absurd hperm.length_eq (by simp)
  | @cons p _ _ ps s hlower hupper hcenter hradius =>
    cases hs' with
    | nil => exact absurd hperm.length_eq (by simp)
    | @cons p' _ _ ps' s' hlower' hupper' hcenter' hradius' =>
      have halike : s.center.Alike s'.center := by
        rw [hcenter, hcenter']
        exact ((hlower.alike hlower' hperm).add (hupper.alike hupper' hperm)).scale _
      have hpositive := (spec (.cons hlower hupper hcenter hradius) h).2.1
      have hpositive' := (spec (.cons hlower' hupper' hcenter' hradius') h').2.1
      have hdistances : ((p :: ps).map (Vec3.distance · s.center)).Perm
          ((p' :: ps').map (Vec3.distance · s'.center)) := by
        simp only [halike.distance_eq]
        exact hperm.map _
      exact .some ⟨halike, hpositive.eq_of_rank_eq hpositive'
        (hradius.rank_eq hradius' (hdistances.cons 0))⟩

/-- Spheres that are measured of the same finite points, in whichever order, have one radius and
numerically equal centres, and hold the points. -/
lemma exists_spheres (hs : Measures points s?) (hs' : Measures points' s?') (hne : points ≠ [])
    (hperm : points.Perm points') (h : ∀ q ∈ points, q.isFinite) :
    ∃ s s', s? = some s ∧ s?' = some s' ∧ s.radius = s'.radius ∧
      s.center.agrees s'.center = true ∧
      ∀ q ∈ points, (q.distance s.center).atMost s.radius = true := by
  have h' : ∀ q ∈ points', q.isFinite := fun q hq => h q (hperm.mem_iff.2 hq)
  have halike := hs.alike hs' hperm h
  cases halike with
  | none =>
    cases hs
    exact absurd rfl hne
  | @some s s' halike =>
    obtain ⟨hcenter, -, hreach⟩ := hs.spec h
    obtain ⟨hcenter', -, -⟩ := hs'.spec h'
    exact ⟨s, s', rfl, rfl, halike.radius, halike.center.agrees hcenter hcenter', hreach⟩

end Measures

end MeshRoom
