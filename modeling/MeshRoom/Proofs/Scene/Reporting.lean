import MeshRoom.Proofs.Scene.Rules

/-!
# Reports cover what deltas change

Where a delta leaves a mesh with another content than it had, the report of the delta names the
mesh: among the removed ones if it is gone, among the added and updated ones if it is there.
-/

namespace MeshRoom

open Json Wire

/-- Whether a mesh is there anew. -/
def EntryFate.isGain : EntryFate → Bool
  | .added | .rebuilt => true
  | _ => false

namespace Report

/-- The meshes to show again. -/
def shown (r : Report) : List String := r.added ++ r.updated

lemma mem_having {r : Report} {p : EntryFate → Bool} {uuid : String} :
    uuid ∈ r.having p ↔ ∃ f, (uuid, f) ∈ r.fates ∧ p f := by
  simp [having]

lemma mem_removed {r : Report} {uuid : String} :
    uuid ∈ r.removed ↔ ∃ f, (uuid, f) ∈ r.fates ∧ f.isLoss :=
  mem_having

lemma mem_shown {r : Report} {uuid : String} :
    uuid ∈ r.shown ↔ ∃ f, (uuid, f) ∈ r.fates ∧ f.isGain := by
  rw [shown, List.mem_append, added, updated, mem_having, mem_having]
  constructor
  · rintro (⟨f, hf, hp⟩ | ⟨f, hf, hp⟩)
    · exact ⟨f, hf, by rw [of_decide_eq_true hp]; rfl⟩
    · exact ⟨f, hf, by rw [of_decide_eq_true hp]; rfl⟩
  · rintro ⟨f, hf, hp⟩
    cases f with
    | added => exact .inl ⟨.added, hf, rfl⟩
    | rebuilt => exact .inr ⟨.rebuilt, hf, rfl⟩
    | removed | unknown | unread | rejected => cases hp

end Report

/-! ### Coverage -/

/-- What is known of a mesh is its content, or the mesh is noted down: as gone if it is not there,
as to be shown if it is. -/
inductive Covered (known actual : Option MeshContent) (gone shown : Prop) : Prop where
  | agreed (heq : known = actual)
  | gone (hnone : actual = none) (h : gone)
  | shown (hsome : actual.isSome) (h : shown)

namespace Covered

variable {known middle actual : Option MeshContent} {gone gone' shown shown' : Prop}

lemma mono (h : Covered known actual gone shown) (hgone : gone → gone') (hshown : shown → shown') :
    Covered known actual gone' shown' := by
  cases h with
  | agreed heq => exact .agreed heq
  | gone hnone h => exact .gone hnone (hgone h)
  | shown hsome h => exact .shown hsome (hshown h)

lemma of_eq {known' : Option MeshContent} (h : Covered known actual gone shown)
    (heq : known' = known) : Covered known' actual gone shown :=
  heq ▸ h

/-- What changes after something was noted down is noted down as well. -/
lemma trans (h : Covered known middle gone shown) (h' : Covered middle actual gone' shown') :
    Covered known actual (gone ∨ gone') (shown ∨ shown') := by
  cases h' with
  | agreed heq => exact heq ▸ h.mono .inl .inl
  | gone hnone h' => exact .gone hnone (.inr h')
  | shown hsome h' => exact .shown hsome (.inr h')

/-- With nothing noted down, what is known is right. -/
lemma eq_of_none (h : Covered known actual gone shown) (hgone : ¬ gone) (hshown : ¬ shown) :
    known = actual := by
  cases h with
  | agreed heq => exact heq
  | gone _ h => exact absurd h hgone
  | shown _ h => exact absurd h hshown

end Covered

namespace Scene

variable {V : Type} [View V]

/-- The fate of an entry tells what the entry changes. -/
lemma EntryRule.covered {uuid : String} {v : Value} {s : Scene V} {fs : EntryFate × Scene V}
    (h : EntryRule uuid v s fs) (k : String) :
    Covered s.contents[k]? fs.2.contents[k]? (k = uuid ∧ fs.1.isLoss) (k = uuid ∧ fs.1.isGain) := by
  by_cases hk : k = uuid
  · subst hk
    have hnew : s.has k = false → s.contents[k]? = none := by
      intro hhas
      rw [getElem?_contents, resource?_of_not_has hhas, Option.map_none]
    cases h with
    | unread e hv => exact .agreed rfl
    | remove hv =>
      have hnone : (s.evict k).contents[k]? = none := by simp [resource?_evict]
      cases hhas : s.has k with
      | true => exact .gone hnone ⟨rfl, rfl⟩
      | false => exact .agreed ((hnew hhas).trans hnone.symm)
    | build p g r view hv hbuild =>
      refine .shown (by simp [resource?_insert]) ⟨rfl, ?_⟩
      cases s.has k with
      | true => rfl
      | false => rfl
    | reject p g e view hv hbuild =>
      have hnone : (Scene.mk view (s.evict k).meshes).contents[k]? = none := by
        simp [resource?_withView, resource?_evict]
      cases hhas : s.has k with
      | true => exact .gone hnone ⟨rfl, rfl⟩
      | false => exact .agreed ((hnew hhas).trans hnone.symm)
  · refine .agreed ?_
    rw [getElem?_contents, getElem?_contents, h.resource?_of_ne hk]

lemma covered_applyEntries (es : List (String × Value)) (s : Scene V) (k : String) :
    Covered s.contents[k]? (s.applyEntries es).2.contents[k]?
      (∃ f, (k, f) ∈ (s.applyEntries es).1 ∧ f.isLoss)
      (∃ f, (k, f) ∈ (s.applyEntries es).1 ∧ f.isGain) := by
  induction es generalizing s with
  | nil => exact .agreed rfl
  | cons e es ih =>
    have hfirst := (EntryRule.of_applyEntry e.1 e.2 s).covered k
    refine (hfirst.trans (ih (s.applyEntry e.1 e.2).2)).mono ?_ ?_
    · rintro (⟨rfl, hf⟩ | ⟨f, hm, hf⟩)
      · exact ⟨_, List.mem_cons_self, hf⟩
      · exact ⟨f, List.mem_cons_of_mem _ hm, hf⟩
    · rintro (⟨rfl, hf⟩ | ⟨f, hm, hf⟩)
      · exact ⟨_, List.mem_cons_self, hf⟩
      · exact ⟨f, List.mem_cons_of_mem _ hm, hf⟩

/-- The report of a delta names every mesh that the delta changes. -/
theorem covered_apply (delta : MeshDelta) (refresh : Bool) (s : Scene V) (k : String) :
    Covered s.contents[k]? (s.apply delta refresh).2.contents[k]?
      (k ∈ (s.apply delta refresh).1.removed) (k ∈ (s.apply delta refresh).1.shown) :=
  (covered_applyEntries delta.meshes s k).mono (fun h => Report.mem_removed.2 h)
    fun h => Report.mem_shown.2 h

end Scene

end MeshRoom
