import MeshRoom.Table
import Mathlib.Tactic.Lemma

/-!
# Tables as lists

The entries of a table as a list: putting a new name in adds one entry and taking a name out removes
its entry, the rest being the same up to order.
-/

namespace MeshRoom

open Std

variable {K α : Type} {cmp : K → K → Ordering} [TransCmp cmp]

lemma values_eq_map_toList (t : ExtTreeMap K α cmp) : t.values = t.toList.map Prod.snd := by
  have hfold : t.values = t.foldr (fun _ v vs => v :: vs) [] := by
    obtain ⟨inner⟩ := t
    induction inner using ExtDTreeMap.inductionOn with
    | _ inner => rfl
  rw [hfold, ExtTreeMap.foldr_eq_foldr_toList]
  generalize t.toList = es
  induction es with
  | nil => rfl
  | cons e es ih => simp [ih]

@[simp] lemma length_values (t : ExtTreeMap K α cmp) : t.values.length = t.size := by
  simp [values_eq_map_toList]

lemma nodup_toList (t : ExtTreeMap K α cmp) : t.toList.Nodup :=
  t.distinct_keys_toList.imp fun {a b} (hne : ¬ cmp a.1 b.1 = .eq) (heq : a = b) =>
    hne (by rw [heq]; exact ReflCmp.compare_self)

variable [LawfulEqCmp cmp]

lemma getElem?_insert_ite (t : ExtTreeMap K α cmp) [DecidableEq K] (k j : K) (v : α) :
    (t.insert k v)[j]? = if j = k then some v else t[j]? := by
  by_cases hj : j = k
  · simp [hj]
  · simp [ExtTreeMap.getElem?_insert, hj, Ne.symm hj]

lemma getElem?_erase_ite (t : ExtTreeMap K α cmp) [DecidableEq K] (k j : K) :
    (t.erase k)[j]? = if j = k then none else t[j]? := by
  by_cases hj : j = k
  · simp [hj]
  · simp [ExtTreeMap.getElem?_erase, hj, Ne.symm hj]

lemma mem_values {t : ExtTreeMap K α cmp} {v : α} : v ∈ t.values ↔ ∃ k : K, t[k]? = some v := by
  simp [values_eq_map_toList]

lemma toList_insert_perm {t : ExtTreeMap K α cmp} {k : K} (h : t[k]? = none) (v : α) :
    (t.insert k v).toList.Perm ((k, v) :: t.toList) := by
  refine (List.perm_ext_iff_of_nodup (nodup_toList _) ?_).2 ?_
  · refine List.nodup_cons.2 ⟨?_, nodup_toList t⟩
    simp [h]
  · rintro ⟨j, w⟩
    by_cases hj : k = j
    · subst hj
      simp [h, eq_comm]
    · simp [ExtTreeMap.getElem?_insert, hj, Ne.symm hj]

lemma toList_erase_perm {t : ExtTreeMap K α cmp} {k : K} {v : α} (h : t[k]? = some v) :
    t.toList.Perm ((k, v) :: (t.erase k).toList) := by
  refine (List.perm_ext_iff_of_nodup (nodup_toList _) ?_).2 ?_
  · refine List.nodup_cons.2 ⟨?_, nodup_toList _⟩
    simp
  · rintro ⟨j, w⟩
    by_cases hj : k = j
    · subst hj
      simp [h, eq_comm]
    · simp [ExtTreeMap.getElem?_erase, hj, Ne.symm hj]

lemma size_erase_add_one {t : ExtTreeMap K α cmp} {k : K} (h : k ∈ t) :
    (t.erase k).size + 1 = t.size := by
  obtain ⟨v, hv⟩ := Option.isSome_iff_exists.1 (ExtTreeMap.mem_iff_isSome_getElem?.1 h)
  have hlength := (toList_erase_perm hv).length_eq
  rw [List.length_cons, ExtTreeMap.length_toList, ExtTreeMap.length_toList] at hlength
  exact hlength.symm

/-- The values after a new name was put in. -/
lemma values_insert_perm {t : ExtTreeMap K α cmp} {k : K} (h : t[k]? = none) (v : α) :
    (t.insert k v).values.Perm (v :: t.values) := by
  simpa [values_eq_map_toList] using (toList_insert_perm h v).map Prod.snd

/-- The values before a name was taken out. -/
lemma values_erase_perm {t : ExtTreeMap K α cmp} {k : K} {v : α} (h : t[k]? = some v) :
    t.values.Perm (v :: (t.erase k).values) := by
  simpa [values_eq_map_toList] using (toList_erase_perm h).map Prod.snd

end MeshRoom
