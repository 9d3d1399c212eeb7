import MeshRoom.Json.Entries
import Mathlib.Data.List.Induction
import Mathlib.Data.List.Nodup
import Mathlib.Data.List.Perm.Basic

/-!
# Entries with distinct names

Entries that have each name once are known, up to their order, by what is under each name. Writing
and taking out keep names distinct; what is taken out leaves the other entries, in another order
unless it stood last.
-/

namespace MeshRoom.Entries

variable {α : Type _} {es es' : Entries α} {k : String}

/-! ### Looking up -/

lemma lookup_eq_none_iff_notMem : es.lookup k = none ↔ k ∉ es.keys := by
  simp only [List.lookup_eq_none_iff, keys, List.mem_map, not_exists, not_and, bne_iff_ne]
  exact ⟨fun h e he hk => h e he hk.symm, fun h e he hk => h e he hk.symm⟩

lemma lookup_eq_some_iff_mem (h : es.keys.Nodup) {v : α} :
    es.lookup k = some v ↔ (k, v) ∈ es := by
  induction es with
  | nil => simp
  | cons e es ih =>
    obtain ⟨j, w⟩ := e
    obtain ⟨hj, hes⟩ := List.nodup_cons.1 h
    rw [lookup_cons, List.mem_cons, Prod.mk.injEq]
    by_cases hk : k = j
    · subst hk
      have hnot : (k, v) ∉ es := fun hmem => hj (List.mem_map.2 ⟨_, hmem, rfl⟩)
      simp [hnot, eq_comm]
    · rw [if_neg hk, ih hes]
      simp [hk]

lemma isSome_lookup_iff : (es.lookup k).isSome = true ↔ k ∈ es.keys := by
  rw [Option.isSome_iff_ne_none, ne_eq, lookup_eq_none_iff_notMem, not_not]

lemma mem_of_lookup {v : α} (h : es.lookup k = some v) : (k, v) ∈ es := by
  obtain ⟨before, after, rfl, -⟩ := List.lookup_eq_some_iff.1 h
  exact List.mem_append_right _ List.mem_cons_self

/-- What is found is under the first of its name. -/
lemma exists_split_of_lookup {v : α} (h : es.lookup k = some v) :
    ∃ before after, es = before ++ (k, v) :: after ∧ k ∉ keys before := by
  obtain ⟨before, after, rfl, hbefore⟩ := List.lookup_eq_some_iff.1 h
  refine ⟨before, after, rfl, fun hmem => ?_⟩
  obtain ⟨e, he, rfl⟩ := List.mem_map.1 hmem
  simpa using hbefore e he

/-- The order of entries does not matter for looking up. -/
lemma lookup_of_perm (hperm : es.Perm es') (h : es.keys.Nodup) (k : String) :
    es.lookup k = es'.lookup k := by
  have h' : es'.keys.Nodup := (hperm.map Prod.fst).nodup h
  refine Option.ext fun v => ?_
  rw [lookup_eq_some_iff_mem h, lookup_eq_some_iff_mem h', hperm.mem_iff]

/-- What is under a name that is kept stays under it. -/
lemma lookup_filter (p : String → Bool) (es : Entries α) (k : String) :
    (es.filter fun (j, _) => p j).lookup k = if p k then es.lookup k else none := by
  induction es with
  | nil => exact (ite_self _).symm
  | cons e es ih =>
    obtain ⟨j, v⟩ := e
    rw [List.filter_cons, lookup_cons]
    dsimp only
    by_cases hj : p j = true
    · rw [if_pos hj, lookup_cons, ih]
      by_cases hk : k = j <;> simp [hk, hj]
    · rw [if_neg hj, ih]
      by_cases hk : k = j <;> simp [hk, hj]

/-- A name that occurs once keeps one entry. -/
lemma exists_filter_of_count (h : es.keys.count k = 1) :
    ∃ v, es.filter (fun (j, _) => [k].contains j) = [(k, v)] := by
  have hlength : (es.filter fun (j, _) => [k].contains j).length = 1 := by
    rw [← h, keys, List.count_eq_countP, List.countP_map, ← List.countP_eq_length_filter]
    refine List.countP_congr fun e _ => ?_
    simp only [List.contains_cons, List.contains_nil, Bool.or_false, Function.comp_apply]
  obtain ⟨⟨j, v⟩, hkept⟩ := List.length_eq_one_iff.1 hlength
  have hmem : (j, v) ∈ es.filter fun (j, _) => [k].contains j := hkept ▸ List.mem_singleton_self _
  obtain rfl : j = k := by simpa using (List.mem_filter.1 hmem).2
  exact ⟨v, hkept⟩

lemma mem_iff_of_filter {v w : α} (h : es.filter (fun (j, _) => [k].contains j) = [(k, v)]) :
    (k, w) ∈ es ↔ w = v := by
  have hmem : (k, w) ∈ es.filter (fun (j, _) => [k].contains j) ↔ (k, w) ∈ es := by simp
  rw [← hmem, h]
  simp

/-! ### Writing -/

/-- A new name goes to the end. -/
lemma insert_of_notMem (h : k ∉ es.keys) (v : α) : es.insert k v = es ++ [(k, v)] := by
  induction es with
  | nil => rfl
  | cons e es ih =>
    obtain ⟨j, w⟩ := e
    simp only [keys, List.map_cons, List.mem_cons, not_or] at h
    rw [insert, if_neg (Ne.symm h.1), ih h.2]
    rfl

/-- A name that is there keeps its place. -/
lemma insert_append {before : Entries α} (h : k ∉ before.keys) (w v : α) (after : Entries α) :
    insert k v (before ++ (k, w) :: after) = before ++ (k, v) :: after := by
  induction before with
  | nil => exact if_pos rfl
  | cons e before ih =>
    obtain ⟨j, u⟩ := e
    simp only [keys, List.map_cons, List.mem_cons, not_or] at h
    rw [List.cons_append, insert, if_neg (Ne.symm h.1), ih h.2, List.cons_append]

lemma nodup_keys_insert (h : es.keys.Nodup) (k : String) (v : α) : (es.insert k v).keys.Nodup := by
  rw [keys_insert]
  split
  · exact h
  case isFalse hk => exact h.append (List.nodup_singleton k) (List.disjoint_singleton.2 hk)

/-- What was written is what there was, or the new entry. -/
lemma mem_insert {v : α} {e : String × α} (h : e ∈ es.insert k v) : e = (k, v) ∨ e ∈ es := by
  induction es with
  | nil => exact .inl (List.mem_singleton.1 h)
  | cons e' es ih =>
    obtain ⟨j, w⟩ := e'
    rw [insert] at h
    split at h
    · exact (List.mem_cons.1 h).imp_right (List.mem_cons_of_mem _)
    · obtain rfl | h := List.mem_cons.1 h
      · exact .inr List.mem_cons_self
      · exact (ih h).imp_right (List.mem_cons_of_mem _)

/-- Entries with distinct names are what they are when written one after the other. -/
lemma ofPairs_of_nodup (h : es.keys.Nodup) : ofPairs es = es := by
  have hinsert : ∀ (before after : Entries α), (keys (before ++ after)).Nodup →
      after.foldl (fun es e => es.insert e.1 e.2) before = before ++ after := by
    intro before after
    induction after generalizing before with
    | nil => simp
    | cons e after ih =>
      obtain ⟨k, v⟩ := e
      intro hnodup
      have hnew : k ∉ keys before := by
        simp only [keys, List.map_append, List.map_cons, List.nodup_append] at hnodup
        exact fun hk => hnodup.2.2 k hk k List.mem_cons_self rfl
      rw [List.foldl_cons, insert_of_notMem hnew, ih _ (by simpa using hnodup), List.append_assoc]
      rfl
  exact hinsert [] es h

/-- Entries written one after the other have each name once. -/
lemma nodup_keys_ofPairs (pairs : List (String × α)) : (ofPairs pairs).keys.Nodup := by
  refine List.foldlRecOn (motive := fun es => (keys es).Nodup) pairs _ List.nodup_nil ?_
  exact fun _ hes e _ => nodup_keys_insert hes e.1 e.2

lemma ofPairs_concat (pairs : List (String × α)) (k : String) (v : α) :
    ofPairs (pairs ++ [(k, v)]) = (ofPairs pairs).insert k v := List.foldl_concat _ _ _ _

/-- Each name comes once, in the order in which the names are first written. -/
lemma keys_ofPairs (pairs : List (String × α)) :
    (ofPairs pairs).keys = (keys pairs).eraseDups := by
  induction pairs using List.reverseRecOn with
  | nil => rfl
  | append_singleton pairs e ih =>
    obtain ⟨k, v⟩ := e
    have hkeys : keys (pairs ++ [(k, v)]) = keys pairs ++ [k] := List.map_append
    rw [ofPairs_concat, keys_insert, ih, hkeys, List.eraseDups_append]
    by_cases hk : k ∈ keys pairs <;> simp [List.removeAll, List.eraseDups_cons, hk]

/-- Of the values written under one name the last is kept. -/
lemma lookup_ofPairs (pairs : List (String × α)) (k : String) :
    (ofPairs pairs).lookup k = pairs.reverse.lookup k := by
  have hfold : ∀ es : Entries α, (pairs.foldl (fun es e => es.insert e.1 e.2) es).lookup k
      = (pairs.reverse.lookup k).or (es.lookup k) := by
    induction pairs with
    | nil => exact fun _ => rfl
    | cons e pairs ih =>
      intro es
      rw [List.foldl_cons, ih, lookup_insert, List.reverse_cons, List.lookup_append, lookup_cons,
        Option.or_assoc]
      split <;> rfl
  exact (hfold []).trans Option.or_none

/-- Where one value is under every name, it is what is found. -/
lemma lookup_map_const {ks : List String} (h : k ∈ ks) (v : α) :
    List.lookup k (ks.map fun j => (j, v)) = some v := by
  induction ks with
  | nil => cases h
  | cons j ks ih =>
    rw [List.map_cons, lookup_cons]
    split
    case isTrue => rfl
    case isFalse hj => exact ih ((List.mem_cons.1 h).resolve_left hj)

/-- Nothing is under a name that is not written. -/
lemma lookup_ofPairs_of_notMem (h : k ∉ es.keys) : (ofPairs es).lookup k = none := by
  rw [lookup_ofPairs, lookup_eq_none_iff_notMem]
  simpa [keys] using h

/-- Of a name that is written once the value written is what counts. -/
lemma lookup_ofPairs_of_filter {v : α} (h : es.filter (fun (j, _) => [k].contains j) = [(k, v)]) :
    (ofPairs es).lookup k = some v := by
  have hlookup := lookup_filter (fun j => [k].contains j) es.reverse k
  rw [List.filter_reverse, h, if_pos (by simp)] at hlookup
  rw [lookup_ofPairs, ← hlookup, List.reverse_singleton, lookup_cons, if_pos rfl]

/-! ### Changing values -/

variable {β : Type _}

lemma lookup_mapValues (f : α → β) (es : Entries α) (k : String) :
    (es.mapValues f).lookup k = (es.lookup k).map f := by
  induction es with
  | nil => rfl
  | cons e es ih =>
    obtain ⟨j, w⟩ := e
    have hcons : mapValues f ((j, w) :: es) = (j, f w) :: mapValues f es := rfl
    rw [hcons, lookup_cons, lookup_cons, ih]
    split
    case isTrue => rfl
    case isFalse => rfl

/-- What is written is changed as what was there is. -/
lemma mapValues_insert (f : α → β) (k : String) (v : α) (es : Entries α) :
    (es.insert k v).mapValues f = (es.mapValues f).insert k (f v) := by
  induction es with
  | nil => rfl
  | cons e es ih =>
    obtain ⟨j, w⟩ := e
    rw [insert]
    split
    case isTrue hj => simp [mapValues, insert, hj]
    case isFalse hj =>
      rw [mapValues] at ih
      simp [mapValues, insert, hj, ih]

/-- Entries with distinct names are known from what is under each name. -/
lemma eq_map_keys {f : String → α} (h : es.keys.Nodup)
    (hf : ∀ k ∈ es.keys, es.lookup k = some (f k)) : es = es.keys.map fun k => (k, f k) := by
  rw [keys, List.map_map]
  have hsame : ∀ e ∈ es, (e.1, f e.1) = e := by
    intro e he
    have hlookup : es.lookup e.1 = some e.2 := (lookup_eq_some_iff_mem h).2 he
    rw [hf e.1 (List.mem_map_of_mem he)] at hlookup
    exact Prod.ext rfl (Option.some.inj hlookup)
  exact ((List.map_congr_left hsame).trans (List.map_id es)).symm

/-! ### Taking out -/

/-- What is left of entries when one is taken out: the last entry has moved into its place, unless
it was the last itself. -/
inductive Vacated (k : String) : Entries α → Entries α → Prop where
  | last (before : Entries α) (v : α) : Vacated k (before ++ [(k, v)]) before
  | filled (before : Entries α) (v : α) (between : Entries α) (e : String × α) :
      Vacated k (before ++ (k, v) :: (between ++ [e])) (before ++ e :: between)

/-- The entries under other names. -/
def without (k : String) (es : Entries α) : Entries α := es.filter fun e => e.1 ≠ k

lemma without_of_notMem (h : k ∉ es.keys) : es.without k = es := by
  refine List.filter_eq_self.2 fun e he => decide_eq_true ?_
  rintro rfl
  exact h (List.mem_map_of_mem he)

/-- What is written under a name is dropped with what else is there. -/
lemma without_insert (k : String) (v : α) (es : Entries α) :
    (es.insert k v).without k = es.without k := by
  induction es with
  | nil => simp [without]
  | cons e es ih =>
    obtain ⟨j, w⟩ := e
    rw [insert]
    split
    case isTrue hj => simp [without, hj]
    case isFalse hj =>
      have hkept (es : Entries α) : without k ((j, w) :: es) = (j, w) :: es.without k :=
        List.filter_cons_of_pos (by simpa using hj)
      rw [hkept, hkept, ih]

/-- What is under a name is not changed by dropping another. -/
lemma lookup_without {j : String} (h : j ≠ k) (es : Entries α) :
    (es.without k).lookup j = es.lookup j :=
  (lookup_filter (fun i => i ≠ k) es j).trans (if_pos (by simpa using h))

lemma lastFirst_perm (es : Entries α) : es.lastFirst.Perm es := by
  cases h : es.getLast? with
  | none =>
    rw [List.getLast?_eq_none_iff.1 h]
    rfl
  | some e =>
    rw [lastFirst, h]
    calc (e :: es.dropLast).Perm (es.dropLast ++ [e]) := (List.perm_append_singleton _ _).symm
      _ = es := List.dropLast_append_getLast? e h

/-- What is taken out under a name is what is found there. -/
lemma map_fst_take? (k : String) (es : Entries α) : (es.take? k).map Prod.fst = es.lookup k := by
  induction es with
  | nil => rfl
  | cons e es ih =>
    obtain ⟨j, w⟩ := e
    rw [take?, lookup_cons]
    by_cases hj : j = k
    · simp [hj]
    · rw [if_neg hj, if_neg (Ne.symm hj), Option.map_map, ← ih]
      rfl

/-- Taking an entry out leaves the others. -/
lemma perm_of_take? {v : α} {rest : Entries α} (h : es.keys.Nodup)
    (htake : es.take? k = some (v, rest)) : rest.Perm (es.without k) := by
  induction es generalizing rest with
  | nil => cases htake
  | cons e es ih =>
    obtain ⟨j, w⟩ := e
    obtain ⟨hj, hes⟩ := List.nodup_cons.1 h
    rw [take?] at htake
    split at htake
    case isTrue hk =>
      cases htake
      subst hk
      rw [without, List.filter_cons_of_neg (by simp)]
      exact (lastFirst_perm es).trans (.of_eq (without_of_notMem hj).symm)
    case isFalse hk =>
      obtain ⟨⟨_, rest'⟩, htail, heq⟩ := Option.map_eq_some_iff.1 htake
      cases heq
      rw [without, List.filter_cons_of_pos (by simpa using hk)]
      exact (ih hes htail).cons (j, w)

/-- What is under a name after an entry was taken out. -/
lemma lookup_of_take? {v : α} {rest : Entries α} (h : es.keys.Nodup)
    (htake : es.take? k = some (v, rest)) (j : String) :
    rest.lookup j = if j = k then none else es.lookup j := by
  have hperm : rest.Perm (es.without k) := perm_of_take? h htake
  have hwithout : (es.without k).keys.Nodup := (List.filter_sublist.map Prod.fst).nodup h
  rw [lookup_of_perm hperm ((hperm.map Prod.fst).nodup_iff.2 hwithout)]
  split
  case isTrue hj =>
    subst hj
    exact lookup_eq_none_iff_notMem.2 fun hmem => by simp [without, keys] at hmem
  case isFalse hj => exact lookup_without hj es

lemma take?_eq_none_iff : es.take? k = none ↔ es.lookup k = none := by
  rw [← map_fst_take?, Option.map_eq_none_iff]

lemma take?_append {before : Entries α} (h : k ∉ before.keys) (v : α) (after : Entries α) :
    take? k (before ++ (k, v) :: after) = some (v, before ++ after.lastFirst) := by
  induction before with
  | nil => simp [take?]
  | cons e before ih =>
    simp only [keys, List.map_cons, List.mem_cons, not_or] at h
    rw [List.cons_append, take?, if_neg (Ne.symm h.1), ih h.2]
    rfl

/-- Taking the last entry out leaves the others as they are. -/
lemma take?_concat (h : k ∉ es.keys) (v : α) : take? k (es ++ [(k, v)]) = some (v, es) := by
  rw [take?_append h, lastFirst, List.getLast?_nil, List.append_nil]

/-- What is under a name can be taken out, and leaves its place to the last entry. -/
lemma exists_vacated {v : α} (h : es.lookup k = some v) :
    ∃ rest, Vacated k es rest ∧ es.take? k = some (v, rest) := by
  obtain ⟨before, after, rfl, hnew⟩ := exists_split_of_lookup h
  rcases List.eq_nil_or_concat' after with rfl | ⟨between, e, rfl⟩
  · exact ⟨before, .last before v, take?_concat hnew v⟩
  · refine ⟨before ++ e :: between, .filled before v between e, ?_⟩
    rw [take?_append hnew, lastFirst, List.getLast?_concat, List.dropLast_concat]

end MeshRoom.Entries
