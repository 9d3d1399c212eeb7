/-!
# Ordered entries

A list of named values in which a name keeps the place where it was first written. Writing a name
again changes its value there; taking a name out moves the last entry into the gap.
-/

namespace MeshRoom

/-- Named values in order. -/
abbrev Entries (α : Type _) := List (String × α)

namespace Entries

variable {α β : Type _}

/-- The names in order. -/
def keys (es : Entries α) : List String := es.map Prod.fst

/-- Whether the name occurs. -/
def has (es : Entries α) (k : String) : Bool := (es.lookup k).isSome

/-- Give a name a value: in its place if it has one, at the end otherwise. -/
def insert (k : String) (v : α) : Entries α → Entries α
  | [] => [(k, v)]
  | (k', v') :: es => if k' = k then (k, v) :: es else (k', v') :: insert k v es

/-- The last entry brought to the front. -/
def lastFirst (es : Entries α) : Entries α :=
  match es.getLast? with
  | none => []
  | some e => e :: es.dropLast

/-- Take a name out, the last entry moving into its place. -/
def take? (k : String) : Entries α → Option (α × Entries α)
  | [] => none
  | (k', v') :: es =>
    if k' = k then some (v', lastFirst es)
    else (take? k es).map fun (v, es') => (v, (k', v') :: es')

/-- Entries written one after the other, so that of a repeated name the last value counts. -/
def ofPairs (pairs : List (String × α)) : Entries α :=
  pairs.foldl (fun es (k, v) => es.insert k v) []

/-- The values changed, names and order kept. -/
def mapValues (f : α → β) (es : Entries α) : Entries β := es.map fun (k, v) => (k, f v)

/-! ### Insertion -/

@[simp] theorem insert_nil (k : String) (v : α) : insert k v ([] : Entries α) = [(k, v)] := rfl

theorem lookup_cons (k j : String) (v : α) (es : Entries α) :
    List.lookup j ((k, v) :: es) = if j = k then some v else es.lookup j := by
  by_cases h : j = k
  · simp [h]
  · rw [if_neg h]
    show (match j == k with | true => some v | false => es.lookup j) = es.lookup j
    rw [beq_false_of_ne h]

theorem lookup_insert (k j : String) (v : α) (es : Entries α) :
    (insert k v es).lookup j = if j = k then some v else es.lookup j := by
  induction es with
  | nil => simp [lookup_cons]
  | cons e es ih =>
    obtain ⟨k', v'⟩ := e
    by_cases hk : k' = k
    · subst hk
      by_cases h : j = k' <;> simp [insert, lookup_cons, h]
    · by_cases h : j = k'
      · subst h
        simp [insert, hk]
      · simp [insert, lookup_cons, hk, h, ih]

theorem keys_insert (k : String) (v : α) (es : Entries α) :
    (insert k v es).keys = if k ∈ es.keys then es.keys else es.keys ++ [k] := by
  induction es with
  | nil => simp [insert, keys]
  | cons e es ih =>
    obtain ⟨k', v'⟩ := e
    by_cases hk : k' = k
    · simp [insert, keys, hk]
    · have hk' : ¬ k = k' := fun h => hk h.symm
      simp only [keys] at ih
      by_cases hm : k ∈ List.map Prod.fst es <;> simp [insert, keys, hk, hk', ih, hm]

end Entries

end MeshRoom
