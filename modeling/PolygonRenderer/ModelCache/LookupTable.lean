/-!
# Lookup tables

A table of fixed size has an optional entry at every index. Only the entries
that are present are held.
-/

namespace PolygonRenderer

/-- A table of optional entries. -/
structure LookupTable (α : Type) where
  size : Nat
  /-- The entries that are present, with their indices. -/
  entries : List (UInt32 × α)
deriving DecidableEq, Repr

namespace LookupTable

variable {α : Type}

def empty (size : Nat) : LookupTable α :=
  ⟨size, []⟩

/-- The entry at an index. There is none beyond the size. -/
def get? (t : LookupTable α) (index : UInt32) : Option α :=
  if index.toNat < t.size then t.entries.lookup index else none

/-- Make the entry at an index absent. -/
def erase (t : LookupTable α) (index : UInt32) : LookupTable α :=
  { t with entries := t.entries.filter fun e => e.1 != index }

def set (t : LookupTable α) (index : UInt32) (a : α) : LookupTable α :=
  { t with entries := (index, a) :: (t.erase index).entries }

@[simp] theorem size_empty (size : Nat) : (empty size : LookupTable α).size = size := rfl

@[simp] theorem get?_empty (size : Nat) (index : UInt32) :
    (empty size : LookupTable α).get? index = none := by
  unfold get?
  split <;> rfl

private theorem lookup_filter_ne (entries : List (UInt32 × α)) (i j : UInt32) :
    (entries.filter fun e => e.1 != i).lookup j = if j = i then none else entries.lookup j := by
  induction entries with
  | nil => simp
  | cons e es ih =>
    obtain ⟨k, a⟩ := e
    by_cases hk : k = i
    · subst hk
      by_cases hj : j = k
      · simp [hj] at ih ⊢
        exact ih
      · simp [hj, List.lookup_cons, ih, beq_eq_false_iff_ne.2 hj]
    · by_cases hj : j = k
      · subst hj
        simp [hk]
      · by_cases hi : j = i
        · subst hi
          simp [hk, List.lookup_cons, ih, beq_eq_false_iff_ne.2 hj]
        · simp [hk, hi, List.lookup_cons, ih, beq_eq_false_iff_ne.2 hj]

@[simp] theorem get?_erase (t : LookupTable α) (i j : UInt32) :
    (t.erase i).get? j = if j = i then none else t.get? j := by
  unfold get? erase
  simp only [lookup_filter_ne]
  split <;> simp

theorem get?_set (t : LookupTable α) (i j : UInt32) (a : α) :
    (t.set i a).get? j =
      if i.toNat < t.size ∧ j = i then some a else t.get? j := by
  unfold get? set
  by_cases hj : j = i
  · subst hj
    by_cases h : j.toNat < t.size <;> simp [h]
  · simp [erase, hj, List.lookup_cons, lookup_filter_ne, beq_eq_false_iff_ne.2 hj]

end LookupTable

end PolygonRenderer
