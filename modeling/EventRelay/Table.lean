namespace EventRelay

/-- Rows numbered from zero in the order they were added. Rows are changed but never removed. -/
structure Table (α : Type) where
  rows : List α

namespace Table

variable {α : Type}

def empty : Table α := ⟨[]⟩

def ofList (rows : List α) : Table α := ⟨rows⟩

def size (t : Table α) : Nat := t.rows.length

def get? (t : Table α) (i : Nat) : Option α := t.rows[i]?

/-- The new row has the number `t.size`. -/
def add (t : Table α) (row : α) : Table α := ⟨t.rows ++ [row]⟩

def update (t : Table α) (i : Nat) (f : α → α) : Table α := ⟨t.rows.modify i f⟩

theorem get?_update (t : Table α) (i j : Nat) (f : α → α) :
    (t.update i f).get? j = if i = j then (t.get? j).map f else t.get? j := by
  by_cases h : i = j <;> simp [get?, update, h]

theorem get?_add (t : Table α) (row : α) (i : Nat) :
    (t.add row).get? i = if i = t.size then some row else t.get? i := by
  by_cases h : i = t.size
  · simp [h, get?, add, size]
  · have hs : i ≠ t.rows.length := h
    simp only [if_neg h, get?, add, List.getElem?_append]
    split
    · rfl
    · rw [List.getElem?_eq_none (by simp; omega), List.getElem?_eq_none (by omega)]

theorem get?_of_lt {t : Table α} {i : Nat} (h : i < t.size) : ∃ row, t.get? i = some row :=
  ⟨t.rows[i], List.getElem?_eq_getElem h⟩

theorem lt_of_get? {t : Table α} {i : Nat} {row : α} (h : t.get? i = some row) : i < t.size :=
  (List.getElem?_eq_some_iff.mp h).1

theorem get?_size (t : Table α) : t.get? t.size = none := List.getElem?_eq_none (Nat.le_refl _)

theorem get?_update_self (t : Table α) (i : Nat) (f : α → α) :
    (t.update i f).get? i = (t.get? i).map f := by
  simp [get?, update]

theorem size_update (t : Table α) (i : Nat) (f : α → α) : (t.update i f).size = t.size := by
  simp [size, update]

end Table

end EventRelay
