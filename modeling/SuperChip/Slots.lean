/-!
# Slots

Registers, keys and return addresses are kept in vectors, and a slot of a
vector is chosen by a number that is known to be small enough.  `Vector.get`
reads a slot and `Slots.put` writes one.
-/

namespace SuperChip.Slots

variable {α : Type} {n : Nat}

/-- The slots after a value is put into one of them. -/
def put (slots : Vector α n) (slot : Fin n) (value : α) : Vector α n := slots.set slot value

/-- A slot holds what was put into it, and no other slot changes. -/
@[simp] theorem get_put (slots : Vector α n) (written slot : Fin n) (value : α) :
    (put slots written value).get slot = if written = slot then value else slots.get slot := by
  have hget : ∀ slots : Vector α n, slots.get slot = slots[slot.val] := fun _ => rfl
  simp only [hget, put, Vector.getElem_set, Fin.ext_iff]

theorem get_foldl_put_of_not_mem (values slots : Vector α n) {keys : List (Fin n)} {key : Fin n}
    (h : key ∉ keys) :
    (keys.foldl (fun slots key => put slots key (values.get key)) slots).get key =
      slots.get key := by
  induction keys generalizing slots with
  | nil => rfl
  | cons first rest ih =>
      have hfirst : first ≠ key := fun heq => h (List.mem_cons.mpr (.inl heq.symm))
      have hrest : key ∉ rest := fun hmem => h (List.mem_cons_of_mem first hmem)
      rw [List.foldl_cons, ih _ hrest, get_put, if_neg hfirst]

theorem get_foldl_put_of_mem (values slots : Vector α n) {keys : List (Fin n)} {key : Fin n}
    (h : key ∈ keys) :
    (keys.foldl (fun slots key => put slots key (values.get key)) slots).get key =
      values.get key := by
  induction keys generalizing slots with
  | nil => cases h
  | cons first rest ih =>
      rw [List.foldl_cons]
      by_cases hrest : key ∈ rest
      · exact ih _ hrest
      · obtain rfl : key = first := (List.mem_cons.mp h).resolve_right hrest
        rw [get_foldl_put_of_not_mem values _ hrest, get_put, if_pos rfl]

/-- Writing every slot leaves nothing of the slots before. -/
theorem foldl_put_finRange (values slots : Vector α n) :
    (List.finRange n).foldl (fun slots key => put slots key (values.get key)) slots =
      values := by
  apply Vector.ext
  intro k hk
  exact get_foldl_put_of_mem values slots (List.mem_finRange ⟨k, hk⟩)

end SuperChip.Slots
