/-!
Lists of values under keys. A key is looked up by its first entry; putting a
value under a key leaves no other entry for it.
-/

namespace InventorySync.Keyed

set_option autoImplicit false

variable {α β : Type} [DecidableEq α]

def erase (entries : List (α × β)) (key : α) : List (α × β) :=
  entries.filter fun entry => entry.1 ≠ key

/-- Puts an entry in front, in place of any other for its key. -/
def put (entries : List (α × β)) (key : α) (value : β) : List (α × β) :=
  (key, value) :: erase entries key

theorem lookup_cons (entries : List (α × β)) (key other : α) (value : β) :
    ((key, value) :: entries).lookup other =
      if other = key then some value else entries.lookup other := by
  rw [List.lookup_cons]
  by_cases wanted : other = key
  · rw [if_pos wanted, beq_iff_eq.2 wanted]
  · rw [if_neg wanted, beq_false_of_ne wanted]

theorem mem_of_lookup {entries : List (α × β)} {key : α} {value : β}
    (found : entries.lookup key = some value) : (key, value) ∈ entries := by
  obtain ⟨before, later, split, -⟩ := List.lookup_eq_some_iff.1 found
  rw [split]
  exact List.mem_append_right _ List.mem_cons_self

theorem lookup_filter (keep : α → Bool) (entries : List (α × β)) (key : α) :
    (entries.filter fun entry => keep entry.1).lookup key =
      if keep key then entries.lookup key else none := by
  induction entries with
  | nil => simp
  | cons first others induction =>
      obtain ⟨name, value⟩ := first
      by_cases kept : keep name
      · rw [List.filter_cons, if_pos kept, lookup_cons, lookup_cons, induction]
        by_cases wanted : key = name
        · rw [if_pos wanted, if_pos wanted, wanted, if_pos kept]
        · rw [if_neg wanted, if_neg wanted]
      · rw [List.filter_cons, if_neg kept, lookup_cons, induction]
        by_cases wanted : key = name
        · rw [wanted, if_neg kept, if_neg kept]
        · rw [if_neg wanted]

theorem lookup_erase (entries : List (α × β)) (key other : α) :
    (erase entries key).lookup other = if other = key then none else entries.lookup other := by
  unfold erase
  rw [lookup_filter fun name => decide (name ≠ key)]
  by_cases erased : other = key
  · simp [erased]
  · simp [erased]

theorem lookup_put (entries : List (α × β)) (key other : α) (value : β) :
    (put entries key value).lookup other =
      if other = key then some value else entries.lookup other := by
  unfold put
  rw [lookup_cons, lookup_erase]
  by_cases wanted : other = key
  · rw [if_pos wanted, if_pos wanted]
  · rw [if_neg wanted, if_neg wanted, if_neg wanted]

end InventorySync.Keyed
