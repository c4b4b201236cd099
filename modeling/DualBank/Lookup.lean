/-! Looking up keys in a list of entries, the first of which counts. -/

namespace DualBank.Lookup

variable {α β : Type} [BEq α] [LawfulBEq α] [DecidableEq α]

theorem lookup_cons (entry : α × β) (rest : List (α × β)) (key : α) :
    (entry :: rest).lookup key = if key = entry.1 then some entry.2 else rest.lookup key := by
  obtain ⟨first, value⟩ := entry
  by_cases same : key = first
  · subst same
    simp
  · have differs : (key == first) = false := beq_false_of_ne same
    simp [List.lookup_cons, differs, same]

theorem lookup_filter_ne (entries : List (α × β)) (removed key : α) :
    (entries.filter (·.1 ≠ removed)).lookup key =
      if key = removed then none else entries.lookup key := by
  induction entries with
  | nil => simp
  | cons entry rest ih =>
      by_cases gone : entry.1 = removed
      · rw [List.filter_cons_of_neg (by simp [gone]), ih, lookup_cons]
        by_cases same : key = removed
        · simp [same]
        · simp [same, gone]
      · rw [List.filter_cons_of_pos (by simp [gone]), lookup_cons, lookup_cons, ih]
        by_cases same : key = entry.1
        · simp [same, gone]
        · simp [same]

/-- When a key takes the name of another one, whose entries are gone, the other one leads to what it
led to. -/
theorem lookup_rename (entries : List (α × β)) {source target : α} (differs : source ≠ target)
    (key : α) :
    ((entries.filter (·.1 ≠ target)).map fun entry =>
        (if entry.1 = source then target else entry.1, entry.2)).lookup key =
      if key = target then entries.lookup source
      else if key = source then none else entries.lookup key := by
  induction entries with
  | nil => simp
  | cons entry rest ih =>
      by_cases gone : entry.1 = target
      · have other : source ≠ entry.1 := gone ▸ differs
        rw [List.filter_cons_of_neg (by simp [gone]), ih, lookup_cons, if_neg other, lookup_cons]
        by_cases same : key = target
        · simp [same]
        · simp [same, gone]
      · rw [List.filter_cons_of_pos (by simp [gone]), List.map_cons, lookup_cons, ih, lookup_cons,
          lookup_cons]
        by_cases moved : entry.1 = source
        · subst moved
          by_cases same : key = target
          · simp [same]
          · by_cases old : key = entry.1
            · simp [old, gone]
            · simp [same, old]
        · by_cases same : key = target
          · have first : target ≠ entry.1 := fun equal => gone equal.symm
            have second : source ≠ entry.1 := fun equal => moved equal.symm
            simp [same, moved, first, second]
          · by_cases old : key = source
            · have second : source ≠ entry.1 := fun equal => moved equal.symm
              simp [moved, old, second, differs]
            · simp [same, moved, old]

end DualBank.Lookup
