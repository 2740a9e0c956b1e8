/-! # Lists with names

What is found under a name, when an entry is put in front of others, when the entries of a name are taken
out, and when every name stands in one place. -/

namespace ODataClient

variable {α : Type}

/-- A name is looked up in the first entry, and then in the others. -/
theorem lookup_cons_eq_ite (name slot : String) (value : α) (rest : List (String × α)) :
    ((slot, value) :: rest).lookup name = if name = slot then some value else rest.lookup name := by
  by_cases same : name = slot
  · rw [if_pos same, List.lookup_cons, beq_iff_eq.mpr same]
  · rw [if_neg same, List.lookup_cons, beq_false_of_ne same]

/-- Without the entries of one name nothing is found under it, and what was under the others is. -/
theorem lookup_filter_bne (entries : List (String × α)) (slot name : String) :
    (entries.filter (·.1 != slot)).lookup name = if name = slot then none else entries.lookup name := by
  induction entries with
  | nil => simp
  | cons entry rest ih =>
    obtain ⟨key, value⟩ := entry
    by_cases same : key = slot
    · rw [List.filter_cons_of_neg (by simpa using same), ih, lookup_cons_eq_ite, same]
      by_cases named : name = slot
      · rw [if_pos named, if_pos named]
      · rw [if_neg named, if_neg named, if_neg named]
    · rw [List.filter_cons_of_pos (by simpa using same), lookup_cons_eq_ite, lookup_cons_eq_ite, ih]
      by_cases named : name = key
      · rw [if_pos named, if_pos named, if_neg (named ▸ same)]
      · rw [if_neg named, if_neg named]

/-- A name that stands in one place is looked up there. -/
theorem lookup_eq_some_of_mem {name : String} {value : α} {entries : List (String × α)}
    (named : (entries.map Prod.fst).Nodup) (member : (name, value) ∈ entries) :
    entries.lookup name = some value := by
  induction entries with
  | nil => cases member
  | cons entry rest ih =>
    obtain ⟨key, held⟩ := entry
    rw [List.map_cons, List.nodup_cons] at named
    rw [lookup_cons_eq_ite]
    rcases List.mem_cons.mp member with first | later
    · cases first
      rw [if_pos rfl]
    · have other : name ≠ key := fun same => named.1 (List.mem_map.mpr ⟨_, later, same⟩)
      rw [if_neg other]
      exact ih named.2 later

end ODataClient
