import Thumbnailing.Value

set_option autoImplicit false

namespace Thumbnailing.Entries

variable {entries : Entries} {key other : String} {value : Value} {entry : String × Value}

theorem mem_put (member : entry ∈ entries.put key value) :
    entry ∈ entries ∨ entry = (key, value) := by
  unfold put at member
  split at member
  · obtain ⟨found, inside, rfl⟩ := List.mem_map.mp member
    split
    · exact Or.inr rfl
    · exact Or.inl inside
  · rcases List.mem_append.mp member with inside | last
    · exact Or.inl inside
    · exact Or.inr (List.mem_singleton.mp last)

theorem mem_remove (member : entry ∈ entries.remove key) : entry ∈ entries :=
  (List.mem_filter.mp member).1

theorem get?_cons (first : String × Value) (rest : Entries) (key : String) :
    get? (first :: rest) key = if key = first.1 then some first.2 else get? rest key := by
  obtain ⟨name, value⟩ := first
  by_cases same : key = name
  · simp [get?, same]
  · have apart : (key == name) = false := by simpa using same
    simp [get?, List.lookup_cons, same, apart]

theorem get?_isSome (entries : Entries) (key : String) :
    (get? entries key).isSome = entries.any fun entry => entry.1 == key := by
  induction entries with
  | nil => rfl
  | cons entry rest ih =>
    rw [get?_cons, List.any_cons, ← ih]
    by_cases same : key = entry.1
    · simp [same]
    · have apart : (entry.1 == key) = false := by simpa using Ne.symm same
      simp [same, apart]

theorem get?_replaced (entries : Entries) (key other : String) (value : Value) :
    get? (entries.map fun entry => if entry.1 == key then (key, value) else entry) other =
      if other = key then (get? entries key).map fun _ => value else get? entries other := by
  induction entries with
  | nil => simp [get?]
  | cons entry rest ih =>
    rw [List.map_cons, get?_cons, ih, get?_cons, get?_cons]
    by_cases here : entry.1 = key
    · by_cases same : other = key <;> simp [here, same]
    · have apart : (entry.1 == key) = false := by simpa using here
      by_cases same : other = key
      · subst same
        simp [apart, Ne.symm here]
      · simp [apart, same]

theorem get?_put (entries : Entries) (key other : String) (value : Value) :
    get? (entries.put key value) other =
      if other = key then some value else get? entries other := by
  have known := get?_isSome entries key
  unfold put
  split
  · rename_i present
    rw [present, Option.isSome_iff_exists] at known
    obtain ⟨old, found⟩ := known
    rw [get?_replaced, found]
    rfl
  · rename_i absent
    rw [Bool.not_eq_true] at absent
    rw [absent, Option.isSome_eq_false_iff, Option.isNone_iff_eq_none] at known
    have last : get? [(key, value)] other = if other = key then some value else none :=
      get?_cons _ [] other
    have split : get? (entries ++ [(key, value)]) other =
      (get? entries other).or (get? [(key, value)] other) := List.lookup_append
    rw [split, last]
    by_cases same : other = key
    · simp [same, known]
    · simp [same]

theorem get?_remove (entries : Entries) (key other : String) :
    get? (entries.remove key) other = if other = key then none else get? entries other := by
  induction entries with
  | nil => simp [remove, get?]
  | cons entry rest ih =>
    unfold remove at ih ⊢
    rw [List.filter_cons, get?_cons]
    by_cases here : entry.1 = key
    · by_cases same : other = key
      · subst same
        simpa [here] using ih
      · simpa [here, same] using ih
    · by_cases same : other = key
      · subst same
        simp [here, ih, get?_cons, Ne.symm here]
      · simp [here, ih, get?_cons, same]

end Thumbnailing.Entries
