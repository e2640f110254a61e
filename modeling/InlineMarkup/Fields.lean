/-!
# Fields by name

A record whose fields are not known beforehand is a list of names with values, in the order in
which the names first appeared. `Fields.set` keeps names unique: it replaces the value of a name
that is there and appends a name that is not.
-/

namespace InlineMarkup

/-- **Named values** in order. -/
abbrev Fields (α : Type) := List (String × α)

namespace Fields

variable {α : Type}

/-- The value of a name. -/
def get? (name : String) : Fields α → Option α
  | [] => none
  | (n, x) :: fs => if n = name then some x else get? name fs

/-- **The fields with a value for a name,** in the place of its former value if there is one. -/
def set (name : String) (x : α) : Fields α → Fields α
  | [] => [(name, x)]
  | (n, y) :: fs => if n = name then (n, x) :: fs else (n, y) :: set name x fs

/-- The fields without a name. -/
def erase (name : String) (fs : Fields α) : Fields α := fs.filter fun f => f.1 ≠ name

@[simp] theorem get?_nil (name : String) : get? name ([] : Fields α) = none := rfl

/-- Setting a name changes what is found under it, and nothing else. -/
theorem get?_set (name other : String) (x : α) (fs : Fields α) :
    get? other (set name x fs) = if other = name then some x else get? other fs := by
  induction fs with
  | nil => simp [set, get?, eq_comm]
  | cons f fs ih =>
    obtain ⟨n, y⟩ := f
    by_cases hn : n = name
    · subst hn
      by_cases ho : other = n <;> simp [set, get?, ho, eq_comm]
    · by_cases ho : n = other
      · subst ho
        simp [set, get?, hn]
      · simp [set, get?, hn, ho, ih]

@[simp] theorem get?_set_self (name : String) (x : α) (fs : Fields α) :
    get? name (set name x fs) = some x := by
  simp [get?_set]

theorem get?_set_of_ne {name other : String} (h : other ≠ name) (x : α) (fs : Fields α) :
    get? other (set name x fs) = get? other fs := by
  rw [get?_set, if_neg h]

end Fields
end InlineMarkup
