/-! Total finite maps: a list of changes over a function. -/

namespace SpindleLink

structure Table (κ α : Type) where
  entries : List (κ × α)
  rest : κ → α

namespace Table

variable {κ α : Type} [DecidableEq κ]

def ofFunction (f : κ → α) : Table κ α := ⟨[], f⟩

def constant (a : α) : Table κ α := ofFunction fun _ => a

def find (k : κ) (rest : κ → α) : List (κ × α) → α
  | [] => rest k
  | (k', a) :: entries => if k' = k then a else find k rest entries

def get (t : Table κ α) (k : κ) : α := find k t.rest t.entries

def change (k : κ) (a : α) : List (κ × α) → List (κ × α)
  | [] => [(k, a)]
  | (k', a') :: entries => if k' = k then (k, a) :: entries else (k', a') :: change k a entries

def set (t : Table κ α) (k : κ) (a : α) : Table κ α := ⟨change k a t.entries, t.rest⟩

def update (t : Table κ α) (k : κ) (f : α → α) : Table κ α := t.set k (f (t.get k))

theorem find_change (k k' : κ) (a : α) (rest : κ → α) (entries : List (κ × α)) :
    find k' rest (change k a entries) = if k = k' then a else find k' rest entries := by
  induction entries with
  | nil => simp [change, find]
  | cons e entries ih =>
    obtain ⟨k₁, a₁⟩ := e
    by_cases h : k₁ = k
    · subst h
      by_cases h' : k₁ = k' <;> simp [change, find, h']
    · by_cases h' : k₁ = k'
      · subst h'
        simp [change, find, h, Ne.symm h]
      · simp [change, find, h, h', ih]

theorem get_set (t : Table κ α) (k k' : κ) (a : α) :
    (t.set k a).get k' = if k = k' then a else t.get k' :=
  find_change k k' a t.rest t.entries

@[simp] theorem get_set_self (t : Table κ α) (k : κ) (a : α) : (t.set k a).get k = a := by
  simp [get_set]

theorem get_set_of_ne (t : Table κ α) {k k' : κ} (h : k ≠ k') (a : α) :
    (t.set k a).get k' = t.get k' := by
  simp [get_set, h]

end Table
end SpindleLink
