import SpindleLink.Fault

/-! Actions: computations that carry a state along and may end in a fault. The state that a
fault leaves behind is kept, so what was done before it stays done. -/

namespace SpindleLink

/-- From a state to a result or a fault, and the next state. -/
def Act (σ α : Type) : Type := σ → Except Fault α × σ

namespace Act

variable {σ τ α β : Type}

protected def pure (a : α) : Act σ α := fun s => (.ok a, s)

protected def bind (x : Act σ α) (f : α → Act σ β) : Act σ β := fun s =>
  match x s with
  | (.ok a, s') => f a s'
  | (.error e, s') => (.error e, s')

instance : Monad (Act σ) where
  pure := Act.pure
  bind := Act.bind

def raise (f : Fault) : Act σ α := fun s => (.error f, s)

def observe (f : σ → α) : Act σ α := fun s => (.ok (f s), s)

def change (f : σ → σ) : Act σ Unit := fun s => (.ok (), f s)

/-- Goes on only under a condition. -/
def require (p : Prop) [Decidable p] (f : Fault) : Act σ Unit := if p then pure () else raise f

/-- Acts only under a condition. -/
def onlyIf (p : Prop) [Decidable p] (x : Act σ Unit) : Act σ Unit := if p then x else pure ()

/-- The outcome as a value: nothing is raised. -/
def attempt (x : Act σ α) : Act σ (Except Fault α) := fun s => (.ok (x s).1, (x s).2)

def ofExcept (r : Except Fault α) : Act σ α := fun s => (r, s)

/-- Hands a fault to a handler, which starts from the state that the fault left. -/
def orElse (x : Act σ α) (handle : Fault → Act σ α) : Act σ α := fun s =>
  match x s with
  | (.ok a, s') => (.ok a, s')
  | (.error e, s') => handle e s'

/-- Changes the fault that an action ends in. -/
def relabel (x : Act σ α) (f : Fault → Fault) : Act σ α := x.orElse fun e => raise (f e)

/-- Runs a last action in any case; a fault of the last action replaces the outcome. -/
def ensuring (x : Act σ α) (last : Act σ Unit) : Act σ α := fun s =>
  match last (x s).2 with
  | (.ok (), s') => ((x s).1, s')
  | (.error e, s') => (.error e, s')

/-- An action on a part of the state. -/
def within (get : τ → σ) (put : σ → τ → τ) (x : Act σ α) : Act τ α := fun t =>
  ((x (get t)).1, put (x (get t)).2 t)

instance : LawfulMonad (Act σ) := LawfulMonad.mk' (Act σ)
  (fun x => by
    funext s
    change Act.bind x (fun a => Act.pure a) s = x s
    simp only [Act.bind, Act.pure]
    rcases x s with ⟨_ | _, _⟩ <;> rfl)
  (fun _ _ => rfl)
  (fun x f g => by
    funext s
    change Act.bind (Act.bind x f) g s = Act.bind x (fun a => Act.bind (f a) g) s
    simp only [Act.bind]
    rcases x s with ⟨_ | _, _⟩ <;> rfl)

theorem pure_apply (a : α) (s : σ) : (pure a : Act σ α) s = (.ok a, s) := rfl

theorem bind_apply (x : Act σ α) (f : α → Act σ β) (s : σ) :
    (x >>= f) s = match x s with
      | (.ok a, s') => f a s'
      | (.error e, s') => (.error e, s') := rfl

@[simp] theorem raise_apply (f : Fault) (s : σ) : (raise f : Act σ α) s = (.error f, s) := rfl

@[simp] theorem observe_apply (f : σ → α) (s : σ) : observe f s = (.ok (f s), s) := rfl

@[simp] theorem change_apply (f : σ → σ) (s : σ) : change f s = (.ok (), f s) := rfl

@[simp] theorem attempt_apply (x : Act σ α) (s : σ) :
    attempt x s = (.ok (x s).1, (x s).2) := rfl

@[simp] theorem ofExcept_apply (r : Except Fault α) (s : σ) : ofExcept r s = (r, s) := rfl

theorem bind_ok {x : Act σ α} {f : α → Act σ β} {s s' : σ} {a : α} (h : x s = (.ok a, s')) :
    (x >>= f) s = f a s' := by
  rw [bind_apply, h]

theorem bind_error {x : Act σ α} {f : α → Act σ β} {s s' : σ} {e : Fault}
    (h : x s = (.error e, s')) : (x >>= f) s = (.error e, s') := by
  rw [bind_apply, h]

theorem map_apply (f : α → β) (x : Act σ α) (s : σ) : (f <$> x) s = ((x s).1.map f, (x s).2) := by
  rw [map_eq_pure_bind, bind_apply]
  rcases x s with ⟨_ | _, _⟩ <;> rfl

theorem orElse_ok {x : Act σ α} {handle : Fault → Act σ α} {s s' : σ} {a : α}
    (h : x s = (.ok a, s')) : x.orElse handle s = (.ok a, s') := by
  rw [orElse, h]

theorem orElse_error {x : Act σ α} {handle : Fault → Act σ α} {s s' : σ} {e : Fault}
    (h : x s = (.error e, s')) : x.orElse handle s = handle e s' := by
  rw [orElse, h]

theorem relabel_ok {x : Act σ α} {f : Fault → Fault} {s s' : σ} {a : α}
    (h : x s = (.ok a, s')) : x.relabel f s = (.ok a, s') :=
  orElse_ok h

theorem relabel_error {x : Act σ α} {f : Fault → Fault} {s s' : σ} {e : Fault}
    (h : x s = (.error e, s')) : x.relabel f s = (.error (f e), s') :=
  orElse_error h

end Act
end SpindleLink
