import SpindleLink.Bench.Basic

/-! What actions leave as it was. Something read off the state is left alone by a sequence of
actions when each of them leaves it alone, whatever fails on the way. -/

namespace SpindleLink
namespace Act

variable {σ τ α β γ : Type} {g : σ → γ}

/-- From every state, and however it ends, an action leaves something as it was. -/
def Leaves (g : σ → γ) (x : Act σ α) : Prop := ∀ s, g (x s).2 = g s

/-- A sequence that ends well came through its first part. -/
theorem of_bind_ok {x : Act σ α} {f : α → Act σ β} {s s' : σ} {b : β}
    (h : (x >>= f) s = (.ok b, s')) : ∃ a s₁, x s = (.ok a, s₁) ∧ f a s₁ = (.ok b, s') := by
  rw [bind_apply] at h
  rcases hx : x s with ⟨e | a, s₁⟩
  · simp [hx] at h
  · simp only [hx] at h
    exact ⟨a, s₁, rfl, h⟩

theorem ensuring_snd (x : Act σ α) (last : Act σ Unit) (s : σ) :
    (x.ensuring last s).2 = (last (x s).2).2 := by
  unfold ensuring
  rcases last (x s).2 with ⟨e | u, s'⟩ <;> rfl

namespace Leaves

variable {x : Act σ α}

theorem pure (a : α) : Leaves g (Pure.pure a : Act σ α) := fun _ => rfl

theorem raise (f : Fault) : Leaves g (Act.raise f : Act σ α) := fun _ => rfl

theorem ofExcept (r : Except Fault α) : Leaves g (Act.ofExcept r : Act σ α) := fun _ => rfl

theorem observe (f : σ → α) : Leaves g (Act.observe f) := fun _ => rfl

theorem change {f : σ → σ} (hf : ∀ s, g (f s) = g s) : Leaves g (Act.change f) := hf

theorem behind {f : α → Act σ β} (hf : ∀ a, (f a).Leaves g) (s : σ) :
    g ((x >>= f) s).2 = g (x s).2 := by
  rcases hrun : x s with ⟨e | a, s₁⟩
  · rw [Act.bind_error hrun]
  · rw [Act.bind_ok hrun, hf a s₁]

theorem bind {f : α → Act σ β} (hx : x.Leaves g) (hf : ∀ a, (f a).Leaves g) :
    (x >>= f).Leaves g :=
  fun s => (behind hf s).trans (hx s)

theorem map {f : α → β} (hx : x.Leaves g) : (f <$> x).Leaves g := by
  intro s
  rw [Act.map_apply]
  exact hx s

theorem handled {handle : Fault → Act σ α} (hhandle : ∀ e, (handle e).Leaves g) (s : σ) :
    g (x.orElse handle s).2 = g (x s).2 := by
  rcases hrun : x s with ⟨e | a, s₁⟩
  · rw [Act.orElse_error hrun, hhandle e s₁]
  · rw [Act.orElse_ok hrun]

theorem orElse {handle : Fault → Act σ α} (hx : x.Leaves g) (hhandle : ∀ e, (handle e).Leaves g) :
    (x.orElse handle).Leaves g :=
  fun s => (handled hhandle s).trans (hx s)

theorem relabel {f : Fault → Fault} (hx : x.Leaves g) : (x.relabel f).Leaves g :=
  hx.orElse fun e => raise (f e)

theorem attempt (hx : x.Leaves g) : x.attempt.Leaves g := hx

theorem ensured {last : Act σ Unit} (hlast : last.Leaves g) (s : σ) :
    g (x.ensuring last s).2 = g (x s).2 := by
  rw [Act.ensuring_snd, hlast]

theorem ensuring {last : Act σ Unit} (hx : x.Leaves g) (hlast : last.Leaves g) :
    (x.ensuring last).Leaves g :=
  fun s => (ensured hlast s).trans (hx s)

theorem onlyIf {c : Prop} [Decidable c] {x : Act σ Unit} (hx : x.Leaves g) :
    (Act.onlyIf c x).Leaves g := by
  rw [Act.onlyIf]
  split
  · exact hx
  · exact pure ()

theorem require {c : Prop} [Decidable c] {f : Fault} :
    (Act.require c f : Act σ Unit).Leaves g := by
  rw [Act.require]
  split
  · exact pure ()
  · exact raise f

theorem ite {c : Prop} [Decidable c] {x y : Act σ α} (hx : x.Leaves g) (hy : y.Leaves g) :
    (if c then x else y : Act σ α).Leaves g := by
  split
  · exact hx
  · exact hy

theorem comp {δ : Type} (hx : x.Leaves g) (k : γ → δ) : x.Leaves fun s => k (g s) :=
  fun s => congrArg k (hx s)

/-- What is read off the rest of a state, or off a part in a way that the action leaves alone. -/
theorem within {get : τ → σ} {put : σ → τ → τ} {k : τ → γ}
    (hput : ∀ t, k (put (x (get t)).2 t) = k t) : (x.within get put).Leaves k := hput

end Leaves
end Act

theorem Bench.perform_leaves {T α γ : Type} {g : Bench T → γ} {c : Call T} {reply : α → Reply}
    {work : Bench T → α × Bench T}
    (hrecord : ∀ b r, g ((b.counted c).record c r) = g b)
    (hwork : ∀ b, g { (work (b.counted c)).2 with
      trace := (work (b.counted c)).2.trace ++ [⟨b.now, c, reply (work (b.counted c)).1⟩] } = g b) :
    (Bench.perform c reply work).Leaves g := by
  intro b
  cases hplan : (b.plans.get c.point).current with
  | some f =>
    rw [Bench.perform_of_fault hplan]
    exact hrecord b _
  | none =>
    rw [Bench.perform_of_clear hplan]
    exact hwork b

end SpindleLink
