import SpindleLink.Proofs.Collecting

/-! The notes of a run beside its calls. Up to the receiving of bytes nothing on the link gives a
warning: whatever fails is passed on as it is or, by a serial channel, as a fault of the link. -/

namespace SpindleLink

variable {T : Type}

def Warned (notes : List Note) : Prop := ∃ n ∈ notes, n.level = .warning

instance (notes : List Note) : Decidable (Warned notes) :=
  inferInstanceAs (Decidable (∃ n ∈ notes, n.level = .warning))

@[simp] theorem warned_nil : ¬ Warned [] := by simp [Warned]

@[simp] theorem warned_append {notes more : List Note} :
    Warned (notes ++ more) ↔ Warned notes ∨ Warned more := by
  simp [Warned, or_and_right, exists_or]

@[simp] theorem warned_singleton {n : Note} : Warned [n] ↔ n.level = .warning := by simp [Warned]

/-- Of a fault of the inverter's family, a run has warned just if this holds of its calls and of the
fault. -/
def WarnsIf {α : Type} (Q : List (Entry T) → Fault → Prop) (es : List (Entry T))
    (notes : List Note) (r : Except Fault α) : Prop :=
  ∀ f, r = .error f → f.isA .inverter = true → (Warned notes ↔ Q es f)

def Unfailing (es : List (Entry T)) : Prop := ∀ e ∈ es, ∀ g, e.reply ≠ .failed g

theorem Unfailing.append {es fs : List (Entry T)} (h : Unfailing es) (h' : Unfailing fs) :
    Unfailing (es ++ fs) := fun e he => (List.mem_append.mp he).elim (h e) (h' e)

/-- A run that gives no warning. A call that fails ends it, in a fault that the call's fault passes
as; without such a call it ends well or in a fault of its own. -/
structure Plain {α : Type} (passes : Fault → Fault → Prop) (own : Fault → Prop)
    (es : List (Entry T)) (notes : List Note) (r : Except Fault α) : Prop where
  quiet : ¬ Warned notes
  passed : ∀ e ∈ es, ∀ g, e.reply = .failed g → ∃ f, r = .error f ∧ passes g f
  own : ∀ f, r = .error f → Unfailing es → own f

/-- A run that ends well has no call that failed. -/
theorem Plain.unfailing {α : Type} {passes : Fault → Fault → Prop} {own : Fault → Prop}
    {es : List (Entry T)} {notes : List Note} {a : α}
    (h : Plain passes own es notes (.ok a : Except Fault α)) : Unfailing es := by
  intro e he g hg
  obtain ⟨f, hf, -⟩ := h.passed e he g hg
  cases hf

namespace Act

variable {α β : Type}

/-- From a state, the calls and the notes that an action adds, and its outcome. -/
def Records (x : Act (Bench T) α) (b : Bench T)
    (P : List (Entry T) → List Note → Except Fault α → Prop) : Prop :=
  ∃ es notes, (x b).2.trace = b.trace ++ es ∧ (x b).2.log = b.log ++ notes ∧ P es notes (x b).1

theorem Records.still {x : Act (Bench T) α} {b : Bench T}
    {P : List (Entry T) → List Note → Except Fault α → Prop} (htrace : (x b).2.trace = b.trace)
    (hlog : (x b).2.log = b.log) (h : P [] [] (x b).1) : x.Records b P :=
  ⟨[], [], by rw [htrace, List.append_nil], by rw [hlog, List.append_nil], h⟩

theorem Records.mono {x : Act (Bench T) α} {b : Bench T}
    {P Q : List (Entry T) → List Note → Except Fault α → Prop} (h : x.Records b P)
    (hPQ : ∀ es notes r, P es notes r → Q es notes r) : x.Records b Q := by
  obtain ⟨es, notes, htrace, hlog, hP⟩ := h
  exact ⟨es, notes, htrace, hlog, hPQ es notes _ hP⟩

theorem Records.bind {x : Act (Bench T) α} {f : α → Act (Bench T) β} {b : Bench T}
    {P : List (Entry T) → List Note → Except Fault α → Prop}
    {R : List (Entry T) → List Note → Except Fault β → Prop} (hx : x.Records b P)
    (herror : ∀ es notes e, P es notes (.error e) → R es notes (.error e))
    (hok : ∀ es notes a b', x b = (.ok a, b') → P es notes (.ok a) →
      (f a).Records b' fun fs more r => R (es ++ fs) (notes ++ more) r) :
    (x >>= f).Records b R := by
  obtain ⟨es, notes, htrace, hlog, hP⟩ := hx
  rcases hrun : x b with ⟨e | a, b₁⟩
  · rw [hrun] at htrace hlog hP
    rw [Records, Act.bind_error hrun]
    exact ⟨es, notes, htrace, hlog, herror es notes e hP⟩
  · rw [hrun] at htrace hlog hP
    obtain ⟨fs, more, htrace', hlog', hR⟩ := hok es notes a b₁ hrun hP
    rw [Records, Act.bind_ok hrun]
    refine ⟨es ++ fs, notes ++ more, ?_, ?_, hR⟩
    · rw [htrace', htrace, List.append_assoc]
    · rw [hlog', hlog, List.append_assoc]

/-- A handler goes on behind the records of the action that failed. -/
theorem Records.orElse {x : Act (Bench T) α} {handle : Fault → Act (Bench T) α} {b : Bench T}
    {P R : List (Entry T) → List Note → Except Fault α → Prop} (hx : x.Records b P)
    (hok : ∀ es notes a, P es notes (.ok a) → R es notes (.ok a))
    (herror : ∀ es notes e b', P es notes (.error e) →
      (handle e).Records b' fun fs more r => R (es ++ fs) (notes ++ more) r) :
    (x.orElse handle).Records b R := by
  obtain ⟨es, notes, htrace, hlog, hP⟩ := hx
  rcases hrun : x b with ⟨e | a, b₁⟩
  · rw [hrun] at htrace hlog hP
    obtain ⟨fs, more, htrace', hlog', hR⟩ := herror es notes e b₁ hP
    rw [Records, Act.orElse_error hrun]
    refine ⟨es ++ fs, notes ++ more, ?_, ?_, hR⟩
    · rw [htrace', htrace, List.append_assoc]
    · rw [hlog', hlog, List.append_assoc]
  · rw [hrun] at htrace hlog hP
    rw [Records, Act.orElse_ok hrun]
    exact ⟨es, notes, htrace, hlog, hok es notes a hP⟩

theorem Records.warnsIf_map {Q : List (Entry T) → Fault → Prop} {x : Act (Bench T) α}
    {b : Bench T} (h : x.Records b (WarnsIf Q)) (f : α → β) : (f <$> x).Records b (WarnsIf Q) := by
  rw [map_eq_pure_bind]
  refine h.bind (fun es notes e hwarns => ?_) fun es notes a b' _ _ => .still rfl rfl ?_
  · rintro _ ⟨⟩
    exact hwarns e rfl
  · rintro _ ⟨⟩

def Plainly (passes : Fault → Fault → Prop) (own : Fault → Prop) (x : Act (Bench T) α) : Prop :=
  ∀ b, x.Records b (Plain passes own)

namespace Plainly

variable {passes passes' : Fault → Fault → Prop} {own own' : Fault → Prop} {x : Act (Bench T) α}

theorem mono (h : Plainly passes own x) (hpasses : ∀ g f, passes g f → passes' g f)
    (hown : ∀ f, own f → own' f) : Plainly passes' own' x := by
  intro b
  refine (h b).mono fun es notes r hplain => ⟨hplain.quiet, fun e he g hg => ?_, fun f hf hes => ?_⟩
  · obtain ⟨f, hf, hpass⟩ := hplain.passed e he g hg
    exact ⟨f, hf, hpasses g f hpass⟩
  · exact hown f (hplain.own f hf hes)

theorem ofExcept {r : Except Fault α} (h : ∀ f, r = .error f → own f) :
    Plainly passes own (Act.ofExcept r : Act (Bench T) α) :=
  fun _ => .still rfl rfl ⟨warned_nil, by simp, fun f hf _ => h f hf⟩

theorem pure (a : α) : Plainly passes own (Pure.pure a : Act (Bench T) α) :=
  ofExcept (r := .ok a) (by simp)

theorem raise {f : Fault} (h : own f) : Plainly passes own (Act.raise f : Act (Bench T) α) :=
  ofExcept (r := .error f) (by rintro _ ⟨⟩; exact h)

theorem observe (f : Bench T → α) : Plainly passes own (Act.observe f) :=
  fun _ => .still rfl rfl ⟨warned_nil, by simp, by simp⟩

theorem readClock [TimeScale T] : Plainly passes own (Bench.readClock : Act (Bench T) T) :=
  fun _ => .still rfl rfl ⟨warned_nil, by simp, by simp [Bench.readClock]⟩

theorem note {n : Note} (h : n.level ≠ .warning) :
    Plainly passes own (Bench.note n : Act (Bench T) Unit) :=
  fun b => ⟨[], [n], (List.append_nil _).symm, rfl, by simpa using h, by simp,
    by simp [Bench.note]⟩

theorem ite {c : Prop} [Decidable c] {y : Act (Bench T) α} (hx : Plainly passes own x)
    (hy : Plainly passes own y) : Plainly passes own (if c then x else y) := by
  split
  · exact hx
  · exact hy

/-- A part that ends well has no call that failed, so only the rest can. -/
theorem bind {f : α → Act (Bench T) β} (hx : Plainly passes own x)
    (hf : ∀ a, Plainly passes own (f a)) : Plainly passes own (x >>= f) := by
  intro b
  refine (hx b).bind (fun es notes e h => ?_) fun es notes a b' _ h => ?_
  · refine ⟨h.quiet, fun e' he g hg => ?_, fun f hf hes => ?_⟩
    · obtain ⟨f, hf, hpass⟩ := h.passed e' he g hg
      obtain rfl := Except.error.inj hf
      exact ⟨e, rfl, hpass⟩
    · obtain rfl := Except.error.inj hf
      exact h.own e rfl hes
  · have hes := h.unfailing
    obtain ⟨fs, more, htrace, hlog, h'⟩ := hf a b'
    refine ⟨fs, more, htrace, hlog, by simp [h.quiet, h'.quiet], fun e he g hg => ?_,
      fun f hr hall => ?_⟩
    · rcases List.mem_append.mp he with he | he
      · exact absurd hg (hes e he g)
      · exact h'.passed e he g hg
    · exact h'.own f hr fun e he => hall e (List.mem_append_right es he)

theorem map {f : α → β} (hx : Plainly passes own x) : Plainly passes own (f <$> x) := by
  rw [map_eq_pure_bind]
  exact hx.bind fun a => pure (f a)

theorem onlyIf {c : Prop} [Decidable c] {x : Act (Bench T) Unit} (hx : Plainly passes own x) :
    Plainly passes own (Act.onlyIf c x) := hx.ite (pure ())

theorem require {c : Prop} [Decidable c] {f : Fault} (h : own f) :
    Plainly passes own (Act.require c f : Act (Bench T) Unit) := ite (pure ()) (raise h)

theorem perform {c : Call T} {reply : α → Reply} {work : Bench T → α × Bench T}
    (hreply : ∀ a f, reply a ≠ .failed f)
    (hwork : ∀ b, (work b).2.trace = b.trace ∧ (work b).2.log = b.log) :
    Plainly Eq own (Bench.perform c reply work) := by
  intro b
  cases hplan : (b.plans.get c.point).current with
  | some f =>
    rw [Records, Bench.perform_of_fault hplan]
    refine ⟨_, [], rfl, (List.append_nil _).symm, warned_nil, ?_, fun f' _ hes => ?_⟩
    · rintro e he g hg
      obtain rfl := List.mem_singleton.mp he
      exact ⟨f, rfl, (Reply.failed.inj hg).symm⟩
    · exact absurd rfl (hes _ (List.mem_singleton.mpr rfl) f)
  | none =>
    obtain ⟨htrace, hlog⟩ := hwork (b.counted c)
    rw [Records, Bench.perform_of_clear hplan]
    refine ⟨_, [], congrArg (· ++ _) htrace, hlog.trans (List.append_nil _).symm, warned_nil, ?_,
      by simp⟩
    rintro e he g hg
    obtain rfl := List.mem_singleton.mp he
    exact absurd hg (hreply _ g)

theorem relabel {h : Fault → Fault} (hx : Plainly passes own x)
    (hpasses : ∀ g f, passes g f → passes' g (h f)) (hown : ∀ f, own f → own' (h f)) :
    Plainly passes' own' (x.relabel h) := by
  intro b
  refine (hx b).orElse (fun es notes a hplain => ?_) fun es notes e b' hplain => ?_
  · exact ⟨hplain.quiet, fun e he g hg => absurd hg (hplain.unfailing e he g), by simp⟩
  · refine .still rfl rfl ?_
    rw [List.append_nil, List.append_nil]
    refine ⟨hplain.quiet, fun e' he g hg => ?_, ?_⟩
    · obtain ⟨f, hf, hpass⟩ := hplain.passed e' he g hg
      obtain rfl := Except.error.inj hf
      exact ⟨_, rfl, hpasses g e hpass⟩
    · rintro f ⟨⟩ hes
      exact hown e (hplain.own e rfl hes)

end Plainly
end Act

def SameCut (g f : Fault) : Prop := f.isA .cutFrame = g.isA .cutFrame

/-- A fault that is not of the inverter's family. -/
def Foreign (f : Fault) : Prop := f.isA .inverter = false

theorem foreign_of_value {f : Fault} (h : f.isA .value = true) : Foreign f := by
  unfold Foreign
  unfold Fault.isA at h ⊢
  cases hkind : f.kind <;> rw [hkind] at h <;> first | rfl | cases h

theorem foreign_arithmetic (a : ArithmeticFault) : Foreign (.arithmetic a) := by cases a <;> rfl

theorem Wait.resolve_plainly [TimeScale T] {passes : Fault → Fault → Prop} (w : Wait T) :
    Act.Plainly (T := T) passes Foreign w.resolve := by
  refine .ofExcept fun f hf => ?_
  cases htime : w.toTime with
  | ok t =>
    rw [htime] at hf
    cases hf
  | error a =>
    rw [htime] at hf
    cases hf
    exact foreign_arithmetic a

/-- A serial channel makes no cut input of the faults of its device, and none goes by. -/
theorem sameCut_ofDevice {wrap : Fault → Fault} (hwrap : ∀ f, (wrap f).kind = .transport)
    (f : Fault) : SameCut f (SerialChannel.ofDevice wrap f) := by
  unfold SameCut SerialChannel.ofDevice
  split
  next hserial =>
    unfold Fault.isA at hserial ⊢
    rw [hwrap]
    cases hkind : f.kind <;> rw [hkind] at hserial <;> first | rfl | cases hserial
  next => rfl

namespace Channel

variable {c : SerialChannel} {own : Fault → Prop}

theorem usePort_plainly {passes : Fault → Fault → Prop} (c : SerialChannel) :
    Act.Plainly (T := T) passes Foreign c.usePort := by
  refine .bind (.observe _) fun port? => ?_
  cases port? with
  | some p => exact .pure p
  | none => exact .raise rfl

theorem ofDevice_plainly {α : Type} {x : Act (Bench T) α} {wrap : Fault → Fault}
    (hwrap : ∀ f, (wrap f).kind = .transport) (hx : Act.Plainly Eq (fun _ => False) x) :
    Act.Plainly SameCut Foreign (x.relabel (SerialChannel.ofDevice wrap)) :=
  hx.relabel (by rintro g _ rfl; exact sameCut_ofDevice hwrap g) fun _ h => h.elim

theorem hasWaiting_plainly (channel : Channel) :
    Act.Plainly (T := T) SameCut Foreign channel.hasWaiting := by
  have hpoll {α : Type} {x : Act (Bench T) α} (hx : Act.Plainly Eq Foreign x) :
      Act.Plainly SameCut Foreign x := hx.mono (by rintro g _ rfl; rfl) fun _ h => h
  cases channel with
  | scripted id => exact hpoll (.perform (by simp) fun _ => ⟨rfl, rfl⟩)
  | serial c =>
    refine (usePort_plainly c).bind fun _ => .bind (ofDevice_plainly (fun _ => rfl) ?_) fun _ =>
      .pure _
    exact .perform (by simp) fun _ => ⟨rfl, rfl⟩

variable [TimeScale T]

theorem next_plainly (channel : Channel) (wait : Option T) :
    Act.Plainly SameCut Foreign (channel.next wait) := by
  cases channel with
  | scripted id =>
    have hread : Act.Plainly Eq Foreign
        ((scripted id).next wait : Act (Bench T) (Option UInt8)) := by
      refine .perform (by simp) fun b => ?_
      split <;> exact ⟨rfl, rfl⟩
    exact hread.mono (by rintro g _ rfl; rfl) fun _ h => h
  | serial c =>
    refine (usePort_plainly c).bind fun port => ?_
    have hlimit : Act.Plainly (T := T) SameCut Foreign ((wait.map Wait.time).elim (pure none)
        fun w => some <$> w.resolve) := by
      cases wait with
      | none => exact .pure none
      | some t => exact .map (Wait.resolve_plainly _)
    refine hlimit.bind fun limit => ofDevice_plainly (fun _ => rfl) ?_
    refine .bind (.onlyIf (.perform (by simp) fun _ => ⟨rfl, rfl⟩)) fun _ => ?_
    exact .perform (by simp) fun _ => ⟨rfl, rfl⟩

end Channel
end SpindleLink
