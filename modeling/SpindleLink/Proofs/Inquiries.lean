import SpindleLink.Proofs.Reception

/-! What a line asks its channel while it receives, in order and with the answers. The readings of
the clock stand between, so the wait of every reading can be held against the instant before it. -/

namespace SpindleLink

variable {T : Type}

/-- A question to a channel with its answer, or a reading of the clock. -/
inductive Inquiry (T : Type)
  | poll (answer : Except Fault Bool)
  | read (wait : Option T) (answer : Except Fault (Option UInt8))
  | clock (now : T)

namespace Inquiry

def byte? : Inquiry T → Option UInt8
  | read _ (.ok byte) => byte
  | _ => none

def fault? : Inquiry T → Option Fault
  | poll (.error f) | read _ (.error f) => some f
  | _ => none

/-- A question that cannot keep the channel waiting. -/
def IsPrompt [TimeScale T] : Inquiry T → Prop
  | poll _ => True
  | read wait _ => wait = some 0
  | clock _ => False

end Inquiry

def brought (asked : List (Inquiry T)) : Bytes := asked.filterMap Inquiry.byte?

@[simp] theorem brought_nil : brought ([] : List (Inquiry T)) = [] := rfl

@[simp] theorem brought_append (asked more : List (Inquiry T)) :
    brought (asked ++ more) = brought asked ++ brought more := List.filterMap_append

@[simp] theorem brought_poll (answer : Except Fault Bool) (asked : List (Inquiry T)) :
    brought (.poll answer :: asked) = brought asked := by
  rw [brought, List.filterMap_cons_none] <;> rfl

@[simp] theorem brought_clock (now : T) (asked : List (Inquiry T)) :
    brought (.clock now :: asked) = brought asked := rfl

@[simp] theorem brought_byte (wait : Option T) (byte : UInt8) (asked : List (Inquiry T)) :
    brought (.read wait (.ok (some byte)) :: asked) = byte :: brought asked := rfl

theorem brought_answer (wait : Option T) (byte : Option UInt8) (asked : List (Inquiry T)) :
    brought (.read wait (.ok byte) :: asked) = byte.toList ++ brought asked := by
  cases byte <;> rfl

theorem brought_of_silent {i : Inquiry T} (h : i.byte? = none) (asked : List (Inquiry T)) :
    brought (i :: asked) = brought asked := List.filterMap_cons_none h

variable [TimeScale T]

theorem Wait.resolve_of_error {w : Wait T} {e : ArithmeticFault} (h : w.toTime = .error e)
    {σ : Type} (s : σ) : (w.resolve : Act σ T) s = (.error (.arithmetic e), s) := by
  rw [Wait.resolve, h]
  rfl

/-- A channel is asked these things one after the other on the way from one bench to another, and
nothing else is done there but notes. -/
inductive Channel.Asked (c : Channel) : List (Inquiry T) → Bench T → Bench T → Prop
  | nil (b : Bench T) : c.Asked [] b b
  | note {asked : List (Inquiry T)} {b b' : Bench T} (n : Note)
    (rest : c.Asked asked (Bench.note n b).2 b') : c.Asked asked b b'
  | poll {asked : List (Inquiry T)} {b b' : Bench T} (rest : c.Asked asked (c.hasWaiting b).2 b') :
    c.Asked (.poll (c.hasWaiting b).1 :: asked) b b'
  | read {asked : List (Inquiry T)} {b b' : Bench T} (wait : Option T)
    (rest : c.Asked asked (c.next wait b).2 b') :
    c.Asked (.read wait (c.next wait b).1 :: asked) b b'
  | clock {asked : List (Inquiry T)} {b b' : Bench T} {now : T} {b₁ : Bench T}
    (reading : Bench.readClock b = (.ok now, b₁)) (rest : c.Asked asked b₁ b') :
    c.Asked (.clock now :: asked) b b'

theorem Channel.Asked.append {c : Channel} {asked more : List (Inquiry T)} {b b₁ b' : Bench T}
    (h : c.Asked asked b b₁) (h' : c.Asked more b₁ b') : c.Asked (asked ++ more) b b' := by
  induction h with
  | nil b => exact h'
  | note n rest ih => exact .note n (ih h')
  | poll rest ih => exact .poll (ih h')
  | read wait rest ih => exact .read wait (ih h')
  | clock reading rest ih => exact .clock reading (ih h')

namespace Act

variable {α β : Type} {c : Channel}

/-- From every state an action only asks a channel, with these questions and this outcome. -/
def Asks (c : Channel) (x : Act (Bench T) α) (P : List (Inquiry T) → Except Fault α → Prop) :
    Prop :=
  ∀ b, ∃ asked, c.Asked asked b (x b).2 ∧ P asked (x b).1

namespace Asks

variable {x : Act (Bench T) α} {P Q : List (Inquiry T) → Except Fault α → Prop}

theorem mono (h : Asks c x P) (hPQ : ∀ asked r, P asked r → Q asked r) : Asks c x Q := by
  intro b
  obtain ⟨asked, hasked, hP⟩ := h b
  exact ⟨asked, hasked, hPQ asked _ hP⟩

theorem pure {a : α} (h : P [] (.ok a)) : Asks c (Pure.pure a : Act (Bench T) α) P :=
  fun b => ⟨[], .nil b, h⟩

theorem raise {f : Fault} (h : P [] (.error f)) : Asks c (Act.raise f : Act (Bench T) α) P :=
  fun b => ⟨[], .nil b, h⟩

theorem observe (f : Bench T → α) : Asks c (Act.observe f) fun asked _ => asked = [] :=
  fun b => ⟨[], .nil b, rfl⟩

/-- Behind an action that leaves every state as it is. -/
theorem step {f : α → Act (Bench T) β} {Q : List (Inquiry T) → Except Fault β → Prop} {a : α}
    (h : ∀ b, x b = (.ok a, b)) (hf : Asks c (f a) Q) : Asks c (x >>= f) Q := by
  intro b
  rw [Act.bind_ok (h b)]
  exact hf b

theorem stop {f : α → Act (Bench T) β} {Q : List (Inquiry T) → Except Fault β → Prop} {e : Fault}
    (h : ∀ b, x b = (.error e, b)) (hQ : Q [] (.error e)) : Asks c (x >>= f) Q := by
  intro b
  rw [Act.bind_error (h b)]
  exact ⟨[], .nil b, hQ⟩

theorem note {n : Note} {P : List (Inquiry T) → Except Fault Unit → Prop} (h : P [] (.ok ())) :
    Asks c (Bench.note n) P :=
  fun _ => ⟨[], .note n (.nil _), h⟩

theorem require (p : Prop) [Decidable p] (f : Fault) :
    Asks (T := T) c (Act.require p f) fun asked r =>
      asked = [] ∧ r = if p then .ok () else .error f := by
  rw [Act.require]
  split
  · exact pure ⟨rfl, rfl⟩
  · exact raise ⟨rfl, rfl⟩

theorem poll : Asks (T := T) c c.hasWaiting fun asked r => asked = [.poll r] :=
  fun _ => ⟨_, .poll (.nil _), rfl⟩

theorem read (wait : Option T) : Asks c (c.next wait) fun asked r => asked = [.read wait r] :=
  fun _ => ⟨_, .read wait (.nil _), rfl⟩

theorem clock : Asks (T := T) c Bench.readClock fun asked r =>
    ∃ now, asked = [.clock now] ∧ r = .ok now :=
  fun _ => ⟨_, .clock rfl (.nil _), _, rfl, rfl⟩

/-- The questions of a sequence are those of the first action, and then, if it ended well, those of
the next. -/
theorem bind {f : α → Act (Bench T) β} {Q : α → List (Inquiry T) → Except Fault β → Prop}
    {R : List (Inquiry T) → Except Fault β → Prop} (hx : Asks c x P) (hf : ∀ a, Asks c (f a) (Q a))
    (herror : ∀ asked e, P asked (.error e) → R asked (.error e))
    (hok : ∀ asked a more r, P asked (.ok a) → Q a more r → R (asked ++ more) r) :
    Asks c (x >>= f) R := by
  intro b
  obtain ⟨asked, hasked, hP⟩ := hx b
  rcases hrun : x b with ⟨e | a, b₁⟩
  · rw [hrun] at hasked hP
    rw [Act.bind_error hrun]
    exact ⟨asked, hasked, herror asked e hP⟩
  · rw [hrun] at hasked hP
    obtain ⟨more, hmore, hQ⟩ := hf a b₁
    rw [Act.bind_ok hrun]
    exact ⟨asked ++ more, hasked.append hmore, hok asked a more _ hP hQ⟩

theorem behind {f : α → Act (Bench T) β} {Q : List (Inquiry T) → Except Fault β → Prop}
    (hx : Asks c x fun asked _ => asked = []) (hf : ∀ a, Asks c (f a) Q)
    (herror : ∀ e, Q [] (.error e)) : Asks c (x >>= f) Q := by
  apply hx.bind hf
  · intro asked e h
    rw [h]
    exact herror e
  · intro asked a more r h hQ
    rw [h]
    exact hQ

theorem forall_bind {p : Inquiry T → Prop} {f : α → Act (Bench T) β}
    (hx : Asks c x fun asked _ => ∀ i ∈ asked, p i)
    (hf : ∀ a, Asks c (f a) fun asked _ => ∀ i ∈ asked, p i) :
    Asks c (x >>= f) fun asked _ => ∀ i ∈ asked, p i := by
  apply hx.bind hf
  · intro asked e h
    exact h
  · intro asked a more r h h' i hi
    exact (List.mem_append.mp hi).elim (h i) (h' i)

theorem map {f : α → β} {Q : List (Inquiry T) → Except Fault β → Prop}
    (h : Asks c x fun asked r => Q asked (r.map f)) : Asks c (f <$> x) Q := by
  intro b
  rw [Act.map_apply]
  exact h b

theorem orElse {handle : Fault → Act (Bench T) α}
    {Q : Fault → List (Inquiry T) → Except Fault α → Prop}
    {R : List (Inquiry T) → Except Fault α → Prop} (hx : Asks c x P)
    (hhandle : ∀ e, Asks c (handle e) (Q e)) (hok : ∀ asked a, P asked (.ok a) → R asked (.ok a))
    (herror : ∀ asked e more r, P asked (.error e) → Q e more r → R (asked ++ more) r) :
    Asks c (x.orElse handle) R := by
  intro b
  obtain ⟨asked, hasked, hP⟩ := hx b
  rcases hrun : x b with ⟨e | a, b₁⟩
  · rw [hrun] at hasked hP
    obtain ⟨more, hmore, hQ⟩ := hhandle e b₁
    rw [Act.orElse_error hrun]
    exact ⟨asked ++ more, hasked.append hmore, herror asked e more _ hP hQ⟩
  · rw [hrun] at hasked hP
    rw [Act.orElse_ok hrun]
    exact ⟨asked, hasked, hok asked a hP⟩

theorem relabel {f : Fault → Fault} {R : List (Inquiry T) → Except Fault α → Prop}
    (hx : Asks c x P) (hok : ∀ asked a, P asked (.ok a) → R asked (.ok a))
    (herror : ∀ asked e, P asked (.error e) → R asked (.error (f e))) :
    Asks c (x.relabel f) R := by
  apply hx.orElse (Q := fun e more r => more = [] ∧ r = .error (f e))
  · exact fun e => .raise ⟨rfl, rfl⟩
  · exact hok
  · intro asked e more r hP h
    obtain ⟨rfl, rfl⟩ := h
    rw [List.append_nil]
    exact herror asked e hP

end Asks
end Act

end SpindleLink
