import SpindleLink.Proofs.Inquiries

/-! The course of receiving on any line, whatever the channel answers and whatever fails. Waiting
bytes are discarded by questions that cannot wait; then the clock is read before every reading for a
missing byte, which waits for what remains of the deadline. -/

namespace SpindleLink

variable {T : Type} [TimeScale T]

/-- How the wait of a reading comes about: there is none without a deadline; with one the clock is
read, and what remains is waited for. -/
def Remains (deadline : Option T) (asked : List (Inquiry T)) (wait : Option T) : Prop :=
  match deadline with
  | none => asked = [] ∧ wait = none
  | some d => ∃ now, asked = [.clock now] ∧ wait = some (d - now) ∧ ¬ d - now ≤ 0

/-- The course of collecting some missing bytes: the deadline is found passed, or a reading brings
no byte, or none is missing any more. -/
inductive Collecting (deadline : Option T) : Nat → List (Inquiry T) → Prop
  | full : Collecting deadline 0 []
  | passed {missing : Nat} {d now : T} (hdeadline : deadline = some d) (hpassed : d - now ≤ 0) :
    Collecting deadline (missing + 1) [.clock now]
  | silent {missing : Nat} {before : List (Inquiry T)} {wait : Option T}
    {answer : Except Fault (Option UInt8)} (hremains : Remains deadline before wait)
    (hsilent : (Inquiry.read wait answer).byte? = none) :
    Collecting deadline (missing + 1) (before ++ [.read wait answer])
  | byte {missing : Nat} {before asked : List (Inquiry T)} {wait : Option T} {byte : UInt8}
    (hremains : Remains deadline before wait) (rest : Collecting deadline missing asked) :
    Collecting deadline (missing + 1) (before ++ .read wait (.ok (some byte)) :: asked)

/-- When collecting reads: a byte is still missing, the wait is what remains, the deadline has not
been found passed, and every earlier reading brought a byte. -/
structure Opportune (deadline : Option T) (missing : Nat) (before : List (Inquiry T))
    (wait : Option T) : Prop where
  missing : (brought before).length < missing
  remains : ∃ earlier latest, before = earlier ++ latest ∧ Remains deadline latest wait
  inTime : ∀ d now, deadline = some d → .clock now ∈ before → ¬ d - now ≤ 0
  answered : ∀ wait answer, .read wait answer ∈ before → ∃ byte, answer = .ok (some byte)

namespace Remains

variable {deadline : Option T} {asked : List (Inquiry T)} {wait : Option T}

theorem brought_eq (h : Remains deadline asked wait) : brought asked = [] := by
  cases deadline with
  | none => rw [h.1, brought_nil]
  | some d =>
    obtain ⟨now, rfl, -, -⟩ := h
    rfl

theorem not_passed (h : Remains deadline asked wait) : ∀ t, wait = some t → ¬ t ≤ 0 := by
  intro t ht
  cases deadline with
  | none => rw [h.2] at ht; cases ht
  | some d =>
    obtain ⟨now, -, hwait, hpositive⟩ := h
    obtain rfl := Option.some.inj (hwait.symm.trans ht)
    exact hpositive

theorem inTime (h : Remains deadline asked wait) :
    ∀ d now, deadline = some d → .clock now ∈ asked → ¬ d - now ≤ 0 := by
  intro d now hd hnow
  subst hd
  obtain ⟨now', rfl, -, hpositive⟩ := h
  obtain rfl := Inquiry.clock.inj (List.mem_singleton.mp hnow)
  exact hpositive

theorem not_read (h : Remains deadline asked wait) (w : Option T)
    (answer : Except Fault (Option UInt8)) : .read w answer ∉ asked := by
  intro hread
  cases deadline with
  | none => rw [h.1] at hread; cases hread
  | some d =>
    obtain ⟨now, rfl, -, -⟩ := h
    cases List.mem_singleton.mp hread

theorem opportune (h : Remains deadline asked wait) {missing : Nat} (hmissing : 0 < missing) :
    Opportune deadline missing asked wait where
  missing := by rwa [h.brought_eq]
  remains := ⟨[], asked, rfl, h⟩
  inTime := h.inTime
  answered := fun w answer hread => absurd hread (h.not_read w answer)

end Remains

theorem Opportune.positive {deadline : Option T} {missing : Nat} {before : List (Inquiry T)}
    {wait : Option T} (h : Opportune deadline missing before wait) :
    ∀ t, wait = some t → ¬ t ≤ 0 := by
  obtain ⟨earlier, latest, -, hremains⟩ := h.remains
  exact hremains.not_passed

theorem Opportune.behind {deadline : Option T} {missing : Nat} {latest before : List (Inquiry T)}
    {wait w : Option T} (h : Opportune deadline missing before wait)
    (hremains : Remains deadline latest w) (byte : UInt8) :
    Opportune deadline (missing + 1) (latest ++ .read w (.ok (some byte)) :: before) wait where
  missing := by
    rw [brought_append, hremains.brought_eq, brought_byte, List.nil_append, List.length_cons]
    exact Nat.succ_lt_succ h.missing
  remains := by
    obtain ⟨earlier, last, rfl, hlast⟩ := h.remains
    exact ⟨latest ++ .read w (.ok (some byte)) :: earlier, last, by simp, hlast⟩
  inTime := by
    intro d now hd hnow
    rcases List.mem_append.mp hnow with hnow | hnow
    · exact hremains.inTime d now hd hnow
    · rcases List.mem_cons.mp hnow with hnow | hnow
      · cases hnow
      · exact h.inTime d now hd hnow
  answered := by
    intro w' answer hread
    rcases List.mem_append.mp hread with hread | hread
    · exact absurd hread (hremains.not_read w' answer)
    · rcases List.mem_cons.mp hread with hread | hread
      · obtain ⟨-, rfl⟩ := Inquiry.read.inj hread
        exact ⟨byte, rfl⟩
      · exact h.answered w' answer hread

namespace Collecting

variable {deadline : Option T} {missing : Nat} {asked : List (Inquiry T)}

theorem length_le (h : Collecting deadline missing asked) : (brought asked).length ≤ missing := by
  induction h with
  | full => exact Nat.le_refl 0
  | passed hdeadline hpassed => exact Nat.zero_le _
  | silent hremains hsilent =>
    rw [brought_append, hremains.brought_eq, brought_of_silent hsilent]
    exact Nat.zero_le _
  | byte hremains rest ih =>
    rw [brought_append, hremains.brought_eq, brought_byte]
    exact Nat.succ_le_succ ih

theorem split {before latest rest after : List (Inquiry T)} {i : Inquiry T} {w wait : Option T}
    {answer : Except Fault (Option UInt8)} (hremains : Remains deadline latest w)
    (h : latest ++ i :: rest = before ++ .read wait answer :: after) :
    (before = latest ∧ i = .read wait answer) ∨
      ∃ mid, before = latest ++ i :: mid ∧ rest = mid ++ .read wait answer :: after := by
  rcases List.append_eq_append_iff.mp h with ⟨mid, hbefore, hrest⟩ | ⟨mid, hlatest, hread⟩
  · cases mid with
    | nil =>
      rw [List.append_nil] at hbefore
      exact .inl ⟨hbefore, (List.cons.inj hrest).1⟩
    | cons j mid =>
      obtain ⟨rfl, htail⟩ := List.cons.inj hrest
      exact .inr ⟨mid, hbefore, htail⟩
  · cases mid with
    | nil =>
      rw [List.append_nil] at hlatest
      exact .inl ⟨hlatest.symm, (List.cons.inj hread).1.symm⟩
    | cons j mid =>
      obtain ⟨rfl, -⟩ := List.cons.inj hread
      exact absurd (hlatest ▸ by simp) (hremains.not_read wait answer)

/-- Collecting reads only when it has to. -/
theorem opportune (h : Collecting deadline missing asked) {before after : List (Inquiry T)}
    {wait : Option T} {answer : Except Fault (Option UInt8)}
    (hasked : asked = before ++ .read wait answer :: after) :
    Opportune deadline missing before wait := by
  induction h generalizing before with
  | full => simp at hasked
  | passed hdeadline hpassed =>
    cases before with
    | nil => cases (List.cons.inj hasked).1
    | cons i before => simp at hasked
  | silent hremains hsilent =>
    rcases split hremains hasked with ⟨rfl, hread⟩ | ⟨mid, -, hrest⟩
    · obtain ⟨rfl, -⟩ := Inquiry.read.inj hread
      exact hremains.opportune (Nat.succ_pos _)
    · simp at hrest
  | byte hremains rest ih =>
    rcases split hremains hasked with ⟨rfl, hread⟩ | ⟨mid, rfl, hrest⟩
    · obtain ⟨rfl, -⟩ := Inquiry.read.inj hread
      exact hremains.opportune (Nat.succ_pos _)
    · exact (ih hrest).behind hremains _

end Collecting

namespace Line

/-- What the outcome of collecting tells: the bytes that were brought, or a fault that came instead
of one. -/
def Collected (deadline : Option T) (missing : Nat) (got : Bytes) (asked : List (Inquiry T))
    (r : Except Fault Bytes) : Prop :=
  Collecting deadline missing asked ∧
    match r with
    | .ok data => data = got ++ brought asked
    | .error f => ∃ i ∈ asked, i.fault? = some f

/-- A reading for a missing byte, and the collecting that goes on behind the byte. -/
theorem collectNext_asks {l : Line} {deadline : Option T} {missing : Nat} {got : Bytes}
    {before : List (Inquiry T)} {wait : Option T} (hremains : Remains deadline before wait)
    {go : UInt8 → Act (Bench T) Bytes}
    (hgo : ∀ b, Act.Asks l.channel (go b) (Collected deadline missing (got ++ [b]))) :
    Act.Asks l.channel (do
      match ← l.channel.next wait with
      | some b => go b
      | none => pure got)
      fun asked r => Collected deadline (missing + 1) got (before ++ asked) r := by
  apply (Act.Asks.read wait).bind (Q := fun byte more r => match byte with
    | some b => Collected deadline missing (got ++ [b]) more r
    | none => more = [] ∧ r = .ok got)
  · intro byte
    cases byte with
    | some b => exact hgo b
    | none => exact .pure ⟨rfl, rfl⟩
  · intro asked f hread
    obtain rfl := hread
    exact ⟨.silent hremains rfl, .read wait (.error f), by simp, rfl⟩
  · intro asked byte more r hread h
    obtain rfl := hread
    cases byte with
    | none =>
      obtain ⟨rfl, rfl⟩ := h
      refine ⟨.silent hremains rfl, ?_⟩
      simp only [List.append_nil, brought_append, hremains.brought_eq, List.nil_append]
      exact (List.append_nil got).symm
    | some b =>
      obtain ⟨hcourse, hr⟩ := h
      refine ⟨.byte hremains hcourse, ?_⟩
      cases r with
      | ok data =>
        simp only at hr ⊢
        rw [hr, brought_append, hremains.brought_eq, List.singleton_append, brought_byte]
        simp
      | error f =>
        obtain ⟨i, hi, hf⟩ := hr
        exact ⟨i, by simp [hi], hf⟩

theorem collect_asks (l : Line) (deadline : Option T) (missing : Nat) (got : Bytes) :
    Act.Asks l.channel (l.collect deadline missing got) (Collected deadline missing got) := by
  induction missing generalizing got with
  | zero => exact .pure ⟨.full, (List.append_nil got).symm⟩
  | succ missing ih =>
    cases deadline with
    | none =>
      have hremains : Remains (none : Option T) [] none := ⟨rfl, rfl⟩
      exact collectNext_asks hremains fun b => ih (got ++ [b])
    | some d =>
      apply Act.Asks.clock.bind (Q := fun now more r =>
        Collected (some d) (missing + 1) got (.clock now :: more) r)
      · intro now
        by_cases hpassed : d - now ≤ 0
        · simp only [if_pos hpassed]
          exact .pure ⟨.passed rfl hpassed, (List.append_nil got).symm⟩
        · simp only [if_neg hpassed]
          have hremains : Remains (some d) [.clock now] (some (d - now)) :=
            ⟨now, rfl, rfl, hpassed⟩
          exact collectNext_asks hremains fun b => ih (got ++ [b])
      · intro asked f h
        obtain ⟨now, -, h⟩ := h
        cases h
      · intro asked now more r h hcollected
        obtain ⟨now', rfl, hnow⟩ := h
        obtain rfl := Except.ok.inj hnow
        exact hcollected

/-- The outcome of reading `n` bytes: all of them, or those that did come, or a fault of the
channel. -/
def Gathered (deadline : Option T) (n : Int) (reads : List (Inquiry T)) (r : Except Fault Bytes) :
    Prop :=
  Collecting deadline n.toNat reads ∧
    match r with
    | .ok data => data = brought reads ∧ n ≤ (brought reads).length
    | .error f => (f = .truncated (brought reads) n ∧ ((brought reads).length : Int) < n) ∨
        ∃ i ∈ reads, i.fault? = some f

/-- What a wait sets: a deadline that counts from a reading of the clock, or none without a wait, or
a fault if the wait has no time. -/
inductive Sets (wait : Option (Wait T)) : List (Inquiry T) → Except Fault (Option T) → Prop
  | never (hwait : wait = none) : Sets wait [] (.ok none)
  | deadline {w : Wait T} {t : T} (start : T) (hwait : wait = some w) (htime : w.toTime = .ok t) :
    Sets wait [.clock start] (.ok (some (start + t)))
  | fault {w : Wait T} {e : ArithmeticFault} (start : T) (hwait : wait = some w)
    (htime : w.toTime = .error e) : Sets wait [.clock start] (.error (.arithmetic e))

theorem Sets.brought_eq {wait : Option (Wait T)} {start : List (Inquiry T)}
    {deadline : Except Fault (Option T)} (h : Sets wait start deadline) : brought start = [] := by
  cases h <;> rfl

/-- The course of reading bytes behind the discarding: the deadline is set, and then bytes are
collected. -/
def Gathering (n : Int) (wait : Option (Wait T)) (asked : List (Inquiry T))
    (r : Except Fault Bytes) : Prop :=
  ∃ start deadline reads, asked = start ++ reads ∧ Sets wait start deadline ∧
    match deadline with
    | .ok d => Gathered d n reads r
    | .error f => reads = [] ∧ r = .error f

def deadline (wait : Option (Wait T)) : Act (Bench T) (Option T) :=
  match wait with
  | none => pure none
  | some w => do pure (some ((← Bench.readClock) + (← w.resolve)))

def gather (l : Line) (n : Int) (wait : Option (Wait T)) : Act (Bench T) Bytes := do
  let deadline ← deadline wait
  let got ← l.collect deadline n.toNat []
  if (got.length : Int) < n then .raise (.truncated got n)
  else
    Bench.note (.received got)
    pure got

theorem receive_eq (l : Line) (n : Int) (wait : Option (Wait T)) (flush : Bool) :
    l.receive n wait flush = (do
      l.requireHeld
      Act.onlyIf (flush = true) (discard l.discardWaiting)
      l.gather n wait) := by
  cases wait with
  | none => rfl
  | some w => simp only [receive, gather, deadline, bind_assoc]

theorem deadline_asks (c : Channel) (wait : Option (Wait T)) :
    Act.Asks c (deadline wait) (Sets wait) := by
  cases wait with
  | none => exact .pure (.never rfl)
  | some w =>
    apply Act.Asks.clock.bind (Q := fun start more r => Sets (some w) (.clock start :: more) r)
    · intro start
      cases htime : w.toTime with
      | ok t => exact .step (Wait.resolve_of_toTime htime) (.pure (.deadline start rfl htime))
      | error e => exact .stop (Wait.resolve_of_error htime) (.fault start rfl htime)
    · intro asked f h
      obtain ⟨now, -, h⟩ := h
      cases h
    · intro asked start more r h hsets
      obtain ⟨now, rfl, hnow⟩ := h
      obtain rfl := Except.ok.inj hnow
      exact hsets

theorem gathered_asks (l : Line) (deadline : Option T) (n : Int) :
    Act.Asks l.channel (do
      let got ← l.collect deadline n.toNat []
      if (got.length : Int) < n then .raise (.truncated got n)
      else
        Bench.note (.received got)
        pure got) (Gathered deadline n) := by
  apply (l.collect_asks deadline n.toNat []).bind (Q := fun got more r => more = [] ∧
    r = if (got.length : Int) < n then .error (.truncated got n) else .ok got)
  · intro got
    split
    · exact .raise ⟨rfl, rfl⟩
    · apply (Act.Asks.note (P := fun asked r => asked = [] ∧ r = .ok ()) ⟨rfl, rfl⟩).bind
        (Q := fun _ more r => more = [] ∧ r = .ok got)
      · exact fun _ => .pure ⟨rfl, rfl⟩
      · intro asked f h
        cases h.2
      · intro asked _ more r h h'
        exact ⟨by rw [h.1, h'.1]; rfl, h'.2⟩
  · intro asked f h
    exact ⟨h.1, .inr h.2⟩
  · intro asked got more r h h'
    obtain ⟨hcourse, hgot⟩ := h
    obtain ⟨rfl, rfl⟩ := h'
    rw [List.append_nil]
    refine ⟨hcourse, ?_⟩
    obtain rfl : got = brought asked := hgot
    split
    · rename_i hlen
      split at hlen
      · cases hlen
      · exact ⟨(Except.ok.inj hlen).symm, by omega⟩
    · rename_i hlen
      split at hlen
      · exact .inl ⟨(Except.error.inj hlen).symm, ‹_›⟩
      · cases hlen

theorem gather_asks (l : Line) (n : Int) (wait : Option (Wait T)) :
    Act.Asks l.channel (l.gather n wait) (Gathering n wait) := by
  apply (deadline_asks l.channel wait).bind fun deadline => l.gathered_asks deadline n
  · intro start f h
    exact ⟨start, .error f, [], (List.append_nil _).symm, h, rfl, rfl⟩
  · intro start deadline reads r h hgathered
    exact ⟨start, .ok deadline, reads, rfl, h, hgathered⟩

theorem requireHeld_asks (l : Line) (c : Channel) :
    Act.Asks (T := T) c l.requireHeld fun asked _ => asked = [] := by
  refine .behind (.observe l.isReleased) (fun released => ?_) (by simp)
  exact (Act.Asks.require _ _).mono fun _ _ h => h.1

theorem dropWaiting_asks (l : Line) (fuel dropped : Nat) :
    Act.Asks (T := T) l.channel (l.dropWaiting fuel dropped)
      fun asked _ => ∀ i ∈ asked, i.IsPrompt := by
  induction fuel generalizing dropped with
  | zero => exact .pure (by simp)
  | succ fuel ih =>
    have hpoll : Act.Asks (T := T) l.channel l.channel.hasWaiting
        fun asked _ => ∀ i ∈ asked, i.IsPrompt :=
      Act.Asks.poll.mono fun asked r h => by simp [h, Inquiry.IsPrompt]
    have hread : Act.Asks (T := T) l.channel (l.channel.next (some 0))
        fun asked _ => ∀ i ∈ asked, i.IsPrompt :=
      (Act.Asks.read (some 0)).mono fun asked r h => by simp [h, Inquiry.IsPrompt]
    apply hpoll.forall_bind
    intro waiting
    split
    · apply hread.forall_bind
      intro byte
      cases byte with
      | some b => exact ih (dropped + 1)
      | none => exact .pure (by simp)
    · exact .pure (by simp)

/-- Discarding asks for no byte that is not there. -/
theorem discardWaiting_asks (l : Line) :
    Act.Asks (T := T) l.channel l.discardWaiting fun asked _ => ∀ i ∈ asked, i.IsPrompt := by
  refine .behind (l.requireHeld_asks _) (fun _ => ?_) (by simp)
  have hobserve : Act.Asks (T := T) l.channel
      (Act.observe fun b => (l.channel.source b).stale.length) fun asked _ => asked = [] :=
    .observe _
  refine .behind hobserve (fun waiting => ?_) (by simp)
  apply (l.dropWaiting_asks (waiting + 1) 0).forall_bind
  intro dropped
  rw [Act.onlyIf]
  split
  · exact .behind (.note rfl) (fun _ => .pure (by simp)) (by simp)
  · exact .pure (by simp)

/-- The course of receiving: the discarding if it is asked for, and the reading behind it, unless
the line is released or the discarding fails. -/
def Receiving (n : Int) (wait : Option (Wait T)) (flush : Bool) (asked : List (Inquiry T))
    (r : Except Fault Bytes) : Prop :=
  ∃ flushing gathering, asked = flushing ++ gathering ∧ (flush = false → flushing = []) ∧
    (∀ i ∈ flushing, i.IsPrompt) ∧
    (Gathering n wait gathering r ∨ gathering = [] ∧ ∃ f, r = .error f)

theorem receive_asks (l : Line) (n : Int) (wait : Option (Wait T)) (flush : Bool) :
    Act.Asks l.channel (l.receive n wait flush) (Receiving n wait flush) := by
  rw [receive_eq]
  refine .behind (l.requireHeld_asks _) (fun _ => ?_)
    fun f => ⟨[], [], rfl, fun _ => rfl, by simp, .inr ⟨rfl, f, rfl⟩⟩
  have hdiscard : Act.Asks (T := T) l.channel (discard l.discardWaiting)
      fun asked _ => ∀ i ∈ asked, i.IsPrompt :=
    l.discardWaiting_asks.forall_bind fun _ => .pure (by simp)
  have hflush : Act.Asks (T := T) l.channel (Act.onlyIf (flush = true) (discard l.discardWaiting))
      fun asked _ => (flush = false → asked = []) ∧ ∀ i ∈ asked, i.IsPrompt := by
    rw [Act.onlyIf]
    split
    · rename_i hflush
      exact hdiscard.mono fun _ _ h => ⟨fun hnone => by simp [hflush] at hnone, h⟩
    · exact .pure ⟨fun _ => rfl, by simp⟩
  apply hflush.bind fun _ => l.gather_asks n wait
  · intro asked f h
    exact ⟨asked, [], (List.append_nil _).symm, h.1, h.2, .inr ⟨rfl, f, rfl⟩⟩
  · intro asked _ more r h hgathering
    exact ⟨asked, more, rfl, h.1, h.2, .inl hgathering⟩

end Line

end SpindleLink
