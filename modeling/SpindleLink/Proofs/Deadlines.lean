import Mathlib.Algebra.Order.Ring.Rat
import Mathlib.Algebra.Order.Group.Defs
import Mathlib.Tactic.Abel
import SpindleLink.Proofs.Collecting
import SpindleLink.Proofs.Resynchronisation

/-! The deadline of a report. Every part of a reading sets a deadline of its own, from a reading of
the clock that comes after the one by which its wait was reckoned. So what a part overruns the
deadline of the whole by is what the clock moved between these two readings, and it never adds
up. -/

namespace SpindleLink

/-- A scale of time with exact arithmetic. -/
class TimeScale.Exact (T : Type) extends TimeScale T, AddCommGroup T, LinearOrder T,
  IsOrderedAddMonoid T

instance TimeScale.rational : TimeScale.Exact ℚ where
  decLe a b := inferInstanceAs (Decidable (a ≤ b))
  ofMillis? ms := some (ms / 1000)
  ofWhole n := .ok n
  isWhole t n := t = n
  thousandths t := .finite (t < 0) (roundDiv (t.num.natAbs * 1000) t.den)
  add_le_add_left _ _ h _ := Rat.add_le_add_right.mpr h

variable {T : Type}

section Course

variable [TimeScale T]

/-- The questions for some bytes within a wait: none where they are not asked for, else behind a
reading of the clock from which the wait counts. -/
inductive Waited (wait : T) : List (Inquiry T) → Prop
  | unasked : Waited wait []
  | asked {missing : Nat} {reads : List (Inquiry T)} (start : T)
    (h : Collecting (some (start + wait)) missing reads) : Waited wait (.clock start :: reads)

/-- The same behind questions that discard waiting bytes. -/
def Awaited (flush : Bool) (wait : T) (asked : List (Inquiry T)) : Prop :=
  ∃ flushing behind, asked = flushing ++ behind ∧ (flush = false → flushing = []) ∧
    (∀ i ∈ flushing, i.IsPrompt) ∧ Waited wait behind

theorem Awaited.waited {wait : T} {asked : List (Inquiry T)} (h : Awaited false wait asked) :
    Waited wait asked := by
  obtain ⟨flushing, behind, rfl, hflush, -, hwaited⟩ := h
  rw [hflush rfl]
  exact hwaited

/-- The questions within a deadline: for each part the clock is read, and what remains is waited
for. -/
inductive Rounds (deadline : T) : List (Inquiry T) → Prop
  | nil : Rounds deadline []
  | round {asked rest : List (Inquiry T)} (now : T) (h : Waited (deadline - now) asked)
    (hrest : Rounds deadline rest) : Rounds deadline (.clock now :: (asked ++ rest))

namespace Drive

variable {d : Drive T}

theorem awaitBytes_asks (d : Drive T) {wait : Wait T} {t : T} (hwait : wait.toTime = .ok t)
    (count : Nat) (flush : Bool) :
    Act.Asks d.line.channel (d.awaitBytes wait count flush) fun asked _ =>
      Awaited flush t asked := by
  have hreceive : Act.Asks d.line.channel (d.line.receive count (some wait) flush) fun asked _ =>
      Awaited flush t asked := by
    apply (d.line.receive_asks count (some wait) flush).mono
    rintro asked r ⟨flushing, gathering, rfl, hflush, hprompt, hgathering⟩
    refine ⟨flushing, gathering, rfl, hflush, hprompt, ?_⟩
    rcases hgathering with ⟨start, deadline, reads, rfl, hsets, hcourse⟩ | ⟨rfl, -⟩
    · cases hsets with
      | never hnone => cases hnone
      | deadline start hsome htime =>
        obtain rfl := Option.some.inj hsome
        obtain rfl := Except.ok.inj (hwait.symm.trans htime)
        exact .asked start hcourse.1
      | fault start hsome htime =>
        obtain rfl := Option.some.inj hsome
        cases hwait.symm.trans htime
    · exact .unasked
  apply hreceive.orElse (Q := fun _ asked _ => asked = [])
  · intro f
    split
    · exact .step (Wait.resolve_of_toTime hwait)
        (.behind (.note rfl) (fun _ => .raise rfl) (by simp))
    · exact .raise rfl
  · exact fun _ _ h => h
  · intro asked f more r h hnone
    rw [hnone, List.append_nil]
    exact h

theorem resynchronise_asks (d : Drive T) (deadline : T) (rounds : Nat) (buffer : Bytes) :
    Act.Asks d.line.channel (d.resynchronise deadline rounds buffer)
      fun asked _ => Rounds deadline asked := by
  induction rounds generalizing buffer with
  | zero => exact .raise .nil
  | succ rounds ih =>
    unfold resynchronise
    split
    · exact .pure .nil
    · rename_i rest _
      refine .behind (.note rfl) (fun _ => ?_) fun _ => .nil
      apply Act.Asks.clock.bind (Q := fun now asked _ => Rounds deadline (.clock now :: asked))
      · intro now
        by_cases hpassed : deadline - now ≤ 0
        · simp only [if_pos hpassed]
          exact .raise (.round now .unasked .nil)
        · simp only [if_neg hpassed]
          have hawait := (d.awaitBytes_asks (Wait.toTime_time (deadline - now))
            (FrameKind.status.size - rest.length) false).mono fun _ _ h => h.waited
          have hrefill := hawait.relabel (R := fun asked _ => Waited (deadline - now) asked)
            (f := fun f => if f.isA .late then .late (lateness f) (rest ++ f.received) else f)
            (fun _ _ h => h) fun _ _ h => h
          apply hrefill.bind fun more => ih (rest ++ more)
          · intro asked f h
            rw [← List.append_nil asked]
            exact .round now h .nil
          · exact fun asked more rest r h hrest => .round now h hrest
      · intro asked f h
        obtain ⟨now, -, h⟩ := h
        cases h
      · intro asked now more r h hrounds
        obtain ⟨now', rfl, hnow⟩ := h
        obtain rfl := Except.ok.inj hnow
        exact hrounds

theorem decode_asks (c : Channel) (data : Bytes) :
    Act.Asks (T := T) c (decode data) fun asked _ => asked = [] := by
  unfold decode
  split
  · exact .pure rfl
  · refine .behind ?_ (fun _ => .raise rfl) fun _ => rfl
    rw [Act.onlyIf]
    split
    · exact .note rfl
    · exact .pure rfl

/-- Reading a report sets its deadline first. Then bytes are awaited within the whole wait, behind
the discarding, and the rounds that follow keep the deadline. -/
theorem readReport_asks (d : Drive T) {wait : Option (Wait T)} {t : T}
    (hwait : (wait.getD d.readTimeout).toTime = .ok t) (resync : Bool) :
    Act.Asks d.line.channel (d.readReport wait resync) fun asked _ =>
      ∃ now first rest, asked = .clock now :: (first ++ rest) ∧ Awaited true t first ∧
        Rounds (now + t) rest := by
  apply Act.Asks.clock.bind (Q := fun now asked _ =>
    ∃ first rest, asked = first ++ rest ∧ Awaited true t first ∧ Rounds (now + t) rest)
  · intro now
    apply Act.Asks.step (Wait.resolve_of_toTime hwait)
    apply (d.awaitBytes_asks hwait FrameKind.status.size true).bind
      (Q := fun _ asked _ => Rounds (now + t) asked)
    · intro data
      cases resync with
      | true =>
        refine .behind (.observe _) (fun unread => ?_) fun _ => .nil
        exact .map (d.resynchronise_asks (now + t) (unread + 1) data)
      | false =>
        apply Act.Asks.map
        exact (decode_asks d.line.channel data).mono fun asked r h => h ▸ .nil
    · exact fun asked f h => ⟨asked, [], (List.append_nil _).symm, h, .nil⟩
    · exact fun asked data rest r h hrest => ⟨asked, rest, rfl, h, hrest⟩
  · intro asked f h
    obtain ⟨now, -, h⟩ := h
    cases h
  · intro asked now more r h hrest
    obtain ⟨now', rfl, hnow⟩ := h
    obtain rfl := Except.ok.inj hnow
    obtain ⟨first, rest, rfl, hfirst, hrounds⟩ := hrest
    exact ⟨now, first, rest, rfl, hfirst, hrounds⟩

end Drive
end Course

section Exact

variable [TimeScale.Exact T]

/-- A reading by its wait and what was asked before it, against a deadline: the clock was read just
before, and earlier twice in a row. The wait ends behind the deadline by what the clock moved
between these two readings. -/
def Overruns (deadline : T) (before : List (Inquiry T)) (wait : Option T) : Prop :=
  ∃ earlier now u m s, before = earlier ++ [.clock now] ∧ wait = some u ∧
    [.clock m, .clock s] <:+: before ∧ now + u = deadline + (s - m) ∧
    (now + u ≤ deadline ↔ s ≤ m)

/-- Whether a call reads with a wait that ends behind a deadline. -/
def Entry.outlasts (deadline : T) (e : Entry T) : Bool :=
  match e.call with
  | .read _ (some wait) => !decide (e.time + wait ≤ deadline)
  | _ => false

theorem Overruns.behind {deadline : T} {before : List (Inquiry T)} {wait : Option T}
    (h : Overruns deadline before wait) (first : List (Inquiry T)) :
    Overruns deadline (first ++ before) wait := by
  obtain ⟨earlier, now, u, m, s, rfl, hwait, hreadings, hend⟩ := h
  exact ⟨first ++ earlier, now, u, m, s, (List.append_assoc ..).symm, hwait,
    hreadings.trans (List.suffix_append _ _).isInfix, hend⟩

theorem Waited.overruns {deadline now : T} {asked : List (Inquiry T)}
    (h : Waited (deadline - now) asked) {before after : List (Inquiry T)} {wait : Option T}
    {answer : Except Fault (Option UInt8)} (hasked : asked = before ++ .read wait answer :: after) :
    Overruns deadline (.clock now :: before) wait := by
  cases h with
  | unasked => simp at hasked
  | asked start hcollecting =>
    cases before with
    | nil => cases (List.cons.inj hasked).1
    | cons i before =>
      obtain ⟨rfl, hreads⟩ := List.cons.inj hasked
      obtain ⟨earlier, latest, rfl, now', rfl, hwait, -⟩ := (hcollecting.opportune hreads).remains
      have hend : now' + (start + (deadline - now) - now') = deadline + (start - now) := by abel
      refine ⟨.clock now :: .clock start :: earlier, now', _, now, start, rfl, hwait, ?_, hend, ?_⟩
      · exact ⟨[], earlier ++ [.clock now'], rfl⟩
      · rw [hend, add_le_iff_nonpos_right, sub_nonpos]

theorem Rounds.overruns {deadline : T} {asked : List (Inquiry T)} (h : Rounds deadline asked)
    {before after : List (Inquiry T)} {wait : Option T} {answer : Except Fault (Option UInt8)}
    (hasked : asked = before ++ .read wait answer :: after) : Overruns deadline before wait := by
  induction h generalizing before with
  | nil => simp at hasked
  | @round asked rest now h hrest ih =>
    cases before with
    | nil => cases (List.cons.inj hasked).1
    | cons i before =>
      obtain ⟨rfl, htail⟩ := List.cons.inj hasked
      rcases List.append_eq_append_iff.mp htail with ⟨mid, rfl, hlater⟩ | ⟨mid, rfl, hhere⟩
      · exact (ih hlater).behind (.clock now :: asked)
      · cases mid with
        | nil =>
          have hlater : rest = [] ++ .read wait answer :: after := hhere.symm
          rw [List.append_nil] at h
          have hoverruns := (ih hlater).behind (.clock now :: before)
          rwa [List.append_nil] at hoverruns
        | cons j mid =>
          obtain ⟨rfl, -⟩ := List.cons.inj hhere
          exact h.overruns rfl

namespace Drive

/-- A report reads the clock first, which with its wait makes the deadline, and then it discards.
Every reading behind that waits beyond the deadline by what the clock moved between the reckoning of
its part and the beginning of it: with a clock that stood still there the deadline is kept. -/
theorem readReport_overruns (d : Drive T) {wait : Option (Wait T)} {t : T}
    (hwait : (wait.getD d.readTimeout).toTime = .ok t) (resync : Bool) (b : Bench T) :
    ∃ now flushing behind,
      d.line.channel.Asked (.clock now :: (flushing ++ behind)) b (d.readReport wait resync b).2 ∧
      (∀ i ∈ flushing, i.IsPrompt) ∧
      ∀ before w answer after, behind = before ++ .read w answer :: after →
        Overruns (now + t) (.clock now :: before) w := by
  obtain ⟨asked, hasked, now, first, rest, rfl, hfirst, hrounds⟩ := d.readReport_asks hwait resync b
  obtain ⟨flushing, behind, rfl, -, hprompt, hwaited⟩ := hfirst
  rw [← add_sub_cancel_left now t] at hwaited
  rw [List.append_assoc] at hasked
  refine ⟨now, flushing, behind ++ rest, hasked, hprompt, ?_⟩
  intro before w answer after hbehind
  exact (Rounds.round now hwaited hrounds).overruns (congrArg (.clock now :: ·) hbehind)

/-- On rational seconds, with a clock that moves by a quarter of a second at each reading. -/
theorem readReport_overruns_rational :
    let d : Drive ℚ :=
      .make ⟨0, .scripted 0, .scripted 0, .whole 1, .delay⟩ .forward (.time (1 / 2))
    let b : Bench ℚ := .empty 0 (1 / 4)
    ∃ now flushing behind,
      Channel.Asked (.scripted 0) (.clock now :: (flushing ++ behind)) b
        (d.readReport none true b).2 ∧
      (∀ i ∈ flushing, i.IsPrompt) ∧
      ∀ before w answer after, behind = before ++ .read w answer :: after →
        Overruns (now + 1 / 2) (.clock now :: before) w := by
  intro d b
  exact d.readReport_overruns (rfl : ((none : Option (Wait ℚ)).getD d.readTimeout).toTime = .ok _)
    true b

/-- There, with a silent channel, a reading waits till a quarter of a second behind the deadline. -/
theorem readReport_outlasts_deadline :
    let d : Drive ℚ :=
      .make ⟨0, .scripted 0, .scripted 0, .whole 1, .delay⟩ .forward (.time (1 / 2))
    let b : Bench ℚ := .empty 0 (1 / 4)
    (Bench.readClock b).1.toOption = some (1 / 4) ∧
      ∃ e ∈ (d.readReport none true b).2.trace, e.outlasts (1 / 4 + 1 / 2) = true := by
  intro d b
  decide +kernel

end Drive
end Exact
end SpindleLink
