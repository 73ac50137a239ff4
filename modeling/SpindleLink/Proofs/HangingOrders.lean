import Mathlib.Data.List.Induction
import SpindleLink.Proofs.DriveOrders

/-! Orders that hang: the channel took the frame of a start or stop in full, and the step failed
behind that, so the drive does not count it. A speed sent later carries the run key as the drive
stands. That is as the spindle was last told, except when the last order hangs and told
otherwise. -/

namespace SpindleLink

variable {T : Type}

/-- Whether a channel took a byte string in full: a scripted one says how much it took, a port that
does not say took all, and it has to be waited for. -/
def Channel.tookAll : Channel → List (Call T × Reply) → Bool
  | scripted id, calls => calls.any fun
    | (.write i data, .accepted told) => i = id ∧ told = some (data.length : Int)
    | _ => false
  | serial _, calls =>
    (calls.any fun
      | (.portWrite data, .accepted told) => told.getD data.length = (data.length : Int)
      | _ => false) &&
    calls.any fun
      | (.portFlush, .done) => true
      | _ => false

theorem Channel.Took.tookAll {channel : Channel} {data : Bytes} {sent calls : List (Call T × Reply)}
    (h : channel.Took data (some data.length) sent) (hsent : sent ⊆ calls) :
    channel.tookAll calls = true := by
  cases channel with
  | scripted id =>
    have hwrite : (Call.write id data, Reply.accepted (some data.length)) ∈ calls :=
      hsent (by simp [show sent = _ from h])
    simp only [Channel.tookAll, List.any_eq_true]
    exact ⟨_, hwrite, by simp⟩
  | serial c =>
    obtain ⟨told, htold, hcalls⟩ := h
    have hwrite : (Call.portWrite data, Reply.accepted told) ∈ calls := hsent (by simp [hcalls])
    have hflush : (Call.portFlush, Reply.done) ∈ calls := hsent (by simp [hcalls])
    have hall : told.getD data.length = (data.length : Int) := (Option.some.inj htold).symm
    simp only [Channel.tookAll, Bool.and_eq_true, List.any_eq_true]
    exact ⟨⟨_, hwrite, by simp [hall]⟩, _, hflush, rfl⟩

theorem Line.Full.tookAll [TimeScale T] {l : Line} {data : Bytes} {calls : List (Call T × Reply)}
    (h : l.Full data calls) : l.channel.tookAll calls = true := by
  obtain ⟨wire, turning, hwire, -, rfl⟩ := h
  obtain ⟨settling, sent, hold, holding, -, htook, -, -, rfl⟩ := hwire
  refine htook.tookAll fun call hcall => ?_
  simp [hcall]

theorem Drive.Commanded.tookAll [TimeScale T] {α : Type} {d : Drive T} {x : Except Fault Command}
    {b : Bench T} {es : List (Entry T)} {r : Except Fault α} (h : d.Commanded x b es r)
    (hr : ∃ a, r = .ok a) : d.line.channel.tookAll (es.map Entry.did) = true := by
  obtain ⟨data, -, hfull⟩ := h.full hr
  exact hfull.tookAll

theorem DriveStep.Keeps.tookAll {α : Type} {d : Drive Float} {b : Bench Float}
    {es : List (Entry Float)} {r : Except Fault α} {step : DriveStep} {on : Bool}
    (h : step.Keeps d b es r) (hstep : step.order? = some on) (hr : ∃ a, r = .ok a) :
    d.line.channel.tookAll (es.map Entry.did) = true := by
  cases step with unfold Keeps at h
  | start => exact h.tookAll hr
  | stop => exact h.tookAll hr
  | changeSpeed rpm => cases hstep
  | readSpeed wait => cases hstep
  | readReport wait resync => cases hstep
  | state => cases hstep

def Command.hasRun (f : Command) : Bool := NamedBit.isSet ⟨"RUN", 0⟩ f.control

namespace Moment

/-- Whether the channel of a drive took a byte string in full. -/
def taken (n : Nat) (m : Moment) : Bool :=
  (m.before.drives[n]?).elim false fun d => d.line.channel.tookAll (m.calls.map Entry.did)

/-- The state that the spindle was ordered into by a frame that the channel took in full. -/
def told? (n : Nat) (m : Moment) : Option Bool := if m.taken n then m.order? n else none

/-- An order that returns was taken in full. -/
theorem taken_of_returned {n : Nat} {m : Moment} {on : Bool} (hreturned : m.returned = true)
    (horder : m.order? n = some on) : m.taken n = true := by
  obtain ⟨step, hasked, hstep⟩ := Option.bind_eq_some_iff.mp horder
  obtain ⟨hdrive, d, hd⟩ := Session.asked?_eq_some hasked
  obtain ⟨s, x⟩ := m
  obtain rfl : x = .drive n step := hdrive
  have hkeeps := Session.step_disciplined s (.drive n step) d hd
  have htaken := hkeeps.tookAll hstep (outcome_of_returned hreturned)
  have hd' : s.drives[n]? = some d := hd
  simp [taken, hd', htaken]

theorem settled?_eq (n : Nat) (m : Moment) :
    m.settled? n = if m.returned then m.told? n else none := by
  unfold settled? told?
  by_cases hreturned : m.returned = true
  · cases horder : m.order? n with
    | none => simp
    | some on => simp [hreturned, taken_of_returned hreturned horder]
  · simp [hreturned]

/-- The byte strings that a step hands on to set the speed of a drive. -/
def speeds (n : Nat) (m : Moment) : List Bytes :=
  match m.asked? n with
  | some (.changeSpeed _) => m.handed
  | _ => []

end Moment

namespace Session

def lastTold (n : Nat) (ms : List Moment) : Option Bool :=
  (ms.filterMap (Moment.told? n)).getLast?

/-- The state that the last order that was taken in full was for, if that order hangs. -/
def hanging? (n : Nat) (ms : List Moment) : Option Bool :=
  ((ms.filter fun m => (m.told? n).isSome).getLast?).bind fun m =>
    if m.returned then none else m.told? n

/-- The spindle was last told what the drive counts, except by an order that hangs. -/
theorem lastTold_eq (n : Nat) (ms : List Moment) (on : Bool) :
    (lastTold n ms).getD on = (hanging? n ms).getD ((lastSettled n ms).getD on) := by
  -- From the end: the last moment that told the spindle something decides all three.
  induction ms using List.reverseRecOn with
  | nil => rfl
  | append_singleton ms m ih =>
    unfold lastTold hanging? lastSettled at ih ⊢
    cases htold : m.told? n with
    | none => simpa [htold, Moment.settled?_eq] using ih
    | some on' =>
      by_cases hreturned : m.returned = true
      · simp [htold, hreturned, Moment.settled?_eq]
      · simp [htold, hreturned, Moment.settled?_eq]

theorem hasRun_speedKeys (on : Bool) {f : Command} (h : f.control = speedKeys on) :
    f.hasRun = on := by
  rw [Command.hasRun, h]
  cases on <;> decide

theorem hasRun_of_speed {m : Moment} {n : Nat} {data : Bytes} (hdata : data ∈ m.speeds n) :
    ∃ f, Command.ofBytes data = .ok f ∧ f.hasRun = m.before.isOn n := by
  unfold Moment.speeds at hdata
  split at hdata
  · rename_i rpm hasked
    obtain ⟨-, d, hd⟩ := asked?_eq_some hasked
    obtain ⟨f, hread, -, hcontrol⟩ := tells_of_handed hasked hd hdata
    have hon : m.before.isOn n = d.isOn := by simp [isOn, hd]
    exact ⟨f, hread, hon ▸ hasRun_speedKeys d.isOn hcontrol⟩
  · simp at hdata

/-- Over any run, with any failures: the spindle was last told to be as its drive stands, unless an
order hangs. So a speed carries the run key as the spindle was last told, exactly when no order
hangs that told it otherwise than its drive stands. -/
theorem history_run_key (s : Session) (steps : List Step) (n : Nat) :
    (lastTold n (s.history steps)).getD (s.isOn n) =
        (hanging? n (s.history steps)).getD ((s.run steps).2.isOn n) ∧
      ∀ earlier m later, s.history steps = earlier ++ m :: later →
        ∀ data ∈ m.speeds n, ∃ f, Command.ofBytes data = .ok f ∧
          (f.hasRun = (lastTold n earlier).getD (s.isOn n) ↔
            ∀ on, hanging? n earlier = some on → on = m.before.isOn n) := by
  refine ⟨by rw [lastTold_eq, ← isOn_run], ?_⟩
  intro earlier m later hhistory data hdata
  obtain ⟨f, hread, hrun⟩ := hasRun_of_speed hdata
  refine ⟨f, hread, ?_⟩
  rw [hrun, lastTold_eq, ← isOn_before hhistory]
  cases hanging? n earlier with
  | none => simp
  | some on => simp [eq_comm]

/-- A start, then a stop that is taken in full before its signal to receive fails, then a speed. -/
def stopThenSpeed : List Step :=
  [.newLine (.scripted 0) (.scripted 0) (some (.whole 1)) .delay, .newDrive 0 none none,
    .drive 0 .start, .adjust [.plan (.disengage 0) (.after 0 (.raised .system "stuck"))],
    .drive 0 .stop, .adjust [.plan (.disengage 0) .never], .drive 0 (.changeSpeed 1500)]

/-- The spindle was told to stop, and the speed comes with the run key all the same. -/
theorem speed_restarts_stopped :
    let history := (begin 0 0 1 [] []).history stopThenSpeed
    lastTold 0 (history.take 6) = some false ∧
      ((history.drop 6).flatMap (Moment.speeds 0)).map
        (fun data => (Command.ofBytes data).toOption.map Command.hasRun) = [some true] := by
  decide

end Session
end SpindleLink
