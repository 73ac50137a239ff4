import SpindleLink.Session
import SpindleLink.Proofs.DriveTraffic

/-! The bus over whole runs. A watcher follows the calls of one line and refuses a write outside two
signals, a reading between them, a second write, and a signal that meets another. Whatever fails in
whatever order of steps, it refuses nothing and ends where it began: receiving. -/

namespace SpindleLink

/-- What a watcher of the calls of one line knows: the bus is driven, and whether bytes were written
since, or the signal to drive it failed. -/
inductive Bus
  | receiving
  | driving (written : Bool)
  | refused
  deriving DecidableEq

def Bus.next? {T : Type} (bus : Bus) : Call T → Option Bus
  | .write _ _ | .portWrite _ => if bus = .driving false then some (.driving true) else none
  | .portFlush => if bus = .receiving ∨ bus = .refused then none else some bus
  | .hasWaiting _ | .read _ _ | .portWaiting | .portTimeout _ | .portRead =>
    if bus = .receiving then some bus else none
  | .delay _ | .sleep _ => if bus = .refused then none else some bus
  | _ => none

namespace Bus

variable {T : Type} {bus : Bus} {c : Call T}

theorem next?_receiving (h : bus.next? c = some .receiving) : bus = .receiving := by
  cases bus with
  | receiving => rfl
  | driving written => cases c <;> simp [next?] at h
  | refused => cases c <;> simp [next?] at h

theorem next?_pause (h : c.isPause = true) (hbus : bus ≠ .refused) : bus.next? c = some bus := by
  cases c with
  | delay ms => exact if_neg hbus
  | sleep t => exact if_neg hbus
  | _ => cases h

theorem next?_input (h : c.isInput = true) : receiving.next? c = some .receiving := by
  cases c <;> first | rfl | cases h

theorem next?_write (h : c.isWrite = true) : (driving false).next? c = some (.driving true) := by
  cases c <;> first | rfl | cases h

end Bus

namespace Line

variable {T : Type}

/-- Follows one call; none refuses it. -/
def watch (l : Line) (bus : Bus) (e : Entry T) : Option Bus :=
  match l.direction.signal? e.call with
  | some true =>
    if bus = .receiving then some (if e.failed then .refused else .driving false) else none
  | some false => some .receiving
  | none => bus.next? e.call

def level (l : Line) (high : Bool) (e : Entry T) : Bool :=
  match l.direction.signal? e.call with
  | some up => if e.failed then high else up
  | none => high

/-- The watcher sees it when the signal is high. -/
theorem level_of_watch {l : Line} {es : List (Entry T)} {bus bus' : Bus} {high : Bool}
    (hwatch : es.foldlM l.watch bus = some bus') (hlow : bus = .receiving → high = false)
    (hgood : ∀ e ∈ es, l.direction.signal? e.call = some false → e.failed = false) :
    bus' = .receiving → es.foldl l.level high = false := by
  induction es generalizing bus high with
  | nil =>
    obtain rfl := Option.some.inj hwatch
    exact hlow
  | cons e es ih =>
    rw [List.foldlM_cons] at hwatch
    obtain ⟨mid, hfirst, hrest⟩ := Option.bind_eq_some_iff.mp hwatch
    have hgood' : ∀ e' ∈ es, l.direction.signal? e'.call = some false → e'.failed = false :=
      fun e' he' => hgood e' (List.mem_cons_of_mem e he')
    apply ih hrest ?_ hgood'
    intro hmid
    subst hmid
    unfold watch at hfirst
    unfold level
    rcases hsignal : l.direction.signal? e.call with _ | _ | _
    · rw [hsignal] at hfirst
      exact hlow (Bus.next?_receiving hfirst)
    · rw [hgood e List.mem_cons_self hsignal]
      rfl
    · rw [hsignal] at hfirst
      simp only at hfirst
      split at hfirst
      · split at hfirst <;> simp at hfirst
      · cases hfirst

theorem watch_of_not_signal {l : Line} {e : Entry T} (h : e.call.isSignal = false) (bus : Bus) :
    l.watch bus e = bus.next? e.call := by
  rw [watch, DirectionLine.signal?_eq_none h]

theorem watch_pause {l : Line} {e : Entry T} (h : e.call.isPause = true) {bus : Bus}
    (hbus : bus ≠ .refused) : l.watch bus e = some bus := by
  rw [watch_of_not_signal (Call.isSignal_of_isPause h), Bus.next?_pause h hbus]

theorem watch_input {l : Line} {e : Entry T} (h : e.call.isInput = true) :
    l.watch .receiving e = some .receiving := by
  rw [watch_of_not_signal (Call.isSignal_of_isInput h), Bus.next?_input h]

theorem watch_write {l : Line} {e : Entry T} (h : e.call.isWrite = true) :
    l.watch (.driving false) e = some (.driving true) := by
  rw [watch_of_not_signal (Call.isSignal_of_isWrite h), Bus.next?_write h]

theorem watch_up {l : Line} {e : Entry T} (h : e.call = l.direction.signalCall true) :
    l.watch .receiving e = some (if e.failed then .refused else .driving false) := by
  rw [watch, h, DirectionLine.signal?_signalCall]
  rfl

theorem watch_down {l : Line} {e : Entry T} (h : e.call = l.direction.signalCall false)
    (bus : Bus) : l.watch bus e = some .receiving := by
  rw [watch, h, DirectionLine.signal?_signalCall]

theorem watch_steady {l : Line} {bus : Bus} {es : List (Entry T)}
    (h : ∀ e ∈ es, l.watch bus e = some bus) : es.foldlM l.watch bus = some bus := by
  induction es with
  | nil => rfl
  | cons e es ih =>
    rw [List.foldlM_cons, h e List.mem_cons_self]
    exact ih fun e' he' => h e' (List.mem_cons_of_mem e he')

theorem watch_held {l : Line} {data : Bytes} {es : List (Entry T)} {written : Bool}
    (hcalls : ∀ e ∈ es, e.call.isPause = true ∨ l.channel.Sends data e.call)
    (honce : es.countP (·.call.isWrite) ≤ if written then 0 else 1) :
    ∃ written', es.foldlM l.watch (.driving written) = some (.driving written') := by
  induction es generalizing written with
  | nil => exact ⟨written, rfl⟩
  | cons e es ih =>
    have hrest : ∀ e' ∈ es, e'.call.isPause = true ∨ l.channel.Sends data e'.call :=
      fun e' he' => hcalls e' (List.mem_cons_of_mem e he')
    rw [List.foldlM_cons]
    by_cases hwrite : e.call.isWrite = true
    · rw [List.countP_cons, if_pos hwrite] at honce
      cases written with
      | true => exact absurd honce (Nat.not_succ_le_zero _)
      | false =>
        rw [watch_write hwrite]
        exact ih hrest (Nat.le_of_succ_le_succ honce)
    · rw [List.countP_cons, if_neg hwrite] at honce
      have hsame : l.watch (.driving written) e = some (.driving written) := by
        rcases hcalls e List.mem_cons_self with hpause | hsends
        · exact watch_pause hpause (by simp)
        · have hflush := hsends.isWrite.resolve_left hwrite
          rw [watch_of_not_signal (hflush ▸ rfl), hflush]
          rfl
      rw [hsame]
      exact ih hrest honce

theorem Framed.watch {l : Line} {data : Bytes} {es : List (Entry T)} (h : l.Framed data es) :
    es.foldlM l.watch .receiving = some .receiving := by
  obtain ⟨up, held, down, after, rfl, hup, hdown, hheld, honce, hrefused, hafter⟩ := h
  have hpauses : after.foldlM l.watch .receiving = some .receiving :=
    watch_steady fun e he => watch_pause (hafter e he) (by simp)
  have hlower (bus : Bus) : (down :: after).foldlM l.watch bus = some .receiving := by
    rw [List.foldlM_cons, watch_down hdown]
    exact hpauses
  rw [List.cons_append, List.foldlM_cons, watch_up hup]
  cases hfailed : up.failed with
  | true =>
    rw [hrefused hfailed]
    exact hlower .refused
  | false =>
    obtain ⟨written, hwire⟩ : ∃ written, held.foldlM l.watch (.driving false) =
        some (.driving written) := watch_held hheld honce
    simp only [Option.bind_eq_bind, Option.bind_some, Bool.false_eq_true, if_false,
      List.foldlM_append, hwire]
    exact hlower _

theorem Transmitted.watch [TimeScale T] {α : Type} {l : Line} {data : Bytes} {b : Bench T}
    {es : List (Entry T)} {r : Except Fault α} (h : l.Transmitted data b es r) :
    es.foldlM l.watch .receiving = some .receiving := by
  by_cases hreleased : l.isReleased b = true
  · rw [h.released hreleased]
    rfl
  · by_cases hlive : l.direction.isLive b = true
    · exact (h.framed (Bool.eq_false_iff.mpr hreleased) hlive).watch
    · rw [h.dead (Bool.eq_false_iff.mpr hlive)]
      rfl

theorem watch_receives {l : Line} {es : List (Entry T)}
    (h : ∀ e ∈ es, l.channel.Receives e.call) : es.foldlM l.watch .receiving = some .receiving :=
  watch_steady fun e he => watch_input (h e he).isInput

theorem watch_lowers {l : Line} {es : List (Entry T)}
    (h : ∀ e ∈ es, e.call = l.direction.signalCall false) :
    es.foldlM l.watch .receiving = some .receiving :=
  watch_steady fun e he => watch_down (h e he) _

end Line

theorem Drive.Commanded.watch {T : Type} [TimeScale T] {α : Type} {d : Drive T}
    {x : Except Fault Command} {b : Bench T} {es : List (Entry T)} {r : Except Fault α}
    (h : d.Commanded x b es r) : es.foldlM d.line.watch .receiving = some .receiving := by
  unfold Commanded at h
  cases hpayload : payload? x with
  | some data =>
    rw [hpayload] at h
    exact h.watch
  | none =>
    rw [hpayload] at h
    rw [h.1]
    rfl

/-- What a line keeps to in a step: it transmits as it should, is released by the signal to receive
alone, and otherwise asks its channel for bytes at most. -/
def LineStep.Keeps (l : Line) (b : Bench Float) (es : List (Entry Float))
    (r : Except Fault Outcome) : LineStep → Prop
  | .send data => l.Transmitted data b es r
  | .release => ∀ e ∈ es, e.call = l.direction.signalCall false
  | .receive _ _ _ | .discardWaiting => ∀ e ∈ es, l.channel.Receives e.call
  | .holdTime _ | .byteTime => es = []

/-- What a drive keeps to in a step: it transmits a command once, or asks its channel for bytes. -/
def DriveStep.Keeps {α : Type} (d : Drive Float) (b : Bench Float) (es : List (Entry Float))
    (r : Except Fault α) : DriveStep → Prop
  | .start => d.Commanded (Command.start d.rotation) b es r
  | .stop => d.Commanded Command.stop b es r
  | .changeSpeed rpm => d.Commanded (Command.speed rpm (speedKeys d.isOn)) b es r
  | .readSpeed _ | .readReport _ _ => ∀ e ∈ es, d.line.channel.Receives e.call
  | .state => es = []

theorem DriveStep.Keeps.map {α β : Type} {d : Drive Float} {b : Bench Float}
    {es : List (Entry Float)} {r : Except Fault α} {step : DriveStep} (h : step.Keeps d b es r)
    (f : α → β) : step.Keeps d b es (r.map f) := by
  cases step with unfold Keeps at h ⊢
  | start => exact h.map f
  | stop => exact h.map f
  | changeSpeed rpm => exact h.map f
  | readSpeed wait => exact h
  | readReport wait resync => exact h
  | state => exact h

theorem LineStep.Keeps.watch {l : Line} {b : Bench Float} {es : List (Entry Float)}
    {r : Except Fault Outcome} {step : LineStep} (h : step.Keeps l b es r) :
    es.foldlM l.watch .receiving = some .receiving := by
  cases step with unfold Keeps at h
  | send data => exact h.watch
  | release => exact Line.watch_lowers h
  | receive n wait flush => exact Line.watch_receives h
  | discardWaiting => exact Line.watch_receives h
  | holdTime length =>
    rw [h]
    rfl
  | byteTime =>
    rw [h]
    rfl

theorem DriveStep.Keeps.watch {α : Type} {d : Drive Float} {b : Bench Float}
    {es : List (Entry Float)} {r : Except Fault α} {step : DriveStep} (h : step.Keeps d b es r) :
    es.foldlM d.line.watch .receiving = some .receiving := by
  cases step with unfold Keeps at h
  | start => exact h.watch
  | stop => exact h.watch
  | changeSpeed rpm => exact h.watch
  | readSpeed wait => exact Line.watch_receives h
  | readReport wait resync => exact Line.watch_receives h
  | state =>
    rw [h]
    rfl

/-- A step at the session before it. -/
structure Moment where
  before : Session
  step : Step

namespace Moment

def record (m : Moment) : StepRecord := (m.before.step m.step).1

def after (m : Moment) : Session := (m.before.step m.step).2

def calls (m : Moment) : List (Entry Float) := m.record.calls

/-- The line that a step is about: the one that is made, asked, or under the drive that is asked. -/
def line? (m : Moment) : Option Line :=
  match m.step with
  | .newLine _ _ _ _ => m.after.lines[m.before.lines.length]?
  | .line number _ => m.before.lines[number]?
  | .drive number _ => m.before.drives[number]?.map Drive.line
  | _ => none

def Disciplined (m : Moment) : Prop :=
  match m.step with
  | .newLine _ direction _ _ => ∀ e ∈ m.calls, e.call = direction.signalCall false
  | .line number step =>
    ∀ l, m.before.lines[number]? = some l →
      step.Keeps l m.before.station.bench m.calls m.record.outcome
  | .drive number step =>
    ∀ d, m.before.drives[number]? = some d →
      step.Keeps d m.before.station.bench m.calls m.record.outcome
  | _ => True

end Moment

namespace Session

/-- The steps of a run, each with the session that it met. -/
def history (s : Session) : List Step → List Moment
  | [] => []
  | x :: xs => ⟨s, x⟩ :: (s.step x).2.history xs

theorem run_records (s : Session) (steps : List Step) :
    (s.run steps).1 = (s.history steps).map Moment.record := by
  induction steps generalizing s with
  | nil => rfl
  | cons x xs ih =>
    rw [run, history, List.map_cons, ← ih]
    rfl

theorem lineStep_emits (l : Line) (step : LineStep) (b : Bench Float) :
    (lineStep l step).Emits b fun es r => step.Keeps l b es r := by
  cases step with
  | send data =>
    exact .map ((l.send_transmitted data b).mono fun es r h => h.map fun _ => Outcome.nothing)
  | receive n wait flush => exact (l.receive_makes n wait flush).map b
  | holdTime length => exact .map (.ofExcept rfl)
  | byteTime => exact .map (.ofExcept rfl)
  | discardWaiting => exact l.discardWaiting_makes.map b
  | release => exact Act.Makes.bind l.release_makes (fun _ => .pure _) b

theorem driveStep_emits (d : Drive Float) (step : DriveStep) (b : Bench Float) :
    (driveStep d step).Emits b fun es r => step.Keeps d b es r := by
  cases step with
  | start => exact .map ((d.start_emits b).mono fun es r h => h.map fun d => (d, Outcome.nothing))
  | stop => exact .map ((d.stop_emits b).mono fun es r h => h.map fun d => (d, Outcome.nothing))
  | changeSpeed rpm =>
    exact .map ((d.changeSpeed_emits rpm b).mono fun es r h => h.map fun _ => (d, Outcome.nothing))
  | readSpeed wait => exact Act.Makes.bind (d.readSpeed_makes wait) (fun _ => .pure _) b
  | readReport wait resync =>
    exact Act.Makes.bind (d.readReport_makes wait resync) (fun _ => .pure _) b
  | state => exact .pure rfl

theorem calls_step {s : Session} {x : Step} {es : List (Entry Float)}
    (h : s.station.bench.Grew (perform x s).2.station.bench es) : (s.step x).1.calls = es :=
  h.drop

theorem perform_line {s : Session} {number : Nat} {l : Line} (hl : s.lines[number]? = some l)
    (step : LineStep) : perform (.line number step) s = onBench (lineStep l step) s := by
  rw [perform, Act.bind_ok (Act.observe_apply _ s), hl]

theorem onBench_eq {α : Type} {x : Act (Bench Float) α} {s : Session} {r : Except Fault α}
    {b : Bench Float} (h : x s.station.bench = (r, b)) :
    onBench x s = (r, { s with station := { s.station with bench := b } }) := by
  simp only [onBench, onStation, Station.onBench, Act.within, h]

theorem perform_drive {s : Session} {number : Nat} {d : Drive Float}
    (hd : s.drives[number]? = some d) (step : DriveStep) :
    (perform (.drive number step) s).1 =
        ((driveStep d step) s.station.bench).1.map Prod.snd ∧
      (perform (.drive number step) s).2.station.bench =
        ((driveStep d step) s.station.bench).2 := by
  rw [perform, Act.bind_ok (Act.observe_apply _ s), hd]
  simp only
  rcases hrun : driveStep d step s.station.bench with ⟨f | ⟨d', outcome⟩, b'⟩
  · rw [Act.bind_error (onBench_eq hrun)]
    exact ⟨rfl, rfl⟩
  · rw [Act.bind_ok (onBench_eq hrun)]
    exact ⟨rfl, rfl⟩

theorem perform_newLine (s : Session) (channel : Channel) (direction : DirectionLine)
    (byteTime : Option Number) (pacing : Pacing) :
    ∃ es, s.station.bench.Grew
        (perform (.newLine channel direction byteTime pacing) s).2.station.bench es ∧
      (∀ e ∈ es, e.call = direction.signalCall false) ∧
      ∀ l, (perform (.newLine channel direction byteTime pacing) s).2.lines[s.lines.length]? =
        some l → l.direction = direction := by
  rw [perform]
  cases htime : byteTime.elim (defaultByteTime channel) .ok with
  | error f =>
    rw [Act.bind_error (Act.ofExcept_apply _ s)]
    exact ⟨[], .refl _, by simp, by simp⟩
  | ok t =>
    rw [Act.bind_ok (Act.ofExcept_apply _ s)]
    obtain ⟨es, hgrew, hes⟩ := Line.make_makes channel direction t pacing s.station.bench
    refine ⟨es, ?_⟩
    rcases hmake : Line.make channel direction t pacing s.station.bench with ⟨f | l, b'⟩
    · rw [hmake] at hgrew
      rw [Act.bind_error (onBench_eq hmake)]
      exact ⟨hgrew, hes, by simp⟩
    · rw [hmake] at hgrew
      rw [Act.bind_ok (onBench_eq hmake)]
      refine ⟨hgrew, hes, ?_⟩
      intro l' hl'
      have hmade : (s.lines ++ [l])[s.lines.length]? = some l' := hl'
      rw [List.getElem?_concat_length] at hmade
      obtain rfl := Option.some.inj hmade
      exact Line.direction_of_make (congrArg Prod.fst hmake)

theorem step_disciplined (s : Session) (x : Step) : Moment.Disciplined ⟨s, x⟩ := by
  cases x with
  | newLine channel direction byteTime pacing =>
    obtain ⟨es, hgrew, hes, -⟩ := perform_newLine s channel direction byteTime pacing
    have hcalls := calls_step hgrew
    intro e he
    exact hes e (hcalls ▸ he)
  | line number step =>
    intro l hl
    obtain ⟨es, hgrew, hkeeps⟩ := lineStep_emits l step s.station.bench
    have hperform := perform_line hl step
    have hcalls : (s.step (.line number step)).1.calls = es := by
      apply calls_step
      rw [hperform]
      exact hgrew
    have houtcome : (s.step (.line number step)).1.outcome =
        (lineStep l step s.station.bench).1 := congrArg Prod.fst hperform
    rw [← houtcome, ← hcalls] at hkeeps
    exact hkeeps
  | drive number step =>
    intro d hd
    obtain ⟨es, hgrew, hkeeps⟩ := driveStep_emits d step s.station.bench
    obtain ⟨hresult, hbench⟩ := perform_drive hd step
    have hcalls : (s.step (.drive number step)).1.calls = es := by
      apply calls_step
      rw [hbench]
      exact hgrew
    have houtcome : (s.step (.drive number step)).1.outcome =
        (driveStep d step s.station.bench).1.map Prod.snd := hresult
    have hkeeps' := hkeeps.map Prod.snd
    rw [← houtcome, ← hcalls] at hkeeps'
    exact hkeeps'
  | _ => trivial

/-- Each step that is about a line passes the watcher of the line. -/
theorem step_watched {m : Moment} {l : Line} (h : m.line? = some l) :
    m.calls.foldlM l.watch .receiving = some .receiving := by
  obtain ⟨s, x⟩ := m
  have hdisciplined := step_disciplined s x
  cases x with
  | newLine channel direction byteTime pacing =>
    obtain ⟨-, -, -, hdirection⟩ := perform_newLine s channel direction byteTime pacing
    have hline : l.direction = direction := hdirection l h
    apply Line.watch_lowers
    rw [hline]
    exact hdisciplined
  | line number step => exact (hdisciplined l h).watch
  | drive number step =>
    obtain ⟨d, hd, rfl⟩ := Option.map_eq_some_iff.mp h
    exact (hdisciplined d hd).watch
  | adjust changes => cases h
  | newDrive number rotation readTimeout => cases h
  | channel c step => cases h
  | direction d step => cases h
  | tool step => cases h

def callsOn (l : Line) (ms : List Moment) : List (Entry Float) :=
  (ms.filter fun m => m.line? = some l).flatMap Moment.calls

theorem callsOn_watched (l : Line) (ms : List Moment) :
    (callsOn l ms).foldlM l.watch .receiving = some .receiving := by
  induction ms with
  | nil => rfl
  | cons m ms ih =>
    by_cases hm : m.line? = some l
    · have hcalls : callsOn l (m :: ms) = m.calls ++ callsOn l ms := by
        simp [callsOn, hm]
      rw [hcalls, List.foldlM_append, step_watched hm]
      exact ih
    · have hcalls : callsOn l (m :: ms) = callsOn l ms := by
        simp [callsOn, hm]
      rw [hcalls]
      exact ih

/-- Over any run, with any failures: each step keeps to its discipline; the calls on a line pass its
watcher, which ends receiving; and while no signal to receive fails, the signal is low behind every
step. -/
theorem history_disciplined (s : Session) (steps : List Step) :
    (s.run steps).1 = (s.history steps).map Moment.record ∧
      (∀ m ∈ s.history steps, m.Disciplined) ∧
      ∀ l : Line,
        (callsOn l (s.history steps)).foldlM l.watch .receiving = some .receiving ∧
          ((∀ e ∈ callsOn l (s.history steps),
              l.direction.signal? e.call = some false → e.failed = false) →
            (callsOn l (s.history steps)).foldl l.level false = false) := by
  refine ⟨run_records s steps, ?_, ?_⟩
  · induction steps generalizing s with
    | nil => simp [history]
    | cons x xs ih =>
      intro m hm
      rcases List.mem_cons.mp hm with rfl | hm
      · exact step_disciplined s x
      · exact ih _ m hm
  · intro l
    have hwatched := callsOn_watched l (s.history steps)
    exact ⟨hwatched, fun hgood => Line.level_of_watch hwatched (fun _ => rfl) hgood rfl⟩

end Session
end SpindleLink
