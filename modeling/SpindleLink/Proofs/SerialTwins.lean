import SpindleLink.Proofs.Arrival
import SpindleLink.Proofs.Holdings
import SpindleLink.Proofs.LineTraffic

/-! A serial port refines a plain byte channel. A line over a port with its modem line and one over
a script, alike in all else, give the same outcomes, make the same notes and move the clock alike.
The calls to the port are the rendering of those to the script: a port is told a wait only when it
is another than before, and a write is waited for. -/

namespace SpindleLink

variable {T : Type}

/-- Two lines that are alike but for their channels and direction lines: one over a serial port with
its modem line, of either polarity, the other over a script. -/
structure Twins where
  port : SerialChannel
  activeHigh : Bool
  modem : Nat
  serialId : Nat
  script : Nat
  signal : Nat
  scriptedId : Nat
  byteTime : Number
  pacing : Pacing

def Call.level? : Call T → Option Bool
  | .portRts level => some level
  | _ => none

/-- The level of the modem line, by the last call for it. -/
def Bench.rtsLevel (b : Bench T) : Option Bool := (b.trace.filterMap (·.call.level?)).getLast?

theorem Bench.ask_of_clear {α : Type} {c : Call T} {reply : α → Reply} {answer : Bench T → α}
    {b : Bench T} {a : α} (h : (b.plans.get c.point).current = none)
    (ha : answer (b.counted c) = a) :
    Bench.perform c reply (fun b => (answer b, b)) b =
      (.ok a, (b.counted c).record c (reply a)) := by
  rw [Bench.perform_of_clear h, ← ha]
  rfl

namespace Twins

def serial (t : Twins) : Line :=
  ⟨t.serialId, .serial t.port, .rts t.modem t.port t.activeHigh, t.byteTime, t.pacing⟩

def scripted (t : Twins) : Line :=
  ⟨t.scriptedId, .scripted t.script, .scripted t.signal, t.byteTime, t.pacing⟩

/-- The benches of the two lines are alike: nothing fails on either, and they hold the same bytes at
the same time. -/
structure Matched (t : Twins) (b b' : Bench T) : Prop where
  clear : ∀ p, (b.plans.get p).Clear
  clear' : ∀ p, (b'.plans.get p).Clear
  opened : t.port.connected b = true
  source_eq : b'.scripts.get t.script = b.device
  real : b.device.phantom = false
  told : b.device.acceptance ≠ .untold
  clock_eq : b'.clock = b.clock

namespace Matched

variable {t : Twins} {b b' : Bench T}

theorem counted (h : t.Matched b b') (c c' : Call T) : t.Matched (b.counted c) (b'.counted c') :=
  { h with
    clear := fun p => Bench.plans_counted_clear (h.clear p)
    clear' := fun p => Bench.plans_counted_clear (h.clear' p) }

theorem port (h : t.Matched b b') : ∃ p, t.port.port? b = some p ∧ p.isOpen = true := by
  obtain ⟨p, hp⟩ := Option.isSome_iff_exists.mp h.opened
  exact ⟨p, hp, (Option.filter_eq_some_iff.mp hp).2⟩

/-- The answer of a source to a write tells a count, on the port as on the script. -/
theorem answers (h : t.Matched b b') (length : Nat) :
    ∃ count, b.device.acceptance.answer length = some count ∧
      (b'.scripts.get t.script).acceptance.answer length = some count := by
  rw [h.source_eq]
  cases hacceptance : b.device.acceptance with
  | all => exact ⟨_, rfl, rfl⟩
  | count n => exact ⟨n, rfl, rfl⟩
  | untold => exact absurd hacceptance h.told

end Matched

/-- The two lines are held on benches that are alike, and the signal of the serial line is high or
low. -/
structure Linked (t : Twins) (high : Bool) (b b' : Bench T) : Prop extends t.Matched b b' where
  held : t.serial.isReleased b = false
  held' : t.scripted.isReleased b' = false
  level : b.rtsLevel = some (high == t.activeHigh)

namespace Linked

variable {t : Twins} {high : Bool} {b b' : Bench T}

theorem counted (h : t.Linked high b b') (c c' : Call T) :
    t.Linked high (b.counted c) (b'.counted c') :=
  { h with toMatched := h.toMatched.counted c c' }

theorem traced (h : t.Linked high b b') {es : List (Entry T)}
    (hes : ∀ e ∈ es, e.call.level? = none) (trace' : List (Entry T)) :
    t.Linked high { b with trace := b.trace ++ es } { b' with trace := trace' } :=
  { h with
    level := by
      rw [← h.level, Bench.rtsLevel, Bench.rtsLevel, List.filterMap_append,
        List.filterMap_eq_nil_iff.mpr hes, List.append_nil] }

theorem take (h : t.Linked high b b') {source : ByteSource T} (hreal : source.phantom = false)
    (htold : source.acceptance ≠ .untold) (now : T) :
    t.Linked high { b with device := source, now := now }
      { b' with scripts := b'.scripts.set t.script source, now := now } :=
  { h with
    source_eq := Table.get_set_self _ _ _
    real := hreal
    told := htold
    clock_eq := congrArg (fun c : Clock T => { c with now := now }) h.clock_eq }

theorem setPort (h : t.Linked high b b') {p : Port T} (hopen : p.isOpen = true) :
    t.Linked high (t.port.setPort (some p) b) b' :=
  { h with
    opened := by
      simp [SerialChannel.connected, SerialChannel.port?, SerialChannel.setPort, hopen] }

end Linked

section Calls

variable [TimeScale T]

/-- The calls to the port that stand for a call of the scripted line, by the wait that the port was
last told. -/
def renderCall (t : Twins) (told : Option (Wait T)) : Call T → List (Call T)
  | .engage _ => [.portRts t.activeHigh]
  | .disengage _ => [.portRts !t.activeHigh]
  | .write _ data => [.portWrite data, .portFlush]
  | .hasWaiting _ => [.portWaiting]
  | .read _ wait =>
    if Wait.sameLimit told (wait.map .time) then [.portRead] else [.portTimeout wait, .portRead]
  | c => [c]

/-- The wait that the port was last told behind a call. -/
def toldBy (told : Option (Wait T)) : Call T → Option (Wait T)
  | .read _ wait => if Wait.sameLimit told (wait.map .time) then told else wait.map .time
  | _ => told

def render (t : Twins) (told : Option (Wait T)) : List (Call T) → List (Call T)
  | [] => []
  | c :: cs => t.renderCall told c ++ t.render (toldBy told c) cs

theorem render_append (t : Twins) (told : Option (Wait T)) (cs cs' : List (Call T)) :
    t.render told (cs ++ cs') = t.render told cs ++ t.render (cs.foldl toldBy told) cs' := by
  induction cs generalizing told with
  | nil => rfl
  | cons c cs ih => rw [List.cons_append, render, render, ih, List.append_assoc, List.foldl_cons]

/-- What was recorded on the two benches since a start, when the port had been told a wait: the
calls to the port render the others, and the notes are the same. -/
def Recorded (t : Twins) (told : Option (Wait T)) (start start' b b' : Bench T) : Prop :=
  ∃ es es' notes, b.trace = start.trace ++ es ∧ b'.trace = start'.trace ++ es' ∧
    es.map Entry.call = t.render told (es'.map Entry.call) ∧
    b.log = start.log ++ notes ∧ b'.log = start'.log ++ notes ∧
    ∀ p, t.port.port? b = some p → p.timeout = (es'.map Entry.call).foldl toldBy told

theorem Recorded.call {t : Twins} {told : Option (Wait T)} {start start' b b' : Bench T}
    (h : t.Recorded told start start' b b') {p : Port T} (hport : t.port.port? b = some p)
    {b₁ b₁' : Bench T} (es : List (Entry T)) (e' : Entry T) (htrace : b₁.trace = b.trace ++ es)
    (htrace' : b₁'.trace = b'.trace ++ [e']) (hlog : b₁.log = b.log) (hlog' : b₁'.log = b'.log)
    (hcalls : es.map Entry.call = t.renderCall p.timeout e'.call) {p₁ : Port T}
    (hport₁ : t.port.port? b₁ = some p₁) (htold₁ : p₁.timeout = toldBy p.timeout e'.call) :
    t.Recorded told start start' b₁ b₁' := by
  obtain ⟨fs, fs', notes, hfs, hfs', hrender, hnotes, hnotes', htold⟩ := h
  refine ⟨fs ++ es, fs' ++ [e'], notes, ?_, ?_, ?_, ?_, ?_, ?_⟩
  · rw [htrace, hfs, List.append_assoc]
  · rw [htrace', hfs', List.append_assoc]
  · rw [List.map_append, List.map_append, render_append, hrender, ← htold p hport, hcalls]
    simp [render]
  · rw [hlog, hnotes]
  · rw [hlog', hnotes']
  · intro p₂ hp₂
    obtain rfl := Option.some.inj (hport₁.symm.trans hp₂)
    rw [List.map_append, List.foldl_append, ← htold p hport, htold₁]
    rfl

end Calls

end Twins

namespace Twins

variable [TimeScale T] {t : Twins} {α β α' β' : Type}

/-- In the same state, with the records since a start. -/
structure Alike (t : Twins) (told : Option (Wait T)) (start start' : Bench T) (high : Bool)
    (b b' : Bench T) : Prop where
  linked : t.Linked high b b'
  recorded : t.Recorded told start start' b b'

/-- Two runs ended alike: both well, with values that are related, or both in the same fault. The
signal has one level behind a good end and one behind a fault. -/
inductive Ended (t : Twins) (told : Option (Wait T)) (start start' : Bench T) (good bad : Bool)
    (R : α → α' → Prop) : Except Fault α × Bench T → Except Fault α' × Bench T → Prop
  | good {a : α} {a' : α'} {b b' : Bench T} (h : R a a')
      (halike : t.Alike told start start' good b b') :
    Ended t told start start' good bad R (.ok a, b) (.ok a', b')
  | bad {b b' : Bench T} (f : Fault) (halike : t.Alike told start start' bad b b') :
    Ended t told start start' good bad R (.error f, b) (.error f, b')

/-- From benches in the same state two actions end alike. -/
def Simulates (t : Twins) (before good bad : Bool) (R : α → α' → Prop) (x : Act (Bench T) α)
    (y : Act (Bench T) α') : Prop :=
  ∀ told start start' b b', t.Alike told start start' before b b' →
    t.Ended told start start' good bad R (x b) (y b')

namespace Simulates

variable {before good bad good' bad' : Bool} {R : α → α' → Prop} {S : β → β' → Prop}
  {x : Act (Bench T) α} {y : Act (Bench T) α'}

theorem pure {a : α} {a' : α'} (h : R a a') :
    t.Simulates before before bad R (Pure.pure a : Act (Bench T) α) (Pure.pure a') :=
  fun _ _ _ _ _ halike => .good h halike

theorem raise (f : Fault) :
    t.Simulates before good before R (Act.raise f : Act (Bench T) α) (Act.raise f) :=
  fun _ _ _ _ _ halike => .bad f halike

theorem ofExcept (r : Except Fault α) :
    t.Simulates before before before Eq (Act.ofExcept r : Act (Bench T) α) (Act.ofExcept r) := by
  intro _ _ _ b b' halike
  cases r with
  | ok a => exact .good rfl halike
  | error f => exact .bad f halike

theorem observe {f : Bench T → α} {g : Bench T → α'}
    (h : ∀ b b', t.Linked before b b' → R (f b) (g b')) :
    t.Simulates before before bad R (Act.observe f) (Act.observe g) :=
  fun _ _ _ b b' halike => .good (h b b' halike.linked) halike

theorem bind {f : α → Act (Bench T) β} {g : α' → Act (Bench T) β'}
    (hx : t.Simulates before good bad R x y)
    (hf : ∀ a a', R a a' → t.Simulates good good' bad S (f a) (g a')) :
    t.Simulates before good' bad S (x >>= f) (y >>= g) := by
  intro told start start' b b' halike
  have h := hx told start start' b b' halike
  rw [Act.bind_apply, Act.bind_apply]
  generalize x b = p at h ⊢
  generalize y b' = p' at h ⊢
  cases h with
  | good hR halike' => exact hf _ _ hR _ _ _ _ _ halike'
  | bad f halike' => exact .bad f halike'

theorem orElse {handle : Fault → Act (Bench T) α} {handle' : Fault → Act (Bench T) α'}
    (hx : t.Simulates before good bad R x y)
    (hhandle : ∀ f, t.Simulates bad good bad' R (handle f) (handle' f)) :
    t.Simulates before good bad' R (x.orElse handle) (y.orElse handle') := by
  intro told start start' b b' halike
  have h := hx told start start' b b' halike
  unfold Act.orElse
  generalize x b = p at h ⊢
  generalize y b' = p' at h ⊢
  cases h with
  | good hR halike' => exact .good hR halike'
  | bad f halike' => exact hhandle f _ _ _ _ _ halike'

theorem relabel (hx : t.Simulates before good bad R x y) (f : Fault → Fault) :
    t.Simulates before good bad R (x.relabel f) (y.relabel f) :=
  hx.orElse fun e => .raise (f e)

theorem attempt {x y : Act (Bench T) α} (hx : t.Simulates before good good Eq x y) :
    t.Simulates before good bad Eq x.attempt y.attempt := by
  intro told start start' b b' halike
  have h := hx told start start' b b' halike
  unfold Act.attempt
  generalize x b = p at h ⊢
  generalize y b' = p' at h ⊢
  cases h with
  | good hR halike' => exact .good (congrArg Except.ok hR) halike'
  | bad f halike' => exact .good rfl halike'

theorem map {f : α → β} {g : α' → β'} (hx : t.Simulates before good bad R x y)
    (hf : ∀ a a', R a a' → S (f a) (g a')) :
    t.Simulates before good bad S (f <$> x) (g <$> y) := by
  rw [map_eq_pure_bind, map_eq_pure_bind]
  exact hx.bind fun a a' hR => .pure (hf a a' hR)

theorem require (p : Prop) [Decidable p] (f : Fault) :
    t.Simulates before before before Eq (Act.require p f : Act (Bench T) Unit)
      (Act.require p f) := by
  rw [Act.require]
  split
  · exact .pure rfl
  · exact .raise f

theorem onlyIf {p : Prop} [Decidable p] {x y : Act (Bench T) Unit}
    (hx : t.Simulates before before bad Eq x y) :
    t.Simulates before before bad Eq (Act.onlyIf p x) (Act.onlyIf p y) := by
  rw [Act.onlyIf, Act.onlyIf]
  split
  · exact hx
  · exact .pure rfl

theorem note (n : Note) :
    t.Simulates (T := T) before before bad Eq (Bench.note n) (Bench.note n) := by
  intro told start start' b b' ⟨h, es, es', notes, hes, hes', hrender, hlog, hlog', htold⟩
  refine .good rfl ⟨{ h with }, es, es', notes ++ [n], hes, hes', hrender, ?_, ?_, htold⟩
  · simp only [hlog, List.append_assoc]
  · simp only [hlog', List.append_assoc]

theorem readClock :
    t.Simulates (T := T) before before bad Eq Bench.readClock Bench.readClock := by
  intro told start start' b b' ⟨h, hrecorded⟩
  have hnow : b'.now = b.now := congrArg Clock.now h.clock_eq
  have hreadings : b'.readings = b.readings := congrArg Clock.readings h.clock_eq
  have hstep : b'.clockStep = b.clockStep := congrArg Clock.step h.clock_eq
  have hclock : b'.now + b'.clockStep b'.readings = b.now + b.clockStep b.readings := by
    rw [hnow, hreadings, hstep]
  refine .good hclock.symm ⟨{ h with clock_eq := ?_ }, hrecorded⟩
  simp only [Bench.clock, hnow, hreadings, hstep]

end Simulates

section Calls

variable {high bad : Bool}

theorem Linked.advance {b b' : Bench T} (h : t.Linked high b b') (s : T) :
    t.Linked high (b.advance s) (b'.advance s) :=
  { h with clock_eq := congrArg (Clock.elapse s) h.clock_eq }

theorem signal_simulates {c : Call T} (hc : c.isPause = true) {f : Bench T → Bench T}
    (hf : f = id ∨ ∃ s, f = Bench.advance s) :
    t.Simulates high high bad Eq (Bench.signal c f) (Bench.signal c f) := by
  intro told start start' b b' ⟨h, hrecorded⟩
  obtain ⟨p, hp, -⟩ := h.port
  have hlevel : c.level? = none := by cases c <;> first | rfl | cases hc
  have hcall : t.renderCall p.timeout c = [c] := by cases c <;> first | rfl | cases hc
  have htold : toldBy p.timeout c = p.timeout := by cases c <;> first | rfl | cases hc
  have hlinked : t.Linked high (f (b.counted c)) (f (b'.counted c)) := by
    rcases hf with rfl | ⟨s, rfl⟩
    · exact h.counted c c
    · exact (h.counted c c).advance s
  have hkeeps (b : Bench T) :
      (f b).trace = b.trace ∧ (f b).log = b.log ∧ (f b).ports = b.ports := by
    rcases hf with rfl | ⟨s, rfl⟩ <;> exact ⟨rfl, rfl, rfl⟩
  have hp₁ : t.port.port? (f (b.counted c)) = some p := by
    rw [← hp, SerialChannel.port?, (hkeeps _).2.2]
    rfl
  rw [Bench.signal, Bench.perform_of_clear (h.clear _).current,
    Bench.perform_of_clear (h.clear' _).current]
  refine .good rfl ⟨hlinked.traced (by simp [hlevel]) _, ?_⟩
  refine hrecorded.call hp [⟨b.now, c, .done⟩] ⟨b'.now, c, .done⟩ ?_ ?_ (hkeeps _).2.1
    (hkeeps _).2.1 hcall.symm hp₁ htold.symm
  · exact congrArg (· ++ _) (hkeeps _).1
  · exact congrArg (· ++ _) (hkeeps _).1

theorem pause_simulates (p : Pacing) (ms : Int) :
    t.Simulates (T := T) high high high Eq (p.pause ms) (p.pause ms) := by
  cases p with
  | delay =>
    refine .bind (signal_simulates rfl ?_) fun _ _ _ => .require _ _
    cases (TimeScale.ofMillis? ms : Option T) with
    | none => exact .inl rfl
    | some s => exact .inr ⟨s, rfl⟩
  | sleep =>
    rw [Pacing.pause]
    split
    · exact signal_simulates rfl (.inr ⟨_, rfl⟩)
    · exact .raise _

theorem Matched.drive {b b' : Bench T} (h : t.Matched b b') (up : Bool) :
    ∃ b₁ b₁', t.serial.direction.drive up b = (.ok (), b₁) ∧
      t.scripted.direction.drive up b' = (.ok (), b₁') ∧ t.Matched b₁ b₁' ∧
      b₁.rtsLevel = some (up == t.activeHigh) ∧ b₁.holdings = b.holdings ∧
      b₁'.holdings = b'.holdings ∧ ∀ {told start start'}, t.Recorded told start start' b b' →
        t.Recorded told start start' b₁ b₁' := by
  obtain ⟨p, hp, -⟩ := h.port
  have hlive : t.serial.direction.isLive b = true := h.opened
  have hlive' : t.scripted.direction.isLive b' = true := rfl
  have hcounted := h.counted (t.serial.direction.signalCall up) (t.scripted.direction.signalCall up)
  have hdrive := DirectionLine.drive_live hlive up
  have hdrive' := DirectionLine.drive_live hlive' up
  refine ⟨_, _, hdrive.trans (Bench.touch_of_clear (h.clear _).current),
    hdrive'.trans (Bench.touch_of_clear (h.clear' _).current),
    { hcounted with }, ?_, rfl, rfl, fun hrecorded => ?_⟩
  · rw [Bench.rtsLevel, Bench.trace_record, List.filterMap_append, List.getLast?_append]
    cases up <;> simp [serial, DirectionLine.signalCall, Call.level?]
  · refine hrecorded.call hp [_] _ rfl rfl rfl rfl ?_ hp ?_
    · cases up <;> rfl
    · cases up <;> rfl

theorem drive_simulates (up : Bool) :
    t.Simulates (T := T) high up bad Eq (t.serial.direction.drive up)
      (t.scripted.direction.drive up) := by
  intro told start start' b b' ⟨h, hrecorded⟩
  obtain ⟨b₁, b₁', hdrive, hdrive', hmatched, hlevel, hsame, hsame', hcall⟩ := h.toMatched.drive up
  rw [hdrive, hdrive']
  refine .good rfl ⟨⟨hmatched, ?_, ?_, hlevel⟩, hcall hrecorded⟩
  · rw [Line.isReleased, (Bench.SameHolders.of_holdings hsame).released]
    exact h.held
  · rw [Line.isReleased, (Bench.SameHolders.of_holdings hsame').released]
    exact h.held'

theorem switch_simulates (up : Bool) :
    t.Simulates (T := T) high up bad Eq (Line.switch (t.serial.direction.drive up))
      (Line.switch (t.scripted.direction.drive up)) :=
  (drive_simulates up).relabel _

/-- A port that takes bytes is waited for, and says how many it took as the script does. -/
theorem write_simulates (data : Bytes) :
    t.Simulates (T := T) high high bad Eq (t.serial.channel.write data)
      (t.scripted.channel.write data) := by
  intro told start start' b b' ⟨h, hrecorded⟩
  obtain ⟨p, hp, -⟩ := h.port
  obtain ⟨count, hcount, hcount'⟩ := h.answers data.length
  have hcounted := h.counted (.portWrite data) (.write t.script data)
  have hwrite : Bench.perform (.portWrite data) Reply.accepted
      (fun b => (b.device.acceptance.answer data.length, b)) b = (.ok (some count), _) :=
    Bench.ask_of_clear (h.clear _).current hcount
  have hwrite' : t.scripted.channel.write data b' = (.ok (some count),
      (b'.counted (.write t.script data)).record (.write t.script data)
        (.accepted (some count))) := by
    rw [scripted, Channel.write]
    exact Bench.ask_of_clear (h.clear' _).current hcount'
  have hflush : Bench.touch .portFlush ((b.counted (.portWrite data)).record (.portWrite data)
      (.accepted (some count))) = (.ok (), _) := Bench.touch_of_clear (hcounted.clear _).current
  have hserial : t.serial.channel.write data b = (.ok (some count),
      (((b.counted (.portWrite data)).record (.portWrite data) (.accepted (some count))).counted
        .portFlush).record .portFlush .done) := by
    rw [serial, Channel.write, Act.map_apply, SerialChannel.write,
      Act.bind_ok (SerialChannel.usePort_open hp),
      Act.bind_ok (Act.relabel_ok ((Act.bind_ok hwrite).trans (Act.bind_ok hflush)))]
    rfl
  rw [hserial, hwrite']
  refine .good rfl ⟨{ hcounted with
    clear := fun p => Bench.plans_counted_clear (hcounted.clear p)
    level := ?_ }, hrecorded.call hp [_, _] _ (List.append_assoc _ _ _) rfl rfl rfl rfl hp rfl⟩
  rw [← h.level, Bench.rtsLevel, Bench.rtsLevel]
  simp [Call.level?]

theorem hasWaiting_simulates :
    t.Simulates (T := T) high high bad Eq t.serial.channel.hasWaiting
      t.scripted.channel.hasWaiting := by
  intro told start start' b b' ⟨h, hrecorded⟩
  obtain ⟨p, hp, -⟩ := h.port
  have hcounted := h.counted .portWaiting (.hasWaiting t.script)
  have hpoll : Bench.perform .portWaiting Reply.waiting (fun b => (b.device.stale.length, b)) b =
      (.ok b.device.stale.length, _) := Bench.ask_of_clear (h.clear _).current rfl
  have hpoll' : t.scripted.channel.hasWaiting b' = (.ok (decide (0 < b.device.stale.length)),
      (b'.counted (.hasWaiting t.script)).record (.hasWaiting t.script)
        (.truth (decide (0 < b.device.stale.length)))) := by
    rw [scripted, Channel.hasWaiting]
    refine Bench.ask_of_clear (h.clear' _).current ?_
    have hsource := hcounted.source_eq
    have hreal : (b.counted .portWaiting).device.phantom = false := h.real
    simp only [hsource, hreal, Bool.false_or]
    cases hstale : b.device.stale <;> simp [Bench.counted, hstale]
  have hserial : t.serial.channel.hasWaiting b = (.ok (decide (0 < b.device.stale.length)),
      (b.counted .portWaiting).record .portWaiting (.waiting b.device.stale.length)) := by
    rw [serial, Channel.hasWaiting, SerialChannel.hasWaiting,
      Act.bind_ok (SerialChannel.usePort_open hp), Act.bind_ok (Act.relabel_ok hpoll)]
    rfl
  rw [hserial, hpoll']
  refine .good rfl ⟨hcounted.traced (by simp [Call.level?]) _, ?_⟩
  exact hrecorded.call hp [_] _ rfl rfl rfl rfl rfl hp rfl

theorem portRead_of_clear {b : Bench T} (h : (b.plans.get .portRead).Clear) {limit : Option T}
    {byte : Option UInt8} {source : ByteSource T} {now : T}
    (htake : b.device.take b.now limit = (byte, source, now)) :
    (Bench.perform .portRead Reply.byte fun b =>
      let (byte, source, now) := b.device.take b.now limit
      (byte, { b with device := source, now := now })) b =
    (.ok byte, { b.counted .portRead with
      device := source
      now := now
      trace := b.trace ++ [⟨b.now, .portRead, .byte byte⟩] }) := by
  have htake' : (b.counted .portRead).device.take (b.counted .portRead).now limit =
      (byte, source, now) := htake
  rw [Bench.perform_of_clear h.current]
  simp only [htake']
  rfl

theorem read_of_linked {b b' : Bench T} (h : t.Linked high b b') {wait : Option T}
    {byte : Option UInt8} {source : ByteSource T} {now : T}
    (htake : b.device.take b.now wait = (byte, source, now)) :
    t.scripted.channel.next wait b' = (.ok byte, { b'.counted (.read t.script wait) with
      scripts := (b'.counted (.read t.script wait)).scripts.set t.script source
      now := now
      trace := b'.trace ++ [⟨b'.now, .read t.script wait, .byte byte⟩] }) := by
  have hnow : b'.now = b.now := congrArg Clock.now h.clock_eq
  have hsource := (h.counted (.read t.script wait) (.read t.script wait)).source_eq
  have hreal : (b.counted (.read t.script wait)).device.phantom = false := h.real
  have htake' : (b.counted (.read t.script wait)).device.take
      (b'.counted (.read t.script wait)).now wait = (byte, source, now) := by
    rw [← htake, ← hnow]
    rfl
  rw [scripted, Channel.next, Bench.perform_of_clear (h.clear' _).current]
  simp only [hsource, hreal, htake', Bool.false_eq_true, if_false]
  rfl

/-- A port is told a wait only when it is a new one. Then a reading of it takes what one of the
script takes. -/
theorem next_simulates (wait : Option T) :
    t.Simulates high high bad Eq (t.serial.channel.next wait) (t.scripted.channel.next wait) := by
  intro told start start' b b' ⟨h, hrecorded⟩
  obtain ⟨p, hp, hopen⟩ := h.port
  obtain ⟨hphantom, hacceptance⟩ := b.device.take_kept b.now wait
  rcases htake : b.device.take b.now wait with ⟨byte, source, now⟩
  rw [htake, h.real] at hphantom
  rw [htake] at hacceptance
  have hcounts : source.acceptance ≠ .untold := hacceptance ▸ h.told
  have hlimit : ((wait.map Wait.time).elim (pure none) fun w => some <$> w.resolve :
      Act (Bench T) (Option T)) b = (.ok wait, b) := by
    cases wait <;> rfl
  rw [read_of_linked h htake]
  cases hsame : Wait.sameLimit p.timeout (wait.map .time) with
  | true =>
    have hcounted := h.counted .portRead (.read t.script wait)
    have hread := portRead_of_clear (h.clear .portRead) htake
    have hserial : t.serial.channel.next wait b = (.ok byte, { b.counted .portRead with
        device := source
        now := now
        trace := b.trace ++ [⟨b.now, .portRead, .byte byte⟩] }) := by
      rw [serial, Channel.next, SerialChannel.next, Act.bind_ok (SerialChannel.usePort_open hp),
        Act.bind_ok hlimit, hsame]
      exact Act.relabel_ok ((Act.bind_ok rfl).trans hread)
    rw [hserial]
    refine .good rfl ⟨(hcounted.take hphantom hcounts now).traced (by simp [Call.level?]) _, ?_⟩
    refine hrecorded.call hp [_] _ rfl rfl rfl rfl ?_ hp ?_
    · simp [renderCall, hsame]
    · simp [toldBy, hsame]
  | false =>
    -- The wait is a new one: the port is told it before it is read.
    let p₁ : Port T := { p with timeout := wait.map .time }
    let b₁ : Bench T := { t.port.setPort (some p₁) (b.counted (.portTimeout wait)) with
      trace := b.trace ++ [⟨b.now, .portTimeout wait, .done⟩] }
    have htold : Bench.signal (.portTimeout wait) (t.port.setPort (some p₁)) b = (.ok (), b₁) :=
      Bench.signal_of_clear (h.clear _).current _
    have h₁ : t.Linked high b₁ (b'.counted (.read t.script wait)) :=
      ((h.counted (.portTimeout wait) (.read t.script wait)).setPort (p := p₁) hopen).traced
        (by simp [Call.level?]) _
    have hp₁ : t.port.port? b₁ = some p₁ := by
      simp [b₁, SerialChannel.port?, SerialChannel.setPort, p₁, hopen]
    have hread := portRead_of_clear (h₁.clear .portRead) htake
    have hserial : t.serial.channel.next wait b = (.ok byte, { b₁.counted .portRead with
        device := source
        now := now
        trace := b₁.trace ++ [⟨b₁.now, .portRead, .byte byte⟩] }) := by
      rw [serial, Channel.next, SerialChannel.next, Act.bind_ok (SerialChannel.usePort_open hp),
        Act.bind_ok hlimit, hsame]
      exact Act.relabel_ok ((Act.bind_ok htold).trans hread)
    have h₂ : t.Linked high (b₁.counted .portRead) (b'.counted (.read t.script wait)) :=
      { h₁ with clear := fun q => Bench.plans_counted_clear (h₁.clear q) }
    rw [hserial]
    refine .good rfl ⟨(h₂.take hphantom hcounts now).traced (by simp [Call.level?]) _, ?_⟩
    refine hrecorded.call hp [_, _] _ (List.append_assoc _ _ _) rfl rfl rfl ?_ hp₁ ?_
    · simp [renderCall, hsame]
    · simp [toldBy, hsame, p₁]

end Calls

end Twins
end SpindleLink
