import SpindleLink.Proofs.Lifecycle

/-! A station that keeps the parts of its link in places of their own, each filled and emptied for
itself. Its tools do what those of a station with a whole link do, so between two calls its places
are all filled or all empty. -/

namespace SpindleLink

/-- The places of the parts of a link. That of the pin stays empty where there is none. -/
structure Slots where
  settings : Option Settings
  channel : Option SerialChannel
  pin : Option DirectionLine
  line : Option Line
  drive : Option (Drive Float)

namespace Slots

def of : Option Link → Slots
  | none => ⟨none, none, none, none, none⟩
  | some link =>
    ⟨some link.settings, some link.channel,
      if link.settings.wiring = .gpio then some link.drive.line.direction else none,
      some link.drive.line, some link.drive⟩

/-- The parts in the places belong together, and there is a pin among them exactly if the settings
ask for one. -/
structure Fit (settings : Settings) (channel : SerialChannel) (pin : Option DirectionLine)
    (line : Line) (drive : Drive Float) : Prop where
  wanted : pin.isSome = true ↔ settings.wiring = .gpio
  onPin : ∀ direction, pin = some direction →
    direction = line.direction ∧ direction.pin?.isSome = true
  onChannel : line.channel = .serial channel
  onLine : drive.line = line

/-- All places are empty, or all are filled, that of the pin where one is wanted. -/
def Whole (s : Slots) : Prop :=
  s = ⟨none, none, none, none, none⟩ ∨ ∃ settings channel pin line drive,
    s = ⟨some settings, some channel, pin, some line, some drive⟩ ∧
      Fit settings channel pin line drive

theorem whole_of {link : Option Link} (h : ∀ l, link = some l → l.Built) : (of link).Whole := by
  cases link with
  | none => exact .inl rfl
  | some link =>
    have hbuilt := h link rfl
    refine .inr ⟨_, _, _, _, _, rfl, ?_, fun direction hdirection => ?_, hbuilt.channel, rfl⟩
    · split <;> simp [*]
    · split at hdirection
      · next hwiring =>
        obtain rfl := Option.some.inj hdirection
        exact ⟨rfl, hbuilt.pin_iff.mpr hwiring⟩
      · cases hdirection

theorem of_drive (link : Link) {drive : Drive Float} (h : drive.line = link.drive.line) :
    of (some { link with drive := drive }) = { of (some link) with drive := some drive } := by
  simp only [of, h]

end Slots

/-- A station by the places of its link. -/
structure Desk where
  bench : Bench Float
  slots : Slots

namespace Desk

variable {α β : Type}

def onBench (x : Act (Bench Float) α) : Act Desk α :=
  x.within Desk.bench fun b s => { s with bench := b }

def put (f : Slots → Slots) : Act Desk Unit := .change fun s => { s with slots := f s.slots }

/-- What is kept in a place. To use an empty one is a fault. -/
def use (empty : Fault) (slot : Slots → Option α) : Act Desk α := do
  match ← Act.observe fun s => slot s.slots with
  | some a => pure a
  | none => .raise empty

def refuse (kind : Kind) (message : String) : Act Desk Answer := do
  onBench (Bench.note (.refused kind message))
  pure (.refused kind message)

/-- The places are filled when everything is open, one behind the other. -/
def connect (empty : Fault) (env : Settings.Environment) (given : Settings.Overrides) :
    Act Desk Answer := do
  match ← Act.observe fun s => s.slots.drive with
  | some _ =>
    let settings ← use empty Slots.settings
    pure (.alreadyConnected settings.port)
  | none =>
    match Settings.loadPresent env given with
    | .error problems => refuse .validation (Problem.summary problems)
    | .ok settings =>
      let (channel, direction) ← onBench (Station.openPort settings)
      let line ← onBench (Station.assemble settings channel direction)
      put fun s => { s with channel := some channel }
      put fun s => { s with pin := if settings.wiring = .gpio then some direction else none }
      put fun s => { s with line := some line }
      put fun s => { s with settings := some settings }
      put fun s => { s with
        drive := some (.make line settings.rotation (.time settings.readTimeout)) }
      onBench (Bench.note (.connected settings.port))
      pure (.connected settings.port settings.baud settings.wiring settings.rotation)

def leave (empty : Fault) : Act Desk Unit := do
  let line ← use empty Slots.line
  onBench line.release
  match ← Act.observe fun s => s.slots.pin with
  | some direction => onBench direction.close
  | none => pure ()

/-- The places are emptied when the channel is closed, one behind the other. -/
def clear (empty : Fault) : Act Desk Unit := do
  let channel ← use empty Slots.channel
  onBench channel.close
  put fun s => { s with channel := none }
  put fun s => { s with pin := none }
  put fun s => { s with line := none }
  put fun s => { s with drive := none }
  put fun s => { s with settings := none }

def disconnect (empty : Fault) : Act Desk Answer := do
  match ← Act.observe fun s => s.slots.drive with
  | none => pure .disconnected
  | some _ =>
    (leave empty).ensuring (clear empty)
    pure .disconnected

def operate (answers : Fault → Bool) (x : Drive Float → Act (Bench Float) (Drive Float × Answer)) :
    Act Desk Answer := do
  match ← Act.observe fun s => s.slots.drive with
  | none => .raise .notConnected
  | some drive =>
    match ← (onBench (x drive)).attempt with
    | .ok (drive, answer) =>
      put fun s => { s with drive := some drive }
      pure answer
    | .error f => if answers f then refuse f.kind f.message else .raise f

def state (empty : Fault) : Act Desk LinkState := do
  match ← Act.observe fun s => s.slots.drive with
  | none => pure .disconnected
  | some drive =>
    let settings ← use empty Slots.settings
    pure (.connected settings.port drive.isOn drive.rotation)

def toolStep (empty : Fault) (env : Settings.Environment) : ToolStep → Act Desk Outcome
  | .connect given => .answer <$> connect empty env given
  | .disconnect => .answer <$> disconnect empty
  | .state => .linkState <$> state empty
  | step =>
    match step.deed? with
    | some deed => .answer <$> operate deed.answers deed.act
    | none => pure .nothing

def of (st : Station) : Desk := ⟨st.bench, .of st.link⟩

/-- On the desk of a station one action does what another does on the station. -/
def Mirrors (x : Act Desk α) (y : Act Station α) (st : Station) : Prop :=
  x (of st) = ((y st).1, of (y st).2)

theorem Mirrors.map {x : Act Desk α} {y : Act Station α} {st : Station} (h : Mirrors x y st)
    (f : α → β) : Mirrors (f <$> x) (f <$> y) st := by
  rw [Mirrors, Act.map_apply, Act.map_apply, h]

theorem Mirrors.bind {x : Act Desk α} {y : Act Station α} {f : α → Act Desk β}
    {g : α → Act Station β} {st : Station} (h : Mirrors x y st)
    (hf : ∀ a, Mirrors (f a) (g a) (y st).2) : Mirrors (x >>= f) (y >>= g) st := by
  rcases hy : y st with ⟨e | a, st'⟩
  · rw [Mirrors, hy] at h
    rw [Mirrors, Act.bind_error h, Act.bind_error hy]
  · rw [Mirrors, hy] at h
    rw [hy] at hf
    rw [Mirrors, Act.bind_ok h, Act.bind_ok hy]
    exact hf a

theorem Mirrors.ensuring {x : Act Desk α} {y : Act Station α} {last : Act Desk Unit}
    {last' : Act Station Unit} {st : Station} (h : Mirrors x y st)
    (hlast : Mirrors last last' (y st).2) : Mirrors (x.ensuring last) (y.ensuring last') st := by
  rw [Mirrors, Act.ensuring, Act.ensuring, h, hlast]
  rcases last' (y st).2 with ⟨e | u, st'⟩ <;> rfl

theorem onBench_eq {x : Act (Bench Float) α} {s : Desk} {r : Except Fault α} {b : Bench Float}
    (h : x s.bench = (r, b)) : onBench x s = (r, { s with bench := b }) := by
  simp only [onBench, Act.within, h]

theorem use_some {empty : Fault} {slot : Slots → Option α} {s : Desk} {a : α}
    (h : slot s.slots = some a) : use empty slot s = (.ok a, s) := by
  rw [use, Act.bind_ok (Act.observe_apply _ s), h]
  rfl

theorem of_eq {st : Station} {link : Option Link} (h : st.link = link) :
    of st = ⟨st.bench, .of link⟩ := by
  rw [of, h]

theorem observe_of {st : Station} {link : Option Link} (hlink : st.link = link) (slot : Slots → α) :
    (Act.observe fun s : Desk => slot s.slots) (of st) = (.ok (slot (.of link)), of st) := by
  rw [Act.observe_apply, of_eq hlink]

theorem connect_mirrors (empty : Fault) (env : Settings.Environment) (given : Settings.Overrides)
    (st : Station) : Mirrors (connect empty env given) (Station.connect env given) st := by
  rw [Mirrors, connect]
  cases hlink : st.link with
  | some link =>
    have hsettings : use empty Slots.settings (of st) = (.ok link.settings, of st) :=
      use_some (by rw [of_eq hlink]; rfl)
    rw [Act.bind_ok (observe_of hlink Slots.drive), Station.already_of_linked hlink]
    exact Act.bind_ok hsettings
  | none =>
    rw [Act.bind_ok (observe_of hlink Slots.drive)]
    cases hload : Settings.loadPresent env given with
    | error problems =>
      rw [Station.connect_of_problems hlink hload]
      rfl
    | ok settings =>
      have hfails {f : Fault} {b : Bench Float}
          (hestablish : Station.establish settings st.bench = (.error f, b)) :
          (.error f, ⟨b, .of none⟩) =
            ((Station.connect env given st).1, of (Station.connect env given st).2) := by
        rw [Station.connect_of_establish_error hlink hload hestablish, hlink]
        rfl
      rw [of_eq hlink]
      rcases hopen : Station.openPort settings st.bench with ⟨f | ⟨channel, direction⟩, b₁⟩
      · refine (Act.bind_error (onBench_eq hopen)).trans (hfails ?_)
        rw [Station.establish_eq, Act.bind_error hopen]
      · refine (Act.bind_ok (onBench_eq hopen)).trans ?_
        rcases hprepare : Station.prepare settings channel direction b₁ with ⟨f | line, b₂⟩
        · obtain ⟨f', hassemble⟩ := Station.assemble_of_error hprepare
          refine (Act.bind_error (onBench_eq hassemble)).trans (hfails ?_)
          rw [Station.establish_eq, Act.bind_ok hopen]
          exact Act.bind_error hassemble
        · have hassemble : Station.assemble settings channel direction b₁ = (.ok line, b₂) := by
            rw [Station.assemble_eq, Act.orElse_ok hprepare]
          have hestablish := Station.establish_of_prepare_ok hopen hprepare
          obtain ⟨-, rfl, -⟩ := Station.prepare_ok hprepare
          rw [Station.connect_of_establish_ok hlink hload hestablish]
          exact Act.bind_ok (onBench_eq hassemble)

theorem leave_mirrors (empty : Fault) {st : Station} {link : Link} (hlink : st.link = some link)
    (hbuilt : link.Built) :
    Mirrors (leave empty) (Station.onBench (Station.leave link)) st := by
  have hline : use empty Slots.line (of st) = (.ok link.drive.line, of st) :=
    use_some (by rw [of_eq hlink]; rfl)
  rw [Mirrors, leave, Act.bind_ok hline, of_eq hlink]
  rcases hrelease : link.drive.line.release st.bench with ⟨f | u, b⟩
  · have hleave : Station.leave link st.bench = (.error f, b) := Act.bind_error hrelease
    rw [Station.onBench_eq hleave, hlink]
    exact Act.bind_error (onBench_eq hrelease)
  · have hleave : Station.leave link st.bench = link.drive.line.direction.close b :=
      Act.bind_ok hrelease
    refine (Act.bind_ok (onBench_eq hrelease)).trans ?_
    refine (Act.bind_ok (Act.observe_apply _ _)).trans ?_
    simp only [Slots.of]
    cases hwiring : link.settings.wiring with
    | rts =>
      obtain ⟨id, hdirection⟩ := hbuilt.direction
      have hrts : link.drive.line.direction = .rts id link.channel true := by
        rw [hdirection, Station.directionFor, hwiring]
      have hnone : Station.leave link st.bench = (.ok (), b) := by
        rw [hleave, hrts]
        rfl
      rw [Station.onBench_eq hnone, hlink]
      simp only [of, Slots.of, hwiring]
      rfl
    | gpio =>
      rcases hclose : link.drive.line.direction.close b with ⟨r, b'⟩
      rw [Station.onBench_eq (hleave.trans hclose), hlink]
      simp only [of, Slots.of, hwiring, if_true]
      exact onBench_eq hclose

theorem clear_mirrors (empty : Fault) {st : Station} {link : Link} (hlink : st.link = some link) :
    Mirrors (clear empty) (do
      Station.onBench link.channel.close
      Station.setLink none) st := by
  have hchannel : use empty Slots.channel (of st) = (.ok link.channel, of st) :=
    use_some (by rw [of_eq hlink]; rfl)
  rw [Mirrors, clear, Act.bind_ok hchannel, of_eq hlink]
  rcases hclose : link.channel.close st.bench with ⟨f | u, b⟩
  · rw [Act.bind_error (Station.onBench_eq hclose), hlink]
    exact Act.bind_error (onBench_eq hclose)
  · rw [Act.bind_ok (Station.onBench_eq hclose)]
    exact Act.bind_ok (onBench_eq hclose)

theorem disconnect_mirrors (empty : Fault) {st : Station}
    (hbuilt : ∀ link, st.link = some link → link.Built) :
    Mirrors (disconnect empty) Station.disconnect st := by
  rw [Mirrors, disconnect]
  cases hlink : st.link with
  | none =>
    rw [Act.bind_ok (observe_of hlink Slots.drive), Station.disconnect_of_unlinked hlink]
    rfl
  | some link =>
    have hstation : Station.disconnect st = ((Station.onBench (Station.leave link)).ensuring (do
        Station.onBench link.channel.close
        Station.setLink none) >>= fun _ => pure Answer.disconnected) st := by
      rw [Station.disconnect, Act.bind_ok (Act.observe_apply _ st), hlink]
      rfl
    have hleft : (Station.onBench (Station.leave link) st).2.link = some link := hlink
    rw [Act.bind_ok (observe_of hlink Slots.drive), hstation]
    refine Mirrors.bind (.ensuring (leave_mirrors empty hlink (hbuilt link hlink)) ?_) fun _ => rfl
    exact clear_mirrors empty hleft

/-- A drive that stays on its line acts on the desk as it does on the station. -/
theorem operate_mirrors {answers : Fault → Bool}
    {x : Drive Float → Act (Bench Float) (Drive Float × Answer)}
    (hx : ∀ d b d' a b', x d b = (.ok (d', a), b') → d'.line = d.line) (st : Station) :
    Mirrors (operate answers x) (Station.operate answers x) st := by
  rw [Mirrors, operate]
  cases hlink : st.link with
  | none =>
    rw [Act.bind_ok (observe_of hlink Slots.drive), Station.operate_unlinked hlink]
    rfl
  | some link =>
    rw [Act.bind_ok (observe_of hlink Slots.drive), of_eq hlink]
    rcases hrun : x link.drive st.bench with ⟨f | ⟨drive, answer⟩, b⟩
    · have hattempt : (onBench (x link.drive)).attempt ⟨st.bench, .of (some link)⟩ =
          (.ok (.error f), ⟨b, .of (some link)⟩) := by
        rw [Act.attempt_apply, onBench_eq hrun]
      refine (Act.bind_ok hattempt).trans ?_
      cases hanswers : answers f with
      | true =>
        rw [Station.operate_refused hlink hrun hanswers]
        simp only [hanswers, if_true]
        rfl
      | false =>
        rw [Station.operate_raised hlink hrun hanswers]
        simp only [hanswers, Bool.false_eq_true, if_false]
        rfl
    · have hattempt : (onBench (x link.drive)).attempt ⟨st.bench, .of (some link)⟩ =
          (.ok (.ok (drive, answer)), ⟨b, .of (some link)⟩) := by
        rw [Act.attempt_apply, onBench_eq hrun]
      refine (Act.bind_ok hattempt).trans ?_
      rw [Station.operate_ok hlink hrun, of, Slots.of_drive link (hx _ _ _ _ _ hrun)]
      rfl

theorem state_mirrors (empty : Fault) (st : Station) :
    Mirrors (state empty) (Act.observe Station.state) st := by
  rw [Mirrors, state]
  cases hlink : st.link with
  | none =>
    rw [Act.bind_ok (observe_of hlink Slots.drive), Act.observe_apply, Station.state, hlink]
    rfl
  | some link =>
    have hsettings : use empty Slots.settings (of st) = (.ok link.settings, of st) :=
      use_some (by rw [of_eq hlink]; rfl)
    rw [Act.bind_ok (observe_of hlink Slots.drive), Act.observe_apply, Station.state, hlink]
    exact Act.bind_ok hsettings

/-- The tools do on the desk of a station what they do on the station. -/
theorem toolStep_mirrors (empty : Fault) (env : Settings.Environment) (step : ToolStep)
    {st : Station} (hbuilt : ∀ link, st.link = some link → link.Built) :
    Mirrors (toolStep empty env step) (Session.toolStep env step) st := by
  have hdeed {deed : Deed} (h : step.deed? = some deed) : Mirrors
      (Outcome.answer <$> operate deed.answers deed.act) (Session.toolStep env step) st := by
    rw [Station.toolStep_operates env h]
    refine (operate_mirrors (fun d b d' a b' hrun => ?_) st).map _
    obtain ⟨isOn, rfl⟩ := step.switches h hrun
    rfl
  cases step with
  | connect given => exact (connect_mirrors empty env given st).map _
  | disconnect => exact (disconnect_mirrors empty hbuilt).map _
  | state => exact (state_mirrors empty st).map _
  | start | stop | changeSpeed | readSpeed | readReport => exact hdeed rfl

/-- The desks that the tools can get to from one with empty places. -/
inductive Reachable (empty : Fault) : Desk → Prop
  | start {b : Bench Float} (hb : ∀ id ∈ b.releasedLines, id < b.nextId) :
    Reachable empty ⟨b, none, none, none, none, none⟩
  | tool {s : Desk} (h : Reachable empty s) (env : Settings.Environment) (step : ToolStep) :
    Reachable empty (toolStep empty env step s).2
  | adjust {s : Desk} (h : Reachable empty s) (change : Adjustment) :
    Reachable empty { s with bench := change.apply s.bench }

/-- A desk that can be reached is that of a station that can be reached. -/
theorem Reachable.station {empty : Fault} {s : Desk} (h : Reachable empty s) :
    ∃ st, Station.Reachable st ∧ s = of st := by
  induction h with
  | start hb => exact ⟨⟨_, none⟩, .start hb, rfl⟩
  | tool _ env step ih =>
    obtain ⟨st, hst, rfl⟩ := ih
    refine ⟨_, .tool hst env step, ?_⟩
    rw [toolStep_mirrors empty env step fun _ => hst.built]
  | adjust _ change ih =>
    obtain ⟨st, hst, rfl⟩ := ih
    exact ⟨_, .adjust hst change, rfl⟩

theorem reachable_of (empty : Fault) {st : Station} (h : Station.Reachable st) :
    Reachable empty (of st) := by
  induction h with
  | start hb => exact .start hb
  | tool h env step ih =>
    have hreached := ih.tool env step
    rwa [toolStep_mirrors empty env step fun _ => h.built] at hreached
  | adjust _ change ih => exact ih.adjust change

end Desk

namespace Station

/-- However the tools are called and whatever fails, between two calls the places are all filled or
all empty, and the tools over them do what those of the station do. Without a link each tool of the
spindle fails for want of a connection, and disconnecting succeeds, and neither changes anything;
with one connecting tells its port and changes nothing. To ask for the state never changes anything,
and a spindle that was just connected is off. -/
theorem lifecycle (empty : Fault) {st : Station} (h : Reachable st) (env : Settings.Environment)
    (given : Settings.Overrides) :
    (∀ s, Desk.Reachable empty s → s.slots.Whole ∧ ∃ st', Reachable st' ∧ s = .of st') ∧
      Desk.Reachable empty (.of st) ∧
      (∀ step, Desk.Mirrors (Desk.toolStep empty env step) (Session.toolStep env step) st) ∧
      (st.link = none →
        (∀ (step : ToolStep) deed, step.deed? = some deed →
          ∃ f, f.kind = .runtime ∧ Session.toolStep env step st = (.error f, st)) ∧
        Session.toolStep env .disconnect st = (.ok (.answer .disconnected), st)) ∧
      (∀ link, st.link = some link → Session.toolStep env (.connect given) st =
        (.ok (.answer (.alreadyConnected link.settings.port)), st)) ∧
      Session.toolStep env .state st = (.ok (.linkState st.state), st) ∧
      ∀ port baud wiring rotation,
        (connect env given st).1 = .ok (.connected port baud wiring rotation) →
          (connect env given st).2.state = .connected port false rotation := by
  refine ⟨fun s hs => ?_, Desk.reachable_of empty h,
    fun step => Desk.toolStep_mirrors empty env step fun _ => h.built,
    fun hlink => ⟨fun step deed hdeed => ?_, ?_⟩, fun link hlink => ?_, rfl, ?_⟩
  · obtain ⟨st', hst', rfl⟩ := hs.station
    exact ⟨Slots.whole_of fun _ => hst'.built, st', hst', rfl⟩
  · refine ⟨.notConnected, rfl, ?_⟩
    rw [toolStep_operates env hdeed, Act.map_apply, operate_unlinked hlink]
    rfl
  · rw [Session.toolStep, Act.map_apply, disconnect_of_unlinked hlink]
    rfl
  · rw [Session.toolStep, Act.map_apply, already_of_linked hlink]
    rfl
  · intro port baud wiring rotation hanswer
    obtain ⟨hlink, link, hlink'⟩ := linked_of_connected hanswer
    obtain ⟨hbuilt, hoff, hconnected⟩ := link_connect hlink hlink'
    rw [hanswer] at hconnected
    cases hconnected
    rw [state, hlink']
    simp only [hoff, hbuilt.rotation]

def pinned : Station := (Session.toolStep [] (.connect onPin) ⟨Bench.empty 0 0, none⟩).2

/-- All its places are filled, that of the pin as well, and to connect anew changes nothing. -/
theorem lifecycle_pinned :
    (Desk.of pinned).slots.Whole ∧
      (Desk.of pinned).slots.pin.map DirectionLine.pin? = some (some 18) ∧
        Session.toolStep [] (.connect []) pinned =
          (.ok (.answer (.alreadyConnected "/dev/ttyUSB0")), pinned) := by
  have hreachable : Reachable pinned := .tool (.start (by simp [Bench.empty])) [] (.connect onPin)
  have hport : pinned.link.map (fun link => link.settings.port) = some "/dev/ttyUSB0" := by
    decide +kernel
  obtain ⟨link, hlink, hname⟩ := Option.map_eq_some_iff.mp hport
  obtain ⟨hwhole, hdesk, -, -, halready, -⟩ := lifecycle .notConnected hreachable [] []
  exact ⟨(hwhole _ hdesk).1, by decide +kernel, hname ▸ halready link hlink⟩

end Station
end SpindleLink
