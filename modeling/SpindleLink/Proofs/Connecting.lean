import SpindleLink.Station
import SpindleLink.Proofs.PortCalls

/-! A connection that fails. The station stays disconnected and nothing more is owned than before.
The port that was opened is told to close again when the line on it cannot be made, except when the
making was interrupted, or the pin of the direction line cannot be given back. -/

namespace SpindleLink

variable {T : Type}

namespace DirectionLine

/-- Whether an opened pin can be put low and given back; what is no pin needs neither. -/
def yields (b : Bench T) : DirectionLine → Bool
  | gpio id _ => !b.pins.get id ||
      (b.plans.get .pinOutput).current.isNone && (b.plans.get .pinCleanup).current.isNone
  | _ => true

theorem close_ok_iff (d : DirectionLine) (b : Bench T) :
    (d.close b).1 = .ok () ↔ d.yields b = true := by
  cases d with
  | scripted id => exact ⟨fun _ => rfl, fun _ => rfl⟩
  | rts id channel activeHigh => exact ⟨fun _ => rfl, fun _ => rfl⟩
  | gpio id pin =>
    rw [close, Act.bind_ok (Act.observe_apply _ b)]
    cases hpin : b.pins.get id with
    | false => simp [yields, hpin]; rfl
    | true =>
      rw [if_pos rfl]
      cases houtput : (b.plans.get .pinOutput).current with
      | some f =>
        rw [Act.bind_error (Bench.touch_of_fault houtput)]
        simp [yields, hpin, houtput]
      | none =>
        rw [Act.bind_ok (Bench.touch_of_clear houtput)]
        have hplan : (((b.counted (.pinOutput pin false)).record (.pinOutput pin false)
            .done).plans.get .pinCleanup) = b.plans.get .pinCleanup :=
          Bench.plans_counted_of_ne (by simp [Call.point]) b
        cases hcleanup : (b.plans.get .pinCleanup).current with
        | some f =>
          rw [Bench.signal_of_fault (hplan ▸ hcleanup)]
          simp [yields, hpin, houtput, hcleanup]
        | none =>
          rw [Bench.signal_of_clear (hplan ▸ hcleanup)]
          simp [yields, hpin, houtput, hcleanup]

end DirectionLine

namespace Station

/-- The making of a line on an opened port. -/
def prepare (settings : Settings) (channel : SerialChannel) (direction : DirectionLine) :
    Act (Bench Float) Line := do
  direction.open
  let byteTime ← Act.ofExcept (settings.byteTime.mapError Fault.arithmetic)
  Line.make (.serial channel) direction (.real byteTime) .sleep

def clearUp (channel : SerialChannel) (direction : DirectionLine) (f : Fault) :
    Act (Bench Float) Unit :=
  Act.onlyIf (f.kind.isOrdinary = true) do
    direction.close
    channel.close

/-- A new channel with its port opened, and its direction line. -/
def openPort (settings : Settings) : Act (Bench Float) (SerialChannel × DirectionLine) := do
  let channel : SerialChannel := ⟨← Bench.fresh, settings.port, settings.baud⟩
  channel.open
  pure (channel, directionFor settings channel (← Bench.fresh))

theorem assemble_eq (settings : Settings) (channel : SerialChannel) (direction : DirectionLine) :
    assemble settings channel direction =
      (prepare settings channel direction).orElse fun f =>
        (clearUp channel direction f >>= fun _ => Act.raise f) := rfl

theorem establish_eq (settings : Settings) :
    establish settings = (do
      let (channel, direction) ← openPort settings
      let line ← assemble settings channel direction
      Bench.note (.connected settings.port)
      pure ⟨settings, channel,
        Drive.make line settings.rotation (.time settings.readTimeout)⟩) := by
  simp [establish, openPort]

/-- Whether the port of a line that cannot be made is closed again: the making was not interrupted,
and the pin of the direction line yields. -/
def undone (settings : Settings) (b : Bench Float) : Bool :=
  match openPort settings b with
  | (.error _, _) => true
  | (.ok (channel, direction), b₁) =>
    match prepare settings channel direction b₁ with
    | (.ok _, _) => true
    | (.error f, b₂) => f.kind.isOrdinary && direction.yields b₂

theorem prepare_portState (settings : Settings) (channel : SerialChannel)
    (direction : DirectionLine) :
    (prepare settings channel direction).Leaves Bench.portState :=
  .bind direction.open_portState fun _ => .bind (.ofExcept _) fun _ => Line.make_portState _ _ _ _

theorem holdings_of_prepare_error {settings : Settings} {channel : SerialChannel}
    {direction : DirectionLine} {b b' : Bench Float} {f : Fault}
    (h : prepare settings channel direction b = (.error f, b')) : b'.holdings = b.holdings := by
  have hopen := direction.open_holdings b
  unfold prepare at h
  rcases hrun : direction.open b with ⟨e | u, b₁⟩
  · rw [Act.bind_error hrun] at h
    cases h
    rw [hrun] at hopen
    exact hopen
  · rw [Act.bind_ok hrun] at h
    rw [hrun] at hopen
    cases htime : settings.byteTime.mapError Fault.arithmetic with
    | error e =>
      rw [htime, Act.bind_error (Act.ofExcept_apply _ b₁)] at h
      cases h
      exact hopen
    | ok t =>
      rw [htime, Act.bind_ok (Act.ofExcept_apply _ b₁)] at h
      exact (Line.holdings_of_make_error h).trans hopen

theorem make_of_prepare_ok {settings : Settings} {channel : SerialChannel}
    {direction : DirectionLine} {b b' : Bench Float} {line : Line}
    (h : prepare settings channel direction b = (.ok line, b')) :
    ∃ byteTime b₁, b₁.holdings = b.holdings ∧
      Line.make (.serial channel) direction byteTime .sleep b₁ = (.ok line, b') := by
  have hopen := direction.open_holdings b
  obtain ⟨u, b₁, hrun, h₁⟩ := Act.of_bind_ok h
  obtain ⟨t, b₂, htime, h₂⟩ := Act.of_bind_ok h₁
  obtain ⟨-, rfl⟩ := Prod.mk.inj htime
  rw [hrun] at hopen
  exact ⟨_, b₁, hopen, h₂⟩

theorem clearUp_holdings (channel : SerialChannel) (direction : DirectionLine) (f : Fault) :
    (clearUp channel direction f).Leaves Bench.holdings :=
  .onlyIf (.bind direction.close_holdings fun _ => channel.close_holdings)

theorem openings_clearUp (channel : SerialChannel) (direction : DirectionLine) (f : Fault) :
    (clearUp channel direction f).Leaves Bench.openings :=
  .onlyIf (.bind (direction.close_portState.comp fun p => p.2.2.1) fun _ => channel.openings_close)

theorem closings_clearUp {channel : SerialChannel} {b : Bench Float}
    (hport : (b.ports.get channel.id).isSome = true) (direction : DirectionLine) (f : Fault) :
    (clearUp channel direction f b).2.closings =
      b.closings + if f.kind.isOrdinary && direction.yields b then 1 else 0 := by
  unfold clearUp Act.onlyIf
  cases hordinary : f.kind.isOrdinary with
  | false => rfl
  | true =>
    rw [if_pos rfl]
    have hstate := direction.close_portState b
    have hyields := direction.close_ok_iff b
    rcases hrun : direction.close b with ⟨e | u, b₁⟩
    · rw [hrun] at hstate hyields
      have hstuck : direction.yields b = false := by simpa using hyields
      have hsame : b₁.closings = b.closings := congrArg (fun p => p.2.2.2) hstate
      simp [Act.bind_error hrun, hstuck, hsame]
    · rw [hrun] at hstate hyields
      have hfree : direction.yields b = true := by simpa using hyields
      have hports : b₁.ports = b.ports := congrArg Prod.fst hstate
      have hsame : b₁.closings = b.closings := congrArg (fun p => p.2.2.2) hstate
      rw [Act.bind_ok hrun, SerialChannel.closings_close (by rw [hports, hport]), hsame]
      simp [hfree]

/-- A fault of the making is followed by what is done about it. -/
theorem assemble_of_error {settings : Settings} {channel : SerialChannel}
    {direction : DirectionLine} {b b' : Bench Float} {f : Fault}
    (h : prepare settings channel direction b = (.error f, b')) :
    ∃ f', assemble settings channel direction b =
      (.error f', (clearUp channel direction f b').2) := by
  rw [assemble_eq, Act.orElse_error h]
  rcases hclear : clearUp channel direction f b' with ⟨e | u, b''⟩
  · exact ⟨e, Act.bind_error hclear⟩
  · exact ⟨f, Act.bind_ok hclear⟩

theorem openPort_sameHolders (settings : Settings) (b : Bench Float) :
    b.SameHolders (openPort settings b).2 := by
  let channel : SerialChannel := ⟨b.nextId, settings.port, settings.baud⟩
  have hopened := b.sameHolders_fresh.trans (.of_holdings (channel.open_holdings _))
  rw [openPort, Act.bind_ok (Bench.fresh_apply b)]
  rcases hopen : channel.open { b with nextId := b.nextId + 1 } with ⟨f | u, b₁⟩
  · rw [hopen] at hopened
    rw [Act.bind_error hopen]
    exact hopened
  · rw [hopen] at hopened
    rw [Act.bind_ok hopen]
    exact hopened.trans b₁.sameHolders_fresh

theorem closings_openPort (settings : Settings) : (openPort settings).Leaves Bench.closings := by
  refine .bind (fun _ => rfl) fun id => .bind (SerialChannel.closings_open _) fun _ => ?_
  exact .bind (fun _ => rfl) fun id' => .pure _

theorem openPort_cases (settings : Settings) (b : Bench Float) :
    (∃ f b₁, openPort settings b = (.error f, b₁) ∧ b₁.openings = b.openings) ∨
      ∃ channel direction b₁, openPort settings b = (.ok (channel, direction), b₁) ∧
        (b₁.ports.get channel.id).isSome = true ∧
          (b₁.openings = b.openings ∨ b₁.openings = b.openings + 1) := by
  rw [openPort, Act.bind_ok (Bench.fresh_apply b)]
  rcases hopen : SerialChannel.open ⟨b.nextId, settings.port, settings.baud⟩
    { b with nextId := b.nextId + 1 } with ⟨f | u, b₁⟩
  · have hsame := SerialChannel.openings_of_open_error hopen
    exact .inl ⟨f, b₁, Act.bind_error hopen, hsame⟩
  · obtain ⟨hport, hopenings⟩ := SerialChannel.open_ok hopen
    exact .inr ⟨_, _, _, Act.bind_ok hopen, hport, hopenings⟩

theorem establish_of_prepare_error {settings : Settings} {channel : SerialChannel}
    {direction : DirectionLine} {b b₁ b₂ : Bench Float} {f : Fault}
    (hopen : openPort settings b = (.ok (channel, direction), b₁))
    (hprepare : prepare settings channel direction b₁ = (.error f, b₂)) :
    ∃ f', establish settings b = (.error f', (clearUp channel direction f b₂).2) := by
  obtain ⟨f', hassemble⟩ := assemble_of_error hprepare
  refine ⟨f', ?_⟩
  rw [establish_eq, Act.bind_ok hopen]
  exact Act.bind_error hassemble

theorem establish_of_prepare_ok {settings : Settings} {channel : SerialChannel}
    {direction : DirectionLine} {b b₁ b₂ : Bench Float} {line : Line}
    (hopen : openPort settings b = (.ok (channel, direction), b₁))
    (hprepare : prepare settings channel direction b₁ = (.ok line, b₂)) :
    establish settings b =
      (.ok ⟨settings, channel, Drive.make line settings.rotation (.time settings.readTimeout)⟩,
        { b₂ with log := b₂.log ++ [.connected settings.port] }) := by
  have hassemble : assemble settings channel direction b₁ = (.ok line, b₂) := by
    rw [assemble_eq, Act.orElse_ok hprepare]
  rw [establish_eq, Act.bind_ok hopen]
  exact Act.bind_ok hassemble

/-- A link that cannot be established leaves what is owned as it was; a port that was opened for it
is told to close exactly if all can be undone. -/
theorem establish_error {settings : Settings} {b b' : Bench Float} {f : Fault}
    (h : establish settings b = (.error f, b')) :
    b.SameHolders b' ∧
      (b'.openings = b.openings ∨
        b'.openings = b.openings + 1 ∧
          b'.closings = b.closings + if undone settings b then 1 else 0) := by
  have hholders := openPort_sameHolders settings b
  have hclosings := closings_openPort settings b
  rcases openPort_cases settings b with
    ⟨e, b₁, hopen, hopenings⟩ | ⟨channel, direction, b₁, hopen, hport, hopenings⟩
  · rw [establish_eq, Act.bind_error hopen] at h
    obtain ⟨-, rfl⟩ := Prod.mk.inj h
    rw [hopen] at hholders
    exact ⟨hholders, .inl hopenings⟩
  · rw [hopen] at hholders hclosings
    have hstate := prepare_portState settings channel direction b₁
    rcases hprepare : prepare settings channel direction b₁ with ⟨e | line, b₂⟩
    · obtain ⟨e', hestablish⟩ := establish_of_prepare_error hopen hprepare
      rw [hestablish] at h
      obtain ⟨-, rfl⟩ := Prod.mk.inj h
      rw [hprepare] at hstate
      have hports : b₂.ports = b₁.ports := congrArg Prod.fst hstate
      have hopened : b₂.openings = b₁.openings := congrArg (fun p => p.2.2.1) hstate
      have hclosed : b₂.closings = b₁.closings := congrArg (fun p => p.2.2.2) hstate
      have hundone : undone settings b = (e.kind.isOrdinary && direction.yields b₂) := by
        simp [undone, hopen, hprepare]
      have hcleared := (clearUp_holdings channel direction e b₂).trans
        (holdings_of_prepare_error hprepare)
      refine ⟨hholders.trans (.of_holdings hcleared), hopenings.imp (fun h => ?_) fun h => ⟨?_, ?_⟩⟩
      · rw [openings_clearUp, hopened, h]
      · rw [openings_clearUp, hopened, h]
      · rw [closings_clearUp (by rw [hports, hport]), hclosed, hclosings, hundone]
    · rw [establish_of_prepare_ok hopen hprepare] at h
      cases h

/-- The line of an established link is made of the channel of the link, and took what it owns. -/
theorem establish_ok {settings : Settings} {b b' : Bench Float} {link : Link}
    (h : establish settings b = (.ok link, b')) :
    link.drive.line.channel = .serial link.channel ∧ link.drive.line.Took b b' := by
  have hholders := openPort_sameHolders settings b
  rcases openPort_cases settings b with
    ⟨e, b₁, hopen, -⟩ | ⟨channel, direction, b₁, hopen, -, -⟩
  · rw [establish_eq, Act.bind_error hopen] at h
    cases h
  · rw [hopen] at hholders
    rcases hprepare : prepare settings channel direction b₁ with ⟨e | line, b₂⟩
    · obtain ⟨e', hestablish⟩ := establish_of_prepare_error hopen hprepare
      rw [hestablish] at h
      cases h
    · rw [establish_of_prepare_ok hopen hprepare] at h
      obtain ⟨hlink, rfl⟩ := Prod.mk.inj h
      obtain rfl := Except.ok.inj hlink
      obtain ⟨byteTime, b₀, hpin, hmake⟩ := make_of_prepare_ok hprepare
      obtain ⟨rfl, htook⟩ := Line.make_ok hmake
      have htook' := htook.of_sameHolders (hholders.trans (.of_holdings hpin))
      exact ⟨rfl, htook'.of_holdings rfl⟩

/-- Whether a connection failed: a fault was raised, or the answer is a refusal. -/
def failed : Except Fault Answer → Bool
  | .error _ | .ok (.refused _ _) => true
  | .ok _ => false

theorem onBench_eq {α : Type} {x : Act (Bench Float) α} {st : Station} {r : Except Fault α}
    {b : Bench Float} (h : x st.bench = (r, b)) : onBench x st = (r, { st with bench := b }) := by
  simp only [onBench, Act.within, h]

theorem connect_of_establish_error {env : Settings.Environment} {given : Settings.Overrides}
    {settings : Settings} {st : Station} {f : Fault} {b : Bench Float} (hlink : st.link = none)
    (hload : Settings.loadPresent env given = .ok settings)
    (h : establish settings st.bench = (.error f, b)) :
    connect env given st = (.error f, { st with bench := b }) := by
  rw [connect, Act.bind_ok (Act.observe_apply _ st)]
  simp only [hlink, hload, Act.bind_error (onBench_eq h)]

theorem connect_of_establish_ok {env : Settings.Environment} {given : Settings.Overrides}
    {settings : Settings} {st : Station} {link : Link} {b : Bench Float} (hlink : st.link = none)
    (hload : Settings.loadPresent env given = .ok settings)
    (h : establish settings st.bench = (.ok link, b)) :
    connect env given st =
      (.ok (.connected settings.port settings.baud settings.wiring settings.rotation),
        ⟨b, some link⟩) := by
  rw [connect, Act.bind_ok (Act.observe_apply _ st)]
  simp only [hlink, hload, Act.bind_ok (onBench_eq h)]
  rfl

theorem connect_of_problems {env : Settings.Environment} {given : Settings.Overrides}
    {problems : List Problem} {st : Station} (hlink : st.link = none)
    (hload : Settings.loadPresent env given = .error problems) :
    connect env given st = refuse .validation (Problem.summary problems) st := by
  rw [connect, Act.bind_ok (Act.observe_apply _ st)]
  simp only [hlink, hload]

/-- A station that is not linked either stays so with the same holdings, or it is linked by a line
that took what it owns. -/
theorem connect_cases (env : Settings.Environment) (given : Settings.Overrides) {st : Station}
    (hlink : st.link = none) :
    (∃ b, (connect env given st).2 = ⟨b, none⟩ ∧ st.bench.SameHolders b) ∨
      ∃ link b, (connect env given st).2 = ⟨b, some link⟩ ∧
        link.drive.line.channel = .serial link.channel ∧ link.drive.line.Took st.bench b := by
  obtain ⟨bench, link⟩ := st
  obtain rfl : link = none := hlink
  cases hload : Settings.loadPresent env given with
  | error problems =>
    rw [connect_of_problems rfl hload]
    exact .inl ⟨_, rfl, .of_holdings rfl⟩
  | ok settings =>
    rcases hestablish : establish settings bench with ⟨f | link, b⟩
    · rw [connect_of_establish_error rfl hload hestablish]
      exact .inl ⟨b, rfl, (establish_error hestablish).1⟩
    · rw [connect_of_establish_ok rfl hload hestablish]
      exact .inr ⟨link, b, rfl, establish_ok hestablish⟩

/-- When a station does not get connected it stays disconnected and owns no more than before. If it
opened a port, the port is told to close exactly if all can be undone. -/
theorem connect_undone (env : Settings.Environment) (given : Settings.Overrides) {st st' : Station}
    {r : Except Fault Answer} (hlink : st.link = none) (hrun : connect env given st = (r, st'))
    (hfailed : failed r = true) :
    st'.link = none ∧ st'.state = .disconnected ∧ st'.bench.owned = st.bench.owned ∧
      (st'.bench.openings = st.bench.openings ∨
        ∃ settings, Settings.loadPresent env given = .ok settings ∧
          st'.bench.openings = st.bench.openings + 1 ∧ st'.bench.closings =
            st.bench.closings + if undone settings st.bench then 1 else 0) := by
  have hdisconnected (hlink' : st'.link = none) : st'.state = .disconnected := by
    rw [state, hlink']
  cases hload : Settings.loadPresent env given with
  | error problems =>
    rw [connect_of_problems hlink hload] at hrun
    obtain ⟨-, rfl⟩ := Prod.mk.inj hrun
    exact ⟨hlink, hdisconnected hlink, rfl, .inl rfl⟩
  | ok settings =>
    rcases hestablish : establish settings st.bench with ⟨f | link, b'⟩
    · rw [connect_of_establish_error hlink hload hestablish] at hrun
      obtain ⟨-, rfl⟩ := Prod.mk.inj hrun
      obtain ⟨hholders, hport⟩ := establish_error hestablish
      refine ⟨hlink, hdisconnected hlink, hholders.owned, hport.imp_right fun h => ?_⟩
      exact ⟨settings, rfl, h⟩
    · rw [connect_of_establish_ok hlink hload hestablish] at hrun
      obtain ⟨rfl, -⟩ := Prod.mk.inj hrun
      cases hfailed

def onPin : Settings.Overrides :=
  [("direction_line", .text "gpio"), ("gpio_pin", .number (.whole 18))]

def failingAt (point : Point) (f : Fault) : Station where
  bench := { Bench.empty 0 0 with plans := (Table.constant .never).set point (.after 0 f) }
  link := none

def busyPin : Station := failingAt .pinSetup (.raised .system "busy")

/-- Its port is opened, and told to close. -/
theorem connect_undone_without_pin :
    ∃ r st', connect [] onPin busyPin = (r, st') ∧ failed r = true ∧ st'.link = none ∧
      st'.state = .disconnected ∧ st'.bench.owned = [] ∧ st'.bench.openings = 1 ∧
        st'.bench.closings = 1 := by
  rcases hrun : connect [] onPin busyPin with ⟨r, st'⟩
  have hresult : failed (connect [] onPin busyPin).1 = true ∧
      (connect [] onPin busyPin).2.bench.openings = 1 ∧
        (connect [] onPin busyPin).2.bench.closings = 1 := by
    decide +kernel
  rw [hrun] at hresult
  obtain ⟨hfailed, hopenings, hclosings⟩ := hresult
  obtain ⟨hlink, hstate, howned, -⟩ := connect_undone [] onPin rfl hrun hfailed
  exact ⟨r, st', rfl, hfailed, hlink, hstate, howned, hopenings, hclosings⟩

def stuckPin : Station := failingAt .pinOutput (.raised .system "stuck")

/-- Its port is opened, and never told to close. -/
theorem connect_leaves_port_open :
    failed (connect [] onPin stuckPin).1 = true ∧
      (connect [] onPin stuckPin).2.bench.openings = 1 ∧
        (connect [] onPin stuckPin).2.bench.closings = 0 := by
  decide +kernel

end Station
end SpindleLink
