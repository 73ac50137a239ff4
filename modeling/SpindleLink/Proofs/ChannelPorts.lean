import SpindleLink.Proofs.FailedReadings
import SpindleLink.Proofs.PortCalls
import SpindleLink.Session

/-! The port of a serial channel under its operations. Only an opening that returns and a closing
change whether there is an open one, and only for the channel that was asked. A call of traffic that
fails ends it, in a fault of the link if the device is to blame. -/

namespace SpindleLink

variable {T : Type}

namespace SerialChannel

/-- Whether the port of a channel is open, none without a port. -/
def plug? (c : SerialChannel) (b : Bench T) : Option Bool := (b.ports.get c.id).map Port.isOpen

theorem connected_iff {c : SerialChannel} {b : Bench T} :
    c.connected b = true ↔ c.plug? b = some true := by
  cases hport : b.ports.get c.id with
  | none => simp [connected, port?, plug?, hport]
  | some port => simp [connected, port?, plug?, hport, Option.filter]

theorem plug?_setPort (c c' : SerialChannel) (p : Option (Port T)) (b : Bench T) :
    c.plug? (c'.setPort p b) = if c'.id = c.id then p.map Port.isOpen else c.plug? b := by
  unfold plug? setPort
  rw [Table.get_set]
  split <;> rfl

theorem plug?_of_ports {c : SerialChannel} {b b' : Bench T} (h : b'.ports = b.ports) :
    c.plug? b' = c.plug? b := by
  rw [plug?, h, plug?]

theorem plug?_congr {c c' : SerialChannel} (h : c'.id = c.id) (b : Bench T) :
    c'.plug? b = c.plug? b := by
  rw [plug?, h, plug?]

theorem plug?_retimed {c c' : SerialChannel} {b : Bench T} {port : Port T}
    (hport : c'.port? b = some port) (timeout : Option (Wait T)) :
    c.plug? (c'.setPort (some { port with timeout := timeout }) b) = c.plug? b := by
  obtain ⟨hget, hopen⟩ := Option.filter_eq_some_iff.mp hport
  rw [plug?_setPort]
  split
  next hid => simp [plug?, ← hid, hget]
  next => rfl

section Traffic

variable (c : SerialChannel)

theorem perform_plug? {α : Type} {call : Call T} {reply : α → Reply}
    {work : Bench T → α × Bench T} (h : ∀ b, (work b).2.ports = b.ports) :
    (Bench.perform call reply work).Leaves c.plug? :=
  Bench.perform_leaves (fun _ _ => rfl) fun b => plug?_of_ports (h (b.counted call))

theorem usePort_plug? (c' : SerialChannel) :
    (c'.usePort : Act (Bench T) (Port T)).Leaves c.plug? := by
  refine .bind (.observe _) fun port => ?_
  cases port with
  | none => exact .raise _
  | some p => exact .pure p

theorem write_plug? (c' : SerialChannel) (data : Bytes) :
    (c'.write data : Act (Bench T) Int).Leaves c.plug? := by
  refine .bind (c.usePort_plug? c') fun _ => .bind (.relabel ?_) fun _ => .pure _
  exact .bind (c.perform_plug? fun _ => rfl) fun _ =>
    .bind (c.perform_plug? fun _ => rfl) fun _ => .pure _

theorem hasWaiting_plug? (c' : SerialChannel) :
    (c'.hasWaiting : Act (Bench T) Bool).Leaves c.plug? :=
  .bind (c.usePort_plug? c') fun _ =>
    .bind (.relabel (c.perform_plug? fun _ => rfl)) fun _ => .pure _

theorem driveRts_plug? (c' : SerialChannel) (level : Bool) :
    (c'.driveRts level : Act (Bench T) Unit).Leaves c.plug? :=
  .bind (c.usePort_plug? c') fun _ => c.perform_plug? fun _ => rfl

end Traffic

theorem limit_still [TimeScale T] (wait : Option (Wait T)) (b : Bench T) :
    ∃ r, (wait.elim (pure none) fun w => some <$> w.resolve : Act (Bench T) (Option T)) b =
      (r, b) := by
  cases wait with
  | none => exact ⟨.ok none, rfl⟩
  | some w => exact ⟨_, Act.map_apply _ _ b⟩

theorem next_plug? [TimeScale T] (c c' : SerialChannel) (wait : Option (Wait T)) :
    (c'.next wait).Leaves c.plug? := by
  intro b
  rcases hport : c'.port? b with _ | port
  · rw [next, Act.bind_error (usePort_closed hport)]
  · rw [next, Act.bind_ok (usePort_open hport)]
    obtain ⟨r, hlimit⟩ := limit_still wait b
    cases r with
    | error f => rw [Act.bind_error hlimit]
    | ok limit =>
      rw [Act.bind_ok hlimit]
      -- Only here the port is known to be open, so the first call is told on its own.
      have htold : c.plug? (Act.onlyIf (Wait.sameLimit port.timeout wait = false)
          (Bench.signal (.portTimeout limit)
            (c'.setPort (some { port with timeout := wait }))) b).2 = c.plug? b := by
        unfold Act.onlyIf
        split
        · rcases hplan : (b.plans.get (Call.portTimeout limit).point).current with _ | f
          · rw [Bench.signal_of_clear hplan]
            exact plug?_retimed (b := b.counted (.portTimeout limit)) hport wait
          · rw [Bench.signal_of_fault hplan]
            rfl
        · rfl
      refine (Act.Leaves.handled (fun _ => .raise _) b).trans
        ((Act.Leaves.behind (fun _ => ?_) b).trans htold)
      exact c.perform_plug? fun _ => rfl

/-- An opening that returns leaves the port open; one that raises leaves it as it was. -/
theorem plug?_open (c : SerialChannel) (b : Bench T) :
    c.plug? (c.open b).2 = if (c.open b).1.isOk then some true else c.plug? b := by
  cases hconnected : c.connected b with
  | true =>
    rw [open_connected hconnected, connected_iff.mp hconnected, ite_self]
  | false =>
    rcases hplan : (b.plans.get .portOpen).current with _ | f
    · obtain ⟨hresult, hport, -⟩ := open_of_clear hconnected hplan
      rw [hresult, plug?, hport]
      rfl
    · rw [open_of_fault hconnected hplan]
      rfl

theorem plug?_close (c : SerialChannel) (b : Bench T) : c.plug? (c.close b).2 = none := by
  rw [plug?, c.port_close b]
  rfl

theorem open_plug?_of_ne {c c' : SerialChannel} (h : c'.id ≠ c.id) :
    (c'.open : Act (Bench T) Unit).Leaves c.plug? := by
  refine .bind (.observe _) fun connected => .ite (.pure ()) (.bind (.relabel ?_) fun _ _ => rfl)
  refine Bench.perform_leaves (fun _ _ => rfl) fun b => ?_
  exact (c.plug?_setPort c' _ (b.counted (.portOpen c'.name c'.baud))).trans (if_neg h)

theorem close_plug?_of_ne {c c' : SerialChannel} (h : c'.id ≠ c.id) :
    (c'.close : Act (Bench T) Unit).Leaves c.plug? := by
  refine .bind (.observe _) fun port => .ite (.pure ()) (.ensuring (.orElse ?_ fun f => ?_) ?_)
  · exact c.perform_plug? fun _ => rfl
  · exact .ite (fun _ => rfl) (.raise f)
  · refine .bind (.change fun b => ?_) fun _ _ => rfl
    exact (c.plug?_setPort c' none b).trans (if_neg h)

/-- What is made of a call to the device that failed. -/
def Told (wrap : Fault → Fault) (e : Entry T) (g : Fault) : Prop :=
  ∃ f, e.reply = .failed f ∧ g = ofDevice wrap f

theorem relabel_blaming {α : Type} {x : Act (Bench T) α} {b : Bench T} (wrap : Fault → Fault)
    (hx : x.Emits b (Act.Blames fun e g => e.reply = .failed g)) :
    (x.relabel (ofDevice wrap)).Emits b (Act.Blames (Told wrap)) :=
  Act.Blaming.relabel hx fun _ f h => ⟨f, h, rfl⟩

section Blame

variable (c : SerialChannel)

theorem write_blaming (data : Bytes) :
    Act.Blaming (T := T) (Told (.portWrite c.name)) (c.write data) := by
  intro b
  apply usePort_emits fun _ => .nil _
  intro port _
  refine Act.Blaming.behind (relabel_blaming _ (Act.Blaming.bind ?_ (fun told => ?_) b)) fun _ =>
    .pure _
  · exact .perform (by simp) fun b => .still rfl rfl rfl
  · exact .bind (.perform (by simp) fun b => .still rfl rfl rfl) fun _ => .pure _

theorem hasWaiting_blaming :
    Act.Blaming (T := T) (Told (.portPoll c.name)) c.hasWaiting := by
  intro b
  apply usePort_emits fun _ => .nil _
  intro port _
  refine Act.Blaming.behind (relabel_blaming _ (Act.Blaming.perform ?_ ?_ b)) fun _ => .pure _
  · simp
  · exact fun b => .still rfl rfl rfl

theorem next_blaming [TimeScale T] (wait : Option (Wait T)) :
    Act.Blaming (Told (.portRead c.name)) (c.next wait) := by
  intro b
  apply usePort_emits fun _ => .nil _
  intro port hport
  obtain ⟨r, hlimit⟩ := limit_still wait b
  cases r with
  | error f => exact .stop hlimit (.nil _)
  | ok limit =>
    apply Act.Emits.step hlimit
    have htold : (Act.onlyIf (Wait.sameLimit port.timeout wait = false)
        (Bench.signal (.portTimeout limit)
          (c.setPort (some { port with timeout := wait })))).Emits b
        (Act.Blames fun e g => e.reply = .failed g) := by
      unfold Act.onlyIf
      split
      · exact (Act.perform_emits (.setPort hport _ _)).mono fun _ _ h => h.blames (by simp)
      · exact .pure (.nil _)
    refine relabel_blaming _ (Act.Blaming.behind htold fun _ => ?_)
    exact .perform (by simp) fun b => .still rfl rfl rfl

end Blame
end SerialChannel

namespace ChannelStep

def usesPort : ChannelStep → Bool
  | .rts _ | .write _ | .hasWaiting | .next _ => true
  | _ => false

/-- The fault of the link that a step makes of one of the device. -/
def wrap? (c : SerialChannel) : ChannelStep → Option (Fault → Fault)
  | .write _ => some (.portWrite c.name)
  | .hasWaiting => some (.portPoll c.name)
  | .next _ => some (.portRead c.name)
  | _ => none

theorem kind_of_wrap? {c : SerialChannel} {step : ChannelStep} {wrap : Fault → Fault}
    (h : step.wrap? c = some wrap) (f : Fault) : (wrap f).kind = .transport := by
  cases step with
  | write data => obtain rfl := Option.some.inj h; rfl
  | hasWaiting => obtain rfl := Option.some.inj h; rfl
  | next wait => obtain rfl := Option.some.inj h; rfl
  | _ => cases h

end ChannelStep

namespace Session

theorem channelStep_blaming {c : SerialChannel} {step : ChannelStep} {wrap : Fault → Fault}
    (h : step.wrap? c = some wrap) :
    Act.Blaming (SerialChannel.Told wrap) (channelStep c step) := by
  cases step with
  | write data =>
    obtain rfl := Option.some.inj h
    exact .map (c.write_blaming data)
  | hasWaiting =>
    obtain rfl := Option.some.inj h
    exact .map c.hasWaiting_blaming
  | next wait =>
    obtain rfl := Option.some.inj h
    exact .map (c.next_blaming wait)
  | _ => cases h

theorem channelStep_shut {c : SerialChannel} {step : ChannelStep} {b : Bench Float}
    (h : step.usesPort = true) (hshut : c.connected b = false) :
    channelStep c step b = (.error (.portNotOpen c.name), b) := by
  have hport : c.port? b = none :=
    Option.isNone_iff_eq_none.mp (Option.isSome_eq_false_iff.mp hshut)
  have huse : c.usePort b = (.error (.portNotOpen c.name), b) :=
    SerialChannel.usePort_closed hport
  cases step with
  | rts level => exact Act.bind_error (Act.bind_error huse)
  | write data =>
    rw [channelStep, Act.map_apply, SerialChannel.write, Act.bind_error huse]
    rfl
  | hasWaiting =>
    rw [channelStep, Act.map_apply, SerialChannel.hasWaiting, Act.bind_error huse]
    rfl
  | next wait =>
    rw [channelStep, Act.map_apply, SerialChannel.next, Act.bind_error huse]
    rfl
  | _ => cases h

/-- Only openings and closings connect and disconnect. -/
theorem channelStep_plug? (c c' : SerialChannel) {step : ChannelStep} (hopen : step ≠ .open)
    (hclose : step ≠ .close) : (channelStep c' step).Leaves c.plug? := by
  cases step with
  | info => exact .bind (.observe _) fun _ => .pure _
  | byteTime => exact .map (.ofExcept _)
  | «open» => exact absurd rfl hopen
  | close => exact absurd rfl hclose
  | rts level => exact .bind (c.driveRts_plug? c' level) fun _ => .pure _
  | write data => exact .map (c.write_plug? c' data)
  | hasWaiting => exact .map (c.hasWaiting_plug? c')
  | next wait => exact .map (c.next_plug? c' wait)

end Session

end SpindleLink
