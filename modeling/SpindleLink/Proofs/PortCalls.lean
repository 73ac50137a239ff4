import SpindleLink.Proofs.Holdings
import SpindleLink.Proofs.Traffic

/-! The opening and closing of ports. Closing a channel takes its port away even when the call for
it fails; it ends badly when the call fails with a fault that is not of the serial device. Whatever
is done with a direction line, ports stay as they are. -/

namespace SpindleLink

variable {T : Type}

namespace Call

def opensPort : Call T → Bool
  | portOpen _ _ => true
  | _ => false

def closesPort : Call T → Bool
  | portClose => true
  | _ => false

theorem point_ne_portClose {c : Call T} (h : c.closesPort = false) : c.point ≠ .portClose := by
  cases c <;> simp_all [closesPort, point]

end Call

namespace Bench

def openings (b : Bench T) : Nat := b.trace.countP fun e => e.call.opensPort && !e.failed

def closings (b : Bench T) : Nat := b.trace.countP fun e => e.call.closesPort

/-- The ports, which calls to close one are going to fail, and how often ports were opened and
closed. -/
def portState (b : Bench T) : Table Nat (Option (Port T)) × FaultPlan × Nat × Nat :=
  (b.ports, b.plans.get .portClose, b.openings, b.closings)

theorem signal_portState {c : Call T} {effect : Bench T → Bench T} (hopen : c.opensPort = false)
    (hclose : c.closesPort = false) (heffect : ∀ b, (effect b).portState = b.portState) :
    (signal c effect).Leaves portState := by
  have hplan (b : Bench T) : (b.counted c).plans.get .portClose = b.plans.get .portClose :=
    plans_counted_of_ne (Call.point_ne_portClose hclose) b
  have hcounted (b : Bench T) : (b.counted c).portState = b.portState := by
    unfold portState
    rw [hplan]
    rfl
  have happend (b : Bench T) (time : T) (r : Reply) :
      ({ b with trace := b.trace ++ [⟨time, c, r⟩] } : Bench T).portState = b.portState := by
    simp [portState, openings, closings, hopen, hclose]
  apply perform_leaves
  · intro b r
    exact (happend _ _ _).trans (hcounted b)
  · intro b
    exact (happend _ _ _).trans ((heffect _).trans (hcounted b))

theorem touch_portState {c : Call T} (hopen : c.opensPort = false)
    (hclose : c.closesPort = false) : (touch c).Leaves portState :=
  signal_portState hopen hclose fun _ => rfl

theorem signal_of_fault {c : Call T} {b : Bench T} {f : Fault}
    (h : (b.plans.get c.point).current = some f) (effect : Bench T → Bench T) :
    signal c effect b = (.error f, (b.counted c).record c (.failed f)) := by
  rw [signal, perform_of_fault h]

theorem signal_of_clear {c : Call T} {b : Bench T} (h : (b.plans.get c.point).current = none)
    (effect : Bench T → Bench T) :
    signal c effect b = (.ok (), { effect (b.counted c) with
      trace := (effect (b.counted c)).trace ++ [⟨b.now, c, .done⟩] }) := by
  rw [signal, perform_of_clear h]

theorem touch_of_fault {c : Call T} {b : Bench T} {f : Fault}
    (h : (b.plans.get c.point).current = some f) :
    touch c b = (.error f, (b.counted c).record c (.failed f)) :=
  signal_of_fault h _

theorem touch_of_clear {c : Call T} {b : Bench T} (h : (b.plans.get c.point).current = none) :
    touch c b = (.ok (), (b.counted c).record c .done) :=
  signal_of_clear h _

theorem note_portState (n : Note) : (note n : Act (Bench T) Unit).Leaves portState :=
  .change fun _ => rfl

end Bench

namespace DirectionLine

theorem drivePin_portState (id : Nat) (pin : Int) (high : Bool) :
    (drivePin id pin high : Act (Bench T) Unit).Leaves Bench.portState :=
  .bind (.observe _) fun _ => .ite (Bench.touch_portState rfl rfl) (.raise _)

theorem disengage_portState (d : DirectionLine) :
    (d.disengage : Act (Bench T) Unit).Leaves Bench.portState := by
  cases d with
  | scripted id => exact Bench.touch_portState rfl rfl
  | gpio id pin => exact drivePin_portState id pin false
  | rts id channel activeHigh =>
    refine .bind (.bind (.observe _) fun port => ?_) fun _ => Bench.touch_portState rfl rfl
    cases port with
    | none => exact .raise _
    | some p => exact .pure p

theorem open_portState (d : DirectionLine) :
    (d.open : Act (Bench T) Unit).Leaves Bench.portState := by
  cases d with
  | scripted id => exact .pure ()
  | rts id channel activeHigh => exact .pure ()
  | gpio id pin =>
    refine .bind (.observe _) fun _ => .bind .require fun _ => ?_
    refine .bind (Bench.touch_portState rfl rfl) fun _ => ?_
    exact .bind (Bench.signal_portState rfl rfl fun _ => rfl) fun _ => Bench.note_portState _

theorem close_portState (d : DirectionLine) :
    (d.close : Act (Bench T) Unit).Leaves Bench.portState := by
  cases d with
  | scripted id => exact .pure ()
  | rts id channel activeHigh => exact .pure ()
  | gpio id pin =>
    refine .bind (.observe _) fun _ => .ite ?_ (.pure ())
    exact .bind (Bench.touch_portState rfl rfl) fun _ =>
      Bench.signal_portState rfl rfl fun _ => rfl

end DirectionLine

namespace Line

theorem make_portState (channel : Channel) (direction : DirectionLine) (byteTime : Number)
    (pacing : Pacing) :
    (make channel direction byteTime pacing : Act (Bench T) Line).Leaves Bench.portState := by
  refine .ite (.raise _) (.bind (.observe _) fun _ => .ite (.raise _) ?_)
  refine .bind (.observe _) fun _ => .ite (.raise _) ?_
  refine .bind (.relabel direction.disengage_portState) fun _ => .bind (fun _ => rfl) fun id => ?_
  exact .bind (.change fun _ => rfl) fun _ => .pure _

theorem release_portState (l : Line) :
    (l.release : Act (Bench T) Unit).Leaves Bench.portState :=
  .bind (.observe _) fun _ => .ite (.pure ())
    (.ensuring (.relabel l.direction.disengage_portState) (.change fun _ => rfl))

end Line

namespace SerialChannel

theorem open_connected {c : SerialChannel} {b : Bench T} (h : c.connected b = true) :
    c.open b = (.ok (), b) := by
  rw [SerialChannel.open, Act.bind_ok (Act.observe_apply _ b), if_pos h]
  rfl

theorem open_of_fault {c : SerialChannel} {b : Bench T} {f : Fault} (h : c.connected b = false)
    (hplan : (b.plans.get .portOpen).current = some f) :
    c.open b = (.error (ofDevice (.portRefused c.name c.baud) f),
      (b.counted (.portOpen c.name c.baud)).record (.portOpen c.name c.baud) (.failed f)) := by
  have hcall := Bench.signal_of_fault (c := .portOpen c.name c.baud) hplan
    (c.setPort (some ⟨true, none⟩))
  rw [SerialChannel.open, Act.bind_ok (Act.observe_apply _ b), if_neg (by simp [h]),
    Act.bind_error (Act.relabel_error hcall)]

theorem open_of_clear {c : SerialChannel} {b : Bench T} (h : c.connected b = false)
    (hplan : (b.plans.get .portOpen).current = none) :
    (c.open b).1 = .ok () ∧ (c.open b).2.ports.get c.id = some ⟨true, none⟩ ∧
      (c.open b).2.openings = b.openings + 1 := by
  have hcall := Bench.signal_of_clear (c := .portOpen c.name c.baud) hplan
    (c.setPort (some ⟨true, none⟩))
  rw [SerialChannel.open, Act.bind_ok (Act.observe_apply _ b), if_neg (by simp [h]),
    Act.bind_ok (Act.relabel_ok hcall)]
  refine ⟨rfl, ?_, ?_⟩
  · simp [setPort, Bench.note]
  · simp [setPort, Bench.note, Bench.openings, Call.opensPort, Entry.failed]

theorem openings_of_open_error {c : SerialChannel} {b b' : Bench T} {f : Fault}
    (h : c.open b = (.error f, b')) : b'.openings = b.openings := by
  cases hconnected : c.connected b with
  | true =>
    rw [open_connected hconnected] at h
    cases h
  | false =>
    cases hplan : (b.plans.get .portOpen).current with
    | some e =>
      rw [open_of_fault hconnected hplan] at h
      obtain ⟨-, rfl⟩ := Prod.mk.inj h
      simp [Bench.openings, Entry.failed]
    | none =>
      have hresult := (open_of_clear hconnected hplan).1
      rw [h] at hresult
      cases hresult

theorem open_ok {c : SerialChannel} {b b' : Bench T} (h : c.open b = (.ok (), b')) :
    (b'.ports.get c.id).isSome = true ∧
      (b'.openings = b.openings ∨ b'.openings = b.openings + 1) := by
  cases hconnected : c.connected b with
  | true =>
    rw [open_connected hconnected] at h
    obtain ⟨-, rfl⟩ := Prod.mk.inj h
    exact ⟨Option.isSome_of_isSome_filter Port.isOpen _ hconnected, .inl rfl⟩
  | false =>
    cases hplan : (b.plans.get .portOpen).current with
    | some e =>
      rw [open_of_fault hconnected hplan] at h
      cases h
    | none =>
      obtain ⟨-, hport, hopenings⟩ := open_of_clear hconnected hplan
      rw [h] at hport hopenings
      exact ⟨by simp [hport], .inr hopenings⟩

theorem closings_open (c : SerialChannel) :
    (c.open : Act (Bench T) Unit).Leaves Bench.closings := by
  refine .bind (.observe _) fun connected => .ite (.pure ()) (.bind (.relabel ?_) fun _ _ => rfl)
  apply Bench.perform_leaves
  · intro b r
    simp [Bench.closings, Call.closesPort]
  · intro b
    simp [Bench.closings, Call.closesPort, setPort]

/-- Whether closing a channel ends in a fault: it has a port, and the next call to close one fails
with a fault that is not of the serial device. -/
def jams (c : SerialChannel) (b : Bench T) : Bool :=
  (b.ports.get c.id).isSome &&
    ((b.plans.get .portClose).current.elim false fun f => !f.isA .serial)

/-- The call that closes a port, and what is made of its fault. -/
def closing (c : SerialChannel) : Act (Bench T) Unit :=
  (Bench.touch .portClose).orElse fun f =>
    if f.isA .serial then Bench.note (.portCloseFailed c.name f) else .raise f

theorem close_of_port {c : SerialChannel} {b : Bench T} (h : (b.ports.get c.id).isSome = true) :
    c.close b = c.closing.ensuring (do
      Act.change (c.setPort none)
      Bench.note (.portClosed c.name)) b := by
  rw [close, Act.bind_ok (Act.observe_apply _ b), if_neg (by simp [Option.isSome_iff_ne_none.mp h])]
  rfl

theorem close_without_port {c : SerialChannel} {b : Bench T}
    (h : (b.ports.get c.id).isSome = false) : c.close b = (.ok (), b) := by
  rw [close, Act.bind_ok (Act.observe_apply _ b), if_pos (by simpa using h)]
  rfl

theorem connected_eq_false {c : SerialChannel} {b : Bench T} (h : b.ports.get c.id = none) :
    c.connected b = false := by
  simp [connected, port?, h]

theorem port_close (c : SerialChannel) (b : Bench T) : (c.close b).2.ports.get c.id = none := by
  cases hport : (b.ports.get c.id).isSome with
  | false =>
    rw [close_without_port hport]
    simpa using hport
  | true =>
    rw [close_of_port hport, Act.ensuring_snd]
    simp [Bench.note, Act.change, setPort, bind, Act.bind]

theorem openings_closing (c : SerialChannel) :
    (c.closing : Act (Bench T) Unit).Leaves Bench.openings := by
  refine .orElse (Bench.perform_leaves ?_ ?_) fun f => .ite (fun _ => rfl) (.raise f)
  · intro b r
    simp [Bench.openings, Call.opensPort]
  · intro b
    simp [Bench.openings, Call.opensPort]

theorem openings_close (c : SerialChannel) :
    (c.close : Act (Bench T) Unit).Leaves Bench.openings := by
  refine .bind (.observe _) fun port => .ite (.pure ()) (.ensuring c.openings_closing ?_)
  exact .bind (.change fun _ => rfl) fun _ _ => rfl

theorem closings_close {c : SerialChannel} {b : Bench T}
    (h : (b.ports.get c.id).isSome = true) : (c.close b).2.closings = b.closings + 1 := by
  have hlast : (do
      Act.change (c.setPort none)
      Bench.note (.portClosed c.name) : Act (Bench T) Unit).Leaves Bench.closings :=
    .bind (.change fun _ => rfl) fun _ _ => rfl
  have hhandler (f : Fault) : (if f.isA .serial then Bench.note (.portCloseFailed c.name f)
      else .raise f : Act (Bench T) Unit).Leaves Bench.closings :=
    .ite (fun _ => rfl) (.raise f)
  calc (c.close b).2.closings = (c.closing b).2.closings := by
        rw [close_of_port h, Act.Leaves.ensured hlast]
    _ = (Bench.touch .portClose b).2.closings := Act.Leaves.handled hhandler b
    _ = b.closings + 1 := by
        cases hplan : (b.plans.get .portClose).current with
        | some f =>
          rw [Bench.touch_of_fault hplan]
          simp [Bench.closings, Call.closesPort]
        | none =>
          rw [Bench.touch_of_clear hplan]
          simp [Bench.closings, Call.closesPort]

theorem close_ok_iff (c : SerialChannel) (b : Bench T) :
    (c.close b).1 = .ok () ↔ c.jams b = false := by
  cases hport : (b.ports.get c.id).isSome with
  | false => simp [close_without_port hport, jams, hport]
  | true =>
    have hresult : (c.close b).1 = (c.closing b).1 := by
      rw [close_of_port hport]
      rfl
    rw [hresult]
    cases hplan : (b.plans.get .portClose).current with
    | none =>
      rw [closing, Act.orElse_ok (Bench.touch_of_clear hplan)]
      simp [jams, hplan]
    | some f =>
      rw [closing, Act.orElse_error (Bench.touch_of_fault hplan)]
      by_cases hf : f.isA .serial = true
      · simp [jams, hplan, hf, Bench.note]
      · simp [jams, hplan, hf, hport]

end SerialChannel
end SpindleLink
