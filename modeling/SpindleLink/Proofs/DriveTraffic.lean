import SpindleLink.Proofs.Transmission

/-! The calls of each operation of a drive. A command is one transmission of its bytes; the readings
only ask for received bytes. -/

namespace SpindleLink

variable {T : Type}

namespace Drive

variable {α : Type}

theorem decode_makes (p : Call T → Prop) (data : Bytes) :
    Act.Makes p (decode data : Act (Bench T) Status) := by
  rw [decode]
  split
  · exact .pure _
  · exact .bind (.onlyIf (.note _)) fun _ => .raise _

variable [TimeScale T]

/-- The bytes of a command, if it has a written form. -/
def payload? (x : Except Fault Command) : Option Bytes :=
  x.toOption.bind fun frame => frame.toBytes.toOption

/-- What a drive does to send a command: it transmits the bytes, or nothing if there are none. -/
def Commanded (d : Drive T) (x : Except Fault Command) (b : Bench T) (es : List (Entry T))
    (r : Except Fault α) : Prop :=
  match payload? x with
  | some data => d.line.Transmitted data b es r
  | none => es = [] ∧ ∀ a, r ≠ .ok a

/-- A command that returns was transmitted in full. -/
theorem Commanded.full {d : Drive T} {x : Except Fault Command} {b : Bench T}
    {es : List (Entry T)} {r : Except Fault α} (h : d.Commanded x b es r) (hr : ∃ a, r = .ok a) :
    ∃ data, payload? x = some data ∧ d.line.Full data (es.map Entry.did) := by
  unfold Commanded at h
  cases hpayload : payload? x with
  | none =>
    rw [hpayload] at h
    obtain ⟨a, ha⟩ := hr
    exact absurd ha (h.2 a)
  | some data =>
    rw [hpayload] at h
    exact ⟨data, rfl, h.returned.mp hr⟩

theorem Commanded.map {β : Type} {d : Drive T} {x : Except Fault Command} {b : Bench T}
    {es : List (Entry T)} {r : Except Fault α} (h : d.Commanded x b es r) (f : α → β) :
    d.Commanded x b es (r.map f) := by
  unfold Commanded at h ⊢
  cases hpayload : payload? x with
  | some data =>
    rw [hpayload] at h
    exact h.map f
  | none =>
    rw [hpayload] at h
    refine ⟨h.1, ?_⟩
    cases r with
    | error e => simp [Except.map]
    | ok a => exact absurd rfl (h.2 a)

theorem send_emits (d : Drive T) {frame : Command} {data : Bytes}
    (hdata : frame.toBytes = .ok data) (b : Bench T) :
    (d.send frame).Emits b (d.line.Transmitted data b) := by
  have hbytes : (Act.ofExcept (frame.toBytes.mapError Fault.rejected) : Act (Bench T) Bytes) b =
      (.ok data, b) := by
    rw [hdata]
    rfl
  have hsend := d.line.send_transmitted data b
  apply Act.Emits.step hbytes
  apply hsend.orElse (Q := fun f es r => es = [] ∧ r = .error f)
  · intro f b' _ _
    rw [Act.onlyIf]
    split
    · exact .behind_note fun _ _ => .raise ⟨rfl, rfl⟩
    · exact .step rfl (.raise ⟨rfl, rfl⟩)
  · intro es u h
    exact h
  · intro es f fs r h hraised
    obtain ⟨rfl, rfl⟩ := hraised
    rw [List.append_nil]
    exact h

theorem command_emits (d : Drive T) (x : Except Fault Command) {finish : Command → Act (Bench T) α}
    (hfinish : ∀ frame b, (finish frame).Emits b fun es r => es = [] ∧ ∃ a, r = .ok a)
    (b : Bench T) :
    (do
      let frame ← Act.ofExcept x
      d.send frame
      finish frame).Emits b (d.Commanded x b) := by
  cases hx : x with
  | error f => exact .stop rfl ⟨rfl, by simp⟩
  | ok frame =>
    apply Act.Emits.step rfl
    cases hdata : frame.toBytes with
    | error e =>
      have hpayload : payload? (.ok frame) = none := by
        rw [payload?, Except.toOption, Option.bind_some, hdata]
        rfl
      have hsend : d.send frame b = (.error (.rejected e), b) := by
        rw [send, hdata]
        rfl
      apply Act.Emits.stop hsend
      rw [Commanded, hpayload]
      exact ⟨rfl, by simp⟩
    | ok data =>
      have hpayload : payload? (.ok frame) = some data := by
        rw [payload?, Except.toOption, Option.bind_some, hdata]
        rfl
      have hsend := d.send_emits hdata b
      apply hsend.bind fun _ b' _ _ => hfinish frame b'
      · intro es f h
        rw [Commanded, hpayload]
        exact h.congr (by simp)
      · intro es u fs r h hquiet
        obtain ⟨rfl, hr⟩ := hquiet
        rw [Commanded, hpayload, List.append_nil]
        exact h.congr ⟨fun _ => hr, fun _ => ⟨u, rfl⟩⟩

theorem start_emits (d : Drive T) (b : Bench T) :
    d.start.Emits b (d.Commanded (Command.start d.rotation) b) := by
  refine d.command_emits (Command.start d.rotation) (fun frame b' => ?_) b
  exact .behind_note fun _ _ => .pure ⟨rfl, { d with isOn := true }, rfl⟩

theorem stop_emits (d : Drive T) (b : Bench T) :
    d.stop.Emits b (d.Commanded Command.stop b) := by
  refine d.command_emits Command.stop (fun frame b' => ?_) b
  exact .behind_note fun _ _ => .pure ⟨rfl, { d with isOn := false }, rfl⟩

theorem changeSpeed_emits (d : Drive T) (rpm : Int) (b : Bench T) :
    (d.changeSpeed rpm).Emits b (d.Commanded (Command.speed rpm (speedKeys d.isOn)) b) := by
  refine d.command_emits (Command.speed rpm (speedKeys d.isOn)) (fun frame b' => ?_) b
  exact .note ⟨rfl, (), rfl⟩

theorem awaitBytes_makes (d : Drive T) (wait : Wait T) (count : Nat) (flush : Bool) :
    Act.Makes d.line.channel.Receives (d.awaitBytes wait count flush) := by
  refine .orElse (d.line.receive_makes count (some wait) flush) fun f => .ite ?_ (.raise f)
  exact .bind (x := wait.resolve) (.ofExcept _) fun t => .bind (.note _) fun _ => .raise _

theorem resynchronise_makes (d : Drive T) (deadline : T) (rounds : Nat) (buffer : Bytes) :
    Act.Makes d.line.channel.Receives (d.resynchronise deadline rounds buffer) := by
  induction rounds generalizing buffer with
  | zero => exact .raise _
  | succ rounds ih =>
    unfold resynchronise
    split
    · exact .pure _
    · refine .bind (.note _) fun _ => .bind (x := Bench.readClock) .readClock fun now =>
        .ite (.raise _) ?_
      exact .bind (.relabel (d.awaitBytes_makes _ _ _)) fun more => ih _

theorem readSpeed_makes (d : Drive T) (wait : Option (Wait T)) :
    Act.Makes d.line.channel.Receives (d.readSpeed wait) :=
  .bind (d.awaitBytes_makes _ _ _) fun data => .map (decode_makes _ data)

theorem readReport_makes (d : Drive T) (wait : Option (Wait T)) (resync : Bool) :
    Act.Makes d.line.channel.Receives (d.readReport wait resync) := by
  rw [readReport]
  refine .bind (x := Bench.readClock) .readClock fun now =>
    .bind (x := (wait.getD d.readTimeout).resolve) (.ofExcept _) fun t =>
      .bind (d.awaitBytes_makes _ _ _) fun data => ?_
  cases resync with
  | false => exact .map (decode_makes _ data)
  | true => exact .bind (.observe _) fun unread => .map (d.resynchronise_makes _ _ _)

end Drive
end SpindleLink
