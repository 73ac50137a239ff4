import SpindleLink.Proofs.Collecting
import SpindleLink.Proofs.SerialTwins
import SpindleLink.Proofs.Transmission

/-! Every operation of a line and of a drive ends alike on a serial port and on a script. The
transmissions leave the modem line at rest, the readings leave it as it was. -/

namespace SpindleLink

variable {T : Type}

namespace Twins

def onScript (t : Twins) (d : Drive T) : Drive T := { d with line := t.scripted }

/-- Two drives that are alike but for their lines. -/
structure Drives (t : Twins) (d d' : Drive T) : Prop where
  line : d.line = t.serial
  twin : d' = t.onScript d

theorem Drives.switched {t : Twins} {d d' : Drive T} (h : t.Drives d d') (on : Bool) :
    t.Drives { d with isOn := on } { d' with isOn := on } where
  line := h.line
  twin := by
    obtain rfl := h.twin
    rfl

variable [TimeScale T] {t : Twins} {high bad : Bool}

section Lines

theorem requireHeld_simulates :
    t.Simulates (T := T) high high high Eq t.serial.requireHeld t.scripted.requireHeld := by
  have hheld : t.Simulates (T := T) high high high Eq (Act.observe t.serial.isReleased)
      (Act.observe t.scripted.isReleased) :=
    .observe fun b b' h => by rw [h.held, h.held']
  exact hheld.bind fun _ _ h => h ▸ .require _ _

theorem wire_simulates (data : Bytes) :
    t.Simulates (T := T) high high high Eq (t.serial.wire data) (t.scripted.wire data) := by
  refine (pause_simulates _ _).bind fun _ _ _ => ?_
  refine ((write_simulates data).relabel _).bind fun accepted _ h => ?_
  subst h
  refine (Simulates.require _ _).bind fun _ _ _ => (Simulates.note _).bind fun _ _ _ => ?_
  exact (Simulates.ofExcept _).bind fun hold _ h => h ▸ pause_simulates _ _

theorem transmission_simulates (data : Bytes) :
    t.Simulates (T := T) high true true Eq (t.serial.transmission data)
      (t.scripted.transmission data) := by
  rw [Line.transmission_eq, Line.transmission_eq]
  exact (switch_simulates true).bind fun _ _ _ => wire_simulates data

theorem recover_simulates :
    t.Simulates (T := T) high false false Eq t.serial.recover t.scripted.recover := by
  have hswitch : t.Simulates (T := T) high false false Eq
      (Line.switch (t.serial.direction.drive false))
      (Line.switch (t.scripted.direction.drive false)) := switch_simulates false
  refine hswitch.orElse fun f => ?_
  split
  · exact .note _
  · exact .raise f

/-- A sending leaves the signal low, however it ends. -/
theorem send_simulates (data : Bytes) :
    t.Simulates (T := T) false false false Eq (t.serial.send data) (t.scripted.send data) := by
  refine requireHeld_simulates.bind fun _ _ _ => ?_
  refine (transmission_simulates data).attempt.bind fun outcome _ h => ?_
  subst h
  cases outcome with
  | error f => exact recover_simulates.bind fun _ _ _ => .raise f
  | ok u => exact (switch_simulates false).bind fun _ _ _ => pause_simulates _ _

theorem dropWaiting_simulates (fuel dropped : Nat) :
    t.Simulates (T := T) high high high Eq (t.serial.dropWaiting fuel dropped)
      (t.scripted.dropWaiting fuel dropped) := by
  induction fuel generalizing dropped with
  | zero => exact .pure rfl
  | succ fuel ih =>
    refine hasWaiting_simulates.bind fun waiting _ h => ?_
    subst h
    split
    · refine (next_simulates (some 0)).bind fun byte _ h => ?_
      subst h
      cases byte with
      | some b => exact ih (dropped + 1)
      | none => exact .pure rfl
    · exact .pure rfl

theorem discardWaiting_simulates :
    t.Simulates (T := T) high high high Eq t.serial.discardWaiting t.scripted.discardWaiting := by
  have hwaiting : t.Simulates (T := T) high high high Eq
      (Act.observe fun b => (t.serial.channel.source b).stale.length)
      (Act.observe fun b => (t.scripted.channel.source b).stale.length) :=
    .observe fun b b' h => congrArg (·.stale.length) h.source_eq.symm
  refine requireHeld_simulates.bind fun _ _ _ => hwaiting.bind fun waiting _ h => ?_
  subst h
  refine (dropWaiting_simulates _ _).bind fun dropped _ h => ?_
  subst h
  exact (Simulates.onlyIf (.note _)).bind fun _ _ _ => .pure rfl

theorem collectNext_simulates (wait : Option T) (got : Bytes) {go go' : UInt8 → Act (Bench T) Bytes}
    (hgo : ∀ b, t.Simulates high high high Eq (go b) (go' b)) :
    t.Simulates high high high Eq (do
      match ← t.serial.channel.next wait with
      | some b => go b
      | none => pure got) (do
      match ← t.scripted.channel.next wait with
      | some b => go' b
      | none => pure got) := by
  refine (next_simulates wait).bind fun byte _ h => ?_
  subst h
  cases byte with
  | some b => exact hgo b
  | none => exact .pure rfl

theorem collect_simulates (deadline : Option T) (missing : Nat) (got : Bytes) :
    t.Simulates high high high Eq (t.serial.collect deadline missing got)
      (t.scripted.collect deadline missing got) := by
  induction missing generalizing got with
  | zero => exact .pure rfl
  | succ missing ih =>
    cases deadline with
    | none => exact collectNext_simulates none got fun b => ih (got ++ [b])
    | some d =>
      refine Simulates.readClock.bind fun now _ h => ?_
      subst h
      simp only
      split
      · exact .pure rfl
      · exact collectNext_simulates _ got fun b => ih (got ++ [b])

theorem deadline_simulates (wait : Option (Wait T)) :
    t.Simulates high high high Eq (Line.deadline wait) (Line.deadline wait) := by
  cases wait with
  | none => exact .pure rfl
  | some w =>
    refine Simulates.readClock.bind fun now _ h => ?_
    subst h
    refine (Simulates.ofExcept _).bind fun time _ h => ?_
    subst h
    exact .pure rfl

theorem receive_simulates (n : Int) (wait : Option (Wait T)) (flush : Bool) :
    t.Simulates high high high Eq (t.serial.receive n wait flush)
      (t.scripted.receive n wait flush) := by
  have hdiscard : t.Simulates (T := T) high high high Eq (discard t.serial.discardWaiting)
      (discard t.scripted.discardWaiting) :=
    discardWaiting_simulates.bind fun _ _ _ => .pure rfl
  rw [Line.receive_eq, Line.receive_eq]
  refine requireHeld_simulates.bind fun _ _ _ => (Simulates.onlyIf hdiscard).bind fun _ _ _ => ?_
  refine (deadline_simulates wait).bind fun deadline _ h => ?_
  subst h
  refine (collect_simulates deadline _ _).bind fun got _ h => ?_
  subst h
  split
  · exact .raise _
  · exact (Simulates.note _).bind fun _ _ _ => .pure rfl

end Lines

section Drives

variable {d d' : Drive T}

theorem command_simulates (h : t.Drives d d') (frame : Command) :
    t.Simulates false false false Eq (d.send frame) (d'.send frame) := by
  obtain rfl := h.twin
  rw [Drive.send, Drive.send, h.line]
  refine (Simulates.ofExcept _).bind fun data _ hdata => ?_
  subst hdata
  refine (send_simulates data).orElse fun f => ?_
  exact (Simulates.onlyIf (.note _)).bind fun _ _ _ => .raise f

theorem start_simulates (h : t.Drives d d') :
    t.Simulates false false false t.Drives d.start d'.start := by
  obtain rfl := h.twin
  rw [Drive.start, Drive.start]
  refine (Simulates.ofExcept _).bind fun frame _ hframe => ?_
  subst hframe
  refine (command_simulates h frame).bind fun _ _ _ => (Simulates.note _).bind fun _ _ _ => ?_
  exact .pure (h.switched true)

theorem stop_simulates (h : t.Drives d d') :
    t.Simulates false false false t.Drives d.stop d'.stop := by
  obtain rfl := h.twin
  rw [Drive.stop, Drive.stop]
  refine (Simulates.ofExcept _).bind fun frame _ hframe => ?_
  subst hframe
  refine (command_simulates h frame).bind fun _ _ _ => (Simulates.note _).bind fun _ _ _ => ?_
  exact .pure (h.switched false)

theorem changeSpeed_simulates (h : t.Drives d d') (rpm : Int) :
    t.Simulates false false false Eq (d.changeSpeed rpm) (d'.changeSpeed rpm) := by
  obtain rfl := h.twin
  rw [Drive.changeSpeed, Drive.changeSpeed]
  refine (Simulates.ofExcept _).bind fun frame _ hframe => ?_
  subst hframe
  exact (command_simulates h frame).bind fun _ _ _ => .note _

theorem awaitBytes_simulates (h : t.Drives d d') (wait : Wait T) (count : Nat) (flush : Bool) :
    t.Simulates high high high Eq (d.awaitBytes wait count flush)
      (d'.awaitBytes wait count flush) := by
  obtain rfl := h.twin
  rw [Drive.awaitBytes, Drive.awaitBytes, h.line]
  refine (receive_simulates _ _ _).orElse fun f => ?_
  split
  · refine (Simulates.ofExcept _).bind fun time _ htime => ?_
    subst htime
    exact (Simulates.note _).bind fun _ _ _ => .raise _
  · exact .raise f

theorem decode_simulates (data : Bytes) :
    t.Simulates (T := T) high high high Eq (Drive.decode data) (Drive.decode data) := by
  rw [Drive.decode]
  split
  · exact .pure rfl
  · exact (Simulates.onlyIf (.note _)).bind fun _ _ _ => .raise _

theorem readSpeed_simulates (h : t.Drives d d') (wait : Option (Wait T)) :
    t.Simulates high high high Eq (d.readSpeed wait) (d'.readSpeed wait) := by
  obtain rfl := h.twin
  rw [Drive.readSpeed, Drive.readSpeed]
  refine (awaitBytes_simulates h _ _ _).bind fun data _ hdata => ?_
  subst hdata
  exact (decode_simulates data).map fun _ _ => congrArg Reading.ofFrame

theorem resynchronise_simulates (h : t.Drives d d') (deadline : T) (rounds : Nat)
    (buffer : Bytes) :
    t.Simulates high high high Eq (d.resynchronise deadline rounds buffer)
      (d'.resynchronise deadline rounds buffer) := by
  induction rounds generalizing buffer with
  | zero => exact .raise _
  | succ rounds ih =>
    rw [Drive.resynchronise, Drive.resynchronise]
    split
    · exact .pure rfl
    · refine (Simulates.note _).bind fun _ _ _ => Simulates.readClock.bind fun now _ hnow => ?_
      subst hnow
      simp only
      split
      · exact .raise _
      · refine ((awaitBytes_simulates h _ _ _).relabel _).bind fun more _ hmore => ?_
        subst hmore
        exact ih _

theorem readReport_simulates (h : t.Drives d d') (wait : Option (Wait T)) (resync : Bool) :
    t.Simulates high high high Eq (d.readReport wait resync) (d'.readReport wait resync) := by
  -- Both know how many bytes are unread, and so make as many rounds.
  have hunread : t.Simulates (T := T) high high high Eq
      (Act.observe fun b => (t.serial.channel.source b).unread.length)
      (Act.observe fun b => (t.scripted.channel.source b).unread.length) :=
    .observe fun b b' h => congrArg (·.unread.length) h.source_eq.symm
  obtain rfl := h.twin
  rw [Drive.readReport, Drive.readReport, h.line]
  refine Simulates.readClock.bind fun now _ hnow => ?_
  subst hnow
  refine (Simulates.ofExcept _).bind fun time _ htime => ?_
  subst htime
  refine (awaitBytes_simulates h _ _ _).bind fun data _ hdata => ?_
  subst hdata
  split
  · refine hunread.bind fun unread _ hunread => ?_
    subst hunread
    exact (resynchronise_simulates h _ _ data).map fun _ _ => congrArg Report.ofFrame
  · exact (decode_simulates data).map fun _ _ => congrArg Report.ofFrame

end Drives

end Twins
end SpindleLink
