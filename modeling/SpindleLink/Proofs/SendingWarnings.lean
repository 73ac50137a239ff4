import SpindleLink.Proofs.Deadlines
import SpindleLink.Proofs.FirstFaults
import SpindleLink.Proofs.LinkFailures
import SpindleLink.Proofs.ReadingWarnings
import SpindleLink.Proofs.Reception

/-! What a sending says of its failures. It warns of every fault of the link. Of any other fault of
the inverter's family, which only a call can have raised, it says nothing; a warning is then given
only if the line cannot be set to receive. So a failed operation of the drive can pass without a
warning, in sending and in reading. -/

namespace SpindleLink

variable {T : Type}

namespace Act

variable {α : Type}

/-- No run of the action gives a warning. -/
abbrev Quiet (x : Act (Bench T) α) : Prop := Plainly (fun _ _ => True) (fun _ => True) x

namespace Plainly

theorem perform_quiet {c : Call T} {reply : α → Reply} {work : Bench T → α × Bench T}
    (hreply : ∀ a f, reply a ≠ .failed f)
    (hwork : ∀ b, (work b).2.trace = b.trace ∧ (work b).2.log = b.log) :
    Quiet (Bench.perform c reply work) :=
  (perform hreply hwork).mono (fun _ _ _ => trivial) fun _ h => h

theorem signal_quiet {c : Call T} {effect : Bench T → Bench T}
    (heffect : ∀ b, (effect b).trace = b.trace ∧ (effect b).log = b.log) :
    Quiet (Bench.signal c effect) := perform_quiet (by simp) heffect

theorem usePort_quiet (c : SerialChannel) : Quiet (T := T) c.usePort :=
  (Channel.usePort_plainly c).mono (fun _ _ h => h) fun _ _ => trivial

theorem relabel_quiet {x : Act (Bench T) α} (h : Quiet x) (f : Fault → Fault) :
    Quiet (x.relabel f) := h.relabel (fun _ _ h => h) fun _ h => h

theorem records {x : Act (Bench T) α} (h : Quiet x) {b : Bench T}
    {P : List (Entry T) → Except Fault α → Prop} (hx : x.Emits b P) :
    x.Records b fun es notes r => ¬ Warned notes ∧ P es r := by
  obtain ⟨es, notes, htrace, hlog, hplain⟩ := h b
  obtain ⟨es', hgrew, hP⟩ := hx
  obtain rfl := List.append_cancel_left (htrace.symm.trans hgrew.trace)
  exact ⟨es, notes, htrace, hlog, hplain.quiet, hP⟩

end Plainly
end Act

theorem DirectionLine.drive_quiet (d : DirectionLine) (high : Bool) :
    Act.Quiet (T := T) (d.drive high) := by
  have htouch (c : Call T) : Act.Quiet (Bench.touch c) := .signal_quiet fun _ => ⟨rfl, rfl⟩
  cases d with
  | scripted id => cases high <;> exact htouch _
  | rts id c activeHigh => cases high <;> exact .bind (.usePort_quiet c) fun _ => htouch _
  | gpio id pin =>
    cases high <;> exact .bind (.observe _) fun _ => .ite (htouch _) (.raise trivial)

theorem DirectionLine.disengage_quiet (d : DirectionLine) : Act.Quiet (T := T) d.disengage :=
  d.drive_quiet false

theorem Channel.write_quiet (channel : Channel) (data : Bytes) :
    Act.Quiet (T := T) (channel.write data) := by
  cases channel with
  | scripted id => exact .perform_quiet (by simp) fun _ => ⟨rfl, rfl⟩
  | serial c =>
    have hpush : Act.Quiet (T := T) (do
        let accepted ← Bench.perform (.portWrite data) Reply.accepted fun b =>
          (b.device.acceptance.answer data.length, b)
        Bench.touch .portFlush
        pure accepted) :=
      .bind (.perform_quiet (by simp) fun _ => ⟨rfl, rfl⟩) fun told =>
        .bind (.signal_quiet fun _ => ⟨rfl, rfl⟩) fun _ => .pure told
    exact .map (.bind (.usePort_quiet c) fun _ => .bind (hpush.relabel_quiet _) fun _ => .pure _)

theorem Pacing.pause_quiet [TimeScale T] (p : Pacing) (ms : Int) :
    Act.Quiet (T := T) (p.pause ms) := by
  cases p with
  | delay =>
    refine .bind (.signal_quiet fun b => ?_) fun _ => .require trivial
    cases (TimeScale.ofMillis? ms : Option T) <;> exact ⟨rfl, rfl⟩
  | sleep =>
    rw [pause]
    cases (TimeScale.ofMillis? ms : Option T) with
    | none => exact .raise trivial
    | some t => exact .signal_quiet fun _ => ⟨rfl, rfl⟩

namespace Line

variable {l : Line}

theorem switch_quiet {x : Act (Bench T) Unit} (h : Act.Quiet x) : Act.Quiet (switch x) :=
  h.relabel_quiet _

/-- The last call was to set the line to receive, and it failed by a fault of the system. -/
def Sticks (l : Line) (es : List (Entry T)) : Prop :=
  ∃ cause, (es.map Entry.did).getLast? = some (l.direction.signalCall false, .failed cause) ∧
    cause.isA .system = true

theorem sticks_append {es fs : List (Entry T)} (h : fs ≠ []) :
    l.Sticks (es ++ fs) ↔ l.Sticks fs := by
  obtain ⟨e, he⟩ := Option.ne_none_iff_exists'.mp (mt List.getLast?_eq_none_iff.mp h)
  simp [Sticks, he]

theorem lower_emits {b : Bench T} (h : l.direction.isLive b = true) :
    (switch l.direction.disengage).Emits b fun es r =>
      (es.map Entry.did = [(l.direction.signalCall false, .done)] ∧ r = .ok ()) ∨
        ∃ cause, es.map Entry.did = [(l.direction.signalCall false, .failed cause)] ∧
          r = .error (ofSystem .direction cause) := by
  have hcall : (l.direction.drive false).Emits b
      (Act.Made (l.direction.signalCall false) fun _ => .done) := by
    rw [Act.Emits, DirectionLine.drive_live h]
    exact Act.touch_emits _ b
  exact hcall.relabel (fun es u hmade => .inl ⟨hmade.map_did, rfl⟩)
    fun es f hmade => .inr ⟨f, hmade.did_error, rfl⟩

/-- Of a fault that is not of the link but of the inverter's family, a line gives a warning just if
it sticks. -/
def WarnsStuck {α : Type} (l : Line) (es : List (Entry T)) (notes : List Note)
    (r : Except Fault α) : Prop :=
  ∀ f, r = .error f → f.isA .inverter = true → f.isA .transport = false →
    (Warned notes ↔ l.Sticks es)

theorem sticks_lowered {es : List (Entry T)}
    (h : es.map Entry.did = [(l.direction.signalCall false, .done)]) : ¬ l.Sticks es := by
  simp [Sticks, h]

theorem sticks_failed {es : List (Entry T)} {cause : Fault}
    (h : es.map Entry.did = [(l.direction.signalCall false, .failed cause)]) :
    l.Sticks es ↔ cause.isA .system = true := by
  simp [Sticks, h]

theorem not_sticks_of_pauses {es fs : List (Entry T)} (h : ¬ l.Sticks es)
    (hpauses : ∀ e ∈ fs, e.call.isPause = true) : ¬ l.Sticks (es ++ fs) := by
  by_cases hfs : fs = []
  · rwa [hfs, List.append_nil]
  · rw [sticks_append hfs]
    rintro ⟨cause, hlast, -⟩
    obtain ⟨e, he, hdid⟩ := List.mem_map.mp (List.mem_of_getLast? hlast)
    have hpause := hpauses e he
    rw [show e.call = l.direction.signalCall false from congrArg Prod.fst hdid,
      DirectionLine.isPause_signalCall] at hpause
    cases hpause

/-- Falling back with a call, or behind a fault of the link, a line gives no other warning. -/
theorem Fallback.warnsStuck {first : Fault} {es : List (Entry T)} {notes : List Note}
    {r : Except Fault Unit} (h : l.Fallback first (es.map Entry.did) r notes)
    (hcall : es ≠ [] ∨ first.isA .transport = true) : l.WarnsStuck es notes r := by
  intro f hf hinverter htransport
  generalize hcalls : es.map Entry.did = calls at h
  cases h with
  | lowered => exact iff_of_false warned_nil (sticks_lowered hcalls)
  | noted hfails hsystem =>
    obtain rfl := Except.error.inj hf
    rcases hfails with hdid | ⟨hnone, -⟩
    · exact iff_of_true (by simp [Note.level])
        ((sticks_failed (hcalls.trans hdid)).mpr hsystem)
    · rcases hcall with hcall | hcall
      · exact absurd (List.map_eq_nil_iff.mp (hcalls.trans hnone)) hcall
      · rw [hcall] at htransport
        cases htransport
  | replaced hfails hother =>
    rcases hfails with hdid | ⟨-, hkind⟩
    · refine iff_of_false warned_nil ?_
      simp [sticks_failed (hcalls.trans hdid), hother]
    · simp [Fault.isA, hkind, Kind.isA, Kind.families] at hother

theorem fallback_warns {b : Bench T} (hlive : l.direction.isLive b = true) (first : Fault) :
    (l.recover >>= fun _ => Act.raise first : Act (Bench T) Unit).Records b fun es notes r =>
      es ≠ [] ∧ l.WarnsStuck es notes r := by
  obtain ⟨es, notes, htrace, hlog, hfallback⟩ := l.fallback first b
  obtain ⟨fs, hgrew, ⟨e, hfs, -⟩, -⟩ := recover_emits (switch_emits hlive false) first
  have hes : es ≠ [] := by
    rw [List.append_cancel_left (htrace.symm.trans hgrew.trace), hfs]
    exact List.cons_ne_nil e []
  exact ⟨es, notes, htrace, hlog, hes, hfallback.warnsStuck (.inl hes)⟩

variable [TimeScale T]

theorem close_warns {b : Bench T} (hlive : l.direction.isLive b = true) :
    (do
      switch l.direction.disengage
      l.pacing.pause turnaround : Act (Bench T) Unit).Records b fun es notes r =>
        es ≠ [] ∧ l.WarnsStuck es notes r := by
  have hlower := (switch_quiet l.direction.disengage_quiet).records (lower_emits hlive)
  refine hlower.bind (fun es notes f h => ?_) fun es notes u b' _ h => ?_
  · obtain ⟨hquiet, ⟨-, hr⟩ | ⟨cause, hdid, hr⟩⟩ := h
    · cases hr
    · refine ⟨?_, ?_⟩
      · rintro rfl
        cases hdid
      · rintro _ ⟨⟩ - htransport
        rw [Except.error.inj hr, isA_ofSystem fun _ => rfl] at htransport
        exact iff_of_false hquiet (by simp [sticks_failed hdid, htransport])
  · obtain ⟨hquiet, ⟨hdid, -⟩ | ⟨cause, -, hr⟩⟩ := h
    · refine ((l.pacing.pause_quiet turnaround).records
        (l.pacing.pause_emits turnaround b')).mono ?_
      rintro fs more r ⟨hquiet', hpaused⟩
      refine ⟨fun hnil => ?_, fun f _ _ _ => ?_⟩
      · rw [(List.append_eq_nil_iff.mp hnil).1] at hdid
        cases hdid
      · exact iff_of_false (by simp [hquiet, hquiet'])
          (not_sticks_of_pauses (sticks_lowered hdid) hpaused.pauses)
    · cases hr

theorem transmission_quiet (l : Line) (data : Bytes) :
    Act.Quiet (T := T) (l.transmission data) := by
  refine .bind (switch_quiet (l.direction.drive_quiet true)) fun _ => ?_
  refine .bind (l.pacing.pause_quiet _) fun _ => ?_
  refine .bind ((l.channel.write_quiet data).relabel_quiet _) fun _ => ?_
  refine .bind (.require trivial) fun _ => ?_
  refine .bind (.note (by simp [Note.level])) fun _ => ?_
  exact .bind (.ofExcept fun _ _ => trivial) fun _ => l.pacing.pause_quiet _

theorem send_dead_warns {b : Bench T} (hheld : l.isReleased b = false)
    (hdead : l.direction.isLive b = false) (data : Bytes) :
    (l.send data).Records b l.WarnsStuck := by
  obtain ⟨f, hup⟩ := switch_dead hdead true
  have htransmission : l.transmission data b = (.error (.direction f), b) := by
    rw [transmission_eq, Act.bind_error hup]
  have hsend : l.send data b = (l.recover >>= fun _ => Act.raise (.direction f)) b := by
    rw [send, Act.bind_ok (requireHeld_of_held hheld), Act.bind_ok (Act.attempt_apply _ b),
      htransmission]
  obtain ⟨es, notes, htrace, hlog, hfallback⟩ := l.fallback (.direction f) b
  rw [Act.Records, hsend]
  exact ⟨es, notes, htrace, hlog, hfallback.warnsStuck (.inr rfl)⟩

/-- Up to the last signal a sending is quiet, and that signal decides. -/
theorem send_live_warns {b : Bench T} (hheld : l.isReleased b = false)
    (hlive : l.direction.isLive b = true) (data : Bytes) :
    (l.send data).Records b l.WarnsStuck := by
  obtain ⟨es, notes, htrace, hlog, hplain⟩ := l.transmission_quiet data b
  obtain ⟨_, hgrew, -⟩ := l.transmission_fails data b
  have hlive' := (hgrew.live l.direction).trans hlive
  have hrest {x : Act (Bench T) Unit} (hsend : l.send data b = x (l.transmission data b).2)
      (hx : x.Records (l.transmission data b).2 fun fs more r => fs ≠ [] ∧ l.WarnsStuck fs more r) :
      (l.send data).Records b l.WarnsStuck := by
    obtain ⟨fs, more, htrace', hlog', hfs, hwarns⟩ := hx
    rw [Act.Records, hsend]
    refine ⟨es ++ fs, notes ++ more, ?_, ?_, fun f hf hinverter htransport => ?_⟩
    · rw [htrace', htrace, List.append_assoc]
    · rw [hlog', hlog, List.append_assoc]
    · rw [warned_append, or_iff_right hplain.quiet, sticks_append hfs]
      exact hwarns f hf hinverter htransport
  rcases hrun : l.transmission data b with ⟨first | u, b₁⟩
  · rw [hrun] at hlive' hrest
    refine hrest ?_ (fallback_warns hlive' first)
    rw [send, Act.bind_ok (requireHeld_of_held hheld), Act.bind_ok (Act.attempt_apply _ b), hrun]
  · rw [hrun] at hlive' hrest
    refine hrest ?_ (close_warns hlive')
    rw [send, Act.bind_ok (requireHeld_of_held hheld), Act.bind_ok (Act.attempt_apply _ b), hrun]

theorem send_warns (l : Line) (data : Bytes) (b : Bench T) :
    (l.send data).Records b l.WarnsStuck := by
  cases hreleased : l.isReleased b with
  | true =>
    have hsend : l.send data b = (.error .lineReleased, b) :=
      Act.bind_error (requireHeld_of_released hreleased)
    rw [Act.Records, hsend]
    refine ⟨[], [], (List.append_nil _).symm, (List.append_nil _).symm, ?_⟩
    rintro _ ⟨⟩ hinverter
    cases hinverter
  | false =>
    cases hlive : l.direction.isLive b with
    | true => exact send_live_warns hreleased hlive data
    | false => exact send_dead_warns hreleased hlive data

end Line

namespace Drive

variable [TimeScale T]

/-- A failed sending is announced if its fault is one of the link, or if the line sticks. -/
def Reveals (d : Drive T) (es : List (Entry T)) (f : Fault) : Prop :=
  f.isA .transport = true ∨ d.line.Sticks es

theorem send_warns (d : Drive T) (frame : Command) (b : Bench T) :
    (d.send frame).Records b (WarnsIf d.Reveals) := by
  cases hbytes : frame.toBytes with
  | error e =>
    rw [send, hbytes]
    refine .still rfl rfl ?_
    rintro _ ⟨⟩ hinverter
    cases hinverter
  | ok data =>
    rw [send, hbytes]
    refine (d.line.send_warns data b).orElse (fun es notes a _ => ?_) fun es notes f b' h => ?_
    · rintro _ ⟨⟩
    · by_cases htransport : f.isA .transport = true
      · simp only [Act.onlyIf, if_pos htransport]
        refine ⟨[], [.sendFailed frame data f], (List.append_nil _).symm, rfl, ?_⟩
        rintro _ ⟨⟩ -
        exact iff_of_true (by simp [Note.level]) (.inl htransport)
      · simp only [Act.onlyIf, if_neg htransport]
        refine .still rfl rfl ?_
        rw [List.append_nil, List.append_nil]
        rintro _ ⟨⟩ hinverter
        rw [Reveals, or_iff_right htransport]
        exact h f rfl hinverter (Bool.eq_false_iff.mpr htransport)

/-- A command that is refused is refused by a fault that is not of the inverter, and what follows
the sending ends well. -/
theorem command_warns {α : Type} (d : Drive T) (x : Except Fault Command)
    (hx : ∀ f, x = .error f → f.isA .value = true) {finish : Command → Act (Bench T) α}
    (hfinish : ∀ frame b, (finish frame).Records b fun _ _ r => ∃ a, r = .ok a) (b : Bench T) :
    (do
      let frame ← Act.ofExcept x
      d.send frame
      finish frame).Records b (WarnsIf d.Reveals) := by
  cases hframe : x with
  | error f =>
    refine .still rfl rfl ?_
    rintro _ ⟨⟩ hinverter
    rw [foreign_of_value (hx f hframe)] at hinverter
    cases hinverter
  | ok frame =>
    refine (d.send_warns frame b).bind (fun es notes e h => ?_) fun es notes u b' _ _ => ?_
    · rintro _ ⟨⟩
      exact h e rfl
    · refine (hfinish frame b').mono ?_
      rintro fs more _ ⟨a, rfl⟩
      rintro _ ⟨⟩

theorem start_warns (d : Drive T) (b : Bench T) : d.start.Records b (WarnsIf d.Reveals) :=
  d.command_warns (Command.start d.rotation) (fun _ => Command.value_of_frame)
    (fun _ _ => ⟨[], [_], (List.append_nil _).symm, rfl, _, rfl⟩) b

theorem stop_warns (d : Drive T) (b : Bench T) : d.stop.Records b (WarnsIf d.Reveals) :=
  d.command_warns Command.stop (fun _ => Command.value_of_frame)
    (fun _ _ => ⟨[], [_], (List.append_nil _).symm, rfl, _, rfl⟩) b

theorem changeSpeed_warns (d : Drive T) (rpm : Int) (b : Bench T) :
    (d.changeSpeed rpm).Records b (WarnsIf d.Reveals) :=
  d.command_warns (Command.speed rpm (speedKeys d.isOn)) (fun _ => Command.value_of_speed)
    (fun _ _ => ⟨[], [_], (List.append_nil _).symm, rfl, _, rfl⟩) b

/-- What an operation of a drive has warned of, by the calls that it made. -/
structure Warns (d : Drive Float) (step : DriveStep) (calls : List (Entry Float))
    (notes : List Note) (r : Except Fault (Drive Float × Outcome)) : Prop where
  sending : step.sends = true → WarnsIf d.Reveals calls notes r
  reading : step.sends = false → WarnsIf Announces calls notes r

/-- Every operation of a drive, in every state of the bench: one that sends and ends in a fault of
the inverter's family gave a warning just if that is a fault of the link or the line sticks; one
that reads gave a warning just if the fault was announced. -/
theorem driveStep_warns (d : Drive Float) (step : DriveStep) (b : Bench Float) :
    (Session.driveStep d step).Records b (d.Warns step) := by
  have hsending {α : Type} {x : Act (Bench Float) α} (done : α → Drive Float × Outcome)
      (hsends : step.sends = true) (hx : x.Records b (WarnsIf d.Reveals)) :
      (done <$> x).Records b (d.Warns step) :=
    (hx.warnsIf_map done).mono fun _ _ _ h =>
      ⟨fun _ => h, fun hreads => absurd hreads (by simp [hsends])⟩
  have hreading {α : Type} {x : Act (Bench Float) α} (done : α → Drive Float × Outcome)
      (hreads : step.sends = false) (hx : x.Records b Frank) :
      (done <$> x).Records b (d.Warns step) :=
    ((hx.mono fun _ _ _ h => h.error).warnsIf_map done).mono fun _ _ _ h =>
      ⟨fun hsends => absurd hsends (by simp [hreads]), fun _ => h⟩
  cases step with
  | start => exact hsending (fun d => (d, .nothing)) rfl (d.start_warns b)
  | stop => exact hsending (fun d => (d, .nothing)) rfl (d.stop_warns b)
  | changeSpeed rpm => exact hsending (fun _ => (d, .nothing)) rfl (d.changeSpeed_warns rpm b)
  | readSpeed wait =>
    exact hreading (fun reading => (d, .reading reading)) rfl (d.readSpeed_frank wait b)
  | readReport wait resync =>
    exact hreading (fun report => (d, .report report)) rfl (d.readReport_frank wait resync b)
  | state =>
    refine .still rfl rfl ⟨fun hsends => ?_, fun _ => ?_⟩
    · cases hsends
    · rintro _ ⟨⟩

/-- A frame that is not valid, its last byte there when the deadline is: the report is late, and no
warning is given. -/
theorem readReport_late_unwarned :
    let d : Drive ℚ :=
      .make ⟨0, .scripted 0, .scripted 0, .whole 1, .delay⟩ .forward (.time (13 / 4))
    let b : Bench ℚ := .withChannel ⟨[], List.replicate 13 0xff, 1 / 4, .all, false⟩
    (∃ f, (d.readReport none true b).1 = .error f ∧ f.isA .inverter = true) ∧
      ¬ Warned (d.readReport none true b).2.log := by
  intro d b
  refine ⟨?_, by decide +kernel⟩
  have hlate : (match (d.readReport none true b).1 with
      | .error f => f.isA .inverter
      | .ok _ => false) = true := by decide +kernel
  split at hlate
  next f hf => exact ⟨f, hf, hlate⟩
  next => cases hlate

end Drive
end SpindleLink
