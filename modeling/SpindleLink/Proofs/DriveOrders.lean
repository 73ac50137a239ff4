import SpindleLink.Proofs.BusDiscipline
import SpindleLink.Proofs.CommandForm
import SpindleLink.Proofs.Conservation

/-! The commanded state over whole runs. A drive is on exactly when the last start or stop of it
that returned was a start, whatever failed before and after. All that it hands to its channel is the
written form of the command it was asked for, with the run key beside a speed as the state says. -/

namespace SpindleLink

variable {T : Type}

def Call.handed? : Call T → Option Bytes
  | .write _ data | .portWrite data => some data
  | _ => none

theorem Call.handed?_of_isPause {c : Call T} (h : c.isPause = true) : c.handed? = none := by
  cases c <;> first | rfl | cases h

theorem Call.handed?_of_isInput {c : Call T} (h : c.isInput = true) : c.handed? = none := by
  cases c <;> first | rfl | cases h

theorem DirectionLine.handed?_signalCall (d : DirectionLine) (high : Bool) :
    (d.signalCall high : Call T).handed? = none := by
  cases d <;> cases high <;> rfl

theorem Channel.Sends.handed? {channel : Channel} {data data' : Bytes} {c : Call T}
    (h : channel.Sends data c) (hc : c.handed? = some data') : data' = data := by
  cases channel with
  | scripted id =>
    obtain rfl := h
    exact (Option.some.inj hc).symm
  | serial s =>
    rcases h with rfl | rfl
    · exact (Option.some.inj hc).symm
    · cases hc

theorem Line.Framed.handed? {l : Line} {data data' : Bytes} {es : List (Entry T)}
    (h : l.Framed data es) {e : Entry T} (he : e ∈ es) (hdata : e.call.handed? = some data') :
    data' = data := by
  obtain ⟨up, held, down, after, rfl, hup, hdown, hheld, -, -, hafter⟩ := h
  simp only [List.cons_append, List.mem_cons, List.mem_append] at he
  rcases he with rfl | he | rfl | he
  · simp [hup, DirectionLine.handed?_signalCall] at hdata
  · rcases hheld e he with hpause | hsends
    · simp [Call.handed?_of_isPause hpause] at hdata
    · exact hsends.handed? hdata
  · simp [hdown, DirectionLine.handed?_signalCall] at hdata
  · simp [Call.handed?_of_isPause (hafter e he)] at hdata

theorem Line.Full.handed [TimeScale T] {l : Line} {data : Bytes} {es : List (Entry T)}
    (h : l.Full data (es.map Entry.did)) : es.filterMap (fun e => e.call.handed?) = [data] := by
  obtain ⟨wire, turning, ⟨settling, sent, hold, holding, hsettling, htook, -, hholding, rfl⟩,
    hturning, hcalls⟩ := h
  have hpause {p : Pacing} {ms : Int} {c : Call T} (hc : p.call? ms = some c) : c.handed? = none :=
    Call.handed?_of_isPause (Pacing.isPause_of_call? hc)
  have hsent : sent.filterMap (fun p => p.1.handed?) = [data] := by
    unfold Channel.Took at htook
    split at htook
    · rw [htook]
      rfl
    · obtain ⟨told, -, rfl⟩ := htook
      rfl
  have hdid : es.filterMap (fun e => e.call.handed?) =
      (es.map Entry.did).filterMap fun p => p.1.handed? := by
    rw [List.filterMap_map]
    rfl
  rw [hdid, hcalls]
  simp only [List.filterMap_append, List.filterMap_cons, List.filterMap_nil, hsent,
    DirectionLine.handed?_signalCall, hpause hsettling, hpause hholding, hpause hturning,
    List.cons_append, List.append_nil]

theorem Line.Transmitted.handed? [TimeScale T] {α : Type} {l : Line} {data data' : Bytes}
    {b : Bench T} {es : List (Entry T)} {r : Except Fault α} (h : l.Transmitted data b es r)
    {e : Entry T} (he : e ∈ es) (hdata : e.call.handed? = some data') : data' = data := by
  have hsome : es ≠ [] := List.ne_nil_of_mem he
  have hheld : l.isReleased b = false :=
    Bool.eq_false_iff.mpr fun hreleased => hsome (h.released hreleased)
  have hlive : l.direction.isLive b = true :=
    Bool.of_not_eq_false fun hdead => hsome (h.dead hdead)
  exact (h.framed hheld hlive).handed? he hdata

namespace Drive

theorem payload?_eq_some {x : Except Fault Command} {data : Bytes} :
    payload? x = some data ↔ ∃ frame, x = .ok frame ∧ frame.toBytes = .ok data := by
  cases x with
  | error f => simp [payload?, Except.toOption]
  | ok frame => cases hbytes : frame.toBytes <;> simp [payload?, Except.toOption, hbytes]

theorem Commanded.handed? [TimeScale T] {α : Type} {d : Drive T} {x : Except Fault Command}
    {b : Bench T} {es : List (Entry T)} {r : Except Fault α} (h : d.Commanded x b es r)
    {e : Entry T} (he : e ∈ es) {data : Bytes} (hdata : e.call.handed? = some data) :
    payload? x = some data := by
  unfold Commanded at h
  cases hpayload : payload? x with
  | none =>
    rw [hpayload] at h
    rw [h.1] at he
    cases he
  | some data' =>
    rw [hpayload] at h
    rw [h.handed? he hdata]

theorem Commanded.hands [TimeScale T] {α : Type} {d : Drive T} {x : Except Fault Command}
    {b : Bench T} {es : List (Entry T)} {r : Except Fault α} (h : d.Commanded x b es r)
    (hr : ∃ a, r = .ok a) :
    ∃ data, payload? x = some data ∧ es.filterMap (fun e => e.call.handed?) = [data] := by
  obtain ⟨data, hpayload, hfull⟩ := h.full hr
  exact ⟨data, hpayload, hfull.handed⟩

end Drive

namespace DriveStep

def command? (d : Drive Float) : DriveStep → Option (Except Fault Command)
  | .start => some (Command.start d.rotation)
  | .stop => some Command.stop
  | .changeSpeed rpm => some (Command.speed rpm (speedKeys d.isOn))
  | _ => none

/-- What the frame of a step says. A start presses the run key, and the key of direction with it
for reverse rotation; a stop presses the stop key; a speed comes with the run key exactly while the
drive is on, and with no other. -/
def Tells (d : Drive Float) (f : Command) : DriveStep → Prop
  | .start => f.frequency = 0 ∧
      f.control = if d.rotation = .reverse then runBit + directionBit else runBit
  | .stop => f.frequency = 0 ∧ f.control = stopBit
  | .changeSpeed rpm => f.frequency = rpm / 60 * 100 ∧ f.control = if d.isOn then runBit else 0
  | _ => False

def order? : DriveStep → Option Bool
  | .start => some true
  | .stop => some false
  | _ => none

theorem Keeps.handed? {α : Type} {d : Drive Float} {b : Bench Float} {es : List (Entry Float)}
    {r : Except Fault α} {step : DriveStep} (h : step.Keeps d b es r) {e : Entry Float}
    (he : e ∈ es) {data : Bytes} (hdata : e.call.handed? = some data) :
    ∃ x, step.command? d = some x ∧ Drive.payload? x = some data := by
  have hnoInput (hreceives : ∀ e ∈ es, d.line.channel.Receives e.call) : False := by
    have hinput := (hreceives e he).isInput
    simp [Call.handed?_of_isInput hinput] at hdata
  cases step with unfold Keeps at h
  | start => exact ⟨_, rfl, h.handed? he hdata⟩
  | stop => exact ⟨_, rfl, h.handed? he hdata⟩
  | changeSpeed rpm => exact ⟨_, rfl, h.handed? he hdata⟩
  | readSpeed wait => exact (hnoInput h).elim
  | readReport wait resync => exact (hnoInput h).elim
  | state => simp [h] at he

theorem Keeps.hands {α : Type} {d : Drive Float} {b : Bench Float} {es : List (Entry Float)}
    {r : Except Fault α} {step : DriveStep} (h : step.Keeps d b es r)
    {x : Except Fault Command} (hx : step.command? d = some x) (hr : ∃ a, r = .ok a) :
    ∃ data, Drive.payload? x = some data ∧ es.filterMap (fun e => e.call.handed?) = [data] := by
  cases step with unfold Keeps at h
  | start => exact Option.some.inj hx ▸ h.hands hr
  | stop => exact Option.some.inj hx ▸ h.hands hr
  | changeSpeed rpm => exact Option.some.inj hx ▸ h.hands hr
  | readSpeed wait => cases hx
  | readReport wait resync => cases hx
  | state => cases hx

theorem tells_of_payload {d : Drive Float} {step : DriveStep} {x : Except Fault Command}
    {data : Bytes} (hx : step.command? d = some x) (hdata : Drive.payload? x = some data) :
    ∃ f, Command.ofBytes data = .ok f ∧ step.Tells d f := by
  obtain ⟨f, rfl, hbytes⟩ := Drive.payload?_eq_some.mp hdata
  cases step with
  | start =>
    have hframe : Command.start d.rotation = .ok f := Option.some.inj hx
    obtain ⟨hread, hfrequency, hcontrol⟩ :=
      Command.ofBytes_of_encode (Command.encode_of_frame hframe) hbytes
    refine ⟨f, hread, hfrequency, ?_⟩
    rw [hcontrol]
    cases d.rotation <;> rfl
  | stop =>
    have hframe : Command.stop = .ok f := Option.some.inj hx
    exact ⟨f, Command.ofBytes_of_encode (Command.encode_of_frame hframe) hbytes⟩
  | changeSpeed rpm =>
    have hframe : Command.speed rpm (speedKeys d.isOn) = .ok f := Option.some.inj hx
    exact ⟨f, Command.ofBytes_of_encode (Command.encode_of_speed hframe) hbytes⟩
  | readSpeed wait => cases hx
  | readReport wait resync => cases hx
  | state => cases hx

end DriveStep

namespace Moment

/-- What a step asks of the drive with a number, if there is one. -/
def asked? (n : Nat) (m : Moment) : Option DriveStep :=
  match m.step with
  | .drive number step => if number = n then m.before.drives[n]?.map fun _ => step else none
  | _ => none

def order? (n : Nat) (m : Moment) : Option Bool := (m.asked? n).bind DriveStep.order?

def returned (m : Moment) : Bool := m.record.outcome.isOk

theorem returned_of_ok {s s' : Session} {x : Step} {outcome : Outcome}
    (h : Session.perform x s = (.ok outcome, s')) : returned ⟨s, x⟩ = true := by
  simp [returned, record, Session.step, h, Except.isOk, Except.toBool]

theorem returned_of_error {s s' : Session} {x : Step} {f : Fault}
    (h : Session.perform x s = (.error f, s')) : returned ⟨s, x⟩ = false := by
  simp [returned, record, Session.step, h, Except.isOk, Except.toBool]

theorem outcome_of_returned {m : Moment} (h : m.returned = true) :
    ∃ outcome, m.record.outcome = .ok outcome := by
  cases houtcome : m.record.outcome with
  | ok outcome => exact ⟨outcome, rfl⟩
  | error f =>
    rw [returned, houtcome] at h
    cases h

/-- The state that a step ordered a drive into, if the step returned. -/
def settled? (n : Nat) (m : Moment) : Option Bool := if m.returned then m.order? n else none

/-- The byte strings that were handed to channels in a step. -/
def handed (m : Moment) : List Bytes := m.calls.filterMap fun e => e.call.handed?

theorem settled?_of_not_asked {n : Nat} {m : Moment} (h : m.asked? n = none) :
    m.settled? n = none := by
  simp [settled?, order?, h]

end Moment

namespace Drive

variable [TimeScale T] {d d' : Drive T} {b b' : Bench T}

theorem start_ok (h : d.start b = (.ok d', b')) : d' = { d with isOn := true } := by
  obtain ⟨frame, b₁, -, h₁⟩ := Act.of_bind_ok h
  obtain ⟨u, b₂, -, h₂⟩ := Act.of_bind_ok h₁
  obtain ⟨v, b₃, -, h₃⟩ := Act.of_bind_ok h₂
  exact (Except.ok.inj (Prod.mk.inj h₃).1).symm

theorem stop_ok (h : d.stop b = (.ok d', b')) : d' = { d with isOn := false } := by
  obtain ⟨frame, b₁, -, h₁⟩ := Act.of_bind_ok h
  obtain ⟨u, b₂, -, h₂⟩ := Act.of_bind_ok h₁
  obtain ⟨v, b₃, -, h₃⟩ := Act.of_bind_ok h₂
  exact (Except.ok.inj (Prod.mk.inj h₃).1).symm

end Drive

namespace Session

theorem driveStep_ok {d d' : Drive Float} {step : DriveStep} {outcome : Outcome}
    {b b' : Bench Float} (h : driveStep d step b = (.ok (d', outcome), b')) :
    d' = { d with isOn := step.order?.getD d.isOn } := by
  cases step with
  | start =>
    obtain ⟨started, b₁, hstart, h₁⟩ := Act.of_bind_ok h
    have hd : started = d' := congrArg Prod.fst (Except.ok.inj (Prod.mk.inj h₁).1)
    rw [← hd, Drive.start_ok hstart]
    rfl
  | stop =>
    obtain ⟨stopped, b₁, hstop, h₁⟩ := Act.of_bind_ok h
    have hd : stopped = d' := congrArg Prod.fst (Except.ok.inj (Prod.mk.inj h₁).1)
    rw [← hd, Drive.stop_ok hstop]
    rfl
  | changeSpeed rpm =>
    obtain ⟨u, b₁, -, h₁⟩ := Act.of_bind_ok h
    exact (congrArg Prod.fst (Except.ok.inj (Prod.mk.inj h₁).1)).symm
  | readSpeed wait =>
    obtain ⟨reading, b₁, -, h₁⟩ := Act.of_bind_ok h
    exact (congrArg Prod.fst (Except.ok.inj (Prod.mk.inj h₁).1)).symm
  | readReport wait resync =>
    obtain ⟨report, b₁, -, h₁⟩ := Act.of_bind_ok h
    exact (congrArg Prod.fst (Except.ok.inj (Prod.mk.inj h₁).1)).symm
  | state => exact (congrArg Prod.fst (Except.ok.inj (Prod.mk.inj h).1)).symm

theorem perform_drive_error {s : Session} {number : Nat} {d : Drive Float} {step : DriveStep}
    {f : Fault} {b : Bench Float} (hd : s.drives[number]? = some d)
    (hrun : driveStep d step s.station.bench = (.error f, b)) :
    perform (.drive number step) s =
      (.error f, { s with station := { s.station with bench := b } }) := by
  rw [perform, Act.bind_ok (Act.observe_apply _ s), hd]
  simp only
  rw [Act.bind_error (onBench_eq hrun)]

theorem perform_drive_ok {s : Session} {number : Nat} {d d' : Drive Float} {step : DriveStep}
    {outcome : Outcome} {b : Bench Float} (hd : s.drives[number]? = some d)
    (hrun : driveStep d step s.station.bench = (.ok (d', outcome), b)) :
    perform (.drive number step) s =
      (.ok outcome, { s with
        station := { s.station with bench := b }, drives := s.drives.set number d' }) := by
  rw [perform, Act.bind_ok (Act.observe_apply _ s), hd]
  simp only
  rw [Act.bind_ok (onBench_eq hrun)]
  rfl

theorem drives_step_drive {s : Session} {number : Nat} {d : Drive Float}
    (hd : s.drives[number]? = some d) (step : DriveStep) :
    (s.step (.drive number step)).2.drives = s.drives.set number
      { d with isOn := (Moment.settled? number ⟨s, .drive number step⟩).getD d.isOn } := by
  have horder : Moment.order? number ⟨s, .drive number step⟩ = step.order? := by
    simp [Moment.order?, Moment.asked?, hd]
  have hoff : s.drives.set number d = s.drives := by
    obtain ⟨hlt, rfl⟩ := List.getElem?_eq_some_iff.mp hd
    exact List.set_getElem_self hlt
  rcases hrun : driveStep d step s.station.bench with ⟨f | ⟨d', outcome⟩, b'⟩
  · have hperform := perform_drive_error hd hrun
    have hreturned := Moment.returned_of_error hperform
    simp [Moment.settled?, hreturned, Session.step, hperform, hoff]
  · have hperform := perform_drive_ok hd hrun
    have hreturned := Moment.returned_of_ok hperform
    rw [Moment.settled?, hreturned, if_pos rfl, horder, ← driveStep_ok hrun]
    simp [Session.step, hperform]

theorem onStation_leaves_drives {α : Type} (x : Act Station α) :
    (onStation x).Leaves Session.drives :=
  .within fun _ => rfl

theorem made_of_newDrive (s : Session) (line : Nat) (rotation : Option String)
    (readTimeout : Option (Wait Float)) :
    ∃ made, (∀ d ∈ made, d.isOn = false) ∧
      (s.step (.newDrive line rotation readTimeout)).2.drives = s.drives ++ made := by
  have hnone : (∀ d ∈ ([] : List (Drive Float)), d.isOn = false) ∧ s.drives = s.drives ++ [] := by
    simp
  simp only [Session.step, perform]
  cases hrotation : rotationOf rotation with
  | error f =>
    rw [Act.bind_error (Act.ofExcept_apply _ s)]
    exact ⟨[], hnone⟩
  | ok r =>
    rw [Act.bind_ok (Act.ofExcept_apply _ s), Act.bind_ok (Act.observe_apply _ s)]
    cases hline : s.lines[line]? with
    | none => exact ⟨[], hnone⟩
    | some l =>
      refine ⟨[Drive.make l r (readTimeout.getD (.time Settings.defaultTimeout))], ?_, rfl⟩
      simp [Drive.make]

/-- A step is about one drive, or it leaves all drives as they are beside new ones that are off. -/
theorem drives_step_cases (s : Session) (x : Step) :
    (∃ number step d, x = .drive number step ∧ s.drives[number]? = some d) ∨
      (∀ n, Moment.asked? n ⟨s, x⟩ = none) ∧
        ∃ made, (∀ d ∈ made, d.isOn = false) ∧ (s.step x).2.drives = s.drives ++ made := by
  have hsame (h : (perform x).Leaves Session.drives) :
      ∃ made, (∀ d ∈ made, d.isOn = false) ∧ (s.step x).2.drives = s.drives ++ made :=
    ⟨[], by simp, by rw [List.append_nil]; exact h s⟩
  cases x with
  | drive number step =>
    cases hd : s.drives[number]? with
    | some d => exact .inl ⟨number, step, d, rfl, hd⟩
    | none =>
      refine .inr ⟨fun n => ?_, [], by simp, ?_⟩
      · by_cases hn : number = n
        · simp [Moment.asked?, ← hn, hd]
        · simp [Moment.asked?, hn]
      · simp only [Session.step, perform]
        rw [Act.bind_ok (Act.observe_apply _ s), hd, List.append_nil]
        rfl
  | newDrive line rotation readTimeout =>
    exact .inr ⟨fun _ => rfl, made_of_newDrive s line rotation readTimeout⟩
  | adjust changes =>
    exact .inr ⟨fun _ => rfl, hsame (.bind (.change fun _ => rfl) fun _ => .pure _)⟩
  | newLine channel direction byteTime pacing =>
    refine .inr ⟨fun _ => rfl, hsame (.bind (.ofExcept _) fun t => ?_)⟩
    refine .bind (onStation_leaves_drives _) fun line => .bind (.observe _) fun number => ?_
    exact .bind (.change fun _ => rfl) fun _ => .pure _
  | line number step =>
    refine .inr ⟨fun _ => rfl, hsame (.bind (.observe _) fun lines => ?_)⟩
    cases lines[number]? with
    | none => exact .pure _
    | some l => exact onStation_leaves_drives _
  | channel c step => exact .inr ⟨fun _ => rfl, hsame (onStation_leaves_drives _)⟩
  | direction d step => exact .inr ⟨fun _ => rfl, hsame (onStation_leaves_drives _)⟩
  | tool step =>
    exact .inr ⟨fun _ => rfl, hsame (.bind (.observe _) fun env => onStation_leaves_drives _)⟩

/-- A drive lives on through every step, as it was but for the state that it was ordered into. -/
theorem getElem?_drives_step {s : Session} {n : Nat} {d : Drive Float} (h : s.drives[n]? = some d)
    (x : Step) :
    (s.step x).2.drives[n]? =
      some { d with isOn := (Moment.settled? n ⟨s, x⟩).getD d.isOn } := by
  rcases drives_step_cases s x with ⟨number, step, d', rfl, hd'⟩ | ⟨hasked, made, -, hdrives⟩
  · rw [drives_step_drive hd' step]
    by_cases hn : number = n
    · subst hn
      obtain rfl : d = d' := Option.some.inj (h.symm.trans hd')
      obtain ⟨hlt, -⟩ := List.getElem?_eq_some_iff.mp h
      rw [List.getElem?_set_self hlt]
    · have hasked : Moment.asked? n ⟨s, .drive number step⟩ = none := by
        simp [Moment.asked?, hn]
      rw [List.getElem?_set_ne hn, h, Moment.settled?_of_not_asked hasked]
      rfl
  · obtain ⟨hlt, -⟩ := List.getElem?_eq_some_iff.mp h
    rw [hdrives, List.getElem?_append_left hlt, h, Moment.settled?_of_not_asked (hasked n)]
    rfl

/-- Whether the drive with a number is on; one that is not there is off. -/
def isOn (s : Session) (n : Nat) : Bool := (s.drives[n]?).elim false Drive.isOn

theorem isOn_step (s : Session) (x : Step) (n : Nat) :
    (s.step x).2.isOn n = (Moment.settled? n ⟨s, x⟩).getD (s.isOn n) := by
  cases hd : s.drives[n]? with
  | some d => simp [isOn, hd, getElem?_drives_step hd x]
  | none =>
    have hasked : Moment.asked? n ⟨s, x⟩ = none := by
      unfold Moment.asked?
      split <;> simp [hd]
    rw [Moment.settled?_of_not_asked hasked]
    have hoff : (s.step x).2.isOn n = false := by
      rcases drives_step_cases s x with ⟨number, step, d', rfl, hd'⟩ | ⟨-, made, hmade, hdrives⟩
      · have hn : number ≠ n := by
          intro hn
          rw [hn, hd] at hd'
          cases hd'
        simp [isOn, drives_step_drive hd' step, List.getElem?_set_ne hn, hd]
      · have hlen : s.drives.length ≤ n := List.getElem?_eq_none_iff.mp hd
        rw [isOn, hdrives, List.getElem?_append_right hlen]
        cases hnew : made[n - s.drives.length]? with
        | none => rfl
        | some d => exact hmade d (List.mem_of_getElem? hnew)
    rw [hoff, isOn, hd]
    rfl

/-- The last state that a drive was ordered into by a step that returned. -/
def lastSettled (n : Nat) (ms : List Moment) : Option Bool :=
  (ms.filterMap (Moment.settled? n)).getLast?

theorem lastSettled_cons (n : Nat) (m : Moment) (ms : List Moment) (on : Bool) :
    (lastSettled n (m :: ms)).getD on =
      (lastSettled n ms).getD ((m.settled? n).getD on) := by
  unfold lastSettled
  cases hm : m.settled? n with
  | none => simp [hm]
  | some on' =>
    rw [List.filterMap_cons_some hm, List.getLast?_cons]
    rfl

/-- Behind any run a drive is in the state that it was last ordered into by a step that returned. -/
theorem isOn_run (s : Session) (steps : List Step) (n : Nat) :
    (s.run steps).2.isOn n = (lastSettled n (s.history steps)).getD (s.isOn n) := by
  induction steps generalizing s with
  | nil => rfl
  | cons x xs ih =>
    have hrun : (s.run (x :: xs)).2 = ((s.step x).2.run xs).2 := rfl
    rw [hrun, ih, history, lastSettled_cons, isOn_step]

theorem before_of_history {s : Session} {steps : List Step} {earlier later : List Moment}
    {m : Moment} (h : s.history steps = earlier ++ m :: later) :
    ∃ xs, earlier = s.history xs ∧ m.before = (s.run xs).2 := by
  induction earlier generalizing s steps with
  | nil =>
    cases steps with
    | nil => cases h
    | cons x xs =>
      obtain ⟨hm, -⟩ := List.cons.inj h
      exact ⟨[], rfl, by rw [← hm]; rfl⟩
  | cons m' earlier ih =>
    cases steps with
    | nil => cases h
    | cons x xs =>
      obtain ⟨hm', hrest⟩ := List.cons.inj h
      obtain ⟨ys, hearlier, hbefore⟩ := ih hrest
      exact ⟨x :: ys, by rw [history, ← hearlier, ← hm'], hbefore⟩

theorem isOn_before {s : Session} {steps : List Step} {earlier later : List Moment} {m : Moment}
    (h : s.history steps = earlier ++ m :: later) (n : Nat) :
    m.before.isOn n = (lastSettled n earlier).getD (s.isOn n) := by
  obtain ⟨xs, rfl, hbefore⟩ := before_of_history h
  rw [hbefore, isOn_run]

theorem asked?_eq_some {m : Moment} {n : Nat} {step : DriveStep} (h : m.asked? n = some step) :
    m.step = .drive n step ∧ ∃ d, m.before.drives[n]? = some d := by
  unfold Moment.asked? at h
  split at h
  · split at h
    · rename_i number step' hstep hn
      obtain ⟨d, hd, rfl⟩ := Option.map_eq_some_iff.mp h
      exact ⟨hn ▸ hstep, d, hd⟩
    · cases h
  · cases h

/-- What a drive hands to a channel in a step. -/
theorem tells_of_handed {m : Moment} {n : Nat} {step : DriveStep} {d : Drive Float}
    (hasked : m.asked? n = some step) (hd : m.before.drives[n]? = some d) {data : Bytes}
    (hdata : data ∈ m.handed) : ∃ f, Command.ofBytes data = .ok f ∧ step.Tells d f := by
  obtain ⟨s, x⟩ := m
  obtain ⟨hstep, -⟩ := asked?_eq_some hasked
  obtain rfl : x = .drive n step := hstep
  have hkeeps := step_disciplined s (.drive n step) d hd
  obtain ⟨e, he, hhanded⟩ := List.mem_filterMap.mp hdata
  obtain ⟨x, hx, hpayload⟩ := hkeeps.handed? he hhanded
  exact DriveStep.tells_of_payload hx hpayload

theorem hands_of_returned {m : Moment} {n : Nat} {step : DriveStep} {d : Drive Float}
    (hasked : m.asked? n = some step) (hd : m.before.drives[n]? = some d)
    {x : Except Fault Command} (hx : step.command? d = some x) (hreturned : m.returned = true) :
    ∃ data f, m.handed = [data] ∧ Command.ofBytes data = .ok f ∧ step.Tells d f := by
  obtain ⟨s, y⟩ := m
  obtain ⟨hstep, -⟩ := asked?_eq_some hasked
  obtain rfl : y = .drive n step := hstep
  have hkeeps := step_disciplined s (.drive n step) d hd
  obtain ⟨data, hpayload, hhanded⟩ := hkeeps.hands hx (Moment.outcome_of_returned hreturned)
  obtain ⟨f, hread, htells⟩ := DriveStep.tells_of_payload hx hpayload
  exact ⟨data, f, hhanded, hread, htells⟩

theorem step_of_limit {s : Session} {n : Nat} {d : Drive Float} {rpm : Int} {limit : SpeedLimit}
    (hd : s.drives[n]? = some d) (hlimit : frequencyOf rpm = .error limit) :
    (s.step (.drive n (.changeSpeed rpm))).1.calls = [] ∧
      (s.step (.drive n (.changeSpeed rpm))).1.outcome = .error (.speed limit) := by
  have hrun : driveStep d (.changeSpeed rpm) s.station.bench =
      (.error (.speed limit), s.station.bench) := by
    simp only [driveStep, Drive.changeSpeed, Command.speed_of_limit hlimit]
    rfl
  obtain ⟨hresult, hbench⟩ := perform_drive hd (.changeSpeed rpm)
  rw [hrun] at hresult hbench
  refine ⟨calls_step ?_, hresult⟩
  rw [hbench]
  exact .refl _

end Session

/-- A step as it commands drives. Each drive lives on, in another state only when the step ordered
it and returned; what a drive hands to a channel says what the step asked for, and a command that
returns handed on just one frame; and a speed that cannot be commanded makes no call. -/
structure Moment.Commands (m : Moment) : Prop where
  kept : ∀ n (d : Drive Float), m.before.drives[n]? = some d →
    m.after.drives[n]? = some { d with isOn := (m.settled? n).getD d.isOn }
  tells : ∀ n step d, m.asked? n = some step → m.before.drives[n]? = some d →
    ∀ data ∈ m.handed, ∃ f, Command.ofBytes data = .ok f ∧ step.Tells d f
  hands : ∀ n step d x, m.asked? n = some step → m.before.drives[n]? = some d →
    step.command? d = some x → m.returned = true →
      ∃ data f, m.handed = [data] ∧ Command.ofBytes data = .ok f ∧ step.Tells d f
  refused : ∀ n rpm limit, m.asked? n = some (.changeSpeed rpm) →
    frequencyOf rpm = .error limit → m.calls = [] ∧ m.record.outcome = .error (.speed limit)

namespace Session

theorem moment_commands (m : Moment) : m.Commands where
  kept := fun _ _ hd => getElem?_drives_step hd m.step
  tells := fun _ _ _ hasked hd _ hdata => tells_of_handed hasked hd hdata
  hands := fun _ _ _ _ hasked hd hx hreturned => hands_of_returned hasked hd hx hreturned
  refused := by
    intro n rpm limit hasked hlimit
    obtain ⟨s, x⟩ := m
    obtain ⟨hstep, d, hd⟩ := asked?_eq_some hasked
    obtain rfl : x = .drive n (.changeSpeed rpm) := hstep
    exact step_of_limit hd hlimit

/-- Over any run, with any failures: at every moment, and in the end, each drive is on exactly as
the last of its starts and stops that returned left it, and each step commands as it should. -/
theorem history_commanded (s : Session) (steps : List Step) :
    (∀ n, (s.run steps).2.isOn n = (lastSettled n (s.history steps)).getD (s.isOn n)) ∧
      ∀ earlier m later, s.history steps = earlier ++ m :: later →
        (∀ n, m.before.isOn n = (lastSettled n earlier).getD (s.isOn n)) ∧ m.Commands :=
  ⟨isOn_run s steps, fun _ m _ h => ⟨isOn_before h, moment_commands m⟩⟩

end Session
end SpindleLink
