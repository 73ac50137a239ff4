import SpindleLink.Proofs.Traffic

/-! The calls of the operations that a line is made of, over any channel and any direction line: a
write, a pause, a change of the signal, and the receiving, which changes no signal. -/

namespace SpindleLink

variable {T : Type}

namespace Channel

def Receives : Channel → Call T → Prop
  | scripted id, c => c = .hasWaiting id ∨ ∃ wait, c = .read id wait
  | serial _, c => c = .portWaiting ∨ (∃ wait, c = .portTimeout wait) ∨ c = .portRead

def Sends (data : Bytes) : Channel → Call T → Prop
  | scripted id, c => c = .write id data
  | serial _, c => c = .portWrite data ∨ c = .portFlush

/-- The calls by which a channel took bytes, and how many it says it accepted. -/
def Took (data : Bytes) (accepted : Option Int) : Channel → List (Call T × Reply) → Prop
  | scripted id, calls => calls = [(.write id data, .accepted accepted)]
  | serial _, calls => ∃ told : Option Int, accepted = some (told.getD data.length) ∧
      calls = [(.portWrite data, .accepted told), (.portFlush, .done)]

theorem Receives.isInput {channel : Channel} {c : Call T} (h : channel.Receives c) :
    c.isInput = true := by
  cases channel with
  | scripted id => rcases h with rfl | ⟨wait, rfl⟩ <;> rfl
  | serial s => rcases h with rfl | ⟨wait, rfl⟩ | rfl <;> rfl

theorem Sends.isWrite {channel : Channel} {data : Bytes} {c : Call T}
    (h : channel.Sends data c) : c.isWrite = true ∨ c = .portFlush := by
  cases channel with
  | scripted id =>
    obtain rfl := h
    exact .inl rfl
  | serial s =>
    rcases h with rfl | rfl
    · exact .inl rfl
    · exact .inr rfl

structure Wrote (channel : Channel) (data : Bytes) (es : List (Entry T))
    (r : Except Fault (Option Int)) : Prop where
  sends : ∀ e ∈ es, channel.Sends data e.call
  once : es.countP (·.call.isWrite) ≤ 1
  took : ∀ accepted, r = .ok accepted → channel.Took data accepted (es.map Entry.did)

end Channel

/-- What a serial channel does it does on an open port, and without one nothing. -/
theorem SerialChannel.usePort_emits {α : Type} {c : SerialChannel} {f : Port T → Act (Bench T) α}
    {b : Bench T} {P : List (Entry T) → Except Fault α → Prop} (hclosed : ∀ e, P [] (.error e))
    (hopen : ∀ port, c.port? b = some port → (f port).Emits b P) :
    (c.usePort >>= f).Emits b P := by
  rcases hport : c.port? b with _ | port
  · exact .stop (usePort_closed hport) (hclosed _)
  · exact .step (usePort_open hport) (hopen port hport)

theorem Bench.Grew.setPort {c : SerialChannel} {b : Bench T} {port : Port T}
    (hport : c.port? b = some port) (call : Call T) (timeout : Option (Wait T)) :
    b.Grew (c.setPort (some { port with timeout := timeout }) (b.counted call)) [] where
  trace := (List.append_nil _).symm
  live := by
    intro d
    cases d with
    | scripted id => rfl
    | gpio id pin => rfl
    | rts id channel activeHigh =>
      simp only [DirectionLine.isLive, SerialChannel.connected, SerialChannel.port?,
        SerialChannel.setPort, Bench.counted, Table.get_set]
      by_cases hid : c.id = channel.id
      · have hopen : port.isOpen = true := (Option.filter_eq_some_iff.mp hport).2
        have hsame : (b.ports.get channel.id).filter Port.isOpen = some port := hid ▸ hport
        rw [if_pos hid, hsame]
        simp [hopen]
      · rw [if_neg hid]

namespace Channel

theorem hasWaiting_makes (channel : Channel) :
    Act.Makes (T := T) channel.Receives channel.hasWaiting := by
  cases channel with
  | scripted id =>
    exact .perform (.inl rfl) fun b => .still rfl rfl rfl
  | serial c =>
    intro b
    apply SerialChannel.usePort_emits (by simp)
    intro port _
    apply Act.Makes.bind (.relabel (.perform (.inl rfl) fun b => .still rfl rfl rfl))
    intro waiting
    exact .pure _

variable [TimeScale T]

theorem next_makes (channel : Channel) (wait : Option T) :
    Act.Makes channel.Receives (channel.next wait) := by
  cases channel with
  | scripted id =>
    apply Act.Makes.perform (.inr ⟨wait, rfl⟩)
    intro b
    split
    · exact .still rfl rfl rfl
    · exact .still rfl rfl rfl
  | serial c =>
    intro b
    apply SerialChannel.usePort_emits (by simp)
    intro port hport
    obtain ⟨limit, hlimit⟩ : ∃ limit, ((wait.map Wait.time).elim (pure none) fun w =>
        some <$> w.resolve : Act (Bench T) (Option T)) b = (.ok limit, b) := by
      cases wait with
      | none => exact ⟨none, rfl⟩
      | some t => exact ⟨some t, rfl⟩
    apply Act.Emits.step hlimit
    -- Only here the port is known to be open, which it stays.
    have htold : (Act.onlyIf (Wait.sameLimit port.timeout (wait.map Wait.time) = false)
        (Bench.signal (.portTimeout limit)
          (c.setPort (some { port with timeout := wait.map Wait.time })))).Emits b
        fun es _ => ∀ e ∈ es, (Channel.serial c).Receives e.call := by
      rw [Act.onlyIf]
      split
      · apply (Act.perform_emits (.setPort hport _ _)).mono
        intro es r hmade e he
        rw [hmade.forall_call e he]
        exact .inr (.inl ⟨limit, rfl⟩)
      · exact .pure (by simp)
    refine Act.Emits.relabel (Act.Makes.behind htold fun _ => ?_) (fun _ _ h => h) fun _ _ h => h
    apply Act.Makes.perform (.inr (.inr rfl))
    intro b
    exact .still rfl rfl rfl

end Channel

/-- What a serial port takes, and that it is waited for until all is sent. -/
structure SerialChannel.Pushed (data : Bytes) (es : List (Entry T))
    (r : Except Fault (Option Int)) : Prop where
  sends : ∀ e ∈ es, e.call = .portWrite data ∨ e.call = .portFlush
  once : es.countP (·.call.isWrite) ≤ 1
  took : ∀ told, r = .ok told →
    es.map Entry.did = [(.portWrite data, .accepted told), (.portFlush, .done)]

theorem SerialChannel.flush_emits (told : Option Int) (b : Bench T) :
    (do
      Bench.touch .portFlush
      pure told : Act (Bench T) (Option Int)).Emits b fun es r =>
        Act.Made .portFlush (fun _ => .done) es r ∧ ∀ a, r = .ok a → a = told := by
  have hflush := Act.touch_emits (T := T) .portFlush b
  apply hflush.bind (Q := fun _ es r => es = [] ∧ r = .ok told)
  · intro u b' _ _
    exact .pure ⟨rfl, rfl⟩
  · intro es f hmade
    exact ⟨hmade, by simp⟩
  · intro es u fs r hmade h
    obtain ⟨rfl, rfl⟩ := h
    rw [List.append_nil]
    refine ⟨hmade, ?_⟩
    intro a ha
    exact (Except.ok.inj ha).symm

theorem SerialChannel.push_emits (data : Bytes) (b : Bench T) :
    (do
      let accepted ← Bench.perform (.portWrite data) Reply.accepted fun b =>
        (b.device.acceptance.answer data.length, b)
      Bench.touch .portFlush
      pure accepted : Act (Bench T) (Option Int)).Emits b (Pushed data) := by
  have hwrite : (Bench.perform (.portWrite data) Reply.accepted fun b =>
      (b.device.acceptance.answer data.length, b)).Emits b
      (Act.Made (.portWrite data) Reply.accepted) :=
    Act.perform_emits (.still rfl rfl rfl)
  apply hwrite.bind fun told b' _ _ => flush_emits told b'
  · intro es f hmade
    exact ⟨fun e he => .inl (hmade.forall_call e he), hmade.countP_le _, by simp⟩
  · intro es told fs r hmade h
    obtain ⟨hflush, htold⟩ := h
    have hsends : ∀ e ∈ es ++ fs, e.call = .portWrite data ∨ e.call = .portFlush := by
      intro e he
      exact (List.mem_append.mp he).imp (hmade.forall_call e) (hflush.forall_call e)
    have hnone : fs.countP (·.call.isWrite) = 0 := by
      rw [List.countP_eq_zero]
      intro e he
      rw [hflush.forall_call e he]
      exact Bool.false_ne_true
    have honce : (es ++ fs).countP (·.call.isWrite) ≤ 1 := by
      rw [List.countP_append, hnone]
      exact hmade.countP_le _
    refine ⟨hsends, honce, ?_⟩
    intro a ha
    subst ha
    obtain rfl := htold a rfl
    rw [List.map_append, hmade.map_did, hflush.map_did]
    rfl

namespace Channel

theorem write_emits (channel : Channel) (data : Bytes) (b : Bench T) :
    (channel.write data).Emits b (channel.Wrote data) := by
  cases channel with
  | scripted id =>
    apply (Act.perform_emits (.still rfl rfl rfl)).mono
    intro es r hmade
    refine ⟨hmade.forall_call, hmade.countP_le _, ?_⟩
    intro accepted haccepted
    subst haccepted
    exact hmade.map_did
  | serial c =>
    apply Act.Emits.map
    apply SerialChannel.usePort_emits
    · intro f
      exact ⟨by simp, by simp, fun _ h => by cases h⟩
    · intro port _
      have hpush := (SerialChannel.push_emits data b).relabel
        (f := SerialChannel.ofDevice (.portWrite c.name)) (R := SerialChannel.Pushed data)
        (fun _ _ h => h) fun es e h => ⟨h.sends, h.once, by simp⟩
      apply hpush.bind (Q := fun told es r => es = [] ∧ r = .ok (told.getD data.length))
      · intro told b' _ _
        exact .pure ⟨rfl, rfl⟩
      · intro es f h
        exact ⟨h.sends, h.once, fun _ h => by cases h⟩
      · intro es told fs r h hanswer
        obtain ⟨rfl, rfl⟩ := hanswer
        rw [List.append_nil]
        refine ⟨h.sends, h.once, ?_⟩
        intro accepted haccepted
        exact ⟨told, (Except.ok.inj haccepted).symm, h.took told rfl⟩

end Channel

namespace Pacing

variable [TimeScale T]

/-- The call by which a number of milliseconds is waited, unless it is out of range. -/
def call? (p : Pacing) (ms : Int) : Option (Call T) :=
  (TimeScale.ofMillis? ms : Option T).map fun t =>
    match p with
    | delay => .delay ms
    | sleep => .sleep t

/-- A pause. One that ends well is one call that was done; in range it ends badly only when the
call failed. -/
structure Paused (p : Pacing) (ms : Int) (es : List (Entry T)) (r : Except Fault Unit) : Prop where
  pauses : ∀ e ∈ es, e.call.isPause = true
  done : r = .ok () → ∃ c, p.call? ms = some c ∧ es.map Entry.did = [(c, .done)]
  undone : ∀ f c, r = .error f → p.call? ms = some (c : Call T) → ∀ e ∈ es, e.failed = true

theorem isPause_of_call? {p : Pacing} {ms : Int} {c : Call T} (h : p.call? ms = some c) :
    c.isPause = true := by
  obtain ⟨t, -, rfl⟩ := Option.map_eq_some_iff.mp h
  cases p <;> rfl

theorem paused_of_made {p : Pacing} {ms : Int} {c : Call T} {es : List (Entry T)}
    {r : Except Fault Unit} (hc : p.call? ms = some c) (h : Act.Made c (fun _ => .done) es r) :
    p.Paused ms es r where
  pauses := by
    intro e he
    rw [h.forall_call e he]
    exact isPause_of_call? hc
  done := by
    intro hdone
    subst hdone
    exact ⟨c, hc, h.map_did⟩
  undone := by
    intro f _ hundone _
    subst hundone
    exact h.failed

theorem delay_emits (ms : Int) (b : Bench T) :
    (Bench.signal (.delay ms) fun b : Bench T => match (TimeScale.ofMillis? ms : Option T) with
      | some t => b.advance t
      | none => b).Emits b (Act.Made (.delay ms) fun _ => .done) := by
  apply Act.perform_emits
  cases (TimeScale.ofMillis? ms : Option T) with
  | none => exact .still rfl rfl rfl
  | some t => exact .still rfl rfl rfl

theorem pause_emits (p : Pacing) (ms : Int) (b : Bench T) :
    (p.pause ms).Emits b (p.Paused ms) := by
  cases p with
  | delay =>
    have hpauses {es : List (Entry T)} {r : Except Fault Unit}
        (h : Act.Made (.delay ms) (fun _ => .done) es r) : ∀ e ∈ es, e.call.isPause = true := by
      intro e he
      rw [h.forall_call e he]
      rfl
    apply (delay_emits ms b).bind fun _ b' _ _ => .require _ _ b'
    · intro es f hmade
      exact ⟨hpauses hmade, by simp, fun _ _ _ _ => hmade.failed⟩
    · intro es u fs r hmade h
      obtain ⟨rfl, rfl⟩ := h
      rw [List.append_nil]
      refine ⟨hpauses hmade, ?_, ?_⟩
      · intro hdone
        by_cases hms : (TimeScale.ofMillis? ms : Option T).isSome = true
        · obtain ⟨t, ht⟩ := Option.isSome_iff_exists.mp hms
          have hcall : (delay.call? ms : Option (Call T)) = some (.delay ms) := by
            rw [call?, ht]
            rfl
          exact ⟨.delay ms, hcall, hmade.map_did⟩
        · rw [if_neg hms] at hdone
          cases hdone
      · intro f c hundone hc
        obtain ⟨t, ht, -⟩ := Option.map_eq_some_iff.mp hc
        rw [ht] at hundone
        cases hundone
  | sleep =>
    rcases hms : (TimeScale.ofMillis? ms : Option T) with _ | t
    · have hcall : (sleep.call? ms : Option (Call T)) = none := by
        rw [call?, hms]
        rfl
      rw [pause, hms]
      exact .raise ⟨by simp, by simp, by simp [hcall]⟩
    · have hcall : (sleep.call? ms : Option (Call T)) = some (.sleep t) := by
        rw [call?, hms]
        rfl
      rw [pause, hms]
      apply (Act.perform_emits (.still rfl rfl rfl)).mono
      intro es r hmade
      exact paused_of_made hcall hmade

end Pacing
namespace Line

/-- A signal that can reach the transceiver is one call, and no other. -/
theorem switch_emits {d : DirectionLine} {b : Bench T} (hlive : d.isLive b = true) (high : Bool) :
    (switch (d.drive high)).Emits b fun es r => ∃ e, es = [e] ∧ e.call = d.signalCall high ∧
      (r = .ok () ∧ e.reply = .done ∨ (∃ f, r = .error f) ∧ e.failed = true) := by
  have hdrive : (d.drive high).Emits b (Act.Made (d.signalCall high) fun _ => .done) := by
    rw [Act.Emits, DirectionLine.drive_live hlive]
    exact Act.touch_emits _ b
  apply hdrive.relabel
  · intro es u h
    obtain ⟨e, rfl, hcall, hreply⟩ := h
    exact ⟨e, rfl, hcall, .inl ⟨rfl, hreply⟩⟩
  · intro es f h
    obtain ⟨e, rfl, hcall, hreply⟩ := h
    have hfailed : e.failed = true := by rw [Entry.failed, hreply]
    exact ⟨e, rfl, hcall, .inr ⟨⟨_, rfl⟩, hfailed⟩⟩

theorem ofSystem_of_connection {wrap : Fault → Fault} {f : Fault} (h : f.kind = .connection) :
    ofSystem wrap f = wrap f := by
  simp [ofSystem, Fault.isA, h, Kind.isA, Kind.families]

theorem switch_dead {d : DirectionLine} {b : Bench T} (hdead : d.isLive b = false) (high : Bool) :
    ∃ f, switch (d.drive high) b = (.error (.direction f), b) := by
  obtain ⟨f, hkind, hdrive⟩ := DirectionLine.drive_dead hdead high
  refine ⟨f, ?_⟩
  rw [switch, Act.relabel_error hdrive, ofSystem_of_connection hkind]

theorem switch_dead_emits {d : DirectionLine} {b : Bench T} (hdead : d.isLive b = false)
    (high : Bool) : (switch (d.drive high)).Emits b fun es _ => es = [] := by
  obtain ⟨f, hswitch⟩ := switch_dead hdead high
  rw [Act.Emits, hswitch]
  exact ⟨[], .refl b, rfl⟩

/-- After a failed transmission the line is told to receive, and then the fault is raised. -/
theorem recover_emits {l : Line} {b : Bench T} {P : List (Entry T) → Prop}
    (hswitch : (switch (l.direction.drive false)).Emits b fun es _ => P es) (f : Fault) :
    (do
      l.recover
      Act.raise f : Act (Bench T) Unit).Emits b fun es r => P es ∧ r ≠ .ok () := by
  have hrecover : l.recover.Emits b fun es _ => P es := by
    apply hswitch.orElse (Q := fun _ es _ => es = [])
    · intro e b' _ _
      split
      · exact .note rfl
      · exact .raise rfl
    · intro es u h
      exact h
    · intro es e fs r h hnone
      rw [hnone, List.append_nil]
      exact h
  apply hrecover.bind (Q := fun _ es r => es = [] ∧ r ≠ .ok ())
  · intro u b' _ _
    exact .raise ⟨rfl, by simp⟩
  · intro es e h
    exact ⟨h, by simp⟩
  · intro es u fs r h hraised
    rw [hraised.1, List.append_nil]
    exact ⟨h, hraised.2⟩

theorem switch_makes (d : DirectionLine) (high : Bool) :
    Act.Makes (T := T) (· = d.signalCall high) (switch (d.drive high)) := by
  intro b
  cases hlive : d.isLive b with
  | false =>
    apply (switch_dead_emits hlive high).mono
    intro es r hnone
    simp [hnone]
  | true =>
    apply (switch_emits hlive high).mono
    intro es r h
    obtain ⟨e, rfl, hcall, -⟩ := h
    intro e' he'
    rw [List.mem_singleton.mp he', hcall]

theorem make_makes (channel : Channel) (direction : DirectionLine) (byteTime : Number)
    (pacing : Pacing) :
    Act.Makes (T := T) (· = direction.signalCall false)
      (make channel direction byteTime pacing) := by
  unfold make
  refine .ite (.raise _) (.bind (.observe _) fun _ => .ite (.raise _) (.bind (.observe _) fun _ =>
    .ite (.raise _) (.bind (switch_makes direction false) fun _ => ?_)))
  refine .bind (fun b => ⟨[], .still rfl rfl rfl, by simp⟩) fun id => ?_
  exact .bind (.change fun b => .still rfl rfl rfl) fun _ => .pure _

theorem direction_of_make {channel : Channel} {direction : DirectionLine} {byteTime : Number}
    {pacing : Pacing} {b : Bench T} {l : Line}
    (h : (make channel direction byteTime pacing b).1 = .ok l) : l.direction = direction := by
  unfold make at h
  split at h
  · cases h
  rw [Act.bind_ok (Act.observe_apply _ b)] at h
  split at h
  · cases h
  rw [Act.bind_ok (Act.observe_apply _ b)] at h
  split at h
  · cases h
  rcases hswitch : switch direction.disengage b with ⟨f | u, b'⟩
  · rw [Act.bind_error hswitch] at h
    cases h
  · rw [Act.bind_ok hswitch] at h
    cases h
    rfl

theorem release_makes (l : Line) :
    Act.Makes (T := T) (· = l.direction.signalCall false) l.release := by
  rw [release]
  refine .bind (.observe _) fun _ => .ite (.pure _) (.ensuring (switch_makes l.direction false) ?_)
  exact .change fun b => .still rfl rfl rfl

theorem requireHeld_makes (l : Line) (p : Call T → Prop) :
    Act.Makes p (l.requireHeld : Act (Bench T) Unit) :=
  .bind (.observe _) fun _ => .require

variable [TimeScale T]

theorem dropWaiting_makes (l : Line) (fuel dropped : Nat) :
    Act.Makes (T := T) l.channel.Receives (l.dropWaiting fuel dropped) := by
  induction fuel generalizing dropped with
  | zero => exact .pure _
  | succ fuel ih =>
    refine .bind l.channel.hasWaiting_makes fun waiting => .ite ?_ (.pure _)
    refine .bind (l.channel.next_makes (some 0)) fun byte => ?_
    cases byte with
    | none => exact .pure _
    | some b => exact ih (dropped + 1)

theorem discardWaiting_makes (l : Line) :
    Act.Makes (T := T) l.channel.Receives l.discardWaiting := by
  refine .bind (l.requireHeld_makes _) fun _ => .bind (.observe _) fun waiting => ?_
  refine .bind (l.dropWaiting_makes _ _) fun dropped => ?_
  exact .bind (.onlyIf (.note _)) fun _ => .pure _

theorem collect_makes (l : Line) (deadline : Option T) (missing : Nat) (got : Bytes) :
    Act.Makes l.channel.Receives (l.collect deadline missing got) := by
  induction missing generalizing got with
  | zero => exact .pure _
  | succ missing ih =>
    have hnext (wait : Option T) {f : Option UInt8 → Act (Bench T) Bytes}
        (hnone : f none = pure got)
        (hsome : ∀ b, f (some b) = l.collect deadline missing (got ++ [b])) :
        Act.Makes l.channel.Receives (l.channel.next wait >>= f) := by
      refine .bind (l.channel.next_makes wait) fun byte => ?_
      cases byte with
      | none =>
        rw [hnone]
        exact .pure _
      | some b =>
        rw [hsome]
        exact ih _
    cases deadline with
    | none => exact hnext none rfl fun _ => rfl
    | some d => exact .bind .readClock fun now => .ite (.pure _) (hnext _ rfl fun _ => rfl)

theorem receive_makes (l : Line) (n : Int) (wait : Option (Wait T)) (flush : Bool) :
    Act.Makes l.channel.Receives (l.receive n wait flush) := by
  have hcollect (deadline : Option T) : Act.Makes l.channel.Receives (do
      let got ← l.collect deadline n.toNat []
      if (got.length : Int) < n then .raise (.truncated got n)
      else
        Bench.note (.received got)
        pure got) :=
    .bind (l.collect_makes deadline _ _) fun got =>
      .ite (.raise _) (.bind (.note _) fun _ => .pure _)
  refine .bind (l.requireHeld_makes _) fun _ => .bind (.onlyIf ?_) fun _ => ?_
  · exact .bind l.discardWaiting_makes fun _ => .pure _
  · cases wait with
    | none => exact .bind (.pure none) hcollect
    | some w =>
      refine Act.Makes.bind (x := Bench.readClock) .readClock fun now => ?_
      exact .bind (x := w.resolve) (.ofExcept _) fun t => .bind (.pure _) hcollect

end Line

end SpindleLink
