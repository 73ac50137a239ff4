import SpindleLink.Proofs.Arrival
import SpindleLink.Proofs.DriveTraffic

/-! Sending where nothing fails. On a line that works every call is made and done, so a command that
has a written form is transmitted in full, and the line works as before. -/

namespace SpindleLink

variable {T : Type}

/-- How many of some bytes a channel says it accepts. -/
def Channel.accepted (b : Bench T) (length : Nat) : Channel → Option Int
  | scripted id => (b.scripts.get id).acceptance.answer length
  | serial _ => some ((b.device.acceptance.answer length).getD length)

/-- A held line on which no call fails, whose signal reaches the transceiver, and whose channel is
there and accepts a number of bytes in full. -/
structure Line.Works (l : Line) (length : Nat) (b : Bench T) : Prop where
  held : l.isReleased b = false
  clear : ∀ p, (b.plans.get p).Clear
  gives : l.channel.gives b = true
  live : l.direction.isLive b = true
  accepts : l.channel.accepted b length = some (length : Int)

/-- The waits of a transmission lie within the scale of time. -/
structure Line.Timed (T : Type) [TimeScale T] (l : Line) (length : Nat) : Prop where
  settle : (TimeScale.ofMillis? Line.settle : Option T).isSome = true
  turnaround : (TimeScale.ofMillis? Line.turnaround : Option T).isSome = true
  hold : ∃ ms, l.holdTime length = .ok ms ∧ (TimeScale.ofMillis? ms : Option T).isSome = true

namespace Line.Works

variable {l : Line} {length : Nat} {b : Bench T}

theorem congr (h : l.Works length b) {b' : Bench T} (hclear : ∀ p, (b'.plans.get p).Clear)
    (hreleased : b'.releasedLines = b.releasedLines) (hscripts : b'.scripts = b.scripts)
    (hports : b'.ports = b.ports) (hpins : b'.pins = b.pins) (hdevice : b'.device = b.device) :
    l.Works length b' where
  held := by
    rw [Line.isReleased, hreleased]
    exact h.held
  clear := hclear
  gives := by
    rw [← h.gives]
    cases l.channel with
    | scripted id => rw [Channel.gives, Channel.gives, hscripts]
    | serial c =>
      rw [Channel.gives, Channel.gives, SerialChannel.connected, SerialChannel.connected,
        SerialChannel.port?, SerialChannel.port?, hports]
  live := by
    rw [← h.live]
    have hgrew : Bench.Grew { b with trace := [] } { b' with trace := [] } [] :=
      .of_same rfl hports hpins
    exact hgrew.live l.direction
  accepts := by
    rw [← h.accepts]
    cases l.channel with
    | scripted id => rw [Channel.accepted, Channel.accepted, hscripts]
    | serial c => rw [Channel.accepted, Channel.accepted, hdevice]

theorem counted (h : l.Works length b) (c : Call T) : l.Works length (b.counted c) :=
  h.congr (fun p => Bench.plans_counted_clear (h.clear p)) rfl rfl rfl rfl rfl

theorem perform (h : l.Works length b) {α : Type} (c : Call T) (reply : α → Reply)
    (work : Bench T → α × Bench T) (hwork : l.Works length (work (b.counted c)).2) :
    ∃ b', Bench.perform c reply work b = (.ok (work (b.counted c)).1, b') ∧ l.Works length b' :=
  ⟨_, Bench.perform_of_clear (h.clear _).current, hwork.congr hwork.clear rfl rfl rfl rfl rfl⟩

theorem touch (h : l.Works length b) (c : Call T) :
    ∃ b', Bench.touch c b = (.ok (), b') ∧ l.Works length b' :=
  h.perform c (fun _ => .done) (fun b => ((), b)) (h.counted c)

theorem note (h : l.Works length b) (n : Note) :
    ∃ b', Bench.note n b = (.ok (), b') ∧ l.Works length b' :=
  ⟨_, rfl, h.congr h.clear rfl rfl rfl rfl rfl⟩

theorem switch (h : l.Works length b) (high : Bool) :
    ∃ b', Line.switch (l.direction.drive high) b = (.ok (), b') ∧ l.Works length b' := by
  obtain ⟨b', htouch, h'⟩ := h.touch (l.direction.signalCall high)
  refine ⟨b', Act.relabel_ok ?_, h'⟩
  rw [DirectionLine.drive_live h.live, htouch]

theorem write (h : l.Works length b) {data : Bytes} (hlen : data.length = length) :
    ∃ b', l.channel.write data b = (.ok (some (length : Int)), b') ∧ l.Works length b' := by
  subst hlen
  have haccepts := h.accepts
  cases hchannel : l.channel with
  | scripted id =>
    rw [hchannel] at haccepts
    obtain ⟨b', hcall, h'⟩ := h.perform (.write id data) Reply.accepted
      (fun b => ((b.scripts.get id).acceptance.answer data.length, b)) (h.counted _)
    have hanswer : ((b.counted (.write id data)).scripts.get id).acceptance.answer data.length =
      some (data.length : Int) := haccepts
    rw [hanswer] at hcall
    exact ⟨b', hcall, h'⟩
  | serial c =>
    rw [hchannel, Channel.accepted] at haccepts
    have hgives := h.gives
    rw [hchannel] at hgives
    obtain ⟨p, hp⟩ := Option.isSome_iff_exists.mp hgives
    obtain ⟨b₁, hcall, h₁⟩ := h.perform (.portWrite data) Reply.accepted
      (fun b => (b.device.acceptance.answer data.length, b)) (h.counted _)
    obtain ⟨b₂, hflush, h₂⟩ := h₁.touch .portFlush
    refine ⟨b₂, ?_, h₂⟩
    have hpush : (do
        let accepted ← Bench.perform (.portWrite data) Reply.accepted fun b =>
          (b.device.acceptance.answer data.length, b)
        Bench.touch .portFlush
        pure accepted : Act (Bench T) (Option Int)) b =
          (.ok (b.device.acceptance.answer data.length), b₂) := by
      rw [Act.bind_ok hcall, Act.bind_ok hflush]
      rfl
    rw [Channel.write, Act.map_apply, SerialChannel.write,
      Act.bind_ok (SerialChannel.usePort_open hp), Act.bind_ok (Act.relabel_ok hpush)]
    exact Prod.ext (congrArg Except.ok haccepts) rfl

/-- What the channel is able to give it gives as before. -/
theorem listens (h : l.Works length b) : l.Listens (l.channel.source b) b.clock b where
  held := h.held
  clear := fun p _ => h.clear p
  gives := h.gives
  source_eq := rfl
  clock_eq := rfl

variable [TimeScale T]

theorem advance (h : l.Works length b) (t : T) : l.Works length (b.advance t) :=
  h.congr h.clear rfl rfl rfl rfl rfl

theorem pause (h : l.Works length b) {ms : Int}
    (hms : (TimeScale.ofMillis? ms : Option T).isSome = true) :
    ∃ b', l.pacing.pause ms b = (.ok (), b') ∧ l.Works length b' := by
  obtain ⟨t, ht⟩ := Option.isSome_iff_exists.mp hms
  cases l.pacing with
  | delay =>
    obtain ⟨b', hcall, h'⟩ := h.perform (.delay ms) (fun _ => .done)
      (fun b => ((), b.advance t)) ((h.counted _).advance t)
    refine ⟨b', ?_, h'⟩
    simp only [Pacing.pause, ht, Act.require, Option.isSome_some, if_true]
    exact Act.bind_ok hcall
  | sleep =>
    obtain ⟨b', hcall, h'⟩ := h.perform (.sleep t) (fun _ => .done)
      (fun b => ((), b.advance t)) ((h.counted _).advance t)
    refine ⟨b', ?_, h'⟩
    simp only [Pacing.pause, ht]
    exact hcall

theorem transmission (h : l.Works length b) {data : Bytes} (hlen : data.length = length)
    (htimed : l.Timed T length) :
    ∃ b', l.transmission data b = (.ok (), b') ∧ l.Works length b' := by
  obtain ⟨ms, hhold, hms⟩ := htimed.hold
  obtain ⟨b₁, hswitch, h₁⟩ := h.switch true
  obtain ⟨b₂, hsettle, h₂⟩ := h₁.pause htimed.settle
  obtain ⟨b₃, hwrite, h₃⟩ := h₂.write hlen
  obtain ⟨b₄, hnote, h₄⟩ := h₃.note (.sent data)
  obtain ⟨b₅, hpause, h₅⟩ := h₄.pause hms
  refine ⟨b₅, ?_, h₅⟩
  rw [transmission_eq, Act.bind_ok hswitch, wire, Act.bind_ok hsettle,
    Act.bind_ok (Act.relabel_ok hwrite), hlen, Act.require, if_pos rfl,
    Act.bind_ok (Act.pure_apply () b₃), Act.bind_ok hnote, hhold,
    Act.bind_ok (Act.ofExcept_apply _ b₄), hpause]

/-- A transmission on a line that works ends well, and the line still works. -/
theorem send (h : l.Works length b) {data : Bytes} (hlen : data.length = length)
    (htimed : l.Timed T length) : ∃ b', l.send data b = (.ok (), b') ∧ l.Works length b' := by
  obtain ⟨b₁, htransmission, h₁⟩ := h.transmission hlen htimed
  obtain ⟨b₂, hswitch, h₂⟩ := h₁.switch false
  obtain ⟨b₃, hpause, h₃⟩ := h₂.pause htimed.turnaround
  have hattempt : (l.transmission data).attempt b = (.ok (.ok ()), b₁) := by
    rw [Act.attempt_apply, htransmission]
  refine ⟨b₃, ?_, h₃⟩
  rw [Line.send, Act.bind_ok (requireHeld_of_held h.held), Act.bind_ok hattempt]
  exact (Act.bind_ok hswitch).trans hpause

end Line.Works

namespace Drive

variable [TimeScale T] {d : Drive T} {b : Bench T}

theorem send_works {frame : Command} {data : Bytes} (h : d.line.Works data.length b)
    (hdata : frame.toBytes = .ok data) (htimed : d.line.Timed T data.length) :
    ∃ b', d.send frame b = (.ok (), b') ∧ d.line.Works data.length b' := by
  obtain ⟨b', hsend, h'⟩ := h.send rfl htimed
  refine ⟨b', ?_, h'⟩
  rw [Drive.send, hdata]
  exact Act.orElse_ok hsend

end Drive
end SpindleLink
