import SpindleLink.Session
import SpindleLink.Proofs.Conservation
import SpindleLink.Proofs.Transmission

/-! The first fault of a transmission, and what becomes of it. Wherever the signal, a wait or the
write fails, the line falls back to receiving and passes on that fault. A release that fails as
well is only noted if its fault is one of the operating system; any other takes the place of the
first. -/

namespace SpindleLink

variable {T : Type}

theorem Act.Emits.and {α : Type} {x : Act (Bench T) α} {b : Bench T}
    {P Q : List (Entry T) → Except Fault α → Prop} (h : x.Emits b P) (h' : x.Emits b Q) :
    x.Emits b fun es r => P es r ∧ Q es r := by
  obtain ⟨es, hgrew, hP⟩ := h
  obtain ⟨es', hgrew', hQ⟩ := h'
  obtain rfl := List.append_cancel_left (hgrew.trace.symm.trans hgrew'.trace)
  exact ⟨es, hgrew, hP, hQ⟩

/-- A fault with the calls that led to it. -/
def Act.FailsAs {α : Type} (x : Act (Bench T) α) (b : Bench T)
    (P : List (Call T × Reply) → Fault → Prop) : Prop :=
  x.Emits b fun es r => ∀ f, r = .error f → P (es.map Entry.did) f

theorem Act.FailsAs.map {α β : Type} {x : Act (Bench T) α} {b : Bench T}
    {P : List (Call T × Reply) → Fault → Prop} (h : x.FailsAs b P) (f : α → β) :
    (f <$> x).FailsAs b P := by
  apply Act.Emits.map
  apply h.mono
  intro es r hr g hg
  cases r with
  | ok a => cases hg
  | error e =>
    obtain rfl := Except.error.inj hg
    exact hr e rfl

theorem Act.FailsAs.relabel {α : Type} {x : Act (Bench T) α} {b : Bench T}
    {P Q : List (Call T × Reply) → Fault → Prop} (h : x.FailsAs b P) {g : Fault → Fault}
    (hPQ : ∀ calls f, P calls f → Q calls (g f)) : (x.relabel g).FailsAs b Q := by
  apply Act.Emits.relabel h
  · intro es a _ f' hf'
    cases hf'
  · intro es f hf f' hf'
    obtain rfl := Except.error.inj hf'
    exact hPQ _ f (hf f rfl)

/-- A sequence fails in its first part or, behind the calls of that, in the rest. -/
theorem Act.FailsAs.bind {α β : Type} {x : Act (Bench T) α} {f : α → Act (Bench T) β} {b : Bench T}
    {P : List (Entry T) → Except Fault α → Prop} {Q : List (Call T × Reply) → Fault → Prop}
    (hx : x.Emits b P) (herror : ∀ es e, P es (.error e) → Q (es.map Entry.did) e)
    (hf : ∀ es a b', P es (.ok a) →
      (f a).FailsAs b' fun calls e => Q (es.map Entry.did ++ calls) e) :
    (x >>= f).FailsAs b Q := by
  obtain ⟨es, hgrew, hP⟩ := hx
  rcases hrun : x b with ⟨e | a, b₁⟩
  · rw [hrun] at hgrew hP
    rw [Act.FailsAs, Act.Emits, Act.bind_error hrun]
    refine ⟨es, hgrew, ?_⟩
    rintro _ ⟨⟩
    exact herror es e hP
  · rw [hrun] at hgrew hP
    obtain ⟨fs, hgrew', hQ⟩ := hf es a b₁ hP
    rw [Act.FailsAs, Act.Emits, Act.bind_ok hrun]
    refine ⟨es ++ fs, hgrew.trans hgrew', ?_⟩
    intro e he
    rw [List.map_append]
    exact hQ e he

theorem Act.Made.did_error {α : Type} {c : Call T} {reply : α → Reply} {es : List (Entry T)}
    {f : Fault} (h : Act.Made c reply es (.error f)) : es.map Entry.did = [(c, .failed f)] := by
  obtain ⟨e, rfl, hcall, hreply⟩ := h
  rw [List.map_singleton, Entry.did, hcall, hreply]

/-- How a signal fails: in its call, or for want of a connection. -/
def DirectionLine.Fails (d : DirectionLine) (high : Bool) (calls : List (Call T × Reply))
    (cause : Fault) : Prop :=
  calls = [(d.signalCall high, .failed cause)] ∨ calls = [] ∧ cause.kind = .connection

/-- How a channel fails to take bytes: in a call to write, or for want of a port. A serial channel
wraps the faults of its device. -/
def Channel.Refuses (data : Bytes) (calls : List (Call T × Reply)) (cause : Fault) :
    Channel → Prop
  | scripted id => calls = [(.write id data, .failed cause)]
  | serial c => (calls = [] ∧ cause = .portNotOpen c.name) ∨
      ∃ f, cause = SerialChannel.ofDevice (.portWrite c.name) f ∧
        (calls = [(.portWrite data, .failed f)] ∨
          ∃ told, calls = [(.portWrite data, .accepted told), (.portFlush, .failed f)])

theorem DirectionLine.drive_outcome (d : DirectionLine) (high : Bool) (b : Bench T) :
    (d.drive high).Emits b fun es r =>
      match r with
      | .ok () => es.map Entry.did = [(d.signalCall high, .done)]
      | .error f => d.Fails high (es.map Entry.did) f := by
  cases hlive : d.isLive b with
  | true =>
    have hcall : (d.drive high).Emits b (Act.Made (d.signalCall high) fun _ => .done) := by
      rw [Act.Emits, drive_live hlive]
      exact Act.touch_emits _ b
    apply hcall.mono
    intro es r hmade
    cases r with
    | ok u => exact hmade.map_did
    | error f => exact .inl hmade.did_error
  | false =>
    obtain ⟨f, hkind, hdrive⟩ := drive_dead (T := T) hlive high
    rw [Act.Emits, hdrive]
    exact ⟨[], .refl b, .inr ⟨rfl, hkind⟩⟩

theorem DirectionLine.drive_log (d : DirectionLine) (high : Bool) (b : Bench T) :
    (d.drive high b).2.log = b.log := by
  cases hlive : d.isLive b with
  | true =>
    rw [drive_live hlive]
    exact Bench.perform_leaves (fun _ _ => rfl) (fun _ => rfl) b
  | false =>
    obtain ⟨f, -, hdrive⟩ := drive_dead (T := T) hlive high
    rw [hdrive]

namespace Channel

/-- The write to a device, or the flush behind it, is what fails. -/
theorem push_fails (data : Bytes) (b : Bench T) :
    (do
      let accepted ← Bench.perform (.portWrite data) Reply.accepted fun b =>
        (b.device.acceptance.answer data.length, b)
      Bench.touch .portFlush
      pure accepted : Act (Bench T) (Option Int)).FailsAs b fun calls f =>
        calls = [(.portWrite data, .failed f)] ∨
          ∃ told, calls = [(.portWrite data, .accepted told), (.portFlush, .failed f)] := by
  have hwrite : (Bench.perform (.portWrite data) Reply.accepted fun b =>
      (b.device.acceptance.answer data.length, b)).Emits b
      (Act.Made (.portWrite data) Reply.accepted) :=
    Act.perform_emits (.still rfl rfl rfl)
  apply hwrite.bind fun told b' _ _ => SerialChannel.flush_emits told b'
  · rintro es f hmade g hg
    obtain rfl := Except.error.inj hg
    exact .inl hmade.did_error
  · rintro es told fs r hmade ⟨hflush, -⟩ g rfl
    exact .inr ⟨told, by rw [List.map_append, hmade.map_did, hflush.did_error]; rfl⟩

theorem write_fails (channel : Channel) (data : Bytes) (b : Bench T) :
    (channel.write data).FailsAs b fun calls f => channel.Refuses data calls f := by
  cases channel with
  | scripted id =>
    have hcall : ((Channel.scripted id).write data : Act (Bench T) (Option Int)).Emits b
        (Act.Made (.write id data) Reply.accepted) := Act.perform_emits (.still rfl rfl rfl)
    apply hcall.mono
    rintro es r hmade f rfl
    exact hmade.did_error
  | serial c =>
    apply Act.FailsAs.map
    rcases hport : c.port? b with _ | port
    · apply Act.Emits.stop (SerialChannel.usePort_closed hport)
      rintro f hf
      exact .inl ⟨rfl, (Except.error.inj hf).symm⟩
    · apply Act.Emits.step (SerialChannel.usePort_open hport)
      have hpush := (push_fails data b).relabel (g := SerialChannel.ofDevice (.portWrite c.name))
        (Q := fun calls f => (Channel.serial c).Refuses data calls f)
        fun calls f h => .inr ⟨f, rfl, h⟩
      exact hpush.map fun accepted => accepted.getD data.length

end Channel

namespace Line

theorem up_outcome (l : Line) (b : Bench T) :
    (switch (l.direction.drive true)).Emits b fun es r =>
      match r with
      | .ok () => es.map Entry.did = [(l.direction.signalCall true, .done)]
      | .error f => ∃ cause, f = ofSystem .direction cause ∧
          l.direction.Fails true (es.map Entry.did) cause :=
  (l.direction.drive_outcome true b).relabel (fun _ _ h => h) fun _ e h => ⟨e, rfl, h⟩

/-- Behind a first fault the line is told to receive. If that fails by a fault of the operating
system a note is made of it; by any other, this one is raised and no note is made. -/
inductive Fallback (l : Line) (first : Fault) :
    List (Call T × Reply) → Except Fault Unit → List Note → Prop
  | lowered : Fallback l first [(l.direction.signalCall false, .done)] (.error first) []
  | noted {calls : List (Call T × Reply)} {cause : Fault} (h : l.direction.Fails false calls cause)
    (hsystem : cause.isA .system = true) :
    Fallback l first calls (.error first) [.releaseFailed (ofSystem .direction cause)]
  | replaced {calls : List (Call T × Reply)} {cause : Fault}
    (h : l.direction.Fails false calls cause) (hother : cause.isA .system = false) :
    Fallback l first calls (.error cause) []

theorem isA_ofSystem {wrap : Fault → Fault} (hwrap : ∀ f, (wrap f).kind = .transport) (f : Fault) :
    (ofSystem wrap f).isA .transport = f.isA .system := by
  unfold ofSystem
  split
  next htransport =>
    rw [htransport]
    unfold Fault.isA at htransport ⊢
    cases hkind : f.kind <;> rw [hkind] at htransport <;> first | rfl | cases htransport
  next hlink =>
    split
    next hsystem => rw [hsystem, Fault.isA, hwrap, Kind.isA_self]
    next hother => rw [Bool.eq_false_iff.mpr hlink, Bool.eq_false_iff.mpr hother]

theorem ofSystem_of_other {wrap : Fault → Fault} {f : Fault} (h : f.isA .system = false) :
    ofSystem wrap f = f := by
  unfold ofSystem
  split
  · rfl
  · rw [if_neg (Bool.eq_false_iff.mp h)]

theorem fallback (l : Line) (first : Fault) (b : Bench T) :
    ∃ es notes, ((l.recover >>= fun _ => Act.raise first : Act (Bench T) Unit) b).2.trace =
        b.trace ++ es ∧
      ((l.recover >>= fun _ => Act.raise first : Act (Bench T) Unit) b).2.log = b.log ++ notes ∧
      l.Fallback first (es.map Entry.did)
        ((l.recover >>= fun _ => Act.raise first : Act (Bench T) Unit) b).1 notes := by
  obtain ⟨es, hgrew, houtcome⟩ := l.direction.drive_outcome false b
  have hlog := l.direction.drive_log false b
  rcases hdrive : l.direction.drive false b with ⟨cause | u, b'⟩
  · rw [hdrive] at hgrew houtcome hlog
    have hswitch : switch l.direction.disengage b = (.error (ofSystem .direction cause), b') :=
      Act.relabel_error hdrive
    rw [Act.bind_apply, recover, Act.orElse_error hswitch, isA_ofSystem (fun _ => rfl)]
    cases hsystem : cause.isA .system with
    | true =>
      refine ⟨es, [.releaseFailed (ofSystem .direction cause)], hgrew.trace, ?_, ?_⟩
      · exact congrArg (· ++ _) hlog
      · exact .noted houtcome hsystem
    | false =>
      refine ⟨es, [], hgrew.trace, ?_, ?_⟩
      · rw [List.append_nil]
        exact hlog
      · rw [ofSystem_of_other hsystem]
        exact .replaced houtcome hsystem
  · rw [hdrive] at hgrew houtcome hlog
    have hswitch : switch l.direction.disengage b = (.ok (), b') := Act.relabel_ok hdrive
    rw [Act.bind_apply, recover, Act.orElse_ok hswitch]
    refine ⟨es, [], hgrew.trace, ?_, ?_⟩
    · rw [List.append_nil]
      exact hlog
    · rw [show es.map Entry.did = [(l.direction.signalCall false, .done)] from houtcome]
      exact .lowered

end Line

variable [TimeScale T]

/-- How a wait fails: in its call, or because it is out of range. -/
def Pacing.Fails (ms : Int) (calls : List (Call T × Reply)) (cause : Fault) : Prop :=
  (∃ c, c.isPause = true ∧ calls = [(c, .failed cause)]) ∨
    (TimeScale.ofMillis? ms : Option T) = none ∧ cause = .arithmetic .quotientTooLarge ∧
      ∀ p ∈ calls, p.1.isPause = true ∧ p.2 = .done

theorem Pacing.pause_fails (p : Pacing) (ms : Int) (b : Bench T) :
    (p.pause ms).FailsAs b (Pacing.Fails ms) := by
  cases p with
  | delay =>
    apply Act.FailsAs.bind (delay_emits ms b)
    · exact fun es e hmade => .inl ⟨.delay ms, rfl, hmade.did_error⟩
    · intro es u b' hmade
      apply (Act.Emits.require _ _ b').mono
      rintro fs r ⟨rfl, hr⟩ f rfl
      cases hms : (TimeScale.ofMillis? ms : Option T) with
      | some t => simp [hms] at hr
      | none =>
        simp only [hms, Option.isSome_none, Bool.false_eq_true, if_false, Except.error.injEq] at hr
        exact .inr ⟨hms, hr, by simp [hmade.map_did, Call.isPause]⟩
  | sleep =>
    rw [Pacing.pause]
    cases hms : (TimeScale.ofMillis? ms : Option T) with
    | none =>
      apply Act.Emits.raise
      rintro f hf
      exact .inr ⟨hms, (Except.error.inj hf).symm, by simp⟩
    | some t =>
      have hcall : (Bench.signal (.sleep t) (Bench.advance t)).Emits b
          (Act.Made (.sleep t) fun _ => .done) := Act.perform_emits (.still rfl rfl rfl)
      apply hcall.mono
      rintro es r hmade f rfl
      exact .inl ⟨.sleep t, rfl, hmade.did_error⟩

namespace Line

/-- What fails first in a transmission, by the calls up to it, with the fault that it is passed on
as: a fault of the operating system in the signal or the write as one of the link, a short write as
one of the link, and any other as it is. -/
inductive Troubled (l : Line) (data : Bytes) : List (Call T × Reply) → Fault → Prop
  | signal {calls : List (Call T × Reply)} {cause : Fault}
    (h : l.direction.Fails true calls cause) : Troubled l data calls (ofSystem .direction cause)
  | settling {calls : List (Call T × Reply)} {cause : Fault} (h : Pacing.Fails settle calls cause) :
    Troubled l data ((l.direction.signalCall true, .done) :: calls) cause
  | writing {settling : Call T} {calls : List (Call T × Reply)} {cause : Fault}
    (hsettling : l.pacing.call? settle = some settling) (h : l.channel.Refuses data calls cause) :
    Troubled l data ((l.direction.signalCall true, .done) :: (settling, .done) :: calls)
      (ofSystem .channelWrite cause)
  | short {settling : Call T} {sent : List (Call T × Reply)} {accepted : Option Int}
    (hsettling : l.pacing.call? settle = some settling)
    (hsent : l.channel.Took data accepted sent) (h : accepted ≠ some (data.length : Int)) :
    Troubled l data ((l.direction.signalCall true, .done) :: (settling, .done) :: sent)
      (.shortWrite accepted data.length)
  | timing {settling : Call T} {sent : List (Call T × Reply)} {cause : Fault}
    (hsettling : l.pacing.call? settle = some settling)
    (hsent : l.channel.Took data (some data.length) sent)
    (h : l.holdTime data.length = .error cause) :
    Troubled l data ((l.direction.signalCall true, .done) :: (settling, .done) :: sent) cause
  | holding {settling : Call T} {sent calls : List (Call T × Reply)} {hold : Int} {cause : Fault}
    (hsettling : l.pacing.call? settle = some settling)
    (hsent : l.channel.Took data (some data.length) sent)
    (hhold : l.holdTime data.length = .ok hold) (h : Pacing.Fails hold calls cause) :
    Troubled l data ((l.direction.signalCall true, .done) :: (settling, .done) :: (sent ++ calls))
      cause

variable {l : Line} {data : Bytes}

theorem hold_fails {settling : Call T} {sent : List (Call T × Reply)} {accepted : Option Int}
    (hsettling : l.pacing.call? settle = some settling) (hsent : l.channel.Took data accepted sent)
    (b : Bench T) :
    (do
      Act.require (accepted = some (data.length : Int)) (.shortWrite accepted data.length)
      Bench.note (.sent data)
      let hold ← Act.ofExcept (l.holdTime data.length)
      l.pacing.pause hold).FailsAs b fun calls f => l.Troubled data
        ((l.direction.signalCall true, .done) :: (settling, .done) :: (sent ++ calls)) f := by
  by_cases haccepted : accepted = some (data.length : Int)
  · subst haccepted
    have hrequire : (Act.require (some (data.length : Int) = some (data.length : Int))
        (.shortWrite (some (data.length : Int)) data.length) : Act (Bench T) Unit) b =
          (.ok (), b) := by
      rw [Act.require, if_pos rfl]
      rfl
    apply Act.Emits.step hrequire
    apply Act.Emits.behind_note
    intro b' _
    cases hhold : l.holdTime data.length with
    | error e =>
      apply Act.Emits.stop rfl
      rintro f hf
      obtain rfl := Except.error.inj hf
      rw [List.map_nil, List.append_nil]
      exact .timing hsettling hsent hhold
    | ok hold =>
      apply Act.Emits.step rfl
      apply (l.pacing.pause_fails hold b').mono
      intro es r h f hf
      exact .holding hsettling hsent hhold (h f hf)
  · have hrequire : (Act.require (accepted = some (data.length : Int))
        (.shortWrite accepted data.length) : Act (Bench T) Unit) b =
          (.error (.shortWrite accepted data.length), b) := by
      rw [Act.require, if_neg haccepted]
      rfl
    apply Act.Emits.stop hrequire
    rintro f hf
    obtain rfl := Except.error.inj hf
    rw [List.map_nil, List.append_nil]
    exact .short hsettling hsent haccepted

theorem wire_fails (l : Line) (data : Bytes) (b : Bench T) :
    (l.wire data).FailsAs b fun calls f =>
      l.Troubled data ((l.direction.signalCall true, .done) :: calls) f := by
  apply Act.FailsAs.bind ((l.pacing.pause_emits settle b).and (l.pacing.pause_fails settle b))
  · exact fun es e h => .settling (h.2 e rfl)
  · rintro es u b₁ ⟨hpaused, -⟩
    obtain ⟨settling, hsettling, hdid⟩ := hpaused.done rfl
    have hwrite := (l.channel.write_emits data b₁).and (l.channel.write_fails data b₁)
    have htold := hwrite.relabel (f := ofSystem .channelWrite)
      (R := fun es r => (∀ accepted, r = .ok accepted →
          l.channel.Took data accepted (es.map Entry.did)) ∧
        ∀ f, r = .error f → ∃ cause, f = ofSystem .channelWrite cause ∧
          l.channel.Refuses data (es.map Entry.did) cause)
      (fun es a h => ⟨h.1.took, by simp⟩)
      fun es e h => ⟨by simp, fun f hf => ⟨e, (Except.error.inj hf).symm, h.2 e rfl⟩⟩
    rw [hdid]
    apply Act.FailsAs.bind htold
    · intro es e h
      obtain ⟨cause, rfl, hrefuses⟩ := h.2 e rfl
      exact .writing hsettling hrefuses
    · intro es accepted b₂ h
      exact hold_fails hsettling (h.1 accepted rfl) b₂

theorem transmission_fails (l : Line) (data : Bytes) (b : Bench T) :
    (l.transmission data).FailsAs b (l.Troubled data) := by
  rw [transmission_eq]
  apply Act.FailsAs.bind (l.up_outcome b)
  · rintro es e ⟨cause, rfl, hfails⟩
    exact .signal hfails
  · intro es u b' h
    rw [show es.map Entry.did = [(l.direction.signalCall true, .done)] from h]
    exact l.wire_fails data b'

theorem transmission_done (l : Line) (data : Bytes) (b : Bench T) :
    (l.transmission data).Emits b fun es r => r = .ok () → ∃ wire, l.OnWire data wire ∧
      es.map Entry.did = (l.direction.signalCall true, .done) :: wire := by
  rw [transmission_eq]
  apply (l.up_outcome b).bind fun _ b' _ _ => l.wire_emits data b'
  · simp
  · intro es u fs r h hwired hr
    have hup : es.map Entry.did = [(l.direction.signalCall true, .done)] := h
    exact ⟨_, hwired.done hr, by rw [List.map_append, hup]; rfl⟩

/-- On a line that is held, whatever fails first in a sending is passed on, unless the release that
follows fails by a fault that is not of the operating system. -/
theorem send_first_fault {b : Bench T} (hheld : l.isReleased b = false) (data : Bytes) :
    ∃ sent, (l.transmission data b).2.trace = b.trace ++ sent ∧
      match (l.transmission data b).1 with
      | .ok () => ∃ wire, l.OnWire data wire ∧
          sent.map Entry.did = (l.direction.signalCall true, .done) :: wire
      | .error first => l.Troubled data (sent.map Entry.did) first ∧ ∃ released notes,
          (l.send data b).2.trace = b.trace ++ sent ++ released ∧
          (l.send data b).2.log = (l.transmission data b).2.log ++ notes ∧
          l.Fallback first (released.map Entry.did) (l.send data b).1 notes := by
  obtain ⟨sent, hgrew, hfails, hdone⟩ :=
    (l.transmission_fails data b).and (l.transmission_done data b)
  refine ⟨sent, hgrew.trace, ?_⟩
  rcases hrun : l.transmission data b with ⟨first | u, b₁⟩
  · rw [hrun] at hgrew hfails
    have hattempt : (l.transmission data).attempt b = (.ok (.error first), b₁) := by
      rw [Act.attempt_apply, hrun]
    have hsend : l.send data b = (l.recover >>= fun _ => Act.raise first) b₁ := by
      rw [send, Act.bind_ok (requireHeld_of_held hheld), Act.bind_ok hattempt]
    obtain ⟨released, notes, htrace, hlog, hfallback⟩ := l.fallback first b₁
    rw [← hsend] at htrace hlog hfallback
    refine ⟨hfails first rfl, released, notes, ?_, hlog, hfallback⟩
    rw [htrace, hgrew.trace]
  · rw [hrun] at hdone
    exact hdone rfl

/-- A channel that is unplugged is what fails first, and the release cannot hide it by a fault of
the operating system. -/
theorem send_first_fault_unplugged :
    let l : Line := ⟨0, .scripted 0, .scripted 0, .whole 1, .delay⟩
    let unplugged : Fault := .raised .system "device unplugged"
    let b : Bench Float :=
      { Bench.empty 0 0 with plans := (Table.constant .never).set (.write 0) (.after 0 unplugged) }
    ∃ (released : List (Call Float × Reply)) (notes : List Note),
      l.Fallback (.channelWrite unplugged) released (l.send [0x55] b).1 notes := by
  intro l unplugged b
  obtain ⟨sent, -, htroubled⟩ := send_first_fault (rfl : l.isReleased b = false) [0x55]
  have hfirst : (l.transmission [0x55] b).1 = .error (.channelWrite unplugged) := by rfl
  rw [hfirst] at htroubled
  obtain ⟨-, released, notes, -, -, hfallback⟩ := htroubled
  exact ⟨_, notes, hfallback⟩

end Line

namespace Session

/-- The channel is unplugged while a frame is sent, and the pin that lowers the signal fails by a
fault of its library. -/
def unpluggedWithPin : List Step :=
  [.direction (.gpio 1 18) .open, .newLine (.scripted 0) (.gpio 1 18) (some (.whole 1)) .delay,
    .adjust [.plan (.write 0) (.after 0 (.raised .system "device unplugged")),
      .plan .pinOutput (.after 1 (.raised .runtime "Please set pin numbering mode"))],
    .line 0 (.send [0x00, 0x55, 0x00, 0x00, 0x01, 0x01, 0x00, 0x02, 0xff])]

/-- The first fault is lost: that of the library is raised, and nothing is noted. -/
theorem send_loses_first_fault :
    let records := ((begin 0 0 2 [] []).run unpluggedWithPin).1
    (records.drop 3).map StepRecord.outcome =
        [.error (.raised .runtime "Please set pin numbering mode")] ∧
      (records.drop 3).map StepRecord.notes = [[]] := by
  refine ⟨?_, ?_⟩
  · rfl
  · rfl

end Session
end SpindleLink
