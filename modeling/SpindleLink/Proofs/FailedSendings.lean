import SpindleLink.Proofs.FailedReadings
import SpindleLink.Proofs.FrameCodecs
import SpindleLink.Proofs.WaitBounds

/-! Failures in sending. Whatever call on the link fails while a command is sent, the sending ends
in a fault. It is one of the link, unless something else fails beside it: a call by no fault of the
operating system, a wait, or the computing of a wait. -/

namespace SpindleLink

variable {T : Type}

/-- Whether a call to the channel or to the direction line failed by a fault of the operating
system. -/
def Entry.IsLinkFailure (e : Entry T) : Prop := e.call.isPause = false ∧ ∃ f, e.FailsBy f

theorem Fault.inverter_of_transport {f : Fault} (h : f.isA .transport = true) :
    f.isA .inverter = true := by
  unfold Fault.isA at h ⊢
  cases hkind : f.kind <;> rw [hkind] at h <;> first | rfl | cases h

namespace Command

theorem value_of_frame {frequency control : Int} {f : Fault}
    (h : frame frequency control = .error f) : f.isA .value = true := by
  unfold frame at h
  cases hencode : encode frequency control with
  | error r =>
    rw [hencode] at h
    obtain rfl := Except.error.inj h
    rfl
  | ok c =>
    rw [hencode] at h
    cases h

theorem value_of_speed {rpm control : Int} {f : Fault} (h : speed rpm control = .error f) :
    f.isA .value = true := by
  unfold speed at h
  cases hrpm : frequencyOf rpm with
  | error limit =>
    rw [hrpm] at h
    obtain rfl := Except.error.inj h
    rfl
  | ok frequency =>
    rw [hrpm] at h
    exact value_of_frame h

end Command

namespace Act

variable {α β : Type} {P : List (Entry T) → Fault → Prop}

theorem error_of_bind {σ : Type} {x : Act σ α} {f : α → Act σ β} {s : σ}
    (h : ∀ a s', x s = (.ok a, s') → ∃ g, (f a s').1 = .error g) :
    ∃ g, ((x >>= f) s).1 = .error g := by
  rcases hx : x s with ⟨e | a, s'⟩
  · exact ⟨e, congrArg Prod.fst (Act.bind_error hx)⟩
  · rw [Act.bind_ok hx]
    exact h a s' hx

/-- A call that failed makes an action end in a fault, and the calls account for every fault. -/
structure Accounts (P : List (Entry T) → Fault → Prop) (es : List (Entry T)) (r : Except Fault α) :
    Prop where
  raised : Blames (fun _ _ => True) es r
  shown : ∀ g, r = .error g → P es g

namespace Accounts

theorem ok (a : α) : Accounts P [] (.ok a) := ⟨.nil _, by simp⟩

theorem error {g : Fault} (h : P [] g) : Accounts P [] (.error g : Except Fault α) := by
  refine ⟨.nil _, ?_⟩
  rintro g ⟨⟩
  exact h

theorem made {c : Call T} {reply : α → Reply} (hreply : ∀ a f, reply a ≠ .failed f)
    (hP : ∀ e g, e.call = c → e.reply = .failed g → P [e] g) {es : List (Entry T)}
    {r : Except Fault α} (h : Made c reply es r) : Accounts P es r where
  raised := (h.blames hreply).mono fun _ _ _ => trivial
  shown := by
    obtain ⟨e, rfl, hcall, houtcome⟩ := h
    rintro g rfl
    exact hP e g hcall houtcome

/-- The fault that a failed call ends in is accounted for. -/
theorem blames {es : List (Entry T)} {r : Except Fault α} (h : Accounts P es r) :
    Blames (fun _ => P es) es r := by
  intro e he hfailed
  obtain ⟨g, hg, -⟩ := h.raised e he hfailed
  exact ⟨g, hg, h.shown g hg⟩

theorem bind (hP : ∀ es fs g, P fs g → P (es ++ fs) g) {x : Act (Bench T) α}
    {f : α → Act (Bench T) β} {b : Bench T} (hx : x.Emits b (Accounts P))
    (hf : ∀ a b', (f a).Emits b' (Accounts P)) : (x >>= f).Emits b (Accounts P) := by
  apply hx.bind fun a b' _ _ => hf a b'
  · intro es e h
    exact ⟨h.raised.error, fun g hg => h.shown g (by rw [Except.error.inj hg])⟩
  · intro es a fs r h h'
    exact ⟨h.raised.append h'.raised, fun g hg => hP es fs g (h'.shown g hg)⟩

theorem relabel {Q : List (Entry T) → Fault → Prop} {h : Fault → Fault} {x : Act (Bench T) α}
    {b : Bench T} (hx : x.Emits b (Accounts P)) (hQ : ∀ es f, P es f → Q es (h f)) :
    (x.relabel h).Emits b (Accounts Q) := by
  apply hx.relabel
  · intro es a h
    exact ⟨h.raised, by simp⟩
  · intro es f h
    refine ⟨fun e _ _ => ⟨_, rfl, trivial⟩, ?_⟩
    rintro g ⟨⟩
    exact hQ es f (h.shown f rfl)

end Accounts

/-- A fault of the operating system, or that of a call. -/
def Raw (es : List (Entry T)) (g : Fault) : Prop :=
  g.isA .system = true ∨ ∃ e ∈ es, e.reply = .failed g

theorem Raw.append (es fs : List (Entry T)) (g : Fault) (h : Raw fs g) : Raw (es ++ fs) g :=
  h.imp_right fun ⟨e, he, hreply⟩ => ⟨e, List.mem_append_right es he, hreply⟩

theorem Raw.of_connection {f : Fault} (h : f.kind = .connection) (es : List (Entry T)) :
    Raw es f := by
  simp [Raw, Fault.isA, h, Kind.isA, Kind.families]

theorem perform_raw {c : Call T} {reply : α → Reply} (hreply : ∀ a f, reply a ≠ .failed f)
    {work : Bench T → α × Bench T} {b : Bench T} (hwork : b.Grew (work (b.counted c)).2 []) :
    (Bench.perform c reply work).Emits b (Accounts Raw) :=
  (perform_emits hwork).mono fun _ _ h =>
    .made hreply (fun e _ _ hfailed => .inr ⟨e, List.mem_singleton.mpr rfl, hfailed⟩) h

end Act

theorem DirectionLine.drive_raw (d : DirectionLine) (high : Bool) (b : Bench T) :
    (d.drive high : Act (Bench T) Unit).Emits b (Act.Accounts Act.Raw) := by
  cases hlive : d.isLive b with
  | true =>
    rw [Act.Emits, drive_live hlive]
    exact Act.perform_raw (by simp) (.still rfl rfl rfl)
  | false =>
    obtain ⟨f, hkind, hdrive⟩ := drive_dead (T := T) hlive high
    rw [Act.Emits, hdrive]
    exact ⟨[], .refl b, .error (.of_connection hkind [])⟩

theorem Channel.write_raw (channel : Channel) (data : Bytes) (b : Bench T) :
    (channel.write data : Act (Bench T) (Option Int)).Emits b (Act.Accounts Act.Raw) := by
  cases channel with
  | scripted id => exact Act.perform_raw (by simp) (.still rfl rfl rfl)
  | serial c =>
    rw [write, SerialChannel.write, map_eq_pure_bind]
    refine Act.Accounts.bind Act.Raw.append ?_ fun a b' => .pure (.ok _)
    cases hport : c.port? b with
    | none =>
      exact .stop (SerialChannel.usePort_closed hport) (.error (.of_connection rfl []))
    | some port =>
      apply Act.Emits.step (SerialChannel.usePort_open hport)
      refine Act.Accounts.bind Act.Raw.append ?_ fun a b' => .pure (.ok _)
      refine Act.Accounts.relabel (P := Act.Raw) (Act.Accounts.bind Act.Raw.append
        (Act.perform_raw (by simp) (.still rfl rfl rfl)) fun told b' => ?_) ?_
      · exact Act.Accounts.bind Act.Raw.append (Act.perform_raw (by simp) (.still rfl rfl rfl))
          fun _ b' => .pure (.ok _)
      · intro es f h
        unfold SerialChannel.ofDevice
        split
        · exact .inl rfl
        · exact h

namespace Line

variable {α : Type} [TimeScale T] {l : Line} {length : Nat}

/-- A fault of the link, or one of something else that failed. -/
def Shown (l : Line) (length : Nat) (es : List (Entry T)) (g : Fault) : Prop :=
  g.isA .inverter = true ∨ (∃ e ∈ es, e.reply = .failed g ∧ ¬ e.IsLinkFailure) ∨
    ¬ l.Timed T length ∧ ∃ a, g = .arithmetic a

theorem Shown.append_right {es : List (Entry T)} {g : Fault} (h : l.Shown length es g)
    (fs : List (Entry T)) : l.Shown length (es ++ fs) g :=
  h.imp_right fun h => h.imp_left fun ⟨e, he, hforeign⟩ =>
    ⟨e, List.mem_append_left fs he, hforeign⟩

theorem Shown.append (es fs : List (Entry T)) (g : Fault) (h : l.Shown length fs g) :
    l.Shown length (es ++ fs) g :=
  h.imp_right fun h => h.imp_left fun ⟨e, he, hforeign⟩ =>
    ⟨e, List.mem_append_right es he, hforeign⟩

/-- Faults of the operating system become faults of the link, and no other fault is changed. -/
theorem shown_ofSystem {wrap : Fault → Fault} (hwrap : ∀ f, (wrap f).kind = .transport)
    (es : List (Entry T)) (f : Fault) (h : Act.Raw es f) :
    l.Shown length es (ofSystem wrap f) := by
  unfold ofSystem
  split
  next htransport => exact .inl (Fault.inverter_of_transport htransport)
  next =>
    split
    next => exact .inl (Fault.inverter_of_transport (by simp [Fault.isA, hwrap]))
    next hother =>
      rcases h with hsystem | ⟨e, he, hreply⟩
      · exact absurd hsystem hother
      · refine .inr (.inl ⟨e, he, hreply, ?_⟩)
        rintro ⟨-, f', hf', hsystem⟩
        obtain rfl : f = f' := Reply.failed.inj (hreply.symm.trans hf')
        exact hother hsystem

theorem arithmetic_of_holdTime {n : Int} {f : Fault} (h : l.holdTime n = .error f) :
    ∃ a, f = .arithmetic a := by
  unfold holdTime at h
  cases htime : l.byteTime.timesCeiling n with
  | error a =>
    rw [htime] at h
    exact ⟨a, (Except.error.inj h).symm⟩
  | ok ms =>
    rw [htime] at h
    cases h

theorem switch_accounts (d : DirectionLine) (high : Bool) (b : Bench T) :
    (switch (d.drive high)).Emits b (Act.Accounts (l.Shown length)) :=
  Act.Accounts.relabel (d.drive_raw high b) (shown_ofSystem fun _ => rfl)

theorem write_accounts (data : Bytes) (b : Bench T) :
    ((l.channel.write data).relabel (ofSystem .channelWrite)).Emits b
      (Act.Accounts (l.Shown length)) :=
  Act.Accounts.relabel (l.channel.write_raw data b) (shown_ofSystem fun _ => rfl)

theorem pause_accounts {ms : Int}
    (hms : l.Timed T length → (TimeScale.ofMillis? ms : Option T).isSome = true) (b : Bench T) :
    (l.pacing.pause ms).Emits b (Act.Accounts (l.Shown length)) := by
  have hwait {c : Call T} (hc : c.isPause = true) {effect : Bench T → Bench T}
      (hstill : ∀ b : Bench T, b.Grew (effect (b.counted c)) []) :
      (Bench.signal c effect).Emits b (Act.Accounts (l.Shown length)) := by
    apply (Act.perform_emits (hstill b)).mono
    intro es r hmade
    refine .made (by simp) (fun e g hcall hfailed => ?_) hmade
    refine .inr (.inl ⟨e, List.mem_singleton.mpr rfl, hfailed, fun hlink => ?_⟩)
    rw [← hcall, hlink.1] at hc
    cases hc
  have hbeyond (h : (TimeScale.ofMillis? ms : Option T).isSome = false) :
      l.Shown length ([] : List (Entry T)) (.arithmetic .quotientTooLarge) := by
    refine .inr (.inr ⟨fun htimed => ?_, _, rfl⟩)
    rw [hms htimed] at h
    cases h
  cases l.pacing with
  | delay =>
    rw [Pacing.pause]
    refine Act.Accounts.bind Shown.append (hwait rfl fun b => ?_) fun _ b' => ?_
    · cases (TimeScale.ofMillis? ms : Option T) with
      | none => exact .still rfl rfl rfl
      | some t => exact .still rfl rfl rfl
    · rw [Act.require]
      split
      next => exact .pure (.ok _)
      next h => exact .raise (.error (hbeyond (Bool.eq_false_iff.mpr h)))
  | sleep =>
    rw [Pacing.pause]
    cases ht : (TimeScale.ofMillis? ms : Option T) with
    | none =>
      rw [ht] at hbeyond
      exact .raise (.error (hbeyond rfl))
    | some t => exact hwait rfl fun b => .still rfl rfl rfl

theorem wire_accounts (data : Bytes) (b : Bench T) :
    (l.wire data).Emits b (Act.Accounts (l.Shown data.length)) := by
  refine Act.Accounts.bind Shown.append (pause_accounts (fun htimed => htimed.settle) b)
    fun _ b₁ => ?_
  refine Act.Accounts.bind Shown.append (write_accounts data b₁) fun accepted b₂ => ?_
  refine Act.Accounts.bind Shown.append ?_ fun _ b₃ => .behind_note fun b₄ _ => ?_
  · rw [Act.require]
    split
    · exact .pure (.ok _)
    · exact .raise (.error (.inl rfl))
  · cases hhold : l.holdTime data.length with
    | error f =>
      refine .stop rfl (.error (.inr (.inr ⟨fun htimed => ?_, arithmetic_of_holdTime hhold⟩)))
      obtain ⟨ms, hms, -⟩ := htimed.hold
      rw [hhold] at hms
      cases hms
    | ok ms =>
      apply Act.Emits.step rfl
      refine pause_accounts (fun htimed => ?_) b₄
      obtain ⟨ms', hms, hsome⟩ := htimed.hold
      rw [hhold] at hms
      obtain rfl := Except.ok.inj hms
      exact hsome

theorem transmission_accounts (data : Bytes) (b : Bench T) :
    (l.transmission data).Emits b (Act.Accounts (l.Shown data.length)) := by
  rw [transmission_eq]
  exact Act.Accounts.bind Shown.append (switch_accounts l.direction true b)
    fun _ b' => wire_accounts data b'

/-- Behind a failed transmission the line falls back to receiving, and a fault of the link that is
met there is only noted. -/
theorem recover_accounts (f : Fault) (b : Bench T) :
    (do
      l.recover
      Act.raise f : Act (Bench T) Unit).Emits b fun es r =>
        ∃ g, r = .error g ∧ (g = f ∨ l.Shown length es g) := by
  have hrecover : l.recover.Emits b fun es r =>
      ∀ g, r = .error g → l.Shown (T := T) length es g := by
    apply (switch_accounts l.direction false b).orElse (Q := fun f es r =>
      es = [] ∧ ∀ g, r = .error g → g = f)
    · intro e b' _ _
      split
      · exact .note ⟨rfl, by simp⟩
      · exact .raise ⟨rfl, by simp⟩
    · intro es u h
      simp
    · intro es e fs r h hhandled
      obtain ⟨rfl, hagain⟩ := hhandled
      intro g hg
      rw [List.append_nil, hagain g hg]
      exact h.shown e rfl
  apply hrecover.bind (Q := fun _ es r => es = [] ∧ r = .error f)
  · intro u b' _ _
    exact .raise ⟨rfl, rfl⟩
  · intro es e h
    exact ⟨e, rfl, .inr (h e rfl)⟩
  · intro es u fs r h hraised
    obtain ⟨rfl, rfl⟩ := hraised
    exact ⟨f, rfl, .inl rfl⟩

/-- Whatever call of a sending failed, the sending ends in a fault, and every fault of a sending on
a line that is held is accounted for. -/
theorem send_accounts {b : Bench T} (hheld : l.isReleased b = false) (data : Bytes) :
    (l.send data).Emits b (Act.Accounts (l.Shown data.length)) := by
  apply Act.Emits.step (requireHeld_of_held hheld)
  apply (transmission_accounts data b).attempt.bind (Q := fun outcome es r =>
    match outcome with
    | .error f => ∃ g, r = .error g ∧ (g = f ∨ l.Shown data.length es g)
    | .ok _ => Act.Accounts (l.Shown data.length) es r)
  · intro outcome b' _ _
    cases outcome with
    | error f => exact recover_accounts f b'
    | ok u =>
      exact Act.Accounts.bind Shown.append (switch_accounts l.direction false b')
        fun _ b₂ => pause_accounts (fun htimed => htimed.turnaround) b₂
  · intro es e h
    obtain ⟨outcome, houtcome, -⟩ := h
    cases houtcome
  · intro es outcome fs r h h'
    obtain ⟨_, houtcome, haccounts⟩ := h
    obtain rfl := Except.ok.inj houtcome
    cases outcome with
    | error f =>
      obtain ⟨g, rfl, hg⟩ := h'
      refine ⟨fun e _ _ => ⟨g, rfl, trivial⟩, ?_⟩
      rintro g ⟨⟩
      rcases hg with rfl | hshown
      · exact (haccounts.shown g rfl).append_right fs
      · exact .append es fs g hshown
    | ok u =>
      exact ⟨haccounts.raised.append h'.raised, fun g hg => .append es fs g (h'.shown g hg)⟩

theorem send_unplugged {c : SerialChannel} {b : Bench T} (hheld : l.isReleased b = false)
    (hchannel : l.channel = .serial c) (hport : c.connected b = false) (data : Bytes) :
    ∃ g, (l.send data b).1 = .error g := by
  have hstays {α : Type} {x : Act (Bench T) α} {P : List (Entry T) → Except Fault α → Prop}
      {a : α} {b b' : Bench T} (hx : x.Emits b P) (hrun : x b = (.ok a, b'))
      (hport : c.connected b = false) : c.connected b' = false := by
    obtain ⟨es, hgrew, -⟩ := hx
    rw [hrun] at hgrew
    exact (hgrew.live (.rts 0 c true)).trans hport
  have htransmission : ∃ f, (l.transmission data b).1 = .error f := by
    have hswitch : (switch (l.direction.drive true)).Emits b (Act.Accounts (l.Shown 0)) :=
      switch_accounts l.direction true b
    refine Act.error_of_bind fun _ b₁ hsignal => ?_
    have hport₁ := hstays hswitch hsignal hport
    refine Act.error_of_bind fun _ b₂ hsettle => ?_
    have hport₂ := hstays (l.pacing.pause_emits settle b₁) hsettle hport₁
    refine Act.error_of_bind fun accepted b₃ hwrite => ?_
    have hrefused : l.channel.write data b₂ = (.error (.portNotOpen c.name), b₂) := by
      rw [hchannel, Channel.write, Act.map_apply, SerialChannel.write,
        Act.bind_error (SerialChannel.usePort_closed (Option.not_isSome_iff_eq_none.mp ?_))]
      · rfl
      · exact ne_true_of_eq_false hport₂
    rw [Act.relabel, Act.orElse_error hrefused] at hwrite
    cases hwrite
  refine Act.error_of_bind fun _ b₁ hb => ?_
  obtain ⟨-, rfl⟩ := Prod.mk.inj ((requireHeld_of_held hheld).symm.trans hb)
  refine Act.error_of_bind fun outcome b₂ hattempt => ?_
  obtain ⟨f, hf⟩ := htransmission
  obtain rfl : outcome = .error f := by
    rw [← hf]
    exact (Except.ok.inj (congrArg Prod.fst hattempt)).symm
  exact Act.error_of_bind fun _ b₃ _ => ⟨f, rfl⟩

end Line

namespace Drive

variable {α : Type} [TimeScale T]

theorem send_accounts {d : Drive T} {b : Bench T} (hheld : d.line.isReleased b = false)
    {frame : Command} {data : Bytes} (hdata : frame.toBytes = .ok data) :
    (d.send frame).Emits b (Act.Accounts (d.line.Shown data.length)) := by
  have hbytes : (Act.ofExcept (frame.toBytes.mapError Fault.rejected) : Act (Bench T) Bytes) b =
      (.ok data, b) := by
    rw [hdata]
    rfl
  apply Act.Emits.step hbytes
  apply (Line.send_accounts hheld data).orElse (Q := fun f es r => es = [] ∧ r = .error f)
  · intro f b' _ _
    rw [Act.onlyIf]
    split
    · exact .behind_note fun _ _ => .raise ⟨rfl, rfl⟩
    · exact .step rfl (.raise ⟨rfl, rfl⟩)
  · intro es u h
    exact h
  · intro es f fs r h hraised
    obtain ⟨rfl, rfl⟩ := hraised
    rw [List.append_nil]
    exact h

theorem send_unplugged {d : Drive T} {c : SerialChannel} {b : Bench T}
    (hheld : d.line.isReleased b = false) (hchannel : d.line.channel = .serial c)
    (hport : c.connected b = false) (frame : Command) : ∃ g, (d.send frame b).1 = .error g := by
  refine Act.error_of_bind fun data b₁ hdata => ?_
  obtain rfl : b = b₁ := congrArg Prod.snd hdata
  obtain ⟨f, hf⟩ := Line.send_unplugged hheld hchannel hport data
  rw [Act.orElse_error (Prod.ext hf rfl)]
  exact Act.error_of_bind fun _ b₂ _ => ⟨f, rfl⟩

/-- What the calls of a command say of how it ends: in a fault if one of them failed. On a line that
is held they account for every fault, unless the command itself is refused. -/
structure Reports (d : Drive T) (b : Bench T) (es : List (Entry T)) (r : Except Fault α) :
    Prop where
  blames : Act.Blames (fun _ => d.line.Shown FrameKind.command.size es) es r
  shown : d.line.isReleased b = false → ∀ g, r = .error g →
    d.line.Shown FrameKind.command.size es g ∨ g.isA .value = true

theorem Reports.refused {d : Drive T} {b : Bench T} {g : Fault} (h : g.isA .value = true) :
    d.Reports b [] (.error g : Except Fault α) where
  blames := .nil _
  shown := by
    rintro - g ⟨⟩
    exact .inr h

theorem send_of_released {d : Drive T} {b : Bench T} (h : d.line.isReleased b = true)
    {frame : Command} {data : Bytes} (hdata : frame.toBytes = .ok data) :
    d.send frame b = (.error .lineReleased, b) := by
  have hline : d.line.send data b = (.error .lineReleased, b) :=
    Act.bind_error (Line.requireHeld_of_released h)
  rw [send, hdata]
  exact Act.orElse_error hline

theorem command_reports (d : Drive T) (x : Except Fault Command)
    (hx : ∀ f, x = .error f → f.isA .value = true) {finish : Command → Act (Bench T) α}
    (hfinish : ∀ frame b, (finish frame).Emits b fun es r => es = [] ∧ ∃ a, r = .ok a)
    (b : Bench T) :
    (do
      let frame ← Act.ofExcept x
      d.send frame
      finish frame).Emits b (d.Reports b) := by
  cases hframe : x with
  | error f => exact .stop rfl (.refused (hx f hframe))
  | ok frame =>
    apply Act.Emits.step rfl
    cases hdata : frame.toBytes with
    | error e =>
      have hsend : d.send frame b = (.error (.rejected e), b) := by
        rw [send, hdata]
        rfl
      exact .stop hsend (.refused rfl)
    | ok data =>
      cases hreleased : d.line.isReleased b with
      | true =>
        refine .stop (send_of_released hreleased hdata) ⟨.nil _, fun hheld => ?_⟩
        rw [hreleased] at hheld
        cases hheld
      | false =>
        have hlen : data.length = FrameKind.command.size := by
          obtain ⟨c, x, a, -, -, -, rfl⟩ := Command.toBytes_eq_ok_iff.mp hdata
          rfl
        have hsent := send_accounts hreleased hdata
        rw [hlen] at hsent
        apply hsent.bind fun _ b' _ _ => hfinish frame b'
        · intro es f h
          refine ⟨h.blames.error, fun _ g hg => .inl ?_⟩
          obtain rfl := Except.error.inj hg
          exact h.shown f rfl
        · intro es u fs r h hquiet
          obtain ⟨rfl, a, rfl⟩ := hquiet
          refine ⟨?_, by simp⟩
          rw [List.append_nil]
          simpa using h.blames.append (.nil (.ok a : Except Fault α))

theorem command_unplugged {d : Drive T} {c : SerialChannel} {b : Bench T}
    (hheld : d.line.isReleased b = false) (hchannel : d.line.channel = .serial c)
    (hport : c.connected b = false) (x : Except Fault Command)
    (finish : Command → Act (Bench T) α) :
    ∃ g, ((do
      let frame ← Act.ofExcept x
      d.send frame
      finish frame) b).1 = .error g := by
  refine Act.error_of_bind fun frame b₁ hframe => ?_
  obtain rfl : b = b₁ := congrArg Prod.snd hframe
  obtain ⟨f, hf⟩ := send_unplugged hheld hchannel hport frame
  exact ⟨f, congrArg Prod.fst (Act.bind_error (Prod.ext hf rfl))⟩

theorem start_reports (d : Drive T) (b : Bench T) : d.start.Emits b (d.Reports b) := by
  refine d.command_reports (Command.start d.rotation) (fun _ => Command.value_of_frame)
    (fun _ _ => ?_) b
  exact .behind_note fun _ _ => .pure ⟨rfl, _, rfl⟩

theorem stop_reports (d : Drive T) (b : Bench T) : d.stop.Emits b (d.Reports b) := by
  refine d.command_reports Command.stop (fun _ => Command.value_of_frame) (fun _ _ => ?_) b
  exact .behind_note fun _ _ => .pure ⟨rfl, _, rfl⟩

theorem changeSpeed_reports (d : Drive T) (rpm : Int) (b : Bench T) :
    (d.changeSpeed rpm).Emits b (d.Reports b) := by
  refine d.command_reports (Command.speed rpm (speedKeys d.isOn))
    (fun _ => Command.value_of_speed) (fun _ _ => ?_) b
  exact .note ⟨rfl, _, rfl⟩

end Drive
end SpindleLink
