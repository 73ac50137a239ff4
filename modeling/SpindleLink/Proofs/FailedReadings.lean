import SpindleLink.Proofs.DriveTraffic
import SpindleLink.Proofs.Resynchronisation

/-! Failures in reading. A call that fails ends a reading, in a fault that tells of it. A fault of
the operating system gets through as it is, unless it is one of the serial device on a serial
channel: only this one becomes a fault of the link. -/

namespace SpindleLink

variable {T : Type}

/-- The faults of a call that a channel reports as faults of the link. -/
def Channel.Absorbs (f : Fault) : Channel → Prop
  | scripted _ => f.isA .inverter = true
  | serial _ => f.isA .inverter = true ∨ f.isA .serial = true

/-- Whether a call failed by a fault of the operating system. -/
def Entry.FailsBy (e : Entry T) (f : Fault) : Prop := e.reply = .failed f ∧ f.isA .system = true

/-- What a reading makes of a call that failed by a fault of the operating system: another such
fault, which is one of the link just when the channel absorbs the first. -/
def Channel.Heard (channel : Channel) (e : Entry T) (g : Fault) : Prop :=
  ∀ f, e.FailsBy f → g.isA .system = true ∧ (g.isA .inverter = true ↔ channel.Absorbs f)

namespace Act

variable {α β : Type}

/-- Every call that failed is to blame for the fault that an action ends in. -/
def Blames (blame : Entry T → Fault → Prop) (es : List (Entry T)) (r : Except Fault α) : Prop :=
  ∀ e ∈ es, e.failed = true → ∃ g, r = .error g ∧ blame e g

def Blaming (blame : Entry T → Fault → Prop) (x : Act (Bench T) α) : Prop :=
  ∀ b, x.Emits b (Blames blame)

variable {blame blame' : Entry T → Fault → Prop}

theorem Blames.nil (r : Except Fault α) : Blames blame [] r := by
  intro e he
  cases he

theorem Blames.append {es fs : List (Entry T)} {a : α} {r : Except Fault β}
    (h : Blames blame es (.ok a : Except Fault α)) (h' : Blames blame fs r) :
    Blames blame (es ++ fs) r := by
  intro e he hfailed
  rcases List.mem_append.mp he with he | he
  · obtain ⟨g, hg, -⟩ := h e he hfailed
    cases hg
  · exact h' e he hfailed

theorem Blames.mono {es : List (Entry T)} {r : Except Fault α} (h : Blames blame es r)
    (hblame : ∀ e g, blame e g → blame' e g) : Blames blame' es r := by
  intro e he hfailed
  obtain ⟨g, hg, hto⟩ := h e he hfailed
  exact ⟨g, hg, hblame e g hto⟩

theorem Blames.error {es : List (Entry T)} {f : Fault}
    (h : Blames blame es (.error f : Except Fault α)) :
    Blames blame es (.error f : Except Fault β) := by
  intro e he hfailed
  obtain ⟨g, hg, hblame⟩ := h e he hfailed
  obtain rfl := Except.error.inj hg
  exact ⟨f, rfl, hblame⟩

theorem Made.blames {c : Call T} {reply : α → Reply} (hreply : ∀ a f, reply a ≠ .failed f)
    {es : List (Entry T)} {r : Except Fault α} (h : Made c reply es r) :
    Blames (fun e g => e.reply = .failed g) es r := by
  obtain ⟨e, rfl, -, houtcome⟩ := h
  intro e' he' hfailed
  obtain rfl := List.mem_singleton.mp he'
  cases r with
  | error f => exact ⟨f, rfl, houtcome⟩
  | ok a =>
    have hgood : e'.reply = reply a := houtcome
    rw [Entry.failed, hgood] at hfailed
    cases hanswer : reply a with
    | failed f => exact absurd hanswer (hreply a f)
    | done | accepted | truth | waiting | byte =>
      rw [hanswer] at hfailed
      cases hfailed

namespace Blaming

variable {x : Act (Bench T) α}

theorem mono (h : Blaming blame x) (hblame : ∀ e g, blame e g → blame' e g) : Blaming blame' x :=
  fun b => (h b).mono fun _ _ h => h.mono hblame

theorem quiet (h : Makes (fun _ => False) x) : Blaming blame x := by
  intro b
  apply (h b).mono
  intro es r hnone e he
  exact (hnone e he).elim

theorem pure (a : α) : Blaming blame (Pure.pure a : Act (Bench T) α) := quiet (.pure a)

theorem raise (f : Fault) : Blaming blame (Act.raise f : Act (Bench T) α) := quiet (.raise f)

theorem ite {c : Prop} [Decidable c] {x y : Act (Bench T) α} (hx : Blaming blame x)
    (hy : Blaming blame y) : Blaming blame (if c then x else y) := by
  split
  · exact hx
  · exact hy

theorem behind {f : α → Act (Bench T) β} {b : Bench T} (hx : x.Emits b (Blames blame))
    (hf : ∀ a, Blaming blame (f a)) : (x >>= f).Emits b (Blames blame) := by
  apply hx.bind fun a b' _ _ => hf a b'
  · intro es e h
    exact h.error
  · intro es a fs r h h'
    exact h.append h'

theorem bind {f : α → Act (Bench T) β} (hx : Blaming blame x) (hf : ∀ a, Blaming blame (f a)) :
    Blaming blame (x >>= f) :=
  fun b => behind (hx b) hf

theorem map {f : α → β} (hx : Blaming blame x) : Blaming blame (f <$> x) := by
  rw [map_eq_pure_bind]
  exact hx.bind fun a => pure (f a)

theorem perform {c : Call T} {reply : α → Reply} {work : Bench T → α × Bench T}
    (hreply : ∀ a f, reply a ≠ .failed f)
    (hwork : ∀ b : Bench T, b.Grew (work (b.counted c)).2 []) :
    Blaming (fun e g => e.reply = .failed g) (Bench.perform c reply work) :=
  fun b => (perform_emits (hwork b)).mono fun _ _ h => h.blames hreply

theorem orElse {handle : Fault → Act (Bench T) α} {b : Bench T} (hx : x.Emits b (Blames blame))
    (hhandle : ∀ f, Blaming blame' (handle f)) (hagain : ∀ e f, blame e f → ∀ b, ∃ g,
      (handle f b).1 = .error g ∧ blame' e g) : (x.orElse handle).Emits b (Blames blame') := by
  obtain ⟨es, hgrew, hblames⟩ := hx
  rcases hrun : x b with ⟨f | a, b₁⟩
  · rw [hrun] at hgrew hblames
    obtain ⟨fs, hgrew', hblames'⟩ := hhandle f b₁
    refine ⟨es ++ fs, ?_, ?_⟩
    · rw [Act.orElse_error hrun]
      exact hgrew.trans hgrew'
    · rw [Act.orElse_error hrun]
      intro e he hfailed
      rcases List.mem_append.mp he with he | he
      · obtain ⟨f', hf, hblame⟩ := hblames e he hfailed
        obtain rfl := Except.error.inj hf
        exact hagain e f hblame b₁
      · exact hblames' e he hfailed
  · rw [hrun] at hgrew hblames
    refine ⟨es, ?_, ?_⟩
    · rw [Act.orElse_ok hrun]
      exact hgrew
    · rw [Act.orElse_ok hrun]
      intro e he hfailed
      obtain ⟨g, hg, -⟩ := hblames e he hfailed
      cases hg

theorem relabel {h : Fault → Fault} {b : Bench T} (hx : x.Emits b (Blames blame))
    (hh : ∀ e f, blame e f → blame' e (h f)) : (x.relabel h).Emits b (Blames blame') :=
  orElse hx (fun f => raise (h f)) fun e f hblame _ => ⟨h f, rfl, hh e f hblame⟩

end Blaming
end Act

namespace Channel

theorem heard_scripted {id : Nat} {e : Entry T} {g : Fault} (h : e.reply = .failed g) :
    (scripted id).Heard e g := by
  rintro f ⟨hf, hsystem⟩
  obtain rfl : g = f := Reply.failed.inj (h.symm.trans hf)
  exact ⟨hsystem, Iff.rfl⟩

theorem heard_ofDevice {c : SerialChannel} {wrap : Fault → Fault}
    (hwrap : ∀ f, (wrap f).kind = .transport) {e : Entry T} {g : Fault} (h : e.reply = .failed g) :
    (serial c).Heard e (SerialChannel.ofDevice wrap g) := by
  rintro f ⟨hf, hsystem⟩
  obtain rfl : g = f := Reply.failed.inj (h.symm.trans hf)
  rw [SerialChannel.ofDevice, Absorbs]
  cases hserial : g.isA .serial with
  | true => simp [Fault.isA, hwrap, Kind.isA, Kind.families]
  | false => simp [hsystem]

theorem hasWaiting_blaming (channel : Channel) :
    Act.Blaming (T := T) channel.Heard channel.hasWaiting := by
  cases channel with
  | scripted id =>
    exact (Act.Blaming.perform (by simp) fun b => .still rfl rfl rfl).mono fun _ _ => heard_scripted
  | serial c =>
    intro b
    apply SerialChannel.usePort_emits fun _ => .nil _
    intro port _
    have hpoll : Act.Blaming (T := T) (serial c).Heard (Act.relabel
        (Bench.perform .portWaiting Reply.waiting fun b => (b.device.stale.length, b))
        (SerialChannel.ofDevice (.portPoll c.name))) :=
      fun b => Act.Blaming.relabel (Act.Blaming.perform (by simp) (fun b => .still rfl rfl rfl) b)
        fun _ _ => heard_ofDevice fun _ => rfl
    exact hpoll.bind (fun _ => .pure _) b

variable [TimeScale T]

theorem next_blaming (channel : Channel) (wait : Option T) :
    Act.Blaming channel.Heard (channel.next wait) := by
  cases channel with
  | scripted id =>
    have hread : Act.Blaming (fun e g => e.reply = .failed g)
        ((scripted id).next wait : Act (Bench T) (Option UInt8)) := by
      apply Act.Blaming.perform (by simp)
      intro b
      split
      · exact .still rfl rfl rfl
      · exact .still rfl rfl rfl
    exact hread.mono fun _ _ => heard_scripted
  | serial c =>
    intro b
    apply SerialChannel.usePort_emits fun _ => .nil _
    intro port hport
    obtain ⟨limit, hlimit⟩ : ∃ limit, ((wait.map Wait.time).elim (pure none) fun w =>
        some <$> w.resolve : Act (Bench T) (Option T)) b = (.ok limit, b) := by
      cases wait with
      | none => exact ⟨none, rfl⟩
      | some t => exact ⟨some t, rfl⟩
    apply Act.Emits.step hlimit
    have htold : (Act.onlyIf (Wait.sameLimit port.timeout (wait.map Wait.time) = false)
        (Bench.signal (.portTimeout limit)
          (c.setPort (some { port with timeout := wait.map Wait.time })))).Emits b
        (Act.Blames fun e g => e.reply = .failed g) := by
      rw [Act.onlyIf]
      split
      · exact (Act.perform_emits (.setPort hport _ _)).mono fun _ _ h => h.blames (by simp)
      · exact .pure (.nil _)
    refine Act.Blaming.relabel (Act.Blaming.behind htold fun _ => ?_) fun _ _ =>
      heard_ofDevice fun _ => rfl
    exact .perform (by simp) fun b => .still rfl rfl rfl

end Channel

theorem Fault.not_cutFrame {f : Fault} (h : f.isA .system = true) : f.isA .cutFrame = false := by
  unfold Fault.isA at h ⊢
  cases hkind : f.kind <;> rw [hkind] at h <;> first | rfl | cases h

theorem Fault.inverter_of_late {f : Fault} (h : f.isA .late = true) : f.isA .inverter = true := by
  unfold Fault.isA at h ⊢
  cases hkind : f.kind <;> rw [hkind] at h <;> first | rfl | cases h

namespace Line

theorem requireHeld_blaming (l : Line) (blame : Entry T → Fault → Prop) :
    Act.Blaming blame (l.requireHeld : Act (Bench T) Unit) :=
  .quiet (l.requireHeld_makes _)

variable [TimeScale T]

theorem dropWaiting_blaming (l : Line) (fuel dropped : Nat) :
    Act.Blaming (T := T) l.channel.Heard (l.dropWaiting fuel dropped) := by
  induction fuel generalizing dropped with
  | zero => exact .pure _
  | succ fuel ih =>
    refine .bind l.channel.hasWaiting_blaming fun waiting => .ite ?_ (.pure _)
    refine .bind (l.channel.next_blaming (some 0)) fun byte => ?_
    cases byte with
    | none => exact .pure _
    | some b => exact ih (dropped + 1)

theorem discardWaiting_blaming (l : Line) :
    Act.Blaming (T := T) l.channel.Heard l.discardWaiting := by
  refine .bind (l.requireHeld_blaming _) fun _ => .bind (.quiet (.observe _)) fun waiting => ?_
  refine .bind (l.dropWaiting_blaming _ _) fun dropped => ?_
  exact .bind (.quiet (.onlyIf (.note _))) fun _ => .pure _

theorem collect_blaming (l : Line) (deadline : Option T) (missing : Nat) (got : Bytes) :
    Act.Blaming l.channel.Heard (l.collect deadline missing got) := by
  induction missing generalizing got with
  | zero => exact .pure _
  | succ missing ih =>
    have hnext (wait : Option T) {f : Option UInt8 → Act (Bench T) Bytes}
        (hnone : f none = pure got)
        (hsome : ∀ b, f (some b) = l.collect deadline missing (got ++ [b])) :
        Act.Blaming l.channel.Heard (l.channel.next wait >>= f) := by
      refine .bind (l.channel.next_blaming wait) fun byte => ?_
      cases byte with
      | none =>
        rw [hnone]
        exact .pure _
      | some b =>
        rw [hsome]
        exact ih _
    cases deadline with
    | none => exact hnext none rfl fun _ => rfl
    | some d => exact .bind (.quiet .readClock) fun now => .ite (.pure _) (hnext _ rfl fun _ => rfl)

theorem receive_blaming (l : Line) (n : Int) (wait : Option (Wait T)) (flush : Bool) :
    Act.Blaming l.channel.Heard (l.receive n wait flush) := by
  have hcollect (deadline : Option T) : Act.Blaming l.channel.Heard (do
      let got ← l.collect deadline n.toNat []
      if (got.length : Int) < n then .raise (.truncated got n)
      else
        Bench.note (.received got)
        pure got) :=
    .bind (l.collect_blaming deadline _ _) fun got =>
      .ite (.raise _) (.bind (.quiet (.note _)) fun _ => .pure _)
  refine .bind (l.requireHeld_blaming _) fun _ => .bind (.ite ?_ (.pure _)) fun _ => ?_
  · exact .bind l.discardWaiting_blaming fun _ => .pure _
  · cases wait with
    | none => exact .bind (.pure none) hcollect
    | some w =>
      refine Act.Blaming.bind (x := Bench.readClock) (.quiet .readClock) fun now => ?_
      exact .bind (x := w.resolve) (.quiet (.ofExcept _)) fun t => .bind (.pure _) hcollect

end Line

namespace Drive

variable [TimeScale T]

/-- Cut input becomes a late frame; a fault of the operating system is no cut input. -/
theorem awaitBytes_blaming (d : Drive T) (wait : Wait T) (count : Nat) (flush : Bool) :
    Act.Blaming d.line.channel.Heard (d.awaitBytes wait count flush) := by
  intro b
  have hlate (f : Fault) : Act.Blaming d.line.channel.Heard (do
      let shown := TimeScale.thousandths (← wait.resolve)
      Bench.note (.statusMissing shown f.received.length)
      .raise (.late (.within shown) f.received) : Act (Bench T) Bytes) :=
    .bind (x := wait.resolve) (.quiet (.ofExcept _)) fun t =>
      .bind (.quiet (.note _)) fun _ => .raise _
  refine Act.Blaming.orElse (d.line.receive_blaming count (some wait) flush b)
    (fun f => Act.Blaming.ite (hlate f) (.raise f)) fun e f hheard b => ?_
  split
  next hcut =>
    obtain ⟨g, hg⟩ : ∃ g, ((do
        let shown := TimeScale.thousandths (← wait.resolve)
        Bench.note (.statusMissing shown f.received.length)
        .raise (.late (.within shown) f.received) : Act (Bench T) Bytes) b).1 = .error g := by
      rcases hwait : (wait.resolve : Act (Bench T) T) b with ⟨a | t, b'⟩
      · exact ⟨a, congrArg Prod.fst (Act.bind_error hwait)⟩
      · exact ⟨_, congrArg Prod.fst (Act.bind_ok hwait)⟩
    refine ⟨g, hg, fun f' hf' => ?_⟩
    rw [Fault.not_cutFrame (hheard f' hf').1] at hcut
    cases hcut
  next => exact ⟨f, rfl, hheard⟩

theorem resynchronise_blaming (d : Drive T) (deadline : T) (rounds : Nat) (buffer : Bytes) :
    Act.Blaming d.line.channel.Heard (d.resynchronise deadline rounds buffer) := by
  induction rounds generalizing buffer with
  | zero => exact .raise _
  | succ rounds ih =>
    unfold resynchronise
    split
    · exact .pure _
    · refine .bind (.quiet (.note _)) fun _ => .bind (x := Bench.readClock) (.quiet .readClock)
        fun now => .ite (.raise _) ?_
      refine .bind (fun b => Act.Blaming.relabel (d.awaitBytes_blaming _ _ _ b) ?_) fun more => ih _
      intro e f hheard
      split
      next hlate =>
        intro f' hf'
        have hlink : f.isA .inverter = true := Fault.inverter_of_late hlate
        exact ⟨rfl, (iff_of_true rfl hlink).trans (hheard f' hf').2⟩
      next => exact hheard

theorem readSpeed_blaming (d : Drive T) (wait : Option (Wait T)) :
    Act.Blaming d.line.channel.Heard (d.readSpeed wait) :=
  .bind (d.awaitBytes_blaming _ _ _) fun data => .map (.quiet (decode_makes _ data))

theorem readReport_blaming (d : Drive T) (wait : Option (Wait T)) (resync : Bool) :
    Act.Blaming d.line.channel.Heard (d.readReport wait resync) := by
  rw [readReport]
  refine .bind (x := Bench.readClock) (.quiet .readClock) fun now =>
    .bind (x := (wait.getD d.readTimeout).resolve) (.quiet (.ofExcept _)) fun t =>
      .bind (d.awaitBytes_blaming _ _ _) fun data => ?_
  cases resync with
  | false => exact .map (.quiet (decode_makes _ data))
  | true => exact .bind (.quiet (.observe _)) fun unread => .map (d.resynchronise_blaming _ _ _)

theorem awaitBytes_unplugged {d : Drive T} {c : SerialChannel} {b : Bench T}
    (hheld : d.line.isReleased b = false) (hchannel : d.line.channel = .serial c)
    (hport : c.port? b = none) (wait : Wait T) (count : Nat) :
    d.awaitBytes wait count true b = (.error (.portNotOpen c.name), b) := by
  have hpoll : d.line.channel.hasWaiting b = (.error (.portNotOpen c.name), b) := by
    rw [hchannel]
    exact Act.bind_error (SerialChannel.usePort_closed hport)
  have hdiscard : (d.line.discardWaiting : Act (Bench T) Nat) b =
      (.error (.portNotOpen c.name), b) := by
    rw [Line.discardWaiting, Act.bind_ok (Line.requireHeld_of_held hheld),
      Act.bind_ok (Act.observe_apply _ b)]
    exact Act.bind_error (Act.bind_error hpoll)
  have hreceive : d.line.receive count (some wait) true b = (.error (.portNotOpen c.name), b) := by
    rw [Line.receive, Act.bind_ok (Line.requireHeld_of_held hheld)]
    exact Act.bind_error (Act.bind_error hdiscard)
  exact Act.orElse_error hreceive

theorem readSpeed_unplugged {d : Drive T} {c : SerialChannel} {b : Bench T}
    (hheld : d.line.isReleased b = false) (hchannel : d.line.channel = .serial c)
    (hport : c.port? b = none) (wait : Option (Wait T)) :
    d.readSpeed wait b = (.error (.portNotOpen c.name), b) :=
  Act.bind_error (awaitBytes_unplugged hheld hchannel hport _ _)

theorem readReport_unplugged {d : Drive T} {c : SerialChannel} {b : Bench T}
    (hheld : d.line.isReleased b = false) (hchannel : d.line.channel = .serial c)
    (hport : c.port? b = none) (wait : Option (Wait T)) (resync : Bool) :
    (d.readReport wait resync b).1 = .error (.portNotOpen c.name) ∨
      ∃ a, (d.readReport wait resync b).1 = .error (.arithmetic a) := by
  obtain ⟨now, b₁, hclock, hheld₁, hport₁⟩ : ∃ now b₁, Bench.readClock b = (.ok now, b₁) ∧
      d.line.isReleased b₁ = false ∧ c.port? b₁ = none :=
    ⟨_, _, rfl, hheld, hport⟩
  cases hwait : (wait.getD d.readTimeout).toTime with
  | error a =>
    have hresolve : ((wait.getD d.readTimeout).resolve : Act (Bench T) T) b₁ =
        (.error (.arithmetic a), b₁) := by
      rw [Wait.resolve, hwait]
      rfl
    refine .inr ⟨a, ?_⟩
    rw [readReport, Act.bind_ok hclock, Act.bind_error hresolve]
  | ok t =>
    refine .inl ?_
    rw [readReport_start hclock hwait,
      Act.bind_error (awaitBytes_unplugged hheld₁ hchannel hport₁ _ _)]

end Drive
end SpindleLink
