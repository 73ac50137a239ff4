import SpindleLink.Proofs.PortCalls
import SpindleLink.Proofs.Reception

/-! Receiving in time. Where no call fails and every byte comes before its deadline, reading is
determined, on a scripted channel as on a serial port: the bytes that stand next are given, and what
is left of the source and of the clock is known. -/

namespace SpindleLink

variable {T : Type}

/-- The clock of a bench: the instant, and how far each reading moves it on. -/
structure Clock (T : Type) where
  now : T
  readings : Nat
  step : Nat → T

def Bench.clock (b : Bench T) : Clock T := ⟨b.now, b.readings, b.clockStep⟩

namespace Clock

variable [TimeScale T]

def tick (c : Clock T) : Clock T :=
  { c with now := c.now + c.step c.readings, readings := c.readings + 1 }

def elapse (t : T) (c : Clock T) : Clock T := { c with now := c.now + t }

/-- Whether `n` bytes come before a deadline. The clock is read before each of them, and the byte
comes one gap later. -/
def InTime (gap deadline : T) : Nat → Clock T → Prop
  | 0, _ => True
  | n + 1, c => ¬ deadline - c.tick.now ≤ 0 ∧ gap ≤ deadline - c.tick.now ∧
      InTime gap deadline n (c.tick.elapse gap)

def behind (gap : T) : Nat → Clock T → Clock T
  | 0, c => c
  | n + 1, c => behind gap n (c.tick.elapse gap)

/-- Whether `n` bytes come within a wait, which counts from the next reading of the clock. -/
def Within (gap wait : T) (n : Nat) (c : Clock T) : Prop :=
  InTime gap (c.tick.now + wait) n c.tick

/-- The clock behind `n` bytes that were waited for together. -/
def received (gap : T) (n : Nat) (c : Clock T) : Clock T := behind gap n c.tick

instance decidableInTime (gap deadline : T) (n : Nat) (c : Clock T) :
    Decidable (InTime gap deadline n c) :=
  match n with
  | 0 => inferInstanceAs (Decidable True)
  | n + 1 =>
    have := decidableInTime gap deadline n (c.tick.elapse gap)
    inferInstanceAs (Decidable (_ ∧ _ ∧ _))

instance decidableWithin (gap wait : T) (n : Nat) (c : Clock T) : Decidable (Within gap wait n c) :=
  decidableInTime gap _ n c.tick

end Clock

namespace Channel

def inputPoints : Channel → List Point
  | scripted id => [.hasWaiting id, .read id]
  | serial _ => [.portWaiting, .portTimeout, .portRead]

/-- Whether a channel can give bytes: a serial one needs its port, a scripted one must not be a
phantom. -/
def gives (b : Bench T) : Channel → Bool
  | scripted id => !(b.scripts.get id).phantom
  | serial c => c.connected b

end Channel

/-- A line that is held over a channel that answers without faults, with what there is to read and
the clock. -/
structure Line.Listens (l : Line) (source : ByteSource T) (clock : Clock T) (b : Bench T) :
    Prop where
  held : l.isReleased b = false
  clear : ∀ p ∈ l.channel.inputPoints, (b.plans.get p).Clear
  gives : l.channel.gives b = true
  source_eq : l.channel.source b = source
  clock_eq : b.clock = clock

namespace Line.Listens

variable {l : Line} {source source' : ByteSource T} {clock clock' : Clock T} {b : Bench T}

theorem counted (h : l.Listens source clock b) (c : Call T) :
    l.Listens source clock (b.counted c) where
  held := h.held
  clear := fun p hp => Bench.plans_counted_clear (h.clear p hp)
  gives := by
    rw [← h.gives]
    cases l.channel <;> rfl
  source_eq := by
    rw [← h.source_eq]
    cases l.channel <;> rfl
  clock_eq := h.clock_eq

theorem recorded (h : l.Listens source clock b) (trace : List (Entry T)) (log : List Note) :
    l.Listens source clock { b with trace := trace, log := log } where
  held := h.held
  clear := h.clear
  gives := by
    rw [← h.gives]
    cases l.channel <;> rfl
  source_eq := by
    rw [← h.source_eq]
    cases l.channel <;> rfl
  clock_eq := h.clock_eq

theorem note (h : l.Listens source clock b) (n : Note) :
    ∃ b', Bench.note n b = (.ok (), b') ∧ l.Listens source clock b' :=
  ⟨_, rfl, h.recorded _ _⟩

theorem perform (h : l.Listens source clock b) {α : Type} (c : Call T)
    (hc : c.point ∈ l.channel.inputPoints) (reply : α → Reply) (work : Bench T → α × Bench T)
    {a : α} (ha : (work (b.counted c)).1 = a)
    (hwork : l.Listens source' clock' (work (b.counted c)).2) :
    ∃ b', Bench.perform c reply work b = (.ok a, b') ∧ l.Listens source' clock' b' := by
  obtain rfl := ha
  exact ⟨_, Bench.perform_of_clear (h.clear _ hc).current, hwork.recorded _ _⟩

theorem port (h : l.Listens source clock b) {c : SerialChannel} (hchannel : l.channel = .serial c) :
    ∃ p, c.port? b = some p ∧ p.isOpen = true := by
  have hgives : c.connected b = true := by
    have := h.gives
    rwa [hchannel] at this
  obtain ⟨p, hp⟩ := Option.isSome_iff_exists.mp hgives
  exact ⟨p, hp, (Option.filter_eq_some_iff.mp hp).2⟩

theorem hasWaiting (h : l.Listens source clock b) :
    ∃ b', l.channel.hasWaiting b = (.ok (!source.stale.isEmpty), b') ∧
      l.Listens source clock b' := by
  cases hchannel : l.channel with
  | scripted id =>
    have hcall := h.counted (.hasWaiting id)
    refine h.perform (.hasWaiting id) (by simp [hchannel, Channel.inputPoints, Call.point]) _ _ ?_
      hcall
    have hsource := hcall.source_eq
    have hgives := hcall.gives
    rw [hchannel] at hsource hgives
    simp only [Channel.gives, Bool.not_eq_true'] at hgives
    simp only [hgives, Bool.false_or, ← hsource, Channel.source]
  | serial c =>
    obtain ⟨p, hp, -⟩ := h.port hchannel
    have hcall := h.counted .portWaiting
    have hcount : (b.counted .portWaiting).device.stale.length = source.stale.length := by
      rw [← hcall.source_eq, hchannel]
      rfl
    obtain ⟨b', hpoll, h'⟩ := h.perform .portWaiting
      (by simp [hchannel, Channel.inputPoints, Call.point]) Reply.waiting
      (fun b => (b.device.stale.length, b)) hcount hcall
    refine ⟨b', ?_, h'⟩
    rw [Channel.hasWaiting, SerialChannel.hasWaiting, Act.bind_ok (SerialChannel.usePort_open hp),
      Act.bind_ok (Act.relabel_ok hpoll)]
    cases source.stale <;> rfl

theorem taken_scripted (h : l.Listens source clock b) {id : Nat}
    (hchannel : l.channel = .scripted id) (hreal : source'.phantom = source.phantom) (now : T) :
    l.Listens source' { clock with now := now }
      { b with scripts := b.scripts.set id source', now := now } where
  held := h.held
  clear := h.clear
  gives := by
    have hgives := h.gives
    have hsource := h.source_eq
    rw [hchannel] at hgives hsource ⊢
    simp only [Channel.source] at hsource
    simpa [Channel.gives, hreal, hsource] using hgives
  source_eq := by
    rw [hchannel, Channel.source, Table.get_set_self]
  clock_eq := by
    rw [← h.clock_eq]
    rfl

theorem taken_serial (h : l.Listens source clock b) {c : SerialChannel}
    (hchannel : l.channel = .serial c) (source' : ByteSource T) (now : T) :
    l.Listens source' { clock with now := now } { b with device := source', now := now } where
  held := h.held
  clear := h.clear
  gives := by
    have hgives := h.gives
    rwa [hchannel] at hgives ⊢
  source_eq := by rw [hchannel]; rfl
  clock_eq := by
    rw [← h.clock_eq]
    rfl

theorem setPort (h : l.Listens source clock b) {c : SerialChannel}
    (hchannel : l.channel = .serial c) {p : Port T} (hopen : p.isOpen = true) :
    l.Listens source clock (c.setPort (some p) b) where
  held := h.held
  clear := h.clear
  gives := by
    rw [hchannel]
    simp [Channel.gives, SerialChannel.connected, SerialChannel.port?, SerialChannel.setPort, hopen]
  source_eq := by
    rw [← h.source_eq, hchannel]
    rfl
  clock_eq := h.clock_eq

variable [TimeScale T]

theorem told (h : l.Listens source clock b) {c : SerialChannel} (hchannel : l.channel = .serial c)
    {p : Port T} (hopen : p.isOpen = true) (wait : Option T) :
    ∃ b', Act.onlyIf (Wait.sameLimit p.timeout (wait.map .time) = false)
        (Bench.signal (.portTimeout wait)
          (c.setPort (some { p with timeout := wait.map .time }))) b = (.ok (), b') ∧
      l.Listens source clock b' := by
  rw [Act.onlyIf]
  split
  · have hcall := h.counted (.portTimeout wait)
    exact h.perform (.portTimeout wait) (by simp [hchannel, Channel.inputPoints, Call.point]) _
      (fun b => ((), c.setPort _ b)) rfl
      (hcall.setPort hchannel hopen)
  · exact ⟨b, rfl, h⟩

theorem next (h : l.Listens source clock b) {wait : Option T} {byte : Option UInt8} {now : T}
    (htake : source.take clock.now wait = (byte, source', now))
    (hreal : source'.phantom = source.phantom) :
    ∃ b', l.channel.next wait b = (.ok byte, b') ∧
      l.Listens source' { clock with now := now } b' := by
  cases hchannel : l.channel with
  | scripted id =>
    have hcall := h.counted (.read id wait)
    have hsource := hcall.source_eq
    have hgives := hcall.gives
    have hnow : (b.counted (.read id wait)).now = clock.now := congrArg Clock.now hcall.clock_eq
    rw [hchannel] at hsource hgives
    simp only [Channel.source] at hsource
    simp only [Channel.gives, hsource, Bool.not_eq_true'] at hgives
    rw [Channel.next]
    refine h.perform (.read id wait) (by simp [hchannel, Channel.inputPoints, Call.point]) _ _ ?_ ?_
    · simp only [hsource, hgives, hnow, htake, Bool.false_eq_true, if_false]
    · simp only [hsource, hgives, hnow, htake, Bool.false_eq_true, if_false]
      exact hcall.taken_scripted hchannel hreal now
  | serial c =>
    obtain ⟨p, hp, hopen⟩ := h.port hchannel
    have hlimit : ((wait.map Wait.time).elim (pure none) fun w => some <$> w.resolve :
        Act (Bench T) (Option T)) b = (.ok wait, b) := by
      cases wait <;> rfl
    obtain ⟨b₁, htold, h₁⟩ := h.told hchannel hopen wait
    have hcall := h₁.counted .portRead
    have hsource : (b₁.counted .portRead).device = source := by
      have := hcall.source_eq
      rwa [hchannel] at this
    have hnow : (b₁.counted .portRead).now = clock.now := congrArg Clock.now hcall.clock_eq
    obtain ⟨b₂, hread, h₂⟩ := h₁.perform .portRead
      (by simp [hchannel, Channel.inputPoints, Call.point]) Reply.byte
      (fun b =>
        let taken := b.device.take b.now wait
        (taken.1, { b with device := taken.2.1, now := taken.2.2 })) (a := byte)
      (by simp only [hsource, hnow, htake])
      (by
        simp only [hsource, hnow, htake]
        exact hcall.taken_serial hchannel source' now)
    refine ⟨b₂, ?_, h₂⟩
    rw [Channel.next, SerialChannel.next, Act.bind_ok (SerialChannel.usePort_open hp),
      Act.bind_ok hlimit]
    exact Act.relabel_ok ((Act.bind_ok htold).trans hread)

theorem withChannel {l : Line} {source : ByteSource T} (hchannel : l.channel = .scripted 0)
    (hreal : source.phantom = false) :
    l.Listens source ⟨0, 0, fun _ => 0⟩ (Bench.withChannel source) where
  held := rfl
  clear := fun _ _ => FaultPlan.clear_never
  gives := by
    rw [hchannel, Channel.gives, Bench.withChannel, Table.get_set_self, hreal]
    rfl
  source_eq := by rw [hchannel, Channel.source, Bench.withChannel, Table.get_set_self]
  clock_eq := rfl

theorem next_stale (h : l.Listens source clock b) {s : UInt8} {stale : Bytes}
    (hstale : source.stale = s :: stale) (wait : Option T) :
    ∃ b', l.channel.next wait b = (.ok (some s), b') ∧
      l.Listens { source with stale := stale } clock b' := by
  have htake :
      source.take clock.now wait = (some s, { source with stale := stale }, clock.now) := by
    simp only [ByteSource.take, hstale]
  exact h.next htake rfl

theorem next_incoming (h : l.Listens source clock b) (hstale : source.stale = []) {s : UInt8}
    {incoming : Bytes} (hincoming : source.incoming = s :: incoming) {wait : T}
    (hwait : source.gap ≤ wait) :
    ∃ b', l.channel.next (some wait) b = (.ok (some s), b') ∧
      l.Listens { source with incoming := incoming } (clock.elapse source.gap) b' := by
  have htake : source.take clock.now (some wait) =
      (some s, { source with incoming := incoming }, clock.now + source.gap) := by
    simp only [ByteSource.take, hstale, hincoming, hwait, if_true]
  exact h.next htake rfl

theorem readClock (h : l.Listens source clock b) :
    ∃ b', Bench.readClock b = (.ok clock.tick.now, b') ∧ l.Listens source clock.tick b' := by
  obtain rfl := h.clock_eq
  refine ⟨_, rfl, h.held, h.clear, ?_, ?_, rfl⟩
  · rw [← h.gives]
    cases l.channel <;> rfl
  · rw [← h.source_eq]
    cases l.channel <;> rfl

/-- Dropping takes all stale bytes and no other, in no time. -/
theorem dropWaiting (h : l.Listens source clock b) {fuel : Nat} (hfuel : source.stale.length < fuel)
    (dropped : Nat) :
    ∃ b', l.dropWaiting fuel dropped b = (.ok (dropped + source.stale.length), b') ∧
      l.Listens { source with stale := [] } clock b' := by
  induction fuel generalizing source dropped b with
  | zero => exact absurd hfuel (Nat.not_lt_zero _)
  | succ fuel ih =>
    obtain ⟨b₁, hpoll, h₁⟩ := h.hasWaiting
    cases hstale : source.stale with
    | nil =>
      rw [hstale] at hpoll
      refine ⟨b₁, ?_, ?_⟩
      · rw [Line.dropWaiting, Act.bind_ok hpoll]
        rfl
      · rwa [← hstale]
    | cons s stale =>
      rw [hstale] at hpoll hfuel
      obtain ⟨b₂, hnext, h₂⟩ := h₁.next_stale hstale (some 0)
      obtain ⟨b₃, hdrop, h₃⟩ := ih h₂ (Nat.lt_of_succ_lt_succ hfuel) (dropped + 1)
      refine ⟨b₃, ?_, h₃⟩
      rw [Line.dropWaiting, Act.bind_ok hpoll]
      simp only [List.isEmpty_cons, Bool.not_false, if_true]
      rw [Act.bind_ok hnext]
      simp only
      rw [hdrop, List.length_cons, Nat.add_right_comm]
      rfl

theorem discardWaiting (h : l.Listens source clock b) :
    ∃ b', l.discardWaiting b = (.ok source.stale.length, b') ∧
      l.Listens { source with stale := [] } clock b' := by
  obtain ⟨b₁, hdrop, h₁⟩ := h.dropWaiting (Nat.lt_succ_self _) 0
  rw [Nat.zero_add] at hdrop
  have hstart : l.discardWaiting b = ((do
      Act.onlyIf (0 < source.stale.length) (Bench.note (.discarded source.stale.length))
      pure source.stale.length : Act (Bench T) Nat) b₁) := by
    rw [Line.discardWaiting, Act.bind_ok (requireHeld_of_held h.held),
      Act.bind_ok (Act.observe_apply _ b), h.source_eq, Act.bind_ok hdrop]
  rw [hstart, Act.onlyIf]
  split
  · obtain ⟨b₂, hnote, h₂⟩ := h₁.note (.discarded source.stale.length)
    exact ⟨b₂, Act.bind_ok hnote, h₂⟩
  · exact ⟨b₁, rfl, h₁⟩

theorem collect (h : l.Listens source clock b) (hstale : source.stale = []) {data rest : Bytes}
    (hincoming : source.incoming = data ++ rest) {deadline : T}
    (htime : clock.InTime source.gap deadline data.length) (got : Bytes) :
    ∃ b', l.collect (some deadline) data.length got b = (.ok (got ++ data), b') ∧
      l.Listens { source with incoming := rest } (clock.behind source.gap data.length) b' := by
  induction data generalizing source clock got b with
  | nil =>
    refine ⟨b, ?_, ?_⟩
    · rw [List.append_nil]
      rfl
    · obtain rfl : source.incoming = rest := hincoming
      exact h
  | cons s data ih =>
    obtain ⟨hopen, hgap, htime⟩ := htime
    obtain ⟨b₁, hclock, h₁⟩ := h.readClock
    obtain ⟨b₂, hnext, h₂⟩ := h₁.next_incoming hstale hincoming hgap
    obtain ⟨b₃, hcollect, h₃⟩ := ih h₂ hstale rfl htime (got ++ [s])
    refine ⟨b₃, ?_, h₃⟩
    rw [List.length_cons, Line.collect, Act.bind_ok hclock]
    simp only [hopen, if_false]
    rw [Act.bind_ok hnext]
    simp only
    rw [hcollect, List.append_assoc]
    rfl

/-- Bytes that come within the wait are received, and they alone are taken. -/
theorem receive (h : l.Listens source clock b) (hstale : source.stale = []) {data rest : Bytes}
    (hincoming : source.incoming = data ++ rest) {wait : Wait T} {t : T}
    (hwait : wait.toTime = .ok t) (htime : clock.Within source.gap t data.length) :
    ∃ b', l.receive data.length (some wait) false b = (.ok data, b') ∧
      l.Listens { source with incoming := rest } (clock.received source.gap data.length) b' := by
  obtain ⟨b₁, hclock, h₁⟩ := h.readClock
  obtain ⟨b₂, hcollect, h₂⟩ := h₁.collect hstale hincoming htime []
  obtain ⟨b₃, hnote, h₃⟩ := h₂.note (.received data)
  have hresolve : wait.resolve b₁ = (.ok t, b₁) := Wait.resolve_of_toTime hwait b₁
  rw [List.nil_append] at hcollect
  refine ⟨b₃, ?_, h₃⟩
  rw [Line.receive, Act.bind_ok (requireHeld_of_held h.held), Act.onlyIf,
    if_neg Bool.false_ne_true, Act.bind_ok (Act.pure_apply () b)]
  simp only
  rw [Act.bind_ok hclock, Act.bind_ok hresolve, Act.bind_ok (Act.pure_apply _ b₁),
    Int.toNat_natCast, Act.bind_ok hcollect, if_neg (Int.lt_irrefl _), Act.bind_ok hnote]
  rfl

theorem receive_flush (h : l.Listens source clock b) (n : Int) (wait : Option (Wait T)) :
    ∃ b₁, l.receive n wait true b = l.receive n wait false b₁ ∧
      l.Listens { source with stale := [] } clock b₁ := by
  obtain ⟨b₁, hdrop, h₁⟩ := h.discardWaiting
  have hdiscard : (Act.onlyIf (true = true) (discard l.discardWaiting)) b = (.ok (), b₁) := by
    rw [Act.onlyIf, if_pos rfl]
    exact Act.bind_ok hdrop
  refine ⟨b₁, ?_, h₁⟩
  rw [Line.receive, Line.receive, Act.bind_ok (requireHeld_of_held h.held),
    Act.bind_ok (requireHeld_of_held h₁.held), Act.bind_ok hdiscard]
  rfl

end Line.Listens

namespace Drive

variable [TimeScale T] {d : Drive T} {source : ByteSource T} {clock : Clock T} {b : Bench T}

theorem awaitBytes_within (h : d.line.Listens source clock b) (hstale : source.stale = [])
    {data rest : Bytes} (hincoming : source.incoming = data ++ rest) {wait : Wait T} {t : T}
    (hwait : wait.toTime = .ok t) (htime : clock.Within source.gap t data.length) :
    ∃ b', d.awaitBytes wait data.length false b = (.ok data, b') ∧
      d.line.Listens { source with incoming := rest } (clock.received source.gap data.length)
        b' := by
  obtain ⟨b₁, hreceive, h₁⟩ := h.receive hstale hincoming hwait htime
  exact ⟨b₁, Act.orElse_ok hreceive, h₁⟩

theorem awaitBytes_fresh (h : d.line.Listens source clock b) {data rest : Bytes}
    (hincoming : source.incoming = data ++ rest) {wait : Wait T} {t : T}
    (hwait : wait.toTime = .ok t) (htime : clock.Within source.gap t data.length) :
    ∃ b', d.awaitBytes wait data.length true b = (.ok data, b') ∧
      d.line.Listens { source with stale := [], incoming := rest }
        (clock.received source.gap data.length) b' := by
  obtain ⟨b₁, hflush, h₁⟩ := h.receive_flush data.length (some wait)
  obtain ⟨b₂, hreceive, h₂⟩ := h₁.receive rfl hincoming hwait htime
  exact ⟨b₂, Act.orElse_ok (hflush.trans hreceive), h₂⟩

end Drive
end SpindleLink
