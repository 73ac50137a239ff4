import SpindleLink.Drive

/-! Receiving from a scripted channel that answers without faults. Bytes are taken one by one from
the front, the stale ones only by discarding; what was taken and what is still unread make up what
was there, whenever a clock or a silent channel stops the reading. -/

namespace SpindleLink

/-- A plan under which no call fails. -/
def FaultPlan.Clear (p : FaultPlan) : Prop := ∀ n, p.fault n = none

theorem FaultPlan.Clear.current {p : FaultPlan} (h : p.Clear) : p.current = none := h p.made

theorem FaultPlan.Clear.step {p : FaultPlan} (h : p.Clear) : p.step.Clear := h

theorem FaultPlan.clear_never : FaultPlan.never.Clear := fun _ => rfl

variable {T : Type}

def Entry.byte? (e : Entry T) : Option UInt8 :=
  match e.reply with
  | .byte b => b
  | _ => none

/-- The bytes that the readings in a trace brought, in order. -/
def delivered (es : List (Entry T)) : Bytes := es.filterMap Entry.byte?

@[simp] theorem delivered_append (es fs : List (Entry T)) :
    delivered (es ++ fs) = delivered es ++ delivered fs := List.filterMap_append

@[simp] theorem delivered_read (t : T) (c : Call T) (b : Option UInt8) :
    delivered [(⟨t, c, .byte b⟩ : Entry T)] = b.toList := by
  cases b <;> rfl

def Entry.IsRead (id : Nat) (e : Entry T) : Prop := ∃ wait, e.call = .read id wait

theorem Wait.resolve_of_toTime [TimeScale T] {w : Wait T} {t : T} (h : w.toTime = .ok t)
    {σ : Type} (s : σ) : (w.resolve : Act σ T) s = (.ok t, s) := by
  rw [Wait.resolve, h]
  rfl

/-- Polls and readings that drop bytes one by one, and the poll that finds no more. -/
def discarding [TimeScale T] (id : Nat) : Bytes → List (Call T × Reply)
  | [] => [(.hasWaiting id, .truth false)]
  | b :: rest =>
    (.hasWaiting id, .truth true) :: (.read id (some 0), .byte (some b)) :: discarding id rest

theorem Bench.plans_counted_clear {c : Call T} {p : Point} {b : Bench T}
    (h : (b.plans.get p).Clear) : ((b.counted c).plans.get p).Clear := by
  unfold Bench.counted Table.update
  simp only [Table.get_set]
  split
  · rename_i hp
    rw [hp]
    exact h.step
  · exact h

theorem ByteSource.take_incoming [TimeScale T] {s : ByteSource T} (h : s.stale = []) (now : T)
    (wait : Option T) :
    ∃ byte rest later, s.take now wait = (byte, { s with incoming := rest }, later) ∧
      s.incoming = byte.toList ++ rest := by
  obtain ⟨stale, incoming, gap, acceptance, phantom⟩ := s
  obtain rfl : stale = [] := h
  cases incoming with
  | nil =>
    cases wait with
    | none => exact ⟨none, [], now, rfl, rfl⟩
    | some t => exact ⟨none, [], now + t, rfl, rfl⟩
  | cons c rest =>
    cases wait with
    | none => exact ⟨some c, rest, now + gap, rfl, rfl⟩
    | some t =>
      by_cases hgap : gap ≤ t
      · exact ⟨some c, rest, now + gap, if_pos hgap, rfl⟩
      · exact ⟨none, c :: rest, now + t, if_neg hgap, rfl⟩

/-- A line that is held, over a scripted channel that answers without faults: the bytes that the
channel is about to give. -/
structure Ready (l : Line) (id : Nat) (stale incoming : Bytes) (b : Bench T) : Prop where
  held : l.isReleased b = false
  polls : (b.plans.get (.hasWaiting id)).Clear
  reads : (b.plans.get (.read id)).Clear
  real : (b.scripts.get id).phantom = false
  staleBytes : (b.scripts.get id).stale = stale
  incomingBytes : (b.scripts.get id).incoming = incoming

namespace Ready

variable {l : Line} {id : Nat} {stale incoming : Bytes} {b : Bench T}

theorem counted (h : Ready l id stale incoming b) (c : Call T) :
    Ready l id stale incoming (b.counted c) where
  held := h.held
  polls := Bench.plans_counted_clear h.polls
  reads := Bench.plans_counted_clear h.reads
  real := h.real
  staleBytes := h.staleBytes
  incomingBytes := h.incomingBytes

theorem note (h : Ready l id stale incoming b) (n : Note) :
    ∃ b', Bench.note n b = (.ok (), b') ∧ Ready l id stale incoming b' ∧ b'.trace = b.trace :=
  ⟨_, rfl, ⟨h.held, h.polls, h.reads, h.real, h.staleBytes, h.incomingBytes⟩, rfl⟩

theorem hasWaiting (h : Ready l id stale incoming b) :
    ∃ b', Channel.hasWaiting (.scripted id) b = (.ok (!stale.isEmpty), b') ∧
      Ready l id stale incoming b' ∧
      b'.trace = b.trace ++ [⟨b.now, .hasWaiting id, .truth (!stale.isEmpty)⟩] := by
  have hcounted := h.counted (.hasWaiting id)
  refine ⟨(b.counted (.hasWaiting id)).record (.hasWaiting id) (.truth (!stale.isEmpty)), ?_,
    ⟨hcounted.held, hcounted.polls, hcounted.reads, hcounted.real, hcounted.staleBytes,
      hcounted.incomingBytes⟩, rfl⟩
  rw [Channel.hasWaiting, Bench.perform_of_clear h.polls.current, hcounted.real,
    hcounted.staleBytes]
  rfl

variable [TimeScale T]

theorem readClock (h : Ready l id stale incoming b) :
    ∃ now b', Bench.readClock b = (.ok now, b') ∧ Ready l id stale incoming b' ∧
      b'.trace = b.trace :=
  ⟨_, _, rfl, ⟨h.held, h.polls, h.reads, h.real, h.staleBytes, h.incomingBytes⟩, rfl⟩

theorem next_of_take (h : Ready l id stale incoming b) {wait : Option T} {byte : Option UInt8}
    {source : ByteSource T} {later : T}
    (htake : (b.scripts.get id).take b.now wait = (byte, source, later))
    (hreal : source.phantom = false) :
    ∃ b', Channel.next wait (.scripted id) b = (.ok byte, b') ∧
      Ready l id source.stale source.incoming b' ∧
      b'.trace = b.trace ++ [⟨b.now, .read id wait, .byte byte⟩] := by
  have hcounted := h.counted (.read id wait)
  refine ⟨{ b.counted (.read id wait) with
      scripts := b.scripts.set id source
      now := later
      trace := b.trace ++ [⟨b.now, .read id wait, .byte byte⟩] }, ?_,
    ⟨hcounted.held, hcounted.polls, hcounted.reads, ?_, ?_, ?_⟩, rfl⟩
  · have hscript : (b.counted (.read id wait)).scripts = b.scripts := rfl
    have hnow : (b.counted (.read id wait)).now = b.now := rfl
    rw [Channel.next, Bench.perform_of_clear h.reads.current]
    simp only [hscript, hnow, h.real, Bool.false_eq_true, if_false, htake]
    rfl
  · simpa using hreal
  · simp
  · simp

theorem next_stale {s : UInt8} (h : Ready l id (s :: stale) incoming b) (wait : Option T) :
    ∃ b', Channel.next wait (.scripted id) b = (.ok (some s), b') ∧
      Ready l id stale incoming b' ∧
      b'.trace = b.trace ++ [⟨b.now, .read id wait, .byte (some s)⟩] := by
  have htake : (b.scripts.get id).take b.now wait =
      (some s, { b.scripts.get id with stale := stale }, b.now) := by
    simp only [ByteSource.take, h.staleBytes]
  have := h.next_of_take htake h.real
  rwa [h.incomingBytes] at this

theorem next_incoming (h : Ready l id [] incoming b) (wait : Option T) :
    ∃ byte unread b', Channel.next wait (.scripted id) b = (.ok byte, b') ∧
      incoming = byte.toList ++ unread ∧ Ready l id [] unread b' ∧
      b'.trace = b.trace ++ [⟨b.now, .read id wait, .byte byte⟩] := by
  obtain ⟨byte, unread, later, htake, hbytes⟩ :=
    ByteSource.take_incoming h.staleBytes b.now wait
  obtain ⟨b', hnext, hready, htrace⟩ := h.next_of_take htake h.real
  rw [h.incomingBytes] at hbytes
  simp only [h.staleBytes] at hready
  exact ⟨byte, unread, b', hnext, hbytes, hready, htrace⟩

end Ready

/-- A bench with a single channel, number zero. -/
def Bench.withChannel [TimeScale T] (source : ByteSource T) : Bench T :=
  { Bench.empty 0 0 with scripts := (Table.constant .empty).set 0 source }

theorem Ready.withChannel [TimeScale T] (l : Line) {source : ByteSource T}
    (hreal : source.phantom = false) :
    Ready l 0 source.stale source.incoming (Bench.withChannel source) where
  held := rfl
  polls := FaultPlan.clear_never
  reads := FaultPlan.clear_never
  real := by rw [Bench.withChannel, Table.get_set_self, hreal]
  staleBytes := by rw [Bench.withChannel, Table.get_set_self]
  incomingBytes := by rw [Bench.withChannel, Table.get_set_self]

/-- From one state to a later one a channel was only read, and these bytes came. -/
def Bench.Gave (id : Nat) (data : Bytes) (b b' : Bench T) : Prop :=
  ∃ reads, b'.trace = b.trace ++ reads ∧ (∀ e ∈ reads, e.IsRead id) ∧ delivered reads = data

theorem Bench.Gave.of_trace {id : Nat} {b b' : Bench T} (h : b'.trace = b.trace) :
    b.Gave id [] b' :=
  ⟨[], by rw [h, List.append_nil], by simp, rfl⟩

theorem Bench.Gave.of_read [TimeScale T] {id : Nat} {b b' : Bench T} {wait : Option T}
    {byte : Option UInt8} (h : b'.trace = b.trace ++ [⟨b.now, .read id wait, .byte byte⟩]) :
    b.Gave id byte.toList b' := by
  refine ⟨_, h, ?_, delivered_read _ _ _⟩
  intro e he
  rw [List.mem_singleton.mp he]
  exact ⟨wait, rfl⟩

theorem Bench.Gave.trans {id : Nat} {data more : Bytes} {b₁ b₂ b₃ : Bench T}
    (h : b₁.Gave id data b₂) (h' : b₂.Gave id more b₃) : b₁.Gave id (data ++ more) b₃ := by
  obtain ⟨es, htrace, hes, rfl⟩ := h
  obtain ⟨fs, htrace', hfs, rfl⟩ := h'
  refine ⟨es ++ fs, by rw [htrace', htrace, List.append_assoc], ?_, delivered_append es fs⟩
  intro e he
  exact (List.mem_append.mp he).elim (hes e) (hfs e)

namespace Line

variable [TimeScale T] {l : Line} {id : Nat} {stale incoming : Bytes} {b : Bench T}

/-- Dropping takes all stale bytes and no other. -/
theorem dropWaiting_ready (hchannel : l.channel = .scripted id)
    (h : Ready l id stale incoming b) {fuel : Nat} (hfuel : stale.length < fuel) (dropped : Nat) :
    ∃ drops b', l.dropWaiting fuel dropped b = (.ok (dropped + stale.length), b') ∧
      Ready l id [] incoming b' ∧ b'.trace = b.trace ++ drops ∧
      drops.map Entry.did = discarding id stale := by
  induction stale generalizing fuel dropped b with
  | nil =>
    obtain ⟨fuel, rfl⟩ := Nat.exists_eq_succ_of_ne_zero (Nat.ne_of_gt hfuel)
    obtain ⟨b₁, hpoll, h₁, htrace⟩ := h.hasWaiting
    refine ⟨_, b₁, ?_, h₁, htrace, rfl⟩
    rw [dropWaiting, hchannel, Act.bind_ok hpoll]
    rfl
  | cons s stale ih =>
    obtain ⟨fuel, rfl⟩ := Nat.exists_eq_succ_of_ne_zero (Nat.ne_of_gt (Nat.zero_lt_of_lt hfuel))
    obtain ⟨b₁, hpoll, h₁, htrace₁⟩ := h.hasWaiting
    obtain ⟨b₂, hnext, h₂, htrace₂⟩ := h₁.next_stale (some 0)
    obtain ⟨drops, b₃, hdrop, h₃, htrace₃, hdrops⟩ :=
      ih h₂ (Nat.lt_of_succ_lt_succ hfuel) (dropped + 1)
    refine ⟨_ :: _ :: drops, b₃, ?_, h₃,
      by rw [htrace₃, htrace₂, htrace₁, List.append_assoc, List.append_assoc]; rfl, ?_⟩
    · rw [dropWaiting, hchannel, Act.bind_ok hpoll]
      simp only [List.isEmpty_cons, Bool.not_false, if_true]
      rw [Act.bind_ok hnext]
      simp only
      rw [hdrop, List.length_cons, Nat.add_right_comm]
      rfl
    · rw [List.map_cons, List.map_cons, hdrops]
      rfl

theorem discardWaiting_ready (hchannel : l.channel = .scripted id)
    (h : Ready l id stale incoming b) :
    ∃ drops b', l.discardWaiting b = (.ok stale.length, b') ∧ Ready l id [] incoming b' ∧
      b'.trace = b.trace ++ drops ∧ drops.map Entry.did = discarding id stale := by
  have hcount : (l.channel.source b).stale.length = stale.length := by
    rw [hchannel, Channel.source, h.staleBytes]
  obtain ⟨drops, b₁, hdrop, h₁, htrace, hdrops⟩ :=
    dropWaiting_ready hchannel h (Nat.lt_succ_self stale.length) 0
  obtain ⟨b₂, hnote, h₂, htrace₂⟩ := h₁.note (.discarded stale.length)
  rw [Nat.zero_add] at hdrop
  have hheld := requireHeld_of_held h.held
  rw [discardWaiting, Act.bind_ok hheld, Act.bind_ok (Act.observe_apply _ b), hcount,
    Act.bind_ok hdrop]
  by_cases hsome : 0 < stale.length
  · refine ⟨drops, b₂, ?_, h₂, htrace₂.trans htrace, hdrops⟩
    rw [Act.onlyIf, if_pos hsome, Act.bind_ok hnote]
    rfl
  · refine ⟨drops, b₁, ?_, h₁, htrace, hdrops⟩
    rw [Act.onlyIf, if_neg hsome]
    rfl

/-- Collecting takes a front part of the incoming bytes, at most as long as asked for. -/
theorem collect_ready (hchannel : l.channel = .scripted id) (h : Ready l id [] incoming b)
    (deadline : T) (missing : Nat) (got : Bytes) :
    ∃ more unread b', l.collect (some deadline) missing got b = (.ok (got ++ more), b') ∧
      incoming = more ++ unread ∧ more.length ≤ missing ∧ Ready l id [] unread b' ∧
      b.Gave id more b' := by
  induction missing generalizing incoming got b with
  | zero =>
    have hnone : l.collect (some deadline) 0 got b = (.ok (got ++ []), b) := by
      rw [collect, List.append_nil]
      rfl
    exact ⟨[], incoming, b, hnone, rfl, Nat.le_refl 0, h, .of_trace rfl⟩
  | succ missing ih =>
    obtain ⟨now, b₁, hclock, h₁, htrace₁⟩ := h.readClock
    by_cases hpassed : deadline - now ≤ 0
    · refine ⟨[], incoming, b₁, ?_, rfl, Nat.zero_le _, h₁, .of_trace htrace₁⟩
      rw [collect, Act.bind_ok hclock, List.append_nil]
      simp only [hpassed, if_true]
      rfl
    · obtain ⟨byte, unread, b₂, hnext, rfl, h₂, htrace₂⟩ :=
        h₁.next_incoming (some (deadline - now))
      have hgave : b.Gave id byte.toList b₂ :=
        (Bench.Gave.of_trace htrace₁).trans (.of_read htrace₂)
      cases byte with
      | none =>
        refine ⟨[], unread, b₂, ?_, rfl, Nat.zero_le _, h₂, hgave⟩
        rw [collect, Act.bind_ok hclock]
        simp only [hpassed, if_false]
        rw [hchannel, Act.bind_ok hnext, List.append_nil]
        rfl
      | some c =>
        obtain ⟨more, unread, b₃, hcollect, rfl, hlen, h₃, hgave₃⟩ := ih h₂ (got ++ [c])
        refine ⟨c :: more, unread, b₃, ?_, rfl, Nat.succ_le_succ hlen, h₃, hgave.trans hgave₃⟩
        rw [collect, Act.bind_ok hclock]
        simp only [hpassed, if_false]
        rw [hchannel, Act.bind_ok hnext]
        simp only
        rw [hcollect, List.append_assoc]
        rfl

theorem receive_flush (h : Ready l id stale incoming b) {count : Nat} {b₁ : Bench T}
    (hdrop : l.discardWaiting b = (.ok count, b₁)) (h₁ : Ready l id [] incoming b₁) (n : Int)
    (wait : Option (Wait T)) : l.receive n wait true b = l.receive n wait false b₁ := by
  have hdiscard : (Act.onlyIf (true = true) (discard l.discardWaiting)) b = (.ok (), b₁) := by
    rw [Act.onlyIf, if_pos rfl]
    exact Act.bind_ok hdrop
  have hheld := requireHeld_of_held h.held
  have hheld₁ := requireHeld_of_held h₁.held
  rw [receive, receive, Act.bind_ok hheld, Act.bind_ok hheld₁, Act.bind_ok hdiscard]
  rfl

theorem receive_ready (hchannel : l.channel = .scripted id) (h : Ready l id [] incoming b) (n : Nat)
    {wait : Wait T} {t : T} (hwait : wait.toTime = .ok t) :
    ∃ got unread b', incoming = got ++ unread ∧ Ready l id [] unread b' ∧ b.Gave id got b' ∧
      (l.receive n (some wait) false b = (.ok got, b') ∧ got.length = n ∨
        l.receive n (some wait) false b = (.error (.truncated got n), b') ∧ got.length < n) := by
  obtain ⟨now, b₁, hclock, h₁, htrace₁⟩ := h.readClock
  obtain ⟨got, unread, b₂, hcollect, rfl, hlen, h₂, hgave⟩ :=
    collect_ready hchannel h₁ (now + t) n []
  have hresolve : wait.resolve b₁ = (.ok t, b₁) := Wait.resolve_of_toTime hwait b₁
  have hstart : l.receive n (some wait) false b =
      (if (got.length : Int) < n then Act.raise (.truncated got n)
      else do
        Bench.note (.received got)
        pure got : Act (Bench T) Bytes) b₂ := by
    unfold receive
    rw [Act.bind_ok (requireHeld_of_held h.held), Act.onlyIf, if_neg Bool.false_ne_true,
      Act.bind_ok (Act.pure_apply () b)]
    simp only
    rw [Act.bind_ok hclock, Act.bind_ok hresolve, Act.bind_ok (Act.pure_apply _ b₁),
      Int.toNat_natCast, Act.bind_ok hcollect, List.nil_append]
  have hread : b.Gave id got b₂ := (Bench.Gave.of_trace htrace₁).trans hgave
  rcases Nat.lt_or_eq_of_le hlen with hshort | hfull
  · refine ⟨got, unread, b₂, rfl, h₂, hread, .inr ⟨?_, hshort⟩⟩
    rw [hstart, if_pos (Int.ofNat_lt.mpr hshort)]
    rfl
  · obtain ⟨b₃, hnote, h₃, htrace₃⟩ := h₂.note (.received got)
    refine ⟨got, unread, b₃, rfl, h₃, ?_, .inl ⟨?_, hfull⟩⟩
    · have := hread.trans (.of_trace htrace₃)
      rwa [List.append_nil] at this
    · rw [hstart, if_neg (by omega), Act.bind_ok hnote]
      rfl

end Line

namespace Drive

variable [TimeScale T] {d : Drive T} {id : Nat} {stale incoming : Bytes} {b : Bench T}

theorem awaitBytes_flush (h : Ready d.line id stale incoming b) {count : Nat} {b₁ : Bench T}
    (hdrop : d.line.discardWaiting b = (.ok count, b₁)) (h₁ : Ready d.line id [] incoming b₁)
    (wait : Wait T) (n : Nat) : d.awaitBytes wait n true b = d.awaitBytes wait n false b₁ := by
  unfold awaitBytes Act.orElse
  rw [Line.receive_flush h hdrop h₁]

/-- Awaited bytes come in full, or the frame is late and the fault tells those that did come. -/
theorem awaitBytes_ready (hchannel : d.line.channel = .scripted id)
    (h : Ready d.line id [] incoming b) (n : Nat) {wait : Wait T} {t : T}
    (hwait : wait.toTime = .ok t) :
    ∃ got unread b', incoming = got ++ unread ∧ Ready d.line id [] unread b' ∧ b.Gave id got b' ∧
      (d.awaitBytes wait n false b = (.ok got, b') ∧ got.length = n ∨
        d.awaitBytes wait n false b =
          (.error (.late (.within (TimeScale.thousandths t)) got), b') ∧ got.length < n) := by
  obtain ⟨got, unread, b₁, rfl, h₁, hgave, ⟨hreceive, hlen⟩ | ⟨hreceive, hlen⟩⟩ :=
    Line.receive_ready hchannel h n hwait
  · refine ⟨got, unread, b₁, rfl, h₁, hgave, .inl ⟨?_, hlen⟩⟩
    exact Act.orElse_ok hreceive
  · obtain ⟨b₂, hnote, h₂, htrace₂⟩ :=
      h₁.note (.statusMissing (TimeScale.thousandths t) got.length)
    have hread : b.Gave id got b₂ := by
      have := hgave.trans (.of_trace htrace₂)
      rwa [List.append_nil] at this
    have hresolve : wait.resolve b₁ = (.ok t, b₁) := Wait.resolve_of_toTime hwait b₁
    refine ⟨got, unread, b₂, rfl, h₂, hread, .inr ⟨?_, hlen⟩⟩
    have hcut : (Fault.truncated got n).isA .cutFrame = true := rfl
    have hgot : (Fault.truncated got n).received = got := rfl
    rw [awaitBytes, Act.orElse_error hreceive]
    simp only [hcut, hgot, if_true]
    rw [Act.bind_ok hresolve, Act.bind_ok hnote]
    rfl

end Drive
end SpindleLink
