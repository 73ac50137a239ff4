import SpindleLink.Drive
import SpindleLink.Proofs.Conservation

/-! Who owns what, which lines were released, and which number is the next: nothing but the making
and the release of lines, and the taking of numbers, changes that. No traffic does. -/

namespace SpindleLink

variable {T : Type}

namespace Bench

/-- The owned things, the released lines and the next number. -/
def holdings (b : Bench T) : List Resource × List Nat × Nat :=
  (b.owned, b.releasedLines, b.nextId)

/-- The same things are owned and the same lines released; numbers may have been taken. -/
structure SameHolders (b b' : Bench T) : Prop where
  owned : b'.owned = b.owned
  released : b'.releasedLines = b.releasedLines
  numbers : b.nextId ≤ b'.nextId

theorem SameHolders.of_holdings {b b' : Bench T} (h : b'.holdings = b.holdings) :
    b.SameHolders b' := by
  simp only [holdings, Prod.mk.injEq] at h
  exact ⟨h.1, h.2.1, Nat.le_of_eq h.2.2.symm⟩

theorem SameHolders.trans {b₁ b₂ b₃ : Bench T} (h : b₁.SameHolders b₂) (h' : b₂.SameHolders b₃) :
    b₁.SameHolders b₃ :=
  ⟨h'.owned.trans h.owned, h'.released.trans h.released, Nat.le_trans h.numbers h'.numbers⟩

theorem fresh_apply (b : Bench T) :
    fresh b = (.ok b.nextId, { b with nextId := b.nextId + 1 }) := rfl

theorem sameHolders_fresh (b : Bench T) : b.SameHolders { b with nextId := b.nextId + 1 } :=
  ⟨rfl, rfl, Nat.le_succ _⟩

theorem note_holdings (n : Note) : (note n : Act (Bench T) Unit).Leaves holdings :=
  .change fun _ => rfl

theorem signal_holdings {c : Call T} {effect : Bench T → Bench T}
    (heffect : ∀ b, (effect b).holdings = b.holdings) : (signal c effect).Leaves holdings :=
  perform_leaves (fun _ _ => rfl) fun b => heffect (b.counted c)

theorem touch_holdings (c : Call T) : (touch c).Leaves holdings := signal_holdings fun _ => rfl

theorem readClock_holdings [TimeScale T] : (readClock : Act (Bench T) T).Leaves holdings :=
  fun _ => rfl

end Bench

theorem Wait.resolve_holdings [TimeScale T] (w : Wait T) :
    (w.resolve : Act (Bench T) T).Leaves Bench.holdings := .ofExcept _

namespace SerialChannel

theorem usePort_holdings (c : SerialChannel) :
    (c.usePort : Act (Bench T) (Port T)).Leaves Bench.holdings := by
  refine .bind (.observe _) fun port => ?_
  cases port with
  | none => exact .raise _
  | some p => exact .pure p

theorem open_holdings (c : SerialChannel) :
    (c.open : Act (Bench T) Unit).Leaves Bench.holdings := by
  refine .bind (.observe _) fun connected => .ite (.pure ()) ?_
  have hopen : (Bench.signal (.portOpen c.name c.baud) (c.setPort (some ⟨true, none⟩)) :
      Act (Bench T) Unit).Leaves Bench.holdings := Bench.signal_holdings fun _ => rfl
  exact .bind hopen.relabel fun _ => Bench.note_holdings _

theorem close_holdings (c : SerialChannel) :
    (c.close : Act (Bench T) Unit).Leaves Bench.holdings := by
  refine .bind (.observe _) fun port => .ite (.pure ()) (.ensuring ?_ ?_)
  · exact .orElse (Bench.touch_holdings _) fun f => .ite (Bench.note_holdings _) (.raise f)
  · exact .bind (.change fun _ => rfl) fun _ => Bench.note_holdings _

theorem driveRts_holdings (c : SerialChannel) (level : Bool) :
    (c.driveRts level : Act (Bench T) Unit).Leaves Bench.holdings :=
  .bind c.usePort_holdings fun _ => Bench.touch_holdings _

theorem write_holdings (c : SerialChannel) (data : Bytes) :
    (c.write data : Act (Bench T) Int).Leaves Bench.holdings := by
  refine .bind c.usePort_holdings fun _ => .bind (.relabel ?_) fun _ => .pure _
  refine .bind (Bench.perform_leaves (fun _ _ => rfl) fun _ => rfl) fun accepted => ?_
  exact .bind (Bench.touch_holdings _) fun _ => .pure accepted

theorem hasWaiting_holdings (c : SerialChannel) :
    (c.hasWaiting : Act (Bench T) Bool).Leaves Bench.holdings := by
  refine .bind c.usePort_holdings fun _ => .bind (.relabel ?_) fun _ => .pure _
  exact Bench.perform_leaves (fun _ _ => rfl) fun _ => rfl

theorem next_holdings [TimeScale T] (c : SerialChannel) (wait : Option (Wait T)) :
    (c.next wait).Leaves Bench.holdings := by
  refine .bind c.usePort_holdings fun port => .bind ?_ fun limit => .relabel (.bind ?_ fun _ => ?_)
  · cases wait with
    | none => exact .pure none
    | some w => exact .map w.resolve_holdings
  · exact .onlyIf (Bench.signal_holdings fun _ => rfl)
  · exact Bench.perform_leaves (fun _ _ => rfl) fun _ => rfl

end SerialChannel

namespace Channel

theorem write_holdings (channel : Channel) (data : Bytes) :
    (channel.write data : Act (Bench T) (Option Int)).Leaves Bench.holdings := by
  cases channel with
  | scripted id => exact Bench.perform_leaves (fun _ _ => rfl) fun _ => rfl
  | serial c => exact .map (c.write_holdings data)

theorem hasWaiting_holdings (channel : Channel) :
    (channel.hasWaiting : Act (Bench T) Bool).Leaves Bench.holdings := by
  cases channel with
  | scripted id => exact Bench.perform_leaves (fun _ _ => rfl) fun _ => rfl
  | serial c => exact c.hasWaiting_holdings

theorem next_holdings [TimeScale T] (channel : Channel) (wait : Option T) :
    (channel.next wait).Leaves Bench.holdings := by
  cases channel with
  | scripted id =>
    refine Bench.perform_leaves (fun _ _ => rfl) fun b => ?_
    split <;> rfl
  | serial c => exact c.next_holdings _

end Channel

namespace DirectionLine

theorem drivePin_holdings (id : Nat) (pin : Int) (high : Bool) :
    (drivePin id pin high : Act (Bench T) Unit).Leaves Bench.holdings :=
  .bind (.observe _) fun _ => .ite (Bench.touch_holdings _) (.raise _)

theorem engage_holdings (d : DirectionLine) :
    (d.engage : Act (Bench T) Unit).Leaves Bench.holdings := by
  cases d with
  | scripted id => exact Bench.touch_holdings _
  | rts id channel activeHigh => exact channel.driveRts_holdings _
  | gpio id pin => exact drivePin_holdings id pin true

theorem disengage_holdings (d : DirectionLine) :
    (d.disengage : Act (Bench T) Unit).Leaves Bench.holdings := by
  cases d with
  | scripted id => exact Bench.touch_holdings _
  | rts id channel activeHigh => exact channel.driveRts_holdings _
  | gpio id pin => exact drivePin_holdings id pin false

theorem open_holdings (d : DirectionLine) :
    (d.open : Act (Bench T) Unit).Leaves Bench.holdings := by
  cases d with
  | scripted id => exact .pure ()
  | rts id channel activeHigh => exact .pure ()
  | gpio id pin =>
    refine .bind (.observe _) fun _ => .bind .require fun _ => ?_
    refine .bind (Bench.touch_holdings _) fun _ => ?_
    exact .bind (Bench.signal_holdings fun _ => rfl) fun _ => Bench.note_holdings _

theorem close_holdings (d : DirectionLine) :
    (d.close : Act (Bench T) Unit).Leaves Bench.holdings := by
  cases d with
  | scripted id => exact .pure ()
  | rts id channel activeHigh => exact .pure ()
  | gpio id pin =>
    refine .bind (.observe _) fun _ => .ite (.bind (Bench.touch_holdings _) fun _ => ?_) (.pure ())
    exact Bench.signal_holdings fun _ => rfl

end DirectionLine

theorem Pacing.pause_holdings [TimeScale T] (ms : Int) (p : Pacing) :
    (p.pause ms : Act (Bench T) Unit).Leaves Bench.holdings := by
  cases p with
  | delay =>
    refine .bind (Bench.signal_holdings fun b => ?_) fun _ => .require
    cases (TimeScale.ofMillis? ms : Option T) <;> rfl
  | sleep =>
    rw [pause]
    split
    · exact Bench.signal_holdings fun _ => rfl
    · exact .raise _

namespace Line

theorem engage_holdings (l : Line) :
    (switch l.direction.engage : Act (Bench T) Unit).Leaves Bench.holdings :=
  .relabel l.direction.engage_holdings

theorem disengage_holdings (l : Line) :
    (switch l.direction.disengage : Act (Bench T) Unit).Leaves Bench.holdings :=
  .relabel l.direction.disengage_holdings

theorem recover_holdings (l : Line) :
    (l.recover : Act (Bench T) Unit).Leaves Bench.holdings :=
  .orElse l.disengage_holdings fun f => .ite (Bench.note_holdings _) (.raise f)

/-- A line has come to own its channel and its direction line, which nobody owned before, and has a
number of its own. -/
structure Took (l : Line) (b b' : Bench T) : Prop where
  freeChannel : l.channel.resource ∉ b.owned
  freeDirection : l.direction.resource ∉ b.owned
  owned : b'.owned = l.channel.resource :: l.direction.resource :: b.owned
  released : b'.releasedLines = b.releasedLines
  above : b.nextId ≤ l.id
  below : l.id < b'.nextId

theorem Took.of_sameHolders {l : Line} {b₁ b₂ b₃ : Bench T} (hb : b₁.SameHolders b₂)
    (h : l.Took b₂ b₃) : l.Took b₁ b₃ where
  freeChannel := hb.owned ▸ h.freeChannel
  freeDirection := hb.owned ▸ h.freeDirection
  owned := hb.owned ▸ h.owned
  released := h.released.trans hb.released
  above := Nat.le_trans hb.numbers h.above
  below := h.below

theorem Took.of_holdings {l : Line} {b₁ b₂ b₃ : Bench T} (h : l.Took b₁ b₂)
    (hb : b₃.holdings = b₂.holdings) : l.Took b₁ b₃ := by
  simp only [Bench.holdings, Prod.mk.injEq] at hb
  obtain ⟨howned, hreleased, hnext⟩ := hb
  exact
    { freeChannel := h.freeChannel
      freeDirection := h.freeDirection
      owned := howned.trans h.owned
      released := hreleased.trans h.released
      above := h.above
      below := hnext.symm ▸ h.below }

/-- Either a line could not be made, and nothing is held more than before, or the line took its
channel and its direction line. -/
theorem make_cases (channel : Channel) (direction : DirectionLine) (byteTime : Number)
    (pacing : Pacing) (b : Bench T) :
    (∃ f b', make channel direction byteTime pacing b = (.error f, b') ∧
        b'.holdings = b.holdings) ∨
      ∃ l b', make channel direction byteTime pacing b = (.ok l, b') ∧
        l = ⟨b.nextId, channel, direction, byteTime, pacing⟩ ∧ l.Took b b' := by
  unfold make
  split
  · exact .inl ⟨_, _, rfl, rfl⟩
  rw [Act.bind_ok (Act.observe_apply _ b)]
  split
  · exact .inl ⟨_, _, rfl, rfl⟩
  rename_i hchannel
  rw [Act.bind_ok (Act.observe_apply _ b)]
  split
  · exact .inl ⟨_, _, rfl, rfl⟩
  rename_i hdirection
  have hswitch : (switch direction.disengage b).2.holdings = b.holdings :=
    Act.Leaves.relabel direction.disengage_holdings b
  rcases hrun : switch direction.disengage b with ⟨f | u, b₁⟩
  · rw [hrun] at hswitch
    exact .inl ⟨f, b₁, Act.bind_error hrun, hswitch⟩
  · rw [hrun] at hswitch
    simp only [Bench.holdings, Prod.mk.injEq] at hswitch
    obtain ⟨howned, hreleased, hnext⟩ := hswitch
    rw [Act.bind_ok hrun, ← hnext]
    refine .inr ⟨_, _, rfl, rfl, ?_⟩
    exact
      { freeChannel := by simpa [owns] using hchannel
        freeDirection := by simpa [owns] using hdirection
        owned := congrArg (fun rs => channel.resource :: direction.resource :: rs) howned
        released := hreleased
        above := Nat.le_of_eq hnext.symm
        below := Nat.lt_succ_self _ }

theorem holdings_of_make_error {channel : Channel} {direction : DirectionLine} {byteTime : Number}
    {pacing : Pacing} {b b' : Bench T} {f : Fault}
    (h : make channel direction byteTime pacing b = (.error f, b')) :
    b'.holdings = b.holdings := by
  rcases make_cases channel direction byteTime pacing b with
    ⟨e, b₁, hmake, hsame⟩ | ⟨l, b₁, hmake, -⟩
  · rw [hmake] at h
    obtain ⟨-, rfl⟩ := Prod.mk.inj h
    exact hsame
  · rw [hmake] at h
    cases h

theorem make_ok {channel : Channel} {direction : DirectionLine} {byteTime : Number}
    {pacing : Pacing} {l : Line} {b b' : Bench T}
    (h : make channel direction byteTime pacing b = (.ok l, b')) :
    l = ⟨b.nextId, channel, direction, byteTime, pacing⟩ ∧ l.Took b b' := by
  rcases make_cases channel direction byteTime pacing b with
    ⟨e, b₁, hmake, -⟩ | ⟨l', b₁, hmake, hl', htook⟩
  · rw [hmake] at h
    cases h
  · rw [hmake] at h
    cases h
    exact ⟨hl', htook⟩

/-- What the release of a line changes, even if it fails; a released line stays as it is. -/
theorem holdings_release (l : Line) (b : Bench T) :
    (l.release b).2.holdings = if l.isReleased b then b.holdings else (l.giveUp b).holdings := by
  rw [release, Act.bind_ok (Act.observe_apply _ b)]
  cases hreleased : l.isReleased b with
  | true => rfl
  | false =>
    have hswitch := l.disengage_holdings b
    simp only [Bench.holdings, Prod.mk.injEq] at hswitch
    obtain ⟨howned, hlines, hnext⟩ := hswitch
    simp only [Bool.false_eq_true, if_false, Act.ensuring_snd]
    simp [Act.change, giveUp, Bench.holdings, howned, hlines, hnext]

theorem isReleased_release (l : Line) (b : Bench T) : l.isReleased (l.release b).2 = true := by
  have hlines := congrArg (fun p => p.2.1) (l.holdings_release b)
  cases hreleased : l.isReleased b with
  | true =>
    have hsame : (l.release b).2.releasedLines = b.releasedLines := by
      simpa [hreleased, Bench.holdings] using hlines
    rw [isReleased, hsame]
    exact hreleased
  | false =>
    have hmore : (l.release b).2.releasedLines = l.id :: b.releasedLines := by
      simpa [hreleased, Bench.holdings, giveUp] using hlines
    simp [isReleased, hmore]

theorem requireHeld_holdings (l : Line) :
    (l.requireHeld : Act (Bench T) Unit).Leaves Bench.holdings :=
  .bind (.observe _) fun _ => .require

variable [TimeScale T]

theorem transmission_holdings (l : Line) (data : Bytes) :
    (l.transmission data : Act (Bench T) Unit).Leaves Bench.holdings := by
  refine .bind l.engage_holdings fun _ => .bind (l.pacing.pause_holdings settle) fun _ => ?_
  refine .bind (.relabel (l.channel.write_holdings data)) fun accepted => .bind .require fun _ => ?_
  refine .bind (Bench.note_holdings _) fun _ => .bind (.ofExcept _) fun hold => ?_
  exact l.pacing.pause_holdings hold

theorem send_holdings (l : Line) (data : Bytes) :
    (l.send data : Act (Bench T) Unit).Leaves Bench.holdings := by
  refine .bind l.requireHeld_holdings fun _ => ?_
  refine .bind (.attempt (l.transmission_holdings data)) fun r => ?_
  cases r with
  | error f => exact .bind l.recover_holdings fun _ => .raise f
  | ok u => exact .bind l.disengage_holdings fun _ => l.pacing.pause_holdings turnaround

theorem dropWaiting_holdings (l : Line) (fuel dropped : Nat) :
    (l.dropWaiting fuel dropped : Act (Bench T) Nat).Leaves Bench.holdings := by
  induction fuel generalizing dropped with
  | zero => exact .pure _
  | succ fuel ih =>
    refine .bind l.channel.hasWaiting_holdings fun _ => .ite ?_ (.pure _)
    refine .bind (l.channel.next_holdings _) fun byte => ?_
    cases byte with
    | none => exact .pure _
    | some b => exact ih (dropped + 1)

theorem discardWaiting_holdings (l : Line) :
    (l.discardWaiting : Act (Bench T) Nat).Leaves Bench.holdings := by
  refine .bind l.requireHeld_holdings fun _ => .bind (.observe _) fun waiting => ?_
  refine .bind (l.dropWaiting_holdings _ _) fun dropped => ?_
  exact .bind (.onlyIf (Bench.note_holdings _)) fun _ => .pure _

theorem collect_holdings (l : Line) (deadline : Option T) (missing : Nat) (got : Bytes) :
    (l.collect deadline missing got).Leaves Bench.holdings := by
  induction missing generalizing got with
  | zero => exact .pure _
  | succ missing ih =>
    have hnext (wait : Option T) {f : Option UInt8 → Act (Bench T) Bytes}
        (hnone : f none = pure got)
        (hsome : ∀ b, f (some b) = l.collect deadline missing (got ++ [b])) :
        (l.channel.next wait >>= f).Leaves Bench.holdings := by
      refine .bind (l.channel.next_holdings wait) fun byte => ?_
      cases byte with
      | none =>
        rw [hnone]
        exact .pure got
      | some b =>
        rw [hsome]
        exact ih _
    cases deadline with
    | none => exact hnext none rfl fun _ => rfl
    | some d =>
      exact .bind Bench.readClock_holdings fun now => .ite (.pure got) (hnext _ rfl fun _ => rfl)

theorem receive_holdings (l : Line) (n : Int) (wait : Option (Wait T)) (flush : Bool) :
    (l.receive n wait flush).Leaves Bench.holdings := by
  have hcollect (deadline : Option T) : (do
      let got ← l.collect deadline n.toNat []
      if (got.length : Int) < n then .raise (.truncated got n)
      else
        Bench.note (.received got)
        pure got : Act (Bench T) Bytes).Leaves Bench.holdings :=
    .bind (l.collect_holdings deadline _ _) fun got =>
      .ite (.raise _) (.bind (Bench.note_holdings _) fun _ => .pure _)
  refine .bind l.requireHeld_holdings fun _ => .bind (.onlyIf ?_) fun _ => ?_
  · exact .bind l.discardWaiting_holdings fun _ => .pure _
  · cases wait with
    | none => exact .bind (.pure none) hcollect
    | some w =>
      refine .bind Bench.readClock_holdings fun now => .bind w.resolve_holdings fun t => ?_
      exact .bind (.pure _) hcollect

end Line

namespace Drive

theorem decode_holdings (data : Bytes) :
    (decode data : Act (Bench T) Status).Leaves Bench.holdings := by
  rw [decode]
  split
  · exact .pure _
  · exact .bind (.onlyIf (Bench.note_holdings _)) fun _ => .raise _

variable [TimeScale T]

theorem send_holdings (d : Drive T) (frame : Command) : (d.send frame).Leaves Bench.holdings := by
  refine .bind (.ofExcept _) fun data => .orElse (d.line.send_holdings data) fun f => ?_
  exact .bind (.onlyIf (Bench.note_holdings _)) fun _ => .raise f

theorem start_holdings (d : Drive T) : d.start.Leaves Bench.holdings :=
  .bind (.ofExcept _) fun frame => .bind (d.send_holdings frame) fun _ =>
    .bind (Bench.note_holdings _) fun _ => .pure _

theorem stop_holdings (d : Drive T) : d.stop.Leaves Bench.holdings :=
  .bind (.ofExcept _) fun frame => .bind (d.send_holdings frame) fun _ =>
    .bind (Bench.note_holdings _) fun _ => .pure _

theorem changeSpeed_holdings (d : Drive T) (rpm : Int) :
    (d.changeSpeed rpm).Leaves Bench.holdings :=
  .bind (.ofExcept _) fun frame => .bind (d.send_holdings frame) fun _ => Bench.note_holdings _

theorem awaitBytes_holdings (d : Drive T) (wait : Wait T) (count : Nat) (flush : Bool) :
    (d.awaitBytes wait count flush).Leaves Bench.holdings := by
  refine .orElse (d.line.receive_holdings _ _ _) fun f => .ite ?_ (.raise f)
  exact .bind wait.resolve_holdings fun t => .bind (Bench.note_holdings _) fun _ => .raise _

theorem readSpeed_holdings (d : Drive T) (wait : Option (Wait T)) :
    (d.readSpeed wait).Leaves Bench.holdings :=
  .bind (d.awaitBytes_holdings _ _ _) fun data => .map (decode_holdings data)

theorem resynchronise_holdings (d : Drive T) (deadline : T) (rounds : Nat) (buffer : Bytes) :
    (d.resynchronise deadline rounds buffer).Leaves Bench.holdings := by
  induction rounds generalizing buffer with
  | zero => exact .raise _
  | succ rounds ih =>
    unfold resynchronise
    split
    · exact .pure _
    · refine .bind (Bench.note_holdings _) fun _ => .bind Bench.readClock_holdings fun now => ?_
      refine .ite (.raise _) (.bind (.relabel (d.awaitBytes_holdings _ _ _)) fun more => ih _)

theorem readReport_holdings (d : Drive T) (wait : Option (Wait T)) (resync : Bool) :
    (d.readReport wait resync).Leaves Bench.holdings := by
  refine .bind Bench.readClock_holdings fun now => .bind (Wait.resolve_holdings _) fun t => ?_
  refine .bind (d.awaitBytes_holdings _ _ _) fun data => ?_
  cases resync with
  | false => exact .map (decode_holdings data)
  | true => exact .bind (.observe _) fun unread => .map (d.resynchronise_holdings _ _ _)

end Drive
end SpindleLink
