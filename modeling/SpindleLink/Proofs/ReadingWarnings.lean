import SpindleLink.Proofs.Conservation
import SpindleLink.Proofs.FailedReadings
import SpindleLink.Proofs.FrameCodecs
import SpindleLink.Proofs.PlainRuns

/-! What a reading says of its failures. It warns of frames that do not come and of frames that are
wrong. It is silent when a question to the channel fails by anything but cut input, and when it
finds its deadline passed while it looks for the next frame. -/

namespace SpindleLink

variable {T : Type}

/-- The faults that receiving ends in on its own: cut input, and none else of the inverter. -/
def CutOrForeign (f : Fault) : Prop := f.isA .cutFrame = true ∨ Foreign f

namespace Line

theorem requireHeld_plainly (l : Line) :
    Act.Plainly (T := T) SameCut Foreign l.requireHeld :=
  .bind (.observe _) fun _ => .require rfl

variable [TimeScale T]

theorem dropWaiting_plainly (l : Line) (fuel dropped : Nat) :
    Act.Plainly (T := T) SameCut Foreign (l.dropWaiting fuel dropped) := by
  induction fuel generalizing dropped with
  | zero => exact .pure _
  | succ fuel ih =>
    refine .bind l.channel.hasWaiting_plainly fun waiting => .ite ?_ (.pure _)
    refine .bind (l.channel.next_plainly (some 0)) fun byte => ?_
    cases byte with
    | none => exact .pure _
    | some b => exact ih (dropped + 1)

theorem discardWaiting_plainly (l : Line) :
    Act.Plainly (T := T) SameCut Foreign l.discardWaiting :=
  .bind l.requireHeld_plainly fun _ => .bind (.observe _) fun _ =>
    .bind (l.dropWaiting_plainly _ _) fun _ =>
      .bind (.onlyIf (.note (by simp [Note.level]))) fun _ => .pure _

theorem collectNext_plainly {l : Line} {wait : Option T} {got : Bytes}
    {go : UInt8 → Act (Bench T) Bytes} (hgo : ∀ b, Act.Plainly SameCut Foreign (go b)) :
    Act.Plainly SameCut Foreign (do
      match ← l.channel.next wait with
      | some b => go b
      | none => pure got) := by
  refine .bind (l.channel.next_plainly wait) fun byte => ?_
  cases byte with
  | none => exact .pure _
  | some b => exact hgo b

theorem collect_plainly (l : Line) (deadline : Option T) (missing : Nat) (got : Bytes) :
    Act.Plainly SameCut Foreign (l.collect deadline missing got) := by
  induction missing generalizing got with
  | zero => exact .pure _
  | succ missing ih =>
    cases deadline with
    | none => exact collectNext_plainly fun b => ih _
    | some d =>
      exact .bind .readClock fun now => .ite (.pure _) (collectNext_plainly fun b => ih _)

theorem deadline_plainly (wait : Option (Wait T)) :
    Act.Plainly (T := T) SameCut Foreign (deadline wait) := by
  cases wait with
  | none => exact .pure _
  | some w =>
    exact Act.Plainly.readClock.bind fun now => w.resolve_plainly.bind fun t => .pure _

theorem receive_plainly (l : Line) (n : Int) (wait : Option (Wait T)) (flush : Bool) :
    Act.Plainly SameCut CutOrForeign (l.receive n wait flush) := by
  have hown {α : Type} {x : Act (Bench T) α} (hx : Act.Plainly SameCut Foreign x) :
      Act.Plainly SameCut CutOrForeign x := hx.mono (fun _ _ h => h) fun _ => .inr
  rw [receive_eq]
  refine .bind (hown l.requireHeld_plainly) fun _ => .bind (.onlyIf (hown ?_)) fun _ => ?_
  · exact .bind l.discardWaiting_plainly fun _ => .pure _
  · refine .bind (hown (deadline_plainly wait)) fun d => ?_
    refine .bind (hown (l.collect_plainly d _ _)) fun got => ?_
    exact .ite (.raise (.inl rfl)) (.bind (.note (by simp [Note.level])) fun _ => .pure _)

/-- What is received in the end is not too short. -/
theorem length_of_receive {l : Line} {n : Int} {wait : Option (Wait T)} {flush : Bool}
    {b b' : Bench T} {data : Bytes} (h : l.receive n wait flush b = (.ok data, b')) :
    n ≤ data.length := by
  rw [receive_eq] at h
  obtain ⟨u, b₁, -, h₁⟩ := Act.of_bind_ok h
  obtain ⟨v, b₂, -, h₂⟩ := Act.of_bind_ok h₁
  obtain ⟨d, b₃, -, h₃⟩ := Act.of_bind_ok h₂
  obtain ⟨got, b₄, -, h₄⟩ := Act.of_bind_ok h₃
  split at h₄
  · cases h₄
  · cases h₄
    omega

end Line

/-- A reading that ends in a fault announces it: no call failed but by cut input, and the deadline
was not found passed on the way to the next frame. -/
def Announces (es : List (Entry T)) (f : Fault) : Prop :=
  (∀ e ∈ es, ∀ g, e.reply = .failed g → g.isA .cutFrame = true) ∧
    ∀ buffer, f ≠ .late .beforeDeadline buffer

theorem announces_append {es fs : List (Entry T)} {f : Fault} (h : Unfailing es) :
    Announces (es ++ fs) f ↔ Announces fs f := by
  refine and_congr_left fun _ => ⟨fun hall e he => hall e (List.mem_append_right es he),
    fun hall e he g hg => ?_⟩
  rcases List.mem_append.mp he with he | he
  · exact absurd hg (h e he g)
  · exact hall e he g hg

/-- A run that warns just of the faults of the inverter that it announces. -/
structure Frank {α : Type} (es : List (Entry T)) (notes : List Note) (r : Except Fault α) :
    Prop where
  ok : ∀ a, r = .ok a → ¬ Warned notes ∧ Unfailing es
  error : WarnsIf Announces es notes r

/-- The faults that a reading may end in without a call and without a word: those that are none of
the inverter, and that of the deadline. -/
def Unspoken (f : Fault) : Prop :=
  f.isA .inverter = true → ∃ buffer, f = .late .beforeDeadline buffer

namespace Plain

variable {es : List (Entry T)} {notes : List Note} {f : Fault}

theorem calls_cut {α : Type} {own : Fault → Prop}
    (h : Plain SameCut own es notes (.error f : Except Fault α)) (hcut : f.isA .cutFrame = true) :
    ∀ e ∈ es, ∀ g, e.reply = .failed g → g.isA .cutFrame = true := by
  intro e he g hg
  obtain ⟨f', hf', hsame⟩ := h.passed e he g hg
  obtain rfl := Except.error.inj hf'
  exact hsame.symm.trans hcut

theorem frank_of_not_cut {α : Type}
    (h : Plain SameCut CutOrForeign es notes (.error f : Except Fault α))
    (hcut : ¬ f.isA .cutFrame = true) : Frank es notes (.error f : Except Fault α) := by
  refine ⟨by simp, ?_⟩
  rintro _ ⟨⟩ hinverter
  refine iff_of_false h.quiet fun hannounced => ?_
  have hes : Unfailing es := fun e he g hg => by
    obtain ⟨f', hf', hsame⟩ := h.passed e he g hg
    obtain rfl := Except.error.inj hf'
    exact hcut (hsame.trans (hannounced.1 e he g hg))
  rcases h.own f rfl hes with hcut' | hforeign
  · exact hcut hcut'
  · rw [hforeign] at hinverter
    cases hinverter

end Plain

namespace Act

variable {α β : Type} {x : Act (Bench T) α} {b : Bench T}

theorem Plainly.frank (h : Plainly (fun _ _ => False) Unspoken x) (b : Bench T) :
    x.Records b Frank := by
  obtain ⟨es, notes, htrace, hlog, hplain⟩ := h b
  have hes : Unfailing es := fun e he g hg => by
    obtain ⟨f, -, hpass⟩ := hplain.passed e he g hg
    exact hpass
  refine ⟨es, notes, htrace, hlog, fun a _ => ⟨hplain.quiet, hes⟩, fun f hf hinverter => ?_⟩
  obtain ⟨buffer, rfl⟩ := hplain.own f hf hes hinverter
  exact iff_of_false hplain.quiet fun h => h.2 buffer rfl

theorem Records.frank_bind {f : α → Act (Bench T) β} (hx : x.Records b Frank)
    (hf : ∀ a b', x b = (.ok a, b') → (f a).Records b' Frank) : (x >>= f).Records b Frank := by
  refine hx.bind (fun es notes e h => ⟨by simp, ?_⟩) fun es notes a b' hrun h => ?_
  · rintro _ ⟨⟩
    exact h.error e rfl
  · obtain ⟨hquiet, hes⟩ := h.ok a rfl
    obtain ⟨fs, more, htrace, hlog, h'⟩ := hf a b' hrun
    refine ⟨fs, more, htrace, hlog, fun a' ha' => ?_, fun f hf hinverter => ?_⟩
    · obtain ⟨hquiet', hfs⟩ := h'.ok a' ha'
      exact ⟨by simp [hquiet, hquiet'], hes.append hfs⟩
    · rw [warned_append, announces_append hes, ← h'.error f hf hinverter]
      simp [hquiet]

theorem Records.frank_map {f : α → β} (hx : x.Records b Frank) : (f <$> x).Records b Frank := by
  rw [map_eq_pure_bind]
  exact hx.frank_bind fun a b' _ => Plainly.frank (.pure (f a)) b'

/-- A fault of the inverter may be told in other words, if not as that of the deadline. -/
theorem Records.frank_relabel {h : Fault → Fault} (hx : x.Records b Frank)
    (hfamily : ∀ f, (h f).isA .inverter = f.isA .inverter)
    (hdeadline : ∀ f, (∃ buffer, h f = .late .beforeDeadline buffer) ↔
      ∃ buffer, f = .late .beforeDeadline buffer) : (x.relabel h).Records b Frank := by
  refine hx.orElse (fun es notes a hfrank => hfrank) fun es notes e b' hfrank => .still rfl rfl ?_
  rw [List.append_nil, List.append_nil]
  refine ⟨by simp, ?_⟩
  rintro _ ⟨⟩ hinverter
  rw [hfrank.error e rfl (hfamily e ▸ hinverter)]
  exact and_congr_right fun _ => by simpa using not_congr (hdeadline e).symm

end Act

namespace Drive

theorem decode_frank {data : Bytes} (h : FrameKind.status.size ≤ data.length) (b : Bench T) :
    (decode data).Records b Frank := by
  cases hread : Status.decode data with
  | ok frame =>
    rw [decode, hread]
    exact Act.Plainly.frank (.pure frame) b
  | error defect =>
    have hlong := Status.isShort_of_decode h hread
    have hrun : decode data b = (.error (.defect defect),
        { b with log := b.log ++ [.statusRejected data (.defect defect)] }) := by
      rw [decode, hread]
      simp only [Act.onlyIf, if_pos hlong]
      rfl
    rw [Act.Records, hrun]
    refine ⟨[], [_], (List.append_nil _).symm, rfl, by simp, ?_⟩
    rintro _ ⟨⟩ -
    exact iff_of_true (by simp [Note.level]) ⟨by simp, by simp⟩

variable [TimeScale T]

theorem missing_records (wait : Wait T) (f : Fault) (b : Bench T) :
    (do
      let shown := TimeScale.thousandths (← wait.resolve)
      Bench.note (.statusMissing shown f.received.length)
      .raise (.late (.within shown) f.received) : Act (Bench T) Bytes).Records b
      fun es notes r => es = [] ∧ ((∃ a, notes = [] ∧ r = .error (.arithmetic a)) ∨
        ∃ shown, notes = [.statusMissing shown f.received.length] ∧
          r = .error (.late (.within shown) f.received)) := by
  cases htime : wait.toTime with
  | error a =>
    rw [Act.Records, Act.bind_error (Wait.resolve_of_error htime b)]
    exact ⟨[], [], (List.append_nil _).symm, (List.append_nil _).symm, rfl, .inl ⟨a, rfl, rfl⟩⟩
  | ok t =>
    rw [Act.Records, Act.bind_ok (Wait.resolve_of_toTime htime b)]
    exact ⟨[], [_], (List.append_nil _).symm, rfl, rfl, .inr ⟨_, rfl, rfl⟩⟩

/-- Cut input is noted as a frame that is missing; any other fault is passed on without a word. -/
theorem awaitBytes_frank (d : Drive T) (wait : Wait T) (count : Nat) (flush : Bool)
    (b : Bench T) : (d.awaitBytes wait count flush).Records b Frank := by
  refine (d.line.receive_plainly count (some wait) flush b).orElse (fun es notes data h => ?_)
    fun es notes f b' h => ?_
  · exact ⟨fun _ _ => ⟨h.quiet, h.unfailing⟩, by rintro _ ⟨⟩⟩
  · by_cases hcut : f.isA .cutFrame = true
    · rw [if_pos hcut]
      obtain ⟨_, more, htrace, hlog, rfl, hmissing⟩ := missing_records wait f b'
      refine ⟨[], more, htrace, hlog, ?_⟩
      change Frank (es ++ []) (notes ++ more) _
      rw [List.append_nil]
      rcases hmissing with ⟨a, rfl, hr⟩ | ⟨shown, rfl, hr⟩
      · rw [hr]
        refine ⟨by simp, ?_⟩
        rintro _ ⟨⟩ hinverter
        rw [foreign_arithmetic a] at hinverter
        cases hinverter
      · rw [hr]
        refine ⟨by simp, ?_⟩
        rintro _ ⟨⟩ -
        exact iff_of_true (by simp [Note.level]) ⟨h.calls_cut hcut, by simp⟩
    · rw [if_neg hcut]
      refine .still rfl rfl ?_
      rw [List.append_nil, List.append_nil]
      exact h.frank_of_not_cut hcut

theorem length_of_awaitBytes {d : Drive T} {wait : Wait T} {count : Nat} {flush : Bool}
    {b b' : Bench T} {data : Bytes} (h : d.awaitBytes wait count flush b = (.ok data, b')) :
    count ≤ data.length := by
  rcases hrun : d.line.receive count (some wait) flush b with ⟨f | data', b₁⟩
  · rw [awaitBytes, Act.orElse_error hrun] at h
    split at h
    · obtain ⟨t, b₂, -, h₁⟩ := Act.of_bind_ok h
      obtain ⟨u, b₃, -, h₂⟩ := Act.of_bind_ok h₁
      cases h₂
    · cases h
  · rw [awaitBytes, Act.orElse_ok hrun] at h
    cases h
    exact Int.ofNat_le.mp (Line.length_of_receive hrun)

section Retold

variable {rest : Bytes} (f : Fault)

theorem isA_retold : (if f.isA .late then .late (lateness f) (rest ++ f.received) else f :
    Fault).isA .inverter = f.isA .inverter := by
  split
  next hlate =>
    rw [Fault.inverter_of_late hlate]
    rfl
  next => rfl

theorem late_retold : (∃ buffer,
    (if f.isA .late then .late (lateness f) (rest ++ f.received) else f : Fault) =
      .late .beforeDeadline buffer) ↔ ∃ buffer, f = .late .beforeDeadline buffer := by
  split
  next => cases f <;> simp [lateness]
  next => rfl

end Retold

theorem readSpeed_frank (d : Drive T) (wait : Option (Wait T)) (b : Bench T) :
    (d.readSpeed wait).Records b Frank :=
  (d.awaitBytes_frank _ _ _ b).frank_bind fun _ b' hrun =>
    (decode_frank (length_of_awaitBytes hrun) b').frank_map

/-- Looking for the next frame is silent only where its deadline is found passed. -/
theorem resynchronise_frank (d : Drive T) (deadline : T) (rounds : Nat) (buffer : Bytes)
    (b : Bench T) : (d.resynchronise deadline rounds buffer).Records b Frank := by
  induction rounds generalizing buffer b with
  | zero => exact Act.Plainly.frank (.raise fun _ => ⟨_, rfl⟩) b
  | succ rounds ih =>
    unfold resynchronise
    split
    · exact Act.Plainly.frank (.pure _) b
    · refine (Act.Plainly.frank (.note (by simp [Note.level])) b).frank_bind fun _ b₁ _ => ?_
      refine (Act.Plainly.frank .readClock b₁).frank_bind fun now b₂ _ => ?_
      by_cases hpassed : deadline - now ≤ 0
      · simp only [if_pos hpassed]
        exact Act.Plainly.frank (.raise fun _ => ⟨_, rfl⟩) b₂
      · simp only [if_neg hpassed]
        refine Act.Records.frank_bind ?_ fun more b₃ _ => ih _ b₃
        exact (d.awaitBytes_frank _ _ _ b₂).frank_relabel isA_retold late_retold

theorem readReport_frank (d : Drive T) (wait : Option (Wait T)) (resync : Bool) (b : Bench T) :
    (d.readReport wait resync).Records b Frank := by
  rw [readReport]
  refine (Act.Plainly.frank .readClock b).frank_bind fun now b₁ _ => ?_
  refine (Act.Plainly.frank ((wait.getD d.readTimeout).resolve_plainly.mono (fun _ _ h => h)
    fun f hf h => ?_) b₁).frank_bind fun t b₂ _ => ?_
  · rw [hf] at h
    cases h
  refine (d.awaitBytes_frank _ _ _ b₂).frank_bind fun data b₃ hrun => ?_
  cases resync with
  | false => exact (decode_frank (length_of_awaitBytes hrun) b₃).frank_map
  | true =>
    refine (Act.Plainly.frank (.observe _) b₃).frank_bind fun unread b₄ _ => ?_
    exact (d.resynchronise_frank _ _ _ b₄).frank_map

end Drive
end SpindleLink
