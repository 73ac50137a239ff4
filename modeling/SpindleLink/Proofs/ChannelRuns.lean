import SpindleLink.Proofs.ChannelPorts
import SpindleLink.Proofs.DriveOrders

/-! Serial channels over whole runs. A channel is connected from an opening that returns to the next
closing, however that ends. Traffic never connects or disconnects it, not even when it fails, and
without a connection nothing reaches the device but an opening. -/

namespace SpindleLink

def Adjustment.unplugs (c : SerialChannel) : Adjustment → Bool
  | .unplug c' => c'.id = c.id
  | _ => false

theorem Adjustment.plug?_apply (c : SerialChannel) (change : Adjustment) (b : Bench Float) :
    c.plug? (change.apply b) =
      if change.unplugs c then (c.plug? b).map fun _ => false else c.plug? b := by
  cases change with
  | unplug c' =>
    by_cases hid : c'.id = c.id
    · simp [SerialChannel.plug?, apply, unplugs, Table.update, hid, Function.comp_def]
    · simp [SerialChannel.plug?, apply, unplugs, Table.update, hid, Table.get_set]
  | _ => rfl

namespace Step

/-- What a step asks of a channel. Channels go by their number. -/
def asked? (c : SerialChannel) : Step → Option ChannelStep
  | .channel c' step => if c'.id = c.id then some step else none
  | _ => none

/-- Steps of serial channels, and changes around them that leave one of them plugged in: to pull its
plug is no failure of a call, and disconnects it without one. -/
def Serves (c : SerialChannel) : Step → Prop
  | .channel _ _ => True
  | .adjust changes => ∀ change ∈ changes, change.unplugs c = false
  | _ => False

end Step

namespace Moment

variable {c : SerialChannel} {m : Moment}

/-- An opening of a channel that returned. -/
def Opens (m : Moment) (c : SerialChannel) : Prop :=
  m.step.asked? c = some .open ∧ m.returned = true

/-- A closing of a channel, however it ended. -/
def Closes (m : Moment) (c : SerialChannel) : Prop := m.step.asked? c = some .close

def Raises (m : Moment) (f : Fault) (kind : Kind) : Prop :=
  m.record.outcome = .error f ∧ f.kind = kind

theorem raises_of_ofDevice {wrap : Fault → Fault} {kind : Kind} {f : Fault}
    (hkind : (wrap f).kind = kind)
    (h : m.record.outcome = .error (SerialChannel.ofDevice wrap f)) :
    if f.isA .serial then m.Raises (wrap f) kind else m.record.outcome = .error f := by
  rw [SerialChannel.ofDevice] at h
  split
  next hserial =>
    rw [if_pos hserial] at h
    exact ⟨h, hkind⟩
  next hserial =>
    rw [if_neg hserial] at h
    exact h

theorem channel_of_asked {step : ChannelStep} (h : m.step.asked? c = some step) :
    ∃ c', m.step = .channel c' step ∧ c'.id = c.id := by
  unfold Step.asked? at h
  split at h
  · rename_i c' step' hstep
    split at h
    · rename_i hid
      obtain rfl := Option.some.inj h
      exact ⟨c', hstep, hid⟩
    · cases h
  · cases h

end Moment

namespace Session

variable {c : SerialChannel} {m : Moment}

theorem channelStep_open (c : SerialChannel) (b : Bench Float) :
    channelStep c .open b = ((c.open b).1.map fun _ => .nothing, (c.open b).2) := by
  rw [channelStep, ← Act.map_apply, map_eq_pure_bind]

theorem channelStep_close (c : SerialChannel) (b : Bench Float) :
    channelStep c .close b = ((c.close b).1.map fun _ => .nothing, (c.close b).2) := by
  rw [channelStep, ← Act.map_apply, map_eq_pure_bind]

theorem bench_open (s : Session) (c : SerialChannel) :
    (s.step (.channel c .open)).2.station.bench = (c.open s.station.bench).2 :=
  congrArg Prod.snd (channelStep_open c s.station.bench)

theorem bench_close (s : Session) (c : SerialChannel) :
    (s.step (.channel c .close)).2.station.bench = (c.close s.station.bench).2 :=
  congrArg Prod.snd (channelStep_close c s.station.bench)

theorem outcome_open (s : Session) (c : SerialChannel) :
    (s.step (.channel c .open)).1.outcome = (c.open s.station.bench).1.map fun _ => .nothing :=
  congrArg Prod.fst (channelStep_open c s.station.bench)

theorem returned_open (s : Session) (c : SerialChannel) :
    Moment.returned ⟨s, .channel c .open⟩ = (c.open s.station.bench).1.isOk := by
  rw [Moment.returned, Moment.record, outcome_open]
  cases (c.open s.station.bench).1 <;> rfl

theorem plug?_of_opens (h : m.Opens c) : c.plug? m.after.station.bench = some true := by
  obtain ⟨c', hstep, hid⟩ := Moment.channel_of_asked h.1
  obtain ⟨s, x⟩ := m
  obtain rfl : x = .channel c' .open := hstep
  have hreturned := h.2
  rw [returned_open] at hreturned
  rw [← SerialChannel.plug?_congr hid, Moment.after, bench_open, c'.plug?_open, if_pos hreturned]

theorem plug?_of_closes (h : m.Closes c) : c.plug? m.after.station.bench = none := by
  obtain ⟨c', hstep, hid⟩ := Moment.channel_of_asked h
  obtain ⟨s, x⟩ := m
  obtain rfl : x = .channel c' .close := hstep
  rw [← SerialChannel.plug?_congr hid, Moment.after, bench_close, c'.plug?_close]

theorem plug?_of_adjust {changes : List Adjustment}
    (h : ∀ change ∈ changes, change.unplugs c = false) (b : Bench Float) :
    c.plug? (changes.foldl Adjustment.apply b) = c.plug? b := by
  induction changes generalizing b with
  | nil => rfl
  | cons change changes ih =>
    rw [List.foldl_cons, ih fun x hx => h x (List.mem_cons_of_mem _ hx), change.plug?_apply,
      h change List.mem_cons_self]
    rfl

theorem plug?_kept (hserves : m.step.Serves c) (hopens : ¬ m.Opens c) (hcloses : ¬ m.Closes c) :
    c.plug? m.after.station.bench = c.plug? m.before.station.bench := by
  obtain ⟨s, x⟩ := m
  cases x with
  | adjust changes => exact plug?_of_adjust hserves s.station.bench
  | channel c' step =>
    by_cases hopen : step = .open
    · subst hopen
      rw [Moment.after, bench_open]
      by_cases hid : c'.id = c.id
      · have hraised : ¬ (c'.open s.station.bench).1.isOk = true := by
          intro hok
          exact hopens ⟨if_pos hid, (returned_open s c').trans hok⟩
        rw [← SerialChannel.plug?_congr hid, c'.plug?_open, if_neg hraised,
          SerialChannel.plug?_congr hid]
      · exact SerialChannel.open_plug?_of_ne hid s.station.bench
    · by_cases hclose : step = .close
      · subst hclose
        have hid : c'.id ≠ c.id := fun hid => hcloses (if_pos hid)
        rw [Moment.after, bench_close]
        exact SerialChannel.close_plug?_of_ne hid s.station.bench
      · exact channelStep_plug? c c' hopen hclose s.station.bench
  | newLine _ _ _ _ => exact hserves.elim
  | newDrive _ _ _ => exact hserves.elim
  | line _ _ => exact hserves.elim
  | direction _ _ => exact hserves.elim
  | drive _ _ => exact hserves.elim
  | tool _ => exact hserves.elim

/-- Some opening of a channel returned, and no closing was called since. -/
def StandsOpen (c : SerialChannel) (ms : List Moment) : Prop :=
  ∃ earlier m later, ms = earlier ++ m :: later ∧ m.Opens c ∧ ∀ m' ∈ later, ¬ m'.Closes c

theorem standsOpen_concat (ms : List Moment) :
    StandsOpen c (ms ++ [m]) ↔ m.Opens c ∨ StandsOpen c ms ∧ ¬ m.Closes c := by
  constructor
  · rintro ⟨earlier, m', later, hms, hopens, hlater⟩
    -- The last moment is the opening itself, or the last of those behind it.
    rcases List.eq_nil_or_concat later with rfl | ⟨later, x, rfl⟩
    · obtain ⟨-, hm⟩ := List.append_inj' hms rfl
      obtain rfl := List.singleton_inj.mp hm
      exact .inl hopens
    · rw [List.concat_eq_append, ← List.cons_append, ← List.append_assoc] at hms
      obtain ⟨rfl, hm⟩ := List.append_inj' hms rfl
      obtain rfl := List.singleton_inj.mp hm
      exact .inr ⟨⟨earlier, m', later, rfl, hopens, fun y hy => hlater y (by simp [hy])⟩,
        hlater m (by simp)⟩
  · rintro (hopens | ⟨⟨earlier, m', later, rfl, hopens, hlater⟩, hcloses⟩)
    · exact ⟨ms, m, [], rfl, hopens, by simp⟩
    · refine ⟨earlier, m', later ++ [m], by simp, hopens, ?_⟩
      intro y hy
      rcases List.mem_append.mp hy with hy | hy
      · exact hlater y hy
      · rw [List.mem_singleton.mp hy]
        exact hcloses

/-- The port of a channel after some moments: open if the channel stands open, and else none. -/
def PortBehind (c : SerialChannel) (ms : List Moment) (b : Bench Float) : Prop :=
  StandsOpen c ms ∧ c.plug? b = some true ∨ ¬ StandsOpen c ms ∧ c.plug? b = none

theorem portBehind_step {ms : List Moment} (hserves : m.step.Serves c)
    (h : PortBehind c ms m.before.station.bench) :
    PortBehind c (ms ++ [m]) m.after.station.bench := by
  unfold PortBehind at h ⊢
  rw [standsOpen_concat]
  by_cases hopens : m.Opens c
  · exact .inl ⟨.inl hopens, plug?_of_opens hopens⟩
  · by_cases hcloses : m.Closes c
    · refine .inr ⟨?_, plug?_of_closes hcloses⟩
      rintro (hopens' | ⟨-, hcloses'⟩)
      · exact hopens hopens'
      · exact hcloses' hcloses
    · rw [plug?_kept hserves hopens hcloses]
      simpa only [hopens, hcloses, false_or, not_false_eq_true, and_true] using h

theorem portBehind_run {s : Session} {ms : List Moment} (hstart : PortBehind c ms s.station.bench)
    {steps : List Step} (h : ∀ x ∈ steps, x.Serves c) :
    PortBehind c (ms ++ s.history steps) (s.run steps).2.station.bench := by
  -- The moments behind grow as the steps to come are used up.
  induction steps generalizing s ms with
  | nil =>
    rw [history, List.append_nil]
    exact hstart
  | cons x xs ih =>
    have hx : x.Serves c := h x List.mem_cons_self
    have hnext := ih (portBehind_step (m := ⟨s, x⟩) hx hstart) fun y hy =>
      h y (List.mem_cons_of_mem x hy)
    rw [List.append_assoc] at hnext
    exact hnext

theorem history_steps (s : Session) (steps : List Step) :
    (s.history steps).map Moment.step = steps := by
  induction steps generalizing s with
  | nil => rfl
  | cons x xs ih => rw [history, List.map_cons, ih]

theorem PortBehind.connected_iff {ms : List Moment} {b : Bench Float} (h : PortBehind c ms b) :
    c.connected b = true ↔ StandsOpen c ms := by
  rw [SerialChannel.connected_iff]
  rcases h with ⟨hstands, hplug⟩ | ⟨hnot, hplug⟩
  · simp [hstands, hplug]
  · simp [hnot, hplug]

theorem PortBehind.without_port {ms : List Moment} {b : Bench Float} (h : PortBehind c ms b)
    (hconnected : c.connected b = false) : (b.ports.get c.id).isSome = false := by
  rcases h with ⟨-, hplug⟩ | ⟨-, hplug⟩
  · rw [SerialChannel.connected_iff.mpr hplug] at hconnected
    cases hconnected
  · rw [SerialChannel.plug?, Option.map_eq_none_iff] at hplug
    rw [hplug]
    rfl

theorem plug?_begin (c : SerialChannel) (start clockStep : Float) (resources : Nat)
    (env : Settings.Environment) (changes : List Adjustment) :
    c.plug? (begin start clockStep resources env changes).station.bench = none := by
  have hchanges (b : Bench Float) (h : c.plug? b = none) :
      c.plug? (changes.foldl Adjustment.apply b) = none := by
    induction changes generalizing b with
    | nil => exact h
    | cons change changes ih =>
      refine ih (change.apply b) ?_
      rw [change.plug?_apply, h]
      exact ite_self none
  exact hchanges _ rfl

end Session

/-- What a step does about a channel. To open it when it is connected and to close it when it is not
does nothing at all. An opening that raises called the device once, which failed, and leaves the
channel unconnected. Without a connection its port cannot be used, and no call is made. With one,
a fault of the serial device in traffic becomes a fault of the link, and the connection stays. -/
structure Moment.Attends (m : Moment) (c : SerialChannel) : Prop where
  openedAgain : m.step = .channel c .open → c.connected m.before.station.bench = true →
    m.returned = true ∧ m.calls = [] ∧ m.after = m.before
  refused : m.step = .channel c .open → m.returned = false →
    c.connected m.after.station.bench = false ∧
      ∃ f, m.calls.map Entry.did = [(.portOpen c.name c.baud, .failed f)] ∧
        if f.isA .serial then m.Raises (.portRefused c.name c.baud f) .connection
        else m.record.outcome = .error f
  closedAgain : m.step = .channel c .close → c.connected m.before.station.bench = false →
    m.returned = true ∧ m.calls = [] ∧ m.after = m.before
  closed : m.step = .channel c .close → c.connected m.after.station.bench = false
  shut : ∀ step, m.step = .channel c step → step.usesPort = true →
    c.connected m.before.station.bench = false →
    m.Raises (.portNotOpen c.name) .connection ∧ m.calls = [] ∧ m.after = m.before
  kept : ∀ step, m.step = .channel c step → step.usesPort = true →
    c.connected m.after.station.bench = c.connected m.before.station.bench
  failed : ∀ step wrap, m.step = .channel c step → step.wrap? c = some wrap →
    ∀ e ∈ m.calls, ∀ f, e.reply = .failed f →
      if f.isA .serial then m.Raises (wrap f) .transport else m.record.outcome = .error f

namespace Session

variable {c : SerialChannel}

theorem step_still {s : Session} {x : Step} {r : Except Fault Outcome}
    (h : perform x s = (r, s)) :
    (s.step x).1.outcome = r ∧ (s.step x).1.calls = [] ∧ (s.step x).2 = s := by
  refine ⟨congrArg Prod.fst h, calls_step ?_, congrArg Prod.snd h⟩
  rw [h]
  exact .refl _

theorem channel_still {s : Session} {step : ChannelStep} {r : Except Fault Outcome}
    (h : channelStep c step s.station.bench = (r, s.station.bench)) :
    (s.step (.channel c step)).1.outcome = r ∧ (s.step (.channel c step)).1.calls = [] ∧
      (s.step (.channel c step)).2 = s :=
  step_still (onBench_eq h)

theorem open_again {s : Session} (h : c.connected s.station.bench = true) :
    Moment.returned ⟨s, .channel c .open⟩ = true ∧ Moment.calls ⟨s, .channel c .open⟩ = [] ∧
      Moment.after ⟨s, .channel c .open⟩ = s := by
  have hrun : channelStep c .open s.station.bench = (.ok .nothing, s.station.bench) :=
    Act.bind_ok (SerialChannel.open_connected h)
  exact ⟨Moment.returned_of_ok (onBench_eq hrun), (channel_still hrun).2⟩

theorem close_again {s : Session} (h : (s.station.bench.ports.get c.id).isSome = false) :
    Moment.returned ⟨s, .channel c .close⟩ = true ∧ Moment.calls ⟨s, .channel c .close⟩ = [] ∧
      Moment.after ⟨s, .channel c .close⟩ = s := by
  have hrun : channelStep c .close s.station.bench = (.ok .nothing, s.station.bench) :=
    Act.bind_ok (SerialChannel.close_without_port h)
  exact ⟨Moment.returned_of_ok (onBench_eq hrun), (channel_still hrun).2⟩

/-- An opening raises only without a connection, where the call to the device fails. -/
theorem fault_of_refused {s : Session} (h : Moment.returned ⟨s, .channel c .open⟩ = false) :
    c.connected s.station.bench = false ∧
      ∃ f, (s.station.bench.plans.get .portOpen).current = some f := by
  cases hconnected : c.connected s.station.bench with
  | true =>
    rw [(open_again hconnected).1] at h
    cases h
  | false =>
    rcases hplan : (s.station.bench.plans.get .portOpen).current with _ | f
    · rw [returned_open, (SerialChannel.open_of_clear hconnected hplan).1] at h
      cases h
    · exact ⟨rfl, f, rfl⟩

theorem open_refused {s : Session} (h : Moment.returned ⟨s, .channel c .open⟩ = false) :
    c.connected (Moment.after ⟨s, .channel c .open⟩).station.bench = false ∧
      ∃ f, (Moment.calls ⟨s, .channel c .open⟩).map Entry.did =
          [(.portOpen c.name c.baud, .failed f)] ∧
        if f.isA .serial then
          Moment.Raises ⟨s, .channel c .open⟩ (.portRefused c.name c.baud f) .connection
        else (Moment.record ⟨s, .channel c .open⟩).outcome = .error f := by
  obtain ⟨hconnected, f, hplan⟩ := fault_of_refused h
  have hopen := SerialChannel.open_of_fault hconnected hplan
  have houtcome : (Moment.record ⟨s, .channel c .open⟩).outcome =
      .error (SerialChannel.ofDevice (.portRefused c.name c.baud) f) := by
    rw [Moment.record, outcome_open, hopen]
    rfl
  have hbench : (Moment.after ⟨s, .channel c .open⟩).station.bench =
      (s.station.bench.counted (.portOpen c.name c.baud)).record
        (.portOpen c.name c.baud) (.failed f) := by
    rw [Moment.after, bench_open, hopen]
  have hgrew : s.station.bench.Grew (Moment.after ⟨s, .channel c .open⟩).station.bench
      [⟨s.station.bench.now, .portOpen c.name c.baud, .failed f⟩] := by
    rw [hbench]
    exact .of_same rfl rfl rfl
  have hcalls : Moment.calls ⟨s, .channel c .open⟩ =
      [⟨s.station.bench.now, .portOpen c.name c.baud, .failed f⟩] := calls_step hgrew
  refine ⟨?_, f, by rw [hcalls]; rfl, Moment.raises_of_ofDevice rfl houtcome⟩
  rw [hbench]
  exact hconnected

theorem connected_kept (s : Session) {step : ChannelStep} (h : step.usesPort = true) :
    c.connected (Moment.after ⟨s, .channel c step⟩).station.bench =
      c.connected s.station.bench := by
  have hplug : c.plug? (channelStep c step s.station.bench).2 = c.plug? s.station.bench :=
    channelStep_plug? c c (by rintro rfl; cases h) (by rintro rfl; cases h) s.station.bench
  rw [Bool.eq_iff_iff, SerialChannel.connected_iff, SerialChannel.connected_iff, ← hplug]
  rfl

/-- A call of traffic that fails ends the step, and the channel tells why. -/
theorem outcome_of_failed {s : Session} {step : ChannelStep} {wrap : Fault → Fault}
    (h : step.wrap? c = some wrap) {e : Entry Float}
    (he : e ∈ Moment.calls ⟨s, .channel c step⟩) {f : Fault} (hf : e.reply = .failed f) :
    (Moment.record ⟨s, .channel c step⟩).outcome = .error (SerialChannel.ofDevice wrap f) := by
  obtain ⟨es, hgrew, hblames⟩ := channelStep_blaming h s.station.bench
  have hcalls : Moment.calls ⟨s, .channel c step⟩ = es := calls_step hgrew
  have hfailed : e.failed = true := by rw [Entry.failed, hf]
  obtain ⟨g, houtcome, f', hf', rfl⟩ := hblames e (hcalls ▸ he) hfailed
  obtain rfl : f' = f := Reply.failed.inj (hf'.symm.trans hf)
  exact houtcome

theorem moment_attends {m : Moment} {ms : List Moment}
    (h : PortBehind c ms m.before.station.bench) : m.Attends c := by
  obtain ⟨s, x⟩ := m
  constructor
  case openedAgain =>
    rintro rfl hconnected
    exact open_again hconnected
  case refused =>
    rintro rfl hreturned
    exact open_refused hreturned
  case closedAgain =>
    rintro rfl hconnected
    exact close_again (h.without_port hconnected)
  case closed =>
    rintro rfl
    rw [Moment.after, bench_close]
    exact SerialChannel.connected_eq_false (c.port_close _)
  case shut =>
    rintro step rfl huses hconnected
    obtain ⟨houtcome, hcalls, hafter⟩ := channel_still (channelStep_shut huses hconnected)
    exact ⟨⟨houtcome, rfl⟩, hcalls, hafter⟩
  case kept =>
    rintro step rfl huses
    exact connected_kept s huses
  case failed =>
    rintro step wrap rfl hwrap e he f hf
    exact Moment.raises_of_ofDevice (ChannelStep.kind_of_wrap? hwrap f)
      (outcome_of_failed hwrap he hf)

/-- Over any run of steps of serial channels, with any failures of the device: at every moment, and
in the end, a channel that keeps its plug is connected exactly when some opening of it returned and
no closing was called since, and each step attends to that. -/
theorem history_attended (start clockStep : Float) (resources : Nat) (env : Settings.Environment)
    (changes : List Adjustment) {steps : List Step} {c : SerialChannel}
    (h : ∀ x ∈ steps, x.Serves c) :
    let s := begin start clockStep resources env changes
    (c.connected (s.run steps).2.station.bench = true ↔ StandsOpen c (s.history steps)) ∧
      ∀ earlier m later, s.history steps = earlier ++ m :: later →
        (c.connected m.before.station.bench = true ↔ StandsOpen c earlier) ∧ m.Attends c := by
  intro s
  have hstart : PortBehind c [] s.station.bench :=
    .inr ⟨by simp [StandsOpen], plug?_begin c start clockStep resources env changes⟩
  refine ⟨(portBehind_run hstart h).connected_iff, fun earlier m later hsplit => ?_⟩
  obtain ⟨xs, rfl, hbefore⟩ := before_of_history hsplit
  have hxs : ∀ x ∈ xs, x.Serves c := by
    intro x hx
    apply h x
    rw [← s.history_steps steps, hsplit, List.map_append, s.history_steps xs]
    exact List.mem_append_left _ hx
  have hport : PortBehind c (s.history xs) m.before.station.bench :=
    hbefore ▸ portBehind_run hstart hxs
  exact ⟨hport.connected_iff, moment_attends hport⟩

/-- A channel on a balky device: the first opening fails, every flush fails, and every closing is
interrupted. -/
def balky (c : SerialChannel) : List Step :=
  [.adjust [.plan .portOpen ⟨0, fun n => if n = 0 then some (.raised .serial "busy") else none⟩,
      .plan .portFlush (.after 0 (.raised .serial "gone")),
      .plan .portClose (.after 0 (.raised .interrupt ""))],
    .channel c .open, .channel c .hasWaiting, .channel c .open, .channel c (.write [0x55]),
    .channel c .close, .channel c (.next none)]

/-- It stands open until the closing that is interrupted, and not behind it. -/
theorem history_attended_balky :
    let c : SerialChannel := ⟨0, SerialChannel.defaultName, SerialChannel.defaultBaud⟩
    let s := begin 0 0 1 [] []
    (∀ x ∈ balky c, x.Serves c) ∧ ¬ StandsOpen c (s.history (balky c)) ∧
      ∃ earlier m later, s.history (balky c) = earlier ++ m :: later ∧
        m.step = .channel c .close ∧ m.returned = false ∧ StandsOpen c earlier ∧ m.Attends c := by
  intro c s
  have hserves : ∀ x ∈ balky c, x.Serves c := by
    simp [balky, Step.Serves, Adjustment.unplugs]
  obtain ⟨hend, hmoments⟩ := history_attended 0 0 1 [] [] hserves
  refine ⟨hserves, fun hstands => ?_, ?_⟩
  · have hconnected : c.connected (s.run (balky c)).2.station.bench = false := by decide +kernel
    rw [hend.mpr hstands] at hconnected
    cases hconnected
  · let before := (s.run ((balky c).take 5)).2
    have hsplit : s.history (balky c) = s.history ((balky c).take 5) ++
        ⟨before, .channel c .close⟩ ::
          (before.step (.channel c .close)).2.history [.channel c (.next none)] := rfl
    obtain ⟨hconnected, hattends⟩ := hmoments _ _ _ hsplit
    exact ⟨_, _, _, hsplit, rfl, by decide +kernel, hconnected.mp (by decide +kernel), hattends⟩

end Session
end SpindleLink
