import SpindleLink.Proofs.Connecting
import SpindleLink.Proofs.Disconnecting
import SpindleLink.Proofs.DriveOrders

/-! The states that a station can be in: it starts disconnected, its tools are called, and things
change around it. In all of them the link is sound: its line stands on its channel, and owns nothing
once it is released. So a disconnecting gives up everything, in whatever state it is asked for. -/

namespace SpindleLink

structure Link.Sound (link : Link) (b : Bench Float) : Prop where
  channel : link.drive.line.channel = .serial link.channel
  numbered : link.drive.line.id < b.nextId
  released : link.drive.line.isReleased b = true →
    link.drive.line.channel.resource ∉ b.owned ∧ link.drive.line.direction.resource ∉ b.owned

theorem Link.Sound.congr {link link' : Link} {b b' : Bench Float} (h : link.Sound b)
    (hb : b'.holdings = b.holdings) (hchannel : link'.channel = link.channel)
    (hline : link'.drive.line = link.drive.line) : link'.Sound b' := by
  simp only [Bench.holdings, Prod.mk.injEq] at hb
  obtain ⟨howned, hreleased, hnext⟩ := hb
  refine ⟨?_, ?_, ?_⟩
  · rw [hline, hchannel, h.channel]
  · rw [hline, hnext]
    exact h.numbered
  · rw [hline, howned, Line.isReleased, hreleased]
    exact h.released

theorem Link.Sound.not_owned {link : Link} {b : Bench Float} (h : link.Sound b) :
    link.drive.line.channel.resource ∉ (link.drive.line.release b).2.owned ∧
      link.drive.line.direction.resource ∉ (link.drive.line.release b).2.owned := by
  have howned := congrArg Prod.fst (link.drive.line.holdings_release b)
  cases hreleased : link.drive.line.isReleased b with
  | true =>
    have hsame : (link.drive.line.release b).2.owned = b.owned := by
      simpa [hreleased, Bench.holdings] using howned
    rw [hsame]
    exact h.released hreleased
  | false =>
    have hless : (link.drive.line.release b).2.owned = (link.drive.line.giveUp b).owned := by
      simpa [hreleased, Bench.holdings] using howned
    rw [hless]
    simp [Line.giveUp]

theorem Adjustment.holdings_apply (change : Adjustment) (b : Bench Float) :
    (change.apply b).holdings = b.holdings := by
  cases change <;> rfl

def ToolStep.links : ToolStep → Bool
  | connect _ | disconnect => true
  | _ => false

namespace Station

def line? (st : Station) : Option Line := st.link.map fun link => link.drive.line

/-- What is held on the bench, and the channel and the line of the link. -/
def books (st : Station) : (List Resource × List Nat × Nat) × Option SerialChannel × Option Line :=
  (st.bench.holdings, st.link.map Link.channel, st.line?)

structure Sound (st : Station) : Prop where
  numbered : ∀ id ∈ st.bench.releasedLines, id < st.bench.nextId
  linked : ∀ link, st.link = some link → link.Sound st.bench

/-- The states that a station can get into from a disconnected one. -/
inductive Reachable : Station → Prop
  | start {b : Bench Float} (hb : ∀ id ∈ b.releasedLines, id < b.nextId) : Reachable ⟨b, none⟩
  | tool {st : Station} (h : Reachable st) (env : Settings.Environment) (step : ToolStep) :
    Reachable (Session.toolStep env step st).2
  | adjust {st : Station} (h : Reachable st) (change : Adjustment) :
    Reachable { st with bench := change.apply st.bench }

theorem Sound.disconnected {b b' : Bench Float} (h : ∀ id ∈ b.releasedLines, id < b.nextId)
    (hb : b.SameHolders b') : Sound ⟨b', none⟩ := by
  refine ⟨fun id hid => ?_, by simp⟩
  have hid' : id ∈ b.releasedLines := hb.released ▸ hid
  exact Nat.lt_of_lt_of_le (h id hid') hb.numbers

theorem Sound.of_books {st st' : Station} (h : st.Sound) (hbooks : st'.books = st.books) :
    st'.Sound := by
  simp only [books, Prod.mk.injEq] at hbooks
  obtain ⟨hb, hchannels, hlines⟩ := hbooks
  refine ⟨?_, fun l' hl' => ?_⟩
  · have hnumbered := h.numbered
    simp only [Bench.holdings, Prod.mk.injEq] at hb
    rw [hb.2.1, hb.2.2]
    exact hnumbered
  · rw [hl'] at hchannels
    obtain ⟨l, hsome, hchannel⟩ := Option.map_eq_some_iff.mp hchannels.symm
    have hline : l'.drive.line = l.drive.line := by simpa [line?, hl', hsome] using hlines
    exact (h.linked l hsome).congr hb hchannel.symm hline

theorem sound_adjust {st : Station} (h : st.Sound) (change : Adjustment) :
    Sound { st with bench := change.apply st.bench } := by
  apply h.of_books
  rw [books, change.holdings_apply]
  rfl

theorem already_of_linked {st : Station} {link : Link} (hlink : st.link = some link)
    (env : Settings.Environment) (given : Settings.Overrides) :
    connect env given st = (.ok (.alreadyConnected link.settings.port), st) := by
  rw [connect, Act.bind_ok (Act.observe_apply _ st), hlink]
  rfl

/-- A line that is made has a number above those of the released lines. -/
theorem sound_connect {st : Station} (h : st.Sound) (env : Settings.Environment)
    (given : Settings.Overrides) : (connect env given st).2.Sound := by
  cases hlink : st.link with
  | some link =>
    rw [already_of_linked hlink]
    exact h
  | none =>
    rcases connect_cases env given hlink with
      ⟨b, hconnect, hholders⟩ | ⟨link, b, hconnect, hchannel, htook⟩
    · rw [hconnect]
      exact .disconnected h.numbered hholders
    · rw [hconnect]
      have hheld : ∀ id ∈ b.releasedLines, id < link.drive.line.id := by
        intro id hid
        exact Nat.lt_of_lt_of_le (h.numbered id (htook.released ▸ hid)) htook.above
      refine ⟨fun id hid => Nat.lt_trans (hheld id hid) htook.below, fun link' hlink' => ?_⟩
      obtain rfl := Option.some.inj hlink'
      refine ⟨hchannel, htook.below, fun hreleased => ?_⟩
      have hid : link.drive.line.id ∈ b.releasedLines := of_decide_eq_true hreleased
      exact absurd (hheld _ hid) (Nat.lt_irrefl _)

theorem attempt_onBench {α : Type} {x : Act (Bench Float) α} {st : Station} {r : Except Fault α}
    {b : Bench Float} (h : x st.bench = (r, b)) :
    (onBench x).attempt st = (.ok r, { st with bench := b }) := by
  rw [Act.attempt_apply, onBench_eq h]

theorem operate_books {α : Type} (answers : Fault → Bool) {x : Drive Float → Act (Bench Float) α}
    {next : Drive Float → α → Drive Float} {answer : Drive Float → α → Answer}
    (hx : ∀ d, (x d).Leaves Bench.holdings)
    (hline : ∀ d b a b', x d b = (.ok a, b') → (next d a).line = d.line) :
    (operate answers fun d => do
      let a ← x d
      pure (next d a, answer d a)).Leaves books := by
  intro st
  obtain ⟨bench, link⟩ := st
  cases link with
  | none => rfl
  | some link =>
    have hheld := hx link.drive bench
    rw [operate, Act.bind_ok (Act.observe_apply _ _)]
    dsimp only
    rcases hrun : x link.drive bench with ⟨f | a, b'⟩
    · rw [hrun] at hheld
      rw [Act.bind_ok (attempt_onBench (Act.bind_error hrun))]
      dsimp only
      split <;> exact Prod.ext hheld rfl
    · rw [hrun] at hheld
      have hacted : (x link.drive >>= fun a =>
          pure (next link.drive a, answer link.drive a)) bench =
            (.ok (next link.drive a, answer link.drive a), b') := Act.bind_ok hrun
      rw [Act.bind_ok (attempt_onBench hacted)]
      exact Prod.ext hheld (Prod.ext rfl (congrArg some (hline _ _ _ _ hrun)))

/-- No tool changes the books but those that connect and disconnect. -/
theorem toolStep_books (env : Settings.Environment) {step : ToolStep} (h : step.links = false) :
    (Session.toolStep env step).Leaves books := by
  cases step with
  | connect given => cases h
  | disconnect => cases h
  | state => exact .map (.observe _)
  | start =>
    refine .map (operate_books _ Drive.start_holdings fun d b d' b' hrun => ?_)
    rw [Drive.start_ok hrun]
  | stop =>
    refine .map (operate_books _ Drive.stop_holdings fun d b d' b' hrun => ?_)
    rw [Drive.stop_ok hrun]
  | changeSpeed rpm =>
    exact .map (operate_books _ (fun d => d.changeSpeed_holdings rpm) fun _ _ _ _ _ => rfl)
  | readSpeed wait =>
    exact .map (operate_books _ (fun d => d.readSpeed_holdings wait) fun _ _ _ _ _ => rfl)
  | readReport wait =>
    exact .map (operate_books _ (fun d => d.readReport_holdings wait true) fun _ _ _ _ _ => rfl)

theorem disconnect_of_unlinked {st : Station} (h : st.link = none) :
    disconnect st = (.ok .disconnected, st) := by
  rw [disconnect, Act.bind_ok (Act.observe_apply _ st), h]
  rfl

theorem sound_disconnect {st : Station} (h : st.Sound) : (disconnect st).2.Sound := by
  cases hlink : st.link with
  | none =>
    rw [disconnect_of_unlinked hlink]
    exact h
  | some link =>
    have hsound := h.linked link hlink
    have hheld := holdings_disconnect hlink
    have howned : (disconnect st).2.bench.owned = (link.drive.line.release st.bench).2.owned :=
      congrArg Prod.fst hheld
    rw [link.drive.line.holdings_release] at hheld
    have hnext : (disconnect st).2.bench.nextId = st.bench.nextId := by
      split at hheld <;> exact congrArg (fun p => p.2.2) hheld
    have hreleased : ∀ id ∈ (disconnect st).2.bench.releasedLines,
        id = link.drive.line.id ∨ id ∈ st.bench.releasedLines := by
      have hlines := congrArg (fun p => p.2.1) hheld
      intro id hid
      split at hlines <;> simp_all [Bench.holdings, Line.giveUp]
    refine ⟨fun id hid => ?_, fun link' hlink' => ?_⟩
    · rw [hnext]
      rcases hreleased id hid with rfl | hid'
      · exact hsound.numbered
      · exact h.numbered id hid'
    · have hlink'' : link' = link := by
        rw [disconnect_of_link hlink] at hlink'
        dsimp only at hlink'
        split at hlink'
        · exact (Option.some.inj hlink').symm
        · cases hlink'
      subst hlink''
      refine ⟨hsound.channel, hnext ▸ hsound.numbered, fun _ => ?_⟩
      rw [howned]
      exact hsound.not_owned

theorem sound_tool {st : Station} (h : st.Sound) (env : Settings.Environment) (step : ToolStep) :
    (Session.toolStep env step st).2.Sound := by
  have hanswer {x : Act Station Answer} (hx : (x st).2.Sound) :
      ((Outcome.answer <$> x) st).2.Sound := by
    rw [Act.map_apply]
    exact hx
  cases step with
  | connect given => exact hanswer (sound_connect h env given)
  | disconnect => exact hanswer (sound_disconnect h)
  | _ => exact h.of_books (toolStep_books env rfl st)

/-- Every state that can be reached is sound. -/
theorem Reachable.sound {st : Station} (h : Reachable st) : st.Sound := by
  induction h with
  | start hb => exact ⟨hb, by simp⟩
  | tool _ env step ih => exact sound_tool ih env step
  | adjust _ change ih => exact sound_adjust ih change

theorem state_eq_disconnected_iff (st : Station) : st.state = .disconnected ↔ st.link = none := by
  cases hlink : st.link <;> simp [state, hlink]

theorem not_already_of_unlinked {st : Station} (hlink : st.link = none)
    (env : Settings.Environment) (given : Settings.Overrides) (port : String) :
    (connect env given st).1 ≠ .ok (.alreadyConnected port) := by
  cases hload : Settings.loadPresent env given with
  | error problems =>
    rw [connect_of_problems hlink hload]
    exact nofun
  | ok settings =>
    rcases hestablish : establish settings st.bench with ⟨f | link, b⟩
    · simp [connect_of_establish_error hlink hload hestablish]
    · simp [connect_of_establish_ok hlink hload hestablish]

/-- A connected station that is told to disconnect, whatever fails: the line is released and owns
nothing, and the channel is not connected. The station is disconnected, and can be connected anew,
exactly if the closing of its port does not jam. -/
theorem disconnect_frees {st st' : Station} {r : Except Fault Answer} {link : Link}
    (h : Reachable st) (hlink : st.link = some link) (hrun : disconnect st = (r, st')) :
    link.drive.line.isReleased st'.bench = true ∧
      link.drive.line.channel = .serial link.channel ∧
      link.drive.line.channel.resource ∉ st'.bench.owned ∧
      link.drive.line.direction.resource ∉ st'.bench.owned ∧
      link.channel.connected st'.bench = false ∧
      (st'.state = .disconnected ↔ link.channel.jams st.bench = false) ∧
      ∀ env given, (connect env given st').1 = .ok (.alreadyConnected link.settings.port) ↔
        link.channel.jams st.bench = true := by
  have hsound := h.sound.linked link hlink
  have hheld := holdings_disconnect hlink
  have hconnected := connected_disconnect hlink
  have hleft := congrArg Station.link (disconnect_of_link hlink)
  rw [hrun] at hheld hconnected hleft
  simp only [Bench.holdings, Prod.mk.injEq] at hheld
  obtain ⟨howned, hlines, -⟩ := hheld
  have hreleased : link.drive.line.isReleased st'.bench = true := by
    rw [Line.isReleased, hlines]
    exact link.drive.line.isReleased_release st.bench
  refine ⟨hreleased, hsound.channel, ?_, ?_, hconnected, ?_, fun env given => ?_⟩
  · rw [howned]
    exact hsound.not_owned.1
  · rw [howned]
    exact hsound.not_owned.2
  · rw [state_eq_disconnected_iff, hleft]
    cases link.channel.jams st.bench <;> simp
  · cases hjams : link.channel.jams st.bench with
    | true =>
      have hstays : st'.link = some link := by simpa [hjams] using hleft
      simp [already_of_linked hstays]
    | false =>
      have hnone : st'.link = none := by simpa [hjams] using hleft
      simp [not_already_of_unlinked hnone]

def connectedFrom (st : Station) : Station := (Session.toolStep [] (.connect []) st).2

theorem reachable_connectedFrom (point : Point) (f : Fault) :
    Reachable (connectedFrom (failingAt point f)) :=
  .tool (.start (by simp [Bench.empty])) [] (.connect [])

/-- A port whose closing fails with a fault of the serial device: the station is disconnected. -/
theorem disconnect_frees_despite_serial_fault :
    ∃ st st' r link, Reachable st ∧ st.link = some link ∧ disconnect st = (r, st') ∧
      link.drive.line.isReleased st'.bench = true ∧ link.channel.connected st'.bench = false ∧
        st'.state = .disconnected := by
  let st := connectedFrom (failingAt .portClose (.raised .serial "gone"))
  have hjams : st.link.map (fun link => link.channel.jams st.bench) = some false := by
    decide +kernel
  obtain ⟨link, hlink, hclear⟩ := Option.map_eq_some_iff.mp hjams
  obtain ⟨hreleased, -, -, -, hconnected, hstate, -⟩ :=
    disconnect_frees (reachable_connectedFrom .portClose (.raised .serial "gone")) hlink rfl
  exact ⟨st, _, _, link, reachable_connectedFrom _ _, hlink, rfl, hreleased, hconnected,
    hstate.mpr hclear⟩

/-- A connected station whose port cannot be closed, by a fault of the system that is none of the
serial device. -/
def jammed : Station := connectedFrom (failingAt .portClose (.raised .system "Input/output error"))

/-- Its channel is not connected any more when it was told to disconnect, and yet the station takes
itself for connected, and cannot be connected anew. -/
theorem disconnect_jams :
    Reachable jammed ∧ ∃ link, jammed.link = some link ∧ (disconnect jammed).2.link = some link ∧
      link.channel.connected (disconnect jammed).2.bench = false ∧
        (connect [] [] (disconnect jammed).2).1 =
          .ok (.alreadyConnected link.settings.port) := by
  refine ⟨reachable_connectedFrom _ _, ?_⟩
  have hjams : jammed.link.map (fun link => link.channel.jams jammed.bench) = some true := by
    decide +kernel
  obtain ⟨link, hlink, hstuck⟩ := Option.map_eq_some_iff.mp hjams
  have hstays : (disconnect jammed).2.link = some link := by
    rw [disconnect_of_link hlink, hstuck]
    rfl
  refine ⟨link, hlink, hstays, connected_disconnect hlink, ?_⟩
  rw [already_of_linked hstays]

end Station
end SpindleLink
