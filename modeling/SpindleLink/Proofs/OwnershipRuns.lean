import SpindleLink.Proofs.Ownership
import SpindleLink.Proofs.StationRuns

/-! Ownership over whole runs. The lines that were made and not yet released, as the history tells,
are at every moment the owners of all that is owned, and no two of them share anything. What the
steps about lines do is told by these lines alone: which makings are refused, what a release gives
up, and that a released line does nothing. -/

namespace SpindleLink

def LineStep.isTraffic : LineStep → Bool
  | send _ | receive _ _ _ | discardWaiting => true
  | _ => false

namespace Moment

/-- The line that was made in a step, by itself or to connect the station. -/
def acquired? (m : Moment) : Option Line :=
  match m.step with
  | .newLine _ _ _ _ => if m.returned then m.line? else none
  | .tool (.connect _) => if m.before.station.link.isNone then m.after.station.line? else none
  | _ => none

/-- The line that was released in a step, whether or not the release returned. -/
def givenUp? (m : Moment) : Option Line :=
  match m.step with
  | .line number .release => m.before.lines[number]?
  | .tool .disconnect => m.before.station.line?
  | _ => none

/-- The lines that are held behind a step. -/
def booked (held : List Line) (m : Moment) : List Line :=
  m.acquired?.toList ++ held.filter fun l => m.givenUp? ≠ some l

theorem booked_of_quiet {m : Moment} (hacquired : m.acquired? = none) (hgivenUp : m.givenUp? = none)
    (held : List Line) : booked held m = held := by
  simp [booked, hacquired, hgivenUp]

theorem booked_of_acquired {m : Moment} {l : Line} (hacquired : m.acquired? = some l)
    (hgivenUp : m.givenUp? = none) (held : List Line) : booked held m = l :: held := by
  simp [booked, hacquired, hgivenUp]

theorem booked_of_givenUp {m : Moment} {l : Line} (hacquired : m.acquired? = none)
    (hgivenUp : m.givenUp? = some l) (held : List Line) :
    booked held m = held.filter (· ≠ l) := by
  simp [booked, hacquired, hgivenUp, eq_comm]

/-- A step was refused with an error of the program, before any call. -/
def Refused (m : Moment) (f : Fault) : Prop :=
  f.kind = .runtime ∧ m.record.outcome = .error f ∧ m.calls = []

end Moment

namespace Session

/-- The lines that can be asked for something: those that have a number, and that of the link. -/
def known (s : Session) : List Line := s.lines ++ s.station.line?.toList

def books (s : Session) :
    ((List Resource × List Nat × Nat) × Option SerialChannel × Option Line) × List Line :=
  (s.station.books, s.lines)

theorem holdings_of_books {s s' : Session} (h : s'.books = s.books) :
    s'.station.bench.holdings = s.station.bench.holdings :=
  congrArg (fun b => b.1.1) h

theorem known_of_books {s s' : Session} (h : s'.books = s.books) : s'.known = s.known := by
  simp only [books, Station.books, Prod.mk.injEq] at h
  obtain ⟨⟨-, -, hline⟩, hlines⟩ := h
  rw [known, known, hlines, hline]

theorem mem_known_of_number {s : Session} {number : Nat} {l : Line}
    (h : s.lines[number]? = some l) : l ∈ s.known :=
  List.mem_append_left _ (List.mem_of_getElem? h)

theorem onStation_books {α : Type} {x : Act Station α} (hx : x.Leaves Station.books) :
    (onStation x).Leaves books :=
  .within fun s => congrArg (fun b => (b, s.lines)) (hx s.station)

theorem onBench_books {α : Type} {x : Act (Bench Float) α} (hx : x.Leaves Bench.holdings) :
    (onBench x).Leaves books :=
  onStation_books (.within fun st =>
    congrArg (fun b => (b, st.link.map Link.channel, st.line?)) (hx st.bench))

theorem lineStep_holdings (l : Line) {step : LineStep} (h : step ≠ .release) :
    (lineStep l step).Leaves Bench.holdings := by
  cases step with
  | send data => exact .bind (l.send_holdings data) fun _ => .pure _
  | receive n wait flush => exact .map (l.receive_holdings n wait flush)
  | holdTime length => exact .map (.ofExcept _)
  | byteTime => exact .map (.ofExcept _)
  | discardWaiting => exact .map l.discardWaiting_holdings
  | release => exact absurd rfl h

theorem channelStep_holdings (c : SerialChannel) (step : ChannelStep) :
    (channelStep c step).Leaves Bench.holdings := by
  cases step with
  | info => exact .bind (.observe _) fun _ => .pure _
  | byteTime => exact .map (.ofExcept _)
  | «open» => exact .bind c.open_holdings fun _ => .pure _
  | close => exact .bind c.close_holdings fun _ => .pure _
  | rts level => exact .bind (c.driveRts_holdings level) fun _ => .pure _
  | write data => exact .map (c.write_holdings data)
  | hasWaiting => exact .map c.hasWaiting_holdings
  | next wait => exact .map (c.next_holdings wait)

theorem directionStep_holdings (d : DirectionLine) (step : DirectionStep) :
    (directionStep d step).Leaves Bench.holdings := by
  cases step with
  | engage => exact .bind d.engage_holdings fun _ => .pure _
  | disengage => exact .bind d.disengage_holdings fun _ => .pure _
  | «open» => exact .bind d.open_holdings fun _ => .pure _
  | close => exact .bind d.close_holdings fun _ => .pure _
  | pin => exact .pure _

theorem driveStep_holdings (d : Drive Float) (step : DriveStep) :
    (driveStep d step).Leaves Bench.holdings := by
  cases step with
  | start => exact .bind d.start_holdings fun _ => .pure _
  | stop => exact .bind d.stop_holdings fun _ => .pure _
  | changeSpeed rpm => exact .bind (d.changeSpeed_holdings rpm) fun _ => .pure _
  | readSpeed wait => exact .bind (d.readSpeed_holdings wait) fun _ => .pure _
  | readReport wait resync => exact .bind (d.readReport_holdings wait resync) fun _ => .pure _
  | state => exact .pure _

theorem holdings_adjusted (changes : List Adjustment) (b : Bench Float) :
    (changes.foldl Adjustment.apply b).holdings = b.holdings := by
  induction changes generalizing b with
  | nil => rfl
  | cons change changes ih => rw [List.foldl_cons, ih, change.holdings_apply]

section Making

variable {s : Session} {channel : Channel} {direction : DirectionLine} {byteTime : Option Number}
  {pacing : Pacing} {t : Number} {b : Bench Float}

theorem perform_newLine_error {f : Fault}
    (htime : byteTime.elim (defaultByteTime channel) .ok = .ok t)
    (hmake : Line.make channel direction t pacing s.station.bench = (.error f, b)) :
    perform (.newLine channel direction byteTime pacing) s =
      (.error f, { s with station := { s.station with bench := b } }) := by
  rw [perform, htime, Act.bind_ok (Act.ofExcept_apply _ s), Act.bind_error (onBench_eq hmake)]

theorem perform_newLine_ok {l : Line}
    (htime : byteTime.elim (defaultByteTime channel) .ok = .ok t)
    (hmake : Line.make channel direction t pacing s.station.bench = (.ok l, b)) :
    perform (.newLine channel direction byteTime pacing) s =
      (.ok (.integer s.lines.length), { s with
        station := { s.station with bench := b }, lines := s.lines ++ [l] }) := by
  rw [perform, htime, Act.bind_ok (Act.ofExcept_apply _ s), Act.bind_ok (onBench_eq hmake)]
  rfl

theorem newLine_cases (s : Session) (channel : Channel) (direction : DirectionLine)
    (byteTime : Option Number) (pacing : Pacing) :
    (∃ f b, perform (.newLine channel direction byteTime pacing) s =
        (.error f, { s with station := { s.station with bench := b } }) ∧
        b.holdings = s.station.bench.holdings) ∨
      ∃ l b, perform (.newLine channel direction byteTime pacing) s =
          (.ok (.integer s.lines.length), { s with
            station := { s.station with bench := b }, lines := s.lines ++ [l] }) ∧
        l.channel = channel ∧ l.direction = direction ∧ l.Took s.station.bench b := by
  cases htime : byteTime.elim (defaultByteTime channel) .ok with
  | error f =>
    refine .inl ⟨f, s.station.bench, ?_, rfl⟩
    rw [perform, htime, Act.bind_error (Act.ofExcept_apply _ s)]
  | ok t =>
    rcases Line.make_cases channel direction t pacing s.station.bench with
      ⟨f, b, hmake, hsame⟩ | ⟨l, b, hmake, rfl, htook⟩
    · exact .inl ⟨f, b, perform_newLine_error htime hmake, hsame⟩
    · exact .inr ⟨_, b, perform_newLine_ok htime hmake, rfl, rfl, htook⟩

theorem perform_newLine_of_emits {P : List (Entry Float) → Except Fault Line → Prop}
    (htime : byteTime.elim (defaultByteTime channel) .ok = .ok t)
    (hmake : (Line.make channel direction t pacing).Emits s.station.bench P) :
    ∃ es r, P es r ∧ (s.step (.newLine channel direction byteTime pacing)).1.calls = es ∧
      (s.step (.newLine channel direction byteTime pacing)).1.outcome =
        r.map fun _ => Outcome.integer s.lines.length := by
  obtain ⟨es, hgrew, hP⟩ := hmake
  rcases hrun : Line.make channel direction t pacing s.station.bench with ⟨f | l, b⟩
  · have hperform := perform_newLine_error htime hrun
    rw [hrun] at hgrew hP
    refine ⟨es, _, hP, calls_step ?_, congrArg Prod.fst hperform⟩
    rw [hperform]
    exact hgrew
  · have hperform := perform_newLine_ok htime hrun
    rw [hrun] at hgrew hP
    refine ⟨es, _, hP, calls_step ?_, congrArg Prod.fst hperform⟩
    rw [hperform]
    exact hgrew

end Making

section Books

variable {s : Session} {held : List Line}

theorem ledger_newLine (h : Ledger s.station.bench s.known held) (channel : Channel)
    (direction : DirectionLine) (byteTime : Option Number) (pacing : Pacing) :
    Ledger (s.step (.newLine channel direction byteTime pacing)).2.station.bench
      (s.step (.newLine channel direction byteTime pacing)).2.known
      (Moment.booked held ⟨s, .newLine channel direction byteTime pacing⟩) := by
  rcases newLine_cases s channel direction byteTime pacing with
    ⟨f, b, hperform, hsame⟩ | ⟨l, b, hperform, -, -, htook⟩
  · have hacquired : Moment.acquired? ⟨s, .newLine channel direction byteTime pacing⟩ = none := by
      simp [Moment.acquired?, Moment.returned_of_error hperform]
    rw [Moment.booked_of_quiet hacquired rfl, step, hperform]
    exact h.congr (.of_holdings hsame) (List.Subset.refl _)
  · have hacquired :
        Moment.acquired? ⟨s, .newLine channel direction byteTime pacing⟩ = some l := by
      simp [Moment.acquired?, Moment.returned_of_ok hperform, Moment.line?, Moment.after, step,
        hperform]
    rw [Moment.booked_of_acquired hacquired rfl, step, hperform]
    refine h.take htook fun l' hl' => ?_
    have hcases : l' ∈ (s.lines ++ [l]) ++ s.station.line?.toList := hl'
    simp only [List.mem_append, List.mem_singleton] at hcases
    simp only [known, List.mem_cons, List.mem_append]
    rcases hcases with (hnumber | hnew) | hlink
    · exact .inr (.inl hnumber)
    · exact .inl hnew
    · exact .inr (.inr hlink)

theorem after_line {number : Nat} {l : Line} (hl : s.lines[number]? = some l) (x : LineStep) :
    (s.step (.line number x)).2 = { s with
      station := { s.station with bench := (lineStep l x s.station.bench).2 } } :=
  congrArg Prod.snd (perform_line hl x)

theorem ledger_release (h : Ledger s.station.bench s.known held) (number : Nat) :
    Ledger (s.step (.line number .release)).2.station.bench
      (s.step (.line number .release)).2.known
      (Moment.booked held ⟨s, .line number .release⟩) := by
  cases hl : s.lines[number]? with
  | none =>
    have hstill : perform (.line number .release) s = (.ok .nothing, s) := by
      rw [perform, Act.bind_ok (Act.observe_apply _ s), hl]
      rfl
    have hgivenUp : Moment.givenUp? ⟨s, .line number .release⟩ = none := hl
    rw [Moment.booked_of_quiet rfl hgivenUp, step, hstill]
    exact h
  | some l =>
    have hbench : (lineStep l .release s.station.bench).2 = (l.release s.station.bench).2 :=
      Act.Leaves.behind (g := id) (fun _ => .pure _) s.station.bench
    have hgivenUp : Moment.givenUp? ⟨s, .line number .release⟩ = some l := hl
    rw [Moment.booked_of_givenUp rfl hgivenUp, after_line hl, hbench]
    exact h.leave (mem_known_of_number hl) rfl (List.Subset.refl _)

theorem after_connect (s : Session) (given : Settings.Overrides) :
    (s.step (.tool (.connect given))).2 =
      { s with station := (Station.connect s.env given s.station).2 } := by
  have hstation : (toolStep s.env (.connect given) s.station).2 =
      (Station.connect s.env given s.station).2 := by
    rw [toolStep, Act.map_apply]
  rw [← hstation]
  rfl

theorem ledger_connect (h : Ledger s.station.bench s.known held) (given : Settings.Overrides) :
    Ledger (s.step (.tool (.connect given))).2.station.bench
      (s.step (.tool (.connect given))).2.known
      (Moment.booked held ⟨s, .tool (.connect given)⟩) := by
  have hafter := after_connect s given
  cases hlink : s.station.link with
  | some link =>
    have hacquired : Moment.acquired? ⟨s, .tool (.connect given)⟩ = none := by
      simp [Moment.acquired?, hlink]
    rw [Station.already_of_linked hlink] at hafter
    rw [Moment.booked_of_quiet hacquired rfl, hafter]
    exact h
  | none =>
    rcases Station.connect_cases s.env given hlink with
      ⟨b, hconnect, hholders⟩ | ⟨link, b, hconnect, -, htook⟩
    · rw [hconnect] at hafter
      have hacquired : Moment.acquired? ⟨s, .tool (.connect given)⟩ = none := by
        simp [Moment.acquired?, Moment.after, hafter, hlink, Station.line?]
      rw [Moment.booked_of_quiet hacquired rfl, hafter]
      refine h.congr hholders ?_
      simp [known, Station.line?]
    · rw [hconnect] at hafter
      have hacquired :
          Moment.acquired? ⟨s, .tool (.connect given)⟩ = some link.drive.line := by
        simp [Moment.acquired?, Moment.after, hafter, hlink, Station.line?]
      rw [Moment.booked_of_acquired hacquired rfl, hafter]
      refine h.take htook ?_
      simp [known, Station.line?, hlink]

theorem after_disconnect (s : Session) :
    (s.step (.tool .disconnect)).2 =
      { s with station := (Station.disconnect s.station).2 } := by
  have hstation : (toolStep s.env .disconnect s.station).2 =
      (Station.disconnect s.station).2 := by
    rw [toolStep, Act.map_apply]
  rw [← hstation]
  rfl

theorem ledger_disconnect (h : Ledger s.station.bench s.known held) :
    Ledger (s.step (.tool .disconnect)).2.station.bench
      (s.step (.tool .disconnect)).2.known
      (Moment.booked held ⟨s, .tool .disconnect⟩) := by
  rw [after_disconnect]
  cases hlink : s.station.link with
  | none =>
    have hgivenUp : Moment.givenUp? ⟨s, .tool .disconnect⟩ = none := by
      simp [Moment.givenUp?, Station.line?, hlink]
    rw [Moment.booked_of_quiet rfl hgivenUp, Station.disconnect_of_unlinked hlink]
    exact h
  | some link =>
    have hgivenUp : Moment.givenUp? ⟨s, .tool .disconnect⟩ = some link.drive.line := by
      simp [Moment.givenUp?, Station.line?, hlink]
    have hknown : link.drive.line ∈ s.known := by
      simp [known, Station.line?, hlink]
    rw [Moment.booked_of_givenUp rfl hgivenUp]
    refine h.leave hknown (Station.holdings_disconnect hlink) ?_
    -- the link stays, with its line, if the closing of its port jams
    rw [Station.disconnect_of_link hlink]
    cases link.channel.jams s.station.bench <;> simp [known, Station.line?, hlink]

theorem ledger_step (h : Ledger s.station.bench s.known held) (x : Step) :
    Ledger (s.step x).2.station.bench (s.step x).2.known (Moment.booked held ⟨s, x⟩) := by
  -- A step that neither makes nor releases a line leaves the books alone.
  have hquiet (hacquired : Moment.acquired? ⟨s, x⟩ = none)
      (hgivenUp : Moment.givenUp? ⟨s, x⟩ = none) (hleaves : (perform x).Leaves books) :
      Ledger (s.step x).2.station.bench (s.step x).2.known (Moment.booked held ⟨s, x⟩) := by
    have hbooks : (s.step x).2.books = s.books := hleaves s
    rw [Moment.booked_of_quiet hacquired hgivenUp, known_of_books hbooks]
    exact h.congr (.of_holdings (holdings_of_books hbooks)) (List.Subset.refl _)
  cases x with
  | newLine channel direction byteTime pacing => exact ledger_newLine h _ _ _ _
  | adjust changes =>
    refine hquiet rfl rfl (.bind (.change fun s => ?_) fun _ => .pure _)
    exact congrArg (fun b => ((b, s.station.link.map Link.channel, s.station.line?), s.lines))
      (holdings_adjusted changes s.station.bench)
  | newDrive number rotation readTimeout =>
    refine hquiet rfl rfl (.bind (.ofExcept _) fun r => .bind (.observe _) fun lines => ?_)
    cases lines[number]? with
    | none => exact .pure _
    | some l => exact .bind (.observe _) fun _ => .bind (.change fun _ => rfl) fun _ => .pure _
  | line number step =>
    by_cases hstep : step = .release
    · subst hstep
      exact ledger_release h number
    · have hgivenUp : Moment.givenUp? ⟨s, .line number step⟩ = none := by
        cases step <;> first | rfl | exact absurd rfl hstep
      refine hquiet rfl hgivenUp (.bind (.observe _) fun lines => ?_)
      cases lines[number]? with
      | none => exact .pure _
      | some l => exact onBench_books (lineStep_holdings l hstep)
  | channel c step => exact hquiet rfl rfl (onBench_books (channelStep_holdings c step))
  | direction d step => exact hquiet rfl rfl (onBench_books (directionStep_holdings d step))
  | drive number step =>
    refine hquiet rfl rfl (.bind (.observe _) fun drives => ?_)
    cases drives[number]? with
    | none => exact .pure _
    | some d =>
      refine .bind (onBench_books (driveStep_holdings d step)) fun ⟨d', outcome⟩ => ?_
      exact .bind (.change fun _ => rfl) fun _ => .pure _
  | tool step =>
    cases step with
    | connect given => exact ledger_connect h given
    | disconnect => exact ledger_disconnect h
    | _ =>
      refine hquiet rfl rfl (.bind (.observe _) fun env => ?_)
      exact onStation_books (Station.toolStep_books env rfl)

end Books

def heldBehind (ms : List Moment) : List Line := ms.foldl Moment.booked []

theorem ledger_begin (start clockStep : Float) (resources : Nat) (env : Settings.Environment)
    (changes : List Adjustment) :
    Ledger (begin start clockStep resources env changes).station.bench
      (begin start clockStep resources env changes).known [] := by
  have hheld : (begin start clockStep resources env changes).station.bench.holdings =
      ([], [], resources) :=
    holdings_adjusted changes _
  simp only [Bench.holdings, Prod.mk.injEq] at hheld
  obtain ⟨howned, hreleased, -⟩ := hheld
  have hknown : (begin start clockStep resources env changes).known = [] := rfl
  rw [hknown]
  constructor
  case toOwnedBy => exact ⟨by simp [howned], .nil⟩
  case numbered => simp [hreleased]
  case below => simp
  case distinct => simp
  case held_iff => simp

theorem ledger_run {s : Session} {held : List Line} (h : Ledger s.station.bench s.known held)
    (steps : List Step) :
    Ledger (s.run steps).2.station.bench (s.run steps).2.known
      ((s.history steps).foldl Moment.booked held) := by
  induction steps generalizing s held with
  | nil => exact h
  | cons x xs ih => exact ih (ledger_step h x)

end Session

/-- What a step does about the lines that are held when it is met. To be made, a line needs a
channel and a direction line that none of them holds, else it is refused; one that cannot be made
owns nothing. A release gives up what the line owned, even if it raises, and a second one changes
nothing; a released line refuses all traffic. -/
structure Moment.Exclusive (m : Moment) (held : List Line) : Prop where
  refused : ∀ channel direction byteTime pacing t,
    m.step = .newLine channel direction byteTime pacing →
    byteTime.elim (Session.defaultByteTime channel) .ok = .ok t → t.atMostZero = false →
    ((∃ title, m.Refused (.owned title)) ↔
      ∃ l ∈ held, l.Holds channel.resource ∨ l.Holds direction.resource)
  named : ∀ channel direction byteTime pacing t title,
    m.step = .newLine channel direction byteTime pacing →
    byteTime.elim (Session.defaultByteTime channel) .ok = .ok t → t.atMostZero = false →
    m.Refused (.owned title) →
    title = if ∃ l ∈ held, l.Holds channel.resource then channel.title else direction.title
  made : ∀ channel direction byteTime pacing,
    m.step = .newLine channel direction byteTime pacing → m.returned = true →
    ∃ l, m.acquired? = some l ∧ l.channel = channel ∧ l.direction = direction
  failed : ∀ channel direction byteTime pacing,
    m.step = .newLine channel direction byteTime pacing → m.returned = false →
    m.after.station.bench.owned = m.before.station.bench.owned
  released : ∀ number l, m.step = .line number .release → m.before.lines[number]? = some l →
    l ∈ held → ∀ r, l.Holds r → r ∉ m.after.station.bench.owned
  again : ∀ number l, m.step = .line number .release → m.before.lines[number]? = some l →
    l ∉ held → m.returned = true ∧ m.calls = [] ∧ m.after = m.before
  shut : ∀ number step l, m.step = .line number step → step.isTraffic = true →
    m.before.lines[number]? = some l → l ∉ held → m.Refused .lineReleased

namespace Session

section Exclusion

variable {s : Session} {held : List Line}

theorem step_line_still {number : Nat} {l : Line} {x : LineStep} {r : Except Fault Outcome}
    (hl : s.lines[number]? = some l)
    (hrun : lineStep l x s.station.bench = (r, s.station.bench)) :
    (s.step (.line number x)).1.outcome = r ∧ (s.step (.line number x)).1.calls = [] ∧
      (s.step (.line number x)).2 = s := by
  have hperform : perform (.line number x) s = (r, s) :=
    (perform_line hl x).trans (onBench_eq hrun)
  refine ⟨congrArg Prod.fst hperform, calls_step ?_, congrArg Prod.snd hperform⟩
  rw [hperform]
  exact .refl _

/-- A line that was released refuses all traffic. -/
theorem lineStep_of_released {l : Line} {b : Bench Float} {x : LineStep}
    (h : l.isReleased b = true) (hx : x.isTraffic = true) :
    lineStep l x b = (.error .lineReleased, b) := by
  cases x with
  | send data => exact Act.bind_error (Line.refuses h _)
  | receive n wait flush =>
    rw [lineStep, Act.map_apply, Line.receive, Line.refuses h]
    rfl
  | discardWaiting =>
    rw [lineStep, Act.map_apply, Line.discardWaiting, Line.refuses h]
    rfl
  | _ => cases hx

section Making

variable {channel : Channel} {direction : DirectionLine} {byteTime : Option Number} {t : Number}

/-- A making is refused for an owner exactly when a held line holds the channel or the direction
line. The message names the channel if that is held, else the direction line. -/
theorem newLine_refused_iff (h : s.station.bench.OwnedBy held)
    (htime : byteTime.elim (defaultByteTime channel) .ok = .ok t)
    (hpositive : t.atMostZero = false) (pacing : Pacing) (title : String) :
    Moment.Refused ⟨s, .newLine channel direction byteTime pacing⟩ (.owned title) ↔
      (∃ l ∈ held, l.Holds channel.resource ∨ l.Holds direction.resource) ∧
        title = if ∃ l ∈ held, l.Holds channel.resource then channel.title
          else direction.title := by
  have howned : (∃ l ∈ held, l.Holds channel.resource ∨ l.Holds direction.resource) ↔
      channel.resource ∈ s.station.bench.owned ∨ direction.resource ∈ s.station.bench.owned := by
    rw [h.owned, h.owned, ← exists_or]
    simp only [and_or_left]
  simp only [howned, ← h.owned]
  by_cases htaken :
      channel.resource ∈ s.station.bench.owned ∨ direction.resource ∈ s.station.bench.owned
  · have hperform := perform_newLine_error htime (Line.make_of_owned hpositive pacing htaken)
    have hcalls : (s.step (.newLine channel direction byteTime pacing)).1.calls = [] := by
      apply calls_step
      rw [hperform]
      exact .refl _
    have houtcome := congrArg Prod.fst hperform
    constructor
    · rintro ⟨-, hrefused, -⟩
      have hfault := Except.error.inj (hrefused.symm.trans houtcome)
      exact ⟨htaken, Fault.owned.inj hfault⟩
    · rintro ⟨-, rfl⟩
      exact ⟨rfl, houtcome, hcalls⟩
  · obtain ⟨hchannel, hdirection⟩ := not_or.mp htaken
    obtain ⟨es, r, hfaultless, hcalls, houtcome⟩ := perform_newLine_of_emits htime
      (Line.make_of_free hpositive pacing hchannel hdirection)
    refine ⟨?_, fun hrefused => absurd hrefused.1 htaken⟩
    rintro ⟨-, hrefused, hnone⟩
    cases r with
    | ok l => cases houtcome.symm.trans hrefused
    | error f =>
      obtain rfl := Except.error.inj (houtcome.symm.trans hrefused)
      exact absurd rfl (hfaultless (hcalls.symm.trans hnone) title)

end Making

theorem newLine_made (s : Session) {channel : Channel} {direction : DirectionLine}
    {byteTime : Option Number} {pacing : Pacing}
    (h : Moment.returned ⟨s, .newLine channel direction byteTime pacing⟩ = true) :
    ∃ l, Moment.acquired? ⟨s, .newLine channel direction byteTime pacing⟩ = some l ∧
      l.channel = channel ∧ l.direction = direction := by
  rcases newLine_cases s channel direction byteTime pacing with
    ⟨f, b, hperform, -⟩ | ⟨l, b, hperform, hchannel, hdirection, -⟩
  · rw [Moment.returned_of_error hperform] at h
    cases h
  · refine ⟨l, ?_, hchannel, hdirection⟩
    simp [Moment.acquired?, h, Moment.line?, Moment.after, step, hperform]

theorem newLine_failed (s : Session) {channel : Channel} {direction : DirectionLine}
    {byteTime : Option Number} {pacing : Pacing}
    (h : Moment.returned ⟨s, .newLine channel direction byteTime pacing⟩ = false) :
    (s.step (.newLine channel direction byteTime pacing)).2.station.bench.owned =
      s.station.bench.owned := by
  rcases newLine_cases s channel direction byteTime pacing with
    ⟨f, b, hperform, hsame⟩ | ⟨l, b, hperform, -, -, -⟩
  · rw [step, hperform]
    exact congrArg Prod.fst hsame
  · rw [Moment.returned_of_ok hperform] at h
    cases h

theorem release_frees (h : Ledger s.station.bench s.known held) {number : Nat} {l : Line}
    (hl : s.lines[number]? = some l) (hheld : l ∈ held) {r : Resource} (hr : l.Holds r) :
    r ∉ (s.step (.line number .release)).2.station.bench.owned := by
  have hafter := (ledger_step h (.line number .release)).toOwnedBy
  have hgivenUp : Moment.givenUp? ⟨s, .line number .release⟩ = some l := hl
  rw [Moment.booked_of_givenUp rfl hgivenUp] at hafter
  rw [hafter.owned]
  rintro ⟨l', hl', hr'⟩
  obtain ⟨hheld', hne⟩ := List.mem_filter.mp hl'
  exact h.apart.forall hheld' hheld (of_decide_eq_true hne) r hr' hr

theorem moment_exclusive {m : Moment}
    (h : Ledger m.before.station.bench m.before.known held) : m.Exclusive held := by
  obtain ⟨s, x⟩ := m
  constructor
  case refused =>
    rintro channel direction byteTime pacing t rfl htime hpositive
    simp only [newLine_refused_iff h.toOwnedBy htime hpositive, exists_and_left, exists_eq,
      and_true]
  case named =>
    rintro channel direction byteTime pacing t title rfl htime hpositive hrefused
    exact ((newLine_refused_iff h.toOwnedBy htime hpositive pacing title).mp hrefused).2
  case made =>
    rintro channel direction byteTime pacing rfl hreturned
    exact newLine_made s hreturned
  case failed =>
    rintro channel direction byteTime pacing rfl hreturned
    exact newLine_failed s hreturned
  case released =>
    rintro number l rfl hl hheld r hr
    exact release_frees h hl hheld hr
  case again =>
    rintro number l rfl hl hheld
    have hreleased := (h.released_iff (mem_known_of_number hl)).mpr hheld
    have hrun : lineStep l .release s.station.bench = (.ok .nothing, s.station.bench) :=
      Act.bind_ok (Line.release_of_released hreleased)
    obtain ⟨houtcome, hcalls, hafter⟩ := step_line_still hl hrun
    have hreturned : Moment.returned ⟨s, .line number .release⟩ = true := by
      rw [Moment.returned, Moment.record, houtcome]
      rfl
    exact ⟨hreturned, hcalls, hafter⟩
  case shut =>
    rintro number step l rfl htraffic hl hheld
    have hreleased := (h.released_iff (mem_known_of_number hl)).mpr hheld
    obtain ⟨houtcome, hcalls, -⟩ := step_line_still hl (lineStep_of_released hreleased htraffic)
    exact ⟨rfl, houtcome, hcalls⟩

end Exclusion

/-- Over any run, with any failures: at every moment, and in the end, the lines that were made and
not released own all that is owned, no two of them share anything, and each step keeps to that. -/
theorem history_exclusive (start clockStep : Float) (resources : Nat) (env : Settings.Environment)
    (changes : List Adjustment) (steps : List Step) :
    let s := begin start clockStep resources env changes
    (s.run steps).2.station.bench.OwnedBy (heldBehind (s.history steps)) ∧
      ∀ earlier m later, s.history steps = earlier ++ m :: later →
        m.before.station.bench.OwnedBy (heldBehind earlier) ∧ m.Exclusive (heldBehind earlier) := by
  intro s
  have hbegin : Ledger s.station.bench s.known [] :=
    ledger_begin start clockStep resources env changes
  refine ⟨(ledger_run hbegin steps).toOwnedBy, fun earlier m later hsplit => ?_⟩
  obtain ⟨xs, rfl, hbefore⟩ := before_of_history hsplit
  have hledger : Ledger m.before.station.bench m.before.known (heldBehind (s.history xs)) :=
    hbefore ▸ ledger_run hbegin xs
  exact ⟨hledger.toOwnedBy, moment_exclusive hledger⟩

/-- Two lines on one channel: the second is refused until the first is released, though the signal
of that one is stuck by then, and when the first is released once more the second keeps it all. -/
example :
    let first : Step := .newLine (.scripted 0) (.scripted 1) none .delay
    let second : Step := .newLine (.scripted 0) (.scripted 2) none .delay
    let stuck : Adjustment := .plan (.disengage 1) (.after 1 (.raised .system "stuck"))
    heldBehind ((begin 0 0 3 [] [stuck]).history
      [first, second, .line 0 .release, second, .line 0 .release]) =
        [⟨4, .scripted 0, .scripted 2, .whole 1, .delay⟩] := by
  decide +kernel

end Session
end SpindleLink
