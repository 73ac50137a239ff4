import SpindleLink.Proofs.FailedSendings

/-! What an operator is told when a call on the link fails by a fault of the operating system. In
sending it becomes a fault of the link, which the tools answer for. In reading only a fault of the
serial device does; any other gets through the drive, and the tool raises it. -/

namespace SpindleLink

def DriveStep.sends : DriveStep → Bool
  | start | stop | changeSpeed _ => true
  | _ => false

def DriveStep.reads : DriveStep → Bool
  | readSpeed _ | readReport _ _ => true
  | _ => false

def ToolStep.asks : ToolStep → Option DriveStep
  | start => some .start
  | stop => some .stop
  | changeSpeed rpm => some (.changeSpeed rpm)
  | readSpeed wait => some (.readSpeed wait)
  | readReport wait => some (.readReport wait true)
  | _ => none

theorem DriveStep.reads_of_sends {step : DriveStep} (h : step.sends = true) :
    step.reads = false := by
  cases step <;> first | rfl | cases h

theorem ToolStep.sends_or_reads {step : ToolStep} {asked : DriveStep}
    (h : step.asks = some asked) : asked.sends = true ∨ asked.reads = true := by
  cases step with
  | connect | disconnect | state => cases h
  | start | stop | changeSpeed =>
    obtain rfl := Option.some.inj h
    exact .inl rfl
  | readSpeed | readReport =>
    obtain rfl := Option.some.inj h
    exact .inr rfl

/-- Whether a tool answers a fault of the drive instead of raising it. -/
def ToolStep.answers (step : ToolStep) (f : Fault) : Bool :=
  step.deed?.any fun deed => deed.answers f

theorem ToolStep.answers_of_inverter {step : ToolStep} {asked : DriveStep}
    (h : step.asks = some asked) {f : Fault} (hf : f.isA .inverter = true) :
    step.answers f = true := by
  cases step with
  | connect | disconnect | state => cases h
  | changeSpeed rpm => exact Bool.or_eq_true_iff.mpr (.inl hf)
  | start | stop | readSpeed | readReport => exact hf

theorem SerialChannel.port?_of_unplugged {T : Type} {c : SerialChannel} {b : Bench T}
    (h : c.connected b = false) : c.port? b = none :=
  Option.isNone_iff_eq_none.mp (Option.isSome_eq_false_iff.mp h)

theorem Act.map_error_iff {σ α β : Type} {f : α → β} {x : Act σ α} {s : σ} {g : Fault} :
    ((f <$> x) s).1 = .error g ↔ (x s).1 = .error g := by
  rw [Act.map_apply]
  cases (x s).1 <;> simp [Except.map]

theorem Entry.FailsBy.failed {T : Type} {e : Entry T} {f : Fault} (h : e.FailsBy f) :
    e.failed = true := by
  rw [Entry.failed, h.1]

namespace Drive

/-- How a failure of the link surfaces in an operation that began in a state, by the calls it made:
in sending as a fault of the link or of something else that failed, in reading as a fault of the
operating system, which is one of the link just when the channel absorbs the failure. -/
structure Surfaces (d : Drive Float) (step : DriveStep) (b : Bench Float)
    (calls : List (Entry Float)) (r : Except Fault (Drive Float × Outcome)) : Prop where
  sending : step.sends = true → ∀ e ∈ calls, ∀ f, e.FailsBy f →
    ∃ g, r = .error g ∧ d.line.Shown FrameKind.command.size calls g
  reading : step.reads = true → ∀ e ∈ calls, ∀ f, e.FailsBy f →
    ∃ g, r = .error g ∧ g.isA .system = true ∧
      (g.isA .inverter = true ↔ d.line.channel.Absorbs f)
  /-- A port that is not open refuses every use of it, without a call. -/
  shut : d.line.isReleased b = false → ∀ c, d.line.channel = .serial c → c.connected b = false →
    (step.sends = true → ∃ g, r = .error g ∧
      (d.line.Shown FrameKind.command.size calls g ∨ g.isA .value = true)) ∧
    (step.reads = true → ∃ g, r = .error g ∧ g.isA .inverter = false)

theorem Surfaces.of_sending {α : Type} {d : Drive Float} {step : DriveStep} {b : Bench Float}
    {x : Act (Bench Float) α} (done : α → Drive Float × Outcome)
    (hdrive : Session.driveStep d step = done <$> x) (hreads : step.reads = false)
    (hx : x.Emits b (d.Reports b))
    (hshut : d.line.isReleased b = false → ∀ c, d.line.channel = .serial c →
      c.connected b = false → ∃ g, (x b).1 = .error g) :
    (Session.driveStep d step).Emits b (d.Surfaces step b) := by
  obtain ⟨calls, hgrew, hreports⟩ := hx
  rw [hdrive]
  refine ⟨calls, by rwa [Act.map_apply], ?_⟩
  refine ⟨fun _ e he f hf => ?_, fun h => ?_,
    fun hheld c hchannel hport => ⟨fun _ => ?_, fun h => ?_⟩⟩
  · obtain ⟨g, hg, hshown⟩ := hreports.blames e he hf.failed
    exact ⟨g, Act.map_error_iff.mpr hg, hshown⟩
  · rw [hreads] at h
    cases h
  · obtain ⟨g, hg⟩ := hshut hheld c hchannel hport
    exact ⟨g, Act.map_error_iff.mpr hg, hreports.shown hheld g hg⟩
  · rw [hreads] at h
    cases h

theorem Surfaces.of_reading {α : Type} {d : Drive Float} {step : DriveStep} {b : Bench Float}
    {x : Act (Bench Float) α} (done : α → Drive Float × Outcome)
    (hdrive : Session.driveStep d step = done <$> x) (hsends : step.sends = false)
    (hx : Act.Blaming d.line.channel.Heard x)
    (hshut : d.line.isReleased b = false → ∀ c, d.line.channel = .serial c →
      c.connected b = false → ∃ g, (x b).1 = .error g ∧ g.isA .inverter = false) :
    (Session.driveStep d step).Emits b (d.Surfaces step b) := by
  obtain ⟨calls, hgrew, hblames⟩ := hx b
  rw [hdrive]
  refine ⟨calls, by rwa [Act.map_apply], ?_⟩
  refine ⟨fun h => ?_, fun _ e he f hf => ?_,
    fun hheld c hchannel hport => ⟨fun h => ?_, fun _ => ?_⟩⟩
  · rw [hsends] at h
    cases h
  · obtain ⟨g, hg, hheard⟩ := hblames e he hf.failed
    exact ⟨g, Act.map_error_iff.mpr hg, hheard f hf⟩
  · rw [hsends] at h
    cases h
  · obtain ⟨g, hg, hfault⟩ := hshut hheld c hchannel hport
    exact ⟨g, Act.map_error_iff.mpr hg, hfault⟩

theorem driveStep_surfaces (d : Drive Float) (step : DriveStep) (b : Bench Float) :
    (Session.driveStep d step).Emits b (d.Surfaces step b) := by
  cases step with
  | start =>
    exact Surfaces.of_sending (fun d => (d, .nothing)) rfl rfl (d.start_reports b)
      fun hheld _ hchannel hport => command_unplugged hheld hchannel hport _ _
  | stop =>
    exact Surfaces.of_sending (fun d => (d, .nothing)) rfl rfl (d.stop_reports b)
      fun hheld _ hchannel hport => command_unplugged hheld hchannel hport _ _
  | changeSpeed rpm =>
    exact Surfaces.of_sending (fun _ => (d, .nothing)) rfl rfl (d.changeSpeed_reports rpm b)
      fun hheld _ hchannel hport => command_unplugged hheld hchannel hport _ _
  | readSpeed wait =>
    refine Surfaces.of_reading (fun reading => (d, .reading reading)) rfl rfl
      (d.readSpeed_blaming wait) fun hheld c hchannel hport => ?_
    have hclosed := readSpeed_unplugged hheld hchannel (c.port?_of_unplugged hport) wait
    exact ⟨_, congrArg Prod.fst hclosed, rfl⟩
  | readReport wait resync =>
    refine Surfaces.of_reading (fun report => (d, .report report)) rfl rfl
      (d.readReport_blaming wait resync) fun hheld c hchannel hport => ?_
    rcases readReport_unplugged hheld hchannel (c.port?_of_unplugged hport) wait resync with
      hclosed | ⟨a, ha⟩
    · exact ⟨_, hclosed, rfl⟩
    · exact ⟨_, ha, by cases a <;> rfl⟩
  | state => exact .pure ⟨by simp, by simp, by simp [DriveStep.sends, DriveStep.reads]⟩

end Drive

namespace Station

/-- A tool that lets the drive act makes the calls of the drive, and of a fault of the drive it
makes an answer or not; the link stays as it is. -/
theorem operate_shape {α : Type} (answers : Fault → Bool)
    {x : Drive Float → Act (Bench Float) (Drive Float × Answer)} {z : Act (Bench Float) α}
    {shape : α → Drive Float × Answer} {st : Station} {link : Link} (hlink : st.link = some link)
    (hx : x link.drive = shape <$> z) :
    (operate answers x st).2.bench.trace = (z st.bench).2.trace ∧
      ∀ g, (z st.bench).1 = .error g → (operate answers x st).2.link = some link ∧
        (operate answers x st).1 =
          if answers g then .ok (.refused g.kind g.message) else .error g := by
  have hrun : x link.drive st.bench = ((z st.bench).1.map shape, (z st.bench).2) := by
    rw [hx, Act.map_apply]
  cases hz : (z st.bench).1 with
  | ok a =>
    rw [hz] at hrun
    rw [operate_ok hlink hrun]
    exact ⟨rfl, fun g hg => by cases hg⟩
  | error f =>
    rw [hz] at hrun
    cases hanswers : answers f with
    | true =>
      rw [operate_refused hlink hrun hanswers]
      refine ⟨rfl, ?_⟩
      rintro g ⟨⟩
      exact ⟨rfl, by rw [if_pos hanswers]⟩
    | false =>
      rw [operate_raised hlink hrun hanswers]
      refine ⟨rfl, ?_⟩
      rintro g ⟨⟩
      exact ⟨rfl, by rw [hanswers]; rfl⟩

/-- What a tool makes of an operation of the drive: the same calls, and of a fault an answer or a
fault, where the link stays as it is. -/
structure Relays (link : Link) (step : ToolStep)
    (run : Except Fault (Drive Float × Outcome) × Bench Float)
    (run' : Except Fault Outcome × Station) : Prop where
  trace : run'.2.bench.trace = run.2.trace
  told : ∀ g, run.1 = .error g → run'.2.link = some link ∧
    run'.1 = if step.answers g then .ok (.answer (.refused g.kind g.message)) else .error g

/-- A tool relays the operation that it asks for. -/
theorem toolStep_relays {st : Station} {link : Link} (hlink : st.link = some link)
    (env : Settings.Environment) {step : ToolStep} {asked : DriveStep}
    (hstep : step.asks = some asked) :
    Relays link step (Session.driveStep link.drive asked st.bench)
      (Session.toolStep env step st) := by
  have hrelays {α : Type} {deed : Deed} (hdeed : step.deed? = some deed) (z : Act (Bench Float) α)
      {shape : α → Drive Float × Answer} (done : α → Drive Float × Outcome)
      (hact : deed.act link.drive = shape <$> z)
      (hdrive : Session.driveStep link.drive asked = done <$> z) :
      Relays link step (Session.driveStep link.drive asked st.bench)
        (Session.toolStep env step st) := by
    have hanswers (f : Fault) : step.answers f = deed.answers f := by
      rw [ToolStep.answers, hdeed]
      rfl
    obtain ⟨htrace, herror⟩ := operate_shape deed.answers hlink hact
    rw [toolStep_operates env hdeed, hdrive]
    refine ⟨by rwa [Act.map_apply, Act.map_apply], fun g hg => ?_⟩
    obtain ⟨hstays, hanswer⟩ := herror g (Act.map_error_iff.mp hg)
    rw [Act.map_apply]
    refine ⟨hstays, ?_⟩
    rw [hanswer, hanswers]
    split <;> rfl
  cases step with
  | connect | disconnect | state => cases hstep
  | start =>
    obtain rfl := Option.some.inj hstep
    exact hrelays rfl link.drive.start (fun d => (d, .nothing)) rfl rfl
  | stop =>
    obtain rfl := Option.some.inj hstep
    exact hrelays rfl link.drive.stop (fun d => (d, .nothing)) rfl rfl
  | changeSpeed rpm =>
    obtain rfl := Option.some.inj hstep
    exact hrelays rfl (link.drive.changeSpeed rpm) (fun _ => (link.drive, .nothing)) rfl rfl
  | readSpeed wait =>
    obtain rfl := Option.some.inj hstep
    exact hrelays rfl (link.drive.readSpeed wait) (fun reading => (link.drive, .reading reading))
      rfl rfl
  | readReport wait =>
    obtain rfl := Option.some.inj hstep
    exact hrelays rfl (link.drive.readReport wait true) (fun report => (link.drive, .report report))
      rfl rfl

/-- What a tool tells of a failed call on the link. -/
structure Tells (link : Link) (step : ToolStep) (asked : DriveStep) (calls : List (Entry Float))
    (f : Fault) (r : Except Fault Outcome) (st' : Station) : Prop where
  stays : st'.link = some link
  told : ∃ g, r = (if step.answers g then .ok (.answer (.refused g.kind g.message)) else .error g) ∧
    (g.isA .inverter = true → r = .ok (.answer (.refused g.kind g.message))) ∧
    (asked.sends = true → g.isA .inverter = true ∨
      ∃ e ∈ calls, e.reply = .failed g ∧ ¬ e.IsLinkFailure) ∧
    (asked.reads = true → g.isA .system = true ∧
      (g.isA .inverter = true ↔ f.isA .inverter = true ∨ f.isA .serial = true))

/-- Every failure of the link surfaces as the operation says, on every drive. Where the drive is
that of a station, a tool that asks for the operation makes the same calls, leaves the link as it
is, and answers for a fault of the link: for every failure in sending with which nothing else fails,
and in reading for those of the serial device alone. -/
theorem link_failures_told (d : Drive Float) (asked : DriveStep) (b : Bench Float) :
    (Session.driveStep d asked).Emits b (d.Surfaces asked b) ∧
    ∀ (st : Station) (link : Link), Reachable st → st.link = some link → link.drive = d →
      st.bench = b → ∀ (env : Settings.Environment) (step : ToolStep), step.asks = some asked →
        ∃ calls, (Session.toolStep env step st).2.bench.trace = b.trace ++ calls ∧
          ∀ e ∈ calls, ∀ f, e.FailsBy f →
            Tells link step asked calls f (Session.toolStep env step st).1
              (Session.toolStep env step st).2 := by
  refine ⟨d.driveStep_surfaces asked b, ?_⟩
  rintro st link hreachable hlink rfl rfl env step hasked
  obtain ⟨calls, hgrew, hsurfaces⟩ := link.drive.driveStep_surfaces asked st.bench
  obtain ⟨htrace, htells⟩ := toolStep_relays hlink env hasked
  refine ⟨calls, htrace.trans hgrew.trace, fun e he f hf => ?_⟩
  have hbuilt := hreachable.built hlink
  have htold {g : Fault} (hg : (Session.driveStep link.drive asked st.bench).1 = .error g) :
      (Session.toolStep env step st).2.link = some link ∧
        (Session.toolStep env step st).1 =
          (if step.answers g then .ok (.answer (.refused g.kind g.message)) else .error g) ∧
        (g.isA .inverter = true →
          (Session.toolStep env step st).1 = .ok (.answer (.refused g.kind g.message))) := by
    obtain ⟨hstays, hanswer⟩ := htells g hg
    refine ⟨hstays, hanswer, fun hinverter => ?_⟩
    rw [hanswer, if_pos (ToolStep.answers_of_inverter hasked hinverter)]
  rcases ToolStep.sends_or_reads hasked with hsends | hreads
  · obtain ⟨g, hg, hshown⟩ := hsurfaces.sending hsends e he f hf
    obtain ⟨hstays, hanswer, hanswered⟩ := htold hg
    refine ⟨hstays, g, hanswer, hanswered, fun _ => ?_, fun hreads => ?_⟩
    · rcases hshown with hinverter | hforeign | ⟨huntimed, -⟩
      · exact .inl hinverter
      · exact .inr hforeign
      · exact absurd (hbuilt.timed (by decide)) huntimed
    · rw [DriveStep.reads_of_sends hsends] at hreads
      cases hreads
  · obtain ⟨g, hg, hsystem, hinverter⟩ := hsurfaces.reading hreads e he f hf
    obtain ⟨hstays, hanswer, hanswered⟩ := htold hg
    rw [hbuilt.channel] at hinverter
    refine ⟨hstays, g, hanswer, hanswered, fun hsends => ?_, fun _ => ⟨hsystem, hinverter⟩⟩
    rw [DriveStep.reads_of_sends hsends] at hreads
    cases hreads

/-- A connected station whose port fails by a fault when it is polled. -/
def unpolled (f : Fault) : Station := connectedFrom (failingAt .portWaiting f)

def pollings (st : Station) : List (Entry Float) :=
  (Session.toolStep [] (.readSpeed none) st).2.bench.trace.drop st.bench.trace.length

/-- By a fault of the serial device: to ask for the speed is answered by a fault of the link, and
the link stays. -/
theorem link_failure_answered :
    ∃ (st : Station) (link : Link) (g : Fault), Reachable st ∧ st.link = some link ∧
      g.isA .inverter = true ∧
      (Session.toolStep [] (.readSpeed none) st).1 = .ok (.answer (.refused g.kind g.message)) ∧
      (Session.toolStep [] (.readSpeed none) st).2.link = some link := by
  let st := unpolled (.raised .serial "gone")
  have hreachable : Reachable st := reachable_connectedFrom _ _
  obtain ⟨link, hlink⟩ : ∃ link, st.link = some link :=
    Option.isSome_iff_exists.mp (by decide +kernel)
  obtain ⟨calls, htrace, htells⟩ :=
    (link_failures_told link.drive (.readSpeed none) st.bench).2 st link hreachable hlink rfl rfl []
      (.readSpeed none) rfl
  have hcalls : calls.map Entry.did = [(.portWaiting, .failed (.raised .serial "gone"))] := by
    have hdrop : calls = pollings st := by
      rw [pollings, htrace, List.drop_left]
    rw [hdrop]
    rfl
  obtain ⟨e, rfl, hdid⟩ := List.map_eq_singleton_iff.mp hcalls
  obtain ⟨-, hreply⟩ := Prod.mk.inj hdid
  obtain ⟨hstays, g, -, hanswered, -, hread⟩ :=
    htells e (List.mem_singleton.mpr rfl) (.raised .serial "gone") ⟨hreply, rfl⟩
  have hinverter : g.isA .inverter = true := (hread rfl).2.mpr (.inr rfl)
  exact ⟨st, link, g, hreachable, hlink, hinverter, hanswered hinverter, hstays⟩

/-- By a fault of the system that is none of the serial device: to ask for the speed raises that
fault, which is none of the link. -/
theorem link_failure_raised :
    let f : Fault := .raised .system "Input/output error"
    let st := unpolled f
    Reachable st ∧
      (∃ link, st.link = some link ∧ link.drive.line.isReleased st.bench = false) ∧
      (pollings st).map Entry.did = [(.portWaiting, .failed f)] ∧ f.isA .system = true ∧
      (Session.toolStep [] (.readSpeed none) st).1 = .error f ∧ f.isA .inverter = false := by
  refine ⟨reachable_connectedFrom _ _, ?_, rfl, rfl, rfl, rfl⟩
  exact ⟨_, rfl, rfl⟩

end Station
end SpindleLink
