import SpindleLink.Drive

/-! The calls that an action makes, whatever fails. Each action of a line is told once by the calls
that it adds to the trace and its outcome; sequences of actions are told from their parts. -/

namespace SpindleLink

variable {T : Type}

namespace Call

def isPause : Call T → Bool
  | delay _ | sleep _ => true
  | _ => false

def isWrite : Call T → Bool
  | write _ _ | portWrite _ => true
  | _ => false

def isInput : Call T → Bool
  | hasWaiting _ | read _ _ | portWaiting | portTimeout _ | portRead => true
  | _ => false

def isSignal : Call T → Bool
  | engage _ | disengage _ | portRts _ | pinOutput _ _ => true
  | _ => false

theorem isSignal_of_isPause {c : Call T} (h : c.isPause = true) : c.isSignal = false := by
  cases c <;> first | rfl | cases h

theorem isSignal_of_isWrite {c : Call T} (h : c.isWrite = true) : c.isSignal = false := by
  cases c <;> first | rfl | cases h

theorem isSignal_of_isInput {c : Call T} (h : c.isInput = true) : c.isSignal = false := by
  cases c <;> first | rfl | cases h

end Call

def Entry.failed (e : Entry T) : Bool :=
  match e.reply with
  | .failed _ => true
  | _ => false

theorem Call.countP_isWrite_of_pauses {es : List (Entry T)} (h : ∀ e ∈ es, e.call.isPause = true) :
    es.countP (·.call.isWrite) = 0 := by
  rw [List.countP_eq_zero]
  intro e he
  have hpause := h e he
  cases hcall : e.call <;> simp [hcall, Call.isPause, Call.isWrite] at hpause ⊢

namespace SerialChannel

theorem usePort_open {c : SerialChannel} {b : Bench T} {p : Port T} (h : c.port? b = some p) :
    c.usePort b = (.ok p, b) := by
  rw [usePort, Act.bind_ok (Act.observe_apply _ b), h]
  rfl

theorem usePort_closed {c : SerialChannel} {b : Bench T} (h : c.port? b = none) :
    c.usePort b = (.error (.portNotOpen c.name), b) := by
  rw [usePort, Act.bind_ok (Act.observe_apply _ b), h]
  rfl

end SerialChannel

namespace DirectionLine

def signalCall : DirectionLine → Bool → Call T
  | scripted id, high => if high then .engage id else .disengage id
  | rts _ _ activeHigh, high => .portRts (if high then activeHigh else !activeHigh)
  | gpio _ pin, high => .pinOutput pin high

/-- What a call tells the transceiver: high to transmit, low to receive. -/
def signal? : DirectionLine → Call T → Option Bool
  | scripted id, .engage i => if i = id then some true else none
  | scripted id, .disengage i => if i = id then some false else none
  | rts _ _ activeHigh, .portRts level => some (level == activeHigh)
  | gpio _ pin, .pinOutput p high => if p = pin then some high else none
  | _, _ => none

theorem signal?_eq_none {d : DirectionLine} {c : Call T} (h : c.isSignal = false) :
    d.signal? c = none := by
  cases d <;> cases c <;> first | rfl | cases h

/-- Whether a signal can reach the transceiver: it needs an open port or pin. -/
def isLive (b : Bench T) : DirectionLine → Bool
  | scripted _ => true
  | rts _ channel _ => channel.connected b
  | gpio id _ => b.pins.get id

@[simp] theorem signal?_signalCall (d : DirectionLine) (high : Bool) :
    d.signal? (d.signalCall high : Call T) = some high := by
  cases d with
  | scripted id => cases high <;> simp [signalCall, signal?]
  | rts id channel activeHigh => cases high <;> cases activeHigh <;> rfl
  | gpio id pin => simp [signalCall, signal?]

theorem isPause_signalCall (d : DirectionLine) (high : Bool) :
    (d.signalCall high : Call T).isPause = false := by
  cases d <;> cases high <;> rfl

def drive (d : DirectionLine) (high : Bool) : Act (Bench T) Unit :=
  if high then d.engage else d.disengage

theorem drive_live {d : DirectionLine} {b : Bench T} (h : d.isLive b = true) (high : Bool) :
    d.drive high b = Bench.touch (d.signalCall high) b := by
  cases d with
  | scripted id => cases high <;> rfl
  | rts id channel activeHigh =>
    obtain ⟨port, hport⟩ := Option.isSome_iff_exists.mp h
    cases high <;> exact Act.bind_ok (SerialChannel.usePort_open hport)
  | gpio id pin =>
    have hpin : b.pins.get id = true := h
    cases high <;>
      · rw [drive, signalCall]
        simp only [engage, disengage, drivePin, if_true, Bool.false_eq_true, if_false]
        rw [Act.bind_ok (Act.observe_apply _ b), hpin]
        rfl

/-- A signal that cannot reach the transceiver fails for want of a connection, with no call. -/
theorem drive_dead {d : DirectionLine} {b : Bench T} (h : d.isLive b = false) (high : Bool) :
    ∃ f, f.kind = .connection ∧ d.drive high b = (.error f, b) := by
  cases d with
  | scripted id => cases h
  | rts id channel activeHigh =>
    have hport : channel.port? b = none :=
      Option.isNone_iff_eq_none.mp (Option.isSome_eq_false_iff.mp h)
    cases high <;> exact ⟨_, rfl, Act.bind_error (SerialChannel.usePort_closed hport)⟩
  | gpio id pin =>
    have hpin : b.pins.get id = false := h
    refine ⟨.pinNotOpen pin, rfl, ?_⟩
    cases high <;>
      · rw [drive]
        simp only [engage, disengage, drivePin, if_true, Bool.false_eq_true, if_false]
        rw [Act.bind_ok (Act.observe_apply _ b), hpin]
        rfl

end DirectionLine

/-- From one state to a later one these calls were made, and what carries a signal still does. -/
structure Bench.Grew (b b' : Bench T) (es : List (Entry T)) : Prop where
  trace : b'.trace = b.trace ++ es
  live : ∀ d : DirectionLine, d.isLive b' = d.isLive b

namespace Bench.Grew

theorem refl (b : Bench T) : b.Grew b [] := ⟨(List.append_nil _).symm, fun _ => rfl⟩

theorem trans {b₁ b₂ b₃ : Bench T} {es fs : List (Entry T)} (h : b₁.Grew b₂ es)
    (h' : b₂.Grew b₃ fs) : b₁.Grew b₃ (es ++ fs) where
  trace := by rw [h'.trace, h.trace, List.append_assoc]
  live := fun d => (h'.live d).trans (h.live d)

theorem of_same {b b' : Bench T} {es : List (Entry T)} (htrace : b'.trace = b.trace ++ es)
    (hports : b'.ports = b.ports) (hpins : b'.pins = b.pins) : b.Grew b' es where
  trace := htrace
  live := by
    intro d
    cases d with
    | scripted id => rfl
    | rts id channel activeHigh =>
      simp only [DirectionLine.isLive, SerialChannel.connected, SerialChannel.port?, hports]
    | gpio id pin => simp only [DirectionLine.isLive, hpins]

theorem still {b b' : Bench T} (htrace : b'.trace = b.trace) (hports : b'.ports = b.ports)
    (hpins : b'.pins = b.pins) : b.Grew b' [] :=
  of_same (by rw [htrace, List.append_nil]) hports hpins

theorem drop {b b' : Bench T} {es : List (Entry T)} (h : b.Grew b' es) :
    b'.trace.drop b.trace.length = es := by
  rw [h.trace, List.drop_left]

end Bench.Grew
namespace Act

variable {α β : Type}

/-- From a state, the calls that an action adds and its outcome. -/
def Emits (x : Act (Bench T) α) (b : Bench T) (P : List (Entry T) → Except Fault α → Prop) : Prop :=
  ∃ es, b.Grew (x b).2 es ∧ P es (x b).1

namespace Emits

variable {x : Act (Bench T) α} {b : Bench T} {P : List (Entry T) → Except Fault α → Prop}

theorem mono (h : x.Emits b P) {Q : List (Entry T) → Except Fault α → Prop}
    (hPQ : ∀ es r, P es r → Q es r) : x.Emits b Q := by
  obtain ⟨es, hgrew, hP⟩ := h
  exact ⟨es, hgrew, hPQ es _ hP⟩

theorem pure {a : α} (h : P [] (.ok a)) : (Pure.pure a : Act (Bench T) α).Emits b P :=
  ⟨[], .refl b, h⟩

theorem raise {f : Fault} (h : P [] (.error f)) : (Act.raise f : Act (Bench T) α).Emits b P :=
  ⟨[], .refl b, h⟩

theorem ofExcept {r : Except Fault α} (h : P [] r) : (Act.ofExcept r).Emits b P :=
  ⟨[], .refl b, h⟩

theorem require (c : Prop) [Decidable c] (f : Fault) (b : Bench T) :
    (Act.require c f : Act (Bench T) Unit).Emits b fun es r =>
      es = [] ∧ r = if c then .ok () else .error f := by
  rw [Act.require]
  split
  · exact .pure ⟨rfl, rfl⟩
  · exact .raise ⟨rfl, rfl⟩

theorem note {n : Note} {P : List (Entry T) → Except Fault Unit → Prop} (h : P [] (.ok ())) :
    (Bench.note n).Emits b P :=
  ⟨[], .still rfl rfl rfl, h⟩

theorem step {f : α → Act (Bench T) β} {Q : List (Entry T) → Except Fault β → Prop} {a : α}
    (h : x b = (.ok a, b)) (hf : (f a).Emits b Q) : (x >>= f).Emits b Q := by
  rw [Act.Emits, Act.bind_ok h]
  exact hf

theorem stop {f : α → Act (Bench T) β} {Q : List (Entry T) → Except Fault β → Prop} {e : Fault}
    (h : x b = (.error e, b)) (hQ : Q [] (.error e)) : (x >>= f).Emits b Q := by
  rw [Act.Emits, Act.bind_error h]
  exact ⟨[], .refl b, hQ⟩

theorem attempt (h : x.Emits b P) :
    x.attempt.Emits b fun es r => ∃ outcome, r = .ok outcome ∧ P es outcome := by
  obtain ⟨es, hgrew, hP⟩ := h
  exact ⟨es, hgrew, _, rfl, hP⟩

theorem behind_note {n : Note} {f : Unit → Act (Bench T) β}
    {Q : List (Entry T) → Except Fault β → Prop} (hf : ∀ b', b.Grew b' [] → (f ()).Emits b' Q) :
    (Bench.note n >>= f).Emits b Q := by
  have hgrew : b.Grew { b with log := b.log ++ [n] } [] :=
    .still rfl rfl rfl
  obtain ⟨es, hgrew', hQ⟩ := hf _ hgrew
  exact ⟨es, hgrew.trans hgrew', hQ⟩

/-- The calls of a sequence are those of the first action, and then, if it ended well, those of
the next, which starts where the same signals are live. -/
theorem bind {f : α → Act (Bench T) β} {Q : α → List (Entry T) → Except Fault β → Prop}
    {R : List (Entry T) → Except Fault β → Prop} (hx : x.Emits b P)
    (hf : ∀ a b' es, b.Grew b' es → (f a).Emits b' (Q a))
    (herror : ∀ es e, P es (.error e) → R es (.error e))
    (hok : ∀ es a fs r, P es (.ok a) → Q a fs r → R (es ++ fs) r) : (x >>= f).Emits b R := by
  obtain ⟨es, hgrew, hP⟩ := hx
  rcases hrun : x b with ⟨e | a, b₁⟩
  · rw [hrun] at hgrew hP
    refine ⟨es, ?_, ?_⟩
    · rw [Act.bind_error hrun]
      exact hgrew
    · rw [Act.bind_error hrun]
      exact herror es e hP
  · rw [hrun] at hgrew hP
    obtain ⟨fs, hgrew', hQ⟩ := hf a b₁ es hgrew
    refine ⟨es ++ fs, ?_, ?_⟩
    · rw [Act.bind_ok hrun]
      exact hgrew.trans hgrew'
    · rw [Act.bind_ok hrun]
      exact hok es a fs _ hP hQ

theorem map {f : α → β} {Q : List (Entry T) → Except Fault β → Prop}
    (h : x.Emits b fun es r => Q es (r.map f)) : (f <$> x).Emits b Q := by
  rw [Act.Emits, Act.map_apply]
  exact h

/-- A handler goes on behind the calls of the action that failed. -/
theorem orElse {handle : Fault → Act (Bench T) α}
    {Q : Fault → List (Entry T) → Except Fault α → Prop}
    {R : List (Entry T) → Except Fault α → Prop} (hx : x.Emits b P)
    (hhandle : ∀ e b' es, b.Grew b' es → (handle e).Emits b' (Q e))
    (hok : ∀ es a, P es (.ok a) → R es (.ok a))
    (herror : ∀ es e fs r, P es (.error e) → Q e fs r → R (es ++ fs) r) :
    (x.orElse handle).Emits b R := by
  obtain ⟨es, hgrew, hP⟩ := hx
  rcases hrun : x b with ⟨e | a, b₁⟩
  · rw [hrun] at hgrew hP
    obtain ⟨fs, hgrew', hQ⟩ := hhandle e b₁ es hgrew
    refine ⟨es ++ fs, ?_, ?_⟩
    · rw [Act.orElse_error hrun]
      exact hgrew.trans hgrew'
    · rw [Act.orElse_error hrun]
      exact herror es e fs _ hP hQ
  · rw [hrun] at hgrew hP
    refine ⟨es, ?_, ?_⟩
    · rw [Act.orElse_ok hrun]
      exact hgrew
    · rw [Act.orElse_ok hrun]
      exact hok es a hP

theorem relabel {f : Fault → Fault} {R : List (Entry T) → Except Fault α → Prop}
    (hx : x.Emits b P) (hok : ∀ es a, P es (.ok a) → R es (.ok a))
    (herror : ∀ es e, P es (.error e) → R es (.error (f e))) : (x.relabel f).Emits b R := by
  apply hx.orElse (Q := fun e es r => es = [] ∧ r = .error (f e))
  · intro e b' _ _
    exact raise ⟨rfl, rfl⟩
  · exact hok
  · intro es e fs r hP h
    obtain ⟨rfl, rfl⟩ := h
    rw [List.append_nil]
    exact herror es e hP

end Emits

/-- A single call was made, and its reply tells the outcome. -/
def Made (c : Call T) (reply : α → Reply) (es : List (Entry T)) (r : Except Fault α) : Prop :=
  ∃ e, es = [e] ∧ e.call = c ∧
    match r with
    | .ok a => e.reply = reply a
    | .error f => e.reply = .failed f

theorem perform_emits {c : Call T} {reply : α → Reply} {work : Bench T → α × Bench T}
    {b : Bench T} (hwork : b.Grew (work (b.counted c)).2 []) :
    (Bench.perform c reply work).Emits b (Made c reply) := by
  rcases hplan : (b.plans.get c.point).current with _ | f
  · refine ⟨[⟨b.now, c, reply (work (b.counted c)).1⟩], ?_, ?_⟩
    · rw [Bench.perform_of_clear hplan]
      exact ⟨by rw [hwork.trace, List.append_nil], hwork.live⟩
    · rw [Bench.perform_of_clear hplan]
      exact ⟨_, rfl, rfl, rfl⟩
  · refine ⟨[⟨b.now, c, .failed f⟩], ?_, ?_⟩
    · rw [Bench.perform_of_fault hplan]
      exact .of_same rfl rfl rfl
    · rw [Bench.perform_of_fault hplan]
      exact ⟨_, rfl, rfl, rfl⟩

theorem touch_emits (c : Call T) (b : Bench T) :
    (Bench.touch c).Emits b (Made c fun _ => .done) :=
  perform_emits (.still rfl rfl rfl)

namespace Made

variable {c : Call T} {reply : α → Reply} {es : List (Entry T)}

theorem forall_call {r : Except Fault α} (h : Made c reply es r) : ∀ e ∈ es, e.call = c := by
  obtain ⟨e, rfl, hcall, -⟩ := h
  intro e' he'
  rw [List.mem_singleton.mp he', hcall]

theorem map_did {a : α} (h : Made c reply es (.ok a)) : es.map Entry.did = [(c, reply a)] := by
  obtain ⟨e, rfl, hcall, hreply⟩ := h
  rw [List.map_singleton, Entry.did, hcall, hreply]

theorem countP_le {r : Except Fault α} (h : Made c reply es r) (p : Entry T → Bool) :
    es.countP p ≤ 1 := by
  obtain ⟨e, rfl, -, -⟩ := h
  exact List.countP_le_length

theorem failed {f : Fault} (h : Made c reply es (.error f)) : ∀ e ∈ es, e.failed = true := by
  obtain ⟨e, rfl, -, hreply⟩ := h
  intro e' he'
  rw [List.mem_singleton.mp he', Entry.failed, hreply]

end Made
/-- From every state, all calls that an action makes are of one sort. -/
def Makes (p : Call T → Prop) (x : Act (Bench T) α) : Prop :=
  ∀ b, x.Emits b fun es _ => ∀ e ∈ es, p e.call

namespace Makes

variable {p : Call T → Prop} {x : Act (Bench T) α}

theorem pure (a : α) : Makes p (Pure.pure a : Act (Bench T) α) :=
  fun _ => Emits.pure (by simp)

theorem raise (f : Fault) : Makes p (Act.raise f : Act (Bench T) α) :=
  fun _ => Emits.raise (by simp)

theorem ofExcept (r : Except Fault α) : Makes p (Act.ofExcept r : Act (Bench T) α) :=
  fun _ => Emits.ofExcept (by simp)

theorem observe (f : Bench T → α) : Makes p (Act.observe f) :=
  fun b => ⟨[], .refl b, by simp⟩

theorem note (n : Note) : Makes p (Bench.note n : Act (Bench T) Unit) :=
  fun _ => Emits.note (by simp)

theorem readClock [TimeScale T] : Makes p (Bench.readClock : Act (Bench T) T) :=
  fun _ => ⟨[], .still rfl rfl rfl, by simp⟩

/-- Behind an action that makes such calls from one state. -/
theorem behind {f : α → Act (Bench T) β} {b : Bench T}
    (hx : x.Emits b fun es _ => ∀ e ∈ es, p e.call) (hf : ∀ a, Makes p (f a)) :
    (x >>= f).Emits b fun es _ => ∀ e ∈ es, p e.call := by
  apply hx.bind fun a b' _ _ => hf a b'
  · intro es e hes
    exact hes
  · intro es a fs r hes hfs e he
    exact (List.mem_append.mp he).elim (hes e) (hfs e)

theorem bind {f : α → Act (Bench T) β} (hx : Makes p x) (hf : ∀ a, Makes p (f a)) :
    Makes p (x >>= f) :=
  fun b => behind (hx b) hf

theorem map {f : α → β} (hx : Makes p x) : Makes p (f <$> x) :=
  fun b => Emits.map (hx b)

theorem orElse {handle : Fault → Act (Bench T) α} (hx : Makes p x)
    (hhandle : ∀ e, Makes p (handle e)) : Makes p (x.orElse handle) := by
  intro b
  apply (hx b).orElse fun e b' _ _ => hhandle e b'
  · intro es a hes
    exact hes
  · intro es f fs r hes hfs e he
    exact (List.mem_append.mp he).elim (hes e) (hfs e)

theorem relabel {f : Fault → Fault} (hx : Makes p x) : Makes p (x.relabel f) :=
  hx.orElse fun e => raise (f e)

theorem ensuring {last : Act (Bench T) Unit} (hx : Makes p x) (hlast : Makes p last) :
    Makes p (x.ensuring last) := by
  intro b
  obtain ⟨es, hgrew, hes⟩ := hx b
  obtain ⟨fs, hgrew', hfs⟩ := hlast (x b).2
  refine ⟨es ++ fs, ?_, ?_⟩
  · unfold Act.ensuring
    rcases hrun : last (x b).2 with ⟨_ | _, b'⟩
    · rw [hrun] at hgrew'
      exact hgrew.trans hgrew'
    · rw [hrun] at hgrew'
      exact hgrew.trans hgrew'
  · intro e he
    exact (List.mem_append.mp he).elim (hes e) (hfs e)

theorem change {f : Bench T → Bench T} (hf : ∀ b : Bench T, b.Grew (f b) []) :
    Makes p (Act.change f) :=
  fun b => ⟨[], hf b, by simp⟩

theorem onlyIf {c : Prop} [Decidable c] {x : Act (Bench T) Unit} (hx : Makes p x) :
    Makes p (Act.onlyIf c x) := by
  rw [Act.onlyIf]
  split
  · exact hx
  · exact pure ()

theorem require {c : Prop} [Decidable c] {f : Fault} :
    Makes p (Act.require c f : Act (Bench T) Unit) := by
  rw [Act.require]
  split
  · exact pure ()
  · exact raise f

theorem ite {c : Prop} [Decidable c] {x y : Act (Bench T) α} (hx : Makes p x) (hy : Makes p y) :
    Makes p (if c then x else y) := by
  split
  · exact hx
  · exact hy

theorem perform {c : Call T} {reply : α → Reply} {work : Bench T → α × Bench T} (hc : p c)
    (hwork : ∀ b : Bench T, b.Grew (work (b.counted c)).2 []) :
    Makes p (Bench.perform c reply work) := by
  intro b
  apply (perform_emits (hwork b)).mono
  intro es r hmade e he
  rw [hmade.forall_call e he]
  exact hc

end Makes
end Act
end SpindleLink
