import SpindleLink.Proofs.LineTraffic

/-! A transmission is framed: it begins with the signal to transmit and ends with the one to
receive, whatever fails between them and whether or not they fail themselves. It ends well exactly
when all its calls are made and succeed. -/

namespace SpindleLink

variable {T : Type} [TimeScale T]

namespace Line

variable {l : Line} {data : Bytes} {es : List (Entry T)} {r : Except Fault Unit}

/-- The calls between the two signals when nothing fails. -/
def OnWire (l : Line) (data : Bytes) (calls : List (Call T × Reply)) : Prop :=
  ∃ settling sent hold holding, l.pacing.call? settle = some settling ∧
    l.channel.Took data (some data.length) sent ∧ l.holdTime data.length = .ok hold ∧
    l.pacing.call? hold = some holding ∧
    calls = (settling, .done) :: sent ++ [(holding, .done)]

/-- All the calls of a transmission, each of them done. -/
def Full (l : Line) (data : Bytes) (calls : List (Call T × Reply)) : Prop :=
  ∃ wire turning, l.OnWire data wire ∧ l.pacing.call? turnaround = some turning ∧
    calls = (l.direction.signalCall true, .done) :: wire ++
      [(l.direction.signalCall false, .done), (turning, .done)]

/-- Calls between two signals: the only write stands there, if the first signal did not fail, and
behind the second one there are only pauses. -/
def Framed (l : Line) (data : Bytes) (es : List (Entry T)) : Prop :=
  ∃ up held down after, es = up :: held ++ down :: after ∧
    up.call = l.direction.signalCall true ∧ down.call = l.direction.signalCall false ∧
    (∀ e ∈ held, e.call.isPause = true ∨ l.channel.Sends data e.call) ∧
    held.countP (·.call.isWrite) ≤ 1 ∧ (up.failed = true → held = []) ∧
    ∀ e ∈ after, e.call.isPause = true

/-- What a transmission does: on a released line, and when the signal cannot reach the transceiver,
it makes no call and fails; otherwise it is framed. It ends well exactly when it is full. -/
structure Transmitted {α : Type} (l : Line) (data : Bytes) (b : Bench T) (es : List (Entry T))
    (r : Except Fault α) : Prop where
  released : l.isReleased b = true → es = []
  dead : l.direction.isLive b = false → es = []
  framed : l.isReleased b = false → l.direction.isLive b = true → l.Framed data es
  returned : (∃ a, r = .ok a) ↔ l.Full data (es.map Entry.did)

/-- What happens between the two signals. -/
structure Wired (l : Line) (data : Bytes) (es : List (Entry T)) (r : Except Fault Unit) : Prop where
  calls : ∀ e ∈ es, e.call.isPause = true ∨ l.channel.Sends data e.call
  once : es.countP (·.call.isWrite) ≤ 1
  done : r = .ok () → l.OnWire data (es.map Entry.did)

/-- What happens between the two signals behind the first pause. -/
structure Sent (l : Line) (data : Bytes) (es : List (Entry T)) (r : Except Fault Unit) : Prop where
  calls : ∀ e ∈ es, e.call.isPause = true ∨ l.channel.Sends data e.call
  once : es.countP (·.call.isWrite) ≤ 1
  done : r = .ok () → ∃ sent hold holding, l.channel.Took data (some data.length) sent ∧
    l.holdTime data.length = .ok hold ∧ l.pacing.call? hold = some holding ∧
    es.map Entry.did = sent ++ [(holding, .done)]

/-- The end of it: all bytes were accepted, and the wait is as long as they need. -/
structure Held (l : Line) (data : Bytes) (accepted : Option Int) (es : List (Entry T))
    (r : Except Fault Unit) : Prop where
  pauses : ∀ e ∈ es, e.call.isPause = true
  done : r = .ok () → accepted = some (data.length : Int) ∧ ∃ hold holding,
    l.holdTime data.length = .ok hold ∧ l.pacing.call? hold = some holding ∧
      es.map Entry.did = [(holding, .done)]

/-- A transmission before its second signal. -/
structure Raised (l : Line) (data : Bytes) (up : Entry T) (held : List (Entry T))
    (r : Except Fault Unit) : Prop where
  signal : up.call = l.direction.signalCall true
  calls : ∀ e ∈ held, e.call.isPause = true ∨ l.channel.Sends data e.call
  once : held.countP (·.call.isWrite) ≤ 1
  refused : up.failed = true → held = []
  done : r = .ok () → up.reply = .done ∧ l.OnWire data (held.map Entry.did)

/-- The second signal and what follows. -/
structure Lowered (l : Line) (down : Entry T) (after : List (Entry T)) (r : Except Fault Unit) :
    Prop where
  signal : down.call = l.direction.signalCall false
  pauses : ∀ e ∈ after, e.call.isPause = true
  done : r = .ok () → down.reply = .done ∧
    ∃ turning, l.pacing.call? turnaround = some turning ∧ after.map Entry.did = [(turning, .done)]
  undone : ∀ f turning, r = .error f → l.pacing.call? turnaround = some (turning : Call T) →
    ∀ e ∈ after, e.failed = true

/-- A transmission behind its first signal. -/
def wire (l : Line) (data : Bytes) : Act (Bench T) Unit := do
  l.pacing.pause settle
  let accepted ← (l.channel.write data).relabel (ofSystem .channelWrite)
  Act.require (accepted = some (data.length : Int)) (.shortWrite accepted data.length)
  Bench.note (.sent data)
  let hold ← Act.ofExcept (l.holdTime data.length)
  l.pacing.pause hold

theorem transmission_eq (l : Line) (data : Bytes) :
    (l.transmission data : Act (Bench T) Unit) =
      (switch (l.direction.drive true) >>= fun _ => l.wire data) := rfl

theorem hold_emits (l : Line) (data : Bytes) (accepted : Option Int) (b : Bench T) :
    (do
      Act.require (accepted = some (data.length : Int)) (.shortWrite accepted data.length)
      Bench.note (.sent data)
      let hold ← Act.ofExcept (l.holdTime data.length)
      l.pacing.pause hold).Emits b (l.Held data accepted) := by
  by_cases haccepted : accepted = some (data.length : Int)
  · have hrequire : (Act.require (accepted = some (data.length : Int))
        (.shortWrite accepted data.length) : Act (Bench T) Unit) b = (.ok (), b) := by
      rw [Act.require, if_pos haccepted]
      rfl
    apply Act.Emits.step hrequire
    apply Act.Emits.behind_note
    intro b' _
    cases hhold : l.holdTime data.length with
    | error f => exact .stop rfl ⟨by simp, by simp⟩
    | ok hold =>
      have hpause := l.pacing.pause_emits hold b'
      apply Act.Emits.step rfl
      apply hpause.mono
      intro es r h
      have hdone : r = .ok () → accepted = some (data.length : Int) ∧ ∃ hold' holding,
          l.holdTime data.length = .ok hold' ∧ l.pacing.call? hold' = some holding ∧
            es.map Entry.did = [(holding, .done)] := by
        intro hr
        obtain ⟨holding, hcall, hdid⟩ := h.done hr
        exact ⟨haccepted, hold, holding, hhold, hcall, hdid⟩
      exact ⟨h.pauses, hdone⟩
  · have hrequire : (Act.require (accepted = some (data.length : Int))
        (.shortWrite accepted data.length) : Act (Bench T) Unit) b =
        (.error (.shortWrite accepted data.length), b) := by
      rw [Act.require, if_neg haccepted]
      rfl
    exact .stop hrequire ⟨by simp, by simp⟩

theorem sent_emits (l : Line) (data : Bytes) (b : Bench T) :
    (do
      let accepted ← (l.channel.write data).relabel (ofSystem .channelWrite)
      Act.require (accepted = some (data.length : Int)) (.shortWrite accepted data.length)
      Bench.note (.sent data)
      let hold ← Act.ofExcept (l.holdTime data.length)
      l.pacing.pause hold).Emits b (l.Sent data) := by
  have hwrite : ((l.channel.write data).relabel (ofSystem .channelWrite)).Emits b
      (l.channel.Wrote data) :=
    (l.channel.write_emits data b).relabel (fun _ _ h => h)
      fun es e h => ⟨h.sends, h.once, fun _ h => by cases h⟩
  apply hwrite.bind fun accepted b' _ _ => l.hold_emits data accepted b'
  · intro es e h
    exact ⟨fun e he => .inr (h.sends e he), h.once, by simp⟩
  · intro es accepted fs r h hheld
    have hcalls : ∀ e ∈ es ++ fs, e.call.isPause = true ∨ l.channel.Sends data e.call := by
      intro e he
      rcases List.mem_append.mp he with he | he
      · exact .inr (h.sends e he)
      · exact .inl (hheld.pauses e he)
    have honce : (es ++ fs).countP (·.call.isWrite) ≤ 1 := by
      rw [List.countP_append, Call.countP_isWrite_of_pauses hheld.pauses]
      exact h.once
    refine ⟨hcalls, honce, ?_⟩
    intro hdone
    obtain ⟨rfl, hold, holding, hhold, hcall, hdid⟩ := hheld.done hdone
    have htook := h.took _ rfl
    refine ⟨_, hold, holding, htook, hhold, hcall, ?_⟩
    rw [List.map_append, hdid]

theorem wire_emits (l : Line) (data : Bytes) (b : Bench T) :
    (l.wire data).Emits b (l.Wired data) := by
  have hpause := l.pacing.pause_emits settle b
  apply hpause.bind fun _ b' _ _ => l.sent_emits data b'
  · intro es e h
    have honce : es.countP (·.call.isWrite) ≤ 1 := by
      rw [Call.countP_isWrite_of_pauses h.pauses]
      exact Nat.zero_le 1
    exact ⟨fun e he => .inl (h.pauses e he), honce, by simp⟩
  · intro es u fs r h hsent
    have hcalls : ∀ e ∈ es ++ fs, e.call.isPause = true ∨ l.channel.Sends data e.call := by
      intro e he
      rcases List.mem_append.mp he with he | he
      · exact .inl (h.pauses e he)
      · exact hsent.calls e he
    have honce : (es ++ fs).countP (·.call.isWrite) ≤ 1 := by
      rw [List.countP_append, Call.countP_isWrite_of_pauses h.pauses, Nat.zero_add]
      exact hsent.once
    refine ⟨hcalls, honce, ?_⟩
    intro hdone
    obtain ⟨settling, hsettling, hpaused⟩ := h.done rfl
    obtain ⟨sent, hold, holding, htook, hhold, hholding, hdid⟩ := hsent.done hdone
    refine ⟨settling, sent, hold, holding, hsettling, htook, hhold, hholding, ?_⟩
    rw [List.map_append, hpaused, hdid]
    rfl

theorem transmission_emits {b : Bench T} (hlive : l.direction.isLive b = true) (data : Bytes) :
    (l.transmission data).Emits b fun es r =>
      ∃ up held, es = up :: held ∧ l.Raised data up held r := by
  have hswitch := switch_emits hlive true
  rw [transmission_eq]
  apply hswitch.bind fun _ b' _ _ => l.wire_emits data b'
  · intro es f h
    obtain ⟨up, rfl, hcall, -⟩ := h
    exact ⟨up, [], rfl, hcall, by simp, by simp, fun _ => rfl, by simp⟩
  · intro es u held r h hwired
    obtain ⟨up, rfl, hcall, ⟨-, hreply⟩ | ⟨⟨f, hf⟩, -⟩⟩ := h
    · have hgood : up.failed = false := by rw [Entry.failed, hreply]
      have hrefused : up.failed = true → held = [] := by
        intro hfailed
        rw [hgood] at hfailed
        cases hfailed
      have hdone : r = .ok () → up.reply = .done ∧ l.OnWire data (held.map Entry.did) :=
        fun hr => ⟨hreply, hwired.done hr⟩
      exact ⟨up, held, rfl, hcall, hwired.calls, hwired.once, hrefused, hdone⟩
    · cases hf

theorem close_emits {b : Bench T} (hlive : l.direction.isLive b = true) :
    (do
      switch l.direction.disengage
      l.pacing.pause turnaround : Act (Bench T) Unit).Emits b fun es r =>
        ∃ down after, es = down :: after ∧ l.Lowered down after r := by
  have hswitch := switch_emits hlive false
  apply hswitch.bind fun _ b' _ _ => l.pacing.pause_emits turnaround b'
  · intro es f h
    obtain ⟨down, rfl, hcall, -⟩ := h
    exact ⟨down, [], rfl, hcall, by simp, by simp, by simp⟩
  · intro es u after r h hpaused
    obtain ⟨down, rfl, hcall, ⟨-, hreply⟩ | ⟨⟨f, hf⟩, -⟩⟩ := h
    · exact ⟨down, after, rfl, hcall, hpaused.pauses, fun hdone => ⟨hreply, hpaused.done hdone⟩,
        hpaused.undone⟩
    · cases hf

/-- Before the second signal and behind it: together they are framed. -/
theorem Raised.framed {up down : Entry T} {held after : List (Entry T)} {r r' : Except Fault Unit}
    (h : l.Raised data up held r) (h' : l.Lowered down after r') :
    l.Framed data (up :: held ++ down :: after) :=
  ⟨up, held, down, after, rfl, h.signal, h'.signal, h.calls, h.once, h.refused, h'.pauses⟩

theorem Raised.full {up down : Entry T} {held after : List (Entry T)}
    (h : l.Raised data up held (.ok ())) (h' : l.Lowered down after (.ok ())) :
    l.Full data ((up :: held ++ down :: after).map Entry.did) := by
  obtain ⟨hup, hwire⟩ := h.done rfl
  obtain ⟨hdown, turning, hturning, hafter⟩ := h'.done rfl
  refine ⟨_, turning, hwire, hturning, ?_⟩
  rw [List.map_append, List.map_cons, List.map_cons, hafter, Entry.did, Entry.did, h.signal,
    h'.signal, hup, hdown]

theorem Lowered.not_full {down : Entry T} {es after : List (Entry T)} {f : Fault}
    (h : l.Lowered down after (.error f)) :
    ¬ l.Full data ((es ++ down :: after).map Entry.did) := by
  -- The last call of a full transmission is a pause that was done, so none is full that ends badly.
  intro hfull
  obtain ⟨wire, turning, -, hturning, heq⟩ := hfull
  have hlast : ((es ++ down :: after).map Entry.did).getLast? = some (turning, .done) := by
    rw [heq, List.getLast?_append]
    rfl
  rw [List.map_append, List.getLast?_append, List.map_cons] at hlast
  rcases List.eq_nil_or_concat after with rfl | ⟨init, e, rfl⟩
  · have hdid : down.did = (turning, .done) := Option.some.inj hlast
    have hpause := Pacing.isPause_of_call? hturning
    rw [← (Prod.mk.inj hdid).1, h.signal, DirectionLine.isPause_signalCall] at hpause
    cases hpause
  · rw [List.concat_eq_append, List.map_append, ← List.cons_append, List.getLast?_append] at hlast
    have hdid : e.did = (turning, .done) := Option.some.inj hlast
    have hfailed := h.undone f turning rfl hturning e (by simp)
    rw [Entry.failed, (Prod.mk.inj hdid).2] at hfailed
    cases hfailed

theorem not_full_nil : ¬ l.Full data ([] : List (Call T × Reply)) := by
  intro hfull
  obtain ⟨wire, turning, -, -, h⟩ := hfull
  cases h

/-- On a held line whose signal can reach the transceiver a transmission is framed, and it ends well
exactly when it is full. -/
theorem send_live {b : Bench T} (hheld : l.isReleased b = false)
    (hlive : l.direction.isLive b = true) (data : Bytes) :
    (l.send data).Emits b fun es r =>
      l.Framed data es ∧ (r = .ok () ↔ l.Full data (es.map Entry.did)) := by
  have htransmission := (transmission_emits hlive data).attempt
  apply Act.Emits.step (requireHeld_of_held hheld)
  -- Whatever the transmission came to, the line is told to receive behind it.
  apply htransmission.bind (Q := fun outcome es r =>
    (∃ down after, es = down :: after ∧ l.Lowered down after r) ∧
      ∀ f, outcome = .error f → r ≠ .ok ())
  · intro outcome b' es hgrew
    have hlive' : l.direction.isLive b' = true := (hgrew.live l.direction).trans hlive
    cases outcome with
    | error f =>
      have hdown : (switch (l.direction.drive false)).Emits b' fun es _ =>
          ∃ down : Entry T, es = [down] ∧ down.call = l.direction.signalCall false :=
        (switch_emits hlive' false).mono fun es r ⟨down, hes, hcall, _⟩ => ⟨down, hes, hcall⟩
      apply (recover_emits hdown f).mono
      intro es r h
      obtain ⟨⟨down, rfl, hcall⟩, hr⟩ := h
      have hlowered : l.Lowered down [] r :=
        ⟨hcall, by simp, fun hdone => absurd hdone hr, by simp⟩
      exact ⟨⟨down, [], rfl, hlowered⟩, fun _ _ => hr⟩
    | ok u => exact (close_emits hlive').mono fun es r h => ⟨h, by simp⟩
  · intro es e h
    obtain ⟨outcome, houtcome, -⟩ := h
    cases houtcome
  · intro es outcome fs r h h'
    obtain ⟨outcome', houtcome, up, held, rfl, hraised⟩ := h
    obtain ⟨⟨down, after, rfl, hlowered⟩, hbad⟩ := h'
    obtain rfl := Except.ok.inj houtcome
    refine ⟨hraised.framed hlowered, ?_⟩
    cases r with
    | error f => exact ⟨by simp, fun hfull => absurd hfull hlowered.not_full⟩
    | ok u =>
      cases outcome with
      | error f => exact absurd rfl (hbad f rfl)
      | ok u => exact ⟨fun _ => hraised.full hlowered, fun _ => rfl⟩

theorem send_dead {b : Bench T} (hheld : l.isReleased b = false)
    (hdead : l.direction.isLive b = false) (data : Bytes) :
    (l.send data).Emits b fun es r => es = [] ∧ r ≠ .ok () := by
  obtain ⟨f, hup⟩ := switch_dead hdead true
  have htransmission : (l.transmission data).attempt b = (.ok (.error (.direction f)), b) := by
    rw [Act.attempt_apply, transmission_eq, Act.bind_error hup]
  apply Act.Emits.step (requireHeld_of_held hheld)
  apply Act.Emits.step htransmission
  exact recover_emits (switch_dead_emits hdead false) _

theorem send_transmitted (l : Line) (data : Bytes) (b : Bench T) :
    (l.send data).Emits b (l.Transmitted data b) := by
  have hnone {r : Except Fault Unit} (hr : r ≠ .ok ())
      (hdead : l.isReleased b = false → l.direction.isLive b = false) :
      l.Transmitted data b [] r := by
    refine ⟨fun _ => rfl, fun _ => rfl, fun hheld hlive => ?_, fun hgood => ?_, fun hfull => ?_⟩
    · rw [hdead hheld] at hlive
      cases hlive
    · obtain ⟨u, rfl⟩ := hgood
      exact absurd rfl hr
    · exact absurd hfull not_full_nil
  cases hreleased : l.isReleased b with
  | true =>
    have hheld : l.isReleased b = false → l.direction.isLive b = false := by
      intro h
      rw [hreleased] at h
      cases h
    exact .stop (requireHeld_of_released hreleased) (hnone (by simp) hheld)
  | false =>
    cases hlive : l.direction.isLive b with
    | false =>
      apply (send_dead hreleased hlive data).mono
      intro es r h
      obtain ⟨rfl, hr⟩ := h
      exact hnone hr fun _ => hlive
    | true =>
      apply (send_live hreleased hlive data).mono
      intro es r h
      obtain ⟨hframed, hreturned⟩ := h
      refine ⟨fun h => ?_, fun h => ?_, fun _ _ => hframed, ?_⟩
      · rw [hreleased] at h
        cases h
      · rw [hlive] at h
        cases h
      · rw [← hreturned]
        exact ⟨fun ⟨_, h⟩ => h, fun h => ⟨(), h⟩⟩

theorem Transmitted.congr {α β : Type} {b : Bench T} {r : Except Fault α}
    {r' : Except Fault β} (h : l.Transmitted data b es r)
    (hr : (∃ a, r = .ok a) ↔ ∃ a, r' = .ok a) : l.Transmitted data b es r' :=
  ⟨h.released, h.dead, h.framed, hr.symm.trans h.returned⟩

theorem Transmitted.map {α β : Type} {b : Bench T} {r : Except Fault α}
    (h : l.Transmitted data b es r) (f : α → β) : l.Transmitted data b es (r.map f) := by
  refine h.congr ?_
  cases r with
  | error e => simp [Except.map]
  | ok a => simp [Except.map]

end Line
end SpindleLink
