import SpindleLink.Proofs.Arrival
import SpindleLink.Proofs.Collecting
import SpindleLink.Proofs.LineTraffic

/-! Receiving neither loses nor doubles a byte. On a line whose channel answers, the bytes that were
brought and those still unread make up what was there to read, at whichever byte the deadline or a
silent channel ends the reading. -/

namespace SpindleLink

variable {T : Type} [TimeScale T]

theorem ByteSource.unread_take (s : ByteSource T) (now : T) (wait : Option T) :
    s.unread = (s.take now wait).1.toList ++ (s.take now wait).2.1.unread := by
  rcases htake : s.take now wait with ⟨_ | byte, s', later⟩
  · rw [eq_of_take_none htake]
    rfl
  · exact unread_of_take htake

def Inquiry.call? (id : Nat) : Inquiry T → Option (Call T)
  | poll _ => some (.hasWaiting id)
  | read wait _ => some (.read id wait)
  | clock _ => none

/-- A scripted channel is called for each question and for nothing else. -/
theorem Channel.Asked.calls {id : Nat} {asked : List (Inquiry T)} {b b' : Bench T}
    (h : (Channel.scripted id).Asked asked b b') :
    ∃ es, b'.trace = b.trace ++ es ∧ es.map Entry.call = asked.filterMap (Inquiry.call? id) := by
  have hcall {α : Type} {x : Act (Bench T) α} {c : Call T} {reply : α → Reply} {b : Bench T}
      (hx : x.Emits b (Act.Made c reply)) {more : List (Inquiry T)}
      (ih : ∃ es, b'.trace = (x b).2.trace ++ es ∧
        es.map Entry.call = more.filterMap (Inquiry.call? id)) :
      ∃ es, b'.trace = b.trace ++ es ∧
        es.map Entry.call = c :: more.filterMap (Inquiry.call? id) := by
    obtain ⟨_, hgrew, e, rfl, rfl, -⟩ := hx
    obtain ⟨es, htrace, hes⟩ := ih
    refine ⟨e :: es, ?_, by rw [List.map_cons, hes]⟩
    rw [htrace, hgrew.trace, List.append_assoc]
    rfl
  induction h with
  | nil b => exact ⟨[], (List.append_nil _).symm, rfl⟩
  | note n rest ih => exact ih hcall
  | poll rest ih => exact hcall (Act.perform_emits (.still rfl rfl rfl)) (ih hcall)
  | read wait rest ih =>
    refine hcall (Act.perform_emits ?_) (ih hcall)
    split
    · exact .still rfl rfl rfl
    · exact .still rfl rfl rfl
  | clock reading rest ih =>
    obtain ⟨-, rfl⟩ := Prod.mk.inj reading
    exact ih hcall

/-- Questions take bytes from the front and no others, and each is answered. -/
theorem Channel.Asked.conserves {l : Line} {asked : List (Inquiry T)} {b b' : Bench T}
    (hasked : l.channel.Asked asked b b') {source : ByteSource T} {clock : Clock T}
    (h : l.Listens source clock b) :
    ∃ source' clock', l.Listens source' clock' b' ∧
      source.unread = brought asked ++ source'.unread ∧ ∀ i ∈ asked, i.fault? = none := by
  induction hasked generalizing source clock with
  | nil b => exact ⟨source, clock, h, rfl, by simp⟩
  | note n rest ih =>
    obtain ⟨b₁, hnote, h₁⟩ := h.note n
    rw [hnote] at ih
    exact ih h₁
  | poll rest ih =>
    obtain ⟨b₁, hpoll, h₁⟩ := h.hasWaiting
    rw [hpoll] at ih
    obtain ⟨source', clock', h', hunread, hanswered⟩ := ih h₁
    refine ⟨source', clock', h', ?_, ?_⟩
    · rw [hunread, brought_poll]
    · rw [hpoll]
      exact List.forall_mem_cons.mpr ⟨rfl, hanswered⟩
  | read wait rest ih =>
    -- Only here a byte is taken: the first that is unread, or none.
    rcases htake : source.take clock.now wait with ⟨byte, source₁, now⟩
    have hreal : source₁.phantom = source.phantom := by
      rw [← (source.take_kept clock.now wait).1, htake]
    obtain ⟨b₁, hnext, h₁⟩ := h.next htake hreal
    rw [hnext] at ih
    obtain ⟨source', clock', h', hunread, hanswered⟩ := ih h₁
    refine ⟨source', clock', h', ?_, ?_⟩
    · rw [source.unread_take clock.now wait, htake, hnext, brought_answer, hunread,
        List.append_assoc]
    · rw [hnext]
      exact List.forall_mem_cons.mpr ⟨rfl, hanswered⟩
  | clock reading rest ih =>
    obtain ⟨b₁, hclock, h₁⟩ := h.readClock
    rw [reading] at hclock
    obtain ⟨-, rfl⟩ := Prod.mk.inj hclock
    obtain ⟨source', clock', h', hunread, hanswered⟩ := ih h₁
    refine ⟨source', clock', h', ?_, ?_⟩
    · rw [hunread, brought_clock]
    · exact List.forall_mem_cons.mpr ⟨rfl, hanswered⟩

namespace Line

/-- The questions of the discarding before a receive, from one bench to another: none if it is not
asked for; else they cannot wait, they take exactly the stale bytes, and discarding counts them. -/
def Drops (l : Line) (flush : Bool) (source : ByteSource T) (flushing : List (Inquiry T))
    (b : Bench T) : Prop :=
  if flush then
    (∀ i ∈ flushing, i.IsPrompt) ∧ brought flushing = source.stale ∧
      (l.discardWaiting b).1 = .ok source.stale.length
  else flushing = []

/-- What an outcome tells of the readings: all the bytes, or those that came, or that the wait had
no time and nothing was read. -/
def Tells (n : Int) (deadline : Except Fault (Option T)) (reads : List (Inquiry T))
    (r : Except Fault Bytes) : Prop :=
  match r with
  | .ok data => data = brought reads ∧ (data.length : Int) = max n 0
  | .error f => (f = .truncated (brought reads) n ∧ ((brought reads).length : Int) < n) ∨
      (deadline = .error f ∧ reads = [])

/-- Every reading is made for a missing byte, with a positive wait, and before the deadline was
found passed. -/
def Frugal (n : Int) (deadline : Except Fault (Option T)) (reads : List (Inquiry T)) : Prop :=
  ∀ d, deadline = .ok d → ∀ before w answer after, reads = before ++ .read w answer :: after →
    Opportune d n.toNat before w ∧ ∀ t, w = some t → ¬ t ≤ 0

/-- A receive in all its questions: those of the discarding, the reading of the clock that sets the
deadline, and those for the bytes. What there was to read is what was brought and what is left, and
no call but for input was made. -/
structure Conserves (l : Line) (n : Int) (wait : Option (Wait T)) (flush : Bool)
    (source : ByteSource T) (b : Bench T) (flushing start reads : List (Inquiry T))
    (deadline : Except Fault (Option T)) : Prop where
  asked : l.channel.Asked (flushing ++ start ++ reads) b (l.receive n wait flush b).2
  drops : l.Drops flush source flushing b
  sets : Sets wait start deadline
  conserved : (if flush then source.incoming else source.unread) =
    brought reads ++ (l.channel.source (l.receive n wait flush b).2).unread
  tells : Tells n deadline reads (l.receive n wait flush b).1
  frugal : Frugal n deadline reads
  calls : ∃ es, (l.receive n wait flush b).2.trace = b.trace ++ es ∧
    (∀ e ∈ es, l.channel.Receives e.call) ∧ ∀ id, l.channel = .scripted id →
      es.map Entry.call = (flushing ++ start ++ reads).filterMap (Inquiry.call? id)
  listens : ∃ clock, l.Listens (l.channel.source (l.receive n wait flush b).2) clock
    (l.receive n wait flush b).2

namespace Listens

variable {l : Line} {source : ByteSource T} {clock : Clock T} {b : Bench T}

theorem drops (h : l.Listens source clock b) :
    ∃ flushing b₁, l.channel.Asked flushing b b₁ ∧ l.Drops true source flushing b ∧
      l.Listens { source with stale := [] } clock b₁ ∧
      (Act.onlyIf (true = true) (discard l.discardWaiting)) b = (.ok (), b₁) := by
  obtain ⟨b₁, hdrop, h₁⟩ := h.discardWaiting
  obtain ⟨flushing, hasked, hprompt⟩ := l.discardWaiting_asks b
  rw [hdrop] at hasked
  obtain ⟨source', clock', h', hunread, -⟩ := hasked.conserves h
  obtain rfl : source' = { source with stale := [] } := h'.source_eq.symm.trans h₁.source_eq
  have hbrought : brought flushing = source.stale :=
    (List.append_cancel_right hunread).symm
  refine ⟨flushing, b₁, hasked, ?_, h₁, Act.bind_ok hdrop⟩
  rw [Drops, if_pos rfl, hdrop]
  exact ⟨hprompt, hbrought, rfl⟩

/-- Reading behind the discarding takes what it tells, only as long as bytes are missing and time is
left. -/
theorem gather_conserves (h : l.Listens source clock b) (n : Int) (wait : Option (Wait T)) :
    ∃ start reads deadline clock',
      l.channel.Asked (start ++ reads) b (l.gather n wait b).2 ∧ Sets wait start deadline ∧
      l.Listens (l.channel.source (l.gather n wait b).2) clock' (l.gather n wait b).2 ∧
      source.unread = brought reads ++ (l.channel.source (l.gather n wait b).2).unread ∧
      Tells n deadline reads (l.gather n wait b).1 ∧ Frugal n deadline reads := by
  obtain ⟨asked, hasked, start, deadline, reads, rfl, hsets, hcourse⟩ := l.gather_asks n wait b
  obtain ⟨source', clock', h', hunread, hanswered⟩ := hasked.conserves h
  rw [brought_append, hsets.brought_eq, List.nil_append] at hunread
  obtain rfl := h'.source_eq
  refine ⟨start, reads, deadline, clock', hasked, hsets, h', hunread, ?_⟩
  cases deadline with
  | error f =>
    obtain ⟨rfl, hr⟩ := hcourse
    rw [hr]
    exact ⟨.inr ⟨rfl, rfl⟩, by simp [Frugal]⟩
  | ok d =>
    obtain ⟨hcollecting, hr⟩ := hcourse
    refine ⟨?_, ?_⟩
    · have hlength := hcollecting.length_le
      revert hr
      cases (l.gather n wait b).1 with
      | ok data =>
        rintro ⟨rfl, henough⟩
        exact ⟨rfl, by omega⟩
      | error f =>
        rintro (htruncated | ⟨i, hi, hfault⟩)
        · exact .inl htruncated
        · rw [hanswered i (List.mem_append_right start hi)] at hfault
          cases hfault
    · intro d' hd before w answer after hreads
      obtain rfl := Except.ok.inj hd
      have hopportune := hcollecting.opportune hreads
      exact ⟨hopportune, hopportune.positive⟩

/-- Receiving on a line whose channel answers neither loses nor doubles a byte. -/
theorem receive_conserves (h : l.Listens source clock b) (n : Int) (wait : Option (Wait T))
    (flush : Bool) :
    ∃ flushing start reads deadline,
      l.Conserves n wait flush source b flushing start reads deadline := by
  have hcalls {asked : List (Inquiry T)}
      (hasked : l.channel.Asked asked b (l.receive n wait flush b).2) :
      ∃ es, (l.receive n wait flush b).2.trace = b.trace ++ es ∧
        (∀ e ∈ es, l.channel.Receives e.call) ∧ ∀ id, l.channel = .scripted id →
          es.map Entry.call = asked.filterMap (Inquiry.call? id) := by
    obtain ⟨es, hgrew, hes⟩ := l.receive_makes n wait flush b
    refine ⟨es, hgrew.trace, hes, ?_⟩
    intro id hid
    rw [hid] at hasked
    obtain ⟨es', htrace, hes'⟩ := hasked.calls
    rwa [List.append_cancel_left (hgrew.trace.symm.trans htrace)]
  cases flush with
  | false =>
    have hreceive : l.receive n wait false b = l.gather n wait b := by
      rw [receive_eq, Act.bind_ok (requireHeld_of_held h.held)]
      rfl
    obtain ⟨start, reads, deadline, clock', hasked, hsets, h', hunread, htells, hfrugal⟩ :=
      h.gather_conserves n wait
    rw [← hreceive] at hasked h' hunread htells
    exact ⟨[], start, reads, deadline, hasked, rfl, hsets, hunread, htells, hfrugal,
      hcalls hasked, clock', h'⟩
  | true =>
    obtain ⟨flushing, b₁, hflushing, hdrops, h₁, hdiscard⟩ := h.drops
    have hreceive : l.receive n wait true b = l.gather n wait b₁ := by
      rw [receive_eq, Act.bind_ok (requireHeld_of_held h.held), Act.bind_ok hdiscard]
    obtain ⟨start, reads, deadline, clock', hasked, hsets, h', hunread, htells, hfrugal⟩ :=
      h₁.gather_conserves n wait
    rw [← hreceive] at hasked h' hunread htells
    have hall : l.channel.Asked (flushing ++ start ++ reads) b (l.receive n wait true b).2 := by
      rw [List.append_assoc]
      exact hflushing.append hasked
    exact ⟨flushing, start, reads, deadline, hall, hdrops, hsets, hunread, htells, hfrugal,
      hcalls hall, clock', h'⟩

/-- With a stale byte before three others, two of the three are given, and the third is unread. -/
theorem receive_conserves_behind_stale :
    let l : Line := ⟨0, .scripted 0, .scripted 0, .whole 1, .delay⟩
    let source : ByteSource Float := ⟨[0x07], [1, 2, 3], 1, .all, false⟩
    let b := Bench.withChannel source
    (l.receive 2 (some (.time 5)) true b).1 = .ok [1, 2] ∧
      ((l.receive 2 (some (.time 5)) true b).2.scripts.get 0).unread = [3] := by
  intro l source b
  obtain ⟨flushing, start, reads, deadline, hconserves⟩ :=
    receive_conserves (l := l) (.withChannel rfl rfl : l.Listens source ⟨0, 0, fun _ => 0⟩ b) 2
      (some (.time 5)) true
  have hreturns : (l.receive 2 (some (.time 5)) true b).1.toOption = some [1, 2] := by
    decide +kernel
  have htells := hconserves.tells
  have hconserved : [1, 2, 3] =
      brought reads ++ ((l.receive 2 (some (.time 5)) true b).2.scripts.get 0).unread :=
    hconserves.conserved
  rcases hreceive : l.receive 2 (some (.time 5)) true b with ⟨f | data, b'⟩
  · rw [hreceive] at hreturns
    cases hreturns
  · rw [hreceive] at hreturns htells hconserved
    obtain rfl := Option.some.inj hreturns
    rw [← htells.1] at hconserved
    have hrest : [1, 2] ++ [3] = [1, 2] ++ (b'.scripts.get 0).unread := hconserved
    exact ⟨rfl, (List.append_cancel_left hrest).symm⟩

end Listens
end Line
end SpindleLink
