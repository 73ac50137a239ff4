import SpindleLink.TimeScale
import SpindleLink.Text.Hex

/-! Where received bytes come from: some are buffered already, the others arrive one by one. -/

namespace SpindleLink

/-- How many bytes of a write are said to have been accepted. -/
inductive Acceptance
  | all
  | count (n : Int)
  | untold
  deriving DecidableEq

def Acceptance.answer : Acceptance → Nat → Option Int
  | all, length => some length
  | count n, _ => some n
  | untold, _ => none

/-- The two queues of a source, and the time between two arrivals. A phantom source says that
bytes are waiting and never gives one. -/
structure ByteSource (T : Type) where
  stale : Bytes
  incoming : Bytes
  gap : T
  acceptance : Acceptance
  phantom : Bool

namespace ByteSource

variable {T : Type} [TimeScale T]

def empty : ByteSource T := ⟨[], [], 0, .all, false⟩

def unread (s : ByteSource T) : Bytes := s.stale ++ s.incoming

/-- Takes one byte, waiting for at most `wait` (for ever without one): the byte if one came, the
source behind it, and the instant. -/
def take (s : ByteSource T) (now : T) (wait : Option T) : Option UInt8 × ByteSource T × T :=
  match s.stale with
  | b :: rest => (some b, { s with stale := rest }, now)
  | [] =>
    match s.incoming, wait with
    | b :: rest, none => (some b, { s with incoming := rest }, now + s.gap)
    | [], none => (none, s, now)
    | b :: rest, some t =>
      if s.gap ≤ t then (some b, { s with incoming := rest }, now + s.gap) else (none, s, now + t)
    | [], some t => (none, s, now + t)

theorem unread_of_take {s s' : ByteSource T} {now later : T} {wait : Option T} {b : UInt8}
    (h : s.take now wait = (some b, s', later)) : s.unread = b :: s'.unread := by
  simp only [take] at h
  split at h
  · simp_all only [Prod.mk.injEq, Option.some.injEq, unread]
    obtain ⟨rfl, rfl, rfl⟩ := h
    rfl
  · split at h
    · simp_all only [Prod.mk.injEq, Option.some.injEq, unread]
      obtain ⟨rfl, rfl, rfl⟩ := h
      simp_all
    · simp at h
    · split at h
      · simp_all only [Prod.mk.injEq, Option.some.injEq, unread]
        obtain ⟨rfl, rfl, rfl⟩ := h
        simp_all
      · simp at h
    · simp at h

theorem eq_of_take_none {s s' : ByteSource T} {now later : T} {wait : Option T}
    (h : s.take now wait = (none, s', later)) : s' = s := by
  simp only [take] at h
  split at h
  · simp at h
  · split at h
    · simp at h
    · simp_all
    · split at h <;> simp_all
    · simp_all

theorem take_kept (s : ByteSource T) (now : T) (wait : Option T) :
    (s.take now wait).2.1.phantom = s.phantom ∧
      (s.take now wait).2.1.acceptance = s.acceptance := by
  unfold take
  split
  · exact ⟨rfl, rfl⟩
  · split
    · exact ⟨rfl, rfl⟩
    · exact ⟨rfl, rfl⟩
    · split <;> exact ⟨rfl, rfl⟩
    · exact ⟨rfl, rfl⟩

end ByteSource
end SpindleLink
