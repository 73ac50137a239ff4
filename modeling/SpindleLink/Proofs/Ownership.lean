import Mathlib.Data.List.Pairwise
import SpindleLink.Proofs.Holdings
import SpindleLink.Proofs.LineTraffic

/-! Who owns what on a bench. The lines that are held own their channels and direction lines, and
nothing else is owned; no two of them share one. The books stay right when a line takes what it
owns and when it leaves. A line cannot be made of what another one owns, and a line that was
released does nothing any more. -/

namespace SpindleLink

variable {T : Type}

namespace Line

def Holds (l : Line) (r : Resource) : Prop := r = l.channel.resource ∨ r = l.direction.resource

instance (l : Line) (r : Resource) : Decidable (l.Holds r) :=
  inferInstanceAs (Decidable (_ ∨ _))

def Apart (l l' : Line) : Prop := ∀ r, l.Holds r → ¬l'.Holds r

instance : Std.Symm Apart := ⟨fun _ _ h r hr' hr => h r hr hr'⟩

theorem Took.mem_owned {l : Line} {b b' : Bench T} (h : l.Took b b') (r : Resource) :
    r ∈ b'.owned ↔ l.Holds r ∨ r ∈ b.owned := by
  rw [h.owned, List.mem_cons, List.mem_cons, ← or_assoc]
  rfl

theorem Took.not_owned {l : Line} {b b' : Bench T} (h : l.Took b b') {r : Resource}
    (hr : l.Holds r) : r ∉ b.owned := by
  rcases hr with rfl | rfl
  · exact h.freeChannel
  · exact h.freeDirection

theorem mem_owned_giveUp (l : Line) (b : Bench T) (r : Resource) :
    r ∈ (l.giveUp b).owned ↔ r ∈ b.owned ∧ ¬l.Holds r := by
  simp [giveUp, Holds, not_or]

end Line

/-- What is owned are the channels and the direction lines of the held lines, no two of which share
one. -/
structure Bench.OwnedBy (b : Bench T) (held : List Line) : Prop where
  owned : ∀ r, r ∈ b.owned ↔ ∃ l ∈ held, l.Holds r
  apart : held.Pairwise Line.Apart

namespace Bench.OwnedBy

variable {b b' : Bench T} {held : List Line} {l : Line}

/-- A line that takes what it owns shares nothing with those that are held, since it was free. -/
theorem take (h : b.OwnedBy held) (htook : l.Took b b') : b'.OwnedBy (l :: held) where
  owned := by
    intro r
    rw [htook.mem_owned, h.owned]
    simp
  apart := by
    refine List.pairwise_cons.mpr ⟨fun l' hl' r hr hr' => ?_, h.apart⟩
    exact htook.not_owned hr ((h.owned r).mpr ⟨l', hl', hr'⟩)

/-- What a line gives up no other line holds, so the others still own all they hold. -/
theorem giveUp (h : b.OwnedBy held) (hl : l ∈ held) (hb : b'.owned = (l.giveUp b).owned) :
    b'.OwnedBy (held.filter (· ≠ l)) where
  owned := by
    intro r
    rw [hb, l.mem_owned_giveUp, h.owned]
    constructor
    · rintro ⟨⟨l', hl', hr⟩, hnot⟩
      have hne : l' ≠ l := fun heq => hnot (heq ▸ hr)
      exact ⟨l', by simp [hl', hne], hr⟩
    · rintro ⟨l', hl', hr⟩
      obtain ⟨hl', hne⟩ := List.mem_filter.mp hl'
      exact ⟨⟨l', hl', hr⟩, h.apart.forall hl' hl (of_decide_eq_true hne) r hr⟩
  apart := h.apart.filter _

end Bench.OwnedBy

/-- The books of a bench: of the lines that are known those are held that were not released. -/
structure Ledger (b : Bench T) (known held : List Line) : Prop extends b.OwnedBy held where
  numbered : ∀ id ∈ b.releasedLines, id < b.nextId
  below : ∀ l ∈ known, l.id < b.nextId
  distinct : ∀ l ∈ known, ∀ l' ∈ known, l.id = l'.id → l = l'
  held_iff : ∀ l ∈ known, l ∈ held ↔ l.isReleased b = false

namespace Ledger

variable {b b' : Bench T} {known known' held : List Line}

theorem released_iff (h : Ledger b known held) {l : Line} (hl : l ∈ known) :
    l.isReleased b = true ↔ l ∉ held := by
  rw [h.held_iff l hl, Bool.not_eq_false]

theorem congr (h : Ledger b known held) (hb : b.SameHolders b') (hknown : known' ⊆ known) :
    Ledger b' known' held where
  owned := hb.owned ▸ h.owned
  apart := h.apart
  numbered := fun id hid => Nat.lt_of_lt_of_le (h.numbered id (hb.released ▸ hid)) hb.numbers
  below := fun l hl => Nat.lt_of_lt_of_le (h.below l (hknown hl)) hb.numbers
  distinct := fun l hl l' hl' => h.distinct l (hknown hl) l' (hknown hl')
  held_iff := by
    intro l hl
    rw [h.held_iff l (hknown hl), Line.isReleased, Line.isReleased, hb.released]

theorem take (h : Ledger b known held) {l : Line} (htook : l.Took b b')
    (hknown : known' ⊆ l :: known) : Ledger b' known' (l :: held) := by
  have hfresh : ∀ l' ∈ known, l'.id ≠ l.id := fun l' hl' =>
    Nat.ne_of_lt (Nat.lt_of_lt_of_le (h.below l' hl') htook.above)
  have hreleased : ∀ id ∈ b'.releasedLines, id < l.id := fun id hid =>
    Nat.lt_of_lt_of_le (h.numbered id (htook.released ▸ hid)) htook.above
  constructor
  case toOwnedBy => exact h.toOwnedBy.take htook
  case numbered => exact fun id hid => Nat.lt_trans (hreleased id hid) htook.below
  case below =>
    intro l' hl'
    rcases List.mem_cons.mp (hknown hl') with rfl | hl'
    · exact htook.below
    · exact Nat.lt_trans (Nat.lt_of_lt_of_le (h.below l' hl') htook.above) htook.below
  case distinct =>
    intro l₁ h₁ l₂ h₂ hid
    rcases List.mem_cons.mp (hknown h₁) with rfl | h₁ <;>
      rcases List.mem_cons.mp (hknown h₂) with rfl | h₂
    · rfl
    · exact absurd hid.symm (hfresh l₂ h₂)
    · exact absurd hid (hfresh l₁ h₁)
    · exact h.distinct l₁ h₁ l₂ h₂ hid
  case held_iff =>
    intro l' hl'
    rcases List.mem_cons.mp (hknown hl') with rfl | hl'
    · have hnew : l'.id ∉ b'.releasedLines := fun hid => Nat.lt_irrefl _ (hreleased _ hid)
      simp [Line.isReleased, hnew]
    · have hne : l' ≠ l := fun heq => hfresh l' hl' (congrArg Line.id heq)
      rw [List.mem_cons, or_iff_right hne, h.held_iff l' hl', Line.isReleased, Line.isReleased,
        htook.released]

theorem leave (h : Ledger b known held) {l : Line} (hl : l ∈ known)
    (hb : b'.holdings = (l.release b).2.holdings) (hknown : known' ⊆ known) :
    Ledger b' known' (held.filter (· ≠ l)) := by
  rw [l.holdings_release] at hb
  cases hreleased : l.isReleased b with
  | true =>
    -- Released before, the line is not among the held ones, and nothing changes.
    have hgone : held.filter (· ≠ l) = held := by
      refine List.filter_eq_self.mpr fun l' hl' => decide_eq_true fun heq => ?_
      exact (h.released_iff hl).mp hreleased (heq ▸ hl')
    rw [hreleased, if_pos rfl] at hb
    rw [hgone]
    exact h.congr (.of_holdings hb) hknown
  | false =>
    rw [hreleased, if_neg Bool.false_ne_true] at hb
    simp only [Bench.holdings, Prod.mk.injEq] at hb
    obtain ⟨howned, hlines, hnext⟩ := hb
    have hheld : l ∈ held := (h.held_iff l hl).mpr hreleased
    constructor
    case toOwnedBy => exact h.toOwnedBy.giveUp hheld howned
    case numbered =>
      intro id hid
      rw [hnext]
      rw [hlines] at hid
      rcases List.mem_cons.mp hid with rfl | hid
      · exact h.below l hl
      · exact h.numbered id hid
    case below =>
      intro l' hl'
      rw [hnext]
      exact h.below l' (hknown hl')
    case distinct => exact fun l₁ h₁ l₂ h₂ => h.distinct l₁ (hknown h₁) l₂ (hknown h₂)
    case held_iff =>
      intro l' hl'
      have hid : l'.id = l.id ↔ l' = l :=
        ⟨h.distinct l' (hknown hl') l hl, fun heq => congrArg Line.id heq⟩
      have hbefore := h.held_iff l' (hknown hl')
      simp only [Line.isReleased, decide_eq_false_iff_not] at hbefore ⊢
      rw [hlines]
      simp [Line.giveUp, hid, hbefore, and_comm]

end Ledger

namespace Line

section Making

variable {channel : Channel} {direction : DirectionLine} {byteTime : Number} {b : Bench T}

/-- What is owned already cannot be taken: the channel is told first. Nothing is done. -/
theorem make_of_owned (htime : byteTime.atMostZero = false) (pacing : Pacing)
    (howned : channel.resource ∈ b.owned ∨ direction.resource ∈ b.owned) :
    make channel direction byteTime pacing b =
      (.error (.owned (if channel.resource ∈ b.owned then channel.title else direction.title)),
        b) := by
  rw [make, htime, if_neg Bool.false_ne_true, Act.bind_ok (Act.observe_apply _ b)]
  by_cases hchannel : channel.resource ∈ b.owned
  · simp [owns, hchannel]
  · have hdirection : direction.resource ∈ b.owned := howned.resolve_left hchannel
    simp [owns, hchannel, hdirection, Act.bind_ok (Act.observe_apply _ b)]

/-- Where nothing is owned, whatever else goes wrong, it is not said to be owned before any call. -/
theorem make_of_free (htime : byteTime.atMostZero = false) (pacing : Pacing)
    (hchannel : channel.resource ∉ b.owned) (hdirection : direction.resource ∉ b.owned) :
    (make channel direction byteTime pacing).Emits b fun es r =>
      es = [] → ∀ title, r ≠ .error (.owned title) := by
  have hchannel' : ¬owns channel.resource b = true := by simpa [owns] using hchannel
  have hdirection' : ¬owns direction.resource b = true := by simpa [owns] using hdirection
  rw [make, htime, if_neg Bool.false_ne_true]
  apply Act.Emits.step (Act.observe_apply _ b)
  rw [if_neg hchannel']
  apply Act.Emits.step (Act.observe_apply _ b)
  rw [if_neg hdirection']
  cases hlive : direction.isLive b with
  | false =>
    obtain ⟨f, hswitch⟩ := switch_dead hlive false
    exact Act.Emits.stop hswitch (by simp)
  | true =>
    apply (switch_emits hlive false).bind (Q := fun _ _ r => ∃ l, r = .ok l)
    · intro u b' _ _
      exact ⟨[], .still rfl rfl rfl, _, rfl⟩
    · intro es f hcall hnone
      obtain ⟨e, rfl, -⟩ := hcall
      cases hnone
    · intro es u fs r _ hmade _ title
      obtain ⟨l, rfl⟩ := hmade
      simp

end Making

theorem release_of_released {l : Line} {b : Bench T} (h : l.isReleased b = true) :
    l.release b = (.ok (), b) := by
  rw [release, Act.bind_ok (Act.observe_apply _ b), h]
  rfl

/-- What comes behind the check that a line is held is not done on a released line. -/
theorem refuses {α : Type} {l : Line} {b : Bench T} (h : l.isReleased b = true)
    (x : Unit → Act (Bench T) α) : (l.requireHeld >>= x) b = (.error .lineReleased, b) :=
  Act.bind_error (requireHeld_of_released h)

end Line
end SpindleLink
