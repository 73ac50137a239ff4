import Mathlib.Data.List.Basic
import SpindleLink.Proofs.DoubleValues

/-! Settings that are accepted. They are well-formed whatever they came from, and given outright
they are accepted again as they are, whatever the environment then is. Nothing else is accepted
and nothing else refused: the complaints are those of the fields, in their order, and the one about
the pin is made only when there are none. -/

namespace SpindleLink

theorem Field.mem_all (f : Field) : f ∈ Field.all := by
  cases f <;> decide

def Complaint.of? {α : Type} : Except Complaint α → Option Complaint
  | .ok _ => none
  | .error c => some c

theorem Complaint.ok_of_none {α : Type} {r : Except Complaint α} (h : of? r = none) :
    ∃ a, r = .ok a := by
  cases r with
  | error c => cases h
  | ok a => exact ⟨a, rfl⟩

namespace Settings

def complaint? (offer : Offer) (f : Field) : Option Complaint :=
  match f with
  | .port => Complaint.of? (resolve SerialChannel.defaultName Value.toText (offer f))
  | .baudrate => Complaint.of? (resolve SerialChannel.defaultBaud readBaud (offer f))
  | .directionLine => Complaint.of? (resolve Wiring.rts readWiring (offer f))
  | .gpioPin => Complaint.of? (resolve none readPin (offer f))
  | .reverse => Complaint.of? (resolve false Value.toTruth (offer f))
  | .readTimeout => Complaint.of? (resolve defaultTimeout readWait (offer f))

/-- The complaints about fields, in the order of the fields. -/
def complaints (offer : Offer) : List Problem :=
  Field.all.filterMap fun f => (complaint? offer f).map fun c => ⟨some f, c⟩

/-- The settings are what the checks of the fields make of an offer. -/
structure Reads (offer : Offer) (s : Settings) : Prop where
  port : resolve SerialChannel.defaultName Value.toText (offer .port) = .ok s.port
  baud : resolve SerialChannel.defaultBaud readBaud (offer .baudrate) = .ok s.baud
  wiring : resolve Wiring.rts readWiring (offer .directionLine) = .ok s.wiring
  pin : resolve none readPin (offer .gpioPin) = .ok s.pin
  reverse : resolve false Value.toTruth (offer .reverse) = .ok s.reverse
  wait : resolve defaultTimeout readWait (offer .readTimeout) = .ok s.readTimeout

/-- The signal is to come from a pin that is not named. -/
def Unpinned (s : Settings) : Prop := s.wiring = .gpio ∧ s.pin = none

instance (s : Settings) : Decidable s.Unpinned := inferInstanceAs (Decidable (_ ∧ _))

/-- What comes of an offer: the settings that the checks make of it if the rule about the pin holds
too, or the complaints. -/
inductive Verdict (offer : Offer) : Except (List Problem) Settings → Prop
  | accepted {s : Settings} (h : Reads offer s) (hpin : ¬ s.Unpinned) : Verdict offer (.ok s)
  | unpinned {s : Settings} (h : Reads offer s) (hpin : s.Unpinned) :
    Verdict offer (.error [⟨none, .pinMissing⟩])
  | refused {f : Field} (h : complaint? offer f ≠ none) : Verdict offer (.error (complaints offer))

/-- What is true of settings wherever they came from. -/
structure WellFormed (s : Settings) : Prop where
  baud : 0 < s.baud
  wait : 0 < s.readTimeout
  waitValue : (Binary64.value s.readTimeout).Positive
  wiring : s.wiring.word = "rts" ∨ s.wiring.word = "gpio"
  pin : ∀ n, s.pin = some n → 0 ≤ n
  pinned : s.wiring.word = "gpio" → s.pin.isSome = true

def fieldValue (s : Settings) : Field → Value
  | .port => .text s.port
  | .baudrate => .number (.whole s.baud)
  | .directionLine => .text s.wiring.word
  | .gpioPin => match s.pin with
    | none => .null
    | some n => .number (.whole n)
  | .reverse => .bool s.reverse
  | .readTimeout => .number (.real s.readTimeout)

def restated (s : Settings) : Overrides := Field.all.map fun f => (f.name, s.fieldValue f)

section Checks

theorem guarded_ok {α β : Type} {p : α → Prop} [DecidablePred p] {r : Except Complaint α}
    {c : Complaint} {g : α → β} {b : β}
    (h : (do let a ← r; if p a then .ok (g a) else .error c) = .ok b) :
    ∃ a, r = .ok a ∧ p a ∧ g a = b := by
  cases r with
  | error c' => cases h
  | ok a =>
    by_cases hp : p a
    · exact ⟨a, rfl, hp, by simpa [bind, Except.bind, hp] using h⟩
    · simp [bind, Except.bind, hp] at h

theorem pin_nonneg {o : Option Value} {n : Int} (h : resolve none readPin o = .ok (some n)) :
    0 ≤ n := by
  cases o with
  | none => cases h
  | some v =>
    cases v with
    | null => cases h
    | bool | number | text | compound =>
      obtain ⟨m, -, hm, hsome⟩ := guarded_ok h
      cases hsome
      exact hm

theorem wait_pos {o : Option Value} {x : Float}
    (h : resolve defaultTimeout readWait o = .ok x) : 0 < x := by
  cases o with
  | none =>
    cases h
    decide
  | some v =>
    obtain ⟨y, -, hy, rfl⟩ := guarded_ok h
    exact hy

theorem readBaud_whole {n : Int} (h : 0 < n) : readBaud (.number (.whole n)) = .ok n := by
  simp [readBaud, Value.toInt, bind, Except.bind, h]

theorem readWiring_word (w : Wiring) : readWiring (.text w.word) = .ok w := by
  have hword : (String.ofList (Blank.trim Blank.isBlankOrSeparator w.word.toList)).toLower =
      w.word := by cases w <;> decide +kernel
  unfold readWiring
  dsimp only
  rw [hword]
  cases w <;> rfl

theorem readPin_whole {n : Int} (h : 0 ≤ n) : readPin (.number (.whole n)) = .ok (some n) := by
  simp [readPin, Value.toInt, bind, Except.bind, h]

theorem readWait_real {x : Float} (h : 0 < x) : readWait (.number (.real x)) = .ok x := by
  simp [readWait, Value.toFloat, Number.toFloat, bind, Except.bind, h]

end Checks

section Offers

variable {offer : Offer} {s : Settings}

theorem problem_eq {α : Type} (f : Field) (r : Except Complaint α) :
    problem f r = ((Complaint.of? r).map fun c => (⟨some f, c⟩ : Problem)).toList := by
  cases r <;> rfl

theorem complaints_eq (offer : Offer) : complaints offer =
    problem .port (resolve SerialChannel.defaultName Value.toText (offer .port)) ++
      problem .baudrate (resolve SerialChannel.defaultBaud readBaud (offer .baudrate)) ++
      problem .directionLine (resolve Wiring.rts readWiring (offer .directionLine)) ++
      problem .gpioPin (resolve none readPin (offer .gpioPin)) ++
      problem .reverse (resolve false Value.toTruth (offer .reverse)) ++
      problem .readTimeout (resolve defaultTimeout readWait (offer .readTimeout)) := by
  simp [complaints, List.filterMap_eq_flatMap_toList, Field.all, complaint?, problem_eq]

/-- The complaints name just the fields that fail, in the order of the fields. -/
theorem field_complaints (offer : Offer) : (complaints offer).map Problem.field =
    (Field.all.filter fun f => (complaint? offer f).isSome).map some := by
  unfold complaints
  induction Field.all with
  | nil => rfl
  | cons f fields ih => cases h : complaint? offer f <;> simp [h, ih]

theorem settle_of_complaint {f : Field} (h : complaint? offer f ≠ none) :
    settle offer = .error (complaints offer) := by
  rw [complaints_eq]
  unfold settle
  dsimp only
  split
  next hport hbaud hwiring hpin hreverse hwait =>
    cases f <;> simp [complaint?, Complaint.of?, *] at h
  next => rfl

theorem settle_of_reads (h : Reads offer s) :
    settle offer = if s.Unpinned then .error [⟨none, .pinMissing⟩] else .ok s := by
  unfold settle
  simp only [h.port, h.baud, h.wiring, h.pin, h.reverse, h.wait]
  rfl

theorem reads_of_no_complaint (h : ∀ f, complaint? offer f = none) : ∃ s, Reads offer s := by
  obtain ⟨port, hport⟩ := Complaint.ok_of_none (h .port)
  obtain ⟨baud, hbaud⟩ := Complaint.ok_of_none (h .baudrate)
  obtain ⟨wiring, hwiring⟩ := Complaint.ok_of_none (h .directionLine)
  obtain ⟨pin, hpin⟩ := Complaint.ok_of_none (h .gpioPin)
  obtain ⟨reverse, hreverse⟩ := Complaint.ok_of_none (h .reverse)
  obtain ⟨wait, hwait⟩ := Complaint.ok_of_none (h .readTimeout)
  exact ⟨⟨port, baud, wiring, pin, reverse, wait⟩, hport, hbaud, hwiring, hpin, hreverse, hwait⟩

theorem settle_of_no_complaint (h : ∀ f, complaint? offer f = none) :
    ∃ s, Reads offer s ∧
      settle offer = if s.Unpinned then .error [⟨none, .pinMissing⟩] else .ok s := by
  obtain ⟨s, hs⟩ := reads_of_no_complaint h
  exact ⟨s, hs, settle_of_reads hs⟩

theorem settle_verdict (offer : Offer) : Verdict offer (settle offer) := by
  by_cases hpass : ∀ f, complaint? offer f = none
  · obtain ⟨s, hreads, hsettle⟩ := settle_of_no_complaint hpass
    rw [hsettle]
    split
    next hpin => exact .unpinned hreads hpin
    next hpin => exact .accepted hreads hpin
  · obtain ⟨f, hf⟩ := not_forall.mp hpass
    rw [settle_of_complaint hf]
    exact .refused hf

theorem reads_of_settle (h : settle offer = .ok s) : Reads offer s ∧ ¬ s.Unpinned := by
  have hverdict := settle_verdict offer
  rw [h] at hverdict
  cases hverdict with
  | accepted hreads hpin => exact ⟨hreads, hpin⟩

theorem wellFormed_of_settle (h : settle offer = .ok s) : s.WellFormed := by
  obtain ⟨hreads, hpinned⟩ := reads_of_settle h
  have hwait := wait_pos hreads.wait
  refine ⟨baud_pos hreads.baud, hwait, (Binary64.pos_iff _).mp hwait, ?wiring, ?pin, ?pinned⟩
  case wiring => cases s.wiring <;> simp [Wiring.word]
  case pin => exact fun n hn => pin_nonneg (hn ▸ hreads.pin)
  case pinned =>
    intro hword
    have hgpio : s.wiring = .gpio := by
      cases hwiring : s.wiring with
      | rts => simp [hwiring, Wiring.word] at hword
      | gpio => rfl
    exact Option.isSome_iff_ne_none.mpr fun hnone => hpinned ⟨hgpio, hnone⟩

end Offers

section Restating

variable {naming : Naming} {s : Settings}

theorem reads_fieldValue (h : s.WellFormed) {offer : Offer}
    (hoffer : ∀ f, offer f = some (s.fieldValue f)) : Reads offer s where
  port := by rw [hoffer]; rfl
  baud := by rw [hoffer]; exact readBaud_whole h.baud
  wiring := by rw [hoffer]; exact readWiring_word s.wiring
  pin := by
    rw [hoffer]
    cases hpin : s.pin with
    | none => simp [fieldValue, hpin, resolve, readPin]
    | some n => simpa [fieldValue, hpin, resolve] using readPin_whole (h.pin n hpin)
  reverse := by rw [hoffer]; rfl
  wait := by rw [hoffer]; exact readWait_real h.wait

theorem offered_override {env : Environment} {given : Overrides} {f : Field} {v : Value}
    (h : overrideValue naming given f = some v) : offered naming env given f = some v := by
  rw [offered, h]

theorem overrideValue_of_mem {given : Overrides} {f : Field} {v : Value}
    (hmem : (f.name, v) ∈ given) (honly : ∀ o ∈ given, naming.stands f o.1 = true → o.2 = v) :
    overrideValue naming given f = some v := by
  unfold overrideValue
  cases hfind : given.find? fun o => naming.stands f o.1 with
  | none => simpa [naming.own f] using List.find?_eq_none.mp hfind _ hmem
  | some o =>
    have hstands : naming.stands f o.1 = true := by simpa using List.find?_some hfind
    rw [Option.map_some, honly o (List.mem_of_find?_eq_some hfind) hstands]

theorem offered_restated (naming : Naming) (env : Environment) {given : Overrides}
    (h : given.Perm s.restated) (f : Field) :
    offered naming env given f = some (s.fieldValue f) := by
  have hvalue : overrideValue naming given f = some (s.fieldValue f) := by
    apply overrideValue_of_mem
    · exact h.mem_iff.mpr (List.mem_map_of_mem f.mem_all)
    · intro o ho hstands
      obtain ⟨f', -, rfl⟩ := List.mem_map.mp (h.mem_iff.mp ho)
      rw [naming.stands_name_iff.mp hstands]
  exact offered_override hvalue

theorem load_restated {offer : Offer} (h : settle offer = .ok s) (env : Environment)
    {again : Overrides} (hagain : again.Perm s.restated) : loadBy naming env again = .ok s := by
  have hoffered := offered_restated naming env hagain
  have hreads := reads_fieldValue (wellFormed_of_settle h) hoffered
  rw [loadBy, settle_of_reads hreads, if_neg (reads_of_settle h).2]

end Restating

/-- Loading, for all that it may be given and whichever names stand for fields: what it accepts,
and when. -/
structure Sound (naming : Naming) (env : Environment) (given : Overrides) : Prop where
  wellFormed : ∀ s, loadBy naming env given = .ok s → s.WellFormed
  stable : ∀ s, loadBy naming env given = .ok s →
    ∀ env' again, again.Perm s.restated → loadBy naming env' again = .ok s
  decides : (∀ f, complaint? (offered naming env given) f = none) →
    ∃ s, Reads (offered naming env given) s ∧
      loadBy naming env given = if s.Unpinned then .error [⟨none, .pinMissing⟩] else .ok s
  complains : ∀ f, complaint? (offered naming env given) f ≠ none →
    loadBy naming env given = .error (complaints (offered naming env given)) ∧
      (complaints (offered naming env given)).map Problem.field =
        (Field.all.filter fun f => (complaint? (offered naming env given) f).isSome).map some

theorem load_sound (naming : Naming) (env : Environment) (given : Overrides) :
    Sound naming env given where
  wellFormed _ := wellFormed_of_settle
  stable _ h env' _ hagain := load_restated h env' hagain
  decides := settle_of_no_complaint
  complains _ h := ⟨settle_of_complaint h, field_complaints _⟩

/-- With a pin, whatever the environment says of it; and with a name that stands for no field, to a
reader that takes names to the letter. -/
theorem load_sound_pinned :
    (∃ s, s.pin = some 7 ∧ s.WellFormed ∧ load [("A131_GPIO_PIN", "none")] s.restated = .ok s) ∧
      ∃ s, s.baud = SerialChannel.defaultBaud ∧
        loadBy .exact [] [("Baudrate", .text "fast")] = .ok s := by
  constructor
  · let s : Settings := ⟨SerialChannel.defaultName, SerialChannel.defaultBaud, .gpio, some 7, false,
      defaultTimeout⟩
    have hwait : (0 : Float) < defaultTimeout := by decide
    have hwell : s.WellFormed :=
      ⟨by decide, hwait, (Binary64.pos_iff _).mp hwait, by decide, by simp [s], by simp [s]⟩
    have hreads := reads_fieldValue hwell (offered_restated .anyCase [] (.refl _))
    have hload := (settle_of_reads hreads).trans (if_neg (by decide))
    have hsound := load_sound .anyCase [] s.restated
    exact ⟨s, rfl, hsound.wellFormed s hload, hsound.stable s hload _ _ (.refl _)⟩
  · have hpass : ∀ f, complaint? (offered .exact [] [("Baudrate", .text "fast")]) f = none := by
      intro f
      cases f <;> rfl
    obtain ⟨s, hreads, hload⟩ := (load_sound .exact [] _).decides hpass
    have hwiring : s.wiring = .rts := (Except.ok.inj hreads.wiring).symm
    have hpinned : ¬ s.Unpinned := fun h => by cases hwiring.symm.trans h.1
    exact ⟨s, (Except.ok.inj hreads.baud).symm, hload.trans (if_neg hpinned)⟩

end Settings
end SpindleLink
