import Mathlib.Data.List.Nodup
import SpindleLink.Proofs.AcceptedSettings

/-! Where settings come from. Loading depends, for each field, on nothing but the first that there
is of three: a value given under a name of the field that is not null, its variable, its default.
What stands behind that one may be anything, and so may all that goes by names of no field. This is
so whichever names the reader of settings takes for a field's, to the letter or in any case. -/

namespace SpindleLink

def Value.isNull : Value → Bool
  | null => true
  | _ => false

namespace Settings

/-- The first value that is given to a field without being null. -/
def Given (naming : Naming) (given : Overrides) (f : Field) (v : Value) : Prop :=
  ∃ before name after, given = before ++ (name, v) :: after ∧ naming.stands f name = true ∧
    v.isNull = false ∧ ∀ o ∈ before, naming.stands f o.1 = true → o.2.isNull = true

/-- The environment has the text for a field, under a name in any case. -/
def Variable (env : Environment) (f : Field) (text : String) : Prop :=
  ∃ name, (name, text) ∈ env ∧ name.toLower = f.variableName

/-- No two variables have names that differ in case alone. -/
def OneSpelling (env : Environment) : Prop := (env.map fun v => v.1.toLower).Nodup

instance (env : Environment) : Decidable (OneSpelling env) :=
  inferInstanceAs (Decidable (List.Nodup _))

/-- What is first offered for a field; nothing if its default is. -/
inductive First (naming : Naming) (env : Environment) (given : Overrides) (f : Field) :
    Option Value → Prop
  | value {v : Value} (h : Given naming given f v) : First naming env given f (some v)
  | text {text : String} (hgiven : ∀ v, ¬ Given naming given f v) (h : Variable env f text) :
    First naming env given f (some (.text text))
  | unset (hgiven : ∀ v, ¬ Given naming given f v) (h : ∀ text, ¬ Variable env f text) :
    First naming env given f none

variable {naming : Naming} {env env' : Environment} {given given' : Overrides} {f : Field}

theorem load_congr (h : ∀ f, offered naming env given f = offered naming env' given' f) :
    loadBy naming env given = loadBy naming env' given' :=
  congrArg settle (funext h)

section Values

theorem present_eq (given : Overrides) : present given = given.filter fun o => !o.2.isNull := by
  unfold present
  congr
  funext o
  cases o.2 <;> rfl

theorem overrideValue_present :
    overrideValue naming (present given) f = (given.find? fun o =>
      !o.2.isNull && naming.stands f o.1).map Prod.snd := by
  simp [overrideValue, present_eq, List.find?_filter]

theorem given_iff {v : Value} :
    Given naming given f v ↔ overrideValue naming (present given) f = some v := by
  simp only [overrideValue_present, Option.map_eq_some_iff, List.find?_eq_some_iff_append]
  constructor
  · rintro ⟨before, name, after, hgiven, hname, hv, hbefore⟩
    refine ⟨(name, v), ⟨by simp [hname, hv], before, after, hgiven, fun o ho => ?_⟩, rfl⟩
    cases hnull : o.2.isNull
    · simpa [hnull] using hbefore o ho
    · simp
  · rintro ⟨⟨name, w⟩, ⟨hnamed, before, after, hgiven, hbefore⟩, rfl⟩
    have hnamed : w.isNull = false ∧ naming.stands f name = true := by simpa using hnamed
    refine ⟨before, name, after, hgiven, hnamed.2, hnamed.1, fun o ho hname => ?_⟩
    simpa [hname] using hbefore o ho

theorem overrideValue_insert {name : String} {v : Value} (before after : Overrides)
    (h : v.isNull = false → naming.stands f name = false) :
    overrideValue naming (present (before ++ (name, v) :: after)) f =
      overrideValue naming (present (before ++ after)) f := by
  have hother : (!v.isNull && naming.stands f name) = false := by
    cases hnull : v.isNull with
    | true => rfl
    | false => exact h hnull
  simp only [overrideValue_present, List.find?_append, List.find?_cons, hother]

end Values

section Variables

theorem variable_iff (h : OneSpelling env) {text : String} :
    Variable env f text ↔ variableText env f = some text := by
  simp only [variableText, Option.map_eq_some_iff]
  constructor
  · rintro ⟨name, hmem, hname⟩
    cases hfind : env.reverse.find? fun v => v.1.toLower = f.variableName with
    | none =>
      have hnone := List.find?_eq_none.mp hfind (name, text) (List.mem_reverse.mpr hmem)
      simp [hname] at hnone
    | some v =>
      have hv : v.1.toLower = f.variableName := by simpa using List.find?_some hfind
      have hmem' := List.mem_reverse.mp (List.mem_of_find?_eq_some hfind)
      exact ⟨v, rfl, by rw [List.inj_on_of_nodup_map h hmem' hmem (hv.trans hname.symm)]⟩
  · rintro ⟨⟨name, _⟩, hfind, rfl⟩
    exact ⟨name, List.mem_reverse.mp (List.mem_of_find?_eq_some hfind),
      by simpa using List.find?_some hfind⟩

theorem variableText_insert {name : String} (text : String) (before after : Environment)
    (h : name.toLower ≠ f.variableName) :
    variableText (before ++ (name, text) :: after) f = variableText (before ++ after) f := by
  simp [variableText, List.find?_append, h]

theorem variableText_recased
    (h : env'.map (fun v => (v.1.toLower, v.2)) = env.map fun v => (v.1.toLower, v.2)) :
    variableText env' f = variableText env f := by
  have hlower (e : Environment) : variableText e f =
      ((e.map fun v => (v.1.toLower, v.2)).reverse.find? fun v => v.1 = f.variableName).map
        Prod.snd := by
    simp [variableText, ← List.map_reverse, List.find?_map, Function.comp_def]
  rw [hlower, hlower, h]

end Variables

section Loading

/-- The first value of a field is what is offered for it. -/
theorem first_iff (h : OneSpelling env) {o : Option Value} :
    First naming env given f o ↔ offered naming env (present given) f = o := by
  cases hgiven : overrideValue naming (present given) f with
  | some v =>
    have hfirst := given_iff.mpr hgiven
    rw [offered, hgiven]
    constructor
    · rintro (hv | ⟨hnone, -⟩ | ⟨hnone, -⟩)
      · rw [← hgiven, given_iff.mp hv]
      · exact absurd hfirst (hnone v)
      · exact absurd hfirst (hnone v)
    · rintro rfl
      exact .value hfirst
  | none =>
    have hnone : ∀ v, ¬ Given naming given f v := fun v hv => by simp [given_iff, hgiven] at hv
    rw [offered, hgiven]
    constructor
    · rintro (hv | ⟨-, htext⟩ | ⟨-, hall⟩)
      · exact absurd hv (hnone _)
      · simp [(variable_iff h).mp htext]
      · simpa [variable_iff h, Option.eq_none_iff_forall_ne_some] using hall
    · rintro rfl
      cases htext : variableText env f with
      | some text => exact .text hnone ((variable_iff h).mpr htext)
      | none => exact .unset hnone fun text => by simp [variable_iff h, htext]

/-- A variable counts only for a field that is given nothing. -/
theorem loadPresent_of_variables
    (h : ∀ f, (∀ v, ¬ Given naming given f v) → variableText env' f = variableText env f) :
    loadPresentBy naming env' given = loadPresentBy naming env given := by
  refine load_congr fun f => ?_
  unfold offered
  cases hgiven : overrideValue naming (present given) f with
  | some v => rfl
  | none => simp only [h f fun v hv => by simp [given_iff, hgiven] at hv]

theorem loadPresent_of_values
    (h : ∀ f, overrideValue naming (present given') f = overrideValue naming (present given) f) :
    loadPresentBy naming env given' = loadPresentBy naming env given := by
  refine load_congr fun f => ?_
  unfold offered
  rw [h f]

end Loading

/-- What loading depends on: for each field the first that there is, and nothing behind it. -/
structure Precedence (naming : Naming) (env : Environment) (given : Overrides) : Prop where
  first : ∀ f, ∃! o, First naming env given f o
  /-- The checks are made of the first that there is, and of nothing else. -/
  outcome : ∀ offer : Offer, (∀ f, First naming env given f (offer f)) →
    Verdict offer (loadPresentBy naming env given)
  determined : ∀ env' given', OneSpelling env' →
    (∀ f o, First naming env given f o → First naming env' given' f o) →
    loadPresentBy naming env' given' = loadPresentBy naming env given
  /-- Only fields that are given nothing have their variables read. -/
  overridden : ∀ env', OneSpelling env' →
    (∀ f, (∀ v, ¬ Given naming given f v) → ∀ text, Variable env' f text ↔ Variable env f text) →
    loadPresentBy naming env' given = loadPresentBy naming env given
  variableAdded : ∀ before after name text, env = before ++ after →
    (∀ f, name.toLower = f.variableName → ∃ v, Given naming given f v) →
    loadPresentBy naming (before ++ (name, text) :: after) given = loadPresentBy naming env given
  variableChanged : ∀ before after name text text', env = before ++ (name, text) :: after →
    (∀ f, name.toLower = f.variableName → ∃ v, Given naming given f v) →
    loadPresentBy naming (before ++ (name, text') :: after) given = loadPresentBy naming env given
  recased : ∀ env',
    env'.map (fun v => (v.1.toLower, v.2)) = env.map (fun v => (v.1.toLower, v.2)) →
    loadPresentBy naming env' given = loadPresentBy naming env given
  valueAdded : ∀ before after name v, given = before ++ after →
    (v.isNull = true ∨ ∀ f, naming.stands f name = false) →
    loadPresentBy naming env (before ++ (name, v) :: after) = loadPresentBy naming env given

/-- Settings come from the first place that has them. -/
theorem loadPresent_precedence (naming : Naming) (h : OneSpelling env) (given : Overrides) :
    Precedence naming env given where
  first f := ⟨_, (first_iff h).mpr rfl, fun o ho => ((first_iff h).mp ho).symm⟩
  outcome offer hoffer := by
    have hoffered : offered naming env (present given) = offer :=
      funext fun f => (first_iff h).mp (hoffer f)
    rw [← hoffered]
    exact settle_verdict _
  determined env' given' h' hsame :=
    load_congr fun f => (first_iff h').mp (hsame f _ ((first_iff h).mpr rfl))
  overridden env' h' hsame := by
    refine loadPresent_of_variables fun f hf => Option.ext fun text => ?_
    rw [← variable_iff h', ← variable_iff h]
    exact hsame f hf text
  variableAdded before after name text henv hname := by
    subst henv
    refine loadPresent_of_variables fun f hf => variableText_insert text before after fun hf' => ?_
    obtain ⟨v, hv⟩ := hname f hf'
    exact hf v hv
  variableChanged before after name text text' henv hname := by
    subst henv
    refine loadPresent_of_variables fun f hf => ?_
    have hother : name.toLower ≠ f.variableName := fun hf' => by
      obtain ⟨v, hv⟩ := hname f hf'
      exact hf v hv
    rw [variableText_insert text' before after hother, variableText_insert text before after hother]
  recased env' hsame := loadPresent_of_variables fun f _ => variableText_recased hsame
  valueAdded before after name v hgiven hadded := by
    subst hgiven
    refine loadPresent_of_values fun f => overrideValue_insert before after fun hv => ?_
    obtain hnull | hname := hadded
    · simp [hv] at hnull
    · exact hname f

/-- Given that the signal comes from the port, the environment may say of it what it likes. To a
reader that takes names to the letter a name in capitals is one of no field. -/
theorem loadPresent_precedence_wiring :
    let env : Environment := [("A131_DIRECTION_LINE", "gpio"), ("a131_baudrate", "19200")]
    let given : Overrides := [("direction_line", .text "rts")]
    OneSpelling env ∧
      loadPresent [("A131_DIRECTION_LINE", "laser"), ("a131_baudrate", "19200")] given =
        loadPresent env given ∧
      loadPresentBy .exact env (("PORT", .text "/dev/x") :: given) =
        loadPresentBy .exact env given := by
  intro env given
  have hone : OneSpelling env := by decide +kernel
  refine ⟨hone, ?environment, ?value⟩
  case environment =>
    have hprecedence := loadPresent_precedence .anyCase hone given
    refine hprecedence.variableChanged [] _ _ _ _ rfl fun f hname => ?_
    cases f with
    | directionLine => exact ⟨.text "rts", [], _, [], rfl, by decide +kernel, rfl, by simp⟩
    | port | baudrate | gpioPin | reverse | readTimeout => exact absurd hname (by decide +kernel)
  case value =>
    have hprecedence := loadPresent_precedence .exact hone given
    refine hprecedence.valueAdded [] given "PORT" _ rfl (.inr fun f => ?_)
    cases f <;> decide

end Settings
end SpindleLink
