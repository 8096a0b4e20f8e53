import Mathlib.Logic.Basic

/-! Two fallible computations compared step by step. Two results agree when
both fail with the same error or both succeed with related values (`Agree`).
In `ExceptT ε Option`, where `none` is a panic, two runs agree when both
panic or both finish with agreeing results (`AgreeT`). Continuations that
agree on related values, bound to runs that agree, keep them agreeing
(`Agree.bind`, `AgreeT.bind`), and agreement under equality is equality
(`Agree.eq`, `AgreeT.eq`): the rule by which a computation that threads a
state is shown to compute what a simpler one computes without it. -/
namespace Relational

variable {ε α β γ δ : Type}

/-- Both fail with the same error, or both succeed with related values. -/
def Agree (R : α → β → Prop) : Except ε α → Except ε β → Prop
  | .ok a, .ok b => R a b
  | .error error, .error error' => error = error'
  | _, _ => False

section Except

variable {R : α → β → Prop} {S : γ → δ → Prop}

theorem Agree.ok {a : α} {b : β} (related : R a b) : Agree R (.ok a : Except ε α) (.ok b) :=
  related

theorem Agree.error (error : ε) : Agree R (.error error : Except ε α) (.error error) :=
  Eq.refl error

/-- A result agrees with itself under equality. -/
theorem Agree.self : (run : Except ε α) → Agree Eq run run
  | .ok a => Eq.refl a
  | .error error => Eq.refl error

theorem Agree.bind {first : Except ε α} {first' : Except ε β} {rest : α → Except ε γ} {rest' : β → Except ε δ}
    (agree : Agree R first first') (step : ∀ a b, R a b → Agree S (rest a) (rest' b)) :
    Agree S (first >>= rest) (first' >>= rest') := by
  cases first with
  | error error =>
    cases first' with
    | error error' => exact agree
    | ok b => exact agree.elim
  | ok a =>
    cases first' with
    | error error' => exact agree.elim
    | ok b => exact step a b agree

/-- Renaming the errors of both keeps them agreeing. -/
theorem Agree.mapError {ε' : Type} (rename : ε → ε') {first : Except ε α} {first' : Except ε β}
    (agree : Agree R first first') : Agree R (first.mapError rename) (first'.mapError rename) := by
  cases first with
  | error error =>
    cases first' with
    | error error' => exact congrArg rename agree
    | ok b => exact agree.elim
  | ok a =>
    cases first' with
    | error error' => exact agree.elim
    | ok b => exact agree

/-- Mapping the values of the second keeps them agreeing, with the relation
moved along. -/
theorem Agree.map_right {g : β → δ} {first : Except ε α} {first' : Except ε β}
    {S' : α → δ → Prop} (agree : Agree R first first') (step : ∀ a b, R a b → S' a (g b)) :
    Agree S' first (first'.map g) := by
  cases first with
  | error error =>
    cases first' with
    | error error' => exact agree
    | ok b => exact agree.elim
  | ok a =>
    cases first' with
    | error error' => exact agree.elim
    | ok b => exact step a b agree

/-- Results that agree under equality are equal. -/
theorem Agree.eq {first first' : Except ε α} (agree : Agree Eq first first') : first = first' := by
  cases first with
  | error error =>
    cases first' with
    | error error' => exact congrArg Except.error agree
    | ok b => exact agree.elim
  | ok a =>
    cases first' with
    | error error' => exact agree.elim
    | ok b => exact congrArg Except.ok agree

end Except

/-! ### Runs that may panic -/

/-- Both panic, or both finish with agreeing results. -/
def AgreeT (R : α → β → Prop) (run : ExceptT ε Option α) (run' : ExceptT ε Option β) : Prop :=
  Option.Rel (Agree R) run.run run'.run

section Panics

variable {R : α → β → Prop} {S : γ → δ → Prop}

theorem AgreeT.pure {a : α} {b : β} (related : R a b) : AgreeT R (pure a : ExceptT ε Option α) (pure b) :=
  .some related

/-- A result that cannot panic, lifted on both sides. -/
theorem AgreeT.lift {first : Except ε α} {first' : Except ε β} (agree : Agree R first first') :
    AgreeT R (liftM first : ExceptT ε Option α) (liftM first') :=
  .some agree

/-- The same value or panic, lifted on both sides. -/
theorem AgreeT.liftOption {R' : α → α → Prop} (value : Option α) (refl : ∀ a, R' a a) :
    AgreeT R' (ExceptT.lift value : ExceptT ε Option α) (ExceptT.lift value) := by
  cases value with
  | none => exact .none
  | some a => exact .some (refl a)

theorem AgreeT.bind {first : ExceptT ε Option α} {first' : ExceptT ε Option β}
    {rest : α → ExceptT ε Option γ} {rest' : β → ExceptT ε Option δ}
    (agree : AgreeT R first first') (step : ∀ a b, R a b → AgreeT S (rest a) (rest' b)) :
    AgreeT S (first >>= rest) (first' >>= rest') := by
  unfold AgreeT
  rw [ExceptT.run_bind, ExceptT.run_bind]
  cases agree with
  | none => exact .none
  | @some result result' agree =>
    cases result with
    | error error =>
      cases result' with
      | error error' =>
        -- both fail, with one error
        cases agree
        exact .some rfl
      | ok b => exact agree.elim
    | ok a =>
      cases result' with
      | error error' => exact agree.elim
      | ok b => exact step a b agree

/-- Runs that agree under equality are equal. -/
theorem AgreeT.eq {run run' : ExceptT ε Option α} (agree : AgreeT Eq run run') : run = run' := by
  apply ExceptT.ext
  cases agree with
  | none => rfl
  | some agree => exact congrArg some agree.eq

end Panics

end Relational
