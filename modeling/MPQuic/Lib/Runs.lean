import Mathlib.Data.List.Induction

/-!
# Runs with a condition on every step

A run is a fold of steps. What each step preserves, under a condition that may look at the state
before it, the whole run preserves if every step meets the condition (`EachStep.invariant`). If the
condition is also necessary in each step, it is in the whole run (`prefixes_iff_eachStep`). The
steps may fail; then the condition has to rule that out, too (`EachOk.invariant`), or the result is
only about the states that are reached (`EachOk.reached`, `prefixes_iff_eachOk`).
-/

namespace Runs

open List

variable {σ α : Type} {op : α} {rest ops : List α}

/-- Every step of the run meets the condition in the state before it. -/
def EachStep (step : σ → α → σ) (condition : σ → α → Prop) (start : σ) (ops : List α) : Prop :=
  ∀ front op back, ops = front ++ op :: back → condition (front.foldl step start) op

section Rules

variable {step : σ → α → σ} {condition : σ → α → Prop} {start : σ}

theorem eachStep_nil : EachStep step condition start [] := by
  intro front op back split
  cases front <;> cases split

theorem eachStep_cons :
    EachStep step condition start (op :: rest) ↔
      condition start op ∧ EachStep step condition (step start op) rest := by
  constructor
  · intro each
    refine ⟨each [] op rest rfl, fun front op' back split => ?_⟩
    exact each (op :: front) op' back (congrArg (op :: ·) split)
  · rintro ⟨first, later⟩ front op' back split
    cases front with
    | nil =>
      cases split
      exact first
    | cons head front =>
      cases split
      exact later front op' back rfl

/-- The calls alone decide that the condition holds. -/
theorem EachStep.of_mem (all : ∀ op ∈ ops, ∀ state, condition state op) :
    EachStep step condition start ops := by
  intro front op back split
  refine all op ?_ _
  rw [split]
  exact mem_append_right _ mem_cons_self

instance decidableEachStep [∀ state op, Decidable (condition state op)] :
    ∀ (start : σ) (ops : List α), Decidable (EachStep step condition start ops)
  | _, [] => .isTrue eachStep_nil
  | start, op :: rest =>
    have := decidableEachStep (step start op) rest
    decidable_of_iff _ eachStep_cons.symm

/-- What every step preserves holds at the end. -/
theorem EachStep.invariant (each : EachStep step condition start ops) (inv : σ → Prop)
    (initially : inv start)
    (keeps : ∀ state op, inv state → condition state op → inv (step state op)) :
    inv (ops.foldl step start) := by
  induction ops generalizing start with
  | nil => exact initially
  | cons op rest ih =>
    obtain ⟨first, later⟩ := eachStep_cons.mp each
    exact ih later (keeps start op initially first)

/-- If a step from a good state leads to a good state exactly if it meets the condition, then all
states of a run are good exactly if every step meets the condition. -/
theorem prefixes_iff_eachStep (inv good : σ → Prop) (initially : inv start) (startGood : good start)
    (keeps : ∀ state op, inv state → inv (step state op))
    (exact : ∀ state op, inv state → good state →
      (good (step state op) ↔ condition state op)) :
    (∀ front, front <+: ops → good (front.foldl step start)) ↔
      EachStep step condition start ops := by
  induction ops generalizing start with
  | nil =>
    refine ⟨fun _ => eachStep_nil, fun _ front before => ?_⟩
    rw [prefix_nil.mp before]
    exact startGood
  | cons op rest ih =>
    have first := exact start op initially startGood
    rw [eachStep_cons]
    constructor
    · intro all
      have next : good (step start op) := all [op] (prefix_append [op] rest)
      refine ⟨first.mp next, (ih (keeps _ _ initially) next).mp fun front before => ?_⟩
      exact all (op :: front) (cons_prefix_cons.mpr ⟨rfl, before⟩)
    · rintro ⟨meets, later⟩ front before
      cases front with
      | nil => exact startGood
      | cons head front =>
        obtain ⟨rfl, inRest⟩ := cons_prefix_cons.mp before
        exact (ih (keeps _ _ initially) (first.mpr meets)).mpr later front inRest

end Rules

/-! ## Steps that may fail -/

variable {ε : Type}

/-- Every step of the run meets the condition in the state before it, if that state is reached. -/
def EachOk (step : σ → α → Except ε σ) (condition : σ → α → Prop) (start : σ) (ops : List α) :
    Prop :=
  ∀ front op back, ops = front ++ op :: back → ∀ state, front.foldlM step start = .ok state →
    condition state op

section FallibleRules

variable {step : σ → α → Except ε σ} {condition : σ → α → Prop} {start : σ}

theorem eachOk_nil : EachOk step condition start [] := by
  intro front op back split
  cases front <;> cases split

/-- The calls alone decide that the condition holds. -/
theorem EachOk.of_mem (all : ∀ op ∈ ops, ∀ state, condition state op) :
    EachOk step condition start ops := by
  intro front op back split state _
  refine all op ?_ state
  rw [split]
  exact mem_append_right _ mem_cons_self

/-- The step after a run. -/
theorem foldlM_concat {final : σ} (ran : (ops ++ [op]).foldlM step start = .ok final) :
    ∃ state, ops.foldlM step start = .ok state ∧ step state op = .ok final := by
  rw [foldlM_append] at ran
  cases front : ops.foldlM step start with
  | error _ =>
    rw [front] at ran
    cases ran
  | ok state =>
    rw [front] at ran
    exact ⟨state, rfl, (bind_pure (step state op)).symm.trans ran⟩

theorem eachOk_concat :
    EachOk step condition start (ops ++ [op]) ↔
      EachOk step condition start ops ∧
        ∀ state, ops.foldlM step start = .ok state → condition state op := by
  constructor
  · intro each
    refine ⟨fun front op' back split => ?_, each ops op [] rfl⟩
    exact each front op' (back ++ [op]) (by rw [split, append_assoc, cons_append])
  · rintro ⟨before, last⟩ front op' back split
    rcases eq_nil_or_concat back with rfl | ⟨back, op'', rfl⟩
    · obtain ⟨rfl, same⟩ := append_inj' split rfl
      obtain rfl := head_eq_of_cons_eq same
      exact last
    · rw [concat_eq_append, ← cons_append, ← append_assoc] at split
      exact before front op' back (append_inj' split rfl).1

/-- If the condition lets every step succeed and preserve the invariant, which may speak of the
steps so far, the run succeeds and the invariant holds at its end. -/
theorem EachOk.invariant (each : EachOk step condition start ops) (inv : List α → σ → Prop)
    (initially : inv [] start) (keeps : ∀ front state op, inv front state → condition state op →
      ∃ next, step state op = .ok next ∧ inv (front ++ [op]) next) :
    ∃ final, ops.foldlM step start = .ok final ∧ inv ops final := by
  induction ops using List.reverseRecOn with
  | nil => exact ⟨start, rfl, initially⟩
  | append_singleton front op ih =>
    obtain ⟨before, last⟩ := eachOk_concat.mp each
    obtain ⟨state, ran, held⟩ := ih before
    obtain ⟨next, stepped, holds⟩ := keeps front state op held (last state ran)
    refine ⟨next, ?_, holds⟩
    rw [foldlM_append, ran]
    exact (bind_pure (step state op)).trans stepped

/-- What every step that succeeds preserves holds in the state that is reached. -/
theorem EachOk.reached (each : EachOk step condition start ops) (inv : List α → σ → Prop)
    (initially : inv [] start)
    (keeps : ∀ front state op next, inv front state → condition state op →
      step state op = .ok next → inv (front ++ [op]) next) :
    ∀ final, ops.foldlM step start = .ok final → inv ops final := by
  induction ops using List.reverseRecOn with
  | nil =>
    intro final ran
    cases ran
    exact initially
  | append_singleton front op ih =>
    intro final ran
    obtain ⟨before, last⟩ := eachOk_concat.mp each
    obtain ⟨state, reached, stepped⟩ := foldlM_concat ran
    exact keeps front state op final (ih before state reached) (last state reached) stepped

/-- If a step leads to a good state exactly if it meets the condition, then all states that a run
reaches are good exactly if every step meets the condition. The steps are among those that are
allowed, and the ones that fail meet the condition. -/
theorem prefixes_iff_eachOk {allowed : σ → α → Prop} (allows : EachOk step allowed start ops)
    (inv good : List α → σ → Prop) (initially : inv [] start)
    (isGood : ∀ front state, inv front state → good front state)
    (keeps : ∀ front state op next, inv front state → allowed state op → condition state op →
      step state op = .ok next → inv (front ++ [op]) next)
    (exact : ∀ front state op next, inv front state → allowed state op →
      step state op = .ok next → good (front ++ [op]) next → condition state op)
    (failing : ∀ front state op error, inv front state → allowed state op →
      step state op = .error error → condition state op) :
    (∀ front, front <+: ops → ∀ state, front.foldlM step start = .ok state →
      good front state) ↔ EachOk step condition start ops := by
  induction ops using List.reverseRecOn with
  | nil =>
    refine iff_of_true (fun front before state ran => ?_) eachOk_nil
    obtain rfl := prefix_nil.mp before
    cases ran
    exact isGood _ _ initially
  | append_singleton ops op ih =>
    obtain ⟨before, last⟩ := eachOk_concat.mp allows
    have reaches (each : EachOk step condition start ops) :
        ∀ state, ops.foldlM step start = .ok state → inv ops state := by
      have both : EachOk step (fun state op => allowed state op ∧ condition state op) start ops :=
        fun front op back split state ran =>
          ⟨before front op back split state ran, each front op back split state ran⟩
      exact both.reached inv initially fun front state op next held meets =>
        keeps front state op next held meets.1 meets.2
    rw [eachOk_concat]
    constructor
    · intro all
      have each := (ih before).mp fun front earlier =>
        all front (earlier.trans (prefix_append ops [op]))
      refine ⟨each, fun state ran => ?_⟩
      cases stepped : step state op with
      | error error =>
        exact failing ops state op error (reaches each state ran) (last state ran) stepped
      | ok next =>
        refine exact ops state op next (reaches each state ran) (last state ran) stepped ?_
        refine all _ (prefix_refl _) next ?_
        rw [foldlM_append, ran]
        exact (bind_pure (step state op)).trans stepped
    · rintro ⟨each, meets⟩ front prefixOf state ran
      rcases prefix_concat_iff.mp prefixOf with rfl | earlier
      · obtain ⟨mid, reached, stepped⟩ := foldlM_concat ran
        exact isGood _ _ (keeps ops mid op state (reaches each mid reached) (last mid reached)
          (meets mid reached) stepped)
      · exact (ih before).mpr each front earlier state ran

theorem eachOk_cons :
    EachOk step condition start (op :: rest) ↔
      condition start op ∧ ∀ next, step start op = .ok next → EachOk step condition next rest := by
  constructor
  · intro each
    refine ⟨each [] op rest rfl start rfl, fun next stepped front op' back split state ran => ?_⟩
    refine each (op :: front) op' back (congrArg (op :: ·) split) state ?_
    rw [foldlM_cons, stepped]
    exact ran
  · rintro ⟨first, later⟩ front op' back split state ran
    cases front with
    | nil =>
      cases split
      cases ran
      exact first
    | cons head front =>
      cases split
      rw [foldlM_cons] at ran
      cases stepped : step start op with
      | error _ =>
        rw [stepped] at ran
        cases ran
      | ok next =>
        rw [stepped] at ran
        exact later next stepped front op' back rfl state ran

instance decidableEachOk [∀ state op, Decidable (condition state op)] :
    ∀ (start : σ) (ops : List α), Decidable (EachOk step condition start ops)
  | _, [] => .isTrue eachOk_nil
  | start, op :: rest =>
    have : Decidable (∀ next, step start op = .ok next → EachOk step condition next rest) :=
      match stepped : step start op with
      | .error _ => .isTrue fun _ other => by cases other
      | .ok next =>
        have := decidableEachOk next rest
        decidable_of_iff (EachOk step condition next rest)
          ⟨fun each _ same => Except.ok.inj same ▸ each, fun each => each next rfl⟩
    decidable_of_iff _ eachOk_cons.symm

end FallibleRules

end Runs
