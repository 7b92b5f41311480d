import Mathlib.Data.List.Basic

/-!
# Loops over given inputs

A loop whose body goes on to the next input, returns, or aborts. The loop aborts exactly if it
comes to an input on which the body does.
-/

namespace Loop

variable {α σ ρ ε : Type} {input : α} {rest : List α} {abort : ε} (inputs : List α)

/-- How the body of a loop ends when it does not abort. -/
inductive Outcome (σ ρ : Type) where
  | goesOn (state : σ)
  | returns (result : ρ)

/-- The loop goes on when there is no further input. -/
def run (body : σ → α → Except ε (Outcome σ ρ)) : List α → σ → Except ε (Outcome σ ρ)
  | [], state => .ok (.goesOn state)
  | input :: rest, state =>
    match body state input with
    | .error abort => .error abort
    | .ok (.returns result) => .ok (.returns result)
    | .ok (.goesOn next) => run body rest next

variable {body : σ → α → Except ε (Outcome σ ρ)}

/-- What the first input does decides where the loop goes on. -/
theorem run_cons_eq_goesOn_iff {state final : σ} :
    run body (input :: rest) state = .ok (.goesOn final) ↔
      ∃ next, body state input = .ok (.goesOn next) ∧ run body rest next = .ok (.goesOn final) := by
  rw [run]
  rcases body state input with abort | next | result <;> simp

theorem run_cons_eq_error_iff {state : σ} :
    run body (input :: rest) state = .error abort ↔
      body state input = .error abort ∨
        ∃ next, body state input = .ok (.goesOn next) ∧ run body rest next = .error abort := by
  rw [run]
  rcases body state input with abort | next | result <;> simp

/-- The loop aborts exactly if it reaches an input on which its body aborts. -/
theorem run_eq_error_iff :
    ∀ state : σ, run body inputs state = .error abort ↔
      ∃ front input back reached, inputs = front ++ input :: back ∧
        run body front state = .ok (.goesOn reached) ∧ body reached input = .error abort := by
  induction inputs with
  | nil =>
    intro state
    simp [run]
  | cons head rest ih =>
    intro state
    rw [run_cons_eq_error_iff]
    constructor
    · rintro (now | ⟨next, goesOn, later⟩)
      · exact ⟨[], head, rest, state, rfl, rfl, now⟩
      · obtain ⟨front, input, back, reached, rfl, before, aborts⟩ := (ih next).mp later
        exact ⟨head :: front, input, back, reached, rfl,
          run_cons_eq_goesOn_iff.mpr ⟨next, goesOn, before⟩, aborts⟩
    · rintro ⟨front, input, back, reached, split, before, aborts⟩
      cases front with
      | nil =>
        cases split
        cases before
        exact Or.inl aborts
      | cons _ front =>
        cases split
        obtain ⟨next, goesOn, before⟩ := run_cons_eq_goesOn_iff.mp before
        exact Or.inr ⟨next, goesOn,
          (ih next).mpr ⟨front, input, back, reached, rfl, before, aborts⟩⟩

/-- What the loop returns, its body returns. -/
theorem exists_of_run_returns {result : ρ} :
    ∀ state : σ, run body inputs state = .ok (.returns result) →
      ∃ reached input, body reached input = .ok (.returns result) := by
  induction inputs with
  | nil =>
    intro state returned
    cases returned
  | cons head rest ih =>
    intro state returned
    rw [run] at returned
    split at returned
    · cases returned
    · rename_i now
      cases returned
      exact ⟨state, head, now⟩
    · exact ih _ returned

/-- A loop without an early return aborts on one of its inputs. -/
theorem exists_of_foldlM_eq_error {step : σ → α → Except ε σ} :
    ∀ state : σ, inputs.foldlM step state = .error abort →
      ∃ reached input, input ∈ inputs ∧ step reached input = .error abort := by
  induction inputs with
  | nil =>
    intro state aborted
    cases aborted
  | cons head rest ih =>
    intro state aborted
    rw [List.foldlM_cons] at aborted
    cases first : step state head with
    | error _ =>
      rw [first] at aborted
      cases aborted
      exact ⟨state, head, List.mem_cons_self, first⟩
    | ok next =>
      rw [first] at aborted
      obtain ⟨reached, input, member, aborts⟩ := ih next aborted
      exact ⟨reached, input, List.mem_cons_of_mem head member, aborts⟩

end Loop
