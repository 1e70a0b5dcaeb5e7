import Mathlib.Data.List.Basic

/-!
# Runs of a fallible step function

A component that handles one input at a time (a reassembler fed packets, a
parser fed chunks, a database fed API calls) is a step function from a state
and an input to the next state and the outputs it emits, or to a failure that
stands for an abort or for undefined behaviour. `run` feeds a list of inputs in
order and stops at the first failure.

The induction over the input list is done here once: an invariant kept by every
step is kept by every run (`run_preserves`), outputs that every step emits from
an invariant state satisfy a predicate on the whole output list
(`run_outputs`), and a step that never fails from an invariant state gives a
run that never fails (`run_succeeds`).
-/

namespace Runs

universe u
variable {σ ι ω ε : Type u}

/-- Feed the inputs in order, concatenating what each step emits; the first
failing step ends the run with its failure. -/
def run (step : σ → ι → Except ε (σ × List ω)) : σ → List ι → Except ε (σ × List ω)
  | state, [] => .ok (state, [])
  | state, input :: rest => do
    let (next, emitted) ← step state input
    let (final, later) ← run step next rest
    pure (final, emitted ++ later)

/-- A fallible computation followed by another succeeds exactly when both do:
the rule that takes a step function's success apart, bind by bind. -/
theorem bind_eq_ok {α β : Type u} (first : Except ε α) (rest : α → Except ε β) (result : β) :
    first >>= rest = .ok result ↔ ∃ middle, first = .ok middle ∧ rest middle = .ok result := by
  cases first <;> simp [bind, Except.bind]

/-- A property of states that every successful step keeps. -/
def Preserves (step : σ → ι → Except ε (σ × List ω)) (invariant : σ → Prop) : Prop :=
  ∀ state input next emitted, invariant state → step state input = .ok (next, emitted) →
    invariant next

variable (step : σ → ι → Except ε (σ × List ω))

@[simp] theorem run_nil (state : σ) : run step state [] = .ok (state, []) := rfl

/-- A successful first step prepends its outputs to those of the rest of the run. -/
theorem run_cons_ok (state next : σ) (input : ι) (rest : List ι) (emitted : List ω)
    (stepped : step state input = .ok (next, emitted)) :
    run step state (input :: rest) =
      (run step next rest).map (fun result => (result.1, emitted ++ result.2)) := by
  simp only [run, stepped, bind, Except.bind]
  cases run step next rest <;> rfl

/-- A failing first step is the failure of the whole run. -/
theorem run_cons_error (state : σ) (input : ι) (rest : List ι) (failure : ε)
    (failed : step state input = .error failure) :
    run step state (input :: rest) = .error failure := by
  simp only [run, failed, bind, Except.bind]

/-- A run of a nonempty input list succeeds exactly when its first step does and
the run of the rest from the state that step reached does. -/
theorem run_cons_eq_ok (state final : σ) (input : ι) (rest : List ι) (emitted : List ω) :
    run step state (input :: rest) = .ok (final, emitted) ↔
      ∃ next now later, step state input = .ok (next, now) ∧
        run step next rest = .ok (final, later) ∧ now ++ later = emitted := by
  constructor
  · intro ran
    cases stepped : step state input with
    | error failure => simp [run_cons_error step state input rest failure stepped] at ran
    | ok result =>
      obtain ⟨next, now⟩ := result
      rw [run_cons_ok step state next input rest now stepped] at ran
      cases restRun : run step next rest with
      | error failure => simp [restRun, Except.map] at ran
      | ok restResult =>
        obtain ⟨middle, later⟩ := restResult
        simp only [restRun, Except.map, Except.ok.injEq, Prod.mk.injEq] at ran
        obtain ⟨rfl, together⟩ := ran
        exact ⟨next, now, later, rfl, restRun, together⟩
  · rintro ⟨next, now, later, stepped, restRun, rfl⟩
    rw [run_cons_ok step state next input rest now stepped, restRun]
    rfl

/-- Splitting the input list splits the run: the second part starts from the
state the first part reached. -/
theorem run_append (state : σ) (first second : List ι) :
    run step state (first ++ second) = (do
      let (middle, emitted) ← run step state first
      let (final, later) ← run step middle second
      pure (final, emitted ++ later)) := by
  induction first generalizing state with
  | nil =>
    simp only [List.nil_append, run_nil, bind, Except.bind, pure, Except.pure, List.nil_append]
    cases run step state second <;> rfl
  | cons input rest inductionHypothesis =>
    cases stepped : step state input with
    | error failure =>
      simp only [List.cons_append, run_cons_error step state input _ failure stepped, bind,
        Except.bind]
    | ok result =>
      obtain ⟨next, emitted⟩ := result
      rw [List.cons_append, run_cons_ok step state next input _ emitted stepped,
        run_cons_ok step state next input _ emitted stepped, inductionHypothesis]
      cases run step next rest with
      | error failure => rfl
      | ok middleResult =>
        simp only [bind, Except.bind, pure, Except.pure, Except.map]
        cases run step middleResult.1 second <;> simp [List.append_assoc]

/-- An invariant kept by every step is kept by every run. -/
theorem run_preserves (invariant : σ → Prop) (preserves : Preserves step invariant)
    (state final : σ) (inputs : List ι) (emitted : List ω) (holds : invariant state)
    (ran : run step state inputs = .ok (final, emitted)) : invariant final := by
  induction inputs generalizing state emitted with
  | nil =>
    simp only [run_nil, Except.ok.injEq, Prod.mk.injEq] at ran
    exact ran.1 ▸ holds
  | cons input rest inductionHypothesis =>
    cases stepped : step state input with
    | error failure => simp [run_cons_error step state input rest failure stepped] at ran
    | ok result =>
      obtain ⟨next, now⟩ := result
      rw [run_cons_ok step state next input rest now stepped] at ran
      cases restRun : run step next rest with
      | error failure => simp [restRun, Except.map] at ran
      | ok restResult =>
        obtain ⟨middle, later⟩ := restResult
        have reached : middle = final := by
          simp only [restRun, Except.map, Except.ok.injEq, Prod.mk.injEq] at ran
          exact ran.1
        subst reached
        exact inductionHypothesis next later (preserves state input next now holds stepped)
          restRun

/-- Outputs that every step emits from an invariant state all satisfy `good`. -/
theorem run_outputs (invariant : σ → Prop) (preserves : Preserves step invariant)
    (good : ω → Prop)
    (emitsGood : ∀ state input next emitted, invariant state →
      step state input = .ok (next, emitted) → ∀ output ∈ emitted, good output)
    (state final : σ) (inputs : List ι) (emitted : List ω) (holds : invariant state)
    (ran : run step state inputs = .ok (final, emitted)) : ∀ output ∈ emitted, good output := by
  induction inputs generalizing state emitted with
  | nil =>
    simp only [run_nil, Except.ok.injEq, Prod.mk.injEq] at ran
    simp [← ran.2]
  | cons input rest inductionHypothesis =>
    cases stepped : step state input with
    | error failure => simp [run_cons_error step state input rest failure stepped] at ran
    | ok result =>
      obtain ⟨next, now⟩ := result
      rw [run_cons_ok step state next input rest now stepped] at ran
      cases restRun : run step next rest with
      | error failure => simp [restRun, Except.map] at ran
      | ok restResult =>
        obtain ⟨middle, later⟩ := restResult
        have reached : middle = final ∧ now ++ later = emitted := by
          simpa only [restRun, Except.map, Except.ok.injEq, Prod.mk.injEq] using ran
        obtain ⟨rfl, together⟩ := reached
        intro output member
        rw [← together, List.mem_append] at member
        rcases member with fromFirst | fromRest
        · exact emitsGood state input next now holds stepped output fromFirst
        · exact inductionHypothesis next later
            (preserves state input next now holds stepped) restRun output fromRest

/-- A step that never fails from an invariant state gives a run that never fails. -/
theorem run_succeeds (invariant : σ → Prop) (preserves : Preserves step invariant)
    (neverFails : ∀ state input, invariant state → ∃ next emitted,
      step state input = .ok (next, emitted))
    (state : σ) (inputs : List ι) (holds : invariant state) :
    ∃ final emitted, run step state inputs = .ok (final, emitted) := by
  induction inputs generalizing state with
  | nil => exact ⟨state, [], rfl⟩
  | cons input rest inductionHypothesis =>
    obtain ⟨next, now, stepped⟩ := neverFails state input holds
    obtain ⟨final, later, restRan⟩ :=
      inductionHypothesis next (preserves state input next now holds stepped)
    refine ⟨final, now ++ later, ?_⟩
    rw [run_cons_ok step state next input rest now stepped, restRan]
    rfl

/-- A property of states that every successful step on an allowed input keeps. -/
def PreservesOn (step : σ → ι → Except ε (σ × List ω)) (allowed : ι → Prop)
    (invariant : σ → Prop) : Prop :=
  ∀ state input next emitted, invariant state → allowed input →
    step state input = .ok (next, emitted) → invariant next

/-- A run over allowed inputs that fails, fails at a step on one of its inputs
from a state the invariant holds of: what is known of every failing step is
known of every failing run. -/
theorem run_fails_at (invariant : σ → Prop) (allowed : ι → Prop)
    (preserves : PreservesOn step allowed invariant) (state : σ) (inputs : List ι) (failure : ε)
    (holds : invariant state) (allAllowed : ∀ input ∈ inputs, allowed input)
    (ran : run step state inputs = .error failure) :
    ∃ reached input, invariant reached ∧ input ∈ inputs ∧ step reached input = .error failure := by
  induction inputs generalizing state with
  | nil => simp at ran
  | cons input rest inductionHypothesis =>
    cases stepped : step state input with
    | error stepFailure =>
      rw [run_cons_error step state input rest stepFailure stepped] at ran
      cases ran
      exact ⟨state, input, holds, List.mem_cons_self, stepped⟩
    | ok result =>
      obtain ⟨next, emitted⟩ := result
      rw [run_cons_ok step state next input rest emitted stepped] at ran
      have restFailed : run step next rest = .error failure := by
        cases restRun : run step next rest with
        | error restFailure =>
          rw [restRun] at ran
          cases ran
          rfl
        | ok restResult =>
          rw [restRun] at ran
          cases ran
      obtain ⟨reached, failing, reachedHolds, member, failed⟩ := inductionHypothesis next
        (preserves state input next emitted holds (allAllowed input List.mem_cons_self) stepped)
        (fun later member => allAllowed later (List.mem_cons_of_mem input member)) restFailed
      exact ⟨reached, failing, reachedHolds, List.mem_cons_of_mem input member, failed⟩

/-- A run is mirrored by the run of an abstract step function when every step
from an invariant state on an allowed input is: the states seen through
`abstraction` and the outputs agree, and so do the failures. -/
theorem run_refines {τ : Type u} (abstractStep : τ → ι → Except ε (τ × List ω))
    (abstraction : σ → τ) (invariant : σ → Prop) (allowed : ι → Prop)
    (preserves : Preserves step invariant)
    (mirrors : ∀ state input, invariant state → allowed input →
      (step state input).map (fun result => (abstraction result.1, result.2)) =
        abstractStep (abstraction state) input)
    (state : σ) (inputs : List ι) (holds : invariant state)
    (allAllowed : ∀ input ∈ inputs, allowed input) :
    (run step state inputs).map (fun result => (abstraction result.1, result.2)) =
      run abstractStep (abstraction state) inputs := by
  induction inputs generalizing state with
  | nil => rfl
  | cons input rest inductionHypothesis =>
    have mirrored := mirrors state input holds (allAllowed input List.mem_cons_self)
    cases stepped : step state input with
    | error failure =>
      rw [stepped] at mirrored
      rw [run_cons_error step state input rest failure stepped,
        run_cons_error abstractStep _ input rest failure mirrored.symm]
      rfl
    | ok result =>
      obtain ⟨next, emitted⟩ := result
      rw [stepped] at mirrored
      have restMirrored := inductionHypothesis next
        (preserves state input next emitted holds stepped)
        (fun later member => allAllowed later (List.mem_cons_of_mem input member))
      rw [run_cons_ok step state next input rest emitted stepped,
        run_cons_ok abstractStep _ (abstraction next) input rest emitted mirrored.symm,
        ← restMirrored]
      cases run step next rest <;> rfl

/-- **Forward simulation.** Every run an abstract machine completes is completed
by the concrete one from a state that abstracts to the abstract start, with the
same outputs and a final state that abstracts to the abstract one, when every
abstract step that succeeds is matched so from a state where the invariant
holds. Where the abstract machine fails, the specification leaves the concrete
one free. -/
theorem run_simulates {τ κ : Type u} (abstractStep : τ → ι → Except κ (τ × List ω))
    (abstraction : σ → τ) (invariant : σ → Prop)
    (simulates : ∀ state input next emitted, invariant state →
      abstractStep (abstraction state) input = .ok (next, emitted) →
        ∃ concrete, step state input = .ok (concrete, emitted) ∧ abstraction concrete = next ∧
          invariant concrete)
    (state : σ) (inputs : List ι) (holds : invariant state) (final : τ) (emitted : List ω)
    (ran : run abstractStep (abstraction state) inputs = .ok (final, emitted)) :
    ∃ concrete, run step state inputs = .ok (concrete, emitted) ∧ abstraction concrete = final ∧
      invariant concrete := by
  induction inputs generalizing state emitted with
  | nil =>
    obtain ⟨rfl, rfl⟩ := Prod.mk.inj (Except.ok.inj ran)
    exact ⟨state, rfl, rfl, holds⟩
  | cons input rest inductionHypothesis =>
    obtain ⟨next, now, later, stepped, restRan, rfl⟩ :=
      (run_cons_eq_ok abstractStep _ final input rest emitted).mp ran
    obtain ⟨middle, concreteStep, abstracts, middleHolds⟩ :=
      simulates state input next now holds stepped
    rw [← abstracts] at restRan
    obtain ⟨concrete, concreteRun, finalAbstracts, finalHolds⟩ :=
      inductionHypothesis middle middleHolds later restRan
    refine ⟨concrete, ?_, finalAbstracts, finalHolds⟩
    exact (run_cons_eq_ok step state concrete input rest _).mpr
      ⟨middle, now, later, concreteStep, concreteRun, rfl⟩

/-- A property of the inputs taken and the outputs emitted so far and of the
state that every successful step on an allowed input keeps: the form of a law
about a component's history, such as "what was sent, followed by what still
waits, is what was handed in". -/
def PreservesTraceOn (step : σ → ι → Except ε (σ × List ω)) (allowed : ι → Prop)
    (invariant : List ι → List ω → σ → Prop) : Prop :=
  ∀ taken past state input next emitted, invariant taken past state → allowed input →
    step state input = .ok (next, emitted) → invariant (taken ++ [input]) (past ++ emitted) next

/-- A law about the history kept by every step holds after every run over
allowed inputs, of all the run took and emitted after what came before it. -/
theorem run_preserves_trace (invariant : List ι → List ω → σ → Prop) (allowed : ι → Prop)
    (preserves : PreservesTraceOn step allowed invariant) (taken : List ι) (past : List ω)
    (state final : σ) (inputs : List ι) (emitted : List ω) (holds : invariant taken past state)
    (allAllowed : ∀ input ∈ inputs, allowed input)
    (ran : run step state inputs = .ok (final, emitted)) :
    invariant (taken ++ inputs) (past ++ emitted) final := by
  induction inputs generalizing taken past state emitted with
  | nil =>
    simp only [run_nil, Except.ok.injEq, Prod.mk.injEq] at ran
    obtain ⟨rfl, rfl⟩ := ran
    rwa [List.append_nil, List.append_nil]
  | cons input rest inductionHypothesis =>
    obtain ⟨next, now, later, stepped, restRun, rfl⟩ :=
      (run_cons_eq_ok step state final input rest emitted).mp ran
    have nextHolds := preserves taken past state input next now holds
      (allAllowed input List.mem_cons_self) stepped
    have restHolds := inductionHypothesis (taken ++ [input]) (past ++ now) next later nextHolds
      (fun later member => allAllowed later (List.mem_cons_of_mem input member)) restRun
    simpa only [List.append_assoc, List.singleton_append] using restHolds

/-- A step that, from every state a law about the history holds of, succeeds
on every allowed input and keeps the law gives a run over allowed inputs that
succeeds and ends where the law holds of all it took and emitted. -/
theorem run_succeeds_trace (invariant : List ι → List ω → σ → Prop) (allowed : ι → Prop)
    (steps : ∀ taken past state input, invariant taken past state → allowed input →
      ∃ next emitted, step state input = .ok (next, emitted) ∧
        invariant (taken ++ [input]) (past ++ emitted) next)
    (taken : List ι) (past : List ω) (state : σ) (inputs : List ι)
    (holds : invariant taken past state) (allAllowed : ∀ input ∈ inputs, allowed input) :
    ∃ final emitted, run step state inputs = .ok (final, emitted) ∧
      invariant (taken ++ inputs) (past ++ emitted) final := by
  induction inputs generalizing taken past state with
  | nil => exact ⟨state, [], rfl, by simpa using holds⟩
  | cons input rest inductionHypothesis =>
    obtain ⟨next, now, stepped, nextHolds⟩ :=
      steps taken past state input holds (allAllowed input List.mem_cons_self)
    obtain ⟨final, later, restRan, finalHolds⟩ := inductionHypothesis (taken ++ [input])
      (past ++ now) next nextHolds (fun later member => allAllowed later (List.mem_cons_of_mem input member))
    refine ⟨final, now ++ later, ?_, ?_⟩
    · rw [run_cons_ok step state next input rest now stepped, restRan]
      rfl
    · simpa only [List.append_assoc, List.singleton_append] using finalHolds

end Runs
