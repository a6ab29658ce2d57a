/-! A run feeds a finite list of inputs to a deterministic step function. The nondeterminism of a
caller or of an environment is carried by the inputs, so a statement over every input list is a
statement over every interleaving. -/

namespace Visor.Library
open List
universe u v
section
variable {State : Type u} {Input : Type v} (step : State → Input → State)

def run (start : State) (inputs : List Input) : State := inputs.foldl step start

@[simp] theorem run_nil (start : State) : run step start [] = start := rfl

@[simp] theorem run_cons (start : State) (input : Input) (rest : List Input) :
    run step start (input :: rest) = run step (step start input) rest := rfl

@[simp] theorem run_append (start : State) (first second : List Input) :
    run step start (first ++ second) = run step (run step start first) second := by simp [run]

/-- Every step of the run satisfies the judgment, read in the state before it. -/
def Along (judgment : State → Input → Prop) : State → List Input → Prop
  | _, [] => True
  | state, input :: rest => judgment state input ∧ Along judgment (step state input) rest

section
variable (judgment : State → Input → Prop) (start : State)

@[simp] theorem along_nil : Along step judgment start [] := trivial

@[simp] theorem along_cons (input : Input) (rest : List Input) : Along step judgment start (input :: rest) ↔
    judgment start input ∧ Along step judgment (step start input) rest := Iff.rfl

theorem along_append (first second : List Input) :
    Along step judgment start (first ++ second) ↔ Along step judgment start first ∧
    Along step judgment (run step start first) second := by
  induction first generalizing start with
  | nil => simp
  | cons input rest ih => simp only [cons_append, along_cons, run_cons, ih, and_assoc]

end

instance Along.decidable (judgment : State → Input → Prop)
    [decides : ∀ state input, Decidable (judgment state input)] :
    ∀ start inputs, Decidable (Along step judgment start inputs)
  | _, [] => .isTrue trivial
  | start, input :: rest =>
    have : Decidable (Along step judgment (step start input) rest) := Along.decidable judgment _ rest
    inferInstanceAs (Decidable (judgment start input ∧ _))

/-- Some step of the run satisfies the judgment, read in the state before it. -/
def Sometime (judgment : State → Input → Prop) : State → List Input → Prop
  | _, [] => False
  | state, input :: rest => judgment state input ∨ Sometime judgment (step state input) rest

instance Sometime.decidable (judgment : State → Input → Prop)
    [decides : ∀ state input, Decidable (judgment state input)] :
    ∀ start inputs, Decidable (Sometime step judgment start inputs)
  | _, [] => .isFalse id
  | start, input :: rest =>
    have : Decidable (Sometime step judgment (step start input) rest) := Sometime.decidable judgment _ rest
    inferInstanceAs (Decidable (judgment start input ∨ _))

/-- The property holds in every state of the run, the first and the last included. -/
def Throughout (property : State → Prop) : State → List Input → Prop
  | state, [] => property state
  | state, input :: rest => property state ∧ Throughout property (step state input) rest

@[simp] theorem throughout_nil (property : State → Prop) (start : State) :
    Throughout step property start [] ↔ property start := Iff.rfl

@[simp] theorem throughout_cons (property : State → Prop) (start : State)
    (input : Input) (rest : List Input) : Throughout step property start (input :: rest) ↔
    property start ∧ Throughout step property (step start input) rest := Iff.rfl

theorem Throughout.start {property : State → Prop} {start : State}
    {inputs : List Input} (holds : Throughout step property start inputs) : property start := by
  cases inputs with
  | nil => exact holds
  | cons => exact holds.1

/-- A property holds throughout a run exactly when it holds after each prefix. -/
theorem throughout_iff_prefixes (property : State → Prop) (start : State) (inputs : List Input) :
    Throughout step property start inputs ↔ ∀ before, before <+: inputs →
    property (run step start before) := by
  induction inputs generalizing start with
  | nil => simp
  | cons input rest ih =>
    simp only [throughout_cons, ih]
    constructor
    · rintro ⟨first, later⟩ before isPrefix
      cases before with
      | nil => exact first
      | cons head tail =>
        obtain ⟨rfl, tailPrefix⟩ := cons_prefix_cons.mp isPrefix
        exact later tail tailPrefix
    · intro every
      refine ⟨every [] nil_prefix, fun before isPrefix => ?_⟩
      exact every (input :: before) (cons_prefix_cons.mpr ⟨rfl, isPrefix⟩)

variable {step} {start : State} {inputs : List Input}

theorem Along.mono {weaker stronger : State → Input → Prop}
    (implies : ∀ state input, stronger state input → weaker state input)
    (holds : Along step stronger start inputs) : Along step weaker start inputs := by
  induction inputs generalizing start with
  | nil => trivial
  | cons input rest ih => exact ⟨implies _ _ holds.1, ih holds.2⟩

theorem Along.and {first second : State → Input → Prop} (one : Along step first start inputs)
    (other : Along step second start inputs) :
    Along step (fun state input => first state input ∧ second state input) start inputs := by
  induction inputs generalizing start with
  | nil => trivial
  | cons input rest ih => exact ⟨⟨one.1, other.1⟩, ih one.2 other.2⟩

theorem along_of_forall {admits : Input → Prop}
    (every : ∀ input ∈ inputs, admits input) : Along step (fun _ input => admits input) start inputs := by
  induction inputs generalizing start with
  | nil => trivial
  | cons input rest ih => exact ⟨every input (.head _), ih fun later member => every later (.tail _ member)⟩

theorem along_of_always {judgment : State → Input → Prop} (start : State) (inputs : List Input)
    (always : ∀ state input, judgment state input) : Along step judgment start inputs := by
  induction inputs generalizing start with
  | nil => trivial
  | cons input rest ih => exact ⟨always start input, ih _⟩

section
variable (invariant : State → Prop) {property : State → Prop} {admits judgment : State → Input → Prop}

/-- The invariant rule: what every admitted step preserves, every admitted run
preserves. -/
theorem invariant_run (preserved : ∀ state input, invariant state → admits state input →
      invariant (step state input)) (initial : invariant start)
    (admitted : Along step admits start inputs) : invariant (run step start inputs) := by
  induction inputs generalizing start with
  | nil => exact initial
  | cons input rest ih => exact ih (preserved _ _ initial admitted.1) admitted.2

theorem stable_run (inputs : List Input)
    (preserved : ∀ state input, invariant state → invariant (step state input))
    (initial : invariant start) : invariant (run step start inputs) := by
  induction inputs generalizing start with
  | nil => exact initial
  | cons input rest ih => exact ih (preserved _ _ initial)

section
variable (preserved : ∀ state input, invariant state → admits state input → invariant (step state input))
include preserved

/-- Under an invariant, a judgment that follows from it holds at every step. -/
theorem along_of_invariant (follows : ∀ state input, invariant state → admits state input →
      judgment state input) (initial : invariant start)
    (admitted : Along step admits start inputs) : Along step judgment start inputs := by
  induction inputs generalizing start with
  | nil => trivial
  | cons input rest ih =>
    exact ⟨follows _ _ initial admitted.1, ih (preserved _ _ initial admitted.1) admitted.2⟩

theorem throughout_of_invariant (follows : ∀ state, invariant state → property state)
    (initial : invariant start) (admitted : Along step admits start inputs) :
    Throughout step property start inputs := by
  induction inputs generalizing start with
  | nil => exact follows _ initial
  | cons input rest ih => exact ⟨follows _ initial, ih (preserved _ _ initial admitted.1) admitted.2⟩

end

/-- A condition on steps that is enough to keep the invariant, and without which
the property fails at once, holds along a run exactly when the property holds
throughout it. -/
theorem throughout_iff_along (preserved : ∀ state input, invariant state → admits state input →
      judgment state input → invariant (step state input))
    (follows : ∀ state, invariant state → property state)
    (needed : ∀ state input, admits state input → property (step state input) →
      judgment state input) (initial : invariant start)
    (admitted : Along step admits start inputs) :
    Throughout step property start inputs ↔ Along step judgment start inputs := by
  induction inputs generalizing start with
  | nil => exact iff_of_true (follows _ initial) trivial
  | cons input rest ih =>
    simp only [throughout_cons, along_cons]
    constructor
    · rintro ⟨_, later⟩
      have met := needed _ _ admitted.1 later.start
      exact ⟨met, (ih (preserved _ _ initial admitted.1 met) admitted.2).mp later⟩
    · rintro ⟨met, later⟩
      exact ⟨follows _ initial, (ih (preserved _ _ initial admitted.1 met) admitted.2).mpr later⟩

end
end
end Visor.Library
