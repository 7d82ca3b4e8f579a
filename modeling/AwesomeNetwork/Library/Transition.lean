import Mathlib.Data.List.Basic

/-! # Runs of partial step functions

A system is given by an executable partial step function: a label that is not
enabled in a state yields no successor. This file collects the finite runs of
such a system, the rules that carry a one-step fact to a whole run, and the
comparison of a property of every visited state with a condition on every
taken step, and the refinement of what a run emits.
-/

namespace Transition

variable {State Label : Type*}

/-- Following the labels in order leads from the first state to the last one. -/
inductive Run (step : State → Label → Option State) : State → List Label → State → Prop
  | nil (state : State) : Run step state [] state
  | cons {source middle target : State} {label : Label} {labels : List Label} :
      step source label = some middle → Run step middle labels target →
        Run step source (label :: labels) target

/-- The state that a list of labels leads to, if each of its steps is enabled. -/
def execute (step : State → Label → Option State) (source : State) : List Label → Option State
  | [] => some source
  | label :: labels => (step source label).bind fun middle => execute step middle labels

/-- Every state visited while following the labels satisfies the predicate. -/
def Always (step : State → Label → Option State) (predicate : State → Prop) :
    State → List Label → Prop
  | source, [] => predicate source
  | source, label :: labels =>
      predicate source ∧ ∀ middle, step source label = some middle →
        Always step predicate middle labels

/-- Every step taken while following the labels meets the condition. -/
def Meets (step : State → Label → Option State) (condition : State → Label → Prop) :
    State → List Label → Prop
  | _, [] => True
  | source, label :: labels =>
      condition source label ∧ ∀ middle, step source label = some middle →
        Meets step condition middle labels

variable {step : State → Label → Option State} {source middle target : State}
  {label : Label} {labels before after : List Label}

theorem Run.single (taken : step source label = some target) : Run step source [label] target :=
  .cons taken (.nil target)

/-- Runs compose where one ends and the other begins. -/
theorem Run.append (first : Run step source before middle) (second : Run step middle after target) :
    Run step source (before ++ after) target := by
  induction first with
  | nil => exact second
  | cons taken _ ih => exact .cons taken (ih second)

theorem Run.snoc (run : Run step source labels middle) (taken : step middle label = some target) :
    Run step source (labels ++ [label]) target :=
  run.append (.single taken)

theorem Run.cons_inv (run : Run step source (label :: labels) target) :
    ∃ middle, step source label = some middle ∧ Run step middle labels target := by
  cases run with
  | cons taken rest => exact ⟨_, taken, rest⟩

/-- A run along a list and its continuation passes through where the list leads. -/
theorem Run.of_append (whole : Run step source (before ++ after) target)
    (first : Run step source before middle) : Run step middle after target := by
  induction first with
  | nil => exact whole
  | cons taken _ ih =>
      obtain ⟨next, reached, rest⟩ := whole.cons_inv
      cases Option.some.inj (taken.symm.trans reached)
      exact ih rest

/-- A run is exactly a successful execution of its labels. -/
theorem run_iff_execute :
    Run step source labels target ↔ execute step source labels = some target := by
  constructor
  · intro run
    induction run with
    | nil => rfl
    | cons taken _ ih => simpa only [execute, taken, Option.bind_some] using ih
  · intro executed
    induction labels generalizing source with
    | nil =>
        cases executed
        exact .nil _
    | cons label labels ih =>
        obtain ⟨middle, taken, rest⟩ := Option.bind_eq_some_iff.mp executed
        exact .cons taken (ih rest)

/-- What every step preserves, every run preserves. -/
theorem Run.preserves {predicate : State → Prop} (run : Run step source labels target)
    (preserved : ∀ state label next, predicate state → step state label = some next →
      predicate next)
    (initially : predicate source) : predicate target := by
  induction run with
  | nil => exact initially
  | cons taken _ ih => exact ih (preserved _ _ _ initially taken)

/-- A predicate preserved by every step that meets the condition is preserved by
every run whose steps all meet it. -/
theorem Run.preserves_of_meets {predicate : State → Prop} {condition : State → Label → Prop}
    (run : Run step source labels target) (meets : Meets step condition source labels)
    (preserved : ∀ state label next, predicate state → condition state label →
      step state label = some next → predicate next)
    (initially : predicate source) : predicate target := by
  induction run with
  | nil => exact initially
  | cons taken _ ih =>
      exact ih (meets.2 _ taken) (preserved _ _ _ initially meets.1 taken)

/-- A condition that always holds is met along any labels. -/
theorem Meets.of_forall {condition : State → Label → Prop}
    (holds : ∀ state label, condition state label) (source : State) (labels : List Label) :
    Meets step condition source labels := by
  induction labels generalizing source with
  | nil => trivial
  | cons label labels ih => exact ⟨holds _ _, fun middle _ => ih middle⟩

/-- A condition on the labels alone needs to hold of the labels of the run only. -/
theorem Meets.of_forall_mem {condition : State → Label → Prop}
    (holds : ∀ label ∈ labels, ∀ state, condition state label) (source : State) :
    Meets step condition source labels := by
  induction labels generalizing source with
  | nil => trivial
  | cons label labels ih =>
      refine ⟨holds label List.mem_cons_self source, fun middle _ => ih (fun other member => ?_) _⟩
      exact holds other (List.mem_cons_of_mem label member)

instance Meets.decidable {condition : State → Label → Prop}
    [∀ state label, Decidable (condition state label)] :
    ∀ source labels, Decidable (Meets step condition source labels)
  | _, [] => .isTrue trivial
  | source, label :: labels =>
      have (middle : State) : Decidable (Meets step condition middle labels) :=
        Meets.decidable middle labels
      inferInstanceAs (Decidable (condition source label ∧
        ∀ middle ∈ step source label, Meets step condition middle labels))

/-- A run meets a condition when its first step and the rest of it do. -/
theorem Meets.cons_iff {condition : State → Label → Prop}
    (taken : step source label = some middle) :
    Meets step condition source (label :: labels) ↔
      condition source label ∧ Meets step condition middle labels := by
  refine and_congr_right fun _ => ⟨fun rest => rest middle taken, fun rest other reached => ?_⟩
  cases Option.some.inj (taken.symm.trans reached)
  exact rest

/-- Two conditions that are met are met together. -/
theorem Meets.and {first second : State → Label → Prop} (left : Meets step first source labels)
    (right : Meets step second source labels) :
    Meets step (fun state label => first state label ∧ second state label) source labels := by
  induction labels generalizing source with
  | nil => trivial
  | cons label labels ih =>
      exact ⟨⟨left.1, right.1⟩, fun middle taken => ih (left.2 middle taken) (right.2 middle taken)⟩

theorem Meets.mono {first second : State → Label → Prop}
    (weaker : ∀ state label, first state label → second state label)
    (meets : Meets step first source labels) : Meets step second source labels := by
  induction labels generalizing source with
  | nil => trivial
  | cons label labels ih =>
      exact ⟨weaker _ _ meets.1, fun middle taken => ih (meets.2 middle taken)⟩

theorem Meets.left {condition : State → Label → Prop}
    (meets : Meets step condition source (before ++ after)) :
    Meets step condition source before := by
  induction before generalizing source with
  | nil => trivial
  | cons label before ih => exact ⟨meets.1, fun middle taken => ih (meets.2 middle taken)⟩

theorem Meets.right {condition : State → Label → Prop} (run : Run step source before middle)
    (meets : Meets step condition source (before ++ after)) :
    Meets step condition middle after := by
  induction run with
  | nil => exact meets
  | cons taken _ ih => exact ih (meets.2 _ taken)

/-- Both parts of a run meet a condition exactly when the whole of it does. -/
theorem Meets.append_iff {condition : State → Label → Prop} (run : Run step source before middle) :
    Meets step condition source (before ++ after) ↔
      Meets step condition source before ∧ Meets step condition middle after := by
  refine ⟨fun meets => ⟨meets.left, meets.right run⟩, fun both => ?_⟩
  induction run with
  | nil => exact both.2
  | cons taken _ ih =>
      obtain ⟨first, rest⟩ := (Meets.cons_iff taken).mp both.1
      exact (Meets.cons_iff taken).mpr ⟨first, ih ⟨rest, both.2⟩⟩

/-- Every step of a run meets what is shown of each of them with the run up to it. -/
theorem Meets.of_split {condition : State → Label → Prop} (run : Run step source labels target)
    (each : ∀ before label after middle next, labels = before ++ label :: after →
      Run step source before middle → step middle label = some next → condition middle label) :
    Meets step condition source labels := by
  induction run with
  | nil => trivial
  | @cons source middle target label labels taken _ ih =>
      refine ⟨each [] label labels source middle rfl (.nil source) taken, fun other reached => ?_⟩
      cases Option.some.inj (taken.symm.trans reached)
      refine ih fun before next after state last split run moved => ?_
      exact each (label :: before) next after state last (congrArg (label :: ·) split)
        (.cons taken run) moved

theorem Always.initially {predicate : State → Prop}
    (always : Always step predicate source labels) : predicate source := by
  cases labels with
  | nil => exact always
  | cons label labels => exact always.1

theorem Always.finally {predicate : State → Prop} (run : Run step source labels target)
    (always : Always step predicate source labels) : predicate target := by
  induction run with
  | nil => exact always
  | cons taken _ ih => exact ih (always.2 _ taken)

/-- A predicate that holds initially and that every step meeting the condition keeps
holds in every visited state. -/
theorem Meets.always {predicate : State → Prop} {condition : State → Label → Prop}
    (meets : Meets step condition source labels)
    (preserved : ∀ state label next, predicate state → condition state label →
      step state label = some next → predicate next)
    (initially : predicate source) : Always step predicate source labels := by
  induction labels generalizing source with
  | nil => exact initially
  | cons label labels ih =>
      refine ⟨initially, fun middle taken => ?_⟩
      exact ih (meets.2 middle taken) (preserved _ _ _ initially meets.1 taken)

/-- A condition under which every step keeps an invariant may be strengthened by what
the invariant adds to it. -/
theorem Meets.strengthen {invariant : State → Prop} {first second : State → Label → Prop}
    (meets : Meets step first source labels)
    (preserved : ∀ state label next, invariant state → first state label →
      step state label = some next → invariant next)
    (stronger : ∀ state label, invariant state → first state label → second state label)
    (initially : invariant source) : Meets step second source labels := by
  induction labels generalizing source with
  | nil => trivial
  | cons label labels ih =>
      refine ⟨stronger _ _ initially meets.1, fun middle taken => ?_⟩
      exact ih (meets.2 middle taken) (preserved _ _ _ initially meets.1 taken)

theorem Always.mono {first second : State → Prop} (weaker : ∀ state, first state → second state)
    (always : Always step first source labels) : Always step second source labels := by
  induction labels generalizing source with
  | nil => exact weaker _ always
  | cons label labels ih =>
      exact ⟨weaker _ always.1, fun middle taken => ih (always.2 middle taken)⟩

/-- The visited states satisfy a predicate exactly when the taken steps meet a
condition, provided the condition is what a step needs to keep the predicate.
The invariant carries the facts that need no condition. -/
theorem always_iff_meets {invariant predicate : State → Prop} {condition : State → Label → Prop}
    (kept : ∀ state label next, invariant state → step state label = some next → invariant next)
    (sufficient : ∀ state label next, invariant state → predicate state → condition state label →
      step state label = some next → predicate next)
    (necessary : ∀ state label next, invariant state → predicate state → ¬ condition state label →
      step state label = some next → ¬ predicate next)
    (run : Run step source labels target) (valid : invariant source) (holds : predicate source) :
    Always step predicate source labels ↔ Meets step condition source labels := by
  induction run with
  | nil => exact ⟨fun _ => trivial, fun _ => holds⟩
  | @cons source middle target label labels taken _ ih =>
      have validNext := kept _ _ _ valid taken
      rw [Meets.cons_iff taken]
      constructor
      · intro always
        have met : condition source label := by
          by_contra unmet
          exact necessary _ _ _ valid holds unmet taken (always.2 _ taken).initially
        exact ⟨met, (ih validNext (sufficient _ _ _ valid holds met taken)).mp (always.2 _ taken)⟩
      · rintro ⟨met, meets⟩
        refine ⟨holds, fun other reached => ?_⟩
        cases Option.some.inj (taken.symm.trans reached)
        exact (ih validNext (sufficient _ _ _ valid holds met taken)).mpr meets

/-- What the steps taken while following the labels add up to. -/
def tally (step : State → Label → Option State) (weight : State → Label → Nat) :
    State → List Label → Nat
  | _, [] => 0
  | source, label :: labels =>
      weight source label +
        match step source label with
        | some middle => tally step weight middle labels
        | none => 0

theorem tally_cons {weight : State → Label → Nat} (taken : step source label = some middle) :
    tally step weight source (label :: labels) =
      weight source label + tally step weight middle labels := by
  rw [tally, taken]

theorem tally_mono {first second : State → Label → Nat}
    (weaker : ∀ state label, first state label ≤ second state label) (source : State)
    (labels : List Label) : tally step first source labels ≤ tally step second source labels := by
  induction labels generalizing source with
  | nil => exact Nat.le_refl 0
  | cons label labels ih =>
      unfold tally
      cases step source label with
      | none => exact weaker source label
      | some middle => exact Nat.add_le_add (weaker source label) (ih middle)

theorem tally_add {first second : State → Label → Nat} (source : State) (labels : List Label) :
    tally step (fun state label => first state label + second state label) source labels =
      tally step first source labels + tally step second source labels := by
  induction labels generalizing source with
  | nil => rfl
  | cons label labels ih =>
      unfold tally
      cases step source label with
      | none => rfl
      | some middle =>
          dsimp only
          rw [ih middle]
          omega

/-- Nothing adds up exactly when no step adds anything. -/
theorem tally_eq_zero_iff {weight : State → Label → Nat} :
    tally step weight source labels = 0 ↔
      Meets step (fun state label => weight state label = 0) source labels := by
  induction labels generalizing source with
  | nil => exact iff_of_true rfl trivial
  | cons label labels ih =>
      unfold tally Meets
      rw [Nat.add_eq_zero_iff]
      refine and_congr_right fun _ => ?_
      cases step source label with
      | none => exact iff_of_true rfl nofun
      | some middle =>
          refine ih.trans ⟨fun rest other reached => ?_, fun rest => rest middle rfl⟩
          cases reached
          exact rest

/-- A measure that every step changes by what it gains and loses is, over a run, the
balance of the gains and the losses. -/
theorem Run.balance {invariant : State → Prop} {measure : State → Nat}
    {gain loss : State → Label → Nat} (run : Run step source labels target)
    (kept : ∀ state label next, invariant state → step state label = some next → invariant next)
    (each : ∀ state label next, invariant state → step state label = some next →
      measure next + loss state label = measure state + gain state label)
    (valid : invariant source) :
    measure target + tally step loss source labels =
      measure source + tally step gain source labels := by
  induction run with
  | nil => rfl
  | cons taken _ ih =>
      have moved := each _ _ _ valid taken
      have rest := ih (kept _ _ _ valid taken)
      rw [tally_cons taken, tally_cons taken]
      omega

/-- A measure that every step raises by what it gains adds up the gains of a run. -/
theorem Run.total {invariant : State → Prop} {measure : State → Nat}
    {gain : State → Label → Nat} (run : Run step source labels target)
    (kept : ∀ state label next, invariant state → step state label = some next → invariant next)
    (each : ∀ state label next, invariant state → step state label = some next →
      measure next = measure state + gain state label)
    (valid : invariant source) :
    measure target = measure source + tally step gain source labels := by
  induction run with
  | nil => rfl
  | cons taken _ ih =>
      rw [tally_cons taken, ih (kept _ _ _ valid taken), each _ _ _ valid taken, Nat.add_assoc]

/-- A map of states under which every step becomes a run carries runs to runs. -/
theorem Run.simulate {State' Label' : Type*} {step' : State' → Label' → Option State'}
    (project : State → State')
    (simulates : ∀ state label next, step state label = some next →
      ∃ labels', Run step' (project state) labels' (project next))
    (run : Run step source labels target) :
    ∃ labels', Run step' (project source) labels' (project target) := by
  induction run with
  | nil => exact ⟨[], .nil _⟩
  | cons taken _ ih =>
      obtain ⟨first, moved⟩ := simulates _ _ _ taken
      obtain ⟨rest, continued⟩ := ih
      exact ⟨first ++ rest, moved.append continued⟩

variable {Event : Type*}

/-- What the steps taken while following the labels emit. -/
def emitted (step : State → Label → Option State) (emits : State → Label → List Event) :
    State → List Label → List Event
  | _, [] => []
  | source, label :: labels =>
      match step source label with
      | some middle => emits source label ++ emitted step emits middle labels
      | none => []

theorem emitted_cons {emits : State → Label → List Event}
    (taken : step source label = some middle) :
    emitted step emits source (label :: labels) =
      emits source label ++ emitted step emits middle labels := by
  rw [emitted, taken]

/-- What a run emits is a run of an abstract system when every step that meets the
condition is matched by the abstract run of what the step emits. -/
theorem Run.refines {Abstract : Type*} {step' : Abstract → Event → Option Abstract}
    {emits : State → Label → List Event} {condition : State → Label → Prop}
    {related : State → Abstract → Prop} {source' : Abstract}
    (run : Run step source labels target) (meets : Meets step condition source labels)
    (matched : ∀ state label next state', related state state' → condition state label →
      step state label = some next →
        ∃ next', Run step' state' (emits state label) next' ∧ related next next')
    (initially : related source source') :
    ∃ target', Run step' source' (emitted step emits source labels) target' ∧
      related target target' := by
  induction run generalizing source' with
  | nil => exact ⟨source', .nil source', initially⟩
  | cons taken _ ih =>
      obtain ⟨middle', moved, reached⟩ := matched _ _ _ _ initially meets.1 taken
      obtain ⟨target', continued, finally'⟩ := ih (meets.2 _ taken) reached
      rw [emitted_cons taken]
      exact ⟨target', moved.append continued, finally'⟩

end Transition
