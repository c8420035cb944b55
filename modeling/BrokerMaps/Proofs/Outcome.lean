import Mathlib.Data.List.Forall2
import Mathlib.Data.List.Perm.Basic

/-!
# Outcomes

Steps that may fail, taken one after the other. What a chain of steps gives is read off its steps:
it succeeds when every step does, and otherwise it gives the first failure. `Gives` says what is
known of the result of a step that succeeds, `Fails` that there is none, and `FailsOnly` what is
known of the fault where there is one.

An operation is related to a list of its steps by `LeadsTo`: the first fault in the list, if there
is any, is the fault of the operation. A list for the parts of an operation, put together in the
order of the parts, is one for the whole.
-/
namespace BrokerMaps.Outcome

variable {ε α β : Type}

@[simp] theorem ok_bind (a : α) (next : α → Except ε β) : (Except.ok a >>= next) = next a := rfl

@[simp] theorem error_bind (fault : ε) (next : α → Except ε β) :
    (Except.error fault >>= next) = .error fault := rfl

attribute [simp] Except.map.eq_1 Except.map.eq_2

theorem bind_eq_ok_iff {step : Except ε α} {next : α → Except ε β} {b : β} :
    (step >>= next) = .ok b ↔ ∃ a, step = .ok a ∧ next a = .ok b := by
  cases step <;> simp

theorem bind_eq_error_iff {step : Except ε α} {next : α → Except ε β} {fault : ε} :
    (step >>= next) = .error fault ↔
      step = .error fault ∨ ∃ a, step = .ok a ∧ next a = .error fault := by
  cases step <;> simp

theorem exists_of_isOk {step : Except ε α} (succeeds : step.isOk = true) :
    ∃ a, step = .ok a := by
  cases step with
  | error fault => cases succeeds
  | ok a => exact ⟨a, rfl⟩

/-- Steps that agree on every item make the same traversal, faults included. -/
theorem mapM_congr {step other : α → Except ε β} {xs : List α}
    (same : ∀ x ∈ xs, step x = other x) : xs.mapM step = xs.mapM other := by
  induction xs with
  | nil => rfl
  | cons x rest ih =>
    obtain ⟨here, later⟩ := List.forall_mem_cons.mp same
    rw [List.mapM_cons, List.mapM_cons, here, ih later]

/-- A traversal succeeds when every step does, and then it gives the results in order. -/
theorem mapM_eq_ok_iff {step : α → Except ε β} {xs : List α} {ys : List β} :
    xs.mapM step = .ok ys ↔ List.Forall₂ (fun x y => step x = .ok y) xs ys := by
  induction xs generalizing ys with
  | nil => cases ys <;> simp [pure, Except.pure]
  | cons x rest ih =>
    rw [List.mapM_cons, bind_eq_ok_iff]
    constructor
    · rintro ⟨y, first, others⟩
      obtain ⟨more, done, same⟩ := bind_eq_ok_iff.mp others
      cases same
      exact .cons first (ih.mp done)
    · intro pointwise
      cases pointwise with
      | cons first others => exact ⟨_, first, bind_eq_ok_iff.mpr ⟨_, ih.mpr others, rfl⟩⟩

/-- A traversal fails with the fault of the first step that fails. -/
theorem mapM_eq_error_iff {step : α → Except ε β} {xs : List α} {fault : ε} :
    xs.mapM step = .error fault ↔
      ∃ before x after, xs = before ++ x :: after
        ∧ (∀ y ∈ before, ∃ b, step y = .ok b) ∧ step x = .error fault := by
  induction xs with
  | nil => simp [pure, Except.pure]
  | cons x rest ih =>
    rw [List.mapM_cons]
    constructor
    · intro fails
      rcases bind_eq_error_iff.mp fails with here | ⟨y, first, later⟩
      · exact ⟨[], x, rest, rfl, List.forall_mem_nil _, here⟩
      · have others : rest.mapM step = .error fault := by
          rcases bind_eq_error_iff.mp later with found | ⟨ys, -, gives⟩
          · exact found
          · cases gives
        obtain ⟨before, found, after, rfl, passed, failed⟩ := ih.mp others
        exact ⟨x :: before, found, after, rfl, List.forall_mem_cons.mpr ⟨⟨y, first⟩, passed⟩,
          failed⟩
    · rintro ⟨before, found, after, split, passed, failed⟩
      -- The step that fails is the first one, or one of the others.
      cases before with
      | nil =>
        cases split
        rw [failed, error_bind]
      | cons first others =>
        cases split
        obtain ⟨⟨y, succeeds⟩, later⟩ := List.forall_mem_cons.mp passed
        rw [succeeds, ok_bind, ih.mpr ⟨others, found, after, rfl, later, failed⟩, error_bind]

theorem exists_of_mem_mapM {step : α → Except ε β} {xs : List α} {ys : List β} {y : β}
    (traversed : xs.mapM step = .ok ys) (member : y ∈ ys) : ∃ x ∈ xs, step x = .ok y := by
  have related := mapM_eq_ok_iff.mp traversed
  clear traversed
  induction related with
  | nil => cases member
  | cons here _ ih =>
    cases member with
    | head => exact ⟨_, List.mem_cons_self, here⟩
    | tail _ later =>
      obtain ⟨x, inRest, gives⟩ := ih later
      exact ⟨x, List.mem_cons_of_mem _ inRest, gives⟩

/-- A check of every item succeeds when it succeeds on each. -/
theorem forM_eq_ok_iff {check : α → Except ε Unit} {xs : List α} :
    xs.forM check = .ok () ↔ ∀ x ∈ xs, check x = .ok () := by
  induction xs with
  | nil => simp [List.forM, pure, Except.pure]
  | cons x rest ih =>
    rw [List.forM, bind_eq_ok_iff, List.forall_mem_cons, ← ih]
    exact ⟨fun ⟨_, here, later⟩ => ⟨here, later⟩, fun ⟨here, later⟩ => ⟨(), here, later⟩⟩

/-! ## What steps give -/

/-- A predicate holds of whatever a step gives. -/
def Gives (step : Except ε α) (P : α → Prop) : Prop := ∀ a, step = .ok a → P a

theorem gives_ok {P : α → Prop} {a : α} (holds : P a) : Gives (.ok a : Except ε α) P := by
  rintro _ ⟨⟩
  exact holds

theorem gives_error {P : α → Prop} {fault : ε} : Gives (.error fault : Except ε α) P := nofun

theorem gives_bind {step : Except ε α} {next : α → Except ε β} {P : β → Prop}
    (later : ∀ a, step = .ok a → Gives (next a) P) : Gives (step >>= next) P := by
  intro b succeeds
  obtain ⟨a, here, rest⟩ := bind_eq_ok_iff.mp succeeds
  exact later a here b rest

theorem Gives.map {step : Except ε α} {P : α → Prop} {Q : β → Prop} {change : α → β}
    (here : Gives step P) (keeps : ∀ a, P a → Q (change a)) : Gives (step.map change) Q := by
  cases step with
  | error fault => exact gives_error
  | ok a => exact gives_ok (keeps a (here a rfl))

theorem gives_mapM {step : α → Except ε β} {xs : List α} {P : β → Prop}
    (each : ∀ x ∈ xs, Gives (step x) P) : Gives (xs.mapM step) fun ys => ∀ y ∈ ys, P y := by
  intro ys traversed y member
  obtain ⟨x, inXs, isHere⟩ := exists_of_mem_mapM traversed member
  exact each x inXs y isHere

/-- What holds of everything that single items give holds of what they give together. -/
theorem gives_flatten {list : α → Except ε (List β)} {xs : List α} {P : β → Prop}
    (each : ∀ x ∈ xs, Gives (list x) fun found => ∀ b ∈ found, P b) :
    Gives (do
      let lists ← xs.mapM list
      return lists.flatten) fun all => ∀ b ∈ all, P b := by
  refine (gives_mapM each).map fun lists holds b member => ?_
  obtain ⟨here, among, inHere⟩ := List.mem_flatten.mp member
  exact holds here among b inHere

/-- What a step gives unless it is skipped. -/
theorem gives_unless {step : Except ε β} {skipped : Prop} [Decidable skipped] {P : β → Prop}
    (taken : Gives step P) :
    Gives (if skipped then return [] else do
      let b ← step
      return [b]) fun all => ∀ b ∈ all, P b := by
  split
  · exact gives_ok (List.forall_mem_nil P)
  · exact taken.map fun b holds => List.forall_mem_singleton.mpr holds

/-! ## Steps in a row -/

/-- The fault of an outcome, if it is one. -/
def fault? : Except ε α → Option ε
  | .ok _ => none
  | .error fault => some fault

/-- The first fault among steps in a row. -/
def firstFault? (steps : List (Except ε Unit)) : Option ε := steps.findSome? fault?

/-- A step, and the steps after it, which are only taken where it succeeds. -/
def andThen (step : Except ε α) (rest : α → List (Except ε Unit)) : List (Except ε Unit) :=
  match step with
  | .ok a => .ok () :: rest a
  | .error fault => [.error fault]

/-- Steps in a row lead to an outcome when their first fault is its fault. -/
def LeadsTo (steps : List (Except ε Unit)) (outcome : Except ε α) : Prop :=
  firstFault? steps = fault? outcome

theorem leadsTo_nil (a : α) : LeadsTo ([] : List (Except ε Unit)) (.ok a) := rfl

theorem leadsTo_singleton (step : Except ε Unit) : LeadsTo [step] step := by
  cases step <;> rfl

theorem leadsTo_andThen {step : Except ε α} {rest : α → List (Except ε Unit)}
    {next : α → Except ε β} (later : ∀ a, step = .ok a → LeadsTo (rest a) (next a)) :
    LeadsTo (andThen step rest) (step >>= next) := by
  cases step with
  | error fault => rfl
  | ok a => exact later a rfl

/-- As far as faults go, one step can stand for another. -/
theorem leadsTo_andThen_of_fault?_eq {γ : Type} {step : Except ε α} {other : Except ε γ}
    {rest : α → List (Except ε Unit)} {next : γ → Except ε β} (same : fault? step = fault? other)
    (later : ∀ a c, LeadsTo (rest a) (next c)) : LeadsTo (andThen step rest) (other >>= next) := by
  cases step with
  | error fault =>
    cases other with
    | error second => exact same
    | ok c => cases same
  | ok a =>
    cases other with
    | error second => cases same
    | ok c => exact later a c

theorem LeadsTo.append {first second : List (Except ε Unit)} {outcome : Except ε α}
    {next : α → Except ε β} (here : LeadsTo first outcome)
    (later : ∀ a, outcome = .ok a → LeadsTo second (next a)) :
    LeadsTo (first ++ second) (outcome >>= next) := by
  have split : firstFault? (first ++ second) = (firstFault? first).or (firstFault? second) :=
    List.findSome?_append
  rw [LeadsTo, split, here]
  cases outcome with
  | error fault => rfl
  | ok a => exact later a rfl

theorem LeadsTo.map {steps : List (Except ε Unit)} {outcome : Except ε α}
    (here : LeadsTo steps outcome) (change : α → β) : LeadsTo steps (outcome.map change) := by
  rw [LeadsTo, here]
  cases outcome <;> rfl

theorem leadsTo_mapM {xs : List α} {steps : α → List (Except ε Unit)} {step : α → Except ε β}
    (each : ∀ x ∈ xs, LeadsTo (steps x) (step x)) :
    LeadsTo (xs.flatMap steps) (xs.mapM step) := by
  induction xs with
  | nil => rfl
  | cons x rest ih =>
    obtain ⟨here, later⟩ := List.forall_mem_cons.mp each
    rw [List.flatMap_cons, List.mapM_cons]
    exact here.append fun _ _ => (ih later).map _

/-! ## Steps that fail -/

/-- A step fails, whatever its fault is. -/
def Fails (step : Except ε α) : Prop := ∃ fault, step = .error fault

@[simp] theorem not_fails_ok (a : α) : ¬ Fails (.ok a : Except ε α) := nofun

@[simp] theorem fails_error (fault : ε) : Fails (.error fault : Except ε α) := ⟨fault, rfl⟩

theorem not_fails_iff {step : Except ε α} : ¬ Fails step ↔ ∃ a, step = .ok a := by
  cases step <;> simp

@[simp] theorem fails_map_iff {step : Except ε α} {change : α → β} :
    Fails (step.map change) ↔ Fails step := by
  cases step <;> simp

theorem not_fails_bind_iff {step : Except ε α} {next : α → Except ε β} :
    ¬ Fails (step >>= next) ↔ ∃ a, step = .ok a ∧ ¬ Fails (next a) := by
  cases step <;> simp

/-- A traversal fails when one of its steps does. -/
theorem fails_mapM_iff {step : α → Except ε β} {xs : List α} :
    Fails (xs.mapM step) ↔ ∃ x ∈ xs, Fails (step x) := by
  induction xs with
  | nil => simp [pure, Except.pure]
  | cons x rest ih =>
    rw [List.mapM_cons, List.exists_mem_cons_iff, ← ih]
    cases step x with
    | error fault => simp
    | ok y => cases rest.mapM step <;> simp [pure, Except.pure]

theorem not_fails_of_mapM {step : α → Except ε β} {xs : List α} (traverses : ¬ Fails (xs.mapM step))
    {x : α} (member : x ∈ xs) : ¬ Fails (step x) :=
  fun fails => traverses (fails_mapM_iff.mpr ⟨x, member, fails⟩)

/-- Items in another order give the same results in another order. -/
theorem mapM_perm {step : α → Except ε β} {xs others : List α} {ys : List β}
    (order : xs.Perm others) (traversed : xs.mapM step = .ok ys) :
    ∃ more, others.mapM step = .ok more ∧ ys.Perm more := by
  obtain ⟨more, pointwise, same⟩ :=
    List.perm_comp_forall₂ order.symm (mapM_eq_ok_iff.mp traversed)
  exact ⟨more, mapM_eq_ok_iff.mpr pointwise, same.symm⟩

/-! ## Steps that change a state -/

section
variable {σ : Type} {state between : σ} {operation : ExceptT ε (StateM σ) α}
  {next : α → ExceptT ε (StateM σ) β}

theorem run_bind_of_ok {a : α} (succeeds : operation.run.run state = (.ok a, between)) :
    (operation >>= next).run.run state = (next a).run.run between := by
  simp only [ExceptT.run_bind, StateT.run_bind, succeeds]
  rfl

theorem run_bind_of_error {fault : ε} (fails : operation.run.run state = (.error fault, between)) :
    (operation >>= next).run.run state = (.error fault, between) := by
  simp only [ExceptT.run_bind, StateT.run_bind, fails]
  rfl

theorem exists_of_run_bind {b : β} {after : σ}
    (succeeds : (operation >>= next).run.run state = (.ok b, after)) :
    ∃ a between, operation.run.run state = (.ok a, between)
      ∧ (next a).run.run between = (.ok b, after) := by
  cases run : operation.run.run state with
  | mk result between =>
    cases result with
    | ok a => exact ⟨a, between, rfl, run_bind_of_ok run ▸ succeeds⟩
    | error fault =>
      rw [run_bind_of_error run] at succeeds
      cases succeeds

end

end BrokerMaps.Outcome
