import BrokerMaps.Proofs.Console.Accounting
import BrokerMaps.Proofs.Flatten.Containment

/-!
# Batches

A flattening filter transforms the elements of a list, and the elements that a query is answered
with, one after the other. What this does is told by single calls: each element is transformed as
if it were alone, on the console as the elements before it left it.

## Main results

* `Filter.batch_transformList`, `Filter.batch_query`: transforming a list, and querying a filter
  whose next one answers with a list, is a batch of single calls.
* `Filter.answer_transformList_append`: two lists put together are transformed one after the other.

## Proof strategy

A list is taken apart at its first element, which either fails, and then nothing else is done, or
leaves a console on which the rest is a batch again.
-/
namespace BrokerMaps

namespace Filter

/-- The methods that a filter calls on itself or is asked for in the course of a query. -/
def stepMethods : List String := ["query", "transform_list", "transform_element"]

/-- No extra field of a filter stands in the way of a step of a query. -/
def Unhindered (itself : Value) : Prop :=
  ∀ method ∈ stepMethods, itself.checkCallable method = .ok ()

/-- The calls that transform elements one by one. -/
def singly (config : FlattenConfig) (elements : List Value) : List Call :=
  elements.map (Call.mk config)

/-- What is kept of results: every map, the empty one too, and nothing else. -/
def kept (results : List (Option PropertyMap)) : List Value :=
  results.filterMap fun map? => map?.map (.table none)

end Filter

open BrokerMaps.Filter (singly kept transformAll)

/-- The answer to a list of elements is that of single calls. The first that fails, with whatever
fault it does, ends the batch with that fault and no list. On a console that serves the filter, the
effects are those that are due for the calls that were made. -/
structure Console.Batch (console : Console) (config : FlattenConfig) (elements : List Value)
    (run : Except Fault (List Value) × Console) : Prop where
  succeeds : ∀ (results : List (Option PropertyMap)) (after : Console),
    console.answerAll (singly config elements) = (results.map .ok, after) →
      run = (.ok (kept results), after)
  fails : ∀ before element later (results : List (Option PropertyMap)) between fault after,
    elements = before ++ element :: later →
      console.answerAll (singly config before) = (results.map .ok, between) →
        between.answer (Filter.FlattenConfig.transform config element) = (.error fault, after) →
          run = (.error fault, after)
  performs : console.Serves config → ∀ results : List (Option PropertyMap),
    (singly config elements).map Call.outcome = results.map .ok →
      ∃ after, run = (.ok (kept results), after)
        ∧ console.Does (dueEffects (singly config elements)) after
  performsUntil : console.Serves config →
    ∀ before element later (results : List (Option PropertyMap)) fault,
      elements = before ++ element :: later →
        (singly config before).map Call.outcome = results.map .ok →
          (Call.mk config element).outcome = .error fault →
            ∃ after, run = (.error fault, after)
              ∧ (config.flattener.Tells element → fault.kind = .transform)
              ∧ console.Does (dueEffects (singly config (before ++ [element]))) after

namespace Filter

variable {config : FlattenConfig} {next? : Option Filter} {console between after : Console}

theorem config_of_mem_singly {elements : List Value} {call : Call}
    (member : call ∈ singly config elements) : call.config = config := by
  obtain ⟨element, -, rfl⟩ := List.mem_map.mp member
  rfl

theorem kept_cons (map? : Option PropertyMap) (rest : List (Option PropertyMap)) :
    kept (map? :: rest) = (map?.map (.table none)).toList ++ kept rest := by
  cases map? <;> rfl

/-- Where all of some single calls succeed, the first one does and so do all others after it. -/
theorem exists_of_answerAll_cons {element : Value} {rest : List Value}
    {results : List (Option PropertyMap)}
    (single : console.answerAll (singly config (element :: rest)) = (results.map .ok, after)) :
    ∃ map? more between, results = map? :: more
      ∧ console.answer (FlattenConfig.transform config element) = (.ok map?, between)
      ∧ between.answerAll (singly config rest) = (more.map .ok, after) := by
  rw [singly, List.map_cons, Console.answerAll] at single
  cases first : console.answer (FlattenConfig.transform config element) with
  | mk result between =>
    simp only [first] at single
    obtain ⟨all, same⟩ := Prod.mk.inj single
    obtain ⟨map?, more, rfl, isOk, others⟩ := List.map_eq_cons_iff.mp all.symm
    exact ⟨map?, more, between, rfl, by rw [isOk], Prod.ext others.symm same⟩

theorem answer_transformList {filter : Filter} {list : Value} {elements : List Value}
    (iterates : list.iterate = .ok elements) :
    console.answer (transformList filter list) = console.answer (transformAll filter elements) := by
  have items : console.answer (MonadExcept.ofExcept list.iterate) = (.ok elements, console) := by
    rw [iterates]
    rfl
  rw [transformList, Console.answer_bind_of_ok items]

section Batches

variable (free : Unhindered config.flattener.itself)

include free

theorem answer_checkStep {method : String} (isStep : method ∈ stepMethods) :
    console.answer (checkStep (.flattening config next?) method) = (.ok (), console) := by
  rw [checkStep, free method isStep]
  rfl

/-- What the first element comes to is put in front of what the others come to. -/
theorem answer_transformAll_of_ok {element : Value} {map? : Option PropertyMap}
    (first : console.answer (FlattenConfig.transform config element) = (.ok map?, between))
    (rest : List Value) :
    console.answer (transformAll (.flattening config next?) (element :: rest)) =
      ((between.answer (transformAll (.flattening config next?) rest)).1.map
          ((map?.map (.table none)).toList ++ ·),
        (between.answer (transformAll (.flattening config next?) rest)).2) := by
  have transformed : console.answer (transformElement (.flattening config next?) element)
      = (.ok (map?.map (.table none)), between) := by
    rw [transformElement, Console.answer_bind_of_ok first]
    rfl
  rw [transformAll, Console.answer_bind_of_ok (answer_checkStep free (by decide)),
    Console.answer_bind_of_ok transformed]
  cases run : between.answer (transformAll (.flattening config next?) rest) with
  | mk result after =>
    cases result with
    | ok others => exact Console.answer_bind_of_ok run
    | error fault => exact Console.answer_bind_of_error run

theorem answer_transformAll_of_error {element : Value} {fault : Fault}
    (first : console.answer (FlattenConfig.transform config element) = (.error fault, between))
    (rest : List Value) :
    console.answer (transformAll (.flattening config next?) (element :: rest)) =
      (.error fault, between) := by
  have transformed : console.answer (transformElement (.flattening config next?) element)
      = (.error fault, between) := Console.answer_bind_of_error first
  rw [transformAll, Console.answer_bind_of_ok (answer_checkStep free (by decide)),
    Console.answer_bind_of_error transformed]

theorem answer_transformAll_of_all_ok {elements : List Value} {results : List (Option PropertyMap)}
    (single : console.answerAll (singly config elements) = (results.map .ok, after)) :
    console.answer (transformAll (.flattening config next?) elements)
      = (.ok (kept results), after) := by
  induction elements generalizing console results with
  | nil =>
    obtain ⟨none, rfl⟩ := Prod.mk.inj single
    obtain rfl := List.map_eq_nil_iff.mp none.symm
    rfl
  | cons element rest ih =>
    obtain ⟨map?, more, between, rfl, first, others⟩ := exists_of_answerAll_cons single
    rw [answer_transformAll_of_ok free first, ih others, kept_cons]
    rfl

theorem answer_transformAll_of_first_error {before later : List Value} {element : Value}
    {results : List (Option PropertyMap)} {fault : Fault}
    (single : console.answerAll (singly config before) = (results.map .ok, between))
    (fails : between.answer (FlattenConfig.transform config element) = (.error fault, after)) :
    console.answer (transformAll (.flattening config next?) (before ++ element :: later))
      = (.error fault, after) := by
  induction before generalizing console results with
  | nil =>
    obtain ⟨-, rfl⟩ := Prod.mk.inj single
    exact answer_transformAll_of_error free fails later
  | cons element rest ih =>
    obtain ⟨map?, more, between, rfl, first, others⟩ := exists_of_answerAll_cons single
    rw [List.cons_append, answer_transformAll_of_ok free first, ih others]
    rfl

/-- Transforming elements one after the other is a batch. -/
theorem batch_transformAll (console : Console) (elements : List Value) :
    console.Batch config elements
      (console.answer (transformAll (.flattening config next?) elements)) where
  succeeds results after single := answer_transformAll_of_all_ok free single
  fails before element later results between fault after split single first := by
    subst split
    exact answer_transformAll_of_first_error free single first
  performs serves results single := by
    have served : ∀ call ∈ singly config elements, console.Serves call.config :=
      fun call member => config_of_mem_singly member ▸ serves
    obtain ⟨after, answered, done⟩ := Console.answerAll_of_serves served
    rw [single] at answered
    exact ⟨after, answer_transformAll_of_all_ok free answered, done⟩
  performsUntil serves before element later results fault split single first := by
    subst split
    have served : ∀ call ∈ singly config before, console.Serves call.config :=
      fun call member => config_of_mem_singly member ▸ serves
    -- The elements before the one that fails are a run of calls of their own.
    obtain ⟨between, answered, done⟩ := Console.answerAll_of_serves served
    rw [single] at answered
    -- The element that fails is still counted, on the console that the others left behind.
    obtain ⟨after, last, failed⟩ := (serves.of_does done).answer_transform element
    have outcome : (config.flattener.report element).outcome = .error fault := first
    have due : between.Does (dueEffects (singly config [element])) after := by
      rw [singly, List.map_singleton, dueEffects, List.flatMap_singleton]
      exact (Call.mk config element).report_effects_eq ▸ last
    rw [outcome] at failed
    refine ⟨after, answer_transformAll_of_first_error free answered failed,
      fun tells => kind_of_outcome_report tells outcome, ?_⟩
    rw [singly, List.map_append, dueEffects, List.flatMap_append]
    exact done.append due

/-- Transforming a list is a batch on what iterating over it yields. -/
theorem batch_transformList (console : Console) {list : Value} {elements : List Value}
    (iterates : list.iterate = .ok elements) :
    console.Batch config elements
      (console.answer (transformList (.flattening config next?) list)) := by
  rw [answer_transformList iterates]
  exact batch_transformAll free console elements

/-- A query is a batch on the elements that the next filter answers with, and begins where that
filter ends. -/
theorem batch_query {next : Filter} {elements : List Value}
    (lower : console.answer (query next) = (.ok elements, between)) :
    between.Batch config elements (console.answer (query (.flattening config (some next)))) := by
  rw [query, Console.answer_bind_of_ok lower, transformAnswer,
    Console.answer_bind_of_ok (answer_checkStep free (by decide))]
  exact batch_transformAll free between elements

end Batches

/-- Where the next filter fails, nothing is transformed. -/
theorem answer_query_of_error {next : Filter} {fault : Fault}
    (lower : console.answer (query next) = (.error fault, between)) :
    console.answer (query (.flattening config (some next))) = (.error fault, between) := by
  rw [query, Console.answer_bind_of_error lower]

/-! ## Elements that are kept as they are -/

/-- Null is nothing, every other element is kept. -/
def present (elements : List Value) : List Value := elements.filter fun element => !element.isNull

theorem answer_checkStep_identity {itself : Value} (free : Unhindered itself) {method : String}
    (isStep : method ∈ stepMethods) :
    console.answer (checkStep (.identity itself next?) method) = (.ok (), console) := by
  rw [checkStep, free method isStep]
  rfl

theorem answer_transformAll_identity {itself : Value} (free : Unhindered itself)
    (elements : List Value) :
    console.answer (transformAll (.identity itself next?) elements)
      = (.ok (present elements), console) := by
  induction elements with
  | nil => rfl
  | cons element rest ih =>
    have first : console.answer (transformElement (.identity itself next?) element)
        = (.ok (if element.isNull then none else some element), console) := rfl
    rw [transformAll, Console.answer_bind_of_ok (answer_checkStep_identity free (by decide)),
      Console.answer_bind_of_ok first, Console.answer_bind_of_ok ih]
    unfold present
    rw [List.filter_cons]
    cases element.isNull <;> rfl

theorem answer_query_identity {itself : Value} (free : Unhindered itself) (next : Filter) :
    console.answer (query (.identity itself (some next))) =
      ((console.answer (query next)).1.map present, (console.answer (query next)).2) := by
  cases lower : console.answer (query next) with
  | mk result between =>
    cases result with
    | ok elements =>
      rw [query, Console.answer_bind_of_ok lower, transformAnswer,
        Console.answer_bind_of_ok (answer_checkStep_identity free (by decide))]
      exact answer_transformAll_identity free elements
    | error fault => exact Console.answer_bind_of_error lower

/-! ## Lists put together -/

/-- Transforming two lists put together is transforming the one and then the other. -/
theorem transformAll_append (filter : Filter) (first second : List Value) :
    transformAll filter (first ++ second) =
      (do
        let front ← transformAll filter first
        let back ← transformAll filter second
        pure (front ++ back)) := by
  induction first with
  | nil => simp [transformAll]
  | cons element rest ih =>
    simp only [List.cons_append, transformAll, ih, bind_assoc, pure_bind, List.append_assoc]

/-- Where both lists are transformed, the list put together gives the two results put together. -/
theorem answer_transformList_append {filter : Filter} {first second both : Value}
    {those others front back : List Value} (firstIterates : first.iterate = .ok those)
    (secondIterates : second.iterate = .ok others)
    (bothIterate : both.iterate = .ok (those ++ others))
    (here : console.answer (transformList filter first) = (.ok front, between))
    (later : between.answer (transformList filter second) = (.ok back, after)) :
    console.answer (transformList filter both) = (.ok (front ++ back), after) := by
  rw [answer_transformList firstIterates] at here
  rw [answer_transformList secondIterates] at later
  rw [answer_transformList bothIterate, transformAll_append, Console.answer_bind_of_ok here,
    Console.answer_bind_of_ok later]
  rfl

end Filter
end BrokerMaps
