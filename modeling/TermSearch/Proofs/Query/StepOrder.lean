import Mathlib.Data.List.Basic
import TermSearch.Proofs.Query.AbsenceIsZero

namespace TermSearch

namespace Operator

def row (operator : Operator) (terms : List String) : List Step :=
  terms.map fun term => ⟨operator, term, false⟩

variable (operator : Operator) (scoring : Scoring) (a x y : ResultSet)

theorem apply_right_comm :
    operator.apply scoring.combine (operator.apply scoring.combine a x) y =
      operator.apply scoring.combine (operator.apply scoring.combine a y) x := by
  cases operator with
  | and => exact ResultSet.intersect_right_comm scoring a x y
  | or => exact ResultSet.union_right_comm scoring a x y

theorem apply_max_absorb :
    operator.apply Scoring.max.combine (operator.apply Scoring.max.combine a x) x =
      operator.apply Scoring.max.combine a x := by
  cases operator with
  | and => simp only [apply, ResultSet.intersect_assoc, ResultSet.intersect_max_self]
  | or => simp only [apply, ResultSet.union_assoc, ResultSet.union_max_self]

theorem alike_apply_comm :
    (operator.apply scoring.combine a x).Alike (operator.apply scoring.combine x a) := by
  have symmetric := scoring.lawful_combine.symmetric
  cases operator with
  | and => exact ResultSet.alike_intersect_comm symmetric a x
  | or =>
    intro d
    exact congrArg (ResultSet.relevance · d) (ResultSet.union_comm symmetric a x)

end Operator

namespace Plan

variable {scoring : Scoring} {counts : String → ResultSet} {operator : Operator}

theorem joinSteps_perm {run run' : List Step} (uniform : ∀ step ∈ run, step.operator = operator)
    (perm : run.Perm run') (start : ResultSet) :
    joinSteps scoring.combine counts run start = joinSteps scoring.combine counts run' start := by
  refine perm.foldl_eq' ?_ start
  intro step member other member' result
  rw [uniform step member, uniform other member']
  exact operator.apply_right_comm scoring result (counts step.term) (counts other.term)

theorem joinSteps_repeated {earlier : List Step} {step : Step} (later : List Step)
    (uniform : ∀ other ∈ earlier, other.operator = operator) (same : step.operator = operator)
    (again : step.term ∈ earlier.map (·.term)) (start : ResultSet) :
    joinSteps Scoring.max.combine counts (earlier ++ step :: later) start =
      joinSteps Scoring.max.combine counts (earlier ++ later) start := by
  obtain ⟨first, member, term⟩ := List.mem_map.mp again
  have joins := uniform first member
  obtain ⟨front, back, rfl⟩ := List.append_of_mem member
  -- The steps before can be ordered so that the last of them is the one that is repeated.
  have last : (front ++ first :: back).Perm (front ++ back ++ [first]) := by
    rw [List.append_assoc]
    exact (List.perm_append_singleton first back).symm.append_left front
  have ends : joinSteps Scoring.max.combine counts (front ++ first :: back) start =
      operator.apply Scoring.max.combine
        (joinSteps Scoring.max.combine counts (front ++ back) start) (counts step.term) := by
    rw [joinSteps_perm uniform last, joinSteps_append, ← joins, ← term]
    rfl
  have absorbed : step.operator.apply Scoring.max.combine
      (joinSteps Scoring.max.combine counts (front ++ first :: back) start) (counts step.term) =
        joinSteps Scoring.max.combine counts (front ++ first :: back) start := by
    rw [ends, same]
    exact operator.apply_max_absorb _ _
  rw [joinSteps_append _ _ _ (step :: later), joinSteps_append _ _ _ later]
  exact congrArg (joinSteps Scoring.max.combine counts later) absorbed

theorem joinSteps_row {run : List Step} (uniform : ∀ step ∈ run, step.operator = operator)
    (combine : Combiner) (start : ResultSet) :
    joinSteps combine counts (operator.row (run.map (·.term))) start =
      joinSteps combine counts run start := by
  unfold joinSteps Operator.row
  rw [List.map_map, List.foldl_map]
  refine List.foldl_ext _ _ start ?_
  intro result step member
  rw [uniform step member]
  rfl

theorem joinSteps_row_perm {terms terms' : List String} (perm : terms.Perm terms')
    (start : ResultSet) :
    joinSteps scoring.combine counts (operator.row terms) start =
      joinSteps scoring.combine counts (operator.row terms') start := by
  have uniform : ∀ step ∈ operator.row terms, step.operator = operator := by simp [Operator.row]
  exact joinSteps_perm uniform (perm.map _) start

/-- The seed can be any of the terms. An intersection lists the documents of the seed, so the two
results may differ in their zero scores. -/
theorem joinSteps_row_seed (scoring : Scoring) (counts : String → ResultSet) (operator : Operator)
    {seed seed' : String} {terms terms' : List String}
    (perm : (seed' :: terms').Perm (seed :: terms)) :
    (joinSteps scoring.combine counts (operator.row terms') (counts seed')).Alike
        (joinSteps scoring.combine counts (operator.row terms) (counts seed)) ∧
      (operator = .or →
        joinSteps scoring.combine counts (operator.row terms') (counts seed') =
          joinSteps scoring.combine counts (operator.row terms) (counts seed)) := by
  by_cases same : seed' = seed
  · subst same
    have equal : joinSteps scoring.combine counts (operator.row terms') (counts seed') =
        joinSteps scoring.combine counts (operator.row terms) (counts seed') :=
      joinSteps_row_perm perm.cons_inv (counts seed')
    exact ⟨fun d => congrArg (ResultSet.relevance · d) equal, fun _ => equal⟩
  -- Both seeds come first, in one order or the other, and the other terms follow.
  have listed : seed' ∈ seed :: terms := perm.mem_iff.mp List.mem_cons_self
  have taken := List.perm_cons_erase ((List.mem_cons.mp listed).resolve_left same)
  have left : terms'.Perm (seed :: terms.erase seed') := by
    have exchanged : (seed' :: terms').Perm (seed' :: seed :: terms.erase seed') :=
      (perm.trans (taken.cons seed)).trans (.swap seed' seed _)
    exact exchanged.cons_inv
  rw [joinSteps_row_perm left, joinSteps_row_perm taken]
  constructor
  · exact alike_joinSteps scoring.combine_zero (fun _ _ => rfl)
      (operator.alike_apply_comm scoring (counts seed') (counts seed))
      (operator.row (terms.erase seed'))
  · rintro rfl
    have swapped := ResultSet.union_comm scoring.lawful_combine.symmetric (counts seed') (counts seed)
    exact congrArg (joinSteps scoring.combine counts (Operator.or.row (terms.erase seed'))) swapped

theorem evaluate_of_joined {combine : Combiner} {plan other : Plan}
    (joined : other.joined combine counts = plan.joined combine counts)
    (excluded : other.exclusions = plan.exclusions) :
    other.evaluate combine counts = plan.evaluate combine counts := by
  rw [evaluate, evaluate, joined, excluded]

section

variable (scoring counts) {plan : Plan} {before run after : List Step}

theorem evaluate_row_perm (split : plan.steps = before ++ run ++ after)
    (uniform : ∀ step ∈ run, step.operator = operator) {run' : List Step} (perm : run'.Perm run) :
    { plan with steps := before ++ run' ++ after }.evaluate scoring.combine counts =
      plan.evaluate scoring.combine counts := by
  refine evaluate_of_joined ?_ rfl
  simp only [joined_eq_joinSteps, split, joinSteps_append, joinSteps_perm uniform perm.symm]

theorem evaluate_row_repeated {earlier later : List Step} {step : Step}
    (split : plan.steps = before ++ (earlier ++ step :: later) ++ after)
    (uniform : ∀ other ∈ earlier ++ step :: later, other.operator = operator)
    (again : step.term ∈ earlier.map (·.term)) :
    { plan with steps := before ++ (earlier ++ later) ++ after }.evaluate Scoring.max.combine counts =
      plan.evaluate Scoring.max.combine counts := by
  have joins := uniform step (by simp)
  have first : ∀ other ∈ earlier, other.operator = operator := fun other member =>
    uniform other (List.mem_append_left _ member)
  refine evaluate_of_joined ?_ rfl
  simp only [joined_eq_joinSteps, split, joinSteps_append _ _ before, joinSteps_append _ _ _ after,
    joinSteps_repeated later first joins again]

theorem evaluate_row_seed (split : plan.steps = run ++ after)
    (uniform : ∀ step ∈ run, step.operator = operator) {seed' : String} {run' : List Step}
    (uniform' : ∀ step ∈ run', step.operator = operator)
    (perm : (seed' :: run'.map (·.term)).Perm (plan.seed :: run.map (·.term))) :
    let other := { plan with seed := seed', steps := run' ++ after }
    (other.evaluate scoring.combine counts).Alike (plan.evaluate scoring.combine counts) ∧
      (operator = .or →
        other.evaluate scoring.combine counts = plan.evaluate scoring.combine counts) := by
  intro other
  have exchanged := joinSteps_row_seed scoring counts operator perm
  rw [joinSteps_row uniform, joinSteps_row uniform'] at exchanged
  obtain ⟨alike, equal⟩ := exchanged
  constructor
  · have joined : (other.joined scoring.combine counts).Alike
        (plan.joined scoring.combine counts) := by
      simp only [other, joined_eq_joinSteps, split, joinSteps_append]
      exact alike_joinSteps scoring.combine_zero (fun _ _ => rfl) alike after
    exact alike_foldl_difference (fun _ _ => rfl) joined plan.exclusions
  · intro joins
    refine evaluate_of_joined ?_ rfl
    simp only [other, joined_eq_joinSteps, split, joinSteps_append, equal joins]

end

end Plan

namespace Query

/-- For a row of steps of one operator: any order of the steps gives the same result; under the
stronger score a step can be left out whose term comes earlier in the row; and the seed of a row that
comes first can be exchanged, with the same result for `OR` and the same matching entries for `AND`. -/
theorem execute_row_reordered {σ : Type} {source : Source σ} {counts : String → ResultSet}
    {progress : Progress σ} (serves : source.Serves counts progress.source) (scoring : Scoring)
    {plan : Plan} {before run after : List Step} {operator : Operator}
    (split : plan.steps = before ++ run ++ after)
    (uniform : ∀ step ∈ run, step.operator = operator) :
    ∃ result final, execute source scoring.combine plan progress = (.ok result, final) ∧
      (∀ run', run'.Perm run →
        ∃ final', execute source scoring.combine { plan with steps := before ++ run' ++ after }
          progress = (.ok result, final')) ∧
      (scoring = .max → ∀ earlier step later, run = earlier ++ step :: later →
        step.term ∈ earlier.map (·.term) →
        ∃ final', execute source scoring.combine
          { plan with steps := before ++ (earlier ++ later) ++ after } progress =
            (.ok result, final')) ∧
      (before = [] → ∀ seed' run', (∀ step ∈ run', step.operator = operator) →
        (seed' :: run'.map (·.term)).Perm (plan.seed :: run.map (·.term)) →
        ∃ result' final',
          execute source scoring.combine { plan with seed := seed', steps := run' ++ after }
              progress = (.ok result', final') ∧
            (operator = .or → result' = result) ∧ result'.matching = result.matching) := by
  refine ⟨_, _, execute_of_serves serves scoring.combine plan, ?_, ?_, ?_⟩
  · intro run' perm
    have equal := Plan.evaluate_row_perm scoring counts split uniform perm
    exact ⟨_, equal ▸ execute_of_serves serves scoring.combine _⟩
  · rintro rfl earlier step later rfl again
    have equal := Plan.evaluate_row_repeated counts split uniform again
    exact ⟨_, equal ▸ execute_of_serves serves Scoring.max.combine _⟩
  · rintro rfl seed' run' uniform' perm
    obtain ⟨alike, equal⟩ := Plan.evaluate_row_seed scoring counts split uniform uniform' perm
    exact ⟨_, _, execute_of_serves serves scoring.combine _, equal, alike.matching⟩

/-- `docA` is listed with score zero under the seed `dog`, and not at all under the seed `bird`. -/
theorem execute_row_reordered_probe :
    let and (term : String) : Step := ⟨.and, term, true⟩
    let after : List Step := [⟨.or, "-dog", false⟩]
    let plan : Plan := ⟨"dog", [and "bird", and "dog", and "bird"] ++ after, ["AND"], none⟩
    let run (plan : Plan) :=
      execute (.ofIndex Probe.index) Scoring.max.combine plan { source := () }
    ∃ result final, run plan = (.ok result, final) ∧
      (∃ final', run { plan with steps := [and "dog", and "bird", and "bird"] ++ after } =
        (.ok result, final')) ∧
      (∃ final', run { plan with steps := [and "bird", and "dog"] ++ after } =
        (.ok result, final')) ∧
      ∃ result' final', run { plan with
          seed := "bird", steps := [and "dog", and "bird", and "dog"] ++ after } =
            (.ok result', final') ∧
        result'.matching = result.matching := by
  intro and after plan run
  have serves := Source.serves_ofCounts Probe.index.counts ()
  have uniform : ∀ step ∈ [and "bird", and "dog", and "bird"], step.operator = .and := by decide
  have split : plan.steps = [] ++ [and "bird", and "dog", and "bird"] ++ after := rfl
  obtain ⟨result, final, executed, permuted, shortened, exchanged⟩ :=
    execute_row_reordered serves .max split uniform
  have other : ∀ step ∈ [and "dog", and "bird", and "dog"], step.operator = .and := by decide
  obtain ⟨result', final', executed', -, same⟩ :=
    exchanged rfl "bird" [and "dog", and "bird", and "dog"] other (by decide)
  exact ⟨result, final, executed, permuted [and "dog", and "bird", and "bird"] (by decide),
    shortened rfl [and "bird", and "dog"] (and "bird") [] rfl (by decide),
    result', final', executed', same⟩

end Query

end TermSearch
