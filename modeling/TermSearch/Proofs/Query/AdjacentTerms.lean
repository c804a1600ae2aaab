import TermSearch.Proofs.Plan.AdjacentTerms
import TermSearch.Query

namespace TermSearch

theorem Plan.map_markSteps (implicit : Bool) (numbers : List Nat) (steps : List Step) :
    (markSteps implicit numbers steps).map (fun step => (step.operator, step.term)) =
      steps.map fun step => (step.operator, step.term) := by
  refine List.ext_getElem? fun n => ?_
  rw [markSteps, List.getElem?_map, List.getElem?_mapIdx, List.getElem?_map]
  cases steps[n]? with
  | none => rfl
  | some step => by_cases marked : n ∈ numbers <;> simp [marked]

namespace Query

variable {σ : Type} (source : Source σ) (combine : Combiner) (implicit : Bool) (numbers : List Nat)

theorem gather_markSteps (steps : List Step) (start : ResultSet) :
    gather source Step.term (·.operator.apply combine) (Plan.markSteps implicit numbers steps)
        start =
      gather source Step.term (·.operator.apply combine) steps start := by
  have reads (steps : List Step) :
      gather source Step.term (·.operator.apply combine) steps start =
        gather source Prod.snd (fun part : Operator × String => part.1.apply combine)
          (steps.map fun step => (step.operator, step.term)) start := by
    unfold gather
    rw [List.foldlM_map]
  rw [reads, reads, Plan.map_markSteps]

theorem execute_mark (plan : Plan) :
    execute source combine (plan.mark implicit numbers) = execute source combine plan := by
  unfold execute
  simp only [Plan.mark, gather_markSteps]

theorem run_of_mark {tokens other : List String} {plan : Plan}
    (parsed : Plan.parse tokens = .ok plan)
    (parsed' : Plan.parse other = .ok (plan.mark implicit numbers)) (state : σ) :
    run source combine other state = run source combine tokens state := by
  have event : (plan.mark implicit numbers).parsedEvent = plan.parsedEvent := by
    simp [Plan.parsedEvent, Plan.mark, Plan.markSteps]
  unfold run runPlan
  simp only [parsed, parsed', event, execute_mark]

/-- `AND` can be put before any of the terms that are joined without an operator, and left out at any
of the places where its operand is a plain term. The plan is the same but for the marks of these
steps, and so are the outcome of the query and the connections and look-ups that are recorded. -/
theorem run_and_between_terms {tokens : List String} {plan : Plan}
    (parsed : Plan.parse tokens = .ok plan) (places : List Nat) (state : σ) :
    let numbers := places.map (Plan.stepNumber tokens)
    let recorded (tokens : List String) := run source.recording combine tokens (state, {})
    ((∀ i ∈ places, Plan.Adjoined tokens i) →
      Plan.parse (Plan.insertAnds places tokens) = .ok (plan.mark false numbers) ∧
        (∀ i ∈ places, ∃ term, tokens[i]? = some term ∧
          plan.steps[Plan.stepNumber tokens i]? = some ⟨.and, term, true⟩) ∧
        run source combine (Plan.insertAnds places tokens) state =
          run source combine tokens state ∧
        recorded (Plan.insertAnds places tokens) = recorded tokens) ∧
      ((∀ i ∈ places, Plan.Conjoined tokens i) →
        Plan.parse (Plan.leaveOut places tokens) = .ok (plan.mark true numbers) ∧
          (∀ i ∈ places, ∃ term, tokens[i + 1]? = some term ∧
            plan.steps[Plan.stepNumber tokens i]? = some ⟨.and, term, false⟩) ∧
          run source combine (Plan.leaveOut places tokens) state =
            run source combine tokens state ∧
          recorded (Plan.leaveOut places tokens) = recorded tokens) := by
  intro numbers recorded
  constructor
  · intro adjoined
    have longer := Plan.parse_insertAnds parsed adjoined
    exact ⟨longer, fun i chosen => (adjoined i chosen).step_of_parse parsed,
      run_of_mark source combine false numbers parsed longer state,
      run_of_mark source.recording combine false numbers parsed longer (state, {})⟩
  · intro conjoined
    have shorter := Plan.parse_leaveOut parsed conjoined
    exact ⟨shorter, fun i chosen => (conjoined i chosen).step_of_parse parsed,
      run_of_mark source combine true numbers parsed shorter state,
      run_of_mark source.recording combine true numbers parsed shorter (state, {})⟩

/-- The first `AND` joins nothing, and the third is an operand. The source stops answering at the
third look-up. -/
theorem run_and_between_terms_unreachable :
    let tokens := ["AND", "cat", "dog", "-x", "AND", "AND", "bird", "AND", "fish"]
    let longer := ["AND", "cat", "AND", "dog", "-x", "AND", "AND", "AND", "bird", "AND", "fish"]
    let shorter := ["AND", "cat", "dog", "-x", "AND", "AND", "bird", "fish"]
    let recorded (tokens : List String) :=
      run Source.unreachable.recording Scoring.sum.combine tokens (2, {})
    Plan.parse longer = .ok ⟨"cat", [⟨.and, "dog", false⟩, ⟨.and, "AND", false⟩,
        ⟨.and, "bird", false⟩, ⟨.and, "fish", false⟩], ["x"], none⟩ ∧
      recorded longer = recorded tokens ∧ recorded shorter = recorded tokens := by
  intro tokens longer shorter recorded
  have parsed : Plan.parse tokens = .ok ⟨"cat", [⟨.and, "dog", true⟩, ⟨.and, "AND", false⟩,
    ⟨.and, "bird", true⟩, ⟨.and, "fish", false⟩], ["x"], none⟩ := rfl
  have adjoined : ∀ i ∈ [2, 6], Plan.Adjoined tokens i := by
    intro i chosen
    simp only [List.mem_cons, List.not_mem_nil, or_false] at chosen
    rcases chosen with rfl | rfl
    · exact ⟨rfl, "dog", rfl, by decide⟩
    · exact ⟨rfl, "bird", rfl, by decide⟩
  have conjoined : ∀ i ∈ [7], Plan.Conjoined tokens i := by
    intro i chosen
    obtain rfl := List.mem_singleton.mp chosen
    exact ⟨rfl, rfl, "fish", rfl, by decide⟩
  obtain ⟨inserted, -⟩ :=
    run_and_between_terms Source.unreachable Scoring.sum.combine parsed [2, 6] 2
  obtain ⟨-, left⟩ := run_and_between_terms Source.unreachable Scoring.sum.combine parsed [7] 2
  obtain ⟨read, -, -, same⟩ := inserted adjoined
  obtain ⟨-, -, -, same'⟩ := left conjoined
  exact ⟨read, same, same'⟩

end Query

end TermSearch
