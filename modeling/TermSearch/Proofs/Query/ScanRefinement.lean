import TermSearch.Probe
import TermSearch.Scan
import TermSearch.Query.Steady
import TermSearch.Proofs.Plan.Reading
import TermSearch.Proofs.Query.Reports

/-!
A draft stands for a place in the scan: the set that its steps come to is the running result, and
its exclusions are the terms set aside.
-/

namespace TermSearch

namespace Scan

section

variable {m : Type → Type} [Monad m] (ask : String → m ResultSet) (combine : Combiner)
  (aside : List String) (result : ResultSet) (rest : List String)

def operate (operator : Operator) : List String → m ResultSet
  | [] => subtract ask aside result
  | operand :: rest => do
    let other ← ask operand
    walk ask combine aside (operator.apply combine result other) rest

theorem walk_excluding (term : String) :
    walk ask combine aside result (Token.excluding term :: rest) =
      walk ask combine (aside ++ [term]) result rest := by
  rw [walk.eq_def]
  simp only [excluded?_excluding]

theorem walk_word (operator : Operator) :
    walk ask combine aside result (operator.word :: rest) =
      operate ask combine aside result operator rest := by
  rw [walk.eq_def]
  simp only [excluded?_word, isOperator_word]
  cases rest with
  | nil => rfl
  | cons operand rest => cases operator <;> rfl

theorem walk_plain {term : String} (plain : Token.Plain term) :
    walk ask combine aside result (term :: rest) =
      ask term >>= fun other => walk ask combine aside (result.intersect other combine) rest := by
  rw [walk.eq_def]
  simp only [excluded?_plain plain, isOperator_plain plain]
  rfl

theorem seek_excluding (term : String) :
    seek ask combine aside (Token.excluding term :: rest) =
      seek ask combine (aside ++ [term]) rest := by
  rw [seek, excluded?_excluding]

theorem seek_word (operator : Operator) :
    seek ask combine aside (operator.word :: rest) = seek ask combine aside rest := by
  rw [seek, excluded?_word, isOperator_word]
  rfl

theorem seek_plain {term : String} (plain : Token.Plain term) :
    seek ask combine aside (term :: rest) =
      some (ask term >>= fun result => walk ask combine aside result rest) := by
  rw [seek, excluded?_plain plain, isOperator_plain plain]
  rfl

end

theorem seek_eq_none_iff {m : Type → Type} [Monad m] (ask : String → m ResultSet)
    (combine : Combiner) (aside tokens : List String) :
    seek ask combine aside tokens = none ↔ ∀ raw ∈ tokens, isTerm raw = false := by
  induction tokens generalizing aside with
  | nil => simp [seek]
  | cons raw rest ih =>
    rw [List.forall_mem_cons]
    rcases Token.spelled_cases raw with ⟨term, rfl⟩ | ⟨operator, rfl⟩ | plain
    · rw [seek_excluding, ih]
      simp [isTerm, excluded?_excluding]
    · rw [seek_word, ih]
      simp [isTerm, isOperator_word]
    · rw [seek_plain _ _ _ _ plain]
      simp [(isTerm_eq_true_iff raw).mpr plain]

theorem mapError_store_ne (answer : Except StoreError ResultSet) :
    answer.mapError QueryError.store ≠ .error .noValidTerm := by
  intro same
  cases answer with
  | error error => cases same
  | ok result => cases same

theorem run_eq_noValidTerm_iff {σ : Type} (source : Source σ) (combine : Combiner)
    (tokens : List String) (state : σ) :
    (run source combine tokens state).1 = .error .noValidTerm ↔
      ∀ raw ∈ tokens, isTerm raw = false := by
  rw [← seek_eq_none_iff source.ask combine []]
  unfold run search
  cases found : seek source.ask combine [] tokens with
  | none => simp
  | some action =>
    rcases source.connect state with ⟨refused | file, opened⟩
    · simp
    · have answered := mapError_store_ne (action.run.run opened).1
      exact iff_of_false answered (Option.some_ne_none action)

end Scan

namespace Plan

variable {m : Type → Type} [Monad m] [LawfulMonad m] (ask : String → m ResultSet)
  (combine : Combiner)

theorem joinedM_nil (seed : String) : joinedM ask combine seed [] = ask seed := by
  simp [joinedM]

theorem joinedM_addStep {α : Type} (seed : String) (steps : List Step) (step : Step)
    (next : ResultSet → m α) :
    joinedM ask combine seed (steps ++ [step]) >>= next =
      joinedM ask combine seed steps >>= fun result =>
        ask step.term >>= fun other => next (step.operator.apply combine result other) := by
  simp [joinedM, List.foldlM_append]

end Plan

namespace Scan

open Plan (Draft joinedM joinedM_nil joinedM_addStep)

variable {m : Type → Type} [Monad m] (ask : String → m ResultSet) (combine : Combiner)

/-- The search on what is left of the tokens, once a draft holds those before. -/
def resume (draft : Draft) (rest : List String) : Option (m ResultSet) :=
  match draft.stage with
  | .seeking => seek ask combine draft.exclusions rest
  | .joining =>
    some do
      let result ← joinedM ask combine draft.seed draft.steps
      walk ask combine draft.exclusions result rest
  | .operand operator =>
    some do
      let result ← joinedM ask combine draft.seed draft.steps
      operate ask combine draft.exclusions result operator rest

theorem resume_nil (draft : Draft) :
    resume ask combine draft [] = draft.finish.toOption.map (Plan.evaluateM ask combine) := by
  unfold resume Draft.finish
  cases draft.stage <;> rfl

variable [LawfulMonad m]

theorem resume_cons {draft : Draft} (seeded : draft.Seeded) (raw : String) (rest : List String) :
    resume ask combine draft (raw :: rest) = resume ask combine (draft.step raw) rest := by
  cases draft.taken_step raw with
  | idle operator seeking spelled same =>
    rw [same, spelled]
    simp only [resume, seeking, seek_word]
  | seed seeking plain found =>
    -- The seed is the first request, since no step was taken before it.
    rw [found]
    simp only [resume, seeking, seek_plain _ _ _ _ plain, seeded seeking, joinedM_nil]
  | exclusion term free spelled added =>
    rw [added, spelled]
    cases stage : draft.stage with
    | seeking => simp only [resume, Draft.addExclusion, stage, seek_excluding]
    | joining => simp only [resume, Draft.addExclusion, stage, walk_excluding]
    | operand operator => exact absurd stage (free operator)
  | term joining plain added =>
    rw [added]
    simp only [resume, Draft.addStep, joining, walk_plain _ _ _ _ _ plain, joinedM_addStep,
      Operator.apply]
  | operator operator joining spelled awaited =>
    rw [awaited, spelled]
    simp only [resume, joining, walk_word]
  | operand operator awaiting added =>
    rw [added]
    simp only [resume, Draft.addStep, awaiting, operate, joinedM_addStep]

theorem resume_eq_finish {draft : Draft} (seeded : draft.Seeded) (tokens : List String) :
    resume ask combine draft tokens =
      (tokens.foldl Draft.step draft).finish.toOption.map (Plan.evaluateM ask combine) := by
  induction tokens generalizing draft with
  | nil => exact resume_nil ask combine draft
  | cons raw rest ih =>
    rw [resume_cons ask combine seeded, ih (Draft.seeded_step seeded raw), List.foldl_cons]

theorem search_eq_evaluateM (tokens : List String) :
    search ask combine tokens = (Plan.parse tokens).toOption.map (Plan.evaluateM ask combine) := by
  have seeded : Draft.Seeded {} := fun _ => rfl
  exact resume_eq_finish ask combine seeded tokens

end Scan

theorem Plan.evaluateM_id (combine : Combiner) (counts : String → ResultSet) (plan : Plan) :
    Plan.evaluateM (m := Id) counts combine plan = plan.evaluate combine counts := by
  have joined : Plan.joinedM (m := Id) counts combine plan.seed plan.steps =
      plan.joined combine counts := List.idRun_foldlM
  unfold Plan.evaluateM
  rw [joined]
  exact List.idRun_foldlM

namespace Query

variable {σ : Type}

theorem run_eq_scan_run (source : Source σ) (combine : Combiner) (tokens : List String) (state : σ) :
    ((run source combine tokens state).answer, (run source combine tokens state).source) =
      Scan.run source combine tokens state := by
  unfold run Scan.run
  rw [Scan.search_eq_evaluateM]
  cases parsed : Plan.parse tokens with
  | error error =>
    obtain ⟨-, rfl⟩ := Plan.parse_eq_error_iff.mp parsed
    rfl
  | ok plan =>
    rcases connected : source.connect state with ⟨refused | file, opened⟩
    · unfold runPlan
      rw [connected]
      rfl
    · exact runPlan_of_connect connected combine plan

theorem answer_run_of_serves {source : Source σ} {counts : String → ResultSet} {state opened : σ}
    {file : Option OpenFile} (connected : source.connect state = (.ok file, opened))
    (serves : source.Serves counts opened) (combine : Combiner) (tokens : List String) :
    (run source combine tokens state).answer = Scan.answer counts combine tokens := by
  rw [answer_run_eq_evaluate connected serves]
  unfold Scan.answer
  rw [Scan.search_eq_evaluateM (m := Id)]
  cases parsed : Plan.parse tokens with
  | error error =>
    obtain ⟨-, rfl⟩ := Plan.parse_eq_error_iff.mp parsed
    rfl
  | ok plan =>
    show Except.ok (plan.evaluate combine counts) = .ok (Plan.evaluateM (m := Id) counts combine plan)
    rw [Plan.evaluateM_id]

/-- On every source, failing ones included, a query answers what the scan answers and leaves the
source as the scan does; when look-ups succeed, that is the scan of the counts. -/
theorem run_refines_scan (source : Source σ) (combine : Combiner) (tokens : List String)
    (state : σ) :
    let outcome := run source combine tokens state
    (outcome.answer, outcome.source) = Scan.run source combine tokens state ∧
      (outcome.answer = .error .noValidTerm ↔ ∀ raw ∈ tokens, Scan.isTerm raw = false) ∧
      ∀ file opened counts, source.connect state = (.ok file, opened) →
        source.Serves counts opened → outcome.answer = Scan.answer counts combine tokens := by
  have same := run_eq_scan_run source combine tokens state
  refine ⟨same, ?_, ?_⟩
  · rw [← Scan.run_eq_noValidTerm_iff source combine tokens state, ← same]
  · intro file opened counts connected serves
    exact answer_run_of_serves connected serves combine tokens

/-- `-dog` is an exclusion where it comes first and a term behind `OR`; `docB` stays with zero. -/
theorem run_refines_scan_probe :
    let tokens := ["AND", "-dog", "cat", "OR", "-dog", "bird", "OR"]
    (run (.ofIndex Probe.index) Scoring.sum.combine tokens ()).answer =
      .ok (.ofList [("docB", 0), ("docD", 0)]) := by
  intro tokens
  obtain ⟨-, -, steady⟩ := run_refines_scan (.ofIndex Probe.index) Scoring.sum.combine tokens ()
  have serves := Source.serves_ofCounts Probe.index.counts ()
  exact (steady none () Probe.index.counts rfl serves).trans rfl

end Query

end TermSearch
