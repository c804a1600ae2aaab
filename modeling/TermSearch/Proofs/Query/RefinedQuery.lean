import TermSearch.Probe
import TermSearch.Proofs.Plan.Reading
import TermSearch.Proofs.ResultSet.Deletion
import TermSearch.Query.Steady

/-!
The step that further tokens add comes before all exclusions, so these are moved to its two sides.
-/

namespace TermSearch

namespace Plan

variable (combine : Combiner) (counts : String → ResultSet) (plan : Plan) (term : String)

theorem evaluate_addExclusion :
    (plan.addExclusion term).evaluate combine counts =
      (plan.evaluate combine counts).difference (counts term) := by
  have joined : (plan.addExclusion term).joined combine counts = plan.joined combine counts := rfl
  rw [evaluate, joined, addExclusion, List.foldl_append]
  rfl

theorem evaluate_addStep_and (implicit : Bool) :
    (plan.addStep ⟨.and, term, implicit⟩).evaluate combine counts =
      (plan.evaluate combine counts).intersect (counts term) combine := by
  rw [evaluate_eq_deleting, evaluate_eq_deleting, joined_addStep]
  exact ResultSet.deleting_intersect_left _ _ combine (plan.excludes counts)

theorem evaluate_addStep_or (implicit : Bool) :
    (plan.addStep ⟨.or, term, implicit⟩).evaluate combine counts =
      (plan.evaluate combine counts).union
        (plan.exclusions.foldl (fun left excluded => left.difference (counts excluded)) (counts term))
        combine := by
  rw [evaluate_eq_deleting, evaluate_eq_deleting, joined_addStep,
    ResultSet.foldl_difference_eq_deleting]
  exact ResultSet.deleting_union _ _ combine (plan.excludes counts)

end Plan

namespace Query

/-- `AND` with any term, or a plain term alone, intersects; `OR` joins what the exclusions leave of
the term; a dash takes away; an operator at the end changes nothing. -/
theorem run_append_of_closed {σ : Type} {source : Source σ} {counts : String → ResultSet}
    {state opened : σ} {file : Option OpenFile} {tokens : List String} {plan : Plan}
    (connected : source.connect state = (.ok file, opened)) (serves : source.Serves counts opened)
    (combine : Combiner) (parsed : Plan.parse tokens = .ok plan) (closed : plan.dangling = none) :
    let answer (tokens : List String) := (run source combine tokens state).answer
    ∃ result, answer tokens = .ok result ∧
      (∀ term, answer (tokens ++ ["AND", term]) = .ok (result.intersect (counts term) combine)) ∧
      (∀ term, Token.Plain term →
        answer (tokens ++ [term]) = .ok (result.intersect (counts term) combine)) ∧
      (∀ term, answer (tokens ++ ["OR", term]) =
        .ok (result.union
          (plan.exclusions.foldl (fun left excluded => left.difference (counts excluded))
            (counts term)) combine)) ∧
      (∀ term, answer (tokens ++ [Token.excluding term]) = .ok (result.difference (counts term))) ∧
      answer (tokens ++ ["AND"]) = .ok result ∧ answer (tokens ++ ["OR"]) = .ok result := by
  intro answer
  have value {tokens : List String} {plan : Plan} (read : Plan.parse tokens = .ok plan) :
      answer tokens = .ok (plan.evaluate combine counts) := by
    have ran := answer_run_eq_evaluate connected serves combine tokens
    rw [read] at ran
    exact ran
  refine ⟨_, value parsed, ?_, ?_, ?_, ?_, ?_, ?_⟩
  · intro term
    rw [← Plan.evaluate_addStep_and combine counts plan term false]
    exact value (Plan.parse_append_operation parsed closed .and term)
  · intro term plain
    rw [← Plan.evaluate_addStep_and combine counts plan term true]
    exact value (Plan.parse_append_plain parsed closed plain)
  · intro term
    rw [← Plan.evaluate_addStep_or combine counts plan term false]
    exact value (Plan.parse_append_operation parsed closed .or term)
  · intro term
    rw [← Plan.evaluate_addExclusion combine counts plan term]
    exact value (Plan.parse_append_excluding parsed closed term)
  -- A dangling operator takes no part in the value of a plan.
  · have ran := value (Plan.parse_append_word parsed closed .and)
    exact ran
  · have ran := value (Plan.parse_append_word parsed closed .or)
    exact ran

/-- The operand `-dog` is a term of its own, while the exclusion of `dog` keeps `docA` out. -/
theorem run_append_of_closed_probe :
    let answer (tokens : List String) :=
      (run (.ofIndex Probe.index) Scoring.sum.combine tokens ()).answer
    Plan.parse ["-dog", "cat"] = .ok ⟨"cat", [], ["dog"], none⟩ ∧
      answer (["-dog", "cat"] ++ ["OR", "-dog"]) = .ok (.ofList [("docB", 1), ("docD", 9)]) ∧
      answer (["-dog", "cat"] ++ ["OR", "dog"]) = .ok (.ofList [("docB", 1)]) := by
  intro answer
  have parsed : Plan.parse ["-dog", "cat"] = .ok ⟨"cat", [], ["dog"], none⟩ := rfl
  have connected : (Source.ofIndex Probe.index).connect () = (.ok none, ()) := rfl
  have serves : (Source.ofIndex Probe.index).Serves Probe.index.counts () :=
    Source.serves_ofCounts Probe.index.counts ()
  obtain ⟨result, base, -, -, joined, -⟩ :=
    run_append_of_closed connected serves Scoring.sum.combine parsed rfl
  have found : result = .ofList [("docB", 1)] := Except.ok.inj (base.symm.trans rfl)
  subst found
  exact ⟨parsed, (joined "-dog").trans rfl, (joined "dog").trans rfl⟩

end Query

end TermSearch
