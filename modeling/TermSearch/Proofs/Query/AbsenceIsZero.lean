import TermSearch.Probe
import TermSearch.Proofs.Plan.Reading
import TermSearch.Proofs.ResultSet.Laws
import TermSearch.Query.Steady

namespace TermSearch

open ResultSet (Alike)

theorem Operator.alike_apply (operator : Operator) {combine : Combiner} (zero : combine 0 0 = 0)
    {a b x y : ResultSet} (left : a.Alike b) (right : x.Alike y) :
    (operator.apply combine a x).Alike (operator.apply combine b y) := by
  cases operator with
  | and => exact left.intersect right
  | or => exact left.union zero right

namespace Plan

variable {combine : Combiner} {counts others : String → ResultSet} {a b : ResultSet}

theorem alike_joinSteps (zero : combine 0 0 = 0) (alike : ∀ term, (counts term).Alike (others term))
    (start : a.Alike b) (steps : List Step) :
    (joinSteps combine counts steps a).Alike (joinSteps combine others steps b) := by
  refine List.foldl_rel start ?_
  intro step _ result other same
  exact step.operator.alike_apply zero same (alike step.term)

theorem alike_foldl_difference (alike : ∀ term, (counts term).Alike (others term))
    (start : a.Alike b) (terms : List String) :
    (terms.foldl (fun result term => result.difference (counts term)) a).Alike
      (terms.foldl (fun result term => result.difference (others term)) b) := by
  refine List.foldl_rel start ?_
  intro term _ result other same
  exact same.difference (alike term)

theorem alike_evaluate (zero : combine 0 0 = 0) (alike : ∀ term, (counts term).Alike (others term))
    (plan : Plan) : (plan.evaluate combine counts).Alike (plan.evaluate combine others) :=
  alike_foldl_difference alike (alike_joinSteps zero alike (alike plan.seed) plan.steps)
    plan.exclusions

end Plan

namespace Query

/-- On two sources that differ only in the zero counts they list, a query without a term fails, and
any other gives alike results: the same relevance, the same matching entries, the same text. -/
theorem run_absence_is_zero {σ τ : Type} {source : Source σ} {other : Source τ}
    {counts others : String → ResultSet} {state opened : σ} {state' opened' : τ}
    {file file' : Option OpenFile} (connected : source.connect state = (.ok file, opened))
    (serves : source.Serves counts opened) (connected' : other.connect state' = (.ok file', opened'))
    (serves' : other.Serves others opened') {combine : Combiner} (zero : combine 0 0 = 0)
    (alike : ∀ term document, (counts term).relevance document = (others term).relevance document)
    (tokens : List String) :
    let answer := (run source combine tokens state).answer
    let answer' := (run other combine tokens state').answer
    ((∀ raw ∈ tokens, ¬ Token.Plain raw) ∧ answer = .error .noValidTerm ∧
        answer' = .error .noValidTerm) ∨
      ∃ result result', answer = .ok result ∧ answer' = .ok result' ∧
        (∀ document, result.relevance document = result'.relevance document) ∧
        result.matching = result'.matching ∧
        ∀ json, result.print true json = result'.print true json := by
  intro answer answer'
  have ran := answer_run_eq_evaluate connected serves combine tokens
  have ran' := answer_run_eq_evaluate connected' serves' combine tokens
  cases parsed : Plan.parse tokens with
  | error error =>
    obtain ⟨absent, rfl⟩ := Plan.parse_eq_error_iff.mp parsed
    rw [parsed] at ran ran'
    exact .inl ⟨absent, ran, ran'⟩
  | ok plan =>
    rw [parsed] at ran ran'
    have same := plan.alike_evaluate zero alike
    exact .inr ⟨_, _, ran, ran', same, same.matching, same.print⟩

/-- A source that lists `docD` under every term has it in the result, with zero, and prints the
same. -/
theorem run_absence_is_zero_probe :
    let listing (term : String) : ResultSet :=
      (Probe.index.counts term).insert "docD" ((Probe.index.counts term).relevance "docD")
    let tokens := ["dog", "OR", "bird", "-cat"]
    ∃ result result',
      (run (.ofIndex Probe.index) Scoring.max.combine tokens ()).answer = .ok result ∧
        (run (.ofCounts listing) Scoring.max.combine tokens ()).answer = .ok result' ∧
        result.contains "docD" = false ∧ result'.contains "docD" = true ∧
        result.print true false = "docC=5\n" ∧ result'.print true false = "docC=5\n" := by
  intro listing tokens
  let plan : Plan := ⟨"dog", [⟨.or, "bird", false⟩], ["cat"], none⟩
  have parsed : Plan.parse tokens = .ok plan := rfl
  have connected : (Source.ofIndex Probe.index).connect () = (.ok none, ()) := rfl
  have connected' : (Source.ofCounts listing).connect () = (.ok none, ()) := rfl
  have serves := Source.serves_ofCounts Probe.index.counts ()
  have serves' := Source.serves_ofCounts listing ()
  have alike (term document : String) :
      (Probe.index.counts term).relevance document = (listing term).relevance document :=
    (ResultSet.alike_insert_relevance (Probe.index.counts term) "docD" document).symm
  have value := answer_run_eq_evaluate connected serves Scoring.max.combine tokens
  have value' := answer_run_eq_evaluate connected' serves' Scoring.max.combine tokens
  rw [parsed] at value value'
  obtain ⟨absent, -⟩ | ⟨result, result', ran, ran', -, -, printed⟩ :=
    run_absence_is_zero connected serves connected' serves' Scoring.max.combine_zero alike tokens
  · exact absurd rfl (absent "dog" List.mem_cons_self)
  · have found := Except.ok.inj (value.symm.trans ran)
    have found' := Except.ok.inj (value'.symm.trans ran')
    have unlisted : result.contains "docD" = false := by rw [← found]; decide
    have listed : result'.contains "docD" = true := by rw [← found']; decide
    have kept : result.matching = [("docC", 5)] := by rw [← found]; decide
    have shown := result.shown_matching
    rw [kept, List.mergeSort_singleton] at shown
    have text : result.print true false = "docC=5\n" := by
      rw [ResultSet.print, shown]
      rfl
    exact ⟨result, result', ran, ran', unlisted, listed, text, (printed false).symm.trans text⟩

end Query

end TermSearch
