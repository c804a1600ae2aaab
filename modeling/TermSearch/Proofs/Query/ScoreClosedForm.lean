import Mathlib.Algebra.GroupWithZero.Nat
import Mathlib.Data.List.Induction
import TermSearch.Proofs.Plan.Reading
import TermSearch.Proofs.Query.OneDocument

namespace TermSearch

/-- The exact sum held at the limit, or the largest number; zero if there is none. -/
def Scoring.total : Scoring → List Nat → Nat
  | .sum, counts => min counts.sum Relevance.limit
  | .max, counts => counts.max?.getD 0

theorem Scoring.total_nil (scoring : Scoring) : scoring.total [] = 0 := by
  cases scoring <;> rfl

theorem Scoring.total_singleton (scoring : Scoring) (a : Relevance) :
    scoring.total [a.toNat] = a.toNat := by
  have bound := a.toNat_le_limit
  cases scoring with
  | sum => simpa only [total, List.sum_singleton] using Nat.min_eq_left bound
  | max => rfl

theorem Scoring.toNat_combine_total (scoring : Scoring) {counts : List Nat} {a : Relevance}
    (b : Relevance) (total : a.toNat = scoring.total counts) :
    (scoring.combine a b).toNat = scoring.total (counts ++ [b.toNat]) := by
  cases scoring with
  | sum =>
    simp only [combine, Relevance.toNat_plus, total, Scoring.total, List.sum_append, List.sum_singleton]
    omega
  | max =>
    simp only [combine, Relevance.toNat_stronger, total, Scoring.total]
    cases counts with
    | nil => simp
    | cons c rest =>
      simp only [List.cons_append, List.max?_cons', List.foldl_append, List.foldl_cons,
        List.foldl_nil, Option.getD_some]

theorem Operator.relevance_apply_scoring (operator : Operator) (scoring : Scoring)
    (a b : ResultSet) (d : String) :
    (operator.apply scoring.combine a b).relevance d =
      if operator = .and ∧ (operator.apply scoring.combine a b).hits d = false then 0
      else scoring.combine (a.relevance d) (b.relevance d) := by
  cases operator with
  | and =>
    have score := ResultSet.relevance_intersect a b scoring.combine d
    have hit := Operator.hits_apply .and scoring a b d
    unfold intersectScore at score
    simp only [true_and, hit]
    simp only [apply, truth, score, ResultSet.hits]
    by_cases left : a.relevance d = 0 <;> by_cases right : b.relevance d = 0 <;>
      simp [left, right]
  | or =>
    rw [if_neg fun both => Operator.noConfusion both.1]
    exact ResultSet.relevance_union_scoring scoring a b d

namespace Plan

/-- Whether a document that contains the terms in `found` matches after the first `i` steps. -/
def holdsAfter (found : String → Bool) (plan : Plan) (i : Nat) : Bool :=
  (plan.steps.take i).foldl (fun truth step => step.operator.truth truth (found step.term))
    (found plan.seed)

/-- Step `i`, counted from one, is an `AND` after which the document does not match. -/
def failsAt (found : String → Bool) (plan : Plan) (i : Nat) : Bool :=
  plan.steps[i - 1]?.any (·.operator = .and) && !plan.holdsAfter found i

def lastFailure (found : String → Bool) (plan : Plan) : Option Nat :=
  ((List.range' 1 plan.steps.length).filter (plan.failsAt found)).getLast?

def counted (count : String → Relevance) (plan : Plan) : List Nat :=
  (plan.seed :: plan.steps.map (·.term)).map fun term => (count term).toNat

def scored (count : String → Relevance) (plan : Plan) : List Nat :=
  (plan.counted count).drop ((plan.lastFailure fun term => count term != 0).elim 0 (· + 1))

variable (found : String → Bool) (plan : Plan) (step : Step)

theorem holdsAfter_addStep {i : Nat} (old : i ≤ plan.steps.length) :
    (plan.addStep step).holdsAfter found i = plan.holdsAfter found i := by
  simp only [holdsAfter, addStep, List.take_append_of_le_length old]

theorem failsAt_addStep {i : Nat} (positive : 0 < i) (old : i ≤ plan.steps.length) :
    (plan.addStep step).failsAt found i = plan.failsAt found i := by
  unfold failsAt
  rw [holdsAfter_addStep found plan step old]
  have same : (plan.addStep step).steps[i - 1]? = plan.steps[i - 1]? :=
    List.getElem?_append_left (by omega)
  rw [same]

theorem lastFailure_addStep :
    (plan.addStep step).lastFailure found =
      if (plan.addStep step).failsAt found (plan.steps.length + 1) then
        some (plan.steps.length + 1)
      else plan.lastFailure found := by
  have length : (plan.addStep step).steps.length = plan.steps.length + 1 := by simp [addStep]
  have earlier : (List.range' 1 plan.steps.length).filter ((plan.addStep step).failsAt found) =
      (List.range' 1 plan.steps.length).filter (plan.failsAt found) := by
    apply List.filter_congr
    intro i member
    obtain ⟨positive, below⟩ := List.mem_range'_1.mp member
    exact failsAt_addStep found plan step (by omega) (by omega)
  unfold lastFailure
  rw [length, List.range'_1_concat, List.filter_append, earlier, Nat.add_comm 1]
  split
  · next fails => simp [fails]
  · next fails => simp [fails]

theorem lastFailure_le {j : Nat} (last : plan.lastFailure found = some j) :
    j ≤ plan.steps.length := by
  have member := List.mem_of_getLast? last
  obtain ⟨-, below⟩ := List.mem_range'_1.mp (List.mem_filter.mp member).1
  omega

theorem counted_addStep (count : String → Relevance) :
    (plan.addStep step).counted count = plan.counted count ++ [(count step.term).toNat] := by
  simp [counted, addStep]

theorem scored_addStep (count : String → Relevance) :
    (plan.addStep step).scored count =
      if (plan.addStep step).failsAt (fun term => count term != 0) (plan.steps.length + 1) then []
      else plan.scored count ++ [(count step.term).toNat] := by
  have length : (plan.counted count).length = plan.steps.length + 1 := by simp [counted]
  unfold scored
  rw [lastFailure_addStep, counted_addStep]
  split
  · exact List.drop_eq_nil_of_le (by simp [length])
  · apply List.drop_append_of_le_length
    cases last : plan.lastFailure fun term => count term != 0 with
    | none => exact Nat.zero_le _
    | some j =>
      have bound := lastFailure_le _ plan last
      rw [length]
      exact Nat.add_le_add_right bound 1

theorem holdsAfter_all :
    plan.holdsAfter found plan.steps.length =
      plan.steps.foldl (fun truth step => step.operator.truth truth (found step.term))
        (found plan.seed) := by
  rw [holdsAfter, List.take_length]

theorem failsAt_last (scoring : Scoring) (counts : String → ResultSet) (d : String) :
    (plan.addStep step).failsAt (fun term => (counts term).relevance d != 0)
        (plan.steps.length + 1) =
      decide (step.operator = .and ∧
        ((plan.addStep step).joined scoring.combine counts).hits d = false) := by
  have length : (plan.addStep step).steps.length = plan.steps.length + 1 := by simp [addStep]
  have truth := hits_joined scoring counts (plan.addStep step) d
  have all := holdsAfter_all (fun term => (counts term).hits d) (plan.addStep step)
  rw [← truth, length] at all
  have last : (plan.addStep step).steps[plan.steps.length]? = some step := by simp [addStep]
  unfold failsAt
  rw [Nat.add_sub_cancel, last, Option.any_some]
  change (_ && !(plan.addStep step).holdsAfter (fun term => (counts term).hits d) _) = _
  rw [all, Bool.decide_and, Bool.decide_eq_false]

theorem toNat_relevance_addStep (scoring : Scoring) (counts : String → ResultSet) (d : String)
    (before : ((plan.joined scoring.combine counts).relevance d).toNat =
      scoring.total (plan.scored fun term => (counts term).relevance d)) :
    (((plan.addStep step).joined scoring.combine counts).relevance d).toNat =
      scoring.total ((plan.addStep step).scored fun term => (counts term).relevance d) := by
  have fails := failsAt_last plan step scoring counts d
  have score := step.operator.relevance_apply_scoring scoring (plan.joined scoring.combine counts)
    (counts step.term) d
  rw [scored_addStep, fails]
  rw [joined_addStep, score]
  by_cases lost : step.operator = .and ∧
      (step.operator.apply scoring.combine (plan.joined scoring.combine counts)
        (counts step.term)).hits d = false
  · rw [if_pos lost, if_pos (decide_eq_true lost), Scoring.total_nil]
    rfl
  · rw [if_neg lost, if_neg (by simpa using lost)]
    exact scoring.toNat_combine_total _ before

theorem toNat_relevance_joined (scoring : Scoring) (counts : String → ResultSet) (d : String) :
    ((plan.joined scoring.combine counts).relevance d).toNat =
      scoring.total (plan.scored fun term => (counts term).relevance d) := by
  obtain ⟨seed, steps, exclusions, dangling⟩ := plan
  -- A step's truth and score depend on the steps before it, so the steps are taken from the left.
  induction steps using List.reverseRecOn with
  | nil => exact (scoring.total_singleton _).symm
  | append_singleton steps step ih =>
    exact toNat_relevance_addStep ⟨seed, steps, exclusions, dangling⟩ step scoring counts d ih

theorem relevance_evaluate_of_contains (combine : Combiner) (counts : String → ResultSet)
    {d : String} (present : (plan.evaluate combine counts).contains d = true) :
    (plan.evaluate combine counts).relevance d = (plan.joined combine counts).relevance d := by
  have entry := find?_evaluate_eq_ite combine counts plan d
  split at entry
  · rw [ResultSet.relevance, entry, ResultSet.relevance]
  · rw [Table.contains, entry] at present
    exact absurd present (by simp)

end Plan

namespace Query

/-- The score of a document in the result is the total of its counts since the last `AND` that it
fails, held at the limit once. -/
theorem score_eq_total_since_failure {σ : Type} {source : Source σ} {counts : String → ResultSet}
    {progress : Progress σ} (serves : source.Serves counts progress.source) (scoring : Scoring)
    (plan : Plan) :
    ∃ result final, execute source scoring.combine plan progress = (.ok result, final) ∧
      ∀ document, result.contains document = true →
        (result.relevance document).toNat =
          scoring.total (plan.scored fun term => (counts term).relevance document) := by
  refine ⟨_, _, execute_of_serves serves scoring.combine plan, ?_⟩
  intro document present
  rw [Plan.relevance_evaluate_of_contains plan scoring.combine counts present]
  exact Plan.toNat_relevance_joined plan scoring counts document

/-- The first sum is lost by the `AND` that follows it; the second goes over the limit twice. -/
theorem score_eq_total_since_failure_limit :
    let counts (term : String) : ResultSet :=
      if term = "none" then ∅ else .ofList [("doc", 4294967295)]
    let plan : Plan := ⟨"a", [⟨.or, "b", false⟩, ⟨.and, "none", true⟩, ⟨.or, "c", false⟩,
      ⟨.or, "d", false⟩, ⟨.and, "e", true⟩], [], none⟩
    ∃ result final,
      execute (.ofCounts counts) Scoring.sum.combine plan { source := () } = (.ok result, final) ∧
        result.contains "doc" = true ∧ (result.relevance "doc").toNat = Relevance.limit := by
  intro counts plan
  have serves : (Source.ofCounts counts).Serves counts (Progress.mk () []).source :=
    Source.serves_ofCounts counts ()
  obtain ⟨result, final, executed, closed⟩ := score_eq_total_since_failure serves .sum plan
  have evaluated := execute_of_serves serves Scoring.sum.combine plan
  obtain ⟨same, -⟩ := Prod.mk.inj (executed.symm.trans evaluated)
  obtain rfl := Except.ok.inj same
  have present : (plan.evaluate Scoring.sum.combine counts).contains "doc" = true := by decide
  exact ⟨_, final, executed, present, (closed "doc" present).trans (by decide)⟩

end Query

end TermSearch
