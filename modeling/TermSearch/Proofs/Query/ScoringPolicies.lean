import Mathlib.Algebra.Order.BigOperators.Group.List
import Mathlib.Algebra.Order.Group.Nat
import TermSearch.Proofs.Query.ScoreClosedForm
import TermSearch.Proofs.ResultSet.Distribution

namespace TermSearch

theorem Scoring.total_max_le_sum (counts : List Nat) : Scoring.max.total counts ≤ counts.sum := by
  change counts.max?.getD 0 ≤ counts.sum
  cases largest : counts.max? with
  | none => exact Nat.zero_le _
  | some count => exact List.le_sum_of_mem (List.max?_mem largest)

theorem Scoring.sum_le_length_mul_total (counts : List Nat) :
    counts.sum ≤ counts.length * Scoring.max.total counts := by
  have each : ∀ count ∈ counts, count ≤ Scoring.max.total counts := by
    intro count member
    exact List.le_max?_getD_of_mem member
  exact List.sum_le_card_nsmul counts _ each

namespace Plan

variable (counts : String → ResultSet) (plan : Plan) (d : String)

theorem length_scored_le (count : String → Relevance) :
    (plan.scored count).length ≤ plan.steps.length + 1 := by
  have length : (plan.counted count).length = plan.steps.length + 1 := by simp [counted]
  rw [scored, List.length_drop, length]
  exact Nat.sub_le _ _

theorem relevance_joined_max_le :
    ((plan.joined Scoring.max.combine counts).relevance d).toNat ≤
      ((plan.joined Scoring.sum.combine counts).relevance d).toNat := by
  have largest := toNat_relevance_joined plan .max counts d
  have added := toNat_relevance_joined plan .sum counts d
  have bound := ((plan.joined Scoring.max.combine counts).relevance d).toNat_le_limit
  have below := Scoring.total_max_le_sum (plan.scored fun term => (counts term).relevance d)
  rw [← largest] at below
  rw [added]
  exact Nat.le_min.mpr ⟨below, bound⟩

theorem relevance_joined_sum_le :
    ((plan.joined Scoring.sum.combine counts).relevance d).toNat ≤
      (plan.steps.length + 1) * ((plan.joined Scoring.max.combine counts).relevance d).toNat := by
  have length := plan.length_scored_le fun term => (counts term).relevance d
  rw [toNat_relevance_joined plan .max counts d, toNat_relevance_joined plan .sum counts d]
  generalize (plan.scored fun term => (counts term).relevance d) = scored at length ⊢
  calc Scoring.sum.total scored
      ≤ scored.sum := Nat.min_le_left _ _
    _ ≤ scored.length * Scoring.max.total scored := Scoring.sum_le_length_mul_total scored
    _ ≤ (plan.steps.length + 1) * Scoring.max.total scored := Nat.mul_le_mul_right _ length

theorem sameDocuments_evaluate (scoring scoring' : Scoring) :
    (plan.evaluate scoring.combine counts).SameDocuments (plan.evaluate scoring'.combine counts) := by
  refine ResultSet.sameDocuments_of_hits (fun d => ?_) fun d => ?_
  · rw [contains_evaluate, contains_evaluate]
  · rw [hits_evaluate, hits_evaluate]

theorem relevance_evaluate_bounds :
    let added := (plan.evaluate Scoring.sum.combine counts).relevance d
    let largest := (plan.evaluate Scoring.max.combine counts).relevance d
    largest.toNat ≤ added.toNat ∧ added.toNat ≤ (plan.steps.length + 1) * largest.toNat := by
  simp only [evaluate_eq_deleting, ResultSet.relevance_deleting]
  cases plan.excludes counts d with
  | true => exact ⟨Nat.le_refl _, Nat.zero_le _⟩
  | false => exact ⟨plan.relevance_joined_max_le counts d, plan.relevance_joined_sum_le counts d⟩

end Plan

namespace Query

/-- The policy changes neither the documents of a result nor those that match. The sum for a document
is at least its largest score, at most that many times as there are terms searched for, and never
over the limit. -/
theorem execute_under_both_policies {σ : Type} {source : Source σ} {counts : String → ResultSet}
    {progress : Progress σ} (serves : source.Serves counts progress.source) (plan : Plan) :
    ∃ added largest final final',
      execute source Scoring.sum.combine plan progress = (.ok added, final) ∧
        execute source Scoring.max.combine plan progress = (.ok largest, final') ∧
        added.documents = largest.documents ∧
        added.matching.map (·.1) = largest.matching.map (·.1) ∧
        ∀ document,
          (largest.relevance document).toNat ≤ (added.relevance document).toNat ∧
            (added.relevance document).toNat ≤
              min Relevance.limit
                ((plan.steps.length + 1) * (largest.relevance document).toNat) := by
  have same := plan.sameDocuments_evaluate counts .sum .max
  refine ⟨_, _, _, _, execute_of_serves serves Scoring.sum.combine plan,
    execute_of_serves serves Scoring.max.combine plan, same.listed, same.matching, ?_⟩
  intro document
  obtain ⟨lower, upper⟩ := plan.relevance_evaluate_bounds counts document
  exact ⟨lower, Nat.le_min.mpr ⟨Relevance.toNat_le_limit _, upper⟩⟩

/-- `docB` reaches the upper bound; `docA` is held at the limit, which is below it. -/
theorem execute_under_both_policies_limit :
    let counts (_ : String) : ResultSet := .ofList [("docA", 4294967295), ("docB", 2)]
    let plan : Plan := ⟨"a", [⟨.or, "b", false⟩, ⟨.and, "c", true⟩], [], none⟩
    ∃ added largest final final',
      execute (.ofCounts counts) Scoring.sum.combine plan { source := () } = (.ok added, final) ∧
        execute (.ofCounts counts) Scoring.max.combine plan { source := () } =
          (.ok largest, final') ∧
        added.documents = largest.documents ∧
        (added.relevance "docA").toNat ≤ min Relevance.limit (3 * (largest.relevance "docA").toNat) ∧
        (added.relevance "docB").toNat = 3 * (largest.relevance "docB").toNat := by
  intro counts plan
  have serves : (Source.ofCounts counts).Serves counts (Progress.mk () []).source :=
    Source.serves_ofCounts counts ()
  obtain ⟨added, largest, final, final', executed, executed', listed, -, bounds⟩ :=
    execute_under_both_policies serves plan
  have sum := execute_of_serves serves Scoring.sum.combine plan
  have max := execute_of_serves serves Scoring.max.combine plan
  obtain rfl := Except.ok.inj (congrArg Prod.fst (executed.symm.trans sum))
  obtain rfl := Except.ok.inj (congrArg Prod.fst (executed'.symm.trans max))
  exact ⟨_, _, final, final', executed, executed', listed, (bounds "docA").2, by decide⟩

end Query

end TermSearch
