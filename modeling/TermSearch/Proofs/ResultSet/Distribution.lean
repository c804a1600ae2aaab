import TermSearch.Proofs.Query.OneDocument
import TermSearch.Proofs.ResultSet.Laws

namespace TermSearch

theorem intersectScore_max_distrib (a b c : Relevance) :
    intersectScore Scoring.max.combine a (Scoring.max.combine b c) =
      Scoring.max.combine (intersectScore Scoring.max.combine a b)
        (intersectScore Scoring.max.combine a c) := by
  by_cases first : a = 0
  · simp only [first, intersectScore_zero_left, Scoring.combine_zero_right]
  by_cases second : b = 0
  · simp only [second, intersectScore_zero_right, Scoring.combine_zero_left]
  by_cases third : c = 0
  · simp only [third, intersectScore_zero_right, Scoring.combine_zero_right]
  have joined : Scoring.max.combine b c ≠ 0 := fun zero =>
    second ((Scoring.max.combine_eq_zero_iff b c).mp zero).1
  rw [intersectScore_of_ne_zero first joined, intersectScore_of_ne_zero first second,
    intersectScore_of_ne_zero first third]
  simp only [Scoring.combine, ← UInt32.toNat_inj, Relevance.toNat_stronger]
  omega

theorem intersectScore_max_distrib_right (a b c : Relevance) :
    intersectScore Scoring.max.combine (Scoring.max.combine a b) c =
      Scoring.max.combine (intersectScore Scoring.max.combine a c)
        (intersectScore Scoring.max.combine b c) := by
  have symmetric := Scoring.max.lawful_combine.symmetric
  rw [intersectScore_comm symmetric, intersectScore_max_distrib, intersectScore_comm symmetric c a,
    intersectScore_comm symmetric c b]

namespace ResultSet

/-- The same documents are listed, and the same of them match. -/
structure SameDocuments (a b : ResultSet) : Prop where
  listed : a.documents = b.documents
  matching : a.matching.map (·.1) = b.matching.map (·.1)

theorem contains_filter_hits (set : ResultSet) (d : String) :
    (Table.filter (fun _ score => score ≠ 0) set).contains d = set.hits d := by
  rw [Table.contains, Table.find?_filter, hits, relevance]
  cases Table.find? set d with
  | none => rfl
  | some score => by_cases zero : score = 0 <;> simp [zero]

theorem sameDocuments_of_hits {a b : ResultSet} (listed : ∀ d, a.contains d = b.contains d)
    (matching : ∀ d, a.hits d = b.hits d) : a.SameDocuments b where
  listed := Table.names_eq_of_contains listed
  matching := by
    have names : (Table.filter (fun _ score => score ≠ 0) a).names =
        (Table.filter (fun _ score => score ≠ 0) b).names := by
      refine Table.names_eq_of_contains fun d => ?_
      rw [contains_filter_hits, contains_filter_hits, matching]
    exact names

theorem SameDocuments.ext {a b : ResultSet} (same : a.SameDocuments b)
    (scores : ∀ d, a.relevance d = b.relevance d) : a = b := by
  refine ext_relevance (fun d => ?_) scores
  rw [Bool.eq_iff_iff, ← mem_documents_iff, ← mem_documents_iff, same.listed]

section

variable (scoring : Scoring) (a b : ResultSet) (d : String)

theorem hits_union : (a.union b scoring.combine).hits d = (a.hits d || b.hits d) :=
  Operator.or.hits_apply scoring a b d

theorem hits_intersect : (a.intersect b scoring.combine).hits d = (a.hits d && b.hits d) :=
  Operator.and.hits_apply scoring a b d

theorem hits_difference : (a.difference b).hits d = (a.hits d && !b.hits d) := by
  rw [hits, relevance_difference, survivesDifference_relevance]
  cases b.hits d with
  | true => simp
  | false => simp [hits]

end

structure Distributive (scoring : Scoring) (same : ResultSet → ResultSet → Prop) : Prop where
  intersect_union : ∀ a b c : ResultSet,
    same (a.intersect (b.union c scoring.combine) scoring.combine)
      ((a.intersect b scoring.combine).union (a.intersect c scoring.combine) scoring.combine)
  union_intersect : ∀ a b c : ResultSet,
    same ((a.union b scoring.combine).intersect c scoring.combine)
      ((a.intersect c scoring.combine).union (b.intersect c scoring.combine) scoring.combine)
  difference_intersect : ∀ a b c : ResultSet,
    same (a.difference (b.intersect c scoring.combine))
      ((a.difference b).union (a.difference c) scoring.combine)

/-- Each law holds of truth values, and whether a document is listed or matches is one. -/
theorem distributive_sameDocuments (scoring : Scoring) : Distributive scoring SameDocuments where
  intersect_union a b c := by
    refine sameDocuments_of_hits (fun d => ?_) fun d => ?_
    · simp only [contains_intersect, contains_union, Bool.or_self]
    · simp only [hits_intersect, hits_union, Bool.and_or_distrib_left]
  union_intersect a b c := by
    refine sameDocuments_of_hits (fun d => ?_) fun d => ?_
    · simp only [contains_intersect, contains_union]
    · simp only [hits_intersect, hits_union, Bool.and_or_distrib_right]
  difference_intersect a b c := by
    refine sameDocuments_of_hits (fun d => ?_) fun d => ?_
    · simp only [contains_difference, contains_union, survivesDifference_relevance, hits_intersect,
        Bool.not_and, Bool.and_or_distrib_left]
    · simp only [hits_difference, hits_union, hits_intersect, Bool.not_and,
        Bool.and_or_distrib_left]

theorem distributive_max : Distributive .max (· = ·) where
  intersect_union a b c := by
    refine ((distributive_sameDocuments .max).intersect_union a b c).ext fun d => ?_
    simp only [relevance_intersect, relevance_union_scoring, intersectScore_max_distrib]
  union_intersect a b c := by
    refine ((distributive_sameDocuments .max).union_intersect a b c).ext fun d => ?_
    simp only [relevance_intersect, relevance_union_scoring, intersectScore_max_distrib_right]
  difference_intersect a b c := by
    refine ((distributive_sameDocuments .max).difference_intersect a b c).ext fun d => ?_
    simp only [relevance_union_scoring, relevance_difference, survivesDifference_relevance,
      hits_intersect]
    -- A document that stays has its score from the left side, once or on both sides of the union.
    cases b.hits d <;> cases c.hits d <;>
      simp [Scoring.combine_zero_right, Scoring.combine_zero_left, Scoring.combine_max_self]

theorem difference_union_right (scoring : Scoring) (a b c : ResultSet) :
    a.difference (b.union c scoring.combine) = (a.difference b).difference c := by
  refine ext_relevance (fun d => ?_) fun d => ?_
  · simp only [contains_difference, survivesDifference_relevance, hits_union, Bool.not_or,
      Bool.and_assoc]
  · simp only [relevance_difference, survivesDifference_relevance, hits_union]
    cases b.hits d <;> cases c.hits d <;> rfl

/-- The operators distribute over each other, as sets when the larger score is kept and up to scores
when scores are added. A union is taken away side by side under either policy. -/
theorem operators_distribute :
    Distributive .max (· = ·) ∧ Distributive .sum SameDocuments ∧
      ∀ (scoring : Scoring) (a b c : ResultSet),
        a.difference (b.union c scoring.combine) = (a.difference b).difference c :=
  ⟨distributive_max, distributive_sameDocuments .sum, difference_union_right⟩

/-- Added scores count a document that stays on both sides of the union twice. -/
example :
    let a : ResultSet := .ofList [("docA", 1)]
    let apart := (a.difference ∅).union (a.difference ∅) Scoring.sum.combine
    a.difference (ResultSet.intersect ∅ ∅ Scoring.sum.combine) = a ∧ apart = .ofList [("docA", 2)] := by
  decide

end ResultSet

end TermSearch
