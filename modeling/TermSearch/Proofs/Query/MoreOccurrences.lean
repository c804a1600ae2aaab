import TermSearch.Proofs.Query.OneDocument

namespace TermSearch

namespace ResultSet

/-- Every entry of `a` is an entry of `b`, with an equal or larger score. -/
structure Below (a b : ResultSet) : Prop where
  contains : ∀ d, a.contains d = true → b.contains d = true
  relevance : ∀ d, a.relevance d ≤ b.relevance d

variable {a b x y : ResultSet} {combine : Combiner}

theorem Below.refl (a : ResultSet) : a.Below a where
  contains _ := id
  relevance _ := UInt32.le_refl _

theorem Below.ne_zero (below : a.Below b) {d : String} (hit : a.relevance d ≠ 0) :
    b.relevance d ≠ 0 := by
  intro zero
  have le := below.relevance d
  rw [zero] at le
  exact hit (UInt32.le_zero_iff.mp le)

theorem Below.union (lawful : combine.Lawful) (left : a.Below b) (right : x.Below y) :
    (a.union x combine).Below (b.union y combine) where
  contains d present := by
    rw [contains_union, Bool.or_eq_true] at present ⊢
    exact present.imp (left.contains d) (right.contains d)
  relevance d := by
    rw [relevance_union, relevance_union]
    split
    · next present =>
      rw [Bool.or_eq_true] at present
      have kept := present.imp (left.contains d) (right.contains d)
      rw [← Bool.or_eq_true] at kept
      rw [if_pos kept]
      exact lawful.le (left.relevance d) (right.relevance d)
    · exact UInt32.zero_le

theorem Below.intersect (lawful : combine.Lawful) (left : a.Below b) (right : x.Below y) :
    (a.intersect x combine).Below (b.intersect y combine) where
  contains d present := by
    rw [contains_intersect] at present ⊢
    exact left.contains d present
  relevance d := by
    rw [relevance_intersect, relevance_intersect]
    unfold intersectScore
    split
    · next hits =>
      rw [if_pos ⟨left.ne_zero hits.1, right.ne_zero hits.2⟩]
      exact lawful.le (left.relevance d) (right.relevance d)
    · exact UInt32.zero_le

theorem Below.difference (left : a.Below b)
    (fewer : ∀ d, y.relevance d ≠ 0 → x.relevance d ≠ 0) :
    (a.difference x).Below (b.difference y) := by
  have survives (d : String) (kept : survivesDifference (x.relevance d) = true) :
      survivesDifference (y.relevance d) = true := by
    unfold survivesDifference at kept ⊢
    rw [beq_iff_eq] at kept ⊢
    exact Decidable.byContradiction fun matched => fewer d matched kept
  constructor
  · intro d present
    rw [contains_difference, Bool.and_eq_true] at present ⊢
    exact ⟨left.contains d present.1, survives d present.2⟩
  · intro d
    rw [relevance_difference, relevance_difference]
    split
    · next kept =>
      rw [if_pos (survives d kept)]
      exact left.relevance d
    · exact UInt32.zero_le

theorem below_insert_plus (set : ResultSet) (document : String) (count : Relevance) :
    set.Below (set.insert document ((set.relevance document).plus count)) where
  contains d present := by
    rw [Table.contains, Table.find?_insert]
    split
    · rfl
    · exact present
  relevance d := by
    unfold relevance
    rw [Table.find?_insert]
    split
    · next here =>
      have bound := (set.relevance document).toNat_le_limit
      rw [here, Option.getD_some, UInt32.le_iff_toNat_le, Relevance.toNat_plus]
      exact Nat.le_min.mpr ⟨Nat.le_add_right _ _, bound⟩
    · exact UInt32.le_refl _

end ResultSet

open ResultSet (Below)

theorem Operator.below_apply (operator : Operator) {combine : Combiner} (lawful : combine.Lawful)
    {a b x y : ResultSet} (left : a.Below b) (right : x.Below y) :
    (operator.apply combine a x).Below (operator.apply combine b y) := by
  cases operator with
  | and => exact left.intersect lawful right
  | or => exact left.union lawful right

namespace Plan

/-- The plan finds no less: entries of searched terms are kept with counts at least as large, and no
document is newly matched by an excluded term. -/
structure FindsMore (plan : Plan) (counts others : String → ResultSet) : Prop where
  searched : ∀ term ∈ plan.seed :: plan.steps.map (·.term), (counts term).Below (others term)
  excluded : ∀ term ∈ plan.exclusions, ∀ d,
    (others term).relevance d ≠ 0 → (counts term).relevance d ≠ 0

variable {combine : Combiner} {counts others : String → ResultSet} {plan : Plan}

theorem FindsMore.below_joined (more : plan.FindsMore counts others) (lawful : combine.Lawful) :
    (plan.joined combine counts).Below (plan.joined combine others) := by
  refine List.foldl_rel (more.searched plan.seed List.mem_cons_self) ?_
  intro step member result other below
  have found := more.searched step.term (List.mem_cons_of_mem _ (List.mem_map_of_mem member))
  exact step.operator.below_apply lawful below found

theorem FindsMore.below_evaluate (more : plan.FindsMore counts others) (lawful : combine.Lawful) :
    (plan.evaluate combine counts).Below (plan.evaluate combine others) := by
  refine List.foldl_rel (more.below_joined lawful) ?_
  intro term member result other below
  exact below.difference (more.excluded term member)

theorem find?_evaluate_congr {d : String}
    (same : ∀ term, (others term).find? d = (counts term).find? d) :
    (plan.evaluate combine others).find? d = (plan.evaluate combine counts).find? d := by
  rw [find?_evaluate, find?_evaluate]
  simp only [same]

end Plan

namespace Index

variable (index : Index) (term document : String) (count : Relevance)

theorem below_counts_add (other : String) :
    (index.counts other).Below ((index.add term document count).counts other) := by
  rw [counts_add]
  split
  · next here =>
    rw [here]
    exact ResultSet.below_insert_plus (index.counts term) document count
  · exact Below.refl _

theorem findsMore_add {plan : Plan} (kept : term ∉ plan.exclusions) :
    plan.FindsMore index.counts (index.add term document count).counts where
  searched other _ := below_counts_add index term document count other
  excluded other member d matched := by
    have different : other ≠ term := fun same => kept (same ▸ member)
    rwa [counts_add, if_neg different] at matched

theorem find?_counts_add {d : String} (elsewhere : d ≠ document) (other : String) :
    ((index.add term document count).counts other).find? d = (index.counts other).find? d := by
  rw [counts_add]
  split
  · next here => rw [Table.find?_insert, if_neg elsewhere, here]
  · rfl

end Index

namespace Query

/-- Under a combiner that keeps to its contract, a source that finds more gives every entry of the
result again, scored no lower. So does an index to which a term that is not excluded was added in one
document, and all other documents are as before. -/
theorem execute_finds_more {combine : Combiner} (lawful : combine.Lawful) (plan : Plan) :
    (∀ {σ τ : Type} {source : Source σ} {other : Source τ} {counts others : String → ResultSet}
      {progress : Progress σ} {progress' : Progress τ},
      source.Serves counts progress.source → other.Serves others progress'.source →
      plan.FindsMore counts others →
      ∃ result final result' final',
        execute source combine plan progress = (.ok result, final) ∧
          execute other combine plan progress' = (.ok result', final') ∧ result.Below result') ∧
    ∀ (index : Index) (term document : String) (count : Relevance) (progress : Progress Unit),
      term ∉ plan.exclusions →
      ∃ result final result' final',
        execute (.ofIndex index) combine plan progress = (.ok result, final) ∧
          execute (.ofIndex (index.add term document count)) combine plan progress =
            (.ok result', final') ∧
          result.Below result' ∧ ∀ d, d ≠ document → result'.find? d = result.find? d := by
  constructor
  · intro σ τ source other counts others progress progress' serves serves' more
    exact ⟨_, _, _, _, execute_of_serves serves combine plan, execute_of_serves serves' combine plan,
      more.below_evaluate lawful⟩
  · intro index term document count progress kept
    have serves := Source.serves_ofCounts index.counts progress.source
    have serves' := Source.serves_ofCounts (index.add term document count).counts progress.source
    have more := index.findsMore_add term document count kept
    refine ⟨_, _, _, _, execute_of_serves serves combine plan,
      execute_of_serves serves' combine plan, more.below_evaluate lawful, ?_⟩
    intro d elsewhere
    exact Plan.find?_evaluate_congr (index.find?_counts_add term document count elsewhere)

/-- A combiner that scores even two zeros. First the documents of `bird`, which is excluded, are taken
out of the index; then `dog` is added to `docB`. -/
theorem execute_finds_more_probe :
    let combine : Combiner := fun a b => (a.plus b).plus 1
    let plan : Plan := ⟨"cat", [⟨.or, "dog", false⟩, ⟨.and, "dog", true⟩], ["bird"], none⟩
    let birdless : Index := Probe.index.insertTerm "bird" ∅
    let more : Index := Probe.index.add "dog" "docB" 4
    (∃ result final result' final',
      execute (.ofIndex Probe.index) combine plan { source := () } = (.ok result, final) ∧
        execute (.ofIndex birdless) combine plan { source := () } = (.ok result', final') ∧
        result.Below result') ∧
      ∃ result final result' final',
        execute (.ofIndex Probe.index) combine plan { source := () } = (.ok result, final) ∧
          execute (.ofIndex more) combine plan { source := () } = (.ok result', final') ∧
          result.Below result' ∧ result'.find? "docA" = result.find? "docA" := by
  intro combine plan birdless more
  have lawful : combine.Lawful := by
    have sum := Scoring.sum.lawful_combine
    constructor
    · intro a b
      exact congrArg (Relevance.plus · 1) (sum.symmetric a b)
    · intro a a' b le
      exact sum.le (sum.monotone a a' b le) (UInt32.le_refl 1)
  have unfound : plan.FindsMore Probe.index.counts birdless.counts := by
    constructor
    · intro term member
      have kept : term ≠ "bird" := by
        rintro rfl
        exact absurd member (by decide)
      rw [Index.counts_insertTerm, if_neg kept]
      exact Below.refl _
    · intro term member d matched
      obtain rfl := List.mem_singleton.mp member
      rw [Index.counts_insertTerm, if_pos rfl] at matched
      exact absurd rfl matched
  obtain ⟨general, added⟩ := execute_finds_more lawful plan
  have serves := Source.serves_ofCounts Probe.index.counts ()
  refine ⟨general serves (Source.serves_ofCounts birdless.counts ()) unfound, ?_⟩
  obtain ⟨result, final, result', final', before, after, below, elsewhere⟩ :=
    added Probe.index "dog" "docB" 4 { source := () } (by decide)
  exact ⟨result, final, result', final', before, after, below, elsewhere "docA" (by decide)⟩

end Query

end TermSearch
