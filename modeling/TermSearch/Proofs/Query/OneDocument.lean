import TermSearch.Probe
import TermSearch.Proofs.ResultSet.Deletion
import TermSearch.Query.Steady

/-! What a query gives for a document is computed from the entries of that document alone. -/

namespace TermSearch

namespace Plan

variable (combine : Combiner) (counts : String → ResultSet) (plan : Plan) (d : String)

theorem find?_joined :
    (plan.joined combine counts).find? d =
      plan.steps.foldl
        (fun entry step => step.operator.applyEntry combine entry ((counts step.term).find? d))
        ((counts plan.seed).find? d) := by
  have merged : ∀ (result : ResultSet) (step : Step),
      step.operator.applyEntry combine (result.find? d) ((counts step.term).find? d) =
        (step.operator.apply combine result (counts step.term)).find? d :=
    fun result step => (step.operator.find?_apply combine result (counts step.term) d).symm
  exact (List.foldl_hom (fun result : ResultSet => result.find? d) merged).symm

theorem find?_evaluate :
    (plan.evaluate combine counts).find? d =
      plan.entryAt combine fun term => (counts term).find? d := by
  have taken : ∀ (result : ResultSet) (term : String),
      ((result.find? d).filter fun _ => survivesDifference (((counts term).find? d).getD 0)) =
        (result.difference (counts term)).find? d :=
    fun result term => (ResultSet.find?_difference result (counts term) d).symm
  unfold evaluate entryAt
  rw [← find?_joined combine counts plan d]
  exact (List.foldl_hom (fun result : ResultSet => result.find? d) taken).symm

end Plan

theorem ResultSet.find?_foldl_difference (counts : String → ResultSet) (terms : List String)
    (result : ResultSet) (d : String) :
    (terms.foldl (fun result term => result.difference (counts term)) result).find? d =
      if terms.all fun term => survivesDifference ((counts term).relevance d) then result.find? d
      else none := by
  have gone : (terms.any fun term => (counts term).relevance d != 0) =
      !terms.all fun term => survivesDifference ((counts term).relevance d) :=
    List.not_all_eq_any_not.symm
  rw [foldl_difference_eq_deleting, find?_deleting, gone]
  cases terms.all fun term => survivesDifference ((counts term).relevance d) <;> rfl

theorem Plan.find?_evaluate_eq_ite (combine : Combiner) (counts : String → ResultSet) (plan : Plan)
    (d : String) :
    (plan.evaluate combine counts).find? d =
      if plan.exclusions.all fun term => survivesDifference ((counts term).relevance d) then
        (plan.joined combine counts).find? d
      else none :=
  ResultSet.find?_foldl_difference counts plan.exclusions _ d

namespace Query

/-- For every combiner, presence and score of a document in the result are those that the rules for
a single document give along the plan. -/
theorem execute_by_document {σ : Type} {source : Source σ} {counts : String → ResultSet}
    {progress : Progress σ} (serves : source.Serves counts progress.source) (combine : Combiner)
    (plan : Plan) :
    ∃ result final, execute source combine plan progress = (.ok result, final) ∧
      ∀ document,
        let entry := plan.entryAt combine fun term => (counts term).find? document
        result.contains document = entry.isSome ∧ result.relevance document = entry.getD 0 := by
  refine ⟨_, _, execute_of_serves serves combine plan, ?_⟩
  intro document
  have entry := Plan.find?_evaluate combine counts plan document
  exact ⟨congrArg Option.isSome entry, congrArg (·.getD 0) entry⟩

/-- A combiner that keeps its left side tells the two sides apart: `docC` joins by its count under
`bird` with a score of zero. -/
theorem execute_by_document_probe :
    let plan : Plan := ⟨"cat", [⟨.or, "bird", false⟩, ⟨.and, "dog", true⟩], ["-dog"], none⟩
    ∃ result final,
      execute (.ofIndex Probe.index) (fun left _ => left) plan { source := () } =
          (.ok result, final) ∧
        result.relevance "docA" = 2 ∧ result.contains "docC" = true ∧
        result.relevance "docC" = 0 ∧ result.contains "docD" = false := by
  intro plan
  have serves := Source.serves_ofCounts Probe.index.counts ()
  obtain ⟨result, final, executed, same⟩ := execute_by_document serves (fun left _ => left) plan
  obtain ⟨-, kept⟩ := same "docA"
  obtain ⟨joined, zero⟩ := same "docC"
  obtain ⟨absent, -⟩ := same "docD"
  exact ⟨result, final, executed, kept.trans (by decide), joined.trans (by decide),
    zero.trans (by decide), absent.trans (by decide)⟩

end Query

namespace ResultSet

def hits (set : ResultSet) (document : String) : Bool := set.relevance document != 0

theorem survivesDifference_relevance (set : ResultSet) (d : String) :
    survivesDifference (set.relevance d) = !set.hits d := by
  simp [survivesDifference, hits, bne]

theorem mem_matching_documents_iff {set : ResultSet} {d : String} :
    d ∈ set.matching.map (·.1) ↔ set.hits d = true := by
  simp only [List.mem_map, Prod.exists, mem_matching_iff, exists_and_right, exists_eq_right]
  constructor
  · rintro ⟨score, present, positive⟩
    simpa [hits, relevance, present] using positive
  · intro hit
    cases entry : set.find? d with
    | none => simp [hits, relevance, entry] at hit
    | some score => exact ⟨score, rfl, by simpa [hits, relevance, entry] using hit⟩

theorem relevance_union_scoring (scoring : Scoring) (a b : ResultSet) (d : String) :
    (a.union b scoring.combine).relevance d =
      scoring.combine (a.relevance d) (b.relevance d) :=
  relevance_union_of_zero scoring.combine_zero a b d

end ResultSet

theorem Operator.hits_apply (operator : Operator) (scoring : Scoring) (a b : ResultSet)
    (d : String) :
    (operator.apply scoring.combine a b).hits d = operator.truth (a.hits d) (b.hits d) := by
  have zero := scoring.combine_eq_zero_iff (a.relevance d) (b.relevance d)
  rw [Bool.eq_iff_iff]
  cases operator with
  | and =>
    have score := ResultSet.relevance_intersect a b scoring.combine d
    unfold intersectScore at score
    simp only [apply, truth, ResultSet.hits, score, bne_iff_ne, Bool.and_eq_true]
    split <;> simp_all
  | or =>
    have score := ResultSet.relevance_union_scoring scoring a b d
    simp only [apply, truth, ResultSet.hits, score, bne_iff_ne, Bool.or_eq_true, ne_eq, zero]
    exact Decidable.not_and_iff_not_or_not

namespace Plan

variable (scoring : Scoring) (counts : String → ResultSet) (plan : Plan) (d : String)

theorem hits_joined :
    (plan.joined scoring.combine counts).hits d =
      plan.steps.foldl (fun truth step => step.operator.truth truth ((counts step.term).hits d))
        ((counts plan.seed).hits d) := by
  have merged : ∀ (result : ResultSet) (step : Step),
      step.operator.truth (result.hits d) ((counts step.term).hits d) =
        (step.operator.apply scoring.combine result (counts step.term)).hits d :=
    fun result step => (step.operator.hits_apply scoring result (counts step.term) d).symm
  exact (List.foldl_hom (fun result : ResultSet => result.hits d) merged).symm

theorem hits_evaluate :
    (plan.evaluate scoring.combine counts).hits d =
      plan.holds fun term => (counts term).hits d := by
  have entry := find?_evaluate_eq_ite scoring.combine counts plan d
  simp only [ResultSet.survivesDifference_relevance] at entry
  unfold holds
  rw [← hits_joined scoring counts plan d]
  split at entry
  · next kept => rw [kept, Bool.and_true, ResultSet.hits, ResultSet.relevance, entry]; rfl
  · next taken =>
    rw [Bool.not_eq_true] at taken
    rw [taken, Bool.and_false, ResultSet.hits, ResultSet.relevance, entry]
    rfl

end Plan

namespace Query

/-- The documents that match the result are those of which the plan holds, read as a Boolean formula
over the terms that have a non-zero count for the document. -/
theorem matching_iff_holds {σ : Type} {source : Source σ} {counts : String → ResultSet}
    {progress : Progress σ} (serves : source.Serves counts progress.source) (scoring : Scoring)
    (plan : Plan) :
    ∃ result final, execute source scoring.combine plan progress = (.ok result, final) ∧
      ∀ document, document ∈ result.matching.map (·.1) ↔
        plan.holds (fun term => (counts term).relevance document != 0) = true := by
  refine ⟨_, _, execute_of_serves serves scoring.combine plan, ?_⟩
  intro document
  rw [ResultSet.mem_matching_documents_iff, Plan.hits_evaluate]
  rfl

/-- `docC` fails the `AND` and is brought back by the `OR` after it; `docA` is left out. -/
theorem matching_iff_holds_probe :
    let plan : Plan := ⟨"dog", [⟨.and, "cat", true⟩, ⟨.or, "bird", false⟩], ["cat"], none⟩
    ∃ result final,
      execute (.ofIndex Probe.index) Scoring.max.combine plan { source := () } =
          (.ok result, final) ∧
        "docC" ∈ result.matching.map (·.1) ∧ "docA" ∉ result.matching.map (·.1) := by
  intro plan
  have serves := Source.serves_ofCounts Probe.index.counts ()
  obtain ⟨result, final, executed, matched⟩ := matching_iff_holds serves .max plan
  refine ⟨result, final, executed, (matched "docC").mpr (by decide), ?_⟩
  intro listed
  exact absurd ((matched "docA").mp listed) (by decide)

end Query

theorem Operator.contains_apply (operator : Operator) (combine : Combiner) (a b : ResultSet)
    (d : String) :
    (operator.apply combine a b).contains d =
      (a.contains d || decide (operator = .or) && b.contains d) := by
  cases operator with
  | and => simp [apply]
  | or => simp [apply]

namespace Plan

def admitting (plan : Plan) : List String :=
  plan.seed :: (plan.steps.filter (·.operator = .or)).map (·.term)

variable (combine : Combiner) (counts : String → ResultSet) (plan : Plan) (d : String)

theorem contains_joinSteps (steps : List Step) (start : ResultSet) :
    (joinSteps combine counts steps start).contains d =
      (start.contains d ||
        ((steps.filter (·.operator = .or)).map (·.term)).any fun term => (counts term).contains d) := by
  induction steps generalizing start with
  | nil => simp [joinSteps]
  | cons step rest ih =>
    rw [joinSteps, List.foldl_cons, ← joinSteps, ih, Operator.contains_apply, List.filter_cons]
    by_cases joins : step.operator = .or <;> simp [joins, Bool.or_assoc]

theorem contains_evaluate :
    (plan.evaluate combine counts).contains d =
      (!plan.excludes counts d && plan.admitting.any fun term => (counts term).contains d) := by
  have joined : (plan.joined combine counts).contains d =
      plan.admitting.any fun term => (counts term).contains d :=
    contains_joinSteps combine counts d plan.steps (counts plan.seed)
  rw [evaluate_eq_deleting, ResultSet.contains_deleting, joined]

theorem documents_evaluate_congr {plan other : Plan}
    (admitted : ∀ term, term ∈ other.admitting ↔ term ∈ plan.admitting)
    (excluded : ∀ term, term ∈ other.exclusions ↔ term ∈ plan.exclusions) (combine' : Combiner) :
    (other.evaluate combine' counts).documents = (plan.evaluate combine counts).documents := by
  refine Table.names_eq_of_contains fun d => ?_
  have barred : other.excludes counts d = plan.excludes counts d := by
    rw [Bool.eq_iff_iff]
    simp only [excludes, List.any_eq_true, excluded]
  have present : (other.admitting.any fun term => (counts term).contains d) =
      plan.admitting.any fun term => (counts term).contains d := by
    rw [Bool.eq_iff_iff]
    simp only [List.any_eq_true, admitted]
  rw [contains_evaluate, contains_evaluate, barred, present]

end Plan

namespace Query

/-- The documents of a result are those listed under the seed or under the term of an `OR` step,
without those that an excluded term matches; no other part of the plan, and no combiner, changes
which they are. -/
theorem execute_documents {σ : Type} {source : Source σ} {counts : String → ResultSet}
    {progress : Progress σ} (serves : source.Serves counts progress.source) (combine : Combiner)
    (plan : Plan) :
    ∃ result final, execute source combine plan progress = (.ok result, final) ∧
      (∀ document, document ∈ result.documents ↔
        ((counts plan.seed).contains document = true ∨
            ∃ step ∈ plan.steps, step.operator = .or ∧ (counts step.term).contains document = true) ∧
          ∀ term ∈ plan.exclusions, (counts term).relevance document = 0) ∧
      ∀ (combine' : Combiner) (other : Plan),
        (∀ term, term ∈ other.admitting ↔ term ∈ plan.admitting) →
        (∀ term, term ∈ other.exclusions ↔ term ∈ plan.exclusions) →
        ∃ result' final', execute source combine' other progress = (.ok result', final') ∧
          result'.documents = result.documents := by
  refine ⟨_, _, execute_of_serves serves combine plan, ?_, ?_⟩
  · intro document
    rw [ResultSet.mem_documents_iff, Plan.contains_evaluate]
    simp [Plan.excludes, Plan.admitting, and_comm]
  · intro combine' other admitted excluded
    exact ⟨_, _, execute_of_serves serves combine' other,
      Plan.documents_evaluate_congr combine counts admitted excluded combine'⟩

/-- `docC` comes in under `dog` and fails the `AND`; `docA` is matched by the exclusion. Without the
`AND`, and with the other two terms exchanged, the same documents are returned. -/
theorem execute_documents_probe :
    let plan : Plan :=
      ⟨"bird", [⟨.or, "dog", false⟩, ⟨.and, "-dog", false⟩, ⟨.or, "AND", false⟩], ["cat"], some .or⟩
    let other : Plan := ⟨"dog", [⟨.or, "AND", false⟩, ⟨.or, "bird", false⟩], ["cat", "cat"], none⟩
    ∃ result final result' final',
      execute (.ofIndex Probe.index) Scoring.sum.combine plan { source := () } =
          (.ok result, final) ∧
        execute (.ofIndex Probe.index) (fun _ _ => 7) other { source := () } =
          (.ok result', final') ∧
        "docC" ∈ result.documents ∧ "docA" ∉ result.documents ∧
        result'.documents = result.documents := by
  intro plan other
  have serves := Source.serves_ofCounts Probe.index.counts ()
  obtain ⟨result, final, executed, returned, same⟩ :=
    execute_documents serves Scoring.sum.combine plan
  have admitted : ∀ term, term ∈ other.admitting ↔ term ∈ plan.admitting := by
    intro term
    have listed : other.admitting.Perm plan.admitting := by decide
    exact listed.mem_iff
  have excluded : ∀ term, term ∈ other.exclusions ↔ term ∈ plan.exclusions := by
    simp [plan, other]
  obtain ⟨result', final', executed', documents⟩ := same (fun _ _ => 7) other admitted excluded
  refine ⟨result, final, result', final', executed, executed', ?_, ?_, documents⟩
  · exact (returned "docC").mpr (by decide)
  · intro listed
    exact absurd ((returned "docA").mp listed).2 (by decide)

end Query

end TermSearch
