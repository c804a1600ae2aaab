import TermSearch.Probe
import TermSearch.Proofs.ResultSet.Deletion
import TermSearch.Query.Steady
import TermSearch.Proofs.Plan.Written

/-!
Deletion goes through each step of a plan, and an exclusion leaves the draft at the stage it was in.
-/

namespace TermSearch

namespace Source

variable {σ : Type} {source : Source σ} {counts : String → ResultSet} {state : σ}

def deleting (source : Source σ) (gone : String → Bool) : Source σ where
  connect := source.connect
  lookup term state :=
    let (answer, next) := source.lookup term state
    (answer.map fun found => found.deleting gone, next)

theorem after_deleting (gone : String → Bool) (terms : List String) :
    (source.deleting gone).after terms state = source.after terms state := by
  induction terms generalizing state with
  | nil => rfl
  | cons term rest ih => exact ih

theorem Serves.deleting (serves : source.Serves counts state) (gone : String → Bool) :
    (source.deleting gone).Serves (fun term => (counts term).deleting gone) state := by
  intro earlier term
  have asked := serves earlier term
  rw [after_deleting]
  show (source.lookup term _).1.map _ = _
  rw [asked]
  rfl

end Source

theorem Plan.evaluate_deleting_excluded (combine : Combiner) (counts : String → ResultSet)
    (plan : Plan) :
    { plan with exclusions := [] }.evaluate combine
        (fun term => (counts term).deleting (plan.excludes counts)) =
      plan.evaluate combine counts := by
  rw [evaluate_eq_deleting combine counts plan, deleting_joined]
  rfl

namespace Query

/-- The result of a plan is that of the plan without its exclusions, on the source from which every
document that an exclusion matches is deleted; differences go through unions and intersections. -/
theorem execute_deleting_excluded {σ : Type} {source : Source σ} {counts : String → ResultSet}
    {progress : Progress σ} (serves : source.Serves counts progress.source) (combine : Combiner)
    (plan : Plan) :
    (∃ result final reduced,
      execute source combine plan progress = (.ok result, final) ∧
        execute (source.deleting (plan.excludes counts)) combine { plan with exclusions := [] }
          progress = (.ok result, reduced)) ∧
      ∀ a b x : ResultSet,
        (a.union b combine).difference x = (a.difference x).union (b.difference x) combine ∧
          (a.intersect b combine).difference x = (a.difference x).intersect b combine ∧
          (a.intersect b combine).difference x =
            (a.difference x).intersect (b.difference x) combine := by
  constructor
  · have serving := serves.deleting (plan.excludes counts)
    have reduced := execute_of_serves serving combine { plan with exclusions := [] }
    rw [Plan.evaluate_deleting_excluded] at reduced
    exact ⟨_, _, _, execute_of_serves serves combine plan, reduced⟩
  · intro a b x
    exact ⟨a.difference_union b x combine, a.difference_intersect_left b x combine,
      a.difference_intersect b x combine⟩

/-- `cat` is both the seed and an exclusion; of `dog` only `docC` is left to join. -/
theorem execute_deleting_excluded_probe :
    let source := Source.ofIndex Probe.index
    let plan : Plan := ⟨"cat", [⟨.or, "dog", false⟩], ["cat"], none⟩
    ∃ result final reduced,
      execute source Scoring.sum.combine plan { source := () } = (.ok result, final) ∧
        execute (source.deleting (plan.excludes Probe.index.counts)) Scoring.sum.combine
          { plan with exclusions := [] } { source := () } = (.ok result, reduced) ∧
        result = .ofList [("docC", 2)] := by
  intro source plan
  have serves : source.Serves Probe.index.counts (Progress.mk () []).source :=
    Source.serves_ofCounts Probe.index.counts ()
  obtain ⟨⟨result, final, reduced, executed, same⟩, -⟩ :=
    execute_deleting_excluded serves Scoring.sum.combine plan
  have evaluated := execute_of_serves serves Scoring.sum.combine plan
  obtain ⟨value, -⟩ := Prod.mk.inj (executed.symm.trans evaluated)
  have listed : plan.evaluate Scoring.sum.combine Probe.index.counts = .ofList [("docC", 2)] := by
    decide
  exact ⟨result, final, reduced, executed, same, (Except.ok.inj value).trans listed⟩

end Query

namespace Plan

def Draft.withoutExclusions (draft : Draft) : List String → List String
  | [] => []
  | raw :: rest =>
    let next := draft.step raw
    if next.exclusions = draft.exclusions then raw :: next.withoutExclusions rest
    else next.withoutExclusions rest

def withoutExclusions (tokens : List String) : List String := Draft.withoutExclusions {} tokens

theorem Draft.Taken.exclusions {draft next : Draft} {raw : String} (taken : draft.Taken raw next)
    (excluded : List String) :
    next.exclusions = draft.exclusions ∧
        Taken { draft with exclusions := excluded } raw { next with exclusions := excluded } ∨
      next.exclusions ≠ draft.exclusions ∧
        { next with exclusions := excluded } = { draft with exclusions := excluded } := by
  cases taken with
  | idle operator seeking spelled same =>
    subst same
    exact .inl ⟨rfl, .idle operator seeking spelled rfl⟩
  | seed seeking plain found =>
    subst found
    exact .inl ⟨rfl, .seed seeking plain rfl⟩
  | exclusion term free spelled added =>
    subst added
    exact .inr ⟨by simp [addExclusion], rfl⟩
  | term joining plain added =>
    subst added
    exact .inl ⟨rfl, .term joining plain rfl⟩
  | operator operator joining spelled awaited =>
    subst awaited
    exact .inl ⟨rfl, .operator operator joining spelled rfl⟩
  | operand operator awaiting added =>
    subst added
    exact .inl ⟨rfl, .operand operator awaiting rfl⟩

theorem Draft.foldl_withoutExclusions (draft : Draft) (excluded tokens : List String) :
    (draft.withoutExclusions tokens).foldl Draft.step { draft with exclusions := excluded } =
      { tokens.foldl Draft.step draft with exclusions := excluded } := by
  induction tokens generalizing draft with
  | nil => rfl
  | cons raw rest ih =>
    have later := ih (draft.step raw)
    rw [List.foldl_cons]
    rcases (draft.taken_step raw).exclusions excluded with ⟨kept, taken⟩ | ⟨grown, unchanged⟩
    · rw [withoutExclusions, if_pos kept, List.foldl_cons, taken.step_eq, later]
    · rw [withoutExclusions, if_neg grown, ← unchanged, later]

theorem parse_exclusions_first {tokens : List String} {plan : Plan}
    (parsed : parse tokens = .ok plan) (excluded : List String) :
    parse (excluded.map Token.excluding ++ withoutExclusions tokens) =
      .ok { plan with exclusions := excluded } := by
  have others := Draft.foldl_withoutExclusions {} excluded tokens
  rw [Draft.finish_eq_ok_iff.mp parsed] at others
  rw [parse, List.foldl_append, Draft.foldl_only_excluding, Draft.finish_eq_ok_iff,
    withoutExclusions]
  exact others

theorem evaluate_same_exclusions (plan : Plan) {excluded : List String}
    (same : ∀ term, term ∈ excluded ↔ term ∈ plan.exclusions) (combine : Combiner)
    (counts : String → ResultSet) :
    { plan with exclusions := excluded }.evaluate combine counts = plan.evaluate combine counts := by
  have excludes : { plan with exclusions := excluded }.excludes counts = plan.excludes counts := by
    funext document
    rw [Bool.eq_iff_iff]
    simp only [Plan.excludes, List.any_eq_true, same]
  rw [evaluate_eq_deleting, evaluate_eq_deleting, excludes]
  rfl

end Plan

namespace Query

/-- Exclusions of the same terms, written before all other tokens in any order and number, leave the
rest of the plan and every result as they are. -/
theorem run_exclusions_first {tokens : List String} {plan : Plan} {excluded : List String}
    (parsed : Plan.parse tokens = .ok plan)
    (same : ∀ term, term ∈ excluded ↔ term ∈ plan.exclusions) :
    let moved := excluded.map Token.excluding ++ Plan.withoutExclusions tokens
    Plan.parse moved = .ok { plan with exclusions := excluded } ∧
      ∀ {σ : Type} (source : Source σ) (counts : String → ResultSet) (state opened : σ)
        (file : Option OpenFile) (combine : Combiner), source.connect state = (.ok file, opened) →
        source.Serves counts opened →
        ∃ result, (run source combine tokens state).answer = .ok result ∧
          (run source combine moved state).answer = .ok result := by
  intro moved
  have read : Plan.parse moved = .ok { plan with exclusions := excluded } :=
    Plan.parse_exclusions_first parsed excluded
  refine ⟨read, ?_⟩
  intro σ source counts state opened file combine connected serves
  have before := answer_run_eq_evaluate connected serves combine tokens
  have after := answer_run_eq_evaluate connected serves combine moved
  rw [parsed] at before
  rw [read] at after
  refine ⟨plan.evaluate combine counts, before, after.trans ?_⟩
  exact congrArg Except.ok (plan.evaluate_same_exclusions same combine counts)

/-- The operand `-dog` stays where it is; the exclusions of `dog` and `bird` change places. -/
theorem run_exclusions_first_probe :
    let tokens := ["-dog", "cat", "OR", "-dog", "-bird", "-dog", "OR"]
    let moved := ["-bird", "-dog", "-bird", "cat", "OR", "-dog", "OR"]
    Plan.parse moved = .ok ⟨"cat", [⟨.or, "-dog", false⟩], ["bird", "dog", "bird"], some .or⟩ ∧
      ∃ result, (run (.ofIndex Probe.index) Scoring.sum.combine tokens ()).answer = .ok result ∧
        (run (.ofIndex Probe.index) Scoring.sum.combine moved ()).answer = .ok result := by
  intro tokens moved
  have parsed : Plan.parse tokens =
      .ok ⟨"cat", [⟨.or, "-dog", false⟩], ["dog", "bird", "dog"], some .or⟩ := rfl
  have same : ∀ term, term ∈ ["bird", "dog", "bird"] ↔ term ∈ ["dog", "bird", "dog"] := by
    simp [or_comm]
  obtain ⟨read, answers⟩ := run_exclusions_first parsed same
  have serves := Source.serves_ofCounts Probe.index.counts ()
  exact ⟨read, answers (.ofIndex Probe.index) Probe.index.counts () () none Scoring.sum.combine rfl
    serves⟩

end Query

end TermSearch
