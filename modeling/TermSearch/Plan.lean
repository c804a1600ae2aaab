import TermSearch.Token
import TermSearch.Error
import TermSearch.ResultSet

/-!
Operators before the seed are skipped, a plain term behind it is joined by an implicit `AND`, and
the token behind an operator is its operand as it stands.
-/

namespace TermSearch

structure Step where
  operator : Operator
  term : String
  implicit : Bool
deriving DecidableEq, Repr

structure Plan where
  seed : String
  steps : List Step := []
  exclusions : List String := []
  dangling : Option Operator := none
deriving DecidableEq, Repr

namespace Plan

/-- What the next token is taken for: a seed, a term to join, or the operand of an operator. -/
inductive Stage where
  | seeking
  | joining
  | operand (operator : Operator)
deriving DecidableEq, Repr

structure Draft where
  stage : Stage := .seeking
  seed : String := ""
  steps : List Step := []
  exclusions : List String := []
deriving DecidableEq, Repr

namespace Draft

def addStep (draft : Draft) (step : Step) : Draft :=
  { draft with steps := draft.steps ++ [step] }

def addExclusion (draft : Draft) (term : String) : Draft :=
  { draft with exclusions := draft.exclusions ++ [term] }

def step (draft : Draft) (raw : String) : Draft :=
  match draft.stage with
  | .seeking =>
    match Token.classify raw with
    | .term term => { draft with stage := .joining, seed := term }
    | .exclude term => draft.addExclusion term
    | .operator _ => draft
  | .joining =>
    match Token.classify raw with
    | .term term => draft.addStep ⟨.and, term, true⟩
    | .exclude term => draft.addExclusion term
    | .operator operator => { draft with stage := .operand operator }
  | .operand operator => { draft.addStep ⟨operator, raw, false⟩ with stage := .joining }

def finish (draft : Draft) : Except QueryError Plan :=
  match draft.stage with
  | .seeking => .error .noValidTerm
  | .joining => .ok ⟨draft.seed, draft.steps, draft.exclusions, none⟩
  | .operand operator => .ok ⟨draft.seed, draft.steps, draft.exclusions, some operator⟩

end Draft

def parse (tokens : List String) : Except QueryError Plan := (tokens.foldl Draft.step {}).finish

def lookups (plan : Plan) : List String :=
  plan.seed :: plan.steps.map (·.term) ++ plan.exclusions

end Plan

def Step.tokens (step : Step) : List String :=
  if step.implicit then [step.term] else [step.operator.word, step.term]

def Plan.tokens (plan : Plan) : List String :=
  plan.exclusions.map Token.excluding ++ plan.seed :: plan.steps.flatMap Step.tokens ++
    (plan.dangling.map Operator.word).toList

def Step.WellFormed (step : Step) : Prop :=
  step.implicit = true → step.operator = .and ∧ Token.Plain step.term

instance (step : Step) : Decidable step.WellFormed := inferInstanceAs (Decidable (_ → _))

def Plan.WellFormed (plan : Plan) : Prop :=
  Token.Plain plan.seed ∧ ∀ step ∈ plan.steps, step.WellFormed

instance (plan : Plan) : Decidable plan.WellFormed := inferInstanceAs (Decidable (_ ∧ _))

namespace Operator

def apply (operator : Operator) (combine : Combiner) (result other : ResultSet) : ResultSet :=
  match operator with
  | .and => result.intersect other combine
  | .or => result.union other combine

def applyEntry (operator : Operator) (combine : Combiner) (result other : Option Relevance) :
    Option Relevance :=
  match operator with
  | .and => result.map fun score => intersectScore combine score (other.getD 0)
  | .or =>
    if result.isSome || other.isSome then some (unionScore combine (result.getD 0) (other.getD 0))
    else none

def truth : Operator → Bool → Bool → Bool
  | .and, a, b => a && b
  | .or, a, b => a || b

end Operator

namespace Plan

def joined (combine : Combiner) (counts : String → ResultSet) (plan : Plan) : ResultSet :=
  plan.steps.foldl (fun result step => step.operator.apply combine result (counts step.term))
    (counts plan.seed)

def joinSteps (combine : Combiner) (counts : String → ResultSet) (steps : List Step)
    (result : ResultSet) : ResultSet :=
  steps.foldl (fun result step => step.operator.apply combine result (counts step.term)) result

def evaluate (combine : Combiner) (counts : String → ResultSet) (plan : Plan) : ResultSet :=
  plan.exclusions.foldl (fun result term => result.difference (counts term))
    (plan.joined combine counts)

section

variable {m : Type → Type} [Monad m] (ask : String → m ResultSet) (combine : Combiner)

def joinedM (seed : String) (steps : List Step) : m ResultSet := do
  let result ← ask seed
  steps.foldlM (fun result step => return step.operator.apply combine result (← ask step.term)) result

def evaluateM (plan : Plan) : m ResultSet := do
  let joined ← joinedM ask combine plan.seed plan.steps
  plan.exclusions.foldlM (fun result term => return result.difference (← ask term)) joined

end

/-- The fold of a plan on one document, of which `entry` gives the count under each term. -/
def entryAt (combine : Combiner) (entry : String → Option Relevance) (plan : Plan) :
    Option Relevance :=
  plan.exclusions.foldl
    (fun result term => result.filter fun _ => survivesDifference ((entry term).getD 0))
    (plan.steps.foldl
      (fun result step => step.operator.applyEntry combine result (entry step.term))
      (entry plan.seed))

/-- Whether a document of which `found` tells the terms it contains answers the plan. -/
def holds (found : String → Bool) (plan : Plan) : Bool :=
  plan.steps.foldl (fun truth step => step.operator.truth truth (found step.term))
      (found plan.seed) &&
    plan.exclusions.all fun term => !found term

theorem joined_eq_joinSteps (combine : Combiner) (counts : String → ResultSet) (plan : Plan) :
    plan.joined combine counts = joinSteps combine counts plan.steps (counts plan.seed) := rfl

theorem joinSteps_append (combine : Combiner) (counts : String → ResultSet) (steps more : List Step)
    (result : ResultSet) :
    joinSteps combine counts (steps ++ more) result =
      joinSteps combine counts more (joinSteps combine counts steps result) := List.foldl_append

end Plan

theorem Operator.find?_apply (operator : Operator) (c : Combiner) (a b : ResultSet) (d : String) :
    (operator.apply c a b).find? d = operator.applyEntry c (a.find? d) (b.find? d) := by
  cases operator
  · exact ResultSet.find?_intersect a b c d
  · exact ResultSet.find?_union a b c d

end TermSearch
