import TermSearch.Plan

namespace TermSearch.Plan

/-- What a draft takes a token for, and the draft that comes next. -/
inductive Draft.Taken (draft : Draft) (raw : String) (next : Draft) : Prop
  | idle (operator : Operator) (seeking : draft.stage = .seeking) (spelled : raw = operator.word)
      (same : next = draft)
  | seed (seeking : draft.stage = .seeking) (plain : Token.Plain raw)
      (found : next = { draft with stage := .joining, seed := raw })
  | exclusion (term : String) (free : ∀ operator, draft.stage ≠ .operand operator)
      (spelled : raw = Token.excluding term) (added : next = draft.addExclusion term)
  | term (joining : draft.stage = .joining) (plain : Token.Plain raw)
      (added : next = draft.addStep ⟨.and, raw, true⟩)
  | operator (operator : Operator) (joining : draft.stage = .joining)
      (spelled : raw = operator.word) (awaited : next = { draft with stage := .operand operator })
  | operand (operator : Operator) (awaiting : draft.stage = .operand operator)
      (added : next = { draft.addStep ⟨operator, raw, false⟩ with stage := .joining })

theorem Draft.step_excluding {draft : Draft} (free : ∀ operator, draft.stage ≠ .operand operator)
    (term : String) : draft.step (Token.excluding term) = draft.addExclusion term := by
  cases stage : draft.stage with
  | seeking => simp [step, stage]
  | joining => simp [step, stage]
  | operand operator => exact absurd stage (free operator)

theorem Draft.taken_step (draft : Draft) (raw : String) : draft.Taken raw (draft.step raw) := by
  cases stage : draft.stage with
  | seeking =>
    have free : ∀ operator, draft.stage ≠ .operand operator := by simp [stage]
    rcases Token.spelled_cases raw with ⟨term, rfl⟩ | ⟨operator, rfl⟩ | plain
    · exact .exclusion term free rfl (step_excluding free term)
    · exact .idle operator stage rfl (by simp [step, stage])
    · have read : Token.classify raw = .term raw := plain
      exact .seed stage plain (by simp [step, stage, read])
  | joining =>
    have free : ∀ operator, draft.stage ≠ .operand operator := by simp [stage]
    rcases Token.spelled_cases raw with ⟨term, rfl⟩ | ⟨operator, rfl⟩ | plain
    · exact .exclusion term free rfl (step_excluding free term)
    · exact .operator operator stage rfl (by simp [step, stage])
    · have read : Token.classify raw = .term raw := plain
      exact .term stage plain (by simp [step, stage, read])
  | operand operator => exact .operand operator stage (by simp [step, stage])

theorem Draft.Taken.step_eq {draft next : Draft} {raw : String} (taken : draft.Taken raw next) :
    draft.step raw = next := by
  cases taken with
  | idle operator seeking spelled same => simp [step, seeking, spelled, same]
  | seed seeking plain found =>
    have read : Token.classify raw = .term raw := plain
    simp [step, seeking, read, found]
  | exclusion term free spelled added => rw [spelled, step_excluding free, added]
  | term joining plain added =>
    have read : Token.classify raw = .term raw := plain
    simp [step, joining, read, added]
  | operator operator joining spelled awaited => simp [step, joining, spelled, awaited]
  | operand operator awaiting added => simp [step, awaiting, added]

def Draft.Seeded (draft : Draft) : Prop := draft.stage = .seeking → draft.steps = []

theorem Draft.seeded_step {draft : Draft} (seeded : draft.Seeded) (raw : String) :
    (draft.step raw).Seeded := by
  intro seeking
  cases draft.taken_step raw with
  | idle _ _ _ same => rw [same] at seeking ⊢; exact seeded seeking
  | seed _ _ found => rw [found] at seeking; cases seeking
  | exclusion _ _ _ added => rw [added] at seeking ⊢; exact seeded seeking
  | term joining _ added => rw [added] at seeking; cases joining.symm.trans seeking
  | operator _ _ _ awaited => rw [awaited] at seeking; cases seeking
  | operand _ _ added => rw [added] at seeking; cases seeking

theorem Draft.seeded_foldl {draft : Draft} (seeded : draft.Seeded) (tokens : List String) :
    (tokens.foldl Draft.step draft).Seeded := by
  induction tokens generalizing draft with
  | nil => exact seeded
  | cons raw rest ih => exact ih (seeded_step seeded raw)

theorem Draft.step_seeking_iff (draft : Draft) (raw : String) :
    (draft.step raw).stage = .seeking ↔ draft.stage = .seeking ∧ ¬ Token.Plain raw := by
  cases draft.taken_step raw with
  | idle operator seeking spelled same =>
    have read := Token.classify_word operator
    rw [same]
    simp [seeking, spelled, Token.Plain, read]
  | seed seeking plain found => simp [found, plain]
  | exclusion term _ spelled added =>
    have read := Token.classify_excluding term
    rw [added]
    simp [addExclusion, spelled, Token.Plain, read]
  | term joining _ added => simp [added, addStep, joining]
  | operator _ joining _ awaited => simp [awaited, joining]
  | operand _ awaiting added => simp [added, awaiting]

theorem Draft.foldl_seeking_iff (tokens : List String) (draft : Draft) :
    (tokens.foldl Draft.step draft).stage = .seeking ↔
      draft.stage = .seeking ∧ ∀ raw ∈ tokens, ¬ Token.Plain raw := by
  induction tokens generalizing draft with
  | nil => simp
  | cons raw rest ih => rw [List.foldl_cons, ih, step_seeking_iff, List.forall_mem_cons, and_assoc]

theorem Draft.finish_eq_error_iff {draft : Draft} {error : QueryError} :
    draft.finish = .error error ↔ draft.stage = .seeking ∧ error = .noValidTerm := by
  unfold finish
  cases draft.stage <;> simp [eq_comm]

theorem parse_eq_error_iff {tokens : List String} {error : QueryError} :
    parse tokens = .error error ↔ (∀ raw ∈ tokens, ¬ Token.Plain raw) ∧ error = .noValidTerm := by
  have seeking := Draft.foldl_seeking_iff tokens {}
  rw [parse, Draft.finish_eq_error_iff, seeking]
  simp

def addStep (plan : Plan) (step : Step) : Plan := { plan with steps := plan.steps ++ [step] }

def addExclusion (plan : Plan) (term : String) : Plan :=
  { plan with exclusions := plan.exclusions ++ [term] }

/-- The draft that finishes as the plan. -/
def draft (plan : Plan) : Draft where
  stage := plan.dangling.elim .joining .operand
  seed := plan.seed
  steps := plan.steps
  exclusions := plan.exclusions

theorem stage_draft_ne_seeking (plan : Plan) : plan.draft.stage ≠ .seeking := by
  unfold draft
  cases plan.dangling <;> simp

theorem Draft.finish_eq_ok_iff {draft : Draft} {plan : Plan} :
    draft.finish = .ok plan ↔ draft = plan.draft := by
  obtain ⟨stage, seed, steps, exclusions⟩ := draft
  obtain ⟨_, _, _, dangling⟩ := plan
  cases stage <;> cases dangling <;> simp [finish, Plan.draft, and_assoc, and_comm, and_left_comm]

theorem parse_append {tokens : List String} {plan : Plan} (parsed : parse tokens = .ok plan)
    (more : List String) : parse (tokens ++ more) = (more.foldl Draft.step plan.draft).finish := by
  have reached := Draft.finish_eq_ok_iff.mp parsed
  rw [parse, List.foldl_append, reached]

section

variable {tokens : List String} {plan : Plan} (parsed : parse tokens = .ok plan)
  (closed : plan.dangling = none)
include parsed closed

theorem parse_append_operation (operator : Operator) (operand : String) :
    parse (tokens ++ [operator.word, operand]) = .ok (plan.addStep ⟨operator, operand, false⟩) := by
  rw [parse_append parsed, Draft.finish_eq_ok_iff]
  simp [draft, closed, Draft.step, Draft.addStep, addStep]

theorem parse_append_plain {term : String} (plain : Token.Plain term) :
    parse (tokens ++ [term]) = .ok (plan.addStep ⟨.and, term, true⟩) := by
  have read : Token.classify term = .term term := plain
  rw [parse_append parsed, Draft.finish_eq_ok_iff]
  simp [draft, closed, Draft.step, read, Draft.addStep, addStep]

theorem parse_append_excluding (term : String) :
    parse (tokens ++ [Token.excluding term]) = .ok (plan.addExclusion term) := by
  rw [parse_append parsed, Draft.finish_eq_ok_iff]
  simp [draft, closed, Draft.step, Draft.addExclusion, addExclusion]

theorem parse_append_word (operator : Operator) :
    parse (tokens ++ [operator.word]) = .ok { plan with dangling := some operator } := by
  rw [parse_append parsed, Draft.finish_eq_ok_iff]
  simp [draft, closed, Draft.step]

end

theorem joined_addStep (plan : Plan) (step : Step) (combine : Combiner)
    (counts : String → ResultSet) :
    (plan.addStep step).joined combine counts =
      step.operator.apply combine (plan.joined combine counts) (counts step.term) := by
  simp [joined, addStep, List.foldl_append]

end TermSearch.Plan
