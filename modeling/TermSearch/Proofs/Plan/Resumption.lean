import TermSearch.Proofs.Plan.Reading
import TermSearch.Scan

/-!
All that the reading of further tokens depends on is in the plan of those already read: whether an
operator is left dangling.
-/

namespace TermSearch.Plan

namespace Draft

/-- A draft with what was read before it. The seed is the first that was found. -/
def behind (draft earlier : Draft) : Draft where
  stage := draft.stage
  seed := if earlier.stage = .seeking then draft.seed else earlier.seed
  steps := earlier.steps ++ draft.steps
  exclusions := earlier.exclusions ++ draft.exclusions

theorem Taken.behind {draft next earlier : Draft} {raw : String} (taken : draft.Taken raw next)
    (once : draft.stage = .seeking → earlier.stage = .seeking) :
    (draft.behind earlier).Taken raw (next.behind earlier) := by
  cases taken with
  | idle operator seeking spelled same => exact .idle operator seeking spelled (by rw [same])
  | seed seeking plain found =>
    exact .seed seeking plain (by simp [found, Draft.behind, once seeking])
  | exclusion term free spelled added =>
    exact .exclusion term free spelled (by simp [added, Draft.behind, addExclusion])
  | term joining plain added =>
    exact .term joining plain (by simp [added, Draft.behind, addStep])
  | operator operator joining spelled awaited =>
    exact .operator operator joining spelled (by rw [awaited]; rfl)
  | operand operator awaiting added =>
    exact .operand operator awaiting (by simp [added, Draft.behind, addStep])

theorem foldl_behind {draft earlier : Draft}
    (once : draft.stage = .seeking → earlier.stage = .seeking) (tokens : List String) :
    tokens.foldl step (draft.behind earlier) = (tokens.foldl step draft).behind earlier := by
  induction tokens generalizing draft with
  | nil => rfl
  | cons raw rest ih =>
    have first := ((draft.taken_step raw).behind once).step_eq
    rw [List.foldl_cons, List.foldl_cons, first]
    exact ih fun seeking => once ((draft.step_seeking_iff raw).mp seeking).1

theorem foldl_without_plain {tokens : List String} (plainless : ∀ raw ∈ tokens, ¬ Token.Plain raw) :
    tokens.foldl step {} = { exclusions := tokens.filterMap Scan.excluded? } := by
  induction tokens with
  | nil => rfl
  | cons raw rest ih =>
    obtain ⟨first, others⟩ := List.forall_mem_cons.mp plainless
    rcases Token.spelled_cases raw with ⟨term, rfl⟩ | ⟨operator, rfl⟩ | plain
    · have free : ∀ operator, ({} : Draft).stage ≠ .operand operator := nofun
      have excluded : step {} (Token.excluding term) = behind {} { exclusions := [term] } :=
        step_excluding free term
      rw [List.foldl_cons, excluded, foldl_behind fun _ => rfl, ih others,
        List.filterMap_cons_some (Scan.excluded?_excluding term)]
      rfl
    · have skipped : step {} operator.word = {} := (Taken.idle operator rfl rfl rfl).step_eq
      rw [List.foldl_cons, skipped, ih others, List.filterMap_cons_none (Scan.excluded?_word operator)]
    · exact absurd plain first

end Draft

def Stage.dangling : Stage → Option Operator
  | .operand operator => some operator
  | _ => none

/-- What tokens are read as behind a seed, when no operator waits for its operand. -/
def contribution (tokens : List String) : Draft := tokens.foldl Draft.step { stage := .joining }

def extend (plan : Plan) (added : Draft) : Plan where
  seed := plan.seed
  steps := plan.steps ++ added.steps
  exclusions := plan.exclusions ++ added.exclusions
  dangling := added.stage.dangling

def answer (plan : Plan) (operator : Operator) (operand : String) : Plan :=
  { plan.addStep ⟨operator, operand, false⟩ with dangling := none }

def putInFront (exclusions : List String) (plan : Plan) : Plan :=
  { plan with exclusions := exclusions ++ plan.exclusions }

section

variable {plan : Plan}

theorem finish_behind_draft {draft : Draft} (found : draft.stage ≠ .seeking) :
    (draft.behind plan.draft).finish = .ok (plan.extend draft) := by
  have seeded := plan.stage_draft_ne_seeking
  rw [Draft.finish_eq_ok_iff, Draft.behind, if_neg seeded]
  cases stage : draft.stage with
  | seeking => exact absurd stage found
  | joining => simp [Plan.draft, extend, stage, Stage.dangling]
  | operand operator => simp [Plan.draft, extend, stage, Stage.dangling]

theorem contribution_stage_ne_seeking (tokens : List String) :
    (contribution tokens).stage ≠ .seeking := by
  intro seeking
  obtain ⟨joining, -⟩ := (Draft.foldl_seeking_iff tokens _).mp seeking
  cases joining

theorem finish_foldl_of_closed (closed : plan.dangling = none) (more : List String) :
    (more.foldl Draft.step plan.draft).finish = .ok (plan.extend (contribution more)) := by
  have start : plan.draft = Draft.behind { stage := .joining } plan.draft := by
    simp [Draft.behind, draft, closed]
  rw [start, Draft.foldl_behind fun seeking => by cases seeking]
  exact finish_behind_draft (contribution_stage_ne_seeking more)

theorem step_draft_of_dangling {operator : Operator} (left : plan.dangling = some operator)
    (operand : String) : plan.draft.step operand = (plan.answer operator operand).draft := by
  simp [draft, left, Draft.step, Draft.addStep, answer, addStep]

end

theorem finish_behind_exclusions (draft : Draft) (exclusions : List String) :
    (draft.behind { exclusions }).finish = draft.finish.map (putInFront exclusions) := by
  unfold Draft.finish Draft.behind
  cases draft.stage <;> simp [Except.map, putInFront]

section

variable {tokens : List String} {plan : Plan} (parsed : parse tokens = .ok plan)

include parsed

theorem parse_append_of_closed (closed : plan.dangling = none) (more : List String) :
    parse (tokens ++ more) = .ok (plan.extend (contribution more)) := by
  rw [parse_append parsed, finish_foldl_of_closed closed]

theorem parse_append_of_dangling {operator : Operator} (left : plan.dangling = some operator)
    (operand : String) (rest : List String) :
    parse (tokens ++ operand :: rest) =
      .ok ((plan.answer operator operand).extend (contribution rest)) := by
  rw [parse_append parsed, List.foldl_cons, step_draft_of_dangling left]
  exact finish_foldl_of_closed rfl rest

theorem parse_append_grows (more : List String) :
    ∃ grown, parse (tokens ++ more) = .ok grown ∧ grown.seed = plan.seed ∧
      plan.steps <+: grown.steps ∧ plan.exclusions <+: grown.exclusions := by
  cases left : plan.dangling with
  | none =>
    exact ⟨_, parse_append_of_closed parsed left more, rfl, List.prefix_append _ _,
      List.prefix_append _ _⟩
  | some operator =>
    cases more with
    | nil =>
      rw [List.append_nil]
      exact ⟨plan, parsed, rfl, List.prefix_rfl, List.prefix_rfl⟩
    | cons operand rest =>
      refine ⟨_, parse_append_of_dangling parsed left operand rest, rfl, ?_, List.prefix_append _ _⟩
      exact (List.prefix_append _ _).trans (List.prefix_append _ _)

end

theorem parse_append_of_error {tokens : List String} {error : QueryError}
    (failed : parse tokens = .error error) (more : List String) :
    parse (tokens ++ more) = (parse more).map (putInFront (tokens.filterMap Scan.excluded?)) := by
  obtain ⟨plainless, -⟩ := parse_eq_error_iff.mp failed
  have start : ({ exclusions := tokens.filterMap Scan.excluded? } : Draft) =
      Draft.behind {} { exclusions := tokens.filterMap Scan.excluded? } := by
    simp [Draft.behind]
  rw [parse, List.foldl_append, Draft.foldl_without_plain plainless, start,
    Draft.foldl_behind fun _ => rfl, finish_behind_exclusions]
  rfl

/-- Reading goes on where a plan ends. The plan keeps its seed, and its steps and exclusions stay in
front; what comes behind them is what the further tokens add on their own, after the first of them
was given to an operator that was left dangling. Where there is no plan yet, the further tokens are
read on their own, behind the exclusions so far. -/
theorem parse_resumes (tokens more : List String) :
    (∀ plan, parse tokens = .ok plan →
      (∃ grown, parse (tokens ++ more) = .ok grown ∧ grown.seed = plan.seed ∧
        plan.steps <+: grown.steps ∧ plan.exclusions <+: grown.exclusions) ∧
      (plan.dangling = none → parse (tokens ++ more) = .ok (plan.extend (contribution more))) ∧
      ∀ operator operand rest, plan.dangling = some operator → more = operand :: rest →
        parse (tokens ++ more) =
          .ok ((plan.answer operator operand).extend (contribution rest))) ∧
    ∀ error, parse tokens = .error error →
      parse (tokens ++ more) =
        (parse more).map (putInFront (tokens.filterMap Scan.excluded?)) := by
  refine ⟨fun plan parsed => ⟨parse_append_grows parsed more, ?_, ?_⟩, ?_⟩
  · intro closed
    exact parse_append_of_closed parsed closed more
  · rintro operator operand rest left rfl
    exact parse_append_of_dangling parsed left operand rest
  · intro error failed
    exact parse_append_of_error failed more

/-- `-dog` is the operand of the `OR` that was left, and `-fish` is an exclusion. -/
theorem parse_resumes_verbatim :
    parse (["cat", "OR"] ++ ["-dog", "-fish", "AND"]) =
        .ok ⟨"cat", [⟨.or, "-dog", false⟩], ["fish"], some .and⟩ ∧
      parse (["-dog", "OR"] ++ ["cat", "-fish"]) = .ok ⟨"cat", [], ["dog", "fish"], none⟩ := by
  obtain ⟨resumed, -⟩ := parse_resumes ["cat", "OR"] ["-dog", "-fish", "AND"]
  obtain ⟨-, -, answered⟩ := resumed ⟨"cat", [], [], some .or⟩ rfl
  obtain ⟨-, restarted⟩ := parse_resumes ["-dog", "OR"] ["cat", "-fish"]
  exact ⟨answered .or "-dog" ["-fish", "AND"] rfl rfl, restarted .noValidTerm rfl⟩

end TermSearch.Plan
