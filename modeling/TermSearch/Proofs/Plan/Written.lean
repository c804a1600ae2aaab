import TermSearch.Proofs.Plan.Reading

namespace TermSearch.Plan

structure Draft.WellFormed (draft : Draft) : Prop where
  seed : draft.stage ≠ .seeking → Token.Plain draft.seed
  steps : ∀ step ∈ draft.steps, step.WellFormed

theorem Draft.WellFormed.initial : Draft.WellFormed {} where
  seed seeded := absurd rfl seeded
  steps _ mem := absurd mem List.not_mem_nil

theorem Draft.WellFormed.addStep {draft : Draft} (formed : draft.WellFormed)
    (seeded : draft.stage ≠ .seeking) {step : Step} (last : step.WellFormed) (stage : Stage) :
    Draft.WellFormed { draft.addStep step with stage := stage } where
  seed _ := formed.seed seeded
  steps other mem := by
    rcases List.mem_append.mp mem with old | new
    · exact formed.steps other old
    · obtain rfl := List.mem_singleton.mp new
      exact last

theorem Draft.WellFormed.step {draft : Draft} (formed : draft.WellFormed) (raw : String) :
    (draft.step raw).WellFormed := by
  cases draft.taken_step raw with
  | idle _ _ _ same => rwa [same]
  | seed _ plain found => rw [found]; exact ⟨fun _ => plain, formed.steps⟩
  | exclusion _ _ _ added => rw [added]; exact ⟨formed.seed, formed.steps⟩
  | term joining plain added =>
    have seeded : draft.stage ≠ .seeking := by simp [joining]
    have last : Step.WellFormed ⟨.and, raw, true⟩ := fun _ => ⟨rfl, plain⟩
    rw [added]
    exact formed.addStep seeded last draft.stage
  | operator _ joining _ awaited =>
    have seeded : draft.stage ≠ .seeking := by simp [joining]
    rw [awaited]
    exact ⟨fun _ => formed.seed seeded, formed.steps⟩
  | operand operator awaiting added =>
    have seeded : draft.stage ≠ .seeking := by simp [awaiting]
    have last : Step.WellFormed ⟨operator, raw, false⟩ := fun implicit => by cases implicit
    rw [added]
    exact formed.addStep seeded last .joining

theorem Draft.WellFormed.foldl {draft : Draft} (formed : draft.WellFormed) (tokens : List String) :
    (tokens.foldl Draft.step draft).WellFormed := by
  induction tokens generalizing draft with
  | nil => exact formed
  | cons raw rest ih => exact ih (formed.step raw)

theorem wellFormed_of_parse {tokens : List String} {plan : Plan} (parsed : parse tokens = .ok plan) :
    plan.WellFormed := by
  have reached := Draft.finish_eq_ok_iff.mp parsed
  have formed := Draft.WellFormed.initial.foldl tokens
  rw [reached] at formed
  exact ⟨formed.seed plan.stage_draft_ne_seeking, formed.steps⟩

theorem Draft.foldl_excluding {draft : Draft} (free : ∀ operator, draft.stage ≠ .operand operator)
    (terms : List String) :
    (terms.map Token.excluding).foldl Draft.step draft =
      { draft with exclusions := draft.exclusions ++ terms } := by
  induction terms generalizing draft with
  | nil => simp
  | cons term rest ih =>
    have later := @ih (draft.addExclusion term) free
    rw [List.map_cons, List.foldl_cons, step_excluding free, later]
    simp [addExclusion]

theorem Draft.foldl_only_excluding (terms : List String) :
    (terms.map Token.excluding).foldl Draft.step {} = { exclusions := terms } :=
  foldl_excluding (fun _ awaiting => by cases awaiting) terms

theorem Draft.step_seed {draft : Draft} (seeking : draft.stage = .seeking) {term : String}
    (plain : Token.Plain term) :
    draft.step term = { draft with stage := .joining, seed := term } :=
  (Taken.seed seeking plain rfl).step_eq

theorem Draft.foldl_tokens {draft : Draft} (joining : draft.stage = .joining) {step : Step}
    (formed : step.WellFormed) : step.tokens.foldl Draft.step draft = draft.addStep step := by
  obtain ⟨operator, term, implicit⟩ := step
  cases implicit with
  | true =>
    obtain ⟨rfl, plain⟩ := formed rfl
    exact (Taken.term joining plain rfl).step_eq
  | false =>
    have awaited : draft.step operator.word = { draft with stage := .operand operator } :=
      (Taken.operator operator joining rfl rfl).step_eq
    show Draft.step (draft.step operator.word) term = _
    rw [awaited]
    simp [Draft.step, addStep, joining]

theorem Draft.foldl_flatMap_tokens {draft : Draft} (joining : draft.stage = .joining)
    {steps : List Step} (formed : ∀ step ∈ steps, step.WellFormed) :
    (steps.flatMap Step.tokens).foldl Draft.step draft =
      { draft with steps := draft.steps ++ steps } := by
  induction steps generalizing draft with
  | nil => simp
  | cons step rest ih =>
    obtain ⟨first, others⟩ := List.forall_mem_cons.mp formed
    have later := @ih (draft.addStep step) joining others
    rw [List.flatMap_cons, List.foldl_append, foldl_tokens joining first, later]
    simp [addStep]

theorem Draft.foldl_word {draft : Draft} (joining : draft.stage = .joining)
    (dangling : Option Operator) :
    (dangling.map Operator.word).toList.foldl Draft.step draft =
      { draft with stage := dangling.elim .joining .operand } := by
  cases dangling with
  | none => simp [← joining]
  | some operator => exact (Taken.operator operator joining rfl rfl).step_eq

theorem parse_tokens {plan : Plan} (formed : plan.WellFormed) : parse plan.tokens = .ok plan := by
  obtain ⟨plain, steps⟩ := formed
  rw [parse, Draft.finish_eq_ok_iff, tokens, List.foldl_append, List.foldl_append,
    Draft.foldl_only_excluding, List.foldl_cons, Draft.step_seed rfl plain,
    Draft.foldl_flatMap_tokens rfl steps, Draft.foldl_word rfl]
  simp [draft]

/-- The plans that are read from some tokens are the well-formed ones, and each of these is read back,
in all its parts, from the tokens it is written as. -/
theorem parse_reads_exactly_wellFormed (plan : Plan) :
    ((∃ tokens, parse tokens = .ok plan) ↔ plan.WellFormed) ∧
      (plan.WellFormed → parse plan.tokens = .ok plan) := by
  refine ⟨⟨?_, ?_⟩, parse_tokens⟩
  · rintro ⟨tokens, parsed⟩
    exact wellFormed_of_parse parsed
  · intro formed
    exact ⟨plan.tokens, parse_tokens formed⟩

/-- Behind an operator `AND` and `-dog` are terms; an empty exclusion is written as a bare dash. -/
theorem parse_reads_exactly_wellFormed_verbatim :
    let plan : Plan := ⟨"", [⟨.or, "AND", false⟩, ⟨.and, "-dog", false⟩, ⟨.and, "bird", true⟩],
      ["", "AND", "-x"], some .or⟩
    plan.WellFormed ∧
      parse ["-", "-AND", "--x", "", "OR", "AND", "AND", "-dog", "bird", "OR"] = .ok plan := by
  intro plan
  have formed : plan.WellFormed := by decide
  obtain ⟨-, back⟩ := parse_reads_exactly_wellFormed plan
  exact ⟨formed, back formed⟩

end TermSearch.Plan
