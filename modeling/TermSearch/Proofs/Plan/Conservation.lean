import Mathlib.Data.List.Induction
import TermSearch.Proofs.Plan.Reading
import TermSearch.Scan

namespace TermSearch

/-- The last list holds the items of the first two, each of these in its order. -/
inductive Interleaved {α : Type} : List α → List α → List α → Prop
  | nil : Interleaved [] [] []
  | left {x : α} {xs ys zs : List α} (rest : Interleaved xs ys zs) :
      Interleaved (x :: xs) ys (x :: zs)
  | right {y : α} {xs ys zs : List α} (rest : Interleaved xs ys zs) :
      Interleaved xs (y :: ys) (y :: zs)

namespace Interleaved

variable {α : Type}

theorem append {xs ys zs us vs ws : List α} (first : Interleaved xs ys zs)
    (second : Interleaved us vs ws) : Interleaved (xs ++ us) (ys ++ vs) (zs ++ ws) := by
  induction first with
  | nil => exact second
  | left _ ih => exact .left ih
  | right _ ih => exact .right ih

theorem only_left (xs : List α) : Interleaved xs [] xs := by
  induction xs with
  | nil => exact .nil
  | cons x xs ih => exact .left ih

theorem only_right (ys : List α) : Interleaved [] ys ys := by
  induction ys with
  | nil => exact .nil
  | cons y ys ih => exact .right ih

theorem flatten {xs ys zs : List (List α)} (both : Interleaved xs ys zs) :
    Interleaved xs.flatten ys.flatten zs.flatten := by
  induction both with
  | nil => exact .nil
  | @left x xs ys zs _ ih => exact (only_left x).append ih
  | @right y xs ys zs _ ih => exact (only_right y).append ih

end Interleaved

namespace Plan

def withoutIdle (tokens : List String) : List String :=
  (tokens.takeWhile fun raw => !Scan.isTerm raw).filter (fun raw => !Scan.isOperator raw) ++
    tokens.dropWhile fun raw => !Scan.isTerm raw

theorem withoutIdle_cons (raw : String) (rest : List String) :
    withoutIdle (raw :: rest) =
      if Scan.isTerm raw then raw :: rest
      else if Scan.isOperator raw then withoutIdle rest
      else raw :: withoutIdle rest := by
  unfold withoutIdle
  rw [List.takeWhile_cons, List.dropWhile_cons]
  cases Scan.isTerm raw <;> cases operator : Scan.isOperator raw <;> simp [operator]

theorem withoutIdle_append_singleton (tokens : List String) (raw : String) :
    withoutIdle (tokens ++ [raw]) =
      withoutIdle tokens ++
        if (∀ earlier ∈ tokens, Scan.isTerm earlier = false) ∧ Scan.isOperator raw = true then []
        else [raw] := by
  induction tokens with
  | nil =>
    rw [List.nil_append, withoutIdle_cons]
    cases operator : Scan.isOperator raw <;> simp [Scan.isTerm, operator, withoutIdle]
  | cons first rest ih =>
    simp only [List.cons_append, withoutIdle_cons, ih, List.forall_mem_cons]
    cases Scan.isTerm first <;> cases Scan.isOperator first <;> simp

def phrases (plan : Plan) : List (List String) :=
  [plan.seed] :: plan.steps.map Step.tokens ++
    (plan.dangling.map fun operator => [operator.word]).toList

namespace Draft

def phrases (draft : Draft) : List (List String) :=
  if draft.stage = .seeking then [] else [draft.seed] :: draft.steps.map Step.tokens

def pending (draft : Draft) : List String :=
  match draft.stage with
  | .operand operator => [operator.word]
  | _ => []

theorem pending_of_free {draft : Draft} (free : ∀ operator, draft.stage ≠ .operand operator) :
    draft.pending = [] := by
  unfold pending
  cases stage : draft.stage with
  | operand operator => exact absurd stage (free operator)
  | _ => rfl

/-- What was read are the exclusions and the phrases of the draft, interleaved, and behind them the
operator that awaits its operand. -/
def Holds (draft : Draft) (read : List String) : Prop :=
  ∃ pieces,
    Interleaved (draft.exclusions.map fun term => [Token.excluding term]) draft.phrases pieces ∧
      read = pieces.flatten ++ draft.pending

theorem Holds.initial : Holds {} [] := ⟨[], .nil, rfl⟩

section

variable {draft next : Draft} {pieces : List (List String)}
  (both : Interleaved (draft.exclusions.map fun term => [Token.excluding term]) draft.phrases pieces)
include both

theorem holds_of_phrase {phrase : List String} (exclusions : next.exclusions = draft.exclusions)
    (phrases : next.phrases = draft.phrases ++ [phrase]) (ready : next.pending = []) :
    next.Holds (pieces.flatten ++ phrase) := by
  refine ⟨pieces ++ [phrase], ?_, by simp [ready]⟩
  have more := both.append (.only_right [phrase])
  rw [List.append_nil] at more
  rwa [exclusions, phrases]

theorem holds_of_exclusion {term : String} (exclusions : next.exclusions = draft.exclusions ++ [term])
    (phrases : next.phrases = draft.phrases) (ready : next.pending = []) :
    next.Holds (pieces.flatten ++ [Token.excluding term]) := by
  refine ⟨pieces ++ [[Token.excluding term]], ?_, by simp [ready]⟩
  have more := both.append (.only_left [[Token.excluding term]])
  rw [List.append_nil] at more
  rwa [exclusions, phrases, List.map_append]

end

theorem Holds.step {draft : Draft} {read : List String} (holds : draft.Holds read)
    (seeded : draft.Seeded) (raw : String) :
    (draft.step raw).Holds
      (read ++ if draft.stage = .seeking ∧ Scan.isOperator raw = true then [] else [raw]) := by
  obtain ⟨pieces, both, rfl⟩ := holds
  cases draft.taken_step raw with
  | idle operator seeking spelled same =>
    have operates := Scan.isOperator_word operator
    rw [same, spelled, if_pos ⟨seeking, operates⟩, List.append_nil]
    exact ⟨pieces, both, rfl⟩
  | seed seeking plain found =>
    have joins := Scan.isOperator_plain plain
    -- There are no steps before the seed, so its phrase is the last one.
    have first : phrases { draft with stage := .joining, seed := raw } =
        draft.phrases ++ [[raw]] := by
      simp [phrases, seeking, seeded seeking]
    have ready : draft.pending = [] := by simp [pending, seeking]
    rw [found, if_neg (by simp [joins]), ready, List.append_nil]
    exact holds_of_phrase both rfl first rfl
  | exclusion term free spelled added =>
    have leaves := Scan.isOperator_excluding term
    have ready := pending_of_free free
    rw [added, spelled, if_neg (by simp [leaves]), ready, List.append_nil]
    exact holds_of_exclusion both rfl rfl ready
  | term joining plain added =>
    have joins := Scan.isOperator_plain plain
    have last : (draft.addStep ⟨.and, raw, true⟩).phrases = draft.phrases ++ [[raw]] := by
      simp [phrases, addStep, joining, Step.tokens]
    have ready : draft.pending = [] := by simp [pending, joining]
    rw [added, if_neg (by simp [joins]), ready, List.append_nil]
    exact holds_of_phrase both rfl last ready
  | operator operator joining spelled awaited =>
    have same : phrases { draft with stage := .operand operator } = draft.phrases := by
      simp [phrases, joining]
    have ready : draft.pending = [] := by simp [pending, joining]
    rw [awaited, spelled, if_neg (by simp [joining]), ready, List.append_nil]
    exact ⟨pieces, same ▸ both, rfl⟩
  | operand operator awaiting added =>
    -- The operator was read before and waits; it goes into one phrase with its operand.
    have last : phrases { draft.addStep ⟨operator, raw, false⟩ with stage := .joining } =
        draft.phrases ++ [[operator.word, raw]] := by
      simp [phrases, addStep, awaiting, Step.tokens]
    have waiting : draft.pending = [operator.word] := by simp [pending, awaiting]
    rw [added, if_neg (by simp [awaiting]), waiting, List.append_assoc]
    exact holds_of_phrase both rfl last rfl

theorem holds_foldl (tokens : List String) :
    (tokens.foldl Draft.step {}).Holds (withoutIdle tokens) := by
  -- What the last token is taken for depends on the tokens before it.
  induction tokens using List.reverseRecOn with
  | nil => exact Holds.initial
  | append_singleton tokens raw ih =>
    have stage : (tokens.foldl Draft.step {}).stage = .seeking ↔
        ∀ earlier ∈ tokens, Scan.isTerm earlier = false := by
      rw [foldl_seeking_iff]
      simp [← Scan.isTerm_eq_true_iff]
    have seeded : (tokens.foldl Draft.step {}).Seeded := seeded_foldl (fun _ => rfl) tokens
    have longer := ih.step seeded raw
    simp only [stage] at longer
    rw [List.foldl_append, withoutIdle_append_singleton]
    exact longer

end Draft

theorem phrases_draft (plan : Plan) :
    plan.draft.phrases = [plan.seed] :: plan.steps.map Step.tokens := by
  rw [Draft.phrases, if_neg plan.stage_draft_ne_seeking]
  rfl

theorem pending_draft (plan : Plan) :
    plan.draft.pending = (plan.dangling.map fun operator => [operator.word]).toList.flatten := by
  unfold Draft.pending draft
  cases plan.dangling <;> simp

theorem flatten_phrases (plan : Plan) :
    plan.phrases.flatten =
      plan.seed :: plan.steps.flatMap Step.tokens ++ (plan.dangling.map Operator.word).toList := by
  unfold phrases
  cases plan.dangling <;> simp [List.flatMap_def]

theorem exists_pieces {tokens : List String} {plan : Plan} (parsed : parse tokens = .ok plan) :
    ∃ pieces,
      Interleaved (plan.exclusions.map fun term => [Token.excluding term]) plan.phrases pieces ∧
        withoutIdle tokens = pieces.flatten := by
  have holds := Draft.holds_foldl tokens
  rw [Draft.finish_eq_ok_iff.mp parsed] at holds
  obtain ⟨pieces, both, read⟩ := holds
  have more := both.append (.only_right (plan.dangling.map fun operator => [operator.word]).toList)
  rw [List.append_nil, phrases_draft] at more
  refine ⟨_, more, ?_⟩
  rw [read, pending_draft, List.flatten_append]

/-- Tokens have no plan only if none of them is a term. Otherwise they are, idle operators left out,
the exclusions and the search of the plan, interleaved; an operator and its operand are one piece. -/
theorem parse_keeps_tokens (tokens : List String) :
    ((∃ error, parse tokens = .error error) ↔ ∀ raw ∈ tokens, Scan.isTerm raw = false) ∧
      ∀ plan, parse tokens = .ok plan →
        Interleaved (plan.exclusions.map Token.excluding)
            (plan.seed :: plan.steps.flatMap Step.tokens ++
              (plan.dangling.map Operator.word).toList)
            (withoutIdle tokens) ∧
          ∃ pieces,
            Interleaved (plan.exclusions.map fun term => [Token.excluding term]) plan.phrases
                pieces ∧
              withoutIdle tokens = pieces.flatten := by
  constructor
  · simp [parse_eq_error_iff, ← Scan.isTerm_eq_true_iff]
  · intro plan parsed
    obtain ⟨pieces, both, kept⟩ := exists_pieces parsed
    have single := both.flatten
    rw [← kept, flatten_phrases, ← List.flatMap_def, ← List.map_eq_flatMap] at single
    exact ⟨single, pieces, both, kept⟩

/-- The leading `OR` is idle, and `-dog` is an operand; the bare dash stands before the seed in the
tokens and comes first among the exclusions. -/
theorem parse_keeps_tokens_verbatim :
    let tokens := ["-", "OR", "cat", "-a", "AND", "-dog", "-b", "OR"]
    let plan : Plan := ⟨"cat", [⟨.and, "-dog", false⟩], ["", "a", "b"], some .or⟩
    parse tokens = .ok plan ∧
      Interleaved ["-", "-a", "-b"] ["cat", "AND", "-dog", "OR"]
        ["-", "cat", "-a", "AND", "-dog", "-b", "OR"] := by
  intro tokens plan
  have parsed : parse tokens = .ok plan := rfl
  obtain ⟨-, accounts⟩ := parse_keeps_tokens tokens
  obtain ⟨both, -⟩ := accounts plan parsed
  have read : withoutIdle tokens = ["-", "cat", "-a", "AND", "-dog", "-b", "OR"] := by decide
  rw [read] at both
  exact ⟨parsed, both⟩

end Plan

end TermSearch
