import TermSearch.Proofs.Plan.Written

/-!
`AND` can be put before terms that are joined without it, and taken away where its operand is a
plain term; the plan that is read is the same up to the marks of those steps.
-/

namespace TermSearch

namespace Plan

def draftAt (tokens : List String) (i : Nat) : Draft := (tokens.take i).foldl Draft.step {}

/-- The number, counted from zero, of the step that a token at place `i` would begin. -/
def stepNumber (tokens : List String) (i : Nat) : Nat := (draftAt tokens i).steps.length

/-- The token at place `i` is taken for a term to join by an implicit `AND`. -/
structure Adjoined (tokens : List String) (i : Nat) : Prop where
  joining : (draftAt tokens i).stage = .joining
  plain : ∃ term, tokens[i]? = some term ∧ Token.Plain term

/-- The token at place `i` is taken for the `AND` of a step, and the operand is a plain term. -/
structure Conjoined (tokens : List String) (i : Nat) : Prop where
  joining : (draftAt tokens i).stage = .joining
  spelled : tokens[i]? = some Operator.and.word
  plain : ∃ term, tokens[i + 1]? = some term ∧ Token.Plain term

theorem draftAt_length (tokens : List String) :
    draftAt tokens tokens.length = tokens.foldl Draft.step {} := by
  rw [draftAt, List.take_length]

theorem draftAt_succ {tokens : List String} {i : Nat} {raw : String}
    (here : tokens[i]? = some raw) : draftAt tokens (i + 1) = (draftAt tokens i).step raw := by
  rw [draftAt, List.take_add_one, here, Option.toList_some, List.foldl_append]
  rfl

theorem Draft.prefix_steps_step (draft : Draft) (raw : String) :
    draft.steps <+: (draft.step raw).steps := by
  cases draft.taken_step raw with
  | idle _ _ _ same => simp only [same, List.prefix_rfl]
  | seed _ _ found => simp only [found, List.prefix_rfl]
  | exclusion _ _ _ added => simp only [added, addExclusion, List.prefix_rfl]
  | term _ _ added => rw [added]; exact List.prefix_append _ _
  | operator _ _ _ awaited => simp only [awaited, List.prefix_rfl]
  | operand _ _ added => rw [added]; exact List.prefix_append _ _

theorem Draft.prefix_steps_foldl (draft : Draft) (tokens : List String) :
    draft.steps <+: (tokens.foldl Draft.step draft).steps := by
  induction tokens generalizing draft with
  | nil => exact List.prefix_rfl
  | cons raw rest ih => exact (draft.prefix_steps_step raw).trans (ih (draft.step raw))

theorem prefix_steps_draftAt (tokens : List String) {i j : Nat} (le : i ≤ j) :
    (draftAt tokens i).steps <+: (draftAt tokens j).steps := by
  have front : (tokens.take j).take i = tokens.take i := by
    rw [List.take_take, Nat.min_eq_left le]
  have split : tokens.take j = tokens.take i ++ (tokens.take j).drop i := by
    rw [← front, List.take_append_drop]
  rw [draftAt, draftAt, split, List.foldl_append]
  exact Draft.prefix_steps_foldl _ _

section

variable {tokens : List String} {i j : Nat}

def Completes (tokens : List String) (i : Nat) : Prop :=
  stepNumber tokens (i + 1) = stepNumber tokens i + 1

theorem Completes.stepNumber_lt (completes : Completes tokens i) (lt : i < j) :
    stepNumber tokens i < stepNumber tokens j := by
  have grown : stepNumber tokens (i + 1) ≤ stepNumber tokens j :=
    (prefix_steps_draftAt tokens lt).length_le
  rw [completes] at grown
  exact grown

theorem Completes.eq_of_stepNumber (first : Completes tokens i) (second : Completes tokens j)
    (same : stepNumber tokens i = stepNumber tokens j) : i = j := by
  rcases Nat.lt_trichotomy i j with before | equal | behind
  · have less := first.stepNumber_lt before
    omega
  · exact equal
  · have less := second.stepNumber_lt behind
    omega

theorem Adjoined.draftAt_succ (adjoined : Adjoined tokens i) :
    ∃ term, tokens[i]? = some term ∧ Token.Plain term ∧
      draftAt tokens (i + 1) = (draftAt tokens i).addStep ⟨.and, term, true⟩ := by
  obtain ⟨term, here, plain⟩ := adjoined.plain
  refine ⟨term, here, plain, ?_⟩
  rw [Plan.draftAt_succ here]
  exact (Draft.Taken.term adjoined.joining plain rfl).step_eq

theorem Conjoined.draftAt_succ (conjoined : Conjoined tokens i) :
    draftAt tokens (i + 1) = { draftAt tokens i with stage := .operand .and } := by
  rw [Plan.draftAt_succ conjoined.spelled]
  exact (Draft.Taken.operator .and conjoined.joining rfl rfl).step_eq

theorem Conjoined.draftAt_operand (conjoined : Conjoined tokens i) :
    ∃ term, tokens[i + 1]? = some term ∧ Token.Plain term ∧
      draftAt tokens (i + 2) = (draftAt tokens i).addStep ⟨.and, term, false⟩ := by
  obtain ⟨term, next, plain⟩ := conjoined.plain
  refine ⟨term, next, plain, ?_⟩
  rw [Plan.draftAt_succ next, conjoined.draftAt_succ]
  simp [Draft.step, Draft.addStep, conjoined.joining]

theorem Adjoined.completes (adjoined : Adjoined tokens i) : Completes tokens i := by
  obtain ⟨term, -, -, added⟩ := adjoined.draftAt_succ
  simp [Completes, stepNumber, added, Draft.addStep]

theorem Conjoined.stepNumber_succ (conjoined : Conjoined tokens i) :
    stepNumber tokens (i + 1) = stepNumber tokens i := by
  rw [stepNumber, conjoined.draftAt_succ, stepNumber]

theorem Conjoined.completes (conjoined : Conjoined tokens i) : Completes tokens (i + 1) := by
  obtain ⟨term, -, -, added⟩ := conjoined.draftAt_operand
  rw [Completes, conjoined.stepNumber_succ]
  simp [stepNumber, added, Draft.addStep]

end

def markSteps (implicit : Bool) (numbers : List Nat) (steps : List Step) : List Step :=
  steps.mapIdx fun n step => if n ∈ numbers then { step with implicit } else step

def mark (implicit : Bool) (numbers : List Nat) (plan : Plan) : Plan :=
  { plan with steps := markSteps implicit numbers plan.steps }

def Draft.mark (implicit : Bool) (numbers : List Nat) (draft : Draft) : Draft :=
  { draft with steps := markSteps implicit numbers draft.steps }

theorem Draft.mark_addStep (implicit : Bool) (numbers : List Nat) (draft : Draft) (step : Step) :
    (draft.addStep step).mark implicit numbers =
      (draft.mark implicit numbers).addStep
        (if draft.steps.length ∈ numbers then { step with implicit } else step) := by
  simp [mark, addStep, markSteps]

theorem Draft.Taken.mark {draft next : Draft} {raw : String} {numbers : List Nat}
    (taken : draft.Taken raw next)
    (fresh : next.steps.length = draft.steps.length + 1 → draft.steps.length ∉ numbers)
    (implicit : Bool) :
    (draft.mark implicit numbers).Taken raw (next.mark implicit numbers) := by
  cases taken with
  | idle operator seeking spelled same => exact .idle operator seeking spelled (by rw [same])
  | seed seeking plain found => exact .seed seeking plain (by rw [found]; rfl)
  | exclusion term free spelled added => exact .exclusion term free spelled (by rw [added]; rfl)
  | term joining plain added =>
    have last := draft.mark_addStep implicit numbers ⟨.and, raw, true⟩
    rw [if_neg (fresh (by simp [added, addStep]))] at last
    exact .term joining plain (added ▸ last)
  | operator operator joining spelled awaited =>
    exact .operator operator joining spelled (by rw [awaited]; rfl)
  | operand operator awaiting added =>
    have last := draft.mark_addStep implicit numbers ⟨operator, raw, false⟩
    rw [if_neg (fresh (by simp [added, addStep]))] at last
    exact .operand operator awaiting (by rw [added, ← last]; rfl)

def respell (edit : Nat → String → List String) (tokens : List String) : List String :=
  (tokens.mapIdx edit).flatten

def insertAnds (places : List Nat) (tokens : List String) : List String :=
  respell (fun i raw => if i ∈ places then [Operator.and.word, raw] else [raw]) tokens

def leaveOut (places : List Nat) (tokens : List String) : List String :=
  respell (fun i raw => if i ∈ places then [] else [raw]) tokens

theorem respell_take_succ {tokens : List String} {i : Nat} {raw : String}
    (here : tokens[i]? = some raw) (edit : Nat → String → List String) :
    respell edit (tokens.take (i + 1)) = respell edit (tokens.take i) ++ edit i raw := by
  obtain ⟨below, -⟩ := List.getElem?_eq_some_iff.mp here
  have length : (tokens.take i).length = i := List.length_take_of_le (Nat.le_of_lt below)
  rw [List.take_add_one, here, Option.toList_some, respell, List.mapIdx_concat, length,
    List.flatten_concat, respell]

section

variable {tokens : List String} {places : List Nat}

theorem step_mark_draftAt {numbers : List Nat} {i : Nat} {raw : String}
    (here : tokens[i]? = some raw)
    (fresh : Completes tokens i → stepNumber tokens i ∉ numbers) (implicit : Bool) :
    ((draftAt tokens i).mark implicit numbers).step raw =
      (draftAt tokens (i + 1)).mark implicit numbers := by
  have taken := (draftAt tokens i).taken_step raw
  rw [← draftAt_succ here] at taken
  exact (taken.mark fresh implicit).step_eq

theorem foldl_insertAnds (adjoined : ∀ i ∈ places, Adjoined tokens i) {i : Nat}
    (le : i ≤ tokens.length) :
    (insertAnds places (tokens.take i)).foldl Draft.step {} =
      (draftAt tokens i).mark false (places.map (stepNumber tokens)) := by
  induction i with
  | zero => rfl
  | succ i ih =>
    have here : tokens[i]? = some tokens[i] := List.getElem?_eq_getElem le
    have before := ih (Nat.le_of_succ_le le)
    unfold insertAnds at before ⊢
    rw [respell_take_succ here, List.foldl_append, before]
    by_cases chosen : i ∈ places
    · obtain ⟨term, here', -, added⟩ := (adjoined i chosen).draftAt_succ
      obtain rfl := Option.some.inj (here.symm.trans here')
      have numbered : (draftAt tokens i).steps.length ∈ places.map (stepNumber tokens) :=
        List.mem_map.mpr ⟨i, chosen, rfl⟩
      have written : Step.WellFormed ⟨.and, tokens[i], false⟩ := fun implicit => by cases implicit
      have joining : ((draftAt tokens i).mark false (places.map (stepNumber tokens))).stage =
        .joining := (adjoined i chosen).joining
      rw [if_pos chosen, added, Draft.mark_addStep, if_pos numbered]
      exact Draft.foldl_tokens joining written
    · rw [if_neg chosen]
      refine step_mark_draftAt here ?_ false
      intro completes member
      obtain ⟨j, chosen', same⟩ := List.mem_map.mp member
      have equal := (adjoined j chosen').completes.eq_of_stepNumber completes same
      exact chosen (equal ▸ chosen')

/-- At a place right behind an `AND` that is left out, the two readings are at different stages; they
meet again behind the operand. -/
theorem foldl_leaveOut (conjoined : ∀ i ∈ places, Conjoined tokens i) {i : Nat}
    (le : i ≤ tokens.length) (apart : ∀ j ∈ places, j + 1 ≠ i) :
    (leaveOut places (tokens.take i)).foldl Draft.step {} =
      (draftAt tokens i).mark true (places.map (stepNumber tokens)) := by
  induction i using Nat.strongRecOn with
  | _ i ih =>
    cases i with
    | zero => rfl
    | succ i =>
      have here : tokens[i]? = some tokens[i] := List.getElem?_eq_getElem le
      have unchosen : i ∉ places := fun chosen => apart i chosen rfl
      unfold leaveOut at ih ⊢
      rw [respell_take_succ here, List.foldl_append, if_neg unchosen]
      by_cases behind : ∃ j ∈ places, j + 1 = i
      · obtain ⟨j, chosen, rfl⟩ := behind
        obtain ⟨term, here', plain, added⟩ := (conjoined j chosen).draftAt_operand
        obtain rfl := Option.some.inj (here.symm.trans here')
        have joining : ((draftAt tokens j).mark true (places.map (stepNumber tokens))).stage =
          .joining := (conjoined j chosen).joining
        have clear : ∀ k ∈ places, k + 1 ≠ j := by
          rintro k chosen' rfl
          have awaiting := congrArg Draft.stage (conjoined k chosen').draftAt_succ
          cases (conjoined (k + 1) chosen).joining.symm.trans awaiting
        have before := ih j (by omega) (by omega) clear
        have numbered : (draftAt tokens j).steps.length ∈ places.map (stepNumber tokens) :=
          List.mem_map.mpr ⟨j, chosen, rfl⟩
        rw [respell_take_succ (conjoined j chosen).spelled, List.foldl_append, before,
          if_pos chosen, added, Draft.mark_addStep, if_pos numbered]
        exact (Draft.Taken.term joining plain rfl).step_eq
      · have clear : ∀ k ∈ places, k + 1 ≠ i := fun k chosen same => behind ⟨k, chosen, same⟩
        rw [ih i (Nat.lt_succ_self i) (Nat.le_of_succ_le le) clear]
        refine step_mark_draftAt here ?_ true
        intro completes member
        obtain ⟨j, chosen, same⟩ := List.mem_map.mp member
        rw [← (conjoined j chosen).stepNumber_succ] at same
        exact clear j chosen ((conjoined j chosen).completes.eq_of_stepNumber completes same)

theorem parse_of_foldl_mark {other : List String} {plan : Plan} {numbers : List Nat}
    {implicit : Bool} (parsed : parse tokens = .ok plan)
    (read : other.foldl Draft.step {} = (draftAt tokens tokens.length).mark implicit numbers) :
    parse other = .ok (plan.mark implicit numbers) := by
  have reached := Draft.finish_eq_ok_iff.mp parsed
  rw [draftAt_length, reached] at read
  exact Draft.finish_eq_ok_iff.mpr read

theorem parse_insertAnds {plan : Plan} (parsed : parse tokens = .ok plan)
    (adjoined : ∀ i ∈ places, Adjoined tokens i) :
    parse (insertAnds places tokens) = .ok (plan.mark false (places.map (stepNumber tokens))) := by
  have read := foldl_insertAnds adjoined (Nat.le_refl tokens.length)
  rw [List.take_length] at read
  exact parse_of_foldl_mark parsed read

theorem parse_leaveOut {plan : Plan} (parsed : parse tokens = .ok plan)
    (conjoined : ∀ i ∈ places, Conjoined tokens i) :
    parse (leaveOut places tokens) = .ok (plan.mark true (places.map (stepNumber tokens))) := by
  have apart : ∀ i ∈ places, i + 1 ≠ tokens.length := by
    intro i chosen last
    obtain ⟨term, next, -⟩ := (conjoined i chosen).plain
    obtain ⟨below, -⟩ := List.getElem?_eq_some_iff.mp next
    omega
  have read := foldl_leaveOut conjoined (Nat.le_refl tokens.length) apart
  rw [List.take_length] at read
  exact parse_of_foldl_mark parsed read

theorem step_of_addStep {plan : Plan} {step : Step} {i j : Nat} (parsed : parse tokens = .ok plan)
    (le : j ≤ tokens.length) (added : draftAt tokens j = (draftAt tokens i).addStep step) :
    plan.steps[stepNumber tokens i]? = some step := by
  have reached := Draft.finish_eq_ok_iff.mp parsed
  obtain ⟨later, all⟩ := prefix_steps_draftAt tokens le
  rw [draftAt_length, reached, added] at all
  rw [show plan.steps = _ from all.symm, stepNumber]
  simp [Draft.addStep]

theorem Adjoined.step_of_parse {plan : Plan} {i : Nat} (adjoined : Adjoined tokens i)
    (parsed : parse tokens = .ok plan) :
    ∃ term, tokens[i]? = some term ∧
      plan.steps[stepNumber tokens i]? = some ⟨.and, term, true⟩ := by
  obtain ⟨term, here, -, added⟩ := adjoined.draftAt_succ
  obtain ⟨below, -⟩ := List.getElem?_eq_some_iff.mp here
  exact ⟨term, here, step_of_addStep parsed below added⟩

theorem Conjoined.step_of_parse {plan : Plan} {i : Nat} (conjoined : Conjoined tokens i)
    (parsed : parse tokens = .ok plan) :
    ∃ term, tokens[i + 1]? = some term ∧
      plan.steps[stepNumber tokens i]? = some ⟨.and, term, false⟩ := by
  obtain ⟨term, next, -, added⟩ := conjoined.draftAt_operand
  obtain ⟨below, -⟩ := List.getElem?_eq_some_iff.mp next
  exact ⟨term, next, step_of_addStep parsed below added⟩

end

end Plan

end TermSearch
