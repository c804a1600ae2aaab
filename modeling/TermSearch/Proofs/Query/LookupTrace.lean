import TermSearch.Proofs.Plan.Reading
import TermSearch.Proofs.Query.Reports
import TermSearch.Query.Steady

/-!
A plan whose result is thrown away is, in any monad, just the look-ups of its terms, so a run
depends on nothing but where they first fail.
-/

namespace TermSearch

section

variable {m : Type → Type} [Monad m] (ask : String → m ResultSet)

def askEach : List String → m Unit
  | [] => pure ()
  | term :: rest => do
    let _ ← ask term
    askEach rest

variable [LawfulMonad m] {α β : Type} (next : m β)

theorem askEach_append (terms more : List String) :
    askEach ask (terms ++ more) = askEach ask terms >>= fun _ => askEach ask more := by
  induction terms with
  | nil => simp [askEach]
  | cons term rest ih => simp [askEach, ih]

theorem foldlM_then (term : α → String) (merge : α → ResultSet → ResultSet → ResultSet)
    (items : List α) (start : ResultSet) :
    (items.foldlM (fun result item => return merge item result (← ask (term item))) start >>=
        fun _ => next) =
      askEach ask (items.map term) >>= fun _ => next := by
  induction items generalizing start with
  | nil => simp [askEach]
  | cons item rest ih =>
    simp only [List.foldlM_cons, bind_assoc, pure_bind, ih, List.map_cons, askEach]

theorem Plan.length_lookups (plan : Plan) :
    plan.lookups.length = 1 + plan.steps.length + plan.exclusions.length := by
  simp only [lookups, List.length_append, List.length_cons, List.length_map]
  omega

theorem Plan.evaluateM_then (combine : Combiner) (plan : Plan) :
    (plan.evaluateM ask combine >>= fun _ => next) =
      askEach ask plan.lookups >>= fun _ => next := by
  have excluded (joined : ResultSet) :
      (plan.exclusions.foldlM (fun result term => return result.difference (← ask term)) joined >>=
          fun _ => next) =
        askEach ask plan.exclusions >>= fun _ => next := by
    have asked := foldlM_then ask next id (fun _ => ResultSet.difference) plan.exclusions joined
    rw [List.map_id] at asked
    exact asked
  have joined (seed : ResultSet) :=
    foldlM_then ask (askEach ask plan.exclusions >>= fun _ => next) Step.term
      (·.operator.apply combine) plan.steps seed
  simp only [evaluateM, joinedM, lookups, bind_assoc, excluded, joined, askEach, askEach_append,
    List.cons_append]

end

namespace Source

variable {α σ : Type}

/-- The place and the error of the first look-up that fails, when terms are looked up in turn. -/
def failure? (source : Source σ) : List String → σ → Option (Nat × StoreError)
  | [], _ => none
  | term :: rest, state =>
    match source.lookup term state with
    | (.error error, _) => some (0, error)
    | (.ok _, next) => (source.failure? rest next).map fun (place, error) => (place + 1, error)

theorem askEach_eq (source : Source σ) (terms : List String) (state : σ) :
    askEach source.ask terms state =
      match source.failure? terms state with
      | none => (.ok (), source.after terms state)
      | some (place, error) => (.error error, source.after (terms.take (place + 1)) state) := by
  induction terms generalizing state with
  | nil => rfl
  | cons term rest ih =>
    rcases asked : source.lookup term state with ⟨answer, next⟩
    have called : source.ask term state = (answer, next) := asked
    unfold askEach failure?
    rw [asked]
    cases answer with
    | error error =>
      rw [bind_error called]
      simp [after, asked]
    | ok found =>
      rw [bind_ok called, ih]
      cases failed : source.failure? rest next with
      | none => simp [after, asked, failed]
      | some failure => simp [after, asked, failed]

theorem discard_eq (action : Asking σ α) (state : σ) :
    (action >>= fun _ => pure ()) state =
      ((action state).1.map fun _ => (), (action state).2) := by
  rcases called : action state with ⟨error | a, next⟩
  · exact bind_error called
  · exact bind_ok called

theorem evaluateM_run (source : Source σ) (combine : Combiner) (plan : Plan) (state : σ) :
    match source.failure? plan.lookups state with
    | none =>
      ∃ result, plan.evaluateM source.ask combine state =
        (.ok result, source.after plan.lookups state)
    | some (place, error) =>
      plan.evaluateM source.ask combine state =
        (.error error, source.after (plan.lookups.take (place + 1)) state) := by
  have asked := congrFun (plan.evaluateM_then source.ask (pure ()) combine) state
  rw [discard_eq, discard_eq, askEach_eq] at asked
  generalize plan.evaluateM source.ask combine state = ran at asked ⊢
  generalize source.failure? plan.lookups state = failure at asked ⊢
  obtain ⟨answer, final⟩ := ran
  rcases failure with _ | ⟨place, error⟩
  · obtain ⟨answered, rfl⟩ := Prod.mk.inj asked
    cases answer with
    | error error => cases answered
    | ok result => exact ⟨result, rfl⟩
  · obtain ⟨answered, rfl⟩ := Prod.mk.inj asked
    cases answer with
    | error failed =>
      obtain rfl := Except.error.inj answered
      rfl
    | ok result => cases answered

theorem failure?_recording (source : Source σ) (terms : List String) (state : σ)
    (record : Record) :
    source.recording.failure? terms (state, record) = source.failure? terms state := by
  induction terms generalizing state record with
  | nil => rfl
  | cons term rest ih =>
    rcases asked : source.lookup term state with ⟨error | found, next⟩
    · simp [failure?, recording, asked]
    · have later := ih next { record with lookups := record.lookups ++ [term] }
      simp only [failure?, recording, asked] at later ⊢
      rw [later]

theorem failure?_unreachable (terms : List String) (left : Nat) :
    unreachable.failure? terms left =
      if terms.length ≤ left then none
      else some (left, .unavailable "unreachable" .refused) := by
  induction terms generalizing left with
  | nil => simp [failure?]
  | cons term rest ih =>
    cases left with
    | zero => simp [failure?, unreachable]
    | succ left =>
      have later := ih left
      simp only [failure?, unreachable] at later ⊢
      rw [later]
      split <;> simp_all

end Source

namespace Query

open Source (Record Sees sees_bind sees_foldlM sees_pure)

variable {σ : Type}

def Progress.unrecorded (progress : Progress (σ × Record)) : Progress σ :=
  ⟨progress.source.1, progress.events⟩

def Outcome.unrecorded (outcome : Outcome (σ × Record)) : Outcome σ :=
  ⟨outcome.answer, outcome.source.1, outcome.events⟩

theorem sees_report (events : List Event) :
    Sees Progress.unrecorded (report events : Action (σ × Record) Unit) (report events) :=
  fun _ => rfl

theorem sees_lookup (source : Source σ) (term : String) :
    Sees Progress.unrecorded (lookup source.recording term) (lookup source term) := by
  have asked : Sees Progress.unrecorded (request source.recording term) (request source term) :=
    fun _ => rfl
  exact sees_bind asked fun found => sees_bind (sees_report _) fun _ => sees_pure found

theorem sees_gather {α : Type} (source : Source σ) (term : α → String)
    (merge : α → ResultSet → ResultSet → ResultSet) (items : List α) (start : ResultSet) :
    Sees Progress.unrecorded (gather source.recording term merge items start)
      (gather source term merge items start) := by
  apply sees_foldlM
  intro result item
  exact sees_bind (sees_lookup source (term item)) fun other => sees_pure (merge item result other)

theorem sees_execute (source : Source σ) (combine : Combiner) (plan : Plan) :
    Sees Progress.unrecorded (execute source.recording combine plan)
      (execute source combine plan) := by
  apply sees_bind (sees_lookup source plan.seed)
  intro seed
  apply sees_bind (sees_gather source Step.term _ plan.steps seed)
  intro joined
  apply sees_bind (sees_report _)
  intro
  apply sees_bind (sees_gather source id _ plan.exclusions joined)
  intro result
  exact sees_bind (sees_report _) fun _ => sees_pure result

theorem runPlan_recording (source : Source σ) (combine : Combiner) (plan : Plan) (state : σ)
    (record : Record) :
    (runPlan source.recording combine plan (state, record)).unrecorded =
      runPlan source combine plan state := by
  unfold runPlan
  rcases connected : source.connect state with ⟨error | file, opened⟩
  · simp only [Source.recording, connected]
    rfl
  · have seen := sees_execute source combine plan
      ⟨(opened, { record with connections := record.connections + 1 }), []⟩
    simp only [Source.recording, connected]
    exact congrArg (fun ran : Except StoreError ResultSet × Progress σ =>
      Outcome.mk (ran.1.mapError .store) ran.2.source
        ((file.map fun f => .opened f.path f.terms).toList ++ ran.2.events ++
          (file.map fun f => .released f.path).toList)) seen

theorem run_recording (source : Source σ) (combine : Combiner) (tokens : List String) (state : σ)
    (record : Record) :
    (run source.recording combine tokens (state, record)).unrecorded =
      run source combine tokens state := by
  unfold run
  cases Plan.parse tokens with
  | error error => rfl
  | ok plan =>
    have ran := runPlan_recording source combine plan state record
    exact congrArg (fun outcome : Outcome σ =>
      { outcome with events := plan.parsedEvent :: outcome.events }) ran

theorem run_of_connect_error {source : Source σ} {state closed : σ} {error : StoreError}
    (refused : source.connect state = (.error error, closed)) {tokens : List String} {plan : Plan}
    (parsed : Plan.parse tokens = .ok plan) (combine : Combiner) :
    (run source combine tokens state).answer = .error (.store error) ∧
      (run source combine tokens state).source = closed := by
  simp [run, runPlan, parsed, refused]

theorem run_of_connect {source : Source σ} {state opened : σ} {file : Option OpenFile}
    (connected : source.connect state = (.ok file, opened)) {tokens : List String} {plan : Plan}
    (parsed : Plan.parse tokens = .ok plan) (combine : Combiner) :
    match source.failure? plan.lookups opened with
    | none =>
      (∃ result, (run source combine tokens state).answer = .ok result) ∧
        (run source combine tokens state).source = source.after plan.lookups opened
    | some (place, error) =>
      (run source combine tokens state).answer = .error (.store error) ∧
        (run source combine tokens state).source =
          source.after (plan.lookups.take (place + 1)) opened := by
  have ran := runPlan_of_connect connected combine plan
  have answer : (run source combine tokens state).answer =
      (runPlan source combine plan state).answer := by simp only [run, parsed]
  have final : (run source combine tokens state).source =
      (runPlan source combine plan state).source := by simp only [run, parsed]
  have evaluated := source.evaluateM_run combine plan opened
  rw [answer, final]
  generalize source.failure? plan.lookups opened = failure at evaluated ⊢
  rcases failure with _ | ⟨place, error⟩
  · obtain ⟨result, evaluated⟩ := evaluated
    rw [evaluated] at ran
    obtain ⟨answered, left⟩ := Prod.mk.inj ran
    exact ⟨⟨result, answered⟩, left⟩
  · rw [evaluated] at ran
    exact Prod.mk.inj ran

theorem recorded_of_connect_error {source : Source σ} {state closed : σ} {error : StoreError}
    (refused : source.connect state = (.error error, closed)) {tokens : List String} {plan : Plan}
    (parsed : Plan.parse tokens = .ok plan) (combine : Combiner) :
    let outcome := run source.recording combine tokens (state, {})
    outcome.answer = .error (.store error) ∧ outcome.source.2 = ⟨1, []⟩ := by
  have recorded : source.recording.connect (state, {}) = (.error error, closed, ⟨1, []⟩) := by
    simp only [Source.recording, refused]
  obtain ⟨answer, left⟩ := run_of_connect_error recorded parsed combine
  exact ⟨answer, congrArg Prod.snd left⟩

theorem recorded_of_connect {source : Source σ} {state opened : σ} {file : Option OpenFile}
    (connected : source.connect state = (.ok file, opened)) {tokens : List String} {plan : Plan}
    (parsed : Plan.parse tokens = .ok plan) (combine : Combiner) :
    let outcome := run source.recording combine tokens (state, {})
    match source.failure? plan.lookups opened with
    | none => (∃ result, outcome.answer = .ok result) ∧ outcome.source.2 = ⟨1, plan.lookups⟩
    | some (place, error) =>
      outcome.answer = .error (.store error) ∧
        outcome.source.2 = ⟨1, plan.lookups.take (place + 1)⟩ := by
  have recorded : source.recording.connect (state, {}) = (.ok file, opened, ⟨1, []⟩) := by
    simp only [Source.recording, connected]
  have ran := run_of_connect recorded parsed combine
  rw [Source.failure?_recording] at ran
  generalize source.failure? plan.lookups opened = failure at ran ⊢
  rcases failure with _ | ⟨place, error⟩
  · obtain ⟨answered, left⟩ := ran
    rw [Source.after_recording] at left
    exact ⟨answered, congrArg Prod.snd left⟩
  · obtain ⟨answered, left⟩ := ran
    rw [Source.after_recording] at left
    exact ⟨answered, congrArg Prod.snd left⟩

theorem recorded_of_unreachable {tokens : List String} {plan : Plan}
    (parsed : Plan.parse tokens = .ok plan) (combine : Combiner) (healthy : Nat) :
    let outcome := run Source.unreachable.recording combine tokens (healthy, {})
    ((∃ result, outcome.answer = .ok result) ↔
        1 + plan.steps.length + plan.exclusions.length ≤ healthy) ∧
      outcome.source.2.lookups = plan.lookups.take (healthy + 1) := by
  intro outcome
  have connected : Source.unreachable.connect healthy = (.ok none, healthy) := rfl
  have ran := recorded_of_connect connected parsed combine
  rw [Source.failure?_unreachable] at ran
  by_cases enough : plan.lookups.length ≤ healthy
  · rw [if_pos enough] at ran
    obtain ⟨answered, recorded⟩ := ran
    have all : plan.lookups.take (healthy + 1) = plan.lookups :=
      List.take_of_length_le (by omega)
    rw [Plan.length_lookups] at enough
    exact ⟨iff_of_true answered enough, (congrArg Source.Record.lookups recorded).trans all.symm⟩
  · rw [if_neg enough] at ran
    obtain ⟨refused, recorded⟩ := ran
    rw [Plan.length_lookups] at enough
    refine ⟨iff_of_false ?_ enough, congrArg Source.Record.lookups recorded⟩
    rintro ⟨result, answered⟩
    cases answered.symm.trans refused

/-- Without a plain term nothing is asked of the source. Otherwise it is connected to once and, if
that succeeds, asked for the planned terms up to the first that fails. Recording changes nothing. -/
theorem run_asks_planned_terms (source : Source σ) (combine : Combiner) (tokens : List String)
    (state : σ) :
    let outcome := run source.recording combine tokens (state, {})
    let record := outcome.source.2
    ((∀ raw ∈ tokens, ¬ Token.Plain raw) →
      outcome.answer = .error .noValidTerm ∧ outcome.source = (state, {})) ∧
    ((∃ raw ∈ tokens, Token.Plain raw) → ∃ plan, Plan.parse tokens = .ok plan ∧
      match source.connect state with
      | (.error error, _) =>
        outcome.answer = .error (.store error) ∧ record = { connections := 1, lookups := [] }
      | (.ok _, opened) =>
        match source.failure? plan.lookups opened with
        | none =>
          (∃ result, outcome.answer = .ok result) ∧
            record = { connections := 1, lookups := plan.lookups }
        | some (place, error) =>
          outcome.answer = .error (.store error) ∧
            record = { connections := 1, lookups := plan.lookups.take (place + 1) }) ∧
    outcome.unrecorded = run source combine tokens state ∧
    ∀ plan healthy, Plan.parse tokens = .ok plan →
      let outcome := run Source.unreachable.recording combine tokens (healthy, {})
      ((∃ result, outcome.answer = .ok result) ↔
          1 + plan.steps.length + plan.exclusions.length ≤ healthy) ∧
        outcome.source.2.lookups = plan.lookups.take (healthy + 1) := by
  intro outcome record
  refine ⟨?_, ?_, run_recording source combine tokens state {}, ?_⟩
  · intro none
    have parsed := Plan.parse_eq_error_iff.mpr ⟨none, rfl⟩
    simp [outcome, run, parsed]
  · rintro ⟨raw, listed, plain⟩
    cases parsed : Plan.parse tokens with
    | error error =>
      obtain ⟨none, -⟩ := Plan.parse_eq_error_iff.mp parsed
      exact absurd plain (none raw listed)
    | ok plan =>
      rcases connected : source.connect state with ⟨error | file, opened⟩
      · exact ⟨plan, rfl, recorded_of_connect_error connected parsed combine⟩
      · exact ⟨plan, rfl, recorded_of_connect connected parsed combine⟩
  · intro plan healthy parsed
    exact recorded_of_unreachable parsed combine healthy

/-- The step `dog` is the second look-up; the exclusion of `bird` is never asked for. -/
theorem run_asks_planned_terms_unreachable :
    let outcome := run Source.unreachable.recording Scoring.sum.combine
      ["-bird", "cat", "AND", "dog"] (1, {})
    outcome.answer = .error (.store (.unavailable "unreachable" .refused)) ∧
      outcome.source.2 = { connections := 1, lookups := ["cat", "dog"] } := by
  intro outcome
  obtain ⟨-, asked, -⟩ := run_asks_planned_terms Source.unreachable Scoring.sum.combine
    ["-bird", "cat", "AND", "dog"] 1
  have plain : Token.Plain "cat" := by decide
  obtain ⟨plan, parsed, ran⟩ := asked ⟨"cat", by simp, plain⟩
  obtain rfl : plan = ⟨"cat", [⟨.and, "dog", false⟩], ["bird"], none⟩ :=
    (Except.ok.inj (parsed.symm.trans rfl))
  exact ran

end Query

end TermSearch
