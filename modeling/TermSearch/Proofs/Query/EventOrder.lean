import TermSearch.Proofs.Plan.Reading
import TermSearch.Query.Steady

namespace TermSearch

open Source (bind_ok bind_error)

variable {α β σ : Type}

/-- The terms that are found when they are looked up in turn, with their counts. The first look-up
that fails is the last. -/
def Source.found (source : Source σ) : List String → σ → List (String × ResultSet)
  | [], _ => []
  | term :: rest, state =>
    match source.lookup term state with
    | (.error _, _) => []
    | (.ok counts, next) => (term, counts) :: source.found rest next

def foundEvents (found : List (String × ResultSet)) : List Event :=
  found.map fun entry => .lookedUp entry.1 entry.2.size

def Plan.joins (plan : Plan) : List String := plan.seed :: plan.steps.map (·.term)

theorem Plan.length_joins (plan : Plan) : plan.joins.length = 1 + plan.steps.length := by
  rw [joins, List.length_cons, List.length_map, Nat.add_comm]

def Plan.searchEvents (plan : Plan) (found : List (String × ResultSet)) : List Event :=
  let joined := 1 + plan.steps.length
  let warning := if joined ≤ found.length then plan.dangling.map Event.trailingOperator else none
  foundEvents (found.take joined) ++ warning.toList ++ foundEvents (found.drop joined)

theorem Plan.searchEvents_of_short {plan : Plan} {found : List (String × ResultSet)}
    (short : found.length < 1 + plan.steps.length) : plan.searchEvents found = foundEvents found := by
  have front : found.take (1 + plan.steps.length) = found := List.take_of_length_le (by omega)
  have back : found.drop (1 + plan.steps.length) = [] := List.drop_of_length_le (by omega)
  have unwarned : ¬ 1 + plan.steps.length ≤ found.length := by omega
  simp [searchEvents, front, back, unwarned, foundEvents]

theorem Plan.searchEvents_append {plan : Plan} {found : List (String × ResultSet)}
    (joined : found.length = 1 + plan.steps.length) (more : List (String × ResultSet)) :
    plan.searchEvents (found ++ more) =
      foundEvents found ++ (plan.dangling.map .trailingOperator).toList ++ foundEvents more := by
  have front : (found ++ more).take (1 + plan.steps.length) = found := List.take_left' joined
  have back : (found ++ more).drop (1 + plan.steps.length) = more := List.drop_left' joined
  have warned : 1 + plan.steps.length ≤ (found ++ more).length := by
    rw [List.length_append]
    omega
  simp only [searchEvents, front, back, warned, if_true]

def resultEvents : Except QueryError ResultSet → List Event
  | .ok result => [.completed result.size]
  | .error _ => []

namespace Source

variable (source : Source σ) (state : σ)

theorem found_terms (terms : List String) :
    (source.found terms state).map (·.1) = terms.take (source.found terms state).length := by
  induction terms generalizing state with
  | nil => rfl
  | cons term rest ih =>
    unfold found
    rcases source.lookup term state with ⟨error | counts, next⟩
    · rfl
    · simp only [List.map_cons, List.length_cons, List.take_succ_cons, ih]

variable {source state} {terms : List String}

theorem found_append_of_all (all : (source.found terms state).length = terms.length)
    (more : List String) :
    source.found (terms ++ more) state =
      source.found terms state ++ source.found more (source.after terms state) := by
  induction terms generalizing state with
  | nil => rfl
  | cons term rest ih =>
    rcases asked : source.lookup term state with ⟨error | counts, next⟩
    · simp [found, asked] at all
    · have later : (source.found rest next).length = rest.length := by
        simpa [found, asked] using all
      simp [found, asked, after, ih later]

theorem found_append_of_cut (cut : (source.found terms state).length < terms.length)
    (more : List String) : source.found (terms ++ more) state = source.found terms state := by
  induction terms generalizing state with
  | nil => simp at cut
  | cons term rest ih =>
    rcases asked : source.lookup term state with ⟨error | counts, next⟩
    · simp [found, asked]
    · have later : (source.found rest next).length < rest.length := by
        simpa [found, asked] using cut
      simp [found, asked, ih later]

theorem found_of_serves {counts : String → ResultSet} (serves : source.Serves counts state)
    (terms : List String) : source.found terms state = terms.map fun term => (term, counts term) := by
  induction terms generalizing state with
  | nil => rfl
  | cons term rest ih => simp [found, serves.lookup, ih (serves.after [term])]

end Source

namespace Query

inductive Ends (source : Source σ) (terms : List String) (progress : Progress σ)
    (ran : Except StoreError α × Progress σ) : Prop
  | complete (a : α) (all : (source.found terms progress.source).length = terms.length)
      (reported : ran = (.ok a, ⟨source.after terms progress.source,
        progress.events ++ foundEvents (source.found terms progress.source)⟩))
  | failed (error : StoreError) (final : σ)
      (cut : (source.found terms progress.source).length < terms.length)
      (reported : ran = (.error error, ⟨final,
        progress.events ++ foundEvents (source.found terms progress.source)⟩))

section

variable {source : Source σ}

theorem ends_pure (a : α) (progress : Progress σ) :
    Ends source [] progress ((pure a : Action σ α) progress) :=
  .complete a rfl (by simp [Source.found, Source.after, foundEvents]; rfl)

theorem ends_lookup (term : String) (progress : Progress σ) :
    Ends source [term] progress (lookup source term progress) := by
  rcases asked : source.lookup term progress.source with ⟨error | counts, next⟩
  · have requested : request source term progress = (.error error, { progress with source := next }) := by
      simp only [request, ExceptT.mk, asked]
    exact .failed error next (by simp [Source.found, asked])
      (by rw [lookup, bind_error requested]; simp [Source.found, asked, foundEvents])
  · have requested : request source term progress = (.ok counts, { progress with source := next }) := by
      simp only [request, ExceptT.mk, asked]
    refine .complete counts (by simp [Source.found, asked]) ?_
    rw [lookup, bind_ok requested]
    simp only [Source.found, asked, foundEvents, Source.after, List.foldl_cons, List.foldl_nil]
    rfl

theorem Ends.bind {terms more : List String} {progress : Progress σ} {action : Action σ α}
    {next : α → Action σ β} (first : Ends source terms progress (action progress))
    (rest : ∀ a progress, Ends source more progress (next a progress)) :
    Ends source (terms ++ more) progress ((action >>= next) progress) := by
  cases first with
  | complete a all reported =>
    -- The second part begins in the state that the first leaves behind.
    have found := Source.found_append_of_all all more
    rw [bind_ok reported]
    cases rest a ⟨source.after terms progress.source,
      progress.events ++ foundEvents (source.found terms progress.source)⟩ with
    | complete b all' reported' =>
      refine .complete b (by rw [found]; simp [all, all']) ?_
      rw [reported', found, Source.after_append]
      simp [foundEvents]
    | failed error final cut reported' =>
      refine .failed error final (by rw [found]; simpa [all] using cut) ?_
      rw [reported', found]
      simp [foundEvents]
  | failed error final cut reported =>
    have found := Source.found_append_of_cut cut more
    refine .failed error final (by rw [found, List.length_append]; omega) ?_
    rw [bind_error reported, found]

theorem ends_gather (source : Source σ) (term : α → String) (merge : α → ResultSet → ResultSet → ResultSet)
    (items : List α) (start : ResultSet) (progress : Progress σ) :
    Ends source (items.map term) progress (gather source term merge items start progress) := by
  induction items generalizing start progress with
  | nil => exact ends_pure start progress
  | cons item rest ih =>
    unfold gather at ih ⊢
    rw [List.foldlM_cons, bind_assoc]
    refine (ends_lookup (term item) progress).bind fun counts progress => ?_
    rw [pure_bind]
    exact ih (merge item start counts) progress

end

section

variable (source : Source σ) (plan : Plan)

def joining (combine : Combiner) : Action σ ResultSet :=
  lookup source plan.seed >>= gather source Step.term (·.operator.apply combine) plan.steps

def excluding (joined : ResultSet) : Action σ ResultSet := do
  let result ← gather source id (fun _ => ResultSet.difference) plan.exclusions joined
  report [.completed result.size]
  return result

theorem execute_eq_parts (combine : Combiner) :
    execute source combine plan =
      joining source plan combine >>= fun joined =>
        report (plan.dangling.map .trailingOperator).toList >>= fun _ =>
          excluding source plan joined := by
  unfold execute joining
  rw [bind_assoc]
  rfl

theorem ends_joining (combine : Combiner) (progress : Progress σ) :
    Ends source plan.joins progress (joining source plan combine progress) :=
  (ends_lookup plan.seed progress).bind fun seed progress => ends_gather source _ _ plan.steps seed progress

theorem excluding_events (joined : ResultSet) (progress : Progress σ) :
    let found := source.found plan.exclusions progress.source
    let ran := excluding source plan joined progress
    ran.2.events = progress.events ++ foundEvents found ++ resultEvents (ran.1.mapError .store) ∧
      ((∃ result, ran.1 = .ok result) ↔ found.length = plan.exclusions.length) := by
  intro found ran
  have ends := ends_gather source id (fun _ => ResultSet.difference) plan.exclusions
    joined progress
  rw [List.map_id] at ends
  cases ends with
  | failed error final cut reported =>
    have ended : ran = (.error error, ⟨final, progress.events ++ foundEvents found⟩) :=
      bind_error reported
    rw [ended]
    refine ⟨(List.append_nil _).symm, iff_of_false ?_ (Nat.ne_of_lt cut)⟩
    rintro ⟨result, answered⟩
    cases answered
  | complete result all reported =>
    have ended : ran = (.ok result, ⟨source.after plan.exclusions progress.source,
        progress.events ++ foundEvents found ++ [.completed result.size]⟩) :=
      bind_ok reported
    rw [ended]
    exact ⟨rfl, iff_of_true ⟨result, rfl⟩ all⟩

theorem execute_events (combine : Combiner) (progress : Progress σ) :
    let found := source.found plan.lookups progress.source
    let ran := execute source combine plan progress
    ran.2.events = progress.events ++ plan.searchEvents found ++ resultEvents (ran.1.mapError .store) ∧
      ((∃ result, ran.1 = .ok result) ↔ found.length = plan.lookups.length) := by
  intro found ran
  have total : plan.lookups.length = plan.joins.length + plan.exclusions.length :=
    List.length_append
  have parts : ran = _ := congrFun (execute_eq_parts source plan combine) progress
  cases ends_joining source plan combine progress with
  | failed error final cut reported =>
    -- Neither the warning nor an exclusion is reached.
    have short : found = source.found plan.joins progress.source :=
      Source.found_append_of_cut cut plan.exclusions
    rw [← short] at cut reported
    rw [bind_error reported] at parts
    rw [parts, Plan.searchEvents_of_short (by rw [← plan.length_joins]; exact cut)]
    refine ⟨(List.append_nil _).symm, iff_of_false ?_ (by omega)⟩
    rintro ⟨result, answered⟩
    cases answered
  | complete joined all reported =>
    have both : found = source.found plan.joins progress.source ++
        source.found plan.exclusions (source.after plan.joins progress.source) :=
      Source.found_append_of_all all plan.exclusions
    rw [bind_ok reported, bind_ok (a := ()) (rfl : report _ _ = _)] at parts
    obtain ⟨events, answered⟩ := excluding_events source plan joined
      ⟨source.after plan.joins progress.source,
        progress.events ++ foundEvents (source.found plan.joins progress.source) ++
          (plan.dangling.map .trailingOperator).toList⟩
    rw [← parts] at events answered
    rw [both, Plan.searchEvents_append (all.trans plan.length_joins)]
    refine ⟨events.trans ?_, answered.trans ?_⟩
    · simp only [List.append_assoc]
    · rw [List.length_append, total, all, Nat.add_left_cancel_iff]

end

theorem run_eq_executed {source : Source σ} {state opened : σ} {file : Option OpenFile}
    (connected : source.connect state = (.ok file, opened)) {tokens : List String} {plan : Plan}
    (parsed : Plan.parse tokens = .ok plan) (combine : Combiner) :
    let ran := execute source combine plan { source := opened }
    run source combine tokens state = {
      answer := ran.1.mapError .store
      source := ran.2.source
      events := plan.parsedEvent :: ((file.map fun f => .opened f.path f.terms).toList ++
        ran.2.events ++ (file.map fun f => .released f.path).toList) } := by
  simp only [run, parsed, runPlan, connected]
  rfl

theorem run_events_of_connect {source : Source σ} {state opened : σ} {file : Option OpenFile}
    (connected : source.connect state = (.ok file, opened)) {tokens : List String} {plan : Plan}
    (parsed : Plan.parse tokens = .ok plan) (combine : Combiner) :
    let outcome := run source combine tokens state
    let found := source.found plan.lookups opened
    outcome.events =
        [.parsed plan.seed plan.steps.length plan.exclusions.length] ++
          (file.map fun f => .opened f.path f.terms).toList ++ plan.searchEvents found ++
          resultEvents outcome.answer ++ (file.map fun f => .released f.path).toList ∧
      ((∃ result, outcome.answer = .ok result) ↔ found.length = plan.lookups.length) := by
  intro outcome found
  obtain ⟨events, answered⟩ := execute_events source plan combine ⟨opened, []⟩
  have ended : outcome = _ := run_eq_executed connected parsed combine
  refine ⟨?_, Iff.trans ?_ answered⟩
  · rw [ended, events]
    simp [Plan.parsedEvent, found]
  · rw [ended]
    cases (execute source combine plan ⟨opened, []⟩).1 with
    | error error => exact iff_of_false (fun ⟨_, answered⟩ => nomatch answered) nofun
    | ok result => exact iff_of_true ⟨result, rfl⟩ ⟨result, rfl⟩

theorem run_events_of_connect_error {source : Source σ} {state closed : σ} {error : StoreError}
    (refused : source.connect state = (.error error, closed)) {tokens : List String} {plan : Plan}
    (parsed : Plan.parse tokens = .ok plan) (combine : Combiner) :
    (run source combine tokens state).events =
      [.parsed plan.seed plan.steps.length plan.exclusions.length] := by
  simp only [run, parsed, runPlan, refused]
  rfl

theorem run_events_of_file {tokens : List String} {plan : Plan} (parsed : Plan.parse tokens = .ok plan)
    (combine : Combiner) (path : String) (index held : Index) :
    (run (.ofFile path (.ok index)) combine tokens held).events =
      [.parsed plan.seed plan.steps.length plan.exclusions.length, .opened path index.size] ++
        plan.searchEvents (plan.lookups.map fun term => (term, index.counts term)) ++
        [.completed (plan.evaluate combine index.counts).size, .released path] := by
  have connected : (Source.ofFile path (.ok index)).connect held =
    (.ok (some ⟨path, index.size⟩), index) := rfl
  have serves := Source.serves_ofFile path (.ok index) index
  obtain ⟨events, -⟩ := run_events_of_connect connected parsed combine
  rw [answer_run_eq_evaluate connected serves, parsed, Source.found_of_serves serves] at events
  rw [events]
  simp [Except.map, resultEvents]

/-- Tokens without a plain term report nothing, and a source that cannot be connected to leaves only
the report of the plan. Otherwise each look-up that succeeds is reported in the order of the plan, the
warning stands between steps and exclusions, the result comes when every look-up has succeeded, and a
file that was opened is released at the end. -/
theorem run_events_in_order (source : Source σ) (combine : Combiner) (tokens : List String)
    (state : σ) :
    let outcome := run source combine tokens state
    ((∀ raw ∈ tokens, ¬ Token.Plain raw) → outcome.events = []) ∧
    ((∃ raw ∈ tokens, Token.Plain raw) → ∃ plan, Plan.parse tokens = .ok plan ∧
      (match source.connect state with
      | (.error _, _) =>
        outcome.events = [.parsed plan.seed plan.steps.length plan.exclusions.length]
      | (.ok file, opened) =>
        let found := source.found plan.lookups opened
        outcome.events =
            [.parsed plan.seed plan.steps.length plan.exclusions.length] ++
              (file.map fun f => .opened f.path f.terms).toList ++ plan.searchEvents found ++
              resultEvents outcome.answer ++ (file.map fun f => .released f.path).toList ∧
          found.map (·.1) = plan.lookups.take found.length ∧
          ((∃ result, outcome.answer = .ok result) ↔ found.length = plan.lookups.length)) ∧
      ∀ path index held,
        (run (.ofFile path (.ok index)) combine tokens held).events =
          [.parsed plan.seed plan.steps.length plan.exclusions.length, .opened path index.size] ++
            plan.searchEvents (plan.lookups.map fun term => (term, index.counts term)) ++
            [.completed (plan.evaluate combine index.counts).size, .released path]) := by
  intro outcome
  refine ⟨?_, ?_⟩
  · intro none
    have parsed := Plan.parse_eq_error_iff.mpr ⟨none, rfl⟩
    simp [outcome, run, parsed]
  · rintro ⟨raw, listed, plain⟩
    cases parsed : Plan.parse tokens with
    | error error =>
      obtain ⟨none, -⟩ := Plan.parse_eq_error_iff.mp parsed
      exact absurd plain (none raw listed)
    | ok plan =>
      refine ⟨plan, rfl, ?_, run_events_of_file parsed combine⟩
      rcases connected : source.connect state with ⟨error | file, opened⟩
      · exact run_events_of_connect_error connected parsed combine
      · obtain ⟨events, answered⟩ := run_events_of_connect connected parsed combine
        exact ⟨events, source.found_terms opened plan.lookups, answered⟩

/-- The look-up of the exclusion fails, behind the warning. -/
theorem run_events_in_order_unreachable :
    (run Source.unreachable Scoring.sum.combine ["-bird", "cat", "AND", "dog", "OR"] 2).events =
      [.parsed "cat" 1 1, .lookedUp "cat" 0, .lookedUp "dog" 0, .trailingOperator .or] := by
  obtain ⟨-, reported⟩ := run_events_in_order Source.unreachable Scoring.sum.combine
    ["-bird", "cat", "AND", "dog", "OR"] 2
  have plain : Token.Plain "cat" := by decide
  obtain ⟨plan, parsed, ⟨events, -⟩, -⟩ := reported ⟨"cat", by simp, plain⟩
  obtain rfl : plan = ⟨"cat", [⟨.and, "dog", false⟩], ["bird"], some .or⟩ :=
    Except.ok.inj (parsed.symm.trans rfl)
  exact events

end Query

end TermSearch
