import TermSearch.Query

namespace TermSearch

namespace Source

variable {σ : Type} {source : Source σ} {counts : String → ResultSet} {state : σ}

def after (source : Source σ) (terms : List String) (state : σ) : σ :=
  terms.foldl (fun state term => (source.lookup term state).2) state

/-- From this state on, whatever was looked up before, each look-up gives the counts of its term. -/
def Serves (source : Source σ) (counts : String → ResultSet) (state : σ) : Prop :=
  ∀ earlier term, (source.lookup term (source.after earlier state)).1 = .ok (counts term)

theorem after_append (source : Source σ) (terms more : List String) (state : σ) :
    source.after (terms ++ more) state = source.after more (source.after terms state) :=
  List.foldl_append

theorem Serves.after (serves : source.Serves counts state) (terms : List String) :
    source.Serves counts (source.after terms state) := by
  intro earlier term
  rw [← after_append]
  exact serves (terms ++ earlier) term

theorem Serves.lookup (serves : source.Serves counts state) (term : String) :
    source.lookup term state = (.ok (counts term), source.after [term] state) :=
  Prod.ext (serves [] term) rfl

theorem serves_ofCounts (counts : String → ResultSet) (state : Unit) :
    (ofCounts counts).Serves counts state := fun _ _ => rfl

theorem after_ofFile (path : String) (load : Except StoreError Index) (terms : List String)
    (index : Index) : (ofFile path load).after terms index = index := by
  induction terms with
  | nil => rfl
  | cons term rest ih => exact ih

theorem serves_ofFile (path : String) (load : Except StoreError Index) (index : Index) :
    (ofFile path load).Serves index.counts index := by
  intro earlier term
  rw [after_ofFile]
  rfl

theorem after_recording (source : Source σ) (terms : List String) (state : σ) (record : Record) :
    source.recording.after terms (state, record) =
      (source.after terms state, { record with lookups := record.lookups ++ terms }) := by
  induction terms generalizing state record with
  | nil => simp [after]
  | cons term rest ih =>
    have later := ih (source.lookup term state).2
      { record with lookups := record.lookups ++ [term] }
    simp only [List.append_assoc, List.singleton_append] at later
    exact later

end Source

namespace Query

open Source (bind_ok)

variable {α σ : Type} {source : Source σ} {counts : String → ResultSet} {progress : Progress σ}

def lookupEvents (counts : String → ResultSet) (terms : List String) : List Event :=
  terms.map fun term => .lookedUp term (counts term).size

def Progress.after (progress : Progress σ) (source : Source σ) (counts : String → ResultSet)
    (terms : List String) : Progress σ where
  source := source.after terms progress.source
  events := progress.events ++ lookupEvents counts terms

theorem lookup_of_serves (serves : source.Serves counts progress.source) (term : String) :
    lookup source term progress = (.ok (counts term), progress.after source counts [term]) := by
  have asked : request source term progress =
      (.ok (counts term), { progress with source := source.after [term] progress.source }) := by
    simp only [request, ExceptT.mk, serves.lookup]
  unfold lookup
  rw [bind_ok asked]
  rfl

theorem gather_of_serves (progress : Progress σ) (serves : source.Serves counts progress.source)
    (term : α → String) (merge : α → ResultSet → ResultSet → ResultSet) (items : List α)
    (start : ResultSet) :
    gather source term merge items start progress =
      (.ok (items.foldl (fun result item => merge item result (counts (term item))) start),
        progress.after source counts (items.map term)) := by
  induction items generalizing start progress with
  | nil => simp [gather, Progress.after, Source.after, lookupEvents]; rfl
  | cons item rest ih =>
    have first := lookup_of_serves serves (term item)
    have tail := ih (progress.after source counts [term item]) (serves.after [term item])
      (merge item start (counts (term item)))
    unfold gather at tail ⊢
    rw [List.foldlM_cons, bind_assoc, bind_ok first, pure_bind, tail]
    simp [Progress.after, Source.after, lookupEvents]

def steadyEvents (combine : Combiner) (counts : String → ResultSet) (plan : Plan) : List Event :=
  lookupEvents counts (plan.seed :: plan.steps.map (·.term)) ++
    (plan.dangling.map .trailingOperator).toList ++ lookupEvents counts plan.exclusions ++
    [.completed (plan.evaluate combine counts).size]

theorem execute_of_serves (serves : source.Serves counts progress.source) (combine : Combiner)
    (plan : Plan) :
    execute source combine plan progress =
      (.ok (plan.evaluate combine counts),
        { source := source.after plan.lookups progress.source
          events := progress.events ++ steadyEvents combine counts plan }) := by
  have seed := lookup_of_serves serves plan.seed
  have joined := gather_of_serves (progress.after source counts [plan.seed]) (serves.after _)
    Step.term (·.operator.apply combine) plan.steps (counts plan.seed)
  unfold execute
  rw [bind_ok seed, bind_ok joined, bind_ok (a := ()) (rfl : report _ _ = _),
    bind_ok (gather_of_serves _ ((serves.after _).after _) ..)]
  refine (bind_ok (a := ()) (rfl : report _ _ = _)).trans ?_
  show (_, _) = (_, _)
  simp [steadyEvents, lookupEvents, Plan.evaluate, Plan.joined, Progress.after, Plan.lookups,
    ← Source.after_append]

theorem answer_run_eq_evaluate {state opened : σ} {file : Option OpenFile}
    (connected : source.connect state = (.ok file, opened)) (serves : source.Serves counts opened)
    (combine : Combiner) (tokens : List String) :
    (run source combine tokens state).answer =
      (Plan.parse tokens).map (Plan.evaluate combine counts) := by
  unfold run
  cases parsed : Plan.parse tokens with
  | error error => rfl
  | ok plan =>
    have serving : source.Serves counts (Progress.mk opened []).source := serves
    have executed := execute_of_serves serving combine plan
    unfold runPlan
    rw [connected]
    show Except.mapError QueryError.store (execute source combine plan { source := opened }).1 = _
    rw [executed]
    rfl

end Query

end TermSearch
