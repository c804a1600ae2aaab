import TermSearch.Plan
import TermSearch.Source
import TermSearch.Event

/-!
Tokens are read into a plan first, so a query with nothing to search for touches no source. The
first look-up that fails ends the query.
-/

namespace TermSearch

def Plan.parsedEvent (plan : Plan) : Event :=
  .parsed plan.seed plan.steps.length plan.exclusions.length

namespace Query

structure Progress (σ : Type) where
  source : σ
  events : List Event := []

abbrev Action (σ : Type) := Source.Asking (Progress σ)

variable {σ : Type}

def report (events : List Event) : Action σ Unit :=
  modify fun progress => { progress with events := progress.events ++ events }

/-- One request to the source; a failed one changes its state too. -/
def request (source : Source σ) (term : String) : Action σ ResultSet :=
  ExceptT.mk fun progress =>
    let (answer, state) := source.lookup term progress.source
    (answer, { progress with source := state })

def lookup (source : Source σ) (term : String) : Action σ ResultSet := do
  let found ← request source term
  report [.lookedUp term found.size]
  return found

def gather {α : Type} (source : Source σ) (term : α → String)
    (merge : α → ResultSet → ResultSet → ResultSet) (items : List α) (start : ResultSet) :
    Action σ ResultSet :=
  items.foldlM (fun result item => return merge item result (← lookup source (term item))) start

def execute (source : Source σ) (combine : Combiner) (plan : Plan) : Action σ ResultSet := do
  let seed ← lookup source plan.seed
  let joined ← gather source Step.term (·.operator.apply combine) plan.steps seed
  report (plan.dangling.map .trailingOperator).toList
  let result ← gather source id (fun _ => ResultSet.difference) plan.exclusions joined
  report [.completed result.size]
  return result

structure Outcome (σ : Type) where
  answer : Except QueryError ResultSet
  source : σ
  events : List Event

/-- Connects to the source and executes the plan. A file that was opened is released at the end,
also after a look-up that failed. -/
def runPlan (source : Source σ) (combine : Combiner) (plan : Plan) (state : σ) : Outcome σ :=
  match source.connect state with
  | (.error error, state) => ⟨.error (.store error), state, []⟩
  | (.ok file, state) =>
    let (answer, final) := (execute source combine plan).run.run { source := state }
    { answer := answer.mapError .store
      source := final.source
      events := (file.map fun f => .opened f.path f.terms).toList ++ final.events ++
        (file.map fun f => .released f.path).toList }

def run (source : Source σ) (combine : Combiner) (tokens : List String) (state : σ) : Outcome σ :=
  match Plan.parse tokens with
  | .error error => ⟨.error error, state, []⟩
  | .ok plan =>
    let outcome := runPlan source combine plan state
    { outcome with events := plan.parsedEvent :: outcome.events }

end Query

end TermSearch
