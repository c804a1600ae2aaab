import TermSearch.Query

namespace TermSearch

namespace Source

variable {α β ι σ τ : Type} {view : τ → σ}

/-- Seen through `view`, `outer` is `inner`. -/
def Sees (view : τ → σ) (outer : Asking τ α) (inner : Asking σ α) : Prop :=
  ∀ state, ((outer state).1, view (outer state).2) = inner (view state)

theorem sees_pure (a : α) : Sees view (pure a) (pure a) := fun _ => rfl

theorem sees_bind {outer : Asking τ α} {inner : Asking σ α} {outerNext : α → Asking τ β}
    {innerNext : α → Asking σ β} (first : Sees view outer inner)
    (rest : ∀ a, Sees view (outerNext a) (innerNext a)) :
    Sees view (outer >>= outerNext) (inner >>= innerNext) := by
  intro state
  have asked := first state
  rcases called : outer state with ⟨answer, after⟩
  rw [called] at asked
  cases answer with
  | error error => rw [bind_error called, bind_error asked.symm]
  | ok a =>
    rw [bind_ok called, bind_ok asked.symm]
    exact rest a after

theorem sees_foldlM {outer : α → ι → Asking τ α} {inner : α → ι → Asking σ α}
    (each : ∀ a item, Sees view (outer a item) (inner a item)) (items : List ι) (start : α) :
    Sees view (items.foldlM outer start) (items.foldlM inner start) := by
  induction items generalizing start with
  | nil => exact sees_pure start
  | cons item rest ih =>
    rw [List.foldlM_cons, List.foldlM_cons]
    exact sees_bind (each start item) ih

end Source

namespace Query

variable {α β σ : Type}

/-- Answer and source of a reporting action are those of `plain`, whatever was reported before. -/
def Agrees (action : Action σ α) (plain : Source.Asking σ α) : Prop :=
  ∀ progress, ((action progress).1, (action progress).2.source) = plain progress.source

theorem agrees_pure (a : α) : Agrees (pure a : Action σ α) (pure a) := fun _ => rfl

theorem agrees_bind {action : Action σ α} {plain : Source.Asking σ α} {next : α → Action σ β}
    {plainNext : α → Source.Asking σ β} (first : Agrees action plain)
    (rest : ∀ a, Agrees (next a) (plainNext a)) : Agrees (action >>= next) (plain >>= plainNext) := by
  have seen : Source.Sees Progress.source action plain := first
  exact Source.sees_bind seen rest

theorem agrees_report {action : Action σ α} {plain : Source.Asking σ α} (events : List Event)
    (rest : Agrees action plain) : Agrees (report events >>= fun _ => action) plain := by
  intro progress
  exact rest { progress with events := progress.events ++ events }

theorem agrees_lookup (source : Source σ) (term : String) :
    Agrees (lookup source term) (source.ask term) := by
  have asked : Agrees (request source term) (source.ask term) := fun _ => rfl
  have reported (found : ResultSet) :
      Agrees (report [.lookedUp term found.size] >>= fun _ => pure found)
        (pure found : Source.Asking σ ResultSet) :=
    agrees_report _ (agrees_pure found)
  have both := agrees_bind asked reported
  rw [bind_pure] at both
  exact both

theorem agrees_gather (source : Source σ) (term : α → String)
    (merge : α → ResultSet → ResultSet → ResultSet) (items : List α) (start : ResultSet) :
    Agrees (gather source term merge items start)
      (items.foldlM (fun result item => return merge item result (← source.ask (term item))) start) := by
  have each (result : ResultSet) (item : α) :
      Source.Sees Progress.source
        (do return merge item result (← lookup source (term item)))
        (do return merge item result (← source.ask (term item))) :=
    agrees_bind (agrees_lookup source (term item)) fun other => agrees_pure (merge item result other)
  exact Source.sees_foldlM each items start

theorem agrees_execute (source : Source σ) (combine : Combiner) (plan : Plan) :
    Agrees (execute source combine plan) (plan.evaluateM source.ask combine) := by
  unfold execute Plan.evaluateM Plan.joinedM
  rw [bind_assoc]
  apply agrees_bind (agrees_lookup source plan.seed)
  intro seed
  apply agrees_bind (agrees_gather source Step.term _ plan.steps seed)
  intro joined
  apply agrees_report
  have reported (result : ResultSet) :
      Agrees (report [.completed result.size] >>= fun _ => pure result)
        (pure result : Source.Asking σ ResultSet) :=
    agrees_report _ (agrees_pure result)
  have both := agrees_bind
    (agrees_gather source id (fun _ => ResultSet.difference) plan.exclusions joined) reported
  rw [bind_pure] at both
  exact both

theorem runPlan_of_connect {source : Source σ} {state opened : σ} {file : Option OpenFile}
    (connected : source.connect state = (.ok file, opened)) (combine : Combiner) (plan : Plan) :
    ((runPlan source combine plan state).answer, (runPlan source combine plan state).source) =
      ((plan.evaluateM source.ask combine opened).1.mapError .store,
        (plan.evaluateM source.ask combine opened).2) := by
  have agreed := agrees_execute source combine plan { source := opened }
  rw [← agreed]
  unfold runPlan
  rw [connected]
  rfl

end Query

end TermSearch
