import TermSearch.Index

/-!
Each answer of a source may depend on everything asked before, so a source is a machine that carries
a state.
-/

namespace TermSearch

structure OpenFile where
  path : String
  terms : Nat
deriving DecidableEq, Repr

structure Source (σ : Type) where
  /-- Gets ready for look-ups, and tells which file is held open from then on. -/
  connect : σ → Except StoreError (Option OpenFile) × σ
  lookup : String → σ → Except StoreError ResultSet × σ

namespace Source

variable {σ : Type}

abbrev Asking (σ : Type) := ExceptT StoreError (StateM σ)

def ask (source : Source σ) (term : String) : Asking σ ResultSet := ExceptT.mk (source.lookup term)

theorem bind_ok {α β : Type} {action : Asking σ α} {next : α → Asking σ β} {s t : σ} {a : α}
    (h : action s = (.ok a, t)) : (action >>= next) s = next a t := by
  show (ExceptT.bind action next) s = _
  simp only [ExceptT.bind, ExceptT.mk, bind, StateT.bind, h]
  rfl

theorem bind_error {α β : Type} {action : Asking σ α} {next : α → Asking σ β} {s t : σ}
    {error : StoreError} (h : action s = (.error error, t)) :
    (action >>= next) s = (.error error, t) := by
  show (ExceptT.bind action next) s = _
  simp only [ExceptT.bind, ExceptT.mk, bind, StateT.bind, h]
  rfl

def ofCounts (counts : String → ResultSet) : Source Unit where
  connect state := (.ok none, state)
  lookup term state := (.ok (counts term), state)

def ofIndex (index : Index) : Source Unit := ofCounts index.counts

/-- Answers as many look-ups as its state says, from an empty index, and refuses all later ones. -/
def unreachable : Source Nat where
  connect state := (.ok none, state)
  lookup _ state :=
    match state with
    | 0 => (.error (.unavailable "unreachable" .refused), 0)
    | left + 1 => (.ok ∅, left)

def ofFile (path : String) (load : Except StoreError Index) : Source Index where
  connect state :=
    match load with
    | .ok index => (.ok (some ⟨path, index.size⟩), index)
    | .error error => (.error error, state)
  lookup term state := (.ok (state.counts term), state)

structure Record where
  connections : Nat := 0
  lookups : List String := []
deriving DecidableEq, Repr

/-- Notes each request before it is passed on. The answers are those of the source within. -/
def recording (source : Source σ) : Source (σ × Record) where
  connect state :=
    let (answer, inner) := source.connect state.1
    (answer, inner, { state.2 with connections := state.2.connections + 1 })
  lookup term state :=
    let (answer, inner) := source.lookup term state.1
    (answer, inner, { state.2 with lookups := state.2.lookups ++ [term] })

end Source

end TermSearch
