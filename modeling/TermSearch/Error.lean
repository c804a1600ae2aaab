/-!
Reading JSON text stops at the first fault. An index is unavailable when its file cannot be read as
text, and malformed when the text is not an index.
-/

namespace TermSearch

namespace Json

inductive Fault where
  | truncated
  | grammar
  | mismatch
deriving DecidableEq, Repr

end Json

inductive Obstacle where
  | notFound
  | isDirectory
  | notText
  | refused
deriving DecidableEq, Repr

inductive StoreError where
  | unavailable (path : String) (obstacle : Obstacle)
  | malformed (path : String) (fault : Json.Fault)
deriving DecidableEq, Repr

inductive QueryError where
  | noValidTerm
  | store (error : StoreError)
deriving DecidableEq, Repr

def StoreError.message : StoreError → String
  | .unavailable path _ => s!"index at {path} is unavailable"
  | .malformed path _ => s!"index at {path} is malformed"

def QueryError.message : QueryError → String
  | .noValidTerm => "Please enter at least one valid search term."
  | .store error => error.message

theorem bind_eq_ok {ε α β : Type} {first : Except ε α} {next : α → Except ε β} {result : β}
    (succeeded : (first >>= next) = .ok result) : ∃ a, first = .ok a ∧ next a = .ok result := by
  cases first with
  | error error => contradiction
  | ok a => exact ⟨a, rfl, succeeded⟩

theorem map_eq_ok {ε α β : Type} {first : Except ε α} {f : α → β} {result : β}
    (succeeded : first.map f = .ok result) : ∃ a, first = .ok a ∧ f a = result := by
  cases first with
  | error error => contradiction
  | ok a => exact ⟨a, rfl, Except.ok.inj succeeded⟩

end TermSearch
