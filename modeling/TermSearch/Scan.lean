import TermSearch.Source
import TermSearch.Token

/-!
The answer to a query computed straight from its tokens, without a plan. Counts are asked for one
term at a time, in any monad.
-/

namespace TermSearch.Scan

def isOperator (raw : String) : Bool := raw == "AND" || raw == "OR"

def excluded? (raw : String) : Option String :=
  if raw.toList.head? = some '-' then some (.ofList raw.toList.tail) else none

def isTerm (raw : String) : Bool := !isOperator raw && (excluded? raw).isNone

theorem excluded?_excluding (term : String) : excluded? (Token.excluding term) = some term := by
  simp [excluded?, Token.excluding]

theorem excluded?_word (operator : Operator) : excluded? operator.word = none := by
  cases operator <;> decide

theorem excluded?_plain {raw : String} (plain : Token.Plain raw) : excluded? raw = none := by
  obtain ⟨-, -, undashed⟩ := Token.plain_iff.mp plain
  rw [excluded?, if_neg undashed]

theorem isOperator_excluding (term : String) : isOperator (Token.excluding term) = false := by
  have excludes := Token.classify_excluding term
  rw [Bool.eq_false_iff]
  intro operator
  simp only [isOperator, Bool.or_eq_true, beq_iff_eq] at operator
  rcases operator with spelled | spelled
  · rw [spelled] at excludes
    cases excludes
  · rw [spelled] at excludes
    cases excludes

theorem isOperator_word (operator : Operator) : isOperator operator.word = true := by
  cases operator <;> rfl

theorem isOperator_plain {raw : String} (plain : Token.Plain raw) : isOperator raw = false := by
  obtain ⟨and, or, -⟩ := Token.plain_iff.mp plain
  simp [isOperator, and, or]

theorem isTerm_eq_true_iff (raw : String) : isTerm raw = true ↔ Token.Plain raw := by
  rcases Token.spelled_cases raw with ⟨term, rfl⟩ | ⟨operator, rfl⟩ | plain
  · simp [isTerm, excluded?_excluding, Token.Plain]
  · simp [isTerm, isOperator_word, Token.Plain]
  · simp [isTerm, isOperator_plain plain, excluded?_plain plain, plain]

section

variable {m : Type → Type} [Monad m] (ask : String → m ResultSet) (combine : Combiner)

def subtract (aside : List String) (result : ResultSet) : m ResultSet :=
  aside.foldlM (fun result term => return result.difference (← ask term)) result

/-- Goes on from a running result, with the terms set aside so far. -/
def walk (aside : List String) (result : ResultSet) : List String → m ResultSet
  | [] => subtract ask aside result
  | raw :: rest =>
    match excluded? raw with
    | some term => walk (aside ++ [term]) result rest
    | none =>
      if isOperator raw then
        match rest with
        | [] => subtract ask aside result
        | operand :: rest => do
          let other ← ask operand
          walk aside
            (if raw = "AND" then result.intersect other combine else result.union other combine) rest
      else do
        let other ← ask raw
        walk aside (result.intersect other combine) rest

/-- Passes over the tokens before the first plain term; none if there is no such term. -/
def seek (aside : List String) : List String → Option (m ResultSet)
  | [] => none
  | raw :: rest =>
    match excluded? raw with
    | some term => seek (aside ++ [term]) rest
    | none =>
      if isOperator raw then seek aside rest
      else some do
        let result ← ask raw
        walk ask combine aside result rest

def search (tokens : List String) : Option (m ResultSet) := seek ask combine [] tokens

end

def answer (counts : String → ResultSet) (combine : Combiner) (tokens : List String) :
    Except QueryError ResultSet :=
  match search (m := Id) counts combine tokens with
  | none => .error .noValidTerm
  | some result => .ok result

def run {σ : Type} (source : Source σ) (combine : Combiner) (tokens : List String) (state : σ) :
    Except QueryError ResultSet × σ :=
  match search source.ask combine tokens with
  | none => (.error .noValidTerm, state)
  | some result =>
    match source.connect state with
    | (.error error, state) => (.error (.store error), state)
    | (.ok _, state) =>
      let (answer, final) := result.run.run state
      (answer.mapError .store, final)

end TermSearch.Scan
