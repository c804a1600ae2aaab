import TermSearch.Json.Lexeme
import TermSearch.Table

/-!
A reader takes a value of its type off the front of a list of lexemes, and stops at the first one
that cannot belong to such a value. A value nobody asked for is checked for its grammar only and may
be nested to any depth.
-/

namespace TermSearch.Json

inductive Bracket where
  | array
  | object
deriving DecidableEq, Repr

inductive Expected where
  | value
  | first
  | next
  | key
  | colon
deriving DecidableEq, Repr

/-- A value passed over in part: the brackets around the place reached, innermost first. -/
structure Skipping where
  expected : Expected := .value
  around : List Bracket := []
deriving DecidableEq, Repr

namespace Skipping

def finished (s : Skipping) : Bool := s.expected == .next && s.around.isEmpty

def value (around : List Bracket) : Lexeme → Except Fault Skipping
  | .word read => read.map fun _ => ⟨.next, around⟩
  | .number (.ok _) => .ok ⟨.next, around⟩
  | .string _ skipped => skipped.map fun _ => ⟨.next, around⟩
  | .openBracket => .ok ⟨.first, .array :: around⟩
  | .openBrace => .ok ⟨.first, .object :: around⟩
  | _ => .error .grammar

def key (around : List Bracket) : Lexeme → Except Fault Skipping
  | .string _ skipped => skipped.map fun _ => ⟨.colon, around⟩
  | _ => .error .grammar

def step (s : Skipping) (lexeme : Lexeme) : Except Fault Skipping :=
  match s.expected, s.around, lexeme with
  | .value, around, _ => value around lexeme
  | .first, .array :: outer, .closeBracket => .ok ⟨.next, outer⟩
  | .first, .array :: outer, _ => value (.array :: outer) lexeme
  | .first, .object :: outer, .closeBrace => .ok ⟨.next, outer⟩
  | .first, .object :: outer, _ => key (.object :: outer) lexeme
  | .next, .array :: outer, .closeBracket => .ok ⟨.next, outer⟩
  | .next, .array :: outer, .comma => .ok ⟨.value, .array :: outer⟩
  | .next, .object :: outer, .closeBrace => .ok ⟨.next, outer⟩
  | .next, .object :: outer, .comma => .ok ⟨.key, .object :: outer⟩
  | .key, around, _ => key around lexeme
  | .colon, around, .colon => .ok ⟨.value, around⟩
  | _, _, _ => .error .grammar

def run (s : Skipping) : List Lexeme → Except Fault (List Lexeme)
  | [] => .error .truncated
  | lexeme :: rest =>
    match s.step lexeme with
    | .error fault => .error fault
    | .ok s => if s.finished then .ok rest else run s rest

end Skipping

abbrev Reader (α : Type) := List Lexeme → Except Fault (α × List Lexeme)

namespace Reader

variable {α σ : Type}

def count : Reader Relevance
  | [] => .error .truncated
  | .number read :: rest => do return (← (← read).count, rest)
  | other :: _ => .error other.fault

def string : Reader String
  | [] => .error .truncated
  | .string kept _ :: rest => do return (← kept, rest)
  | other :: _ => .error other.fault

def skip : Reader Unit := fun lexemes => do return ((), ← Skipping.run {} lexemes)

def memberValue (value : Reader α) : Reader α
  | [] => .error .truncated
  | .colon :: rest => value rest
  | _ => .error .grammar

/-- The members of an object from the next key on. `member` reads what follows a key and brings it
into the running result. Every member uses up one lexeme of `bound` at least, so the lexemes left
bound the number of members. -/
def members (member : String → σ → Reader σ) (bound : List Lexeme) (state : σ) : Reader σ
  | .string kept _ :: rest => do
    match bound with
    | [] => .error .truncated
    | _ :: bound =>
      let (state, rest) ← member (← kept) state rest
      match rest with
      | [] => .error .truncated
      | .comma :: rest => members member bound state rest
      | .closeBrace :: rest => .ok (state, rest)
      | _ => .error .grammar
  | [] => .error .truncated
  | _ => .error .grammar

def object (member : String → σ → Reader σ) (start : σ) : Reader σ
  | [] => .error .truncated
  | .openBrace :: .closeBrace :: rest => .ok (start, rest)
  | .openBrace :: rest => members member rest start rest
  | other :: _ => .error other.fault

/-- An object with any keys, each value read alike. A repeated key keeps its last value. -/
def table (value : Reader α) : Reader (Table α) :=
  object (fun key table lexemes => do
    let (v, rest) ← memberValue value lexemes
    return (table.insert key v, rest)) ∅

def endArray : Reader Unit
  | [] => .error .truncated
  | .closeBracket :: rest => .ok ((), rest)
  | _ => .error .grammar

def nextItem? (item : Reader α) : Reader (Option α)
  | [] => .error .truncated
  | .closeBracket :: rest => .ok (none, .closeBracket :: rest)
  | .comma :: .closeBracket :: _ => .error .grammar
  | .comma :: rest => do
    let (value, rest) ← item rest
    return (some value, rest)
  | _ => .error .grammar

def firstItem? (item : Reader α) : Reader (Option α)
  | [] => .error .truncated
  | .closeBracket :: rest => .ok (none, .closeBracket :: rest)
  | lexemes => do
    let (value, rest) ← item lexemes
    return (some value, rest)

def moreItems (item : Reader α) : (bound : List Lexeme) → Reader (List α)
  | [], _ => .error .truncated
  | _ :: bound, lexemes => do
    match ← nextItem? item lexemes with
    | (some value, rest) => do
      let (values, rest) ← moreItems item bound rest
      return (value :: values, rest)
    | (none, rest) => do
      let (_, rest) ← endArray rest
      return ([], rest)

def list (item : Reader α) : Reader (List α)
  | [] => .error .truncated
  | .openBracket :: lexemes => do
    match ← firstItem? item lexemes with
    | (some value, rest) => do
      let (values, rest) ← moreItems item rest rest
      return (value :: values, rest)
    | (none, rest) => do
      let (_, rest) ← endArray rest
      return ([], rest)
  | other :: _ => .error other.fault

end Reader

def read {α : Type} (reader : Reader α) (text : String) : Except Fault α := do
  match ← reader (lexemes text.toList) with
  | (value, []) => return value
  | _ => throw .grammar

end TermSearch.Json
