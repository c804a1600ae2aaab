import TermSearch.Token
import TermSearch.Text.Quoted
import TermSearch.Text.Split

namespace TermSearch

inductive Level where
  | error
  | warn
  | info
  | debug
  | trace
deriving DecidableEq, Repr

namespace Level

def all : List Level := [.error, .warn, .info, .debug, .trace]

def name : Level → String
  | .error => "ERROR"
  | .warn => "WARN"
  | .info => "INFO"
  | .debug => "DEBUG"
  | .trace => "TRACE"

def verbosity : Level → Nat
  | .error => 1
  | .warn => 2
  | .info => 3
  | .debug => 4
  | .trace => 5

end Level

inductive Event where
  | parsed (seed : String) (steps exclusions : Nat)
  | opened (path : String) (terms : Nat)
  | lookedUp (term : String) (documents : Nat)
  | trailingOperator (operator : Operator)
  | completed (documents : Nat)
  | released (path : String)
deriving DecidableEq, Repr

/-- The value of an event's field. Quoted text is shown between double quotes in a log. -/
inductive FieldValue where
  | number (n : Nat)
  | plain (s : String)
  | quoted (s : String)
deriving DecidableEq, Repr

namespace Event

def level : Event → Level
  | .opened .. => .info
  | .trailingOperator _ => .warn
  | _ => .debug

def origin : Event → String
  | .parsed .. => "wikiquery::query"
  | .opened .. | .released _ => "wikiquery::store::json"
  | _ => "wikiquery::query::interpreter"

def message : Event → String
  | .parsed .. => "parsed query"
  | .opened .. => "opened index"
  | .lookedUp .. => "looked up term"
  | .trailingOperator _ => "query ends with an operator, ignoring it"
  | .completed _ => "query complete"
  | .released _ => "released index"

def fields : Event → List (String × FieldValue)
  | .parsed seed steps exclusions =>
    [("seed", .plain seed), ("steps", .number steps), ("exclusions", .number exclusions)]
  | .opened path terms => [("path", .plain path), ("terms", .number terms)]
  | .lookedUp term documents => [("term", .quoted term), ("documents", .number documents)]
  | .trailingOperator operator => [("operator", .plain operator.word)]
  | .completed documents => [("documents", .number documents)]
  | .released path => [("path", .plain path)]

end Event

def FieldValue.text : FieldValue → String
  | .number n => toString n
  | .plain s => s
  | .quoted s => quoteText s

def Event.line (event : Event) : String :=
  let fields := event.fields.map fun field => s!" {field.1}={field.2.text}"
  s!"{event.level.name} {event.origin}: {event.message}{String.join fields}"

/-- The lines of the events that are at most as verbose as `level`. Text that is not quoted may hold
line breaks, which make further lines. -/
def logLines (level : Level) (events : List Event) : List String :=
  (events.filter fun event => event.level.verbosity ≤ level.verbosity).flatMap fun event =>
    split '\n' event.line.toList

end TermSearch
