import TermSearch.Query

/-!
Options come first, the query's tokens after them. Faults are reported in the order of the
arguments, but for one: an option whose value is not attached to it stays open until the argument
after the value is known, and a flag with a value in that place is refused before it.
-/

namespace TermSearch.CommandLine

inductive UsageError where
  | helpAsked
  | versionAsked
  | extraValue
  /-- An option has no value, an empty one, or one that it does not know. -/
  | badValue
  | badLevel
  | repeated
deriving DecidableEq, Repr

structure Config where
  index : String
  scoring : Scoring
  matching : Bool
  json : Bool
  level : Level
  tokens : List String
deriving DecidableEq, Repr

inductive Setting where
  | index
  | scoring
  | logLevel
deriving DecidableEq, Repr

inductive Flag where
  | matching
  | json
  | help
  | version
deriving DecidableEq, Repr

inductive Argument where
  | separator
  | setting (setting : Setting) (attached : Option String)
  | flag (flag : Flag) (attached : Option String)
  | token
deriving DecidableEq, Repr

def Setting.name : Setting → String
  | .index => "index"
  | .scoring => "scoring"
  | .logLevel => "log-level"

def Flag.name : Flag → String
  | .matching => "matching"
  | .json => "json"
  | .help => "help"
  | .version => "version"

namespace Argument

def ofName (name : String) (attached : Option String) : Argument :=
  match [Setting.index, .scoring, .logLevel].find? (·.name == name) with
  | some s => .setting s attached
  | none =>
    match [Flag.matching, .json, .help, .version].find? (·.name == name) with
    | some f => .flag f attached
    | none => .token

def ofLong (text : List Char) : Argument :=
  let name := String.ofList (text.takeWhile (· ≠ '='))
  match text.dropWhile (· ≠ '=') with
  | [] => ofName name none
  | _ :: value => ofName name (some (.ofList value))

/-- Letters after one dash. Only `h` and `V` are known, and the first one decides. -/
def ofLetters (letters : List Char) : Argument :=
  if letters.all fun c => c = 'h' ∨ c = 'V' then
    match letters with
    | [] => .token
    | c :: _ => .flag (if c = 'h' then .help else .version) none
  else .token

def classify (raw : String) : Argument :=
  match raw.toList with
  | ['-', '-'] => .separator
  | '-' :: '-' :: text => ofLong text
  | '-' :: letters => ofLetters letters
  | _ => .token

def hasExtraValue : Argument → Bool
  | .flag _ attached => attached.isSome
  | _ => false

end Argument

def scoring? (text : String) : Option Scoring :=
  if text = "sum" then some .sum else if text = "max" then some .max else none

/-- A natural number in decimal digits, with a plus sign or without. -/
def natural? (text : List Char) : Option Nat :=
  let digits := if text.head? = some '+' then text.tail else text
  if digits ≠ [] ∧ digits.all Char.isDigit then
    some (digits.foldl (fun n c => 10 * n + (c.toNat - '0'.toNat)) 0)
  else none

/-- A level by its name in any letter case, or by its verbosity. -/
def level? (text : String) : Option Level :=
  Level.all.find? fun level =>
    text.toList.map Char.toUpper == level.name.toList || natural? text.toList == some level.verbosity

structure Given where
  index : Option String := none
  scoring : Option Scoring := none
  level : Option Level := none
  matching : Bool := false
  json : Bool := false
deriving DecidableEq, Repr

def indexValue (value : String) : Except UsageError String :=
  if value = "" then .error .badValue else .ok value

def levelValue (value : String) : Except UsageError Level :=
  match level? value with
  | some level => .ok level
  | none => .error .badLevel

namespace Given

/-- An option given a second time is refused before its value is looked at. -/
def set (given : Given) (setting : Setting) (value : String) : Except UsageError Given :=
  match setting with
  | .index =>
    if given.index.isSome then .error .repeated
    else return { given with index := some (← indexValue value) }
  | .scoring =>
    if given.scoring.isSome then .error .repeated
    else match scoring? value with
      | some scoring => .ok { given with scoring := some scoring }
      | none => .error .badValue
  | .logLevel =>
    if given.level.isSome then .error .repeated
    else return { given with level := some (← levelValue value) }

def raise (given : Given) : Flag → Except UsageError Given
  | .matching => if given.matching then .error .repeated else .ok { given with matching := true }
  | .json => if given.json then .error .repeated else .ok { given with json := true }
  | .help => .error .helpAsked
  | .version => .error .versionAsked

def read (given : Given) : List String → Except UsageError (Given × List String)
  | [] => .ok (given, [])
  | raw :: rest =>
    match Argument.classify raw with
    | .separator => .ok (given, rest)
    | .token => .ok (given, raw :: rest)
    | .flag _ (some _) => .error .extraValue
    | .flag flag none =>
      match given.raise flag with
      | .error e => .error e
      | .ok given => read given rest
    | .setting setting (some value) =>
      match given.set setting value with
      | .error e => .error e
      | .ok given => read given rest
    | .setting setting none =>
      match rest with
      | [] => .error .badValue
      | value :: rest =>
        if (Argument.classify value).hasExtraValue then .error .extraValue
        else if Argument.classify value ≠ .token then .error .badValue
        else if rest.head?.any fun next => (Argument.classify next).hasExtraValue then
          .error .extraValue
        else
          match given.set setting value with
          | .error e => .error e
          | .ok given => read given rest

end Given

/-- The variables that stand in for options that are not given. -/
structure Environment where
  index : Option String := none
  log : Option String := none
deriving DecidableEq, Repr

def Given.complete (given : Given) (env : Environment) (tokens : List String) :
    Except UsageError Config := do
  let index ←
    match given.index, env.index with
    | some path, _ => pure path
    | none, some path => indexValue path
    | none, none => pure "index.json"
  let level ←
    match given.level, env.log with
    | some level, _ => pure level
    | none, some text => levelValue text
    | none, none => pure .warn
  return {
    index, level, tokens
    scoring := given.scoring.getD .sum
    matching := given.matching
    json := given.json }

def parse (env : Environment) (arguments : List String) : Except UsageError Config := do
  let (given, tokens) ← Given.read {} arguments
  given.complete env tokens

structure Report where
  code : Nat := 0
  stdout : String := ""
  log : List String := []
  failure : List String := []
  /-- What the argument parser puts into words of its own. -/
  usage : Option UsageError := none
deriving DecidableEq, Repr

def versionText : String := "wikiquery 0.1.0\n"

def failureLines (path : String) (error : StoreError) : List String :=
  [s!"Error: query failed against {path}", "", "Caused by:", s!"    0: {error.message}"]

def outcome (config : Config) (state : FileState) : Query.Outcome Index :=
  Query.run (.ofFile config.index (Index.load config.index state)) config.scoring.combine
    config.tokens ∅

def answer (config : Config) (state : FileState) : Report :=
  let outcome := outcome config state
  let log := logLines config.level outcome.events
  match outcome.answer with
  | .ok results => { stdout := results.print config.matching config.json, log }
  | .error .noValidTerm => { stdout := QueryError.noValidTerm.message ++ "\n", log }
  | .error (.store error) => { code := 1, log, failure := failureLines config.index error }

def opensIndex (config : Config) : Bool := (Plan.parse config.tokens).toBool

def usage : UsageError → Report
  | .versionAsked => { stdout := versionText }
  | .helpAsked => { usage := some .helpAsked }
  | error => { code := 2, usage := some error }

/-- One call of the program. `read` tells what stands at a path. -/
def run (env : Environment) (arguments : List String) (read : String → FileState) : Report :=
  match parse env arguments with
  | .error error => usage error
  | .ok config => answer config (read config.index)

end TermSearch.CommandLine
