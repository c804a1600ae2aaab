import TermSearch.Proofs.CommandLine.ArgumentKinds

/-!
What was read at any point is the configuration's own values for the parts met so far, so the order
in which they came is forgotten.
-/

namespace TermSearch.CommandLine

namespace Config

variable (config : Config)

/-- The configuration's own values for some parts, as if nothing else had been read. -/
def given (done : List Part) : Given where
  index := if .setting .index ∈ done then some config.index else none
  scoring := if .setting .scoring ∈ done then some config.scoring else none
  level := if .setting .logLevel ∈ done then some config.level else none
  matching := Part.flag .matching ∈ done
  json := Part.flag .json ∈ done

variable {config}

theorem set_given (named : config.index ≠ "") {setting : Setting} {value : String}
    (spelled : config.Spells value setting) {done : List Part} (fresh : .setting setting ∉ done) :
    (config.given done).set setting value = .ok (config.given (.setting setting :: done)) := by
  cases setting with
  | index =>
    have unread : (config.given done).index = none := if_neg fresh
    have read : indexValue value = .ok config.index := by
      rw [show value = config.index from spelled, indexValue, if_neg named]
    simp only [Given.set, unread, read]
    simp [given, pure, bind, Except.pure, Except.bind]
  | scoring =>
    have unread : (config.given done).scoring = none := if_neg fresh
    have read : scoring? value = some config.scoring := by
      rw [show value = scoringWord config.scoring from spelled]
      cases config.scoring <;> rfl
    simp only [Given.set, unread, read]
    simp [given]
  | logLevel =>
    have unread : (config.given done).level = none := if_neg fresh
    have read : levelValue value = .ok config.level := by
      rw [levelValue, level?_of_name spelled]
    simp only [Given.set, unread, read]
    simp [given, pure, bind, Except.pure, Except.bind]

theorem raise_given {flag : Flag} (raised : .flag flag ∈ config.parts) {done : List Part}
    (fresh : .flag flag ∉ done) :
    (config.given done).raise flag = .ok (config.given (.flag flag :: done)) := by
  cases flag with
  | matching => simp [Given.raise, given, fresh]
  | json => simp [Given.raise, given, fresh]
  | help | version =>
    cases m : config.matching <;> cases j : config.json <;> simp [parts, m, j] at raised

theorem complete_given {done : List Part} (perm : done.Perm config.parts) (env : Environment) :
    (config.given done).complete env config.tokens = .ok config := by
  have whole : config.given done =
      ⟨config.index, config.scoring, config.level, config.matching, config.json⟩ := by
    cases m : config.matching <;> cases j : config.json <;>
      simp [given, perm.mem_iff, parts, m, j]
  rw [whole]
  rfl

end Config

def Clear (rest : List String) : Prop :=
  (rest.head?.any fun next => (Argument.classify next).hasExtraValue) = false

theorem clear_arguments (written : Written) (rest : List String) :
    Clear (written.arguments ++ rest) := by
  cases written with
  | attached setting value =>
    show (Argument.classify _).hasExtraValue = false
    rw [Argument.classify_attached]
    rfl
  | apart setting value =>
    show (Argument.classify _).hasExtraValue = false
    rw [Argument.classify_argument]
    rfl
  | raised flag =>
    show (Argument.classify _).hasExtraValue = false
    rw [Argument.classify_argument]
    rfl

theorem clear_of_token {raw : String} (token : Argument.classify raw = .token) (rest : List String) :
    Clear (raw :: rest) := by
  show (Argument.classify raw).hasExtraValue = false
  rw [token]
  rfl

namespace Given

variable {given next : Given} {raw value : String} {setting : Setting} {flag : Flag}
  {rest : List String}

theorem read_attached (read : Argument.classify raw = .setting setting (some value))
    (set : given.set setting value = .ok next) : given.read (raw :: rest) = next.read rest := by
  rw [Given.read.eq_def]
  simp only [read, set]

theorem read_apart (read : Argument.classify raw = .setting setting none)
    (token : Argument.classify value = .token) (clear : Clear rest)
    (set : given.set setting value = .ok next) :
    given.read (raw :: value :: rest) = next.read rest := by
  have valueless : ¬ (Argument.classify value).hasExtraValue = true := by
    rw [token]
    exact Bool.false_ne_true
  rw [Given.read.eq_def]
  simp only [read]
  rw [if_neg valueless, if_neg (not_not_intro token), if_neg (Bool.eq_false_iff.mp clear), set]

theorem read_raised (read : Argument.classify raw = .flag flag none)
    (raised : given.raise flag = .ok next) : given.read (raw :: rest) = next.read rest := by
  rw [Given.read.eq_def]
  simp only [read, raised]

theorem read_separator : given.read ("--" :: rest) = .ok (given, rest) := by
  rw [Given.read.eq_def]
  rfl

theorem read_token (token : Argument.classify raw = .token) :
    given.read (raw :: rest) = .ok (given, raw :: rest) := by
  rw [Given.read.eq_def]
  simp only [token]

end Given

namespace Config

variable {config : Config} (named : config.index ≠ "")

include named in
theorem read_arguments {written : Written} (part : written.part ∈ config.parts)
    (values : config.Values written) {done : List Part} (fresh : written.part ∉ done)
    {rest : List String} (clear : Clear rest) :
    (config.given done).read (written.arguments ++ rest) =
      (config.given (written.part :: done)).read rest := by
  cases written with
  | attached setting value =>
    have read := Argument.classify_attached (.setting setting) value
    exact Given.read_attached read (set_given named values fresh)
  | apart setting value =>
    obtain ⟨spelled, undashed⟩ := values
    have read := Argument.classify_argument (.setting setting)
    have token := Argument.classify_undashed undashed
    exact Given.read_apart read token clear (set_given named spelled fresh)
  | raised flag =>
    have read := Argument.classify_argument (.flag flag)
    exact Given.read_raised read (raise_given part fresh)

include named in
theorem read_flatMap_arguments {written : List Written} {done : List Part}
    (parts : ∀ w ∈ written, w.part ∈ config.parts) (values : ∀ w ∈ written, config.Values w)
    (fresh : (done.reverse ++ written.map Written.part).Nodup) {rest : List String}
    (clear : Clear rest) :
    (config.given done).read (written.flatMap Written.arguments ++ rest) =
      (config.given ((written.map Written.part).reverse ++ done)).read rest := by
  induction written generalizing done with
  | nil => rfl
  | cons w more ih =>
    rw [List.forall_mem_cons] at parts values
    have first : w.part ∉ done := by
      have apart := (List.nodup_append.mp fresh).2.2
      exact fun met => apart w.part (List.mem_reverse.mpr met) w.part (by simp) rfl
    have follows : Clear (more.flatMap Written.arguments ++ rest) := by
      cases more with
      | nil => exact clear
      | cons next more =>
        rw [List.flatMap_cons, List.append_assoc]
        exact clear_arguments next _
    have later : (config.given (w.part :: done)).read _ = _ :=
      ih parts.2 values.2 (by simpa using fresh)
    rw [List.flatMap_cons, List.append_assoc, read_arguments named parts.1 values.1 first follows,
      later, List.map_cons, List.reverse_cons, List.append_assoc]
    rfl

theorem nodup_parts (config : Config) : config.parts.Nodup := by
  cases m : config.matching <;> cases j : config.json <;> simp [parts, m, j]

include named in
theorem parse_append {written : List Written} (writes : config.WrittenBy written)
    (env : Environment) {rest : List String} (clear : Clear rest)
    (tokens : ∀ given : Given, given.read rest = .ok (given, config.tokens)) :
    parse env (written.flatMap Written.arguments ++ rest) = .ok config := by
  have parts : ∀ w ∈ written, w.part ∈ config.parts := fun w mem =>
    writes.parts.mem_iff.mp (List.mem_map_of_mem mem)
  have fresh : (([] : List Part).reverse ++ written.map Written.part).Nodup :=
    writes.parts.nodup_iff.mpr config.nodup_parts
  have read : ({} : Given).read (written.flatMap Written.arguments ++ rest) = _ :=
    read_flatMap_arguments named parts writes.values fresh clear
  rw [List.append_nil, tokens] at read
  rw [parse, read]
  exact complete_given ((List.reverse_perm _).trans writes.parts) env

end Config

/-- Parsing reads back what a configuration writes, and keeps the tokens as they stand: any tokens
after a separator, and without one those of which the first is not reserved. -/
theorem parse_written (env : Environment) {config : Config} {written : List Written}
    (named : config.index ≠ "") (writes : config.WrittenBy written) :
    parse env (written.flatMap Written.arguments ++ "--" :: config.tokens) = .ok config ∧
      ((∀ first ∈ config.tokens.head?, ¬ Reserved first) →
        parse env (written.flatMap Written.arguments ++ config.tokens) = .ok config) := by
  constructor
  · exact Config.parse_append named writes env rfl fun given => given.read_separator
  · intro free
    cases tokens : config.tokens with
    | nil =>
      refine Config.parse_append named writes env rfl fun given => ?_
      rw [tokens]
      rfl
    | cons first more =>
      rw [tokens] at free
      have token := Argument.classify_eq_token_iff.mpr (free first rfl)
      refine Config.parse_append named writes env (clear_of_token token more) fun given => ?_
      rw [tokens]
      exact Given.read_token token

/-- The index begins with a dash and holds an equals sign, and the tokens after the first look like a
separator, a flag and a request for help. -/
theorem parse_written_dashes :
    let config : Config := ⟨"-a=b", .max, false, true, .debug, ["-dog", "--", "--json", "-h"]⟩
    let env : Environment := ⟨some "", some "loud"⟩
    parse env ["--json", "--log-level", "Debug", "--index=-a=b", "--scoring", "max",
        "-dog", "--", "--json", "-h"] = .ok config ∧
      parse env ["--json", "--log-level", "Debug", "--index=-a=b", "--scoring", "max",
        "--", "-dog", "--", "--json", "-h"] = .ok config := by
  intro config env
  have writes : config.WrittenBy
      [.raised .json, .apart .logLevel "Debug", .attached .index "-a=b", .apart .scoring "max"] :=
    ⟨by decide, by decide⟩
  have free : ¬ Reserved "-dog" := Argument.classify_eq_token_iff.mp rfl
  obtain ⟨separated, bare⟩ := parse_written env (by decide) writes
  refine ⟨bare ?_, separated⟩
  intro first head
  cases head
  exact free

end TermSearch.CommandLine
