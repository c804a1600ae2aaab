import Mathlib.Data.List.Permutation
import TermSearch.CommandLine
import TermSearch.Proofs.Index.Saved
import TermSearch.Proofs.Query.ScanRefinement

namespace TermSearch

theorem Index.heldBy_of_saves {index : Index} {path : String} {folder saved : Folder}
    (saves : index.Saves path folder saved) : index.HeldBy (saved.read path) :=
  load_eq_ok_iff.mp (load_of_saves saves)

namespace CommandLine

theorem Given.suffix_of_read {given final : Given} {arguments tokens : List String}
    (read : given.read arguments = .ok (final, tokens)) : tokens <:+ arguments := by
  fun_induction Given.read given arguments with
  | case1 given =>
    cases read
    exact List.suffix_refl []
  | case2 given raw rest separates =>
    cases read
    exact List.suffix_cons raw tokens
  | case3 given raw rest begins =>
    cases read
    exact List.suffix_refl (raw :: rest)
  | case6 given raw rest flag flagged next raised ih =>
    exact (ih read).trans (List.suffix_cons raw rest)
  | case8 given raw rest setting value attached next set ih =>
    exact (ih read).trans (List.suffix_cons raw rest)
  | case14 given raw setting named value rest valued begins clear next set ih =>
    exact (ih read).trans (List.suffix_append [raw, value] rest)
  | _ => cases read

theorem Given.tokens_of_complete {given : Given} {env : Environment} {tokens : List String}
    {config : Config} (completed : given.complete env tokens = .ok config) :
    config.tokens = tokens := by
  unfold complete at completed
  dsimp only at completed
  -- Wherever the path and the level are taken from, the tokens are passed on.
  split at completed
  all_goals
    obtain ⟨index, -, completed⟩ := bind_eq_ok completed
    split at completed
    all_goals
      obtain ⟨level, -, completed⟩ := bind_eq_ok completed
      cases completed
      rfl

theorem suffix_of_parse {env : Environment} {arguments : List String} {config : Config}
    (parsed : parse env arguments = .ok config) : config.tokens <:+ arguments := by
  obtain ⟨⟨given, tokens⟩, read, completed⟩ := bind_eq_ok parsed
  rw [Given.tokens_of_complete completed]
  exact Given.suffix_of_read read

/-- A call that prints what the scan of its tokens comes to. -/
def Report.Prints (report : Report) (config : Config) (index : Index) : Prop :=
  report.code = 0 ∧
    ∃ results, Scan.answer index.counts config.scoring.combine config.tokens = .ok results ∧
      report.stdout = results.print config.matching config.json

variable {config : Config}

theorem answer_without_term (none : ∀ raw ∈ config.tokens, ¬ Token.Plain raw) (state : FileState) :
    answer config state = { stdout := "Please enter at least one valid search term.\n" } := by
  have parsed := Plan.parse_eq_error_iff.mpr ⟨none, rfl⟩
  have refused : outcome config state = ⟨.error .noValidTerm, ∅, []⟩ := by
    simp only [outcome, Query.run, parsed]
  rw [answer, refused]
  rfl

theorem answer_without_index {state : FileState} {plan : Plan}
    (parsed : Plan.parse config.tokens = .ok plan) (absent : ∀ index, ¬ Index.HeldBy index state) :
    (answer config state).stdout = "" ∧ (answer config state).code = 1 := by
  cases loaded : Index.load config.index state with
  | ok index => exact absurd (Index.load_eq_ok_iff.mp loaded) (absent index)
  | error error =>
    have refused : (outcome config state).answer = .error (.store error) := by
      simp only [outcome, loaded, Query.run, parsed]
      rfl
    simp only [answer, refused, and_self]

theorem prints_answer {state : FileState} {plan : Plan} {index : Index}
    (parsed : Plan.parse config.tokens = .ok plan) (held : index.HeldBy state) :
    (answer config state).Prints config index := by
  have connected : (Source.ofFile config.index (Index.load config.index state)).connect ∅ =
      (.ok (some ⟨config.index, index.size⟩), index) := by
    rw [Index.load_eq_ok_iff.mpr held]
    rfl
  have serves := Source.serves_ofFile config.index (Index.load config.index state) index
  have scanned : (outcome config state).answer =
      Scan.answer index.counts config.scoring.combine config.tokens :=
    Query.answer_run_of_serves connected serves config.scoring.combine config.tokens
  have evaluated : (outcome config state).answer =
      .ok (plan.evaluate config.scoring.combine index.counts) := by
    have answered := Query.answer_run_eq_evaluate connected serves config.scoring.combine config.tokens
    rw [parsed] at answered
    exact answered
  rw [Report.Prints, ← scanned, answer, evaluated]
  exact ⟨rfl, _, rfl, rfl⟩

theorem answer_congr {state other : FileState} {index : Index} (held : index.HeldBy state)
    (same : index.HeldBy other) : answer config state = answer config other := by
  have loaded : Index.load config.index state = .ok index := Index.load_eq_ok_iff.mpr held
  have again : Index.load config.index other = .ok index := Index.load_eq_ok_iff.mpr same
  simp only [answer, outcome, loaded, again]

theorem run_eq_answer {env : Environment} {arguments : List String}
    (parsed : parse env arguments = .ok config) (read : String → FileState) :
    run env arguments read = answer config (read config.index) := by
  rw [run, parsed]

theorem code_answer_ne_two (state : FileState) : (answer config state).code ≠ 2 := by
  unfold answer
  dsimp only
  split <;> simp

/-- A call ends with code 2 where its options are refused and no text was asked for, and only
there. -/
theorem code_run_eq_two_iff (env : Environment) (arguments : List String)
    (read : String → FileState) :
    (run env arguments read).code = 2 ↔
      ∃ error, parse env arguments = .error error ∧ error ≠ .helpAsked ∧ error ≠ .versionAsked := by
  unfold run
  cases parsed : parse env arguments with
  | error error => cases error <;> simp [usage]
  | ok config => simp [code_answer_ne_two]

/-- The three ends of a call, for every state of the index path. On a file that was saved the report
depends on nothing but the index: any other file that holds it, in whatever order its terms were
written, gives the same report. -/
theorem run_ends (env : Environment) {arguments : List String}
    (parsed : parse env arguments = .ok config) :
    config.tokens <:+ arguments ∧
    ((∀ raw ∈ config.tokens, ¬ Token.Plain raw) → ∀ read other,
      let report := run env arguments read
      report.stdout = "Please enter at least one valid search term.\n" ∧ report.code = 0 ∧
        run env arguments other = report) ∧
    ((∃ raw ∈ config.tokens, Token.Plain raw) → ∀ read,
      let report := run env arguments read
      ((∀ index, ¬ Index.HeldBy index (read config.index)) → report.stdout = "" ∧ report.code = 1) ∧
        ∀ index, Index.HeldBy index (read config.index) → report.Prints config index) ∧
    ∀ (index : Index) folder saved, index.Saves config.index folder saved →
      index.HeldBy (saved.read config.index) ∧
        ∀ read, index.HeldBy (read config.index) →
          run env arguments read = run env arguments saved.read := by
  refine ⟨suffix_of_parse parsed, ?_, ?_, ?_⟩
  · intro none read other report
    have said : report = _ := (run_eq_answer parsed read).trans (answer_without_term none _)
    have again := (run_eq_answer parsed other).trans (answer_without_term none _)
    rw [said]
    exact ⟨rfl, rfl, again⟩
  · rintro ⟨raw, listed, plain⟩ read report
    have answered : report = _ := run_eq_answer parsed read
    rw [answered]
    cases planned : Plan.parse config.tokens with
    | error error =>
      obtain ⟨none, -⟩ := Plan.parse_eq_error_iff.mp planned
      exact absurd plain (none raw listed)
    | ok plan => exact ⟨answer_without_index planned, fun index => prints_answer planned⟩
  · intro index folder saved saves
    have held := Index.heldBy_of_saves saves
    refine ⟨held, fun read same => ?_⟩
    rw [run_eq_answer parsed, run_eq_answer parsed, answer_congr same held]

/-- The terms are written in descending order here, and `docB` scores zero. -/
theorem run_ends_saved :
    let arguments := ["--index", "i.json", "--matching", "--", "cat", "OR", "dog", "-bird"]
    let rows : List (String × List (String × Relevance)) :=
      [("dog", [("docA", 2), ("docB", 0)]), ("cat", [("docC", 1)])]
    let saved : Folder := { entries := [(["i.json"], .file (Index.textOf rows).toUTF8)] }
    (run {} arguments saved.read).stdout = "docC=1\ndocA=2\n" ∧
      (run {} arguments fun _ => .directory).code = 1 := by
  intro arguments rows saved
  have parsed : parse {} arguments =
      .ok ⟨"i.json", .sum, true, false, .warn, ["cat", "OR", "dog", "-bird"]⟩ := rfl
  obtain ⟨-, -, searched, same⟩ := run_ends {} parsed
  have saves : (Index.ofRows rows).Saves "i.json" {} saved :=
    ⟨rows, by decide, Folder.write_eq_ok_iff.2 ⟨["i.json"], by decide, by decide, by decide, rfl, rfl⟩⟩
  obtain ⟨held, -⟩ := same _ _ _ saves
  have plain : ∃ raw ∈ ["cat", "OR", "dog", "-bird"], Token.Plain raw := by decide
  obtain ⟨-, results, answered, printed⟩ := (searched plain saved.read).2 _ held
  have scanned : Scan.answer (Index.ofRows rows).counts Scoring.sum.combine
      ["cat", "OR", "dog", "-bird"] = .ok (.ofList [("docA", 2), ("docB", 0), ("docC", 1)]) := by
    simp only [rows]
    rfl
  obtain rfl := Except.ok.inj (answered.symm.trans scanned)
  have text : ResultSet.print (.ofList [("docA", 2), ("docB", 0), ("docC", 1)]) true false =
      "docC=1\ndocA=2\n" := by cbv
  refine ⟨printed.trans text, ?_⟩
  have absent : ∀ index, ¬ Index.HeldBy index .directory := by
    rintro index ⟨text, file, -⟩
    cases file
  exact ((searched plain fun _ => .directory).1 absent).2

end CommandLine

end TermSearch
