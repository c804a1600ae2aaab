import TermSearch.Json.Value.Lexemes

/-!
Wherever a text is cut, what is left of it reads as the lexemes of the whole text up to the cut, the
last of them shortened. The text of an object shows each cut, because its last character closes the
object.
-/

namespace TermSearch.Json

def Numeral.Begins (m n : Numeral) : Prop :=
  ∀ k, n.natural? = some k → ∃ j ≤ k, m.natural? = some j

namespace Numeral

theorem begins_refl (n : Numeral) : n.Begins n := fun k natural => ⟨k, Nat.le_refl k, natural⟩

theorem Begins.trans {l m n : Numeral} (first : l.Begins m) (second : m.Begins n) : l.Begins n := by
  intro k natural
  obtain ⟨j, below, natural⟩ := second k natural
  obtain ⟨i, further, natural⟩ := first j natural
  exact ⟨i, Nat.le_trans further below, natural⟩

theorem natural?_eq_some {n : Numeral} {k : Nat} (natural : n.natural? = some k) :
    n.negative = false ∧ n.fraction = none ∧ n.power = none ∧ k = decimal n.whole := by
  unfold natural? at natural
  split at natural
  · contradiction
  · next spelled =>
    simp only [not_or, Bool.not_eq_true, Option.isSome_eq_false_iff, Option.isNone_iff_eq_none]
      at spelled
    exact ⟨spelled.1, spelled.2.1, spelled.2.2, (Option.some.inj natural).symm⟩

theorem push?_whole {n next : Numeral} {c : Char} (pushed : n.push? c = some next)
    (fraction : next.fraction = none) (power : next.power = none) :
    ∃ d, next = { n with whole := d :: n.whole } := by
  unfold push? at pushed
  split at pushed
  case h_1 =>
    obtain ⟨_, -, rfl⟩ := Option.map_eq_some_iff.1 pushed
    contradiction
  case h_2 =>
    cases pushed
    contradiction
  case h_3 d _ _ _ =>
    split at pushed
    · contradiction
    · exact ⟨d, (Option.some.inj pushed).symm⟩
  case h_4 =>
    -- A mark begins a power or a fraction.
    repeat' split at pushed
    all_goals cases pushed
    all_goals contradiction

theorem begins_of_push? {n next : Numeral} {c : Char} (pushed : n.push? c = some next) :
    n.Begins next := by
  intro k natural
  obtain ⟨positive, fraction, power, rfl⟩ := natural?_eq_some natural
  obtain ⟨d, rfl⟩ := push?_whole pushed fraction power
  refine ⟨decimal n.whole, ?_, ?_⟩
  · show decimal n.whole ≤ d + 10 * decimal n.whole
    omega
  · simp only at positive fraction power
    simp [natural?, positive, fraction, power]

end Numeral

namespace Quote

theorem isOk_of_map {kept : Except Fault (List Char)} {α : Type} {f : List Char → α}
    (ok : (kept.map f).isOk) : kept.isOk := by
  cases kept with
  | error fault => exact ok
  | ok text => rfl

theorem isOk_of_push (q : Quote) (c : Char) (ok : (q.push c).kept.isOk) : q.kept.isOk := by
  unfold push at ok
  split at ok
  · contradiction
  · exact isOk_of_map ok

theorem isOk_of_pushUnit (q : Quote) (unit : Nat) (ok : (q.pushUnit unit).kept.isOk) :
    q.kept.isOk := by
  unfold pushUnit at ok
  dsimp only at ok
  repeat' split at ok
  · exact isOk_of_map ok
  · contradiction
  · contradiction
  · exact ok
  · exact q.isOk_of_push _ ok

theorem isOk_of_close (q : Quote)
    (ok : (if q.half.isSome then .error .grammar
      else q.kept.map fun cs => String.ofList cs.reverse : Except Fault String).isOk) :
    q.kept.isOk := by
  split at ok
  · contradiction
  · exact isOk_of_map ok

end Quote

/-- What a lexeme can become when the text ends inside of it. -/
inductive Lexeme.Shortened : Lexeme → Lexeme → Prop
  | word (read : Except Fault Unit) : Shortened (.word read) (.word (.error .truncated))
  | number {read read' : Except Fault Numeral}
      (cut : ∀ n, read = .ok n → read' = .error .truncated ∨ ∃ m, read' = .ok m ∧ m.Begins n) :
      Shortened (.number read) (.number read')
  | string {kept kept' : Except Fault String} (skipped : Except Fault Unit)
      (cut : kept.isOk → kept' = .error .truncated) :
      Shortened (.string kept skipped) (.string kept' (.error .truncated))

/-- A list of lexemes without its end: the cut falls before a lexeme, into one or after one. -/
inductive Cut : List Lexeme → List Lexeme → Prop
  | before (lexeme : Lexeme) (rest : List Lexeme) : Cut (lexeme :: rest) []
  | within {lexeme shortened : Lexeme} (rest : List Lexeme) (part : lexeme.Shortened shortened) :
      Cut (lexeme :: rest) [shortened]
  | after {rest read : List Lexeme} (lexeme : Lexeme) (cut : Cut rest read) :
      Cut (lexeme :: rest) (lexeme :: read)

namespace Cut

theorem append_left {rest read : List Lexeme} (done : List Lexeme) (cut : Cut rest read) :
    Cut (done ++ rest) (done ++ read) := by
  induction done with
  | nil => exact cut
  | cons lexeme done ih => exact .after lexeme ih

theorem append_right {whole read : List Lexeme} (cut : Cut whole read) (more : List Lexeme) :
    Cut (whole ++ more) read := by
  induction cut with
  | before lexeme rest => exact .before lexeme (rest ++ more)
  | within rest part => exact .within (rest ++ more) part
  | after lexeme _ ih => exact .after lexeme ih

theorem end_of_append (done : List Lexeme) (lexeme : Lexeme) (rest : List Lexeme) :
    Cut (done ++ lexeme :: rest) done := by
  simpa using (Cut.before lexeme rest).append_left done

end Cut

namespace Mode

def cut? : Mode → Option Lexeme
  | .between => none
  | .quote q => some q.cut
  | .numeral n => some (.number (if n.complete then .ok n else .error .truncated))
  | .word _ => some (.word (.error .truncated))

inductive Continues : Mode → Mode → Prop
  | word (rest rest' : List Char) : Continues (.word rest) (.word rest')
  | numeral {m n : Numeral} (begins : m.Begins n) : Continues (.numeral m) (.numeral n)
  | quote {q q' : Quote} (sound : q'.kept.isOk → q.kept.isOk) : Continues (.quote q) (.quote q')

theorem shortened_word (rest : List Char) (read : Except Fault Unit) :
    ∀ cut ∈ (word rest).cut?, (Lexeme.word read).Shortened cut := by
  rintro _ ⟨⟩
  exact .word read

theorem shortened_number {m : Numeral} {read : Except Fault Numeral}
    (begins : ∀ n, read = .ok n → m.Begins n) :
    ∀ cut ∈ (numeral m).cut?, (Lexeme.number read).Shortened cut := by
  rintro _ ⟨⟩
  refine .number fun n is => ?_
  split
  · exact .inr ⟨m, rfl, begins n is⟩
  · exact .inl rfl

theorem shortened_string {q : Quote} {kept : Except Fault String} {skipped : Except Fault Unit}
    (sound : kept.isOk → q.kept.isOk) :
    ∀ cut ∈ (quote q).cut?, (Lexeme.string kept skipped).Shortened cut := by
  rintro _ ⟨⟩
  refine .string skipped fun ok => ?_
  have whole := sound ok
  cases read : q.kept with
  | ok text => rfl
  | error fault =>
    rw [read] at whole
    contradiction

theorem Continues.shortened {earlier later : Mode} (continues : earlier.Continues later) :
    ∃ lexeme, later.cut? = some lexeme ∧ ∀ cut ∈ earlier.cut?, lexeme.Shortened cut := by
  cases continues with
  | word rest => exact ⟨_, rfl, shortened_word rest _⟩
  | @numeral m n begins =>
    refine ⟨_, rfl, shortened_number fun full is => ?_⟩
    split at is
    · exact Except.ok.inj is ▸ begins
    · contradiction
  | @quote q q' sound =>
    refine ⟨_, rfl, shortened_string fun ok => sound ?_⟩
    cases read : q'.kept with
    | ok text => rfl
    | error fault =>
      rw [read] at ok
      contradiction

theorem continues_self {mode : Mode} (within : mode ≠ .between) : mode.Continues mode := by
  cases mode with
  | between => contradiction
  | quote q => exact .quote id
  | numeral n => exact .numeral n.begins_refl
  | word rest => exact .word rest rest

end Mode

namespace Scan

variable {done : List Lexeme} {scan : Scan}

theorem finish_eq (done : List Lexeme) (mode : Mode) :
    ({ done, mode := some mode } : Scan).finish = done.reverse ++ mode.cut?.toList := by
  cases mode <;> simp [finish, Mode.cut?]

theorem suffix_start (done : List Lexeme) (c : Char) : done <:+ (start done c).done := by
  unfold start
  split
  case h_16 => split <;> simp
  all_goals simp

theorem quoteStep_cases (done : List Lexeme) (q : Quote) (c : Char) :
    (∃ next : Quote, quoteStep done q c = { done, mode := some (.quote next) } ∧
      (next.kept.isOk → q.kept.isOk)) ∨
    ∃ kept skipped, .string kept skipped :: done <:+ (quoteStep done q c).done ∧
      (kept.isOk → q.kept.isOk) := by
  have broken : ∃ kept skipped, .string kept skipped :: done <:+ Quote.broken :: done ∧
      (kept.isOk → q.kept.isOk) := ⟨_, _, List.suffix_refl _, nofun⟩
  unfold quoteStep
  -- Within the string, after a backslash, and within a `\u` escape.
  split
  case h_1 =>
    split
    · exact .inr ⟨_, _, List.suffix_refl _, q.isOk_of_close⟩
    split
    · exact .inl ⟨_, rfl, id⟩
    split
    · exact .inr broken
    · exact .inl ⟨_, rfl, q.isOk_of_push c⟩
  case h_2 =>
    split
    · exact .inl ⟨_, rfl, id⟩
    split
    · next c _ => exact .inl ⟨_, rfl, q.isOk_of_push c⟩
    · exact .inr broken
  case h_3 =>
    dsimp only
    split
    · exact .inl ⟨_, rfl, id⟩
    split
    · next unit _ => exact .inl ⟨_, rfl, q.isOk_of_pushUnit unit⟩
    · exact .inr broken

theorem numeralStep_cases (done : List Lexeme) (n : Numeral) (c : Char) :
    (∃ next, numeralStep done n c = within done next ∧ n.Begins next) ∨
    ∃ read, .number read :: done <:+ (numeralStep done n c).done ∧
      ∀ full, read = .ok full → full = n := by
  unfold numeralStep
  split
  · next pushed => exact .inl ⟨_, rfl, Numeral.begins_of_push? pushed⟩
  split
  · exact .inr ⟨.ok n, suffix_start _ c, fun full is => (Except.ok.inj is).symm⟩
  · exact .inr ⟨.error .grammar, List.suffix_refl _, nofun⟩

theorem wordStep_cases (done : List Lexeme) (rest : List Char) (c : Char) :
    (∃ next, wordStep done rest c = { done, mode := some (.word next) }) ∨
    ∃ read, .word read :: done <:+ (wordStep done rest c).done := by
  unfold wordStep
  split
  · split
    · exact .inr ⟨_, List.suffix_refl _⟩
    · exact .inl ⟨_, rfl⟩
  · exact .inr ⟨_, List.suffix_refl _⟩

/-- A character within a lexeme continues it or closes it. A lexeme that is closed would have been
shortened by an end of the text at an earlier place within it. -/
theorem step_of_continues {earlier mode : Mode} (continues : earlier.Continues mode)
    (done : List Lexeme) (c : Char) :
    (∃ next, step { done, mode := some mode } c = { done, mode := some next } ∧
      earlier.Continues next) ∨
    ∃ lexeme, lexeme :: done <:+ (step { done, mode := some mode } c).done ∧
      ∀ cut ∈ earlier.cut?, lexeme.Shortened cut := by
  cases continues with
  | word rest rest' =>
    obtain ⟨next, same⟩ | ⟨read, closed⟩ := wordStep_cases done rest' c
    · exact .inl ⟨.word next, same, .word rest next⟩
    · exact .inr ⟨_, closed, Mode.shortened_word rest read⟩
  | @numeral m n begins =>
    obtain ⟨next, same, further⟩ | ⟨read, closed, whole⟩ := numeralStep_cases done n c
    · exact .inl ⟨.numeral next, same, .numeral (begins.trans further)⟩
    · exact .inr ⟨_, closed, Mode.shortened_number fun full is => whole full is ▸ begins⟩
  | @quote q q' sound =>
    obtain ⟨next, same, kept⟩ | ⟨kept, skipped, closed, whole⟩ := quoteStep_cases done q' c
    · exact .inl ⟨.quote next, same, .quote fun ok => sound (kept ok)⟩
    · exact .inr ⟨_, closed, Mode.shortened_string fun ok => sound (whole ok)⟩

theorem suffix_step (scan : Scan) (c : Char) : scan.done <:+ (scan.step c).done := by
  obtain ⟨done, _ | mode⟩ := scan
  case none => exact List.suffix_refl _
  case some =>
    by_cases between : mode = .between
    · rw [between]
      exact suffix_start done c
    obtain ⟨next, same, -⟩ | ⟨lexeme, closed, -⟩ :=
      step_of_continues (Mode.continues_self between) done c
    · simp [same]
    · exact (List.suffix_cons _ _).trans closed

theorem finish_foldl (kept : done <:+ scan.done) (text : List Char) :
    ∃ more, (text.foldl step scan).finish = done.reverse ++ more := by
  induction text generalizing scan with
  | nil =>
    obtain ⟨later, same⟩ := kept
    obtain ⟨last, ended⟩ : ∃ last, scan.finish = scan.done.reverse ++ last :=
      ⟨_, List.reverse_append⟩
    exact ⟨later.reverse ++ last, by simp [ended, ← same]⟩
  | cons c text ih => exact ih (kept.trans (suffix_step scan c))

theorem finish_foldl_cons {lexeme : Lexeme} (kept : lexeme :: done <:+ scan.done) (text : List Char) :
    ∃ more, (text.foldl step scan).finish = done.reverse ++ lexeme :: more := by
  obtain ⟨more, read⟩ := finish_foldl kept text
  exact ⟨more, by simpa using read⟩

theorem finish_foldl_of_continues {earlier mode : Mode} (continues : earlier.Continues mode)
    (done : List Lexeme) (text : List Char) :
    ∃ lexeme more, (text.foldl step { done, mode := some mode }).finish =
        done.reverse ++ lexeme :: more ∧
      ∀ cut ∈ earlier.cut?, lexeme.Shortened cut := by
  induction text generalizing mode with
  | nil =>
    obtain ⟨lexeme, last, shortened⟩ := continues.shortened
    exact ⟨lexeme, [], by rw [List.foldl_nil, finish_eq, last]; rfl, shortened⟩
  | cons c text ih =>
    rw [List.foldl_cons]
    obtain ⟨next, same, goesOn⟩ | ⟨lexeme, closed, shortened⟩ := step_of_continues continues done c
    · rw [same]
      exact ih goesOn
    · obtain ⟨more, finished⟩ := finish_foldl_cons closed text
      exact ⟨lexeme, more, finished, shortened⟩

theorem foldl_stopped (done : List Lexeme) (text : List Char) :
    text.foldl step { done, mode := none } = { done, mode := none } := by
  induction text with
  | nil => rfl
  | cons c text ih => exact ih

theorem finish_eq_or_cut (scan : Scan) (rest : List Char) :
    scan.finish = (rest.foldl step scan).finish ∨ Cut (rest.foldl step scan).finish scan.finish := by
  obtain ⟨done, _ | mode⟩ := scan
  case none => exact .inl (by rw [foldl_stopped])
  case some =>
    by_cases between : mode = .between
    · subst between
      have kept : done <:+ ({ done } : Scan).done := List.suffix_refl done
      obtain ⟨more, finished⟩ := finish_foldl kept rest
      rw [finished, finish_eq]
      cases more with
      | nil => exact .inl rfl
      | cons lexeme more => exact .inr ((Cut.before lexeme more).append_left done.reverse)
    · have continues := Mode.continues_self between
      obtain ⟨lexeme, more, finished, shortened⟩ := finish_foldl_of_continues continues done rest
      obtain ⟨cut, under, -⟩ := continues.shortened
      rw [finished, finish_eq, under]
      exact .inr ((Cut.within more (shortened cut under)).append_left done.reverse)

end Scan

/-- The beginning of a text reads as the whole text does, or as a cut of that: the whole text may go
on with blanks, or with what is not read after a fault. -/
theorem lexemes_eq_or_cut (taken rest : List Char) :
    lexemes taken = lexemes (taken ++ rest) ∨ Cut (lexemes (taken ++ rest)) (lexemes taken) := by
  have read := Scan.finish_eq_or_cut (taken.foldl Scan.step {}) rest
  rwa [← List.foldl_append] at read

theorem exists_opening (layout : Layout) (members : List (String × Value)) :
    ∃ opening, (Value.object members).write layout = opening ++ ['\x7d'] ∧
      (Value.object members).lexemes = lexemes opening ++ [.closeBrace] := by
  cases members with
  | nil => exact ⟨['\x7b'], rfl, rfl⟩
  | cons first members =>
    obtain ⟨key, value⟩ := first
    have opened : Scan.step {} '\x7b' = { done := [.openBrace] } := rfl
    have first := Scan.foldl_write layout.inner
      [.colon, .string (.ok key) (.ok ()), .openBrace] value
    have further := Scan.foldl_writeMembers layout.inner first members
    refine ⟨'\x7b' :: layout.inner.newLine ++ quoted key ++ layout.colon ++
      value.write layout.inner ++ Value.writeMembers layout.inner members ++ layout.newLine,
      rfl, ?_⟩
    simp only [lexemes, List.foldl_append, List.foldl_cons]
    rw [opened, Scan.foldl_newLine, Scan.foldl_quoted, Scan.foldl_colon, further.finish_newLine]
    simp [Value.lexemes]

theorem cut_of_object {layout : Layout} {members : List (String × Value)} {taken rest : List Char}
    (written : (Value.object members).write layout = taken ++ rest) (proper : rest ≠ []) :
    Cut (Value.object members).lexemes (lexemes taken) := by
  obtain ⟨opening, closed, read⟩ := exists_opening layout members
  obtain ⟨missing, last, rfl⟩ := List.eq_nil_or_concat rest |>.resolve_left proper
  rw [written, List.concat_eq_append, ← List.append_assoc] at closed
  obtain ⟨rfl, -⟩ := List.append_inj' closed rfl
  rw [read]
  obtain same | cut := lexemes_eq_or_cut taken missing
  · rw [same]
    exact Cut.end_of_append _ _ _
  · exact cut.append_right _

end TermSearch.Json
