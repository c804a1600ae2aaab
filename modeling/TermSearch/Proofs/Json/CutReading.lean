import TermSearch.Proofs.Json.CutText
import TermSearch.Json.Reader.Written

/-!
A reader of counts or of tables also follows every cut of the lexemes that it takes a value from. Of
a count it may take the first digits when the text ends there; a table ends with its brace, so
nothing is taken of one that is cut off before it.
-/

namespace TermSearch.Json

namespace Numeral

theorem Begins.count {m n : Numeral} (begins : m.Begins n) {count : Relevance}
    (counted : n.count = .ok count) : ∃ less, m.count = .ok less := by
  obtain ⟨k, bounded, natural⟩ := natural?_of_count counted
  obtain ⟨j, below, natural⟩ := begins k natural
  refine ⟨.ofNat j, ?_⟩
  rw [Numeral.count, natural]
  exact if_pos (Nat.le_trans below bounded)

end Numeral

namespace Reader

variable {α β σ : Type}

/-- No lexeme is left: the value is not complete, or might have gone on. -/
def Exhausted (result : Except Fault (α × List Lexeme)) : Prop :=
  result = .error .truncated ∨ ∃ a, result = .ok (a, [])

/-- On a cut of lexemes of which it takes a value, the reader runs out of lexemes, or takes the same
value and leaves a cut of what follows. -/
def Follows (reader : Reader α) : Prop :=
  ∀ ⦃whole rest a⦄, reader whole = .ok (a, rest) → ∀ ⦃part⦄, Cut whole part →
    Exhausted (reader part) ∨ ∃ left, reader part = .ok (a, left) ∧ Cut rest left

def Closes (reader : Reader α) : Prop :=
  ∀ ⦃whole rest a⦄, reader whole = .ok (a, rest) → ∀ ⦃part⦄, Cut whole part →
    reader part = .error .truncated ∨ ∃ left, reader part = .ok (a, left) ∧ Cut rest left

theorem Closes.follows {reader : Reader α} (closes : reader.Closes) : reader.Follows :=
  fun _ _ _ taken _ cut => (closes taken cut).imp_left .inl

theorem count_number (n : Numeral) (rest : List Lexeme) :
    count (.number (.ok n) :: rest) = n.count.map (·, rest) := by
  show (n.count >>= fun count => pure (count, rest)) = _
  cases n.count <;> rfl

theorem count_eq_ok {whole rest : List Lexeme} {a : Relevance} (taken : count whole = .ok (a, rest)) :
    ∃ n, whole = .number (.ok n) :: rest ∧ n.count = .ok a := by
  unfold count at taken
  split at taken
  · contradiction
  · obtain ⟨n, rfl, counting⟩ := bind_eq_ok taken
    obtain ⟨count, counted, same⟩ := bind_eq_ok counting
    cases same
    exact ⟨n, rfl, counted⟩
  · contradiction

theorem follows_count : count.Follows := by
  intro whole rest a taken part cut
  obtain ⟨n, rfl, counted⟩ := count_eq_ok taken
  cases cut with
  | before => exact .inl (.inl rfl)
  | within _ shortened =>
    cases shortened with
    | number cut =>
      obtain rfl | ⟨m, rfl, begins⟩ := cut n rfl
      · exact .inl (.inl rfl)
      · obtain ⟨less, counted⟩ := begins.count counted
        exact .inl (.inr ⟨less, by rw [count_number, counted]; rfl⟩)
  | @after _ left _ cut => exact .inr ⟨left, by rw [count_number, counted]; rfl, cut⟩

theorem Follows.memberValue {reader : Reader α} (follows : reader.Follows) :
    (memberValue reader).Follows := by
  intro whole rest a taken part cut
  unfold Reader.memberValue at taken
  split at taken
  · contradiction
  · cases cut with
    | before => exact .inl (.inl rfl)
    | within _ shortened => cases shortened
    | after _ cut => exact follows taken cut
  · contradiction

theorem Follows.map {reader : Reader α} (follows : reader.Follows) (f : α → β) :
    Follows fun lexemes => do
      let (a, rest) ← reader lexemes
      return (f a, rest) := by
  intro whole rest b taken part cut
  obtain ⟨⟨a, after⟩, read, same⟩ := bind_eq_ok taken
  cases same
  dsimp only
  obtain (short | ⟨less, short⟩) | ⟨left, read, cut⟩ := follows read cut
  · exact .inl (.inl (by rw [short]; rfl))
  · exact .inl (.inr ⟨f less, by rw [short]; rfl⟩)
  · exact .inr ⟨left, by rw [read]; rfl, cut⟩

section

variable {member : String → σ → Reader σ}

theorem members_of_end {key : String} {skipped : Except Fault Unit} {lexeme : Lexeme}
    {bound rest : List Lexeme} {state next : σ} (read : member key state rest = .ok (next, [])) :
    members member (lexeme :: bound) state (.string (.ok key) skipped :: rest) =
      .error .truncated := by
  rw [members]
  simp [bind, Except.bind, read]

theorem members_eq_ok {bound whole rest : List Lexeme} {state final : σ}
    (taken : members member bound state whole = .ok (final, rest)) :
    ∃ key skipped lexemes next after lexeme bound',
      whole = .string (.ok key) skipped :: lexemes ∧ bound = lexeme :: bound' ∧
      member key state lexemes = .ok (next, after) ∧
      ((∃ more, after = .comma :: more ∧ members member bound' next more = .ok (final, rest)) ∨
        after = .closeBrace :: rest ∧ next = final) := by
  unfold members at taken
  split at taken
  · next kept skipped lexemes =>
    cases bound with
    | nil => contradiction
    | cons lexeme bound =>
      obtain ⟨key, rfl, reading⟩ := bind_eq_ok taken
      obtain ⟨⟨next, after⟩, read, further⟩ := bind_eq_ok reading
      refine ⟨key, skipped, lexemes, next, after, lexeme, bound, rfl, rfl, read, ?_⟩
      dsimp only at further
      split at further
      · contradiction
      · exact .inl ⟨_, rfl, further⟩
      · cases further
        exact .inr ⟨rfl, rfl⟩
      · contradiction
  · contradiction
  · contradiction

theorem member_of_cut {key : String} {skipped : Except Fault Unit} {rest after part : List Lexeme}
    {state next : σ} (follows : (member key state).Follows)
    (read : member key state rest = .ok (next, after))
    (cut : Cut (.string (.ok key) skipped :: rest) part) (bound : List Lexeme) :
    members member bound state part = .error .truncated ∨
      ∃ lexemes left lexeme bound', part = .string (.ok key) skipped :: lexemes ∧
        bound = lexeme :: bound' ∧ member key state lexemes = .ok (next, left) ∧ Cut after left := by
  cases cut with
  | before => exact .inl (by rw [members])
  | within _ shortened =>
    cases shortened with
    | string _ cut =>
      obtain rfl := cut rfl
      cases bound <;> exact .inl rfl
  | @after _ lexemes _ cut =>
    cases bound with
    | nil => exact .inl (by rw [members])
    | cons lexeme bound =>
      obtain (short | ⟨other, short⟩) | ⟨left, taken, cut⟩ := follows read cut
      · exact .inl (members_of_error short)
      · exact .inl (members_of_end short)
      · exact .inr ⟨lexemes, left, lexeme, bound, rfl, rfl, taken, cut⟩

theorem members_of_cut (follows : ∀ key state, (member key state).Follows)
    {bound whole rest : List Lexeme} {state final : σ}
    (taken : members member bound state whole = .ok (final, rest)) (bound' : List Lexeme)
    {part : List Lexeme} (cut : Cut whole part) :
    members member bound' state part = .error .truncated ∨
      ∃ left, members member bound' state part = .ok (final, left) ∧ Cut rest left := by
  -- The bounds of the two readings differ, because each is taken from the lexemes that are there.
  induction bound generalizing bound' state whole part with
  | nil =>
    obtain ⟨_, _, _, _, _, _, _, -, none_, -⟩ := members_eq_ok taken
    contradiction
  | cons lexeme bound ih =>
    obtain ⟨key, skipped, lexemes, next, after, _, _, rfl, same, read, further⟩ := members_eq_ok taken
    cases same
    obtain short | ⟨lexemes, left, lexeme, bound', rfl, rfl, read, cut⟩ :=
      member_of_cut (follows key state) read cut bound'
    · exact .inl short
    obtain ⟨more, rfl, taken⟩ | ⟨rfl, rfl⟩ := further
    · cases cut with
      | before => exact .inl (members_of_end read)
      | within _ shortened => cases shortened
      | after _ cut =>
        rw [members_of_comma read]
        exact ih taken bound' cut
    · cases cut with
      | before => exact .inl (members_of_end read)
      | within _ shortened => cases shortened
      | @after _ left _ cut => exact .inr ⟨left, members_of_closeBrace read, cut⟩

theorem object_of_cut {kept : Except Fault String} {skipped : Except Fault Unit}
    {rest part : List Lexeme} (start : σ) (cut : Cut (.string kept skipped :: rest) part) :
    object member start (.openBrace :: part) = members member part start part := by
  cases cut with
  | before => rfl
  | within _ shortened => cases shortened; rfl
  | after => rfl

theorem closes_object (follows : ∀ key state, (member key state).Follows) (start : σ) :
    (object member start).Closes := by
  intro whole rest a taken part cut
  unfold object at taken
  split at taken
  · contradiction
  · cases taken
    cases cut with
    | before => exact .inl rfl
    | within _ shortened => cases shortened
    | after _ cut =>
      cases cut with
      | before => exact .inl rfl
      | within _ shortened => cases shortened
      | @after _ left _ cut => exact .inr ⟨left, rfl, cut⟩
  · cases cut with
    | before => exact .inl rfl
    | within _ shortened => cases shortened
    | after _ cut =>
      obtain ⟨key, skipped, lexemes, _, _, _, _, rfl, -, -, -⟩ := members_eq_ok taken
      rw [object_of_cut start cut]
      exact members_of_cut follows taken _ cut
  · contradiction

end

theorem closes_table {reader : Reader α} (follows : reader.Follows) : (table reader).Closes := by
  refine closes_object (fun key (table : Table α) => ?_) ∅
  exact follows.memberValue.map (table.insert key)

end Reader

end TermSearch.Json
