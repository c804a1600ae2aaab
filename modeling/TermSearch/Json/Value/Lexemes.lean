import TermSearch.Json.Written

/-!
Whatever the layout, the text of a value reads as the same lexemes. A number at the end of a text is
not closed yet, so the induction carries what the scan does at the next separator.
-/

namespace TermSearch.Json

namespace Value

mutual

def lexemes : Value → List Lexeme
  | .null | .bool _ => [.word (.ok ())]
  | .number n => [.number (.ok n.numeral)]
  | .string s => [.string (.ok s) (.ok ())]
  | .array [] => [.openBracket, .closeBracket]
  | .array (item :: items) =>
    .openBracket :: (lexemes item ++ itemLexemes items ++ [.closeBracket])
  | .object [] => [.openBrace, .closeBrace]
  | .object ((key, value) :: members) =>
    .openBrace :: .string (.ok key) (.ok ()) :: .colon ::
      (lexemes value ++ memberLexemes members ++ [.closeBrace])

def itemLexemes : List Value → List Lexeme
  | [] => []
  | item :: items => .comma :: (lexemes item ++ itemLexemes items)

def memberLexemes : List (String × Value) → List Lexeme
  | [] => []
  | (key, value) :: members =>
    .comma :: .string (.ok key) (.ok ()) :: .colon :: (lexemes value ++ memberLexemes members)

end

end Value

namespace Scan

def separators : List Char := [',', '\n', ']', '\x7d']

/-- The scan holds the lexemes `done`, the last one first, and a separator closes the last one. -/
structure Reads (done : List Lexeme) (scan : Scan) : Prop where
  finish : scan.finish = done.reverse
  step : ∀ c ∈ separators, scan.step c = start done c

variable {done : List Lexeme} {scan : Scan}

theorem reads_between (done : List Lexeme) : Reads done { done } := ⟨rfl, fun _ _ => rfl⟩

theorem reads_within {n : Numeral} (done : List Lexeme) (complete : n.complete = true) :
    Reads (.number (.ok n) :: done) (within done n) where
  finish := by simp [Scan.finish, within, complete]
  step c separator := by
    have refused : n.push? c = none ∧ digit? c = none := by
      simp only [separators, List.mem_cons, List.not_mem_nil, or_false] at separator
      rcases separator with rfl | rfl | rfl | rfl <;>
        exact ⟨by
          unfold Numeral.push?
          cases n.power <;> cases n.fraction <;> simp [complete, digit?, Power.push?], rfl⟩
    show numeralStep done n c = _
    simp [numeralStep, refused, complete]

theorem Reads.foldl (reads : Reads done scan) {c : Char} (separator : c ∈ separators)
    (rest : List Char) : (c :: rest).foldl Scan.step scan = (c :: rest).foldl Scan.step { done } := by
  rw [List.foldl_cons, List.foldl_cons, reads.step c separator]
  rfl

theorem foldl_newLine (done : List Lexeme) (layout : Layout) :
    layout.newLine.foldl Scan.step { done } = { done } := by
  have blanks (n : Nat) : (List.replicate n ' ').foldl Scan.step { done } = { done } := by
    induction n with
    | zero => rfl
    | succ n ih => exact ih
  cases layout with
  | none => rfl
  | some depth => exact blanks (2 * depth)

theorem Reads.step_newLine (reads : Reads done scan) (layout : Layout) {c : Char}
    (separator : c ∈ separators) : (layout.newLine.foldl Scan.step scan).step c = start done c := by
  cases layout with
  | none => exact reads.step c separator
  | some depth =>
    have lined := foldl_newLine done (some depth)
    rw [Layout.newLine] at lined ⊢
    rw [reads.foldl (by decide), lined]
    rfl

theorem Reads.finish_newLine (reads : Reads done scan) (layout : Layout) :
    (layout.newLine.foldl Scan.step scan).finish = done.reverse := by
  cases layout with
  | none => exact reads.finish
  | some depth =>
    have lined := foldl_newLine done (some depth)
    rw [Layout.newLine] at lined ⊢
    rw [reads.foldl (by decide), lined]
    exact (reads_between done).finish

theorem foldl_colon (done : List Lexeme) (layout : Layout) :
    layout.colon.foldl Scan.step { done } = { done := .colon :: done } := by
  cases layout <;> rfl

mutual

theorem foldl_write (layout : Layout) (done : List Lexeme) : (value : Value) →
    Reads (value.lexemes.reverse ++ done) ((value.write layout).foldl Scan.step { done })
  | .null => reads_between _
  | .bool b => by cases b <;> exact reads_between _
  | .number n => by
    -- The number is still open here; a separator behind it closes it.
    rw [Value.write, foldl_text]
    exact reads_within done n.complete_numeral
  | .string s => by
    rw [Value.write, foldl_quoted]
    exact reads_between _
  | .array [] => reads_between _
  | .array (item :: items) => by
    have opened : step { done } '[' = { done := .openBracket :: done } := rfl
    have first := foldl_write layout.inner (.openBracket :: done) item
    have further := foldl_writeItems layout.inner first items
    have closed := further.step_newLine layout (c := ']') (by decide)
    simp only [Value.write, List.foldl_append, List.foldl_cons, List.foldl_nil]
    rw [opened, foldl_newLine, closed]
    simp only [Value.lexemes, List.reverse_cons, List.reverse_append, List.append_assoc]
    exact reads_between _
  | .object [] => reads_between _
  | .object ((key, value) :: members) => by
    have opened : step { done } '\x7b' = { done := .openBrace :: done } := rfl
    have first := foldl_write layout.inner
      (.colon :: .string (.ok key) (.ok ()) :: .openBrace :: done) value
    have further := foldl_writeMembers layout.inner first members
    have closed := further.step_newLine layout (c := '\x7d') (by decide)
    simp only [Value.write, List.foldl_append, List.foldl_cons, List.foldl_nil]
    rw [opened, foldl_newLine, foldl_quoted, foldl_colon, closed]
    simp only [Value.lexemes, List.reverse_cons, List.reverse_append, List.append_assoc]
    exact reads_between _

theorem foldl_writeItems (layout : Layout) {done : List Lexeme} {scan : Scan}
    (reads : Reads done scan) : (items : List Value) →
    Reads ((Value.itemLexemes items).reverse ++ done)
      ((Value.writeItems layout items).foldl Scan.step scan)
  | [] => reads
  | item :: items => by
    have comma : step scan ',' = { done := .comma :: done } := reads.step ',' (by decide)
    have first := foldl_write layout (.comma :: done) item
    have further := foldl_writeItems layout first items
    simp only [Value.writeItems, List.foldl_append, List.foldl_cons]
    rw [comma, foldl_newLine]
    simpa [Value.itemLexemes] using further

theorem foldl_writeMembers (layout : Layout) {done : List Lexeme} {scan : Scan}
    (reads : Reads done scan) : (members : List (String × Value)) →
    Reads ((Value.memberLexemes members).reverse ++ done)
      ((Value.writeMembers layout members).foldl Scan.step scan)
  | [] => reads
  | (key, value) :: members => by
    have comma : step scan ',' = { done := .comma :: done } := reads.step ',' (by decide)
    have first := foldl_write layout (.colon :: .string (.ok key) (.ok ()) :: .comma :: done) value
    have further := foldl_writeMembers layout first members
    simp only [Value.writeMembers, List.foldl_append, List.foldl_cons]
    rw [comma, foldl_newLine, foldl_quoted, foldl_colon]
    simpa [Value.memberLexemes] using further

end

end Scan

namespace Value

/-- The text reads as the lexemes of the value. Blanks and the escapes in strings are left open. -/
def SpelledBy (value : Value) (text : String) : Prop := Json.lexemes text.toList = value.lexemes

theorem spelledBy_write (value : Value) (layout : Layout) :
    value.SpelledBy (.ofList (value.write layout)) := by
  have read := (Scan.foldl_write layout [] value).finish
  rw [List.append_nil, List.reverse_reverse] at read
  rw [SpelledBy, String.toList_ofList]
  exact read

theorem spelledBy_write_line (value : Value) (layout : Layout) :
    value.SpelledBy (.ofList (value.write layout ++ ['\n'])) := by
  have read := (Scan.foldl_write layout [] value).finish_newLine (some 0)
  rw [List.append_nil, List.reverse_reverse] at read
  rw [SpelledBy, String.toList_ofList, Json.lexemes, List.foldl_append]
  exact read

theorem lexemes_eq_cons (value : Value) :
    ∃ first rest, value.lexemes = first :: rest ∧ first ≠ .closeBracket := by
  cases value with
  | array items => cases items <;> exact ⟨_, _, rfl, nofun⟩
  | object members => cases members <;> exact ⟨_, _, rfl, nofun⟩
  | null | bool | number | string => exact ⟨_, _, rfl, nofun⟩

end Value

end TermSearch.Json
