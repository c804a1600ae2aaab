namespace TermSearch

inductive Operator where
  | and
  | or
deriving DecidableEq, Repr

def Operator.word : Operator → String
  | .and => "AND"
  | .or => "OR"

inductive Token where
  | operator (operator : Operator)
  | exclude (term : String)
  | term (text : String)
deriving DecidableEq, Repr

namespace Token

def classify (raw : String) : Token :=
  match raw.toList with
  | '-' :: rest => .exclude (String.ofList rest)
  | _ =>
    if raw = "AND" then .operator .and
    else if raw = "OR" then .operator .or
    else .term raw

def excluding (term : String) : String := String.ofList ('-' :: term.toList)

/-- A token searched for as it stands, wherever an operator does not come before it. -/
def Plain (raw : String) : Prop := classify raw = .term raw

instance (raw : String) : Decidable (Plain raw) := inferInstanceAs (Decidable (_ = _))

@[simp] theorem classify_excluding (term : String) : classify (excluding term) = .exclude term := by
  simp [classify, excluding]

@[simp] theorem classify_word (operator : Operator) : classify operator.word = .operator operator := by
  cases operator <;> rfl

theorem eq_of_classify_term {raw text : String} (h : classify raw = .term text) : raw = text := by
  unfold classify at h
  split at h
  · simp at h
  split at h
  · simp at h
  split at h
  · simp at h
  simpa using h

theorem eq_of_classify_operator {raw : String} {operator : Operator}
    (h : classify raw = .operator operator) : raw = operator.word := by
  unfold classify at h
  split at h
  · simp at h
  split at h
  · next eq => obtain rfl := Token.operator.inj h; exact eq
  split at h
  · next eq => obtain rfl := Token.operator.inj h; exact eq
  simp at h

theorem eq_of_classify_exclude {raw term : String} (h : classify raw = .exclude term) :
    raw = excluding term := by
  unfold classify at h
  split at h
  · next rest eq =>
    obtain rfl := Token.exclude.inj h
    rw [excluding, String.toList_ofList, ← eq, String.ofList_toList]
  split at h
  · simp at h
  split at h <;> simp at h

theorem plain_of_classify {raw text : String} (h : classify raw = .term text) : Plain text := by
  rw [Plain, ← eq_of_classify_term h, h, eq_of_classify_term h]

theorem plain_iff {raw : String} :
    Plain raw ↔ raw ≠ "AND" ∧ raw ≠ "OR" ∧ raw.toList.head? ≠ some '-' := by
  unfold Plain classify
  split
  · next rest spelled => simp [spelled]
  · next undashed =>
    have headless : raw.toList.head? ≠ some '-' := by
      intro dashed
      obtain ⟨rest, spelled⟩ := List.head?_eq_some_iff.mp dashed
      exact undashed rest spelled
    by_cases and : raw = "AND" <;> by_cases or : raw = "OR" <;> simp [and, or, headless]

theorem spelled_cases (raw : String) :
    (∃ term, raw = excluding term) ∨ (∃ operator : Operator, raw = operator.word) ∨ Plain raw := by
  cases read : classify raw with
  | exclude term => exact .inl ⟨term, eq_of_classify_exclude read⟩
  | operator operator => exact .inr (.inl ⟨operator, eq_of_classify_operator read⟩)
  | term text =>
    have plain := plain_of_classify read
    rw [← eq_of_classify_term read] at plain
    exact .inr (.inr plain)

end Token

end TermSearch
