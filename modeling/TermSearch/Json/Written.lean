import TermSearch.Json.Lexeme
import TermSearch.Json.Value

namespace TermSearch.Json

namespace Scan

/-- Within a string of which `text` has been read, last character first. -/
def inside (done : List Lexeme) (text : List Char) : Scan :=
  { done, mode := some (.quote { kept := .ok text }) }

theorem step_inside {c : Char} (done : List Lexeme) (text : List Char) (quote : c ≠ '"')
    (backslash : c ≠ '\\') (printable : ¬ c < ' ') :
    step (inside done text) c = inside done (c :: text) := by
  simp [step, inside, quoteStep, quote, backslash, printable, Quote.push]
  rfl

theorem hexDigit?_hexDigit : ∀ n < 16, hexDigit? (hexDigit n) = some n := by decide

theorem utf8Size_hexDigit : ∀ n < 16, (hexDigit n).utf8Size = 1 := by decide

theorem foldl_hexEscape {n : Nat} (small : n < 32) (done : List Lexeme) (text : List Char) :
    ['\\', 'u', '0', '0', hexDigit (n / 16), hexDigit (n % 16)].foldl step (inside done text) =
      inside done (Char.ofNat n :: text) := by
  have high : n / 16 < 16 := by omega
  have start : ['\\', 'u', '0', '0'].foldl step (inside done text) =
      { done, mode := some (.quote { kept := .ok text, place := .hex 2 (some 0) }) } := rfl
  have value : 16 * (n / 16) + n % 16 = n := by omega
  have second : ¬ (0xDC00 ≤ n ∧ n ≤ 0xDFFF) := by omega
  have first : ¬ (0xD800 ≤ n ∧ n ≤ 0xDBFF) := by omega
  show [hexDigit (n / 16), hexDigit (n % 16)].foldl step
    (['\\', 'u', '0', '0'].foldl step (inside done text)) = _
  rw [start]
  simp [step, quoteStep, hexDigit?_hexDigit, utf8Size_hexDigit, high, Nat.mod_lt, inside,
    Quote.pushUnit, Quote.push, value, second, first]
  rfl

theorem foldl_escape (done : List Lexeme) (text : List Char) (c : Char) :
    (escape c).foldl step (inside done text) = inside done (c :: text) := by
  unfold escape
  split
  case h_8 quote backslash _ _ _ _ _ =>
    split
    · next control =>
      rw [foldl_hexEscape (show c.toNat < 32 from control), Char.ofNat_toNat]
    · next printable => exact step_inside done text quote backslash printable
  all_goals rfl

theorem foldl_flatMap_escape (done : List Lexeme) (cs text : List Char) :
    (cs.flatMap escape).foldl step (inside done text) = inside done (cs.reverse ++ text) := by
  induction cs generalizing text with
  | nil => rfl
  | cons c rest ih =>
    rw [List.flatMap_cons, List.foldl_append, foldl_escape, ih]
    simp

theorem foldl_quoted (done : List Lexeme) (s : String) :
    (quoted s).foldl step { done } = { done := .string (.ok s) (.ok ()) :: done } := by
  have opened : step { done } '"' = inside done [] := rfl
  rw [quoted, List.cons_append, List.foldl_cons, List.foldl_append, opened, foldl_flatMap_escape]
  simp [inside, step, quoteStep, Quote.close, Except.map]

end Scan

def digits (n : Nat) : List Nat := if n < 10 then [n] else n % 10 :: digits (n / 10)
termination_by n
decreasing_by omega

theorem digits_of_lt {n : Nat} (small : n < 10) : digits n = [n] := by
  rw [digits, if_pos small]

theorem digits_of_le {n : Nat} (large : 10 ≤ n) : digits n = n % 10 :: digits (n / 10) := by
  rw [digits, if_neg (by omega)]

@[simp] theorem decimal_digits (n : Nat) : decimal (digits n) = n := by
  induction n using Nat.strongRecOn with
  | _ n ih =>
    by_cases small : n < 10
    · rw [digits_of_lt small]
      simp [decimal]
    · rw [digits_of_le (by omega)]
      have rest := ih (n / 10) (by omega)
      simp only [decimal, List.foldr_cons] at rest ⊢
      omega

theorem digits_ne_zero {n : Nat} (positive : n ≠ 0) : digits n ≠ [0] := by
  intro same
  have value := decimal_digits n
  rw [same] at value
  exact positive (by simpa [decimal] using value.symm)

theorem digit?_digitChar : ∀ d < 10, digit? (Nat.digitChar d) = some d := by decide

theorem digits_ne_nil (n : Nat) : digits n ≠ [] := by
  unfold digits
  split <;> simp

theorem not_mem_toDigits {c : Char} (other : c.isDigit = false) (n : Nat) :
    c ∉ Nat.toDigits 10 n := by
  intro mem
  have digit := Nat.isDigit_of_mem_toDigits (by decide) (by decide) mem
  rw [other] at digit
  exact Bool.false_ne_true digit

def Exponent.power (e : Exponent) : Power where
  negative := e.sign = some .minus
  signed := e.sign.isSome
  digits := e.digits.reverse.map Fin.val

def Number.numeral (n : Number) : Numeral where
  negative := n.negative
  whole := digits n.whole
  fraction := if n.fraction = [] then none else some (n.fraction.reverse.map Fin.val)
  power := n.power.map Exponent.power

theorem Number.complete_numeral (n : Number) : n.numeral.complete = true := by
  obtain ⟨negative, whole, fraction, power⟩ := n
  cases power with
  | none => cases fraction <;> simp [numeral, Numeral.complete, digits_ne_nil]
  | some e =>
    cases fraction <;> simp [numeral, Numeral.complete, Exponent.power, digits_ne_nil, e.nonempty]

namespace Scan

def within (done : List Lexeme) (n : Numeral) : Scan := { done, mode := some (.numeral n) }

theorem step_within (done : List Lexeme) {n next : Numeral} {c : Char}
    (pushed : n.push? c = some next) : step (within done n) c = within done next := by
  simp [step, within, numeralStep, pushed]

/-- Decimal digits go into the part of a numeral that takes digits next. A whole part that is a lone
zero takes no further digit, and no number of more digits begins with one. -/
theorem foldl_toDigits_within (done : List Lexeme) (part : List Nat → Numeral)
    (push : ∀ d < 10, ∀ ds, ds ≠ [0] → (part ds).push? (Nat.digitChar d) = some (part (d :: ds)))
    (n : Nat) :
    (Nat.toDigits 10 n).foldl step (within done (part [])) = within done (part (digits n)) := by
  induction n using Nat.strongRecOn with
  | _ n ih =>
    by_cases small : n < 10
    · rw [Nat.toDigits_of_lt_base small, digits_of_lt small]
      exact step_within done (push n small [] (by simp))
    · have positive := digits_ne_zero (n := n / 10) (by omega)
      rw [Nat.toDigits_of_base_le (by omega) (by omega), List.foldl_append, ih _ (by omega),
        digits_of_le (n := n) (by omega)]
      exact step_within done (push (n % 10) (by omega) _ positive)

/-- A first digit begins the numeral that it would continue if an empty one had been begun. -/
theorem step_digitChar (done : List Lexeme) : ∀ d < 10,
    step { done } (Nat.digitChar d) = step (within done {}) (Nat.digitChar d)
  | 0, _ | 1, _ | 2, _ | 3, _ | 4, _ | 5, _ | 6, _ | 7, _ | 8, _ | 9, _ => rfl

theorem foldl_toDigits (done : List Lexeme) (n : Nat) :
    (Nat.toDigits 10 n).foldl step { done } =
      (Nat.toDigits 10 n).foldl step (within done {}) := by
  induction n using Nat.strongRecOn with
  | _ n ih =>
    by_cases small : n < 10
    · rw [Nat.toDigits_of_lt_base small]
      exact step_digitChar done n small
    · rw [Nat.toDigits_of_base_le (by omega) (by omega), List.foldl_append, List.foldl_append,
        ih _ (by omega)]

theorem foldl_whole (done : List Lexeme) (negative : Bool) (n : Nat) :
    ((if negative then ['-'] else []) ++ Nat.toDigits 10 n).foldl step { done } =
      within done { negative, whole := digits n } := by
  have push : ∀ d < 10, ∀ ds, ds ≠ [0] →
      ({ negative, whole := ds } : Numeral).push? (Nat.digitChar d) =
        some { negative, whole := d :: ds } := by
    intro d small ds nonzero
    simp [Numeral.push?, digit?_digitChar d small, Numeral.loneZero, nonzero]
  have counted := foldl_toDigits_within done _ push n
  cases negative with
  | false => exact (foldl_toDigits done n).trans counted
  | true => exact counted

theorem step_point (done : List Lexeme) {n : Numeral} (whole : n.whole ≠ [])
    (fraction : n.fraction = none) (power : n.power = none) :
    step (within done n) '.' = within done { n with fraction := some [] } := by
  have complete : n.complete = true := by simp [Numeral.complete, whole, fraction, power]
  have character : digit? '.' = none := rfl
  refine step_within done ?_
  simp [Numeral.push?, complete, character, fraction, power]

theorem step_exponent (done : List Lexeme) {n : Numeral} (complete : n.complete = true)
    (power : n.power = none) : step (within done n) 'e' = within done { n with power := some {} } := by
  have character : digit? 'e' = none := rfl
  refine step_within done ?_
  simp [Numeral.push?, complete, character, power]

theorem foldl_digitChars (done : List Lexeme) (part : List Nat → Numeral)
    (push : ∀ d < 10, ∀ ds, (part ds).push? (Nat.digitChar d) = some (part (d :: ds)))
    (digits : List (Fin 10)) (read : List Nat) :
    (digitChars digits).foldl step (within done (part read)) =
      within done (part (digits.reverse.map Fin.val ++ read)) := by
  induction digits generalizing read with
  | nil => rfl
  | cons d rest ih =>
    have further := ih (d.val :: read)
    rw [digitChars] at further ⊢
    rw [List.map_cons, List.foldl_cons, step_within done (push d.val d.isLt read), further]
    simp

theorem foldl_fraction (done : List Lexeme) {n : Numeral} (power : n.power = none)
    (fraction : List (Fin 10)) :
    (digitChars fraction).foldl step (within done { n with fraction := some [] }) =
      within done { n with fraction := some (fraction.reverse.map Fin.val) } := by
  have read := foldl_digitChars done (fun ds => { n with fraction := some ds })
    (fun d small ds => by simp [Numeral.push?, power, digit?_digitChar d small]) fraction []
  rwa [List.append_nil] at read

theorem foldl_exponent (done : List Lexeme) {n : Numeral} (complete : n.complete = true)
    (power : n.power = none) (e : Exponent) :
    e.text.foldl step (within done n) = within done { n with power := some e.power } := by
  have marked := step_exponent done complete power
  have signed : (e.sign.map Sign.text).toList.foldl step (within done { n with power := some {} }) =
      within done { n with power := some { e.power with digits := [] } } := by
    rcases e with ⟨none | plus | minus, digits, nonempty⟩ <;> rfl
  have counted := foldl_digitChars done (fun ds => { n with power := some { e.power with digits := ds } })
    (fun d small ds => by simp [Numeral.push?, Power.push?, digit?_digitChar d small]) e.digits []
  rw [List.append_nil] at counted
  rw [Exponent.text, List.cons_append, List.foldl_cons, List.foldl_append, marked, signed, counted]
  rfl

theorem foldl_text (done : List Lexeme) (n : Number) :
    n.text.foldl step { done } = within done n.numeral := by
  obtain ⟨negative, whole, fraction, power⟩ := n
  have fractional : (if fraction = [] then [] else '.' :: digitChars fraction).foldl
      step (within done { negative, whole := digits whole }) =
        within done (Number.numeral ⟨negative, whole, fraction, none⟩) := by
    cases fraction with
    | nil => rfl
    | cons d rest =>
      rw [if_neg (by simp), List.foldl_cons, step_point done (digits_ne_nil whole) rfl rfl,
        foldl_fraction done rfl]
      simp [Number.numeral]
  rw [Number.text, List.foldl_append, List.foldl_append, foldl_whole, fractional]
  cases power with
  | none => rfl
  | some e =>
    exact foldl_exponent done (Number.complete_numeral ⟨negative, whole, fraction, none⟩) rfl e

end Scan

end TermSearch.Json
