import TermSearch.Scoring
import TermSearch.Error

/-!
The digits of each part are listed last first, as they are read. A numeral whose value does not fit
into a double-precision number breaks the grammar wherever a value is asked for.
-/

namespace TermSearch.Json

def digit? (c : Char) : Option Nat :=
  if '0' ≤ c ∧ c ≤ '9' then some (c.toNat - '0'.toNat) else none

def decimal (digits : List Nat) : Nat := digits.foldr (fun d rest => d + 10 * rest) 0

structure Power where
  negative : Bool := false
  signed : Bool := false
  digits : List Nat := []
deriving DecidableEq, Repr

structure Numeral where
  negative : Bool := false
  whole : List Nat := []
  fraction : Option (List Nat) := none
  power : Option Power := none
deriving DecidableEq, Repr

namespace Power

def push? (power : Power) (c : Char) : Option Power :=
  match digit? c with
  | some d => some { power with digits := d :: power.digits }
  | none =>
    if power.signed ∨ power.digits ≠ [] then none
    else if c = '-' then some { power with negative := true, signed := true }
    else if c = '+' then some { power with signed := true }
    else none

def value (power : Power) : Int :=
  if power.negative then -(decimal power.digits : Int) else decimal power.digits

end Power

namespace Numeral

/-- Every part that was begun holds a digit. -/
def complete (n : Numeral) : Bool :=
  n.whole ≠ [] && n.fraction ≠ some [] && n.power.all (·.digits ≠ [])

def loneZero (n : Numeral) : Bool := n.whole == [0] && n.fraction.isNone && n.power.isNone

def push? (n : Numeral) (c : Char) : Option Numeral :=
  match n.power, n.fraction, digit? c with
  | some power, _, _ => (power.push? c).map fun power => { n with power := some power }
  | none, some digits, some d => some { n with fraction := some (d :: digits) }
  | none, none, some d => if n.loneZero then none else some { n with whole := d :: n.whole }
  | none, _, none =>
    if ¬ n.complete then none
    else if c = 'e' ∨ c = 'E' then some { n with power := some {} }
    else if c = '.' ∧ n.fraction.isNone then some { n with fraction := some [] }
    else none

def natural? (n : Numeral) : Option Nat :=
  if n.negative ∨ n.fraction.isSome ∨ n.power.isSome then none else some (decimal n.whole)

/-- Rounds to 53 binary digits, a half to the even neighbour. -/
def roundToDouble (n : Nat) : Nat :=
  let unit := Nat.pow 2 (n.log2 - 52)
  let down := n / unit
  let rest := 2 * (n % unit)
  if unit < rest ∨ (rest = unit ∧ down % 2 = 1) then (down + 1) * unit else down * unit

/-- Takes digits, the first one first, into a 64-bit significand. Gives the significand, and the
number of digits left over from the first one that does not fit. -/
def absorb (significand : Nat) : List Nat → Nat × Nat
  | [] => (significand, 0)
  | d :: rest =>
    if 10 * significand + d < 2 ^ 64 then absorb (10 * significand + d) rest
    else (significand, rest.length + 1)

/-- Whether the value is infinite in double precision. The value is taken as a 64-bit significand
times a power of ten, each rounded before they are multiplied: whole digits that do not fit are
counted into the power, and such digits of the fraction are left out. -/
def exceedsDouble (n : Numeral) : Bool :=
  let fraction := (n.fraction.getD []).reverse
  let (whole, dropped) := absorb 0 n.whole.reverse
  let (significand, left) := absorb whole fraction
  let power := (dropped : Int) - (fraction.length - left : Nat) + (n.power.map (·.value)).getD 0
  significand ≠ 0 && 0 ≤ power &&
    (308 < power ||
      Nat.pow 2 1024 - Nat.pow 2 970 ≤
        roundToDouble significand * roundToDouble (Nat.pow 10 power.toNat))

def fault (n : Numeral) : Fault := if n.exceedsDouble then .grammar else .mismatch

def count (n : Numeral) : Except Fault Relevance :=
  match n.natural? with
  | some k => if k ≤ Relevance.limit then .ok (.ofNat k) else .error n.fault
  | none => .error n.fault

theorem natural?_of_count {n : Numeral} {count : Relevance} (counted : n.count = .ok count) :
    ∃ k ≤ Relevance.limit, n.natural? = some k := by
  unfold Numeral.count at counted
  split at counted
  · next k natural =>
    split at counted
    · next bounded => exact ⟨k, bounded, natural⟩
    · contradiction
  · contradiction

end Numeral

end TermSearch.Json
