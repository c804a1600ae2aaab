namespace TermSearch

abbrev Relevance := UInt32

abbrev Combiner := Relevance → Relevance → Relevance

namespace Relevance

def limit : Nat := 4294967295

def plus (a b : Relevance) : Relevance := .ofNat (min (a.toNat + b.toNat) limit)

def stronger (a b : Relevance) : Relevance := max a b

theorem toNat_le_limit (a : Relevance) : a.toNat ≤ limit := Nat.le_of_lt_succ a.toNat_lt

@[simp] theorem toNat_plus (a b : Relevance) : (plus a b).toNat = min (a.toNat + b.toNat) limit := by
  rw [plus, UInt32.toNat_ofNat_of_lt']
  exact Nat.lt_of_le_of_lt (Nat.min_le_right _ _) (by decide)

@[simp] theorem toNat_stronger (a b : Relevance) : (stronger a b).toNat = max a.toNat b.toNat := by
  show (if a ≤ b then b else a).toNat = _
  split <;> rename_i le <;> rw [UInt32.le_iff_toNat_le] at le <;> omega

theorem toNat_eq_zero_iff {a : Relevance} : a.toNat = 0 ↔ a = 0 := by
  rw [← UInt32.toNat_inj, UInt32.toNat_zero]

end Relevance

inductive Scoring where
  | sum
  | max
deriving DecidableEq, Repr, Inhabited

def Scoring.combine : Scoring → Combiner
  | .sum => Relevance.plus
  | .max => Relevance.stronger

/-- The contract of combiners: the two sides count alike, and more on the left is never scored lower. -/
structure Combiner.Lawful (combine : Combiner) : Prop where
  symmetric : ∀ a b, combine a b = combine b a
  monotone : ∀ a a' b, a ≤ a' → combine a b ≤ combine a' b

theorem Combiner.Lawful.le {combine : Combiner} (lawful : combine.Lawful) {a a' b b' : Relevance}
    (left : a ≤ a') (right : b ≤ b') : combine a b ≤ combine a' b' := by
  have first := lawful.monotone a a' b left
  have second := lawful.monotone b b' a' right
  rw [lawful.symmetric b, lawful.symmetric b'] at second
  exact UInt32.le_trans first second

/-- A document of either side is scored by the combiner, an absent side counting as zero. -/
def unionScore (combine : Combiner) (left right : Relevance) : Relevance := combine left right

/-- A document of the left side is scored by the combiner only where both sides are non-zero. -/
def intersectScore (combine : Combiner) (left right : Relevance) : Relevance :=
  if left ≠ 0 ∧ right ≠ 0 then combine left right else 0

def survivesDifference (right : Relevance) : Bool := right == 0

theorem Scoring.combine_eq_zero_iff (scoring : Scoring) (a b : Relevance) :
    scoring.combine a b = 0 ↔ a = 0 ∧ b = 0 := by
  cases scoring <;> simp only [combine, ← Relevance.toNat_eq_zero_iff, Relevance.toNat_plus,
    Relevance.toNat_stronger, Relevance.limit] <;> omega

theorem Scoring.combine_zero (scoring : Scoring) : scoring.combine 0 0 = 0 :=
  (scoring.combine_eq_zero_iff 0 0).2 ⟨rfl, rfl⟩

theorem Scoring.lawful_combine (scoring : Scoring) : scoring.combine.Lawful where
  symmetric a b := by
    cases scoring <;> simp only [combine, ← UInt32.toNat_inj, Relevance.toNat_plus,
      Relevance.toNat_stronger] <;> omega
  monotone a a' b le := by
    cases scoring <;> simp only [combine, UInt32.le_iff_toNat_le, Relevance.toNat_plus,
      Relevance.toNat_stronger] at le ⊢ <;> omega

theorem intersectScore_zero_left (combine : Combiner) (b : Relevance) :
    intersectScore combine 0 b = 0 := by simp [intersectScore]

theorem intersectScore_zero_right (combine : Combiner) (a : Relevance) :
    intersectScore combine a 0 = 0 := by simp [intersectScore]

end TermSearch
