import TermSearch.Proofs.ResultSet.Ranking

namespace TermSearch

namespace ResultSet

/-- The same relevance for every document, an absent one counting as zero. -/
def Alike (a b : ResultSet) : Prop := ∀ document, a.relevance document = b.relevance document

variable {a b x y : ResultSet} {combine : Combiner}

theorem alike_insert_relevance (set : ResultSet) (document : String) :
    Alike (set.insert document (set.relevance document)) set := by
  intro d
  rw [relevance, Table.find?_insert]
  split
  · next here => rw [here]; rfl
  · rfl

theorem Alike.intersect (left : a.Alike b) (right : x.Alike y) :
    (a.intersect x combine).Alike (b.intersect y combine) := by
  intro d
  rw [relevance_intersect, relevance_intersect, left d, right d]

/-- The combiner is also asked about documents that only one of two alike unions lists, with zero on
both sides. -/
theorem Alike.union (zero : combine 0 0 = 0) (left : a.Alike b) (right : x.Alike y) :
    (a.union x combine).Alike (b.union y combine) := by
  intro d
  rw [relevance_union_of_zero zero, relevance_union_of_zero zero, left d, right d]

theorem Alike.difference (left : a.Alike b) (right : x.Alike y) :
    (a.difference x).Alike (b.difference y) := by
  intro d
  rw [relevance_difference, relevance_difference, left d, right d]

theorem mem_matching_iff_relevance {entry : String × Relevance} :
    entry ∈ a.matching ↔ a.relevance entry.1 = entry.2 ∧ entry.2 ≠ 0 := by
  rw [mem_matching_iff]
  refine and_congr_left fun positive => ?_
  unfold relevance
  cases found : a.find? entry.1 with
  | none => simpa using positive.symm
  | some score => simp

theorem Alike.matching (alike : a.Alike b) : a.matching = b.matching := by
  refine Table.entries_eq_of_mem_iff (a.ascending.filter _) (b.ascending.filter _) fun entry => ?_
  have same := alike entry.1
  exact mem_matching_iff_relevance.trans (same ▸ mem_matching_iff_relevance.symm)

theorem Alike.print (alike : a.Alike b) (json : Bool) : a.print true json = b.print true json := by
  have same := alike.matching
  unfold ResultSet.print
  rw [shown_matching, shown_matching, same]

end ResultSet

theorem Scoring.combine_assoc (scoring : Scoring) (a b c : Relevance) :
    scoring.combine (scoring.combine a b) c = scoring.combine a (scoring.combine b c) := by
  cases scoring <;> simp only [combine, ← UInt32.toNat_inj, Relevance.toNat_plus,
    Relevance.toNat_stronger] <;> omega

theorem Scoring.combine_zero_right (scoring : Scoring) (a : Relevance) : scoring.combine a 0 = a := by
  have bound := a.toNat_le_limit
  cases scoring <;> simp only [combine, ← UInt32.toNat_inj, Relevance.toNat_plus,
    Relevance.toNat_stronger, UInt32.toNat_zero] <;> omega

theorem Scoring.combine_zero_left (scoring : Scoring) (a : Relevance) : scoring.combine 0 a = a := by
  rw [scoring.lawful_combine.symmetric, combine_zero_right]

theorem Scoring.combine_max_self (a : Relevance) : Scoring.max.combine a a = a := by
  simp only [combine, ← UInt32.toNat_inj, Relevance.toNat_stronger, Nat.max_self]

theorem intersectScore_comm {combine : Combiner} (symmetric : ∀ a b, combine a b = combine b a)
    (a b : Relevance) : intersectScore combine a b = intersectScore combine b a := by
  simp only [intersectScore, symmetric a b, and_comm]

theorem intersectScore_of_ne_zero {combine : Combiner} {a b : Relevance} (left : a ≠ 0)
    (right : b ≠ 0) : intersectScore combine a b = combine a b := if_pos ⟨left, right⟩

theorem intersectScore_assoc (scoring : Scoring) (a b c : Relevance) :
    intersectScore scoring.combine (intersectScore scoring.combine a b) c =
      intersectScore scoring.combine a (intersectScore scoring.combine b c) := by
  by_cases first : a = 0
  · simp [first, intersectScore_zero_left]
  by_cases second : b = 0
  · simp [second, intersectScore_zero_left, intersectScore_zero_right]
  by_cases third : c = 0
  · simp [third, intersectScore_zero_right]
  have front : scoring.combine a b ≠ 0 := fun zero =>
    first ((scoring.combine_eq_zero_iff a b).mp zero).1
  have back : scoring.combine b c ≠ 0 := fun zero =>
    second ((scoring.combine_eq_zero_iff b c).mp zero).1
  rw [intersectScore_of_ne_zero first second, intersectScore_of_ne_zero second third,
    intersectScore_of_ne_zero front third, intersectScore_of_ne_zero first back,
    scoring.combine_assoc]

theorem intersectScore_max_self (a : Relevance) :
    intersectScore Scoring.max.combine a a = a := by
  by_cases zero : a = 0
  · rw [zero, intersectScore_zero_left]
  · rw [intersectScore_of_ne_zero zero zero, Scoring.combine_max_self]

namespace ResultSet

variable {combine : Combiner} (symmetric : ∀ a b, combine a b = combine b a) (scoring : Scoring)
  (a b c x y : ResultSet)

include symmetric in
theorem union_comm : a.union b combine = b.union a combine := by
  refine Table.ext_find? fun d => ?_
  rw [find?_union, find?_union, unionScore, unionScore, symmetric, Bool.or_comm]

theorem union_assoc :
    (a.union b scoring.combine).union c scoring.combine =
      a.union (b.union c scoring.combine) scoring.combine := by
  refine ext_relevance (fun d => ?_) fun d => ?_
  · simp only [contains_union, Bool.or_assoc]
  · simp only [relevance_union_of_zero scoring.combine_zero, unionScore, scoring.combine_assoc]

theorem union_right_comm :
    (a.union x scoring.combine).union y scoring.combine =
      (a.union y scoring.combine).union x scoring.combine := by
  rw [union_assoc, union_comm scoring.lawful_combine.symmetric x y, ← union_assoc]

theorem union_empty : a.union ∅ scoring.combine = a := by
  refine ext_relevance (fun d => ?_) fun d => ?_
  · have absent : Table.contains (∅ : ResultSet) d = false := rfl
    rw [contains_union, absent, Bool.or_false]
  · have zero : relevance ∅ d = 0 := rfl
    rw [relevance_union_of_zero scoring.combine_zero, unionScore, zero, scoring.combine_zero_right]

theorem empty_union : union ∅ a scoring.combine = a := by
  rw [union_comm scoring.lawful_combine.symmetric, union_empty]

theorem union_max_self : a.union a Scoring.max.combine = a := by
  refine ext_relevance (fun d => ?_) fun d => ?_
  · rw [contains_union, Bool.or_self]
  · rw [relevance_union_of_zero Scoring.max.combine_zero, unionScore, Scoring.combine_max_self]

include symmetric in
theorem alike_intersect_comm : (a.intersect b combine).Alike (b.intersect a combine) := by
  intro d
  rw [relevance_intersect, relevance_intersect, intersectScore_comm symmetric]

theorem intersect_assoc :
    (a.intersect b scoring.combine).intersect c scoring.combine =
      a.intersect (b.intersect c scoring.combine) scoring.combine := by
  refine ext_relevance (fun d => ?_) fun d => ?_
  · simp only [contains_intersect]
  · simp only [relevance_intersect, intersectScore_assoc]

theorem Alike.intersect_right {x y : ResultSet} (alike : x.Alike y) :
    a.intersect x combine = a.intersect y combine := by
  refine ext_relevance (fun d => ?_) fun d => ?_
  · rw [contains_intersect, contains_intersect]
  · rw [relevance_intersect, relevance_intersect, alike d]

theorem intersect_right_comm :
    (a.intersect x scoring.combine).intersect y scoring.combine =
      (a.intersect y scoring.combine).intersect x scoring.combine := by
  have swapped := alike_intersect_comm scoring.lawful_combine.symmetric x y
  rw [intersect_assoc, swapped.intersect_right, ← intersect_assoc]

theorem documents_intersect : (a.intersect b combine).documents = a.documents := Table.names_map _ a

theorem intersect_max_self : a.intersect a Scoring.max.combine = a := by
  refine ext_relevance (fun d => ?_) fun d => ?_
  · rw [contains_intersect]
  · rw [relevance_intersect, intersectScore_max_self]

/-- Under both policies union is associative with the empty set as identity, and so is intersection
without one. A symmetric combiner makes union commutative; the two orders of an intersection then
have the same matches, and each lists the documents of its own left side. -/
theorem union_intersect_laws (a b c : ResultSet) :
    (∀ combine : Combiner, (∀ x y, combine x y = combine y x) →
      a.union b combine = b.union a combine ∧
        (a.intersect b combine).matching = (b.intersect a combine).matching ∧
        (a.intersect b combine).documents = a.documents ∧
        (b.intersect a combine).documents = b.documents) ∧
      (∀ scoring : Scoring,
        (a.union b scoring.combine).union c scoring.combine =
            a.union (b.union c scoring.combine) scoring.combine ∧
          a.union ∅ scoring.combine = a ∧ union ∅ a scoring.combine = a ∧
          (a.intersect b scoring.combine).intersect c scoring.combine =
            a.intersect (b.intersect c scoring.combine) scoring.combine) ∧
      a.union a Scoring.max.combine = a := by
  refine ⟨?_, ?_, union_max_self a⟩
  · intro combine symmetric
    have alike := alike_intersect_comm symmetric a b
    exact ⟨union_comm symmetric a b, alike.matching, documents_intersect a b,
      documents_intersect b a⟩
  · intro scoring
    exact ⟨union_assoc scoring a b c, union_empty scoring a, empty_union scoring a,
      intersect_assoc scoring a b c⟩

/-- The product of scores is symmetric and wraps to zero here in `docA`; the sums stop at the limit. -/
theorem union_intersect_laws_limit :
    let a : ResultSet := .ofList [("docA", 65536), ("docB", 4294967295), ("docC", 0)]
    let b : ResultSet := .ofList [("docA", 65536), ("docB", 2)]
    let product : Combiner := fun x y => x * y
    (∀ x y, product x y = product y x) ∧
      a.union b product = b.union a product ∧
      (a.intersect b product).matching = (b.intersect a product).matching ∧
      (a.union b Scoring.sum.combine).union a Scoring.sum.combine =
        a.union (b.union a Scoring.sum.combine) Scoring.sum.combine := by
  intro a b product
  have symmetric (x y : Relevance) : product x y = product y x := UInt32.mul_comm x y
  obtain ⟨swapped, policies, -⟩ := union_intersect_laws a b a
  obtain ⟨union, matching, -, -⟩ := swapped product symmetric
  exact ⟨symmetric, union, matching, (policies .sum).1⟩

end ResultSet

end TermSearch
