import TermSearch.Table
import TermSearch.Scoring

/-!
A document without an entry reads as relevance zero; an entry with score zero is still listed, and
`matching` leaves it out. An intersection is driven by its left side.
-/

namespace TermSearch

abbrev ResultSet := Table Relevance

namespace ResultSet

def relevance (set : ResultSet) (document : String) : Relevance := (set.find? document).getD 0

def documents (set : ResultSet) : List String := set.names

def matching (set : ResultSet) : List (String × Relevance) := set.entries.filter (·.2 ≠ 0)

/-- All entries by ascending score, equal scores by document. -/
def ranked (set : ResultSet) : List (String × Relevance) := set.entries.mergeSort (·.2 ≤ ·.2)

theorem relevance_of_not_contains {set : ResultSet} {document : String}
    (absent : set.contains document = false) : set.relevance document = 0 := by
  rw [Table.contains, Option.isSome_eq_false_iff, Option.isNone_iff_eq_none] at absent
  simp [relevance, absent]

theorem relevance_of_find? {set : ResultSet} {document : String} {score : Relevance}
    (found : set.find? document = some score) : set.relevance document = score := by
  rw [relevance, found]
  rfl

theorem find?_eq_ite (set : ResultSet) (document : String) :
    set.find? document = if set.contains document then some (set.relevance document) else none := by
  cases found : set.find? document <;> simp [Table.contains, relevance, found]

theorem ext_relevance {a b : ResultSet} (present : ∀ d, a.contains d = b.contains d)
    (same : ∀ d, a.relevance d = b.relevance d) : a = b := by
  refine Table.ext_find? fun d => ?_
  rw [find?_eq_ite, find?_eq_ite, present, same]

theorem mem_documents_iff {set : ResultSet} {document : String} :
    document ∈ set.documents ↔ set.contains document = true := Table.mem_names_iff

theorem mem_matching_iff {set : ResultSet} {document : String} {score : Relevance} :
    (document, score) ∈ set.matching ↔ set.find? document = some score ∧ score ≠ 0 := by
  simp [matching, Table.mem_entries_iff]

theorem ranked_perm (set : ResultSet) : set.ranked.Perm set.entries := List.mergeSort_perm _ _

/-- The documents of the left side are walked first, then those of the right. -/
def union (left right : ResultSet) (combine : Combiner) : ResultSet :=
  .tabulate (left.documents ++ right.documents) fun d =>
    combine (left.relevance d) (right.relevance d)

def intersect (left right : ResultSet) (combine : Combiner) : ResultSet :=
  left.map fun d here =>
    let there := right.relevance d
    if here ≠ 0 ∧ there ≠ 0 then combine here there else 0

def difference (left right : ResultSet) : ResultSet :=
  left.filter fun d _ => right.relevance d == 0

def or (left right : ResultSet) : ResultSet := left.union right Scoring.sum.combine

def and (left right : ResultSet) : ResultSet := left.intersect right Scoring.sum.combine

def minus (left right : ResultSet) : ResultSet := left.difference right

theorem find?_union (a b : ResultSet) (c : Combiner) (d : String) :
    (a.union b c).find? d =
      if a.contains d || b.contains d then some (unionScore c (a.relevance d) (b.relevance d))
      else none := by
  simp only [union, Table.find?_tabulate, List.mem_append, mem_documents_iff, Bool.or_eq_true,
    unionScore]

theorem find?_intersect (a b : ResultSet) (c : Combiner) (d : String) :
    (a.intersect b c).find? d = (a.find? d).map fun score => intersectScore c score (b.relevance d) :=
  Table.find?_map _ a d

theorem find?_difference (a b : ResultSet) (d : String) :
    (a.difference b).find? d = (a.find? d).filter fun _ => survivesDifference (b.relevance d) :=
  Table.find?_filter _ a d

@[simp] theorem contains_union (a b : ResultSet) (c : Combiner) (d : String) :
    (a.union b c).contains d = (a.contains d || b.contains d) := by
  rw [Table.contains, find?_union]
  split
  · next present => exact present.symm
  · next absent => simpa using absent

theorem relevance_union (a b : ResultSet) (c : Combiner) (d : String) :
    (a.union b c).relevance d =
      if a.contains d || b.contains d then unionScore c (a.relevance d) (b.relevance d) else 0 := by
  rw [relevance, find?_union]
  split <;> rfl

theorem relevance_union_of_zero {c : Combiner} (zero : c 0 0 = 0) (a b : ResultSet) (d : String) :
    (a.union b c).relevance d = unionScore c (a.relevance d) (b.relevance d) := by
  rw [relevance_union]
  split
  · rfl
  · next absent =>
    simp only [Bool.or_eq_true, not_or, Bool.not_eq_true] at absent
    rw [relevance_of_not_contains absent.1, relevance_of_not_contains absent.2]
    exact zero.symm

@[simp] theorem contains_intersect (a b : ResultSet) (c : Combiner) (d : String) :
    (a.intersect b c).contains d = a.contains d := by
  rw [Table.contains, find?_intersect, Option.isSome_map, Table.contains]

theorem relevance_intersect (a b : ResultSet) (c : Combiner) (d : String) :
    (a.intersect b c).relevance d = intersectScore c (a.relevance d) (b.relevance d) := by
  rw [relevance, find?_intersect]
  cases found : a.find? d <;> simp [relevance, found, intersectScore_zero_left]

@[simp] theorem contains_difference (a b : ResultSet) (d : String) :
    (a.difference b).contains d = (a.contains d && survivesDifference (b.relevance d)) := by
  rw [Table.contains, find?_difference, Table.contains]
  cases a.find? d <;> cases survivesDifference (b.relevance d) <;> simp [Option.filter]

theorem relevance_difference (a b : ResultSet) (d : String) :
    (a.difference b).relevance d = if survivesDifference (b.relevance d) then a.relevance d else 0 := by
  rw [relevance, find?_difference]
  cases found : a.find? d <;> cases survivesDifference (b.relevance d) <;>
    simp [relevance, found, Option.filter]

end ResultSet

end TermSearch
