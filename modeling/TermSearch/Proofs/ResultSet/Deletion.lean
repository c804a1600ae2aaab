import TermSearch.Plan

namespace TermSearch

namespace ResultSet

def deleting (set : ResultSet) (gone : String → Bool) : ResultSet := set.filter fun d _ => !gone d

variable (a b x : ResultSet) (combine : Combiner) (gone : String → Bool) (d : String)

theorem find?_deleting : (a.deleting gone).find? d = if gone d then none else a.find? d := by
  rw [deleting, Table.find?_filter]
  cases gone d <;> cases a.find? d <;> rfl

theorem contains_deleting : (a.deleting gone).contains d = (!gone d && a.contains d) := by
  rw [Table.contains, find?_deleting, Table.contains]
  cases gone d <;> rfl

theorem relevance_deleting :
    (a.deleting gone).relevance d = if gone d then 0 else a.relevance d := by
  rw [relevance, find?_deleting]
  cases gone d <;> rfl

theorem deleting_union :
    (a.union b combine).deleting gone = (a.deleting gone).union (b.deleting gone) combine := by
  refine Table.ext_find? fun d => ?_
  rw [find?_deleting, find?_union, find?_union, contains_deleting, contains_deleting,
    relevance_deleting, relevance_deleting]
  cases gone d <;> simp

/-- The right side brings in no document of its own, so nothing need be deleted from it. -/
theorem deleting_intersect_left :
    (a.intersect b combine).deleting gone = (a.deleting gone).intersect b combine := by
  refine Table.ext_find? fun d => ?_
  rw [find?_deleting, find?_intersect, find?_intersect, find?_deleting]
  cases gone d <;> rfl

theorem deleting_intersect :
    (a.intersect b combine).deleting gone = (a.deleting gone).intersect (b.deleting gone) combine := by
  refine Table.ext_find? fun d => ?_
  rw [deleting_intersect_left, find?_intersect, find?_intersect, find?_deleting, relevance_deleting]
  cases gone d <;> rfl

theorem deleting_none : a.deleting (fun _ => false) = a := by
  refine Table.ext_find? fun d => ?_
  exact find?_deleting a _ d

theorem difference_eq_deleting : a.difference x = a.deleting fun d => x.relevance d != 0 := by
  refine Table.ext_find? fun d => ?_
  rw [find?_deleting, find?_difference, survivesDifference]
  cases same : x.relevance d == 0 <;> cases a.find? d <;> simp [bne, same]

theorem difference_union :
    (a.union b combine).difference x = (a.difference x).union (b.difference x) combine := by
  simp only [difference_eq_deleting, deleting_union]

theorem difference_intersect_left :
    (a.intersect b combine).difference x = (a.difference x).intersect b combine := by
  simp only [difference_eq_deleting, deleting_intersect_left]

theorem difference_intersect :
    (a.intersect b combine).difference x = (a.difference x).intersect (b.difference x) combine := by
  simp only [difference_eq_deleting, deleting_intersect]

theorem foldl_difference_eq_deleting (counts : String → ResultSet) (terms : List String) :
    terms.foldl (fun left term => left.difference (counts term)) a =
      a.deleting fun d => terms.any fun term => (counts term).relevance d != 0 := by
  induction terms generalizing a with
  | nil => exact (deleting_none a).symm
  | cons term rest ih =>
    rw [List.foldl_cons, ih, difference_eq_deleting]
    refine Table.ext_find? fun d => ?_
    rw [find?_deleting, find?_deleting, find?_deleting, List.any_cons]
    cases (counts term).relevance d != 0 <;> simp

end ResultSet

namespace Plan

def excludes (counts : String → ResultSet) (plan : Plan) (document : String) : Bool :=
  plan.exclusions.any fun term => (counts term).relevance document != 0

variable (combine : Combiner) (counts : String → ResultSet) (plan : Plan) (gone : String → Bool)

theorem evaluate_eq_deleting :
    plan.evaluate combine counts =
      (plan.joined combine counts).deleting (plan.excludes counts) :=
  ResultSet.foldl_difference_eq_deleting _ counts plan.exclusions

theorem deleting_joined :
    (plan.joined combine counts).deleting gone =
      plan.joined combine fun term => (counts term).deleting gone := by
  have step : ∀ (result : ResultSet) (step : Step),
      step.operator.apply combine (result.deleting gone) ((counts step.term).deleting gone) =
        (step.operator.apply combine result (counts step.term)).deleting gone := by
    intro result step
    cases step.operator with
    | and => exact (ResultSet.deleting_intersect result _ combine gone).symm
    | or => exact (ResultSet.deleting_union result _ combine gone).symm
  exact (List.foldl_hom (fun result : ResultSet => result.deleting gone) step).symm

end Plan

end TermSearch
