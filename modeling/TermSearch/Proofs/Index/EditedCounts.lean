import Mathlib.Algebra.GroupWithZero.Nat
import Mathlib.Data.Finset.Card
import Mathlib.Data.List.DropRight
import Mathlib.Data.List.Induction
import TermSearch.Index

/-! Adding holds the sum at the limit each time, and the outcome is the exact sum held once. -/

namespace TermSearch.Index

inductive Edit where
  | add (term document : String) (count : Relevance)
  | replace (term : String) (counts : ResultSet)

namespace Edit

def term : Edit → String
  | add term _ _ | replace term _ => term

def adds : Edit → Bool
  | add _ _ _ => true
  | replace _ _ => false

def run (index : Index) : Edit → Index
  | add term document count => index.add term document count
  | replace term counts => index.insertTerm term counts

def replacement? (term : String) : Edit → Option ResultSet
  | add _ _ _ => none
  | replace t counts => if t = term then some counts else none

def added? (term document : String) : Edit → Option Relevance
  | add t d count => if t = term ∧ d = document then some count else none
  | replace _ _ => none

end Edit

def replay (index : Index) (history : List Edit) : Index := history.foldl Edit.run index

/-- The last counts that a history put in the place of the term's, or else those it started with. -/
def base (index : Index) (history : List Edit) (term : String) : ResultSet :=
  (history.reverse.findSome? (Edit.replacement? term)).getD (index.counts term)

/-- The counts that a history added to a document since it last replaced those of the term. -/
def addedSince (history : List Edit) (term document : String) : List Relevance :=
  (history.rtakeWhile fun edit => (edit.replacement? term).isNone).filterMap
    (Edit.added? term document)

section

variable (index : Index) (history : List Edit) (edit : Edit) (term document : String)

theorem replay_concat : index.replay (history ++ [edit]) = edit.run (index.replay history) := by
  rw [replay, List.foldl_append]
  rfl

theorem base_concat :
    index.base (history ++ [edit]) term =
      (edit.replacement? term).getD (index.base history term) := by
  rw [base, List.reverse_concat, List.findSome?_cons, base]
  cases edit.replacement? term <;> rfl

theorem addedSince_concat :
    addedSince (history ++ [edit]) term document =
      if (edit.replacement? term).isSome then []
      else addedSince history term document ++ (edit.added? term document).toList := by
  rw [addedSince, List.rtakeWhile_concat]
  cases edit.replacement? term with
  | some counts => rfl
  | none =>
    have last : [edit].filterMap (Edit.added? term document) = (edit.added? term document).toList := by
      cases added : edit.added? term document <;> simp [added]
    simp only [Option.isNone_none, if_true, List.filterMap_append, last]
    rfl

end

namespace Edit

variable (index : Index) (edit : Edit) (term document : String)

theorem find?_run :
    (edit.run index).find? term =
      if edit.term = term then some ((edit.run index).counts term) else index.find? term := by
  have inserted (name : String) (new : ResultSet) :
      Table.find? (Table.insert index name new) term =
        if name = term then some (counts (Table.insert index name new) term)
        else index.find? term := by
    rw [Index.counts, Table.find?_insert]
    by_cases here : term = name
    · simp [here]
    · rw [if_neg here, if_neg (Ne.symm here)]
  cases edit with
  | add name document count => exact inserted name _
  | replace name counts => exact inserted name counts

theorem find?_counts_run :
    ((edit.run index).counts term).find? document =
      match edit.replacement? term, edit.added? term document with
      | some counts, _ => counts.find? document
      | none, some count => some (((index.counts term).relevance document).plus count)
      | none, none => (index.counts term).find? document := by
  cases edit with
  | add name d count =>
    simp only [run, counts_add, replacement?, added?]
    by_cases here : term = name
    · rw [if_pos here, Table.find?_insert, ← here]
      by_cases same : document = d
      · simp [same]
      · simp [same, Ne.symm same]
    · simp [here, Ne.symm here]
  | replace name counts =>
    simp only [run, counts_insertTerm, replacement?, added?]
    by_cases here : term = name
    · simp [here]
    · simp [here, Ne.symm here]

theorem contains_counts_run :
    ((edit.run index).counts term).contains document =
      match edit.replacement? term with
      | some counts => counts.contains document
      | none => (index.counts term).contains document || (edit.added? term document).isSome := by
  simp only [Table.contains, find?_counts_run]
  cases edit.replacement? term <;> cases edit.added? term document <;> simp

theorem toNat_relevance_run :
    (((edit.run index).counts term).relevance document).toNat =
      match edit.replacement? term with
      | some counts => (counts.relevance document).toNat
      | none =>
        min (((index.counts term).relevance document).toNat +
          ((edit.added? term document).toList.map UInt32.toNat).sum) Relevance.limit := by
  have bound := ((index.counts term).relevance document).toNat_le_limit
  have found := find?_counts_run index edit term document
  rw [ResultSet.relevance, found]
  cases edit.replacement? term with
  | some counts => rfl
  | none =>
    cases edit.added? term document with
    | some count => simp
    | none => exact (Nat.min_eq_left bound).symm

end Edit

section

variable (index : Index) (history : List Edit) (term document : String)

theorem contains_replay :
    (index.replay history).contains term = (index.contains term || history.any (·.term == term)) := by
  induction history using List.reverseRecOn with
  | nil => simp [replay]
  | append_singleton history edit ih =>
    rw [Table.contains] at ih ⊢
    rw [replay_concat, Edit.find?_run, List.any_append]
    by_cases here : edit.term = term
    · simp [here]
    · simp [here, ih, beq_false_of_ne here]

theorem find?_replay_of_untouched (untouched : ∀ edit ∈ history, edit.term ≠ term) :
    (index.replay history).find? term = index.find? term := by
  induction history using List.reverseRecOn with
  | nil => rfl
  | append_singleton history edit ih =>
    have last : edit.term ≠ term := untouched edit (by simp)
    rw [replay_concat, Edit.find?_run, if_neg last]
    exact ih fun edit mem => untouched edit (List.mem_append_left _ mem)

theorem contains_counts_replay :
    ((index.replay history).counts term).contains document =
      ((index.base history term).contains document ||
        !(addedSince history term document).isEmpty) := by
  induction history using List.reverseRecOn with
  | nil => simp [replay, base, addedSince]
  | append_singleton history edit ih =>
    rw [replay_concat, Edit.contains_counts_run, base_concat, addedSince_concat, ih]
    cases edit.replacement? term with
    | some counts => simp
    | none =>
      cases edit.added? term document <;> simp

theorem toNat_relevance_replay :
    (((index.replay history).counts term).relevance document).toNat =
      min (((index.base history term).relevance document).toNat +
        ((addedSince history term document).map UInt32.toNat).sum) Relevance.limit := by
  induction history using List.reverseRecOn with
  | nil =>
    have bound := ((index.counts term).relevance document).toNat_le_limit
    simpa [replay, base, addedSince] using (Nat.min_eq_left bound).symm
  | append_singleton history edit ih =>
    rw [replay_concat, Edit.toNat_relevance_run, base_concat, addedSince_concat, ih]
    cases edit.replacement? term with
    | some counts =>
      have bound := (counts.relevance document).toNat_le_limit
      simpa using (Nat.min_eq_left bound).symm
    | none =>
      simp only [Option.getD_none, Option.isSome_none, Bool.false_eq_true, if_false,
        List.map_append, List.sum_append]
      omega

theorem size_replay :
    (index.replay history).size = (index.names ++ history.map Edit.term).toFinset.card := by
  rw [← Table.length_names, ← List.toFinset_card_of_nodup (index.replay history).names_nodup]
  congr 1
  ext term
  have present := contains_replay index history term
  unfold Table.contains at present
  rw [List.mem_toFinset, List.mem_toFinset, List.mem_append, Table.mem_names_iff,
    Table.mem_names_iff, present, Bool.or_eq_true, List.any_eq_true, List.mem_map]
  simp only [beq_iff_eq]

end

section

variable {history other : List Edit} (adds : ∀ edit ∈ history, edit.adds = true)

include adds

theorem replacement?_of_adds {edit : Edit} (mem : edit ∈ history) (term : String) :
    edit.replacement? term = none := by
  have added := adds edit mem
  cases edit with
  | add => rfl
  | replace => cases added

theorem base_of_adds (index : Index) (term : String) :
    index.base history term = index.counts term := by
  have kept : history.reverse.findSome? (Edit.replacement? term) = none :=
    List.findSome?_eq_none_iff.mpr fun edit mem =>
      replacement?_of_adds adds (List.mem_reverse.mp mem) term
  rw [base, kept, Option.getD_none]

theorem addedSince_of_adds (term document : String) :
    addedSince history term document = history.filterMap (Edit.added? term document) := by
  have all : (history.rtakeWhile fun edit => (edit.replacement? term).isNone) = history :=
    List.rtakeWhile_eq_self_iff.mpr fun edit mem => by
      rw [replacement?_of_adds adds mem, Option.isNone_none]
  rw [addedSince, all]

theorem replay_perm (perm : history.Perm other) (index : Index) :
    index.replay history = index.replay other := by
  have adds' : ∀ edit ∈ other, edit.adds = true := fun edit mem => adds edit (perm.mem_iff.mpr mem)
  refine ext_counts (fun term => ?_) fun term => ?_
  · rw [contains_replay, contains_replay, perm.any_eq]
  · have added (d : String) : (addedSince history term d).Perm (addedSince other term d) := by
      rw [addedSince_of_adds adds, addedSince_of_adds adds']
      exact perm.filterMap _
    refine ResultSet.ext_relevance (fun d => ?_) fun d => ?_
    · rw [contains_counts_replay, contains_counts_replay, base_of_adds adds, base_of_adds adds',
        (added d).isEmpty_eq]
    · rw [← UInt32.toNat_inj, toNat_relevance_replay, toNat_relevance_replay, base_of_adds adds,
        base_of_adds adds', ((added d).map UInt32.toNat).sum_nat]

end

/-- After any history a term has the documents of its last replacement and those added to since, each
with the exact sum of its counts held at the limit. Terms that no edit names are as they were, each
term that is named is in the index, and additions may be made in any order. -/
theorem replay_counts (index : Index) (history : List Edit) :
    (∀ term document,
      let base := index.base history term
      let added := addedSince history term document
      let counts := (index.replay history).counts term
      (counts.contains document = true ↔ base.contains document = true ∨ added ≠ []) ∧
        (counts.relevance document).toNat =
          min ((base.relevance document).toNat + (added.map UInt32.toNat).sum) Relevance.limit) ∧
      (∀ term, (∀ edit ∈ history, edit.term ≠ term) →
        (index.replay history).counts term = (index.find? term).getD ∅) ∧
      (index.replay history).size = (index.names ++ history.map Edit.term).toFinset.card ∧
      ∀ other, history.Perm other → (∀ edit ∈ history, edit.adds = true) →
        index.replay history = index.replay other := by
  refine ⟨?_, ?_, size_replay index history, ?_⟩
  · intro term document base added counts
    refine ⟨?_, toNat_relevance_replay index history term document⟩
    have present := contains_counts_replay index history term document
    rw [present, Bool.or_eq_true, Bool.not_eq_true', List.isEmpty_eq_false_iff]
  · intro term untouched
    rw [counts, find?_replay_of_untouched index history term untouched]
  · intro other perm adds
    exact replay_perm adds perm index

/-- The first addition is lost, the two after the replacement reach the limit together, and `docB` is
listed with a count of zero. -/
theorem replay_counts_limit :
    let index : Index := ofRows [("dog", [("docC", 3)])]
    let history : List Edit := [.add "cat" "docA" 9, .replace "cat" (.ofList [("docA", 1)]),
      .add "cat" "docA" 4294967290, .add "cat" "docB" 0, .add "cat" "docA" 4294967290]
    let adds : List Edit := [.add "cat" "docA" 4294967295, .add "cat" "docA" 1, .add "" "" 0]
    let counts := (index.replay history).counts "cat"
    (counts.relevance "docA").toNat = 4294967295 ∧ counts.contains "docB" = true ∧
      (index.replay history).counts "dog" = .ofList [("docC", 3)] ∧
      (index.replay history).size = 2 ∧ index.replay adds = index.replay adds.reverse := by
  intro index history adds counts
  obtain ⟨told, untouched, size, -⟩ := replay_counts index history
  obtain ⟨-, -, -, reordered⟩ := replay_counts index adds
  obtain ⟨-, reached⟩ := told "cat" "docA"
  obtain ⟨listed, -⟩ := told "cat" "docB"
  refine ⟨reached.trans ?_, listed.mpr (.inr ?_), untouched "dog" ?_, size.trans ?_, ?_⟩
  · decide +kernel
  · decide
  · decide
  · decide
  · exact reordered _ adds.reverse_perm.symm (by decide)

end TermSearch.Index
