import Mathlib.Data.Finset.Card
import TermSearch.Proofs.ResultSet.Ranking

namespace TermSearch

namespace Table

variable {α ε : Type}

section

variable {m : Type → Type} [Monad m] (value : String → m α)

def visit (table : Table α) (name : String) : m (Table α) :=
  if table.contains name then pure table else return table.insert name (← value name)

def tabulateM (names : List String) : m (Table α) := names.foldlM (visit value) ∅

end

theorem tabulateM_pure {m : Type → Type} [Monad m] [LawfulMonad m] (names : List String)
    (value : String → α) :
    tabulateM (fun name => (pure (value name) : m α)) names = pure (tabulate names value) := by
  unfold tabulateM tabulate
  rw [← List.foldlM_pure]
  congr 1
  funext table name
  unfold visit
  split
  · rfl
  · rw [pure_bind]

def noting (note : String → ε) (value : String → α) (name : String) : StateM (List ε) α := do
  modify (· ++ [note name])
  return value name

section

variable (note : String → ε) (value : String → α)

theorem visit_noting (table : Table α) (name : String) (notes : List ε) :
    (visit (noting note value) table name).run notes =
      if table.contains name then (table, notes)
      else (table.insert name (value name), notes ++ [note name]) := by
  unfold visit
  split <;> rfl

theorem foldlM_visit_noting {names : List String} (nodup : names.Nodup) (table : Table α)
    (notes : List ε) :
    (names.foldlM (visit (noting note value)) table).run notes =
      (names.foldl (fun (table : Table α) name =>
          if table.contains name then table else table.insert name (value name)) table,
        notes ++ (names.filter fun name => !table.contains name).map note) := by
  induction names generalizing table notes with
  | nil => simp; rfl
  | cons name rest ih =>
    obtain ⟨absent, nodup⟩ := List.nodup_cons.mp nodup
    rw [List.foldlM_cons, StateT.run_bind, visit_noting, List.foldl_cons]
    by_cases met : table.contains name = true
    · rw [if_pos met, if_pos met, List.filter_cons_of_neg (by simp [met])]
      exact ih nodup table notes
    · -- No name comes twice, so the new entry hides none of the names to come.
      have later : (rest.filter fun other => !(table.insert name (value name)).contains other) =
          rest.filter fun other => !table.contains other := by
        refine List.filter_congr fun other mem => ?_
        rw [contains, find?_insert, if_neg (ne_of_mem_of_not_mem mem absent), contains]
      rw [if_neg met, if_neg met, List.filter_cons_of_pos (by simp [met]), List.map_cons, ← later]
      have rest := ih nodup (table.insert name (value name)) (notes ++ [note name])
      rw [List.append_assoc, List.singleton_append] at rest
      exact rest

theorem tabulateM_noting {first second : List String} (nodup : first.Nodup)
    (nodup' : second.Nodup) :
    (tabulateM (noting note value) (first ++ second)).run [] =
      (tabulate (first ++ second) value,
        (first ++ second.filter fun name => name ∉ first).map note) := by
  have start := foldlM_visit_noting note value nodup ∅ []
  have rest := foldlM_visit_noting note value nodup' (tabulate first value) (first.map note)
  -- All of the first names are new; of the second, those that are not among the first.
  have fresh : first.filter (fun name => !(∅ : Table α).contains name) = first :=
    List.filter_eq_self.mpr fun _ _ => rfl
  have met (name : String) : (!(tabulate first value).contains name) = decide (name ∉ first) := by
    rw [contains, find?_tabulate]
    split <;> simp_all
  rw [fresh, List.nil_append] at start
  simp only [met] at rest
  unfold tabulateM
  rw [List.foldlM_append, StateT.run_bind, start]
  refine rest.trans ?_
  rw [← List.map_append]
  unfold tabulate
  rw [List.foldl_append]

end

end Table

namespace ResultSet

/-- Union by a combiner that may have effects. -/
def unionM {m : Type → Type} [Monad m] (left right : ResultSet)
    (combine : Relevance → Relevance → m Relevance) : m ResultSet :=
  Table.tabulateM (fun d => combine (left.relevance d) (right.relevance d))
    (left.documents ++ right.documents)

def noted (combine : Combiner) (left right : Relevance) :
    StateM (List (Relevance × Relevance)) Relevance := do
  modify (· ++ [(left, right)])
  return combine left right

/-- The documents of the left side, then those that only the right side has. -/
def eitherDocuments (left right : ResultSet) : List String :=
  left.documents ++ right.documents.filter fun d => d ∉ left.documents

section

variable (left right : ResultSet) (combine : Combiner)

theorem documents_nodup (set : ResultSet) : set.documents.Nodup := set.names_nodup

theorem mem_eitherDocuments {d : String} :
    d ∈ left.eitherDocuments right ↔ (left.contains d || right.contains d) = true := by
  simp only [eitherDocuments, List.mem_append, List.mem_filter, decide_eq_true_eq, mem_documents_iff]
  cases left.contains d <;> simp

theorem eitherDocuments_nodup : (left.eitherDocuments right).Nodup := by
  refine List.nodup_append'.mpr ⟨documents_nodup left, (documents_nodup right).filter _, ?_⟩
  intro d here there
  have apart := of_decide_eq_true (List.mem_filter.mp there).2
  exact apart here

theorem eitherDocuments_perm : (left.eitherDocuments right).Perm (left.union right combine).documents := by
  refine (List.perm_ext_iff_of_nodup (eitherDocuments_nodup left right)
    (documents_nodup _)).mpr fun d => ?_
  rw [mem_eitherDocuments, ← contains_union left right combine, ← mem_documents_iff]

theorem size_union :
    (left.union right combine).size = (left.documents.toFinset ∪ right.documents.toFinset).card := by
  have distinct := documents_nodup (left.union right combine)
  rw [← Table.length_names, ← documents, ← List.toFinset_card_of_nodup distinct]
  congr 1
  ext d
  simp only [Finset.mem_union, List.mem_toFinset, mem_documents_iff, contains_union, Bool.or_eq_true]

theorem unionM_pure :
    (left.unionM right fun a b => (pure (combine a b) : Id Relevance)).run =
      left.union right combine :=
  congrArg Id.run (Table.tabulateM_pure _ _)

theorem unionM_noted :
    (left.unionM right (noted combine)).run [] =
      (left.union right combine,
        (left.eitherDocuments right).map fun d => (left.relevance d, right.relevance d)) :=
  Table.tabulateM_noting _ (fun d => combine (left.relevance d) (right.relevance d))
    (documents_nodup left) (documents_nodup right)

end

inductive Construction where
  | collected (pairs : List (String × Relevance))
  | counted (counts : ResultSet)
  | union (combine : Combiner) (left right : Construction)
  | intersect (combine : Combiner) (left right : Construction)
  | difference (left right : Construction)

namespace Construction

def build : Construction → ResultSet
  | collected pairs => .ofList pairs
  | counted counts => counts
  | union combine left right => left.build.union right.build combine
  | intersect combine left right => left.build.intersect right.build combine
  | difference left right => left.build.difference right.build

/-- The entry of a document, from its entries in the parts. -/
def entry? (document : String) : Construction → Option Relevance
  | collected pairs => pairs.reverse.lookup document
  | counted counts => counts.find? document
  | union combine left right =>
    let here := left.entry? document
    let there := right.entry? document
    if here.isSome || there.isSome then some (unionScore combine (here.getD 0) (there.getD 0))
    else none
  | intersect combine left right =>
    (left.entry? document).map fun score =>
      intersectScore combine score ((right.entry? document).getD 0)
  | difference left right =>
    (left.entry? document).filter fun _ => survivesDifference ((right.entry? document).getD 0)

theorem find?_build (construction : Construction) (document : String) :
    construction.build.find? document = construction.entry? document := by
  induction construction with
  | collected pairs => exact Table.find?_ofList pairs document
  | counted counts => rfl
  | union combine left right ihl ihr =>
    rw [build, find?_union, Table.contains, Table.contains, relevance, relevance, ihl, ihr, entry?]
  | intersect combine left right ihl ihr => rw [build, find?_intersect, relevance, ihl, ihr, entry?]
  | difference left right ihl ihr => rw [build, find?_difference, relevance, ihl, ihr, entry?]

end Construction

theorem eq_entries_of_listedBefore {set : ResultSet} {list : List (String × Relevance)}
    (ordered : list.Pairwise ListedBefore)
    (same : ∀ d score, (d, score) ∈ list ↔ set.find? d = some score) : list = set.entries := by
  refine Table.entries_eq_of_mem_iff (ordered.imp listedBefore_iff.mp) set.ascending ?_
  rintro ⟨d, score⟩
  rw [same, Table.mem_entries_iff]

theorem eq_iff_agree {a b : ResultSet} :
    a = b ↔ ∀ d, a.contains d = b.contains d ∧ a.relevance d = b.relevance d := by
  constructor
  · rintro rfl d
    exact ⟨rfl, rfl⟩
  · intro agree
    exact ext_relevance (fun d => (agree d).1) fun d => (agree d).2

theorem find?_ofList_eq_some_iff {pairs : List (String × Relevance)} {d : String}
    {score : Relevance} :
    (Table.ofList pairs).find? d = some score ↔
      ∃ before after, pairs = before ++ (d, score) :: after ∧ ∀ pair ∈ after, pair.1 ≠ d := by
  -- The pairs are looked up from the last to the first.
  rw [Table.find?_ofList, List.lookup_eq_some_iff]
  constructor
  · rintro ⟨later, earlier, reversed, others⟩
    refine ⟨earlier.reverse, later.reverse, ?_, ?_⟩
    · rw [← List.reverse_reverse pairs, reversed]
      simp
    · intro pair mem
      have differs := others pair (List.mem_reverse.mp mem)
      exact (bne_iff_ne.mp differs).symm
  · rintro ⟨before, after, rfl, others⟩
    refine ⟨after.reverse, before.reverse, by simp, fun pair mem => ?_⟩
    have differs := others pair (List.mem_reverse.mp mem)
    exact bne_iff_ne.mpr differs.symm

/-- A set that is put together lists its documents once each, in the order of bytes, with the entries
that the construction gives them; no other list does, and sets that agree about every document are
equal. Of the pairs that are collected the last counts. A union has the documents of either side,
those of the left first asked about, each once and with what the two sides say. -/
theorem built_canonical (construction other : Construction) :
    let set := construction.build
    let second := other.build
    (set.entries.Pairwise ListedBefore ∧ set.documents.Nodup) ∧
    (∀ list : List (String × Relevance), list.Pairwise ListedBefore →
      (∀ d score, (d, score) ∈ list ↔ construction.entry? d = some score) → list = set.entries) ∧
    (set = second ↔ ∀ d, set.contains d = second.contains d ∧ set.relevance d = second.relevance d) ∧
    (∀ pairs d score, (Construction.collected pairs).build.find? d = some score ↔
      ∃ before after, pairs = before ++ (d, score) :: after ∧ ∀ pair ∈ after, pair.1 ≠ d) ∧
    ∀ combine,
      let both := set.union second combine
      both.size = (set.documents.toFinset ∪ second.documents.toFinset).card ∧
      (∀ d, set.contains d || second.contains d →
        both.find? d = some (combine (set.relevance d) (second.relevance d))) ∧
      (set.unionM second fun a b => (pure (combine a b) : Id Relevance)).run = both ∧
      (set.unionM second (noted combine)).run [] =
        (both, (set.eitherDocuments second).map fun d => (set.relevance d, second.relevance d)) ∧
      (set.eitherDocuments second).Perm both.documents := by
  intro set second
  refine ⟨⟨set.entries_ascend_in_bytes, set.documents_nodup⟩, ?_, eq_iff_agree, ?_, ?_⟩
  · intro list ordered same
    refine eq_entries_of_listedBefore ordered fun d score => ?_
    rw [same, construction.find?_build]
  · intro pairs d score
    exact find?_ofList_eq_some_iff
  · intro combine both
    refine ⟨size_union set second combine, ?_, unionM_pure set second combine,
      unionM_noted set second combine, eitherDocuments_perm set second combine⟩
    intro d listed
    rw [find?_union, if_pos listed]
    rfl

theorem built_canonical_repeated :
    let left := Construction.collected [("b", 1), ("a", 7), ("b", 2)]
    let right := Construction.counted (.ofList [("c", 0), ("b", 3)])
    let both := left.build.union right.build Scoring.max.combine
    both.find? "b" = some 3 ∧
      (left.build.unionM right.build (noted Scoring.max.combine)).run [] =
        (both, [(7, 0), (2, 3), (0, 0)]) := by
  intro left right both
  obtain ⟨-, -, -, -, union⟩ := built_canonical left right
  obtain ⟨-, found, -, asked, -⟩ := union Scoring.max.combine
  exact ⟨found "b" (by decide), asked⟩

end ResultSet

end TermSearch
