import TermSearch.ResultSet.Output
import TermSearch.Proofs.Text.ByteOrder

namespace TermSearch.ResultSet

def Before (a b : String × Relevance) : Prop := a.2 < b.2 ∨ a.2 = b.2 ∧ a.1 < b.1

theorem Before.asymm {a b : String × Relevance} (before : Before a b) : ¬ Before b a := by
  rintro (lower | ⟨same, first⟩)
  · rcases before with above | ⟨level, -⟩
    · exact UInt32.lt_asymm above lower
    · exact UInt32.lt_irrefl _ (level ▸ lower)
  · rcases before with above | ⟨-, later⟩
    · exact UInt32.lt_irrefl _ (same ▸ above)
    · exact String.lt_asymm later first

theorem eq_of_perm_of_before {as bs : List (String × Relevance)} (perm : as.Perm bs)
    (has : as.Pairwise Before) (hbs : bs.Pairwise Before) : as = bs := by
  refine perm.eq_of_pairwise ?_ has hbs
  intro a b _ _ forth back
  exact absurd back forth.asymm

/-- Sorting by score is stable, so entries that ascend by document are ranked. -/
theorem mergeSort_before {entries : List (String × Relevance)}
    (ascending : entries.Pairwise (·.1 < ·.1)) :
    (entries.mergeSort (·.2 ≤ ·.2)).Pairwise Before := by
  have trans : ∀ a b c : String × Relevance,
      decide (a.2 ≤ b.2) = true → decide (b.2 ≤ c.2) = true → decide (a.2 ≤ c.2) = true := by
    intro a b c below above
    exact decide_eq_true (UInt32.le_trans (of_decide_eq_true below) (of_decide_eq_true above))
  have total : ∀ a b : String × Relevance, (decide (a.2 ≤ b.2) || decide (b.2 ≤ a.2)) = true := by
    intro a b
    simpa using UInt32.le_total a.2 b.2
  induction ascending with
  | nil => simp
  | @cons e rest first _ ih =>
    -- The first entry goes behind those with a lower score and stays before those with its own.
    obtain ⟨lower, others, whole, sorted, below⟩ := List.mergeSort_cons trans total e rest
    have levels := List.pairwise_mergeSort trans total (e :: rest)
    have later : ∀ other ∈ lower ++ others, e.1 < other.1 := by
      intro other mem
      rw [← sorted, List.mem_mergeSort] at mem
      exact first other mem
    rw [whole] at levels ⊢
    rw [sorted] at ih
    obtain ⟨-, upper, -⟩ := List.pairwise_append.mp levels
    obtain ⟨start, rest, across⟩ := List.pairwise_append.mp ih
    refine List.pairwise_append.mpr ⟨start, .cons ?_ rest, ?_⟩
    · intro other mem
      have above := of_decide_eq_true (List.rel_of_pairwise_cons upper mem)
      by_cases level : e.2 = other.2
      · exact .inr ⟨level, later other (List.mem_append_right _ mem)⟩
      · exact .inl (UInt32.lt_of_le_of_ne above level)
    · intro low mem other mem'
      rcases List.mem_cons.mp mem' with rfl | mem'
      · have less := below low mem
        exact .inl (UInt32.not_le.mp (by simpa using less))
      · exact across low mem other mem'

theorem ranked_before (set : ResultSet) : set.ranked.Pairwise Before :=
  mergeSort_before set.ascending

theorem filter_ranked (set : ResultSet) (keep : String × Relevance → Bool) :
    set.ranked.filter keep = (set.entries.filter keep).mergeSort (·.2 ≤ ·.2) := by
  have perm : (set.ranked.filter keep).Perm ((set.entries.filter keep).mergeSort (·.2 ≤ ·.2)) :=
    (set.ranked_perm.filter keep).trans (List.mergeSort_perm _ _).symm
  exact eq_of_perm_of_before perm (set.ranked_before.filter keep)
    (mergeSort_before (set.ascending.filter keep))

theorem shown_matching (set : ResultSet) :
    set.shown true =
      (set.matching.mergeSort (·.2 ≤ ·.2)).map fun entry => ⟨entry.1, entry.2⟩ := by
  rw [shown_eq_map]
  exact congrArg _ (filter_ranked set _)

def BeforeInBytes (a b : String × Relevance) : Prop :=
  a.2 < b.2 ∨ a.2 = b.2 ∧ ListedBefore a b

instance : DecidableRel BeforeInBytes := fun _ _ => inferInstanceAs (Decidable (_ ∨ _ ∧ _))

theorem before_iff_beforeInBytes {a b : String × Relevance} : Before a b ↔ BeforeInBytes a b := by
  rw [Before, BeforeInBytes, listedBefore_iff]

theorem entries_ascend_in_bytes (set : ResultSet) : set.entries.Pairwise ListedBefore :=
  set.ascending.imp listedBefore_iff.mpr

theorem zero_of_mem {set : ResultSet} {e : String × Relevance}
    (mem : e ∈ set.entries.filter (·.2 = 0)) : e.2 = 0 := by
  simpa using (List.mem_filter.mp mem).2

theorem zeros_before (set : ResultSet) : (set.entries.filter (·.2 = 0)).Pairwise Before := by
  refine (set.ascending.filter _).imp_of_mem ?_
  intro a b memA memB first
  exact .inr ⟨(zero_of_mem memA).trans (zero_of_mem memB).symm, first⟩

theorem ranked_eq_append (set : ResultSet) :
    set.ranked = set.entries.filter (·.2 = 0) ++ set.ranked.filter (·.2 ≠ 0) := by
  refine eq_of_perm_of_before ?_ set.ranked_before ?_
  · have zeros := set.ranked_perm.filter (·.2 = 0)
    have parts := List.filter_append_perm (fun e => decide (e.2 = 0)) set.ranked
    simp only [← decide_not] at parts
    exact parts.symm.trans (zeros.append_right _)
  · refine List.pairwise_append.mpr ⟨set.zeros_before, set.ranked_before.filter _, ?_⟩
    intro low mem high mem'
    have above : high.2 ≠ 0 := by simpa using (List.mem_filter.mp mem').2
    exact .inl (zero_of_mem mem ▸ UInt32.pos_iff_ne_zero.mpr above)

theorem printLines_zeros {zeros : List (String × Relevance)} (zero : ∀ e ∈ zeros, e.2 = 0) :
    printLines (zeros.map fun e => ⟨e.1, e.2⟩) = .join (zeros.map fun e => e.1 ++ "=0\n") := by
  refine String.toList_inj.mp ?_
  rw [toList_printLines, String.toList_join, List.flatMap_def, List.flatMap_def, List.map_map,
    List.map_map, List.map_map]
  refine congrArg List.flatten (List.map_congr_left ?_)
  intro e mem
  simp [RankedEntry.line, zero e mem]

theorem print_eq_append (set : ResultSet) :
    set.print false false =
      .join ((set.entries.filter (·.2 = 0)).map fun e => e.1 ++ "=0\n") ++ set.print true false := by
  have whole := congrArg (fun entries => printLines (entries.map fun e => ⟨e.1, e.2⟩))
    set.ranked_eq_append
  simp only [List.map_append, printLines_append] at whole
  rw [printLines_zeros fun _ => zero_of_mem] at whole
  rw [print, print, shown_eq_map, shown_eq_map]
  exact whole

/-- The entries of a set have one order in which they ascend by score and then by the bytes of the
document, which is the ranking of the set however it was collected. Zero scores may be left out
before or after ranking. In print they are the front, one line each in the order of documents. -/
theorem ranked_canonical (set : ResultSet) :
    (set.ranked.Perm set.entries ∧ set.ranked.Pairwise BeforeInBytes) ∧
      (∀ list : List (String × Relevance),
        list.Perm set.entries → list.Pairwise BeforeInBytes → list = set.ranked) ∧
      (∀ pairs : List (String × Relevance),
        pairs.Perm set.entries → ranked (.ofList pairs) = set.ranked) ∧
      set.ranked.filter (·.2 ≠ 0) = ranked (set.filter fun _ score => score ≠ 0) ∧
      set.entries.Pairwise ListedBefore ∧
      set.print false false =
        .join ((set.entries.filter (·.2 = 0)).map fun e => e.1 ++ "=0\n") ++
          set.print true false := by
  have inBytes := set.ranked_before.imp before_iff_beforeInBytes.mp
  refine ⟨⟨set.ranked_perm, inBytes⟩, ?_, ?_, ?_, set.entries_ascend_in_bytes, set.print_eq_append⟩
  · intro list perm ordered
    exact eq_of_perm_of_before (perm.trans set.ranked_perm.symm)
      (ordered.imp before_iff_beforeInBytes.mpr) set.ranked_before
  · intro pairs perm
    rw [Table.ofList_of_perm perm]
  · exact filter_ranked set _

/-- In UTF-16 the two names with equal scores would change places. -/
theorem ranked_canonical_beyond_ascii :
    ranked (.ofList [("😀", 1), ("～", 1), ("b", 0)]) = [("b", 0), ("～", 1), ("😀", 1)] := by
  obtain ⟨-, only, -⟩ := ranked_canonical (.ofList [("😀", 1), ("～", 1), ("b", 0)])
  exact (only [("b", 0), ("～", 1), ("😀", 1)] (by decide) (by decide)).symm

end TermSearch.ResultSet
