import TermSearch.Proofs.ResultSet.Ranking
import TermSearch.Index.Written
import TermSearch.Text.Split

/-!
A document may hold equals signs of its own. The last one of a line is the one before the score,
which is printed in decimal digits only.
-/

namespace TermSearch

namespace ResultSet

theorem read_print_json (set : ResultSet) (matching : Bool) :
    Json.read RankedEntry.listReader (set.print matching true) = .ok (set.shown matching) :=
  (RankedEntry.takes_listReader _).read (Json.Value.spelledBy_write_line _ (some 0))

theorem read_toJson (set : ResultSet) (layout : Json.Layout) :
    Json.read reader (.ofList (set.toJson.write layout)) = .ok set :=
  (takes_reader set).read (Json.Value.spelledBy_write _ layout)

theorem shown_of_print_json {a b : ResultSet} {matching : Bool}
    (same : a.print matching true = b.print matching true) : a.shown matching = b.shown matching := by
  have read := read_print_json a matching
  rw [same, read_print_json] at read
  exact (Except.ok.inj read).symm

theorem pairs_of_entries {as bs : List (String × Relevance)}
    (same : (as.map fun e => RankedEntry.mk e.1 e.2) = bs.map fun e => RankedEntry.mk e.1 e.2) :
    as = bs := by
  refine List.map_inj_right ?_ |>.mp same
  rintro ⟨d, score⟩ ⟨d', score'⟩ entry
  cases entry
  rfl

theorem eq_of_rankedEntries {a b : ResultSet} (same : a.rankedEntries = b.rankedEntries) : a = b := by
  have ranked : a.ranked = b.ranked := pairs_of_entries same
  have perm := a.ranked_perm.symm.trans (ranked ▸ b.ranked_perm)
  rw [← Table.ofList_entries a, Table.ofList_of_perm perm]

theorem matching_of_shown {a b : ResultSet} (same : a.shown true = b.shown true) :
    a.matching = b.matching := by
  rw [shown_matching, shown_matching] at same
  have sorted := pairs_of_entries same
  have perm : a.matching.Perm b.matching :=
    (List.mergeSort_perm a.matching _).symm.trans (sorted ▸ List.mergeSort_perm b.matching _)
  exact Table.entries_eq_of_mem_iff (a.ascending.filter _) (b.ascending.filter _) fun _ => perm.mem_iff

/-- Printed JSON reads as the ranking, without the zero scores if they are left out, and the JSON of
a set as the set. So the texts of two sets agree exactly when the sets do, or what is printed of
them. -/
theorem json_reads_back (a b : ResultSet) (matching : Bool) :
    Json.read RankedEntry.listReader (a.print matching true) =
        .ok (if matching then a.rankedEntries.filter (·.relevance ≠ 0) else a.rankedEntries) ∧
      Json.read reader a.toJson.compact = .ok a ∧
      (a.toJson.compact = b.toJson.compact ↔ a = b) ∧
      (a.print false true = b.print false true ↔ a = b) ∧
      (a.print true true = b.print true true ↔ a.matching = b.matching) := by
  refine ⟨?_, read_toJson a none, ?_, ?_, ?_⟩
  · rw [read_print_json, shown_eq_ite]
  · refine ⟨fun same => ?_, fun same => same ▸ rfl⟩
    have read : Json.read reader a.toJson.compact = .ok a := read_toJson a none
    rw [same] at read
    exact Except.ok.inj (read.symm.trans (read_toJson b none))
  · refine ⟨fun same => ?_, fun same => same ▸ rfl⟩
    have shown := shown_of_print_json same
    rw [shown_eq_ite, shown_eq_ite] at shown
    exact eq_of_rankedEntries shown
  · refine ⟨fun same => matching_of_shown (shown_of_print_json same), fun same => ?_⟩
    rw [print, print, shown_matching, shown_matching, same]

end ResultSet

namespace Relevance

def ofDigits? (digits : List Char) : Option Relevance :=
  if digits ≠ [] ∧ digits.all Char.isDigit ∧ Nat.ofDigitChars 10 digits 0 ≤ limit then
    some (.ofNat (Nat.ofDigitChars 10 digits 0))
  else none

theorem ofDigits?_toDigits (score : Relevance) :
    ofDigits? (Nat.toDigits 10 score.toNat) = some score := by
  have digits : (Nat.toDigits 10 score.toNat).all Char.isDigit := by
    rw [List.all_eq_true]
    intro c mem
    exact Nat.isDigit_of_mem_toDigits (by decide) (by decide) mem
  rw [ofDigits?, Nat.ofDigitChars_ten_toDigits,
    if_pos ⟨Nat.toDigits_ne_nil, digits, score.toNat_le_limit⟩, UInt32.ofNat_toNat]

end Relevance

namespace RankedEntry

def ofLine? (line : String) : Option RankedEntry := do
  let (document, digits) ← splitLast? '=' line.toList
  let score ← Relevance.ofDigits? digits
  return ⟨.ofList document, score⟩

theorem ofLine?_line (entry : RankedEntry) : ofLine? entry.line = some entry := by
  have whole : splitLast? '=' entry.line.toList =
      some (entry.document.toList, Nat.toDigits 10 entry.relevance.toNat) := by
    rw [line, String.toList_ofList]
    exact splitLast?_append (Json.not_mem_toDigits (by decide) _) _
  simp [ofLine?, whole, Relevance.ofDigits?_toDigits]

theorem newline_not_mem_line {entry : RankedEntry} (unbroken : '\n' ∉ entry.document.toList) :
    '\n' ∉ entry.line.toList := by
  have digits := Json.not_mem_toDigits (c := '\n') (by decide) entry.relevance.toNat
  simpa [line, unbroken] using digits

end RankedEntry

namespace ResultSet

theorem document_mem_of_shown {set : ResultSet} {matching : Bool} {entry : RankedEntry}
    (mem : entry ∈ set.shown matching) : entry.document ∈ set.documents := by
  obtain ⟨e, ranked, rfl⟩ := List.mem_map.mp (List.mem_filter.mp mem).1
  exact List.mem_map_of_mem (set.ranked_perm.mem_iff.mp ranked)

/-- If no document holds a line feed, the lines that are printed, each closed by a line feed, read
back as the ranking, without the zero scores if they are left out. -/
theorem lines_read_back (set : ResultSet) (matching : Bool)
    (unbroken : ∀ document ∈ set.documents, '\n' ∉ document.toList) :
    let kept := if matching then set.ranked.filter (·.2 ≠ 0) else set.ranked
    ∃ lines : List String,
      (set.print matching false).toList = (lines.flatMap fun line => line.toList ++ ['\n']) ∧
        split '\n' (set.print matching false).toList = lines ++ [""] ∧
        lines.length = kept.length ∧
        lines.map RankedEntry.ofLine? = kept.map fun e => some ⟨e.1, e.2⟩ := by
  intro kept
  have shown : set.shown matching = kept.map fun e => ⟨e.1, e.2⟩ := shown_eq_map set matching
  have printed : (set.print matching false).toList =
      ((set.shown matching).map (·.line)).flatMap fun line => line.toList ++ ['\n'] :=
    toList_printLines _
  have closed : ∀ line ∈ (set.shown matching).map (·.line), '\n' ∉ line.toList := by
    intro line mem
    obtain ⟨entry, among, rfl⟩ := List.mem_map.mp mem
    exact RankedEntry.newline_not_mem_line (unbroken _ (document_mem_of_shown among))
  refine ⟨_, printed, ?_, ?_, ?_⟩
  · rw [printed, split_flatMap closed]
  · rw [shown, List.length_map, List.length_map]
  · rw [shown, List.map_map, List.map_map]
    refine List.map_congr_left ?_
    intro e _
    exact RankedEntry.ofLine?_line _

/-- A line may start with its equals sign, and a document may look like a line. -/
theorem lines_read_back_equals_signs :
    let set : ResultSet := .ofList [("", 0), ("cat=12", 4294967295), ("=", 10)]
    ∃ lines,
      split '\n' (set.print false false).toList = lines ++ [""] ∧
        lines.map RankedEntry.ofLine? =
          [some ⟨"", 0⟩, some ⟨"=", 10⟩, some ⟨"cat=12", 4294967295⟩] := by
  intro set
  have ranked : set.ranked = set.entries := List.mergeSort_of_pairwise (by decide)
  obtain ⟨lines, -, pieces, -, entries⟩ := lines_read_back set false (by decide)
  exact ⟨lines, pieces, entries.trans (congrArg _ ranked)⟩

end ResultSet

end TermSearch
