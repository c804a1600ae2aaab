import TermSearch.Index.Written

namespace TermSearch.Index

open Json

/-- Where the terms of an index file stand. -/
inductive HoldsTerms : Value → Value → Prop
  | member {members : List (String × Value)} {terms : Value} (mem : ("terms", terms) ∈ members) :
    HoldsTerms (.object members) terms
  | item (terms : Value) (more : List Value) : HoldsTerms (.array (terms :: more)) terms

def HoldsCount (file : Value) (n : Number) : Prop :=
  ∃ terms pairs term document, HoldsTerms file (.object terms) ∧
    (term, Value.object pairs) ∈ terms ∧ (document, Value.number n) ∈ pairs

theorem terms_of_foldlM {members : List (String × Value)} {found result : Option Index}
    (folded : members.foldlM update found = .ok result) {terms : Value}
    (mem : ("terms", terms) ∈ members) : ∃ index, decodeTerms terms = .ok index := by
  induction members generalizing found with
  | nil => simp at mem
  | cons first rest ih =>
    rw [List.foldlM_cons] at folded
    obtain ⟨next, updated, folded⟩ := bind_eq_ok folded
    rcases List.mem_cons.mp mem with rfl | mem
    · rw [update, if_pos rfl] at updated
      split at updated
      · contradiction
      · obtain ⟨index, decoded, -⟩ := map_eq_ok updated
        exact ⟨index, decoded⟩
    · exact ih folded mem

theorem terms_of_parse {file terms : Value} {text : String} {index : Index}
    (parsed : parse text = .ok index) (spelled : file.SpelledBy text)
    (holds : HoldsTerms file terms) : ∃ found, decodeTerms terms = .ok found := by
  cases holds with
  | member mem =>
    rw [parse_of_spelled spelled] at parsed
    obtain ⟨result, folded, -⟩ := map_eq_ok parsed
    exact terms_of_foldlM folded mem
  | item _ more =>
    rw [parse, Json.read, spelled] at parsed
    obtain ⟨⟨index, rest⟩, read, -⟩ := bind_eq_ok parsed
    have first := (takes_termsReader terms).firstItem? (Value.itemLexemes more ++ [.closeBracket])
    rw [← List.append_assoc] at first
    obtain ⟨taken, opened, -⟩ := bind_eq_ok read
    rw [first] at opened
    obtain ⟨found, decoded, -⟩ := map_eq_ok opened
    exact ⟨found, decoded⟩

theorem load_malformed {file : Value} {n : Number} (holds : HoldsCount file n) {text : String}
    (spelled : file.SpelledBy text) (uncountable : ∀ k ≤ Relevance.limit, n.numeral.natural? ≠ some k)
    (path : String) : ∃ fault, load path (.file text.toUTF8) = .error (.malformed path fault) := by
  obtain ⟨terms, pairs, term, document, inFile, inTerms, inPairs⟩ := holds
  rw [load_toUTF8]
  cases parsed : parse text with
  | error fault => exact ⟨fault, rfl⟩
  | ok index =>
    obtain ⟨found, decoded⟩ := terms_of_parse parsed spelled inFile
    obtain ⟨set, decoded⟩ := Value.member_of_table decoded _ inTerms
    obtain ⟨count, counted⟩ := Value.member_of_table decoded _ inPairs
    obtain ⟨k, bounded, natural⟩ := Numeral.natural?_of_count counted
    exact absurd natural (uncountable k bounded)

section

variable {α β γ : Type}

theorem mapCounts_mapCounts (g : β → γ) (f : α → β) (rows : List (String × List (String × α))) :
    mapCounts g (mapCounts f rows) = mapCounts (g ∘ f) rows := by
  simp [mapCounts, Function.comp_def]

theorem mapCounts_eq_self {f : α → α} {rows : List (String × List (String × α))}
    (fixed : ∀ row ∈ rows, ∀ pair ∈ row.2, f pair.2 = pair.2) : mapCounts f rows = rows := by
  have kept (row : String × List (String × α)) (listed : row ∈ rows) :
      (row.2.map fun pair => (pair.1, f pair.2)) = row.2 := by
    refine (List.map_congr_left (g := id) fun pair mem => ?_).trans row.2.map_id
    rw [fixed row listed pair mem, id]
  refine (List.map_congr_left (g := id) fun row listed => ?_).trans rows.map_id
  rw [kept row listed, id]

theorem lookup_mapCounts (f : α → β) (rows : List (String × List (String × α))) (term : String) :
    (mapCounts f rows).reverse.lookup term =
      (rows.reverse.lookup term).map fun pairs => pairs.map fun pair => (pair.1, f pair.2) := by
  rw [mapCounts, ← List.map_reverse]
  exact Table.lookup_map (fun _ (pairs : List (String × α)) =>
    pairs.map fun pair => (pair.1, f pair.2)) rows.reverse term

end

theorem find?_counts_ofRows (rows : List (String × List (String × Relevance)))
    (term document : String) :
    (((ofRows rows).counts term).find? document).map UInt32.toNat =
      ((mapCounts UInt32.toNat rows).reverse.lookup term).bind (·.reverse.lookup document) := by
  rw [lookup_mapCounts, Index.counts, find?_ofRows]
  cases rows.reverse.lookup term with
  | none => rfl
  | some pairs =>
    show ((Table.ofList pairs).find? document).map UInt32.toNat =
      (pairs.map fun pair => (pair.1, pair.2.toNat)).reverse.lookup document
    rw [← List.map_reverse, Table.find?_ofList]
    exact (Table.lookup_map (fun _ => UInt32.toNat) pairs.reverse document).symm

variable {rows : List (String × List (String × Nat))}

theorem exists_counts (bounded : ∀ row ∈ rows, ∀ pair ∈ row.2, pair.2 ≤ Relevance.limit) :
    ∃ counts, rows = mapCounts UInt32.toNat counts := by
  refine ⟨mapCounts UInt32.ofNat rows, ?_⟩
  rw [mapCounts_mapCounts, mapCounts_eq_self]
  intro row listed pair mem
  exact UInt32.toNat_ofNat_of_lt' (Nat.lt_succ_of_le (bounded row listed pair mem))

theorem load_mapCounts (counts : List (String × List (String × Relevance))) (path : String) :
    load path (.file (rowsText (mapCounts Number.ofNat (mapCounts UInt32.toNat counts))).toUTF8) =
      .ok (ofRows counts) := by
  rw [mapCounts_mapCounts]
  exact load_textOf counts path

theorem holdsCount_row {row : String × List (String × Nat)} (listed : row ∈ rows)
    {pair : String × Nat} (mem : pair ∈ row.2) :
    HoldsCount (rowsToJson (mapCounts Number.ofNat rows)) (.ofNat pair.2) := by
  refine ⟨_, row.2.map fun pair => (pair.1, .number (.ofNat pair.2)), row.1, pair.1,
    .member (List.mem_singleton.mpr rfl), ?_, List.mem_map_of_mem mem⟩
  refine List.mem_map.mpr ⟨_, List.mem_map_of_mem listed, ?_⟩
  simp [ResultSet.pairsToJson, Function.comp_def]

theorem malformed_of_beyond {row : String × List (String × Nat)} (listed : row ∈ rows)
    {pair : String × Nat} (mem : pair ∈ row.2) (beyond : Relevance.limit < pair.2) (path : String) :
    ∃ fault, load path (.file (rowsText (mapCounts Number.ofNat rows)).toUTF8) =
      .error (.malformed path fault) := by
  apply load_malformed (holdsCount_row listed mem) (Value.spelledBy_write _ (some 0))
  intro k bounded natural
  rw [Number.natural?_numeral_ofNat] at natural
  obtain rfl := Option.some.inj natural
  omega

/-- A file in the layout of an index, its counts any natural numbers, loads exactly when none of them
is beyond the limit, and then holds these numbers, the last one where a name is repeated. Otherwise it
is malformed, as is every file that holds a count with a minus sign, in either layout or however else
it is spelled. -/
theorem load_within_limit (path : String) :
    (∀ rows : List (String × List (String × Nat)),
      let state := FileState.file (rowsText (mapCounts Number.ofNat rows)).toUTF8
      ((∃ index, load path state = .ok index) ↔
          ∀ row ∈ rows, ∀ pair ∈ row.2, pair.2 ≤ Relevance.limit) ∧
        (∀ index, load path state = .ok index →
          (∀ term, index.contains term = (rows.reverse.lookup term).isSome) ∧
            ∀ term document, ((index.counts term).find? document).map UInt32.toNat =
              (rows.reverse.lookup term).bind (·.reverse.lookup document)) ∧
        ((∃ row ∈ rows, ∃ pair ∈ row.2, Relevance.limit < pair.2) →
          ∃ fault, load path state = .error (.malformed path fault))) ∧
      ∀ (file : Value) (n : Number), HoldsCount file n → '-' ∈ n.text →
        (∀ layout, file.SpelledBy (.ofList (file.write layout))) ∧
          ∀ text : String, file.SpelledBy text →
            ∃ fault, load path (.file text.toUTF8) = .error (.malformed path fault) := by
  constructor
  · intro rows state
    have bounded (loads : ∃ index, load path state = .ok index) :
        ∀ row ∈ rows, ∀ pair ∈ row.2, pair.2 ≤ Relevance.limit := by
      intro row listed pair mem
      refine Nat.le_of_not_lt fun beyond => ?_
      obtain ⟨index, loaded⟩ := loads
      obtain ⟨fault, failed⟩ := malformed_of_beyond listed mem beyond path
      cases loaded.symm.trans failed
    refine ⟨⟨bounded, ?_⟩, ?_, ?_⟩
    · intro bounded
      obtain ⟨counts, rfl⟩ := exists_counts bounded
      exact ⟨_, load_mapCounts counts path⟩
    · intro index loaded
      obtain ⟨counts, rfl⟩ := exists_counts (bounded ⟨index, loaded⟩)
      obtain rfl : ofRows counts = index :=
        Except.ok.inj ((load_mapCounts counts path).symm.trans loaded)
      refine ⟨fun term => ?_, find?_counts_ofRows counts⟩
      rw [Table.contains, find?_ofRows, lookup_mapCounts, Option.isSome_map, Option.isSome_map]
    · rintro ⟨row, listed, pair, mem, beyond⟩
      exact malformed_of_beyond listed mem beyond path
  · intro file n holds minus
    refine ⟨Value.spelledBy_write file, fun text spelled => ?_⟩
    apply load_malformed holds spelled
    intro k _ natural
    rw [Number.natural?_of_minus minus] at natural
    contradiction

/-- The large number here would wrap to one, and its document is repeated with a count that would do.
The minus signs stand before a one, in a text with blanks of its own, and before a zero. -/
theorem load_within_limit_edges :
    let small : List (String × List (String × Nat)) := [("cat", [("docA", 1), ("docA", 4294967295)])]
    let large : List (String × List (String × Nat)) :=
      [("cat", [("docA", 18446744073709551617), ("docA", 1)])]
    let below (n : Nat) : Value :=
      .object [("cat", .object [("docA", .number { negative := true, whole := n })])]
    let text : String := "\x7b\"terms\": \x7b\"cat\": \x7b\"docA\": -1\x7d\x7d\x7d"
    (∃ index, load "index.json" (.file (rowsText (mapCounts Number.ofNat small)).toUTF8) = .ok index ∧
      ((index.counts "cat").find? "docA").map UInt32.toNat = some 4294967295) ∧
      (∃ fault, load "index.json" (.file (rowsText (mapCounts Number.ofNat large)).toUTF8) =
        .error (.malformed "index.json" fault)) ∧
      (∃ fault, load "index.json" (.file text.toUTF8) = .error (.malformed "index.json" fault)) ∧
      ∃ fault, load "index.json" (.file (Value.array [below 0]).compact.toUTF8) =
        .error (.malformed "index.json" fault) := by
  intro small large below text
  obtain ⟨numbers, signs⟩ := load_within_limit "index.json"
  obtain ⟨loads, holds, -⟩ := numbers small
  obtain ⟨-, -, malformed⟩ := numbers large
  obtain ⟨index, loaded⟩ := loads.mpr (by decide)
  have held (n : Nat) {file : Value} (terms : HoldsTerms file (below n)) :
      HoldsCount file { negative := true, whole := n } :=
    ⟨_, _, "cat", "docA", terms, List.mem_singleton.mpr rfl, List.mem_singleton.mpr rfl⟩
  refine ⟨⟨index, loaded, (holds index loaded).2 "cat" "docA"⟩, malformed (by decide), ?_, ?_⟩
  · have spelled : (Value.object [("terms", below 1)]).SpelledBy text := by
      have one : digits 1 = [1] := digits_of_lt (by decide)
      simp [Value.SpelledBy, text, below, Value.lexemes, Value.memberLexemes, Number.numeral, one]
      rfl
    obtain ⟨-, refused⟩ := signs _ _ (held 1 (.member (List.mem_singleton.mpr rfl))) (by decide)
    exact refused text spelled
  · obtain ⟨written, refused⟩ := signs _ _ (held 0 (.item (below 0) [])) (by decide)
    exact refused _ (written none)

/-- Members of other names around the terms change nothing, in whatever order the terms stand, in
either layout and however else the file is spelled. A file of such members alone is the empty index. -/
theorem load_passes_unknown_members {before after : List (String × Value)}
    (unknown : ∀ m ∈ before ++ after, m.1 ≠ "terms") (path : String) :
    (∀ (index : Index) (rows : List (String × List (String × Relevance))), rows.Perm index.rows →
      let file := Value.object (before ++ ("terms", termsToJson (written rows)) :: after)
      (∀ layout, file.SpelledBy (.ofList (file.write layout))) ∧
        ∀ text : String, file.SpelledBy text → load path (.file text.toUTF8) = .ok index) ∧
      let others := Value.object (before ++ after)
      (∀ layout, others.SpelledBy (.ofList (others.write layout))) ∧
        ∀ text : String, others.SpelledBy text → load path (.file text.toUTF8) = .ok ∅ := by
  constructor
  · intro index rows perm file
    refine ⟨file.spelledBy_write, fun text spelled => ?_⟩
    have earlier : ∀ m ∈ before, m.1 ≠ "terms" := fun m mem =>
      unknown m (List.mem_append_left after mem)
    have later : ∀ m ∈ after, m.1 ≠ "terms" := fun m mem =>
      unknown m (List.mem_append_right before mem)
    rw [load_toUTF8, parse_of_spelled spelled, decode_terms earlier later, decodeTerms_written,
      ofRows_of_perm perm]
    rfl
  · intro others
    refine ⟨others.spelledBy_write, fun text spelled => ?_⟩
    rw [load_toUTF8, parse_of_spelled spelled, decode_of_unknown unknown]
    rfl

/-- The members here have one name and hold nested values, a member `terms` of their own, text with a
quote and a number beyond all counts. -/
theorem load_passes_unknown_members_nested :
    let note : Value := .array [.object [], .array [], .object [("terms", .array [.null])]]
    let before : List (String × Value) := [("note", note), ("note", .string "a\"]\x7d")]
    let power : Exponent := { sign := some .plus, digits := [0, 4, 0, 0] }
    let after : List (String × Value) := [("", .number ⟨true, 0, [5], some power⟩)]
    let rows : List (String × List (String × Relevance)) := [("cat", [("docA", 2)]), ("ant", [])]
    let members := before ++ ("terms", termsToJson (written rows)) :: after
    (∀ m ∈ before ++ after, m.1 ≠ "terms") ∧
      load "index.json" (.file (Value.object members).compact.toUTF8) = .ok (ofRows rows) ∧
      load "index.json" (.file (Value.object (before ++ after)).pretty.toUTF8) = .ok ∅ := by
  intro note before power after rows members
  have unknown : ∀ m ∈ before ++ after, m.1 ≠ "terms" := by decide
  obtain ⟨around, spelled, alone⟩ := load_passes_unknown_members unknown "index.json"
  obtain ⟨written, surrounded⟩ := around (ofRows rows) rows (by decide)
  exact ⟨unknown, surrounded _ (written none), alone _ (spelled (some 0))⟩

end TermSearch.Index
