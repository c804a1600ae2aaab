import TermSearch.Folder
import TermSearch.Index.Written
import TermSearch.Query.Steady
import TermSearch.Proofs.Json.CutReading

/-! No cut of a saved index passes for a smaller index, or for a fault in what stands before it. -/

namespace TermSearch

namespace Index

/-- Saves an index with its terms in any order. -/
def Saves (index : Index) (path : String) (folder saved : Folder) : Prop :=
  ∃ rows, rows.Perm index.rows ∧ folder.write path (textOf rows) = .ok saved

theorem save_eq_write (index : Index) (path : String) (folder : Folder) :
    index.save path folder = folder.write path (textOf index.rows) := by
  rw [save, toText_eq_textOf]

theorem saves_of_save {index : Index} {path : String} {folder saved : Folder}
    (written : index.save path folder = .ok saved) : index.Saves path folder saved :=
  ⟨index.rows, .refl _, save_eq_write index path folder ▸ written⟩

theorem load_of_saves {index : Index} {path : String} {folder saved : Folder}
    (saves : index.Saves path folder saved) : load path (saved.read path) = .ok index := by
  obtain ⟨rows, perm, written⟩ := saves
  rw [Folder.read_of_write written, load_textOf, ofRows_of_perm perm]

def lastCount? (rows : List (String × List (String × Relevance))) (term document : String) :
    Option Relevance := do
  let pairs ← rows.reverse.lookup term
  pairs.reverse.lookup document

/-- Rows in the layout of an index file load as the last counts of every term. An index is saved as its
rows wherever a file may be written, and opened as itself. -/
theorem load_written :
    (∀ rows path, ∃ index, load path (.file (textOf rows).toUTF8) = .ok index ∧
      (∀ term, index.contains term = (rows.reverse.lookup term).isSome) ∧
      ∀ term document, (index.counts term).find? document = lastCount? rows term document) ∧
    ∀ (index : Index) path folder,
      index.save path folder = folder.write path (textOf index.rows) ∧
      (folder.Writable path ↔ ∃ saved, index.save path folder = .ok saved) ∧
      ∀ saved,
        (index.save path folder = .ok saved → index.Saves path folder saved) ∧
        (index.Saves path folder saved →
          let source := Source.ofFile path (load path (saved.read path))
          load path (saved.read path) = .ok index ∧
          (∀ state, source.connect state = (.ok (some ⟨path, index.size⟩), index)) ∧
          (∀ term, source.lookup term index = (((Source.ofIndex index).lookup term ()).1, index)) ∧
          ∀ combine tokens state, (Query.run source combine tokens state).answer =
            (Query.run (.ofIndex index) combine tokens ()).answer) := by
  constructor
  · intro rows path
    refine ⟨ofRows rows, load_textOf rows path, ?_, ?_⟩
    · intro term
      rw [Table.contains, find?_ofRows, Option.isSome_map]
    · intro term document
      rw [counts, find?_ofRows, lastCount?]
      cases rows.reverse.lookup term with
      | none => rfl
      | some pairs => exact Table.find?_ofList pairs document
  · intro index path folder
    have written := save_eq_write index path folder
    refine ⟨written, written ▸ Folder.writable_iff _, fun saved => ⟨saves_of_save, ?_⟩⟩
    intro saves source
    have loaded := load_of_saves saves
    have connected (state : Index) : source.connect state = (.ok (some ⟨path, index.size⟩), index) := by
      show (Source.ofFile path (load path (saved.read path))).connect state = _
      rw [loaded]
      rfl
    refine ⟨loaded, connected, fun term => rfl, ?_⟩
    intro combine tokens state
    have opened := Query.answer_run_eq_evaluate (connected state)
      (Source.serves_ofFile path _ index) combine tokens
    have held : (Query.run (.ofIndex index) combine tokens ()).answer = _ :=
      Query.answer_run_eq_evaluate rfl (Source.serves_ofCounts index.counts ()) combine tokens
    exact opened.trans held.symm

/-- The index is saved, and its terms are also written the other way round: a term without documents
behind one that needs escapes. -/
theorem load_written_escapes :
    let rows : List (String × List (String × Relevance)) :=
      [("b\"\\", [("", 0), ("x\ny", 4294967295)]), ("", [])]
    let other : Folder := { entries := [(["index.json"], .file (textOf rows).toUTF8)] }
    (∃ saved, (ofRows rows).save "index.json" {} = .ok saved ∧
      load "index.json" (saved.read "index.json") = .ok (ofRows rows)) ∧
      load "index.json" (other.read "index.json") = .ok (ofRows rows) := by
  intro rows other
  obtain ⟨-, opened⟩ := load_written
  obtain ⟨-, writable, reopened⟩ := opened (ofRows rows) "index.json" {}
  have place : Folder.Writable {} "index.json" :=
    ⟨["index.json"], by decide, by decide, by decide, rfl⟩
  obtain ⟨saved, written⟩ := writable.mp place
  have reversed : (ofRows rows).Saves "index.json" {} other :=
    ⟨rows, by decide, Folder.write_eq_ok_iff.2 ⟨["index.json"], by decide, by decide, by decide, rfl, rfl⟩⟩
  exact ⟨⟨saved, written, ((reopened saved).2 ((reopened saved).1 written)).1⟩,
    ((reopened other).2 reversed).1⟩

end Index

/-- Byte `n` lies inside of a character: some bytes of it stand before `n`, and some do not. -/
def Splits (text : String) (n : Nat) : Prop :=
  ∃ before c after, text = before ++ .singleton c ++ after ∧
    before.utf8ByteSize < n ∧ n < before.utf8ByteSize + c.utf8Size

theorem ofList_cons (c : Char) (cs : List Char) :
    String.ofList (c :: cs) = .singleton c ++ .ofList cs := by
  rw [← String.toList_inj]
  simp

theorem eq_append_or_splits (text : String) {n : Nat} (inside : n ≤ text.utf8ByteSize) :
    (∃ taken rest, text = taken ++ rest ∧ taken.utf8ByteSize = n) ∨ Splits text n := by
  obtain ⟨cs, rfl⟩ : ∃ cs, text = .ofList cs := ⟨text.toList, String.ofList_toList.symm⟩
  induction cs generalizing n with
  | nil =>
    have empty : n = 0 := by simpa using inside
    exact .inl ⟨"", "", rfl, empty.symm⟩
  | cons c cs ih =>
    rw [ofList_cons, String.utf8ByteSize_append, String.utf8ByteSize_singleton] at inside
    rw [ofList_cons]
    -- The cut stands before the first character, within it, or behind it.
    by_cases start : n = 0
    · exact .inl ⟨"", _, String.empty_append.symm, start.symm⟩
    by_cases first : n < c.utf8Size
    · refine .inr ⟨"", c, .ofList cs, by rw [String.empty_append], Nat.pos_of_ne_zero start, ?_⟩
      simpa using first
    obtain ⟨taken, rest, same, size⟩ | ⟨before, d, after, same, low, high⟩ :=
      ih (n := n - c.utf8Size) (by omega)
    · refine .inl ⟨.singleton c ++ taken, rest, by rw [same, String.append_assoc], ?_⟩
      rw [String.utf8ByteSize_append, String.utf8ByteSize_singleton]
      omega
    · have whole : String.singleton c ++ String.ofList cs =
          String.singleton c ++ before ++ String.singleton d ++ after := by
        rw [same, String.append_assoc, String.append_assoc, String.append_assoc]
      refine .inr ⟨String.singleton c ++ before, d, after, whole, ?_⟩
      rw [String.utf8ByteSize_append, String.utf8ByteSize_singleton]
      omega

theorem not_splits_append (taken rest : String) : ¬ Splits (taken ++ rest) taken.utf8ByteSize := by
  rintro ⟨before, c, after, same, low, high⟩
  have characters := congrArg String.toList same
  simp only [String.toList_append, String.toList_singleton, List.append_assoc, List.singleton_append]
    at characters
  obtain ⟨more, longer, -⟩ | ⟨more, longer, left⟩ := List.append_eq_append_iff.1 characters
  · have grown : before = taken ++ .ofList more := by
      rw [← String.toList_inj]
      simpa using longer
    rw [grown, String.utf8ByteSize_append] at low
    omega
  · have grown : taken = before ++ .ofList more := by
      rw [← String.toList_inj]
      simpa using longer
    rw [grown, String.utf8ByteSize_append] at low high
    cases more with
    | nil => simp at low
    | cons d more =>
      obtain ⟨rfl, -⟩ := List.cons_eq_cons.1 left
      rw [ofList_cons, String.utf8ByteSize_append, String.utf8ByteSize_singleton] at high
      omega

theorem Splits.lt_utf8ByteSize {text : String} {n : Nat} (splits : Splits text n) :
    n < text.utf8ByteSize := by
  obtain ⟨before, c, after, rfl, -, high⟩ := splits
  simp only [String.utf8ByteSize_append, String.utf8ByteSize_singleton]
  omega

theorem Splits.not_isValidUTF8 {text : String} {n : Nat} (splits : Splits text n) :
    ¬ (text.toUTF8.extract 0 n).IsValidUTF8 := by
  intro valid
  have position : (String.Pos.Raw.mk n).IsValid text :=
    String.Pos.Raw.isValid_iff_isValidUTF8_extract_zero.2 ⟨Nat.le_of_lt splits.lt_utf8ByteSize, valid⟩
  obtain ⟨taken, rest, rfl, same⟩ := String.Pos.Raw.isValid_iff_exists_append.1 position
  obtain rfl : n = taken.utf8ByteSize := congrArg String.Pos.Raw.byteIdx same
  exact not_splits_append taken rest splits

namespace FileState

theorem readText_cut (path taken rest : String) :
    (file ((taken ++ rest).toUTF8.extract 0 taken.utf8ByteSize)).readText path = .ok taken := by
  have cut : (taken ++ rest).toUTF8.extract 0 taken.utf8ByteSize = taken.toUTF8 := by
    rw [String.toUTF8_eq_toByteArray, String.toByteArray_append, ByteArray.extract_append_eq_left]
    · rfl
    · exact String.size_toByteArray.symm
  rw [cut, readText_toUTF8]

theorem readText_splits (path : String) {text : String} {n : Nat} (splits : Splits text n) :
    (file (text.toUTF8.extract 0 n)).readText path = .error (.unavailable path .notText) := by
  rw [readText, String.fromUTF8?, dif_neg splits.not_isValidUTF8]

end FileState

namespace Index

open Json

theorem closes_termsReader : termsReader.Closes :=
  Reader.closes_table (Reader.closes_table Reader.follows_count).follows

theorem follows_member : (member "terms" none).Follows :=
  closes_termsReader.follows.memberValue.map some

theorem reader_of_cut {terms : Value} {index : Index} (decoded : decodeTerms terms = .ok index)
    {part : List Lexeme} (cut : Cut (Value.object [("terms", terms)]).lexemes part) :
    reader part = .error .truncated := by
  have read : member "terms" none (.colon :: (terms.lexemes ++ [.closeBrace])) =
      .ok (some index, [.closeBrace]) := by
    have taken := (takes_termsReader terms).memberValue [.closeBrace]
    rw [decoded] at taken
    simp [member, taken, Except.map, bind, Except.bind, pure, Except.pure]
  simp only [Value.lexemes, Value.memberLexemes, List.append_nil] at cut
  cases cut with
  | before => rfl
  | within _ shortened => cases shortened
  | @after _ part _ cut =>
    have short (bound : List Lexeme) :
        Reader.members member bound none part = .error .truncated := by
      obtain short | ⟨lexemes, left, lexeme, bound, rfl, rfl, read, cut⟩ :=
        Reader.member_of_cut follows_member read cut bound
      · exact short
      · cases cut with
        | before => exact Reader.members_of_end read
        | within _ shortened => cases shortened
        | after _ cut => cases cut
    show (Reader.object member none (.openBrace :: part) >>= _) = _
    rw [Reader.object_of_cut none cut, short]
    rfl

theorem parse_of_cut {rows : List (String × List (String × Number))} {index : Index}
    {taken rest : String} (whole : parse (rowsText rows) = .ok index)
    (written : rowsText rows = taken ++ rest) (proper : rest ≠ "") :
    parse taken = .error .truncated := by
  rw [parse_rowsText] at whole
  have characters : (rowsToJson rows).write (some 0) = taken.toList ++ rest.toList := by
    rw [← String.toList_append, ← written, rowsText, Value.pretty, String.toList_ofList]
  have cut := cut_of_object characters (by simpa using proper)
  rw [parse, Json.read, reader_of_cut whole cut]
  rfl

def Refuses (path : String) (state : FileState) (error : StoreError) : Prop :=
  load path state = .error error ∧
    ∀ index, (Source.ofFile path (load path state)).connect index = (.error error, index)

theorem refuses_of_load {path : String} {state : FileState} {error : StoreError}
    (failed : load path state = .error error) : Refuses path state error :=
  ⟨failed, fun index => by rw [failed]; rfl⟩

theorem refuses_split (path : String) {text : String} {n : Nat} (splits : Splits text n) :
    Refuses path (.file (text.toUTF8.extract 0 n)) (.unavailable path .notText) := by
  apply refuses_of_load
  rw [load, FileState.readText_splits path splits]
  rfl

theorem refuses_cut (path : String) {rows : List (String × List (String × Relevance))}
    {taken rest : String} (written : textOf rows = taken ++ rest) (proper : rest ≠ "") :
    Refuses path (.file ((textOf rows).toUTF8.extract 0 taken.utf8ByteSize))
      (.malformed path .truncated) := by
  apply refuses_of_load
  have text := FileState.readText_cut path taken rest
  rw [← written] at text
  rw [load, text]
  show (parse taken).mapError _ = _
  rw [parse_of_cut (parse_textOf rows) written proper]
  rfl

/-- A file that holds only the first bytes of a saved index is refused: where a character is split it
is no text, and everywhere else the index ends too early. -/
theorem refuses_saved_part {index : Index} {path : String} {folder saved : Folder}
    (saves : index.Saves path folder saved) :
    ∃ text : String, saved.read path = .file text.toUTF8 ∧
      ∀ n < text.toUTF8.size, ∀ place,
        let part := FileState.file (text.toUTF8.extract 0 n)
        (Splits text n → Refuses place part (.unavailable place .notText)) ∧
        (¬ Splits text n → Refuses place part (.malformed place .truncated)) := by
  obtain ⟨rows, perm, written⟩ := saves
  refine ⟨textOf rows, Folder.read_of_write written, ?_⟩
  intro n short place part
  refine ⟨fun splits => refuses_split place splits, ?_⟩
  intro whole
  rw [String.toUTF8_eq_toByteArray, String.size_toByteArray] at short
  obtain ⟨taken, rest, same, rfl⟩ :=
    (eq_append_or_splits _ (Nat.le_of_lt short)).resolve_right whole
  refine refuses_cut place same ?_
  rintro rfl
  rw [same, String.append_empty] at short
  omega

/-- The cuts here go through the two bytes of a letter, and between the two digits of a count. -/
theorem refuses_saved_part_midway :
    let rows : List (String × List (String × Relevance)) := [("é", [("d", 12)])]
    let text := textOf rows
    let saved : Folder := { entries := [(["index.json"], .file text.toUTF8)] }
    (ofRows rows).Saves "index.json" {} saved ∧
      Splits text 21 ∧
      Refuses "new.json" (.file (text.toUTF8.extract 0 21)) (.unavailable "new.json" .notText) ∧
      ¬ Splits text 39 ∧
      Refuses "new.json" (.file (text.toUTF8.extract 0 39)) (.malformed "new.json" .truncated) := by
  intro rows text saved
  have saves : (ofRows rows).Saves "index.json" {} saved :=
    ⟨rows, by decide,
      Folder.write_eq_ok_iff.2 ⟨["index.json"], by decide, by decide, by decide, rfl, rfl⟩⟩
  have splits : Splits text 21 :=
    ⟨"\x7b\n  \"terms\": \x7b\n    \"", 'é', "\": \x7b\n      \"d\": 12\n    \x7d\n  \x7d\n\x7d",
      by decide +kernel, by decide +kernel, by decide +kernel⟩
  have between : ¬ Splits text 39 := by
    have apart : text = "\x7b\n  \"terms\": \x7b\n    \"é\": \x7b\n      \"d\": 1" ++
        "2\n    \x7d\n  \x7d\n\x7d" := by decide +kernel
    rw [apart]
    exact not_splits_append "\x7b\n  \"terms\": \x7b\n    \"é\": \x7b\n      \"d\": 1" _
  obtain ⟨written, read, refused⟩ := refuses_saved_part saves
  have bytes : text.toUTF8 = written.toUTF8 := FileState.file.inj read
  rw [← bytes] at refused
  obtain rfl : text = written := String.toByteArray_inj.1 bytes
  have half := refused 21 (by decide +kernel) "new.json"
  have digit := refused 39 (by decide +kernel) "new.json"
  exact ⟨saves, splits, half.1 splits, between, digit.2 between⟩

end Index

end TermSearch
