import TermSearch.ResultSet.Output

/-!
An index file is a JSON object whose member `terms` maps every term to an object of documents and
counts. Other members are passed over, and a file without `terms` is an empty index.
-/

namespace TermSearch

abbrev Index := Table ResultSet

namespace Index

def counts (index : Index) (term : String) : ResultSet := (index.find? term).getD ∅

/-- Adds to the stored count, held at the limit. Term and document are created if need be, also by
a count of zero. -/
def add (index : Index) (term document : String) (count : Relevance) : Index :=
  let found := index.counts term
  index.insert term (found.insert document ((found.relevance document).plus count))

def insertTerm (index : Index) (term : String) (counts : ResultSet) : Index :=
  index.insert term counts

def ofRows (rows : List (String × List (String × Relevance))) : Index :=
  .ofList (rows.map fun row => (row.1, .ofList row.2))

def rows (index : Index) : List (String × List (String × Relevance)) :=
  index.entries.map fun entry => (entry.1, entry.2.entries)

theorem ext_counts {a b : Index} (present : ∀ term, a.contains term = b.contains term)
    (same : ∀ term, a.counts term = b.counts term) : a = b := by
  refine Table.ext_find? fun term => ?_
  have listed := present term
  have counts := same term
  unfold Table.contains at listed
  unfold Index.counts at counts
  cases here : a.find? term <;> cases there : b.find? term <;>
    simp [here, there] at listed counts ⊢
  exact counts

theorem counts_insertTerm (index : Index) (term other : String) (new : ResultSet) :
    (index.insertTerm term new).counts other = if other = term then new else index.counts other := by
  rw [counts, insertTerm, Table.find?_insert]
  split <;> rfl

theorem counts_add (index : Index) (term other document : String) (count : Relevance) :
    (index.add term document count).counts other =
      if other = term then
        (index.counts term).insert document (((index.counts term).relevance document).plus count)
      else index.counts other := by
  rw [counts, add, Table.find?_insert]
  split <;> rfl

theorem ofRows_of_perm {rows : List (String × List (String × Relevance))} {index : Index}
    (perm : rows.Perm index.rows) : ofRows rows = index := by
  refine Table.ofList_of_perm ((perm.map _).trans (.of_eq ?_))
  simp [Index.rows, Function.comp_def]

@[simp] theorem find?_ofRows (rows : List (String × List (String × Relevance))) (term : String) :
    (ofRows rows).find? term = (rows.reverse.lookup term).map .ofList := by
  rw [ofRows, Table.find?_ofList, ← List.map_reverse]
  exact Table.lookup_map (fun _ => Table.ofList) rows.reverse term

end Index

inductive FileState where
  | missing
  | directory
  | file (bytes : ByteArray)

def FileState.readText (path : String) : FileState → Except StoreError String
  | .missing => .error (.unavailable path .notFound)
  | .directory => .error (.unavailable path .isDirectory)
  | .file bytes =>
    match String.fromUTF8? bytes with
    | some text => .ok text
    | none => .error (.unavailable path .notText)

theorem FileState.readText_toUTF8 (path text : String) :
    (FileState.file text.toUTF8).readText path = .ok text := by
  simp only [readText, String.fromUTF8?, String.toUTF8_eq_toByteArray, dif_pos text.isValidUTF8]
  rfl

theorem FileState.readText_eq_ok_iff {state : FileState} {path text : String} :
    state.readText path = .ok text ↔ state = .file text.toUTF8 := by
  constructor
  · intro read
    cases state with
    | missing => cases read
    | directory => cases read
    | file bytes =>
      simp only [readText, String.fromUTF8?] at read
      split at read
      · next decoded found =>
        split at found
        · cases found
          cases read
          rfl
        · cases found
      · cases read
  · rintro rfl
    exact readText_toUTF8 path text

namespace Index

def termsReader : Json.Reader Index := Json.Reader.table ResultSet.reader

open Json.Reader in
def member (key : String) (found : Option Index) : Json.Reader (Option Index) := fun lexemes =>
  if key = "terms" then do
    if found.isSome then throw .mismatch
    let (index, rest) ← memberValue termsReader lexemes
    return (some index, rest)
  else do
    let (_, rest) ← memberValue skip lexemes
    return (found, rest)

/-- An index is also read from an array that holds its terms only, or nothing. -/
def reader : Json.Reader Index
  | .openBracket :: lexemes => do
    let (index, rest) ← Json.Reader.firstItem? termsReader lexemes
    let (_, rest) ← Json.Reader.endArray rest
    return (index.getD ∅, rest)
  | lexemes => do
    let (index, rest) ← Json.Reader.object member none lexemes
    return (index.getD ∅, rest)

def parse (text : String) : Except Json.Fault Index := Json.read reader text

def load (path : String) (state : FileState) : Except StoreError Index := do
  let text ← state.readText path
  (parse text).mapError (.malformed path)

theorem load_toUTF8 (path text : String) :
    load path (.file text.toUTF8) = (parse text).mapError (.malformed path) := by
  rw [load, FileState.readText_toUTF8]
  rfl

def HeldBy (index : Index) (state : FileState) : Prop :=
  ∃ text, state = .file text.toUTF8 ∧ parse text = .ok index

theorem load_eq_ok_iff {path : String} {state : FileState} {index : Index} :
    load path state = .ok index ↔ index.HeldBy state := by
  constructor
  · intro loaded
    obtain ⟨text, read, parsed⟩ := bind_eq_ok loaded
    refine ⟨text, FileState.readText_eq_ok_iff.mp read, ?_⟩
    cases result : parse text with
    | error fault =>
      rw [result] at parsed
      cases parsed
    | ok found =>
      rw [result] at parsed
      cases parsed
      rfl
  · rintro ⟨text, rfl, parsed⟩
    rw [load_toUTF8, parsed]
    rfl

def rowsToJson (rows : List (String × List (String × Json.Number))) : Json.Value :=
  .object [("terms", .object (rows.map fun row => (row.1, ResultSet.pairsToJson row.2)))]

def rowsText (rows : List (String × List (String × Json.Number))) : String :=
  (rowsToJson rows).pretty

def toText (index : Index) : String :=
  rowsText (index.entries.map fun entry => (entry.1, entry.2.numbers))

end Index

end TermSearch
