import TermSearch.Json.Reader.Written
import TermSearch.Index

/-!
The text of an index file reads as the table of its rows: the last row of a term and, within it, the
last count of a document.
-/

namespace TermSearch

open Json

namespace ResultSet

theorem count_ofNat_toNat (count : Relevance) :
    Value.count (.number (.ofNat count.toNat)) = .ok count := by
  rw [Value.count, Number.count_numeral_ofNat count.toNat_le_limit, UInt32.ofNat_toNat]

theorem table_pairsToJson (pairs : List (String × Relevance)) :
    Value.table Value.count (pairsToJson (pairs.map fun pair => (pair.1, .ofNat pair.2.toNat))) =
      .ok (.ofList pairs) := by
  have decoded := Value.decodeMembers_map count_ofNat_toNat pairs
  simp only [pairsToJson, Value.table, List.map_map, Function.comp_def, decoded]
  simp [Except.map]

theorem takes_reader (set : ResultSet) : reader.Takes set.toJson (.ok set) := by
  have taken := Reader.takes_table Reader.takes_count set.toJson
  rw [toJson, numbers, table_pairsToJson, Table.ofList_entries] at taken
  exact taken

end ResultSet

namespace RankedEntry

def Partial.update (found : Partial) (member : String × Value) : Except Fault Partial :=
  if member.1 = "document" then
    if found.document.isSome then .error .mismatch
    else member.2.text.map fun document => { found with document := some document }
  else if member.1 = "relevance" then
    if found.relevance.isSome then .error .mismatch
    else member.2.count.map fun relevance => { found with relevance := some relevance }
  else .ok found

theorem Partial.member_document (found : Partial) (value : Value) (rest : List Lexeme) :
    member "document" found (.colon :: (value.lexemes ++ rest)) =
      (found.update ("document", value)).map (·, rest) := by
  have taken := (Reader.takes_string value).memberValue rest
  rw [member, update, if_pos rfl, if_pos rfl, taken]
  cases found.document with
  | some document => rfl
  | none => cases value.text <;> rfl

theorem Partial.member_relevance (found : Partial) (value : Value) (rest : List Lexeme) :
    member "relevance" found (.colon :: (value.lexemes ++ rest)) =
      (found.update ("relevance", value)).map (·, rest) := by
  have taken := (Reader.takes_count value).memberValue rest
  have other : "relevance" ≠ "document" := by decide
  rw [member, update, if_neg other, if_neg other, if_pos rfl, if_pos rfl, taken]
  cases found.relevance with
  | some relevance => rfl
  | none => cases value.count <;> rfl

theorem takes_reader (entry : RankedEntry) : reader.Takes entry.toJson (.ok entry) := by
  have each : ∀ m ∈ [("document", Value.string entry.document),
      ("relevance", .ofNat entry.relevance.toNat)], ∀ (found : Partial) (rest : List Lexeme),
      found.member m.1 (.colon :: (m.2.lexemes ++ rest)) = (found.update m).map (·, rest) := by
    intro m mem found rest
    simp only [List.mem_cons, List.not_mem_nil, or_false] at mem
    rcases mem with rfl | rfl
    · exact found.member_document _ rest
    · exact found.member_relevance _ rest
  intro rest
  have read := Reader.takes_object {} each rest
  have counted : Value.count (.ofNat entry.relevance.toNat) = .ok entry.relevance :=
    ResultSet.count_ofNat_toNat entry.relevance
  show (Reader.object Partial.member {} (entry.toJson.lexemes ++ rest) >>=
    fun read => read.1.complete >>= fun entry => pure (entry, read.2)) = _
  rw [toJson, read]
  simp [List.foldlM_cons, Partial.update, Value.text, counted]
  rfl

theorem takes_listReader (entries : List RankedEntry) :
    listReader.Takes (listToJson entries) (.ok entries) := by
  have taken := Reader.takes_list takes_reader entries
  have each : entries.mapM (m := Except Fault) (fun entry => pure (id entry)) = pure entries := by
    rw [List.mapM_pure, List.map_id]
  have whole : entries.mapM Except.ok = (Except.ok entries : Except Fault _) := each
  rw [whole] at taken
  exact taken

end RankedEntry

namespace Index

def decodeTerms : Value → Except Fault Index := Value.table (Value.table Value.count)

theorem takes_termsReader (terms : Value) : termsReader.Takes terms (decodeTerms terms) :=
  Reader.takes_table (Reader.takes_table Reader.takes_count) terms

/-- What a member brings to the terms found before it. Members of other names are passed over. -/
def update (found : Option Index) (m : String × Value) : Except Fault (Option Index) :=
  if m.1 = "terms" then
    if found.isSome then .error .mismatch else (decodeTerms m.2).map some
  else .ok found

theorem member_eq (m : String × Value) (found : Option Index) (rest : List Lexeme) :
    member m.1 found (.colon :: (m.2.lexemes ++ rest)) = (update found m).map (·, rest) := by
  unfold member update
  split
  · rw [(takes_termsReader m.2).memberValue rest]
    cases found with
    | some index => rfl
    | none => cases decodeTerms m.2 <;> rfl
  · rw [(Reader.takes_skip m.2).memberValue rest]
    rfl

def decode (members : List (String × Value)) : Except Fault Index :=
  (members.foldlM update none).map (·.getD ∅)

theorem takes_reader (members : List (String × Value)) :
    reader.Takes (.object members) (decode members) := by
  intro rest
  have read := Reader.takes_object none (fun m (_ : m ∈ members) => member_eq m) rest
  have opened : reader ((Value.object members).lexemes ++ rest) =
      Reader.object member none ((Value.object members).lexemes ++ rest) >>=
        fun read => pure (read.1.getD ∅, read.2) := by
    cases members <;> rfl
  rw [opened, read, decode]
  cases members.foldlM update none <;> rfl

theorem foldlM_update_of_unknown {members : List (String × Value)}
    (unknown : ∀ m ∈ members, m.1 ≠ "terms") (found : Option Index) :
    members.foldlM update found = .ok found := by
  induction members with
  | nil => rfl
  | cons m rest ih =>
    have passed : update found m = .ok found := if_neg (unknown m List.mem_cons_self)
    rw [List.foldlM_cons, passed]
    exact ih fun m mem => unknown m (List.mem_cons_of_mem _ mem)

theorem decode_of_unknown {members : List (String × Value)}
    (unknown : ∀ m ∈ members, m.1 ≠ "terms") : decode members = .ok ∅ := by
  rw [decode, foldlM_update_of_unknown unknown]
  rfl

theorem decode_terms {before after : List (String × Value)}
    (earlier : ∀ m ∈ before, m.1 ≠ "terms") (later : ∀ m ∈ after, m.1 ≠ "terms") (terms : Value) :
    decode (before ++ ("terms", terms) :: after) = decodeTerms terms := by
  have found : update none ("terms", terms) = (decodeTerms terms).map some := rfl
  rw [decode, List.foldlM_append, foldlM_update_of_unknown earlier]
  show Except.map _ (List.foldlM update none (("terms", terms) :: after)) = _
  rw [List.foldlM_cons, found]
  cases decodeTerms terms with
  | error fault => rfl
  | ok index =>
    show Except.map _ (after.foldlM update (some index)) = _
    rw [foldlM_update_of_unknown later]
    rfl

theorem decode_only_terms (terms : Value) : decode [("terms", terms)] = decodeTerms terms :=
  have none : ∀ m ∈ ([] : List (String × Value)), m.1 ≠ "terms" := nofun
  decode_terms none none terms

theorem parse_of_spelled {members : List (String × Value)} {text : String}
    (spelled : (Value.object members).SpelledBy text) : parse text = decode members :=
  (takes_reader members).read spelled

def termsToJson (rows : List (String × List (String × Number))) : Value :=
  .object (rows.map fun row => (row.1, ResultSet.pairsToJson row.2))

theorem parse_rowsText (rows : List (String × List (String × Number))) :
    parse (rowsText rows) = decodeTerms (termsToJson rows) := by
  have spelled : (Value.object [("terms", termsToJson rows)]).SpelledBy (rowsText rows) :=
    Value.spelledBy_write _ (some 0)
  rw [parse_of_spelled spelled, decode_only_terms]

def mapCounts {α β : Type} (f : α → β) (rows : List (String × List (String × α))) :
    List (String × List (String × β)) :=
  rows.map fun row => (row.1, row.2.map fun pair => (pair.1, f pair.2))

def written : List (String × List (String × Relevance)) → List (String × List (String × Number)) :=
  mapCounts fun count => .ofNat count.toNat

def textOf (rows : List (String × List (String × Relevance))) : String :=
  rowsText (rows.map fun row => (row.1, row.2.map fun pair => (pair.1, .ofNat pair.2.toNat)))

theorem toText_eq_textOf (index : Index) : index.toText = textOf index.rows := by
  simp [toText, textOf, rows, ResultSet.numbers, Function.comp_def]

theorem decodeTerms_written (rows : List (String × List (String × Relevance))) :
    decodeTerms (termsToJson (written rows)) = .ok (ofRows rows) := by
  have decoded := Value.decodeMembers_map ResultSet.table_pairsToJson rows
  simp only [decodeTerms, termsToJson, written, mapCounts, Value.table, List.map_map,
    Function.comp_def, decoded]
  rfl

theorem parse_textOf (rows : List (String × List (String × Relevance))) :
    parse (textOf rows) = .ok (ofRows rows) :=
  (parse_rowsText _).trans (decodeTerms_written rows)

theorem load_textOf (rows : List (String × List (String × Relevance))) (path : String) :
    load path (.file (textOf rows).toUTF8) = .ok (ofRows rows) := by
  rw [load_toUTF8, parse_textOf]
  rfl

end Index

end TermSearch
