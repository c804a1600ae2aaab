import TermSearch.Json.Reader
import TermSearch.Json.Value.Lexemes

/-!
A typed reader takes exactly the lexemes of a written value and leaves whatever stands after them.
-/

namespace TermSearch.Json

theorem Number.natural?_numeral_ofNat (n : Nat) : (Number.ofNat n).numeral.natural? = some n := by
  simp [Number.ofNat, Number.numeral, Numeral.natural?]

theorem Number.natural?_of_minus {n : Number} (minus : '-' ∈ n.text) :
    n.numeral.natural? = none := by
  unfold Numeral.natural?
  split
  · rfl
  · next plain =>
    -- Without sign, fraction and power there are only decimal digits.
    simp only [Number.numeral, not_or, Bool.not_eq_true] at plain
    obtain ⟨unsigned, undivided, unscaled⟩ := plain
    have whole : n.fraction = [] := by simpa using undivided
    have single : n.power = none := by simpa using unscaled
    simp [Number.text, unsigned, whole, single, not_mem_toDigits] at minus

theorem Number.count_numeral_ofNat {n : Nat} (bounded : n ≤ Relevance.limit) :
    (Number.ofNat n).numeral.count = .ok (.ofNat n) := by
  rw [Numeral.count, natural?_numeral_ofNat]
  exact if_pos bounded

namespace Value

def fault : Value → Fault
  | .number n => n.numeral.fault
  | _ => .mismatch

def count : Value → Except Fault Relevance
  | .number n => n.numeral.count
  | other => .error other.fault

def text : Value → Except Fault String
  | .string s => .ok s
  | other => .error other.fault

/-- The values of members decoded in order, or the first fault. -/
def decodeMembers {α : Type} (decode : Value → Except Fault α) (members : List (String × Value)) :
    Except Fault (List (String × α)) :=
  members.mapM fun member => return (member.1, ← decode member.2)

def table {α : Type} (decode : Value → Except Fault α) : Value → Except Fault (Table α)
  | .object members => (decodeMembers decode members).map .ofList
  | other => .error other.fault

theorem decodeMembers_cons {α : Type} (decode : Value → Except Fault α) (member : String × Value)
    (rest : List (String × Value)) :
    decodeMembers decode (member :: rest) = (do
      let value ← decode member.2
      let values ← decodeMembers decode rest
      return (member.1, value) :: values) := by
  simp [decodeMembers]

theorem member_of_decodeMembers {α : Type} {decode : Value → Except Fault α}
    {members : List (String × Value)} {decoded : List (String × α)}
    (succeeded : decodeMembers decode members = .ok decoded) :
    ∀ m ∈ members, ∃ a, decode m.2 = .ok a := by
  induction members generalizing decoded with
  | nil => simp
  | cons first rest ih =>
    rw [decodeMembers_cons] at succeeded
    obtain ⟨a, head, succeeded⟩ := bind_eq_ok succeeded
    obtain ⟨more, tail, -⟩ := bind_eq_ok succeeded
    intro m mem
    rcases List.mem_cons.mp mem with rfl | mem
    · exact ⟨a, head⟩
    · exact ih tail m mem

theorem member_of_table {α : Type} {decode : Value → Except Fault α} {members : List (String × Value)}
    {result : Table α} (succeeded : table decode (.object members) = .ok result) :
    ∀ m ∈ members, ∃ a, decode m.2 = .ok a := by
  obtain ⟨decoded, all, -⟩ := map_eq_ok succeeded
  exact member_of_decodeMembers all

theorem decodeMembers_map {α β : Type} {decode : Value → Except Fault α} {encode : β → Value}
    {result : β → α} (decoded : ∀ b, decode (encode b) = .ok (result b))
    (pairs : List (String × β)) :
    decodeMembers decode (pairs.map fun pair => (pair.1, encode pair.2)) =
      .ok (pairs.map fun pair => (pair.1, result pair.2)) := by
  induction pairs with
  | nil => rfl
  | cons pair rest ih =>
    rw [List.map_cons, decodeMembers_cons, ih, decoded]
    rfl

end Value

namespace Reader

variable {α σ : Type}

/-- Takes the lexemes of `value` off any list, with the given result. -/
def Takes (reader : Reader α) (value : Value) (result : Except Fault α) : Prop :=
  ∀ rest, reader (value.lexemes ++ rest) = result.map (·, rest)

theorem takes_count (value : Value) : count.Takes value value.count := by
  intro rest
  cases value with
  | number n =>
    show (do return (← n.numeral.count, rest)) = _
    rw [Value.count]
    cases n.numeral.count <;> rfl
  | array items => cases items <;> rfl
  | object members => cases members <;> rfl
  | null | bool | string => rfl

theorem takes_string (value : Value) : string.Takes value value.text := by
  intro rest
  cases value with
  | array items => cases items <;> rfl
  | object members => cases members <;> rfl
  | null | bool | number | string => rfl

theorem Takes.memberValue {reader : Reader α} {value : Value} {result : Except Fault α}
    (takes : reader.Takes value result) (rest : List Lexeme) :
    memberValue reader (.colon :: (value.lexemes ++ rest)) = result.map (·, rest) := takes rest

theorem length_le_memberLexemes (members : List (String × Value)) :
    members.length ≤ (Value.memberLexemes members).length := by
  induction members with
  | nil => exact Nat.zero_le _
  | cons member rest ih =>
    simp only [Value.memberLexemes, List.length_cons, List.length_append]
    omega

section

variable {member : String → σ → Reader σ} {update : σ → String × Value → Except Fault σ}

section

variable {key : String} {skipped : Except Fault Unit} {lexeme : Lexeme} {bound rest after : List Lexeme}
  {state next : σ}

theorem members_of_error {fault : Fault} (failed : member key state rest = .error fault) :
    members member (lexeme :: bound) state (.string (.ok key) skipped :: rest) = .error fault := by
  rw [members]
  simp [bind, Except.bind, failed]

theorem members_of_comma (read : member key state rest = .ok (next, .comma :: after)) :
    members member (lexeme :: bound) state (.string (.ok key) skipped :: rest) =
      members member bound next after := by
  rw [members]
  simp [bind, Except.bind, read]

theorem members_of_closeBrace (read : member key state rest = .ok (next, .closeBrace :: after)) :
    members member (lexeme :: bound) state (.string (.ok key) skipped :: rest) =
      .ok (next, after) := by
  rw [members]
  simp [bind, Except.bind, read]

end

theorem members_eq (first : String × Value) (more : List (String × Value))
    (each : ∀ m ∈ first :: more, ∀ state rest,
      member m.1 state (.colon :: (m.2.lexemes ++ rest)) = (update state m).map (·, rest))
    (bound : List Lexeme) (room : more.length < bound.length) (state : σ) (rest : List Lexeme) :
    members member bound state
        (.string (.ok first.1) (.ok ()) :: .colon ::
          (first.2.lexemes ++ (Value.memberLexemes more ++ .closeBrace :: rest))) =
      ((first :: more).foldlM update state).map (·, rest) := by
  -- Every member takes one lexeme off the bound, so the bound outlasts them.
  induction more generalizing first bound state with
  | nil =>
    obtain ⟨_, bound, rfl⟩ := List.exists_cons_of_length_pos room
    have read := each first (by simp) state (.closeBrace :: rest)
    rw [List.foldlM_cons]
    cases result : update state first with
    | error fault =>
      rw [result] at read
      exact members_of_error read
    | ok next =>
      rw [result] at read
      exact members_of_closeBrace read
  | cons second more ih =>
    obtain ⟨_, bound, rfl⟩ := List.exists_cons_of_length_pos (Nat.zero_lt_of_lt room)
    have read := each first (by simp) state
      (Value.memberLexemes (second :: more) ++ .closeBrace :: rest)
    rw [List.foldlM_cons]
    cases result : update state first with
    | error fault =>
      rw [result] at read
      exact members_of_error read
    | ok next =>
      rw [result] at read
      have further := ih second (fun m mem => each m (List.mem_cons_of_mem _ mem)) bound
        (by simpa using room) next
      simp only [Value.memberLexemes, List.cons_append, List.append_assoc] at read ⊢
      exact (members_of_comma read).trans further

theorem takes_object {ms : List (String × Value)} (start : σ)
    (each : ∀ m ∈ ms, ∀ state rest,
      member m.1 state (.colon :: (m.2.lexemes ++ rest)) = (update state m).map (·, rest)) :
    (object member start).Takes (.object ms) (ms.foldlM update start) := by
  intro rest
  cases ms with
  | nil => rfl
  | cons first more =>
    have room := length_le_memberLexemes more
    have read := members_eq first more each
      (.string (.ok first.1) (.ok ()) :: .colon ::
          (first.2.lexemes ++ (Value.memberLexemes more ++ .closeBrace :: rest)))
      (by simp only [List.length_cons, List.length_append]; omega) start rest
    simpa [Value.lexemes, object] using read

end

theorem foldlM_insert (decode : Value → Except Fault α) (ms : List (String × Value))
    (table : Table α) :
    ms.foldlM (fun table m => return table.insert m.1 (← decode m.2)) table =
      (Value.decodeMembers decode ms).map (List.foldl (fun table m => table.insert m.1 m.2) table) := by
  induction ms generalizing table with
  | nil => rfl
  | cons m rest ih =>
    rw [List.foldlM_cons, Value.decodeMembers_cons]
    cases decode m.2 with
    | error fault => rfl
    | ok value =>
      refine (ih (table.insert m.1 value)).trans ?_
      show _ = Except.map _ (Value.decodeMembers decode rest >>= _)
      cases Value.decodeMembers decode rest <;> rfl

theorem takes_table {reader : Reader α} {decode : Value → Except Fault α}
    (takes : ∀ value, reader.Takes value (decode value)) (value : Value) :
    (table reader).Takes value (value.table decode) := by
  cases value with
  | object members =>
    show Takes _ _ ((Value.decodeMembers decode members).map (List.foldl _ (∅ : Table α)))
    rw [← foldlM_insert]
    refine takes_object ∅ fun m _ table rest => ?_
    rw [(takes m.2).memberValue]
    cases decode m.2 <;> rfl
  | array items => intro rest; cases items <;> rfl
  | null | bool | number | string => intro rest; rfl

section

variable {β : Type} {item : Reader α} {value : Value} {result : Except Fault α}

theorem Takes.firstItem? (takes : item.Takes value result) (rest : List Lexeme) :
    firstItem? item (value.lexemes ++ rest) = result.map fun v => (some v, rest) := by
  have taken := takes rest
  obtain ⟨first, more, lexed, opens⟩ := value.lexemes_eq_cons
  rw [lexed, List.cons_append] at taken ⊢
  have read : Reader.firstItem? item (first :: (more ++ rest)) =
      item (first :: (more ++ rest)) >>= fun read => pure (some read.1, read.2) := by
    cases first with
    | closeBracket => exact absurd rfl opens
    | _ => rfl
  rw [read, taken]
  cases result <;> rfl

theorem nextItem?_comma {first : Lexeme} (opens : first ≠ .closeBracket) (more : List Lexeme) :
    nextItem? item (.comma :: first :: more) = firstItem? item (first :: more) := by
  cases first with
  | closeBracket => exact absurd rfl opens
  | _ => rfl

theorem Takes.nextItem? (takes : item.Takes value result) (rest : List Lexeme) :
    nextItem? item (.comma :: (value.lexemes ++ rest)) = result.map fun v => (some v, rest) := by
  rw [← takes.firstItem? rest]
  obtain ⟨first, more, lexed, opens⟩ := value.lexemes_eq_cons
  rw [lexed, List.cons_append]
  exact nextItem?_comma opens (more ++ rest)

variable {encode : β → Value} {decode : β → Except Fault α}

theorem moreItems_eq (takes : ∀ b, item.Takes (encode b) (decode b)) (bs : List β)
    (bound : List Lexeme) (room : bs.length < bound.length) (rest : List Lexeme) :
    moreItems item bound (Value.itemLexemes (bs.map encode) ++ .closeBracket :: rest) =
      (bs.mapM decode).map (·, rest) := by
  induction bs generalizing bound with
  | nil =>
    obtain ⟨_, bound, rfl⟩ := List.exists_cons_of_length_pos room
    rfl
  | cons b bs ih =>
    obtain ⟨_, bound, rfl⟩ := List.exists_cons_of_length_pos (Nat.zero_lt_of_lt room)
    have next := (takes b).nextItem? (Value.itemLexemes (bs.map encode) ++ .closeBracket :: rest)
    have further := ih bound (by simpa using room)
    rw [List.mapM_cons, List.map_cons, Value.itemLexemes, List.cons_append, List.append_assoc,
      moreItems, next]
    cases decode b with
    | error fault => rfl
    | ok value =>
      show moreItems item bound _ >>= _ = _
      rw [further]
      cases bs.mapM decode <;> rfl

theorem length_le_itemLexemes (items : List Value) :
    items.length ≤ (Value.itemLexemes items).length := by
  induction items with
  | nil => exact Nat.zero_le _
  | cons item rest ih =>
    simp only [Value.itemLexemes, List.length_cons, List.length_append]
    omega

theorem takes_list (takes : ∀ b, item.Takes (encode b) (decode b)) (bs : List β) :
    (list item).Takes (.array (bs.map encode)) (bs.mapM decode) := by
  intro rest
  cases bs with
  | nil => rfl
  | cons b bs =>
    let after := Value.itemLexemes (bs.map encode) ++ .closeBracket :: rest
    have first := (takes b).firstItem? after
    have room : bs.length < after.length := by
      have items := length_le_itemLexemes (bs.map encode)
      simp only [after, List.length_append, List.length_cons, List.length_map] at items ⊢
      omega
    have further := moreItems_eq takes bs after room rest
    have lexed : (Value.array ((b :: bs).map encode)).lexemes ++ rest =
        .openBracket :: ((encode b).lexemes ++ after) := by
      simp [Value.lexemes, after]
    rw [List.mapM_cons, lexed, list, first]
    cases decode b with
    | error fault => rfl
    | ok value =>
      show moreItems item after after >>= _ = _
      rw [further]
      cases bs.mapM decode <;> rfl

end

theorem Takes.read {reader : Reader α} {value : Value} {result : Except Fault α}
    (takes : reader.Takes value result) {text : String} (spelled : value.SpelledBy text) :
    Json.read reader text = result := by
  have taken := takes []
  rw [List.append_nil] at taken
  rw [Json.read, spelled, taken]
  cases result <;> rfl

end Reader

namespace Skipping

/-- Goes on behind a value that stands within these brackets. -/
def resume (around : List Bracket) (rest : List Lexeme) : Except Fault (List Lexeme) :=
  if around.isEmpty then .ok rest else run ⟨.next, around⟩ rest

section

variable (around : List Bracket) (key : String) (rest : List Lexeme)

theorem run_openBracket :
    run ⟨.value, around⟩ (.openBracket :: rest) = run ⟨.first, .array :: around⟩ rest := rfl

theorem run_openBrace :
    run ⟨.value, around⟩ (.openBrace :: .string (.ok key) (.ok ()) :: .colon :: rest) =
      run ⟨.value, .object :: around⟩ rest := rfl

theorem resume_item :
    resume (.array :: around) (.comma :: rest) = run ⟨.value, .array :: around⟩ rest := rfl

theorem resume_member :
    resume (.object :: around) (.comma :: .string (.ok key) (.ok ()) :: .colon :: rest) =
      run ⟨.value, .object :: around⟩ rest := rfl

theorem resume_closeBracket :
    resume (.array :: around) (.closeBracket :: rest) = resume around rest := rfl

theorem resume_closeBrace :
    resume (.object :: around) (.closeBrace :: rest) = resume around rest := rfl

theorem run_first_item (item : Value) :
    run ⟨.first, .array :: around⟩ (item.lexemes ++ rest) =
      run ⟨.value, .array :: around⟩ (item.lexemes ++ rest) := by
  obtain ⟨lexeme, more, lexed, opens⟩ := item.lexemes_eq_cons
  rw [lexed, List.cons_append]
  cases lexeme with
  | closeBracket => exact absurd rfl opens
  | _ => rfl

end

mutual

theorem run_value (around : List Bracket) (rest : List Lexeme) : (value : Value) →
    run ⟨.value, around⟩ (value.lexemes ++ rest) = resume around rest
  | .null | .bool _ | .number _ | .string _ | .array [] | .object [] => rfl
  | .array (item :: items) => by
    simp only [Value.lexemes, List.cons_append, List.append_assoc, List.nil_append]
    rw [run_openBracket, run_first_item, run_value _ _ item, run_items _ _ items]
  | .object ((key, value) :: members) => by
    simp only [Value.lexemes, List.cons_append, List.append_assoc, List.nil_append]
    rw [run_openBrace, run_value _ _ value, run_members _ _ members]

theorem run_items (around : List Bracket) (rest : List Lexeme) : (items : List Value) →
    resume (.array :: around) (Value.itemLexemes items ++ .closeBracket :: rest) =
      resume around rest
  | [] => resume_closeBracket around rest
  | item :: items => by
    simp only [Value.itemLexemes, List.cons_append, List.append_assoc]
    rw [resume_item, run_value _ _ item, run_items _ _ items]

theorem run_members (around : List Bracket) (rest : List Lexeme) :
    (members : List (String × Value)) →
    resume (.object :: around) (Value.memberLexemes members ++ .closeBrace :: rest) =
      resume around rest
  | [] => resume_closeBrace around rest
  | (key, value) :: members => by
    simp only [Value.memberLexemes, List.cons_append, List.append_assoc]
    rw [resume_member, run_value _ _ value, run_members _ _ members]

end

end Skipping

theorem Reader.takes_skip (value : Value) : skip.Takes value (.ok ()) := by
  intro rest
  rw [skip, Skipping.run_value]
  rfl

end TermSearch.Json
