import TermSearch.Probe
import TermSearch.Proofs.Query.OneDocument
import TermSearch.Proofs.ResultSet.Construction
import TermSearch.Proofs.Plan.Reading

/-! Both probes hold on every input. -/

namespace TermSearch

theorem trailingBytes_succ (n code : Nat) :
    trailingBytes (n + 1) code = .ofNat (code / 64 ^ n % 64 + 0x80) :: trailingBytes n code := by
  induction n generalizing code with
  | zero => simp [trailingBytes]
  | succ n ih =>
    have shift : code / 64 / 64 ^ n = code / 64 ^ (n + 1) := by
      rw [Nat.pow_succ', Nat.div_div_eq_div_mul]
    rw [trailingBytes, ih, shift, List.cons_append, trailingBytes]

namespace Utf8

theorem Decoding.run_cons (d : Decoding) (byte : UInt8) (rest : List UInt8) :
    d.run (byte :: rest) = (d.step byte.toNat).run rest := rfl

theorem Decoding.run_append (d : Decoding) (front back : List UInt8) :
    d.run (front ++ back) = (d.run front).run back := List.foldl_append

theorem step_pending {p : Pending} {byte : UInt8} (done : List Char) (low : p.low ≤ byte.toNat)
    (high : byte.toNat ≤ p.high) :
    Decoding.step ⟨done, some p⟩ byte.toNat =
      let bits := p.bits * 64 + (byte.toNat - 0x80)
      if p.missing = 1 then { done := Char.ofNat bits :: done }
      else { done, pending := some { missing := p.missing - 1, bits } } := by
  simp [Decoding.step, low, high]

/-- Only the first of the bytes that follow has bounds of its own. -/
theorem run_trailingBytes (n code : Nat) (done : List Char) {p : Pending}
    (missing : p.missing = n + 1) (low : p.low ≤ code / 64 ^ n % 64 + 0x80)
    (high : code / 64 ^ n % 64 + 0x80 ≤ p.high) :
    Decoding.run ⟨done, some p⟩ (trailingBytes (n + 1) code) =
      { done := Char.ofNat (p.bits * 64 ^ (n + 1) + code % 64 ^ (n + 1)) :: done } := by
  have byte (k : Nat) : (UInt8.ofNat (k % 64 + 0x80)).toNat = k % 64 + 0x80 := by
    rw [UInt8.toNat_ofNat', Nat.mod_eq_of_lt (by omega)]
  rw [trailingBytes_succ, Decoding.run_cons]
  induction n generalizing p with
  | zero =>
    rw [step_pending done (by rwa [byte]) (by rwa [byte]), if_pos missing, byte]
    simp [trailingBytes, Decoding.run]
  | succ n ih =>
    have further : p.missing ≠ 1 := by omega
    have digits : code % 64 ^ (n + 2) =
        code % 64 ^ (n + 1) + 64 ^ (n + 1) * (code / 64 ^ (n + 1) % 64) := Nat.mod_pow_succ
    have joined (first rest unit : Nat) :
        (p.bits * 64 + first) * unit + rest = p.bits * (64 * unit) + (rest + unit * first) := by
      rw [Nat.add_mul, Nat.mul_assoc, Nat.mul_comm unit first]
      omega
    rw [step_pending done (by rwa [byte]) (by rwa [byte]), if_neg further, byte, trailingBytes_succ,
      Decoding.run_cons, ih (by simp [missing]) (by simp) (by simp only; omega), digits,
      Nat.add_sub_cancel, joined, ← Nat.pow_succ']

section

variable {k : Nat} (done : List Char)

theorem start_two (low : 2 ≤ k) (high : k < 0x20) :
    Decoding.start done (0xC0 + k) = ⟨done, some { missing := 1, bits := k }⟩ := by
  rw [Decoding.start, if_neg (by omega), if_neg (by omega), if_pos (by omega),
    Nat.add_sub_cancel_left]

theorem start_three (high : k < 0x10) :
    Decoding.start done (0xE0 + k) =
      ⟨done, some ⟨2, if 0xE0 + k = 0xE0 then 0xA0 else 0x80,
        if 0xE0 + k = 0xED then 0x9F else 0xBF, k⟩⟩ := by
  rw [Decoding.start, if_neg (by omega), if_neg (by omega), if_neg (by omega), if_pos (by omega),
    Nat.add_sub_cancel_left]

theorem start_four (high : k < 5) :
    Decoding.start done (0xF0 + k) =
      ⟨done, some ⟨3, if 0xF0 + k = 0xF0 then 0x90 else 0x80,
        if 0xF0 + k = 0xF4 then 0x8F else 0xBF, k⟩⟩ := by
  rw [Decoding.start, if_neg (by omega), if_neg (by omega), if_neg (by omega), if_neg (by omega),
    if_pos (by omega), Nat.add_sub_cancel_left]

/-- The first byte of a character of several bytes tells how many follow and bounds the next one. -/
theorem start_leadByte {code : Nat} (several : 0x7F < code) (bound : code < 0x110000)
    (scalar : code < 0xD800 ∨ 0xDFFF < code) :
    ∃ n p, trailingCount code = n + 1 ∧ Decoding.start done (leadByte code) = ⟨done, some p⟩ ∧
      p.missing = n + 1 ∧ p.bits = code / 64 ^ (n + 1) ∧
        p.low ≤ code / 64 ^ n % 64 + 0x80 ∧ code / 64 ^ n % 64 + 0x80 ≤ p.high := by
  have multi : ¬ code ≤ 0x7F := Nat.not_le_of_lt several
  by_cases two : code ≤ 0x7FF
  · have count : trailingCount code = 1 := by rw [trailingCount, if_neg multi, if_pos two]
    have lead : leadByte code = 0xC0 + code / 64 ^ 1 := by
      rw [leadByte, if_neg multi, if_pos two, count]
    exact ⟨0, _, count, lead ▸ start_two done (by omega) (by omega), rfl, rfl,
      by dsimp only; omega, by dsimp only; omega⟩
  by_cases three : code ≤ 0xFFFF
  · have count : trailingCount code = 2 := by
      rw [trailingCount, if_neg multi, if_neg two, if_pos three]
    have lead : leadByte code = 0xE0 + code / 64 ^ 2 := by
      rw [leadByte, if_neg multi, if_neg two, if_pos three, count]
    exact ⟨1, _, count, lead ▸ start_three done (by omega), rfl, rfl,
      by dsimp only; split <;> omega, by dsimp only; split <;> omega⟩
  · have count : trailingCount code = 3 := by
      rw [trailingCount, if_neg multi, if_neg two, if_neg three]
    have lead : leadByte code = 0xF0 + code / 64 ^ 3 := by
      rw [leadByte, if_neg multi, if_neg two, if_neg three, count]
    exact ⟨2, _, count, lead ▸ start_four done (by omega), rfl, rfl,
      by dsimp only; split <;> omega, by dsimp only; split <;> omega⟩

end

theorem run_utf8EncodeChar (c : Char) (done : List Char) :
    Decoding.run { done } (String.utf8EncodeChar c) = { done := c :: done } := by
  rw [utf8EncodeChar_eq, Decoding.run_cons, toNat_leadByte]
  show (Decoding.start done (leadByte c.toNat)).run _ = _
  by_cases one : c.toNat ≤ 0x7F
  · have count : trailingCount c.toNat = 0 := if_pos one
    have lead : leadByte c.toNat = c.toNat := by
      rw [leadByte, if_pos one, count, Nat.pow_zero, Nat.div_one, Nat.zero_add]
    rw [count, lead, Decoding.start, if_pos (by omega), Char.ofNat_toNat]
    rfl
  · have scalar : c.toNat < 0xD800 ∨ 0xDFFF < c.toNat := by
      rcases c.valid with basic | ⟨beyond, -⟩
      · exact .inl basic
      · exact .inr beyond
    obtain ⟨n, p, count, started, missing, bits, low, high⟩ :=
      start_leadByte done (Nat.lt_of_not_le one) (code_lt c) scalar
    rw [count, started, run_trailingBytes n _ done missing low high, bits, Nat.div_add_mod',
      Char.ofNat_toNat]

theorem run_flatMap_utf8EncodeChar (cs done : List Char) :
    Decoding.run { done } (cs.flatMap String.utf8EncodeChar) = { done := cs.reverse ++ done } := by
  induction cs generalizing done with
  | nil => rfl
  | cons c rest ih =>
    rw [List.flatMap_cons, Decoding.run_append, run_utf8EncodeChar, ih]
    simp

theorem decodeLossy_utf8Bytes (text : String) : decodeLossy (utf8Bytes text) = text.toList := by
  rw [decodeLossy, utf8Bytes_eq_flatMap, run_flatMap_utf8EncodeChar]
  simp

end Utf8

namespace Probe

theorem tokens_utf8Bytes (text : String) :
    tokens (utf8Bytes text) = (split ' ' text.toList).take 64 := by
  rw [tokens, Utf8.decodeLossy_utf8Bytes]

/-- Every short list of tokens without blanks is probed. -/
theorem exists_bytes {listed : List String} (nonempty : listed ≠ []) (few : listed.length ≤ 64)
    (absent : ∀ token ∈ listed, ' ' ∉ token.toList) : ∃ bytes, tokens bytes = listed := by
  refine ⟨utf8Bytes (.ofList ([' '].intercalate (listed.map String.toList))), ?_⟩
  rw [tokens_utf8Bytes, String.toList_ofList, split_intercalate nonempty absent,
    List.take_of_length_le few]

theorem nonDescending_of_pairwise {scores : List Relevance} (sorted : scores.Pairwise (· ≤ ·)) :
    nonDescending scores = true := by
  induction sorted with
  | nil => rfl
  | @cons score rest above _ ih =>
    cases rest with
    | nil => rfl
    | cons next rest =>
      rw [nonDescending, ih, Bool.and_true, decide_eq_true_eq]
      exact above next List.mem_cons_self

theorem nonDescending_ranked (set : ResultSet) : nonDescending (set.ranked.map (·.2)) = true := by
  refine nonDescending_of_pairwise (List.pairwise_map.mpr (set.ranked_before.imp ?_))
  rintro a b (lower | ⟨same, -⟩)
  · exact UInt32.le_of_lt lower
  · exact UInt32.le_of_eq same

theorem searchHolds_evaluate (combine : Combiner) (plan : Plan) :
    searchHolds plan (plan.evaluate combine index.counts) = true := by
  rw [searchHolds, nonDescending_ranked, Bool.and_true, List.all_eq_true]
  intro term excluded
  rw [List.all_eq_true]
  rintro ⟨d, score⟩ matched
  obtain ⟨found, positive⟩ := ResultSet.mem_matching_iff.mp matched
  have barred : plan.excludes index.counts d = true := by
    refine List.any_eq_true.mpr ⟨term, excluded, ?_⟩
    simpa [ResultSet.hits, ResultSet.relevance, found] using positive
  simp [Plan.contains_evaluate, barred]

theorem searchAgrees_eq_true (tokens : List String) : searchAgrees tokens = true := by
  have answered : (search tokens).answer =
      (Plan.parse tokens).map (Plan.evaluate Scoring.sum.combine index.counts) :=
    Query.answer_run_eq_evaluate rfl (Source.serves_ofCounts index.counts ()) _ tokens
  rw [searchAgrees, answered]
  cases parsed : Plan.parse tokens with
  | ok plan => exact searchHolds_evaluate _ plan
  | error error =>
    obtain ⟨-, rfl⟩ := Plan.parse_eq_error_iff.mp parsed
    rfl

theorem nodup_eraseDups (names : List String) : names.eraseDups.Nodup := by
  induction size : names.length using Nat.strongRecOn generalizing names with
  | _ n ih =>
    cases names with
    | nil => simp
    | cons name rest =>
      have shorter := List.length_filter_le (fun other => !other == name) rest
      rw [List.length_cons] at size
      rw [List.eraseDups_cons, List.nodup_cons]
      exact ⟨by simp, ih _ (by omega) _ rfl⟩

theorem length_eraseDups (names : List String) : names.eraseDups.length = names.toFinset.card := by
  rw [← List.toFinset_card_of_nodup (nodup_eraseDups names)]
  congr 1
  ext name
  simp

variable (left right : ResultSet) (combine : Combiner)

theorem unionHolds_eq_true : unionHolds left right combine = true := by
  rw [unionHolds, beq_iff_eq, ResultSet.size_union, length_eraseDups, List.toFinset_append]

theorem intersectHolds_eq_true : intersectHolds left right combine = true := by
  have documents : (left.intersect right combine).documents = left.documents :=
    Table.names_map _ left
  rw [intersectHolds, documents, beq_self_eq_true, Bool.true_and, List.all_eq_true]
  rintro ⟨d, score⟩ mem
  have found := Table.mem_entries_iff.mp mem
  rw [ResultSet.find?_intersect] at found
  obtain ⟨here, entry, rfl⟩ := Option.map_eq_some_iff.mp found
  rw [ResultSet.relevance_of_find? entry, intersectScore]
  split
  · next both => simp [both]
  · simp

theorem differenceHolds_eq_true : differenceHolds left right = true := by
  rw [differenceHolds, List.all_eq_true]
  rintro ⟨d, score⟩ mem
  have found := Table.mem_entries_iff.mp mem
  rw [ResultSet.find?_difference] at found
  obtain ⟨entry, survives⟩ := Option.filter_eq_some_iff.mp found
  rw [ResultSet.relevance_of_find? entry, beq_self_eq_true, Bool.and_true]
  exact survives

theorem algebraHolds_eq_true : algebraHolds left right combine = true := by
  rw [algebraHolds, unionHolds_eq_true, intersectHolds_eq_true, differenceHolds_eq_true]
  rfl

end Probe

end TermSearch
