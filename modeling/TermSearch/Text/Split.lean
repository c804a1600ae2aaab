namespace TermSearch

def splitChars (separator : Char) : List Char → List (List Char)
  | [] => [[]]
  | c :: rest =>
    if c = separator then [] :: splitChars separator rest
    else match splitChars separator rest with
      | [] => [[c]]
      | piece :: pieces => (c :: piece) :: pieces

def split (separator : Char) (text : List Char) : List String :=
  (splitChars separator text).map String.ofList

theorem splitChars_eq_singleton {separator : Char} {text : List Char} (absent : separator ∉ text) :
    splitChars separator text = [text] := by
  induction text with
  | nil => rfl
  | cons c rest ih =>
    have other := List.ne_of_not_mem_cons absent
    rw [splitChars, if_neg other.symm, ih (List.not_mem_of_not_mem_cons absent)]

theorem splitChars_append {separator : Char} {piece : List Char} (absent : separator ∉ piece)
    (rest : List Char) :
    splitChars separator (piece ++ separator :: rest) = piece :: splitChars separator rest := by
  induction piece with
  | nil => rw [List.nil_append, splitChars, if_pos rfl]
  | cons c piece ih =>
    have other := List.ne_of_not_mem_cons absent
    rw [List.cons_append, splitChars, if_neg other.symm, ih (List.not_mem_of_not_mem_cons absent)]

theorem split_intercalate {separator : Char} {pieces : List String} (listed : pieces ≠ [])
    (absent : ∀ piece ∈ pieces, separator ∉ piece.toList) :
    split separator ([separator].intercalate (pieces.map String.toList)) = pieces := by
  induction pieces with
  | nil => exact absurd rfl listed
  | cons piece pieces ih =>
    obtain ⟨here, later⟩ := List.forall_mem_cons.mp absent
    cases pieces with
    | nil => simp [split, List.intercalate, splitChars_eq_singleton here]
    | cons next pieces =>
      have tail := ih (List.cons_ne_nil _ _) later
      have joined : [separator].intercalate ((piece :: next :: pieces).map String.toList) =
          piece.toList ++
            separator :: [separator].intercalate ((next :: pieces).map String.toList) := by
        simp [List.intercalate]
      unfold split at tail ⊢
      rw [joined, splitChars_append here, List.map_cons, tail, String.ofList_toList]

theorem split_flatMap {separator : Char} {pieces : List String}
    (absent : ∀ piece ∈ pieces, separator ∉ piece.toList) :
    split separator (pieces.flatMap fun piece => piece.toList ++ [separator]) = pieces ++ [""] := by
  unfold split
  induction pieces with
  | nil => rfl
  | cons piece pieces ih =>
    obtain ⟨here, later⟩ := List.forall_mem_cons.mp absent
    rw [List.flatMap_cons, List.append_assoc, List.singleton_append, splitChars_append here,
      List.map_cons, ih later, String.ofList_toList, List.cons_append]

/-- The text before the last separator and the text after it. -/
def splitLast? (separator : Char) : List Char → Option (List Char × List Char)
  | [] => none
  | c :: rest =>
    match splitLast? separator rest with
    | some (front, back) => some (c :: front, back)
    | none => if c = separator then some ([], rest) else none

theorem splitLast?_eq_none {separator : Char} {text : List Char} (absent : separator ∉ text) :
    splitLast? separator text = none := by
  induction text with
  | nil => rfl
  | cons c text ih =>
    have other := List.ne_of_not_mem_cons absent
    rw [splitLast?, ih (List.not_mem_of_not_mem_cons absent), if_neg other.symm]

theorem splitLast?_append {separator : Char} {back : List Char} (absent : separator ∉ back)
    (front : List Char) :
    splitLast? separator (front ++ separator :: back) = some (front, back) := by
  induction front with
  | nil => rw [List.nil_append, splitLast?, splitLast?_eq_none absent, if_pos rfl]
  | cons c front ih => rw [List.cons_append, splitLast?, ih]

end TermSearch
