import TermSearch.CommandLine

/-!
A configuration can be written as arguments in any order: each setting once, with its value attached
or in the next argument, and each raised flag. The tokens follow behind a separator, or without one
where the first of them cannot be taken for anything else.
-/

namespace TermSearch.CommandLine

def scoringWord : Scoring → String
  | .sum => "sum"
  | .max => "max"

inductive Part where
  | setting (setting : Setting)
  | flag (flag : Flag)
deriving DecidableEq, Repr

def Part.name : Part → String
  | .setting s => s.name
  | .flag f => f.name

def Part.argument (part : Part) : String := "--" ++ part.name

inductive Written where
  | attached (setting : Setting) (value : String)
  | apart (setting : Setting) (value : String)
  | raised (flag : Flag)
deriving DecidableEq, Repr

namespace Written

def part : Written → Part
  | .attached setting _ | .apart setting _ => .setting setting
  | .raised flag => .flag flag

def arguments : Written → List String
  | .attached setting value => [(Part.setting setting).argument ++ "=" ++ value]
  | .apart setting value => [(Part.setting setting).argument, value]
  | .raised flag => [(Part.flag flag).argument]

end Written

namespace Config

variable (config : Config)

def Spells (value : String) : Setting → Prop
  | .index => value = config.index
  | .scoring => value = scoringWord config.scoring
  | .logLevel => value.toList.map Char.toUpper = config.level.name.toList

instance (value : String) (setting : Setting) : Decidable (config.Spells value setting) :=
  match setting with
  | .index | .scoring | .logLevel => inferInstanceAs (Decidable (_ = _))

/-- A value that begins with a dash has to be attached. -/
def Values : Written → Prop
  | .attached setting value => config.Spells value setting
  | .apart setting value => config.Spells value setting ∧ value.toList.head? ≠ some '-'
  | .raised _ => True

instance (written : Written) : Decidable (config.Values written) :=
  match written with
  | .attached setting value => inferInstanceAs (Decidable (config.Spells value setting))
  | .apart _ _ => inferInstanceAs (Decidable (_ ∧ _))
  | .raised _ => inferInstanceAs (Decidable True)

def parts : List Part :=
  [.setting .index, .setting .scoring, .setting .logLevel] ++
    (if config.matching then [.flag .matching] else []) ++
    if config.json then [.flag .json] else []

structure WrittenBy (written : List Written) : Prop where
  parts : (written.map Written.part).Perm config.parts
  values : ∀ w ∈ written, config.Values w

end Config

/-- The arguments that are no token where a token could begin. -/
inductive Reserved : String → Prop where
  | separator : Reserved "--"
  | named (part : Part) : Reserved part.argument
  | valued (part : Part) (value : String) : Reserved (part.argument ++ "=" ++ value)
  | letters (letters : List Char) :
    letters ≠ [] → (∀ c ∈ letters, c = 'h' ∨ c = 'V') → Reserved (.ofList ('-' :: letters))

def Part.reading (attached : Option String) : Part → Argument
  | .setting s => .setting s attached
  | .flag f => .flag f attached

namespace Argument

theorem classify_argument (part : Part) : classify part.argument = part.reading none := by
  cases part with
  | setting s => cases s <;> rfl
  | flag f => cases f <;> rfl

theorem classify_attached (part : Part) (value : String) :
    classify (part.argument ++ "=" ++ value) = part.reading (some value) := by
  cases part with
  | setting s =>
    cases s <;> simp [classify, ofLong, ofName, Part.reading, Part.argument, Part.name, Setting.name]
  | flag f =>
    cases f <;> simp [classify, ofLong, ofName, Part.reading, Part.argument, Part.name,
      Setting.name, Flag.name]

theorem classify_undashed {raw : String} (undashed : raw.toList.head? ≠ some '-') :
    classify raw = .token := by
  unfold classify
  split
  · next spelled => simp [spelled] at undashed
  · next spelled => simp [spelled] at undashed
  · next spelled => simp [spelled] at undashed
  · rfl

theorem exists_part_of_ofName {name : String} {attached : Option String}
    (known : ofName name attached ≠ .token) : ∃ part : Part, part.name = name := by
  unfold ofName at known
  split at known
  · next s found =>
    have same := List.find?_some found
    exact ⟨.setting s, eq_of_beq same⟩
  split at known
  · next f found =>
    have same := List.find?_some found
    exact ⟨.flag f, eq_of_beq same⟩
  exact absurd rfl known

theorem reserved_of_ofLong {text : List Char} (known : ofLong text ≠ .token) :
    Reserved (.ofList ('-' :: '-' :: text)) := by
  have whole := List.takeWhile_append_dropWhile (p := (· ≠ '=')) (l := text)
  have stop := List.head?_dropWhile_not (· ≠ '=') text
  unfold ofLong at known
  split at known
  · next unvalued =>
    obtain ⟨part, name⟩ := exists_part_of_ofName known
    rw [unvalued, List.append_nil] at whole
    have same : String.ofList ('-' :: '-' :: text) = part.argument := by
      rw [Part.argument, name, whole]
      exact String.toList_inj.mp (by simp)
    rw [same]
    exact .named part
  · next c value valued =>
    obtain ⟨part, name⟩ := exists_part_of_ofName known
    rw [valued] at whole stop
    have equals : c = '=' := by simpa using stop
    rw [equals] at whole
    have same : String.ofList ('-' :: '-' :: text) = part.argument ++ "=" ++ .ofList value := by
      rw [Part.argument, name]
      exact String.toList_inj.mp (by simpa using whole.symm)
    rw [same]
    exact .valued part _

theorem ofLetters_ne_token_iff {letters : List Char} :
    ofLetters letters ≠ .token ↔ letters ≠ [] ∧ ∀ c ∈ letters, c = 'h' ∨ c = 'V' := by
  cases letters with
  | nil => simp [ofLetters]
  | cons c rest =>
    simp only [ofLetters, List.all_eq_true, decide_eq_true_eq]
    split
    · next known => exact iff_of_true nofun ⟨List.cons_ne_nil c rest, known⟩
    · next unknown => exact iff_of_false (not_not_intro rfl) fun clustered => unknown clustered.2

theorem classify_letters {letters : List Char} (undashed : letters.head? ≠ some '-') :
    classify (.ofList ('-' :: letters)) = ofLetters letters := by
  unfold classify
  rw [String.toList_ofList]
  split
  · next spelled => cases spelled; exact absurd rfl undashed
  · next spelled => cases spelled; exact absurd rfl undashed
  · next spelled => cases spelled; rfl
  · next other => exact absurd rfl (other letters)

/-- Exactly the arguments that are not reserved begin the tokens. -/
theorem classify_eq_token_iff {raw : String} : classify raw = .token ↔ ¬ Reserved raw := by
  constructor
  · intro token reserved
    cases reserved with
    | separator => cases token
    | named part =>
      rw [classify_argument] at token
      cases part <;> cases token
    | valued part value =>
      rw [classify_attached] at token
      cases part <;> cases token
    | letters letters nonempty known =>
      have undashed : letters.head? ≠ some '-' := by
        intro dashed
        have clustered := known '-' (List.mem_of_head? dashed)
        simp at clustered
      rw [classify_letters undashed] at token
      exact ofLetters_ne_token_iff.mpr ⟨nonempty, known⟩ token
  · intro free
    refine Decidable.byContradiction fun known => free ?_
    rw [← String.ofList_toList (s := raw)]
    unfold classify at known
    split at known
    · next spelled =>
      rw [spelled]
      exact .separator
    · next text _ spelled =>
      rw [spelled]
      exact reserved_of_ofLong known
    · next letters _ _ spelled =>
      rw [spelled]
      obtain ⟨nonempty, clustered⟩ := ofLetters_ne_token_iff.mp known
      exact .letters letters nonempty clustered
    · exact absurd rfl known

end Argument

theorem toUpper_of_isDigit {c : Char} (digit : c.isDigit = true) : c.toUpper = c := by
  simp only [Char.isDigit, Bool.and_eq_true, decide_eq_true_eq] at digit
  refine dif_neg fun lower => ?_
  have below : c.val.toNat ≤ 57 := digit.2
  have above : 97 ≤ c.val.toNat := lower.1
  omega

theorem map_toUpper_of_natural? {text : List Char} {n : Nat} (read : natural? text = some n) :
    text.map Char.toUpper = text := by
  have digits {cs : List Char} (all : cs.all Char.isDigit = true) : cs.map Char.toUpper = cs := by
    rw [List.all_eq_true] at all
    have same : cs.map Char.toUpper = cs.map id :=
      List.map_congr_left fun c mem => toUpper_of_isDigit (all c mem)
    rw [same, List.map_id]
  unfold natural? at read
  by_cases signed : text.head? = some '+'
  · obtain ⟨rest, rfl⟩ := List.head?_eq_some_iff.mp signed
    rw [if_pos signed] at read
    dsimp only at read
    split at read
    · next valid =>
      have rest : rest.map Char.toUpper = rest := digits valid.2
      rw [List.map_cons, rest]
      rfl
    · contradiction
  · rw [if_neg signed] at read
    dsimp only at read
    split at read
    · next valid => exact digits valid.2
    · contradiction

theorem level?_of_name {text : String} {level : Level}
    (named : text.toList.map Char.toUpper = level.name.toList) : level? text = some level := by
  have unnumbered : natural? text.toList = none := by
    cases read : natural? text.toList with
    | none => rfl
    | some n =>
      rw [map_toUpper_of_natural? read] at named
      rw [named] at read
      cases level <;> contradiction
  unfold level?
  rw [named, unnumbered]
  cases level <;> rfl

end TermSearch.CommandLine
