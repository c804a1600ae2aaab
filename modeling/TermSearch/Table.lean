/-!
Entries are listed in ascending order of names, so two tables that answer every look-up alike are
equal.
-/

namespace TermSearch

@[ext] structure Table (α : Type) where
  entries : List (String × α)
  ascending : entries.Pairwise (·.1 < ·.1)
deriving DecidableEq

namespace Table

variable {α β : Type}

def empty : Table α := ⟨[], .nil⟩

instance : EmptyCollection (Table α) := ⟨empty⟩

instance : Inhabited (Table α) := ⟨empty⟩

def find? (table : Table α) (name : String) : Option α := table.entries.lookup name

def contains (table : Table α) (name : String) : Bool := (table.find? name).isSome

def names (table : Table α) : List String := table.entries.map (·.1)

def size (table : Table α) : Nat := table.entries.length

def isEmpty (table : Table α) : Bool := table.entries.isEmpty

theorem lookup_cons_eq_ite (name : String) (e : String × α) (rest : List (String × α)) :
    (e :: rest).lookup name = if name = e.1 then some e.2 else rest.lookup name := by
  rw [List.lookup_cons]
  by_cases eq : name = e.1
  · simp [eq]
  · simp [eq, show (name == e.1) = false by simpa using eq]

theorem mem_of_lookup {entries : List (String × α)} {name : String} {value : α}
    (found : entries.lookup name = some value) : (name, value) ∈ entries := by
  obtain ⟨l₁, l₂, rfl, -⟩ := List.lookup_eq_some_iff.1 found
  simp

theorem lookup_of_mem {entries : List (String × α)} (ascending : entries.Pairwise (·.1 < ·.1))
    {e : String × α} (mem : e ∈ entries) : entries.lookup e.1 = some e.2 := by
  induction ascending with
  | nil => simp at mem
  | @cons x rest above _ ih =>
    rw [lookup_cons_eq_ite]
    rcases List.mem_cons.1 mem with rfl | mem
    · simp
    · rw [if_neg fun eq => String.lt_irrefl _ (eq ▸ above e mem)]
      exact ih mem

theorem mem_entries_iff {table : Table α} {name : String} {value : α} :
    (name, value) ∈ table.entries ↔ table.find? name = some value :=
  ⟨fun mem => lookup_of_mem table.ascending mem, mem_of_lookup⟩

theorem mem_names_iff {table : Table α} {name : String} :
    name ∈ table.names ↔ (table.find? name).isSome := by
  simp [names, Option.isSome_iff_exists, mem_entries_iff]

@[simp] theorem find?_empty (name : String) : (∅ : Table α).find? name = none := rfl

@[simp] theorem length_names (table : Table α) : table.names.length = table.size := by
  simp [names, size]

theorem names_ascending (table : Table α) : table.names.Pairwise (· < ·) := by
  simpa [names, List.pairwise_map] using table.ascending

theorem names_nodup (table : Table α) : table.names.Nodup :=
  table.names_ascending.imp String.ne_of_lt

theorem entries_eq_of_mem_iff {as bs : List (String × α)} (has : as.Pairwise (·.1 < ·.1))
    (hbs : bs.Pairwise (·.1 < ·.1)) (same : ∀ e, e ∈ as ↔ e ∈ bs) : as = bs := by
  induction has generalizing bs with
  | nil =>
    cases bs with
    | nil => rfl
    | cons b rest => exact absurd ((same b).2 (by simp)) (by simp)
  | @cons a as above _ ih =>
    cases hbs with
    | nil => exact absurd ((same a).1 (by simp)) (by simp)
    | @cons b bs above' hbs =>
      have head : a = b := by
        rcases List.mem_cons.1 ((same a).1 (by simp)) with eq | later
        · exact eq
        rcases List.mem_cons.1 ((same b).2 (by simp)) with eq | later'
        · exact eq.symm
        exact absurd (above b later') (String.lt_asymm (above' a later))
      subst head
      refine congrArg (a :: ·) (ih hbs fun e => ⟨fun mem => ?_, fun mem => ?_⟩)
      · rcases List.mem_cons.1 ((same e).1 (List.mem_cons_of_mem _ mem)) with rfl | mem'
        · exact absurd (above e mem) (String.lt_irrefl _)
        · exact mem'
      · rcases List.mem_cons.1 ((same e).2 (List.mem_cons_of_mem _ mem)) with rfl | mem'
        · exact absurd (above' e mem) (String.lt_irrefl _)
        · exact mem'

theorem ext_find? {a b : Table α} (same : ∀ name, a.find? name = b.find? name) : a = b := by
  refine Table.ext (entries_eq_of_mem_iff a.ascending b.ascending fun e => ?_)
  obtain ⟨name, value⟩ := e
  rw [mem_entries_iff, mem_entries_iff, same]

def put (name : String) (value : α) : List (String × α) → List (String × α)
  | [] => [(name, value)]
  | e :: rest =>
    if e.1 < name then e :: put name value rest
    else if name < e.1 then (name, value) :: e :: rest
    else (name, value) :: rest

theorem mem_put {name : String} {value : α} {entries : List (String × α)} {e : String × α}
    (mem : e ∈ put name value entries) : e = (name, value) ∨ e ∈ entries := by
  induction entries with
  | nil => simpa [put] using mem
  | cons x rest ih =>
    unfold put at mem
    split at mem
    · rcases List.mem_cons.1 mem with rfl | mem
      · simp
      · rcases ih mem with eq | mem
        · exact .inl eq
        · exact .inr (List.mem_cons_of_mem _ mem)
    split at mem
    · simpa using mem
    · rcases List.mem_cons.1 mem with rfl | mem
      · simp
      · exact .inr (List.mem_cons_of_mem _ mem)

theorem eq_of_not_lt {a b : String} (hab : ¬ a < b) (hba : ¬ b < a) : a = b :=
  String.le_antisymm (String.not_lt.1 hba) (String.not_lt.1 hab)

theorem put_ascending (name : String) (value : α) {entries : List (String × α)}
    (ascending : entries.Pairwise (·.1 < ·.1)) : (put name value entries).Pairwise (·.1 < ·.1) := by
  induction ascending with
  | nil => simp [put]
  | @cons x rest above tail ih =>
    unfold put
    split
    · next after =>
      refine .cons (fun e mem => ?_) ih
      rcases mem_put mem with rfl | mem
      · exact after
      · exact above e mem
    split
    · next before =>
      refine .cons (fun e mem => ?_) (.cons above tail)
      rcases List.mem_cons.1 mem with rfl | mem
      · exact before
      · exact String.lt_trans before (above e mem)
    · next after before =>
      refine .cons (fun e mem => ?_) tail
      rw [eq_of_not_lt before after]
      exact above e mem

theorem lookup_put (name : String) (value : α) (entries : List (String × α)) (other : String) :
    (put name value entries).lookup other = if other = name then some value else entries.lookup other := by
  induction entries with
  | nil => simp [put, lookup_cons_eq_ite]
  | cons x rest ih =>
    unfold put
    split
    · next after =>
      rw [lookup_cons_eq_ite, lookup_cons_eq_ite, ih]
      by_cases here : other = x.1
      · rw [if_pos here, if_pos here, if_neg]
        exact fun eq => String.lt_irrefl _ (here ▸ eq ▸ after)
      · rw [if_neg here, if_neg here]
    split
    · rw [lookup_cons_eq_ite]
    · next after before =>
      obtain rfl := eq_of_not_lt before after
      rw [lookup_cons_eq_ite, lookup_cons_eq_ite]
      by_cases here : other = x.1 <;> simp [here]

def insert (table : Table α) (name : String) (value : α) : Table α :=
  ⟨put name value table.entries, put_ascending name value table.ascending⟩

theorem find?_insert (table : Table α) (name other : String) (value : α) :
    (table.insert name value).find? other = if other = name then some value else table.find? other :=
  lookup_put name value table.entries other

/-- Collects pairs. A name given more than once keeps its last value. -/
def ofList (pairs : List (String × α)) : Table α :=
  pairs.foldl (fun table pair => table.insert pair.1 pair.2) ∅

theorem find?_foldl_insert (pairs : List (String × α)) (table : Table α) (name : String) :
    (pairs.foldl (fun table pair => table.insert pair.1 pair.2) table).find? name =
      (pairs.reverse.lookup name).or (table.find? name) := by
  induction pairs generalizing table with
  | nil => simp
  | cons pair rest ih =>
    rw [List.foldl_cons, ih, List.reverse_cons, List.lookup_append, find?_insert, lookup_cons_eq_ite]
    cases rest.reverse.lookup name <;> by_cases eq : name = pair.1 <;> simp [eq]

@[simp] theorem find?_ofList (pairs : List (String × α)) (name : String) :
    (ofList pairs).find? name = pairs.reverse.lookup name := by
  rw [ofList, find?_foldl_insert, find?_empty, Option.or_none]

theorem ofList_of_perm {pairs : List (String × α)} {table : Table α}
    (perm : pairs.Perm table.entries) : ofList pairs = table := by
  have same (e : String × α) : e ∈ pairs.reverse ↔ e ∈ table.entries :=
    List.mem_reverse.trans perm.mem_iff
  refine ext_find? fun name => ?_
  rw [find?_ofList]
  refine Option.ext fun value => ?_
  rw [← mem_entries_iff]
  refine ⟨fun found => (same _).1 (mem_of_lookup found), fun mem => ?_⟩
  cases found : pairs.reverse.lookup name with
  | none =>
    rw [List.lookup_eq_none_iff] at found
    simpa using found _ ((same _).2 mem)
  | some other =>
    have here := lookup_of_mem table.ascending mem
    have there := lookup_of_mem table.ascending ((same _).1 (mem_of_lookup found))
    exact there.symm.trans here

@[simp] theorem ofList_entries (table : Table α) : ofList table.entries = table :=
  ofList_of_perm (.refl _)

/-- Walks the names and computes the value of each where it is first met; a name that was met before
is passed over. -/
def tabulate (names : List String) (value : String → α) : Table α :=
  names.foldl
    (fun table name => if table.contains name then table else table.insert name (value name)) ∅

theorem find?_foldl_first (names : List String) (value : String → α) (table : Table α)
    (name : String) :
    (names.foldl
        (fun table name => if table.contains name then table else table.insert name (value name))
        table).find? name =
      (table.find? name).or (if name ∈ names then some (value name) else none) := by
  induction names generalizing table with
  | nil => simp
  | cons n rest ih =>
    rw [List.foldl_cons, ih]
    by_cases met : table.contains n = true
    · rw [if_pos met]
      by_cases eq : name = n
      · obtain ⟨found, present⟩ := Option.isSome_iff_exists.1 met
        subst eq
        simp [present]
      · simp [eq]
    · rw [if_neg met, find?_insert]
      have absent : table.find? n = none := by
        simpa [contains] using met
      by_cases eq : name = n
      · subst eq
        simp [absent]
      · simp [eq]

@[simp] theorem find?_tabulate (names : List String) (value : String → α) (name : String) :
    (tabulate names value).find? name = if name ∈ names then some (value name) else none := by
  rw [tabulate, find?_foldl_first, find?_empty, Option.none_or]

def map (f : String → α → β) (table : Table α) : Table β where
  entries := table.entries.map fun e => (e.1, f e.1 e.2)
  ascending := by simpa [List.pairwise_map] using table.ascending

theorem lookup_map (f : String → α → β) (entries : List (String × α)) (name : String) :
    (entries.map fun e => (e.1, f e.1 e.2)).lookup name = (entries.lookup name).map (f name) := by
  induction entries with
  | nil => rfl
  | cons e rest ih =>
    rw [List.map_cons, lookup_cons_eq_ite, lookup_cons_eq_ite, ih]
    by_cases eq : name = e.1 <;> simp [eq]

@[simp] theorem find?_map (f : String → α → β) (table : Table α) (name : String) :
    (table.map f).find? name = (table.find? name).map (f name) :=
  lookup_map f table.entries name

@[simp] theorem names_map (f : String → α → β) (table : Table α) :
    (table.map f).names = table.names := by
  simp [map, names]

theorem names_eq_of_contains {a : Table α} {b : Table β}
    (same : ∀ name, a.contains name = b.contains name) : a.names = b.names := by
  have bare : a.map (fun _ _ => ()) = b.map fun _ _ => () := by
    refine ext_find? fun name => ?_
    have present := same name
    unfold contains at present
    rw [find?_map, find?_map]
    cases here : a.find? name <;> cases there : b.find? name <;> simp [here, there] at present ⊢
  rw [← names_map (fun _ _ => ()) a, bare, names_map]

def filter (keep : String → α → Bool) (table : Table α) : Table α where
  entries := table.entries.filter fun e => keep e.1 e.2
  ascending := table.ascending.filter _

@[simp] theorem find?_filter (keep : String → α → Bool) (table : Table α) (name : String) :
    (table.filter keep).find? name = (table.find? name).filter (keep name) := by
  refine Option.ext fun value => ?_
  rw [← mem_entries_iff, Option.filter_eq_some_iff, ← mem_entries_iff]
  simp [filter]

end Table

end TermSearch
