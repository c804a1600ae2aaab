import TermSearch.Index
import TermSearch.Text.Split

/-!
A path is walked name by name from the folder itself: empty names and single dots stay where they
are, two dots go back, and every name but the last has to be a folder.
-/

namespace TermSearch

abbrev Location := List String

structure Folder where
  entries : List (Location × FileState) := []

namespace Folder

def isDirectory (folder : Folder) (location : Location) : Bool :=
  location.isEmpty || folder.entries.any fun entry =>
    location.isPrefixOf entry.1 && (location ≠ entry.1 || entry.2 matches .directory)

def pathNames (path : String) : List String := split '/' path.toList

def resolve (folder : Folder) (location : Location) : List String → Option Location
  | [] => some location
  | name :: rest =>
    if ¬ folder.isDirectory location then none
    else if name = "" ∨ name = "." then resolve folder location rest
    else if name = ".." then resolve folder location.dropLast rest
    else resolve folder (location ++ [name]) rest

def read (folder : Folder) (path : String) : FileState :=
  match if path = "" then none else folder.resolve [] (pathNames path) with
  | none => .missing
  | some location =>
    if folder.isDirectory location then .directory
    else (folder.entries.lookup location).getD .missing

/-- Writes a file over whatever file stands at the path. A path that ends in a slash can only name a
folder. -/
def write (folder : Folder) (path text : String) : Except StoreError Folder :=
  let names := (pathNames path).reverse.dropWhile (· = "") |>.reverse
  match if path = "" then none else folder.resolve [] names with
  | none => .error (.unavailable path .notFound)
  | some location =>
    if (pathNames path).getLast? = some "" ∨ folder.isDirectory location then
      .error (.unavailable path .isDirectory)
    else .ok { entries := (location, .file text.toUTF8) :: folder.entries }

theorem resolve_of_grown {folder grown : Folder} {names : List String} {start location : Location}
    (kept : ∀ place, folder.isDirectory place = true → grown.isDirectory place = true)
    (found : folder.resolve start names = some location) :
    grown.resolve start names = some location := by
  induction names generalizing start with
  | nil => exact found
  | cons name rest ih =>
    unfold resolve at found ⊢
    by_cases entered : folder.isDirectory start = true
    · rw [if_neg (not_not_intro entered)] at found
      rw [if_neg (not_not_intro (kept start entered))]
      by_cases stays : name = "" ∨ name = "."
      · rw [if_pos stays] at found ⊢
        exact ih found
      rw [if_neg stays] at found ⊢
      by_cases back : name = ".."
      · rw [if_pos back] at found ⊢
        exact ih found
      · rw [if_neg back] at found ⊢
        exact ih found
    · rw [if_pos entered] at found
      contradiction

theorem isDirectory_cons (entries : List (Location × FileState)) (location place : Location)
    (bytes : ByteArray) :
    isDirectory ⟨(location, .file bytes) :: entries⟩ place =
      (place.isPrefixOf location && place ≠ location || isDirectory ⟨entries⟩ place) := by
  simp [isDirectory, Bool.or_left_comm]

theorem dropTrailing_eq {names : List String} (last : names.getLast? ≠ some "") :
    (names.reverse.dropWhile (· = "")).reverse = names := by
  cases reversed : names.reverse with
  | nil =>
    rw [List.reverse_eq_nil_iff] at reversed
    subst reversed
    rfl
  | cons name rest =>
    rw [List.getLast?_eq_head?_reverse, reversed] at last
    have nonempty : name ≠ "" := fun empty => last (congrArg some empty)
    rw [List.dropWhile_cons_of_neg (by simpa using nonempty), ← reversed, List.reverse_reverse]

theorem write_eq_ok_iff {folder saved : Folder} {path text : String} :
    folder.write path text = .ok saved ↔
      ∃ location, path ≠ "" ∧ folder.resolve [] (pathNames path) = some location ∧
        (pathNames path).getLast? ≠ some "" ∧ folder.isDirectory location = false ∧
        saved = { entries := (location, .file text.toUTF8) :: folder.entries } := by
  constructor
  · intro written
    simp only [write] at written
    split at written
    · contradiction
    · next location found =>
      split at written
      · contradiction
      · next writable =>
        rw [not_or, Bool.not_eq_true] at writable
        obtain ⟨last, closed⟩ := writable
        rw [dropTrailing_eq last] at found
        split at found
        · contradiction
        · next named => exact ⟨location, named, found, last, closed, (Except.ok.inj written).symm⟩
  · rintro ⟨location, named, found, last, closed, rfl⟩
    simp [write, named, dropTrailing_eq last, found, last, closed]

/-- A file may be written at the path: it leads to a place that is no folder. -/
def Writable (folder : Folder) (path : String) : Prop :=
  ∃ location, path ≠ "" ∧ folder.resolve [] (pathNames path) = some location ∧
    (pathNames path).getLast? ≠ some "" ∧ folder.isDirectory location = false

theorem writable_iff {folder : Folder} {path : String} (text : String) :
    folder.Writable path ↔ ∃ saved, folder.write path text = .ok saved := by
  constructor
  · rintro ⟨location, named, found, last, closed⟩
    exact ⟨_, write_eq_ok_iff.2 ⟨location, named, found, last, closed, rfl⟩⟩
  · rintro ⟨saved, written⟩
    obtain ⟨location, named, found, last, closed, -⟩ := write_eq_ok_iff.1 written
    exact ⟨location, named, found, last, closed⟩

theorem read_of_write {folder saved : Folder} {path text : String}
    (written : folder.write path text = .ok saved) : saved.read path = .file text.toUTF8 := by
  obtain ⟨location, named, found, -, closed, rfl⟩ := write_eq_ok_iff.1 written
  have kept (place : Location) (entered : folder.isDirectory place = true) :
      isDirectory ⟨(location, .file text.toUTF8) :: folder.entries⟩ place = true := by
    rw [isDirectory_cons, entered, Bool.or_true]
  have there := resolve_of_grown kept found
  have file : isDirectory ⟨(location, .file text.toUTF8) :: folder.entries⟩ location = false := by
    rw [isDirectory_cons, closed]
    simp
  rw [read, if_neg named, there]
  show (if isDirectory _ location then _ else _) = _
  rw [file, if_neg Bool.false_ne_true, List.lookup_cons_self]
  rfl

def route (location : Location) : List String → List Location
  | [] => [location]
  | name :: rest =>
    if name = "" ∨ name = "." then route location rest
    else location :: route (if name = ".." then location.dropLast else location ++ [name]) rest

def place (folder : Folder) (path : String) (state : FileState) : Folder :=
  let passed := route [] (pathNames path)
  { entries := (passed.getLastD [], state) :: passed.dropLast.map (·, .directory) ++ folder.entries }

end Folder

def Index.save (index : Index) (path : String) (folder : Folder) : Except StoreError Folder :=
  folder.write path index.toText

end TermSearch
