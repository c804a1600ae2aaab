import TermSearch.ResultSet
import TermSearch.Json.Reader
import TermSearch.Json.Value

/-!
A set is an object from documents to scores. A ranking is an array of entries, each an object of two
members; an entry is also read from an array of the two.
-/

namespace TermSearch

namespace ResultSet

def pairsToJson (pairs : List (String × Json.Number)) : Json.Value :=
  .object (pairs.map fun pair => (pair.1, .number pair.2))

def numbers (set : ResultSet) : List (String × Json.Number) :=
  set.entries.map fun entry => (entry.1, .ofNat entry.2.toNat)

def toJson (set : ResultSet) : Json.Value := pairsToJson set.numbers

def reader : Json.Reader ResultSet := Json.Reader.table Json.Reader.count

end ResultSet

structure RankedEntry where
  document : String
  relevance : Relevance
deriving DecidableEq, Repr

namespace RankedEntry

def line (entry : RankedEntry) : String :=
  .ofList (entry.document.toList ++ '=' :: Nat.toDigits 10 entry.relevance.toNat)

def toJson (entry : RankedEntry) : Json.Value :=
  .object [("document", .string entry.document), ("relevance", .ofNat entry.relevance.toNat)]

structure Partial where
  document : Option String := none
  relevance : Option Relevance := none

open Json.Reader in
def Partial.member (key : String) (found : Partial) : Json.Reader Partial := fun lexemes =>
  if key = "document" then do
    if found.document.isSome then throw .mismatch
    let (document, rest) ← memberValue string lexemes
    return ({ found with document := some document }, rest)
  else if key = "relevance" then do
    if found.relevance.isSome then throw .mismatch
    let (relevance, rest) ← memberValue count lexemes
    return ({ found with relevance := some relevance }, rest)
  else do
    let (_, rest) ← memberValue skip lexemes
    return (found, rest)

def Partial.complete : Partial → Except Json.Fault RankedEntry
  | ⟨some document, some relevance⟩ => .ok ⟨document, relevance⟩
  | _ => .error .mismatch

open Json.Reader in
def reader : Json.Reader RankedEntry
  | .openBracket :: lexemes => do
    let (document, rest) ← firstItem? string lexemes
    let some document := document | throw .mismatch
    let (relevance, rest) ← nextItem? count rest
    let some relevance := relevance | throw .mismatch
    let (_, rest) ← endArray rest
    return (⟨document, relevance⟩, rest)
  | lexemes => do
    let (found, rest) ← object Partial.member {} lexemes
    return (← found.complete, rest)

def listToJson (entries : List RankedEntry) : Json.Value := .array (entries.map toJson)

def listReader : Json.Reader (List RankedEntry) := Json.Reader.list reader

end RankedEntry

namespace ResultSet

def rankedEntries (set : ResultSet) : List RankedEntry :=
  set.ranked.map fun entry => ⟨entry.1, entry.2⟩

def shown (set : ResultSet) (matching : Bool) : List RankedEntry :=
  set.rankedEntries.filter fun entry => !matching || entry.relevance != 0

def printLines (entries : List RankedEntry) : String :=
  .ofList (entries.flatMap fun entry => entry.line.toList ++ ['\n'])

def printJson (entries : List RankedEntry) : String :=
  .ofList ((RankedEntry.listToJson entries).write (some 0) ++ ['\n'])

def print (set : ResultSet) (matching json : Bool) : String :=
  if json then printJson (set.shown matching) else printLines (set.shown matching)

theorem shown_eq_ite (set : ResultSet) (matching : Bool) :
    set.shown matching =
      if matching then set.rankedEntries.filter (·.relevance ≠ 0) else set.rankedEntries := by
  cases matching with
  | false => exact List.filter_eq_self.mpr fun _ _ => rfl
  | true =>
    refine List.filter_congr ?_
    intro entry _
    by_cases zero : entry.relevance = 0 <;> simp [zero]

theorem shown_eq_map (set : ResultSet) (matching : Bool) :
    set.shown matching =
      (if matching then set.ranked.filter (·.2 ≠ 0) else set.ranked).map fun e => ⟨e.1, e.2⟩ := by
  rw [shown_eq_ite, rankedEntries]
  cases matching with
  | false => rfl
  | true => exact List.filter_map

theorem toList_printLines (entries : List RankedEntry) :
    (printLines entries).toList = (entries.map (·.line)).flatMap fun line => line.toList ++ ['\n'] := by
  rw [printLines, String.toList_ofList, List.flatMap_map]

theorem printLines_append (front back : List RankedEntry) :
    printLines (front ++ back) = printLines front ++ printLines back := by
  rw [printLines, List.flatMap_append, String.ofList_append, printLines, printLines]

end ResultSet

end TermSearch
