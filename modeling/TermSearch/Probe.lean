import TermSearch.Query

/-! Probes run the program on arbitrary input and check what must hold of every answer. -/

namespace TermSearch

namespace Utf8

structure Pending where
  missing : Nat
  low : Nat := 0x80
  high : Nat := 0xBF
  bits : Nat
deriving DecidableEq, Repr

/-- The characters so far, last one first, and the one that is being read. Bytes that turn out to be
no character are replaced as one, up to the byte that does not fit. -/
structure Decoding where
  done : List Char := []
  pending : Option Pending := none

def replacement : Char := '\ufffd'

def Decoding.start (done : List Char) (byte : Nat) : Decoding :=
  let lead (missing bits : Nat) (low : Nat) (high : Nat) : Decoding :=
    { done, pending := some { missing, low, high, bits } }
  if byte < 0x80 then { done := Char.ofNat byte :: done }
  else if byte < 0xC2 then { done := replacement :: done }
  else if byte < 0xE0 then lead 1 (byte - 0xC0) 0x80 0xBF
  else if byte < 0xF0 then
    lead 2 (byte - 0xE0) (if byte = 0xE0 then 0xA0 else 0x80) (if byte = 0xED then 0x9F else 0xBF)
  else if byte < 0xF5 then
    lead 3 (byte - 0xF0) (if byte = 0xF0 then 0x90 else 0x80) (if byte = 0xF4 then 0x8F else 0xBF)
  else { done := replacement :: done }

def Decoding.step (d : Decoding) (byte : Nat) : Decoding :=
  match d.pending with
  | none => start d.done byte
  | some p =>
    if p.low ≤ byte ∧ byte ≤ p.high then
      let bits := p.bits * 64 + (byte - 0x80)
      if p.missing = 1 then { done := Char.ofNat bits :: d.done }
      else { d with pending := some { missing := p.missing - 1, bits } }
    else start (replacement :: d.done) byte

def Decoding.run (d : Decoding) (bytes : List UInt8) : Decoding :=
  bytes.foldl (fun d byte => d.step byte.toNat) d

def decodeLossy (bytes : List UInt8) : List Char :=
  let d := Decoding.run {} bytes
  (if d.pending.isSome then replacement :: d.done else d.done).reverse

end Utf8

namespace Probe

/-- A small index in which operators and exclusions occur as terms. -/
def index : Index :=
  .ofRows [
    ("cat", [("docA", 2), ("docB", 1)]),
    ("dog", [("docA", 3), ("docC", 2)]),
    ("bird", [("docC", 5)]),
    ("-dog", [("docD", 9)]),
    ("AND", [("docE", 1)])]

def tokens (bytes : List UInt8) : List String := (split ' ' (Utf8.decodeLossy bytes)).take 64

def nonDescending : List Relevance → Bool
  | a :: b :: rest => a ≤ b && nonDescending (b :: rest)
  | _ => true

def searchHolds (plan : Plan) (results : ResultSet) : Bool :=
  (plan.exclusions.all fun term => (index.counts term).matching.all fun e => !results.contains e.1) &&
    nonDescending (results.ranked.map (·.2))

def search (tokens : List String) : Query.Outcome Unit :=
  Query.run (.ofIndex index) Scoring.sum.combine tokens ()

/-- Reading the tokens and searching for them agree on whether there is anything to search for. -/
def searchAgrees (tokens : List String) : Bool :=
  match Plan.parse tokens, (search tokens).answer with
  | .ok plan, .ok results => searchHolds plan results
  | .error _, .error .noValidTerm => true
  | _, _ => false

/-- At most 32 entries, for 16 documents. -/
def operand (entries : List (Nat × Relevance)) : ResultSet :=
  .ofList ((entries.take 32).map fun entry => (s!"doc{entry.1 % 16}", entry.2))

def unionHolds (left right : ResultSet) (combine : Combiner) : Bool :=
  (left.union right combine).size == (left.documents ++ right.documents).eraseDups.length

def intersectHolds (left right : ResultSet) (combine : Combiner) : Bool :=
  let both := left.intersect right combine
  both.documents == left.documents &&
    both.entries.all fun e => e.2 == 0 || (left.relevance e.1 != 0 && right.relevance e.1 != 0)

def differenceHolds (left right : ResultSet) : Bool :=
  (left.difference right).entries.all fun e => right.relevance e.1 == 0 && e.2 == left.relevance e.1

def algebraHolds (left right : ResultSet) (combine : Combiner) : Bool :=
  unionHolds left right combine && intersectHolds left right combine && differenceHolds left right

end Probe

end TermSearch
