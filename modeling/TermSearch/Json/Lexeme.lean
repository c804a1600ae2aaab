import TermSearch.Json.Numeral

/-!
Text is read once, character by character. What was read of a string, a number or a word goes into
its lexeme, a fault included, because whether a fault counts depends on what the reader of the
lexemes asks for. After a fault that no reader can pass, the list ends.
-/

namespace TermSearch.Json

inductive Lexeme where
  | openBrace
  | closeBrace
  | openBracket
  | closeBracket
  | colon
  | comma
  | word (read : Except Fault Unit)
  | number (read : Except Fault Numeral)
  /-- The text of a string, and whether the string can be passed over when its text is not kept. -/
  | string (kept : Except Fault String) (skipped : Except Fault Unit)
  | stray

/-- The fault of a lexeme found where a value of another kind is asked for. A word, a number or a
string is read to its end first. -/
def Lexeme.fault : Lexeme → Fault
  | .word (.error fault) | .number (.error fault) | .string (.error fault) _ => fault
  | .number (.ok n) => n.fault
  | .word (.ok _) | .string (.ok _) _ | .openBrace | .openBracket => .mismatch
  | .closeBrace | .closeBracket | .colon | .comma | .stray => .grammar

def hexDigit? (c : Char) : Option Nat :=
  if '0' ≤ c ∧ c ≤ '9' then some (c.toNat - '0'.toNat)
  else if 'a' ≤ c ∧ c ≤ 'f' then some (c.toNat - 'a'.toNat + 10)
  else if 'A' ≤ c ∧ c ≤ 'F' then some (c.toNat - 'A'.toNat + 10)
  else none

def escaped? : Char → Option Char
  | '"' => some '"'
  | '\\' => some '\\'
  | '/' => some '/'
  | 'b' => some '\x08'
  | 'f' => some '\x0c'
  | 'n' => some '\n'
  | 'r' => some '\r'
  | 't' => some '\t'
  | _ => none

inductive Place where
  | plain
  | afterBackslash
  /-- After a backslash and `u`: the bytes read since, and their value if they are hex digits. -/
  | hex (bytes : Nat) (value : Option Nat)
deriving DecidableEq, Repr

structure Quote where
  place : Place := .plain
  /-- The text so far, last character first. -/
  kept : Except Fault (List Char) := .ok []
  /-- The first half of a surrogate pair, when its second half must come next. -/
  half : Option Nat := none

namespace Quote

def fail (q : Quote) : Quote := { q with place := .plain, kept := .error .grammar, half := none }

def push (q : Quote) (c : Char) : Quote :=
  if q.half.isSome then q.fail else { q with place := .plain, kept := q.kept.map (c :: ·) }

def pushUnit (q : Quote) (unit : Nat) : Quote :=
  let second := 0xDC00 ≤ unit ∧ unit ≤ 0xDFFF
  match q.half with
  | some first =>
    if second then
      { q with
        place := .plain
        kept := q.kept.map (Char.ofNat (0x10000 + (first - 0xD800) * 0x400 + (unit - 0xDC00)) :: ·)
        half := none }
    else q.fail
  | none =>
    if second then q.fail
    else if 0xD800 ≤ unit ∧ unit ≤ 0xDBFF then { q with place := .plain, half := some unit }
    else q.push (Char.ofNat unit)

def close (q : Quote) : Lexeme :=
  .string (if q.half.isSome then .error .grammar else q.kept.map fun cs => .ofList cs.reverse) (.ok ())

def cut (q : Quote) : Lexeme := .string (q.kept.bind fun _ => .error .truncated) (.error .truncated)

def broken : Lexeme := .string (.error .grammar) (.error .grammar)

end Quote

inductive Mode where
  | between
  | quote (q : Quote)
  | numeral (n : Numeral)
  | word (rest : List Char)

structure Scan where
  done : List Lexeme := []
  mode : Option Mode := some .between

namespace Scan

def start (done : List Lexeme) (c : Char) : Scan :=
  let single (lexeme : Lexeme) : Scan := { done := lexeme :: done }
  match c with
  | ' ' | '\n' | '\t' | '\r' => { done }
  | '\x7b' => single .openBrace
  | '\x7d' => single .closeBrace
  | '[' => single .openBracket
  | ']' => single .closeBracket
  | ':' => single .colon
  | ',' => single .comma
  | '"' => { done, mode := some (.quote {}) }
  | 'n' => { done, mode := some (.word "ull".toList) }
  | 't' => { done, mode := some (.word "rue".toList) }
  | 'f' => { done, mode := some (.word "alse".toList) }
  | '-' => { done, mode := some (.numeral { negative := true }) }
  | _ =>
    match digit? c with
    | some d => { done, mode := some (.numeral { whole := [d] }) }
    | none => { done := .stray :: done, mode := none }

def quoteStep (done : List Lexeme) (q : Quote) (c : Char) : Scan :=
  let stop : Scan := { done := Quote.broken :: done, mode := none }
  let go (q : Quote) : Scan := { done, mode := some (.quote q) }
  match q.place with
  | .plain =>
    if c = '"' then { done := q.close :: done }
    else if c = '\\' then go { q with place := .afterBackslash }
    else if c < ' ' then stop
    else go (q.push c)
  | .afterBackslash =>
    if c = 'u' then go { q with place := .hex 0 (some 0) }
    else match escaped? c with
      | some c => go (q.push c)
      | none => stop
  | .hex bytes value =>
    let bytes := bytes + c.utf8Size
    let value := value.bind fun v => (hexDigit? c).map (16 * v + ·)
    if bytes < 4 then go { q with place := .hex bytes value }
    else match value with
      | some unit => go (q.pushUnit unit)
      | none => stop

def numeralStep (done : List Lexeme) (n : Numeral) (c : Char) : Scan :=
  match n.push? c with
  | some n => { done, mode := some (.numeral n) }
  | none =>
    if n.complete ∧ ¬ (n.loneZero ∧ (digit? c).isSome) then start (.number (.ok n) :: done) c
    else { done := .number (.error .grammar) :: done, mode := none }

def wordStep (done : List Lexeme) (rest : List Char) (c : Char) : Scan :=
  if rest.head? = some c then
    if rest.tail = [] then { done := .word (.ok ()) :: done }
    else { done, mode := some (.word rest.tail) }
  else { done := .word (.error .grammar) :: done, mode := none }

def step (scan : Scan) (c : Char) : Scan :=
  match scan.mode with
  | none => scan
  | some .between => start scan.done c
  | some (.quote q) => quoteStep scan.done q c
  | some (.numeral n) => numeralStep scan.done n c
  | some (.word rest) => wordStep scan.done rest c

def finish (scan : Scan) : List Lexeme :=
  let last : List Lexeme :=
    match scan.mode with
    | none | some .between => []
    | some (.quote q) => [q.cut]
    | some (.numeral n) => [.number (if n.complete then .ok n else .error .truncated)]
    | some (.word _) => [.word (.error .truncated)]
  (last ++ scan.done).reverse

end Scan

def lexemes (text : List Char) : List Lexeme := (text.foldl Scan.step {}).finish

end TermSearch.Json
