namespace TermSearch.Json

inductive Sign where
  | plus
  | minus
deriving DecidableEq

structure Exponent where
  sign : Option Sign := none
  digits : List (Fin 10)
  nonempty : digits ≠ [] := by simp
deriving DecidableEq

/-- A number as it is written: a sign, the whole part, the digits of the fraction, a power of ten. -/
structure Number where
  negative : Bool := false
  whole : Nat
  fraction : List (Fin 10) := []
  power : Option Exponent := none
deriving DecidableEq

inductive Value where
  | null
  | bool (b : Bool)
  | number (n : Number)
  | string (s : String)
  | array (items : List Value)
  | object (members : List (String × Value))

def Number.ofNat (n : Nat) : Number := { whole := n }

def Value.ofNat (n : Nat) : Value := .number (.ofNat n)

def hexDigit (n : Nat) : Char := if n < 10 then .ofNat ('0'.toNat + n) else .ofNat ('a'.toNat + (n - 10))

/-- Quotes, backslashes and the characters below the blank are escaped, all others stand raw. -/
def escape (c : Char) : List Char :=
  match c with
  | '"' => ['\\', '"']
  | '\\' => ['\\', '\\']
  | '\x08' => ['\\', 'b']
  | '\x0c' => ['\\', 'f']
  | '\n' => ['\\', 'n']
  | '\r' => ['\\', 'r']
  | '\t' => ['\\', 't']
  | _ => if c < ' ' then ['\\', 'u', '0', '0', hexDigit (c.toNat / 16), hexDigit (c.toNat % 16)] else [c]

def quoted (s : String) : List Char := '"' :: s.toList.flatMap escape ++ ['"']

def digitChars (digits : List (Fin 10)) : List Char := digits.map fun d => Nat.digitChar d.val

def Sign.text : Sign → Char
  | .plus => '+'
  | .minus => '-'

def Exponent.text (e : Exponent) : List Char :=
  'e' :: (e.sign.map Sign.text).toList ++ digitChars e.digits

def Number.text (n : Number) : List Char :=
  (if n.negative then ['-'] else []) ++ Nat.toDigits 10 n.whole ++
    (if n.fraction = [] then [] else '.' :: digitChars n.fraction) ++
    (n.power.map Exponent.text).getD []

/-- Everything on one line, or lines with a number of brackets around the current one. -/
abbrev Layout := Option Nat

def Layout.inner (layout : Layout) : Layout := layout.map (· + 1)

def Layout.newLine : Layout → List Char
  | none => []
  | some depth => '\n' :: List.replicate (2 * depth) ' '

def Layout.colon : Layout → List Char
  | none => [':']
  | some _ => [':', ' ']

namespace Value

mutual

def write (layout : Layout) : Value → List Char
  | .null => "null".toList
  | .bool b => (if b then "true" else "false").toList
  | .number n => n.text
  | .string s => quoted s
  | .array [] => ['[', ']']
  | .array (item :: items) =>
    '[' :: layout.inner.newLine ++ write layout.inner item ++ writeItems layout.inner items ++
      layout.newLine ++ [']']
  | .object [] => ['\x7b', '\x7d']
  | .object ((key, value) :: members) =>
    '\x7b' :: layout.inner.newLine ++ quoted key ++ layout.colon ++ write layout.inner value ++
      writeMembers layout.inner members ++ layout.newLine ++ ['\x7d']

def writeItems (layout : Layout) : List Value → List Char
  | [] => []
  | item :: items => ',' :: layout.newLine ++ write layout item ++ writeItems layout items

def writeMembers (layout : Layout) : List (String × Value) → List Char
  | [] => []
  | (key, value) :: members =>
    ',' :: layout.newLine ++ quoted key ++ layout.colon ++ write layout value ++
      writeMembers layout members

end

def compact (value : Value) : String := .ofList (value.write none)

def pretty (value : Value) : String := .ofList (value.write (some 0))

end Value

end TermSearch.Json
