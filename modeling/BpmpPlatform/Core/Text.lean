import Mathlib

/-! # Text as the source's standard library reads it

Blank tests, trimming and signed parsing follow the documented behaviour of
`str::trim`, `str::strip_prefix`, `str::strip_suffix` and `str::parse::<i64>`.
-/
namespace BpmpPlatform.Text

/-- The Unicode `White_Space` property, which `str::trim` removes. -/
def isWhitespace (c : Char) : Bool :=
  let n := c.toNat
  (9 ≤ n && n ≤ 13) || n == 0x20 || n == 0x85 || n == 0xA0 || n == 0x1680 ||
    (0x2000 ≤ n && n ≤ 0x200A) || n == 0x2028 || n == 0x2029 || n == 0x202F || n == 0x205F ||
    n == 0x3000

def trimStart (cs : List Char) : List Char := cs.dropWhile isWhitespace

def trimChars (cs : List Char) : List Char := (trimStart (trimStart cs).reverse).reverse

def trim (s : String) : String := String.ofList (trimChars s.toList)

/-- `value.trim().is_empty()`. -/
def isBlank (s : String) : Bool := s.toList.all isWhitespace

/-- `str::strip_prefix` with a constant pattern. -/
def stripLeading (pattern s : List Char) : Option (List Char) :=
  if pattern.isPrefixOf s then some (s.drop pattern.length) else none

/-- `str::strip_suffix` with a constant pattern. -/
def stripTrailing (pattern s : List Char) : Option (List Char) :=
  if pattern.isSuffixOf s then some (s.take (s.length - pattern.length)) else none

def digitsValue (cs : List Char) : Nat := cs.foldl (fun n c => n * 10 + (c.toNat - 48)) 0

/-- `str::parse::<i64>`: an optional sign and at least one decimal digit, in range. -/
def parseI64 (s : String) : Option Int64 :=
  let signed : Bool × List Char := match s.toList with
    | '-' :: rest => (true, rest)
    | '+' :: rest => (false, rest)
    | cs => (false, cs)
  if signed.2.isEmpty || !signed.2.all Char.isDigit then none
  else
    let magnitude : Int := digitsValue signed.2
    let value := if signed.1 then -magnitude else magnitude
    if Int64.minValue.toInt ≤ value && value ≤ Int64.maxValue.toInt then some (Int64.ofInt value)
    else none

/-- `str::parse` at an unsigned type: an optional plus sign and at least one decimal digit, in range. -/
def parseUnsigned (limit : Nat) (s : List Char) : Option Nat :=
  let digits := match s with
    | '+' :: rest => rest
    | cs => cs
  if digits.isEmpty || !digits.all Char.isDigit then none
  else if digitsValue digits ≤ limit then some (digitsValue digits)
  else none

/-- `str::split_once` with a single character. -/
def splitOnce (separator : Char) (s : List Char) : Option (List Char × List Char) :=
  match s.span (· != separator) with
  | (_, []) => none
  | (before, _ :: after) => some (before, after)

example : parseI64 "-12" = some (-12) := by decide
example : parseI64 "9223372036854775808" = none := by decide

end BpmpPlatform.Text
