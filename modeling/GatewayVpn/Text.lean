import Mathlib

/-!
# Text, bytes and times

The pieces of the Go standard library that both engines use on their identifiers, digests and
timestamps, written over lists of characters so that they can be evaluated.
-/

namespace GatewayVpn

/-! ## strings -/

/-- `unicode.IsSpace` -/
def isSpace (c : Char) : Bool :=
  c = '\t' || c = '\n' || c = '\x0b' || c = '\x0c' || c = '\r' || c = ' ' ||
    c.toNat = 0x85 || c.toNat = 0xa0 || c.toNat = 0x1680 ||
    (0x2000 ≤ c.toNat && c.toNat ≤ 0x200a) || c.toNat = 0x2028 || c.toNat = 0x2029 ||
    c.toNat = 0x202f || c.toNat = 0x205f || c.toNat = 0x3000

/-- `strings.TrimSpace` -/
def trimSpace (s : String) : String :=
  String.ofList (((s.toList.dropWhile isSpace).reverse.dropWhile isSpace).reverse)

def byteLength (s : String) : Nat := (s.toList.map Char.utf8Size).sum

def isLower (c : Char) : Bool := 'a' ≤ c && c ≤ 'z'
def isUpper (c : Char) : Bool := 'A' ≤ c && c ≤ 'Z'
def isDigit (c : Char) : Bool := '0' ≤ c && c ≤ '9'

/-- a rune in `strconv.Quote`; beyond ASCII only the control characters are not printable -/
def quoteRune (c : Char) : List Char :=
  let hex := [Nat.digitChar (c.toNat / 16), Nat.digitChar (c.toNat % 16)]
  match [('\x07', 'a'), ('\x08', 'b'), ('\t', 't'), ('\n', 'n'), ('\x0b', 'v'), ('\x0c', 'f'),
      ('\r', 'r'), ('\x22', '\x22'), ('\\', '\\')].lookup c with
  | some escaped => ['\\', escaped]
  | none =>
    if c.toNat < 0x20 || c.toNat = 0x7f then '\\' :: 'x' :: hex
    else if 0x80 ≤ c.toNat && c.toNat < 0xa0 then '\\' :: 'u' :: '0' :: '0' :: hex
    else [c]

/-- `%q` -/
def quote (s : String) : String :=
  String.ofList ('\x22' :: s.toList.flatMap quoteRune ++ ['\x22'])

/-- the common shape of the identifier checks: not empty, bounded, and every character allowed -/
def charset (limit : Nat) (allowed : Char → Bool) (s : String) : Bool :=
  s ≠ "" && byteLength s ≤ limit && s.toList.all allowed

def lexLess : List Char → List Char → Bool
  | [], [] => false
  | [], _ :: _ => true
  | _ :: _, [] => false
  | c :: cs, d :: ds => c < d || (c = d && lexLess cs ds)

/-- `strings.SplitN(_, sep, 2)`: what stands before the first `sep`, and after it if there is one -/
def cut (sep : Char) : List Char → List Char × Option (List Char)
  | [] => ([], none)
  | c :: cs => if c = sep then ([], some cs) else (c :: (cut sep cs).1, (cut sep cs).2)

/-- `strings.Split(_, sep)` -/
def fields (sep : Char) : List Char → List (List Char)
  | [] => [[]]
  | c :: cs =>
    if c = sep then [] :: fields sep cs
    else match fields sep cs with
      | [] => [[c]]
      | field :: rest => (c :: field) :: rest

/-! ## patterns of a fixed length -/

/-- a regular expression without repetition or choice: one class for each character -/
def fixed : List (Char → Bool) → List Char → Bool
  | [], [] => true
  | p :: ps, c :: cs => p c && fixed ps cs
  | _, _ => false

def literally (s : String) : List (Char → Bool) := s.toList.map fun c d => c = d

def isLowerHex (c : Char) : Bool := isDigit c || ('a' ≤ c && c ≤ 'f')

/-! ## `encoding/hex` -/

def hexDigit (n : Nat) : Char :=
  "0123456789abcdef".toList.getD n '0'

def hexEncode (bytes : List UInt8) : String :=
  String.ofList (bytes.flatMap fun b => [hexDigit (b.toNat / 16), hexDigit (b.toNat % 16)])

def hexValue (c : Char) : Option Nat :=
  if isDigit c then some (c.toNat - '0'.toNat)
  else if 'a' ≤ c ∧ c ≤ 'f' then some (c.toNat - 'a'.toNat + 10)
  else if 'A' ≤ c ∧ c ≤ 'F' then some (c.toNat - 'A'.toNat + 10)
  else none

def hexDecodeChars : List Char → Option (List UInt8)
  | [] => some []
  | [_] => none
  | hi :: lo :: rest => do
    let h ← hexValue hi
    let l ← hexValue lo
    let tail ← hexDecodeChars rest
    return UInt8.ofNat (16 * h + l) :: tail

def hexDecode (s : String) : Option (List UInt8) := hexDecodeChars s.toList

/-! ## times -/

abbrev Time := Int

def second : Time := 1000000000

/-- the zero `time.Time`, the first instant of the year 1 -/
def zeroTime : Time := -62135596800 * second

/-- a text that should hold an RFC 3339 time: the canonical text of an instant, or anything else -/
inductive Stamp where
  | format (t : Time)
  | malformed (s : String)
  deriving DecidableEq

/-- `time.Parse(time.RFC3339Nano, _)` -/
def Stamp.parse : Stamp → Option Time
  | .format t => some t
  | .malformed _ => none

@[simp] theorem Stamp.parse_format (t : Time) : (Stamp.format t).parse = some t := rfl

end GatewayVpn
