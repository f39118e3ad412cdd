import SqlConsole.Text.Basic

/-!
# Texts as bytes

The forms in which bytes write a text (`Encoding.decode?`). The surrogates are written as any other
code point. A mark in front of the bytes tells the form; without a mark the zeros among the first
bytes do, as a document starts with characters of ASCII.
-/

namespace SqlConsole.Text

/-- Which byte of a unit comes first. -/
inductive ByteOrder where
  | high
  | low
  deriving DecidableEq, Repr

inductive Encoding where
  | utf8
  | utf16 (order : ByteOrder)
  | utf32 (order : ByteOrder)
  deriving DecidableEq, Repr

/-! ### Units of eight bits -/

def continuation? (b : UInt8) : Option Nat :=
  if 0x80 ≤ b ∧ b < 0xc0 then some (b.toNat - 0x80) else none

/-- What the first byte of a code point tells. -/
structure LeadByte where
  count : Nat
  /-- The bits of the code point in the first byte. -/
  bits : Nat
  least : Nat
  deriving DecidableEq, Repr

/-- What a byte tells if it is the first one of a code point. -/
def LeadByte.of? (b : UInt8) : Option LeadByte :=
  if b < 0x80 then some ⟨0, b.toNat, 0⟩
  else if 0xc0 ≤ b ∧ b < 0xe0 then some ⟨1, b.toNat - 0xc0, 0x80⟩
  else if 0xe0 ≤ b ∧ b < 0xf0 then some ⟨2, b.toNat - 0xe0, 0x800⟩
  else if 0xf0 ≤ b ∧ b < 0xf8 then some ⟨3, b.toNat - 0xf0, 0x10000⟩
  else none

def codePoint? (b : UInt8) (rest : List UInt8) : Option (CodePoint × Nat) := do
  let lead ← LeadByte.of? b
  let tail ← (rest.take lead.count).mapM continuation?
  let code := tail.foldl (fun code bits => 64 * code + bits) lead.bits
  if tail.length = lead.count ∧ lead.least ≤ code then return (← CodePoint.ofCode? code, lead.count)
  else none

def ofUtf8? : (skip : Nat) → List UInt8 → Option Text
  | _, [] => some []
  | skip + 1, _ :: rest => ofUtf8? skip rest
  | 0, b :: rest => do
    let (c, count) ← codePoint? b rest
    return c :: (← ofUtf8? count rest)

/-! ### Units of sixteen and of thirty-two bits -/

def ByteOrder.number : ByteOrder → List UInt8 → Nat
  | high, bytes => bytes.foldl (fun n b => 256 * n + b.toNat) 0
  | low, bytes => bytes.foldr (fun b n => 256 * n + b.toNat) 0

def units16? (order : ByteOrder) : List UInt8 → Option (List Nat)
  | [] => some []
  | a :: b :: rest => (units16? order rest).map (order.number [a, b] :: ·)
  | _ => none

def units32? (order : ByteOrder) : List UInt8 → Option (List Nat)
  | [] => some []
  | a :: b :: c :: d :: rest => (units32? order rest).map (order.number [a, b, c, d] :: ·)
  | _ => none

/-- The text of units of sixteen bits: two that form a pair are one character, and one without its
partner stands for itself. -/
def ofUnits16 : List Nat → Text
  | high :: low :: rest =>
    match CodePoint.ofPair? high low with
    | some c => c :: ofUnits16 rest
    | none => .ofCode high :: ofUnits16 (low :: rest)
  | units => units.map .ofCode

namespace Encoding

def decode? : Encoding → List UInt8 → Option Text
  | utf8, bytes => ofUtf8? 0 bytes
  | utf16 order, bytes => (units16? order bytes).map ofUnits16
  | utf32 order, bytes => (units32? order bytes).bind (·.mapM CodePoint.ofCode?)

/-! ### Telling the forms apart -/

def marks : List (List UInt8 × Encoding) := [
  ([0, 0, 0xfe, 0xff], utf32 .high), ([0xff, 0xfe, 0, 0], utf32 .low),
  ([0xfe, 0xff], utf16 .high), ([0xff, 0xfe], utf16 .low), ([0xef, 0xbb, 0xbf], utf8)]

/-- The form of a text without a mark, told from the zeros among the first bytes of a text that
starts with characters of ASCII. -/
def ofZeros : List UInt8 → Encoding
  | a :: b :: c :: d :: _ =>
    if a = 0 then if b = 0 then utf32 .high else utf16 .high
    else if b = 0 then if c = 0 ∧ d = 0 then utf32 .low else utf16 .low
    else utf8
  | [a, b] => if a = 0 then utf16 .high else if b = 0 then utf16 .low else utf8
  | _ => utf8

def detect (bytes : List UInt8) : Encoding × List UInt8 :=
  match marks.find? fun (mark, _) => mark.isPrefixOf bytes with
  | some (mark, encoding) => (encoding, bytes.drop mark.length)
  | none => (ofZeros bytes, bytes)

end Encoding

def ofBytes? (bytes : List UInt8) : Option Text :=
  let (encoding, bytes) := Encoding.detect bytes
  encoding.decode? bytes

end SqlConsole.Text
