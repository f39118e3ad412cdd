/-!
# Texts

A text is a list of code points: the characters and, besides them, the surrogates, halves of a pair
that a document may name one by one. Texts are ordered by the numbers of their code points.
-/

namespace SqlConsole

/-- A code point: a character, or a surrogate by its place among the 2048 surrogates. -/
inductive CodePoint where
  | char (c : Char)
  | surrogate (place : Fin 2048)
  deriving DecidableEq, Repr

instance : Coe Char CodePoint := ⟨.char⟩

namespace CodePoint

def code : CodePoint → Nat
  | char c => c.toNat
  | surrogate place => 0xd800 + place.val

def ofCode (n : Nat) : CodePoint :=
  if h : n - 0xd800 < 2048 then
    if 0xd800 ≤ n then .surrogate ⟨n - 0xd800, h⟩ else .char (Char.ofNat n)
  else .char (Char.ofNat n)

def ofCode? (n : Nat) : Option CodePoint := if n < 0x110000 then some (ofCode n) else none

/-- The character that two surrogates stand for, if they are a pair. -/
def ofPair? (high low : Nat) : Option CodePoint :=
  if 0xd800 ≤ high ∧ high < 0xdc00 ∧ 0xdc00 ≤ low ∧ low < 0xe000 then
    some (.char (Char.ofNat (0x10000 + (high - 0xd800) * 0x400 + (low - 0xdc00))))
  else none

def isAsciiAlphanum : CodePoint → Bool
  | char c => c.isAlphanum
  | surrogate _ => false

end CodePoint

abbrev Text := List CodePoint

namespace Text

def ofString (s : String) : Text := s.toList.map .char

instance : Coe String Text := ⟨ofString⟩

/-- The string of a text. A string holds no surrogates; the replacement character stands for
each. -/
def string (t : Text) : String :=
  String.ofList (t.map fun
    | .char c => c
    | .surrogate _ => '\ufffd')

def compare : Text → Text → Ordering
  | [], [] => .eq
  | [], _ :: _ => .lt
  | _ :: _, [] => .gt
  | a :: as, b :: bs =>
    if a.code < b.code then .lt else if b.code < a.code then .gt else compare as bs

def cutAt (mark : CodePoint) : Text → List Text
  | [] => [[]]
  | c :: cs =>
    if c = mark then [] :: cutAt mark cs
    else
      match cutAt mark cs with
      | part :: parts => (c :: part) :: parts
      | [] => [[c]]

end Text

end SqlConsole
