import SqlConsole.Text.Digit
import SqlConsole.Text.Encoding

/-!
# Percent signs

In an address a character may be given by the bytes of its UTF-8 form, each in two hexadecimal
digits after a percent sign. Bytes that write no character are kept as they are written.
-/

namespace SqlConsole.Http

inductive Piece where
  | plain (c : CodePoint)
  | byte (b : UInt8)
  deriving DecidableEq

/-- The pieces of a text. A percent sign without two digits stands for itself. -/
def piecesOf : Text → List Piece
  | .char '%' :: a :: b :: rest =>
    match a.hexDigitValue?, b.hexDigitValue? with
    | some high, some low => .byte (UInt8.ofNat (16 * high + low)) :: piecesOf rest
    | _, _ => .plain '%' :: piecesOf (a :: b :: rest)
  | c :: rest => .plain c :: piecesOf rest
  | [] => []

def leadingBytes : List Piece → List UInt8
  | .byte b :: rest => b :: leadingBytes rest
  | _ => []

def writtenByte (b : UInt8) : Text :=
  ['%', (Nat.digitChar (b.toNat / 16)).toUpper, (Nat.digitChar (b.toNat % 16)).toUpper]

/-- The text of pieces, after `skip` bytes that belong to the last character. No character has more
than three bytes after its first one. -/
def joinPieces : (skip : Nat) → List Piece → Text
  | _, [] => []
  | skip + 1, _ :: rest => joinPieces skip rest
  | 0, .plain c :: rest => c :: joinPieces 0 rest
  | 0, .byte b :: rest =>
    match Text.codePoint? b (leadingBytes (rest.take 3)) with
    | some (.char c, count) => c :: joinPieces count rest
    | _ => writtenByte b ++ joinPieces 0 rest

def decode (t : Text) : Text := joinPieces 0 (piecesOf t)

end SqlConsole.Http
