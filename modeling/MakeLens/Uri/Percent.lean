import MakeLens.Json.Reader
import MakeLens.Text.Utf8

/-! # Percent encoding

  Bytes that a part of a URI cannot hold are written as `%` and two hexadecimal
  digits. Which bytes those are depends on the part; controls and bytes beyond ASCII
  are never held as they are.
-/

namespace MakeLens.Uri

/-- Whether a byte is a control or lies beyond ASCII. -/
def isControlByte (b : UInt8) : Bool :=
  b < 0x20 || 0x7E < b

/-- A set of ASCII characters as bytes. -/
def inBytes (set : List Char) (b : UInt8) : Bool :=
  set.any fun c => c.toNat == b.toNat

/-- What a fragment cannot hold. -/
def fragmentSet : List Char := [' ', '"', '<', '>', '`']

/-- What a path cannot hold. -/
def pathSet : List Char := fragmentSet ++ ['#', '?', '\x7b', '\x7d']

/-- What the name of a directory or file in a path cannot hold. -/
def nameSet : List Char := pathSet ++ ['/', '%', '\\']

/-- What user information cannot hold. -/
def userSet : List Char := pathSet ++ ['/', ':', ';', '=', '@', '[', '\\', ']', '^', '|']

/-- What a query cannot hold. -/
def querySet (special : Bool) : List Char :=
  [' ', '"', '#', '<', '>'] ++ if special then ['\''] else []

/-- An upper-case hexadecimal digit. -/
def upperHex (n : Nat) : Char :=
  if n < 10 then Char.ofNat (n + '0'.toNat) else Char.ofNat (n - 10 + 'A'.toNat)

/-- Writes bytes, encoding controls and the characters of `set`. -/
def encodeBytes (set : List Char) (bytes : List UInt8) : List Char :=
  bytes.flatMap fun b =>
    if isControlByte b || inBytes set b then
      ['%', upperHex (b.toNat / 16), upperHex (b.toNat % 16)]
    else [Char.ofNat b.toNat]

/-- Writes a text, encoding controls, the characters beyond ASCII and those of
    `set`. -/
def encodeText (set : List Char) (text : List Char) : List Char :=
  encodeBytes set (Utf8.encode (String.ofList text))

/-- The bytes of a text after decoding. A `%` without two digits stands for itself. -/
def decodeBytes : List UInt8 → List UInt8
  | [] => []
  | a :: b :: c :: rest =>
    if a == 0x25 then
      match Json.hexValue? (Char.ofNat b.toNat), Json.hexValue? (Char.ofNat c.toNat) with
      | some high, some low => UInt8.ofNat (high * 16 + low) :: decodeBytes rest
      | _, _ => a :: decodeBytes (b :: c :: rest)
    else a :: decodeBytes (b :: c :: rest)
  | a :: rest => a :: decodeBytes rest

end MakeLens.Uri
