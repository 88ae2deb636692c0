/-! # UTF-8

  Decoding of bytes into characters, one byte at a time. A byte sequence that
  no character has is malformed; the longest start of a character that it
  holds counts as one malformed item. `decodeLossy` puts U+FFFD in the place of
  each malformed item, `decode?` refuses the text.
-/

namespace MakeLens.Utf8

/-- A character that has begun: the value so far, how many bytes it still
    needs, and the bounds of the next one. -/
structure Pending where
  value : Nat
  need : Nat
  low : UInt8
  high : UInt8

/-- What a byte sequence is made of: characters and malformed items. -/
inductive Item where
  | char (c : Char)
  | malformed

/-- The effect of a byte that starts a character: the item it completes, if
    any, and the character it leaves pending. -/
def start (b : UInt8) : List Item × Option Pending :=
  if b < 0x80 then ([.char (Char.ofNat b.toNat)], none)
  else if b < 0xC2 then ([.malformed], none)
  else if b < 0xE0 then ([], some ⟨b.toNat - 0xC0, 1, 0x80, 0xBF⟩)
  else if b == 0xE0 then ([], some ⟨0, 2, 0xA0, 0xBF⟩)
  else if b == 0xED then ([], some ⟨0xD, 2, 0x80, 0x9F⟩)
  else if b < 0xF0 then ([], some ⟨b.toNat - 0xE0, 2, 0x80, 0xBF⟩)
  else if b == 0xF0 then ([], some ⟨0, 3, 0x90, 0xBF⟩)
  else if b < 0xF4 then ([], some ⟨b.toNat - 0xF0, 3, 0x80, 0xBF⟩)
  else if b == 0xF4 then ([], some ⟨4, 3, 0x80, 0x8F⟩)
  else ([.malformed], none)

/-- The effect of one byte. A byte that cannot continue the pending character
    closes it as malformed and starts afresh. -/
def step (b : UInt8) : Option Pending → List Item × Option Pending
  | none => start b
  | some p =>
    if p.low ≤ b && b ≤ p.high then
      let value := p.value * 0x40 + (b.toNat - 0x80)
      if p.need ≤ 1 then ([.char (Char.ofNat value)], none)
      else ([], some ⟨value, p.need - 1, 0x80, 0xBF⟩)
    else
      let (items, next) := start b
      (.malformed :: items, next)

/-- The items of a byte sequence, after a pending character. -/
def itemsFrom (pending : Option Pending) : List UInt8 → List Item
  | [] => if pending.isSome then [.malformed] else []
  | b :: rest =>
    let (items, next) := step b pending
    items ++ itemsFrom next rest

/-- The items of a byte sequence. -/
def items (bytes : List UInt8) : List Item :=
  itemsFrom none bytes

/-- Decodes bytes, with U+FFFD in the place of each malformed item. -/
def decodeLossy (bytes : List UInt8) : List Char :=
  (items bytes).map fun
    | .char c => c
    | .malformed => '\uFFFD'

/-- Decodes bytes that hold no malformed item. -/
def decode? (bytes : List UInt8) : Option (List Char) :=
  (items bytes).mapM fun
    | .char c => some c
    | .malformed => none

/-- The bytes of a text. -/
def encode (text : String) : List UInt8 :=
  text.toUTF8.toList

end MakeLens.Utf8
