import MakeLens.Text.Marks

/-! # Directions in domain names

  A domain name with letters that run from right to left is read one way only if each
  of its labels keeps to a direction: it starts with a letter, holds nothing of the
  other direction, and ends in a letter or a number.
-/

namespace MakeLens.Domain

/-- How a character takes part in the direction of a text. -/
inductive Direction where
  | leftToRight
  | rightToLeft
  | europeanNumber
  | arabicNumber
  /-- A mark has the direction of its base. -/
  | mark
  /-- Signs have the direction of the text around them. -/
  | neutral
  deriving DecidableEq, Repr

/-- The directions of the characters beyond ASCII that domain names may hold, apart from
    marks and from those that run from left to right, as ascending closed ranges of
    code points. -/
def directions : List (Nat × Nat × Direction) :=
  [(0xA1, 0xD7, .neutral), (0xF7, 0xF7, .neutral), (0x2B9, 0x2BA, .neutral),
   (0x2C2, 0x2CF, .neutral), (0x2D2, 0x2ED, .neutral), (0x2EF, 0x2FF, .neutral),
   (0x375, 0x375, .neutral), (0x3F6, 0x3F6, .neutral), (0x58A, 0x58F, .neutral),
   (0x5BE, 0x5F4, .rightToLeft), (0x606, 0x607, .neutral), (0x608, 0x608, .rightToLeft),
   (0x609, 0x60A, .neutral), (0x60B, 0x60B, .rightToLeft), (0x60C, 0x60C, .neutral),
   (0x60D, 0x60D, .rightToLeft), (0x60E, 0x60F, .neutral), (0x61B, 0x64A, .rightToLeft),
   (0x660, 0x669, .arabicNumber), (0x66A, 0x66A, .neutral), (0x66B, 0x66C, .arabicNumber),
   (0x66D, 0x6D5, .rightToLeft), (0x6DE, 0x6DE, .neutral), (0x6E5, 0x6E6, .rightToLeft),
   (0x6E9, 0x6E9, .neutral), (0x6EE, 0x6EF, .rightToLeft), (0x6F0, 0x6F9, .europeanNumber),
   (0x6FA, 0x7F5, .rightToLeft), (0x7F6, 0x7F9, .neutral), (0x7FA, 0x8C9, .rightToLeft),
   (0x9F2, 0x9F3, .neutral), (0x9FB, 0x9FB, .neutral), (0xAF1, 0xAF1, .neutral),
   (0xBF3, 0xBFA, .neutral), (0xC78, 0xC7E, .neutral), (0xE3F, 0xE3F, .neutral),
   (0xF3A, 0xF3D, .neutral), (0x1390, 0x1399, .neutral), (0x1400, 0x1400, .neutral),
   (0x169B, 0x169C, .neutral), (0x17DB, 0x17DB, .neutral), (0x17F0, 0x180A, .neutral),
   (0x1940, 0x1945, .neutral), (0x19DE, 0x19FF, .neutral), (0x1B4E, 0x1B4F, .neutral),
   (0x1B7F, 0x1B7F, .neutral), (0x200C, 0x214D, .neutral), (0x218A, 0x2335, .neutral),
   (0x237B, 0x2394, .neutral), (0x2396, 0x26AB, .neutral), (0x26AD, 0x27FF, .neutral),
   (0x2900, 0x2BFF, .neutral), (0x2CE5, 0x2CEA, .neutral), (0x2CF9, 0x2CFF, .neutral),
   (0x2E00, 0x3004, .neutral), (0x3008, 0x3020, .neutral), (0x3030, 0x3030, .neutral),
   (0x3037, 0x3037, .neutral), (0x303D, 0x303F, .neutral), (0x30A0, 0x30A0, .neutral),
   (0x30FB, 0x30FB, .neutral), (0x31C0, 0x31E5, .neutral), (0x4DC0, 0x4DFF, .neutral),
   (0xA490, 0xA4C6, .neutral), (0xA60D, 0xA60F, .neutral), (0xA673, 0xA67F, .neutral),
   (0xA700, 0xA721, .neutral), (0xA788, 0xA788, .neutral), (0xA828, 0xA82B, .neutral),
   (0xA838, 0xA839, .neutral), (0xA874, 0xA877, .neutral), (0xAB6A, 0xAB6B, .neutral),
   (0xFBB2, 0xFBC2, .rightToLeft), (0xFBC3, 0xFE46, .neutral), (0xFE73, 0xFE73, .rightToLeft),
   (0x10101, 0x10101, .neutral), (0x10140, 0x1018C, .neutral), (0x10190, 0x101A0, .neutral),
   (0x102E1, 0x102FB, .europeanNumber), (0x10800, 0x1091B, .rightToLeft),
   (0x1091F, 0x1091F, .neutral), (0x10920, 0x10B35, .rightToLeft), (0x10B39, 0x10B3F, .neutral),
   (0x10B40, 0x10D23, .rightToLeft), (0x10D30, 0x10D39, .arabicNumber),
   (0x10D40, 0x10D4F, .rightToLeft), (0x10D6E, 0x10D6E, .neutral),
   (0x10D6F, 0x10D8F, .rightToLeft), (0x10E60, 0x10E7E, .arabicNumber),
   (0x10E80, 0x10EC7, .rightToLeft), (0x10ED0, 0x10ED8, .neutral),
   (0x10F00, 0x10FF6, .rightToLeft), (0x11052, 0x11065, .neutral), (0x113D4, 0x113D8, .neutral),
   (0x11660, 0x1166C, .neutral), (0x11BE1, 0x11BE1, .neutral), (0x11FD5, 0x11FF1, .neutral),
   (0x16D6D, 0x16D6F, .neutral), (0x16FE2, 0x16FE2, .neutral), (0x1CC00, 0x1CEF0, .neutral),
   (0x1D1E9, 0x1D245, .neutral), (0x1D300, 0x1D356, .neutral), (0x1E2FF, 0x1E2FF, .neutral),
   (0x1E5FF, 0x1E5FF, .neutral), (0x1E800, 0x1ED3D, .rightToLeft), (0x1EEF0, 0x1F12F, .neutral),
   (0x1F16D, 0x1F16F, .neutral), (0x1F1AD, 0x1F1AD, .neutral), (0x1F260, 0x1FBFA, .neutral)]

/-- The marks without room of their own that still run from left to right. -/
def leftToRightMarks : List Nat := [0xCBF, 0xCC6, 0x11A07, 0x11A08, 0x11C3F]

/-- The mark with room of its own that has the direction of its base. -/
def spacedMark : Nat := 0x1171E

/-- The direction of a character. -/
def direction (c : Char) : Direction :=
  if c.toNat < 0x80 then
    if c.isDigit then .europeanNumber else if c.isAlpha then .leftToRight else .neutral
  else if leftToRightMarks.contains c.toNat then .leftToRight
  else if c.toNat = spacedMark ∨ isNonspacingMark c then .mark
  else match directions.find? fun r => r.1 ≤ c.toNat && c.toNat ≤ r.2.1 with
    | some (_, _, found) => found
    | none => .leftToRight

/-- Whether a text has letters or numbers that run from right to left. -/
def runsLeft (text : List Char) : Bool :=
  text.any fun c => direction c == .rightToLeft || direction c == .arabicNumber

/-- The direction of the last character that is no mark. -/
def lastDirection? (label : List Char) : Option Direction :=
  ((label.map direction).reverse.dropWhile (· == .mark)).head?

/-- Whether a label keeps to the direction of its first letter. A label from right to
    left has numbers of one kind only. -/
def keepsDirection (label : List Char) : Bool :=
  let all := label.map direction
  match all.head? with
  | none => true
  | some .leftToRight =>
    !all.contains .rightToLeft && !all.contains .arabicNumber &&
      [some .leftToRight, some .europeanNumber].contains (lastDirection? label)
  | some .rightToLeft =>
    !all.contains .leftToRight && !(all.contains .europeanNumber && all.contains .arabicNumber) &&
      [some .rightToLeft, some .europeanNumber, some .arabicNumber].contains
        (lastDirection? label)
  | some _ => false

end MakeLens.Domain
