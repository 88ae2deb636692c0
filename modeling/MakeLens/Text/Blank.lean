/-! # Blank characters

  A character is blank when it has the Unicode property `White_Space`. The
  whole library separates words, trims lines and delimits names by this one
  class.

  Text is handled as a list of characters, so every offset counts characters.
-/

namespace MakeLens

/-- The characters with the Unicode property `White_Space`. -/
def isBlank (c : Char) : Bool :=
  let n := c.toNat
  (0x09 ≤ n && n ≤ 0x0D) || n == 0x20 || n == 0x85 || n == 0xA0 || n == 0x1680 ||
  (0x2000 ≤ n && n ≤ 0x200A) || n == 0x2028 || n == 0x2029 || n == 0x202F ||
  n == 0x205F || n == 0x3000

/-- Drops the leading blanks. -/
def trimStart (text : List Char) : List Char :=
  text.dropWhile isBlank

/-- Drops the trailing blanks. -/
def trimEnd (text : List Char) : List Char :=
  (text.reverse.dropWhile isBlank).reverse

/-- The maximal runs of characters that are not blank, in order. -/
def words : List Char → List (List Char)
  | [] => []
  | c :: rest =>
    if isBlank c then words rest
    else match rest with
      | [] => [[c]]
      | d :: _ =>
        if isBlank d then [c] :: words rest
        else match words rest with
          | [] => [[c]]
          | w :: ws => (c :: w) :: ws

/-- Cuts a list at every occurrence of `separator`; there is one piece more
    than there are separators. -/
def pieces {α : Type} [DecidableEq α] (separator : α) : List α → List (List α)
  | [] => [[]]
  | a :: rest =>
    if a = separator then [] :: pieces separator rest
    else match pieces separator rest with
      | [] => [[a]]
      | p :: ps => (a :: p) :: ps

end MakeLens
