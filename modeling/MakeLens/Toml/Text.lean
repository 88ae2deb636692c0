import MakeLens.Json.Reader

/-! # TOML strings

  The four kinds of string: basic ones with escapes and literal ones without, each on
  one line or on several. Every function reads what follows the opening quotes and
  gives the rest of the text back.
-/

namespace MakeLens.Toml

/-- Whether a character may stand in a string or a comment: no control but the tab. -/
def isPlainChar (c : Char) : Bool :=
  c == '\t' || (0x20 ≤ c.toNat && c.toNat != 0x7F)

/-- The character with a code point, if there is one. -/
def scalarChar? (n : Nat) : Option Char :=
  if n < 0xD800 ∨ (0xE000 ≤ n ∧ n < 0x110000) then some (Char.ofNat n) else none

/-- The character of an escape given by `count` hexadecimal digits. -/
def hexEscape? (count : Nat) (text : List Char) : Option (Char × List Char) := do
  let digits := text.take count
  if digits.length = count then
    let c ← (Json.hexNumber? digits).bind scalarChar?
    some (c, text.drop count)
  else none

/-- The character of an escape after its backslash. -/
def escape? : List Char → Option (Char × List Char)
  | [] => none
  | c :: rest =>
    if c = 'b' then some ('\x08', rest)
    else if c = 't' then some ('\t', rest)
    else if c = 'n' then some ('\n', rest)
    else if c = 'f' then some ('\x0C', rest)
    else if c = 'r' then some ('\r', rest)
    else if c = 'e' then some ('\x1B', rest)
    else if c = '"' then some ('"', rest)
    else if c = '\\' then some ('\\', rest)
    else if c = 'x' then hexEscape? 2 rest
    else if c = 'u' then hexEscape? 4 rest
    else if c = 'U' then hexEscape? 8 rest
    else none

/-- The rest of a basic string, at most `room` characters long. -/
def basicString? : (room : Nat) → List Char → Option (List Char × List Char)
  | 0, _ => none
  | _, [] => none
  | room + 1, c :: rest =>
    if c = '"' then some ([], rest)
    else if c = '\\' then do
      let (d, rest) ← escape? rest
      let (text, after) ← basicString? room rest
      some (d :: text, after)
    else if isPlainChar c then do
      let (text, after) ← basicString? room rest
      some (c :: text, after)
    else none

/-- The rest of a literal string. -/
def literalString? (text : List Char) : Option (List Char × List Char) :=
  let content := text.takeWhile (· != '\'')
  match text.dropWhile (· != '\'') with
  | _ :: rest => if content.all isPlainChar then some (content, rest) else none
  | [] => none

/-- A text without a line break at its start. -/
def dropBreak : List Char → List Char
  | '\n' :: rest => rest
  | '\r' :: '\n' :: rest => rest
  | rest => rest

/-- The closing quotes of a string on several lines: three of them, with up to two
    more before them that belong to the string. -/
def closing? (quote : Char) (text : List Char) : Option (List Char × List Char) :=
  let run := (text.takeWhile (· == quote)).length
  if run < 3 then none
  else
    let kept := min (run - 3) 2
    some (List.replicate kept quote, text.drop (kept + 3))

/-- What a backslash at the end of a line leaves of the text after it: all blanks and
    line breaks up to the next character are dropped. -/
def afterLineEnd? (text : List Char) : Option (List Char) :=
  let isGap (c : Char) : Bool := c == ' ' || c == '\t'
  match text.dropWhile isGap with
  | '\n' :: rest => some (rest.dropWhile fun c => isGap c || c == '\n' || c == '\r')
  | '\r' :: '\n' :: rest => some (rest.dropWhile fun c => isGap c || c == '\n' || c == '\r')
  | _ => none

/-- The rest of a basic string on several lines, at most `room` characters long. -/
def basicLines? : (room : Nat) → List Char → Option (List Char × List Char)
  | 0, _ => none
  | _, [] => none
  | room + 1, c :: rest =>
    match closing? '"' (c :: rest) with
    | some found => some found
    | none =>
      if c = '\\' then
        match afterLineEnd? rest with
        | some rest => basicLines? room rest
        | none => do
          let (d, rest) ← escape? rest
          let (text, after) ← basicLines? room rest
          some (d :: text, after)
      else if c = '\r' ∧ rest.head? ≠ some '\n' then none
      else if c = '\r' ∨ c = '\n' ∨ isPlainChar c then
        (basicLines? room rest).map fun (text, after) => (c :: text, after)
      else none

/-- The rest of a literal string on several lines. -/
def literalLines? : List Char → Option (List Char × List Char)
  | [] => none
  | c :: rest =>
    match closing? '\'' (c :: rest) with
    | some found => some found
    | none =>
      if c = '\r' ∧ rest.head? ≠ some '\n' then none
      else if c = '\r' ∨ c = '\n' ∨ isPlainChar c then
        (literalLines? rest).map fun (text, after) => (c :: text, after)
      else none

end MakeLens.Toml
