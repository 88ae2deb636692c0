import MakeLens.Toml.Scalar
import MakeLens.Toml.Text

/-! # Reading TOML

  A document is read line by line: comments, headers and keys with values. The nesting
  of arrays and inline tables and the parts of a key are bounded; everything else is
  bounded by the length of the text.
-/

namespace MakeLens.Toml

/-! ### Gaps -/

/-- Drops blanks on a line. -/
def skipGap (text : List Char) : List Char :=
  text.dropWhile fun c => c == ' ' || c == '\t'

/-- A text after a comment, when it starts with one. -/
def skipComment? : List Char → Option (List Char)
  | '#' :: rest =>
    let body := rest.takeWhile (· != '\n')
    let body := if body.getLast? = some '\r' ∧ (rest.dropWhile (· != '\n')) ≠ [] then
      body.dropLast else body
    if body.all isPlainChar then some (rest.drop body.length) else none
  | rest => some rest

/-- The text after the end of a line: a gap, perhaps a comment, then a line break or
    the end of the document. -/
def lineEnd? (text : List Char) : Option (List Char) := do
  match ← skipComment? (skipGap text) with
  | [] => some []
  | '\n' :: rest => some rest
  | '\r' :: '\n' :: rest => some rest
  | _ => none

/-- Drops blanks, comments and line breaks, in at most `room` steps. -/
def skipLines? : (room : Nat) → List Char → Option (List Char)
  | 0, text => some text
  | room + 1, text => do
    match ← skipComment? (skipGap text) with
    | '\n' :: rest => skipLines? room rest
    | '\r' :: '\n' :: rest => skipLines? room rest
    | rest => some rest

/-! ### Keys -/

/-- Whether a character may stand in a key without quotes. -/
def isBareKeyChar (c : Char) : Bool :=
  c.isAlphanum || c == '_' || c == '-'

/-- One part of a key. -/
def keyPart? (text : List Char) : Option (String × List Char) :=
  match text with
  | '"' :: rest =>
    (basicString? (rest.length + 1) rest).map fun (key, rest) => (String.ofList key, rest)
  | '\'' :: rest => (literalString? rest).map fun (key, rest) => (String.ofList key, rest)
  | _ =>
    let key := text.takeWhile isBareKeyChar
    if key = [] then none else some (String.ofList key, text.dropWhile isBareKeyChar)

/-- A key of at most `room` parts with the gap after it: the parts before the last,
    and the last. -/
def parts? : (room : Nat) → List Char → Option ((List String × String) × List Char)
  | 0, _ => none
  | room + 1, text => do
    let (part, rest) ← keyPart? (skipGap text)
    match skipGap rest with
    | '.' :: rest =>
      let ((parts, last), rest) ← parts? room rest
      some ((part :: parts, last), rest)
    | rest => some (([], part), rest)

/-- How deep arrays and inline tables may nest, and how many parts a key may have. -/
def maxLevels : Nat := 80

/-- A key with the gap after it: the parts before the last, and the last. -/
def key? (text : List Char) : Option ((List String × String) × List Char) :=
  parts? maxLevels text

/-! ### Values -/

/-- Whether a character may stand in a word. -/
def isWordPart (c : Char) : Bool :=
  c.isAlphanum || c == '+' || c == '-' || c == '_' || c == '.' || c == ':'

/-- A word and the text after it. A blank may part a date from its time. -/
def readWord (text : List Char) : List Char × List Char :=
  let word := text.takeWhile isWordPart
  let rest := text.dropWhile isWordPart
  match rest with
  | ' ' :: a :: b :: ':' :: _ =>
    if (date? word).any (fun d => d.2 = []) ∧ a.isDigit ∧ b.isDigit then
      (word ++ ' ' :: (rest.drop 1).takeWhile isWordPart, (rest.drop 1).dropWhile isWordPart)
    else (word, rest)
  | _ => (word, rest)

mutual

/-- A value; arrays and inline tables nest at most `levels` deep, and at most `room`
    steps are made. -/
def value? : (room levels : Nat) → List Char → Option (Value × List Char)
  | 0, _, _ => none
  | room + 1, levels, text =>
    match text with
    | '"' :: '"' :: '"' :: rest =>
      (basicLines? (rest.length + 1) (dropBreak rest)).map fun (s, rest) =>
        (.str (String.ofList s), rest)
    | '"' :: rest =>
      (basicString? (rest.length + 1) rest).map fun (s, rest) => (.str (String.ofList s), rest)
    | '\'' :: '\'' :: '\'' :: rest =>
      (literalLines? (dropBreak rest)).map fun (s, rest) => (.str (String.ofList s), rest)
    | '\'' :: rest =>
      (literalString? rest).map fun (s, rest) => (.str (String.ofList s), rest)
    | '[' :: rest =>
      if levels = 0 then none
      else (items? room (levels - 1) rest).map fun (items, rest) => (.arr false items, rest)
    | '\x7b' :: rest =>
      if levels = 0 then none
      else (members? room (levels - 1) [] rest).map fun (members, rest) =>
        (.table .inline members, rest)
    | _ =>
      let (word, rest) := readWord text
      (scalar? word).map fun value => (value, rest)

/-- The items of an array up to its closing bracket. -/
def items? : (room levels : Nat) → List Char → Option (List Value × List Char)
  | 0, _, _ => none
  | room + 1, levels, text => do
    match ← skipLines? text.length text with
    | ']' :: rest => some ([], rest)
    | text =>
      let (item, rest) ← value? room levels text
      match ← skipLines? rest.length rest with
      | ',' :: rest =>
        let (items, rest) ← items? room levels rest
        some (item :: items, rest)
      | ']' :: rest => some ([item], rest)
      | _ => none

/-- The members of an inline table up to its closing brace, added to those before. -/
def members? : (room levels : Nat) → Members → List Char → Option (Members × List Char)
  | 0, _, _, _ => none
  | room + 1, levels, members, text => do
    match ← skipLines? text.length text with
    | '\x7d' :: rest => some (members, rest)
    | text =>
      let ((path, key), rest) ← key? text
      match rest with
      | '=' :: rest =>
        let (value, rest) ← value? room levels (skipGap rest)
        let (_, members) ← assign path key value .header members
        match ← skipLines? rest.length rest with
        | ',' :: rest => members? room levels members rest
        | '\x7d' :: rest => some (members, rest)
        | _ => none
      | _ => none

end

/-! ### Documents -/

/-- A header after its opening bracket, up to the closing bracket. -/
def header? (text : List Char) : Option ((List String × String) × List Char) := do
  let (key, rest) ← key? text
  let rest ← after? ']' rest
  some (key, rest)

/-- One line of a document. -/
def line? (doc : Document) (text : List Char) : Option (Document × List Char) := do
  match text with
  | '[' :: '[' :: rest =>
    let ((path, key), rest) ← header? rest
    let rest ← after? ']' rest
    some (← doc.openElement path key, ← lineEnd? rest)
  | '[' :: rest =>
    let ((path, key), rest) ← header? rest
    some (← doc.openTable path key, ← lineEnd? rest)
  | _ =>
    let ((path, key), rest) ← key? text
    let rest ← after? '=' rest
    let (value, rest) ← value? (rest.length + 1) maxLevels (skipGap rest)
    some (← doc.assign path key value, ← lineEnd? rest)

/-- The lines of a document, at most `room`. -/
def lines? : (room : Nat) → Document → List Char → Option Document
  | 0, _, _ => none
  | room + 1, doc, text => do
    match ← skipLines? text.length text with
    | [] => some doc
    | text =>
      let (doc, rest) ← line? doc text
      lines? room doc rest

/-- The top table of the document that a text spells. A byte order mark at the start
    does not count. -/
def read? (text : List Char) : Option Members :=
  let text := match text with
    | '\uFEFF' :: rest => rest
    | _ => text
  (lines? (text.length + 1) ⟨[], []⟩ text).map Document.top

end MakeLens.Toml
