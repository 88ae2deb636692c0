import MakeLens.Path

/-! # File name patterns

  Shell patterns over file names: `?` stands for one character, `*` for any run,
  `[...]` for one character of a set, `[!...]` for one outside it, and `**` as a
  whole path component for any directories. A pattern that breaks these rules is
  invalid and matches nothing.
-/

namespace MakeLens

/-- A member of a character set: a closed range; a single character is the range
    from it to itself. -/
structure CharRange where
  first : Char
  last : Char
  deriving DecidableEq, Repr

/-- One element of a pattern. -/
inductive GlobToken where
  /-- This character. -/
  | char (c : Char)
  /-- Any one character. -/
  | anyChar
  /-- Any run of characters. -/
  | anyRun
  /-- Any run of whole directories, or everything that is left. -/
  | anyDirectories
  /-- One character that is in the set, or one that is not. -/
  | set (negated : Bool) (ranges : List CharRange)
  deriving DecidableEq, Repr

namespace Glob

/-! ### Reading patterns -/

/-- The ranges of a set: each triple `a-b` is a range, any other character stands
    for itself. -/
def readRanges : List Char → List CharRange
  | a :: '-' :: b :: rest => ⟨a, b⟩ :: readRanges rest
  | a :: rest => ⟨a, a⟩ :: readRanges rest
  | [] => []

/-- The set after an opening bracket and the text after its closing bracket. A set
    has at least one member, so a bracket in the first place does not close it. -/
def readSet? (text : List Char) : Option (GlobToken × List Char) :=
  let (negated, body) : Bool × List Char := match text with
    | '!' :: rest => (true, rest)
    | rest => (false, rest)
  match body with
  | [] => none
  | first :: rest =>
    match rest.dropWhile (· != ']') with
    | _ :: after => some (.set negated (readRanges (first :: rest.takeWhile (· != ']'))), after)
    | [] => none

/-- The tokens of a pattern; `previous` is the character before the text, none at
    its start. At most `room` tokens are read. -/
def readTokens? : (room : Nat) → (previous : Option Char) → List Char → Option (List GlobToken)
  | _, _, [] => some []
  | 0, _, _ => none
  | room + 1, previous, c :: rest =>
    if c = '?' then (readTokens? room (some c) rest).map (.anyChar :: ·)
    else if c = '*' then
      match rest with
      | '*' :: '*' :: _ => none
      | '*' :: after =>
        if previous = none ∨ previous = some '/' then
          match after with
          | [] => some [.anyDirectories]
          | d :: more =>
            if d = '/' then (readTokens? room (some d) more).map (.anyDirectories :: ·) else none
        else none
      | _ => (readTokens? room (some c) rest).map (.anyRun :: ·)
    else if c = '[' then
      match readSet? rest with
      | some (token, after) => (readTokens? room (some ']') after).map (token :: ·)
      | none => none
    else (readTokens? room (some c) rest).map (.char c :: ·)

/-- The tokens of a pattern, if it is valid. -/
def read? (pattern : String) : Option (List GlobToken) :=
  readTokens? pattern.length none pattern.toList

/-! ### Matching -/

/-- All ends of a text, from the whole to the empty one. -/
def ends : List Char → List (List Char)
  | [] => [[]]
  | c :: rest => (c :: rest) :: ends rest

/-- The ends of a text that follow a separator. -/
def endsAfterSlash : List Char → List (List Char)
  | [] => []
  | c :: rest => if c = '/' then rest :: endsAfterSlash rest else endsAfterSlash rest

/-- Whether a set holds a character. -/
def inSet (ranges : List CharRange) (c : Char) : Bool :=
  ranges.any fun r => r.first ≤ c && c ≤ r.last

/-- Whether tokens match the whole of a text. -/
def matchTokens : List GlobToken → List Char → Bool
  | [], text => text.isEmpty
  | .anyRun :: tokens, text => (ends text).any (matchTokens tokens)
  | .anyDirectories :: tokens, text =>
    (text :: endsAfterSlash text ++ [[]]).any (matchTokens tokens)
  | _ :: _, [] => false
  | .char d :: tokens, c :: rest => c == d && matchTokens tokens rest
  | .anyChar :: tokens, _ :: rest => matchTokens tokens rest
  | .set negated ranges :: tokens, c :: rest =>
    (inSet ranges c != negated) && matchTokens tokens rest

/-- Whether a pattern is valid and matches a file name. -/
def matchName (pattern name : String) : Bool :=
  match read? pattern with
  | some tokens => matchTokens tokens name.toList
  | none => false

end Glob

/-- The name by which patterns see a path: its last component, or nothing when that
    is no name or not valid text. -/
def FilePath.patternName (path : FilePath) : String :=
  match path.fileName?.bind Utf8.decode? with
  | some name => String.ofList name
  | none => ""

end MakeLens
