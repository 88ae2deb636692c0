import MakeLens.Text.Blank
import MakeLens.Line.Fact

/-! # The grammar of a line

  `classify` gives the facts of one logical line. A line has at most one primary
  fact, a target or an assignment, tried in this order. References, include
  directives, function openers and function calls are looked for on every line,
  each on its own.

  A name is a maximal run of name characters, so each form has one reading; the
  only choice is whether a `?` right before `=` belongs to the name or to the
  operator, which assignments and function openers settle differently.
-/

namespace MakeLens

/-! ### Character classes -/

/-- The characters of a target, variable or path name: no blank and none of
    `:`, `#`, `=`. -/
def isNameChar (c : Char) : Bool :=
  !(c == ':' || c == '#' || c == '=' || isBlank c)

/-- The characters of a referenced name: name characters other than `$` and the
    round and curly brackets. -/
def isReferenceChar (c : Char) : Bool :=
  isNameChar c && !(c == '(' || c == ')' || c == '{' || c == '}' || c == '$')

/-- The characters of a called function's name: no blank and none of `,`, `(`,
    `)`, `$`. -/
def isCallChar (c : Char) : Bool :=
  !(c == ',' || c == '(' || c == ')' || c == '$' || isBlank c)

/-! ### Pieces of a line -/

/-- The text after `keyword`, when the text starts with it. -/
def afterKeyword? : (keyword text : List Char) → Option (List Char)
  | [], text => some text
  | _ :: _, [] => none
  | k :: keyword, c :: text => if k = c then afterKeyword? keyword text else none

/-- The text after its leading blanks, when there is at least one. -/
def afterBlanks? (text : List Char) : Option (List Char) :=
  if (text.head?.map isBlank).getD false then some (trimStart text) else none

/-- The assignment operators. -/
def operators : List (List Char) :=
  [[':', ':', ':', '='], [':', ':', '='], [':', '='], ['?', '='], ['=']]

/-- The text after an assignment operator, when the text starts with one. -/
def afterOperator? (text : List Char) : Option (List Char) :=
  operators.findSome? fun operator => afterKeyword? operator text

/-! ### The forms of a line -/

/-- The name of a rule line: a name, blanks, a colon and a rest without `=`. -/
def targetName? (line : List Char) : Option (List Char) :=
  let name := line.takeWhile isNameChar
  match trimStart (line.dropWhile isNameChar) with
  | ':' :: rest => if name ≠ [] ∧ '=' ∉ rest then some name else none
  | _ => none

/-- The name and value of an assignment line: a name, blanks, an operator and a
    value without line feed. The name is the shortest that leaves an operator
    behind it, so `A?=` assigns `A`. -/
def assignment? (line : List Char) : Option (List Char × List Char) :=
  let run := line.takeWhile isNameChar
  let rest := line.dropWhile isNameChar
  let split : Option (List Char × List Char) :=
    -- a `?` right before `=` goes to the operator, unless it is the whole name
    if run.dropLast ≠ [] ∧ run.getLast? = some '?' ∧ rest.head? = some '=' then
      some (run.dropLast, rest.tail)
    else if run ≠ [] then (afterOperator? (trimStart rest)).map fun value => (run, value)
    else none
  match split with
  | some (name, value) => if '\n' ∈ value then none else some (name, trimStart value)
  | none => none

/-- The name referenced on a line and its offset: a word, blanks, `$(` or `${`, a
    name, an optional closing bracket, blanks and a rest without line feed. -/
def reference? (line : List Char) : Option (List Char × Nat) := do
  let word := line.takeWhile isNameChar
  let gap := (line.dropWhile isNameChar).takeWhile isBlank
  if word = [] ∨ gap = [] then none
  else match (line.dropWhile isNameChar).dropWhile isBlank with
    | '$' :: opening :: rest =>
      let name := rest.takeWhile isReferenceChar
      -- the closing bracket may be missing
      let closed := match rest.dropWhile isReferenceChar with
        | c :: after => if c = ')' ∨ c = '}' then after else c :: after
        | [] => []
      if (opening = '(' ∨ opening = '{') ∧ name ≠ [] then
        let tail ← afterBlanks? closed
        if '\n' ∈ tail then none else some (name, word.length + gap.length + 2)
      else none
    | _ => none

/-- The paths of an include directive: `include`, `-include` or `sinclude`, blanks
    and one or more names between blanks. -/
def inclusion? (line : List Char) : Option (List (List Char)) := do
  let unmarked := match line with
    | '-' :: rest => rest
    | 's' :: rest => rest
    | rest => rest
  let after ← afterKeyword? ['i', 'n', 'c', 'l', 'u', 'd', 'e'] unmarked
  let list ← afterBlanks? after
  if list ≠ [] ∧ list.all (fun c => isNameChar c || isBlank c) then some (words list) else none

/-- The function a line opens the definition of, and the offset of its name:
    `define`, blanks, a name, and at most an operator after it, blanks apart. -/
def functionName? (line : List Char) : Option (List Char × Nat) := do
  let after ← afterKeyword? ['d', 'e', 'f', 'i', 'n', 'e'] line
  let gap := after.takeWhile isBlank
  let body := after.dropWhile isBlank
  let name := body.takeWhile isNameChar
  let rest := trimStart (body.dropWhile isNameChar)
  -- the name is taken as long as it can be, so a `?` right before `=` stays with it
  let tail := (afterOperator? rest).getD rest
  if gap ≠ [] ∧ name ≠ [] ∧ tail.all isBlank then some (name, 6 + gap.length) else none

/-- The function called at the start of a text, and the offset of its name:
    `$(call`, blanks and a name. -/
def callName? (text : List Char) : Option (List Char × Nat) := do
  let after ← afterKeyword? ['$', '(', 'c', 'a', 'l', 'l'] text
  let gap := after.takeWhile isBlank
  let name := (after.dropWhile isBlank).takeWhile isCallChar
  if gap ≠ [] ∧ name ≠ [] then some (name, 6 + gap.length) else none

/-- The calls in a text that starts at `offset`, each with the offset of its
    name. -/
def callsFrom (offset : Nat) : List Char → List (List Char × Nat)
  | [] => []
  | c :: rest =>
    match callName? (c :: rest) with
    | some (name, column) => (name, offset + column) :: callsFrom (offset + 1) rest
    | none => callsFrom (offset + 1) rest

/-! ### Classification -/

/-- The fact of a rule line. -/
def Fact.ofTarget (name : List Char) : Fact :=
  let name := String.ofList name
  if name ∈ specialTargets then .specialTarget name else .target name 0

/-- The target or assignment of a line. -/
def primaryFact? (line : List Char) : Option Fact :=
  match targetName? line with
  | some name => some (.ofTarget name)
  | none => (assignment? line).map fun (name, value) =>
      .assignment (String.ofList name) 0 (String.ofList value)

/-- The facts of a logical line, in the order of the passes. -/
def classify (line : List Char) : List Fact :=
  (primaryFact? line).toList ++
  ((reference? line).map fun (name, column) =>
    Fact.reference (String.ofList name) (UInt32.ofNat column)).toList ++
  ((inclusion? line).map fun paths => Fact.inclusion (paths.map String.ofList)).toList ++
  ((functionName? line).map fun (name, column) =>
    Fact.function (String.ofList name) (UInt32.ofNat column)).toList ++
  (callsFrom 0 line).map fun (name, column) =>
    Fact.call (String.ofList name) (UInt32.ofNat column)

end MakeLens
