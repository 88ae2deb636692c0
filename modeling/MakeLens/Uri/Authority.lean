import MakeLens.Uri.Host

/-! # Authorities

  The part of a URI that names a server: perhaps a user, the host, and perhaps a number
  after a colon.
-/

namespace MakeLens

/-- The part of a URI that names a server. -/
structure Authority where
  /-- User name and password with the sign after them, or nothing. -/
  user : String
  host : String
  /-- The number after the host, unless it is the scheme's usual one. -/
  portNumber : Option Nat
  deriving DecidableEq, Repr

namespace Uri

/-- The text of an authority. -/
def authorityText (a : Authority) : String :=
  "//" ++ a.user ++ a.host ++ match a.portNumber with
    | some number => ":" ++ toString number
    | none => ""

/-! ### Schemes -/

/-- The schemes whose URIs always name a server, with the number usual after its
    host, and that of files. -/
def specialSchemes : List (String × Option Nat) :=
  [("http", some 80), ("https", some 443), ("ws", some 80), ("wss", some 443),
   ("ftp", some 21), ("file", none)]

/-- Whether a scheme is special: its paths also part at backslashes. -/
def isSpecial (scheme : String) : Bool :=
  specialSchemes.any fun s => s.1 == scheme

/-! ### Reading -/

/-- A text up to a character, and what follows the character where there is one. -/
def splitAtChar (c : Char) (text : List Char) : List Char × Option (List Char) :=
  match text.dropWhile (· != c) with
  | _ :: rest => (text.takeWhile (· != c), some rest)
  | [] => (text, none)

/-- The user information before a host. -/
def userText (text : List Char) : String :=
  let (name, password) := splitAtChar ':' text
  let name := encodeText userSet name
  match (password.map (encodeText userSet)).getD [] with
  | [] => if name.isEmpty then "" else String.ofList name ++ "@"
  | password => String.ofList name ++ ":" ++ String.ofList password ++ "@"

/-- The text of a host, up to a colon that stands in no brackets, and the text after
    it. -/
def splitHost (inBrackets : Bool) : List Char → List Char × List Char
  | [] => ([], [])
  | c :: rest =>
    if c = ':' ∧ !inBrackets then ([], c :: rest)
    else
      let (host, after) := splitHost (if c = '[' then true else if c = ']' then false
        else inBrackets) rest
      (c :: host, after)

/-- The number after a host and the text after it. A scheme's usual number is left out,
    and only a backslash may follow. -/
def portNumber? (scheme : String) (text : List Char) : Option (Option Nat × List Char) :=
  let digits := text.takeWhile Char.isDigit
  let rest := text.dropWhile Char.isDigit
  let number := Json.decimalNumber digits
  if number < 65536 ∧ (rest = [] ∨ rest.head? = some '\\') then
    if digits = [] ∨ specialSchemes.any fun s => s.1 == scheme && s.2 == some number then
      some (none, rest)
    else some (some number, rest)
  else none

/-- The authority that a text names, and the rest of the text. User information or a
    number needs a host, and so does every scheme that always names a server. The sign
    after user information needs one, too, unless the URI ends there. -/
def authority? (scheme : String) (atEnd : Bool) (text : List Char) :
    Option (Authority × List Char) := do
  let (user, server) := match (text.reverse.dropWhile (· != '@')).reverse with
    | [] => ("", text)
    | upto => (userText upto.dropLast, text.drop upto.length)
  let (hostText, after) := splitHost false server
  let host ← if isSpecial scheme then serverHost? hostText else freeHost? hostText
  match after with
  | ':' :: rest =>
    let (number, rest) ← portNumber? scheme rest
    if host = [] then none else some (⟨user, String.ofList host, number⟩, rest)
  | _ =>
    if host = [] ∧ (user ≠ "" ∨ (text = ['@'] ∧ !atEnd)) then none
    else some (⟨user, String.ofList host, none⟩, after)

end Uri

end MakeLens
