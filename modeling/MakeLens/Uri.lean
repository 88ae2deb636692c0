import MakeLens.Path
import MakeLens.Uri.Authority
import MakeLens.Uri.Steps

/-! # URIs

  A URI in its normal form: the scheme in lower case, `.` and `..` steps resolved,
  everything a part cannot hold percent-encoded. Editors name documents by URIs; two
  URIs are the same document when their normal forms are the same text.
-/

namespace MakeLens

/-- A URI in normal form. -/
structure Uri where
  scheme : String
  authority : Option Authority
  path : UriPath
  query : Option String
  fragment : Option String
  deriving DecidableEq, Repr

namespace Uri

/-! ### Text -/

/-- The text of a URI. -/
def text (uri : Uri) : String :=
  let path := match uri.authority, uri.path with
    | none, .steps ("" :: _ :: _) => "/." ++ pathText uri.path
    | _, _ => pathText uri.path
  uri.scheme ++ ":" ++ ((uri.authority.map authorityText).getD "") ++ path ++
    ((uri.query.map fun q => "?" ++ q).getD "") ++
    ((uri.fragment.map fun f => "#" ++ f).getD "")

/-! ### Reading -/

/-- A text without controls and blanks at its ends, and without tabs and line breaks
    anywhere. -/
def clean (text : List Char) : List Char :=
  let isEdge (c : Char) : Bool := c.toNat ≤ 0x20
  let trimmed := ((text.dropWhile isEdge).reverse.dropWhile isEdge).reverse
  trimmed.filter fun c => c != '\t' && c != '\n' && c != '\r'

/-- The scheme of a text and the text after its colon. -/
def splitScheme? (text : List Char) : Option (List Char × List Char) :=
  let isPart (c : Char) : Bool := c.isAlphanum || c == '+' || c == '-' || c == '.'
  let scheme := text.takeWhile isPart
  match text.dropWhile isPart with
  | ':' :: rest =>
    if (scheme.head?.map Char.isAlpha).getD false then some (lower scheme, rest) else none
  | _ => none

/-- What follows the scheme of a file: the host, where one is given, and the path. A path
    on a drive has no host. -/
def readFile? (text : List Char) : Option (Authority × UriPath) := do
  let isSlash := isSeparator true
  let here (text : List Char) : Authority × UriPath :=
    (⟨"", "", none⟩, (walkPath true true text).path true)
  match text with
  | a :: b :: rest =>
    if isSlash a && isSlash b then
      let hostText := rest.takeWhile fun c => !isSlash c
      let after := rest.dropWhile fun c => !isSlash c
      if isDrive hostText then some (here rest)
      else if hostText.isEmpty then some (here after)
      else
        let host ← serverHost? hostText
        if host = "localhost".toList then some (here after)
        else
          let walk := walkPath true true (after.drop 1)
          some (⟨"", if walk.onDrive then "" else String.ofList host, none⟩, walk.path true)
    else some (here (if isSlash a then b :: rest else text))
  | [a] => some (here (if isSlash a then [] else [a]))
  | [] => some (here [])

/-- What follows any other scheme: the authority, where one is given, and the path.
    `atEnd` holds when neither a query nor a fragment follows. -/
def readOther? (scheme : String) (atEnd : Bool) (text : List Char) :
    Option (Option Authority × UriPath) := do
  let special := isSpecial scheme
  let isSlash := isSeparator special
  let served (text : List Char) : Option (Option Authority × UriPath) := do
    let after := text.dropWhile fun c => !isSlash c
    let (authority, rest) ←
      authority? scheme (atEnd && after.isEmpty) (text.takeWhile fun c => !isSlash c)
    some (some authority, pathAfter special (rest ++ after))
  if special then served (text.dropWhile isSlash)
  else match text with
    | '/' :: '/' :: rest => served rest
    | '/' :: rest => some (none, (walkPath false false rest).path false)
    | _ => some (none, .rootless (String.ofList (encodeText [] text)))

/-- The URI that a text spells, in normal form. -/
def read? (text : String) : Option Uri := do
  let (schemeText, rest) ← splitScheme? (clean text.toList)
  let scheme := String.ofList schemeText
  let (rest, fragment) := splitAtChar '#' rest
  let (rest, query) := splitAtChar '?' rest
  let (authority, path) ←
    if scheme == "file" then (readFile? rest).map fun (a, p) => (some a, p)
    else readOther? scheme (query.isNone && fragment.isNone) rest
  some {
    scheme := scheme
    authority := authority
    path := path
    query := query.map fun q => String.ofList (encodeText (querySet (isSpecial scheme)) q)
    fragment := fragment.map fun f => String.ofList (encodeText fragmentSet f) }

/-! ### Files -/

/-- A path that ends in a drive letter leads to the drive's directory. -/
def closeDrive (bytes : List UInt8) : List UInt8 :=
  match bytes.reverse with
  | mark :: letter :: _ :: _ =>
    if (mark == 0x3A || mark == 0x7C) && (Char.ofNat letter.toNat).isAlpha && letter < 0x80 then
      bytes ++ [slash]
    else bytes
  | _ => bytes

/-- The file that a URI names: its path has steps and it names no server. -/
def filePath? (uri : Uri) : Option FilePath :=
  let host := (uri.authority.map Authority.host).getD ""
  match uri.path with
  | .steps (first :: rest) =>
    if host == "" || host == "localhost" then
      some ⟨closeDrive ((first :: rest).flatMap fun name =>
        slash :: decodeBytes (Utf8.encode name))⟩
    else none
  | _ => none

/-- The text of the URI of a file with an absolute path. -/
def ofFilePath? (path : FilePath) : Option String :=
  match path.components with
  | .root :: rest =>
    let steps := rest.flatMap fun component => '/' :: encodeBytes nameSet component.bytes
    some ("file://" ++ if steps.isEmpty then "/" else String.ofList steps)
  | _ => none

end Uri

end MakeLens
