import MakeLens.Uri

/-! # Open documents

  The texts that an editor holds open, by the text of their URIs. They are kept apart
  from the index, which outlives a closed document.
-/

namespace MakeLens

/-- An open document. -/
structure Document where
  uri : String
  language : String
  text : List Char
  version : Int
  deriving DecidableEq, Repr

/-- A change of a document: the whole new text, or the text of a part, which `ranged`
    tells. -/
structure Change where
  text : List Char
  ranged : Bool
  deriving DecidableEq, Repr

/-- The open documents, each URI once. -/
structure Documents where
  entries : List Document
  deriving Repr

namespace Documents

/-- No open document. -/
def empty : Documents where
  entries := []

/-- The document of a URI. -/
def get? (documents : Documents) (uri : Uri) : Option Document :=
  documents.entries.find? fun d => d.uri == uri.text

/-- The documents without that of a URI. -/
def close (documents : Documents) (uri : Uri) : Documents where
  entries := documents.entries.filter fun d => d.uri != uri.text

/-- Opens a document, in the place of the one with the same URI. -/
def opened (documents : Documents) (uri : Uri) (language : String) (text : List Char)
    (version : Int) : Documents where
  entries := ⟨uri.text, language, text, version⟩ :: (documents.close uri).entries

/-- The text after changes. Only changes of the whole text count, and the last of them
    wins. -/
def applyChanges (text : List Char) (changes : List Change) : List Char :=
  changes.foldl (fun text change => if change.ranged then text else change.text) text

/-- Changes an open document and gives its new text; a document that is not open stays
    closed. -/
def update (documents : Documents) (uri : Uri) (changes : List Change) (version : Int) :
    Documents × Option (List Char) :=
  match documents.get? uri with
  | none => (documents, none)
  | some document =>
    let text := applyChanges document.text changes
    (documents.opened uri document.language text version, some text)

/-- How many documents are open. -/
def count (documents : Documents) : Nat :=
  documents.entries.length

/-- The URIs of the open documents, in ascending order. -/
def uris (documents : Documents) : List String :=
  (documents.entries.map Document.uri).mergeSort fun a b => !(b < a)

end Documents

end MakeLens
