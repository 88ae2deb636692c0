import MakeLens.Text.Composition
import MakeLens.Text.Utf8
import MakeLens.Uri.Domain.Direction
import MakeLens.Uri.Domain.Joining
import MakeLens.Uri.Domain.Mapping
import MakeLens.Uri.Domain.Punycode

/-! # Domain names

  The name of a server is a row of labels with dots between them. Names are written in
  many scripts and sent in ASCII: `toAscii?` gives the one spelling in which a name is
  sent, unless it is no name.
-/

namespace MakeLens.Domain

/-- Whether a character lies in ASCII. -/
def isAscii (c : Char) : Bool :=
  c.toNat < 0x80

/-- What a label in its ASCII spelling starts with. -/
def asciiMark : List Char := ['x', 'n', '-', '-']

/-- The longest label beyond ASCII. Its ASCII spelling may be twice as long. -/
def maxLength : Nat := 1000

/-- The label that a mapped label stands for. The ASCII spelling stands for a label that
    needs it and that is spelled as mapping would spell it. -/
def label? (text : List Char) : Option (List Char) := do
  if asciiMark.isPrefixOf text then
    let spelling := text.drop asciiMark.length
    let label ← Punycode.decode? spelling
    if spelling.length ≤ 2 * maxLength && !label.all isAscii && label.all isSettled &&
        compose label == label && !asciiMark.isPrefixOf label then
      some label
    else none
  else if text.all isAscii || text.length ≤ maxLength then some text
  else none

/-- Whether a label is sound: no barred character, no mark at its start, and joiners only
    where they may stand. -/
def isSound (label : List Char) : Bool :=
  !label.any isBarred && !(label.head?.map isMark).getD false && joinersFit [] label

/-- The ASCII spelling of a label. -/
def asciiLabel (label : List Char) : List Char :=
  if label.all isAscii then label else asciiMark ++ Punycode.encode label

/-- The labels of a name, unless a character or a label of it is refused. -/
def labels? (name : List Char) : Option (List (List Char)) := do
  let mapped ← name.mapM mapped?
  let labels ← (pieces '.' (compose mapped.flatten)).mapM label?
  if labels.all isSound && (!labels.any runsLeft || labels.all keepsDirection) then some labels
  else none

/-- The ASCII spelling of a name. -/
def toAscii? (name : List Char) : Option (List Char) := do
  let labels ← labels? name
  some (['.'].intercalate (labels.map asciiLabel))

end MakeLens.Domain
