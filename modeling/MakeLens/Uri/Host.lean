import MakeLens.Uri.Address
import MakeLens.Uri.Domain
import MakeLens.Uri.Percent

/-! # Hosts

  A host is a domain name or an address. Schemes that always name a server know both;
  other schemes take any text that cannot be mistaken for another part of a URI, apart
  from addresses in brackets.
-/

namespace MakeLens.Uri

/-- The address that a host spells after its opening bracket. -/
def bracketed? (text : List Char) : Option (List Char) :=
  if text.getLast? = some ']' then
    (Address.colons? text.dropLast).map fun groups => '[' :: Address.colonsText groups ++ [']']
  else none

/-- The host that a text names where the scheme always names a server: a domain name in
    ASCII, or an address if it ends in a number. -/
def serverHost? : List Char → Option (List Char)
  | '[' :: rest => bracketed? rest
  | text => do
    let plain ← Utf8.decode? (decodeBytes (Utf8.encode (String.ofList text)))
    let name ← Domain.toAscii? plain
    if name = [] then none
    else if Address.endsInNumber name then (Address.dotted? name).map Address.dottedText
    else some name

/-- What no host of another scheme holds. -/
def hostEnds : List Char :=
  ['\x00', '\t', '\n', '\r', ' ', '#', '/', ':', '<', '>', '?', '@', '[', '\\', ']', '^', '|']

/-- The host that a text names where the scheme need not name a server. -/
def freeHost? : List Char → Option (List Char)
  | '[' :: rest => bracketed? rest
  | text => if text.any hostEnds.contains then none else some (encodeText [] text)

end MakeLens.Uri
