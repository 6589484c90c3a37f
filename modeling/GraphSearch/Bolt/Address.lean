/-!
Addresses of graph servers.

An address is a URL. One without a scheme, or whose scheme is not followed by a host, is taken for a
host of the plain protocol, so `localhost:7687` means `bolt://localhost:7687`. Main definition:
`isBoltAddress`, which says whether there is a protocol to talk to the host of an address with.
-/

namespace GraphSearch

/-- What the front of an address says. -/
inductive AddressForm where
  /-- There is no scheme. -/
  | relative
  /-- There is a scheme, but no host. -/
  | hostless
  | hosted (scheme : String)
  | malformed
deriving DecidableEq, Repr

namespace AddressForm

/-- The schemes of the protocols that are known. -/
def boltSchemes : List String :=
  ["bolt", "bolt+s", "bolt+ssc", "neo4j", "neo4j+s", "neo4j+ssc"]

/-- The schemes of the web, which take any number of slashes before the host and need one. -/
def webSchemes : List String :=
  ["http", "https", "ws", "wss", "ftp"]

/-- The address without control characters and blanks around it and line breaks inside. -/
def trimmed (text : List Char) : List Char :=
  let isOuter (c : Char) : Bool := c.toNat ≤ 32
  let front := text.dropWhile isOuter
  ((front.reverse.dropWhile isOuter).reverse).filter fun c => c != '\t' && c != '\n' && c != '\r'

/-- The scheme of an address in lower case, and what follows its colon. -/
def splitScheme? (text : List Char) : Option (String × List Char) :=
  let scheme := text.takeWhile fun c => c.isAlphanum || c == '+' || c == '-' || c == '.'
  match scheme, text.drop scheme.length with
  | c :: _, ':' :: rest =>
    if c.isAlpha then some (String.ofList (scheme.map Char.toLower), rest) else none
  | _, _ => none

/-- Whether a character cannot stand in the name of a host. -/
def isForbidden (c : Char) : Bool :=
  c.toNat = 0 || [' ', '#', '/', ':', '<', '>', '?', '@', '[', '\\', ']', '^', '|'].contains c

/-- Whether a text is empty or the number of a socket. -/
def isSocket (text : List Char) : Bool :=
  text.all Char.isDigit && text.foldl (fun n c => n * 10 + (c.toNat - 48)) 0 < UInt16.size

/-- The part behind the last `@`, which ends the name of a user, and whether there is one. -/
def withoutUser (authority : List Char) : List Char × Bool :=
  ((authority.reverse.takeWhile (· != '@')).reverse, authority.contains '@')

/-- The form of what follows the slashes behind a scheme. -/
def ofAuthority (scheme : String) (text : List Char) : AddressForm :=
  let authority := text.takeWhile fun c => c != '/' && c != '?' && c != '#'
  let (place, hasUser) := withoutUser authority
  let (host, socket) := match place with
    | '[' :: inner =>
      ((inner.takeWhile (· != ']')), (inner.dropWhile (· != ']')).drop 1)
    | place => (place.takeWhile (· != ':'), place.dropWhile (· != ':'))
  if host.isEmpty then
    if hasUser || !socket.isEmpty || webSchemes.contains scheme then malformed else hostless
  else if place.head? != some '[' && host.any isForbidden then malformed
  else
    match socket with
    | [] => hosted scheme
    | ':' :: digits => if isSocket digits then hosted scheme else malformed
    | _ => malformed

def ofText (text : List Char) : AddressForm :=
  match splitScheme? (trimmed text) with
  | none => relative
  | some (scheme, rest) =>
    if webSchemes.contains scheme then
      ofAuthority scheme (rest.dropWhile fun c => c == '/' || c == '\\')
    else
      match rest with
      | '/' :: '/' :: rest => ofAuthority scheme rest
      | _ => hostless

def isKnown : AddressForm → Bool
  | hosted scheme => boltSchemes.contains scheme
  | _ => false

end AddressForm

/-- Whether the host of an address can be talked to. -/
def isBoltAddress (address : String) : Bool :=
  match AddressForm.ofText address.toList with
  | .relative | .hostless => (AddressForm.ofText ("bolt://" ++ address).toList).isKnown
  | form => form.isKnown

end GraphSearch
