import SeriesBench.Fault
import SeriesBench.Text.Split

/-!
# Clients

A client knows where the service is and which database its statements are for. It is made
without any contact to the service; all that is checked is the form of the address: a
scheme, an authority of a host with perhaps a user before it and a number after it, then
perhaps a path, a query and a fragment. Whether the number is one is not asked.
-/

namespace SeriesBench

namespace Address

/-- Where the service is if nothing else is said. -/
def standard : String := "127.0.0.1:8360"

/-- The schemes that an address may have. -/
def schemes : List String := ["http://", "https://"]

/-- What follows a scheme at the front of a text, if there is one. -/
def afterScheme? (text : List Char) : Option (List Char) :=
  schemes.findSome? fun scheme =>
    if scheme.toList.isPrefixOf text then some (text.drop scheme.length) else none

/-- The address with its scheme; the first of the schemes is taken for granted. -/
def url (text : String) : String :=
  if (afterScheme? text.toList).isSome then text else "http://" ++ text

/-- What ends an authority. -/
def endsAuthority (c : Char) : Bool :=
  c == '/' || c == '?' || c == '#'

/-- The characters that may stand in an authority, apart from those with a role in it. -/
def inAuthority (c : Char) : Bool :=
  c.isAlphanum || "!$&'()*+,-.;=_~".toList.contains c

/-- What counts in the part of an authority that has been seen: colons and percent signs
since the last user or bracket, and brackets. -/
structure Seen where
  colons : Nat := 0
  percent : Bool := false
  opened : Bool := false
  closed : Bool := false
deriving Repr, DecidableEq

/-- What has been seen after one more character, if it may stand there. -/
def Seen.next (s : Seen) (c : Char) : Option Seen :=
  if c = ':' then if 8 ≤ s.colons then none else some { s with colons := s.colons + 1 }
  else if c = '[' then if s.percent || s.opened then none else some { s with opened := true }
  else if c = ']' then
    if !s.opened || s.closed then none
    else some { s with closed := true, colons := 0, percent := false }
  else if c = '@' then some { s with colons := 0, percent := false }
  else if c = '%' then some { s with percent := true }
  else if inAuthority c then some s
  else none

/-- Whether an authority may end here. -/
def Seen.complete (s : Seen) : Bool :=
  s.opened == s.closed && s.colons ≤ 1 && !s.percent

/-- Whether a text is an authority with a host. -/
def isAuthority (text : List Char) : Bool :=
  !text.isEmpty && text.getLast? != some '@' &&
    ((text.foldlM Seen.next ({} : Seen)).map Seen.complete).getD false

/-- The characters that may stand in a query. -/
def inQuery (c : Char) : Bool :=
  '!' ≤ c && c ≤ '~' && ¬ "\"#<>".toList.contains c

/-- The characters that may stand in a path, braces and quotes among them. -/
def inPath (c : Char) : Bool :=
  '!' ≤ c && c ≤ '~' && ¬ "#<>?\x60".toList.contains c

/-- Whether a text is a path with a query and a fragment, all of them optional. Nothing is
asked of a fragment. -/
def isRest (text : List Char) : Bool :=
  let beforeFragment := text.takeWhile (· != '#')
  let path := beforeFragment.takeWhile (· != '?')
  let query := (beforeFragment.dropWhile (· != '?')).drop 1
  path.all inPath && query.all inQuery

/-- The most bytes that an address can have. -/
def longest : Nat := 65534

/-- Whether a text with a scheme is an address. -/
def isAddress (text : String) : Bool :=
  text.utf8ByteSize ≤ longest &&
    match afterScheme? text.toList with
    | none => false
    | some rest =>
      isAuthority (rest.takeWhile fun c => !endsAuthority c) &&
        isRest (rest.dropWhile fun c => !endsAuthority c)

end Address

/-- A client of the service. -/
structure Client where
  url : String
  database : Option String
deriving Repr, DecidableEq

namespace Client

/-- A client for an address; no database is chosen. -/
def make (address : String) : Except Fault Client :=
  let url := Address.url address
  if Address.isAddress url then .ok ⟨url, none⟩ else .error (.endpoint url)

/-- The client with statements for a database. -/
def withDatabase (client : Client) (name : String) : Client :=
  { client with database := some name }

end Client

end SeriesBench
