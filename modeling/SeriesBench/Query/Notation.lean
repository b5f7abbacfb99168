import SeriesBench.Query.Workload
import SeriesBench.Scan

/-!
# Queries on paper

A query is handed on as one object in the JavaScript object notation, a line for each. The
writer puts the three members in a fixed order without blanks. The reader takes any text
that the notation allows: members in any order, blanks between tokens, further members,
which it passes over, or the three texts as an array. A member that is missing, that comes
twice or that is no text makes the object no query.

All tokens are ASCII characters, so the reader takes the bytes of a text one by one. Each is
shown as the character of the same number. Which characters the bytes are of matters only for
a text in quotes that is asked for: what is passed over, and what comes behind the last query
that is asked for, need not be UTF-8.
-/

namespace SeriesBench

namespace Notation

/-- One of the sixteen digits. -/
def hexDigit (n : Nat) : Char :=
  Nat.digitChar n

/-- A character inside quotes: quotes, backslashes and control characters are escaped. -/
def escaped (c : Char) : List Char :=
  if c = '"' then ['\\', '"']
  else if c = '\\' then ['\\', '\\']
  else if c = '\x08' then ['\\', 'b']
  else if c = '\x0c' then ['\\', 'f']
  else if c = '\n' then ['\\', 'n']
  else if c = '\r' then ['\\', 'r']
  else if c = '\t' then ['\\', 't']
  else if c.toNat < 0x20 then
    ['\\', 'u', '0', '0', hexDigit (c.toNat / 16), hexDigit (c.toNat % 16)]
  else [c]

/-- A text in quotes. -/
def string (s : String) : String :=
  "\"" ++ String.ofList (s.toList.flatMap escaped) ++ "\""

/-- The names of the members of a query, in the order they are written. -/
def labelName : String := "human_label"

@[inherit_doc labelName]
def descriptionName : String := "human_description"

@[inherit_doc labelName]
def sqlName : String := "sql"

/-- A query as an object. -/
def query (q : Query) : String :=
  "\x7b" ++ string labelName ++ ":" ++ string q.label ++ "," ++
    string descriptionName ++ ":" ++ string q.description ++ "," ++
    string sqlName ++ ":" ++ string q.sql ++ "\x7d"

/-- Queries as lines. -/
def lines (queries : List Query) : String :=
  String.join (queries.map fun q => query q ++ "\n")

/-- A byte as the character of the same number. -/
def byteChar (byte : UInt8) : Char :=
  Char.ofNat byte.toNat

/-- The bytes of a character, each as a character. -/
def spread (c : Char) : List Char :=
  (String.utf8EncodeChar c).map byteChar

/-- The text of some bytes, if they are UTF-8. -/
def joined? (bytes : List Char) : Option String :=
  Scanner.textOf (bytes.map fun byte => UInt8.ofNat byte.toNat)

/-- A blank of the notation. -/
def isSpace (c : Char) : Bool :=
  c == ' ' || c == '\t' || c == '\n' || c == '\r'

/-- The text from its first token on. -/
def skipSpace (s : List Char) : List Char :=
  s.dropWhile isSpace

/-- The value of a hexadecimal digit. -/
def hexValue? (c : Char) : Option Nat :=
  if '0' ≤ c ∧ c ≤ '9' then some (c.toNat - '0'.toNat)
  else if 'a' ≤ c ∧ c ≤ 'f' then some (c.toNat - 'a'.toNat + 10)
  else if 'A' ≤ c ∧ c ≤ 'F' then some (c.toNat - 'A'.toNat + 10)
  else none

/-- The number of four hexadecimal digits. -/
def hex4? (a b c d : Char) : Option Nat := do
  return ((16 * (← hexValue? a) + (← hexValue? b)) * 16 + (← hexValue? c)) * 16 + (← hexValue? d)

/-- The character that a letter after a backslash stands for. -/
def escape? : Char → Option Char
  | '"' => some '"'
  | '\\' => some '\\'
  | '/' => some '/'
  | 'b' => some '\x08'
  | 'f' => some '\x0c'
  | 'n' => some '\n'
  | 'r' => some '\r'
  | 't' => some '\t'
  | _ => none

/-- Whether a number is the first, or the second, of a pair that stands for one character. -/
def isHigh (n : Nat) : Bool := 0xd800 ≤ n && n < 0xdc00

@[inherit_doc isHigh]
def isLow (n : Nat) : Bool := 0xdc00 ≤ n && n < 0xe000

/-- The character of a pair. -/
def pairChar (high low : Nat) : Char :=
  Char.ofNat (0x10000 + (high - 0xd800) * 0x400 + (low - 0xdc00))

/-- Some bytes before those that were read after them. -/
def prepend (bytes : List Char) (read : Option (List Char × List Char)) :
    Option (List Char × List Char) :=
  read.map fun (text, rest) => (bytes ++ text, rest)

/-- The bytes of the text up to the closing quote, and what follows it. -/
def readChars : List Char → Option (List Char × List Char)
  | [] => none
  | '"' :: rest => some ([], rest)
  | '\\' :: 'u' :: a :: b :: c :: d :: '\\' :: 'u' :: e :: f :: g :: h :: rest =>
    match hex4? a b c d with
    | none => none
    | some n =>
      if isHigh n then
        match hex4? e f g h with
        | none => none
        | some m => if isLow m then prepend (spread (pairChar n m)) (readChars rest) else none
      else if isLow n then none
      else prepend (spread (Char.ofNat n)) (readChars ('\\' :: 'u' :: e :: f :: g :: h :: rest))
  | '\\' :: 'u' :: a :: b :: c :: d :: rest =>
    match hex4? a b c d with
    | none => none
    | some n =>
      if isHigh n || isLow n then none else prepend (spread (Char.ofNat n)) (readChars rest)
  | '\\' :: c :: rest =>
    match escape? c with
    | none => none
    | some c => prepend (spread c) (readChars rest)
  | byte :: rest => if byte.toNat < 0x20 then none else prepend [byte] (readChars rest)

/-- A text in quotes, from its first token on, and what follows it. -/
def readString (s : List Char) : Option (String × List Char) :=
  match skipSpace s with
  | '"' :: rest =>
    (readChars rest).bind fun (bytes, rest) => (joined? bytes).map fun text => (text, rest)
  | _ => none

/-- What follows a text in quotes that does not matter: its escapes need only be well-formed, and
its bytes need not be UTF-8. -/
def skipChars : List Char → Option (List Char)
  | [] => none
  | '"' :: rest => some rest
  | '\\' :: 'u' :: a :: b :: c :: d :: rest => (hex4? a b c d).bind fun _ => skipChars rest
  | '\\' :: c :: rest => (escape? c).bind fun _ => skipChars rest
  | c :: rest => if c.toNat < 0x20 then none else skipChars rest

/-- What follows a run of digits, of which there is at least one. -/
def skipDigits (s : List Char) : Option (List Char) :=
  match s with
  | c :: rest => if c.isDigit then some (rest.dropWhile Char.isDigit) else none
  | [] => none

/-- What follows the whole part of a number, which has no needless zeros. -/
def skipWhole : List Char → Option (List Char)
  | '0' :: c :: rest => if c.isDigit then none else some (c :: rest)
  | s => skipDigits s

/-- What follows a fraction, if there is one. -/
def skipFraction : List Char → Option (List Char)
  | '.' :: rest => skipDigits rest
  | s => some s

/-- What follows an exponent, if there is one. -/
def skipExponent : List Char → Option (List Char)
  | mark :: rest =>
    if mark = 'e' ∨ mark = 'E' then
      match rest with
      | '+' :: digits => skipDigits digits
      | '-' :: digits => skipDigits digits
      | digits => skipDigits digits
    else some (mark :: rest)
  | [] => some []

/-- What follows a number. -/
def skipNumber (s : List Char) : Option (List Char) :=
  let unsigned := match s with
    | '-' :: rest => rest
    | s => s
  ((skipWhole unsigned).bind skipFraction).bind skipExponent

/-- What follows a word. -/
def skipWord (word s : List Char) : Option (List Char) :=
  if word.isPrefixOf s then some (s.drop word.length) else none

/-- What a nested value is in. -/
inductive Frame where
  | array
  | object
deriving DecidableEq

/-- What is expected next while a value is passed over. -/
inductive Expected where
  /-- A value. -/
  | value
  /-- A value, or the end of the array that has just begun. -/
  | firstElement
  /-- A name. -/
  | name
  /-- A name, or the end of the object that has just begun. -/
  | firstName
  /-- What may follow a value inside the innermost frame. -/
  | next
deriving DecidableEq

/-- What follows a name and its colon. -/
def skipName (s : List Char) : Option (List Char) :=
  match s with
  | '"' :: rest =>
    (skipChars rest).bind fun rest =>
      match skipSpace rest with
      | ':' :: rest => some rest
      | _ => none
  | _ => none

/-- One token of a value that is passed over: what is expected after it, inside which frames,
and what follows it. -/
def skipToken (frames : List Frame) (expected : Expected) (s : List Char) :
    Option (List Frame × Expected × List Char) :=
  match expected, s, frames with
  | .firstElement, ']' :: rest, _ :: outer => some (outer, .next, rest)
  | .firstName, '}' :: rest, _ :: outer => some (outer, .next, rest)
  | .firstName, s, _ | .name, s, _ => (skipName s).map fun rest => (frames, .value, rest)
  | .next, ',' :: rest, .array :: _ => some (frames, .value, rest)
  | .next, ',' :: rest, .object :: _ => some (frames, .name, rest)
  | .next, ']' :: rest, .array :: outer => some (outer, .next, rest)
  | .next, '}' :: rest, .object :: outer => some (outer, .next, rest)
  | .next, _, _ => none
  | _, '"' :: rest, _ => (skipChars rest).map fun rest => (frames, .next, rest)
  | _, '[' :: rest, _ => some (.array :: frames, .firstElement, rest)
  | _, '{' :: rest, _ => some (.object :: frames, .firstName, rest)
  | _, 't' :: rest, _ => (skipWord "rue".toList rest).map fun rest => (frames, .next, rest)
  | _, 'f' :: rest, _ => (skipWord "alse".toList rest).map fun rest => (frames, .next, rest)
  | _, 'n' :: rest, _ => (skipWord "ull".toList rest).map fun rest => (frames, .next, rest)
  | _, s, _ => (skipNumber s).map fun rest => (frames, .next, rest)

/-- Passes over tokens until no frame is open, with at most so many of them. -/
def skipTokens : Nat → List Frame → Expected → List Char → Option (List Char)
  | 0, _, _, _ => none
  | fuel + 1, frames, expected, s =>
    match frames, expected with
    | [], .next => some s
    | _, _ =>
      match skipToken frames expected (skipSpace s) with
      | none => none
      | some (frames, expected, rest) => skipTokens fuel frames expected rest

/-- What follows a value. Every token takes a character, so there are no more of them than
characters. -/
def skipValue (s : List Char) : Option (List Char) :=
  skipTokens (s.length + 2) [] .value s

/-- The members of a query that have been read. -/
structure Members where
  label : Option String
  description : Option String
  sql : Option String
deriving Repr, DecidableEq

/-- The query, when no member is missing. -/
def Members.query? (m : Members) : Option Query := do
  return ⟨← m.label, ← m.description, ← m.sql⟩

/-- A member that is to be a text and has not been read before. -/
def readMember (known : Option String) (s : List Char) : Option (String × List Char) :=
  match known with
  | some _ => none
  | none => readString s

/-- The members with that of a name, and what follows it. -/
def readNamed (m : Members) (name : String) (s : List Char) : Option (Members × List Char) :=
  if name = labelName then
    (readMember m.label s).map fun (text, rest) => ({ m with label := some text }, rest)
  else if name = descriptionName then
    (readMember m.description s).map fun (text, rest) =>
      ({ m with description := some text }, rest)
  else if name = sqlName then
    (readMember m.sql s).map fun (text, rest) => ({ m with sql := some text }, rest)
  else (skipValue s).map fun rest => (m, rest)

/-- The colon after a name, and what follows it. -/
def readColon (s : List Char) : Option (List Char) :=
  match skipSpace s with
  | ':' :: rest => some rest
  | _ => none

/-- The members from a name on, up to the closing brace; at most so many of them. -/
def readMembers : Nat → Members → List Char → Option (Members × List Char)
  | 0, _, _ => none
  | fuel + 1, m, s => do
    let (name, rest) ← readString s
    let rest ← readColon rest
    let (m, rest) ← readNamed m name rest
    match skipSpace rest with
    | ',' :: rest => readMembers fuel m rest
    | '}' :: rest => some (m, rest)
    | _ => none

/-- The query of an object, after the opening brace. -/
def readObject (s : List Char) : Option (Query × List Char) :=
  let none : Members := ⟨none, none, none⟩
  match skipSpace s with
  | '}' :: rest => none.query?.map fun q => (q, rest)
  | rest => (readMembers (rest.length + 1) none rest).bind fun (m, rest) =>
    m.query?.map fun q => (q, rest)

/-- A text in quotes with the token after it, and what follows that. -/
def readElement (after : Char) (s : List Char) : Option (String × List Char) := do
  let (text, rest) ← readString s
  match skipSpace rest with
  | c :: rest => if c = after then some (text, rest) else none
  | [] => none

/-- The query of an array, after the opening bracket. -/
def readArray (s : List Char) : Option (Query × List Char) := do
  let (label, rest) ← readElement ',' s
  let (description, rest) ← readElement ',' rest
  let (sql, rest) ← readElement ']' rest
  return (⟨label, description, sql⟩, rest)

/-- The query at the front of a text, and what follows it. -/
def readFront (s : List Char) : Option (Query × List Char) :=
  match skipSpace s with
  | '{' :: rest => readObject rest
  | '[' :: rest => readArray rest
  | _ => none

/-- The query that a text is. -/
def read (text : String) : Except Fault Query :=
  match readFront ((Scanner.bytesOfText text).map byteChar) with
  | some (q, rest) => if (skipSpace rest).isEmpty then .ok q else .error .json
  | none => .error .json

/-- The queries that follow one another in a text, at most so many; what comes after them
is not looked at. -/
def readSome : Nat → List Char → Except Fault (List Query)
  | 0, _ => .ok []
  | limit + 1, s =>
    if (skipSpace s).isEmpty then .ok []
    else
      match readFront s with
      | none => .error .json
      | some (q, rest) => (readSome limit rest).map (q :: ·)

/-- The queries of some content, at most `limit` of them or, if that is zero, all. Each takes a
byte, so there are no more of them than bytes. -/
def readContent (limit : Nat) (content : List UInt8) : Except Fault (List Query) :=
  readSome (if limit = 0 then content.length + 1 else limit) (content.map byteChar)

/-- The queries of a text, at most `limit` of them or, if that is zero, all. -/
def readMany (limit : Nat) (text : String) : Except Fault (List Query) :=
  readContent limit (Scanner.bytesOfText text)

end Notation

end SeriesBench
