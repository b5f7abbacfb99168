import SeriesBench.Cli.Generate
import SeriesBench.Cli.Run
import SeriesBench.Proofs.Scan.Stream

/-!
# Queries that are handed on

Queries are written as lines of object notation by one command and read by another. The writer
has one spelling for each character; the reader knows several, and what it makes of a spelling are
the bytes of the character that it spells. From there it is a matter of tokens: what is written of a
query is read as that query, whatever follows it, and no line feed is written inside of one.

The main statement is that queries come back, all of them or as many as were asked for, in every
part as they were. When they are cut, what follows the last that is read is not looked at.
-/

namespace SeriesBench

namespace Notation

/-- The bytes of a text, as its reader takes them. -/
def opened (text : String) : List Char :=
  (Scanner.bytesOfText text).map byteChar

/-- They are those of its characters, one after the other. -/
theorem opened_eq (text : String) : opened text = text.toList.flatMap spread := by
  have bytes := Scanner.bytesOfText_eq text
  simp only [opened, bytes, List.map_flatMap]
  rfl

/-- The bytes of a text that is put together are those of its parts. -/
theorem opened_append (first second : String) :
    opened (first ++ second) = opened first ++ opened second := by
  simp [opened_eq]

/-- A byte is shown as the character of the same number. -/
theorem toNat_byteChar (byte : UInt8) : (byteChar byte).toNat = byte.toNat := by
  have small : byte.toNat < 256 := byte.toNat_lt
  have valid : byte.toNat.isValidChar := Or.inl (by omega)
  rw [byteChar, Char.ofNat, dif_pos valid]
  rfl

/-- The bytes of some characters are joined to the text of these characters. -/
theorem joined?_spread (chars : List Char) :
    joined? (chars.flatMap spread) = some (String.ofList chars) := by
  have bytes : (chars.flatMap spread).map (fun byte => UInt8.ofNat byte.toNat) =
      Scanner.bytesOfText (String.ofList chars) := by
    simp [Scanner.bytesOfText_eq, List.map_flatMap, spread, Function.comp_def, toNat_byteChar]
  rw [joined?, bytes]
  exact Scanner.textOf_bytesOfText _

/-- An ASCII character is its own byte; all bytes of any other are beyond ASCII. -/
theorem spread_cases (c : Char) :
    (c.toNat < 0x80 ∧ spread c = [c]) ∨ (0x80 ≤ c.toNat ∧ ∀ byte ∈ spread c, 0x80 ≤ byte.toNat) := by
  have number : c.toNat = c.val.toNat := rfl
  simp only [spread, String.utf8EncodeChar, ← number]
  split
  · rename_i small
    have byte : (UInt8.ofNat c.toNat).toNat = c.toNat := by
      rw [UInt8.toNat_ofNat']
      omega
    refine .inl ⟨by omega, ?_⟩
    rw [List.map_singleton, byteChar, byte, Char.ofNat_toNat]
  · refine .inr ⟨by omega, ?_⟩
    split <;> [skip; split] <;>
      · simp [toNat_byteChar]
        omega

/-- ASCII characters are their own bytes. -/
theorem spread_ascii {chars : List Char} (ascii : ∀ c ∈ chars, c.toNat < 0x80) :
    chars.flatMap spread = chars := by
  induction chars with
  | nil => rfl
  | cons c rest ih =>
    obtain ⟨first, others⟩ := List.forall_mem_cons.mp ascii
    have self : spread c = [c] := by
      rcases spread_cases c with ⟨_, self⟩ | ⟨beyond, _⟩
      · exact self
      · omega
    rw [List.flatMap_cons, self, ih others, List.singleton_append]

/-- A text that stands for a character inside quotes. -/
inductive Spelling : Char → List Char → Prop
  /-- Most characters may stand for themselves. -/
  | plain {c : Char} (visible : 0x20 ≤ c.toNat) (quote : c ≠ '"') (slash : c ≠ '\\') :
    Spelling c (spread c)
  /-- Some have a letter. -/
  | letter {c mark : Char} (stands : escape? mark = some c) : Spelling c ['\\', mark]
  /-- Those of a plane have a number. -/
  | number {a b c d : Char} {n : Nat} (digits : hex4? a b c d = some n)
    (alone : isHigh n = false ∧ isLow n = false) :
    Spelling (Char.ofNat n) ['\\', 'u', a, b, c, d]
  /-- The others have a pair of numbers. -/
  | pair {a b c d e f g h : Char} {high low : Nat} (first : hex4? a b c d = some high)
    (second : hex4? e f g h = some low) (both : isHigh high = true ∧ isLow low = true) :
    Spelling (pairChar high low) ['\\', 'u', a, b, c, d, '\\', 'u', e, f, g, h]

/-- A number that stands alone is read as its character, also in front of another number. -/
theorem readChars_number {a b c d : Char} {n : Nat} (digits : hex4? a b c d = some n)
    (alone : isHigh n = false ∧ isLow n = false) (rest : List Char) :
    readChars ('\\' :: 'u' :: a :: b :: c :: d :: rest) =
      prepend (spread (Char.ofNat n)) (readChars rest) := by
  obtain ⟨high, low⟩ := alone
  by_cases another : ∃ e f g h after, rest = '\\' :: 'u' :: e :: f :: g :: h :: after
  · obtain ⟨e, f, g, h, after, rfl⟩ := another
    rw [readChars, digits]
    simp [high, low]
  · rw [readChars, digits]
    · simp [high, low]
    · intro e f g h after same
      exact another ⟨e, f, g, h, after, same⟩

/-- Bytes that are no quote, no backslash and no control characters stand for themselves. -/
theorem readChars_plain {bytes : List Char}
    (visible : ∀ byte ∈ bytes, 0x20 ≤ byte.toNat ∧ byte ≠ '"' ∧ byte ≠ '\\')
    (rest : List Char) : readChars (bytes ++ rest) = prepend bytes (readChars rest) := by
  induction bytes with
  | nil =>
    rw [List.nil_append]
    cases readChars rest <;> rfl
  | cons byte others ih =>
    obtain ⟨⟨printable, quote, slash⟩, more⟩ := List.forall_mem_cons.mp visible
    rw [List.cons_append, readChars, if_neg (Nat.not_lt.mpr printable), ih more]
    · cases readChars rest <;> rfl
    all_goals simp [quote, slash]

/-- What is read of a spelling are the bytes of the character. -/
theorem readChars_spelling {c : Char} {text : List Char} (spelling : Spelling c text)
    (rest : List Char) : readChars (text ++ rest) = prepend (spread c) (readChars rest) := by
  cases spelling with
  | plain visible quote slash =>
    refine readChars_plain (fun byte member => ?_) rest
    rcases spread_cases c with ⟨_, self⟩ | ⟨_, beyond⟩
    · rw [self, List.mem_singleton] at member
      exact member ▸ ⟨visible, quote, slash⟩
    · have large := beyond byte member
      refine ⟨by omega, ?_, ?_⟩
      · rintro rfl
        exact absurd large (by decide)
      · rintro rfl
        exact absurd large (by decide)
  | @letter _ mark stands =>
    have known : mark ≠ 'u' := by
      rintro rfl
      exact absurd stands (by simp [escape?])
    rw [List.cons_append, List.singleton_append, readChars, stands]
    all_goals simp [known]
  | number digits alone => exact readChars_number digits alone rest
  | pair first second both =>
    obtain ⟨high, low⟩ := both
    simp only [List.cons_append, List.nil_append]
    rw [readChars, first, second]
    simp [high, low]

/-- The digits of a control character. -/
theorem hex4?_control {n : Nat} (control : n < 0x20) :
    hex4? '0' '0' (hexDigit (n / 16)) (hexDigit (n % 16)) = some n := by
  have each : ∀ n < 0x20, hex4? '0' '0' (hexDigit (n / 16)) (hexDigit (n % 16)) = some n := by
    decide
  exact each n control

/-- What is written of a character spells it, in bytes. -/
theorem spelling_escaped (c : Char) : Spelling c ((escaped c).flatMap spread) := by
  unfold escaped
  split_ifs with quote slash back form line carriage tab control
  · exact .letter (by rw [quote]; rfl)
  · exact .letter (by rw [slash]; rfl)
  · exact .letter (by rw [back]; rfl)
  · exact .letter (by rw [form]; rfl)
  · exact .letter (by rw [line]; rfl)
  · exact .letter (by rw [carriage]; rfl)
  · exact .letter (by rw [tab]; rfl)
  · have its : Char.ofNat c.toNat = c := Char.ofNat_toNat c
    have alone : isHigh c.toNat = false ∧ isLow c.toNat = false := by
      constructor
      · simp only [isHigh, Bool.and_eq_false_iff, decide_eq_false_iff_not]
        omega
      · simp only [isLow, Bool.and_eq_false_iff, decide_eq_false_iff_not]
        omega
    have digits : ∀ n < 0x20, ['\\', 'u', '0', '0', hexDigit (n / 16), hexDigit (n % 16)].all
        (fun digit => digit.toNat < 0x80) = true := by
      decide
    have ascii := spread_ascii fun digit member =>
      of_decide_eq_true (List.all_eq_true.mp (digits c.toNat control) digit member)
    have spelling := Spelling.number (hex4?_control control) alone
    rwa [its, ← ascii] at spelling
  · rw [List.flatMap_singleton]
    exact .plain (Nat.not_lt.mp control) quote slash

/-- No line feed is written for a character. -/
theorem feed_not_mem_escaped (c : Char) : '\n' ∉ escaped c := by
  unfold escaped
  split_ifs with quote slash back form line carriage tab control
  · decide
  · decide
  · decide
  · decide
  · decide
  · decide
  · decide
  · have each : ∀ n < 0x20, '\n' ∉ ['\\', 'u', '0', '0', hexDigit (n / 16), hexDigit (n % 16)] := by
      decide
    exact each c.toNat control
  · simpa using Ne.symm line

/-- Bytes are read up to the closing quote, however each of the characters is spelled. -/
theorem readChars_spelled {chars : List Char} {texts : List (List Char)}
    (spelled : List.Forall₂ Spelling chars texts) (rest : List Char) :
    readChars (texts.flatten ++ '"' :: rest) = some (chars.flatMap spread, rest) := by
  induction spelled with
  | nil => simp [readChars]
  | cons first _ ih =>
    rw [List.flatten_cons, List.append_assoc, readChars_spelling first, ih]
    rfl

/-- What is written of a text in quotes. -/
theorem toList_string (s : String) :
    (string s).toList = '"' :: (s.toList.flatMap escaped ++ ['"']) := by
  simp [string]

/-- It is written in bytes that begin with a quote. -/
theorem opened_string (s : String) :
    opened (string s) = '"' :: ((s.toList.flatMap fun c => (escaped c).flatMap spread) ++ ['"']) := by
  have quote : spread '"' = ['"'] := by decide
  simp [opened_eq, toList_string, List.flatMap_assoc, quote]

/-- A text that is written in quotes is read as that text. -/
theorem readString_string (s : String) (rest : List Char) :
    readString (opened (string s) ++ rest) = some (s, rest) := by
  have spelled : List.Forall₂ Spelling s.toList
      (s.toList.map fun c => (escaped c).flatMap spread) := by
    rw [List.forall₂_map_right_iff]
    exact List.forall₂_same.mpr fun c _ => spelling_escaped c
  have read := readChars_spelled spelled rest
  simp only [← List.flatMap_def] at read
  simp [readString, opened_string, skipSpace, isSpace, read, joined?_spread]

/-- A member whose text is written in quotes is read as that text. -/
theorem readMember_string (s : String) (rest : List Char) :
    readMember none (opened (string s) ++ rest) = some (s, rest) :=
  readString_string s rest

/-- What is read of a name and a text, with a comma behind them. -/
theorem readMembers_comma {m after : Members} {name value : String} {rest : List Char}
    (named : readNamed m name (opened (string value) ++ ',' :: rest) = some (after, ',' :: rest))
    (fuel : Nat) :
    readMembers (fuel + 1) m
        (opened (string name) ++ ':' :: (opened (string value) ++ ',' :: rest)) =
      readMembers fuel after rest := by
  simp [readMembers, readString_string, readColon, skipSpace, isSpace, named]

/-- What is read of a name and a text, with the closing brace behind them. -/
theorem readMembers_brace {m after : Members} {name value : String} {rest : List Char}
    (named : readNamed m name (opened (string value) ++ '}' :: rest) = some (after, '}' :: rest))
    (fuel : Nat) :
    readMembers (fuel + 1) m
        (opened (string name) ++ ':' :: (opened (string value) ++ '}' :: rest)) =
      some (after, rest) := by
  simp [readMembers, readString_string, readColon, skipSpace, isSpace, named]

/-- What is written of a query behind the opening brace, and what follows. -/
def members (q : Query) (rest : List Char) : List Char :=
  opened (string labelName) ++ ':' :: (opened (string q.label) ++ ',' ::
    (opened (string descriptionName) ++ ':' :: (opened (string q.description) ++ ',' ::
      (opened (string sqlName) ++ ':' :: (opened (string q.sql) ++ '}' :: rest)))))

/-- The bytes of a query are those of its members in braces. The equation of `query` is proved by
comparing long texts, so the definition is opened as it is. -/
theorem opened_query (q : Query) (rest : List Char) :
    opened (query q) ++ rest = '{' :: members q rest := by
  have opening : opened "\x7b" = ['{'] := by decide
  have colon : opened ":" = [':'] := by decide
  have comma : opened "," = [','] := by decide
  have closing : opened "\x7d" = ['}'] := by decide
  delta query members
  simp only [opened_append, opening, colon, comma, closing, List.append_assoc,
    List.cons_append, List.nil_append]

/-- There are no blanks in front of the members, and more bytes than members. -/
theorem members_shape (q : Query) (rest : List Char) :
    (∃ behind, members q rest = '"' :: behind) ∧ 2 ≤ (members q rest).length := by
  constructor
  · exact ⟨_, by rw [members, opened_string, List.cons_append]⟩
  · simp only [members, opened_string, List.length_append, List.length_cons]
    omega

/-- The members are read one after the other. -/
theorem readMembers_members (q : Query) (rest : List Char) (fuel : Nat) :
    readMembers (fuel + 3) ⟨none, none, none⟩ (members q rest) =
      some (⟨some q.label, some q.description, some q.sql⟩, rest) := by
  have label (rest : List Char) : readNamed ⟨none, none, none⟩ labelName
      (opened (string q.label) ++ rest) = some (⟨some q.label, none, none⟩, rest) := by
    simp [readNamed, readMember_string]
  have description (rest : List Char) : readNamed ⟨some q.label, none, none⟩ descriptionName
      (opened (string q.description) ++ rest) =
        some (⟨some q.label, some q.description, none⟩, rest) := by
    simp [readNamed, readMember_string, labelName, descriptionName]
  have sql (rest : List Char) : readNamed ⟨some q.label, some q.description, none⟩ sqlName
      (opened (string q.sql) ++ rest) =
        some (⟨some q.label, some q.description, some q.sql⟩, rest) := by
    simp [readNamed, readMember_string, labelName, descriptionName, sqlName]
  rw [members, readMembers_comma (label _), readMembers_comma (description _),
    readMembers_brace (sql _)]

/-- What is written of a query is read as that query, whatever follows. -/
theorem readFront_query (q : Query) (rest : List Char) :
    readFront (opened (query q) ++ rest) = some (q, rest) := by
  obtain ⟨⟨behind, quoted⟩, long⟩ := members_shape q rest
  obtain ⟨fuel, enough⟩ : ∃ fuel, (members q rest).length + 1 = fuel + 3 :=
    ⟨(members q rest).length - 2, by omega⟩
  have front : skipSpace (members q rest) = members q rest := by
    rw [quoted]
    rfl
  have object : readObject (members q rest) = some (q, rest) := by
    unfold readObject
    rw [front]
    split
    · rename_i brace
      rw [quoted] at brace
      simp at brace
    · simp only [enough, readMembers_members]
      rfl
  rw [opened_query]
  simpa [readFront, skipSpace, isSpace] using object

/-- The first of some lines is that of the first query, and a line feed ends it. -/
theorem opened_lines (q : Query) (queries : List Query) (beyond : List Char) :
    opened (lines (q :: queries)) ++ beyond =
      opened (query q) ++ '\n' :: (opened (lines queries) ++ beyond) := by
  have feed : opened "\n" = ['\n'] := by decide
  simp [lines, String.join_cons, opened_append, feed]

/-- A line feed in front of queries does not matter. -/
theorem readSome_feed (limit : Nat) (s : List Char) :
    readSome limit ('\n' :: s) = readSome limit s := by
  cases limit with
  | zero => rfl
  | succ limit => simp [readSome, readFront, skipSpace, isSpace]

/-- As many lines are read as are asked for, where these are all that there is or the limit is
reached. -/
theorem readSome_lines (queries : List Query) {limit : Nat} {beyond : List Char}
    (stops : limit ≤ queries.length ∨ skipSpace beyond = []) :
    readSome limit (opened (lines queries) ++ beyond) = .ok (queries.take limit) := by
  induction queries generalizing limit with
  | nil =>
    have none : opened (lines []) = [] := rfl
    cases limit with
    | zero => rfl
    | succ limit =>
      have nothing : skipSpace beyond = [] := stops.resolve_left (by simp)
      simp [none, readSome, nothing]
  | cons q rest ih =>
    cases limit with
    | zero => rfl
    | succ limit =>
      have further : limit ≤ rest.length ∨ skipSpace beyond = [] :=
        stops.imp_left (Nat.le_of_succ_le_succ ·)
      have more : (skipSpace (opened (query q) ++ '\n' :: (opened (lines rest) ++ beyond))).isEmpty
          = false := by
        rw [opened_query]
        rfl
      have others : readSome limit ('\n' :: (opened (lines rest) ++ beyond)) =
          .ok (rest.take limit) := (readSome_feed limit _).trans (ih further)
      simp [opened_lines, readSome, more, readFront_query, others, Except.map]

/-- There are at least as many bytes as lines. -/
theorem length_le_length_lines (queries : List Query) :
    queries.length ≤ (opened (lines queries)).length := by
  induction queries with
  | nil => exact Nat.zero_le _
  | cons q rest ih =>
    have first := opened_lines q rest []
    rw [List.append_nil, List.append_nil] at first
    rw [first, List.length_append, List.length_cons, List.length_cons]
    omega

/-- No line feed is written inside of a query. -/
theorem feed_not_mem_query (q : Query) : '\n' ∉ (query q).toList := by
  have quoted (s : String) : '\n' ∉ (string s).toList := by
    rw [toList_string]
    simp [List.mem_flatMap, feed_not_mem_escaped]
  delta query
  simp [quoted]

/-- What follows the lines of queries is not looked at when the limit is reached. -/
theorem readContent_lines {queries : List Query} {limit : Nat} (some : 0 < limit)
    (enough : limit ≤ queries.length) (beyond : List UInt8) :
    readContent limit (Scanner.bytesOfText (lines queries) ++ beyond) =
      .ok (queries.take limit) := by
  rw [readContent, if_neg (by omega), List.map_append]
  exact readSome_lines queries (Or.inl enough)

/-- The lines of queries are read as these queries, all of them or as many as the limit says. -/
theorem readMany_lines (queries : List Query) (limit : Nat) :
    readMany limit (lines queries) =
      .ok (if limit = 0 then queries else queries.take limit) := by
  have read (most : Nat) : readSome most (opened (lines queries)) = .ok (queries.take most) := by
    have nothing : skipSpace [] = [] := rfl
    simpa using readSome_lines queries (Or.inr nothing)
  rw [readMany, readContent, ← opened, read]
  split
  · have long := length_le_length_lines queries
    rw [opened, List.length_map] at long
    rw [List.take_of_length_le (by omega)]
  · rfl

end Notation

/-- Queries that a command has written as lines come back when these lines are read, every one with
its label, its description and its text, whatever characters these are of: all of them if the limit
is zero, and as many as the limit says otherwise. So they do when the lines are the content of a
file that the other command reads. Each line is the object of one query. When there are as many
lines as the limit, what follows them is not looked at, and need not even be UTF-8.

Proof: a character is read as its bytes whichever way it is spelled, so a text in quotes is read up
to its closing quote, and the bytes that were read are joined to the text. What is read of a query
is then told token by token, and what is read of lines by induction over the queries. -/
theorem queries_come_back (queries : List Query) (limit : Nat) :
    (∀ (g : Cli.Generate) (w : Workload) (shape : Shape),
        w.generateMany shape (.ofSeed (UInt64.ofNat g.seed)) g.queries = .ok queries →
        g.produce w shape = (.success, Notation.lines queries)) ∧
      linesOf (Scanner.bytesOfText (Notation.lines queries)) =
        queries.map (fun q => Scanner.bytesOfText (Notation.query q ++ "\n")) ∧
      Notation.readMany limit (Notation.lines queries) =
        .ok (if limit = 0 then queries else queries.take limit) ∧
      (∀ (s : Cli.Surroundings) (c : Cli.RunCommand),
        { c with limit }.queries?
            { s with contents := fun _ => some (Scanner.bytesOfText (Notation.lines queries)) } =
          some (if limit = 0 then queries else queries.take limit)) ∧
      (0 < limit ∧ limit ≤ queries.length →
        (∀ beyond, Notation.readMany limit (Notation.lines queries ++ beyond) =
          .ok (queries.take limit)) ∧
        ∀ (s : Cli.Surroundings) (c : Cli.RunCommand) (beyond : List UInt8),
          let content := Scanner.bytesOfText (Notation.lines queries) ++ beyond
          { c with limit }.queries? { s with contents := fun _ => some content } =
            some (queries.take limit)) := by
  refine ⟨?_, ?_, Notation.readMany_lines queries limit, ?_, ?_⟩
  · intro g w shape made
    rw [Cli.Generate.produce, made]
  · have clean : ∀ text ∈ queries.map Notation.query, '\n' ∉ text.toList := by
      simp [Notation.feed_not_mem_query]
    have lines := Scanner.linesOf_texts clean
    rwa [List.map_map, List.map_map] at lines
  · intro s c
    have read := Notation.readMany_lines queries limit
    rw [Notation.readMany] at read
    simp [Cli.RunCommand.queries?, read, Except.toOption]
  · rintro ⟨some, enough⟩
    constructor
    · intro beyond
      rw [Notation.readMany, Scanner.bytesOfText_append]
      exact Notation.readContent_lines some enough _
    · intro s c beyond
      simp [Cli.RunCommand.queries?, Notation.readContent_lines some enough, Except.toOption]

/-- A query with quotes, a backslash, control characters and a character beyond the first plane is
the one that is read of two, and what is no query behind them does not matter: neither text nor, in
a file, a byte that is no text. -/
theorem unusual_query_comes_back :
    let unusual : Query := ⟨"a \"b\" \\c", "line\nfeed\x01", "SELECT 😀"⟩
    let written := Notation.lines [unusual, ⟨"", "", ""⟩]
    let command : Cli.RunCommand := ⟨"", "", "-", 1, 1, false⟩
    Notation.readMany 1 (written ++ "no query") = .ok [unusual] ∧
      ∀ s : Cli.Surroundings, command.queries?
        { s with contents := fun _ => some (Scanner.bytesOfText written ++ [0xff]) } =
          some [unusual] := by
  intro unusual written command
  obtain ⟨text, file⟩ := (queries_come_back [unusual, ⟨"", "", ""⟩] 1).2.2.2.2 (by decide)
  exact ⟨text "no query", fun s => file s command [0xff]⟩

end SeriesBench
