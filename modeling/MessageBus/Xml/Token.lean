import MessageBus.Xml.Lexical

namespace MessageBus

namespace Xml

/-- A token of a document type declaration. White space between tokens is not one. -/
inductive Token where
  /-- A name; `prefixed` when it has a colon. -/
  | name (text : List Nat) (prefixed : Bool)
  /-- Name characters that do not make a name. -/
  | nameToken (text : List Nat)
  /-- A name followed by one of the occurrence marks `?`, `*` and `+`. -/
  | marked (text : List Nat) (mark : Nat)
  /-- A keyword after `#`. -/
  | pound (text : List Nat)
  /-- A quoted literal, without its quotes. -/
  | literal (text : List Nat)
  | openParen
  /-- A closing parenthesis, with the occurrence mark right after it, if any. -/
  | closeParen (mark : Option Nat)
  | bar
  | comma
  | openBracket
  | closeBracket
  /-- The `<!` of a declaration and its keyword. -/
  | declOpen (keyword : List Nat)
  | declClose
  /-- A `%` standing alone. -/
  | percent
  /-- A parameter entity reference, `%name;`. -/
  | parameterRef (name : List Nat)
  | comment
  | instruction

namespace Token

/-- Whether a code point may follow a name directly. -/
def endsName (c : Nat) : Bool :=
  isSpace c || c == 62 || c == 41 || c == 44 || c == 124 || c == 91 || c == 37

/-- Whether a code point is an occurrence mark. -/
def isMark (c : Nat) : Bool := c == 63 || c == 42 || c == 43

/-- The rest of a name after its first code point, which gave it its kind so far: `some p` for
a name (`p` when it has had a colon), `none` for a name token. -/
def nameRest : List Nat → Option Bool → List Nat → Option (Token × List Nat)
  | [], _, _ => none
  | c :: rest, kind, acc =>
    if c == 58 then
      match kind, rest with
      | some false, d :: _ =>
        if isNameChar d then nameRest rest (some true) (58 :: acc)
        else nameRest rest none (58 :: acc)
      | some false, [] => none
      | _, _ => nameRest rest none (58 :: acc)
    else if isNameChar c then nameRest rest kind (c :: acc)
    else if isMark c then
      match kind with
      | some _ => some (.marked acc.reverse c, rest)
      | none => none
    else if endsName c then
      match kind with
      | some p => some (.name acc.reverse p, c :: rest)
      | none => some (.nameToken acc.reverse, c :: rest)
    else none

/-- A literal after its opening quote `q`: its code points up to the closing quote, which must
be followed by white space, `>`, `%` or `[`. -/
def literalRest (q : Nat) : List Nat → List Nat → Option (Token × List Nat)
  | [], _ => none
  | c :: rest, acc =>
    if c == q then
      match rest with
      | d :: _ =>
        if isSpace d || d == 62 || d == 37 || d == 91 then some (.literal acc.reverse, rest)
        else none
      | [] => none
    else if isChar c then literalRest q rest (c :: acc)
    else none

/-- Whether a code point may be part of a declaration's keyword. -/
def isKeywordChar (c : Nat) : Bool := (65 ≤ c && c ≤ 90) || (97 ≤ c && c ≤ 122) || c == 95

/-- The keyword of a declaration after its `<!`. It must be followed by white space, or by a
`%` that starts a reference. -/
def declaration? (cs : List Nat) : Option (Token × List Nat) :=
  let keyword := cs.takeWhile isKeywordChar
  let rest := cs.dropWhile isKeywordChar
  if keyword.isEmpty then none
  else
    match rest with
    | 37 :: d :: _ =>
      if isSpace d || d == 37 then none else some (.declOpen keyword, rest)
    | d :: _ => if isSpace d then some (.declOpen keyword, rest) else none
    | [] => none

/-- What follows a `%`: a reference `%name;`, or the `%` alone when white space or another `%`
follows it. -/
def percent? (cs : List Nat) : Option (Token × List Nat) :=
  match cs with
  | d :: _ =>
    if isSpace d || d == 37 then some (.percent, cs)
    else do
      let (n, rest) ← name? cs
      let rest ← after? [59] rest
      some (.parameterRef n, rest)
  | [] => none

/-- A keyword after `#`: a name, followed by white space, `)`, `>`, `%` or `|`. -/
def pound? (cs : List Nat) : Option (Token × List Nat) := do
  let (n, rest) ← name? cs
  match rest with
  | d :: _ =>
    if isSpace d || d == 41 || d == 62 || d == 37 || d == 124 then some (.pound n, rest)
    else none
  | [] => none

/-- The token at the front of code points that do not start with white space. -/
def next? (cs : List Nat) : Option (Token × List Nat) :=
  match cs with
  | 60 :: 33 :: 45 :: 45 :: rest => (Xml.comment rest).map (Token.comment, ·)
  | 60 :: 33 :: rest => declaration? rest
  | 60 :: 63 :: rest => (Xml.instruction rest).map (Token.instruction, ·)
  | 37 :: rest => percent? rest
  | 35 :: rest => pound? rest
  | 40 :: rest => some (.openParen, rest)
  | 41 :: rest =>
    match rest with
    | d :: more =>
      if isMark d then some (.closeParen (some d), more)
      else if isSpace d || d == 62 || d == 44 || d == 124 || d == 41 then
        some (.closeParen none, rest)
      else none
    | [] => none
  | 124 :: rest => some (.bar, rest)
  | 44 :: rest => some (.comma, rest)
  | 91 :: rest => some (.openBracket, rest)
  | 93 :: 93 :: 62 :: _ => none
  | 93 :: rest => some (.closeBracket, rest)
  | 62 :: rest => some (.declClose, rest)
  | c :: rest =>
    if c == 34 || c == 39 then literalRest c rest []
    else if isNameStart c then nameRest rest (some false) [c]
    else if isNameChar c || c == 58 then nameRest rest none [c]
    else none
  | [] => none

/-- The next token after any white space. -/
def following? (cs : List Nat) : Option (Token × List Nat) := next? (skipSpace cs)

end Token

end Xml

end MessageBus
