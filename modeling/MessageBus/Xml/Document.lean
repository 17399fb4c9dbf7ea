import MessageBus.Text.Basic
import MessageBus.Xml.Declarations
import MessageBus.Xml.Namespace

namespace MessageBus

namespace Xml

/-- An element: its expanded name, its attributes by expanded name, and its child elements. -/
structure Element where
  tag : Text
  attributes : List (Text × Text)
  children : List Element
  deriving Inhabited

/-- The value of an attribute without a namespace. -/
def Element.get (e : Element) (name : String) : Option Text :=
  (e.attributes.find? (fun a => a.1 == Text.ofString name)).map Prod.snd

/-- A quoted value at the front, as written: its code points up to the closing quote. -/
def rawValue? : List Nat → Option (List Nat × List Nat)
  | q :: rest =>
    if q == 34 || q == 39 then
      match rest.dropWhile (· != q) with
      | _ :: after => some (rest.takeWhile (· != q), after)
      | [] => none
    else none
  | [] => none

/-- The attributes of a start tag as written, up to its `>` or `/>`. Each follows white space. -/
def attributes : Nat → List Nat → List (List Nat × List Nat) →
    Option (List (List Nat × List Nat) × List Nat)
  | 0, _, _ => none
  | fuel + 1, cs, acc =>
    let rest := skipSpace cs
    match rest with
    | 62 :: _ | 47 :: _ => some (acc.reverse, rest)
    | _ =>
      if !startsWithSpace cs then none
      else do
        let (n, rest) ← qname? rest
        let rest ← after? [61] (skipSpace rest)
        let (v, rest) ← rawValue? (skipSpace rest)
        attributes fuel rest ((n, v) :: acc)

/-- The attribute values of a start tag of element type `element`, normalized. -/
def normalizeValues (d : DocumentType) (fuel : Nat) (element : List Nat) :
    List (List Nat × List Nat) → Nat → Option (List (List Nat × List Nat) × Nat)
  | [], spent => some ([], spent)
  | (n, v) :: rest, spent => do
    let (v, spent) ← d.normalize fuel (d.isCdata element n) spent v
    let (more, spent) ← normalizeValues d fuel element rest spent
    some ((n, v) :: more, spent)

/-- Where content ends: at the end tag of an element, or at the end of an entity's text. -/
inductive Closing where
  | tag (qname : List Nat)
  | entityEnd

mutual

/-- An element after its `<`, with the octets expanded so far and what follows it; `opened`
holds the entities being expanded. Its names and values are text, whose characters lie below
U+110000 as every XML character does. -/
def element : Nat → DocumentType → Scope → List (List Nat) → Nat → List Nat →
    Option (Element × Nat × List Nat)
  | 0, _, _, _, _, _ => none
  | fuel + 1, d, scope, opened, spent, cs => do
    let (qname, rest) ← qname? cs
    let (raw, rest) ← attributes (rest.length + 1) rest []
    if !distinct (raw.map Prod.fst) then none
    let (given, spent) ← normalizeValues d fuel qname raw spent
    let all := given ++ d.defaults qname (raw.map Prod.fst)
    let scope ← bind scope all
    let tag ← elementName scope qname
    let attrs ← attributeNames scope all
    if !distinct (attrs.map Prod.fst) then none
    let tag ← Text.ofCodes? tag
    let attrs ← attrs.mapM fun (n, v) => return (← Text.ofCodes? n, ← Text.ofCodes? v)
    let make (children : List Element) : Element := ⟨tag, attrs, children⟩
    match rest with
    | 47 :: 62 :: rest => some (make [], spent, rest)
    | 62 :: rest => do
      let (children, spent, rest) ← content fuel d scope (.tag qname) opened spent rest []
      some (make children, spent, rest)
    | _ => none

/-- Content up to where it closes: the child elements, after those in `acc` (held reversed),
with the octets expanded so far and what follows the end tag. -/
def content : Nat → DocumentType → Scope → Closing → List (List Nat) → Nat → List Nat →
    List Element → Option (List Element × Nat × List Nat)
  | 0, _, _, _, _, _, _, _ => none
  | fuel + 1, d, scope, closing, opened, spent, cs, acc =>
    match cs with
    | [] =>
      match closing with
      | .entityEnd => some (acc.reverse, spent, [])
      | .tag _ => none
    | 60 :: 47 :: rest =>
      match closing with
      | .entityEnd => none
      | .tag qname => do
        let (n, rest) ← qname? rest
        if n != qname then none
        match skipSpace rest with
        | 62 :: rest => some (acc.reverse, spent, rest)
        | _ => none
    | 60 :: 33 :: 45 :: 45 :: rest => do
      let rest ← comment rest
      content fuel d scope closing opened spent rest acc
    | 60 :: 33 :: rest => do
      let rest ← after? (code "[CDATA[") rest
      let rest ← cdata rest
      content fuel d scope closing opened spent rest acc
    | 60 :: 63 :: rest => do
      let rest ← instruction rest
      content fuel d scope closing opened spent rest acc
    | 60 :: rest => do
      let (e, spent, rest) ← element fuel d scope opened spent rest
      content fuel d scope closing opened spent rest (e :: acc)
    | 38 :: rest =>
      match reference? rest with
      | some (.char _, rest) => content fuel d scope closing opened spent rest acc
      | some (.entity n, rest) =>
        if (predefined? n).isSome then content fuel d scope closing opened spent rest acc
        else
          match d.entity? n with
          | some (.internal text) =>
            let spent := spent + utf8Size text
            if opened.contains n || d.expansionLimit ≤ spent then none
            else do
              let (es, spent, _) ← content fuel d scope .entityEnd (n :: opened) spent text []
              content fuel d scope closing opened spent rest (es.reverse ++ acc)
          | _ => none
      | none => none
    | 93 :: 93 :: 62 :: _ => none
    | c :: rest => if isChar c then content fuel d scope closing opened spent rest acc else none

end

/-- The pseudo-attributes of an XML declaration, up to its `?>`. -/
def pseudoAttributes : Nat → List Nat → List (List Nat × List Nat) →
    Option (List (List Nat × List Nat) × List Nat)
  | 0, _, _ => none
  | fuel + 1, cs, acc =>
    match skipSpace cs with
    | 63 :: 62 :: rest => some (acc.reverse, rest)
    | rest =>
      if !startsWithSpace cs then none
      else do
        let (n, rest) ← name? rest
        let rest ← after? [61] (skipSpace rest)
        let (v, rest) ← rawValue? (skipSpace rest)
        pseudoAttributes fuel rest ((n, v) :: acc)

/-- An ASCII letter. -/
def isLetter (c : Nat) : Bool := (65 ≤ c && c ≤ 90) || (97 ≤ c && c ≤ 122)

/-- Code points a pseudo-attribute's value may hold: ASCII letters and digits, `.`, `_`
and `-`. -/
def isPseudoChar (c : Nat) : Bool := isLetter c || isDigit c || c == 46 || c == 95 || c == 45

/-- A version: any run of the code points a pseudo-attribute's value may hold; a reader of
XML 1.0 takes later versions as 1.0. -/
def isVersion (v : List Nat) : Bool := v.all isPseudoChar

/-- An encoding name: a letter, then letters, digits, `.`, `_` and `-`. -/
def isEncoding : List Nat → Bool
  | c :: rest => isLetter c && rest.all isPseudoChar
  | [] => false

/-- A standalone flag: `yes` or `no`. -/
def isFlag (v : List Nat) : Bool := v == code "yes" || v == code "no"

/-- Whether pseudo-attributes make an XML declaration: a version, then optionally an encoding,
then optionally a standalone flag. -/
def isDeclaration : List (List Nat × List Nat) → Bool
  | (n, v) :: rest =>
    n == code "version" && isVersion v &&
      match rest with
      | [] => true
      | [(n, v)] => (n == code "encoding" && isEncoding v) || (n == code "standalone" && isFlag v)
      | [(n, v), (m, w)] =>
        n == code "encoding" && isEncoding v && m == code "standalone" && isFlag w
      | _ => false
  | [] => false

/-- The XML declaration at the start of a document, if it has one: whether it says the document
is standalone, and what follows it. -/
def declaration (cs : List Nat) : Option (Bool × List Nat) :=
  match after? (code "<?xml") cs with
  | some rest =>
    if startsWithSpace rest then do
      let (pairs, rest) ← pseudoAttributes (rest.length + 1) rest []
      if isDeclaration pairs then
        some (pairs.contains (code "standalone", code "yes"), rest)
      else none
    else some (false, cs)
  | none => some (false, cs)

/-- The root element of a document, if the document is well-formed. -/
def parse (t : Text) : Option Element := do
  let cs := match t.codes with
    | 0xFEFF :: rest => rest
    | cs => cs
  let cs := newlines cs
  let limit := expansionLimit (utf8Size cs)
  let fuel := cs.length + limit + 2
  let (standalone, rest) ← declaration cs
  let rest ← misc fuel rest
  let plain : DocumentType := { standalone, expansionLimit := limit }
  let (d, spent, rest) ← match rest with
    | 60 :: 33 :: _ => do
      let (d, spent, rest) ← Declaration.doctype fuel plain rest
      let rest ← misc fuel rest
      pure (d, spent, rest)
    | _ => pure (plain, 0, rest)
  match rest with
  | 60 :: rest => do
    let (root, _, rest) ← element fuel d [] [] spent rest
    let rest ← misc fuel rest
    if rest.isEmpty then some root else none
  | _ => none

end Xml

end MessageBus
