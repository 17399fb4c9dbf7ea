import MessageBus.Xml.Token

namespace MessageBus

namespace Xml

/-- What a general entity stands for. -/
inductive EntityValue where
  /-- Text that replaces each reference, its character references resolved. -/
  | internal (text : List Nat)
  /-- A parsed entity held elsewhere, which this reader does not fetch. -/
  | external
  /-- Data in another format, which a reference may not name. -/
  | unparsed

/-- A declared attribute of an element type. -/
structure AttributeDecl where
  element : List Nat
  name : List Nat
  /-- Whether the value is character data; otherwise it holds tokens, and white space in it
  collapses. -/
  cdata : Bool
  /-- The normalized default value, if there is one. -/
  default : Option (List Nat)

/-- What a document type declaration tells a reader of the document. -/
structure DocumentType where
  /-- The general entities, first declaration first. -/
  entities : List (List Nat × EntityValue) := []
  /-- The declared attributes, one for each element type and name. -/
  attributes : List AttributeDecl := []
  /-- Whether the XML declaration says the document is standalone. -/
  standalone : Bool := false
  /-- Whether declarations may lie outside the document: it names an external subset or refers
  to a parameter entity. -/
  external : Bool := false
  /-- Whether declarations are still taken in. -/
  reading : Bool := true
  /-- How many octets of text entity expansion may produce before the document counts as
  malformed. -/
  expansionLimit : Nat

/-- The expansion limit of a document of `size` octets: expansion fails once it and the
document reach eight mebibytes together and more than a hundred times the document's size. -/
def expansionLimit (size : Nat) : Nat := max (8388608 - size) (99 * size + 1)

namespace DocumentType

/-- Whether a reference to an entity without a declaration stands for nothing in an attribute
value, rather than being an error. -/
def lenient (d : DocumentType) : Bool := d.external && !d.standalone

/-- What a general entity stands for, if it is declared. -/
def entity? (d : DocumentType) (n : List Nat) : Option EntityValue :=
  (d.entities.find? (·.1 == n)).map Prod.snd

/-- Take in a general entity, unless declarations are no longer taken in, its name is one of
the predefined five, or it was declared before. -/
def declareEntity (d : DocumentType) (n : List Nat) (v : EntityValue) : DocumentType :=
  if d.reading && (predefined? n).isNone && (d.entity? n).isNone then
    { d with entities := d.entities ++ [(n, v)] }
  else d

/-- The declaration of an attribute of an element type, if there is one. -/
def attribute? (d : DocumentType) (element n : List Nat) : Option AttributeDecl :=
  d.attributes.find? (fun a => a.element == element && a.name == n)

/-- Take in an attribute declaration, unless the attribute was declared before. -/
def declareAttribute (d : DocumentType) (a : AttributeDecl) : DocumentType :=
  if (d.attribute? a.element a.name).isSome then d
  else { d with attributes := d.attributes ++ [a] }

/-- Whether an attribute of an element type holds character data: unless declared otherwise. -/
def isCdata (d : DocumentType) (element n : List Nat) : Bool :=
  ((d.attribute? element n).map (·.cdata)).getD true

/-- The default values of an element type's attributes, for those not among `given`. -/
def defaults (d : DocumentType) (element : List Nat) (given : List (List Nat)) :
    List (List Nat × List Nat) :=
  d.attributes.filterMap fun a =>
    if a.element == element && !given.contains a.name then a.default.map (a.name, ·) else none

/-- A space added to a normalized value, held reversed. In a value of tokens a space neither
starts the value nor follows another. -/
def pushSpace (cdata : Bool) (acc : List Nat) : List Nat :=
  if !cdata && (acc.isEmpty || acc.head? == some 32) then acc else 32 :: acc

/-- Normalize attribute text and add it to `acc`, held reversed, with the octets expanded so far
in `spent`. White space becomes a space, references are replaced, and the replacement text of an
entity is normalized in turn; `opened` holds the entities being expanded. A `<` is refused, and
so is a reference to an entity that is held elsewhere, unparsed, being expanded, or undeclared
in a document that is not lenient. -/
def appendValue (d : DocumentType) :
    Nat → Bool → List (List Nat) → Nat → List Nat → List Nat → Option (List Nat × Nat)
  | 0, _, _, _, _, _ => none
  | fuel + 1, cdata, opened, spent, cs, acc =>
    match cs with
    | [] => some (acc, spent)
    | 60 :: _ => none
    | 38 :: rest =>
      match reference? rest with
      | none => none
      | some (.char c, rest) =>
        d.appendValue fuel cdata opened spent rest (if c == 32 then pushSpace cdata acc else c :: acc)
      | some (.entity n, rest) =>
        match predefined? n with
        | some c => d.appendValue fuel cdata opened spent rest (c :: acc)
        | none =>
          match d.entity? n with
          | none => if d.lenient then d.appendValue fuel cdata opened spent rest acc else none
          | some (.internal text) =>
            let spent := spent + utf8Size text
            if opened.contains n || d.expansionLimit ≤ spent then none
            else do
              let (acc, spent) ← d.appendValue fuel cdata (n :: opened) spent text acc
              d.appendValue fuel cdata opened spent rest acc
          | some _ => none
    | c :: rest =>
      if isSpace c then d.appendValue fuel cdata opened spent rest (pushSpace cdata acc)
      else if isChar c then d.appendValue fuel cdata opened spent rest (c :: acc)
      else none

/-- The normalized value of attribute text: a value of tokens loses a final space. -/
def normalize (d : DocumentType) (fuel : Nat) (cdata : Bool) (spent : Nat) (cs : List Nat) :
    Option (List Nat × Nat) := do
  let (acc, spent) ← d.appendValue fuel cdata [] spent cs []
  let acc := if !cdata && acc.head? == some 32 then acc.drop 1 else acc
  some (acc.reverse, spent)

end DocumentType

/-- The replacement text of an entity value: character references resolved and entity
references kept as written. A `%` is refused, since parameter entity references may not stand
inside a declaration of the internal subset, and so is an `&` that starts no reference. -/
def replacementText : Nat → List Nat → List Nat → Option (List Nat)
  | 0, _, _ => none
  | _ + 1, [], acc => some acc.reverse
  | fuel + 1, c :: rest, acc =>
    if c == 37 then none
    else if c == 38 then
      match reference? rest with
      | some (.char c, more) => replacementText fuel more (c :: acc)
      | some (.entity n, more) => replacementText fuel more ((38 :: n ++ [59]).reverse ++ acc)
      | none => none
    else replacementText fuel rest (c :: acc)

/-- Code points allowed in a public identifier. -/
def isPublicChar (c : Nat) : Bool :=
  c == 32 || c == 13 || c == 10 || (65 ≤ c && c ≤ 90) || (97 ≤ c && c ≤ 122) ||
    (48 ≤ c && c ≤ 57) || (code "-'()+,./:=?;!*#@$_%").contains c

namespace Declaration

/-- A literal next. -/
def literal? (cs : List Nat) : Option (List Nat × List Nat) :=
  match Token.following? cs with
  | some (.literal t, rest) => some (t, rest)
  | _ => none

/-- A public identifier next. -/
def publicId? (cs : List Nat) : Option (List Nat) := do
  let (p, rest) ← literal? cs
  if p.all isPublicChar then some rest else none

/-- A name without a colon next. -/
def plainName? (cs : List Nat) : Option (List Nat × List Nat) :=
  match Token.following? cs with
  | some (.name n false, rest) => some (n, rest)
  | _ => none

/-- A name, with or without a colon, next. -/
def anyName? (cs : List Nat) : Option (List Nat × List Nat) :=
  match Token.following? cs with
  | some (.name n _, rest) => some (n, rest)
  | _ => none

/-- The closing `>` of a declaration next. -/
def close? (cs : List Nat) : Option (List Nat) :=
  match Token.following? cs with
  | some (.declClose, rest) => some rest
  | _ => none

/-- An external identifier after its keyword: `SYSTEM` and a literal, or `PUBLIC` and two. -/
def externalId? (keyword : List Nat) (cs : List Nat) : Option (List Nat) := do
  if keyword == code "SYSTEM" then (literal? cs).map Prod.snd
  else if keyword == code "PUBLIC" then do
    let rest ← publicId? cs
    (literal? rest).map Prod.snd
  else none

/-- The rest of a parameter entity declaration, after its `%`. -/
def parameterEntity (d : DocumentType) (cs : List Nat) : Option (List Nat) := do
  let (_, rest) ← plainName? cs
  match Token.following? rest with
  | some (.literal v, rest) =>
    if d.reading then discard (replacementText (v.length + 1) v [])
    close? rest
  | some (.name k false, rest) => externalId? k rest >>= close?
  | _ => none

/-- The rest of a general entity declaration, after its name `n`. -/
def generalEntity (d : DocumentType) (n : List Nat) (cs : List Nat) :
    Option (DocumentType × List Nat) := do
  match Token.following? cs with
  | some (.literal v, rest) =>
    let d ← if d.reading then do
        let text ← replacementText (v.length + 1) v []
        pure (d.declareEntity n (.internal text))
      else pure d
    let rest ← close? rest
    some (d, rest)
  | some (.name k false, rest) =>
    let rest ← externalId? k rest
    match Token.following? rest with
    | some (.declClose, rest) => some (d.declareEntity n .external, rest)
    | some (.name k false, rest) =>
      if k != code "NDATA" then none
      let (_, rest) ← plainName? rest
      let rest ← close? rest
      some (d.declareEntity n .unparsed, rest)
    | _ => none
  | _ => none

/-- The rest of an entity declaration, after its keyword. -/
def entity (d : DocumentType) (cs : List Nat) : Option (DocumentType × List Nat) :=
  match Token.following? cs with
  | some (.percent, rest) => (parameterEntity d rest).map (d, ·)
  | some (.name n false, rest) => generalEntity d n rest
  | _ => none

/-- Alternatives inside parentheses, after the opening one, each taken by `item`. -/
def alternatives (item : Token → Bool) : Nat → List Nat → Option (List Nat)
  | 0, _ => none
  | fuel + 1, cs =>
    match Token.following? cs with
    | some (t, rest) =>
      if !item t then none
      else
        match Token.following? rest with
        | some (.bar, rest) => alternatives item fuel rest
        | some (.closeParen none, rest) => some rest
        | _ => none
    | none => none

/-- The type of a declared attribute: whether it holds character data. -/
def attributeType (cs : List Nat) : Option (Bool × List Nat) :=
  match Token.following? cs with
  | some (.name k false, rest) =>
    if k == code "CDATA" then some (true, rest)
    else if [code "ID", code "IDREF", code "IDREFS", code "ENTITY", code "ENTITIES",
        code "NMTOKEN", code "NMTOKENS"].contains k then some (false, rest)
    else if k == code "NOTATION" then
      match Token.following? rest with
      | some (.openParen, rest) =>
        let plain (t : Token) : Bool := match t with
          | .name _ false => true
          | _ => false
        (alternatives plain (rest.length + 1) rest).map (false, ·)
      | _ => none
    else none
  | some (.openParen, rest) =>
    let word (t : Token) : Bool := match t with
      | .name _ _ | .nameToken _ => true
      | _ => false
    (alternatives word (rest.length + 1) rest).map (false, ·)
  | _ => none

/-- The default of a declared attribute: its literal, if it has one. -/
def defaultValue (cs : List Nat) : Option (Option (List Nat) × List Nat) :=
  match Token.following? cs with
  | some (.pound k, rest) =>
    if k == code "IMPLIED" || k == code "REQUIRED" then some (none, rest)
    else if k == code "FIXED" then (literal? rest).map fun (v, rest) => (some v, rest)
    else none
  | some (.literal v, rest) => some (some v, rest)
  | _ => none

/-- The attribute definitions of an attribute list declaration for `element`, up to its `>`.
A default value is normalized as the attribute's type says, when declarations are taken in. -/
def attributeDefs (fuel : Nat) (element : List Nat) :
    Nat → DocumentType → Nat → List Nat → Option (DocumentType × Nat × List Nat)
  | 0, _, _, _ => none
  | steps + 1, d, spent, cs =>
    match Token.following? cs with
    | some (.declClose, rest) => some (d, spent, rest)
    | some (.name n _, rest) => do
      let (cdata, rest) ← attributeType rest
      let (default, rest) ← defaultValue rest
      if !d.reading then attributeDefs fuel element steps d spent rest
      else
        let (default, spent) ← match default with
          | some v => (d.normalize fuel cdata spent v).map fun (v, spent) => (some v, spent)
          | none => some (none, spent)
        let d := d.declareAttribute { element, name := n, cdata, default }
        attributeDefs fuel element steps d spent rest
    | _ => none

/-- The rest of an attribute list declaration, after its keyword. -/
def attributeList (fuel : Nat) (d : DocumentType) (spent : Nat) (cs : List Nat) :
    Option (DocumentType × Nat × List Nat) := do
  let (element, rest) ← anyName? cs
  attributeDefs fuel element (rest.length + 1) d spent rest

/-- Content particles of an element type's content model, up to the `)` that closes the
outermost group. `expecting` tells whether a particle comes next; `groups` holds, for each open
group, the connector it uses so far, innermost first: a group joins its particles all with `,`
or all with `|`. -/
def particles : Nat → Bool → List (Option Nat) → List Nat → Option (List Nat)
  | 0, _, _, _ => none
  | fuel + 1, true, groups, cs =>
    match Token.following? cs with
    | some (.openParen, rest) => particles fuel true (none :: groups) rest
    | some (.name _ _, rest) | some (.marked _ _, rest) => particles fuel false groups rest
    | _ => none
  | fuel + 1, false, groups, cs =>
    match Token.following? cs, groups with
    | some (.closeParen _, rest), [_] => some rest
    | some (.closeParen _, rest), _ :: outer => particles fuel false outer rest
    | some (.comma, rest), connector :: outer =>
      if connector == some 124 then none else particles fuel true (some 44 :: outer) rest
    | some (.bar, rest), connector :: outer =>
      if connector == some 44 then none else particles fuel true (some 124 :: outer) rest
    | _, _ => none

/-- Mixed content after `#PCDATA`: element type names joined by `|`, and a closing `)*`; with
no names, the `*` may be left out. `named` tells whether a name came. -/
def mixed : Nat → Bool → List Nat → Option (List Nat)
  | 0, _, _ => none
  | fuel + 1, named, cs =>
    match Token.following? cs with
    | some (.closeParen (some 42), rest) => some rest
    | some (.closeParen none, rest) => if named then none else some rest
    | some (.bar, rest) =>
      match Token.following? rest with
      | some (.name _ _, rest) => mixed fuel true rest
      | _ => none
    | _ => none

/-- The rest of an element type declaration, after its keyword. -/
def elementType (cs : List Nat) : Option (List Nat) := do
  let (_, rest) ← anyName? cs
  match Token.following? rest with
  | some (.name k false, rest) =>
    if k == code "EMPTY" || k == code "ANY" then close? rest else none
  | some (.openParen, rest) =>
    match Token.following? rest with
    | some (.pound k, more) =>
      if k == code "PCDATA" then mixed (more.length + 1) false more >>= close? else none
    | _ => particles (rest.length + 1) true [none] rest >>= close?
  | _ => none

/-- The rest of a notation declaration, after its keyword. -/
def notationDecl (cs : List Nat) : Option (List Nat) := do
  let (_, rest) ← plainName? cs
  match Token.following? rest with
  | some (.name k false, rest) =>
    if k == code "SYSTEM" then (literal? rest).map Prod.snd >>= close?
    else if k == code "PUBLIC" then do
      let rest ← publicId? rest
      match Token.following? rest with
      | some (.literal _, rest) => close? rest
      | some (.declClose, rest) => some rest
      | _ => none
    else none
  | _ => none

/-- The declarations of an internal subset, after its `[`, through its `]`. -/
def subset (fuel : Nat) : Nat → DocumentType → Nat → List Nat →
    Option (DocumentType × Nat × List Nat)
  | 0, _, _, _ => none
  | steps + 1, d, spent, cs =>
    match Token.following? cs with
    | some (.closeBracket, rest) => some (d, spent, rest)
    | some (.comment, rest) | some (.instruction, rest) => subset fuel steps d spent rest
    | some (.parameterRef _, rest) =>
      subset fuel steps { d with external := true, reading := d.standalone } spent rest
    | some (.declOpen k, rest) =>
      if k == code "ENTITY" then do
        let (d, rest) ← entity d rest
        subset fuel steps d spent rest
      else if k == code "ATTLIST" then do
        let (d, spent, rest) ← attributeList fuel d spent rest
        subset fuel steps d spent rest
      else if k == code "ELEMENT" then elementType rest >>= subset fuel steps d spent
      else if k == code "NOTATION" then notationDecl rest >>= subset fuel steps d spent
      else none
    | _ => none

/-- What follows a document type's external identifier or name: its internal subset, if any,
and the closing `>`. -/
def ending (fuel : Nat) (d : DocumentType) (cs : List Nat) : Option (DocumentType × Nat × List Nat) :=
  match Token.following? cs with
  | some (.declClose, rest) => some (d, 0, rest)
  | some (.openBracket, rest) => do
    let (d, spent, rest) ← subset fuel (rest.length + 1) d 0 rest
    let rest ← close? rest
    some (d, spent, rest)
  | _ => none

/-- A document type declaration at the front, from its `<!`: what it declares, the octets its
attribute defaults expanded, and what follows it. -/
def doctype (fuel : Nat) (d : DocumentType) (cs : List Nat) :
    Option (DocumentType × Nat × List Nat) := do
  let (keyword, rest) ← Token.next? cs
  match keyword with
  | .declOpen k => if k != code "DOCTYPE" then none
  | _ => none
  let (_, rest) ← anyName? rest
  match Token.following? rest with
  | some (.name k false, more) =>
    let more ← externalId? k more
    ending fuel { d with external := true } more
  | _ => ending fuel d rest

end Declaration

end Xml

end MessageBus
