import MessageBus.Xml.Lexical

namespace MessageBus

namespace Xml

/-- Whether no two items are equal. -/
def distinct : List (List Nat) → Bool
  | [] => true
  | x :: rest => !rest.contains x && distinct rest

/-- Namespace bindings in scope: prefix to namespace name, the default namespace under the
empty prefix, innermost first. -/
abbrev Scope := List (List Nat × List Nat)

/-- The namespace the `xml` prefix is bound to. -/
def xmlNamespace : List Nat := code "http://www.w3.org/XML/1998/namespace"

/-- The namespace of the `xmlns` attributes themselves. -/
def xmlnsNamespace : List Nat := code "http://www.w3.org/2000/xmlns/"

/-- A qualified name split at its colon: the prefix, if any, and the local part. -/
def split? (n : List Nat) : Option (Option (List Nat) × List Nat) :=
  let before := n.takeWhile (· != 58)
  match n.dropWhile (· != 58) with
  | [] => some (none, n)
  | _ :: part =>
    if before.isEmpty || part.isEmpty || part.contains 58 then none
    else some (some before, part)

/-- The namespace bound to a prefix. -/
def lookup (scope : Scope) (p : List Nat) : Option (List Nat) :=
  if p == code "xml" then some xmlNamespace
  else (scope.find? (fun b => b.1 == p)).map Prod.snd

/-- Whether a namespace name may be bound to no prefix: neither reserved nor holding `}`. -/
def isBindable (v : List Nat) : Bool :=
  v != xmlnsNamespace && !v.contains 125

/-- The scope inside an element, with the bindings its `xmlns` attributes make. -/
def bind (scope : Scope) : List (List Nat × List Nat) → Option Scope
  | [] => some scope
  | (n, v) :: rest =>
    if n == code "xmlns" then
      if isBindable v && v != xmlNamespace then bind (([], v) :: scope) rest else none
    else
      match after? (code "xmlns:") n with
      | some p =>
        if v.isEmpty || !isBindable v || p == code "xmlns" ||
            (p == code "xml") != (v == xmlNamespace) then none
        else bind ((p, v) :: scope) rest
      | none => bind scope rest

/-- A name in a namespace, written `{uri}name`. -/
def expanded (uri part : List Nat) : List Nat := 123 :: uri ++ 125 :: part

/-- An element's expanded name. -/
def elementName (scope : Scope) (n : List Nat) : Option (List Nat) := do
  match ← split? n with
  | (none, part) =>
    match lookup scope [] with
    | some uri => if uri.isEmpty then some part else some (expanded uri part)
    | none => some part
  | (some p, part) =>
    if p == code "xmlns" then none
    else
      let uri ← lookup scope p
      some (expanded uri part)

/-- Whether an attribute binds a namespace. -/
def isBinding (n : List Nat) : Bool := n == code "xmlns" || (after? (code "xmlns:") n).isSome

/-- The attributes with expanded names, those that bind namespaces left out. -/
def attributeNames (scope : Scope) : List (List Nat × List Nat) →
    Option (List (List Nat × List Nat))
  | [] => some []
  | (n, v) :: rest => do
    let more ← attributeNames scope rest
    if isBinding n then some more
    else
      match ← split? n with
      | (none, part) => some ((part, v) :: more)
      | (some p, part) =>
        let uri ← lookup scope p
        some ((expanded uri part, v) :: more)

end Xml

end MessageBus
