import MessageBus.Signature.Basic
import MessageBus.Text.Quoted

namespace MessageBus

/-- What is wrong with the text of a signature, at the first place a reader finds out. -/
inductive SigFault where
  | incomplete
  | nestedTooDeeply
  | dictKeyNotBasic
  | dictEntryArity
  | emptyStruct
  | unterminatedStruct
  | invalidCode (c : Nat)
  deriving DecidableEq, Repr

/-- Why a value is not a signature. -/
inductive SignatureError where
  /-- The value is not text; its kind is named. -/
  | notText (kind : String)
  | tooLong
  | malformed (fault : SigFault) (signature : Text)
  deriving DecidableEq, Repr

/-- The message of a signature error. -/
def SignatureError.message : SignatureError → String
  | .notText kind => s!"signature must be a string, not {kind}"
  | .tooLong => "signature longer than 255 characters"
  | .malformed fault sig =>
    let q := sig.quoted
    match fault with
    | .incomplete => s!"incomplete signature: {q}"
    | .nestedTooDeeply => s!"signature nested too deeply: {q}"
    | .dictKeyNotBasic => s!"dict key must be a basic type: {q}"
    | .dictEntryArity => s!"dict entry must hold exactly two types: {q}"
    | .emptyStruct => s!"empty struct in signature: {q}"
    | .unterminatedStruct => s!"unterminated struct in signature: {q}"
    | .invalidCode c => s!"invalid type code {Text.quotedCodes [c]} in signature {q}"

namespace Sig

/-- The deepest nesting of arrays, and of structs and dictionary entries, that a type may sit in. -/
def maxDepth : Nat := 32

/-- The longest signature, in code points. -/
def maxLength : Nat := 255

mutual

/-- Read one complete type inside `arrays` arrays and `structs` structs; the text after it. -/
def parseType : Nat → Nat → Nat → List Nat → Except SigFault (Sig × List Nat)
  | 0, _, _, _ => .error .incomplete
  | fuel + 1, arrays, structs, codes =>
    match codes with
    | [] => .error .incomplete
    | c :: rest =>
      if arrays > maxDepth || structs > maxDepth then .error .nestedTooDeeply
      else match Basic.ofCode c with
      | some b => .ok (.basic b, rest)
      | none =>
        if c = 'v'.toNat then .ok (.variant, rest)
        else if c = 'a'.toNat then
          match rest with
          | open_ :: afterOpen =>
            if open_ = '{'.toNat then
              match afterOpen with
              | [] => .error .dictKeyNotBasic
              | k :: afterKey =>
                match Basic.ofCode k with
                | none => .error .dictKeyNotBasic
                | some key =>
                  match parseType fuel (arrays + 1) (structs + 1) afterKey with
                  | .error e => .error e
                  | .ok (value, after) =>
                    match after with
                    | close :: more =>
                      if close = '}'.toNat then .ok (.dict key value, more)
                      else .error .dictEntryArity
                    | [] => .error .dictEntryArity
            else
              match parseType fuel (arrays + 1) structs rest with
              | .error e => .error e
              | .ok (element, after) => .ok (.array element, after)
          | [] =>
            match parseType fuel (arrays + 1) structs rest with
            | .error e => .error e
            | .ok (element, after) => .ok (.array element, after)
        else if c = '('.toNat then
          match rest with
          | close :: _ =>
            if close = ')'.toNat then .error .emptyStruct
            else
              match parseFields fuel arrays structs rest with
              | .error e => .error e
              | .ok (fields, after) => .ok (.struct fields, after)
          | [] => .error .unterminatedStruct
        else .error (.invalidCode c)

/-- Read the fields of a struct up to its closing parenthesis; the text after it. -/
def parseFields : Nat → Nat → Nat → List Nat → Except SigFault (List Sig × List Nat)
  | 0, _, _, _ => .error .unterminatedStruct
  | fuel + 1, arrays, structs, codes =>
    match codes with
    | [] => .error .unterminatedStruct
    | c :: rest =>
      if c = ')'.toNat then .ok ([], rest)
      else
        match parseType fuel arrays (structs + 1) codes with
        | .error e => .error e
        | .ok (field, after) =>
          match parseFields fuel arrays structs after with
          | .error e => .error e
          | .ok (more, last) => .ok (field :: more, last)

end

/-- Read complete types one after another until the text ends. -/
def parseAll : Nat → List Nat → Except SigFault (List Sig)
  | 0, _ => .ok []
  | _ + 1, [] => .ok []
  | fuel + 1, codes =>
    match parseType (2 * codes.length + 2) 0 0 codes with
    | .error e => .error e
    | .ok (s, after) =>
      match parseAll fuel after with
      | .error e => .error e
      | .ok more => .ok (s :: more)

end Sig

/-- The complete types of a signature text, in order. -/
def Signature.parse (t : Text) : Except SignatureError (List Sig) :=
  if t.length > Sig.maxLength then .error .tooLong
  else
    match Sig.parseAll (t.length + 1) t.codes with
    | .ok types => .ok types
    | .error fault => .error (.malformed fault t)

/-- Whether a text is exactly one complete type. -/
def Signature.isSingle (t : Text) : Bool :=
  match Signature.parse t with
  | .ok [_] => true
  | _ => false

end MessageBus
