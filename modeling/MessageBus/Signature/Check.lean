import MessageBus.Signature.Parse
import MessageBus.Value.Basic

namespace MessageBus

/-- Why a value does not fit a complete type. -/
inductive CheckError where
  /-- The value's kind is wrong: `what` names the kind wanted. -/
  | expected (what : String) (code : Text) (got : String)
  | outOfRange (n : Int) (code : Text)
  | nulInText
  | badObjectPath (path : Text)
  | badSignature (e : SignatureError)
  | variantNotSingle (signature : Value)
  | fieldCount (code : Text) (expected got : Nat)

/-- The message of a check error. -/
def CheckError.message : CheckError → String
  | .expected what code got => s!"expected {what} for {code.quoted}, got {got}"
  | .outOfRange n code => s!"{Digits.int n} out of range for {code.quoted}"
  | .nulInText => "strings cannot contain NUL characters"
  | .badObjectPath p => s!"invalid object path: {p.quoted}"
  | .badSignature e => e.message
  | .variantNotSingle s => s!"variant signature must be a single complete type: {s.literal}"
  | .fieldCount code n m => s!"{code.quoted} expects {n} fields, got {m}"

/-- Why a list of arguments does not fit a signature. -/
inductive ArgumentError where
  | signature (e : SignatureError)
  | count (signature : Text) (expected got : Nat)
  | argument (index : Nat) (e : CheckError)

/-- The message of an argument error. -/
def ArgumentError.message : ArgumentError → String
  | .signature e => e.message
  | .count sig n m => s!"signature {sig.quoted} expects {n} argument(s), got {m}"
  | .argument i e => s!"argument {i}: {e.message}"

namespace ObjectPath

/-- A character allowed in a path element. -/
def elementChar (c : Nat) : Bool :=
  (65 ≤ c && c ≤ 90) || (97 ≤ c && c ≤ 122) || (48 ≤ c && c ≤ 57) || c = 95

/-- Whether the code points after a `/` complete a run of path elements: `inElement` says an
element character has been seen since the last `/`. -/
def elementsFrom (inElement : Bool) : List Nat → Bool
  | [] => inElement
  | c :: rest =>
    if c = 47 then inElement && elementsFrom false rest
    else elementChar c && elementsFrom true rest

/-- Whether code points form an object path. -/
def grammar (codes : List Nat) : Bool :=
  match codes with
  | [47] => true
  | 47 :: rest => elementsFrom false rest
  | _ => false

end ObjectPath

/-- Whether text is an object path, allowing one line feed after it. -/
def Text.isObjectPath (t : Text) : Bool :=
  ObjectPath.grammar t.codes ||
    (t.codes.getLast? == some 10 && ObjectPath.grammar t.codes.dropLast)

/-- The complete types of a signature given as a value. -/
def Signature.ofValue (v : Value) : Except SignatureError (List Sig) :=
  match v with
  | .str t => Signature.parse t
  | other => .error (.notText other.kindName)

namespace Sig

mutual

/-- Check one value against a complete type. -/
def check (s : Sig) (v : Value) : Except CheckError Unit :=
  match s with
  | .basic b =>
    match b.range? with
    | some (low, high) =>
      match v with
      | .int n =>
        if n < low || n > high then .error (.outOfRange n s.code) else .ok ()
      | other => .error (.expected "int" s.code other.kindName)
    | none =>
      match b with
      | .boolean =>
        match v with
        | .bool _ => .ok ()
        | other => .error (.expected "bool" s.code other.kindName)
      | .double =>
        match v with
        | .int _ => .ok ()
        | .float _ => .ok ()
        | other => .error (.expected "float" s.code other.kindName)
      | _ =>
        match v with
        | .str t =>
          if t.codes.contains 0 then .error .nulInText
          else if b == .objectPath && !t.isObjectPath then .error (.badObjectPath t)
          else if b == .signature then
            match Signature.parse t with
            | .ok _ => .ok ()
            | .error e => .error (.badSignature e)
          else .ok ()
        | other => .error (.expected "str" s.code other.kindName)
  | .variant =>
    match v with
    | .variant sig inner =>
      match Signature.ofValue sig with
      | .ok [t] => check t inner
      | _ => .error (.variantNotSingle sig)
    | other => .error (.expected "Variant" s.code other.kindName)
  | .array element =>
    match v with
    | .list xs => checkEach element xs
    | .tuple xs => checkEach element xs
    | .bytes _ =>
      match element with
      | .basic .byte => .ok ()
      | _ => .error (.expected "list" s.code "bytes")
    | other => .error (.expected "list" s.code other.kindName)
  | .dict key value =>
    match v with
    | .dict entries => checkEntries key value entries
    | other => .error (.expected "dict" s.code other.kindName)
  | .struct fields =>
    match v with
    | .list xs | .tuple xs =>
      if fields.length != xs.length then .error (.fieldCount s.code fields.length xs.length)
      else checkZip fields xs
    | other => .error (.expected "tuple" s.code other.kindName)
termination_by sizeOf v

/-- Check every element of a sequence against one complete type. -/
def checkEach (s : Sig) (xs : List Value) : Except CheckError Unit :=
  match xs with
  | [] => .ok ()
  | x :: rest =>
    match check s x with
    | .error e => .error e
    | .ok () => checkEach s rest
termination_by sizeOf xs

/-- Check dictionary entries: each key, then its value. -/
def checkEntries (key : Basic) (value : Sig) (entries : List (Value × Value)) :
    Except CheckError Unit :=
  match entries with
  | [] => .ok ()
  | (k, x) :: rest =>
    match check (.basic key) k with
    | .error e => .error e
    | .ok () =>
      match check value x with
      | .error e => .error e
      | .ok () => checkEntries key value rest
termination_by sizeOf entries

/-- Check values against fields, pairwise. -/
def checkZip (fields : List Sig) (xs : List Value) : Except CheckError Unit :=
  match fields, xs with
  | f :: fs, x :: rest =>
    match check f x with
    | .error e => .error e
    | .ok () => checkZip fs rest
  | _, _ => .ok ()
termination_by sizeOf xs

end

end Sig

/-- Check arguments against a signature: the signature must read, its complete types must be as
many as the arguments, and each argument must fit its type. -/
def Signature.validate (sig : Value) (args : List Value) : Except ArgumentError Unit :=
  match Signature.ofValue sig with
  | .error e => .error (.signature e)
  | .ok types =>
    if types.length != args.length then
      match sig with
      | .str t => .error (.count t types.length args.length)
      | _ => .error (.count Text.empty types.length args.length)
    else
      let rec go (i : Nat) : List Sig → List Value → Except ArgumentError Unit
        | t :: ts, a :: as =>
          match t.check a with
          | .error e => .error (.argument i e)
          | .ok () => go (i + 1) ts as
        | _, _ => .ok ()
      go 0 types args

end MessageBus
