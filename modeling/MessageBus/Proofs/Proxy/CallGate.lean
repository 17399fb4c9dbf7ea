import Mathlib
import MessageBus.Bus.Session
import MessageBus.Peer.Scripted

namespace MessageBus

/-- Dropping the trailing `None`s takes off the longest run of `None`s at the end, and nothing
else. -/
theorem dropTrailingNone_spec (args : List Value) :
    ∃ k, args = dropTrailingNone args ++ List.replicate k .none ∧ (dropTrailingNone args).getLast? ≠ some .none := by
  unfold dropTrailingNone
  -- the test the definition drops by holds of `None` and of nothing else
  suffices ∀ p : Value → Bool, p .none = true → (∀ v, p v = true → v = .none) →
      ∃ k, args = (args.reverse.dropWhile p).reverse ++ List.replicate k .none ∧
        (args.reverse.dropWhile p).reverse.getLast? ≠ some .none from
    this _ rfl fun v => by cases v <;> simp
  intro p none only
  have nones : args.reverse.takeWhile p = List.replicate (args.reverse.takeWhile p).length .none :=
    List.eq_replicate_iff.mpr ⟨rfl, fun v mem => only v (List.mem_takeWhile_imp mem)⟩
  refine ⟨(args.reverse.takeWhile p).length, ?_, ?_⟩
  · calc args = (args.reverse.takeWhile p ++ args.reverse.dropWhile p).reverse := by
          rw [List.takeWhile_append_dropWhile, List.reverse_reverse]
      _ = _ := by rw [List.reverse_append, nones, List.reverse_replicate, List.length_replicate]
  · rw [List.getLast?_reverse]
    intro first
    have rest := List.head?_dropWhile_not p args.reverse
    rw [first] at rest
    exact Bool.false_ne_true (rest.symm.trans none)

namespace RemoteInterface

/-- The call of a method is made exactly when the interface is there, its introspection declares
the method, and the arguments left after the trailing `None`s fit the method's input signature:
it is then the method call to the object with that signature and those arguments. -/
theorem callMessage_ok_iff {i : Option RemoteInterface} {name : Text} {args : List Value} {msg : Message} :
    callMessage i name args = .ok msg ↔
      ∃ ri method, i = some ri ∧ ri.data.method? name = some method ∧
        Signature.validate (.str method.inputSignature) (dropTrailingNone args) = .ok () ∧
        msg = Message.methodCall ri.object.destination ri.object.path ri.name name method.inputSignature
          (dropTrailingNone args) := by
  constructor
  · intro made
    unfold callMessage at made
    split at made
    · cases made
    · rename_i ri
      split at made
      · cases made
      · rename_i method found
        dsimp only at made
        split at made
        · cases made
        · rename_i valid
          cases made
          exact ⟨ri, method, rfl, found, valid, rfl⟩
  · rintro ⟨ri, method, rfl, found, valid, rfl⟩
    unfold callMessage method?
    dsimp only
    rw [found]
    dsimp only
    rw [valid]

/-- A call refused by the gate is refused as an invalid method or as invalid arguments. -/
theorem kind_of_callMessage_error {i : Option RemoteInterface} {name : Text} {args : List Value} {e : BusError}
    (refused : callMessage i name args = .error e) : e.kind = "InvalidMethod" ∨ e.kind = "InvalidArguments" := by
  unfold callMessage at refused
  split at refused
  · cases refused
    exact .inl rfl
  · split at refused
    · cases refused
      exact .inl rfl
    · dsimp only at refused
      split at refused
      · cases refused
        exact .inr rfl
      · cases refused

end RemoteInterface

namespace Session

variable {π : Type}

/-- Calling a method through an interface goes through the gate of the cached introspection. The
arguments lose their trailing `None`s and nothing else. When the interface is there, declares the
method and the arguments left fit its input signature, the call is sending and waiting for the
method call to the object with the interface's name, the method's name, the declared signature
and those arguments. Otherwise it fails as an invalid method or invalid arguments with the session
as it was: nothing written, and the registry with its serial counter untouched. -/
theorem callMethod_gate (s : Session π) (i : Option RemoteInterface) (name : Text) (args : List Value)
    (callback : Option Callback) (timeout : Option Binary64) :
    (∃ k, args = dropTrailingNone args ++ List.replicate k .none ∧
      (dropTrailingNone args).getLast? ≠ some .none) ∧
    (∀ ri method, i = some ri → ri.data.method? name = some method →
      Signature.validate (.str method.inputSignature) (dropTrailingNone args) = .ok () →
      s.callMethod i name args callback timeout =
        s.sendSync (Message.methodCall ri.object.destination ri.object.path ri.name name method.inputSignature
          (dropTrailingNone args)) callback timeout) ∧
    ((¬ ∃ ri method, i = some ri ∧ ri.data.method? name = some method ∧
        Signature.validate (.str method.inputSignature) (dropTrailingNone args) = .ok ()) →
      ∃ e, s.callMethod i name args callback timeout = (.failed e, s) ∧
        (e.kind = "InvalidMethod" ∨ e.kind = "InvalidArguments")) := by
  refine ⟨dropTrailingNone_spec args, fun ri method present found valid => ?_, fun refused => ?_⟩
  · have made := RemoteInterface.callMessage_ok_iff.mpr ⟨ri, method, present, found, valid, rfl⟩
    rw [callMethod, made]
  · cases made : RemoteInterface.callMessage i name args with
    | ok msg =>
      obtain ⟨ri, method, present, found, valid, -⟩ := RemoteInterface.callMessage_ok_iff.mp made
      exact absurd ⟨ri, method, present, found, valid⟩ refused
    | error e =>
      refine ⟨e, ?_, RemoteInterface.kind_of_callMessage_error made⟩
      rw [callMethod, made]

/-- A call through an interface that declares `Ping` with one text argument, given the text and two
`None`s: the `None`s are dropped and the call carries the text under the signature `s`. -/
theorem callMethod_drops_trailing_none :
    Session.callMethod
        ({ conn := Connection.create Settings.defaults, peer := ScriptedPeer.peer, state := {}, intake := .direct } :
          Session ScriptedPeer)
        (some ⟨⟨Text.ofString "d", Text.ofString "/", ⟨[], []⟩⟩, Text.ofString "a.b",
          ⟨Text.ofString "a.b", [⟨Text.ofString "Ping", [⟨none, Text.ofString "s", .input⟩]⟩], [], []⟩⟩)
        (Text.ofString "Ping") [.str (Text.ofString "hi"), .none, .none] none none =
      Session.sendSync
        ({ conn := Connection.create Settings.defaults, peer := ScriptedPeer.peer, state := {}, intake := .direct } :
          Session ScriptedPeer)
        (Message.methodCall (Text.ofString "d") (Text.ofString "/") (Text.ofString "a.b") (Text.ofString "Ping")
          (Text.ofString "s") [.str (Text.ofString "hi")]) none none := by
  have dropped : dropTrailingNone [.str (Text.ofString "hi"), .none, .none] = [.str (Text.ofString "hi")] := rfl
  have declared : MethodData.inputSignature ⟨Text.ofString "Ping", [⟨none, Text.ofString "s", .input⟩]⟩ =
      Text.ofString "s" := by
    decide
  have valid : Signature.validate (.str (Text.ofString "s")) [.str (Text.ofString "hi")] = .ok () := by
    with_unfolding_all rfl
  have gate := (callMethod_gate
    ({ conn := Connection.create Settings.defaults, peer := ScriptedPeer.peer, state := {}, intake := .direct } :
      Session ScriptedPeer)
    (some ⟨⟨Text.ofString "d", Text.ofString "/", ⟨[], []⟩⟩, Text.ofString "a.b",
      ⟨Text.ofString "a.b", [⟨Text.ofString "Ping", [⟨none, Text.ofString "s", .input⟩]⟩], [], []⟩⟩)
    (Text.ofString "Ping") [.str (Text.ofString "hi"), .none, .none] none none).2.1 _
    ⟨Text.ofString "Ping", [⟨none, Text.ofString "s", .input⟩]⟩ rfl rfl (by rw [dropped, declared, valid])
  rw [dropped, declared] at gate
  exact gate

/-- A call that passes the gate but names an object path that is not one fails as invalid
arguments when its message is put on the wire; the call was registered by then, and the serial
counter has moved from one to two. -/
theorem callMethod_spends_serial_on_bad_path :
    ∃ e s', Session.callMethod
        ({ conn := Connection.create Settings.defaults, peer := ScriptedPeer.peer, state := {}, intake := .direct } :
          Session ScriptedPeer)
        (some ⟨⟨Text.ofString "d", Text.ofString "bad", ⟨[⟨Text.ofString "a.b", [⟨Text.ofString "M", []⟩], [], []⟩], []⟩⟩,
          Text.ofString "a.b", ⟨Text.ofString "a.b", [⟨Text.ofString "M", []⟩], [], []⟩⟩)
        (Text.ofString "M") [] none none = (.failed e, s') ∧
      e.kind = "InvalidArguments" ∧ e.message = "invalid object path: 'bad'" ∧
      (Connection.create Settings.defaults).replies.next = 1 ∧ s'.conn.replies.next = 2 :=
  ⟨_, _, by with_unfolding_all rfl, by with_unfolding_all rfl, by with_unfolding_all rfl, rfl,
    by with_unfolding_all rfl⟩

end Session

end MessageBus
