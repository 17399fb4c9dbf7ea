import MessageBus.Bus.Session

namespace MessageBus

/-- What one line of a script sends. -/
inductive Cue where
  /-- A method return to the call, with a body. -/
  | reply (signature : Text) (body : List Value)
  /-- The error `name` answering the call, its body the text unless that is empty; a signature
  or a body given here replaces the one made so. -/
  | error (name : Text) (text : Text) (signature : Option Text) (body : Option (List Value))
  | message (m : Message)
  | raw (bytes : ByteArray)

/-- A line of a script: what it sends, and the serials it fixes, if any. -/
structure ScriptLine where
  cue : Cue
  serial : Option Int := none
  replySerial : Option Int := none

/-- A far end that answers from a script. -/
structure ScriptedPeer where
  /-- What to send in answer to the next frame that reads. -/
  script : List ScriptLine := []
  /-- The serial the far end gives its next message. -/
  next : Int := 1
  /-- Every frame written to the far end, in order. -/
  written : List ByteArray := []
  /-- When set, writes fail with this description. -/
  refusal : Option String := none
  /-- Why frames written to the far end did not read, in order. -/
  unread : List FrameError := []

/-- The message a line sends in answer to `call`, before its serials are set. -/
def Cue.toMessage (call : Message) : Cue → Option Message
  | .reply signature body => some (Message.methodReturn call signature body)
  | .error name text signature body =>
    let m := Message.errorReply call name text
    let m := match signature with
      | some signature => { m with signature }
      | none => m
    some (match body with
      | some body => { m with body }
      | none => m)
  | .message m => some m
  | .raw _ => none

namespace ScriptedPeer

/-- Send one line of the script in answer to `call`: the octets, if the line's message is fit
for the wire, and the far end with its serial counter moved on when the line used it. -/
def sendLine (p : ScriptedPeer) (call : Message) (line : ScriptLine) :
    ScriptedPeer × List Arrival :=
  match line.cue with
  | .raw bytes => (p, [.data bytes])
  | cue =>
    match Cue.toMessage call cue with
    | none => (p, [])
    | some m =>
      let (serial, p) := match line.serial with
        | some s => (s, p)
        | none => (p.next, { p with next := p.next + 1 })
      let m := { m with serial }
      let m := match line.replySerial with
        | some r => { m with replySerial := some r }
        | none => m
      match m.marshal (Text.ofString "l") with
      | .ok bytes => (p, [.data bytes])
      | .error _ => (p, [])

/-- Take a frame the client writes: keep it, and answer it with the script if it reads. -/
def accept (p : ScriptedPeer) (frame : ByteArray) : ScriptedPeer × Except String (List Arrival) :=
  match p.refusal with
  | some why => (p, .error why)
  | none =>
    let p := { p with written := p.written ++ [frame] }
    match Message.unmarshal frame with
    | .error e => ({ p with unread := p.unread ++ [e] }, .ok [])
    | .ok (call, _) =>
      let (p, arrivals) := p.script.foldl (fun (p, acc) line =>
        let (p, more) := p.sendLine call line
        (p, acc ++ more)) ({ p with script := [] }, [])
      (p, .ok arrivals)

/-- The scripted far end as a peer. -/
def peer : Peer ScriptedPeer := ⟨accept⟩

end ScriptedPeer

end MessageBus
