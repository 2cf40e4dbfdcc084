import Chromiacast.CastGrammar
import Chromiacast.Basis.Transport

/-! Length-prefixed CastMessages. The reader keeps its progress in its fields, so a
call that is dropped while it waits is taken up by the next one. -/
namespace Chromiacast.ControlFraming
open Basis

structure FramedReader where
  lenBuf : Bytes
  lenFilled : Nat
  bodyBuf : Bytes
  bodyFilled : Nat
  bodyExpected : Nat
  deriving DecidableEq, Repr

namespace FramedReader

def new : FramedReader := ⟨[0,0,0,0],0,[],0,0⟩

def openBody (r : FramedReader) : Option IoError × FramedReader :=
  if r.bodyExpected = 0 then
    let r := {r with bodyExpected := readBE r.lenBuf}
    if r.bodyExpected = 0 then (some ⟨.invalidData,"zero-length message"⟩,r) else
      if 1 <<< 20 < r.bodyExpected then (some ⟨.invalidData,"message too large"⟩,r) else
        (none,{r with bodyBuf := resize r.bodyBuf r.bodyExpected, bodyFilled := 0})
  else (none,r)

def decodeBody (r : FramedReader) : Outcome IoError CastMessage × FramedReader :=
  match (slice r.bodyBuf 0 r.bodyExpected : Outcome DecodeError Bytes) >>= CastMessage.decode with
  | .ok msg => (.ok msg,{r with lenFilled := 0, bodyExpected := 0, bodyFilled := 0})
  | .err e => (.err ⟨.invalidData,e.display⟩,r)
  | .panic => (.panic,r)

def readBody (r : FramedReader) (polls : List Poll) : Turn IoError CastMessage × FramedReader × List Poll :=
  let f := fill r.bodyExpected r.bodyExpected r.bodyBuf r.bodyFilled polls
  let r := {r with bodyBuf := f.buffer, bodyFilled := f.filled}
  match f.progress with
  | .complete => (.returned r.decodeBody.1,r.decodeBody.2,f.polls)
  | .closed => (.returned (.err ⟨.unexpectedEof,"connection closed while reading message body"⟩),r,f.polls)
  | .dropped => (.dropped,r,f.polls)
  | .waiting => (.waiting,r,f.polls)
  | .panic => (.returned .panic,r,f.polls)

def readMessage (r : FramedReader) (polls : List Poll) : Turn IoError CastMessage × FramedReader × List Poll :=
  let f := fill 4 4 r.lenBuf r.lenFilled polls
  let r := {r with lenBuf := f.buffer, lenFilled := f.filled}
  match f.progress with
  | .complete =>
    match r.openBody with
    | (none,r) => r.readBody f.polls
    | (some e,r) => (.returned (.err e),r,f.polls)
  | .closed => (.returned (.err ⟨.unexpectedEof,"connection closed while reading message length"⟩),r,f.polls)
  | .dropped => (.dropped,r,f.polls)
  | .waiting => (.waiting,r,f.polls)
  | .panic => (.returned .panic,r,f.polls)

end FramedReader

def writeMessage (msg : CastMessage) : Bytes := be 4 msg.encode.length ++ msg.encode

def Frame (result : Outcome IoError CastMessage) (frame : Bytes) : Prop :=
  ∃ msg, result = .ok msg ∧ frame = writeMessage msg ∧ 1 ≤ msg.encode.length ∧ msg.encode.length ≤ 1 <<< 20

namespace FramedReader

/- In the length: the body is not open yet. In the body: the length is whole and the
buffer has its size. -/
inductive Holds (r : FramedReader) : Bytes → Prop
  | inLength (width : r.lenBuf.length = 4) (part : r.lenFilled < 4) (closed : r.bodyExpected = 0) :
      Holds r (r.lenBuf.take r.lenFilled)
  | inBody (width : r.lenBuf.length = 4) (whole : r.lenFilled = 4) (length : r.bodyExpected = readBE r.lenBuf)
      (some : 0 < r.bodyExpected) (room : r.bodyBuf.length = r.bodyExpected) (part : r.bodyFilled ≤ r.bodyExpected) :
      Holds r (r.lenBuf ++ r.bodyBuf.take r.bodyFilled)

theorem decodeBodyWhole {r : FramedReader} {msg : CastMessage} (sized : msg.Sized) (body : r.bodyBuf = msg.encode)
    (expected : r.bodyExpected = msg.encode.length) :
    r.decodeBody = (.ok msg,{r with lenFilled := 0, bodyExpected := 0, bodyFilled := 0}) := by
  have inside : r.bodyExpected ≤ r.bodyBuf.length := by rw [expected,body]
  have all : r.bodyBuf.take r.bodyExpected = msg.encode := by rw [expected,body,List.take_length]
  simp only [decodeBody,sliceIn (Nat.zero_le _) inside,Outcome.okBind,List.drop_zero,Nat.sub_zero,all,decodeEncode sized]

theorem readBodyResumes {r : FramedReader} {msg : CastMessage} {polls : List Poll} {tail : Bytes}
    (sized : msg.Sized) (some : 0 < msg.encode.length) (header : r.lenBuf = be 4 msg.encode.length)
    (whole : r.lenFilled = 4) (length : r.bodyExpected = readBE r.lenBuf) (expected : r.bodyExpected = msg.encode.length)
    (room : r.bodyBuf.length = r.bodyExpected) (part : r.bodyFilled ≤ r.bodyExpected) (live : Poll.Live polls)
    (stream : r.bodyBuf.take r.bodyFilled ++ Poll.supply polls <+: msg.encode ++ tail) :
    Resumes Holds (Holds · []) (writeMessage msg) (r.lenBuf ++ r.bodyBuf.take r.bodyFilled) (.ok msg) polls
      (r.readBody polls) := by
  have width : r.lenBuf.length = 4 := by rw [header,beLength]
  have frame : r.lenBuf ++ msg.encode = writeMessage msg := by rw [header,writeMessage]
  refine fillResumes live room part expected.symm ?_ stream (fun f ran complete body mark alive more => ?_)
    fun f ran size short => ?_
  · rw [← frame,List.length_append,expected]
  · simp only [readBody,ran,complete]
    rw [decodeBodyWhole (r := {r with bodyBuf := f.buffer, bodyFilled := f.filled}) sized body expected,frame]
    exact .done (Holds.inLength (r := {r with lenFilled := 0, bodyBuf := f.buffer, bodyFilled := 0, bodyExpected := 0})
      width (Nat.zero_lt_succ 3) rfl) alive (le_refl _) [] (List.append_nil _) rfl
  · refine ⟨{r with bodyBuf := f.buffer, bodyFilled := f.filled},?_,fun dropped => ?_,fun waiting => ?_⟩
    · exact Holds.inBody (r := {r with bodyBuf := f.buffer, bodyFilled := f.filled}) width whole length
        (expected ▸ some) size (le_of_lt short)
    · simp only [readBody,ran,dropped]
    · simp only [readBody,ran,waiting]

theorem openBodyWhole {r : FramedReader} {length : Nat} (closed : r.bodyExpected = 0) (header : r.lenBuf = be 4 length)
    (some : 0 < length) (fits : length ≤ 1 <<< 20) :
    r.openBody = (none,{r with bodyExpected := length, bodyBuf := resize r.bodyBuf length, bodyFilled := 0}) := by
  have small : length < 256^4 := lt_of_le_of_lt fits (by decide)
  simp only [openBody,if_pos closed,header,readBeExact small]
  rw [if_neg (by omega),if_neg (by omega)]

theorem encodeSized {msg : CastMessage} (fits : msg.encode.length ≤ 1 <<< 20) : msg.Sized := by
  have small : (1 <<< 20 : Nat) < 2^64 := by decide
  obtain ⟨source,destination,name,payload⟩ := msg
  cases payload <;>
  · simp only [CastMessage.encode,encodeStringField,encodeBytesField,List.length_append] at fits
    constructor <;> simp only [Payload.length] <;> omega

theorem readMessageLength {r : FramedReader} {msg : CastMessage} {polls : List Poll} {tail : Bytes} (sized : msg.Sized)
    (some : 0 < msg.encode.length) (fits : msg.encode.length ≤ 1 <<< 20) (width : r.lenBuf.length = 4)
    (part : r.lenFilled < 4) (closed : r.bodyExpected = 0) (live : Poll.Live polls)
    (stream : r.lenBuf.take r.lenFilled ++ Poll.supply polls <+: writeMessage msg ++ tail) :
    Resumes Holds (Holds · []) (writeMessage msg) (r.lenBuf.take r.lenFilled) (.ok msg) polls (r.readMessage polls) := by
  rw [writeMessage,List.append_assoc] at stream
  rw [← List.nil_append (r.lenBuf.take r.lenFilled)]
  refine fillResumes live width (le_of_lt part) (beLength 4 _) ?_ stream
    (fun f ran complete header mark alive more => ?_) fun f ran room short => ?_
  · rw [writeMessage,List.length_append,beLength]
    exact Nat.le_add_right 4 _
  · simp only [readMessage,ran,complete]
    rw [openBodyWhole (r := {r with lenBuf := f.buffer, lenFilled := f.filled}) closed header some fits]
    have body := readBodyResumes (r := ⟨f.buffer,f.filled,resize r.bodyBuf msg.encode.length,0,msg.encode.length⟩)
      sized some header mark (by rw [header,readBeExact (lt_of_le_of_lt fits (by decide))]) rfl (resizeLength _ _)
      (Nat.zero_le _) alive (by simpa using more)
    simpa [header] using body
  · refine ⟨{r with lenBuf := f.buffer, lenFilled := f.filled},?_,fun dropped => ?_,fun waiting => ?_⟩
    · exact Holds.inLength (r := {r with lenBuf := f.buffer, lenFilled := f.filled}) room short closed
    · simp only [readMessage,ran,dropped]
    · simp only [readMessage,ran,waiting]

theorem readMessageSafe : CancelSafe readMessage Holds (Holds · []) Frame := by
  rintro r got frame result polls tail holds live ⟨msg,rfl,rfl,some,fits⟩ short stream
  have sized := encodeSized fits
  cases holds with
  | inLength width part closed => exact readMessageLength sized some fits width part closed live stream
  | inBody width whole length opened room part =>
    have filled : fill 4 4 r.lenBuf r.lenFilled polls = ⟨.complete,r.lenBuf,r.lenFilled,polls⟩ := by
      unfold fill
      rw [if_neg (by omega)]
    have open' : r.openBody = (none,r) := if_neg (by omega)
    rw [writeMessage,List.append_assoc,List.append_assoc] at stream
    have header : r.lenBuf = be 4 msg.encode.length :=
      prefixExact ((List.prefix_append _ _).trans stream) (by rw [width,beLength])
    have expected : r.bodyExpected = msg.encode.length := by
      rw [length,header,readBeExact (lt_of_le_of_lt fits (by decide))]
    rw [header,List.prefix_append_right_inj] at stream
    simp only [readMessage,filled,open']
    exact readBodyResumes sized some header whole length expected room part live stream

theorem newHolds : Holds new [] := Holds.inLength (r := new) rfl (by decide) rfl

end FramedReader

theorem frameNonempty (result : Outcome IoError CastMessage) (frame : Bytes) (framed : Frame result frame) :
    0 < frame.length := by
  obtain ⟨msg,_,rfl,some,_⟩ := framed
  rw [writeMessage,List.length_append,beLength]
  omega

/- However the bytes arrive and wherever calls are dropped, the messages come out whole,
in order and once. An access outside a buffer would show as a panic among the results. -/
theorem messagesReadExactly (msgs : List CastMessage)
    (fits : ∀ msg ∈ msgs, 1 ≤ msg.encode.length ∧ msg.encode.length ≤ 1 <<< 20) (polls : List Poll)
    (live : Poll.Live polls) (stream : Poll.supply polls = (msgs.map writeMessage).flatten) (calls : Nat)
    (enough : Poll.size polls < calls) :
    (drive FramedReader.readMessage calls FramedReader.new polls).1 = msgs.map .ok := by
  have framed : List.Forall₂ (fun msg frame => Frame (.ok msg) frame) msgs (msgs.map writeMessage) := by
    rw [List.forall₂_map_right_iff]
    exact List.forall₂_same.mpr fun msg member => ⟨msg,rfl,rfl,fits msg member⟩
  obtain ⟨later,t,rest,run,holds,alive,drained,_⟩ := driveFrames FramedReader.readMessageSafe framed frameNonempty
    FramedReader.newHolds live (by rw [stream,List.append_nil]) enough
  have idle : (drive FramedReader.readMessage later t rest).1 = [] :=
    driveIdle FramedReader.readMessageSafe ⟨examplePing,rfl,rfl,by decide,by decide⟩ (by decide) holds alive drained
  rw [run,idle,List.append_nil]

def examplePong : CastMessage := ⟨"receiver-0","sender-0","urn:x-cast:com.google.cast.tp.heartbeat",.string "PONG"⟩

def exampleStream : Bytes := writeMessage examplePing ++ writeMessage examplePong

/- Dropped inside a prefix, between a prefix and its body, and with the second message begun. -/
def examplePolls : List Poll :=
  [.cancelled,.ready (exampleStream.take 3),.cancelled,.ready ((exampleStream.drop 3).take 1),.cancelled,
    .ready ((exampleStream.drop 4).take 90),.cancelled,.ready (exampleStream.drop 94)]

theorem pingPongReadAcrossDrops :
    (drive FramedReader.readMessage 300 FramedReader.new examplePolls).1 = [.ok examplePing,.ok examplePong] :=
  messagesReadExactly [examplePing,examplePong] (by decide) examplePolls (by
      intro chunk member
      simp only [examplePolls,List.mem_cons,Poll.ready.injEq,List.not_mem_nil,reduceCtorEq,false_or,or_false] at member
      rcases member with rfl | rfl | rfl | rfl <;> decide +kernel)
    (by decide +kernel) 300 (by decide +kernel)

end Chromiacast.ControlFraming
