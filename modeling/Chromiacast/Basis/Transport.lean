import Chromiacast.Basis.Outcome

/-! Reading from a byte stream that arrives in pieces. A script says what the
transport does each time it is polled: more bytes are there, or the read that
waits is dropped by its caller and nothing is taken. A call that keeps what it has
read in its state is resumed by calling it again. -/
namespace Basis

theorem prefixExact {x a b : Bytes} (starts : x <+: a ++ b) (sized : x.length = a.length) : x = a :=
  (List.prefix_of_prefix_length_le starts (List.prefix_append a b) (le_of_eq sized)).eq_of_length sized

inductive Poll where
  | ready (chunk : Bytes)
  | cancelled
  deriving DecidableEq, Repr

namespace Poll

def supply : List Poll → Bytes
  | [] => []
  | ready chunk::rest => chunk ++ supply rest
  | cancelled::rest => supply rest

/- Reads are never empty: an empty one says that the peer has closed. -/
def Live (polls : List Poll) : Prop := ∀ chunk, ready chunk ∈ polls → 0 < chunk.length

def size (polls : List Poll) : Nat := (supply polls).length+polls.length

end Poll

inductive Read where
  | bytes (chunk : Bytes)
  | dropped
  | waiting
  deriving DecidableEq, Repr

/- One read into a buffer with the given room; what does not fit stays for the next. -/
def read (room : Nat) : List Poll → Read × List Poll
  | [] => (.waiting,[])
  | .cancelled::rest => (.dropped,rest)
  | .ready chunk::rest =>
    if chunk.length ≤ room then (.bytes chunk,rest) else (.bytes (chunk.take room),.ready (chunk.drop room)::rest)

namespace Poll

theorem liveTail {p : Poll} {rest : List Poll} (live : Live (p::rest)) : Live rest :=
  fun chunk member => live chunk (List.mem_cons_of_mem p member)

theorem readBytes {room : Nat} (some : 0 < room) {polls rest : List Poll} {chunk : Bytes} (live : Live polls)
    (got : read room polls = (.bytes chunk,rest)) :
    0 < chunk.length ∧ chunk.length ≤ room ∧ supply polls = chunk ++ supply rest ∧ Live rest ∧
      rest.length ≤ polls.length := by
  cases polls with
  | nil => simp [read] at got
  | cons p tail =>
    cases p with
    | cancelled => simp [read] at got
    | ready whole =>
      have nonempty := live whole (by simp)
      simp only [read] at got
      split at got
      · rename_i fits
        cases got
        exact ⟨nonempty,fits,rfl,liveTail live,by simp⟩
      · rename_i large
        cases got
        have cut : (whole.take room).length = room := by rw [List.length_take]; omega
        refine ⟨by omega,by omega,?_,?_,by simp⟩
        · simp only [supply]
          rw [← List.append_assoc,List.take_append_drop]
        · intro chunk member
          rcases List.mem_cons.mp member with same | member
          · cases same
            rw [List.length_drop]
            omega
          · exact live chunk (List.mem_cons_of_mem _ member)

theorem readDropped {room : Nat} {polls rest : List Poll} (live : Live polls)
    (got : read room polls = (.dropped,rest)) :
    supply polls = supply rest ∧ Live rest ∧ rest.length < polls.length := by
  cases polls with
  | nil => simp [read] at got
  | cons p tail =>
    cases p with
    | ready whole =>
      simp only [read] at got
      split at got <;> cases got
    | cancelled =>
      cases got
      exact ⟨rfl,liveTail live,by simp⟩

theorem readWaiting {room : Nat} {polls rest : List Poll} (got : read room polls = (.waiting,rest)) :
    polls = [] ∧ rest = [] := by
  cases polls with
  | nil => cases got; exact ⟨rfl,rfl⟩
  | cons p tail =>
    cases p with
    | ready whole =>
      simp only [read] at got
      split at got <;> cases got
    | cancelled => cases got

def Delivers (polls : List Poll) (data : Bytes) : Prop :=
  ∃ chunks : List Bytes, (∀ chunk ∈ chunks, chunk ≠ []) ∧ polls = chunks.map ready ++ [ready []] ∧ chunks.flatten = data

theorem readClosed {polls : List Poll} (room : Nat) (delivers : Delivers polls []) :
    ∃ rest, read room polls = (.bytes [],rest) := by
  obtain ⟨chunks,nonempty,rfl,joined⟩ := delivers
  cases chunks with
  | nil => exact ⟨[],by simp [read]⟩
  | cons chunk others => exact absurd (List.append_eq_nil_iff.mp joined).1 (nonempty chunk (by simp))

theorem readByte {polls : List Poll} {b : UInt8} {data : Bytes} (delivers : Delivers polls (b::data)) :
    ∃ rest, read 1 polls = (.bytes [b],rest) ∧ Delivers rest data := by
  obtain ⟨chunks,nonempty,rfl,joined⟩ := delivers
  cases chunks with
  | nil => cases joined
  | cons chunk others =>
    have later : ∀ other ∈ others, other ≠ [] := fun other member => nonempty other (List.mem_cons_of_mem _ member)
    cases chunk with
    | nil => exact absurd rfl (nonempty [] (by simp))
    | cons first tail =>
      obtain ⟨rfl,rfl⟩ := List.cons.inj joined
      cases tail with
      | nil => exact ⟨_,rfl,others,later,rfl,rfl⟩
      | cons second tail =>
        refine ⟨(.ready (second::tail)::others.map ready) ++ [ready []],by simp [read],(second::tail)::others,?_,rfl,rfl⟩
        intro other member
        rcases List.mem_cons.mp member with rfl | member
        · simp
        · exact later other member

end Poll

inductive Progress where
  | complete
  | closed
  | dropped
  | waiting
  | panic
  deriving DecidableEq, Repr

structure Filled where
  progress : Progress
  buffer : Bytes
  filled : Nat
  polls : List Poll
  deriving DecidableEq, Repr

def resize (buffer : Bytes) (length : Nat) : Bytes := buffer.take length ++ List.replicate (length-buffer.length) 0

@[simp] theorem resizeLength (buffer : Bytes) (length : Nat) : (resize buffer length).length = length := by
  simp only [resize,List.length_append,List.length_take,List.length_replicate]
  omega

def store (buffer : Bytes) (offset : Nat) (chunk : Bytes) : Bytes :=
  buffer.take offset ++ chunk ++ buffer.drop (offset+chunk.length)

def fill (expected : Nat) : Nat → Bytes → Nat → List Poll → Filled
  | fuel,buffer,filled,polls =>
    if filled < expected then
      match fuel with
      | 0 => ⟨.panic,buffer,filled,polls⟩
      | fuel+1 =>
        if expected ≤ buffer.length then
          match read (expected-filled) polls with
          | (.bytes chunk,rest) =>
            if chunk.length = 0 then ⟨.closed,buffer,filled,rest⟩
            else fill expected fuel (store buffer filled chunk) (filled+chunk.length) rest
          | (.dropped,rest) => ⟨.dropped,buffer,filled,rest⟩
          | (.waiting,rest) => ⟨.waiting,buffer,filled,rest⟩
        else ⟨.panic,buffer,filled,polls⟩
    else ⟨.complete,buffer,filled,polls⟩

structure Fills (expected : Nat) (buffer : Bytes) (filled : Nat) (polls : List Poll) (r : Filled) (used : Bytes) :
    Prop where
  supply : Poll.supply polls = used ++ Poll.supply r.polls
  live : Poll.Live r.polls
  room : r.buffer.length = buffer.length
  mark : r.filled = filled+used.length
  held : r.buffer.take r.filled = buffer.take filled ++ used
  fewer : r.polls.length ≤ polls.length
  ends : (r.progress = .complete ∧ r.filled = expected) ∨
    (r.filled < expected ∧ ((r.progress = .dropped ∧ r.polls.length < polls.length) ∨
      (r.progress = .waiting ∧ r.polls = [])))

theorem storeLength {buffer chunk : Bytes} {offset : Nat} (fits : offset+chunk.length ≤ buffer.length) :
    (store buffer offset chunk).length = buffer.length := by
  simp only [store,List.length_append,List.length_take,List.length_drop]
  omega

theorem storeHeld {buffer chunk : Bytes} {offset : Nat} (fits : offset ≤ buffer.length) :
    (store buffer offset chunk).take (offset+chunk.length) = buffer.take offset ++ chunk := by
  have sized : (buffer.take offset ++ chunk).length = offset+chunk.length := by
    rw [List.length_append,List.length_take]
    omega
  rw [store,← sized,List.take_left]

theorem fillSpec {expected fuel : Nat} {buffer : Bytes} {filled : Nat} {polls : List Poll}
    (live : Poll.Live polls) (room : expected ≤ buffer.length) (before : filled ≤ expected)
    (enough : expected ≤ filled+fuel) :
    ∃ used, Fills expected buffer filled polls (fill expected fuel buffer filled polls) used := by
  induction fuel generalizing buffer filled polls with
  | zero =>
    have done : ¬ filled < expected := by omega
    unfold fill
    rw [if_neg done]
    have same : filled = expected := by omega
    exact ⟨[],rfl,live,rfl,rfl,by simp,le_refl _,Or.inl ⟨rfl,same⟩⟩
  | succ fuel ih =>
    unfold fill
    split
    · rename_i short
      simp only
      split
      · rename_i chunk rest got
        obtain ⟨some',fits,supply,alive,fewer⟩ := Poll.readBytes (by omega) live got
        rw [if_neg (by omega)]
        have inside : filled+chunk.length ≤ buffer.length := by omega
        obtain ⟨used,fills⟩ := ih alive (by rw [storeLength inside]; exact room)
          (by omega : filled+chunk.length ≤ expected) (by omega)
        refine ⟨chunk ++ used,?_,fills.live,?_,?_,?_,?_,?_⟩
        · rw [supply,fills.supply,List.append_assoc]
        · rw [fills.room,storeLength inside]
        · rw [fills.mark,List.length_append,Nat.add_assoc]
        · rw [fills.held,storeHeld (by omega),List.append_assoc]
        · exact le_trans fills.fewer fewer
        · rcases fills.ends with whole | ⟨part,dropped | waiting⟩
          · exact Or.inl whole
          · exact Or.inr ⟨part,Or.inl ⟨dropped.1,lt_of_lt_of_le dropped.2 fewer⟩⟩
          · exact Or.inr ⟨part,Or.inr waiting⟩
      · rename_i rest got
        obtain ⟨supply,alive,fewer⟩ := Poll.readDropped live got
        exact ⟨[],supply,alive,rfl,rfl,by simp,le_of_lt fewer,Or.inr ⟨short,Or.inl ⟨rfl,fewer⟩⟩⟩
      · rename_i rest got
        obtain ⟨rfl,rfl⟩ := Poll.readWaiting got
        exact ⟨[],rfl,live,rfl,rfl,by simp,le_refl _,Or.inr ⟨short,Or.inr ⟨rfl,rfl⟩⟩⟩
    · rename_i done
      have same : filled = expected := by omega
      exact ⟨[],rfl,live,rfl,rfl,by simp,le_refl _,Or.inl ⟨rfl,same⟩⟩

inductive IoErrorKind where
  | unexpectedEof
  | invalidData
  deriving DecidableEq, Repr

structure IoError where
  kind : IoErrorKind
  detail : String
  deriving DecidableEq, Repr

section Drive
variable {ε α σ : Type}

inductive Turn (ε α : Type) where
  | returned (result : Outcome ε α)
  | dropped
  | waiting
  deriving DecidableEq, Repr

def drive (call : σ → List Poll → Turn ε α × σ × List Poll) : Nat → σ → List Poll →
    List (Outcome ε α) × σ × List Poll
  | 0,s,polls => ([],s,polls)
  | fuel+1,s,polls =>
    match call s polls with
    | (.returned (.ok a),t,rest) => (.ok a::(drive call fuel t rest).1,(drive call fuel t rest).2)
    | (.returned r,t,rest) => ([r],t,rest)
    | (.dropped,t,rest) => drive call fuel t rest
    | (.waiting,t,rest) => ([],t,rest)

inductive Resumes (Holds : σ → Bytes → Prop) (After : σ → Prop) (frame got : Bytes) (r : Outcome ε α)
    (polls : List Poll) : Turn ε α × σ × List Poll → Prop
  | done {t : σ} {rest : List Poll} (after : After t) (live : Poll.Live rest) (fewer : rest.length ≤ polls.length)
      (used : Bytes) (whole : got ++ used = frame) (supply : Poll.supply polls = used ++ Poll.supply rest) :
      Resumes Holds After frame got r polls (.returned r,t,rest)
  | dropped {t : σ} {rest : List Poll} (used : Bytes) (kept : Holds t (got ++ used)) (live : Poll.Live rest)
      (fewer : rest.length < polls.length) (short : (got ++ used).length < frame.length)
      (supply : Poll.supply polls = used ++ Poll.supply rest) :
      Resumes Holds After frame got r polls (.dropped,t,rest)
  | waiting {t : σ} (used : Bytes) (kept : Holds t (got ++ used)) (short : (got ++ used).length < frame.length)
      (supply : Poll.supply polls = used) :
      Resumes Holds After frame got r polls (.waiting,t,[])

def CancelSafe (call : σ → List Poll → Turn ε α × σ × List Poll) (Holds : σ → Bytes → Prop) (After : σ → Prop)
    (Frame : Outcome ε α → Bytes → Prop) : Prop :=
  ∀ {s : σ} {got frame : Bytes} {r : Outcome ε α} {polls : List Poll} (tail : Bytes), Holds s got → Poll.Live polls →
    Frame r frame → got.length < frame.length → got ++ Poll.supply polls <+: frame ++ tail →
    Resumes Holds After frame got r polls (call s polls)

section Stages
variable {Holds : σ → Bytes → Prop} {After : σ → Prop} {frame got used : Bytes} {r : Outcome ε α} {polls : List Poll}

theorem Fills.stopped {buffer : Bytes} {expected filled : Nat} {f : Filled} {t : σ}
    (fills : Fills expected buffer filled polls f used) (short : f.filled < expected) (kept : Holds t (got ++ used))
    (part : (got ++ used).length < frame.length) :
    (f.progress = .dropped ∧ Resumes Holds After frame got r polls (.dropped,t,f.polls)) ∨
      (f.progress = .waiting ∧ Resumes Holds After frame got r polls (.waiting,t,f.polls)) := by
  rcases fills.ends with ⟨_,mark⟩ | ⟨_,⟨dropped,fewer⟩ | ⟨waiting,none'⟩⟩
  · omega
  · exact Or.inl ⟨dropped,.dropped used kept fills.live fewer part fills.supply⟩
  · have supply := fills.supply
    rw [none',Poll.supply,List.append_nil] at supply
    rw [none']
    exact Or.inr ⟨waiting,.waiting used kept part supply⟩

theorem Resumes.extend {middle : List Poll} {result : Turn ε α × σ × List Poll}
    (supply : Poll.supply polls = used ++ Poll.supply middle) (fewer : middle.length ≤ polls.length)
    (resumes : Resumes Holds After frame (got ++ used) r middle result) :
    Resumes Holds After frame got r polls result := by
  cases resumes with
  | done after live less more whole left =>
    exact .done after live (le_trans less fewer) (used ++ more) (by rw [← List.append_assoc,whole])
      (by rw [supply,left,List.append_assoc])
  | dropped more kept live less short left =>
    rw [List.append_assoc] at kept short
    exact .dropped (used ++ more) kept live (lt_of_lt_of_le less fewer) short
      (by rw [supply,left,List.append_assoc])
  | waiting more kept short left =>
    rw [List.append_assoc] at kept short
    exact .waiting (used ++ more) kept short (by rw [supply,left])

/- A stage that fills a buffer. Its bytes are known from the stream, so all there is to say is how
the call goes on once the buffer is full, and that what is held is kept where it stops. -/
theorem fillResumes {result : Turn ε α × σ × List Poll} {header contents tail buffer : Bytes} {filled expected : Nat}
    (live : Poll.Live polls) (room : buffer.length = expected) (part : filled ≤ expected)
    (sized : contents.length = expected) (inside : header.length+expected ≤ frame.length)
    (stream : buffer.take filled ++ Poll.supply polls <+: contents ++ tail)
    (complete : ∀ f : Filled, fill expected expected buffer filled polls = f → f.progress = .complete →
      f.buffer = contents → f.filled = expected → Poll.Live f.polls → Poll.supply f.polls <+: tail →
      Resumes Holds After frame (header ++ contents) r f.polls result)
    (stopped : ∀ f : Filled, fill expected expected buffer filled polls = f → f.buffer.length = expected →
      f.filled < expected → ∃ t, Holds t (header ++ f.buffer.take f.filled) ∧
        (f.progress = .dropped → result = (.dropped,t,f.polls)) ∧
        (f.progress = .waiting → result = (.waiting,t,f.polls))) :
    Resumes Holds After frame (header ++ buffer.take filled) r polls result := by
  obtain ⟨used,fills⟩ := fillSpec live (le_of_eq room.symm) part (by omega : expected ≤ filled+expected)
  generalize ran : fill expected expected buffer filled polls = f at fills
  have whole : f.buffer.length = expected := by rw [fills.room,room]
  have joined : header ++ buffer.take filled ++ used = header ++ f.buffer.take f.filled := by
    rw [fills.held,List.append_assoc]
  rcases fills.ends with ⟨full,mark⟩ | ⟨short,_⟩
  · have all : buffer.take filled ++ used = f.buffer := by
      rw [← fills.held,List.take_of_length_le (by omega)]
    rw [fills.supply,← List.append_assoc,all] at stream
    have same : f.buffer = contents := prefixExact ((List.prefix_append _ _).trans stream) (by omega)
    rw [same,List.prefix_append_right_inj] at stream
    refine Resumes.extend fills.supply fills.fewer ?_
    rw [List.append_assoc,all,same]
    exact complete f ran full same mark fills.live stream
  · obtain ⟨t,kept,dropped,waiting⟩ := stopped f ran whole short
    rw [← joined] at kept
    have unfinished : (header ++ buffer.take filled ++ used).length < frame.length := by
      rw [joined,List.length_append,List.length_take]
      omega
    rcases fills.stopped short kept unfinished with ⟨ended,resumes⟩ | ⟨ended,resumes⟩
    · rw [dropped ended]
      exact resumes
    · rw [waiting ended]
      exact resumes

end Stages

variable {call : σ → List Poll → Turn ε α × σ × List Poll} {Holds : σ → Bytes → Prop} {After : σ → Prop}
  {Frame : Outcome ε α → Bytes → Prop}

theorem driveReturns (safe : CancelSafe call Holds After Frame) {fuel : Nat} {s : σ} {got frame tail : Bytes}
    {r : Outcome ε α} {polls : List Poll} (holds : Holds s got) (live : Poll.Live polls) (framed : Frame r frame)
    (short : got.length < frame.length) (stream : got ++ Poll.supply polls = frame ++ tail)
    (enough : Poll.size polls < fuel) :
    ∃ later u last t rest, drive call fuel s polls = drive call (later+1) u last ∧ call u last = (.returned r,t,rest) ∧
      After t ∧ Poll.Live rest ∧ Poll.supply rest = tail ∧ Poll.size rest < later := by
  induction fuel generalizing s got polls with
  | zero => omega
  | succ fuel ih =>
    have resumes := safe tail holds live framed short (by rw [stream])
    generalize called : call s polls = result at resumes
    cases resumes with
    | @done t rest after alive fewer used whole supply =>
      have left : Poll.supply rest = tail := by
        rw [supply,← List.append_assoc,whole] at stream
        exact List.append_cancel_left stream
      have wholeSize := congrArg List.length whole
      have supplySize := congrArg List.length supply
      rw [List.length_append] at wholeSize supplySize
      simp only [Poll.size] at enough
      exact ⟨fuel,s,polls,t,rest,rfl,called,after,alive,left,by simp only [Poll.size]; omega⟩
    | @dropped t rest used kept alive fewer part supply =>
      have supplySize := congrArg List.length supply
      rw [List.length_append] at supplySize
      simp only [Poll.size] at enough
      simp only [drive,called]
      exact ih kept alive part (by rw [List.append_assoc,← supply,stream]) (by simp only [Poll.size]; omega)
    | @waiting t used kept part supply =>
      -- a call waits only when all has arrived, and the frame would be complete
      have sized := congrArg List.length stream
      rw [supply] at sized
      rw [sized,List.length_append] at part
      omega

theorem driveFrames (safe : CancelSafe call Holds (Holds · []) Frame) {values : List α} {frames : List Bytes}
    (framed : List.Forall₂ (fun a frame => Frame (.ok a) frame) values frames)
    (nonempty : ∀ r frame, Frame r frame → 0 < frame.length)
    {fuel : Nat} {s : σ} {tail : Bytes} {polls : List Poll} (holds : Holds s []) (live : Poll.Live polls)
    (stream : Poll.supply polls = frames.flatten ++ tail) (enough : Poll.size polls < fuel) :
    ∃ later t rest, drive call fuel s polls =
        (values.map .ok ++ (drive call later t rest).1,(drive call later t rest).2) ∧
      Holds t [] ∧ Poll.Live rest ∧ Poll.supply rest = tail ∧ Poll.size rest < later := by
  induction framed generalizing fuel s polls with
  | nil => exact ⟨fuel,s,polls,rfl,holds,live,stream,enough⟩
  | cons first others ih =>
    rw [List.flatten_cons,List.append_assoc] at stream
    obtain ⟨fuel',_,_,t,rest,reaches,called,holds',live',stream',enough'⟩ :=
      driveReturns safe holds live first (nonempty _ _ first) stream enough
    obtain ⟨later,u,last,run,final⟩ := ih holds' live' stream' enough'
    refine ⟨later,u,last,?_,final⟩
    rw [reaches]
    simp only [drive,called,run]
    rfl

theorem driveIdle (safe : CancelSafe call Holds After Frame) {r : Outcome ε α} {frame : Bytes} (framed : Frame r frame)
    (nonempty : 0 < frame.length) {fuel : Nat} {s : σ} {polls : List Poll} (holds : Holds s [])
    (live : Poll.Live polls) (drained : Poll.supply polls = []) : (drive call fuel s polls).1 = [] := by
  induction fuel generalizing s polls with
  | zero => rfl
  | succ fuel ih =>
    have resumes := safe [] holds live framed nonempty (by rw [drained]; exact List.nil_prefix)
    simp only [drive]
    generalize call s polls = result at resumes
    cases resumes with
    | done after alive fewer used whole supply =>
      rw [drained] at supply
      obtain ⟨rfl,_⟩ := List.append_eq_nil_iff.mp supply.symm
      rw [← whole] at nonempty
      simp at nonempty
    | dropped used kept alive fewer part supply =>
      rw [drained] at supply
      obtain ⟨rfl,left⟩ := List.append_eq_nil_iff.mp supply.symm
      exact ih kept alive left
    | waiting used kept part supply => rfl

end Drive

end Basis
