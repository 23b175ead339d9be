import DyunGu.Graph.Element
import DyunGu.Media.Ops

namespace DyunGu
namespace Media

open DyunGu.Core
open DyunGu.Graph (ElementIo Packet RecvTimeoutError SendEnd)

/-!
# Media elements

A media element drives its core: it sends what the core has ready, submits what
it receives, and after the end of its input polls the core until that ends too.
How a send ends, what the input pipe answers and whether the drain deadline has
passed come from outside.

The frames that the core gave and the packets that were sent are recorded.
-/

variable {C Q R : Type}

def MediaError.toText : MediaError -> String
  | .media message => "media error: " ++ message
  | .other text => text

abbrev MediaPacket (Q R : Type) := Packet (StoredTensor Q) R MediaInfo

/-- What a media element meets with. -/
structure Surroundings (Q R : Type) where
  ending : MediaPacket Q R -> SendEnd
  expired : Nat -> Bool
  drainTimeoutMs : Nat

structure MediaElement (C Q R : Type) where
  core : C
  io : ElementIo
  sequence : Nat
  inputClosed : Bool
  polled : List MediaFrame
  sent : List (MediaPacket Q R)

/-- The end marker, on one port after the other. -/
def sendEos (ending : MediaPacket Q R -> SendEnd) :
    List String -> ElementIo -> ElementIo × Except Graph.Error Unit
  | [], io => (io, .ok ())
  | port :: ports, io =>
      match io.send port (Packet.eos : MediaPacket Q R) (ending Packet.eos) with
      | (io, .error error) => (io, .error error)
      | (io, .ok ()) => sendEos ending ports io

def broadcastEos (ending : MediaPacket Q R -> SendEnd) (io : ElementIo) :
    ElementIo × Except Graph.Error Unit :=
  let (eos, last) := io.eos.arrive
  if last then sendEos ending io.outputs { io with eos := eos }
  else ({ io with eos := eos }, .ok ())

inductive EmitStatus where
  | emitted
  | pending
  | endOfStream
deriving DecidableEq, Repr

/-- A turn of the loop ends the element, or there is another turn. -/
inductive Turn (C Q R : Type) where
  | going (element : MediaElement C Q R) (answers : List (Option (MediaPacket Q R)))
  | ended (element : MediaElement C Q R)
  | failed (element : MediaElement C Q R) (error : Graph.Error)

inductive Emitting (C Q R : Type) where
  | through (element : MediaElement C Q R) (progress : Bool)
  | ended (element : MediaElement C Q R)
  | failed (element : MediaElement C Q R) (error : Graph.Error)

def maxPumpStepsPerIteration : Nat := 64

namespace MediaElement

variable (core : MediaCore C) (around : Surroundings Q R)

def new (start : C) (io : ElementIo) : MediaElement C Q R := ⟨start, io, 0, false, [], []⟩

def coreError (io : ElementIo) (error : MediaError) : Graph.Error := .element io.name error.toText

/-- A frame that the core gave is sent with the next number. -/
def sendFrame (element : MediaElement C Q R) (frame : MediaFrame) :
    Except Graph.Error EmitStatus × MediaElement C Q R :=
  let element := { element with polled := element.polled ++ [frame] }
  match (mediaFrameToGraphPacket frame : Except MediaError (MediaPacket Q R)) with
  | .error error => (.error (.core error.toText), element)
  | .ok packet =>
      let numbered := packet.withMeta { packet.metadata with sequence := element.sequence }
      let element := { element with sequence := bump element.sequence }
      match element.io.send "out" numbered (around.ending numbered) with
      | (io, .error error) => (.error error, { element with io := io })
      | (io, .ok ()) =>
          (.ok .emitted, { element with io := io, sent := element.sent ++ [numbered] })

def tryEmitOne (element : MediaElement C Q R) :
    Except Graph.Error EmitStatus × MediaElement C Q R :=
  match core.poll element.core with
  | (.error error, next) => (.error (coreError element.io error), { element with core := next })
  | (.ok (.ready frame), next) => sendFrame around { element with core := next } frame
  | (.ok .pending, next) => (.ok .pending, { element with core := next })
  | (.ok .endOfStream, next) => (.ok .endOfStream, { element with core := next })

/-- Frames are sent until the core has none ready, but only so many. -/
def emitReady : Nat -> MediaElement C Q R -> Bool -> Emitting C Q R
  | 0, element, progress => .through element progress
  | count + 1, element, progress =>
      match tryEmitOne core around element with
      | (.error error, element) => .failed element error
      | (.ok .emitted, element) => emitReady count element true
      | (.ok .pending, element) => .through element progress
      | (.ok .endOfStream, element) =>
          match broadcastEos around.ending element.io with
          | (io, .error error) => .failed { element with io := io } error
          | (io, .ok ()) => .ended { element with io := io }

/-- What is received is submitted.  The answer says whether anything was. -/
def receive (element : MediaElement C Q R) (answer : Except RecvTimeoutError (MediaPacket Q R))
    (now : Nat) : Except Graph.Error Bool × MediaElement C Q R :=
  match element.io.recv "in" answer now with
  | (io, .error error) => (.error error, { element with io := io })
  | (io, .ok none) =>
      if io.stop then (.error .notRunning, { element with io := io })
      else (.ok false, { element with io := io })
  | (io, .ok (some packet)) =>
      if packet.isEos then
        (.ok true, { element with
          io := io, core := core.submitEndOfStream element.core, inputClosed := true })
      else
        match graphPacketToMediaFrame packet with
        | .error error => (.error (coreError io error), { element with io := io })
        | .ok frame =>
            match core.submit element.core frame with
            | (.error error, next) =>
                (.error (coreError io error), { element with io := io, core := next })
            | (.ok (), next) => (.ok true, { element with io := io, core := next })

/-- The end of a turn.  Without any progress the element waits, unless there is
nothing to wait for. -/
def finishTurn (moment : Nat) (element : MediaElement C Q R) (progress : Bool)
    (answers : List (Option (MediaPacket Q R))) : Turn C Q R :=
  if progress then .going element answers
  else if core.isFlushing element.core && around.expired moment then
    .failed element (.runtime (s!"media element \x60{element.io.name}\x60 drain exceeded " ++
      s!"{around.drainTimeoutMs} ms"))
  else if !core.hasInFlight element.core && element.inputClosed then
    .failed element (.runtime (s!"media element \x60{element.io.name}\x60 did not reach end of " ++
      "stream after input eos"))
  else .going element answers

/-- What the pipe answers; when nothing is listed it has nothing. -/
def pipeAnswer : List (Option (MediaPacket Q R)) -> Except RecvTimeoutError (MediaPacket Q R)
  | some packet :: _ => .ok packet
  | none :: _ => .error .timeout
  | [] => .error .timeout

/-- The second half of a turn: only a core that accepts input is given any. -/
def acceptInput (moment : Nat) (element : MediaElement C Q R) (progress : Bool)
    (answers : List (Option (MediaPacket Q R))) : Turn C Q R :=
  if core.canAcceptInput element.core && !element.inputClosed then
    match receive core element (pipeAnswer answers) moment with
    | (.error error, element) => .failed element error
    | (.ok received, element) =>
        finishTurn core around moment element (progress || received) answers.tail
  else finishTurn core around moment element progress answers

def turn (moment : Nat) (element : MediaElement C Q R)
    (answers : List (Option (MediaPacket Q R))) : Turn C Q R :=
  match emitReady core around maxPumpStepsPerIteration element false with
  | .failed element error => .failed element error
  | .ended element => .ended element
  | .through element progress => acceptInput core around moment element progress answers

/-- At most so many turns from the given moment on. -/
def run : Nat -> Nat -> MediaElement C Q R -> List (Option (MediaPacket Q R)) -> Turn C Q R
  | 0, _, element, answers => .going element answers
  | fuel + 1, moment, element, answers =>
      match turn core around moment element answers with
      | .going element answers => run fuel (moment + 1) element answers
      | stopped => stopped

end MediaElement

/-! ## Cores with a pump -/

section Pumped

variable {S V A D : Type}

/-- A frame that is popped has to pass a check. -/
def checkedFrame {P : Type} (check : MediaFrame -> Except MediaError Unit) (frame : MediaFrame)
    (rest : P) : Except MediaError MediaPoll × P :=
  match check frame with
  | .error error => (.error error, rest)
  | .ok () => (.ok (.ready frame), rest)

/-- The core that pumps a backend; `missing` is the message for a pump that says
it has a frame and has none. -/
def pumpCore (errors : AvErrors A) (ops : BackendOps S MediaFrame V A) (missing : String)
    (check : MediaFrame -> Except MediaError Unit) : MediaCore (AsyncPump MediaFrame V × S) where
  canAcceptInput core := core.1.canAcceptInput
  hasInFlight core := core.1.hasInFlight
  isFlushing core := core.1.isFlushing
  submit core frame :=
    let (answer, pump) := core.1.submitInput frame
    (answer, pump, core.2)
  submitEndOfStream core := (core.1.beginFlush, core.2)
  poll core :=
    match core.1.popOutput with
    | (some frame, pump) => checkedFrame check frame (pump, core.2)
    | (none, pump) =>
        match pump.pumpStep errors ops core.2 with
        | (.error error, pump, backend) => (.error error, pump, backend)
        | (.ok .pending, pump, backend) => (.ok .pending, pump, backend)
        | (.ok .endOfStream, pump, backend) => (.ok .endOfStream, pump, backend)
        | (.ok .outputReady, pump, backend) =>
            match pump.popOutput with
            | (some frame, pump) => checkedFrame check frame (pump, backend)
            | (none, pump) => (.error (.media missing), pump, backend)

/-- What is asked of a session of the codec library, with what the backend makes
of its answers. -/
structure SessionOps (D V A : Type) where
  openSession : MediaFrame -> Except MediaError D
  checkInvariants : D -> MediaFrame -> Except MediaError Unit
  convert : D -> MediaFrame -> Except MediaError V
  submit : D -> V -> SubmitResult V A × D
  poll : D -> Except A (Poll MediaFrame) × D
  flush : D -> Except A Unit × D
  reset : D -> Except A Unit × Option D

/-- A backend whose session is opened by its first frame, with its answers to a
submit and a poll that come before. -/
def sessionBackend (session : SessionOps D V A) (notInitialized : A)
    (unopened : Except A (Poll MediaFrame)) : BackendOps (Option D) MediaFrame V A where
  convertInput
    | none, frame =>
        match session.openSession frame with
        | .error error => (.error error, none)
        | .ok opened => (session.convert opened frame, some opened)
    | some opened, frame =>
        match session.checkInvariants opened frame with
        | .error error => (.error error, some opened)
        | .ok () => (session.convert opened frame, some opened)
  submitValue
    | none, _ => (.error notInitialized, none)
    | some opened, value =>
        let (answer, next) := session.submit opened value
        (answer, some next)
  pollOutput
    | none => (unopened, none)
    | some opened =>
        let (answer, next) := session.poll opened
        (answer, some next)
  flushBackend
    | none => (.ok (), none)
    | some opened =>
        let (answer, next) := session.flush opened
        (answer, some next)
  resetBackend
    | none => (.ok (), none)
    | some opened => session.reset opened
  flushRequired backend := backend.isSome

def decoderBackend (session : SessionOps D V A) (notInitialized : A) :
    BackendOps (Option D) MediaFrame V A := sessionBackend session notInitialized (.ok .pending)

def encoderBackend (session : SessionOps D V A) (notInitialized : A) :
    BackendOps (Option D) MediaFrame V A := sessionBackend session notInitialized (.ok .pending)

def transcodeBackend (session : SessionOps D V A) (notInitialized : A) :
    BackendOps (Option D) MediaFrame V A := sessionBackend session notInitialized (.ok .pending)

/-- The session of this one is opened when the core is made. -/
def resizeBackend (session : SessionOps D V A) (notInitialized : A) :
    BackendOps (Option D) MediaFrame V A :=
  sessionBackend session notInitialized (.error notInitialized)

/-- Of a decoded frame, if the configuration gives its geometry. -/
def validateOutputGeometry (configured : Option (Nat × Nat × Nat)) (frame : MediaFrame) :
    Except MediaError Unit :=
  match configured with
  | none => .ok ()
  | some (width, height, channels) =>
      if frame.shape = [height, width, channels] then .ok ()
      else .error (.media (s!"decoded output shape {frame.shape} does not match configured " ++
        s!"[{height}, {width}, {channels}]"))

def decodeCore (errors : AvErrors A) (session : SessionOps D V A) (notInitialized : A)
    (configured : Option (Nat × Nat × Nat)) : MediaCore (AsyncPump MediaFrame V × Option D) :=
  pumpCore errors (decoderBackend session notInitialized)
    "decode pump reported OutputReady without queued frame" (validateOutputGeometry configured)

def encodeCore (errors : AvErrors A) (session : SessionOps D V A) (notInitialized : A) :
    MediaCore (AsyncPump MediaFrame V × Option D) :=
  pumpCore errors (encoderBackend session notInitialized)
    "encode pump reported OutputReady without queued frame" fun _ => .ok ()

def transcodeCore (errors : AvErrors A) (session : SessionOps D V A) (notInitialized : A) :
    MediaCore (AsyncPump MediaFrame V × Option D) :=
  pumpCore errors (transcodeBackend session notInitialized)
    "transcode pump reported OutputReady without queued frame" fun _ => .ok ()

def resizeCore (errors : AvErrors A) (session : SessionOps D V A) (notInitialized : A) :
    MediaCore (AsyncPump MediaFrame V × Option D) :=
  pumpCore errors (resizeBackend session notInitialized)
    "resize pump reported OutputReady without queued frame" fun _ => .ok ()

end Pumped
end Media
end DyunGu
