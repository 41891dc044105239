import Mathlib.Logic.Basic

/-!
# What a USB actor does with its transport

`usb_backend/actor.rs` below its event loops: sending protocol commands with their replies, retries
and unsolicited reports, writing a frame, the frame pump, brightness, keepalive and shutdown.

* A `Protocol` and a `Transport` are any behaviour over states of their own. `Protocol::keepalive`,
  the intervals and timeouts and `session_restart` only look at the protocol, which is what their
  documentation promises; every other call may change it.
* `Rig` is the two states with what was done: the transport operations (with the pauses between
  them), what became of each frame and the answer to each command, newest first.
* Left out: logging and what only logging reads, and the observers of a delivery's timing.
-/

namespace Hypercolor.Device.Usb

abbrev Bytes := List UInt8
abbrev Color := UInt8 × UInt8 × UInt8
abbrev DeviceId := String
/-- A span of time. -/
abbrev Duration := Nat

/-! ## Commands and errors -/

/-- `TransferType` -/
inductive TransferType where
  | primary
  | bulk
  | hidReport
  | companion

/-- `ResponseTolerance` -/
inductive ResponseTolerance where
  | required
  | optional
deriving DecidableEq

/-- `ResponsePlan` -/
structure ResponsePlan where
  count : Nat
  timeout : Option Duration
  capacity : Option Nat
  tolerance : ResponseTolerance

/-- `ProtocolCommand` -/
structure ProtocolCommand where
  data : Bytes
  expectsResponse : Bool
  responseDelay : Duration
  postDelay : Duration
  transferType : TransferType
  response : ResponsePlan

/-- `TransportError` -/
inductive TransportError where
  | notFound (detail : String)
  | notReady (detail : String)
  | ioError (detail : String)
  | timeout (after : Duration)
  | disconnected (detail : String)
  | closed
  | permissionDenied (detail : String)
  | unsupportedPlatform (transport platform : String)
  | unsupportedTransfer (transport : String) (transferType : TransferType)

/-- `ResponseStatus` -/
inductive ResponseStatus where
  | ok
  | busy
  | failed
  | timeout
  | unsupported
  | unsolicited

/-- `ProtocolError` -/
inductive ProtocolError where
  | crcMismatch (expected actual : UInt8)
  | malformedResponse (detail : String)
  | deviceError (status : ResponseStatus)
  | encodingError (detail : String)

/-- What an error carries on top of its cause. -/
inductive Context where
  /-- "USB brightness write failed for device …" -/
  | brightness (device : DeviceId)
  /-- "USB device … asked to be connected afresh" -/
  | restart (device : DeviceId)
  /-- "USB keepalive failed for device …" -/
  | keepalive (device : DeviceId)
  /-- "USB frame pump write failed for device …" -/
  | framePump (device : DeviceId)
  /-- "USB frame write failed for device …" -/
  | frame (device : DeviceId)

/-- Where a chain of errors starts. -/
inductive Cause where
  | transport (error : TransportError)
  /-- "USB protocol does not support brightness for device …" -/
  | brightnessUnsupported (device : DeviceId)
  /-- "… sent … unsolicited reports and no reply to …" -/
  | unsolicitedReports (count : Nat) (data : Bytes)
  /-- "protocol response parse failed: …" -/
  | parseFailed (error : ProtocolError)

/-- `anyhow::Error`, its contexts from the outside in -/
structure Failure where
  contexts : List Context
  cause : Cause

/-- `with_context` -/
def Failure.within (context : Context) (failure : Failure) : Failure :=
  { failure with contexts := context :: failure.contexts }

/-- `DeviceError`, the variants a write can end in -/
inductive DeviceError where
  | disconnected (device : DeviceId)
  | timeout (after : Duration)
  | permissionDenied (device : DeviceId) (detail : String)
  | unsupportedWrite
  | write (device : DeviceId) (failure : Failure)

/-- `map_hal_transport_error` with `DeviceTransportOperation::Write` -/
def mapHalTransportError (device : DeviceId) (failure : Failure) : DeviceError :=
  match failure.cause with
  | .transport (.notFound _) => .disconnected device
  | .transport (.timeout after) => .timeout after
  | .transport (.disconnected _) | .transport .closed => .disconnected device
  | .transport (.permissionDenied detail) => .permissionDenied device detail
  | .transport (.unsupportedTransfer _ _) | .transport (.unsupportedPlatform _ _) =>
      .unsupportedWrite
  | .transport (.notReady _) | .transport (.ioError _) | .brightnessUnsupported _
  | .unsolicitedReports _ _ | .parseFailed _ => .write device failure

/-- `FrameWriteDisposition` -/
inductive FrameWriteDisposition where
  | transient
  | fatal
deriving DecidableEq

/-- `classify_frame_write_error` -/
def classifyFrameWriteError (failure : Failure) : FrameWriteDisposition :=
  match failure.cause with
  | .transport (.timeout _) | .transport (.notReady _) | .transport (.ioError _) => .transient
  | _ => .fatal

/-! ## Frames and their deliveries -/

/-- `FrameBatch` -/
inductive FrameBatch where
  | write (pixelBytes : Option Nat) (completion : Option Nat)
  | unchanged
  | held

/-- `SkipReason`; a deferred frame is offered again after `wait` -/
inductive SkipReason where
  | unchanged
  | deferred (wait : Duration)

/-- The ends of `Attempt` and `Transmission` -/
inductive Delivery where
  | skip (reason : SkipReason)
  | start
  | written
  | writtenPart (bytes : Nat)
  | failedTransient (error : DeviceError)
  | failed (error : DeviceError)

/-- `MailboxFrame`: a frame as the actor finds it: `attempt` is what `claim` answers, none when a
newer frame or another worker took it. -/
structure MailboxFrame where
  colors : List Color
  attempt : Option Nat

/-! ## What the actor talks to -/

/-- `Protocol`: any protocol over its own state. -/
structure Protocol (σ : Type) where
  /-- Whether `keepalive` answers with an interval. -/
  keepalive : σ → Bool
  framePumpInterval : σ → Option Duration
  frameInterval : σ → Duration
  responseTimeout : σ → Duration
  sessionRestart : σ → Option String
  keepaliveCommands : σ → List ProtocolCommand × σ
  /-- The buffer is the one the last pump left. -/
  pumpFrameInto : List ProtocolCommand → σ → List ProtocolCommand × σ
  encodeBrightness : UInt8 → σ → Option (List ProtocolCommand) × σ
  /-- The buffer is the one the last frame left. -/
  encodeFrameInto : List Color → List ProtocolCommand → σ →
    (FrameBatch × List ProtocolCommand) × σ
  frameWriteFinished : Nat → Bool → σ → σ
  shutdownSequence : σ → List ProtocolCommand × σ
  parseResponse : Bytes → σ → Except ProtocolError ResponseStatus × σ

/-- `Transport`: any transport over its own state. -/
structure Transport (τ : Type) where
  sendWithType : Bytes → TransferType → τ → Except TransportError Unit × τ
  receiveLogical : Duration → TransferType → Option Nat → τ → Except TransportError Bytes × τ
  sendReceiveLogical : Bytes → Duration → TransferType → Option Nat → τ →
    Except TransportError Bytes × τ

/-- A transport operation, or a pause between two. -/
inductive Operation where
  | send (data : Bytes) (transferType : TransferType)
  | receive (timeout : Duration) (transferType : TransferType) (capacity : Option Nat)
  | sendReceive (data : Bytes) (timeout : Duration) (transferType : TransferType)
      (capacity : Option Nat)
  | sleep (pause : Duration)

/-- The protocol and the transport with what was done so far. -/
structure Rig (σ τ : Type) where
  protocol : σ
  transport : τ
  operations : List Operation
  deliveries : List (Nat × Delivery)
  responses : List (Nat × Except DeviceError Unit)

/-- A step of an actor: it may fail, and what it did stays done. -/
abbrev UsbM (σ τ : Type) := ExceptT Failure (StateM (Rig σ τ))

variable {σ τ : Type}

variable {α : Type}

/-- Go on with the result, whichever it is. -/
def observe (x : UsbM σ τ α) : UsbM σ τ (Except Failure α) :=
  ExceptT.lift x.run

/-- `with_context` on a result -/
def withContext (context : Context) (x : UsbM σ τ α) : UsbM σ τ α :=
  ExceptT.adapt (Failure.within context) x

/-- A call of the protocol. -/
def callProtocol (call : σ → α × σ) : UsbM σ τ α := do
  let rig ← get
  set { rig with protocol := (call rig.protocol).2 }
  return (call rig.protocol).1

/-- What the protocol says without changing. -/
def askProtocol (ask : σ → α) : UsbM σ τ α := do
  let rig ← get
  return ask rig.protocol

/-- A transport operation, recorded and carried out. -/
def operate (operation : Operation) (call : τ → α × τ) : UsbM σ τ α := do
  let rig ← get
  set { rig with transport := (call rig.transport).2, operations := operation :: rig.operations }
  return (call rig.transport).1

/-- `tokio::time::sleep` -/
def sleep (pause : Duration) : UsbM σ τ Unit :=
  modify fun rig => { rig with operations := .sleep pause :: rig.operations }

/-- What becomes of the frame of `attempt`. -/
def deliver (attempt : Nat) (delivery : Delivery) : UsbM σ τ Unit :=
  modify fun rig => { rig with deliveries := (attempt, delivery) :: rig.deliveries }

/-- `response_tx.send`: the answer to a command. -/
def respond (command : Nat) (response : Except DeviceError Unit) : UsbM σ τ Unit :=
  modify fun rig => { rig with responses := (command, response) :: rig.responses }

/-- `command_response` -/
def commandResponse (device : DeviceId) (result : Except Failure Unit) : Except DeviceError Unit :=
  result.mapError (mapHalTransportError device)

/-! ## Sending commands -/

def maxRetries : Nat := 3
def retryBackoff : Duration := 100
def drainReportTimeout : Duration := 20
def maxUnsolicitedReports : Nat := 16
/-- `HELD_FRAME_RETRY`: the soonest a held frame is offered again. -/
def heldFrameRetry : Duration := 10

/-- `send_with_type` with `map_transport_error` -/
def send (T : Transport τ) (command : ProtocolCommand) : UsbM σ τ Unit := do
  match ← operate (.send command.data command.transferType)
      (T.sendWithType command.data command.transferType) with
  | .ok () => return ()
  | .error error => throw ⟨[], .transport error⟩

/-- `receive_logical` -/
def receive (T : Transport τ) (command : ProtocolCommand) (timeout : Duration) :
    UsbM σ τ (Except TransportError Bytes) :=
  operate (.receive timeout command.transferType command.response.capacity)
    (T.receiveLogical timeout command.transferType command.response.capacity)

/-- `send_receive_logical` -/
def sendReceive (T : Transport τ) (command : ProtocolCommand) (timeout : Duration) :
    UsbM σ τ (Except TransportError Bytes) :=
  operate (.sendReceive command.data timeout command.transferType command.response.capacity)
    (T.sendReceiveLogical command.data timeout command.transferType command.response.capacity)

/-- `ReportOutcome` -/
inductive ReportOutcome where
  | accepted
  | retry
  | unsolicited

/-- A status that asks for the command to be sent again. -/
def ResponseStatus.resends : ResponseStatus → Bool
  | .busy | .timeout => true
  | _ => false

/-- `parse_response_report` -/
def parseResponseReport (P : Protocol σ) (attempt : Nat) (response : Bytes) : UsbM σ τ ReportOutcome := do
  match ← callProtocol (P.parseResponse response) with
  | .ok .unsolicited => return .unsolicited
  | .ok status =>
      if status.resends && decide (attempt < maxRetries) then
        sleep retryBackoff
        return .retry
      else return .accepted
  | .error (.deviceError status) =>
      if status.resends && decide (attempt < maxRetries) then
        sleep retryBackoff
        return .retry
      else throw ⟨[], .parseFailed (.deviceError status)⟩
  | .error error => throw ⟨[], .parseFailed error⟩

/-- `discard_queued_reports` -/
def discardQueuedReports (T : Transport τ) (command : ProtocolCommand) : Nat → UsbM σ τ Unit
  | 0 => return ()
  | remaining + 1 => do
      match ← receive T command drainReportTimeout with
      | .ok _ => discardQueuedReports T command remaining
      | .error _ => return ()

/-- `read` in `run_response_command`: one report: the first read of a command sends it, the others
only receive. -/
def readReport (T : Transport τ) (command : ProtocolCommand) (timeout : Duration) (first : Bool) :
    UsbM σ τ (Except TransportError Bytes) := do
  if !first then receive T command timeout
  else if command.responseDelay = 0 ∧ command.response.tolerance = .required then
    sendReceive T command timeout
  else if command.responseDelay = 0 then
    send T command
    receive T command timeout
  else
    send T command
    sleep command.responseDelay
    receive T command timeout

/-- The loop of `run_response_command`: the reports from `reportIndex` on; whether the command is to
be sent again. -/
def readReports (P : Protocol σ) (T : Transport τ) (command : ProtocolCommand) (timeout : Duration)
    (attempt reportCount reportIndex unsolicited : Nat) : UsbM σ τ Bool := do
  if reportIndex < reportCount then
    match ← readReport T command timeout (reportIndex == 0 && unsolicited == 0) with
    | .error error =>
        match error, command.response.tolerance with
        | .timeout _, .optional => return false
        | error, _ => throw ⟨[], .transport error⟩
    | .ok response =>
        let remaining := reportCount - reportIndex - 1
        match ← observe (parseResponseReport P attempt response) with
        | .error failure =>
            discardQueuedReports T command remaining
            throw failure
        | .ok .accepted =>
            readReports P T command timeout attempt reportCount (reportIndex + 1) unsolicited
        | .ok .retry =>
            discardQueuedReports T command remaining
            return true
        | .ok .unsolicited =>
            if maxUnsolicitedReports < unsolicited + 1 then
              throw ⟨[], .unsolicitedReports (unsolicited + 1) command.data⟩
            else
              readReports P T command timeout attempt reportCount reportIndex (unsolicited + 1)
  else return false
termination_by (reportCount - reportIndex) + (maxUnsolicitedReports + 1 - unsolicited)

/-- `run_response_command` -/
def runResponseCommand (P : Protocol σ) (T : Transport τ) (command : ProtocolCommand)
    (attempt : Nat) : UsbM σ τ Bool := do
  let timeout := command.response.timeout.getD (← askProtocol P.responseTimeout)
  readReports P T command timeout attempt (max command.response.count 1) 0 0

/-- A pause after the command, if it asks for one. -/
def postDelay (command : ProtocolCommand) : UsbM σ τ Unit :=
  if command.postDelay = 0 then return () else sleep command.postDelay

/-- `run_command`: a report asks for a resend only below `maxRetries`. -/
def runCommand (P : Protocol σ) (T : Transport τ) (command : ProtocolCommand) (attempt : Nat) :
    UsbM σ τ Unit := do
  if command.expectsResponse then
    if ← runResponseCommand P T command attempt then
      if attempt < maxRetries then runCommand P T command (attempt + 1)
      else return ()
    else postDelay command
  else
    send T command
    postDelay command
termination_by maxRetries - attempt

/-- `run_commands` -/
def runCommands (P : Protocol σ) (T : Transport τ) : List ProtocolCommand → UsbM σ τ Unit
  | [] => return ()
  | command :: commands => do
      runCommand P T command 0
      runCommands P T commands

/-! ## What the event loops call -/

variable (P : Protocol σ) (T : Transport τ) (device : DeviceId)

variable (commands : List ProtocolCommand)

/-- `run_encoded_frame` -/
def runEncodedFrame : UsbM σ τ Unit :=
  withContext (.frame device) (runCommands P T commands)

/-- `held_frame_skip` -/
def heldFrameSkip (P : Protocol σ) : UsbM σ τ SkipReason := do
  let pump ← askProtocol P.framePumpInterval
  let interval ← askProtocol P.frameInterval
  return .deferred (max (pump.getD interval) heldFrameRetry)

/-- A transient failure is logged and forgiven. -/
def forgiveTransient (x : UsbM σ τ Unit) : UsbM σ τ Unit := do
  match ← observe x with
  | .ok () => return ()
  | .error failure =>
      if classifyFrameWriteError failure = .transient then return () else throw failure

/-- `run_held_commands` -/
def runHeldCommands : UsbM σ τ Unit :=
  if commands.isEmpty then return () else forgiveTransient (runEncodedFrame P T device commands)

/-- `run_resilient_device_frame`: the command buffer as the frame leaves it. -/
def runResilientDeviceFrame (frame : MailboxFrame) (commands : List ProtocolCommand) :
    UsbM σ τ (List ProtocolCommand) := do
  match frame.attempt with
  | none => return commands
  | some attempt =>
      let (batch, commands) ← callProtocol (P.encodeFrameInto frame.colors commands)
      match batch with
      | .unchanged =>
          deliver attempt (.skip .unchanged)
          return commands
      | .held =>
          deliver attempt (.skip (← heldFrameSkip P))
          runHeldCommands P T device commands
          return commands
      | .write pixelBytes completion =>
          deliver attempt .start
          let written ← observe (runEncodedFrame P T device commands)
          match completion with
          | some token => callProtocol fun s => ((), P.frameWriteFinished token written.isOk s)
          | none => pure ()
          match written with
          | .ok () =>
              match pixelBytes with
              | some bytes => deliver attempt (.writtenPart bytes)
              | none => deliver attempt .written
              return commands
          | .error failure =>
              let error := mapHalTransportError device failure
              if classifyFrameWriteError failure = .transient then
                deliver attempt (.failedTransient error)
                return commands
              else
                deliver attempt (.failed error)
                throw failure

/-- Why the session ends when the protocol asks for a fresh connect. -/
def restartFailure (device : DeviceId) (reason : String) : Failure :=
  ⟨[.restart device], .transport (.disconnected reason)⟩

/-- `check_session_restart` -/
def checkSessionRestart (P : Protocol σ) (device : DeviceId) : UsbM σ τ Unit := do
  match ← askProtocol P.sessionRestart with
  | some reason => throw (restartFailure device reason)
  | none => return ()

/-- `run_frame_pump`: the command buffer as the pump leaves it. -/
def runFramePump : UsbM σ τ (List ProtocolCommand) := do
  let commands ← callProtocol (P.pumpFrameInto commands)
  checkSessionRestart P device
  if commands.isEmpty then return commands
  else
    forgiveTransient (withContext (.framePump device) (runCommands P T commands))
    return commands

/-- `run_brightness_command` -/
def runBrightnessCommand (brightness : UInt8) : UsbM σ τ Unit := do
  match ← callProtocol (P.encodeBrightness brightness) with
  | some commands => withContext (.brightness device) (runCommands P T commands)
  | none => throw ⟨[], .brightnessUnsupported device⟩

/-- `run_keepalive_commands` -/
def runKeepaliveCommands : UsbM σ τ Unit := do
  let commands ← callProtocol P.keepaliveCommands
  checkSessionRestart P device
  if commands.isEmpty then return ()
  else withContext (.keepalive device) (runCommands P T commands)

/-- `run_device_frame` -/
def runDeviceFrame (colors : List Color) : UsbM σ τ Unit := do
  let (_, commands) ← callProtocol (P.encodeFrameInto colors [])
  runEncodedFrame P T device commands

/-- `run_shutdown_sequence`: what fails is logged. -/
def runShutdownSequence (ledCount : Nat) : UsbM σ τ Unit := do
  if 0 < ledCount then
    let _ ← observe (runDeviceFrame P T device (List.replicate ledCount (0, 0, 0)))
  let shutdown ← callProtocol P.shutdownSequence
  if shutdown.isEmpty then return ()
  else
    let _ ← observe (runCommands P T shutdown)

end Hypercolor.Device.Usb
