import Mathlib.Tactic.SplitIfs
import Hypercolor.Device.UsbTransfers

/-!
# The two USB actors

A transport with one lane is driven by `run_device_actor`, one with parallel lanes by
`run_device_control_actor` beside a display lane. The event loop is written twice: the first
inlines brightness and keepalive, the second calls `run_brightness_command` and
`run_keepalive_commands`.

**Result.** `actors_alike_iff`: over any protocol, transport and sequence of ready events, the two
actors do the same to the transport, settle every frame and command alike and end at the same event
with the same result, and end the session before another write when a tick finds the protocol
asking for a restart, exactly if no keepalive tick finds it asking.

**What goes wrong.** `keepalive_restart_ignored`: the inlined keepalive branch lacks
`check_session_restart`, so the single-lane actor writes the keepalive commands and goes on.

Left out is the display lane: the single-lane actor's display branch comes between keepalive and
frames in `select!`, and without display frames it is never ready.
-/

namespace Hypercolor.Device.Usb

variable {σ τ : Type}

/-! ## The event loops -/

/-- `UsbDeviceCommand`; `response` names the sender its answer goes to -/
inductive UsbDeviceCommand where
  | setBrightness (brightness : UInt8) (response : Nat)
  | shutdown (ledCount : Nat) (response : Nat)

/-- What `frame_rx.changed` ends with: its sender is gone, or what the cell holds now. -/
inductive FrameChange where
  | closed
  | value (frame : Option MailboxFrame)

/-- What is ready when the loop selects. -/
structure Ready where
  command : Option UsbDeviceCommand
  keepalive : Bool
  frame : Option FrameChange
  pump : Bool

/-- The branch a loop takes. -/
inductive Branch where
  | command (command : UsbDeviceCommand)
  | keepalive
  | frame (change : FrameChange)
  | pump
  | pending

/-- `tokio::select!` with `biased`: the first ready branch in the order of the loop, of those whose
timer exists. -/
def Ready.select (ready : Ready) (keepaliveInterval framePump : Bool) : Branch :=
  match ready.command with
  | some command => .command command
  | none =>
      if ready.keepalive && keepaliveInterval then .keepalive
      else
        match ready.frame with
        | some change => .frame change
        | none => if ready.pump && framePump then .pump else .pending

/-- The command buffers of a loop. -/
structure Buffers where
  frame : List ProtocolCommand
  pump : List ProtocolCommand

/-- The answer to a command goes out before its failure ends the actor. -/
def answerCommand (device : DeviceId) (response : Nat) (result : Except Failure Unit) :
    UsbM σ τ Unit := do
  respond response (commandResponse device result)
  match result with
  | .ok () => return ()
  | .error failure => throw failure

/-- The loop body of `run_device_actor`: one turn of the loop; none when the actor returns `Ok`. -/
def deviceTurn (P : Protocol σ) (T : Transport τ) (device : DeviceId) (buffers : Buffers)
    (branch : Branch) : UsbM σ τ (Option Buffers) := do
  match branch with
  | .command (.setBrightness brightness response) =>
      let result ← observe do
        match ← callProtocol (P.encodeBrightness brightness) with
        | some commands => withContext (.brightness device) (runCommands P T commands)
        | none => throw ⟨[], .brightnessUnsupported device⟩
      answerCommand device response result
      return some buffers
  | .command (.shutdown ledCount response) =>
      let result ← observe (runShutdownSequence P T device ledCount)
      answerCommand device response result
      return none
  | .keepalive =>
      let commands ← callProtocol P.keepaliveCommands
      if commands.isEmpty then return some buffers
      else
        withContext (.keepalive device) (runCommands P T commands)
        return some buffers
  | .frame .closed => return none
  | .frame (.value none) => return some buffers
  | .frame (.value (some frame)) =>
      let commands ← runResilientDeviceFrame P T device frame buffers.frame
      return some { buffers with frame := commands }
  | .pump =>
      let commands ← runFramePump P T device buffers.pump
      return some { buffers with pump := commands }
  | .pending => return some buffers

/-- The loop body of `run_device_control_actor`: one turn of the loop; none when the actor returns
`Ok`. -/
def controlTurn (P : Protocol σ) (T : Transport τ) (device : DeviceId) (buffers : Buffers)
    (branch : Branch) : UsbM σ τ (Option Buffers) := do
  match branch with
  | .command (.setBrightness brightness response) =>
      let result ← observe (runBrightnessCommand P T device brightness)
      answerCommand device response result
      return some buffers
  | .command (.shutdown ledCount response) =>
      let result ← observe (runShutdownSequence P T device ledCount)
      answerCommand device response result
      return none
  | .keepalive =>
      runKeepaliveCommands P T device
      return some buffers
  | .frame .closed => return none
  | .frame (.value none) => return some buffers
  | .frame (.value (some frame)) =>
      let commands ← runResilientDeviceFrame P T device frame buffers.frame
      return some { buffers with frame := commands }
  | .pump =>
      let commands ← runFramePump P T device buffers.pump
      return some { buffers with pump := commands }
  | .pending => return some buffers

/-- A turn of either loop. -/
abbrev Turn (σ τ : Type) := Buffers → Branch → UsbM σ τ (Option Buffers)

/-- Where a run of an actor stands once the branches are taken: the rig, and, when the actor
returned, its result and the branches it did not come to. -/
structure Outcome (σ τ : Type) where
  rig : Rig σ τ
  ended : Option (Except Failure Unit × List Branch)

/-- The loop over the branches it takes. -/
def runLoop (turn : Turn σ τ) : List Branch → Buffers → Rig σ τ → Outcome σ τ
  | [], _, rig => ⟨rig, none⟩
  | branch :: branches, buffers, rig =>
      match (turn buffers branch).run rig with
      | (.ok (some buffers), rig) => runLoop turn branches buffers rig
      | (.ok none, rig) => ⟨rig, some (.ok (), branches)⟩
      | (.error failure, rig) => ⟨rig, some (.error failure, branches)⟩

/-- The branches taken by a loop whose timers the protocol asked for when it started. -/
def branchesOf (P : Protocol σ) (start : σ) (events : List Ready) : List Branch :=
  events.map fun ready => ready.select (P.keepalive start) (P.framePumpInterval start).isSome

variable (P : Protocol σ) (T : Transport τ) (device : DeviceId) (events : List Ready) (rig : Rig σ τ)

/-- `run_device_actor` without display frames -/
def runDeviceActor : Outcome σ τ :=
  runLoop (deviceTurn P T device) (branchesOf P rig.protocol events) ⟨[], []⟩ rig

/-- `run_device_control_actor` -/
def runDeviceControlActor : Outcome σ τ :=
  runLoop (controlTurn P T device) (branchesOf P rig.protocol events) ⟨[], []⟩ rig

/-! ## What is claimed -/

/-- `C` holds before every turn the loop comes to. -/
def Along (turn : Turn σ τ) (C : Buffers → Branch → Rig σ τ → Prop) : List Branch → Buffers →
    Rig σ τ → Prop
  | [], _, _ => True
  | branch :: branches, buffers, rig =>
      C buffers branch rig ∧
        match (turn buffers branch).run rig with
        | (.ok (some buffers), rig) => Along turn C branches buffers rig
        | _ => True

/-- What the protocol asks for once a tick has called it. -/
def asked (P : Protocol σ) (buffers : Buffers) (branch : Branch) (s : σ) : Option String :=
  match branch with
  | .keepalive => P.sessionRestart (P.keepaliveCommands s).2
  | .pump => P.sessionRestart (P.pumpFrameInto buffers.pump s).2
  | _ => none

/-- A tick that finds the protocol asking for a restart ends the session, and nothing more is
written. -/
def Obeys (P : Protocol σ) (device : DeviceId) (turn : Turn σ τ) (buffers : Buffers)
    (branch : Branch) (rig : Rig σ τ) : Prop :=
  ∀ reason, asked P buffers branch rig.protocol = some reason →
    ∃ rig', (turn buffers branch).run rig = (.error (restartFailure device reason), rig') ∧
      rig'.operations = rig.operations

/-- A keepalive tick does not find the protocol asking for a restart. -/
def KeepaliveUnasked (P : Protocol σ) (_ : Buffers) (branch : Branch) (rig : Rig σ τ) : Prop :=
  branch = .keepalive → P.sessionRestart (P.keepaliveCommands rig.protocol).2 = none

/-! ## One turn -/

variable {α β : Type}

lemma run_callProtocol (cl : σ → α × σ) (f : α → UsbM σ τ β) (rig : Rig σ τ) :
    (callProtocol cl >>= f).run rig =
      (f (cl rig.protocol).1).run { rig with protocol := (cl rig.protocol).2 } := rfl

lemma run_bind (x : UsbM σ τ α) (f : α → UsbM σ τ β) (rig : Rig σ τ) : (x >>= f).run rig =
      match x.run rig with
      | (.ok a, rig) => (f a).run rig
      | (.error failure, rig) => (.error failure, rig) := by
  change (match x.run rig with | (a, rig) => ExceptT.bindCont f a rig) = _
  rcases x.run rig with ⟨_ | _, _⟩ <;> rfl

lemma run_withContext (context : Context) (x : UsbM σ τ α) (rig : Rig σ τ) :
    (withContext context x).run rig =
      ((x.run rig).1.mapError (Failure.within context), (x.run rig).2) := rfl

/-- A protocol that asks ends the computation where it is checked. -/
lemma run_checkSessionRestart (P : Protocol σ) (d : DeviceId) (f : Unit → UsbM σ τ β) (rig : Rig σ τ) :
    (checkSessionRestart P d >>= f).run rig =
      match P.sessionRestart rig.protocol with
      | some reason => (.error (restartFailure d reason), rig)
      | none => (f ()).run rig := by
  change ((match P.sessionRestart rig.protocol with
    | some reason => throw (restartFailure d reason)
    | none => pure () : UsbM σ τ Unit) >>= f).run rig = _
  rcases P.sessionRestart rig.protocol with _ | reason <;> rfl

section turns

variable (P : Protocol σ) (T : Transport τ) (d : DeviceId) (buffers : Buffers)
  (rig : Rig σ τ)

variable {branch : Branch}

/-- The loops differ in their keepalive branch only. -/
lemma deviceTurn_of_ne (h : branch ≠ .keepalive) :
    deviceTurn P T d buffers branch = controlTurn P T d buffers branch := by
  rcases branch with (_ | _) | _ | (_ | (_ | _)) | _ | _
  case keepalive => exact absurd rfl h
  all_goals rfl

/-- The keepalive branch of the parallel actor looks whether the protocol asks before it writes
what the other writes. -/
lemma run_controlTurn_keepalive : (controlTurn P T d buffers .keepalive).run rig =
      match P.sessionRestart (P.keepaliveCommands rig.protocol).2 with
      | some reason => (.error (restartFailure d reason),
          { rig with protocol := (P.keepaliveCommands rig.protocol).2 })
      | none => (deviceTurn P T d buffers .keepalive).run rig := by
  simp only [controlTurn, runKeepaliveCommands, bind_assoc]
  rw [run_callProtocol, run_checkSessionRestart]
  rcases P.sessionRestart (P.keepaliveCommands rig.protocol).2 with _ | reason
  · simp only [deviceTurn]
    rw [run_callProtocol]
    split_ifs <;> rfl
  · rfl

/-- A pump tick ends both loops when the protocol asks. -/
lemma run_controlTurn_pump {reason : String}
    (h : P.sessionRestart (P.pumpFrameInto buffers.pump rig.protocol).2 = some reason) :
    (controlTurn P T d buffers .pump).run rig = (.error (restartFailure d reason),
        { rig with protocol := (P.pumpFrameInto buffers.pump rig.protocol).2 }) := by
  simp only [controlTurn, runFramePump, bind_assoc]
  rw [run_callProtocol, run_checkSessionRestart, h]

lemma controlTurn_obeys (branch : Branch) : Obeys P d (controlTurn P T d) buffers branch rig := by
  intro reason ha
  rcases branch with _ | _ | _ | _ | _
  case keepalive =>
    rw [run_controlTurn_keepalive, show P.sessionRestart _ = some reason from ha]
    exact ⟨_, rfl, rfl⟩
  case pump =>
    rw [run_controlTurn_pump P T d buffers rig ha]
    exact ⟨_, rfl, rfl⟩
  all_goals cases ha

/-- What fails in the inlined keepalive branch is a write. -/
lemma deviceTurn_keepalive_failure {fl : Failure} {rig' : Rig σ τ}
    (h : (deviceTurn P T d buffers .keepalive).run rig = (.error fl, rig')) :
    ∃ rest, fl.contexts = .keepalive d :: rest := by
  simp only [deviceTurn] at h
  rw [run_callProtocol] at h
  split_ifs at h with he
  · cases h
  · rw [run_bind, run_withContext] at h
    generalize (runCommands P T (P.keepaliveCommands rig.protocol).1).run _ = wr at h
    rcases wr with ⟨cause | _, rig₁⟩
    · cases h
      exact ⟨cause.contexts, rfl⟩
    · cases h

/-- Without a request the loops take the same turn. -/
lemma run_deviceTurn (h : KeepaliveUnasked P buffers branch rig) :
    (deviceTurn P T d buffers branch).run rig = (controlTurn P T d buffers branch).run rig := by
  by_cases hb : branch = .keepalive
  · subst hb
    rw [run_controlTurn_keepalive, h rfl]
  · rw [deviceTurn_of_ne P T d buffers hb]

/-- The single-lane actor obeys a restart only where it is not asked by a keepalive tick. -/
lemma deviceTurn_obeys_iff (branch : Branch) : Obeys P d (deviceTurn P T d) buffers branch rig ↔
      KeepaliveUnasked P buffers branch rig := by
  constructor
  · rintro hob rfl
    rcases ha : P.sessionRestart (P.keepaliveCommands rig.protocol).2 with _ | reason
    · rfl
    · obtain ⟨rig', hr, -⟩ := hob reason ha
      obtain ⟨rest, ⟨⟩⟩ := deviceTurn_keepalive_failure P T d buffers rig hr
  · intro h reason ha
    rw [run_deviceTurn P T d buffers rig h]
    exact controlTurn_obeys P T d buffers rig branch reason ha

end turns

/-! ## Whole runs -/

section runs

variable {P : Protocol σ} {T : Transport τ} {d : DeviceId}

/-- What holds of every turn holds along every run. -/
lemma along_of_forall {turn : Turn σ τ} {C : Buffers → Branch → Rig σ τ → Prop}
    (h : ∀ buffers branch rig, C buffers branch rig) (branches : List Branch) (buffers : Buffers)
    (rig : Rig σ τ) : Along turn C branches buffers rig := by
  induction branches generalizing buffers rig with
  | nil => trivial
  | cons branch branches ih =>
    refine ⟨h buffers branch rig, ?_⟩
    rcases (turn buffers branch).run rig with ⟨_ | (_ | nx), rig'⟩
    · trivial
    · trivial
    · exact ih nx rig'

variable {branches : List Branch} {buffers : Buffers} {rig : Rig σ τ}

/-- **Run lemma.** Along a run without a request at a keepalive tick the loops do the same. -/
theorem runLoop_alike (h : Along (controlTurn P T d) (KeepaliveUnasked P) branches buffers rig) :
    runLoop (deviceTurn P T d) branches buffers rig = runLoop (controlTurn P T d) branches buffers rig ∧
    Along (deviceTurn P T d) (Obeys P d (deviceTurn P T d)) branches buffers rig := by
  induction branches generalizing buffers rig with
  | nil => exact ⟨rfl, trivial⟩
  | cons branch branches ih =>
    obtain ⟨hu, hr⟩ := h
    have hob := (deviceTurn_obeys_iff P T d buffers rig branch).mpr hu
    simp only [runLoop, Along]
    rw [run_deviceTurn P T d buffers rig hu]
    rcases ht : (controlTurn P T d buffers branch).run rig with
      ⟨failure | (_ | next), rig'⟩
    iterate 2 exact ⟨rfl, hob, trivial⟩
    · rw [ht] at hr
      obtain ⟨ha, hal⟩ := ih hr
      exact ⟨ha, hob, hal⟩

/-- Along a run in which the single-lane actor obeys every request, none is made at a keepalive
tick. -/
lemma unasked_of_obeys (h : Along (deviceTurn P T d) (Obeys P d (deviceTurn P T d)) branches buffers
      rig) : Along (controlTurn P T d) (KeepaliveUnasked P) branches buffers rig := by
  induction branches generalizing buffers rig with
  | nil => trivial
  | cons branch branches ih =>
    obtain ⟨hob, hr⟩ := h
    have hu := (deviceTurn_obeys_iff P T d buffers rig branch).mp hob
    rw [run_deviceTurn P T d buffers rig hu] at hr
    refine ⟨hu, ?_⟩
    rcases ht : (controlTurn P T d buffers branch).run rig with
      ⟨failure | (_ | next), rig'⟩
    · trivial
    · trivial
    · rw [ht] at hr
      exact ih hr

end runs

/-- **The two actors behave alike** exactly if no keepalive tick finds the protocol asking for a
restart. -/
theorem actors_alike_iff (P : Protocol σ) (T : Transport τ) (device : DeviceId)
    (events : List Ready) (rig : Rig σ τ) :
    (runDeviceActor P T device events rig = runDeviceControlActor P T device events rig ∧
      Along (deviceTurn P T device) (Obeys P device (deviceTurn P T device))
        (branchesOf P rig.protocol events) ⟨[], []⟩ rig ∧
      Along (controlTurn P T device) (Obeys P device (controlTurn P T device))
        (branchesOf P rig.protocol events) ⟨[], []⟩ rig) ↔
    Along (controlTurn P T device) (KeepaliveUnasked P) (branchesOf P rig.protocol events)
      ⟨[], []⟩ rig := by
  constructor
  · rintro ⟨-, hob, -⟩
    exact unasked_of_obeys hob
  · intro h
    obtain ⟨ha, hob⟩ := runLoop_alike h
    refine ⟨ha, hob, along_of_forall ?_ _ _ _⟩
    exact fun buffers branch rig => controlTurn_obeys P T device buffers rig branch

/-! ## A protocol that asks -/

/-- A keepalive command without a reply. -/
def pingCommand : ProtocolCommand := ⟨[1], false, 0, 0, .primary, ⟨1, none, none, .required⟩⟩

/-- A protocol that counts its keepalive ticks and asks for a restart from the first one on. -/
def pingProtocol : Protocol Nat where
  keepalive _ := true
  framePumpInterval _ := none
  frameInterval _ := 16
  responseTimeout _ := 1000
  sessionRestart ticks := if 0 < ticks then some "lost" else none
  keepaliveCommands ticks := ([pingCommand], ticks + 1)
  pumpFrameInto _ ticks := ([], ticks)
  encodeBrightness _ ticks := (none, ticks)
  encodeFrameInto _ _ ticks := ((.unchanged, []), ticks)
  frameWriteFinished _ _ ticks := ticks
  shutdownSequence ticks := ([], ticks)
  parseResponse _ ticks := (.ok .ok, ticks)

/-- A transport on which everything succeeds. -/
def quietTransport : Transport Unit where
  sendWithType _ _ s := (.ok (), s)
  receiveLogical _ _ _ s := (.ok [], s)
  sendReceiveLogical _ _ _ _ s := (.ok [], s)

/-- Nothing was done yet. -/
def freshRig : Rig Nat Unit := ⟨0, (), [], [], []⟩

/-- One keepalive tick. -/
def keepaliveTick : Ready := ⟨none, true, none, false⟩

/-- The ping goes out. -/
lemma runCommands_ping (rig : Rig Nat Unit) :
    (runCommands pingProtocol quietTransport [pingCommand]).run rig =
      (.ok (), { rig with operations := .send [1] .primary :: rig.operations }) := by
  simp only [runCommands]
  rw [runCommand]
  rfl

/-- A keepalive turn of the single-lane actor writes the ping and goes on. -/
lemma runDeviceActor_ping : runDeviceActor pingProtocol quietTransport "usb" [keepaliveTick] freshRig =
      ⟨⟨1, (), [.send [1] .primary], [], []⟩, none⟩ := by
  have hc : pingProtocol.keepaliveCommands freshRig.protocol = ([pingCommand], 1) := rfl
  have ht : (deviceTurn pingProtocol quietTransport "usb" ⟨[], []⟩ .keepalive).run
      freshRig = (.ok (some ⟨[], []⟩), ⟨1, (), [.send [1] .primary], [], []⟩) := by
    simp only [deviceTurn]
    rw [run_callProtocol, hc, if_neg (by decide), run_bind, run_withContext, runCommands_ping]
    rfl
  change runLoop _ [.keepalive] _ _ = _
  rw [runLoop, ht]
  rfl

/-- **A restart asked at a keepalive tick is ignored** by the single-lane actor: it writes the
keepalive command and goes on, where the other ends the session. -/
theorem keepalive_restart_ignored :
    runDeviceActor pingProtocol quietTransport "usb" [keepaliveTick] freshRig =
      ⟨⟨1, (), [.send [1] .primary], [], []⟩, none⟩ ∧
    runDeviceControlActor pingProtocol quietTransport "usb" [keepaliveTick] freshRig =
      ⟨⟨1, (), [], [], []⟩, some (.error (restartFailure "usb" "lost"), [])⟩ ∧
    runDeviceActor pingProtocol quietTransport "usb" [keepaliveTick] freshRig ≠
      runDeviceControlActor pingProtocol quietTransport "usb" [keepaliveTick] freshRig := by
  have hd := runDeviceActor_ping
  have hc : runDeviceControlActor pingProtocol quietTransport "usb" [keepaliveTick]
      freshRig = ⟨⟨1, (), [], [], []⟩, some (.error (restartFailure "usb" "lost"), [])⟩ := rfl
  refine ⟨hd, hc, ?_⟩
  rw [hd, hc]
  exact nofun

end Hypercolor.Device.Usb
