import Hypercolor.Lib.Machine
import Mathlib.Data.Finset.Basic

/-!
# The config manager

The live config behind its pointer, and who may persist a capture config: an epoch is reserved, then
activated, and may write until somebody else changes the capture section.

Every operation holds the writer lock, so it is one step of `managing`. Whether a file operation
succeeds is an argument; `K` stands for the
capture section and `X` for the sections that the manager only copies.
-/

namespace Hypercolor.Config

open Lib

variable {K X : Type} [DecidableEq K]

/-! ## Configs -/

/-- `HypercolorConfig`: the sections as far as the manager tells them apart. -/
structure HypercolorConfig (K X : Type) where
  capture : K
  audioDevice : String
  rest : X

/-- `char::is_whitespace` -/
def isWhitespace (c : Char) : Bool :=
  let n := c.toNat
  (9 ≤ n && n ≤ 13) || n = 0x20 || n = 0x85 || n = 0xA0 || n = 0x1680 || (0x2000 ≤ n && n ≤ 0x200A) ||
    n = 0x2028 || n = 0x2029 || n = 0x202F || n = 0x205F || n = 0x3000

/-- `str::trim` -/
def trim (s : List Char) : List Char :=
  ((s.dropWhile isWhitespace).reverse.dropWhile isWhitespace).reverse

/-- `str::eq_ignore_ascii_case` -/
def eqIgnoreAsciiCase (s t : List Char) : Bool := s.map Char.toLower = t.map Char.toLower

/-- `canonical_audio_device_id` -/
def canonicalAudioDeviceId (device : String) : String :=
  let trimmed := trim device.toList
  if eqIgnoreAsciiCase trimmed "auto".toList || eqIgnoreAsciiCase trimmed "default".toList then
    "default"
  else if eqIgnoreAsciiCase trimmed "mic".toList || eqIgnoreAsciiCase trimmed "microphone".toList then
    "microphone"
  else if eqIgnoreAsciiCase trimmed "none".toList then "none"
  else String.ofList trimmed

/-- `normalize_config`: there are no default driver entries to insert. -/
def normalizeConfig (config : HypercolorConfig K X) : HypercolorConfig K X :=
  { config with audioDevice := canonicalAudioDeviceId config.audioDevice }

/-- `Arc`: a config behind a pointer. -/
structure Arc (C : Type) where
  pointer : Nat
  config : C

/-! ## The writer -/

abbrev CapturePersistenceEpoch : Type := Nat

/-- `CapturePersistenceSource` -/
structure CapturePersistenceSource where
  sourceId : String
  sourceGraphGeneration : UInt64
  sessionGeneration : UInt64
deriving DecidableEq

/-- `CapturePersistenceAuthority` -/
structure CapturePersistenceAuthority (K X : Type) where
  epoch : CapturePersistenceEpoch
  config : Arc (HypercolorConfig K X)
  source : Option CapturePersistenceSource

/-- `ConfigWriterState` -/
structure ConfigWriterState (K X : Type) where
  nextCapturePersistenceEpoch : Nat := 0
  stagedCapturePersistenceEpochs : Finset CapturePersistenceEpoch := ∅
  capturePersistenceAuthority : Option (CapturePersistenceAuthority K X) := none
  appliedCapture : Option K := none

/-- `ConfigManager`: the pointers below `nextPointer` were given out; `staged` are the candidates
that callers hold. -/
structure ConfigManager (K X : Type) where
  live : Arc (HypercolorConfig K X)
  writer : ConfigWriterState K X
  staged : List (Arc (HypercolorConfig K X))
  nextPointer : Nat

/-- How an operation ends: it takes effect, it is turned down (`None`, `false`), or it fails (`Err`). -/
inductive Outcome where
  | done | refused | failed

namespace ConfigManager

variable (m : ConfigManager K X)

/-- `Arc::new` -/
def alloc (config : HypercolorConfig K X) : ConfigManager K X × Arc (HypercolorConfig K X) :=
  ({ m with nextPointer := m.nextPointer + 1 }, ⟨m.nextPointer, config⟩)

/-- `publish_config` -/
def publishConfig (candidate : Arc (HypercolorConfig K X)) : ConfigManager K X :=
  let authority :=
    if m.live.config.capture = candidate.config.capture then
      m.writer.capturePersistenceAuthority.map fun authority => { authority with config := candidate }
    else none
  { m with
    live := candidate
    writer := { m.writer with
      stagedCapturePersistenceEpochs := ∅
      capturePersistenceAuthority := authority } }

/-- `update`: a new config is published. -/
def update (config : HypercolorConfig K X) : ConfigManager K X :=
  let (m, candidate) := m.alloc (normalizeConfig config)
  m.publishConfig candidate

/-- `modify` -/
def modify (mutate : HypercolorConfig K X → HypercolorConfig K X) : ConfigManager K X :=
  m.update (mutate m.live.config)

variable (expected : Nat) (mutate : HypercolorConfig K X → HypercolorConfig K X)

/-- `modify_if_current` -/
def modifyIfCurrent : ConfigManager K X × Outcome :=
  if m.live.pointer = expected then (m.modify mutate, .done) else (m, .refused)

/-- `modify_and_save_if_current_snapshot` -/
def modifyAndSaveIfCurrent (persists : Bool) : ConfigManager K X × Outcome :=
  if m.live.pointer = expected then
    if persists then (m.modify mutate, .done) else (m, .failed)
  else (m, .refused)

/-- `with_prepared_mutation`, `PreparedConfigMutation::publish`: the transaction of the caller
publishes once all of its stores are durable; it reports its own failures inside of its result. -/
def withPreparedMutation (serializes publishes : Bool) : ConfigManager K X × Outcome :=
  if m.live.pointer = expected then
    if serializes then (if publishes then m.modify mutate else m, .done) else (m, .failed)
  else (m, .refused)

/-- `reserve_capture_persistence` -/
def reserveCapturePersistence (expected : Nat) : ConfigManager K X × Outcome :=
  if m.live.pointer = expected then
    let epoch := m.writer.nextCapturePersistenceEpoch + 1
    ({ m with writer := { m.writer with
        nextCapturePersistenceEpoch := epoch
        stagedCapturePersistenceEpochs := insert epoch m.writer.stagedCapturePersistenceEpochs } },
      .done)
  else (m, .refused)

variable (expected : Nat) (epoch : CapturePersistenceEpoch) (source : Option CapturePersistenceSource)

/-- `activate_capture_persistence` -/
def activateCapturePersistence : ConfigManager K X × Outcome :=
  if m.live.pointer = expected ∧ epoch ∈ m.writer.stagedCapturePersistenceEpochs then
    ({ m with writer := { m.writer with
        stagedCapturePersistenceEpochs := m.writer.stagedCapturePersistenceEpochs.erase epoch
        capturePersistenceAuthority := some { epoch, config := m.live, source } } }, .done)
  else (m, .refused)

/-- `staged_capture_persistence_epochs.remove`: an epoch that is taken and not activated is gone. -/
def take (epoch : CapturePersistenceEpoch) : ConfigManager K X :=
  { m with writer := { m.writer with
      stagedCapturePersistenceEpochs := m.writer.stagedCapturePersistenceEpochs.erase epoch } }

/-- `save_capture_and_activate_if_current` -/
def saveCaptureAndActivateIfCurrent (capture : K) (persists : Bool) : ConfigManager K X × Outcome :=
  if m.live.pointer = expected ∧ epoch ∈ m.writer.stagedCapturePersistenceEpochs then
    if persists then
      let (m, candidate) := m.alloc (normalizeConfig { m.live.config with capture })
      ({ m with
        live := candidate
        writer := { m.writer with
          stagedCapturePersistenceEpochs := ∅
          capturePersistenceAuthority := some { epoch, config := candidate, source } } }, .done)
    else (m.take epoch, .failed)
  else (m, .refused)

/-- `stage_capture_config` -/
def stageCaptureConfig (expected : Nat) (capture : K) (writes : Bool) : ConfigManager K X × Outcome :=
  if m.live.pointer = expected then
    let (m', candidate) := m.alloc (normalizeConfig { m.live.config with capture })
    if writes then ({ m' with staged := m'.staged ++ [candidate] }, .done) else (m, .failed)
  else (m, .refused)

/-- The rest of `commit_staged_capture_if_current`, once nothing can fail. -/
def installStaged (persistence : Option (CapturePersistenceEpoch × Option CapturePersistenceSource))
    (candidate : Arc (HypercolorConfig K X)) : ConfigManager K X :=
  { m with
    live := candidate
    writer := { m.writer with
      capturePersistenceAuthority := persistence.map fun (epoch, source) =>
        { epoch, config := candidate, source }
      stagedCapturePersistenceEpochs := ∅
      appliedCapture := some candidate.config.capture } }

/-- `commit_staged_capture_if_current`: the candidate is consumed in every case. -/
def commitStagedCaptureIfCurrent (expected : Nat)
    (persistence : Option (CapturePersistenceEpoch × Option CapturePersistenceSource)) (index : Nat)
    (replaces : Bool) : ConfigManager K X × Outcome :=
  match m.staged[index]? with
  | none => (m, .refused)
  | some candidate =>
    let m := { m with staged := m.staged.eraseIdx index }
    if m.live.pointer = expected then
      match persistence with
      | none => if replaces then (m.installStaged none candidate, .done) else (m, .failed)
      | some (epoch, source) =>
        if epoch ∈ m.writer.stagedCapturePersistenceEpochs then
          if replaces then (m.installStaged (some (epoch, source)) candidate, .done)
          else (m.take epoch, .failed)
        else (m, .refused)
    else (m, .refused)

/-- The rest of `modify_capture_if_authorized` and `modify_capture_if_epoch_current`, once the
authority was checked. -/
def writeCapture (authority : CapturePersistenceAuthority K X) (source : Option CapturePersistenceSource)
    (mutate : K → K) : ConfigManager K X :=
  let config := { m.live.config with capture := mutate m.live.config.capture }
  let (m, candidate) := m.alloc (normalizeConfig config)
  { m with
    live := candidate
    writer := { m.writer with
      capturePersistenceAuthority := some { authority with config := candidate, source }
      appliedCapture := some candidate.config.capture } }

/-- `modify_capture_if_authorized` -/
def modifyCaptureIfAuthorized (epoch : CapturePersistenceEpoch) (source : CapturePersistenceSource)
    (mutate : K → K) (persists : Bool) : ConfigManager K X × Outcome :=
  match m.writer.capturePersistenceAuthority with
  | none => (m, .refused)
  | some authority =>
    if authority.epoch ≠ epoch ∨ authority.config.pointer ≠ m.live.pointer ∨
        authority.source.any (· ≠ source) then (m, .refused)
    else if persists then
      (m.writeCapture authority (some (authority.source.getD source)) mutate, .done)
    else (m, .failed)

/-- `modify_capture_if_epoch_current` -/
def modifyCaptureIfEpochCurrent (epoch : CapturePersistenceEpoch) (mutate : K → K)
    (persists : Bool) : ConfigManager K X × Outcome :=
  match m.writer.capturePersistenceAuthority with
  | none => (m, .refused)
  | some authority =>
    if authority.epoch ≠ epoch ∨ authority.config.pointer ≠ m.live.pointer then (m, .refused)
    else if persists then (m.writeCapture authority authority.source mutate, .done)
    else (m, .failed)

/-- `revoke_capture_persistence` -/
def revokeCapturePersistence (epoch : CapturePersistenceEpoch) : ConfigManager K X :=
  let m := m.take epoch
  { m with writer := { m.writer with
      capturePersistenceAuthority :=
        m.writer.capturePersistenceAuthority.filter fun authority => authority.epoch ≠ epoch } }

/-- `mark_capture_runtime_applied`, `invalidate_capture_runtime_applied` -/
def setAppliedCapture (capture : Option K) : ConfigManager K X :=
  { m with writer := { m.writer with appliedCapture := capture } }

/-- `reload`: what the file holds, if it can be read and parsed, is an argument. -/
def reload (loaded : Option (HypercolorConfig K X)) : ConfigManager K X × Outcome :=
  match loaded with
  | none => (m, .failed)
  | some config => (m.update config, .done)

/-- `save` -/
def save (persists : Bool) : ConfigManager K X × Outcome := (m, if persists then .done else .failed)

end ConfigManager

/-! ## Operations -/

/-- The operations of any callers. -/
inductive ConfigOp (K X : Type) where
  | update (config : HypercolorConfig K X)
  | modify (mutate : HypercolorConfig K X → HypercolorConfig K X)
  | modifyIfCurrent (expected : Nat) (mutate : HypercolorConfig K X → HypercolorConfig K X)
  | modifyAndSaveIfCurrent (expected : Nat) (mutate : HypercolorConfig K X → HypercolorConfig K X)
      (persists : Bool)
  | withPreparedMutation (expected : Nat) (mutate : HypercolorConfig K X → HypercolorConfig K X)
      (serializes publishes : Bool)
  | reserve (expected : Nat)
  | activate (expected : Nat) (epoch : CapturePersistenceEpoch)
      (source : Option CapturePersistenceSource)
  | saveCaptureAndActivate (expected : Nat) (epoch : CapturePersistenceEpoch)
      (source : Option CapturePersistenceSource) (capture : K) (persists : Bool)
  | stage (expected : Nat) (capture : K) (writes : Bool)
  | commitStaged (expected : Nat)
      (persistence : Option (CapturePersistenceEpoch × Option CapturePersistenceSource)) (index : Nat)
      (replaces : Bool)
  | modifyCaptureIfAuthorized (epoch : CapturePersistenceEpoch) (source : CapturePersistenceSource)
      (mutate : K → K) (persists : Bool)
  | modifyCaptureIfEpochCurrent (epoch : CapturePersistenceEpoch) (mutate : K → K) (persists : Bool)
  | revoke (epoch : CapturePersistenceEpoch)
  | setAppliedCapture (capture : Option K)
  | reload (loaded : Option (HypercolorConfig K X))
  | save (persists : Bool)

/-- What an operation does, and how it ends. -/
def ConfigManager.perform (m : ConfigManager K X) : ConfigOp K X → ConfigManager K X × Outcome
  | .update config => (m.update config, .done)
  | .modify mutate => (m.modify mutate, .done)
  | .modifyIfCurrent expected mutate => m.modifyIfCurrent expected mutate
  | .modifyAndSaveIfCurrent expected mutate persists =>
    m.modifyAndSaveIfCurrent expected mutate persists
  | .withPreparedMutation expected mutate serializes publishes =>
    m.withPreparedMutation expected mutate serializes publishes
  | .reserve expected => m.reserveCapturePersistence expected
  | .activate expected epoch source => m.activateCapturePersistence expected epoch source
  | .saveCaptureAndActivate expected epoch source capture persists =>
    m.saveCaptureAndActivateIfCurrent expected epoch source capture persists
  | .stage expected capture writes => m.stageCaptureConfig expected capture writes
  | .commitStaged expected persistence index replaces =>
    m.commitStagedCaptureIfCurrent expected persistence index replaces
  | .modifyCaptureIfAuthorized epoch source mutate persists =>
    m.modifyCaptureIfAuthorized epoch source mutate persists
  | .modifyCaptureIfEpochCurrent epoch mutate persists =>
    m.modifyCaptureIfEpochCurrent epoch mutate persists
  | .revoke epoch => (m.revokeCapturePersistence epoch, .done)
  | .setAppliedCapture capture => (m.setAppliedCapture capture, .done)
  | .reload loaded => m.reload loaded
  | .save persists => m.save persists

/-- `new` -/
def ConfigManager.new (config : HypercolorConfig K X) : ConfigManager K X :=
  { live := ⟨0, normalizeConfig config⟩, writer := {}, staged := [], nextPointer := 1 }

end Hypercolor.Config
