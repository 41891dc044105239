import Hypercolor.Registry.Rebinding

/-!
# Discovery scans

A scan runs every scanner, applies what each learned as it finishes, and reports which devices are
new, which reappeared and which vanished. The order in which the scanners finish is the order of the
list `fullScan` is given. Durations, logging and cancellation are not modelled; a cancelled scan
reports nothing.

The `HashSet`s of ids are lists kept free of duplicates; the ones that are reported are sorted.
-/

namespace Hypercolor.Registry

open Hypercolor.Lib

variable {X : Type}

/-! ## What scanners say -/

/-- `DiscoveryObservation`. `fresh` is the id drawn should the device need a new one. -/
inductive DiscoveryObservation (X : Type) where
  | device (discovered : DiscoveredDevice X) (fresh : DeviceId)
  | present (fingerprint : DeviceFingerprint)

/-- `CoverageGap` -/
inductive CoverageGap where
  | sendFailed (target : String)
  | receiveFailed (reason : String)
  | probeFailed (candidate reason : String)
  | deviceUnverified (fingerprint : DeviceFingerprint) (reason : String)
  | probesCancelled (unfinished : Nat)
  | admissionFull (refused : Nat)
  | sourceFailed (sourceName reason : String)

/-- `device` -/
def CoverageGap.device : CoverageGap → Option DeviceFingerprint
  | deviceUnverified fingerprint _ => some fingerprint
  | _ => none

/-- `DiscoveryBatch`, with the gaps its coverage names -/
structure DiscoveryBatch (X : Type) where
  observations : List (DiscoveryObservation X)
  gaps : List CoverageGap

/-- How a scanner task ended. -/
inductive TaskResult (X : Type) where
  | finished (index : Nat) (name : String) (batch : DiscoveryBatch X)
  | failed (index : Nat) (name error : String)
  | joinFailed (error : String)

/-- `ScannerScanReport` -/
structure ScannerScanReport where
  scanner : String
  discovered : Nat
  gaps : List CoverageGap
  error : Option String

/-- `covers_target` -/
def ScannerScanReport.coversTarget (report : ScannerScanReport) : Bool :=
  report.error.isNone && report.gaps.all fun gap => gap.device.isSome

/-- `DiscoveryProgress` -/
structure DiscoveryProgress where
  newDevices : List DeviceId
  reappearedDevices : List DeviceId

/-- `DiscoveryReport` -/
structure DiscoveryReport where
  newDevices : List DeviceId
  reappearedDevices : List DeviceId
  vanishedDevices : List DeviceId
  heldDevices : List DeviceId
  scannerReports : List ScannerScanReport
  totalKnown : Nat

/-! ## Aggregation -/

/-- The capabilities part of `merge_discovered` -/
def mergeCapabilities (existing incoming : DeviceCapabilities X) : DeviceCapabilities X :=
  if existing.ledCount = 0 ∧ 0 < incoming.ledCount then incoming
  else
    { existing with
      ledCount := max existing.ledCount incoming.ledCount
      maxFps := max existing.maxFps incoming.maxFps
      supportsDirect := existing.supportsDirect || incoming.supportsDirect
      supportsBrightness := existing.supportsBrightness || incoming.supportsBrightness }

/-- `merge_discovered` -/
def mergeDiscovered (existing incoming : DiscoveredDevice X) : DiscoveredDevice X :=
  { existing with
    connectBehavior := existing.connectBehavior.merge incoming.connectBehavior
    claim := existing.claim.or incoming.claim
    metadata := existing.metadata ∪ incoming.metadata
    info := { existing.info with
      name := if existing.info.name = "" then incoming.info.name else existing.info.name
      vendor := if existing.info.vendor = "" then incoming.info.vendor else existing.info.vendor
      firmwareVersion := existing.info.firmwareVersion.or incoming.info.firmwareVersion
      segments :=
        if existing.info.segments.isEmpty then incoming.info.segments else existing.info.segments
      capabilities := mergeCapabilities existing.info.capabilities incoming.info.capabilities } }

/-- `same_key_collision` in `apply_device` -/
def sameKeyCollision (existing incoming : DiscoveredDevice X) :
    Option (PortableIdentityClaim × PortableIdentityClaim) :=
  existing.claim.bind fun held =>
    incoming.claim.bind fun claim =>
      if held.key = claim.key ∧ held.evidence.provesDistinctFrom claim.evidence then
        some (held, claim)
      else none

/-! ## One scan -/

/-- The variables of the scan loop. -/
structure ScanState (X : Type) where
  registry : DeviceRegistry X
  aggregated : Table DeviceFingerprint (DiscoveredDevice X)
  scannerReports : List (Option Nat × ScannerScanReport)
  newDevices : List DeviceId
  reappearedDevices : List DeviceId
  seenIds : List DeviceId
  heldIds : List DeviceId
  progress : List DiscoveryProgress

/-- `known_ids_before` -/
def knownIds (r : DeviceRegistry X) : List DeviceId := r.inner.fingerprints.values.dedup

namespace ScanState

variable (s : ScanState X)

/-- What a device report is merged with. -/
def merged (discovered : DiscoveredDevice X) : DiscoveredDevice X :=
  match s.aggregated.lookup discovered.fingerprint with
  | some existing => mergeDiscovered existing discovered
  | none => discovered

variable [BEq X] (s : ScanState X)

/-- `apply_device` -/
def applyDevice (discovered : DiscoveredDevice X) (fresh : DeviceId) : ScanState X × DeviceId :=
  let collision :=
    (s.aggregated.lookup discovered.fingerprint).bind fun existing =>
      sameKeyCollision existing discovered
  let merged := s.merged discovered
  let (registry, id) := s.registry.addDiscovered merged fresh
  let reported :=
    match collision with
    | some (held, incoming) =>
      registry.reportPortableKeyCollision id discovered.fingerprint held incoming
    | none => registry
  ({ s with registry := reported, aggregated := s.aggregated.insert discovered.fingerprint merged }, id)

variable (known : List DeviceId)

/-- The use of `seen_ids` in the scan loop -/
def sight (id : DeviceId) : ScanState X :=
  if id ∈ s.seenIds then s
  else if id ∈ known then
    { s with seenIds := id :: s.seenIds, reappearedDevices := s.reappearedDevices ++ [id] }
  else
    { s with seenIds := id :: s.seenIds, newDevices := s.newDevices ++ [id] }

/-- The body of the loop over the observations of a batch -/
def observe : DiscoveryObservation X → ScanState X
  | .device discovered fresh =>
    let (applied, id) := s.applyDevice discovered fresh
    applied.sight known id
  | .present fingerprint =>
    match s.registry.inner.fingerprints.lookup fingerprint with
    | some id => s.sight known id
    | none => s

/-- The loop over the gaps of a batch -/
def hold (gaps : List CoverageGap) : ScanState X :=
  { s with
    heldIds := (gaps.filterMap CoverageGap.device).foldl (fun held fingerprint =>
      match s.registry.inner.fingerprints.lookup fingerprint with
      | some id => List.insert id held
      | none => held) s.heldIds }

/-- `on_progress`: the progress of one batch: what it added to the two lists. -/
def notify (before after : ScanState X) : ScanState X :=
  let progress : DiscoveryProgress :=
    { newDevices := after.newDevices.drop before.newDevices.length
      reappearedDevices := after.reappearedDevices.drop before.reappearedDevices.length }
  if progress.newDevices.isEmpty && progress.reappearedDevices.isEmpty then after
  else { after with progress := after.progress ++ [progress] }

/-- One round of the scan loop, before the observations -/
def begin (index : Nat) (name : String) (batch : DiscoveryBatch X) : ScanState X :=
  let report : ScannerScanReport := ⟨name, batch.observations.length, batch.gaps, none⟩
  { s.hold batch.gaps with scannerReports := s.scannerReports ++ [(some index, report)] }

/-- The loop over the observations of a batch -/
def observeAll (known : List DeviceId) : ScanState X → List (DiscoveryObservation X) → ScanState X
  | s, [] => s
  | s, observation :: rest => observeAll known (s.observe known observation) rest

/-- One round of the scan loop -/
def finish : TaskResult X → ScanState X
  | .finished index name batch =>
    let started := s.begin index name batch
    started.notify (observeAll known started batch.observations)
  | .failed index name error =>
    { s with scannerReports := s.scannerReports ++ [(some index, ⟨name, 0, [], some error⟩)] }
  | .joinFailed error =>
    { s with
      scannerReports := s.scannerReports ++
        [(none, ⟨"unknown", 0, [], some ("scanner task join failed: " ++ error)⟩)] }

end ScanState

/-- The state in which a scan starts. -/
def ScanState.start (r : DeviceRegistry X) : ScanState X :=
  ⟨r, ∅, [], [], [], [], [], []⟩

/-- The state after the scanners of a list finished. -/
def ScanState.finishAll [BEq X] (known : List DeviceId) : ScanState X → List (TaskResult X) → ScanState X
  | s, [] => s
  | s, task :: rest => finishAll known (s.finish known task) rest

/-- `sort_by_key(DeviceId::as_uuid)` -/
def sortIds (ids : List DeviceId) : List DeviceId :=
  ids.insertionSort fun a b => a.uuid.toNat ≤ b.uuid.toNat

/-- A task that failed to join sorts last, as `usize::MAX` does. -/
def indexLe : Option Nat → Option Nat → Bool
  | _, none => true
  | none, some _ => false
  | some i, some j => i ≤ j

/-- `full_scan_with_progress_until`, for the scanners in the order in which they finish -/
def fullScan [BEq X] (r : DeviceRegistry X) (tasks : List (TaskResult X)) :
    DeviceRegistry X × DiscoveryReport :=
  let s := ScanState.finishAll (knownIds r) (.start r) tasks
  let covered := s.scannerReports.all fun entry => entry.2.coversTarget
  (s.registry,
    { newDevices := s.newDevices
      reappearedDevices := s.reappearedDevices
      vanishedDevices :=
        if covered then
          sortIds ((knownIds r).filter fun id => id ∉ s.seenIds ∧ id ∉ s.heldIds)
        else []
      heldDevices := sortIds s.heldIds
      scannerReports :=
        (s.scannerReports.insertionSort fun a b => indexLe a.1 b.1).map Prod.snd
      totalKnown := s.registry.inner.devices.keys.length })

/-! ## History -/

/-- The device an event discovers, and the fingerprint it does so under. -/
def Event.discovery [BEq X] (r : DeviceRegistry X) : Event X → Option (DeviceId × DeviceFingerprint)
  | add info fresh => some ((r.add info fresh).2, info.id.fallbackFingerprint)
  | addWithFingerprintAndMetadata info fingerprint metadata fresh =>
    some ((r.addWithFingerprintAndMetadata info fingerprint metadata fresh).2, fingerprint)
  | addDiscovered discovered fresh =>
    some ((r.addDiscovered discovered fresh).2, discovered.fingerprint)
  | _ => none

/-- The fingerprint each device was last discovered under, over a history of the registry. -/
def lastDiscovered [BEq X] (r : DeviceRegistry X) (last : DeviceId → Option DeviceFingerprint) :
    List (Event X) → DeviceId → Option DeviceFingerprint
  | [] => last
  | e :: es =>
    lastDiscovered (e.apply r) (match e.discovery r with
        | some (id, fingerprint) => fun id' => if id' = id then some fingerprint else last id'
        | none => last) es

end Hypercolor.Registry
