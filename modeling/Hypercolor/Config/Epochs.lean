import Hypercolor.Config.Manager
import Hypercolor.Lib.Since

/-!
# Who may persist a capture config

The machine `managing` runs the manager under any operations and keeps a history beside it: what was
reserved, activated, revoked, published and written, and when somebody else changed the capture section.

* **`capture_fenced`**: a capture write takes effect only for the epoch activated last, not revoked
  since, with the capture section untouched by others, and for the pinned source; an epoch is activated
  only while its reservation stands, at most once; the authority's config is the live one; what fails
  leaves the config, the authority and the applied capture as they are.
-/

set_option linter.unusedSectionVars false

namespace Hypercolor.Config

open Lib List Nat ConfigManager

variable {K X : Type} [DecidableEq K]

/-! ## The history -/

/-- What an operation did. -/
inductive CaptureEvent where
  | reserved (epoch : CapturePersistenceEpoch)
  | activated (epoch : CapturePersistenceEpoch) (source : Option CapturePersistenceSource)
  | revoked (epoch : CapturePersistenceEpoch)
  /-- The capture section was changed, but not by a capture write. -/
  | captureChanged
  /-- A config was published by anything but a capture write. -/
  | published
  | written (source : Option CapturePersistenceSource)

/-- The manager, with its history. -/
structure Traced (K X : Type) where
  manager : ConfigManager K X
  history : List CaptureEvent

/-- What a config installed in place of another one adds. -/
def replaced (before after : ConfigManager K X) (activated : List CaptureEvent) : List CaptureEvent :=
  (if before.live.config.capture = after.live.config.capture then [] else [.captureChanged]) ++
    activated ++ [.published]

/-- What an operation that took effect adds to the history. -/
def ConfigOp.events (before after : ConfigManager K X) : ConfigOp K X → List CaptureEvent
  | .update _ | .modify _ | .modifyIfCurrent .. | .modifyAndSaveIfCurrent .. | .reload _ =>
    replaced before after []
  | .withPreparedMutation _ _ _ publishes => if publishes then replaced before after [] else []
  | .reserve _ => [.reserved after.writer.nextCapturePersistenceEpoch]
  | .activate _ epoch source => [.activated epoch source]
  | .saveCaptureAndActivate _ epoch source _ _ => replaced before after [.activated epoch source]
  | .commitStaged _ persistence _ _ =>
    replaced before after (persistence.toList.map fun (epoch, source) => .activated epoch source)
  | .modifyCaptureIfAuthorized _ source _ _ => [.written (some source)]
  | .modifyCaptureIfEpochCurrent .. => [.written none]
  | .revoke epoch => [.revoked epoch]
  | .stage .. | .setAppliedCapture _ | .save _ => []

/-- One operation. -/
def Traced.perform (s : Traced K X) (op : ConfigOp K X) : Traced K X :=
  match s.manager.perform op with
  | (after, .done) => ⟨after, s.history ++ op.events s.manager after⟩
  | (after, _) => ⟨after, s.history⟩

/-- Any callers of a new manager, in any order. -/
def managing : Machine (Traced K X) (ConfigOp K X) where
  init s := ∃ config, s = ⟨.new config, []⟩
  step s op t := t = s.perform op

/-! ## What the history says -/

namespace CaptureEvent

variable (epoch : CapturePersistenceEpoch)

def Activates : CaptureEvent → Prop
  | activated epoch' _ => epoch' = epoch
  | _ => False

/-- What ends the authority of an epoch. -/
def EndsAuthority : CaptureEvent → Prop
  | activated .. | captureChanged => True
  | revoked epoch' => epoch' = epoch
  | _ => False

def Reserves : CaptureEvent → Prop
  | reserved epoch' => epoch' = epoch
  | _ => False

/-- What ends the reservation of an epoch. -/
def EndsReservation : CaptureEvent → Prop
  | activated epoch' _ | revoked epoch' => epoch' = epoch
  | published => True
  | _ => False

/-- The source that is pinned since the last activation: the one it came with, or else that of the
first authorized write. -/
def pin (pinned : Option CapturePersistenceSource) : CaptureEvent → Option CapturePersistenceSource
  | activated _ source => source
  | written source => pinned <|> source
  | _ => pinned

end CaptureEvent

/-- The pinned source at the end of a history. -/
def pinned (history : List CaptureEvent) : Option CapturePersistenceSource :=
  history.foldl CaptureEvent.pin none

/-- How often an epoch was activated. -/
def activations (epoch : CapturePersistenceEpoch) (history : List CaptureEvent) : Nat :=
  history.countP fun
    | .activated epoch' _ => epoch' = epoch
    | _ => false

open CaptureEvent

/-! ## The invariant -/

/-- The writer's state, read off the history. -/
structure Fenced (s : Traced K X) : Prop where
  authority : ∀ authority ∈ s.manager.writer.capturePersistenceAuthority,
    authority.config = s.manager.live ∧ authority.source = pinned s.history ∧
      Since (Activates authority.epoch) (EndsAuthority authority.epoch) s.history
  staged : ∀ epoch ∈ s.manager.writer.stagedCapturePersistenceEpochs,
    Since (Reserves epoch) (EndsReservation epoch) s.history ∧ activations epoch s.history = 0 ∧
      epoch ≤ s.manager.writer.nextCapturePersistenceEpoch
  once : ∀ epoch, activations epoch s.history ≤ 1
  fresh : ∀ epoch, s.manager.writer.nextCapturePersistenceEpoch < epoch →
    activations epoch s.history = 0

variable {m m' : ConfigManager K X} {history : List CaptureEvent}

/-- Activations add up over a history. -/
lemma activations_append (ep : CapturePersistenceEpoch) (history lt : List CaptureEvent) :
    activations ep (history ++ lt) = activations ep history + activations ep lt :=
  countP_append

lemma pinned_append (history lt : List CaptureEvent) :
    pinned (history ++ lt) = lt.foldl CaptureEvent.pin (pinned history) := foldl_append

lemma activations_replaced (ep : CapturePersistenceEpoch) (activated : List CaptureEvent) :
    activations ep (replaced m m' activated) = activations ep activated := by
  rw [replaced, activations_append, activations_append]
  split <;> exact Nat.zero_add _

/-- Nothing is activated yet. -/
lemma fenced_new (cfg : HypercolorConfig K X) : Fenced ⟨.new cfg, []⟩ where
  authority := nofun
  staged := nofun
  once := fun _ => zero_le _
  fresh := fun _ _ => rfl

/-- What leaves the live config and the authority alone, and stages nothing. -/
lemma Fenced.of_subset (h : Fenced ⟨m, history⟩) (hl : m'.live = m.live)
    (ha : m'.writer.capturePersistenceAuthority = m.writer.capturePersistenceAuthority)
    (hs : m'.writer.stagedCapturePersistenceEpochs ⊆ m.writer.stagedCapturePersistenceEpochs)
    (hn : m'.writer.nextCapturePersistenceEpoch = m.writer.nextCapturePersistenceEpoch) :
    Fenced ⟨m', history⟩ where
  authority := fun au hm => by
    obtain ⟨hc, hr⟩ := h.authority au (ha ▸ hm)
    exact ⟨hc.trans hl.symm, hr⟩
  staged := fun ep hm => by
    rw [hn]
    exact h.staged ep (hs hm)
  once := h.once
  fresh := fun ep hlt => h.fresh ep (hn ▸ hlt)

/-- Another config is published: every reservation is gone, and the authority with the capture section
it was given for. -/
lemma Fenced.update (h : Fenced ⟨m, history⟩) (cfg : HypercolorConfig K X) :
    Fenced ⟨m.update cfg, history ++ replaced m (m.update cfg) []⟩ where
  authority := fun au hm => by
    change au ∈ (if m.live.config.capture = (normalizeConfig cfg).capture then _ else none)
      at hm
    split at hm
    · rename_i hc
      obtain ⟨au, hold, rfl⟩ := Option.mem_map.mp hm
      obtain ⟨-, hs, hsi⟩ := h.authority au hold
      have hr : replaced m (m.update cfg) [] = [.published] := by
        rw [replaced, if_pos (by exact hc)]
        rfl
      rw [hr]
      refine ⟨rfl, ?_, hsi.push id⟩
      rw [pinned_append]
      exact hs
    · cases hm
  staged := fun ep hm => absurd hm (Finset.notMem_empty _)
  once := fun ep => by
    rw [activations_append, activations_replaced]
    exact h.once ep
  fresh := fun ep hl => by
    rw [activations_append, activations_replaced]
    exact h.fresh ep hl

/-- A reserved epoch is new. -/
lemma Fenced.reserve (h : Fenced ⟨m, history⟩) (ep : CapturePersistenceEpoch)
    (he : ep = m.writer.nextCapturePersistenceEpoch + 1) :
    Fenced ⟨{ m with writer := { m.writer with
        nextCapturePersistenceEpoch := ep
        stagedCapturePersistenceEpochs := insert ep m.writer.stagedCapturePersistenceEpochs } },
      history ++ [.reserved ep]⟩ where
  authority := fun au hm => by
    obtain ⟨hc, hsr, hs⟩ := h.authority au hm
    refine ⟨hc, ?_, hs.push id⟩
    rw [pinned_append]
    exact hsr
  staged := fun ep' hm => by
    rw [activations_append]
    rcases Finset.mem_insert.mp hm with rfl | hm
    · exact ⟨since_append rfl nofun, h.fresh _ (by rw [he]; exact lt_succ_self _), le_refl _⟩
    · obtain ⟨hs, hn, hl⟩ := h.staged ep' hm
      exact ⟨hs.push id, hn, le_trans hl (he ▸ le_succ _)⟩
  once := fun ep' => by
    rw [activations_append]
    exact h.once ep'
  fresh := fun ep' hlt => by
    rw [activations_append]
    exact h.fresh ep' (lt_trans (he ▸ lt_succ_self _) hlt)

lemma activations_activated (ep ep' : CapturePersistenceEpoch) (src : Option CapturePersistenceSource) :
    activations ep [.activated ep' src] = if ep' = ep then 1 else 0 := by
  by_cases he : ep' = ep <;> simp [activations, he]

variable {ep : CapturePersistenceEpoch}

/-- A staged epoch was not activated before, and it was given out. -/
lemma Fenced.activations_le (h : Fenced ⟨m, history⟩) (hs : ep ∈ m.writer.stagedCapturePersistenceEpochs)
    (src : Option CapturePersistenceSource) (ep' : CapturePersistenceEpoch) :
    activations ep' history + activations ep' [.activated ep src] ≤ 1 ∧
    (m.writer.nextCapturePersistenceEpoch < ep' →
      activations ep' history + activations ep' [.activated ep src] = 0) := by
  obtain ⟨-, hn, hl⟩ := h.staged ep hs
  rw [activations_activated]
  by_cases he : ep = ep'
  · subst he
    rw [if_pos rfl]
    dsimp only at hn hl
    exact ⟨by omega, fun hlt => absurd hl (not_le.mpr hlt)⟩
  · rw [if_neg he]
    exact ⟨h.once ep', h.fresh ep'⟩

/-- A staged epoch is activated once. -/
lemma Fenced.activate (h : Fenced ⟨m, history⟩) (hst : ep ∈ m.writer.stagedCapturePersistenceEpochs)
    (src : Option CapturePersistenceSource) :
    Fenced ⟨{ m with writer := { m.writer with
        stagedCapturePersistenceEpochs := m.writer.stagedCapturePersistenceEpochs.erase ep
        capturePersistenceAuthority := some { epoch := ep, config := m.live, source := src } } },
      history ++ [.activated ep src]⟩ where
  authority := by
    rintro _ ⟨⟩
    refine ⟨rfl, ?_, since_append rfl nofun⟩
    rw [pinned_append]
    rfl
  staged := fun ep' hm => by
    obtain ⟨hne, hm⟩ := Finset.mem_erase.mp hm
    obtain ⟨hs, hn, hl⟩ := h.staged ep' hm
    refine ⟨hs.push hne.symm, ?_, hl⟩
    rw [activations_append, hn, activations_activated, if_neg hne.symm]
  once := fun ep' => by
    rw [activations_append]
    exact (h.activations_le hst src ep').1
  fresh := fun ep' hlt => by
    rw [activations_append]
    exact (h.activations_le hst src ep').2 hlt

/-- A config comes into force together with an epoch, or with none. -/
lemma Fenced.install (h : Fenced ⟨m, history⟩)
    (pers : Option (CapturePersistenceEpoch × Option CapturePersistenceSource))
    (hs : ∀ p ∈ pers, p.1 ∈ m.writer.stagedCapturePersistenceEpochs)
    (ha : m'.writer.capturePersistenceAuthority = pers.map fun (ep, src) =>
      { epoch := ep, config := m'.live, source := src })
          (hn : m'.writer.stagedCapturePersistenceEpochs = ∅)
    (hne : m'.writer.nextCapturePersistenceEpoch = m.writer.nextCapturePersistenceEpoch) :
    Fenced ⟨m', history ++ replaced m m' (pers.toList.map fun (ep, src) => .activated ep src)⟩ := by
  have hc : ∀ ep', activations ep' history + activations ep'
        (pers.toList.map fun (ep, src) => activated ep src) ≤ 1 ∧
      (m.writer.nextCapturePersistenceEpoch < ep' → activations ep' history + activations ep'
        (pers.toList.map fun (ep, src) => activated ep src) = 0) := by
    intro ep'
    rcases pers with _ | ⟨ep, src⟩
    · exact ⟨h.once ep', h.fresh ep'⟩
    · exact h.activations_le (hs _ rfl) src ep'
  refine ⟨?_, ?_, ?_, ?_⟩
  · intro auth hm
    rcases pers with _ | ⟨ep, src⟩
    · rw [ha] at hm
      cases hm
    · rw [ha] at hm
      cases hm
      refine ⟨rfl, ?_, ?_⟩
      · rw [replaced, pinned_append]
        split <;> rfl
      · rw [replaced, ← append_assoc, ← append_assoc]
        refine Since.push ?_ id
        exact since_append rfl nofun
  · intro ep hm
    rw [hn] at hm
    exact absurd hm (Finset.notMem_empty _)
  · intro ep
    rw [activations_append, activations_replaced]
    exact (hc ep).1
  · intro ep hl
    rw [activations_append, activations_replaced]
    exact (hc ep).2 (hne ▸ hl)

variable {src : Option CapturePersistenceSource} {e : CaptureEvent}

/-- One more event that activates nothing and ends no reservation that is left. -/
lemma Fenced.push (h : Fenced ⟨m, history⟩) (hq : ∀ ep, activations ep [e] = 0)
    (ha : ∀ au ∈ m'.writer.capturePersistenceAuthority, au.config = m'.live ∧
      au.source = e.pin (pinned history) ∧
        Since (Activates au.epoch) (EndsAuthority au.epoch) (history ++ [e]))
    (hs : ∀ ep ∈ m'.writer.stagedCapturePersistenceEpochs,
      ep ∈ m.writer.stagedCapturePersistenceEpochs ∧ ¬ EndsReservation ep e)
    (hn : m'.writer.nextCapturePersistenceEpoch = m.writer.nextCapturePersistenceEpoch) :
    Fenced ⟨m', history ++ [e]⟩ := by
  have hc (ep : CapturePersistenceEpoch) : activations ep (history ++ [e]) = activations ep history := by
    rw [activations_append, hq, Nat.add_zero]
  refine ⟨fun au hm => ?_, fun ep hm => ?_, fun ep => ?_, fun ep hl => ?_⟩
  · rw [pinned_append]
    exact ha au hm
  · obtain ⟨hold, he⟩ := hs ep hm
    obtain ⟨hs, h0, hl⟩ := h.staged ep hold
    exact ⟨hs.push he, (hc ep).trans h0, hl.trans hn.ge⟩
  · exact (hc ep).trans_le (h.once ep)
  · exact (hc ep).trans (h.fresh ep (hn ▸ hl))

/-- A write under the current epoch. -/
lemma Fenced.write (h : Fenced ⟨m, history⟩) {au : CapturePersistenceAuthority K X}
    (ha : m.writer.capturePersistenceAuthority = some au) {wr : Option CapturePersistenceSource}
    (hsr : src = (au.source <|> wr)) (mutate : K → K) :
    Fenced ⟨m.writeCapture au src mutate, history ++ [.written wr]⟩ := by
  refine h.push (fun _ => rfl) ?_ (fun _ hm => ⟨hm, id⟩) rfl
  rintro _ ⟨⟩
  obtain ⟨-, hp, hs⟩ := h.authority au ha
  exact ⟨rfl, hp ▸ hsr, hs.push id⟩

/-- A revoked epoch is gone for good. -/
lemma Fenced.revoke (h : Fenced ⟨m, history⟩) (ep : CapturePersistenceEpoch) :
    Fenced ⟨m.revokeCapturePersistence ep, history ++ [.revoked ep]⟩ := by
  refine h.push (fun _ => rfl) (fun au hm => ?_) (fun ep' hm => ?_) rfl
  · obtain ⟨hold, hne⟩ := Option.mem_filter_iff.mp hm
    obtain ⟨hc, hsr, hs⟩ := h.authority au hold
    exact ⟨hc, hsr, hs.push (Ne.symm (of_decide_eq_true hne))⟩
  · obtain ⟨hne, hold⟩ := Finset.mem_erase.mp hm
    exact ⟨hold, hne.symm⟩

/-! ## Every operation -/

/-- The state after an operation, given how it ends. -/
def after (history : List CaptureEvent) (events : ConfigManager K X → List CaptureEvent) :
    ConfigManager K X × Outcome → Traced K X
  | (m', .done) => ⟨m', history ++ events m'⟩
  | (m', _) => ⟨m', history⟩

lemma Traced.perform_eq (op : ConfigOp K X) :
    (⟨m, history⟩ : Traced K X).perform op = after history (op.events m) (m.perform op) := by
  rw [Traced.perform]
  rcases m.perform op with ⟨m', outcome⟩
  cases outcome <;> rfl

section

variable (h : Fenced ⟨m, history⟩)
include h

namespace Fenced

lemma self : Fenced ⟨m, history ++ []⟩ := (append_nil history).symm ▸ h

lemma take (ep : CapturePersistenceEpoch) : Fenced ⟨m.take ep, history⟩ :=
  h.of_subset rfl rfl (Finset.erase_subset _ _) rfl

lemma commitStaged (exp : Nat) (pers : Option (CapturePersistenceEpoch × Option CapturePersistenceSource))
    (i : Nat) (replaces : Bool) :
    Fenced (after history (ConfigOp.events m · (.commitStaged exp pers i replaces))
      (m.commitStagedCaptureIfCurrent exp pers i replaces)) := by
  unfold commitStagedCaptureIfCurrent
  split
  · exact h
  · have h' : Fenced ⟨{ m with staged := m.staged.eraseIdx i }, history⟩ :=
      h.of_subset rfl rfl subset_rfl rfl
    dsimp only
    split
    · rcases pers with _ | ⟨ep, src⟩
      · cases replaces with
        | true =>
          refine h'.install none ?_ ?_ ?_ ?_
          · exact nofun
          all_goals rfl
        | false => exact h'
      · dsimp only
        split
        · rename_i hs
          cases replaces with
          | true =>
            refine h'.install (some (ep, src)) ?_ ?_ ?_ ?_
            · rintro _ ⟨⟩
              exact hs
            all_goals rfl
          | false => exact h'.take ep
        · exact h'
    · exact h'

/-- Every operation keeps the fence. -/
lemma perform (op : ConfigOp K X) : Fenced ((⟨m, history⟩ : Traced K X).perform op) := by
  rw [Traced.perform_eq]
  cases op with
  | update cfg => exact h.update cfg
  | modify mutate => exact h.update _
  | modifyIfCurrent exp mutate =>
    dsimp only [ConfigManager.perform, ConfigManager.modifyIfCurrent]
    split
    · exact h.update _
    · exact h
  | modifyAndSaveIfCurrent exp mutate persists =>
    dsimp only [ConfigManager.perform, ConfigManager.modifyAndSaveIfCurrent]
    split
    · cases persists with
      | true => exact h.update _
      | false => exact h
    · exact h
  | withPreparedMutation exp mutate serializes publishes =>
    dsimp only [ConfigManager.perform, ConfigManager.withPreparedMutation]
    split
    · cases serializes with
      | true =>
        cases publishes with
        | true => exact h.update _
        | false => exact h.self
      | false => exact h
    · exact h
  | reserve exp =>
    dsimp only [ConfigManager.perform, ConfigManager.reserveCapturePersistence]
    split
    · exact h.reserve _ rfl
    · exact h
  | activate exp ep src =>
    dsimp only [ConfigManager.perform, ConfigManager.activateCapturePersistence]
    split
    · rename_i hc
      exact h.activate hc.2 src
    · exact h
  | saveCaptureAndActivate exp ep src capture persists =>
    dsimp only [ConfigManager.perform, ConfigManager.saveCaptureAndActivateIfCurrent]
    split
    · rename_i hc
      cases persists with
      | true =>
        refine h.install (some (ep, src)) ?_ ?_ ?_ ?_
        · rintro _ ⟨⟩
          exact hc.2
        all_goals rfl
      | false => exact h.take ep
    · exact h
  | stage exp capture writes =>
    dsimp only [ConfigManager.perform, ConfigManager.stageCaptureConfig]
    split
    · cases writes with
      | true =>
        refine (h.of_subset ?_ ?_ ?_ ?_).self
        · rfl
        · rfl
        · exact subset_rfl
        · rfl
      | false => exact h
    · exact h
  | commitStaged exp pers i replaces =>
    exact h.commitStaged exp pers i replaces
  | modifyCaptureIfAuthorized _ _ mutate persists | modifyCaptureIfEpochCurrent _ mutate persists =>
    dsimp only [ConfigManager.perform, ConfigManager.modifyCaptureIfAuthorized,
      ConfigManager.modifyCaptureIfEpochCurrent]
    split
    · exact h
    · rename_i auth ha
      split
      · exact h
      · cases persists with
        | false => exact h
        | true =>
          refine h.write ha ?_ mutate
          cases auth.source <;> rfl
  | revoke ep => exact h.revoke ep
  | setAppliedCapture capture =>
    refine (h.of_subset ?_ ?_ ?_ ?_).self
    · rfl
    · rfl
    · exact subset_rfl
    · rfl
  | reload loaded =>
    cases loaded with
    | none => exact h
    | some cfg => exact h.update cfg
  | save persists =>
    cases persists with
    | true => exact h.self
    | false => exact h

end Fenced

end

/-- **The fence** in every reachable state. -/
lemma fenced_of_reachable {s : Traced K X} (h : managing.Reachable s) : Fenced s := by
  refine h.invariant ?_ ?_
  · rintro s ⟨cfg, rfl⟩
    exact fenced_new cfg
  · rintro ⟨m, history⟩ op t hs rfl
    exact hs.perform op

/-! ## What takes effect, and what fails -/

/-- A failure leaves the config, the authority and the applied capture as they are. -/
structure Keeps (m m' : ConfigManager K X) : Prop where
  live : m'.live = m.live
  authority : m'.writer.capturePersistenceAuthority = m.writer.capturePersistenceAuthority
  applied : m'.writer.appliedCapture = m.writer.appliedCapture

lemma keeps_self : Keeps m m := ⟨rfl, rfl, rfl⟩

/-- An operation that fails keeps them. -/
lemma keeps_of_failed (op : ConfigOp K X) (h : m.perform op = (m', .failed)) : Keeps m m' := by
  cases op with
  | modifyAndSaveIfCurrent _ _ succeeds | withPreparedMutation _ _ succeeds _
  | saveCaptureAndActivate _ _ _ _ succeeds | stage _ _ succeeds =>
    dsimp only [perform, ConfigManager.modifyAndSaveIfCurrent, ConfigManager.withPreparedMutation,
      saveCaptureAndActivateIfCurrent, stageCaptureConfig] at h
    split at h
    · cases succeeds <;> cases h
      exact ⟨rfl, rfl, rfl⟩
    · cases h
  | commitStaged exp pers i replaces =>
    dsimp only [perform, commitStagedCaptureIfCurrent] at h
    split at h
    · cases h
    · split at h
      · rcases pers with _ | ⟨ep, src⟩
        · cases replaces <;> cases h
          exact ⟨rfl, rfl, rfl⟩
        · dsimp only at h
          split at h
          · cases replaces <;> cases h
            exact ⟨rfl, rfl, rfl⟩
          · cases h
      · cases h
  | modifyCaptureIfAuthorized _ _ _ persists | modifyCaptureIfEpochCurrent _ _ persists =>
    dsimp only [perform, ConfigManager.modifyCaptureIfAuthorized,
      ConfigManager.modifyCaptureIfEpochCurrent] at h
    split at h
    · cases h
    · split at h
      · cases h
      · cases persists <;> cases h
        exact keeps_self
  | reload found | save found =>
    cases found <;> cases h
    exact keeps_self
  | modifyIfCurrent | reserve | activate =>
    dsimp only [perform, ConfigManager.modifyIfCurrent, reserveCapturePersistence,
      activateCapturePersistence] at h
    split at h <;> cases h
  | update | modify | revoke | setAppliedCapture => cases h

variable {mutate : K → K} {persists : Bool}

/-- The authority that let a capture write through. -/
lemma authority_of_authorized {src : CapturePersistenceSource}
    (h : (m.modifyCaptureIfAuthorized ep src mutate persists).2 = .done) :
    ∃ auth ∈ m.writer.capturePersistenceAuthority, auth.epoch = ep ∧ ∀ o ∈ auth.source, o = src := by
  unfold modifyCaptureIfAuthorized at h
  split at h
  · cases h
  · rename_i auth ha
    split at h
    · cases h
    · rename_i hc
      push Not at hc
      refine ⟨auth, ha, hc.1, fun o hm => ?_⟩
      by_contra hn
      refine hc.2.2 ?_
      rw [Option.any_eq_true]
      exact ⟨o, hm, decide_eq_true hn⟩

lemma authority_of_epochCurrent (h : (m.modifyCaptureIfEpochCurrent ep mutate persists).2 = .done) :
    ∃ auth ∈ m.writer.capturePersistenceAuthority, auth.epoch = ep := by
  unfold modifyCaptureIfEpochCurrent at h
  split at h
  · cases h
  · rename_i auth ha
    split at h
    · cases h
    · rename_i hc
      push Not at hc
      exact ⟨auth, ha, hc.1⟩

lemma mem_replaced {activated : List CaptureEvent} (h : .activated ep src ∈ replaced m m' activated) :
    .activated ep src ∈ activated := by
  unfold replaced at h
  split at h <;> simpa using h

/-- Only a staged epoch is activated. -/
lemma staged_of_activated {op : ConfigOp K X} (h : (m.perform op).2 = .done)
    (hm : .activated ep src ∈ op.events m (m.perform op).1) :
    ep ∈ m.writer.stagedCapturePersistenceEpochs := by
  cases op with
  | update | modify | modifyIfCurrent | modifyAndSaveIfCurrent | reload =>
    exact absurd (mem_replaced hm) not_mem_nil
  | withPreparedMutation exp mutate serializes publishes =>
    cases publishes with
    | true => exact absurd (mem_replaced hm) not_mem_nil
    | false => cases hm
  | activate exp ep' src' =>
    dsimp only [perform, activateCapturePersistence] at h
    split at h
    · rename_i hc
      cases mem_singleton.mp hm
      exact hc.2
    · cases h
  | saveCaptureAndActivate exp ep' src' capture persists =>
    have hm' := mem_replaced hm
    dsimp only [perform, saveCaptureAndActivateIfCurrent] at h
    split at h
    · rename_i hc
      cases mem_singleton.mp hm'
      exact hc.2
    · cases h
  | commitStaged exp pers i replaces =>
    have hm' := mem_replaced hm
    rcases pers with _ | ⟨ep', src'⟩
    · cases hm'
    · cases mem_singleton.mp hm'
      dsimp only [perform, commitStagedCaptureIfCurrent] at h
      split at h
      · cases h
      · split at h
        · split at h
          · rename_i hs
            exact hs
          · cases h
        · cases h
  | reserve | modifyCaptureIfAuthorized | modifyCaptureIfEpochCurrent | revoke =>
    cases mem_singleton.mp hm
  | stage | setAppliedCapture | save => cases hm

/-- **Capture persistence is fenced by epoch**, in every state that any operations reach. -/
theorem capture_fenced {s : Traced K X} (h : managing.Reachable s) :
    (∀ authority ∈ s.manager.writer.capturePersistenceAuthority,
      authority.config = s.manager.live) ∧ (∀ epoch source mutate persists,
      (s.manager.perform (.modifyCaptureIfAuthorized epoch source mutate persists)).2 = .done →
      Since (Activates epoch) (EndsAuthority epoch) s.history ∧
        ∀ other ∈ pinned s.history, other = source) ∧ (∀ epoch mutate persists,
      (s.manager.perform (.modifyCaptureIfEpochCurrent epoch mutate persists)).2 = .done →
      Since (Activates epoch) (EndsAuthority epoch) s.history) ∧
    (∀ op epoch source, (s.manager.perform op).2 = .done →
      .activated epoch source ∈ op.events s.manager (s.manager.perform op).1 →
      Since (Reserves epoch) (EndsReservation epoch) s.history) ∧
    (∀ epoch, activations epoch s.history ≤ 1) ∧
    ∀ op, (s.manager.perform op).2 = .failed → Keeps s.manager (s.manager.perform op).1 := by
  have hf := fenced_of_reachable h
  refine ⟨fun authority hm => (hf.authority authority hm).1, ?_, ?_, ?_, hf.once,
    fun op hfl => keeps_of_failed op (Prod.ext rfl hfl)⟩
  · intro epoch source mutate persists hd
    obtain ⟨authority, hm, rfl, hs⟩ := authority_of_authorized hd
    obtain ⟨-, hp, hsi⟩ := hf.authority authority hm
    exact ⟨hsi, hp ▸ hs⟩
  · intro epoch mutate persists hd
    obtain ⟨authority, hm, rfl⟩ := authority_of_epochCurrent hd
    exact (hf.authority authority hm).2.2
  · intro op epoch source hd hm
    exact (hf.staged epoch (staged_of_activated hd hm)).1

/-- A source writes the capture section it was activated for. -/
theorem capture_fenced_written :
    let s : Traced Nat Unit := [ConfigOp.reserve 0, .activate 0 1 none].foldl Traced.perform
      ⟨.new ⟨5, "default", ()⟩, []⟩
    (s.manager.perform (.modifyCaptureIfAuthorized 1 ⟨"portal", 0, 0⟩ (· + 1) true)).2 = .done ∧
      Since (Activates 1) (EndsAuthority 1) s.history ∧
      (∀ other ∈ pinned s.history, other = ⟨"portal", 0, 0⟩) ∧ activations 1 s.history ≤ 1 :=
  have hr := .foldl (C := fun _ => True) (fun _ _ _ => rfl) (.init ⟨_, rfl⟩) fun _ _ => trivial
  have h := capture_fenced hr
  have hw := h.2.1 1 ⟨"portal", 0, 0⟩ (· + 1) true rfl
  ⟨rfl, hw.1, hw.2, h.2.2.2.2.1 1⟩

end Hypercolor.Config
