import Hypercolor.LayoutBuilder.Answers
import Hypercolor.LayoutBuilder.Pending

/-!
# The page, the network and the daemon

The ledgers of a page, each of whose writes goes through the line of `Answers` under a key of its own:
its attempts and their responses are delayed, lost and reordered, and the daemon commits one only at
its fence. The lines share the daemon's run and revision, so that the commit of one write is a remote
commit to every other.

Remote commits, restarts, edits, forgets, handshakes and scene reads of any age come in between. Three
things are as the writer has them:

* it handles one answer at a time, and a retry goes out after the attempt before it got none;
* the read after a stale answer was started after that answer, and so is not older than what the daemon
  was then (`heard`);
* a handshake does not name a run that ended once the ledgers are of the daemon's own.

What the page told the user is kept in `reports`, the zones it read in `reads`, and the writes that the
ledgers settled in `settled`.
-/

namespace Hypercolor.LayoutBuilder

open Lib
open Idempotency (KeySlot)

/-- The daemon's run, the runs before it, and its revision. -/
structure Moment where
  run : String
  past : List String
  revision : Nat

/-- The run has come to the revision by then, or is over. -/
def Moment.Has (m : Moment) (run : String) (revision : Nat) : Prop :=
  run = m.run ∧ revision ≤ m.revision ∨ run ∈ m.past

/-- A write that was taken, with its zone and the intents that it carries. -/
structure Posted (N L : Type) where
  zoneId : String
  write : Write N L
  carried : List (Intent N)
  named : write.run ≠ ""

/-- The write as its line knows it. -/
def Posted.keyed {N L : Type} (i : Posted N L) : KeyedWrite := ⟨i.write.run, i.write.fence, i.named⟩

/-- What a write's line has of its own, and whether the page waits for an answer. -/
structure Call where
  sent : Nat
  unanswered : Nat
  fate : Nat → Fate
  slot : KeySlot Nat
  replies : List Reply
  commits : List Nat
  awaiting : Bool

def Call.ofLine (line : Line) (awaiting : Bool) : Call :=
  ⟨line.sent, line.unanswered, line.fate, line.slot, line.replies, line.commits, awaiting⟩

/-- What the page tells the user about edits that are lost, or may be. -/
inductive Report where
  | cancelled (cancelled : Cancelled)
  | unconfirmed (zoneId : String) (lapse : Lapse)

structure World (N L : Type) where
  now : Moment
  heard : Moment
  ledgers : SceneLedgers N L
  seq : Nat
  posted : List (Posted N L)
  calls : Nat → Call
  settled : List Nat
  reads : List (String × List (Output N L))
  reports : List Report

/-- What can happen. -/
inductive WorldEvent (N L : Type) where
  | network (i : Posted N L) (event : LineEvent)
  | remoteCommit (revision : Nat)
  | restart (run : String) (revision : Nat)
  | enter (run : String)
  | observe (read : SceneRead N L) (wanted : Option String)
  | readAndSettle (ticket : Ticket) (read : SceneRead N L)
  | afterStale (zoneId : String) (ticket : Ticket) (read : SceneRead N L)
  | edit (sceneId : Nat) (zoneId : String) (edited : List (Output N L))
  | forget (sceneId : Nat) (outputIds : List String) (through : Nat)
  | takeWrite (i : Posted N L)
  | retry (i : Posted N L)
  | answer (i : Posted N L) (reply : Reply)
  | noAnswer (i : Posted N L)

/-- The events of a line that neither the client nor other writes cause. -/
def LineEvent.Network : LineEvent → Prop
  | .send | .retry | .resend | .remoteCommit _ | .restart _ _ => False
  | _ => True

/-- The answers that settle a write. -/
def Heard.settles : Heard → Bool
  | .applied _ | .stale | .failed => true
  | _ => false

/-- What an answer has to report. -/
def Heard.reports (zoneId : String) : Heard → List Report
  | .applied cancelled => [.cancelled ⟨zoneId, cancelled, .outputLeft⟩]
  | _ => []

/-- The writes that are out. -/
def SceneLedgers.outIds {N L : Type} (s : SceneLedgers N L) : List Nat :=
  s.zones.filterMap fun entry => entry.2.sent.map fun sent => sent.write.id

/-- The zones of a read as the canvas draws them. -/
def SceneRead.drawn {N L : Type} (read : SceneRead N L) : List (String × List (Output N L)) :=
  read.zones.map fun zone => (zone.zoneId, zone.shown)

namespace World

variable {N L : Type} [BEq N]

/-- The line of a write. -/
def line (s : World N L) (id : Nat) : Line :=
  let call := s.calls id
  ⟨s.now.run, s.now.past, s.now.revision, call.sent, call.unanswered, call.fate, call.slot,
    call.replies, call.commits⟩

/-- One line moves on, and with it the daemon's revision. -/
def follow (s : World N L) (id : Nat) (line : Line) (awaiting : Bool) : World N L :=
  { s with
    now := { s.now with revision := line.revision }
    calls := Function.update s.calls id (.ofLine line awaiting) }

/-- A line on which nothing was sent. -/
def freshLine (s : World N L) : Line :=
  ⟨s.now.run, s.now.past, s.now.revision, 0, 0, fun _ => .unsent, .free, [], []⟩

variable (reader : BodyReader (ZoneReply N L))

/-- What the writer makes of a response. -/
def answered (s : World N L) (i : Posted N L) (r : Reply) : SceneLedgers N L × Heard :=
  s.ledgers.answer i.zoneId i.write (s.calls i.write.id).unanswered
    (keyedResponse reader (some r.run) r.replayed r.response)

/-- One step. -/
inductive Step (reader : BodyReader (ZoneReply N L)) :
    World N L → WorldEvent N L → World N L → Prop where
  | network (s : World N L) (i : Posted N L) (hi : i ∈ s.posted) (event : LineEvent)
      (hevent : event.Network) (line : Line)
      (hline : LineStep reader i.keyed (s.line i.write.id) event line) :
      Step reader s (.network i event) (s.follow i.write.id line (s.calls i.write.id).awaiting)
  | remoteCommit (s : World N L) (revision : Nat) (hrevision : s.now.revision < revision) :
      Step reader s (.remoteCommit revision) { s with now := { s.now with revision := revision } }
  | restart (s : World N L) (run : String) (revision : Nat) (hnamed : run ≠ "")
      (hnew : run ≠ s.now.run) (hfresh : run ∉ s.now.past) :
      Step reader s (.restart run revision)
        { s with
          now := ⟨run, s.now.run :: s.now.past, revision⟩
          calls := fun id =>
            { s.calls id with slot := .free, fate := fun k => ((s.calls id).fate k).restarted } }
  | enter (s : World N L) (run : String)
      (hrun : run = s.now.run ∨ run ∈ s.now.past ∧ s.ledgers.run ≠ s.now.run) :
      Step reader s (.enter run) { s with ledgers := (s.ledgers.enter run).1 }
  | observe (s : World N L) (read : SceneRead N L) (wanted : Option String)
      (hread : s.now.Has read.run read.revision) :
      Step reader s (.observe read wanted)
        { s with
          ledgers := (s.ledgers.observe read wanted).1
          reads := read.drawn ++ s.reads
          reports := ((s.ledgers.observe read wanted).2.getD []).map .cancelled ++ s.reports }
  | readAndSettle (s : World N L) (ticket : Ticket) (read : SceneRead N L)
      (hread : s.now.Has read.run read.revision) :
      Step reader s (.readAndSettle ticket read)
        { s with
          ledgers := (s.ledgers.readAndSettle ticket read).1
          settled := (s.ledgers.admitRead ticket read).1.outIds.filter
            (· ∉ (s.ledgers.readAndSettle ticket read).1.outIds) ++ s.settled
          reads := read.drawn ++ s.reads
          reports := (SceneLedgers.cancelledBy (s.ledgers.readAndSettle ticket read).2.1).map
            .cancelled ++
            ((s.ledgers.readAndSettle ticket read).2.2.map fun ended =>
              .unconfirmed ended.1 ended.2.lapse) ++ s.reports }
  | afterStale (s : World N L) (zoneId : String) (ticket : Ticket) (read : SceneRead N L)
      (hread : s.now.Has read.run read.revision) (hlater : read.run ∉ s.heard.past)
      (hnewer : read.run = s.heard.run → s.heard.revision ≤ read.revision) :
      Step reader s (.afterStale zoneId ticket read)
        { s with
          ledgers := (s.ledgers.afterStale zoneId ticket read).1
          reads := read.drawn ++ s.reads
          reports :=
            (SceneLedgers.cancelledBy (s.ledgers.afterStale zoneId ticket read).2.1).map .cancelled ++
              .cancelled ⟨zoneId, (s.ledgers.afterStale zoneId ticket read).2.2, .outputLeft⟩ ::
                s.reports }
  | edit (s : World N L) (sceneId : Nat) (zoneId : String) (edited : List (Output N L)) :
      Step reader s (.edit sceneId zoneId edited)
        { s with
          ledgers := (s.ledgers.edit s.seq sceneId zoneId edited).1
          seq := (s.ledgers.edit s.seq sceneId zoneId edited).2 }
  | forget (s : World N L) (sceneId : Nat) (outputIds : List String) (through : Nat) :
      Step reader s (.forget sceneId outputIds through)
        { s with ledgers := s.ledgers.forget sceneId outputIds through }
  | takeWrite (s : World N L) (i : Posted N L) (ledger : ZoneLedger N L)
      (hledger : s.ledgers.zone i.zoneId = some ledger) (hcarried : i.carried = ledger.pending)
      (hwrite : (s.ledgers.takeWrite i.zoneId).2 = some i.write) :
      Step reader s (.takeWrite i)
        { s.follow i.write.id (s.freshLine.attempts 0) true with
          ledgers := (s.ledgers.takeWrite i.zoneId).1
          posted := i :: s.posted }
  | retry (s : World N L) (i : Posted N L) (hi : i ∈ s.posted) (ledger : ZoneLedger N L)
      (hledger : s.ledgers.zone i.zoneId = some ledger) (hretry : ledger.retry = some i.write)
      (hidle : (s.calls i.write.id).awaiting = false) :
      Step reader s (.retry i)
        (s.follow i.write.id ((s.line i.write.id).attempts ledger.unanswered) true)
  | answer (s : World N L) (i : Posted N L) (hi : i ∈ s.posted) (r : Reply)
      (hr : r ∈ (s.calls i.write.id).replies) (hawaiting : (s.calls i.write.id).awaiting)
      (hlast : (s.calls i.write.id).sent = r.attempt + 1)
      (hlanded : ∀ reply revision, reader.applied r.response = .ok reply →
        reply.landed = some revision → s.now.Has i.write.run revision) :
      Step reader s (.answer i r)
        { s.follow i.write.id (s.line i.write.id) false with
          heard := s.now
          ledgers := (s.answered reader i r).1
          settled := if (s.answered reader i r).2.settles then i.write.id :: s.settled else s.settled
          reports := (s.answered reader i r).2.reports i.zoneId ++ s.reports }
  | noAnswer (s : World N L) (i : Posted N L) (hi : i ∈ s.posted)
      (hawaiting : (s.calls i.write.id).awaiting) :
      Step reader s (.noAnswer i)
        { s.follow i.write.id (s.line i.write.id) false with
          ledgers := s.ledgers.modify i.zoneId (·.lost i.write.id) }

/-- A daemon in its first run, and a page that knows nothing. -/
def Initial (s : World N L) : Prop :=
  s.now.run ≠ "" ∧ s.now.past = [] ∧ s.heard = s.now ∧ (∃ keyPrefix, s.ledgers = .new keyPrefix) ∧
    s.posted = [] ∧ s.settled = []

/-- The page, the network and the daemon as a machine. -/
def machine : Machine (World N L) (WorldEvent N L) where
  init := Initial
  step := Step reader

/-- The daemon is steady about every write. -/
def Steady (refusal : Nat → Option Nat) (s : World N L) : WorldEvent N L → Prop
  | .network i event => (s.line i.write.id).Steady i.keyed (refusal i.write.id) event
  | _ => True

/-- The runs in which the daemon is steady about every write. -/
def steadyMachine (refusal : Nat → Option Nat) : Machine (World N L) (WorldEvent N L) where
  init := Initial
  step s event s' := Step reader s event s' ∧ s.Steady refusal event

end World

end Hypercolor.LayoutBuilder
