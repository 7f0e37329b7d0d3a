import JoyMesh.Delivery.Outbox
import JoyMesh.Library.Run

namespace JoyMesh.Delivery

open Library

-- The signature of the canonical bytes and the hash of the canonical payload
-- are taken as functions. A publisher without a private key does not sign.
structure RuntimeDeliveryPublisher where
  identity : PublisherIdentity
  keyId : Option String
  sign : Option (DeliveryEnvelope → String)
  hashPayload : Mapping → String

-- The arguments of one publication, with the id that uuid4 draws for it.
structure Draft where
  kind : DeliveryKind
  payload : Mapping
  idempotencyKey : Option String
  envelopeId : String

namespace RuntimeDeliveryPublisher

variable (publisher : RuntimeDeliveryPublisher)

def build (draft : Draft) (sequence : Nat) (now : Time) : DeliveryEnvelope where
  envelopeId := draft.envelopeId
  kind := draft.kind
  sequence := sequence
  observedAt := now
  publisher := publisher.identity
  payload := draft.payload
  payloadHash := publisher.hashPayload draft.payload
  keyId := publisher.keyId
  signatureAlgorithm := publisher.sign.map fun _ => "ed25519"
  idempotencyKey := draft.idempotencyKey.getD ""

def envelope (draft : Draft) (sequence : Nat) (now : Time) : DeliveryEnvelope :=
  let envelope := publisher.build draft sequence now
  { envelope with signature := publisher.sign.map fun sign => sign envelope }

@[simp] theorem envelope_envelopeId {draft : Draft} {sequence : Nat} {now : Time} :
    (publisher.envelope draft sequence now).envelopeId = draft.envelopeId := rfl

end RuntimeDeliveryPublisher

-- How far flush_once has got. It waits in connecting, publishing and closing;
-- the other places are between two commits. The rest of the batch is kept as it
-- was read.
inductive Flush where
  | connecting
  | draining (rest : List OutboxRecord)
  | publishing (envelopeId : String) (rest : List OutboxRecord)
  | closing (envelopeId : String) (rest : List OutboxRecord)
  | settling (envelopeId : String) (acked : Bool) (rest : List OutboxRecord)

-- How transport.publish ends.
inductive Published where
  | answered (status : DeliveryAckStatus)
  | raised
deriving DecidableEq, Repr

-- The outbox, the publications that hold a sequence number and the flushes that
-- are under way. issued are the envelope ids drawn so far.
structure DeliveryState where
  outbox : DeliveryOutbox := {}
  publications : Nat → Option Nat := fun _ => none
  flushes : Nat → Option Flush := fun _ => none
  issued : List String := []

inductive Label where
  | takeSequence (i : Nat)
  | append (i : Nat) (draft : Draft) (now : Time)
  | flushOnce (i : Nat)
  | connected (i : Nat)
  | unreachable (i : Nat)
  | drain (i : Nat) (now : Time)
  | published (i : Nat) (outcome : Published)
  | closed (i : Nat)
  | settle (i : Nat) (now : Time)
  | cancel (i : Nat)
  | restart

structure Settings where
  maxEntries : Nat := 2000
  batchSize : Nat := 32
  maxAttempts : Nat := 8

namespace DeliveryState

variable (publisher : RuntimeDeliveryPublisher) (settings : Settings) (s : DeliveryState)

def setFlush (i : Nat) (flush : Option Flush) : DeliveryState :=
  { s with flushes := Function.update s.flushes i flush }

def appended (i : Nat) (envelope : DeliveryEnvelope) (now : Time) : DeliveryState :=
  { s with
    outbox := (s.outbox.append settings.maxEntries envelope now).2
    publications := Function.update s.publications i none
    issued := envelope.envelopeId :: s.issued }

-- The next record of the batch: one that was tried too often is marked failed,
-- any other is marked sent and handed to the transport.
def drained (i : Nat) (now : Time) : List OutboxRecord → DeliveryState
  | [] => s.setFlush i none
  | record :: rest =>
      let envelopeId := record.envelope.envelopeId
      if max 1 settings.maxAttempts ≤ record.attempts then
        { s with outbox := s.outbox.markFailed envelopeId now }.setFlush i (some (.draining rest))
      else
        { s with outbox := s.outbox.markSent envelopeId now }.setFlush i
          (some (.publishing envelopeId rest))

-- Only an answer that acknowledges deletes the row. After an exception the
-- transport is closed first.
def publishedAs (outcome : Published) (envelopeId : String) (rest : List OutboxRecord) : Flush :=
  match outcome with
  | .answered status => .settling envelopeId (status = .acked) rest
  | .raised => .closing envelopeId rest

def settled (i : Nat) (envelopeId : String) (acked : Bool) (rest : List OutboxRecord)
    (now : Time) : DeliveryState :=
  let outbox := if acked then s.outbox.markAcked envelopeId else s.outbox.markFailed envelopeId now
  { s with outbox := outbox }.setFlush i (some (.draining rest))

-- The process stops and is started again on the same database.
def restarted : DeliveryState :=
  { outbox := s.outbox, issued := s.issued }

def step : Label → Option DeliveryState
  | .takeSequence i =>
      match s.publications i with
      | some _ => none
      | none =>
          let (sequence, outbox) := s.outbox.nextSequence
          some { s with
            outbox := outbox
            publications := Function.update s.publications i (some sequence) }
  | .append i draft now =>
      match s.publications i with
      | none => none
      | some sequence =>
          if draft.envelopeId ∈ s.issued then none
          else some (s.appended settings i (publisher.envelope draft sequence now) now)
  | .flushOnce i =>
      match s.flushes i with
      | some _ => none
      | none => some (s.setFlush i (some .connecting))
  | .connected i =>
      match s.flushes i with
      | some .connecting =>
          some (s.setFlush i (some (.draining (s.outbox.pending (max 1 settings.batchSize)))))
      | _ => none
  | .unreachable i =>
      match s.flushes i with
      | some .connecting => some (s.setFlush i none)
      | _ => none
  | .drain i now =>
      match s.flushes i with
      | some (.draining rest) => some (s.drained settings i now rest)
      | _ => none
  | .published i outcome =>
      match s.flushes i with
      | some (.publishing envelopeId rest) =>
          some (s.setFlush i (some (publishedAs outcome envelopeId rest)))
      | _ => none
  | .closed i =>
      match s.flushes i with
      | some (.closing envelopeId rest) => some (s.setFlush i (some (.settling envelopeId false rest)))
      | _ => none
  | .settle i now =>
      match s.flushes i with
      | some (.settling envelopeId acked rest) => some (s.settled i envelopeId acked rest now)
      | _ => none
  | .cancel i =>
      match s.flushes i with
      | some .connecting => some (s.setFlush i none)
      | some (.publishing _ _) => some (s.setFlush i none)
      | some (.closing _ _) => some (s.setFlush i none)
      | _ => none
  | .restart => some s.restarted

end DeliveryState

-- A row that the worker gives up on.
def Exhausted (settings : Settings) (row : OutboxRecord) : Prop :=
  max 1 settings.maxAttempts ≤ row.attempts

instance (settings : Settings) (row : OutboxRecord) : Decidable (Exhausted settings row) := by
  delta Exhausted
  infer_instance

-- One call of flush_once with nothing else between its steps: the flush that
-- runs it, what the transport does with each envelope and the time of its last
-- mark.
structure FlushCall where
  flush : Nat
  answers : String → Published
  clock : String → Time

namespace FlushCall

variable (call : FlushCall)

def Accepts : Prop :=
  ∀ envelopeId, call.answers envelopeId = .answered .acked

-- The steps of one round of the loop.
def roundLabels (settings : Settings) (record : OutboxRecord) : List Label :=
  let envelopeId := record.envelope.envelopeId
  let now := call.clock envelopeId
  if Exhausted settings record then [.drain call.flush now]
  else
    match call.answers envelopeId with
    | .answered status =>
        [.drain call.flush now, .published call.flush (.answered status), .settle call.flush now]
    | .raised =>
        [.drain call.flush now, .published call.flush .raised, .closed call.flush,
          .settle call.flush now]

def labels (settings : Settings) (outbox : DeliveryOutbox) : List Label :=
  .flushOnce call.flush :: .connected call.flush ::
    ((outbox.pending (max 1 settings.batchSize)).flatMap (call.roundLabels settings) ++
      [.drain call.flush 0])

end FlushCall

namespace DeliveryOutbox

variable (settings : Settings) (call : FlushCall)

def round (outbox : DeliveryOutbox) (record : OutboxRecord) : DeliveryOutbox :=
  let envelopeId := record.envelope.envelopeId
  let now := call.clock envelopeId
  if Exhausted settings record then outbox.markFailed envelopeId now
  else
    let sent := outbox.markSent envelopeId now
    if call.answers envelopeId = .answered .acked then sent.markAcked envelopeId
    else sent.markFailed envelopeId now

def flushed (outbox : DeliveryOutbox) : DeliveryOutbox :=
  (outbox.pending (max 1 settings.batchSize)).foldl (round settings call) outbox

-- The outbox after the first n of a series of calls.
def afterCalls (calls : Nat → FlushCall) (outbox : DeliveryOutbox) : Nat → DeliveryOutbox
  | 0 => outbox
  | n + 1 => (afterCalls calls outbox n).flushed settings (calls n)

end DeliveryOutbox

section Refinement

variable {publisher : RuntimeDeliveryPublisher} {settings : Settings} {call : FlushCall}
  {s : DeliveryState} {record : OutboxRecord} {rest : List OutboxRecord}

theorem setFlush_setFlush {i : Nat} {first second : Option Flush} :
    (s.setFlush i first).setFlush i second = s.setFlush i second := by
  simp [DeliveryState.setFlush]

@[simp] theorem setFlush_flushes {i : Nat} {flush : Option Flush} :
    (s.setFlush i flush).flushes i = flush :=
  Function.update_self _ _ _

@[simp] theorem setFlush_outbox {i : Nat} {flush : Option Flush} :
    (s.setFlush i flush).outbox = s.outbox := rfl

-- The machine takes a round of the loop in three or four steps.
theorem run_roundLabels (h : s.flushes call.flush = some (.draining (record :: rest))) :
    run (DeliveryState.step publisher settings) s (call.roundLabels settings record) =
      some ({ s with outbox := s.outbox.round settings call record }.setFlush call.flush
        (some (.draining rest))) := by
  unfold FlushCall.roundLabels DeliveryOutbox.round
  by_cases hex : Exhausted settings record
  · have hle : max 1 settings.maxAttempts ≤ record.attempts := hex
    simp [hex, DeliveryState.step, h, DeliveryState.drained, hle]
  · have hle : ¬ max 1 settings.maxAttempts ≤ record.attempts := hex
    cases hans : call.answers record.envelope.envelopeId with
    | answered status =>
        by_cases hacked : status = .acked
        · simp [hex, DeliveryState.step, h, DeliveryState.drained, hle, hans, hacked,
            DeliveryState.publishedAs, DeliveryState.settled, DeliveryState.setFlush]
        · simp [hex, DeliveryState.step, h, DeliveryState.drained, hle, hans, hacked,
            DeliveryState.publishedAs, DeliveryState.settled, DeliveryState.setFlush]
    | raised =>
        simp [hex, DeliveryState.step, h, DeliveryState.drained, hle, hans,
          DeliveryState.publishedAs, DeliveryState.settled, DeliveryState.setFlush]

theorem run_rounds (h : s.flushes call.flush = some (.draining rest)) :
    run (DeliveryState.step publisher settings) s
        (rest.flatMap (call.roundLabels settings) ++ [.drain call.flush 0]) =
      some ({ s with outbox := rest.foldl (DeliveryOutbox.round settings call) s.outbox }.setFlush
        call.flush none) := by
  induction rest generalizing s with
  | nil => simp [DeliveryState.step, h, DeliveryState.drained]
  | cons record rest ih =>
      rw [List.flatMap_cons, List.append_assoc, run_append, run_roundLabels h, Option.bind_some,
        ih setFlush_flushes]
      simp [DeliveryState.setFlush]

-- A call of flush_once is a run of the machine.
theorem run_flushed (h : s.flushes call.flush = none) :
    run (DeliveryState.step publisher settings) s (call.labels settings s.outbox) =
      some { s with outbox := s.outbox.flushed settings call } := by
  have hstart : DeliveryState.step publisher settings s (.flushOnce call.flush) =
      some (s.setFlush call.flush (some .connecting)) := by
    simp [DeliveryState.step, h]
  have hread : DeliveryState.step publisher settings (s.setFlush call.flush (some .connecting))
      (.connected call.flush) = some (s.setFlush call.flush
        (some (.draining (s.outbox.pending (max 1 settings.batchSize))))) := by
    simp [DeliveryState.step, setFlush_setFlush]
  rw [FlushCall.labels, run_cons, hstart, Option.bind_some, run_cons, hread, Option.bind_some,
    run_rounds setFlush_flushes]
  simp only [DeliveryState.setFlush, Function.update_idem, DeliveryOutbox.flushed]
  rw [← h, Function.update_eq_self]

end Refinement

end JoyMesh.Delivery
