import Mathlib.Data.List.Sort
import JoyMesh.Library.Table
import JoyMesh.Value

namespace JoyMesh.Delivery

open Library

inductive DeliveryKind where
  | runtimeSnapshot
  | runtimeEvent
  | approvalRequest
  | heartbeat
deriving DecidableEq, Repr

inductive DeliveryAckStatus where
  | pending
  | sent
  | acked
  | failed
  | dropped
deriving DecidableEq, Repr

structure PublisherIdentity where
  publisherId : String
  publicKey : Option String := none
  instanceId : String
  organisationId : String := "local"
deriving DecidableEq, Repr

structure DeliveryEnvelope where
  envelopeId : String
  kind : DeliveryKind
  sequence : Nat
  observedAt : Time
  publisher : PublisherIdentity
  payload : Mapping
  payloadHash : String
  schemaVersion : Nat := 1
  transportVersion : Nat := 1
  signature : Option String := none
  keyId : Option String := none
  signatureAlgorithm : Option String := none
  idempotencyKey : String := ""
deriving DecidableEq

-- An envelope without a key of its own is known by its id.
def DeliveryEnvelope.key (envelope : DeliveryEnvelope) : String :=
  if envelope.idempotencyKey = "" then envelope.envelopeId else envelope.idempotencyKey

-- A row of delivery_outbox. The columns kind, sequence, idempotency_key and
-- payload_hash repeat the envelope, which is stored with its key filled in.
structure OutboxRecord where
  envelope : DeliveryEnvelope
  status : DeliveryAckStatus
  attempts : Nat
  createdAt : Time
  updatedAt : Time
deriving DecidableEq

-- The statuses that the drain query selects.
def OutboxRecord.sendable (row : OutboxRecord) : Bool :=
  row.status = .pending ∨ row.status = .failed

-- Both tables of the database. The key of a row is its envelope id.
structure DeliveryOutbox where
  rows : Table String OutboxRecord := ∅
  sequence : Nat := 0

inductive AppendError where
  | integrityError
  | assertionError
deriving DecidableEq, Repr

namespace DeliveryOutbox

variable (outbox : DeliveryOutbox)

def nextSequence : Nat × DeliveryOutbox :=
  (outbox.sequence + 1, { outbox with sequence := outbox.sequence + 1 })

def bySequence (rows : List OutboxRecord) : List OutboxRecord :=
  rows.insertionSort fun first second => first.envelope.sequence ≤ second.envelope.sequence

def size : Nat := outbox.rows.entries.length

def setStatus (envelopeId : String) (status : DeliveryAckStatus) (now : Time) : DeliveryOutbox :=
  match outbox.rows.lookup envelopeId with
  | none => outbox
  | some row =>
      { outbox with
        rows := outbox.rows.insert envelopeId
          { row with status := status, attempts := row.attempts + 1, updatedAt := now } }

def markSent (envelopeId : String) (now : Time) : DeliveryOutbox :=
  outbox.setStatus envelopeId .sent now

def markFailed (envelopeId : String) (now : Time) : DeliveryOutbox :=
  outbox.setStatus envelopeId .failed now

def markAcked (envelopeId : String) : DeliveryOutbox :=
  { outbox with rows := outbox.rows.erase envelopeId }

def sendable : List OutboxRecord :=
  bySequence (outbox.rows.select OutboxRecord.sendable)

def pending (limit : Nat) : List OutboxRecord :=
  outbox.sendable.take (max 1 limit)

-- The loop deletes one row a round, so it needs no more rounds than there are
-- rows. It returns the ids that it deleted; the source returns their number.
def compactLoop (maxEntries : Nat) : Nat → Table String OutboxRecord →
    Table String OutboxRecord × List String
  | 0, rows => (rows, [])
  | rounds + 1, rows =>
      if rows.entries.length ≤ maxEntries then (rows, [])
      else
        match bySequence rows.values with
        | [] => (rows, [])
        | oldest :: _ =>
            let (kept, deleted) :=
              compactLoop maxEntries rounds (rows.erase oldest.envelope.envelopeId)
            (kept, oldest.envelope.envelopeId :: deleted)

def compact (maxEntries : Nat) : DeliveryOutbox × List String :=
  let (kept, deleted) := compactLoop (max 1 maxEntries) outbox.size outbox.rows
  ({ outbox with rows := kept }, deleted)

def stored (envelope : DeliveryEnvelope) (now : Time) : OutboxRecord where
  envelope := { envelope with idempotencyKey := envelope.key }
  status := .pending
  attempts := 0
  createdAt := now
  updatedAt := now

def inserted (envelope : DeliveryEnvelope) (now : Time) : DeliveryOutbox :=
  { outbox with rows := outbox.rows.insert envelope.envelopeId (stored envelope now) }

-- A second envelope with the key of a stored one is suppressed.
def duplicate (envelope : DeliveryEnvelope) : Option OutboxRecord :=
  outbox.rows.values.find? fun row => row.envelope.idempotencyKey = envelope.key

def append (maxEntries : Nat) (envelope : DeliveryEnvelope) (now : Time) :
    Except AppendError OutboxRecord × DeliveryOutbox :=
  match outbox.duplicate envelope with
  | some row => (.ok row, outbox)
  | none =>
      if envelope.envelopeId ∈ outbox.rows then (.error .integrityError, outbox)
      else
        let (outbox, _) := (outbox.inserted envelope now).compact maxEntries
        match outbox.rows.lookup envelope.envelopeId with
        | some row => (.ok row, outbox)
        | none => (.error .assertionError, outbox)

end DeliveryOutbox

section Rows

variable {outbox : DeliveryOutbox} {rows : Table String OutboxRecord} {row : OutboxRecord}
  {envelopeId : String} {status : DeliveryAckStatus} {now : Time} {limit maxEntries : Nat}

namespace DeliveryOutbox

@[simp] theorem mem_bySequence {rows : List OutboxRecord} : row ∈ bySequence rows ↔ row ∈ rows :=
  List.mem_insertionSort _

theorem mem_sendable : row ∈ outbox.sendable ↔
    (∃ key, outbox.rows.lookup key = some row) ∧ row.sendable = true := by
  rw [sendable, mem_bySequence, Table.mem_select]

-- A limit that is large enough leaves out no row.
theorem mem_pending_of_le (h : outbox.sendable.length ≤ limit) :
    row ∈ outbox.pending limit ↔ row ∈ outbox.sendable := by
  rw [pending, List.take_of_length_le (h.trans (le_max_right 1 limit))]

theorem mem_sendable_of_mem_pending (h : row ∈ outbox.pending limit) : row ∈ outbox.sendable :=
  List.mem_of_mem_take h

theorem lookup_setStatus_self (h : outbox.rows.lookup envelopeId = some row) :
    (outbox.setStatus envelopeId status now).rows.lookup envelopeId =
      some { row with status := status, attempts := row.attempts + 1, updatedAt := now } := by
  rw [setStatus, h]
  exact AList.lookup_insert _

theorem lookup_setStatus_of_ne {key : String} (hne : key ≠ envelopeId) :
    (outbox.setStatus envelopeId status now).rows.lookup key = outbox.rows.lookup key := by
  unfold setStatus
  cases outbox.rows.lookup envelopeId with
  | none => rfl
  | some row => exact AList.lookup_insert_ne hne

theorem lookup_setStatus_of_none (h : outbox.rows.lookup envelopeId = none) :
    outbox.setStatus envelopeId status now = outbox := by
  rw [setStatus, h]

-- What the compaction has not deleted stays as it was.
theorem lookup_compactLoop (rounds : Nat) (rows : Table String OutboxRecord) (key : String) :
    (compactLoop maxEntries rounds rows).1.lookup key =
      if key ∈ (compactLoop maxEntries rounds rows).2 then none else rows.lookup key := by
  induction rounds generalizing rows with
  | zero => simp [compactLoop]
  | succ rounds ih =>
      unfold compactLoop
      split
      · simp
      · cases bySequence rows.values with
        | nil => simp
        | cons oldest others =>
            dsimp only
            rw [ih]
            by_cases hk : key = oldest.envelope.envelopeId
            · subst hk
              simp
            · simp [hk, AList.lookup_erase_ne hk]

theorem lookup_compact (key : String) : (outbox.compact maxEntries).1.rows.lookup key =
    if key ∈ (outbox.compact maxEntries).2 then none else outbox.rows.lookup key :=
  lookup_compactLoop _ _ key

end DeliveryOutbox

end Rows

end JoyMesh.Delivery
