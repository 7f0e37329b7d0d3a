import JoyMesh.Completion.Evidence
import JoyMesh.Library.Run

namespace JoyMesh.Completion

open Library

-- What the checks against the stored envelopes read of an envelope.
@[ext] structure Mark where
  sequence : Int
  evidenceType : String
  contentHash : String
deriving DecidableEq

namespace Mark

def fingerprint (mark : Mark) : String :=
  mark.evidenceType ++ ":" ++ mark.contentHash ++ ":" ++ toString mark.sequence

-- The same place in the sequence with another content.
def Conflicts (first second : Mark) : Prop :=
  first.sequence = second.sequence ∧ first.evidenceType = second.evidenceType ∧
    first.contentHash ≠ "" ∧ second.contentHash ≠ "" ∧ first.contentHash ≠ second.contentHash

instance : DecidableRel Conflicts := fun _ _ => inferInstanceAs (Decidable (_ ∧ _))

end Mark

def EvidenceEnvelope.mark (item : EvidenceEnvelope) : Mark where
  sequence := item.sequence
  evidenceType := item.evidenceType
  contentHash := item.contentHash

-- A candidate with what the boundary is told beside it.
structure Offer where
  context : CompletionContext
  lifecycleState : CompletionLifecycleState
  sourceBackend : String
  sourceHarness : Option String
  candidate : CandidateEvidence

structure Batch where
  context : CompletionContext
  lifecycleState : CompletionLifecycleState
  sourceBackend : String
  sourceHarness : Option String
  candidates : List CandidateEvidence

namespace Batch

def offer (batch : Batch) (candidate : CandidateEvidence) : Offer where
  context := batch.context
  lifecycleState := batch.lifecycleState
  sourceBackend := batch.sourceBackend
  sourceHarness := batch.sourceHarness
  candidate

def offers (batch : Batch) : List Offer := batch.candidates.map batch.offer

end Batch

namespace EvidenceBoundary

variable (digests : Digests)

-- One batch: the accepted tuple, and the boundary with what was stored.
def take (boundary : EvidenceBoundary) (batch : Batch) :
    List EvidenceEnvelope × EvidenceBoundary :=
  let intake := boundary.intake digests batch.context batch.lifecycleState batch.sourceBackend
    batch.sourceHarness batch.candidates
  (intake.accepted, intake.boundary)

-- One candidate of a batch.
def consider (boundary : EvidenceBoundary) (offer : Offer) :
    (EvidenceEnvelope × Bool) × EvidenceBoundary :=
  let (envelope, ok, next) := boundary.acceptOne digests offer.context offer.lifecycleState
    offer.sourceBackend offer.sourceHarness offer.candidate
  ((envelope, ok), next)

-- The candidates that are not rejected for one of the reasons.
def retained (reasons : EvidenceRejectionReason → Bool) :
    EvidenceBoundary → List Offer → List Offer
  | _, [] => []
  | boundary, offer :: offers =>
      let ((envelope, ok), next) := boundary.consider digests offer
      if !ok && envelope.rejectionReason.any reasons then retained reasons next offers
      else offer :: retained reasons next offers

-- The batches without the candidates that are rejected for one of the reasons.
def withoutRejected (reasons : EvidenceRejectionReason → Bool) :
    EvidenceBoundary → List Batch → List Batch
  | _, [] => []
  | boundary, batch :: batches =>
      { batch with
        candidates := (boundary.retained digests reasons batch.offers).map (·.candidate) } ::
        withoutRejected reasons (boundary.take digests batch).2 batches

-- Deleting the candidates changes no accepted tuple and nothing that is listed
-- as accepted.
def Unaffected (batches : List Batch) (reasons : EvidenceRejectionReason → Bool) : Prop :=
  let deleted := withoutRejected digests reasons {} batches
  responses (take digests) {} deleted = responses (take digests) {} batches ∧
    ∀ executionId, (play (take digests) {} deleted).listAccepted executionId =
      (play (take digests) {} batches).listAccepted executionId

end EvidenceBoundary

namespace Offer

variable (digests : Digests) (boundary : EvidenceBoundary) (offer : Offer)

def ownReason : Option EvidenceRejectionReason :=
  EvidenceBoundary.claimedReason offer.context offer.candidate
    (EvidenceBoundary.intakeReason offer.context offer.lifecycleState offer.candidate)

def mark : Mark where
  sequence := offer.candidate.sequence
  evidenceType := offer.candidate.evidenceType
  contentHash := (offer.candidate.contentHash.filter (· ≠ "")).getD
    (digests.hashPayload offer.candidate.payload)

-- The candidate passes its own checks and those against the accepted envelopes,
-- but a rejected one has its place in the sequence with another content.
structure Poisoned : Prop where
  own : offer.ownReason = none
  fresh : ∀ item ∈ boundary.listAccepted offer.context.executionId, item.mark ≠ offer.mark digests
  agrees : ∀ item ∈ boundary.listAccepted offer.context.executionId,
    ¬ item.mark.Conflicts (offer.mark digests)
  inOrder : ∀ item ∈ boundary.listAccepted offer.context.executionId,
    item.sequence ≤ offer.candidate.sequence
  disturbed : ∃ item ∈ boundary.byExecution offer.context.executionId,
    item.mark.Conflicts (offer.mark digests)

def envelope (reason : Option EvidenceRejectionReason) : EvidenceEnvelope where
  evidenceId := offer.candidate.evidenceId
  executionId := offer.context.executionId
  attemptId := offer.context.attemptId
  missionId := offer.context.missionId
  projectId := offer.context.projectId
  organisationId := offer.context.organisationId
  evidenceType := offer.candidate.evidenceType
  sourceBackend := offer.sourceBackend
  sourceHarness := offer.sourceHarness
  contentRef := offer.candidate.contentRef
  contentHash := (offer.mark digests).contentHash
  sizeBytes := offer.candidate.sizeBytes
  sequence := offer.candidate.sequence
  trust := if reason = none then .accepted else .rejected
  provenance := offer.candidate.provenance
  payload := redactPayload digests.redactSecrets offer.candidate.payload
  rejectionReason := reason

@[simp] theorem envelope_mark (reason : Option EvidenceRejectionReason) :
    (offer.envelope digests reason).mark = offer.mark digests := rfl

end Offer

namespace EvidenceBoundary

variable {digests : Digests} {boundary : EvidenceBoundary} {offer : Offer}

-- The duplicate that is given back is one of the accepted envelopes.
def duplicate (digests : Digests) (boundary : EvidenceBoundary) (offer : Offer) :
    Option EvidenceEnvelope :=
  if offer.ownReason = none ∧
      (offer.mark digests).fingerprint ∈ boundary.fingerprints offer.context.executionId then
    (boundary.listAccepted offer.context.executionId).find? (·.mark = offer.mark digests)
  else none

def reject (boundary : EvidenceBoundary) (item : EvidenceEnvelope) : EvidenceBoundary :=
  { boundary with
    byExecution := Function.update boundary.byExecution item.executionId
      (boundary.byExecution item.executionId ++ [item]) }

def accept (boundary : EvidenceBoundary) (item : EvidenceEnvelope) : EvidenceBoundary where
  byExecution := Function.update boundary.byExecution item.executionId
    (boundary.byExecution item.executionId ++ [item])
  fingerprints := Function.update boundary.fingerprints item.executionId
    (item.mark.fingerprint :: boundary.fingerprints item.executionId)

def checked (digests : Digests) (boundary : EvidenceBoundary) (offer : Offer) :
    Option EvidenceRejectionReason :=
  offer.ownReason.or
    (boundary.storedReason offer.context offer.candidate (offer.mark digests).contentHash)

-- A candidate that is no duplicate is stored with the first reason against it.
def settled (digests : Digests) (boundary : EvidenceBoundary) (offer : Offer) :
    Option EvidenceRejectionReason → (EvidenceEnvelope × Bool) × EvidenceBoundary
  | some reason =>
      ((offer.envelope digests (some reason), false),
        boundary.reject (offer.envelope digests (some reason)))
  | none => ((offer.envelope digests none, true), boundary.accept (offer.envelope digests none))

theorem identical_eq : boundary.identical offer.context offer.ownReason offer.candidate
    (offer.mark digests).contentHash (offer.mark digests).fingerprint =
      boundary.duplicate digests offer := by
  unfold identical duplicate
  rw [listAccepted, List.find?_filter]
  congr 2
  funext item
  simp only [EvidenceEnvelope.mark, Offer.mark, Mark.mk.injEq]
  grind

theorem consider_eq : boundary.consider digests offer =
    match boundary.duplicate digests offer with
    | some item => ((item, true), boundary)
    | none => boundary.settled digests offer (boundary.checked digests offer) := by
  rw [← identical_eq]
  unfold EvidenceBoundary.consider acceptOne
  change (match (match boundary.identical offer.context offer.ownReason offer.candidate
      (offer.mark digests).contentHash (offer.mark digests).fingerprint with
    | some item => (item, true, boundary)
    | none => _ : EvidenceEnvelope × Bool × EvidenceBoundary) with
    | (envelope, ok, next) => ((envelope, ok), next)) = _
  cases boundary.identical offer.context offer.ownReason offer.candidate
      (offer.mark digests).contentHash (offer.mark digests).fingerprint with
  | some item => rfl
  | none =>
      change (fun reason => ((offer.envelope digests reason, decide (reason = none)),
        ({ byExecution := Function.update boundary.byExecution offer.context.executionId
            (boundary.byExecution offer.context.executionId ++ [offer.envelope digests reason])
           fingerprints := if reason = none then
              Function.update boundary.fingerprints offer.context.executionId
                ((offer.mark digests).fingerprint ::
                  boundary.fingerprints offer.context.executionId)
            else boundary.fingerprints } : EvidenceBoundary))) (boundary.checked digests offer) = _
      cases boundary.checked digests offer with
      | some reason => rfl
      | none => rfl

section Stored

variable {new item : EvidenceEnvelope} {executionId : String}

theorem mem_reject : item ∈ (boundary.reject new).byExecution executionId ↔
    item ∈ boundary.byExecution executionId ∨ new.executionId = executionId ∧ item = new := by
  by_cases h : executionId = new.executionId
  · subst h
    simp [reject]
  · simp [reject, Function.update_of_ne h, Ne.symm h]

theorem mem_accept : item ∈ (boundary.accept new).byExecution executionId ↔
    item ∈ boundary.byExecution executionId ∨ new.executionId = executionId ∧ item = new := by
  by_cases h : executionId = new.executionId
  · subst h
    simp [accept]
  · simp [accept, Function.update_of_ne h, Ne.symm h]

theorem listAccepted_reject (h : new.trust ≠ .accepted) :
    (boundary.reject new).listAccepted executionId = boundary.listAccepted executionId := by
  by_cases hid : executionId = new.executionId
  · subst hid
    simp [reject, listAccepted, h]
  · simp [reject, listAccepted, Function.update_of_ne hid]

theorem listAccepted_accept (h : new.trust = .accepted) :
    (boundary.accept new).listAccepted executionId = boundary.listAccepted executionId ++
      if executionId = new.executionId then [new] else [] := by
  by_cases hid : executionId = new.executionId
  · subst hid
    simp [accept, listAccepted, h]
  · simp [accept, listAccepted, hid]

theorem mem_listAccepted : item ∈ boundary.listAccepted executionId ↔
    item ∈ boundary.byExecution executionId ∧ item.trust = .accepted := by
  simp [listAccepted]

end Stored

section Verdict

-- The reasons that the candidate and its context give by themselves.
def ownReasons (reason : EvidenceRejectionReason) : Bool :=
  reason ≠ .duplicateConflicting ∧ reason ≠ .invalidSequence

theorem ownReasons_of_claimedReason {context : CompletionContext} {candidate : CandidateEvidence}
    {reason : EvidenceRejectionReason} {given : Option EvidenceRejectionReason}
    (h : claimedReason context candidate given = some reason) :
    ownReasons reason = true ∨ given = some reason := by
  unfold claimedReason at h
  dsimp only at h
  split_ifs at h
  all_goals first | exact .inr h | exact .inl (by cases h; rfl)

theorem ownReasons_of_ownReason {reason : EvidenceRejectionReason}
    (h : offer.ownReason = some reason) : ownReasons reason = true := by
  rcases ownReasons_of_claimedReason h with hown | hintake
  · exact hown
  · unfold intakeReason at hintake
    split_ifs at hintake
    all_goals cases hintake; rfl

theorem storedReason_eq_none_iff :
    boundary.storedReason offer.context offer.candidate (offer.mark digests).contentHash = none ↔
      (∀ item ∈ boundary.byExecution offer.context.executionId,
        ¬ item.mark.Conflicts (offer.mark digests)) ∧
      ∀ item ∈ boundary.listAccepted offer.context.executionId,
        item.sequence ≤ offer.candidate.sequence := by
  unfold storedReason
  dsimp only
  split
  · rename_i hconflict
    obtain ⟨item, hitem, hmark⟩ := List.any_eq_true.mp hconflict
    simp only [reduceCtorEq, false_iff, not_and]
    exact fun hagrees => absurd (of_decide_eq_true hmark) (hagrees item hitem)
  · rename_i hconflict
    have hagrees : ∀ item ∈ boundary.byExecution offer.context.executionId,
        ¬ item.mark.Conflicts (offer.mark digests) := fun item hitem hmark =>
      hconflict (List.any_eq_true.mpr ⟨item, hitem, decide_eq_true hmark⟩)
    split
    · rename_i hsequence
      obtain ⟨item, hitem, hlt⟩ := List.any_eq_true.mp hsequence
      simp only [reduceCtorEq, false_iff, not_and]
      exact fun _ hinOrder => absurd (hinOrder item hitem) (by simpa using hlt)
    · rename_i hsequence
      refine iff_of_true rfl ⟨hagrees, fun item hitem => ?_⟩
      by_contra hlt
      exact hsequence (List.any_eq_true.mpr ⟨item, hitem, by simpa using hlt⟩)

theorem checked_eq_none_iff : boundary.checked digests offer = none ↔
    offer.ownReason = none ∧
      (∀ item ∈ boundary.byExecution offer.context.executionId,
        ¬ item.mark.Conflicts (offer.mark digests)) ∧
      ∀ item ∈ boundary.listAccepted offer.context.executionId,
        item.sequence ≤ offer.candidate.sequence := by
  rw [checked, Option.or_eq_none_iff, storedReason_eq_none_iff]

theorem duplicate_mem {item : EvidenceEnvelope} (h : boundary.duplicate digests offer = some item) :
    item ∈ boundary.listAccepted offer.context.executionId ∧ item.mark = offer.mark digests := by
  unfold duplicate at h
  split at h
  · exact ⟨List.mem_of_find?_eq_some h, by simpa using List.find?_some h⟩
  · cases h

-- Every accepted envelope is remembered by its fingerprint, and every other one
-- says why it was rejected.
structure Formed (boundary : EvidenceBoundary) : Prop where
  fingerprinted : ∀ executionId, ∀ item ∈ boundary.listAccepted executionId,
    item.mark.fingerprint ∈ boundary.fingerprints executionId
  reasoned : ∀ executionId, ∀ item ∈ boundary.byExecution executionId,
    item.trust = .accepted ∨ ∃ reason, item.rejectionReason = some reason

theorem Formed.fresh (hformed : boundary.Formed) (hown : offer.ownReason = none)
    (hduplicate : boundary.duplicate digests offer = none) :
    ∀ item ∈ boundary.listAccepted offer.context.executionId, item.mark ≠ offer.mark digests := by
  intro item hitem hmark
  have hknown := hformed.fingerprinted _ item hitem
  rw [hmark] at hknown
  rw [duplicate, if_pos ⟨hown, hknown⟩] at hduplicate
  exact absurd hmark (by simpa using List.find?_eq_none.mp hduplicate item hitem)

theorem Formed.empty : ({} : EvidenceBoundary).Formed where
  fingerprinted _ _ hitem := nomatch hitem
  reasoned _ _ hitem := nomatch hitem

theorem Formed.reject (hformed : boundary.Formed) (reason : EvidenceRejectionReason) :
    (boundary.reject (offer.envelope digests (some reason))).Formed where
  fingerprinted executionId item hitem := by
    rw [listAccepted_reject (by simp [Offer.envelope])] at hitem
    exact hformed.fingerprinted executionId item hitem
  reasoned executionId item hitem := by
    rcases mem_reject.mp hitem with hold | ⟨-, rfl⟩
    · exact hformed.reasoned executionId item hold
    · exact .inr ⟨reason, rfl⟩

theorem Formed.accept (hformed : boundary.Formed) :
    (boundary.accept (offer.envelope digests none)).Formed where
  fingerprinted executionId item hitem := by
    rw [listAccepted_accept rfl] at hitem
    by_cases hid : executionId = offer.context.executionId
    · subst hid
      rcases List.mem_append.mp hitem with hold | hnew
      · simp [EvidenceBoundary.accept, Offer.envelope, hformed.fingerprinted _ item hold]
      · obtain rfl : item = offer.envelope digests none := by simpa [Offer.envelope] using hnew
        simp [EvidenceBoundary.accept, Offer.envelope]
    · have hother : executionId ≠ (offer.envelope digests none).executionId := hid
      rw [if_neg hother, List.append_nil] at hitem
      change item.mark.fingerprint ∈ Function.update boundary.fingerprints _ _ executionId
      rw [Function.update_of_ne hother]
      exact hformed.fingerprinted executionId item hitem
  reasoned executionId item hitem := by
    rcases mem_accept.mp hitem with hold | ⟨-, rfl⟩
    · exact hformed.reasoned executionId item hold
    · exact .inl rfl

theorem Formed.taken (hformed : boundary.Formed) : (boundary.consider digests offer).2.Formed := by
  rw [consider_eq]
  cases boundary.duplicate digests offer with
  | some item => exact hformed
  | none =>
      cases boundary.checked digests offer with
      | some reason => exact hformed.reject reason
      | none => exact hformed.accept

end Verdict

section Thinned

variable {reasons : EvidenceRejectionReason → Bool} {thinned : EvidenceBoundary}

-- The boundary that the rejected candidates never came to: what it accepted is
-- the same, and what it rejected was rejected here for a reason that is kept.
structure Thinned (reasons : EvidenceRejectionReason → Bool)
    (boundary thinned : EvidenceBoundary) : Prop where
  accepted : ∀ executionId, thinned.listAccepted executionId = boundary.listAccepted executionId
  fingerprints : thinned.fingerprints = boundary.fingerprints
  fewer : ∀ executionId, ∀ item ∈ thinned.byExecution executionId,
    ∃ other ∈ boundary.byExecution executionId, other.mark = item.mark ∧
      (other.trust = .accepted ∨ other.rejectionReason.any reasons = false)

theorem Thinned.refl (reasons : EvidenceRejectionReason → Bool) : Thinned reasons {} {} where
  accepted _ := rfl
  fingerprints := rfl
  fewer _ _ hitem := nomatch hitem

theorem Thinned.duplicate (h : Thinned reasons boundary thinned) :
    thinned.duplicate digests offer = boundary.duplicate digests offer := by
  rw [EvidenceBoundary.duplicate, EvidenceBoundary.duplicate, h.accepted, h.fingerprints]

-- What is accepted beside the rejected envelopes is accepted without them.
theorem Thinned.checked_none (h : Thinned reasons boundary thinned)
    (hchecked : boundary.checked digests offer = none) : thinned.checked digests offer = none := by
  obtain ⟨hown, hagrees, hinOrder⟩ := checked_eq_none_iff.mp hchecked
  refine checked_eq_none_iff.mpr ⟨hown, ?_, h.accepted _ ▸ hinOrder⟩
  intro item hitem
  obtain ⟨other, hother, hmark, -⟩ := h.fewer _ item hitem
  exact hmark ▸ hagrees other hother

-- What is rejected is rejected without the rejected envelopes too, unless it is
-- one of those that a rejected envelope disturbs.
theorem Thinned.checked_some (h : Thinned reasons boundary thinned) (hformed : boundary.Formed)
    (hpoison : ¬ offer.Poisoned digests boundary)
    (hduplicate : boundary.duplicate digests offer = none)
    (hchecked : thinned.checked digests offer = none) : boundary.checked digests offer = none := by
  obtain ⟨hown, hagrees, hinOrder⟩ := checked_eq_none_iff.mp hchecked
  rw [h.accepted] at hinOrder
  refine checked_eq_none_iff.mpr ⟨hown, fun item hitem hconflict => hpoison ?_, hinOrder⟩
  refine ⟨hown, hformed.fresh hown hduplicate, fun item hitem => ?_, hinOrder,
    ⟨item, hitem, hconflict⟩⟩
  rw [← h.accepted] at hitem
  exact hagrees item (mem_listAccepted.mp hitem).1

theorem Thinned.deleted (h : Thinned reasons boundary thinned) (reason : EvidenceRejectionReason) :
    Thinned reasons (boundary.reject (offer.envelope digests (some reason))) thinned where
  accepted executionId := by
    rw [listAccepted_reject (by simp [Offer.envelope]), h.accepted]
  fingerprints := h.fingerprints
  fewer executionId item hitem := by
    obtain ⟨other, hother, hmark⟩ := h.fewer executionId item hitem
    exact ⟨other, mem_reject.mpr (.inl hother), hmark⟩

theorem Thinned.rejected (h : Thinned reasons boundary thinned) {reason : EvidenceRejectionReason}
    (hkept : reasons reason = false) (other : EvidenceRejectionReason) :
    Thinned reasons (boundary.reject (offer.envelope digests (some reason)))
      (thinned.reject (offer.envelope digests (some other))) where
  accepted executionId := by
    rw [listAccepted_reject (by simp [Offer.envelope]), listAccepted_reject (by simp [Offer.envelope]),
      h.accepted]
  fingerprints := h.fingerprints
  fewer executionId item hitem := by
    rcases mem_reject.mp hitem with hold | ⟨hid, rfl⟩
    · obtain ⟨other, hother, hmark⟩ := h.fewer executionId item hold
      exact ⟨other, mem_reject.mpr (.inl hother), hmark⟩
    · exact ⟨_, mem_reject.mpr (.inr ⟨hid, rfl⟩), rfl, .inr hkept⟩

theorem Thinned.accept (h : Thinned reasons boundary thinned) :
    Thinned reasons (boundary.accept (offer.envelope digests none))
      (thinned.accept (offer.envelope digests none)) where
  accepted executionId := by
    rw [listAccepted_accept rfl, listAccepted_accept rfl, h.accepted]
  fingerprints := by
    simp only [EvidenceBoundary.accept, h.fingerprints]
  fewer executionId item hitem := by
    rcases mem_accept.mp hitem with hold | ⟨hid, rfl⟩
    · obtain ⟨other, hother, hmark⟩ := h.fewer executionId item hold
      exact ⟨other, mem_accept.mpr (.inl hother), hmark⟩
    · exact ⟨_, mem_accept.mpr (.inr ⟨hid, rfl⟩), rfl, .inl rfl⟩

-- One candidate: it is deleted, or both boundaries give the same verdict on it.
theorem Thinned.step (digests : Digests) (h : Thinned reasons boundary thinned) (hformed : boundary.Formed)
    (hpoison : ¬ offer.Poisoned digests boundary) :
    let ((envelope, ok), next) := boundary.consider digests offer
    if !ok && envelope.rejectionReason.any reasons then Thinned reasons next thinned
    else (ok = true → (thinned.consider digests offer).1 = (envelope, true)) ∧
      (ok = false → (thinned.consider digests offer).1.2 = false) ∧
      Thinned reasons next (thinned.consider digests offer).2 := by
  rw [consider_eq, consider_eq, h.duplicate]
  cases hduplicate : boundary.duplicate digests offer with
  | some item => exact ⟨fun _ => rfl, fun hok => (nomatch hok), h⟩
  | none =>
      dsimp only
      cases hchecked : boundary.checked digests offer with
      | none =>
          rw [h.checked_none hchecked]
          exact ⟨fun _ => rfl, fun hok => (nomatch hok), h.accept⟩
      | some reason =>
          cases hother : thinned.checked digests offer with
          | none =>
              have hnone := h.checked_some hformed hpoison hduplicate hother
              rw [hchecked] at hnone
              cases hnone
          | some other =>
              cases hkept : reasons reason with
              | true => simpa [settled, Offer.envelope, hkept] using h.deleted reason
              | false =>
                  simpa [settled, Offer.envelope, hkept] using h.rejected hkept other

end Thinned

section Runs

variable {reasons : EvidenceRejectionReason → Bool} {thinned : EvidenceBoundary}
  {offers : List Offer} {batches : List Batch}

def acceptedOf (digests : Digests) (boundary : EvidenceBoundary) (offers : List Offer) :
    List EvidenceEnvelope :=
  ((responses (consider digests) boundary offers).filter (·.2)).map (·.1)

theorem acceptedOf_cons : acceptedOf digests boundary (offer :: offers) =
    (if (boundary.consider digests offer).1.2 then [(boundary.consider digests offer).1.1] else []) ++
      acceptedOf digests (boundary.consider digests offer).2 offers := by
  unfold acceptedOf
  rw [responses]
  cases h : (boundary.consider digests offer).1.2 <;> simp [h]

theorem take_boundary (batch : Batch) (candidate : CandidateEvidence) (intake : Intake) :
    (intake.take digests batch.context batch.lifecycleState batch.sourceBackend
      batch.sourceHarness candidate).boundary =
      (intake.boundary.consider digests (batch.offer candidate)).2 := by
  unfold Intake.take EvidenceBoundary.consider
  dsimp only [Batch.offer]
  split <;> rfl

theorem foldl_take (digests : Digests) (batch : Batch) (candidates : List CandidateEvidence) (intake : Intake) :
    let after := candidates.foldl (Intake.take digests batch.context batch.lifecycleState
      batch.sourceBackend batch.sourceHarness) intake
    let offers := candidates.map batch.offer
    after.accepted = intake.accepted ++ acceptedOf digests intake.boundary offers ∧
      after.boundary = play (consider digests) intake.boundary offers := by
  induction candidates generalizing intake with
  | nil => exact ⟨(List.append_nil _).symm, rfl⟩
  | cons candidate candidates ih =>
      obtain ⟨haccepted, hboundary⟩ := ih
        (intake.take digests batch.context batch.lifecycleState batch.sourceBackend
          batch.sourceHarness candidate)
      have hmore : (intake.take digests batch.context batch.lifecycleState batch.sourceBackend
          batch.sourceHarness candidate).accepted = intake.accepted ++
            if (intake.boundary.consider digests (batch.offer candidate)).1.2 then
              [(intake.boundary.consider digests (batch.offer candidate)).1.1] else [] := by
        unfold Intake.take EvidenceBoundary.consider
        dsimp only [Batch.offer]
        split <;> simp_all
      rw [take_boundary] at haccepted hboundary
      refine ⟨?_, hboundary⟩
      rw [List.foldl_cons, haccepted, hmore, List.map_cons, acceptedOf_cons, List.append_assoc]

theorem take_eq (batch : Batch) : boundary.take digests batch =
    (acceptedOf digests boundary batch.offers, play (consider digests) boundary batch.offers) := by
  obtain ⟨haccepted, hboundary⟩ :=
    foldl_take digests batch batch.candidates { boundary }
  exact Prod.ext (haccepted.trans (List.nil_append _)) hboundary

theorem play_take : play (take digests) boundary batches =
    play (consider digests) boundary (batches.flatMap Batch.offers) := by
  induction batches generalizing boundary with
  | nil => rfl
  | cons batch batches ih =>
      rw [List.flatMap_cons, play_append, play, ih, take_eq]

theorem retained_sublist : List.Sublist (boundary.retained digests reasons offers) offers := by
  induction offers generalizing boundary with
  | nil => exact .slnil
  | cons offer offers ih =>
      rw [retained]
      dsimp only
      split
      · exact .cons _ ih
      · exact .cons_cons _ ih

-- A batch whose candidates are thinned out offers what is retained.
theorem offers_retained (batch : Batch) :
    Batch.offers { batch with
      candidates := (boundary.retained digests reasons batch.offers).map (·.candidate) } =
      boundary.retained digests reasons batch.offers := by
  have hsame : ∀ offer ∈ boundary.retained digests reasons batch.offers,
      batch.offer offer.candidate = offer := by
    intro offer hoffer
    obtain ⟨candidate, -, rfl⟩ := List.mem_map.mp (retained_sublist.subset hoffer)
    rfl
  change ((boundary.retained digests reasons batch.offers).map (·.candidate)).map batch.offer = _
  rw [List.map_map]
  exact (List.map_congr_left hsame).trans (List.map_id _)

theorem Formed.play (hformed : boundary.Formed) :
    (Library.play (EvidenceBoundary.consider digests) boundary offers).Formed :=
  play_invariant (fun _ _ => Formed.taken) hformed

theorem Thinned.run (h : Thinned reasons boundary thinned) (hformed : boundary.Formed)
    (hclean : PlayAlong (EvidenceBoundary.consider digests)
      (fun boundary offer => ¬ offer.Poisoned digests boundary) boundary offers) :
    acceptedOf digests thinned (boundary.retained digests reasons offers) =
        acceptedOf digests boundary offers ∧
      Thinned reasons (play (EvidenceBoundary.consider digests) boundary offers)
        (play (EvidenceBoundary.consider digests) thinned
          (boundary.retained digests reasons offers)) := by
  induction offers generalizing boundary thinned with
  | nil => exact ⟨rfl, h⟩
  | cons offer offers ih =>
      have hstep := h.step digests hformed hclean.1
      dsimp only at hstep
      rw [retained, acceptedOf_cons]
      dsimp only
      split at hstep
      · rename_i hdeleted
        obtain ⟨hok, -⟩ : (boundary.consider digests offer).1.2 = false ∧ _ := by
          simpa using hdeleted
        rw [if_pos hdeleted, hok]
        exact ih hstep hformed.taken hclean.2
      · rename_i hkept
        obtain ⟨haccepted, hrejected, hnext⟩ := hstep
        obtain ⟨hsame, hafter⟩ := ih hnext hformed.taken hclean.2
        rw [if_neg hkept, acceptedOf_cons, hsame]
        refine ⟨?_, hafter⟩
        cases hok : (boundary.consider digests offer).1.2 with
        | true => rw [haccepted hok]
        | false => rw [hrejected hok]; rfl

theorem Thinned.run_batches (h : Thinned reasons boundary thinned) (hformed : boundary.Formed)
    (hclean : PlayAlong (consider digests) (fun boundary offer => ¬ offer.Poisoned digests boundary)
      boundary (batches.flatMap Batch.offers)) :
    responses (take digests) thinned (withoutRejected digests reasons boundary batches) =
        responses (take digests) boundary batches ∧
      Thinned reasons (play (take digests) boundary batches)
        (play (take digests) thinned (withoutRejected digests reasons boundary batches)) := by
  induction batches generalizing boundary thinned with
  | nil => exact ⟨rfl, h⟩
  | cons batch batches ih =>
      rw [List.flatMap_cons] at hclean
      obtain ⟨hfirst, hrest⟩ := hclean.append
      obtain ⟨hsame, hthinned⟩ := h.run hformed hfirst
      obtain ⟨hresponses, hafter⟩ := ih hthinned hformed.play hrest
      rw [withoutRejected, responses, responses, play, play, take_eq, take_eq, offers_retained]
      exact ⟨by rw [hsame, hresponses], hafter⟩

-- The offers of the thinned batches are what is retained of all offers.
theorem offers_withoutRejected :
    (withoutRejected digests reasons boundary batches).flatMap Batch.offers =
      boundary.retained digests reasons (batches.flatMap Batch.offers) := by
  have happend : ∀ (boundary : EvidenceBoundary) (first second : List Offer),
      boundary.retained digests reasons (first ++ second) =
        boundary.retained digests reasons first ++
          (play (consider digests) boundary first).retained digests reasons second := by
    intro boundary first second
    induction first generalizing boundary with
    | nil => rfl
    | cons offer first ih =>
        rw [List.cons_append, retained, retained, play]
        dsimp only
        rw [ih]
        split <;> rfl
  induction batches generalizing boundary with
  | nil => rfl
  | cons batch batches ih =>
      rw [withoutRejected, List.flatMap_cons, List.flatMap_cons, offers_retained, happend, ih,
        take_eq]

end Runs

section Disturbed

variable {thinned : EvidenceBoundary} {offers : List Offer} {mark : Mark} {executionId : String}

theorem mem_listAccepted_consider {item : EvidenceEnvelope}
    (h : item ∈ boundary.listAccepted executionId) :
    item ∈ (boundary.consider digests offer).2.listAccepted executionId := by
  rw [consider_eq]
  cases boundary.duplicate digests offer with
  | some _ => exact h
  | none =>
      cases boundary.checked digests offer with
      | some reason =>
          simp only [settled]
          rwa [listAccepted_reject (by simp [Offer.envelope])]
      | none =>
          simp only [settled]
          rw [listAccepted_accept rfl]
          exact List.mem_append_left _ h

-- What was rejected for a stored envelope's sake is at odds with an accepted one.
def Covered (boundary : EvidenceBoundary) : Prop :=
  ∀ executionId, ∀ item ∈ boundary.byExecution executionId, item.trust ≠ .accepted →
    item.rejectionReason.any ownReasons = false →
      ∃ other ∈ boundary.listAccepted executionId,
        other.mark.Conflicts item.mark ∨ item.sequence < other.sequence

theorem Formed.covers (hformed : boundary.Formed) (hpoison : ¬ offer.Poisoned digests boundary)
    (hown : offer.ownReason = none) (hduplicate : boundary.duplicate digests offer = none)
    (hchecked : boundary.checked digests offer ≠ none) :
    ∃ other ∈ boundary.listAccepted offer.context.executionId,
      other.mark.Conflicts (offer.mark digests) ∨ offer.candidate.sequence < other.sequence := by
  by_contra hodds
  push Not at hodds
  have hagrees := fun item hitem => (hodds item hitem).1
  have hinOrder := fun item hitem => (hodds item hitem).2
  refine hchecked (checked_eq_none_iff.mpr ⟨hown, fun item hitem hconflict => hpoison ?_, hinOrder⟩)
  exact ⟨hown, hformed.fresh hown hduplicate, hagrees, hinOrder, item, hitem, hconflict⟩

theorem Covered.step (hcovered : boundary.Covered) (hformed : boundary.Formed)
    (hpoison : ¬ offer.Poisoned digests boundary) :
    (boundary.consider digests offer).2.Covered := by
  intro executionId item hitem htrust hstored
  by_cases hold : item ∈ boundary.byExecution executionId
  · obtain ⟨other, hother, hodds⟩ := hcovered executionId item hold htrust hstored
    exact ⟨other, mem_listAccepted_consider hother, hodds⟩
  · rw [consider_eq] at hitem ⊢
    cases hduplicate : boundary.duplicate digests offer with
    | some duplicate =>
        rw [hduplicate] at hitem
        exact absurd hitem hold
    | none =>
        rw [hduplicate] at hitem
        cases hchecked : boundary.checked digests offer with
        | none =>
            rw [hchecked] at hitem
            rcases mem_accept.mp hitem with hmem | ⟨-, rfl⟩
            · exact absurd hmem hold
            · exact absurd rfl htrust
        | some reason =>
            rw [hchecked] at hitem
            rcases mem_reject.mp hitem with hmem | ⟨hid, rfl⟩
            · exact absurd hmem hold
            · obtain rfl : offer.context.executionId = executionId := hid
              have hown : offer.ownReason = none := by
                cases hreason : offer.ownReason with
                | none => rfl
                | some own =>
                    have : reason = own := by
                      simpa [checked, hreason] using hchecked.symm
                    subst this
                    rw [Offer.envelope, Option.any_some, ownReasons_of_ownReason hreason] at hstored
                    cases hstored
              obtain ⟨other, hother, hodds⟩ :=
                hformed.covers hpoison hown hduplicate (by simp [hchecked])
              refine ⟨other, ?_, hodds⟩
              simp only [settled]
              rwa [listAccepted_reject (by simp [Offer.envelope])]

-- A candidate that a rejected envelope disturbs is accepted without it.
theorem accepted_of_poisoned (hpoison : offer.Poisoned digests boundary)
    (hthinned : Thinned ownReasons boundary thinned)
    (hcovered : boundary.Covered) :
    thinned.consider digests offer =
      ((offer.envelope digests none, true), thinned.accept (offer.envelope digests none)) := by
  have hduplicate : thinned.duplicate digests offer = none := by
    rw [hthinned.duplicate]
    cases hduplicate : boundary.duplicate digests offer with
    | none => rfl
    | some item =>
        obtain ⟨hitem, hmark⟩ := duplicate_mem hduplicate
        exact absurd hmark (hpoison.fresh item hitem)
  have hchecked : thinned.checked digests offer = none := by
    refine checked_eq_none_iff.mpr ⟨hpoison.own, fun item hitem hconflict => ?_,
      hthinned.accepted _ ▸ hpoison.inOrder⟩
    obtain ⟨other, hother, hmark, hkept⟩ := hthinned.fewer _ item hitem
    rw [← hmark] at hconflict
    by_cases htrust : other.trust = .accepted
    · exact hpoison.agrees other (mem_listAccepted.mpr ⟨hother, htrust⟩) hconflict
    · obtain ⟨known, hknown, hodds⟩ :=
        hcovered _ other hother htrust (hkept.resolve_left htrust)
      have hinOrder := hpoison.inOrder known hknown
      have hagrees := hpoison.agrees known hknown
      have hfresh := hpoison.fresh known hknown
      obtain ⟨hsequence, htype, -, hnonempty, -⟩ := hconflict
      rcases hodds with hconflict | hlt
      · -- one place in the sequence and three contents, two of them accepted
        obtain ⟨hsequence', htype', hnonempty', -, -⟩ := hconflict
        have hplace := hsequence'.trans hsequence
        have hkind := htype'.trans htype
        by_cases hcontent : known.mark.contentHash = (offer.mark digests).contentHash
        · exact hfresh (Mark.ext hplace hkind hcontent)
        · exact hagrees ⟨hplace, hkind, hnonempty', hnonempty, hcontent⟩
      · change other.sequence = offer.candidate.sequence at hsequence
        omega
  rw [consider_eq, hduplicate, hchecked]
  rfl

-- No candidate with this mark is accepted any more.
def Barred (boundary : EvidenceBoundary) (executionId : String) (mark : Mark) : Prop :=
  (∃ item ∈ boundary.byExecution executionId, item.mark.Conflicts mark) ∧
    ∀ item ∈ boundary.listAccepted executionId, item.mark ≠ mark

theorem Barred.step (hbarred : boundary.Barred executionId (mark)) :
    (boundary.consider digests offer).2.Barred executionId mark := by
  obtain ⟨⟨item, hitem, hconflict⟩, hfresh⟩ := hbarred
  rw [consider_eq]
  cases boundary.duplicate digests offer with
  | some duplicate => exact ⟨⟨item, hitem, hconflict⟩, hfresh⟩
  | none =>
      cases hchecked : boundary.checked digests offer with
      | some reason =>
          refine ⟨⟨item, mem_reject.mpr (.inl hitem), hconflict⟩, ?_⟩
          simp only [settled]
          rwa [listAccepted_reject (by simp [Offer.envelope])]
      | none =>
          refine ⟨⟨item, mem_accept.mpr (.inl hitem), hconflict⟩, fun accepted haccepted => ?_⟩
          obtain ⟨hmem, htrust⟩ := mem_listAccepted.mp haccepted
          rcases mem_accept.mp hmem with hold | ⟨hid, rfl⟩
          · exact hfresh accepted (mem_listAccepted.mpr ⟨hold, htrust⟩)
          · rintro rfl
            obtain rfl : offer.context.executionId = executionId := hid
            exact (checked_eq_none_iff.mp hchecked).2.1 item hitem hconflict

theorem barred_of_poisoned (hpoison : offer.Poisoned digests boundary) :
    boundary.Barred offer.context.executionId (offer.mark digests) :=
  ⟨hpoison.disturbed, hpoison.fresh⟩

-- The disturbed candidate itself is not deleted: it is rejected as conflicting.
theorem retained_of_poisoned (hpoison : offer.Poisoned digests boundary) :
    boundary.retained digests ownReasons (offer :: offers) =
      offer :: (boundary.consider digests offer).2.retained digests ownReasons offers := by
  have hduplicate : boundary.duplicate digests offer = none := by
    cases hduplicate : boundary.duplicate digests offer with
    | none => rfl
    | some item =>
        obtain ⟨hitem, hmark⟩ := duplicate_mem hduplicate
        exact absurd hmark (hpoison.fresh item hitem)
  have hchecked : boundary.checked digests offer = some .duplicateConflicting := by
    obtain ⟨item, hitem, hconflict⟩ := hpoison.disturbed
    rw [checked, hpoison.own, Option.none_or, storedReason, if_pos]
    exact List.any_eq_true.mpr ⟨item, hitem, decide_eq_true hconflict⟩
  rw [EvidenceBoundary.retained, consider_eq, hduplicate, hchecked]
  rfl

-- Where the accepted evidence is the same in the end, nothing was disturbed.
theorem Thinned.undisturbed (hthinned : Thinned ownReasons boundary thinned)
    (hformed : boundary.Formed) (hcovered : boundary.Covered)
    (hsame : ∀ executionId,
      (play (consider digests) thinned (boundary.retained digests ownReasons offers)).listAccepted
        executionId = (play (consider digests) boundary offers).listAccepted executionId) :
    PlayAlong (consider digests) (fun boundary offer => ¬ offer.Poisoned digests boundary) boundary
      offers := by
  induction offers generalizing boundary thinned with
  | nil => trivial
  | cons offer offers ih =>
      by_cases hpoison : offer.Poisoned digests boundary
      · have hstep : ∀ (boundary : EvidenceBoundary) (other : Offer),
            boundary.Barred offer.context.executionId (offer.mark digests) →
            (boundary.consider digests other).2.Barred offer.context.executionId
              (offer.mark digests) := fun _ _ => Barred.step
        have hbarred : (play (consider digests) boundary (offer :: offers)).Barred
            offer.context.executionId (offer.mark digests) :=
          play_invariant hstep (barred_of_poisoned hpoison)
        have hkeep : ∀ (boundary : EvidenceBoundary) (other : Offer),
            offer.envelope digests none ∈ boundary.listAccepted offer.context.executionId →
            offer.envelope digests none ∈
              (boundary.consider digests other).2.listAccepted offer.context.executionId :=
          fun _ _ => mem_listAccepted_consider
        have hlisted : offer.envelope digests none ∈
            (play (consider digests) thinned (boundary.retained digests ownReasons
              (offer :: offers))).listAccepted offer.context.executionId := by
          rw [retained_of_poisoned hpoison, play, accepted_of_poisoned hpoison hthinned hcovered]
          refine play_invariant hkeep ?_
          have hid : offer.context.executionId = (offer.envelope digests none).executionId := rfl
          rw [listAccepted_accept rfl, if_pos hid]
          exact List.mem_append_right _ (List.mem_singleton_self _)
        rw [hsame] at hlisted
        exact absurd rfl (hbarred.2 _ hlisted)
      · refine ⟨hpoison, ?_⟩
        have hstep := hthinned.step digests hformed hpoison
        rw [EvidenceBoundary.retained, play] at hsame
        dsimp only at hsame hstep
        split at hstep
        · rename_i hdeleted
          rw [if_pos hdeleted] at hsame
          exact ih hstep hformed.taken (hcovered.step hformed hpoison) hsame
        · rename_i hkept
          rw [if_neg hkept] at hsame
          exact ih hstep.2.2 hformed.taken (hcovered.step hformed hpoison) hsame

end Disturbed


-- The candidates that were rejected have no influence, whatever the reasons are
-- for which they are deleted, exactly when no rejected envelope disturbs a
-- candidate that agrees with the accepted ones.
theorem rejected_uninfluential_iff (digests : Digests) (batches : List Batch) :
    (∀ reasons, Unaffected digests batches reasons) ↔
      PlayAlong (consider digests) (fun boundary offer => ¬ offer.Poisoned digests boundary) {}
        (batches.flatMap Batch.offers) := by
  constructor
  · intro h
    have hsame := (h ownReasons).2
    rw [play_take, play_take, offers_withoutRejected] at hsame
    exact (Thinned.refl ownReasons).undisturbed .empty (fun _ _ hitem => nomatch hitem) hsame
  · intro hclean reasons
    obtain ⟨hresponses, hthinned⟩ := (Thinned.refl reasons).run_batches .empty hclean
    exact ⟨hresponses, hthinned.accepted⟩

section Sample

def sampleDigests : Digests where
  hashPayload _ := "digest"
  redactSecrets text := text

def evidenceContext : CompletionContext where
  organisationId := none
  projectId := none
  missionId := "m"
  executionId := "e"
  attemptId := "a"
  authoritativeAttemptId := "a"
  backendId := "joymesh"
  harnessId := none

def evidenceBatch (provenance : Mapping) (contentHash : String) : Batch where
  context := evidenceContext
  lifecycleState := .evidencePending
  sourceBackend := "joymesh"
  sourceHarness := none
  candidates := [{
    evidenceType := "backend_output"
    contentHash := some contentHash
    sequence := 1
    provenance
    evidenceId := "evidence_" ++ contentHash }]

-- The first candidate is one of another execution.
def foreignFirst : List Batch :=
  [evidenceBatch (.ofList [("execution_id", .str "other")]) "foreign",
    evidenceBatch (.ofList [("execution_id", .str "e")]) "genuine"]

end Sample

theorem foreign_disturbs : ¬ ∀ (digests : Digests) (batches : List Batch)
    (reasons : EvidenceRejectionReason → Bool), Unaffected digests batches reasons := by
  intro h
  have hcounts := congrArg (List.map List.length) (h sampleDigests foreignFirst ownReasons).1
  revert hcounts
  decide +kernel

end EvidenceBoundary

end JoyMesh.Completion
