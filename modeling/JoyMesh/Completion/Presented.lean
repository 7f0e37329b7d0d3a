import JoyMesh.Completion.Rejected

namespace JoyMesh.Completion

open Library

-- A batch holds candidates or the mappings that they are read from.
inductive RawEvidence where
  | candidate (candidate : CandidateEvidence)
  | items (raw : Mapping)

namespace Readings

variable (readings : Readings) (digests : Digests)

def candidateOf : RawEvidence → Except String CandidateEvidence
  | .candidate candidate => .ok candidate
  | .items raw => do
      let sizeBytes ← readings.int (raw.get "size_bytes")
      let sequence ← readings.int (raw.get "sequence")
      let provenance ← readings.mapping (raw.get "provenance")
      let payload ← readings.mapping (raw.get "payload")
      return {
        evidenceType := textOr (raw.get "evidence_type") "unknown"
        contentRef := (raw.get "content_ref").asStr
        contentHash := (raw.get "content_hash").asStr
        sizeBytes, sequence, provenance
        payload := redactPayload digests.redactSecrets payload
        evidenceId := textOr (raw.get "evidence_id")
          ("evidence_" ++ textOr (raw.get "sequence") "0") }

-- The candidates up to the first mapping that cannot be read.
def readable : List RawEvidence → Option String × List CandidateEvidence
  | [] => (none, [])
  | raw :: raws =>
      match readings.candidateOf digests raw with
      | .error type => (some type, [])
      | .ok candidate =>
          let (raised, candidates) := readable raws
          (raised, candidate :: candidates)

end Readings

structure Presentation where
  context : CompletionContext
  lifecycleState : CompletionLifecycleState
  sourceBackend : String
  sourceHarness : Option String
  candidates : List RawEvidence

namespace EvidenceBoundary

variable (readings : Readings) (digests : Digests)

-- The loop over a batch. What was stored before a mapping that cannot be read
-- stays stored.
def intakeAll (context : CompletionContext) (lifecycleState : CompletionLifecycleState)
    (sourceBackend : String) (sourceHarness : Option String) :
    List RawEvidence → Intake → Option String × Intake
  | [], intake => (none, intake)
  | raw :: raws, intake =>
      match readings.candidateOf digests raw with
      | .error type => (some type, intake)
      | .ok candidate =>
          intakeAll context lifecycleState sourceBackend sourceHarness raws
            (intake.take digests context lifecycleState sourceBackend sourceHarness candidate)

def present (boundary : EvidenceBoundary) (batch : Presentation) :
    Except String (List EvidenceEnvelope × List EvidenceEnvelope) × EvidenceBoundary :=
  match intakeAll readings digests batch.context batch.lifecycleState batch.sourceBackend
      batch.sourceHarness batch.candidates { boundary } with
  | (some type, intake) => (.error type, intake.boundary)
  | (none, intake) => (.ok (intake.accepted, intake.rejected), intake.boundary)

end EvidenceBoundary

-- The contexts of one attempt: they agree in all that the intake reads of them.
structure CompletionContext.SameAttempt (first second : CompletionContext) : Prop where
  organisationId : first.organisationId = second.organisationId
  projectId : first.projectId = second.projectId
  missionId : first.missionId = second.missionId
  executionId : first.executionId = second.executionId
  attemptId : first.attemptId = second.attemptId
  authoritativeAttemptId : first.authoritativeAttemptId = second.authoritativeAttemptId
  cancelled : first.cancelled = second.cancelled
  maxEvidenceBytes : first.maxEvidenceBytes = second.maxEvidenceBytes

namespace Presentation

variable (readings : Readings) (digests : Digests)

-- What a batch offers to the boundary before its reading fails.
def read (batch : Presentation) : Batch where
  context := batch.context
  lifecycleState := batch.lifecycleState
  sourceBackend := batch.sourceBackend
  sourceHarness := batch.sourceHarness
  candidates := (readings.readable digests batch.candidates).2

-- The same candidates again for the same attempt, in a state that is not terminal.
structure Repeats (first again : Presentation) : Prop where
  candidates : again.candidates = first.candidates
  context : first.context.SameAttempt again.context
  live : again.lifecycleState ∉ terminalCompletionStates

end Presentation

namespace EvidenceBoundary

section Reading

variable {readings : Readings} {digests : Digests} {boundary : EvidenceBoundary}

theorem intakeAll_eq {context : CompletionContext} {lifecycleState : CompletionLifecycleState}
    {sourceBackend : String} {sourceHarness : Option String} {raws : List RawEvidence}
    {intake : Intake} :
    intakeAll readings digests context lifecycleState sourceBackend sourceHarness raws intake =
      ((readings.readable digests raws).1,
        (readings.readable digests raws).2.foldl
          (Intake.take digests context lifecycleState sourceBackend sourceHarness) intake) := by
  induction raws generalizing intake with
  | nil => rfl
  | cons raw raws ih =>
      rw [intakeAll, Readings.readable]
      cases readings.candidateOf digests raw with
      | error type => rfl
      | ok candidate => exact ih

-- The rejected tuple holds the envelopes of the candidates that were not accepted.
theorem foldl_take_rejected (digests : Digests) (batch : Batch) (candidates : List CandidateEvidence)
    (intake : Intake) :
    (candidates.foldl (Intake.take digests batch.context batch.lifecycleState
      batch.sourceBackend batch.sourceHarness) intake).rejected = intake.rejected ++
      ((responses (consider digests) intake.boundary (candidates.map batch.offer)).filter
        (!·.2)).map (·.1) := by
  induction candidates generalizing intake with
  | nil => exact (List.append_nil _).symm
  | cons candidate candidates ih =>
      have hmore : (intake.take digests batch.context batch.lifecycleState batch.sourceBackend
          batch.sourceHarness candidate).rejected = intake.rejected ++
            if (intake.boundary.consider digests (batch.offer candidate)).1.2 then []
            else [(intake.boundary.consider digests (batch.offer candidate)).1.1] := by
        unfold Intake.take EvidenceBoundary.consider
        dsimp only [Batch.offer]
        split <;> simp_all
      rw [List.foldl_cons, ih, take_boundary, hmore, List.map_cons, responses, List.append_assoc]
      cases hok : (intake.boundary.consider digests (batch.offer candidate)).1.2 <;> simp [hok]

theorem present_eq {batch : Presentation} : boundary.present readings digests batch =
    (match (readings.readable digests batch.candidates).1 with
      | some type => .error type
      | none => .ok (acceptedOf digests boundary (batch.read readings digests).offers,
          ((responses (consider digests) boundary (batch.read readings digests).offers).filter
            (!·.2)).map (·.1)),
      play (consider digests) boundary (batch.read readings digests).offers) := by
  have htake := foldl_take digests (batch.read readings digests)
    (readings.readable digests batch.candidates).2 { boundary }
  have hrejected := foldl_take_rejected digests (batch.read readings digests)
    (readings.readable digests batch.candidates).2 { boundary }
  obtain ⟨haccepted, hboundary⟩ := htake
  unfold present
  rw [intakeAll_eq]
  cases (readings.readable digests batch.candidates).1 with
  | some type => exact Prod.ext rfl hboundary
  | none =>
      refine Prod.ext ?_ hboundary
      have hpair := congrArg₂ Prod.mk (haccepted.trans (List.nil_append _))
        (hrejected.trans (List.nil_append _))
      exact congrArg Except.ok hpair

theorem play_present {batches : List Presentation} :
    play (present readings digests) boundary batches =
      play (consider digests) boundary
        (batches.flatMap fun batch => (batch.read readings digests).offers) := by
  induction batches generalizing boundary with
  | nil => rfl
  | cons batch batches ih => rw [List.flatMap_cons, play_append, play, ih, present_eq]

end Reading

section Sequenced

theorem conflicts_symm {first second : Mark} (h : first.Conflicts second) :
    second.Conflicts first :=
  ⟨h.1.symm, h.2.1.symm, h.2.2.2.1, h.2.2.1, h.2.2.2.2.symm⟩

instance : Std.Symm fun first second : EvidenceEnvelope => ¬first.mark.Conflicts second.mark :=
  ⟨fun _ _ hclear hconflict => hclear (conflicts_symm hconflict)⟩

variable {digests : Digests} {boundary : EvidenceBoundary} {offer : Offer}

structure Sequenced (boundary : EvidenceBoundary) : Prop where
  hashed : ∀ executionId, ∀ item ∈ boundary.byExecution executionId, item.contentHash ≠ ""
  inOrder : ∀ executionId,
    (boundary.listAccepted executionId).Pairwise fun first second => first.sequence ≤ second.sequence
  agrees : ∀ executionId, (boundary.listAccepted executionId).Pairwise fun first second =>
    ¬first.mark.Conflicts second.mark

theorem Sequenced.empty : ({} : EvidenceBoundary).Sequenced where
  hashed _ _ hitem := nomatch hitem
  inOrder _ := .nil
  agrees _ := .nil

theorem mark_hashed (hdigest : ∀ payload, digests.hashPayload payload ≠ "") :
    (offer.mark digests).contentHash ≠ "" := by
  unfold Offer.mark
  cases hgiven : offer.candidate.contentHash.filter (· ≠ "") with
  | none => exact hdigest _
  | some given =>
      have hne := (Option.filter_eq_some_iff.mp hgiven).2
      simpa [hgiven] using hne

theorem Sequenced.reject (hsequenced : boundary.Sequenced)
    (hdigest : ∀ payload, digests.hashPayload payload ≠ "") (reason : EvidenceRejectionReason) :
    (boundary.reject (offer.envelope digests (some reason))).Sequenced where
  hashed executionId item hitem := by
    rcases mem_reject.mp hitem with hold | ⟨-, rfl⟩
    · exact hsequenced.hashed executionId item hold
    · exact mark_hashed hdigest
  inOrder executionId := by
    rw [listAccepted_reject (by simp [Offer.envelope])]
    exact hsequenced.inOrder executionId
  agrees executionId := by
    rw [listAccepted_reject (by simp [Offer.envelope])]
    exact hsequenced.agrees executionId

-- Whoever is accepted comes last in the sequence and in no conflict.
theorem Sequenced.accept (hsequenced : boundary.Sequenced)
    (hdigest : ∀ payload, digests.hashPayload payload ≠ "")
    (hchecked : boundary.checked digests offer = none) :
    (boundary.accept (offer.envelope digests none)).Sequenced where
  hashed executionId item hitem := by
    rcases mem_accept.mp hitem with hold | ⟨-, rfl⟩
    · exact hsequenced.hashed executionId item hold
    · exact mark_hashed hdigest
  inOrder executionId := by
    obtain ⟨-, -, hinOrder⟩ := checked_eq_none_iff.mp hchecked
    rw [listAccepted_accept rfl, List.pairwise_append]
    refine ⟨hsequenced.inOrder executionId, by split <;> simp, fun first hf second hs => ?_⟩
    split at hs
    next hid =>
      obtain rfl := List.mem_singleton.mp hs
      subst hid
      exact hinOrder first hf
    · cases hs
  agrees executionId := by
    obtain ⟨-, hagrees, -⟩ := checked_eq_none_iff.mp hchecked
    rw [listAccepted_accept rfl, List.pairwise_append]
    refine ⟨hsequenced.agrees executionId, by split <;> simp, fun first hf second hs => ?_⟩
    split at hs
    next hid =>
      obtain rfl := List.mem_singleton.mp hs
      subst hid
      exact hagrees first (mem_listAccepted.mp hf).1
    · cases hs

theorem Sequenced.taken (hsequenced : boundary.Sequenced)
    (hdigest : ∀ payload, digests.hashPayload payload ≠ "") :
    (boundary.consider digests offer).2.Sequenced := by
  rw [consider_eq]
  cases boundary.duplicate digests offer with
  | some item => exact hsequenced
  | none =>
      cases hchecked : boundary.checked digests offer with
      | some reason => exact hsequenced.reject hdigest reason
      | none => exact hsequenced.accept hdigest hchecked

end Sequenced

section Repeated

variable {digests : Digests} {boundary : EvidenceBoundary} {offer other : Offer}
  {item : EvidenceEnvelope} {executionId : String} {offers : List Offer}
  {items : List EvidenceEnvelope}

theorem duplicate_eq_some_iff : boundary.duplicate digests offer = some item ↔
    offer.ownReason = none ∧
      (offer.mark digests).fingerprint ∈ boundary.fingerprints offer.context.executionId ∧
      (boundary.listAccepted offer.context.executionId).find? (·.mark = offer.mark digests) =
        some item := by
  unfold duplicate
  split
  next hknown => exact ⟨fun h => ⟨hknown.1, hknown.2, h⟩, fun h => h.2.2⟩
  next hunknown => exact ⟨fun h => (by cases h), fun h => absurd ⟨h.1, h.2.1⟩ hunknown⟩

theorem fingerprint_mem_accept :
    item.mark.fingerprint ∈ (boundary.accept item).fingerprints item.executionId := by
  simp [accept]

theorem fingerprint_accept {fingerprint : String}
    (h : fingerprint ∈ boundary.fingerprints executionId) :
    fingerprint ∈ (boundary.accept item).fingerprints executionId := by
  by_cases hid : executionId = item.executionId
  · subst hid
    simp [accept, h]
  · simp [accept, Function.update_of_ne hid, h]

-- A duplicate stays the first of its kind, whatever is taken in after it.
theorem duplicate_kept (h : boundary.duplicate digests offer = some item) :
    (boundary.consider digests other).2.duplicate digests offer = some item := by
  obtain ⟨hown, hknown, hfound⟩ := duplicate_eq_some_iff.mp h
  rw [consider_eq]
  cases boundary.duplicate digests other with
  | some found => exact h
  | none =>
      cases boundary.checked digests other with
      | some reason =>
          refine duplicate_eq_some_iff.mpr ⟨hown, hknown, ?_⟩
          dsimp only [settled]
          rw [listAccepted_reject (by simp [Offer.envelope])]
          exact hfound
      | none =>
          refine duplicate_eq_some_iff.mpr ⟨hown, fingerprint_accept hknown, ?_⟩
          dsimp only [settled]
          rw [listAccepted_accept rfl, List.find?_append, hfound]
          rfl

theorem duplicate_kept_all (h : boundary.duplicate digests offer = some item) :
    (play (consider digests) boundary offers).duplicate digests offer = some item := by
  induction offers generalizing boundary with
  | nil => exact h
  | cons other offers ih => exact ih (duplicate_kept h)

-- What was accepted is found again.
theorem duplicate_of_accepted (hformed : boundary.Formed)
    (hok : (boundary.consider digests offer).1 = (item, true)) :
    (boundary.consider digests offer).2.duplicate digests offer = some item := by
  rw [consider_eq] at hok ⊢
  cases hduplicate : boundary.duplicate digests offer with
  | some found =>
      rw [hduplicate] at hok
      obtain rfl : found = item := congrArg Prod.fst hok
      exact hduplicate
  | none =>
      rw [hduplicate] at hok
      cases hchecked : boundary.checked digests offer with
      | some reason =>
          rw [hchecked] at hok
          cases congrArg Prod.snd hok
      | none =>
          rw [hchecked] at hok
          obtain rfl : offer.envelope digests none = item := congrArg Prod.fst hok
          obtain ⟨hown, -, -⟩ := checked_eq_none_iff.mp hchecked
          have hfresh := hformed.fresh hown hduplicate
          have hnone : (boundary.listAccepted offer.context.executionId).find?
              (·.mark = offer.mark digests) = none :=
            List.find?_eq_none.mpr fun found hfound => by simpa using hfresh found hfound
          have hknown : (offer.mark digests).fingerprint ∈
              (boundary.accept (offer.envelope digests none)).fingerprints
                offer.context.executionId := fingerprint_mem_accept
          have hlast : (boundary.accept (offer.envelope digests none)).listAccepted
              offer.context.executionId = boundary.listAccepted offer.context.executionId ++
                [offer.envelope digests none] := by
            rw [listAccepted_accept rfl]
            exact congrArg _ (if_pos rfl)
          refine duplicate_eq_some_iff.mpr ⟨hown, hknown, ?_⟩
          dsimp only [settled]
          rw [hlast, List.find?_append, hnone, List.find?_singleton]
          exact if_pos (decide_eq_true (Offer.envelope_mark digests offer none))

-- A batch that was accepted as a whole is found again, each candidate in its envelope.
theorem accepted_found (hformed : boundary.Formed)
    (hall : ∀ response ∈ responses (consider digests) boundary offers, response.2 = true) :
    List.Forall₂ (fun offer item =>
        (play (consider digests) boundary offers).duplicate digests offer = some item)
      offers (acceptedOf digests boundary offers) := by
  induction offers generalizing boundary with
  | nil => exact .nil
  | cons offer offers ih =>
      rw [responses, List.forall_mem_cons] at hall
      obtain ⟨hok, hrest⟩ := hall
      have hfound : (boundary.consider digests offer).2.duplicate digests offer =
          some (boundary.consider digests offer).1.1 :=
        duplicate_of_accepted hformed (Prod.ext rfl hok)
      rw [acceptedOf_cons, if_pos hok, play]
      exact .cons (duplicate_kept_all hfound) (ih hformed.taken hrest)

-- Candidates that are all found again are given back, and nothing is stored.
theorem found_again
    (h : List.Forall₂ (fun offer item => boundary.duplicate digests offer = some item)
      offers items) :
    responses (consider digests) boundary offers = items.map (·, true) ∧
      play (consider digests) boundary offers = boundary := by
  induction h with
  | nil => exact ⟨rfl, rfl⟩
  | @cons offer item offers items hhead _ ih =>
      have hconsider : boundary.consider digests offer = ((item, true), boundary) := by
        rw [consider_eq, hhead]
      rw [responses, play, hconsider]
      exact ⟨by rw [ih.1, List.map_cons], ih.2⟩

theorem listed_of_found
    (h : List.Forall₂ (fun offer item => boundary.duplicate digests offer = some item) offers items)
    (hsame : ∀ offer ∈ offers, offer.context.executionId = executionId) :
    ∀ item ∈ items, item ∈ boundary.listAccepted executionId := by
  induction h with
  | nil => simp
  | cons hhead _ ih =>
      rw [List.forall_mem_cons] at hsame ⊢
      obtain ⟨-, -, hitem⟩ := duplicate_eq_some_iff.mp hhead
      exact ⟨hsame.1 ▸ List.mem_of_find?_eq_some hitem, ih hsame.2⟩

end Repeated

section Store

variable {readings : Readings} {digests : Digests} {boundary : EvidenceBoundary}
  {first again : Presentation} {candidate : CandidateEvidence} {context other : CompletionContext}
  {given : Option EvidenceRejectionReason}

theorem intakeReason_of_claimedReason (h : claimedReason context candidate given = none) :
    given = none ∧ claimedReason context candidate none = none := by
  unfold claimedReason at h ⊢
  dsimp only at h ⊢
  split_ifs at h ⊢
  exact ⟨h, rfl⟩

theorem claimedReason_same (h : context.SameAttempt other) :
    claimedReason other candidate given = claimedReason context candidate given := by
  unfold claimedReason
  rw [h.organisationId, h.projectId, h.missionId, h.executionId, h.attemptId]

-- A candidate that passed its own checks passes them in every live state.
theorem intakeReason_same (h : context.SameAttempt other) {state live : CompletionLifecycleState}
    (hlive : live ∉ terminalCompletionStates)
    (hpassed : intakeReason context state candidate = none) :
    intakeReason other live candidate = none := by
  have hcancelled : live ≠ .cancelled := by
    rintro rfl
    exact hlive (by decide)
  unfold intakeReason at hpassed ⊢
  rw [h.cancelled, h.attemptId, h.authoritativeAttemptId, h.maxEvidenceBytes] at hpassed
  split_ifs at hpassed with hstopped _ hstale hlarge htype hmissing
  have hrunning : ¬(other.cancelled = true ∨ live = .cancelled) := fun hstop =>
    hstop.elim (fun hflag => hstopped (.inl hflag)) hcancelled
  rw [if_neg hrunning, if_neg hlive, if_neg hstale, if_neg hlarge, if_neg htype, if_neg hmissing]

theorem ownReason_repeats (h : first.Repeats again)
    (hown : ((first.read readings digests).offer candidate).ownReason = none) :
    ((again.read readings digests).offer candidate).ownReason = none := by
  obtain ⟨hpassed, hclaimed⟩ := intakeReason_of_claimedReason hown
  have hagain : intakeReason again.context again.lifecycleState candidate = none :=
    intakeReason_same h.context h.live hpassed
  change claimedReason again.context candidate
    (intakeReason again.context again.lifecycleState candidate) = none
  rw [hagain, claimedReason_same h.context]
  exact hclaimed

theorem duplicate_repeats {item : EvidenceEnvelope} (h : first.Repeats again)
    (hfound : boundary.duplicate digests ((first.read readings digests).offer candidate) =
      some item) :
    boundary.duplicate digests ((again.read readings digests).offer candidate) = some item := by
  obtain ⟨hown, hknown, hitem⟩ := duplicate_eq_some_iff.mp hfound
  have hid : ((again.read readings digests).offer candidate).context.executionId =
      ((first.read readings digests).offer candidate).context.executionId :=
    h.context.executionId.symm
  refine duplicate_eq_some_iff.mpr ⟨ownReason_repeats h hown, ?_, ?_⟩
  · rw [hid]
    exact hknown
  · rw [hid]
    exact hitem

theorem responses_accepted {offers : List Offer}
    (h : ((responses (consider digests) boundary offers).filter (!·.2)).map (·.1) = []) :
    ∀ response ∈ responses (consider digests) boundary offers, response.2 = true := by
  intro response hresponse
  have hnone := List.filter_eq_nil_iff.mp (List.map_eq_nil_iff.mp h) response hresponse
  simpa using hnone

-- What a whole batch was given is what it is given again.
theorem present_again (hformed : boundary.Formed) {accepted : List EvidenceEnvelope}
    {after : List Presentation} (h : first.Repeats again)
    (haccepted : (boundary.present readings digests first).1 = .ok (accepted, [])) :
    let store := play (present readings digests) (boundary.present readings digests first).2 after
    store.present readings digests again = (.ok (accepted, []), store) ∧
      ∀ item ∈ accepted, item ∈ store.listAccepted again.context.executionId := by
  intro store
  rw [present_eq] at haccepted
  cases hraised : (readings.readable digests first.candidates).1 with
  | some type =>
      rw [hraised] at haccepted
      cases haccepted
  | none =>
      simp only [hraised, Except.ok.injEq, Prod.mk.injEq] at haccepted
      obtain ⟨rfl, hrejected⟩ := haccepted
      have hfound := accepted_found hformed (responses_accepted hrejected)
      have hkept : List.Forall₂ (fun offer item => store.duplicate digests offer = some item)
          (again.read readings digests).offers
          (acceptedOf digests boundary (first.read readings digests).offers) := by
        have hsame : (again.read readings digests).candidates =
            (first.read readings digests).candidates := by
          rw [Presentation.read, Presentation.read, h.candidates]
        rw [Batch.offers, hsame, List.forall₂_map_left_iff]
        rw [Batch.offers, List.forall₂_map_left_iff] at hfound
        refine hfound.imp fun candidate item hitem => duplicate_repeats h ?_
        simp only [store, play_present, present_eq]
        exact duplicate_kept_all hitem
      obtain ⟨hresponses, hstore⟩ := found_again hkept
      refine ⟨?_, listed_of_found hkept fun offer hoffer => ?_⟩
      · rw [present_eq, h.candidates, hraised, acceptedOf, hresponses, hstore]
        simp [List.filter_map, Function.comp_def]
      · obtain ⟨candidate, -, rfl⟩ := List.mem_map.mp hoffer
        rfl

-- The accepted envelopes come in sequence and never conflict, and whatever was
-- accepted is listed, and given back unchanged for as long as its attempt lives.
theorem evidence_accepted_once (readings : Readings) (digests : Digests)
    (hdigest : ∀ payload, digests.hashPayload payload ≠ "") (batches : List Presentation) :
    let store := play (present readings digests) {} batches
    (∀ executionId, (store.listAccepted executionId).Pairwise fun first second =>
      first.sequence ≤ second.sequence) ∧
    (∀ executionId, ∀ first ∈ store.listAccepted executionId,
      ∀ second ∈ store.listAccepted executionId, first.evidenceType = second.evidenceType →
        first.sequence = second.sequence → first.contentHash = second.contentHash) ∧
    ∀ before batch after accepted again, batches = before ++ batch :: after →
      ((play (present readings digests) {} before).present readings digests batch).1 =
        .ok (accepted, []) →
      batch.Repeats again → store.present readings digests again = (.ok (accepted, []), store) ∧
        ∀ item ∈ accepted, item ∈ store.listAccepted again.context.executionId := by
  intro store
  have hsequenced : store.Sequenced := by
    simp only [store, play_present]
    exact play_invariant (fun _ _ h => h.taken hdigest) Sequenced.empty
  refine ⟨hsequenced.inOrder, fun executionId first hf second hs htype hsequence => ?_, ?_⟩
  · by_contra hdiffer
    have hhashed := hsequenced.hashed executionId
    have hfirst := hhashed first (mem_listAccepted.mp hf).1
    have hsecond := hhashed second (mem_listAccepted.mp hs).1
    have hconflict : first.mark.Conflicts second.mark := ⟨hsequence, htype, hfirst, hsecond, hdiffer⟩
    have hne : first ≠ second := fun hsame => hdiffer (by rw [hsame])
    exact (hsequenced.agrees executionId).forall hf hs hne hconflict
  · rintro before batch after accepted again rfl haccepted hrepeats
    have hformed : (play (present readings digests) {} before).Formed := by
      rw [play_present]
      exact Formed.empty.play
    simp only [store, play_append]
    exact present_again hformed hrepeats haccepted

def evidencePresented (sequence : Int) (contentHash : String) : Presentation where
  context := evidenceContext
  lifecycleState := .evidencePending
  sourceBackend := "joymesh"
  sourceHarness := none
  candidates := [.items (.ofList
    [("evidence_type", .str "backend_output"), ("content_hash", .str contentHash),
      ("sequence", .int sequence)])]

-- The first batch comes again after one with a higher sequence number.
theorem evidence_accepted_once_sample :
    ∃ accepted, (({} : EvidenceBoundary).present sampleReadings sampleDigests
        (evidencePresented 1 "first")).1 = .ok (accepted, []) ∧
      let store := play (present sampleReadings sampleDigests) {}
        [evidencePresented 1 "first", evidencePresented 2 "second"]
      store.present sampleReadings sampleDigests (evidencePresented 1 "first") =
          (.ok (accepted, []), store) ∧
        ∀ item ∈ accepted, item ∈ store.listAccepted evidenceContext.executionId := by
  have hall : ∃ accepted, (({} : EvidenceBoundary).present sampleReadings sampleDigests
      (evidencePresented 1 "first")).1 = .ok (accepted, []) := ⟨_, rfl⟩
  obtain ⟨accepted, haccepted⟩ := hall
  refine ⟨accepted, haccepted, ?_⟩
  have honce := evidence_accepted_once sampleReadings sampleDigests (fun _ => by simp [sampleDigests])
    [evidencePresented 1 "first", evidencePresented 2 "second"]
  refine honce.2.2 [] _ [evidencePresented 2 "second"] accepted _ rfl haccepted ?_
  exact ⟨rfl, ⟨rfl, rfl, rfl, rfl, rfl, rfl, rfl, rfl⟩, by decide⟩

end Store

end EvidenceBoundary

end JoyMesh.Completion
