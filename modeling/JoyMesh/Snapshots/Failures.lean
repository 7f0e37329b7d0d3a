import JoyMesh.Library.History
import JoyMesh.Snapshots.Service

namespace JoyMesh.Snapshots

open JoyMesh.Library JoyMesh.Routing JoyMesh.Harnesses

section Definitions

variable {setup : Setup}

-- The probes for a status that are under way: those that have begun and are not stored.
def probesAfter (probes : List (Nat × String)) : (snapshots setup).Event → List (Nat × String)
  | .did id (.beginProbe .status harnessId) _ =>
      (id, harnessId) :: probes.filter fun probe => probe.1 ≠ id
  | .did id (.storeProbe _) _ => probes.filter fun probe => probe.1 ≠ id
  | .did id (.release .quota) _ => probes.filter fun probe => probe.1 ≠ id
  | _ => probes

def probes (history : List (snapshots setup).Event) : List (Nat × String) :=
  history.foldl probesAfter []

def beginsProbe (id : Nat) : (snapshots setup).Event → Bool
  | .did other (.beginProbe .status _) _ => other = id
  | _ => false

-- A failure of the harness is recorded: its authentication, quota, rate limit or configuration.
def recordsFailure (harnessId : String) : (snapshots setup).Event → Bool
  | .did _ (.storeObserved observation snapshot) _ =>
      (observation.failure setup.python).isSome && snapshot.harnessId = harnessId
  | _ => false

-- No failure of a harness was recorded between the beginning of a probe of a call and the
-- storing of what it found.
def FailuresKept (history : List (snapshots setup).Event) : Prop :=
  ∀ before id harnessId begun between snapshot stored after,
    history = before ++ .did id (.beginProbe .status harnessId) begun ::
      (between ++ .did id (.storeProbe snapshot) stored :: after) →
    (∀ event ∈ between, beginsProbe id event = false) →
      ∀ event ∈ between, recordsFailure snapshot.harnessId event = false

-- A failure is recorded while no probe of its harness is under way.
def Unprobed (history : List (snapshots setup).Event) : Op → Prop
  | .storeObserved observation snapshot => (observation.failure setup.python).isSome →
      ∀ probe ∈ probes history, probe.2 ≠ snapshot.harnessId
  | _ => True

instance (history : List (snapshots setup).Event) : DecidablePred (Unprobed history) := fun op => by
  unfold Unprobed
  split <;> infer_instance

def Spaced (w : (snapshots setup).World) : (snapshots setup).Label → Prop
  | .go id _ => ∀ op ∈ w.awaiting id, Unprobed w.state.history op
  | _ => True

instance (w : (snapshots setup).World) : DecidablePred (Spaced w)
  | .go id _ => inferInstanceAs (Decidable (∀ op ∈ w.awaiting id, Unprobed w.state.history op))
  | .start _ _ => .isTrue trivial
  | .outside _ => .isTrue trivial

end Definitions

section Histories

variable {setup : Setup} {history rest : List (snapshots setup).Event}
  {event : (snapshots setup).Event} {started : List (Nat × String)} {id other : Nat}
  {harnessId : String}

theorem probes_concat : probes (history ++ [event]) = probesAfter (probes history) event := by
  rw [probes, List.foldl_append]
  rfl

-- Only its own beginning brings a probe under way.
theorem mem_of_mem_after (h : (id, harnessId) ∈ probesAfter started event)
    (hbegins : beginsProbe id event = false) : (id, harnessId) ∈ started := by
  unfold probesAfter at h
  split at h
  · rcases List.mem_cons.mp h with heq | hmem
    · cases heq
      simp [beginsProbe] at hbegins
    · exact (List.mem_filter.mp hmem).1
  · exact (List.mem_filter.mp h).1
  · exact (List.mem_filter.mp h).1
  · exact h

theorem mem_of_mem_append (h : (id, harnessId) ∈ probes (history ++ rest))
    (hbegins : ∀ event ∈ rest, beginsProbe id event = false) :
    (id, harnessId) ∈ probes history := by
  induction rest using List.reverseRecOn with
  | nil => rwa [List.append_nil] at h
  | append_singleton rest event ih =>
      rw [← List.append_assoc, probes_concat] at h
      have hlast := hbegins event (List.mem_append_right _ (List.mem_singleton_self _))
      exact ih (mem_of_mem_after h hlast) fun other hother =>
        hbegins other (List.mem_append_left _ hother)

-- What the steps of another call leave under way.
theorem mem_after_other {op : Op} {answer : Except Raised op.Reply}
    (h : (other, harnessId) ∈ started) (hne : id ≠ other) :
    (other, harnessId) ∈ probesAfter started (.did id op answer : (snapshots setup).Event) := by
  have hfiltered : (other, harnessId) ∈ started.filter fun probe => probe.1 ≠ id :=
    List.mem_filter.mpr ⟨h, by simpa using Ne.symm hne⟩
  unfold probesAfter
  split
  next heq =>
    cases heq
    exact List.mem_cons_of_mem _ hfiltered
  next heq =>
    cases heq
    exact hfiltered
  next heq =>
    cases heq
    exact hfiltered
  next => exact h

-- An event is orderly if a failure comes with no probe under way, and a result from the probe
-- that its call has under way.
def Orderly (history : List (snapshots setup).Event) (event : (snapshots setup).Event) : Prop :=
  (∀ harnessId, recordsFailure harnessId event = true →
      ∀ probe ∈ probes history, probe.2 ≠ harnessId) ∧
    ∀ id snapshot answer, event = .did id (.storeProbe snapshot) answer →
      (id, snapshot.harnessId) ∈ probes history

theorem failures_kept_of_orderly (h : Throughout Orderly history) : FailuresKept history := by
  intro before id harnessId begun between snapshot stored after heq hbegins event hevent
  by_contra hrecords
  have hstored := (h (before ++ .did id (.beginProbe .status harnessId) begun :: between)
    (.did id (.storeProbe snapshot) stored) after (by simp [heq])).2 id snapshot stored rfl
  obtain ⟨first, last, rfl⟩ := List.append_of_mem hevent
  have hunderway : (id, snapshot.harnessId) ∈
      probes (before ++ .did id (.beginProbe .status harnessId) begun :: first) := by
    have hlast : (id, snapshot.harnessId) ∈
        probes ((before ++ .did id (.beginProbe .status harnessId) begun :: first) ++
          event :: last) := by simpa using hstored
    exact mem_of_mem_append hlast fun other hother =>
      hbegins other (List.mem_append_right _ hother)
  have horderly := (h (before ++ .did id (.beginProbe .status harnessId) begun :: first) event
    (last ++ .did id (.storeProbe snapshot) stored :: after) (by simp [heq])).1
      snapshot.harnessId (by simpa using hrecords)
  exact horderly _ hunderway rfl

end Histories

section Discipline

variable {setup : Setup} {s t : (snapshots setup).State} {id other : Nat} {op : Op}
  {shared : Shared} {answer : Except Raised op.Reply}

-- What is stored is what the call has probed.
def Lawful (id : Nat) (op : Op) (s : (snapshots setup).State) : Prop :=
  match op with
  | .storeProbe snapshot => (id, snapshot.harnessId) ∈ probes s.history
  | _ => True

structure Left (id : Nat) (s t : (snapshots setup).State) : Prop where
  probing : ∀ harnessId, (id, harnessId) ∈ probes s.history → (id, harnessId) ∈ probes t.history

theorem orderly_did (hlawful : Lawful id op s) (hunprobed : Unprobed s.history op) :
    Orderly s.history (.did id op answer) := by
  refine ⟨fun harnessId hrecords => ?_, fun storer snapshot stored heq => ?_⟩
  · unfold recordsFailure at hrecords
    split at hrecords
    next heq =>
      cases heq
      simp only [Bool.and_eq_true, decide_eq_true_eq] at hrecords
      obtain ⟨hfailure, rfl⟩ := hrecords
      exact hunprobed hfailure
    next => cases hrecords
  · cases heq
    exact hlawful

theorem orderly_other {event : (snapshots setup).Event}
    (hother : ∀ id op answer, event ≠ .did id op answer) : Orderly s.history event := by
  refine ⟨fun harnessId hrecords => ?_, fun id snapshot answer heq => absurd heq (hother _ _ _)⟩
  unfold recordsFailure at hrecords
  split at hrecords
  · exact absurd rfl (hother _ _ _)
  · cases hrecords

-- Every other event leaves the probes.
theorem Left.noted {event : (snapshots setup).Event}
    (hevent : ∀ started, probesAfter started event = started) : Left id s (s.note event shared) where
  probing harnessId h := by
    rw [System.State.note_history, probes_concat, hevent]
    exact h

theorem throughout_noted {event : (snapshots setup).Event} (h : Throughout Orderly s.history)
    (horderly : Orderly s.history event) : Throughout Orderly (s.note event shared).history :=
  throughout_concat.mpr ⟨h, horderly⟩

def failureDiscipline (setup : Setup) : (snapshots setup).Discipline where
  good s := Throughout Orderly s.history
  fresh _ _ := True
  rely := Left
  lawful := Lawful
  post _ _ _ _ := True
  admitted _ _ _ := True
  allowed _ op _ s := Unprobed s.history op
  happens _ _ := True
  rely_refl _ _ := ⟨fun _ h => h⟩
  rely_trans _ _ _ _ hst htu := ⟨fun harnessId h => htu.probing harnessId (hst.probing harnessId h)⟩
  fresh_rely _ _ _ _ _ := trivial
  post_rely _ _ _ _ _ _ _ := trivial
  step_good _ _ _ _ _ _ hgood hlawful hunprobed _ :=
    throughout_noted hgood (orderly_did hlawful hunprobed)
  step_rely _ _ _ _ _ _ _ hne _ _ _ _ :=
    ⟨fun _ h => probes_concat ▸ mem_after_other h hne⟩
  enter_good _ _ _ _ hgood _ _ _ := throughout_noted hgood (orderly_other fun _ _ _ h => by cases h)
  enter_rely _ _ _ _ _ _ _ _ _ := .noted fun _ => rfl
  leave_good _ _ _ _ hgood _ := throughout_noted hgood (orderly_other fun _ _ _ h => by cases h)
  leave_rely _ _ _ _ _ _ _ _ := .noted fun _ => rfl
  leave_post _ _ _ _ _ := trivial
  outside_good _ _ _ hgood _ _ := throughout_noted hgood (orderly_other fun _ _ _ h => by cases h)
  outside_rely _ _ _ _ _ _ _ := .noted fun _ => rfl

end Discipline

section Programs

variable {setup : Setup} {id : Nat} {α : Type} {program : SnapshotM α}

-- The awaits that store no probe.
def Storeless : Op → Prop
  | .storeProbe _ => False
  | _ => True

theorem ObserveOp.storeless {op : Op} (h : ObserveOp op) : Storeless op := by
  cases op with
  | storeProbe => exact h.elim
  | _ => trivial

theorem Storeless.safe (h : program.Every Storeless) : program.Safe (failureDiscipline setup) id :=
  h.safe fun op _ hop _ => by
    cases op with
    | storeProbe => exact hop.elim
    | _ => trivial

theorem holding_safe {lock : Lock} (h : program.Safe (failureDiscipline setup) id) :
    (holding lock program).Safe (failureDiscipline setup) id := by
  have hrelease : (perform (.release lock)).Every Storeless := .perform trivial
  refine .bind (Storeless.safe (.perform trivial)) fun _ => .bind (.catching h fun raised => ?_) fun _ => ?_
  · exact Storeless.safe (hrelease.bind fun _ => trivial)
  · exact Storeless.safe (hrelease.bind fun _ => trivial)

-- What is probed is of the harness, and the probe is under way until it is stored.
theorem probed_holds {harnessId : String} {metadata : RuntimeError → Metadata}
    (s : (snapshots setup).State) : (probed .status harnessId metadata).Holds
      (failureDiscipline setup) id (Program.Yields fun snapshot t =>
        snapshot.harnessId = harnessId ∧ (id, harnessId) ∈ probes t.history) s := by
  have hbegun : ∀ {t : (snapshots setup).State} {answer shared},
      (id, harnessId) ∈ probes
        (t.note (.did id (.beginProbe .status harnessId) answer) shared).history := by
    intro t answer shared
    rw [System.State.note_history, probes_concat]
    exact List.mem_cons_self ..
  have hprobe : (asyncQuotaSnapshot .status harnessId).Holds (failureDiscipline setup) id
      (fun result t => (id, harnessId) ∈ probes t.history ∧
        ∀ snapshot, result = .ok snapshot → snapshot.harnessId = harnessId) s := by
    refine .perform_bind (fun _ _ _ => trivial) (fun t choice value u hleft _ _ _ => ?_)
      fun t choice raised u _ _ _ heffect => by cases heffect
    intro v hleft _
    refine ⟨trivial, fun choice answer x _ heffect => ?_⟩
    have hunderway := hleft.probing harnessId hbegun
    have hkept : (id, harnessId) ∈ probes
        (v.note (.did id (.endProbe .status harnessId) answer) x).history := by
      rw [System.State.note_history, probes_concat]
      exact hunderway
    refine ⟨hkept, fun snapshot heq => ?_⟩
    subst heq
    have hanswer : answered choice { choice.probe with harnessId := harnessId } v.shared =
        some (.ok snapshot, x) := heffect
    unfold answered at hanswer
    split at hanswer
    · cases hanswer
      rfl
    · cases hanswer
  refine hprobe.catching (fun snapshot t h => ⟨h.2 snapshot rfl, h.1⟩) fun raised t h => ?_
  cases raised with
  | exception error =>
      refine .perform_bind (fun _ _ _ => trivial) (fun u choice now x hleft _ _ _ => ?_)
        fun _ _ _ _ _ _ _ heffect => by cases heffect
      refine ⟨rfl, ?_⟩
      rw [System.State.note_history, probes_concat]
      exact hleft.probing harnessId h.1
  | _ => trivial

theorem storedProbe_safe (harnessId : String) :
    (storedProbe harnessId).Safe (failureDiscipline setup) id := by
  intro s
  refine (probed_holds s).bind (fun snapshot t h => ?_) fun _ _ _ => trivial
  refine .perform_bind (fun u hleft _ => ?_) (fun _ _ _ _ _ _ _ _ => trivial)
    fun _ _ _ _ _ _ _ _ => trivial
  obtain ⟨rfl, hunderway⟩ := h
  exact hleft.probing _ hunderway

theorem quotaSnapshot_safe (harnessId : String) (refresh : Bool) :
    (quotaSnapshot harnessId refresh).Safe (failureDiscipline setup) id := by
  have hcached : (cachedQuota harnessId refresh).Every Storeless := .ite trivial (.perform trivial)
  refine .bind (Storeless.safe hcached) fun cached => ?_
  cases cached with
  | some => exact fun _ => trivial
  | none =>
      refine holding_safe (.bind (Storeless.safe hcached) fun cached => ?_)
      cases cached with
      | some => exact fun _ => trivial
      | none => exact storedProbe_safe harnessId

theorem listSnapshots_safe (harnessIds : Option (List String)) (refresh : Bool) :
    (listSnapshots setup harnessIds refresh).Safe (failureDiscipline setup) id :=
  .mapM (fun harnessId => quotaSnapshot_safe harnessId refresh) _

theorem refreshQuota_safe (harnessId : Option String) :
    (refreshQuota setup harnessId).Safe (failureDiscipline setup) id := by
  unfold refreshQuota
  split
  · exact .bind (Storeless.safe (.perform trivial)) fun _ =>
      .bind (quotaSnapshot_safe _ true) fun _ _ => trivial
  · exact .bind (Storeless.safe (.perform trivial)) fun _ => listSnapshots_safe none true

theorem publish_storeless (snapshot : RuntimeSnapshot) :
    (publish setup snapshot).Every Storeless :=
  .bind lift_every fun _ => .bind lift_every fun _ => .perform trivial

theorem build_safe (harnessIds : Option (List String)) (refresh : Bool) :
    (build setup harnessIds refresh).Safe (failureDiscipline setup) id := by
  have hentry : ∀ harnessId,
      (buildHarness setup refresh harnessId).Safe (failureDiscipline setup) id :=
    fun harnessId => .bind (quotaSnapshot_safe harnessId refresh) fun _ =>
      Storeless.safe (.perform_bind trivial fun _ => trivial)
  have hstore : ∀ snapshot, (store setup snapshot).Every Storeless := fun snapshot =>
    .bind lift_every fun _ => .perform_bind trivial fun _ => .perform_bind trivial fun _ =>
      .bind (publish_storeless snapshot) fun _ => trivial
  exact .bind (.mapM hentry _) fun entries => Storeless.safe
    (.perform_bind trivial fun _ => .perform_bind trivial fun _ => hstore _)

theorem snapshot_safe (harnessIds : Option (List String)) (refresh : Bool) :
    (snapshot setup harnessIds refresh).Safe (failureDiscipline setup) id := by
  have hcached : (cachedSnapshot harnessIds refresh).Every Storeless :=
    .ite trivial (.perform_bind trivial fun _ => trivial)
  have hwhole : (cachedWhole harnessIds refresh).Every Storeless :=
    .ite trivial (.perform_bind trivial fun _ => trivial)
  refine .bind (Storeless.safe hcached) fun cached => ?_
  cases cached with
  | some => exact fun _ => trivial
  | none =>
      refine holding_safe (.bind (Storeless.safe hwhole) fun cached => ?_)
      cases cached with
      | some => exact fun _ => trivial
      | none => exact build_safe harnessIds refresh

theorem harnessSnapshot_safe (harnessId : String) (refresh : Bool) :
    (harnessSnapshot setup harnessId refresh).Safe (failureDiscipline setup) id :=
  .bind (snapshot_safe _ refresh) fun full => by
    cases full.harness harnessId <;> exact fun _ => trivial

theorem observeExecution_safe (harnessId : String) (execution : Execution) :
    (observeExecution setup harnessId execution).Safe (failureDiscipline setup) id := by
  have hobserved : (observed setup harnessId execution).Every Storeless :=
    .perform_bind trivial fun _ => .perform_bind trivial fun _ => .perform_bind trivial fun _ =>
      .bind ((observeQuota_every setup _ _).mono fun _ => ObserveOp.storeless) fun _ =>
        .perform trivial
  exact .bind (Storeless.safe hobserved) fun _ => snapshot_safe none false

theorem failure_programs : (failureDiscipline setup).Programs := by
  intro id call s t _ _ _ _
  suffices hsafe : (call.program setup).Safe (failureDiscipline setup) id from hsafe _
  cases call with
  | quotaSnapshot => exact .bind (quotaSnapshot_safe _ _) fun _ _ => trivial
  | listSnapshots => exact .bind (listSnapshots_safe _ _) fun _ _ => trivial
  | refreshQuota => exact .bind (refreshQuota_safe _) fun _ _ => trivial
  | observeQuota =>
      exact .bind (Storeless.safe ((observeQuota_every setup _ _).mono fun _ => ObserveOp.storeless))
        fun _ _ => trivial
  | snapshot => exact .bind (snapshot_safe _ _) fun _ _ => trivial
  | harnessSnapshot => exact .bind (harnessSnapshot_safe _ _) fun _ _ => trivial
  | refresh =>
      exact .bind (.bind (Storeless.safe (.perform trivial)) fun _ => snapshot_safe _ true) fun _ _ => trivial
  | observeExecution => exact .bind (observeExecution_safe _ _) fun _ _ => trivial
  | markRunStarted =>
      exact Storeless.safe (.bind (.perform_bind trivial fun _ => .perform trivial) fun _ => trivial)
  | revalidateForLaunch harnessId required priorAvailability =>
      refine .bind (.bind (harnessSnapshot_safe _ true) fun entry => ?_) fun _ _ => trivial
      refine Storeless.safe (.perform_bind trivial fun recorded => ?_)
      cases launchError setup harnessId required (priorAvailability <|> recorded) entry <;> trivial

end Programs

section Failures

variable {setup : Setup} {w : (snapshots setup).World} {labels : List (snapshots setup).Label}

-- Over every run of calls of both services, a failure that is recorded while no probe of its
-- harness is under way is not overwritten by a probe that began before.
theorem failures_kept
    (hrun : run System.World.step (.initial (snapshots setup) {}) labels = some w)
    (hspaced : Along System.World.step Spaced (.initial (snapshots setup) {}) labels) :
    FailuresKept w.state.history := by
  have hinitial : (failureDiscipline setup).Sound (.initial (snapshots setup) {}) :=
    System.Discipline.sound_initial throughout_nil fun _ => trivial
  refine failures_kept_of_orderly (hinitial.run failure_programs ?_ hrun).good
  refine hspaced.mono fun w label h => ?_
  cases label with
  | start => trivial
  | go => exact h
  | outside => trivial

-- The login of the harness has expired.
def failed : Call := .observeQuota "codex" { success := false, failureKind := some .authentication }

-- An execution fails, and the harness is probed again after that.
def failedThenProbed : List (snapshots twoProviders).Label :=
  [.start 0 failed] ++ goes 0 6 ++ [.start 1 (.quotaSnapshot "codex" true)] ++ goes 1 5

theorem failedThenProbed_isSome :
    (run System.World.step (.initial (snapshots twoProviders) {}) failedThenProbed).isSome = true := by
  decide +kernel

def probedAfterwards : (snapshots twoProviders).World :=
  (run System.World.step (.initial (snapshots twoProviders) {}) failedThenProbed).get
    failedThenProbed_isSome

theorem probedAfterwards_kept : FailuresKept probedAfterwards.state.history :=
  failures_kept (Option.some_get failedThenProbed_isSome).symm (by decide +kernel)

-- The execution fails while the harness is probed.
def failedWhileProbed : List (snapshots twoProviders).Label :=
  [.start 0 (.quotaSnapshot "codex" true)] ++ goes 0 2 ++ [.start 1 failed] ++ goes 1 6 ++ goes 0 3

def loginRequired : QuotaSnapshot :=
  applyObservation twoProviders.python ⟨0, true⟩ ready
    { success := false, failureKind := some .authentication }

-- What happens while it is probed.
def meanwhile : List (snapshots twoProviders).Event :=
  [.entered 1 failed, .did 1 (.getQuota .prior "codex") (.ok none), .did 1 (.beginProbe .prior "codex") (.ok ()),
    .did 1 (.endProbe .prior "codex") (.ok ready), .did 1 .utcNow (.ok ⟨0, true⟩),
    .did 1 (.invalidateQuota (some "codex")) (.ok ()),
    .did 1 (.storeObserved { success := false, failureKind := some .authentication } loginRequired)
      (.ok ()),
    .left 1 (.ok (.quotas [loginRequired])), .did 0 (.endProbe .status "codex") (.ok ready)]

theorem history_failedWhileProbed :
    (run System.World.step (.initial (snapshots twoProviders) {}) failedWhileProbed).map
        (fun w => w.state.history) =
      some ([.entered 0 (.quotaSnapshot "codex" true), .did 0 (.acquire .quota) (.ok ())] ++
        .did 0 (.beginProbe .status "codex") (.ok ()) ::
          (meanwhile ++ .did 0 (.storeProbe ready) (.ok ()) ::
            [.did 0 (.release .quota) (.ok ()), .left 0 (.ok (.quotas [ready]))])) := rfl

theorem failure_overwritten :
    ((run System.World.step (.initial (snapshots twoProviders) {}) failedWhileProbed).map fun w =>
        (w.state.shared.quotas "codex").map fun entry => entry.1.availability) =
      some (some .ready) ∧
      ¬∀ labels w, run System.World.step (.initial (snapshots twoProviders) {}) labels = some w →
        FailuresKept w.state.history := by
  refine ⟨by decide +kernel, fun hall => ?_⟩
  obtain ⟨w, hw, hhistory⟩ := Option.map_eq_some_iff.mp history_failedWhileProbed
  have hkept := hall failedWhileProbed w hw _ 0 "codex" (.ok ()) meanwhile ready (.ok ()) _ hhistory
  have hbegins : ∀ event ∈ meanwhile, beginsProbe 0 event = false := by decide
  have hrecorded : ∃ event ∈ meanwhile, recordsFailure ready.harnessId event = true := by decide
  obtain ⟨event, hevent, hrecords⟩ := hrecorded
  rw [hkept hbegins event hevent] at hrecords
  cases hrecords

end Failures

end JoyMesh.Snapshots
