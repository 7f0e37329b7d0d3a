import JoyMesh.Library.History
import JoyMesh.Snapshots.Service

namespace JoyMesh.Snapshots

open JoyMesh.Library JoyMesh.Routing JoyMesh.Harnesses

section Definitions

variable {setup : Setup}

def recordedAfter (harnessId : String) (recorded : Option HarnessAvailability) :
    (snapshots setup).Event → Option HarnessAvailability
  | .did _ (.setPrior entries) _ =>
      entries.foldl (fun recorded entry =>
        if entry.harnessId = harnessId then some entry.availability else recorded) recorded
  | _ => recorded

-- What the table of the service says of a harness.
def recordedAt (history : List (snapshots setup).Event) (harnessId : String) :
    Option HarnessAvailability :=
  history.foldl (recordedAfter harnessId) none

def saidAfter (harnessId : String) (said : Option HarnessAvailability) :
    (snapshots setup).Event → Option HarnessAvailability
  | .did _ (.publish snapshot) _ =>
      ((snapshot.harness harnessId).map HarnessRuntimeSnapshot.availability).or said
  | _ => said

def enters (id : Nat) : (snapshots setup).Event → Bool
  | .entered other _ => other = id
  | _ => false

-- What the last snapshot with the harness said that was published before the call.
def saidBefore (history : List (snapshots setup).Event) (id : Nat) (harnessId : String) :
    Option HarnessAvailability :=
  (history.takeWhile fun event => !enters id event).foldl (saidAfter harnessId) none

def foundBy (id : Nat) (harnessId : String) : (snapshots setup).Event → Option HarnessRuntimeSnapshot
  | .did other (.publish snapshot) (.ok _) =>
      if other = id then snapshot.harness harnessId else none
  | _ => none

-- The call has got the entry from the snapshot that it has published itself.
def Finds (history : List (snapshots setup).Event) (id : Nat) (harnessId : String)
    (entry : HarnessRuntimeSnapshot) : Prop :=
  ∃ event ∈ history, foundBy id harnessId event = some entry

-- A call that has found its harness and has ended.
structure Launch (w : (snapshots setup).World) (id : Nat) (harnessId : String)
    (required : Finset Capability) (prior : Option HarnessAvailability)
    (entry : HarnessRuntimeSnapshot) (result : Except Raised Outcome) : Prop where
  ended : w.threads id =
    some ⟨.revalidateForLaunch harnessId required prior, .ended result⟩
  found : Finds w.state.history id harnessId entry

-- The harness was said to be ready, and is found to be blocked.
structure Changes (w : (snapshots setup).World) (id : Nat) (harnessId : String)
    (entry : HarnessRuntimeSnapshot) : Prop where
  blocked : entry.availability ∈ autoBlockedAvailabilities
  said : saidBefore w.state.history id harnessId = some .ready

def RaisesLaunchError (result : Except Raised Outcome) (code : Option String) : Prop :=
  ∃ error, result = .error (.exception error) ∧ error.type = "RuntimeLaunchError" ∧
    (code.isSome → error.code = code)

structure Detects (w : (snapshots setup).World) : Prop where
  changed : ∀ id harnessId required prior entry result,
    Launch w id harnessId required prior entry result → Changes w id harnessId entry →
    RaisesLaunchError result (some "runtime_changed")
  rejects : ∀ id harnessId required prior entry result,
    Launch w id harnessId required prior entry result →
    (missingCapabilities required entry.capabilities ≠ [] ∨
      availabilityToCode entry.availability ≠ none) →
    RaisesLaunchError result none

-- Whatever has changed was told to the call: by its argument, or by what its table said when
-- the call read it.
def Told (w : (snapshots setup).World) : Prop :=
  ∀ id harnessId required prior entry result,
    Launch w id harnessId required prior entry result → Changes w id harnessId entry →
    missingCapabilities required entry.capabilities = [] ∧
      ∀ before answer after,
        w.state.history = before ++ .did id (.getPrior harnessId) answer :: after →
        (prior <|> recordedAt before harnessId) = some .ready

end Definitions

section Discipline

variable {setup : Setup} {s t : (snapshots setup).State} {id other : Nat} {op : Op}
  {shared : Shared} {answer : Except Raised op.Reply} {harnessId : String}
  {history : List (snapshots setup).Event} {event : (snapshots setup).Event}

-- What is read is what the table says.
def Reads (history : List (snapshots setup).Event) (event : (snapshots setup).Event) : Prop :=
  ∀ id harnessId answer, event = .did id (.getPrior harnessId) answer →
    answer = .ok (recordedAt history harnessId)

structure Kept (s : (snapshots setup).State) : Prop where
  reads : Throughout Reads s.history
  table : ∀ harnessId, s.shared.prior harnessId = recordedAt s.history harnessId

-- The others do nothing in the name of the call.
def Own (id : Nat) (s t : (snapshots setup).State) : Prop :=
  ∀ (op : Op) (answer : Except Raised op.Reply),
    .did id op answer ∈ t.history ↔ .did id op answer ∈ s.history

def resultOf (entry : HarnessRuntimeSnapshot) : Option RuntimeError → Except Raised Outcome
  | some error => .error (.exception error)
  | none => .ok (.entry entry)

-- How a call ends that has found its harness.
structure Ended (setup : Setup) (id : Nat) (harnessId : String) (required : Finset Capability)
    (prior : Option HarnessAvailability) (entry : HarnessRuntimeSnapshot)
    (result : Except Raised Outcome) (history : List (snapshots setup).Event) : Prop where
  read : ∃ answer, .did id (.getPrior harnessId) answer ∈ history
  launched : ∀ recorded, .did id (.getPrior harnessId) (.ok recorded) ∈ history →
    result = resultOf entry (launchError setup harnessId required (prior <|> recorded) entry)

def Leaves (id : Nat) (call : Call) (result : Except Raised Outcome)
    (s : (snapshots setup).State) : Prop :=
  match call with
  | .revalidateForLaunch harnessId required prior =>
      ∀ entry, Finds s.history id harnessId entry →
        Ended setup id harnessId required prior entry result s.history
  | _ => True

theorem finds_iff {entry : HarnessRuntimeSnapshot} : Finds history id harnessId entry ↔
    ∃ snapshot, .did id (.publish snapshot) (.ok ()) ∈ history ∧
      snapshot.harness harnessId = some entry := by
  constructor
  · rintro ⟨event, hm, hfound⟩
    unfold foundBy at hfound
    split at hfound
    next other snapshot value =>
      split at hfound
      next heq => exact ⟨snapshot, heq ▸ hm, hfound⟩
      next => cases hfound
    next => cases hfound
  · rintro ⟨snapshot, hm, hentry⟩
    exact ⟨_, hm, (if_pos rfl).trans hentry⟩

theorem recordedAt_concat : recordedAt (history ++ [event]) harnessId =
    recordedAfter harnessId (recordedAt history harnessId) event := by
  rw [recordedAt, List.foldl_append]
  rfl

theorem prior_setPrior {entries : List HarnessRuntimeSnapshot}
    {prior : String → Option HarnessAvailability} :
    entries.foldl (fun (prior : String → Option HarnessAvailability) entry =>
        Function.update prior entry.harnessId (some entry.availability)) prior harnessId =
      entries.foldl (fun recorded entry =>
        if entry.harnessId = harnessId then some entry.availability else recorded)
        (prior harnessId) := by
  induction entries generalizing prior with
  | nil => rfl
  | cons entry entries ih =>
      rw [List.foldl_cons, List.foldl_cons, ih]
      congr 1
      by_cases hentry : entry.harnessId = harnessId
      · rw [if_pos hentry, ← hentry, Function.update_self]
      · rw [if_neg hentry, Function.update_of_ne (Ne.symm hentry)]

theorem Kept.did {choice : Choice} (h : Kept s)
    (heffect : effect setup op choice s.shared = some (answer, shared)) :
    Kept (s.note (.did id op answer) shared) := by
  have hother : (∀ harnessId, op ≠ .getPrior harnessId) → shared.prior = s.shared.prior →
      (∀ harnessId recorded, recordedAfter harnessId recorded
        (.did id op answer : (snapshots setup).Event) = recorded) →
      Kept (s.note (.did id op answer) shared) := by
    intro hop hprior hrecorded
    refine ⟨throughout_concat.mpr ⟨h.reads, fun _ harnessId _ heq => ?_⟩, fun harnessId => ?_⟩
    · cases heq
      exact absurd rfl (hop harnessId)
    · rw [System.State.note_history, recordedAt_concat, hrecorded, System.State.note_shared, hprior]
      exact h.table harnessId
  cases op with
  | setPrior entries =>
      cases heffect
      refine ⟨throughout_concat.mpr ⟨h.reads, fun _ _ _ heq => by cases heq⟩, fun harnessId => ?_⟩
      rw [System.State.note_history, recordedAt_concat, recordedAfter, ← h.table]
      exact prior_setPrior
  | getPrior harnessId =>
      cases heffect
      refine ⟨throughout_concat.mpr ⟨h.reads, fun _ _ _ heq => ?_⟩, fun harnessId => ?_⟩
      · cases heq
        rw [h.table]
      · rw [System.State.note_history, recordedAt_concat]
        exact h.table harnessId
  | acquire =>
      simp only [effect] at heffect
      split at heffect
      · split at heffect <;> cases heffect
        exact hother (fun _ => Op.noConfusion) rfl fun _ _ => rfl
      · cases heffect
        exact hother (fun _ => Op.noConfusion) rfl fun _ _ => rfl
  | endProbe | publish =>
      simp only [effect, answered] at heffect
      split at heffect <;> cases heffect <;> exact hother (fun _ => Op.noConfusion) rfl fun _ _ => rfl
  | invalidateQuota harnessId =>
      cases harnessId <;> cases heffect <;>
        exact hother (fun _ => Op.noConfusion) rfl fun _ _ => rfl
  | _ =>
      cases heffect
      exact hother (fun _ => Op.noConfusion) rfl fun _ _ => rfl

theorem Kept.noted (h : Kept s) (hevent : ∀ id op answer, event ≠ .did id op answer)
    (hshared : shared.prior = s.shared.prior) : Kept (s.note event shared) := by
  refine ⟨throughout_concat.mpr ⟨h.reads, fun _ _ _ heq => absurd heq (hevent _ _ _)⟩,
    fun harnessId => ?_⟩
  rw [System.State.note_history, recordedAt_concat, System.State.note_shared, hshared, h.table]
  cases event with
  | did id op answer => exact absurd rfl (hevent id op answer)
  | _ => rfl

theorem Own.noted (hevent : ∀ op answer, event ≠ .did id op answer) : Own id s (s.note event shared) := by
  intro op answer
  rw [System.State.note_history, List.mem_append, List.mem_singleton]
  exact ⟨fun h => h.resolve_right fun heq => hevent op answer heq.symm, .inl⟩

theorem Leaves.own {call : Call} {result : Except Raised Outcome} (h : Own id s t)
    (hleaves : Leaves id call result s) : Leaves id call result t := by
  cases call with
  | revalidateForLaunch harnessId required prior =>
      intro entry hfinds
      obtain ⟨snapshot, hpublished, hentry⟩ := finds_iff.mp hfinds
      obtain ⟨⟨answer, hread⟩, hlaunched⟩ :=
        hleaves entry (finds_iff.mpr ⟨snapshot, (h _ _).mp hpublished, hentry⟩)
      exact ⟨⟨answer, (h _ _).mpr hread⟩, fun recorded hmem => hlaunched recorded ((h _ _).mp hmem)⟩
  | _ => trivial

def launchDiscipline (setup : Setup) : (snapshots setup).Discipline where
  good := Kept
  fresh id s := ∀ (op : Op) (answer : Except Raised op.Reply), .did id op answer ∉ s.history
  rely := Own
  lawful _ _ _ := True
  post := Leaves
  admitted _ _ _ := True
  allowed _ _ _ _ := True
  happens _ _ := True
  rely_refl _ _ _ _ := .rfl
  rely_trans _ _ _ _ hst htu op answer := (htu op answer).trans (hst op answer)
  fresh_rely _ _ _ h hfresh op answer := fun hmem => hfresh op answer ((h op answer).mp hmem)
  post_rely _ _ _ _ _ := .own
  step_good _ _ _ _ _ _ hgood _ _ heffect := hgood.did heffect
  step_rely _ _ _ _ _ _ _ hne _ _ _ _ := .noted fun _ _ heq => hne (by cases heq; rfl)
  enter_good _ _ _ _ hgood _ _ henter :=
    hgood.noted (fun _ _ _ heq => by cases heq) (by rw [Option.some.inj henter])
  enter_rely _ _ _ _ _ _ _ _ _ := .noted fun _ _ heq => by cases heq
  leave_good _ _ _ _ hgood _ := hgood.noted (fun _ _ _ heq => by cases heq) rfl
  leave_rely _ _ _ _ _ _ _ _ := .noted fun _ _ heq => by cases heq
  leave_post _ _ _ _ h := h.own (.noted fun _ _ heq => by cases heq)
  outside_good _ _ _ hgood _ hevent :=
    hgood.noted (fun _ _ _ heq => by cases heq) (by rw [← Option.some.inj hevent])
  outside_rely _ _ _ _ _ _ _ := .noted fun _ _ heq => by cases heq

end Discipline

section Programs

variable {setup : Setup} {s t : (snapshots setup).State} {id : Nat} {α β : Type}
  {harnessId : String} {program : SnapshotM α} {op : Op} {answer : Except Raised op.Reply}
  {shared : Shared} {result : Except Raised RuntimeSnapshot} {harnessIds : Option (List String)}

-- The awaits that publish nothing, and do not read the table.
def Quiet : Op → Prop
  | .publish _ | .getPrior _ => False
  | _ => True

def Unread (id : Nat) (s : (snapshots setup).State) : Prop :=
  ∀ harnessId answer, .did id (.getPrior harnessId) answer ∉ s.history

structure Unmarked (id : Nat) (s : (snapshots setup).State) : Prop where
  unread : Unread id s
  unpublished : ∀ snapshot answer, .did id (.publish snapshot) answer ∉ s.history

-- What the call has published is the snapshot that it has got, if it has got one.
structure Published (id : Nat) (result : Except Raised RuntimeSnapshot)
    (s : (snapshots setup).State) : Prop where
  unread : Unread id s
  got : ∀ snapshot, .did id (.publish snapshot) (.ok ()) ∈ s.history → result = .ok snapshot

theorem Quiet.of_quotaOp (h : QuotaOp op) : Quiet op := by
  cases op with
  | publish | getPrior => exact h.elim
  | _ => trivial

theorem mem_noted {other : Op} {given : Except Raised other.Reply}
    (h : .did id op answer ∈ (s.note (.did id other given) shared).history) (hne : op ≠ other) :
    .did id op answer ∈ s.history := by
  rcases List.mem_append.mp h with h | h
  · exact h
  · cases List.mem_singleton.mp h
    exact absurd rfl hne

theorem Unmarked.own (h : Unmarked id s) (hown : Own id s t) : Unmarked id t where
  unread harnessId answer hmem := h.unread harnessId answer ((hown _ _).mp hmem)
  unpublished snapshot answer hmem := h.unpublished snapshot answer ((hown _ _).mp hmem)

theorem Unmarked.did (h : Unmarked id s) (hop : Quiet op) :
    Unmarked id (s.note (.did id op answer) shared) := by
  constructor
  · intro harnessId read hmem
    refine h.unread harnessId read (mem_noted hmem ?_)
    rintro rfl
    exact hop
  · intro snapshot published hmem
    refine h.unpublished snapshot published (mem_noted hmem ?_)
    rintro rfl
    exact hop

theorem Unmarked.published {error : Raised} (h : Unmarked id s) : Published id (.error error) s :=
  ⟨h.unread, fun snapshot hmem => absurd hmem (h.unpublished snapshot _)⟩

theorem Published.own (h : Published id result s) (hown : Own id s t) : Published id result t where
  unread harnessId answer hmem := h.unread harnessId answer ((hown _ _).mp hmem)
  got snapshot hmem := h.got snapshot ((hown _ _).mp hmem)

theorem Published.did (h : Published id result s) (hop : Quiet op) :
    Published id result (s.note (.did id op answer) shared) := by
  constructor
  · intro harnessId read hmem
    refine h.unread harnessId read (mem_noted hmem ?_)
    rintro rfl
    exact hop
  · intro snapshot hmem
    refine h.got snapshot (mem_noted hmem ?_)
    rintro rfl
    exact hop

theorem Quiet.bind {next : α → SnapshotM β} {post : Except Raised β → (snapshots setup).State → Prop}
    (h : program.Every Quiet) (hunmarked : Unmarked id s)
    (hnext : ∀ value t, Unmarked id t → (next value).Holds (launchDiscipline setup) id post t)
    (herror : ∀ error t, Unmarked id t → post (.error error) t) :
    (program >>= next).Holds (launchDiscipline setup) id post s := by
  have hkept : program.Holds (launchDiscipline setup) id (fun _ t => Unmarked id t) s :=
    h.keeping (fun _ _ _ _ _ => trivial) (fun _ _ hown hunmarked => hunmarked.own hown)
      (fun _ _ _ _ _ hop hunmarked _ _ => hunmarked.did hop) hunmarked
  exact hkept.bind hnext herror

theorem publish_published {snapshot : RuntimeSnapshot} (hunmarked : Unmarked id s) :
    (publish setup snapshot).Holds (launchDiscipline setup) id
      (fun result t => Published id (result.map fun _ => snapshot) t) s := by
  refine Quiet.bind lift_every hunmarked (fun _ t h => ?_) fun _ _ h => h.published
  refine Quiet.bind lift_every h (fun _ t h => ?_) fun _ _ h => h.published
  intro u hown _
  refine ⟨trivial, fun choice answer shared _ _ => ?_⟩
  have hunmarked := h.own hown
  constructor
  · exact fun harnessId read hmem =>
      hunmarked.unread harnessId read (mem_noted hmem Op.noConfusion)
  · intro published hmem
    rcases List.mem_append.mp hmem with hmem | hmem
    · exact absurd hmem (hunmarked.unpublished published _)
    · cases List.mem_singleton.mp hmem
      rfl

theorem store_published {built : RuntimeSnapshot} (hunmarked : Unmarked id s) :
    (store setup built).Holds (launchDiscipline setup) id (Published id) s := by
  refine Quiet.bind lift_every hunmarked (fun _ t h => ?_) fun _ _ h => h.published
  refine Quiet.bind (.perform trivial) h (fun _ t h => ?_) fun _ _ h => h.published
  refine Quiet.bind (.perform trivial) h (fun _ t h => ?_) fun _ _ h => h.published
  exact (publish_published h).bind (fun _ _ h => h) fun _ _ h => h

theorem build_published {refresh : Bool} (hunmarked : Unmarked id s) :
    (build setup harnessIds refresh).Holds (launchDiscipline setup) id (Published id) s := by
  have hentry : ∀ harnessId, (buildHarness setup refresh harnessId).Every Quiet := fun harnessId =>
    .bind ((quotaSnapshot_every harnessId refresh).mono fun _ => .of_quotaOp) fun _ =>
      .perform_bind trivial fun _ => trivial
  refine Quiet.bind (.mapM hentry _) hunmarked (fun _ t h => ?_) fun _ _ h => h.published
  refine Quiet.bind (.perform trivial) h (fun _ t h => ?_) fun _ _ h => h.published
  refine Quiet.bind (.perform trivial) h (fun _ t h => ?_) fun _ _ h => h.published
  exact store_published h

theorem release_published (h : Published id result s) :
    (do let _ ← perform (.release .snapshots)
        Program.ended result : SnapshotM RuntimeSnapshot).Holds (launchDiscipline setup) id
      (Published id) s := by
  refine .perform_bind (fun _ _ _ => trivial) (fun t _ _ shared hown _ _ _ => ?_)
    fun _ _ _ _ _ _ _ heffect => by cases heffect
  exact (h.own hown).did trivial

-- A call that asks for a new snapshot publishes it while it holds the lock.
theorem snapshot_published (hunmarked : Unmarked id s) :
    (snapshot setup harnessIds true).Holds (launchDiscipline setup) id (Published id) s := by
  have hbuilt : (holding .snapshots (build setup harnessIds true)).Holds (launchDiscipline setup) id
      (Published id) s := by
    refine Quiet.bind (.perform trivial) hunmarked (fun _ u h => ?_) fun _ _ h => h.published
    have hcaught : ((build setup harnessIds true).catching fun raised => do
        let _ ← perform (.release .snapshots)
        throw raised).Holds (launchDiscipline setup) id (Published id) u :=
      (build_published h).catching (fun _ _ h => h) fun _ _ h => release_published h
    exact hcaught.bind (fun _ _ h => release_published h) fun _ _ h => h
  exact hbuilt

structure FoundEntry (id : Nat) (harnessId : String) (result : Except Raised HarnessRuntimeSnapshot)
    (s : (snapshots setup).State) : Prop where
  unread : Unread id s
  got : ∀ entry, Finds s.history id harnessId entry → result = .ok entry

theorem harnessSnapshot_found (hunmarked : Unmarked id s) :
    (harnessSnapshot setup harnessId true).Holds (launchDiscipline setup) id
      (FoundEntry id harnessId) s := by
  refine (snapshot_published hunmarked).bind (fun full t h => ?_) fun error t h => ?_
  · have hgot : ∀ entry, Finds t.history id harnessId entry → full.harness harnessId = some entry := by
      intro entry hfinds
      obtain ⟨snapshot, hpublished, hentry⟩ := finds_iff.mp hfinds
      obtain rfl := Except.ok.inj (h.got snapshot hpublished)
      exact hentry
    cases hfull : full.harness harnessId with
    | some found =>
        refine ⟨h.unread, fun entry hfound => ?_⟩
        rw [← Option.some.inj (hfull.symm.trans (hgot entry hfound))]
    | none =>
        refine ⟨h.unread, fun entry hfound => ?_⟩
        cases hfull.symm.trans (hgot entry hfound)
  · refine ⟨h.unread, fun entry hfound => ?_⟩
    obtain ⟨snapshot, hpublished, -⟩ := finds_iff.mp hfound
    cases h.got snapshot hpublished

theorem revalidate_leaves {required : Finset Capability} {prior : Option HarnessAvailability}
    (hunmarked : Unmarked id s) :
    (Call.program setup (.revalidateForLaunch harnessId required prior)).Holds
      (launchDiscipline setup) id (Leaves id (.revalidateForLaunch harnessId required prior)) s := by
  have hlaunched : (revalidateForLaunch setup harnessId required prior).Holds (launchDiscipline setup)
      id (fun result t => ∀ entry, Finds t.history id harnessId entry →
        Ended setup id harnessId required prior entry (result.map .entry) t.history) s := by
    refine (harnessSnapshot_found hunmarked).bind (fun found t h => ?_) fun error t h entry hfound => ?_
    · refine .perform_bind (fun _ _ _ => trivial) (fun u _ recorded shared hown _ _ _ => ?_)
        fun _ _ _ _ _ _ _ heffect => by cases heffect
      have hread : ∀ entry, Finds (u.note (.did id (.getPrior harnessId) (.ok recorded)) shared).history
          id harnessId entry → ∀ value,
          .did id (.getPrior harnessId) (.ok value) ∈
            (u.note (.did id (.getPrior harnessId) (.ok recorded)) shared).history →
          entry = found ∧ value = recorded := by
        intro entry hfinds value hmem
        obtain ⟨snapshot, hpublished, hentry⟩ := finds_iff.mp hfinds
        have hbefore := (hown _ _).mp (mem_noted hpublished Op.noConfusion)
        refine ⟨(Except.ok.inj (h.got entry (finds_iff.mpr ⟨snapshot, hbefore, hentry⟩))).symm, ?_⟩
        rcases List.mem_append.mp hmem with hmem | hmem
        · exact absurd ((hown _ _).mp hmem) (h.unread harnessId _)
        · cases List.mem_singleton.mp hmem
          rfl
      have hlast : .did id (.getPrior harnessId) (.ok recorded) ∈
          (u.note (.did id (.getPrior harnessId) (.ok recorded)) shared).history :=
        List.mem_append_right _ (List.mem_singleton_self _)
      cases herror : launchError setup harnessId required (prior <|> recorded) found with
      | some error =>
          refine fun entry hfound => ⟨⟨_, hlast⟩, fun value hvalue => ?_⟩
          obtain ⟨rfl, rfl⟩ := hread entry hfound value hvalue
          rw [herror]
          rfl
      | none =>
          refine fun entry hfound => ⟨⟨_, hlast⟩, fun value hvalue => ?_⟩
          obtain ⟨rfl, rfl⟩ := hread entry hfound value hvalue
          rw [herror]
          rfl
    · cases h.got entry hfound
  exact hlaunched.bind (fun _ _ h => h) fun _ _ h => h

theorem launch_programs : (launchDiscipline setup).Programs := by
  intro id call s t _ hfresh _ _
  have hunmarked : Unmarked id (s.note (.entered id call) t) := by
    have hnone : ∀ (op : Op) (answer : Except Raised op.Reply),
        .did id op answer ∉ (s.note (.entered id call) t).history := by
      intro op answer hmem
      rcases List.mem_append.mp hmem with hmem | hmem
      · exact hfresh op answer hmem
      · cases List.mem_singleton.mp hmem
    exact ⟨fun _ _ => hnone _ _, fun _ _ => hnone _ _⟩
  have hany : (Call.program setup call).Every fun _ => True := .of_forall fun _ => trivial
  cases call with
  | revalidateForLaunch harnessId required prior => exact revalidate_leaves hunmarked
  | _ => exact hany.holds (fun _ _ _ _ => trivial) fun _ _ => trivial

end Programs

section Launches

variable {setup : Setup} {harnessId : String} {required : Finset Capability}
  {prior : Option HarnessAvailability} {entry : HarnessRuntimeSnapshot}

theorem code_of_blocked (h : entry.availability ∈ autoBlockedAvailabilities) :
    availabilityToCode entry.availability = some entry.availability.value :=
  if_pos (List.contains_iff_mem.mpr h)

theorem launchError_rejects (h : missingCapabilities required entry.capabilities ≠ [] ∨
    availabilityToCode entry.availability ≠ none) :
    ∃ error, launchError setup harnessId required prior entry = some error ∧
      error.type = "RuntimeLaunchError" := by
  unfold launchError
  by_cases hmissing : missingCapabilities required entry.capabilities = []
  · cases hcode : availabilityToCode entry.availability with
    | none => exact absurd hcode (h.resolve_left (not_not.mpr hmissing))
    | some code =>
        simp only [hmissing, ne_eq, not_true_eq_false, if_false]
        split_ifs
        · exact ⟨_, rfl, rfl⟩
        · exact ⟨_, rfl, rfl⟩
  · rw [if_pos hmissing]
    exact ⟨_, rfl, rfl⟩

-- The change is told only if the value before it is known.
theorem launchError_changed_iff (h : entry.availability ∈ autoBlockedAvailabilities) :
    (∃ error, launchError setup harnessId required prior entry = some error ∧
        error.code = some "runtime_changed") ↔
      missingCapabilities required entry.capabilities = [] ∧ prior = some .ready := by
  have hvalue : entry.availability.value ≠ "runtime_changed" := by
    revert h
    cases entry.availability <;> decide
  simp only [launchError, code_of_blocked h, List.contains_iff_mem.mpr h, and_true]
  by_cases hmissing : missingCapabilities required entry.capabilities = []
  · rw [if_neg (not_not.mpr hmissing)]
    by_cases hprior : prior = some .ready
    · rw [if_pos hprior]
      exact iff_of_true ⟨_, rfl, rfl⟩ ⟨hmissing, hprior⟩
    · rw [if_neg hprior]
      refine iff_of_false ?_ fun hready => hprior hready.2
      rintro ⟨error, herror, hcode⟩
      obtain rfl := Option.some.inj herror
      exact hvalue (Option.some.inj hcode)
  · rw [if_pos hmissing]
    refine iff_of_false ?_ fun hready => hmissing hready.1
    rintro ⟨error, herror, hcode⟩
    obtain rfl := Option.some.inj herror
    exact absurd (Option.some.inj hcode) (by decide)

end Launches

section Runs

variable {setup : Setup} {w : (snapshots setup).World} {labels : List (snapshots setup).Label}
  {id : Nat} {harnessId : String} {required : Finset Capability}
  {prior : Option HarnessAvailability} {entry : HarnessRuntimeSnapshot}
  {result : Except Raised Outcome}

theorem launch_sound
    (hrun : run System.World.step (.initial (snapshots setup) {}) labels = some w) :
    (launchDiscipline setup).Sound w := by
  have hinitial : (launchDiscipline setup).Sound (.initial (snapshots setup) {}) :=
    System.Discipline.sound_initial ⟨throughout_nil, fun _ => rfl⟩ fun _ _ _ h => by cases h
  refine hinitial.run launch_programs (along_iff_forall.mpr fun _ label _ _ _ _ => ?_) hrun
  cases label with
  | start => trivial
  | go => exact fun _ _ => trivial
  | outside => trivial

-- How a call ends that has found its harness: what it reads is what the table says then.
theorem Launch.launched (hsound : (launchDiscipline setup).Sound w)
    (h : Launch w id harnessId required prior entry result) :
    (∃ before answer after,
        w.state.history = before ++ .did id (.getPrior harnessId) answer :: after) ∧
      ∀ before answer after,
        w.state.history = before ++ .did id (.getPrior harnessId) answer :: after →
        result = resultOf entry
          (launchError setup harnessId required (prior <|> recordedAt before harnessId) entry) := by
  obtain ⟨⟨answer, hread⟩, hlaunched⟩ := hsound.ended h.ended entry h.found
  obtain ⟨before, after, hsplit⟩ := List.append_of_mem hread
  refine ⟨⟨before, answer, after, hsplit⟩, fun before answer after hsplit => ?_⟩
  have hanswer := hsound.good.reads before _ after hsplit id harnessId answer rfl
  refine hlaunched _ ?_
  rw [hsplit, hanswer]
  exact List.mem_append_right _ List.mem_cons_self

-- A change is detected exactly where the call was told of the READY before it.
theorem Launch.changed_iff (hsound : (launchDiscipline setup).Sound w)
    (h : Launch w id harnessId required prior entry result)
    (hchanges : Changes w id harnessId entry) {before after : List (snapshots setup).Event}
    {answer : Except Raised (Option HarnessAvailability)}
    (hsplit : w.state.history = before ++ .did id (.getPrior harnessId) answer :: after) :
    RaisesLaunchError result (some "runtime_changed") ↔
      missingCapabilities required entry.capabilities = [] ∧
        (prior <|> recordedAt before harnessId) = some .ready := by
  rw [(h.launched hsound).2 before answer after hsplit, ← @launchError_changed_iff setup harnessId
    _ _ _ hchanges.blocked]
  cases herror : launchError setup harnessId required (prior <|> recordedAt before harnessId) entry
    with
  | none =>
      constructor
      · rintro ⟨error, hresult, -⟩
        cases hresult
      · rintro ⟨error, hraised, -⟩
        cases hraised
  | some raised =>
      constructor
      · rintro ⟨error, hresult, -, hcode⟩
        cases hresult
        exact ⟨raised, rfl, hcode rfl⟩
      · rintro ⟨error, hraised, hcode⟩
        obtain rfl := Option.some.inj hraised
        obtain ⟨other, hother, htype⟩ := @launchError_rejects setup harnessId required
          (prior <|> recordedAt before harnessId) entry
          (.inr (by rw [code_of_blocked hchanges.blocked]; exact Option.some_ne_none _))
        obtain rfl := Option.some.inj (herror.symm.trans hother)
        exact ⟨raised, rfl, htype, fun _ => hcode⟩

-- Where the call reads its table before another call has recorded anything, as in asyncio, the
-- table repeats the call's own snapshot: only a READY that is given as argument tells it.
theorem Launch.changed_iff_given {id : Nat} {harnessId : String} {required : Finset Capability}
    {prior : Option HarnessAvailability} {entry : HarnessRuntimeSnapshot}
    {result : Except Raised Outcome}
    (hrun : run System.World.step (.initial (snapshots setup) {}) labels = some w)
    (h : Launch w id harnessId required prior entry result) (hchanges : Changes w id harnessId entry)
    (hown : ∀ before answer after,
      w.state.history = before ++ .did id (.getPrior harnessId) answer :: after →
      recordedAt before harnessId = some entry.availability) :
    RaisesLaunchError result (some "runtime_changed") ↔
      missingCapabilities required entry.capabilities = [] ∧ prior = some .ready := by
  have hsound := launch_sound hrun
  obtain ⟨before, answer, after, hsplit⟩ := (h.launched hsound).1
  have hblocked : entry.availability ≠ .ready := by
    rintro hready
    exact absurd (hready ▸ hchanges.blocked) (by decide)
  rw [h.changed_iff hsound hchanges hsplit, hown before answer after hsplit]
  cases prior with
  | none => simp [hblocked]
  | some given => rfl

-- Over every run: a change is detected exactly where the call was told of the READY before it.
-- What the table says when it is read comes from the call's own snapshot, or from one that
-- another call has recorded since.
theorem launch_detects_iff
    (hrun : run System.World.step (.initial (snapshots setup) {}) labels = some w) :
    Detects w ↔ Told w := by
  have hsound := launch_sound hrun
  constructor
  · intro hdetects id harnessId required prior entry result hlaunch hchanges
    have hraises := hdetects.changed id harnessId required prior entry result hlaunch hchanges
    obtain ⟨before, answer, after, hsplit⟩ := (hlaunch.launched hsound).1
    exact ⟨((hlaunch.changed_iff hsound hchanges hsplit).mp hraises).1, fun _ _ _ hother =>
      ((hlaunch.changed_iff hsound hchanges hother).mp hraises).2⟩
  · intro htold
    constructor
    · intro id harnessId required prior entry result hlaunch hchanges
      obtain ⟨before, answer, after, hsplit⟩ := (hlaunch.launched hsound).1
      obtain ⟨hmissing, hread⟩ := htold id harnessId required prior entry result hlaunch hchanges
      exact (hlaunch.changed_iff hsound hchanges hsplit).mpr
        ⟨hmissing, hread before answer after hsplit⟩
    · intro id harnessId required prior entry result hlaunch hrejected
      obtain ⟨⟨before, answer, after, hsplit⟩, hlaunched⟩ := hlaunch.launched hsound
      obtain ⟨error, herror, htype⟩ := @launchError_rejects setup harnessId required
        (prior <|> recordedAt before harnessId) entry hrejected
      refine ⟨error, ?_, htype, fun hcode => by cases hcode⟩
      rw [hlaunched before answer after hsplit, herror]
      rfl

-- A harness that was ready is found to be signed out.
def signedOut : QuotaSnapshot :=
  applyObservation twoProviders.python ⟨0, true⟩ ready
    { success := false, failureKind := some .authentication }

def launchedWith (prior : Option HarnessAvailability) : List (snapshots twoProviders).Label :=
  [.start 0 (.harnessSnapshot "codex" true)] ++ goes 0 13 ++
    [.start 1 (.revalidateForLaunch "codex" ∅ prior)] ++ List.replicate 14 (.go 1 { probe := signedOut })

theorem told_calls :
    (run System.World.step (.initial (snapshots twoProviders) {}) (launchedWith (some .ready))).map
        (fun w => ((w.returned 0).map Prod.fst, (w.returned 1).map Prod.fst)) =
      some (some (.harnessSnapshot "codex" true),
        some (.revalidateForLaunch "codex" ∅ (some .ready))) := by
  decide +kernel

theorem told_detected :
    ∃ w, run System.World.step (.initial (snapshots twoProviders) {})
      (launchedWith (some .ready)) = some w ∧ Detects w := by
  obtain ⟨w, hrun, hcalls⟩ := Option.map_eq_some_iff.mp told_calls
  refine ⟨w, hrun, (launch_detects_iff hrun).mpr ?_⟩
  intro id harnessId required prior entry result hlaunch _
  have hreturned : (w.returned id).map Prod.fst =
      some (.revalidateForLaunch harnessId required prior) := by
    rw [System.World.returned, hlaunch.ended]
    rfl
  have hid : id ∈ (launchedWith (some .ready)).filterMap System.Label.started :=
    (System.World.started_of_thread hrun hlaunch.ended).resolve_left fun ⟨_, hnone⟩ => by cases hnone
  have hids : (launchedWith (some .ready)).filterMap System.Label.started = [0, 1] := by decide
  obtain ⟨hfirst, hsecond⟩ := Prod.mk.inj hcalls
  rw [hids] at hid
  rcases List.mem_pair.mp hid with rfl | rfl
  · cases hfirst.symm.trans hreturned
  · obtain ⟨rfl, rfl, rfl⟩ := Call.revalidateForLaunch.inj
      (Option.some.inj (hsecond.symm.trans hreturned))
    exact ⟨by simp [missingCapabilities], fun _ _ _ _ => rfl⟩

def codeOf : Except Raised Outcome → Option String
  | .error (.exception error) => error.code
  | _ => none

-- The table is overwritten by the call itself before it is read.
theorem untold_outcome :
    (run System.World.step (.initial (snapshots twoProviders) {}) (launchedWith none)).map
        (fun w => ((w.returned 1).map fun ended => (ended.1, codeOf ended.2),
          (w.state.history.findSome? (foundBy 1 "codex")).map (·.availability),
          saidBefore w.state.history 1 "codex")) =
      some (some (.revalidateForLaunch "codex" ∅ none, some "authentication_required"),
        some .authenticationRequired, some .ready) := by
  decide +kernel

theorem change_undetected :
    ¬∀ labels w, run System.World.step (.initial (snapshots twoProviders) {}) labels = some w →
      Detects w := by
  intro hall
  obtain ⟨w, hrun, houtcome⟩ := Option.map_eq_some_iff.mp untold_outcome
  obtain ⟨hreturned, hrest⟩ := Prod.mk.inj houtcome
  obtain ⟨hfound, hsaid⟩ := Prod.mk.inj hrest
  obtain ⟨⟨call, result⟩, hended, heq⟩ := Option.map_eq_some_iff.mp hreturned
  obtain ⟨rfl, hcode⟩ := Prod.mk.inj heq
  obtain ⟨entry, hentry, hblocked⟩ := Option.map_eq_some_iff.mp hfound
  obtain ⟨event, hm, hentry⟩ := List.exists_of_findSome?_eq_some hentry
  obtain ⟨error, rfl, -, hchanged⟩ := (hall _ w hrun).changed 1 "codex" ∅ none entry result
    ⟨System.World.thread_of_returned hended, event, hm, hentry⟩
    ⟨by rw [hblocked]; decide, hsaid⟩
  exact absurd (hcode.symm.trans (hchanged rfl)) (by decide)

end Runs

end JoyMesh.Snapshots
