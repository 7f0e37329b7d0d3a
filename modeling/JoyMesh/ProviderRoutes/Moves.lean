import JoyMesh.ProviderRoutes.Steps

namespace JoyMesh.ProviderRoutes

namespace Recovery

-- The round that starts with the first listed lease that is not passed over.
inductive StartsIn (listed : List ProviderRouteLease) : Recovery → Prop
  | skip {lease : ProviderRouteLease} {rest : List ProviderRouteLease}
      {reports : List RecoveryReport} (hsub : lease :: rest <:+ listed)
      (hflag : lease.details.get "restore_on_expiry" = .bool false) :
      StartsIn listed (.round lease rest reports .skip)
  | claim {lease : ProviderRouteLease} {rest : List ProviderRouteLease}
      {reports : List RecoveryReport} (hsub : lease :: rest <:+ listed)
      (hflag : lease.details.get "restore_on_expiry" ≠ .bool false) :
      StartsIn listed (.round lease rest reports .claim)

variable {frame : Recovery} {managerId : String} {connectors : Option (List String)}

theorem StartsIn.mono {first second : List ProviderRouteLease} (h : StartsIn first frame)
    (hsub : first <:+ second) : StartsIn second frame := by
  cases h with
  | skip hs hflag => exact .skip (hs.trans hsub) hflag
  | claim hs hflag => exact .claim (hs.trans hsub) hflag

theorem startsIn_of_next {reports : List RecoveryReport} {listed : List ProviderRouteLease}
    (h : next managerId connectors reports listed = .going frame) : StartsIn listed frame := by
  induction listed with
  | nil => cases h
  | cons lease rest ih =>
      rw [next] at h
      split at h
      · split at h
        next hflag =>
          rw [← RecoveryNext.going.inj h]
          exact .skip List.suffix_rfl hflag
        next hflag =>
          rw [← RecoveryNext.going.inj h]
          exact .claim List.suffix_rfl hflag
      · exact (ih h).mono (List.suffix_cons lease rest)

-- What a recovery that goes on can do with an answer.
inductive Goes (ids : Ids) : Recovery → Answer → Recovery → Prop
  | listed {found : List ProviderRouteLease} {late : Bool} {frame : Recovery}
      (h : StartsIn found frame) : Goes ids .list (.store (.leases found) late) frame
  | onward {lease : ProviderRouteLease} {rest : List ProviderRouteLease}
      {reports : List RecoveryReport} {pc : RecoverPc} {answer : Answer} {frame : Recovery}
      (h : StartsIn rest frame) : Goes ids (.round lease rest reports pc) answer frame
  | claimed {lease claimed : ProviderRouteLease} {rest : List ProviderRouteLease}
      {reports : List RecoveryReport} {late : Bool} :
      Goes ids (.round lease rest reports .claim) (.store (.lease (some claimed)) late)
        (.round lease rest reports (.lockWait claimed ("recovery:" ++ ids.first)))
  | locked {lease claimed : ProviderRouteLease} {owner : String}
      {rest : List ProviderRouteLease} {reports : List RecoveryReport} :
      Goes ids (.round lease rest reports (.lockWait claimed owner)) .locked
        (.round lease rest reports (.restore claimed owner))
  | mutated {lease claimed : ProviderRouteLease} {owner : String}
      {rest : List ProviderRouteLease} {reports : List RecoveryReport} {answer : Answer} :
      Goes ids (.round lease rest reports (.restore claimed owner)) answer
        (.round lease rest reports (.verify claimed owner))
  | settled {lease claimed : ProviderRouteLease} {owner : String}
      {rest : List ProviderRouteLease} {reports : List RecoveryReport} {pc : RecoverPc}
      {answer : Answer} {outcome : RestoreOutcome}
      (hpc : pc = .restore claimed owner ∨ pc = .verify claimed owner) :
      Goes ids (.round lease rest reports pc) answer
        (.round lease rest reports (.mark claimed owner outcome))
  | marked {lease claimed : ProviderRouteLease} {owner : String}
      {rest : List ProviderRouteLease} {reports : List RecoveryReport} {late : Bool}
      {outcome : RestoreOutcome} {found : Option ProviderRouteLease}
      (hfailed : status outcome = "recovery_failed") :
      Goes ids (.round lease rest reports (.mark claimed owner outcome)) (.store (.lease found) late)
        (.round lease rest reports (.block claimed outcome))
  | unmarked {lease claimed : ProviderRouteLease} {owner : String}
      {rest : List ProviderRouteLease} {reports : List RecoveryReport} {late : Bool}
      {outcome : RestoreOutcome} {failure : StoreFailure} :
      Goes ids (.round lease rest reports (.mark claimed owner outcome))
        (.store (.raised failure) late) (.round lease rest reports (.failBlock (.failure failure)))
  | unblocked {lease claimed : ProviderRouteLease} {rest : List ProviderRouteLease}
      {reports : List RecoveryReport} {late : Bool} {outcome : RestoreOutcome}
      {failure : StoreFailure} :
      Goes ids (.round lease rest reports (.block claimed outcome))
        (.store (.raised failure) late) (.round lease rest reports (.failBlock (.failure failure)))
  | failBlocked {lease : ProviderRouteLease} {rest : List ProviderRouteLease}
      {reports : List RecoveryReport} {late : Bool} {error : Raised} :
      Goes ids (.round lease rest reports (.failBlock error)) (.store .done late)
        (.round lease rest reports (.failMark error))

theorem goes_of_resume {ids : Ids} {after : Recovery} {answer : Answer} {unlock : Bool}
    (h : frame.resume ids managerId connectors answer = some ⟨.going after, unlock⟩) :
    Goes ids frame answer after := by
  cases frame with
  | list =>
      cases answer with
      | store reply late =>
          cases reply with
          | leases found =>
              simp only [resume, Option.some.injEq, Resumed.mk.injEq] at h
              exact .listed (startsIn_of_next h.1)
          | _ => cases h
      | _ => cases h
  | round lease rest reports pc =>
      simp only [resume] at h
      split at h
      · simp only [Option.some.injEq, Resumed.mk.injEq] at h
        exact .onward (startsIn_of_next h.1)
      · simp at h
      · simp only [Option.some.injEq, Resumed.mk.injEq, RecoveryNext.going.injEq] at h
        rw [← h.1]
        exact .claimed
      · split at h
        · simp only [Option.some.injEq, Resumed.mk.injEq] at h
          exact .onward (startsIn_of_next h.1)
        · simp at h
      · simp at h
      · simp only [Option.some.injEq, Resumed.mk.injEq, RecoveryNext.going.injEq] at h
        rw [← h.1]
        exact .locked
      · obtain ⟨outcome, -, ho⟩ := Option.map_eq_some_iff.mp h
        split at ho
        · simp only [Resumed.mk.injEq, RecoveryNext.going.injEq] at ho
          rw [← ho.1]
          exact .mutated
        · simp only [Resumed.mk.injEq, RecoveryNext.going.injEq] at ho
          rw [← ho.1]
          exact .settled (.inl rfl)
      · obtain ⟨outcome, -, ho⟩ := Option.map_eq_some_iff.mp h
        simp only [Resumed.mk.injEq, RecoveryNext.going.injEq] at ho
        rw [← ho.1]
        exact .settled (.inr rfl)
      · split at h
        next hfailed =>
          simp only [Option.some.injEq, Resumed.mk.injEq, RecoveryNext.going.injEq] at h
          rw [← h.1]
          exact .marked hfailed
        next =>
          simp only [Option.some.injEq, Resumed.mk.injEq] at h
          exact .onward (startsIn_of_next h.1)
      · simp only [Option.some.injEq, Resumed.mk.injEq, RecoveryNext.going.injEq] at h
        rw [← h.1]
        exact .unmarked
      · simp only [Option.some.injEq, Resumed.mk.injEq] at h
        exact .onward (startsIn_of_next h.1)
      · simp only [Option.some.injEq, Resumed.mk.injEq, RecoveryNext.going.injEq] at h
        rw [← h.1]
        exact .unblocked
      · simp only [Option.some.injEq, Resumed.mk.injEq, RecoveryNext.going.injEq] at h
        rw [← h.1]
        exact .failBlocked
      · simp at h
      · simp only [Option.some.injEq, Resumed.mk.injEq] at h
        exact .onward (startsIn_of_next h.1)
      · simp only [Option.some.injEq, Resumed.mk.injEq] at h
        exact .onward (startsIn_of_next h.1)
      · simp at h
      · cases h

end Recovery

namespace Lifecycle

-- What a lifecycle can do with an answer.
inductive Goes (ids : Ids) (args : LifecycleArgs) : LifecyclePc → Answer → LifecyclePc → Prop
  | unblocked {late : Bool} :
      Goes ids args .checkBlock (.store (.reason none) late) (.recovering .list)
  | recovering {frame after : Recovery} {answer : Answer} (h : Recovery.Goes ids frame answer after) :
      Goes ids args (.recovering frame) answer (.recovering after)
  | recovered {frame : Recovery} {answer : Answer} : Goes ids args (.recovering frame) answer .lockWait
  | locked : Goes ids args .lockWait .locked .inspect
  | inspected {reading : ProviderRoute} : Goes ids args .inspect (.route reading) (.acquire reading)
  | acquired {current : ProviderRoute} {lease : ProviderRouteLease} {late : Bool}
      (h : needEnable current.state args.targetProviderId args.modelId = true) :
      Goes ids args (.acquire current) (.store (.lease (some lease)) late) (.enable ⟨current, lease⟩)
  | acquiredEnabled {current : ProviderRoute} {lease : ProviderRouteLease} {late : Bool}
      (h : needEnable current.state args.targetProviderId args.modelId = false) :
      Goes ids args (.acquire current) (.store (.lease (some lease)) late) (.renew ⟨current, lease⟩)
  | refused {current : ProviderRoute} {late : Bool} :
      Goes ids args (.acquire current) (.store (.lease none) late) (.poll current)
  | polled {current : ProviderRoute} : Goes ids args (.poll current) .slept (.acquire current)
  | enabled {held : Held} {result : MutationResult} (h : result.ok = true) :
      Goes ids args (.enable held) (.mutated result) (.verify held)
  | verified {held : Held} {reading : ProviderRoute} (h : reading.state.enabled = true) :
      Goes ids args (.verify held) (.route reading) (.renew held)
  | renewed {held : Held} {found : Option ProviderRouteLease} {late : Bool} :
      Goes ids args (.renew held) (.store (.lease found) late) (.execute held)
  | cleaning {pc : LifecyclePc} {held : Held} {answer : Answer} {work : Work}
      (h : pc = .enable held ∨ pc = .verify held ∨ pc = .renew held ∨ pc = .execute held) :
      Goes ids args pc answer (.restore held work .waiting)
  | restored {held : Held} {work : Work} {watch : Watch} {answer : Answer} :
      Goes ids args (.restore held work watch) answer (.restoreVerify held work watch)
  | settled {pc : LifecyclePc} {held : Held} {work : Work} {watch : Watch} {answer : Answer}
      {outcome : RestoreOutcome} (h : pc = .restore held work watch ∨ pc = .restoreVerify held work watch) :
      Goes ids args pc answer (.release held work outcome watch)
  | finished {pc : LifecyclePc} {answer : Answer} {ending : Ending LifecycleResult}
      (h : pc.held = none ∨ ∃ held work outcome watch, pc = .release held work outcome watch) :
      Goes ids args pc answer (.finished ending)

theorem afterCleanup_finished (key : Key) (held : Held) (work : Work) (outcome : RestoreOutcome)
    (watch : Watch) : ∃ ending, (afterCleanup key held work outcome watch).next = .finished ending := by
  cases watch with
  | waiting =>
      simp only [afterCleanup]
      split <;> exact ⟨_, rfl⟩
  | interrupted => exact ⟨_, rfl⟩
  | left => exact ⟨_, rfl⟩

variable {held : Held} {ids : Ids} {args : LifecycleArgs} {answer : Answer}
  {resumed : Resumed LifecyclePc} {next : LifecyclePc}

theorem goes_of_resume {key : Key} {pc : LifecyclePc}
    (h : resume ids key args pc answer = some resumed) : Goes ids args pc answer resumed.next := by
  cases pc with
  | checkBlock =>
      simp only [resume] at h
      split at h <;> cases h
      · exact .finished (.inl rfl)
      · exact .unblocked
  | recovering frame =>
      simp only [resume] at h
      obtain ⟨⟨next, unlock⟩, hnext, hr⟩ := Option.map_eq_some_iff.mp h
      subst hr
      cases next with
      | going after => exact .recovering (Recovery.goes_of_resume hnext)
      | finished => exact .recovered
      | raised => exact .finished (.inl rfl)
  | lockWait =>
      simp only [resume] at h
      split at h <;> cases h
      · exact .locked
      · exact .finished (.inl rfl)
  | inspect =>
      simp only [resume] at h
      split at h <;> cases h
      · exact .inspected
      · exact .finished (.inl rfl)
  | acquire current =>
      simp only [resume] at h
      split at h
      · split at h <;> cases h
        next hneed => exact .acquired hneed
        next hneed => exact .acquiredEnabled (by simpa using hneed)
      · split at h <;> cases h
        · exact .finished (.inl rfl)
        · exact .refused
      · cases h
  | poll current =>
      simp only [resume] at h
      split at h <;> cases h
      exact .polled
  | enable held =>
      simp only [resume] at h
      split at h
      · split at h <;> cases h
        next hok => exact .enabled hok
        next => exact .cleaning (.inl rfl)
      · cases h
        exact .cleaning (.inl rfl)
      · cases h
  | verify held =>
      simp only [resume] at h
      split at h
      · split at h <;> cases h
        next hon => exact .verified hon
        next => exact .cleaning (.inr (.inl rfl))
      · cases h
        exact .cleaning (.inr (.inl rfl))
      · cases h
  | renew held =>
      simp only [resume] at h
      split at h <;> cases h
      · exact .renewed
      · exact .cleaning (.inr (.inr (.inl rfl)))
  | execute held =>
      simp only [resume] at h
      split at h <;> cases h
      · exact .cleaning (.inr (.inr (.inr rfl)))
      · exact .cleaning (.inr (.inr (.inr rfl)))
  | restore held work watch =>
      obtain ⟨outcome, -, hr⟩ := Option.map_eq_some_iff.mp h
      rw [← hr]
      cases outcome with
      | none => exact .restored
      | some outcome => exact .settled (.inl rfl)
  | restoreVerify held work watch =>
      obtain ⟨outcome, -, hr⟩ := Option.map_eq_some_iff.mp h
      rw [← hr]
      exact .settled (.inr rfl)
  | release held work outcome watch =>
      obtain ⟨ending, hnext⟩ := afterCleanup_finished key held work outcome watch
      simp only [resume] at h
      split at h <;> cases h <;> rw [hnext]
      · exact .finished (.inr ⟨_, _, _, _, rfl⟩)
      · exact .finished (.inr ⟨_, _, _, _, rfl⟩)
  | finished => cases h

-- What a lifecycle holds it held before, or the awaited acquisition granted it.
theorem held_of_goes {pc : LifecyclePc} (h : Goes ids args pc answer next)
    (hheld : next.held = some held) :
    pc.held = some held ∨
      ∃ late, pc = .acquire held.current ∧ answer = .store (.lease (some held.lease)) late := by
  cases h with
  | acquired =>
      cases hheld
      exact .inr ⟨_, rfl, rfl⟩
  | acquiredEnabled =>
      cases hheld
      exact .inr ⟨_, rfl, rfl⟩
  | enabled => exact .inl (by simpa only [LifecyclePc.held] using hheld)
  | verified => exact .inl (by simpa only [LifecyclePc.held] using hheld)
  | renewed => exact .inl (by simpa only [LifecyclePc.held] using hheld)
  | cleaning hpc =>
      rcases hpc with rfl | rfl | rfl | rfl <;>
        exact .inl (by simpa only [LifecyclePc.held] using hheld)
  | restored => exact .inl (by simpa only [LifecyclePc.held] using hheld)
  | settled hpc =>
      rcases hpc with rfl | rfl <;> exact .inl (by simpa only [LifecyclePc.held] using hheld)
  | _ => simp only [LifecyclePc.held, reduceCtorEq] at hheld

-- What a cancellation can make of a lifecycle: it ends, it starts its cleanup,
-- or it goes on with the cleanup under another watch.
inductive Cancelled : LifecyclePc → LifecyclePc → Prop
  | ended {pc : LifecyclePc} (h : pc.held = none) :
      Cancelled pc (.finished (.raised .cancelledError))
  | cleaning {pc : LifecyclePc} {held : Held} {work : Work}
      (h : pc = .enable held ∨ pc = .verify held ∨ pc = .renew held ∨ pc = .execute held) :
      Cancelled pc (.restore held work .waiting)
  | watched {watch after : Watch} {pc : Watch → LifecyclePc} {held : Held}
      (h : (∃ work, pc = .restore held work) ∨ (∃ work, pc = .restoreVerify held work) ∨
        ∃ work outcome, pc = .release held work outcome) :
      Cancelled (pc watch) (pc after)

theorem cancelled_of_watched {pc : Watch → LifecyclePc} {watch : Watch}
    (h : watched pc watch = some resumed)
    (hpc : (∃ work, pc = .restore held work) ∨ (∃ work, pc = .restoreVerify held work) ∨
      ∃ work outcome, pc = .release held work outcome) : Cancelled (pc watch) resumed.next := by
  cases watch with
  | waiting =>
      rw [← Option.some.inj h]
      exact .watched hpc
  | interrupted =>
      rw [← Option.some.inj h]
      exact .watched hpc
  | left => cases h

theorem cancelled_of_cancel {pc : LifecyclePc} (h : cancel pc = some resumed) :
    Cancelled pc resumed.next := by
  cases pc with
  | enable held =>
      rw [← Option.some.inj h]
      exact .cleaning (.inl rfl)
  | verify held =>
      rw [← Option.some.inj h]
      exact .cleaning (.inr (.inl rfl))
  | renew held =>
      rw [← Option.some.inj h]
      exact .cleaning (.inr (.inr (.inl rfl)))
  | execute held =>
      rw [← Option.some.inj h]
      exact .cleaning (.inr (.inr (.inr rfl)))
  | restore held work watch => exact cancelled_of_watched h (.inl ⟨work, rfl⟩)
  | restoreVerify held work watch => exact cancelled_of_watched h (.inr (.inl ⟨work, rfl⟩))
  | release held work outcome watch =>
      exact cancelled_of_watched h (.inr (.inr ⟨work, outcome, rfl⟩))
  | finished => cases h
  | _ =>
      rw [← Option.some.inj h]
      exact .ended rfl

theorem held_of_cancelled {pc : LifecyclePc} (h : Cancelled pc next) (hheld : next.held = some held) :
    pc.held = some held := by
  cases h with
  | ended => simp only [LifecyclePc.held, reduceCtorEq] at hheld
  | cleaning hpc =>
      rcases hpc with rfl | rfl | rfl | rfl <;> simpa only [LifecyclePc.held] using hheld
  | watched hpc =>
      rcases hpc with ⟨work, rfl⟩ | ⟨work, rfl⟩ | ⟨work, outcome, rfl⟩ <;>
        simpa only [LifecyclePc.held] using hheld

end Lifecycle

namespace Serialised

-- What a serialised mutation can do with an answer, as far as its lease and its
-- recovery go.
inductive Goes (ids : Ids) : SerialisedPc → Answer → SerialisedPc → Prop
  | unblocked {late : Bool} : Goes ids .checkBlock (.store (.reason none) late) (.recovering .list)
  | recovering {frame after : Recovery} {answer : Answer} (h : Recovery.Goes ids frame answer after) :
      Goes ids (.recovering frame) answer (.recovering after)
  | acquired {current : ProviderRoute} {lease : ProviderRouteLease} {late : Bool} :
      Goes ids (.acquire current) (.store (.lease (some lease)) late) (.mutate lease)
  | releasing {lease : ProviderRouteLease} {answer : Answer} {ending : Ending Value} :
      Goes ids (.mutate lease) answer (.release lease ending)
  | other {pc after : SerialisedPc} {answer : Answer} (hlease : after.lease = none)
      (hframe : after.frame = none) : Goes ids pc answer after

variable {ids : Ids} {pc : SerialisedPc} {answer : Answer} {resumed : Resumed SerialisedPc}

theorem goes_of_resume {key : Key} (h : resume ids key pc answer = some resumed) :
    Goes ids pc answer resumed.next := by
  cases pc with
  | checkBlock =>
      simp only [resume] at h
      split at h <;> cases h
      · exact .other rfl rfl
      · exact .unblocked
  | recovering frame =>
      simp only [resume] at h
      obtain ⟨⟨next, unlock⟩, hnext, hr⟩ := Option.map_eq_some_iff.mp h
      subst hr
      cases next with
      | going after => exact .recovering (Recovery.goes_of_resume hnext)
      | finished => exact .other rfl rfl
      | raised => exact .other rfl rfl
  | acquire current =>
      simp only [resume] at h
      split at h
      · cases h
        exact .acquired
      · split at h <;> cases h <;> exact .other rfl rfl
      · cases h
  | mutate lease =>
      simp only [resume] at h
      split at h <;> cases h <;> exact .releasing
  | finished => cases h
  | _ =>
      simp only [resume] at h
      split at h <;> cases h <;> exact .other rfl rfl

theorem lease_of_goes {next : SerialisedPc} {lease : ProviderRouteLease}
    (h : Goes ids pc answer next) (hlease : next.lease = some lease) :
    pc.lease = some lease ∨
      ∃ current late, pc = .acquire current ∧ answer = .store (.lease (some lease)) late := by
  cases h with
  | acquired =>
      cases hlease
      exact .inr ⟨_, _, rfl, rfl⟩
  | releasing => exact .inl (by simpa only [SerialisedPc.lease] using hlease)
  | other hnone =>
      rw [hnone] at hlease
      cases hlease
  | _ => simp only [SerialisedPc.lease, reduceCtorEq] at hlease

theorem cancel_lease (h : cancel pc = some resumed) :
    resumed.next.frame = none ∧ ∀ lease, resumed.next.lease = some lease → pc.lease = some lease := by
  cases pc with
  | mutate lease =>
      rw [← Option.some.inj h]
      exact ⟨rfl, fun _ he => he⟩
  | finished => cases h
  | _ =>
      rw [← Option.some.inj h]
      exact ⟨rfl, fun _ he => by cases he⟩

end Serialised

namespace Task

-- The lease that the task has acquired, with the key it acquired it for.
def holding : Task → Option (Key × ProviderRouteLease)
  | lifecycle key _ pc => pc.held.map fun held => (key, held.lease)
  | serialised key _ pc => pc.lease.map fun lease => (key, lease)
  | _ => none

variable {ids : Ids} {task : Task} {answer : Answer} {resumed : Resumed Task} {key : Key}
  {lease : ProviderRouteLease} {frame : Recovery} {call : LeaseCall} {leaseId token id : String}
  {request : AcquireRequest}

theorem frame_of_resume {after : Recovery} (h : task.resume ids answer = some resumed)
    (hafter : resumed.next.frame = some after) :
    after = .list ∨ ∃ frame, task.frame = some frame ∧ Recovery.Goes ids frame answer after := by
  cases task with
  | lifecycle key args pc =>
      obtain ⟨next, hnext, rfl⟩ := Option.map_eq_some_iff.mp h
      have hgoes := Lifecycle.goes_of_resume hnext
      obtain ⟨next, unlock⟩ := next
      cases hgoes with
      | unblocked =>
          cases hafter
          exact .inl rfl
      | recovering hgo =>
          cases hafter
          exact .inr ⟨_, rfl, hgo⟩
      | _ => cases hafter
  | serialised key args pc =>
      obtain ⟨next, hnext, rfl⟩ := Option.map_eq_some_iff.mp h
      have hgoes := Serialised.goes_of_resume hnext
      obtain ⟨next, unlock⟩ := next
      cases hgoes with
      | unblocked =>
          cases hafter
          exact .inl rfl
      | recovering hgo =>
          cases hafter
          exact .inr ⟨_, rfl, hgo⟩
      | acquired => cases hafter
      | releasing => cases hafter
      | other _ hframe =>
          change next.frame = some after at hafter
          rw [hframe] at hafter
          cases hafter
  | recovery managerId connectors frame =>
      obtain ⟨⟨next, unlock⟩, hnext, rfl⟩ := Option.map_eq_some_iff.mp h
      cases next with
      | going frame' =>
          cases hafter
          exact .inr ⟨frame, rfl, Recovery.goes_of_resume hnext⟩
      | finished => cases hafter
      | raised => cases hafter
  | recovered => cases h

-- A held lease was held before, or the awaited acquisition granted it.
theorem holding_of_resume (h : task.resume ids answer = some resumed)
    (hafter : resumed.next.holding = some (key, lease)) :
    task.holding = some (key, lease) ∨
    ((∃ args current, task = .lifecycle key args (.acquire current)) ∨
      ∃ args current, task = .serialised key args (.acquire current)) ∧
      ∃ late, answer = .store (.lease (some lease)) late := by
  cases task with
  | lifecycle key' args pc =>
      obtain ⟨next, hnext, rfl⟩ := Option.map_eq_some_iff.mp h
      obtain ⟨held, hheld, he⟩ := Option.map_eq_some_iff.mp hafter
      rcases Lifecycle.held_of_goes (Lifecycle.goes_of_resume hnext) hheld with hsame | hnew
      · exact .inl (Option.map_eq_some_iff.mpr ⟨held, hsame, he⟩)
      · obtain ⟨late, rfl, rfl⟩ := hnew
        cases he
        exact .inr ⟨.inl ⟨args, _, rfl⟩, late, rfl⟩
  | serialised key' args pc =>
      obtain ⟨next, hnext, rfl⟩ := Option.map_eq_some_iff.mp h
      obtain ⟨found, hfound, he⟩ := Option.map_eq_some_iff.mp hafter
      rcases Serialised.lease_of_goes (Serialised.goes_of_resume hnext) hfound with hsame | hnew
      · exact .inl (Option.map_eq_some_iff.mpr ⟨found, hsame, he⟩)
      · obtain ⟨current, late, rfl, rfl⟩ := hnew
        cases he
        exact .inr ⟨.inr ⟨args, current, rfl⟩, late, rfl⟩
  | recovery managerId connectors frame =>
      obtain ⟨⟨next, unlock⟩, -, rfl⟩ := Option.map_eq_some_iff.mp h
      cases next <;> cases hafter
  | recovered => cases h

theorem frame_of_cancel (h : task.cancel = some resumed) : resumed.next.frame = none := by
  cases task with
  | lifecycle key args pc =>
      obtain ⟨⟨next, unlock⟩, hnext, rfl⟩ := Option.map_eq_some_iff.mp h
      have hcancelled := Lifecycle.cancelled_of_cancel hnext
      cases hcancelled with
      | ended => rfl
      | cleaning => rfl
      | watched hpc =>
          rcases hpc with ⟨work, rfl⟩ | ⟨work, rfl⟩ | ⟨work, outcome, rfl⟩ <;> rfl
  | serialised key args pc =>
      obtain ⟨next, hnext, rfl⟩ := Option.map_eq_some_iff.mp h
      exact (Serialised.cancel_lease hnext).1
  | recovery =>
      rw [← Option.some.inj h]
      rfl
  | recovered => cases h

theorem holding_of_cancel (h : task.cancel = some resumed)
    (hafter : resumed.next.holding = some (key, lease)) : task.holding = some (key, lease) := by
  cases task with
  | lifecycle key' args pc =>
      obtain ⟨next, hnext, rfl⟩ := Option.map_eq_some_iff.mp h
      obtain ⟨held, hheld, he⟩ := Option.map_eq_some_iff.mp hafter
      have hsame := Lifecycle.held_of_cancelled (Lifecycle.cancelled_of_cancel hnext) hheld
      exact Option.map_eq_some_iff.mpr ⟨held, hsame, he⟩
  | serialised key' args pc =>
      obtain ⟨next, hnext, rfl⟩ := Option.map_eq_some_iff.mp h
      obtain ⟨found, hfound, he⟩ := Option.map_eq_some_iff.mp hafter
      exact Option.map_eq_some_iff.mpr ⟨found, (Serialised.cancel_lease hnext).2 found hfound, he⟩
  | recovery =>
      rw [← Option.some.inj h] at hafter
      cases hafter
  | recovered => cases h

theorem await_frame (h : task.frame = some frame) : task.await ids = some (frame.await ids) := by
  cases task with
  | lifecycle key args pc =>
      cases pc with
      | recovering =>
          cases h
          rfl
      | _ => cases h
  | serialised key args pc =>
      cases pc with
      | recovering =>
          cases h
          rfl
      | _ => cases h
  | recovery managerId connectors other =>
      cases h
      rfl
  | recovered => cases h

theorem mutates_restoreAwait (key : Key) (saved : Mapping) :
    (restoreAwait key saved).mutates = some key := by
  unfold restoreAwait
  split <;> rfl

theorem restoreAwait_ne_store (key : Key) (saved : Mapping) (call : LeaseCall) :
    restoreAwait key saved ≠ .store call := by
  unfold restoreAwait
  split <;> nofun

-- The stages that change the route of a key.
inductive Mutating (key : Key) : Task → Await → Prop
  | enable {args : LifecycleArgs} {held : Held} :
      Mutating key (.lifecycle key args (.enable held))
        (.enable key args.modelId args.approvalModelId)
  | restore {args : LifecycleArgs} {held : Held} {work : Work} {watch : Watch} :
      Mutating key (.lifecycle key args (.restore held work watch))
        (restoreAwait key (Lifecycle.Held.original key held))
  | recover {task : Task} {lease claimed : ProviderRouteLease} {owner : String}
      {rest : List ProviderRouteLease} {reports : List RecoveryReport}
      (hframe : task.frame = some (.round lease rest reports (.restore claimed owner)))
      (hkey : claimed.key = key) : Mutating key task (restoreAwait key lease.originalState)
  | mutate {args : SerialisedArgs} {lease : ProviderRouteLease} :
      Mutating key (.serialised key args (.mutate lease)) (.mutate key)

theorem mutating_of_frame (hframe : task.frame = some frame)
    (hkey : (frame.await ids).mutates = some key) : Mutating key task (frame.await ids) := by
  cases frame with
  | list => cases hkey
  | round lease rest reports pc =>
      cases pc with
      | restore claimed owner =>
          have hclaimed := (mutates_restoreAwait claimed.key lease.originalState).symm.trans hkey
          obtain rfl := Option.some.inj hclaimed
          exact .recover hframe rfl
      | _ => cases hkey

theorem mutating_of_await {await : Await} (h : task.await ids = some await)
    (hkey : await.mutates = some key) : Mutating key task await := by
  cases hframe : task.frame with
  | some frame =>
      obtain rfl := Option.some.inj ((await_frame hframe).symm.trans h)
      exact mutating_of_frame hframe hkey
  | none =>
      cases task with
      | lifecycle other args pc =>
          cases pc with
          | enable held =>
              cases h
              cases hkey
              exact .enable
          | restore held work watch =>
              cases h
              obtain rfl := Option.some.inj ((mutates_restoreAwait _ _).symm.trans hkey)
              exact .restore
          | recovering => cases hframe
          | finished => cases h
          | _ =>
              cases h
              cases hkey
      | serialised other args pc =>
          cases pc with
          | mutate lease =>
              cases h
              cases hkey
              exact .mutate
          | recovering => cases hframe
          | finished => cases h
          | _ =>
              cases h
              cases hkey
      | recovery => cases hframe
      | recovered => cases h

theorem await_ne_acquire : frame.await ids ≠ .store (.tryAcquire leaseId token request) := by
  cases frame with
  | list => nofun
  | round lease rest reports pc =>
      cases pc with
      | restore => exact restoreAwait_ne_store _ _ _
      | _ => nofun

-- A lease is acquired for a lifecycle or for a serialised mutation.
theorem acquiring_of_await (h : task.await ids = some (.store (.tryAcquire leaseId token request))) :
    leaseId = ids.first ∧ token = ids.second ∧
      ((∃ key args current, task = .lifecycle key args (.acquire current) ∧
        request = Lifecycle.request key args current) ∨
      ∃ key args current, task = .serialised key args (.acquire current) ∧
        request = Serialised.request key args current) := by
  cases hframe : task.frame with
  | some frame => exact absurd (Option.some.inj ((await_frame hframe).symm.trans h)) await_ne_acquire
  | none =>
      cases task with
      | lifecycle key args pc =>
          cases pc with
          | acquire current =>
              cases h
              exact ⟨rfl, rfl, .inl ⟨_, _, _, rfl, rfl⟩⟩
          | restore held work watch =>
              exact absurd (Option.some.inj h) (restoreAwait_ne_store _ _ _)
          | recovering => cases hframe
          | _ => cases h
      | serialised key args pc =>
          cases pc with
          | acquire current =>
              cases h
              exact ⟨rfl, rfl, .inr ⟨_, _, _, rfl, rfl⟩⟩
          | recovering => cases hframe
          | _ => cases h
      | recovery => cases hframe
      | recovered => cases h

-- The stages that call the store for one lease.
inductive Targeting (ids : Ids) (id : String) : Task → LeaseCall → Prop
  | renew {key : Key} {args : LifecycleArgs} {held : Held} (hid : held.lease.leaseId = id) :
      Targeting ids id (.lifecycle key args (.renew held))
        (.renew id held.lease.leaseToken args.owner args.leaseTtl)
  | release {key : Key} {args : LifecycleArgs} {held : Held} {work : Work}
      {outcome : RestoreOutcome} {watch : Watch} (hid : held.lease.leaseId = id) :
      Targeting ids id (.lifecycle key args (.release held work outcome watch))
        (.release id held.lease.leaseToken args.owner)
  | releaseMutation {key : Key} {args : SerialisedArgs} {lease : ProviderRouteLease}
      {ending : Ending Value} (hid : lease.leaseId = id) :
      Targeting ids id (.serialised key args (.release lease ending))
        (.release id lease.leaseToken args.owner)
  | skip {task : Task} {lease : ProviderRouteLease} {rest : List ProviderRouteLease}
      {reports : List RecoveryReport} {token status : String} {details : Mapping}
      (hframe : task.frame = some (.round lease rest reports .skip)) (hid : lease.leaseId = id) :
      Targeting ids id task (.markRecovery id token status details)
  | claim {task : Task} {lease : ProviderRouteLease} {rest : List ProviderRouteLease}
      {reports : List RecoveryReport}
      (hframe : task.frame = some (.round lease rest reports .claim)) (hid : lease.leaseId = id) :
      Targeting ids id task (.claimRecovery id lease.leaseToken ("recovery:" ++ ids.first))
  | mark {task : Task} {lease claimed : ProviderRouteLease} {rest : List ProviderRouteLease}
      {reports : List RecoveryReport} {owner token status : String} {outcome : RestoreOutcome}
      {details : Mapping}
      (hframe : task.frame = some (.round lease rest reports (.mark claimed owner outcome)))
      (hid : claimed.leaseId = id) : Targeting ids id task (.markRecovery id token status details)
  | failMark {task : Task} {lease : ProviderRouteLease} {rest : List ProviderRouteLease}
      {reports : List RecoveryReport} {token status : String} {error : Raised} {details : Mapping}
      (hframe : task.frame = some (.round lease rest reports (.failMark error)))
      (hid : lease.leaseId = id) : Targeting ids id task (.markRecovery id token status details)

theorem targeting_of_frame (hframe : task.frame = some frame) (h : frame.await ids = .store call)
    (hid : call.target = some id) : Targeting ids id task call := by
  cases frame with
  | list =>
      cases h
      cases hid
  | round lease rest reports pc =>
      cases pc with
      | skip =>
          cases h
          obtain rfl := Option.some.inj hid
          exact .skip hframe rfl
      | claim =>
          cases h
          obtain rfl := Option.some.inj hid
          exact .claim hframe rfl
      | restore => exact absurd h (restoreAwait_ne_store _ _ _)
      | mark =>
          cases h
          obtain rfl := Option.some.inj hid
          exact .mark hframe rfl
      | failMark =>
          cases h
          obtain rfl := Option.some.inj hid
          exact .failMark hframe rfl
      | lockWait => cases h
      | verify => cases h
      | _ =>
          cases h
          cases hid

theorem targeting_of_await (h : task.await ids = some (.store call)) (hid : call.target = some id) :
    Targeting ids id task call := by
  cases hframe : task.frame with
  | some frame =>
      exact targeting_of_frame hframe (Option.some.inj ((await_frame hframe).symm.trans h)) hid
  | none =>
      cases task with
      | lifecycle key args pc =>
          cases pc with
          | renew held =>
              cases h
              obtain rfl := Option.some.inj hid
              exact .renew rfl
          | release held work outcome watch =>
              cases h
              obtain rfl := Option.some.inj hid
              exact .release rfl
          | restore held work watch => exact absurd (Option.some.inj h) (restoreAwait_ne_store _ _ _)
          | recovering => cases hframe
          | checkBlock =>
              cases h
              cases hid
          | acquire =>
              cases h
              cases hid
          | _ => cases h
      | serialised key args pc =>
          cases pc with
          | release lease ending =>
              cases h
              obtain rfl := Option.some.inj hid
              exact .releaseMutation rfl
          | recovering => cases hframe
          | checkBlock =>
              cases h
              cases hid
          | acquire =>
              cases h
              cases hid
          | _ => cases h
      | recovery => cases hframe
      | recovered => cases h

end Task

end JoyMesh.ProviderRoutes
