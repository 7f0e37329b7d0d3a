import Mathlib.Algebra.BigOperators.Group.List.Basic
import Mathlib.Algebra.Order.Ring.Rat
import Mathlib.Logic.Function.Basic
import Mathlib.Tactic.Linarith
import JoyMesh.Library.Run
import JoyMesh.Library.Table

namespace JoyMesh.Runs

open JoyMesh.Library

section Definitions

-- A row of the usage table, which holds the arguments of record_usage.
structure UsageRow where
  subscriptionId : String
  runId : Option String := none
  inputTokens : Nat := 0
  outputTokens : Nat := 0
  amount : ℚ
  source : String := "observed"

-- A session with the usage that it records, and the used amount of the subscription as
-- it was when the row was read.
structure Session where
  usage : UsageRow
  used : ℚ

structure Ledger where
  subscriptions : Table String ℚ
  usage : List UsageRow := []
  sessions : Nat → Option Session := fun _ => none

namespace Ledger

inductive Label where
  | get (id : Nat) (usage : UsageRow)
  | commit (id : Nat)
  | rollback (id : Nat)

def withSession (ledger : Ledger) (id : Nat) (session : Option Session) : Ledger :=
  { ledger with sessions := Function.update ledger.sessions id session }

-- The new total is written as it was computed from the row that was read. A value that
-- is the same as before is not written.
def write (ledger : Ledger) (session : Session) : Ledger where
  subscriptions :=
    if session.usage.amount = 0 then ledger.subscriptions
    else ledger.subscriptions.insert session.usage.subscriptionId
      (session.used + session.usage.amount)
  usage := ledger.usage ++ [session.usage]
  sessions := ledger.sessions

-- Any number of record_usage calls, each in a session of its own. An unknown
-- subscription raises, and so can a commit.
def step (ledger : Ledger) : Label → Option Ledger
  | .get id usage =>
      match ledger.sessions id with
      | some _ => none
      | none =>
          match ledger.subscriptions.lookup usage.subscriptionId with
          | none => some ledger
          | some used => some (ledger.withSession id (some ⟨usage, used⟩))
  | .commit id => (ledger.sessions id).map fun session => (ledger.write session).withSession id none
  | .rollback id => (ledger.sessions id).map fun _ => ledger.withSession id none

-- The sum of the amounts that are recorded for a subscription.
def recorded (ledger : Ledger) (subscriptionId : String) : ℚ :=
  ((ledger.usage.filter fun row => row.subscriptionId = subscriptionId).map UsageRow.amount).sum

-- The used amount of every subscription is what it was with all that was recorded since.
def Balanced (first ledger : Ledger) : Prop :=
  ∀ id initial, first.subscriptions.lookup id = some initial →
    ledger.subscriptions.lookup id = some (initial + ledger.recorded id)

-- A commit of a new total finds the used amount that its session has read.
def Unchanged (ledger : Ledger) : Label → Prop
  | .commit id => ∀ session ∈ ledger.sessions id, session.usage.amount ≠ 0 →
      ledger.subscriptions.lookup session.usage.subscriptionId = some session.used
  | _ => True

instance (ledger : Ledger) : DecidablePred (Unchanged ledger)
  | .commit id => inferInstanceAs (Decidable (∀ session ∈ ledger.sessions id, _ ≠ _ → _ = _))
  | .get _ _ => .isTrue trivial
  | .rollback _ => .isTrue trivial

-- Amounts are validated as not negative.
def Recordable : Label → Prop
  | .get _ usage => 0 ≤ usage.amount
  | _ => True

end Ledger

end Definitions

namespace Ledger

-- What a step does.
inductive Step (s : Ledger) : Label → Ledger → Prop
  | unknown {id : Nat} {usage : UsageRow} (hnew : s.sessions id = none)
      (hlookup : s.subscriptions.lookup usage.subscriptionId = none) : Step s (.get id usage) s
  | opened {id : Nat} {usage : UsageRow} {used : ℚ} (hnew : s.sessions id = none)
      (hlookup : s.subscriptions.lookup usage.subscriptionId = some used) :
      Step s (.get id usage) (s.withSession id (some ⟨usage, used⟩))
  | committed {id : Nat} {session : Session} (hopen : s.sessions id = some session) :
      Step s (.commit id) ((s.write session).withSession id none)
  | abandoned {id : Nat} {session : Session} (hopen : s.sessions id = some session) :
      Step s (.rollback id) (s.withSession id none)

variable {first s t : Ledger} {label : Label} {labels : List Label} {id : Nat} {key : String}
  {session : Session}

theorem step_cases (h : s.step label = some t) : Step s label t := by
  cases label with
  | get id usage =>
      simp only [step] at h
      split at h
      · cases h
      next hnew =>
        split at h
        next hlookup =>
          cases h
          exact .unknown hnew hlookup
        next used hlookup =>
          cases h
          exact .opened hnew hlookup
  | commit id =>
      obtain ⟨session, hopen, rfl⟩ := Option.map_eq_some_iff.mp h
      exact .committed hopen
  | rollback id =>
      obtain ⟨session, hopen, rfl⟩ := Option.map_eq_some_iff.mp h
      exact .abandoned hopen

@[simp] theorem withSession_subscriptions {session : Option Session} :
    (s.withSession id session).subscriptions = s.subscriptions := rfl

@[simp] theorem withSession_recorded {session : Option Session} :
    (s.withSession id session).recorded key = s.recorded key := rfl

-- What is open afterwards was open before, or is what was opened.
theorem withSession_sessions {opened : Option Session} {other : Nat}
    (h : (s.withSession id opened).sessions other = some session) :
    opened = some session ∨ s.sessions other = some session := by
  by_cases hother : other = id
  · subst hother
    exact .inl (by simpa [withSession] using h)
  · exact .inr (by simpa [withSession, Function.update_of_ne hother] using h)

theorem recorded_write : (s.write session).recorded key = s.recorded key +
    if session.usage.subscriptionId = key then session.usage.amount else 0 := by
  by_cases hkey : session.usage.subscriptionId = key <;>
    simp [recorded, write, List.filter_append, hkey]

theorem lookup_write : (s.write session).subscriptions.lookup key =
    if session.usage.amount ≠ 0 ∧ session.usage.subscriptionId = key then
      some (session.used + session.usage.amount)
    else s.subscriptions.lookup key := by
  by_cases hamount : session.usage.amount = 0
  · simp [write, hamount]
  · by_cases hkey : session.usage.subscriptionId = key
    · subst hkey
      simp [write, hamount]
    · simp [write, hamount, hkey, AList.lookup_insert_ne (Ne.symm hkey)]

-- No used amount is above what was recorded. What a session has read is below it, unless it
-- is still what the row holds.
structure Sound (first s : Ledger) : Prop where
  used : ∀ key initial, first.subscriptions.lookup key = some initial →
    ∃ used, s.subscriptions.lookup key = some used ∧ used ≤ initial + s.recorded key
  known : ∀ key used, s.subscriptions.lookup key = some used →
    ∃ initial, first.subscriptions.lookup key = some initial
  amount : ∀ id session, s.sessions id = some session → 0 ≤ session.usage.amount
  session : ∀ id session, s.sessions id = some session → ∀ initial,
    first.subscriptions.lookup session.usage.subscriptionId = some initial →
      session.used < initial + s.recorded session.usage.subscriptionId ∨
        s.subscriptions.lookup session.usage.subscriptionId = some session.used

-- An amount is missing from the total of the subscription, and from what its sessions have
-- read.
structure Short (first s : Ledger) (key : String) (initial : ℚ) : Prop where
  found : first.subscriptions.lookup key = some initial
  used : ∃ used, s.subscriptions.lookup key = some used ∧ used < initial + s.recorded key
  session : ∀ id session, s.sessions id = some session → session.usage.subscriptionId = key →
    session.used < initial + s.recorded key

theorem recorded_le_write (h : 0 ≤ session.usage.amount) :
    s.recorded key ≤ (s.write session).recorded key := by
  rw [recorded_write]
  split <;> linarith

theorem Sound.write (h : Sound first s) (hamount : 0 ≤ session.usage.amount)
    (hsession : ∀ initial,
      first.subscriptions.lookup session.usage.subscriptionId = some initial →
        session.used ≤ initial + s.recorded session.usage.subscriptionId)
    (hknown : ∃ initial, first.subscriptions.lookup session.usage.subscriptionId = some initial) :
    Sound first (s.write session) := by
  constructor
  · intro key initial hinitial
    obtain ⟨used, hused, hle⟩ := h.used key initial hinitial
    rw [lookup_write]
    split
    next hwritten =>
      obtain ⟨-, rfl⟩ := hwritten
      have hread := hsession initial hinitial
      refine ⟨_, rfl, ?_⟩
      rw [recorded_write, if_pos rfl]
      linarith
    next => exact ⟨used, hused, hle.trans (by linarith [@recorded_le_write s key _ hamount])⟩
  · intro key used hused
    rw [lookup_write] at hused
    split at hused
    next hwritten => exact hwritten.2 ▸ hknown
    next => exact h.known key used hused
  · exact h.amount
  · intro id other hother initial hinitial
    have hgrown := @recorded_le_write s other.usage.subscriptionId _ hamount
    rcases h.session id other hother initial hinitial with hbelow | hsame
    · exact .inl (hbelow.trans_le (by linarith))
    · rw [lookup_write]
      split
      next hwritten =>
        obtain ⟨hne, hkey⟩ := hwritten
        obtain ⟨used, hused, hle⟩ := h.used _ initial hinitial
        obtain rfl := Option.some.inj (hused.symm.trans hsame)
        have hpos : 0 < session.usage.amount := lt_of_le_of_ne hamount (Ne.symm hne)
        rw [recorded_write, if_pos hkey]
        exact .inl (by linarith)
      next => exact .inr hsame

theorem Sound.withSession {opened : Option Session} (h : Sound first s)
    (hopened : ∀ session ∈ opened, 0 ≤ session.usage.amount ∧
      s.subscriptions.lookup session.usage.subscriptionId = some session.used) :
    Sound first (s.withSession id opened) where
  used := h.used
  known := h.known
  amount other session hother := by
    rcases withSession_sessions hother with hnew | hold
    · exact (hopened session hnew).1
    · exact h.amount other session hold
  session other session hother initial hinitial := by
    rcases withSession_sessions hother with hnew | hold
    · exact .inr (hopened session hnew).2
    · exact h.session other session hold initial hinitial

-- What a session is about to write is not above what will have been recorded.
theorem Sound.read (h : Sound first s) (hopen : s.sessions id = some session) :
    ∀ initial, first.subscriptions.lookup session.usage.subscriptionId = some initial →
      session.used ≤ initial + s.recorded session.usage.subscriptionId := by
  intro initial hinitial
  rcases h.session id session hopen initial hinitial with hbelow | hsame
  · exact hbelow.le
  · obtain ⟨used, hused, hle⟩ := h.used _ initial hinitial
    obtain rfl := Option.some.inj (hused.symm.trans hsame)
    exact hle

-- A session is only open on a subscription that is there.
structure Open (first s : Ledger) : Prop extends Sound first s where
  opened : ∀ id session, s.sessions id = some session →
    ∃ initial, first.subscriptions.lookup session.usage.subscriptionId = some initial

theorem Open.step (h : Open first s) (hrecordable : Recordable label)
    (hstep : s.step label = some t) : Open first t := by
  cases step_cases hstep with
  | unknown => exact h
  | opened hnew hlookup =>
      refine ⟨h.toSound.withSession ?_, fun other session hother => ?_⟩
      · rintro session ⟨⟩
        exact ⟨hrecordable, hlookup⟩
      · rcases withSession_sessions hother with hnew | hold
        · cases hnew
          exact h.known _ _ hlookup
        · exact h.opened other session hold
  | committed hopen =>
      refine ⟨(h.toSound.write (h.amount _ _ hopen) (h.read hopen)
        (h.opened _ _ hopen)).withSession (by rintro _ ⟨⟩), fun other session hother => ?_⟩
      rcases withSession_sessions hother with hnew | hold
      · cases hnew
      · exact h.opened other session hold
  | abandoned hopen =>
      refine ⟨h.toSound.withSession (by rintro _ ⟨⟩), fun other session hother => ?_⟩
      rcases withSession_sessions hother with hnew | hold
      · cases hnew
      · exact h.opened other session hold

-- A commit on what was read adds its amount.
theorem Balanced.step (h : Balanced first s) (hunchanged : Unchanged s label)
    (hstep : s.step label = some t) : Balanced first t := by
  cases step_cases hstep with
  | unknown => exact h
  | opened => exact h
  | abandoned => exact h
  | @committed id session hopen =>
      intro key initial hinitial
      rw [withSession_subscriptions, withSession_recorded, lookup_write, recorded_write]
      have hkey := h key initial hinitial
      split
      next hwritten =>
        obtain ⟨hne, rfl⟩ := hwritten
        have hread := hunchanged session hopen hne
        rw [hkey, Option.some.injEq] at hread
        rw [if_pos rfl, ← hread, add_assoc]
      next hkept =>
        have hnothing : (if session.usage.subscriptionId = key then session.usage.amount else 0) =
            0 := by
          split
          next heq => exact by_contra fun hne => hkept ⟨hne, heq⟩
          next => rfl
        rw [hkey, hnothing, add_zero]

-- A commit of a new total that finds another used amount loses what was recorded between.
theorem Open.short (h : Open first s) (hrecordable : ¬Unchanged s label)
    (hstep : s.step label = some t) : ∃ key initial, Short first t key initial := by
  cases step_cases hstep with
  | unknown => exact absurd trivial hrecordable
  | opened => exact absurd trivial hrecordable
  | abandoned => exact absurd trivial hrecordable
  | @committed id session hopen =>
      have hchanged : session.usage.amount ≠ 0 ∧
          s.subscriptions.lookup session.usage.subscriptionId ≠ some session.used := by
        by_contra hnot
        refine hrecordable fun other hother hne => ?_
        obtain rfl := Option.some.inj (hopen.symm.trans hother)
        by_contra hlookup
        exact hnot ⟨hne, hlookup⟩
      obtain ⟨hne, hlookup⟩ := hchanged
      obtain ⟨initial, hinitial⟩ := h.opened _ _ hopen
      have hpos : 0 < session.usage.amount := lt_of_le_of_ne (h.amount _ _ hopen) (Ne.symm hne)
      have hread := (h.session _ _ hopen initial hinitial).resolve_right hlookup
      have hgrown : (s.write session).recorded session.usage.subscriptionId =
          s.recorded session.usage.subscriptionId + session.usage.amount := by
        rw [recorded_write, if_pos rfl]
      refine ⟨session.usage.subscriptionId, initial, hinitial,
        ⟨session.used + session.usage.amount, ?_, ?_⟩, ?_⟩
      · rw [withSession_subscriptions, lookup_write, if_pos ⟨hne, rfl⟩]
      · rw [withSession_recorded, hgrown]
        linarith
      · intro other later hother hsame
        rcases withSession_sessions hother with hnew | hold
        · cases hnew
        · have hbefore := h.read hold initial (hsame ▸ hinitial)
          rw [withSession_recorded, hgrown]
          rw [hsame] at hbefore
          linarith

-- What is missing from a total stays missing.
theorem Short.step {initial : ℚ} (hshort : Short first s key initial) (h : Open first s)
    (hstep : s.step label = some t) : Short first t key initial := by
  obtain ⟨hfound, ⟨used, hused, hlt⟩, hsessions⟩ := hshort
  cases step_cases hstep with
  | unknown => exact ⟨hfound, ⟨used, hused, hlt⟩, hsessions⟩
  | opened hnew hlookup =>
      refine ⟨hfound, ⟨used, hused, hlt⟩, fun other session hother hkey => ?_⟩
      rcases withSession_sessions hother with hnew | hold
      · cases hnew
        subst hkey
        obtain rfl := Option.some.inj (hused.symm.trans hlookup)
        exact hlt
      · exact hsessions other session hold hkey
  | @committed id session hopen =>
      have hgrown := @recorded_le_write s key _ (h.amount _ _ hopen)
      refine ⟨hfound, ?_, fun other later hother hkey => ?_⟩
      · rw [withSession_subscriptions, lookup_write]
        split
        next hwritten =>
          have hread := hsessions _ _ hopen hwritten.2
          refine ⟨_, rfl, ?_⟩
          rw [withSession_recorded, recorded_write, if_pos hwritten.2]
          linarith
        next =>
          refine ⟨used, hused, ?_⟩
          rw [withSession_recorded]
          linarith
      · rcases withSession_sessions hother with hnew | hold
        · cases hnew
        · have hread := hsessions other later hold hkey
          rw [withSession_recorded]
          linarith
  | abandoned hopen =>
      refine ⟨hfound, ⟨used, hused, hlt⟩, fun other session hother hkey => ?_⟩
      rcases withSession_sessions hother with hnew | hold
      · cases hnew
      · exact hsessions other session hold hkey

theorem Short.not_balanced {initial : ℚ} (h : Short first s key initial) : ¬Balanced first s := by
  intro hbalanced
  obtain ⟨used, hused, hlt⟩ := h.used
  have heq := Option.some.inj (hused.symm.trans (hbalanced key initial h.found))
  linarith

theorem Short.run {initial : ℚ} (hshort : Short first s key initial) (h : Open first s)
    (hrecordable : ∀ label ∈ labels, Recordable label) (hrun : JoyMesh.Library.run Ledger.step s labels = some t) :
    Short first t key initial := by
  induction labels generalizing s with
  | nil =>
      obtain rfl : s = t := by simpa using hrun
      exact hshort
  | cons label labels ih =>
      obtain ⟨middle, hstep, hrun⟩ := Option.bind_eq_some_iff.mp (run_cons ▸ hrun)
      have hrest : ∀ later ∈ labels, Recordable later :=
        fun later hlater => hrecordable later (List.mem_cons_of_mem _ hlater)
      exact ih (hshort.step h hstep) (h.step (hrecordable label List.mem_cons_self) hstep) hrest hrun

-- From a balanced ledger the run keeps every total right exactly when every commit finds
-- what its session has read.
theorem balanced_run_iff (hbalanced : Balanced first s) (h : Open first s)
    (hrecordable : ∀ label ∈ labels, Recordable label) (hrun : run step s labels = some t) :
    Balanced first t ↔ Along step Unchanged s labels := by
  induction labels generalizing s with
  | nil =>
      obtain rfl : s = t := by simpa using hrun
      exact iff_of_true hbalanced trivial
  | cons label labels ih =>
      obtain ⟨middle, hstep, hrun⟩ := Option.bind_eq_some_iff.mp (run_cons ▸ hrun)
      have hopen := h.step (hrecordable label List.mem_cons_self) hstep
      have hrest : ∀ later ∈ labels, Recordable later :=
        fun later hlater => hrecordable later (List.mem_cons_of_mem _ hlater)
      by_cases hunchanged : Unchanged s label
      · rw [ih (hbalanced.step hunchanged hstep) hopen hrest hrun]
        constructor
        · intro halong
          exact .cons hunchanged hstep halong
        · intro halong
          exact halong.2 middle hstep
      · obtain ⟨key, initial, hshort⟩ := h.short hunchanged hstep
        exact iff_of_false (hshort.run hopen hrest hrun).not_balanced fun halong =>
          hunchanged halong.1

theorem balanced_initial {subscriptions : Table String ℚ} :
    Balanced { subscriptions } { subscriptions } := by
  intro key initial hinitial
  simpa [recorded] using hinitial

theorem open_initial {subscriptions : Table String ℚ} :
    Open { subscriptions } { subscriptions } where
  used key initial hinitial := ⟨initial, hinitial, by simp [recorded]⟩
  known key used hused := ⟨used, hused⟩
  amount _ _ hsession := nomatch hsession
  session _ _ hsession := nomatch hsession
  opened _ _ hsession := nomatch hsession

-- Over every interleaving of record_usage calls, the used amounts count all that was
-- recorded exactly when no commit overwrites a total that its session has not read.
theorem used_amounts_balanced_iff (subscriptions : Table String ℚ) (labels : List Label)
    (last : Ledger) (hrecordable : ∀ label ∈ labels, Recordable label)
    (hrun : run step { subscriptions } labels = some last) :
    Balanced { subscriptions } last ↔ Along step Unchanged { subscriptions } labels :=
  balanced_run_iff balanced_initial open_initial hrecordable hrun

def funded : Table String ℚ := AList.singleton "pro" 0

def spent (amount : ℚ) : UsageRow where
  subscriptionId := "pro"
  amount := amount

-- Two calls of the subscription, one after the other.
def sequential : List Label := [.get 0 (spent 3), .commit 0, .get 1 (spent 4), .commit 1]

theorem sequential_usage_balanced :
    ∃ last, run step { subscriptions := funded } sequential = some last ∧
      last.subscriptions.lookup "pro" = some 7 ∧ Balanced { subscriptions := funded } last := by
  have hrecordable : ∀ label ∈ sequential, Recordable label := by
    simp [sequential, Recordable, spent]
  have hunchanged : Along step Unchanged { subscriptions := funded } sequential := by
    decide +kernel
  exact ⟨_, rfl, by decide +kernel,
    (used_amounts_balanced_iff funded sequential _ hrecordable rfl).mpr hunchanged⟩

def interleaved : List Label :=
  [.get 0 (spent 3), .get 1 (spent 4), .commit 0, .commit 1]

-- Two calls read the row before either of them commits, and the first amount is lost.
theorem concurrent_usage_lost : ∃ last, run step { subscriptions := funded } interleaved = some last ∧
    (∀ id, last.sessions id = none) ∧ ¬Balanced { subscriptions := funded } last := by
  have hrun : (run step { subscriptions := funded } interleaved).map (fun last =>
      (last.subscriptions.lookup "pro", last.recorded "pro")) = some (some 4, 7) := by
    decide +kernel
  refine ⟨_, rfl, fun id => ?_, fun hbalanced => ?_⟩
  · simp only [withSession, write, Function.update_apply]
    split_ifs <;> rfl
  · obtain ⟨hused, hrecorded⟩ := Prod.mk.inj (Option.some.inj hrun)
    have hseven := hbalanced "pro" 0 rfl
    rw [hrecorded] at hseven
    have hfour : (4 : ℚ) = 0 + 7 := Option.some.inj (hused.symm.trans hseven)
    norm_num at hfour

end Ledger

end JoyMesh.Runs
