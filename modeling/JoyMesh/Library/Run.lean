import Mathlib.Data.List.Basic

namespace JoyMesh.Library

variable {State Other Label Response : Type*}

section Partial

-- A label that is not enabled in a state has no successor.
def run (step : State → Label → Option State) (first : State) (labels : List Label) :
    Option State :=
  labels.foldlM step first

-- Every step of the run satisfies the condition in the state before it.
def Along (step : State → Label → Option State) (cond : State → Label → Prop) :
    State → List Label → Prop
  | _, [] => True
  | s, label :: rest => cond s label ∧ ∀ t, step s label = some t → Along step cond t rest

variable {step : State → Label → Option State} {cond : State → Label → Prop}
  {s t : State} {label : Label} {first second : List Label}

@[simp] theorem run_nil : run step s [] = some s := rfl

@[simp] theorem run_cons :
    run step s (label :: first) = (step s label).bind fun t => run step t first := rfl

theorem run_append :
    run step s (first ++ second) = (run step s first).bind fun t => run step t second := by
  simp only [run, List.foldlM_append]
  rfl

instance decidableAlong [∀ s label, Decidable (cond s label)] :
    ∀ (s : State) (labels : List Label), Decidable (Along step cond s labels)
  | _, [] => .isTrue trivial
  | s, label :: rest =>
      match h : step s label with
      | none => decidable_of_iff (cond s label) (by simp [Along, h])
      | some t =>
          have := decidableAlong t rest
          decidable_of_iff (cond s label ∧ Along step cond t rest) (by simp [Along, h])

theorem Along.cons (hc : cond s label) (hs : step s label = some t) (h : Along step cond t first) :
    Along step cond s (label :: first) :=
  ⟨hc, fun _ hu => Option.some.inj (hs.symm.trans hu) ▸ h⟩

theorem Along.append_left (h : Along step cond s (first ++ second)) :
    Along step cond s first := by
  induction first generalizing s with
  | nil => trivial
  | cons label first ih => exact ⟨h.1, fun t ht => ih (h.2 t ht)⟩

theorem Along.append_right (h : Along step cond s (first ++ second))
    (hr : run step s first = some t) : Along step cond t second := by
  induction first generalizing s with
  | nil =>
      obtain rfl : s = t := by simpa using hr
      exact h
  | cons label first ih =>
      obtain ⟨u, hu, hr⟩ := Option.bind_eq_some_iff.mp (run_cons ▸ hr)
      exact ih (h.2 u hu) hr

theorem along_append (h : Along step cond s first)
    (hsecond : ∀ t, run step s first = some t → Along step cond t second) :
    Along step cond s (first ++ second) := by
  induction first generalizing s with
  | nil => exact hsecond s rfl
  | cons label first ih =>
      refine ⟨h.1, fun t ht => ih (h.2 t ht) fun u hu => hsecond u ?_⟩
      rw [run_cons, ht]
      exact hu

theorem Along.mono {weaker : State → Label → Prop} (hc : ∀ s label, cond s label → weaker s label)
    (h : Along step cond s first) : Along step weaker s first := by
  induction first generalizing s with
  | nil => trivial
  | cons label first ih => exact ⟨hc s label h.1, fun t ht => ih (h.2 t ht)⟩

theorem Along.and {other : State → Label → Prop} (hf : Along step cond s first)
    (hs : Along step other s first) :
    Along step (fun s label => cond s label ∧ other s label) s first := by
  induction first generalizing s with
  | nil => trivial
  | cons label first ih => exact ⟨⟨hf.1, hs.1⟩, fun t ht => ih (hf.2 t ht) (hs.2 t ht)⟩

theorem along_iff_forall : Along step cond s first ↔
    ∀ before label rest t, first = before ++ label :: rest → run step s before = some t →
      cond t label := by
  induction first generalizing s with
  | nil => exact iff_of_true trivial fun _ _ _ _ he => by simp at he
  | cons head first ih =>
      constructor
      · rintro ⟨hhead, htail⟩ before label rest t he hr
        cases before with
        | nil =>
            obtain ⟨rfl, rfl⟩ := List.cons.inj he
            obtain rfl : s = t := by simpa using hr
            exact hhead
        | cons other before =>
            obtain ⟨rfl, rfl⟩ := List.cons.inj he
            obtain ⟨u, hu, hr⟩ := Option.bind_eq_some_iff.mp (run_cons ▸ hr)
            exact ih.mp (htail u hu) before label rest t rfl hr
      · intro h
        refine ⟨h [] head first s rfl rfl, fun u hu => ih.mpr fun before label rest t he hr => ?_⟩
        exact h (head :: before) label rest t (by rw [he]; rfl) (by rw [run_cons, hu]; exact hr)

-- What every step preserves under the condition, every run under it preserves.
theorem run_invariant {inv : State → Prop}
    (hstep : ∀ s label t, inv s → cond s label → step s label = some t → inv t)
    (hs : inv s) (hcond : Along step cond s first) (hr : run step s first = some t) : inv t := by
  induction first generalizing s with
  | nil =>
      obtain rfl : s = t := by simpa using hr
      exact hs
  | cons label first ih =>
      obtain ⟨u, hu, hr⟩ := Option.bind_eq_some_iff.mp (run_cons ▸ hr)
      exact ih (hstep s label u hs hcond.1 hu) (hcond.2 u hu) hr

-- What every step preserves without a condition, every run preserves.
theorem run_keeps {inv : State → Prop} (hstep : ∀ s label t, inv s → step s label = some t → inv t)
    (hs : inv s) (hr : run step s first = some t) : inv t :=
  run_invariant (fun s label t h _ ht => hstep s label t h ht) hs
    (along_iff_forall.mpr fun _ _ _ _ _ _ => trivial) hr

-- What is so after a run and was not before it began to be so in one of its steps.
theorem run_turns {holds : State → Prop} (hr : run step s first = some t) (ht : holds t)
    (hs : ¬holds s) : ∃ before label after u v, first = before ++ label :: after ∧
      run step s before = some u ∧ step u label = some v ∧ ¬holds u ∧ holds v := by
  induction first generalizing s with
  | nil =>
      obtain rfl : s = t := by simpa using hr
      exact absurd ht hs
  | cons label first ih =>
      obtain ⟨u, hu, hr⟩ := Option.bind_eq_some_iff.mp (run_cons ▸ hr)
      by_cases hturned : holds u
      · exact ⟨[], label, first, s, u, rfl, rfl, hu, hs, hturned⟩
      · obtain ⟨before, later, after, v, w, rfl, hbefore, hrest⟩ := ih hr hturned
        exact ⟨label :: before, later, after, v, w, rfl, by rw [run_cons, hu]; exact hbefore, hrest⟩

-- A step property that follows from the invariant holds all along the run.
theorem Along.of_invariant {inv : State → Prop} {property : State → Label → Prop}
    (hstep : ∀ s label t, inv s → cond s label → step s label = some t → inv t)
    (hproperty : ∀ s label, inv s → cond s label → property s label)
    (hs : inv s) (hcond : Along step cond s first) : Along step property s first := by
  induction first generalizing s with
  | nil => trivial
  | cons label first ih =>
      exact ⟨hproperty s label hs hcond.1, fun t ht =>
        ih (hstep s label t hs hcond.1 ht) (hcond.2 t ht)⟩

-- A step property that is equivalent to a condition wherever the invariant holds
-- is met all along a run exactly when the condition is.
theorem along_iff (inv : State → Prop) {property : State → Label → Prop}
    (hiff : ∀ s label, inv s → (property s label ↔ cond s label))
    (hstep : ∀ s label t, inv s → cond s label → step s label = some t → inv t)
    (hs : inv s) : Along step property s first ↔ Along step cond s first := by
  induction first generalizing s with
  | nil => exact Iff.rfl
  | cons label first ih =>
      have hhead := hiff s label hs
      constructor
      · intro h
        have hc := hhead.mp h.1
        exact ⟨hc, fun t ht => (ih (hstep s label t hs hc ht)).mp (h.2 t ht)⟩
      · intro h
        exact ⟨hhead.mpr h.1, fun t ht => (ih (hstep s label t hs h.1 ht)).mpr (h.2 t ht)⟩

-- The same where the labels are known to keep to a domain.
theorem along_iff_within (inv : State → Prop) {domain property : State → Label → Prop}
    (hiff : ∀ s label, inv s → domain s label → (property s label ↔ cond s label))
    (hstep : ∀ s label t, inv s → domain s label → step s label = some t → inv t)
    (hs : inv s) (hdomain : Along step domain s first) :
    Along step property s first ↔ Along step cond s first := by
  induction first generalizing s with
  | nil => exact Iff.rfl
  | cons label first ih =>
      rw [Along, Along, hiff s label hs hdomain.1]
      refine and_congr_right fun _ => forall₂_congr fun t ht => ?_
      exact ih (hstep s label t hs hdomain.1 ht) (hdomain.2 t ht)

-- What holds of all that a run makes one after another, told from what each step adds.
theorem made_iff_along {Made : Type*} {made : State → List Made} {property : List Made → Prop}
    {new : Made → List Made → Prop}
    (hcons : ∀ x rest, property (x :: rest) ↔ property rest ∧ new x rest)
    (hmade : ∀ s label t, step s label = some t → made t = made s ∨ ∃ x, made t = x :: made s)
    (hr : run step s first = some t) : property (made t) ↔ property (made s) ∧
      Along step (fun s label => ∀ t x, step s label = some t → made t = x :: made s →
        new x (made s)) s first := by
  induction first generalizing s with
  | nil =>
      obtain rfl : s = t := by simpa using hr
      exact (and_iff_left trivial).symm
  | cons label first ih =>
      obtain ⟨u, hu, hr⟩ := Option.bind_eq_some_iff.mp (run_cons ▸ hr)
      rw [ih hr, Along]
      have hstep : property (made u) ↔ property (made s) ∧ ∀ t x, step s label = some t →
          made t = x :: made s → new x (made s) := by
        constructor
        · intro h
          rcases hmade s label u hu with hsame | ⟨x, hx⟩
          · exact ⟨hsame ▸ h, fun t x ht hx =>
              absurd (hx.symm.trans (Option.some.inj (ht.symm.trans hu) ▸ hsame)) (by simp)⟩
          · rw [hx, hcons] at h
            refine ⟨h.1, fun t y ht hy => ?_⟩
            obtain rfl := Option.some.inj (ht.symm.trans hu)
            obtain ⟨rfl, -⟩ := List.cons.inj (hy.symm.trans hx)
            exact h.2
        · rintro ⟨h, hnew⟩
          rcases hmade s label u hu with hsame | ⟨x, hx⟩
          · exact hsame ▸ h
          · rw [hx, hcons]
            exact ⟨h, hnew u x hu hx⟩
      rw [hstep]
      constructor
      · rintro ⟨⟨h, hnew⟩, hrest⟩
        exact ⟨h, hnew, fun v hv => Option.some.inj (hv.symm.trans hu) ▸ hrest⟩
      · rintro ⟨h, hnew, hrest⟩
        exact ⟨⟨h, hnew⟩, hrest u hu⟩

-- What a run makes is all different exactly when no step makes something that was made
-- before it.
theorem nodup_iff_along {Made : Type*} {made : State → List Made}
    (hmade : ∀ s label t, step s label = some t → made t = made s ∨ ∃ x, made t = x :: made s)
    (hr : run step s first = some t) : (made t).Nodup ↔ (made s).Nodup ∧
      Along step (fun s label => ∀ t x, step s label = some t → made t = x :: made s → x ∉ made s)
        s first :=
  @made_iff_along State Label step s t first Made made List.Nodup (fun x rest => x ∉ rest)
    (fun _ _ => List.nodup_cons.trans and_comm) hmade hr

-- All that a run makes is good exactly when each step makes something good.
theorem forall_made_iff_along {Made : Type*} {made : State → List Made} {Good : Made → Prop}
    (hmade : ∀ s label t, step s label = some t → made t = made s ∨ ∃ x, made t = x :: made s)
    (hr : run step s first = some t) : (∀ x ∈ made t, Good x) ↔ (∀ x ∈ made s, Good x) ∧
      Along step (fun s label => ∀ t x, step s label = some t → made t = x :: made s → Good x)
        s first :=
  @made_iff_along State Label step s t first Made made (fun all => ∀ x ∈ all, Good x)
    (fun x _ => Good x) (fun _ _ => List.forall_mem_cons.trans and_comm) hmade hr

-- On the way of a run only the steps that are taken count.
theorem along_congr {property : State → Label → Prop}
    (hiff : ∀ s label t, step s label = some t → (property s label ↔ cond s label))
    (hr : run step s first = some t) : Along step property s first ↔ Along step cond s first := by
  induction first generalizing s with
  | nil => exact Iff.rfl
  | cons label first ih =>
      obtain ⟨u, hu, hr⟩ := Option.bind_eq_some_iff.mp (run_cons ▸ hr)
      rw [Along, Along, hiff s label u hu]
      refine and_congr_right fun _ => forall₂_congr fun v hv => ?_
      obtain rfl := Option.some.inj (hv.symm.trans hu)
      exact ih hr

section History

variable {History : Type*} {note : History → State → Label → History} {history : History}

-- The run with a history beside it, which the steps do not read.
def watched (step : State → Label → Option State) (note : History → State → Label → History)
    (s : State × History) (label : Label) : Option (State × History) :=
  (step s.1 label).map fun t => (t, note s.2 s.1 label)

theorem watched_eq_some {s t : State × History} (h : watched step note s label = some t) :
    step s.1 label = some t.1 ∧ t.2 = note s.2 s.1 label := by
  obtain ⟨u, hu, rfl⟩ := Option.map_eq_some_iff.mp h
  exact ⟨hu, rfl⟩

theorem run_watched (hr : run step s first = some t) :
    ∃ after, run (watched step note) (s, history) first = some (t, after) := by
  induction first generalizing s history with
  | nil =>
      obtain rfl : s = t := by simpa using hr
      exact ⟨history, rfl⟩
  | cons label first ih =>
      obtain ⟨u, hu, hr⟩ := Option.bind_eq_some_iff.mp (run_cons ▸ hr)
      have hrest : ∃ after, run (watched step note) (u, note history s label) first =
          some (t, after) := ih hr
      obtain ⟨after, hafter⟩ := hrest
      exact ⟨after, by rw [run_cons, watched, hu]; exact hafter⟩

theorem Along.watched (h : Along step cond s first) :
    Along (watched step note) (fun s label => cond s.1 label) (s, history) first := by
  induction first generalizing s history with
  | nil => trivial
  | cons label first ih =>
      refine ⟨h.1, fun t ht => ?_⟩
      obtain ⟨hstep, -⟩ := watched_eq_some ht
      exact ih (h.2 t.1 hstep)

theorem Along.unwatched
    (h : Along (JoyMesh.Library.watched step note) (fun s label => cond s.1 label) (s, history) first) :
    Along step cond s first := by
  induction first generalizing s history with
  | nil => trivial
  | cons label first ih =>
      refine ⟨h.1, fun t ht => ?_⟩
      exact ih (h.2 (t, note history s label) (by rw [Library.watched, ht]; rfl))

end History

end Partial

section Total

-- A total machine answers each label and moves on.
def play (machine : State → Label → Response × State) : State → List Label → State
  | s, [] => s
  | s, label :: rest => play machine (machine s label).2 rest

def responses (machine : State → Label → Response × State) : State → List Label → List Response
  | _, [] => []
  | s, label :: rest => (machine s label).1 :: responses machine (machine s label).2 rest

def PlayAlong (machine : State → Label → Response × State) (cond : State → Label → Prop) :
    State → List Label → Prop
  | _, [] => True
  | s, label :: rest => cond s label ∧ PlayAlong machine cond (machine s label).2 rest

-- Two machines driven by the same labels, with the condition read off both states.
def PairAlong (left : State → Label → Response × State) (right : Other → Label → Response × Other)
    (cond : State → Other → Label → Prop) : State → Other → List Label → Prop
  | _, _, [] => True
  | s, t, label :: rest =>
      cond s t label ∧ PairAlong left right cond (left s label).2 (right t label).2 rest

instance decidablePlayAlong {machine : State → Label → Response × State}
    {cond : State → Label → Prop} [∀ s label, Decidable (cond s label)] :
    ∀ (s : State) (labels : List Label), Decidable (PlayAlong machine cond s labels)
  | _, [] => .isTrue trivial
  | s, label :: rest =>
      have : Decidable (PlayAlong machine cond (machine s label).2 rest) :=
        decidablePlayAlong (machine s label).2 rest
      inferInstanceAs (Decidable (cond s label ∧ PlayAlong machine cond (machine s label).2 rest))

instance decidablePairAlong {left : State → Label → Response × State}
    {right : Other → Label → Response × Other} {cond : State → Other → Label → Prop}
    [∀ s t label, Decidable (cond s t label)] :
    ∀ (s : State) (t : Other) (labels : List Label), Decidable (PairAlong left right cond s t labels)
  | _, _, [] => .isTrue trivial
  | s, t, label :: rest =>
      have : Decidable (PairAlong left right cond (left s label).2 (right t label).2 rest) :=
        decidablePairAlong (left s label).2 (right t label).2 rest
      inferInstanceAs (Decidable
        (cond s t label ∧ PairAlong left right cond (left s label).2 (right t label).2 rest))

variable {machine : State → Label → Response × State} {cond : State → Label → Prop} {s : State}
  {label : Label} {labels first second : List Label} {left : State → Label → Response × State}
  {right : Other → Label → Response × Other} {t : Other}

@[simp] theorem play_append :
    play machine s (first ++ second) = play machine (play machine s first) second := by
  induction first generalizing s with
  | nil => rfl
  | cons label first ih => exact ih

theorem PlayAlong.append (h : PlayAlong machine cond s (first ++ second)) :
    PlayAlong machine cond s first ∧ PlayAlong machine cond (play machine s first) second := by
  induction first generalizing s with
  | nil => exact ⟨trivial, h⟩
  | cons label first ih => exact ⟨⟨h.1, (ih h.2).1⟩, (ih h.2).2⟩

theorem play_invariant {inv : State → Prop}
    (hstep : ∀ s label, inv s → inv (machine s label).2) (hs : inv s) :
    inv (play machine s labels) := by
  induction labels generalizing s with
  | nil => exact hs
  | cons label labels ih => exact ih (hstep s label hs)

theorem PlayAlong.invariant {inv : State → Prop}
    (hstep : ∀ s label, inv s → cond s label → inv (machine s label).2) (hs : inv s)
    (h : PlayAlong machine cond s labels) : inv (play machine s labels) := by
  induction labels generalizing s with
  | nil => exact hs
  | cons label labels ih => exact ih (hstep s label hs h.1) h.2

-- A step property that is equivalent to a condition wherever the invariant holds
-- is met all along a run exactly when the condition is.
theorem playAlong_iff (inv : State → Prop) {domain property : State → Label → Prop}
    (hiff : ∀ s label, inv s → domain s label → (property s label ↔ cond s label))
    (hstep : ∀ s label, inv s → domain s label → cond s label → inv (machine s label).2)
    (hs : inv s) (hdom : PlayAlong machine domain s labels) :
    PlayAlong machine property s labels ↔ PlayAlong machine cond s labels := by
  induction labels generalizing s with
  | nil => exact Iff.rfl
  | cons label labels ih =>
      have hhead := hiff s label hs hdom.1
      constructor
      · intro h
        have hc := hhead.mp h.1
        exact ⟨hc, (ih (hstep s label hs hdom.1 hc) hdom.2).mp h.2⟩
      · intro h
        exact ⟨hhead.mpr h.1, (ih (hstep s label hs hdom.1 h.1) hdom.2).mpr h.2⟩

-- A condition on the labels alone is met by each of them.
theorem playAlong_labels {allowed : Label → Prop} :
    PlayAlong machine (fun _ label => allowed label) s labels ↔ ∀ label ∈ labels, allowed label := by
  induction labels generalizing s with
  | nil => exact iff_of_true trivial fun _ h => nomatch h
  | cons label labels ih => rw [PlayAlong, ih, List.forall_mem_cons]

theorem PairAlong.and {first second : State → Other → Label → Prop}
    (hf : PairAlong left right first s t labels) (hs : PairAlong left right second s t labels) :
    PairAlong left right (fun s t label => first s t label ∧ second s t label) s t labels := by
  induction labels generalizing s t with
  | nil => trivial
  | cons label labels ih => exact ⟨⟨hf.1, hs.1⟩, ih hf.2 hs.2⟩

-- A simulation: related states give matching answers and related states.
theorem responses_matched {pairCond : State → Other → Label → Prop} {related : State → Other → Prop}
    {same : Response → Response → Prop} (hstep : ∀ s t label, related s t → pairCond s t label →
      same (left s label).1 (right t label).1 ∧ related (left s label).2 (right t label).2)
    (hrel : related s t) (hcond : PairAlong left right pairCond s t labels) :
    List.Forall₂ same (responses left s labels) (responses right t labels) := by
  induction labels generalizing s t with
  | nil => exact .nil
  | cons label labels ih =>
      obtain ⟨hsame, hnext⟩ := hstep s t label hrel hcond.1
      exact .cons hsame (ih hnext hcond.2)

end Total

end JoyMesh.Library
