import Mathlib.Logic.Function.Basic

namespace JoyMesh.Library

variable {Shared Thread Id : Type*}

-- An annotated set of threads over a shared state: the state is good, every
-- thread meets its assertion, and any two threads are apart.
structure Annotated (good : Shared → Prop) (meets : Shared → Thread → Prop)
    (apart : Thread → Thread → Prop) (s : Shared) (threads : Id → Option Thread) : Prop where
  shared : good s
  thread : ∀ i l, threads i = some l → meets s l
  pair : ∀ i j l m, i ≠ j → threads i = some l → threads j = some m → apart l m

variable {good : Shared → Prop} {meets : Shared → Thread → Prop} {apart : Thread → Thread → Prop}
  {s t : Shared} {threads : Id → Option Thread} {i : Id} {l next : Thread}

-- The shared state changes under all threads at once.
theorem Annotated.shift (h : Annotated good meets apart s threads) (hgood : good t)
    (hall : ∀ j m, threads j = some m → meets s m → meets t m) :
    Annotated good meets apart t threads where
  shared := hgood
  thread j m hm := hall j m hm (h.thread j m hm)
  pair := h.pair

-- Every thread is replaced by one that asserts no more.
theorem Annotated.relabel {f : Thread → Thread} (h : Annotated good meets apart s threads)
    (hmeets : ∀ m, meets s m → meets s (f m))
    (hapart : ∀ m n, apart m n → apart (f m) (f n)) :
    Annotated good meets apart s (fun j => (threads j).map f) where
  shared := h.shared
  thread j m hm := by
    obtain ⟨n, hn, rfl⟩ := Option.map_eq_some_iff.mp hm
    exact hmeets n (h.thread j n hn)
  pair j k m n hjk hm hn := by
    obtain ⟨m', hm', rfl⟩ := Option.map_eq_some_iff.mp hm
    obtain ⟨n', hn', rfl⟩ := Option.map_eq_some_iff.mp hn
    exact hapart m' n' (h.pair j k m' n' hjk hm' hn')

variable [DecidableEq Id]

-- Non-interference: one thread moves to its next assertion, the shared state
-- stays good, and what the other threads assert survives.
theorem Annotated.move (h : Annotated good meets apart s threads) (hgood : good t)
    (hown : meets t next)
    (hother : ∀ j m, j ≠ i → threads j = some m → meets s m → meets t m)
    (hapart : ∀ j m, j ≠ i → threads j = some m → meets s m → apart next m ∧ apart m next) :
    Annotated good meets apart t (Function.update threads i (some next)) where
  shared := hgood
  thread j m hm := by
    by_cases hj : j = i
    · subst hj
      rw [Function.update_self, Option.some.injEq] at hm
      exact hm ▸ hown
    · rw [Function.update_of_ne hj] at hm
      exact hother j m hj hm (h.thread j m hm)
  pair j k m n hjk hm hn := by
    by_cases hj : j = i
    · subst hj
      rw [Function.update_self, Option.some.injEq] at hm
      rw [Function.update_of_ne (Ne.symm hjk)] at hn
      exact hm ▸ (hapart k n (Ne.symm hjk) hn (h.thread k n hn)).1
    · rw [Function.update_of_ne hj] at hm
      by_cases hk : k = i
      · subst hk
        rw [Function.update_self, Option.some.injEq] at hn
        exact hn ▸ (hapart j m hj hm (h.thread j m hm)).2
      · rw [Function.update_of_ne hk] at hn
        exact h.pair j k m n hjk hm hn

end JoyMesh.Library
