import Mathlib

namespace JoyMesh.Library

-- A Python str by its code points. A surrogate may stand alone in it.
abbrev Points := List Nat

def points (s : String) : Points := s.toList.map Char.toNat

-- A surrogate that stands alone has no character.
def stringOf (text : Points) : String := String.ofList (text.map Char.ofNat)

section Lines

-- The line boundaries of str.splitlines; a carriage return and a line feed are one.
def isLineBreak (c : Nat) : Bool :=
  (10 ≤ c && c ≤ 13) || (28 ≤ c && c ≤ 30) || c == 0x85 || c == 0x2028 || c == 0x2029

def splitlines : Points → List Points
  | [] => []
  | 13 :: 10 :: rest => [] :: splitlines rest
  | c :: rest =>
      if isLineBreak c then [] :: splitlines rest
      else match splitlines rest with
        | [] => [[c]]
        | line :: lines => (c :: line) :: lines

-- str.isspace of one code point.
def isSpace (c : Nat) : Bool :=
  (9 ≤ c && c ≤ 13) || (28 ≤ c && c ≤ 32) || c == 0x85 || c == 0xa0 || c == 0x1680 ||
    (0x2000 ≤ c && c ≤ 0x200a) || c == 0x2028 || c == 0x2029 || c == 0x202f || c == 0x205f ||
    c == 0x3000

def strip (text : Points) : Points := (text.dropWhile isSpace).rdropWhile isSpace

def Unbroken (text : Points) : Prop := ∀ c ∈ text, isLineBreak c = false

instance (text : Points) : Decidable (Unbroken text) :=
  inferInstanceAs (Decidable (∀ c ∈ text, isLineBreak c = false))

def Blank (text : Points) : Prop := ∀ c ∈ text, isSpace c = true

instance (text : Points) : Decidable (Blank text) :=
  inferInstanceAs (Decidable (∀ c ∈ text, isSpace c = true))

variable {c : Nat} {text rest : Points}

theorem unbroken_cons : Unbroken (c :: text) ↔ isLineBreak c = false ∧ Unbroken text :=
  List.forall_mem_cons

theorem splitlines_cons (h : isLineBreak c = false) :
    splitlines (c :: rest) = match splitlines rest with
      | [] => [[c]]
      | line :: lines => (c :: line) :: lines := by
  have hc : c ≠ 13 := by
    rintro rfl
    exact absurd h (by decide)
  rw [splitlines.eq_3 c rest (fun _ hreturn _ => hc hreturn), if_neg (by simp [h])]

-- What is left after a line break; a line feed belongs to the return before it.
def afterBreak (c : Nat) (rest : Points) : Points :=
  match rest with
  | 10 :: rest' => if c = 13 then rest' else rest
  | _ => rest

theorem splitlines_break (h : isLineBreak c = true) :
    splitlines (c :: rest) = [] :: splitlines (afterBreak c rest) := by
  by_cases hreturn : c = 13
  · subst hreturn
    cases rest with
    | nil => rfl
    | cons d rest =>
        by_cases hfeed : d = 10
        · subst hfeed
          rfl
        · rw [splitlines.eq_3 13 (d :: rest) (by rintro _ - ⟨⟩; exact hfeed rfl), if_pos h]
          unfold afterBreak
          split
          next heq =>
            cases heq
            exact absurd rfl hfeed
          next => rfl
  · rw [splitlines.eq_3 c rest (fun _ heq _ => hreturn heq), if_pos h]
    unfold afterBreak
    split
    · rw [if_neg hreturn]
    · rfl

-- A line ends where its first break stands.
theorem splitlines_append_break (htext : Unbroken text) (hc : isLineBreak c = true) :
    splitlines (text ++ c :: rest) = text :: splitlines (afterBreak c rest) := by
  induction text with
  | nil => exact splitlines_break hc
  | cons d text ih =>
      obtain ⟨hd, htext⟩ := unbroken_cons.mp htext
      rw [List.cons_append, splitlines_cons hd, ih htext]

theorem splitlines_append_newline (h : Unbroken text) :
    splitlines (text ++ 10 :: rest) = text :: splitlines rest := by
  rw [splitlines_append_break h (by decide)]
  unfold afterBreak
  split <;> rfl

-- Text without a break runs on into the first line of what follows.
theorem splitlines_append (h : Unbroken text) (hne : text ≠ []) :
    splitlines (text ++ rest) = match splitlines rest with
      | [] => [text]
      | line :: lines => (text ++ line) :: lines := by
  induction text with
  | nil => exact absurd rfl hne
  | cons c text ih =>
      obtain ⟨hc, htext⟩ := unbroken_cons.mp h
      rw [List.cons_append, splitlines_cons hc]
      by_cases hempty : text = []
      · subst hempty
        rfl
      · rw [ih htext hempty]
        cases splitlines rest <;> rfl

theorem splitlines_unbroken (h : Unbroken text) (hne : text ≠ []) : splitlines text = [text] := by
  simpa [splitlines] using @splitlines_append text [] h hne

theorem dropWhile_end {d : Nat} (hd : isSpace d = false) :
    ∃ start, (text ++ [d]).dropWhile isSpace = start ++ [d] := by
  rw [List.dropWhile_append, List.dropWhile_cons_of_neg (by simp [hd])]
  split
  · exact ⟨[], rfl⟩
  · exact ⟨_, rfl⟩

theorem strip_ne (hne : text ≠ []) (hlast : ∀ c ∈ text.getLast?, isSpace c = false) :
    strip text ≠ [] := by
  rcases List.eq_nil_or_concat text with rfl | ⟨start, d, rfl⟩
  · exact absurd rfl hne
  · rw [List.concat_eq_append] at hlast ⊢
    have hd : isSpace d = false := hlast d (by simp)
    obtain ⟨rest, hrest⟩ := @dropWhile_end start d hd
    rw [strip, hrest, List.rdropWhile_concat_neg _ _ _ (by simp [hd])]
    simp

theorem strip_append_end {d : Nat} (hd : isSpace d = false) (hrest : Blank rest) :
    strip (text ++ d :: rest) = strip (text ++ [d]) := by
  have hdrop : ∀ more : Points, (text ++ d :: more).dropWhile isSpace =
      (text ++ [d]).dropWhile isSpace ++ more := by
    intro more
    rw [List.dropWhile_append, List.dropWhile_append, List.dropWhile_cons_of_neg (by simp [hd]),
      List.dropWhile_cons_of_neg (by simp [hd])]
    split <;> simp
  obtain ⟨start, hstart⟩ := @dropWhile_end text d hd
  have hblank : rest.reverse.dropWhile isSpace = [] := by
    rw [List.dropWhile_eq_nil_iff]
    exact fun c hc => hrest c (List.mem_reverse.mp hc)
  rw [strip, strip, hdrop rest, hstart, List.rdropWhile, List.rdropWhile, List.reverse_append,
    List.dropWhile_append, hblank]
  simp

-- What stands between the blanks at its ends is what is left.
theorem strip_edges (hfirst : ∀ c ∈ text.head?, isSpace c = false)
    (hlast : ∀ c ∈ text.getLast?, isSpace c = false) (hrest : Blank rest) :
    strip (text ++ rest) = text := by
  rcases List.eq_nil_or_concat text with rfl | ⟨start, d, rfl⟩
  · rw [strip, List.nil_append, List.dropWhile_eq_nil_iff.mpr hrest]
    rfl
  · rw [List.concat_eq_append] at hfirst hlast ⊢
    have hd : isSpace d = false := hlast d (by simp)
    have hdrop : (start ++ [d]).dropWhile isSpace = start ++ [d] := by
      cases start with
      | nil => simp [hd]
      | cons c start => simp [hfirst c (by simp)]
    rw [List.append_assoc, List.singleton_append, strip_append_end hd hrest, strip, hdrop,
      List.rdropWhile_concat_neg _ _ _ (by simp [hd])]

theorem strip_cons_space (h : isSpace c = true) : strip (c :: text) = strip text := by
  rw [strip, strip, List.dropWhile_cons_of_pos h]

end Lines

-- The letters that match an ASCII letter when case is ignored.
def foldCase (c : Nat) : Nat :=
  if 65 ≤ c ∧ c ≤ 90 then c + 32
  else if c = 0x130 ∨ c = 0x131 then 105
  else if c = 0x17f then 115
  else if c = 0x212a then 107
  else c

-- What follows a text at the head of another one, up to the folding of letters.
def dropText (fold : Nat → Nat) (part : String) (text : Points) : Option Points :=
  if (points part).isPrefixOf (text.map fold) then some (text.drop (points part).length) else none

def includes (text : Points) (part : String) : Bool :=
  text.tails.any fun suffix => (points part).isPrefixOf suffix

def includesAny (text : Points) (parts : List String) : Bool := parts.any (includes text)

def isOneOf (text : Points) (names : List String) : Bool := (names.map points).contains text

section Decoding

-- A sequence that has begun: its bits so far, the bytes it still needs and the
-- range of the next one.
structure Pending where
  bits : Nat
  need : Nat
  low : Nat := 0x80
  high : Nat := 0xbf
deriving DecidableEq

def replacement : Nat := 0xfffd

def leadByte (byte : Nat) : Points × Option Pending :=
  if byte < 0x80 then ([byte], none)
  else if 0xc2 ≤ byte ∧ byte ≤ 0xdf then ([], some { bits := byte - 0xc0, need := 1 })
  else if 0xe0 ≤ byte ∧ byte ≤ 0xef then
    ([], some {
      bits := byte - 0xe0
      need := 2
      low := if byte = 0xe0 then 0xa0 else 0x80
      high := if byte = 0xed then 0x9f else 0xbf })
  else if 0xf0 ≤ byte ∧ byte ≤ 0xf4 then
    ([], some {
      bits := byte - 0xf0
      need := 3
      low := if byte = 0xf0 then 0x90 else 0x80
      high := if byte = 0xf4 then 0x8f else 0xbf })
  else ([replacement], none)

-- A byte that does not continue the sequence begins another one.
def nextByte (pending : Option Pending) (byte : Nat) : Points × Option Pending :=
  match pending with
  | none => leadByte byte
  | some sequence =>
      if sequence.low ≤ byte ∧ byte ≤ sequence.high then
        let bits := sequence.bits * 64 + (byte - 0x80)
        if sequence.need ≤ 1 then ([bits], none)
        else ([], some { bits, need := sequence.need - 1 })
      else
        let (decoded, pending) := leadByte byte
        (replacement :: decoded, pending)

def decodeFrom : Option Pending → List Nat → Points
  | none, [] => []
  | some _, [] => [replacement]
  | pending, byte :: rest =>
      let (decoded, pending) := nextByte pending byte
      decoded ++ decodeFrom pending rest

-- bytes.decode(errors="replace").
def decodeUtf8 (bytes : List UInt8) : Points :=
  decodeFrom none (bytes.map UInt8.toNat)

def IsSurrogate (c : Nat) : Prop := 0xd800 ≤ c ∧ c < 0xe000

instance : DecidablePred IsSurrogate := fun c =>
  inferInstanceAs (Decidable (0xd800 ≤ c ∧ c < 0xe000))

-- No way to end the sequence gives a surrogate.
structure Pending.Sound (sequence : Pending) : Prop where
  low : 0x80 ≤ sequence.low
  scalar : (sequence.bits * 64 + (sequence.high - 0x80) + 1) * 64 ^ (sequence.need - 1) ≤ 0xd800 ∨
    0xe000 ≤ (sequence.bits * 64 + (sequence.low - 0x80)) * 64 ^ (sequence.need - 1)

-- What is decoded holds no surrogate, and what is pending will not.
def Scalars (result : Points × Option Pending) : Prop :=
  (∀ c ∈ result.1, ¬IsSurrogate c) ∧ ∀ sequence ∈ result.2, sequence.Sound

theorem leadByte_scalars (byte : Nat) : Scalars (leadByte byte) := by
  have hreplacement : ¬IsSurrogate replacement := by decide
  unfold leadByte
  split
  · rename_i h
    simp only [Scalars, List.mem_singleton, forall_eq, Option.not_mem_none, false_implies,
      implies_true, and_true]
    intro hsurrogate
    have := hsurrogate.1
    omega
  split
  · rename_i h
    simp only [Scalars, List.not_mem_nil, false_implies, implies_true, true_and, Option.mem_def,
      Option.some.injEq, forall_eq']
    exact ⟨Nat.le_refl _, .inl (by simp only [Nat.sub_self, Nat.pow_zero]; omega)⟩
  split
  · rename_i h
    simp only [Scalars, List.not_mem_nil, false_implies, implies_true, true_and, Option.mem_def,
      Option.some.injEq, forall_eq']
    refine ⟨?_, ?_⟩
    · dsimp only
      split <;> omega
    · dsimp only
      by_cases hlow : byte = 0xed
      · subst hlow
        exact .inl (by decide)
      · rw [if_neg hlow]
        split <;> omega
  split
  · rename_i h
    simp only [Scalars, List.not_mem_nil, false_implies, implies_true, true_and, Option.mem_def,
      Option.some.injEq, forall_eq']
    refine ⟨?_, .inr ?_⟩
    · dsimp only
      split <;> omega
    · dsimp only
      split <;> omega
  · simp [Scalars, hreplacement]

theorem nextByte_scalars {pending : Option Pending} (h : ∀ sequence ∈ pending, sequence.Sound)
    (byte : Nat) : Scalars (nextByte pending byte) := by
  cases pending with
  | none => exact leadByte_scalars byte
  | some sequence =>
      obtain ⟨hlow, hscalar⟩ := h sequence rfl
      simp only [nextByte]
      by_cases hnext : sequence.low ≤ byte ∧ byte ≤ sequence.high
      · obtain ⟨hfrom, hto⟩ := hnext
        rw [if_pos ⟨hfrom, hto⟩]
        by_cases hneed : sequence.need ≤ 1
        · rw [if_pos hneed]
          have hone : sequence.need - 1 = 0 := by omega
          rw [hone, Nat.pow_zero] at hscalar
          refine ⟨?_, by simp⟩
          simp only [List.mem_singleton, forall_eq]
          rintro ⟨hge, hlt⟩
          omega
        · rw [if_neg hneed]
          obtain ⟨n, hn⟩ : ∃ n, sequence.need = n + 2 := ⟨sequence.need - 2, by omega⟩
          refine ⟨by simp, ?_⟩
          simp only [Option.mem_def, Option.some.injEq, forall_eq']
          refine ⟨Nat.le_refl _, ?_⟩
          rw [hn] at hscalar
          simp only [hn, Nat.add_sub_cancel, Nat.reduceSubDiff, Nat.pow_succ,
            Nat.sub_self, Nat.add_zero] at hscalar ⊢
          rcases hscalar with hscalar | hscalar
          · refine .inl (le_trans ?_ hscalar)
            rw [Nat.mul_comm (64 ^ n) 64, ← Nat.mul_assoc]
            exact Nat.mul_le_mul_right _ (by omega)
          · refine .inr (le_trans hscalar ?_)
            rw [Nat.mul_comm (64 ^ n) 64, ← Nat.mul_assoc]
            exact Nat.mul_le_mul_right _ (by omega)
      · rw [if_neg hnext]
        obtain ⟨hdecoded, hpending⟩ := leadByte_scalars byte
        refine ⟨?_, hpending⟩
        rw [List.forall_mem_cons]
        exact ⟨by decide, hdecoded⟩

theorem decodeFrom_scalar {bytes : List Nat} {pending : Option Pending}
    (h : ∀ sequence ∈ pending, sequence.Sound) : ∀ c ∈ decodeFrom pending bytes, ¬IsSurrogate c := by
  induction bytes generalizing pending with
  | nil =>
      cases pending with
      | none => simp [decodeFrom]
      | some sequence =>
          simp only [decodeFrom, List.mem_singleton, forall_eq]
          decide
  | cons byte bytes ih =>
      obtain ⟨hdecoded, hpending⟩ := nextByte_scalars h byte
      have hstep : decodeFrom pending (byte :: bytes) =
          (nextByte pending byte).1 ++ decodeFrom (nextByte pending byte).2 bytes := by
        cases pending <;> rfl
      rw [hstep]
      exact List.forall_mem_append.mpr ⟨hdecoded, ih hpending⟩

theorem decodeUtf8_scalar (bytes : List UInt8) : ∀ c ∈ decodeUtf8 bytes, ¬IsSurrogate c :=
  decodeFrom_scalar (by simp)

-- Every way to end the sequence gives a character beyond ASCII.
structure Pending.Wide (sequence : Pending) : Prop where
  low : 0x80 ≤ sequence.low
  wide : 0x80 ≤ (sequence.bits * 64 + (sequence.low - 0x80)) * 64 ^ (sequence.need - 1)

-- An ASCII character is the byte that it is read from.
def ReadsAscii (byte : Nat) (result : Points × Option Pending) : Prop :=
  (∀ c ∈ result.1, c < 0x80 → c = byte) ∧ ∀ sequence ∈ result.2, sequence.Wide

theorem leadByte_reads (byte : Nat) : ReadsAscii byte (leadByte byte) := by
  unfold leadByte
  split
  · simp [ReadsAscii]
  split
  · simp only [ReadsAscii, List.not_mem_nil, false_implies, implies_true, true_and, Option.mem_def,
      Option.some.injEq, forall_eq']
    exact ⟨Nat.le_refl _, by simp only [Nat.sub_self, Nat.pow_zero]; omega⟩
  split
  · simp only [ReadsAscii, List.not_mem_nil, false_implies, implies_true, true_and, Option.mem_def,
      Option.some.injEq, forall_eq']
    refine ⟨?_, ?_⟩ <;>
    · dsimp only
      split <;> omega
  split
  · simp only [ReadsAscii, List.not_mem_nil, false_implies, implies_true, true_and, Option.mem_def,
      Option.some.injEq, forall_eq']
    refine ⟨?_, ?_⟩ <;>
    · dsimp only
      split <;> omega
  · simp [ReadsAscii, replacement]

theorem nextByte_reads {pending : Option Pending} (h : ∀ sequence ∈ pending, sequence.Wide)
    (byte : Nat) : ReadsAscii byte (nextByte pending byte) := by
  cases pending with
  | none => exact leadByte_reads byte
  | some sequence =>
      obtain ⟨hlow, hwide⟩ := h sequence rfl
      simp only [nextByte]
      by_cases hnext : sequence.low ≤ byte ∧ byte ≤ sequence.high
      · obtain ⟨hfrom, hto⟩ := hnext
        rw [if_pos ⟨hfrom, hto⟩]
        have hbits : sequence.bits * 64 + (sequence.low - 0x80) ≤
            sequence.bits * 64 + (byte - 0x80) := by omega
        by_cases hneed : sequence.need ≤ 1
        · rw [if_pos hneed]
          have hone : sequence.need - 1 = 0 := by omega
          rw [hone, Nat.pow_zero] at hwide
          refine ⟨?_, by simp⟩
          simp only [List.mem_singleton, forall_eq]
          omega
        · rw [if_neg hneed]
          obtain ⟨n, hn⟩ : ∃ n, sequence.need = n + 2 := ⟨sequence.need - 2, by omega⟩
          refine ⟨by simp, ?_⟩
          simp only [Option.mem_def, Option.some.injEq, forall_eq']
          refine ⟨Nat.le_refl _, ?_⟩
          rw [hn] at hwide
          simp only [hn, Nat.add_sub_cancel, Nat.reduceSubDiff, Nat.pow_succ, Nat.sub_self,
            Nat.add_zero] at hwide ⊢
          refine le_trans hwide ?_
          rw [Nat.mul_comm (64 ^ n) 64, ← Nat.mul_assoc]
          exact Nat.mul_le_mul_right _ (Nat.mul_le_mul_right _ hbits)
      · rw [if_neg hnext]
        obtain ⟨hdecoded, hpending⟩ := leadByte_reads byte
        refine ⟨?_, hpending⟩
        rw [List.forall_mem_cons]
        exact ⟨fun hascii => absurd hascii (by decide), hdecoded⟩

theorem decodeFrom_reads {bytes : List Nat} {pending : Option Pending}
    (h : ∀ sequence ∈ pending, sequence.Wide) :
    ∀ c ∈ decodeFrom pending bytes, c < 0x80 → c ∈ bytes := by
  induction bytes generalizing pending with
  | nil =>
      cases pending with
      | none => simp [decodeFrom]
      | some sequence => simp [decodeFrom, replacement]
  | cons byte bytes ih =>
      obtain ⟨hdecoded, hpending⟩ := nextByte_reads h byte
      have hstep : decodeFrom pending (byte :: bytes) =
          (nextByte pending byte).1 ++ decodeFrom (nextByte pending byte).2 bytes := by
        cases pending <;> rfl
      rw [hstep]
      refine List.forall_mem_append.mpr ⟨fun c hc hascii => ?_, fun c hc hascii => ?_⟩
      · exact hdecoded c hc hascii ▸ List.mem_cons_self
      · exact List.mem_cons_of_mem _ (ih hpending c hc hascii)

theorem decodeUtf8_reads {bytes : List UInt8} {c : Nat} (hc : c ∈ decodeUtf8 bytes)
    (hascii : c < 0x80) : ∃ byte ∈ bytes, byte.toNat = c :=
  List.mem_map.mp (decodeFrom_reads (by simp) c hc hascii)

example : decodeUtf8 [0x61, 0xf0, 0x9f, 0x98, 0x80, 0xe2, 0x82, 0x41] =
    [0x61, 0x1f600, 0xfffd, 0x41] := by decide

end Decoding

end JoyMesh.Library
