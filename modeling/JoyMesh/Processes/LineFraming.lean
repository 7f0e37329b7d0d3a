import JoyMesh.Library.Text

namespace JoyMesh.Processes

open JoyMesh.Library

section Framing

def maxStreamLineBytes : Nat := 4 * 1024 * 1024

def readChunkBytes : Nat := 64 * 1024

-- What a read before the end of the stream returns.
structure Chunk where
  bytes : List UInt8
  nonempty : bytes ≠ []
  bounded : bytes.length ≤ readChunkBytes

-- The strings that the iterator yields, and whether it ends with
-- HarnessStreamOverflowError.
structure Framed where
  lines : List Points := []
  overflow : Bool := false
deriving DecidableEq

def Framed.after (lines : List Points) (framed : Framed) : Framed :=
  { framed with lines := lines ++ framed.lines }

def lineOf (record : List UInt8) : Points := (decodeUtf8 record).rdropWhile (· = 13)

def lastLineOf (record : List UInt8) : Points :=
  (decodeUtf8 record).rdropWhile fun c => c = 13 ∨ c = 10

variable (limit : Nat)

-- The inner loop: the lines up to the last newline of the buffer, and what is left
-- of it unless a line is too long.
def drainLines (buffer : List UInt8) : List Points × Option (List UInt8) :=
  match _hnewline : buffer.dropWhile (· ≠ 10) with
  | [] => ([], some buffer)
  | _ :: rest =>
      let line := buffer.takeWhile (· ≠ 10)
      if limit < line.length then ([], none)
      else
        let (lines, left) := drainLines rest
        (lineOf line :: lines, left)
termination_by buffer.length
decreasing_by
  have hle := (List.dropWhile_suffix (l := buffer) (· ≠ 10)).length_le
  rw [_hnewline, List.length_cons] at hle
  omega

def framedFrom (buffer : List UInt8) : List Chunk → Framed
  | [] =>
      if buffer = [] then {}
      else if limit < buffer.length then { overflow := true }
      else { lines := [lastLineOf buffer] }
  | chunk :: chunks =>
      match drainLines limit (buffer ++ chunk.bytes) with
      | (lines, none) => { lines, overflow := true }
      | (lines, some buffer) =>
          if limit < buffer.length then { lines, overflow := true }
          else (framedFrom buffer chunks).after lines

def iterBoundedLines (chunks : List Chunk) : Framed := framedFrom maxStreamLineBytes [] chunks

end Framing

section Records

variable (limit : Nat)

-- The records between the newlines of a stream; the last one may be without a newline.
def recordsOf (stream : List UInt8) : List (List UInt8) :=
  let parts := stream.splitOn 10
  if parts.getLast? = some [] then parts.dropLast else parts

def fits (record : List UInt8) : Bool := record.length ≤ limit

-- The lines of the records before the first one that is too long.
def framed (records : List (List UInt8)) : Framed where
  lines := (records.takeWhile (fits limit)).map lineOf
  overflow := records.any fun record => limit < record.length

variable {limit} {buffer stream line rest : List UInt8} {records : List (List UInt8)}

theorem framed_cons {record : List UInt8} : framed limit (record :: records) =
    if limit < record.length then { overflow := true }
    else (framed limit records).after [lineOf record] := by
  by_cases h : limit < record.length
  · have hfits : fits limit record = false := by simpa [fits] using h
    simp [framed, hfits, h]
  · have hfits : fits limit record = true := by simpa [fits] using h
    simp [framed, Framed.after, hfits, h]

theorem recordsOf_line (h : 10 ∉ line) :
    recordsOf (line ++ 10 :: rest) = line :: recordsOf rest := by
  have hparts : rest.splitOn 10 ≠ [] := List.splitOn_ne_nil _ _
  rw [recordsOf, recordsOf, List.splitOn_append_cons_self_of_not_mem h,
    List.getLast?_cons_of_ne_nil hparts]
  split
  · rw [List.dropLast_cons_of_ne_nil hparts]
  · rfl

theorem recordsOf_open (h : 10 ∉ buffer) :
    recordsOf buffer = if buffer = [] then [] else [buffer] := by
  rw [recordsOf, List.splitOn_eq_singleton h]
  by_cases hempty : buffer = [] <;> simp [hempty]

-- A record that has begun goes on.
theorem recordsOf_begun (h : 10 ∉ buffer) (hne : buffer ≠ []) :
    ∃ tail records, recordsOf (buffer ++ rest) = (buffer ++ tail) :: records := by
  by_cases hrest : 10 ∈ rest
  · obtain ⟨before, after, rfl, hbefore⟩ := List.eq_append_cons_of_mem hrest
    have hline : 10 ∉ buffer ++ before := by simp [h, hbefore]
    exact ⟨before, recordsOf after, by rw [← List.append_assoc, recordsOf_line hline]⟩
  · have hopen : 10 ∉ buffer ++ rest := by simp [h, hrest]
    exact ⟨rest, [], by rw [recordsOf_open hopen, if_neg (by simp [hne])]⟩

-- Without a newline, the buffer ends in the same line at the end of the stream.
theorem lastLineOf_eq (h : 10 ∉ buffer) : lastLineOf buffer = lineOf buffer := by
  have hdecoded : 10 ∉ decodeUtf8 buffer := by
    intro hmem
    obtain ⟨byte, hbyte, hten⟩ := decodeUtf8_reads hmem (by decide)
    exact h ((UInt8.toNat_inj.mp hten : byte = 10) ▸ hbyte)
  rw [lastLineOf, lineOf, List.rdropWhile, List.rdropWhile]
  congr 1
  have hreverse : 10 ∉ (decodeUtf8 buffer).reverse := by simpa using hdecoded
  generalize (decodeUtf8 buffer).reverse = text at hreverse
  induction text with
  | nil => rfl
  | cons c text ih =>
      rw [List.mem_cons, not_or] at hreverse
      have hc : decide (c = 13 ∨ c = 10) = decide (c = 13) := by
        simp [Ne.symm hreverse.1]
      rw [List.dropWhile_cons, List.dropWhile_cons, hc, ih hreverse.2]

theorem framed_after {lines more : List Points} {f : Framed} :
    (f.after more).after lines = f.after (lines ++ more) := by
  simp [Framed.after]

theorem plain_line (h : 10 ∉ line) : ∀ byte ∈ line, decide (byte ≠ 10) = true := by
  intro byte hbyte
  rw [decide_eq_true_eq]
  rintro rfl
  exact h hbyte

theorem dropWhile_line (h : 10 ∉ line) : (line ++ 10 :: rest).dropWhile (· ≠ 10) = 10 :: rest := by
  rw [List.dropWhile_append_of_pos (plain_line h)]
  rfl

theorem takeWhile_line (h : 10 ∉ line) : (line ++ 10 :: rest).takeWhile (· ≠ 10) = line := by
  rw [List.takeWhile_append_of_pos (plain_line h)]
  exact List.append_nil line

theorem drainLines_open (h : 10 ∉ buffer) : drainLines limit buffer = ([], some buffer) := by
  have hopen : buffer.dropWhile (· ≠ 10) = [] := List.dropWhile_eq_nil_iff.mpr (plain_line h)
  rw [drainLines]
  split
  next => rfl
  next heq =>
    rw [hopen] at heq
    cases heq

theorem drainLines_line (h : 10 ∉ line) : drainLines limit (line ++ 10 :: rest) =
    if limit < line.length then ([], none)
    else (lineOf line :: (drainLines limit rest).1, (drainLines limit rest).2) := by
  have hline : (line ++ 10 :: rest).dropWhile (· ≠ 10) = 10 :: rest := dropWhile_line h
  rw [drainLines]
  split
  next heq =>
    rw [hline] at heq
    cases heq
  next heq =>
    rw [hline] at heq
    cases heq
    rw [takeWhile_line h]

-- The lines of a buffer, and the records of what is left with what follows.
theorem drain_framed (buffer rest : List UInt8) :
    match drainLines limit buffer with
    | (lines, none) => framed limit (recordsOf (buffer ++ rest)) = { lines, overflow := true }
    | (lines, some left) => 10 ∉ left ∧
        framed limit (recordsOf (buffer ++ rest)) =
          (framed limit (recordsOf (left ++ rest))).after lines := by
  by_cases hbuffer : 10 ∈ buffer
  · obtain ⟨line, after, hsplit, hline⟩ := List.eq_append_cons_of_mem hbuffer
    rw [hsplit, drainLines_line hline, List.append_assoc, List.cons_append, recordsOf_line hline, framed_cons]
    by_cases hlong : limit < line.length
    · rw [if_pos hlong, if_pos hlong]
    · rw [if_neg hlong, if_neg hlong]
      have hafter := drain_framed after rest
      generalize drainLines limit after = drained at hafter ⊢
      obtain ⟨lines, _ | left⟩ := drained
      · exact congrArg (Framed.after _) hafter
      · exact ⟨hafter.1, by rw [hafter.2, framed_after]; rfl⟩
  · rw [drainLines_open hbuffer]
    exact ⟨hbuffer, rfl⟩
termination_by buffer.length
decreasing_by
  rw [hsplit, List.length_append, List.length_cons]
  omega

theorem framedFrom_eq (hbuffer : 10 ∉ buffer) (hlength : buffer.length ≤ limit) (chunks : List Chunk) :
    framedFrom limit buffer chunks =
      framed limit (recordsOf (buffer ++ chunks.flatMap Chunk.bytes)) := by
  induction chunks generalizing buffer with
  | nil =>
      rw [List.flatMap_nil, List.append_nil, framedFrom, recordsOf_open hbuffer]
      by_cases hempty : buffer = []
      · rw [if_pos hempty, if_pos hempty]
        rfl
      · rw [if_neg hempty, if_neg hempty, if_neg (by omega), framed_cons, if_neg (by omega),
          lastLineOf_eq hbuffer]
        rfl
  | cons chunk chunks ih =>
      rw [framedFrom, List.flatMap_cons, ← List.append_assoc]
      have hdrain := @drain_framed limit (buffer ++ chunk.bytes) (chunks.flatMap Chunk.bytes)
      generalize drainLines limit (buffer ++ chunk.bytes) = drained at hdrain ⊢
      obtain ⟨lines, _ | left⟩ := drained
      · exact hdrain.symm
      · obtain ⟨hleft, hframed⟩ := hdrain
        dsimp only
        rw [hframed]
        by_cases hlong : limit < left.length
        · rw [if_pos hlong]
          obtain ⟨tail, records, hrecords⟩ :=
            @recordsOf_begun left (chunks.flatMap Chunk.bytes) hleft (by rintro rfl; simp at hlong)
          rw [hrecords, framed_cons, if_pos (by rw [List.length_append]; omega)]
          simp [Framed.after]
        · rw [if_neg hlong, ih hleft (by omega)]

-- However the stream is cut into chunks, its records are framed.
theorem iterBoundedLines_eq (chunks : List Chunk) :
    iterBoundedLines chunks =
      framed maxStreamLineBytes (recordsOf (chunks.flatMap Chunk.bytes)) :=
  framedFrom_eq (List.not_mem_nil) (Nat.zero_le _) chunks

end Records

end JoyMesh.Processes
