import Mathlib.Data.List.Basic
import Mathlib.Logic.Nontrivial.Basic

namespace JoyMesh.Library

-- What a token of a command line is read as.
inductive Role where
  | option
  | value
  | terminator
  | operand
deriving DecidableEq, Repr

-- What the reader is ready for: any token, the value of the last option, or
-- operands only.
inductive Expecting where
  | any
  | value
  | operands
deriving DecidableEq, Repr

-- The tokens that start an option, those of them that take a value, and the one
-- that ends the options.
structure Grammar (α : Type*) where
  dashed : α → Bool
  takesValue : α → Bool
  terminator : α
  dashed_terminator : dashed terminator = true

namespace Grammar

variable {α : Type*} [DecidableEq α] (g : Grammar α)

def role : Expecting → α → Role
  | .any, token =>
      if token = g.terminator then .terminator
      else if g.dashed token then .option
      else .operand
  | .value, _ => .value
  | .operands, _ => .operand

def next : Expecting → α → Expecting
  | .any, token =>
      if token = g.terminator then .operands
      else if g.dashed token && g.takesValue token then .value
      else .any
  | .value, _ => .any
  | .operands, _ => .operands

def read : Expecting → List α → List (Role × α)
  | _, [] => []
  | expecting, token :: rest =>
      (g.role expecting token, token) :: read (g.next expecting token) rest

def after : Expecting → List α → Expecting
  | expecting, [] => expecting
  | expecting, token :: rest => after (g.next expecting token) rest

variable {g} {expecting : Expecting} {token : α} {first second tokens : List α}

theorem read_append :
    g.read expecting (first ++ second) =
      g.read expecting first ++ g.read (g.after expecting first) second := by
  induction first generalizing expecting with
  | nil => rfl
  | cons token rest ih => simp [read, after, ih]

theorem after_append :
    g.after expecting (first ++ second) = g.after (g.after expecting first) second := by
  induction first generalizing expecting with
  | nil => rfl
  | cons token rest ih => simp [after, ih]

theorem read_length : (g.read expecting tokens).length = tokens.length := by
  induction tokens generalizing expecting with
  | nil => rfl
  | cons token rest ih => simp [read, ih]

@[simp] theorem after_operands : g.after .operands tokens = .operands := by
  induction tokens with
  | nil => rfl
  | cons token rest ih => exact ih

theorem role_any_of_dashed (h : g.dashed token = true) : g.role .any token ≠ .operand := by
  simp only [role]
  split_ifs <;> simp

-- As long as the options have not ended, no operand starts like an option.
theorem dashed_of_mem_read (hafter : g.after expecting tokens ≠ .operands)
    (hmem : (Role.operand, token) ∈ g.read expecting tokens) : g.dashed token = false := by
  induction tokens generalizing expecting with
  | nil => simp [read] at hmem
  | cons other rest ih =>
      rcases List.mem_cons.mp hmem with heq | hrest
      · obtain ⟨hrole, rfl⟩ := Prod.mk.inj heq
        cases expecting with
        | any =>
            by_contra hdashed
            exact role_any_of_dashed (by simpa using hdashed) hrole.symm
        | value => simp [role] at hrole
        | operands => exact absurd after_operands hafter
      · exact ih hafter hrest

-- A last token that starts like an option is nowhere read as an operand.
theorem not_mem_read_concat (hafter : g.after expecting tokens = .any)
    (hdashed : g.dashed token = true) :
    (Role.operand, token) ∉ g.read expecting (tokens ++ [token]) := by
  intro hmem
  rw [read_append, List.mem_append, hafter] at hmem
  rcases hmem with hmem | hmem
  · have hplain : g.dashed token = false := dashed_of_mem_read (by simp [hafter]) hmem
    simp [hdashed] at hplain
  · obtain ⟨hrole, -⟩ := Prod.mk.inj (List.mem_singleton.mp hmem)
    exact role_any_of_dashed hdashed hrole.symm

theorem role_any_of_plain (h : g.dashed token = false) : g.role .any token = .operand := by
  have hne : token ≠ g.terminator := by
    rintro rfl
    simp [g.dashed_terminator] at h
  simp [role, hne, h]

theorem next_any_of_plain (h : g.dashed token = false) : g.next .any token = .any := by
  have hne : token ≠ g.terminator := by
    rintro rfl
    simp [g.dashed_terminator] at h
  simp [next, hne, h]

-- The options of a reading, each with the value that directly follows it.
def settings : List (Role × α) → List (α × Option α)
  | [] => []
  | [(role, token)] => if role = .option then [(token, none)] else []
  | (role, token) :: (next, value) :: rest =>
      if role = .option then
        (token, if next = .value then some value else none) :: settings ((next, value) :: rest)
      else settings ((next, value) :: rest)

def operands (reading : List (Role × α)) : List α :=
  (reading.filter fun item => item.1 = .operand).map Prod.snd

-- Where a command line takes its prompts: the operands after so many words of the command,
-- or the values of an option.
inductive Place (α : Type*) where
  | operand (words : Nat)
  | option (name : α)
deriving DecidableEq

def valuesOf (name : α) (reading : List (Role × α)) : List α :=
  (settings reading).filterMap fun setting => if setting.1 = name then setting.2 else none

def prompts (g : Grammar α) : Place α → List α → List α
  | .operand words, tokens => (operands (g.read .any tokens)).drop words
  | .option name, tokens => valuesOf name (g.read .any tokens)

-- The token between the two parts is read as a prompt, and nothing else is.
structure Delivers (g : Grammar α) (place : Place α) (before : List α) (prompt : α)
    (rest : List α) : Prop where
  none_before : g.prompts place before = []
  prompt_read : g.prompts place (before ++ [prompt]) = [prompt]
  none_after : g.prompts place (before ++ prompt :: rest) = [prompt]

section Settings

theorem role_any_ne_value : g.role .any token ≠ .value := by
  simp only [role]
  split_ifs <;> simp

omit [DecidableEq α] in
theorem settings_cons_option {name : α} {reading : List (Role × α)}
    (h : ∀ item ∈ reading.head?, item.1 ≠ .value) :
    settings ((.option, name) :: reading) = (name, none) :: settings reading := by
  cases reading with
  | nil => rfl
  | cons item reading => simp [settings, h item rfl]

omit [DecidableEq α] in
theorem settings_cons_other {item : Role × α} {reading : List (Role × α)}
    (h : item.1 ≠ .option) : settings (item :: reading) = settings reading := by
  obtain ⟨role, token⟩ := item
  cases reading with
  | nil => simp [settings, show role ≠ .option from h]
  | cons item reading => simp [settings, show role ≠ .option from h]

omit [DecidableEq α] in
theorem settings_append {reading second : List (Role × α)}
    (h : ∀ item ∈ second.head?, item.1 ≠ .value) :
    settings (reading ++ second) = settings reading ++ settings second := by
  induction reading with
  | nil => rfl
  | cons item reading ih =>
      obtain ⟨role, token⟩ := item
      by_cases hrole : role = .option
      · subst hrole
        cases reading with
        | nil => exact settings_cons_option h
        | cons next reading =>
            rw [List.cons_append, List.cons_append, settings, if_pos rfl, settings, if_pos rfl,
              List.cons_append, ← ih, List.cons_append]
      · rw [List.cons_append, settings_cons_other hrole, settings_cons_other hrole, ih]

theorem head_read_any : ∀ item ∈ (g.read .any tokens).head?, item.1 ≠ .value := by
  intro item hitem
  cases tokens with
  | nil => cases hitem
  | cons token rest =>
      cases hitem
      exact role_any_ne_value

-- The settings of a command line are those of its parts, where the first part does not end
-- in an option that waits for its value.
theorem settings_read_append (h : g.after expecting first = .any) :
    settings (g.read expecting (first ++ second)) =
      settings (g.read expecting first) ++ settings (g.read .any second) := by
  rw [read_append, h, settings_append head_read_any]

theorem settings_read_operands : settings (g.read .operands tokens) = [] := by
  induction tokens with
  | nil => rfl
  | cons token rest ih =>
      have hrole : g.role .operands token ≠ .option := by simp [role]
      rw [read, settings_cons_other hrole]
      exact ih

theorem operands_read_append (h : g.after expecting first = .any) :
    operands (g.read expecting (first ++ second)) =
      operands (g.read expecting first) ++ operands (g.read .any second) := by
  rw [read_append, h, operands, List.filter_append, List.map_append]
  rfl

end Settings

section Pieces

-- What a command line is put together of.
inductive Piece (α : Type*) where
  | switch (name : α)
  | flag (name value : α)
  | word (token : α)

namespace Piece

def written : Piece α → List α
  | switch name => [name]
  | flag name value => [name, value]
  | word token => [token]

def reading : Piece α → List (Role × α)
  | switch name => [(.option, name)]
  | flag name value => [(.option, name), (.value, value)]
  | word token => [(.operand, token)]

def setting : Piece α → Option (α × Option α)
  | switch name => some (name, none)
  | flag name value => some (name, some value)
  | word _ => none

def operand : Piece α → Option α
  | word token => some token
  | _ => none

end Piece

def IsOption (g : Grammar α) (name : α) (value : Bool) : Bool :=
  g.dashed name && g.takesValue name == value && name != g.terminator

-- Each piece is read as what it is meant to be.
def Fits (g : Grammar α) : Piece α → Bool
  | .switch name => g.IsOption name false
  | .flag name _ => g.IsOption name true
  | .word token => !g.dashed token

-- A fitting piece that is no prompt.
def Quiet (g : Grammar α) (place : Place α) (piece : Piece α) : Bool :=
  g.Fits piece &&
    match place with
    | .operand _ => piece.operand.isNone
    | .option name => piece.setting.all fun setting => setting.1 != name

variable {piece : Piece α} {pieces more : List (Piece α)} {name prompt : α}

theorem isOption_iff {value : Bool} : g.IsOption name value = true ↔
    g.dashed name = true ∧ g.takesValue name = value ∧ name ≠ g.terminator := by
  simp [IsOption, and_assoc]

theorem read_option {value : Bool} (h : g.IsOption name value = true) :
    g.role .any name = .option ∧ g.next .any name = if value then .value else .any := by
  obtain ⟨hdashed, hvalue, hne⟩ := isOption_iff.mp h
  simp [role, next, hdashed, hvalue, hne]

theorem read_piece (h : g.Fits piece = true) :
    g.read .any piece.written = piece.reading ∧ g.after .any piece.written = .any := by
  cases piece with
  | switch name =>
      obtain ⟨hrole, hnext⟩ := read_option h
      simp [Piece.written, Piece.reading, read, after, hrole, hnext]
  | flag name value =>
      obtain ⟨hrole, hnext⟩ := read_option h
      simp only [Piece.written, Piece.reading, read, after, hrole, hnext]
      exact ⟨rfl, rfl⟩
  | word token =>
      have hplain : g.dashed token = false := by simpa [Fits] using h
      simp [Piece.written, Piece.reading, read, after, role_any_of_plain hplain,
        next_any_of_plain hplain]

theorem after_pieces (h : ∀ piece ∈ pieces, g.Fits piece = true) :
    g.after .any (pieces.flatMap Piece.written) = .any := by
  induction pieces with
  | nil => rfl
  | cons piece pieces ih =>
      rw [List.flatMap_cons, after_append, (read_piece (h piece List.mem_cons_self)).2]
      exact ih fun other hother => h other (List.mem_cons_of_mem _ hother)

theorem settings_piece (h : g.Fits piece = true) :
    settings (g.read .any piece.written) = piece.setting.toList := by
  rw [(read_piece h).1]
  cases piece <;> rfl

theorem operands_piece (h : g.Fits piece = true) :
    operands (g.read .any piece.written) = piece.operand.toList := by
  rw [(read_piece h).1]
  cases piece <;> rfl

-- A command line that is put together of fitting pieces is read as those pieces.
theorem settings_pieces (h : ∀ piece ∈ pieces, g.Fits piece = true) :
    settings (g.read .any (pieces.flatMap Piece.written)) = pieces.filterMap Piece.setting := by
  induction pieces with
  | nil => rfl
  | cons piece pieces ih =>
      have hpiece := h piece List.mem_cons_self
      rw [List.flatMap_cons, settings_read_append (read_piece hpiece).2, settings_piece hpiece,
        ih fun other hother => h other (List.mem_cons_of_mem _ hother), List.filterMap_cons]
      cases piece.setting <;> rfl

theorem operands_pieces (h : ∀ piece ∈ pieces, g.Fits piece = true) :
    operands (g.read .any (pieces.flatMap Piece.written)) = pieces.filterMap Piece.operand := by
  induction pieces with
  | nil => rfl
  | cons piece pieces ih =>
      have hpiece := h piece List.mem_cons_self
      rw [List.flatMap_cons, operands_read_append (read_piece hpiece).2, operands_piece hpiece,
        ih fun other hother => h other (List.mem_cons_of_mem _ hother), List.filterMap_cons]
      cases piece.operand <;> rfl

theorem valuesOf_append {first second : List (Role × α)}
    (h : ∀ item ∈ second.head?, item.1 ≠ .value) :
    valuesOf name (first ++ second) = valuesOf name first ++ valuesOf name second := by
  rw [valuesOf, settings_append h, List.filterMap_append]
  rfl

theorem quiet_iff {place : Place α} : g.Quiet place piece = true ↔ g.Fits piece = true ∧
    match place with
    | .operand _ => piece.operand = none
    | .option name => ∀ setting ∈ piece.setting, setting.1 ≠ name := by
  cases place with
  | operand => simp [Quiet]
  | option name => cases hsetting : piece.setting <;> simp [Quiet, hsetting]

theorem valuesOf_quiet (h : ∀ piece ∈ pieces, g.Quiet (.option name) piece = true) :
    valuesOf name (g.read .any (pieces.flatMap Piece.written)) = [] := by
  rw [valuesOf, settings_pieces fun piece hpiece => (quiet_iff.mp (h piece hpiece)).1,
    List.filterMap_eq_nil_iff]
  intro setting hsetting
  obtain ⟨piece, hpiece, hfound⟩ := List.mem_filterMap.mp hsetting
  exact if_neg ((quiet_iff.mp (h piece hpiece)).2 setting hfound)

theorem operands_quiet {words : Nat} (h : ∀ piece ∈ pieces, g.Quiet (.operand words) piece = true) :
    operands (g.read .any (pieces.flatMap Piece.written)) = [] := by
  rw [operands_pieces fun piece hpiece => (quiet_iff.mp (h piece hpiece)).1,
    List.filterMap_eq_nil_iff]
  exact fun piece hpiece => (quiet_iff.mp (h piece hpiece)).2

-- A prompt that is the value of its option is delivered whatever it is.
theorem delivers_value (hname : g.IsOption name true = true)
    (hpieces : ∀ piece ∈ pieces, g.Quiet (.option name) piece = true)
    (hmore : ∀ piece ∈ more, g.Quiet (.option name) piece = true) :
    g.Delivers (.option name) (pieces.flatMap Piece.written ++ [name]) prompt
      (more.flatMap Piece.written) := by
  have hfits : ∀ piece ∈ pieces, g.Fits piece = true :=
    fun piece hpiece => (quiet_iff.mp (hpieces piece hpiece)).1
  obtain ⟨hrole, hnext⟩ := read_option hname
  have hflag : g.Fits (.flag name prompt) = true := hname
  have hread : ∀ rest, g.prompts (.option name)
      (pieces.flatMap Piece.written ++ ([name, prompt] ++ rest)) =
        prompt :: valuesOf name (g.read .any rest) := by
    intro rest
    have hvalue : valuesOf name (g.read .any [name, prompt]) = [prompt] := by
      rw [valuesOf, show [name, prompt] = (Piece.flag name prompt).written from rfl,
        settings_piece hflag]
      simp [Piece.setting]
    have hsettled : g.after .any [name, prompt] = .any := (read_piece hflag).2
    rw [prompts, read_append, after_pieces hfits, valuesOf_append head_read_any,
      valuesOf_quiet hpieces, List.nil_append, read_append, hsettled,
      valuesOf_append head_read_any, hvalue, List.singleton_append]
  constructor
  · rw [prompts, read_append, after_pieces hfits, valuesOf_append head_read_any,
      valuesOf_quiet hpieces, List.nil_append]
    simp [read, hrole, valuesOf, settings]
  · have := hread []
    simpa [read, valuesOf, settings] using this
  · have := hread (more.flatMap Piece.written)
    rw [valuesOf_quiet hmore] at this
    simpa using this

-- A prompt that is an operand is delivered exactly when it does not start like an option.
theorem delivers_operand_iff {words : Nat} (hpieces : ∀ piece ∈ pieces, g.Fits piece = true)
    (hwords : (pieces.filterMap Piece.operand).length = words)
    (hmore : ∀ piece ∈ more, g.Quiet (.operand words) piece = true) :
    g.Delivers (.operand words) (pieces.flatMap Piece.written) prompt (more.flatMap Piece.written) ↔
      g.dashed prompt = false := by
  have hread : ∀ rest, g.prompts (.operand words) (pieces.flatMap Piece.written ++ rest) =
      operands (g.read .any rest) := by
    intro rest
    rw [prompts, operands_read_append (after_pieces hpieces), operands_pieces hpieces, ← hwords,
      List.drop_left]
  constructor
  · intro h
    by_contra hdashed
    have hrole : g.role .any prompt ≠ .operand := role_any_of_dashed (by simpa using hdashed)
    have hprompt := h.prompt_read
    rw [hread] at hprompt
    simp [read, operands, hrole] at hprompt
  · intro hplain
    have hword : g.Fits (.word prompt) = true := by simp [Fits, hplain]
    have hsettled : g.after .any [prompt] = .any := (read_piece hword).2
    have hself : operands (g.read .any [prompt]) = [prompt] := operands_piece hword
    constructor
    · have := hread []
      simpa [read, operands] using this
    · rw [hread, hself]
    · rw [hread, show prompt :: more.flatMap Piece.written = [prompt] ++ more.flatMap Piece.written
        from rfl, operands_read_append hsettled, hself, operands_quiet hmore]
      rfl

-- Behind any tokens an option and its value are read as such exactly when the tokens leave
-- the reader ready for an option.
theorem delivers_last_iff (hname : g.IsOption name true = true) :
    g.Delivers (.option name) (tokens ++ [name]) prompt [] ↔
      g.after .any tokens = .any ∧ g.prompts (.option name) tokens = [] := by
  constructor
  · intro h
    have hbefore := h.none_before
    have hprompt := h.prompt_read
    rw [List.append_assoc] at hprompt
    rw [prompts, read_append] at hbefore hprompt
    cases hafter : g.after .any tokens with
    | any =>
        rw [hafter, valuesOf_append head_read_any, List.append_eq_nil_iff] at hbefore
        exact ⟨rfl, hbefore.1⟩
    | operands =>
        rw [hafter] at hbefore hprompt
        have hnone : ∀ item ∈ (g.read .operands ([name] ++ [prompt])).head?, item.1 ≠ .value := by
          rintro item ⟨⟩
          exact nofun
        rw [valuesOf_append (by rintro item ⟨⟩; exact nofun), List.append_eq_nil_iff] at hbefore
        rw [valuesOf_append hnone, hbefore.1] at hprompt
        simp [read, role, next, valuesOf, settings] at hprompt
    | value =>
        rw [hafter] at hbefore hprompt
        have hsplit : g.read .value ([name] ++ [prompt]) =
            g.read .value [name] ++ g.read .any [prompt] := read_append
        have hlone : valuesOf name (g.read .any [prompt]) = [] := by
          simp only [read, valuesOf, settings]
          split
          · simp
          · rfl
        rw [hsplit, ← List.append_assoc, valuesOf_append head_read_any, hbefore, hlone] at hprompt
        cases hprompt
  · rintro ⟨hafter, hquiet⟩
    obtain ⟨hrole, hnext⟩ := read_option hname
    have hread : ∀ rest, g.prompts (.option name) (tokens ++ rest) =
        valuesOf name (g.read .any rest) := by
      intro rest
      rw [prompts, read_append, hafter, valuesOf_append head_read_any]
      rw [prompts] at hquiet
      rw [hquiet, List.nil_append]
    have hvalue : valuesOf name (g.read .any [name, prompt]) = [prompt] := by
      have hflag : g.Fits (.flag name prompt) = true := hname
      rw [valuesOf, show [name, prompt] = (Piece.flag name prompt).written from rfl,
        settings_piece hflag]
      simp [Piece.setting]
    constructor
    · rw [hread]
      simp [read, hrole, valuesOf, settings]
    · rw [List.append_assoc, hread]
      exact hvalue
    · rw [List.append_assoc, hread]
      exact hvalue

end Pieces

end Grammar

-- What stands around a slot is known from what the line is with anything in it.
theorem slot_unique {α : Type*} [Nontrivial α] {before rest otherBefore otherRest : List α}
    (h : ∀ token, before ++ token :: rest = otherBefore ++ token :: otherRest) :
    before = otherBefore ∧ rest = otherRest := by
  have hshort : ∀ {first second left right : List α},
      (∀ token, first ++ token :: left = second ++ token :: right) →
        ¬first.length < second.length := by
    intro first second left right hline hlt
    have hslot : ∀ token, second[first.length]? = some token := by
      intro token
      have hget := congrArg (fun tokens => tokens[first.length]?) (hline token)
      simpa [List.getElem?_append_left hlt] using hget.symm
    obtain ⟨token, other, hne⟩ := exists_pair_ne α
    exact hne (Option.some.inj ((hslot token).symm.trans (hslot other)))
  have hlength : before.length = otherBefore.length :=
    Nat.le_antisymm (Nat.not_lt.mp (hshort fun token => (h token).symm))
      (Nat.not_lt.mp (hshort h))
  obtain ⟨token, -⟩ := exists_pair_ne α
  obtain ⟨hbefore, hrest⟩ := List.append_inj (h token) hlength
  exact ⟨hbefore, (List.cons.inj hrest).2⟩

end JoyMesh.Library
