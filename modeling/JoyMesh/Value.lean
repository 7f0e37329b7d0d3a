import Mathlib.Data.Finmap

namespace JoyMesh

instance lawfulBEq_optionString : LawfulBEq (Option String) := inferInstance

-- A JSON value. A dict lists its items in the order of their keys, which is the
-- order the stores write; a float is known by its shortest round-trip text.
inductive Value where
  | none
  | bool (value : Bool)
  | int (value : Int)
  | float (text : String)
  | str (value : String)
  | list (items : List Value)
  | dict (items : List (String × Value))
deriving Inhabited, Repr

namespace Value

mutual

def beq : Value → Value → Bool
  | .none, .none => true
  | .bool a, .bool b => a == b
  | .int a, .int b => a == b
  | .float a, .float b => a == b
  | .str a, .str b => a == b
  | .list a, .list b => beqList a b
  | .dict a, .dict b => beqDict a b
  | _, _ => false

def beqList : List Value → List Value → Bool
  | [], [] => true
  | a :: as, b :: bs => beq a b && beqList as bs
  | _, _ => false

def beqDict : List (String × Value) → List (String × Value) → Bool
  | [], [] => true
  | (k, a) :: as, (l, b) :: bs => k == l && beq a b && beqDict as bs
  | _, _ => false

end

mutual

theorem beq_iff : ∀ a b : Value, beq a b = true ↔ a = b
  | .none, b => by cases b <;> simp [beq]
  | .bool _, b => by cases b <;> simp [beq]
  | .int _, b => by cases b <;> simp [beq]
  | .float _, b => by cases b <;> simp [beq]
  | .str _, b => by cases b <;> simp [beq]
  | .list a, b => by cases b <;> simp [beq, beqList_iff a]
  | .dict a, b => by cases b <;> simp [beq, beqDict_iff a]

theorem beqList_iff : ∀ a b : List Value, beqList a b = true ↔ a = b
  | [], b => by cases b <;> simp [beqList]
  | a :: as, b => by cases b <;> simp [beqList, beq_iff a, beqList_iff as]

theorem beqDict_iff : ∀ a b : List (String × Value), beqDict a b = true ↔ a = b
  | [], b => by cases b <;> simp [beqDict]
  | (k, a) :: as, b => by
      cases b with
      | nil => simp [beqDict]
      | cons b bs =>
          obtain ⟨l, b⟩ := b
          simp [beqDict, beq_iff a, beqDict_iff as, and_assoc]

end

instance : DecidableEq Value := fun a b => decidable_of_iff _ (beq_iff a b)

-- Python truth: None, False, zero and empty values are false.
def truthy : Value → Bool
  | .none => false
  | .bool b => b
  | .int n => n != 0
  | .float text => text != "0.0" && text != "-0.0"
  | .str s => s != ""
  | .list items => !items.isEmpty
  | .dict items => !items.isEmpty

-- A list or a dict cannot be a member of a set.
def hashable : Value → Bool
  | .list _ => false
  | .dict _ => false
  | _ => true

-- The text repr() quotes a string with: a double quote only where it saves an escape.
def quote (s : String) : String :=
  let mark := if s.toList.contains '\'' && !s.toList.contains '"' then '"' else '\''
  let escape : Char → List Char := fun c =>
    if c = '\\' then ['\\', '\\']
    else if c = mark then ['\\', mark]
    else if c = '\n' then ['\\', 'n']
    else if c = '\r' then ['\\', 'r']
    else if c = '\t' then ['\\', 't']
    else [c]
  String.ofList ([mark] ++ s.toList.flatMap escape ++ [mark])

mutual

def repr : Value → String
  | .none => "None"
  | .bool b => if b then "True" else "False"
  | .int n => toString n
  | .float text => text
  | .str s => quote s
  | .list items => "[" ++ ", ".intercalate (reprList items) ++ "]"
  | .dict items => "\x7b" ++ ", ".intercalate (reprDict items) ++ "\x7d"

def reprList : List Value → List String
  | [] => []
  | item :: rest => repr item :: reprList rest

def reprDict : List (String × Value) → List String
  | [] => []
  | (key, item) :: rest => (quote key ++ ": " ++ repr item) :: reprDict rest

end

-- Python str(): only a string prints without quotes.
def text : Value → String
  | .str s => s
  | value => value.repr

def asStr : Value → Option String
  | .str s => some s
  | _ => Option.none

def ofOption : Option String → Value
  | some s => .str s
  | Option.none => .none

end Value

-- A dict with string keys; the order of its items is not observed.
abbrev Mapping := Finmap fun _ : String => Value

namespace Mapping

def ofList (items : List (String × Value)) : Mapping :=
  (items.map fun item => (⟨item.1, item.2⟩ : Sigma fun _ : String => Value)).toFinmap

-- The dict display that unpacks the first mapping and then the second.
def update (first second : Mapping) : Mapping := second ∪ first

def get (mapping : Mapping) (key : String) : Value := (mapping.lookup key).getD .none

-- The second mapping wins.
theorem get_update_of_lookup {first second : Mapping} {key : String} {value : Value}
    (h : second.lookup key = some value) : (first.update second).get key = value := by
  have hmem : key ∈ second := Finmap.lookup_isSome.mp (by rw [h]; rfl)
  rw [get, update, Finmap.lookup_union_left hmem, h]
  rfl

end Mapping

-- Microseconds since the epoch.
abbrev Time := Int

-- The calendar date of a day counted from the epoch, as (year, month, day).
def civil (days : Int) : Int × Int × Int :=
  let shifted := days + 719468
  let era := shifted / 146097
  let doe := shifted % 146097
  let yoe := (doe - doe / 1460 + doe / 36524 - doe / 146096) / 365
  let doy := doe - (365 * yoe + yoe / 4 - yoe / 100)
  let mp := (5 * doy + 2) / 153
  let month := if mp < 10 then mp + 3 else mp - 9
  (yoe + era * 400 + (if month ≤ 2 then 1 else 0), month, doy - (153 * mp + 2) / 5 + 1)

def padded (width : Nat) (n : Int) : String :=
  let digits := (toString n).toList
  String.ofList (List.replicate (width - digits.length) '0' ++ digits)

-- datetime.isoformat in UTC: the fraction is printed only when it is not zero.
def isoformat (t : Time) : String :=
  let (year, month, day) := civil (t / 86400000000)
  let seconds := t % 86400000000 / 1000000
  let micros := t % 1000000
  padded 4 year ++ "-" ++ padded 2 month ++ "-" ++ padded 2 day ++ "T" ++
    padded 2 (seconds / 3600) ++ ":" ++ padded 2 (seconds / 60 % 60) ++ ":" ++
    padded 2 (seconds % 60) ++ (if micros = 0 then "" else "." ++ padded 6 micros) ++ "+00:00"

example : isoformat 1709251199000001 = "2024-02-29T23:59:59.000001+00:00" := by decide +kernel

end JoyMesh
