import Mathlib.Data.List.Sort
import Mathlib.Data.String.Basic

namespace JoyMesh.Library

-- A JSON text by its syntax tree. An object lists its members in the order of
-- the text, and a name may come twice. A float is known by its text.
inductive Json where
  | null
  | bool (value : Bool)
  | int (value : Int)
  | float (text : String)
  | str (value : String)
  | arr (items : List Json)
  | obj (members : List (String × Json))
deriving Inhabited

-- An int, a bool or a float that is a number, as the key of a dict: its place in
-- the order of the numbers and the text that json writes for it.
structure Number where
  infinite : Int := 0
  value : Rat
  text : String
deriving DecidableEq

-- The keys of a dict that json can write.
inductive Key where
  | str (value : String)
  | num (value : Number)
  | none
deriving DecidableEq

-- A Python value. Anything that json cannot write itself is known by its str().
inductive PyValue where
  | none
  | bool (value : Bool)
  | int (value : Int)
  | float (text : String)
  | str (value : String)
  | list (items : List PyValue)
  | tuple (items : List PyValue)
  | dict (items : List (Key × PyValue))
  | other (text : String)
deriving Inhabited

namespace Key

def text : Key → String
  | .str value => value
  | .num value => value.text
  | .none => "null"

def le : Key → Key → Prop
  | .str a, .str b => a ≤ b
  | .num a, .num b => a.infinite < b.infinite ∨ a.infinite = b.infinite ∧ a.value ≤ b.value
  | .none, .none => True
  | _, _ => False

instance : DecidableRel le := fun a b => by
  cases a <;> cases b <;> unfold le <;> infer_instance

def isStr : Key → Bool
  | .str _ => true
  | _ => false

def isNum : Key → Bool
  | .num _ => true
  | _ => false

-- Sorting compares the keys of a dict that has two of them or more, and keys of
-- different kinds cannot be compared.
def sortable (keys : List Key) : Bool :=
  keys.length ≤ 1 || keys.all isStr || keys.all isNum

end Key

section Members

variable {β : Type*}

def sortMembers (members : List (String × β)) : List (String × β) :=
  members.insertionSort fun first second => first.1 ≤ second.1

end Members

end JoyMesh.Library
