import JoyMesh.Library.Text

namespace JoyMesh.Library

-- What json.loads builds. A float is known by its literal.
inductive JsonValue where
  | null
  | bool (value : Bool)
  | int (value : Int)
  | float (literal : Points)
  | str (text : Points)
  | arr (items : List JsonValue)
  | obj (members : List (Points × JsonValue))
deriving Inhabited

-- Only the first is a JSONDecodeError.
inductive LoadError where
  | decode
  | value
  | recursion
deriving DecidableEq

-- The digits of an int that the interpreter converts and the containers it nests.
structure Limits where
  digits : Nat := 4300
  depth : Nat

-- What was read and the text after it.
abbrev Scanned (α : Type) := α × Points

section Members

variable {β : Type}

-- Assignment to a key of a dict keeps the place of the key.
def assign (key : Points) (value : β) : List (Points × β) → List (Points × β)
  | [] => [(key, value)]
  | item :: rest => if item.1 = key then (key, value) :: rest else item :: assign key value rest

def dictOf (pairs : List (Points × β)) : List (Points × β) :=
  pairs.foldl (fun items pair => assign pair.1 pair.2 items) []

def lookup (key : Points) (members : List (Points × β)) : Option β :=
  (members.find? fun member => member.1 = key).map Prod.snd

end Members

section Strings

def hexValue (c : Nat) : Option Nat :=
  if 48 ≤ c ∧ c ≤ 57 then some (c - 48)
  else if 97 ≤ c ∧ c ≤ 102 then some (c - 87)
  else if 65 ≤ c ∧ c ≤ 70 then some (c - 55)
  else none

def hexUnit (a b c d : Nat) : Option Nat := do
  let a ← hexValue a
  let b ← hexValue b
  let c ← hexValue c
  let d ← hexValue d
  return a * 4096 + b * 256 + c * 16 + d

def shortEscape (c : Nat) : Option Nat :=
  if c = 34 ∨ c = 47 ∨ c = 92 then some c
  else if c = 98 then some 8
  else if c = 102 then some 12
  else if c = 110 then some 10
  else if c = 114 then some 13
  else if c = 116 then some 9
  else none

def isHigh (unit : Nat) : Bool := 0xd800 ≤ unit && unit ≤ 0xdbff

def isLow (unit : Nat) : Bool := 0xdc00 ≤ unit && unit ≤ 0xdfff

def joined (high low : Nat) : Nat := 0x10000 + (high - 0xd800) * 1024 + (low - 0xdc00)

def startsLowEscape : Points → Bool
  | 92 :: 117 :: a :: b :: c :: d :: _ => (hexUnit a b c d).any isLow
  | _ => false

-- An escaped high surrogate takes the escaped low surrogate after it.
def joinUnit (unit : Nat) (rest content : Points) : Points :=
  match content with
  | [] => [unit]
  | low :: content =>
      if isHigh unit && startsLowEscape rest then joined unit low :: content
      else unit :: low :: content

-- The characters after an opening quote, up to the closing one.
def scanString : Points → Except LoadError (Scanned Points)
  | [] => .error .decode
  | c :: rest =>
      if c = 34 then .ok ([], rest)
      else if c = 92 then
        match rest with
        | [] => .error .decode
        | e :: rest' =>
            if e = 117 then
              match rest' with
              | h₁ :: h₂ :: h₃ :: h₄ :: rest'' =>
                  match hexUnit h₁ h₂ h₃ h₄ with
                  | none => .error .decode
                  | some unit =>
                      (scanString rest'').map (Prod.map (joinUnit unit rest'') id)
              | _ => .error .decode
            else
              match shortEscape e with
              | none => .error .decode
              | some unit => (scanString rest').map (Prod.map (unit :: ·) id)
      else if c < 32 then .error .decode
      else (scanString rest).map (Prod.map (c :: ·) id)

end Strings

section Numbers

def isDigit (c : Nat) : Bool := 48 ≤ c && c ≤ 57

def natOf (digits : Points) : Nat := digits.foldl (fun n d => n * 10 + (d - 48)) 0

def scanWhole : Points → Points × Points
  | c :: rest =>
      if c = 48 then ([48], rest)
      else ((c :: rest).takeWhile isDigit, (c :: rest).dropWhile isDigit)
  | [] => ([], [])

def scanFraction : Points → Points × Points
  | 46 :: rest =>
      if (rest.takeWhile isDigit).isEmpty then ([], 46 :: rest)
      else (46 :: rest.takeWhile isDigit, rest.dropWhile isDigit)
  | rest => ([], rest)

def scanSign : Points → Points × Points
  | 43 :: rest => ([43], rest)
  | 45 :: rest => ([45], rest)
  | rest => ([], rest)

def scanExponent : Points → Points × Points
  | [] => ([], [])
  | e :: rest =>
      if e = 69 ∨ e = 101 then
        let (sign, digits) := scanSign rest
        if (digits.takeWhile isDigit).isEmpty then ([], e :: rest)
        else (e :: sign ++ digits.takeWhile isDigit, digits.dropWhile isDigit)
      else ([], e :: rest)

def scanMinus : Points → Points × Points
  | 45 :: rest => ([45], rest)
  | rest => ([], rest)

variable (limits : Limits)

def scanNumber (text : Points) : Except LoadError (Scanned JsonValue) :=
  let (minus, body) := scanMinus text
  let (whole, body) := scanWhole body
  let (fraction, body) := scanFraction body
  let (exponent, body) := scanExponent body
  if whole.isEmpty then .error .decode
  else if fraction.isEmpty && exponent.isEmpty then
    if limits.digits < whole.length then .error .value
    else .ok (.int (if minus.isEmpty then natOf whole else -natOf whole), body)
  else .ok (.float (minus ++ whole ++ fraction ++ exponent), body)

end Numbers

section Scanner

def isBlank (c : Nat) : Bool := c == 32 || c == 9 || c == 10 || c == 13

def skipBlank (text : Points) : Points := text.dropWhile isBlank

def constants : List (Points × JsonValue) :=
  [(points "null", .null), (points "true", .bool true), (points "false", .bool false),
    (points "NaN", .float (points "NaN")), (points "Infinity", .float (points "Infinity")),
    (points "-Infinity", .float (points "-Infinity"))]

def scanConstant (text : Points) : Option (JsonValue × Points) :=
  constants.findSome? fun constant =>
    if constant.1.isPrefixOf text then some (constant.2, text.drop constant.1.length) else none

variable (limits : Limits)

section Containers

-- The elements of a container after its opening bracket, up to the closing one.
-- Each takes some of the text, so its length is fuel enough.
def scanElements {α : Type} (close : Nat) (element : Points → Except LoadError (Scanned α)) :
    Nat → Points → Except LoadError (Scanned (List α))
  | 0, _ => .error .decode
  | fuel + 1, text => do
      let (first, rest) ← element text
      match skipBlank rest with
      | [] => .error .decode
      | c :: rest =>
          if c = close then return ([first], rest)
          else if c = 44 then
            let (others, rest) ← scanElements close element fuel (skipBlank rest)
            return (first :: others, rest)
          else .error .decode

variable (scan : Points → Except LoadError (Scanned JsonValue))

def scanValue (key text : Points) : Except LoadError (Scanned (Points × JsonValue)) :=
  match skipBlank text with
  | 58 :: rest => (scan (skipBlank rest)).map (Prod.map (Prod.mk key) id)
  | _ => .error .decode

def scanMember (text : Points) : Except LoadError (Scanned (Points × JsonValue)) :=
  match text with
  | 34 :: text => do
      let (key, rest) ← scanString text
      scanValue scan key rest
  | _ => .error .decode

def scanContainer {α : Type} (close : Nat) (element : Points → Except LoadError (Scanned α))
    (build : List α → JsonValue) (text : Points) : Except LoadError (Scanned JsonValue) :=
  match skipBlank text with
  | [] => .error .decode
  | c :: rest =>
      if c = close then .ok (build [], rest)
      else (scanElements close element (rest.length + 2) (c :: rest)).map (Prod.map build id)

def scanArray : Points → Except LoadError (Scanned JsonValue) :=
  scanContainer 93 scan .arr

def scanObject : Points → Except LoadError (Scanned JsonValue) :=
  scanContainer 125 (scanMember scan) fun pairs => .obj (dictOf pairs)

end Containers

def scanWith (array object : Points → Except LoadError (Scanned JsonValue)) (text : Points) :
    Except LoadError (Scanned JsonValue) :=
  match text with
  | [] => .error .decode
  | c :: rest =>
      if c = 34 then (scanString rest).map (Prod.map .str id)
      else if c = 123 then object rest
      else if c = 91 then array rest
      else match scanConstant text with
        | some found => .ok found
        | none => scanNumber limits text

-- The room is the number of containers that may still be opened.
def scanOnce : Nat → Points → Except LoadError (Scanned JsonValue)
  | 0 => scanWith limits (fun _ => .error .recursion) fun _ => .error .recursion
  | room + 1 => scanWith limits (scanArray (scanOnce room)) (scanObject (scanOnce room))

def loadsText (text : Points) : Except LoadError JsonValue :=
  if text.head? = some 0xfeff then .error .decode
  else do
    let (value, rest) ← scanOnce limits limits.depth (skipBlank text)
    if (skipBlank rest).isEmpty then return value else .error .decode

end Scanner

end JoyMesh.Library
