import JoyMesh.Library.Json

namespace JoyMesh.Library

-- Why json.dumps refuses a value.
inductive DumpError where
  | notSerializable
  | keysNotComparable
deriving DecidableEq, Repr

-- What json.dumps makes of the parts of a dict: their order and their names.
def writeMembers (sortKeys : Bool) (members : List (Key × Json)) : Except DumpError Json :=
  if sortKeys then
    if Key.sortable (members.map Prod.fst) then
      .ok (.obj ((members.insertionSort fun first second => Key.le first.1 second.1).map
        (Prod.map Key.text id)))
    else .error .keysNotComparable
  else .ok (.obj (members.map (Prod.map Key.text id)))

mutual

-- json.dumps. With default=str an object that json cannot write is written as
-- its str().
def dumps (sortKeys defaultStr : Bool) : PyValue → Except DumpError Json
  | .none => .ok .null
  | .bool value => .ok (.bool value)
  | .int value => .ok (.int value)
  | .float text => .ok (.float text)
  | .str value => .ok (.str value)
  | .list items => (dumpsList sortKeys defaultStr items).map .arr
  | .tuple items => (dumpsList sortKeys defaultStr items).map .arr
  | .dict items => (dumpsItems sortKeys defaultStr items).bind (writeMembers sortKeys)
  | .other text => if defaultStr then .ok (.str text) else .error .notSerializable

def dumpsList (sortKeys defaultStr : Bool) : List PyValue → Except DumpError (List Json)
  | [] => .ok []
  | item :: rest =>
      (dumps sortKeys defaultStr item).bind fun first =>
        (dumpsList sortKeys defaultStr rest).map fun others => first :: others

def dumpsItems (sortKeys defaultStr : Bool) :
    List (Key × PyValue) → Except DumpError (List (Key × Json))
  | [] => .ok []
  | (key, item) :: rest =>
      (dumps sortKeys defaultStr item).bind fun first =>
        (dumpsItems sortKeys defaultStr rest).map fun others => (key, first) :: others

end

end JoyMesh.Library
