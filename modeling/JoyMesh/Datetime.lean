import JoyMesh.Value

namespace JoyMesh

-- A datetime is naive or aware. The aware ones are in UTC.
structure Datetime where
  time : Time
  aware : Bool := true
deriving DecidableEq, Repr

-- The text without the offset.
def wallText (t : Time) : String :=
  let (year, month, day) := civil (t / 86400000000)
  let seconds := t % 86400000000 / 1000000
  let micros := t % 1000000
  padded 4 year ++ "-" ++ padded 2 month ++ "-" ++ padded 2 day ++ "T" ++
    padded 2 (seconds / 3600) ++ ":" ++ padded 2 (seconds / 60 % 60) ++ ":" ++
    padded 2 (seconds % 60) ++ (if micros = 0 then "" else "." ++ padded 6 micros)

namespace Datetime

def isoformat (datetime : Datetime) : String :=
  if datetime.aware then JoyMesh.isoformat datetime.time else wallText datetime.time

end Datetime

end JoyMesh
