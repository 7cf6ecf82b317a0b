import DeadCode.Disk
import DeadCode.Encoding.Utf8
import DeadCode.Json.Reader
import DeadCode.Text.Blank

/-!
# Data files

Text and data read from a disk. A text file is UTF-8 and its line ends all read as line feeds.
-/

namespace DeadCode
set_option autoImplicit false

/-- Why a data file cannot be read. -/
inductive DataError where
  | unreadable (e : DiskError) (path : String)
  | undecodable (bytes : List UInt8) (f : Fault)
  | malformed (e : Json.ReadError)

namespace DataError

/-- The wording of a fault in UTF-8 bytes. -/
def faultMessage (bytes : List UInt8) (f : Fault) : String :=
  let place :=
    if f.length ≤ 1 then
      let byte := (bytes[f.start]?).getD 0
      "byte 0x" ++ String.ofList (Text.hexPadded 2 byte.toNat) ++ " in position " ++ toString f.start
    else "bytes in position " ++ toString f.start ++ "-" ++ toString (f.start + f.length - 1)
  "'utf-8' codec can't decode " ++ place ++ ": " ++ f.flaw.reason

/-- The wording of the error. -/
def message : DataError → String
  | unreadable e path => e.message path
  | undecodable bytes f => faultMessage bytes f
  | malformed e => e.message

/-- Is the data nested too deeply? -/
def isNesting : DataError → Bool
  | malformed e => e.fault == .nesting
  | _ => false

end DataError

namespace Disk

/-- The text of a file. -/
def readText (d : Disk) (p : Path) : Except DataError String :=
  match d.read p with
  | .error e => .error (.unreadable e p.text)
  | .ok bytes =>
    match Utf8.decode bytes with
    | .error f => .error (.undecodable bytes f)
    | .ok s => .ok (String.ofList (Text.unixLines s.toList))

/-- The text of a file with a replacement character for what is no text; nothing if the file cannot be read. -/
def readTextAnyway (d : Disk) (p : Path) : Option String :=
  match d.read p with
  | .error _ => none
  | .ok bytes => some (String.ofList (Text.unixLines (Utf8.decodeReplacing bytes).toList))

/-- The data in a file. -/
def readJson (d : Disk) (p : Path) (l : Json.Limits := {}) : Except DataError Json := do
  match Json.read (← d.readText p) l with
  | .ok j => .ok j
  | .error e => .error (.malformed e)

end Disk
end DeadCode
