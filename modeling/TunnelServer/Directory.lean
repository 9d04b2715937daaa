import TunnelServer.Pipe.Fault
import TunnelServer.Tunnel.Record.Json

/-!
# Directories

A directory is a file that holds the records of all tunnels, as a JSON array.  Either all of it is
read or none: one record that is not in order spoils the whole.
-/

namespace TunnelServer

/-- Why a directory could not be read. -/
inductive DirectoryError where
  /-- The file could not be read as text. -/
  | unreadable (path : String) (cause : Pipe.Fault)
  /-- The text holds no records. -/
  | malformed (path : String)
  deriving DecidableEq

namespace DirectoryError

/-- What the text of an error starts with, before its cause. -/
def heading : DirectoryError → String
  | unreadable path _ => "failed to read tunnel directory " ++ path ++ ": "
  | malformed path => "invalid tunnel directory " ++ path ++ ": "

def message (error : DirectoryError) : String :=
  error.heading ++
    match error with
    | unreadable _ cause => cause.message
    | malformed _ => "not an array of tunnel records"

end DirectoryError

namespace Directory

/-- The records that a text holds. -/
def parse? (text : String) : Option (List TunnelRecord) :=
  match Json.Value.parse? text with
  | some (.array items) => items.mapM TunnelRecord.ofJson?
  | _ => none

/-- The fault of a file that is no UTF-8 text. -/
def notText : Pipe.Fault := .device .invalidData "stream did not contain valid UTF-8"

/-- The records in a file, given what reading its octets gave. -/
def load (path : String) (content : Except Pipe.Fault Bytes) :
    Except DirectoryError (List TunnelRecord) :=
  match content with
  | .error fault => .error (.unreadable path fault)
  | .ok octets =>
    match String.fromUTF8? (ByteArray.mk octets.toArray) with
    | none => .error (.unreadable path notText)
    | some text =>
      match parse? text with
      | none => .error (.malformed path)
      | some records => .ok records

/-- The text of a directory with some records. -/
def toText (records : List TunnelRecord) : String :=
  (Json.Value.array (records.map TunnelRecord.toJson)).toText

end Directory

end TunnelServer
