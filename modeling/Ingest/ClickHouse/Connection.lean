import Ingest.ClickHouse.Server
import Ingest.Text.Hex

/-!
Connecting to a ClickHouse server: the address with the credentials, what a client logs in with, and
the ways in which connecting fails.
-/

namespace Ingest.ClickHouse

/-- The database every connection opens in; queries name their own. -/
def homeDatabase : String := "default"

/-- The address of a server with the credentials; a password counts only beside a user name. -/
def address (c : ClickHouseSettings) : String :=
  let credentials :=
    if c.username.isEmpty then ""
    else if c.password.isEmpty then c.username ++ "@"
    else c.username ++ ":" ++ c.password ++ "@"
  "tcp://" ++ credentials ++ c.endpoint ++ "/" ++ homeDatabase
    ++ "?compression=lz4&pool_min=2&pool_max=10"

/-- What a client tells a server when it logs in. -/
structure Login where
  database : String
  username : String
  password : String
  deriving DecidableEq, Repr

/-- The bytes of a text in which a percent sign and two hexadecimal digits stand for one byte. -/
def percentBytes : List Char → List UInt8
  | '%' :: a :: b :: rest =>
    match Text.hexDigit? a, Text.hexDigit? b with
    | some x, some y => (16 * x + y).toUInt8 :: percentBytes rest
    | _, _ => '%'.toNat.toUInt8 :: percentBytes (a :: b :: rest)
  | c :: rest => (String.singleton c).toUTF8.toList ++ percentBytes rest
  | [] => []
termination_by cs => cs.length

/-- A text without its percent signs; one that then is no text stays as it is. -/
def percentDecode (s : String) : String :=
  (String.fromUTF8? ⟨(percentBytes s.toList).toArray⟩).getD s

/-- The login of the address, with the default user where none is named. -/
def login (c : ClickHouseSettings) : Login :=
  if c.username.isEmpty then ⟨homeDatabase, "default", ""⟩
  else ⟨homeDatabase, percentDecode c.username, percentDecode c.password⟩

/-- Whether a server can be reached from here. -/
inductive Network where
  | unreachable
  | reachable
  deriving DecidableEq, Repr

inductive ConnectError where
  | unreachable (endpoint : String)
  | refused (endpoint : String) (fault : ServerFault)
  | ping (fault : ServerFault)
  deriving DecidableEq, Repr

/-- The error and what it rests on, outermost first. -/
def ConnectError.causes : ConnectError → List String
  | unreachable endpoint =>
    let reason := "Network is unreachable (os error 101)"
    let io := "Input/output error: \x60" ++ reason ++ "\x60"
    ["connecting to " ++ endpoint, "Connections error: \x60" ++ io ++ "\x60", io, reason]
  | refused endpoint fault => ("connecting to " ++ endpoint) :: fault.causes
  | ping fault => "pinging ClickHouse" :: fault.causes

/-- Connects to a scripted server; its greeting and its answer to a ping may be faults, too. -/
def connect (network : Network) (c : ClickHouseSettings) (script : Script) :
    Except ConnectError Login :=
  match network with
  | .unreachable => .error (.unreachable c.endpoint)
  | .reachable =>
    match script.fault? "HELLO" with
    | some fault => .error (.refused c.endpoint fault)
    | none =>
      match script.fault? "PING" with
      | some fault => .error (.ping fault)
      | none => .ok (login c)

end Ingest.ClickHouse
