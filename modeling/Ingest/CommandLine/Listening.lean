/-!
Addresses that the health endpoint is asked to listen on: a host, a colon and the number of a
socket. A host is four octets or a name; only the names and numbers of the machine itself can be
listened on.
-/

namespace Ingest.CommandLine

/-- The part before the last colon and the part after it. -/
def splitLastColon (s : String) : Option (String × String) :=
  let back := s.toList.reverse
  match back.dropWhile (· != ':') with
  | [] => none
  | _ :: host => some (String.ofList host.reverse, String.ofList (back.takeWhile (· != ':')).reverse)

/-- The number that a run of digits writes, below a bound. -/
def numberBelow? (bound : Nat) (cs : List Char) : Option Nat :=
  if cs.isEmpty || !cs.all Char.isDigit then none
  else
    let n := cs.foldl (fun n c => 10 * n + (c.toNat - '0'.toNat)) 0
    if n < bound then some n else none

/-- The number of a socket; a plus sign may stand in front. -/
def socket? (s : String) : Option Nat :=
  match s.toList with
  | '+' :: rest => numberBelow? 65536 rest
  | cs => numberBelow? 65536 cs

/-- The octets of an address with three dots. -/
def octets? (s : String) : Option (List Nat) :=
  let parts := s.toList.foldr (fun c parts =>
    if c = '.' then [] :: parts
    else
      match parts with
      | [] => [[c]]
      | part :: parts => (c :: part) :: parts) [[]]
  if parts.length = 4 && parts.all fun p => p.length = 1 || p.head? != some '0' then
    parts.mapM (numberBelow? 256)
  else none

/-- Why an address cannot be listened on. -/
inductive ListenError where
  | noAddress
  | noSocket
  | unknownHost
  | foreignHost
  deriving DecidableEq, Repr

def ListenError.message : ListenError → String
  | noAddress => "invalid socket address"
  | noSocket => "invalid port value"
  | unknownHost => "failed to lookup address information: Temporary failure in name resolution"
  | foreignHost => "Cannot assign requested address (os error 99)"

/-- Tries to listen on an address. -/
def listen (address : String) : Except ListenError Unit :=
  match splitLastColon address with
  | none => .error .noAddress
  | some (host, socket) =>
    match socket? socket with
    | none => .error .noSocket
    | some _ =>
      match octets? host with
      | some octets =>
        if octets.head? = some 127 || octets = [0, 0, 0, 0] then .ok () else .error .foreignHost
      | none =>
        if host = "localhost" || host = "[::]" || host = "[::1]" then .ok ()
        else .error .unknownHost

end Ingest.CommandLine
