import Ingest.Settings
import Ingest.Tenant

/-!
Which database holds a tenant's data: the one that the settings map the tenant id to or, for any
other id, the name made by putting the id into each hole of a pattern. A pattern is read once, from
left to right, into single characters and holes, so that filling it is a function of the pieces.
-/

namespace Ingest

/-- The text of a hole in a pattern. -/
def tenantHole : String := "\x7bTENANT_ID\x7d"

/-- The pattern in use when the settings have none. -/
def defaultTenantPattern : String := "apo_tenant_" ++ tenantHole

/-- A pattern is made of characters and of holes for the tenant id. -/
inductive Piece where
  | char (c : Char)
  | hole
  deriving DecidableEq, Repr

namespace Pattern

/-- Reads a pattern; of a hole just met, `skip` characters are still to pass over. -/
def pieces (hole : List Char) (skip : Nat) : List Char → List Piece
  | [] => []
  | c :: rest =>
    if skip > 0 then pieces hole (skip - 1) rest
    else if hole.isPrefixOf (c :: rest) then .hole :: pieces hole (hole.length - 1) rest
    else .char c :: pieces hole 0 rest

/-- The pieces of a pattern; holes are taken from the left and do not overlap. -/
def parse (pattern : String) : List Piece := pieces tenantHole.toList 0 pattern.toList

/-- The characters a piece stands for, once the tenant id is known. -/
def fillPiece (id : List Char) : Piece → List Char
  | .char c => [c]
  | .hole => id

/-- A pattern with a tenant id in each of its holes. -/
def fill (pattern : String) (id : String) : String :=
  String.ofList ((parse pattern).flatMap (fillPiece id.toList))

/-- Whether a pattern has a hole at all. -/
def hasHole (pattern : String) : Bool := decide (Piece.hole ∈ parse pattern)

end Pattern

namespace ClickHouseSettings

/-- The pattern for tenants that have no database of their own in the map. -/
def tenantPattern (c : ClickHouseSettings) : String :=
  if c.tenantDbPattern.isEmpty then defaultTenantPattern else c.tenantDbPattern

/-- The database of a tenant id: the map wins over the pattern. -/
def tenantDatabase (c : ClickHouseSettings) (tenantId : String) : String :=
  (c.tenantDbMap.get? tenantId).getD (Pattern.fill c.tenantPattern tenantId)

end ClickHouseSettings

end Ingest
