import Pimsync.Scfg

/-!
# Plans

The operations that the `vstorage` crate plans for a pair, as far as this program reads them.
-/

namespace Pimsync

/-- A storage of a pair. -/
inductive Side
  | a
  | b
  deriving DecidableEq

def Side.other : Side → Side
  | .a => .b
  | .b => .a

/-- `Item`: what `as_str` reads of it, and what `From<String>` makes it from. -/
structure Item where
  text : String
  deriving DecidableEq

structure ItemVersion where
  href : String
  etag : String
  deriving DecidableEq

structure ItemState where
  uid : String
  version : ItemVersion
  deriving DecidableEq

/-- An item in conflict, as it is on one side. -/
structure ConflictSide where
  state : ItemState
  data : Item
  deriving DecidableEq

structure ConflictInfo where
  a : ConflictSide
  b : ConflictSide
  deriving DecidableEq

def ConflictInfo.on (info : ConflictInfo) : Side → ConflictSide
  | .a => info.a
  | .b => info.b

/-- `ItemOp`: its `uid()`, how it is displayed, and the conflict that it is, if it is one. -/
structure ItemOp where
  uid : Option String
  display : String
  conflict : Option ConflictInfo
  deriving DecidableEq

/-- `ResolvedMapping`: its `alias()`, and the `href()` of the collection on either side. -/
structure ResolvedMapping where
  name : String
  hrefA : String
  hrefB : String
  deriving DecidableEq

def ResolvedMapping.href (mapping : ResolvedMapping) : Side → String
  | .a => mapping.hrefA
  | .b => mapping.hrefB

/-- `Property`: its `name()`, and how it is displayed. -/
structure Property where
  name : String
  display : String
  deriving DecidableEq

/-- A property that is not displayed by its name. -/
def Property.colour : Property := ⟨"color", "colour"⟩

/-- `PropertyOp`: how it is displayed, and the two values, if they are in conflict. -/
structure PropertyOp where
  property : Property
  mapping : ResolvedMapping
  display : String
  conflict : Option (String × String)
  deriving DecidableEq

inductive Operation
  | flushStaleMappings (staleUids : List String)
  | collection (display : String)
  | item (op : ItemOp)
  | property (op : PropertyOp)
  deriving DecidableEq

/-- `Operation::is_conflict`. -/
def Operation.isConflict : Operation → Bool
  | .item op => op.conflict.isSome
  | .property op => op.conflict.isSome
  | _ => false

/-- An item of a plan: an operation, or a `PlanError`. -/
abbrev PlanItem := Except Error Operation

end Pimsync
