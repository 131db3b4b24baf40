import QueryGateway.Catalog

/-!
# Opening a catalog

Where a catalog can be kept, and what stands in the way of opening it there. Storage
that lasts holds a record of the schema version that was applied to it; a catalog is
opened again only if the record is the one of the known version.
-/

namespace QueryGateway

/-- Where a catalog is kept. -/
inductive Place
  /-- In memory, out of reach for anyone else. -/
  | memory
  /-- In memory, in a database that others have too. -/
  | shared
  /-- In a file that is not there yet. -/
  | file
  /-- Below something that is no directory. -/
  | belowFile
  /-- In a directory instead of a file. -/
  | directory
  /-- In a file with something else in it. -/
  | otherFile
  deriving DecidableEq, Repr

/-- Opens a catalog for the first time. -/
def Catalog.create : Place → Except CatalogError Catalog
  | .memory | .shared | .file => .ok {}
  | .belowFile => .error (.io "Not a directory (os error 20)")
  | .directory => .error (.readFailed .cannotOpen)
  | .otherFile => .error (.readFailed .notADatabase)

/-! ## The record of the schema -/

/-- The version of the schema. -/
def schemaVersion : Nat := 20250101000000

/-- What the storage records of its schema: the version, whether its content is the
known one, and whether it was applied to the end. -/
structure SchemaRecord where
  version : Nat := schemaVersion
  intact : Bool := true
  complete : Bool := true
  deriving DecidableEq, Repr

/-- What is wrong with a record. -/
def SchemaRecord.fault? (r : SchemaRecord) : Option MigrationFault :=
  if !r.complete then some (.dirty r.version)
  else if r.version != schemaVersion then some (.missing r.version)
  else if !r.intact then some (.modified r.version)
  else none

/-- Opens storage again. -/
def SchemaRecord.check (r : SchemaRecord) : Except CatalogError Unit :=
  match r.fault? with
  | some f => .error (.migration f)
  | none => .ok ()

end QueryGateway
