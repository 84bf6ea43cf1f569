import DumpConvert.Dictionary
import DumpConvert.Text.LetterCase

/-!
# Profiles

A profile holds every table that the conversion consults: the target type of a type
keyword, the keywords of each class of types, the columns and positions that hold
timestamps or booleans, and the statements that are dropped or that close the dump.

A normalized profile has its type keywords in upper case and its boolean patterns in
lower case, so that a lookup compares texts directly.

The built-in profile holds when no profile file is given, and its fields stand in for the
ones a profile file leaves out.
-/

namespace DumpConvert

inductive TypeClass where
  | timestamp
  | boolean
  | text
  | numeric
  | json
deriving Repr, DecidableEq

/-- Positions of a table whose values are timestamps although nothing else shows it. -/
structure EpochRepair where
  table : Text
  positions : List Nat
deriving Repr, DecidableEq

structure Profile where
  /-- The target type by type keyword. -/
  typeMap : Dictionary Text
  timestampTypes : List Text
  booleanTypes : List Text
  textTypes : List Text
  numericTypes : List Text
  jsonTypes : List Text
  /-- Endings of column names that mark a timestamp, whatever the type. -/
  timestampSuffixes : List Text
  /-- The number of digits of a timestamp in a column without a known type. -/
  heuristicEpochDigits : Nat
  /-- The least number of digits of a timestamp in a timestamp column. -/
  minEpochDigits : Nat
  /-- The positions of a table that hold booleans. -/
  booleanPositions : Dictionary (List Nat)
  /-- Parts of a statement in lower case that tell that it holds booleans. -/
  booleanPatterns : List Text
  epochRepairs : List EpochRepair
  /-- Beginnings of the lines that are dropped. -/
  directivePrefixes : List Text
  /-- The lines that close the dump. -/
  commitStatements : List Text
  /-- The lines written before the script is closed. -/
  indexes : List Text

namespace Profile

def normalized (profile : Profile) : Profile :=
  { profile with
    typeMap := profile.typeMap.mapKeys Text.asciiUpper
    timestampTypes := profile.timestampTypes.map Text.asciiUpper
    booleanTypes := profile.booleanTypes.map Text.asciiUpper
    textTypes := profile.textTypes.map Text.asciiUpper
    numericTypes := profile.numericTypes.map Text.asciiUpper
    jsonTypes := profile.jsonTypes.map Text.asciiUpper
    booleanPatterns := profile.booleanPatterns.map Text.lower }

/-! ## Types -/

/-- The target type of a type keyword; a keyword without one is kept. -/
def mapType (profile : Profile) (keyword : Text) : Text :=
  (profile.typeMap.get? (Text.asciiUpper keyword)).getD keyword

def typesOf (profile : Profile) : TypeClass → List Text
  | .timestamp => profile.timestampTypes
  | .boolean => profile.booleanTypes
  | .text => profile.textTypes
  | .numeric => profile.numericTypes
  | .json => profile.jsonTypes

def classOrder : List TypeClass :=
  [.timestamp, .boolean, .text, .numeric, .json]

def typeClass? (profile : Profile) (keyword : Text) : Option TypeClass :=
  classOrder.find? (fun kind => (profile.typesOf kind).contains (Text.asciiUpper keyword))

/-! ## Columns and positions -/

def hasTimestampSuffix (profile : Profile) (column : Text) : Bool :=
  profile.timestampSuffixes.any (fun ending => ending.isSuffixOf column)

def isBooleanPosition (profile : Profile) (table : Text) (position : Nat) : Bool :=
  match profile.booleanPositions.get? table with
  | some positions => positions.contains position
  | none => false

def isRepairPosition (profile : Profile) (table : Text) (position : Nat) : Bool :=
  profile.epochRepairs.any
    (fun repair => repair.table == table && repair.positions.contains position)

/-! ## Statements -/

/-- The statement, given in lower case, holds one of the boolean patterns. -/
def mentionsBoolean (profile : Profile) (lowered : Text) : Bool :=
  profile.booleanPatterns.any (fun pattern => Text.occursIn pattern lowered)

def isDirective (profile : Profile) (line : Text) : Bool :=
  profile.directivePrefixes.any (fun start => Text.startsIgnoringCase start line)

def isCommit (profile : Profile) (line : Text) : Bool :=
  profile.commitStatements.any (fun statement => Text.sameIgnoringCase line statement)

/-! ## The built-in profile -/

def texts (items : List String) : List Text :=
  items.map String.toList

def builtInIndexes : List Text :=
  texts [
    "-- Indexes for better performance",
    "CREATE INDEX IF NOT EXISTS idx_category_parent_id ON \"Category\"(parent_id);",
    "CREATE INDEX IF NOT EXISTS idx_category_slug ON \"Category\"(slug);",
    "CREATE INDEX IF NOT EXISTS idx_product_sku ON \"Product\"(sku);",
    "CREATE INDEX IF NOT EXISTS idx_product_slug ON \"Product\"(slug);",
    "CREATE INDEX IF NOT EXISTS idx_product_category_id ON \"Product\"(category_id);",
    "CREATE INDEX IF NOT EXISTS idx_product_brand_id ON \"Product\"(brand_id);",
    "CREATE INDEX IF NOT EXISTS idx_product_is_active ON \"Product\"(is_active);",
    "CREATE INDEX IF NOT EXISTS idx_productimage_product_id ON \"ProductImage\"(product_id);",
    "CREATE INDEX IF NOT EXISTS idx_order_client_user_id ON \"Order\"(client_user_id);",
    "CREATE INDEX IF NOT EXISTS idx_order_seller_user_id ON \"Order\"(seller_user_id);",
    "CREATE INDEX IF NOT EXISTS idx_order_status ON \"Order\"(status);",
    "CREATE INDEX IF NOT EXISTS idx_order_type ON \"Order\"(type);",
    "CREATE INDEX IF NOT EXISTS idx_order_created_at ON \"Order\"(created_at);",
    "CREATE INDEX IF NOT EXISTS idx_orderitem_order_id ON \"OrderItem\"(order_id);",
    "CREATE INDEX IF NOT EXISTS idx_orderitem_product_id ON \"OrderItem\"(product_id);",
    "CREATE INDEX IF NOT EXISTS idx_user_email ON \"User\"(email);",
    "CREATE INDEX IF NOT EXISTS idx_user_role ON \"User\"(role);",
    "CREATE INDEX IF NOT EXISTS idx_user_is_active ON \"User\"(is_active);",
    "CREATE INDEX IF NOT EXISTS idx_user_assigned_seller_id ON \"User\"(assigned_seller_id);",
    "CREATE INDEX IF NOT EXISTS idx_brand_slug ON \"Brand\"(slug);",
    "CREATE INDEX IF NOT EXISTS idx_analytics_event_name ON \"AnalyticsEvent\"(event_name);",
    "CREATE INDEX IF NOT EXISTS idx_analytics_user_id ON \"AnalyticsEvent\"(user_id);",
    "CREATE INDEX IF NOT EXISTS idx_analytics_product_id ON \"AnalyticsEvent\"(product_id);",
    "CREATE INDEX IF NOT EXISTS idx_analytics_created_at ON \"AnalyticsEvent\"(created_at);"]

def builtInTypeMap : Dictionary Text :=
  .ofList [
    ("TEXT".toList, "VARCHAR".toList),
    ("INTEGER".toList, "INTEGER".toList),
    ("DECIMAL".toList, "DECIMAL".toList),
    ("REAL".toList, "DOUBLE PRECISION".toList),
    ("BLOB".toList, "BYTEA".toList),
    ("BOOLEAN".toList, "BOOLEAN".toList),
    ("DATETIME".toList, "TIMESTAMP WITH TIME ZONE".toList),
    ("JSONB".toList, "JSONB".toList)]

def builtInBooleanPositions : Dictionary (List Nat) :=
  .ofList [
    ("User".toList, [11, 12]),
    ("Product".toList, [12, 13]),
    ("Brand".toList, [4]),
    ("SearchLanding".toList, [5])]

def builtIn : Profile :=
  { typeMap := builtInTypeMap
    timestampTypes := texts ["DATETIME", "TIMESTAMP", "TIMESTAMPTZ"]
    booleanTypes := texts ["BOOLEAN", "BOOL"]
    textTypes := texts ["TEXT", "VARCHAR", "CHAR"]
    numericTypes := texts ["INTEGER", "INT", "BIGINT", "DECIMAL", "NUMERIC", "REAL"]
    jsonTypes := texts ["JSONB", "JSON"]
    timestampSuffixes := texts ["_at"]
    heuristicEpochDigits := 13
    minEpochDigits := 10
    booleanPositions := builtInBooleanPositions
    booleanPatterns := texts ["is_active", "is_deleted", "is_published", "deleted"]
    epochRepairs := [⟨"Order".toList, [8, 9, 10]⟩]
    directivePrefixes := texts ["PRAGMA", "BEGIN TRANSACTION"]
    commitStatements := texts ["COMMIT;", "END TRANSACTION;"]
    indexes := builtInIndexes }

end Profile

end DumpConvert
