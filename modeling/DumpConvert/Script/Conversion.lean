import DumpConvert.Calendar
import DumpConvert.Script.Block
import DumpConvert.Statement

/-!
# Conversion of a dump

A conversion splits the dump, registers its tables if the mode asks for it, and writes
the heading, one block for each statement in order, and a closing block unless a
statement closed the dump.  It never fails, because what cannot be read passes through.
-/

namespace DumpConvert

inductive Mode where
  /-- The declared types of the columns, and the shape of a token where these are silent. -/
  | schema
  /-- The shape of the tokens only. -/
  | heuristic
deriving Repr, DecidableEq

structure Conversion where
  script : Text
  summary : Summary
  events : List Event

namespace Conversion

def headingLines (generated : Moment) : List Text :=
  [ "-- PostgreSQL 16 Database Dump".toList,
    "-- Converted from SQLite".toList,
    "-- Generated on: ".toList ++ generated.text,
    [],
    "-- Disable foreign key checks during import".toList,
    "SET session_replication_role = replica;".toList,
    [],
    "BEGIN;".toList,
    [] ]

/-! ## Registering tables -/

def registryFor (mode : Mode) (statements : List Statement) : Option Registry :=
  match mode with
  | .schema => some (Registry.build statements)
  | .heuristic => none

def registerEvents (statement : Statement) : List Event :=
  if statement.kind = .createTable then
    match CreateTable.parse? statement.text with
    | some table => [.tableRegistered table.tableName table.schema.columns.length]
    | none => [.tableUnreadable (Text.firstLine statement.text)]
  else []

def registryEvents (statements : List Statement) : Option Registry → List Event
  | none => []
  | some registry =>
      [.registryStarted] ++ statements.flatMap registerEvents
        ++ (if registry.isEmpty then [.registryEmpty] else [])

def splitEvents (statement : Statement) : List Event :=
  match statement.ending with
  | .cutOff line => [.statementCutOff line]
  | _ => []

/-! ## The script -/

def blocks (profile : Profile) (registry : Option Registry) (statements : List Statement) :
    List Block :=
  statements.map (Block.ofStatement profile registry)

def isCommitted (parts : List Block) : Bool :=
  parts.any (fun part => part.commits)

def scriptLines (profile : Profile) (generated : Moment) (parts : List Block) : List Text :=
  headingLines generated ++ parts.flatMap (fun part => part.lines)
    ++ (if isCommitted parts then [] else Block.closingLines profile)

/-- The lines as a text; every line is closed by a line feed. -/
def scriptText (lines : List Text) : Text :=
  Text.joinWith ['\n'] lines ++ ['\n']

def summaryOf (registry : Option Registry) (parts : List Block) : Summary :=
  { tablesRegistered := (registry.map Registry.size).getD 0 }
    + Summary.sum (parts.map (fun part => part.counts))

def ofStatements
    (profile : Profile) (mode : Mode) (generated : Moment) (statements : List Statement) :
    Conversion :=
  let registry := registryFor mode statements
  let parts := blocks profile registry statements
  { script := scriptText (scriptLines profile generated parts)
    summary := summaryOf registry parts
    events :=
      statements.flatMap splitEvents
        ++ [.dumpSplit statements.length (Statement.totalLines statements)]
        ++ registryEvents statements registry
        ++ [.conversionStarted]
        ++ parts.flatMap (fun part => part.events)
        ++ (if isCommitted parts then [] else [.commitMissing]) }

end Conversion

def convertDump (profile : Profile) (mode : Mode) (generated : Moment) (dump : Text) :
    Conversion :=
  Conversion.ofStatements profile mode generated
    (splitStatements profile.commitStatements dump)

end DumpConvert
