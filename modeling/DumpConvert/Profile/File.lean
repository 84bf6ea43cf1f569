import DumpConvert.Json.Reader
import DumpConvert.Profile.Basic

/-!
# Profile files

A profile file is a JSON text with one record.  Every field may be missing and then has
its built-in value; a field that is given replaces the built-in value as a whole.  The
profile that was read is normalized.
-/

namespace DumpConvert

namespace EpochRepair

structure Parts where
  table : Option Text
  positions : Option (List Nat)

def Parts.complete? (parts : Parts) : Option EpochRepair :=
  match parts.table, parts.positions with
  | some table, some positions => some ⟨table, positions⟩
  | _, _ => none

def shape : Json.Shape Parts EpochRepair :=
  { start := ⟨none, none⟩
    fields := [
      .of "table".toList Json.text
        (fun parts value => { parts with table := some value }),
      .of "positions".toList (Json.listOf Json.natural)
        (fun parts value => { parts with positions := some value })]
    finish := Parts.complete? }

end EpochRepair

namespace Profile

def textList : Json.Reader (List Text) :=
  Json.listOf Json.text

/-- The fields of a profile file, in their order. -/
def fields : List (Json.Field Profile) :=
  [ .of "type_map".toList (Json.dictionaryOf Json.text)
      (fun profile value => { profile with typeMap := value }),
    .of "timestamp_types".toList textList
      (fun profile value => { profile with timestampTypes := value }),
    .of "boolean_types".toList textList
      (fun profile value => { profile with booleanTypes := value }),
    .of "text_types".toList textList
      (fun profile value => { profile with textTypes := value }),
    .of "numeric_types".toList textList
      (fun profile value => { profile with numericTypes := value }),
    .of "json_types".toList textList
      (fun profile value => { profile with jsonTypes := value }),
    .of "timestamp_suffixes".toList textList
      (fun profile value => { profile with timestampSuffixes := value }),
    .of "heuristic_epoch_digits".toList Json.natural
      (fun profile value => { profile with heuristicEpochDigits := value }),
    .of "min_epoch_digits".toList Json.natural
      (fun profile value => { profile with minEpochDigits := value }),
    .of "boolean_positions".toList (Json.dictionaryOf (Json.listOf Json.natural))
      (fun profile value => { profile with booleanPositions := value }),
    .of "boolean_patterns".toList textList
      (fun profile value => { profile with booleanPatterns := value }),
    .of "epoch_repairs".toList (Json.listOf (Json.record EpochRepair.shape))
      (fun profile value => { profile with epochRepairs := value }),
    .of "directive_prefixes".toList textList
      (fun profile value => { profile with directivePrefixes := value }),
    .of "commit_statements".toList textList
      (fun profile value => { profile with commitStatements := value }),
    .of "indexes".toList textList
      (fun profile value => { profile with indexes := value }) ]

def shape : Json.Shape Profile Profile :=
  { start := builtIn
    fields := fields
    finish := some }

def load (file : Text) : Except Json.Fault Profile :=
  (Json.readAll (Json.record shape) file).map normalized

end Profile

end DumpConvert
