import DumpConvert.Profile.File
import DumpConvert.Proofs.Json.Record

/-!
# Profile files override the built-in profile

A profile file holds a choice of the fifteen fields.  `Profile.format` says how such a file
is written, and `Profile.override` which profile the choice stands for: a given field
replaces the built-in one as a whole, and every other field keeps its built-in value.

Loading a file gives the profile that its choice stands for (`Profile.load_eq_override`).
So neither the order of the fields, nor their spelling, nor what stands in unknown fields
makes a difference, nor whether the fields are written as an object or, if they are the
first ones, as an array.
-/

namespace DumpConvert

namespace EpochRepair

/-! ## Repairs -/

inductive PartName where
  | table
  | positions
deriving DecidableEq

def PartName.order : List PartName :=
  [.table, .positions]

theorem PartName.mem_order (name : PartName) : name ∈ order := by
  cases name <;> decide

def PartName.key : PartName → Text
  | .table => "table".toList
  | .positions => "positions".toList

def PartName.Value : PartName → Type
  | .table => Text
  | .positions => List Nat

def PartName.spells : (name : PartName) → name.Value → Text → Prop
  | .table => Json.SpellsString
  | .positions => Json.SpellsArray Json.SpellsNatural

def format : Json.RecordFormat :=
  { Name := PartName
    order := PartName.order
    key := PartName.key
    Value := PartName.Value
    spells := PartName.spells }

def contents (repair : EpochRepair) : format.Contents
  | .table => some repair.table
  | .positions => some repair.positions

def Spells (repair : EpochRepair) (t : Text) : Prop :=
  format.Spells repair.contents t

def partReader : (name : PartName) → Json.Reader name.Value
  | .table => Json.text
  | .positions => Json.listOf Json.natural

def Parts.getPart (parts : Parts) : (name : PartName) → Option name.Value
  | .table => parts.table
  | .positions => parts.positions

def putPart : (name : PartName) → Parts → name.Value → Parts
  | .table, parts, value => { parts with table := some value }
  | .positions, parts, value => { parts with positions := some value }

def readers : Json.FieldReaders format Parts where
  read := partReader
  put := putPart
  reads := by
    intro name value t h
    cases name with
    | table => exact Json.reads_text h
    | positions => exact Json.reads_listOf Json.reads_natural h
  complete := PartName.mem_order
  distinct := by decide

theorem getPart_putPart_self (name : PartName) (parts : Parts) (value : name.Value) :
    (putPart name parts value).getPart name = some value := by
  cases name <;> rfl

theorem getPart_putPart_of_ne {name other : PartName} (h : other ≠ name) (parts : Parts)
    (value : other.Value) : (putPart other parts value).getPart name = parts.getPart name := by
  cases other <;> cases name <;> first | rfl | exact absurd rfl h

theorem reads_repair {repair : EpochRepair} {t : Text} (h : repair.Spells t) :
    Json.Reads (Json.record shape) repair t := by
  refine readers.reads_record rfl (fun settings hchoice => ?_) h
  have hparts : ∀ name,
      (readers.fill shape.start settings).getPart name = repair.contents name := by
    intro name
    have hfill := readers.get_fill (fun parts => parts.getPart name)
      (fun parts _ value hne => getPart_putPart_of_ne hne parts value) some
      (getPart_putPart_self name) hchoice shape.start
    exact hfill.trans (by cases name <;> rfl)
  have htable : (readers.fill shape.start settings).table = some repair.table := hparts .table
  have hpositions : (readers.fill shape.start settings).positions = some repair.positions :=
    hparts .positions
  show Parts.complete? _ = _
  rw [Parts.complete?, htable, hpositions]

end EpochRepair

namespace Profile

/-! ## The fields of a profile file -/

inductive FieldName where
  | typeMap
  | timestampTypes
  | booleanTypes
  | textTypes
  | numericTypes
  | jsonTypes
  | timestampSuffixes
  | heuristicEpochDigits
  | minEpochDigits
  | booleanPositions
  | booleanPatterns
  | epochRepairs
  | directivePrefixes
  | commitStatements
  | indexes
deriving DecidableEq

inductive Kind where
  | texts
  | natural
  | textByText
  | naturalsByText
  | repairs

def Kind.Value : Kind → Type
  | .texts => List Text
  | .natural => Nat
  | .textByText => Dictionary Text
  | .naturalsByText => Dictionary (List Nat)
  | .repairs => List EpochRepair

def Kind.spells : (kind : Kind) → kind.Value → Text → Prop
  | .texts => Json.SpellsArray Json.SpellsString
  | .natural => Json.SpellsNatural
  | .textByText => Json.SpellsDictionary Json.SpellsString
  | .naturalsByText => Json.SpellsDictionary (Json.SpellsArray Json.SpellsNatural)
  | .repairs => Json.SpellsArray EpochRepair.Spells

namespace FieldName

def kind : FieldName → Kind
  | .typeMap => .textByText
  | .timestampTypes => .texts
  | .booleanTypes => .texts
  | .textTypes => .texts
  | .numericTypes => .texts
  | .jsonTypes => .texts
  | .timestampSuffixes => .texts
  | .heuristicEpochDigits => .natural
  | .minEpochDigits => .natural
  | .booleanPositions => .naturalsByText
  | .booleanPatterns => .texts
  | .epochRepairs => .repairs
  | .directivePrefixes => .texts
  | .commitStatements => .texts
  | .indexes => .texts

def key : FieldName → Text
  | .typeMap => "type_map".toList
  | .timestampTypes => "timestamp_types".toList
  | .booleanTypes => "boolean_types".toList
  | .textTypes => "text_types".toList
  | .numericTypes => "numeric_types".toList
  | .jsonTypes => "json_types".toList
  | .timestampSuffixes => "timestamp_suffixes".toList
  | .heuristicEpochDigits => "heuristic_epoch_digits".toList
  | .minEpochDigits => "min_epoch_digits".toList
  | .booleanPositions => "boolean_positions".toList
  | .booleanPatterns => "boolean_patterns".toList
  | .epochRepairs => "epoch_repairs".toList
  | .directivePrefixes => "directive_prefixes".toList
  | .commitStatements => "commit_statements".toList
  | .indexes => "indexes".toList

def order : List FieldName :=
  [.typeMap, .timestampTypes, .booleanTypes, .textTypes, .numericTypes, .jsonTypes,
    .timestampSuffixes, .heuristicEpochDigits, .minEpochDigits, .booleanPositions,
    .booleanPatterns, .epochRepairs, .directivePrefixes, .commitStatements, .indexes]

theorem mem_order (name : FieldName) : name ∈ order := by
  cases name <;> decide

end FieldName

def format : Json.RecordFormat :=
  { Name := FieldName
    order := FieldName.order
    key := FieldName.key
    Value := fun name => name.kind.Value
    spells := fun name => name.kind.spells }

/-- The built-in profile with exactly the given fields replaced, each as a whole. -/
def override (given : format.Contents) : Profile :=
  { typeMap := (given .typeMap).getD builtIn.typeMap
    timestampTypes := (given .timestampTypes).getD builtIn.timestampTypes
    booleanTypes := (given .booleanTypes).getD builtIn.booleanTypes
    textTypes := (given .textTypes).getD builtIn.textTypes
    numericTypes := (given .numericTypes).getD builtIn.numericTypes
    jsonTypes := (given .jsonTypes).getD builtIn.jsonTypes
    timestampSuffixes := (given .timestampSuffixes).getD builtIn.timestampSuffixes
    heuristicEpochDigits := (given .heuristicEpochDigits).getD builtIn.heuristicEpochDigits
    minEpochDigits := (given .minEpochDigits).getD builtIn.minEpochDigits
    booleanPositions := (given .booleanPositions).getD builtIn.booleanPositions
    booleanPatterns := (given .booleanPatterns).getD builtIn.booleanPatterns
    epochRepairs := (given .epochRepairs).getD builtIn.epochRepairs
    directivePrefixes := (given .directivePrefixes).getD builtIn.directivePrefixes
    commitStatements := (given .commitStatements).getD builtIn.commitStatements
    indexes := (given .indexes).getD builtIn.indexes }

/-! ## Fields by name -/

def get (profile : Profile) : (name : FieldName) → name.kind.Value
  | .typeMap => profile.typeMap
  | .timestampTypes => profile.timestampTypes
  | .booleanTypes => profile.booleanTypes
  | .textTypes => profile.textTypes
  | .numericTypes => profile.numericTypes
  | .jsonTypes => profile.jsonTypes
  | .timestampSuffixes => profile.timestampSuffixes
  | .heuristicEpochDigits => profile.heuristicEpochDigits
  | .minEpochDigits => profile.minEpochDigits
  | .booleanPositions => profile.booleanPositions
  | .booleanPatterns => profile.booleanPatterns
  | .epochRepairs => profile.epochRepairs
  | .directivePrefixes => profile.directivePrefixes
  | .commitStatements => profile.commitStatements
  | .indexes => profile.indexes

def put : (name : FieldName) → Profile → name.kind.Value → Profile
  | .typeMap, profile, value => { profile with typeMap := value }
  | .timestampTypes, profile, value => { profile with timestampTypes := value }
  | .booleanTypes, profile, value => { profile with booleanTypes := value }
  | .textTypes, profile, value => { profile with textTypes := value }
  | .numericTypes, profile, value => { profile with numericTypes := value }
  | .jsonTypes, profile, value => { profile with jsonTypes := value }
  | .timestampSuffixes, profile, value => { profile with timestampSuffixes := value }
  | .heuristicEpochDigits, profile, value => { profile with heuristicEpochDigits := value }
  | .minEpochDigits, profile, value => { profile with minEpochDigits := value }
  | .booleanPositions, profile, value => { profile with booleanPositions := value }
  | .booleanPatterns, profile, value => { profile with booleanPatterns := value }
  | .epochRepairs, profile, value => { profile with epochRepairs := value }
  | .directivePrefixes, profile, value => { profile with directivePrefixes := value }
  | .commitStatements, profile, value => { profile with commitStatements := value }
  | .indexes, profile, value => { profile with indexes := value }

theorem get_put_self (name : FieldName) (profile : Profile) (value : name.kind.Value) :
    (put name profile value).get name = value := by
  cases name <;> rfl

theorem get_put_of_ne {name other : FieldName} (h : other ≠ name) (profile : Profile)
    (value : other.kind.Value) : (put other profile value).get name = profile.get name := by
  cases other <;> cases name <;> first | rfl | exact absurd rfl h

theorem ext_get {profile other : Profile} (h : ∀ name, profile.get name = other.get name) :
    profile = other := by
  cases profile
  cases other
  rw [mk.injEq]
  exact ⟨h .typeMap, h .timestampTypes, h .booleanTypes, h .textTypes, h .numericTypes,
    h .jsonTypes, h .timestampSuffixes, h .heuristicEpochDigits, h .minEpochDigits,
    h .booleanPositions, h .booleanPatterns, h .epochRepairs, h .directivePrefixes,
    h .commitStatements, h .indexes⟩

theorem get_override (given : format.Contents) (name : FieldName) :
    (override given).get name = (given name).getD (builtIn.get name) := by
  cases name <;> rfl

/-! ## Reading a profile file -/

def Kind.reader : (kind : Kind) → Json.Reader kind.Value
  | .texts => textList
  | .natural => Json.natural
  | .textByText => Json.dictionaryOf Json.text
  | .naturalsByText => Json.dictionaryOf (Json.listOf Json.natural)
  | .repairs => Json.listOf (Json.record EpochRepair.shape)

theorem Kind.reads {kind : Kind} {value : kind.Value} {t : Text} (h : kind.spells value t) :
    Json.Reads kind.reader value t := by
  cases kind with
  | texts => exact Json.reads_listOf Json.reads_text h
  | natural => exact Json.reads_natural h
  | textByText => exact Json.reads_dictionaryOf Json.reads_text h
  | naturalsByText => exact Json.reads_dictionaryOf (Json.reads_listOf Json.reads_natural) h
  | repairs => exact Json.reads_listOf EpochRepair.reads_repair h

def readers : Json.FieldReaders format Profile where
  read := fun name => name.kind.reader
  put := put
  reads := Kind.reads
  complete := FieldName.mem_order
  distinct := by decide

theorem fields_eq : fields = readers.fields := by
  rfl

theorem fill_eq_override {given : format.Contents} {settings : List format.Setting}
    (h : format.IsChoice given settings) : readers.fill builtIn settings = override given := by
  refine ext_get fun name => ?_
  have hfill := readers.get_fill (fun profile => profile.get name)
    (fun profile _ value hne => get_put_of_ne hne profile value) id (get_put_self name) h builtIn
  rw [get_override]
  refine hfill.trans ?_
  cases given name <;> rfl

theorem reads_override {given : format.Contents} {t : Text} (h : format.Spells given t) :
    Json.Reads (Json.record shape) (override given) t := by
  exact readers.reads_record fields_eq
    (fun _ hchoice => congrArg some (fill_eq_override hchoice)) h

theorem load_of_isDocument {given : format.Contents} {file : Text}
    (h : Json.IsDocument (format.Spells given) file) :
    load file = .ok (override given).normalized := by
  rw [load, Json.readAll_of_isDocument reads_override h]
  rfl

/--
A profile file, written as an object or as an array, overrides the built-in profile.

The object holds the given fields once each and in any order, among unknown fields with any
JSON in them.  The array holds the given fields in the order of their declaration, of which
they are the first ones.
-/
theorem load_eq_override (given : format.Contents) :
    (∀ file, Json.IsDocument (format.SpellsAsObject given) file →
      load file = .ok (override given).normalized) ∧
    ∀ file, Json.IsDocument (format.SpellsAsArray given) file →
      load file = .ok (override given).normalized := by
  constructor
  · rintro file ⟨before, value, after, hbefore, hvalue, hafter, hfile⟩
    exact load_of_isDocument ⟨before, value, after, hbefore, .inl hvalue, hafter, hfile⟩
  · rintro file ⟨before, value, after, hbefore, hvalue, hafter, hfile⟩
    exact load_of_isDocument ⟨before, value, after, hbefore, .inr hvalue, hafter, hfile⟩

/-! ### One choice, written in both forms -/

def dateChoice : format.Contents
  | .typeMap => some (.ofList [("int".toList, "int8".toList)])
  | .timestampTypes => some ["date".toList]
  | _ => none

def dateObject : Text :=
  " \x7b\"x\":[null],\"timestamp_types\":[\"date\"],".toList ++
    "\"type_map\":\x7b\"int\":\"int8\"\x7d\x7d".toList

def dateArray : Text :=
  "[\x7b\"int\":\"int8\"\x7d,[\"date\"]]".toList

theorem isChoice_dateChoice {settings : List format.Setting}
    (hperm : settings.Perm
      [⟨FieldName.typeMap, Dictionary.ofList [("int".toList, "int8".toList)]⟩,
        ⟨FieldName.timestampTypes, ["date".toList]⟩]) : format.IsChoice dateChoice settings := by
  have hnodup : [FieldName.typeMap, FieldName.timestampTypes].Nodup := by decide
  refine ⟨(hperm.map Sigma.fst).nodup_iff.mpr hnodup, fun name value => ?_⟩
  rw [hperm.mem_iff]
  constructor
  · intro h
    cases name <;> cases h
    · exact .head _
    · exact .tail _ (.head _)
  · intro h
    rcases List.mem_cons.mp h with h | h
    · cases h
      rfl
    · cases List.mem_singleton.mp h
      rfl

section Dates

open Json

/-- The given types replace the built-in ones, and do not join them. -/
theorem load_eq_override_dates :
    IsDocument (format.SpellsAsObject dateChoice) dateObject ∧
      IsDocument (format.SpellsAsArray dateChoice) dateArray ∧
      load dateObject = .ok (override dateChoice).normalized ∧
      load dateArray = .ok (override dateChoice).normalized ∧
      (override dateChoice).normalized.typeMap.entries = [("INT".toList, "int8".toList)] ∧
      (override dateChoice).normalized.timestampTypes = ["DATE".toList] := by
  have hcomma : IsLead false [','] := .comma isSpacing_nil isSpacing_nil
  have hint : SpellsMember "int".toList (SpellsString "int8".toList) _ :=
    spellsMember_self (by decide) (spellsString_self (by decide))
  have hmap : SpellsDictionary SpellsString (.ofList [("int".toList, "int8".toList)]) _ :=
    ⟨[("int".toList, "int8".toList)], rfl, _, rfl,
      .item (.first isSpacing_nil) hint (.close isSpacing_nil)⟩
  have hdate : SpellsArray SpellsString ["date".toList] _ :=
    ⟨_, rfl, .item (.first isSpacing_nil) (spellsString_self (by decide)) (.close isSpacing_nil)⟩
  have hnull : IsJson .value _ :=
    @IsJson.frame .array _
      (.item (.first isSpacing_nil) rfl (.name (.head _)) (.close isSpacing_nil))
  have hunknown : ∀ name, format.key name ≠ "x".toList := by
    intro name
    cases name <;> decide
  have hobject : format.SpellsAsObject dateChoice _ :=
    ⟨[.unknown "x".toList, .known ⟨FieldName.timestampTypes, ["date".toList]⟩,
        .known ⟨FieldName.typeMap, Dictionary.ofList [("int".toList, "int8".toList)]⟩],
      ⟨_, rfl, .item (.first isSpacing_nil) ⟨hunknown, spellsMember_self (by decide) hnull⟩
        (.item hcomma (spellsMember_self (by decide) hdate)
          (.item hcomma (spellsMember_self (by decide) hmap) (.close isSpacing_nil)))⟩,
      isChoice_dateChoice (.swap _ _ [])⟩
  have harray : format.SpellsAsArray dateChoice _ :=
    ⟨[⟨FieldName.typeMap, Dictionary.ofList [("int".toList, "int8".toList)]⟩,
        ⟨FieldName.timestampTypes, ["date".toList]⟩],
      ⟨_, rfl, .item (.first isSpacing_nil) hmap (.item hcomma hdate (.close isSpacing_nil))⟩,
      ⟨_, rfl⟩, isChoice_dateChoice (.refl _)⟩
  have hobjectFile : IsDocument (format.SpellsAsObject dateChoice) dateObject :=
    ⟨[' '], _, [], by simp [IsSpacing], hobject, isSpacing_nil, by decide⟩
  have harrayFile : IsDocument (format.SpellsAsArray dateChoice) dateArray :=
    ⟨[], _, [], isSpacing_nil, harray, isSpacing_nil, by decide⟩
  exact ⟨hobjectFile, harrayFile, (load_eq_override dateChoice).1 dateObject hobjectFile,
    (load_eq_override dateChoice).2 dateArray harrayFile, by decide, by decide⟩

end Dates

end Profile

end DumpConvert
