import DumpConvert.Value

/-!
# When the column decides

A column has a rule for every token or for none.  It has one if its name marks a timestamp
or if it has a type (`exists_bySchema?_eq`); a column without either is silent, unless a list
of types holds the empty keyword (`bySchema?_of_isSilent`).

Where the column has a rule, the value is a function of the token and the column
(`convert_of_typed`).  Where it has none, the value is written as if there were no column
(`convert_of_undecided`).
-/

namespace DumpConvert

namespace Profile

/-- Every list of types holds keywords only, and none of them is empty. -/
def NamesTypes (profile : Profile) : Prop :=
  ∀ kind, [] ∉ profile.typesOf kind

theorem typeClass?_nil {profile : Profile} (h : profile.NamesTypes) :
    profile.typeClass? [] = none := by
  unfold typeClass?
  rw [List.find?_eq_none]
  intro kind _ hmem
  exact h kind (List.contains_iff_mem.mp hmem)

/--
Another choice of the tables that only values without a known type are looked up in: the
length of a timestamp, the positions and patterns of booleans, and the repairs.
-/
def withShapeRules (profile : Profile) (digits : Nat) (positions : Dictionary (List Nat))
    (patterns : List Text) (repairs : List EpochRepair) : Profile :=
  { profile with
    heuristicEpochDigits := digits
    booleanPositions := positions
    booleanPatterns := patterns
    epochRepairs := repairs }

end Profile

namespace Column

/-- The column has no type, and its name marks no timestamp. -/
structure IsSilent (profile : Profile) (column : Column) : Prop where
  untyped : column.baseType = []
  unmarked : profile.hasTimestampSuffix column.name = false

end Column

namespace Value

/-! ## Columns with a rule and without -/

theorem bySchema?_of_isSilent {profile : Profile} {column : Column}
    (hprofile : profile.NamesTypes) (hcolumn : column.IsSilent profile) (token : Text) :
    bySchema? profile token column = none := by
  unfold bySchema?
  rw [hcolumn.unmarked, hcolumn.untyped, Profile.typeClass?_nil hprofile]
  rfl

theorem exists_bySchema?_eq (profile : Profile) (token : Text) {column : Column}
    (h : column.baseType ≠ []) :
    ∃ rendered, bySchema? profile token column = some rendered := by
  have hempty : column.baseType.isEmpty = false := by
    simpa using h
  unfold bySchema?
  rw [hempty]
  split
  · exact ⟨_, rfl⟩
  · split
    · exact ⟨_, rfl⟩
    · exact ⟨_, rfl⟩

/-- The rule of a column does not consult the tables of the shape rules. -/
theorem bySchema?_withShapeRules (profile : Profile) (digits : Nat)
    (positions : Dictionary (List Nat)) (patterns : List Text) (repairs : List EpochRepair) :
    bySchema? (profile.withShapeRules digits positions patterns repairs) = bySchema? profile := by
  rfl

/-! ## Values -/

def typed (profile : Profile) (column : Column) (token : Text) : Converted :=
  convert profile token ⟨[], 0, some column, false⟩

/-- Beside the type of a column nothing decides: not the place, the table or the statement. -/
theorem convert_of_typed (profile : Profile) (token : Text) {site : Site} {column : Column}
    (hsite : site.column = some column) (h : column.baseType ≠ []) :
    convert profile token site = typed profile column token := by
  obtain ⟨rendered, hrendered⟩ := exists_bySchema?_eq profile (plainToken token) h
  unfold typed convert
  simp only [hsite, Option.bind_some, hrendered]

theorem flags_typed (profile : Profile) {column : Column} (h : column.baseType ≠ [])
    (token : Text) : (typed profile column token).schemaDriven = true ∧
      (typed profile column token).repaired = false := by
  obtain ⟨rendered, hrendered⟩ := exists_bySchema?_eq profile (plainToken token) h
  unfold typed convert
  split
  · exact ⟨rfl, rfl⟩
  · split
    · exact ⟨rfl, rfl⟩
    · simp only [Option.bind_some, hrendered, and_self]

theorem typed_withShapeRules (profile : Profile) (digits : Nat)
    (positions : Dictionary (List Nat)) (patterns : List Text) (repairs : List EpochRepair)
    {column : Column} (h : column.baseType ≠ []) :
    typed (profile.withShapeRules digits positions patterns repairs) column =
      typed profile column := by
  funext token
  obtain ⟨rendered, hrendered⟩ := exists_bySchema?_eq profile (plainToken token) h
  unfold typed convert
  simp only [bySchema?_withShapeRules, Option.bind_some, hrendered]

/-- A column without a rule leaves text and kind to the shape of the token. -/
theorem convert_of_undecided (profile : Profile) (token : Text) (site : Site)
    (h : ∀ column ∈ site.column, bySchema? profile (plainToken token) column = none) :
    (convert profile token site).toRendered =
      (convert profile token { site with column := none }).toRendered := by
  have hnone : site.column.bind (bySchema? profile (plainToken token)) = none := by
    rw [Option.bind_eq_none_iff]
    exact h
  unfold convert
  split
  · rfl
  · split
    · rfl
    · simp only [hnone, Option.bind_none]
      rfl

end Value

end DumpConvert
