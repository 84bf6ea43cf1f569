import DumpConvert.Sql.Identifier
import DumpConvert.Sql.ValueList

/-!
# Inserted rows

An insertion names a table, may name columns, and lists groups of literals:

    INSERT INTO name (column, …) VALUES (literal, …), (literal, …);

The header is matched word by word.  The part after `VALUES` has to begin with an
opening parenthesis, and it runs to the last closing parenthesis of the text; after
that only one semicolon and blanks may stand.  A text of any other shape is not an
insertion, and neither is one without any group.
-/

namespace DumpConvert

/-- The content of an insertion: literals are kept as tokens, names without quoting. -/
structure Insert where
  table : Text
  columns : Option (List Text)
  rows : List (List Text)
deriving Repr, DecidableEq

namespace Insert

def isClosing (t : Text) : Bool :=
  match Text.trimStart t with
  | [] => true
  | c :: rest => c == ';' && Text.isBlankText rest

/-- The part from the first parenthesis to the last, when nothing else follows it. -/
def groupsPart? (t : Text) : Option Text :=
  match Text.trimStart t with
  | '(' :: rest =>
      match Text.splitAtLast? ')' rest with
      | some (inner, after) =>
          if isClosing after then some ('(' :: inner ++ [')']) else none
      | none => none
  | _ => none

def isParenthesis (c : Char) : Bool :=
  c == '(' || c == ')'

/-- The inside of a column list in front, which holds no parentheses, and the rest. -/
def columnList? : Text → Option (Text × Text)
  | '(' :: rest =>
      match rest.span (fun c => !isParenthesis c) with
      | (inner, ')' :: after) => some (inner, after)
      | _ => none
  | _ => none

def afterTable? (t : Text) : Option (Option Text × Text) :=
  let start := Text.trimStart t
  let (columns, rest) :=
    match columnList? start with
    | some (inner, after) => (some inner, after)
    | none => (none, start)
  match Sql.keyword? "values".toList (Text.trimStart rest) with
  | some after => (groupsPart? after).map (fun groups => (columns, groups))
  | none => none

/--
A bare name that ends in the keyword `VALUES`, without that keyword.

A bare name takes every character it can, so a keyword right after it is read as part
of the name first.
-/
def gluedName? (run : Text) : Option Text :=
  let name := run.take (run.length - 6)
  if name.isEmpty then none
  else if Sql.keyword? "values".toList (run.drop (run.length - 6)) = some [] then some name
  else none

def parts? (t : Text) : Option (Text × Option Text × Text) :=
  match Sql.keywords? ["insert".toList, "into".toList] (Text.trimStart t) with
  | none => none
  | some rest =>
      match Sql.Identifier.scanName? rest with
      | none => none
      | some written =>
          match afterTable? written.rest with
          | some (columns, groups) => some (written.name, columns, groups)
          | none =>
              match written with
              | .quoted _ _ => none
              | .bare run after =>
                  match gluedName? run, groupsPart? after with
                  | some name, some groups => some (name, none, groups)
                  | _, _ => none

def parse? (t : Text) : Option Insert :=
  match parts? t with
  | none => none
  | some (name, columns, groups) =>
      let rows := (Sql.splitGroups groups).map Sql.splitValues
      if rows.isEmpty then none
      else
        some
          { table := Sql.Identifier.unquote name
            columns := columns.map (fun list => (Sql.splitValues list).map Sql.Identifier.unquote)
            rows := rows }

end Insert

end DumpConvert
