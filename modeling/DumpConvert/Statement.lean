import DumpConvert.Sql.Quoting
import DumpConvert.Text.Blank

/-!
# Statements of a dump

A dump is read as a sequence of statements.  Only two kinds are looked into, table
definitions and inserted rows; every other line is a statement by itself.

A table definition or an insertion is collected line by line.  After each line the
scan knows which quote is open, whether a block comment is, and how many parentheses
are; the statement is complete once none of them is open and the last character of the
line outside comments is a semicolon.  A doubled quote character closes a quote and opens it
again, so it needs no case of its own.

While a statement is open, a line belongs to it unless the line starts a statement of its
own; then the open statement is closed as it is, so that a stray quote character damages one
statement only.  A statement records how it ended: by its own semicolon, cut off by the first
line of the next one, or by the end of the dump.

Blank lines between statements are counted with the statement after them.  Splitting is
a left fold over the lines, so a dump that is split in two parts is read the same way as
the whole.
-/

namespace DumpConvert

inductive StatementKind where
  | createTable
  | insert
  | other
deriving Repr, DecidableEq

inductive Ending where
  /-- Its text was complete. -/
  | complete
  /-- The given line, trimmed, started another statement. -/
  | cutOff (next : Text)
  /-- The dump ended. -/
  | endOfDump
deriving Repr, DecidableEq

structure Statement where
  kind : StatementKind
  text : Text
  /-- The lines of the statement and the blank lines passed over before it. -/
  lineCount : Nat
  ending : Ending
deriving Repr, DecidableEq

namespace Statement

def isTerminated (statement : Statement) : Bool :=
  statement.ending == .complete

def totalLines : List Statement → Nat
  | [] => 0
  | statement :: rest => statement.lineCount + totalLines rest

end Statement

namespace StatementKind

/-- The first words of the text are the given ones, the case of ASCII letters disregarded. -/
def startsWithWords (expected : List Text) (line : Text) : Bool :=
  ((Text.words line).take expected.length).map Text.asciiUpper == expected

def ofLine (line : Text) : StatementKind :=
  if startsWithWords ["CREATE".toList, "TABLE".toList] line then .createTable
  else if startsWithWords ["INSERT".toList, "INTO".toList] line then .insert
  else .other

end StatementKind

/--
A trimmed line starts a statement, whatever statement is still open before it.

These are the first lines of table definitions and of inserted rows, and the lines that
equal one of the given terminators.
-/
def startsStatement (terminators : List Text) (line : Text) : Bool :=
  StatementKind.ofLine line != .other ||
    terminators.any (fun terminator => Text.sameIgnoringCase line terminator)

/-! ## Open statements -/

structure Openings where
  quote : Option Char
  inComment : Bool
  /--
  Opening parentheses less closing ones.  The count has no bound here; in 32 bits it is the
  same for every statement of fewer than `2 ^ 31` parentheses.
  -/
  depth : Int
deriving Repr, DecidableEq

namespace Openings

def none : Openings :=
  ⟨.none, false, 0⟩

def allowEnd (openings : Openings) : Bool :=
  openings.quote.isNone && !openings.inComment && decide (openings.depth ≤ 0)

/-- The openings after a character outside comments. -/
def afterChar (openings : Openings) (c : Char) : Openings :=
  match openings.quote with
  | some quote => if c = quote then { openings with quote := .none } else openings
  | .none =>
      if Sql.isProtectingQuote c then { openings with quote := some c }
      else if c = '(' then { openings with depth := openings.depth + 1 }
      else if c = ')' then { openings with depth := openings.depth - 1 }
      else openings

def inCode (openings : Openings) : Bool :=
  !openings.inComment && openings.quote.isNone

end Openings

/-- The later of the last character seen so far and this one, blanks not counted. -/
def lastSolid (last : Option Char) (c : Char) : Option Char :=
  if Text.isBlank c then last else some c

/--
Scan one line from the given openings.

The result is what is open after the line, and the last character of the line that is
neither blank nor part of a comment.
-/
def scanLine (openings : Openings) (last : Option Char) : Text → Openings × Option Char
  | [] => (openings, last)
  | [c] =>
      if openings.inComment then (openings, last)
      else (openings.afterChar c, lastSolid last c)
  | c :: d :: rest =>
      if openings.inComment then
        if c = '*' ∧ d = '/' then scanLine { openings with inComment := false } last rest
        else scanLine openings last (d :: rest)
      else if openings.inCode ∧ c = '-' ∧ d = '-' then (openings, last)
      else if openings.inCode ∧ c = '/' ∧ d = '*' then
        scanLine { openings with inComment := true } last rest
      else scanLine (openings.afterChar c) (lastSolid last c) (d :: rest)

/-- A statement that is still open: its lines, latest first, and what is open after them. -/
structure Draft where
  kind : StatementKind
  linesReversed : List Text
  openings : Openings
deriving Repr, DecidableEq

namespace Draft

def start (kind : StatementKind) : Draft :=
  ⟨kind, [], .none⟩

def push (draft : Draft) (line : Text) : Draft × Bool :=
  let (openings, last) := scanLine draft.openings none line
  ({ draft with linesReversed := line :: draft.linesReversed, openings := openings },
    openings.allowEnd && last == some ';')

def text (draft : Draft) : Text :=
  Text.trim (Text.joinWith ['\n'] draft.linesReversed.reverse)

def finish (draft : Draft) (lineCount : Nat) (ending : Ending) : Statement :=
  ⟨draft.kind, draft.text, lineCount, ending⟩

end Draft

/-! ## Splitting a dump -/

structure SplitState where
  /-- The statements read, latest first. -/
  doneReversed : List Statement
  draft : Option Draft
  /-- The lines read since the last statement. -/
  pending : Nat
deriving Repr, DecidableEq

namespace SplitState

def start : SplitState :=
  ⟨[], none, 0⟩

/-- Take a line into an open statement; `pending` counts it already. -/
def pushLine
    (done : List Statement) (draft : Draft) (pending : Nat) (line : Text) : SplitState :=
  match draft.push line with
  | (grown, true) => ⟨grown.finish pending .complete :: done, none, 0⟩
  | (grown, false) => ⟨done, some grown, pending⟩

def openLine (done : List Statement) (pending : Nat) (line : Text) : SplitState :=
  let trimmed := Text.trim line
  if trimmed.isEmpty then
    ⟨done, none, pending⟩
  else
    match StatementKind.ofLine trimmed with
    | .other => ⟨⟨.other, trimmed, pending, .complete⟩ :: done, none, 0⟩
    | kind => pushLine done (Draft.start kind) pending line

def step (terminators : List Text) (state : SplitState) (line : Text) : SplitState :=
  match state.draft with
  | none => openLine state.doneReversed (state.pending + 1) line
  | some draft =>
      if startsStatement terminators (Text.trim line) then
        let cut := draft.finish state.pending (.cutOff (Text.trim line))
        openLine (cut :: state.doneReversed) 1 line
      else
        pushLine state.doneReversed draft (state.pending + 1) line

def finish (state : SplitState) : List Statement :=
  match state.draft with
  | none => state.doneReversed.reverse
  | some draft => (draft.finish state.pending .endOfDump :: state.doneReversed).reverse

end SplitState

def splitStatements (terminators : List Text) (dump : Text) : List Statement :=
  ((Text.lines dump).foldl (SplitState.step terminators) .start).finish

end DumpConvert
