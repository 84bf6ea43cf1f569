import DumpConvert.Text.Basic
import DumpConvert.Text.CharClass

/-!
# Blanks, lines and words

Blanks are the characters of the Unicode property `White_Space`.  Trimming, words
and blank lines are all taken with this one class, so the no-break space counts as
a blank, and the zero-width space and the byte order mark do not.

Lines end at a line feed.  One carriage return right before that line feed belongs
to the ending; a carriage return anywhere else is part of the line.
-/

namespace DumpConvert.Text

/-- The ranges of the Unicode property `White_Space`. -/
def blankRanges : CodeRanges :=
  [(0x0009, 0x000D), (0x0020, 0x0020), (0x0085, 0x0085), (0x00A0, 0x00A0),
   (0x1680, 0x1680), (0x2000, 0x200A), (0x2028, 0x2029), (0x202F, 0x202F),
   (0x205F, 0x205F), (0x3000, 0x3000)]

def isBlank (c : Char) : Bool :=
  blankRanges.holds c.toNat

/-- Every blank of ASCII text is a blank. -/
theorem isBlank_of_isWhitespace {c : Char} (h : c.isWhitespace = true) :
    isBlank c = true := by
  have hcases : ((c = ' ' ∨ c = '\t') ∨ c = '\r') ∨ c = '\n' := by
    simpa [Char.isWhitespace] using h
  rcases hcases with ((rfl | rfl) | rfl) | rfl <;> decide

/-! ## Trimming -/

def trimStart (t : Text) : Text :=
  t.dropWhile isBlank

def trimEnd (t : Text) : Text :=
  (t.reverse.dropWhile isBlank).reverse

def trim (t : Text) : Text :=
  trimEnd (trimStart t)

def isBlankText (t : Text) : Bool :=
  t.all isBlank

/-- The blanks in front, then the rest: together they are the text. -/
theorem takeWhile_append_trimStart (t : Text) :
    t.takeWhile isBlank ++ trimStart t = t := by
  exact List.takeWhile_append_dropWhile

/-! ## Words and lines -/

def words (t : Text) : List Text :=
  (pieces isBlank t).filter (fun word => !word.isEmpty)

def dropReturn (line : Text) : Text :=
  if line.getLast? = some '\r' then line.dropLast else line

/--
The lines of a text.

Every piece that a line feed closes is a line without its carriage return.  What
follows the last line feed is a line as it stands, unless it is empty.
-/
def lines (t : Text) : List Text :=
  let parts := pieces (· == '\n') t
  let closed := parts.dropLast.map dropReturn
  match parts.getLast? with
  | some [] => closed
  | some unclosed => closed ++ [unclosed]
  | none => closed

/-- The first line of a text, or the empty text if there is none. -/
def firstLine (t : Text) : Text :=
  (lines t).headD []

end DumpConvert.Text
