import DumpConvert.Proofs.Text.Trimming
import DumpConvert.Statement

/-!
# One line of a dump

What taking one line does to an open statement and to the state of the scan.  Every
statement about a whole dump is derived from these equations.
-/

namespace DumpConvert

namespace Draft

@[simp] theorem kind_push (draft : Draft) (line : Text) :
    (draft.push line).1.kind = draft.kind := by
  rfl

@[simp] theorem linesReversed_push (draft : Draft) (line : Text) :
    (draft.push line).1.linesReversed = line :: draft.linesReversed := by
  rfl

theorem openings_push (draft : Draft) (line : Text) :
    (draft.push line).1.openings = (scanLine draft.openings none line).1 := by
  rfl

theorem text_push (draft : Draft) (line : Text) :
    (draft.push line).1.text =
      Text.trim (Text.joinWith ['\n'] (draft.linesReversed.reverse ++ [line])) := by
  rw [text, linesReversed_push, List.reverse_cons]

end Draft

namespace SplitState

variable {terminators : List Text}

/-! ## A line of an open statement -/

theorem pushLine_eq (done : List Statement) (draft : Draft) (pending : Nat) (line : Text) :
    pushLine done draft pending line =
      if (draft.push line).2 then ⟨(draft.push line).1.finish pending .complete :: done, none, 0⟩
      else ⟨done, some (draft.push line).1, pending⟩ := by
  unfold pushLine
  rcases draft.push line with ⟨grown, complete⟩
  cases complete <;> rfl

theorem step_of_inside
    (done : List Statement) (draft : Draft) (pending : Nat) {line : Text}
    (hinside : startsStatement terminators (Text.trim line) = false) :
    step terminators ⟨done, some draft, pending⟩ line =
      pushLine done draft (pending + 1) line := by
  simp [step, hinside]

/-- A line that starts another statement is read as if the open one had been finished before. -/
theorem step_of_startsStatement
    (done : List Statement) (draft : Draft) (pending : Nat) {line : Text}
    (hstarts : startsStatement terminators (Text.trim line) = true) :
    step terminators ⟨done, some draft, pending⟩ line =
      step terminators
        ⟨draft.finish pending (.cutOff (Text.trim line)) :: done, none, 0⟩ line := by
  simp [step, hstarts]

/-! ## A line while no statement is open -/

theorem step_none (done : List Statement) (pending : Nat) (line : Text) :
    step terminators ⟨done, none, pending⟩ line = openLine done (pending + 1) line := by
  rfl

theorem openLine_of_blank
    (done : List Statement) (pending : Nat) {line : Text}
    (hblank : Text.isBlankText line = true) :
    openLine done pending line = ⟨done, none, pending⟩ := by
  have hnil : Text.trim line = [] := (Text.trim_eq_nil_iff line).mpr hblank
  simp [openLine, hnil]

theorem isEmpty_trim_of_solid {line : Text} (hsolid : Text.isBlankText line = false) :
    (Text.trim line).isEmpty = false := by
  cases hempty : (Text.trim line).isEmpty with
  | false => rfl
  | true =>
      rw [(Text.trim_eq_nil_iff line).mp (List.isEmpty_iff.mp hempty)] at hsolid
      exact Bool.noConfusion hsolid

theorem openLine_of_other
    (done : List Statement) (pending : Nat) {line : Text}
    (hsolid : Text.isBlankText line = false)
    (hkind : StatementKind.ofLine (Text.trim line) = .other) :
    openLine done pending line =
      ⟨⟨.other, Text.trim line, pending, .complete⟩ :: done, none, 0⟩ := by
  simp [openLine, isEmpty_trim_of_solid hsolid, hkind]

/-- The first line of a statement that can take up several lines. -/
theorem openLine_of_ne_other
    (done : List Statement) (pending : Nat) {line : Text}
    (hsolid : Text.isBlankText line = false)
    (hkind : StatementKind.ofLine (Text.trim line) ≠ .other) :
    openLine done pending line =
      pushLine done (Draft.start (StatementKind.ofLine (Text.trim line))) pending line := by
  unfold openLine
  simp only [isEmpty_trim_of_solid hsolid]
  cases hline : StatementKind.ofLine (Text.trim line) with
  | createTable => rfl
  | insert => rfl
  | other => exact absurd hline hkind

end SplitState

end DumpConvert
