import ControlSurface.Text.Position
import ControlSurface.Text.Segments

/- Positions and lines. A position counts lines and columns as a text is passed over; what it says
   is read off the lines of the text: behind a prefix stands the rest of the line at which the
   position points (`standsAt_afterAll`). A position behind more of the text is a later one
   (`before_afterAll`). -/
namespace ControlSurface.Text

namespace Position

/-- A position is before another one: on an earlier line, or in an earlier column of its line. -/
def Before (p q : Position) : Prop :=
  p.line < q.line ∨ p.line = q.line ∧ p.column < q.column

theorem Before.trans {p q r : Position} (h : p.Before q) (h' : q.Before r) : p.Before r := by
  unfold Before at *
  omega

theorem before_after (p : Position) (c : Char) : p.Before (p.after c) := by
  unfold Before after
  split <;> simp

/-- Whoever passes over some text comes to a later position. -/
theorem before_afterAll (p : Position) {cs : List Char} (h : cs ≠ []) :
    p.Before (p.afterAll cs) := by
  induction cs generalizing p with
  | nil => exact absurd rfl h
  | cons c cs ih =>
    rw [afterAll_cons]
    by_cases hcs : cs = []
    · subst hcs
      exact before_after p c
    · exact (before_after p c).trans (ih (p.after c) hcs)

end Position

/-- What stands at a position of a text: its line goes on so from its column on. Lines and columns
    count from one. -/
def StandsAt (cs : List Char) (p : Position) (rest : List Char) : Prop :=
  0 < p.line ∧ ∃ before, (segments '\n' cs)[p.line - 1]? = some (before ++ rest) ∧
    p.column = before.length + 1

/-- The first line of a text. -/
theorem segments_head (cs : List Char) :
    ∃ ss, segments '\n' cs = cs.takeWhile (· ≠ '\n') :: ss := by
  induction cs with
  | nil => exact ⟨[], rfl⟩
  | cons c cs ih =>
    obtain ⟨ss, hss⟩ := ih
    by_cases hc : c = '\n'
    · exact ⟨segments '\n' cs, by simp [segments, hc]⟩
    · exact ⟨ss, by simp [segments, hc, hss]⟩

/-- Behind a prefix of a text the position, counted on from another one, points at what follows on
    the line. -/
theorem exists_line_behind (p : Position) (pre rest : List Char) :
    ∃ i before, (segments '\n' (pre ++ rest))[i]? =
        some (before ++ rest.takeWhile (· ≠ '\n')) ∧
      p.afterAll pre =
        ⟨p.line + i, if i = 0 then p.column + before.length else before.length + 1⟩ := by
  induction pre generalizing p with
  | nil =>
    obtain ⟨ss, hss⟩ := segments_head rest
    refine ⟨0, [], ?_, rfl⟩
    rw [List.nil_append, hss]
    rfl
  | cons c pre ih =>
    obtain ⟨i, before, hline, hposition⟩ := ih (p.after c)
    rw [List.cons_append, Position.afterAll_cons, hposition]
    by_cases hc : c = '\n'
    · -- A new line starts behind the line end.
      refine ⟨i + 1, before, ?_, ?_⟩
      · simpa [segments, hc] using hline
      · cases i <;> simp [Position.after, hc] <;> omega
    · obtain ⟨ss, hss⟩ := segments_head (pre ++ rest)
      rw [hss] at hline
      cases i with
      | zero =>
        refine ⟨0, c :: before, ?_, ?_⟩
        · simpa [segments, hc, hss] using hline
        · simp [Position.after, hc]
          omega
      | succ i =>
        refine ⟨i + 1, before, ?_, ?_⟩
        · simpa [segments, hc, hss] using hline
        · simp [Position.after, hc]

/-- What follows a prefix on its line stands at the position behind the prefix. -/
theorem standsAt_afterAll (pre rest : List Char) :
    StandsAt (pre ++ rest) (Position.start.afterAll pre) (rest.takeWhile (· ≠ '\n')) := by
  obtain ⟨i, before, hline, hposition⟩ := exists_line_behind Position.start pre rest
  rw [hposition]
  refine ⟨Nat.add_pos_left Nat.one_pos i, before, ?_, ?_⟩
  · simpa [Position.start] using hline
  · show (if i = 0 then 1 + before.length else before.length + 1) = before.length + 1
    split <;> omega

/-- A position is the one behind a prefix of a text. What follows on the line stands there. -/
def Within (cs : List Char) (p : Position) : Prop :=
  ∃ pre rest, cs = pre ++ rest ∧ p = Position.start.afterAll pre ∧
    StandsAt cs p (rest.takeWhile (· ≠ '\n'))

theorem within_afterAll (pre rest : List Char) :
    Within (pre ++ rest) (Position.start.afterAll pre) :=
  ⟨pre, rest, rfl, rfl, standsAt_afterAll pre rest⟩

end ControlSurface.Text
