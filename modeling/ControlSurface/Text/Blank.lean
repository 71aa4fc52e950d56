import ControlSurface.Text.Span

/- Blank characters: the property White_Space. Trimming takes blanks off the ends;
   collapsing puts one character in the place of each run of blanks. -/
namespace ControlSurface.Text

/-- Code points with the property White_Space. -/
def blankSpans : List Span :=
  [(0x9, 0xD), (0x20, 0x20), (0x85, 0x85), (0xA0, 0xA0), (0x1680, 0x1680), (0x2000, 0x200A),
   (0x2028, 0x2029), (0x202F, 0x202F), (0x205F, 0x205F), (0x3000, 0x3000)]

/-- White space, line ends included. The zero-width space and the byte order mark are none. -/
def isBlank (c : Char) : Bool := inSpans blankSpans c

/-- A text without the blanks before it. -/
def trimStart (cs : List Char) : List Char := cs.dropWhile isBlank

/-- A text without the blanks around it. -/
def trim (cs : List Char) : List Char := ((trimStart cs).reverse.dropWhile isBlank).reverse

/-- A text in which `mark` stands for each run of blanks. `inRun` says that the character
    before the text was blank, so that its run has its mark already. -/
def collapseFrom (mark : Char) : Bool → List Char → List Char
  | _, [] => []
  | inRun, c :: cs =>
    if isBlank c then
      if inRun then collapseFrom mark true cs else mark :: collapseFrom mark true cs
    else c :: collapseFrom mark false cs

/-- A text in which `mark` stands for each run of blanks. -/
def collapse (mark : Char) (cs : List Char) : List Char := collapseFrom mark false cs

/-- A character that is not blank ends a run: what is before it and what is behind it are
    collapsed apart. -/
theorem collapseFrom_append_cons {mark c : Char} (hc : isBlank c = false) (inRun : Bool)
    (cs ds : List Char) : collapseFrom mark inRun (cs ++ c :: ds) =
      collapseFrom mark inRun cs ++ c :: collapseFrom mark false ds := by
  induction cs generalizing inRun with
  | nil => simp [collapseFrom, hc]
  | cons b cs ih =>
    cases hb : isBlank b with
    | false => simp [collapseFrom, hb, ih]
    | true => cases inRun <;> simp [collapseFrom, hb, ih]

theorem collapseFrom_of_no_blank {cs : List Char} (mark : Char) (inRun : Bool)
    (h : ∀ c ∈ cs, isBlank c = false) : collapseFrom mark inRun cs = cs := by
  induction cs generalizing inRun with
  | nil => rfl
  | cons c cs ih =>
    have hc := h c List.mem_cons_self
    rw [collapseFrom, if_neg (by simp [hc]), ih _ fun d hd => h d (List.mem_cons_of_mem c hd)]

theorem mem_collapseFrom {mark c : Char} {cs : List Char} {inRun : Bool}
    (h : c ∈ collapseFrom mark inRun cs) : c = mark ∨ c ∈ cs ∧ isBlank c = false := by
  induction cs generalizing inRun with
  | nil => cases h
  | cons b cs ih =>
    have hback : ∀ {r : Bool}, c ∈ collapseFrom mark r cs →
        c = mark ∨ c ∈ b :: cs ∧ isBlank c = false :=
      fun h => (ih h).imp id (And.imp (List.mem_cons_of_mem b) id)
    cases hb : isBlank b with
    | false =>
      rw [collapseFrom, if_neg (by simp [hb])] at h
      rcases List.mem_cons.mp h with rfl | h
      · exact .inr ⟨List.mem_cons_self, hb⟩
      · exact hback h
    | true =>
      cases inRun with
      | true =>
        rw [collapseFrom, if_pos hb, if_pos rfl] at h
        exact hback h
      | false =>
        rw [collapseFrom, if_pos hb, if_neg Bool.false_ne_true] at h
        rcases List.mem_cons.mp h with rfl | h
        · exact .inl rfl
        · exact hback h

/-- A character that is not blank, and not the mark, is in a text with its runs of blanks marked
    if and only if it was in the text. -/
theorem mem_collapseFrom_iff {mark c : Char} {cs : List Char} (hc : isBlank c = false)
    (hm : c ≠ mark) (inRun : Bool) : c ∈ collapseFrom mark inRun cs ↔ c ∈ cs := by
  refine ⟨fun h => (mem_collapseFrom h).elim (absurd · hm) And.left, fun h => ?_⟩
  obtain ⟨before, after, rfl⟩ := List.append_of_mem h
  rw [collapseFrom_append_cons hc]
  exact List.mem_append_right _ List.mem_cons_self

/-- The text of a string without the blanks around it. -/
def trimmed (s : String) : String := String.ofList (trim s.toList)

/-- A string in which a space stands for each run of blanks. -/
def collapsed (s : String) : String := String.ofList (collapse ' ' s.toList)

/-- A string of blanks only, the empty one included. -/
def isBlankText (s : String) : Bool := s.toList.all isBlank

end ControlSurface.Text
