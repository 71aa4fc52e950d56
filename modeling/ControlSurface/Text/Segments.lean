/- Texts that a character cuts into segments. Joining the segments of a text gives the text
   back (`joinSegments_segments`), and cutting what was joined gives the segments back as
   long as none of them holds the character (`segments_joinSegments`); one that does is cut
   itself (`segments_joinSegments_flatMap`). -/
namespace ControlSurface.Text

/-- The segments of a text between the occurrences of `mark`; a text without it is one segment. -/
def segments (mark : Char) : List Char → List (List Char)
  | [] => [[]]
  | c :: cs =>
    if c = mark then [] :: segments mark cs
    else
      match segments mark cs with
      | [] => [[c]]
      | s :: ss => (c :: s) :: ss

/-- The segments with `mark` between neighbours. -/
def joinSegments (mark : Char) : List (List Char) → List Char
  | [] => []
  | [s] => s
  | s :: ss => s ++ mark :: joinSegments mark ss

/-- The last segment of a text. -/
def lastSegment (mark : Char) (cs : List Char) : List Char := ((segments mark cs).getLast?).getD []

/-- The strings with a separator between neighbours. -/
def joinWith (separator : String) (parts : List String) : String :=
  match parts with
  | [] => ""
  | p :: ps => ps.foldl (fun text q => text ++ separator ++ q) p

theorem joinWith_eq_intercalate (separator : String) (parts : List String) :
    joinWith separator parts = separator.intercalate parts := by
  cases parts with
  | nil => rw [joinWith, String.intercalate_nil]
  | cons p ps =>
    rw [joinWith]
    induction ps generalizing p with
    | nil => rw [List.foldl_nil, String.intercalate_singleton]
    | cons q ps ih =>
      rw [List.foldl_cons, ih, String.intercalate_cons_append, String.intercalate_cons_cons]

theorem joinSegments_cons_cons (mark : Char) (s t : List Char) (ts : List (List Char)) :
    joinSegments mark (s :: t :: ts) = s ++ mark :: joinSegments mark (t :: ts) := rfl

theorem joinSegments_cons_head (mark c : Char) (s : List Char) (ss : List (List Char)) :
    joinSegments mark ((c :: s) :: ss) = c :: joinSegments mark (s :: ss) := by
  cases ss <;> rfl

theorem joinSegments_eq_intercalate (mark : Char) (ss : List (List Char)) :
    joinSegments mark ss = [mark].intercalate ss := by
  induction ss with
  | nil => rfl
  | cons s ss ih =>
    cases ss with
    | nil => exact List.intercalate_singleton.symm
    | cons t ts =>
      rw [joinSegments_cons_cons, ih, List.intercalate_cons_cons, List.append_assoc,
        List.singleton_append]

/-- Strings with slashes between them, character by character. -/
theorem toList_intercalate_slash (parts : List String) :
    ("/".intercalate parts).toList = joinSegments '/' (parts.map String.toList) := by
  rw [String.toList_intercalate, joinSegments_eq_intercalate]
  rfl

/-! ## Segments of a text -/

theorem segments_cons_mark (mark : Char) (cs : List Char) :
    segments mark (mark :: cs) = [] :: segments mark cs := if_pos rfl

/-- A character that does not cut goes to the first segment. -/
theorem segments_cons_of_ne {mark c : Char} (h : c ≠ mark) {cs s : List Char}
    {ss : List (List Char)} (hcs : segments mark cs = s :: ss) :
    segments mark (c :: cs) = (c :: s) :: ss := by
  rw [segments, if_neg h, hcs]

/-- Every text has a first segment. -/
theorem exists_segments (mark : Char) (cs : List Char) :
    ∃ s ss, segments mark cs = s :: ss := by
  induction cs with
  | nil => exact ⟨[], [], rfl⟩
  | cons c cs ih =>
    obtain ⟨s, ss, h⟩ := ih
    by_cases hc : c = mark
    · exact ⟨[], segments mark cs, by rw [hc, segments_cons_mark]⟩
    · exact ⟨c :: s, ss, segments_cons_of_ne hc h⟩

theorem segments_ne_nil (mark : Char) (cs : List Char) : segments mark cs ≠ [] := by
  obtain ⟨s, ss, h⟩ := exists_segments mark cs
  rw [h]
  exact List.cons_ne_nil s ss

theorem joinSegments_segments (mark : Char) (cs : List Char) :
    joinSegments mark (segments mark cs) = cs := by
  induction cs with
  | nil => rfl
  | cons c cs ih =>
    obtain ⟨s, ss, h⟩ := exists_segments mark cs
    rw [h] at ih
    by_cases hc : c = mark
    · rw [hc, segments_cons_mark, h, joinSegments_cons_cons, ih, List.nil_append]
    · rw [segments_cons_of_ne hc h, joinSegments_cons_head, ih]

/-- A segment does not hold the character that cuts. -/
theorem mark_not_mem_of_mem_segments {mark : Char} {cs s : List Char}
    (h : s ∈ segments mark cs) : mark ∉ s := by
  induction cs generalizing s with
  | nil =>
    obtain rfl := List.mem_singleton.mp h
    exact List.not_mem_nil
  | cons c cs ih =>
    obtain ⟨t, ts, ht⟩ := exists_segments mark cs
    by_cases hc : c = mark
    · rw [hc, segments_cons_mark] at h
      rcases List.mem_cons.mp h with rfl | h
      · exact List.not_mem_nil
      · exact ih h
    · rw [segments_cons_of_ne hc ht] at h
      rw [ht] at ih
      rcases List.mem_cons.mp h with rfl | h
      · exact List.not_mem_cons_of_ne_of_not_mem (Ne.symm hc) (ih List.mem_cons_self)
      · exact ih (List.mem_cons_of_mem t h)

/-- A text that does not hold the character is one segment. -/
theorem segments_of_not_mem {mark : Char} {cs : List Char} (h : mark ∉ cs) :
    segments mark cs = [cs] := by
  induction cs with
  | nil => rfl
  | cons c cs ih =>
    obtain ⟨hc, hcs⟩ := List.ne_and_not_mem_of_not_mem_cons h
    exact segments_cons_of_ne hc.symm (ih hcs)

/-- The text before the first occurrence is the first segment. -/
theorem segments_append_cons {mark : Char} {s : List Char} (h : mark ∉ s) (cs : List Char) :
    segments mark (s ++ mark :: cs) = s :: segments mark cs := by
  induction s with
  | nil => exact segments_cons_mark mark cs
  | cons c s ih =>
    obtain ⟨hc, hs⟩ := List.ne_and_not_mem_of_not_mem_cons h
    exact segments_cons_of_ne hc.symm (ih hs)

theorem segments_joinSegments {mark : Char} {ss : List (List Char)} (hs : ss ≠ [])
    (h : ∀ s ∈ ss, mark ∉ s) : segments mark (joinSegments mark ss) = ss := by
  induction ss with
  | nil => contradiction
  | cons s ss ih =>
    cases ss with
    | nil => exact segments_of_not_mem (h s List.mem_cons_self)
    | cons t ts =>
      rw [joinSegments_cons_cons, segments_append_cons (h s List.mem_cons_self),
        ih (List.cons_ne_nil t ts) fun u hu => h u (List.mem_cons_of_mem _ hu)]

/-- Cutting a text at one occurrence first and then everywhere cuts it everywhere. -/
theorem segments_append_mark (mark : Char) (cs ds : List Char) :
    segments mark (cs ++ mark :: ds) = segments mark cs ++ segments mark ds := by
  induction cs with
  | nil => exact segments_cons_mark mark ds
  | cons c cs ih =>
    obtain ⟨s, ss, h⟩ := exists_segments mark cs
    by_cases hc : c = mark
    · rw [hc, List.cons_append, segments_cons_mark, segments_cons_mark, ih, List.cons_append]
    · rw [h] at ih
      rw [segments_cons_of_ne hc h]
      exact segments_cons_of_ne hc ih

/-- The segments of joined texts are theirs, one text after the other. -/
theorem segments_joinSegments_flatMap (mark : Char) {parts : List (List Char)} (h : parts ≠ []) :
    segments mark (joinSegments mark parts) = parts.flatMap (segments mark) := by
  induction parts with
  | nil => contradiction
  | cons s ss ih =>
    cases ss with
    | nil => exact (List.flatMap_singleton ..).symm
    | cons t ts =>
      rw [joinSegments_cons_cons, segments_append_mark, ih (List.cons_ne_nil t ts)]
      exact List.flatMap_cons.symm

end ControlSurface.Text
