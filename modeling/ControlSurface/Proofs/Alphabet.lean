import ControlSurface.Proofs.Allocation

/- The characters of parameter names. A stem keeps the letters and numbers of a label first and
   changes their case afterwards. The case tables are checked image by image
   (`lowerMap_entries`, `upperMap_entries`): images of letters are letters, and what is no number
   does not become one, but a few letters become a letter with combining marks, which are neither.
   The tables are large, so the classes of characters are looked up as the bits of a number
   (`testBit_bitsOf`).

   What is proved:
     1. `stemChars_start`: a stem begins with a letter that is no number.
     2. `stemChars_alphabet`, `TakesMark.exists_mark`: all its characters are letters, numbers and
        the marks of `caseMarks`, and it has a mark exactly if its first letter gets one in upper
        case, or a later one in lower case.
     3. `allocate_spelled`: so has the name that an allocator in any state hands out, since a number
        behind a stem adds digits only. -/
namespace ControlSurface

namespace Text

/-! ## Classes of characters as bits -/

/-- The code points of spans as the bits of a number. -/
def bitsOf (spans : List Span) : Nat :=
  spans.foldr (fun s bits => (Nat.pow 2 (s.2 + 1 - s.1) - 1) <<< s.1 ||| bits) 0

theorem testBit_bitsOf (spans : List Span) (c : Char) :
    (bitsOf spans).testBit c.toNat = inSpans spans c := by
  rw [inSpans]
  induction spans with
  | nil => simp [bitsOf]
  | cons s spans ih =>
    have hspan : ((Nat.pow 2 (s.2 + 1 - s.1) - 1) <<< s.1).testBit c.toNat =
        decide (s.1 ≤ c.toNat ∧ c.toNat ≤ s.2) := by
      rw [Nat.pow_eq, Nat.testBit_shiftLeft, Nat.testBit_two_pow_sub_one, Bool.eq_iff_iff]
      simp only [Bool.and_eq_true, decide_eq_true_eq]
      omega
    rw [bitsOf, List.foldr_cons, Nat.testBit_or, hspan, List.any_cons]
    exact congrArg _ ih

theorem isAlphabetic_eq_testBit (c : Char) :
    isAlphabetic c = (bitsOf alphabeticSpans).testBit c.toNat := (testBit_bitsOf _ c).symm

theorem isNumeric_eq_testBit (c : Char) :
    isNumeric c = (bitsOf numericSpans).testBit c.toNat := (testBit_bitsOf _ c).symm

theorem isNumeric_of_isDigit {c : Char} (h : c.isDigit = true) : isNumeric c = true := by
  refine inSpans_iff.mpr ⟨(0x30, 0x39), List.mem_cons_self, ?_⟩
  simpa [Char.isDigit, UInt32.le_iff_toNat_le] using h

theorem isAlphanumeric_of_isNumeric {c : Char} (h : isNumeric c = true) :
    isAlphanumeric c = true := by
  rw [isAlphanumeric, h, Bool.or_true]

/-! ## The case tables, entry by entry -/

/-- The code points that a run covers, each with its image. -/
def CaseRun.pairs (r : CaseRun) : List (Nat × Nat) :=
  (List.range ((r.last - r.first) / r.step + 1)).map fun i =>
    (r.first + i * r.step, r.image + i * r.step)

/-- The code points that a case map changes, each with its images. -/
def CaseMap.entries (m : CaseMap) : List (Nat × List Nat) :=
  m.expansions ++ m.runs.flatMap fun r => r.pairs.map fun p => (p.1, [p.2])

theorem CaseRun.mem_pairs {r : CaseRun} {n k : Nat} (h : r.map? n = some k) : (n, k) ∈ r.pairs := by
  rw [CaseRun.map?] at h
  split at h
  · next hn =>
    cases h
    obtain ⟨hfirst, hlast, hstep⟩ := hn
    have hwhole : (n - r.first) / r.step * r.step = n - r.first :=
      Nat.div_mul_cancel (Nat.dvd_of_mod_eq_zero hstep)
    refine List.mem_map.mpr ⟨(n - r.first) / r.step, List.mem_range.mpr ?_, ?_⟩
    · exact Nat.lt_succ_of_le (Nat.div_le_div_right (by omega))
    · rw [hwhole, Nat.add_sub_cancel' hfirst]
  · cases h

/-- A character that a case map changes has an entry; any other is its own image. -/
theorem CaseMap.apply_cases (m : CaseMap) (c : Char) :
    m.apply c = [c] ∨
      ∃ image, (c.toNat, image) ∈ m.entries ∧ m.apply c = image.map Char.ofNat := by
  rw [CaseMap.apply]
  split
  · next image himage =>
    refine .inr ⟨image, List.mem_append_left _ ?_, rfl⟩
    obtain ⟨before, after, happ, -⟩ := List.lookup_eq_some_iff.mp himage
    rw [happ]
    exact List.mem_append_right _ List.mem_cons_self
  · split
    · next k hk =>
      obtain ⟨r, hr, hrun⟩ := List.exists_of_findSome?_eq_some hk
      refine .inr ⟨[k], List.mem_append_right _ (List.mem_flatMap.mpr ⟨r, hr, ?_⟩), rfl⟩
      exact List.mem_map.mpr ⟨_, CaseRun.mem_pairs hrun, rfl⟩
    · exact .inl rfl

/-- The combining marks that a change of case brings in. -/
def caseMarks : List Char :=
  ['\u0300', '\u0301', '\u0307', '\u0308', '\u030a', '\u030c', '\u0313', '\u0331', '\u0342']

/-- The letters that get a mark in upper case. -/
def upperMarked : List Char :=
  ['\u01f0', '\u0390', '\u03b0', '\u1e96', '\u1e97', '\u1e98', '\u1e99', '\u1f50', '\u1f52',
   '\u1f54', '\u1f56', '\u1fb6', '\u1fb7', '\u1fc6', '\u1fc7', '\u1fd2', '\u1fd3', '\u1fd6',
   '\u1fd7', '\u1fe2', '\u1fe3', '\u1fe4', '\u1fe6', '\u1fe7', '\u1ff6', '\u1ff7']

/-- The letter that gets a mark in lower case. -/
def lowerMarked : Char := '\u0130'

theorem lowerMap_entries : (lowerMap.entries.all fun e =>
    Char.ofNat e.1 == lowerMarked || e.2.all fun n => isAlphanumeric (Char.ofNat n)) = true := by
  simp only [isAlphanumeric, isAlphabetic_eq_testBit, isNumeric_eq_testBit]
  decide +kernel

/-- Whether images spell out a letter that is no number, with nothing behind it but letters, numbers
    and, for the letters of which that is said, marks. -/
def risesTo (n : Nat) (image : List Nat) : Bool :=
  match image.map Char.ofNat with
  | [] => false
  | first :: rest =>
    isAlphabetic first && !isNumeric first &&
      rest.all fun d => isAlphanumeric d ||
        (caseMarks.contains d && upperMarked.contains (Char.ofNat n))

theorem upperMap_entries : (upperMap.entries.all fun e =>
    isNumeric (Char.ofNat e.1) || risesTo e.1 e.2) = true := by
  simp only [risesTo, isAlphanumeric, isAlphabetic_eq_testBit, isNumeric_eq_testBit]
  decide +kernel

theorem upperMarked_entries : (upperMarked.all fun c =>
    !isNumeric c && (upperCase c).any fun d => !isAlphanumeric d) = true := by
  simp only [isAlphanumeric, isAlphabetic_eq_testBit, isNumeric_eq_testBit]
  decide +kernel

/-! ## Letters in another case -/

theorem lowerCase_lowerMarked : lowerCase lowerMarked = ['i', '\u0307'] := by decide

theorem lowerCase_alphanumeric {c d : Char} (hc : isAlphanumeric c = true) (hne : c ≠ lowerMarked)
    (hd : d ∈ lowerCase c) : isAlphanumeric d = true := by
  obtain hself | ⟨image, himage, hcase⟩ := lowerMap.apply_cases c
  · rw [lowerCase, hself, List.mem_singleton] at hd
    rw [hd]
    exact hc
  · have hentry := List.all_eq_true.mp lowerMap_entries _ himage
    simp only [Char.ofNat_toNat, Bool.or_eq_true, beq_iff_eq, List.all_eq_true] at hentry
    rw [lowerCase, hcase] at hd
    obtain ⟨n, hn, rfl⟩ := List.mem_map.mp hd
    exact hentry.resolve_left hne n hn

/-- What the upper case of a letter that is no number begins with, and what may stand behind. -/
theorem upperCase_rises {c : Char} (hc : isAlphabetic c = true) (hn : isNumeric c = false) :
    ∃ first rest, upperCase c = first :: rest ∧ isAlphabetic first = true ∧
      isNumeric first = false ∧
      ∀ d ∈ rest, isAlphanumeric d = true ∨ d ∈ caseMarks ∧ c ∈ upperMarked := by
  obtain hself | ⟨image, himage, hcase⟩ := upperMap.apply_cases c
  · exact ⟨c, [], hself, hc, hn, fun d hd => by cases hd⟩
  · have hentry := List.all_eq_true.mp upperMap_entries _ himage
    simp only [Char.ofNat_toNat, hn, Bool.false_or, risesTo] at hentry
    rw [upperCase, hcase]
    split at hentry
    · cases hentry
    · next first rest heq =>
      simp only [Bool.and_eq_true, Bool.not_eq_true', List.all_eq_true, Bool.or_eq_true,
        List.contains_iff_mem] at hentry
      exact ⟨first, rest, heq, hentry.1.1, hentry.1.2, hentry.2⟩

theorem upperMarked_rises {c : Char} (h : c ∈ upperMarked) :
    isNumeric c = false ∧ ∃ d ∈ upperCase c, isAlphanumeric d = false := by
  have hentry := List.all_eq_true.mp upperMarked_entries c h
  simpa only [Bool.and_eq_true, Bool.not_eq_true', List.any_eq_true] using hentry

end Text

/-! ## Stems -/

namespace Label

open Text

/-- A label of which the stem has a mark: the first of its letters and numbers gets one in upper
    case, or one behind it gets one in lower case. -/
def TakesMark (cs : List Char) : Prop :=
  ∃ first others, cs.filter isAlphanumeric = first :: others ∧
    (first ∈ upperMarked ∨ lowerMarked ∈ others)

/-- How the name of a label is spelled. It begins with a letter that is no number; its characters
    are letters, numbers and combining marks; and it has no mark if its label takes none. -/
structure Spells (label name : List Char) : Prop where
  start : ∃ first rest, name = first :: rest ∧ isAlphabetic first = true ∧ isNumeric first = false
  alphabet : ∀ c ∈ name, isAlphanumeric c = true ∨ c ∈ caseMarks
  unmarked : (∀ c ∈ name, isAlphanumeric c = true) ↔ ¬TakesMark label

theorem mem_lowerCases {others : List Char} (hothers : ∀ c ∈ others, isAlphanumeric c = true)
    {d : Char} (hd : d ∈ others.flatMap lowerCase) :
    isAlphanumeric d = true ∨ d ∈ caseMarks ∧ lowerMarked ∈ others := by
  obtain ⟨c, hc, hd⟩ := List.mem_flatMap.mp hd
  by_cases hmarked : c = lowerMarked
  · rw [hmarked, lowerCase_lowerMarked] at hd
    rcases List.mem_cons.mp hd with rfl | hd
    · exact .inl (by decide +kernel)
    · rw [List.mem_singleton.mp hd]
      exact .inr ⟨by decide, hmarked ▸ hc⟩
  · exact .inl (lowerCase_alphanumeric (hothers c hc) hmarked hd)

/-- The first letter or number of a label, as a stem begins with it. -/
theorem stem_start {first : Char} (hfirst : isAlphanumeric first = true) :
    ∃ c rest, (if isNumeric first then ['P', first] else upperCase first) = c :: rest ∧
      isAlphabetic c = true ∧ isNumeric c = false ∧
      ∀ d ∈ rest, isAlphanumeric d = true ∨ d ∈ caseMarks ∧ first ∈ upperMarked := by
  cases hnumeric : isNumeric first with
  | true =>
    refine ⟨'P', [first], rfl, by decide +kernel, by decide +kernel, fun d hd => .inl ?_⟩
    rw [List.mem_singleton.mp hd]
    exact hfirst
  | false =>
    rw [isAlphanumeric, hnumeric, Bool.or_false] at hfirst
    exact upperCase_rises hfirst hnumeric

theorem stemChars_start (cs : List Char) : ∃ first rest, stemChars cs = first :: rest ∧
    isAlphabetic first = true ∧ isNumeric first = false := by
  rw [stemChars]
  split
  · exact ⟨'P', [], rfl, by decide +kernel, by decide +kernel⟩
  · next first others hkept =>
    have hfirst := List.of_mem_filter (hkept ▸ List.mem_cons_self : first ∈ cs.filter isAlphanumeric)
    obtain ⟨c, rest, hstart, hletter, hnumber, -⟩ := stem_start hfirst
    exact ⟨c, rest ++ others.flatMap lowerCase, by rw [hstart]; rfl, hletter, hnumber⟩

/-- What is neither letter nor number in a stem is a mark that the label takes. -/
theorem stemChars_alphabet {cs : List Char} {d : Char} (hd : d ∈ stemChars cs) :
    isAlphanumeric d = true ∨ d ∈ caseMarks ∧ TakesMark cs := by
  rw [stemChars] at hd
  split at hd
  · rw [List.mem_singleton.mp hd]
    exact .inl (by decide +kernel)
  · next first others hkept =>
    have hletters : ∀ c ∈ first :: others, isAlphanumeric c = true := by
      intro c hc
      rw [← hkept] at hc
      exact List.of_mem_filter hc
    rcases List.mem_append.mp hd with hd | hd
    · obtain ⟨c, rest, hstart, hletter, -, hrest⟩ := stem_start (hletters first List.mem_cons_self)
      rw [hstart] at hd
      rcases List.mem_cons.mp hd with rfl | hd
      · exact .inl (by rw [isAlphanumeric, hletter, Bool.true_or])
      · exact (hrest d hd).imp_right fun h => ⟨h.1, first, others, hkept, .inl h.2⟩
    · have hlower := mem_lowerCases (fun c hc => hletters c (List.mem_cons_of_mem _ hc)) hd
      exact hlower.imp_right fun h => ⟨h.1, first, others, hkept, .inr h.2⟩

theorem TakesMark.exists_mark {cs : List Char} (h : TakesMark cs) :
    ∃ d ∈ stemChars cs, isAlphanumeric d = false := by
  obtain ⟨first, others, hkept, hmarked⟩ := h
  rw [stemChars, hkept]
  rcases hmarked with hupper | hlower
  · obtain ⟨hnumeric, d, hd, hmark⟩ := upperMarked_rises hupper
    refine ⟨d, List.mem_append_left _ ?_, hmark⟩
    rw [hnumeric]
    exact hd
  · refine ⟨'\u0307', List.mem_append_right _ (List.mem_flatMap.mpr ⟨_, hlower, ?_⟩), ?_⟩
    · rw [lowerCase_lowerMarked]
      decide
    · decide +kernel

theorem stemChars_spelled (cs : List Char) : Spells cs (stemChars cs) where
  start := stemChars_start cs
  alphabet := fun _ hc => (stemChars_alphabet hc).imp_right And.left
  unmarked := by
    constructor
    · intro hall hmarked
      obtain ⟨d, hd, hmark⟩ := hmarked.exists_mark
      rw [hall d hd] at hmark
      cases hmark
    · exact fun hno d hd => (stemChars_alphabet hd).resolve_right fun h => hno h.2

/-- A name stays spelled as it is if numbers are put behind it. -/
theorem Spells.append {label name digits : List Char} (h : Spells label name)
    (hdigits : ∀ c ∈ digits, isNumeric c = true) : Spells label (name ++ digits) := by
  have hall : ∀ c ∈ digits, isAlphanumeric c = true := fun c hc =>
    isAlphanumeric_of_isNumeric (hdigits c hc)
  obtain ⟨first, rest, hname, hfirst⟩ := h.start
  refine ⟨⟨first, rest ++ digits, by rw [hname]; rfl, hfirst⟩, fun c hc => ?_, ?_⟩
  · rcases List.mem_append.mp hc with hc | hc
    · exact h.alphabet c hc
    · exact .inl (hall c hc)
  · rw [← h.unmarked]
    constructor
    · exact fun h c hc => h c (List.mem_append_left _ hc)
    · intro h c hc
      exact (List.mem_append.mp hc).elim (h c) (hall c)

end Label

/-! ## Names -/

namespace Naming

open Text

/-- A fresh name is its stem, or the stem with digits behind it. -/
theorem fresh_toList (taken : List String) (stem : String) :
    ∃ digits, (fresh taken stem).toList = stem.toList ++ digits ∧
      ∀ c ∈ digits, isNumeric c = true := by
  obtain ⟨-, hname⟩ | ⟨-, i, -, hname⟩ := fresh_isFresh taken stem
  · exact ⟨[], by rw [hname, List.append_nil], fun c hc => by cases hc⟩
  · refine ⟨(toString i).toList, by rw [hname, numbered, String.toList_append], fun c hc => ?_⟩
    rw [Nat.toString_eq_repr, Nat.toList_repr] at hc
    exact isNumeric_of_isDigit (Nat.isDigit_of_mem_toDigits (by decide) (by decide) hc)

/-- Whatever names are used, the name that a label gets begins with a letter and has letters,
    numbers and combining marks only; it has no marks if its label takes none. -/
theorem allocate_spelled (a : Allocator) (label : String) :
    Label.Spells label.toList (a.allocate label).1.toList := by
  obtain ⟨digits, hname, hdigits⟩ := fresh_toList a.used (Label.parameterStem label)
  have hstem := (Label.stemChars_spelled label.toList).append hdigits
  rw [Allocator.allocate, hname, Label.parameterStem, String.toList_ofList]
  exact hstem

/-- The lower case of a letter with a dot is the letter and the dot, which is no letter. -/
theorem allocate_dotted :
    (Allocator.empty.allocate "G\u0130").1.toList = ['G', 'i', '\u0307'] ∧
      isAlphanumeric '\u0307' = false := by
  decide +kernel

end Naming

end ControlSurface
