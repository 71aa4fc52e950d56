import ControlSurface.Proofs.Markup
import Mathlib.Data.List.TakeWhile

/- The reader of XML documents on texts of elements. It reads each text of an element as the
   element, whatever follows, if it may go down as many levels as the element has
   (`readElement_ok`); only the positions that it notes depend on the text. So every text of a
   document is read as the document (`readDocument_ok`), and no text is read that does not start
   with a bracket (`head_of_readDocument`). -/
namespace ControlSurface.Xml

open Text (isBlank)

/-! ## Levels and positions -/

namespace Element

mutual

/-- How many levels an element has, its own included. -/
def levels : Element → Nat
  | ⟨_, _, _, children, _⟩ => levelsOf children + 1

/-- How many levels elements have. -/
def levelsOf : List Element → Nat
  | [] => 0
  | e :: es => max (levels e) (levelsOf es)

end

mutual

/-- An element without the positions in it. -/
def unplaced : Element → Element
  | ⟨name, attributes, text, children, _⟩ =>
    ⟨name, attributes, text, unplacedAll children, Text.Position.start⟩

/-- Elements without the positions in them. -/
def unplacedAll : List Element → List Element
  | [] => []
  | e :: es => unplaced e :: unplacedAll es

end

theorem unplacedAll_eq_map (es : List Element) : unplacedAll es = es.map unplaced := by
  induction es with
  | nil => rfl
  | cons e es ih => rw [unplacedAll, ih, List.map_cons]

/-- Elements are the same without their positions if all else is. -/
theorem unplaced_eq_iff {d e : Element} :
    d.unplaced = e.unplaced ↔ d.name = e.name ∧ d.attributes = e.attributes ∧ d.text = e.text ∧
      d.children.map unplaced = e.children.map unplaced := by
  obtain ⟨name, attributes, text, children, position⟩ := d
  obtain ⟨name', attributes', text', children', position'⟩ := e
  rw [unplaced, unplaced, unplacedAll_eq_map, unplacedAll_eq_map, mk.injEq]
  simp only [and_true]

theorem levels_eq (e : Element) : e.levels = levelsOf e.children + 1 := by
  obtain ⟨name, attributes, text, children, position⟩ := e
  rw [levels]

theorem levelsOf_append (ds es : List Element) :
    levelsOf (ds ++ es) = max (levelsOf ds) (levelsOf es) := by
  induction ds with
  | nil => exact (Nat.max_eq_right (Nat.zero_le _)).symm
  | cons d ds ih => rw [List.cons_append, levelsOf, ih, levelsOf, Nat.max_assoc]

theorem levelsOf_le_iff {es : List Element} {n : Nat} :
    levelsOf es ≤ n ↔ ∀ e ∈ es, e.levels ≤ n := by
  induction es with
  | nil => exact iff_of_true (Nat.zero_le _) (List.forall_mem_nil _)
  | cons e es ih => rw [levelsOf, Nat.max_le, ih, List.forall_mem_cons]

end Element

/-! ## Cursors -/

namespace Cursor

@[simp] theorem step_rest (c : Cursor) : c.step.rest = c.rest.tail := by
  unfold step
  split
  · next h => rw [h]; rfl
  · next h => rw [h]; rfl

@[simp] theorem skip_rest (n : Nat) (c : Cursor) : (c.skip n).rest = c.rest.drop n := rfl

/-- Blanks are skipped up to what is none. -/
theorem skipBlanks_rest {c : Cursor} {gap rest : List Char} (hgap : IsBlanks gap)
    (hrest : ∀ d ∈ rest.head?, isBlank d = false) (h : c.rest = gap ++ rest) :
    c.skipBlanks.rest = rest := by
  have hstop : rest.takeWhile isBlank = [] := by
    cases rest with
    | nil => rfl
    | cons d rest => exact List.takeWhile_cons_of_neg (by simp [hrest d rfl])
  rw [skipBlanks, skip_rest, h, List.takeWhile_append_of_pos hgap, hstop, List.append_nil,
    List.drop_left]

theorem skipBlanks_trimStart (c : Cursor) : c.skipBlanks.rest = Text.trimStart c.rest := by
  have hsplit : c.rest = c.rest.takeWhile isBlank ++ Text.trimStart c.rest :=
    List.takeWhile_append_dropWhile.symm
  rw [skipBlanks, skip_rest]
  exact (congrArg (List.drop _) hsplit).trans List.drop_left

/-- The place behind blanks is the one behind the blanks after the first. -/
theorem skipBlanks_step {c : Cursor} {d : Char} {rest : List Char} (hd : isBlank d = true)
    (h : c.rest = d :: rest) : c.skipBlanks = c.step.skipBlanks := by
  obtain ⟨cs, p⟩ := c
  obtain rfl : cs = d :: rest := h
  rw [skipBlanks, List.takeWhile_cons_of_pos hd]
  rfl

theorem expect_ok {c : Cursor} {d : Char} {rest : List Char} (fault : Fault)
    (h : c.rest = d :: rest) : c.expect d fault = .ok c.step := by
  rw [expect, h]
  exact if_pos rfl

end Cursor

/-! ## Names and marks -/

/-- Characters lie in one of two classes without common spans at most. -/
theorem inSpans_disjoint {spans others : List Text.Span}
    (h : (spans.all fun s => others.all fun t => s.2 < t.1 || t.2 < s.1) = true) {c : Char}
    (hc : Text.inSpans spans c = true) : Text.inSpans others c = false := by
  obtain ⟨s, hs, hlow, hhigh⟩ := Text.inSpans_iff.mp hc
  rw [Bool.eq_false_iff]
  intro hother
  obtain ⟨t, ht, hlow', hhigh'⟩ := Text.inSpans_iff.mp hother
  have hapart := List.all_eq_true.mp (List.all_eq_true.mp h s hs) t ht
  simp only [Bool.or_eq_true, decide_eq_true_eq] at hapart
  omega

/-- A blank is no character of a name. -/
theorem isNameChar_of_isBlank {c : Char} (h : isBlank c = true) : isNameChar c = false := by
  have halphabetic : Text.isAlphabetic c = false := inSpans_disjoint (by decide +kernel) h
  have hnumeric : Text.isNumeric c = false := inSpans_disjoint (by decide +kernel) h
  have hother : ∀ d : Char, isBlank d = false → (c == d) = false := by
    intro d hd
    rw [beq_eq_false_iff_ne]
    rintro rfl
    rw [h] at hd
    cases hd
  rw [isNameChar, Text.isAlphanumeric, halphabetic, hnumeric, hother '_' (by decide),
    hother '-' (by decide), hother '.' (by decide), hother ':' (by decide)]
  rfl

/-- The characters that stand around names with a meaning of their own. -/
def marks : List Char := ['>', '/', '=', '!', '?']

theorem isNameChar_of_mem_marks : ∀ d ∈ marks, isNameChar d = false := by
  have hmarks : marks.all (!isNameChar ·) = true := by decide +kernel
  intro d hd
  simpa using List.all_eq_true.mp hmarks d hd

/-- A character of a name is no mark. -/
theorem ne_of_isNameChar {d : Char} (hd : isNameChar d = true) {m : Char} (hm : m ∈ marks) :
    d ≠ m := by
  rintro rfl
  rw [isNameChar_of_mem_marks d hm] at hd
  cases hd

theorem readName_ok {s : String} {c : Cursor} {rest : List Char} (hs : IsName s)
    (hrest : ∀ d ∈ rest.head?, isNameChar d = false) (h : c.rest = s.toList ++ rest) :
    ∃ c', readName c = .ok (s, c') ∧ c'.rest = rest := by
  have hstop : rest.takeWhile isNameChar = [] := by
    cases rest with
    | nil => rfl
    | cons d rest => exact List.takeWhile_cons_of_neg (by simp [hrest d rfl])
  have htake : c.rest.takeWhile isNameChar = s.toList := by
    rw [h, List.takeWhile_append_of_pos hs.2, hstop, List.append_nil]
  refine ⟨c.skip s.toList.length, ?_, ?_⟩
  · rw [readName, htake]
    split
    · next hnil => exact absurd hnil hs.1
    · rw [String.ofList_toList]
  · rw [Cursor.skip_rest, h, List.drop_left]

/-- A mark whose last character stands nowhere else in it is found behind a text that does not
    hold it. -/
theorem before?_append {init data : List Char} {z : Char} (hz : z ∉ init)
    (hdata : ¬init ++ [z] <:+: data) (rest : List Char) :
    before? (init ++ [z]) (data ++ (init ++ [z] ++ rest)) = some data := by
  induction data with
  | nil =>
    obtain ⟨d, cs, hcons⟩ := List.exists_cons_of_ne_nil
      (show init ++ [z] ++ rest ≠ [] by simp)
    rw [List.nil_append, hcons, before?, if_pos]
    rw [List.isPrefixOf_iff_prefix, ← hcons]
    exact List.prefix_append _ _
  | cons d ds ih =>
    have hds : ¬init ++ [z] <:+: ds := fun h => hdata (h.trans (List.suffix_cons d ds).isInfix)
    rw [List.cons_append, before?, if_neg, ih hds, Option.map_some]
    rw [List.isPrefixOf_iff_prefix, ← List.cons_append]
    intro hprefix
    by_cases hle : (init ++ [z]).length ≤ (d :: ds).length
    · exact hdata (List.prefix_of_prefix_length_le hprefix (List.prefix_append _ _) hle).isInfix
    · -- The mark would end inside the mark behind the text.
      rw [List.length_append, List.length_singleton] at hle
      obtain ⟨tail, htail⟩ := hprefix
      have hlast : (init ++ [z] ++ tail)[init.length]? = some z := by simp
      rw [htail, List.getElem?_append_right (by omega), List.append_assoc,
        List.getElem?_append_left (by rw [List.length_cons] at hle ⊢; omega)] at hlast
      exact hz (List.mem_of_getElem? hlast)

theorem readSection_ok (part : Section) {init data rest : List Char} {z : Char} {c : Cursor}
    (hz : z ∉ init) (hdata : ¬init ++ [z] <:+: data)
    (h : c.rest = data ++ (init ++ [z] ++ rest)) :
    ∃ c', readSection part (init ++ [z]) c = .ok (data, c') ∧ c'.rest = rest := by
  refine ⟨c.skip (data.length + (init ++ [z]).length), ?_, ?_⟩
  · rw [readSection, h, before?_append hz hdata]
  · rw [Cursor.skip_rest, h, ← List.append_assoc, ← List.length_append, List.drop_left]

/-- A comment is read with its own marks. -/
theorem readComment_ok {body rest : List Char} (closed : IsComment body) {c : Cursor}
    (h : c.rest = ['<', '!', '-', '-'] ++ (body ++ (['-', '-', '>'] ++ rest))) :
    ∃ c', readSection .comment ['-', '-', '>'] c = .ok (['<', '!', '-', '-'] ++ body, c') ∧
      c'.rest = rest := by
  have hclosed : ¬['-', '-'] ++ ['>'] <:+: ['<', '!', '-', '-'] ++ body := closed
  exact readSection_ok .comment (by decide) hclosed (h.trans (List.append_assoc _ _ _).symm)

/-! ## Entities and values -/

theorem entityName?_ok {name : List Char} (hplain : ';' ∉ name) (rest : List Char) :
    ∀ bytes, bytes + byteCount name ≤ 10 →
      entityName? bytes (name ++ ';' :: rest) = some name := by
  induction name with
  | nil =>
    intro bytes _
    rw [List.nil_append, entityName?, if_pos rfl]
  | cons d ds ih =>
    intro bytes hbytes
    rw [byteCount] at hbytes
    have hsize := d.utf8Size_pos
    rw [List.mem_cons, not_or] at hplain
    rw [List.cons_append, entityName?, if_neg (Ne.symm hplain.1), if_pos (by omega),
      ih hplain.2 _ (by omega), Option.map_some]

/-- An entity is read as its character. -/
theorem readEntity_ok {name rest : List Char} {d : Char} {c : Cursor} (h : IsEntity name d)
    (hc : c.rest = '&' :: (name ++ ';' :: rest)) :
    ∃ c', readEntity c = .ok (d, c') ∧ c'.rest = rest := by
  have hname : entityName? 0 (c.rest.drop 1) = some name := by
    rw [hc]
    exact entityName?_ok h.plain rest 0 (by have := h.short; omega)
  refine ⟨c.skip (name.length + 2), ?_, ?_⟩
  · rw [readEntity, hname]
    dsimp only
    rw [h.char]
  · rw [Cursor.skip_rest, hc, List.drop_succ_cons, ← List.singleton_append (x := ';'),
      ← List.append_assoc, show name.length + 1 = (name ++ [';']).length by simp, List.drop_left]

/-- A value is read up to its quote. -/
theorem readValueFrom_ok {quote : Char} (hquote : quote ≠ '&') (opened : Cursor)
    {cs ts : List Char} (h : WritesValue quote cs ts) :
    ∀ (fuel : Nat) {c : Cursor} {rest : List Char}, c.rest = ts ++ quote :: rest →
      c.rest.length < fuel →
      ∃ c', readValueFrom quote opened fuel c = .ok (cs, c') ∧ c'.rest = rest := by
  induction h with
  | nil =>
    intro fuel c rest hc hfuel
    obtain ⟨fuel, rfl⟩ := Nat.exists_eq_add_one_of_ne_zero (Nat.ne_zero_of_lt hfuel)
    refine ⟨c.step, ?_, by rw [Cursor.step_rest, hc]; rfl⟩
    rw [readValueFrom, hc]
    exact if_pos rfl
  | @plain d cs ts notQuote notAmpersand _ ih =>
    intro fuel c rest hc hfuel
    obtain ⟨fuel, rfl⟩ := Nat.exists_eq_add_one_of_ne_zero (Nat.ne_zero_of_lt hfuel)
    have hstep : c.step.rest = ts ++ quote :: rest := by rw [Cursor.step_rest, hc]; rfl
    rw [hc, List.cons_append, List.length_cons, ← hstep] at hfuel
    obtain ⟨c', hread, hc'⟩ := ih fuel hstep (by omega)
    refine ⟨c', ?_, hc'⟩
    rw [readValueFrom, hc]
    dsimp only [List.cons_append]
    rw [if_neg notQuote, if_neg notAmpersand]
    dsimp only [bind, Except.bind]
    rw [hread]
  | @entity name d cs ts entity _ ih =>
    intro fuel c rest hc hfuel
    obtain ⟨fuel, rfl⟩ := Nat.exists_eq_add_one_of_ne_zero (Nat.ne_zero_of_lt hfuel)
    have hc₀ : c.rest = '&' :: (name ++ ';' :: (ts ++ quote :: rest)) := by rw [hc]; simp
    obtain ⟨c₁, hentity, hc₁⟩ := readEntity_ok entity hc₀
    have hshorter : c₁.rest.length < c.rest.length := by
      rw [hc₁, hc₀]
      simp
      omega
    obtain ⟨c', hread, hc'⟩ := ih fuel hc₁ (by omega)
    refine ⟨c', ?_, hc'⟩
    rw [readValueFrom, hc₀]
    dsimp only
    rw [if_neg (Ne.symm hquote), if_pos rfl, hentity]
    dsimp only [bind, Except.bind]
    rw [hread]

/-- A value is read with its quotes. -/
theorem readValue_ok {quote : Char} (hquote : quote = '\x22' ∨ quote = '\x27') {value : String}
    {ts rest : List Char} {c : Cursor} (h : WritesValue quote value.toList ts)
    (hc : c.rest = quote :: (ts ++ quote :: rest)) :
    ∃ c', readValue c = .ok (value, c') ∧ c'.rest = rest := by
  have hstep : c.step.rest = ts ++ quote :: rest := by rw [Cursor.step_rest, hc]; rfl
  have hplain : quote ≠ '&' := by rcases hquote with rfl | rfl <;> decide
  obtain ⟨c', hread, hc'⟩ := readValueFrom_ok hplain c h
    ((ts ++ quote :: rest).length + 1) hstep (by rw [hstep]; exact Nat.lt_succ_self _)
  have hmap : (readValueFrom quote c ((ts ++ quote :: rest).length + 1) c.step).map
      (fun r => (String.ofList r.1, r.2)) = .ok (value, c') := by
    rw [hread]
    show Except.ok (String.ofList value.toList, c') = _
    rw [String.ofList_toList]
  refine ⟨c', ?_, hc'⟩
  rcases hquote with rfl | rfl
  · rw [readValue, hc]
    exact hmap
  · rw [readValue, hc]
    exact hmap

/-! ## Tags -/

/-- How a tag is ended. -/
def TagEnd.text : TagEnd → List Char
  | .empty => ['/', '>']
  | .open => ['>']

/-- No name goes on over blanks or a mark. -/
theorem isNameChar_head_blanks {gap rest : List Char} {d : Char} (hgap : IsBlanks gap)
    (hd : d ∈ marks) : ∀ e ∈ (gap ++ d :: rest).head?, isNameChar e = false := by
  intro e he
  cases gap with
  | nil =>
    cases he
    exact isNameChar_of_mem_marks _ hd
  | cons b gap =>
    cases he
    exact isNameChar_of_isBlank (hgap _ List.mem_cons_self)

/-- The attributes of a tag are read up to and with its end. -/
theorem readAttributesFrom_ok (name : String) (opened : Cursor)
    {attributes : List (String × String)} {tags : List Char}
    (h : WritesAttributes attributes tags) :
    ∀ (fuel : Nat) {c : Cursor} {gap rest : List Char} (ending : TagEnd), IsBlanks gap →
      c.rest = tags ++ (gap ++ (ending.text ++ rest)) → c.rest.length < fuel →
      ∃ c', readAttributesFrom name opened fuel c = .ok (attributes, ending, c') ∧
        c'.rest = rest := by
  -- By induction on the attributes; the fuel stays above the length of what is left.
  induction h with
  | nil =>
    intro fuel c gap rest ending hgap hc hfuel
    obtain ⟨fuel, rfl⟩ := Nat.exists_eq_add_one_of_ne_zero (Nat.ne_zero_of_lt hfuel)
    rw [List.nil_append] at hc
    cases ending with
    | empty =>
      have hskip : c.skipBlanks.rest = '/' :: '>' :: rest :=
        Cursor.skipBlanks_rest hgap (by rintro d ⟨⟩; decide) hc
      have hstep : c.skipBlanks.step.rest = '>' :: rest := by rw [Cursor.step_rest, hskip]; rfl
      refine ⟨c.skipBlanks.step.step, ?_, by rw [Cursor.step_rest, hstep]; rfl⟩
      rw [readAttributesFrom, hskip]
      dsimp only
      rw [Cursor.expect_ok _ hstep]
      rfl
    | «open» =>
      have hskip : c.skipBlanks.rest = '>' :: rest :=
        Cursor.skipBlanks_rest hgap (by rintro d ⟨⟩; decide) hc
      refine ⟨c.skipBlanks.step, ?_, by rw [Cursor.step_rest, hskip]; rfl⟩
      rw [readAttributesFrom, hskip]
      rfl
  | @cons key value attributes quote space before after body tags _ blanks hname blanksBefore
      blanksAfter isQuote held _ ih =>
    intro fuel c gap rest ending hgap hc hfuel
    obtain ⟨fuel, rfl⟩ := Nat.exists_eq_add_one_of_ne_zero (Nat.ne_zero_of_lt hfuel)
    obtain ⟨d, ds, hkey⟩ := List.exists_cons_of_ne_nil hname.1
    have hd : isNameChar d = true := hname.2 d (by rw [hkey]; exact List.mem_cons_self)
    have hc₀ : c.rest = space ++ (key.toList ++ (before ++ '=' :: (after ++ quote ::
        (body ++ quote :: (tags ++ (gap ++ (ending.text ++ rest))))))) := by
      rw [hc]
      simp only [List.append_assoc, List.cons_append]
    have hskip := Cursor.skipBlanks_rest blanks (by
      rintro e he
      rw [hkey] at he
      cases he
      rw [Bool.eq_false_iff]
      intro hblank
      rw [isNameChar_of_isBlank hblank] at hd
      cases hd) hc₀
    obtain ⟨c₁, hread, hc₁⟩ := readName_ok hname
      (isNameChar_head_blanks blanksBefore (by decide)) hskip
    have hskip₁ := Cursor.skipBlanks_rest blanksBefore (by rintro e ⟨⟩; decide) hc₁
    have hstep := (Cursor.step_rest c₁.skipBlanks).trans (congrArg List.tail hskip₁)
    have hskip₂ := Cursor.skipBlanks_rest blanksAfter
      (by rintro e ⟨⟩; rcases isQuote with rfl | rfl <;> decide) hstep
    obtain ⟨c₂, hvalue, hc₂⟩ := readValue_ok isQuote held hskip₂
    have hshorter : c₂.rest.length < c.rest.length := by
      rw [hc₂, hc₀]
      simp only [List.length_append, List.length_cons]
      omega
    obtain ⟨c', hothers, hc'⟩ := ih fuel ending hgap hc₂ (by omega)
    refine ⟨c', ?_, hc'⟩
    rw [readAttributesFrom]
    dsimp only
    split
    -- A name stands here, so the tag neither ends nor is cut off.
    · next hnil =>
      rw [hkey, hnil] at hskip
      cases hskip
    · next hslash =>
      rw [hkey, hslash] at hskip
      cases hskip
      exact absurd rfl (ne_of_isNameChar hd (by decide))
    · next hbracket =>
      rw [hkey, hbracket] at hskip
      cases hskip
      exact absurd rfl (ne_of_isNameChar hd (by decide))
    · rw [hread]
      dsimp only [bind, Except.bind]
      rw [Cursor.expect_ok _ hskip₁]
      dsimp only
      rw [hvalue]
      dsimp only
      rw [hothers]

/-- The name of a tag is read, and then its attributes and its end. -/
theorem readTag_ok {name : String} (hname : IsName name) {attributes : List (String × String)}
    {tags gap rest : List Char} (htags : WritesAttributes attributes tags) (hgap : IsBlanks gap)
    (ending : TagEnd) (opened : Cursor) {c : Cursor}
    (hc : c.rest = name.toList ++ (tags ++ (gap ++ (ending.text ++ rest)))) :
    ∃ c₁ c₂, readName c = .ok (name, c₁) ∧
      readAttributesFrom name opened (c₁.rest.length + 1) c₁ = .ok (attributes, ending, c₂) ∧
      c₂.rest = rest := by
  have hend : ∀ e ∈ (gap ++ (ending.text ++ rest)).head?, isNameChar e = false := by
    cases ending with
    | empty => exact isNameChar_head_blanks hgap (by decide)
    | «open» => exact isNameChar_head_blanks hgap (by decide)
  have hhead : ∀ e ∈ (tags ++ (gap ++ (ending.text ++ rest))).head?, isNameChar e = false := by
    cases htags with
    | nil => exact hend
    | @cons _ _ _ _ space _ _ _ _ space_ne blanks =>
      obtain ⟨d, space, rfl⟩ := List.exists_cons_of_ne_nil space_ne
      rintro e ⟨⟩
      exact isNameChar_of_isBlank (blanks d List.mem_cons_self)
  obtain ⟨c₁, hread, hc₁⟩ := readName_ok hname hhead hc
  obtain ⟨c₂, hattributes, hc₂⟩ := readAttributesFrom_ok name opened htags
    (c₁.rest.length + 1) ending hgap hc₁ (Nat.lt_succ_self _)
  exact ⟨c₁, c₂, hread, hattributes, hc₂⟩

/-- The closing tag of an element is read. -/
theorem readClosing_ok {name : String} (hname : IsName name) {gap rest : List Char}
    (hgap : IsBlanks gap) {c : Cursor}
    (hc : c.rest = '<' :: '/' :: (name.toList ++ (gap ++ '>' :: rest))) :
    ∃ c', readClosing name c = .ok c' ∧ c'.rest = rest := by
  have hskip : (c.skip 2).rest = name.toList ++ (gap ++ '>' :: rest) := by
    rw [Cursor.skip_rest, hc]
    rfl
  obtain ⟨c₁, hread, hc₁⟩ := readName_ok hname (isNameChar_head_blanks hgap (by decide)) hskip
  have hskip₁ := Cursor.skipBlanks_rest hgap (by rintro e ⟨⟩; decide) hc₁
  refine ⟨c₁.skipBlanks.step, ?_, by rw [Cursor.step_rest, hskip₁]; rfl⟩
  rw [readClosing, hread]
  dsimp only [bind, Except.bind]
  rw [if_pos rfl, Cursor.expect_ok _ hskip₁]

/-! ## Contents -/

/-- A reader of elements that reads a text as an element, whatever follows: only positions may
    differ. -/
def ReadsElement (read : Cursor → Except Failure (Element × Cursor)) (e : Element)
    (t : List Char) : Prop :=
  ∀ c rest, c.rest = t ++ rest →
    ∃ e' c', read c = .ok (e', c') ∧ e'.unplaced = e.unplaced ∧ c'.rest = rest

/-- Content with more character data before it. -/
def withText (cs : List Char) (content : List Char × List Element × Cursor) :
    List Char × List Element × Cursor := (cs ++ content.1, content.2)

section
variable {child : Cursor → Except Failure (Element × Cursor)} {name : String} {opened : Cursor}

/-- A text that is read as character data before the rest of the content. -/
def ReadsText (child : Cursor → Except Failure (Element × Cursor)) (name : String)
    (opened : Cursor) (cs t : List Char) : Prop :=
  ∀ fuel c rest, c.rest = t ++ rest → c.rest.length < fuel →
    ∃ fuel' c', c'.rest = rest ∧ c'.rest.length < fuel' ∧
      readContentFrom child name opened fuel c =
        (readContentFrom child name opened fuel' c').map (withText cs)

theorem bind_ok_eq_map {ε α β : Type} (r : Except ε α) (f : α → β) :
    (r >>= fun a => Except.ok (f a)) = r.map f := by
  cases r with
  | error e => rfl
  | ok a => rfl

theorem map_withText_nil (r : Except Failure (List Char × List Element × Cursor)) :
    r.map (withText []) = r := by
  cases r with
  | error f => rfl
  | ok content => rfl

theorem ReadsText.nil : ReadsText child name opened [] [] := by
  intro fuel c rest hc hfuel
  exact ⟨fuel, c, hc, hfuel, (map_withText_nil _).symm⟩

theorem ReadsText.append {cs ds t u : List Char} (h : ReadsText child name opened cs t)
    (h' : ReadsText child name opened ds u) : ReadsText child name opened (cs ++ ds) (t ++ u) := by
  intro fuel c rest hc hfuel
  rw [List.append_assoc] at hc
  obtain ⟨fuel₁, c₁, hc₁, hfuel₁, hfirst⟩ := h fuel c _ hc hfuel
  obtain ⟨fuel₂, c₂, hc₂, hfuel₂, hsecond⟩ := h' fuel₁ c₁ rest hc₁ hfuel₁
  refine ⟨fuel₂, c₂, hc₂, hfuel₂, ?_⟩
  rw [hfirst, hsecond]
  cases readContentFrom child name opened fuel₂ c₂ with
  | error f => rfl
  | ok content =>
    show Except.ok (cs ++ (ds ++ content.1), content.2) = Except.ok (cs ++ ds ++ content.1, _)
    rw [List.append_assoc]

/-- A text is read as character data if one step of the reader reads it so. -/
theorem ReadsText.of_step {cs t : List Char} (hne : t ≠ [])
    (h : ∀ fuel c rest, c.rest = t ++ rest → ∃ c', c'.rest = rest ∧
      readContentFrom child name opened (fuel + 1) c =
        (readContentFrom child name opened fuel c').map (withText cs)) :
    ReadsText child name opened cs t := by
  intro fuel c rest hc hfuel
  obtain ⟨fuel, rfl⟩ := Nat.exists_eq_add_one_of_ne_zero (Nat.ne_zero_of_lt hfuel)
  obtain ⟨c', hc', hread⟩ := h fuel c rest hc
  refine ⟨fuel, c', hc', ?_, hread⟩
  have hlength := List.length_pos_iff.mpr hne
  rw [hc, List.length_append] at hfuel
  rw [hc']
  omega

/-- What starts with no bracket starts with none of the marks that brackets open. -/
theorem at?_eq_false {c : Cursor} {d e : Char} {rest mark : List Char} (hc : c.rest = d :: rest)
    (hd : d ≠ e) : c.at? (e :: mark) = false := by
  rw [Cursor.at?, hc, List.isPrefixOf, beq_eq_false_iff_ne.mpr (Ne.symm hd), Bool.false_and]

theorem readsText_plain {d : Char} (notBracket : d ≠ '<') (notAmpersand : d ≠ '&') :
    ReadsText child name opened [d] [d] := by
  refine .of_step (List.cons_ne_nil _ _) fun fuel c rest hc => ⟨c.step, ?_, ?_⟩
  · rw [Cursor.step_rest, hc]
    rfl
  · rw [List.singleton_append] at hc
    rw [readContentFrom, at?_eq_false hc notBracket, at?_eq_false hc notBracket,
      at?_eq_false hc notBracket, hc]
    dsimp only
    rw [if_neg Bool.false_ne_true, if_neg Bool.false_ne_true, if_neg Bool.false_ne_true,
      if_neg notBracket, if_neg notAmpersand]
    exact bind_ok_eq_map _ _

theorem readsText_entity {entity : List Char} {d : Char} (h : IsEntity entity d) :
    ReadsText child name opened [d] ('&' :: (entity ++ [';'])) := by
  refine .of_step (List.cons_ne_nil _ _) fun fuel c rest hc => ?_
  rw [List.cons_append, List.append_assoc, List.singleton_append] at hc
  obtain ⟨c', hread, hc'⟩ := readEntity_ok h hc
  refine ⟨c', hc', ?_⟩
  rw [readContentFrom, at?_eq_false hc (by decide), at?_eq_false hc (by decide),
    at?_eq_false hc (by decide), hc]
  dsimp only
  rw [if_neg Bool.false_ne_true, if_neg Bool.false_ne_true, if_neg Bool.false_ne_true,
    if_neg (by decide), if_pos rfl, hread]
  exact bind_ok_eq_map _ _

theorem readsText_verbatim {data : List Char} (closed : ¬[']', ']', '>'] <:+: data) :
    ReadsText child name opened data
      (['<', '!', '[', 'C', 'D', 'A', 'T', 'A', '['] ++ (data ++ [']', ']', '>'])) := by
  refine .of_step (List.cons_ne_nil _ _) fun fuel c rest hc => ?_
  have hskip : (c.skip 9).rest = data ++ ([']', ']'] ++ ['>'] ++ rest) := by
    rw [Cursor.skip_rest, hc, List.append_assoc, List.append_assoc]
    rfl
  obtain ⟨c', hread, hc'⟩ := readSection_ok .verbatim (by decide) closed hskip
  refine ⟨c', hc', ?_⟩
  have hnotClosing : c.at? ['<', '/'] = false := by rw [Cursor.at?, hc]; rfl
  have hnotComment : c.at? ['<', '!', '-', '-'] = false := by rw [Cursor.at?, hc]; rfl
  have hverbatim : c.at? ['<', '!', '[', 'C', 'D', 'A', 'T', 'A', '['] = true := by
    rw [Cursor.at?, hc]
    rfl
  have hhead : ∃ tail, c.rest = '<' :: tail := ⟨_, hc⟩
  obtain ⟨tail, htail⟩ := hhead
  rw [readContentFrom, hnotClosing, hnotComment, hverbatim, htail]
  dsimp only
  rw [if_neg Bool.false_ne_true, if_neg Bool.false_ne_true, if_pos rfl]
  rw [show [']', ']', '>'] = [']', ']'] ++ ['>'] from rfl, hread]
  exact bind_ok_eq_map _ _

theorem readsText_comment {body : List Char} (closed : IsComment body) :
    ReadsText child name opened [] (['<', '!', '-', '-'] ++ (body ++ ['-', '-', '>'])) := by
  refine .of_step (List.cons_ne_nil _ _) fun fuel c rest hc => ?_
  rw [List.append_assoc, List.append_assoc] at hc
  obtain ⟨c', hread, hc'⟩ := readComment_ok closed hc
  refine ⟨c', hc', ?_⟩
  have hnotClosing : c.at? ['<', '/'] = false := by rw [Cursor.at?, hc]; rfl
  have hcomment : c.at? ['<', '!', '-', '-'] = true := by rw [Cursor.at?, hc]; rfl
  have hhead : ∃ tail, c.rest = '<' :: tail := ⟨_, hc⟩
  obtain ⟨tail, htail⟩ := hhead
  rw [readContentFrom, hnotClosing, hcomment, htail]
  dsimp only
  rw [if_neg Bool.false_ne_true, if_pos rfl]
  rw [hread]
  exact (map_withText_nil _).symm

/-- Every text of character data is read as the data. -/
theorem readsText {cs t : List Char} (h : WritesText cs t) : ReadsText child name opened cs t := by
  induction h with
  | nil => exact .nil
  | plain notBracket notAmpersand _ ih => exact (readsText_plain notBracket notAmpersand).append ih
  | entity entity _ ih =>
    have h := (readsText_entity entity).append ih
    rwa [List.cons_append, List.nil_append, List.cons_append, List.append_assoc] at h
  | verbatim closed _ ih =>
    have h := (readsText_verbatim closed).append ih
    rwa [List.append_assoc, List.append_assoc] at h
  | comment closed _ ih =>
    have h := (readsText_comment closed).append ih
    rwa [List.append_assoc, List.append_assoc] at h

/-- The text of an element opens a tag. -/
theorem Element.Writes.head {e : Element} {t : List Char} (h : e.Writes t) :
    ∃ d rest, t = '<' :: d :: rest ∧ isNameChar d = true := by
  obtain ⟨name, attributes, text, children, position⟩ := e
  rw [Element.Writes] at h
  obtain ⟨hname, tags, gap, ending, -, -, -, rfl⟩ := h
  obtain ⟨d, ds, hcons⟩ := List.exists_cons_of_ne_nil hname.1
  rw [hcons]
  exact ⟨d, _, rfl, hname.2 d (by rw [hcons]; exact List.mem_cons_self)⟩

/-- Where an element stands in content, it is read as a child before the rest. -/
theorem readContentFrom_tag {c : Cursor} {d : Char} {tail : List Char} (hd : isNameChar d = true)
    (hc : c.rest = '<' :: d :: tail) (fuel : Nat) :
    readContentFrom child name opened (fuel + 1) c =
      child c >>= fun r => (readContentFrom child name opened fuel r.2).map
        fun content => (content.1, r.1 :: content.2.1, content.2.2) := by
  have hslash : d ≠ '/' := ne_of_isNameChar hd (by decide)
  have hmark : d ≠ '!' := ne_of_isNameChar hd (by decide)
  have hnot : ∀ (m : Char) (mark : List Char), d ≠ m → c.at? ('<' :: m :: mark) = false := by
    intro m mark hm
    rw [Cursor.at?, hc]
    show ('<' == '<' && (m == d && mark.isPrefixOf _)) = false
    rw [beq_eq_false_iff_ne.mpr (Ne.symm hm), Bool.false_and, Bool.and_false]
  rw [readContentFrom, hnot _ _ hslash, hnot _ _ hmark, hnot _ _ hmark, hc]
  dsimp only
  rw [if_neg Bool.false_ne_true, if_neg Bool.false_ne_true, if_neg Bool.false_ne_true, if_pos rfl]
  cases child c with
  | error f => rfl
  | ok r => exact bind_ok_eq_map _ _

/-- A child is read before the rest of the content. -/
theorem readContentFrom_child {e : Element} {t rest : List Char} (h : e.Writes t)
    (hread : ReadsElement child e t) {c : Cursor} (hc : c.rest = t ++ rest) (fuel : Nat) :
    ∃ e' c', e'.unplaced = e.unplaced ∧ c'.rest = rest ∧
      readContentFrom child name opened (fuel + 1) c =
        (readContentFrom child name opened fuel c').map
          fun content => (content.1, e' :: content.2.1, content.2.2) := by
  obtain ⟨e', c', hchild, he, hc'⟩ := hread c rest hc
  obtain ⟨d, tail, rfl, hd⟩ := h.head
  refine ⟨e', c', he, hc', ?_⟩
  rw [readContentFrom_tag hd hc, hchild]
  rfl

/-- The content of an element is read if its children are, with the closing tag. -/
theorem readContentFrom_ok (opened : Cursor) (hname : IsName name) :
    ∀ (es : List Element) {cs t : List Char}, WritesContent es cs t →
      (∀ e ∈ es, ∀ u, e.Writes u → ReadsElement child e u) →
      ∀ (fuel : Nat) {c : Cursor} {gap rest : List Char}, IsBlanks gap →
        c.rest = t ++ '<' :: '/' :: (name.toList ++ (gap ++ '>' :: rest)) → c.rest.length < fuel →
        ∃ es' c', readContentFrom child name opened fuel c = .ok (cs, es', c') ∧
          Element.unplacedAll es' = Element.unplacedAll es ∧ c'.rest = rest
  | [], cs, t, hcontent, _, fuel, c, gap, rest, hgap, hc, hfuel => by
    rw [WritesContent] at hcontent
    obtain ⟨fuel, c₁, hc₁, hfuel, hread⟩ := readsText hcontent fuel c _ hc hfuel
    obtain ⟨fuel, rfl⟩ := Nat.exists_eq_add_one_of_ne_zero (Nat.ne_zero_of_lt hfuel)
    obtain ⟨c', hclosing, hc'⟩ := readClosing_ok hname hgap hc₁
    refine ⟨[], c', ?_, rfl, hc'⟩
    have hat : c₁.at? ['<', '/'] = true := by rw [Cursor.at?, hc₁]; rfl
    rw [hread, readContentFrom, hc₁]
    dsimp only
    rw [if_pos hat, hclosing]
    show Except.ok (cs ++ [], [], c') = _
    rw [List.append_nil]
  | e :: es, cs, t, hcontent, hchildren, fuel, c, gap, rest, hgap, hc, hfuel => by
    rw [WritesContent] at hcontent
    obtain ⟨before, after, first, text, last, hbefore, he, hrest, rfl, rfl⟩ := hcontent
    rw [List.append_assoc] at hc
    obtain ⟨fuel, c₁, hc₁, hfuel, hread⟩ := readsText hbefore fuel c _ hc hfuel
    obtain ⟨fuel, rfl⟩ := Nat.exists_eq_add_one_of_ne_zero (Nat.ne_zero_of_lt hfuel)
    rw [List.append_assoc] at hc₁
    obtain ⟨e', c₂, he', hc₂, hchild⟩ := readContentFrom_child he
      (hchildren e List.mem_cons_self text he) hc₁ fuel
    have hshorter : c₂.rest.length < c₁.rest.length := by
      obtain ⟨d, tail, rfl, -⟩ := he.head
      rw [hc₂, hc₁]
      simp only [List.length_append, List.length_cons]
      omega
    obtain ⟨es', c', hcontent, hes', hc'⟩ := readContentFrom_ok opened hname es hrest
      (fun x hx => hchildren x (List.mem_cons_of_mem _ hx)) fuel hgap hc₂ (by omega)
    refine ⟨e' :: es', c', ?_, ?_, hc'⟩
    · rw [hread, hchild, hcontent]
      rfl
    · rw [Element.unplacedAll, Element.unplacedAll, he', hes']

end

/-! ## Elements and documents -/

/-- An element is read if its children are. -/
theorem readElementWith_ok {child : Cursor → Except Failure (Element × Cursor)} {e : Element}
    {t : List Char} (he : e.Writes t)
    (hchildren : ∀ d ∈ e.children, ∀ u, d.Writes u → ReadsElement child d u) :
    ReadsElement (readElementWith child) e t := by
  obtain ⟨name, attributes, text, children, position⟩ := e
  intro c rest hc
  rw [Element.Writes] at he
  obtain ⟨hname, tags, gap, ending, htags, hgap, hending, rfl⟩ := he
  have hhead : c.rest.head? = some '<' := by rw [hc]; rfl
  have hstep : c.step.rest = name.toList ++ (tags ++ (gap ++ (ending ++ rest))) := by
    rw [Cursor.step_rest, hc]
    simp only [List.cons_append, List.append_assoc, List.tail_cons]
  rcases hending with ⟨rfl, rfl, rfl⟩ | ⟨body, behind, hbody, hbehind, rfl⟩
  · obtain ⟨c₁, c₂, hread, hattributes, hc₂⟩ := readTag_ok hname htags hgap .empty c hstep
    refine ⟨⟨name, attributes, "", [], c.position⟩, c₂, ?_, rfl, hc₂⟩
    rw [readElementWith, if_neg (not_not.mpr hhead), hread]
    dsimp only [bind, Except.bind]
    rw [hattributes]
  · have hinner : '>' :: (body ++ '<' :: '/' :: (name.toList ++ (behind ++ ['>']))) ++ rest =
        TagEnd.open.text ++ (body ++ '<' :: '/' :: (name.toList ++ (behind ++ '>' :: rest))) := by
      simp only [TagEnd.text, List.cons_append, List.append_assoc, List.nil_append]
    rw [hinner] at hstep
    obtain ⟨c₁, c₂, hread, hattributes, hc₂⟩ := readTag_ok hname htags hgap .open c hstep
    obtain ⟨children', c₃, hcontent, hchildren', hc₃⟩ := readContentFrom_ok c hname
      children hbody hchildren (c₂.rest.length + 1) hbehind hc₂ (Nat.lt_succ_self _)
    refine ⟨⟨name, attributes, text, children', c.position⟩, c₃, ?_, ?_, hc₃⟩
    · rw [readElementWith, if_neg (not_not.mpr hhead), hread]
      dsimp only [bind, Except.bind]
      rw [hattributes]
      dsimp only
      rw [hcontent]
      dsimp only
      rw [String.ofList_toList]
    · rw [Element.unplaced, Element.unplaced, hchildren']

/-- Every text of an element is read as the element where there are levels for it. -/
theorem readElement_ok (depth : Nat) : ∀ {e : Element} {t : List Char}, e.levels ≤ depth + 1 →
    e.Writes t → ReadsElement (readElement depth) e t := by
  have hlevels : ∀ {e : Element} {depth : Nat}, e.levels ≤ depth + 1 →
      ∀ child ∈ e.children, child.levels ≤ depth := by
    intro e depth h
    rw [Element.levels_eq] at h
    exact Element.levelsOf_le_iff.mp (Nat.le_of_succ_le_succ h)
  induction depth with
  | zero =>
    intro e t h he
    refine readElementWith_ok he fun child hchild => ?_
    have hnone := hlevels h child hchild
    rw [Element.levels_eq] at hnone
    exact absurd hnone (Nat.not_succ_le_zero _)
  | succ depth ih =>
    intro e t h he
    exact readElementWith_ok he fun child hchild u hu => ih (hlevels h child hchild) hu

/-- What may stand behind what is around a root: nothing, or a tag. -/
def EndsOuter (rest : List Char) : Prop :=
  rest = [] ∨ ∃ d tail, rest = '<' :: d :: tail ∧ isNameChar d = true

theorem outerSection?_eq_none {c : Cursor} (h : EndsOuter c.rest) : outerSection? c = none := by
  rw [outerSection?, Cursor.at?, Cursor.at?, Cursor.at?]
  rcases h with hnil | ⟨d, tail, hcons, hd⟩
  · rw [hnil]
    rfl
  · have hinstruction : ('?' == d) = false :=
      beq_false_of_ne (ne_of_isNameChar hd (by decide)).symm
    have hmark : ('!' == d) = false := beq_false_of_ne (ne_of_isNameChar hd (by decide)).symm
    rw [hcons]
    simp only [List.isPrefixOf, hinstruction, hmark, Bool.false_and, Bool.and_false,
      Bool.false_eq_true, if_false]

/-- A section around a root is passed over. -/
theorem skipOuterFrom_section {part : Section} {mark body rest : List Char} {c : Cursor}
    (hsection : outerSection? c = some (part, mark)) (hblank : c.skipBlanks = c)
    (hread : ∃ c', readSection part mark c = .ok (body, c') ∧ c'.rest = rest) (fuel : Nat) :
    ∃ c', c'.rest = rest ∧ skipOuterFrom (fuel + 1) c = skipOuterFrom fuel c' := by
  obtain ⟨c', hread, hc'⟩ := hread
  refine ⟨c', hc', ?_⟩
  rw [skipOuterFrom, hblank, hsection]
  dsimp only
  rw [hread]

/-- What stands around a root is passed over. -/
theorem skipOuterFrom_ok {t : List Char} (h : WritesOuter t) :
    ∀ (fuel : Nat) {c : Cursor} {rest : List Char}, EndsOuter rest → c.rest = t ++ rest →
      c.rest.length < fuel → ∃ c', skipOuterFrom fuel c = .ok c' ∧ c'.rest = rest := by
  have hbracket : ∀ {c : Cursor} {tail : List Char}, c.rest = '<' :: tail → c.skipBlanks = c := by
    rintro ⟨cs, p⟩ tail hc
    obtain rfl : cs = '<' :: tail := hc
    rw [Cursor.skipBlanks, List.takeWhile_cons_of_neg (by decide)]
    rfl
  induction h with
  | nil =>
    intro fuel c rest hrest hc hfuel
    obtain ⟨fuel, rfl⟩ := Nat.exists_eq_add_one_of_ne_zero (Nat.ne_zero_of_lt hfuel)
    have hskip : c.skipBlanks.rest = rest := by
      refine Cursor.skipBlanks_rest isBlanks_nil ?_ hc
      rcases hrest with rfl | ⟨d, tail, rfl, -⟩
      · exact nofun
      · rintro e ⟨⟩
        decide
    refine ⟨c.skipBlanks, ?_, hskip⟩
    rw [skipOuterFrom, outerSection?_eq_none (hskip ▸ hrest)]
  | @blank d ts blank _ ih =>
    intro fuel c rest hrest hc hfuel
    obtain ⟨fuel, rfl⟩ := Nat.exists_eq_add_one_of_ne_zero (Nat.ne_zero_of_lt hfuel)
    have hstep : c.step.rest = ts ++ rest := by rw [Cursor.step_rest, hc]; rfl
    obtain ⟨c', hread, hc'⟩ := ih (fuel + 1) hrest hstep (by
      rw [hstep]
      rw [hc, List.cons_append, List.length_cons] at hfuel
      omega)
    refine ⟨c', ?_, hc'⟩
    rw [skipOuterFrom, Cursor.skipBlanks_step blank hc, ← skipOuterFrom]
    exact hread
  | @comment body ts closed _ ih =>
    intro fuel c rest hrest hc hfuel
    obtain ⟨fuel, rfl⟩ := Nat.exists_eq_add_one_of_ne_zero (Nat.ne_zero_of_lt hfuel)
    rw [List.append_assoc, List.append_assoc, List.append_assoc] at hc
    have hsection : outerSection? c = some (.comment, ['-', '-', '>']) := by
      rw [outerSection?, Cursor.at?, Cursor.at?, hc]
      rfl
    obtain ⟨c₁, hc₁, hskip⟩ := skipOuterFrom_section hsection (hbracket hc)
      (readComment_ok closed hc) fuel
    obtain ⟨c', hread, hc'⟩ := ih fuel hrest hc₁ (by
      rw [hc₁]
      rw [hc] at hfuel
      simp only [List.length_append, List.length_cons] at hfuel ⊢
      omega)
    exact ⟨c', hskip.trans hread, hc'⟩
  | @instruction body ts closed _ ih =>
    intro fuel c rest hrest hc hfuel
    obtain ⟨fuel, rfl⟩ := Nat.exists_eq_add_one_of_ne_zero (Nat.ne_zero_of_lt hfuel)
    have hsplit : c.rest = (['<', '?'] ++ body) ++ (['?'] ++ ['>'] ++ (ts ++ rest)) := by
      rw [hc]
      simp only [List.append_assoc, List.cons_append, List.nil_append]
    have hsection : outerSection? c = some (.instruction, ['?', '>']) := by
      rw [outerSection?, Cursor.at?, hc]
      rfl
    obtain ⟨c₁, hc₁, hskip⟩ := skipOuterFrom_section hsection (hbracket hc)
      (readSection_ok .instruction (by decide) closed hsplit) fuel
    obtain ⟨c', hread, hc'⟩ := ih fuel hrest hc₁ (by
      rw [hc₁]
      rw [hc, List.append_assoc, List.append_assoc, List.append_assoc] at hfuel
      simp only [List.length_append, List.length_cons] at hfuel ⊢
      omega)
    exact ⟨c', hskip.trans hread, hc'⟩

/-- Every text of a document is read as its root where there are levels for it. -/
theorem readDocument_ok {root : Element} {text : String} (h : root.levels ≤ maxDepth + 1)
    (htext : WritesDocument root text) :
    ∃ root', readDocument text = .ok root' ∧ root'.unplaced = root.unplaced := by
  obtain ⟨before, t, after, hbefore, hroot, hafter, hsplit⟩ := htext
  obtain ⟨d, tail, rfl, hd⟩ := hroot.head
  obtain ⟨c₁, hskip, hc₁⟩ := skipOuterFrom_ok hbefore _ (c := Cursor.start text.toList)
    (.inr ⟨d, tail ++ after, rfl, hd⟩) hsplit (Nat.lt_succ_self _)
  obtain ⟨root', c₂, hread, hroot', hc₂⟩ := readElement_ok maxDepth h hroot c₁ after hc₁
  obtain ⟨c₃, hskip', hc₃⟩ := skipOuterFrom_ok hafter (c₂.rest.length + 1) (c := c₂) (.inl rfl)
    (by rw [hc₂, List.append_nil]) (Nat.lt_succ_self _)
  refine ⟨root', ?_, hroot'⟩
  have hne : c₁.rest ≠ [] := by rw [hc₁]; exact List.cons_ne_nil _ _
  rw [readDocument, skipOuter, hskip]
  dsimp only [bind, Except.bind]
  rw [if_neg hne, hread]
  dsimp only
  rw [skipOuter, hskip']
  exact if_pos hc₃

/-- Nothing that may stand outside elements starts without a bracket. -/
theorem outerSection?_of_head {c : Cursor} (h : c.rest.head? ≠ some '<') :
    outerSection? c = none := by
  have hmark : ∀ mark, c.at? ('<' :: mark) = false := by
    intro mark
    cases hc : c.rest with
    | nil =>
      rw [Cursor.at?, hc]
      rfl
    | cons d rest =>
      rw [hc] at h
      exact at?_eq_false hc fun heq => h (congrArg some heq)
  simp [outerSection?, hmark]

theorem readElement_of_head {c : Cursor} (h : c.rest.head? ≠ some '<') (depth : Nat) :
    readElement depth c = c.stop .expectedOpening := by
  cases depth <;> rw [readElement, readElementWith, if_pos h]

/-- Behind its blanks, a document that is read starts with a bracket. -/
theorem head_of_readDocument {text : String} {root : Element}
    (h : readDocument text = .ok root) : (Text.trimStart text.toList).head? = some '<' := by
  by_contra hhead
  rw [← show (Cursor.start text.toList).rest = text.toList from rfl,
    ← Cursor.skipBlanks_trimStart] at hhead
  have houter : skipOuter (Cursor.start text.toList) =
      .ok (Cursor.start text.toList).skipBlanks := by
    simp only [skipOuter, skipOuterFrom, outerSection?_of_head hhead]
  simp only [readDocument, houter, bind, Except.bind, readElement_of_head hhead] at h
  split at h
  · cases h
  · cases h

end ControlSurface.Xml
