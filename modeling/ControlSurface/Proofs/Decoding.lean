import ControlSurface.Proofs.MarkupReading
import Mathlib.Data.Nat.Digits.Defs

/- The reader of XML documents decodes its grammar.

   What is proved:
     1. `Denotes.isEntity`: the entities with a name and the characters by number, in tens or in
        sixteens, are entities as long as they have ten bytes at most.
     2. `isComment_iff`: a comment may hold anything without the end mark in it that does not
        start with the rest of an end mark.
     3. `readElement_tooDeep`: on a text of an element with more levels than may be read, the
        reader stops at a level that is too deep. Children before the one that is too deep are
        read as they are on any other text, so they do not count.
     4. `readDocument_decodes`: a text of a document is read if and only if the root has at most
        129 levels, and then as the root. -/
namespace ControlSurface.Xml

/-! ## Entities -/

/-- The digits up to sixteen with their values. -/
def digits : List (Char × Nat) :=
  [('0', 0), ('1', 1), ('2', 2), ('3', 3), ('4', 4), ('5', 5), ('6', 6), ('7', 7), ('8', 8),
   ('9', 9), ('a', 10), ('b', 11), ('c', 12), ('d', 13), ('e', 14), ('f', 15), ('A', 10),
   ('B', 11), ('C', 12), ('D', 13), ('E', 14), ('F', 15)]

/-- Digits that spell a number in a base, the first digit counting most. -/
def Spells (base : Nat) (ds : List Char) (n : Nat) : Prop :=
  ds ≠ [] ∧ ∃ values, List.Forall₂ (fun d v => (d, v) ∈ digits ∧ v < base) ds values ∧
    n = Nat.ofDigits base values.reverse

/-- The character that the name of an entity denotes: one of five with a name, or the character
    with a number. -/
inductive Denotes : List Char → Char → Prop
  | amp : Denotes ['a', 'm', 'p'] '&'
  | lt : Denotes ['l', 't'] '<'
  | gt : Denotes ['g', 't'] '>'
  | quot : Denotes ['q', 'u', 'o', 't'] '\x22'
  | apos : Denotes ['a', 'p', 'o', 's'] '\x27'
  | decimal {ds : List Char} {c : Char} (spells : Spells 10 ds c.toNat) : Denotes ('#' :: ds) c
  | hexadecimal {ds : List Char} {c : Char} (spells : Spells 16 ds c.toNat) :
      Denotes ('#' :: 'x' :: ds) c

theorem Spells.ne {base : Nat} {ds : List Char} {n : Nat} (h : Spells base ds n) {m : Char}
    (hm : (digits.all (·.1 != m)) = true) : ∀ d ∈ ds, d ≠ m := by
  obtain ⟨-, values, hvalues, -⟩ := h
  intro d hd
  induction hvalues with
  | nil => cases hd
  | cons hdigit _ ih =>
    rcases List.mem_cons.mp hd with rfl | hd
    · simpa using List.all_eq_true.mp hm _ hdigit.1
    · exact ih hd

/-- A fold that takes one digit after the other comes to what the digits are worth. -/
theorem foldl_digits {base : Nat} {step : Option Nat → Char → Option Nat}
    (hstep : ∀ n d v, (d, v) ∈ digits → v < base → step (some n) d = some (base * n + v))
    {ds : List Char} {values : List Nat}
    (h : List.Forall₂ (fun d v => (d, v) ∈ digits ∧ v < base) ds values) (n : Nat) :
    ds.foldl step (some n) = some (values.foldl (fun n v => base * n + v) n) := by
  induction h generalizing n with
  | nil => rfl
  | cons hdigit _ ih =>
    rw [List.foldl_cons, hstep n _ _ hdigit.1 hdigit.2, ih, List.foldl_cons]

/-- Digits that spell a number are read as the number. -/
theorem readNatural_spells {base bound : Nat} {ds : List Char} {n : Nat} (h : Spells base ds n)
    (hn : n < bound) : Decimal.readNatural base bound ds = some n := by
  have hplus := h.ne (m := '+') (by decide)
  obtain ⟨hne, values, hvalues, rfl⟩ := h
  have hworth : values.foldl (fun n v => base * n + v) 0 = Nat.ofDigits base values.reverse := by
    rw [Nat.ofDigits_eq_foldr, List.foldr_reverse]
    simp only [Nat.cast_id, Nat.add_comm]
  unfold Decimal.readNatural
  extract_lets body value step
  have hbody : body = ds := by
    unfold body
    split
    · exact absurd rfl (hplus '+' List.mem_cons_self)
    · rfl
  have hvalue : ∀ p ∈ digits, value p.1 = some p.2 := by decide
  have hstep : ∀ m d v, (d, v) ∈ digits → v < base → step (some m) d = some (base * m + v) := by
    intro m d v hd hv
    show (value d).bind (fun d => if d < base then some (base * m + d) else none) = _
    rw [hvalue _ hd, Option.bind_some, if_pos hv]
  rw [if_neg (hbody ▸ hne), hbody, foldl_digits hstep hvalues, hworth]
  simpa using hn

/-- The character with the number of a character is the character. -/
theorem charOf?_toNat (c : Char) : charOf? c.toNat = some c := by
  have hvalid : c.toNat.isValidChar := c.valid
  rw [charOf?, dif_pos hvalid]
  rfl

theorem toNat_lt (c : Char) : c.toNat < Nat.pow 2 32 := c.val.toNat_lt

/-- What denotes a character is read as the character. -/
theorem Denotes.char {name : List Char} {c : Char} (h : Denotes name c) :
    entityChar? name = some c := by
  cases h with
  | amp => rfl
  | lt => rfl
  | gt => rfl
  | quot => rfl
  | apos => rfl
  | @hexadecimal ds _ spells =>
    have hname : namedEntities.lookup ('#' :: 'x' :: ds) = none := rfl
    unfold entityChar?
    rw [hname]
    show (Decimal.readNatural 16 (Nat.pow 2 32) ds).bind charOf? = some c
    rw [readNatural_spells spells (toNat_lt c), Option.bind_some, charOf?_toNat]
  | @decimal ds _ spells =>
    have hname : namedEntities.lookup ('#' :: ds) = none := rfl
    have hx := spells.ne (m := 'x') (by decide)
    unfold entityChar?
    rw [hname]
    dsimp only
    split
    · next heq =>
      cases heq
      exact absurd rfl (hx 'x' List.mem_cons_self)
    · next heq =>
      cases heq
      rw [readNatural_spells spells (toNat_lt c), Option.bind_some, charOf?_toNat]
    · next hnone => exact absurd rfl (hnone ds)

/-- No semicolon stands in what denotes a character. -/
theorem Denotes.plain {name : List Char} {c : Char} (h : Denotes name c) : ';' ∉ name := by
  have hdigits : ∀ {base : Nat} {ds : List Char} {n : Nat}, Spells base ds n → ';' ∉ ds :=
    fun spells hmem => spells.ne (m := ';') (by decide) _ hmem rfl
  cases h with
  | amp => decide
  | lt => decide
  | gt => decide
  | quot => decide
  | apos => decide
  | decimal spells => simpa using hdigits spells
  | hexadecimal spells => simpa using hdigits spells

theorem Denotes.isEntity {name : List Char} {c : Char} (h : Denotes name c)
    (short : byteCount name ≤ 10) : IsEntity name c := ⟨h.char, short, h.plain⟩

/-! ## Comments -/

/-- A comment starts with no end of the end mark, and does not hold the mark. -/
theorem isComment_iff (body : List Char) :
    IsComment body ↔
      ¬['-', '-', '>'] <:+: body ∧ ¬['>'] <+: body ∧ ¬['-', '>'] <+: body := by
  simp only [IsComment, List.cons_append, List.nil_append, List.infix_cons_iff,
    List.cons_prefix_cons]
  simp [and_comm, and_assoc]

/-! ## Levels that are too deep -/

/-- A reader of elements that stops on a text, whatever follows, because of its levels. -/
def StopsTooDeep (read : Cursor → Except Failure (Element × Cursor)) (t : List Char) : Prop :=
  ∀ c rest, c.rest = t ++ rest → ∃ p, read c = .error ⟨.tooDeep, p⟩

section
variable {child : Cursor → Except Failure (Element × Cursor)} {n : Nat}

/-- Content is not read past the first child that has too many levels. -/
theorem readContentFrom_tooDeep (name : String) (opened : Cursor) (es : List Element)
    {cs t : List Char} (hcontent : WritesContent es cs t)
    (hread : ∀ e ∈ es, e.levels ≤ n → ∀ u, e.Writes u → ReadsElement child e u)
    (hstop : ∀ e ∈ es, n < e.levels → ∀ u, e.Writes u → StopsTooDeep child u)
    (hdeep : n < Element.levelsOf es) (fuel : Nat) {c : Cursor} {rest : List Char}
    (hc : c.rest = t ++ rest) (hfuel : c.rest.length < fuel) :
    ∃ p, readContentFrom child name opened fuel c = .error ⟨.tooDeep, p⟩ := by
  induction es generalizing cs t fuel c rest with
  | nil => exact absurd hdeep (Nat.not_lt_zero n)
  | cons e es ih =>
    rw [WritesContent] at hcontent
    obtain ⟨before, after, first, text, last, hbefore, he, hlast, rfl, rfl⟩ := hcontent
    rw [List.append_assoc] at hc
    obtain ⟨fuel, c₁, hc₁, hfuel, htext⟩ := readsText hbefore fuel c _ hc hfuel
    obtain ⟨fuel, rfl⟩ := Nat.exists_eq_add_one_of_ne_zero (Nat.ne_zero_of_lt hfuel)
    rw [List.append_assoc] at hc₁
    by_cases hlevels : e.levels ≤ n
    · -- This child is read, and a later one has too many levels.
      obtain ⟨e', c₂, -, hc₂, hchild⟩ := @readContentFrom_child child name opened e text _ he
        (hread e List.mem_cons_self hlevels text he) c₁ hc₁ fuel
      have hshorter : c₂.rest.length < c₁.rest.length := by
        obtain ⟨d, tail, rfl, -⟩ := he.head
        rw [hc₂, hc₁]
        simp
        omega
      have hlater : n < Element.levelsOf es := by
        rw [Element.levelsOf] at hdeep
        omega
      obtain ⟨p, hp⟩ := ih hlast (fun x hx => hread x (List.mem_cons_of_mem _ hx))
        (fun x hx => hstop x (List.mem_cons_of_mem _ hx)) hlater fuel hc₂ (by omega)
      refine ⟨p, ?_⟩
      rw [htext, hchild, hp]
      rfl
    · obtain ⟨p, hp⟩ := hstop e List.mem_cons_self (by omega) text he c₁ _ hc₁
      obtain ⟨d, tail, rfl, hd⟩ := he.head
      refine ⟨p, ?_⟩
      rw [htext, readContentFrom_tag hd hc₁, hp]
      rfl

/-- An element with too many levels is not read if its children are read as far as they have
    few. -/
theorem readElementWith_tooDeep {e : Element} {t : List Char} (he : e.Writes t)
    (hread : ∀ d ∈ e.children, d.levels ≤ n → ∀ u, d.Writes u → ReadsElement child d u)
    (hstop : ∀ d ∈ e.children, n < d.levels → ∀ u, d.Writes u → StopsTooDeep child u)
    (hdeep : n + 1 < e.levels) : StopsTooDeep (readElementWith child) t := by
  obtain ⟨name, attributes, text, children, position⟩ := e
  intro c rest hc
  rw [Element.levels] at hdeep
  rw [Element.Writes] at he
  obtain ⟨hname, tags, gap, ending, htags, hgap, hending, rfl⟩ := he
  rcases hending with ⟨rfl, rfl, rfl⟩ | ⟨body, behind, hbody, -, rfl⟩
  · rw [Element.levelsOf] at hdeep
    omega
  · have hhead : c.rest.head? = some '<' := by rw [hc]; rfl
    have hstep : c.step.rest = name.toList ++ (tags ++ (gap ++ (TagEnd.open.text ++
        (body ++ ('<' :: '/' :: (name.toList ++ (behind ++ ['>'])) ++ rest))))) := by
      rw [Cursor.step_rest, hc]
      simp [TagEnd.text]
    obtain ⟨c₁, c₂, htag, hattributes, hc₂⟩ := readTag_ok hname htags hgap .open c hstep
    obtain ⟨p, hp⟩ := readContentFrom_tooDeep name c children hbody hread hstop (by omega)
      (c₂.rest.length + 1) hc₂ (Nat.lt_succ_self _)
    refine ⟨p, ?_⟩
    rw [readElementWith, if_neg (not_not.mpr hhead), htag]
    dsimp only [bind, Except.bind]
    rw [hattributes]
    dsimp only
    rw [hp]

end

/-- No text of an element with more levels than may be read is read. -/
theorem readElement_tooDeep (depth : Nat) {e : Element} {t : List Char}
    (hdeep : depth + 1 < e.levels) (he : e.Writes t) : StopsTooDeep (readElement depth) t := by
  induction depth generalizing e t with
  | zero =>
    refine readElementWith_tooDeep (n := 0) he ?_ ?_ hdeep
    · intro d _ hlevels
      rw [Element.levels_eq] at hlevels
      exact absurd hlevels (Nat.not_succ_le_zero _)
    · exact fun _ _ _ _ _ c _ _ => ⟨c.position, rfl⟩
  | succ depth ih =>
    exact readElementWith_tooDeep he (fun d _ hlevels u hu => readElement_ok depth hlevels hu)
      (fun d _ hlevels u hu => ih hlevels hu) hdeep

/-- No text of a document whose root has too many levels is read. -/
theorem readDocument_tooDeep {root : Element} {text : String} (h : maxDepth + 1 < root.levels)
    (htext : WritesDocument root text) : ∃ p, readDocument text = .error ⟨.tooDeep, p⟩ := by
  obtain ⟨before, t, after, hbefore, hroot, -, hsplit⟩ := htext
  have hstop := readElement_tooDeep maxDepth h hroot
  obtain ⟨d, tail, rfl, hd⟩ := hroot.head
  obtain ⟨c₁, hskip, hc₁⟩ := skipOuterFrom_ok hbefore _ (c := Cursor.start text.toList)
    (.inr ⟨d, tail ++ after, rfl, hd⟩) hsplit (Nat.lt_succ_self _)
  obtain ⟨p, hp⟩ := hstop c₁ after hc₁
  have hne : c₁.rest ≠ [] := by rw [hc₁]; exact List.cons_ne_nil _ _
  refine ⟨p, ?_⟩
  rw [readDocument, skipOuter, hskip]
  dsimp only [bind, Except.bind]
  rw [if_neg hne, hp]

/-! ## The grammar -/

/-- Every text of a document, with entities that denote characters and with comments as they are,
    is read if and only if the root has at most 129 levels. It is then read as the root, but for
    positions. A root with more levels is too deep. -/
theorem readDocument_decodes {root : Element} {text : String} (h : WritesDocument root text) :
    (∀ name c, Denotes name c → byteCount name ≤ 10 → IsEntity name c) ∧
      (∀ body, IsComment body ↔
        ¬['-', '-', '>'] <:+: body ∧ ¬['>'] <+: body ∧ ¬['-', '>'] <+: body) ∧
      ((∃ e, readDocument text = .ok e) ↔ root.levels ≤ 129) ∧
      (∀ e, readDocument text = .ok e → e.unplaced = root.unplaced) ∧
      (129 < root.levels → ∃ p, readDocument text = .error ⟨.tooDeep, p⟩) := by
  have hok : root.levels ≤ 129 →
      ∃ e, readDocument text = .ok e ∧ e.unplaced = root.unplaced := fun hlevels =>
    readDocument_ok hlevels h
  have herror : 129 < root.levels → ∃ p, readDocument text = .error ⟨.tooDeep, p⟩ :=
    fun hdeep => readDocument_tooDeep hdeep h
  have hlevels : ∀ {e}, readDocument text = .ok e → root.levels ≤ 129 := by
    intro e he
    by_contra hdeep
    obtain ⟨p, hp⟩ := herror (by omega)
    rw [hp] at he
    cases he
  refine ⟨fun _ _ => Denotes.isEntity, isComment_iff, ⟨?_, ?_⟩, ?_, herror⟩
  · rintro ⟨e, he⟩
    exact hlevels he
  · intro hfew
    obtain ⟨e, he, -⟩ := hok hfew
    exact ⟨e, he⟩
  · intro e he
    obtain ⟨e', he', hroot⟩ := hok (hlevels he)
    rw [he] at he'
    cases he'
    exact hroot

/-- Groups in one another, so many below the outermost. -/
def nestedGroups : Nat → Element
  | 0 => ⟨"group", [], "", [], Text.Position.start⟩
  | n + 1 => ⟨"group", [], "", [nestedGroups n], Text.Position.start⟩

theorem levels_nestedGroups (n : Nat) : (nestedGroups n).levels = n + 1 := by
  induction n with
  | zero => rfl
  | succ n ih => simp [nestedGroups, Element.levels, Element.levelsOf, ih]

theorem isNamed_nestedGroups (n : Nat) : (nestedGroups n).isNamed = true := by
  have hname : isName "group" = true := by decide +kernel
  induction n with
  | zero => simp [nestedGroups, Element.isNamed, Element.areNamed, hname]
  | succ n ih => simp [nestedGroups, Element.isNamed, Element.areNamed, hname, ih]

/-- An element with text around a child. -/
def mixedElement : Element :=
  ⟨"a", [("t", "\x22&")], "1<2Aé<b>", [⟨"c", [], "", [], Text.Position.start⟩],
    Text.Position.start⟩

/-- A text of the element with all kinds of pieces. -/
def mixedText : String :=
  "<!-- x --> <a t='\x22&amp;'>1&lt;2&#65;<c/>&#xe9;<!-- - --><![CDATA[<b>]]></a>"

theorem writes_mixedText : WritesDocument mixedElement mixedText := by
  have hname : ∀ n ∈ ["a", "c", "t"], IsName n := by
    intro n hn
    rw [← isName_iff]
    revert n
    decide +kernel
  have hspace : IsBlanks [' '] := List.forall_mem_singleton.mpr rfl
  have hcode : Denotes ['#', '6', '5'] 'A' :=
    .decimal ⟨by decide, [6, 5], .cons (by decide) (.cons (by decide) .nil), by decide⟩
  have hcode' : Denotes ['#', 'x', 'e', '9'] 'é' :=
    .hexadecimal ⟨by decide, [14, 9], .cons (by decide) (.cons (by decide) .nil), by decide⟩
  have hcomment : ∀ body ∈ [[' ', 'x', ' '], [' ', '-', ' ']], IsComment body := by
    simp only [isComment_iff]
    decide
  have htags : WritesAttributes [("t", "\x22&")]
      ([' '] ++ ("t".toList ++ ([] ++ '=' :: ([] ++ '\x27' ::
        (['\x22', '&', 'a', 'm', 'p', ';'] ++ '\x27' :: []))))) :=
    .cons (List.cons_ne_nil _ _) hspace (hname _ (by decide)) isBlanks_nil isBlanks_nil (.inr rfl)
      (.plain (by decide) (by decide) (.entity isEntity_amp .nil)) .nil
  have hbefore : WritesText ['1', '<', '2', 'A']
      ['1', '&', 'l', 't', ';', '2', '&', '#', '6', '5', ';'] :=
    .plain (by decide) (by decide) (.entity isEntity_lt
      (.plain (by decide) (by decide) (.entity (hcode.isEntity (by decide)) .nil)))
  have hchild : Element.Writes ⟨"c", [], "", [], Text.Position.start⟩
      ('<' :: ("c".toList ++ ([] ++ ([] ++ ['/', '>'])))) := by
    rw [Element.Writes]
    exact ⟨hname _ (by decide), [], [], ['/', '>'], .nil, isBlanks_nil, .inl ⟨rfl, rfl, rfl⟩, rfl⟩
  have hdata : WritesText (['<', 'b', '>'] ++ [])
      (['<', '!', '[', 'C', 'D', 'A', 'T', 'A', '['] ++ (['<', 'b', '>'] ++
        ([']', ']', '>'] ++ []))) := .verbatim (by decide) .nil
  have hafter : WritesText ['é', '<', 'b', '>'] ('&' :: (['#', 'x', 'e', '9'] ++ ';' ::
      (['<', '!', '-', '-'] ++ ([' ', '-', ' '] ++ (['-', '-', '>'] ++
        (['<', '!', '[', 'C', 'D', 'A', 'T', 'A', '['] ++ (['<', 'b', '>'] ++
          ([']', ']', '>'] ++ [])))))))) :=
    .entity (hcode'.isEntity (by decide)) (.comment (hcomment _ (by decide)) hdata)
  have hcontent := (show WritesContent [⟨"c", [], "", [], Text.Position.start⟩]
      ['1', '<', '2', 'A', 'é', '<', 'b', '>'] _ from
    ⟨_, _, _, _, _, hbefore, hchild, hafter, rfl, rfl⟩)
  have helement := (show mixedElement.Writes _ from
    ⟨hname _ (by decide), _, [], _, htags, isBlanks_nil,
      .inr ⟨_, [], hcontent, isBlanks_nil, rfl⟩, rfl⟩)
  exact ⟨['<', '!', '-', '-'] ++ ([' ', 'x', ' '] ++ (['-', '-', '>'] ++ [' '])), _, [],
    .comment (hcomment _ (by decide)) (.blank (by decide) .nil), helement, .nil, by decide +kernel⟩

/-- The text with all kinds of pieces is read, and 130 groups in one another are not. -/
theorem readDocument_decodes_mixed :
    WritesDocument mixedElement mixedText ∧
      (∃ e, readDocument mixedText = .ok e ∧ e.unplaced = mixedElement.unplaced) ∧
      WritesDocument (nestedGroups 129) (String.ofList (nestedGroups 129).compact) ∧
      ∃ p, readDocument (String.ofList (nestedGroups 129).compact) = .error ⟨.tooDeep, p⟩ := by
  have hmixed := writes_mixedText
  have hnested := writesDocument_compact (isNamed_nestedGroups 129)
  obtain ⟨-, -, hiff, hroot, -⟩ := readDocument_decodes hmixed
  obtain ⟨-, -, -, -, hdeep⟩ := readDocument_decodes hnested
  obtain ⟨e, he⟩ := hiff.mpr (by decide)
  refine ⟨hmixed, ⟨e, he, hroot e he⟩, hnested, hdeep ?_⟩
  rw [levels_nestedGroups]
  decide

end ControlSurface.Xml
