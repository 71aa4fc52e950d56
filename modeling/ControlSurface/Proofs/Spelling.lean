import ControlSurface.Json.Reader
import Mathlib.Data.List.Forall2
import Mathlib.Data.List.TakeWhile

/- Spellings of JSON values. A value of strings, lists and objects has many texts: there may be
   blanks before each token, and each character of a string may stand for itself or behind a
   backslash (`Value.Spells`). A reader reads a value if on every spelling of it, whatever
   follows, it gives the same answer and stops right behind the spelling (`ReadsAs`). Readers of
   strings, lists and members do so if the readers of their parts do. The compact text of a
   value is one of its spellings (`Value.spells_compact`). -/
namespace ControlSurface.Json

/-- Blanks between tokens. -/
def IsGap (gap : List Char) : Prop := ∀ c ∈ gap, Cursor.isGap c = true

theorem isGap_nil : IsGap [] := List.forall_mem_nil _

/-- A character of a string: itself, behind a backslash by its letter, or by number, which may
    take two halves. -/
inductive SpellsChar : Char → List Char → Prop
  | plain {c : Char} (quote : c ≠ '\x22') (slash : c ≠ '\\') (control : ¬c < ' ') :
      SpellsChar c [c]
  | letter {d c : Char} (h : Quote.letterEscape? d = some c) : SpellsChar c ['\\', d]
  | number {ds : List Char} {n : Nat} (h : Quote.hex4? ds = some n)
      (leading : Quote.isLeading n = false) (trailing : Quote.isTrailing n = false) :
      SpellsChar (Char.ofNat n) ('\\' :: 'u' :: ds)
  | halves {ds es : List Char} {n m : Nat} (hn : Quote.hex4? ds = some n)
      (leading : Quote.isLeading n = true) (hm : Quote.hex4? es = some m)
      (trailing : Quote.isTrailing m = true) :
      SpellsChar (Char.ofNat ((n - 0xD800) * 0x400 + (m - 0xDC00) + 0x10000))
        ('\\' :: 'u' :: (ds ++ '\\' :: 'u' :: es))

/-- The characters of a string, one after the other. -/
inductive SpellsChars : List Char → List Char → Prop
  | nil : SpellsChars [] []
  | cons {c : Char} {cs t ts : List Char} (head : SpellsChar c t) (rest : SpellsChars cs ts) :
      SpellsChars (c :: cs) (t ++ ts)

/-- A string with its quotes. -/
def SpellsString (s : String) (t : List Char) : Prop :=
  ∃ body, SpellsChars s.toList body ∧ t = '\x22' :: body ++ ['\x22']

/-- What stands before an item or a member: nothing before the first, else a comma. -/
def IsSeparator (first : Bool) (t : List Char) : Prop :=
  if first then t = [] else ∃ gap, IsGap gap ∧ t = gap ++ [',']

mutual

/-- The texts of a value. A value that has other things in it than strings, lists and objects
    has none here. -/
def Value.Spells : Value → List Char → Prop
  | .text s, t => ∃ gap string, IsGap gap ∧ SpellsString s string ∧ t = gap ++ string
  | .list vs, t => ∃ gap body, IsGap gap ∧ SpellsItems true vs body ∧ t = gap ++ '[' :: body
  | .object ms, t =>
    ∃ gap body, IsGap gap ∧ SpellsMembers true ms body ∧ t = gap ++ '\x7b' :: body
  | _, _ => False

/-- The texts of items and of the bracket behind them. -/
def SpellsItems : Bool → List Value → List Char → Prop
  | _, [], t => ∃ gap, IsGap gap ∧ t = gap ++ [']']
  | first, v :: vs, t => ∃ separator item rest, IsSeparator first separator ∧ v.Spells item ∧
      SpellsItems false vs rest ∧ t = separator ++ (item ++ rest)

/-- The texts of members and of the brace behind them. -/
def SpellsMembers : Bool → List (String × Value) → List Char → Prop
  | _, [], t => ∃ gap, IsGap gap ∧ t = gap ++ ['\x7d']
  | first, (key, v) :: ms, t => ∃ separator gap name colon item rest,
      IsSeparator first separator ∧ IsGap gap ∧ SpellsString key name ∧ IsGap colon ∧
      v.Spells item ∧ SpellsMembers false ms rest ∧
      t = separator ++ (gap ++ (name ++ (colon ++ ':' :: (item ++ rest))))

end

/-- The texts of a value alone, which blanks may follow. -/
def SpellsDocument (v : Value) (text : String) : Prop :=
  ∃ t gap, v.Spells t ∧ IsGap gap ∧ text.toList = t ++ gap

/-! ## Cursors -/

namespace Cursor

@[simp] theorem step_rest (c : Cursor) : c.step.rest = c.rest.tail := by
  unfold step
  split
  · next h => rw [h]; rfl
  · next h => rw [h]; rfl
  · next h => rw [h]; rfl

@[simp] theorem skip_rest (n : Nat) (c : Cursor) : (c.skip n).rest = c.rest.drop n := by
  induction n generalizing c with
  | zero => rfl
  | succ n ih => rw [skip, ih, step_rest, List.drop_tail]

/-- The blanks before a token are skipped. -/
theorem skipGaps_rest {c : Cursor} {gap rest : List Char} {d : Char} (hgap : IsGap gap)
    (hd : isGap d = false) (h : c.rest = gap ++ d :: rest) : c.skipGaps.rest = d :: rest := by
  have htake : c.rest.takeWhile isGap = gap := by
    rw [h, List.takeWhile_append_of_pos hgap, List.takeWhile_cons_of_neg (by simp [hd]),
      List.append_nil]
  rw [skipGaps, skip_rest, htake, h, List.drop_left]

/-- Blanks that nothing follows are skipped. -/
theorem skipGaps_rest_nil {c : Cursor} {gap : List Char} (hgap : IsGap gap) (h : c.rest = gap) :
    c.skipGaps.rest = [] := by
  rw [skipGaps, skip_rest, h, List.takeWhile_eq_self_iff.mpr hgap, List.drop_length]

end Cursor

/-! ## Readers -/

/-- A reader that reads a text as a value: wherever the text stands, it gives the value and the
    place behind the text. -/
def Reads {α : Type} (read : Cursor → Except Failure (α × Cursor)) (text : List Char) (a : α) :
    Prop :=
  ∀ c rest, c.rest = text ++ rest → ∃ c', read c = .ok (a, c') ∧ c'.rest = rest

/-- A reader that reads every spelling of a value as something. -/
def ReadsAs {α : Type} (read : Cursor → Except Failure (α × Cursor)) (v : Value) (a : α) : Prop :=
  ∀ text, v.Spells text → Reads read text a

/-- A reader of a member that reads a colon and then every spelling of a value. -/
def ReadsMember {α : Type} (read : Cursor → Except Failure (α × Cursor)) (v : Value) (a : α) :
    Prop :=
  ∀ gap text, IsGap gap → v.Spells text → Reads read (gap ++ ':' :: text) a

/-! ### Strings -/

theorem hex4?_length {ds : List Char} {n : Nat} (h : Quote.hex4? ds = some n) : ds.length = 4 := by
  unfold Quote.hex4? at h
  split at h
  · rfl
  · cases h

theorem readHex_ok {c : Cursor} {ds rest : List Char} {n : Nat} (h : Quote.hex4? ds = some n)
    (hc : c.rest = ds ++ rest) :
    ∃ c', Quote.readHex c = .ok (n, c') ∧ c'.rest = rest := by
  have htake : c.rest.take 4 = ds := by
    rw [hc, ← hex4?_length h, List.take_left]
  refine ⟨c.skip 4, ?_, ?_⟩
  · rw [Quote.readHex, htake, h]
  · rw [Cursor.skip_rest, hc, ← hex4?_length h, List.drop_left]

theorem expect_ok {c : Cursor} {d : Char} {rest : List Char} (hc : c.rest = d :: rest) :
    Quote.expect d c = .ok c.step := by
  rw [Quote.expect, hc]
  exact if_pos rfl

/-- An escape by number is read as one character, from one or two halves. -/
theorem readUnicode_ok {c : Cursor} {e : Char} {t rest : List Char}
    (h : SpellsChar e ('\\' :: 'u' :: t)) (hc : c.rest = t ++ rest) :
    ∃ c', Quote.readUnicode c = .ok (e, c') ∧ c'.rest = rest := by
  cases h with
  | letter h => exact absurd h (by rw [show Quote.letterEscape? 'u' = none from rfl]; exact nofun)
  | number hn leading trailing =>
    obtain ⟨c₁, hread, hc₁⟩ := readHex_ok hn hc
    refine ⟨c₁, ?_, hc₁⟩
    simp only [Quote.readUnicode, hread, bind, Except.bind, leading, trailing, Bool.false_eq_true,
      if_false]
  | @halves ds es n m hn leading hm trailing =>
    rw [List.append_assoc] at hc
    obtain ⟨c₁, hread, hc₁⟩ := readHex_ok hn hc
    have hc₂ : c₁.step.rest = 'u' :: (es ++ rest) := by rw [Cursor.step_rest, hc₁]; rfl
    have hc₃ : c₁.step.step.rest = es ++ rest := by rw [Cursor.step_rest, hc₂]; rfl
    obtain ⟨c₄, hread', hc₄⟩ := readHex_ok hm hc₃
    have hwhole : Quote.isTrailing n = false := by
      simp only [Quote.isLeading, Quote.isTrailing, Bool.and_eq_true, decide_eq_true_eq]
        at leading ⊢
      simp only [Bool.and_eq_false_iff, decide_eq_false_iff_not]
      omega
    refine ⟨c₄, ?_, hc₄⟩
    simp only [Quote.readUnicode, hread, bind, Except.bind, leading, hwhole, expect_ok hc₁,
      expect_ok hc₂, hread', trailing, Bool.false_eq_true, if_false, if_true]

/-- An escape is read as the character that it spells. -/
theorem readEscape_ok {c : Cursor} {e : Char} {t rest : List Char} (h : SpellsChar e ('\\' :: t))
    (hc : c.rest = t ++ rest) : ∃ c', Quote.readEscape c = .ok (e, c') ∧ c'.rest = rest := by
  rw [Quote.readEscape]
  split
  · next hnil =>
    rw [hnil] at hc
    cases h with
    | plain _ slash _ => exact absurd rfl slash
    | letter _ => cases hc
    | number _ _ _ => cases hc
    | halves _ _ _ _ => cases hc
  · next cs hu =>
    rw [hu] at hc
    cases h with
    | plain _ slash _ => exact absurd rfl slash
    | letter h =>
      obtain ⟨rfl, -⟩ := List.cons.inj hc
      exact absurd h (by rw [show Quote.letterEscape? 'u' = none from rfl]; exact nofun)
    | number hn leading trailing =>
      refine readUnicode_ok (.number hn leading trailing) ?_
      rw [Cursor.step_rest, hu]
      exact (List.cons.inj hc).2
    | halves hn leading hm trailing =>
      refine readUnicode_ok (.halves hn leading hm trailing) ?_
      rw [Cursor.step_rest, hu]
      exact (List.cons.inj hc).2
  · next d cs hu hd =>
    rw [hd] at hc
    cases h with
    | plain _ slash _ => exact absurd rfl slash
    | letter h =>
      obtain ⟨rfl, hcs⟩ := List.cons.inj hc
      rw [h]
      refine ⟨_, rfl, ?_⟩
      rw [Cursor.step_rest, hd]
      exact hcs
    | number _ _ _ => exact absurd (List.cons.inj hc).1 hu
    | halves _ _ _ _ => exact absurd (List.cons.inj hc).1 hu

/-- A character stands for itself or behind a backslash. -/
theorem SpellsChar.cases {c : Char} {t : List Char} (h : SpellsChar c t) :
    (t = [c] ∧ c ≠ '\x22' ∧ c ≠ '\\' ∧ ¬c < ' ') ∨ ∃ u, t = '\\' :: u := by
  cases h with
  | plain quote slash control => exact .inl ⟨rfl, quote, slash, control⟩
  | letter _ => exact .inr ⟨_, rfl⟩
  | number _ _ _ => exact .inr ⟨_, rfl⟩
  | halves _ _ _ _ => exact .inr ⟨_, rfl⟩

/-- A string is read up to the quote behind it. -/
theorem readFrom_ok {cs body : List Char} (h : SpellsChars cs body) :
    ∀ (fuel : Nat) (read : List Char) {c : Cursor} {rest : List Char},
      c.rest = body ++ '\x22' :: rest → c.rest.length < fuel →
      ∃ c', Quote.readFrom fuel read c = .ok (String.ofList (read.reverse ++ cs), c') ∧
        c'.rest = rest := by
  induction h with
  | nil =>
    intro fuel read c rest hc hfuel
    obtain ⟨fuel, rfl⟩ := Nat.exists_eq_add_one_of_ne_zero (Nat.ne_zero_of_lt hfuel)
    refine ⟨c.step, ?_, by rw [Cursor.step_rest, hc]; rfl⟩
    rw [Quote.readFrom, hc, List.append_nil]
    exact if_pos rfl
  | @cons e cs t ts head _ ih =>
    intro fuel read c rest hc hfuel
    obtain ⟨fuel, rfl⟩ := Nat.exists_eq_add_one_of_ne_zero (Nat.ne_zero_of_lt hfuel)
    rw [List.append_assoc] at hc
    -- A character goes to those that are read, and the rest is shorter.
    have hgo : ∀ c₁ : Cursor, c₁.rest = ts ++ '\x22' :: rest → c₁.rest.length < c.rest.length →
        ∃ c', Quote.readFrom fuel (e :: read) c₁ =
          .ok (String.ofList (read.reverse ++ e :: cs), c') ∧ c'.rest = rest := by
      intro c₁ hc₁ hlength
      obtain ⟨c', hread, hc'⟩ := ih fuel (e :: read) hc₁ (by omega)
      rw [List.reverse_cons, List.append_assoc] at hread
      exact ⟨c', hread, hc'⟩
    rw [Quote.readFrom]
    rcases head.cases with ⟨rfl, quote, slash, control⟩ | ⟨u, rfl⟩
    · rw [hc]
      dsimp only [List.singleton_append]
      rw [if_neg quote, if_neg slash, if_neg control]
      refine hgo c.step ?_ ?_
      · rw [Cursor.step_rest, hc]
        rfl
      · rw [Cursor.step_rest, hc]
        exact Nat.lt_succ_self _
    · have hstep : c.step.rest = u ++ (ts ++ '\x22' :: rest) := by
        rw [Cursor.step_rest, hc]
        rfl
      obtain ⟨c₁, hread, hc₁⟩ := readEscape_ok head hstep
      obtain ⟨c', hrest, hc'⟩ := hgo c₁ hc₁ (by
        rw [hc₁, hc]
        simp only [List.cons_append, List.length_cons, List.length_append]
        omega)
      refine ⟨c', ?_, hc'⟩
      rw [hc]
      dsimp only [List.cons_append]
      rw [if_neg (by decide), if_pos rfl, hread]
      exact hrest

theorem SpellsString.head {s : String} {t : List Char} (h : SpellsString s t) :
    ∃ body, t = '\x22' :: body := by
  obtain ⟨body, -, rfl⟩ := h
  exact ⟨_, rfl⟩

/-- A string is read behind its first quote. -/
theorem Quote.read_ok {s : String} {c : Cursor} {t rest : List Char} (h : SpellsString s t)
    (hc : c.rest = t ++ rest) : ∃ c', Quote.read c.step = .ok (s, c') ∧ c'.rest = rest := by
  obtain ⟨body, hbody, rfl⟩ := h
  have hstep : c.step.rest = body ++ '\x22' :: rest := by
    rw [Cursor.step_rest, hc]
    simp
  obtain ⟨c', hread, hc'⟩ := readFrom_ok hbody _ [] hstep (Nat.lt_succ_self _)
  refine ⟨c', ?_, hc'⟩
  rw [Quote.read, hread, List.reverse_nil, List.nil_append, String.ofList_toList]

/-! ### Values -/

/-- A spelling is a token behind blanks, and the token alone is a spelling too. -/
theorem Value.Spells.token {v : Value} {t : List Char} (h : v.Spells t) :
    ∃ gap d core, IsGap gap ∧ t = gap ++ d :: core ∧ v.Spells (d :: core) ∧
      (d = '\x22' ∨ d = '[' ∨ d = '\x7b') := by
  cases v with
  | text s =>
    rw [Value.Spells] at h
    obtain ⟨gap, string, hgap, hstring, rfl⟩ := h
    obtain ⟨body, rfl⟩ := hstring.head
    refine ⟨gap, _, body, hgap, rfl, ?_, .inl rfl⟩
    rw [Value.Spells]
    exact ⟨[], _, isGap_nil, hstring, rfl⟩
  | list vs =>
    rw [Value.Spells] at h
    obtain ⟨gap, body, hgap, hbody, rfl⟩ := h
    refine ⟨gap, _, body, hgap, rfl, ?_, .inr (.inl rfl)⟩
    rw [Value.Spells]
    exact ⟨[], body, isGap_nil, hbody, rfl⟩
  | object ms =>
    rw [Value.Spells] at h
    obtain ⟨gap, body, hgap, hbody, rfl⟩ := h
    refine ⟨gap, _, body, hgap, rfl, ?_, .inr (.inr rfl)⟩
    rw [Value.Spells]
    exact ⟨[], body, isGap_nil, hbody, rfl⟩
  | null => exact (Value.Spells.eq_def .null t ▸ h).elim
  | boolean b => exact (Value.Spells.eq_def (.boolean b) t ▸ h).elim
  | number n => exact (Value.Spells.eq_def (.number n) t ▸ h).elim

/-- The place behind the blanks before a string. -/
theorem spells_text_rest {s : String} {t rest : List Char} {c : Cursor}
    (h : (Value.text s).Spells t) (hc : c.rest = t ++ rest) :
    ∃ string body, SpellsString s string ∧ string = '\x22' :: body ∧
      c.skipGaps.rest = string ++ rest := by
  rw [Value.Spells] at h
  obtain ⟨gap, string, hgap, hstring, rfl⟩ := h
  obtain ⟨body, rfl⟩ := hstring.head
  refine ⟨_, body, hstring, rfl, ?_⟩
  rw [List.append_assoc] at hc
  exact Cursor.skipGaps_rest hgap (by decide) hc

theorem readsAs_text (s : String) : ReadsAs Reader.text (.text s) s := by
  intro t ht c rest hc
  obtain ⟨string, body, hstring, rfl, hskip⟩ := spells_text_rest ht hc
  obtain ⟨c', hread, hc'⟩ := Quote.read_ok hstring hskip
  refine ⟨c', ?_, hc'⟩
  rw [Reader.text]
  rw [hskip]
  exact hread

theorem readsAs_value_text (levels : Nat) (s : String) :
    ReadsAs (Reader.value levels) (.text s) (.text s) := by
  intro t ht c rest hc
  obtain ⟨string, body, hstring, rfl, hskip⟩ := spells_text_rest ht hc
  obtain ⟨c', hread, hc'⟩ := Quote.read_ok hstring hskip
  refine ⟨c', ?_, hc'⟩
  rw [Reader.value.eq_def]
  dsimp only
  rw [hskip]
  dsimp only [List.cons_append]
  rw [hread]
  rfl

/-- What may be `null` is read as what it is. -/
theorem ReadsAs.optional {α : Type} {read : Cursor → Except Failure (α × Cursor)} {v : Value}
    {a : α} (h : ReadsAs read v a) : ReadsAs (Reader.optional read) v (some a) := by
  intro t ht c rest hc
  obtain ⟨gap, d, core, hgap, rfl, hcore, hd⟩ := ht.token
  have hplain : Cursor.isGap d = false := by rcases hd with rfl | rfl | rfl <;> decide
  have hn : d ≠ 'n' := by rcases hd with rfl | rfl | rfl <;> decide
  rw [List.append_assoc] at hc
  have hskip := Cursor.skipGaps_rest hgap hplain hc
  obtain ⟨c', hread, hc'⟩ := h _ hcore c.skipGaps rest hskip
  refine ⟨c', ?_, hc'⟩
  rw [Reader.optional]
  dsimp only
  split
  · next cs hnull =>
    rw [hskip] at hnull
    exact absurd (List.cons.inj hnull).1 hn
  · rw [hread]
    rfl

/-! ### Lists -/

/-- The next item of a list is looked for behind the separator and blanks. -/
theorem nextItem_ok {first : Bool} {v : Value} {separator item rest : List Char} {c : Cursor}
    (hseparator : IsSeparator first separator) (hv : v.Spells item)
    (hc : c.rest = separator ++ (item ++ rest)) :
    ∃ c' core, Reader.nextItem first c = .ok (some c') ∧ v.Spells core ∧ c'.rest = core ++ rest ∧
      c'.rest.length ≤ c.rest.length := by
  obtain ⟨gap, d, core, hgap, rfl, hcore, hd⟩ := hv.token
  have hplain : Cursor.isGap d = false := by rcases hd with rfl | rfl | rfl <;> decide
  have hbracket : d ≠ ']' := by rcases hd with rfl | rfl | rfl <;> decide
  rw [List.append_assoc] at hc
  cases first with
  | true =>
    obtain rfl : separator = [] := hseparator
    have hskip := Cursor.skipGaps_rest hgap hplain hc
    refine ⟨c.skipGaps, d :: core, ?_, hcore, hskip, ?_⟩
    · rw [Reader.nextItem]
      dsimp only
      split
      · next h => rw [hskip] at h; cases h
      · next h => rw [hskip] at h; exact absurd (List.cons.inj h).1 hbracket
      · rfl
    · rw [hskip, hc]
      simp
  | false =>
    obtain ⟨before, hbefore, rfl⟩ := hseparator
    rw [List.append_assoc] at hc
    have hcomma := Cursor.skipGaps_rest hbefore (by decide) hc
    have hskip : c.skipGaps.step.skipGaps.rest = d :: (core ++ rest) := by
      refine Cursor.skipGaps_rest hgap hplain ?_
      rw [Cursor.step_rest, hcomma]
      rfl
    refine ⟨c.skipGaps.step.skipGaps, d :: core, ?_, hcore, hskip, ?_⟩
    · rw [Reader.nextItem]
      dsimp only
      rw [hcomma, hskip]
      rcases hd with rfl | rfl | rfl <;> rfl
    · rw [hskip, hc]
      simp
      omega

/-- Items are read one after the other. -/
theorem itemsFrom_ok {α : Type} {item : Cursor → Except Failure (α × Cursor)} {vs : List Value}
    {as : List α} (h : List.Forall₂ (ReadsAs item) vs as) :
    ∀ {first : Bool} {body rest : List Char} {fuel : Nat} {c : Cursor},
      SpellsItems first vs body → c.rest = body ++ rest → c.rest.length < fuel →
      ∃ c', Reader.itemsFrom item fuel first c = .ok (as, c') ∧ c'.rest = rest := by
  induction h with
  | nil =>
    intro first body rest fuel c hbody hc hfuel
    obtain ⟨fuel, rfl⟩ := Nat.exists_eq_add_one_of_ne_zero (Nat.ne_zero_of_lt hfuel)
    rw [SpellsItems] at hbody
    obtain ⟨gap, hgap, rfl⟩ := hbody
    rw [List.append_assoc] at hc
    have hskip := Cursor.skipGaps_rest hgap (by decide) hc
    refine ⟨c.skipGaps.step, ?_, by rw [Cursor.step_rest, hskip]; rfl⟩
    have hnext : Reader.nextItem first c = .ok none := by
      rw [Reader.nextItem]
      dsimp only
      rw [hskip]
      rfl
    rw [Reader.itemsFrom, hnext]
    rfl
  | @cons v a vs as hv _ ih =>
    intro first body rest fuel c hbody hc hfuel
    obtain ⟨fuel, rfl⟩ := Nat.exists_eq_add_one_of_ne_zero (Nat.ne_zero_of_lt hfuel)
    rw [SpellsItems] at hbody
    obtain ⟨separator, text, others, hseparator, htext, hothers, rfl⟩ := hbody
    rw [List.append_assoc, List.append_assoc] at hc
    obtain ⟨c₁, core, hnext, hcore, hc₁, hle⟩ := nextItem_ok hseparator htext hc
    obtain ⟨c₂, hread, hc₂⟩ := hv core hcore c₁ _ hc₁
    obtain ⟨_, _, _, _, hne, -, -⟩ := hcore.token
    have hshorter : c₂.rest.length < c₁.rest.length := by
      rw [hc₁, hc₂, hne]
      simp
      omega
    obtain ⟨c', hrest, hc'⟩ := ih hothers hc₂ (show c₂.rest.length < fuel by omega)
    refine ⟨c', ?_, hc'⟩
    rw [Reader.itemsFrom, hnext]
    simp only [bind, Except.bind, hread, hrest]

theorem items_ok {α : Type} {item : Cursor → Except Failure (α × Cursor)} {vs : List Value}
    {as : List α} (h : List.Forall₂ (ReadsAs item) vs as) {body rest : List Char} {c : Cursor}
    (hbody : SpellsItems true vs body) (hc : c.rest = body ++ rest) :
    ∃ c', Reader.items item c = .ok (as, c') ∧ c'.rest = rest :=
  itemsFrom_ok h hbody hc (Nat.lt_succ_self _)

/-- The place behind the bracket of a list. -/
theorem spells_list_rest {vs : List Value} {t rest : List Char} {c : Cursor}
    (h : (Value.list vs).Spells t) (hc : c.rest = t ++ rest) :
    ∃ body, SpellsItems true vs body ∧ c.skipGaps.rest = '[' :: (body ++ rest) := by
  rw [Value.Spells] at h
  obtain ⟨gap, body, hgap, hbody, rfl⟩ := h
  rw [List.append_assoc] at hc
  exact ⟨body, hbody, Cursor.skipGaps_rest hgap (by decide) hc⟩

/-- A list is read if its items are, each with one level less. -/
theorem readsAs_list {α : Type} {levels : Nat} {item : Nat → Cursor → Except Failure (α × Cursor)}
    {vs : List Value} {as : List α} (h : List.Forall₂ (ReadsAs (item levels)) vs as) :
    ReadsAs (Reader.list (levels + 1) item) (.list vs) as := by
  intro t ht c rest hc
  obtain ⟨body, hbody, hskip⟩ := spells_list_rest ht hc
  have hstep : c.skipGaps.step.rest = body ++ rest := by
    rw [Cursor.step_rest, hskip]
    rfl
  obtain ⟨c', hread, hc'⟩ := items_ok h hbody hstep
  refine ⟨c', ?_, hc'⟩
  rw [Reader.list]
  rw [hskip]
  exact hread

/-! ### Objects -/

/-- Reading the members of an object takes one state to another, member by member. -/
inductive ReadsMembers {σ : Type} (member : σ → String → Cursor → Except Failure (σ × Cursor)) :
    σ → List (String × Value) → σ → Prop
  | nil {s : σ} : ReadsMembers member s [] s
  | cons {s s' s'' : σ} {key : String} {v : Value} {ms : List (String × Value)}
      (head : ReadsMember (member s key) v s') (rest : ReadsMembers member s' ms s'') :
      ReadsMembers member s ((key, v) :: ms) s''

theorem ReadsMembers.append {σ : Type} {member : σ → String → Cursor → Except Failure (σ × Cursor)}
    {s s' s'' : σ} {ms ns : List (String × Value)} (h : ReadsMembers member s ms s')
    (h' : ReadsMembers member s' ns s'') : ReadsMembers member s (ms ++ ns) s'' := by
  induction h with
  | nil => exact h'
  | cons head _ ih => exact .cons head (ih h')

theorem ReadsMembers.single {σ : Type} {member : σ → String → Cursor → Except Failure (σ × Cursor)}
    {s s' : σ} {key : String} {v : Value} (h : ReadsMember (member s key) v s') :
    ReadsMembers member s [(key, v)] s' := .cons h .nil

/-- The key of the next member is read behind the separator and blanks. -/
theorem nextKey_ok {first : Bool} {key : String} {separator gap name rest : List Char} {c : Cursor}
    (hseparator : IsSeparator first separator) (hgap : IsGap gap) (hname : SpellsString key name)
    (hc : c.rest = separator ++ (gap ++ (name ++ rest))) :
    ∃ c', Reader.nextKey first c = .ok (some (key, c')) ∧ c'.rest = rest := by
  obtain ⟨body, rfl⟩ := hname.head
  cases first with
  | true =>
    obtain rfl : separator = [] := hseparator
    have hskip := Cursor.skipGaps_rest hgap (by decide) hc
    obtain ⟨c', hread, hc'⟩ := Quote.read_ok hname hskip
    refine ⟨c', ?_, hc'⟩
    rw [Reader.nextKey]
    dsimp only
    rw [hskip, hread]
    rfl
  | false =>
    obtain ⟨before, hbefore, rfl⟩ := hseparator
    rw [List.append_assoc] at hc
    have hcomma := Cursor.skipGaps_rest hbefore (by decide) hc
    have hskip : c.skipGaps.step.skipGaps.rest = '\x22' :: body ++ rest := by
      refine Cursor.skipGaps_rest hgap (by decide) ?_
      rw [Cursor.step_rest, hcomma]
      rfl
    obtain ⟨c', hread, hc'⟩ := Quote.read_ok hname hskip
    refine ⟨c', ?_, hc'⟩
    rw [Reader.nextKey]
    dsimp only
    rw [hcomma, hskip, hread]
    rfl

/-- Members are read one after the other. -/
theorem membersFrom_ok {σ : Type} {member : σ → String → Cursor → Except Failure (σ × Cursor)}
    {s s' : σ} {ms : List (String × Value)} (h : ReadsMembers member s ms s') :
    ∀ {first : Bool} {body rest : List Char} {fuel : Nat} {c : Cursor},
      SpellsMembers first ms body → c.rest = body ++ rest → c.rest.length < fuel →
      ∃ c', Reader.membersFrom member fuel first s c = .ok (s', c') ∧ c'.rest = rest := by
  induction h with
  | nil =>
    intro first body rest fuel c hbody hc hfuel
    obtain ⟨fuel, rfl⟩ := Nat.exists_eq_add_one_of_ne_zero (Nat.ne_zero_of_lt hfuel)
    rw [SpellsMembers] at hbody
    obtain ⟨gap, hgap, rfl⟩ := hbody
    rw [List.append_assoc] at hc
    have hskip := Cursor.skipGaps_rest hgap (by decide) hc
    refine ⟨c.skipGaps.step, ?_, by rw [Cursor.step_rest, hskip]; rfl⟩
    have hnext : Reader.nextKey first c = .ok none := by
      rw [Reader.nextKey]
      dsimp only
      rw [hskip]
      rfl
    rw [Reader.membersFrom, hnext]
    rfl
  | @cons s s₁ s₂ key v ms head _ ih =>
    intro first body rest fuel c hbody hc hfuel
    obtain ⟨fuel, rfl⟩ := Nat.exists_eq_add_one_of_ne_zero (Nat.ne_zero_of_lt hfuel)
    rw [SpellsMembers] at hbody
    obtain ⟨separator, gap, name, colon, text, others, hseparator, hgap, hname, hcolon, htext,
      hothers, rfl⟩ := hbody
    have hc₀ : c.rest =
        separator ++ (gap ++ (name ++ (colon ++ ':' :: text ++ (others ++ rest)))) := by
      simpa only [List.append_assoc, List.cons_append] using hc
    obtain ⟨c₁, hnext, hc₁⟩ := nextKey_ok hseparator hgap hname hc₀
    obtain ⟨c₂, hread, hc₂⟩ := head colon text hcolon htext c₁ _ hc₁
    have hshorter : c₂.rest.length < c.rest.length := by
      rw [hc₀, hc₂]
      simp
      omega
    obtain ⟨c', hrest, hc'⟩ := ih hothers hc₂ (show c₂.rest.length < fuel by omega)
    refine ⟨c', ?_, hc'⟩
    rw [Reader.membersFrom, hnext]
    simp only [bind, Except.bind, hread, hrest]

theorem members_ok {σ : Type} {member : σ → String → Cursor → Except Failure (σ × Cursor)}
    {s s' : σ} {ms : List (String × Value)} (h : ReadsMembers member s ms s')
    {body rest : List Char} {c : Cursor} (hbody : SpellsMembers true ms body)
    (hc : c.rest = body ++ rest) :
    ∃ c', Reader.members member s c = .ok (s', c') ∧ c'.rest = rest :=
  membersFrom_ok h hbody hc (Nat.lt_succ_self _)

/-- The place behind the brace of an object. -/
theorem spells_object_rest {ms : List (String × Value)} {t rest : List Char} {c : Cursor}
    (h : (Value.object ms).Spells t) (hc : c.rest = t ++ rest) :
    ∃ body, SpellsMembers true ms body ∧ c.skipGaps.rest = '\x7b' :: (body ++ rest) := by
  rw [Value.Spells] at h
  obtain ⟨gap, body, hgap, hbody, rfl⟩ := h
  rw [List.append_assoc] at hc
  exact ⟨body, hbody, Cursor.skipGaps_rest hgap (by decide) hc⟩

/-- A value behind its colon is read as it is without. -/
theorem ReadsAs.behind_colon {α β : Type} {read : Cursor → Except Failure (α × Cursor)} {v : Value}
    {a : α} (h : ReadsAs read v a) (f : α → β) :
    ReadsMember (fun c => do
      let (a, c) ← read (← Reader.colon c)
      .ok (f a, c)) v (f a) := by
  intro gap t hgap ht c rest hc
  rw [List.append_assoc] at hc
  have hskip := Cursor.skipGaps_rest hgap (by decide) hc
  obtain ⟨c', hread, hc'⟩ := h t ht c.skipGaps.step rest (by rw [Cursor.step_rest, hskip]; rfl)
  refine ⟨c', ?_, hc'⟩
  have hcolon : Reader.colon c = .ok c.skipGaps.step := by
    rw [Reader.colon, hskip]
    rfl
  dsimp only
  rw [hcolon]
  simp only [bind, Except.bind, hread]

/-- An object of one member is read as that member. -/
theorem readsAs_object_single {levels : Nat} {key : String} {v a : Value}
    (h : ReadsAs (Reader.value levels) v a) :
    ReadsAs (Reader.object (levels + 1)) (.object [(key, v)]) [(key, a)] := by
  intro t ht c rest hc
  obtain ⟨body, hbody, hskip⟩ := spells_object_rest ht hc
  have hstep : c.skipGaps.step.rest = body ++ rest := by
    rw [Cursor.step_rest, hskip]
    rfl
  have hmember : ReadsMember (Reader.sortedMember (Reader.value levels) [] key) v
      (insertMember key a []) := h.behind_colon fun a => insertMember key a []
  obtain ⟨c', hread, hc'⟩ := members_ok (.single hmember) hbody hstep
  refine ⟨c', ?_, hc'⟩
  rw [Reader.object]
  rw [hskip]
  exact hread

/-- Blanks may follow a text. -/
theorem finish_ok {c : Cursor} (hgap : IsGap c.rest) : Reader.finish c = .ok () := by
  rw [Reader.finish]
  rw [if_pos (Cursor.skipGaps_rest_nil hgap rfl)]

/-! ## Compact texts -/

/-- A control character has the number of its escape. -/
theorem hex4?_paddedHex {c : Char} (h : c < ' ') :
    Quote.hex4? (Text.paddedHex 4 c.toNat) = some c.toNat ∧
      Quote.isLeading c.toNat = false ∧ Quote.isTrailing c.toNat = false := by
  have hall : ∀ n < 32, Quote.hex4? (Text.paddedHex 4 n) = some n ∧
      Quote.isLeading n = false ∧ Quote.isTrailing n = false := by decide +kernel
  exact hall c.toNat h

/-- The writer of compact texts spells characters. -/
theorem spells_escapedChar (c : Char) : SpellsChar c (escapedChar c) := by
  unfold escapedChar
  split
  · next h => subst h; exact .letter rfl
  split
  · next h => subst h; exact .letter rfl
  split
  · next h => subst h; exact .letter rfl
  split
  · next h => subst h; exact .letter rfl
  split
  · next h => subst h; exact .letter rfl
  split
  · next h => subst h; exact .letter rfl
  split
  · next h => subst h; exact .letter rfl
  split
  · next h =>
    obtain ⟨hn, leading, trailing⟩ := hex4?_paddedHex h
    have hnumber := SpellsChar.number hn leading trailing
    rwa [Char.ofNat_toNat] at hnumber
  · next quote slash _ _ _ _ _ control => exact .plain quote slash control

theorem spells_quotedText (s : String) : SpellsString s (quotedText s).toList := by
  have hchars : ∀ cs : List Char, SpellsChars cs (cs.flatMap escapedChar) := by
    intro cs
    induction cs with
    | nil => exact .nil
    | cons c cs ih => exact .cons (spells_escapedChar c) ih
  refine ⟨_, hchars s.toList, ?_⟩
  rw [quotedText, String.toList_ofList]

mutual

/-- Whether a value is made of strings, lists and objects. -/
def Value.isTextual : Value → Bool
  | .text _ => true
  | .list vs => areTextual vs
  | .object ms => membersAreTextual ms
  | _ => false

/-- Whether values are. -/
def areTextual : List Value → Bool
  | [] => true
  | v :: vs => v.isTextual && areTextual vs

/-- Whether the values of members are. -/
def membersAreTextual : List (String × Value) → Bool
  | [] => true
  | (_, v) :: ms => v.isTextual && membersAreTextual ms

end

theorem areTextual_iff {vs : List Value} : areTextual vs = true ↔ ∀ v ∈ vs, v.isTextual = true := by
  induction vs with
  | nil => exact iff_of_true rfl (List.forall_mem_nil _)
  | cons v vs ih => rw [areTextual, Bool.and_eq_true, ih, List.forall_mem_cons]

theorem membersAreTextual_iff {ms : List (String × Value)} :
    membersAreTextual ms = true ↔ ∀ m ∈ ms, m.2.isTextual = true := by
  induction ms with
  | nil => exact iff_of_true rfl (List.forall_mem_nil _)
  | cons m ms ih => rw [membersAreTextual, Bool.and_eq_true, ih, List.forall_mem_cons]

/-- A first item becomes a later one behind a comma. -/
theorem SpellsItems.later {v : Value} {vs : List Value} {t : List Char}
    (h : SpellsItems true (v :: vs) t) : SpellsItems false (v :: vs) (',' :: t) := by
  rw [SpellsItems] at h ⊢
  obtain ⟨separator, item, rest, rfl, hitem, hrest, rfl⟩ := h
  exact ⟨[','], item, rest, ⟨[], isGap_nil, rfl⟩, hitem, hrest, rfl⟩

theorem SpellsMembers.later {m : String × Value} {ms : List (String × Value)} {t : List Char}
    (h : SpellsMembers true (m :: ms) t) : SpellsMembers false (m :: ms) (',' :: t) := by
  obtain ⟨key, v⟩ := m
  rw [SpellsMembers] at h ⊢
  obtain ⟨separator, gap, name, colon, item, rest, rfl, h⟩ := h
  obtain ⟨hgap, hname, hcolon, hitem, hrest, rfl⟩ := h
  exact ⟨[','], gap, name, colon, item, rest, ⟨[], isGap_nil, rfl⟩, hgap, hname, hcolon, hitem,
    hrest, rfl⟩

mutual

/-- The compact text of a value spells it. -/
theorem Value.spells_compact : ∀ v : Value, v.isTextual = true → v.Spells v.compact.toList
  | .text s, _ => by
    rw [Value.Spells, Value.compact]
    exact ⟨[], _, isGap_nil, spells_quotedText s, (List.nil_append _).symm⟩
  | .list vs, h => by
    rw [Value.isTextual] at h
    rw [Value.Spells]
    refine ⟨[], _, isGap_nil, spellsItems_compact vs h, ?_⟩
    rw [Value.compact]
    simp
  | .object ms, h => by
    rw [Value.isTextual] at h
    rw [Value.Spells]
    refine ⟨[], _, isGap_nil, spellsMembers_compact ms h, ?_⟩
    rw [Value.compact]
    simp
  | .null, h => by cases h
  | .boolean _, h => by cases h
  | .number _, h => by cases h

theorem spellsItems_compact : ∀ vs : List Value, areTextual vs = true →
    SpellsItems true vs ((Value.compactItems vs).toList ++ [']'])
  | [], _ => by
    rw [SpellsItems]
    exact ⟨[], isGap_nil, rfl⟩
  | [v], h => by
    rw [areTextual, Bool.and_eq_true] at h
    rw [SpellsItems]
    refine ⟨[], _, [']'], rfl, v.spells_compact h.1, ?_, rfl⟩
    rw [SpellsItems]
    exact ⟨[], isGap_nil, rfl⟩
  | v :: w :: vs, h => by
    rw [areTextual, Bool.and_eq_true] at h
    rw [SpellsItems]
    refine ⟨[], _, _, rfl, v.spells_compact h.1, (spellsItems_compact (w :: vs) h.2).later, ?_⟩
    rw [Value.compactItems]
    · simp
    · exact List.cons_ne_nil w vs

theorem spellsMembers_compact : ∀ ms : List (String × Value), membersAreTextual ms = true →
    SpellsMembers true ms ((Value.compactMembers ms).toList ++ ['\x7d'])
  | [], _ => by
    rw [SpellsMembers]
    exact ⟨[], isGap_nil, rfl⟩
  | [(key, v)], h => by
    rw [membersAreTextual, Bool.and_eq_true] at h
    rw [SpellsMembers]
    refine ⟨[], [], _, [], _, ['\x7d'], rfl, isGap_nil, spells_quotedText key, isGap_nil,
      v.spells_compact h.1, ?_, ?_⟩
    · rw [SpellsMembers]
      exact ⟨[], isGap_nil, rfl⟩
    · rw [Value.compactMembers]
      simp
  | (key, v) :: m :: ms, h => by
    rw [membersAreTextual, Bool.and_eq_true] at h
    rw [SpellsMembers]
    refine ⟨[], [], _, [], _, _, rfl, isGap_nil, spells_quotedText key, isGap_nil,
      v.spells_compact h.1, (spellsMembers_compact (m :: ms) h.2).later, ?_⟩
    rw [Value.compactMembers]
    · simp
    · exact List.cons_ne_nil m ms

end

end ControlSurface.Json
