import ControlSurface.Parameter.Basic
import ControlSurface.Proofs.WholeNumbers

/- Menus, said without the reader that finds their entries. A menu can be written as a style, one
   entry behind the other (`spelled`); and the menu of a number entry is the first that its styles
   spell out, or that of its range.

   What is proved:
     1. `first?_number`: the number of an entry is matched to its end, and no further. The greedy
        digits give one back where there is no point.
     2. `first?_entry`: the label of an entry ends where it was written to end, whatever quotes,
        underscores and spaces it holds, because only a colon behind a quote can end it.
     3. `ofStyle_spelled`: so a menu that is written as a style is read back, item for item.
     4. `lt_rangeCount_iff`: how many evenly spaced values there are, one for each whole number of
        steps between the bounds, and no more than `maxItems` (`rangeCount_le`).
     5. `entry_menu`: a number entry has a menu, and its default is the place of the first item with
        the initial value, or the first place. -/
namespace ControlSurface.Menu
open Text (Pattern Way)

/-! ## Entries as they are written -/

/-- A sign before a number. -/
inductive Sign where
  | absent
  | plus
  | minus
deriving Repr, DecidableEq

/-- The characters of a sign. -/
def Sign.chars : Sign → List Char
  | absent => []
  | plus => ['+']
  | minus => ['-']

/-- The number of an entry as it is written: digits, and one digit behind a point if there is a
    point. Without a point there is a digit. -/
structure Figure where
  sign : Sign
  whole : List Char
  tenth : Option Char
  whole_digits : ∀ c ∈ whole, c.isDigit = true
  tenth_digit : ∀ c ∈ tenth, c.isDigit = true
  whole_ne_nil : tenth = none → whole ≠ []

namespace Figure

/-- The point of a number with the digit behind it, if it is there. -/
def point (f : Figure) : List Char :=
  match f.tenth with
  | none => []
  | some d => ['.', d]

/-- A number without its sign. -/
def body (f : Figure) : List Char := f.whole ++ f.point

/-- A number as it is written. -/
def chars (f : Figure) : List Char := f.sign.chars ++ f.body

/-- The number that is denoted: its digits, in tenths if one of them is behind a point. -/
def value (f : Figure) : Float :=
  Decimal.signed (f.sign = .minus)
    (Decimal.nearest (Decimal.digitsValue (f.whole ++ f.tenth.toList)) (-f.tenth.toList.length))

end Figure

/-- An entry as it is written. Its label has no colon and no line end. -/
structure Entry where
  label : String
  figure : Figure
  label_ne_empty : label ≠ ""
  label_chars : ∀ c ∈ label.toList, c ≠ ':' ∧ c ≠ '\n'

namespace Entry

/-- The text of an entry. -/
def text (e : Entry) : String := "\x27" ++ e.label ++ "\x27:" ++ String.ofList e.figure.chars

/-- The item that an entry stands for. -/
def item (e : Entry) : MenuItem :=
  ⟨e.label.map fun c => if c = ' ' then '_' else c, e.label, e.figure.value⟩

end Entry

/-- The style in which entries are written. -/
def spelled (es : List Entry) : String :=
  "menu\x7b" ++ ";".intercalate (es.map Entry.text) ++ "\x7d"

/-! ## Numbers -/

/-- A digit is no letter. -/
theorem toLower_of_isDigit {c : Char} (hc : c.isDigit = true) : c.toLower = c := by
  simp only [Char.isDigit, Bool.and_eq_true, decide_eq_true_eq] at hc
  unfold Char.toLower
  split
  · next hupper =>
    rw [ge_iff_le, ge_iff_le, UInt32.le_iff_toNat_le, UInt32.le_iff_toNat_le] at *
    simp at hc hupper
    omega
  · rfl

namespace Figure
variable (f : Figure)

/-- A number without its sign starts with a digit or a point. -/
theorem body_eq_cons : ∃ c cs, f.body = c :: cs ∧ (c.isDigit = true ∨ c = '.') := by
  rw [body, point]
  cases hwhole : f.whole with
  | cons c cs => exact ⟨c, _, rfl, .inl (f.whole_digits c (by simp [hwhole]))⟩
  | nil =>
    cases htenth : f.tenth with
    | none => exact absurd hwhole (f.whole_ne_nil htenth)
    | some d => exact ⟨'.', [d], rfl, .inr rfl⟩

/-- A character that numbers do not start with is not the first of one. -/
theorem head_ne {c d : Char} (hc : c.isDigit = true ∨ c = '.')
    (hd : ¬ (d.isDigit = true ∨ d = '.')) : c ≠ d := by
  intro heq
  exact hd (heq ▸ hc)

/-- The digits of a number end at its point or, without a point, where the number ends. -/
theorem span_body : f.body.takeWhile Char.isDigit = f.whole ∧
    f.body.dropWhile Char.isDigit = f.point := by
  have hnone : f.point.takeWhile Char.isDigit = [] ∧ f.point.dropWhile Char.isDigit = f.point := by
    rw [point]
    cases f.tenth <;> exact ⟨rfl, rfl⟩
  rw [body, List.takeWhile_append_of_pos f.whole_digits,
    List.dropWhile_append_of_pos f.whole_digits, hnone.1, hnone.2, List.append_nil]
  exact ⟨rfl, rfl⟩

theorem takeSign_chars : Decimal.takeSign f.chars = (decide (f.sign = .minus), f.body) := by
  obtain ⟨c, cs, hbody, hc⟩ := f.body_eq_cons
  rw [chars]
  cases f.sign with
  | plus => rfl
  | minus => rfl
  | absent =>
    rw [Sign.chars, List.nil_append, hbody, Decimal.takeSign]
    · rfl
    · intro ds hds
      exact head_ne hc (by decide) (List.cons.inj hds).1
    · intro ds hds
      exact head_ne hc (by decide) (List.cons.inj hds).1

theorem readDigits_body : Decimal.readDigits f.body =
    some (Decimal.digitsValue (f.whole ++ f.tenth.toList), -(f.tenth.toList.length : Int)) := by
  obtain ⟨htake, hdrop⟩ := f.span_body
  rw [Decimal.readDigits, htake, hdrop, point]
  cases htenth : f.tenth with
  | none => simp [f.whole_ne_nil htenth, Decimal.readExponent]
  | some d =>
    have hd : d.isDigit = true := f.tenth_digit d htenth
    simp [hd, Decimal.readExponent]

/-- A number that is written is read as the number that it denotes. -/
theorem readLiteral_chars : Decimal.readLiteral f.chars = some f.value := by
  obtain ⟨c, cs, hbody, hc⟩ := f.body_eq_cons
  have hlower : f.body.map Char.toLower = c :: cs.map Char.toLower := by
    rw [hbody, List.map_cons]
    obtain hdigit | rfl := hc
    · rw [toLower_of_isDigit hdigit]
    · rfl
  have hi : c ≠ 'i' := head_ne hc (by decide)
  have hn : c ≠ 'n' := head_ne hc (by decide)
  rw [Decimal.readLiteral, f.takeSign_chars]
  simp only [hlower, List.cons.injEq, hi, hn, false_and, or_self, if_false]
  rw [f.readDigits_body, Option.map_some, value]

end Figure

section
variable {d : Char} {rest : List Char}

/-- Of the last digits one is enough. -/
theorem pick_digit (hd : d.isDigit = true) :
    (Pattern.several .lazy Char.isDigit).pick (d :: rest) some = some ⟨[], rest⟩ := by
  rw [Pattern.pick_several_cons, if_pos hd]
  exact Pattern.pick_lazy_of_some rfl

theorem pick_end_point (hd : d.isDigit = true) :
    endPattern.pick ('.' :: d :: rest) some = some ⟨[], rest⟩ := by
  rw [endPattern, Pattern.pick_both, Pattern.pick_optional_greedy, Pattern.pick_one_cons]
  simp only [Way.nil_andThen, pick_digit hd]
  rfl

theorem pick_end_digit (hd : d.isDigit = true) :
    endPattern.pick (d :: rest) some = some ⟨[], rest⟩ := by
  have hpoint : ¬d = '.' := by
    rintro rfl
    exact absurd hd (by decide)
  rw [endPattern, Pattern.pick_both, Pattern.pick_optional_greedy, Pattern.pick_one_cons,
    decide_eq_false hpoint]
  simp only [Way.nil_andThen, pick_digit hd]
  rfl

/-- A number does not end where neither a point nor a digit is. -/
theorem pick_end_none (hrest : ∀ c ∈ rest.head?, c.isDigit = false ∧ c ≠ '.') :
    endPattern.pick rest some = none := by
  cases rest with
  | nil => rfl
  | cons c cs =>
    obtain ⟨hdigit, hpoint⟩ := hrest c rfl
    rw [endPattern, Pattern.pick_both, Pattern.pick_optional_greedy, Pattern.pick_one_cons,
      decide_eq_false hpoint]
    simp only [Way.nil_andThen, Pattern.pick_several_cons, hdigit]
    rfl

end

/-- The digits of a number are taken to its end. With a point behind them they are all taken at
    once; without one the last is given back for the end. -/
theorem pick_body (f : Figure) {rest : List Char}
    (hrest : ∀ c ∈ rest.head?, c.isDigit = false ∧ c ≠ '.') :
    (Pattern.both (.many .greedy Char.isDigit) endPattern).pick (f.body ++ rest) some =
      some ⟨[], rest⟩ := by
  rw [Pattern.pick_both, Figure.body, List.append_assoc, Figure.point]
  cases htenth : f.tenth with
  | some d =>
    refine Pattern.pick_greedy_append ?_ f.whole_digits
    rw [Pattern.pick_greedy_of_stop (by simp)]
    exact pick_end_point (f.tenth_digit d htenth)
  | none =>
    obtain ⟨ds, d, hwhole⟩ :=
      (List.eq_nil_or_concat' f.whole).resolve_left (f.whole_ne_nil htenth)
    have hdigits := f.whole_digits
    rw [hwhole] at hdigits
    rw [hwhole, List.append_assoc]
    refine Pattern.pick_greedy_append ?_ fun c hc => hdigits c (List.mem_append_left _ hc)
    have hd : d.isDigit = true := hdigits d (by simp)
    show Pattern.pick _ (d :: rest) _ = _
    rw [Pattern.pick_many_greedy_cons, if_pos hd,
      Pattern.pick_greedy_of_stop fun c hc => (hrest c hc).1]
    simp only [Way.nil_andThen]
    rw [pick_end_none hrest, Option.none_or]
    exact pick_end_digit hd

/-- The number of an entry is taken to its end. What is behind it goes on with neither a digit nor
    a point. -/
theorem first?_number (f : Figure) {rest : List Char}
    (hrest : ∀ c ∈ rest.head?, c.isDigit = false ∧ c ≠ '.') :
    numberPattern.first? (f.chars ++ rest) = some ⟨[], rest⟩ := by
  obtain ⟨c, cs, hbody, hc⟩ := f.body_eq_cons
  have hpick := pick_body f hrest
  rw [Pattern.first?_eq_pick, numberPattern, Pattern.pick_both, Pattern.pick_optional_greedy,
    Figure.chars, List.append_assoc]
  simp only [Way.nil_andThen]
  cases f.sign with
  | plus | minus =>
    rw [Sign.chars, List.singleton_append, Pattern.pick_one_cons]
    simp only [Way.nil_andThen, hpick]
    rfl
  | absent =>
    have hsign : ¬(c = '-' ∨ c = '+') := by
      rintro (h | h)
      · exact Figure.head_ne hc (by decide) h
      · exact Figure.head_ne hc (by decide) h
    rw [Sign.chars, List.nil_append, hpick, hbody, List.cons_append, Pattern.pick_one_cons,
      decide_eq_false hsign]
    rfl

/-! ## Entries -/

section
variable {β : Type} {k : Way → Option β}

theorem pick_quote (cs : List Char) : quotePattern.pick ('\x27' :: cs) k = k ⟨[], cs⟩ := by
  rw [quotePattern, Pattern.pick_either, Pattern.pick_one_cons, Pattern.pick_one_cons]
  exact Option.or_none

/-- Without a colon behind it no character ends a label. -/
theorem pick_value_none {d : Char} (hd : d ≠ ':') (c : Char) (cs : List Char) :
    valuePattern.pick (c :: d :: cs) k = none := by
  have hcolon : ∀ k : Way → Option β, (Pattern.both (.one fun c => c = ':')
      (.group 2 numberPattern)).pick (d :: cs) k = none := by
    intro k
    rw [Pattern.pick_both, Pattern.pick_one_cons, decide_eq_false hd]
    rfl
  rw [valuePattern, Pattern.pick_both, quotePattern, Pattern.pick_either, Pattern.pick_one_cons,
    Pattern.pick_one_cons, hcolon]
  simp

end

theorem first?_value (f : Figure) {rest : List Char}
    (hrest : ∀ c ∈ rest.head?, c.isDigit = false ∧ c ≠ '.') :
    valuePattern.first? ('\x27' :: ':' :: (f.chars ++ rest)) = some ⟨[(2, f.chars)], rest⟩ := by
  rw [Pattern.first?_eq_pick, valuePattern, Pattern.pick_both, pick_quote, Pattern.pick_both,
    Pattern.pick_one_cons]
  simp only [Way.nil_andThen, decide_true, if_true]
  rw [Pattern.pick_group, Pattern.pick_some_comp, first?_number f hrest, Option.map_some,
    Way.captured_append]

/-- The characters of an entry. -/
def Entry.chars (e : Entry) : List Char :=
  '\x27' :: (e.label.toList ++ '\x27' :: ':' :: e.figure.chars)

/-- The characters behind an entry: the other entries, each behind a semicolon, and a brace. -/
def behind : List Entry → List Char
  | [] => ['\x7d']
  | e :: es => ';' :: (e.chars ++ behind es)

theorem head_behind (es : List Entry) : ∀ c ∈ (behind es).head?, c.isDigit = false ∧ c ≠ '.' := by
  intro c hc
  cases es with
  | nil =>
    cases hc
    decide
  | cons e es =>
    cases hc
    decide

/-- What the pattern finds of an entry. -/
def Entry.way (e : Entry) (rest : List Char) : Way :=
  ⟨[(1, e.label.toList), (2, e.figure.chars)], rest⟩

/-- An entry is taken to its end. Nothing in its label ends the label early, since it has no
    colon. -/
theorem first?_entry (e : Entry) {rest : List Char}
    (hrest : ∀ c ∈ rest.head?, c.isDigit = false ∧ c ≠ '.') :
    entryPattern.first? (e.chars ++ rest) = some (e.way rest) := by
  have hvalue := first?_value e.figure hrest
  have hchars := e.label_chars
  rw [Entry.chars, List.cons_append, List.append_assoc, List.cons_append, List.cons_append,
    Pattern.first?_eq_pick, entryPattern, Pattern.pick_both, pick_quote, Pattern.pick_both,
    Pattern.pick_group]
  obtain ⟨c, label, hlabel⟩ : ∃ c label, e.label.toList = c :: label :=
    List.exists_cons_of_ne_nil (by simp [e.label_ne_empty])
  rw [hlabel] at hchars ⊢
  obtain ⟨hc, hchars⟩ := List.forall_mem_cons.mp hchars
  rw [List.cons_append, Pattern.pick_several_cons, if_pos (decide_eq_true hc.2)]
  refine Pattern.pick_lazy_append ?_ (fun d hd => decide_eq_true (hchars d hd).2) ?_
  · simp only [Way.nil_andThen]
    rw [← List.cons_append, Way.captured_append, Pattern.pick_some_comp, hvalue,
      Option.map_some, Entry.way, hlabel]
    rfl
  · intro d ds hds
    obtain ⟨x, xs, htail, hx⟩ : ∃ x xs,
        ds ++ '\x27' :: ':' :: (e.figure.chars ++ rest) = x :: xs ∧ x ≠ ':' := by
      cases ds with
      | nil => exact ⟨_, _, rfl, by decide⟩
      | cons x ds => exact ⟨x, _, rfl, (hchars x (hds.subset (by simp))).1⟩
    rw [List.cons_append, htail]
    exact pick_value_none hx d xs

/-- A character that is no quote is passed over. -/
theorem occurrences_skip {c : Char} (hquote : c ≠ '\x27') (hunderscore : c ≠ '_')
    (cs : List Char) : entryPattern.occurrences (c :: cs) = entryPattern.occurrences cs := by
  refine Pattern.occurrences_of_none ?_
  rw [Pattern.first?_eq_pick, entryPattern, Pattern.pick_both, quotePattern, Pattern.pick_either,
    Pattern.pick_one_cons, Pattern.pick_one_cons, decide_eq_false hquote,
    decide_eq_false hunderscore]
  rfl

theorem occurrences_entry (e : Entry) {rest : List Char}
    (hrest : ∀ c ∈ rest.head?, c.isDigit = false ∧ c ≠ '.') :
    entryPattern.occurrences (e.chars ++ rest) = e.way rest :: entryPattern.occurrences rest :=
  Pattern.occurrences_of_some (first?_entry e hrest) rfl

theorem entryItem_ok (e : Entry) (rest : List Char) : entryItem (e.way rest) = some e.item := by
  have hlabel : (e.way rest).capture? 1 = some e.label.toList := rfl
  have hvalue : (e.way rest).capture? 2 = some e.figure.chars := rfl
  rw [entryItem, hlabel, hvalue]
  simp only [Option.bind_eq_bind, Option.bind_some, e.figure.readLiteral_chars]
  rw [Entry.item, String.map_eq_internal, String.ofList_toList]
  rfl

/-- All entries are found, in order. -/
theorem items_behind (es : List Entry) :
    (entryPattern.occurrences (behind es)).filterMap entryItem = es.map Entry.item := by
  induction es with
  | nil =>
    rw [behind, occurrences_skip (by decide) (by decide)]
    rfl
  | cons e es ih =>
    rw [behind, occurrences_skip (by decide) (by decide), occurrences_entry e (head_behind es),
      List.filterMap_cons_some (entryItem_ok e _), ih, List.map_cons]

theorem toList_spelled (e : Entry) (es : List Entry) :
    (spelled (e :: es)).toList = ['m', 'e', 'n', 'u', '\x7b'] ++ (e.chars ++ behind es) := by
  have hentry : ∀ e : Entry, e.text.toList = e.chars := by
    intro e
    simp [Entry.text, Entry.chars]
  have hjoin : ∀ e : Entry, (";".intercalate ((e :: es).map Entry.text) ++ "\x7d").toList =
      e.chars ++ behind es := by
    induction es with
    | nil =>
      intro e
      simp [hentry, behind]
    | cons d es ih =>
      intro e
      have hd := ih d
      rw [String.toList_append, List.map_cons] at hd
      rw [List.map_cons, List.map_cons, String.intercalate_cons_cons]
      simp only [String.toList_append, List.append_assoc, hd, hentry, behind]
      rfl
  rw [spelled, String.append_assoc, String.toList_append, hjoin]
  rfl

/-- A menu that is written as a style is read as its items, one for each entry and in order. -/
theorem ofStyle_spelled {es : List Entry} (hes : es ≠ []) :
    ofStyle (spelled es) = some (es.map Entry.item) := by
  obtain ⟨e, es, rfl⟩ := List.exists_cons_of_ne_nil hes
  have hholds : holds ['m', 'e', 'n', 'u'] (spelled (e :: es)).toList = true := by
    rw [toList_spelled]
    rfl
  have hitems : (entryPattern.occurrences (spelled (e :: es)).toList).filterMap entryItem =
      (e :: es).map Entry.item := by
    rw [toList_spelled]
    simp only [List.cons_append, List.nil_append]
    iterate 5 rw [occurrences_skip (by decide) (by decide)]
    rw [occurrences_entry e (head_behind es), List.filterMap_cons_some (entryItem_ok e _),
      items_behind, List.map_cons]
  rw [ofStyle, if_pos hholds, hitems]
  rfl

/-- An entry whose label holds quotes, a space and underscores, and that is numbered in tenths. -/
def lowPass : Entry where
  label := "_low \x27pass\x27"
  figure := ⟨.minus, [], some '5', by simp, by simp, by simp⟩
  label_ne_empty := by decide
  label_chars := List.all_iff_forall_prop.mp (by decide)

/-- An entry whose label is a quote. -/
def quoted : Entry where
  label := "\x27"
  figure := ⟨.plus, ['1', '0', '7'], none, List.all_eq_true.mp (by decide), by simp, by simp⟩
  label_ne_empty := by decide
  label_chars := List.all_iff_forall_prop.mp (by decide)

theorem ofStyle_spelled_of_quotes :
    [lowPass, quoted] ≠ [] ∧
      spelled [lowPass, quoted] = "menu\x7b\x27_low \x27pass\x27\x27:-.5;\x27\x27\x27:+107\x7d" ∧
      ofStyle (spelled [lowPass, quoted]) =
        some [⟨"_low_\x27pass\x27", "_low \x27pass\x27", -0.5⟩, ⟨"\x27", "\x27", 107⟩] := by
  have hitems : [lowPass, quoted].map Entry.item =
      [⟨"_low_\x27pass\x27", "_low \x27pass\x27", -0.5⟩, ⟨"\x27", "\x27", 107⟩] := by
    decide +kernel
  exact ⟨by simp, by decide +kernel, hitems ▸ ofStyle_spelled (by simp)⟩

/-! ## Menus of number entries -/

/-- A menu that is spelled out has an item. -/
theorem ofStyle_ne_nil {style : String} {items : List MenuItem} (h : ofStyle style = some items) :
    items ≠ [] := by
  simp only [ofStyle] at h
  split at h
  · split at h
    · cases h
    · next hitems =>
      cases h
      exact hitems
  · cases h

/-- The first style among annotations that spells out a menu spells out these items. -/
def SpelledFirst (info : Meta) (items : List MenuItem) : Prop :=
  ∃ before style after, info.entries = before ++ ("style", style) :: after ∧
    ofStyle style = some items ∧ ∀ other, ("style", other) ∈ before → ofStyle other = none

/-- No style among annotations spells out a menu. -/
def SpelledNowhere (info : Meta) : Prop :=
  ∀ style, ("style", style) ∈ info.entries → ofStyle style = none

/-- A place among items at which a value is looked up: that of the first item with the value or,
    where no item has it, the first place. Zeros are equal and what is not a number is equal to
    nothing. -/
def Selects (items : List MenuItem) (value : Float) (place : Nat) : Prop :=
  (∃ item, items[place]? = some item ∧ (item.value == value) = true ∧
    ∀ earlier ∈ items.take place, (earlier.value == value) = false) ∨
  (place = 0 ∧ ∀ item ∈ items, (item.value == value) = false)

/-- Items are those of a range: evenly spaced values from the lower bound on, one for each step
    that fits, none above the upper bound. The first item is there in any case. Steps that are too
    many for a double are as many as there may be. -/
structure RangeMenu (r : Range) (items : List MenuItem) : Prop where
  place : ∀ i, i < items.length ↔ i = 0 ∨ i < 1024 ∧ 0.0 < r.step ∧ r.min ≤ r.max ∧
    (((r.max - r.min) / r.step).isFinite = true →
      Decimal.ofCount i ≤ (r.max - r.min) / r.step)
  length_le : items.length ≤ 1024
  value : ∀ i item, items[i]? = some item → item.value =
    if (r.min + r.step * Decimal.ofCount i).isNaN ∨ r.max < r.min + r.step * Decimal.ofCount i
    then r.max else r.min + r.step * Decimal.ofCount i
  called : ∀ item ∈ items, item.name = Decimal.plainFormat.text item.value ∧
    item.label = Decimal.plainFormat.text item.value

/-- Items and a place among them are the menu of a number entry. -/
structure EntryMenu (c : Input) (items : List MenuItem) (place : Nat) : Prop where
  place_lt : place < items.length
  selects : Selects items c.range.init place
  source : SpelledFirst c.info items ∨ SpelledNowhere c.info ∧ RangeMenu c.range items

/-- The values of a key are looked through as the entries are. -/
theorem findSome?_values {α : Type} (info : Meta) (key : String) (f : String → Option α) :
    (info.values key).findSome? f =
      info.entries.findSome? fun e => if e.1 = key then f e.2 else none := by
  rw [Meta.values]
  induction info.entries with
  | nil => rfl
  | cons e es ih =>
    by_cases hkey : e.1 = key
    · rw [List.filter_cons_of_pos (by simp [hkey]), List.map_cons, List.findSome?_cons,
        List.findSome?_cons, if_pos hkey, ih]
    · rw [List.filter_cons_of_neg (by simp [hkey]), List.findSome?_cons, if_neg hkey, ih]

theorem smaller_eq (a b : Float) : smaller a b = if a.isNaN ∨ b < a then b else a := by
  rw [smaller]
  by_cases ha : a.isNaN = true
  · rw [if_pos ha, if_pos (.inl ha)]
  · rw [if_neg ha]
    by_cases hb : b.isNaN = true
    · rw [if_pos hb, if_neg (not_or_intro ha (Decimal.not_lt_of_isNaN hb))]
    · rw [if_neg hb]
      by_cases hlt : b < a
      · rw [if_pos hlt, if_pos (.inr hlt)]
      · rw [if_neg hlt, if_neg (not_or_intro ha hlt)]

/-- The places of evenly spaced values. -/
theorem lt_rangeCount_iff (min max step : Float) (i : Nat) :
    i < rangeCount min max step ↔ i = 0 ∨ i < maxItems ∧ 0.0 < step ∧ min ≤ max ∧
      (((max - min) / step).isFinite = true → Decimal.ofCount i ≤ (max - min) / step) := by
  rw [rangeCount]
  by_cases hstep : step > 0.0 ∧ max ≥ min
  · have hsteps : 0.0 < step ∧ min ≤ max := hstep
    rw [if_pos hstep]
    simp only [Decimal.floor_isFinite]
    by_cases hfinite : ((max - min) / step).isFinite = true
    · have hplace := Decimal.lt_count_iff hfinite (n := maxItems) (by decide) (by decide) i
      simp only [hfinite, true_and, hsteps]
      simpa using hplace
    · simp only [hfinite, hsteps]
      have hpos : 0 < maxItems := by decide
      simp
      omega
  · have hsteps : ¬(0.0 < step ∧ min ≤ max) := hstep
    rw [if_neg hstep, Nat.lt_one_iff]
    refine (or_iff_left_of_imp ?_).symm
    rintro ⟨-, hs, hm, -⟩
    exact absurd ⟨hs, hm⟩ hsteps

theorem rangeCount_le (min max step : Float) : rangeCount min max step ≤ maxItems := by
  refine Nat.le_of_not_lt fun hlt => ?_
  obtain hzero | ⟨hlt, -⟩ := (lt_rangeCount_iff min max step maxItems).mp hlt
  · exact absurd hzero (by decide)
  · exact Nat.lt_irrefl _ hlt

/-- A range has items, and they are its. -/
theorem ofRange_rangeMenu (r : Range) :
    ofRange r.min r.max r.step ≠ [] ∧ RangeMenu r (ofRange r.min r.max r.step) := by
  have hlength : (ofRange r.min r.max r.step).length = rangeCount r.min r.max r.step := by
    rw [ofRange, List.length_map, List.length_range]
  refine ⟨?_, ?_, hlength ▸ rangeCount_le _ _ _, ?_, ?_⟩
  · rw [← List.length_pos_iff, hlength]
    exact (lt_rangeCount_iff _ _ _ 0).mpr (.inl rfl)
  · intro i
    rw [hlength]
    exact lt_rangeCount_iff r.min r.max r.step i
  · intro i item hitem
    rw [ofRange, List.getElem?_map] at hitem
    obtain ⟨j, hj, rfl⟩ := Option.map_eq_some_iff.mp hitem
    obtain ⟨hlt, hplace⟩ := List.getElem?_eq_some_iff.mp hj
    rw [List.getElem_range] at hplace
    rw [← hplace]
    exact smaller_eq _ _
  · intro item hitem
    obtain ⟨i, -, rfl⟩ := List.mem_map.mp hitem
    exact ⟨rfl, rfl⟩

/-- The styles of a control spell out a menu or none of them does. -/
theorem findSome?_styles (info : Meta) :
    (∃ items, (info.values "style").findSome? ofStyle = some items ∧ SpelledFirst info items) ∨
      ((info.values "style").findSome? ofStyle = none ∧ SpelledNowhere info) := by
  rw [findSome?_values]
  cases hfound : info.entries.findSome? fun e => if e.1 = "style" then ofStyle e.2 else none with
  | some items =>
    obtain ⟨before, ⟨key, style⟩, after, hsplit, hstyle, hbefore⟩ :=
      List.findSome?_eq_some_iff.mp hfound
    obtain ⟨rfl, hitems⟩ := Option.ite_none_right_eq_some.mp hstyle
    refine .inl ⟨items, rfl, before, style, after, hsplit, hitems, ?_⟩
    intro other hother
    simpa using hbefore _ hother
  | none =>
    refine .inr ⟨rfl, ?_⟩
    intro style hstyle
    simpa using List.findSome?_eq_none_iff.mp hfound _ hstyle

/-- The place of a value among items is one of theirs, and selects the value. -/
theorem placeOf_selects {items : List MenuItem} (hitems : items ≠ []) (value : Float) :
    Parameter.placeOf items value < items.length ∧
      Selects items value (Parameter.placeOf items value) := by
  rw [Parameter.placeOf]
  cases hfound : items.findIdx? fun item => item.value == value with
  | none =>
    exact ⟨List.length_pos_iff.mpr hitems, .inr ⟨rfl, List.findIdx?_eq_none_iff.mp hfound⟩⟩
  | some place =>
    obtain ⟨hlt, hvalue, hearlier⟩ := List.findIdx?_eq_some_iff_getElem.mp hfound
    refine ⟨hlt, .inl ⟨items[place], List.getElem?_eq_getElem hlt, hvalue, ?_⟩⟩
    intro earlier hmem
    obtain ⟨i, hi, rfl⟩ := List.mem_iff_getElem.mp hmem
    rw [Option.getD_some, List.length_take] at hi
    rw [List.getElem_take]
    exact Bool.eq_false_iff.mpr (hearlier i (by omega))

/-- A number entry has the menu that the first of its styles spells out that spells out any, and
    else that of its range; whatever its numbers are, the menu has an item, and its default is the
    place that the initial value selects. -/
theorem entry_menu (name : String) (c : Input) (hc : c.kind = .numberEntry) :
    ∃ items place, (Parameter.ofInput name c).kind = .menu items place ∧
      EntryMenu c items place := by
  have hkind : (Parameter.ofInput name c).kind =
      .menu (Parameter.menuOf c) (Parameter.placeOf (Parameter.menuOf c) c.range.init) := by
    rw [Parameter.ofInput, Parameter.kindOf, hc]
  refine ⟨_, _, hkind, ?_⟩
  obtain ⟨items, hfound, hspelled⟩ | ⟨hfound, hnowhere⟩ := findSome?_styles c.info
  · rw [Parameter.menuOf, hfound, Option.getD_some]
    have hitems : items ≠ [] := by
      obtain ⟨before, style, after, -, hstyle, -⟩ := hspelled
      exact ofStyle_ne_nil hstyle
    obtain ⟨hlt, hselects⟩ := placeOf_selects hitems c.range.init
    exact ⟨hlt, hselects, .inl hspelled⟩
  · rw [Parameter.menuOf, hfound, Option.getD_none]
    obtain ⟨hitems, hrange⟩ := ofRange_rangeMenu c.range
    obtain ⟨hlt, hselects⟩ := placeOf_selects hitems c.range.init
    exact ⟨hlt, hselects, .inr ⟨hnowhere, hrange⟩⟩

/-- A number entry without a lower bound and with bounds the wrong way round, of whose styles the
    second spells out a menu. -/
def shapes : Input where
  kind := .numberEntry
  label := "shape"
  address := "/osc/shape"
  range := ⟨0.0 / 0.0, -1.0, 1.0 / 0.0, 1.0⟩
  info := ⟨[("style", "knob"), ("tooltip", "a menu"),
    ("style", "menu\x7b\x27Sine\x27:0;\x27Saw\x27:1\x7d"),
    ("style", "menu\x7b\x27Noise\x27:1\x7d")]⟩

/-- A number entry of whose styles none spells out a menu. Between its bounds there is room for
    three steps and a part of one. -/
def detune : Input where
  kind := .numberEntry
  label := "detune"
  address := "/osc/detune"
  range := ⟨-0.5, 2.0, 0.75, 1.0⟩
  info := ⟨[("style", "menu"), ("style", "knob")]⟩

theorem entry_menu_of_shapes :
    shapes.kind = .numberEntry ∧
      (∃ items place, (Parameter.ofInput "Shape" shapes).kind = .menu items place ∧
        EntryMenu shapes items place) ∧
      (Parameter.ofInput "Shape" shapes).kind =
        .menu [⟨"Sine", "Sine", 0⟩, ⟨"Saw", "Saw", 1⟩] 1 ∧
      detune.kind = .numberEntry ∧
      (∃ items place, (Parameter.ofInput "Detune" detune).kind = .menu items place ∧
        EntryMenu detune items place) ∧
      (Parameter.ofInput "Detune" detune).kind =
        .menu [⟨"-0.5", "-0.5", -0.5⟩, ⟨"0.25", "0.25", 0.25⟩, ⟨"1", "1", 1.0⟩,
          ⟨"1.75", "1.75", 1.75⟩] 2 :=
  ⟨rfl, entry_menu "Shape" shapes rfl, by decide +kernel, rfl, entry_menu "Detune" detune rfl,
    by decide +kernel⟩

end ControlSurface.Menu
