import ControlSurface.Xml.Reader

/- Texts of XML documents. An element has many texts: blanks stand between its attributes, either
   quote opens a value, a character stands for itself or is written as an entity, text may stand
   in verbatim sections, and comments stand anywhere in it (`Element.Writes`). The compact text
   of an element is one of them (`Element.writes_compact`). -/
namespace ControlSurface.Xml

open Text (isBlank)

/-! ## Texts of elements -/

/-- Blanks. -/
def IsBlanks (gap : List Char) : Prop := ∀ c ∈ gap, isBlank c = true

theorem isBlanks_nil : IsBlanks [] := List.forall_mem_nil _

/-- A name of elements and attributes. -/
def IsName (s : String) : Prop := s.toList ≠ [] ∧ ∀ c ∈ s.toList, isNameChar c = true

/-- Whether a text is a name. -/
def isName (s : String) : Bool := !s.toList.isEmpty && s.toList.all isNameChar

theorem isName_iff {s : String} : isName s = true ↔ IsName s := by
  simp [isName, IsName]

/-- The bytes of a text. -/
def byteCount : List Char → Nat
  | [] => 0
  | c :: cs => c.utf8Size + byteCount cs

/-- The name of an entity that stands for a character. -/
structure IsEntity (name : List Char) (c : Char) : Prop where
  char : entityChar? name = some c
  short : byteCount name ≤ 10
  plain : ';' ∉ name

/-- The texts of an attribute value between quotes. -/
inductive WritesValue (quote : Char) : List Char → List Char → Prop
  | nil : WritesValue quote [] []
  | plain {c : Char} {cs ts : List Char} (notQuote : c ≠ quote) (notAmpersand : c ≠ '&')
      (rest : WritesValue quote cs ts) : WritesValue quote (c :: cs) (c :: ts)
  | entity {name : List Char} {c : Char} {cs ts : List Char} (entity : IsEntity name c)
      (rest : WritesValue quote cs ts) : WritesValue quote (c :: cs) ('&' :: (name ++ ';' :: ts))

/-- The texts of attributes: blanks before each, a name, and a value between quotes. -/
inductive WritesAttributes : List (String × String) → List Char → Prop
  | nil : WritesAttributes [] []
  | cons {key value : String} {attributes : List (String × String)} {quote : Char}
      {gap before after body rest : List Char} (gap_ne : gap ≠ []) (blanks : IsBlanks gap)
      (name : IsName key) (blanksBefore : IsBlanks before) (blanksAfter : IsBlanks after)
      (isQuote : quote = '\x22' ∨ quote = '\x27') (held : WritesValue quote value.toList body)
      (others : WritesAttributes attributes rest) :
      WritesAttributes ((key, value) :: attributes)
        (gap ++ (key.toList ++ (before ++ '=' :: (after ++ quote :: (body ++ quote :: rest)))))

/-- What a comment may hold. -/
def IsComment (body : List Char) : Prop :=
  ¬['-', '-', '>'] <:+: ['<', '!', '-', '-'] ++ body

/-- The texts of character data, comments included. -/
inductive WritesText : List Char → List Char → Prop
  | nil : WritesText [] []
  | plain {c : Char} {cs ts : List Char} (notBracket : c ≠ '<') (notAmpersand : c ≠ '&')
      (rest : WritesText cs ts) : WritesText (c :: cs) (c :: ts)
  | entity {name : List Char} {c : Char} {cs ts : List Char} (entity : IsEntity name c)
      (rest : WritesText cs ts) : WritesText (c :: cs) ('&' :: (name ++ ';' :: ts))
  | verbatim {data cs ts : List Char} (closed : ¬[']', ']', '>'] <:+: data)
      (rest : WritesText cs ts) :
      WritesText (data ++ cs)
        (['<', '!', '[', 'C', 'D', 'A', 'T', 'A', '['] ++ (data ++ ([']', ']', '>'] ++ ts)))
  | comment {body cs ts : List Char} (closed : IsComment body) (rest : WritesText cs ts) :
      WritesText cs (['<', '!', '-', '-'] ++ (body ++ (['-', '-', '>'] ++ ts)))

mutual

/-- The texts of an element, wherever it stands. -/
def Element.Writes : Element → List Char → Prop
  | ⟨name, attributes, text, children, _⟩, t =>
    IsName name ∧ ∃ tags gap ending, WritesAttributes attributes tags ∧ IsBlanks gap ∧
      (text = "" ∧ children = [] ∧ ending = ['/', '>'] ∨
        ∃ body behind, WritesContent children text.toList body ∧ IsBlanks behind ∧
          ending = '>' :: (body ++ '<' :: '/' :: (name.toList ++ (behind ++ ['>'])))) ∧
      t = '<' :: (name.toList ++ (tags ++ (gap ++ ending)))

/-- The texts of children and of the character data around them. -/
def WritesContent : List Element → List Char → List Char → Prop
  | [], cs, t => WritesText cs t
  | e :: es, cs, t => ∃ before after first child rest, WritesText before first ∧ e.Writes child ∧
      WritesContent es after rest ∧ cs = before ++ after ∧ t = first ++ (child ++ rest)

end

/-- The texts of what may stand around the root: blanks, comments and instructions. -/
inductive WritesOuter : List Char → Prop
  | nil : WritesOuter []
  | blank {c : Char} {ts : List Char} (blank : isBlank c = true) (rest : WritesOuter ts) :
      WritesOuter (c :: ts)
  | comment {body ts : List Char} (closed : IsComment body) (rest : WritesOuter ts) :
      WritesOuter (['<', '!', '-', '-'] ++ (body ++ (['-', '-', '>'] ++ ts)))
  | instruction {body ts : List Char} (closed : ¬['?', '>'] <:+: ['<', '?'] ++ body)
      (rest : WritesOuter ts) : WritesOuter (['<', '?'] ++ (body ++ (['?', '>'] ++ ts)))

/-- The texts of a document with a root. -/
def WritesDocument (root : Element) (text : String) : Prop :=
  ∃ before t after, WritesOuter before ∧ root.Writes t ∧ WritesOuter after ∧
    text.toList = before ++ (t ++ after)

/-! ## Compact texts -/

/-- A character with no other meaning: a bracket, an ampersand and a quote by their names. -/
def escapedChar (c : Char) : List Char :=
  if c = '<' then ['&', 'l', 't', ';']
  else if c = '&' then ['&', 'a', 'm', 'p', ';']
  else if c = '\x22' then ['&', 'q', 'u', 'o', 't', ';']
  else [c]

/-- The compact text of attributes. -/
def compactAttributes : List (String × String) → List Char
  | [] => []
  | (key, value) :: attributes =>
    ' ' :: (key.toList ++ '=' :: '\x22' :: (value.toList.flatMap escapedChar ++ '\x22' ::
      compactAttributes attributes))

namespace Element

mutual

/-- The compact text of an element: all its character data stands before its children. -/
def compact : Element → List Char
  | ⟨name, attributes, text, children, _⟩ =>
    '<' :: (name.toList ++ (compactAttributes attributes ++ '>' ::
      ((text.toList.flatMap escapedChar ++ compactAll children) ++ '<' :: '/' ::
        (name.toList ++ ['>']))))

/-- The compact texts of elements. -/
def compactAll : List Element → List Char
  | [] => []
  | e :: es => compact e ++ compactAll es

end

mutual

/-- Whether an element, its attributes and all below it have names. -/
def isNamed : Element → Bool
  | ⟨name, attributes, _, children, _⟩ =>
    isName name && attributes.all (isName ·.1) && areNamed children

/-- Whether all of elements have names. -/
def areNamed : List Element → Bool
  | [] => true
  | e :: es => isNamed e && areNamed es

end

end Element

theorem Element.areNamed_iff {es : List Element} :
    Element.areNamed es = true ↔ ∀ e ∈ es, e.isNamed = true := by
  induction es with
  | nil => exact iff_of_true rfl (List.forall_mem_nil _)
  | cons e es ih => rw [Element.areNamed, Bool.and_eq_true, ih, List.forall_mem_cons]

theorem isEntity_lt : IsEntity ['l', 't'] '<' := ⟨rfl, by decide, by decide⟩

theorem isEntity_amp : IsEntity ['a', 'm', 'p'] '&' := ⟨rfl, by decide, by decide⟩

theorem isEntity_quot : IsEntity ['q', 'u', 'o', 't'] '\x22' := ⟨rfl, by decide, by decide⟩

/-- Escaped text is a text of character data. -/
theorem writesText_escaped (cs : List Char) : WritesText cs (cs.flatMap escapedChar) := by
  induction cs with
  | nil => exact .nil
  | cons c cs ih =>
    rw [List.flatMap_cons, escapedChar]
    split
    · next h => exact h ▸ .entity isEntity_lt ih
    split
    · next h => exact h ▸ .entity isEntity_amp ih
    split
    · next h => exact h ▸ .entity isEntity_quot ih
    · next notBracket notAmpersand _ => exact .plain notBracket notAmpersand ih

/-- Escaped text is a text of a value between double quotes. -/
theorem writesValue_escaped (cs : List Char) :
    WritesValue '\x22' cs (cs.flatMap escapedChar) := by
  induction cs with
  | nil => exact .nil
  | cons c cs ih =>
    rw [List.flatMap_cons, escapedChar]
    split
    · next h => exact h ▸ .entity isEntity_lt ih
    split
    · next h => exact h ▸ .entity isEntity_amp ih
    split
    · next h => exact h ▸ .entity isEntity_quot ih
    · next _ notAmpersand notQuote => exact .plain notQuote notAmpersand ih

theorem writesAttributes_compact {attributes : List (String × String)}
    (h : attributes.all (isName ·.1) = true) :
    WritesAttributes attributes (compactAttributes attributes) := by
  induction attributes with
  | nil => exact .nil
  | cons pair attributes ih =>
    obtain ⟨key, value⟩ := pair
    rw [List.all_cons, Bool.and_eq_true] at h
    have hspace : IsBlanks [' '] := List.forall_mem_singleton.mpr rfl
    exact .cons (List.cons_ne_nil _ _) hspace (isName_iff.mp h.1) isBlanks_nil isBlanks_nil
      (.inl rfl) (writesValue_escaped _) (ih h.2)

mutual

/-- The compact text of an element is one of its texts. -/
theorem Element.writes_compact : ∀ e : Element, e.isNamed = true → e.Writes e.compact
  | ⟨name, attributes, text, children, position⟩, h => by
    rw [Element.isNamed, Bool.and_eq_true, Bool.and_eq_true] at h
    rw [Element.Writes, Element.compact]
    exact ⟨isName_iff.mp h.1.1, _, [], _, writesAttributes_compact h.1.2, isBlanks_nil,
      .inr ⟨_, [], writesContent_compact children h.2 text.toList, isBlanks_nil, rfl⟩, rfl⟩

theorem writesContent_compact : ∀ es : List Element, Element.areNamed es = true →
    ∀ cs : List Char, WritesContent es cs (cs.flatMap escapedChar ++ Element.compactAll es)
  | [], _, cs => by
    rw [WritesContent, Element.compactAll, List.append_nil]
    exact writesText_escaped cs
  | e :: es, h, cs => by
    rw [Element.areNamed, Bool.and_eq_true] at h
    rw [WritesContent, Element.compactAll]
    exact ⟨cs, [], _, _, _, writesText_escaped cs, e.writes_compact h.1,
      writesContent_compact es h.2 [], (List.append_nil cs).symm, rfl⟩

end

/-- The compact text of a root is a text of its document. -/
theorem writesDocument_compact {root : Element} (h : root.isNamed = true) :
    WritesDocument root (String.ofList root.compact) :=
  ⟨[], _, [], .nil, root.writes_compact h, .nil, by
    rw [String.toList_ofList, List.nil_append, List.append_nil]⟩

end ControlSurface.Xml
