import ControlSurface.Proofs.Lines
import ControlSurface.Proofs.MarkupReading
import ControlSurface.Proofs.Resolution

/- Positions in XML documents are true. The reader only moves forward, so each place that it comes
   to has the position behind the part of the text that it has passed over (`Cursor.Reaches`).

   What is proved:
     1. `readElement_traces`: an element is read from its bracket on, and on the way the brackets
        and names of all elements in it are passed in document order (`Marks`); a failure is at a
        place that the reader came to (`Traces`).
     2. `readDocument_traces`: so is a document.
     3. `positions_hold`: elements have the positions of their brackets, later ones in document
        order have later positions, and whatever is wrong with a text is told with the position
        behind a part of it. -/
namespace ControlSurface.Xml

open Text (Position StandsAt)

/-! ## Places that the reader comes to -/

/-- A place is behind another one by some text. -/
def Cursor.Reaches (c d : Cursor) : Prop :=
  ∃ passed, c.rest = passed ++ d.rest ∧ d.position = c.position.afterAll passed

namespace Cursor.Reaches

theorem refl (c : Cursor) : c.Reaches c := ⟨[], rfl, rfl⟩

theorem trans {c d e : Cursor} (h : c.Reaches d) (h' : d.Reaches e) : c.Reaches e := by
  obtain ⟨first, hfirst, hd⟩ := h
  obtain ⟨second, hsecond, he⟩ := h'
  refine ⟨first ++ second, ?_, ?_⟩
  · rw [hfirst, hsecond, List.append_assoc]
  · rw [he, hd, Position.afterAll_append]

theorem skip (c : Cursor) (n : Nat) : c.Reaches (c.skip n) :=
  ⟨c.rest.take n, (List.take_append_drop n c.rest).symm, rfl⟩

theorem skipBlanks (c : Cursor) : c.Reaches c.skipBlanks := skip c _

theorem step (c : Cursor) : c.Reaches c.step := by
  unfold Cursor.step
  split
  · exact refl c
  · next d cs h => exact ⟨[d], h, rfl⟩

/-- A place is no earlier than one that it is behind. -/
theorem position {c d : Cursor} (h : c.Reaches d) :
    d.position = c.position ∨ c.position.Before d.position := by
  obtain ⟨passed, -, hd⟩ := h
  rw [hd]
  by_cases hpassed : passed = []
  · subst hpassed
    exact .inl rfl
  · exact .inr (Position.before_afterAll _ hpassed)

end Cursor.Reaches

/-- A reader that started at a place has a result of a kind, or fails at a place behind it. -/
abbrev Traces {α : Type} (c : Cursor) (Q : α → Prop) : Except Failure α → Prop :=
  Comes Q fun f => ∃ d, c.Reaches d ∧ f.position = d.position

namespace Traces
variable {α : Type} {Q : α → Prop} {c d : Cursor} {r : Except Failure α}

theorem stop (h : c.Reaches d) (fault : Fault) : Traces c Q (d.stop fault) := ⟨d, h, rfl⟩

theorem earlier (hd : c.Reaches d) (h : Traces d Q r) : Traces c Q r := by
  refine h.imp_error fun f hf => ?_
  obtain ⟨e, he, hposition⟩ := hf
  exact ⟨e, hd.trans he, hposition⟩

end Traces

/-! ## Pieces of a tag -/

theorem expect_traces (c : Cursor) (d : Char) (fault : Fault) :
    Traces c c.Reaches (c.expect d fault) := by
  unfold Cursor.expect
  split
  · exact .step c
  · exact Traces.stop (.step c) fault

/-- A name is read as far as it goes. -/
theorem readName_traces (c : Cursor) :
    Traces c (fun r => c.Reaches r.2 ∧ (∀ d ∈ r.1.toList, isNameChar d = true) ∧
      c.rest = r.1.toList ++ r.2.rest ∧ ∀ d ∈ r.2.rest.head?, isNameChar d = false)
      (readName c) := by
  have hdrop : c.rest.drop (c.rest.takeWhile isNameChar).length = c.rest.dropWhile isNameChar := by
    have hdrop := congrArg (List.drop (c.rest.takeWhile isNameChar).length)
      (List.takeWhile_append_dropWhile (p := isNameChar) (l := c.rest))
    rw [List.drop_left] at hdrop
    exact hdrop.symm
  unfold readName
  split
  · exact Traces.stop (.refl c) _
  · refine .ok ⟨.skip c _, ?_, ?_, ?_⟩
    · rw [String.toList_ofList]
      exact fun d hd => List.mem_takeWhile_imp hd
    · rw [String.toList_ofList, Cursor.skip_rest, hdrop, List.takeWhile_append_dropWhile]
    · rw [Cursor.skip_rest, hdrop]
      intro d hd
      have hend := List.head?_dropWhile_not isNameChar c.rest
      rw [Option.mem_def.mp hd] at hend
      simpa using hend

theorem readSection_traces (part : Section) (mark : List Char) (c : Cursor) :
    Traces c (fun r => c.Reaches r.2) (readSection part mark c) := by
  unfold readSection
  split
  · exact .ok (.skip c _)
  · exact Traces.stop (.refl c) _

theorem readEntity_traces (c : Cursor) : Traces c (fun r => c.Reaches r.2) (readEntity c) := by
  unfold readEntity
  split
  · exact Traces.stop (.refl c) _
  · split
    · exact .ok (.skip c _)
    · exact Traces.stop (.refl c) _

section
variable {c₀ opened : Cursor} (hopened : c₀.Reaches opened)
include hopened

theorem readValueFrom_traces (quote : Char) (fuel : Nat) {c : Cursor} (hc : c₀.Reaches c) :
    Traces c₀ (fun r => c.Reaches r.2) (readValueFrom quote opened fuel c) := by
  induction fuel generalizing c with
  | zero => exact Traces.stop hopened _
  | succ fuel ih =>
    -- The rest of the value is read from where its next character ends.
    have hothers : ∀ (d : Char) (c₁ : Cursor), c.Reaches c₁ →
        Traces c₀ (fun r => c.Reaches r.2)
          (readValueFrom quote opened fuel c₁ >>= fun r => .ok (d :: r.1, r.2)) := by
      intro d c₁ hc₁
      exact .bind (ih (hc.trans hc₁)) fun r hr => .ok (hc₁.trans hr)
    rw [readValueFrom]
    split
    · exact Traces.stop hopened _
    · split
      · exact .ok (.step c)
      · dsimp only
        split
        · exact .bind (Traces.earlier hc (readEntity_traces c)) fun r hr => hothers r.1 r.2 hr
        · exact hothers _ _ (.step c)

end

theorem readValue_traces (c : Cursor) : Traces c (fun r => c.Reaches r.2) (readValue c) := by
  have hquoted : ∀ (quote : Char) (fuel : Nat), Traces c (fun r => c.Reaches r.2)
      ((readValueFrom quote c fuel c.step).map fun r => (String.ofList r.1, r.2)) := by
    intro quote fuel
    refine .map (.imp (readValueFrom_traces (.refl c) quote fuel (.step c)) ?_)
    exact fun r hr => (Cursor.Reaches.step c).trans hr
  unfold readValue
  split
  · exact hquoted _ _
  · exact hquoted _ _
  · exact Traces.stop (.refl c) _

section
variable {c₀ opened : Cursor} (hopened : c₀.Reaches opened)
include hopened

theorem readAttributesFrom_traces (name : String) (fuel : Nat) {c : Cursor} (hc : c₀.Reaches c) :
    Traces c₀ (fun r => c.Reaches r.2.2) (readAttributesFrom name opened fuel c) := by
  induction fuel generalizing c with
  | zero => exact Traces.stop hopened _
  | succ fuel ih =>
    have hskip : c.Reaches c.skipBlanks := .skipBlanks c
    rw [readAttributesFrom]
    dsimp only
    split
    · exact Traces.stop hopened _
    · have hslash : c.Reaches c.skipBlanks.step := hskip.trans (.step _)
      refine .bind (Traces.earlier (hc.trans hslash) (expect_traces _ _ _)) fun c₁ hc₁ => ?_
      exact .ok (hslash.trans hc₁)
    · exact .ok (hskip.trans (.step _))
    · refine .bind (Traces.earlier (hc.trans hskip) (readName_traces _)) ?_
      rintro ⟨key, c₁⟩ ⟨hc₁, -⟩
      have hkey : c.Reaches c₁.skipBlanks := (hskip.trans hc₁).trans (.skipBlanks _)
      refine .bind (Traces.earlier (hc.trans hkey) (expect_traces _ _ _)) fun c₂ hc₂ => ?_
      have hequals : c.Reaches c₂.skipBlanks := (hkey.trans hc₂).trans (.skipBlanks _)
      refine .bind (Traces.earlier (hc.trans hequals) (readValue_traces _)) fun r hr => ?_
      have hvalue : c.Reaches r.2 := hequals.trans hr
      exact .bind (ih (hc.trans hvalue)) fun others hothers => .ok (hvalue.trans hothers)

end

theorem readClosing_traces (name : String) (c : Cursor) :
    Traces c c.Reaches (readClosing name c) := by
  refine .bind (Traces.earlier (.skip c 2) (readName_traces _)) ?_
  rintro ⟨found, c₁⟩ ⟨hc₁, -⟩
  have hfound : c.Reaches c₁ := (Cursor.Reaches.skip c 2).trans hc₁
  dsimp only
  split
  · have hskip : c.Reaches c₁.skipBlanks := hfound.trans (.skipBlanks _)
    exact .imp (Traces.earlier hskip (expect_traces _ _ _)) fun d hd => hskip.trans hd
  · exact Traces.stop hfound _

/-! ## Elements -/

/-- An element starts at a place: its bracket and its whole name stand there. -/
structure Element.OpensAt (e : Element) (c : Cursor) : Prop where
  position : e.position = c.position
  named : ∀ d ∈ e.name.toList, isNameChar d = true
  mark : ∃ tail, c.rest = '<' :: (e.name.toList ++ tail) ∧
    ∀ d ∈ tail.head?, isNameChar d = false

/-- From one place to another the reader passes the starts of elements, one after another. -/
inductive Marks : Cursor → List Element → Cursor → Prop where
  | done {c d : Cursor} : c.Reaches d → Marks c [] d
  | opens {c o d : Cursor} {e : Element} {es : List Element} :
    c.Reaches o → e.OpensAt o → Marks o.step es d → Marks c (e :: es) d

namespace Marks
variable {c d : Cursor} {es : List Element}

theorem earlier {b : Cursor} (hc : b.Reaches c) (h : Marks c es d) : Marks b es d := by
  cases h with
  | done hd => exact .done (hc.trans hd)
  | opens ho he hes => exact .opens (hc.trans ho) he hes

theorem append {b : Cursor} {ds : List Element} (h : Marks b ds c) (h' : Marks c es d) :
    Marks b (ds ++ es) d := by
  induction h with
  | done hc => exact h'.earlier hc
  | opens ho he _ ih => exact .opens ho he (ih h')

theorem reaches (h : Marks c es d) : c.Reaches d := by
  induction h with
  | done hd => exact hd
  | opens ho _ _ ih => exact (ho.trans (.step _)).trans ih

theorem exists_opensAt (h : Marks c es d) : ∀ e ∈ es, ∃ o, c.Reaches o ∧ e.OpensAt o := by
  induction h with
  | done => exact List.forall_mem_nil _
  | opens ho he _ ih =>
    rw [List.forall_mem_cons]
    refine ⟨⟨_, ho, he⟩, fun e hmem => ?_⟩
    obtain ⟨o', ho', he'⟩ := ih e hmem
    exact ⟨o', (ho.trans (.step _)).trans ho', he'⟩

/-- Elements whose starts are passed one after another have later and later positions. -/
theorem pairwise (h : Marks c es d) : es.Pairwise fun e f => e.position.Before f.position := by
  induction h with
  | done => exact .nil
  | @opens c o d e es ho he hes ih =>
    refine .cons (fun f hf => ?_) ih
    obtain ⟨o', ho', hf'⟩ := hes.exists_opensAt f hf
    obtain ⟨tail, htail, -⟩ := he.mark
    have hstep : o.position.Before o.step.position := by
      unfold Cursor.step
      rw [htail]
      exact Position.before_after _ _
    rw [he.position, hf'.position]
    rcases ho'.position with heq | hbefore
    · rwa [heq]
    · exact hstep.trans hbefore

end Marks

/-- A reader of elements passes the starts of the element and of all elements in it. -/
def TracesElements (child : Cursor → Except Failure (Element × Cursor)) : Prop :=
  ∀ c, Traces c (fun r => Marks c r.1.flatten r.2) (child c)

section
variable {child : Cursor → Except Failure (Element × Cursor)} (hchild : TracesElements child)
  {c₀ opened : Cursor} (hopened : c₀.Reaches opened)
include hchild hopened

theorem readContentFrom_traces (name : String) (fuel : Nat) {c : Cursor} (hc : c₀.Reaches c) :
    Traces c₀ (fun r => Marks c (Element.flattenAll r.2.1) r.2.2)
      (readContentFrom child name opened fuel c) := by
  induction fuel generalizing c with
  | zero => exact Traces.stop hopened _
  | succ fuel ih =>
    -- The rest of the content is read from where a piece of it ends.
    have hothers : ∀ c₁ : Cursor, c.Reaches c₁ →
        Traces c₀ (fun r => Marks c (Element.flattenAll r.2.1) r.2.2)
          (readContentFrom child name opened fuel c₁) := by
      intro c₁ hc₁
      exact .imp (ih (hc.trans hc₁)) fun r hr => hr.earlier hc₁
    rw [readContentFrom]
    split
    · exact Traces.stop hopened _
    · split
      · refine .bind (Traces.earlier hc (readClosing_traces name c)) fun c₁ hc₁ => ?_
        exact .ok (.done hc₁)
      split
      · exact .bind (Traces.earlier hc (readSection_traces _ _ c)) fun r hr => hothers r.2 hr
      split
      · have hskip : c.Reaches (c.skip 9) := .skip c 9
        refine .bind (Traces.earlier (hc.trans hskip) (readSection_traces _ _ _)) fun r hr => ?_
        exact .bind (hothers r.2 (hskip.trans hr)) fun content hcontent => .ok hcontent
      split
      · refine .bind (Traces.earlier hc (hchild c)) fun r hr => ?_
        refine .bind (ih (hc.trans hr.reaches)) fun content hcontent => ?_
        exact .ok (hr.append hcontent)
      · have htext : ∀ (d : Char) (c₁ : Cursor), c.Reaches c₁ →
            Traces c₀ (fun r => Marks c (Element.flattenAll r.2.1) r.2.2)
              (readContentFrom child name opened fuel c₁ >>= fun r =>
                .ok (d :: r.1, r.2.1, r.2.2)) := by
          intro d c₁ hc₁
          exact .bind (hothers c₁ hc₁) fun content hcontent => .ok hcontent
        dsimp only
        split
        · exact .bind (Traces.earlier hc (readEntity_traces c)) fun r hr => htext r.1 r.2 hr
        · exact htext _ _ (.step c)

end

theorem readElementWith_traces {child : Cursor → Except Failure (Element × Cursor)}
    (hchild : TracesElements child) : TracesElements (readElementWith child) := by
  intro c
  unfold readElementWith
  split
  · exact Traces.stop (.refl c) _
  · next hbracket =>
    obtain ⟨cs, hcs⟩ : ∃ cs, c.rest = '<' :: cs := by
      rw [ne_eq, Decidable.not_not, List.head?_eq_some_iff] at hbracket
      exact hbracket
    have hstep : c.Reaches c.step := .step c
    refine .bind (Traces.earlier hstep (readName_traces _)) ?_
    rintro ⟨name, c₁⟩ ⟨hc₁, hnamed, hrest, hend⟩
    -- Whatever the element holds, it opens here.
    have hopens : ∀ attributes text children,
        Element.OpensAt ⟨name, attributes, text, children, c.position⟩ c := by
      intro attributes text children
      refine ⟨rfl, hnamed, c₁.rest, ?_, hend⟩
      rw [Cursor.step_rest, hcs, List.tail_cons] at hrest
      rw [hcs, hrest]
    refine .bind (readAttributesFrom_traces (.refl c) name _ (hstep.trans hc₁)) ?_
    rintro ⟨attributes, ending, c₂⟩ hc₂
    have htag : c.step.Reaches c₂ := hc₁.trans hc₂
    cases ending with
    | empty => exact .ok (.opens (.refl c) (hopens _ _ _) (.done htag))
    | «open» =>
      refine .bind (readContentFrom_traces hchild (.refl c) name _ (hstep.trans htag)) ?_
      intro content hcontent
      exact .ok (.opens (.refl c) (hopens _ _ _) (hcontent.earlier htag))

theorem readElement_traces (depth : Nat) : TracesElements (readElement depth) := by
  induction depth with
  | zero => exact readElementWith_traces fun c => Traces.stop (.refl c) _
  | succ depth ih => exact readElementWith_traces ih

/-! ## Documents -/

theorem skipOuterFrom_traces (fuel : Nat) (c : Cursor) :
    Traces c c.Reaches (skipOuterFrom fuel c) := by
  induction fuel generalizing c with
  | zero => exact .ok (.refl c)
  | succ fuel ih =>
    have hskip : c.Reaches c.skipBlanks := .skipBlanks c
    rw [skipOuterFrom]
    split
    · exact .ok hskip
    · next part mark _ =>
      have hsection := readSection_traces part mark c.skipBlanks
      split
      · next body c₁ hread =>
        rw [hread] at hsection
        have hc₁ : c.Reaches c₁ := hskip.trans hsection
        exact .imp (Traces.earlier hc₁ (ih c₁)) fun d hd => hc₁.trans hd
      · next f hread =>
        rw [hread] at hsection
        exact Traces.earlier hskip hsection

/-- A document is read from its start on, and the starts of all its elements are passed in
    document order. -/
theorem readDocument_traces (source : String) :
    Traces (Cursor.start source.toList)
      (fun root => ∃ d, Marks (Cursor.start source.toList) root.flatten d)
      (readDocument source) := by
  refine .bind (skipOuterFrom_traces _ _) fun c hc => ?_
  split
  · exact Traces.stop hc _
  · refine .bind (Traces.earlier hc (readElement_traces maxDepth c)) ?_
    rintro ⟨root, c₁⟩ hroot
    have hc₁ := hc.trans hroot.reaches
    refine .bind (Traces.earlier hc₁ (skipOuterFrom_traces _ _)) fun c₂ hc₂ => ?_
    split
    · exact .ok ⟨c₁, hroot.earlier hc⟩
    · exact Traces.stop (hc₁.trans hc₂) _

/-! ## Texts -/

/-- Whatever a place has before it of a text, its position is within the text. -/
theorem Cursor.Reaches.within {cs : List Char} {c : Cursor} (h : (start cs).Reaches c) :
    Text.Within cs c.position := by
  obtain ⟨passed, hpassed, hposition⟩ := h
  rw [hposition, show cs = passed ++ c.rest from hpassed]
  exact Text.within_afterAll passed c.rest

/-- At the position of an element stand its bracket and its whole name. -/
theorem Element.OpensAt.standsAt {cs : List Char} {c : Cursor} {e : Element}
    (h : (Cursor.start cs).Reaches c) (he : e.OpensAt c) :
    ∃ tail, StandsAt cs e.position ('<' :: (e.name.toList ++ tail)) ∧
      ∀ d ∈ tail.head?, isNameChar d = false := by
  obtain ⟨passed, hpassed, hposition⟩ := h
  obtain ⟨tail, htail, hend⟩ := he.mark
  -- A name goes on over no line end.
  have hline : c.rest.takeWhile (· ≠ '\n') =
      '<' :: (e.name.toList ++ tail.takeWhile (· ≠ '\n')) := by
    have hname : ∀ d ∈ e.name.toList, decide (d ≠ '\n') = true := by
      intro d hd
      rw [decide_eq_true_eq]
      rintro rfl
      exact absurd (he.named _ hd) (by decide +kernel)
    rw [htail, List.takeWhile_cons_of_pos (by decide), List.takeWhile_append_of_pos hname]
  refine ⟨tail.takeWhile (· ≠ '\n'), ?_, ?_⟩
  · rw [he.position, hposition, ← hline, show cs = passed ++ c.rest from hpassed]
    exact Text.standsAt_afterAll passed c.rest
  · intro d hd
    cases tail with
    | nil => cases hd
    | cons t tail =>
      rw [List.takeWhile_cons] at hd
      split at hd
      · exact hend d hd
      · cases hd

/-- Positions are true. At the position of an element stand its bracket and its name, and of two
    elements the later one in document order has the later position. Whatever is wrong with a text,
    apart from a type that no node has, is told with the position behind a prefix of the text. -/
theorem positions_hold (text : String) :
    (∀ root, readDocument text = .ok root →
      (∀ e ∈ root.flatten, ∃ tail,
        StandsAt text.toList e.position ('<' :: (e.name.toList ++ tail)) ∧
          ∀ d ∈ tail.head?, isNameChar d = false) ∧
      root.flatten.Pairwise fun d e => d.position.Before e.position) ∧
    ∀ error, Description.Xml.read text = .error error → error.className = "ParseError" →
      ∃ p, error.place = (p.line, p.column) ∧ Text.Within text.toList p := by
  have htraces := readDocument_traces text
  refine ⟨fun root hroot => ?_, fun error herror hclass => ?_⟩
  · rw [hroot] at htraces
    obtain ⟨d, hmarks⟩ := htraces
    refine ⟨fun e he => ?_, hmarks.pairwise⟩
    obtain ⟨o, ho, hopens⟩ := hmarks.exists_opensAt e he
    exact hopens.standsAt ho
  · unfold Description.Xml.read at herror
    split at herror
    · next root hroot =>
      rw [hroot] at htraces
      obtain ⟨d, hmarks⟩ := htraces
      have hsettles := Description.Xml.ofRoot_settles root
      rw [herror] at hsettles
      obtain ⟨e, he, hplace⟩ := hsettles hclass
      obtain ⟨o, ho, hopens⟩ := hmarks.exists_opensAt e he
      refine ⟨e.position, hplace, ?_⟩
      rw [hopens.position]
      exact ho.within
    · next failure hfailure =>
      rw [hfailure] at htraces
      obtain ⟨d, hd, hposition⟩ := htraces
      cases herror
      refine ⟨failure.position, rfl, ?_⟩
      rw [hposition]
      exact hd.within

/-- A document over two lines. -/
def twoLines : String := "<a>\n <b/></a>"

/-- A document with a reference to no widget, on its second line. -/
def emptyReference : String := "<ui><layout>\n<group> <widgetref/></group></layout></ui>"

theorem marks_twoLines :
    (readDocument twoLines).toOption.map
        (fun root => root.flatten.map fun e => (e.name, e.position)) =
      some [("a", ⟨1, 1⟩), ("b", ⟨2, 2⟩)] := by
  decide +kernel

theorem read_emptyReference :
    (Description.Xml.read emptyReference).map (fun _ => ()) =
      .error (.description (.referenceWithoutId ⟨2, 9⟩)) := by
  decide +kernel

/-- The elements on two lines have true positions, and so has the reference to no widget. -/
theorem positions_hold_two_lines :
    (∃ root, readDocument twoLines = .ok root ∧
      root.flatten.map (fun e => (e.name, e.position)) = [("a", ⟨1, 1⟩), ("b", ⟨2, 2⟩)] ∧
      (∀ e ∈ root.flatten, ∃ tail,
        StandsAt twoLines.toList e.position ('<' :: (e.name.toList ++ tail)) ∧
          ∀ d ∈ tail.head?, isNameChar d = false) ∧
      root.flatten.Pairwise fun d e => d.position.Before e.position) ∧
    ∃ error, Description.Xml.read emptyReference = .error error ∧
      error.className = "ParseError" ∧ error.place = (2, 9) ∧
      ∃ p, error.place = (p.line, p.column) ∧ Text.Within emptyReference.toList p := by
  have hmarks := marks_twoLines
  have hreference := read_emptyReference
  constructor
  · cases hread : readDocument twoLines with
    | error failure =>
      rw [hread] at hmarks
      cases hmarks
    | ok root =>
      rw [hread] at hmarks
      exact ⟨root, rfl, Option.some.inj hmarks, (positions_hold twoLines).1 root hread⟩
  · cases hread : Description.Xml.read emptyReference with
    | ok d =>
      rw [hread] at hreference
      cases hreference
    | error error =>
      rw [hread] at hreference
      obtain rfl := Except.error.inj hreference
      exact ⟨_, rfl, rfl, rfl, (positions_hold emptyReference).2 _ hread rfl⟩

end ControlSurface.Xml
