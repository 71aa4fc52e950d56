import ControlSurface.Proofs.Completion
import Mathlib.Logic.Relation

/- The first voice stands for all. With voices apart a leaf is left out as a duplicate if some
   leaf has its address in the first voice, its twin. That leaf may be left out in turn, for a
   twin of its own, since the filter looks among all addresses and not among those that are
   shown. What is proved:
     1. `canonicalSegments_eq` — a twin has the first voice at one place where the address has
        the shared voices; the place is right behind a polyphonic group and is not the last.
     2. `Filter.check_of_twin` — the twin is shown or a duplicate itself: it has the same last
        segment, so no other rule leaves it out.
     3. `Filter.exists_shown_twin` — a chain of twins ends in an address that is shown. Each
        twin names the shared voices once less, so the chain cannot go on forever.
     4. `build_keeps_first_voice` — a build that ends well has a widget at the end of the chain,
        wherever in the description the leaves stand. -/
namespace ControlSurface

namespace Voice

/-- The segments of an address. -/
def path (address : String) : List (List Char) := Text.segments '/' address.toList

/-- An address and the same control in the first voice. -/
def Twin (a b : String) : Prop := canonical? a = some b

/-- Segments with the first voice in place of some of the shared voices, each right behind a
    polyphonic group and none of them last. All other segments are the same. -/
structure InFirstVoice (ss ts : List (List Char)) : Prop where
  length : ts.length = ss.length
  segment : ∀ i : Nat, ts[i]? = ss[i]? ∨
    i + 1 < ss.length ∧ ss[i]? = some voices ∧ ts[i]? = some firstVoice ∧
      ∃ j : Nat, i = j + 1 ∧ ss[j]? = some polyphonic
  moved : ∃ i : Nat, ss[i]? = some voices ∧ ts[i]? = some firstVoice

/-! ## One twin -/

/-- The place of the shared voices that a twin moves to the first voice. -/
theorem canonicalSegments_eq {ss ts : List (List Char)} (h : canonicalSegments ss = some ts) :
    ∃ before after, after ≠ [] ∧ ss = before ++ polyphonic :: voices :: after ∧
      ts = before ++ polyphonic :: firstVoice :: after := by
  fun_induction canonicalSegments ss generalizing ts with
  | case1 => cases h
  | case2 => cases h
  | case3 => cases h
  | case4 a b rest hab hrest =>
    cases h
    exact ⟨[], rest, hrest, by rw [hab.1, hab.2]; rfl, by rw [hab.1]; rfl⟩
  | case5 a b rest _ ih =>
    obtain ⟨us, hus, rfl⟩ := Option.map_eq_some_iff.mp h
    obtain ⟨before, after, hafter, hss, rfl⟩ := ih hus
    exact ⟨a :: before, after, hafter, by rw [hss]; rfl, rfl⟩

theorem InFirstVoice.of_canonicalSegments {ss ts : List (List Char)}
    (h : canonicalSegments ss = some ts) : InFirstVoice ss ts := by
  obtain ⟨before, after, hafter, rfl, rfl⟩ := canonicalSegments_eq h
  have hlen : 0 < after.length := List.length_pos_iff.mpr hafter
  have hplace : (before ++ polyphonic :: voices :: after)[before.length + 1]? = some voices ∧
      (before ++ polyphonic :: firstVoice :: after)[before.length + 1]? = some firstVoice := by
    simp
  refine ⟨by simp, fun i => ?_, ⟨_, hplace⟩⟩
  by_cases hi : i = before.length + 1
  · subst hi
    exact .inr ⟨by simp; omega, hplace.1, hplace.2, before.length, rfl, by simp⟩
  · left
    -- Everywhere else the two lists are put together from the same parts.
    rw [List.getElem?_append, List.getElem?_append]
    split
    · rfl
    · obtain h0 | ⟨k, hk⟩ : i - before.length = 0 ∨ ∃ k, i - before.length = k + 2 := by
        rcases hd : i - before.length with _ | _ | k
        · exact .inl rfl
        · omega
        · exact .inr ⟨k, rfl⟩
      · rw [h0]; rfl
      · rw [hk]; rfl

theorem InFirstVoice.trans {ss ms ts : List (List Char)} (h : InFirstVoice ss ms)
    (h' : InFirstVoice ms ts) : InFirstVoice ss ts := by
  have hvoices : firstVoice ≠ voices := by decide
  have hpoly : firstVoice ≠ polyphonic := by decide
  -- Only the first voice comes in, so what the second step looks at was there before.
  have hback : ∀ (i : Nat) (s : List Char), s ≠ firstVoice → ms[i]? = some s →
      ss[i]? = some s := by
    intro i s hs hm
    rcases h.segment i with hi | ⟨-, -, hi, -⟩
    · rw [← hi, hm]
    · rw [hm] at hi
      exact absurd (Option.some.inj hi) hs
  refine ⟨h'.length.trans h.length, fun i => ?_, ?_⟩
  · rcases h'.segment i with hi | ⟨hlt, hm, ht, j, rfl, hj⟩
    · rw [hi]
      exact h.segment i
    · rw [h.length] at hlt
      exact .inr ⟨hlt, hback _ _ hvoices.symm hm, ht, j, rfl, hback _ _ hpoly.symm hj⟩
  · obtain ⟨i, hm, ht⟩ := h'.moved
    exact ⟨i, hback _ _ hvoices.symm hm, ht⟩

/-- The segments of a twin are those of the address in the first voice. -/
theorem canonicalSegments_path {a b : String} (h : Twin a b) :
    canonicalSegments (path a) = some (path b) := by
  obtain ⟨cs, hcs, rfl⟩ := Option.map_eq_some_iff.mp h
  obtain ⟨ts, hts, rfl⟩ := Option.map_eq_some_iff.mp hcs
  obtain ⟨before, after, -, hpath, rfl⟩ := canonicalSegments_eq hts
  have hmark : ∀ s ∈ before ++ polyphonic :: firstVoice :: after, '/' ∉ s := by
    intro s hs
    have hold : s = firstVoice ∨ s ∈ path a := by
      rw [path, hpath]
      simp only [List.mem_append, List.mem_cons] at hs ⊢
      tauto
    rcases hold with rfl | hold
    · decide
    · exact Text.mark_not_mem_of_mem_segments hold
  have hback := Text.segments_joinSegments (by simp) hmark
  rw [path, path, hts, String.toList_ofList, hback]

/-- A twin names the shared voices once less. -/
theorem Twin.count_lt {a b : String} (h : Twin a b) :
    (path b).count voices < (path a).count voices := by
  obtain ⟨before, after, -, ha, hb⟩ := canonicalSegments_eq (canonicalSegments_path h)
  have hfirst : (firstVoice == voices) = false := by decide
  have hpoly : (polyphonic == voices) = false := by decide
  rw [ha, hb]
  simp [List.count_cons, hfirst, hpoly]

/-- A twin has the same last segment. -/
theorem Twin.lastSegment_eq {a b : String} (h : Twin a b) :
    Text.lastSegment '/' b.toList = Text.lastSegment '/' a.toList := by
  obtain ⟨before, after, hafter, ha, hb⟩ := canonicalSegments_eq (canonicalSegments_path h)
  have hlast : ∀ s : List Char,
      (before ++ polyphonic :: s :: after).getLast? = after.getLast? := by
    intro s
    rw [List.getLast?_append_of_ne_nil _ (by simp), List.getLast?_cons_cons]
    cases after with
    | nil => contradiction
    | cons t ts => rw [List.getLast?_cons_cons]
  rw [path] at ha hb
  rw [Text.lastSegment, Text.lastSegment, ha, hb, hlast, hlast]

/-! ## A chain of twins -/

namespace Filter
variable {f : Filter} {a : String}

/-- When an address is left out as a duplicate. -/
theorem check_eq_duplicate_iff : f.check a = some .duplicate ↔
    Text.lastSegment '/' a.toList ≠ panic ∧ f.polyphony = true ∧ f.groupVoices = false ∧
      ∃ b ∈ f.addresses, Twin a b := by
  unfold check Twin
  dsimp only
  by_cases hpanic : Text.lastSegment '/' a.toList = panic
  · simp [hpanic]
  · rw [if_neg hpanic]
    cases f.polyphony <;> cases f.groupVoices <;> cases canonical? a <;> simp [hpanic]

/-- Of a duplicate some twin is an address, and it is shown or a duplicate itself. -/
theorem check_of_twin (h : f.check a = some .duplicate) :
    ∃ b ∈ f.addresses, Twin a b ∧ (f.check b = none ∨ f.check b = some .duplicate) := by
  obtain ⟨hname, hpoly, hgroup, b, hb, htwin⟩ := check_eq_duplicate_iff.mp h
  refine ⟨b, hb, htwin, ?_⟩
  unfold check
  dsimp only
  rw [htwin.lastSegment_eq, if_neg hname, hpoly, hgroup]
  cases canonical? b with
  | none => exact .inl rfl
  | some twin => by_cases hmem : twin ∈ f.addresses <;> simp [hmem]

/-- A chain of twins leads from a duplicate to an address that is shown. -/
theorem exists_shown_twin (h : f.check a = some .duplicate) :
    ∃ b ∈ f.addresses, f.check b = none ∧ Relation.TransGen Twin a b := by
  induction hn : (path a).count voices using Nat.strongRecOn generalizing a with
  | _ n ih =>
    subst hn
    obtain ⟨b, hb, htwin, hshown | hagain⟩ := check_of_twin h
    · exact ⟨b, hb, hshown, .single htwin⟩
    · obtain ⟨c, hc, hshown, hchain⟩ := ih _ htwin.count_lt hagain rfl
      exact ⟨c, hc, hshown, .head htwin hchain⟩

end Filter

/-- At the end of a chain of twins the first voice stands in place of shared voices. -/
theorem InFirstVoice.of_chain {a b : String} (h : Relation.TransGen Twin a b) :
    InFirstVoice (path a) (path b) := by
  induction h with
  | single h => exact .of_canonicalSegments (canonicalSegments_path h)
  | tail _ h ih => exact ih.trans (.of_canonicalSegments (canonicalSegments_path h))

end Voice

namespace Build

open Voice

/-- An address that the filter shows, among those of the description, is that of a widget. -/
theorem Inventory.exists_widget {A B : Session} {d : Description} {report : Report}
    (h : Inventory A d report B) {address : String}
    (hmem : address ∈ (voicesOf A.builder.config d).addresses)
    (hshown : (voicesOf A.builder.config d).check address = none) :
    ∃ w ∈ B.builder.widgets, w.address = address := by
  obtain ⟨stated, hstated, rfl⟩ := List.mem_map.mp hmem
  obtain ⟨l, hl, rfl⟩ := List.mem_map.mp hstated
  have hleaf : l ∈ shownLeaves A.builder.config d := by
    rw [shownLeaves, List.mem_filter, isShown, Option.isNone_iff_eq_none]
    exact ⟨hl, hshown⟩
  have hwidget : l.canonical A.builder.config.stripRoot ∈ B.builder.widgets.map (·.address) := by
    rw [h.addresses, List.mem_eraseDups]
    exact List.mem_map_of_mem hleaf
  exact List.mem_map.mp hwidget

/-- Every leaf that is left out as a duplicate has a widget in the first voice: the widget's
    address is reached from the leaf's by taking twins, and is the leaf's with the first voice
    in place of shared voices. -/
theorem build_keeps_first_voice (A : Session) (d : Description) (usePanel : Bool)
    (refusal : Option Nat) (report : Report)
    (h : (A.take refusal (buildDescription d usePanel)).1 = .ok report) :
    ∀ l ∈ d.leaves, (voicesOf A.builder.config d).check (l.canonical A.builder.config.stripRoot) =
        some .duplicate →
      ∃ w ∈ (A.take refusal (buildDescription d usePanel)).2.builder.widgets,
        Relation.TransGen Twin (l.canonical A.builder.config.stripRoot) w.address ∧
        InFirstVoice (path (l.canonical A.builder.config.stripRoot)) (path w.address) := by
  intro l _ hskip
  obtain ⟨b, hb, hshown, hchain⟩ := Filter.exists_shown_twin hskip
  obtain ⟨w, hw, rfl⟩ := (build_inventory A d usePanel refusal report h).exists_widget hb hshown
  exact ⟨w, hw, hchain, .of_chain hchain⟩

/-- The button of a polyphonic group within another. -/
def innerButton (address : String) : ControlSurface.Node :=
  .input ⟨.button, "go", address, ⟨0, 0, 0, 0⟩, Meta.empty⟩

/-- The shared voices of one polyphonic group hold another. The twin of their button is left
    out itself, and the button of the first voices stands before both. -/
def nestedVoices : Description where
  name := none
  inputs := none
  outputs := none
  info := Meta.empty
  nodes := [.group .vertical "synth" Meta.empty
    [innerButton "/Polyphonic/Voice1/Polyphonic/Voice1/go",
     innerButton "/Polyphonic/Voices/Polyphonic/Voices/go",
     innerButton "/Polyphonic/Voice1/Polyphonic/Voices/go"]]

/-- A session in which the voices are apart. -/
def voicesApart : Session :=
  Session.new { Config.default with polyphony := true, groupVoices := false }

theorem build_keeps_first_voice_of_nested :
    let voices := voicesOf voicesApart.builder.config nestedVoices
    let shared : Leaf := .input
      ⟨.button, "go", "/Polyphonic/Voices/Polyphonic/Voices/go", ⟨0, 0, 0, 0⟩, Meta.empty⟩
    ∃ report, (voicesApart.take none (buildDescription nestedVoices true)).1 = .ok report ∧
      shared ∈ nestedVoices.leaves ∧ voices.check (shared.canonical true) = some .duplicate ∧
      voices.check "/Polyphonic/Voice1/Polyphonic/Voices/go" = some .duplicate ∧
      ∃ w ∈ (voicesApart.take none (buildDescription nestedVoices true)).2.builder.widgets,
        Relation.TransGen Twin (shared.canonical true) w.address ∧
        InFirstVoice (path (shared.canonical true)) (path w.address) := by
  intro voices shared
  obtain ⟨report, h⟩ := Session.build_free_ok (A := voicesApart) Panel.Tree.empty_rooted
    nestedVoices true
  have hmem : shared ∈ nestedVoices.leaves := by
    simp [nestedVoices, innerButton, shared, Description.leaves, Node.flattenAll, Node.flatten,
      Node.leaf?]
  have hskip : voices.check (shared.canonical true) = some .duplicate := by decide +kernel
  exact ⟨report, h, hmem, hskip, by decide +kernel,
    build_keeps_first_voice _ _ _ _ _ h _ hmem hskip⟩

end Build

end ControlSurface
