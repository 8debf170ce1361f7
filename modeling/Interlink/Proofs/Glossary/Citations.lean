import Interlink.Proofs.Glossary.Brackets
import Interlink.Proofs.Glossary.CodeSpans
import Interlink.Proofs.Glossary.Searched
import Interlink.Proofs.Glossary.Visible

/-!
# Where references stand

Each reference of a document stands between double brackets on a visible line, and the references
come in the order of their places. The text of a reference is read where code is blanked, so it is
what is written between the brackets just when there is no code between them.
-/

namespace Interlink.Glossary

open Text

variable {ms : List Marked} {name : List Char} {ls : List (List Char)} {r : Reference} {i : Nat}

/-! ## Places -/

structure Place where
  index : Nat
  before : List Marked
  label : List Marked
  rest : List Marked
deriving Inhabited

def Place.line (p : Place) : List Marked := p.before ++ ⟨'[', false⟩ :: ⟨'[', false⟩ :: (p.label ++ p.rest)

def Place.position (p : Place) : Nat × Nat := (p.index, p.before.length)

def Precedes : Nat × Nat → Nat × Nat → Prop := Prod.Lex (· < ·) (· < ·)

def ClosesPlainly (ms : List Marked) : Prop :=
  ∃ shown after, ms = shown ++ ⟨']', false⟩ :: ⟨']', false⟩ :: after ∧
    (shown = [] ∨ ∃ more, shown = ⟨'|', false⟩ :: more)

structure Cites (ls : List (List Char)) (r : Reference) (p : Place) : Prop where
  number : r.line = p.index + 1
  visible : IsVisible ls p.index
  line : ls[p.index]?.map marked = some p.line
  context : r.context = String.ofList (trim (chars p.line))
  name : bracketName? (masked p.label) = some r.text.toList
  closes : ClosesPlainly p.rest

def Place.IsWritten (p : Place) (name : String) : Prop :=
  ∃ left right, chars p.label = left ++ (name.toList ++ right) ∧
    (∀ c ∈ left, isBlank c = true) ∧ ∀ c ∈ right, isBlank c = true

/-! ## References as written -/

/-- The text stands at a column between double brackets, with blanks around it at will. -/
def IsWrittenAt (line text : List Char) (column : Nat) : Prop :=
  ∃ before left right rest, line = before ++ '[' :: '[' :: (left ++ (text ++ (right ++ rest))) ∧
    before.length = column ∧
    (∀ c ∈ left, isBlank c = true) ∧ (∀ c ∈ right, isBlank c = true) ∧
    ∃ shown after, rest = shown ++ ']' :: ']' :: after ∧ (shown = [] ∨ ∃ more, shown = '|' :: more)

structure IsReportedAt (ls : List (List Char)) (r : Reference) (position : Nat × Nat) : Prop where
  number : r.line = position.1 + 1
  visible : IsVisible ls position.1
  written : ∃ line, ls[position.1]? = some line ∧ r.context = String.ofList (trim line) ∧
    IsWrittenAt line r.text.toList position.2

def ReportedAsWritten (ls : List (List Char)) (rs : List Reference) : Prop :=
  ∃ positions, positions.Pairwise Precedes ∧ List.Forall₂ (IsReportedAt ls) rs positions

/-! ## Code in a label -/

theorem countP_of_blanks_around {left right : List Char} (hl : ∀ c ∈ left, isBlank c = true)
    (hr : ∀ c ∈ right, isBlank c = true) :
    (left ++ (name ++ right)).countP (!isBlank ·) = name.countP (!isBlank ·) := by
  have none_of {s : List Char} (h : ∀ c ∈ s, isBlank c = true) : s.countP (!isBlank ·) = 0 :=
    List.countP_eq_zero.mpr fun c hc => by simp [h c hc]
  rw [List.countP_append, List.countP_append, none_of hl, none_of hr, Nat.zero_add, Nat.add_zero]

theorem Cites.getElem?_index {p : Place} (h : Cites ls r p) : ls[p.index]? = some (chars p.line) := by
  obtain ⟨text, ht, hm⟩ := Option.map_eq_some_iff.mp h.line
  rw [ht, ← hm, chars_marked]

theorem Cites.isChain {p : Place} (h : Cites ls r p) : (⟨'[', false⟩ :: p.label).IsChain CodeBefore := by
  obtain ⟨text, -, hm⟩ := Option.map_eq_some_iff.mp h.line
  have whole := isChain_marked text
  rw [hm, Place.line] at whole
  have after : ((⟨'[', false⟩ :: p.label) ++ p.rest).IsChain CodeBefore := whole.right_of_append.tail
  exact after.left_of_append

/-- Only a label without code is written as it is reported. -/
theorem Cites.isWritten_iff {p : Place} (h : Cites ls r p) : p.IsWritten r.text ↔ IsPlain p.label := by
  constructor
  · rintro ⟨left, right, e, hl, hr⟩
    by_contra code
    -- The code in the label begins with a backtick, which is no blank and is missing from what is reported.
    obtain ⟨tick, ht, isCode, char⟩ := exists_tick h.isChain rfl code
    have lost : 0 < p.label.countP fun m => m.isCode && !isBlank m.char :=
      List.countP_pos_iff.mpr ⟨tick, ht, by rw [isCode, char]; decide⟩
    obtain ⟨left', right', e', hl', hr'⟩ := exists_blanks_of_bracketName? h.name
    have count := countP_chars p.label
    rw [e, e', countP_of_blanks_around hl hr, countP_of_blanks_around hl' hr'] at count
    omega
  · intro plain
    rw [Place.IsWritten, chars_eq_masked plain]
    exact exists_blanks_of_bracketName? h.name

theorem Cites.isReportedAt {p : Place} (h : Cites ls r p) (plain : IsPlain p.label) :
    IsReportedAt ls r p.position where
  number := h.number
  visible := h.visible
  written := by
    obtain ⟨left, right, e, hl, hr⟩ := h.isWritten_iff.mpr plain
    obtain ⟨shown, after, hrest, bar⟩ := h.closes
    refine ⟨chars p.line, h.getElem?_index, h.context, chars p.before, left, right, chars p.rest, ?_,
      List.length_map _, hl, hr, chars shown, chars after, ?_, ?_⟩
    · rw [Place.line, chars_append, chars_cons, chars_cons, chars_append, e, List.append_assoc, List.append_assoc]
    · rw [hrest, chars_append, chars_cons, chars_cons]
    · rcases bar with rfl | ⟨more, rfl⟩
      · exact .inl rfl
      · exact .inr ⟨chars more, rfl⟩

/-! ## One line -/

theorem exists_place {k : Nat} (h : IsReference ((masked ms).drop k) name) :
    ∃ before label rest, ms = before ++ ⟨'[', false⟩ :: ⟨'[', false⟩ :: (label ++ rest) ∧
      masked before = (masked ms).take k ∧ bracketName? (masked label) = some name ∧ ClosesPlainly rest := by
  obtain ⟨label, _, e, -, ⟨shown, after, rfl, -, bar⟩, hn⟩ := h
  have whole := (List.take_append_drop k (masked ms)).symm
  rw [e] at whole
  obtain ⟨before, _, rfl, hb, h1⟩ := exists_of_masked_eq whole (by decide)
  obtain ⟨_, rfl, h2⟩ := exists_of_masked_eq_cons h1 (by decide)
  rcases bar with rfl | ⟨more, rfl⟩
  · obtain ⟨label, _, rfl, rfl, h3⟩ := exists_of_masked_eq h2 (by decide)
    obtain ⟨after, rfl, -⟩ := exists_of_masked_eq_cons h3 (by decide)
    exact ⟨before, label, _, rfl, hb, hn, [], after, rfl, .inl rfl⟩
  · obtain ⟨label, _, rfl, rfl, h3⟩ := exists_of_masked_eq h2 (by decide)
    obtain ⟨more, _, rfl, -, h4⟩ := exists_of_masked_eq h3 (by decide)
    obtain ⟨after, rfl, -⟩ := exists_of_masked_eq_cons h4 (by decide)
    exact ⟨before, label, _, rfl, hb, hn, ⟨'|', false⟩ :: more, after, rfl, .inr ⟨more, rfl⟩⟩

theorem exists_places_of_line (path : String) {text : List Char} (hi : ls[i]? = some text)
    (visible : IsVisible ls i) :
    ∃ found : List (Reference × Place), found.map (·.1) = lineReferences path ⟨i + 1, text⟩ ∧
      found.Pairwise (fun x y => Precedes x.2.position y.2.position) ∧
      ∀ x ∈ found, x.2.index = i ∧ Cites ls x.1 x.2 := by
  have place (x : List Char × Nat) (h : IsReference ((masked (marked text)).drop x.2) x.1) :
      ∃ p : Place, p.index = i ∧ p.line = marked text ∧ masked p.before = (masked (marked text)).take x.2 ∧
      bracketName? (masked p.label) = some x.1 ∧ ClosesPlainly p.rest := by
    obtain ⟨before, label, rest, e, found⟩ := exists_place h
    exact ⟨⟨i, before, label, rest⟩, rfl, e.symm, found⟩
  choose! p index line before label rest using place
  -- The columns that the scan finds are those of the masked line, which come in the order of the
  -- places of the line.
  obtain ⟨found, names, order, all⟩ := exists_columns (masked (marked text))
  let reference (name : List Char) : Reference :=
    ⟨String.ofList name, none, path, i + 1, String.ofList (trim text)⟩
  refine ⟨found.map fun x => (reference x.1, p x), ?_, List.pairwise_map.mpr ?_,
    List.forall_mem_map.mpr fun x hx => ?_⟩
  · rw [lineReferences, ← masked_marked, ← names, List.map_map, List.map_map]
    rfl
  · refine order.imp_of_mem fun {x y} hx hy hlt => ?_
    have beginning {x} (hx : x ∈ found) : (p x).before <+: marked text := ⟨_, line x (all x hx)⟩
    rw [Place.position, Place.position, index x (all x hx), index y (all y hy)]
    refine .right i (length_lt_of_masked (beginning hx) (beginning hy) ?_)
    have inLine : y.2 < (masked (marked text)).length := by
      obtain ⟨label, rest, e, -⟩ := all y hy
      by_contra past
      rw [List.drop_eq_nil_of_le (Nat.not_lt.mp past)] at e
      cases e
    rw [before x (all x hx), before y (all y hy), List.length_take, List.length_take]
    omega
  · have h := all x hx
    refine ⟨index x h, ⟨?_, ?_, ?_, ?_, ?_, rest x h⟩⟩
    · rw [index x h]
    · rw [index x h]
      exact visible
    · rw [index x h, hi, line x h]
      rfl
    · rw [line x h, chars_marked]
    · rw [label x h, String.toList_ofList]

/-! ## Documents -/

namespace Document

theorem exists_places (config : TermsConfig) (path text : String) : ∃ found : List (Reference × Place),
    found.map (·.1) = (parse config path text).references ∧
    found.Pairwise (fun x y => Precedes x.2.position y.2.position) ∧
    ∀ x ∈ found, Cites (lines text.toList) x.1 x.2 := by
  have sub := searched_sublist config.headingLevel false (visible text.toList)
  have line (l : Line) (h : l ∈ visible text.toList) : ∃ found : List (Reference × Place),
      found.map (·.1) = lineReferences path l ∧ found.Pairwise (fun x y => Precedes x.2.position y.2.position) ∧
      ∀ x ∈ found, x.2.index + 1 = l.number ∧ Cites (lines text.toList) x.1 x.2 := by
    obtain ⟨i, hn, ht, v⟩ := mem_visible.mp h
    obtain ⟨found, e, order, all⟩ := exists_places_of_line path ht v
    refine ⟨found, ?_, order, fun x hx => ⟨?_, (all x hx).2⟩⟩
    · rw [e, ← hn]
    · rw [(all x hx).1, hn]
  choose! found references order all using line
  refine ⟨(searched config.headingLevel false (visible text.toList)).flatMap found, ?_, ?_, fun x hx => ?_⟩
  · rw [parse, references_ofLines, List.map_flatMap]
    exact List.flatMap_congr fun l hl => references l (sub.subset hl)
  · refine List.pairwise_flatMap.mpr ⟨fun l hl => order l (sub.subset hl), ?_⟩
    refine ((pairwise_number_visible text.toList).sublist sub).imp_of_mem fun {l l'} hl hl' hlt x hx y hy =>
      .left _ _ ?_
    have hx := (all l (sub.subset hl) x hx).1
    have hy := (all l' (sub.subset hl') y hy).1
    omega
  · obtain ⟨l, hl, hx⟩ := List.mem_flatMap.mp hx
    exact (all l (sub.subset hl) x hx).2

/-- Each reference stands at a place of its own, in the order of the document, and is written there
as it is reported just when its label holds no code. So without code in the labels all references
are reported as written. -/
theorem references_at_places (config : TermsConfig) (path text : String) :
    ∃ places : List Place, (places.map Place.position).Pairwise Precedes ∧
      List.Forall₂ (fun r p => Cites (lines text.toList) r p ∧ (p.IsWritten r.text ↔ IsPlain p.label))
        (parse config path text).references places ∧
      ((∀ p ∈ places, IsPlain p.label) →
        ReportedAsWritten (lines text.toList) (parse config path text).references) := by
  obtain ⟨found, references, order, all⟩ := exists_places config path text
  have positions : ((found.map (·.2)).map Place.position).Pairwise Precedes :=
    List.pairwise_map.mpr (List.pairwise_map.mpr order)
  refine ⟨found.map (·.2), positions, ?_, fun plain => ⟨_, positions, ?_⟩⟩
  · rw [← references, List.forall₂_map_left_iff, List.forall₂_map_right_iff, List.forall₂_same]
    exact fun x hx => ⟨all x hx, (all x hx).isWritten_iff⟩
  · rw [← references, List.map_map, List.forall₂_map_left_iff, List.forall₂_map_right_iff, List.forall₂_same]
    exact fun x hx => (all x hx).isReportedAt (plain _ (List.mem_map_of_mem hx))

/-- Code between the brackets is lost. -/
theorem not_reportedAsWritten_code : let text := "See [[a \x60b\x60 c]].\n"
    ¬ ReportedAsWritten (lines text.toList) (parse {} "a.md" text).references := by
  intro text
  rintro ⟨positions, -, h⟩
  have found : (parse {} "a.md" text).references = [⟨"a     c", none, "a.md", 1, "See [[a \x60b\x60 c]]."⟩] := by
    decide +kernel
  rw [found] at h
  obtain ⟨position, _, ⟨_, _, line, hl, -, before, left, right, rest, e, -⟩, -⟩ := List.forall₂_cons_left_iff.mp h
  have absent : ∀ line ∈ lines text.toList, ¬ "a     c".toList <:+: line := by decide +kernel
  refine absent line (List.mem_of_getElem? hl) ⟨before ++ '[' :: '[' :: left, right ++ rest, ?_⟩
  rw [e]
  simp

end Document

end Interlink.Glossary
