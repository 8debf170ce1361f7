import Interlink.Proofs.FrontMatter

/-!
# Visible lines

A line of a document is visible if it comes after the front matter, while no fence is open, and
opens none. So what stands inside of fences and of the front matter can change at will: as long as a
fence is not closed there, and the front matter is not, the document stays the same.
-/

namespace Interlink.Glossary

open Text

variable {l l' : Line} {ls : List Line} {inside : Option Fence} {f : Fence} {s : List Char} {i e : Nat}

/-! ## Fences -/

def fenceAfter (inside : Option Fence) (line : List Char) : Option Fence :=
  match inside with
  | some f => if f.closedBy line then none else some f
  | none => (fenceMarker? line).map (·.1)

theorem fenceAfter_some (h : f.closedBy s = false) : fenceAfter (some f) s = some f := by
  rw [fenceAfter, h]
  rfl

theorem outsideFences_cons (inside : Option Fence) (l : Line) (ls : List Line) : outsideFences inside (l :: ls) =
    (if inside = none ∧ fenceMarker? l.text = none then [l] else []) ++
      outsideFences (fenceAfter inside l.text) ls := by
  cases inside with
  | some f => simp [outsideFences, fenceAfter]
  | none =>
    cases h : fenceMarker? l.text with
    | some p => simp [outsideFences, fenceAfter, h]
    | none => simp [outsideFences, fenceAfter, h]

theorem outsideFences_append (inside : Option Fence) (ls ls' : List Line) : outsideFences inside (ls ++ ls') =
    outsideFences inside ls ++ outsideFences ((ls.map Line.text).foldl fenceAfter inside) ls' := by
  induction ls generalizing inside with
  | nil => rfl
  | cons l ls ih => rw [List.cons_append, outsideFences_cons, ih, outsideFences_cons, List.append_assoc]; rfl

theorem mem_outsideFences : l ∈ outsideFences inside ls ↔ ∃ i, ls[i]? = some l ∧
    ((ls.take i).map Line.text).foldl fenceAfter inside = none ∧ fenceMarker? l.text = none := by
  induction ls generalizing inside with
  | nil => simp [outsideFences]
  | cons x xs ih =>
    have first : l ∈ (if inside = none ∧ fenceMarker? x.text = none then [x] else []) ↔
        x = l ∧ inside = none ∧ fenceMarker? l.text = none := by
      by_cases h : inside = none ∧ fenceMarker? x.text = none
      · rw [if_pos h, List.mem_singleton]
        exact ⟨fun e => ⟨e.symm, e ▸ h⟩, fun e => e.1.symm⟩
      · rw [if_neg h]
        exact ⟨nofun, fun e => absurd (e.1 ▸ e.2) h⟩
    rw [outsideFences_cons, List.mem_append, first, ih]
    constructor
    · rintro (⟨rfl, h⟩ | ⟨i, hi, h⟩)
      · exact ⟨0, rfl, h⟩
      · exact ⟨i + 1, hi, h⟩
    · rintro ⟨i, hi, h⟩
      cases i with
      | zero => exact .inl ⟨Option.some.inj hi, h⟩
      | succ i => exact .inr ⟨i, hi, h⟩

theorem outsideFences_sublist (inside : Option Fence) (ls : List Line) : (outsideFences inside ls).Sublist ls := by
  induction ls generalizing inside with
  | nil => exact List.Sublist.refl _
  | cons l ls ih =>
    rw [outsideFences_cons]
    split
    · exact (ih _).cons_cons l
    · exact (ih _).cons l

/-- Lines inside an open fence that do not close it may differ. -/
theorem outsideFences_congr {ls' : List Line} (size : ls.length = ls'.length)
    (same : ∀ i l l', ls[i]? = some l → ls'[i]? = some l' → l = l' ∨
      ∃ f, ((ls.take i).map Line.text).foldl fenceAfter inside = some f ∧
        f.closedBy l.text = false ∧ f.closedBy l'.text = false) :
    outsideFences inside ls = outsideFences inside ls' := by
  induction ls generalizing inside ls' with
  | nil => rw [List.eq_nil_of_length_eq_zero size.symm]
  | cons l ls ih =>
    cases ls' with
    | nil => cases size
    | cons l' ls' =>
      have rest (inside' : Option Fence) (h : inside' = fenceAfter inside l.text) :
          outsideFences inside' ls = outsideFences inside' ls' := by
        refine ih (Nat.succ.inj size) fun i x y hx hy => ?_
        rw [h]
        exact same (i + 1) x y hx hy
      rw [outsideFences_cons, outsideFences_cons]
      rcases same 0 l l' rfl rfl with rfl | ⟨f, hf, hl, hl'⟩
      · rw [rest _ rfl]
      · obtain rfl : inside = some f := hf
        rw [fenceAfter_some hl, fenceAfter_some hl', rest (some f) (fenceAfter_some hl).symm]
        simp

/-! ## Lines of a text -/

def frontMatterClose? (ls : List (List Char)) : Option Nat :=
  FrontMatter.closing? 1 opensFrontMatter closesFrontMatter ls

def bodyStart (ls : List (List Char)) : Nat :=
  match frontMatterClose? ls with
  | some e => e + 1
  | none => 0

def fenceBefore (ls : List (List Char)) (i : Nat) : Option Fence :=
  ((ls.take i).drop (bodyStart ls)).foldl fenceAfter none

structure IsVisible (ls : List (List Char)) (i : Nat) : Prop where
  inBody : bodyStart ls ≤ i
  outside : fenceBefore ls i = none
  unmarked : ∀ l ∈ ls[i]?, fenceMarker? l = none

theorem length_numbered (s : List Char) : (numbered s).length = (lines s).length := List.length_mapIdx

theorem getElem?_numbered (s : List Char) (i : Nat) : (numbered s)[i]? = (lines s)[i]?.map (⟨i + 1, ·⟩) :=
  List.getElem?_mapIdx

theorem map_text_numbered (s : List Char) : (numbered s).map Line.text = lines s := by
  refine List.ext_getElem? fun i => ?_
  rw [List.getElem?_map, getElem?_numbered, Option.map_map]
  exact Option.map_id'

theorem afterFrontMatter_numbered (s : List Char) :
    afterFrontMatter (numbered s) = (numbered s).drop (bodyStart (lines s)) := by
  rw [afterFrontMatter, FrontMatter.frontMatterEnd?_numbered, bodyStart, frontMatterClose?]
  cases FrontMatter.closing? 1 opensFrontMatter closesFrontMatter (lines s) with
  | some e => rfl
  | none => rfl

theorem visible_eq (s : List Char) : visible s = outsideFences none ((numbered s).drop (bodyStart (lines s))) := by
  rw [visible, afterFrontMatter_numbered]

theorem map_text_take_drop (s : List Char) (b i : Nat) :
    (((numbered s).drop b).take i).map Line.text = ((lines s).take (b + i)).drop b := by
  rw [List.map_take, List.map_drop, map_text_numbered, List.take_drop]

theorem mem_visible :
    l ∈ visible s ↔ ∃ i, l.number = i + 1 ∧ (lines s)[i]? = some l.text ∧ IsVisible (lines s) i := by
  rw [visible_eq, mem_outsideFences]
  constructor
  · rintro ⟨i, hi, open', unmarked⟩
    rw [List.getElem?_drop, getElem?_numbered] at hi
    obtain ⟨text, ht, rfl⟩ := Option.map_eq_some_iff.mp hi
    rw [map_text_take_drop] at open'
    refine ⟨bodyStart (lines s) + i, rfl, ht, Nat.le_add_right _ _, open', fun x hx => ?_⟩
    obtain rfl := Option.some.inj (ht.symm.trans hx)
    exact unmarked
  · rintro ⟨i, hn, ht, v⟩
    obtain ⟨j, rfl⟩ := Nat.exists_eq_add_of_le v.inBody
    refine ⟨j, ?_, ?_, v.unmarked _ ht⟩
    · rw [List.getElem?_drop, getElem?_numbered, ht, Option.map_some, ← hn]
    · rw [map_text_take_drop]
      exact v.outside

theorem pairwise_number_numbered (s : List Char) : (numbered s).Pairwise fun a b => a.number < b.number := by
  refine List.pairwise_iff_getElem.mpr fun i j hi hj hij => ?_
  simpa [numbered] using hij

theorem pairwise_number_visible (s : List Char) : (visible s).Pairwise fun a b => a.number < b.number := by
  rw [visible_eq]
  exact (pairwise_number_numbered s).sublist ((outsideFences_sublist _ _).trans (List.drop_sublist _ _))

/-! ## Lines that are not seen -/

/-- A line may change without being seen: strictly inside a fence into one that does not close the
fence, and strictly inside the front matter into one that does not close the front matter. -/
inductive Unseen (ls : List (List Char)) (i : Nat) (old new : List Char) : Prop
  | inFence {f : Fence} : fenceBefore ls i = some f → f.closedBy old = false → f.closedBy new = false →
    Unseen ls i old new
  | inFrontMatter {e : Nat} : frontMatterClose? ls = some e → 0 < i → i < e → closesFrontMatter new = false →
    Unseen ls i old new

structure LooksLike (ls ls' : List (List Char)) : Prop where
  size : ls.length = ls'.length
  same {i : Nat} {old new : List Char} : ls[i]? = some old → ls'[i]? = some new → old = new ∨ Unseen ls i old new

section
variable {ls ls' : List (List Char)} {i e : Nat}

theorem fenceBefore_of_le (h : i ≤ bodyStart ls) : fenceBefore ls i = none := by
  rw [fenceBefore, List.drop_eq_nil_of_le ((List.length_take_le _ _).trans h)]
  rfl

theorem bodyStart_of_close (h : frontMatterClose? ls = some e) : bodyStart ls = e + 1 := by
  rw [bodyStart, h]

theorem bodyStart_le (ls : List (List Char)) : bodyStart ls ≤ ls.length := by
  rw [bodyStart]
  split
  · rename_i e he
    obtain ⟨_, _, ⟨l, hl, _⟩, _⟩ := FrontMatter.closing?_eq_some_iff.mp he
    exact (List.getElem?_eq_some_iff.mp hl).1
  · exact Nat.zero_le _

/-- No fence is open before the body, so what is unseen there is in the front matter. -/
theorem Unseen.of_le {old new : List Char} (h : Unseen ls i old new) (hi : i ≤ bodyStart ls) :
    ∃ e, frontMatterClose? ls = some e ∧ 0 < i ∧ i < e ∧ closesFrontMatter new = false := by
  cases h with
  | inFence open' =>
    rw [fenceBefore_of_le hi] at open'
    cases open'
  | inFrontMatter hc pos before unclosed => exact ⟨_, hc, pos, before, unclosed⟩

theorem LooksLike.getElem?_eq (h : LooksLike ls ls') (seen : ∀ old new, ¬ Unseen ls i old new) :
    ls'[i]? = ls[i]? := by
  by_cases hi : i < ls.length
  · have old := List.getElem?_eq_getElem hi
    have new := List.getElem?_eq_getElem (h.size ▸ hi)
    rcases h.same old new with e | hidden
    · rw [old, new, e]
    · exact absurd hidden (seen _ _)
  · rw [List.getElem?_eq_none (Nat.not_lt.mp hi), List.getElem?_eq_none (h.size ▸ Nat.not_lt.mp hi)]

theorem LooksLike.first (h : LooksLike ls ls') : ls'[0]? = ls[0]? := by
  refine h.getElem?_eq fun old new hidden => ?_
  obtain ⟨_, _, pos, _⟩ := hidden.of_le (Nat.zero_le _)
  exact Nat.lt_irrefl 0 pos

theorem LooksLike.last (h : LooksLike ls ls') (hc : frontMatterClose? ls = some e) : ls'[e]? = ls[e]? := by
  refine h.getElem?_eq fun old new hidden => ?_
  obtain ⟨_, hc', _, before, _⟩ := hidden.of_le (bodyStart_of_close hc ▸ Nat.le_succ e)
  obtain rfl := Option.some.inj (hc.symm.trans hc')
  exact Nat.lt_irrefl _ before

theorem LooksLike.frontMatterClose?_eq (h : LooksLike ls ls')
    (closed : (∃ l ∈ ls[0]?, opensFrontMatter l = true) → (frontMatterClose? ls).isSome) :
    frontMatterClose? ls' = frontMatterClose? ls := by
  cases hc : frontMatterClose? ls with
  | none =>
    have plain : ¬ ∃ l ∈ ls'[0]?, opensFrontMatter l = true := by
      rw [h.first]
      intro opens
      have some_close := closed opens
      rw [hc] at some_close
      cases some_close
    exact if_neg (FrontMatter.opens_head?_iff.not.mpr plain)
  | some e =>
    obtain ⟨opens, pos, closes, before⟩ := FrontMatter.closing?_eq_some_iff.mp hc
    refine FrontMatter.closing?_eq_some_iff.mpr ⟨h.first ▸ opens, pos, h.last hc ▸ closes,
      fun k hk hke new hnew => ?_⟩
    have hlt : k < ls.length := by
      rw [h.size]
      exact (List.getElem?_eq_some_iff.mp hnew).1
    have hold := List.getElem?_eq_getElem hlt
    rcases h.same hold hnew with same | hidden
    · exact same ▸ before k hk hke _ hold
    · obtain ⟨_, _, _, _, unclosed⟩ := hidden.of_le (bodyStart_of_close hc ▸ hke.le.trans (Nat.le_succ e))
      exact unclosed

end

theorem visible_eq_of_looksLike {s t : List Char} (h : LooksLike (lines s) (lines t))
    (closed : (∃ l ∈ (lines s)[0]?, opensFrontMatter l = true) → (frontMatterClose? (lines s)).isSome) :
    visible s = visible t := by
  have start : bodyStart (lines t) = bodyStart (lines s) := by
    rw [bodyStart, bodyStart, h.frontMatterClose?_eq closed]
  have size : (numbered s).length = (numbered t).length := by
    rw [← List.length_map, map_text_numbered, h.size, ← map_text_numbered, List.length_map]
  rw [visible_eq, visible_eq, start]
  refine outsideFences_congr (by rw [List.length_drop, List.length_drop, size]) fun i l l' hl hl' => ?_
  rw [List.getElem?_drop, getElem?_numbered] at hl hl'
  obtain ⟨old, hold, rfl⟩ := Option.map_eq_some_iff.mp hl
  obtain ⟨new, hnew, rfl⟩ := Option.map_eq_some_iff.mp hl'
  rcases h.same hold hnew with rfl | hidden
  · exact .inl rfl
  · right
    cases hidden with
    | inFence open' shut shut' =>
      rw [fenceBefore] at open'
      rw [map_text_take_drop]
      exact ⟨_, open', shut, shut'⟩
    | inFrontMatter hc _ before =>
      rw [bodyStart_of_close hc] at before
      omega

namespace Document

/-- A document stays the same if lines change where it is not seen, unless its first line opens
front matter that is never closed. -/
theorem parse_eq_of_looksLike (config : TermsConfig) (path : String) {s t : String}
    (h : LooksLike (lines s.toList) (lines t.toList))
    (closed : (∃ l ∈ (lines s.toList)[0]?, opensFrontMatter l = true) →
      (frontMatterClose? (lines s.toList)).isSome) :
    parse config path s = parse config path t := by
  rw [parse, parse, visible_eq_of_looksLike h closed]

/-- A heading in the front matter, and the mark of another fence in a fence. -/
theorem parse_eq_of_looksLike_marks :
    let s := "---\ntitle: A\n---\n\x60\x60\x60\n[[X]]\n\x60\x60\x60\nSee [[Y]].\n"
    let t := "---\n### [[B]]\n---\n\x60\x60\x60\n~~~\n\x60\x60\x60\nSee [[Y]].\n"
    LooksLike (lines s.toList) (lines t.toList) ∧
      ((∃ l ∈ (lines s.toList)[0]?, opensFrontMatter l = true) → (frontMatterClose? (lines s.toList)).isSome) ∧
      parse {} "a.md" s = parse {} "a.md" t ∧ (parse {} "a.md" t).references.map (·.line) = [7] := by
  intro s t
  have looks : LooksLike (lines s.toList) (lines t.toList) := by
    refine ⟨by decide +kernel, fun {i old new} hold hnew => ?_⟩
    have size : (lines s.toList).length = 7 := by decide +kernel
    have places : ∀ i < 7, i = 1 ∨ i = 4 ∨ (lines s.toList)[i]? = (lines t.toList)[i]? := by decide +kernel
    rcases places i (size ▸ (List.getElem?_eq_some_iff.mp hold).1) with rfl | rfl | same
    · have opens : ∀ l ∈ (lines t.toList)[1]?, closesFrontMatter l = false := by decide +kernel
      exact .inr (.inFrontMatter (e := 2) (by decide +kernel) (by decide) (by decide) (opens new hnew))
    · have inside : fenceBefore (lines s.toList) 4 = some ⟨'\x60', 3⟩ := by decide +kernel
      have old_open : ∀ l ∈ (lines s.toList)[4]?, Fence.closedBy ⟨'\x60', 3⟩ l = false := by decide +kernel
      have new_open : ∀ l ∈ (lines t.toList)[4]?, Fence.closedBy ⟨'\x60', 3⟩ l = false := by decide +kernel
      exact .inr (.inFence inside (old_open old hold) (new_open new hnew))
    · exact .inl (Option.some.inj (hold.symm.trans (same.trans hnew)))
  have closed :
      (∃ l ∈ (lines s.toList)[0]?, opensFrontMatter l = true) → (frontMatterClose? (lines s.toList)).isSome :=
    fun _ => by decide +kernel
  exact ⟨looks, closed, parse_eq_of_looksLike {} "a.md" looks closed, by decide +kernel⟩

end Document

end Interlink.Glossary
