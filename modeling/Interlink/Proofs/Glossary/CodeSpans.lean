import Interlink.Glossary.Markup
import Interlink.Proofs.Text.Spelling

/-!
# Code spans of a line

A line with each character marked by whether it is code. Masking blanks the code and leaves the rest, so
whatever stands in the masked line and is not a blank stands in the line, at a place that is no code.
-/

namespace Interlink.Glossary

open Text

structure Marked where
  char : Char
  isCode : Bool

/-- What masking leaves of a character: code becomes blanks, one for each byte. -/
def Marked.shown (m : Marked) : List Char := if m.isCode then List.replicate m.char.utf8Size ' ' else [m.char]

def chars (ms : List Marked) : List Char := ms.map Marked.char

def masked (ms : List Marked) : List Char := ms.flatMap Marked.shown

def IsPlain (ms : List Marked) : Prop := ∀ m ∈ ms, m.isCode = false

/-- The characters of the pieces with their marks; `inside` is the length of the run that opened the
current span. -/
def markPieces (inside : Nat) : List (List Char) → List Marked
  | [] => []
  | piece :: rest =>
    if inside ≠ 0 then piece.map (⟨·, true⟩) ++ markPieces (if ticks piece = inside then 0 else inside) rest
    else if ticks piece ≠ 0 ∧ rest.any (ticks · = ticks piece) then
      piece.map (⟨·, true⟩) ++ markPieces (ticks piece) rest
    else piece.map (⟨·, false⟩) ++ markPieces 0 rest

def marked (line : List Char) : List Marked := markPieces 0 (codePieces line)

variable {ms ms' : List Marked} {m : Marked} {s u v : List Char} {c : Char}

/-! ## Masked texts -/

@[simp] theorem chars_cons (m : Marked) (ms : List Marked) : chars (m :: ms) = m.char :: chars ms := rfl

@[simp] theorem chars_append (ms ms' : List Marked) : chars (ms ++ ms') = chars ms ++ chars ms' := List.map_append

@[simp] theorem masked_nil : masked [] = [] := rfl

@[simp] theorem masked_cons (m : Marked) (ms : List Marked) : masked (m :: ms) = m.shown ++ masked ms := rfl

@[simp] theorem masked_append (ms ms' : List Marked) : masked (ms ++ ms') = masked ms ++ masked ms' :=
  List.flatMap_append

@[simp] theorem shown_plain (c : Char) : Marked.shown ⟨c, false⟩ = [c] := rfl

@[simp] theorem shown_code (c : Char) : Marked.shown ⟨c, true⟩ = List.replicate c.utf8Size ' ' := rfl

theorem shown_ne_nil (m : Marked) : m.shown ≠ [] := by
  unfold Marked.shown
  split
  · exact List.ne_nil_of_length_pos (List.length_replicate ▸ m.char.utf8Size_pos)
  · exact List.cons_ne_nil _ _

theorem masked_eq_nil (h : masked ms = []) : ms = [] := by
  cases ms with
  | nil => rfl
  | cons m ms => exact absurd (List.append_eq_nil_iff.mp h).1 (shown_ne_nil m)

theorem chars_eq_masked (h : IsPlain ms) : chars ms = masked ms := by
  induction ms with
  | nil => rfl
  | cons m ms ih =>
    have plain : m.shown = [m.char] := if_neg (by rw [h m List.mem_cons_self]; nofun)
    rw [chars_cons, masked_cons, plain, ih fun x hx => h x (List.mem_cons_of_mem _ hx)]
    rfl

/-- A character that is no blank can only come from a character that is no code. -/
theorem exists_of_masked_eq (h : masked ms = u ++ c :: v) (hc : c ≠ ' ') :
    ∃ mu mv, ms = mu ++ ⟨c, false⟩ :: mv ∧ masked mu = u ∧ masked mv = v := by
  induction ms generalizing u with
  | nil => simp at h
  | cons m ms ih =>
    rw [masked_cons] at h
    rcases List.append_eq_append_iff.mp h with ⟨w, rfl, hw⟩ | ⟨w, hm, hv⟩
    · obtain ⟨mu, mv, rfl, rfl, rfl⟩ := ih hw
      exact ⟨m :: mu, mv, rfl, rfl, rfl⟩
    · cases w with
      | nil =>
        obtain ⟨mu, mv, rfl, hmu, rfl⟩ := ih (u := []) hv.symm
        obtain rfl := masked_eq_nil hmu
        exact ⟨[m], mv, rfl, by simpa using hm, rfl⟩
      | cons x w =>
        obtain ⟨rfl, rfl⟩ : c = x ∧ v = w ++ masked ms := List.cons.inj hv
        obtain ⟨char, isCode⟩ := m
        cases isCode with
        | true =>
          rw [shown_code] at hm
          have blank : c ∈ List.replicate char.utf8Size ' ' := hm ▸ List.mem_append_right u List.mem_cons_self
          exact absurd (List.eq_of_mem_replicate blank) hc
        | false =>
          obtain ⟨rfl, rest⟩ := List.append_eq_singleton_iff.mp hm.symm |>.resolve_right (by simp)
          obtain ⟨rfl, rfl⟩ := List.cons.inj rest
          exact ⟨[], ms, rfl, rfl, rfl⟩

theorem exists_of_masked_eq_cons (h : masked ms = c :: v) (hc : c ≠ ' ') :
    ∃ mv, ms = ⟨c, false⟩ :: mv ∧ masked mv = v := by
  obtain ⟨mu, mv, rfl, hmu, hmv⟩ := exists_of_masked_eq (u := []) h hc
  obtain rfl := masked_eq_nil hmu
  exact ⟨mv, rfl, hmv⟩

/-- Beginnings of a line are as long in order as what masking leaves of them. -/
theorem length_lt_of_masked {before before' : List Marked} (h : before <+: ms) (h' : before' <+: ms)
    (shorter : (masked before).length < (masked before').length) : before.length < before'.length := by
  by_contra longer
  obtain ⟨more, rfl⟩ := List.prefix_of_prefix_length_le h' h (Nat.not_lt.mp longer)
  rw [masked_append, List.length_append] at shorter
  omega

/-- Masking takes just the characters of the code away, if blanks are not counted. -/
theorem countP_chars (ms : List Marked) : (chars ms).countP (!isBlank ·) =
    (masked ms).countP (!isBlank ·) + ms.countP fun m => m.isCode && !isBlank m.char := by
  induction ms with
  | nil => rfl
  | cons m ms ih =>
    rw [chars_cons, masked_cons, List.countP_cons, List.countP_append, List.countP_cons, ih]
    obtain ⟨char, isCode⟩ := m
    cases isCode with
    | true =>
      have blanks : (List.replicate char.utf8Size ' ').countP (!isBlank ·) = 0 := by
        rw [List.countP_eq_zero]
        intro x hx
        rw [List.eq_of_mem_replicate hx]
        decide
      rw [shown_code, blanks]
      simp only [Bool.true_and]
      omega
    | false =>
      rw [shown_plain, List.countP_singleton, Bool.false_and, if_neg Bool.false_ne_true]
      dsimp only
      omega

/-! ## Marked lines -/

theorem chars_map (b : Bool) (s : List Char) : chars (s.map (⟨·, b⟩)) = s := by
  rw [chars, List.map_map]
  exact List.map_id' s

theorem masked_map_code (s : List Char) : masked (s.map (⟨·, true⟩)) = blankOut s := by
  rw [masked, List.flatMap_map]
  rfl

theorem masked_map_plain (s : List Char) : masked (s.map (⟨·, false⟩)) = s := by
  rw [← chars_eq_masked fun m hm => by obtain ⟨c, _, rfl⟩ := List.mem_map.mp hm; rfl, chars_map]

theorem chars_markPieces (inside : Nat) (pieces : List (List Char)) :
    chars (markPieces inside pieces) = pieces.flatten := by
  induction pieces generalizing inside with
  | nil => rfl
  | cons piece rest ih =>
    rw [markPieces]
    split
    · rw [chars_append, chars_map, ih, List.flatten_cons]
    · split <;> rw [chars_append, chars_map, ih, List.flatten_cons]

theorem chars_marked (line : List Char) : chars (marked line) = line := by
  rw [marked, chars_markPieces]
  exact List.flatten_splitBy _ line

theorem masked_markPieces (inside : Nat) (pieces : List (List Char)) :
    masked (markPieces inside pieces) = maskPieces inside pieces := by
  induction pieces generalizing inside with
  | nil => rfl
  | cons piece rest ih =>
    rw [markPieces, maskPieces]
    split
    · rw [masked_append, masked_map_code, ih]
    · split
      · rw [masked_append, masked_map_code, ih]
      · rw [masked_append, masked_map_plain, ih]

theorem masked_marked (line : List Char) : masked (marked line) = maskCode line := masked_markPieces 0 _

/-! ## Where code begins -/

def CodeBefore (a b : Marked) : Prop := b.isCode = true → a.isCode = true ∨ b.char = '\x60'

theorem isChain_cons_code (piece : List Char) (hm : m.isCode = true)
    (rest : ∀ m : Marked, m.isCode = true → (m :: ms).IsChain CodeBefore) :
    (m :: (piece.map (⟨·, true⟩) ++ ms)).IsChain CodeBefore := by
  induction piece generalizing m with
  | nil => exact rest m hm
  | cons c piece ih => exact .cons_cons (fun _ => .inl hm) (ih rfl)

theorem isChain_cons_plain (piece : List Char) (rest : ∀ m : Marked, (m :: ms).IsChain CodeBefore) :
    (m :: (piece.map (⟨·, false⟩) ++ ms)).IsChain CodeBefore := by
  induction piece generalizing m with
  | nil => exact rest m
  | cons c piece ih => exact .cons_cons nofun ih

theorem isChain_markPieces {inside : Nat} (pieces : List (List Char)) (hm : inside ≠ 0 → m.isCode = true) :
    (m :: markPieces inside pieces).IsChain CodeBefore := by
  induction pieces generalizing inside m with
  | nil => exact .singleton m
  | cons piece rest ih =>
    rw [markPieces]
    split
    · rename_i open'
      exact isChain_cons_code piece (hm open') fun m hm => ih fun _ => hm
    · split
      · rename_i opens
        -- A piece that opens a span is a run of backticks.
        obtain ⟨more, rfl⟩ : ∃ more, piece = '\x60' :: more := by
          refine List.head?_eq_some_iff.mp (by_contra fun h => opens.1 ?_)
          rw [ticks, if_neg h]
        exact .cons_cons (fun _ => .inr rfl) (isChain_cons_code more rfl fun m hm => ih fun _ => hm)
      · exact isChain_cons_plain piece fun m => ih (absurd rfl)

theorem isChain_marked (line : List Char) : (marked line).IsChain CodeBefore :=
  (isChain_markPieces (m := ⟨' ', false⟩) (codePieces line) (absurd rfl)).tail

/-- Code after a character that is no code begins with a backtick. -/
theorem exists_tick (h : (m :: ms).IsChain CodeBefore) (hm : m.isCode = false) (code : ¬ IsPlain ms) :
    ∃ x ∈ ms, x.isCode = true ∧ x.char = '\x60' := by
  induction ms generalizing m with
  | nil => exact absurd nofun code
  | cons x ms ih =>
    obtain ⟨first, h⟩ := List.isChain_cons_cons.mp h
    cases hx : x.isCode with
    | true => exact ⟨x, List.mem_cons_self, hx, (first hx).resolve_left (by rw [hm]; nofun)⟩
    | false =>
      obtain ⟨y, hy, found⟩ := ih h hx fun plain => code (List.forall_mem_cons.mpr ⟨hx, plain⟩)
      exact ⟨y, List.mem_cons_of_mem _ hy, found⟩

end Interlink.Glossary
