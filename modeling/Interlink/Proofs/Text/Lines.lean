import Interlink.Proofs.Text.Cut
import Interlink.Text.Lines

/-!
# Lines and what they are made of

The pieces of a text between its line feeds are its lines up to carriage returns. Pieces that are
put together again are the same pieces, and without a last carriage return the same lines. What
follows a line feed makes lines of its own.
-/

namespace Interlink.Text

variable {s l : List Char} {ls : List (List Char)} {sep : Char → Bool} {c : Char}

/-! ## Lines of pieces -/

def endedLines : List (List Char) → List (List Char)
  | [] => []
  | [l] => if l = [] then [] else [l]
  | l :: ls => stripReturn l :: endedLines ls

theorem lines_eq_endedLines (s : List Char) : lines s = endedLines (split (· = '\n') s) := by
  unfold lines
  dsimp only
  generalize split (· = '\n') s = pieces
  induction pieces with
  | nil => rfl
  | cons l ls ih =>
    cases ls with
    | nil =>
      rw [endedLines]
      by_cases h : l = [] <;> simp [h]
    | cons l' ls => simpa [endedLines] using ih

def openLines (s : List Char) : List (List Char) :=
  let pieces := split (· = '\n') s
  pieces.dropLast.map stripReturn ++ [pieces.getLast?.getD []]

theorem stripReturn_append (before l : List Char) :
    stripReturn (before ++ '\n' :: l) = before ++ '\n' :: stripReturn l := by
  rcases List.eq_nil_or_concat l with rfl | ⟨l', c, hl⟩
  · simp [stripReturn]
  · rw [List.concat_eq_append] at hl
    subst hl
    have e : before ++ '\n' :: (l' ++ [c]) = (before ++ '\n' :: l') ++ [c] := by simp
    unfold stripReturn
    rw [e, List.getLast?_concat, List.getLast?_concat, List.dropLast_concat, List.dropLast_concat]
    split <;> simp

theorem mem_of_mem_stripReturn (h : c ∈ stripReturn l) : c ∈ l := by
  unfold stripReturn at h
  split at h
  · exact List.mem_of_mem_dropLast h
  · exact h

def stripLast : List (List Char) → List (List Char)
  | [] => []
  | [l] => [stripReturn l]
  | l :: ls => l :: stripLast ls

theorem stripLast_ne_nil (l : List Char) (ls : List (List Char)) : stripLast (l :: ls) ≠ [] := by
  cases ls with
  | nil => exact List.cons_ne_nil _ _
  | cons l' ls => exact List.cons_ne_nil _ _

theorem stripReturn_intercalate (l : List Char) (ls : List (List Char)) :
    stripReturn (['\n'].intercalate (l :: ls)) = ['\n'].intercalate (stripLast (l :: ls)) := by
  induction ls generalizing l with
  | nil => simp [stripLast]
  | cons l' ls ih =>
    have e (ls : List (List Char)) (hne : ls ≠ []) :
        ['\n'].intercalate (l :: ls) = l ++ '\n' :: ['\n'].intercalate ls := by
      obtain ⟨x, xs, rfl⟩ := List.exists_cons_of_ne_nil hne
      simp [List.intercalate]
    have hs : stripLast (l :: l' :: ls) = l :: stripLast (l' :: ls) := rfl
    rw [e (l' :: ls) (List.cons_ne_nil l' ls), stripReturn_append, ih, hs, e _ (stripLast_ne_nil l' ls)]

theorem not_mem_stripLast (h : ∀ l ∈ ls, c ∉ l) : ∀ l ∈ stripLast ls, c ∉ l := by
  induction ls with
  | nil => nofun
  | cons l ls ih =>
    cases ls with
    | nil =>
      intro x hx
      obtain rfl := List.mem_singleton.mp hx
      exact fun hm => h l List.mem_cons_self (mem_of_mem_stripReturn hm)
    | cons l' ls =>
      intro x hx
      rcases List.mem_cons.mp hx with rfl | hx
      · exact h _ List.mem_cons_self
      · exact ih (fun y hy => h y (List.mem_cons_of_mem _ hy)) x hx

theorem openLines_stripReturn_intercalate (l : List Char) (ls : List (List Char)) (h : ∀ x ∈ l :: ls, '\n' ∉ x) :
    openLines (stripReturn (['\n'].intercalate (l :: ls))) = (l :: ls).map stripReturn := by
  unfold openLines
  rw [stripReturn_intercalate, split_intercalate (not_mem_stripLast h) (stripLast_ne_nil l ls)]
  clear h
  induction ls generalizing l with
  | nil => simp [stripLast]
  | cons l' ls ih =>
    obtain ⟨x, xs, hx⟩ := List.exists_cons_of_ne_nil (stripLast_ne_nil l' ls)
    have tail := ih l'
    rw [hx] at tail
    simpa [stripLast, hx] using tail

/-! ## Texts one after the other -/

theorem lines_append_newline (s t : List Char) :
    lines (s ++ '\n' :: t) = (split (· = '\n') s).map stripReturn ++ lines t := by
  have pieces : split (· = '\n') (s ++ '\n' :: t) = split (· = '\n') s ++ split (· = '\n') t :=
    split_append_cons (decide_eq_true rfl) s t
  have some_piece : split (· = '\n') t ≠ [] := split_ne_nil _ t
  rw [lines, lines, pieces, List.dropLast_append_of_ne_nil some_piece, List.getLast?_append_of_ne_nil _ some_piece,
    List.map_append, List.append_assoc]

theorem lines_append (h : s = [] ∨ s.getLast? = some '\n') (t : List Char) :
    lines (s ++ t) = lines s ++ lines t := by
  rcases h with rfl | h
  · rfl
  · obtain ⟨before, rfl⟩ := List.getLast?_eq_some_iff.mp h
    rw [List.append_assoc, List.singleton_append, lines_append_newline, lines_append_newline]
    simp [lines, split]

theorem not_mem_of_mem_lines (h : l ∈ lines s) : '\n' ∉ l := by
  have whole {piece : List Char} (hp : piece ∈ split (· = '\n') s) : '\n' ∉ piece :=
    not_mem_of_mem_split (decide_eq_true rfl) hp
  rcases List.mem_append.mp h with inner | last
  · obtain ⟨piece, hp, rfl⟩ := List.mem_map.mp inner
    exact fun hm => whole (List.mem_of_mem_dropLast hp) (mem_of_mem_stripReturn hm)
  · split at last
    · cases last
    · rename_i hne
      obtain rfl := List.mem_singleton.mp last
      cases hl : (split (· = '\n') s).getLast? with
      | none => simp [hl] at hne
      | some piece =>
        rw [Option.getD_some]
        exact whole (List.mem_of_getLast? hl)

def textOf (ls : List (List Char)) : List Char := ls.flatMap (· ++ ['\r', '\n'])

theorem lines_textOf (h : ∀ l ∈ ls, '\n' ∉ l) : lines (textOf ls) = ls := by
  induction ls with
  | nil => rfl
  | cons l ls ih =>
    have first : textOf (l :: ls) = (l ++ ['\r']) ++ '\n' :: textOf ls := by simp [textOf]
    have whole : ∀ x ∈ [l ++ ['\r']], '\n' ∉ x := by simpa using h l List.mem_cons_self
    have one_piece : split (· = '\n') (l ++ ['\r']) = [l ++ ['\r']] := by
      simpa using split_intercalate whole (List.cons_ne_nil _ _)
    rw [first, lines_append_newline, one_piece, ih fun x hx => h x (List.mem_cons_of_mem l hx)]
    simp [stripReturn]

end Interlink.Text
