import Interlink.Path
import Interlink.Proofs.Text.Cut

/-!
# Normal paths

What a walk along the segments of a path does: an ordinary segment leads one step down, `..` leads
one step up, and the others stay. A walk fails just when some part of it from its start on leads up
more often than down, and the place where it ends has ordinary segments only.
-/

namespace Interlink.Path

open Text

def IsOrdinary (segment : String) : Prop := segment ≠ "" ∧ segment ≠ "." ∧ segment ≠ ".."

instance : DecidablePred IsOrdinary := fun _ => inferInstanceAs (Decidable (_ ∧ _))

def IsPlain (p : String) : Prop := p = "" ∨ ∀ segment ∈ pieces '/' p, IsOrdinary segment

/-- From its start to some segment the path leads up more often than down. -/
def ClimbsAbove (segments : List String) : Prop :=
  ∃ start, start <+: segments ∧ start.countP (IsOrdinary ·) < start.count ".."

variable {segment p q dir : String} {segments rest place there : List String}

/-! ## Walks -/

theorem walk_cons_of_stay (h : segment = "" ∨ segment = ".") : walk (segment :: rest) place = walk rest place := by
  simp [walk, h]

theorem walk_cons_of_isOrdinary (h : IsOrdinary segment) :
    walk (segment :: rest) place = walk rest (segment :: place) := by
  simp [walk, h.1, h.2.1, h.2.2]

theorem walk_up_root (rest : List String) : walk (".." :: rest) [] = none := by
  rw [walk, if_neg (by decide), if_pos rfl]

theorem walk_up_cons (rest : List String) (last : String) (above : List String) :
    walk (".." :: rest) (last :: above) = walk rest above := by
  rw [walk, if_neg (by decide), if_pos rfl]

theorem segment_cases (segment : String) :
    (segment = "" ∨ segment = ".") ∨ segment = ".." ∨ IsOrdinary segment := by
  unfold IsOrdinary
  tauto

theorem walk_append (segments rest place : List String) :
    walk (segments ++ rest) place = (walk segments place).bind fun there => walk rest there.reverse := by
  induction segments generalizing place with
  | nil => simp [walk]
  | cons segment segments ih =>
    rw [List.cons_append]
    rcases segment_cases segment with stay | rfl | down
    · rw [walk_cons_of_stay stay, walk_cons_of_stay stay, ih]
    · cases place with
      | nil => rw [walk_up_root, walk_up_root, Option.bind_none]
      | cons last above => rw [walk_up_cons, walk_up_cons, ih]
    · rw [walk_cons_of_isOrdinary down, walk_cons_of_isOrdinary down, ih]

theorem walk_of_isOrdinary (h : ∀ s ∈ segments, IsOrdinary s) (place : List String) :
    walk segments place = some (place.reverse ++ segments) := by
  induction segments generalizing place with
  | nil => simp [walk]
  | cons segment segments ih =>
    obtain ⟨down, rest_down⟩ := List.forall_mem_cons.mp h
    rw [walk_cons_of_isOrdinary down, ih rest_down, List.reverse_cons, List.append_assoc, List.singleton_append]

theorem mem_of_walk (h : walk segments place = some there) {s : String} (hs : s ∈ there) :
    s ∈ place ∨ s ∈ segments ∧ IsOrdinary s := by
  induction segments generalizing place with
  | nil =>
    obtain rfl := Option.some_inj.mp h
    exact .inl (List.mem_reverse.mp hs)
  | cons segment segments ih =>
    rcases segment_cases segment with stay | rfl | down
    · rw [walk_cons_of_stay stay] at h
      exact (ih h).imp_right fun ⟨hm, ho⟩ => ⟨List.mem_cons_of_mem _ hm, ho⟩
    · cases place with
      | nil =>
        rw [walk_up_root] at h
        cases h
      | cons last above =>
        rw [walk_up_cons] at h
        exact (ih h).imp (List.mem_cons_of_mem _) fun ⟨hm, ho⟩ => ⟨List.mem_cons_of_mem _ hm, ho⟩
    · rw [walk_cons_of_isOrdinary down] at h
      rcases ih h with hp | ⟨hm, ho⟩
      · rcases List.mem_cons.mp hp with rfl | hp
        · exact .inr ⟨List.mem_cons_self, down⟩
        · exact .inl hp
      · exact .inr ⟨List.mem_cons_of_mem _ hm, ho⟩

theorem exists_prefix_cons_iff {P : List String → Prop} :
    (∃ start, start <+: segment :: rest ∧ P start) ↔ P [] ∨ ∃ start, start <+: rest ∧ P (segment :: start) := by
  constructor
  · rintro ⟨start, begins, holds⟩
    rcases List.prefix_cons_iff.mp begins with rfl | ⟨start', rfl, begins'⟩
    · exact .inl holds
    · exact .inr ⟨start', begins', holds⟩
  · rintro (holds | ⟨start, begins, holds⟩)
    · exact ⟨[], List.nil_prefix, holds⟩
    · exact ⟨segment :: start, List.cons_prefix_cons.mpr ⟨rfl, begins⟩, holds⟩

/-- From a place the walk may lead up as many steps more than down as the place is deep. -/
theorem walk_eq_none_iff : walk segments place = none ↔
    ∃ start, start <+: segments ∧ place.length + start.countP (IsOrdinary ·) < start.count ".." := by
  induction segments generalizing place with
  | nil => simp [walk]
  | cons segment segments ih =>
    rw [exists_prefix_cons_iff, List.count_nil, or_iff_right (Nat.not_lt_zero _)]
    simp only [List.countP_cons, List.count_cons, beq_iff_eq]
    rcases segment_cases segment with stay | rfl | down
    · have flat : ¬ IsOrdinary segment := fun down => stay.elim down.1 down.2.1
      have up : segment ≠ ".." := by rcases stay with rfl | rfl <;> decide
      rw [walk_cons_of_stay stay, ih]
      simp only [flat, up, decide_false, Bool.false_eq_true, if_false, Nat.add_zero]
    · have flat : ¬ IsOrdinary ".." := fun down => down.2.2 rfl
      cases place with
      | nil =>
        rw [walk_up_root]
        exact iff_of_true rfl ⟨[], List.nil_prefix, by decide⟩
      | cons last above =>
        rw [walk_up_cons, ih]
        simp only [flat, decide_false, Bool.false_eq_true, if_false, if_true, List.length_cons]
        exact exists_congr fun start => and_congr_right fun _ => by omega
    · rw [walk_cons_of_isOrdinary down, ih]
      simp only [down, down.2.2, decide_true, if_true, if_false, List.length_cons]
      exact exists_congr fun start => and_congr_right fun _ => by omega

/-! ## Plain paths -/

def ArePlain (segments : List String) : Prop := ∀ s ∈ segments, IsOrdinary s ∧ '/' ∉ s.toList

theorem ArePlain.left (h : ArePlain (segments ++ rest)) : ArePlain segments :=
  fun s hs => h s (List.mem_append_left _ hs)

theorem ArePlain.pieces_join (h : ArePlain segments) (some_segment : segments ≠ []) :
    pieces '/' (join "/" segments) = segments :=
  Text.pieces_join (c := '/') (fun s hs => (h s hs).2) some_segment

theorem ArePlain.walk_pieces_join (h : ArePlain segments) :
    walk (pieces '/' (join "/" segments)) [] = some segments := by
  by_cases some_segment : segments = []
  · subst some_segment
    rfl
  · rw [h.pieces_join some_segment, walk_of_isOrdinary (fun s hs => (h s hs).1), List.reverse_nil, List.nil_append]

theorem ArePlain.isPlain_join (h : ArePlain segments) : IsPlain (join "/" segments) := by
  by_cases some_segment : segments = []
  · subst some_segment
    exact .inl rfl
  · refine .inr fun s hs => (h s ?_).1
    rwa [h.pieces_join some_segment] at hs

theorem exists_segments_of_isPlain (h : IsPlain p) : ∃ segments, p = join "/" segments ∧ ArePlain segments := by
  rcases h with rfl | h
  · exact ⟨[], rfl, by simp [ArePlain]⟩
  · exact ⟨pieces '/' p, (join_pieces '/' p).symm, fun s hs => ⟨h s hs, not_mem_of_mem_pieces hs⟩⟩

theorem normalize_of_isPlain (h : IsPlain p) : normalize p = some p := by
  obtain ⟨segments, rfl, plain⟩ := exists_segments_of_isPlain h
  rw [normalize, plain.walk_pieces_join, Option.map_some]

theorem arePlain_of_walk (h : walk (pieces '/' p) [] = some there) : ArePlain there := by
  intro s hs
  obtain ⟨mem, ordinary⟩ := (mem_of_walk h hs).resolve_left List.not_mem_nil
  exact ⟨ordinary, not_mem_of_mem_pieces mem⟩

theorem isPlain_of_normalize (h : normalize p = some q) : IsPlain q := by
  obtain ⟨there, hw, rfl⟩ := Option.map_eq_some_iff.mp h
  exact (arePlain_of_walk hw).isPlain_join

theorem normalize_eq_none_iff : normalize p = none ↔ ClimbsAbove (pieces '/' p) := by
  rw [normalize, Option.map_eq_none_iff, walk_eq_none_iff]
  simp only [List.length_nil, Nat.zero_add]
  rfl

/-- A normal path leads where the path does, so it may stand for the path at the head of a longer one. -/
theorem normalize_append (a b : String) :
    normalize (a ++ "/" ++ b) = (normalize a).bind fun start => normalize (start ++ "/" ++ b) := by
  have cut (a : String) : pieces '/' (a ++ "/" ++ b) = pieces '/' a ++ pieces '/' b := pieces_append a b
  have onwards (a : String) : normalize (a ++ "/" ++ b) =
      (walk (pieces '/' a) []).bind fun there => (walk (pieces '/' b) there.reverse).map (join "/") := by
    rw [normalize, cut, walk_append, Option.map_bind]
    rfl
  rw [onwards, normalize]
  cases way : walk (pieces '/' a) [] with
  | none => rfl
  | some there =>
    rw [Option.map_some, Option.bind_some, Option.bind_some, onwards, (arePlain_of_walk way).walk_pieces_join,
      Option.bind_some]

/-! ## Paths below a directory -/

theorem pieces_below (dir p : String) (some_dir : dir ≠ "") :
    pieces '/' (below dir p) = pieces '/' dir ++ pieces '/' p := by
  rw [below, if_neg (by simpa using some_dir)]
  exact pieces_append dir p

theorem normalize_below (dir p : String) : normalize (below dir p) =
    (walk (pieces '/' dir) []).bind fun there => (walk (pieces '/' p) there.reverse).map (join "/") := by
  by_cases root : dir = ""
  · subst root
    rfl
  · rw [normalize, pieces_below dir p root, walk_append, Option.map_bind]
    rfl

theorem normalize_below_empty (dir : String) : normalize (below dir "") = normalize dir := by
  rw [normalize_below, normalize]
  cases walk (pieces '/' dir) [] with
  | none => rfl
  | some there =>
    rw [Option.bind_some, show pieces '/' "" = [""] from rfl, walk_cons_of_stay (.inl rfl), walk,
      List.reverse_reverse]

theorem directory_join {last : String} (slash : '/' ∉ last.toList) :
    directory (join "/" (segments ++ [last])) = join "/" segments := by
  by_cases below_root : segments = []
  · subst below_root
    rw [List.nil_append, join, String.intercalate_singleton, directory, cutLast?_of_not_mem slash]
    rfl
  · have cut : join "/" (segments ++ [last]) = join "/" segments ++ String.singleton '/' ++ last := by
      rw [join, String.intercalate_append_of_ne_nil below_root (List.cons_ne_nil _ _),
        String.intercalate_singleton]
      rfl
    rw [cut, directory, cutLast?_append slash]

theorem isPlain_directory (h : IsPlain p) : IsPlain (directory p) := by
  obtain ⟨segments, rfl, plain⟩ := exists_segments_of_isPlain h
  rcases List.eq_nil_or_concat' segments with rfl | ⟨above, last, rfl⟩
  · exact .inl rfl
  · rw [directory_join (plain last (by simp)).2]
    exact plain.left.isPlain_join

theorem normalize_below_up (h : IsPlain dir) (p : String) :
    normalize (below dir ("../" ++ p)) = if dir = "" then none else normalize (below (directory dir) p) := by
  have cut : pieces '/' ("../" ++ p) = ".." :: pieces '/' p := pieces_append ".." p
  obtain ⟨segments, rfl, plain⟩ := exists_segments_of_isPlain h
  rw [normalize_below, normalize_below, plain.walk_pieces_join, Option.bind_some, cut]
  rcases List.eq_nil_or_concat' segments with rfl | ⟨above, last, rfl⟩
  · rw [List.reverse_nil, walk_up_root]
    rfl
  · have some_dir : join "/" (above ++ [last]) ≠ "" := by
      intro root
      have here := plain.walk_pieces_join
      rw [root] at here
      exact List.append_ne_nil_of_right_ne_nil _ (List.cons_ne_nil _ _) (Option.some_inj.mp here).symm
    rw [if_neg some_dir, directory_join (plain last (by simp)).2, plain.left.walk_pieces_join, Option.bind_some,
      List.reverse_append, List.reverse_singleton, List.singleton_append, walk_up_cons]

/-! ## Relative paths -/

theorem normalize_below_eq (dir p : String) :
    normalize (below dir p) = (normalize dir).bind fun start => normalize (start ++ "/" ++ p) := by
  by_cases root : dir = ""
  · subst root
    have cut : pieces '/' ("" ++ "/" ++ p) = "" :: pieces '/' p := pieces_append "" p
    rw [normalize_of_isPlain (.inl rfl), Option.bind_some, normalize, normalize, cut, walk_cons_of_stay (.inl rfl)]
    rfl
  · rw [below, if_neg (by simpa using root), normalize_append]

theorem isPlain_of_relativeBase {specifier importer base : String}
    (h : relativeBase specifier importer = some base) : IsPlain base := by
  unfold relativeBase at h
  split at h
  · exact isPlain_of_normalize h
  · split at h
    · exact isPlain_of_normalize h
    · cases h

theorem relativeBase_congr {importer other : String}
    (h : normalize (directory importer) = normalize (directory other))
    (specifier : String) : relativeBase specifier importer = relativeBase specifier other := by
  unfold relativeBase
  rw [normalize_below_eq, normalize_below_eq, h]

/-- A path climbs above the root or has a normal path, which is plain, is its own normal path, and
may stand for the path at the head of any other. So relative paths stay below the root, and of the
importer's directory only the normal path counts. -/
theorem normalize_laws (a b : String) :
    (normalize a = none ↔ ClimbsAbove (pieces '/' a)) ∧
    (∀ p, normalize a = some p → IsPlain p ∧ normalize p = some p) ∧
    normalize (a ++ "/" ++ b) = (normalize a).bind (fun p => normalize (p ++ "/" ++ b)) ∧
    (∀ specifier importer base, relativeBase specifier importer = some base → IsPlain base) ∧
    ∀ specifier importer other, normalize (directory importer) = normalize (directory other) →
      relativeBase specifier importer = relativeBase specifier other := by
  refine ⟨normalize_eq_none_iff, fun p h => ?_, normalize_append a b, fun _ _ _ => isPlain_of_relativeBase,
    fun specifier _ _ h => relativeBase_congr h specifier⟩
  have plain := isPlain_of_normalize h
  exact ⟨plain, normalize_of_isPlain plain⟩

end Interlink.Path
