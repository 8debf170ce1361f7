import Interlink.Proofs.Glossary.Registry
import Interlink.Proofs.Listing
import Interlink.Proofs.Text.Cut

/-!
# Search

A search finds each term that has the needle in its name, in an alias or in its text, and finds it once.
Better fits come first; among equal fits names decide, then files, and last who came first. No two terms
are equal in all of this, so the order of what is found does not depend on what else there is.
-/

namespace Interlink.Glossary

open Text

variable {needle query : String} {r : Registry} {d : Definition} {t u : Term} {found more : List Term} {m n : Nat}

namespace Term

/-! ## Fits -/

def IsCalled (needle : String) (t : Term) : Prop := lowered t.name = needle

def IsAlsoCalled (needle : String) (t : Term) : Prop := ∃ a ∈ t.definition.aliases, lowered a = needle

def IsCalledLike (needle : String) (t : Term) : Prop :=
  needle.toList <:+: (lowered t.name).toList ∨ ∃ a ∈ t.definition.aliases, needle.toList <:+: (lowered a).toList

def Tells (needle : String) (t : Term) : Prop := needle.toList <:+: (lowered t.definition.definition).toList

instance (needle : String) (t : Term) : Decidable (t.IsCalled needle) := inferInstanceAs (Decidable (_ = _))

instance (needle : String) (t : Term) : Decidable (t.IsAlsoCalled needle) :=
  inferInstanceAs (Decidable (∃ _ ∈ _, _))

instance (needle : String) (t : Term) : Decidable (t.IsCalledLike needle) := inferInstanceAs (Decidable (_ ∨ _))

instance (needle : String) (t : Term) : Decidable (t.Tells needle) := inferInstanceAs (Decidable (_ <:+: _))

/-- A name goes before an alias, either before a part of one, and such a part before the text. -/
structure FitsAsWell (needle : String) (t u : Term) : Prop where
  called : u.IsCalled needle → t.IsCalled needle
  alsoCalled : u.IsCalled needle ∨ u.IsAlsoCalled needle → t.IsCalled needle ∨ t.IsAlsoCalled needle
  calledLike : u.IsCalledLike needle → t.IsCalledLike needle

theorem isCalledLike (h : t.IsCalled needle ∨ t.IsAlsoCalled needle) : t.IsCalledLike needle := by
  rcases h with h | ⟨a, ha, h⟩
  · exact .inl (h ▸ List.infix_rfl)
  · exact .inr ⟨a, ha, h ▸ List.infix_rfl⟩

theorem fit?_eq (needle : String) (t : Term) : Registry.fit? needle t.definition =
    if t.IsCalled needle then some 0 else if t.IsAlsoCalled needle then some 1
    else if t.IsCalledLike needle then some 2 else if t.Tells needle then some 3 else none := by
  have also : (t.definition.aliases.map lowered).contains needle = true ↔ t.IsAlsoCalled needle := by
    simp [IsAlsoCalled]
  have like :
      (includes (lowered t.name) needle || (t.definition.aliases.map lowered).any (includes · needle)) = true ↔
      t.IsCalledLike needle := by
    simp [IsCalledLike, includes_iff]
  have tells : includes (lowered t.definition.definition) needle = true ↔ t.Tells needle := includes_iff
  unfold Registry.fit?
  exact if_congr Iff.rfl rfl (if_congr also rfl (if_congr like rfl (if_congr tells rfl rfl)))

theorem fit?_levels (h : Registry.fit? needle t.definition = some n) :
    (t.IsCalled needle ↔ n = 0) ∧ (t.IsCalled needle ∨ t.IsAlsoCalled needle ↔ n ≤ 1) ∧
      (t.IsCalledLike needle ↔ n ≤ 2) ∧ n ≤ 3 := by
  have like := @isCalledLike needle t
  rw [fit?_eq] at h
  by_cases called : t.IsCalled needle
  · rw [if_pos called] at h
    obtain rfl := Option.some_inj.mp h
    simp [called, like]
  · by_cases also : t.IsAlsoCalled needle
    · rw [if_neg called, if_pos also] at h
      obtain rfl := Option.some_inj.mp h
      simp [called, also, like]
    · rw [if_neg called, if_neg also] at h
      by_cases part : t.IsCalledLike needle
      · rw [if_pos part] at h
        obtain rfl := Option.some_inj.mp h
        simp [called, also, part]
      · rw [if_neg part, Option.ite_none_right_eq_some] at h
        obtain rfl := Option.some_inj.mp h.2
        simp [called, also, part]

theorem exists_fit?_iff :
    (∃ n, Registry.fit? needle t.definition = some n) ↔ t.IsCalledLike needle ∨ t.Tells needle := by
  have like := @isCalledLike needle t
  rw [fit?_eq]
  split_ifs <;> simp_all

theorem fitsAsWell_iff (ht : Registry.fit? needle t.definition = some m)
    (hu : Registry.fit? needle u.definition = some n) :
    t.FitsAsWell needle u ↔ m ≤ n := by
  obtain ⟨called, also, like, _⟩ := fit?_levels ht
  obtain ⟨called', also', like', _⟩ := fit?_levels hu
  constructor
  · intro ⟨h0, h1, h2⟩
    rw [called, called'] at h0
    rw [also, also'] at h1
    rw [like, like'] at h2
    omega
  · intro h
    refine ⟨fun x => called.mpr ?_, fun x => also.mpr ?_, fun x => like.mpr ?_⟩
    · have := called'.mp x
      omega
    · exact h.trans (also'.mp x)
    · exact h.trans (like'.mp x)

/-! ## The order of what is found -/

def IsListedBefore (t u : Term) : Prop :=
  lowered t.name < lowered u.name ∨ lowered t.name = lowered u.name ∧
    (t.definition.file < u.definition.file ∨ t.definition.file = u.definition.file ∧ t.number < u.number)

theorem isListedBefore_iff : t.IsListedBefore u ↔
    toLex (lowered t.name, toLex (t.definition.file, t.number)) <
      toLex (lowered u.name, toLex (u.definition.file, u.number)) := by
  rw [Prod.Lex.toLex_lt_toLex, Prod.Lex.toLex_lt_toLex]
  rfl

def GoesBefore (needle : String) (t u : Term) : Prop :=
  t.FitsAsWell needle u ∧ (u.FitsAsWell needle t → t.IsListedBefore u)

theorem GoesBefore.asymm (h : t.GoesBefore needle u) : ¬ u.GoesBefore needle t := fun back =>
  lt_asymm (isListedBefore_iff.mp (h.2 back.1)) (isListedBefore_iff.mp (back.2 h.1))

end Term

namespace Registry

def place (a : Nat × Term) : Nat ×ₗ String ×ₗ String := toLex (a.1, toLex (lowered a.2.name, a.2.definition.file))

theorem fitsBefore_iff {a b : Nat × Term} :
    fitsBefore (a.1, a.2.definition) (b.1, b.2.definition) = true ↔ place a ≤ place b := by
  rw [fitsBefore, place, place, Prod.Lex.toLex_le_toLex, Prod.Lex.toLex_le_toLex]
  dsimp only [Term.name]
  by_cases same : a.1 = b.1
  · by_cases same_name : lowered a.2.definition.name = lowered b.2.definition.name
    · simp [same, same_name]
    · simp [same, same_name]
  · simp [same]

theorem map_definition_terms (r : Registry) : r.terms.map (·.definition) = r.definitions := by
  refine List.ext_getElem (by simp [terms]) fun i hi _ => ?_
  rw [List.getElem_map]
  simp only [terms, List.getElem_mapIdx]

theorem pairwise_number_terms (r : Registry) : r.terms.Pairwise fun t u => t.number < u.number := by
  refine List.pairwise_iff_getElem.mpr fun i j hi hj hij => ?_
  simpa only [terms, List.getElem_mapIdx] using hij

def fits (r : Registry) (needle : String) : List (Nat × Term) :=
  r.terms.filterMap fun t => (fit? needle t.definition).map (·, t)

def ranked (r : Registry) (needle : String) : List (Nat × Term) :=
  (r.fits needle).mergeSort fun a b => fitsBefore (a.1, a.2.definition) (b.1, b.2.definition)

theorem mem_fits {a : Nat × Term} : a ∈ r.fits needle ↔ a.2 ∈ r.terms ∧ fit? needle a.2.definition = some a.1 := by
  obtain ⟨n, t⟩ := a
  rw [fits, List.mem_filterMap]
  constructor
  · intro ⟨u, hu, e⟩
    obtain ⟨m, fit, e⟩ := Option.map_eq_some_iff.mp e
    obtain ⟨rfl, rfl⟩ := Prod.mk.inj e
    exact ⟨hu, fit⟩
  · intro ⟨ht, fit⟩
    exact ⟨t, ht, by rw [fit]; rfl⟩

theorem search_eq (h : key query ≠ "") :
    r.search query = ((r.ranked (key query)).map (·.2)).map (·.definition) := by
  have numbered : (r.definitions.filterMap fun d => (fit? (key query) d).map (·, d)) =
      (r.fits (key query)).map fun a => (a.1, a.2.definition) := by
    rw [fits, List.map_filterMap, ← map_definition_terms, List.filterMap_map]
    refine List.filterMap_congr fun t _ => ?_
    simp only [Function.comp_def, Option.map_map]
  have sorted : (r.ranked (key query)).map (fun a => (a.1, a.2.definition)) =
      ((r.fits (key query)).map fun a => (a.1, a.2.definition)).mergeSort fitsBefore :=
    List.map_mergeSort fun _ _ _ _ => rfl
  unfold search
  dsimp only
  rw [if_neg (by simpa using h), numbered, ← sorted, List.map_map, List.map_map, Function.comp_def,
    Function.comp_def]

structure Finds (r : Registry) (needle : String) (found : List Term) : Prop where
  fits : ∀ t, t ∈ found ↔ t ∈ r.terms ∧ (t.IsCalledLike needle ∨ t.Tells needle)
  once : found.Nodup
  inOrder : found.Pairwise (Term.GoesBefore needle)

theorem inOrder_ranked (r : Registry) (needle : String) :
    (r.ranked needle).Pairwise fun a b => place a ≤ place b ∧ (place b ≤ place a → a.2.number < b.2.number) := by
  have aged : (r.fits needle).Pairwise fun a b => a.2.number < b.2.number := by
    refine List.Pairwise.filterMap _ (fun t u aged a ha b hb => ?_) r.pairwise_number_terms
    obtain ⟨_, _, rfl⟩ := Option.map_eq_some_iff.mp ha
    obtain ⟨_, _, rfl⟩ := Option.map_eq_some_iff.mp hb
    exact aged
  refine (pairwise_mergeSort_stable (fun a b c hab hbc => ?_) (fun a b => ?_) aged).imp fun {a b} h => ?_
  · exact fitsBefore_iff.mpr (le_trans (fitsBefore_iff.mp hab) (fitsBefore_iff.mp hbc))
  · rw [Bool.or_eq_true, fitsBefore_iff, fitsBefore_iff]
    exact le_total (place a) (place b)
  · exact ⟨fitsBefore_iff.mp h.1, fun back => h.2 (fitsBefore_iff.mpr back)⟩

theorem finds_ranked (r : Registry) (needle : String) : r.Finds needle ((r.ranked needle).map (·.2)) := by
  have fit {a : Nat × Term} (ha : a ∈ r.ranked needle) : fit? needle a.2.definition = some a.1 :=
    (mem_fits.mp (List.mem_mergeSort.mp ha)).2
  have inOrder : ((r.ranked needle).map (·.2)).Pairwise (Term.GoesBefore needle) := by
    rw [List.pairwise_map]
    refine (inOrder_ranked r needle).imp_of_mem fun {a b} ha hb ⟨ahead, tie⟩ => ?_
    have forth := Term.fitsAsWell_iff (fit ha) (fit hb)
    have back := Term.fitsAsWell_iff (fit hb) (fit ha)
    have split := ahead
    rw [place, place, Prod.Lex.toLex_le_toLex, Prod.Lex.toLex_le_toLex] at split
    dsimp only at split
    refine ⟨forth.mpr (split.elim le_of_lt fun h => le_of_eq h.1), fun close => ?_⟩
    have level : b.1 ≤ a.1 := back.mp close
    rcases split with better | ⟨same, name | ⟨same_name, file⟩⟩
    · exact absurd better (not_lt.mpr level)
    · exact .inl name
    · refine .inr ⟨same_name, file.lt_or_eq.imp_right fun same_file => ⟨same_file, tie (le_of_eq ?_)⟩⟩
      rw [place, place, same, same_name, same_file]
  refine ⟨fun t => ?_, inOrder.imp fun {t u} h e => ?_, inOrder⟩
  · rw [← Term.exists_fit?_iff, List.mem_map]
    constructor
    · intro ⟨a, ha, e⟩
      subst e
      exact ⟨(mem_fits.mp (List.mem_mergeSort.mp ha)).1, a.1, fit ha⟩
    · intro ⟨ht, n, h⟩
      exact ⟨(n, t), List.mem_mergeSort.mpr (mem_fits.mpr ⟨ht, h⟩), rfl⟩
  · exact h.asymm (e ▸ h)

/-- Of the terms that a search finds, those of an earlier registry come in the order in which it
finds them there. -/
theorem Finds.sublist {r' : Registry} (h : r.Finds needle found) (h' : r'.Finds needle more)
    (kept : ∀ t ∈ r.terms, t ∈ r'.terms) : found.Sublist more := by
  have same : more.filter (· ∈ r.terms) = found := by
    have members : (more.filter (· ∈ r.terms)).Perm found := by
      refine (List.perm_ext_iff_of_nodup (h'.once.filter _) h.once).mpr fun t => ?_
      rw [List.mem_filter, h'.fits, h.fits, decide_eq_true_eq]
      have := kept t
      tauto
    exact members.eq_of_pairwise (fun t u _ _ htu hut => absurd hut htu.asymm) (h'.inOrder.filter _) h.inOrder
  exact same ▸ List.filter_sublist

theorem mem_terms_insert (d : Definition) (ht : t ∈ r.terms) : t ∈ (r.insert d).1.terms := by
  rcases r.insert_cases d with ⟨_, _, e⟩ | ⟨_, e⟩
  · rw [e]
    exact ht
  · rw [e, terms_extended]
    exact List.mem_append_left _ ht

/-- A blank search finds nothing. Any other finds the definitions that fit, each once, in an order
that depends on nothing but them; so what is found stays in its order when a definition is added. -/
theorem search_ranks (r : Registry) (query : String) :
    ((∀ c ∈ query.toList, isBlank c = true) → r.search query = []) ∧
    (¬ (∀ c ∈ query.toList, isBlank c = true) →
      ∃ found, r.Finds (key query) found ∧ r.search query = found.map (·.definition)) ∧
    ∀ d, (r.search query).Sublist ((r.insert d).1.search query) := by
  have nothing (r : Registry) (blank : key query = "") : r.search query = [] := by
    unfold search
    exact if_pos (by simpa using blank)
  rw [← trimmed_eq_empty_iff, ← key_eq_empty_iff]
  refine ⟨nothing r, fun h => ⟨_, finds_ranked r _, search_eq h⟩, fun d => ?_⟩
  by_cases blank : key query = ""
  · rw [nothing r blank]
    exact List.nil_sublist _
  · rw [search_eq blank, search_eq blank]
    exact ((finds_ranked r _).sublist (finds_ranked _ _) fun t => mem_terms_insert d).map _

end Registry

end Interlink.Glossary
