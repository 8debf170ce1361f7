import Interlink.Glossary.NameTable
import Interlink.Proofs.Text.Spelling

/-!
# What name tables answer

A name table is kept term by term, and a later name takes over an earlier alias. Even so it answers as a search
through all the terms would: by the term of that name, or else by the first one with such an alias. What a new
term finds taken is what such a search finds.
-/

namespace Interlink.Glossary

open Text

theorem toList_key (name : String) : (key name).toList = lower (trim name.toList) := by
  rw [key, lowered, String.toList_ofList, trimmed, String.toList_ofList]

theorem key_eq_empty_iff {name : String} : key name = "" ↔ trimmed name = "" := by
  rw [key, ← String.toList_inj, lowered, String.toList_ofList, String.toList_empty]
  constructor
  · intro h
    exact String.toList_inj.mp (lower_eq_nil h)
  · intro h
    rw [h]
    rfl

namespace Term

def isNamed (k : String) (t : Term) : Bool := key t.name = k

def hasAlias (k : String) (t : Term) : Bool := t.definition.aliases.any fun a => key a = k

def Claims (t : Term) (k : String) : Prop := key t.name = k ∨ ∃ a ∈ t.definition.aliases, key a = k

instance (t : Term) (k : String) : Decidable (t.Claims k) := inferInstanceAs (Decidable (_ ∨ _))

theorem isNamed_iff {t : Term} {k : String} : t.isNamed k = true ↔ key t.name = k := by
  simp [isNamed]

theorem hasAlias_iff {t : Term} {k : String} : t.hasAlias k = true ↔ ∃ a ∈ t.definition.aliases, key a = k := by
  simp [hasAlias]

end Term

/-! ## Search through the terms -/

def owner? (terms : List Term) (k : String) : Option Term :=
  (terms.find? (·.isNamed k)).or (terms.find? (·.hasAlias k))

section
variable {terms : List Term} {t : Term} {k : String}

theorem owner?_cases (h : owner? terms k = some t) : t ∈ terms ∧ t.Claims k := by
  unfold owner? at h
  rcases Option.or_eq_some_iff.mp h with hn | ⟨_, ha⟩
  · exact ⟨List.mem_of_find?_eq_some hn, .inl (Term.isNamed_iff.mp (List.find?_some hn))⟩
  · have hk : t.hasAlias k = true := by simpa using List.find?_some ha
    exact ⟨List.mem_of_find?_eq_some ha, .inr (Term.hasAlias_iff.mp hk)⟩

theorem owner?_eq_none : owner? terms k = none ↔ ∀ t ∈ terms, ¬ t.Claims k := by
  simp only [owner?, Option.or_eq_none_iff, List.find?_eq_none, Term.isNamed_iff, Term.hasAlias_iff, Term.Claims,
    not_or, ← forall_and]

theorem exists_owner? (ht : t ∈ terms) (hk : t.Claims k) : ∃ u, owner? terms k = some u := by
  cases h : owner? terms k with
  | some u => exact ⟨u, rfl⟩
  | none => exact absurd hk (owner?_eq_none.mp h t ht)

theorem key_owner? (h : owner? terms k = some t) {u : Term} (hu : u ∈ terms) (hk : key u.name = k) :
    key t.name = k := by
  unfold owner? at h
  cases hn : terms.find? (·.isNamed k) with
  | some v =>
    rw [hn, Option.some_or] at h
    obtain rfl := Option.some.inj h
    exact Term.isNamed_iff.mp (List.find?_some hn)
  | none => exact absurd (Term.isNamed_iff.mpr hk) (List.find?_eq_none.mp hn u hu)

end

/-! ## Search in a table -/

namespace NameTable

structure Indexes (table : NameTable) (terms : List Term) : Prop where
  names (k : String) : table.names.find? k = terms.find? (·.isNamed k)
  aliases (k : String) : table.aliases.find? k =
    if (terms.find? (·.isNamed k)).isSome then none else terms.find? (·.hasAlias k)

theorem indexes_empty : ({} : NameTable).Indexes [] where
  names _ := rfl
  aliases _ := rfl

theorem find?_eq_or (table : NameTable) (k : String) :
    table.find? k = (table.names.find? k).or (table.aliases.find? k) := by
  rw [find?, Option.orElse_eq_orElse, Option.orElse_eq_or]

theorem Indexes.find?_eq {table : NameTable} {terms : List Term} (h : table.Indexes terms) (k : String) :
    table.find? k = owner? terms k := by
  rw [find?_eq_or, h.names, h.aliases, owner?]
  cases terms.find? (·.isNamed k) with
  | some _ => rfl
  | none => rfl

/-! ## Registration -/

structure Claiming (terms : List Term) (t : Term) (as : List String) (s : NameTable × List Contest) : Prop where
  names (k : String) : s.1.names.find? k = if k = key t.name then some t else terms.find? (·.isNamed k)
  aliases (k : String) : s.1.aliases.find? k =
    if k = key t.name ∨ (terms.find? (·.isNamed k)).isSome then none
    else (terms.find? (·.hasAlias k)).or (if ∃ a ∈ as, key a = k then some t else none)
  contests (c : Contest) : c ∈ s.2 ↔ owner? terms (key c.name) = some c.holder ∧
    (c.name = t.name ∨ key c.name ≠ key t.name ∧ c.name ∈ as)

variable {terms : List Term} {t : Term} {table : NameTable} {as : List String} {s : NameTable × List Contest}

theorem Indexes.claiming_nil (h : table.Indexes terms) (new : terms.find? (·.isNamed (key t.name)) = none) :
    Claiming terms t [] (claimName t table) where
  names k := by
    rw [claimName, Table.find?_insert, h.names]
  aliases k := by
    rw [claimName, Table.find?_erase, h.aliases]
    by_cases hk : k = key t.name
    · simp [hk]
    · simp [hk]
  contests c := by
    have held : table.aliases.find? (key t.name) = owner? terms (key t.name) := by
      rw [h.aliases, owner?, new]
      rfl
    simp only [claimName, held, Option.mem_toList, Option.map_eq_some_iff, List.not_mem_nil,
      and_false, or_false]
    constructor
    · intro hc
      obtain ⟨u, hu, rfl⟩ := hc
      exact ⟨hu, rfl⟩
    · intro hc
      obtain ⟨hu, hn⟩ := hc
      exact ⟨c.holder, hn ▸ hu, by rw [← hn]⟩

theorem Claiming.find?_eq (h : Claiming terms t as s) {k : String} (hk : k ≠ key t.name) :
    s.1.find? k = (owner? terms k).or (if ∃ a ∈ as, key a = k then some t else none) := by
  rw [find?_eq_or, h.names, h.aliases, owner?, if_neg hk]
  cases terms.find? (·.isNamed k) with
  | some _ => simp only [Option.some_or]
  | none => simp [hk]

/-- A table stays as it is if the alias is the new term's own name, or somebody else's, or its own already. -/
theorem Claiming.aliases_snoc (h : Claiming terms t as s) {a : String}
    (held : key a = key t.name ∨ owner? terms (key a) ≠ none ∨ ∃ b ∈ as, key b = key a) (k : String) :
    s.1.aliases.find? k = if k = key t.name ∨ (terms.find? (·.isNamed k)).isSome then none
      else (terms.find? (·.hasAlias k)).or (if ∃ b ∈ as ++ [a], key b = k then some t else none) := by
  have more : (∃ b ∈ as ++ [a], key b = k) ↔ (∃ b ∈ as, key b = k) ∨ key a = k := by
    simp [or_and_right, exists_or]
  rw [h.aliases]
  by_cases hk : key a = k
  · subst hk
    rcases held with hn | ho | hb
    · simp [hn]
    · cases hx : terms.find? (·.isNamed (key a)) with
      | some _ => simp
      | none =>
        cases hy : terms.find? (·.hasAlias (key a)) with
        | some _ => simp
        | none => exact absurd (by rw [owner?, hx, hy]; rfl) ho
    · simp [hb]
  · simp only [more, hk, or_false]

theorem Claiming.snoc (h : Claiming terms t as s) (fresh : ∀ u ∈ terms, u.number ≠ t.number) (a : String) :
    Claiming terms t (as ++ [a]) (claimAlias t s a) := by
  by_cases hn : key a = key t.name
  · -- the alias repeats the name
    have e : claimAlias t s a = s := by rw [claimAlias, if_pos hn]
    have idle (c : Contest) : key c.name ≠ key t.name → c.name ≠ a := fun hc x => hc (x ▸ hn)
    refine ⟨fun k => by rw [e]; exact h.names k, fun k => by rw [e]; exact h.aliases_snoc (.inl hn) k, fun c => ?_⟩
    rw [e, h.contests]
    simp only [List.mem_append, List.mem_singleton]
    refine and_congr_right fun _ => or_congr_right (and_congr_right fun hc => ?_)
    rw [or_iff_left (idle c hc)]
  · have found := h.find?_eq hn
    cases ho : owner? terms (key a) with
    | some other =>
      -- the alias belongs to another term
      have hf : s.1.find? (key a) = some other := by rw [found, ho, Option.some_or]
      have hne : other.number ≠ t.number := fresh other (owner?_cases ho).1
      have e : claimAlias t s a = (s.1, s.2 ++ [⟨a, other⟩]) := by
        rw [claimAlias, if_neg hn, hf]
        dsimp only
        rw [if_neg hne]
      refine ⟨fun k => by rw [e]; exact h.names k, fun k => ?_, fun c => ?_⟩
      · rw [e]
        exact h.aliases_snoc (.inr (.inl (by rw [ho]; nofun))) k
      · rw [e, List.mem_append, h.contests, List.mem_singleton]
        constructor
        · intro hc
          rcases hc with ⟨hc, hb⟩ | rfl
          · exact ⟨hc, hb.imp_right fun hb => ⟨hb.1, List.mem_append_left _ hb.2⟩⟩
          · exact ⟨ho, .inr ⟨hn, by simp⟩⟩
        · intro hc
          obtain ⟨hc, hb⟩ := hc
          rcases hb with hb | ⟨hb, hm⟩
          · exact .inl ⟨hc, .inl hb⟩
          · rcases List.mem_append.mp hm with hm | hm
            · exact .inl ⟨hc, .inr ⟨hb, hm⟩⟩
            · obtain ⟨name, holder⟩ := c
              obtain rfl : name = a := List.mem_singleton.mp hm
              obtain rfl : other = holder := Option.some.inj (ho.symm.trans hc)
              exact .inr rfl
    | none =>
      have contests (c : Contest) : c ∈ s.2 ↔ owner? terms (key c.name) = some c.holder ∧
          (c.name = t.name ∨ key c.name ≠ key t.name ∧ c.name ∈ as ++ [a]) := by
        rw [h.contests]
        refine and_congr_right fun hc => ?_
        have : c.name ≠ a := by
          intro x
          rw [x, ho] at hc
          cases hc
        simp [this]
      rw [ho, Option.none_or] at found
      by_cases hm : ∃ b ∈ as, key b = key a
      · -- an earlier alias of the term has the same key
        have hf : s.1.find? (key a) = some t := by rw [found, if_pos hm]
        have e : claimAlias t s a = s := by
          rw [claimAlias, if_neg hn, hf]
          dsimp only
          rw [if_pos rfl]
        refine ⟨fun k => by rw [e]; exact h.names k, fun k => ?_, fun c => by rw [e]; exact contests c⟩
        rw [e]
        exact h.aliases_snoc (.inr (.inr hm)) k
      · -- the alias is free
        have hf : s.1.find? (key a) = none := by rw [found, if_neg hm]
        have e : claimAlias t s a = ({ s.1 with aliases := s.1.aliases.insert (key a) t }, s.2) := by
          rw [claimAlias, if_neg hn, hf]
        refine ⟨fun k => by rw [e]; exact h.names k, fun k => ?_, fun c => by rw [e]; exact contests c⟩
        rw [e, Table.find?_insert, h.aliases]
        obtain ⟨hx, hy⟩ := Option.or_eq_none_iff.mp ho
        by_cases hk : k = key a
        · subst hk
          simp [hn, hx, hy]
        · simp [hk, Ne.symm hk, or_and_right, exists_or]

theorem Indexes.claiming (h : table.Indexes terms) (new : terms.find? (·.isNamed (key t.name)) = none)
    (fresh : ∀ u ∈ terms, u.number ≠ t.number) : Claiming terms t t.definition.aliases (table.register t) := by
  have run (bs : List String) : ∀ (as : List String) (s : NameTable × List Contest), Claiming terms t as s →
      Claiming terms t (as ++ bs) (bs.foldl (claimAlias t) s) := by
    induction bs with
    | nil => intro as s hs; simpa using hs
    | cons b bs ih => intro as s hs; simpa using ih (as ++ [b]) _ (hs.snoc fresh b)
  exact run t.definition.aliases [] _ (h.claiming_nil new)

theorem Indexes.register (h : table.Indexes terms) (new : terms.find? (·.isNamed (key t.name)) = none)
    (fresh : ∀ u ∈ terms, u.number ≠ t.number) : (table.register t).1.Indexes (terms ++ [t]) := by
  have hc := h.claiming new fresh
  have single (p : Term → Bool) : [t].find? p = if p t then some t else none := by
    cases hp : p t <;> simp [hp]
  refine ⟨fun k => ?_, fun k => ?_⟩
  · rw [hc.names, List.find?_append, single]
    by_cases hk : k = key t.name
    · rw [if_pos hk, hk, new, Option.none_or, if_pos (Term.isNamed_iff.mpr rfl)]
    · have : t.isNamed k = false := by simp [Term.isNamed, Ne.symm hk]
      simp [hk, this]
  · rw [hc.aliases, List.find?_append, List.find?_append, single, single]
    by_cases hk : k = key t.name
    · subst hk
      simp [Term.isNamed]
    · have : t.isNamed k = false := by simp [Term.isNamed, Ne.symm hk]
      simp [hk, this, Term.hasAlias_iff]

theorem Indexes.mem_contests (h : table.Indexes terms) (new : terms.find? (·.isNamed (key t.name)) = none)
    (fresh : ∀ u ∈ terms, u.number ≠ t.number) {c : Contest} :
    c ∈ (table.register t).2 ↔ owner? terms (key c.name) = some c.holder ∧
      (c.name = t.name ∨ key c.name ≠ key t.name ∧ c.name ∈ t.definition.aliases) :=
  (h.claiming new fresh).contests c

end NameTable

end Interlink.Glossary
