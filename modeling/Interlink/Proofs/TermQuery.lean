import Interlink.Proofs.Analysis
import Interlink.Proofs.Glossary.Document

/-!
# Asking an index for a term

An index is asked for terms without its registry, by a search through its entries. The search finds
the global term that the registry knows by the name, unless a private term is kept under that very
name or the name is contested: then the registry decides by names before aliases and by who came
first, and the index by the order of names alone.
-/

namespace Interlink

open Text Glossary

/-! ## Keys of names -/

section
variable {name n : String} {b : Char}

theorem lowered_blank (h : isBlank b = true) : lowered (String.ofList [b]) = String.ofList [b] := by
  have hs : b ≠ '\u03A3' := by
    rintro rfl
    exact absurd h (by decide)
  have hl : lower [b] = [b] := by
    rw [lower, lowerFrom, lowerFrom, if_neg hs, lowerChar_of_isBlank h, List.append_nil]
  rw [lowered, String.toList_ofList, hl]

theorem key_ne_blank (h : isBlank b = true) : key n ≠ String.ofList [b] := by
  intro e
  have hl : lower (trim n.toList) = [b] := by rw [← toList_key, e, String.toList_ofList]
  exact trim_ne_blank h (eq_of_lower_eq_blank h hl)

theorem key_blank (h : isBlank b = true) : key (String.ofList [b]) = "" := by
  rw [key_eq_empty_iff, trimmed_eq_empty_iff, String.toList_ofList]
  simpa using h

/-- Names need not be trimmed before they are compared, blank ones apart. -/
theorem lowered_eq_key_iff (h : IsName name) : lowered name = key n ↔ trimmed n ≠ "" ∧ key name = key n := by
  rcases h with ⟨h, hne⟩ | ⟨b, hb, rfl⟩
  · have e : key name = lowered name := by rw [key, h]
    rw [e]
    refine ⟨fun hk => ⟨fun hn => hne ?_, hk⟩, And.right⟩
    rw [← h, ← key_eq_empty_iff, e, hk]
    exact key_eq_empty_iff.mpr hn
  · constructor
    · intro e
      rw [lowered_blank hb] at e
      exact absurd e.symm (key_ne_blank hb)
    · intro e
      rw [key_blank hb] at e
      exact absurd (key_eq_empty_iff.mp e.2.symm) e.1

end

/-! ## Least entries of a table -/

theorem Table.least_of_find?_filter {α : Type} {t : Table α} {p q : String × α → Bool} {e x : String × α}
    (h : (t.toList.filter p).find? q = some e) (hx : x ∈ t.toList) (hp : p x = true) (hq : q x = true) :
    e.1 ≤ x.1 := by
  have hs : (t.toList.filter p).Pairwise (fun a b => a.1 < b.1) := t.sorted.filter p
  obtain ⟨_, before, later, split, unfit⟩ := List.find?_eq_some_iff_append.mp h
  have hm : x ∈ before ++ e :: later := split ▸ List.mem_filter.mpr ⟨hx, hp⟩
  rw [split] at hs
  rcases List.mem_append.mp hm with hm | hm
  · exact absurd hq (by simpa using unfit x hm)
  · rcases List.mem_cons.mp hm with rfl | hm
    · exact String.le_refl _
    · have hlt := (List.pairwise_cons.mp (List.pairwise_append.mp hs).2.1).1 x hm
      exact String.not_lt.mp fun hgt => String.lt_irrefl _ (String.lt_trans hlt hgt)

theorem Table.find?_filter_iff {α : Type} {t : Table α} {p q : String × α → Bool} {e : String × α}
    (he : e ∈ t.toList) : (t.toList.filter p).find? q = some e ↔
      (p e = true ∧ q e = true) ∧ ∀ x ∈ t.toList, p x = true → q x = true → e.1 ≤ x.1 := by
  constructor
  · intro h
    have hm := (List.mem_filter.mp (List.mem_of_find?_eq_some h)).2
    exact ⟨⟨hm, List.find?_some h⟩, fun x => least_of_find?_filter h⟩
  · intro h
    obtain ⟨⟨hp, hq⟩, least⟩ := h
    obtain ⟨x, hx⟩ : ∃ x, (t.toList.filter p).find? q = some x :=
      Option.isSome_iff_exists.mp (List.find?_isSome.mpr ⟨e, List.mem_filter.mpr ⟨he, hp⟩, hq⟩)
    obtain ⟨hxt, hpx⟩ := List.mem_filter.mp (List.mem_of_find?_eq_some hx)
    have hk : x.1 = e.1 :=
      String.le_antisymm (least_of_find?_filter hx he hp hq) (least x hxt hpx (List.find?_some hx))
    obtain ⟨k, v⟩ := e
    obtain ⟨k', v'⟩ := x
    obtain rfl : k' = k := hk
    have same := (Table.find?_eq_some.mpr hxt).symm.trans (Table.find?_eq_some.mpr he)
    rw [hx, Option.some.inj same]

theorem Table.find?_or_head?_iff {α : Type} {es : List α} {q : α → Bool} {e : α} (hq : q e = true) :
    (es.find? q <|> es.head?) = some e ↔ es.find? q = some e := by
  rw [Option.orElse_eq_orElse, Option.orElse_eq_or, Option.or_eq_some_iff]
  constructor
  · intro h
    rcases h with h | ⟨none, h⟩
    · exact h
    · exact absurd hq (List.find?_eq_none.mp none e (List.mem_of_head? h))
  · exact .inl

namespace Assembly

variable {a : Assembly} {generatedAt : Timestamp} {n key : String} {t : Term}

/-! ## Entries of terms -/

theorem mem_terms_index {e : String × TermEntry} (h : e ∈ (a.index generatedAt).terms.toList) :
    ∃ u ∈ a.terms.registry.terms, e = (u.definition.key, a.termEntry u) := by
  rw [terms_index] at h
  obtain ⟨u, hu, rfl⟩ := List.mem_map.mp (Table.mem_of_mem_ofList h)
  exact ⟨u, hu, rfl⟩

theorem find?_terms_index (ht : t ∈ a.terms.registry.terms)
    (sole : ∀ u ∈ a.terms.registry.terms, u.definition.key = t.definition.key → u = t) :
    (a.index generatedAt).terms.find? t.definition.key = some (a.termEntry t) := by
  have hc : (a.index generatedAt).terms.contains t.definition.key = true := contains_terms ht
  rw [Table.contains_eq_isSome, Option.isSome_iff_exists] at hc
  obtain ⟨e, he⟩ := hc
  obtain ⟨u, hu, hx⟩ := mem_terms_index (Table.find?_eq_some.mp he)
  obtain ⟨hk, rfl⟩ := Prod.mk.inj hx
  rw [he, sole u hu hk.symm]

theorem answersTo_termEntry (tidy : t.definition.Tidy) :
    Index.answersTo (Glossary.key n) (a.termEntry t) = true ↔ trimmed n ≠ "" ∧ t.Claims (Glossary.key n) := by
  have entry : (a.termEntry t).name = t.name ∧ (a.termEntry t).aliases = t.definition.aliases := ⟨rfl, rfl⟩
  simp only [Index.answersTo, entry, Bool.or_eq_true, decide_eq_true_eq, List.any_eq_true, Term.Claims,
    and_or_left, ← exists_and_left]
  refine or_congr (lowered_eq_key_iff tidy.name) (exists_congr fun x => ?_)
  rw [and_left_comm]
  exact and_congr_right fun hx => lowered_eq_key_iff (.inl (tidy.aliases hx))

/-! ## Global terms -/

theorem key_eq_name (ht : t ∈ a.terms.registry.scope none) : t.definition.key = t.name := by
  rw [Definition.key, (Registry.mem_scope.mp ht).2]
  rfl

theorem scope_eq_global : t.definition.scope = .global ↔ t.definition.onlyIn? = none := by
  unfold Definition.onlyIn?
  cases t.definition.scope with
  | global => simp
  | document => simp

theorem isGlobal (ht : t ∈ a.terms.registry.scope none) : (a.termEntry t).scope = .global :=
  scope_eq_global.mpr (Registry.mem_scope.mp ht).2

/-- No private term is kept under `n` or under the name of a global term that claims the key of `n`. -/
def KeptApart (r : Registry) (n : String) : Prop := ∀ v ∈ r.terms, v.definition.scope = .document →
  v.definition.key ≠ n ∧ ∀ u ∈ r.scope none, u.Claims (Glossary.key n) → v.definition.key ≠ u.name

instance (r : Registry) (n : String) : Decidable (KeptApart r n) :=
  inferInstanceAs (Decidable (∀ v ∈ r.terms, v.definition.scope = .document →
    v.definition.key ≠ n ∧ ∀ u ∈ r.scope none, u.Claims (Glossary.key n) → v.definition.key ≠ u.name))

/-- Whether the index tells the term from all others that claim the key of `n`: by its exact name, or as the one
of the least name. -/
def ToldBy (r : Registry) (n : String) (t : Term) : Prop := n = t.name ∨
  trimmed n ≠ "" ∧ ∀ u ∈ r.scope none, u.Claims (Glossary.key n) → t.name ≤ u.name

instance (r : Registry) (n : String) (t : Term) : Decidable (ToldBy r n t) :=
  inferInstanceAs (Decidable (n = t.name ∨
    trimmed n ≠ "" ∧ ∀ u ∈ r.scope none, u.Claims (Glossary.key n) → t.name ≤ u.name))

section
variable (orderly : a.terms.registry.Orderly) (apart : KeptApart a.terms.registry n)

include orderly apart

theorem find?_global_terms_index (ht : t ∈ a.terms.registry.scope none) (hk : t.Claims (Glossary.key n)) :
    (a.index generatedAt).terms.find? t.name = some (a.termEntry t) := by
  rw [← key_eq_name ht]
  refine find?_terms_index (Registry.mem_scope.mp ht).1 fun u hu e => ?_
  rw [key_eq_name ht] at e
  cases hs : u.definition.scope with
  | document => exact absurd e ((apart u hu hs).2 t ht hk)
  | global =>
    have hg : u ∈ a.terms.registry.scope none := Registry.mem_scope.mpr ⟨hu, scope_eq_global.mp hs⟩
    exact orderly.distinct hg ht (congrArg Glossary.key ((key_eq_name hg).symm.trans e))

/-- What is kept under `n` itself is the term that the registry means by `n`. -/
theorem eq_of_find?_terms_index {e : TermEntry} (h : a.terms.registry.global? n = some t)
    (he : (a.index generatedAt).terms.find? n = some e) : n = t.name ∧ e = a.termEntry t := by
  obtain ⟨u, hu, hx⟩ := mem_terms_index (Table.find?_eq_some.mp he)
  obtain ⟨hk, rfl⟩ := Prod.mk.inj hx
  cases hs : u.definition.scope with
  | document => exact absurd hk.symm (apart u hu hs).1
  | global =>
    have hg : u ∈ a.terms.registry.scope none := Registry.mem_scope.mpr ⟨hu, scope_eq_global.mp hs⟩
    rw [key_eq_name hg] at hk
    obtain rfl := orderly.eq_of_find? h hg (congrArg Glossary.key hk.symm)
    exact ⟨hk, rfl⟩

theorem term?_index_iff (tidy : ∀ u ∈ a.terms.registry.terms, u.definition.Tidy)
    (h : a.terms.registry.global? n = some t) :
    (a.index generatedAt).term? n = some (t.name, a.termEntry t) ↔ ToldBy a.terms.registry n t := by
  obtain ⟨ht, hclaims⟩ := orderly.mem_of_find? h
  have own : (a.index generatedAt).terms.find? t.name = some (a.termEntry t) :=
    find?_global_terms_index orderly apart ht hclaims
  unfold Index.term?
  cases hf : (a.index generatedAt).terms.find? n with
  | some e =>
    obtain ⟨hn, rfl⟩ := eq_of_find?_terms_index orderly apart h hf
    simp only [← hn, true_iff]
    exact .inl hn
  | none =>
    have hne : n ≠ t.name := by
      intro e
      rw [e, own] at hf
      cases hf
    have hits : lowered (trimmed n) = Glossary.key n := rfl
    dsimp only
    rw [hits]
    refine (Table.find?_or_head?_iff (q := fun x : String × TermEntry => x.2.scope = .global)
      (decide_eq_true (isGlobal ht))).trans ?_
    rw [Table.find?_filter_iff (Table.find?_eq_some.mp own)]
    constructor
    · intro hx
      obtain ⟨⟨hp, _⟩, least⟩ := hx
      obtain ⟨hn, _⟩ := (answersTo_termEntry (tidy t (Registry.mem_scope.mp ht).1)).mp hp
      refine .inr ⟨hn, fun u hu hk => ?_⟩
      exact least (u.name, a.termEntry u) (Table.find?_eq_some.mp (find?_global_terms_index orderly apart hu hk))
        ((answersTo_termEntry (tidy u (Registry.mem_scope.mp hu).1)).mpr ⟨hn, hk⟩) (decide_eq_true (isGlobal hu))
    · intro told
      obtain ⟨hn, least⟩ := told.resolve_left hne
      refine ⟨⟨(answersTo_termEntry (tidy t (Registry.mem_scope.mp ht).1)).mpr ⟨hn, hclaims⟩,
        decide_eq_true (isGlobal ht)⟩, fun x hx hp hq => ?_⟩
      obtain ⟨u, hu, rfl⟩ := mem_terms_index hx
      have hg : u ∈ a.terms.registry.scope none :=
        Registry.mem_scope.mpr ⟨hu, scope_eq_global.mp (of_decide_eq_true hq)⟩
      rw [key_eq_name hg]
      exact least u hg ((answersTo_termEntry (tidy u hu)).mp hp).2

end

end Assembly

namespace Analysis

/-- What the registry of any documents knows by a name the index of these documents finds by that name just in
case it can tell the term from the others that claim the name. -/
theorem term?_ofScan_iff (config : Config) (languages : LanguageSet) (generatedAt : Timestamp) (scan : Scan)
    {n : String} {t : Term} (h : (ofScan config languages generatedAt scan).terms.registry.global? n = some t)
    (apart : Assembly.KeptApart (ofScan config languages generatedAt scan).terms.registry n) :
    (ofScan config languages generatedAt scan).index.term? n =
        some (t.name, (assemblyOf config languages scan).termEntry t) ↔
      Assembly.ToldBy (ofScan config languages generatedAt scan).terms.registry n t :=
  Assembly.term?_index_iff (Registry.orderly_ofList _) apart (fun _ => tidy_of_mem_terms) h

theorem term?_ofScan_gadget :
    let a := ofScan {} {} ⟨0, 0, 0⟩
      { docs := [⟨"a.md", "### [[Gizmo]]\n- scope: document\n"⟩,
          ⟨"glossary.md", "### [[Gadget]]\n- aliases: gizmo\n### [[Widget]]\n- aliases: Gizmo\n"⟩] }
    a.terms.registry.terms.map Term.name = ["Gizmo", "Gadget", "Widget"] ∧
      (a.index.term? " GIZMO ").map (·.1) = some "Gadget" := by
  intro a
  refine ⟨by decide +kernel, ?_⟩
  have h : a.terms.registry.global? " GIZMO " =
      some ⟨1, ⟨"Gadget", "gadget", .concept, .global, ["gizmo"], [], "", "glossary.md", 1⟩⟩ := by decide +kernel
  have apart : Assembly.KeptApart a.terms.registry " GIZMO " := by decide +kernel
  rw [(term?_ofScan_iff {} {} ⟨0, 0, 0⟩ _ h apart).mpr (.inr (by decide +kernel))]
  rfl

/-- The registry prefers the bearer of a name, the index the lesser of the names. -/
theorem term?_ofScan_zebra :
    let a := ofScan {} {} ⟨0, 0, 0⟩
      { docs := [⟨"glossary.md", "### [[Zebra]]\nStriped.\n\n### [[Apple]]\n- aliases: zebra\nFruit.\n"⟩] }
    (a.terms.registry.global? "ZEBRA").map Term.name = some "Zebra" ∧
      (a.index.term? "ZEBRA").map (·.1) = some "Apple" := by
  decide +kernel

end Analysis

end Interlink
