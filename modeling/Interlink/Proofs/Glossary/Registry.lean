import Interlink.Glossary.Analysis
import Interlink.Proofs.Glossary.NameTable

/-!
# Terms of the registry

Registration keeps every name table in step with the definitions of its scope, whatever comes in and in whatever
order. So names are unique within a scope, whatever a name means is a registered term that claims it, and two
terms that claim one key are on record as a conflict.
-/

namespace Interlink.Glossary

namespace Registry

variable {r : Registry} {d : Definition} {t u : Term} {o : Option String} {k name file : String}

/-! ## Terms and scopes -/

def scope (r : Registry) (onlyIn? : Option String) : List Term :=
  r.terms.filter fun t => t.definition.onlyIn? = onlyIn?

theorem mem_scope : t ∈ r.scope o ↔ t ∈ r.terms ∧ t.definition.onlyIn? = o := by
  simp [scope]

theorem mem_terms : t ∈ r.terms ↔ r.definitions[t.number]? = some t.definition := by
  rw [terms, List.mem_mapIdx, List.getElem?_eq_some_iff]
  constructor
  · intro h
    obtain ⟨i, hi, rfl⟩ := h
    exact ⟨hi, rfl⟩
  · intro h
    obtain ⟨hi, hd⟩ := h
    exact ⟨t.number, hi, by rw [hd]⟩

theorem number_lt_size (h : t ∈ r.terms) : t.number < r.size :=
  (List.getElem?_eq_some_iff.mp (mem_terms.mp h)).1

theorem eq_of_number (ht : t ∈ r.terms) (hu : u ∈ r.terms) (h : t.number = u.number) : t = u := by
  obtain ⟨i, d⟩ := t
  obtain ⟨j, e⟩ := u
  obtain rfl : i = j := h
  have same : some d = some e := (mem_terms.mp ht).symm.trans (mem_terms.mp hu)
  rw [Option.some.inj same]

theorem nodup_terms (r : Registry) : r.terms.Nodup := by
  refine List.pairwise_iff_getElem.mpr fun i j hi hj hij e => ?_
  simp only [terms, List.getElem_mapIdx, Term.mk.injEq] at e
  exact Nat.ne_of_lt hij e.1

theorem exists_term (h : d ∈ r.definitions) : ∃ t ∈ r.terms, t.definition = d := by
  obtain ⟨i, hi⟩ := List.mem_iff_getElem?.mp h
  exact ⟨⟨i, d⟩, mem_terms.mpr hi, rfl⟩

/-! ## One registration -/

def next (r : Registry) (d : Definition) : Term := ⟨r.size, d⟩

def extended (r : Registry) (d : Definition) : Registry :=
  { r.withTable ((r.table d.onlyIn?).register (r.next d)).1 d.onlyIn? with
    definitions := r.definitions ++ [d]
    conflicts := r.conflicts ++ ((r.table d.onlyIn?).register (r.next d)).2.map (contested d) }

/-- A definition either repeats the name of a term and adds nothing, or becomes a term. -/
theorem insert_cases (r : Registry) (d : Definition) :
    (∃ t, (r.table d.onlyIn?).names.find? (key d.name) = some t ∧
      r.insert d = ({ r with conflicts := r.conflicts ++ repetition t d }, t.number)) ∨
    ((r.table d.onlyIn?).names.find? (key d.name) = none ∧ r.insert d = (r.extended d, r.size)) := by
  unfold insert
  dsimp only
  cases h : (r.table d.onlyIn?).names.find? (key d.name) with
  | some t => exact .inl ⟨t, rfl, rfl⟩
  | none => exact .inr ⟨rfl, rfl⟩

theorem table_withTable (r : Registry) (table : NameTable) (o o' : Option String) :
    (r.withTable table o).table o' = if o' = o then table else r.table o' := by
  cases o with
  | none => cases o' <;> simp [withTable, Registry.table]
  | some file =>
    cases o' with
    | none => simp [withTable, Registry.table]
    | some other =>
      simp only [withTable, Registry.table, Table.find?_insert, Option.some.injEq]
      split <;> rfl

theorem table_extended (r : Registry) (d : Definition) (o : Option String) :
    (r.extended d).table o = if o = d.onlyIn? then ((r.table o).register (r.next d)).1 else r.table o := by
  have e :
      (r.extended d).table o = (r.withTable ((r.table d.onlyIn?).register (r.next d)).1 d.onlyIn?).table o := by
    cases o <;> rfl
  rw [e, table_withTable]
  by_cases h : o = d.onlyIn?
  · rw [if_pos h, if_pos h, h]
  · rw [if_neg h, if_neg h]

theorem terms_extended (r : Registry) (d : Definition) : (r.extended d).terms = r.terms ++ [r.next d] := by
  simp [terms, extended, next, size]

theorem scope_extended (r : Registry) (d : Definition) (o : Option String) :
    (r.extended d).scope o = r.scope o ++ if o = d.onlyIn? then [r.next d] else [] := by
  rw [scope, terms_extended, List.filter_append]
  by_cases h : d.onlyIn? = o
  · simp [scope, next, h]
  · simp [scope, next, h, Ne.symm h]

theorem mem_scope_extended : t ∈ (r.extended d).scope o ↔ t ∈ r.scope o ∨ (t = r.next d ∧ o = d.onlyIn?) := by
  rw [scope_extended, List.mem_append]
  by_cases h : o = d.onlyIn?
  · simp [h]
  · simp [h]

theorem number_ne_next (h : t ∈ r.scope o) : t.number ≠ (r.next d).number :=
  Nat.ne_of_lt (number_lt_size (mem_scope.mp h).1)

/-! ## What registration keeps -/

/-- A registry whose tables answer for its definitions, and whose conflicts are the contests between them. -/
structure Orderly (r : Registry) : Prop where
  indexed (o : Option String) : (r.table o).Indexes (r.scope o)
  distinct {o : Option String} {t u : Term} : t ∈ r.scope o → u ∈ r.scope o → key t.name = key u.name → t = u
  reported {o : Option String} {t u : Term} {k : String} : t ∈ r.scope o → u ∈ r.scope o → t ≠ u → t.Claims k →
    u.Claims k → ∃ c ∈ r.conflicts, c.kind = .alias ∧ key c.name = k
  justified {c : Conflict} : c ∈ r.conflicts → c.kind = .alias → ∃ o, ∃ t ∈ r.scope o, ∃ u ∈ r.scope o,
    t.number < u.number ∧ t.Claims (key c.name) ∧ (c.name = u.name ∨ c.name ∈ u.definition.aliases) ∧
    c.first = t.location ∧ c.second = u.location

theorem orderly_empty : ({} : Registry).Orderly where
  indexed o := by cases o <;> exact NameTable.indexes_empty
  distinct ht := nomatch ht
  reported ht := nomatch ht
  justified hc := nomatch hc

theorem Orderly.find?_eq (h : r.Orderly) (o : Option String) (name : String) :
    r.find? o name = owner? (r.scope o) (key name) := (h.indexed o).find?_eq (key name)

theorem Orderly.mem_of_find? (h : r.Orderly) (ht : r.find? o name = some t) :
    t ∈ r.scope o ∧ t.Claims (key name) :=
  owner?_cases (h.find?_eq o name ▸ ht)

def Claimed (r : Registry) (o : Option String) (k : String) : Prop := ∃ t ∈ r.scope o, t.Claims k

theorem Orderly.exists_find? (h : r.Orderly) : (∃ t, r.find? o name = some t) ↔ r.Claimed o (key name) := by
  constructor
  · intro hx
    obtain ⟨t, ht⟩ := hx
    exact ⟨t, h.mem_of_find? ht⟩
  · intro hx
    obtain ⟨t, ht, hk⟩ := hx
    rw [h.find?_eq]
    exact exists_owner? ht hk

theorem Orderly.eq_of_find? (h : r.Orderly) (ht : r.find? o name = some t) (hu : u ∈ r.scope o)
    (hk : key u.name = key name) : t = u := by
  rw [h.find?_eq] at ht
  exact h.distinct (owner?_cases ht).1 hu ((key_owner? ht hu hk).trans hk.symm)

theorem Orderly.find?_name (h : r.Orderly) (ht : t ∈ r.scope o) : r.find? o t.name = some t := by
  obtain ⟨u, hu⟩ : ∃ u, r.find? o t.name = some u := h.exists_find?.mpr ⟨t, ht, .inl rfl⟩
  rw [hu, h.eq_of_find? hu ht rfl]

/-- What one scope holds of a conflict does not depend on other scopes or later terms. -/
theorem Orderly.repeat (h : r.Orderly) (t : Term) (d : Definition) :
    ({ r with conflicts := r.conflicts ++ repetition t d } : Registry).Orderly where
  indexed o := by
    have e := h.indexed o
    cases o <;> exact e
  distinct := h.distinct
  reported ht hu hne hk hk' := by
    obtain ⟨c, hc, hx⟩ := h.reported ht hu hne hk hk'
    exact ⟨c, List.mem_append_left _ hc, hx⟩
  justified hc hk := by
    rcases List.mem_append.mp hc with hc | hc
    · exact h.justified hc hk
    · unfold repetition at hc
      split at hc
      · cases hc
      · obtain rfl := List.mem_singleton.mp hc
        cases hk

section
variable (h : r.Orderly) (new : (r.table d.onlyIn?).names.find? (key d.name) = none)

include h new

theorem Orderly.unnamed : (r.scope d.onlyIn?).find? (·.isNamed (key (r.next d).name)) = none := by
  rw [← (h.indexed d.onlyIn?).names]
  exact new

theorem Orderly.key_ne_next (ht : t ∈ r.scope d.onlyIn?) : key t.name ≠ key (r.next d).name := fun hk =>
  List.find?_eq_none.mp (h.unnamed new) t ht (Term.isNamed_iff.mpr hk)

theorem Orderly.mem_contests {c : Contest} : c ∈ ((r.table d.onlyIn?).register (r.next d)).2 ↔
    owner? (r.scope d.onlyIn?) (key c.name) = some c.holder ∧
      (c.name = d.name ∨ key c.name ≠ key d.name ∧ c.name ∈ d.aliases) :=
  (h.indexed d.onlyIn?).mem_contests (h.unnamed new) fun _ hu => number_ne_next hu

/-- What the new term claims and another has it writes down under one of its names. -/
theorem Orderly.reports_next (ht : t ∈ r.scope d.onlyIn?) (hk : t.Claims k) (hn : (r.next d).Claims k) :
    ∃ c ∈ (r.extended d).conflicts, c.kind = .alias ∧ key c.name = k := by
  obtain ⟨holder, hw⟩ := exists_owner? ht hk
  have recorded (name : String) (hname : key name = k)
      (written : name = d.name ∨ key name ≠ key d.name ∧ name ∈ d.aliases) :
      ∃ c ∈ (r.extended d).conflicts, c.kind = .alias ∧ key c.name = k := by
    have taken : owner? (r.scope d.onlyIn?) (key name) = some holder := by rw [hname, hw]
    have hc := (h.mem_contests new (c := ⟨name, holder⟩)).mpr ⟨taken, written⟩
    exact ⟨_, List.mem_append_right _ (List.mem_map_of_mem hc), rfl, hname⟩
  rcases hn with hn | ⟨a, ha, hn⟩
  · exact recorded d.name hn (.inl rfl)
  · by_cases own : key a = key d.name
    · exact recorded d.name (own.symm.trans hn) (.inl rfl)
    · exact recorded a hn (.inr ⟨own, ha⟩)

theorem Orderly.extended : (r.extended d).Orderly := by
  refine ⟨fun o => ?_, fun {o t u} ht hu hk => ?_, fun {o t u k} ht hu hne hk hk' => ?_, fun {c} hc hk => ?_⟩
  · rw [table_extended, scope_extended]
    by_cases ho : o = d.onlyIn?
    · subst ho
      rw [if_pos rfl, if_pos rfl]
      exact (h.indexed _).register (h.unnamed new) fun _ hu => number_ne_next hu
    · rw [if_neg ho, if_neg ho, List.append_nil]
      exact h.indexed o
  · rcases mem_scope_extended.mp ht with ht | ⟨rfl, rfl⟩
    · rcases mem_scope_extended.mp hu with hu | ⟨rfl, rfl⟩
      · exact h.distinct ht hu hk
      · exact absurd hk (h.key_ne_next new ht)
    · rcases mem_scope_extended.mp hu with hu | ⟨rfl, _⟩
      · exact absurd hk.symm (h.key_ne_next new hu)
      · rfl
  · rcases mem_scope_extended.mp ht with ht | ⟨rfl, rfl⟩
    · rcases mem_scope_extended.mp hu with hu | ⟨rfl, rfl⟩
      · obtain ⟨c, hc, hx⟩ := h.reported ht hu hne hk hk'
        exact ⟨c, List.mem_append_left _ hc, hx⟩
      · exact h.reports_next new ht hk hk'
    · rcases mem_scope_extended.mp hu with hu | ⟨rfl, _⟩
      · exact h.reports_next new hu hk' hk
      · exact absurd rfl hne
  · rcases List.mem_append.mp hc with hc | hc
    · obtain ⟨o, t, ht, u, hu, hx⟩ := h.justified hc hk
      exact ⟨o, t, mem_scope_extended.mpr (.inl ht), u, mem_scope_extended.mpr (.inl hu), hx⟩
    · obtain ⟨contest, hx, rfl⟩ := List.mem_map.mp hc
      obtain ⟨hw, written⟩ := (h.mem_contests new).mp hx
      obtain ⟨hm, hcl⟩ := owner?_cases hw
      exact ⟨d.onlyIn?, contest.holder, mem_scope_extended.mpr (.inl hm), r.next d,
        mem_scope_extended.mpr (.inr ⟨rfl, rfl⟩),
        number_lt_size (mem_scope.mp hm).1, hcl, written.imp_right And.right, rfl, rfl⟩

end

theorem Orderly.insert (h : r.Orderly) (d : Definition) : (r.insert d).1.Orderly := by
  rcases r.insert_cases d with ⟨t, _, e⟩ | ⟨new, e⟩
  · rw [e]
    exact h.repeat t d
  · rw [e]
    exact h.extended new

theorem orderly_ofList (ds : List Definition) : (ofList ds).Orderly :=
  List.foldlRecOn ds _ orderly_empty fun _ h d _ => h.insert d

/-! ## What a name means -/

theorem exists_of_findSome? {t : Term}
    (h : (r.documents.toList.filter (·.1 ≠ file)).findSome? (fun e => e.2.find? k) = some t) :
    ∃ other, other ≠ file ∧ (r.table (some other)).find? k = some t := by
  obtain ⟨e, he, ht⟩ := List.exists_of_findSome?_eq_some h
  obtain ⟨hm, hne⟩ := List.mem_filter.mp he
  refine ⟨e.1, of_decide_eq_true hne, ?_⟩
  rw [table, Table.find?_eq_some.mpr hm]
  exact ht

theorem find?_of_findSome?_eq_none
    (h : (r.documents.toList.filter (·.1 ≠ file)).findSome? (fun e => e.2.find? k) = none) {other : String}
    (hne : other ≠ file) : (r.table (some other)).find? k = none := by
  rw [table]
  cases hf : r.documents.find? other with
  | none => rfl
  | some table =>
    have hm : (other, table) ∈ r.documents.toList.filter (·.1 ≠ file) :=
      List.mem_filter.mpr ⟨Table.find?_eq_some.mp hf, decide_eq_true hne⟩
    exact List.findSome?_eq_none_iff.mp h _ hm

theorem meaning_cases (r : Registry) (name file : String) :
    (∃ t, r.find? (some file) name = some t ∧ r.meaning name file = .visible t) ∨
    (r.find? (some file) name = none ∧ ∃ t, r.find? none name = some t ∧ r.meaning name file = .visible t) ∨
    (r.find? (some file) name = none ∧ r.find? none name = none ∧
      ∃ other, other ≠ file ∧ ∃ t, r.find? (some other) name = some t ∧ r.meaning name file = .hidden t) ∨
    (r.find? (some file) name = none ∧ r.find? none name = none ∧
      (∀ other, other ≠ file → r.find? (some other) name = none) ∧ r.meaning name file = .undefined) := by
  unfold meaning global?
  cases own : r.find? (some file) name with
  | some t => exact .inl ⟨t, rfl, rfl⟩
  | none =>
    cases global : r.find? none name with
    | some t => exact .inr (.inl ⟨rfl, t, rfl, rfl⟩)
    | none =>
      dsimp only [Option.orElse_eq_orElse, Option.orElse_eq_or, Option.or_none]
      cases hidden : (r.documents.toList.filter (·.1 ≠ file)).findSome? (fun e => e.2.find? (key name)) with
      | some t =>
        obtain ⟨other, hne, ht⟩ := exists_of_findSome? hidden
        exact .inr (.inr (.inl ⟨rfl, rfl, other, hne, t, ht, rfl⟩))
      | none => exact .inr (.inr (.inr ⟨rfl, rfl, fun _ hne => find?_of_findSome?_eq_none hidden hne, rfl⟩))

theorem Orderly.meaning_of_claims (h : r.Orderly) (name file : String) :
    (r.Claimed (some file) (key name) →
      ∃ t, r.find? (some file) name = some t ∧ r.meaning name file = .visible t) ∧
    (¬ r.Claimed (some file) (key name) → r.Claimed none (key name) →
      ∃ t, r.find? none name = some t ∧ r.meaning name file = .visible t) ∧
    (¬ r.Claimed (some file) (key name) → ¬ r.Claimed none (key name) →
      (∃ other, other ≠ file ∧ r.Claimed (some other) (key name)) →
      ∃ other, other ≠ file ∧ ∃ t, r.find? (some other) name = some t ∧ r.meaning name file = .hidden t) ∧
    (¬ r.Claimed (some file) (key name) → ¬ r.Claimed none (key name) →
      (¬ ∃ other, other ≠ file ∧ r.Claimed (some other) (key name)) → r.meaning name file = .undefined) := by
  have claimed {o : Option String} {t : Term} (ht : r.find? o name = some t) : r.Claimed o (key name) :=
    h.exists_find?.mp ⟨t, ht⟩
  have unclaimed {o : Option String} (hn : r.find? o name = none) : ¬ r.Claimed o (key name) := by
    intro hc
    obtain ⟨t, ht⟩ := h.exists_find?.mpr hc
    rw [hn] at ht
    cases ht
  rcases r.meaning_cases name file with ⟨t, ht, e⟩ | ⟨hf, t, ht, e⟩ |
    ⟨hf, hg, other, hne, t, ht, e⟩ | ⟨hf, hg, hall, e⟩
  · have hc := claimed ht
    exact ⟨fun _ => ⟨t, ht, e⟩, fun hn => absurd hc hn, fun hn => absurd hc hn, fun hn => absurd hc hn⟩
  · have hc := claimed ht
    exact ⟨fun hx => absurd hx (unclaimed hf), fun _ _ => ⟨t, ht, e⟩, fun _ hn => absurd hc hn,
      fun _ hn => absurd hc hn⟩
  · have hc : ∃ other, other ≠ file ∧ r.Claimed (some other) (key name) := ⟨other, hne, claimed ht⟩
    exact ⟨fun hx => absurd hx (unclaimed hf), fun _ hx => absurd hx (unclaimed hg),
      fun _ _ _ => ⟨other, hne, t, ht, e⟩, fun _ _ hn => absurd hc hn⟩
  · have hc : ¬ ∃ other, other ≠ file ∧ r.Claimed (some other) (key name) := by
      intro hx
      obtain ⟨other, hne, hx⟩ := hx
      exact unclaimed (hall other hne) hx
    exact ⟨fun hx => absurd hx (unclaimed hf), fun _ hx => absurd hx (unclaimed hg), fun _ _ hx => absurd hx hc,
      fun _ _ _ => e⟩

theorem Orderly.mem_terms_of_meaning (h : r.Orderly) (ht : (r.meaning name file).term? = some t) :
    t ∈ r.terms := by
  have found {o : Option String} {u : Term} (hu : r.find? o name = some u) (hm : some u = some t) :
      t ∈ r.terms := by
    obtain rfl := Option.some.inj hm
    exact (mem_scope.mp (h.mem_of_find? hu).1).1
  rcases r.meaning_cases name file with ⟨u, hu, e⟩ | ⟨_, u, hu, e⟩ | ⟨_, _, _, _, u, hu, e⟩ | ⟨_, _, _, e⟩
  · exact found hu (by rw [← ht, e]; rfl)
  · exact found hu (by rw [← ht, e]; rfl)
  · exact found hu (by rw [← ht, e]; rfl)
  · rw [e] at ht
    cases ht

theorem meaning_mention {x : Reference} : (r.mention x).meaning = r.meaning x.text x.file := by
  unfold mention
  dsimp only
  split <;> rfl

/-- How a registry of any definitions answers. Names are unique within a scope and stand for their own terms. A
name that is looked up in a scope is found if some term claims it, and yields such a term, the one of that name
if there is one. In a document it means a term of that document, or else a global one, or else a hidden one.
Claims of two terms to one key are on record, and all that is on record as such are claims of two terms. -/
theorem ofList_answers (ds : List Definition) :
    let r := ofList ds
    (∀ o, ∀ t ∈ r.scope o, (∀ u ∈ r.scope o, key u.name = key t.name → u = t) ∧ r.find? o t.name = some t) ∧
    (∀ o name, ((∃ t, r.find? o name = some t) ↔ r.Claimed o (key name)) ∧
      ∀ t, r.find? o name = some t → t ∈ r.scope o ∧ t.Claims (key name) ∧
        ∀ u ∈ r.scope o, key u.name = key name → t = u) ∧
    (∀ name file,
      (r.Claimed (some file) (key name) →
        ∃ t, r.find? (some file) name = some t ∧ r.meaning name file = .visible t) ∧
      (¬ r.Claimed (some file) (key name) → r.Claimed none (key name) →
        ∃ t, r.find? none name = some t ∧ r.meaning name file = .visible t) ∧
      (¬ r.Claimed (some file) (key name) → ¬ r.Claimed none (key name) →
        (∃ other, other ≠ file ∧ r.Claimed (some other) (key name)) →
        ∃ other, other ≠ file ∧ ∃ t, r.find? (some other) name = some t ∧ r.meaning name file = .hidden t) ∧
      (¬ r.Claimed (some file) (key name) → ¬ r.Claimed none (key name) →
        (¬ ∃ other, other ≠ file ∧ r.Claimed (some other) (key name)) → r.meaning name file = .undefined)) ∧
    (∀ o, ∀ t ∈ r.scope o, ∀ u ∈ r.scope o, t ≠ u → ∀ k, t.Claims k → u.Claims k →
      ∃ c ∈ r.conflicts, c.kind = .alias ∧ key c.name = k) ∧
    ∀ c ∈ r.conflicts, c.kind = .alias → ∃ o, ∃ t ∈ r.scope o, ∃ u ∈ r.scope o, t.number < u.number ∧
      t.Claims (key c.name) ∧ (c.name = u.name ∨ c.name ∈ u.definition.aliases) ∧
      c.first = t.location ∧ c.second = u.location := by
  intro r
  have h : r.Orderly := orderly_ofList ds
  refine ⟨fun o t ht => ⟨fun u hu hk => h.distinct hu ht hk, h.find?_name ht⟩, fun o name => ⟨h.exists_find?, ?_⟩,
    h.meaning_of_claims, fun o t ht u hu hne k hk hk' => h.reported ht hu hne hk hk',
    fun c hc hk => h.justified hc hk⟩
  intro t ht
  obtain ⟨hm, hk⟩ := h.mem_of_find? ht
  exact ⟨hm, hk, fun u hu hn => h.eq_of_find? ht hu hn⟩

end Registry

theorem mem_terms_of_mem_mentions {config : TermsConfig} {texts : List (String × String)} {m : Mention} {t : Term}
    (hm : m ∈ (analyze config texts).report.mentions) (ht : m.meaning.term? = some t) :
    t ∈ (analyze config texts).registry.terms := by
  obtain ⟨x, _, rfl⟩ := List.mem_map.mp hm
  exact (Registry.orderly_ofList _).mem_terms_of_meaning (Registry.meaning_mention ▸ ht)

end Interlink.Glossary
