import Interlink.Proofs.Glossary.Registry
import Mathlib.Data.List.Induction

/-!
# What becomes of aliases

A conflict is on record just in case definitions dispute a name: one repeats another's name with a
text of its own, or two of one scope claim the name. An alias that leads to no term of its
definition's name is disputed in this way, unless the definition repeats a name and its text: then
its further aliases are dropped without notice.
-/

namespace Interlink.Glossary

namespace Registry

variable {r : Registry} {ds : List Definition} {d : Definition} {t u : Term} {o : Option String} {k name : String}

/-! ## Terms by their names -/

theorem Orderly.find?_names_iff (h : r.Orderly) :
    (r.table o).names.find? (key name) = some t ↔ t ∈ r.scope o ∧ key t.name = key name := by
  rw [(h.indexed o).names]
  constructor
  · intro hf
    exact ⟨List.mem_of_find?_eq_some hf, Term.isNamed_iff.mp (List.find?_some hf)⟩
  · intro hx
    obtain ⟨ht, hk⟩ := hx
    obtain ⟨u, hu⟩ : ∃ u, (r.scope o).find? (·.isNamed (key name)) = some u :=
      Option.isSome_iff_exists.mp (List.find?_isSome.mpr ⟨t, ht, Term.isNamed_iff.mpr hk⟩)
    have huk : key u.name = key name := Term.isNamed_iff.mp (List.find?_some hu)
    rw [hu, h.distinct (List.mem_of_find?_eq_some hu) ht (huk.trans hk.symm)]

theorem mem_repetition {c : Conflict} : c ∈ repetition t d ↔
    t.definition.definition ≠ d.definition ∧ c = ⟨d.name, .definition, t.location, .ofLine d.file d.line⟩ := by
  unfold repetition
  split
  · rename_i h
    simp [h]
  · rename_i h
    simp [h]

def Differs (r : Registry) (d : Definition) (t : Term) : Prop :=
  t ∈ r.scope d.onlyIn? ∧ key t.name = key d.name ∧ t.definition.definition ≠ d.definition

/-! ## What registration notes -/

/-- What a registry holds of the definitions that came in: a term of every name, and a note of those that differ
from the term of their name. -/
structure Noted (ds : List Definition) (r : Registry) : Prop where
  named {d : Definition} : d ∈ ds → ∃ t ∈ r.scope d.onlyIn?, key t.name = key d.name
  noted {d : Definition} {t : Term} : d ∈ ds → r.Differs d t → ∃ c ∈ r.conflicts, c.name = d.name
  grounds {c : Conflict} : c ∈ r.conflicts → c.kind = .definition → ∃ d ∈ ds, c.name = d.name ∧ ∃ t, r.Differs d t

theorem noted_empty : Noted [] {} where
  named hd := nomatch hd
  noted hd := nomatch hd
  grounds hc := nomatch hc

theorem ofList_snoc (ds : List Definition) (d : Definition) : ofList (ds ++ [d]) = ((ofList ds).insert d).1 := by
  rw [ofList, List.foldl_append]
  rfl

theorem Noted.repeat (h : Noted ds r) (orderly : r.Orderly) (ht : t ∈ r.scope d.onlyIn?)
    (hk : key t.name = key d.name) :
    Noted (ds ++ [d]) { r with conflicts := r.conflicts ++ repetition t d } where
  named {e} he := by
    rcases List.mem_append.mp he with he | he
    · exact h.named he
    · obtain rfl := List.mem_singleton.mp he
      exact ⟨t, ht, hk⟩
  noted {e u} he hu := by
    rcases List.mem_append.mp he with he | he
    · obtain ⟨c, hc, hn⟩ := h.noted he hu
      exact ⟨c, List.mem_append_left _ hc, hn⟩
    · obtain rfl := List.mem_singleton.mp he
      obtain ⟨hm, hn, htext⟩ := hu
      obtain rfl : u = t := orderly.distinct hm ht (hn.trans hk.symm)
      exact ⟨_, List.mem_append_right _ (mem_repetition.mpr ⟨htext, rfl⟩), rfl⟩
  grounds {c} hc hkind := by
    rcases List.mem_append.mp hc with hc | hc
    · obtain ⟨e, he, hn, u, hu⟩ := h.grounds hc hkind
      exact ⟨e, List.mem_append_left _ he, hn, u, hu⟩
    · obtain ⟨htext, rfl⟩ := mem_repetition.mp hc
      exact ⟨d, by simp, rfl, t, ht, hk, htext⟩

section
variable (h : Noted ds r) (orderly : r.Orderly) (new : (r.table d.onlyIn?).names.find? (key d.name) = none)

include h orderly new

theorem Noted.differs_extended {e : Definition} (he : e ∈ ds) : (r.extended d).Differs e u ↔ r.Differs e u := by
  unfold Differs
  rw [mem_scope_extended, or_and_right, or_iff_left]
  intro hx
  obtain ⟨⟨rfl, ho⟩, hk, _⟩ := hx
  obtain ⟨t, ht, htk⟩ := h.named he
  exact orderly.key_ne_next new (ho ▸ ht) (htk.trans hk.symm)

theorem Noted.extended : Noted (ds ++ [d]) (r.extended d) where
  named {e} he := by
    rcases List.mem_append.mp he with he | he
    · obtain ⟨t, ht, hk⟩ := h.named he
      exact ⟨t, mem_scope_extended.mpr (.inl ht), hk⟩
    · obtain rfl := List.mem_singleton.mp he
      exact ⟨r.next e, mem_scope_extended.mpr (.inr ⟨rfl, rfl⟩), rfl⟩
  noted {e u} he hu := by
    rcases List.mem_append.mp he with he | he
    · obtain ⟨c, hc, hn⟩ := h.noted he ((h.differs_extended orderly new he).mp hu)
      exact ⟨c, List.mem_append_left _ hc, hn⟩
    · obtain rfl := List.mem_singleton.mp he
      obtain ⟨hm, hk, htext⟩ := hu
      rcases mem_scope_extended.mp hm with hm | ⟨rfl, _⟩
      · exact absurd hk (orderly.key_ne_next new hm)
      · exact absurd rfl htext
  grounds {c} hc hkind := by
    rcases List.mem_append.mp hc with hc | hc
    · obtain ⟨e, he, hn, u, hu⟩ := h.grounds hc hkind
      exact ⟨e, List.mem_append_left _ he, hn, u, (h.differs_extended orderly new he).mpr hu⟩
    · obtain ⟨_, _, rfl⟩ := List.mem_map.mp hc
      cases hkind

end

theorem Noted.insert (h : Noted ds r) (orderly : r.Orderly) (d : Definition) :
    Noted (ds ++ [d]) (r.insert d).1 := by
  rcases r.insert_cases d with ⟨t, ht, e⟩ | ⟨new, e⟩
  · obtain ⟨hm, hk⟩ := orderly.find?_names_iff.mp ht
    rw [e]
    exact h.repeat orderly hm hk
  · rw [e]
    exact h.extended orderly new

theorem noted_ofList (ds : List Definition) : Noted ds (ofList ds) := by
  induction ds using List.reverseRecOn with
  | nil => exact noted_empty
  | append_singleton ds d ih =>
    rw [ofList_snoc]
    exact ih.insert (orderly_ofList ds) d

/-! ## Disputes -/

/-- A key of a name over which definitions are at odds: one of that name differs in its text from
the term of its scope, or two terms of one scope claim the key. -/
def Disputed (ds : List Definition) (k : String) : Prop :=
  (∃ d ∈ ds, key d.name = k ∧ ∃ t, (ofList ds).Differs d t) ∨
  ∃ o, ∃ t ∈ (ofList ds).scope o, ∃ u ∈ (ofList ds).scope o, t ≠ u ∧ t.Claims k ∧ u.Claims k

theorem exists_conflict_iff : (∃ c ∈ (ofList ds).conflicts, key c.name = k) ↔ Disputed ds k := by
  have orderly := orderly_ofList ds
  have noted := noted_ofList ds
  constructor
  · intro h
    obtain ⟨c, hc, rfl⟩ := h
    cases hkind : c.kind with
    | definition =>
      obtain ⟨d, hd, hn, hx⟩ := noted.grounds hc hkind
      exact .inl ⟨d, hd, by rw [hn], hx⟩
    | «alias» =>
      obtain ⟨o, t, ht, u, hu, hlt, htc, written, _⟩ := orderly.justified hc hkind
      have huc : u.Claims (key c.name) := by
        rcases written with e | ha
        · exact .inl (by rw [e])
        · exact .inr ⟨c.name, ha, rfl⟩
      exact .inr ⟨o, t, ht, u, hu, fun e => Nat.ne_of_lt hlt (congrArg Term.number e), htc, huc⟩
  · intro h
    rcases h with ⟨d, hd, hk, t, ht⟩ | ⟨o, t, ht, u, hu, hne, htc, huc⟩
    · obtain ⟨c, hc, hn⟩ := noted.noted hd ht
      exact ⟨c, hc, by rw [hn, hk]⟩
    · obtain ⟨c, hc, _, hk⟩ := orderly.reported ht hu hne htc huc
      exact ⟨c, hc, hk⟩

/-! ## Aliases -/

/-- Whether an alias of a definition leads to the term of the definition's name, or a conflict tells of the one
or the other. -/
def Keeps (r : Registry) (d : Definition) (a : String) : Prop :=
  (∃ t ∈ r.scope d.onlyIn?, r.find? d.onlyIn? a = some t ∧ key t.name = key d.name) ∨
  ∃ c ∈ r.conflicts, key c.name = key a ∨ key c.name = key d.name

theorem keeps_iff {a : String} : (ofList ds).Keeps d a ↔
    (∃ t ∈ (ofList ds).scope d.onlyIn?, key t.name = key d.name ∧ t.Claims (key a)) ∨
      Disputed ds (key a) ∨ Disputed ds (key d.name) := by
  have orderly := orderly_ofList ds
  simp only [Keeps, and_or_left, exists_or, exists_conflict_iff]
  constructor
  · intro h
    rcases h with ⟨t, ht, hf, hk⟩ | h
    · exact .inl ⟨t, ht, hk, (orderly.mem_of_find? hf).2⟩
    · exact .inr h
  · intro h
    rcases h with ⟨t, ht, hk, hc⟩ | h
    · obtain ⟨u, hu⟩ : ∃ u, (ofList ds).find? d.onlyIn? a = some u := orderly.exists_find?.mpr ⟨t, ht, hc⟩
      obtain ⟨hm, hcu⟩ := orderly.mem_of_find? hu
      by_cases e : t = u
      · subst e
        exact .inl ⟨t, ht, hu, hk⟩
      · exact .inr (.inl (.inr ⟨_, t, ht, u, hm, e, hc, hcu⟩))
    · exact .inr h

/-- No alias is lost without notice just in case every definition that repeats the name and the text
of a term of its scope brings only names that this term claims too, or that are disputed anyway. -/
theorem keepsAliases_ofList_iff (ds : List Definition) :
    (∀ d ∈ ds, ∀ a ∈ d.aliases, (ofList ds).Keeps d a) ↔
      ∀ d ∈ ds, ∀ t ∈ (ofList ds).scope d.onlyIn?, key t.name = key d.name →
        t.definition.definition = d.definition →
        ∀ a ∈ d.aliases, t.Claims (key a) ∨ Disputed ds (key a) ∨ Disputed ds (key d.name) := by
  simp only [keeps_iff]
  constructor
  · intro h d hd t ht hk _ a ha
    rcases h d hd a ha with ⟨u, hu, huk, hc⟩ | h
    · obtain rfl := (orderly_ofList ds).distinct ht hu (hk.trans huk.symm)
      exact .inl hc
    · exact .inr h
  · intro h d hd a ha
    obtain ⟨t, ht, hk⟩ := (noted_ofList ds).named hd
    by_cases text : t.definition.definition = d.definition
    · exact (h d hd t ht hk text a ha).imp_left fun hc => ⟨t, ht, hk, hc⟩
    · exact .inr (.inr (.inl ⟨d, hd, rfl, t, ht, hk, text⟩))

/-- The alias comes with a repetition that says nothing else. -/
theorem not_keepsAliases_device :
    let gadget : Definition := ⟨"Gadget", "gadget", .concept, .global, [], [], "A tool.", "a.md", 1⟩
    let again : Definition := { gadget with aliases := ["device"], file := "b.md" }
    ¬ ∀ d ∈ [gadget, again], ∀ a ∈ d.aliases, (ofList [gadget, again]).Keeps d a := by
  intro gadget again h
  have unknown : (ofList [gadget, again]).find? none "device" = none := by decide +kernel
  have silent : (ofList [gadget, again]).conflicts = [] := by decide +kernel
  rcases h again (by simp) "device" (by simp [again]) with ⟨_, _, hf, _⟩ | ⟨_, hc, _⟩
  · cases unknown.symm.trans hf
  · rw [silent] at hc
    cases hc

end Registry

end Interlink.Glossary
