import Interlink.Proofs.Glossary.Registry

/-!
# Private definitions

A registration writes to the name table of one scope. What that table answers can only become the new term, and
only for the keys that the new term claims. So a definition of one document never reaches a reader of another:
there it can be heard of at most, where nothing by that name was visible before.
-/

namespace Interlink

/-! ## Where a table takes an entry in -/

theorem Table.insert_split {α : Type} (k : String) (v : α) (t : Table α) :
    ∃ before after, (t.insert k v).toList = before ++ (k, v) :: after ∧
      t.toList = before ++ (((t.find? k).map (Prod.mk k)).toList ++ after) := by
  obtain ⟨es, sorted⟩ := t
  unfold Table.insert Table.find?
  dsimp only
  induction es with
  | nil => exact ⟨[], [], rfl, rfl⟩
  | cons e es ih =>
    obtain ⟨i, w⟩ := e
    obtain ⟨later, rest⟩ := List.pairwise_cons.mp sorted
    unfold insertEntry
    dsimp only
    by_cases hlt : k < i
    · have absent : ((i, w) :: es).find? (fun e => e.1 = k) = none := by
        apply List.find?_eq_none.mpr
        intro x hx
        rcases List.mem_cons.mp hx with rfl | hx
        · simpa using (String.ne_of_lt hlt).symm
        · simpa using (String.ne_of_lt (String.lt_trans hlt (later x hx))).symm
      exact ⟨[], (i, w) :: es, by rw [if_pos hlt]; rfl, by rw [absent]; rfl⟩
    · by_cases heq : k = i
      · subst heq
        exact ⟨[], es, by rw [if_neg hlt, if_pos rfl]; rfl, by simp⟩
      · obtain ⟨before, after, hnew, hold⟩ := ih rest
        refine ⟨(i, w) :: before, after, ?_, ?_⟩
        · rw [if_neg hlt, if_neg heq, hnew, List.cons_append]
        · rw [List.find?_cons_of_neg (by simpa using Ne.symm heq), List.cons_append, ← hold]

namespace Glossary

/-! ## What a name table gains -/

namespace NameTable

/-- One table answers as another does, or else with a term that claims the key. -/
def Gains (t : Term) (old new : NameTable) : Prop :=
  ∀ k, new.find? k = old.find? k ∨ t.Claims k ∧ new.find? k = some t

variable {t : Term} {a b c table : NameTable}

theorem Gains.rfl : Gains t a a := fun _ => .inl (Eq.refl _)

theorem Gains.trans (hab : Gains t a b) (hbc : Gains t b c) : Gains t a c := by
  intro k
  rcases hbc k with e | found
  · rw [e]
    exact hab k
  · exact .inr found

theorem gains_claimName (t : Term) (table : NameTable) : Gains t table (claimName t table).1 := by
  intro k
  rw [find?_eq_or, find?_eq_or]
  simp only [claimName, Table.find?_insert, Table.find?_erase]
  by_cases hk : k = key t.name
  · exact .inr ⟨.inl hk.symm, by rw [if_pos hk, Option.some_or]⟩
  · exact .inl (by rw [if_neg hk, if_neg hk])

theorem gains_claimAlias (s : NameTable × List Contest) {name : String} (h : name ∈ t.definition.aliases) :
    Gains t s.1 (claimAlias t s name).1 := by
  unfold claimAlias
  split
  · exact Gains.rfl
  · split
    · split <;> exact Gains.rfl
    · -- the alias is free
      rename_i free
      intro k
      rw [find?_eq_or, Table.find?_insert]
      by_cases hk : k = key name
      · rw [find?_eq_or] at free
        refine .inr ⟨.inr ⟨name, h, hk.symm⟩, ?_⟩
        rw [if_pos hk, hk, (Option.or_eq_none_iff.mp free).1, Option.none_or]
      · rw [if_neg hk, find?_eq_or]
        exact .inl (Eq.refl _)

theorem gains_register (t : Term) (table : NameTable) : Gains t table (table.register t).1 := by
  unfold register
  refine List.foldlRecOn t.definition.aliases (claimAlias t) (motive := fun s => Gains t table s.1)
    (gains_claimName t table) ?_
  intro s hs name hname
  exact hs.trans (gains_claimAlias s hname)

end NameTable

namespace Registry

variable {r : Registry} {d : Definition} {t : Term} {o : Option String} {name other k : String}

/-! ## What a registry gains -/

theorem gains_insert (r : Registry) (d : Definition) :
    NameTable.Gains (r.next d) (r.table d.onlyIn?) ((r.insert d).1.table d.onlyIn?) := by
  rcases r.insert_cases d with ⟨t, _, e⟩ | ⟨_, e⟩
  · have same : (r.insert d).1.table d.onlyIn? = r.table d.onlyIn? := by
      rw [e]
      cases d.onlyIn? <;> rfl
    rw [same]
    exact NameTable.Gains.rfl
  · rw [e]
    dsimp only
    rw [table_extended, if_pos rfl]
    exact NameTable.gains_register _ _

theorem table_insert_of_ne (h : o ≠ d.onlyIn?) : (r.insert d).1.table o = r.table o := by
  rcases r.insert_cases d with ⟨t, _, e⟩ | ⟨_, e⟩
  · rw [e]
    cases o <;> rfl
  · rw [e]
    dsimp only
    rw [table_extended, if_neg h]

theorem definitions_insert (r : Registry) (d : Definition) : r.definitions <+: (r.insert d).1.definitions := by
  rcases r.insert_cases d with ⟨t, _, e⟩ | ⟨_, e⟩
  · have kept : (r.insert d).1.definitions = r.definitions := by rw [e]
    exact kept ▸ List.prefix_rfl
  · rw [e]
    exact List.prefix_append _ _

/-! ## What other documents hear of -/

def elsewhere? (r : Registry) (file k : String) : Option Term :=
  (r.documents.toList.filter (·.1 ≠ file)).findSome? fun e => e.2.find? k

theorem meaning_eq (r : Registry) (name file : String) : r.meaning name file =
    match r.find? (some file) name <|> r.global? name with
    | some t => .visible t
    | none =>
      match r.elsewhere? file (key name) with
      | some t => .hidden t
      | none => .undefined := by
  rfl

/-- Every table but the document's own has its turn, so a change of one changes one answer in the row. -/
theorem elsewhere?_withTable (r : Registry) (table : NameTable) {file other : String} (h : file ≠ other)
    (k : String) :
    ∃ before after : Option Term,
      r.elsewhere? other k = before.or (((r.table (some file)).find? k).or after) ∧
      (r.withTable table (some file)).elsewhere? other k = before.or ((table.find? k).or after) := by
  obtain ⟨before, after, hnew, hold⟩ := Table.insert_split file table r.documents
  have answer (table : NameTable) (es : List (String × NameTable)) :
      (((file, table) :: es).filter (·.1 ≠ other)).findSome? (fun e => e.2.find? k) =
        (table.find? k).or ((es.filter (·.1 ≠ other)).findSome? fun e => e.2.find? k) := by
    rw [List.filter_cons_of_pos (by simpa using h), List.findSome?_cons]
    cases table.find? k <;> rfl
  refine ⟨(before.filter (·.1 ≠ other)).findSome? fun e => e.2.find? k,
    (after.filter (·.1 ≠ other)).findSome? fun e => e.2.find? k, ?_, ?_⟩
  · unfold elsewhere? Registry.table
    rw [hold, List.filter_append, List.findSome?_append]
    dsimp only
    cases r.documents.find? file with
    | none => rfl
    | some table => exact congrArg _ (answer table after)
  · unfold elsewhere? withTable
    dsimp only
    rw [hnew, List.filter_append, List.findSome?_append, answer]

theorem elsewhere?_insert (hd : d.onlyIn? = some d.file) (h : other ≠ d.file) (k : String) :
    (r.insert d).1.elsewhere? other k = r.elsewhere? other k ∨
      (r.next d).Claims k ∧ (r.insert d).1.elsewhere? other k = some (r.next d) := by
  have gains := gains_insert r d k
  rcases r.insert_cases d with ⟨t, _, e⟩ | ⟨_, e⟩
  · exact .inl (by rw [e]; rfl)
  · rw [hd, e] at gains
    dsimp only at gains
    rw [table_extended, if_pos hd.symm] at gains
    obtain ⟨before, after, hold, hnew⟩ :=
      r.elsewhere?_withTable ((r.table (some d.file)).register (r.next d)).1 (Ne.symm h) k
    have moved : (r.extended d).elsewhere? other k =
        (r.withTable ((r.table (some d.file)).register (r.next d)).1 (some d.file)).elsewhere? other k := by
      unfold extended
      rw [hd]
      rfl
    rw [e]
    dsimp only
    rw [moved, hnew, hold]
    cases before with
    | some t => exact .inl rfl
    | none =>
      rcases gains with same | ⟨claims, found⟩
      · rw [same]
        exact .inl rfl
      · exact .inr ⟨claims, by rw [found]; rfl⟩

/-! ## Privacy -/

theorem onlyIn?_of_private (hd : d.scope = .document) : d.onlyIn? = some d.file := by
  unfold Definition.onlyIn?
  rw [hd]

theorem find?_insert_of_ne (h : o ≠ d.onlyIn?) (name : String) : (r.insert d).1.find? o name = r.find? o name := by
  unfold find?
  rw [table_insert_of_ne h]

theorem global?_insert (hd : d.onlyIn? = some d.file) (name : String) :
    (r.insert d).1.global? name = r.global? name := by
  apply find?_insert_of_ne
  rw [hd]
  nofun

/-- What is visible to a reader stays, and what is not visible stays so. -/
theorem meaning_insert (hd : d.onlyIn? = some d.file) (h : other ≠ d.file) (name : String) :
    (r.insert d).1.meaning name other = r.meaning name other ∨
      (r.next d).Claims (key name) ∧ (∀ t, r.meaning name other ≠ .visible t) ∧
        (r.insert d).1.meaning name other = .hidden (r.next d) := by
  have own : (r.insert d).1.find? (some other) name = r.find? (some other) name := by
    apply find?_insert_of_ne
    rw [hd]
    intro same
    exact h (Option.some.inj same)
  rw [meaning_eq, meaning_eq, own, global?_insert hd]
  cases (r.find? (some other) name <|> r.global? name) with
  | some t => exact .inl rfl
  | none =>
    rcases elsewhere?_insert hd h (key name) with same | ⟨claims, found⟩
    · rw [same]
      exact .inl rfl
    · refine .inr ⟨claims, ?_, by rw [found]⟩
      intro t
      dsimp only
      cases r.elsewhere? other (key name) <;> simp

/-- A definition of one document leaves the global names alone, and the numbers of the definitions
before it. What a reader of another document finds under a name is found there with or without it.
Where nothing was found, such a reader can at most learn that this document has the name for itself. -/
theorem insert_private (r : Registry) (d : Definition) (hd : d.scope = .document) :
    (∀ name, (r.insert d).1.global? name = r.global? name) ∧
    (∀ name other, other ≠ d.file → ∀ t,
      (r.insert d).1.meaning name other = .visible t ↔ r.meaning name other = .visible t) ∧
    (∀ (number : Nat) (e : Definition), r.definitions[number]? = some e →
      (r.insert d).1.definitions[number]? = some e) ∧
    ∀ name other, other ≠ d.file → (r.insert d).1.meaning name other = r.meaning name other ∨
      (r.meaning name other = .undefined ∨ ∃ t, r.meaning name other = .hidden t) ∧
        (r.next d).Claims (key name) ∧ (r.insert d).1.meaning name other = .hidden (r.next d) := by
  have hd : d.onlyIn? = some d.file := onlyIn?_of_private hd
  refine ⟨global?_insert hd, ?_, ?_, ?_⟩
  · intro name other h t
    rcases meaning_insert (r := r) hd h name with same | ⟨_, unseen, heard⟩
    · rw [same]
    · rw [heard]
      constructor
      · nofun
      · intro seen
        exact absurd seen (unseen t)
  · intro number e he
    obtain ⟨more, hmore⟩ := definitions_insert r d
    rw [← hmore]
    rw [List.getElem?_append_left (List.getElem?_eq_some_iff.mp he).1, he]
  · intro name other h
    rcases meaning_insert (r := r) hd h name with same | ⟨claims, unseen, heard⟩
    · exact .inl same
    · refine .inr ⟨?_, claims, heard⟩
      cases e : r.meaning name other with
      | visible t => exact absurd e (unseen t)
      | hidden t => exact .inr ⟨t, rfl⟩
      | undefined => exact .inl rfl

/-- The name of a global term and an alias that nobody else has. -/
theorem insert_private_part :
    let part : Definition := ⟨"Part", "part", .concept, .global, [], [], "A piece.", "a.md", 1⟩
    let own : Definition := { part with scope := .document, aliases := ["Bit"], file := "b.md" }
    let r := ofList [part]
    (r.insert own).1.meaning "part" "b.md" = .visible ⟨1, own⟩ ∧
      (r.insert own).1.meaning "part" "c.md" = .visible ⟨0, part⟩ ∧
      r.meaning "bit" "c.md" = .undefined ∧ (r.insert own).1.meaning "bit" "c.md" = .hidden ⟨1, own⟩ := by
  intro part own r
  have foreign : "c.md" ≠ own.file := by decide
  obtain ⟨_, seen, _, heard⟩ := insert_private r own rfl
  have before : r.meaning "bit" "c.md" = .undefined := by decide +kernel
  have differs : (r.insert own).1.meaning "bit" "c.md" ≠ r.meaning "bit" "c.md" := by decide +kernel
  refine ⟨by decide +kernel, (seen "part" "c.md" foreign ⟨0, part⟩).mpr (by decide +kernel), before, ?_⟩
  rcases heard "bit" "c.md" foreign with same | ⟨_, _, hidden⟩
  · exact absurd same differs
  · exact hidden

end Registry

end Glossary

end Interlink
