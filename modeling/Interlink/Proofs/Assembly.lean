import Interlink.Assembly
import Interlink.Proofs.Accumulation
import Interlink.Proofs.Graph.Coherence

/-!
# The loops of the assembly

What stands in each part of the index after all features are recorded. Every loop only adds members to one
part of some entries, so that a part holds what it held at first and what the features say.
-/

namespace Interlink

open Glossary

/-! ## References to code -/

theorem DependencyGraph.Coherent.contains_of_mem_filesAt {g : DependencyGraph} (h : g.Coherent)
    {reference file : String} (hf : file ∈ g.filesAt reference) : g.contains file = true := by
  unfold filesAt at hf
  dsimp only at hf
  split at hf
  · cases hf
  · split at hf
    · rename_i hc
      exact List.mem_singleton.mp hf ▸ hc
    · rw [← h.sourced]
      exact mem_files.mp (List.mem_filter.mp hf).1

namespace Assembly

variable {a : Assembly} {generatedAt : Timestamp}

/-! ## Recording features -/

theorem features_recorded {id : String} :
    (a.recorded generatedAt).features.find? id = (a.features.find? id).map a.entry := by
  have all := foldl_at_key (I := fun _ => True) (f := fun ix e => a.record ix e.1 e.2)
    (v := fun ix => ix.features.find? id) (o := fun f => some (a.entry f)) (fun _ _ _ => trivial)
    (fun _ _ hne => Table.find?_insert.trans (if_neg (Ne.symm hne)))
    (fun _ _ _ _ => Table.find?_insert.trans (if_pos rfl)) a.features (s := a.blank generatedAt) trivial rfl
  rw [recorded, all]
  cases a.features.find? id <;> rfl

theorem recorded_frame {γ : Type} {v : Index → γ} (h : ∀ ix id f, v (a.record ix id f) = v ix) :
    v (a.recorded generatedAt) = v (a.blank generatedAt) :=
  foldl_frame (f := fun ix (e : String × Feature) => a.record ix e.1 e.2) (fun ix e => h ix e.1 e.2) _ _

/-- What features add to the index stands there after the loop. -/
theorem recorded_adds (generatedAt : Timestamp) {I P : Index → Prop} {A : String → Feature → Prop}
    (keep : ∀ ix id f, I ix → I (a.record ix id f)) (h : ∀ ix id f, I ix → (P (a.record ix id f) ↔ P ix ∨ A id f))
    (h₀ : I (a.blank generatedAt)) :
    P (a.recorded generatedAt) ↔ P (a.blank generatedAt) ∨ ∃ id f, a.features.find? id = some f ∧ A id f := by
  have all := foldl_adds_of (f := fun ix e => a.record ix e.1 e.2) (A := fun e => A e.1 e.2)
    (fun ix e => keep ix e.1 e.2) (fun ix e => h ix e.1 e.2) a.features.toList h₀
  simpa only [recorded, Table.find?_eq_some, Prod.exists] using all

/-! ## Files -/

theorem mem_documentedIn_document {id x file file' : String} {code : Table CodeEntry} :
    x ∈ (document id code file').partAt CodeEntry.documentedIn file ↔
      x ∈ code.partAt CodeEntry.documentedIn file ∨ (file = file' ∧ code.contains file' = true ∧ x = id) :=
  Table.mem_partAt_modify fun c => by simp [or_comm]

theorem contains_document {id file file' : String} {code : Table CodeEntry} :
    (document id code file').contains file = code.contains file := Table.contains_modify

variable {ix : Index} {id x file name : String} {f : Feature}

theorem contains_code_record : (a.record ix id f).code.contains file = ix.code.contains file :=
  foldl_frame (v := (Table.contains · file)) (fun _ _ => contains_document) _ _

theorem mem_documentedIn_record : x ∈ (a.record ix id f).code.partAt CodeEntry.documentedIn file ↔
    x ∈ ix.code.partAt CodeEntry.documentedIn file ∨
      (file ∈ (a.entry f).codeUsed ∧ ix.code.contains file = true ∧ x = id) := by
  have all := foldl_adds_of (f := document id) (P := fun code => x ∈ code.partAt CodeEntry.documentedIn file)
    (I := fun code => ∀ file, code.contains file = ix.code.contains file)
    (A := fun file' => file = file' ∧ ix.code.contains file' = true ∧ x = id)
    (fun _ _ h _ => contains_document.trans (h _)) (fun _ _ h => by rw [mem_documentedIn_document, h])
    (a.entry f).codeUsed.toList (s := ix.code) fun _ => rfl
  refine all.trans (or_congr_right ⟨?_, fun h => ⟨file, h.1, rfl, h.2⟩⟩)
  intro hx
  obtain ⟨_, hf, rfl, h⟩ := hx
  exact ⟨hf, h⟩

/-- What the index tells of a file besides the features that use it is what the graph tells. -/
theorem find?_code_recorded {γ : Type} {v : CodeEntry → γ}
    (hv : ∀ c s, v { c with documentedIn := s } = v c) :
    ((a.recorded generatedAt).code.find? file).map v =
      (a.graph.source? file).map fun s => v (codeEntry (a.graph.nodeOf file s)) := by
  have all : ((a.recorded generatedAt).code.find? file).map v =
      ((a.blank generatedAt).code.find? file).map v :=
    recorded_frame (v := fun ix : Index => (ix.code.find? file).map v) fun _ _ _ =>
      foldl_frame (v := fun code : Table CodeEntry => (code.find? file).map v)
        (fun _ _ => Table.map_find?_modify fun _ => hv _ _) _ _
  rw [all, blank, DependencyGraph.nodes]
  simp [Option.map_map, Function.comp_def, DependencyGraph.source?]

theorem contains_of_mem_codeUsed (h : a.graph.Coherent) (hf : file ∈ (a.entry f).codeUsed) :
    a.graph.contains file = true := by
  obtain ⟨r, _, hf⟩ := List.mem_flatMap.mp (KeySet.mem_ofList.mp hf)
  exact h.contains_of_mem_filesAt hf

theorem mem_documentedIn (h : a.graph.Coherent) :
    x ∈ (a.recorded generatedAt).code.partAt CodeEntry.documentedIn file ↔
      ∃ f, a.features.find? x = some f ∧ file ∈ (a.entry f).codeUsed := by
  have hb : x ∉ (a.blank generatedAt).code.partAt CodeEntry.documentedIn file := by
    intro hx
    obtain ⟨c, hc, hx⟩ := Table.mem_partAt.mp hx
    obtain ⟨n, _, rfl⟩ := Option.map_eq_some_iff.mp (Table.find?_mapValues.symm.trans hc)
    exact KeySet.not_mem_empty hx
  have hc : (a.blank generatedAt).code.contains file = a.graph.contains file := by
    simp only [blank, DependencyGraph.nodes, Table.contains_mapValues, h.sourced]
  have all := recorded_adds generatedAt (P := fun ix => x ∈ ix.code.partAt CodeEntry.documentedIn file)
    (I := fun ix => ix.code.contains file = a.graph.contains file)
    (fun _ _ _ e => contains_code_record.trans e) (fun ix id f e => by rw [mem_documentedIn_record, e]) hc
  rw [all, or_iff_right hb]
  constructor
  · intro hx
    obtain ⟨id, f, hf, hu, _, rfl⟩ := hx
    exact ⟨f, hf, hu⟩
  · intro hx
    obtain ⟨f, hf, hu⟩ := hx
    exact ⟨x, f, hf, hu, contains_of_mem_codeUsed h hu, rfl⟩

/-! ## Interfaces -/

section
variable {p : InterfaceEntry → KeySet}

theorem mem_partAt_record {A B : Prop} (hp : x ∉ p .empty)
    (hA : ∀ i, x ∈ p { i with providers := i.providers.insert id,
                               sharedTypes := i.sharedTypes.union (a.entry f).sharedTypes } ↔ x ∈ p i ∨ A)
    (hB : ∀ i, x ∈ p { i with users := i.users.insert id } ↔ x ∈ p i ∨ B) :
    x ∈ (a.record ix id f).interfaces.partAt p name ↔ x ∈ ix.interfaces.partAt p name ∨
      (name ∈ (a.entry f).provided ∧ A) ∨ (name ∈ (a.entry f).used ∧ B) := by
  have provided := foldl_adds (f := provide id (a.entry f).sharedTypes) (P := fun t => x ∈ t.partAt p name)
    (A := fun n => name = n ∧ A) (fun _ _ => Table.mem_partAt_upsert hp hA)
      (a.entry f).provided.toList ix.interfaces
  have used := foldl_adds (f := consume id) (P := fun t => x ∈ t.partAt p name)
    (A := fun n => name = n ∧ B) (fun _ _ => Table.mem_partAt_upsert hp hB) (a.entry f).used.toList
  rw [record, used, provided, or_assoc]
  simp

theorem mem_partAt_recorded {A B : String → Feature → Prop} (hp : x ∉ p .empty)
    (hA : ∀ id f i, x ∈ p { i with providers := i.providers.insert id,
                                   sharedTypes := i.sharedTypes.union (a.entry f).sharedTypes } ↔
      x ∈ p i ∨ A id f)
    (hB : ∀ id f i, x ∈ p { i with users := i.users.insert id } ↔ x ∈ p i ∨ B id f) :
    x ∈ (a.recorded generatedAt).interfaces.partAt p name ↔ ∃ id f, a.features.find? id = some f ∧
      ((name ∈ (a.entry f).provided ∧ A id f) ∨ (name ∈ (a.entry f).used ∧ B id f)) := by
  have all := recorded_adds generatedAt (P := fun ix => x ∈ ix.interfaces.partAt p name) (I := fun _ => True)
    (fun _ _ _ => id)
    (fun ix id f _ => mem_partAt_record hp (hA id f) (hB id f)) trivial
  rw [all]
  simp [blank, Table.mem_partAt]

end

/-! ## Relations -/

theorem mem_relations {e : String × String} : e ∈ a.relations ↔
    ∃ f, a.features.find? e.1 = some f ∧ e.2 ∈ f.front.related ∧ e.2 ≠ e.1 ∧ a.features.contains e.2 = true := by
  obtain ⟨id, other⟩ := e
  simp only [relations, List.mem_flatMap, List.mem_map, List.mem_filter, Prod.mk.injEq, Prod.exists,
    decide_eq_true_eq, Table.find?_eq_some]
  constructor
  · intro hx
    obtain ⟨_, f, hf, _, h, rfl, rfl⟩ := hx
    exact ⟨f, hf, h⟩
  · intro hx
    obtain ⟨f, hf, h⟩ := hx
    exact ⟨id, f, hf, other, h, rfl, rfl⟩

theorem mem_related_relate {t : Table FeatureEntry} {e : String × String} :
    x ∈ (relate t e).partAt FeatureEntry.related id ↔ x ∈ t.partAt FeatureEntry.related id ∨
      (id = e.1 ∧ t.contains e.1 = true ∧ x = e.2) ∨ (id = e.2 ∧ t.contains e.2 = true ∧ x = e.1) := by
  rw [relate, Table.mem_partAt_modify (A := x = e.1) fun f => by simp [or_comm],
    Table.mem_partAt_modify (A := x = e.2) fun f => by simp [or_comm], Table.contains_modify, or_assoc]

theorem contains_relate {t : Table FeatureEntry} {e : String × String} :
    (relate t e).contains id = t.contains id := by
  rw [relate, Table.contains_modify, Table.contains_modify]

theorem contains_of_mem_relations {e : String × String} (he : e ∈ a.relations) :
    a.features.contains e.1 = true ∧ a.features.contains e.2 = true := by
  obtain ⟨f, hf, _, _, h⟩ := mem_relations.mp he
  exact ⟨Table.contains_of_find? hf, h⟩

theorem mem_related : x ∈ (a.index generatedAt).features.partAt FeatureEntry.related id ↔
    (id, x) ∈ a.relations ∨ (x, id) ∈ a.relations := by
  have none : x ∉ (a.recorded generatedAt).features.partAt FeatureEntry.related id := by
    intro hx
    obtain ⟨e, he, hx⟩ := Table.mem_partAt.mp hx
    obtain ⟨f, _, rfl⟩ := Option.map_eq_some_iff.mp (features_recorded.symm.trans he)
    exact KeySet.not_mem_empty hx
  have same (k : String) : (a.recorded generatedAt).features.contains k = a.features.contains k := by
    rw [Table.contains_eq_isSome, features_recorded, Option.isSome_map, Table.contains_eq_isSome]
  have all := foldl_adds_of (f := relate) (P := fun t => x ∈ t.partAt FeatureEntry.related id)
    (I := fun t => ∀ k, t.contains k = a.features.contains k)
    (A := fun e => (id = e.1 ∧ a.features.contains e.1 = true ∧ x = e.2) ∨
      (id = e.2 ∧ a.features.contains e.2 = true ∧ x = e.1))
    (fun _ _ h _ => contains_relate.trans (h _)) (fun _ _ h => by rw [mem_related_relate, h, h]) a.relations same
  refine all.trans ((or_iff_right none).trans ⟨?_, ?_⟩)
  · intro hx
    rcases hx with ⟨e, he, ⟨rfl, _, rfl⟩ | ⟨rfl, _, rfl⟩⟩
    · exact .inl he
    · exact .inr he
  · intro hx
    rcases hx with he | he
    · exact ⟨_, he, .inl ⟨rfl, (contains_of_mem_relations he).1, rfl⟩⟩
    · exact ⟨_, he, .inr ⟨rfl, (contains_of_mem_relations he).2, rfl⟩⟩

theorem find?_features {γ : Type} {v : FeatureEntry → γ} (hv : ∀ e s, v { e with related := s } = v e) :
    ((a.index generatedAt).features.find? id).map v = (a.features.find? id).map fun f => v (a.entry f) := by
  have all : ((a.index generatedAt).features.find? id).map v =
      ((a.recorded generatedAt).features.find? id).map v :=
    foldl_frame (v := fun t : Table FeatureEntry => (t.find? id).map v)
      (fun _ _ => (Table.map_find?_modify fun _ => hv _ _).trans (Table.map_find?_modify fun _ => hv _ _)) _ _
  rw [all, features_recorded, Option.map_map]
  rfl

/-! ## The index -/

theorem mem_partAt_features {p : FeatureEntry → KeySet} (hp : ∀ e s, p { e with related := s } = p e) :
    x ∈ (a.index generatedAt).features.partAt p id ↔ ∃ f, a.features.find? id = some f ∧ x ∈ p (a.entry f) := by
  rw [Table.partAt, find?_features hp]
  cases a.features.find? id <;> simp

theorem mem_partAt_code {p : CodeEntry → KeySet} (hp : ∀ c s, p { c with documentedIn := s } = p c) :
    x ∈ (a.index generatedAt).code.partAt p file ↔
      ∃ s, a.graph.source? file = some s ∧ x ∈ p (codeEntry (a.graph.nodeOf file s)) := by
  rw [index, Table.partAt, find?_code_recorded hp]
  cases a.graph.source? file <;> simp

end Assembly

end Interlink
