import Interlink.Coverage
import Interlink.Proofs.Graph.Construction
import Interlink.Proofs.Reach

/-!
# What documents cover

A search through the numbers of the arena finds the files that imports lead to. What is left over is listed
with all its exports, where the order keeps exports of one name as they stand in the file.
-/

namespace Interlink

open Relation (ReflTransGen TransGen)

/-! ## Paths -/

namespace DependencyGraph

def Imports (g : DependencyGraph) (a b : String) : Prop := (a, b) ∈ g.edges

variable {g : DependencyGraph}

theorem Coherent.imports_iff (h : Coherent g) {a b : String} {m : Nat} (ha : g.numbers.find? a = some m) :
    g.Imports a b ↔ ∃ n ∈ g.arena.successors m, g.arena.label? n = some b := by
  rw [Imports, mem_edges, h.drawn]
  constructor
  · intro hx
    obtain ⟨m', n, ha', hb, hn⟩ := hx
    obtain rfl : m = m' := Option.some.inj (ha.symm.trans ha')
    exact ⟨n, hn, h.numbered.mp hb⟩
  · intro hx
    obtain ⟨n, hn, hb⟩ := hx
    exact ⟨m, n, ha, h.numbered.mpr hb, hn⟩

theorem Coherent.path_iff (h : Coherent g) {a b : String} {m : Nat} (ha : g.numbers.find? a = some m) :
    (∃ n, g.arena.label? n = some b ∧ ReflTransGen (fun m n => n ∈ g.arena.successors m) m n) ↔
      ReflTransGen g.Imports a b := by
  constructor
  · intro hx
    obtain ⟨n, hb, hp⟩ := hx
    induction hp generalizing b with
    | refl =>
      obtain rfl := h.eq_of_number ha (h.numbered.mpr hb)
      exact .refl
    | tail _ hn ih =>
      obtain ⟨c, _, hc, _, _⟩ := h.linked_of_mem_edges (Arena.mem_successors.mp hn)
      exact (ih hc).tail ((h.imports_iff (h.numbered.mpr hc)).mpr ⟨_, hn, hb⟩)
  · intro hp
    induction hp with
    | refl => exact ⟨m, h.numbered.mp ha, .refl⟩
    | tail _ hcb ih =>
      obtain ⟨n', hc, hp⟩ := ih
      obtain ⟨n, hn, hb⟩ := (h.imports_iff (h.numbered.mpr hc)).mp hcb
      exact ⟨n, hb, hp.tail hn⟩

theorem Coherent.successors_closed (h : Coherent g) (m n : Nat) (hn : n ∈ g.arena.successors m) :
    n ∈ g.arena.nodes :=
  Arena.mem_nodes.mpr (h.within (Arena.mem_successors.mp hn)).2

theorem Coherent.mem_reached (h : Coherent g) {starts : List String} {file : String} :
    file ∈ (reachedFrom g.arena.nodes g.arena.successors (starts.filterMap g.numbers.find?)).filterMap
        g.arena.label? ↔
      ∃ s ∈ starts, g.contains s = true ∧ ReflTransGen g.Imports s file := by
  simp only [List.mem_filterMap, mem_reachedFrom h.successors_closed]
  constructor
  · intro hx
    obtain ⟨n, ⟨m, ⟨s, hs, hm⟩, _, hp⟩, hn⟩ := hx
    exact ⟨s, hs, Table.contains_of_find? hm, (h.path_iff hm).mp ⟨n, hn, hp⟩⟩
  · intro hx
    obtain ⟨s, hs, hc, hp⟩ := hx
    rw [contains, Table.contains_eq_isSome, Option.isSome_iff_exists] at hc
    obtain ⟨m, hm⟩ := hc
    obtain ⟨n, hn, hp⟩ := (h.path_iff hm).mpr hp
    exact ⟨n, ⟨m, ⟨s, hs, hm⟩, Arena.mem_nodes.mpr (Arena.lt_size_of_label? (h.numbered.mp hm)), hp⟩, hn⟩

end DependencyGraph

/-! ## Stable sorting -/

/-- Elements that the order does not tell apart keep their places. -/
theorem filter_mergeSort {α : Type} {le : α → α → Bool} (trans : ∀ a b c, le a b → le b c → le a c)
    (total : ∀ a b, le a b || le b a) {p : α → Bool} (hp : ∀ a b, p a → p b → le a b) (xs : List α) :
    (xs.mergeSort le).filter p = xs.filter p := by
  have hle : (xs.filter p).Pairwise (fun a b => le a b = true) :=
    List.pairwise_iff_forall_sublist.mpr fun {a b} hab =>
      hp a b (List.of_mem_filter (hab.subset List.mem_cons_self))
        (List.of_mem_filter (hab.subset (List.mem_cons_of_mem _ List.mem_cons_self)))
  have hsub := (List.sublist_mergeSort trans total hle List.filter_sublist).filter p
  simp only [List.filter_filter, Bool.and_self] at hsub
  exact (hsub.eq_of_length ((List.mergeSort_perm xs le).filter p).length_eq.symm).symm

theorem flatMap_of_mem {α β : Type} {f : α → List β} {x : α} {xs : List α} (hn : xs.Nodup) (hx : x ∈ xs)
    (hf : ∀ y ∈ xs, y ≠ x → f y = []) : xs.flatMap f = f x := by
  obtain ⟨ys, zs, rfl⟩ := List.append_of_mem hx
  obtain ⟨hx, _⟩ := List.nodup_cons.mp (List.nodup_middle.mp hn)
  have none {ws : List α} (hw : ∀ y ∈ ws, y ∈ ys ++ zs) : ws.flatMap f = [] :=
    List.flatMap_eq_nil_iff.mpr fun y hy =>
      hf y (List.perm_middle.mem_iff.mpr (List.mem_cons_of_mem _ (hw y hy))) fun e => hx (e ▸ hw y hy)
  rw [List.flatMap_append, List.flatMap_cons, none fun _ => List.mem_append_left _,
    none fun _ => List.mem_append_right _, List.nil_append, List.append_nil]

namespace Coverage

theorem precedes_iff {a b : Orphan} :
    precedes a b = true ↔ a.file < b.file ∨ (a.file = b.file ∧ a.name ≤ b.name) := by
  unfold precedes
  split
  · simp [*]
  · rename_i h
    simp [not_not.mp h]

theorem precedes_trans (a b c : Orphan) (hab : precedes a b = true) (hbc : precedes b c = true) :
    precedes a c = true := by
  rw [precedes_iff] at *
  rcases hab with hab | ⟨hab, hn⟩ <;> rcases hbc with hbc | ⟨hbc, hn'⟩
  · exact .inl (String.lt_trans hab hbc)
  · exact .inl (hbc ▸ hab)
  · exact .inl (hab ▸ hbc)
  · exact .inr ⟨hab.trans hbc, String.le_trans hn hn'⟩

theorem precedes_total (a b : Orphan) : (precedes a b || precedes b a) = true := by
  rw [Bool.or_eq_true, precedes_iff, precedes_iff]
  by_cases h : a.file = b.file
  · rcases String.le_total a.name b.name with hn | hn
    · exact .inl (.inr ⟨h, hn⟩)
    · exact .inr (.inr ⟨h.symm, hn⟩)
  · by_cases hlt : a.file < b.file
    · exact .inl (.inl hlt)
    · exact .inr (.inl (lt_of_not_lt_of_ne hlt h))

/-! ## Coverage -/

variable {g : DependencyGraph} {includeTests : Bool} {documented : List String}

theorem mem_reachableFrom (h : g.Coherent) {seeds : KeySet} {file : String} :
    file ∈ reachableFrom g seeds ↔
      file ∉ seeds ∧ ∃ s ∈ seeds, g.contains s = true ∧ TransGen g.Imports s file := by
  simp only [reachableFrom, KeySet.mem_filter, KeySet.mem_ofList, h.mem_reached, KeySet.mem_toList,
    decide_eq_true_eq]
  rw [and_comm, and_congr_right_iff]
  intro hf
  refine exists_congr fun s => and_congr_right fun hs => and_congr_right fun _ => ?_
  rw [Relation.reflTransGen_iff_eq_or_transGen, or_iff_right]
  intro e
  exact hf (e ▸ hs)

structure Uncovered (includeTests : Bool) (g : DependencyGraph) (documented : List String) (file : String) :
    Prop where
  contained : g.contains file = true
  notSeed : file ∉ documented
  notReachable : file ∉ (ofGraph includeTests g documented).reachable
  role : includeTests = true ∨ ∀ s, g.source? file = some s → s.role ≠ .test

theorem counts_iff {file : String} :
    counts g includeTests file = true ↔ includeTests = true ∨ ∀ s, g.source? file = some s → s.role ≠ .test := by
  cases h : g.source? file <;> simp [counts, h]

theorem mem_uncovered (h : g.Coherent) {file : String} :
    file ∈ uncovered g includeTests (.ofList documented) (reachableFrom g (.ofList documented)) ↔
      Uncovered includeTests g documented file := by
  simp only [uncovered, List.mem_filter, DependencyGraph.mem_files, h.sourced, KeySet.mem_ofList, Bool.decide_and,
    Bool.and_eq_true, decide_eq_true_eq, counts_iff]
  constructor
  · intro h
    exact ⟨h.1, h.2.1, h.2.2.1, h.2.2.2⟩
  · intro h
    exact ⟨h.contained, h.notSeed, h.notReachable, h.role⟩

theorem nodup_uncovered {seeds reachable : KeySet} : (uncovered g includeTests seeds reachable).Nodup :=
  DependencyGraph.nodup_files.filter _

theorem file_of_mem_orphansIn {file : String} {o : Orphan} (ho : o ∈ orphansIn g file) : o.file = file := by
  obtain ⟨_, _, rfl⟩ := List.mem_map.mp ho
  rfl

theorem filter_orphans (h : g.Coherent) {file name : String} (hu : Uncovered includeTests g documented file) :
    ((ofGraph includeTests g documented).orphans.filter fun o => o.file = file ∧ o.name = name) =
      ((g.exports file).filter (·.name = name)).map fun e => ⟨file, e.name, e.kind, e.line⟩ := by
  have together (a b : Orphan) (ha : decide (a.file = file ∧ a.name = name) = true)
      (hb : decide (b.file = file ∧ b.name = name) = true) : precedes a b = true := by
    obtain ⟨hf, hn⟩ := of_decide_eq_true ha
    obtain ⟨hf', hn'⟩ := of_decide_eq_true hb
    rw [precedes_iff, hf, hf', hn, hn']
    exact .inr ⟨rfl, String.le_refl _⟩
  rw [ofGraph, filter_mergeSort precedes_trans precedes_total together, List.filter_flatMap,
    flatMap_of_mem nodup_uncovered ((mem_uncovered h).mpr hu)]
  · simp only [orphansIn, List.filter_map, Function.comp_def, true_and]
  · intro file' _ hne
    refine List.filter_eq_nil_iff.mpr fun o ho => ?_
    simp [file_of_mem_orphansIn ho, hne]

theorem uncovered_of_mem_orphans (h : g.Coherent) {o : Orphan}
    (ho : o ∈ (ofGraph includeTests g documented).orphans) : Uncovered includeTests g documented o.file := by
  rw [ofGraph, List.mem_mergeSort, List.mem_flatMap] at ho
  obtain ⟨file, hf, ho⟩ := ho
  rw [file_of_mem_orphansIn ho]
  exact (mem_uncovered h).mp hf

/-- Of any graph, the seeds are the files that documents name; covered without being named are the files to
which imports lead from a named file of the graph; and the orphans are the exports of all other files, tests
apart unless they count, by file and name and else in the order of the text. -/
theorem ofGraph_covers (h : g.Built) (includeTests : Bool) (documented : List String) :
    let c := ofGraph includeTests g documented
    (∀ file, file ∈ c.seeds ↔ file ∈ documented) ∧
    (∀ file, file ∈ c.reachable ↔ file ∉ documented ∧
      ∃ s ∈ documented, g.contains s = true ∧ TransGen (fun a b => (a, b) ∈ g.edges) s file) ∧
    (∀ o ∈ c.orphans, Uncovered includeTests g documented o.file) ∧
    (∀ file name, Uncovered includeTests g documented file →
      (c.orphans.filter fun o => o.file = file ∧ o.name = name) =
        ((g.exports file).filter (·.name = name)).map fun e => ⟨file, e.name, e.kind, e.line⟩) ∧
    c.orphans.Pairwise fun a b => a.file < b.file ∨ (a.file = b.file ∧ a.name ≤ b.name) := by
  refine ⟨fun _ => KeySet.mem_ofList, fun file => ?_, fun _ => uncovered_of_mem_orphans h.coherent,
    fun _ _ => filter_orphans h.coherent, ?_⟩
  · refine (mem_reachableFrom h.coherent).trans ?_
    simp only [KeySet.mem_ofList]
    rfl
  · exact (List.pairwise_mergeSort precedes_trans precedes_total _).imp precedes_iff.mp

theorem ofGraph_covers_cycle :
    let files : List SourceFile := [⟨"a", "x", .source⟩, ⟨"b", "x", .source⟩, ⟨"c", "x", .source⟩]
    let exports : List ExportFact := [⟨"f", .value, false, 1⟩, ⟨"f", .type, false, 2⟩]
    let g := DependencyGraph.ofFacts {} {} files (.ofList [("c", ⟨[], exports⟩)])
    let g := ((g.addImport "a" "b").2.addImport "b" "a").2
    let c := ofGraph false g ["a", "gone", "a"]
    g.Built ∧ "b" ∈ c.reachable ∧ "a" ∉ c.reachable ∧
      c.orphans.filter (fun o => o.file = "c" ∧ o.name = "f") = [⟨"c", "f", .value, 1⟩, ⟨"c", "f", .type, 2⟩] := by
  intro files exports g₀ g c
  have h : g.Built := ((DependencyGraph.Built.ofFacts ..).addImport "a" "b").addImport "b" "a"
  obtain ⟨_, hr, _, ho, _⟩ := ofGraph_covers h false ["a", "gone", "a"]
  have hedges : g.edges = [("a", "b"), ("b", "a")] := by decide
  have hc : "c" ∉ c.reachable := by
    intro hc
    obtain ⟨_, s, _, _, hp⟩ := (hr "c").mp hc
    obtain ⟨b, _, hb⟩ := Relation.TransGen.tail'_iff.mp hp
    simp [hedges] at hb
  refine ⟨h, (hr "b").mpr ⟨by decide, "a", by decide, by decide, .single (by simp [hedges])⟩, ?_, ?_⟩
  · exact fun ha => ((hr "a").mp ha).1 (by decide)
  · rw [ho "c" "f" ⟨by decide, by decide, hc, by decide⟩]
    decide

end Coverage

end Interlink
