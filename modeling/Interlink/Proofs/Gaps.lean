import Interlink.Proofs.Consistency
import Mathlib.Data.Set.Card

/-!
# Gaps of an index

Whatever an index holds, its checks find each relation that stands at one end only, and find it once. They find
nothing else but terms that are counted wrong. So the number of inconsistencies is the number of such gaps.
-/

namespace Interlink

namespace Consistency

variable {α : Type} {ix : Index}

/-! ## Members of entries that are not answered -/

section
variable {t : Table α} {part : α → KeySet} {answered : String → String → Bool} {k x : String}

def unanswered (t : Table α) (part : α → KeySet) (answered : String → String → Bool) : List (String × String) :=
  t.toList.flatMap fun e => ((part e.2).toList.filter (!answered e.1 ·)).map (e.1, ·)

theorem mem_unanswered : (k, x) ∈ unanswered t part answered ↔
    (t.find? k).any (x ∈ part ·) = true ∧ answered k x = false := by
  simp only [unanswered, List.mem_flatMap, List.mem_map, List.mem_filter, Prod.mk.injEq, Prod.exists,
    Option.any_eq_true, Table.find?_eq_some, decide_eq_true_eq, Bool.not_eq_true', KeySet.mem_toList]
  constructor
  · intro h
    obtain ⟨_, v, hv, _, ⟨hx, ha⟩, rfl, rfl⟩ := h
    exact ⟨⟨v, hv, hx⟩, ha⟩
  · intro h
    obtain ⟨⟨v, hv, hx⟩, ha⟩ := h
    exact ⟨k, v, hv, x, ⟨hx, ha⟩, rfl, rfl⟩

theorem nodup_unanswered : (unanswered t part answered).Nodup := by
  refine List.nodup_flatMap.mpr ⟨fun e _ => ?_, ?_⟩
  · exact ((part e.2).nodup_toList.filter _).map fun _ _ h => (Prod.mk.inj h).2
  · refine t.sorted.imp fun {e e'} hlt p hp hp' => ?_
    obtain ⟨_, _, rfl⟩ := List.mem_map.mp hp
    obtain ⟨_, _, h⟩ := List.mem_map.mp hp'
    exact String.lt_irrefl e.1 ((Prod.mk.inj h).1 ▸ hlt)

def each (t : Table α) (check : String → α → Report) : Report := t.toList.flatMap fun e => check e.1 e.2

theorem length_each_failing {finding : String → α → String → Finding} :
    (each t fun k v => failing (part v) (answered k) (finding k v)).length =
      (unanswered t part answered).length := by
  simp only [each, unanswered, failing, List.length_flatMap, List.length_map]

theorem length_each_append {check check' : String → α → Report} :
    (each t fun k v => check k v ++ check' k v).length = (each t check).length + (each t check').length := by
  simp only [each, List.length_flatMap, List.length_append, List.sum_map_add]

theorem length_flatMap_unless {es : List α} {check : α → Report} {p : α → Prop} [DecidablePred p]
    (h : ∀ e, (check e).length = if p e then 0 else 1) :
    (es.flatMap check).length = (es.filter (¬ p ·)).length := by
  induction es with
  | nil => rfl
  | cons e es ih =>
    rw [List.flatMap_cons, List.length_append, ih, h, List.filter_cons]
    by_cases hp : p e
    · simp [hp]
    · simp [hp, Nat.add_comm]

end

/-! ## Relations, seen from one end -/

inductive Side where
  | uses
  | documents
  | imports
  | importedBy
  | relates
  | hasProvider
  | hasUser
  | provides
  | consumes
  | usesTerm
  | definesTerm
deriving DecidableEq

namespace Side

def all : List Side :=
  [uses, documents, imports, importedBy, relates, hasProvider, hasUser, provides, consumes, usesTerm, definesTerm]

def holds (ix : Index) : Side → (owner other : String) → Bool
  | uses => Consistency.uses ix
  | documents => Consistency.documents ix
  | imports => Consistency.imports ix
  | importedBy => Consistency.importedBy ix
  | relates => Consistency.relates ix
  | hasProvider => Consistency.hasProvider ix
  | hasUser => Consistency.hasUser ix
  | provides => Consistency.provides ix
  | consumes => Consistency.consumes ix
  | usesTerm => fun id key => (ix.features.find? id).any (key ∈ ·.termsUsed)
  | definesTerm => fun id key => (ix.features.find? id).any (key ∈ ·.termsDefined)

/-- Whether the entry `other` names `owner` in return. A term need only be there. -/
def answered (ix : Index) : Side → (owner other : String) → Bool
  | uses => fun id file => Consistency.documents ix file id
  | documents => fun file id => Consistency.uses ix id file
  | imports => fun file target => Consistency.importedBy ix target file
  | importedBy => fun file importer => Consistency.imports ix importer file
  | relates => fun id other => Consistency.relates ix other id
  | hasProvider => fun name id => Consistency.provides ix id name
  | hasUser => fun name id => Consistency.consumes ix id name
  | provides => fun id name => Consistency.hasProvider ix name id
  | consumes => fun id name => Consistency.hasUser ix name id
  | usesTerm => fun _ key => ix.terms.contains key
  | definesTerm => fun _ key => ix.terms.contains key

theorem mem_all (s : Side) : s ∈ all := by cases s <;> decide

def gaps (ix : Index) (s : Side) : List (String × String) :=
  match s with
  | uses => unanswered ix.features (·.codeUsed) (uses.answered ix)
  | documents => unanswered ix.code (·.documentedIn) (documents.answered ix)
  | imports => unanswered ix.code (·.imports) (imports.answered ix)
  | importedBy => unanswered ix.code (·.importedBy) (importedBy.answered ix)
  | relates => unanswered ix.features (·.related) (relates.answered ix)
  | hasProvider => unanswered ix.interfaces (·.providers) (hasProvider.answered ix)
  | hasUser => unanswered ix.interfaces (·.users) (hasUser.answered ix)
  | provides => unanswered ix.features (·.provided) (provides.answered ix)
  | consumes => unanswered ix.features (·.used) (consumes.answered ix)
  | usesTerm => unanswered ix.features (·.termsUsed) (usesTerm.answered ix)
  | definesTerm => unanswered ix.features (·.termsDefined) (definesTerm.answered ix)

theorem mem_gaps {s : Side} {owner other : String} :
    (owner, other) ∈ s.gaps ix ↔ s.holds ix owner other = true ∧ s.answered ix owner other = false := by
  cases s <;> exact mem_unanswered

theorem nodup_gaps (s : Side) : (s.gaps ix).Nodup := by
  cases s <;> exact nodup_unanswered

end Side

/-! ## Gaps -/

inductive Gap where
  | oneSided (side : Side) (owner other : String)
  | miscounted (key : String)
deriving DecidableEq

def Gap.In (ix : Index) : Gap → Prop
  | oneSided side owner other => side.holds ix owner other = true ∧ side.answered ix owner other = false
  | miscounted key => ∃ t, ix.terms.find? key = some t ∧ t.useCount ≠ t.uses.length

def miscountedKeys (ix : Index) : List String := (ix.terms.filter fun _ t => t.uses.length ≠ t.useCount).keys

def gaps (ix : Index) : List Gap :=
  (Side.all.flatMap fun s => (s.gaps ix).map fun g => .oneSided s g.1 g.2) ++ (miscountedKeys ix).map .miscounted

theorem mem_miscountedKeys {key : String} :
    key ∈ miscountedKeys ix ↔ ∃ t, ix.terms.find? key = some t ∧ t.useCount ≠ t.uses.length := by
  simp [miscountedKeys, Table.keys, Table.filter, Table.find?_eq_some, ne_comm]

theorem mem_gaps {g : Gap} : g ∈ gaps ix ↔ g.In ix := by
  rw [gaps, List.mem_append, List.mem_flatMap, List.mem_map]
  cases g with
  | oneSided side owner other =>
    simp only [List.mem_map, Gap.oneSided.injEq, Prod.exists, reduceCtorEq, and_false, exists_false, or_false]
    constructor
    · intro h
      obtain ⟨_, _, _, _, hg, rfl, rfl, rfl⟩ := h
      exact Side.mem_gaps.mp hg
    · intro h
      exact ⟨side, side.mem_all, owner, other, Side.mem_gaps.mpr h, rfl, rfl, rfl⟩
  | miscounted key =>
    simp only [List.mem_map, reduceCtorEq, and_false, exists_false, false_or, Gap.miscounted.injEq,
      exists_eq_right]
    exact mem_miscountedKeys

theorem nodup_gaps : (gaps ix).Nodup := by
  refine List.Nodup.append ?_ ?_ ?_
  · refine List.nodup_flatMap.mpr ⟨fun s _ => s.nodup_gaps.map fun p p' h => ?_, ?_⟩
    · exact Prod.ext (Gap.oneSided.inj h).2.1 (Gap.oneSided.inj h).2.2
    · refine (show Side.all.Nodup by decide).imp fun {s s'} hne g hg hg' => ?_
      obtain ⟨_, _, rfl⟩ := List.mem_map.mp hg
      obtain ⟨_, _, h⟩ := List.mem_map.mp hg'
      exact hne (Gap.oneSided.inj h).1.symm
  · refine List.Nodup.map (fun _ _ h => Gap.miscounted.inj h) ?_
    exact (Table.keySet _).nodup_toList
  · intro g hg hg'
    obtain ⟨_, _, hg⟩ := List.mem_flatMap.mp hg
    obtain ⟨_, _, rfl⟩ := List.mem_map.mp hg
    obtain ⟨_, _, h⟩ := List.mem_map.mp hg'
    cases h

/-! ## Findings -/

theorem ofFeatures_eq_each (check : String → FeatureEntry → Report) :
    ofFeatures ix check = each ix.features check := rfl

theorem ofCode_eq_each (check : String → CodeEntry → Report) : ofCode ix check = each ix.code check := rfl

theorem ofInterfaces_eq_each (check : String → InterfaceEntry → Report) :
    ofInterfaces ix check = each ix.interfaces check := rfl

theorem length_codeReport :
    (codeReport ix).length = (Side.uses.gaps ix).length + (Side.documents.gaps ix).length := by
  rw [codeReport, List.length_append, ofFeatures_eq_each, ofCode_eq_each]
  exact congrArg₂ _ length_each_failing length_each_failing

theorem length_importReport :
    (importReport ix).length = (Side.imports.gaps ix).length + (Side.importedBy.gaps ix).length := by
  rw [importReport, ofCode_eq_each, length_each_append]
  exact congrArg₂ _ length_each_failing length_each_failing

theorem length_relationReport : (relationReport ix).length = (Side.relates.gaps ix).length := by
  rw [relationReport, ofFeatures_eq_each]
  exact length_each_failing

theorem length_linkReport : (linkReport ix).length =
    ((Side.hasProvider.gaps ix).length + (Side.hasUser.gaps ix).length) +
      ((Side.provides.gaps ix).length + (Side.consumes.gaps ix).length) := by
  rw [linkReport, List.length_append, ofInterfaces_eq_each, ofFeatures_eq_each, length_each_append,
    length_each_append]
  refine congrArg₂ _ ?_ ?_
  · exact congrArg₂ _ length_each_failing length_each_failing
  · exact congrArg₂ _ length_each_failing length_each_failing

theorem length_termReport : (termReport ix).length =
    (miscountedKeys ix).length + ((Side.usesTerm.gaps ix).length + (Side.definesTerm.gaps ix).length) := by
  rw [termReport, List.length_append, ofFeatures_eq_each]
  refine congrArg₂ _ ?_ ?_
  · rw [miscountedKeys, Table.keys, List.length_map]
    refine length_flatMap_unless (p := fun e : String × TermEntry => e.2.uses.length = e.2.useCount) fun e => ?_
    dsimp only
    split <;> rfl
  · rw [length_each_append]
    exact congrArg₂ _ length_each_failing length_each_failing

theorem length_gaps : (ix.validate.ofKind .indexInconsistency).length = (gaps ix).length := by
  rw [ix.inconsistencies_eq]
  simp only [List.length_append, length_codeReport, length_importReport, length_relationReport, length_linkReport,
    length_termReport, gaps, Side.all, List.flatMap_cons, List.flatMap_nil, List.length_map, List.length_nil]
  omega

end Consistency

open Consistency

/-- Any index, however it came about, has an inconsistency just in case it has a gap, and as many of
them as gaps. -/
theorem Index.inconsistencies_count_gaps (ix : Index) :
    (ix.validate.ofKind .indexInconsistency ≠ [] ↔ ∃ g : Gap, g.In ix) ∧
    {g : Gap | g.In ix}.Finite ∧
    (ix.validate.ofKind .indexInconsistency).length = {g : Gap | g.In ix}.ncard := by
  have all : {g : Gap | g.In ix} = ((gaps ix).toFinset : Set Gap) := by
    ext g
    simp [mem_gaps]
  refine ⟨?_, ?_, ?_⟩
  · rw [← List.length_pos_iff, length_gaps, List.length_pos_iff_exists_mem]
    exact exists_congr fun _ => mem_gaps
  · rw [all]
    exact Finset.finite_toSet _
  · rw [length_gaps, all, Set.ncard_coe_finset, List.toFinset_card_of_nodup nodup_gaps]

end Interlink
