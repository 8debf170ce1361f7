import Interlink.Proofs.Accumulation
import Interlink.Proofs.Json.Text
import Interlink.Proofs.Record

/-!
# Data in JSON

What is written as a value in JSON is read back from it, and what is read is such that it can be written again.
Lists, tables and records keep this up if their parts do.
-/

namespace Interlink

section
variable {ε α β : Type} {f : α → Except ε β} {xs : List α} {ys : List β}

theorem mapM_map_eq_ok {g : β → α} (h : ∀ y ∈ ys, f (g y) = .ok y) : (ys.map g).mapM f = .ok ys := by
  induction ys with
  | nil => rfl
  | cons y ys ih =>
    rw [List.map_cons, List.mapM_cons]
    refine bind_eq_ok.mpr ⟨y, h y List.mem_cons_self, bind_eq_ok.mpr ⟨ys, ?_, rfl⟩⟩
    exact ih fun x hx => h x (List.mem_cons_of_mem y hx)

theorem exists_of_mem_mapM (h : xs.mapM f = .ok ys) {y : β} (hy : y ∈ ys) : ∃ x, f x = .ok y := by
  induction xs generalizing ys with
  | nil =>
    obtain rfl := Except.ok.inj h
    cases hy
  | cons x xs ih =>
    rw [List.mapM_cons] at h
    obtain ⟨y', hy', h⟩ := bind_eq_ok.mp h
    obtain ⟨ys', hys', h⟩ := bind_eq_ok.mp h
    obtain rfl := Except.ok.inj h
    rcases List.mem_cons.mp hy with rfl | hy
    · exact ⟨x, hy'⟩
    · exact ih hys' hy

end

theorem KeySet.ofList_toList (s : KeySet) : KeySet.ofList s.toList = s :=
  ext_mem fun _ => mem_ofList

theorem Table.ofList_toList {α : Type} (t : Table α) : Table.ofList t.toList = t := by
  refine ext_find? fun k => Option.ext fun v => ?_
  have held {w : α} (h : (ofList t.toList).find? k = some w) : t.find? k = some w :=
    find?_eq_some.mpr (mem_of_mem_ofList (find?_eq_some.mp h))
  refine ⟨held, fun h => ?_⟩
  have there : (ofList t.toList).contains k = true := contains_ofList.mpr ⟨(k, v), find?_eq_some.mp h, rfl⟩
  rw [contains_eq_isSome, Option.isSome_iff_exists] at there
  obtain ⟨w, hw⟩ := there
  rw [hw, ← held hw, h]

namespace Json

variable {α : Type} {good : α → Prop} {write : α → Value} {read : Value → Except Fault α}

/-- Good data is written in words that are read back as the same data, and all data that is read is good. -/
structure Faithful (good : α → Prop) (write : α → Value) (read : Value → Except Fault α) : Prop where
  plain {a : α} : good a → Plain (write a)
  reads {a : α} : good a → read (write a) = .ok a
  yields {v : Value} {a : α} : read v = .ok a → good a

theorem mismatch_ne_ok {v : Value} {expected : String} {a : α} : v.mismatch expected ≠ .ok a := by
  intro h
  obtain ⟨_, _, h⟩ := bind_eq_ok.mp h
  cases h

theorem whenClosed_eq_ok {closed : Bool} {a b : α} (h : Value.whenClosed closed a = .ok b) : a = b := by
  unfold Value.whenClosed at h
  split at h
  · exact Except.ok.inj h
  · cases h

theorem exists_of_decode {t : String} {a : α} (h : decode read t = .ok a) : ∃ v, read v = .ok a := by
  obtain ⟨b, hb, h⟩ := bind_eq_ok.mp h
  split at h
  · split at h
    · exact ⟨_, hb.trans h⟩
    · cases h
  · cases h

def Anything (_ : α) : Prop := True

/-! ## Simple data -/

theorem faithful_text : Faithful Anything .str Value.text where
  plain _ := .str _
  reads _ := rfl
  yields _ := trivial

theorem faithful_boolean : Faithful Anything .bool Value.boolean where
  plain _ := .bool _
  reads _ := rfl
  yields _ := trivial

theorem faithful_natural (bits : Nat) (h : bits ≤ 64) (name : String) :
    Faithful (· < 2 ^ bits) Value.ofNat (Value.natural bits name) where
  plain hn := .nat _ (Nat.lt_of_lt_of_le hn (Nat.pow_le_pow_right (by decide) h))
  reads {n} hn := by
    have fits : 0 ≤ (n : Int) ∧ (n : Int) < Int.pow 2 bits := by
      refine ⟨Int.natCast_nonneg n, ?_⟩
      rw [Int.pow_eq]
      exact_mod_cast hn
    rw [Value.ofNat, Value.natural, if_pos fits]
    rfl
  yields {v n} hv := by
    unfold Value.natural at hv
    split at hv
    · split at hv
      · rename_i i fits
        obtain rfl := Except.ok.inj hv
        rw [Int.pow_eq] at fits
        have hi : (i.toNat : Int) < 2 ^ bits := (Int.toNat_of_nonneg fits.1).symm ▸ fits.2
        exact_mod_cast hi
      · cases hv
    · exact absurd hv mismatch_ne_ok

theorem faithful_size : Faithful (· < 2 ^ 64) Value.ofNat Value.size :=
  faithful_natural 64 (Nat.le_refl 64) "usize"

theorem faithful_variant {all : List α} {name : α → String} (h : ∀ a, all.find? (name · = name a) = some a) :
    Faithful Anything (fun a => .str (name a)) (Value.variant all name) where
  plain _ := .str _
  reads {a} _ := by
    rw [Value.variant, Value.variant.named, h]
  yields _ := trivial

/-! ## Lists and tables -/

theorem Faithful.list (h : Faithful good write read) :
    Faithful (fun as : List α => ∀ a ∈ as, good a) (Value.ofList write) (Value.list read) where
  plain {as} hs := by
    refine .arr _ fun v hv => ?_
    obtain ⟨a, ha, rfl⟩ := List.mem_map.mp hv
    exact h.plain (hs a ha)
  reads {as} hs := by
    have all : (as.map write).mapM read = .ok as := mapM_map_eq_ok fun a ha => h.reads (hs a ha)
    exact bind_eq_ok.mpr ⟨as, all, rfl⟩
  yields {v as} hv := by
    unfold Value.list at hv
    split at hv
    · obtain ⟨as', has, closed⟩ := bind_eq_ok.mp hv
      obtain rfl := whenClosed_eq_ok closed
      intro a ha
      obtain ⟨v, hv⟩ := exists_of_mem_mapM has ha
      exact h.yields hv
    · exact absurd hv mismatch_ne_ok

theorem faithful_keySet : Faithful Anything Value.ofSet Value.keySet where
  plain {s} _ := faithful_text.list.plain (a := s.toList) fun _ _ => trivial
  reads {s} _ := by
    have all : Value.list Value.text (Value.ofSet s) = .ok s.toList := faithful_text.list.reads fun _ _ => trivial
    rw [Value.keySet, all]
    exact congrArg Except.ok s.ofList_toList
  yields _ := trivial

theorem Faithful.reads_entries (h : Faithful good write read) {es : List (String × α)} (he : ∀ e ∈ es, good e.2) :
    (es.map fun e => (e.1, write e.2)).mapM (fun (k, v) => do return (k, ← read v)) = .ok es :=
  mapM_map_eq_ok fun e hm => bind_eq_ok.mpr ⟨e.2, h.reads (he e hm), rfl⟩

theorem Faithful.table (h : Faithful good write read) :
    Faithful (fun t : Table α => ∀ e ∈ t.toList, good e.2) (Value.ofTable write) (Value.table read) where
  plain {t} ht := by
    refine .obj _ fun m hm => ?_
    obtain ⟨e, he, rfl⟩ := List.mem_map.mp hm
    exact h.plain (ht e he)
  reads {t} ht := by
    refine bind_eq_ok.mpr ⟨t.toList, h.reads_entries ht, ?_⟩
    rw [t.ofList_toList]
    rfl
  yields {v t} hv := by
    unfold Value.table at hv
    split at hv
    · obtain ⟨es, hes, closed⟩ := bind_eq_ok.mp hv
      obtain rfl := whenClosed_eq_ok closed
      intro e he
      obtain ⟨m, hm⟩ := exists_of_mem_mapM hes (Table.mem_of_mem_ofList he)
      obtain ⟨a, ha, hm⟩ := bind_eq_ok.mp hm
      obtain rfl := Except.ok.inj hm
      exact h.yields ha
    · exact absurd hv mismatch_ne_ok

/-! ## Records -/

variable {β : Type} {find : String → Option Value} {name : String} {a d : α} {r : Record Value α}
  {fields : List (String × Option Value)}

structure Holds (find : String → Option Value) (r : Record Value α) (a : α) : Prop where
  builds : r.Builds find a
  plain : ∀ field ∈ r.fields, ∀ v, find field.name = some v → Plain v

theorem Holds.seq {f : Record Value (α → β)} {x : Record Value α} {g : α → β} (hf : Holds find f g)
    (hx : Holds find x a) : Holds find (f <*> x) (g a) := by
  refine ⟨hf.builds.seq hx.builds, fun field h => ?_⟩
  rcases List.mem_append.mp h with h | h
  · exact hf.plain field h
  · exact hx.plain field h

theorem Holds.map (g : α → β) {x : Record Value α} (hx : Holds find x a) : Holds find (g <$> x) (g a) :=
  .seq ⟨.pure g, nofun⟩ hx

theorem Faithful.required (h : Faithful good write read) (hv : find name = some (write a)) (ha : good a) :
    Holds find (.required name read) a := by
  refine ⟨.required hv (h.reads ha), fun field hf w hw => ?_⟩
  obtain rfl := List.mem_singleton.mp hf
  obtain rfl := Option.some.inj (hv.symm.trans hw)
  exact h.plain ha

theorem Faithful.optional (h : Faithful good write read)
    (hv : find name = some (write a) ∨ find name = none ∧ a = d) (ha : good a) :
    Holds find (.optional name d read) a := by
  have value {w : Value} (hw : find name = some w) : w = write a := by
    rcases hv with hv | ⟨hv, _⟩
    · exact Option.some.inj (hw.symm.trans hv)
    · cases hw.symm.trans hv
  refine ⟨.optional (fun w hw => value hw ▸ h.reads ha) fun none => ?_, fun field hf w hw => ?_⟩
  · rcases hv with hv | ⟨_, e⟩
    · cases none.symm.trans hv
    · exact e
  · obtain rfl := List.mem_singleton.mp hf
    exact value hw ▸ h.plain ha

theorem holds_optionalText {t : Option String} (hv : find name = t.map .str) :
    Holds find (.optional name none (Value.optional Value.text)) t := by
  refine ⟨.optional (fun w hw => ?_) fun none => ?_, fun field hf w hw => ?_⟩
  · obtain ⟨s, rfl, rfl⟩ := Option.map_eq_some_iff.mp (hv.symm.trans hw)
    rfl
  · exact Option.map_eq_none_iff.mp (hv.symm.trans none)
  · obtain rfl := List.mem_singleton.mp hf
    obtain ⟨s, _, rfl⟩ := Option.map_eq_some_iff.mp (hv.symm.trans hw)
    exact .str s

def named (fields : List (String × Option Value)) : List (Option (String × Value)) :=
  fields.map fun f => f.2.map (f.1, ·)

def valueOf (fields : List (String × Option Value)) (name : String) : Option Value :=
  (fields.find? (·.1 = name)).bind (·.2)

theorem mem_named {m : String × Value} (h : m ∈ (named fields).filterMap id) : (m.1, some m.2) ∈ fields := by
  obtain ⟨o, ho, rfl⟩ := List.mem_filterMap.mp h
  obtain ⟨f, hf, e⟩ := List.mem_map.mp ho
  obtain ⟨v, hv, rfl⟩ := Option.map_eq_some_iff.mp e
  obtain ⟨n, o⟩ := f
  obtain rfl : o = some v := hv
  exact hf

theorem names_named (fields : List (String × Option Value)) :
    (((named fields).filterMap id).map (·.1)).Sublist (fields.map (·.1)) := by
  induction fields with
  | nil => exact .slnil
  | cons f fields ih =>
    obtain ⟨n, o⟩ := f
    cases o with
    | none => exact ih.cons n
    | some v => exact ih.cons_cons n

theorem lookup_named (distinct : (fields.map (·.1)).Nodup) (name : String) :
    Record.lookup ((named fields).filterMap id) name = valueOf fields name := by
  unfold Record.lookup valueOf
  induction fields with
  | nil => rfl
  | cons f fields ih =>
    obtain ⟨n, o⟩ := f
    rw [List.map_cons, List.nodup_cons] at distinct
    have rest := ih distinct.2
    by_cases hn : n = name
    · subst hn
      rw [List.find?_cons_of_pos (by simp)]
      cases o with
      | none =>
        have absent : ((named fields).filterMap id).find? (·.1 = n) = none := by
          refine List.find?_eq_none.mpr fun m hm => ?_
          have hne : m.1 ≠ n := by
            rintro rfl
            exact distinct.1 (List.mem_map.mpr ⟨_, mem_named hm, rfl⟩)
          simpa using hne
        exact congrArg (Option.map _) absent
      | some v =>
        have first : ((n, v) :: (named fields).filterMap id).find? (·.1 = n) = some (n, v) :=
          List.find?_cons_of_pos (by simp)
        exact congrArg (Option.map _) first
    · rw [List.find?_cons_of_neg (by simpa using hn), ← rest]
      cases o with
      | none => rfl
      | some v =>
        have next : ((n, v) :: (named fields).filterMap id).find? (·.1 = name) =
            ((named fields).filterMap id).find? (·.1 = name) :=
          List.find?_cons_of_neg (by simpa using hn)
        exact congrArg (Option.map _) next

theorem Plain.skip {v : Value} (h : Plain v) : v.skip = .ok () := by
  cases h <;> rfl

theorem faithful_record {shape : String} (fields : α → List (String × Option Value))
    (writes : ∀ a, write a = .ofMembers (named (fields a)))
    (names : ∀ a, (fields a).map (·.1) = r.fields.map (·.name)) (distinct : (r.fields.map (·.name)).Nodup)
    (holds : ∀ a, good a → Holds (valueOf (fields a)) r a) (yields : r.Yields good) :
    Faithful good write (Value.record shape r) := by
  have apart (a : α) : ((fields a).map (·.1)).Nodup := names a ▸ distinct
  have plain (a : α) (ha : good a) : ∀ m ∈ (named (fields a)).filterMap id, Plain m.2 := by
    intro m hm
    have known : valueOf (fields a) m.1 = some m.2 := by
      rw [← lookup_named (apart a)]
      exact Record.lookup_of_mem ((apart a).sublist (names_named _)) hm
    have named : m.1 ∈ r.fields.map (·.name) := names a ▸ List.mem_map_of_mem (mem_named hm)
    obtain ⟨field, hf, e⟩ := List.mem_map.mp named
    exact (holds a ha).plain field hf m.2 (e ▸ known)
  refine ⟨fun {a} ha => ?_, fun {a} ha => ?_, fun {v a} hv => ?_⟩
  · rw [writes]
    exact .obj _ (plain a ha)
  · have found : Record.lookup ((named (fields a)).filterMap id) = valueOf (fields a) :=
      funext (lookup_named (apart a))
    have built : r.Builds (Record.lookup ((named (fields a)).filterMap id)) a := found ▸ (holds a ha).builds
    rw [writes, Value.ofMembers, Value.record, if_pos rfl, List.append_nil]
    exact Record.ofEntries_eq_ok ((apart a).sublist (names_named _)) (fun m hm => (plain a ha m hm).skip) built
  · unfold Value.record at hv
    split at hv
    · exact yields.ofEntries hv
    · obtain ⟨b, hb, closed⟩ := bind_eq_ok.mp hv
      obtain rfl := whenClosed_eq_ok closed
      exact yields.ofItems hb
    · exact absurd hv mismatch_ne_ok

end Json

end Interlink
