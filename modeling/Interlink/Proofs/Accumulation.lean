import Interlink.Table

/-!
# Accumulation

Folds whose steps only add. What holds at the end held at the start or was added by some step; where each
step concerns one key of a table, what it leaves at its key is there at the end. Entries of tables have parts
to which steps add members.
-/

namespace Interlink

variable {σ α γ : Type} {f : σ → α → σ}

/-- Steps that add `P` where `A` says so, as long as they keep `I`. -/
theorem foldl_adds_of {I P : σ → Prop} {A : α → Prop} (keep : ∀ s x, I s → I (f s x))
    (h : ∀ s x, I s → (P (f s x) ↔ P s ∨ A x)) (xs : List α) {s : σ} (hI : I s) :
    P (xs.foldl f s) ↔ P s ∨ ∃ x ∈ xs, A x := by
  induction xs generalizing s with
  | nil => simp
  | cons x xs ih =>
    rw [List.foldl_cons, ih (keep s x hI), h s x hI]
    simp [or_assoc]

theorem foldl_adds {P : σ → Prop} {A : α → Prop} (h : ∀ s x, P (f s x) ↔ P s ∨ A x) (xs : List α) (s : σ) :
    P (xs.foldl f s) ↔ P s ∨ ∃ x ∈ xs, A x :=
  foldl_adds_of (I := fun _ => True) (fun _ _ => id) (fun s x _ => h s x) xs trivial

theorem foldl_frame {v : σ → γ} (h : ∀ s x, v (f s x) = v s) (xs : List α) (s : σ) : v (xs.foldl f s) = v s := by
  induction xs generalizing s with
  | nil => rfl
  | cons x xs ih => rw [List.foldl_cons, ih, h]

theorem foldl_at_key {β : Type} {I : σ → Prop} {f : σ → String × β → σ} {v : σ → γ} {k : String} {c : γ}
    {o : β → γ} (keep : ∀ s e, I s → I (f s e)) (other : ∀ s e, e.1 ≠ k → v (f s e) = v s)
    (here : ∀ s b, I s → v s = c → v (f s (k, b)) = o b) (t : Table β) {s : σ} (hI : I s) (hc : v s = c) :
    v (t.toList.foldl f s) = ((t.find? k).map o).getD c := by
  have untouched (es : List (String × β)) (s : σ) (hk : ∀ e ∈ es, e.1 ≠ k) : v (es.foldl f s) = v s := by
    induction es generalizing s with
    | nil => rfl
    | cons e es ih =>
      rw [List.foldl_cons, ih _ fun x hx => hk x (List.mem_cons_of_mem _ hx), other _ _ (hk e List.mem_cons_self)]
  obtain ⟨es, hs⟩ := t
  induction es generalizing s with
  | nil => exact hc
  | cons e es ih =>
    obtain ⟨he, hes⟩ := List.pairwise_cons.mp hs
    by_cases hk : e.1 = k
    · obtain ⟨_, b⟩ := e
      obtain rfl : _ = k := hk
      rw [List.foldl_cons, untouched es _ fun x hx h => String.lt_irrefl x.1 (h ▸ he x hx), here s b hI hc]
      simp [Table.find?]
    · have e₁ := ih (keep s e hI) ((other s e hk).trans hc) hes
      simpa [Table.find?, hk] using e₁

/-! ## Parts of entries -/

namespace Table

variable {β : Type} {t : Table β} {p : β → KeySet} {f : β → β} {j k x : String}

def partAt (t : Table β) (p : β → KeySet) (k : String) : KeySet := ((t.find? k).map p).getD .empty

theorem mem_partAt : x ∈ t.partAt p k ↔ ∃ v, t.find? k = some v ∧ x ∈ p v := by
  cases h : t.find? k <;> simp [partAt, h]

theorem any_find?_iff : ((t.find? k).any fun v => decide (x ∈ p v)) = true ↔ x ∈ t.partAt p k := by
  simp only [mem_partAt, Option.any_eq_true, decide_eq_true_eq]

theorem mem_partAt_modify {A : Prop} (h : ∀ v, x ∈ p (f v) ↔ x ∈ p v ∨ A) :
    x ∈ (t.modify j f).partAt p k ↔ x ∈ t.partAt p k ∨ (k = j ∧ t.contains j = true ∧ A) := by
  simp only [mem_partAt, find?_modify]
  by_cases hk : k = j
  · subst hk
    cases hv : t.find? k with
    | none => simp [contains_eq_isSome, hv]
    | some v => simp [contains_eq_isSome, hv, h]
  · simp [hk]

theorem mem_partAt_upsert {d : β} {A : Prop} (hd : x ∉ p d) (h : ∀ v, x ∈ p (f v) ↔ x ∈ p v ∨ A) :
    x ∈ (t.upsert j d f).partAt p k ↔ x ∈ t.partAt p k ∨ (k = j ∧ A) := by
  simp only [mem_partAt, find?_upsert]
  by_cases hk : k = j
  · subst hk
    cases hv : t.find? k with
    | none => simp [h, hd]
    | some v => simp [h]
  · simp [hk]

theorem map_find?_modify {v : β → γ} (h : ∀ b, v (f b) = v b) :
    ((t.modify j f).find? k).map v = (t.find? k).map v := by
  rw [find?_modify]
  split
  · rename_i hk
    subst hk
    simp [Option.map_map, Function.comp_def, h]
  · rfl

theorem contains_modify : (t.modify j f).contains k = t.contains k := by
  rw [contains_eq_isSome, contains_eq_isSome, find?_modify]
  split
  · rename_i hk
    rw [hk, Option.isSome_map]
  · rfl

theorem contains_foldl_upsert {ι : Type} (step : Table β → ι → Table β) {key : ι → String} {d : β} {g : ι → β → β}
    (h : ∀ t i, step t i = t.upsert (key i) d (g i)) {is : List ι} {t : Table β} :
    (is.foldl step t).contains k = true ↔ t.contains k = true ∨ ∃ i ∈ is, k = key i := by
  apply foldl_adds (P := fun t : Table β => t.contains k = true)
  intro t i
  rw [h, upsert, contains_insert, or_comm]

/-! ## Tables from lists -/

theorem contains_ofList {es : List (String × β)} : (ofList es).contains k = true ↔ ∃ e ∈ es, e.1 = k := by
  have one (t : Table β) (e : String × β) :
      (t.insert e.1 e.2).contains k = true ↔ t.contains k = true ∨ e.1 = k := by
    rw [contains_insert, or_comm, eq_comm (a := k)]
  have all := foldl_adds (P := fun t : Table β => t.contains k = true) one es empty
  rw [ofList, all, contains_eq_isSome]
  simp

theorem mem_of_mem_ofList {es : List (String × β)} {e : String × β} (he : e ∈ (ofList es).toList) : e ∈ es := by
  have all : ∀ e ∈ (ofList es).toList, e ∈ es := by
    refine List.foldlRecOn (motive := fun t : Table β => ∀ e ∈ t.toList, e ∈ es) es _ nofun ?_
    intro t ht x hx e he
    rcases mem_insert.mp he with rfl | ⟨he, _⟩
    · exact hx
    · exact ht e he
  exact all e he

theorem insertEntry_perm {es : List (String × β)} {b : β} (h : ∀ e ∈ es, e.1 ≠ k) :
    (insertEntry k b es).Perm ((k, b) :: es) := by
  induction es with
  | nil => exact .refl _
  | cons e es ih =>
    have hk : k ≠ e.1 := Ne.symm (h e List.mem_cons_self)
    rw [insertEntry, if_neg hk]
    split
    · exact .refl _
    · exact ((ih fun x hx => h x (List.mem_cons_of_mem _ hx)).cons e).trans (.swap ..)

/-- A table of entries with distinct keys loses none of them. -/
theorem ofList_perm {es : List (String × β)} (h : (es.map (·.1)).Nodup) : (ofList es).toList.Perm es := by
  suffices ∀ t : Table β, (∀ e ∈ es, t.contains e.1 = false) →
      (es.foldl (fun t e => t.insert e.1 e.2) t).toList.Perm (t.toList ++ es) from
    this empty fun _ _ => rfl
  induction es with
  | nil => intro t _; simp
  | cons e es ih =>
    intro t fresh
    obtain ⟨hne, hes⟩ := List.nodup_cons.mp h
    have later : ∀ x ∈ es, (t.insert e.1 e.2).contains x.1 = false := by
      intro x hx
      rw [Bool.eq_false_iff, ne_eq, contains_insert, not_or]
      refine ⟨fun hk => hne (List.mem_map.mpr ⟨x, hx, hk⟩), ?_⟩
      rw [fresh x (List.mem_cons_of_mem _ hx)]
      nofun
    have here : ∀ x ∈ t.toList, x.1 ≠ e.1 := by
      intro x hx hk
      have := contains_iff.mpr ⟨x.2, hx⟩
      rw [hk, fresh e List.mem_cons_self] at this
      cases this
    rw [List.foldl_cons]
    exact (ih hes _ later).trans (((insertEntry_perm here).append_right es).trans List.perm_middle.symm)

end Table

end Interlink
