import Interlink.Record

/-!
# Reading records

A record is read field by field from data with named members. What it is read from is known once each field is
looked at alone: the fields of two records put together are read like those of each.
-/

namespace Interlink

theorem bind_eq_ok {ε α β : Type} {x : Except ε α} {f : α → Except ε β} {b : β} :
    x >>= f = .ok b ↔ ∃ a, x = .ok a ∧ f a = .ok b := by
  cases x with
  | error e =>
    constructor
    · nofun
    · nofun
  | ok a =>
    constructor
    · intro h
      exact ⟨a, rfl, h⟩
    · intro h
      obtain ⟨_, e, h⟩ := h
      obtain rfl := Except.ok.inj e
      exact h

namespace Record

variable {V α β : Type} {r : Record V α} {find : String → Option V} {skip : V → Except Fault Unit}
  {read : V → Except Fault α} {name : String} {a d : α} {seen : List String} {known : List (Field V)}
  {members : List (String × V)}

/-! ## Building -/

theorem build_seq {f : Record V (α → β)} {x : Record V α} {b : β} :
    (f <*> x).build find = .ok b ↔ ∃ g a, f.build find = .ok g ∧ x.build find = .ok a ∧ g a = b := by
  have h : (f <*> x).build find = do return (← f.build find) (← x.build find) := rfl
  rw [h, bind_eq_ok]
  constructor
  · intro hb
    obtain ⟨g, hg, hb⟩ := hb
    obtain ⟨a, ha, hb⟩ := bind_eq_ok.mp hb
    exact ⟨g, a, hg, ha, Except.ok.inj hb⟩
  · intro hb
    obtain ⟨g, a, hg, ha, rfl⟩ := hb
    exact ⟨g, hg, bind_eq_ok.mpr ⟨a, ha, rfl⟩⟩

structure Builds (find : String → Option V) (r : Record V α) (a : α) : Prop where
  checks : ∀ field ∈ r.fields, ∀ v, find field.name = some v → field.check v = .ok ()
  builds : r.build find = .ok a

theorem Builds.pure (a : α) : Builds find (Pure.pure a) a := ⟨nofun, rfl⟩

theorem Builds.seq {f : Record V (α → β)} {x : Record V α} {g : α → β} (hf : Builds find f g)
    (hx : Builds find x a) :
    Builds find (f <*> x) (g a) := by
  refine ⟨fun field h => ?_, build_seq.mpr ⟨g, a, hf.builds, hx.builds, rfl⟩⟩
  rcases List.mem_append.mp h with h | h
  · exact hf.checks field h
  · exact hx.checks field h

theorem Builds.required {v : V} (hv : find name = some v) (h : read v = .ok a) :
    Builds find (required name read) a := by
  refine ⟨fun field hf w hw => ?_, ?_⟩
  · obtain rfl := List.mem_singleton.mp hf
    obtain rfl := Option.some.inj (hv.symm.trans hw)
    dsimp only
    rw [h]
    rfl
  · rw [Record.required]
    dsimp only
    rw [hv]
    exact h

theorem Builds.optional (h : ∀ v, find name = some v → read v = .ok a) (hd : find name = none → a = d) :
    Builds find (optional name d read) a := by
  refine ⟨fun field hf w hw => ?_, ?_⟩
  · obtain rfl := List.mem_singleton.mp hf
    dsimp only
    rw [h w hw]
    rfl
  · rw [Record.optional]
    dsimp only
    cases hf : find name with
    | some v => exact h v hf
    | none => rw [hd hf]

/-! ## Data with named members -/

def lookup (members : List (String × V)) (name : String) : Option V := (members.find? (·.1 = name)).map (·.2)

theorem lookup_of_mem (distinct : (members.map (·.1)).Nodup) {m : String × V} (h : m ∈ members) :
    lookup members m.1 = some m.2 := by
  unfold lookup
  induction members with
  | nil => cases h
  | cons m' members ih =>
    rw [List.map_cons, List.nodup_cons] at distinct
    rcases List.mem_cons.mp h with rfl | h
    · rw [List.find?_cons_of_pos (by simp)]
      rfl
    · have hne : m'.1 ≠ m.1 := fun e => distinct.1 (e ▸ List.mem_map_of_mem h)
      rw [List.find?_cons_of_neg (by simpa using hne)]
      exact ih distinct.2 h

theorem check_eq_ok (distinct : (members.map (·.1)).Nodup) (fresh : ∀ m ∈ members, m.1 ∉ seen)
    (fits : ∀ m ∈ members, ∀ field ∈ known, field.name = m.1 → field.check m.2 = .ok ())
    (skips : ∀ m ∈ members, skip m.2 = .ok ()) :
    check known skip seen (members.map fun m => (.ok m.1, m.2)) = .ok () := by
  induction members generalizing seen with
  | nil => rfl
  | cons m members ih =>
    rw [List.map_cons, List.nodup_cons] at distinct
    have later : ∀ m' ∈ members, m'.1 ∉ m.1 :: seen := by
      intro m' hm' hin
      rcases List.mem_cons.mp hin with e | hin
      · exact distinct.1 (e ▸ List.mem_map_of_mem hm')
      · exact fresh m' (List.mem_cons_of_mem m hm') hin
    have rest := ih distinct.2 later (fun m' hm' => fits m' (List.mem_cons_of_mem m hm'))
      (fun m' hm' => skips m' (List.mem_cons_of_mem m hm'))
    rw [List.map_cons, check]
    refine bind_eq_ok.mpr ⟨m.1, rfl, ?_⟩
    cases hf : known.find? (·.name = m.1) with
    | none => exact bind_eq_ok.mpr ⟨(), skips m List.mem_cons_self, rest⟩
    | some field =>
      have named : field.name = m.1 := by simpa using List.find?_some hf
      have passed := fits m List.mem_cons_self field (List.mem_of_find?_eq_some hf) named
      dsimp only
      rw [if_neg (fresh m List.mem_cons_self)]
      exact bind_eq_ok.mpr ⟨(), passed, rest⟩

theorem ofEntries_eq_ok (distinct : (members.map (·.1)).Nodup) (skips : ∀ m ∈ members, skip m.2 = .ok ())
    (h : Builds (lookup members) r a) : r.ofEntries skip (members.map fun m => (.ok m.1, m.2)) = .ok a := by
  refine bind_eq_ok.mpr ⟨(),
    check_eq_ok distinct (fun _ _ => List.not_mem_nil) (fun m hm field hf e => ?_) skips, ?_⟩
  · exact h.checks field hf m.2 (e ▸ lookup_of_mem distinct hm)
  · refine Eq.trans (congrArg r.build (funext fun name => ?_)) h.builds
    have same : ((fun e : Except Fault String × V => decide (e.1.toOption = some name)) ∘
        fun m : String × V => (.ok m.1, m.2)) = fun m => decide (m.1 = name) :=
      funext fun m => decide_eq_decide.mpr ⟨Option.some.inj, congrArg some⟩
    rw [List.find?_map, same, Option.map_map]
    rfl

/-! ## What is read -/

def Yields (r : Record V α) (p : α → Prop) : Prop := ∀ find a, r.build find = .ok a → p a

theorem Yields.any : Yields r fun _ => True := fun _ _ _ => trivial

theorem Yields.pure {p : α → Prop} (h : p a) : Yields (Pure.pure a : Record V α) p := by
  intro find b hb
  exact Except.ok.inj hb ▸ h

theorem Yields.seq {f : Record V (α → β)} {x : Record V α} {p : α → Prop} {q : β → Prop}
    (hf : Yields f fun g => ∀ a, p a → q (g a)) (hx : Yields x p) : Yields (f <*> x) q := by
  intro find b hb
  obtain ⟨g, a, hg, ha, rfl⟩ := build_seq.mp hb
  exact hf find g hg a (hx find a ha)

theorem Yields.map {g : α → β} {x : Record V α} {p : α → Prop} {q : β → Prop} (hg : ∀ a, p a → q (g a))
    (hx : Yields x p) : Yields (g <$> x) q :=
  .seq (.pure hg) hx

theorem Yields.required {p : α → Prop} (h : ∀ v a, read v = .ok a → p a) : Yields (required name read) p := by
  intro find a ha
  unfold Record.required at ha
  dsimp only at ha
  split at ha
  · exact h _ a ha
  · cases ha

theorem Yields.ofEntries {p : α → Prop} (h : Yields r p) {entries : List (Except Fault String × V)}
    (ha : r.ofEntries skip entries = .ok a) : p a := by
  obtain ⟨_, _, hb⟩ := bind_eq_ok.mp ha
  exact h _ a hb

theorem Yields.ofItems {p : α → Prop} (h : Yields r p) {shape : String} {items : List V}
    (ha : r.ofItems shape items = .ok a) : p a := by
  unfold Record.ofItems at ha
  obtain ⟨_, _, hb⟩ := bind_eq_ok.mp ha
  split at hb
  · cases hb
  · exact h _ a hb

end Record

end Interlink
