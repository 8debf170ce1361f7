import Interlink.Glossary.Document

/-!
# What attributes say

Each attribute of a definition says something of one field, or its value cannot be read and it says nothing.
Of several attributes for a kind, a scope or an id the last one holds; aliases and related names add up.
-/

namespace Interlink.Glossary

namespace Attribute

/-! ## One attribute -/

def kind? (a : Attribute) : Option TermKind :=
  if a.key = "kind" then (TermKind.ofText (String.ofList a.value)).toOption else none

def scope? (a : Attribute) : Option TermScope :=
  if a.key = "scope" then (TermScope.ofText (String.ofList a.value)).toOption else none

def id? (a : Attribute) : Option String :=
  if a.key = "id" ∧ a.value ≠ [] then some (String.ofList a.value) else none

def aliases (a : Attribute) : List String :=
  if a.key = "aliases" then (listItems a.value).map String.ofList else []

def related (a : Attribute) : List String :=
  if a.key = "related" then (relatedNames a.value).map String.ofList else []

/-- Why the value of an attribute of the term `name` cannot be read. A key that is written with a
long s is none of the keys that are read: its value says nothing, and nothing is wrong with it. -/
def complaint? (name : String) (a : Attribute) : Option String :=
  if a.key = "kind" ∧ a.kind? = none then
    some ("unknown term kind '" ++ String.ofList a.value ++ "' for [[" ++ name ++ "]]")
  else if a.key = "scope" ∧ a.scope? = none then
    some ("unknown term scope '" ++ String.ofList a.value ++ "' for [[" ++ name ++ "]]")
  else if a.key = "id" ∧ a.id? = none then some ("empty id for [[" ++ name ++ "]]")
  else none

theorem silent_of_complaint? {name message : String} {a : Attribute} (h : a.complaint? name = some message) :
    a.id? = none ∧ a.kind? = none ∧ a.scope? = none ∧ a.aliases = [] ∧ a.related = [] := by
  unfold complaint? at h
  split at h
  · rename_i hk
    simp [id?, scope?, aliases, related, hk]
  · split at h
    · rename_i hk
      simp [id?, kind?, aliases, related, hk]
    · split at h
      · rename_i hk
        simp [kind?, scope?, aliases, related, hk]
      · cases h

end Attribute

variable {name : String} {a : Attribute} {as : List Attribute} {d : Draft}

def Draft.told (d : Draft) (a : Attribute) : Draft where
  id? := a.id?.or d.id?
  kind := a.kind?.getD d.kind
  scope := a.scope?.getD d.scope
  aliases := d.aliases ++ a.aliases
  related := d.related ++ a.related

theorem Draft.told_of_key {k : String} (key : a.key = k) : d.told a =
    { id? := (if k = "id" ∧ a.value ≠ [] then some (String.ofList a.value) else none).or d.id?
      kind := (if k = "kind" then (TermKind.ofText (String.ofList a.value)).toOption else none).getD d.kind
      scope := (if k = "scope" then (TermScope.ofText (String.ofList a.value)).toOption else none).getD d.scope
      aliases := d.aliases ++ if k = "aliases" then (listItems a.value).map String.ofList else []
      related := d.related ++ if k = "related" then (relatedNames a.value).map String.ofList else [] } := by
  subst key
  rfl

theorem Draft.apply_eq (name : String) (d : Draft) (a : Attribute) : d.apply name a =
    match a.complaint? name with
    | some message => .error message
    | none => .ok (d.told a) := by
  unfold Draft.apply Attribute.complaint? Attribute.kind? Attribute.scope? Attribute.id?
  dsimp only
  split
  · rename_i key
    rw [told_of_key key, key]
    cases TermKind.ofText (String.ofList a.value) with
    | ok kind => simp [Except.toOption]
    | error e => simp [Except.toOption]
  · rename_i key
    rw [told_of_key key, key]
    cases TermScope.ofText (String.ofList a.value) with
    | ok scope => simp [Except.toOption]
    | error e => simp [Except.toOption]
  · rename_i key
    rw [told_of_key key, key]
    simp
  · rename_i key
    rw [told_of_key key, key]
    simp
  · rename_i key
    rw [told_of_key key, key]
    by_cases h : a.value = []
    · simp [h]
    · simp [h]
  · rename_i noKind noScope noAliases noRelated noId
    rw [told_of_key rfl]
    simp [eq_false noKind, eq_false noScope, eq_false noAliases, eq_false noRelated, eq_false noId]

theorem Draft.applyOrKeep_eq (name : String) (d : Draft) (a : Attribute) : d.applyOrKeep name a = d.told a := by
  rw [applyOrKeep, apply_eq]
  cases h : a.complaint? name with
  | none => rfl
  | some message =>
    obtain ⟨noId, noKind, noScope, noAliases, noRelated⟩ := Attribute.silent_of_complaint? h
    simp [told, noId, noKind, noScope, noAliases, noRelated]

/-! ## All attributes -/

theorem getLast?_filterMap_cons {α β : Type} (f : α → Option β) (x : α) (xs : List α) :
    ((x :: xs).filterMap f).getLast? = (xs.filterMap f).getLast?.or (f x) := by
  rw [List.filterMap_cons]
  cases f x with
  | none => simp
  | some y => cases h : (xs.filterMap f).getLast? <;> simp [List.getLast?_cons, h]

theorem Draft.foldl_applyOrKeep (name : String) (as : List Attribute) (d : Draft) :
    as.foldl (applyOrKeep name) d =
      { id? := (as.filterMap Attribute.id?).getLast?.or d.id?
        kind := (as.filterMap Attribute.kind?).getLast?.getD d.kind
        scope := (as.filterMap Attribute.scope?).getLast?.getD d.scope
        aliases := d.aliases ++ as.flatMap Attribute.aliases
        related := d.related ++ as.flatMap Attribute.related } := by
  induction as generalizing d with
  | nil => simp
  | cons a as ih =>
    rw [List.foldl_cons, ih, applyOrKeep_eq]
    simp only [told, getLast?_filterMap_cons, Option.or_assoc, Option.getD_or, List.flatMap_cons,
      List.append_assoc]

end Interlink.Glossary
