/-!
# Finite maps from texts

A `Table` holds its entries in strictly ascending key order, so two tables with the same look-ups
are equal (`Table.ext`) and listing one is listing it in order (`Table.keys_ascending`).
-/

namespace RunnerFleet

/-- A finite map with `String` keys, kept in strictly ascending key order. -/
structure Table (α : Type) where
  entries : List (String × α)
  ascending : (entries.map Prod.fst).Pairwise (· < ·)

namespace Table

variable {α β : Type}

instance [DecidableEq α] : DecidableEq (Table α) := fun s t =>
  decidable_of_iff (s.entries = t.entries)
    ⟨fun h => by cases s; cases t; cases h; rfl, fun h => h ▸ rfl⟩

instance [Repr α] : Repr (Table α) := ⟨fun t => reprPrec t.entries⟩

/-- The table without entries. -/
def empty : Table α := ⟨[], .nil⟩

instance : Inhabited (Table α) := ⟨empty⟩

/-! ## Entries in order -/

/-- The value beside the first entry with this key. -/
def lookup (key : String) : List (String × α) → Option α
  | [] => none
  | (k, v) :: rest => if k = key then some v else lookup key rest

/-- Replaces the entry of `key`, or puts a new one at its place in the order. -/
def insertEntry (key : String) (value : α) : List (String × α) → List (String × α)
  | [] => [(key, value)]
  | (k, v) :: rest =>
    if key < k then (key, value) :: (k, v) :: rest
    else if key = k then (key, value) :: rest
    else (k, v) :: insertEntry key value rest

theorem mem_keys_insertEntry {key k : String} {value : α} {l : List (String × α)} :
    k ∈ (insertEntry key value l).map Prod.fst ↔ k = key ∨ k ∈ l.map Prod.fst := by
  induction l with
  | nil => simp [insertEntry]
  | cons e rest ih =>
    obtain ⟨k', v'⟩ := e
    simp only [insertEntry]
    split
    · simp
    · split
      · next h => subst h; simp
      · simp only [List.map_cons, List.mem_cons, ih]
        constructor
        · rintro (h | h | h) <;> simp [h]
        · rintro (h | h | h) <;> simp [h]

theorem insertEntry_ascending {key : String} {value : α} {l : List (String × α)}
    (h : (l.map Prod.fst).Pairwise (· < ·)) :
    ((insertEntry key value l).map Prod.fst).Pairwise (· < ·) := by
  induction l with
  | nil => simp [insertEntry]
  | cons e rest ih =>
    obtain ⟨k', v'⟩ := e
    simp only [List.map_cons, List.pairwise_cons] at h
    simp only [insertEntry]
    split
    · next hlt =>
      simp only [List.map_cons, List.pairwise_cons, List.mem_cons, forall_eq_or_imp]
      exact ⟨⟨hlt, fun k hk => String.lt_trans hlt (h.1 k hk)⟩, h.1, h.2⟩
    · next hnlt =>
      split
      · next heq => subst heq; simpa only [List.map_cons, List.pairwise_cons] using h
      · next hne =>
        simp only [List.map_cons, List.pairwise_cons]
        refine ⟨fun k hk => ?_, ih h.2⟩
        rcases mem_keys_insertEntry.1 hk with rfl | hk
        · exact Decidable.by_contra fun hn =>
            hne (String.le_antisymm (String.not_lt.1 hn) (String.not_lt.1 hnlt))
        · exact h.1 k hk

theorem lookup_insertEntry {key k : String} {value : α} {l : List (String × α)} :
    lookup k (insertEntry key value l) = if k = key then some value else lookup k l := by
  induction l with
  | nil => simp only [insertEntry, lookup]; grind
  | cons e rest ih =>
    obtain ⟨k', v'⟩ := e
    simp only [insertEntry]
    split
    · simp only [lookup]; grind
    · split
      · simp only [lookup]; grind
      · simp only [lookup, ih]; grind

theorem lookup_eq_none_iff {k : String} {l : List (String × α)} :
    lookup k l = none ↔ k ∉ l.map Prod.fst := by
  induction l with
  | nil => simp [lookup]
  | cons e rest ih => obtain ⟨k', v'⟩ := e; simp only [lookup]; grind

theorem lookup_filter {k : String} {p : String → α → Bool} {l : List (String × α)}
    (h : (l.map Prod.fst).Pairwise (· < ·)) :
    lookup k (l.filter fun e => p e.1 e.2) = (lookup k l).filter (p k) := by
  induction l with
  | nil => rfl
  | cons e rest ih =>
    obtain ⟨k', v'⟩ := e
    simp only [List.map_cons, List.pairwise_cons] at h
    have hrest : k' = k → lookup k rest = none := fun hk =>
      lookup_eq_none_iff.2 fun hm => String.lt_irrefl k (hk ▸ h.1 k hm)
    simp only [List.filter_cons]
    split <;> simp only [lookup, ih h.2] <;> grind

theorem mem_iff_lookup {k : String} {v : α} {l : List (String × α)}
    (h : (l.map Prod.fst).Pairwise (· < ·)) : (k, v) ∈ l ↔ lookup k l = some v := by
  induction l with
  | nil => simp [lookup]
  | cons e rest ih =>
    obtain ⟨k', v'⟩ := e
    simp only [List.map_cons, List.pairwise_cons] at h
    have hrest : k' = k → (k, v) ∉ rest := fun hk hm =>
      String.lt_irrefl k (hk ▸ h.1 k (List.mem_map_of_mem (f := Prod.fst) hm))
    simp only [List.mem_cons, Prod.mk.injEq, lookup, ih h.2]
    grind

theorem entries_eq_of_lookup_eq : ∀ {l m : List (String × α)},
    (l.map Prod.fst).Pairwise (· < ·) → (m.map Prod.fst).Pairwise (· < ·) →
    (∀ k, lookup k l = lookup k m) → l = m
  | [], [], _, _, _ => rfl
  | [], (k, v) :: m, _, _, h => by simpa [lookup] using h k
  | (k, v) :: l, [], _, _, h => by simpa [lookup] using h k
  | (k, v) :: l, (k', v') :: m, hl, hm, h => by
    simp only [List.map_cons, List.pairwise_cons] at hl hm
    have hk : k = k' := by
      rcases Decidable.em (k = k') with hk | hk
      · exact hk
      · have h₁ : k ∈ m.map Prod.fst := by
          have := h k
          simp only [lookup, if_true, Ne.symm hk, if_false] at this
          exact Decidable.by_contra fun hn => by simp [lookup_eq_none_iff.2 hn] at this
        have h₂ : k' ∈ l.map Prod.fst := by
          have := h k'
          simp only [lookup, if_true, hk, if_false] at this
          exact Decidable.by_contra fun hn => by simp [lookup_eq_none_iff.2 hn] at this
        exact absurd (hl.1 k' h₂) (String.lt_asymm (hm.1 k h₁))
    subst hk
    have hv : v = v' := by simpa [lookup] using h k
    subst hv
    have hnl : lookup k l = none :=
      lookup_eq_none_iff.2 fun hm' => String.lt_irrefl k (hl.1 k hm')
    have hnm : lookup k m = none :=
      lookup_eq_none_iff.2 fun hm' => String.lt_irrefl k (hm.1 k hm')
    rw [entries_eq_of_lookup_eq hl.2 hm.2 fun j => by
      rcases Decidable.em (k = j) with rfl | hj
      · rw [hnl, hnm]
      · simpa [lookup, hj] using h j]

/-! ## Operations -/

/-- The value stored under `key`. -/
def get? (t : Table α) (key : String) : Option α := lookup key t.entries

/-- Whether `key` has a value. -/
def contains (t : Table α) (key : String) : Bool := (t.get? key).isSome

/-- Stores `value` under `key`, replacing what was there. -/
def insert (t : Table α) (key : String) (value : α) : Table α :=
  ⟨insertEntry key value t.entries, insertEntry_ascending t.ascending⟩

/-- Keeps the entries that `p` accepts. -/
def filter (t : Table α) (p : String → α → Bool) : Table α :=
  ⟨t.entries.filter fun e => p e.1 e.2,
    List.Pairwise.sublist (List.filter_sublist.map Prod.fst) t.ascending⟩

/-- Removes the entry of `key`. -/
def erase (t : Table α) (key : String) : Table α := t.filter fun k _ => k != key

/-- Replaces the value of `key`, if it has one, by `f` of it. -/
def modify (t : Table α) (key : String) (f : α → α) : Table α :=
  match t.get? key with
  | some v => t.insert key (f v)
  | none => t

/-- The keys, in ascending order. -/
def keys (t : Table α) : List String := t.entries.map Prod.fst

/-- The values, in the order of their keys. -/
def values (t : Table α) : List α := t.entries.map Prod.snd

/-- The number of entries. -/
def size (t : Table α) : Nat := t.entries.length

/-! ## What a look-up sees -/

@[ext] theorem ext {s t : Table α} (h : ∀ k, s.get? k = t.get? k) : s = t := by
  have := entries_eq_of_lookup_eq s.ascending t.ascending h
  cases s; cases t; cases this; rfl

theorem keys_ascending (t : Table α) : t.keys.Pairwise (· < ·) := t.ascending

theorem mem_entries {t : Table α} {k : String} {v : α} : (k, v) ∈ t.entries ↔ t.get? k = some v :=
  mem_iff_lookup t.ascending

theorem mem_keys {t : Table α} {k : String} : k ∈ t.keys ↔ t.contains k := by
  have := lookup_eq_none_iff (k := k) (l := t.entries)
  simp only [keys, contains, get?]
  cases h : lookup k t.entries <;> simp_all

@[simp] theorem get?_empty (k : String) : (empty : Table α).get? k = none := rfl

@[simp] theorem get?_insert (t : Table α) (key k : String) (v : α) :
    (t.insert key v).get? k = if k = key then some v else t.get? k := lookup_insertEntry

@[simp] theorem get?_filter (t : Table α) (p : String → α → Bool) (k : String) :
    (t.filter p).get? k = (t.get? k).filter (p k) := lookup_filter t.ascending

@[simp] theorem get?_erase (t : Table α) (key k : String) :
    (t.erase key).get? k = if k = key then none else t.get? k := by
  simp only [erase, get?_filter]
  split
  · next h => subst h; cases t.get? k <;> simp
  · next h => cases t.get? k <;> simp [h]

theorem get?_modify (t : Table α) (key k : String) (f : α → α) :
    (t.modify key f).get? k = if k = key then (t.get? k).map f else t.get? k := by
  unfold modify
  split
  · next v hv => rw [get?_insert]; split <;> simp_all
  · next hv => split <;> simp_all

end Table

end RunnerFleet
