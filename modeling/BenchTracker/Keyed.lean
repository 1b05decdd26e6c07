/-!
# Tables with keys in order

A table gives at most one value to each key, and lists its entries with the keys ascending. The
order is part of the type, so two tables that answer alike are equal.
-/

namespace BenchTracker

/-- Entries with strictly ascending keys. -/
structure Keyed (α : Type) where
  entries : List (String × α)
  ascending : entries.Pairwise fun a b => a.1 < b.1

namespace Keyed

variable {α β : Type}

def empty : Keyed α := ⟨[], .nil⟩

instance : Inhabited (Keyed α) := ⟨empty⟩

def keys (t : Keyed α) : List String := t.entries.map (·.1)

def values (t : Keyed α) : List α := t.entries.map (·.2)

def toList (t : Keyed α) : List (String × α) := t.entries

/-- The value that a list of entries gives to a key first. -/
def lookup (key : String) : List (String × α) → Option α
  | [] => none
  | (k, v) :: rest => if k = key then some v else lookup key rest

def get? (t : Keyed α) (key : String) : Option α := lookup key t.entries

def contains (t : Keyed α) (key : String) : Bool := (t.get? key).isSome

/-- Puts `f old` under the key, where `old` is the value there so far. -/
def alterEntries (key : String) (f : Option α → α) : List (String × α) → List (String × α)
  | [] => [(key, f none)]
  | (k, v) :: rest =>
    if key < k then (key, f none) :: (k, v) :: rest
    else if k = key then (k, f (some v)) :: rest
    else (k, v) :: alterEntries key f rest

theorem lt_of_not_lt_of_ne {a b : String} (h : ¬ a < b) (hne : b ≠ a) : b < a := by
  rcases Decidable.em (b < a) with hlt | hlt
  · exact hlt
  · exact absurd (String.le_antisymm (String.not_lt.1 h) (String.not_lt.1 hlt)) hne

theorem mem_alterEntries {key k : String} {f : Option α → α} {es : List (String × α)}
    (h : k ∈ (alterEntries key f es).map (·.1)) : k = key ∨ k ∈ es.map (·.1) := by
  induction es with
  | nil => simpa [alterEntries] using h
  | cons e r ih =>
    rw [alterEntries] at h
    split at h
    · simpa using h
    · split at h
      · exact .inr (by simpa using h)
      · simp only [List.map_cons, List.mem_cons] at h ⊢
        rcases h with h | h
        · exact .inr (.inl h)
        · rcases ih h with h | h
          · exact .inl h
          · exact .inr (.inr h)

theorem ascending_alterEntries (key : String) (f : Option α → α) {es : List (String × α)}
    (h : es.Pairwise fun a b => a.1 < b.1) :
    (alterEntries key f es).Pairwise fun a b => a.1 < b.1 := by
  induction es with
  | nil => simp [alterEntries]
  | cons e r ih =>
    have hr := List.pairwise_cons.1 h
    rw [alterEntries]
    split
    · refine List.pairwise_cons.2 ⟨fun b hb => ?_, h⟩
      rcases List.mem_cons.1 hb with rfl | hb
      · assumption
      · exact String.lt_trans ‹_› (hr.1 b hb)
    · split
      · exact List.pairwise_cons.2 ⟨fun b hb => hr.1 b hb, hr.2⟩
      · refine List.pairwise_cons.2 ⟨fun b hb => ?_, ih hr.2⟩
        rcases mem_alterEntries (List.mem_map_of_mem hb) with hk | hk
        · rw [hk]; exact lt_of_not_lt_of_ne ‹_› ‹_›
        · obtain ⟨b', hb', he⟩ := List.mem_map.1 hk
          exact he ▸ hr.1 b' hb'

/-- Puts `f old` under the key, where `old` is the value there so far. -/
def alter (t : Keyed α) (key : String) (f : Option α → α) : Keyed α :=
  ⟨alterEntries key f t.entries, ascending_alterEntries key f t.ascending⟩

/-- Sets the value of a key. -/
def insert (t : Keyed α) (key : String) (value : α) : Keyed α := t.alter key fun _ => value

/-- The table of a list of entries; of two entries with one key the later one counts. -/
def ofList (es : List (String × α)) : Keyed α := es.foldl (fun t e => t.insert e.1 e.2) empty

/-- All entries of both tables; where both have a key, `other` decides. -/
def override (t other : Keyed α) : Keyed α :=
  other.entries.foldl (fun t e => t.insert e.1 e.2) t

theorem ascending_map {f : String → α → β} {es : List (String × α)}
    (h : es.Pairwise fun a b => a.1 < b.1) :
    (es.map fun e => (e.1, f e.1 e.2)).Pairwise fun a b => a.1 < b.1 :=
  List.pairwise_map.2 h

/-- Replaces each value, keeping the keys. -/
def map (f : String → α → β) (t : Keyed α) : Keyed β :=
  ⟨t.entries.map fun e => (e.1, f e.1 e.2), ascending_map t.ascending⟩

/-- Leaves out the entries that `keep` rejects. -/
def filter (keep : String → α → Bool) (t : Keyed α) : Keyed α :=
  ⟨t.entries.filter fun e => keep e.1 e.2, t.ascending.filter _⟩

@[simp] theorem keys_map (f : String → α → β) (t : Keyed α) : (t.map f).keys = t.keys := by
  simp [keys, map]

theorem lookup_alterEntries_self (key : String) (f : Option α → α) {es : List (String × α)}
    (h : es.Pairwise fun a b => a.1 < b.1) :
    lookup key (alterEntries key f es) = some (f (lookup key es)) := by
  induction es with
  | nil => simp [alterEntries, lookup]
  | cons e r ih =>
    have hr := List.pairwise_cons.1 h
    rw [alterEntries]
    split
    · rename_i hlt
      have absent : ∀ es : List (String × α), (∀ b ∈ es, key < b.1) → lookup key es = none := by
        intro es hes
        induction es with
        | nil => rfl
        | cons b es ih =>
          have hb := hes b List.mem_cons_self
          rw [lookup, if_neg (fun he => String.lt_irrefl _ (he ▸ hb))]
          exact ih fun b hb => hes b (List.mem_cons_of_mem _ hb)
      have hnone : lookup key (e :: r) = none := absent _ fun b hb => by
        rcases List.mem_cons.1 hb with rfl | hb
        · exact hlt
        · exact String.lt_trans hlt (hr.1 b hb)
      rw [lookup, if_pos rfl]
      exact congrArg (fun o => some (f o)) hnone.symm
    · split
      · simp [lookup, *]
      · rw [lookup, lookup, if_neg ‹_›, if_neg ‹_›]
        exact ih hr.2

theorem lookup_alterEntries_of_ne {key key' : String} (hne : key' ≠ key) (f : Option α → α)
    (es : List (String × α)) : lookup key' (alterEntries key f es) = lookup key' es := by
  induction es with
  | nil => simp [alterEntries, lookup, hne.symm]
  | cons e r ih =>
    rw [alterEntries]
    split
    · rw [lookup, if_neg hne.symm]
    · split
      · rename_i _ he
        rw [lookup, lookup, if_neg (he ▸ hne.symm), if_neg (he ▸ hne.symm)]
      · rw [lookup, lookup, ih]

@[simp] theorem get?_alter_self (t : Keyed α) (key : String) (f : Option α → α) :
    (t.alter key f).get? key = some (f (t.get? key)) :=
  lookup_alterEntries_self key f t.ascending

theorem get?_alter_of_ne {key key' : String} (hne : key' ≠ key) (t : Keyed α)
    (f : Option α → α) : (t.alter key f).get? key' = t.get? key' :=
  lookup_alterEntries_of_ne hne f t.entries

end Keyed

end BenchTracker
