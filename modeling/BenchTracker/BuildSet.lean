/-!
# Sets of builds

A set of build numbers lists its members in ascending order. The order is part of the type, so two
sets with the same members are equal.
-/

namespace BenchTracker

/-- Build numbers without repetition. -/
structure BuildSet where
  numbers : List UInt64
  ascending : numbers.Pairwise (· < ·)

namespace BuildSet

def empty : BuildSet := ⟨[], .nil⟩

instance : Inhabited BuildSet := ⟨empty⟩

def contains (s : BuildSet) (build : UInt64) : Bool := s.numbers.contains build

theorem contains_iff {s : BuildSet} {build : UInt64} :
    s.contains build = true ↔ build ∈ s.numbers :=
  List.contains_iff_mem

/-- Puts a number in its place, unless it is there. -/
def insertNumber (build : UInt64) : List UInt64 → List UInt64
  | [] => [build]
  | b :: rest =>
    if build < b then build :: b :: rest
    else if b = build then b :: rest
    else b :: insertNumber build rest

theorem mem_insertNumber {b build : UInt64} {bs : List UInt64} :
    b ∈ insertNumber build bs ↔ b = build ∨ b ∈ bs := by
  induction bs with
  | nil => simp [insertNumber]
  | cons c rest ih =>
    rw [insertNumber]
    split
    · simp
    · split
      · simp [*]
      · rw [List.mem_cons, ih, List.mem_cons]
        exact or_left_comm

theorem ascending_insertNumber (build : UInt64) {bs : List UInt64}
    (h : bs.Pairwise (· < ·)) : (insertNumber build bs).Pairwise (· < ·) := by
  induction bs with
  | nil => simp [insertNumber]
  | cons c rest ih =>
    obtain ⟨hhead, hrest⟩ := List.pairwise_cons.1 h
    rw [insertNumber]
    split
    · rename_i hlt
      refine List.pairwise_cons.2 ⟨fun b hb => ?_, h⟩
      rcases List.mem_cons.1 hb with rfl | hb
      · exact hlt
      · exact UInt64.lt_trans hlt (hhead b hb)
    · split
      · exact h
      · rename_i hge hne
        refine List.pairwise_cons.2 ⟨fun b hb => ?_, ih hrest⟩
        rcases mem_insertNumber.1 hb with rfl | hb
        · exact UInt64.lt_of_le_of_ne (UInt64.not_lt.1 hge) hne
        · exact hhead b hb

/-- Adds a number. -/
def insert (s : BuildSet) (build : UInt64) : BuildSet :=
  ⟨insertNumber build s.numbers, ascending_insertNumber build s.ascending⟩

theorem contains_insert {s : BuildSet} {b build : UInt64} :
    (s.insert build).contains b = true ↔ b = build ∨ s.contains b = true := by
  rw [contains_iff, contains_iff]
  exact mem_insertNumber

/-- Sets with the same members are equal. -/
theorem ext_contains {s t : BuildSet}
    (h : ∀ build, s.contains build = true ↔ t.contains build = true) : s = t := by
  have nodup (s : BuildSet) : s.numbers.Nodup := s.ascending.imp UInt64.ne_of_lt
  have hperm : s.numbers.Perm t.numbers :=
    (List.perm_ext_iff_of_nodup (nodup s) (nodup t)).2 fun build => by
      rw [← contains_iff, h, contains_iff]
  have heq : s.numbers = t.numbers :=
    List.Perm.eq_of_pairwise (fun a b _ _ hab hba => absurd hab (UInt64.lt_asymm hba))
      s.ascending t.ascending hperm
  cases s
  cases t
  cases heq
  rfl

end BuildSet

end BenchTracker
