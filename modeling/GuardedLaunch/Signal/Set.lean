/-!
# Sets of signals

Which signals a process ignores, handles or blocks. A set is kept as the
ascending list of its members, so that equal sets are equal values.

- `SignalSet`: the type, with its membership.
- `SignalSet.insert`, `SignalSet.erase`, `SignalSet.ofList`: its operations.
-/

namespace GuardedLaunch

/-- A set of signal numbers. -/
@[ext] structure SignalSet where
  toList : List Nat
  ascending : toList.Pairwise (· < ·)
  deriving DecidableEq

namespace SignalSet

instance : Membership Nat SignalSet where
  mem set n := n ∈ set.toList

instance (n : Nat) (set : SignalSet) : Decidable (n ∈ set) :=
  inferInstanceAs (Decidable (n ∈ set.toList))

/-- The set without members. -/
def empty : SignalSet := ⟨[], .nil⟩

instance : EmptyCollection SignalSet := ⟨empty⟩

/-- Put a number at its place in an ascending list that may hold it already. -/
def insertAscending (n : Nat) : List Nat → List Nat
  | [] => [n]
  | m :: rest =>
    if n < m then n :: m :: rest
    else if n = m then m :: rest
    else m :: insertAscending n rest

theorem mem_insertAscending {k n : Nat} {numbers : List Nat} :
    k ∈ insertAscending n numbers ↔ k = n ∨ k ∈ numbers := by
  induction numbers with
  | nil => simp [insertAscending]
  | cons m rest ih =>
    unfold insertAscending
    split
    · simp
    · split
      · rename_i h
        simp [h]
      · simp only [List.mem_cons, ih]
        exact or_left_comm

theorem pairwise_insertAscending (n : Nat) {numbers : List Nat}
    (h : numbers.Pairwise (· < ·)) : (insertAscending n numbers).Pairwise (· < ·) := by
  induction numbers with
  | nil => simp [insertAscending]
  | cons m rest ih =>
    obtain ⟨below, ascending⟩ := List.pairwise_cons.mp h
    unfold insertAscending
    split
    · rename_i lt
      refine List.pairwise_cons.mpr ⟨fun k hk => ?_, h⟩
      rcases List.mem_cons.mp hk with rfl | hk
      · exact lt
      · exact Nat.lt_trans lt (below k hk)
    · split
      · exact h
      · refine List.pairwise_cons.mpr ⟨fun k hk => ?_, ih ascending⟩
        rcases mem_insertAscending.mp hk with rfl | hk
        · omega
        · exact below k hk

/-- The set with one more member. -/
def insert (set : SignalSet) (n : Nat) : SignalSet where
  toList := insertAscending n set.toList
  ascending := pairwise_insertAscending n set.ascending

/-- The set without a member. -/
def erase (set : SignalSet) (n : Nat) : SignalSet where
  toList := set.toList.filter (· ≠ n)
  ascending := set.ascending.filter _

/-- The set of the numbers in a list. -/
def ofList (numbers : List Nat) : SignalSet :=
  numbers.foldl insert ∅

@[simp] theorem not_mem_empty (n : Nat) : n ∉ (∅ : SignalSet) :=
  List.not_mem_nil

@[simp] theorem mem_insert {k n : Nat} {set : SignalSet} :
    k ∈ set.insert n ↔ k = n ∨ k ∈ set :=
  mem_insertAscending

@[simp] theorem mem_erase {k n : Nat} {set : SignalSet} :
    k ∈ set.erase n ↔ k ∈ set ∧ k ≠ n := by
  show k ∈ set.toList.filter (· ≠ n) ↔ k ∈ set.toList ∧ k ≠ n
  simp

@[simp] theorem mem_ofList {k : Nat} {numbers : List Nat} :
    k ∈ ofList numbers ↔ k ∈ numbers := by
  suffices ∀ set : SignalSet, k ∈ numbers.foldl insert set ↔ k ∈ set ∨ k ∈ numbers by
    simpa [ofList] using this ∅
  induction numbers with
  | nil => simp
  | cons n rest ih =>
    intro set
    simp only [List.foldl_cons, ih, mem_insert, List.mem_cons, or_assoc, or_left_comm]

/-- A set is determined by its members. -/
theorem eq_of_mem_iff {s t : SignalSet} (h : ∀ n, n ∈ s ↔ n ∈ t) : s = t := by
  have nodup (u : SignalSet) : u.toList.Nodup := u.ascending.imp Nat.ne_of_lt
  have perm : s.toList.Perm t.toList := (List.perm_ext_iff_of_nodup (nodup s) (nodup t)).mpr @h
  have antisymm (a b : Nat) (_ : a ∈ s.toList) (_ : b ∈ t.toList) (hab : a < b) (hba : b < a) :
      a = b := absurd hab (Nat.lt_asymm hba)
  exact SignalSet.ext (List.Perm.eq_of_pairwise antisymm s.ascending t.ascending perm)

end SignalSet

end GuardedLaunch
