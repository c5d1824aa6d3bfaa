/-! # Indexes

    An index leads from a key to the position of the declaration that has the key, so a
    reference need not be compared with all declarations.  It is filled in the order of
    declaration.

    Main statement: an index agrees with the keys that were entered as long as each of
    them was new (`Index.Agrees.insert`).  It then leads to a position exactly if the key
    stands there.
-/

namespace InjectionPlan

/-- For each key that was entered, the position that it leads to. -/
structure Index where
  /-- The keys with their positions, the last one first. -/
  entries : List (String × Nat)
deriving DecidableEq, Repr

namespace Index

variable {ix : Index} {k : String} {ks : List String} {n : Nat}

/-- The index without entries. -/
def empty : Index := ⟨[]⟩

/-- The index with one more entry. -/
def insert (ix : Index) (k : String) (n : Nat) : Index := ⟨(k, n) :: ix.entries⟩

/-- The index of a list of keys. -/
def ofKeys (ks : List String) : Index := ⟨ks.zipIdx.reverse⟩

/-- The position that a key leads to. -/
def position? (ix : Index) (k : String) : Option Nat := ix.entries.lookup k

@[simp] theorem position?_empty (k : String) : empty.position? k = none := rfl

@[simp] theorem position?_insert_self : (ix.insert k n).position? k = some n := by
  simp [position?, insert]

theorem position?_insert_of_ne {k' : String} (h : k' ≠ k) :
    (ix.insert k n).position? k' = ix.position? k' := by
  have hne : (k' == k) = false := beq_eq_false_iff_ne.2 h
  rw [position?, insert, List.lookup_cons, hne]
  rfl

/-- A key leads to a position exactly if it stands there. -/
def Agrees (ix : Index) (ks : List String) : Prop :=
  ∀ k i, ix.position? k = some i ↔ ks[i]? = some k

theorem agrees_empty : empty.Agrees [] := by
  intro k i
  simp

/-- A key leads somewhere exactly if it is one of the list. -/
theorem Agrees.isSome_position?_iff (h : ix.Agrees ks) :
    (ix.position? k).isSome = true ↔ k ∈ ks := by
  rw [Option.isSome_iff_exists, List.mem_iff_getElem?]
  exact exists_congr (h k)

/-- The keys decide where an index leads that agrees with them. -/
theorem Agrees.position?_eq {ix' : Index} (h : ix.Agrees ks) (h' : ix'.Agrees ks) (k : String) :
    ix.position? k = ix'.position? k := by
  ext i
  rw [h k i, h' k i]

/-- A key that is new and is entered at the end of the list leads there. -/
theorem Agrees.insert (h : ix.Agrees ks) (hnew : ix.position? k = none) :
    (ix.insert k ks.length).Agrees (ks ++ [k]) := by
  intro k' i
  have hread : (ks ++ [k])[i]? = some k' ↔ ks[i]? = some k' ∨ (i = ks.length ∧ k = k') := by
    grind
  by_cases hk : k' = k
  · have hother : ks[i]? ≠ some k := by
      rw [Ne, ← h k i, hnew]
      exact nofun
    rw [hread, hk, position?_insert_self, Option.some.injEq]
    simp [hother, eq_comm]
  · rw [hread, position?_insert_of_ne hk, h k' i]
    simp [Ne.symm hk]

/-- No key stands at two positions of the list, since it would lead to both. -/
theorem Agrees.nodup (h : ix.Agrees ks) : ks.Nodup := by
  rw [List.Nodup, List.pairwise_iff_getElem]
  intro i j hi hj hij hsame
  have hleft : ix.position? ks[i] = some i := (h _ i).2 (List.getElem?_eq_getElem hi)
  have hright : ix.position? ks[j] = some j := (h _ j).2 (List.getElem?_eq_getElem hj)
  rw [hsame, hright, Option.some.injEq] at hleft
  omega

end Index

end InjectionPlan
