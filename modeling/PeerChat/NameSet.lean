/-!
Finite sets of names, kept as their members in ascending order. Two sets with the same members are equal, and
the order is that of the code points, which is also the order of the UTF-8 bytes.
-/

namespace PeerChat

/-- A finite set of names. -/
structure NameSet where
  /-- The members, ascending and without repetition. -/
  names : List String
  sorted : names.Pairwise (· < ·)
deriving DecidableEq, Repr

namespace NameSet

/-! ### Operations -/

def empty : NameSet := ⟨[], List.Pairwise.nil⟩

instance : EmptyCollection NameSet := ⟨empty⟩
instance : Inhabited NameSet := ⟨empty⟩

def contains (set : NameSet) (name : String) : Bool := set.names.contains name

instance : Membership String NameSet := ⟨fun set name => name ∈ set.names⟩

theorem mem_def {set : NameSet} {name : String} : name ∈ set ↔ name ∈ set.names := Iff.rfl

@[simp] theorem contains_iff {set : NameSet} {name : String} : set.contains name = true ↔ name ∈ set := by
  simp [contains, mem_def]

@[simp] theorem not_mem_empty (name : String) : name ∉ (∅ : NameSet) := List.not_mem_nil

instance (name : String) (set : NameSet) : Decidable (name ∈ set) :=
  decidable_of_iff (set.contains name = true) contains_iff

/-- The ascending list with `name` put at its place, unless it is there already. -/
def insertName (name : String) : List String → List String
  | [] => [name]
  | n :: ns => if name < n then name :: n :: ns else if name = n then n :: ns else n :: insertName name ns

theorem mem_insertName {x name : String} {ns : List String} :
    x ∈ insertName name ns ↔ x = name ∨ x ∈ ns := by
  induction ns with
  | nil => simp [insertName]
  | cons n ns ih =>
    unfold insertName
    split
    · simp
    · split
      · next h => subst h; simp
      · simp only [List.mem_cons, ih]
        constructor
        · rintro (h | h | h) <;> simp [h]
        · rintro (h | h | h) <;> simp [h]

theorem pairwise_insertName {name : String} {ns : List String} (h : ns.Pairwise (· < ·)) :
    (insertName name ns).Pairwise (· < ·) := by
  induction ns with
  | nil => simp [insertName]
  | cons n ns ih =>
    rw [List.pairwise_cons] at h
    unfold insertName
    split
    · next hlt =>
      refine List.pairwise_cons.2 ⟨fun m hm => ?_, List.pairwise_cons.2 h⟩
      rcases List.mem_cons.1 hm with rfl | hm
      · exact hlt
      · exact String.lt_trans hlt (h.1 m hm)
    · split
      · exact List.pairwise_cons.2 h
      · next hlt hne =>
        refine List.pairwise_cons.2 ⟨fun m hm => ?_, ih h.2⟩
        rcases mem_insertName.1 hm with rfl | hm
        · exact Decidable.byContradiction fun hn => hne (String.le_antisymm (String.not_lt.1 hn) (String.not_lt.1 hlt))
        · exact h.1 m hm

def insert (set : NameSet) (name : String) : NameSet :=
  ⟨insertName name set.names, pairwise_insertName set.sorted⟩

@[simp] theorem mem_insert {set : NameSet} {x name : String} : x ∈ set.insert name ↔ x = name ∨ x ∈ set :=
  mem_insertName

def erase (set : NameSet) (name : String) : NameSet :=
  ⟨set.names.filter (· ≠ name), set.sorted.filter _⟩

@[simp] theorem mem_erase {set : NameSet} {x name : String} : x ∈ set.erase name ↔ x ∈ set ∧ x ≠ name := by
  simp [mem_def, erase]

/-- The members of a list, once each. -/
def ofList (names : List String) : NameSet := names.foldl insert ∅

/-! ### Equality -/

/-- Ascending lists with the same members are equal. -/
theorem eq_of_pairwise_of_mem {as bs : List String} (ha : as.Pairwise (· < ·)) (hb : bs.Pairwise (· < ·))
    (h : ∀ x, x ∈ as ↔ x ∈ bs) : as = bs := by
  induction as generalizing bs with
  | nil =>
    cases bs with
    | nil => rfl
    | cons b bs => exact absurd ((h b).2 (List.mem_cons_self ..)) (List.not_mem_nil)
  | cons a as ih =>
    cases bs with
    | nil => exact absurd ((h a).1 (List.mem_cons_self ..)) (List.not_mem_nil)
    | cons b bs =>
      rw [List.pairwise_cons] at ha hb
      have hab : a = b := by
        rcases List.mem_cons.1 ((h a).1 (List.mem_cons_self ..)) with rfl | hm
        · rfl
        · rcases List.mem_cons.1 ((h b).2 (List.mem_cons_self ..)) with rfl | hm'
          · rfl
          · exact absurd (String.lt_trans (hb.1 a hm) (ha.1 b hm')) (String.lt_irrefl b)
      subst hab
      refine congrArg (a :: ·) (ih ha.2 hb.2 fun x => ?_)
      constructor
      · intro hx
        rcases List.mem_cons.1 ((h x).1 (List.mem_cons_of_mem _ hx)) with rfl | hm
        · exact absurd (ha.1 x hx) (String.lt_irrefl x)
        · exact hm
      · intro hx
        rcases List.mem_cons.1 ((h x).2 (List.mem_cons_of_mem _ hx)) with rfl | hm
        · exact absurd (hb.1 x hx) (String.lt_irrefl x)
        · exact hm

/-- Sets with the same members are equal. -/
theorem eq_of_mem {s t : NameSet} (h : ∀ x, x ∈ s ↔ x ∈ t) : s = t := by
  cases s; cases t
  simp only [NameSet.mk.injEq]
  exact eq_of_pairwise_of_mem (by assumption) (by assumption) h

end NameSet

end PeerChat
