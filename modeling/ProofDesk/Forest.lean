namespace ProofDesk

/-- An ordered forest of values. -/
inductive Forest (α : Type) where
  | nil
  | cons (value : α) (below rest : Forest α)
deriving DecidableEq, Repr

/-- A tree: its top value and the forest below it. -/
structure Tree (α : Type) where
  value : α
  below : Forest α
deriving DecidableEq, Repr

namespace Forest

variable {α β : Type}

def size : Forest α → Nat
  | nil => 0
  | cons _ below rest => below.size + rest.size + 1

def preorder : Forest α → List α
  | nil => []
  | cons a below rest => a :: (below.preorder ++ rest.preorder)

def postorder : Forest α → List α
  | nil => []
  | cons a below rest => below.postorder ++ a :: rest.postorder

/-- The values, the last tree first, each before those below it. -/
def fromLast : Forest α → List α
  | nil => []
  | cons a below rest => rest.fromLast ++ a :: below.fromLast

def tops : Forest α → List α
  | nil => []
  | cons a _ rest => a :: rest.tops

def trees : Forest α → List (Tree α)
  | nil => []
  | cons a below rest => ⟨a, below⟩ :: rest.trees

def ofTrees : List (Tree α) → Forest α
  | [] => nil
  | t :: rest => cons t.value t.below (ofTrees rest)

def ofValues : List α → Forest α
  | [] => nil
  | a :: rest => cons a nil (ofValues rest)

def append : Forest α → Forest α → Forest α
  | nil, g => g
  | cons a below rest, g => cons a below (rest.append g)

def map (f : α → β) : Forest α → Forest β
  | nil => nil
  | cons a below rest => cons (f a) (below.map f) (rest.map f)

/-- The first value in preorder with the property, and the forest below it. -/
def find? (p : α → Bool) : Forest α → Option (Tree α)
  | nil => none
  | cons a below rest => if p a then some ⟨a, below⟩ else (below.find? p).or (rest.find? p)

/-- The first value in preorder with the property, followed by the values above it, nearest
first. -/
def path? (p : α → Bool) : Forest α → Option (List α)
  | nil => none
  | cons a below rest =>
    if p a then some [a] else ((below.path? p).map (· ++ [a])).or (rest.path? p)

/-- Changes every tree whose top value has the property, and leaves what is below it to the
change. -/
def update (p : α → Bool) (f : Tree α → Tree α) : Forest α → Forest α
  | nil => nil
  | cons a below rest =>
    if p a then cons (f ⟨a, below⟩).value (f ⟨a, below⟩).below (rest.update p f)
    else cons a (below.update p f) (rest.update p f)

def eraseTops (p : α → Bool) : Forest α → Forest α
  | nil => nil
  | cons a below rest => if p a then rest.eraseTops p else cons a below (rest.eraseTops p)

/-- The tree at a path: a place among the trees, then a place among the trees below that one, and
so on. -/
def at? : Forest α → List Nat → Option (Tree α)
  | _, [] => none
  | f, [i] => f.trees[i]?
  | f, i :: path => (f.trees[i]?).bind fun t => t.below.at? path

@[simp] theorem length_preorder (f : Forest α) : f.preorder.length = f.size := by
  induction f with
  | nil => rfl
  | cons a below rest ihb ihr => simp [preorder, size, ihb, ihr]

@[simp] theorem length_postorder (f : Forest α) : f.postorder.length = f.size := by
  induction f with
  | nil => rfl
  | cons a below rest ihb ihr => simp [postorder, size, ihb, ihr]; omega

theorem postorder_perm_preorder (f : Forest α) : f.postorder.Perm f.preorder := by
  induction f with
  | nil => exact .nil
  | cons a below rest ihb ihr =>
    exact List.perm_middle.trans ((ihb.append ihr).cons a)

theorem fromLast_perm_preorder (f : Forest α) : f.fromLast.Perm f.preorder := by
  induction f with
  | nil => exact .nil
  | cons a below rest ihb ihr =>
    exact List.perm_middle.trans ((List.perm_append_comm.trans (ihb.append ihr)).cons a)

@[simp] theorem preorder_append (f g : Forest α) :
    (f.append g).preorder = f.preorder ++ g.preorder := by
  induction f with
  | nil => rfl
  | cons a below rest _ ih => simp [append, preorder, ih]

@[simp] theorem tops_append (f g : Forest α) : (f.append g).tops = f.tops ++ g.tops := by
  induction f with
  | nil => rfl
  | cons a below rest _ ih => simp [append, tops, ih]

@[simp] theorem preorder_map (f : α → β) (g : Forest α) :
    (g.map f).preorder = g.preorder.map f := by
  induction g with
  | nil => rfl
  | cons a below rest ihb ihr => simp [map, preorder, ihb, ihr]

@[simp] theorem preorder_ofValues (xs : List α) : (ofValues xs).preorder = xs := by
  induction xs with
  | nil => rfl
  | cons a rest ih => simp [ofValues, preorder, ih]

@[simp] theorem tops_ofValues (xs : List α) : (ofValues xs).tops = xs := by
  induction xs with
  | nil => rfl
  | cons a rest ih => simp [ofValues, tops, ih]

@[simp] theorem ofTrees_trees (f : Forest α) : ofTrees f.trees = f := by
  induction f with
  | nil => rfl
  | cons a below rest _ ih => rw [trees, ofTrees, ih]

theorem mem_preorder_of_find? {p : α → Bool} {f : Forest α} {t : Tree α} (h : f.find? p = some t) :
    t.value ∈ f.preorder ∧ p t.value = true := by
  induction f with
  | nil => simp [find?] at h
  | cons a below rest ihb ihr =>
    by_cases ha : p a = true
    · simp only [find?, ha, if_true, Option.some.injEq] at h
      simp [← h, preorder, ha]
    · rw [find?, if_neg ha] at h
      rcases Option.or_eq_some_iff.mp h with h | ⟨-, h⟩
      · simp [preorder, (ihb h).1, (ihb h).2]
      · simp [preorder, (ihr h).1, (ihr h).2]

theorem find?_eq_none_iff {p : α → Bool} {f : Forest α} :
    f.find? p = none ↔ ∀ a ∈ f.preorder, p a = false := by
  induction f with
  | nil => simp [find?, preorder]
  | cons a below rest ihb ihr =>
    by_cases ha : p a = true
    · simp [find?, preorder, ha]
    · simp [find?, preorder, ha, ihb, ihr, List.mem_append, or_imp, forall_and]

end Forest

end ProofDesk
