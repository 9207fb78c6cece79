import ProofDesk.Forest

namespace ProofDesk.Forest

variable {α β : Type}

/-- Every value in postorder, with the number of trees right below it. -/
def ranked : Forest α → List (α × Nat)
  | nil => []
  | cons a below rest => below.ranked ++ (a, below.tops.length) :: rest.ranked

/-- The trees that the rows make, the last one first, from those built so far. -/
def rebuild : List (α × Nat) → List (Tree α) → List (Tree α)
  | [], built => built
  | (a, n) :: rows, built => rebuild rows (⟨a, ofTrees (built.take n).reverse⟩ :: built.drop n)

theorem length_trees (f : Forest α) : f.trees.length = f.tops.length := by
  induction f with
  | nil => rfl
  | cons a below rest _ ih => rw [trees, tops, List.length_cons, List.length_cons, ih]

theorem rebuild_ranked (f : Forest α) (rows : List (α × Nat)) (built : List (Tree α)) :
    rebuild (f.ranked ++ rows) built = rebuild rows (f.trees.reverse ++ built) := by
  induction f generalizing rows built with
  | nil => rfl
  | cons a below rest ihb ihr =>
    have hlength : below.tops.length = below.trees.reverse.length := by
      rw [List.length_reverse, length_trees]
    rw [ranked, List.append_assoc, List.cons_append, ihb, rebuild, hlength, List.take_left,
      List.drop_left, List.reverse_reverse, ofTrees_trees, ihr, trees, List.reverse_cons,
      List.append_assoc]
    rfl

theorem ranked_injective {f g : Forest α} (h : f.ranked = g.ranked) : f = g := by
  have hbuilt : ∀ f : Forest α, rebuild f.ranked [] = f.trees.reverse := by
    intro f
    have hf := rebuild_ranked f [] []
    rwa [List.append_nil, List.append_nil] at hf
  have htrees : f.trees = g.trees := by
    rw [← List.reverse_inj, ← hbuilt, h, hbuilt]
  rw [← ofTrees_trees f, htrees, ofTrees_trees]

@[simp] theorem length_ranked (f : Forest α) : f.ranked.length = f.size := by
  induction f with
  | nil => rfl
  | cons a below rest ihb ihr => simp [ranked, size, ihb, ihr]; omega

end ProofDesk.Forest
