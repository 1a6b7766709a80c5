/-
  The way from the root of a tree down to a node.

  * `ContentTree.way`: the nodes on it; `way_of_parent_eq_none`, `way_of_parent`: it grows by
    one node at each level, and so does `depth`.
  * `Numbered.induction`: what holds of the root, and of a node if it holds of its parent, holds
    of all nodes.
  * `Holds`: a node stands at the head of a branch; `forall₂_children`: its children stand at
    the heads of the branches below it, in order.
-/
import Mathlib.Data.List.Forall2
import Mathlib.Logic.Function.Iterate
import CourseSite.Proofs.Content.Numbering

namespace CourseSite.ContentTree

variable {tree : ContentTree} {node parent : Node}

/-- The nodes on the way from the root down to a node, both included. -/
def way (tree : ContentTree) (node : Node) : List Node :=
  (node :: tree.ancestorsWithin tree.size node).reverse

/-! ## Ways -/

theorem ancestorsWithin_of_parent_eq_none (h : node.parent = none) (fuel : Nat) :
    tree.ancestorsWithin fuel node = [] := by
  cases fuel <;> simp [ancestorsWithin, parent?, h]

theorem way_of_parent_eq_none (h : node.parent = none) : tree.way node = [node] := by
  rw [way, ancestorsWithin_of_parent_eq_none h]; rfl

theorem length_way (tree : ContentTree) (node : Node) :
    (tree.way node).length = tree.depth node + 1 := by
  rw [way, depth, List.length_reverse, List.length_cons]

/-- The nodes on the way below the root. -/
def descent (tree : ContentTree) (node : Node) : List Node := (tree.way node).tail

theorem length_descent (tree : ContentTree) (node : Node) :
    (tree.descent node).length = tree.depth node := by
  rw [descent, List.length_tail, length_way, Nat.add_sub_cancel]

theorem descent_of_parent_eq_none (h : node.parent = none) : tree.descent node = [] := by
  rw [descent, way_of_parent_eq_none h]; rfl

namespace Numbered
variable (numbered : tree.Numbered)
include numbered

theorem parent?_of_parent (hnode : tree.node? node.id = some node)
    (hparent : tree.node? parent.id = some parent) (h : node.parent = some parent.id) :
    tree.parent? node = some parent ∧ parent.id < node.id := by
  refine ⟨?_, (numbered.listed hnode h).1⟩
  rw [parent?, h]; exact hparent

theorem root_or_child (hnode : tree.node? node.id = some node) :
    node.parent = none ∨
      ∃ parent, tree.node? parent.id = some parent ∧ node.parent = some parent.id ∧
        parent.id < node.id := by
  cases hp : node.parent with
  | none => exact .inl rfl
  | some p =>
    obtain ⟨hlt, parent, hparent, -⟩ := numbered.listed hnode hp
    have hid := numbered.id_eq hparent
    subst hid
    exact .inr ⟨parent, hparent, rfl, hlt⟩

/-- **Induction from the root.** -/
theorem induction {P : Node → Prop}
    (root : ∀ node, tree.node? node.id = some node → node.parent = none → P node)
    (child : ∀ parent node, tree.node? parent.id = some parent → tree.node? node.id = some node →
      node.parent = some parent.id → P parent → P node)
    (hnode : tree.node? node.id = some node) : P node := by
  induction hid : node.id using Nat.strongRecOn generalizing node with
  | _ id ih =>
    subst hid
    rcases numbered.root_or_child hnode with hp | ⟨parent, hparent, hp, hlt⟩
    · exact root node hnode hp
    · exact child parent node hparent hnode hp (ih parent.id hlt hparent rfl)

/-- No way up is longer than the number of the node tells. -/
theorem ancestorsWithin_eq (hnode : tree.node? node.id = some node) (fuel fuel' : Nat)
    (h : node.id < fuel) (h' : node.id < fuel') :
    tree.ancestorsWithin fuel node = tree.ancestorsWithin fuel' node := by
  refine numbered.induction (P := fun node => ∀ fuel fuel', node.id < fuel → node.id < fuel' →
    tree.ancestorsWithin fuel node = tree.ancestorsWithin fuel' node) ?_ ?_ hnode fuel fuel' h h'
  · intro node _ hp fuel fuel' h h'
    obtain ⟨fuel, rfl⟩ := Nat.exists_eq_add_of_lt h
    obtain ⟨fuel', rfl⟩ := Nat.exists_eq_add_of_lt h'
    simp only [ancestorsWithin, parent?, hp, Option.bind_none]
  · intro parent node hparent hnode hp ih fuel fuel' h h'
    obtain ⟨hup, hlt⟩ := numbered.parent?_of_parent hnode hparent hp
    obtain ⟨fuel, rfl⟩ := Nat.exists_eq_add_of_lt h
    obtain ⟨fuel', rfl⟩ := Nat.exists_eq_add_of_lt h'
    simp only [ancestorsWithin, hup]
    exact congrArg (parent :: ·) (ih _ _ (by omega) (by omega))

theorem ancestorsWithin_of_parent (hnode : tree.node? node.id = some node)
    (hparent : tree.node? parent.id = some parent) (h : node.parent = some parent.id) :
    tree.ancestorsWithin tree.size node = parent :: tree.ancestorsWithin tree.size parent := by
  obtain ⟨hup, hlt⟩ := numbered.parent?_of_parent hnode hparent h
  have hsize := lt_size_of_node? hnode
  rw [numbered.ancestorsWithin_eq hnode _ (tree.size + 1) hsize (by omega), ancestorsWithin, hup]

theorem way_of_parent (hnode : tree.node? node.id = some node)
    (hparent : tree.node? parent.id = some parent) (h : node.parent = some parent.id) :
    tree.way node = tree.way parent ++ [node] := by
  rw [way, numbered.ancestorsWithin_of_parent hnode hparent h, List.reverse_cons]; rfl

theorem descent_of_parent (hnode : tree.node? node.id = some node)
    (hparent : tree.node? parent.id = some parent) (h : node.parent = some parent.id) :
    tree.descent node = tree.descent parent ++ [node] := by
  have hne : tree.way parent ≠ [] := by simp [way]
  rw [descent, numbered.way_of_parent hnode hparent h, List.tail_append_of_ne_nil hne]; rfl

theorem depth_of_parent (hnode : tree.node? node.id = some node)
    (hparent : tree.node? parent.id = some parent) (h : node.parent = some parent.id) :
    tree.depth node = tree.depth parent + 1 := by
  rw [← length_descent, ← length_descent, numbered.descent_of_parent hnode hparent h,
    List.length_append, List.length_singleton]

theorem root?_eq (hnode : tree.node? node.id = some node) (h : node.parent = none) :
    tree.root? = some node := by
  have hid : node.id = 0 := (numbered.parent_eq_none_iff hnode).1 h
  rw [root?, List.head?_eq_getElem?, ← hid]; exact hnode

/-- The way up from parent to parent ends at the root after as many steps as the node is deep. -/
theorem iterate_parent? (hnode : tree.node? node.id = some node) :
    (fun above => above.bind tree.parent?)^[tree.depth node] (some node) = tree.root? := by
  refine numbered.induction (P := fun node =>
    (fun above => above.bind tree.parent?)^[tree.depth node] (some node) = tree.root?) ?_ ?_ hnode
  · intro node hnode h
    rw [depth, ancestorsWithin_of_parent_eq_none h, numbered.root?_eq hnode h]; rfl
  · intro parent node hparent hnode h ih
    rw [numbered.depth_of_parent hnode hparent h, Function.iterate_succ_apply, Option.bind_some,
      (numbered.parent?_of_parent hnode hparent h).1]
    exact ih

end Numbered

/-! ## Branches -/

/-- The node stands at the head of the branch. -/
structure Holds (tree : ContentTree) (node : Node) (branch : Branch) : Prop where
  known : tree.node? node.id = some node
  contains : tree.Contains node.id (number node.id node.parent node.position branch)

namespace Holds
variable {branch : Branch}

theorem eq_mk (h : tree.Holds node branch) :
    node = ⟨node.id, branch.page, headIds (node.id + 1) branch.branches, node.parent,
      node.position⟩ := by
  obtain ⟨page, branches⟩ := branch
  have hhead := h.contains 0 _ rfl
  rw [Nat.add_zero, h.known] at hhead
  exact Option.some.inj hhead

theorem page_eq (h : tree.Holds node branch) : node.page = branch.page := by
  rw [h.eq_mk]

theorem children_eq_nil (h : tree.Holds node branch) (hb : branch.branches = []) :
    node.children = [] := by
  rw [h.eq_mk, hb]; rfl

theorem forall₂_headIds {next position p : Nat} :
    ∀ {branches}, tree.Contains next (numberAll next p position branches) →
      List.Forall₂ (fun id below => ∃ child, tree.node? id = some child ∧ tree.Holds child below)
        (headIds next branches) branches
  | [], _ => .nil
  | .mk page below :: branches, h => by
    have hleft := h.left
    have hright := h.right
    rw [length_number] at hright
    have hhead := hleft 0 _ rfl
    rw [Nat.add_zero] at hhead
    exact .cons ⟨_, hhead, hhead, hleft⟩ (forall₂_headIds hright)

/-- The children of a node stand at the heads of the branches below it. -/
theorem forall₂_children (h : tree.Holds node branch) :
    List.Forall₂ (fun id below => ∃ child, tree.node? id = some child ∧ tree.Holds child below)
      node.children branch.branches := by
  obtain ⟨page, branches⟩ := branch
  have hchildren : node.children = headIds (node.id + 1) branches := by rw [h.eq_mk]; rfl
  rw [hchildren]
  exact forall₂_headIds h.contains.tail

end Holds

theorem exists_of_forall₂ {α β : Type} {R : α → β → Prop} {k : Nat} {a : α} {l : List α}
    {l' : List β} (h : List.Forall₂ R l l') (hk : l[k]? = some a) :
    ∃ b, l'[k]? = some b ∧ R a b := by
  induction h generalizing k with
  | nil => simp at hk
  | cons hab _ ih =>
    cases k with
    | zero => cases hk; exact ⟨_, rfl, hab⟩
    | succ k => exact ih hk

/-- **Induction along branches.** What holds of the root and its branch, and of a child and its
    branch if it holds of the parent and its branch, holds of every node and some branch. -/
theorem exists_holds {branch : Branch} {root : Path} {P : Node → Branch → Prop}
    (first : ∀ node : Node, (ofBranch branch root).Holds node branch → node.parent = none →
      P node branch)
    (child : ∀ (parent node : Node) (k : Nat) (above below : Branch),
      (ofBranch branch root).Holds parent above → (ofBranch branch root).Holds node below →
      node.parent = some parent.id → above.branches[k]? = some below → P parent above →
      P node below)
    (hnode : (ofBranch branch root).node? node.id = some node) :
    ∃ below, (ofBranch branch root).Holds node below ∧ P node below := by
  have numbered := numbered_ofBranch branch root
  refine numbered.induction
    (P := fun node => ∃ below, (ofBranch branch root).Holds node below ∧ P node below) ?_ ?_ hnode
  · intro node hnode h
    have hholds : (ofBranch branch root).Holds node branch := by
      have hid : node.id = 0 := (numbered.parent_eq_none_iff hnode).1 h
      have hhead : (ofBranch branch root).root? = some node := numbered.root?_eq hnode h
      refine ⟨hnode, ?_⟩
      obtain ⟨page, branches⟩ := branch
      cases hhead
      intro i other hother
      rw [hid, Nat.zero_add]; exact hother
    exact ⟨branch, hholds, first node hholds h⟩
  · intro parent node hparent hnode h ⟨above, habove, hP⟩
    obtain ⟨-, parent', hparent', hplace⟩ := numbered.listed hnode h
    rw [hparent] at hparent'
    cases hparent'
    obtain ⟨below, hbelow, child', hchild', hholds⟩ :=
      exists_of_forall₂ habove.forall₂_children hplace
    rw [hnode] at hchild'
    cases hchild'
    exact ⟨below, hholds, child parent node _ above below habove hholds h hbelow hP⟩

end CourseSite.ContentTree
