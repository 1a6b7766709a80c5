/-
  How the nodes of a loaded tree are numbered.

  * `ContentTree.Numbered`: every node stands at its number; the root alone has no
    parent; a parent comes before its children and lists each of them at its place,
    in ascending order; the walk from the root passes all nodes by number.
  * `numbered_ofBranch`: the tree of any branch is numbered.
  * `numbered_of_load`: hence every tree that is loaded.
-/
import CourseSite.Proofs.Content.Branch

namespace CourseSite.ContentTree

/-- The numbers of the nodes fit together. -/
structure Numbered (tree : ContentTree) : Prop where
  id_eq : ∀ {i node}, tree.node? i = some node → node.id = i
  size_pos : 0 < tree.size
  parent_eq_none_iff : ∀ {i node}, tree.node? i = some node → (node.parent = none ↔ i = 0)
  listed : ∀ {i node p}, tree.node? i = some node → node.parent = some p →
    p < i ∧ ∃ parent, tree.node? p = some parent ∧ parent.children[node.position]? = some i
  child : ∀ {p parent k c}, tree.node? p = some parent → parent.children[k]? = some c →
    ∃ child, tree.node? c = some child ∧ child.parent = some p ∧ child.position = k
  ascending : ∀ {p parent}, tree.node? p = some parent → parent.children.Pairwise (· < ·)
  preorder_eq : tree.preorder = List.range tree.size

/-! ## Numbers -/

mutual

/-- The nodes of a branch have successive numbers. -/
theorem id_number {id position i : Nat} {parent : Option Nat} {node : Node} :
    ∀ branch, (number id parent position branch)[i]? = some node → node.id = id + i
  | .mk _ branches, h => by
    cases i with
    | zero => simp only [number, List.getElem?_cons_zero, Option.some.injEq] at h; rw [← h]; rfl
    | succ i =>
      simp only [number, List.getElem?_cons_succ] at h
      rw [id_numberAll branches h]; omega

theorem id_numberAll {next parent position i : Nat} {node : Node} :
    ∀ branches, (numberAll next parent position branches)[i]? = some node → node.id = next + i
  | [], h => by simp [numberAll] at h
  | branch :: branches, h => by
    simp only [numberAll, List.getElem?_append, length_number] at h
    split at h
    · exact id_number branch h
    · rw [id_numberAll branches h]; omega

end

theorem le_of_mem_headIds {c : Nat} : ∀ {next : Nat} {branches}, c ∈ headIds next branches → next ≤ c
  | _, [], h => by simp [headIds] at h
  | next, branch :: branches, h => by
    rcases List.mem_cons.1 h with rfl | h
    · exact Nat.le_refl _
    · exact Nat.le_trans (Nat.le_add_right ..) (le_of_mem_headIds h)

theorem headIds_ascending : ∀ (next : Nat) branches, (headIds next branches).Pairwise (· < ·)
  | _, [] => .nil
  | next, branch :: branches => by
    refine .cons (fun c hc => ?_) (headIds_ascending _ branches)
    have := le_of_mem_headIds hc
    have := branch.size_pos
    omega

/-! ## Parents and children -/

/-- The node stands among the children of another one. -/
def Below (nodes : List Node) (node : Node) : Prop :=
  ∃ above ∈ nodes, node.parent = some above.id ∧ above.id < node.id ∧
    above.children[node.position]? = some node.id

theorem Below.mono {nodes nodes' : List Node} {node : Node} (h : Below nodes node)
    (sub : ∀ n ∈ nodes, n ∈ nodes') : Below nodes' node := by
  obtain ⟨above, hm, h⟩ := h; exact ⟨above, sub above hm, h⟩

mutual

/-- A node of a branch is its head or stands among the children of another one. -/
theorem up_number {id position : Nat} {parent : Option Nat} {node : Node} :
    ∀ branch, node ∈ number id parent position branch →
      (node.id = id ∧ node.parent = parent ∧ node.position = position) ∨
        Below (number id parent position branch) node
  | .mk page branches, h => by
    rcases List.mem_cons.1 h with rfl | h
    · exact Or.inl ⟨rfl, rfl, rfl⟩
    · refine Or.inr ?_
      rcases up_numberAll branches h with ⟨hid, hp, -, hc⟩ | hb
      · exact ⟨_, List.mem_cons_self, hp, hid, by simpa using hc⟩
      · exact hb.mono fun n hn => List.mem_cons_of_mem _ hn

theorem up_numberAll {next parent position : Nat} {node : Node} :
    ∀ branches, node ∈ numberAll next parent position branches →
      (next ≤ node.id ∧ node.parent = some parent ∧ position ≤ node.position ∧
          (headIds next branches)[node.position - position]? = some node.id) ∨
        Below (numberAll next parent position branches) node
  | [], h => by simp [numberAll] at h
  | branch :: branches, h => by
    rcases List.mem_append.1 h with h | h
    · rcases up_number branch h with ⟨hid, hp, hpos⟩ | hb
      · exact Or.inl ⟨by omega, hp, by omega, by simp [hpos, headIds, hid]⟩
      · exact Or.inr (hb.mono fun n hn => List.mem_append_left _ hn)
    · rcases up_numberAll branches h with ⟨hid, hp, hpos, hc⟩ | hb
      · refine Or.inl ⟨by omega, hp, by omega, ?_⟩
        rw [headIds, show node.position - position = node.position - (position + 1) + 1 by omega]
        exact hc
      · exact Or.inr (hb.mono fun n hn => List.mem_append_right _ hn)

end

/-- The heads of branches are where their parent lists them. -/
theorem head_numberAll {parent next position k c : Nat} :
    ∀ branches, (headIds next branches)[k]? = some c →
      ∃ child ∈ numberAll next parent position branches,
        child.id = c ∧ child.parent = some parent ∧ child.position = position + k
  | [], h => by simp [headIds] at h
  | .mk page below :: branches, h => by
    cases k with
    | zero =>
      simp only [headIds, List.getElem?_cons_zero, Option.some.injEq] at h
      exact ⟨_, List.mem_append_left _ List.mem_cons_self, h, rfl, rfl⟩
    | succ k =>
      simp only [headIds, List.getElem?_cons_succ] at h
      obtain ⟨child, hm, hid, hp, hpos⟩ := head_numberAll branches h
      exact ⟨child, List.mem_append_right _ hm, hid, hp, by omega⟩

mutual

/-- Every child that a node lists is there. -/
theorem down_number {id position k c : Nat} {parent : Option Nat} {node : Node} :
    ∀ branch, node ∈ number id parent position branch → node.children[k]? = some c →
      ∃ child ∈ number id parent position branch,
        child.id = c ∧ child.parent = some node.id ∧ child.position = k
  | .mk page branches, h, hc => by
    rcases List.mem_cons.1 h with rfl | h
    · obtain ⟨child, hm, hid, hp, hpos⟩ := head_numberAll branches hc
      exact ⟨child, List.mem_cons_of_mem _ hm, hid, hp, by omega⟩
    · obtain ⟨child, hm, h⟩ := down_numberAll branches h hc
      exact ⟨child, List.mem_cons_of_mem _ hm, h⟩

theorem down_numberAll {next parent position k c : Nat} {node : Node} :
    ∀ branches, node ∈ numberAll next parent position branches → node.children[k]? = some c →
      ∃ child ∈ numberAll next parent position branches,
        child.id = c ∧ child.parent = some node.id ∧ child.position = k
  | [], h, _ => by simp [numberAll] at h
  | branch :: branches, h, hc => by
    rcases List.mem_append.1 h with h | h
    · obtain ⟨child, hm, h⟩ := down_number branch h hc
      exact ⟨child, List.mem_append_left _ hm, h⟩
    · obtain ⟨child, hm, h⟩ := down_numberAll branches h hc
      exact ⟨child, List.mem_append_right _ hm, h⟩

end

mutual

theorem ascending_number {id position : Nat} {parent : Option Nat} {node : Node} :
    ∀ branch, node ∈ number id parent position branch → node.children.Pairwise (· < ·)
  | .mk page branches, h => by
    rcases List.mem_cons.1 h with rfl | h
    · exact headIds_ascending _ branches
    · exact ascending_numberAll branches h

theorem ascending_numberAll {next parent position : Nat} {node : Node} :
    ∀ branches, node ∈ numberAll next parent position branches → node.children.Pairwise (· < ·)
  | [], h => by simp [numberAll] at h
  | branch :: branches, h => by
    rcases List.mem_append.1 h with h | h
    · exact ascending_number branch h
    · exact ascending_numberAll branches h

end

/-! ## The walk -/

/-- The nodes stand in the tree from a number on. -/
def Contains (tree : ContentTree) (id : Nat) (nodes : List Node) : Prop :=
  ∀ i node, nodes[i]? = some node → tree.node? (id + i) = some node

theorem Contains.tail {tree : ContentTree} {id : Nat} {node : Node} {nodes : List Node}
    (h : tree.Contains id (node :: nodes)) : tree.Contains (id + 1) nodes := by
  intro i n hn
  rw [show id + 1 + i = id + (i + 1) by omega]
  exact h (i + 1) n (by simpa using hn)

theorem Contains.left {tree : ContentTree} {id : Nat} {front back : List Node}
    (h : tree.Contains id (front ++ back)) : tree.Contains id front := by
  intro i n hn
  have hi := (List.getElem?_eq_some_iff.1 hn).1
  exact h i n (by rw [List.getElem?_append_left hi]; exact hn)

theorem Contains.right {tree : ContentTree} {id : Nat} {front back : List Node}
    (h : tree.Contains id (front ++ back)) : tree.Contains (id + front.length) back := by
  intro i n hn
  rw [show id + front.length + i = id + (front.length + i) by omega]
  exact h _ n (by rw [List.getElem?_append_right (by omega)]; simpa using hn)

mutual

/-- The walk passes the nodes of a branch in order, and goes on with the stack behind it. -/
theorem walk_number {tree : ContentTree} {id position : Nat} {parent : Option Nat} (fuel : Nat)
    (stack : List Nat) :
    ∀ branch, tree.Contains id (number id parent position branch) →
      tree.walk (branch.size + fuel) (id :: stack) =
        List.range' id branch.size ++ tree.walk fuel stack
  | .mk page branches, hc => by
    have hnode := hc 0 _ rfl
    rw [Nat.add_zero] at hnode
    rw [Branch.size, show 1 + Branch.sizes branches + fuel = (Branch.sizes branches + fuel) + 1 by
      omega, walk, hnode]
    dsimp only
    rw [walk_headIds fuel stack branches hc.tail, Nat.add_comm 1, List.range'_succ,
      List.cons_append]

theorem walk_headIds {tree : ContentTree} {next parent position : Nat} (fuel : Nat)
    (stack : List Nat) :
    ∀ branches, tree.Contains next (numberAll next parent position branches) →
      tree.walk (Branch.sizes branches + fuel) (headIds next branches ++ stack) =
        List.range' next (Branch.sizes branches) ++ tree.walk fuel stack
  | [], _ => by simp [Branch.sizes, headIds]
  | branch :: branches, hc => by
    have hright := hc.right
    rw [length_number] at hright
    rw [Branch.sizes, Nat.add_assoc, headIds, List.cons_append,
      walk_number _ _ branch hc.left, walk_headIds fuel stack branches hright, ← List.append_assoc,
      List.range'_append_1]

end

/-! ## Numbered trees -/

theorem getElem?_filterMap_of_isSome {α β : Type} {f : α → Option β} :
    ∀ {l : List α}, (∀ a ∈ l, (f a).isSome = true) → ∀ k : Nat, (l.filterMap f)[k]? = l[k]?.bind f
  | [], _, _ => rfl
  | a :: l, h, k => by
    obtain ⟨b, hb⟩ := Option.isSome_iff_exists.1 (h a (by simp))
    rw [List.filterMap_cons_some hb]
    cases k with
    | zero => simp [hb]
    | succ k => simpa using getElem?_filterMap_of_isSome (fun a ha => h a (by simp [ha])) k

theorem lt_size_of_node? {tree : ContentTree} {i : Nat} {node : Node}
    (h : tree.node? i = some node) : i < tree.size :=
  (List.getElem?_eq_some_iff.1 h).1

namespace Numbered
variable {tree : ContentTree} (numbered : tree.Numbered)
include numbered

theorem node?_id {i : Nat} {node : Node} (h : tree.node? i = some node) :
    tree.node? node.id = some node := by
  rw [numbered.id_eq h]; exact h

theorem getElem?_children {p : Nat} {parent : Node} (h : tree.node? p = some parent) (k : Nat) :
    (tree.children parent)[k]? = parent.children[k]?.bind tree.node? := by
  refine getElem?_filterMap_of_isSome (fun c hc => ?_) k
  obtain ⟨k, hk⟩ := List.getElem?_of_mem hc
  obtain ⟨child, hchild, -⟩ := numbered.child h hk
  rw [hchild]; rfl

/-- The children of a node are the nodes below it, each at its place. -/
theorem getElem?_children_iff {p k : Nat} {parent child : Node} (h : tree.node? p = some parent) :
    (tree.children parent)[k]? = some child ↔
      tree.node? child.id = some child ∧ child.parent = some p ∧ child.position = k := by
  rw [numbered.getElem?_children h, Option.bind_eq_some_iff]
  constructor
  · rintro ⟨c, hc, hchild⟩
    obtain ⟨child', hchild', hp, hk⟩ := numbered.child h hc
    rw [hchild] at hchild'; cases hchild'
    exact ⟨numbered.node?_id hchild, hp, hk⟩
  · rintro ⟨hchild, hp, rfl⟩
    obtain ⟨-, parent', hparent', hc⟩ := numbered.listed hchild hp
    rw [h] at hparent'; cases hparent'
    exact ⟨_, hc, hchild⟩

/-- No two nodes have one place. -/
theorem eq_of_place {node node' : Node} {p : Nat} (h : tree.node? node.id = some node)
    (h' : tree.node? node'.id = some node') (hp : node.parent = some p)
    (hp' : node'.parent = some p) (hpos : node.position = node'.position) : node = node' := by
  obtain ⟨-, parent, hparent, -⟩ := numbered.listed h hp
  have h₁ := (numbered.getElem?_children_iff hparent).2 ⟨h, hp, rfl⟩
  have h₂ := (numbered.getElem?_children_iff hparent).2 ⟨h', hp', hpos.symm⟩
  rw [h₁] at h₂; exact Option.some.inj h₂

/-- Siblings are numbered in order. -/
theorem lt_of_position_lt {node node' : Node} {p : Nat} (h : tree.node? node.id = some node)
    (h' : tree.node? node'.id = some node') (hp : node.parent = some p)
    (hp' : node'.parent = some p) (hpos : node.position < node'.position) : node.id < node'.id := by
  obtain ⟨-, parent, hparent, hc⟩ := numbered.listed h hp
  obtain ⟨-, parent', hparent', hc'⟩ := numbered.listed h' hp'
  rw [hparent] at hparent'; cases hparent'
  obtain ⟨hlt, hc⟩ := List.getElem?_eq_some_iff.1 hc
  obtain ⟨hlt', hc'⟩ := List.getElem?_eq_some_iff.1 hc'
  rw [← hc, ← hc']
  exact List.pairwise_iff_getElem.1 (numbered.ascending hparent) _ _ hlt hlt' hpos

theorem length_preorder : tree.preorder.length = tree.size := by
  rw [numbered.preorder_eq, List.length_range]

/-- The walk meets the nodes by number. -/
theorem preorder_bind_eq (i : Nat) : tree.preorder[i]?.bind tree.node? = tree.node? i := by
  rw [numbered.preorder_eq]
  by_cases hi : i < tree.size
  · simp [List.getElem?_range hi]
  · have : tree.node? i = none := List.getElem?_eq_none (by simpa [size] using hi)
    rw [this, List.getElem?_eq_none (by simpa using hi)]; rfl

end Numbered

/-! ## Trees -/

/-- **The tree of a branch is numbered.** -/
theorem numbered_ofBranch (branch : Branch) (sourceRoot : Path) :
    (ofBranch branch sourceRoot).Numbered := by
  have id_eq {i : Nat} {node : Node} (h : (ofBranch branch sourceRoot).node? i = some node) :
      node.id = i := by
    rw [id_number branch h]; omega
  have node?_of_mem {node : Node} (h : node ∈ number 0 none 0 branch) :
      (ofBranch branch sourceRoot).node? node.id = some node := by
    obtain ⟨i, hi⟩ := List.getElem?_of_mem h
    rw [id_number branch hi, Nat.zero_add]; exact hi
  have hsize : (ofBranch branch sourceRoot).size = branch.size := length_number 0 none 0 branch
  refine ⟨id_eq, by rw [hsize]; exact branch.size_pos, ?_, ?_, ?_, ?_, ?_⟩
  · intro i node h
    rcases up_number branch (List.mem_of_getElem? h) with ⟨hid, hp, -⟩ | ⟨above, -, hp, hlt, -⟩
    · rw [id_eq h] at hid; simp [hp, hid]
    · rw [id_eq h] at hlt
      simp only [hp, reduceCtorEq, false_iff]; omega
  · intro i node p h hparent
    rcases up_number branch (List.mem_of_getElem? h) with ⟨-, hp, -⟩ | ⟨above, hm, hp, hlt, hc⟩
    · rw [hp] at hparent; cases hparent
    · rw [hparent] at hp; cases hp
      rw [id_eq h] at hlt hc
      exact ⟨hlt, above, node?_of_mem hm, hc⟩
  · intro p parent k c h hc
    obtain ⟨child, hm, hid, hp, hpos⟩ := down_number branch (List.mem_of_getElem? h) hc
    rw [id_eq h] at hp
    exact ⟨child, by rw [← hid]; exact node?_of_mem hm, hp, hpos⟩
  · intro p parent h
    exact ascending_number branch (List.mem_of_getElem? h)
  · have hcontains : (ofBranch branch sourceRoot).Contains 0 (number 0 none 0 branch) :=
      fun i node h => by rw [Nat.zero_add]; exact h
    have hroot : ∃ root, (ofBranch branch sourceRoot).root? = some root ∧ root.id = 0 := by
      obtain ⟨page, branches⟩ := branch; exact ⟨_, rfl, rfl⟩
    obtain ⟨root, hroot, hid⟩ := hroot
    rw [preorder, hroot]
    dsimp only
    rw [hid, hsize, List.range_eq_range', ← Nat.add_zero (Branch.size branch),
      walk_number 0 [] branch hcontains]
    simp [walk]

/-- **Every tree that is loaded is numbered.** -/
theorem numbered_of_load {reader : Yaml.Reader} {files : FileSystem} {format : ContentFormat}
    {root : Path} {tree : ContentTree} (h : load reader files format root = .ok tree) :
    tree.Numbered := by
  obtain ⟨-, entries, branch, -, -, -, rfl⟩ := load_eq_ok_iff.1 h
  exact numbered_ofBranch branch root

end CourseSite.ContentTree
