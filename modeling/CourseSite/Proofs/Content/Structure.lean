/-
  How a tree that is loaded hangs together, and what its nodes stand for.

  * `Stands`: the branch of a directory or document; `stands_of_directoryBranch`: the loader makes
    such branches.
  * `pathOf`, `placementOf`: what a node was loaded from, and where its page goes; every node
    of a tree that is loaded stands for its path (`exists_stands`).
  * `structure_of_load`: the numbers, the parents, the walks, and the children of directories.
-/
import Mathlib.Data.List.Nodup
import CourseSite.Proofs.Attempt
import CourseSite.Proofs.Content.Ascent
import CourseSite.Proofs.Content.Loading
import CourseSite.Proofs.Content.Reading
import CourseSite.Yaml.Read

namespace CourseSite

/-- The page is that of a directory: it is the `default` entry of one, or the directory has none. -/
def Page.isOfDirectory (page : Page) : Bool := page.isDefault || page.isVirtual

namespace ContentTree

variable {reader : Yaml.Reader} {fs : FileSystem} {format : ContentFormat} {path root : Path}
  {place : Placement} {entries : List String} {page : Page} {branch : Branch} {tree : ContentTree}
  {node : Node}

/-! ## Pages -/

theorem documentPage_eq_ok {source : Path} {isDefault : Bool}
    (h : documentPage reader fs source place isDefault = .ok page) :
    page.name = place.name ∧ page.url = place.url ∧ page.output = place.output ∧
      page.source = some source ∧ page.isDefault = isDefault := by
  unfold documentPage at h
  cases hread : readDocument reader fs source with
  | error => rw [hread] at h; cases h
  | ok found => rw [hread] at h; cases h; exact ⟨rfl, rfl, rfl, rfl, rfl⟩

theorem directoryPage_eq_ok (h : directoryPage reader fs format path entries place = .ok page) :
    page.name = place.name ∧ page.url = place.url ∧ page.output = place.output ∧
      page.isOfDirectory = true := by
  unfold directoryPage at h
  split at h
  · dsimp only at h
    split at h
    · obtain ⟨hname, hurl, houtput, -, hdefault⟩ := documentPage_eq_ok h
      exact ⟨hname, hurl, houtput, by rw [Page.isOfDirectory, hdefault, Bool.true_or]⟩
    · cases h
  · cases h; exact ⟨rfl, rfl, rfl, rfl⟩

/-! ## What a branch stands for -/

/-- The branch is that of the document or directory at a path whose page goes to a place. -/
inductive Stands (reader : Yaml.Reader) (fs : FileSystem) (format : ContentFormat) :
    Path → Placement → Branch → Prop
  | document {path place source page}
      (hpage : documentPage reader fs source place false = .ok page) :
      Stands reader fs format path place (.mk page [])
  | directory {path place entries page branches} (hdirectory : fs.isDirectory path = true)
      (hmanifest : readManifest reader fs format path = .ok entries)
      (hpage : directoryPage reader fs format path entries place = .ok page)
      (hslugs : ((others entries).map format.slug).Nodup)
      (hlength : (others entries).length = branches.length)
      (below : ∀ (k : Nat) entry branch, (others entries)[k]? = some entry →
        branches[k]? = some branch →
          Stands reader fs format (path.join ⟨entry⟩) (entryPlacement format place entry) branch) :
      Stands reader fs format path place (.mk page branches)

namespace Stands

theorem page_eq (h : Stands reader fs format path place branch) :
    branch.page.name = place.name ∧ branch.page.url = place.url ∧
      branch.page.output = place.output := by
  cases h with
  | document hpage =>
    obtain ⟨hname, hurl, houtput, -⟩ := documentPage_eq_ok hpage
    exact ⟨hname, hurl, houtput⟩
  | directory _ _ hpage _ _ _ =>
    obtain ⟨hname, hurl, houtput, -⟩ := directoryPage_eq_ok hpage
    exact ⟨hname, hurl, houtput⟩

/-- The branch of a page that is none of a directory ends there. -/
theorem branches_eq_nil (h : Stands reader fs format path place branch)
    (hpage : branch.page.isOfDirectory = false) : branch.branches = [] := by
  cases h with
  | document => rfl
  | directory _ _ hdirectory _ _ _ =>
    cases (directoryPage_eq_ok hdirectory).2.2.2.symm.trans hpage

/-- Below the page of a directory stand its entries, in order. -/
theorem of_isOfDirectory (h : Stands reader fs format path place branch)
    (hpage : branch.page.isOfDirectory = true) :
    fs.isDirectory path = true ∧ ∃ entries, readManifest reader fs format path = .ok entries ∧
      ((others entries).map format.slug).Nodup ∧
      List.Forall₂ (fun entry => Stands reader fs format (path.join ⟨entry⟩)
        (entryPlacement format place entry)) (others entries) branch.branches := by
  cases h with
  | document hdocument =>
    obtain ⟨-, -, -, hsource, hdefault⟩ := documentPage_eq_ok hdocument
    rw [Branch.page, Page.isOfDirectory, Page.isVirtual, hsource, hdefault] at hpage
    cases hpage
  | directory hdirectory hmanifest _ hslugs hlength below =>
    refine ⟨hdirectory, _, hmanifest, hslugs, List.forall₂_iff_get.2 ⟨hlength, fun k hk hk' => ?_⟩⟩
    exact below k _ _ (List.getElem?_eq_getElem hk) (List.getElem?_eq_getElem hk')

end Stands

/-- **The loader makes such branches.** -/
theorem stands_of_directoryBranch {fuel : Nat} (hdirectory : fs.isDirectory path = true)
    (hmanifest : readManifest reader fs format path = .ok entries)
    (h : directoryBranch reader fs format fuel path entries place = .ok branch) :
    Stands reader fs format path place branch := by
  induction fuel generalizing path entries place branch with
  | zero => cases h
  | succ fuel ih =>
    obtain ⟨page, branches, hpage, hbranches, rfl⟩ := directoryBranch_eq_ok_iff.1 h
    obtain ⟨-, hslugs, hall⟩ := entryBranches_eq_ok_iff.1 hbranches
    refine .directory hdirectory hmanifest hpage hslugs hall.length_eq
      fun k entry below hentry hbelow => ?_
    obtain ⟨below', hbelow', hload⟩ := exists_of_forall₂ hall hentry
    rw [hbelow] at hbelow'
    cases hbelow'
    unfold entryBranch at hload
    cases hresolve : resolve fs format path entry with
    | error => rw [hresolve] at hload; cases hload
    | ok target =>
      rw [hresolve] at hload
      cases target with
      | document source =>
        dsimp only [Except.bind] at hload
        cases hdocument :
          documentPage reader fs source (entryPlacement format place entry) false with
        | error => rw [hdocument] at hload; cases hload
        | ok page => rw [hdocument] at hload; cases hload; exact .document hdocument
      | directory path' =>
        obtain ⟨rfl, hdirectory', -⟩ := resolve_eq_directory_iff.1 hresolve
        dsimp only [Except.bind] at hload
        cases hmanifest' : readManifest reader fs format (path.join ⟨entry⟩) with
        | error => rw [hmanifest'] at hload; cases hload
        | ok entries' => rw [hmanifest'] at hload; exact ih hdirectory' hmanifest' hload

/-! ## What a node stands for -/

/-- The document or directory that a node was loaded from, as its entry names it. -/
def pathOf (tree : ContentTree) (node : Node) : Path :=
  (tree.descent node).foldl (fun path node => path.join ⟨node.page.name⟩) tree.sourceRoot

/-- Where the page of a node goes. -/
def placementOf (tree : ContentTree) (format : ContentFormat) (node : Node) : Placement :=
  (tree.descent node).foldl (fun place node => entryPlacement format place node.page.name)
    (rootPlacement tree.sourceRoot)

/-- **What a node stands for.** -/
theorem exists_stands (h : load reader fs format root = .ok tree)
    (hnode : tree.node? node.id = some node) :
    ∃ branch, tree.Holds node branch ∧
      Stands reader fs format (tree.pathOf node) (tree.placementOf format node) branch := by
  obtain ⟨hdirectory, entries, branch, hmanifest, -, hbranch, rfl⟩ := load_eq_ok_iff.1 h
  have numbered := numbered_ofBranch branch root
  refine exists_holds (P := fun node => Stands reader fs format ((ofBranch branch root).pathOf node)
    ((ofBranch branch root).placementOf format node)) (fun node _ hparent => ?_)
    (fun parent node k above below habove hbelow hparent hk hstands => ?_) hnode
  · rw [pathOf, placementOf, descent_of_parent_eq_none hparent]
    exact stands_of_directoryBranch hdirectory hmanifest hbranch
  · have hdescent := numbered.descent_of_parent hbelow.known habove.known hparent
    rw [pathOf, placementOf, hdescent, List.foldl_append, List.foldl_append]
    cases hdir : above.page.isOfDirectory with
    | false => rw [hstands.branches_eq_nil hdir] at hk; cases hk
    | true =>
      obtain ⟨-, entries, -, -, hall⟩ := hstands.of_isOfDirectory hdir
      obtain ⟨entry, -, hentry⟩ := exists_of_forall₂ hall.flip hk
      have hname : node.page.name = entry := by rw [hbelow.page_eq]; exact hentry.page_eq.1
      rw [← hname] at hentry
      exact hentry

theorem map_eq_map_of_forall₂ {α β γ : Type} {R : α → β → Prop} {f : α → γ} {g : β → γ}
    {l : List α} {l' : List β} (h : List.Forall₂ R l l') (heq : ∀ a b, R a b → f a = g b) :
    l.map f = l'.map g := by
  rw [← List.forall₂_eq_eq_eq, List.forall₂_map_left_iff, List.forall₂_map_right_iff]
  exact h.imp heq

/-- The children of the node of a directory are its entries, in order. -/
theorem children_of_isOfDirectory (h : load reader fs format root = .ok tree)
    (hnode : tree.node? node.id = some node) (hpage : node.page.isOfDirectory = true) :
    fs.isDirectory (tree.pathOf node) = true ∧
      ∃ entries, readManifest reader fs format (tree.pathOf node) = .ok entries ∧
        ((others entries).map format.slug).Nodup ∧
        node.children.map (fun id => (tree.node? id).map (·.page.name)) =
          (others entries).map some := by
  obtain ⟨branch, hholds, hstands⟩ := exists_stands h hnode
  rw [hholds.page_eq] at hpage
  obtain ⟨hdirectory, entries, hmanifest, hslugs, hall⟩ := hstands.of_isOfDirectory hpage
  refine ⟨hdirectory, entries, hmanifest, hslugs, ?_⟩
  calc node.children.map (fun id => (tree.node? id).map (·.page.name))
      = branch.branches.map (fun below => some below.page.name) := by
        refine map_eq_map_of_forall₂ hholds.forall₂_children ?_
        rintro id below ⟨child, hchild, hbelow⟩
        rw [hchild, Option.map_some, hbelow.page_eq]
    _ = (others entries).map some := by
        refine (map_eq_map_of_forall₂ hall fun entry below hbelow => ?_).symm
        exact congrArg some hbelow.page_eq.1.symm

/-- The node of a document has no children. -/
theorem children_of_not_isOfDirectory (h : load reader fs format root = .ok tree)
    (hnode : tree.node? node.id = some node) (hpage : node.page.isOfDirectory = false) :
    node.children = [] := by
  obtain ⟨branch, hholds, hstands⟩ := exists_stands h hnode
  rw [hholds.page_eq] at hpage
  exact hholds.children_eq_nil (hstands.branches_eq_nil hpage)

/-- **How a tree that is loaded hangs together.**  The walk passes the nodes by number.  Each node
    stands at its number; the root alone has no parent; any other node comes behind its parent,
    which lists it once, at its position; the way up ends at the root after as many steps as the
    node is deep; and the children of a directory are the entries of its manifest without
    `default`, each of them once and in order. -/
theorem structure_of_load (h : load reader fs format root = .ok tree) :
    0 < tree.size ∧ tree.preorder = List.range tree.size ∧
    ∀ i node, tree.node? i = some node →
      node.id = i ∧
      (node.parent = none ↔ i = 0) ∧
      (∀ p, node.parent = some p → p < i ∧ ∃ parent, tree.node? p = some parent ∧
        parent.children.count i = 1 ∧ parent.children[node.position]? = some i) ∧
      (fun above => above.bind tree.parent?)^[tree.depth node] (some node) = tree.node? 0 ∧
      (node.page.isOfDirectory = false → node.children = []) ∧
      (node.page.isOfDirectory = true → fs.isDirectory (tree.pathOf node) = true ∧
        ∃ entries, readManifest reader fs format (tree.pathOf node) = .ok entries ∧ entries.Nodup ∧
          node.children.map (fun id => (tree.node? id).map (·.page.name)) =
            (entries.filter (· ≠ ContentFormat.defaultEntry)).map some) := by
  have numbered := numbered_of_load h
  refine ⟨numbered.size_pos, numbered.preorder_eq, fun i node hi => ?_⟩
  have hid := numbered.id_eq hi
  subst hid
  refine ⟨rfl, numbered.parent_eq_none_iff hi, fun p hp => ?_, ?_, ?_, fun hpage => ?_⟩
  · obtain ⟨hlt, parent, hparent, hplace⟩ := numbered.listed hi hp
    have hnodup : parent.children.Nodup :=
      (numbered.ascending hparent).imp fun {a b} (hab : a < b) => Nat.ne_of_lt hab
    exact ⟨hlt, parent, hparent,
      List.count_eq_one_of_mem hnodup (List.mem_of_getElem? hplace), hplace⟩
  · rw [numbered.iterate_parent? hi, root?, List.head?_eq_getElem?]; rfl
  · exact children_of_not_isOfDirectory h hi
  · obtain ⟨hdirectory, entries, hmanifest, -, hchildren⟩ := children_of_isOfDirectory h hi hpage
    exact ⟨hdirectory, entries, hmanifest, (readManifest_eq_ok_iff.1 hmanifest).2.2, hchildren⟩

end ContentTree

/-! ## A course with a directory -/

namespace Guide

/-- A directory between two documents, and neither it nor the root has a page of its own. -/
def files : FileSystem where
  entries :=
    [(["guide"], .directory),
      (["guide", "manifest.yaml"], .file "[one, part, two.md]".toUTF8),
      (["guide", "one.md"], .file "One".toUTF8),
      (["guide", "part"], .directory),
      (["guide", "part", "manifest.yaml"], .file "[intro]".toUTF8),
      (["guide", "part", "intro.md"], .file "Intro".toUTF8),
      (["guide", "two.md"], .file "Two".toUTF8)]
  current := []

/-- The tree of the course. -/
def tree : ContentTree :=
  match ContentTree.load Yaml.reader files {} ⟨"/guide"⟩ with
  | .ok tree => tree
  | .error _ => ⟨[], ⟨""⟩⟩

theorem loaded : ContentTree.load Yaml.reader files {} ⟨"/guide"⟩ = .ok tree := by
  have hok : (ContentTree.load Yaml.reader files {} ⟨"/guide"⟩).isOk = true := by decide +kernel
  obtain ⟨loaded, h⟩ := Attempt.exists_eq_ok hok
  rw [tree, h]

end Guide

open Guide in
/-- The walk passes the page of the directory before the document behind it, and the way up from
    there takes two steps. -/
theorem structure_of_load_guide :
    tree.preorder = [0, 1, 2, 3, 4] ∧ ∃ node, tree.node? 3 = some node ∧ tree.depth node = 2 ∧
      ((tree.parent? node).bind tree.parent?) = tree.node? 0 := by
  obtain ⟨-, hpreorder, hnodes⟩ := ContentTree.structure_of_load loaded
  have hsize : tree.size = 5 := by decide +kernel
  have hdepth : ((tree.node? 3).map tree.depth) = some 2 := by decide +kernel
  rw [hsize] at hpreorder
  obtain ⟨node, hnode, hdepth⟩ := Option.map_eq_some_iff.1 hdepth
  have hway := (hnodes 3 node hnode).2.2.2.1
  rw [hdepth] at hway
  exact ⟨hpreorder, node, hnode, hdepth, hway⟩

end CourseSite
