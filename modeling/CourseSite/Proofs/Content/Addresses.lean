/-
  The addresses and output files of the pages of a tree that is loaded.

  * `slugsOf`: the names of a page in its address, from the root.
  * `url_placementOf`, `output_placementOf`: the loader, which puts one name after another, makes
    the address and the output file of these names.
  * `eq_of_slugsOf_eq`: no two nodes have the same names.
  * `addresses_of_load`: addresses and output files, and looking up an address.
-/
import CourseSite.Proofs.Content.Descent
import CourseSite.Proofs.Content.Structure
import CourseSite.Proofs.Text.Dictionary

namespace CourseSite

/-! ## Slugs -/

/-- A name of an entry without its extension stands for itself in a path. -/
theorem ContentFormat.isComponent_slug {format : ContentFormat} {entry : String}
    (h : Manifest.IsEntryName entry) : Path.IsComponent (format.slug entry) := by
  rw [slug]
  split
  · rename_i hending
    obtain ⟨front, hfront⟩ := List.isSuffixOf_iff_suffix.1 hending
    have hlength : entry.toList.length - ("." ++ format.extension).toList.length = front.length := by
      rw [← hfront, List.length_append, Nat.add_sub_cancel]
    rw [hlength, ← hfront, List.take_left]
    refine h.isComponent_of_front hfront.symm ?_
    -- Without a name before it, the extension starts with the dot of a hidden entry.
    rintro rfl
    exact (h.shown '.' (by rw [← hfront, List.nil_append, String.toList_append]; rfl)).1 rfl
  · exact h.isComponent

namespace ContentTree

variable {reader : Yaml.Reader} {fs : FileSystem} {format : ContentFormat} {root : Path}
  {place : Placement} {tree : ContentTree} {node other : Node}

/-- The names of the page of a node in its address, from the root. -/
def slugsOf (tree : ContentTree) (format : ContentFormat) (node : Node) : List String :=
  (tree.descent node).map fun node => format.slug node.page.name

/-- The entry that a node below the root was loaded from. -/
theorem entry_of_parent {p : Nat} (h : load reader fs format root = .ok tree)
    (hnode : tree.node? node.id = some node) (hp : node.parent = some p) :
    ∃ parent entries, tree.node? p = some parent ∧
      readManifest reader fs format (tree.pathOf parent) = .ok entries ∧
      ((others entries).map format.slug).Nodup ∧
      (others entries)[node.position]? = some node.page.name := by
  have numbered := numbered_of_load h
  obtain ⟨-, parent, hparent, hplace⟩ := numbered.listed hnode hp
  have hparent' := numbered.node?_id hparent
  cases hdir : parent.page.isOfDirectory with
  | false =>
    rw [children_of_not_isOfDirectory h hparent' hdir] at hplace
    cases hplace
  | true =>
    obtain ⟨-, entries, hmanifest, hslugs, hchildren⟩ := children_of_isOfDirectory h hparent' hdir
    refine ⟨parent, entries, hparent, hmanifest, hslugs, ?_⟩
    have hname := congrArg (·[node.position]?) hchildren
    simp only [List.getElem?_map, hplace, Option.map_some, hnode] at hname
    cases hentry : (others entries)[node.position]? with
    | none => rw [hentry] at hname; cases hname
    | some entry => rw [hentry] at hname; cases hname; rfl

/-- Siblings have different names. -/
theorem eq_of_slug_eq {p : Nat} (h : load reader fs format root = .ok tree)
    (hnode : tree.node? node.id = some node) (hother : tree.node? other.id = some other)
    (hp : node.parent = some p) (hp' : other.parent = some p)
    (heq : format.slug node.page.name = format.slug other.page.name) : node = other := by
  obtain ⟨parent, entries, hparent, hmanifest, hslugs, hentry⟩ := entry_of_parent h hnode hp
  obtain ⟨parent', entries', hparent', hmanifest', -, hentry'⟩ := entry_of_parent h hother hp'
  rw [hparent] at hparent'
  cases hparent'
  rw [hmanifest] at hmanifest'
  cases hmanifest'
  refine (numbered_of_load h).eq_of_place hnode hother hp hp' ?_
  have hlt := (List.getElem?_eq_some_iff.1 hentry).1
  refine (List.getElem?_inj (by rw [List.length_map]; exact hlt) hslugs).1 ?_
  rw [List.getElem?_map, List.getElem?_map, hentry, hentry', Option.map_some, Option.map_some, heq]

theorem slugsOf_of_parent_eq_none (hp : node.parent = none) : tree.slugsOf format node = [] := by
  rw [slugsOf, descent_of_parent_eq_none hp]; rfl

theorem slugsOf_of_parent {parent : Node} (numbered : tree.Numbered)
    (hnode : tree.node? node.id = some node) (hparent : tree.node? parent.id = some parent)
    (hp : node.parent = some parent.id) :
    tree.slugsOf format node = tree.slugsOf format parent ++ [format.slug node.page.name] := by
  rw [slugsOf, numbered.descent_of_parent hnode hparent hp, List.map_append]; rfl

theorem isComponent_of_mem_slugsOf (h : load reader fs format root = .ok tree)
    (hnode : tree.node? node.id = some node) :
    ∀ slug ∈ tree.slugsOf format node, Path.IsComponent slug := by
  have numbered := numbered_of_load h
  refine numbered.induction
    (P := fun node => ∀ slug ∈ tree.slugsOf format node, Path.IsComponent slug)
    (fun node _ hp => ?_) (fun parent node hparent hnode hp ih => ?_) hnode
  · rw [slugsOf_of_parent_eq_none hp]; nofun
  · obtain ⟨_, entries, -, hmanifest, -, hentry⟩ := entry_of_parent h hnode hp
    have hname := (readManifest_eq_ok_iff.1 hmanifest).2.1 _
      (mem_others_iff.1 (List.mem_of_getElem? hentry)).1
    rw [slugsOf_of_parent numbered hnode hparent hp]
    exact Path.isComponent_of_mem_concat ih (ContentFormat.isComponent_slug hname)

/-- No two nodes have the same names. -/
theorem eq_of_slugsOf_eq (h : load reader fs format root = .ok tree)
    (hnode : tree.node? node.id = some node) (hother : tree.node? other.id = some other)
    (heq : tree.slugsOf format node = tree.slugsOf format other) : node = other := by
  have numbered := numbered_of_load h
  refine numbered.induction (P := fun node => ∀ other, tree.node? other.id = some other →
    tree.slugsOf format node = tree.slugsOf format other → node = other)
    (fun node hnode hp other hother heq => ?_)
    (fun parent node hparent hnode hp ih other hother heq => ?_) hnode other hother heq
  · rcases numbered.root_or_child hother with hp' | ⟨above, habove, hp', -⟩
    · have hroot := (numbered.root?_eq hnode hp).symm.trans (numbered.root?_eq hother hp')
      exact Option.some.inj hroot
    · rw [slugsOf_of_parent_eq_none hp, slugsOf_of_parent numbered hother habove hp'] at heq
      cases List.append_ne_nil_of_right_ne_nil _ (by simp) heq.symm
  · rcases numbered.root_or_child hother with hp' | ⟨above, habove, hp', -⟩
    · rw [slugsOf_of_parent numbered hnode hparent hp, slugsOf_of_parent_eq_none hp'] at heq
      cases List.append_ne_nil_of_right_ne_nil _ (by simp) heq
    · rw [slugsOf_of_parent numbered hnode hparent hp,
        slugsOf_of_parent numbered hother habove hp'] at heq
      obtain ⟨hfront, hlast⟩ := List.append_inj' heq rfl
      obtain rfl := ih above habove hfront
      exact eq_of_slug_eq h hnode hother hp hp' (List.singleton_inj.1 hlast)

/-! ## Addresses and output files -/

variable {slugs : List String}

/-- The names make up the address and the directory of a place. -/
structure Spells (slugs : List String) (place : Placement) : Prop where
  components : ∀ slug ∈ slugs, Path.IsComponent slug
  url : place.url = "/" ++ "/".intercalate slugs
  directory : place.directory = ⟨"/".intercalate slugs⟩

theorem intercalate_eq_empty_iff (h : ∀ slug ∈ slugs, Path.IsComponent slug) :
    "/".intercalate slugs = "" ↔ slugs = [] := by
  refine ⟨fun heq => ?_, fun heq => by rw [heq]; rfl⟩
  rw [← Path.parts_intercalate h, heq]; rfl

theorem joinUrl_eq (h : ∀ slug ∈ slugs, Path.IsComponent slug) (slug : String) :
    joinUrl ("/" ++ "/".intercalate slugs) slug = "/" ++ "/".intercalate (slugs ++ [slug]) := by
  rw [joinUrl]
  cases slugs with
  | nil => rfl
  | cons first others =>
    rw [if_neg fun heq => ?_, Path.intercalate_concat (by simp), String.append_assoc,
      String.append_assoc, String.append_assoc]
    have hempty : "/".intercalate (first :: others) = "" := by
      rw [← String.toList_inj] at heq ⊢
      simpa using heq
    cases (intercalate_eq_empty_iff h).1 hempty

theorem Spells.below (h : Spells slugs place) {entry slug : String}
    (hslug : Path.IsComponent slug) : Spells (slugs ++ [slug]) (place.below entry slug) where
  components := Path.isComponent_of_mem_concat h.components hslug
  url := by rw [Placement.below, h.url, joinUrl_eq h.components]
  directory := by rw [Placement.below, h.directory, Path.join_intercalate h.components hslug]

theorem Spells.output_eq (h : Spells slugs place) :
    place.output = ⟨"/".intercalate (slugs ++ ["index.html"])⟩ := by
  rw [Placement.output, h.directory, Path.join_intercalate h.components Path.isComponent_index]

/-- **Placements.** The names of a node make up where its page goes. -/
theorem spells_placementOf (h : load reader fs format root = .ok tree)
    (hnode : tree.node? node.id = some node) :
    Spells (tree.slugsOf format node) (tree.placementOf format node) := by
  have numbered := numbered_of_load h
  refine numbered.induction
    (P := fun node => Spells (tree.slugsOf format node) (tree.placementOf format node))
    (fun node _ hp => ?_) (fun parent node hparent hnode hp ih => ?_) hnode
  · rw [slugsOf_of_parent_eq_none hp, placementOf, descent_of_parent_eq_none hp]
    exact ⟨by simp, rfl, rfl⟩
  · have hslug := isComponent_of_mem_slugsOf h hnode (format.slug node.page.name)
    rw [slugsOf_of_parent numbered hnode hparent hp] at hslug ⊢
    rw [placementOf, numbered.descent_of_parent hnode hparent hp, List.foldl_append]
    exact ih.below (hslug (by simp))

theorem url_eq (h : load reader fs format root = .ok tree)
    (hnode : tree.node? node.id = some node) :
    node.page.url = "/" ++ "/".intercalate (tree.slugsOf format node) := by
  obtain ⟨branch, hholds, hstands⟩ := exists_stands h hnode
  rw [hholds.page_eq, hstands.page_eq.2.1, (spells_placementOf h hnode).url]

theorem output_eq (h : load reader fs format root = .ok tree)
    (hnode : tree.node? node.id = some node) :
    node.page.output = ⟨"/".intercalate (tree.slugsOf format node ++ ["index.html"])⟩ := by
  obtain ⟨branch, hholds, hstands⟩ := exists_stands h hnode
  rw [hholds.page_eq, hstands.page_eq.2.2, (spells_placementOf h hnode).output_eq]

theorem parts_output (h : load reader fs format root = .ok tree)
    (hnode : tree.node? node.id = some node) :
    node.page.output.parts = tree.slugsOf format node ++ ["index.html"] := by
  rw [output_eq h hnode, Path.parts_intercalate (Path.isComponent_of_mem_concat
    (isComponent_of_mem_slugsOf h hnode) Path.isComponent_index)]

theorem eq_of_url_eq (h : load reader fs format root = .ok tree)
    (hnode : tree.node? node.id = some node) (hother : tree.node? other.id = some other)
    (heq : node.page.url = other.page.url) : node = other := by
  refine eq_of_slugsOf_eq h hnode hother ?_
  rw [url_eq h hnode, url_eq h hother, ← String.toList_inj, String.toList_append,
    String.toList_append, List.append_cancel_left_eq, String.toList_inj] at heq
  rw [← Path.parts_intercalate (isComponent_of_mem_slugsOf h hnode), heq,
    Path.parts_intercalate (isComponent_of_mem_slugsOf h hother)]

/-! ## Looking up -/

theorem Numbered.node?_of_mem (numbered : tree.Numbered) (h : node ∈ tree.nodes) :
    tree.node? node.id = some node := by
  obtain ⟨i, hi⟩ := List.getElem?_of_mem h
  exact numbered.node?_id hi

/-- An address is that of the last node with it. -/
theorem findByUrl?_eq (tree : ContentTree) (url : String) :
    tree.findByUrl? url =
      (tree.nodes.reverse.find? (·.page.url == url)).bind fun node => tree.node? node.id := by
  rw [findByUrl?, urlIndex, Dictionary.get?_foldl_insert]
  cases tree.nodes.reverse.find? (·.page.url == url) <;> rfl

/-- **Addresses.**  The names on the way from the root to a node stand for themselves in a path,
    there are as many as the node is deep, and they make up its address and its output file.
    Different nodes have different addresses and output files.  The address of a node finds it,
    and any other address finds nothing. -/
theorem addresses_of_load (h : load reader fs format root = .ok tree) :
    (∀ node ∈ tree.nodes,
      (∀ slug ∈ tree.slugsOf format node, Path.IsComponent slug) ∧
      tree.depth node = (tree.slugsOf format node).length ∧
      node.page.url = "/" ++ "/".intercalate (tree.slugsOf format node) ∧
      node.page.output = ⟨"/".intercalate (tree.slugsOf format node ++ ["index.html"])⟩ ∧
      node.page.output.parts = tree.slugsOf format node ++ ["index.html"] ∧
      tree.findByUrl? node.page.url = some node) ∧
    (∀ node ∈ tree.nodes, ∀ other ∈ tree.nodes, node ≠ other →
      node.page.url ≠ other.page.url ∧ node.page.output.parts ≠ other.page.output.parts) ∧
    ∀ url, (∀ node ∈ tree.nodes, node.page.url ≠ url) → tree.findByUrl? url = none := by
  have numbered := numbered_of_load h
  refine ⟨fun node hmem => ?_, fun node hmem other hmem' hne => ⟨fun heq => hne ?_, fun heq => hne ?_⟩,
    fun url hurl => ?_⟩
  · have hnode := numbered.node?_of_mem hmem
    refine ⟨isComponent_of_mem_slugsOf h hnode, ?_, url_eq h hnode, output_eq h hnode,
      parts_output h hnode, ?_⟩
    · rw [slugsOf, List.length_map, length_descent]
    · rw [findByUrl?_eq]
      cases hfind : tree.nodes.reverse.find? (·.page.url == node.page.url) with
      | none =>
        have hnone := List.find?_eq_none.1 hfind node (List.mem_reverse.2 hmem)
        exact absurd (beq_self_eq_true _) hnone
      | some found =>
        have hfound := numbered.node?_of_mem (List.mem_reverse.1 (List.mem_of_find?_eq_some hfind))
        have heq : found.page.url = node.page.url := by simpa using List.find?_some hfind
        rw [Option.bind_some, hfound, eq_of_url_eq h hfound hnode heq]
  · exact eq_of_url_eq h (numbered.node?_of_mem hmem) (numbered.node?_of_mem hmem') heq
  · have hnode := numbered.node?_of_mem hmem
    have hother := numbered.node?_of_mem hmem'
    rw [parts_output h hnode, parts_output h hother] at heq
    exact eq_of_slugsOf_eq h hnode hother (List.append_cancel_right heq)
  · have hnone : tree.nodes.reverse.find? (·.page.url == url) = none :=
      List.find?_eq_none.2 fun node hmem => by simpa using hurl node (List.mem_reverse.1 hmem)
    rw [findByUrl?_eq, hnone]; rfl

end ContentTree

open Guide in
/-- The document in the directory is found by the names of both, and no document is found by a
    name with its extension. -/
theorem addresses_of_load_guide :
    tree.findByUrl? "/part/intro" = tree.node? 3 ∧ tree.findByUrl? "/two.md" = none := by
  obtain ⟨hnodes, -, hnone⟩ := ContentTree.addresses_of_load loaded
  have hurls : tree.nodes.map (·.page.url) = ["/", "/one", "/part", "/part/intro", "/two"] := by
    decide +kernel
  constructor
  · have hurl : (tree.node? 3).map (·.page.url) = some "/part/intro" := by
      rw [ContentTree.node?, ← List.getElem?_map, hurls]; rfl
    obtain ⟨node, hnode, hurl⟩ := Option.map_eq_some_iff.1 hurl
    obtain ⟨-, -, -, -, -, hfind⟩ := hnodes node (List.mem_of_getElem? hnode)
    rw [hnode, ← hurl]; exact hfind
  · refine hnone "/two.md" fun node hnode hurl => ?_
    have hmem : "/two.md" ∈ tree.nodes.map (·.page.url) := by
      rw [← hurl]; exact List.mem_map_of_mem hnode
    rw [hurls] at hmem
    simp at hmem

end CourseSite
