/-
  The children of an aggregate page whose texts go into its file.

  * `ContentTree.documents`: the children with a document, in order of their places.
  * `ContentTree.gatherer?`: the parent, if it is an aggregate page.
  * `lastDocument?_eq`: the page that goes on is the last of the documents.
  * `forall₂_documents`: fragments at just the places of the documents are the texts of
    the documents, one for each and in order.
-/
import Mathlib.Data.List.Sort
import CourseSite.Proofs.Content.Numbering
import CourseSite.Proofs.Site.Barrier
import CourseSite.Site.Stage

namespace CourseSite

namespace ContentTree

/-- The children of a node that have a document, in order. -/
def documents (tree : ContentTree) (parent : Node) : List Node :=
  (tree.children parent).filter (!·.page.isVirtual)

/-- The parent of a node, if it is an aggregate page. -/
def gatherer? (tree : ContentTree) (node : Node) : Option Node :=
  (tree.parent? node).filter (·.page.isAggregate)

section
variable {tree : ContentTree}

theorem gatherer?_eq_some_iff {node parent : Node} :
    tree.gatherer? node = some parent ↔
      tree.parent? node = some parent ∧ parent.page.isAggregate = true := by
  rw [gatherer?, Option.filter_eq_some_iff]

namespace Numbered
variable (numbered : tree.Numbered)
include numbered

theorem parent?_eq_some_iff {node parent : Node} :
    tree.parent? node = some parent ↔
      node.parent = some parent.id ∧ tree.node? parent.id = some parent := by
  rw [parent?, Option.bind_eq_some_iff]
  constructor
  · rintro ⟨p, hp, hparent⟩
    have hid := numbered.id_eq hparent
    subst hid; exact ⟨hp, hparent⟩
  · rintro ⟨hp, hparent⟩; exact ⟨_, hp, hparent⟩

theorem mem_documents_iff {parent child : Node} (h : tree.node? parent.id = some parent) :
    child ∈ tree.documents parent ↔
      tree.node? child.id = some child ∧ child.parent = some parent.id ∧
        child.page.isVirtual = false := by
  rw [documents, List.mem_filter, List.mem_iff_getElem?]
  simp only [numbered.getElem?_children_iff h, Bool.not_eq_eq_eq_not, Bool.not_true]
  constructor
  · rintro ⟨⟨k, hn, hp, -⟩, hv⟩; exact ⟨hn, hp, hv⟩
  · rintro ⟨hn, hp, hv⟩; exact ⟨⟨_, hn, hp, rfl⟩, hv⟩

/-- The documents are in ascending order of their places. -/
theorem documents_ascending {parent : Node} (h : tree.node? parent.id = some parent) :
    (tree.documents parent).Pairwise (·.position < ·.position) := by
  refine List.Pairwise.filter _ (List.pairwise_iff_getElem.2 fun i j hi hj hlt => ?_)
  obtain ⟨-, -, hpi⟩ := (numbered.getElem?_children_iff h).1 (List.getElem?_eq_getElem hi)
  obtain ⟨-, -, hpj⟩ := (numbered.getElem?_children_iff h).1 (List.getElem?_eq_getElem hj)
  omega

/-- The page that goes on is the last of the documents. -/
theorem lastDocument?_eq {parent : Node} (h : tree.node? parent.id = some parent) :
    Stage.lastDocument? tree parent = (tree.documents parent).getLast?.map (·.position) := by
  have hlast : (tree.documents parent).getLast? =
      ((tree.children parent).zipIdx.reverse.find? fun placed => !placed.1.page.isVirtual).map
        (·.1) := by
    rw [documents, List.getLast?_eq_head?_reverse, ← List.filter_reverse, List.head?_filter]
    have hzip : (tree.children parent).reverse = (tree.children parent).zipIdx.reverse.map (·.1) := by
      rw [List.map_reverse, List.zipIdx_map_fst]
    rw [hzip, List.find?_map]; rfl
  change ((tree.children parent).zipIdx.reverse.find? fun placed => !placed.1.page.isVirtual).map
    (·.2) = _
  rw [hlast, Option.map_map]
  cases hf : (tree.children parent).zipIdx.reverse.find? fun placed => !placed.1.page.isVirtual with
  | none => rfl
  | some found =>
    obtain ⟨child, k⟩ := found
    have hm := List.mem_reverse.1 (List.mem_of_find?_eq_some hf)
    obtain ⟨-, -, hpos⟩ := (numbered.getElem?_children_iff h).1 (List.mem_zipIdx_iff_getElem?.1 hm)
    exact congrArg some hpos.symm

/-- A document is the last one, or comes before it. -/
theorem eq_or_lt_of_mem_documents {parent last child : Node}
    (h : tree.node? parent.id = some parent)
    (hlast : (tree.documents parent).getLast? = some last) (hc : child ∈ tree.documents parent) :
    child = last ∨ child.position < last.position := by
  obtain ⟨docs, hdocs⟩ := List.getLast?_eq_some_iff.1 hlast
  have hasc := numbered.documents_ascending h
  rw [hdocs] at hasc hc
  rcases List.mem_append.1 hc with hc | hc
  · exact Or.inr ((List.pairwise_append.1 hasc).2.2 _ hc _ (by simp))
  · exact Or.inl (List.mem_singleton.1 hc)

end Numbered

end

end ContentTree

/-! ## Fragments of all documents -/

/-- Fragments with the places of the documents as their keys, each with a fitting text,
    are the texts of the documents in order. -/
theorem forall₂_of_keys_eq {R : Node → String → Prop} :
    ∀ {docs : List Node} {fragments : List (Nat × String)},
      fragments.map (·.1) = docs.map (·.position) →
      (∀ doc ∈ docs, ∀ text, (doc.position, text) ∈ fragments → R doc text) →
      List.Forall₂ R docs (fragments.map (·.2))
  | [], [], _, _ => .nil
  | [], _ :: _, h, _ => by simp at h
  | _ :: _, [], h, _ => by simp at h
  | doc :: docs, (k, text) :: fragments, h, hR => by
    simp only [List.map_cons, List.cons.injEq] at h
    obtain ⟨rfl, h⟩ := h
    exact .cons (hR doc List.mem_cons_self text List.mem_cons_self)
      (forall₂_of_keys_eq h fun d hd t ht =>
        hR d (List.mem_cons_of_mem _ hd) t (List.mem_cons_of_mem _ ht))

/-- Fragments at just the places of the documents are their texts, one for each and in
    order. -/
theorem forall₂_documents {tree : ContentTree} (numbered : tree.Numbered) {parent : Node}
    (h : tree.node? parent.id = some parent) {R : Node → String → Prop}
    {fragments : List (Nat × String)} (ordered : Barrier.Ordered fragments)
    (sound : ∀ k text, (k, text) ∈ fragments →
      ∃ doc ∈ tree.documents parent, doc.position = k ∧ R doc text)
    (complete : ∀ doc ∈ tree.documents parent, ∃ text, (doc.position, text) ∈ fragments) :
    List.Forall₂ R (tree.documents parent) (fragments.map (·.2)) := by
  have keys : fragments.map (·.1) = (tree.documents parent).map (·.position) := by
    refine List.Pairwise.eq_of_mem_iff (List.pairwise_map.2 ordered)
      (List.pairwise_map.2 (numbered.documents_ascending h)) fun k => ?_
    simp only [List.mem_map, Prod.exists, exists_and_right, exists_eq_right]
    constructor
    · rintro ⟨text, hm⟩
      obtain ⟨doc, hd, hpos, -⟩ := sound k text hm
      exact ⟨doc, hd, hpos⟩
    · rintro ⟨doc, hd, rfl⟩; exact complete doc hd
  refine forall₂_of_keys_eq keys fun doc hd text hm => ?_
  obtain ⟨doc', hd', hpos, hR⟩ := sound _ _ hm
  obtain ⟨hn, hp, -⟩ := (numbered.mem_documents_iff h).1 hd
  obtain ⟨hn', hp', -⟩ := (numbered.mem_documents_iff h).1 hd'
  rwa [numbered.eq_of_place hn hn' hp hp' hpos.symm]

end CourseSite
