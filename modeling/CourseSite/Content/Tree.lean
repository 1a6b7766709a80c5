/-
  The pages of a course by number.

  * `Node`: a page with its number, its place below its parent, and the numbers
    of its children.
  * `ContentTree.push`, `addChild`: the steps that fill a tree.
  * `ContentTree.preorder`, `depth`, `findByUrl?`: walking down, walking up, and
    looking up an address.
-/
import CourseSite.Content.Page

namespace CourseSite

/-- A page in its place. -/
structure Node where
  id : Nat
  page : Page
  children : List Nat
  parent : Option Nat
  /-- The place among the children of the parent. -/
  position : Nat

/-- The pages in the order of their numbers. -/
structure ContentTree where
  nodes : List Node
  /-- The directory that the tree was loaded from. -/
  sourceRoot : Path

namespace ContentTree

/-! ## Filling -/

/-- The nodes with a page behind them, under the next number. -/
def push (nodes : List Node) (page : Page) (parent : Option Nat) (position : Nat) : List Node :=
  nodes ++ [⟨nodes.length, page, [], parent, position⟩]

/-- The nodes with one more child of a node, behind its other children. -/
def addChild (nodes : List Node) (id child : Nat) : List Node :=
  nodes.modify id fun node => { node with children := node.children ++ [child] }

/-! ## Looking up -/

/-- The number of pages, directories without a page included. -/
def size (tree : ContentTree) : Nat := tree.nodes.length

/-- The node of a number. -/
def node? (tree : ContentTree) (id : Nat) : Option Node := tree.nodes[id]?

/-- The node of the address `/`. -/
def root? (tree : ContentTree) : Option Node := tree.nodes.head?

/-- The parent of a node. -/
def parent? (tree : ContentTree) (node : Node) : Option Node := node.parent.bind tree.node?

/-- The children of a node in order. -/
def children (tree : ContentTree) (node : Node) : List Node := node.children.filterMap tree.node?

/-- The numbers of the nodes by address; the last one counts where several have one address. -/
def urlIndex (tree : ContentTree) : Dictionary Nat :=
  tree.nodes.foldl (fun index node => Dictionary.insert node.page.url node.id index)
    Dictionary.empty

/-- The node of an address. -/
def findByUrl? (tree : ContentTree) (url : String) : Option Node :=
  (Dictionary.get? tree.urlIndex url).bind tree.node?

/-! ## Walking -/

/-- The nodes above a node, nearest first, in at most `fuel` steps. -/
def ancestorsWithin (tree : ContentTree) : Nat → Node → List Node
  | 0, _ => []
  | fuel + 1, node =>
    match tree.parent? node with
    | none => []
    | some parent => parent :: ancestorsWithin tree fuel parent

/-- The number of nodes above a node.  Parents have smaller numbers, so no way up
    is longer than the tree is large. -/
def depth (tree : ContentTree) (node : Node) : Nat := (tree.ancestorsWithin tree.size node).length

/-- The numbers that a walk meets whose next nodes lie on a stack, in at most `fuel` steps.
    The children of a node are put on the stack in its place. -/
def walk (tree : ContentTree) : Nat → List Nat → List Nat
  | 0, _ => []
  | _, [] => []
  | fuel + 1, id :: stack =>
    match tree.node? id with
    | none => []
    | some node => id :: walk tree fuel (node.children ++ stack)

/-- The numbers of all nodes: each before its children, siblings in order.  Every step of the
    walk meets another node. -/
def preorder (tree : ContentTree) : List Nat :=
  match tree.root? with
  | none => []
  | some root => tree.walk tree.size [root.id]

end ContentTree

end CourseSite
