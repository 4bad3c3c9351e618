/-
This file treats a persistent counting tree over a store of nodes that only grows. A root counts
the positions inserted so far, by ranges that are halved on the way down; inserting a position makes
a new root and leaves every older root as it was. So the roots of a sequence of insertions count its
prefixes, and queries between them come in any order. Nothing here names the repository.
-/

import Mathlib

namespace QuantAgent.CountingTree

/-- A node with the indices of its halves; index zero is the empty tree. -/
structure Node where
  count : ℕ := 0
  left : ℕ := 0
  right : ℕ := 0
  deriving Inhabited

abbrev Nodes := Array Node

def get (nodes : Nodes) (index : ℕ) : Node := nodes.getD index default

/-- The store and the new root after a position of the range is inserted below an older root. -/
def insert (nodes : Nodes) (previous low high position : ℕ) : Nodes × ℕ :=
  let node := nodes.size
  let old := get nodes previous
  let nodes := nodes.push { old with count := old.count + 1 }
  if 1 < high - low then
    let middle := (low + high) / 2
    if position < middle then
      let grown := insert nodes old.left low middle position
      (grown.1.modify node fun entry => { entry with left := grown.2 }, node)
    else
      let grown := insert nodes old.right middle high position
      (grown.1.modify node fun entry => { entry with right := grown.2 }, node)
  else (nodes, node)
termination_by high - low

/-- How many inserted positions lie below the given one, added to the result so far. -/
def less (nodes : Nodes) (root low high result position : ℕ) : ℕ :=
  if root ≠ 0 ∧ low < high then
    if high ≤ position then result + (get nodes root).count
    else if position ≤ low then result
    else
      let middle := (low + high) / 2
      let node := get nodes root
      if position ≤ middle then less nodes node.left low middle result position
      else less nodes node.right middle high (result + (get nodes node.left).count) position
  else result
termination_by high - low

/-! ### What a root counts -/

/-- A part of the store: the nodes that have got their final halves. -/
abbrev Heap := ℕ → Option Node

inductive Counts (heap : Heap) : ℕ → ℕ → ℕ → List ℕ → Prop where
  | empty (low high : ℕ) : Counts heap 0 low high []
  | leaf {root low high : ℕ} {positions : List ℕ} {node : Node} (held : root ≠ 0)
      (stored : heap root = some node) (count : node.count = positions.length)
      (narrow : ¬ 1 < high - low)
      (inside : ∀ position ∈ positions, low ≤ position ∧ position < high) :
      Counts heap root low high positions
  | branch {root low high : ℕ} {positions : List ℕ} {node : Node} (held : root ≠ 0)
      (stored : heap root = some node) (count : node.count = positions.length)
      (wide : 1 < high - low)
      (left : Counts heap node.left low ((low + high) / 2)
        (positions.filter (· < (low + high) / 2)))
      (right : Counts heap node.right ((low + high) / 2) high
        (positions.filter ((low + high) / 2 ≤ ·))) :
      Counts heap root low high positions

structure Stores (nodes : Nodes) (heap : Heap) : Prop where
  empty : nodes[0]? = some (default : Node)
  holds : ∀ index node, heap index = some node → nodes[index]? = some node

variable {nodes : Nodes} {heap larger : Heap} {root low high position : ℕ} {positions : List ℕ}

/-- Every node of the first is one of the second. -/
def Within (heap larger : Heap) : Prop :=
  ∀ index node, heap index = some node → larger index = some node

theorem Counts.mono (counts : Counts heap root low high positions) (within : Within heap larger) :
    Counts larger root low high positions := by
  induction counts with
  | empty low high => exact .empty low high
  | leaf held stored count narrow inside => exact .leaf held (within _ _ stored) count narrow inside
  | branch held stored count wide _ _ leftHypothesis rightHypothesis =>
    exact .branch held (within _ _ stored) count wide leftHypothesis rightHypothesis

theorem Counts.inside (counts : Counts heap root low high positions) :
    ∀ position ∈ positions, low ≤ position ∧ position < high := by
  induction counts with
  | empty => exact fun _ member => absurd member List.not_mem_nil
  | leaf _ _ _ _ inside => exact inside
  | @branch root low high positions node _ _ _ wide _ _ leftHypothesis rightHypothesis =>
    intro position member
    by_cases below : position < (low + high) / 2
    · have bounds := leftHypothesis position (List.mem_filter.mpr ⟨member, by simpa using below⟩)
      omega
    · have bounds := rightHypothesis position
        (List.mem_filter.mpr ⟨member, by simpa using below⟩)
      omega

variable {index : ℕ} {node : Node}

theorem Stores.get (stores : Stores nodes heap) (stored : heap index = some node) :
    CountingTree.get nodes index = node := by
  rw [CountingTree.get, Array.getD_eq_getD_getElem?, stores.holds index node stored]
  rfl

theorem Stores.get_zero (stores : Stores nodes heap) : CountingTree.get nodes 0 = default := by
  rw [CountingTree.get, Array.getD_eq_getD_getElem?, stores.empty]
  rfl

theorem Stores.lt_size (stores : Stores nodes heap) (stored : heap index = some node) :
    index < nodes.size := by
  obtain ⟨bound, -⟩ := Array.getElem?_eq_some_iff.mp (stores.holds index node stored)
  exact bound

theorem Stores.size_ne_zero (stores : Stores nodes heap) : nodes.size ≠ 0 := by
  obtain ⟨bound, -⟩ := Array.getElem?_eq_some_iff.mp stores.empty
  exact bound.ne'

theorem Stores.push (stores : Stores nodes heap) (fresh : Node) :
    Stores (nodes.push fresh) heap where
  empty := by
    rw [Array.getElem?_push, if_neg stores.size_ne_zero.symm]
    exact stores.empty
  holds index node stored := by
    rw [Array.getElem?_push, if_neg (stores.lt_size stored).ne]
    exact stores.holds index node stored

theorem Counts.count (counts : Counts heap root low high positions) (stores : Stores nodes heap) :
    (get nodes root).count = positions.length := by
  cases counts with
  | empty => rw [stores.get_zero]; rfl
  | leaf held stored count => rw [stores.get stored, count]
  | branch held stored count => rw [stores.get stored, count]

theorem Counts.left (counts : Counts heap root low high positions) (stores : Stores nodes heap)
    (wide : 1 < high - low) :
    Counts heap (get nodes root).left low ((low + high) / 2)
      (positions.filter (· < (low + high) / 2)) := by
  cases counts with
  | empty => rw [stores.get_zero]; exact .empty low _
  | leaf _ _ _ narrow => exact absurd wide narrow
  | branch _ stored _ _ left => rw [stores.get stored]; exact left

theorem Counts.right (counts : Counts heap root low high positions) (stores : Stores nodes heap)
    (wide : 1 < high - low) :
    Counts heap (get nodes root).right ((low + high) / 2) high
      (positions.filter ((low + high) / 2 ≤ ·)) := by
  cases counts with
  | empty => rw [stores.get_zero]; exact .empty _ high
  | leaf _ _ _ narrow => exact absurd wide narrow
  | branch _ stored _ _ _ right => rw [stores.get stored]; exact right

/-! ### Queries -/

theorem countP_split (positions : List ℕ) {middle position : ℕ} (above : middle < position) :
    positions.countP (· < position) = (positions.filter (· < middle)).length +
      (positions.filter (middle ≤ ·)).countP (· < position) := by
  induction positions with
  | nil => rfl
  | cons head tail inductionHypothesis =>
    rw [List.countP_cons, inductionHypothesis]
    by_cases below : head < middle
    · simp [below, below.trans above, Nat.add_right_comm, not_le.mpr below]
    · simp [below, not_lt.mp below, List.countP_cons, Nat.add_assoc]

theorem countP_filter_of_le (positions : List ℕ) {middle position : ℕ} (below : position ≤ middle) :
    (positions.filter (· < middle)).countP (· < position) = positions.countP (· < position) := by
  rw [List.countP_filter]
  refine List.countP_congr fun one _ => ?_
  simp only [Bool.and_eq_true, decide_eq_true_eq, and_iff_left_iff_imp]
  exact fun less => less.trans_le below

theorem less_eq (stores : Stores nodes heap) (counts : Counts heap root low high positions)
    (result position : ℕ) :
    less nodes root low high result position = result + positions.countP (· < position) := by
  fun_induction less nodes root low high result position generalizing positions with
  | case1 root low high result proper above =>
    have all : positions.countP (· < position) = positions.length :=
      List.countP_eq_length.mpr fun one member =>
        decide_eq_true ((counts.inside one member).2.trans_le above)
    rw [counts.count stores, all]
  | case2 root low high result proper above below =>
    have none : positions.countP (· < position) = 0 :=
      List.countP_eq_zero.mpr fun one member less =>
        ((of_decide_eq_true less).trans_le below).not_ge (counts.inside one member).1
    rw [none, Nat.add_zero]
  | case3 root low high result proper above below middle node within =>
    rename_i inductionHypothesis
    rw [inductionHypothesis (counts.left stores (by omega)), countP_filter_of_le _ within]
  | case4 root low high result proper above below middle node beyond =>
    rename_i inductionHypothesis
    rw [inductionHypothesis (counts.right stores (by omega)),
      (counts.left stores (by omega)).count stores, countP_split positions (not_le.mp beyond),
      Nat.add_assoc]
  | case5 root low high result improper =>
    have nothing : positions = [] := by
      cases counts with
      | empty => rfl
      | leaf held _ _ _ inside =>
        refine List.eq_nil_iff_forall_not_mem.mpr fun one member => improper ⟨held, ?_⟩
        exact (inside one member).1.trans_lt (inside one member).2
      | branch held _ _ wide => exact absurd ⟨held, by omega⟩ improper
    rw [nothing]
    rfl

/-! ### Insertion -/

theorem Counts.length (counts : Counts heap root low high positions) (stores : Stores nodes heap) :
    (get nodes root).count + 1 = (positions ++ [position]).length := by
  rw [counts.count stores, List.length_append, List.length_singleton]

theorem Within.trans {largest : Heap} (first : Within heap larger)
    (second : Within larger largest) : Within heap largest :=
  fun index node held => second index node (first index node held)

theorem within_update (node : Node) (fresh : heap index = none) :
    Within heap (Function.update heap index (some node)) := by
  intro other entry held
  rw [Function.update_of_ne]
  · exact held
  · rintro rfl
    rw [fresh] at held
    cases held

theorem Stores.modify (stores : Stores nodes heap) (positive : index ≠ 0)
    (absent : heap index = none) (change : Node → Node) :
    Stores (nodes.modify index change) heap where
  empty := by
    rw [Array.getElem?_modify, if_neg positive]
    exact stores.empty
  holds other entry held := by
    have different : index ≠ other := by
      rintro rfl
      rw [absent] at held
      cases held
    rw [Array.getElem?_modify, if_neg different]
    exact stores.holds other entry held

theorem Stores.update (stores : Stores nodes heap) (stored : nodes[index]? = some node) :
    Stores nodes (Function.update heap index (some node)) where
  empty := stores.empty
  holds other entry held := by
    by_cases same : other = index
    · rw [same] at held ⊢
      rw [stored, ← held, Function.update_self]
    · rw [Function.update_of_ne same] at held
      exact stores.holds other entry held

/-- The heap keeps its nodes and gets new ones only. -/
structure Grows (nodes after : Nodes) (heap larger : Heap) : Prop where
  within : Within heap larger
  fresh : ∀ index node, larger index = some node → heap index = some node ∨ nodes.size ≤ index
  stores : Stores after larger

theorem Grows.absent {entry : Node} {after : Nodes} (stores : Stores nodes heap)
    (grows : Grows (nodes.push entry) after heap larger) : larger nodes.size = none := by
  refine Option.eq_none_iff_forall_ne_some.mpr fun node held => ?_
  obtain old | new := grows.fresh _ node held
  · exact (stores.lt_size old).ne rfl
  · rw [Array.size_push] at new
    omega

theorem Grows.join {entry : Node} {after final : Nodes} (stores : Stores nodes heap)
    (grows : Grows (nodes.push entry) after heap larger) (node : Node)
    (kept : Stores final larger) (stored : final[nodes.size]? = some node) :
    Within larger (Function.update larger nodes.size (some node)) ∧
      Grows nodes final heap (Function.update larger nodes.size (some node)) := by
  have within := within_update node (grows.absent stores)
  refine ⟨within, grows.within.trans within, fun index other held => ?_, kept.update stored⟩
  by_cases same : index = nodes.size
  · exact .inr same.ge
  · rw [Function.update_of_ne same] at held
    refine (grows.fresh index other held).imp id fun new => ?_
    rw [Array.size_push] at new
    omega

theorem insert_older (older : index < nodes.size) :
    (insert nodes root low high position).1[index]? = nodes[index]? := by
  fun_induction insert nodes root low high position with
  | case1 nodes root low high node old pushed wide middle below =>
    rename_i hypothesis
    rw [Array.getElem?_modify, if_neg older.ne', hypothesis (by simp [pushed]; omega),
      Array.getElem?_push, if_neg older.ne]
  | case2 nodes root low high node old pushed wide middle above =>
    rename_i hypothesis
    rw [Array.getElem?_modify, if_neg older.ne', hypothesis (by simp [pushed]; omega),
      Array.getElem?_push, if_neg older.ne]
  | case3 nodes root low high node old =>
    rw [Array.getElem?_push, if_neg older.ne]

theorem insert_spec (stores : Stores nodes heap) (counts : Counts heap root low high positions)
    (inside : low ≤ position ∧ position < high) :
    ∃ larger, Grows nodes (insert nodes root low high position).1 heap larger ∧
      Counts larger (insert nodes root low high position).2 low high (positions ++ [position]) := by
  fun_induction insert nodes root low high position generalizing heap positions with
  | case1 nodes root low high node old pushed wide middle below =>
    rename_i grown hypothesis
    obtain ⟨larger, grows, child⟩ := hypothesis (stores.push _) (counts.left stores wide)
      ⟨inside.1, below⟩
    have first : grown.1[nodes.size]? = some { old with count := old.count + 1 } :=
      (insert_older (by simp [pushed])).trans Array.getElem?_push_size
    obtain ⟨within, joined⟩ := grows.join stores
      { old with count := old.count + 1, left := grown.2 }
      (grows.stores.modify stores.size_ne_zero (grows.absent stores)
        fun entry => { entry with left := grown.2 })
      (by rw [Array.getElem?_modify, if_pos rfl, first]; rfl)
    have own : (positions ++ [position]).filter (· < middle) =
        positions.filter (· < middle) ++ [position] := by
      simp [List.filter_append, below]
    have others : (positions ++ [position]).filter (middle ≤ ·) =
        positions.filter (middle ≤ ·) := by
      simp [List.filter_append, below]
    refine ⟨_, joined, .branch stores.size_ne_zero (Function.update_self ..)
      (counts.length stores) wide ?_ ?_⟩
    · rw [own]
      exact child.mono within
    · rw [others]
      exact (counts.right stores wide).mono (grows.within.trans within)
  | case2 nodes root low high node old pushed wide middle above =>
    rename_i grown hypothesis
    obtain ⟨larger, grows, child⟩ := hypothesis (stores.push _) (counts.right stores wide)
      ⟨not_lt.mp above, inside.2⟩
    have first : grown.1[nodes.size]? = some { old with count := old.count + 1 } :=
      (insert_older (by simp [pushed])).trans Array.getElem?_push_size
    obtain ⟨within, joined⟩ := grows.join stores
      { old with count := old.count + 1, right := grown.2 }
      (grows.stores.modify stores.size_ne_zero (grows.absent stores)
        fun entry => { entry with right := grown.2 })
      (by rw [Array.getElem?_modify, if_pos rfl, first]; rfl)
    have own : (positions ++ [position]).filter (middle ≤ ·) =
        positions.filter (middle ≤ ·) ++ [position] := by
      simp [List.filter_append, not_lt.mp above]
    have others : (positions ++ [position]).filter (· < middle) =
        positions.filter (· < middle) := by
      simp [List.filter_append, above]
    refine ⟨_, joined, .branch stores.size_ne_zero (Function.update_self ..)
      (counts.length stores) wide ?_ ?_⟩
    · rw [others]
      exact (counts.left stores wide).mono (grows.within.trans within)
    · rw [own]
      exact child.mono within
  | case3 nodes root low high node old =>
    rename_i pushed narrow
    have same : Grows pushed pushed heap heap :=
      ⟨fun _ _ held => held, fun _ _ held => .inl held, stores.push _⟩
    obtain ⟨within, joined⟩ := same.join stores _ same.stores Array.getElem?_push_size
    refine ⟨_, joined, .leaf stores.size_ne_zero (Function.update_self ..) (counts.length stores)
      narrow fun one member => ?_⟩
    obtain old | new := List.mem_append.mp member
    · exact counts.inside one old
    · rw [List.mem_singleton.mp new]
      exact inside

/-! ### Sequences of insertions -/

/-- Insert the position below the last root, and keep the new root with the older ones. -/
def extend (size : ℕ) (built : Nodes × List ℕ) (position : ℕ) : Nodes × List ℕ :=
  let grown := insert built.1 (built.2.getLastD 0) 0 size position
  (grown.1, built.2 ++ [grown.2])

/-- The store and the roots after the positions, the empty root first. -/
def build (size : ℕ) (positions : List ℕ) : Nodes × List ℕ :=
  positions.foldl (extend size) (#[default], [0])

structure Prefixes (size : ℕ) (built : Nodes × List ℕ) (positions : List ℕ) (heap : Heap) :
    Prop where
  stores : Stores built.1 heap
  length : built.2.length = positions.length + 1
  counts : ∀ count root, built.2[count]? = some root →
    Counts heap root 0 size (positions.take count)

variable {built : Nodes × List ℕ} {size : ℕ}

theorem Prefixes.getElem?_length (prefixes : Prefixes size built positions heap) :
    built.2[positions.length]? = some (built.2.getLastD 0) := by
  have bound : positions.length < built.2.length := by rw [prefixes.length]; omega
  rw [List.getLastD_eq_getLast?, List.getLast?_eq_getElem?, prefixes.length,
    Nat.add_sub_cancel, List.getElem?_eq_getElem bound]
  rfl

theorem Prefixes.last (prefixes : Prefixes size built positions heap) :
    Counts heap (built.2.getLastD 0) 0 size positions := by
  have counts := prefixes.counts _ _ prefixes.getElem?_length
  rwa [List.take_length] at counts

theorem Prefixes.extend (prefixes : Prefixes size built positions heap) (inside : position < size) :
    ∃ larger, Prefixes size (extend size built position) (positions ++ [position]) larger := by
  obtain ⟨larger, grows, newest⟩ :=
    insert_spec prefixes.stores prefixes.last ⟨Nat.zero_le position, inside⟩
  refine ⟨larger, grows.stores, ?_, fun count root found => ?_⟩
  · simp [CountingTree.extend, prefixes.length]
  · change (built.2 ++ [_])[count]? = some root at found
    by_cases old : count < built.2.length
    · rw [List.getElem?_append_left old] at found
      rw [prefixes.length] at old
      rw [List.take_append_of_le_length (by omega)]
      exact (prefixes.counts count root found).mono grows.within
    · rw [List.getElem?_append_right (not_lt.mp old)] at found
      obtain rfl := List.mem_singleton.mp (List.mem_of_getElem? found)
      rw [prefixes.length] at old
      rw [List.take_of_length_le (by rw [List.length_append, List.length_singleton]; omega)]
      exact newest

theorem build_spec (inside : ∀ position ∈ positions, position < size) :
    ∃ heap, Prefixes size (build size positions) positions heap := by
  induction positions using List.reverseRecOn with
  | nil =>
    refine ⟨fun _ => none, ⟨rfl, nofun⟩, rfl, fun count root found => ?_⟩
    obtain rfl : root = 0 := by
      cases count <;> simp_all [build]
    rw [List.take_nil]
    exact .empty 0 size
  | append_singleton positions position inductionHypothesis =>
    obtain ⟨heap, prefixes⟩ := inductionHypothesis fun one member =>
      inside one (List.mem_append_left _ member)
    unfold build
    rw [List.foldl_concat]
    exact prefixes.extend (inside position (List.mem_append_right _ List.mem_cons_self))

variable {count : ℕ}

theorem Prefixes.of_le (prefixes : Prefixes size built positions heap)
    (bound : count ≤ positions.length) :
    Counts heap (built.2.getD count 0) 0 size (positions.take count) := by
  refine prefixes.counts count _ ?_
  have inside : count < built.2.length := by rw [prefixes.length]; omega
  rw [List.getD_eq_getElem _ _ inside, List.getElem?_eq_getElem inside]

theorem count_build (inside : ∀ position ∈ positions, position < size)
    (bound : count ≤ positions.length) :
    (get (build size positions).1 ((build size positions).2.getD count 0)).count = count := by
  obtain ⟨heap, prefixes⟩ := build_spec inside
  rw [(prefixes.of_le bound).count prefixes.stores, List.length_take_of_le bound]

theorem less_build (inside : ∀ position ∈ positions, position < size)
    (bound : count ≤ positions.length) (position : ℕ) :
    less (build size positions).1 ((build size positions).2.getD count 0) 0 size 0 position =
      (positions.take count).countP (· < position) := by
  obtain ⟨heap, prefixes⟩ := build_spec inside
  rw [less_eq prefixes.stores (prefixes.of_le bound), Nat.zero_add]

theorem getLastD_build (inside : ∀ position ∈ positions, position < size) :
    (build size positions).2.getLastD 0 = (build size positions).2.getD positions.length 0 := by
  obtain ⟨heap, prefixes⟩ := build_spec inside
  rw [List.getD_eq_getElem?_getD, prefixes.getElem?_length]
  rfl

end QuantAgent.CountingTree
