import ViewCompiler.Program.Basic
import Mathlib.Data.List.Basic

/-!
# Places of nodes

A place is the way down to a node: its index among the topmost nodes, then an
index among the children at every step.  The places of all nodes are listed
here in the order of a walk, which is the lexicographic order.  Along the way to
a node it matters for some outputs which of the nodes passed are the last of
their siblings; these flags, node by node, say as much as the nesting of the
nodes does.
-/

namespace ViewCompiler
namespace Node

/-- What holds of a list of nodes if it holds of the children of its first node
and of the others holds of every list. -/
theorem forest_induction {motive : List Node → Prop} (nil : motive [])
    (cons : ∀ node rest, motive node.children → motive rest →
      motive (node :: rest)) (nodes : List Node) : motive nodes := by
  match nodes with
  | [] => exact nil
  | .element tag props children :: rest =>
      exact cons _ rest (forest_induction nil cons children)
        (forest_induction nil cons rest)
  | .conditional condition children :: rest =>
      exact cons _ rest (forest_induction nil cons children)
        (forest_induction nil cons rest)
  | .loop item source children :: rest =>
      exact cons _ rest (forest_induction nil cons children)
        (forest_induction nil cons rest)

theorem walk_eq_cons (node : Node) :
    node.walk = node :: walkAll node.children := by
  cases node with
  | element tag props inner => rw [walk, children]
  | conditional condition inner => rw [walk, children]
  | loop item source inner => rw [walk, children]

theorem walkAll_cons (node : Node) (rest : List Node) :
    walkAll (node :: rest) =
      node :: walkAll node.children ++ walkAll rest := by
  rw [walkAll, walk_eq_cons]

/-! ## What stands at a place -/

/-- The children of the node at an index. -/
def childrenAt (nodes : List Node) (index : Nat) : List Node :=
  (nodes[index]?.map children).getD []

/-- The node at a place. -/
def at? : List Node → List Nat → Option Node
  | _, [] => none
  | nodes, [index] => nodes[index]?
  | nodes, index :: next :: rest => at? (childrenAt nodes index) (next :: rest)

/-- The node at a place is the last of its siblings. -/
def isLast : List Node → List Nat → Bool
  | _, [] => false
  | nodes, [index] => index + 1 == nodes.length
  | nodes, index :: next :: rest =>
    isLast (childrenAt nodes index) (next :: rest)

/-- For every node on the way down to a place, the one at the place included,
whether it is the last of its siblings. -/
def lasts (nodes : List Node) (place : List Nat) : List Bool :=
  (List.range place.length).map fun step => isLast nodes (place.take (step + 1))

mutual

/-- The places of the nodes inside a node, seen from the node. -/
def innerPlaces : Node → List (List Nat)
  | element _ _ children => places children
  | conditional _ children => places children
  | loop _ _ children => places children

/-- The places of all nodes, each before those inside it. -/
def places : List Node → List (List Nat)
  | [] => []
  | node :: rest =>
    [0] :: (innerPlaces node).map (0 :: ·) ++
      (places rest).map (List.modifyHead (· + 1))

end

theorem places_cons (node : Node) (rest : List Node) :
    places (node :: rest) =
      [0] :: (places node.children).map (0 :: ·) ++
        (places rest).map (List.modifyHead (· + 1)) := by
  cases node with
  | element tag props children => rw [places, innerPlaces]; rfl
  | conditional condition children => rw [places, innerPlaces]; rfl
  | loop item source children => rw [places, innerPlaces]; rfl

/-- A place is that of the first node, one inside it, or one further on. -/
theorem mem_places_cons_iff {node : Node} {rest : List Node}
    {place : List Nat} :
    place ∈ places (node :: rest) ↔
      place = [0] ∨ (∃ inner ∈ places node.children, place = 0 :: inner) ∨
        ∃ other ∈ places rest, place = other.modifyHead (· + 1) := by
  rw [places_cons, List.mem_append, List.mem_cons, List.mem_map, List.mem_map,
    or_assoc]
  simp only [eq_comm]

theorem ne_nil_of_mem_places {nodes : List Node} {place : List Nat}
    (hplace : place ∈ places nodes) : place ≠ [] := by
  induction nodes generalizing place with
  | nil => simp [places] at hplace
  | cons node rest ih =>
      rcases mem_places_cons_iff.mp hplace with
        rfl | ⟨inner, _, rfl⟩ | ⟨other, hother, rfl⟩
      · simp
      · simp
      · simpa using ih hother

section FirstStep

variable (node : Node) (rest : List Node)

theorem childrenAt_zero : childrenAt (node :: rest) 0 = node.children := rfl

theorem childrenAt_succ (index : Nat) :
    childrenAt (node :: rest) (index + 1) = childrenAt rest index := rfl

theorem at?_inner {inner : List Nat} (hinner : inner ≠ []) :
    at? (node :: rest) (0 :: inner) = at? node.children inner := by
  cases inner with
  | nil => contradiction
  | cons index more => rw [at?, childrenAt_zero]

theorem at?_further {other : List Nat} (hother : other ≠ []) :
    at? (node :: rest) (other.modifyHead (· + 1)) = at? rest other := by
  cases other with
  | nil => contradiction
  | cons index more =>
      cases more with
      | nil => rfl
      | cons next more => rw [List.modifyHead_cons, at?, at?, childrenAt_succ]

theorem isLast_first : isLast (node :: rest) [0] = rest.isEmpty := by
  cases rest with
  | nil => rfl
  | cons next others => rfl

theorem isLast_inner {inner : List Nat} (hinner : inner ≠ []) :
    isLast (node :: rest) (0 :: inner) = isLast node.children inner := by
  cases inner with
  | nil => contradiction
  | cons index more => rw [isLast, childrenAt_zero]

theorem isLast_further (index : Nat) (more : List Nat) :
    isLast (node :: rest) ((index + 1) :: more) =
      isLast rest (index :: more) := by
  cases more with
  | nil => simp [isLast]
  | cons next more => rw [isLast, isLast, childrenAt_succ]

theorem lasts_first : lasts (node :: rest) [0] = [rest.isEmpty] := by
  rw [lasts]
  exact congrArg (fun flag => [flag]) (isLast_first node rest)

theorem lasts_inner (inner : List Nat) :
    lasts (node :: rest) (0 :: inner) =
      rest.isEmpty :: lasts node.children inner := by
  rw [lasts, List.length_cons, List.range_succ_eq_map, List.map_cons,
    List.map_map]
  refine congrArg₂ List.cons (isLast_first node rest) ?_
  apply List.map_congr_left
  intro step hstep
  have hlength : step < inner.length := List.mem_range.mp hstep
  apply isLast_inner
  rw [← List.length_pos_iff, List.length_take]
  omega

theorem lasts_further {other : List Nat} (hother : other ≠ []) :
    lasts (node :: rest) (other.modifyHead (· + 1)) = lasts rest other := by
  cases other with
  | nil => contradiction
  | cons index more =>
      apply List.map_congr_left
      intro step _
      exact isLast_further node rest index (more.take step)

end FirstStep

/-! ## The places of all nodes -/

/-- At the places of the list stand the nodes of a walk, in its order. -/
theorem map_at?_places (nodes : List Node) :
    (places nodes).map (at? nodes) = (walkAll nodes).map some := by
  induction nodes using forest_induction with
  | nil => rfl
  | cons node rest hinner hrest =>
      have hinside : ((places node.children).map (0 :: ·)).map
          (at? (node :: rest)) = (places node.children).map (at? node.children) := by
        rw [List.map_map]
        apply List.map_congr_left
        intro inner hplace
        exact at?_inner node rest (ne_nil_of_mem_places hplace)
      have hbehind : ((places rest).map (List.modifyHead (· + 1))).map
          (at? (node :: rest)) = (places rest).map (at? rest) := by
        rw [List.map_map]
        apply List.map_congr_left
        intro other hplace
        exact at?_further node rest (ne_nil_of_mem_places hplace)
      rw [places_cons, walkAll_cons, List.map_append, List.map_cons, hinside,
        hbehind, hinner, hrest, List.map_append, List.map_cons]
      rfl

theorem at?_nil (place : List Nat) : at? [] place = none := by
  induction place with
  | nil => rfl
  | cons index rest ih =>
      cases rest with
      | nil => rfl
      | cons next more => exact ih

/-- The list has the place of every node and no other. -/
theorem mem_places_iff {nodes : List Node} {place : List Nat} :
    place ∈ places nodes ↔ (at? nodes place).isSome = true := by
  constructor
  · intro hplace
    have hmem : at? nodes place ∈ (walkAll nodes).map some := by
      rw [← map_at?_places]
      exact List.mem_map_of_mem hplace
    obtain ⟨node, _, hnode⟩ := List.mem_map.mp hmem
    rw [← hnode, Option.isSome_some]
  · intro hsome
    induction nodes using forest_induction generalizing place with
    | nil => simp [at?_nil] at hsome
    | cons node rest hinner hrest =>
        rw [mem_places_cons_iff]
        cases place with
        | nil => contradiction
        | cons index more =>
            cases index with
            | zero =>
                cases more with
                | nil => exact Or.inl rfl
                | cons next more =>
                    refine Or.inr (Or.inl ⟨next :: more, ?_, rfl⟩)
                    exact hinner hsome
            | succ index =>
                have hother : (at? rest (index :: more)).isSome = true := by
                  rwa [← at?_further node rest (List.cons_ne_nil index more)]
                exact Or.inr (Or.inr ⟨index :: more, hrest hother, rfl⟩)

theorem modifyHead_lt_modifyHead {place other : List Nat} (hplace : place ≠ [])
    (hlt : place < other) :
    place.modifyHead (· + 1) < other.modifyHead (· + 1) := by
  cases place with
  | nil => contradiction
  | cons index more =>
      cases other with
      | nil => contradiction
      | cons index' more' =>
          rw [List.cons_lt_cons_iff] at hlt
          rw [List.modifyHead_cons, List.modifyHead_cons, List.cons_lt_cons_iff]
          exact hlt.imp Nat.succ_lt_succ fun ⟨heq, hmore⟩ =>
            ⟨congrArg (· + 1) heq, hmore⟩

theorem zero_cons_lt_modifyHead (inner : List Nat) {other : List Nat}
    (hother : other ≠ []) : 0 :: inner < other.modifyHead (· + 1) := by
  cases other with
  | nil => contradiction
  | cons index more =>
      rw [List.modifyHead_cons, List.cons_lt_cons_iff]
      exact Or.inl (Nat.succ_pos index)

/-- The places come in lexicographic order. -/
theorem pairwise_lt_places (nodes : List Node) :
    (places nodes).Pairwise (· < ·) := by
  induction nodes using forest_induction with
  | nil => simp [places]
  | cons node rest hinner hrest =>
      have hinside : ((places node.children).map (0 :: ·)).Pairwise (· < ·) := by
        rw [List.pairwise_map]
        exact hinner.imp fun hlt => List.cons_lt_cons_iff.mpr (Or.inr ⟨rfl, hlt⟩)
      have hbehind :
          ((places rest).map (List.modifyHead (· + 1))).Pairwise (· < ·) := by
        rw [List.pairwise_map]
        exact hrest.imp_of_mem fun hplace _ =>
          modifyHead_lt_modifyHead (ne_nil_of_mem_places hplace)
      rw [places_cons, List.pairwise_append, List.pairwise_cons]
      refine ⟨⟨?_, hinside⟩, hbehind, ?_⟩
      · intro place hplace
        obtain ⟨inner, hmem, rfl⟩ := List.mem_map.mp hplace
        rw [List.cons_lt_cons_iff]
        refine Or.inr ⟨rfl, ?_⟩
        cases inner with
        | nil => exact absurd rfl (ne_nil_of_mem_places hmem)
        | cons index more => exact List.nil_lt_cons index more
      · intro place hplace later hlater
        obtain ⟨other, hmem, rfl⟩ := List.mem_map.mp hlater
        have hother := ne_nil_of_mem_places hmem
        rcases List.mem_cons.mp hplace with rfl | hinner
        · exact zero_cons_lt_modifyHead [] hother
        · obtain ⟨inner, _, rfl⟩ := List.mem_map.mp hinner
          exact zero_cons_lt_modifyHead inner hother

/-! ## Nesting -/

/-- How nodes are nested, whatever they are. -/
inductive Shape where
  | node (inner : List Shape)

mutual

def shape : Node → Shape
  | element _ _ children => .node (shapes children)
  | conditional _ children => .node (shapes children)
  | loop _ _ children => .node (shapes children)

def shapes : List Node → List Shape
  | [] => []
  | node :: rest => node.shape :: shapes rest

end

theorem shape_eq_node (node : Node) :
    node.shape = .node (shapes node.children) := by
  cases node with
  | element tag props inner => rw [shape, children]
  | conditional condition inner => rw [shape, children]
  | loop item source inner => rw [shape, children]

theorem shapes_cons_eq_iff {node other : Node} {rest others : List Node} :
    shapes (node :: rest) = shapes (other :: others) ↔
      shapes node.children = shapes other.children ∧
        shapes rest = shapes others := by
  rw [shapes, shapes, List.cons.injEq, shape_eq_node, shape_eq_node,
    Shape.node.injEq]

theorem isEmpty_eq_of_shapes_eq {nodes others : List Node}
    (hshapes : shapes nodes = shapes others) :
    nodes.isEmpty = others.isEmpty := by
  cases nodes with
  | nil =>
      cases others with
      | nil => rfl
      | cons other rest => simp [shapes] at hshapes
  | cons node rest =>
      cases others with
      | nil => simp [shapes] at hshapes
      | cons other rest => rfl

/-- For every node in the order of a walk, the flags along the way to it. -/
def standings (nodes : List Node) : List (List Bool) :=
  (places nodes).map (lasts nodes)

theorem standings_cons (node : Node) (rest : List Node) :
    standings (node :: rest) =
      [rest.isEmpty] :: (standings node.children).map (rest.isEmpty :: ·) ++
        standings rest := by
  have hinside : ((places node.children).map (0 :: ·)).map (lasts (node :: rest)) =
      (standings node.children).map (rest.isEmpty :: ·) := by
    rw [standings, List.map_map, List.map_map]
    apply List.map_congr_left
    intro inner _
    exact lasts_inner node rest inner
  have hbehind : ((places rest).map (List.modifyHead (· + 1))).map
      (lasts (node :: rest)) = standings rest := by
    rw [standings, List.map_map]
    apply List.map_congr_left
    intro other hplace
    exact lasts_further node rest (ne_nil_of_mem_places hplace)
  rw [standings, places_cons, List.map_append, List.map_cons, hinside, hbehind,
    lasts_first]

theorem ne_nil_of_mem_standings {nodes : List Node} {flags : List Bool}
    (hflags : flags ∈ standings nodes) : flags ≠ [] := by
  obtain ⟨place, hplace, rfl⟩ := List.mem_map.mp hflags
  have hne := ne_nil_of_mem_places hplace
  simpa [lasts] using hne

theorem one_lt_length_of_mem_inner {nodes : List Node} (flag : Bool) :
    ∀ flags ∈ (standings nodes).map (flag :: ·), 1 < flags.length := by
  intro flags hflags
  obtain ⟨inner, hinner, rfl⟩ := List.mem_map.mp hflags
  have hpos := List.length_pos_iff.mpr (ne_nil_of_mem_standings hinner)
  rw [List.length_cons]
  omega

/-- The ways to the nodes inside a node have more than one step, and the way to
the node behind it has one, so that the list can be taken apart. -/
theorem append_standings_inj {inner inner' : List (List Bool)}
    {rest others : List Node}
    (hinner : ∀ flags ∈ inner, 1 < flags.length)
    (hinner' : ∀ flags ∈ inner', 1 < flags.length)
    (heq : inner ++ standings rest = inner' ++ standings others) :
    inner = inner' ∧ standings rest = standings others := by
  have hcut : ∀ (front : List (List Bool)) (nodes : List Node),
      (∀ flags ∈ front, 1 < flags.length) →
      (front ++ standings nodes).takeWhile (fun flags => 1 < flags.length) =
        front := by
    intro front nodes hfront
    rw [List.takeWhile_append_of_pos (by simpa using hfront)]
    cases nodes with
    | nil => simp [standings, places]
    | cons node rest => simp [standings_cons]
  have hfront : inner = inner' := by
    rw [← hcut inner rest hinner, heq, hcut inner' others hinner']
  subst hfront
  exact ⟨rfl, List.append_cancel_left heq⟩

/-- The flags along the ways to the nodes determine how the nodes are nested,
and are determined by it. -/
theorem standings_eq_iff {nodes others : List Node} :
    standings nodes = standings others ↔ shapes nodes = shapes others := by
  induction nodes using forest_induction generalizing others with
  | nil =>
      cases others with
      | nil => simp
      | cons other rest => simp [shapes, standings, places]
  | cons node rest hinner hrest =>
      cases others with
      | nil => simp [shapes, standings, places]
      | cons other others =>
          rw [shapes_cons_eq_iff, ← hinner, ← hrest, standings_cons,
            standings_cons]
          constructor
          · intro heq
            obtain ⟨hfirst, htail⟩ := List.cons.inj heq
            have hempty : rest.isEmpty = others.isEmpty := (List.cons.inj hfirst).1
            rw [hempty] at htail
            obtain ⟨hmap, hothers⟩ := append_standings_inj
              (one_lt_length_of_mem_inner _) (one_lt_length_of_mem_inner _) htail
            exact ⟨List.map_injective_iff.mpr List.cons_injective hmap, hothers⟩
          · rintro ⟨hchildren, hothers⟩
            rw [hchildren, hothers, isEmpty_eq_of_shapes_eq (hrest.mp hothers)]

end Node
end ViewCompiler
