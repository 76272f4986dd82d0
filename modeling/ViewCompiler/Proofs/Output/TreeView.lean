import ViewCompiler.Output.Tree
import ViewCompiler.Proofs.Program.Places

/-!
# The tree view shows how nodes are nested

In the tree of a program every node has one line.  To the left of what the line
says stands its stem: a trunk for every node around the node, and the branch to
the node itself, each four characters wide.  Trunks and branches tell which
nodes are the last of their siblings.  The stem of a line can be read off its
characters, since no trunk looks like a branch, and the stems of all lines
determine the nesting of the nodes.
-/

namespace ViewCompiler
namespace Tree

/-! ## The line of a place -/

/-- The trunks of the nodes around a place, from the outside. -/
def trunksAt (nodes : List Node) (place : List Nat) : String :=
  String.join ((List.range (place.length - 1)).map fun step =>
    if Node.isLast nodes (place.take (step + 1)) then "    " else "│   ")

/-- The branch to a place. -/
def branchAt (nodes : List Node) (place : List Nat) : String :=
  if Node.isLast nodes place then "└── " else "├── "

/-- The line that belongs to a place. -/
def lineAt (nodes : List Node) (place : List Nat) : String :=
  trunksAt nodes place ++ branchAt nodes place ++
    ((Node.at? nodes place).map label).getD ""

/-- The trunks and the branch that flags along a way stand for. -/
def guide : List Bool → String
  | [] => ""
  | [isLast] => branch isLast
  | isLast :: next :: inner => trunk isLast ++ guide (next :: inner)

theorem guide_cons (isLast : Bool) {inner : List Bool} (hinner : inner ≠ []) :
    guide (isLast :: inner) = trunk isLast ++ guide inner := by
  cases inner with
  | nil => contradiction
  | cons next more => rw [guide]

theorem guide_append_singleton (flags : List Bool) (isLast : Bool) :
    guide (flags ++ [isLast]) =
      String.join (flags.map trunk) ++ branch isLast := by
  induction flags with
  | nil => simp [guide]
  | cons flag rest ih =>
      have hrest : rest ++ [isLast] ≠ [] := by simp
      rw [List.cons_append, guide_cons flag hrest, ih, List.map_cons,
        String.join_cons, String.append_assoc]

theorem lasts_eq_append (nodes : List Node) {place : List Nat}
    (hplace : place ≠ []) :
    Node.lasts nodes place =
      (List.range (place.length - 1)).map
          (fun step => Node.isLast nodes (place.take (step + 1))) ++
        [Node.isLast nodes place] := by
  have hlength : place.length = place.length - 1 + 1 := by
    have hpos := List.length_pos_iff.mpr hplace
    omega
  rw [Node.lasts, hlength, List.range_succ, List.map_append, ← hlength,
    List.map_singleton, ← hlength, List.take_length]

theorem guide_lasts (nodes : List Node) {place : List Nat}
    (hplace : place ≠ []) :
    guide (Node.lasts nodes place) =
      trunksAt nodes place ++ branchAt nodes place := by
  rw [lasts_eq_append nodes hplace, guide_append_singleton, List.map_map]
  rfl

theorem lineAt_eq (nodes : List Node) {place : List Nat} (hplace : place ≠ []) :
    lineAt nodes place =
      guide (Node.lasts nodes place) ++
        ((Node.at? nodes place).map label).getD "" := by
  rw [lineAt, guide_lasts nodes hplace]

/-! ## The lines of nodes -/

theorem siblingLines_cons (trunks : String) (node : Node) (rest : List Node) :
    siblingLines trunks (node :: rest) =
      (trunks ++ branch rest.isEmpty ++ label node) ::
        siblingLines (trunks ++ trunk rest.isEmpty) node.children ++
          siblingLines trunks rest := by
  cases node with
  | element tag props children => rw [siblingLines, nodeLines, Node.children]
  | conditional condition children => rw [siblingLines, nodeLines, Node.children]
  | loop item source children => rw [siblingLines, nodeLines, Node.children]

section FirstStep

variable (node : Node) (rest : List Node)

private theorem lineAt_first :
    lineAt (node :: rest) [0] = branch rest.isEmpty ++ label node := by
  rw [lineAt_eq _ (List.cons_ne_nil 0 []), Node.lasts_first]
  rfl

private theorem lineAt_inner {inner : List Nat} (hinner : inner ≠ []) :
    lineAt (node :: rest) (0 :: inner) =
      trunk rest.isEmpty ++ lineAt node.children inner := by
  have hflags : Node.lasts node.children inner ≠ [] := by
    simpa [Node.lasts] using hinner
  rw [lineAt_eq _ (List.cons_ne_nil 0 inner), lineAt_eq _ hinner,
    Node.lasts_inner, guide_cons _ hflags, Node.at?_inner node rest hinner,
    String.append_assoc]

private theorem lineAt_further {other : List Nat} (hother : other ≠ []) :
    lineAt (node :: rest) (other.modifyHead (· + 1)) = lineAt rest other := by
  have hmodified : other.modifyHead (· + 1) ≠ [] := by simpa using hother
  rw [lineAt_eq _ hmodified, lineAt_eq _ hother,
    Node.lasts_further node rest hother, Node.at?_further node rest hother]

end FirstStep

/-- The lines of nodes are those of their places, to the right of the trunks
that are there already. -/
theorem siblingLines_eq_map (trunks : String) (nodes : List Node) :
    siblingLines trunks nodes =
      (Node.places nodes).map fun place => trunks ++ lineAt nodes place := by
  induction nodes using Node.forest_induction generalizing trunks with
  | nil => simp [siblingLines, Node.places]
  | cons node rest hinner hrest =>
      rw [siblingLines_cons, hinner, hrest, Node.places_cons, List.map_append,
        List.map_cons, List.map_map, List.map_map, lineAt_first,
        ← String.append_assoc]
      refine congrArg₂ (· ++ ·) (congrArg₂ List.cons rfl ?_) ?_
      · apply List.map_congr_left
        intro inner hplace
        have hline := lineAt_inner node rest (Node.ne_nil_of_mem_places hplace)
        rw [Function.comp_apply, hline, String.append_assoc]
      · apply List.map_congr_left
        intro other hplace
        have hline := lineAt_further node rest (Node.ne_nil_of_mem_places hplace)
        rw [Function.comp_apply, hline]

/-! ## Stems -/

/-- The characters of a line up to its branch, by blocks of four. -/
def stemChars : List Char → List Char
  | a :: b :: c :: d :: rest =>
    if [a, b, c, d] = (branch true).toList ∨ [a, b, c, d] = (branch false).toList
    then [a, b, c, d]
    else a :: b :: c :: d :: stemChars rest
  | _ => []

/-- The trunks and the branch at the front of a line. -/
def stem (line : String) : String :=
  String.ofList (stemChars line.toList)

private theorem stemChars_branch (isLast : Bool) (text : List Char) :
    stemChars ((branch isLast).toList ++ text) = (branch isLast).toList := by
  cases isLast <;> simp [stemChars, branch]

private theorem stemChars_trunk (isLast : Bool) (text : List Char) :
    stemChars ((trunk isLast).toList ++ text) =
      (trunk isLast).toList ++ stemChars text := by
  cases isLast <;> simp [stemChars, branch, trunk]

theorem stem_guide_append {flags : List Bool} (hflags : flags ≠ [])
    (text : String) : stem (guide flags ++ text) = guide flags := by
  have hchars : stemChars ((guide flags).toList ++ text.toList) =
      (guide flags).toList := by
    induction flags with
    | nil => contradiction
    | cons flag rest ih =>
        cases rest with
        | nil => exact stemChars_branch flag text.toList
        | cons next inner =>
            rw [guide, String.toList_append, List.append_assoc, stemChars_trunk,
              ih (List.cons_ne_nil next inner)]
  rw [stem, String.toList_append, hchars, String.ofList_toList]

/-- The first block of a guide: a branch if it is the only one. -/
def block (isOnly isLast : Bool) : String :=
  if isOnly then branch isLast else trunk isLast

theorem guide_eq_append (isLast : Bool) (inner : List Bool) :
    guide (isLast :: inner) = block inner.isEmpty isLast ++ guide inner := by
  cases inner with
  | nil => simp [guide, block]
  | cons next more => rfl

theorem length_block (isOnly isLast : Bool) :
    (block isOnly isLast).toList.length = 4 := by
  revert isOnly isLast
  decide

theorem block_right_inj {isOnly isOnly' isLast isLast' : Bool}
    (heq : block isOnly isLast = block isOnly' isLast') : isLast = isLast' := by
  revert isOnly isOnly' isLast isLast'
  decide

theorem guide_ne_empty (isLast : Bool) (inner : List Bool) :
    guide (isLast :: inner) ≠ "" := by
  intro heq
  have hlength := congrArg (fun text => text.toList.length) heq
  simp only [guide_eq_append, String.toList_append, List.length_append,
    length_block, String.toList_empty, List.length_nil] at hlength
  omega

/-- Different flags have different trunks and branches. -/
theorem guide_injective : Function.Injective guide := by
  intro flags
  induction flags with
  | nil =>
      intro others heq
      cases others with
      | nil => rfl
      | cons other rest => exact absurd heq.symm (guide_ne_empty other rest)
  | cons flag rest ih =>
      intro others heq
      cases others with
      | nil => exact absurd heq (guide_ne_empty flag rest)
      | cons other others =>
          rw [guide_eq_append, guide_eq_append, ← String.toList_inj,
            String.toList_append, String.toList_append] at heq
          obtain ⟨hblock, hguide⟩ := List.append_inj heq (by
            rw [length_block, length_block])
          rw [block_right_inj (String.toList_inj.mp hblock),
            ih (String.toList_inj.mp hguide)]

theorem map_stem_siblingLines (nodes : List Node) :
    (siblingLines "" nodes).map stem = (Node.standings nodes).map guide := by
  rw [siblingLines_eq_map, Node.standings, List.map_map, List.map_map]
  apply List.map_congr_left
  intro place hplace
  have hne := Node.ne_nil_of_mem_places hplace
  have hflags : Node.lasts nodes place ≠ [] := by simpa [Node.lasts] using hne
  rw [Function.comp_apply, Function.comp_apply, String.empty_append,
    lineAt_eq nodes hne, stem_guide_append hflags]

private theorem length_join_trunks (flags : List Bool) :
    (String.join (flags.map trunk)).length = 4 * flags.length := by
  induction flags with
  | nil => rfl
  | cons flag rest ih =>
      have hblock : (trunk flag).length = 4 := by cases flag <;> decide
      rw [List.map_cons, String.join_cons, String.length_append, hblock, ih,
        List.length_cons]
      omega

private theorem length_trunksAt (nodes : List Node) (place : List Nat) :
    (trunksAt nodes place).length = 4 * (place.length - 1) := by
  have hjoin := length_join_trunks ((List.range (place.length - 1)).map
    fun step => Node.isLast nodes (place.take (step + 1)))
  rw [List.map_map, List.length_map, List.length_range] at hjoin
  exact hjoin

/-- In the tree view every node of a walk has one line, in the order of the
walk.  The line of a node is its trunks, four characters for every node around
it and blank below those that are the last of their siblings, its branch, which
tells whether the node is the last itself, and what is said of the node.  Trunks
and branch can be read off the line, and all of them together show exactly how
the nodes are nested. -/
theorem tree_view_determines_nesting (nodes : List Node) :
    (Node.places nodes).map (Node.at? nodes) = (Node.walkAll nodes).map some ∧
    (Node.places nodes).Pairwise (· < ·) ∧
    (∀ place, place ∈ Node.places nodes ↔
      (Node.at? nodes place).isSome = true) ∧
    siblingLines "" nodes = (Node.places nodes).map (lineAt nodes) ∧
    (∀ place ∈ Node.places nodes,
      (trunksAt nodes place).length = 4 * (place.length - 1) ∧
        stem (lineAt nodes place) =
          trunksAt nodes place ++ branchAt nodes place) ∧
    ∀ others,
      (siblingLines "" nodes).map stem = (siblingLines "" others).map stem ↔
        Node.shapes nodes = Node.shapes others := by
  refine ⟨Node.map_at?_places nodes, Node.pairwise_lt_places nodes,
    fun place => Node.mem_places_iff, ?_, ?_, ?_⟩
  · rw [siblingLines_eq_map]
    simp only [String.empty_append]
  · intro place hplace
    have hne := Node.ne_nil_of_mem_places hplace
    have hflags : Node.lasts nodes place ≠ [] := by simpa [Node.lasts] using hne
    refine ⟨length_trunksAt nodes place, ?_⟩
    rw [lineAt_eq nodes hne, stem_guide_append hflags, guide_lasts nodes hne]
  · intro others
    rw [map_stem_siblingLines, map_stem_siblingLines,
      (List.map_injective_iff.mpr guide_injective).eq_iff, Node.standings_eq_iff]

def userList : List Node :=
  [.element "Input" [("bind", .text "name")] [],
    .loop "user" (.of "users")
      [.element "Card" [] [.element "Text" [("text", .text "└── ")] []],
        .element "Row" [] []]]

/-- The text of a node is not taken for a branch. -/
theorem userList_view :
    siblingLines "" userList =
        ["├── Input [bind]", "└── for user in users", "    ├── Card",
          "    │   └── Text \"└── \"", "    └── Row"] ∧
      (trunksAt userList [1, 0, 0]).length = 4 * 2 ∧
      stem (lineAt userList [1, 0, 0]) = "    │   └── " ∧
      ∀ others,
        (siblingLines "" userList).map stem =
            (siblingLines "" others).map stem ↔
          Node.shapes userList = Node.shapes others := by
  obtain ⟨_, _, _, _, hplaces, hshapes⟩ := tree_view_determines_nesting userList
  have hplace : [1, 0, 0] ∈ Node.places userList := by decide
  obtain ⟨hlength, hstem⟩ := hplaces [1, 0, 0] hplace
  have hparts : trunksAt userList [1, 0, 0] ++ branchAt userList [1, 0, 0] =
      "    │   └── " := by decide +kernel
  exact ⟨by decide +kernel, hlength, hstem.trans hparts, hshapes⟩

end Tree
end ViewCompiler
