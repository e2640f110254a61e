import InlineMarkup.Proofs.Addresses
import InlineMarkup.Outline

/-!
# Margins of outlines

An outline has one line for each token, in the order of a walk, and the left part of a line tells
where its token stands. There is a cell for each ancestor, with a stroke in it if that ancestor has
a later sibling, and behind the cells what joins the token to the stroke of its own siblings.

The margins are made on the way down, so what is to be shown is that they are the same as if each
was made from the address of its token alone.

* `Outline.row` — the line of a token behind a margin.
* `Outline.marginAt` — the margin of an address, with `Outline.marginAt_inside` as the step into a
  branch.
* `Outline.forestLines_addresses` — the lines of a forest are those of its addresses, in order.
-/

namespace InlineMarkup.Outline

open Token (at? hasLater addresses addressesBelow)

variable {ts : List Token}

/-! ### Rows -/

/-- The line of a token behind a margin. -/
def row (margin : String) (last : Bool) (t : Token) : String :=
  margin ++ connector last ++ " " ++ label t

theorem tokenLines_leaf (margin : String) (last : Bool) (kind text : String) :
    tokenLines margin last (.leaf kind text) = [row margin last (.leaf kind text)] := by
  rw [tokenLines]
  rfl

theorem tokenLines_branch (margin : String) (last : Bool) (kind : String) (ts : List Token) :
    tokenLines margin last (.branch kind ts) =
      row margin last (.branch kind ts) :: forestLines (margin ++ cell last) ts := by
  rw [tokenLines]
  rfl

/-! ### Cells -/

/-- **The margin of a token,** told by its address: a cell for each of its ancestors. -/
def marginAt (ts : List Token) (p : Token.Address) : String :=
  String.join ((List.range (p.length - 1)).map fun j => cell (!hasLater ts (p.take (j + 1))))

/-- The cell of a token, by whether it has a later sibling. -/
theorem cell_not (later : Bool) : cell (!later) = if later then "│ " else "  " := by
  cases later <;> rfl

/-- What joins a token to its line, by whether it has a later sibling. -/
theorem connector_not (later : Bool) : connector (!later) = if later then "├─" else "└─" := by
  cases later <;> rfl

/-- A root has no margin. -/
theorem marginAt_root (ts : List Token) (i : Nat) : marginAt ts [i] = "" := rfl

/-- A sibling in front of all others changes no margin. -/
theorem marginAt_cons_succ (t : Token) (ts : List Token) (p : Token.Address) :
    marginAt (t :: ts) (p.modifyHead (· + 1)) = marginAt ts p := by
  unfold marginAt
  rw [List.length_modifyHead]
  have hfront (j : Nat) : (p.modifyHead (· + 1)).take (j + 1) =
      (p.take (j + 1)).modifyHead (· + 1) := by
    cases p <;> rfl
  simp only [hfront, Token.hasLater_cons_succ]

/-- **Inside a branch** the cell of the branch comes first. -/
theorem marginAt_inside (kind : String) (us ts : List Token) (i : Nat) (p : Token.Address) :
    marginAt (.branch kind us :: ts) (0 :: i :: p) = cell ts.isEmpty ++ marginAt us (i :: p) := by
  -- the first ancestor is the branch, and the others are ancestors inside it
  have hfirst : hasLater (.branch kind us :: ts) [0] = !ts.isEmpty :=
    Token.hasLater_cons_zero _ ts
  have hothers (j : Nat) :
      hasLater (.branch kind us :: ts) (0 :: i :: p.take j) = hasLater us (i :: p.take j) :=
    Token.hasLater_inside kind us ts i (p.take j)
  unfold marginAt
  rw [List.length_cons, Nat.add_sub_cancel, List.length_cons, Nat.add_sub_cancel,
    List.range_succ_eq_map, List.map_cons, String.join_cons, List.map_map]
  simp only [Function.comp_def, Nat.succ_eq_add_one, Nat.zero_add, List.take_succ_cons,
    List.take_zero, hfirst, hothers, Bool.not_not]

/-! ### Lines by addresses -/

/-- **The line of an address:** that of the token standing there, behind a margin that all tokens
have in common and its own. -/
def LineOf (ts : List Token) (front line : String) (p : Token.Address) : Prop :=
  ∃ t, at? ts p = some t ∧ line = row (front ++ marginAt ts p) (!hasLater ts p) t

mutual

theorem tokenLines_addresses (front : String) (ts : List Token) : (t : Token) →
    List.Forall₂ (fun line p => LineOf (t :: ts) front line (0 :: p))
      (tokenLines front ts.isEmpty t) (addressesBelow t)
  | .leaf kind text => by
    rw [tokenLines_leaf, addressesBelow]
    refine .cons ⟨.leaf kind text, rfl, ?_⟩ .nil
    rw [marginAt_root, Token.hasLater_cons_zero, Bool.not_not, String.append_empty]
  | .branch kind us => by
    rw [tokenLines_branch, addressesBelow]
    refine .cons ⟨.branch kind us, rfl, ?_⟩ ?_
    · rw [marginAt_root, Token.hasLater_cons_zero, Bool.not_not, String.append_empty]
    · -- the cell of the branch goes from the common margin to that of the address
      refine (forestLines_addresses (front ++ cell ts.isEmpty) us).imp ?_
      rintro line p ⟨u, hat, hline⟩
      obtain ⟨i, q, rfl⟩ := List.exists_cons_of_ne_nil (Token.ne_nil_of_at? (by rw [hat]; rfl))
      refine ⟨u, hat, ?_⟩
      rw [hline, marginAt_inside, Token.hasLater_inside, String.append_assoc]

/-- **The lines of a forest** are those of its addresses, in order. -/
theorem forestLines_addresses (front : String) : (ts : List Token) →
    List.Forall₂ (LineOf ts front) (forestLines front ts) (addresses ts)
  | [] => .nil
  | t :: ts => by
    rw [forestLines, addresses]
    refine List.rel_append ?_ ?_
    · exact List.forall₂_map_right_iff.mpr (tokenLines_addresses front ts t)
    · refine List.forall₂_map_right_iff.mpr ((forestLines_addresses front ts).imp ?_)
      rintro line p ⟨u, hat, hline⟩
      refine ⟨u, by rwa [Token.at?_cons_succ], ?_⟩
      rw [hline, marginAt_cons_succ, Token.hasLater_cons_succ]

end

/-- A line of a forest is that of an address. -/
theorem exists_lineOf {front line : String} (h : line ∈ forestLines front ts) :
    ∃ p, LineOf ts front line p := by
  obtain ⟨i, hi⟩ := List.mem_iff_getElem?.mp h
  obtain ⟨p, -, hp⟩ := exists_getElem?_of_forall₂ (forestLines_addresses front ts) hi
  exact ⟨p, hp⟩

end InlineMarkup.Outline
