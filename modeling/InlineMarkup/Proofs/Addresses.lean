import Mathlib.Data.List.Forall2
import InlineMarkup.Proofs.RoundTrip

/-!
# Addresses of tokens

Two tokens of a forest can be equal, so a token does not tell where it stands; its *address* does,
the places that one goes to on the way down to it. The place of a token is counted among its
siblings.

* `Token.at?` — the token at an address, and `Address.after` the address next to it, which is taken
  if the token has a later sibling (`Token.hasLater`). The ancestors of a token stand at the front
  parts of its address.
* `Token.addresses` — the addresses in a forest. They are exactly those where a token stands
  (`Token.mem_addresses`), in lexicographic order (`Token.pairwise_addresses`).
* `Token.walkList_addresses` — a walk visits the tokens in the order of their addresses; so it comes
  to each address (`Token.exists_visit`).
-/

namespace InlineMarkup

/-- Where lists are related member by member, each place of the one is a place of the other. -/
theorem exists_getElem?_of_forall₂ {α β : Type} {R : α → β → Prop} {xs : List α} {ys : List β}
    (h : List.Forall₂ R xs ys) {i : Nat} {x : α} (hx : xs[i]? = some x) :
    ∃ y, ys[i]? = some y ∧ R x y := by
  induction h generalizing i with
  | nil => cases hx
  | cons hR _ ih =>
    cases i with
    | zero =>
      cases hx
      exact ⟨_, rfl, hR⟩
    | succ i => exact ih hx

namespace Token

/-- **An address:** the places of the ancestors of a token, each among its siblings, from the root
down, and the token's own place last. -/
abbrev Address := List Nat

/-- The address next to another one, which belongs to the next sibling if there is one. -/
def Address.after : Address → Address
  | [] => []
  | [i] => [i + 1]
  | i :: j :: p => i :: after (j :: p)

/-- The token at an address that starts from another token; none of its own places are named. -/
def below? : Token → Address → Option Token
  | t, [] => some t
  | t, i :: p => (t.children?.bind fun ts => ts[i]?).bind fun u => below? u p

/-- **The token at an address** of a forest. -/
def at? (ts : List Token) : Address → Option Token
  | [] => none
  | i :: p => ts[i]?.bind fun t => t.below? p

/-- Does the token at an address have a later sibling? -/
def hasLater (ts : List Token) (p : Address) : Bool := (at? ts p.after).isSome

mutual

/-- The addresses of a token and those inside it, as they start from it. -/
def addressesBelow : Token → List Address
  | leaf .. => [[]]
  | branch _ ts => [] :: addresses ts

/-- **The addresses in a forest,** those of a token before those of its later siblings. -/
def addresses : List Token → List Address
  | [] => []
  | t :: ts => (addressesBelow t).map (0 :: ·) ++ (addresses ts).map (List.modifyHead (· + 1))

end

/-! ### Siblings in front -/

variable {t : Token} {ts : List Token} {p : Address}

/-- With one more sibling in front, all are one place further. -/
theorem at?_cons_succ (t : Token) (ts : List Token) (p : Address) :
    at? (t :: ts) (p.modifyHead (· + 1)) = at? ts p := by
  cases p <;> rfl

theorem below?_branch (kind : String) (ts : List Token) (i : Nat) (p : Address) :
    (branch kind ts).below? (i :: p) = at? ts (i :: p) := rfl

theorem below?_leaf (kind text : String) (i : Nat) (p : Address) :
    (leaf kind text).below? (i :: p) = none := rfl

/-! ### Later siblings -/

theorem Address.after_modifyHead (p : Address) :
    after (p.modifyHead (· + 1)) = (after p).modifyHead (· + 1) := by
  rcases p with _ | ⟨i, _ | ⟨j, p⟩⟩ <;> rfl

theorem Address.exists_after_cons (i : Nat) (p : Address) : ∃ j q, after (i :: p) = j :: q := by
  cases p <;> exact ⟨_, _, rfl⟩

theorem hasLater_cons_succ (t : Token) (ts : List Token) (p : Address) :
    hasLater (t :: ts) (p.modifyHead (· + 1)) = hasLater ts p := by
  unfold hasLater
  rw [Address.after_modifyHead, at?_cons_succ]

/-- The first token has a later sibling unless it is the only one. -/
theorem hasLater_cons_zero (t : Token) (ts : List Token) :
    hasLater (t :: ts) [0] = !ts.isEmpty := by
  cases ts <;> rfl

/-- What is inside a branch has the later siblings that it has there. -/
theorem hasLater_inside (kind : String) (us ts : List Token) (i : Nat) (p : Address) :
    hasLater (branch kind us :: ts) (0 :: i :: p) = hasLater us (i :: p) := by
  obtain ⟨j, q, hafter⟩ := Address.exists_after_cons i p
  show ((branch kind us).below? (Address.after (i :: p))).isSome =
    (at? us (Address.after (i :: p))).isSome
  rw [hafter, below?_branch]

/-- No token stands where no place is named. -/
theorem ne_nil_of_at? (h : (at? ts p).isSome) : p ≠ [] := by
  rintro rfl
  cases h

/-! ### The addresses of a forest -/

mutual

theorem mem_addressesBelow :
    (t : Token) → (p : Address) → (p ∈ addressesBelow t ↔ (t.below? p).isSome)
  | leaf kind text, p => by
    rw [addressesBelow, List.mem_singleton]
    cases p with
    | nil => simp [below?]
    | cons i p => simp [below?_leaf]
  | branch kind ts, p => by
    rw [addressesBelow, List.mem_cons, mem_addresses ts p]
    cases p with
    | nil => simp [below?]
    | cons i p => simp [below?_branch]

/-- **The addresses in a forest** are those where a token stands. -/
theorem mem_addresses :
    (ts : List Token) → (p : Address) → (p ∈ addresses ts ↔ (at? ts p).isSome)
  | [], p => by
    cases p <;> simp [addresses, at?]
  | t :: ts, p => by
    rw [addresses, List.mem_append, List.mem_map, List.mem_map]
    simp only [mem_addressesBelow t, mem_addresses ts]
    constructor
    · -- inside the first token, or among its siblings with one more in front
      rintro (⟨q, hq, rfl⟩ | ⟨q, hq, rfl⟩)
      · exact hq
      · rwa [at?_cons_succ]
    · intro h
      -- an address that begins with zero leads into the first token
      cases p with
      | nil => cases h
      | cons i p =>
        cases i with
        | zero => exact .inl ⟨p, h, rfl⟩
        | succ i => exact .inr ⟨i :: p, h, rfl⟩

end

/-- The addresses in a forest name a place. -/
theorem exists_cons_of_mem_addresses (h : p ∈ addresses ts) : ∃ i q, p = i :: q :=
  List.exists_cons_of_ne_nil (ne_nil_of_at? ((mem_addresses ts p).mp h))

/-- To go one place further keeps the order of addresses. -/
theorem modifyHead_lt {q : Address} (h : p < q) :
    p.modifyHead (· + 1) < q.modifyHead (· + 1) := by
  cases q with
  | nil => exact absurd h (List.not_lt_nil p)
  | cons j q =>
    cases p with
    | nil => exact List.nil_lt_cons _ _
    | cons i p =>
      show (i + 1) :: p < (j + 1) :: q
      rw [List.cons_lt_cons_iff] at h ⊢
      rwa [Nat.add_lt_add_iff_right, Nat.add_right_cancel_iff]

mutual

theorem pairwise_addressesBelow : (t : Token) → (addressesBelow t).Pairwise (· < ·)
  | leaf kind text => List.pairwise_singleton _ _
  | branch kind ts => by
    rw [addressesBelow, List.pairwise_cons]
    -- the branch stands at the empty address, which comes before all others
    refine ⟨fun p hp => ?_, pairwise_addresses ts⟩
    obtain ⟨i, q, rfl⟩ := exists_cons_of_mem_addresses hp
    exact List.nil_lt_cons i q

/-- **The addresses in a forest** are in lexicographic order. -/
theorem pairwise_addresses : (ts : List Token) → (addresses ts).Pairwise (· < ·)
  | [] => List.Pairwise.nil
  | t :: ts => by
    rw [addresses, List.pairwise_append, List.pairwise_map, List.pairwise_map]
    refine ⟨(pairwise_addressesBelow t).imp fun h => ?_, (pairwise_addresses ts).imp modifyHead_lt,
      fun p hp q hq => ?_⟩
    · -- inside the first token all begin with the same place
      exact List.cons_lt_cons_iff.mpr (.inr ⟨rfl, h⟩)
    · -- the first place of the later siblings is a later one
      obtain ⟨p, -, rfl⟩ := List.mem_map.mp hp
      obtain ⟨q, hlater, rfl⟩ := List.mem_map.mp hq
      obtain ⟨i, q, rfl⟩ := exists_cons_of_mem_addresses hlater
      exact List.cons_lt_cons_iff.mpr (.inl (Nat.succ_pos i))

end

/-! ### Walks -/

mutual

theorem walkFrom_addresses (depth : Nat) : (t : Token) →
    List.Forall₂ (fun v p => v.depth = depth + p.length ∧ t.below? p = some v.token)
      (t.walkFrom depth) (addressesBelow t)
  | leaf kind text => .cons ⟨rfl, rfl⟩ .nil
  | branch kind ts => by
    rw [walkFrom, addressesBelow]
    refine .cons ⟨rfl, rfl⟩ ((walkList_addresses (depth + 1) ts).imp ?_)
    rintro v p ⟨hdepth, hat⟩
    -- inside the branch an address names a place, so it is below the branch as well
    obtain ⟨i, q, rfl⟩ := List.exists_cons_of_ne_nil (ne_nil_of_at? (by rw [hat]; rfl))
    exact ⟨by omega, hat⟩

/-- **A walk visits the tokens in the order of their addresses,** each as deep as its address
tells. -/
theorem walkList_addresses (depth : Nat) : (ts : List Token) →
    List.Forall₂ (fun v p => v.depth + 1 = depth + p.length ∧ at? ts p = some v.token)
      (walkList depth ts) (addresses ts)
  | [] => .nil
  | t :: ts => by
    rw [walkList, addresses]
    refine List.rel_append ?_ ?_
    · refine List.forall₂_map_right_iff.mpr ((walkFrom_addresses depth t).imp ?_)
      rintro v p ⟨hdepth, hbelow⟩
      exact ⟨by rw [List.length_cons]; omega, hbelow⟩
    · -- one more sibling in front changes the first place and no length
      refine List.forall₂_map_right_iff.mpr ((walkList_addresses depth ts).imp ?_)
      rintro v p ⟨hdepth, hat⟩
      exact ⟨by rwa [List.length_modifyHead], by rwa [at?_cons_succ]⟩

end

/-- A token that stands at an address is visited by a walk. -/
theorem exists_visit (h : at? ts p = some t) (depth : Nat) :
    ∃ v ∈ walkList depth ts, v.token = t := by
  have hmem : p ∈ addresses ts := (mem_addresses ts p).mpr (by rw [h]; rfl)
  obtain ⟨i, hi⟩ := List.mem_iff_getElem?.mp hmem
  obtain ⟨v, hv, -, hat⟩ := exists_getElem?_of_forall₂ (walkList_addresses depth ts).flip hi
  exact ⟨v, List.mem_of_getElem? hv, Option.some.inj (hat.symm.trans h)⟩

end Token
end InlineMarkup
