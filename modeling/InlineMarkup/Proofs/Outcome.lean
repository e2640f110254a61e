import InlineMarkup.Proofs.Next

/-!
# The outcome of a plain scan

A plain scan gives a result and makes records. The result depends on neither the records nor the
position at which the text stands: `outcome limit level text` is the result alone, and
`scan_fst` says that every plain scan gives it.

`resume` is the outcome of a scan that is under way, with a leaf begun. It satisfies the equations
of a loop over characters, `resume_nil` and `resume_cons`, in which `decision` is what happens at
one character. All that is proved of results goes through these two equations.

The same loop for an arbitrary host, its state included, is `Scan.walk_nil`, `Scan.walk_cons` and
`Scan.walk_covered`; what a step of it can do is `Scan.act_cases`.
-/

namespace InlineMarkup
namespace Scan

variable {σ τ : Type}

/-! ### The loop, step by step -/

theorem walk_nil (host : Host σ) (level : Level) (position covered : Nat) (pending : Option Leaf)
    (s : σ) :
    walk host level [] position covered pending s =
      match level.closing with
      | some b => (none, host.record (.unclosed b.kind level.depth) s)
      | none => (some ⟨Leaf.finish pending, 0⟩, s) := by
  unfold walk
  cases level.closing <;> rfl

/-- What the last token covers is passed over at once. -/
theorem walk_covered (host : Host σ) (level : Level) (coming : List Char)
    (position covered : Nat) (pending : Option Leaf) (s : σ) :
    walk host level coming position covered pending s =
      walk host level (Text.dropBytes covered coming) position 0 pending s := by
  induction coming generalizing covered with
  | nil => cases covered <;> simp only [Text.dropBytes, walk_nil]
  | cons c cs ih =>
    cases covered with
    | zero => rw [Text.dropBytes_zero]
    | succ n =>
      -- `c` is covered; what covers more is passed over with the characters behind it
      rw [walk, ih, Text.dropBytes]

/-- **One step of the loop.** -/
theorem walk_cons (host : Host σ) (level : Level) (c : Char) (cs : List Char) (position : Nat)
    (pending : Option Leaf) (s : σ) :
    walk host level (c :: cs) position 0 pending s =
      match act host level position pending c cs (level.next (c :: cs))
          ((level.misfits (c :: cs)).foldl (fun s r => host.record r s) s) with
      | (.close, s) => (some ⟨Leaf.finish pending, 0⟩, s)
      | (.absorb kind, s) =>
        prepend (Leaf.absorb kind c pending).1 c.utf8Size
          (walk host level cs (position + c.utf8Size) 0 (some (Leaf.absorb kind c pending).2) s)
      | (.emit token length, s) =>
        prepend (Leaf.finish pending ++ [token]) length
          (walk host level (Text.dropBytes (length - c.utf8Size) cs) (position + length) 0 none
            s) := by
  rw [walk]
  simp only [walk_covered host level cs _ (_ - _)]
  rfl

/-- What becomes of a character at which a branch of a kind has been tried. -/
def Action.ofAttempt (kind start stop : String) : Option Closed → Action
  | some closed => .emit (.branch kind closed.tokens)
      (start.utf8ByteSize + closed.consumed + stop.utf8ByteSize)
  | none => .absorb wordKind

/-- **What a step can do.** It is decided without the host and leaves the state as it is, or a
branch comes next that the level is not inside of, and the host is asked whether it opens. -/
theorem act_cases (level : Level) (pending : Option Leaf) (c : Char) (cs : List Char)
    (found : Match) :
    (∃ action, ∀ {σ : Type} (h : Host σ) position s,
      act h level position pending c cs found s = (action, s)) ∨
    ∃ kind start stop inner, found.type = .branch kind start stop inner ∧
      level.closing.any found.type.sameKind = false ∧
      ∀ {σ : Type} (h : Host σ) position s,
        act h level position pending c cs found s =
          (openBranch h level found.type start position
            (Text.dropBytes start.utf8ByteSize (c :: cs)) s).map
              (Action.ofAttempt kind start stop) id := by
  obtain ⟨t, n⟩ := found
  dsimp only
  by_cases hsame : (pending.any fun l => l.kind == t.kind) = true
  · -- the leaf under way has the kind and takes the character
    exact .inl ⟨.absorb t.kind, fun h position s => by rw [act, if_pos hsame]⟩
  by_cases hclose : level.closing.any t.sameKind = true
  · -- the level ends here
    exact .inl ⟨.close, fun h position s => by rw [act, if_neg hsame, if_pos hclose]⟩
  -- otherwise it is a matter of the type, and only a branch asks the host for anything
  cases t with
  | leaf kind constraint =>
    by_cases hlong : n > c.utf8Size
    · -- several characters make a token of their own
      refine .inl ⟨.emit (.leaf kind (String.ofList (Text.takeBytes n (c :: cs)))) n, ?_⟩
      intro σ h position s
      rw [act, if_neg hsame, if_neg hclose]
      exact if_pos hlong
    · -- and a single one goes to a leaf
      refine .inl ⟨.absorb kind, ?_⟩
      intro σ h position s
      rw [act, if_neg hsame, if_neg hclose]
      exact if_neg hlong
  | branch kind start stop inner =>
    refine .inr ⟨kind, start, stop, inner, rfl, Bool.eq_false_iff.mpr hclose, ?_⟩
    intro σ h position s
    rw [act, if_neg hsame, if_neg hclose]
    dsimp only
    -- whatever the host answers, the attempt is all that the action depends on
    generalize openBranch h level _ start position _ s = x
    obtain ⟨_ | closed, s'⟩ := x <;> rfl

/-- What was produced in two parts was produced at once. -/
theorem prepend_prepend (tokens tokens' : List Token) (bytes bytes' : Nat)
    (r : Option Closed × σ) :
    prepend tokens bytes (prepend tokens' bytes' r) =
      prepend (tokens ++ tokens') (bytes + bytes') r := by
  obtain ⟨_ | closed, s⟩ := r
  · rfl
  · simp only [prepend, Option.map_some, Closed.after, List.append_assoc, Nat.add_assoc]

/-! ### Hosts of plain scans -/

/-- The host of a plain scan: it answers a nested scan by running it. -/
def plainHost (record : Record → σ → σ) (limit : Nat) (level : Level) : Host σ where
  nested :=
    match limit with
    | 0 => none
    | limit + 1 => some fun t position interior s =>
      scan record limit (level.inside t) position interior s
  record := record

theorem scan_eq_walk (record : Record → σ → σ) (limit : Nat) (level : Level) (position : Nat)
    (text : List Char) (s : σ) :
    scan record limit level position text s =
      walk (plainHost record limit level) level text position 0 none s := by
  cases limit <;> rfl

/-- **The outcome of a plain scan,** the records left out. -/
def outcome (limit : Nat) (level : Level) (text : List Char) : Option Closed :=
  (scan (fun _ u => u) limit level 0 text ()).1

/-- **Plain answers.** The host answers a nested scan by its outcome, and none where no further
level is allowed. -/
def Host.Plain (host : Host σ) (limit : Nat) (level : Level) : Prop :=
  match limit, host.nested with
  | 0, none => True
  | limit + 1, some nested =>
    ∀ t position interior s,
      (nested t position interior s).1 = outcome limit (level.inside t) interior
  | _, _ => False

section Plain

variable {h : Host σ} {k : Host τ} {limit : Nat} {level : Level}

/-- Two hosts with plain answers let the same branches open. -/
theorem openBranch_fst_eq (hh : h.Plain limit level) (hk : k.Plain limit level) (t : TokenType)
    (start start' : String) (p q : Nat) (interior : List Char) (s : σ) (u : τ) :
    (openBranch h level t start p interior s).1 =
      (openBranch k level t start' q interior u).1 := by
  unfold openBranch
  by_cases hempty : interior.isEmpty = true
  · rw [if_pos hempty, if_pos hempty]
  rw [if_neg hempty, if_neg hempty]
  -- either both hosts allow for a further level or neither does
  unfold Host.Plain at hh hk
  cases hn : h.nested with
  | none =>
    -- `h` allows for no further level, so neither does `k`
    cases hm : k.nested with
    | none => rfl
    | some m => rw [hn] at hh; rw [hm] at hk; cases limit <;> simp at hh hk
  | some n =>
    -- and the other way round
    cases hm : k.nested with
    | none => rw [hn] at hh; rw [hm] at hk; cases limit <;> simp at hh hk
    | some m =>
      rw [hn] at hh
      rw [hm] at hk
      cases limit with
      | zero => exact absurd hh id
      | succ l =>
        -- both run the nested scan, with one outcome
        have hout : (n t (p + start.utf8ByteSize) interior s).1 =
            (m t (q + start'.utf8ByteSize) interior u).1 := by
          rw [hh, hk]
        dsimp only
        generalize n t (p + start.utf8ByteSize) interior s = x at hout
        generalize m t (q + start'.utf8ByteSize) interior u = y at hout
        obtain ⟨x, s'⟩ := x
        obtain ⟨y, u'⟩ := y
        cases hout
        cases x with
        | none => rfl
        | some closed => by_cases hc : closed.tokens.isEmpty = true <;> simp [hc]

/-- Two hosts with plain answers lead to the same decision. -/
theorem act_fst_eq (hh : h.Plain limit level) (hk : k.Plain limit level) (p q : Nat)
    (pending : Option Leaf) (c : Char) (cs : List Char) (found : Match) (s : σ) (u : τ) :
    (act h level p pending c cs found s).1 = (act k level q pending c cs found u).1 := by
  rcases act_cases level pending c cs found with
    ⟨action, hact⟩ | ⟨kind, start, stop, inner, -, -, hact⟩
  · rw [hact, hact]
  · rw [hact, hact, Prod.map_fst, Prod.map_fst, openBranch_fst_eq hh hk _ start start p q]

/-- **The result of a loop is a matter of its answers alone.** Two hosts with plain answers give
the same result, wherever the text stands and whatever their states hold. -/
theorem walk_fst_eq (hh : h.Plain limit level) (hk : k.Plain limit level) (coming : List Char)
    (p q : Nat) (pending : Option Leaf) (s : σ) (u : τ) :
    (walk h level coming p 0 pending s).1 = (walk k level coming q 0 pending u).1 := by
  induction coming using Text.induction_behind generalizing p q pending s u with
  | nil =>
    -- nothing is asked of the hosts at the end of the text
    simp only [walk_nil]
    cases level.closing <;> rfl
  | cons c cs onward behind =>
    rw [walk_cons, walk_cons]
    -- the two hosts have come to the same decision, in states of their own
    have hact := act_fst_eq hh hk p q pending c cs (level.next (c :: cs))
      ((level.misfits (c :: cs)).foldl (fun s r => h.record r s) s)
      ((level.misfits (c :: cs)).foldl (fun u r => k.record r u) u)
    generalize act h level p pending c cs (level.next (c :: cs)) _ = x at hact
    generalize act k level q pending c cs (level.next (c :: cs)) _ = y at hact
    obtain ⟨action, s'⟩ := x
    obtain ⟨_, u'⟩ := y
    obtain rfl : action = _ := hact
    cases action with
    | close => rfl
    | absorb kind =>
      -- on behind the character
      dsimp only [prepend]
      rw [onward _ (q + c.utf8Size) _ s' u']
    | emit token length =>
      -- on behind the token
      dsimp only [prepend]
      rw [behind _ _ (q + length) _ s' u']

end Plain

/-! ### Outcomes -/

/-- **Every plain scan has plain answers.** The records it makes and the position where its text
stands have no influence on its result. -/
theorem plainHost_plain (record : Record → σ → σ) (limit : Nat) (level : Level) :
    (plainHost record limit level).Plain limit level := by
  induction limit generalizing σ level with
  | zero => trivial
  | succ l ih =>
    -- a nested scan and its outcome are loops of hosts that are plain at the next lower limit
    intro t position interior s
    have hrun := ih record (level.inside t)
    have hquiet := ih (fun _ (u : Unit) => u) (level.inside t)
    simp only [outcome, scan_eq_walk]
    exact walk_fst_eq hrun hquiet interior position 0 none s ()

theorem scan_fst (record : Record → σ → σ) (limit : Nat) (level : Level) (position : Nat)
    (text : List Char) (s : σ) :
    (scan record limit level position text s).1 = outcome limit level text := by
  simp only [outcome, scan_eq_walk]
  exact walk_fst_eq (plainHost_plain record limit level) (plainHost_plain _ limit level) text
    position 0 none s ()

/-- The plain scan without records. -/
abbrev quietHost (limit : Nat) (level : Level) : Host Unit :=
  plainHost (fun _ u => u) limit level

/-- **The outcome of a scan under way,** with a leaf begun or none. -/
def resume (limit : Nat) (level : Level) (pending : Option Leaf) (coming : List Char) :
    Option Closed :=
  (walk (quietHost limit level) level coming 0 0 pending ()).1

/-- **What happens at a character** in a plain scan. -/
def decision (limit : Nat) (level : Level) (pending : Option Leaf) (c : Char) (cs : List Char) :
    Action :=
  (act (quietHost limit level) level 0 pending c cs (level.next (c :: cs)) ()).1

theorem outcome_eq_resume (limit : Nat) (level : Level) (text : List Char) :
    outcome limit level text = resume limit level none text := by
  rw [outcome, scan_eq_walk, resume]

/-- A host with plain answers gives the plain result. -/
theorem Host.Plain.walk_fst {h : Host σ} {limit : Nat} {level : Level}
    (hh : h.Plain limit level) (coming : List Char) (position : Nat) (pending : Option Leaf)
    (s : σ) : (walk h level coming position 0 pending s).1 = resume limit level pending coming :=
  walk_fst_eq hh (plainHost_plain _ limit level) coming position 0 pending s ()

/-- A host with plain answers makes the plain decision. -/
theorem Host.Plain.act_fst {h : Host σ} {limit : Nat} {level : Level}
    (hh : h.Plain limit level) (position : Nat) (pending : Option Leaf) (c : Char)
    (cs : List Char) (s : σ) :
    (act h level position pending c cs (level.next (c :: cs)) s).1 =
      decision limit level pending c cs :=
  act_fst_eq hh (plainHost_plain _ limit level) position 0 pending c cs _ s ()

/-- At the end of the text only the level of the whole text ends. -/
theorem resume_nil (limit : Nat) (level : Level) (pending : Option Leaf) :
    resume limit level pending [] =
      match level.closing with
      | some _ => none
      | none => some ⟨Leaf.finish pending, 0⟩ := by
  rw [resume, walk_nil]
  cases level.closing <;> rfl

/-- **The outcome, character by character.** -/
theorem resume_cons (limit : Nat) (level : Level) (pending : Option Leaf) (c : Char)
    (cs : List Char) :
    resume limit level pending (c :: cs) =
      match decision limit level pending c cs with
      | .close => some ⟨Leaf.finish pending, 0⟩
      | .absorb kind =>
        (resume limit level (some (Leaf.absorb kind c pending).2) cs).map
          (Closed.after (Leaf.absorb kind c pending).1 c.utf8Size)
      | .emit token length =>
        (resume limit level none (Text.dropBytes (length - c.utf8Size) cs)).map
          (Closed.after (Leaf.finish pending ++ [token]) length) := by
  have hplain := plainHost_plain (fun _ (u : Unit) => u) limit level
  have hact := hplain.act_fst 0 pending c cs
    ((level.misfits (c :: cs)).foldl (fun u _ => u) ())
  rw [resume, walk_cons]
  -- the decision is known, and the state it leaves has no influence on the rest
  generalize act (quietHost limit level) level 0 pending c cs _ _ = x at hact
  obtain ⟨action, u⟩ := x
  rw [← hact]
  cases action with
  | close => rfl
  | absorb kind =>
    dsimp only [prepend]
    rw [hplain.walk_fst]
  | emit token length =>
    dsimp only [prepend]
    rw [hplain.walk_fst]

end Scan
end InlineMarkup
