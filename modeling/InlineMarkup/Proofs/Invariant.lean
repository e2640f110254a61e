import InlineMarkup.Proofs.Outcome

/-!
# What a loop keeps

The loop over the characters of a level changes the state of its host in a few ways only: by a
record of each kind, and by asking for a nested scan. A property of states that none of these ways
loses is an invariant of the whole loop. `Host.Keeps` lists them, each with what is known where it
happens, and `Host.Keeps.walk` is the conclusion.

What is known of a place is left open: `At position coming` is any property of a position and of the
text in front of which it stands that the loop carries along. With `Text.dropBytes_suffix` it can
always be that the coming text is an end of the level's text.
-/

namespace InlineMarkup

/-- What a cut leaves is an end of the text. -/
theorem Text.dropBytes_suffix (n : Nat) (cs : List Char) : dropBytes n cs <:+ cs :=
  ⟨takeBytes n cs, takeBytes_append_dropBytes n cs⟩

namespace Level

variable {level : Level} {coming : List Char} {r : Record}

/-- **Misfits** are of rules whose constraints have measured a length that is no place to cut. -/
theorem mem_misfits (h : r ∈ level.misfits coming) :
    ∃ t ∈ level.rules, ∃ n, t.fit level.closing coming = .misfit n ∧
      r = .misfit t.kind n (Text.byteLength coming) := by
  unfold misfits at h
  -- the rules in front of the one that fits, one by one
  generalize level.rules = rules at h ⊢
  induction rules with
  | nil => cases h
  | cons t ts ih =>
    rw [Match.first?] at h
    -- one case for each way a rule may fit; only a misfit leaves a record
    cases hfit : t.fit level.closing coming with
    | length n =>
      rw [hfit] at h
      cases h
    | none =>
      rw [hfit] at h
      obtain ⟨u, hu, hmisfit⟩ := ih h
      exact ⟨u, List.mem_cons_of_mem t hu, hmisfit⟩
    | misfit n =>
      rw [hfit] at h
      rcases List.mem_cons.mp h with rfl | h
      · exact ⟨t, List.mem_cons_self, n, hfit, rfl⟩
      · obtain ⟨u, hu, hmisfit⟩ := ih h
        exact ⟨u, List.mem_cons_of_mem t hu, hmisfit⟩

end Level

namespace Scan

variable {σ : Type} {At : Nat → List Char → Prop}

/-- **A branch that is tried** at a level. Its opening delimiter stands at a place that the loop has
come to, the level is not inside of it, and there is something to scan behind the delimiter. -/
structure Tried (level : Level) (At : Nat → List Char → Prop) (t : TokenType) (start : String)
    (position : Nat) (interior : List Char) : Prop where
  place : At position (start.toList ++ interior)
  mem : t ∈ level.rules
  opens : t.start? = some start
  foreign : level.closing.any t.sameKind = false
  filled : interior ≠ []

namespace Tried

variable {level : Level} {t : TokenType} {start : String} {position : Nat} {interior : List Char}

theorem isLeaf_eq_false (h : Tried level At t start position interior) : t.isLeaf = false :=
  TokenType.isLeaf_eq_false_of_start? h.opens

theorem start_ne_empty (h : Tried level At t start position interior) (hlevel : level.Proper) :
    start ≠ "" := by
  obtain ⟨-, hmem, hopens, -, -⟩ := h
  cases t with
  | leaf kind constraint => cases hopens
  | branch kind start' stop inner =>
    cases hopens
    exact (hlevel.rules.marks_ne_empty hmem).1

end Tried

/-- **A host whose loop keeps an invariant.** At a level, `Inv` is kept by the records that are made
and by the nested scans that are asked for, and `At` goes over from one place to the next, behind a
character or behind the token that has been emitted. -/
structure Host.Keeps (h : Host σ) (level : Level) (At : Nat → List Char → Prop)
    (Inv : σ → Prop) : Prop where
  misfit : ∀ {position coming r s}, At position coming → r ∈ level.misfits coming → Inv s →
    Inv (h.record r s)
  unclosed : ∀ {b s}, level.closing = some b → Inv s →
    Inv (h.record (.unclosed b.kind level.depth) s)
  refused : h.nested = none → ∀ {t start position interior s},
    Tried level At t start position interior → Inv s →
    Inv (h.record (.depthLimit t.kind position level.depth) s)
  answered : ∀ n, h.nested = some n → ∀ {t start position interior s},
    Tried level At t start position interior → Inv s →
    Inv (n t (position + start.utf8ByteSize) interior s).2
  empty : ∀ n, h.nested = some n → ∀ {t start position interior s closed s'},
    Tried level At t start position interior → Inv s →
    n t (position + start.utf8ByteSize) interior s = (some closed, s') → closed.tokens = [] →
    Inv (h.record (.emptyBranch t.kind position) s')
  onward : ∀ {position c cs}, At position (c :: cs) → At (position + c.utf8Size) cs
  behind : ∀ {position pending c cs s token n s'}, At position (c :: cs) → Inv s →
    act h level position pending c cs (level.next (c :: cs)) s = (.emit token n, s') →
    At (position + n) (Text.dropBytes (n - c.utf8Size) cs)

namespace Host.Keeps

variable {h : Host σ} {level : Level} {Inv : σ → Prop} {s : σ}

theorem misfits (hk : h.Keeps level At Inv) {position : Nat} {coming : List Char}
    (hplace : At position coming) (hs : Inv s) :
    Inv ((level.misfits coming).foldl (fun s r => h.record r s) s) := by
  have hall : ∀ rs : List Record, (∀ r ∈ rs, r ∈ level.misfits coming) → ∀ {s}, Inv s →
      Inv (rs.foldl (fun s r => h.record r s) s) := by
    intro rs hrs
    induction rs with
    | nil => exact fun hs => hs
    | cons r rs ih =>
      intro s hs
      exact ih (fun r' hr' => hrs r' (List.mem_cons_of_mem r hr'))
        (hk.misfit hplace (hrs r List.mem_cons_self) hs)
  exact hall _ (fun _ hr => hr) hs

/-- The attempt to open a branch keeps the invariant, whatever comes of it. -/
theorem openBranch (hk : h.Keeps level At Inv) {t : TokenType} {start : String} {position : Nat}
    {interior : List Char} (htried : interior ≠ [] → Tried level At t start position interior)
    (hs : Inv s) : Inv (Scan.openBranch h level t start position interior s).2 := by
  unfold Scan.openBranch
  by_cases hempty : interior.isEmpty = true
  · rw [if_pos hempty]
    exact hs
  rw [if_neg hempty]
  have htried := htried fun hnil => hempty (List.isEmpty_iff.mpr hnil)
  -- one case for each thing that may happen behind the delimiter
  cases hn : h.nested with
  | none => exact hk.refused hn htried hs
  | some n =>
    have hanswered := hk.answered n hn htried hs
    dsimp only
    cases hresult : n t (position + start.utf8ByteSize) interior s with
    | mk x s' =>
      rw [hresult] at hanswered
      cases x with
      | none => exact hanswered
      | some closed =>
        dsimp only
        by_cases htokens : closed.tokens.isEmpty = true
        · rw [if_pos htokens]
          exact hk.empty n hn htried hs hresult (List.isEmpty_iff.mp htokens)
        · rw [if_neg htokens]
          exact hanswered

/-- A step keeps the invariant. -/
theorem act (hk : h.Keeps level At Inv) {position : Nat} {c : Char} {cs : List Char}
    (hplace : At position (c :: cs)) (pending : Option Leaf) (hs : Inv s) :
    Inv (Scan.act h level position pending c cs (level.next (c :: cs)) s).2 := by
  generalize hnext : level.next (c :: cs) = found
  rcases act_cases level pending c cs found with
    ⟨action, hact⟩ | ⟨kind, start, stop, inner, htype, hforeign, hact⟩
  · -- decided without the host, whose state stays as it is
    rw [hact]
    exact hs
  · obtain ⟨_, n⟩ := found
    cases htype
    -- a branch is tried, its delimiter standing at a place that the loop has come to
    rw [hact]
    refine hk.openBranch (fun hfilled => ?_) hs
    rw [← Level.next_branch_cut hnext hforeign] at hplace
    exact ⟨hplace, Level.mem_of_next_branch hnext rfl, rfl, hforeign, hfilled⟩

/-- **The loop keeps the invariant,** wherever it starts. -/
theorem walk (hk : h.Keeps level At Inv) {coming : List Char} {position : Nat}
    (hplace : At position coming) (pending : Option Leaf) (hs : Inv s) :
    Inv (Scan.walk h level coming position 0 pending s).2 := by
  -- `At` goes along with the position, so that each attempt is made at one of its places
  induction coming using Text.induction_behind generalizing position pending s with
  | nil =>
    rw [walk_nil]
    cases hclosing : level.closing with
    | none => exact hs
    | some b => exact hk.unclosed hclosing hs
  | cons c cs onward behind =>
    rw [walk_cons]
    -- first the misfits of what comes, then the step, and then what is behind it
    have hmisfits := hk.misfits hplace hs
    generalize (level.misfits (c :: cs)).foldl (fun s r => h.record r s) s = s₁ at hmisfits
    have hact := hk.act hplace pending hmisfits
    cases hresult : Scan.act h level position pending c cs (level.next (c :: cs)) s₁ with
    | mk action s₂ =>
      rw [hresult] at hact
      cases action with
      | close => exact hact
      | absorb kind => exact onward (hk.onward hplace) _ hact
      | emit token n => exact behind _ (hk.behind hplace hmisfits hresult) _ hact

end Host.Keeps
end Scan
end InlineMarkup
