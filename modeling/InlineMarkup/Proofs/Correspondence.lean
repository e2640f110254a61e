import Mathlib.Data.Set.Function
import InlineMarkup.Proofs.Invariant
import InlineMarkup.Proofs.Tokenizing
import InlineMarkup.Proofs.UnderWay

/-!
# Levels that correspond

Two scans of one text, at two levels, run alike if the same is found at both wherever they stand in
front of the same rest of the text. They need not have the same rules: of a type a scan looks at
the number of bytes it takes, the delimiters, and whether its kind is that of the leaf under way or
of the branch around. So types may go by other names at the second level, as long as different kinds
keep different names, and may have other grammars of their own, as long as the levels inside them
correspond again.

* `Token.rename` — a token with its kind, and those of the tokens inside it, replaced.
* `Scan.Correspondence` — a relation of levels that is kept from a level to those inside it, what
  comes next at one of two related levels being the `Scan.Counterpart` of what comes next at the
  other.
* `Scan.Correspondence.decided` — a step at one level is that at the other, renamed, if branches
  open alike. `Scan.Correspondence.resume` is the same for a whole loop, and
  `Scan.Correspondence.opening` says that branches open alike, by induction on the limit.
* `Tokenizer.tokenize_corresponding` — the tokens of a text by two grammars whose levels correspond.
-/

namespace InlineMarkup

/-! ### Other names -/

namespace Token

mutual

/-- **The token under other names:** its kind and the kinds of the tokens inside it are replaced. -/
def rename (name : String → String) : Token → Token
  | leaf kind text => leaf (name kind) text
  | branch kind children => branch (name kind) (renameList name children)

/-- The tokens of a forest under other names. -/
def renameList (name : String → String) : List Token → List Token
  | [] => []
  | t :: ts => t.rename name :: renameList name ts

end

theorem renameList_eq_map (name : String → String) (ts : List Token) :
    renameList name ts = ts.map (rename name) := by
  induction ts with
  | nil => rfl
  | cons t ts ih => rw [renameList, ih, List.map_cons]

theorem rename_branch (name : String → String) (kind : String) (children : List Token) :
    (branch kind children).rename name = branch (name kind) (children.map (rename name)) := by
  rw [rename, renameList_eq_map]

mutual

/-- Under its own name a token is the same. -/
theorem rename_id : (t : Token) → t.rename id = t
  | leaf _ _ => rfl
  | branch kind children => by rw [rename, renameList_id children, id]

theorem renameList_id : (ts : List Token) → renameList id ts = ts
  | [] => rfl
  | t :: ts => by rw [renameList, rename_id t, renameList_id ts]

end

/-- Under their own names the tokens of a forest are the same. -/
theorem map_rename_id (ts : List Token) : ts.map (rename id) = ts := by
  rw [← renameList_eq_map, renameList_id]

end Token

namespace Scan

/-- The leaf under way under another name. -/
def Leaf.rename (name : String → String) (l : Leaf) : Leaf := { l with kind := name l.kind }

/-- The result of a scan with its tokens under other names. -/
def Closed.rename (name : String → String) (closed : Closed) : Closed :=
  { closed with tokens := closed.tokens.map (Token.rename name) }

/-- The same action under other names. -/
def Action.rename (name : String → String) : Action → Action
  | close => close
  | absorb kind => absorb (name kind)
  | emit token n => emit (token.rename name) n

variable {name : String → String}

theorem Leaf.finish_rename (pending : Option Leaf) :
    finish (pending.map (rename name)) = (finish pending).map (Token.rename name) := by
  cases pending <;> rfl

theorem Closed.after_rename (tokens : List Token) (n : Nat) (closed : Closed) :
    (after tokens n closed).rename name =
      after (tokens.map (Token.rename name)) n (closed.rename name) := by
  simp only [after, rename, List.map_append]

/-- A result handed on, under other names. -/
theorem Closed.map_after_rename (tokens : List Token) (n : Nat) (r : Option Closed) :
    (r.map (after tokens n)).map (rename name) =
      (r.map (rename name)).map (after (tokens.map (Token.rename name)) n) := by
  rw [Option.map_map, Option.map_map]
  congr 1
  funext closed
  exact after_rename tokens n closed

/-- **A leaf grows under another name** as it does under its own, if its kind and that of the
character are not confused. -/
theorem Leaf.absorb_rename {kinds : Set String} (hinj : Set.InjOn name kinds) {kind : String}
    (hkind : kind ∈ kinds) {pending : Option Leaf} (hpending : ∀ l ∈ pending, l.kind ∈ kinds)
    (c : Char) :
    absorb (name kind) c (pending.map (rename name)) =
      ((absorb kind c pending).1.map (Token.rename name),
        (absorb kind c pending).2.rename name) := by
  cases pending with
  | none => rfl
  | some l =>
    have hsame : name l.kind = name kind ↔ l.kind = kind :=
      hinj.eq_iff (hpending l rfl) hkind
    simp only [absorb, Option.map_some, rename, hsame]
    -- one kind under its own name is one kind under the other, so the leaf grows or ends in both
    by_cases h : l.kind = kind
    · simp only [if_pos h, List.map_nil]
    · simp only [if_neg h]
      rfl

/-! ### Correspondences -/

/-- **Types that correspond** at two levels. The second one has the name of the first and the same
delimiters, and the two levels are both inside of them or neither is. If they are branches that can
be opened, then the levels inside them are related again. -/
structure Counterpart (name : String → String) (kinds : Set String) (Alike : Level → Level → Prop)
    (level level' : Level) (t t' : TokenType) : Prop where
  known : t.kind ∈ kinds
  kind : t'.kind = name t.kind
  start : t'.start? = t.start?
  stop : t'.stop? = t.stop?
  own : level'.closing.any t'.sameKind = level.closing.any t.sameKind
  inside : t.isLeaf = false → level.closing.any t.sameKind = false →
    Alike (level.inside t) (level'.inside t')

/-- **A correspondence of levels** over a text. Two related levels are both that of a whole text or
neither is. In front of the same end of the text what comes next at them corresponds, and takes the
same number of bytes. The kinds that are met have different names, and the catch-all kind keeps its
own. -/
structure Correspondence (name : String → String) (kinds : Set String) (text : List Char)
    (Alike : Level → Level → Prop) : Prop where
  word_mem : wordKind ∈ kinds
  name_word : name wordKind = wordKind
  injective : Set.InjOn name kinds
  top_iff : ∀ {level level'}, Alike level level' →
    (level'.closing = none ↔ level.closing = none)
  next : ∀ {level level'}, Alike level level' → ∀ {coming}, coming <:+ text → coming ≠ [] →
    ∀ {t n}, level.next coming = ⟨t, n⟩ →
      ∃ t', level'.next coming = ⟨t', n⟩ ∧ Counterpart name kinds Alike level level' t t'

section Counterpart

variable {kinds : Set String} {Alike : Level → Level → Prop} {level level' : Level}
  {t t' : TokenType}

/-- The counterpart of a leaf type is a leaf type. -/
theorem Counterpart.exists_leaf {kind : String} {constraint : Option Constraint}
    (h : Counterpart name kinds Alike level level' (.leaf kind constraint) t') :
    ∃ constraint', t' = .leaf (name kind) constraint' := by
  cases t' with
  | leaf kind' constraint' =>
    obtain rfl : kind' = name kind := h.kind
    exact ⟨constraint', rfl⟩
  | branch kind' start stop inner => cases h.start

/-- The counterpart of a branch is a branch with the same delimiters. -/
theorem Counterpart.exists_branch {kind start stop : String} {inner : Option Grammar}
    (h : Counterpart name kinds Alike level level' (.branch kind start stop inner) t') :
    ∃ inner', t' = .branch (name kind) start stop inner' := by
  cases t' with
  | leaf kind' constraint' => cases h.start
  | branch kind' start' stop' inner' =>
    obtain rfl : kind' = name kind := h.kind
    cases h.start
    cases h.stop
    exact ⟨inner', rfl⟩

/-- The leaf under way is of the kind of both types or of neither. -/
theorem Counterpart.any_rename (h : Counterpart name kinds Alike level level' t t')
    (hinj : Set.InjOn name kinds) {pending : Option Leaf}
    (hpending : ∀ l ∈ pending, l.kind ∈ kinds) :
    ((pending.map (Leaf.rename name)).any fun l => l.kind == t'.kind) =
      pending.any fun l => l.kind == t.kind := by
  cases pending with
  | none => rfl
  | some l =>
    have hsame : name l.kind = name t.kind ↔ l.kind = t.kind :=
      hinj.eq_iff (hpending l rfl) h.known
    simp only [Option.map_some, Option.any_some, Leaf.rename, h.kind, beq_eq_beq, hsame]

end Counterpart

/-! ### Scans that run alike -/

namespace Correspondence

variable {kinds : Set String} {text : List Char} {Alike : Level → Level → Prop}
  {limit : Nat} {level level' : Level} {pending : Option Leaf} {c : Char} {cs : List Char}
  {action : Action}

/-- **Branches open alike** at two levels under a limit, if the levels inside them are related. In
front of the same interior both open or neither does, and they hold the same under other names. -/
def OpensAlike (name : String → String) (text : List Char) (Alike : Level → Level → Prop)
    (limit : Nat) (level level' : Level) : Prop :=
  ∀ t t', Alike (level.inside t) (level'.inside t') → ∀ interior, interior <:+ text →
    Scan.opening limit level' t' interior =
      (Scan.opening limit level t interior).map (Closed.rename name)

/-- A type that comes next and counts has a counterpart that does so too. -/
theorem comes (hc : Correspondence name kinds text Alike) (hlevels : Alike level level')
    (hpending : ∀ l ∈ pending, l.kind ∈ kinds) (hsuffix : c :: cs <:+ text) {t : TokenType}
    {n : Nat} (h : Comes level pending (c :: cs) t n) :
    ∃ t', Comes level' (pending.map (Leaf.rename name)) (c :: cs) t' n ∧
      Counterpart name kinds Alike level level' t t' := by
  obtain ⟨t', hnext, hpart⟩ := hc.next hlevels hsuffix (List.cons_ne_nil c cs) h.next
  refine ⟨t', ⟨hnext, ?_, ?_⟩, hpart⟩
  · -- it is not of the kind under way, and the level is not inside of it
    rw [hpart.any_rename hc.injective hpending, h.fresh]
  · rw [hpart.own, h.foreign]

/-- A branch that comes next and counts has a counterpart that does so too, and opens or fails to
open with it. -/
theorem comes_branch (hc : Correspondence name kinds text Alike) (hlevels : Alike level level')
    (hopens : OpensAlike name text Alike limit level level')
    (hpending : ∀ l ∈ pending, l.kind ∈ kinds) (hsuffix : c :: cs <:+ text)
    {kind start stop : String} {inner : Option Grammar} {n : Nat}
    (h : Comes level pending (c :: cs) (.branch kind start stop inner) n) :
    ∃ inner',
      Comes level' (pending.map (Leaf.rename name)) (c :: cs)
        (.branch (name kind) start stop inner') n ∧
      Scan.opening limit level' (.branch (name kind) start stop inner')
          (Text.dropBytes start.utf8ByteSize (c :: cs)) =
        (Scan.opening limit level (.branch kind start stop inner)
          (Text.dropBytes start.utf8ByteSize (c :: cs))).map (Closed.rename name) := by
  obtain ⟨t', hcomes, hpart⟩ := hc.comes hlevels hpending hsuffix h
  have hinside := hpart.inside rfl h.foreign
  obtain ⟨inner', rfl⟩ := hpart.exists_branch
  have hinterior : Text.dropBytes start.utf8ByteSize (c :: cs) <:+ text :=
    (Text.dropBytes_suffix _ _).trans hsuffix
  exact ⟨inner', hcomes, hopens _ _ hinside _ hinterior⟩

/-- **A step at one level is a step at the other,** under other names, if branches open alike. -/
theorem decided (hc : Correspondence name kinds text Alike) (hlevels : Alike level level')
    (hopens : OpensAlike name text Alike limit level level')
    (hpending : ∀ l ∈ pending, l.kind ∈ kinds) (hsuffix : c :: cs <:+ text)
    (h : Decided limit level pending c cs action) :
    Decided limit level' (pending.map (Leaf.rename name)) c cs (action.rename name) := by
  cases h with
  | @grown t n next same =>
    -- what comes next corresponds, and so does each test that is made of it
    obtain ⟨t', hnext, hpart⟩ := hc.next hlevels hsuffix (List.cons_ne_nil c cs) next
    rw [Action.rename, ← hpart.kind]
    exact .grown hnext ((hpart.any_rename hc.injective hpending).trans same)
  | @ended t n next fresh own =>
    obtain ⟨t', hnext, hpart⟩ := hc.next hlevels hsuffix (List.cons_ne_nil c cs) next
    exact .ended hnext ((hpart.any_rename hc.injective hpending).trans fresh)
      (hpart.own.trans own)
  | begun comes short =>
    obtain ⟨t', hcomes, hpart⟩ := hc.comes hlevels hpending hsuffix comes
    obtain ⟨constraint', rfl⟩ := hpart.exists_leaf
    exact .begun hcomes short
  | whole comes long =>
    obtain ⟨t', hcomes, hpart⟩ := hc.comes hlevels hpending hsuffix comes
    obtain ⟨constraint', rfl⟩ := hpart.exists_leaf
    exact .whole hcomes long
  | opened comes opens =>
    -- the branch opens at both levels, with tokens that correspond
    obtain ⟨inner', hcomes, hsame⟩ := hc.comes_branch hlevels hopens hpending hsuffix comes
    rw [opens] at hsame
    rw [Action.rename, Token.rename_branch]
    exact .opened hcomes hsame
  | givenUp comes fails =>
    -- or at neither, and the catch-all kind keeps its name
    obtain ⟨inner', hcomes, hsame⟩ := hc.comes_branch hlevels hopens hpending hsuffix comes
    rw [fails] at hsame
    rw [Action.rename, hc.name_word]
    exact .givenUp hcomes hsame

/-- The kind that a character goes to is one of those that are met. -/
theorem absorbed_mem (hc : Correspondence name kinds text Alike) (hlevels : Alike level level')
    (hsuffix : c :: cs <:+ text) {kind : String}
    (h : Decided limit level pending c cs (.absorb kind)) : kind ∈ kinds := by
  have hknown : ∀ {t n}, level.next (c :: cs) = ⟨t, n⟩ → t.kind ∈ kinds := by
    intro t n hnext
    obtain ⟨t', -, hpart⟩ := hc.next hlevels hsuffix (List.cons_ne_nil c cs) hnext
    exact hpart.known
  cases h with
  | grown next same => exact hknown next
  | begun comes short => exact hknown comes.next
  | givenUp comes fails => exact hc.word_mem

/-- **Loops at corresponding levels** give the same under other names, if branches open alike. -/
theorem resume (hc : Correspondence name kinds text Alike) (hlevels : Alike level level')
    (hopens : OpensAlike name text Alike limit level level')
    {coming : List Char} (hsuffix : coming <:+ text) (hpending : ∀ l ∈ pending, l.kind ∈ kinds) :
    Scan.resume limit level' (pending.map (Leaf.rename name)) coming =
      (Scan.resume limit level pending coming).map (Closed.rename name) := by
  -- the levels stay as they are; what is invariant is that the leaf under way is of a known kind
  induction coming using Text.induction_behind generalizing pending with
  | nil =>
    rw [resume_nil, resume_nil]
    cases hclosing : level.closing with
    | none =>
      -- the whole text ends at both levels
      rw [(hc.top_iff hlevels).mpr hclosing]
      simp only [Option.map_some, Closed.rename, Leaf.finish_rename]
    | some b =>
      -- it ends too early at both
      obtain ⟨b', hb'⟩ := Option.ne_none_iff_exists'.mp
        (mt (hc.top_iff hlevels).mp (by rw [hclosing]; exact Option.some_ne_none b))
      rw [hb']
      rfl
  | cons c cs onward behind =>
    have hcs : cs <:+ text := (List.suffix_cons c cs).trans hsuffix
    have hdecided := decided_decision limit level pending c cs
    have hdecided' := hc.decided hlevels hopens hpending hsuffix hdecided
    rw [resume_cons, resume_cons, hdecided'.decision_eq]
    generalize decision limit level pending c cs = action at hdecided
    cases action with
    | close => simp only [Action.rename, Option.map_some, Closed.rename, Leaf.finish_rename]
    | absorb kind =>
      have hkind := hc.absorbed_mem hlevels hsuffix hdecided
      have hgrown : ∀ l ∈ some (Leaf.absorb kind c pending).2, l.kind ∈ kinds := by
        rintro _ ⟨⟩
        rw [Leaf.absorb_snd_kind]
        exact hkind
      dsimp only [Action.rename]
      rw [Leaf.absorb_rename hc.injective hkind hpending, Closed.map_after_rename,
        ← onward hcs hgrown, Option.map_some]
    | emit token n =>
      dsimp only [Action.rename]
      have hnothing : ∀ l ∈ (none : Option Leaf), l.kind ∈ kinds := by rintro _ ⟨⟩
      rw [Closed.map_after_rename, ← behind (n - c.utf8Size)
        ((Text.dropBytes_suffix _ cs).trans hcs) hnothing, Leaf.finish_rename, List.map_append]
      rfl

/-- **Scans at corresponding levels** give the same under other names, if branches open alike. -/
theorem outcome (hc : Correspondence name kinds text Alike) (hlevels : Alike level level')
    (hopens : OpensAlike name text Alike limit level level')
    {coming : List Char} (hsuffix : coming <:+ text) :
    Scan.outcome limit level' coming =
      (Scan.outcome limit level coming).map (Closed.rename name) := by
  have hnothing : ∀ l ∈ (none : Option Leaf), l.kind ∈ kinds := by rintro _ ⟨⟩
  rw [outcome_eq_resume, outcome_eq_resume]
  exact hc.resume hlevels hopens hsuffix hnothing

/-- **Branches open alike** at all levels. -/
theorem opening (hc : Correspondence name kinds text Alike) (limit : Nat)
    (level level' : Level) : OpensAlike name text Alike limit level level' := by
  intro t t' hinside interior hsuffix
  -- what opens inside an interior is a matter of the next lower limit
  induction limit generalizing level level' t t' interior with
  | zero => rw [opening_zero, opening_zero, Option.map_none]
  | succ l ih =>
    have hopens : OpensAlike name text Alike l (level.inside t) (level'.inside t') :=
      fun u u' hu middle hmiddle => ih _ _ u u' hu middle hmiddle
    have houtcome : Scan.outcome l (level'.inside t') interior =
        (Scan.outcome l (level.inside t) interior).map (Closed.rename name) :=
      hc.outcome hinside hopens hsuffix
    have hfilled : ∀ closed : Closed, (closed.rename name).tokens ≠ [] ↔ closed.tokens ≠ [] :=
      fun closed => not_congr List.map_eq_nil_iff
    ext closed'
    rw [opening_eq_some_iff, Option.map_eq_some_iff]
    constructor
    · -- what opens at the second level is what opens at the first under other names
      rintro ⟨hne, htokens, l', hl, hclosed⟩
      cases hl
      obtain ⟨closed, hfirst, rfl⟩ := Option.map_eq_some_iff.mp (houtcome.symm.trans hclosed)
      exact ⟨closed,
        opening_eq_some_iff.mpr ⟨hne, (hfilled closed).mp htokens, l, rfl, hfirst⟩, rfl⟩
    · -- and the other way round
      rintro ⟨closed, hclosed, rfl⟩
      obtain ⟨hne, htokens, l', hl, hclosed⟩ := opening_eq_some_iff.mp hclosed
      cases hl
      refine ⟨hne, (hfilled closed).mpr htokens, l, rfl, ?_⟩
      rw [houtcome, hclosed, Option.map_some]

end Correspondence
end Scan

namespace Tokenizer

open Scan

/-- **The tokens by corresponding grammars** are the same under other names. -/
theorem tokenize_corresponding {name : String → String} {kinds : Set String} {text : String}
    {Alike : Level → Level → Prop} (hc : Correspondence name kinds text.toList Alike)
    {g g' : Grammar} (hg : g.Valid) (hg' : g'.Valid) (htop : Alike (.top g) (.top g'))
    (maxDepth : Nat) :
    (⟨g', maxDepth⟩ : Tokenizer).tokenize text =
      ((⟨g, maxDepth⟩ : Tokenizer).tokenize text).map (Token.rename name) := by
  have houtcome : outcome maxDepth (.top g') text.toList =
      (outcome maxDepth (.top g) text.toList).map (Closed.rename name) :=
    hc.outcome htop (hc.opening maxDepth _ _) List.suffix_rfl
  rw [tokenize_eq_outcome (t := ⟨g, maxDepth⟩) hg, tokenize_eq_outcome (t := ⟨g', maxDepth⟩) hg',
    houtcome]
  cases outcome maxDepth (.top g) text.toList <;> rfl

end Tokenizer
end InlineMarkup
