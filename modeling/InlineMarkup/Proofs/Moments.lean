import Mathlib.Logic.Relation
import InlineMarkup.Proofs.Tokenizing

/-!
# The moments of a run

A run of a tokenizer is a scan of the whole text with scans of interiors inside it, all of them in
one session. A *moment* is where such a scan stands in front of a character, with everything that
what it does next depends on. `Moment.Next` leads from a moment to the next one: behind a character,
behind a token, or to the beginning of the nested scan of a branch that is tried, if its outcome is
not remembered. `Tokenizer.Reaches` are the moments that a run comes to in this way.

* `Moment.rest_cons`, `Moment.nested_eq` — the loop and the answers of a session go from moment to
  moment as `Moment.Next` says.
* `Moment.Sound` — what holds at every moment of a run; `Moment.Sound.next` is the step and
  `Tokenizer.sound_of_reaches` the conclusion.
* `Moment.Sound.act_fst`, `Moment.Sound.attempt_eq` — so what is done at a moment, and which
  branches open, is the same as in a plain scan.
-/

namespace InlineMarkup

open Scan

/-- **A moment of a scan:** the nesting that is still allowed, the origin of the rules, the level,
the position and what stands there, the leaf under way, and the session. -/
structure Moment where
  limit : Nat
  origin : Nat
  level : Level
  position : Nat
  coming : List Char
  pending : Option Leaf
  session : Session

namespace Moment

variable {m m' : Moment} {c : Char} {cs : List Char}

/-- The session with the misfits recorded that are met on the way to what comes next. -/
def noted (m : Moment) : Session :=
  (m.level.misfits m.coming).foldl (fun s r => s.record r) m.session

/-- **What is done with a character** `c` that comes with `cs` to follow. -/
def act (m : Moment) (c : Char) (cs : List Char) : Action × Session :=
  Scan.act (Session.host m.limit m.origin m.level) m.level m.position m.pending c cs
    (m.level.next (c :: cs)) m.noted

/-- **The attempt to open a branch** whose opening delimiter comes with `interior` to follow. -/
def attempt (m : Moment) (t : TokenType) (start : String) (interior : List Char) : Option Closed :=
  (openBranch (Session.host m.limit m.origin m.level) m.level t start m.position interior
    m.noted).1

/-- The moment behind a character that goes to a leaf. -/
def absorbed (m : Moment) (kind : String) (c : Char) (cs : List Char) (s : Session) : Moment :=
  { m with
    position := m.position + c.utf8Size
    coming := cs
    pending := some (Leaf.absorb kind c m.pending).2
    session := s }

/-- The moment behind a token of `n` bytes, of which `c` is the first character. -/
def emitted (m : Moment) (n : Nat) (c : Char) (cs : List Char) (s : Session) : Moment :=
  { m with
    position := m.position + n
    coming := Text.dropBytes (n - c.utf8Size) cs
    pending := none
    session := s }

/-- The session in which the interior of a branch is scanned, the origin of its rules being
known. -/
def entered (m : Moment) (t : TokenType) : Nat × Session := Session.enter m.origin t m.noted

/-- The moment at which the nested scan of an interior begins. -/
def inside (m : Moment) (limit : Nat) (t : TokenType) (start : String) (interior : List Char) :
    Moment :=
  ⟨limit, (m.entered t).1, m.level.inside t, m.position + start.utf8ByteSize, interior, none,
    (m.entered t).2⟩

/-- What an attempt to open a branch is remembered by. -/
def key (m : Moment) (t : TokenType) (start : String) : Attempt :=
  ⟨m.position + start.utf8ByteSize, (m.entered t).1, t.kind, m.level.depth + 1⟩

/-- **From one moment to the next.** -/
inductive Next (m : Moment) : Moment → Prop where
  | absorbed {c : Char} {cs : List Char} {kind : String} {s : Session} (coming : m.coming = c :: cs)
      (acts : m.act c cs = (.absorb kind, s)) : Next m (m.absorbed kind c cs s)
  | emitted {c : Char} {cs : List Char} {token : Token} {n : Nat} {s : Session}
      (coming : m.coming = c :: cs) (acts : m.act c cs = (.emit token n, s)) :
      Next m (m.emitted n c cs s)
  | inside {limit : Nat} {t : TokenType} {start : String} {n : Nat} {interior : List Char}
      (deeper : m.limit = limit + 1) (comes : Comes m.level m.pending m.coming t n)
      (opens : t.start? = some start) (coming : m.coming = start.toList ++ interior)
      (filled : interior ≠ [])
      (unknown : (m.entered t).2.outcomes[m.key t start]? = none) :
      Next m (m.inside limit t start interior)

/-! ### The moments of the loop -/

/-- **What becomes of a scan** from a moment on. -/
def rest (m : Moment) : Option Closed × Session :=
  walk (Session.host m.limit m.origin m.level) m.level m.coming m.position 0 m.pending m.session

/-- The loop goes from moment to moment. -/
theorem rest_cons (hcoming : m.coming = c :: cs) :
    m.rest = match m.act c cs with
      | (.close, s) => (some ⟨Leaf.finish m.pending, 0⟩, s)
      | (.absorb kind, s) =>
        prepend (Leaf.absorb kind c m.pending).1 c.utf8Size (m.absorbed kind c cs s).rest
      | (.emit token n, s) =>
        prepend (Leaf.finish m.pending ++ [token]) n (m.emitted n c cs s).rest := by
  have hact : Scan.act (Session.host m.limit m.origin m.level) m.level m.position m.pending c cs
      (m.level.next (c :: cs))
      ((m.level.misfits (c :: cs)).foldl
        (fun s r => (Session.host m.limit m.origin m.level).record r s) m.session) =
        m.act c cs := by
    rw [act, noted, hcoming]
    rfl
  rw [rest, hcoming, walk_cons, hact]
  obtain ⟨action, s⟩ := m.act c cs
  cases action <;> rfl

/-- A nested scan begins at the moment inside the branch, unless its outcome is remembered. -/
theorem nested_eq (m : Moment) (limit : Nat) (t : TokenType) (start : String)
    (interior : List Char) :
    Session.nested limit m.origin m.level t (m.position + start.utf8ByteSize) interior m.noted =
      match (m.entered t).2.outcomes[m.key t start]? with
      | some outcome => (outcome, (m.entered t).2)
      | none =>
        let r := (m.inside limit t start interior).rest
        (r.1, r.2.remember (m.key t start) r.1) := by
  simp only [Session.nested, Session.scan_eq_walk]
  rfl

/-! ### What holds at every moment -/

/-- **Sound moments.** The level is proper and as deep as the limit allows for, the session is sound
and knows the rules by their origin, and what comes stands at the position. -/
structure Sound (t : Tokenizer) (text : String) (m : Moment) : Prop where
  level : m.level.Proper
  depth : m.level.depth + m.limit = t.maxDepth
  session : Session.Sound text.toList t.grammar t.maxDepth m.session
  denotes : Session.Denotes t.grammar m.session.origins m.origin m.level.rules
  stands : Text.StandsAt text.toList m.position m.coming

namespace Sound

variable {t : Tokenizer} {text : String}

/-- The session stays sound when misfits are recorded, and knows the same origins. -/
theorem noted (h : m.Sound t text) :
    Session.Sound text.toList t.grammar t.maxDepth m.noted ∧
      Session.Denotes t.grammar m.noted.origins m.origin m.level.rules := by
  obtain ⟨hsound, hgrown⟩ := h.session.records (m.level.misfits m.coming)
  exact ⟨hsound, h.denotes.grown hgrown⟩

/-- **What is done at a sound moment** is what a plain scan does there. It leaves the session sound
and the origins known. -/
theorem act_fst (h : m.Sound t text) (hg : t.grammar.Valid) (hcoming : m.coming = c :: cs) :
    (m.act c cs).1 = decision m.limit m.level m.pending c cs ∧
      Session.Sound text.toList t.grammar t.maxDepth (m.act c cs).2 ∧
      Session.Denotes t.grammar (m.act c cs).2.origins m.origin m.level.rules := by
  obtain ⟨hsound, hdenotes⟩ := h.noted
  have hstands := h.stands
  rw [hcoming] at hstands
  obtain ⟨hfst, hafter, hgrown⟩ :=
    hsound.act hg h.level h.depth hdenotes hstands m.pending rfl
  exact ⟨hfst, hafter, hdenotes.grown hgrown⟩

/-- **Which branches open at a sound moment** is a matter of the text behind their delimiter. -/
theorem attempt_eq (h : m.Sound t text) (hg : t.grammar.Valid) {u : TokenType} {start : String}
    {interior : List Char} (hu : u ∈ m.level.rules) (hbranch : u.isLeaf = false)
    (hcoming : m.coming = start.toList ++ interior) :
    m.attempt u start interior = opening m.limit m.level u interior := by
  obtain ⟨hsound, hdenotes⟩ := h.noted
  have hanswers : Session.AnswersAgree text.toList t.grammar t.maxDepth m.limit m.origin m.level :=
    Session.answersAgree hg h.level h.depth
  have hfollows := Session.host_follows hdenotes hanswers h.level
  have hplain := plainHost_plain log m.limit m.level
  have hquiet := plainHost_plain (fun _ (u : Unit) => u) m.limit m.level
  have hstands := h.stands
  rw [hcoming] at hstands
  have hrelated : Session.Sound text.toList t.grammar t.maxDepth m.noted ∧
      Session.Grown m.noted.origins m.noted.origins ∧
      Record.Thinned m.noted.records.toList m.noted.records.toList :=
    ⟨hsound, fun _ _ h => h, Record.Thinned.refl _⟩
  calc m.attempt u start interior
    -- the session answers as the plain host does
    _ = (openBranch (plainHost log m.limit m.level) m.level u start m.position interior
          m.noted.records.toList).1 :=
        (hfollows.openBranch hrelated hu hbranch hstands.behind_mark).1
    -- and that one as if nothing were recorded
    _ = opening m.limit m.level u interior :=
        openBranch_fst_eq hplain hquiet u start "" m.position 0 interior _ ()

/-- **Soundness goes over to the inside of a branch** that comes next, whether or not the outcome of
its nested scan is remembered. -/
theorem inside (h : m.Sound t text) {limit : Nat} {u : TokenType} {start : String} {n : Nat}
    {interior : List Char} (deeper : m.limit = limit + 1)
    (comes : Comes m.level m.pending m.coming u n) (opens : u.start? = some start)
    (coming : m.coming = start.toList ++ interior) :
    (m.inside limit u start interior).Sound t text := by
  have hbranch := TokenType.isLeaf_eq_false_of_start? opens
  have hmem := Level.mem_of_next_branch comes.next hbranch
  obtain ⟨hsound, hdenotes⟩ := h.noted
  -- one level deeper, where the rules have an origin that stands for them
  obtain ⟨-, hinside⟩ := Session.enter_spec hsound.numbered hdenotes hmem
  have hdepth : (m.level.inside u).depth + limit = t.maxDepth := by
    rw [← h.depth, deeper, Level.inside, Nat.add_assoc, Nat.add_comm 1]
  have hstands := h.stands
  rw [coming] at hstands
  exact ⟨h.level.inside hmem hbranch, hdepth, hsound.enter hdenotes hmem, hinside,
    hstands.behind_mark⟩

/-- **Soundness goes over to the next moment.** -/
theorem next (h : m.Sound t text) (hg : t.grammar.Valid) (hnext : m.Next m') :
    m'.Sound t text := by
  -- one case for each way to go on; level and depth change only where a nested scan begins
  cases hnext with
  | @absorbed c cs kind s coming acts =>
    obtain ⟨-, hsound, hdenotes⟩ := h.act_fst hg coming
    rw [acts] at hsound hdenotes
    have hstands := h.stands
    rw [coming, ← List.singleton_append] at hstands
    exact ⟨h.level, h.depth, hsound, hdenotes, hstands.advance⟩
  | @emitted c cs token n s coming acts =>
    obtain ⟨hfst, hsound, hdenotes⟩ := h.act_fst hg coming
    rw [acts] at hfst hsound hdenotes
    -- what is emitted covers a leading part of what comes
    have hdecided := decided_decision m.limit m.level m.pending c cs
    rw [← hfst] at hdecided
    obtain ⟨piece, tail, hcut, hne, rfl⟩ := hdecided.cut h.level
    have hstands := h.stands
    rw [coming, hcut, ← Text.dropBytes_of_cut hcut hne] at hstands
    exact ⟨h.level, h.depth, hsound, hdenotes, hstands.advance⟩
  | inside deeper comes opens coming filled unknown => exact h.inside deeper comes opens coming

end Sound
end Moment

namespace Tokenizer

/-- The moment at which a run begins. -/
def start (t : Tokenizer) (text : String) : Moment :=
  ⟨t.maxDepth, 0, .top t.grammar, 0, text.toList, none, .empty⟩

/-- **The moments that a run comes to.** -/
def Reaches (t : Tokenizer) (text : String) (m : Moment) : Prop :=
  Relation.ReflTransGen Moment.Next (t.start text) m

/-- What becomes of a run from its first moment on is the scan of the whole text. -/
theorem rest_start (t : Tokenizer) (text : String) :
    (t.start text).rest = Session.scan t.maxDepth 0 (.top t.grammar) 0 text.toList .empty :=
  (Session.scan_eq_walk ..).symm

/-- **Every moment of a run is sound.** -/
theorem sound_of_reaches {t : Tokenizer} (hg : t.grammar.Valid) {text : String} {m : Moment}
    (h : t.Reaches text m) : m.Sound t text := by
  induction h with
  | refl =>
    exact ⟨Level.proper_top hg, Nat.zero_add _, Session.sound_empty, .top, Text.standsAt_zero _⟩
  | tail _ hnext ih => exact ih.next hg hnext

end Tokenizer
end InlineMarkup
