import InlineMarkup.Proofs.Attempts
import InlineMarkup.Proofs.Settings.Slices

/-!
# Branches are looked up as they were opened

A scan opens a branch with one of the rules of its level, which are a branch and its own grammar. A
writer that comes to the token looks its kind up in a stack of whole grammars. This module follows
both of them through one reading of the text, and shows that they have the same type in hand.

* `Writer.stops` — the writer in front of each token, in the order of the walk. It is the recursion
  of `Writer.write`, with the writers kept.
* `Tokenizer.reaches_inside` — the interior of a branch has been scanned at a moment of the run.
  Where its outcome was remembered this is an earlier moment, with the same key; the key tells the
  level, since an origin stands for one rule list and a kind for one type of it.
* `Scan.Reads.met` — the induction on the reading. A moment and a writer go along, and the writer
  knows the rules of the level (`Writer.Knows`), which is where it is used that no grammar declares
  the kind of the branch around it.
* `Tokenizer.lookup_opened` — the conclusion for the tokens of a text.
-/

namespace InlineMarkup

open Scan

/-! ### The stops of a writer -/

namespace Writer

/-- **A stop of a writer** in front of a token. -/
structure Stop where
  writer : Writer
  token : Token

mutual

/-- The stops on the way through a token: in front of the token itself and of all tokens inside. -/
def stopsOf (w : Writer) : Token → List Stop
  | .leaf kind text => [⟨w, .leaf kind text⟩]
  | .branch kind children =>
    ⟨w, .branch kind children⟩ ::
      match w.lookup? kind with
      | none => stops { w with records := w.records.push (.undeclaredBranch kind) } children
      | some t => stops ((w.put (t.start?.getD "")).enter t.inner?) children

/-- **The stops on the way through a forest,** which is written token by token. -/
def stops (w : Writer) : List Token → List Stop
  | [] => []
  | t :: ts => stopsOf w t ++ stops (w.write t) ts

end

/-- **The type of a kind in the scopes,** without the search from the grammar of the whole text. -/
def scoped? (w : Writer) (kind : String) : Option TokenType :=
  w.scopes.findSome? fun g => g.own? kind

/-- What has been written before stands in front of what has been written now. -/
theorem prefix_of_put {w : Writer} {text more : String} {coming : List Char}
    (h : text.toList = (w.put more).text.toList ++ coming) : w.text.toList <+: text.toList := by
  rw [put, String.toList_append, List.append_assoc] at h
  exact ⟨_, h.symm⟩

theorem enter_text (w : Writer) (inner : Option Grammar) : (w.enter inner).text = w.text := by
  cases inner <;> rfl

end Writer

/-! ### Interiors that are scanned -/

namespace Moment

variable {m m' : Moment} {a : Attempt} {t : Tokenizer} {text : String}

/-- **The key of what is read** from a moment on, if that is the interior of a branch. -/
def ownKey? (m : Moment) : Option Attempt :=
  m.level.closing.map fun b => ⟨m.position, m.origin, b.kind, m.level.depth⟩

theorem Begins.ownKey?_eq (h : m.Begins a m') : m'.ownKey? = some a ∧ m'.pending = none := by
  cases h
  exact ⟨rfl, rfl⟩

/-- **The key tells the moment.** Two sound moments at which nested scans with one key begin differ
in their sessions only, if the one knows the origins of the other. -/
theorem Sound.eq_of_ownKey? (h : m.Sound t text) (h' : m'.Sound t text) (hg : t.grammar.Valid)
    (hgrown : Session.Grown m'.session.origins m.session.origins) (hkey : m.ownKey? = some a)
    (hkey' : m'.ownKey? = some a) (hpending : m'.pending = m.pending) :
    m' = { m with session := m'.session } := by
  obtain ⟨b, hb, rfl⟩ := Option.map_eq_some_iff.mp hkey
  obtain ⟨b', hb', heq⟩ := Option.map_eq_some_iff.mp hkey'
  obtain ⟨hposition, horigin, hkind, hdepth⟩ := Attempt.mk.inj heq
  -- one origin, one rule list; and in it one type for the kind of the branch around
  have hrules : m'.level.rules = m.level.rules := by
    have hdenotes := h'.denotes.grown hgrown
    rw [horigin] at hdenotes
    exact hdenotes.unique h.denotes hg h.session.numbered
  have hclosing : m'.level.closing = m.level.closing := by
    have hmem := h.level.closing_mem b hb
    have hmem' := hrules ▸ h'.level.closing_mem b' hb'
    rw [hb, hb', h.level.rules.eq_of_kind_eq hmem' hmem hkind]
  -- depth and limit have one sum, and a position tells what comes
  have hlimit : m'.limit = m.limit := by
    have h₁ := h.depth
    have h₂ := h'.depth
    omega
  have hcoming : m'.coming = m.coming := (hposition ▸ h'.stands).unique h.stands
  have hlevel : m'.level = m.level := by
    rw [Level.mk.injEq]
    exact ⟨hrules, hclosing, hdepth⟩
  rw [Moment.mk.injEq]
  exact ⟨hlimit, horigin, hlevel, hposition, hcoming, hpending, rfl⟩

end Moment

namespace Tokenizer

variable {t : Tokenizer} {text : String} {m : Moment} {c : Char} {cs : List Char}

/-- **The interior of a branch is scanned** at some moment of the run, if it may be. Either the
nested scan begins where the branch comes, or one with the same key has begun before. -/
theorem reaches_inside (hg : t.grammar.Valid) (h : t.Reaches text m) {limit : Nat} {u : TokenType}
    {start : String} {n : Nat} {interior : List Char} (deeper : m.limit = limit + 1)
    (comes : Comes m.level m.pending m.coming u n) (opens : u.start? = some start)
    (coming : m.coming = start.toList ++ interior) (filled : interior ≠ []) :
    ∃ s, t.Reaches text { m.inside limit u start interior with session := s } := by
  cases hknown : (m.entered u).2.outcomes[m.key u start]? with
  | none => exact ⟨_, h.tail (.inside deeper comes opens coming filled hknown)⟩
  | some x =>
    rw [m.entered_outcomes] at hknown
    rcases (Moment.adds_of_reach h).begun _ _ hknown with
      hold | ⟨m₁, m₂, hreach, hbegins, -, hgrown⟩
    · -- at the start nothing is remembered
      cases Std.HashMap.getElem?_empty.symm.trans hold
    · have hreach₂ : t.Reaches text m₂ := hreach.tail hbegins.next
      have hsound := (sound_of_reaches hg h).inside deeper comes opens coming
      -- a scan with this key has begun before, at the moment at which this one would begin
      have hsame := hsound.eq_of_ownKey? (sound_of_reaches hg hreach₂) hg
        (fun e o ho => (m.entered_keeps u).origins e o (hgrown e o ho)) rfl
        hbegins.ownKey?_eq.1 hbegins.ownKey?_eq.2
      exact ⟨m₂.session, hsame ▸ hreach₂⟩

/-- A run goes on behind a character that goes to a leaf. -/
theorem reaches_absorbed (hg : t.grammar.Valid) (h : t.Reaches text m)
    (hcoming : m.coming = c :: cs) {kind : String}
    (goes : Decided m.limit m.level m.pending c cs (.absorb kind)) :
    ∃ s, t.Reaches text (m.absorbed kind c cs s) := by
  have hact : (m.act c cs).1 = .absorb kind :=
    ((sound_of_reaches hg h).act_fst hg hcoming).1.trans goes.decision_eq
  exact ⟨_, h.tail (.absorbed hcoming (Prod.ext hact rfl))⟩

/-- A run emits what a scan emits, and goes on behind it. -/
theorem reaches_emitted (hg : t.grammar.Valid) (h : t.Reaches text m)
    (hcoming : m.coming = c :: cs) {piece behind : List Char} (hcut : c :: cs = piece ++ behind)
    (hne : piece ≠ []) {token : Token}
    (emits : Decided m.limit m.level m.pending c cs (.emit token (Text.byteLength piece))) :
    (m.act c cs).1 = .emit token (Text.byteLength piece) ∧
      ∃ s, t.Reaches text { m with
        position := m.position + Text.byteLength piece
        coming := behind
        pending := none
        session := s } := by
  have hact : (m.act c cs).1 = .emit token (Text.byteLength piece) :=
    ((sound_of_reaches hg h).act_fst hg hcoming).1.trans emits.decision_eq
  have hreach := h.tail (.emitted hcoming (Prod.ext hact rfl))
  rw [Moment.emitted, Text.dropBytes_of_cut hcut hne] at hreach
  exact ⟨hact, _, hreach⟩

end Tokenizer

/-! ### Stops and moments -/

/-- **A branch is opened** at a moment: the type comes next, and the token is emitted. -/
structure Moment.Opens (m : Moment) (u : TokenType) (token : Token) : Prop where
  branch : u.isLeaf = false
  comes : ∃ n, Comes m.level m.pending m.coming u n
  emits : ∃ c cs n, m.coming = c :: cs ∧ (m.act c cs).1 = .emit token n

/-- A branch that is opened gives a branch of its kind. -/
theorem Moment.Opens.exists_children {m : Moment} {u : TokenType} {token : Token}
    (h : m.Opens u token) : ∃ children, token = .branch u.kind children := by
  obtain ⟨hbranch, ⟨n, comes⟩, c, cs, k, hcoming, hact⟩ := h
  cases u with
  | leaf kind constraint => cases hbranch
  | branch kind start stop inner =>
    rw [hcoming] at comes
    rw [act, act_of_comes comes] at hact
    -- the attempt emits what the nested scan has found
    generalize openBranch _ m.level _ start m.position _ m.noted = answer at hact
    obtain ⟨_ | closed, s⟩ := answer
    · cases hact
    · cases hact
      exact ⟨closed.tokens, rfl⟩

/-- **The moments of a branch.** Where a reading has a branch, the run opens it, has scanned its
interior one level deeper, and goes on behind it. -/
theorem Tokenizer.reaches_branch {t : Tokenizer} {text : String} (hg : t.grammar.Valid)
    {limit origin position : Nat} {level : Level} {pending : Option Leaf} {s : Session}
    {kind start stop : String} {inner : Option Grammar} {interior behind : List Char}
    {children : List Token}
    (hreach : t.Reaches text
      ⟨limit + 1, origin, level, position, start.toList ++ interior, pending, s⟩)
    (comes : Comes level pending (start.toList ++ interior) (.branch kind start stop inner)
      start.utf8ByteSize)
    (filled : children ≠ [])
    (within : Reads limit (level.inside (.branch kind start stop inner)) none interior children
      (stop.toList ++ behind)) :
    Moment.Opens ⟨limit + 1, origin, level, position, start.toList ++ interior, pending, s⟩
        (.branch kind start stop inner) (.branch kind children) ∧
      (∃ origin' position' s', t.Reaches text ⟨limit, origin',
        level.inside (.branch kind start stop inner), position', interior, none, s'⟩) ∧
      ∃ position' s', t.Reaches text ⟨limit + 1, origin, level, position', behind, none, s'⟩ := by
  have hlevel : level.Proper := (sound_of_reaches hg hreach).level
  have hmem := Level.mem_of_next_branch comes.next rfl
  obtain ⟨n, hnested, hsize⟩ := within.resume (hlevel.inside hmem rfl)
  obtain ⟨c, cs, piece, hcons, hcut, hne, hemits⟩ :=
    Decided.of_resume hlevel comes filled hnested hsize within.suffix
  obtain ⟨hact, sbehind, hbehind⟩ := reaches_emitted hg hreach hcons hcut hne hemits
  -- the closing delimiter is in the interior that a scan may run into
  have hfilled : interior ≠ [] := by
    obtain ⟨middle, rfl⟩ := within.suffix
    simp [(hlevel.rules.marks_ne_empty hmem).2]
  obtain ⟨sinside, hinside⟩ := reaches_inside hg hreach rfl comes rfl rfl hfilled
  exact ⟨⟨rfl, ⟨_, comes⟩, c, cs, _, hcons, hact⟩, ⟨_, _, _, hinside⟩, ⟨_, _, hbehind⟩⟩

/-- **A place is met** at a stop of a writer that reads along the text. The token stands there, and
what has been written is the text in front of it. If it is a branch, it has been opened by a scan,
and the writer has the type with which that was done in its scopes. -/
structure Place.Met (t : Tokenizer) (text : String) (p : Place) (s : Writer.Stop) : Prop where
  token : s.token = p.token
  position : s.writer.text.utf8ByteSize = p.position
  written : s.writer.text.toList <+: text.toList
  opened : p.token.isLeaf = false →
    ∃ m u, t.Reaches text m ∧ m.level = p.level ∧ m.position = p.position ∧ m.Opens u p.token
  looked : ∀ (m : Moment) (u : TokenType), m.level = p.level → m.Opens u p.token →
    s.writer.scoped? p.token.kind = some u ∧ s.writer.lookup? p.token.kind = some u

namespace Scan

variable {t : Tokenizer} {text : String} {limit : Nat} {level : Level} {pending : Option Leaf}
  {coming rest : List Char} {tokens : List Token} {w : Writer}

/-- A leaf is met where it stands. -/
theorem met_leaf (kind content : String) (hwritten : w.text.toList <+: text.toList) :
    Place.Met t text ⟨level, w.text.utf8ByteSize, .leaf kind content⟩ ⟨w, .leaf kind content⟩ where
  token := rfl
  position := rfl
  written := hwritten
  opened := fun hbranch => nomatch hbranch
  looked := fun m u _ hopens => by
    obtain ⟨children, htoken⟩ := hopens.exists_children
    cases htoken

/-- **What comes behind the leaf under way** is met when that has been written. -/
theorem met_finish (hwritten : w.text.toList <+: text.toList)
    (hafter : List.Forall₂ (Place.Met t text)
      (level.places (w.put (Leaf.held pending)).text.utf8ByteSize tokens)
      ((w.put (Leaf.held pending)).stops tokens)) :
    List.Forall₂ (Place.Met t text)
      (level.places w.text.utf8ByteSize (Leaf.finish pending ++ tokens))
      (w.stops (Leaf.finish pending ++ tokens)) := by
  -- a leaf that is finished is met first
  cases pending with
  | none =>
    have hput : w.put (Leaf.held none) = w := w.put_empty
    rwa [hput] at hafter
  | some l =>
    show List.Forall₂ _ (level.places _ (.leaf l.kind l.text :: tokens))
      (w.stops (.leaf l.kind l.text :: tokens))
    rw [Level.places, Writer.stops, Level.placesOf, Writer.stopsOf, Writer.write, Level.extent,
      ← String.utf8ByteSize_append]
    exact .cons (met_leaf _ _ hwritten) hafter

/-- **A branch is met** where a run opens it, by a writer that knows the rules of its level. -/
theorem met_branch (hknows : w.Knows level.rules)
    (hwritten : w.text.toList <+: text.toList) {u : TokenType} {children : List Token} {m : Moment}
    (hreach : t.Reaches text m) (hm : m.level = level)
    (hposition : m.position = w.text.utf8ByteSize)
    (hopens : m.Opens u (.branch u.kind children)) :
    Place.Met t text ⟨level, w.text.utf8ByteSize, .branch u.kind children⟩
      ⟨w, .branch u.kind children⟩ where
  token := rfl
  position := rfl
  written := hwritten
  opened := fun _ => ⟨m, u, hreach, hm, hposition, hopens⟩
  looked := fun m' v hm' hopens' => by
    -- what is opened is a rule of the level, and has the kind of the token
    obtain ⟨children', htoken⟩ := hopens'.exists_children
    obtain ⟨n, comes⟩ := hopens'.comes
    have hrules : m'.level.rules = level.rules := congrArg Level.rules hm'
    have hmem : v ∈ level.rules := hrules ▸ Level.mem_of_next_branch comes.next hopens'.branch
    have hkind : u.kind = v.kind := (Token.branch.inj htoken).1
    show w.scoped? u.kind = some v ∧ w.lookup? u.kind = some v
    rw [hkind]
    exact ⟨hknows v hmem, hknows.lookup? hmem⟩

/-- Nothing else is met behind the leaf under way. -/
theorem met_finished (hwritten : w.text.toList <+: text.toList) :
    List.Forall₂ (Place.Met t text) (level.places w.text.utf8ByteSize (Leaf.finish pending))
      (w.stops (Leaf.finish pending)) := by
  have hnil : List.Forall₂ (Place.Met t text)
      (level.places (w.put (Leaf.held pending)).text.utf8ByteSize [])
      ((w.put (Leaf.held pending)).stops []) := .nil
  simpa only [List.append_nil] using met_finish hwritten hnil

/-- **A moment and a writer that go along a reading.** Where the writer knows the rules of the level
and has written what stands in front of the leaf under way, it meets the tokens of the reading in
their places. -/
theorem Reads.met (h : Reads limit level pending coming tokens rest) (hg : t.grammar.Valid)
    {origin position : Nat} {s : Session}
    (hreach : t.Reaches text ⟨limit, origin, level, position, coming, pending, s⟩)
    (hknows : w.Knows level.rules)
    (hwritten : text.toList = (w.put (Leaf.held pending)).text.toList ++ coming) :
    List.Forall₂ (Place.Met t text) (level.places w.text.utf8ByteSize tokens) (w.stops tokens) := by
  -- a branch uses both hypotheses: the one for its interior with the scope of the branch open, the
  -- other one behind the closing delimiter, with the scopes that were there before
  induction h generalizing origin position s w with
  | finished => exact met_finished (Writer.prefix_of_put hwritten)
  | ended => exact met_finished (Writer.prefix_of_put hwritten)
  | @absorbed limit level pending c cs kind tokens rest goes onward ih =>
    obtain ⟨s', hreach'⟩ := Tokenizer.reaches_absorbed hg hreach rfl goes
    -- what is under way now goes behind the leaf that may have been finished
    obtain ⟨done, -, hdone, hheld⟩ := Leaf.absorb_held kind c pending
    have hput : ((w.put (Leaf.held done)).put
        (Leaf.held (some (Leaf.absorb kind c pending).2))) =
        (w.put (Leaf.held pending)).put (String.singleton c) := by
      rw [Writer.put_put, Writer.put_put, ← hheld]
      rfl
    have hwritten' : text.toList = ((w.put (Leaf.held done)).put
        (Leaf.held (some (Leaf.absorb kind c pending).2))).text.toList ++ cs := by
      rw [hput, hwritten]
      simp [Writer.put]
    have hbefore : w.text.toList <+: text.toList :=
      Writer.prefix_of_put (hwritten'.trans (by rw [Writer.put_put]))
    rw [hdone]
    exact met_finish hbefore (ih hreach' (hknows.put _) hwritten')
  | @whole limit level pending kind constraint content cs tokens rest comes long onward ih =>
    -- the run emits the match, and the writer adds it
    obtain ⟨c, cs', hcons, hemits⟩ := Decided.of_text comes long
    have hne : content ≠ [] := List.ne_nil_of_length_pos (Nat.lt_of_succ_lt long)
    obtain ⟨-, s', hreach'⟩ := Tokenizer.reaches_emitted hg hreach hcons hcons.symm hne hemits
    have hwritten' : text.toList = (((w.put (Leaf.held pending)).put (String.ofList content)).put
        (Leaf.held none)).text.toList ++ cs := by
      rw [hwritten]
      simp [Writer.put, Leaf.held]
    apply met_finish (Writer.prefix_of_put hwritten)
    rw [Level.places, Writer.stops, Level.placesOf, Writer.stopsOf, Writer.write, Level.extent,
      ← String.utf8ByteSize_append]
    exact .cons (met_leaf _ _ ⟨_, hwritten.symm⟩) (ih hreach' ((hknows.put _).put _) hwritten')
  | @branch limit level pending kind start stop inner interior children cs tokens rest comes filled
      within onward ihin ihon =>
    apply met_finish (Writer.prefix_of_put hwritten)
    have hknows' : (w.put (Leaf.held pending)).Knows level.rules := hknows.put _
    generalize w.put (Leaf.held pending) = v at hwritten hknows' ⊢
    have hsound := Tokenizer.sound_of_reaches hg hreach
    have hlevel : level.Proper := hsound.level
    have hmem := Level.mem_of_next_branch comes.next rfl
    -- the run opens the branch where the writer stands
    obtain ⟨hopens, ⟨_, _, _, hinside⟩, ⟨_, _, hbehind⟩⟩ :=
      Tokenizer.reaches_branch hg hreach comes filled within
    obtain ⟨middle, rfl⟩ := within.suffix
    have hwhere : Text.StandsAt text.toList v.text.utf8ByteSize _ :=
      ⟨_, hwritten, (Text.byteLength_toList _).symm⟩
    have hmet : Place.Met t text ⟨level, v.text.utf8ByteSize, .branch kind children⟩
        ⟨v, .branch kind children⟩ :=
      met_branch hknows' ⟨_, hwritten.symm⟩ hreach rfl (hsound.stands.position_eq hwhere) hopens
    -- the writer opens the scope of the branch for the interior
    have hwithin : List.Forall₂ (Place.Met t text)
        ((level.inside (.branch kind start stop inner)).places
          (v.text.utf8ByteSize + start.utf8ByteSize) children)
        (((v.put start).enter inner).stops children) := by
      have hsize : ((v.put start).enter inner).text.utf8ByteSize =
          v.text.utf8ByteSize + start.utf8ByteSize := by
        rw [Writer.enter_text, Writer.put, String.utf8ByteSize_append]
      rw [← hsize]
      apply ihin hinside ((hknows'.put start).enter hlevel.rules hmem)
      rw [hwritten, Leaf.held]
      simp [Writer.put, Writer.enter_text]
    -- and has written what the branch covers when it has closed that scope
    have hcovers : Covers (limit + 1) level (.branch kind children)
        (start.toList ++ (middle ++ stop.toList)) cs := .branch comes.afresh within
    have honward : List.Forall₂ (Place.Met t text)
        (level.places (v.text.utf8ByteSize + level.extent (.branch kind children)) tokens)
        ((v.write (.branch kind children)).stops tokens) := by
      rw [← hcovers.byteLength_eq hlevel, hcovers.write hlevel hknows', ← Text.byteLength_ofList,
        ← String.utf8ByteSize_append]
      apply ihon hbehind (hknows'.put _)
      rw [hwritten, Leaf.held]
      simp [Writer.put]
    have hlookup : v.lookup? kind = some (.branch kind start stop inner) := hknows'.lookup? hmem
    have htype : level.typeOf kind = .branch kind start stop inner :=
      Level.typeOf_kind hlevel.rules hmem
    rw [Level.places, Writer.stops, Level.placesOf, Writer.stopsOf, hlookup, htype]
    exact List.rel_append (.cons hmet hwithin) honward

end Scan

namespace Tokenizer

/-- **Branches are looked up as they were opened.** With a valid grammar, a writer that has just
begun makes one stop for each token of a text, in the order of the walk, when it has written what
stands in front of the token. If that is a branch, a scan has opened it there, and the type with
which it has done so is the one that the writer finds under its kind, in the scopes that are
open. -/
theorem lookup_opened (t : Tokenizer) (hg : t.grammar.Valid) (text : String) :
    (t.places text).map Place.visit = Token.walkList 0 (t.tokenize text) ∧
      List.Forall₂ (Place.Met t text) (t.places text)
        ((Writer.start t.grammar).stops (t.tokenize text)) := by
  refine ⟨t.map_visit_places text, ?_⟩
  have hknows : (Writer.start t.grammar).Knows t.grammar := Writer.knows_start hg.isRuleList
  exact (reads_tokenize hg text).met hg .refl hknows rfl

/-- Boxes in quotes in boxes. The inner box has other delimiters than the outer one, and is looked
up where three grammars are open of which two declare its kind. -/
theorem lookup_opened_boxes :
    let curly : TokenType := .delimited "box" "\x7b" "\x7d"
    let quote : TokenType := (TokenType.delimited "quote" "<" ">").withGrammar [curly]
    let box : TokenType := (TokenType.delimited "box" "[" "]").withGrammar [quote]
    let t : Tokenizer := ⟨[box], 64⟩
    t.grammar.Valid ∧
      (((Writer.start t.grammar).stops (t.tokenize "[<\x7ba\x7db>]c\x7d")).map fun s =>
        (s.token.kind, (s.writer.lookup? s.token.kind).bind TokenType.start?)) =
        [("box", some "["), ("quote", some "<"), ("box", some "\x7b"), ("word", none),
          ("word", none), ("word", none)] ∧
      List.Forall₂ (Place.Met t "[<\x7ba\x7db>]c\x7d") (t.places "[<\x7ba\x7db>]c\x7d")
        ((Writer.start t.grammar).stops (t.tokenize "[<\x7ba\x7db>]c\x7d")) := by
  intro curly quote box t
  -- from the innermost grammar out
  have hcurly : Grammar.Valid [curly] := Grammar.valid_of_flat rfl (by decide)
  have hquote : Grammar.Valid [quote] := by
    refine .intro rfl fun u hu inner hinner => ?_
    cases List.mem_singleton.mp hu
    cases hinner
    exact hcurly
  have hbox : t.grammar.Valid := by
    refine .intro rfl fun u hu inner hinner => ?_
    cases List.mem_singleton.mp hu
    cases hinner
    exact hquote
  refine ⟨hbox, ?_, (lookup_opened t hbox "[<\x7ba\x7db>]c\x7d").2⟩
  rw [tokenize_eq_outcome hbox]
  decide +kernel

end Tokenizer
end InlineMarkup
