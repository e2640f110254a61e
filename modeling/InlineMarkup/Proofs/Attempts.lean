import InlineMarkup.Proofs.Moments

/-!
# Attempts are made once

A nested scan is run only if its outcome is not remembered. While it runs it begins nested scans of
its own, whose outcomes go into the same memory; only then its own outcome is put there. This
module shows that nothing is overwritten when that happens, and that no nested scan is run twice.

* `Moment.Begins` — a nested scan begins at a moment. `Begins.act_memory` and `Moment.act_outcomes`
  say what a step does to the memory of a session: it adds the outcome of the one nested scan that
  it begins, or no outcome at all.
* `Moment.adds_rest` — so what a scan adds to the memory are the outcomes of the nested scans that
  are begun on its way. This is the one induction over a whole run, on the limit and on the coming
  text; everything else about the memory is read off where the nested scans begin.
* `Moment.Begins.lt_start` — a nested scan begins behind an opening delimiter, so the keys that it
  adds start further on than its own.
* `Moment.Begins.unique` — of two moments on the ways of a run that begin the same nested scan,
  neither comes before the other.
* `Tokenizer.attempts_once` — the conclusion for the text of a tokenizer.
-/

namespace InlineMarkup

open Scan Relation

/-! ### The memory of a session -/

namespace Session

/-- **What a session remembers,** the records left out. -/
def memory (s : Session) : Std.HashMap Attempt (Option Closed) × Std.HashMap Entrance Nat :=
  (s.outcomes, s.origins)

variable {s s' s'' : Session} {a : Attempt} {x : Option Closed}

theorem outcomes_eq_of_memory_eq (h : s.memory = s'.memory) : s.outcomes = s'.outcomes :=
  congrArg Prod.fst h

theorem origins_eq_of_memory_eq (h : s.memory = s'.memory) : s.origins = s'.origins :=
  congrArg Prod.snd h

theorem memory_records (rs : List Record) (s : Session) :
    (rs.foldl (fun s r => s.record r) s).memory = s.memory := by
  induction rs generalizing s with
  | nil => rfl
  | cons r rs ih => exact ih (s.record r)

/-- **A session keeps what another one remembers.** No outcome and no number is lost or changed. -/
structure Keeps (s s' : Session) : Prop where
  outcomes : ∀ (a : Attempt) (x : Option Closed), s.outcomes[a]? = some x →
    s'.outcomes[a]? = some x
  origins : Grown s.origins s'.origins

theorem Keeps.refl (s : Session) : s.Keeps s := ⟨fun _ _ h => h, fun _ _ h => h⟩

theorem Keeps.trans (h : s.Keeps s') (h' : s'.Keeps s'') : s.Keeps s'' :=
  ⟨fun a x hx => h'.outcomes a x (h.outcomes a x hx),
    fun e o ho => h'.origins e o (h.origins e o ho)⟩

theorem Keeps.of_memory_eq (h : s.memory = s'.memory) : s.Keeps s' := by
  refine ⟨fun a x hx => ?_, fun e o ho => ?_⟩
  · rwa [← outcomes_eq_of_memory_eq h]
  · rwa [← origins_eq_of_memory_eq h]

theorem Keeps.mem (h : s.Keeps s') (ha : a ∈ s.outcomes) : a ∈ s'.outcomes := by
  obtain ⟨x, hx⟩ := Option.isSome_iff_exists.mp (Std.HashMap.mem_iff_isSome_getElem?.mp ha)
  rw [Std.HashMap.mem_iff_isSome_getElem?, h.outcomes a x hx]
  rfl

/-- An outcome that was not remembered before overwrites nothing. -/
theorem Keeps.remember (h : s.Keeps s') (hnew : a ∉ s.outcomes) :
    s.Keeps (s'.remember a x) := by
  refine ⟨fun b y hy => ?_, h.origins⟩
  have hne : (a == b) = false := by
    apply beq_false_of_ne
    rintro rfl
    rw [Std.HashMap.getElem?_eq_none hnew] at hy
    cases hy
  show (s'.outcomes.insert a x)[b]? = some y
  rw [Std.HashMap.getElem?_insert, hne]
  exact h.outcomes b y hy

theorem enter_keeps (parent : Nat) (t : TokenType) (s : Session) :
    s.Keeps (enter parent t s).2 := by
  obtain ⟨houtcomes, -, hgrown⟩ := enter_frame parent t s
  exact ⟨fun a x hx => by rwa [houtcomes], hgrown⟩

end Session

/-! ### Where nested scans begin -/

namespace Scan

variable {σ : Type} {level : Level} {pending : Option Leaf} {c : Char} {cs : List Char}

/-- Where a branch comes next, the step is the attempt to open it. -/
theorem act_of_comes {kind start stop : String} {inner : Option Grammar} {n : Nat}
    (comes : Comes level pending (c :: cs) (.branch kind start stop inner) n) (h : Host σ)
    (position : Nat) (s : σ) :
    act h level position pending c cs (level.next (c :: cs)) s =
      (openBranch h level (.branch kind start stop inner) start position
        (Text.dropBytes start.utf8ByteSize (c :: cs)) s).map
          (Action.ofAttempt kind start stop) id := by
  rw [comes.next, act, if_neg (Bool.eq_false_iff.mp comes.fresh),
    if_neg (Bool.eq_false_iff.mp comes.foreign)]
  dsimp only
  generalize openBranch h level _ start position _ s = answer
  obtain ⟨_ | closed, s'⟩ := answer <;> rfl

/-- **An attempt that is answered** leaves the memory as the answer does; only a record may be
made. -/
theorem openBranch_memory {host : Host Session} (hrecord : host.record = Session.record)
    {nested : TokenType → Nat → List Char → Session → Option Closed × Session}
    (hnested : host.nested = some nested) {t : TokenType} {start : String} {position : Nat}
    {interior : List Char} (hfilled : interior ≠ []) (s : Session) :
    (openBranch host level t start position interior s).2.memory =
      (nested t (position + start.utf8ByteSize) interior s).2.memory := by
  rw [openBranch, if_neg (by simpa using hfilled), hnested, hrecord]
  dsimp only
  generalize nested t (position + start.utf8ByteSize) interior s = answer
  obtain ⟨_ | closed, s'⟩ := answer
  · rfl
  · dsimp only
    by_cases hempty : closed.tokens.isEmpty = true
    · rw [if_pos hempty]
      rfl
    · rw [if_neg hempty]

end Scan

namespace Moment

variable {m m' m₁ m₂ : Moment} {a : Attempt} {c : Char} {cs : List Char}

/-- **A nested scan begins.** At the moment `m` a branch comes next that may be tried, and what has
become of its interior is not remembered under the key `a`. The scan begins at the moment `m'`, and
its outcome is going to be remembered under that key. -/
inductive Begins (m : Moment) : Attempt → Moment → Prop where
  | intro {limit : Nat} {t : TokenType} {start : String} {n : Nat} {interior : List Char}
      (deeper : m.limit = limit + 1) (comes : Comes m.level m.pending m.coming t n)
      (opens : t.start? = some start) (coming : m.coming = start.toList ++ interior)
      (filled : interior ≠ [])
      (unknown : (m.entered t).2.outcomes[m.key t start]? = none) :
      Begins m (m.key t start) (m.inside limit t start interior)

theorem Begins.next (h : m.Begins a m') : m.Next m' := by
  obtain ⟨deeper, comes, opens, coming, filled, unknown⟩ := h
  exact .inside deeper comes opens coming filled unknown

theorem noted_memory (m : Moment) : m.noted.memory = m.session.memory :=
  Session.memory_records _ _

theorem entered_outcomes (m : Moment) (t : TokenType) :
    (m.entered t).2.outcomes = m.session.outcomes := by
  rw [entered, (Session.enter_frame _ _ _).1]
  exact Session.outcomes_eq_of_memory_eq m.noted_memory

theorem entered_keeps (m : Moment) (t : TokenType) : m.session.Keeps (m.entered t).2 :=
  (Session.Keeps.of_memory_eq m.noted_memory.symm).trans (Session.enter_keeps _ _ _)

/-- The scan that begins remembers what was remembered before, and its key is not among that. -/
theorem Begins.session (h : m.Begins a m') :
    m'.session.outcomes = m.session.outcomes ∧ m.session.Keeps m'.session ∧
      a ∉ m.session.outcomes := by
  obtain ⟨deeper, comes, opens, coming, filled, unknown⟩ := h
  refine ⟨m.entered_outcomes _, m.entered_keeps _, ?_⟩
  rw [← m.entered_outcomes, Std.HashMap.mem_iff_isSome_getElem?, unknown]
  exact Bool.false_ne_true

/-- **Behind a nested scan.** Where one begins, the step leaves what the nested scan leaves, and its
outcome under its key. -/
theorem Begins.act_memory (h : m.Begins a m') (hcoming : m.coming = c :: cs) :
    (m.act c cs).2.memory = (m'.rest.2.remember a m'.rest.1).memory := by
  obtain @⟨limit, t, start, n, interior, deeper, comes, opens, coming, filled, unknown⟩ := h
  cases t with
  | leaf kind constraint => cases opens
  | branch kind start' stop inner =>
    cases opens
    have hinterior : Text.dropBytes start.utf8ByteSize (c :: cs) = interior := by
      rw [← hcoming, coming, Text.dropBytes_toList_append]
    rw [hcoming] at comes
    have hnested : (Session.host m.limit m.origin m.level).nested =
        some (Session.nested limit m.origin m.level) := by rw [deeper]; rfl
    calc (m.act c cs).2.memory
      _ = (openBranch (Session.host m.limit m.origin m.level) m.level
            (.branch kind start stop inner) start m.position interior m.noted).2.memory := by
          rw [act, act_of_comes comes, hinterior]
          rfl
      -- an interior that is not empty is scanned, since no outcome is remembered
      _ = (Session.nested limit m.origin m.level (.branch kind start stop inner)
            (m.position + start.utf8ByteSize) interior m.noted).2.memory :=
          openBranch_memory rfl hnested filled m.noted
      _ = _ := by rw [m.nested_eq, unknown]

/-- **A step without a nested scan** leaves the outcomes as they are. -/
theorem act_outcomes (hcoming : m.coming = c :: cs) (hnone : ∀ a m', ¬ m.Begins a m') :
    (m.act c cs).2.outcomes = m.session.outcomes ∧ m.session.Keeps (m.act c cs).2 := by
  -- it is enough that the step leaves the memory as it was, or as it is when a branch is entered
  suffices h : (m.act c cs).2.memory = m.session.memory ∨
      ∃ t, (m.act c cs).2.memory = (m.entered t).2.memory by
    rcases h with h | ⟨t, h⟩
    · exact ⟨Session.outcomes_eq_of_memory_eq h, .of_memory_eq h.symm⟩
    · refine ⟨?_, (m.entered_keeps t).trans (.of_memory_eq h.symm)⟩
      rw [Session.outcomes_eq_of_memory_eq h, m.entered_outcomes]
  have hnoted := m.noted_memory
  generalize hnext : m.level.next (c :: cs) = found
  obtain ⟨t, n⟩ := found
  by_cases hfresh : (m.pending.any fun l => l.kind == t.kind) = true
  · -- the leaf under way takes the character
    left
    rw [act, hnext, Scan.act, if_pos hfresh]
    exact hnoted
  rcases act_cases m.level m.pending c cs ⟨t, n⟩ with
    ⟨action, hact⟩ | ⟨kind, start, stop, inner, rfl, hforeign, hact⟩
  · -- decided without the session
    left
    rw [act, hnext, hact]
    exact hnoted
  · -- a branch comes next: what keeps its interior from being scanned?
    rw [act, hnext, hact]
    show (openBranch _ m.level _ start m.position _ m.noted).2.memory = _ ∨
      ∃ t, (openBranch _ m.level _ start m.position _ m.noted).2.memory = (m.entered t).2.memory
    have hcut := Level.next_branch_cut hnext hforeign
    generalize Text.dropBytes start.utf8ByteSize (c :: cs) = interior at hcut
    by_cases hempty : interior = []
    · -- there is nothing behind its delimiter
      left
      rw [openBranch, if_pos (by simpa using hempty)]
      exact hnoted
    cases hlimit : m.limit with
    | zero =>
      -- no further level is allowed
      left
      rw [openBranch, if_neg (by simpa using hempty)]
      exact hnoted
    | succ limit =>
      right
      refine ⟨.branch kind start stop inner, ?_⟩
      have hmemory :
          (openBranch (Session.host (limit + 1) m.origin m.level) m.level
            (.branch kind start stop inner) start m.position interior m.noted).2.memory =
          (Session.nested limit m.origin m.level (.branch kind start stop inner)
            (m.position + start.utf8ByteSize) interior m.noted).2.memory :=
        openBranch_memory rfl rfl hempty m.noted
      rw [hmemory, m.nested_eq]
      cases hknown : (m.entered (.branch kind start stop inner)).2.outcomes[
          m.key (.branch kind start stop inner) start]? with
      | some outcome =>
        -- its outcome is remembered
        rfl
      | none =>
        -- nothing does, so its nested scan begins
        have hcomes : Comes m.level m.pending m.coming (.branch kind start stop inner) n :=
          ⟨by rw [hcoming, hnext], Bool.eq_false_iff.mpr hfresh, hforeign⟩
        have hbegins : m.Begins _ _ :=
          .intro hlimit hcomes rfl (hcoming.trans hcut.symm) hempty hknown
        exact absurd hbegins (hnone _ _)

/-! ### What a scan adds -/

/-- **What a scan adds to the memory** from a moment on. It keeps what is remembered there, and the
outcomes that come to it are those of nested scans which begin on its way. -/
structure Adds (m : Moment) (s : Session) : Prop where
  keeps : m.session.Keeps s
  begun : ∀ (a : Attempt) (x : Option Closed), s.outcomes[a]? = some x →
    m.session.outcomes[a]? = some x ∨
      ∃ m₁ m₂ : Moment, ReflTransGen Next m m₁ ∧ m₁.Begins a m₂ ∧ m₂.rest.1 = x ∧
        Session.Grown m₂.session.origins s.origins

theorem Adds.of_mem {s : Session} (h : m.Adds s) (ha : a ∈ s.outcomes) :
    a ∈ m.session.outcomes ∨ ∃ m₁ m₂ : Moment, ReflTransGen Next m m₁ ∧ m₁.Begins a m₂ := by
  obtain ⟨x, hx⟩ := Option.isSome_iff_exists.mp (Std.HashMap.mem_iff_isSome_getElem?.mp ha)
  rcases h.begun a x hx with hold | ⟨m₁, m₂, hreach, hbegins, -, -⟩
  · exact .inl (Std.HashMap.mem_iff_isSome_getElem?.mpr (Option.isSome_iff_exists.mpr ⟨x, hold⟩))
  · exact .inr ⟨m₁, m₂, hreach, hbegins⟩

/-- What is added behind a step is added from the step on. -/
theorem Adds.trans {s : Session} (hnext : m.Next m') (h : m.Adds m'.session) (h' : m'.Adds s) :
    m.Adds s := by
  refine ⟨h.keeps.trans h'.keeps, fun a x hx => ?_⟩
  rcases h'.begun a x hx with hold | ⟨m₁, m₂, hreach, hbegins, hrest, hgrown⟩
  · -- it was there behind the step
    rcases h.begun a x hold with hold | ⟨m₁, m₂, hreach, hbegins, hrest, hgrown⟩
    · exact .inl hold
    · exact .inr ⟨m₁, m₂, hreach, hbegins, hrest,
        fun e o ho => h'.keeps.origins e o (hgrown e o ho)⟩
  · exact .inr ⟨m₁, m₂, .head hnext hreach, hbegins, hrest, hgrown⟩

/-- **What a step adds,** if that is known of the nested scan that it may begin. -/
theorem adds_act (hcoming : m.coming = c :: cs)
    (hinside : ∀ a m', m.Begins a m' → m'.Adds m'.rest.2) : m.Adds (m.act c cs).2 := by
  by_cases hbegins : ∃ a m', m.Begins a m'
  · -- the step leaves what its nested scan leaves, and the outcome of that scan
    obtain ⟨a, m', hbegins⟩ := hbegins
    obtain ⟨houtcomes, hkeeps, hnew⟩ := hbegins.session
    have hadds := hinside a m' hbegins
    have hmemory := hbegins.act_memory hcoming
    have hkept : m.session.Keeps (m.act c cs).2 :=
      ((hkeeps.trans hadds.keeps).remember hnew).trans (.of_memory_eq hmemory.symm)
    have horigins : (m.act c cs).2.origins = (m'.rest.2.remember a m'.rest.1).origins :=
      Session.origins_eq_of_memory_eq hmemory
    refine ⟨hkept, fun b x hx => ?_⟩
    rw [Session.outcomes_eq_of_memory_eq hmemory] at hx
    rw [horigins]
    rw [Session.remember, Std.HashMap.getElem?_insert] at hx
    split at hx
    · -- its own outcome
      next heq =>
        obtain rfl : a = b := eq_of_beq heq
        refine .inr ⟨m, m', .refl, hbegins, Option.some.inj hx, hadds.keeps.origins⟩
    · -- or one of those that the nested scan has added
      rcases hadds.begun b x hx with hold | ⟨m₁, m₂, hreach, hbegins', hrest, hgrown⟩
      · exact .inl (houtcomes ▸ hold)
      · exact .inr ⟨m₁, m₂, .head hbegins.next hreach, hbegins', hrest, hgrown⟩
  · obtain ⟨houtcomes, hkeeps⟩ := act_outcomes hcoming fun a m' h => hbegins ⟨a, m', h⟩
    exact ⟨hkeeps, fun a x hx => .inl (houtcomes ▸ hx)⟩

theorem Begins.limit_eq (h : m.Begins a m') : m.limit = m'.limit + 1 := by
  obtain ⟨deeper, -⟩ := h
  exact deeper

/-- What the scans at a limit add, if that is known of the nested scans that they begin. -/
theorem adds_rest_of_inside {limit : Nat}
    (hinside : ∀ {m m' : Moment} {a : Attempt}, m.limit = limit → m.Begins a m' →
      m'.Adds m'.rest.2)
    (m : Moment) (hlimit : m.limit = limit) : m.Adds m.rest.2 := by
  generalize hcoming : m.coming = coming
  induction coming using Text.induction_behind generalizing m with
  | nil =>
    -- the scan ends, with a record if it is inside of a branch
    have hmemory : m.rest.2.memory = m.session.memory := by
      rw [rest, hcoming, walk_nil]
      cases m.level.closing <;> rfl
    refine ⟨.of_memory_eq hmemory.symm, fun a x hx => .inl ?_⟩
    rwa [← Session.outcomes_eq_of_memory_eq hmemory]
  | cons c cs onward behind =>
    have hact := adds_act hcoming fun a m' h => hinside hlimit h
    rw [rest_cons hcoming]
    generalize hresult : m.act c cs = result at hact
    obtain ⟨action, s⟩ := result
    cases action with
    | close => exact hact
    -- otherwise what the rest of the loop adds comes to what the step has added
    | absorb kind => exact hact.trans (.absorbed hcoming hresult) (onward _ hlimit rfl)
    | emit token n => exact hact.trans (.emitted hcoming hresult) (behind _ _ hlimit rfl)

/-- **What a scan adds to the memory are the outcomes of the nested scans that it begins.** -/
theorem adds_rest (m : Moment) : m.Adds m.rest.2 := by
  -- a nested scan has one level less left
  induction hlimit : m.limit generalizing m with
  | zero =>
    refine adds_rest_of_inside (fun hlimit h => ?_) m hlimit
    have hless := h.limit_eq
    omega
  | succ limit ih =>
    refine adds_rest_of_inside (fun hlimit h => ih _ ?_) m hlimit
    have hless := h.limit_eq
    omega

/-! ### From moment to moment -/

/-- **From one moment to the next** the memory is added to. -/
theorem Next.adds (h : m.Next m') : m.Adds m'.session := by
  cases h with
  | @absorbed c cs kind s coming acts =>
    have hadds := adds_act coming fun a m' _ => m'.adds_rest
    rwa [acts] at hadds
  | @emitted c cs token n s coming acts =>
    have hadds := adds_act coming fun a m' _ => m'.adds_rest
    rwa [acts] at hadds
  | inside =>
    -- the branch is entered, which adds no outcome
    exact ⟨m.entered_keeps _, fun a x hx => .inl (m.entered_outcomes _ ▸ hx)⟩

/-- **What is remembered at a moment** has been there before, or has begun on the way. -/
theorem adds_of_reach (h : ReflTransGen Next m m') : m.Adds m'.session := by
  induction h using ReflTransGen.head_induction_on with
  | refl => exact ⟨.refl _, fun a x hx => .inl hx⟩
  | head hnext _ ih => exact .trans hnext hnext.adds ih

theorem keeps_of_reach (h : ReflTransGen Next m m') : m.session.Keeps m'.session :=
  (adds_of_reach h).keeps

/-- No moment goes back. -/
theorem Next.position_le (h : m.Next m') : m.position ≤ m'.position := by
  cases h <;> exact Nat.le_add_right _ _

theorem position_le_of_reach (h : ReflTransGen Next m m') : m.position ≤ m'.position := by
  induction h with
  | refl => exact Nat.le_refl _
  | tail _ hnext ih => exact Nat.le_trans ih hnext.position_le

theorem Begins.position_eq (h : m.Begins a m') : m'.position = a.start := by
  cases h
  rfl

/-- **A nested scan begins further on,** behind an opening delimiter. -/
theorem Begins.lt_start (h : m.Begins a m') (hlevel : m.level.Proper) :
    m.position < a.start := by
  obtain @⟨limit, t, start, n, interior, deeper, comes, opens, coming, filled, unknown⟩ := h
  -- the delimiters of a proper level are not empty
  have hstart : start ≠ "" := by
    have hmem := Level.mem_of_next_branch comes.next (TokenType.isLeaf_eq_false_of_start? opens)
    cases t with
    | leaf kind constraint => cases opens
    | branch kind start' stop inner =>
      cases opens
      exact (hlevel.rules.marks_ne_empty hmem).1
  have hsize : start.utf8ByteSize ≠ 0 := fun h => hstart (String.utf8ByteSize_eq_zero_iff.mp h)
  show m.position < m.position + start.utf8ByteSize
  omega

/-- **The loop goes on** behind a character or behind a token. -/
inductive Onward (m : Moment) : Moment → Prop where
  | absorbed {c : Char} {cs : List Char} {kind : String} {s : Session} (coming : m.coming = c :: cs)
      (acts : m.act c cs = (.absorb kind, s)) : Onward m (m.absorbed kind c cs s)
  | emitted {c : Char} {cs : List Char} {token : Token} {n : Nat} {s : Session}
      (coming : m.coming = c :: cs) (acts : m.act c cs = (.emit token n, s)) :
      Onward m (m.emitted n c cs s)

theorem next_iff : m.Next m' ↔ m.Onward m' ∨ ∃ a, m.Begins a m' := by
  constructor
  · intro h
    cases h with
    | absorbed coming acts => exact .inl (.absorbed coming acts)
    | emitted coming acts => exact .inl (.emitted coming acts)
    | inside deeper comes opens coming filled unknown =>
      exact .inr ⟨_, .intro deeper comes opens coming filled unknown⟩
  · rintro (h | ⟨a, h⟩)
    · cases h with
      | absorbed coming acts => exact .absorbed coming acts
      | emitted coming acts => exact .emitted coming acts
    · exact h.next

/-- Where the loop goes on, it does so in the session that the step leaves. -/
theorem Onward.session_eq (h : m.Onward m') :
    ∃ c cs, m.coming = c :: cs ∧ m'.session = (m.act c cs).2 := by
  cases h with
  | absorbed coming acts => exact ⟨_, _, coming, congrArg Prod.snd acts.symm⟩
  | emitted coming acts => exact ⟨_, _, coming, congrArg Prod.snd acts.symm⟩

theorem Onward.unique (h₁ : m.Onward m₁) (h₂ : m.Onward m₂) : m₁ = m₂ := by
  cases h₁ with
  | absorbed coming₁ acts₁ =>
    cases h₂ with
    | absorbed coming₂ acts₂ =>
      cases coming₁.symm.trans coming₂
      cases acts₁.symm.trans acts₂
      rfl
    | emitted coming₂ acts₂ =>
      -- one step does not do both
      cases coming₁.symm.trans coming₂
      cases acts₁.symm.trans acts₂
  | emitted coming₁ acts₁ =>
    cases h₂ with
    | absorbed coming₂ acts₂ =>
      cases coming₁.symm.trans coming₂
      cases acts₁.symm.trans acts₂
    | emitted coming₂ acts₂ =>
      cases coming₁.symm.trans coming₂
      cases acts₁.symm.trans acts₂
      rfl

/-- At one moment one nested scan begins. -/
theorem Begins.eq_of_same {b : Attempt} (h₁ : m.Begins a m₁) (h₂ : m.Begins b m₂) :
    a = b ∧ m₁ = m₂ := by
  obtain @⟨limit, t, start, n, interior, deeper, comes, opens, coming, -, -⟩ := h₁
  obtain @⟨limit', t', start', n', interior', deeper', comes', opens', coming', -, -⟩ := h₂
  -- what comes next fixes the branch, and the branch its delimiter and what is behind it
  obtain rfl : limit = limit' := by omega
  cases comes.next.symm.trans comes'.next
  cases opens.symm.trans opens'
  obtain rfl : interior = interior' := List.append_cancel_left (coming.symm.trans coming')
  exact ⟨rfl, rfl⟩

/-- Where a nested scan begins, there is a character. -/
theorem Begins.exists_coming (h : m.Begins a m') : ∃ c cs, m.coming = c :: cs := by
  obtain ⟨deeper, comes, opens, coming, filled, unknown⟩ := h
  apply List.exists_cons_of_ne_nil
  rw [coming]
  exact List.append_ne_nil_of_right_ne_nil _ filled

/-- Behind the step at which it begins, the outcome of a nested scan is remembered, and so are those
that it has added. -/
theorem Begins.mem_act (h : m.Begins a m') (hcoming : m.coming = c :: cs) {b : Attempt}
    (hb : b = a ∨ b ∈ m'.rest.2.outcomes) : b ∈ (m.act c cs).2.outcomes := by
  rw [Session.outcomes_eq_of_memory_eq (h.act_memory hcoming), Session.remember,
    Std.HashMap.mem_insert]
  exact hb.imp (fun heq => beq_iff_eq.mpr heq.symm) id

/-- What is remembered behind a step is remembered when the scan has ended. -/
theorem act_keeps_rest (hcoming : m.coming = c :: cs) : (m.act c cs).2.Keeps m.rest.2 := by
  rw [rest_cons hcoming]
  generalize m.act c cs = result
  obtain ⟨action, s⟩ := result
  cases action with
  | close => exact .refl s
  | absorb kind => exact (m.absorbed kind c cs s).adds_rest.keeps
  | emit token n => exact (m.emitted n c cs s).adds_rest.keeps

/-- **Every nested scan is remembered:** its key is there when the scan has ended on whose way it
has begun. -/
theorem Begins.mem_rest (h : m₁.Begins a m₂) (hreach : ReflTransGen Next m m₁) :
    a ∈ m.rest.2.outcomes := by
  induction hreach using ReflTransGen.head_induction_on with
  | refl =>
    obtain ⟨c, cs, hcoming⟩ := h.exists_coming
    exact (act_keeps_rest hcoming).mem (h.mem_act hcoming (.inl rfl))
  | @head m m' hnext _ ih =>
    rcases next_iff.mp hnext with honward | ⟨b, hbegins⟩
    · -- the rest of the scan is the same
      cases honward with
      | @absorbed c cs kind s coming acts =>
        rw [rest_cons coming, acts]
        exact ih
      | @emitted c cs token n s coming acts =>
        rw [rest_cons coming, acts]
        exact ih
    · -- it has begun on the way of a nested scan, and so is in what that one has added
      obtain ⟨c, cs, hcoming⟩ := hbegins.exists_coming
      exact (act_keeps_rest hcoming).mem (hbegins.mem_act hcoming (.inr ih))

/-! ### No nested scan is run twice -/

/-- **A nested scan does not begin again,** neither on its own way nor behind it. -/
theorem Begins.not_again {n₁ n₂ k : Moment} (h₁ : m₁.Begins a n₁) (h₂ : m₂.Begins a n₂)
    (hlevel : m₂.level.Proper) (hnext : m₁.Next k) (hreach : ReflTransGen Next k m₂) : False := by
  rcases next_iff.mp hnext with honward | ⟨b, hbegins⟩
  · -- behind it, its outcome is remembered
    obtain ⟨c, cs, hcoming, hsession⟩ := honward.session_eq
    have hmem : a ∈ k.session.outcomes := hsession ▸ h₁.mem_act hcoming (.inl rfl)
    obtain ⟨-, -, hnew⟩ := h₂.session
    exact hnew ((keeps_of_reach hreach).mem hmem)
  · -- on its way, nested scans begin further on than it does itself
    obtain ⟨rfl, rfl⟩ := h₁.eq_of_same hbegins
    have hback : a.start ≤ m₂.position := h₁.position_eq ▸ position_le_of_reach hreach
    exact Nat.lt_irrefl _ (Nat.lt_of_lt_of_le (h₂.lt_start hlevel) hback)

/-- **Nor does it begin both on the way of another nested scan and behind that one.** -/
theorem Begins.not_inside_and_onward {b : Attempt} {k₁ k₂ n₁ n₂ : Moment} (h₁ : m₁.Begins a n₁)
    (h₂ : m₂.Begins a n₂) (hinside : m.Begins b k₁) (hreach₁ : ReflTransGen Next k₁ m₁)
    (honward : m.Onward k₂) (hreach₂ : ReflTransGen Next k₂ m₂) : False := by
  obtain ⟨c, cs, hcoming, hsession⟩ := honward.session_eq
  have hmem : a ∈ k₂.session.outcomes :=
    hsession ▸ hinside.mem_act hcoming (.inr (h₁.mem_rest hreach₁))
  obtain ⟨-, -, hnew⟩ := h₂.session
  exact hnew ((keeps_of_reach hreach₂).mem hmem)

/-- **No nested scan is run twice.** Two moments that come from the same one, and at which nested
scans with the same key begin, are the same. -/
theorem Begins.unique {n₁ n₂ : Moment} (h₁ : m₁.Begins a n₁) (h₂ : m₂.Begins a n₂)
    (hlevel₁ : m₁.level.Proper) (hlevel₂ : m₂.level.Proper) (hreach₁ : ReflTransGen Next m m₁)
    (hreach₂ : ReflTransGen Next m m₂) : m₁ = m₂ := by
  -- along the way to the first moment, up to where the way to the second one leaves it
  induction hreach₁ using ReflTransGen.head_induction_on with
  | refl =>
    rcases hreach₂.cases_head with heq | ⟨k, hnext, hreach⟩
    · exact heq
    · exact (h₁.not_again h₂ hlevel₂ hnext hreach).elim
  | @head m k₁ hnext₁ hreach₁ ih =>
    rcases hreach₂.cases_head with rfl | ⟨k₂, hnext₂, hreach₂⟩
    · exact (h₂.not_again h₁ hlevel₁ hnext₁ hreach₁).elim
    · rcases next_iff.mp hnext₁ with honward₁ | ⟨b₁, hbegins₁⟩ <;>
        rcases next_iff.mp hnext₂ with honward₂ | ⟨b₂, hbegins₂⟩
      · -- both ways go on with the loop, or (below) both into the nested scan: by induction
        exact ih (honward₁.unique honward₂ ▸ hreach₂)
      · exact (h₂.not_inside_and_onward h₁ hbegins₂ hreach₂ honward₁ hreach₁).elim
      · exact (h₁.not_inside_and_onward h₂ hbegins₁ hreach₁ honward₂ hreach₂).elim
      · exact ih ((hbegins₁.eq_of_same hbegins₂).2 ▸ hreach₂)

end Moment

/-! ### The text of a tokenizer -/

namespace Tokenizer

variable {t : Tokenizer} {text : String} {m m' : Moment} {a : Attempt}

/-- **Each level takes a byte:** at every moment of a run as many bytes have been passed over as
there are branches around. -/
theorem depth_le_position (hg : t.grammar.Valid) (h : t.Reaches text m) :
    m.level.depth ≤ m.position := by
  induction h with
  | refl => exact Nat.le_refl 0
  | @tail m m' hreach hnext ih =>
    have hback := hnext.position_le
    rcases Moment.next_iff.mp hnext with honward | ⟨a, hbegins⟩
    · -- the loop goes on at its level
      have hlevel : m'.level = m.level := by cases honward <;> rfl
      rw [hlevel]
      omega
    · -- one level deeper, and behind a delimiter
      have hlt := hbegins.lt_start (sound_of_reaches hg hreach).level
      have hposition := hbegins.position_eq
      have hdepth : m'.level.depth = m.level.depth + 1 := by cases hbegins; rfl
      omega

/-- **A key within bounds:** it starts in the text, at a depth that the limit and the text allow
for. -/
def Bounds (t : Tokenizer) (text : String) (a : Attempt) : Prop :=
  a.start ≤ text.utf8ByteSize ∧ a.depth ≤ min t.maxDepth text.utf8ByteSize

/-- The nested scans of a run begin within bounds. -/
theorem bounds_of_begins (hg : t.grammar.Valid) (h : t.Reaches text m) (hbegins : m.Begins a m') :
    t.Bounds text a := by
  have hreach : t.Reaches text m' := h.tail hbegins.next
  have hsound := sound_of_reaches hg hreach
  have hdepth : a.depth = m'.level.depth := by cases hbegins; rfl
  have hsize := hsound.stands.add_byteLength
  rw [Text.byteLength_toList, hbegins.position_eq] at hsize
  have hlimit := hsound.depth
  have hposition := depth_le_position hg hreach
  rw [hbegins.position_eq] at hposition
  constructor
  · omega
  · rw [hdepth]
    exact Nat.le_min.mpr ⟨by omega, by omega⟩

/-- **What a nested scan adds starts further on** than it does itself, and within bounds. -/
theorem lt_start_of_added (hg : t.grammar.Valid) (h : t.Reaches text m) (hbegins : m.Begins a m')
    {b : Attempt} (hb : b ∈ m'.rest.2.outcomes) (hnew : b ∉ m.session.outcomes) :
    a.start < b.start ∧ t.Bounds text b := by
  obtain ⟨hsame, -, -⟩ := hbegins.session
  rcases m'.adds_rest.of_mem hb with hold | ⟨m₁, m₂, hway, hbegins'⟩
  · exact absurd (hsame ▸ hold) hnew
  · -- it begins on the way of the nested scan, which goes on from its own start
    have hreach₁ : t.Reaches text m₁ := (h.tail hbegins.next).trans hway
    have hback : a.start ≤ m₁.position := hbegins.position_eq ▸ Moment.position_le_of_reach hway
    have hlt := hbegins'.lt_start (sound_of_reaches hg hreach₁).level
    exact ⟨Nat.lt_of_le_of_lt hback hlt, bounds_of_begins hg hreach₁ hbegins'⟩

/-- **Attempts are made once.** While a tokenizer with a valid grammar reads a text, each step
either leaves the outcomes that are remembered as they are, or it begins one nested scan and puts
the outcome of that one under its key, into what the nested scan has left. The key has not been
there before, nor has the nested scan added it: all keys that it adds start further on. Every key
lies within the text, at a depth that is neither above the limit nor above the size of the text. So
no nested scan is begun at two moments of a run, and those that are begun are the ones that are
remembered in the end. -/
theorem attempts_once (t : Tokenizer) (hg : t.grammar.Valid) (text : String) :
    (∀ m c cs, t.Reaches text m → m.coming = c :: cs →
      (m.act c cs).2.outcomes = m.session.outcomes ∨
        ∃ a m', m.Begins a m' ∧
          (m.act c cs).2.outcomes = m'.rest.2.outcomes.insert a m'.rest.1) ∧
      (∀ m m' a, t.Reaches text m → m.Begins a m' →
        (a ∉ m.session.outcomes ∧ a ∉ m'.rest.2.outcomes ∧ t.Bounds text a) ∧
          ∀ b ∈ m'.rest.2.outcomes, b ∉ m.session.outcomes →
            a.start < b.start ∧ t.Bounds text b) ∧
      (∀ m₁ m₂ n₁ n₂ a, t.Reaches text m₁ → t.Reaches text m₂ →
        m₁.Begins a n₁ → m₂.Begins a n₂ → m₁ = m₂) ∧
      ∀ a, a ∈ (Session.scan t.maxDepth 0 (.top t.grammar) 0 text.toList .empty).2.outcomes ↔
        ∃ m m', t.Reaches text m ∧ m.Begins a m' := by
  refine ⟨?_, ?_, ?_, ?_⟩
  · -- a step at which no nested scan begins adds nothing, and any other adds what its scan does
    intro m c cs _ hcoming
    by_cases hbegins : ∃ a m', m.Begins a m'
    · obtain ⟨a, m', hbegins⟩ := hbegins
      exact .inr ⟨a, m', hbegins,
        Session.outcomes_eq_of_memory_eq (hbegins.act_memory hcoming)⟩
    · exact .inl (Moment.act_outcomes hcoming fun a m' h => hbegins ⟨a, m', h⟩).1
  · intro m m' a hreach hbegins
    obtain ⟨-, -, hnew⟩ := hbegins.session
    have hadded : ∀ b ∈ m'.rest.2.outcomes, b ∉ m.session.outcomes →
        a.start < b.start ∧ t.Bounds text b := fun b => lt_start_of_added hg hreach hbegins
    -- had the nested scan added its own key, that would start behind itself
    refine ⟨⟨hnew, fun hmem => ?_, bounds_of_begins hg hreach hbegins⟩, hadded⟩
    exact Nat.lt_irrefl _ (hadded a hmem hnew).1
  · intro m₁ m₂ n₁ n₂ a hreach₁ hreach₂ hbegins₁ hbegins₂
    have hlevel₁ := (sound_of_reaches hg hreach₁).level
    have hlevel₂ := (sound_of_reaches hg hreach₂).level
    exact hbegins₁.unique hbegins₂ hlevel₁ hlevel₂ hreach₁ hreach₂
  · intro a
    rw [← rest_start]
    constructor
    · intro ha
      rcases (t.start text).adds_rest.of_mem ha with hold | ⟨m, m', hreach, hbegins⟩
      · -- at the start nothing is remembered
        simp [start, Session.empty] at hold
      · exact ⟨m, m', hreach, hbegins⟩
    · rintro ⟨m, m', hreach, hbegins⟩
      exact hbegins.mem_rest hreach

/-- The first mark of `*_~a`. The scan of what follows it begins at the start of the run, and adds
the scans behind the other marks, which begin further on. -/
theorem attempts_once_unclosed :
    let t : Tokenizer := ⟨Grammar.stock, 64⟩
    let a : Attempt := ⟨1, 0, "bold", 1⟩
    t.grammar.Valid ∧ ∃ m', (t.start "*_~a").Begins a m' ∧ a ∉ m'.rest.2.outcomes ∧
      (∀ b ∈ m'.rest.2.outcomes, 1 < b.start ∧ t.Bounds "*_~a" b) ∧
      a ∈ (Session.scan 64 0 (.top Grammar.stock) 0 "*_~a".toList .empty).2.outcomes := by
  intro t a
  have hg : t.grammar.Valid := Grammar.valid_stock
  -- the mark of a bold branch comes first, and nothing is remembered yet
  have hnext : (t.start "*_~a").level.next (t.start "*_~a").coming =
      ⟨.surround "bold" "*", 1⟩ := by
    have hfits : Grammar.stock.map (fun u => u.matches? none "*_~a".toList) =
        [none, none, none, some 1, none] := by decide +kernel
    simp only [Grammar.stock, List.map_cons, List.cons.injEq] at hfits
    obtain ⟨hpre, hcode, hitalic, hbold, -⟩ := hfits
    rw [Level.next, Match.first?_snd]
    show (Grammar.stock.findSome? fun u =>
      (u.matches? none "*_~a".toList).map (⟨u, ·⟩ : Nat → Match)).getD _ = _
    rw [Grammar.stock, List.findSome?_cons, hpre, List.findSome?_cons]
    rw [hcode, List.findSome?_cons, hitalic, List.findSome?_cons, hbold]
    rfl
  have hunknown : ((t.start "*_~a").entered (.surround "bold" "*")).2.outcomes[
      (t.start "*_~a").key (.surround "bold" "*") "*"]? = none := by
    rw [Moment.entered_outcomes]
    exact Std.HashMap.getElem?_empty
  have hcoming : (t.start "*_~a").coming = "*".toList ++ "_~a".toList := by decide +kernel
  -- so its nested scan begins there
  have hbegins : (t.start "*_~a").Begins a _ :=
    .intro rfl ⟨hnext, rfl, rfl⟩ rfl hcoming (by decide +kernel) hunknown
  obtain ⟨-, hfresh, -, hall⟩ := attempts_once t hg "*_~a"
  obtain ⟨⟨-, hnew, -⟩, hadded⟩ := hfresh _ _ _ .refl hbegins
  refine ⟨hg, _, hbegins, hnew, fun b hb => hadded b hb ?_, (hall a).mpr ⟨_, _, .refl, hbegins⟩⟩
  simp [start, Session.empty]

end Tokenizer
end InlineMarkup
