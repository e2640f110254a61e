import InlineMarkup.Proofs.Offsets
import InlineMarkup.Proofs.Tokenizing

/-!
# Tokenizing is total

Scanning by offsets never meets a fault, and gives what the scan of the session gives. Whatever the
constraints of a valid grammar measure, each slice of a text falls where characters end, no offset
is moved behind the end of its text, and as many steps as the text has bytes, and one more, suffice
(`Frame.run_eq_scan`). For the whole text the result is never absent.

A frame *fits* if it is one that a tokenizer can come to. The invariant of the loop has three parts:
the cursor shows what is coming, the session is sound, and the steps left outnumber the bytes that
are coming. A nested scan starts with one step less and at least one byte less, as no delimiter is
empty; where it ends, its closing delimiter stands, whether it has been run or remembered.
-/

namespace InlineMarkup
namespace Offsets

open Scan

variable {whole : List Char} {g : Grammar} {limit : Nat}

/-- **Frames that fit.** The level is proper, the text stands in the whole text where the frame says
so, and `limit` further levels are allowed. -/
structure Frame.Fits (f : Frame) (whole : List Char) (limit : Nat) : Prop where
  proper : f.level.Proper
  size : f.whole = Text.byteLength whole
  stands : Text.StandsAt whole f.base f.text
  depth : f.level.depth + limit = f.maxDepth

/-- **Sessions that belong to a frame.** They are sound, and the origin of the frame stands for its
rules. -/
structure Frame.Serves (f : Frame) (whole : List Char) (g : Grammar) (s : Session) : Prop where
  sound : s.Sound whole g f.maxDepth
  denotes : Session.Denotes g s.origins f.origin f.level.rules

/-- **Nested scans that are free of faults,** for texts of less than `fuel` bytes, and give what the
scan of the session gives. -/
def RunsUpTo (nested : Frame.Run) (whole : List Char) (g : Grammar) (fuel : Nat) : Prop :=
  ∀ (f : Frame) (limit : Nat) (s : Session), f.Fits whole limit → f.Serves whole g s →
    Text.byteLength f.text < fuel →
    nested f s = .ok (Session.scan limit f.origin f.level f.base f.text s)

section Step

variable {f : Frame} {k : Cursor} {s : Session} {nested : Frame.Run} {fuel : Nat}
  {pending : Option Leaf} {c : Char} {cs : List Char}

/-- A place in the text of a frame is a place in the whole text. -/
theorem Frame.Fits.place (hf : f.Fits whole limit) {offset : Nat} {coming : List Char}
    (h : Text.StandsAt f.text offset coming) :
    Text.StandsAt whole (f.base + offset) coming ∧ f.base + offset ≤ f.whole := by
  obtain ⟨front, htext, rfl⟩ := h
  have hplace : Text.StandsAt whole (f.base + Text.byteLength front) coming := by
    have hstands := hf.stands
    rw [htext] at hstands
    exact hstands.advance
  refine ⟨hplace, ?_⟩
  rw [hf.size]
  exact Nat.le.intro hplace.add_byteLength

/-- **The outcome of an interior** is found without a fault. -/
theorem Frame.attempt_eq (hf : f.Fits whole (limit + 1)) (hs : f.Serves whole g s)
    (hnested : RunsUpTo nested whole g fuel) {t : TokenType} (ht : t ∈ f.level.rules)
    (hbranch : t.isLeaf = false) {interiorStart : Nat} {interior : List Char}
    (hplace : Text.StandsAt f.text interiorStart interior)
    (hfuel : Text.byteLength interior < fuel) :
    f.attempt nested t interiorStart interior s =
      .ok (Session.nested limit f.origin f.level t (f.base + interiorStart) interior s) := by
  obtain ⟨hstands, hle⟩ := hf.place hplace
  have hsound := hs.sound.enter hs.denotes ht
  obtain ⟨-, hdenotes⟩ := Session.enter_spec hs.sound.numbered hs.denotes ht
  unfold Frame.attempt Session.nested
  generalize Session.enter f.origin t s = entered at hsound hdenotes
  obtain ⟨origin, s₁⟩ := entered
  dsimp only at hsound hdenotes ⊢
  rw [add_eq hle]
  dsimp only [bind, Except.bind]
  cases hlook : s₁.outcomes[(⟨f.base + interiorStart, origin, t.kind, f.level.depth + 1⟩ :
      Attempt)]? with
  | some outcome =>
    -- remembered by both, under one key
    rfl
  | none =>
    -- the frame of the interior fits again, with one level less
    have hinside : Frame.Fits ⟨f.whole, interior, f.base + interiorStart, f.level.inside t, origin,
        f.maxDepth⟩ whole limit := by
      refine ⟨hf.proper.inside ht hbranch, hf.size, hstands, ?_⟩
      rw [← hf.depth]
      exact Nat.add_right_comm _ _ _
    dsimp only
    rw [hnested _ limit s₁ hinside ⟨hsound, hdenotes⟩ hfuel]

/-- A branch that stands in a text is no larger than the text. -/
theorem Frame.branch_le_size {start stop : String} {offset : Nat} {front tail : List Char}
    (h : Text.StandsAt f.text (offset + start.utf8ByteSize) (front ++ (stop.toList ++ tail))) :
    start.utf8ByteSize + Text.byteLength front + stop.utf8ByteSize ≤ f.size := by
  have hsize := h.add_byteLength
  simp only [Text.byteLength_append, Text.byteLength_toList] at hsize
  rw [Frame.size, ← hsize]
  omega

/-- What opening a branch at a cursor leads to, from what opening it gives. -/
def Frame.opened (k : Cursor) (pending : Option Leaf) (kind start stop : String) :
    Option Closed × Session → Option (Nat × Cursor) × Session
  | (none, s) => (none, s)
  | (some closed, s) =>
    (some (start.utf8ByteSize + closed.consumed + stop.utf8ByteSize,
      { k with
        current := none
        tokens := k.tokens ++ Leaf.finish pending ++ [.branch kind closed.tokens] }), s)

/-- **A branch is opened,** or not, without a fault. -/
theorem Frame.openBranch_eq (hf : f.Fits whole limit) (hg : g.Valid) (hs : f.Serves whole g s)
    (hnested : RunsUpTo nested whole g fuel) {kind start stop : String} {inner : Option Grammar}
    (ht : .branch kind start stop inner ∈ f.level.rules) {interior : List Char}
    (hk : k.Shows f.text pending (start.toList ++ interior))
    (hfuel : Text.byteLength interior < fuel) :
    f.openBranch nested (.branch kind start stop inner) start stop k s =
      .ok (opened k pending kind start stop (Scan.openBranch
        (Session.host limit f.origin f.level) f.level (.branch kind start stop inner) start
        (f.base + k.offset) interior s)) := by
  -- every sum and every slice up to the attempt is in place, as the delimiter stands in the text
  have hinterior := hk.stands.behind_mark
  have hstart : k.offset + start.utf8ByteSize ≤ f.size := Nat.le.intro hinterior.add_byteLength
  have hslice : sliceFrom (k.offset + start.utf8ByteSize) f.text = .ok interior := by
    obtain ⟨front, htext, hoffset⟩ := hinterior
    rw [htext, hoffset, sliceFrom_eq]
  have hposition : f.base + k.offset ≤ f.whole := (hf.place hk.stands).2
  unfold Frame.openBranch Scan.openBranch
  rw [add_eq hstart]
  dsimp only [bind, Except.bind]
  rw [hslice]
  dsimp only
  by_cases hempty : interior.isEmpty = true
  · -- nothing to scan behind the delimiter
    rw [if_pos hempty, if_pos hempty]
    rfl
  rw [if_neg hempty, if_neg hempty, add_eq hposition]
  dsimp only
  cases limit with
  | zero =>
    -- the nesting is at its limit
    have hdepth : f.level.depth = f.maxDepth := hf.depth
    rw [if_pos (Nat.le_of_eq hdepth.symm), ← hdepth]
    rfl
  | succ l =>
    -- a further level is allowed, so the attempt is made
    have hdepth : ¬ f.maxDepth ≤ f.level.depth := by
      rw [← hf.depth]
      exact Nat.not_le.mpr (Nat.lt_add_of_pos_right (Nat.succ_pos l))
    have hstands := (hf.place hinterior).1
    have hagrees := Session.answersAgree hg hf.proper hf.depth l rfl _ ht rfl _ interior hstands s
      hs.sound hs.denotes
    rw [if_neg hdepth, Frame.attempt_eq hf hs hnested ht rfl hinterior hfuel]
    dsimp only [Session.host]
    rw [Nat.add_assoc f.base]
    have houtcome := hagrees.outcome
    generalize Session.nested l f.origin f.level _ _ interior s = answer at houtcome
    obtain ⟨answer, s'⟩ := answer
    cases answer with
    | none =>
      -- the branch does not close
      rfl
    | some closed =>
      dsimp only at houtcome ⊢
      by_cases htokens : closed.tokens.isEmpty = true
      · -- it is empty
        rw [if_pos htokens, if_pos htokens]
        rfl
      rw [if_neg htokens, if_neg htokens, hk.finishLeaf_eq]
      -- the branch found in front of `tail` lies in the text, with both its delimiters
      have hinside := hf.proper.inside ht rfl
      obtain ⟨front, tail, rfl, hconsumed⟩ := interior_eq_of_outcome hinside houtcome.symm
      have hall : start.utf8ByteSize + closed.consumed + stop.utf8ByteSize ≤ f.size := by
        rw [hconsumed]
        exact Frame.branch_le_size hinterior
      have hin := Nat.le_trans (Nat.le_add_right _ _) hall
      dsimp only
      rw [add_eq hin]
      dsimp only
      rw [add_eq hall]
      rfl

/-- **What a step leads to,** from what the scan does with the character. -/
def Frame.Took (f : Frame) (k : Cursor) (pending : Option Leaf) (c : Char) (cs : List Char)
    (r : Except Fault (Frame.Step × Session)) : Action × Session → Prop
  | (.close, s) => r = .ok (.done ⟨k.tokens ++ Leaf.finish pending, k.offset⟩, s)
  | (.absorb kind, s) => ∃ k', r = .ok (.onward k', s) ∧
      k.LeadsTo k' f.text (Leaf.absorb kind c pending).1 c.utf8Size
        (some (Leaf.absorb kind c pending).2) cs
  | (.emit token n, s) => ∃ k', r = .ok (.onward k', s) ∧
      k.LeadsTo k' f.text (Leaf.finish pending ++ [token]) n none
        (Text.dropBytes (n - c.utf8Size) cs)

/-- What a scan does at a branch, from what opening it gives. -/
def Frame.acted (kind start stop : String) : Option Closed × Session → Action × Session
  | (none, s) => (.absorb wordKind, s)
  | (some closed, s) => (.emit (.branch kind closed.tokens)
      (start.utf8ByteSize + closed.consumed + stop.utf8ByteSize), s)

/-- **What is emitted is there to be passed over:** it covers a leading part of the coming text. -/
theorem Frame.Serves.cut (hs : f.Serves whole g s) (hf : f.Fits whole limit) (hg : g.Valid)
    (hk : k.Shows f.text pending (c :: cs)) (token : Token) (n : Nat)
    (hemit : (act (Session.host limit f.origin f.level) f.level (f.base + k.offset) pending c cs
      (f.level.next (c :: cs)) s).1 = .emit token n) :
    ∃ piece rest, c :: cs = piece ++ rest ∧ piece ≠ [] ∧ n = Text.byteLength piece ∧
      Text.dropBytes (n - c.utf8Size) cs = rest := by
  -- what is done is decided by the rules of scanning
  have hact := hs.sound.act hg hf.proper hf.depth hs.denotes (hf.place hk.stands).1 pending rfl
  have hdecided := decided_decision limit f.level pending c cs
  rw [← hact.1, hemit] at hdecided
  obtain ⟨piece, rest, hpiece, hne, rfl⟩ := hdecided.cut hf.proper
  exact ⟨piece, rest, hpiece, hne, rfl, Text.dropBytes_of_cut hpiece hne⟩

/-- A step at a leaf that counts. -/
theorem Frame.step_took_leaf (hk : k.Shows f.text pending (c :: cs)) {kind : String}
    {constraint : Option Constraint} {n : Nat}
    (hcomes : Comes f.level pending (c :: cs) (.leaf kind constraint) n)
    (hboundary : Text.isBoundary n (c :: cs) = true) (nested : Frame.Run) (s : Session) :
    f.Took k pending c cs (f.step nested c.utf8Size ⟨.leaf kind constraint, n⟩ k s)
      (if n > c.utf8Size then
        (.emit (.leaf kind (String.ofList (Text.takeBytes n (c :: cs)))) n, s)
      else (.absorb kind, s)) := by
  unfold Frame.step
  rw [hk.any_current, if_neg (Bool.eq_false_iff.mp hcomes.fresh),
    if_neg (Bool.eq_false_iff.mp hcomes.foreign)]
  dsimp only
  by_cases hlong : n > c.utf8Size
  · -- what was measured becomes a token at once
    rw [if_pos hlong]
    obtain ⟨piece, rest, hpiece, rfl⟩ := Text.isBoundary_iff.mp hboundary
    have hne : piece ≠ [] := by
      rintro rfl
      exact absurd hlong (Nat.not_lt_zero _)
    have hrest := Text.dropBytes_of_cut hpiece hne
    rw [hpiece] at hk
    obtain ⟨k₁, k₂, k', hstart, hadvance, hfinish, hleads⟩ := hk.whole hne kind
    refine ⟨k', ?_, ?_⟩
    · rw [hstart]
      dsimp only [bind, Except.bind]
      rw [if_pos hlong, hadvance]
      dsimp only
      rw [hfinish]
    · rw [hrest, hpiece, Text.takeBytes_append]
      exact hleads
  · -- a leaf begins with the character
    rw [if_neg hlong]
    obtain ⟨k₁, k', hstart, hadvance, hleads⟩ := hk.begin hcomes.fresh
    refine ⟨k', ?_, hleads⟩
    have hstart' : f.startLeaf kind k = .ok k₁ := hstart
    rw [hstart']
    dsimp only [bind, Except.bind]
    rw [if_neg hlong, hadvance]

/-- A step at a branch that counts, from what opening it gives. -/
theorem Frame.step_took_branch (hk : k.Shows f.text pending (c :: cs))
    {kind start stop : String} {inner : Option Grammar} {n : Nat}
    (hcomes : Comes f.level pending (c :: cs) (.branch kind start stop inner) n)
    {answer : Option Closed × Session}
    (hopen : f.openBranch nested (.branch kind start stop inner) start stop k s =
      .ok (opened k pending kind start stop answer))
    (hcut : ∀ token n, (acted kind start stop answer).1 = .emit token n →
      ∃ piece rest, c :: cs = piece ++ rest ∧ piece ≠ [] ∧ n = Text.byteLength piece ∧
        Text.dropBytes (n - c.utf8Size) cs = rest) :
    f.Took k pending c cs (f.step nested c.utf8Size ⟨.branch kind start stop inner, n⟩ k s)
      (acted kind start stop answer) := by
  unfold Frame.step
  rw [hk.any_current, if_neg (Bool.eq_false_iff.mp hcomes.fresh),
    if_neg (Bool.eq_false_iff.mp hcomes.foreign)]
  dsimp only
  rw [hopen]
  obtain ⟨answer, s'⟩ := answer
  cases answer with
  | none =>
    -- the branch is given up, and the character is text
    obtain ⟨k₁, k', hword, hadvance, hleads⟩ := hk.absorbAsWord
    refine ⟨k', ?_, hleads⟩
    dsimp only [opened, bind, Except.bind]
    rw [hword]
    dsimp only
    rw [hadvance]
  | some closed =>
    -- the branch is the last token, and is passed over
    obtain ⟨piece, rest, hpiece, -, hlength, hrest⟩ := hcut _ _ rfl
    rw [hpiece] at hk
    let k₁ : Cursor :=
      { k with
        current := none
        tokens := k.tokens ++ Leaf.finish pending ++ [.branch kind closed.tokens] }
    have hadvance := Cursor.advance_eq (k := k₁) hk.stands
    refine ⟨{ k₁ with offset := k.offset + Text.byteLength piece }, ?_, ?_⟩
    · dsimp only [opened, bind, Except.bind]
      rw [hlength, hadvance]
    · rw [hrest, hlength]
      exact ⟨List.append_assoc _ _ _, rfl, hk.stands.advance, rfl, fun _ => nofun⟩

/-- **A step** is taken without a fault, and does what the scan does. -/
theorem Frame.step_took (hf : f.Fits whole limit) (hg : g.Valid) (hs : f.Serves whole g s)
    (hnested : RunsUpTo nested whole g fuel) (hk : k.Shows f.text pending (c :: cs))
    (hfuel : Text.byteLength (c :: cs) ≤ fuel) :
    f.Took k pending c cs (f.step nested c.utf8Size (f.level.next (c :: cs)) k s)
      (act (Session.host limit f.origin f.level) f.level (f.base + k.offset) pending c cs
        (f.level.next (c :: cs)) s) := by
  have hcut := hs.cut hf hg hk
  obtain ⟨t, n, hnext⟩ : ∃ t n, f.level.next (c :: cs) = ⟨t, n⟩ := ⟨_, _, rfl⟩
  rw [hnext] at hcut ⊢
  by_cases hsame : (pending.any fun l => l.kind == t.kind) = true
  · -- the leaf under way takes the character
    unfold Frame.step act
    rw [hk.any_current, if_pos hsame, if_pos hsame]
    obtain ⟨k', hadvance, hleads⟩ := hk.grow hsame
    refine ⟨k', ?_, hleads⟩
    rw [hadvance]
    rfl
  by_cases hclose : f.level.closing.any t.sameKind = true
  · -- the level ends
    unfold Frame.step act
    rw [hk.any_current, if_neg hsame, if_neg hsame, if_pos hclose, if_pos hclose,
      hk.finishLeaf_eq]
    rfl
  -- the type counts; what happens now is a matter of its shape
  have hcomes : Comes f.level pending (c :: cs) t n :=
    ⟨hnext, Bool.eq_false_iff.mpr hsame, Bool.eq_false_iff.mpr hclose⟩
  unfold act at hcut ⊢
  rw [if_neg hsame, if_neg hclose] at hcut ⊢
  cases t with
  | leaf kind constraint =>
    exact Frame.step_took_leaf hk hcomes (hf.proper.next_boundary hnext).2 nested s
  | branch kind start stop inner =>
    have ht := Level.mem_of_next_branch hnext rfl
    obtain ⟨⟨interior, hstart⟩, -⟩ := Level.next_branch hnext hcomes.foreign
    have hinterior : Text.dropBytes start.utf8ByteSize (c :: cs) = interior := by
      rw [← hstart, Text.dropBytes_toList_append]
    -- the interior is shorter by the opening delimiter
    have hshorter : Text.byteLength interior < fuel := by
      have hpos : 0 < Text.byteLength start.toList := by
        refine Text.byteLength_pos fun hnil => ?_
        exact (hf.proper.rules.marks_ne_empty ht).1 (String.toList_eq_nil_iff.mp hnil)
      rw [← hstart, Text.byteLength_append] at hfuel
      exact Nat.lt_of_lt_of_le (Nat.lt_add_of_pos_left hpos) hfuel
    have hshows := hk
    rw [← hstart] at hshows
    have hopen := Frame.openBranch_eq hf hg hs hnested ht hshows hshorter
    dsimp only at hcut ⊢
    rw [hinterior] at hcut ⊢
    generalize Scan.openBranch _ f.level _ start _ interior s = answer at hcut hopen ⊢
    rcases answer with ⟨_ | closed, s'⟩
    · exact Frame.step_took_branch hk hcomes hopen hcut
    · exact Frame.step_took_branch hk hcomes hopen hcut

end Step

/-! ### The loop -/

/-- At the beginning nothing has been produced. -/
theorem prepend_start (r : Option Closed × Session) :
    prepend Cursor.start.tokens Cursor.start.offset r = r := by
  obtain ⟨_ | closed, s⟩ := r
  · rfl
  · simp only [prepend, Option.map_some, Closed.after, Cursor.start, List.nil_append, Nat.zero_add]

/-- The end of the loop, behind the last character. -/
theorem Frame.run_nil {f : Frame} {k : Cursor} {pending : Option Leaf}
    (hk : k.Shows f.text pending []) (fuel position : Nat) (s : Session) :
    f.run (fuel + 1) k s = .ok (prepend k.tokens k.offset
      (walk (Session.host limit f.origin f.level) f.level [] position 0 pending s)) := by
  rw [Frame.run, hk.sliceFrom_eq, walk_nil]
  dsimp only [bind, Except.bind]
  cases f.level.closing with
  | some b => rfl
  | none =>
    dsimp only
    rw [hk.finishLeaf_eq]
    rfl

/-- One step of the loop, in front of a character. -/
theorem Frame.run_cons {fuel : Nat} {f : Frame} {k : Cursor} {c : Char} {cs : List Char}
    (hslice : sliceFrom k.offset f.text = .ok (c :: cs)) (s : Session) :
    f.run (fuel + 1) k s =
      match f.step (fun f s => run fuel f .start s) c.utf8Size (f.level.next (c :: cs)) k
          ((f.level.misfits (c :: cs)).foldl (fun s r => s.record r) s) with
      | .error fault => .error fault
      | .ok (.done closed, s) => .ok (some closed, s)
      | .ok (.onward k, s) => run fuel f k s := by
  rw [Frame.run, hslice]
  dsimp only [bind, Except.bind, Level.next, Level.misfits, List.take, Text.byteLength_cons,
    Text.byteLength_nil, Nat.add_zero]
  generalize Frame.step _ f c.utf8Size _ k _ = r
  rcases r with fault | ⟨_ | _, s'⟩ <;> rfl

/-- **The loop by offsets is the loop of the session.** From a cursor that shows what is coming it
gives what the scan gives from there on, behind the tokens and the bytes so far. -/
theorem Frame.run_eq_walk (hg : g.Valid) {fuel limit : Nat} {f : Frame} {k : Cursor} {s : Session}
    {pending : Option Leaf} {coming : List Char} (hf : f.Fits whole limit)
    (hs : f.Serves whole g s) (hk : k.Shows f.text pending coming)
    (hfuel : Text.byteLength coming < fuel) :
    f.run fuel k s = .ok (prepend k.tokens k.offset
      (walk (Session.host limit f.origin f.level) f.level coming (f.base + k.offset) 0
        pending s)) := by
  -- each step leaves less fuel and less text, to the loop as well as to a nested scan
  induction fuel generalizing f limit k s pending coming with
  | zero => exact absurd hfuel (Nat.not_lt_zero _)
  | succ fuel ih =>
    cases coming with
    | nil => exact Frame.run_nil hk fuel _ s
    | cons c cs =>
      have hnested : RunsUpTo (fun f s => run fuel f .start s) whole g fuel := by
        intro f' limit' s' hf' hs' hless
        have hrun := ih hf' hs' (Cursor.shows_start f'.text) hless
        rw [Session.scan_eq_walk]
        exact hrun.trans (congrArg _ (prepend_start _))
      -- the records made on the way to what comes next leave the session as sound as it was
      obtain ⟨hsound, hgrown⟩ := hs.sound.records (f.level.misfits (c :: cs))
      have hs₁ : f.Serves whole g
          ((f.level.misfits (c :: cs)).foldl (fun s r => s.record r) s) :=
        ⟨hsound, hs.denotes.grown hgrown⟩
      have hcons : Text.byteLength (c :: cs) ≤ fuel := Nat.le_of_lt_succ hfuel
      have hshorter : Text.byteLength cs < fuel :=
        Nat.lt_of_lt_of_le (Nat.lt_add_of_pos_left c.utf8Size_pos) hcons
      have hstep := Frame.step_took hf hg hs₁ hnested hk hcons
      obtain ⟨-, hsound₂, hgrown₂⟩ := hs₁.sound.act hg hf.proper hf.depth hs₁.denotes
        (hf.place hk.stands).1 pending rfl
      have hrecord : (f.level.misfits (c :: cs)).foldl (fun s r =>
          (Session.host limit f.origin f.level).record r s) s =
          (f.level.misfits (c :: cs)).foldl (fun s r => s.record r) s := rfl
      rw [Frame.run_cons hk.sliceFrom_eq, walk_cons, hrecord]
      generalize (f.level.misfits (c :: cs)).foldl (fun s r => s.record r) s = s₁ at *
      generalize act (Session.host limit f.origin f.level) f.level _ pending c cs _ s₁ = r at *
      obtain ⟨action, s₂⟩ := r
      have hs₂ : f.Serves whole g s₂ := ⟨hsound₂, hs₁.denotes.grown hgrown₂⟩
      cases action with
      | close =>
        -- the loop ends with the step
        rw [show f.step _ _ _ k s₁ = _ from hstep]
        rfl
      | absorb kind =>
        -- behind the character the cursor shows what comes, and less fuel will do
        obtain ⟨k', htook, hleads⟩ := hstep
        rw [htook]
        dsimp only
        rw [ih hf hs₂ hleads.shows hshorter, hleads.tokens, hleads.offset, ← Nat.add_assoc,
          prepend_prepend]
      | emit token n =>
        obtain ⟨k', htook, hleads⟩ := hstep
        -- and so it does behind the token
        have hrest := Nat.lt_of_le_of_lt (Text.byteLength_dropBytes_le (n - c.utf8Size) cs) hshorter
        rw [htook]
        dsimp only
        rw [ih hf hs₂ hleads.shows hrest, hleads.tokens, hleads.offset, ← Nat.add_assoc,
          prepend_prepend]

/-- **A scan by offsets** from the beginning of a text gives what the scan of the session gives,
with one step more than the text has bytes. -/
theorem Frame.run_eq_scan (hg : g.Valid) {fuel limit : Nat} {f : Frame} {s : Session}
    (hf : f.Fits whole limit) (hs : f.Serves whole g s) (hfuel : Text.byteLength f.text < fuel) :
    f.run fuel .start s = .ok (Session.scan limit f.origin f.level f.base f.text s) := by
  have hrun := Frame.run_eq_walk hg hf hs (Cursor.shows_start f.text) hfuel
  rw [Session.scan_eq_walk]
  exact hrun.trans (congrArg _ (prepend_start _))

end Offsets

namespace Tokenizer

/-- The frame of a whole text. -/
def frame (t : Tokenizer) (text : String) : Offsets.Frame :=
  ⟨text.utf8ByteSize, text.toList, 0, .top t.grammar, 0, t.maxDepth⟩

/-- **Tokenizing is total.** With a valid grammar, whatever its constraints measure, every text is
scanned to its end in as many steps as it has bytes, and one more. No slice and no sum of offsets is
out of place on the way; and the scan gives tokens, namely those of the tokenizer, having consumed
the whole text. -/
theorem scan_by_offsets (t : Tokenizer) (hg : t.grammar.Valid) (text : String) {fuel : Nat}
    (hfuel : text.utf8ByteSize < fuel) :
    (t.frame text).run fuel .start .empty =
        .ok (Session.scan t.maxDepth 0 (.top t.grammar) 0 text.toList .empty) ∧
      (Session.scan t.maxDepth 0 (.top t.grammar) 0 text.toList .empty).1 =
        some ⟨t.tokenize text, text.utf8ByteSize⟩ := by
  have hlevel := Level.proper_top hg
  refine ⟨?_, ?_⟩
  · -- no fault: the frame of the whole text fits, and an empty session serves it
    have hsize : text.utf8ByteSize = Text.byteLength text.toList := (Text.byteLength_toList _).symm
    have hfits : (t.frame text).Fits text.toList t.maxDepth :=
      ⟨hlevel, hsize, Text.standsAt_zero _, Nat.zero_add _⟩
    have hserves : (t.frame text).Serves text.toList t.grammar .empty :=
      ⟨Session.sound_empty, .top⟩
    refine Offsets.Frame.run_eq_scan hg hfits hserves ?_
    exact hsize ▸ hfuel
  · -- a result: the text has a reading that goes to its end
    obtain ⟨n, hresume, hsize⟩ := (reads_tokenize hg text).resume hlevel
    rw [Text.byteLength_nil, Text.byteLength_toList, Nat.add_zero] at hsize
    rw [(session_agrees hg text).outcome, Scan.outcome_eq_resume, hresume, hsize]

/-- A constraint that measures one byte, which may be a part of a character, and at the end of the
text the greatest length that there is. -/
def unfit : Constraint :=
  ⟨fun coming => if coming.length < 2 then some (UInt64.size - 1) else some 1⟩

theorem scan_by_offsets_unfit :
    let t : Tokenizer := ⟨[.constrained "unfit" unfit, .surround "bold" "*"], 2⟩
    t.grammar.Valid ∧ "é*aé*é".utf8ByteSize < 10 ∧
      (t.frame "é*aé*é").run 10 .start .empty =
        .ok (Session.scan 2 0 (.top t.grammar) 0 "é*aé*é".toList .empty) ∧
      (Session.scan 2 0 (.top t.grammar) 0 "é*aé*é".toList .empty).1 =
        some ⟨t.tokenize "é*aé*é", "é*aé*é".utf8ByteSize⟩ := by
  intro t
  have hg : t.grammar.Valid := by
    refine .intro rfl ?_
    intro u hu h hinner
    simp only [t, List.mem_cons, List.not_mem_nil, or_false] at hu
    rcases hu with rfl | rfl <;> cases hinner
  have hfuel : "é*aé*é".utf8ByteSize < 10 := by decide
  exact ⟨hg, hfuel, scan_by_offsets t hg "é*aé*é" hfuel⟩

end Tokenizer
end InlineMarkup
