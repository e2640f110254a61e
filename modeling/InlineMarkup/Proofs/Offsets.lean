import InlineMarkup.Proofs.Memory

/-!
# Scanning by offsets

A scan hands the coming text on from character to character, and cuts it where it has measured. The
same scan can be described by one text that stays and an offset into it, which is how a text in
memory is read: the coming text is the slice behind the offset, a leaf is the slice between the
offset where it has begun and the one where it ends. Nothing then says by itself that an offset lies
inside the text or where a character ends, or that the loop ends.

This module describes the scan of a session in that way, with every slice and every addition of
offsets checked. A slice that is out of place, an offset behind the end of its text and a loop
without end are `Fault`s.

* `Frame` — what stays the same during a scan: its text, where that begins in the whole text, its
  level, the origin of its rules.
* `Cursor` — what changes: the offset, the leaf under way, the tokens so far.
* `Frame.run` — the loop. It is given a number of steps, of which nested scans have one less.

`Cursor.Shows` relates a cursor to the coming text and the leaf under way of the other description,
and the lemmas about it say that each operation on cursors is free of faults and does what it
should.
-/

namespace InlineMarkup
namespace Offsets

open Scan

/-- **What can go wrong with offsets.** -/
inductive Fault where
  /-- A text is cut behind its end or inside a character. -/
  | cut (offset : Nat)
  /-- An offset is moved behind the end of its text. -/
  | past (offset : Nat)
  /-- The scan goes on for more steps than it was given. -/
  | endless
  deriving DecidableEq

/-! ### Slices and sums -/

/-- The text from an offset on. -/
def sliceFrom (offset : Nat) (text : List Char) : Except Fault (List Char) :=
  if Text.isBoundary offset text then .ok (Text.dropBytes offset text) else .error (.cut offset)

/-- The text between two offsets. -/
def slice (start stop : Nat) (text : List Char) : Except Fault (List Char) :=
  if start ≤ stop ∧ Text.isBoundary start text ∧ Text.isBoundary stop text then
    .ok (Text.takeBytes (stop - start) (Text.dropBytes start text))
  else .error (.cut stop)

/-- An offset and a length added up, in a text of the given size. -/
def add (size offset length : Nat) : Except Fault Nat :=
  if offset + length ≤ size then .ok (offset + length) else .error (.past (offset + length))

theorem sliceFrom_eq (front coming : List Char) :
    sliceFrom (Text.byteLength front) (front ++ coming) = .ok coming := by
  rw [sliceFrom, if_pos (Text.isBoundary_append front coming), Text.dropBytes_append]

example : sliceFrom 1 "é".toList = .error (.cut 1) := rfl

theorem slice_eq (front held coming : List Char) :
    slice (Text.byteLength front) (Text.byteLength front + Text.byteLength held)
      (front ++ (held ++ coming)) = .ok held := by
  have hstart := Text.isBoundary_append front (held ++ coming)
  have hstop := Text.isBoundary_append (front ++ held) coming
  rw [Text.byteLength_append, List.append_assoc] at hstop
  rw [slice, if_pos ⟨Nat.le_add_right _ _, hstart, hstop⟩, Nat.add_sub_cancel_left,
    Text.dropBytes_append, Text.takeBytes_append]

theorem add_eq {size offset length : Nat} (h : offset + length ≤ size) :
    add size offset length = .ok (offset + length) := by
  rw [add, if_pos h]

/-! ### Cursors -/

/-- **What changes during a scan:** the offset, the offset where the leaf under way has begun, the
kind of that leaf, and the tokens so far. -/
structure Cursor where
  offset : Nat
  spanStart : Nat
  current : Option String
  tokens : List Token

/-- The cursor at the beginning of a text. -/
def Cursor.start : Cursor := ⟨0, 0, none, []⟩

/-- **What stays the same during a scan:** the size of the whole text, the text of the scan and
where it begins in the whole text, the level, the origin of its rules and the nesting allowed. -/
structure Frame where
  whole : Nat
  text : List Char
  base : Nat
  level : Level
  origin : Nat
  maxDepth : Nat

namespace Frame

/-- The size of the text of the scan. -/
def size (f : Frame) : Nat := Text.byteLength f.text

/-- Moves the offset on. -/
def advance (f : Frame) (length : Nat) (k : Cursor) : Except Fault Cursor := do
  let offset ← add f.size k.offset length
  .ok { k with offset := offset }

/-- Ends the leaf under way. It becomes a token if it holds any text. -/
def finishLeaf (f : Frame) (k : Cursor) : Except Fault Cursor :=
  match k.current with
  | none => .ok k
  | some kind =>
    if k.spanStart < k.offset then do
      let text ← slice k.spanStart k.offset f.text
      .ok { k with current := none, tokens := k.tokens ++ [.leaf kind (String.ofList text)] }
    else .ok { k with current := none }

/-- Ends the leaf under way and begins another one. -/
def startLeaf (f : Frame) (kind : String) (k : Cursor) : Except Fault Cursor := do
  let k ← f.finishLeaf k
  .ok { k with spanStart := k.offset, current := some kind }

/-- Sees to it that a word is under way. -/
def absorbAsWord (f : Frame) (k : Cursor) : Except Fault Cursor :=
  if k.current.any fun kind => kind == wordKind then .ok k else f.startLeaf wordKind k

/-- A scan that may meet a fault. -/
abbrev Run := Frame → Session → Except Fault (Option Closed × Session)

/-- The outcome of the scan of an interior, from memory if it is there, else by running it. -/
def attempt (nested : Run) (f : Frame) (t : TokenType) (interiorStart : Nat)
    (interior : List Char) (s : Session) : Except Fault (Option Closed × Session) := do
  let (origin, s) := Session.enter f.origin t s
  let position ← add f.whole f.base interiorStart
  let attempt : Attempt := ⟨position, origin, t.kind, f.level.depth + 1⟩
  match s.outcomes[attempt]? with
  | some outcome => .ok (outcome, s)
  | none => do
    let inside : Frame := ⟨f.whole, interior, position, f.level.inside t, origin, f.maxDepth⟩
    let (outcome, s) ← nested inside s
    .ok (outcome, s.remember attempt outcome)

/-- **The attempt to open a branch** at the offset. If it succeeds, the branch is the last token and
the number of bytes is returned which it covers. -/
def openBranch (nested : Run) (f : Frame) (t : TokenType) (start stop : String) (k : Cursor)
    (s : Session) : Except Fault (Option (Nat × Cursor) × Session) := do
  let interiorStart ← add f.size k.offset start.utf8ByteSize
  let interior ← sliceFrom interiorStart f.text
  if interior.isEmpty then .ok (none, s)
  else do
    let position ← add f.whole f.base k.offset
    if f.level.depth ≥ f.maxDepth then
      .ok (none, s.record (.depthLimit t.kind position f.maxDepth))
    else do
      let (outcome, s) ← f.attempt nested t interiorStart interior s
      match outcome with
      | none => .ok (none, s)
      | some closed =>
        if closed.tokens.isEmpty then .ok (none, s.record (.emptyBranch t.kind position))
        else do
          let k ← f.finishLeaf k
          let inside ← add f.size start.utf8ByteSize closed.consumed
          let length ← add f.size inside stop.utf8ByteSize
          .ok (some (length, { k with tokens := k.tokens ++ [.branch t.kind closed.tokens] }), s)

/-- What a step leads to: the end of the scan, or another step. -/
inductive Step where
  | done (closed : Closed)
  | onward (k : Cursor)

/-- **One step** at a character of `width` bytes, once `found` is known to be what comes next. -/
def step (nested : Run) (f : Frame) (width : Nat) (found : Match) (k : Cursor) (s : Session) :
    Except Fault (Step × Session) :=
  if k.current.any fun kind => kind == found.type.kind then do
    let k ← f.advance width k
    .ok (.onward k, s)
  else if f.level.closing.any found.type.sameKind then do
    let k ← f.finishLeaf k
    .ok (.done ⟨k.tokens, k.offset⟩, s)
  else
    match found.type with
    | .leaf kind _ => do
      let k ← f.startLeaf kind k
      if found.length > width then do
        let k ← f.advance found.length k
        let k ← f.finishLeaf k
        .ok (.onward k, s)
      else do
        let k ← f.advance width k
        .ok (.onward k, s)
    | .branch _ start stop _ => do
      let (opened, s) ← f.openBranch nested found.type start stop k s
      match opened with
      | some (length, k) => do
        let k ← f.advance length k
        .ok (.onward k, s)
      | none => do
        let k ← f.absorbAsWord k
        let k ← f.advance width k
        .ok (.onward k, s)

/-- **The loop,** for at most `fuel` steps on each way into nested scans. -/
def run : (fuel : Nat) → Frame → Cursor → Session → Except Fault (Option Closed × Session)
  | 0, _, _, _ => .error .endless
  | fuel + 1, f, k, s => do
    let remaining ← sliceFrom k.offset f.text
    match remaining with
    | [] =>
      match f.level.closing with
      | some b => .ok (none, s.record (.unclosed b.kind f.level.depth))
      | none => do
        let k ← f.finishLeaf k
        .ok (some ⟨k.tokens, k.offset⟩, s)
    | c :: cs => do
      let (records, found) := Match.first? f.level.closing (c :: cs) f.level.rules
      let s := records.foldl (fun s r => s.record r) s
      let nested : Run := fun f s => run fuel f .start s
      let (next, s) ← f.step nested c.utf8Size (found.getD ⟨.word, c.utf8Size⟩) k s
      match next with
      | .done closed => .ok (some closed, s)
      | .onward k => run fuel f k s

end Frame

/-! ### What a cursor shows -/

namespace Cursor

/-- **A cursor shows** what is under way and what is coming: the coming text stands at its offset,
and the leaf under way holds what stands between the offset where it has begun and this one. -/
structure Shows (k : Cursor) (text : List Char) (pending : Option Leaf) (coming : List Char) :
    Prop where
  stands : Text.StandsAt text k.offset coming
  current : k.current = pending.map Leaf.kind
  held : ∀ l, pending = some l → ∃ held, held ≠ [] ∧ l.text = String.ofList held ∧
    k.offset = k.spanStart + Text.byteLength held ∧ Text.StandsAt text k.spanStart (held ++ coming)

/-- **A cursor leads on** to another one: `ts` have been produced, `length` bytes been passed. -/
structure LeadsTo (k k' : Cursor) (text : List Char) (ts : List Token) (length : Nat)
    (pending : Option Leaf) (coming : List Char) : Prop where
  tokens : k'.tokens = k.tokens ++ ts
  offset : k'.offset = k.offset + length
  shows : k'.Shows text pending coming

variable {k : Cursor} {f : Frame} {pending : Option Leaf} {coming : List Char}

/-- At the beginning everything is coming. -/
theorem shows_start (text : List Char) : start.Shows text none text :=
  ⟨Text.standsAt_zero text, rfl, fun _ => nofun⟩

theorem Shows.sliceFrom_eq {text : List Char} (h : k.Shows text pending coming) :
    sliceFrom k.offset text = .ok coming := by
  obtain ⟨front, rfl, hoffset⟩ := h.stands
  rw [hoffset, Offsets.sliceFrom_eq]

/-- The kind under way is that of the leaf under way. -/
theorem Shows.any_current {text : List Char} (h : k.Shows text pending coming) (kind : String) :
    (k.current.any fun current => current == kind) = pending.any fun l => l.kind == kind := by
  rw [h.current, Option.any_map]

/-- **The offset can be moved on** over a leading part of the coming text. -/
theorem advance_eq {piece rest : List Char} (h : Text.StandsAt f.text k.offset (piece ++ rest)) :
    f.advance (Text.byteLength piece) k =
      .ok { k with offset := k.offset + Text.byteLength piece } := by
  have hsize := h.advance.add_byteLength
  have hle : k.offset + Text.byteLength piece ≤ f.size := Nat.le.intro hsize
  rw [Frame.advance, add_eq hle]
  rfl

/-- **The leaf under way can be cut out,** and becomes the last token. -/
theorem Shows.finishLeaf_eq (h : k.Shows f.text pending coming) :
    f.finishLeaf k =
      .ok { k with current := none, tokens := k.tokens ++ Leaf.finish pending } := by
  unfold Frame.finishLeaf
  rw [h.current]
  cases pending with
  | none =>
    -- nothing is under way, and no token comes of it
    have hcurrent : k.current = none := h.current
    obtain ⟨offset, spanStart, current, tokens⟩ := k
    obtain rfl : current = none := hcurrent
    simp [Leaf.finish]
  | some l =>
    obtain ⟨held, hheld, htext, hoffset, front, hwhole, hstart⟩ := h.held l rfl
    -- the leaf has text, so it is cut out rather than dropped
    have hlt : k.spanStart < k.offset := by
      rw [hoffset]
      exact Nat.lt_add_of_pos_right (Text.byteLength_pos hheld)
    have hslice : slice k.spanStart k.offset f.text = .ok held := by
      rw [hoffset, hwhole, hstart, slice_eq]
    dsimp only [Option.map_some]
    rw [if_pos hlt, hslice, Leaf.finish, Option.map_some, Leaf.token, htext]
    rfl

/-- Another leaf can be begun. -/
theorem Shows.startLeaf_eq (h : k.Shows f.text pending coming) (kind : String) :
    f.startLeaf kind k =
      .ok ⟨k.offset, k.offset, some kind, k.tokens ++ Leaf.finish pending⟩ := by
  rw [Frame.startLeaf, h.finishLeaf_eq]
  rfl

/-! ### One character -/

/-- A leaf under way of the same kind grows by the coming character. -/
theorem Shows.grow {c : Char} {cs : List Char} (h : k.Shows f.text pending (c :: cs))
    {kind : String} (hsame : (pending.any fun l => l.kind == kind) = true) :
    ∃ k', f.advance c.utf8Size k = .ok k' ∧
      k.LeadsTo k' f.text (Leaf.absorb kind c pending).1 c.utf8Size
        (some (Leaf.absorb kind c pending).2) cs := by
  have hstands : Text.StandsAt f.text k.offset ([c] ++ cs) := h.stands
  refine ⟨_, advance_eq hstands, ?_⟩
  cases pending with
  | none => cases hsame
  | some l =>
    have hkind : l.kind = kind := by simpa using hsame
    rw [Leaf.absorb, if_pos hkind]
    -- the leaf has begun where it had, and holds the character as well
    obtain ⟨held, hheld, htext, hoffset, hspan⟩ := h.held l rfl
    refine ⟨(List.append_nil _).symm, rfl, hstands.advance, h.current, ?_⟩
    rintro l' ⟨⟩
    refine ⟨held ++ [c], by simp, ?_, ?_, ?_⟩
    · rw [htext, String.push_eq_append, String.ofList_append, String.singleton_eq_ofList]
    · rw [Text.byteLength_append, hoffset, Nat.add_assoc]
    · rw [List.append_assoc]
      exact hspan

/-- A leaf of another kind can be begun with the coming character. -/
theorem Shows.begin {c : Char} {cs : List Char} (h : k.Shows f.text pending (c :: cs))
    {kind : String} (hfresh : (pending.any fun l => l.kind == kind) = false) :
    ∃ k₁ k', f.startLeaf kind k = .ok k₁ ∧ f.advance c.utf8Size k₁ = .ok k' ∧
      k.LeadsTo k' f.text (Leaf.absorb kind c pending).1 c.utf8Size
        (some (Leaf.absorb kind c pending).2) cs := by
  have hstands : Text.StandsAt f.text k.offset ([c] ++ cs) := h.stands
  let k₁ : Cursor := ⟨k.offset, k.offset, some kind, k.tokens ++ Leaf.finish pending⟩
  refine ⟨k₁, _, h.startLeaf_eq kind, advance_eq (k := k₁) hstands, ?_⟩
  -- a leaf of another kind is finished by a new one
  have habsorb : Leaf.absorb kind c pending = (Leaf.finish pending, ⟨kind, c.toString⟩) := by
    cases pending with
    | none => rfl
    | some l =>
      have hkind : l.kind ≠ kind := by simpa using hfresh
      rw [Leaf.absorb, if_neg hkind]
      rfl
  rw [habsorb]
  refine ⟨rfl, rfl, hstands.advance, rfl, ?_⟩
  rintro l' ⟨⟩
  exact ⟨[c], List.cons_ne_nil _ _, String.singleton_eq_ofList, rfl, hstands⟩

/-- The coming character can be kept as text. -/
theorem Shows.absorbAsWord {c : Char} {cs : List Char} (h : k.Shows f.text pending (c :: cs)) :
    ∃ k₁ k', f.absorbAsWord k = .ok k₁ ∧ f.advance c.utf8Size k₁ = .ok k' ∧
      k.LeadsTo k' f.text (Leaf.absorb wordKind c pending).1 c.utf8Size
        (some (Leaf.absorb wordKind c pending).2) cs := by
  unfold Frame.absorbAsWord
  rw [h.any_current]
  by_cases hword : (pending.any fun l => l.kind == wordKind) = true
  · -- a word is under way and grows
    rw [if_pos hword]
    obtain ⟨k', hadvance, hleads⟩ := h.grow hword
    exact ⟨k, k', rfl, hadvance, hleads⟩
  · -- any other leaf gives way to a word
    rw [if_neg hword]
    exact h.begin (Bool.eq_false_iff.mpr hword)

/-- **A leaf of a measured length** can be begun, passed over and ended at once. -/
theorem Shows.whole {piece rest : List Char} (h : k.Shows f.text pending (piece ++ rest))
    (hne : piece ≠ []) (kind : String) :
    ∃ k₁ k₂ k', f.startLeaf kind k = .ok k₁ ∧ f.advance (Text.byteLength piece) k₁ = .ok k₂ ∧
      f.finishLeaf k₂ = .ok k' ∧
      k.LeadsTo k' f.text (Leaf.finish pending ++ [.leaf kind (String.ofList piece)])
        (Text.byteLength piece) none rest := by
  -- what is passed over is the leaf under way, as long as it is not ended
  have hpiece : Shows ⟨k.offset + Text.byteLength piece, k.offset, some kind,
      k.tokens ++ Leaf.finish pending⟩ f.text (some ⟨kind, String.ofList piece⟩) rest := by
    refine ⟨h.stands.advance, rfl, ?_⟩
    rintro l ⟨⟩
    exact ⟨piece, hne, rfl, rfl, h.stands⟩
  let k₁ : Cursor := ⟨k.offset, k.offset, some kind, k.tokens ++ Leaf.finish pending⟩
  refine ⟨k₁, _, _, h.startLeaf_eq kind, advance_eq (k := k₁) h.stands, hpiece.finishLeaf_eq, ?_⟩
  refine ⟨List.append_assoc _ _ _, rfl, h.stands.advance, rfl, fun _ => nofun⟩

end Cursor
end Offsets
end InlineMarkup
