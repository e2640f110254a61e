import InlineMarkup.Proofs.Reading

/-!
# The leaf under way

Of the leaf under way a scan looks at the kind and nothing else. So what the leaf already holds goes
through to the token that it becomes, and no other token depends on it (`Scan.Reads.underWay`). The
token behind that one is never a leaf of the same kind: it would have been a part of it.

The leaf under way is most often a word. `Scan.Plain` says of a piece of text that each of its
characters is taken as text. Such a piece goes to the word under way (`Scan.Reads.plain_onto`), or
is a word under way if there was nothing before (`Scan.Reads.plain`).
-/

namespace InlineMarkup
namespace Scan

variable {limit : Nat} {level : Level} {coming rest : List Char}
  {tokens : List Token}

/-! ### Only the kind counts -/

/-- A type that counts does so for any leaf under way of the same kind. -/
theorem Comes.of_kind_eq {l l' : Leaf} {t : TokenType} {n : Nat}
    (h : Comes level (some l) coming t n) (hkind : l'.kind = l.kind) :
    Comes level (some l') coming t n := by
  refine ⟨h.next, ?_, h.foreign⟩
  rw [← h.fresh, Option.any_some, Option.any_some, hkind]

/-- **What is decided hangs on the kind of the leaf under way,** not on what it holds. -/
theorem Decided.of_kind_eq {l l' : Leaf} {c : Char} {cs : List Char} {action : Action}
    (h : Decided limit level (some l) c cs action) (hkind : l'.kind = l.kind) :
    Decided limit level (some l') c cs action := by
  have hsame : ∀ t : TokenType, (some l').any (fun l => l.kind == t.kind) =
      (some l).any fun l => l.kind == t.kind := by
    intro t
    rw [Option.any_some, Option.any_some, hkind]
  -- whichever rule it follows, the kind is all that the rule asks of the leaf
  cases h with
  | grown next same => exact .grown next ((hsame _).trans same)
  | ended next fresh own => exact .ended next ((hsame _).trans fresh) own
  | begun comes short => exact .begun (comes.of_kind_eq hkind) short
  | whole comes long => exact .whole (comes.of_kind_eq hkind) long
  | opened comes opens => exact .opened (comes.of_kind_eq hkind) opens
  | givenUp comes fails => exact .givenUp (comes.of_kind_eq hkind) fails

/-- A leaf that grows by a character of its kind. -/
theorem Leaf.absorb_of_kind_eq {l : Leaf} {kind : String} (hkind : l.kind = kind) (c : Char) :
    absorb kind c (some l) = ([], ⟨kind, l.text.push c⟩) := by
  rw [absorb, if_pos hkind, ← hkind]

/-- A character of another kind begins a leaf as if nothing were under way. -/
theorem Leaf.absorb_of_kind_ne {l : Leaf} {kind : String} (hkind : l.kind ≠ kind) (c : Char) :
    absorb kind c (some l) = ([l.token], (absorb kind c none).2) := by
  rw [absorb, if_neg hkind]
  rfl

/-- The leaf under way behind a character is of the kind of that. -/
theorem Leaf.absorb_snd_kind (kind : String) (c : Char) (pending : Option Leaf) :
    (absorb kind c pending).2.kind = kind := by
  cases pending with
  | none => rfl
  | some l =>
    unfold absorb
    dsimp only
    by_cases hsame : l.kind = kind
    · rw [if_pos hsame]
      exact hsame
    · rw [if_neg hsame]

/-- The leaf under way grows by a character. -/
theorem Reads.grown {kind text : String} {c : Char} {cs : List Char}
    (goes : Decided limit level (some ⟨kind, text⟩) c cs (.absorb kind))
    (onward : Reads limit level (some ⟨kind, text.push c⟩) cs tokens rest) :
    Reads limit level (some ⟨kind, text⟩) (c :: cs) tokens rest := by
  have habsorb : Leaf.absorb kind c (some ⟨kind, text⟩) = ([], ⟨kind, text.push c⟩) :=
    Leaf.absorb_of_kind_eq rfl c
  have hstep : Reads limit level (some ⟨kind, text⟩) (c :: cs)
      ((Leaf.absorb kind c (some ⟨kind, text⟩)).1 ++ tokens) rest := by
    apply Reads.absorbed goes
    rw [habsorb]
    exact onward
  rwa [habsorb] at hstep

/-- The leaf under way ends, and another one begins with a character. -/
theorem Reads.turned {l : Leaf} {kind : String} {c : Char} {cs : List Char} (hkind : l.kind ≠ kind)
    (goes : Decided limit level (some l) c cs (.absorb kind))
    (onward : Reads limit level (some (Leaf.absorb kind c none).2) cs tokens rest) :
    Reads limit level (some l) (c :: cs) (l.token :: tokens) rest := by
  have habsorb := Leaf.absorb_of_kind_ne hkind c
  have hstep : Reads limit level (some l) (c :: cs)
      ((Leaf.absorb kind c (some l)).1 ++ tokens) rest := by
    apply Reads.absorbed goes
    rw [habsorb]
    exact onward
  rwa [habsorb] at hstep

/-- If nothing more is added to the leaf under way, its token comes first as it is. -/
theorem Reads.underWay_of_finished {l : Leaf}
    (hlater : ∀ text, tokens.head? ≠ some (.leaf l.kind text))
    (hany : ∀ text, Reads limit level (some ⟨l.kind, text⟩) coming
      (.leaf l.kind text :: tokens) rest) :
    ∃ added later, l.token :: tokens = .leaf l.kind (l.text ++ added) :: later ∧
      (∀ text, later.head? ≠ some (.leaf l.kind text)) ∧
      ∀ text, Reads limit level (some ⟨l.kind, text⟩) coming
        (.leaf l.kind (text ++ added) :: later) rest := by
  refine ⟨"", tokens, ?_, hlater, fun text => ?_⟩
  · rw [String.append_empty]
    rfl
  · rw [String.append_empty]
    exact hany text

/-- **The token of the leaf under way** comes first in what is read. It holds what was there and
what has been added, and the token behind it is no leaf of its kind. With another text under way,
that text is what the token begins with, and nothing else is changed. -/
theorem Reads.underWay {l : Leaf} (h : Reads limit level (some l) coming tokens rest) :
    ∃ added later, tokens = .leaf l.kind (l.text ++ added) :: later ∧
      (∀ text, later.head? ≠ some (.leaf l.kind text)) ∧
      ∀ text, Reads limit level (some ⟨l.kind, text⟩) coming
        (.leaf l.kind (text ++ added) :: later) rest := by
  -- the leaf grows until the level ends or another token begins; then nothing more is added
  generalize hpending : some l = pending at h
  induction h generalizing l with
  | finished top =>
    -- at the end of the level the leaf is finished as it is
    subst hpending
    exact underWay_of_finished (fun _ => nofun) fun text => .finished top
  | ended ends =>
    subst hpending
    exact underWay_of_finished (fun _ => nofun) fun text => .ended (ends.of_kind_eq rfl)
  | @absorbed limit level pending c cs kind tokens rest goes onward ih =>
    subst hpending
    obtain ⟨added, later, htokens, hlater, hreads⟩ := ih rfl
    by_cases hkind : l.kind = kind
    · -- it grows by the character, which is the first to be added
      subst hkind
      rw [Leaf.absorb_of_kind_eq rfl] at htokens hlater hreads ⊢
      have hadded : ∀ text : String,
          text.push c ++ added = text ++ (String.singleton c ++ added) := by
        intro text
        rw [← String.append_assoc, ← String.push_eq_append]
      refine ⟨String.singleton c ++ added, later, ?_, hlater, fun text => ?_⟩
      · rw [← hadded]
        exact htokens
      · rw [← hadded]
        exact .grown (goes.of_kind_eq rfl) (hreads (text.push c))
    · -- what follows is the new leaf, which is of another kind
      rw [Leaf.absorb_of_kind_ne hkind] at htokens onward ⊢
      apply underWay_of_finished
      · intro text htext
        rw [htokens] at htext
        injection Option.some.inj htext with hsame _
        exact hkind hsame.symm
      · intro text
        exact .turned hkind (goes.of_kind_eq rfl) onward
  | @whole limit level pending kind constraint piece cs tokens rest comes long onward ih =>
    subst hpending
    apply underWay_of_finished
    · -- a leaf of the kind under way would not have counted
      intro text htext
      injection Option.some.inj htext with hsame _
      have hfresh := comes.fresh
      rw [Option.any_some, TokenType.kind, hsame, beq_self_eq_true] at hfresh
      cases hfresh
    · intro text
      exact .whole (comes.of_kind_eq rfl) long onward
  | branch comes filled within onward ihin ihon =>
    -- nor is a branch a leaf
    subst hpending
    apply underWay_of_finished
    · intro text htext
      cases Option.some.inj htext
    · intro text
      exact .branch (comes.of_kind_eq rfl) filled within onward

/-! ### Plain text -/

/-- A character at which no rule fits is taken as text. -/
theorem Decided.unmatched {c : Char} {cs : List Char} (hlevel : level.Proper)
    (h : ∀ t ∈ level.rules, t.matches? level.closing (c :: cs) = none) :
    Decided limit level none c cs (.absorb wordKind) := by
  have hnext : level.next (c :: cs) = ⟨.word, c.utf8Size⟩ := Level.next_eq_word h
  -- no branch has the kind of words, so the level is inside of none that has it
  have hforeign : level.closing.any TokenType.word.sameKind = false := by
    cases hclosing : level.closing with
    | none => rfl
    | some b =>
      have hne := hlevel.rules.kind_ne_word (hlevel.closing_mem b hclosing)
      exact beq_false_of_ne hne.symm
  exact .begun ⟨hnext, rfl, hforeign⟩ (Nat.le_refl _)

/-- A character that is taken as text goes to the word under way as well. -/
theorem Decided.onto_word {c : Char} {cs : List Char} (hlevel : level.Proper)
    (h : Decided limit level none c cs (.absorb wordKind)) (text : String) :
    Decided limit level (some ⟨wordKind, text⟩) c cs (.absorb wordKind) := by
  generalize haction : Action.absorb wordKind = action at h
  cases h with
  | grown next same =>
    -- nothing is under way
    cases same
  | begun comes short =>
    cases haction
    exact .grown comes.next (beq_self_eq_true wordKind)
  | givenUp comes fails =>
    -- the branch is not of the kind of words, which is reserved
    have hmem := Level.mem_of_next_branch comes.next rfl
    have hne := (hlevel.rules.kind_ne_word hmem).symm
    exact .givenUp ⟨comes.next, beq_false_of_ne hne, comes.foreign⟩ fails
  | ended next fresh own =>
    -- the others do not take the character as text
    cases haction
  | whole comes long => cases haction
  | opened comes opens => cases haction

/-- **A plain piece of text,** with `behind` to follow: each of its characters is taken as text. -/
def Plain (limit : Nat) (level : Level) (piece behind : List Char) : Prop :=
  ∀ xs c ys, piece = xs ++ c :: ys →
    Decided limit level none c (ys ++ behind) (.absorb wordKind)

variable {piece behind : List Char}

/-- What is left of a plain piece behind its first character is plain. -/
theorem Plain.tail {c : Char} {cs : List Char} (h : Plain limit level (c :: cs) behind) :
    Plain limit level cs behind := by
  rintro xs d ys rfl
  exact h (c :: xs) d ys rfl

/-- **A plain piece goes to the word under way.** -/
theorem Reads.plain_onto (hlevel : level.Proper) (h : Plain limit level piece behind)
    {text : String}
    (onward : Reads limit level (some ⟨wordKind, text ++ String.ofList piece⟩) behind tokens rest) :
    Reads limit level (some ⟨wordKind, text⟩) (piece ++ behind) tokens rest := by
  induction piece generalizing text with
  | nil =>
    rw [String.ofList_nil, String.append_empty] at onward
    exact onward
  | cons c cs ih =>
    -- the first character, and then the others with that one under way
    rw [String.ofList_cons, ← String.append_assoc, String.append_singleton] at onward
    have hfirst : Decided limit level none c (cs ++ behind) (.absorb wordKind) := h [] c cs rfl
    exact .grown (hfirst.onto_word hlevel text) (ih h.tail onward)

/-- **A plain piece is a word under way** behind which the reading goes on. -/
theorem Reads.plain (hlevel : level.Proper) (h : Plain limit level piece behind) (hne : piece ≠ [])
    (onward : Reads limit level (some ⟨wordKind, String.ofList piece⟩) behind tokens rest) :
    Reads limit level none (piece ++ behind) tokens rest := by
  cases piece with
  | nil => exact absurd rfl hne
  | cons c cs =>
    rw [String.ofList_cons] at onward
    exact .absorbed (h [] c cs rfl) (.plain_onto hlevel h.tail onward)

end Scan
end InlineMarkup
