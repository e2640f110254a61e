import Mathlib.Data.List.Induction
import InlineMarkup.Tokenizer
import InlineMarkup.Proofs.Comparison

/-!
# Remembering nested scans

A tokenizer remembers the outcomes of nested scans under four things: where the scan starts, the
origin of its rules, the kind of its branch and its depth. This module shows that they identify a
nested scan, so that a remembered outcome is the one that running the scan again would give.

* `Session.Denotes` reads an origin as a rule list. While `Session.Numbered` holds, an origin stands
  for one rule list (`Session.Denotes.unique`), because a number is given to one step into a grammar
  only and in a rule list the kind of that step names one type.
* `Session.Sound` is the invariant of a session: the origins are numbered, every remembered outcome
  is that of a plain scan which the key denotes, and the records of that scan have been made.
* `Session.scan_agrees` — a scan from a sound session gives the plain outcome and a sound session,
  and its records are those of the plain scan with nothing left out but repetitions.

The last point is `Record.Thinned`. It relates the records of the plain scan to those that are left
when a record may be dropped once it has been kept before.
-/

namespace InlineMarkup

/-! ### Logs without repetitions -/

/-- **Thinning.** `Thinned all kept` says that the log `kept` comes from the log `all` by leaving
out records that it already holds. -/
inductive Record.Thinned : List Record → List Record → Prop where
  | nil : Thinned [] []
  | keep {all kept : List Record} (r : Record) (h : Thinned all kept) :
      Thinned (all ++ [r]) (kept ++ [r])
  | skip {all kept : List Record} {r : Record} (h : Thinned all kept) (seen : r ∈ kept) :
      Thinned (all ++ [r]) kept

namespace Record.Thinned

variable {all kept more : List Record}

theorem refl (all : List Record) : Thinned all all := by
  induction all using List.reverseRecOn with
  | nil => exact .nil
  | append_singleton all r ih => exact ih.keep r

theorem skips (h : Thinned all kept) (seen : ∀ r ∈ more, r ∈ kept) :
    Thinned (all ++ more) kept := by
  induction more generalizing all with
  | nil => rwa [List.append_nil]
  | cons r more ih =>
    have hskip : Thinned (all ++ [r]) kept := h.skip (seen r List.mem_cons_self)
    rw [List.append_cons]
    exact ih hskip fun r' hr' => seen r' (List.mem_cons_of_mem r hr')

/-- Thinning loses no record altogether. -/
theorem mem_iff (h : Thinned all kept) (r : Record) : r ∈ kept ↔ r ∈ all := by
  induction h with
  | nil => exact Iff.rfl
  | keep r' _ ih => rw [List.mem_append, List.mem_append, ih]
  | skip _ seen ih =>
    -- what is left out here is kept further in front
    rw [List.mem_append, ← ih, List.mem_singleton]
    exact ⟨Or.inl, fun h => h.elim id fun heq => heq ▸ seen⟩

end Record.Thinned

/-! ### The log of a plain scan -/

namespace Scan

/-- The log with one more record. -/
def log (r : Record) (rs : List Record) : List Record := rs ++ [r]

/-- **The records of a plain scan,** in order. -/
def transcript (limit : Nat) (level : Level) (position : Nat) (text : List Char) : List Record :=
  (scan log limit level position text []).2

section Logging

variable {whole text : List Char} {limit : Nat} {level : Level} {position : Nat} {rs : List Record}

/-- A plain scan adds its records to a log if its nested scans do. -/
theorem scan_log_of_follows (hlevel : level.Proper) (hstands : Text.StandsAt whole position text)
    (hf : (plainHost log limit level).Follows (plainHost log limit level) level whole
      fun s u => s = rs ++ u) :
    (scan log limit level position text rs).2 = rs ++ transcript limit level position text := by
  -- the scan on the log `rs` and the scan on the empty log run alike, `rs` being in front
  have hrel : rs = rs ++ [] := (List.append_nil rs).symm
  rw [transcript, scan_eq_walk, scan_eq_walk]
  exact (hf.walk hlevel (plainHost_plain log limit level) hstands hrel none).2

/-- A plain scan adds its records to a log and does not look at what is there. -/
theorem scan_log (hlevel : level.Proper) (hstands : Text.StandsAt whole position text)
    (rs : List Record) :
    (scan log limit level position text rs).2 = rs ++ transcript limit level position text := by
  induction limit generalizing level position text rs with
  | zero =>
    refine scan_log_of_follows hlevel hstands ⟨?_, fun _ => rfl, fun _ => nofun⟩
    rintro r _ u rfl
    exact List.append_assoc rs u [r]
  | succ l ih =>
    refine scan_log_of_follows hlevel hstands ⟨?_, nofun, ?_⟩
    · rintro r _ u rfl
      exact List.append_assoc rs u [r]
    · rintro n ⟨⟩
      refine ⟨_, rfl, ?_⟩
      rintro t ht hbranch p interior hplace _ u rfl
      have hinside := hlevel.inside ht hbranch
      refine ⟨?_, ?_⟩
      · rw [scan_fst, scan_fst]
      · -- what the nested scan adds is the same on both logs
        rw [ih hinside hplace, ih hinside hplace, List.append_assoc]

end Logging

end Scan

/-! ### Origins -/

namespace Session

open Scan

/-- **Numbered origins.** Numbers run from one to the number of steps, and no two steps have the
same number. -/
structure Numbered (origins : Std.HashMap Entrance Nat) : Prop where
  pos : ∀ (e : Entrance) (o : Nat), origins[e]? = some o → 0 < o
  le_size : ∀ (e : Entrance) (o : Nat), origins[e]? = some o → o ≤ origins.size
  inj : ∀ (e e' : Entrance) (o : Nat), origins[e]? = some o → origins[e']? = some o → e = e'

theorem Numbered.empty : Numbered ∅ := by
  refine ⟨?_, ?_, ?_⟩ <;> intro e <;> simp

/-- A new step gets the next number. -/
theorem Numbered.insert {origins : Std.HashMap Entrance Nat} (h : Numbered origins)
    {e : Entrance} (hnew : origins[e]? = none) :
    Numbered (origins.insert e (origins.size + 1)) := by
  have hsize : (origins.insert e (origins.size + 1)).size = origins.size + 1 := by
    rw [Std.HashMap.size_insert, if_neg]
    rw [Std.HashMap.mem_iff_isSome_getElem?, hnew]
    exact Bool.false_ne_true
  -- what is found afterwards is the new step with its number or has been found before
  have hcases : ∀ (e' : Entrance) (o : Nat), (origins.insert e (origins.size + 1))[e']? = some o →
      e' = e ∧ o = origins.size + 1 ∨ origins[e']? = some o := by
    intro e' o ho
    rw [Std.HashMap.getElem?_insert] at ho
    split at ho
    · next heq =>
      cases ho
      exact .inl ⟨(eq_of_beq heq).symm, rfl⟩
    · exact .inr ho
  refine ⟨?_, ?_, ?_⟩
  · -- numbers are positive
    intro e' o ho
    rcases hcases e' o ho with ⟨-, rfl⟩ | ho
    · exact Nat.succ_pos _
    · exact h.pos e' o ho
  · -- and at most as many as there are steps
    intro e' o ho
    rw [hsize]
    rcases hcases e' o ho with ⟨-, rfl⟩ | ho
    · exact Nat.le_refl _
    · exact Nat.le_succ_of_le (h.le_size e' o ho)
  · -- the new number is larger than all that were given before
    intro e₁ e₂ o h₁ h₂
    rcases hcases e₁ o h₁ with ⟨rfl, rfl⟩ | hold₁
    · rcases hcases e₂ _ h₂ with ⟨rfl, -⟩ | hold₂
      · rfl
      · exact absurd (h.le_size e₂ _ hold₂) (Nat.not_succ_le_self _)
    · rcases hcases e₂ _ h₂ with ⟨rfl, rfl⟩ | hold₂
      · exact absurd (h.le_size e₁ _ hold₁) (Nat.not_succ_le_self _)
      · exact h.inj e₁ e₂ o hold₁ hold₂

/-- The numbers given so far stay as they are. -/
def Grown (origins origins' : Std.HashMap Entrance Nat) : Prop :=
  ∀ (e : Entrance) (o : Nat), origins[e]? = some o → origins'[e]? = some o

/-- A step that had no number may be given one. -/
theorem Grown.insert {origins : Std.HashMap Entrance Nat} {entrance : Entrance} {number : Nat}
    (hnew : origins[entrance]? = none) : Grown origins (origins.insert entrance number) := by
  intro e o ho
  rw [Std.HashMap.getElem?_insert]
  split
  · next heq =>
    rw [← eq_of_beq heq, hnew] at ho
    cases ho
  · exact ho

/-- **The rule list of an origin.** Zero stands for the grammar of the whole text, another number
for a branch followed by its own grammar, reached by the step that has this number. -/
inductive Denotes (g : Grammar) (origins : Std.HashMap Entrance Nat) : Nat → Grammar → Prop where
  | top : Denotes g origins 0 g
  | step {origin number : Nat} {rules h : Grammar} {t : TokenType}
      (around : Denotes g origins origin rules) (mem : t ∈ rules) (inner : t.inner? = some h)
      (numbered : origins[(⟨origin, t.kind⟩ : Entrance)]? = some number) :
      Denotes g origins number (t :: h)

namespace Denotes

variable {g rules rules' : Grammar} {origins origins' : Std.HashMap Entrance Nat} {origin : Nat}

theorem grown (h : Denotes g origins origin rules) (hgrown : Grown origins origins') :
    Denotes g origins' origin rules := by
  induction h with
  | top => exact .top
  | step _ mem inner numbered ih => exact .step ih mem inner (hgrown _ _ numbered)

theorem isRuleList (h : Denotes g origins origin rules) (hg : g.Valid) : rules.IsRuleList := by
  induction h with
  | top => exact hg.isRuleList
  | step _ mem inner _ ih => exact ih.inside mem inner

/-- **An origin stands for one rule list.** -/
theorem unique (h : Denotes g origins origin rules) (h' : Denotes g origins origin rules')
    (hg : g.Valid) (hnumbered : Numbered origins) : rules = rules' := by
  induction h generalizing rules' with
  | top =>
    cases h' with
    | top => rfl
    | step _ _ _ numbered => exact absurd (hnumbered.pos _ _ numbered) (Nat.lt_irrefl 0)
  | step around mem inner numbered ih =>
    cases h' with
    | top => exact absurd (hnumbered.pos _ _ numbered) (Nat.lt_irrefl 0)
    | step around' mem' inner' numbered' =>
      -- one number, one step: the rules around are the same, and in them the kind names one type
      have hstep := hnumbered.inj _ _ _ numbered numbered'
      injection hstep with horigin hkind
      subst horigin
      obtain rfl := ih around'
      obtain rfl := (around.isRuleList hg).eq_of_kind_eq mem mem' hkind
      rw [inner] at inner'
      cases inner'
      rfl

end Denotes

/-- **Entering a branch** touches nothing but the numbers, of which none changes. -/
theorem enter_frame (parent : Nat) (t : TokenType) (s : Session) :
    (enter parent t s).2.outcomes = s.outcomes ∧ (enter parent t s).2.records = s.records ∧
      Grown s.origins (enter parent t s).2.origins := by
  unfold enter
  cases t.inner? with
  | none => exact ⟨rfl, rfl, fun _ _ ho => ho⟩
  | some g =>
    dsimp only
    cases hknown : s.origins[(⟨parent, t.kind⟩ : Entrance)]? with
    | some number => exact ⟨rfl, rfl, fun _ _ ho => ho⟩
    | none => exact ⟨rfl, rfl, .insert hknown⟩

/-- **What is entered** are the rules inside the branch, for which the origin stands. -/
theorem enter_spec {g : Grammar} {s : Session} {origin : Nat} {level : Level} {t : TokenType}
    (hnumbered : Numbered s.origins) (hden : Denotes g s.origins origin level.rules)
    (ht : t ∈ level.rules) :
    Numbered (enter origin t s).2.origins ∧
      Denotes g (enter origin t s).2.origins (enter origin t s).1 (level.rulesInside t) := by
  unfold enter Level.rulesInside
  cases hinner : t.inner? with
  | none =>
    -- no grammar of its own: the rules are those around it
    exact ⟨hnumbered, hden⟩
  | some h =>
    dsimp only
    cases hknown : s.origins[(⟨origin, t.kind⟩ : Entrance)]? with
    | some number =>
      -- the step has been taken before
      exact ⟨hnumbered, .step hden ht hinner hknown⟩
    | none =>
      -- a new step, which gets the next number
      refine ⟨hnumbered.insert hknown, .step (hden.grown (.insert hknown)) ht hinner ?_⟩
      rw [Std.HashMap.getElem?_insert_self]

/-! ### The invariant of a session -/

/-- **What a remembered outcome stands for.** The key denotes a nested scan of the whole text, the
outcome is that of running it plainly, and the records it would make have been made. -/
inductive Remembers (whole : List Char) (g : Grammar) (maxDepth : Nat) (s : Session) (a : Attempt)
    (x : Option Closed) : Prop where
  | intro {rules : Grammar} {t : TokenType} {interior : List Char} {limit : Nat}
      (denotes : Denotes g s.origins a.origin rules) (mem : t ∈ rules) (kind : t.kind = a.closing)
      (stands : Text.StandsAt whole a.start interior) (depth : a.depth + limit = maxDepth)
      (outcome : outcome limit ⟨rules, some t, a.depth⟩ interior = x)
      (recorded : ∀ r ∈ transcript limit ⟨rules, some t, a.depth⟩ a.start interior,
        r ∈ s.records.toList) :
      Remembers whole g maxDepth s a x

/-- **Sound sessions.** Origins are numbered, and the outcome remembered under a key is that of the
nested scan which the key denotes. -/
structure Sound (whole : List Char) (g : Grammar) (maxDepth : Nat) (s : Session) : Prop where
  numbered : Numbered s.origins
  remembered : ∀ a x, s.outcomes[a]? = some x → Remembers whole g maxDepth s a x

variable {whole : List Char} {g : Grammar} {maxDepth : Nat} {s : Session}

/-- At first there is nothing to be sound. -/
theorem sound_empty : Sound whole g maxDepth Session.empty := by
  refine ⟨Numbered.empty, ?_⟩
  intro a x h
  simp [Session.empty] at h

/-- What is remembered stays true when numbers and records are added. -/
theorem Remembers.mono {s' : Session} {a : Attempt} {x : Option Closed}
    (h : Remembers whole g maxDepth s a x) (hgrown : Grown s.origins s'.origins)
    (hrecords : ∀ r ∈ s.records.toList, r ∈ s'.records.toList) :
    Remembers whole g maxDepth s' a x := by
  obtain ⟨denotes, mem, kind, stands, depth, outcome, recorded⟩ := h
  exact ⟨denotes.grown hgrown, mem, kind, stands, depth, outcome,
    fun r hr => hrecords r (recorded r hr)⟩

theorem Sound.record (h : Sound whole g maxDepth s) (r : Record) :
    Sound whole g maxDepth (s.record r) := by
  refine ⟨h.numbered, ?_⟩
  intro a x hx
  refine (h.remembered a x hx).mono (fun _ _ ho => ho) ?_
  intro r' hr'
  simp only [Session.record, Array.toList_push, List.mem_append]
  exact .inl hr'

theorem Sound.enter (h : Sound whole g maxDepth s) {origin : Nat} {level : Level} {t : TokenType}
    (hden : Denotes g s.origins origin level.rules) (ht : t ∈ level.rules) :
    Sound whole g maxDepth (enter origin t s).2 := by
  obtain ⟨houtcomes, hrecords, hgrown⟩ := enter_frame origin t s
  obtain ⟨hnumbered, -⟩ := enter_spec h.numbered hden ht
  refine ⟨hnumbered, ?_⟩
  intro a x hx
  rw [houtcomes] at hx
  refine (h.remembered a x hx).mono hgrown ?_
  rw [hrecords]
  exact fun _ hr => hr

theorem Sound.remember (h : Sound whole g maxDepth s) {a : Attempt} {x : Option Closed}
    (hx : Remembers whole g maxDepth s a x) : Sound whole g maxDepth (s.remember a x) := by
  refine ⟨h.numbered, ?_⟩
  intro b y hy
  simp only [Session.remember, Std.HashMap.getElem?_insert] at hy
  -- the tables that a remembered outcome speaks of are the same as before
  have hsame : ∀ {b y}, Remembers whole g maxDepth s b y →
      Remembers whole g maxDepth (s.remember a x) b y :=
    fun hb => hb.mono (fun _ _ ho => ho) (fun _ hr => hr)
  split at hy
  · next heq =>
    cases hy
    rw [← eq_of_beq heq]
    exact hsame hx
  · exact hsame (h.remembered b y hy)

/-! ### Scans of a session -/

/-- The answer of a session to a nested scan: from memory if it is there, else by running it. -/
def nested (limit origin : Nat) (level : Level) (t : TokenType) (position : Nat)
    (interior : List Char) (s : Session) : Option Closed × Session :=
  let (origin, s) := enter origin t s
  let attempt : Attempt := ⟨position, origin, t.kind, level.depth + 1⟩
  match s.outcomes[attempt]? with
  | some outcome => (outcome, s)
  | none =>
    let (outcome, s) := scan limit origin (level.inside t) position interior s
    (outcome, s.remember attempt outcome)

/-- The host of a scan that remembers. -/
def host (limit origin : Nat) (level : Level) : Host Session where
  nested :=
    match limit with
    | 0 => none
    | limit + 1 => some (nested limit origin level)
  record := record

theorem scan_eq_walk (limit origin : Nat) (level : Level) (position : Nat) (text : List Char)
    (s : Session) :
    scan limit origin level position text s =
      walk (host limit origin level) level text position 0 none s := by
  cases limit <;> rfl

/-- **A scan that agrees with the plain one.** From the session `s` it gives the outcome of the
plain scan and a sound session, in which no number has changed, and it makes the records of the
plain scan less repetitions. -/
structure Agrees (whole : List Char) (g : Grammar) (maxDepth : Nat) (limit : Nat) (level : Level)
    (position : Nat) (text : List Char) (s : Session) (r : Option Closed × Session) : Prop where
  outcome : r.1 = Scan.outcome limit level text
  sound : Sound whole g maxDepth r.2
  grown : Grown s.origins r.2.origins
  thinned : ∀ all, Record.Thinned all s.records.toList →
    Record.Thinned (all ++ transcript limit level position text) r.2.records.toList

/-- The records of the plain scan have been made. -/
theorem Agrees.recorded {limit : Nat} {level : Level} {position : Nat} {text : List Char}
    {r : Option Closed × Session} (h : Agrees whole g maxDepth limit level position text s r) :
    ∀ x ∈ transcript limit level position text, x ∈ r.2.records.toList := by
  intro x hx
  have hthinned := h.thinned _ (Record.Thinned.refl s.records.toList)
  exact (hthinned.mem_iff x).mpr (List.mem_append_right _ hx)

/-- **Answers that agree** with plain scans: those of sound sessions to nested scans which are asked
for at a level, where the interior stands. -/
def AnswersAgree (whole : List Char) (g : Grammar) (maxDepth limit origin : Nat) (level : Level) :
    Prop :=
  ∀ l, limit = l + 1 → ∀ t ∈ level.rules, t.isLeaf = false → ∀ position interior,
    Text.StandsAt whole position interior → ∀ s : Session, Sound whole g maxDepth s →
      Denotes g s.origins origin level.rules →
      Agrees whole g maxDepth l (level.inside t) position interior s
        (nested l origin level t position interior s)

section Answers

variable {limit origin : Nat} {level : Level}

/-- **An answer of a session agrees with the plain scan** if the scans do that it runs. A remembered
outcome agrees because its key denotes this very scan. -/
theorem nested_agrees (hg : g.Valid) (hlevel : level.Proper)
    (hdepth : level.depth + (limit + 1) = maxDepth)
    (hscan : ∀ {origin : Nat} {level : Level} {position : Nat} {text : List Char} {s : Session},
      level.Proper → level.depth + limit = maxDepth → Sound whole g maxDepth s →
      Denotes g s.origins origin level.rules → Text.StandsAt whole position text →
      Agrees whole g maxDepth limit level position text s
        (scan limit origin level position text s))
    {t : TokenType} (ht : t ∈ level.rules) (hbranch : t.isLeaf = false) {position : Nat}
    {interior : List Char} (hstands : Text.StandsAt whole position interior)
    (hs : Sound whole g maxDepth s) (hden : Denotes g s.origins origin level.rules) :
    Agrees whole g maxDepth limit (level.inside t) position interior s
      (nested limit origin level t position interior s) := by
  have hsound := hs.enter hden ht
  obtain ⟨-, hrecords, hgrown⟩ := enter_frame origin t s
  obtain ⟨-, hinside⟩ := enter_spec hs.numbered hden ht
  unfold nested
  generalize enter origin t s = entered at hsound hgrown hinside hrecords
  obtain ⟨origin', s₁⟩ := entered
  dsimp only at hsound hgrown hinside hrecords ⊢
  cases hlook : s₁.outcomes[(⟨position, origin', t.kind, level.depth + 1⟩ : Attempt)]? with
  | some x =>
    -- remembered: the parts of the key fix the rules, the branch, the interior and the limit
    obtain ⟨denotes, mem, kind, stands, depth, outcome, recorded⟩ := hsound.remembered _ x hlook
    obtain rfl := denotes.unique hinside hg hsound.numbered
    obtain rfl := (hlevel.rulesInside ht).eq_of_kind_eq mem (Level.mem_rulesInside ht) kind
    obtain rfl := stands.unique hstands
    dsimp only at depth outcome recorded
    obtain rfl : _ = limit := Nat.add_left_cancel
      (depth.trans (hdepth.symm.trans (by rw [Nat.add_assoc, Nat.add_comm 1])))
    refine ⟨outcome.symm, hsound, hgrown, ?_⟩
    -- no record is made now, and none is missing, since the first time made them all
    intro all hall
    rw [hrecords] at recorded ⊢
    exact hall.skips recorded
  | none =>
    -- not remembered: the scan is run, and its outcome is remembered under this key
    have hdepth' : (level.inside t).depth + limit = maxDepth := by
      rw [← hdepth, Level.inside, Nat.add_assoc, Nat.add_comm 1]
    have hagrees := hscan (hlevel.inside ht hbranch) hdepth' hsound hinside hstands
    dsimp only
    generalize scan limit origin' (level.inside t) position interior s₁ = r at hagrees
    obtain ⟨x, s₂⟩ := r
    have hremembers : Remembers whole g maxDepth s₂
        ⟨position, origin', t.kind, level.depth + 1⟩ x :=
      ⟨hinside.grown hagrees.grown, Level.mem_rulesInside ht, rfl, hstands, hdepth',
        hagrees.outcome.symm, hagrees.recorded⟩
    refine ⟨hagrees.outcome, hagrees.sound.remember hremembers, ?_, ?_⟩
    · exact fun e o ho => hagrees.grown e o (hgrown e o ho)
    · intro all hall
      rw [← hrecords] at hall
      exact hagrees.thinned all hall

/-- **The host of a session follows the plain one.** States are related if the session is sound, has
grown from `s` and has thinned the plain log. -/
theorem host_follows (hden : Denotes g s.origins origin level.rules)
    (hanswers : AnswersAgree whole g maxDepth limit origin level) (hlevel : level.Proper) :
    (host limit origin level).Follows (plainHost log limit level) level whole fun s' all =>
      Sound whole g maxDepth s' ∧ Grown s.origins s'.origins ∧
        Record.Thinned all s'.records.toList := by
  refine ⟨?_, ?_, ?_⟩
  · -- a record is made in both logs
    rintro r s' all ⟨hsound, hgrown, hthinned⟩
    refine ⟨hsound.record r, hgrown, ?_⟩
    simp only [host, Session.record, Array.toList_push]
    exact hthinned.keep r
  · -- neither host nests without a further level
    intro h
    cases limit with
    | zero => rfl
    | succ l => cases h
  · -- with one, both answer alike
    intro n hn
    cases limit with
    | zero => cases hn
    | succ l =>
      cases hn
      refine ⟨_, rfl, ?_⟩
      -- the origin still stands for the rules, as no number has changed since `s`
      rintro t ht hbranch position interior hstands s' all ⟨hsound, hgrown, hthinned⟩
      have hagrees := hanswers l rfl t ht hbranch position interior hstands s' hsound
        (hden.grown hgrown)
      have hinside := hlevel.inside ht hbranch
      refine ⟨?_, hagrees.sound, ?_, ?_⟩
      · rw [hagrees.outcome, scan_fst]
      · exact fun e o ho => hagrees.grown e o (hgrown e o ho)
      · rw [scan_log hinside hstands]
        exact hagrees.thinned all hthinned

/-- A scan agrees with the plain one if its answers do. -/
theorem agrees_of_nested (hden : Denotes g s.origins origin level.rules)
    (hanswers : AnswersAgree whole g maxDepth limit origin level) (hlevel : level.Proper)
    (hs : Sound whole g maxDepth s) {position : Nat} {text : List Char}
    (hstands : Text.StandsAt whole position text) :
    Agrees whole g maxDepth limit level position text s
      (scan limit origin level position text s) := by
  have hf := host_follows hden hanswers hlevel
  have hplain := plainHost_plain log limit level
  -- the two loops run alike, whatever log of the plain scan is thinned to that of the session
  have hall : ∀ all, Record.Thinned all s.records.toList → _ := fun all hthinned =>
    hf.walk hlevel hplain hstands ⟨hs, fun _ _ h => h, hthinned⟩ none
  rw [Session.scan_eq_walk]
  obtain ⟨hfst, hsound, hgrown, -⟩ := hall _ (Record.Thinned.refl _)
  refine ⟨?_, hsound, hgrown, ?_⟩
  · rw [hfst, ← Scan.scan_eq_walk, scan_fst]
  · intro all hthinned
    obtain ⟨-, -, -, hthinned'⟩ := hall all hthinned
    rw [← Scan.scan_eq_walk, scan_log hlevel hstands] at hthinned'
    exact hthinned'

end Answers

/-- **Remembering is sound.** At a level of a valid grammar, the answers of sound sessions agree
with the plain scans. -/
theorem answersAgree (hg : g.Valid) {limit origin : Nat} {level : Level} (hlevel : level.Proper)
    (hdepth : level.depth + limit = maxDepth) :
    AnswersAgree whole g maxDepth limit origin level := by
  -- answers at one limit rest on scans at the next lower one, and these on the answers there
  induction limit generalizing origin level with
  | zero =>
    intro l hl
    cases hl
  | succ n ih =>
    intro l hl t ht hbranch position interior hplace s hs hden
    obtain rfl := Nat.succ.inj hl
    refine nested_agrees hg hlevel hdepth ?_ ht hbranch hplace hs hden
    intro origin' level' position' text' s' hlevel' hdepth' hs' hden' hstands'
    exact agrees_of_nested hden' (ih hlevel' hdepth') hlevel' hs' hstands'

/-- A scan from a sound session agrees with the plain scan. -/
theorem scan_agrees (hg : g.Valid) {limit origin : Nat} {level : Level} (hlevel : level.Proper)
    (hdepth : level.depth + limit = maxDepth) (hs : Sound whole g maxDepth s)
    (hden : Denotes g s.origins origin level.rules) {position : Nat} {text : List Char}
    (hstands : Text.StandsAt whole position text) :
    Agrees whole g maxDepth limit level position text s
      (scan limit origin level position text s) :=
  agrees_of_nested hden (answersAgree hg hlevel hdepth) hlevel hs hstands

/-- Records that are added leave a session sound, and change no number. -/
theorem Sound.records (hs : Sound whole g maxDepth s) (rs : List Record) :
    Sound whole g maxDepth (rs.foldl (fun s r => s.record r) s) ∧
      Grown s.origins (rs.foldl (fun s r => s.record r) s).origins := by
  induction rs generalizing s with
  | nil => exact ⟨hs, fun _ _ h => h⟩
  | cons r rs ih => exact ih (hs.record r)

/-- **One step from a sound session** is that of the plain scan. It leaves the session sound, and
changes no number. -/
theorem Sound.act (hs : Sound whole g maxDepth s) (hg : g.Valid) {limit origin : Nat}
    {level : Level} (hlevel : level.Proper) (hdepth : level.depth + limit = maxDepth)
    (hden : Denotes g s.origins origin level.rules) {position : Nat} {c : Char} {cs : List Char}
    (hstands : Text.StandsAt whole position (c :: cs)) (pending : Option Leaf)
    {r : Action × Session}
    (hr : act (host limit origin level) level position pending c cs (level.next (c :: cs)) s = r) :
    r.1 = decision limit level pending c cs ∧ Sound whole g maxDepth r.2 ∧
      Grown s.origins r.2.origins := by
  have hanswers : AnswersAgree whole g maxDepth limit origin level :=
    answersAgree hg hlevel hdepth
  have hf := host_follows hden hanswers hlevel
  have hrel := hf.act ⟨hs, fun _ _ h => h, Record.Thinned.refl _⟩ hstands pending
  rw [(plainHost_plain log limit level).act_fst, hr] at hrel
  exact ⟨hrel.1, hrel.2.1, hrel.2.2.1⟩

end Session
end InlineMarkup
