import InlineMarkup.Proofs.Invariant
import InlineMarkup.Proofs.Tokenizing

/-!
# When the nesting limit counts

The limit on nesting is asked for where a branch could open, in attempts that fail as well as in
those that succeed, and what was asked for in a failed attempt can decide where the branches around
it end. So the tokens do not tell whether the limit counted. The records do: a scan that makes no
record of the limit goes the same way, and remembers the same, under any higher limit.

* `Scan.Host.Upto` — two hosts that go the same way up to a mark, here a record of the limit.
  `Scan.Host.Upto.walk` says that their loops do so.
* `Session.host_upto` — the hosts of a session at two limits are such hosts.
* `Session.not_limited_scan` — each level takes at least one byte of the text for an opening
  delimiter, so a limit of as many levels as the text has bytes is never met.
* `Tokenizer.run_eq_of_unlimited` — the conclusion for the text of a tokenizer.
-/

namespace InlineMarkup

namespace Record

/-- Is it a record of the nesting limit? -/
def isDepthLimit : Record → Bool
  | depthLimit .. => true
  | _ => false

/-- **A log in which the nesting limit does not occur.** -/
def Unlimited (rs : List Record) : Prop := ∀ r ∈ rs, r.isDepthLimit = false

instance (rs : List Record) : Decidable (Unlimited rs) := List.decidableBAll _ _

end Record

/-! ### Hosts that part at a mark -/

namespace Scan

variable {σ : Type}

/-- **One host goes the way of another up to a mark.** States that are marked stay so. While the
first host leaves its state unmarked, the second one has the same records and the same answers. A
record of the nesting limit is a mark, so that the second host may allow for more levels. -/
structure Host.Upto (h k : Host σ) (level : Level) (Marked : σ → Prop) : Prop where
  record : ∀ r s, k.record r s = h.record r s
  marked : ∀ r s, Marked s → Marked (h.record r s)
  refused : ∀ kind position s, Marked (h.record (.depthLimit kind position level.depth) s)
  answered : ∀ n, h.nested = some n → ∃ m, k.nested = some m ∧ ∀ t position interior s,
    (Marked s → Marked (n t position interior s).2) ∧
      (¬ Marked (n t position interior s).2 → m t position interior s = n t position interior s)

namespace Host.Upto

variable {h k : Host σ} {level : Level} {Marked : σ → Prop} {s : σ}

/-- A mark is kept by the loop of the first host. -/
theorem keeps (hup : h.Upto k level Marked) : h.Keeps level (fun _ _ => True) Marked where
  misfit _ _ hs := hup.marked _ _ hs
  unclosed _ hs := hup.marked _ _ hs
  refused _ _ _ _ _ _ _ _ := hup.refused _ _ _
  answered n hn _ _ _ _ _ _ hs := by
    obtain ⟨m, -, hanswer⟩ := hup.answered n hn
    exact (hanswer _ _ _ _).1 hs
  empty n hn t start position interior s closed s' _ hs hresult _ := by
    obtain ⟨m, -, hanswer⟩ := hup.answered n hn
    have hkept := (hanswer t (position + start.utf8ByteSize) interior s).1 hs
    rw [hresult] at hkept
    exact hup.marked _ _ hkept
  onward _ := trivial
  behind _ _ _ := trivial

theorem records (hup : h.Upto k level Marked) (rs : List Record) (s : σ) :
    rs.foldl (fun s r => k.record r s) s = rs.foldl (fun s r => h.record r s) s := by
  have hrecord : (fun s r => k.record r s) = fun s r => h.record r s := by
    funext s r
    exact hup.record r s
  rw [hrecord]

/-- An attempt that leaves no mark goes the same way. -/
theorem openBranch (hup : h.Upto k level Marked) {t : TokenType} {start : String} {position : Nat}
    {interior : List Char}
    (hclear : ¬ Marked (Scan.openBranch h level t start position interior s).2) :
    Scan.openBranch k level t start position interior s =
      Scan.openBranch h level t start position interior s := by
  unfold Scan.openBranch at hclear ⊢
  by_cases hempty : interior.isEmpty = true
  · rw [if_pos hempty, if_pos hempty]
  rw [if_neg hempty] at hclear
  rw [if_neg hempty, if_neg hempty]
  cases hn : h.nested with
  | none =>
    -- where no further level is allowed the attempt leaves a mark
    rw [hn] at hclear
    exact absurd (hup.refused _ _ _) hclear
  | some n =>
    obtain ⟨m, hm, hanswer⟩ := hup.answered n hn
    obtain ⟨-, hsame⟩ := hanswer t (position + start.utf8ByteSize) interior s
    rw [hn] at hclear
    rw [hm]
    dsimp only at hclear ⊢
    generalize n t (position + start.utf8ByteSize) interior s = x at hclear hsame ⊢
    obtain ⟨answer, s'⟩ := x
    -- what the attempt adds to the answer takes no mark away
    have hclear' : ¬ Marked s' := by
      intro hs'
      cases answer with
      | none => exact hclear hs'
      | some closed =>
        refine hclear ?_
        dsimp only
        split
        · exact hup.marked _ _ hs'
        · exact hs'
    rw [hsame hclear']
    cases answer with
    | none => rfl
    | some closed => simp only [hup.record]

/-- A step that leaves no mark goes the same way. -/
theorem act (hup : h.Upto k level Marked) {position : Nat} {pending : Option Leaf} {c : Char}
    {cs : List Char} {found : Match}
    (hclear : ¬ Marked (Scan.act h level position pending c cs found s).2) :
    Scan.act k level position pending c cs found s =
      Scan.act h level position pending c cs found s := by
  rcases act_cases level pending c cs found with
    ⟨action, hact⟩ | ⟨kind, start, stop, inner, -, -, hact⟩
  · -- decided without the hosts
    rw [hact, hact]
  · rw [hact] at hclear
    rw [hact, hact, hup.openBranch hclear]

/-- **A loop that leaves no mark goes the same way.** -/
theorem walk (hup : h.Upto k level Marked) {coming : List Char} {position : Nat}
    {pending : Option Leaf} (hclear : ¬ Marked (Scan.walk h level coming position 0 pending s).2) :
    Scan.walk k level coming position 0 pending s =
      Scan.walk h level coming position 0 pending s := by
  -- no mark at the end means none at any step, since the first loop keeps its marks
  induction coming using Text.induction_behind generalizing position pending s with
  | nil =>
    rw [walk_nil, walk_nil]
    -- both hosts record the same, if anything
    cases level.closing with
    | none => rfl
    | some b => simp only [hup.record]
  | cons c cs onward behind =>
    rw [walk_cons] at hclear
    rw [walk_cons, walk_cons, hup.records]
    generalize (level.misfits (c :: cs)).foldl (fun s r => h.record r s) s = s₁ at hclear ⊢
    -- a mark that the step leaves would still be there at the end
    have hact : Scan.act k level position pending c cs (level.next (c :: cs)) s₁ =
        Scan.act h level position pending c cs (level.next (c :: cs)) s₁ := by
      refine hup.act fun hmarked => hclear ?_
      generalize Scan.act h level position pending c cs _ s₁ = x at hmarked ⊢
      obtain ⟨action, s₂⟩ := x
      cases action with
      | close => exact hmarked
      | absorb kind => exact hup.keeps.walk trivial _ hmarked
      | emit token n => exact hup.keeps.walk trivial _ hmarked
    rw [hact]
    generalize Scan.act h level position pending c cs _ s₁ = x at hclear ⊢
    obtain ⟨action, s₂⟩ := x
    cases action with
    | close => rfl
    | absorb kind =>
      dsimp only at hclear ⊢
      rw [onward hclear]
    | emit token n =>
      dsimp only at hclear ⊢
      rw [behind _ hclear]

end Host.Upto
end Scan

/-! ### Sessions -/

namespace Session

open Scan

/-- **A session that has met the nesting limit.** -/
def Limited (s : Session) : Prop := ¬ Record.Unlimited s.records.toList

theorem limited_record_iff {s : Session} {r : Record} :
    (s.record r).Limited ↔ s.Limited ∨ r.isDepthLimit = true := by
  simp [Limited, Record.Unlimited, Session.record, or_and_right, exists_or]

/-- **A higher limit changes nothing before the limit is met.** The host of a session goes the way
that it goes under a lower limit until a record of the limit is made. -/
theorem host_upto (limit more origin : Nat) (level : Level) :
    (host limit origin level).Upto (host (limit + more) origin level) level Limited := by
  -- each further level of the first host is one of the second host as well
  induction limit generalizing origin level with
  | zero =>
    -- the first host refuses, and that is a mark
    exact ⟨fun _ _ => rfl, fun _ _ hs => limited_record_iff.mpr (.inl hs),
      fun _ _ _ => limited_record_iff.mpr (.inr rfl), fun _ => nofun⟩
  | succ l ih =>
    refine ⟨fun _ _ => rfl, fun _ _ hs => limited_record_iff.mpr (.inl hs),
      fun _ _ _ => limited_record_iff.mpr (.inr rfl), ?_⟩
    rintro n ⟨⟩
    rw [Nat.add_right_comm l 1 more]
    refine ⟨_, rfl, ?_⟩
    intro t position interior s
    -- what is remembered is the same, and a scan that is run goes the same way
    unfold nested
    obtain ⟨-, hrecords, -⟩ := enter_frame origin t s
    generalize enter origin t s = entered at hrecords ⊢
    obtain ⟨origin', s₁⟩ := entered
    have hlimited : s.Limited ↔ s₁.Limited := by rw [Limited, Limited, ← hrecords]
    rw [hlimited]
    dsimp only
    cases s₁.outcomes[(⟨position, origin', t.kind, level.depth + 1⟩ : Attempt)]? with
    | some x =>
      -- remembered by both, the memory being the same
      exact ⟨id, fun _ => rfl⟩
    | none =>
      -- run by both, which go the same way one level deeper
      have hup := ih origin' (level.inside t)
      simp only [scan_eq_walk]
      refine ⟨fun hs => hup.keeps.walk trivial none hs, fun hclear => ?_⟩
      rw [hup.walk hclear]

/-- The records of an answer are those made before, if the outcome is remembered, or else those of
the nested scan. -/
theorem nested_records (limit origin : Nat) (level : Level) (t : TokenType) (position : Nat)
    (interior : List Char) (s : Session) :
    (nested limit origin level t position interior s).2.records = s.records ∨
      ∃ origin' s₁, s₁.records = s.records ∧
        (nested limit origin level t position interior s).2.records =
          (scan limit origin' (level.inside t) position interior s₁).2.records := by
  unfold nested
  obtain ⟨-, hrecords, -⟩ := enter_frame origin t s
  generalize enter origin t s = entered at hrecords ⊢
  obtain ⟨origin', s₁⟩ := entered
  dsimp only
  cases s₁.outcomes[(⟨position, origin', t.kind, level.depth + 1⟩ : Attempt)]? with
  | some x => exact .inl hrecords
  | none => exact .inr ⟨origin', s₁, hrecords, rfl⟩

/-- The nested scan of a branch that is tried in a text is of a shorter text. -/
theorem byteLength_lt_of_tried {level : Level} (hlevel : level.Proper) {text : List Char}
    {t : TokenType} {start : String} {position : Nat} {interior : List Char}
    (h : Tried level (fun _ coming => coming <:+ text) t start position interior) :
    Text.byteLength interior < Text.byteLength text := by
  obtain ⟨front, hfront⟩ := h.place
  have hstart := h.start_ne_empty hlevel
  have hpos : 0 < Text.byteLength start.toList := Text.byteLength_pos (by simpa using hstart)
  rw [← hfront, Text.byteLength_append, Text.byteLength_append]
  omega

/-- A loop over a text with no more bytes than further levels are allowed does not meet the limit,
if the nested scans do not that it asks for. -/
theorem host_keeps_unlimited {limit origin : Nat} {level : Level} (hlevel : level.Proper)
    {text : List Char} (hroom : Text.byteLength text ≤ limit)
    (hscan : ∀ l, limit = l + 1 → ∀ {origin : Nat} {level : Level}, level.Proper →
      ∀ {text : List Char}, Text.byteLength text ≤ l → ∀ {position : Nat} {s : Session},
      ¬ s.Limited → ¬ (scan l origin level position text s).2.Limited) :
    (host limit origin level).Keeps level (fun _ coming => coming <:+ text)
      fun s => ¬ s.Limited := by
  have hrecord : ∀ {s : Session} {r : Record}, r.isDepthLimit = false → ¬ s.Limited →
      -- records of other kinds do not matter
      ¬ (s.record r).Limited := by
    intro s r hr hs
    rw [limited_record_iff, hr]
    simpa using hs
  have hanswered : ∀ n, (host limit origin level).nested = some n →
      ∀ {t : TokenType} {start : String} {position : Nat} {interior : List Char} {s : Session},
      Tried level (fun _ coming => coming <:+ text) t start position interior → ¬ s.Limited →
      ¬ (n t (position + start.utf8ByteSize) interior s).2.Limited := by
    intro n hn t start position interior s htried hs
    -- the nested scan is of a shorter text, and a text that short is within one level less
    cases limit with
    | zero => cases hn
    | succ l =>
      cases hn
      have hshort := byteLength_lt_of_tried hlevel htried
      have hbranch : t.isLeaf = false := htried.isLeaf_eq_false
      rcases nested_records l origin level t (position + start.utf8ByteSize) interior s with
        hrecords | ⟨origin', s₁, hbefore, hrecords⟩
      · -- from memory: no records are made
        rwa [Limited, hrecords]
      · -- run: the records are those of the nested scan
        rw [Limited, hrecords]
        refine hscan l rfl (hlevel.inside htried.mem hbranch) (by omega) ?_
        rwa [Limited, hbefore]
  refine ⟨?_, ?_, ?_, hanswered, ?_, ?_, ?_⟩
  · -- a misfit
    intro position coming r s _ hr hs
    obtain ⟨t, -, n, -, rfl⟩ := Level.mem_misfits hr
    exact hrecord rfl hs
  · -- the text ends inside of the branch
    intro b s _ hs
    exact hrecord rfl hs
  · -- no further level is allowed, so there is no text to try a branch in
    intro hnone t start position interior s htried _
    have hshort := byteLength_lt_of_tried hlevel htried
    cases limit with
    | zero => omega
    | succ l => cases hnone
  · -- the branch is empty
    intro n hn t start position interior s closed s' htried hs hresult _
    have hkept := hanswered n hn htried hs
    rw [hresult] at hkept
    exact hrecord rfl hkept
  · -- what comes behind a character or a token is still an end of the text
    intro position c cs hplace
    exact (List.suffix_cons c cs).trans hplace
  · intro position pending c cs s token n s' hplace _ _
    exact ((Text.dropBytes_suffix _ cs).trans (List.suffix_cons c cs)).trans hplace

/-- **A limit of as many levels as the text has bytes is not met.** Each level takes at least one
byte for an opening delimiter. -/
theorem not_limited_scan {limit origin : Nat} {level : Level} (hlevel : level.Proper)
    {text : List Char} (hroom : Text.byteLength text ≤ limit) {position : Nat} {s : Session}
    (hs : ¬ s.Limited) : ¬ (scan limit origin level position text s).2.Limited := by
  induction limit generalizing origin level text position s with
  | zero =>
    rw [scan_eq_walk]
    refine (host_keeps_unlimited hlevel hroom ?_).walk List.suffix_rfl none hs
    exact fun _ => nofun
  | succ l ih =>
    rw [scan_eq_walk]
    refine (host_keeps_unlimited hlevel hroom ?_).walk List.suffix_rfl none hs
    rintro l ⟨⟩ origin level hlevel text hroom position s hs
    exact ih hlevel hroom hs

end Session

/-! ### Texts -/

namespace Tokenizer

/-- Whether the limit is met can be seen in the plain run, which repeats records only. -/
theorem unlimited_run_iff {t : Tokenizer} (hg : t.grammar.Valid) {text : String} :
    Record.Unlimited (t.run text).2 ↔ Record.Unlimited (t.plainRun text).2 := by
  simp only [Record.Unlimited, (run_thinned hg text).mem_iff]

/-- A limit that is not met can be raised. -/
theorem run_eq_of_le {g : Grammar} {maxDepth more : Nat} (hle : maxDepth ≤ more) {text : String}
    (hclear : Record.Unlimited ((⟨g, maxDepth⟩ : Tokenizer).run text).2) :
    (⟨g, more⟩ : Tokenizer).run text = (⟨g, maxDepth⟩ : Tokenizer).run text := by
  obtain ⟨extra, rfl⟩ := Nat.exists_eq_add_of_le hle
  -- the two sessions begin alike, and no mark is left
  have hup := Session.host_upto maxDepth extra 0 (.top g)
  have hsame : Session.scan (maxDepth + extra) 0 (.top g) 0 text.toList .empty =
      Session.scan maxDepth 0 (.top g) 0 text.toList .empty := by
    rw [Session.scan_eq_walk, Session.scan_eq_walk]
    refine hup.walk ?_
    rw [← Session.scan_eq_walk, Session.Limited, not_not]
    exact hclear
  unfold run
  dsimp only
  rw [hsame]

/-- **The nesting limit counts only where it is met.** If a tokenizer with a valid grammar reads a
text without a record of the limit, then under any higher limit the text has the same tokens and the
same records, in the same order. A limit of at least as many levels as the text has bytes is never
met. -/
theorem run_eq_of_unlimited {g : Grammar} (hg : g.Valid) (text : String) (maxDepth : Nat) :
    (Record.Unlimited ((⟨g, maxDepth⟩ : Tokenizer).run text).2 → ∀ more, maxDepth ≤ more →
        (⟨g, more⟩ : Tokenizer).run text = (⟨g, maxDepth⟩ : Tokenizer).run text) ∧
      (text.utf8ByteSize ≤ maxDepth →
        Record.Unlimited ((⟨g, maxDepth⟩ : Tokenizer).run text).2) := by
  refine ⟨fun hclear more hle => run_eq_of_le hle hclear, fun hroom => ?_⟩
  have hempty : ¬ Session.empty.Limited := not_not.mpr (List.forall_mem_nil _)
  rw [← Text.byteLength_toList] at hroom
  have hclear : ¬ (Session.scan maxDepth 0 (.top g) 0 text.toList .empty).2.Limited :=
    Session.not_limited_scan (Level.proper_top hg) hroom hempty
  exact not_not.mp hclear

/-- The strike mark stands as deep as a limit of three levels allows, and in front of the italic
mark nothing is left to scan, so the limit is not met; one level less is not enough. -/
theorem run_eq_of_unlimited_strike :
    let records := fun maxDepth => ((⟨Grammar.stock, maxDepth⟩ : Tokenizer).run "*_~a_").2
    Grammar.stock.Valid ∧ Record.Unlimited (records 3) ∧ ¬ Record.Unlimited (records 2) ∧
      (⟨Grammar.stock, 7⟩ : Tokenizer).run "*_~a_" =
        (⟨Grammar.stock, 3⟩ : Tokenizer).run "*_~a_" ∧
      Record.Unlimited (records 5) := by
  intro records
  have hg := Grammar.valid_stock
  have hclear : Record.Unlimited (records 3) := by
    rw [unlimited_run_iff hg]
    decide +kernel
  have hmet : ¬ Record.Unlimited (records 2) := by
    rw [unlimited_run_iff hg]
    decide +kernel
  exact ⟨hg, hclear, hmet, (run_eq_of_unlimited hg "*_~a_" 3).1 hclear 7 (by decide),
    (run_eq_of_unlimited hg "*_~a_" 5).2 (by decide)⟩

end Tokenizer
end InlineMarkup
