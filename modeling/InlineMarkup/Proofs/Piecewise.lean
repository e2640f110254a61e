import InlineMarkup.Proofs.Writing

/-!
# Writing piece by piece

What a writer adds does not depend on what it has written before. It depends on the scopes alone,
and these are the same behind a token as in front of it. So a forest may be written in pieces, down
to its single tokens, each by a writer of its own, and the pieces be put one behind the other.

* `Writer.behind` — the writings of two writers, one behind the other.
* `Writer.writeAll_behind` — **the frame.** A forest written behind something is the same forest
  written by itself, behind it. Grammars and tokens may be of any kind: branches that are not
  declared, or are declared as leaves, and empty ones too.
* `Grammar.written_append` — two forests in a row.
-/

namespace InlineMarkup

namespace Writer

variable {w v : Writer}

/-! ### One writing behind another -/

/-- **One writing behind another.** What `v` has written comes behind what `w` has, and `v` goes on
in its own scopes. -/
def behind (w v : Writer) : Writer := ⟨v.scopes, w.text ++ v.text, w.records ++ v.records⟩

/-- The scopes of a writer with nothing written in them. -/
def afresh (w : Writer) : Writer := ⟨w.scopes, "", #[]⟩

theorem behind_afresh (w : Writer) : w.behind w.afresh = w := by
  unfold behind afresh
  rw [String.append_empty, Array.append_empty]

/-- What a kind stands for is a matter of the scopes. -/
theorem lookup?_behind (w v : Writer) (kind : String) :
    (w.behind v).lookup? kind = v.lookup? kind := rfl

theorem put_behind (w v : Writer) (text : String) :
    (w.behind v).put text = w.behind (v.put text) := by
  unfold behind put
  rw [String.append_assoc]

theorem enter_behind (w v : Writer) (inner : Option Grammar) :
    (w.behind v).enter inner = w.behind (v.enter inner) := by
  cases inner <;> rfl

theorem leave_behind (w v : Writer) (inner : Option Grammar) :
    (w.behind v).leave inner = w.behind (v.leave inner) := by
  cases inner <;> rfl

/-! ### The frame -/

mutual

/-- A token written behind something is the same token written by itself, behind it. -/
theorem write_behind (w v : Writer) :
    (t : Token) → (w.behind v).write t = w.behind (v.write t)
  | .leaf kind text => by
    rw [write, write]
    exact put_behind w v text
  | .branch kind children => by
    rw [write, write, lookup?_behind]
    cases v.lookup? kind with
    | none =>
      -- the record of the branch is made behind the others
      have hnoted : ({ w.behind v with
            records := (w.behind v).records.push (.undeclaredBranch kind) } : Writer) =
          w.behind { v with records := v.records.push (.undeclaredBranch kind) } := by
        unfold behind
        simp only [Array.append_push]
      dsimp only
      rw [hnoted, writeAll_behind]
    | some t =>
      dsimp only
      rw [put_behind, enter_behind, writeAll_behind, leave_behind, put_behind]

/-- **The frame.** A forest written behind something is the same forest written by itself, behind
it. -/
theorem writeAll_behind (w v : Writer) :
    (ts : List Token) → (w.behind v).writeAll ts = w.behind (v.writeAll ts)
  | [] => by rw [writeAll, writeAll]
  | t :: ts => by rw [writeAll, writeAll, write_behind, writeAll_behind]

end

/-- **What is added depends on the scopes alone.** -/
theorem writeAll_eq_behind (w : Writer) (ts : List Token) :
    w.writeAll ts = w.behind (w.afresh.writeAll ts) :=
  calc w.writeAll ts
    _ = (w.behind w.afresh).writeAll ts := by rw [behind_afresh]
    _ = w.behind (w.afresh.writeAll ts) := writeAll_behind w w.afresh ts

end Writer

/-! ### Forests -/

namespace Grammar

/-- Behind a forest the scopes are those of the beginning. -/
theorem afresh_written (g : Grammar) (ts : List Token) :
    (g.written ts).afresh = Writer.start g := by
  unfold Writer.afresh written
  rw [Writer.writeAll_scopes]
  rfl

/-- **Two forests in a row** are written one behind the other. -/
theorem written_append (g : Grammar) (ts us : List Token) :
    g.written (ts ++ us) = (g.written ts).behind (g.written us) :=
  calc g.written (ts ++ us)
    _ = (g.written ts).writeAll us := Writer.writeAll_append _ ts us
    _ = (g.written ts).behind ((g.written ts).afresh.writeAll us) :=
        Writer.writeAll_eq_behind _ us
    _ = (g.written ts).behind (g.written us) := by rw [afresh_written]; rfl

/-- The first token of a forest, and the others behind it. -/
theorem written_cons (g : Grammar) (t : Token) (ts : List Token) :
    g.written (t :: ts) = ((Writer.start g).write t).behind (g.written ts) := by
  have hone : g.written [t] = (Writer.start g).write t := by
    rw [written, Writer.writeAll, Writer.writeAll]
  rw [← hone, ← written_append, List.singleton_append]

/-- The text of a forest is that of its tokens, each written by itself. -/
theorem source_eq_join (g : Grammar) (ts : List Token) :
    g.source ts = String.join (ts.map fun t => ((Writer.start g).write t).text) := by
  induction ts with
  | nil => rfl
  | cons t ts ih =>
    unfold source at ih ⊢
    rw [written_cons, List.map_cons, String.join_cons, ← ih]
    rfl

/-- The records made of a forest are those made of its tokens, each written by itself. -/
theorem records_eq_flatMap (g : Grammar) (ts : List Token) :
    (g.written ts).records.toList =
      ts.flatMap fun t => ((Writer.start g).write t).records.toList := by
  induction ts with
  | nil => rfl
  | cons t ts ih =>
    rw [written_cons, List.flatMap_cons, ← ih, Writer.behind, Array.toList_append]

/-- **Writing is compositional.** With any grammar and whatever the tokens are, no token leaves a
scope open or closes one that it has not opened. So the text of two forests in a row, and the
records made of them, are those of the first with those of the second behind them; and the text of a
forest and its records are those of its single tokens, in order. -/
theorem written_piecewise (g : Grammar) (ts us : List Token) :
    (∀ (w : Writer) (t : Token), (w.write t).scopes = w.scopes) ∧
      g.source (ts ++ us) = g.source ts ++ g.source us ∧
      (g.written (ts ++ us)).records = (g.written ts).records ++ (g.written us).records ∧
      g.source ts = String.join (ts.map fun t => ((Writer.start g).write t).text) ∧
      (g.written ts).records.toList =
        ts.flatMap fun t => ((Writer.start g).write t).records.toList := by
  have happend := written_append g ts us
  refine ⟨Writer.write_scopes, ?_, ?_, source_eq_join g ts, records_eq_flatMap g ts⟩
  · show (g.written (ts ++ us)).text = (g.written ts).text ++ (g.written us).text
    rw [happend]
    rfl
  · rw [happend]
    rfl

/-- A branch of a kind declared nowhere leaves a record and closes no scope: the mark behind it is
still that of the box, and outside it is that of the whole text. -/
example :
    let inner : Grammar := [.surround "em" "__", .delimited "quote" "<" ">"]
    let g : Grammar := [.surround "em" "_", (TokenType.delimited "box" "[" "]").withGrammar inner]
    let em : Token := .branch "em" [.word "a"]
    let ts : List Token := [.branch "box" [.branch "gone" [.branch "quote" []], em], em]
    g.source ts = "[<>__a__]_a_" ∧ (g.written ts).records = #[.undeclaredBranch "gone"] := by
  decide +kernel

end Grammar
end InlineMarkup
