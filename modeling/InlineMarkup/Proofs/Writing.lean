import InlineMarkup.Source
import InlineMarkup.Proofs.RuleList

/-!
# Writing with the rules of a level

A scan takes branches from the rules of its level, while a `Writer` looks kinds up in a stack of
scopes. The two agree: if a writer *knows* the rules of a level, which is to say that it finds each
of them under its kind (`Writer.Knows`), then it knows the rules inside each branch of that level as
soon as it has entered the branch (`Writer.Knows.enter`). The innermost scope then is the grammar of
the branch, which does not declare the branch's own kind again; that kind is found where it was.

A writer that knows the branches it writes only adds text, so what it does to a forest is a matter
of one string; `Writer.Knows.write_branch` is the step from the interior of a branch to the branch.
-/

namespace InlineMarkup

/-- **In a rule list the first type of a kind** is the only one. -/
theorem Grammar.IsRuleList.own?_eq_some {rules : Grammar} (h : rules.IsRuleList) {t : TokenType}
    (ht : t ∈ rules) :
    rules.own? t.kind = some t :=
  (Grammar.own?_eq_some_iff h.distinct).mpr ⟨ht, rfl⟩

namespace Writer

variable {w : Writer}

/-! ### Adding text -/

theorem put_empty (w : Writer) : w.put "" = w := by
  unfold put
  rw [String.append_empty]

theorem put_put (w : Writer) (a b : String) : (w.put a).put b = w.put (a ++ b) := by
  unfold put
  rw [String.append_assoc]

/-- Text added inside a scope stays when the scope is closed. -/
theorem leave_put_enter (w : Writer) (inner : Option Grammar) (text : String) :
    ((w.enter inner).put text).leave inner = w.put text := by
  cases inner <;> rfl

theorem writeAll_append (w : Writer) (xs ys : List Token) :
    w.writeAll (xs ++ ys) = (w.writeAll xs).writeAll ys := by
  induction xs generalizing w with
  | nil => rw [List.nil_append, writeAll]
  | cons x xs ih => rw [List.cons_append, writeAll, writeAll, ih]

theorem writeAll_cons (w : Writer) (t : Token) (ts : List Token) :
    w.writeAll (t :: ts) = (w.write t).writeAll ts := by
  rw [writeAll]

/-! ### Scopes -/

/-- A scope that is closed leaves those that were there when it was opened. -/
theorem leave_scopes {w v : Writer} {inner : Option Grammar}
    (h : v.scopes = (w.enter inner).scopes) : (v.leave inner).scopes = w.scopes := by
  cases inner with
  | none => exact h
  | some g =>
    rw [leave, h]
    rfl

mutual

/-- **Writing leaves the scopes as they are:** the scope of a branch is closed behind it. -/
theorem write_scopes (w : Writer) : (t : Token) → (w.write t).scopes = w.scopes
  | .leaf _ _ => by rw [write, put]
  | .branch kind children => by
    rw [write]
    cases w.lookup? kind with
    | none => exact writeAll_scopes _ children
    | some t => exact leave_scopes (w := w.put (t.start?.getD "")) (writeAll_scopes _ children)

/-- Writing a forest leaves the scopes as they are. -/
theorem writeAll_scopes (w : Writer) : (ts : List Token) → (w.writeAll ts).scopes = w.scopes
  | [] => by rw [writeAll]
  | t :: ts => by rw [writeAll, writeAll_scopes, write_scopes]

end

/-! ### Known rules -/

/-- **The writer knows the rules.** Under the kind of each of them it finds that rule, in the
innermost scope that declares the kind. -/
def Knows (w : Writer) (rules : Grammar) : Prop :=
  ∀ t ∈ rules, (w.scopes.findSome? fun g => g.own? t.kind) = some t

/-- At the start the grammar of the whole text is known. -/
theorem knows_start {g : Grammar} (h : g.IsRuleList) : (start g).Knows g := by
  intro t ht
  rw [start, List.findSome?_cons, h.own?_eq_some ht]

namespace Knows

variable {rules : Grammar} {t : TokenType}

theorem put (h : w.Knows rules) (text : String) : (w.put text).Knows rules := h

/-- What is known stays known while a forest is written. -/
theorem writeAll (h : w.Knows rules) (ts : List Token) : (w.writeAll ts).Knows rules := by
  intro t ht
  rw [writeAll_scopes]
  exact h t ht

theorem lookup? (h : w.Knows rules) (ht : t ∈ rules) : w.lookup? t.kind = some t := by
  unfold Writer.lookup?
  rw [h t ht]
  rfl

/-- **Inside a branch its rules are known,** once the scope of its own grammar is open. -/
theorem enter {level : Level} (h : w.Knows level.rules) (hrules : level.rules.IsRuleList)
    (ht : t ∈ level.rules) : (w.enter t.inner?).Knows (level.rulesInside t) := by
  unfold Level.rulesInside
  cases hinner : t.inner? with
  | none => exact h
  | some g =>
    intro u hu
    rw [Writer.enter, List.findSome?_cons]
    rcases List.mem_cons.mp hu with rfl | hu
    · -- the branch itself is not declared by its grammar, so it is found further out
      have hnone : g.own? u.kind = none := by
        rw [Grammar.own?, List.find?_eq_none]
        intro v hv
        simpa using hrules.kind_ne_of_mem_inner ht hinner hv
      rw [hnone]
      exact h u ht
    · have hg : g.IsRuleList := (hrules.valid_inside t ht g hinner).isRuleList
      rw [hg.own?_eq_some hu]

/-- **A known branch is written between its delimiters,** if its interior, in its scope, is written
as text. -/
theorem write_branch (h : w.Knows rules) {kind start stop : String} {inner : Option Grammar}
    (ht : .branch kind start stop inner ∈ rules) {children : List Token} {text : String}
    (hinside : ((w.put start).enter inner).writeAll children =
      ((w.put start).enter inner).put text) :
    w.write (.branch kind children) = w.put (start ++ text ++ stop) := by
  have hfound : w.lookup? kind = some (.branch kind start stop inner) := h.lookup? ht
  rw [write, hfound]
  dsimp only [TokenType.start?, TokenType.stop?, TokenType.inner?, Option.getD_some]
  rw [hinside, leave_put_enter, put_put, put_put, String.append_assoc]

end Knows
end Writer
end InlineMarkup
