/-!
# Records

Some decisions leave no trace in a result: a branch that was not opened is plain text, and so is
one that was never an option. A `Record` tells of such a decision. Operations that make them
return the records in the order the decisions fell.
-/

namespace InlineMarkup

/-- How much a record matters. -/
inductive Severity where
  | trace
  | debug
  | warn
  deriving DecidableEq

/-- The word for a severity. -/
def Severity.name : Severity → String
  | trace => "trace"
  | debug => "debug"
  | warn => "warn"

/-- **One decision worth telling.** Positions and lengths count bytes. -/
inductive Record where
  /-- A nested scan ran out of text at its own depth before its closing delimiter. -/
  | unclosed (kind : String) (depth : Nat)
  /-- A branch whose opening delimiter stands at `position` closed without any token inside. -/
  | emptyBranch (kind : String) (position : Nat)
  /-- A branch at `position` was not tried, the nesting being at its limit. -/
  | depthLimit (kind : String) (position limit : Nat)
  /-- A constraint measured more than the remaining text holds, or a part of a character. -/
  | misfit (kind : String) (length remaining : Nat)
  /-- A branch was written without delimiters, its kind not being declared. -/
  | undeclaredBranch (kind : String)
  /-- All entries of a configuration were turned into types. -/
  | typesBuilt (count : Nat)
  deriving DecidableEq

namespace Record

/-- The severity of a record. -/
def severity : Record → Severity
  | unclosed .. | emptyBranch .. => .trace
  | depthLimit .. | typesBuilt .. => .debug
  | misfit .. | undeclaredBranch .. => .warn

/-- The wording of a record. -/
def message : Record → String
  | unclosed kind depth => s!"`{kind}` not closed before end of input at depth {depth}"
  | emptyBranch kind position => s!"dropping empty `{kind}` at byte {position}"
  | depthLimit kind position limit =>
    s!"not opening `{kind}` at byte {position}: nesting limit {limit} reached"
  | misfit kind length remaining =>
    s!"constraint for `{kind}` reported length {length} which does not fit the remaining " ++
      s!"{remaining} bytes"
  | undeclaredBranch kind => s!"no branch type `{kind}` in grammar, writing children only"
  | typesBuilt count => s!"built grammar with {count} token types"

/-- A record on one line: its severity, then its wording. -/
def line (r : Record) : String :=
  r.severity.name ++ " " ++ r.message

end Record
end InlineMarkup
