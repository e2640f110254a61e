import InlineMarkup.Json.Forest
import InlineMarkup.Proofs.Json.Shape
import InlineMarkup.Proofs.Result

/-!
# The texts that are accepted as forests

`Forest.ofText` reads field by field and stops at the first fault. What it accepts is said here
without that order: the texts of the values that denote a forest, not too deeply nested, and the
forest that they denote.

* `readFields_eq_ok_iff` — an object is accepted if its names are known and distinct and each of its
  fields can be read; what has been gathered then makes up the token.
* `readToken_toJson` — the token that a value denotes is the one it is read as.
* `ofText_eq_ok_iff` — what comes to a text from this and from `Value.Document.ofText`.
* `ofText_accepts` — **acceptance** as a whole, and that it is blind to rearranging.
-/

namespace InlineMarkup.Json.Forest

/-! ### Endings -/

theorem closed_eq_ok {ending : Option Fault} {u : Unit} :
    closed ending = .ok u ↔ ending = none := by
  cases ending with
  | none => exact ⟨fun _ => rfl, fun _ => rfl⟩
  | some fault => exact ⟨by rintro ⟨⟩, by rintro ⟨⟩⟩

/-! ### Single fields -/

theorem readString_toJson {v : Value} {s : String} :
    readString v.toJson = .ok s ↔ v = .string (some s) := by
  cases v with
  | string t => cases t <;> simp [Value.toJson, readString]
  | number n => cases hn : n.value? <;> simp [Value.toJson, hn, readString]
  | _ => simp [Value.toJson, readString]

theorem readText_toJson {v : Value} {x : Option String} :
    readText v.toJson = .ok x ↔ v = .null ∧ x = none ∨ ∃ s, v = .string (some s) ∧ x = some s := by
  by_cases hnull : v = .null
  · subst hnull
    simp [Value.toJson, readText, eq_comm]
  · -- anything but null has to be a string
    have hread : readText v.toJson = (readString v.toJson).map some := by
      cases v with
      | null => exact absurd rfl hnull
      | number n => cases hn : n.value? <;> simp [Value.toJson, hn, readText]
      | string s => cases s <;> rfl
      | _ => simp [Value.toJson, readText]
    simp only [hread, map_eq_ok, readString_toJson, hnull, false_and, false_or, eq_comm (a := x)]

theorem readChildren_toJson {v : Value} {x : Option (List Token)} :
    readChildren v.toJson = .ok x ↔ v = .null ∧ x = none ∨
      ∃ items ts, v = .array items ∧ readItems none (Value.itemsToJson items) = .ok ts ∧
        x = some ts := by
  cases v with
  | null => simp [Value.toJson, readChildren, eq_comm]
  | array items => simp [Value.toJson, readChildren, map_eq_ok, eq_comm (a := x)]
  | number n => cases hn : n.value? <;> simp [Value.toJson, hn, readChildren]
  | string s => cases s <;> simp [Value.toJson, readChildren]
  | _ => simp [Value.toJson, readChildren]

/-- The only tokens that are made are filled ones with one payload. -/
theorem assemble_eq_ok {kind : String} {text : Option String} {children : Option (List Token)}
    {t : Token} :
    assemble kind text children = .ok t ↔
      (∃ s, text = some s ∧ children = none ∧ s ≠ "" ∧ t = .leaf kind s) ∨
        ∃ ts, text = none ∧ children = some ts ∧ ts ≠ [] ∧ t = .branch kind ts := by
  -- each of the two is missing or there; the text may be empty, and so may the children
  rcases text with _ | s <;> rcases children with _ | ⟨_ | ⟨u, us⟩⟩
  · simp [assemble]
  · simp [assemble]
  · simp [assemble, eq_comm]
  · by_cases hs : s = "" <;> simp [assemble, hs, eq_comm]
  · simp [assemble]
  · simp [assemble]

/-! ### The fields of an object -/

/-- What is kept of a field. -/
def Field.Entry : Field → Type
  | .type => String
  | .text => Option String
  | .children => Option (List Token)

/-- The reading of a field. -/
def readEntry : (f : Field) → Json → Except ReadError f.Entry
  | .type => readString
  | .text => readText
  | .children => readChildren

namespace Seen

/-- What has been met under a field. -/
def get (seen : Seen) : (f : Field) → Option f.Entry
  | .type => seen.type
  | .text => seen.text
  | .children => seen.children

/-- The fields met when one more is. -/
def put (seen : Seen) : (f : Field) → f.Entry → Seen
  | .type, x => { seen with type := some x }
  | .text, x => { seen with text := some x }
  | .children, x => { seen with children := some x }

theorem get_put_self (seen : Seen) (f : Field) (x : f.Entry) : (seen.put f x).get f = some x := by
  cases f <;> rfl

theorem get_put_of_ne (seen : Seen) {f g : Field} (h : g ≠ f) (x : f.Entry) :
    (seen.put f x).get g = seen.get g := by
  cases f <;> cases g <;> first | rfl | exact absurd rfl h

theorem has_eq (seen : Seen) (f : Field) : seen.has f = (seen.get f).isSome := by
  cases f <;> rfl

theorem ext_get {seen seen' : Seen} (h : ∀ f, seen.get f = seen'.get f) : seen = seen' := by
  cases seen
  cases seen'
  have htype := h .type
  have htext := h .text
  have hchildren := h .children
  simp only [get] at htype htext hchildren
  rw [htype, htext, hchildren]

end Seen

theorem Field.name_injective {f g : Field} (h : f.name = g.name) : f = g := by
  cases f <;> cases g <;> first | rfl | exact absurd h (by decide)

theorem Field.named?_eq_some {name : Option String} {f : Field} :
    Field.named? (name.getD "") = some f ↔ name = some f.name := by
  constructor
  · intro h
    -- no field is named by the empty string that stands for a missing name
    have hname : f.name = name.getD "" := by simpa using List.find?_some h
    cases name with
    | none => cases f <;> simp [Field.name] at hname
    | some name => exact congrArg some hname.symm
  · rintro rfl
    cases f <;> rfl

/-- One more field of an object. -/
theorem readFields_cons (ending : Option Fault) (seen : Seen) (name : String) (j : Json)
    (fields : List (String × Json)) :
    readFields ending seen ((name, j) :: fields) =
      match Field.named? name with
      | none => .error (.shape (.unknownField name))
      | some f =>
        if seen.has f then .error (.shape (.duplicateField f))
        else readEntry f j >>= fun x => readFields ending (seen.put f x) fields := by
  rw [readFields]
  cases Field.named? name with
  | none => rfl
  | some f => cases f <;> rfl

/-- **What has been gathered** when all members have been met, those `seen` being met before: each
member has a name of its own, and has been read. -/
structure Gathered (seen : Seen) (ms : List (Option String × Value)) (all : Seen) : Prop where
  known : ∀ m ∈ ms, ∃ f : Field, m.1 = some f.name
  distinct : (ms.map Prod.fst).Nodup
  fresh : ∀ f, seen.has f = true → ∀ m ∈ ms, m.1 ≠ some f.name
  met : ∀ f v, (some f.name, v) ∈ ms → ∃ x, readEntry f v.toJson = .ok x ∧ all.get f = some x
  kept : ∀ f, (∀ m ∈ ms, m.1 ≠ some f.name) → all.get f = seen.get f

theorem gathered_nil_iff {seen all : Seen} : Gathered seen [] all ↔ all = seen := by
  refine ⟨fun h => Seen.ext_get fun f => h.kept f (List.forall_mem_nil _), ?_⟩
  rintro rfl
  exact ⟨List.forall_mem_nil _, List.nodup_nil, fun _ _ => List.forall_mem_nil _,
    fun _ _ hmem => absurd hmem List.not_mem_nil, fun _ _ => rfl⟩

theorem Gathered.cons {seen all : Seen} {f : Field} {v : Value} {x : f.Entry}
    {ms : List (Option String × Value)} (hfresh : seen.has f = false)
    (hread : readEntry f v.toJson = .ok x) (h : Gathered (seen.put f x) ms all) :
    Gathered seen ((some f.name, v) :: ms) all := by
  -- the field has been met now, so that no other member has its name
  have habsent : ∀ m ∈ ms, m.1 ≠ some f.name := by
    refine h.fresh f ?_
    rw [Seen.has_eq, Seen.get_put_self, Option.isSome_some]
  refine ⟨List.forall_mem_cons.mpr ⟨⟨f, rfl⟩, h.known⟩, List.nodup_cons.mpr ⟨?_, h.distinct⟩,
    ?_, ?_, ?_⟩
  · -- no second member has the name
    intro hmem
    obtain ⟨m, hm, hname⟩ := List.mem_map.mp hmem
    exact habsent m hm hname
  · -- a field that was met before is another one, and it is not met again
    intro g hg
    have hne : g ≠ f := by
      rintro rfl
      rw [hfresh] at hg
      cases hg
    refine List.forall_mem_cons.mpr ⟨?_, h.fresh g ?_⟩
    · exact fun hname => hne (Field.name_injective (Option.some.inj hname)).symm
    · rwa [Seen.has_eq, Seen.get_put_of_ne seen hne, ← Seen.has_eq]
  · -- what was read first is kept, for its field is not met again
    intro g w hmem
    rcases List.mem_cons.mp hmem with heq | hmem
    · obtain ⟨hname, rfl⟩ := Prod.mk.inj heq
      obtain rfl := Field.name_injective (Option.some.inj hname)
      exact ⟨x, hread, (h.kept g habsent).trans (seen.get_put_self g x)⟩
    · exact h.met g w hmem
  · -- a field that is not met keeps what it has
    intro g hg
    obtain ⟨hname, hg⟩ := List.forall_mem_cons.mp hg
    have hne : g ≠ f := by
      rintro rfl
      exact hname rfl
    exact (h.kept g hg).trans (seen.get_put_of_ne hne x)

theorem Gathered.of_cons {seen all : Seen} {f : Field} {v : Value}
    {ms : List (Option String × Value)} (h : Gathered seen ((some f.name, v) :: ms) all) :
    seen.has f = false ∧
      ∃ x, readEntry f v.toJson = .ok x ∧ Gathered (seen.put f x) ms all := by
  -- the first member has been read, and no other one has its name
  obtain ⟨x, hread, hget⟩ := h.met f v List.mem_cons_self
  obtain ⟨hmem, hdistinct⟩ := List.nodup_cons.mp h.distinct
  have habsent : ∀ m ∈ ms, m.1 ≠ some f.name :=
    fun m hm hname => hmem (List.mem_map.mpr ⟨m, hm, hname⟩)
  refine ⟨?_, x, hread, (List.forall_mem_cons.mp h.known).2, hdistinct, ?_, ?_, ?_⟩
  · refine Bool.eq_false_iff.mpr ?_
    exact fun hhas => h.fresh f hhas _ List.mem_cons_self rfl
  · intro g hg
    -- the field just met, or one from before
    by_cases hgf : g = f
    · subst hgf
      exact habsent
    · rw [Seen.has_eq, Seen.get_put_of_ne seen hgf, ← Seen.has_eq] at hg
      exact (List.forall_mem_cons.mp (h.fresh g hg)).2
  · exact fun g w hw => h.met g w (List.mem_cons_of_mem _ hw)
  · intro g hg
    -- the field just met holds what was read of it, and keeps it
    by_cases hgf : g = f
    · subst hgf
      rw [hget, Seen.get_put_self]
    · rw [Seen.get_put_of_ne seen hgf]
      refine h.kept g (List.forall_mem_cons.mpr ⟨?_, hg⟩)
      exact fun hname => hgf (Field.name_injective (Option.some.inj hname)).symm

/-- **The members of an object are accepted** if they can be gathered and make up a token. -/
theorem readFields_eq_ok_iff {seen : Seen} {ms : List (Option String × Value)} {t : Token} :
    readFields none seen (Value.membersToJson ms) = .ok t ↔
      ∃ all, Gathered seen ms all ∧ all.assemble = .ok t := by
  induction ms generalizing seen with
  | nil => simp [Value.membersToJson, readFields, closed, gathered_nil_iff, bind, Except.bind]
  | cons m ms ih =>
    obtain ⟨name, v⟩ := m
    rw [Value.membersToJson, readFields_cons]
    constructor
    · intro hread
      split at hread
      · cases hread
      · -- a known name, met for the first time, whose value can be read
        next f hf =>
        obtain rfl := Field.named?_eq_some.mp hf
        split at hread
        · cases hread
        · next hfresh =>
          obtain ⟨x, hx, hfields⟩ := bind_eq_ok.mp hread
          obtain ⟨all, hall, htoken⟩ := ih.mp hfields
          exact ⟨all, hall.cons (Bool.eq_false_iff.mpr hfresh) hx, htoken⟩
    · rintro ⟨all, hall, htoken⟩
      obtain ⟨f, rfl⟩ := (List.forall_mem_cons.mp hall.known).1
      obtain ⟨hfresh, x, hx, hgathered⟩ := hall.of_cons
      rw [Field.named?_eq_some.mpr rfl]
      dsimp only
      rw [hfresh, if_neg Bool.false_ne_true]
      exact bind_eq_ok.mpr ⟨x, hx, ih.mpr ⟨all, hgathered, htoken⟩⟩

/-- **What is kept of the member with a name:** what it is read as, or nothing if there is none. -/
def Slot {α : Type} (read : Json → Except ReadError α) (ms : List (Option String × Value))
    (name : String) (slot : Option α) : Prop :=
  (∀ v, (some name, v) ∈ ms → ∃ x, read v.toJson = .ok x ∧ slot = some x) ∧
    ((∀ m ∈ ms, m.1 ≠ some name) → slot = none)

section Slot

variable {α : Type} {ms : List (Option String × Value)} {name : String}

theorem slot_of_mem {read : Json → Except ReadError α} (distinct : (ms.map Prod.fst).Nodup)
    {v : Value} (mem : (some name, v) ∈ ms) {x : α} (hread : read v.toJson = .ok x) :
    Slot read ms name (some x) := by
  refine ⟨?_, fun absent => absurd rfl (absent _ mem)⟩
  intro w hw
  rw [Under.eq_of_mem distinct (.member mem) hw]
  exact ⟨x, hread, rfl⟩

theorem slot_of_absent {read : Json → Except ReadError α} (absent : ∀ m ∈ ms, m.1 ≠ some name) :
    Slot read ms name none :=
  ⟨fun _ hw => absurd rfl (absent _ hw), fun _ => rfl⟩

/-- A member that cannot be null is kept if it is there. -/
theorem slot_some_iff {read : Json → Except ReadError α} (hnull : ∀ x, read .null ≠ .ok x)
    (distinct : (ms.map Prod.fst).Nodup) {x : α} :
    Slot read ms name (some x) ↔ ∃ v, Under ms name v ∧ read v.toJson = .ok x := by
  constructor
  · rintro ⟨hmet, hkept⟩
    -- something is kept, so a member has the name
    by_cases habsent : ∀ m ∈ ms, m.1 ≠ some name
    · cases hkept habsent
    · push Not at habsent
      obtain ⟨⟨_, v⟩, hmem, rfl⟩ := habsent
      obtain ⟨y, hread, hy⟩ := hmet v hmem
      obtain rfl := Option.some.inj hy
      exact ⟨v, .member hmem, hread⟩
  · rintro ⟨v, mem | absent, hread⟩
    · exact slot_of_mem distinct mem hread
    · exact absurd hread (hnull x)

/-- A member that may be null may also be missing. -/
theorem slot_getD_iff {read : Json → Except ReadError (Option α)} (hnull : read .null = .ok none)
    (distinct : (ms.map Prod.fst).Nodup) {x : Option α} :
    (∃ slot, Slot read ms name slot ∧ slot.getD none = x) ↔
      ∃ v, Under ms name v ∧ read v.toJson = .ok x := by
  constructor
  · rintro ⟨slot, ⟨hmet, hkept⟩, rfl⟩
    -- a member that is missing is read as null would be
    by_cases habsent : ∀ m ∈ ms, m.1 ≠ some name
    · rw [hkept habsent]
      exact ⟨.null, .missing habsent, hnull⟩
    · push Not at habsent
      obtain ⟨⟨_, v⟩, hmem, rfl⟩ := habsent
      obtain ⟨y, hread, rfl⟩ := hmet v hmem
      exact ⟨v, .member hmem, hread⟩
  · rintro ⟨v, mem | absent, hread⟩
    · exact ⟨some x, slot_of_mem distinct mem hread, rfl⟩
    · exact ⟨none, slot_of_absent absent, Except.ok.inj (hnull.symm.trans hread)⟩

end Slot

/-- Nothing being met before, the members are gathered name by name. -/
theorem gathered_iff {ms : List (Option String × Value)} {all : Seen} :
    Gathered ⟨none, none, none⟩ ms all ↔
      (∀ m ∈ ms, m.1 ∈ [some "type", some "text", some "children"]) ∧ (ms.map Prod.fst).Nodup ∧
        Slot readString ms "type" all.type ∧ Slot readText ms "text" all.text ∧
          Slot readChildren ms "children" all.children := by
  -- the known names are those of the three fields
  have hknown : ∀ name : Option String, (∃ f : Field, name = some f.name) ↔
      name ∈ [some "type", some "text", some "children"] := by
    intro name
    simp only [List.mem_cons, List.not_mem_nil, or_false]
    constructor
    · rintro ⟨f, rfl⟩
      cases f <;> simp [Field.name]
    · rintro (rfl | rfl | rfl)
      · exact ⟨.type, rfl⟩
      · exact ⟨.text, rfl⟩
      · exact ⟨.children, rfl⟩
  constructor
  · intro h
    exact ⟨fun m hm => (hknown _).mp (h.known m hm), h.distinct, ⟨h.met .type, h.kept .type⟩,
      ⟨h.met .text, h.kept .text⟩, ⟨h.met .children, h.kept .children⟩⟩
  · rintro ⟨known, distinct, htype, htext, hchildren⟩
    refine ⟨fun m hm => (hknown _).mpr (known m hm), distinct, ?_, ?_, ?_⟩
    · -- nothing has been met before
      intro f hf
      cases f <;> cases hf
    · rintro (_ | _ | _)
      · exact htype.1
      · exact htext.1
      · exact hchildren.1
    · rintro (_ | _ | _)
      · exact htype.2
      · exact htext.2
      · exact hchildren.2

/-! ### Tokens -/

/-- **What three entries are read as.** -/
def Makes (type text children : Value) (t : Token) : Prop :=
  ∃ kind text' children', readString type.toJson = .ok kind ∧ readText text.toJson = .ok text' ∧
    readChildren children.toJson = .ok children' ∧ assemble kind text' children' = .ok t

theorem readToken_object {ms : List (Option String × Value)} {t : Token} :
    readToken (Value.object ms).toJson = .ok t ↔
      ∃ type text children, Entries (.object ms) type text children ∧
        Makes type text children t := by
  rw [Value.toJson, readToken, readFields_eq_ok_iff]
  have hnull : ∀ kind, readString .null ≠ .ok kind := by rintro kind ⟨⟩
  constructor
  · rintro ⟨⟨type?, text?, children?⟩, hgathered, htoken⟩
    obtain ⟨known, distinct, htype, htext, hchildren⟩ := gathered_iff.mp hgathered
    -- only the type has to be there; the other two count as null where they are missing
    cases type? with
    | none => cases htoken
    | some kind =>
      obtain ⟨type, underType, hkind⟩ := (slot_some_iff hnull distinct).mp htype
      obtain ⟨text, underText, htext'⟩ := (slot_getD_iff rfl distinct).mp ⟨_, htext, rfl⟩
      obtain ⟨children, underChildren, hchildren'⟩ :=
        (slot_getD_iff rfl distinct).mp ⟨_, hchildren, rfl⟩
      exact ⟨type, text, children, .object known distinct underType underText underChildren,
        kind, _, _, hkind, htext', hchildren', htoken⟩
  · rintro ⟨type, text, children, ⟨known, distinct, underType, underText, underChildren⟩, kind,
      text', children', hkind, htext', hchildren', htoken⟩
    have htype := (slot_some_iff hnull distinct).mpr ⟨type, underType, hkind⟩
    obtain ⟨text?, htext, rfl⟩ := (slot_getD_iff rfl distinct).mpr ⟨text, underText, htext'⟩
    obtain ⟨children?, hchildren, rfl⟩ :=
      (slot_getD_iff rfl distinct).mpr ⟨children, underChildren, hchildren'⟩
    exact ⟨⟨some kind, text?, children?⟩,
      gathered_iff.mpr ⟨known, distinct, htype, htext, hchildren⟩, htoken⟩

theorem readToken_array {items : List Value} {t : Token} :
    readToken (Value.array items).toJson = .ok t ↔
      ∃ type text children, Entries (.array items) type text children ∧
        Makes type text children t := by
  -- an array has three items, which are the entries in this order
  have hentries : ∀ {type text children}, Entries (.array items) type text children ↔
      items = [type, text, children] := by
    intro type text children
    constructor
    · rintro ⟨⟩
      rfl
    · rintro rfl
      exact .array type text children
  simp only [hentries]
  rw [Value.toJson, readToken]
  -- fewer items, exactly three, or more
  rcases items with _ | ⟨a, _ | ⟨b, _ | ⟨c, rest⟩⟩⟩
  · simp [Value.itemsToJson, readTriple, closed, bind_eq_ok]
  · simp [Value.itemsToJson, readTriple, closed, bind_eq_ok]
  · simp [Value.itemsToJson, readTriple, closed, bind_eq_ok]
  · cases rest with
    | nil => simp [Value.itemsToJson, readTriple, closed, bind_eq_ok, Makes]
    | cons d rest => simp [Value.itemsToJson, readTriple, bind_eq_ok]

/-- A value without parts is neither a token nor a forest. -/
theorem scalar_not_read {v : Value} {l : Lexeme} (h : IsLexeme v l) :
    (∀ t, readToken v.toJson ≠ .ok t) ∧ ∀ ts, readForest v.toJson ≠ .ok ts := by
  cases h with
  | null => exact ⟨by rintro t ⟨⟩, by rintro ts ⟨⟩⟩
  | bool b => exact ⟨by rintro t ⟨⟩, by rintro ts ⟨⟩⟩
  | number n =>
    rw [Value.toJson]
    cases n.value? <;> exact ⟨by rintro t ⟨⟩, by rintro ts ⟨⟩⟩
  | string s => cases s <;> exact ⟨by rintro t ⟨⟩, by rintro ts ⟨⟩⟩

/-- A value is read as a token if it has entries that are. -/
theorem readToken_toJson_iff {v : Value} {t : Token} :
    readToken v.toJson = .ok t ↔
      ∃ type text children, Entries v type text children ∧ Makes type text children t := by
  -- neither side holds of a value without parts
  have hscalar : ∀ {l}, IsLexeme v l → (readToken v.toJson = .ok t ↔
      ∃ type text children, Entries v type text children ∧ Makes type text children t) := by
    intro l h
    refine ⟨fun hread => absurd hread ((scalar_not_read h).1 t), ?_⟩
    rintro ⟨_, _, _, entries, -⟩
    cases h <;> cases entries
  cases v with
  | null => exact hscalar .null
  | bool b => exact hscalar (.bool b)
  | number n => exact hscalar (.number n)
  | string s => exact hscalar (.string s)
  | array items => exact readToken_array
  | object ms => exact readToken_object

theorem makes_leaf_iff {type text children : Value} {kind s : String} :
    Makes type text children (.leaf kind s) ↔ type = .string (some kind) ∧
      text = .string (some s) ∧ children = .null ∧ s ≠ "" := by
  constructor
  · rintro ⟨_, _, _, hkind, htext, hchildren, hmade⟩
    obtain ⟨_, rfl, rfl, filled, ⟨⟩⟩ | ⟨_, -, -, -, ⟨⟩⟩ := assemble_eq_ok.mp hmade
    exact ⟨readString_toJson.mp hkind, by simpa using readText_toJson.mp htext,
      by simpa using readChildren_toJson.mp hchildren, filled⟩
  · rintro ⟨rfl, rfl, rfl, filled⟩
    exact ⟨kind, some s, none, readString_toJson.mpr rfl, readText_toJson.mpr (.inr ⟨s, rfl, rfl⟩),
      readChildren_toJson.mpr (.inl ⟨rfl, rfl⟩),
      assemble_eq_ok.mpr (.inl ⟨s, rfl, rfl, filled, rfl⟩)⟩

theorem makes_branch_iff {type text children : Value} {kind : String} {ts : List Token} :
    Makes type text children (.branch kind ts) ↔ type = .string (some kind) ∧
      text = .null ∧ ts ≠ [] ∧ ∃ items, children = .array items ∧
        readItems none (Value.itemsToJson items) = .ok ts := by
  constructor
  · rintro ⟨_, _, _, hkind, htext, hchildren, hmade⟩
    obtain ⟨_, -, -, -, ⟨⟩⟩ | ⟨_, rfl, rfl, filled, ⟨⟩⟩ := assemble_eq_ok.mp hmade
    -- the children are there, so they are no null
    obtain ⟨-, ⟨⟩⟩ | ⟨items, _, rfl, hitems, ⟨⟩⟩ := readChildren_toJson.mp hchildren
    exact ⟨readString_toJson.mp hkind, by simpa using readText_toJson.mp htext, filled, items, rfl,
      hitems⟩
  · rintro ⟨rfl, rfl, filled, items, rfl, hitems⟩
    exact ⟨kind, none, some ts, readString_toJson.mpr rfl, readText_toJson.mpr (.inl ⟨rfl, rfl⟩),
      readChildren_toJson.mpr (.inr ⟨items, ts, rfl, hitems, rfl⟩),
      assemble_eq_ok.mpr (.inr ⟨ts, rfl, rfl, filled, rfl⟩)⟩

mutual

/-- **A value is read as the token that it denotes,** and as no other. -/
theorem readToken_toJson : ∀ {t : Token} {v : Value}, readToken v.toJson = .ok t ↔ Denotes v t
  | .leaf kind text, v => by
    simp only [readToken_toJson_iff, makes_leaf_iff, denotes_leaf_iff]
    constructor
    · rintro ⟨_, _, _, entries, rfl, rfl, rfl, filled⟩
      exact ⟨entries, filled⟩
    · rintro ⟨entries, filled⟩
      exact ⟨_, _, _, entries, rfl, rfl, rfl, filled⟩
  | .branch kind ts, v => by
    simp only [readToken_toJson_iff, makes_branch_iff, denotes_branch_iff]
    constructor
    · rintro ⟨_, _, _, entries, rfl, rfl, filled, items, rfl, hitems⟩
      exact ⟨_, entries, ⟨items, rfl, readItems_toJson.mp hitems⟩, filled⟩
    · rintro ⟨_, entries, ⟨items, rfl, hitems⟩, filled⟩
      exact ⟨_, _, _, entries, rfl, rfl, filled, items, rfl, readItems_toJson.mpr hitems⟩

/-- The items of an array are read as the tokens that they denote. -/
theorem readItems_toJson : ∀ {ts : List Token} {vs : List Value},
    readItems none (Value.itemsToJson vs) = .ok ts ↔ List.Forall₂ Denotes vs ts
  | [], [] => by simp [Value.itemsToJson, readItems, closed, Except.map]
  | [], v :: vs => by simp [Value.itemsToJson, readItems, bind_eq_ok]
  | t :: ts, [] => by simp [Value.itemsToJson, readItems, closed, Except.map]
  | t :: ts, v :: vs => by
    rw [List.forall₂_cons, ← readToken_toJson, ← readItems_toJson, Value.itemsToJson, readItems]
    simp only [bind_eq_ok, Except.ok.injEq, List.cons.injEq]
    constructor
    · rintro ⟨_, htoken, _, hitems, rfl, rfl⟩
      exact ⟨htoken, hitems⟩
    · rintro ⟨htoken, hitems⟩
      exact ⟨t, htoken, ts, hitems, rfl, rfl⟩

end

/-! ### Texts -/

theorem readForest_toJson {v : Value} {ts : List Token} :
    readForest v.toJson = .ok ts ↔ DenotesForest v ts := by
  have hscalar : ∀ {l}, IsLexeme v l → (readForest v.toJson = .ok ts ↔ DenotesForest v ts) := by
    intro l h
    refine ⟨fun hread => absurd hread ((scalar_not_read h).2 ts), ?_⟩
    rintro ⟨items, rfl, -⟩
    cases h
  cases v with
  | null => exact hscalar .null
  | bool b => exact hscalar (.bool b)
  | number n => exact hscalar (.number n)
  | string s => exact hscalar (.string s)
  | array items => rw [denotesForest_array_iff, Value.toJson, readForest, readItems_toJson]
  | object ms => exact ⟨by rintro ⟨⟩, by rintro ⟨_, ⟨⟩, _⟩⟩

/-- An array that breaks off is no forest. -/
theorem readItems_broken {fault : Fault} {items : List Json} {ts : List Token} :
    readItems (some fault) items ≠ .ok ts := by
  induction items generalizing ts with
  | nil => rintro ⟨⟩
  | cons j js ih =>
    rw [readItems]
    intro h
    obtain ⟨t, -, h⟩ := bind_eq_ok.mp h
    obtain ⟨us, h, -⟩ := bind_eq_ok.mp h
    exact ih h

/-- A faulty document is no forest. -/
theorem ne_ok_of_faulty {d : Document} (h : d.Faulty) {ts : List Token} :
    ¬ (readForest d.value = .ok ts ∧ d.ending = none) := by
  rintro ⟨hread, hending⟩
  obtain ⟨j, ending⟩ := d
  rcases h with hvalue | hfault
  · cases j with
    | array items ending' =>
      obtain ⟨fault, rfl⟩ := Option.isSome_iff_exists.mp hvalue
      exact readItems_broken hread
    | _ => cases hread
  · rw [hending] at hfault
    cases hfault

/-- **A text is accepted** if the value that it writes is not nested too deeply and denotes a
forest. -/
theorem ofText_eq_ok_iff {v : Value} {text : String} (hv : v.Document text) {ts : List Token} :
    ofText text = .ok ts ↔ v.nesting ≤ maxNesting ∧ DenotesForest v ts := by
  have hofText : ofText text = .ok ts ↔
      readForest (Document.ofText maxNesting text.toList).value = .ok ts ∧
        (Document.ofText maxNesting text.toList).ending = none := by
    simp [ofText, bind_eq_ok, closed_eq_ok]
  obtain ⟨hfit, hunfit⟩ := hv.ofText maxNesting
  rw [hofText]
  -- what denotes a forest is sound, so that only the nesting is left to be asked for
  by_cases h : v.Sound ∧ v.nesting ≤ maxNesting
  · rw [hfit h, readForest_toJson]
    simp [h.2]
  · refine ⟨fun haccepted => absurd haccepted (ne_ok_of_faulty (hunfit h)), ?_⟩
    rintro ⟨hnesting, hdenotes⟩
    exact absurd ⟨hdenotes.sound, hnesting⟩ h

/-- **Acceptance.** A text of the grammar of JSON with at most 127 arrays and objects inside each
other is accepted exactly if the value that it writes denotes a forest, and is read as that forest,
in which no token is empty. Neither the order of members, nor a null in the place of what may be
missing, nor anything that is not part of the value makes a difference. -/
theorem ofText_accepts {v : Value} {text : String} (hv : v.Document text)
    (hnesting : v.nesting ≤ 127) :
    (∀ ts, ofText text = .ok ts ↔ DenotesForest v ts) ∧
      (∀ ts, ofText text = .ok ts → ∀ x ∈ Token.walkList 0 ts, x.token.isEmpty = false) ∧
      ∀ w text', Relation.EqvGen Rearranged v w → w.Document text' →
        ∀ ts, ofText text' = .ok ts ↔ ofText text = .ok ts := by
  have haccepts : ∀ ts, ofText text = .ok ts ↔ DenotesForest v ts :=
    fun ts => (ofText_eq_ok_iff hv).trans (and_iff_right hnesting)
  refine ⟨haccepts, ?_, ?_⟩
  · intro ts hread
    obtain ⟨items, -, hitems⟩ := (haccepts ts).mp hread
    exact filled_of_denotes hitems
  · intro w text' hrearranged hw ts
    obtain ⟨hnesting', hmeaning⟩ := denotesForest_of_rearranged hrearranged
    have hw' : ofText text' = .ok ts ↔ DenotesForest w ts :=
      (ofText_eq_ok_iff hw).trans (and_iff_right (hnesting' ▸ hnesting))
    rw [hw', haccepts, hmeaning.forest]

/-- White space, an escape, members in another order, and a null. -/
theorem ofText_accepts_placeholder :
    ofText "[ \x7b\"text\":\"\\u0062\",\n\"children\": null,\"type\":\"word\"\x7d ]" =
      .ok [.leaf "word" "b"] := by
  have zero : HexDigit '0' 0 := .inl rfl
  have six : HexDigit '6' 6 := .inl rfl
  have two : HexDigit '2' 2 := .inl rfl
  -- the three members, one of them written with an escape
  have text : Writes _ (.member (some "text", .string (some "b"))) :=
    @Writes.member [] [] _ "text".toList _ _ (by decide) (.verbatim (by simp)) (by decide)
      (@Writes.element [] [] _ _ (by decide) (.string (.number zero zero six two .nil))
        (by decide))
  have children : Writes _ (.member (some "children", .null)) :=
    @Writes.member ['\n'] [] _ "children".toList _ _ (by decide) (.verbatim (by simp)) (by decide)
      (@Writes.element [' '] [] _ _ (by decide) .null (by decide))
  have type : Writes _ (.member (some "type", .string (some "word"))) :=
    @Writes.member [] [] _ "type".toList _ _ (by decide) (.verbatim (by simp)) (by decide)
      (@Writes.element [] [] _ _ (by decide)
        (@Writes.string "word".toList _ (.verbatim (by simp))) (by decide))
  -- the object between blanks, and the document around it
  have items := Writes.one (@Writes.element [' '] [' '] _ _ (by decide)
    (.object (.moreMembers text (.moreMembers children (.oneMember type)))) (by decide))
  have document : Value.Document (.array [.object [(some "text", .string (some "b")),
      (some "children", .null), (some "type", .string (some "word"))]])
        "[ \x7b\"text\":\"\\u0062\",\n\"children\": null,\"type\":\"word\"\x7d ]" :=
    @Writes.element [] [] _ _ (by decide) (.array items) (by decide)
  refine ((ofText_accepts document (by decide)).1 _).mpr ?_
  refine ⟨_, rfl, .cons (.leaf ?_ (by decide)) .nil⟩
  refine .object (by decide) (by decide) (.member ?_) (.member ?_) (.member ?_) <;> simp

end InlineMarkup.Json.Forest
