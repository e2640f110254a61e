import Mathlib.Data.List.Nodup
import Mathlib.Data.List.Forall2
import Mathlib.Logic.Relation
import Mathlib.Order.Basic
import InlineMarkup.Token
import InlineMarkup.Proofs.Json.Parsing

/-!
# Values that denote tokens

Which JSON values stand for a forest, and for which one, without any order of reading.

* `Entries` — a value that may stand for a token is an object with distinct known names, or an array
  of three. Either way it has something for a type, for a text and for children, null if need be.
* `Denotes` — its type is a string, and one of the other two is filled while the other one is null.
* `DenotesForest` — a forest is an array of such values.

Such values are sound and their tokens are filled. Since only membership counts, the order of the
members of an object makes no difference, and neither does a member that is null where it may as
well be missing (`Rearranged`).
-/

namespace InlineMarkup.Json.Forest

/-! ### The shape -/

/-- **What an object has under a name.** A member that is missing counts as null. -/
inductive Under (ms : List (Option String × Value)) (name : String) : Value → Prop where
  | member {v : Value} (mem : (some name, v) ∈ ms) : Under ms name v
  | missing (absent : ∀ m ∈ ms, m.1 ≠ some name) : Under ms name .null

/-- **What a value has for the type, the text and the children of a token.** -/
inductive Entries : (v type text children : Value) → Prop where
  | object {ms : List (Option String × Value)} {type text children : Value}
      (known : ∀ m ∈ ms, m.1 ∈ [some "type", some "text", some "children"])
      (distinct : (ms.map Prod.fst).Nodup) (underType : Under ms "type" type)
      (underText : Under ms "text" text) (underChildren : Under ms "children" children) :
      Entries (.object ms) type text children
  | array (type text children : Value) : Entries (.array [type, text, children]) type text children

/-- **The token that a value denotes.** -/
inductive Denotes : Value → Token → Prop where
  | leaf {v : Value} {kind text : String}
      (entries : Entries v (.string (some kind)) (.string (some text)) .null)
      (filled : text ≠ "") : Denotes v (.leaf kind text)
  | branch {v : Value} {kind : String} {items : List Value} {ts : List Token}
      (entries : Entries v (.string (some kind)) .null (.array items)) (filled : items ≠ [])
      (children : List.Forall₂ Denotes items ts) : Denotes v (.branch kind ts)

/-- **The forest that a value denotes.** -/
def DenotesForest (v : Value) (ts : List Token) : Prop :=
  ∃ items, v = .array items ∧ List.Forall₂ Denotes items ts

theorem denotesForest_array_iff {items : List Value} {ts : List Token} :
    DenotesForest (.array items) ts ↔ List.Forall₂ Denotes items ts := by
  refine ⟨?_, fun h => ⟨items, rfl, h⟩⟩
  rintro ⟨_, ⟨⟩, h⟩
  exact h

theorem denotes_leaf_iff {v : Value} {kind text : String} :
    Denotes v (.leaf kind text) ↔
      Entries v (.string (some kind)) (.string (some text)) .null ∧ text ≠ "" := by
  refine ⟨?_, fun h => .leaf h.1 h.2⟩
  rintro ⟨entries, filled⟩
  exact ⟨entries, filled⟩

theorem denotes_branch_iff {v : Value} {kind : String} {ts : List Token} :
    Denotes v (.branch kind ts) ↔
      ∃ c, Entries v (.string (some kind)) .null c ∧ DenotesForest c ts ∧ ts ≠ [] := by
  constructor
  · -- items and tokens are as many, so either list is empty with the other one
    rintro (_ | ⟨entries, filled, children⟩)
    refine ⟨_, entries, ⟨_, rfl, children⟩, ?_⟩
    rintro rfl
    exact filled (List.forall₂_nil_right_iff.mp children)
  · rintro ⟨_, entries, ⟨items, rfl, children⟩, filled⟩
    refine .branch entries ?_ children
    rintro rfl
    exact filled (List.forall₂_nil_left_iff.mp children)

/-! ### What denotes a token is sound and filled -/

/-- With distinct names there is one value under each of them. -/
theorem Under.eq_of_mem {ms : List (Option String × Value)} (distinct : (ms.map Prod.fst).Nodup)
    {name : String} {v w : Value} (h : Under ms name v) (mem : (some name, w) ∈ ms) : w = v := by
  cases h with
  | member hv => exact congrArg Prod.snd (List.inj_on_of_nodup_map distinct mem hv rfl)
  | missing absent => exact absurd rfl (absent _ mem)

theorem Entries.sound {v type text children : Value} (h : Entries v type text children)
    (htype : type.Sound) (htext : text.Sound) (hchildren : children.Sound) : v.Sound := by
  cases h with
  | array => exact .array (by simp [htype, htext, hchildren])
  | object known distinct underType underText underChildren =>
    refine .object ?_ ?_
    · -- a name that stands for no characters is not a known one
      intro m hm hnone
      simpa [hnone] using known m hm
    · -- a known name has one value under it, which is the entry
      rintro ⟨name, w⟩ hm
      have hname := known _ hm
      simp only [List.mem_cons, List.not_mem_nil, or_false] at hname
      rcases hname with rfl | rfl | rfl
      · rwa [underType.eq_of_mem distinct hm]
      · rwa [underText.eq_of_mem distinct hm]
      · rwa [underChildren.eq_of_mem distinct hm]

mutual

/-- A value that denotes a token is sound. -/
theorem Denotes.sound : ∀ {t : Token} {v : Value}, Denotes v t → v.Sound
  | .leaf _ _, _, h => by
    obtain ⟨entries, -⟩ := denotes_leaf_iff.mp h
    exact entries.sound (.string _) (.string _) .null
  | .branch _ _, _, h => by
    cases h with
    | branch entries filled children =>
      exact entries.sound (.string _) .null (.array (sound_of_denotes children))

/-- Values that denote tokens are sound. -/
theorem sound_of_denotes : ∀ {ts : List Token} {vs : List Value}, List.Forall₂ Denotes vs ts →
    ∀ v ∈ vs, v.Sound
  | [], _, .nil => List.forall_mem_nil _
  | _ :: _, _, .cons h onward => List.forall_mem_cons.mpr ⟨h.sound, sound_of_denotes onward⟩

end

theorem DenotesForest.sound {v : Value} {ts : List Token} (h : DenotesForest v ts) : v.Sound := by
  obtain ⟨items, rfl, hitems⟩ := h
  exact .array (sound_of_denotes hitems)

mutual

/-- No token inside one that is denoted is empty. -/
theorem Denotes.filled : ∀ {t : Token} {v : Value}, Denotes v t → ∀ {depth : Nat},
    ∀ x ∈ t.walkFrom depth, x.token.isEmpty = false
  | .leaf kind text, _, h, depth => by
    obtain ⟨-, filled⟩ := denotes_leaf_iff.mp h
    simpa [Token.walkFrom, Token.isEmpty] using filled
  | .branch kind ts, _, h, depth => by
    obtain ⟨_, -, ⟨items, rfl, children⟩, filled⟩ := denotes_branch_iff.mp h
    refine List.forall_mem_cons.mpr ⟨?_, filled_of_denotes children⟩
    simpa [Token.isEmpty] using filled

/-- No token inside a forest that is denoted is empty. -/
theorem filled_of_denotes : ∀ {ts : List Token} {vs : List Value}, List.Forall₂ Denotes vs ts →
    ∀ {depth : Nat}, ∀ x ∈ Token.walkList depth ts, x.token.isEmpty = false
  | [], _, .nil, _ => List.forall_mem_nil _
  | _ :: _, _, .cons h onward, _ =>
    List.forall_mem_append.mpr ⟨h.filled, filled_of_denotes onward⟩

end

/-! ### Rearranging -/

/-- **Two values that differ in the order of the members of one object,** or in a text or children
of null in one of them. -/
inductive Rearranged : Value → Value → Prop where
  | order {ms ns : List (Option String × Value)} (perm : ms.Perm ns) :
      Rearranged (.object ms) (.object ns)
  | placeholder {ms : List (Option String × Value)} {name : String}
      (optional : name = "text" ∨ name = "children") (absent : ∀ m ∈ ms, m.1 ≠ some name) :
      Rearranged (.object ms) (.object ((some name, .null) :: ms))
  | item (vs ws : List Value) {v w : Value} (inside : Rearranged v w) :
      Rearranged (.array (vs ++ v :: ws)) (.array (vs ++ w :: ws))
  | member (ms ns : List (Option String × Value)) (name : Option String) {v w : Value}
      (inside : Rearranged v w) :
      Rearranged (.object (ms ++ (name, v) :: ns)) (.object (ms ++ (name, w) :: ns))

theorem Rearranged.nesting_eq {v w : Value} (h : Rearranged v w) : v.nesting = w.nesting := by
  induction h with
  | @order ms ns perm =>
    -- a bound for the nesting of members does not depend on their order
    have hmembers : Value.nestingOfMembers ms = Value.nestingOfMembers ns :=
      eq_of_forall_ge_iff fun n => by simp only [Value.nestingOfMembers_le_iff, perm.mem_iff]
    rw [Value.nesting, Value.nesting, hmembers]
  | placeholder optional absent =>
    -- null is not nested
    rw [Value.nesting, Value.nesting, Value.nestingOfMembers]
    exact congrArg (· + 1) (Nat.zero_max _).symm
  | @item vs ws v w inside ih =>
    have hitems : Value.nestingOfItems (vs ++ v :: ws) = Value.nestingOfItems (vs ++ w :: ws) :=
      eq_of_forall_ge_iff fun n => by
        simp only [Value.nestingOfItems_le_iff, List.forall_mem_append, List.forall_mem_cons, ih]
    rw [Value.nesting, Value.nesting, hitems]
  | @member ms ns name v w inside ih =>
    have hmembers : Value.nestingOfMembers (ms ++ (name, v) :: ns) =
        Value.nestingOfMembers (ms ++ (name, w) :: ns) :=
      eq_of_forall_ge_iff fun n => by
        simp only [Value.nestingOfMembers_le_iff, List.forall_mem_append, List.forall_mem_cons, ih]
    rw [Value.nesting, Value.nesting, hmembers]

/-- **Values that mean the same** wherever they stand in a forest. -/
structure SameMeaning (v w : Value) : Prop where
  null : v = .null ↔ w = .null
  string : ∀ s, v = .string s ↔ w = .string s
  token : ∀ t, Denotes v t ↔ Denotes w t
  forest : ∀ ts, DenotesForest v ts ↔ DenotesForest w ts

namespace SameMeaning

theorem refl (v : Value) : SameMeaning v v := ⟨.rfl, fun _ => .rfl, fun _ => .rfl, fun _ => .rfl⟩

theorem symm {v w : Value} (h : SameMeaning v w) : SameMeaning w v :=
  ⟨h.null.symm, fun s => (h.string s).symm, fun t => (h.token t).symm, fun ts => (h.forest ts).symm⟩

theorem trans {u v w : Value} (h : SameMeaning u v) (h' : SameMeaning v w) : SameMeaning u w :=
  ⟨h.null.trans h'.null, fun s => (h.string s).trans (h'.string s),
    fun t => (h.token t).trans (h'.token t), fun ts => (h.forest ts).trans (h'.forest ts)⟩

end SameMeaning

/-- **Entries that are carried over** from one value to another, up to their meaning. -/
def Carries (v w : Value) : Prop :=
  ∀ type text children, Entries v type text children → ∃ type' text' children',
    Entries w type' text' children' ∧ SameMeaning type type' ∧ SameMeaning text text' ∧
      SameMeaning children children'

/-- A value denotes what its entries make of it. -/
theorem Carries.denotes {v w : Value} (h : Carries v w) {t : Token} (ht : Denotes v t) :
    Denotes w t := by
  cases t with
  | leaf kind text =>
    obtain ⟨entries, filled⟩ := denotes_leaf_iff.mp ht
    obtain ⟨_, _, _, entries', htype, htext, hchildren⟩ := h _ _ _ entries
    -- strings and null mean themselves, so these are the same entries
    obtain rfl := (htype.string _).mp rfl
    obtain rfl := (htext.string _).mp rfl
    obtain rfl := hchildren.null.mp rfl
    exact .leaf entries' filled
  | branch kind ts =>
    obtain ⟨c, entries, children, filled⟩ := denotes_branch_iff.mp ht
    -- the children may be others that denote the same forest
    obtain ⟨_, _, c', entries', htype, htext, hchildren⟩ := h _ _ _ entries
    obtain rfl := (htype.string _).mp rfl
    obtain rfl := htext.null.mp rfl
    exact denotes_branch_iff.mpr ⟨c', entries', (hchildren.forest ts).mp children, filled⟩

/-- Objects whose entries are carried over both ways mean the same. -/
theorem sameMeaning_object {ms ns : List (Option String × Value)}
    (h : Carries (.object ms) (.object ns)) (h' : Carries (.object ns) (.object ms)) :
    SameMeaning (.object ms) (.object ns) where
  null := ⟨by rintro ⟨⟩, by rintro ⟨⟩⟩
  string _ := ⟨by rintro ⟨⟩, by rintro ⟨⟩⟩
  token _ := ⟨h.denotes, h'.denotes⟩
  forest _ := ⟨by rintro ⟨_, ⟨⟩, _⟩, by rintro ⟨_, ⟨⟩, _⟩⟩

/-- Members that are found under the same names are the same entries. -/
theorem carries_of_under {ms ns : List (Option String × Value)}
    (known : (∀ m ∈ ms, m.1 ∈ [some "type", some "text", some "children"]) →
      ∀ m ∈ ns, m.1 ∈ [some "type", some "text", some "children"])
    (distinct : (ms.map Prod.fst).Nodup → (ns.map Prod.fst).Nodup)
    (under : ∀ {name v}, Under ms name v → ∃ v', Under ns name v' ∧ SameMeaning v v') :
    Carries (.object ms) (.object ns) := by
  rintro _ _ _ ⟨hknown, hdistinct, underType, underText, underChildren⟩
  obtain ⟨type', htype', htype⟩ := under underType
  obtain ⟨text', htext', htext⟩ := under underText
  obtain ⟨children', hchildren', hchildren⟩ := under underChildren
  exact ⟨type', text', children',
    .object (known hknown) (distinct hdistinct) htype' htext' hchildren', htype, htext, hchildren⟩

/-! #### Case by case -/

theorem carries_perm {ms ns : List (Option String × Value)} (perm : ms.Perm ns) :
    Carries (.object ms) (.object ns) := by
  refine carries_of_under ?_ (perm.map _).nodup_iff.mp ?_
  · exact fun hknown m hm => hknown m (perm.mem_iff.mpr hm)
  · rintro name _ (mem | absent)
    · exact ⟨_, .member (perm.mem_iff.mp mem), .refl _⟩
    · exact ⟨_, .missing fun m hm => absent m (perm.mem_iff.mpr hm), .refl _⟩

/-- A member of null is the same as none. -/
theorem under_placeholder_iff {ms : List (Option String × Value)} {name name' : String} {v : Value}
    (absent : ∀ m ∈ ms, m.1 ≠ some name) :
    Under ((some name, .null) :: ms) name' v ↔ Under ms name' v := by
  constructor
  · rintro (mem | absent')
    · -- it is the new member, or one that was there
      rcases List.mem_cons.mp mem with heq | mem
      · obtain ⟨rfl, rfl⟩ : name' = name ∧ v = .null := by simpa using heq
        exact .missing absent
      · exact .member mem
    · exact .missing (List.forall_mem_cons.mp absent').2
  · rintro (mem | absent')
    · exact .member (List.mem_cons_of_mem _ mem)
    · -- what is missing is null, as the new member is
      by_cases hname : name = name'
      · subst hname
        exact .member List.mem_cons_self
      · refine .missing (List.forall_mem_cons.mpr ⟨?_, absent'⟩)
        exact fun h => hname (Option.some.inj h)

theorem sameMeaning_placeholder {ms : List (Option String × Value)} {name : String}
    (optional : name = "text" ∨ name = "children") (absent : ∀ m ∈ ms, m.1 ≠ some name) :
    SameMeaning (.object ms) (.object ((some name, .null) :: ms)) := by
  have hname : some name ∈ [some "type", some "text", some "children"] := by
    rcases optional with rfl | rfl <;> decide
  have hfresh : some name ∉ ms.map Prod.fst := by
    rintro hmem
    obtain ⟨m, hm, hmname⟩ := List.mem_map.mp hmem
    exact absent m hm hmname
  -- names are known and distinct with the new member as they are without it
  refine sameMeaning_object (carries_of_under ?_ ?_ ?_) (carries_of_under ?_ ?_ ?_)
  · exact fun hknown => List.forall_mem_cons.mpr ⟨hname, hknown⟩
  · exact fun hdistinct => List.nodup_cons.mpr ⟨hfresh, hdistinct⟩
  · exact fun h => ⟨_, (under_placeholder_iff absent).mpr h, .refl _⟩
  · exact fun hknown => (List.forall_mem_cons.mp hknown).2
  · exact fun hdistinct => (List.nodup_cons.mp hdistinct).2
  · exact fun h => ⟨_, (under_placeholder_iff absent).mp h, .refl _⟩

/-- One item in the place of another. -/
theorem forall₂_denotes_replace {vs ws : List Value} {v w : Value}
    (h : ∀ t, Denotes v t → Denotes w t) {ts : List Token}
    (hts : List.Forall₂ Denotes (vs ++ v :: ws) ts) :
    List.Forall₂ Denotes (vs ++ w :: ws) ts := by
  induction vs generalizing ts with
  | nil =>
    obtain _ | ⟨hfirst, onward⟩ := hts
    exact .cons (h _ hfirst) onward
  | cons u vs ih =>
    obtain _ | ⟨hfirst, onward⟩ := hts
    exact .cons hfirst (ih onward)

theorem carries_item {v w : Value} (h : SameMeaning v w) (vs ws : List Value) :
    Carries (.array (vs ++ v :: ws)) (.array (vs ++ w :: ws)) := by
  intro type text children hentries
  generalize hitems : vs ++ v :: ws = items at hentries
  cases hentries
  -- the item is the first, the second or the third one of the entries
  rcases vs with _ | ⟨a, _ | ⟨b, _ | ⟨c, vs⟩⟩⟩
  · simp only [List.nil_append, List.cons.injEq] at hitems
    obtain ⟨rfl, rfl⟩ := hitems
    exact ⟨w, text, children, .array _ _ _, h, .refl _, .refl _⟩
  · simp only [List.cons_append, List.nil_append, List.cons.injEq] at hitems
    obtain ⟨rfl, rfl, rfl⟩ := hitems
    exact ⟨a, w, children, .array _ _ _, .refl _, h, .refl _⟩
  · simp only [List.cons_append, List.nil_append, List.cons.injEq] at hitems
    obtain ⟨rfl, rfl, rfl, rfl⟩ := hitems
    exact ⟨a, b, w, .array _ _ _, .refl _, .refl _, h⟩
  · simp at hitems

theorem sameMeaning_item {v w : Value} (h : SameMeaning v w) (vs ws : List Value) :
    SameMeaning (.array (vs ++ v :: ws)) (.array (vs ++ w :: ws)) where
  null := ⟨by rintro ⟨⟩, by rintro ⟨⟩⟩
  string _ := ⟨by rintro ⟨⟩, by rintro ⟨⟩⟩
  token _ := ⟨(carries_item h vs ws).denotes, (carries_item h.symm vs ws).denotes⟩
  forest ts := by
    rw [denotesForest_array_iff, denotesForest_array_iff]
    exact ⟨forall₂_denotes_replace fun t => (h.token t).mp,
      forall₂_denotes_replace fun t => (h.token t).mpr⟩

theorem carries_member {v w : Value} (h : SameMeaning v w) (ms ns : List (Option String × Value))
    (name : Option String) :
    Carries (.object (ms ++ (name, v) :: ns)) (.object (ms ++ (name, w) :: ns)) := by
  refine carries_of_under ?_ ?_ ?_
  · simp only [List.forall_mem_append, List.forall_mem_cons]
    exact id
  · simp only [List.map_append, List.map_cons]
    exact id
  · rintro name' u (mem | absent)
    · rcases List.mem_append.mp mem with mem | mem
      · exact ⟨u, .member (List.mem_append_left _ mem), .refl u⟩
      rcases List.mem_cons.mp mem with heq | mem
      · obtain ⟨rfl, rfl⟩ := Prod.mk.inj heq
        exact ⟨w, .member (List.mem_append_right _ List.mem_cons_self), h⟩
      · exact ⟨u, .member (List.mem_append_right _ (List.mem_cons_of_mem _ mem)), .refl u⟩
    · refine ⟨.null, .missing ?_, .refl _⟩
      simp only [List.forall_mem_append, List.forall_mem_cons] at absent ⊢
      exact absent

/-- **Rearranging does not change what a value means.** -/
theorem Rearranged.sameMeaning {v w : Value} (h : Rearranged v w) : SameMeaning v w := by
  induction h with
  | order perm => exact sameMeaning_object (carries_perm perm) (carries_perm perm.symm)
  | placeholder optional absent => exact sameMeaning_placeholder optional absent
  | item vs ws inside ih => exact sameMeaning_item ih vs ws
  | member ms ns name inside ih =>
    exact sameMeaning_object (carries_member ih ms ns name) (carries_member ih.symm ms ns name)

/-- However often a value is rearranged, it denotes the same forest and is nested as deeply. -/
theorem denotesForest_of_rearranged {v w : Value} (h : Relation.EqvGen Rearranged v w) :
    v.nesting = w.nesting ∧ SameMeaning v w := by
  induction h with
  | rel v w h => exact ⟨h.nesting_eq, h.sameMeaning⟩
  | refl v => exact ⟨rfl, .refl v⟩
  | symm v w _ ih => exact ⟨ih.1.symm, ih.2.symm⟩
  | trans u v w _ _ ih ih' => exact ⟨ih.1.trans ih'.1, ih.2.trans ih'.2⟩

end InlineMarkup.Json.Forest
