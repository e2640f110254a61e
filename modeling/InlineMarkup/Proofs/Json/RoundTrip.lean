import InlineMarkup.Proofs.Json.Acceptance

/-!
# Forests through JSON and back

`Forest.render` writes a text of the grammar of JSON (`document_render`), whatever characters the
kinds and texts of the tokens are made of. The value of that text (`forestValue`) is read as the
forest itself if none of its tokens is empty (`readItems_tokenValues`), and two of its arrays and
objects are inside each other for each level of the forest (`nesting_forestValue`).

So a forest comes back exactly if no token is empty and none has more than 62 branches around it,
and nothing else ever comes back (`ofText_render`).
-/

namespace InlineMarkup.Json.Forest

/-! ### The value of a forest -/

mutual

/-- **The value that a token is written as.** -/
def tokenValue : Token → Value
  | .leaf kind text =>
    .object [(some "type", .string (some kind)), (some "text", .string (some text))]
  | .branch kind ts =>
    .object [(some "type", .string (some kind)), (some "children", .array (tokenValues ts))]

/-- The values of the tokens of a forest. -/
def tokenValues : List Token → List Value
  | [] => []
  | t :: ts => tokenValue t :: tokenValues ts

end

/-- **The value that a forest is written as.** -/
def forestValue (ts : List Token) : Value := .array (tokenValues ts)

/-! ### Strings -/

theorem hexDigit_digitChar : ∀ n < 16, HexDigit (Nat.digitChar n) n := by
  unfold HexDigit
  decide

/-- The number of a control has two digits behind two zeros. -/
theorem controlDigits_eq : ∀ n < 0x20,
    List.replicate (4 - (Nat.toDigits 16 n).length) '0' ++ Nat.toDigits 16 n =
      ['0', '0', Nat.digitChar (n / 16), Nat.digitChar (n % 16)] := by
  decide

/-- **Escaping is proper:** what stands for a character in a string is the character, a letter that
stands for it, or its number. -/
theorem stringText_escapedChar (c : Char) {cs : List Char} {ns : List Nat}
    (onward : StringText cs ns) : StringText (escapedChar c ++ cs) (c.toNat :: ns) := by
  unfold escapedChar
  split
  -- the characters that a letter stands for
  iterate 7 exact .escape (by decide) onward
  next hquote hbackslash _ _ _ _ _ =>
    split
    · next hcontrol =>
      -- a control is written by its number, the first two digits of which are zeros
      have hzero : HexDigit '0' 0 := .inl rfl
      have hsum : ((0 * 16 + 0) * 16 + c.toNat / 16) * 16 + c.toNat % 16 = c.toNat := by omega
      have hnumber := StringText.number hzero hzero (hexDigit_digitChar (c.toNat / 16) (by omega))
        (hexDigit_digitChar (c.toNat % 16) (by omega)) onward
      rw [hsum] at hnumber
      rw [List.cons_append, List.cons_append, List.cons_append, controlDigits_eq _ hcontrol]
      exact hnumber
    · -- any other character stands for itself
      next hcontrol =>
      exact .plain hquote hbackslash (Nat.not_lt.mp hcontrol) onward

theorem stringText_escaped (cs : List Char) :
    StringText (cs.flatMap escapedChar) (cs.map Char.toNat) := by
  induction cs with
  | nil => exact .nil
  | cons c cs ih => exact stringText_escapedChar c ih

/-- No character being half of another one, the numbers of characters stand for them. -/
theorem characters?_map_toNat (cs : List Char) : characters? (cs.map Char.toNat) = some cs := by
  induction cs with
  | nil => rfl
  | cons c cs ih =>
    rw [List.map_cons, characters?_cons (not_half c).1 (not_half c).2, ih, Char.ofNat_toNat]
    rfl

theorem string?_map_toNat (s : String) : string? (s.toList.map Char.toNat) = some s := by
  rw [string?, characters?_map_toNat, Option.map_some, String.ofList_toList]

theorem writes_renderString (s : String) : Writes (renderString s) (.value (.string (some s))) := by
  have h := Writes.string (stringText_escaped s.toList)
  rwa [string?_map_toNat] at h

/-! ### Texts -/

theorem blank_newline (level : Nat) : Blank (newline level) := by
  refine List.forall_mem_cons.mpr ⟨by decide, ?_⟩
  intro c hc
  rw [List.eq_of_mem_replicate hc]
  decide

/-- A member on a line of its own: one blank is behind the colon, and `back` is behind the value. -/
theorem writes_line (level : Nat) (name : String) {cs back : List Char} {v : Value}
    (value : Writes cs (.value v)) (hback : Blank back) :
    Writes (newline level ++ (renderString name ++ ':' :: ' ' :: (cs ++ back)))
      (.member (some name, v)) := by
  have helement := Writes.element (b := [' ']) (by decide) value hback
  have h := Writes.member (blank_newline level) (stringText_escaped name.toList)
    (List.forall_mem_nil _) helement
  rw [string?_map_toNat] at h
  simpa [renderString] using h

/-- An object of two members on lines of their own. -/
theorem writes_lines (level : Nat) (name name' : String) {cs cs' : List Char} {v v' : Value}
    (value : Writes cs (.value v)) (value' : Writes cs' (.value v')) :
    Writes ('\x7b' :: (newline (level + 1) ++ (renderString name ++ ':' :: ' ' :: (cs ++ ',' ::
      (newline (level + 1) ++ (renderString name' ++ ':' :: ' ' :: (cs' ++ (newline level ++
        ['\x7d'])))))))) (.value (.object [(some name, v), (some name', v')])) := by
  have h := Writes.object (.moreMembers (writes_line (level + 1) name value (List.forall_mem_nil _))
    (.oneMember (writes_line (level + 1) name' value' (blank_newline level))))
  simpa using h

mutual

/-- What a token is written as. -/
theorem writes_renderToken (level : Nat) :
    ∀ t, Writes (renderToken level t) (.value (tokenValue t))
  | .leaf kind text => by
    have h := writes_lines level "type" "text" (writes_renderString kind) (writes_renderString text)
    have htype : "\"type\": ".toList = renderString "type" ++ [':', ' '] := rfl
    have htext : "\"text\": ".toList = renderString "text" ++ [':', ' '] := rfl
    simpa [renderToken, tokenValue, htype, htext] using h
  | .branch kind ts => by
    have h := writes_lines level "type" "children" (writes_renderString kind)
      (writes_renderForest (level + 1) ts)
    have htype : "\"type\": ".toList = renderString "type" ++ [':', ' '] := rfl
    have hchildren : "\"children\": ".toList = renderString "children" ++ [':', ' '] := rfl
    simpa [renderToken, tokenValue, forestValue, htype, hchildren] using h

/-- What a forest is written as. -/
theorem writes_renderForest (level : Nat) :
    ∀ ts, Writes (renderForest level ts) (.value (forestValue ts))
  | [] => Writes.emptyArray (List.forall_mem_nil _)
  | t :: ts => by
    have h := Writes.array (writes_renderRest level ts (writes_renderToken (level + 1) t))
    simpa [renderForest, forestValue, tokenValues] using h

/-- What the tokens behind another one are written as. -/
theorem writes_renderRest (level : Nat) :
    ∀ ts {cs v}, Writes cs (.value v) →
      Writes (newline (level + 1) ++ (cs ++ (renderRest level ts ++ newline level)))
        (.elements (v :: tokenValues ts))
  | [], cs, v, value => .one (.element (blank_newline _) value (blank_newline _))
  | t :: ts, cs, v, value => by
    have hfirst := Writes.element (blank_newline (level + 1)) value (List.forall_mem_nil _)
    have honward := writes_renderRest level ts (writes_renderToken (level + 1) t)
    have h := Writes.more hfirst honward
    simpa [renderRest, tokenValues] using h

end

/-- **What is written is JSON.** -/
theorem document_render (ts : List Token) : (forestValue ts).Document (render ts) := by
  have hblank : Blank [] := List.forall_mem_nil _
  have h := Writes.element hblank (writes_renderForest 0 ts) hblank
  rw [List.nil_append, List.append_nil] at h
  rwa [Value.Document, render, String.toList_ofList]

/-! ### Nesting -/

mutual

/-- A token at a depth is nested no more than what is left of 126 below it if no token inside it is
deeper than 62. -/
theorem nesting_tokenValue : ∀ (t : Token) (depth : Nat),
    (tokenValue t).nesting + 2 * depth ≤ 126 ↔ ∀ x ∈ t.walkFrom depth, x.depth ≤ 62
  | .leaf kind text, depth => by
    have hnesting : (tokenValue (.leaf kind text)).nesting = 1 := rfl
    -- a leaf is one object, so both sides bound its depth
    rw [hnesting, Token.walkFrom, List.forall_mem_singleton]
    dsimp only
    omega
  | .branch kind ts, depth => by
    -- a branch is an object and the array of its children: two more, and one level deeper
    have hnesting : (tokenValue (.branch kind ts)).nesting =
        Value.nestingOfItems (tokenValues ts) + 2 := by
      simp [tokenValue, Value.nesting, Value.nestingOfMembers]
    have hsum : Value.nestingOfItems (tokenValues ts) + 2 + 2 * depth =
        Value.nestingOfItems (tokenValues ts) + 2 * (depth + 1) := by omega
    rw [hnesting, hsum, nesting_tokenValues ts (depth + 1), Token.walkFrom, List.forall_mem_cons]
    exact and_congr_left' Nat.succ_le_succ_iff

/-- The same of the tokens of a forest, if the depth of the forest is not too much already. -/
theorem nesting_tokenValues : ∀ (ts : List Token) (depth : Nat),
    Value.nestingOfItems (tokenValues ts) + 2 * depth ≤ 126 ↔
      depth ≤ 63 ∧ ∀ x ∈ Token.walkList depth ts, x.depth ≤ 62
  | [], depth => by
    have hnesting : Value.nestingOfItems (tokenValues []) = 0 := rfl
    have hall : ∀ x ∈ Token.walkList depth [], x.depth ≤ 62 := List.forall_mem_nil _
    rw [hnesting, and_iff_left hall]
    omega
  | t :: ts, depth => by
    have hmax : ∀ a b : Nat, max a b + 2 * depth ≤ 126 ↔
        a + 2 * depth ≤ 126 ∧ b + 2 * depth ≤ 126 := by omega
    rw [tokenValues, Value.nestingOfItems, hmax, nesting_tokenValue t depth,
      nesting_tokenValues ts depth, Token.walkList, List.forall_mem_append, and_left_comm]

end

/-- **Two arrays and objects for each level** of a forest, and one for the forest itself. -/
theorem nesting_forestValue (ts : List Token) :
    (forestValue ts).nesting ≤ maxNesting ↔ ∀ x ∈ Token.walkList 0 ts, x.depth ≤ 62 := by
  have h := (nesting_tokenValues ts 0).trans (and_iff_right (Nat.zero_le 63))
  rw [forestValue, Value.nesting, maxNesting, ← h]
  exact Nat.succ_le_succ_iff

/-! ### Reading back -/

theorem readToken_leaf (kind text : String) :
    readToken (tokenValue (.leaf kind text)).toJson = assemble kind (some text) none := rfl

theorem readToken_branch (kind : String) (ts : List Token) :
    readToken (tokenValue (.branch kind ts)).toJson =
      readItems none (Value.itemsToJson (tokenValues ts)) >>= fun us =>
        assemble kind none (some us) := by
  have hread : readToken (tokenValue (.branch kind ts)).toJson =
      ((readItems none (Value.itemsToJson (tokenValues ts))).map some >>= fun us =>
        assemble kind none us) := rfl
  rw [hread]
  cases readItems none (Value.itemsToJson (tokenValues ts)) <;> rfl

mutual

/-- A token is read back as itself, if no token inside it is empty. -/
theorem readToken_tokenValue : ∀ (t : Token) (depth : Nat) {u : Token},
    readToken (tokenValue t).toJson = .ok u ↔
      u = t ∧ ∀ x ∈ t.walkFrom depth, x.token.isEmpty = false
  | .leaf kind text, depth, u => by
    rw [readToken_leaf, assemble_eq_ok, Token.walkFrom, List.forall_mem_singleton]
    simp [Token.isEmpty, and_comm]
  | .branch kind ts, depth, u => by
    rw [readToken_branch, bind_eq_ok, Token.walkFrom, List.forall_mem_cons]
    simp only [readItems_tokenValues ts (depth + 1), assemble_eq_ok]
    constructor
    · -- the children are read back, and the branch is made of them if there are any
      rintro ⟨_, ⟨rfl, hfilled⟩, ⟨_, ⟨⟩, _⟩ | ⟨_, -, ⟨⟩, hne, rfl⟩⟩
      exact ⟨rfl, by simpa [Token.isEmpty] using hne, hfilled⟩
    · rintro ⟨rfl, hne, hfilled⟩
      exact ⟨ts, ⟨rfl, hfilled⟩, .inr ⟨ts, trivial, rfl, by simpa [Token.isEmpty] using hne, rfl⟩⟩

theorem readItems_tokenValues : ∀ (ts : List Token) (depth : Nat) {us : List Token},
    readItems none (Value.itemsToJson (tokenValues ts)) = .ok us ↔
      us = ts ∧ ∀ x ∈ Token.walkList depth ts, x.token.isEmpty = false
  | [], depth, us => by
    simp [tokenValues, Value.itemsToJson, readItems, closed, Except.map, Token.walkList,
      eq_comm (b := us)]
  | t :: ts, depth, us => by
    rw [tokenValues, Value.itemsToJson, readItems, Token.walkList, List.forall_mem_append]
    simp only [bind_eq_ok, readToken_tokenValue t depth, readItems_tokenValues ts depth]
    constructor
    · rintro ⟨_, ⟨rfl, htoken⟩, _, ⟨rfl, hrest⟩, ⟨⟩⟩
      exact ⟨rfl, htoken, hrest⟩
    · rintro ⟨rfl, htoken, hrest⟩
      exact ⟨t, ⟨rfl, htoken⟩, ts, ⟨rfl, hrest⟩, rfl⟩

end

/-- **What a written forest is read as:** itself, if no token is empty and none has more than 62
branches around it, and nothing else. -/
theorem ofText_render_eq_ok_iff {ts us : List Token} :
    ofText (render ts) = .ok us ↔ us = ts ∧
      ∀ x ∈ Token.walkList 0 ts, x.token.isEmpty = false ∧ x.depth ≤ 62 := by
  rw [ofText_eq_ok_iff (document_render ts), nesting_forestValue, forestValue,
    denotesForest_array_iff, ← readItems_toJson, readItems_tokenValues ts 0, forall₂_and]
  tauto

/-- **A forest through JSON and back.** It comes back exactly if no token is empty and none has more
than 62 branches around it; otherwise the text is refused. -/
theorem ofText_render (ts : List Token) :
    (ofText (render ts) = .ok ts ↔
        ∀ x ∈ Token.walkList 0 ts, x.token.isEmpty = false ∧ x.depth ≤ 62) ∧
      (ofText (render ts) ≠ .ok ts → ∃ e, ofText (render ts) = .error e) := by
  refine ⟨ofText_render_eq_ok_iff.trans (and_iff_right rfl), ?_⟩
  intro hrefused
  cases hresult : ofText (render ts) with
  | error e => exact ⟨e, rfl⟩
  | ok us =>
    obtain ⟨rfl, -⟩ := ofText_render_eq_ok_iff.mp hresult
    exact absurd hresult hrefused

end InlineMarkup.Json.Forest
