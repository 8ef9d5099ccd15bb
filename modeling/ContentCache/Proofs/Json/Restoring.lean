import ContentCache.Json.Reader
import ContentCache.Json.Writer

/-!
# Written documents are read back

The documents that are sent hold texts, arrays, and objects whose names are texts. The characters of such a
document become tokens wherever they stand between others, and from these the document is read as it was.

* `Json.Lexes`: characters that become tokens, whatever comes before and behind them.
* `Json.Restores`: characters that become tokens from which a value is read.
* `Json.IsRestored`: a value whose written form is read back.
* `Json.Textual`: a document of texts, arrays and objects.

Main statement: `Textual.read?_write`, with `lexes_quote` (a quoted text is one string).
-/

namespace ContentCache.Json

/-! ## Characters of a string -/

theorem hexValue?_hexDigit : ∀ n < 16, hexValue? (Bytes.hexDigit n) = some n := by decide

/-- A control character is escaped by its number. -/
theorem lex_escapedUnit {n : Nat} (h : n < 32) (units : List Nat) (rest : List Char) (acc : List Token) :
    lex (.string units)
        ('\\' :: 'u' :: '0' :: '0' :: Bytes.hexDigit (n / 16) :: Bytes.hexDigit (n % 16) :: rest) acc =
      lex (.string (n :: units)) rest acc := by
  have hhigh := hexValue?_hexDigit (n / 16) (by omega)
  have hlow := hexValue?_hexDigit (n % 16) (by omega)
  have hzero : hexValue? '0' = some 0 := rfl
  have hn : n / 16 * 16 + n % 16 = n := by omega
  simp [lex_cons, lexChar, hhigh, hlow, hzero, hn]

/-- **A character of a string is read as it was**, escaped or not. -/
theorem lex_escapeChar (c : Char) (units : List Nat) (rest : List Char) (acc : List Token) :
    lex (.string units) (escapeChar c ++ rest) acc = lex (.string (c.toNat :: units)) rest acc := by
  have named {d : Char} {n : Nat} (hu : d ≠ 'u') (hd : escape? d = some n) :
      lex (.string units) ('\\' :: d :: rest) acc = lex (.string (n :: units)) rest acc := by
    simp [lex_cons, lexChar, hu, hd]
  unfold escapeChar
  split
  · next h => subst h; exact named (by decide) rfl
  split
  · next h => subst h; exact named (by decide) rfl
  split
  · next h => subst h; exact named (by decide) rfl
  split
  · next h => subst h; exact named (by decide) rfl
  split
  · next h => subst h; exact named (by decide) rfl
  split
  · next h => rw [h]; exact named (by decide) rfl
  split
  · next h => rw [h]; exact named (by decide) rfl
  split
  · next h => exact lex_escapedUnit h units rest acc
  · next hquote hbackslash _ _ _ _ _ hcontrol =>
    simp [lex_cons, lexChar, hquote, hbackslash, hcontrol]

theorem lex_escapedChars (cs : List Char) (units : List Nat) (rest : List Char) (acc : List Token) :
    lex (.string units) (cs.flatMap escapeChar ++ rest) acc =
      lex (.string ((cs.map Char.toNat).reverse ++ units)) rest acc := by
  induction cs generalizing units with
  | nil => rfl
  | cons c cs ih =>
    rw [List.flatMap_cons, List.append_assoc, lex_escapeChar, ih, List.map_cons, List.reverse_cons,
      List.append_assoc, List.singleton_append]

/-- No character is half of a surrogate pair. -/
theorem not_surrogate (c : Char) : ¬ (0xD800 ≤ c.toNat ∧ c.toNat ≤ 0xDFFF) := by
  have h := c.valid
  simp only [UInt32.isValidChar, Nat.isValidChar] at h
  show ¬ (_ ≤ c.val.toNat ∧ c.val.toNat ≤ _)
  omega

theorem joinUnits_toNat (cs : List Char) : joinUnits (cs.map Char.toNat) = some cs := by
  induction cs with
  | nil => rfl
  | cons c cs ih =>
    have hc := not_surrogate c
    have hhigh : ¬ (0xD800 ≤ c.toNat ∧ c.toNat ≤ 0xDBFF) := by omega
    have hlow : ¬ (0xDC00 ≤ c.toNat ∧ c.toNat ≤ 0xDFFF) := by omega
    cases cs with
    | nil => simp [joinUnits, hc, Char.ofNat_toNat]
    | cons d ds =>
      rw [List.map_cons] at ih
      simp [joinUnits, hhigh, hlow, ih, Char.ofNat_toNat]

/-! ## Characters that become tokens -/

/-- Characters that become tokens, whatever comes before and behind them. -/
def Lexes (cs : List Char) (tokens : List Token) : Prop :=
  ∀ rest acc, lex .between (cs ++ rest) acc = lex .between rest (tokens.reverse ++ acc)

theorem Lexes.append {cs ds : List Char} {tokens others : List Token} (h : Lexes cs tokens)
    (h' : Lexes ds others) : Lexes (cs ++ ds) (tokens ++ others) := by
  intro rest acc
  rw [List.append_assoc, h, h', List.reverse_append, List.append_assoc]

/-- **A quoted text is one string.** -/
theorem lexes_quote (s : String) : Lexes (quote s).toList [.string (some s)] := by
  intro rest acc
  have hopen : lex .between ((quote s).toList ++ rest) acc =
      lex (.string []) (s.toList.flatMap escapeChar ++ '"' :: rest) acc := by
    simp [quote, lex_cons, lexChar, between]
  have htext : stringText ((s.toList.map Char.toNat).reverse ++ []) = some s := by
    rw [List.append_nil, stringText, List.reverse_reverse, joinUnits_toNat, Option.map_some,
      String.ofList_toList]
  rw [hopen, lex_escapedChars]
  simp only [lex_cons, lexChar, if_true, htext]
  rfl

/-! ## Values that are read back -/

/-- Characters that become tokens from which a value is read, wherever one may stand. -/
structure Restores (cs : List Char) (tokens : List Token) (value : Json) : Prop where
  lexes : Lexes cs tokens
  reads : ∀ rest open_,
    readTokens .value (tokens ++ rest) open_ = readTokens (.after value) rest open_
  /-- They do not close an array. -/
  begins : ∀ rest open_,
    readTokens .valueOrEnd (tokens ++ rest) open_ = readTokens .value (tokens ++ rest) open_

/-- A value whose written form is read back. -/
def IsRestored (value : Json) : Prop := ∃ tokens, Restores value.write.toList tokens value

theorem writeItems_eq_map (items : List Json) : writeItems items = items.map write := by
  induction items with
  | nil => rfl
  | cons item rest ih => rw [writeItems, ih, List.map_cons]

/-- The written form of a member. -/
def memberText (m : Option String × Json) : String := quote (m.1.getD "") ++ ":" ++ m.2.write

theorem writeMembers_eq_map (members : List (Option String × Json)) :
    writeMembers members = members.map memberText := by
  induction members with
  | nil => rfl
  | cons member rest ih => rw [writeMembers, ih, List.map_cons, memberText]

/-- Behind the first of several texts, each one has a comma before it. -/
theorem toList_intercalate_cons (text : String) (texts : List String) :
    (",".intercalate (text :: texts)).toList = text.toList ++ texts.flatMap (',' :: ·.toList) := by
  induction texts generalizing text with
  | nil => simp
  | cons next rest ih => simp [String.intercalate_cons_cons, ih]

/-- The items behind the first one, and the end of their array. -/
theorem further_items {items : List Json} (h : ∀ item ∈ items, IsRestored item) :
    ∃ tokens, Lexes ((items.map write).flatMap (',' :: ·.toList)) tokens ∧
      ∀ value front rest outer,
        readTokens (.after value) (tokens ++ .rightBracket :: rest) (.array front :: outer) =
          readTokens (.after (.array (front.reverse ++ value :: items))) rest outer := by
  induction items with
  | nil =>
    refine ⟨[], fun _ _ => rfl, fun value front rest outer => ?_⟩
    rw [← List.reverse_cons]
    rfl
  | cons item items ih =>
    obtain ⟨first, hfirst⟩ := h item List.mem_cons_self
    obtain ⟨tokens, hlex, hread⟩ := ih fun j hj => h j (List.mem_cons_of_mem _ hj)
    have hcomma : Lexes [','] [.comma] := fun _ _ => rfl
    refine ⟨.comma :: (first ++ tokens), (hcomma.append hfirst.lexes).append hlex, ?_⟩
    intro value front rest outer
    rw [List.cons_append, List.append_assoc]
    show readTokens .value (first ++ _) (.array (value :: front) :: outer) = _
    rw [hfirst.reads, hread, List.reverse_cons, List.append_assoc, List.singleton_append]

theorem isRestored_array {items : List Json} (h : ∀ item ∈ items, IsRestored item) :
    IsRestored (.array items) := by
  have hopen : Lexes ['['] [.leftBracket] := fun _ _ => rfl
  have hclose : Lexes [']'] [.rightBracket] := fun _ _ => rfl
  cases items with
  | nil =>
    refine ⟨[.leftBracket, .rightBracket], ?_, fun _ _ => rfl, fun _ _ => rfl⟩
    exact hopen.append hclose
  | cons item items =>
    obtain ⟨first, hfirst⟩ := h item List.mem_cons_self
    obtain ⟨tokens, hlex, hread⟩ := further_items fun j hj => h j (List.mem_cons_of_mem _ hj)
    have hwrite : (write (.array (item :: items))).toList =
        ['['] ++ (item.write.toList ++ (items.map write).flatMap (',' :: ·.toList)) ++ [']'] := by
      rw [write, writeItems_eq_map, List.map_cons, String.toList_append, String.toList_append,
        toList_intercalate_cons]
      rfl
    refine ⟨[.leftBracket] ++ (first ++ tokens) ++ [.rightBracket], ?_, ?_, fun _ _ => rfl⟩
    · rw [hwrite]
      exact (hopen.append (hfirst.lexes.append hlex)).append hclose
    · intro rest open_
      simp only [List.append_assoc, List.cons_append, List.nil_append]
      show readTokens .valueOrEnd (first ++ _) (.array [] :: open_) = _
      rw [hfirst.begins, hfirst.reads, hread]
      rfl

/-- A member is read behind what has been read of its object. -/
theorem member_restored (name : String) {value : Json} (h : IsRestored value) :
    ∃ tokens, Lexes (memberText (some name, value)).toList (.string (some name) :: tokens) ∧
      ∀ members rest outer, readTokens (.colon members (some name)) (tokens ++ rest) outer =
        readTokens (.after value) rest (.object members (some name) :: outer) := by
  obtain ⟨tokens, hvalue⟩ := h
  have hcolon : Lexes [':'] [.colon] := fun _ _ => rfl
  refine ⟨.colon :: tokens, ?_, fun members rest outer => ?_⟩
  · rw [memberText, String.toList_append, String.toList_append]
    exact ((lexes_quote name).append hcolon).append hvalue.lexes
  · rw [List.cons_append, ← hvalue.reads]
    rfl

/-- The members behind the first one, and the end of their object. -/
theorem further_members {members : List (Option String × Json)}
    (named : ∀ m ∈ members, m.1.isSome = true) (h : ∀ m ∈ members, IsRestored m.2) :
    ∃ tokens, Lexes ((members.map memberText).flatMap (',' :: ·.toList)) tokens ∧
      ∀ name value front rest outer,
        readTokens (.after value) (tokens ++ .rightBrace :: rest) (.object front name :: outer) =
          readTokens (.after (.object (front.reverse ++ (name, value) :: members))) rest outer := by
  induction members with
  | nil =>
    refine ⟨[], fun _ _ => rfl, fun name value front rest outer => ?_⟩
    rw [← List.reverse_cons]
    rfl
  | cons member members ih =>
    obtain ⟨memberName, memberValue⟩ := member
    obtain ⟨text, rfl⟩ := Option.isSome_iff_exists.1 (named _ List.mem_cons_self)
    obtain ⟨first, hfirst, hmember⟩ := member_restored text (h _ List.mem_cons_self)
    obtain ⟨tokens, hlex, hread⟩ := ih (fun m hm => named m (List.mem_cons_of_mem _ hm))
      fun m hm => h m (List.mem_cons_of_mem _ hm)
    have hcomma : Lexes [','] [.comma] := fun _ _ => rfl
    refine ⟨.comma :: (.string (some text) :: first ++ tokens), (hcomma.append hfirst).append hlex, ?_⟩
    intro name value front rest outer
    rw [List.cons_append, List.append_assoc, List.cons_append]
    show readTokens (.colon ((name, value) :: front) (some text)) (first ++ _) outer = _
    rw [hmember, hread, List.reverse_cons, List.append_assoc, List.singleton_append]

theorem isRestored_object {members : List (Option String × Json)}
    (named : ∀ m ∈ members, m.1.isSome = true) (h : ∀ m ∈ members, IsRestored m.2) :
    IsRestored (.object members) := by
  have hopen : Lexes ['\x7b'] [.leftBrace] := fun _ _ => rfl
  have hclose : Lexes ['\x7d'] [.rightBrace] := fun _ _ => rfl
  cases members with
  | nil =>
    refine ⟨[.leftBrace, .rightBrace], ?_, fun _ _ => rfl, fun _ _ => rfl⟩
    exact hopen.append hclose
  | cons member members =>
    obtain ⟨memberName, memberValue⟩ := member
    obtain ⟨text, rfl⟩ := Option.isSome_iff_exists.1 (named _ List.mem_cons_self)
    obtain ⟨first, hfirst, hmember⟩ := member_restored text (h _ List.mem_cons_self)
    obtain ⟨tokens, hlex, hread⟩ := further_members (fun m hm => named m (List.mem_cons_of_mem _ hm))
      fun m hm => h m (List.mem_cons_of_mem _ hm)
    have hwrite : (write (.object ((some text, memberValue) :: members))).toList =
        ['\x7b'] ++ ((memberText (some text, memberValue)).toList ++
          (members.map memberText).flatMap (',' :: ·.toList)) ++ ['\x7d'] := by
      rw [write, writeMembers_eq_map, List.map_cons, String.toList_append, String.toList_append,
        toList_intercalate_cons]
      rfl
    refine ⟨[.leftBrace] ++ (.string (some text) :: first ++ tokens) ++ [.rightBrace], ?_, ?_,
      fun _ _ => rfl⟩
    · rw [hwrite]
      exact (hopen.append (hfirst.append hlex)).append hclose
    · intro rest open_
      simp only [List.append_assoc, List.cons_append, List.nil_append]
      show readTokens (.colon [] (some text)) (first ++ _) open_ = _
      rw [hmember, hread]
      rfl

/-- A document of texts, arrays, and objects whose names are texts. -/
inductive Textual : Json → Prop where
  | string (text : String) : Textual (.string (some text))
  | array {items : List Json} (textual : ∀ item ∈ items, Textual item) : Textual (.array items)
  | object {members : List (Option String × Json)} (named : ∀ m ∈ members, m.1.isSome = true)
      (textual : ∀ m ∈ members, Textual m.2) : Textual (.object members)

theorem textual_ofMembers {members : List (String × Json)} (h : ∀ m ∈ members, m.2.Textual) :
    (ofMembers members).Textual := by
  constructor <;> simp only [List.mem_map, forall_exists_index, and_imp] <;> rintro - m hm rfl
  · rfl
  · exact h m hm

theorem Textual.isRestored {value : Json} (h : value.Textual) : IsRestored value := by
  induction h with
  | string text =>
    refine ⟨[.string (some text)], ?_, fun _ _ => rfl, fun _ _ => rfl⟩
    rw [write]
    exact lexes_quote text
  | array _ ih => exact isRestored_array ih
  | object named _ ih => exact isRestored_object named ih

/-- **A written document is read as it was.** -/
theorem Textual.read?_write {value : Json} (h : value.Textual) : read? value.write = some value := by
  obtain ⟨tokens, restores⟩ := h.isRestored
  have htokens : tokens? value.write = some tokens := by
    have hlex := restores.lexes [] []
    rw [List.append_nil, List.append_nil] at hlex
    rw [tokens?, hlex, lex_nil, List.reverse_reverse]
  have hreads := restores.reads [] []
  rw [List.append_nil] at hreads
  rw [read?, htokens]
  exact hreads

end ContentCache.Json
