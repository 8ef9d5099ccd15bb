import ContentCache.Proofs.Cache.Carrying

/-!
# Spellings of an expected digest

A caller may spell the digest that it expects in many ways: with blanks around it, with the name of the
algorithm in front, and with letters of either case. All of them have one plain form, and a call looks at
nothing else: not in its listing, not when it compares, and not in what it tells of a mismatch.

* `Digest.Spells`: a text is a spelling of a digest.

Main statements: `Digest.plain_of_spells` (every spelling has the digest as its plain form),
`Cache.copy_of_plain` (a call goes by the plain form) and `Cache.copy_respelled`.
-/

namespace ContentCache

/-! ## Blanks -/

namespace Text

theorem dropWhile_blanks {outer inner : List Char} (blank : ∀ c ∈ outer, isBlank c = true)
    (plain : ∀ c ∈ inner.head?, isBlank c = false) : (outer ++ inner).dropWhile isBlank = inner := by
  rw [List.dropWhile_append_of_pos blank]
  cases inner with
  | nil => rfl
  | cons c rest => simp [plain c rfl]

/-- Blanks at both ends are all that is trimmed of a text without blanks. -/
theorem trimChars_append {front cs back : List Char} (blank : ∀ c ∈ front ++ back, isBlank c = true)
    (plain : ∀ c ∈ cs, isBlank c = false) : trimChars (front ++ (cs ++ back)) = cs := by
  obtain ⟨hfront, hback⟩ := List.forall_mem_append.1 blank
  cases cs with
  | nil =>
    have hall : trimStartChars (front ++ back) = [] := by
      simpa [trimStartChars] using @dropWhile_blanks _ [] blank (by simp)
    rw [List.nil_append, trimChars, hall]
    rfl
  | cons c rest =>
    have hstart : trimStartChars (front ++ (c :: rest ++ back)) = c :: rest ++ back :=
      dropWhile_blanks hfront (by simpa using plain c (by simp))
    have hend : ((c :: rest ++ back).reverse).dropWhile isBlank = (c :: rest).reverse := by
      rw [List.reverse_append]
      refine dropWhile_blanks (by simpa using hback) fun d hd => plain d ?_
      exact List.mem_reverse.1 (List.mem_of_mem_head? hd)
    rw [trimChars, hstart, trimEndChars, hend, List.reverse_reverse]

/-- The code of a letter in lower case. -/
theorem toLower_toNat (c : Char) :
    c.toLower.toNat = if 65 ≤ c.toNat ∧ c.toNat ≤ 90 then c.toNat + 32 else c.toNat := by
  have hupper : (c.val ≥ 'A'.val ∧ c.val ≤ 'Z'.val) ↔ 65 ≤ c.toNat ∧ c.toNat ≤ 90 := Iff.rfl
  unfold Char.toLower
  split
  · next h =>
    rw [if_pos (hupper.1 h)]
    have hsum : (c.val + ('a'.val - 'A'.val)).toNat = (c.toNat + 32) % 4294967296 := rfl
    exact hsum.trans (Nat.mod_eq_of_lt (by have := hupper.1 h; omega))
  · next h => rw [if_neg (mt hupper.2 h)]

/-- Whether a character is a blank does not depend on its case. -/
theorem isBlank_toLower (c : Char) : isBlank c.toLower = isBlank c := by
  unfold isBlank
  rw [toLower_toNat]
  split
  · simp only [isBlankCode]
    grind
  · rfl

/-- Only letters have another form in lower case. -/
theorem toLower_eq_colon {c : Char} : c.toLower = ':' ↔ c = ':' := by
  have hcolon : ':'.toNat = 58 := rfl
  rw [← Char.toNat_inj, ← Char.toNat_inj, toLower_toNat, hcolon]
  split <;> omega

end Text

/-! ## Spellings -/

namespace Digest

/-- The digits of a digest in its plain form. -/
def plainDigits : List Char := "0123456789abcdef".toList

/-- A text spells a digest that has the plain form `hex`: blanks may stand around it, the name of the
algorithm may stand in front of it, and letters may be of either case. -/
def Spells (hex : List Char) (spelling : String) : Prop :=
  ∃ front cs back, spelling.toList = front ++ (cs ++ back) ∧
    (∀ c ∈ front ++ back, Text.isBlank c = true) ∧
    (cs.map Char.toLower = hex ∨ cs.map Char.toLower = "sha256:".toList ++ hex)

variable {hex : List Char} {spelling : String}

/-- A digit of the plain form is in lower case, and it can be taken neither for a blank nor for a colon. -/
theorem of_mem_plainDigits {c : Char} (h : c ∈ plainDigits) :
    c.toLower = c ∧ Text.isBlank c = false ∧ c ≠ ':' := by
  have hall : plainDigits.all (fun c => c.toLower = c && (!Text.isBlank c && c ≠ ':')) = true := by decide
  simpa using List.all_eq_true.1 hall c h

/-- The plain form is a spelling itself. -/
theorem spells_self (h : ∀ c ∈ hex, c ∈ plainDigits) : Spells hex (String.ofList hex) := by
  refine ⟨[], hex, [], by simp, by simp, .inl ?_⟩
  rw [List.map_congr_left fun c hc => (of_mem_plainDigits (h c hc)).1, List.map_id']

theorem withoutAlgorithm_of_noColon {cs : List Char} (h : ':' ∉ cs) : withoutAlgorithm cs = cs := by
  simp [withoutAlgorithm, h]

theorem withoutAlgorithm_of_name {name cs : List Char} (h : name.map Char.toLower = algorithmName) :
    withoutAlgorithm (name ++ ':' :: cs) = cs := by
  have hname : ∀ c ∈ name, decide (c ≠ ':') = true := by
    intro c hc
    rw [decide_eq_true_iff]
    rintro rfl
    have : ':'.toLower ∈ algorithmName := h ▸ List.mem_map_of_mem hc
    exact absurd this (by decide)
  have htake : (name ++ ':' :: cs).takeWhile (· ≠ ':') = name := by
    rw [List.takeWhile_append_of_pos hname]
    simp
  have hdrop : (name ++ ':' :: cs).dropWhile (· ≠ ':') = ':' :: cs := by
    rw [List.dropWhile_append_of_pos hname]
    simp
  rw [withoutAlgorithm, htake, hdrop, h]
  simp

/-- **The plain form of a spelling** is the digest. -/
theorem plain_of_spells (digits : ∀ c ∈ hex, c ∈ plainDigits) (h : Spells hex spelling) :
    plain spelling = String.ofList hex := by
  obtain ⟨front, cs, back, hsplit, blank, hcase⟩ := h
  have hname : ∀ c ∈ "sha256:".toList, Text.isBlank c = false := by
    have hall : "sha256:".toList.all (fun c => !Text.isBlank c) = true := by decide
    simpa only [Bool.not_eq_true'] using List.all_eq_true.1 hall
  have hlower : ∀ c ∈ cs.map Char.toLower, Text.isBlank c = false := by
    intro c hc
    rcases hcase with h | h
    · exact (of_mem_plainDigits (digits c (h ▸ hc))).2.1
    · rcases List.mem_append.1 (h ▸ hc) with hc | hc
      · exact hname c hc
      · exact (of_mem_plainDigits (digits c hc)).2.1
  have htrim : Text.trimChars spelling.toList = cs := by
    rw [hsplit]
    refine Text.trimChars_append blank fun c hc => ?_
    rw [← Text.isBlank_toLower]
    exact hlower _ (List.mem_map_of_mem hc)
  rw [plain, plainChars, htrim]
  congr 1
  rcases hcase with h | h
  · rw [withoutAlgorithm_of_noColon, h]
    intro hcolon
    have hmem : ':'.toLower ∈ hex := h ▸ List.mem_map_of_mem hcolon
    exact (of_mem_plainDigits (digits _ hmem)).2.2 rfl
  · have h : cs.map Char.toLower = algorithmName ++ ':' :: hex := h
    obtain ⟨name, rest, rfl, hname, hrest⟩ := List.map_eq_append_iff.1 h
    obtain ⟨c, cs, rfl, hc, hcs⟩ := List.map_eq_cons_iff.1 hrest
    obtain rfl := Text.toLower_eq_colon.1 hc
    rw [withoutAlgorithm_of_name hname, hcs]

end Digest

/-! ## Calls -/

namespace Cache

variable {c : Cache} {source : String} {o : CacheOptions} {d d' : Option String}

/-- A listing goes by the plain form of the expected digest. -/
theorem listing_of_plain (h : d.map Digest.plain = d'.map Digest.plain) :
    c.listing source { o with expectedDigest := d } =
      c.listing source { o with expectedDigest := d' } := by
  simp only [listing, expected, h]

/-- So does the comparison with the digest of new content, and what it tells when they differ. -/
theorem populate_of_plain {url : Url} (h : d.map Digest.plain = d'.map Digest.plain) :
    c.populate source url { o with expectedDigest := d } =
      c.populate source url { o with expectedDigest := d' } := by
  simp only [populate, uploadOptions, expiry, expected, h]

/-- **A call goes by the plain form** of the expected digest. -/
theorem copy_of_plain (h : d.map Digest.plain = d'.map Digest.plain) :
    c.copy source { o with expectedDigest := d } = c.copy source { o with expectedDigest := d' } := by
  simp only [copy, lookup, listing_of_plain h, populate_of_plain h]
  rfl

/-- **Spellings of one digest are worth the same**: the digest is the plain form of each of them, a plain
form is its own, and calls that differ in the spelling only end the same in every world and leave the same
journal, repeated or not. -/
theorem copy_respelled {hex : List Char} (digits : ∀ c ∈ hex, c ∈ Digest.plainDigits)
    {spelling : String} (spelled : Digest.Spells hex spelling) :
    Digest.plain spelling = String.ofList hex ∧
      Digest.plain (Digest.plain spelling) = Digest.plain spelling ∧
      ∀ other, Digest.Spells hex other → ∀ (c : Cache) (source : String) (o : CacheOptions)
        (p : RetryPolicy) (w : World) (j : Journal),
        c.copy source { o with expectedDigest := some spelling } w j =
            c.copy source { o with expectedDigest := some other } w j ∧
          c.copyRetrying source { o with expectedDigest := some spelling } p w j =
            c.copyRetrying source { o with expectedDigest := some other } p w j := by
  have hplain := Digest.plain_of_spells digits spelled
  refine ⟨hplain, ?_, fun other hother c source o p w j => ?_⟩
  · rw [hplain, Digest.plain_of_spells digits (Digest.spells_self digits)]
  · have hsame : (some spelling).map Digest.plain = (some other).map Digest.plain := by
      rw [Option.map_some, Option.map_some, hplain, Digest.plain_of_spells digits hother]
    rw [copyRetrying, copyRetrying, copy_of_plain hsame]
    exact ⟨rfl, rfl⟩

/-- A digest that is not that of the content is told in its plain form, however it was spelled. -/
theorem copy_respelled_mismatch :
    (∀ c ∈ ['a', 'b'], c ∈ Digest.plainDigits) ∧ Digest.Spells ['a', 'b'] "\u3000Sha256:aB\t" ∧
      Digest.Spells ['a', 'b'] "AB " ∧ Digest.plain "\u3000Sha256:aB\t" = "ab" ∧
      usual.copy "http://o/" { expectedDigest := some "\u3000Sha256:aB\t" } chunkedWorld {} =
        usual.copy "http://o/" { expectedDigest := some "AB " } chunkedWorld {} ∧
      haltOf (usual.copy "http://o/" { expectedDigest := some "AB " } chunkedWorld {}).1 =
        some (.failed (.digestMismatch "ab"
          "c0ddd62c7717180e7ffb8a15bb9674d3ec92592e0b7ac7d1d5289836b4553be2")) := by
  have digits : ∀ c ∈ ['a', 'b'], c ∈ Digest.plainDigits := by
    have hall : ['a', 'b'].all (· ∈ Digest.plainDigits) = true := by decide
    simpa only [decide_eq_true_eq] using List.all_eq_true.1 hall
  have spelled : Digest.Spells ['a', 'b'] "\u3000Sha256:aB\t" :=
    ⟨['\u3000'], "Sha256:aB".toList, ['\t'], by decide, List.all_eq_true.1 (by decide), .inr (by decide)⟩
  have other : Digest.Spells ['a', 'b'] "AB " :=
    ⟨[], "AB".toList, [' '], by decide, List.all_eq_true.1 (by decide), .inl (by decide)⟩
  obtain ⟨hplain, -, hcopy⟩ := copy_respelled digits spelled
  exact ⟨digits, spelled, other, hplain, (hcopy _ other usual "http://o/" {} .once chunkedWorld {}).1,
    by decide +kernel⟩

end Cache

end ContentCache
