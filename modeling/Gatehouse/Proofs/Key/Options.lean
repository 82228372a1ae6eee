import Gatehouse.Proofs.Key.Rendering
import Gatehouse.Proofs.Text.Trim

/-! # Keys behind options

    Options in front of a key line do not change its key (`parse_options`).  Two things are in
    the way.  The scan for the end of the options must stop at the blank behind them, past
    every blank between quotes (`skipOptions_append`); it stops nowhere else
    (`skipOptions_eq_some_iff`).  And before anything is skipped the whole line is read as if
    it had no options, so the options must never pass for an algorithm with its blob
    (`parseFields_options_ne`):

    * options without a blank are the first word, so the blob would be the algorithm of the
      key, but every algorithm holds a character that no base64 has;
    * of other options the first word holds a quote, which no known algorithm does, and an
      algorithm that is known by its form holds an `@`. -/

namespace Gatehouse.AuthorizedKey

open Key Text

/-! ## Options fields -/

/-- What can stand between two quotes: a backslash makes the character behind it an ordinary
    one. -/
inductive IsQuotation : List Char → Prop where
  | nil : IsQuotation []
  | plain {c : Char} {r : List Char} :
      c ≠ '"' → c ≠ '\\' → IsQuotation r → IsQuotation (c :: r)
  | escaped {c : Char} {r : List Char} : IsQuotation r → IsQuotation ('\\' :: c :: r)

/-- An options field: every quote is closed, and blanks stand between quotes only. -/
inductive IsOptions : List Char → Prop where
  | nil : IsOptions []
  | plain {c : Char} {r : List Char} :
      c ≠ '"' → isBlank c = false → IsOptions r → IsOptions (c :: r)
  | quotation {q r : List Char} :
      IsQuotation q → IsOptions r → IsOptions ('"' :: (q ++ '"' :: r))

theorem isBlank_quote : isBlank '"' = false := by decide

theorem dropBlanks_options {o : List Char} (h : IsOptions o) (hne : o ≠ []) (s : List Char) :
    dropBlanks (o ++ s) = o ++ s := by
  cases h with
  | nil => exact absurd rfl hne
  | plain _ hc _ => simp [dropBlanks, hc]
  | quotation _ _ => simp [dropBlanks, isBlank_quote]

/-- Options with a blank have a quote before it. -/
theorem quote_mem_firstWord {o : List Char} (h : IsOptions o)
    (hblank : ∃ c ∈ o, isBlank c = true) : '"' ∈ firstWord o := by
  induction h with
  | nil => simp at hblank
  | @plain c r _ hc _ ih =>
    -- The first character is no blank, so the one there is comes later.
    obtain ⟨d, hd, hdblank⟩ := hblank
    have hr : ∃ d ∈ r, isBlank d = true := by
      rcases List.mem_cons.1 hd with rfl | hd
      · rw [hc] at hdblank
        cases hdblank
      · exact ⟨d, hd, hdblank⟩
    have hfirst : firstWord (c :: r) = c :: firstWord r := by simp [firstWord, hc]
    rw [hfirst]
    exact List.mem_cons_of_mem _ (ih hr)
  | quotation _ _ _ => simp [firstWord, isBlank_quote]

/-! ## The scan -/

theorem afterOptions_quotation {q : List Char} (h : IsQuotation q) (s : List Char) :
    afterOptions .quoted (q ++ '"' :: s) = afterOptions .outside s := by
  induction h with
  | nil => rfl
  | plain hquote hslash _ ih => simpa [afterOptions, Place.next, hquote, hslash] using ih
  | escaped _ ih => simpa [afterOptions, Place.next] using ih

/-- Behind an options field the scan stands outside of quotes again. -/
theorem afterOptions_options {o : List Char} (h : IsOptions o) (s : List Char) :
    afterOptions .outside (o ++ s) = afterOptions .outside s := by
  induction h with
  | nil => rfl
  | plain hquote hblank _ ih => simpa [afterOptions, Place.next, hquote, hblank] using ih
  | @quotation q r hq _ ih =>
    rw [← ih, ← afterOptions_quotation hq (r ++ s)]
    simp [afterOptions, Place.next, isBlank_quote]

/-- What follows options and blanks is found without blanks in front. -/
theorem skipOptions_append {o b s : List Char} (ho : IsOptions o) (hb : IsGap b)
    (hs : words s ≠ []) : skipOptions (o ++ b ++ s) = some (dropBlanks s) := by
  have hrest : dropBlanks s ≠ [] := fun hnil => hs (words_of_dropBlanks_nil hnil)
  unfold skipOptions
  rw [List.append_assoc, afterOptions_options ho]
  cases b with
  | nil => exact absurd rfl hb.1
  | cons c b =>
    obtain ⟨hc, hb⟩ := List.forall_mem_cons.1 hb.2
    have hdrop : dropBlanks (b ++ s) = dropBlanks s := List.dropWhile_append_of_pos hb
    simp [afterOptions, hc, hdrop, hrest]

/-! ## Where the scan stops

    The scan stops behind an options field only.  From the middle of one it has still to
    meet whatever completes it, and that depends on its place. -/

/-- Does a text complete an options field of which the scan has come to a place? -/
def Completes : Place → List Char → Prop
  | .outside, o => IsOptions o
  | .quoted,  o => ∃ q r, IsQuotation q ∧ IsOptions r ∧ o = q ++ '"' :: r
  | .escaped, o => ∃ c q r, IsQuotation q ∧ IsOptions r ∧ o = c :: (q ++ '"' :: r)

/-- A character that the scan passes belongs to the field. -/
theorem completes_cons {place : Place} {c : Char} {o : List Char}
    (h : Completes (place.next c) o) (hc : place = .outside → isBlank c = false) :
    Completes place (c :: o) := by
  cases place with
  | outside =>
    by_cases hquote : c = '"'
    · subst hquote
      obtain ⟨q, r, hq, hr, rfl⟩ := h
      exact .quotation hq hr
    · simp only [Place.next, if_neg hquote] at h
      exact .plain hquote (hc rfl) h
  | quoted =>
    by_cases hquote : c = '"'
    · subst hquote
      exact ⟨[], o, .nil, h, rfl⟩
    · by_cases hslash : c = '\\'
      · subst hslash
        obtain ⟨d, q, r, hq, hr, rfl⟩ := h
        exact ⟨'\\' :: d :: q, r, .escaped hq, hr, rfl⟩
      · simp only [Place.next, if_neg hquote, if_neg hslash] at h
        obtain ⟨q, r, hq, hr, rfl⟩ := h
        exact ⟨c :: q, r, .plain hquote hslash hq, hr, rfl⟩
  | escaped =>
    obtain ⟨q, r, hq, hr, rfl⟩ := h
    exact ⟨c, q, r, hq, hr, rfl⟩

/-- Wherever the scan starts, it has passed what completes the field and then blanks. -/
theorem exists_of_afterOptions {place : Place} {s rest : List Char}
    (h : afterOptions place s = some rest) :
    ∃ o b, Completes place o ∧ IsGap b ∧ rest ≠ [] ∧ dropBlanks rest = rest ∧
      s = o ++ b ++ rest := by
  -- Every character that is passed changes what the rest of the field has to be.
  induction s generalizing place with
  | nil => cases h
  | cons c s ih =>
    unfold afterOptions at h
    split at h
    · rename_i hstop
      obtain ⟨rfl, hc⟩ := hstop
      by_cases hnil : dropBlanks s = []
      · simp [hnil] at h
      simp only [List.isEmpty_iff, hnil, if_false, Option.some.injEq] at h
      subst h
      have hgap : IsGap (c :: s.takeWhile isBlank) := by
        refine ⟨List.cons_ne_nil _ _, ?_⟩
        rw [List.forall_mem_cons]
        exact ⟨hc, fun d hd => List.mem_takeWhile_imp hd⟩
      have hrest : dropBlanks (dropBlanks s) = dropBlanks s := List.dropWhile_idempotent _ _
      have hsplit : s.takeWhile isBlank ++ dropBlanks s = s := List.takeWhile_append_dropWhile
      refine ⟨[], c :: s.takeWhile isBlank, .nil, hgap, hnil, hrest, ?_⟩
      rw [List.nil_append, List.cons_append, hsplit]
    · rename_i hpass
      obtain ⟨o, b, ho, hb, hne, hrest, rfl⟩ := ih h
      have hc : place = .outside → isBlank c = false := by
        intro hplace
        by_contra hblank
        exact hpass ⟨hplace, Bool.not_eq_false _ ▸ hblank⟩
      exact ⟨c :: o, b, completes_cons ho hc, hb, hne, hrest, rfl⟩

/-- The scan cuts off an options field and the blanks behind it, and it does so whenever
    something follows them. -/
theorem skipOptions_eq_some_iff {s rest : List Char} :
    skipOptions s = some rest ↔
      rest ≠ [] ∧ dropBlanks rest = rest ∧
        ∃ o b, IsOptions o ∧ IsGap b ∧ s = o ++ b ++ rest := by
  constructor
  · intro h
    obtain ⟨o, b, ho, hb, hne, hrest, hs⟩ := exists_of_afterOptions h
    exact ⟨hne, hrest, o, b, ho, hb, hs⟩
  · rintro ⟨hne, hrest, o, b, ho, hb, rfl⟩
    have hwords : words rest ≠ [] := by
      cases rest with
      | nil => exact absurd rfl hne
      | cons c r =>
        rw [words_of_dropBlanks_cons hrest]
        exact List.cons_ne_nil _ _
    rw [skipOptions_append ho hb hwords, hrest]

/-! ## Algorithms are no options and no base64 -/

theorem at_mem_of_isDomainName {name : String} (h : PublicKey.isDomainName name = true) :
    '@' ∈ name.toList := by
  by_contra hnone
  have hdrop : name.toList.dropWhile (· != '@') = [] := by
    rw [List.dropWhile_eq_nil_iff]
    intro c hc
    simpa using fun heq : c = '@' => hnone (heq ▸ hc)
  simp [PublicKey.isDomainName, hdrop] at h

/-- The algorithm of a key is known by its form, and then it holds an `@`, or by name, and then
    it holds a dash and no quote. -/
theorem at_mem_or_dash_mem_algorithm {key : PublicKey} (h : key.IsCanonical) :
    '@' ∈ key.algorithm.toList ∨ '-' ∈ key.algorithm.toList ∧ '"' ∉ key.algorithm.toList := by
  have hnamed := h.named
  unfold PublicKey.Kind.ofName? at hnamed
  split at hnamed
  case h_11 =>
    split at hnamed
    · rename_i hdomain
      exact .inl (at_mem_of_isDomainName hdomain)
    · cases hnamed
  -- What is left are the names known as such, each a text to be looked at.
  all_goals
    rename_i hknown
    rw [hknown]
    decide

/-- A field with an ASCII character outside the alphabet holds no key. -/
theorem readField_ne_ok {field : List Char} {c : Char} (hc : c ∈ field) (hascii : c.toNat < 128)
    (halphabet : c.toUInt8 ≠ Base64.pad ∧ Base64.value? c.toUInt8 = none) (key : PublicKey) :
    readField (String.ofList field) ≠ .ok key := by
  intro h
  obtain ⟨raw, hraw, -⟩ := decode_of_readField h
  have hmem : c.toUInt8 ∈ bytes (String.ofList field) := by
    rw [bytes_ofList, List.mem_flatMap]
    exact ⟨c, hc, by rw [utf8EncodeChar_ascii hascii]; exact List.mem_singleton.2 rfl⟩
  rcases Base64.isSome_value?_of_decode hraw _ hmem with hpad | hvalue
  · exact halphabet.1 hpad
  · rw [halphabet.2] at hvalue
    cases hvalue

/-- The name of an algorithm is no blob. -/
theorem readField_algorithm_ne_ok {key : PublicKey} (h : key.IsCanonical) (other : PublicKey) :
    readField key.algorithm ≠ .ok other := by
  rw [← String.ofList_toList (s := key.algorithm)]
  rcases at_mem_or_dash_mem_algorithm h with hat | ⟨hdash, -⟩
  · exact readField_ne_ok hat (by decide) (by decide) other
  · exact readField_ne_ok hdash (by decide) (by decide) other

/-! ## Lines with options -/

/-- Only its words decide how a line is read. -/
theorem parseFields_congr {s t : List Char} (h : words s = words t) :
    parseFields s = parseFields t := by
  unfold parseFields
  rw [h]

section
variable {o b s : List Char} {k other : AuthorizedKey}

theorem words_ne_nil_of_parseFields (h : parseFields s = .ok k) : words s ≠ [] := by
  obtain ⟨_, _, _, _, hwords, -⟩ := words_of_parseFields h
  rw [hwords]
  exact List.cons_ne_nil _ _

/-- Options with a blank do not start with the name of an algorithm: their first word holds a
    quote and, by assumption, no `@`. -/
theorem parseFields_ne_of_blank (ho : IsOptions o) (hblank : ∃ c ∈ o, isBlank c = true)
    (hat : '@' ∉ firstWord o) : parseFields (o ++ s) ≠ .ok other := by
  intro h
  obtain ⟨declared, field, _, key, hwords, hkey, halgorithm, -⟩ := words_of_parseFields h
  obtain ⟨raw, -, hdecode⟩ := decode_of_readField hkey
  have hne : o ≠ [] := by
    rintro rfl
    obtain ⟨c, hc, -⟩ := hblank
    cases hc
  have hfirst : key.algorithm.toList = firstWord o := by
    rw [halgorithm, String.toList_ofList, head_words (dropBlanks_options ho hne s) hwords,
      firstWord_append_of_blank hblank]
  have hcanonical := PublicKey.isCanonical_of_decode hdecode
  rcases at_mem_or_dash_mem_algorithm hcanonical with hmark | ⟨-, hquote⟩
  · exact hat (hfirst ▸ hmark)
  · exact hquote (hfirst ▸ quote_mem_firstWord ho hblank)

/-- Options without a blank are the first word, and the second is the name of an algorithm. -/
theorem parseFields_ne_of_isWord (ho : IsWord o) (hb : IsGap b) (hs : parseFields s = .ok k) :
    parseFields (o ++ b ++ s) ≠ .ok other := by
  intro h
  obtain ⟨_, field, _, _, hwords, hkey, -⟩ := words_of_parseFields h
  obtain ⟨declared, _, _, key, hwords', hkey', halgorithm, -⟩ := words_of_parseFields hs
  obtain ⟨raw, -, hdecode⟩ := decode_of_readField hkey'
  -- What stands where the blob should be is the first word of the line behind the options.
  rw [words_append_gap ho hb, hwords'] at hwords
  simp only [List.cons.injEq] at hwords
  obtain ⟨-, rfl, -⟩ := hwords
  rw [← halgorithm] at hkey
  exact readField_algorithm_ne_ok (PublicKey.isCanonical_of_decode hdecode) _ hkey

/-- A line with options is no key line as it stands. -/
theorem parseFields_options_ne (ho : IsOptions o) (hne : o ≠ [])
    (hat : (∀ c ∈ o, isBlank c = false) ∨ '@' ∉ firstWord o) (hb : IsGap b)
    (hs : parseFields s = .ok k) : parseFields (o ++ b ++ s) ≠ .ok other := by
  by_cases hblank : ∃ c ∈ o, isBlank c = true
  · rcases hat with hat | hat
    · obtain ⟨c, hc, hcblank⟩ := hblank
      rw [hat c hc] at hcblank
      cases hcblank
    · rw [List.append_assoc]
      exact parseFields_ne_of_blank ho hblank hat
  · have hword : ∀ c ∈ o, isBlank c = false := by
      intro c hc
      by_contra hcblank
      exact hblank ⟨c, hc, Bool.not_eq_false _ ▸ hcblank⟩
    exact parseFields_ne_of_isWord ⟨hne, hword⟩ hb hs

/-- The key of a line is found behind options, once nothing is left to trim. -/
theorem parseTrimmed_options (ho : IsOptions o) (hne : o ≠ [])
    (hat : (∀ c ∈ o, isBlank c = false) ∨ '@' ∉ firstWord o) (hb : IsGap b)
    (hs : parseFields s = .ok k) : parseTrimmed (o ++ b ++ s) = .ok k := by
  have hrest : skipOptions (o ++ b ++ s) = some (dropBlanks s) :=
    skipOptions_append ho hb (words_ne_nil_of_parseFields hs)
  -- The first reading of the line has to fail, or its result would be the key.
  unfold parseTrimmed
  cases hline : parseFields (o ++ b ++ s) with
  | ok other => exact absurd hline (parseFields_options_ne ho hne hat hb hs)
  | error fault =>
    rw [hrest, Option.map_some, parseFields_congr (words_dropBlanks s), hs]

end

/-- Options and blanks in front of a key line leave its algorithm, its blob and its comment as
    they are, whatever the options say.  They must not make the line a comment, and if they
    hold a blank, there must be no `@` before it: such options could be the name of an
    algorithm. -/
theorem parse_options {options blanks line : String} {k : AuthorizedKey}
    (hline : parseFields line.toList = .ok k) (hoptions : IsOptions options.toList)
    (hne : options ≠ "") (hblanks : IsGap blanks.toList)
    (hcomment : options.toList.head? ≠ some '#')
    (hat : (∀ c ∈ options.toList, isBlank c = false) ∨ '@' ∉ firstWord options.toList) :
    parse (options ++ blanks ++ line) = .ok k := by
  have hne' : options.toList ≠ [] := by simpa using hne
  -- Trimming takes off nothing but the blanks behind the words of the line.
  have hfront := dropBlanks_options hoptions hne' (blanks.toList ++ line.toList)
  rw [← List.append_assoc] at hfront
  have htrim := trim_append hfront (words_ne_nil_of_parseFields hline)
  have hkept : parseFields (line.toList.rdropWhile isBlank) = .ok k := by
    rw [parseFields_congr (words_rdropWhile _), hline]
  have htrimmed := parseTrimmed_options hoptions hne' hat hblanks hkept
  unfold parse
  rw [String.toList_append, String.toList_append, htrim]
  cases ho : options.toList with
  | nil => exact absurd ho hne'
  | cons c r =>
    have hc : c ≠ '#' := by
      rintro rfl
      exact hcomment (by rw [ho]; rfl)
    rw [ho] at htrimmed
    simpa only [List.cons_append, if_neg hc] using htrimmed

/-- Options with blanks and escapes between quotes, in front of an RSA key. -/
theorem parse_options_rsa :
    parse ("no-pty,command=\"echo \\\"a b\\\" \\\\ c\"" ++ " \t"
        ++ "ssh-rsa AAAADHJzYS1zaGEyLTUxMgAAAAMBAAEAAAADAP8B alice  laptop ") =
      .ok ⟨"ssh-rsa", [0, 0, 0, 7, 0x73, 0x73, 0x68, 0x2d, 0x72, 0x73, 0x61, 0, 0, 0, 3, 1, 0, 1,
        0, 0, 0, 3, 0, 255, 1], some "alice laptop"⟩ := by
  have hquotation : IsQuotation "echo \\\"a b\\\" \\\\ c".toList := by
    repeat first | exact .nil | refine .plain (by decide) (by decide) ?_ | refine .escaped ?_
  have hoptions : IsOptions "no-pty,command=\"echo \\\"a b\\\" \\\\ c\"".toList := by
    repeat refine .plain (by decide) (by decide) ?_
    exact .quotation hquotation .nil
  have hblanks : IsGap " \t".toList := by
    constructor
    · decide
    · simpa using ⟨rfl, rfl⟩
  exact parse_options (ok_of_toOption (by decide +kernel)) hoptions (by decide) hblanks
    (by decide) (.inr (by decide))

end Gatehouse.AuthorizedKey
