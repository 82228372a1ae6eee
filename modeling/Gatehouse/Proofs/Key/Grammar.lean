import Gatehouse.Proofs.Key.Options

/-! # The grammar of key lines

    What a line says is told here without the way it is read:

    * a key text (`IsKeyText`) has the fields of a key: the name of its algorithm, its blob in
      base64 and the words of a comment;
    * behind options (`IsOptionsText`) stand an options field, a gap and a key text.

    `parse_grammar` says that these are the lines that are read.  Some are both, as the
    options field may end inside of what is the comment otherwise; the two keys then differ,
    and that of the key text counts.  A line that is neither has the fault of the reading
    without options, whatever stands behind its options. -/

namespace Gatehouse.AuthorizedKey

open Key Text

/-! ## Key texts -/

/-- Does a text consist of the fields of a key, and is this the key with its comment?  The
    blob may be any that holds the key: what is kept is its canonical one, which every key
    has. -/
def IsKeyText (s : List Char) (k : AuthorizedKey) : Prop :=
  ∃ (declared encoded : List Char) (comment : List (List Char)) (raw : List UInt8)
    (key : PublicKey),
    IsFields s (declared :: encoded :: comment) ∧
    Base64.decode (bytes (String.ofList encoded)) = .ok raw ∧
    PublicKey.decode raw = .ok key ∧
    key.algorithm = String.ofList declared ∧
    k.algorithm = key.algorithm ∧ k.blob = key.encode ∧
    k.comment = if comment = [] then none else some (String.ofList ([' '].intercalate comment))

/-- Does a text consist of an options field, a gap and a key text with this key? -/
def IsOptionsText (s : List Char) (k : AuthorizedKey) : Prop :=
  ∃ options blanks rest, options ≠ [] ∧ IsOptions options ∧ IsGap blanks ∧ IsKeyText rest k ∧
    s = options ++ blanks ++ rest

theorem readField_eq_ok_iff {field : String} {key : PublicKey} :
    readField field = .ok key ↔
      ∃ raw, Base64.decode (bytes field) = .ok raw ∧ PublicKey.decode raw = .ok key := by
  constructor
  · exact decode_of_readField
  · rintro ⟨raw, hraw, hkey⟩
    unfold readField
    simp only [hraw, hkey]

theorem commentOf_eq (ws : List (List Char)) :
    commentOf ws = if ws = [] then none else some (String.ofList ([' '].intercalate ws)) := by
  cases ws with
  | nil => rfl
  | cons w ws => rfl

/-- The reading without options takes the key texts. -/
theorem parseFields_eq_ok_iff {s : List Char} {k : AuthorizedKey} :
    parseFields s = .ok k ↔ IsKeyText s k := by
  constructor
  · intro h
    obtain ⟨declared, encoded, comment, key, hwords, hkey, halgorithm, rfl⟩ :=
      words_of_parseFields h
    obtain ⟨raw, hraw, hdecode⟩ := readField_eq_ok_iff.1 hkey
    exact ⟨declared, encoded, comment, raw, key, isFields_iff.2 hwords, hraw, hdecode, halgorithm,
      rfl, rfl, commentOf_eq comment⟩
  · rintro ⟨declared, encoded, comment, raw, key, hfields, hraw, hdecode, halgorithm, hk, hblob,
      hcomment⟩
    have hwords := isFields_iff.1 hfields
    have hkey : readField (String.ofList encoded) = .ok key :=
      readField_eq_ok_iff.2 ⟨raw, hraw, hdecode⟩
    have hresult : k = ⟨key.algorithm, key.encode, commentOf comment⟩ := by
      rw [commentOf_eq, ← hk, ← hblob, ← hcomment]
    unfold parseFields
    simp only [hwords, hkey, halgorithm, if_true, hresult]

/-- What the reading behind options takes of a text that starts with no blank. -/
theorem exists_skipOptions_iff {s : List Char} {k : AuthorizedKey} (hs : dropBlanks s = s) :
    (∃ rest, skipOptions s = some rest ∧ parseFields rest = .ok k) ↔ IsOptionsText s k := by
  constructor
  · rintro ⟨rest, hrest, hk⟩
    obtain ⟨-, -, o, b, ho, hb, rfl⟩ := skipOptions_eq_some_iff.1 hrest
    refine ⟨o, b, rest, ?_, ho, hb, parseFields_eq_ok_iff.1 hk, rfl⟩
    -- Without options the text would start with the gap.
    rintro rfl
    obtain ⟨hne, hblank⟩ := hb
    cases b with
    | nil => exact hne rfl
    | cons c b =>
      have hc := isBlank_head_dropBlanks hs
      rw [hblank c List.mem_cons_self] at hc
      cases hc
  · rintro ⟨o, b, rest, -, ho, hb, hk, rfl⟩
    have hfields := parseFields_eq_ok_iff.2 hk
    refine ⟨dropBlanks rest, skipOptions_append ho hb (words_ne_nil_of_parseFields hfields), ?_⟩
    rw [parseFields_congr (words_dropBlanks rest), hfields]

/-! ## One reading after the other -/

section
variable {s : List Char} {k : AuthorizedKey} {fault : LineFault}

/-- The reading behind options counts if the one without fails. -/
theorem parseTrimmed_eq_ok_iff :
    parseTrimmed s = .ok k ↔
      parseFields s = .ok k ∨
        (∀ other, parseFields s ≠ .ok other) ∧
          ∃ rest, skipOptions s = some rest ∧ parseFields rest = .ok k := by
  unfold parseTrimmed
  cases hfirst : parseFields s with
  | ok other => simp
  | error fault =>
    cases hskip : skipOptions s with
    | none => simp
    | some rest => cases hsecond : parseFields rest <;> simp [hsecond]

/-- If both fail, the fault is that of the first. -/
theorem parseTrimmed_eq_error_iff :
    parseTrimmed s = .error fault ↔
      parseFields s = .error fault ∧
        ∀ k, ¬ ∃ rest, skipOptions s = some rest ∧ parseFields rest = .ok k := by
  unfold parseTrimmed
  cases hfirst : parseFields s with
  | ok other => simp
  | error fault =>
    cases hskip : skipOptions s with
    | none => simp
    | some rest => cases hsecond : parseFields rest <;> simp [hsecond]

end

/-- What a trimmed line says, by the grammar. -/
theorem parseTrimmed_eq_ok_iff_grammar {s : List Char} {k : AuthorizedKey}
    (hs : dropBlanks s = s) :
    parseTrimmed s = .ok k ↔
      IsKeyText s k ∨ (¬ ∃ other, IsKeyText s other) ∧ IsOptionsText s k := by
  rw [parseTrimmed_eq_ok_iff, exists_skipOptions_iff hs]
  simp only [ne_eq, parseFields_eq_ok_iff, not_exists]

/-! ## Lines -/

section
variable {line : String} {k : AuthorizedKey} {fault : LineFault}

theorem parse_eq_ok_iff :
    parse line = .ok k ↔
      trim line.toList ≠ [] ∧ (trim line.toList).head? ≠ some '#' ∧
        (IsKeyText (trim line.toList) k ∨
          (¬ ∃ other, IsKeyText (trim line.toList) other) ∧
            IsOptionsText (trim line.toList) k) := by
  by_cases hnil : trim line.toList = []
  · rw [parse_of_nil hnil]
    simp [hnil]
  by_cases hcomment : (trim line.toList).head? = some '#'
  · rw [parse_of_comment hcomment]
    simp [hcomment]
  rw [parse_of_line hnil hcomment, parseTrimmed_eq_ok_iff_grammar (dropBlanks_trim _)]
  exact ⟨fun h => ⟨hnil, hcomment, h⟩, fun h => h.2.2⟩

theorem parse_eq_error_iff :
    parse line = .error fault ↔
      trim line.toList = [] ∧ fault = .empty ∨
      (trim line.toList).head? = some '#' ∧ fault = .missingKey ∨
      trim line.toList ≠ [] ∧ (trim line.toList).head? ≠ some '#' ∧
        parseFields (trim line.toList) = .error fault ∧
        ∀ k, ¬ IsOptionsText (trim line.toList) k := by
  by_cases hnil : trim line.toList = []
  · rw [parse_of_nil hnil]
    simp [hnil, eq_comm]
  by_cases hcomment : (trim line.toList).head? = some '#'
  · rw [parse_of_comment hcomment]
    simp [hnil, hcomment, eq_comm]
  rw [parse_of_line hnil hcomment, parseTrimmed_eq_error_iff]
  simp only [exists_skipOptions_iff (dropBlanks_trim line.toList)]
  simp [hnil, hcomment]

end

/-- A line is read if and only if, its outer blanks gone, it is neither empty nor a comment and
    is a key text or one behind options.  Its key is that of the key text if it is one, and
    that behind the options otherwise.  Of what is no line of this grammar, the fault is that of
    reading it as a key text. -/
theorem parse_grammar (line : String) :
    let t := trim line.toList
    ((∃ k, parse line = .ok k) ↔
      t ≠ [] ∧ t.head? ≠ some '#' ∧ ((∃ k, IsKeyText t k) ∨ ∃ k, IsOptionsText t k)) ∧
    (∀ k, parse line = .ok k ↔
      t ≠ [] ∧ t.head? ≠ some '#' ∧
        (IsKeyText t k ∨ (¬ ∃ other, IsKeyText t other) ∧ IsOptionsText t k)) ∧
    (∀ fault, parse line = .error fault ↔
      t = [] ∧ fault = .empty ∨
      t.head? = some '#' ∧ fault = .missingKey ∨
      t ≠ [] ∧ t.head? ≠ some '#' ∧ parseFields t = .error fault ∧ ∀ k, ¬ IsOptionsText t k) := by
  intro t
  refine ⟨⟨?_, ?_⟩, fun k => parse_eq_ok_iff, fun fault => parse_eq_error_iff⟩
  · rintro ⟨k, hk⟩
    obtain ⟨hnil, hcomment, htext | ⟨-, hoptions⟩⟩ := parse_eq_ok_iff.1 hk
    · exact ⟨hnil, hcomment, .inl ⟨k, htext⟩⟩
    · exact ⟨hnil, hcomment, .inr ⟨k, hoptions⟩⟩
  · rintro ⟨hnil, hcomment, hreading⟩
    -- The reading behind options is only needed of what is no key text.
    by_cases htext : ∃ k, IsKeyText t k
    · obtain ⟨k, hk⟩ := htext
      exact ⟨k, parse_eq_ok_iff.2 ⟨hnil, hcomment, .inl hk⟩⟩
    · obtain ⟨k, hk⟩ := hreading.resolve_left htext
      exact ⟨k, parse_eq_ok_iff.2 ⟨hnil, hcomment, .inr ⟨htext, hk⟩⟩⟩

/-- A line that is both: its algorithm is known by its form and has a quote in it, so the
    options field would end in what is the comment. -/
example :
    parse "x\"@y AAAABHgiQHkAAAAA \" ssh-rsa AAAAB3NzaC1yc2EAAAADAQABAAAAAwD/AQ==" =
      .ok ⟨"x\"@y", [0, 0, 0, 4, 0x78, 0x22, 0x40, 0x79, 0, 0, 0, 0],
        some "\" ssh-rsa AAAAB3NzaC1yc2EAAAADAQABAAAAAwD/AQ=="⟩ :=
  ok_of_toOption (by decide +kernel)

end Gatehouse.AuthorizedKey
