import Gatehouse.Key.Line
import Gatehouse.Proofs.Base64
import Gatehouse.Proofs.Key.Canonical
import Gatehouse.Proofs.Text.Words

/-! # Lines written for keys

    A key that was read from a line can be written as a line again: its algorithm, its
    canonical blob in base64 and its comment, with one space between them.  Whatever the
    first line looked like, the new one has exactly these words (`exists_words_of_isRead`),
    so reading its fields gives the key itself (`parseFields_render`).

    Before fields are read, a line that starts with `#` is taken for a comment.  A key
    behind an options field may be of an algorithm with such a name, and then the written
    line is no key line (`parse_render_comment`).

    Core Lean 4 only. -/

namespace Gatehouse.AuthorizedKey

open Key Text

/-! ## What reading a line says about its key -/

/-- The words of a line and the key in its second word decide what is read. -/
theorem words_of_parseFields {s : List Char} {k : AuthorizedKey} (h : parseFields s = .ok k) :
    ∃ declared field comment key, words s = declared :: field :: comment ∧
      readField (String.ofList field) = .ok key ∧ key.algorithm = String.ofList declared ∧
      k = ⟨key.algorithm, key.encode, commentOf comment⟩ := by
  unfold parseFields at h
  split at h
  · rename_i declared field comment hwords
    split at h
    · cases h
    · rename_i key hkey
      split at h
      · rename_i halgorithm
        cases h
        exact ⟨declared, field, comment, key, hwords, hkey, halgorithm, rfl⟩
      · cases h
  · cases h

section
variable {line : String}

theorem parse_of_nil (h : trim line.toList = []) : parse line = .error .empty := by
  unfold parse
  rw [h]

theorem parse_of_comment (h : (trim line.toList).head? = some '#') :
    parse line = .error .missingKey := by
  unfold parse
  cases ht : trim line.toList with
  | nil =>
    rw [ht] at h
    cases h
  | cons c r =>
    rw [ht] at h
    obtain rfl : c = '#' := Option.some.inj h
    rfl

theorem parse_of_line (hne : trim line.toList ≠ []) (h : (trim line.toList).head? ≠ some '#') :
    parse line = parseTrimmed (trim line.toList) := by
  unfold parse
  cases ht : trim line.toList with
  | nil => exact absurd ht hne
  | cons c r =>
    rw [ht] at h
    have hc : c ≠ '#' := fun hc => h (congrArg some hc)
    exact if_neg hc

end

/-- A key is always read from fields: those of the whole line, or those after options. -/
theorem parseFields_of_parse {line : String} {k : AuthorizedKey} (h : parse line = .ok k) :
    ∃ s, parseFields s = .ok k := by
  unfold parse at h
  split at h
  · cases h
  · rename_i c r _
    split at h
    · cases h
    · -- The line itself is tried first, and what follows its options only if it fails.
      unfold parseTrimmed at h
      split at h
      · rename_i key hkey
        cases h
        exact ⟨_, hkey⟩
      · split at h
        · rename_i key hrest
          cases h
          obtain ⟨s, -, hs⟩ := Option.map_eq_some_iff.1 hrest
          exact ⟨s, hs⟩
        · cases h

theorem decode_of_readField {field : String} {key : PublicKey} (h : readField field = .ok key) :
    ∃ blob, Base64.decode (bytes field) = .ok blob ∧ PublicKey.decode blob = .ok key := by
  unfold readField at h
  split at h
  · cases h
  · rename_i blob hblob
    split at h
    · cases h
    · rename_i key' hdecode
      cases h
      exact ⟨blob, hblob, hdecode⟩

/-- What is true of every key that was read from a line. -/
structure IsRead (k : AuthorizedKey) : Prop where
  /-- The blob is canonical, and its key has the algorithm. -/
  blob      : ∃ key, PublicKey.decode k.blob = .ok key ∧ key.encode = k.blob ∧
    key.algorithm = k.algorithm
  /-- The algorithm is one word. -/
  algorithm : IsWord k.algorithm.toList
  /-- The comment is made of words with one space between them. -/
  comment   : ∃ ws, (∀ w ∈ ws, IsWord w) ∧ k.comment = commentOf ws

theorem isRead_of_parseFields {s : List Char} {k : AuthorizedKey} (h : parseFields s = .ok k) :
    k.IsRead := by
  obtain ⟨declared, field, comment, key, hwords, hkey, halgorithm, rfl⟩ := words_of_parseFields h
  have hword : ∀ w ∈ declared :: field :: comment, IsWord w := by
    intro w hw
    exact isWord_of_mem_words (hwords ▸ hw)
  obtain ⟨blob, -, hblob⟩ := decode_of_readField hkey
  refine ⟨⟨key, PublicKey.decode_encode_of_decode hblob, rfl, rfl⟩, ?_, comment, ?_, rfl⟩
  · show IsWord key.algorithm.toList
    rw [halgorithm, String.toList_ofList]
    exact hword declared (by simp)
  · intro w hw
    exact hword w (by simp [hw])

theorem isRead_of_parse {line : String} {k : AuthorizedKey} (h : parse line = .ok k) :
    k.IsRead := by
  obtain ⟨s, hs⟩ := parseFields_of_parse h
  exact isRead_of_parseFields hs

/-! ## The words of a written line -/

theorem isBlank_symbol {n : Nat} (h : n < 64) : isBlank (Base64.symbol n) = false := by
  have hall : ∀ m : Fin 64, isBlank (Base64.symbol m) = false := by decide
  exact hall ⟨n, h⟩

/-- The base64 of bytes is one word. -/
theorem isWord_base64 {bs : List UInt8} (h : bs ≠ []) : IsWord (Base64.encode .padded bs) := by
  constructor
  · cases bs with
    | nil => exact absurd rfl h
    | cons a bs =>
      match bs with
      | [] => simp [Base64.encode]
      | [_] => simp [Base64.encode]
      | _ :: _ :: _ => simp [Base64.encode]
  · intro c hc
    rcases Base64.exists_symbol_of_mem_encode hc with ⟨n, hn, rfl⟩ | rfl
    · exact isBlank_symbol hn
    · decide

/-- A written line is its words with one space between them. -/
theorem toList_render (k : AuthorizedKey) {ws : List (List Char)} (h : k.comment = commentOf ws) :
    k.render.toList = unwords (k.algorithm.toList :: Base64.encode .padded k.blob :: ws) := by
  cases ws with
  | nil => simp [render, h, commentOf]
  | cons w ws => simp [render, h, commentOf, unwords]

theorem encode_ne_nil (key : PublicKey) : key.encode ≠ [] := by
  simp [PublicKey.encode, Wire.writeText, Wire.writeString, Wire.writeLength]

/-- The words of a written line are words, and the line is nothing else. -/
theorem exists_words_of_isRead {k : AuthorizedKey} (h : k.IsRead) :
    ∃ ws, k.comment = commentOf ws ∧
      (∀ w ∈ k.algorithm.toList :: Base64.encode .padded k.blob :: ws, IsWord w) ∧
      k.render.toList = unwords (k.algorithm.toList :: Base64.encode .padded k.blob :: ws) := by
  obtain ⟨ws, hws, hcomment⟩ := h.comment
  obtain ⟨key, -, hblob, -⟩ := h.blob
  refine ⟨ws, hcomment, ?_, toList_render k hcomment⟩
  intro w hw
  simp only [List.mem_cons] at hw
  rcases hw with rfl | rfl | hw
  · exact h.algorithm
  · exact isWord_base64 (hblob ▸ encode_ne_nil key)
  · exact hws w hw

/-! ## Reading a written line -/

theorem readField_base64 {blob : List UInt8} {key : PublicKey}
    (h : PublicKey.decode blob = .ok key) :
    readField (String.ofList (Base64.encode .padded blob)) = .ok key := by
  unfold readField
  rw [Base64.decode_encode]
  simp only [h]

/-- The fields of a written line are those of the key. -/
theorem parseFields_render {k : AuthorizedKey} (h : k.IsRead) :
    parseFields k.render.toList = .ok k := by
  obtain ⟨ws, hcomment, hwords, hrender⟩ := exists_words_of_isRead h
  obtain ⟨key, hdecode, hblob, halgorithm⟩ := h.blob
  unfold parseFields
  rw [hrender, words_unwords hwords]
  simp only [readField_base64 hdecode, String.ofList_toList, halgorithm, if_true, hblob,
    ← hcomment]

theorem trim_render {k : AuthorizedKey} (h : k.IsRead) :
    trim k.render.toList = k.render.toList := by
  obtain ⟨ws, -, hwords, hrender⟩ := exists_words_of_isRead h
  rw [hrender, trim_unwords hwords]

/-- A written line starts with the first character of the algorithm. -/
theorem head?_render {k : AuthorizedKey} (h : k.IsRead) :
    k.render.toList.head? = k.algorithm.toList.head? := by
  obtain ⟨ws, -, -, hrender⟩ := exists_words_of_isRead h
  rw [hrender, unwords_cons_cons]
  cases hname : k.algorithm.toList with
  | nil => exact absurd hname h.algorithm.1
  | cons c r => rfl

theorem parse_render {k : AuthorizedKey} (h : k.IsRead)
    (hname : k.algorithm.toList.head? ≠ some '#') : parse k.render = .ok k := by
  have hhead : k.render.toList.head? = k.algorithm.toList.head? := head?_render h
  have hne : k.render.toList ≠ [] := by
    intro hnil
    rw [hnil] at hhead
    exact h.algorithm.1 (List.head?_eq_none_iff.1 hhead.symm)
  rw [← trim_render h] at hhead hne
  rw [parse_of_line hne (hhead ▸ hname), trim_render h]
  simp only [parseTrimmed, parseFields_render h]

theorem parse_render_comment {k : AuthorizedKey} (h : k.IsRead)
    (hname : k.algorithm.toList.head? = some '#') : parse k.render = .error .missingKey := by
  refine parse_of_comment ?_
  rw [trim_render h, head?_render h, hname]

/-- Only a name that is known by its form alone can start with `#`. -/
theorem isDomainName_of_head? {k : AuthorizedKey} (h : k.IsRead)
    (hname : k.algorithm.toList.head? = some '#') :
    PublicKey.isDomainName k.algorithm = true := by
  obtain ⟨key, hdecode, -, halgorithm⟩ := h.blob
  have hnamed := (PublicKey.isCanonical_of_decode hdecode).named
  rw [halgorithm] at hnamed
  -- All names that are known as such start with a letter.
  unfold PublicKey.Kind.ofName? at hnamed
  split at hnamed
  case h_11 =>
    split at hnamed
    · assumption
    · cases hnamed
  all_goals
    rename_i hknown
    rw [hknown] at hname
    exact absurd hname (by decide)

end Gatehouse.AuthorizedKey
