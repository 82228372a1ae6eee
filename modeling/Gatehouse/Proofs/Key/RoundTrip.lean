import Gatehouse.Proofs.Key.Grammar

/-! # There and back again

    A key that was read from any line is read from the line that is written for it too, and it is
    the same key (`parse_render_of_parse`).  There is one exception: a name that starts with `#`
    makes the written line a comment.  No line can start with such a name either, so a key with
    it stood behind an options field (`isOptionsText_of_parse`). -/

namespace Gatehouse.AuthorizedKey

open Key Text

/-- A key text starts with the name of the algorithm. -/
theorem head?_of_isKeyText {s : List Char} {k : AuthorizedKey} (hs : dropBlanks s = s)
    (h : IsKeyText s k) : s.head? = k.algorithm.toList.head? := by
  obtain ⟨declared, _, _, _, _, hfields, -, -, halgorithm, hk, -, -⟩ := h
  have hwords := isFields_iff.1 hfields
  have hword : IsWord declared := isWord_of_mem_words (hwords ▸ List.mem_cons_self)
  obtain ⟨rest, hrest⟩ : declared <+: s := by
    rw [head_words hs hwords]
    exact List.takeWhile_prefix _
  rw [hk, halgorithm, String.toList_ofList, ← hrest]
  cases declared with
  | nil => exact absurd rfl hword.1
  | cons c r => rfl

/-- A key whose name starts with `#` is read behind options only: the line would be a comment
    otherwise. -/
theorem isOptionsText_of_parse {line : String} {k : AuthorizedKey} (h : parse line = .ok k)
    (hname : k.algorithm.toList.head? = some '#') : IsOptionsText (trim line.toList) k := by
  obtain ⟨-, hcomment, htext | ⟨-, hoptions⟩⟩ := parse_eq_ok_iff.1 h
  · rw [head?_of_isKeyText (dropBlanks_trim _) htext] at hcomment
    exact absurd hname hcomment
  · exact hoptions

/-- Unless its name makes it look like a comment, the line written for a key that was read
    is read as that key.  Writing what was read from it changes nothing, and neither the
    registered blob nor the fingerprint depends on which of the lines was read.  A name that
    looks like a comment is known by its form alone, and the key stood behind an options field. -/
theorem parse_render_of_parse {line : String} {k : AuthorizedKey} (h : parse line = .ok k) :
    (k.algorithm.toList.head? ≠ some '#' →
      parse k.render = .ok k ∧
      (parse k.render).map render = .ok k.render ∧
      (parse k.render).map fingerprint = .ok k.fingerprint) ∧
    (k.algorithm.toList.head? = some '#' →
      parse k.render = .error .missingKey ∧ PublicKey.isDomainName k.algorithm = true ∧
        IsOptionsText (trim line.toList) k) ∧
    parseFields k.render.toList = .ok k ∧
    ∃ key, PublicKey.decode k.blob = .ok key ∧ key.encode = k.blob ∧
      key.algorithm = k.algorithm := by
  have hread := isRead_of_parse h
  refine ⟨?_, ?_, parseFields_render hread, hread.blob⟩
  · intro hname
    have hback := parse_render hread hname
    exact ⟨hback, by rw [hback]; rfl, by rw [hback]; rfl⟩
  · intro hname
    exact ⟨parse_render_comment hread hname, isDomainName_of_head? hread hname,
      isOptionsText_of_parse h hname⟩

/-- An RSA key whose blob was written under another name of the algorithm, behind options
    with a blank between quotes. -/
theorem parse_render_of_parse_rsa :
    let line := "from=\"10.0.0.1, host\",no-pty \t ssh-rsa "
      ++ "AAAADHJzYS1zaGEyLTUxMgAAAAMBAAEAAAADAP8B alice   laptop "
    let k : AuthorizedKey := ⟨"ssh-rsa", [0, 0, 0, 7, 0x73, 0x73, 0x68, 0x2d, 0x72, 0x73, 0x61,
      0, 0, 0, 3, 1, 0, 1, 0, 0, 0, 3, 0, 255, 1], some "alice laptop"⟩
    parse line = .ok k ∧ parse k.render = .ok k ∧ (parse k.render).map render = .ok k.render := by
  intro line k
  have hread : parse line = .ok k := ok_of_toOption (by decide +kernel)
  have hback := (parse_render_of_parse hread).1 (by decide)
  exact ⟨hread, hback.1, hback.2.1⟩

/-- A key of an algorithm whose name starts with `#`. -/
def commentLike : AuthorizedKey :=
  ⟨"#a@b", [0, 0, 0, 4, 0x23, 0x61, 0x40, 0x62, 0, 0, 0, 0], none⟩

/-- Behind options such a key is read, but the line written for it is not. -/
theorem parse_render_refused :
    parse "no-pty #a@b AAAABCNhQGIAAAAA" = .ok commentLike ∧
      parse commentLike.render ≠ .ok commentLike := by
  constructor
  · exact ok_of_toOption (by decide +kernel)
  · intro h
    have hnone : (parse commentLike.render).toOption = none := by decide +kernel
    rw [h] at hnone
    cases hnone

end Gatehouse.AuthorizedKey
