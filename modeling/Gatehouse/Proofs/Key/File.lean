import Gatehouse.Key.File
import Gatehouse.Proofs.First
import Gatehouse.Proofs.Key.Grammar
import Gatehouse.Proofs.Text.Lines

/-! # Public key files, line by line

    A public key file is read up to its first line that is neither blank nor a comment.
    `firstKeyLine_eq_find?` says so in terms of the lines of its text.  What stands before this
    line, if these are whole lines, and what comes after it have no part in the result, and
    neither have carriage returns at the line ends (`ofFile_first_line`).

    Blank lines and comments are refused by the reading of a line too, but no such line gets
    there: it is handed the line on which the search ended. -/

namespace Gatehouse.Key

open Text

/-! ## Lines that hold no key -/

/-- Is a line blank, or a comment, whose first character that is no blank is `#`? -/
def IsIdle (line : List Char) : Prop :=
  (∀ c ∈ line, isBlank c = true) ∨ (dropBlanks line).head? = some '#'

instance : DecidablePred IsIdle := fun line =>
  decidable_of_iff (line.all isBlank = true ∨ (dropBlanks line).head? = some '#')
    (or_congr_left List.all_eq_true)

/-- The search passes over idle lines, and over no others. -/
theorem isKeyLine_trim_iff {line : List Char} : isKeyLine (trim line) = true ↔ ¬ IsIdle line := by
  unfold isKeyLine IsIdle
  rw [Bool.and_eq_true, not_or, ← trim_eq_nil_iff, ← head?_trim]
  simp

/-! ## The search -/

/-- Up to its first line feed a text is one line, which is taken or passed over. -/
theorem firstKeyLine_append {l : List Char} (hl : '\n' ∉ l) (rest : List Char) :
    firstKeyLine (l ++ '\n' :: rest) =
      if isKeyLine (trim l) then some (trim l) else firstKeyLine rest := by
  obtain ⟨htake, hdrop⟩ := cut_at hl rest
  rw [firstKeyLine, htake]
  split
  · rfl
  -- The search goes on behind the line feed, which is there.
  · split
    · rename_i hnil
      rw [hdrop] at hnil
      cases hnil
    · rename_i hcons
      rw [hdrop] at hcons
      rw [(List.cons.inj hcons).2]

theorem firstKeyLine_of_not_mem {l : List Char} (hl : '\n' ∉ l) :
    firstKeyLine l = if isKeyLine (trim l) then some (trim l) else none := by
  obtain ⟨htake, hdrop⟩ := cut_at_none hl
  rw [firstKeyLine, htake]
  split
  · rfl
  · split
    · rfl
    · rename_i hcons
      rw [hdrop] at hcons
      cases hcons

/-- The first of the trimmed lines that can hold a key. -/
theorem firstKeyLine_eq_find? (text : List Char) :
    firstKeyLine text = ((lines text).map trim).find? isKeyLine := by
  induction text using lines_induction with
  | last l hl =>
    rw [firstKeyLine_of_not_mem hl, lines_of_not_mem hl]
    by_cases hnil : l = []
    · subst hnil
      rfl
    · rw [if_neg hnil, List.map_singleton, List.find?_singleton]
  | line l rest hl ih =>
    -- The search cuts at line feeds only; the return that this leaves at the end is trimmed off.
    rw [firstKeyLine_append hl, lines_append hl, List.map_cons, trim_dropReturn, List.find?_cons, ih]
    cases isKeyLine (trim l) <;> rfl

theorem firstKeyLine_of_isFirst {text line : List Char}
    (h : IsFirst (¬ IsIdle ·) (lines text) line) : firstKeyLine text = some (trim line) := by
  have hfind : (lines text).find? (isKeyLine ∘ trim) = some line := by
    rw [find?_eq_some_iff_isFirst]
    simpa only [Function.comp_apply, isKeyLine_trim_iff] using h
  rw [firstKeyLine_eq_find?, List.find?_map, hfind]
  rfl

theorem firstKeyLine_of_idle {text : List Char} (h : ∀ l ∈ lines text, IsIdle l) :
    firstKeyLine text = none := by
  rw [firstKeyLine_eq_find?, List.find?_eq_none]
  intro line hline
  obtain ⟨l, hl, rfl⟩ := List.mem_map.1 hline
  rw [isKeyLine_trim_iff]
  exact not_not.2 (h l hl)

/-! ## What the search does not depend on -/

/-- Whole lines that are idle, each with its line feed. -/
inductive IsPreamble : List Char → Prop where
  | nil : IsPreamble []
  | line {l p : List Char} : '\n' ∉ l → IsIdle l → IsPreamble p → IsPreamble (l ++ '\n' :: p)

/-- Idle lines in front are passed over. -/
theorem firstKeyLine_preamble {p : List Char} (h : IsPreamble p) (text : List Char) :
    firstKeyLine (p ++ text) = firstKeyLine text := by
  induction h with
  | nil => rfl
  | @line l p hl hidle _ ih =>
    have hpassed : ¬ isKeyLine (trim l) = true := fun hkey => isKeyLine_trim_iff.1 hkey hidle
    rw [List.append_assoc, List.cons_append, firstKeyLine_append hl, if_neg hpassed, ih]

/-- Of two texts on lines of their own, the second is searched if nothing is found in the first. -/
theorem firstKeyLine_feed (text more : List Char) :
    firstKeyLine (text ++ '\n' :: more) = (firstKeyLine text).or (firstKeyLine more) := by
  induction text using lines_induction with
  | last l hl =>
    rw [firstKeyLine_append hl, firstKeyLine_of_not_mem hl]
    split <;> rfl
  | line l rest hl ih =>
    rw [List.append_assoc, List.cons_append, firstKeyLine_append hl, firstKeyLine_append hl, ih]
    split <;> rfl

/-- A carriage return in front of a line feed is trimmed off. -/
theorem firstKeyLine_withReturns (text : List Char) :
    firstKeyLine (withReturns text) = firstKeyLine text := by
  induction text using lines_induction with
  | last l hl => rw [withReturns_of_not_mem hl]
  | line l rest hl ih =>
    have hline : '\n' ∉ l ++ ['\r'] := by simpa using hl
    rw [withReturns_append hl, firstKeyLine_append hline, firstKeyLine_append hl, ih,
      trim_append_return]

/-! ## The line that is found -/

section found
variable {line : List Char}

theorem parse_trim (line : List Char) :
    AuthorizedKey.parse (String.ofList (trim line)) = AuthorizedKey.parse (String.ofList line) := by
  unfold AuthorizedKey.parse
  rw [String.toList_ofList, String.toList_ofList, trim_trim]

/-- Fields are missing from a line with fewer than two words only. -/
theorem length_words_of_missingKey {s : List Char}
    (h : AuthorizedKey.parseFields s = .error .missingKey) : (words s).length < 2 := by
  unfold AuthorizedKey.parseFields at h
  match hwords : words s with
  | [] => exact Nat.zero_lt_two
  | [_] => exact Nat.one_lt_two
  | declared :: field :: rest =>
    simp only [hwords] at h
    cases hread : AuthorizedKey.readField (String.ofList field) with
    | error e =>
      simp only [hread] at h
      cases h
    | ok key =>
      simp only [hread] at h
      split at h <;> cases h

/-- The fields of a line are not what makes it count as empty. -/
theorem parseFields_ne_empty (s : List Char) : AuthorizedKey.parseFields s ≠ .error .empty := by
  intro h
  unfold AuthorizedKey.parseFields at h
  split at h
  · split at h
    · cases h
    · split at h <;> cases h
  · cases h

/-- A line that is not idle is refused for what its fields say, never for being blank or a
    comment. -/
theorem fault_of_not_idle (h : ¬ IsIdle line) {fault : LineFault}
    (hfault : AuthorizedKey.parse (String.ofList line) = .error fault) :
    AuthorizedKey.parseFields (trim line) = .error fault ∧ fault ≠ .empty ∧
      (fault = .missingKey → (words line).length < 2) := by
  rw [← isKeyLine_trim_iff] at h
  have hnil : trim line ≠ [] := by
    intro hnil
    rw [hnil] at h
    cases h
  have hcomment : (trim line).head? ≠ some '#' := by
    intro hcomment
    unfold isKeyLine at h
    rw [hcomment] at h
    simp at h
  rw [AuthorizedKey.parse_eq_error_iff, String.toList_ofList] at hfault
  -- A comment is told to miss its key, so that the fault alone would not tell the cases apart.
  obtain ⟨hblank, -⟩ | ⟨hcross, -⟩ | ⟨-, -, hfields, -⟩ := hfault
  · exact absurd hblank hnil
  · exact absurd hcross hcomment
  · refine ⟨hfields, ?_, ?_⟩
    · rintro rfl
      exact parseFields_ne_empty _ hfields
    · rintro rfl
      rw [← words_trim]
      exact length_words_of_missingKey hfields

end found

/-! ## Files -/

/-- A file with a text gives what the line gives that is found in it. -/
theorem ofFile_text (path text : String) :
    ofFile path (.holding (bytes text)) =
      match firstKeyLine text.toList with
      | none      => .error (.noKey path)
      | some line => (AuthorizedKey.parse (String.ofList line)).mapError (.invalid path) := by
  unfold ofFile
  simp only [File.text_holding_bytes]
  cases firstKeyLine text.toList with
  | none => rfl
  | some line =>
    simp only
    cases AuthorizedKey.parse (String.ofList line) <;> rfl

theorem ofFile_congr (path : String) {text other : String}
    (h : firstKeyLine other.toList = firstKeyLine text.toList) :
    ofFile path (.holding (bytes other)) = ofFile path (.holding (bytes text)) := by
  rw [ofFile_text, ofFile_text, h]

theorem ofFile_of_isFirst (path : String) {text : String} {line : List Char}
    (h : IsFirst (¬ IsIdle ·) (lines text.toList) line) :
    ofFile path (.holding (bytes text)) =
      (AuthorizedKey.parse (String.ofList line)).mapError (.invalid path) := by
  rw [ofFile_text, firstKeyLine_of_isFirst h]
  simp only [parse_trim]

theorem ofFile_of_idle (path : String) {text : String}
    (h : ∀ line ∈ lines text.toList, IsIdle line) :
    ofFile path (.holding (bytes text)) = .error (.noKey path) := by
  rw [ofFile_text, firstKeyLine_of_idle h]

/-- Of a file that is not there, or not text, the fault is that of reading it. -/
theorem ofFile_of_fault {path : String} {file : File} {fault : FileFault}
    (h : file.text = .error fault) : ofFile path file = .error (.unreadable path fault) := by
  unfold ofFile
  rw [h]

/-- The text of a file is the one that its bytes encode. -/
theorem text_eq_ok_iff {file : File} {text : String} :
    file.text = .ok text ↔ file = .holding (bytes text) := by
  constructor
  · intro h
    cases file with
    | absent => cases h
    | holding content =>
      unfold File.text at h
      cases hread : ofBytes? content with
      | none =>
        simp only [hread] at h
        cases h
      | some t =>
        simp only [hread] at h
        obtain rfl := Except.ok.inj h
        rw [bytes_of_ofBytes? hread]
  · rintro rfl
    exact File.text_holding_bytes text

/-- A file gives a key if it holds a text with a line that is not idle, and the first such line
    gives this key. -/
theorem ofFile_eq_ok_iff {path : String} {file : File} {key : AuthorizedKey} :
    ofFile path file = .ok key ↔
      ∃ text line, file = .holding (bytes text) ∧
        IsFirst (¬ IsIdle ·) (lines text.toList) line ∧
        AuthorizedKey.parse (String.ofList line) = .ok key := by
  constructor
  · intro h
    cases hread : file.text with
    | error fault =>
      rw [ofFile_of_fault hread] at h
      cases h
    | ok text =>
      obtain rfl := text_eq_ok_iff.1 hread
      by_cases hsome : ∃ line ∈ lines text.toList, ¬ IsIdle line
      · obtain ⟨line, hline⟩ := exists_isFirst_iff.2 hsome
        rw [ofFile_of_isFirst path hline, mapError_eq_ok_iff] at h
        exact ⟨text, line, rfl, hline, h⟩
      · have hidle : ∀ line ∈ lines text.toList, IsIdle line := by
          intro line hline
          exact Decidable.not_not.1 fun hno => hsome ⟨line, hline, hno⟩
        rw [ofFile_of_idle path hidle] at h
        cases h
  · rintro ⟨text, line, rfl, hline, hparse⟩
    rw [ofFile_of_isFirst path hline, mapError_eq_ok_iff]
    exact hparse

/-- A public key file is read by its first line that is neither blank nor a comment.
    * If its text has such a line, the result is that of parsing this line, a fault being told
      with the path.  The result is the same with idle lines put in front, with anything put on
      the lines behind, and with a carriage return put in front of every line feed.  If the line
      is refused, its fields are at fault: it is not refused for being blank, nor as a comment.
    * If it has none, no key is found, whatever idle lines there are.
    * A file that is absent or whose bytes are not UTF-8 gives no key. -/
theorem ofFile_first_line (path text : String) :
    let result (t : String) := ofFile path (.holding (bytes t))
    ((∃ line ∈ lines text.toList, ¬ IsIdle line) →
      ∃ line, IsFirst (¬ IsIdle ·) (lines text.toList) line ∧
        (∀ key, result text = .ok key ↔ AuthorizedKey.parse (String.ofList line) = .ok key) ∧
        (∀ e, result text = .error e ↔ ∃ fault,
          AuthorizedKey.parse (String.ofList line) = .error fault ∧ e = .invalid path fault ∧
          e.failure.chain = ["failed to parse " ++ path, fault.message]) ∧
        (∀ p : String, IsPreamble p.toList → result (p ++ text) = result text) ∧
        (∀ more, result (text ++ "\n" ++ more) = result text) ∧
        result (String.ofList (withReturns text.toList)) = result text ∧
        ∀ fault, AuthorizedKey.parse (String.ofList line) = .error fault →
          AuthorizedKey.parseFields (trim line) = .error fault ∧ fault ≠ .empty ∧
          (fault = .missingKey → (words line).length < 2)) ∧
    ((∀ line ∈ lines text.toList, IsIdle line) →
      ∃ e, result text = .error e ∧ e.failure.chain = ["no key in " ++ path, "empty key material"]) ∧
    (∀ content, ofBytes? content = none →
      ofFile path (.holding content) = .error (.unreadable path .notUtf8)) ∧
    ofFile path .absent = .error (.unreadable path .notFound) := by
  intro result
  refine ⟨?_, ?_, ?_, ?_⟩
  · intro hsome
    obtain ⟨line, hline⟩ := exists_isFirst_iff.2 hsome
    have hresult : result text =
        (AuthorizedKey.parse (String.ofList line)).mapError (.invalid path) :=
      ofFile_of_isFirst path hline
    have hfound : firstKeyLine text.toList = some (trim line) := firstKeyLine_of_isFirst hline
    refine ⟨line, hline, ?_, ?_, ?_, ?_, ?_, ?_⟩
    · intro key
      rw [hresult, mapError_eq_ok_iff]
    · intro e
      rw [hresult, mapError_eq_error_iff]
      constructor
      · rintro ⟨fault, hfault, rfl⟩
        exact ⟨fault, hfault, rfl, rfl⟩
      · rintro ⟨fault, hfault, rfl, -⟩
        exact ⟨fault, hfault, rfl⟩
    · intro p hp
      apply ofFile_congr
      rw [String.toList_append, firstKeyLine_preamble hp]
    · intro more
      apply ofFile_congr
      rw [String.toList_append, String.toList_append, List.append_assoc]
      show firstKeyLine (text.toList ++ '\n' :: more.toList) = _
      rw [firstKeyLine_feed, hfound]
      rfl
    · apply ofFile_congr
      rw [String.toList_ofList, firstKeyLine_withReturns]
    · intro fault hfault
      exact fault_of_not_idle hline.holds hfault
  · intro hidle
    exact ⟨_, ofFile_of_idle path hidle, rfl⟩
  · intro content hcontent
    apply ofFile_of_fault
    unfold File.text
    simp only [hcontent]
  · exact ofFile_of_fault rfl

/-- A key behind a blank line and a comment is found whatever line ends they have, and what is
    written behind it is not looked at. -/
theorem ofFile_first_line_rsa :
    let text := "\r\n\u2003# backend\nno-pty ssh-rsa AAAADHJzYS1zaGEyLTUxMgAAAAMBAAEAAAADAP8B box"
    let key : AuthorizedKey := ⟨"ssh-rsa", [0, 0, 0, 7, 0x73, 0x73, 0x68, 0x2d, 0x72, 0x73, 0x61, 0, 0,
      0, 3, 1, 0, 1, 0, 0, 0, 3, 0, 255, 1], some "box"⟩
    (∃ line ∈ lines text.toList, ¬ IsIdle line) ∧
      ofFile "host.pub" (.holding (bytes (text ++ "\n" ++ "ssh-rsa nonsense"))) = .ok key ∧
      ofFile "host.pub" (.holding (bytes (String.ofList (withReturns text.toList)))) = .ok key ∧
      ∃ e, ofFile "host.pub" (.holding (bytes "# backend\n\t\n")) = .error e ∧
        e.failure.chain = ["no key in host.pub", "empty key material"] := by
  intro text key
  have hsome : ∃ line ∈ lines text.toList, ¬ IsIdle line := by decide +kernel
  have hkey : ofFile "host.pub" (.holding (bytes text)) = .ok key :=
    ok_of_toOption (by decide +kernel)
  obtain ⟨hfound, -, -, -⟩ := ofFile_first_line "host.pub" text
  obtain ⟨line, -, -, -, -, hmore, hreturns, -⟩ := hfound hsome
  obtain ⟨-, hidle, -, -⟩ := ofFile_first_line "host.pub" "# backend\n\t\n"
  exact ⟨hsome, (hmore _).trans hkey, hreturns.trans hkey, hidle (by decide +kernel)⟩

end Gatehouse.Key
