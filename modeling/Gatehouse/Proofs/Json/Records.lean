import Gatehouse.Proofs.Json.Fields
import Gatehouse.Proofs.Json.Skip
import Gatehouse.Proofs.Result

/-! # Reading records however they are written

    From every text that holds one value, of whatever kind and with whatever blanks, a record is
    read as what the value says about its fields (`Record.toOption_read`).

    An object is read member by member: `gather` follows the reader through the members, and
    what is gathered for a field is what its own values say (`once?_of_gather`).  An array is read
    element by element, up to its bracket.

    Core Lean 4 only. -/

namespace Gatehouse.Json

/-! ## Blanks and strings -/

theorem dropSpace_gap (g : Gap) (s : List UInt8) : dropSpace (g.bytes ++ s) = dropSpace s := by
  unfold dropSpace
  rw [List.dropWhile_append_of_pos g.blank]

theorem dropSpace_cons {b : UInt8} (h : isSpace b = false) (s : List UInt8) :
    dropSpace (b :: s) = b :: s := by
  unfold dropSpace
  rw [List.dropWhile_cons_of_neg]
  rw [h]
  exact Bool.false_ne_true

theorem toOption_readString (ps : List Piece) (rest : List UInt8) :
    (readString (ps.flatMap Piece.bytes ++ 0x22 :: rest)).toOption =
      (Piece.text? ps).map fun text => (text, rest) := by
  unfold Piece.text?
  cases h : Piece.chars? ps with
  | some cs =>
    rw [Piece.readString_of_chars? h]
    rfl
  | none =>
    obtain ⟨e, he⟩ := Piece.readString_error_of_chars? h rest
    rw [he]
    rfl

/-- Of a value that is not expected nothing is read. -/
theorem toOption_mismatch {α : Type} (expected : String) (s : List UInt8) :
    (mismatch expected s : Except Fault (α × List UInt8)).toOption = none := by
  unfold mismatch
  cases readFound s <;> rfl

/-- A value is read as the text that it says, and other values are not read. -/
theorem toOption_readText (g : Gap) (v : Spelled) (rest : List UInt8) :
    (readText (g.bytes ++ (v.bytes ++ rest))).toOption = v.text?.map fun text => (text, rest) := by
  obtain ⟨b, bs, hbytes, hspace, -, hquote⟩ := v.exists_bytes_eq_cons
  unfold readText
  rw [dropSpace_gap]
  by_cases hb : b = 0x22
  · obtain ⟨ps, rfl⟩ := hquote hb
    have hstring : (Spelled.string ps).bytes ++ rest =
        0x22 :: (ps.flatMap Piece.bytes ++ 0x22 :: rest) := by
      simp [Spelled.bytes, quotedBytes]
    rw [hstring, dropSpace_cons rfl]
    exact toOption_readString ps rest
  · have hnone : v.text? = none := by
      cases v with
      | string ps => exact absurd (List.cons.inj hbytes).1.symm hb
      | _ => rfl
    have hc : Char.ofUInt8 b ≠ '"' := ofUInt8_ne hb
    rw [hbytes, List.cons_append, dropSpace_cons hspace, hnone]
    simp only [if_neg hc]
    exact toOption_mismatch _ _

namespace Record

/-! ## Objects -/

section members
variable (first : Bool) (g : Gap) (rest : List UInt8)

/-- Members in a row; a comma stands in front of the first one if it is not the first one of its
    object. -/
def membersFrom (first : Bool) (ms : List (Label × Spelled × Gap)) : List UInt8 :=
  if first then (Spelled.membersBytes ms).tail else Spelled.membersBytes ms

/-- What stands behind the key of a member. -/
def afterKey (l : Label) (s : List UInt8) : List UInt8 :=
  l.beforeColon.bytes ++ 0x3a :: (l.afterColon.bytes ++ s)

theorem dropSpace_end :
    dropSpace (g.bytes ++ (membersFrom first [] ++ 0x7d :: rest)) = 0x7d :: rest := by
  cases first <;> exact (dropSpace_gap g _).trans (dropSpace_cons rfl rest)

theorem nextKey_end :
    nextKey first (g.bytes ++ (membersFrom first [] ++ 0x7d :: rest)) = .ok none := by
  unfold nextKey
  rw [dropSpace_end]
  rfl

theorem nextKey_member (l : Label) (v : Spelled) (h : Gap) (ms : List (Label × Spelled × Gap)) :
    nextKey first (g.bytes ++ (membersFrom first ((l, v, h) :: ms) ++ 0x7d :: rest)) =
      .ok (some (l.key.flatMap Piece.bytes ++ 0x22 :: afterKey l
        (v.bytes ++ (h.bytes ++ (membersFrom false ms ++ 0x7d :: rest))))) := by
  unfold nextKey
  rw [dropSpace_gap]
  cases first with
  | true =>
    simp only [membersFrom, Spelled.membersBytes, Label.bytes, quotedBytes, afterKey, if_true,
      List.tail_cons, List.append_assoc, List.cons_append, List.nil_append, Bool.false_eq_true,
      if_false]
    rw [dropSpace_gap, dropSpace_cons rfl]
    rfl
  | false =>
    simp only [membersFrom, Spelled.membersBytes, Label.bytes, quotedBytes, afterKey,
      List.append_assoc, List.cons_append, List.nil_append, Bool.false_eq_true, if_false]
    rw [dropSpace_cons rfl]
    show (openKey (dropSpace _)).map some = _
    rw [dropSpace_gap, dropSpace_cons rfl]
    rfl

theorem readColon_afterKey (l : Label) (s : List UInt8) :
    readColon (afterKey l s) = .ok (l.afterColon.bytes ++ s) := by
  unfold readColon afterKey
  rw [dropSpace_gap, dropSpace_cons rfl]
  rfl

end members

-- The reader binds the result of each read, so every match is split and the known result put in.
section steps
variable {t : Record} {found : List (String × String)} {first : Bool} {s r r' r'' : List UInt8}
  {key : String}

/-- A key has to be a string. -/
theorem readMembers_key_error {e : Fault} (hnext : nextKey first s = .ok (some r))
    (hkey : readString r = .error e) : t.readMembers found first s = .error e := by
  rw [readMembers]
  split <;> rename_i heq <;> rw [hnext] at heq <;> cases heq
  split <;> rename_i heq <;> rw [hkey] at heq <;> cases heq
  rfl

/-- No field is read twice. -/
theorem readMembers_repeated (hnext : nextKey first s = .ok (some r))
    (hkey : readString r = .ok (key, r')) (hmem : key ∈ t.names)
    (hfound : (found.lookup key).isSome) :
    (t.readMembers found first s).toOption = none := by
  rw [readMembers]
  split <;> rename_i heq <;> rw [hnext] at heq <;> cases heq
  split <;> rename_i heq <;> rw [hkey] at heq <;> cases heq
  rw [if_pos hmem, if_pos hfound]
  rfl

/-- The value of a field is read. -/
theorem readMembers_field (hnext : nextKey first s = .ok (some r))
    (hkey : readString r = .ok (key, r')) (hmem : key ∈ t.names)
    (hfound : ¬ (found.lookup key).isSome) (hcolon : readColon r' = .ok r'') :
    (t.readMembers found first s).toOption =
      (readText r'').toOption.bind fun (text, rest) =>
        (t.readMembers ((key, text) :: found) false rest).toOption := by
  rw [readMembers]
  split <;> rename_i heq <;> rw [hnext] at heq <;> cases heq
  split <;> rename_i heq <;> rw [hkey] at heq <;> cases heq
  rw [if_pos hmem, if_neg hfound]
  split <;> rename_i heq <;> rw [hcolon] at heq <;> cases heq
  split
  · rename_i heq
    rw [heq]
    rfl
  · rename_i heq
    rw [heq]
    rfl

/-- The value of another member is passed over. -/
theorem readMembers_other (hnext : nextKey first s = .ok (some r))
    (hkey : readString r = .ok (key, r')) (hmem : key ∉ t.names) (hcolon : readColon r' = .ok r'')
    {rest : List UInt8} (hskip : Skip.value r'' = .ok rest) :
    t.readMembers found first s = t.readMembers found false rest := by
  rw [readMembers]
  split <;> rename_i heq <;> rw [hnext] at heq <;> cases heq
  split <;> rename_i heq <;> rw [hkey] at heq <;> cases heq
  rw [if_neg hmem]
  split <;> rename_i heq <;> rw [hcolon] at heq <;> cases heq
  split <;> rename_i heq <;> rw [hskip] at heq <;> cases heq
  rfl

end steps

/-- What the reader has found after members in a row, when it had found something before. -/
def gather (t : Record) (found : List (String × String)) :
    List (Label × Spelled × Gap) → Option (List (String × String))
  | []              => some found
  | (l, v, _) :: ms =>
    match l.name? with
    | none      => none
    | some name =>
      if name ∈ t.names then
        if (found.lookup name).isSome then none
        else
          match v.text? with
          | none      => none
          | some text => gather t ((name, text) :: found) ms
      else gather t found ms

/-- A member is read and the reader goes on behind it, as `gather` does. -/
theorem toOption_readMembers (t : Record) (ms : List (Label × Spelled × Gap))
    (found : List (String × String)) (first : Bool) (g : Gap) (rest : List UInt8) :
    (t.readMembers found first (g.bytes ++ (membersFrom first ms ++ 0x7d :: rest))).toOption =
      (t.gather found ms).map fun found => (found, 0x7d :: rest) := by
  -- After a member the next gap is the one behind its value, and a comma has to follow.
  induction ms generalizing found first g with
  | nil =>
    rw [readMembers]
    split
    · rename_i e he
      rw [nextKey_end] at he
      cases he
    · rw [dropSpace_end]
      rfl
    · rename_i s hs
      rw [nextKey_end] at hs
      cases hs
  | cons m ms ih =>
    obtain ⟨l, v, h⟩ := m
    have hnext := nextKey_member first g rest l v h ms
    let behind := h.bytes ++ (membersFrom false ms ++ 0x7d :: rest)
    have hcolon := readColon_afterKey l (v.bytes ++ behind)
    have hread := toOption_readString l.key (afterKey l (v.bytes ++ behind))
    unfold gather
    cases hname : l.name? with
    | none =>
      rw [← Label.name?, hname] at hread
      obtain ⟨e, hkey⟩ := error_of_toOption hread
      rw [readMembers_key_error hnext hkey]
      rfl
    | some name =>
      rw [← Label.name?, hname] at hread
      have hkey := ok_of_toOption hread
      by_cases hmem : name ∈ t.names
      · by_cases hfound : (found.lookup name).isSome
        · -- The value of the second member is not even looked at.
          rw [readMembers_repeated hnext hkey hmem hfound]
          simp [hmem, hfound]
        · rw [readMembers_field hnext hkey hmem hfound hcolon, toOption_readText]
          cases htext : v.text? with
          | none => simp [hmem, hfound]
          | some text => simp [hmem, hfound, behind, ih]
      · have hskip := Skip.value_bytes l.afterColon v ((Skip.endsNumber_members ms rest).gap h)
        rw [List.append_assoc] at hskip
        rw [readMembers_other hnext hkey hmem hcolon hskip]
        simp only [if_neg hmem]
        exact ih found false h

/-- What is known of a field once further values are given for it: no second one may be. -/
def once? (known : Option String) : List Spelled → Option (Option String)
  | []      => some known
  | v :: vs =>
    if known.isSome then none
    else
      match v.text? with
      | none      => none
      | some text => once? (some text) vs

section once
variable {l : Label} {v : Spelled} {h : Gap} {ms : List (Label × Spelled × Gap)}
  {found : List (String × String)} {key name text : String}

/-- Nothing is lost when the first member of a name is read. -/
theorem once?_cons (hkey : l.name? = some key) (hfound : ¬ (found.lookup key).isSome)
    (htext : v.text? = some text) :
    once? (found.lookup name) (Spelled.named name ((l, v, h) :: ms)) =
      once? (((key, text) :: found).lookup name) (Spelled.named name ms) := by
  by_cases hsame : name = key
  · subst hsame
    rw [Spelled.named_cons, if_pos hkey, once?, if_neg hfound, htext, List.lookup_cons_self]
  · have hlookup : ((key, text) :: found).lookup name = found.lookup name := by
      rw [List.lookup_cons, beq_false_of_ne hsame]
    rw [Spelled.named_of_ne hkey (Ne.symm hsame), hlookup]

end once

section gather
variable {t : Record} {ms : List (Label × Spelled × Gap)} {found found' : List (String × String)}

-- Nothing is gathered in three cases: at a key that says nothing, at a second value of a field, and
-- at a value that is no string.
theorem isSome_name?_of_gather (h : t.gather found ms = some found') :
    ∀ m ∈ ms, m.1.name?.isSome := by
  fun_induction gather t found ms with
  | case1 => simp
  | case2 => cases h
  | case3 => cases h
  | case4 => cases h
  | case5 found l v g ms name hname hmem hfound text htext ih =>
    rw [List.forall_mem_cons]
    exact ⟨hname ▸ rfl, ih h⟩
  | case6 found l v g ms name hname hmem ih =>
    rw [List.forall_mem_cons]
    exact ⟨hname ▸ rfl, ih h⟩

/-- For each field by itself, what was found is what its values say. -/
theorem once?_of_gather (h : t.gather found ms = some found') {name : String}
    (hname : name ∈ t.names) :
    once? (found.lookup name) (Spelled.named name ms) = some (found'.lookup name) := by
  fun_induction gather t found ms with
  | case1 =>
    rw [Option.some.inj h]
    rfl
  | case2 => cases h
  | case3 => cases h
  | case4 => cases h
  | case5 found l v g ms key hkey hmem hfound text htext ih =>
    rw [once?_cons hkey hfound htext]
    exact ih h
  | case6 found l v g ms key hkey hmem ih =>
    rw [Spelled.named_of_ne hkey fun heq => hmem (heq ▸ hname)]
    exact ih h

/-- If no field has too many values, or one without a text, something is found. -/
theorem isSome_gather (hnames : ∀ m ∈ ms, m.1.name?.isSome)
    (h : ∀ name ∈ t.names, (once? (found.lookup name) (Spelled.named name ms)).isSome) :
    (t.gather found ms).isSome := by
  fun_induction gather t found ms with
  | case1 => rfl
  | case2 found l v g ms hkey =>
    have hl := hnames _ List.mem_cons_self
    rw [hkey] at hl
    cases hl
  | case3 found l v g ms key hkey hmem hfound =>
    have hvalues := h key hmem
    rw [Spelled.named_cons, hkey, if_pos rfl, once?, if_pos hfound] at hvalues
    cases hvalues
  | case4 found l v g ms key hkey hmem hfound htext =>
    have hvalues := h key hmem
    rw [Spelled.named_cons, hkey, if_pos rfl, once?, if_neg hfound, htext] at hvalues
    cases hvalues
  | case5 found l v g ms key hkey hmem hfound text htext ih =>
    apply ih (List.forall_mem_cons.1 hnames).2
    intro name hname
    rw [← once?_cons hkey hfound htext]
    exact h name hname
  | case6 found l v g ms key hkey hmem ih =>
    apply ih (List.forall_mem_cons.1 hnames).2
    intro name hname
    have hvalues := h name hname
    rwa [Spelled.named_of_ne hkey fun heq => hmem (heq ▸ hname)] at hvalues

end gather

/-- A field with what is known of it. -/
def complete? (f : Field) : Option String → Option String
  | some text => some text
  | none      => if f.required then none else some ""

theorem text?_eq_bind (f : Field) (vs : List Spelled) :
    f.text? vs = (once? none vs).bind (complete? f) := by
  match vs with
  | [] => rfl
  | [v] =>
    show v.text? = _
    unfold once?
    cases v.text? <;> rfl
  | v :: _ :: _ =>
    show none = _
    unfold once?
    cases v.text? <;> rfl

theorem toOption_complete (values : String → List Spelled) {found : List (String × String)}
    {fs : List Field}
    (h : ∀ f ∈ fs, f.text? (values f.name) = complete? f (found.lookup f.name)) (index : Nat) :
    (complete found fs).toOption = Field.texts? (fun _ => values) index fs := by
  induction fs generalizing index with
  | nil => rfl
  | cons f fs ih =>
    rw [List.forall_mem_cons] at h
    have hrest := ih h.2 (index + 1)
    unfold complete Field.texts?
    rw [h.1, ← hrest]
    cases found.lookup f.name with
    | some text => cases complete found fs <;> rfl
    | none =>
      show Except.toOption (if f.required then _ else _) = _
      unfold complete?
      by_cases hrequired : f.required
      · simp only [if_pos hrequired]
        rfl
      · simp only [if_neg hrequired]
        cases complete found fs <;> rfl

section object
variable {t : Record} {gap : Gap} {ms : List (Label × Spelled × Gap)}

theorem texts?_of_gather {found : List (String × String)} (h : t.gather [] ms = some found) :
    t.texts? (.object gap ms) = (complete found t.fields).toOption := by
  have hnames : (Spelled.object gap ms).IsRecord t.fields.length := isSome_name?_of_gather h
  have hfields : ∀ f ∈ t.fields, f.text? (Spelled.named f.name ms) =
      complete? f (found.lookup f.name) := by
    intro f hf
    have honce : once? none (Spelled.named f.name ms) = some (found.lookup f.name) :=
      once?_of_gather h (List.mem_map_of_mem hf)
    rw [text?_eq_bind, honce]
    rfl
  unfold texts?
  rw [if_pos hnames]
  exact (toOption_complete (fun name => Spelled.named name ms) hfields 0).symm

theorem texts?_of_gather_eq_none (h : t.gather [] ms = none) :
    t.texts? (.object gap ms) = none := by
  by_cases hnames : (Spelled.object gap ms).IsRecord t.fields.length
  · -- If every field took its values, something would have been found.
    have hsome : ¬ ∀ name ∈ t.names, (once? none (Spelled.named name ms)).isSome := by
      intro hall
      have hfound : (t.gather [] ms).isSome := isSome_gather hnames hall
      rw [h] at hfound
      cases hfound
    simp only [Classical.not_forall, Option.not_isSome_iff_eq_none] at hsome
    obtain ⟨name, hname, hnone⟩ := hsome
    obtain ⟨f, hf, rfl⟩ := List.mem_map.1 hname
    obtain ⟨i, hi⟩ := List.mem_iff_getElem?.1 hf
    apply texts?_eq_none hi
    show f.text? (Spelled.named f.name ms) = none
    rw [text?_eq_bind, hnone]
    rfl
  · unfold texts?
    rw [if_neg hnames]

variable (t gap ms) in
/-- An object is read as what it says about the fields. -/
theorem toOption_readObject (rest : List UInt8) :
    (t.readObject (gap.bytes ++ (membersFrom true ms ++ 0x7d :: rest))).toOption =
      (t.texts? (.object gap ms)).map fun texts => (texts, rest) := by
  have hread := toOption_readMembers t ms [] true gap rest
  unfold readObject
  cases hgather : t.gather [] ms with
  | none =>
    rw [hgather] at hread
    obtain ⟨e, he⟩ := error_of_toOption hread
    rw [he, texts?_of_gather_eq_none hgather]
    rfl
  | some found =>
    rw [hgather] at hread
    rw [ok_of_toOption hread, texts?_of_gather hgather]
    have hleaving : leaving '\x7d' (0x7d :: rest) = rest := rfl
    cases hcomplete : complete found t.fields with
    | error e =>
      simp only [hcomplete]
      rfl
    | ok texts =>
      simp only [hcomplete, hleaving]
      rfl

end object

/-! ## Arrays -/

section elements
variable (first : Bool) (g : Gap) (rest : List UInt8)

/-- Elements in a row; a comma stands in front of the first one if it is not the first one of its
    array. -/
def elementsFrom (first : Bool) (es : List (Gap × Spelled × Gap)) : List UInt8 :=
  if first then (Spelled.elementsBytes es).tail else Spelled.elementsBytes es

theorem elementsFrom_nil : elementsFrom first [] = [] := by
  cases first <;> rfl

theorem nextElement_end : nextElement first (g.bytes ++ 0x5d :: rest) = .ok none := by
  unfold nextElement
  rw [dropSpace_gap]
  rfl

theorem nextElement_value (g' : Gap) (v : Spelled) (h : Gap) (es : List (Gap × Spelled × Gap)) :
    nextElement first (g.bytes ++ (elementsFrom first ((g', v, h) :: es) ++ 0x5d :: rest)) =
      .ok (some (v.bytes ++ (h.bytes ++ (elementsFrom false es ++ 0x5d :: rest)))) := by
  obtain ⟨b, bs, hbytes, hspace, hclosing, -⟩ := v.exists_bytes_eq_cons
  have hc : Char.ofUInt8 b ≠ ']' := ofUInt8_ne hclosing
  unfold nextElement
  rw [dropSpace_gap]
  cases first with
  | true =>
    simp only [elementsFrom, Spelled.elementsBytes, List.tail_cons, List.append_assoc, if_true,
      List.cons_append, hbytes, Bool.false_eq_true, if_false]
    rw [dropSpace_gap, dropSpace_cons hspace]
    dsimp only
    split
    · exact absurd ‹_› hc
    · rfl
  | false =>
    simp only [elementsFrom, Spelled.elementsBytes, List.append_assoc,
      List.cons_append, hbytes, Bool.false_eq_true, if_false]
    rw [dropSpace_cons rfl]
    simp only [dropSpace_gap, dropSpace_cons hspace, if_neg hc]
    rfl

theorem endArray_end : endArray (g.bytes ++ 0x5d :: rest) = .ok rest := by
  unfold endArray
  rw [dropSpace_gap]
  rfl

/-- An array does not end where anything else stands. -/
theorem endArray_error {s s' : List UInt8} {b : UInt8} (hs : dropSpace s = b :: s')
    (hb : b ≠ 0x5d) : (endArray s).toOption = none := by
  have hc : Char.ofUInt8 b ≠ ']' := ofUInt8_ne hb
  unfold endArray
  rw [hs]
  dsimp only
  split
  · exact absurd ‹_› hc
  · cases dropSpace s' <;> rfl
  · rfl

theorem endArray_value (e : Gap × Spelled × Gap) (es : List (Gap × Spelled × Gap)) :
    (endArray (g.bytes ++ (elementsFrom first (e :: es) ++ 0x5d :: rest))).toOption = none := by
  obtain ⟨g', v, h⟩ := e
  cases first with
  | true =>
    obtain ⟨b, bs, hbytes, hspace, hclosing, -⟩ := v.exists_bytes_eq_cons
    apply endArray_error _ hclosing
    · exact bs ++ (h.bytes ++ Spelled.elementsBytes es) ++ 0x5d :: rest
    · simp only [elementsFrom, Spelled.elementsBytes, List.tail_cons, List.append_assoc, if_true,
        List.cons_append, hbytes]
      rw [dropSpace_gap, dropSpace_gap, dropSpace_cons hspace]
  | false =>
    have hcomma := (dropSpace_gap g _).trans (dropSpace_cons (b := 0x2c) rfl
      (g'.bytes ++ v.bytes ++ h.bytes ++ Spelled.elementsBytes es ++ 0x5d :: rest))
    exact endArray_error hcomma (by decide)

end elements

/-- The texts of the elements and the rest behind the closing bracket, if it comes next. -/
def finish (r : Except Fault (List String × List UInt8)) : Option (List String × List UInt8) :=
  r.toOption.bind fun (texts, s) => (endArray s).toOption.map fun rest => (texts, rest)

theorem finish_map (text : String) (r : Except Fault (List String × List UInt8)) :
    finish (r.map fun r => (text :: r.1, r.2)) = (finish r).map fun r => (text :: r.1, r.2) := by
  unfold finish
  cases r with
  | error e => rfl
  | ok r =>
    show (endArray r.2).toOption.map _ = ((endArray r.2).toOption.map _).map _
    rw [Option.map_map]
    rfl

/-- Elements are read one by one, each as the text of its field, up to the closing bracket. -/
theorem finish_readElements (t : Record) (fs : List Field) (index : Nat)
    {es : List (Gap × Spelled × Gap)} {values : Nat → String → List Spelled}
    (hvalues : ∀ i name, values (index + i) name = (es[i]?.map (·.2.1)).toList)
    (g : Gap) (rest : List UInt8) :
    finish (t.readElements index fs (g.bytes ++ (elementsFrom (index = 0) es ++ 0x5d :: rest))) =
      if es.length ≤ fs.length then
        (Field.texts? values index fs).map fun texts => (texts, rest)
      else none := by
  -- Fields and elements are used up side by side; if elements are left over, no bracket comes next.
  induction fs generalizing index es g with
  | nil =>
    cases es with
    | nil =>
      rw [elementsFrom_nil, List.nil_append]
      show (endArray _).toOption.map _ = _
      rw [endArray_end]
      rfl
    | cons e es =>
      show (endArray _).toOption.map _ = _
      rw [endArray_value]
      rfl
  | cons f fs ih =>
    have hafter : ∀ i name, values (index + 1 + i) name = (es.tail[i]?.map (·.2.1)).toList := by
      intro i name
      rw [Nat.add_right_comm, List.getElem?_tail]
      exact hvalues (i + 1) name
    unfold readElements Field.texts?
    cases es with
    | nil =>
      have hvalue : values index f.name = [] := hvalues 0 f.name
      have hrest := ih (index + 1) hafter g
      rw [List.tail_nil, elementsFrom_nil, List.nil_append, List.length_nil,
        if_pos (Nat.zero_le _)] at hrest
      rw [elementsFrom_nil, List.nil_append, nextElement_end, List.length_nil,
        if_pos (Nat.zero_le _), hvalue]
      -- The bracket is not taken, so every field that is left finds it again.
      by_cases hrequired : f.required
      · simp only [if_pos hrequired]
        rw [show f.text? [] = none from if_pos hrequired]
        rfl
      · simp only [if_neg hrequired]
        rw [show f.text? [] = some "" from if_neg hrequired, finish_map, hrest]
        cases Field.texts? values (index + 1) fs <;> rfl
    | cons e es =>
      obtain ⟨g', v, h⟩ := e
      have hvalue : values index f.name = [v] := hvalues 0 f.name
      have hrest := ih (index + 1) hafter h
      rw [List.tail_cons] at hrest
      have hread := toOption_readText Gap.empty v
        (h.bytes ++ (elementsFrom false es ++ 0x5d :: rest))
      change (readText (v.bytes ++ _)).toOption = _ at hread
      rw [nextElement_value, hvalue, show f.text? [v] = v.text? from rfl]
      cases htext : v.text? with
      | none =>
        rw [htext] at hread
        obtain ⟨e, he⟩ := error_of_toOption hread
        simp only [he]
        exact (ite_self none).symm
      | some text =>
        rw [htext] at hread
        simp only [ok_of_toOption hread]
        rw [finish_map]
        refine (congrArg (Option.map _) hrest).trans ?_
        simp only [List.length_cons, Nat.add_le_add_iff_right]
        split
        · cases Field.texts? values (index + 1) fs <;> rfl
        · rfl

/-- An array is read as what it says about the fields. -/
theorem toOption_readArray (t : Record) (gap : Gap) (es : List (Gap × Spelled × Gap))
    (rest : List UInt8) :
    (t.readArray (gap.bytes ++ (elementsFrom true es ++ 0x5d :: rest))).toOption =
      (t.texts? (.array gap es)).map fun texts => (texts, rest) := by
  have hfinish : (t.readArray (gap.bytes ++ (elementsFrom true es ++ 0x5d :: rest))).toOption =
      finish (t.readElements 0 t.fields (gap.bytes ++ (elementsFrom true es ++ 0x5d :: rest))) := by
    unfold readArray finish
    cases t.readElements 0 t.fields (gap.bytes ++ (elementsFrom true es ++ 0x5d :: rest)) with
    | error e => rfl
    | ok r =>
      show ((endArray r.2).map _).toOption = (endArray r.2).toOption.map _
      cases endArray r.2 <;> rfl
  have hvalues : ∀ i name, (Spelled.array gap es).valuesAt (0 + i) name =
      (es[i]?.map (·.2.1)).toList := by
    intro i name
    rw [Nat.zero_add]
    rfl
  have hread := finish_readElements t t.fields 0 hvalues gap rest
  rw [hfinish]
  refine hread.trans ?_
  unfold texts?
  by_cases hlength : es.length ≤ t.fields.length
  · have hrecord : (Spelled.array gap es).IsRecord t.fields.length := hlength
    rw [if_pos hlength, if_pos hrecord]
  · have hrecord : ¬ (Spelled.array gap es).IsRecord t.fields.length := hlength
    rw [if_neg hlength, if_neg hrecord]
    rfl

/-! ## The whole text -/

/-- No record is read where no brace and no bracket opens. -/
theorem toOption_readFront_of_ne (t : Record) (g : Gap) {b : UInt8} (hspace : isSpace b = false)
    (hbrace : b ≠ 0x7b) (hbracket : b ≠ 0x5b) (s : List UInt8) :
    (t.readFront (g.bytes ++ b :: s)).toOption = none := by
  have hc : Char.ofUInt8 b ≠ '\x7b' := ofUInt8_ne hbrace
  have hc' : Char.ofUInt8 b ≠ '[' := ofUInt8_ne hbracket
  unfold readFront
  rw [dropSpace_gap, dropSpace_cons hspace]
  dsimp only
  split
  · exact absurd ‹_› hc
  · exact absurd ‹_› hc'
  · exact toOption_mismatch _ _

theorem toOption_readFront (t : Record) (g : Gap) (v : Spelled) (rest : List UInt8) :
    (t.readFront (g.bytes ++ (v.bytes ++ rest))).toOption =
      (t.texts? v).map fun texts => (texts, rest) := by
  cases v with
  | null => exact toOption_readFront_of_ne t g rfl (by decide) (by decide) _
  | boolean b =>
    cases b <;> exact toOption_readFront_of_ne t g rfl (by decide) (by decide) _
  | number n =>
    obtain ⟨b, bs, hbytes, hb⟩ := n.exists_bytes_eq_cons
    rw [show (Spelled.number n).bytes = b :: bs from hbytes]
    rcases hb with rfl | hdigit
    · exact toOption_readFront_of_ne t g rfl (by decide) (by decide) _
    · exact toOption_readFront_of_ne t g (isSpace_of_isDigit hdigit) (ne_of_isDigit hdigit rfl)
        (ne_of_isDigit hdigit rfl) _
  | string ps => exact toOption_readFront_of_ne t g rfl (by decide) (by decide) _
  | array gap es =>
    have hbytes : (Spelled.array gap es).bytes ++ rest =
        0x5b :: (gap.bytes ++ (elementsFrom true es ++ 0x5d :: rest)) := by
      simp [Spelled.bytes, elementsFrom]
    rw [hbytes]
    unfold readFront
    rw [dropSpace_gap, dropSpace_cons rfl]
    exact toOption_readArray t gap es rest
  | object gap ms =>
    have hbytes : (Spelled.object gap ms).bytes ++ rest =
        0x7b :: (gap.bytes ++ (membersFrom true ms ++ 0x7d :: rest)) := by
      simp [Spelled.bytes, membersFrom]
    rw [hbytes]
    unfold readFront
    rw [dropSpace_gap, dropSpace_cons rfl]
    exact toOption_readObject t gap ms rest

/-- A text that holds a value is read as what the value says about the fields. -/
theorem toOption_read (t : Record) (d : Document) :
    (t.read d.bytes).toOption = t.texts? d.value := by
  obtain ⟨g, v, h⟩ := d
  have hfront := toOption_readFront t g v h.bytes
  have hend : dropSpace h.bytes = [] := by
    have hgap := dropSpace_gap h []
    rwa [List.append_nil] at hgap
  unfold read Document.bytes
  rw [List.append_assoc]
  cases htexts : t.texts? v with
  | none =>
    rw [htexts] at hfront
    obtain ⟨e, he⟩ := error_of_toOption hfront
    rw [he]
    rfl
  | some texts =>
    rw [htexts] at hfront
    rw [ok_of_toOption hfront]
    simp only [hend]
    rfl

end Record

end Gatehouse.Json
