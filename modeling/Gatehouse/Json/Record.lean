import Gatehouse.Json.Skip

/-! # Records read from JSON texts

    A record is a fixed list of text fields, some of which may be absent.  A JSON text
    gives it as an object, its members in any order, or as an array in the order of the
    fields.  Members with other names are passed over.

    `Record.read` reads a whole text: the record, and nothing but blanks after it.

    Core Lean 4 only. -/

namespace Gatehouse.Json

/-- A field of a record; an absent optional field is the empty text. -/
structure Field where
  name     : String
  required : Bool
  deriving DecidableEq, Repr

/-- A kind of record. -/
structure Record where
  name   : String
  fields : List Field
  deriving DecidableEq, Repr

namespace Record

def expected (t : Record) : String := "struct " ++ t.name

def names (t : Record) : List String := t.fields.map (·.name)

/-! ## Objects -/

/-- The colon after a key. -/
def readColon (s : List UInt8) : Except Fault (List UInt8) :=
  match dropSpace s with
  | []        => .error (.before [] .endInObject)
  | b :: rest =>
    if Char.ofUInt8 b = ':' then .ok rest else .error (.peeking (b :: rest) .expectedColon)

theorem readColon_length_lt {s r : List UInt8} (h : readColon s = .ok r) :
    r.length < s.length := by
  unfold readColon at h
  have hs := dropSpace_length_le s
  split at h
  · simp at h
  · rename_i b rest hd
    rw [hd, List.length_cons] at hs
    split at h <;> simp at h
    exact h ▸ hs

/-- The rest after the opening quote of a key. -/
def openKey (s : List UInt8) : Except Fault (List UInt8) :=
  match s with
  | []        => .error (.before [] .endInValue)
  | b :: rest =>
    match Char.ofUInt8 b with
    | '"'    => .ok rest
    | '\x7d' => .error (.peeking (b :: rest) .trailingComma)
    | _      => .error (.peeking (b :: rest) .keyNotString)

theorem openKey_length_lt {s r : List UInt8} (h : openKey s = .ok r) : r.length < s.length := by
  unfold openKey at h
  split at h
  · simp at h
  · split at h <;> simp at h
    simp [h]

/-- The rest after the opening quote of the next key; nothing at the closing brace, which is
    left. -/
def nextKey (first : Bool) (s : List UInt8) : Except Fault (Option (List UInt8)) :=
  match dropSpace s with
  | []        => .error (.before [] .endInObject)
  | b :: rest =>
    match Char.ofUInt8 b with
    | '\x7d' => .ok none
    | c      =>
      if first then (openKey (b :: rest)).map some
      else if c = ',' then (openKey (dropSpace rest)).map some
      else .error (.peeking (b :: rest) .expectedCommaOrBrace)

theorem nextKey_length_lt {first : Bool} {s r : List UInt8} (h : nextKey first s = .ok (some r)) :
    r.length < s.length := by
  unfold nextKey at h
  have hs := dropSpace_length_le s
  split at h
  · simp at h
  · rename_i b rest hd
    have hr := dropSpace_length_le rest
    rw [hd, List.length_cons] at hs
    split at h
    · simp at h
    · split at h
      · cases hk : openKey (b :: rest) <;> simp [hk, Except.map] at h
        have := openKey_length_lt hk
        subst h
        simp at this
        omega
      · split at h
        · cases hk : openKey (dropSpace rest) <;> simp [hk, Except.map] at h
          have := openKey_length_lt hk
          subst h
          omega
        · simp at h

/-- Where reading stops when an object or array is left at a mistake: the blanks are read,
    and the closing bracket if it comes next. -/
def leaving (bracket : Char) (s : List UInt8) : List UInt8 :=
  match dropSpace s with
  | []        => []
  | b :: rest => if Char.ofUInt8 b = bracket then rest else b :: rest

/-- The texts of the fields by their names, from the members of an object; `found` holds
    those already read, last first. -/
def readMembers (t : Record) (found : List (String × String)) (first : Bool) :
    Read (List (String × String)) := fun s =>
  match _h₁ : nextKey first s with
  | .error e        => .error e
  | .ok none        => .ok (found, dropSpace s)
  | .ok (some rest) =>
    match _h₂ : readString rest with
    | .error e       => .error e
    | .ok (key, rest) =>
      if key ∈ t.names then
        if (found.lookup key).isSome then
          .error (.shape (leaving '\x7d' rest) (.duplicateField key))
        else
          match _h₃ : readColon rest with
          | .error e => .error e
          | .ok rest =>
            match _h₄ : readText rest with
            | .error e         => .error (e.inMember (.field key))
            | .ok (text, rest) => readMembers t ((key, text) :: found) false rest
      else
        match _h₃ : readColon rest with
        | .error e => .error e
        | .ok rest =>
          match _h₄ : Skip.value rest with
          | .error e => .error (e.inMember (.field key))
          | .ok rest => readMembers t found false rest
termination_by s => s.length
decreasing_by
  · have h₁ := nextKey_length_lt _h₁
    have h₂ := readStringFrom_length_lt _h₂
    have h₃ := readColon_length_lt _h₃
    have h₄ := readText_length_lt _h₄
    omega
  · have h₁ := nextKey_length_lt _h₁
    have h₂ := readStringFrom_length_lt _h₂
    have h₃ := readColon_length_lt _h₃
    have h₄ := Skip.value_length_le _h₄
    omega

/-- The texts of the fields in their order, if no required one is missing. -/
def complete (found : List (String × String)) : List Field → Except ShapeError (List String)
  | []      => .ok []
  | f :: fs =>
    match found.lookup f.name with
    | some text => (complete found fs).map (text :: ·)
    | none      =>
      if f.required then .error (.missingField f.name)
      else (complete found fs).map ("" :: ·)

/-- A record from the text after an opening brace. -/
def readObject (t : Record) : Read (List String) := fun s =>
  match readMembers t [] true s with
  | .error e          => .error e
  | .ok (found, rest) =>
    match complete found t.fields with
    | .error e  => .error (.shape (leaving '\x7d' rest) e)
    | .ok texts => .ok (texts, leaving '\x7d' rest)

/-! ## Arrays -/

/-- The rest where the next element begins; nothing at the closing bracket, which is left. -/
def nextElement (first : Bool) (s : List UInt8) : Except Fault (Option (List UInt8)) :=
  match dropSpace s with
  | []        => .error (.before [] .endInList)
  | b :: rest =>
    match Char.ofUInt8 b with
    | ']' => .ok none
    | c   =>
      if first then .ok (some (b :: rest))
      else if c = ',' then
        match dropSpace rest with
        | []         => .error (.before [] .endInValue)
        | b' :: more =>
          if Char.ofUInt8 b' = ']' then .error (.peeking (b' :: more) .trailingComma)
          else .ok (some (b' :: more))
      else .error (.peeking (b :: rest) .expectedCommaOrBracket)

/-- What follows the elements of an array is its closing bracket. -/
def endArray (s : List UInt8) : Except Fault (List UInt8) :=
  match dropSpace s with
  | []        => .error (.before [] .endInList)
  | b :: rest =>
    match Char.ofUInt8 b with
    | ']' => .ok rest
    | ',' =>
      match dropSpace rest with
      | []         => .error (.before [] .trailingCharacters)
      | b' :: more =>
        .error (.peeking (b' :: more)
          (if Char.ofUInt8 b' = ']' then .trailingComma else .trailingCharacters))
    | _   => .error (.peeking (b :: rest) .trailingCharacters)

/-- The texts of the fields from the element with the given index on. -/
def readElements (t : Record) (index : Nat) : List Field → Read (List String)
  | [], s      => .ok ([], s)
  | f :: fs, s =>
    match nextElement (index = 0) s with
    | .error e        => .error e
    | .ok none        =>
      if f.required then
        .error (.shape (leaving ']' s)
          (.invalidLength index
            (t.expected ++ " with " ++ toString t.fields.length ++ " elements")))
      else (readElements t (index + 1) fs s).map fun (texts, rest) => ("" :: texts, rest)
    | .ok (some rest) =>
      match readText rest with
      | .error e         => .error (e.inMember (.index index))
      | .ok (text, rest) =>
        (readElements t (index + 1) fs rest).map fun (texts, rest) => (text :: texts, rest)

/-- A record from the text after an opening bracket. -/
def readArray (t : Record) : Read (List String) := fun s =>
  match readElements t 0 t.fields s with
  | .error e          => .error e
  | .ok (texts, rest) => (endArray rest).map fun rest => (texts, rest)

/-! ## The whole text -/

/-- The record at the front of a text. -/
def readFront (t : Record) : Read (List String) := fun s =>
  match dropSpace s with
  | []        => .error (.before [] .endInValue)
  | b :: rest =>
    match Char.ofUInt8 b with
    | '\x7b' => t.readObject rest
    | '['    => t.readArray rest
    | _      => mismatch t.expected (b :: rest)

/-- The texts of the fields, in their order, of the record that a text holds. -/
def read (t : Record) (text : List UInt8) : Except Fault (List String) :=
  match t.readFront text with
  | .error e          => .error e
  | .ok (texts, rest) =>
    match dropSpace rest with
    | []     => .ok texts
    | b :: r => .error (.peeking (b :: r) .trailingCharacters)

end Record

end Gatehouse.Json
