import Gatehouse.Json.Record
import Gatehouse.Proofs.Json.Spelling

/-! # What a value says about a record

    A value says the same about the fields of a record however it is written.  An object gives
    each field the values of the members that have its name, wherever they stand among other
    members; an array gives each field the element in its place (`valuesAt`).  A field has a text
    if it is given one value and this is a string; if it may be absent, it has the empty text
    without a value (`Field.text?`).

    Core Lean 4 only. -/

namespace Gatehouse.Json

/-- The name of a member, if its key says something. -/
def Label.name? (l : Label) : Option String := Piece.text? l.key

namespace Spelled

/-! ## Values for fields -/

/-- The values of the members with a name. -/
def named (name : String) (ms : List (Label × Spelled × Gap)) : List Spelled :=
  (ms.filter fun m => m.1.name? = some name).map (·.2.1)

theorem named_cons (name : String) (l : Label) (v : Spelled) (h : Gap)
    (ms : List (Label × Spelled × Gap)) :
    named name ((l, v, h) :: ms) =
      if l.name? = some name then v :: named name ms else named name ms := by
  unfold named
  rw [List.filter_cons]
  simp only [decide_eq_true_eq]
  split <;> rfl

theorem named_of_ne {l : Label} {key name : String} (hkey : l.name? = some key)
    (hne : key ≠ name) (v : Spelled) (h : Gap) (ms : List (Label × Spelled × Gap)) :
    named name ((l, v, h) :: ms) = named name ms := by
  rw [named_cons, hkey, if_neg fun heq => hne (Option.some.inj heq)]

/-- The values that are given for a field, which has a place and a name in its record. -/
def valuesAt (v : Spelled) (index : Nat) (name : String) : List Spelled :=
  match v with
  | object _ ms => named name ms
  | array _ es  => (es[index]?.map (·.2.1)).toList
  | _           => []

/-- The value is made like a record of so many fields: each key says something, or there are not
    too many elements. -/
def IsRecord (v : Spelled) (size : Nat) : Prop :=
  match v with
  | object _ ms => ∀ m ∈ ms, m.1.name?.isSome
  | array _ es  => es.length ≤ size
  | _           => False

instance : (v : Spelled) → (size : Nat) → Decidable (v.IsRecord size)
  | object _ ms, _   => inferInstanceAs (Decidable (∀ m ∈ ms, m.1.name?.isSome))
  | array _ es, size => inferInstanceAs (Decidable (es.length ≤ size))
  | null, _          => inferInstanceAs (Decidable False)
  | boolean _, _     => inferInstanceAs (Decidable False)
  | number _, _      => inferInstanceAs (Decidable False)
  | string _, _      => inferInstanceAs (Decidable False)

section given
variable (v : Spelled) (index : Nat) (name : String)

/-- The value gives one text for a field. -/
def Says (text : String) : Prop := ∃ w, v.valuesAt index name = [w] ∧ w.text? = some text

/-- The value gives nothing for a field. -/
def Omits : Prop := v.valuesAt index name = []

/-- The value gives one text for a field, or nothing; then the text is empty. -/
def MaySay (text : String) : Prop := v.Says index name text ∨ (v.Omits index name ∧ text = "")

/-- The value gives several values for a field, or one that is not a string. -/
def Garbles : Prop :=
  2 ≤ (v.valuesAt index name).length ∨ ∃ w ∈ v.valuesAt index name, w.text? = none

end given

end Spelled

/-! ## Texts of fields -/

namespace Field

/-- The text of a field, by the values given for it. -/
def text? (f : Field) : List Spelled → Option String
  | []  => if f.required then none else some ""
  | [v] => v.text?
  | _   => none

/-- The texts of fields, from a place in the record on, by the values given for each. -/
def texts? (values : Nat → String → List Spelled) : Nat → List Field → Option (List String)
  | _, []          => some []
  | index, f :: fs => do
    let text ← f.text? (values index f.name)
    let texts ← texts? values (index + 1) fs
    return text :: texts

/-- Where one field has no text, no texts are given. -/
theorem texts?_eq_none {values : Nat → String → List Spelled} {fs : List Field}
    {index i : Nat} {f : Field} (hf : fs[i]? = some f)
    (hnone : f.text? (values (index + i) f.name) = none) : texts? values index fs = none := by
  induction fs generalizing index i with
  | nil => cases hf
  | cons f' fs ih =>
    unfold texts?
    cases i with
    | zero =>
      obtain rfl := Option.some.inj hf
      rw [show f'.text? (values index f'.name) = none from hnone]
      rfl
    | succ i =>
      rw [ih hf (by rwa [Nat.add_right_comm])]
      cases f'.text? (values index f'.name) <;> rfl

theorem texts?_cons_eq_some_iff {values : Nat → String → List Spelled} {index : Nat} {f : Field}
    {fs : List Field} {texts : List String} :
    texts? values index (f :: fs) = some texts ↔
      ∃ text rest, f.text? (values index f.name) = some text ∧
        texts? values (index + 1) fs = some rest ∧ texts = text :: rest := by
  conv => lhs; lhs; unfold texts?
  cases f.text? (values index f.name) with
  | none => simp
  | some text => cases texts? values (index + 1) fs <;> simp [eq_comm]

variable {v : Spelled} {index : Nat} {name text : String}

theorem text?_required_iff :
    text? ⟨name, true⟩ (v.valuesAt index name) = some text ↔ v.Says index name text := by
  unfold Spelled.Says
  match v.valuesAt index name with
  | []          => simp [text?]
  | [w]         => simp [text?]
  | _ :: _ :: _ => simp [text?]

theorem text?_optional_iff :
    text? ⟨name, false⟩ (v.valuesAt index name) = some text ↔ v.MaySay index name text := by
  unfold Spelled.MaySay Spelled.Says Spelled.Omits
  match v.valuesAt index name with
  | []          => simp [text?, eq_comm]
  | [w]         => simp [text?]
  | _ :: _ :: _ => simp [text?]

end Field

/-! ## Texts of records -/

namespace Record

/-- The texts of the fields of a record that a value gives. -/
def texts? (t : Record) (v : Spelled) : Option (List String) :=
  if v.IsRecord t.fields.length then Field.texts? v.valuesAt 0 t.fields else none

variable {t : Record} {v : Spelled}

theorem texts?_eq_some_iff {texts : List String} :
    t.texts? v = some texts ↔
      v.IsRecord t.fields.length ∧ Field.texts? v.valuesAt 0 t.fields = some texts := by
  unfold texts?
  split <;> simp [*]

variable {i : Nat} {f : Field}

theorem texts?_eq_none (hf : t.fields[i]? = some f)
    (hnone : f.text? (v.valuesAt i f.name) = none) : t.texts? v = none := by
  have hfields : Field.texts? v.valuesAt 0 t.fields = none :=
    Field.texts?_eq_none hf (by rwa [Nat.zero_add])
  unfold texts?
  rw [hfields, ite_self]

/-- A garbled field spoils the record. -/
theorem texts?_eq_none_of_garbles (hf : t.fields[i]? = some f) (h : v.Garbles i f.name) :
    t.texts? v = none := by
  apply texts?_eq_none hf
  unfold Spelled.Garbles at h
  match hvalues : v.valuesAt i f.name with
  | []          => simp [hvalues] at h
  | [w]         => simpa [hvalues, Field.text?] using h
  | _ :: _ :: _ => rfl

/-- So does a required one that is missing. -/
theorem texts?_eq_none_of_omits (hf : t.fields[i]? = some f) (hrequired : f.required = true)
    (h : v.Omits i f.name) : t.texts? v = none := by
  apply texts?_eq_none hf
  rw [show v.valuesAt i f.name = [] from h, Field.text?, if_pos hrequired]

end Record

end Gatehouse.Json
