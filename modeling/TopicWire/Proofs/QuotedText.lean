import TopicWire.Text.Column
import TopicWire.Text.Hex
import TopicWire.Text.Structured

/-!
# Quoted text stays on its line and can be read back

A text stays on its line if no control character is in it (`StaysOnLine`). What the program writes
of numbers, bytes and labels does; text from outside need not, but quoted it does, because every
control character is among those that are spelled (`isUnprintable_of_isControl`,
`staysOnLine_quoted`). Quoting loses nothing: a reader that looks at one character at a time finds
the character that was spelled and where its spelling ends (`readQuoted_escaped`), so what stands
between the quotes can be read back (`unquote?_quoted`) and texts that are quoted alike are equal
(`quoted_inj`). Numbers and bytes are written without a blank, each in a way of its own, so they can
be told apart from what follows a blank (`append_blank_inj`).
-/

set_option autoImplicit false
set_option relaxedAutoImplicit false

namespace TopicWire.Text

/-! ### Control characters -/

/-- Whether a character is a control character. -/
def IsControl (c : Char) : Prop := c.toNat ≤ 0x1F ∨ (0x7F ≤ c.toNat ∧ c.toNat ≤ 0x9F)

instance (c : Char) : Decidable (IsControl c) := inferInstanceAs (Decidable (_ ∨ _))

/-- Quoted text spells every control character by its number, if it has no short escape. -/
theorem isUnprintable_of_isControl {c : Char} (h : IsControl c) : isUnprintable c = true := by
  -- Two of the ranges hold all of them, and these are the first two.
  obtain ⟨later, hranges⟩ : ∃ later, Unprintable.ranges = (0x0, 0x1F) :: (0x7F, 0xA0) :: later :=
    ⟨_, rfl⟩
  rw [isUnprintable, hranges, Unprintable.within, Unprintable.within]
  rw [IsControl] at h
  simp only [Bool.and_eq_true, Bool.or_eq_true, decide_eq_true_eq]
  omega

theorem not_isControl_of_isDigit {c : Char} (h : c.isDigit) : ¬ IsControl c := by
  simp only [Char.isDigit, Bool.and_eq_true, decide_eq_true_eq, UInt32.le_iff_toNat_le] at h
  have hlow : 48 ≤ c.toNat := h.1
  have hhigh : c.toNat ≤ 57 := h.2
  rw [IsControl]
  omega

theorem not_isControl_hexDigit : ∀ n < 16, ¬ IsControl (Hex.digit n) := by decide

theorem not_isControl_digitChar : ∀ d < 16, ¬ IsControl (Nat.digitChar d) := by decide

/-- The digits of a number in base sixteen are those of numbers below sixteen. -/
theorem exists_digitChar_of_mem_toDigits {c : Char} {n : Nat} (h : c ∈ Nat.toDigits 16 n) :
    ∃ d < 16, c = Nat.digitChar d := by
  induction n using Nat.base_induction 16 (by decide) with
  | single m hm =>
    rw [Nat.toDigits_of_lt_base hm, List.mem_singleton] at h
    exact ⟨m, hm, h⟩
  | digit m d hd hm ih =>
    rw [← Nat.toDigits_append_toDigits (by decide) hm hd, List.mem_append,
      Nat.toDigits_of_lt_base hd, List.mem_singleton] at h
    rcases h with h | rfl
    · exact ih h
    · exact ⟨d, hd, rfl⟩

/-- Whether no control character is among some characters. -/
def FreeOfControls (cs : List Char) : Prop := ∀ c ∈ cs, ¬ IsControl c

instance (cs : List Char) : Decidable (FreeOfControls cs) := List.decidableBAll _ cs

theorem freeOfControls_cons {c : Char} {cs : List Char} :
    FreeOfControls (c :: cs) ↔ ¬ IsControl c ∧ FreeOfControls cs :=
  List.forall_mem_cons

theorem freeOfControls_singleton {c : Char} : FreeOfControls [c] ↔ ¬ IsControl c :=
  List.forall_mem_singleton

theorem freeOfControls_append {cs ds : List Char} :
    FreeOfControls (cs ++ ds) ↔ FreeOfControls cs ∧ FreeOfControls ds :=
  List.forall_mem_append

theorem freeOfControls_flatMap {α : Type} {xs : List α} {f : α → List Char} :
    FreeOfControls (xs.flatMap f) ↔ ∀ x ∈ xs, FreeOfControls (f x) :=
  List.forall_mem_flatMap

/-- No control character is in what a character is spelled by. -/
theorem freeOfControls_escaped {quote : Char} (hquote : ¬ IsControl quote) (c : Char) :
    FreeOfControls (escaped quote c) := by
  unfold escaped
  split
  · decide
  split
  · decide
  split
  · decide
  split
  · decide
  split
  · next hc =>
    have hc' : ¬ IsControl c := by
      rcases hc with rfl | rfl
      · decide
      · exact hquote
    exact freeOfControls_cons.mpr ⟨by decide, freeOfControls_singleton.mpr hc'⟩
  split
  · have hdigits : FreeOfControls (Nat.toDigits 16 c.toNat) := by
      intro d hd
      obtain ⟨digit, hdigit, rfl⟩ := exists_digitChar_of_mem_toDigits hd
      exact not_isControl_digitChar digit hdigit
    rw [numbered, freeOfControls_append, freeOfControls_append]
    exact ⟨⟨by decide, hdigits⟩, by decide⟩
  · next hprints =>
    exact freeOfControls_singleton.mpr fun hcontrol ↦
      hprints (isUnprintable_of_isControl hcontrol)

/-! ### Texts that stay on their line -/

/-- Whether a text stays on its line: no control character is in it. -/
def StaysOnLine (text : String) : Prop := FreeOfControls text.toList

instance (text : String) : Decidable (StaysOnLine text) :=
  inferInstanceAs (Decidable (FreeOfControls text.toList))

theorem staysOnLine_append {s t : String} :
    StaysOnLine (s ++ t) ↔ StaysOnLine s ∧ StaysOnLine t := by
  rw [StaysOnLine, String.toList_append, freeOfControls_append]
  rfl

theorem staysOnLine_join {texts : List String} :
    StaysOnLine (String.join texts) ↔ ∀ text ∈ texts, StaysOnLine text := by
  rw [StaysOnLine, String.toList_join, freeOfControls_flatMap]
  rfl

theorem staysOnLine_ofList {cs : List Char} :
    StaysOnLine (String.ofList cs) ↔ FreeOfControls cs := by
  rw [StaysOnLine, String.toList_ofList]

theorem staysOnLine_toString (n : Nat) : StaysOnLine (toString n) := by
  intro c hc
  rw [Nat.toString_eq_repr, Nat.toList_repr] at hc
  exact not_isControl_of_isDigit (Nat.isDigit_of_mem_toDigits (by decide) (by decide) hc)

theorem freeOfControls_ofByte (b : UInt8) : FreeOfControls (Hex.ofByte b) := by
  have hb := b.toNat_lt
  have hhigh := not_isControl_hexDigit (b.toNat / 16) (by omega)
  have hlow := not_isControl_hexDigit (b.toNat % 16) (by omega)
  exact freeOfControls_cons.mpr ⟨hhigh, freeOfControls_singleton.mpr hlow⟩

theorem staysOnLine_marked (b : UInt8) : StaysOnLine (Hex.marked b) := by
  rw [Hex.marked, staysOnLine_ofList, freeOfControls_cons, freeOfControls_cons]
  exact ⟨by decide, by decide, freeOfControls_ofByte b⟩

theorem staysOnLine_encode (bs : Bytes) : StaysOnLine (Hex.encode bs) := by
  rw [Hex.encode, staysOnLine_ofList, freeOfControls_flatMap]
  exact fun b _ ↦ freeOfControls_ofByte b

theorem staysOnLine_filler (width : Nat) (cell : String) : StaysOnLine (filler width cell) := by
  rw [filler, staysOnLine_ofList]
  intro c hc
  rw [List.eq_of_mem_replicate hc]
  decide

theorem staysOnLine_flushLeft {width : Nat} {cell : String} :
    StaysOnLine (flushLeft width cell) ↔ StaysOnLine cell := by
  rw [flushLeft, staysOnLine_append]
  exact and_iff_left (staysOnLine_filler width cell)

theorem staysOnLine_flushRight {width : Nat} {cell : String} :
    StaysOnLine (flushRight width cell) ↔ StaysOnLine cell := by
  rw [flushRight, staysOnLine_append]
  exact and_iff_right (staysOnLine_filler width cell)

theorem staysOnLine_listed {items : List String} (h : ∀ item ∈ items, StaysOnLine item) :
    StaysOnLine (listed items) := by
  have hcomma : StaysOnLine ", " := by decide
  unfold listed
  induction items with
  | nil => decide
  | cons item items ih =>
    rw [List.forall_mem_cons] at h
    cases items with
    | nil => exact h.1
    | cons next items =>
      rw [String.intercalate_cons_cons, staysOnLine_append, staysOnLine_append]
      exact ⟨⟨h.1, hcomma⟩, ih h.2⟩

theorem staysOnLine_record {name : String} {fields : List (String × String)}
    (hname : StaysOnLine name) (h : ∀ field ∈ fields, StaysOnLine field.1 ∧ StaysOnLine field.2) :
    StaysOnLine (record name fields) := by
  have hfields : StaysOnLine (listed (fields.map fun field ↦ field.1 ++ ": " ++ field.2)) := by
    refine staysOnLine_listed (List.forall_mem_map.mpr fun field hfield ↦ ?_)
    rw [staysOnLine_append, staysOnLine_append]
    exact ⟨⟨(h field hfield).1, by decide⟩, (h field hfield).2⟩
  unfold record
  simp only [staysOnLine_append, hname, hfields, true_and, and_true]
  decide

/-- Whatever is in a text, quoted it stays on its line. -/
theorem staysOnLine_quoted (text : String) : StaysOnLine (quoted text) := by
  rw [quoted, staysOnLine_ofList, freeOfControls_append, freeOfControls_append,
    freeOfControls_flatMap]
  exact ⟨⟨by decide, fun c _ ↦ freeOfControls_escaped (by decide) c⟩, by decide⟩

/-! ### Reading quoted text -/

/-- Where a reader of quoted text stands: between two characters, after a backslash, before the
digits of a number, or after some of them. -/
inductive Place where
  | between
  | escape
  | brace
  | digits (n : Nat)

/-- The number of a digit in base sixteen. -/
def digitValue (c : Char) : Nat := if c.toNat ≤ 57 then c.toNat - 48 else c.toNat - 87

/-- The character that a backslash and another character stand for. -/
def shortEscape (c : Char) : Char :=
  if c = '0' then '\x00'
  else if c = 't' then '\t'
  else if c = 'n' then '\n'
  else if c = 'r' then '\r'
  else c

/-- Reads up to the quote at the end. -/
def readQuoted : Place → List Char → Option (List Char)
  | _, [] => none
  | .between, c :: cs =>
    if c = '"' then if cs.isEmpty then some [] else none
    else if c = '\\' then readQuoted .escape cs
    else (readQuoted .between cs).map (c :: ·)
  | .escape, c :: cs =>
    if c = 'u' then readQuoted .brace cs
    else (readQuoted .between cs).map (shortEscape c :: ·)
  | .brace, c :: cs => if c = '\x7b' then readQuoted (.digits 0) cs else none
  | .digits n, c :: cs =>
    if c = '\x7d' then (readQuoted .between cs).map (Char.ofNat n :: ·)
    else readQuoted (.digits (16 * n + digitValue c)) cs

/-- The text that a text in double quotes stands for, if it is one. -/
def unquote? (text : String) : Option String :=
  match text.toList with
  | '"' :: cs => (readQuoted .between cs).map String.ofList
  | _ => none

theorem digitValue_digitChar : ∀ d < 16, digitValue (Nat.digitChar d) = d := by decide

theorem digitChar_ne_brace : ∀ d < 16, Nat.digitChar d ≠ '\x7d' := by decide

/-- The digits of a number are read as the number. -/
theorem readQuoted_toDigits (n : Nat) (cs : List Char) :
    readQuoted (.digits 0) (Nat.toDigits 16 n ++ cs) = readQuoted (.digits n) cs := by
  -- The induction is on the digits from the last one on, each read after those in front of it.
  induction n using Nat.base_induction 16 (by decide) generalizing cs with
  | single m hm =>
    rw [Nat.toDigits_of_lt_base hm, List.singleton_append, readQuoted,
      if_neg (digitChar_ne_brace m hm), digitValue_digitChar m hm, Nat.mul_zero, Nat.zero_add]
  | digit m d hd hm ih =>
    rw [← Nat.toDigits_append_toDigits (by decide) hm hd, List.append_assoc, ih,
      Nat.toDigits_of_lt_base hd, List.singleton_append, readQuoted,
      if_neg (digitChar_ne_brace d hd), digitValue_digitChar d hd]

/-- What a character is spelled by is read as the character, and no further. -/
theorem readQuoted_escaped (c : Char) (cs : List Char) :
    readQuoted .between (escaped '"' c ++ cs) = (readQuoted .between cs).map (c :: ·) := by
  unfold escaped
  split
  · next h => rw [h]; rfl
  split
  · next h => rw [h]; rfl
  split
  · next h => rw [h]; rfl
  split
  · next h => rw [h]; rfl
  split
  · next h => rcases h with rfl | rfl <;> rfl
  next hplain =>
    rw [not_or] at hplain
    split
    · show readQuoted (.digits 0) ((Nat.toDigits 16 c.toNat ++ ['\x7d']) ++ cs) = _
      rw [List.append_assoc, readQuoted_toDigits, List.singleton_append, readQuoted, if_pos rfl,
        Char.ofNat_toNat]
    · rw [List.singleton_append, readQuoted, if_neg hplain.2, if_neg hplain.1]

/-- Quoted text can be read back. -/
theorem unquote?_quoted (text : String) : unquote? (quoted text) = some text := by
  have hread : ∀ cs : List Char,
      readQuoted .between (cs.flatMap (escaped '"') ++ ['"']) = some cs := by
    intro cs
    induction cs with
    | nil => rfl
    | cons c cs ih =>
      rw [List.flatMap_cons, List.append_assoc, readQuoted_escaped, ih]
      rfl
  rw [unquote?, quoted, String.toList_ofList, List.append_assoc, List.singleton_append]
  simp only [hread, Option.map_some, String.ofList_toList]

/-- Texts that are quoted alike are equal. -/
theorem quoted_inj {s t : String} : quoted s = quoted t ↔ s = t := by
  constructor
  · intro h
    have hread := unquote?_quoted s
    rw [h, unquote?_quoted] at hread
    exact (Option.some.inj hread).symm
  · rintro rfl
    rfl

/-! ### Words and the blanks between them -/

/-- The word in front of the first blank can be told apart from what follows it. -/
theorem append_blank_inj {s t s' t' : String} (hs : ' ' ∉ s.toList) (ht : ' ' ∉ t.toList) :
    s ++ " " ++ s' = t ++ " " ++ t' ↔ s = t ∧ s' = t' := by
  have hcut : ∀ word rest : String,
      (word ++ " " ++ rest).toList = word.toList ++ ' ' :: rest.toList := by
    intro word rest
    rw [String.toList_append, String.toList_append, List.append_assoc]
    rfl
  constructor
  · intro h
    rw [← String.toList_inj, hcut, hcut] at h
    have hsplit := congrArg (List.splitOn ' ') h
    rw [List.splitOn_append_cons_self_of_not_mem hs, List.splitOn_append_cons_self_of_not_mem ht,
      List.cons.injEq] at hsplit
    rw [hsplit.1] at h
    have hrest := (List.cons.inj (List.append_cancel_left h)).2
    exact ⟨String.toList_inj.mp hsplit.1, String.toList_inj.mp hrest⟩
  · rintro ⟨rfl, rfl⟩
    rfl

theorem toString_inj {m n : Nat} : toString m = toString n ↔ m = n := by
  constructor
  · intro h
    have hdigits : Nat.toDigits 10 m = Nat.toDigits 10 n := by
      rw [← Nat.toList_repr, ← Nat.toList_repr]
      exact congrArg String.toList h
    rw [← Nat.ofDigitChars_ten_toDigits (n := m), hdigits, Nat.ofDigitChars_ten_toDigits]
  · rintro rfl
    rfl

theorem not_mem_blank_toString (n : Nat) : ' ' ∉ (toString n).toList := by
  intro h
  rw [Nat.toString_eq_repr, Nat.toList_repr] at h
  have hdigit := Nat.isDigit_of_mem_toDigits (by decide) (by decide) h
  exact absurd hdigit (by decide)

theorem hexDigit_inj : ∀ m < 16, ∀ n < 16, Hex.digit m = Hex.digit n → m = n := by decide

theorem marked_inj {a b : UInt8} : Hex.marked a = Hex.marked b ↔ a = b := by
  constructor
  · intro h
    have hdigits := String.ofList_injective h
    simp only [Hex.ofByte, List.cons.injEq, true_and, and_true] at hdigits
    have ha := a.toNat_lt
    have hb := b.toNat_lt
    have hhigh := hexDigit_inj _ (by omega) _ (by omega) hdigits.1
    have hlow := hexDigit_inj _ (by omega) _ (by omega) hdigits.2
    apply UInt8.toNat_inj.mp
    omega
  · rintro rfl
    rfl

/-- A byte is marked without a blank. -/
theorem not_mem_blank_marked (b : UInt8) : ' ' ∉ (Hex.marked b).toList := by
  have hdigit : ∀ n < 16, Hex.digit n ≠ ' ' := by decide
  have hb := b.toNat_lt
  have hhigh := (hdigit (b.toNat / 16) (by omega)).symm
  have hlow := (hdigit (b.toNat % 16) (by omega)).symm
  simp [Hex.marked, Hex.ofByte, hhigh, hlow]

end TopicWire.Text
