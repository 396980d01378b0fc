import QueryTyping.Proofs.JsonGrammar

/-!
# The two layouts of JSON

A document is printed on one line or with one item a line.  Both texts are of
the grammar for that document (`compact_documentText`, `pretty_documentText`)
and within ASCII, whatever characters its strings hold: an escape is made of
printable characters.

Decimals are outside of the first: they are printed with a point and an
exponent, so they are read with another coefficient.
-/

namespace QueryTyping.Json

open QueryTyping.Text

mutual

/-- No number in the document is a decimal. -/
def Integral : Json → Prop
  | decimal _ _ _ => False
  | list items => IntegralItems items
  | object members => IntegralMembers members
  | _ => True

def IntegralItems : List Json → Prop
  | [] => True
  | item :: rest => item.Integral ∧ IntegralItems rest

def IntegralMembers : List (String × Json) → Prop
  | [] => True
  | (_, value) :: rest => value.Integral ∧ IntegralMembers rest

end

theorem hexSpellings_digitChar {n : Nat} (digit : n < 16) :
    (Nat.digitChar n, n) ∈ hexSpellings := by
  have all : ∀ n < 16, (Nat.digitChar n, n) ∈ hexSpellings := by decide
  exact all n digit

/-- Four digits are enough for a code unit. -/
theorem hexDigits_unitText {unit : Nat} (fits : unit < 0x10000) :
    UnitText unit (hexDigits 4 unit) := by
  have digit (n : Nat) : (Nat.digitChar (n % 16), n % 16) ∈ hexSpellings :=
    hexSpellings_digitChar (Nat.mod_lt n (by decide))
  have whole : ((unit / 16 / 16 / 16 % 16 * 16 + unit / 16 / 16 % 16) * 16 + unit / 16 % 16) * 16 +
      unit % 16 = unit := by omega
  have written := UnitText.digits (digit (unit / 16 / 16 / 16)) (digit (unit / 16 / 16))
    (digit (unit / 16)) (digit unit)
  rw [whole] at written
  exact written

theorem escapeChar_charText (c : Char) : CharText c (escapeChar c) := by
  unfold escapeChar
  split_ifs with quote backslash newline carriage tab feed back visible below
  · rw [quote]
    exact .letter (by decide)
  · rw [backslash]
    exact .letter (by decide)
  · rw [newline]
    exact .letter (by decide)
  · rw [carriage]
    exact .letter (by decide)
  · rw [tab]
    exact .letter (by decide)
  · rw [feed]
    exact .letter (by decide)
  · rw [back]
    exact .letter (by decide)
  · simp only [Bool.and_eq_true, decide_eq_true_eq] at visible
    exact .unescaped visible.1 quote backslash
  · exact .unit (hexDigits_unitText below)
  · have scalar := scalar_value c
    have highFits : 0xd800 + (c.toNat - 0x10000) / 0x400 < 0x10000 := by omega
    have lowFits : 0xdc00 + (c.toNat - 0x10000) % 0x400 < 0x10000 := by omega
    exact .pair (by omega) (hexDigits_unitText highFits) (hexDigits_unitText lowFits)

theorem escapeChars_charsText (cs : List Char) : CharsText cs (cs.flatMap escapeChar) := by
  induction cs with
  | nil => exact .nil
  | cons c cs ih => exact .cons (escapeChar_charText c) ih

theorem printText_valueText (s : String) : ValueText (text s) (printText s) := by
  have written := ValueText.text (escapeChars_charsText s.toList)
  rw [String.ofList_toList] at written
  exact written

theorem toDigits_head_zero {n : Nat} (zero : (Nat.toDigits 10 n).head? = some '0') : n = 0 := by
  induction n using Nat.strong_induction_on with
  | _ n ih =>
    rw [Nat.toDigits_eq_if (by decide)] at zero
    split at zero
    next small =>
      have all : ∀ n < 10, [Nat.digitChar n].head? = some '0' → n = 0 := by decide
      exact all n small zero
    next large =>
      rw [List.head?_append_of_ne_nil _ Nat.toDigits_ne_nil] at zero
      have quotient := ih (n / 10) (by omega) zero
      omega

theorem toDigits_isWhole (n : Nat) : IsWhole (Nat.toDigits 10 n) := by
  refine ⟨⟨Nat.toDigits_ne_nil, fun c member =>
    Nat.isDigit_of_mem_toDigits (by decide) (by decide) member⟩, ?_⟩
  intro zero
  rw [toDigits_head_zero zero]
  rfl

theorem toString_toList (n : Nat) : (toString n).toList = Nat.toDigits 10 n := by
  rw [Nat.toString_eq_ofList_toDigits, String.toList_ofList]

theorem integer_valueText (n : Int) : ValueText (integer n) (toString n).toList := by
  have written (negative : Bool) (m : Nat) :
      NumberText negative (integer (signed negative m)) (Nat.toDigits 10 m) := by
    have digits : NumberText negative _ _ := .integer (toDigits_isWhole m)
    rwa [Nat.ofDigitChars_ten_toDigits] at digits
  cases n with
  | ofNat m =>
    have printed : (toString (Int.ofNat m)).toList = Nat.toDigits 10 m := toString_toList m
    rw [printed]
    exact .positive (written false m)
  | negSucc m =>
    have sign : toString (Int.negSucc m) = "-" ++ toString (m + 1) := rfl
    have printed : (toString (Int.negSucc m)).toList = '-' :: Nat.toDigits 10 (m + 1) := by
      rw [sign, String.toList_append, toString_toList]
      rfl
    rw [printed]
    exact .negative (written true (m + 1))

theorem isSpace_nil : IsSpace [] := by simp [IsSpace]

theorem isSpace_blank : IsSpace [' '] := by simp [IsSpace, spaces]

theorem isSpace_newLine (indent : Nat) : IsSpace (newLine indent) := by
  intro c member
  have written : c = '\n' ∨ indent ≠ 0 ∧ c = ' ' := by simpa [newLine] using member
  obtain rfl | ⟨-, rfl⟩ := written <;> decide

theorem IsSpace.append {s t : List Char} (first : IsSpace s) (second : IsSpace t) :
    IsSpace (s ++ t) := by
  intro c member
  obtain inFirst | inSecond := List.mem_append.mp member
  · exact first c inFirst
  · exact second c inSecond

theorem ValueText.document {value : Json} {s : List Char} (valueText : ValueText value s) :
    DocumentText value s := by
  have spaced := DocumentText.spaced isSpace_nil valueText isSpace_nil
  simpa using spaced

section Spaced

variable {before s after : List Char} (blankBefore : IsSpace before) (blankAfter : IsSpace after)

include blankBefore

theorem DocumentText.preceded {value : Json} (documentText : DocumentText value s) :
    DocumentText value (before ++ s) := by
  cases documentText with
  | spaced inner valueText blankAfter =>
    rw [← List.append_assoc]
    exact .spaced (blankBefore.append inner) valueText blankAfter

theorem ItemsText.preceded {items : List Json} (itemsText : ItemsText items s) :
    ItemsText items (before ++ s) := by
  cases itemsText with
  | last itemText => exact .last (itemText.preceded blankBefore)
  | more itemText others =>
    rw [← List.append_assoc]
    exact .more (itemText.preceded blankBefore) others

theorem MemberText.preceded {member : String × Json} (memberText : MemberText member s) :
    MemberText member (before ++ s) := by
  cases memberText with
  | named inner chars between valueText =>
    rw [← List.append_assoc]
    exact .named (blankBefore.append inner) chars between valueText

theorem MembersText.preceded {members : List (String × Json)} (membersText : MembersText members s) :
    MembersText members (before ++ s) := by
  cases membersText with
  | last memberText => exact .last (memberText.preceded blankBefore)
  | more memberText others =>
    rw [← List.append_assoc]
    exact .more (memberText.preceded blankBefore) others

omit blankBefore
include blankAfter

theorem DocumentText.followed {value : Json} (documentText : DocumentText value s) :
    DocumentText value (s ++ after) := by
  cases documentText with
  | spaced blankBefore valueText inner =>
    rw [List.append_assoc, List.append_assoc]
    exact .spaced blankBefore valueText (inner.append blankAfter)

theorem MemberText.followed {member : String × Json} (memberText : MemberText member s) :
    MemberText member (s ++ after) := by
  cases memberText with
  | named blankBefore chars between valueText =>
    simp only [List.append_assoc, List.cons_append]
    exact .named blankBefore chars between (valueText.followed blankAfter)

theorem ItemsText.followed {items : List Json} (itemsText : ItemsText items s) :
    ItemsText items (s ++ after) := by
  induction items generalizing s with
  | nil => cases itemsText
  | cons item items ih =>
    cases itemsText with
    | last itemText => exact .last (itemText.followed blankAfter)
    | more itemText others =>
      rw [List.append_assoc, List.cons_append]
      exact .more itemText (ih others)

theorem MembersText.followed {members : List (String × Json)} (membersText : MembersText members s) :
    MembersText members (s ++ after) := by
  induction members generalizing s with
  | nil => cases membersText
  | cons member members ih =>
    cases membersText with
    | last memberText => exact .last (memberText.followed blankAfter)
    | more memberText others =>
      rw [List.append_assoc, List.cons_append]
      exact .more memberText (ih others)

end Spaced

/-- A member as it is printed: one blank behind the colon. -/
theorem memberText_printed (name : String) {value : Json} {s : List Char}
    (valueText : ValueText value s) :
    MemberText (name, value) (printText name ++ [':', ' '] ++ s) := by
  have written := MemberText.named isSpace_nil (escapeChars_charsText name.toList) isSpace_nil
    (valueText.document.preceded isSpace_blank)
  rw [String.ofList_toList] at written
  simpa [printText] using written

mutual

theorem printLine_valueText : ∀ document : Json, document.Integral →
    ValueText document (printLine document)
  | null, _ => .null
  | bool true, _ => .true
  | bool false, _ => .false
  | integer n, _ => integer_valueText n
  | text s, _ => printText_valueText s
  | list [], _ => .emptyList isSpace_nil
  | list (item :: rest), integral =>
    .list (printItems_itemsText (item :: rest) (List.cons_ne_nil item rest) integral)
  | object [], _ => .emptyObject isSpace_nil
  | object (member :: rest), integral =>
    .object (printMembers_membersText (member :: rest) (List.cons_ne_nil member rest) integral)

theorem printItems_itemsText : ∀ items : List Json, items ≠ [] → IntegralItems items →
    ItemsText items (printItems items)
  | [], nonempty, _ => absurd rfl nonempty
  | [item], _, integral => .last (printLine_valueText item integral.1).document
  | item :: next :: rest, _, integral => by
    have others := printItems_itemsText (next :: rest) (List.cons_ne_nil next rest) integral.2
    have written := ItemsText.more (printLine_valueText item integral.1).document
      (others.preceded isSpace_blank)
    simpa [printItems] using written

theorem printMembers_membersText : ∀ members : List (String × Json), members ≠ [] →
    IntegralMembers members → MembersText members (printMembers members)
  | [], nonempty, _ => absurd rfl nonempty
  | [(name, value)], _, integral =>
    .last (memberText_printed name (printLine_valueText value integral.1))
  | (name, value) :: next :: rest, _, integral => by
    have others := printMembers_membersText (next :: rest) (List.cons_ne_nil next rest) integral.2
    have written := MembersText.more
      (memberText_printed name (printLine_valueText value integral.1))
      (others.preceded isSpace_blank)
    simpa [printMembers] using written

end

/-- The document on one line is a text of the grammar. -/
theorem compact_documentText {document : Json} (integral : document.Integral) :
    DocumentText document document.compact.toList := by
  rw [compact, String.toList_ofList]
  exact (printLine_valueText document integral).document

mutual

theorem printIndented_valueText : ∀ (indent : Nat) (document : Json), document.Integral →
    ValueText document (printIndented indent document)
  | _, null, _ => .null
  | _, bool true, _ => .true
  | _, bool false, _ => .false
  | _, integer n, _ => integer_valueText n
  | _, text s, _ => printText_valueText s
  | _, list [], _ => .emptyList isSpace_nil
  | indent, list (item :: rest), integral => by
    have items := printIndentedItems_itemsText (indent + 2) (item :: rest)
      (List.cons_ne_nil item rest) integral
    have written := ValueText.list ((items.preceded (isSpace_newLine (indent + 2))).followed
      (isSpace_newLine indent))
    simpa [printIndented] using written
  | _, object [], _ => .emptyObject isSpace_nil
  | indent, object (member :: rest), integral => by
    have members := printIndentedMembers_membersText (indent + 2) (member :: rest)
      (List.cons_ne_nil member rest) integral
    have written := ValueText.object ((members.preceded (isSpace_newLine (indent + 2))).followed
      (isSpace_newLine indent))
    simpa [printIndented] using written

theorem printIndentedItems_itemsText : ∀ (indent : Nat) (items : List Json), items ≠ [] →
    IntegralItems items → ItemsText items (printIndentedItems indent items)
  | _, [], nonempty, _ => absurd rfl nonempty
  | indent, [item], _, integral => .last (printIndented_valueText indent item integral.1).document
  | indent, item :: next :: rest, _, integral => by
    have others := printIndentedItems_itemsText indent (next :: rest)
      (List.cons_ne_nil next rest) integral.2
    have written := ItemsText.more (printIndented_valueText indent item integral.1).document
      (others.preceded (isSpace_newLine indent))
    simpa [printIndentedItems] using written

theorem printIndentedMembers_membersText : ∀ (indent : Nat) (members : List (String × Json)),
    members ≠ [] → IntegralMembers members →
    MembersText members (printIndentedMembers indent members)
  | _, [], nonempty, _ => absurd rfl nonempty
  | indent, [(name, value)], _, integral =>
    .last (memberText_printed name (printIndented_valueText indent value integral.1))
  | indent, (name, value) :: next :: rest, _, integral => by
    have others := printIndentedMembers_membersText indent (next :: rest)
      (List.cons_ne_nil next rest) integral.2
    have written := MembersText.more
      (memberText_printed name (printIndented_valueText indent value integral.1))
      (others.preceded (isSpace_newLine indent))
    simpa [printIndentedMembers] using written

end

/-- The document over several lines is a text of the grammar. -/
theorem pretty_documentText {document : Json} (integral : document.Integral) :
    DocumentText document document.pretty.toList := by
  rw [pretty, String.toList_ofList]
  exact (printIndented_valueText 0 document integral).document

/-- A text of ASCII characters only. -/
def Ascii (s : List Char) : Prop := ∀ c ∈ s, c.toNat < 0x80

@[simp]
theorem ascii_nil : Ascii [] := by simp [Ascii]

@[simp]
theorem ascii_cons {c : Char} {s : List Char} : Ascii (c :: s) ↔ c.toNat < 0x80 ∧ Ascii s := by
  simp [Ascii]

@[simp]
theorem ascii_append {s t : List Char} : Ascii (s ++ t) ↔ Ascii s ∧ Ascii t := by
  simp only [Ascii, List.mem_append, or_imp, forall_and]

@[simp]
theorem ascii_hexDigits (width n : Nat) : Ascii (hexDigits width n) := by
  induction width generalizing n with
  | zero => exact ascii_nil
  | succ width ih =>
    have all : ∀ n < 16, (Nat.digitChar n).toNat < 0x80 := by decide
    have digit := all (n % 16) (Nat.mod_lt n (by decide))
    simpa [hexDigits, ih] using digit

@[simp]
theorem ascii_escapeChar (c : Char) : Ascii (escapeChar c) := by
  unfold escapeChar
  split_ifs with quote backslash newline carriage tab feed back visible
  any_goals simp [escapeUnit]
  -- what is left stands as it is
  simp only [Bool.and_eq_true, decide_eq_true_eq] at visible
  omega

@[simp]
theorem ascii_printText (s : String) : Ascii (printText s) := by
  have escaped : Ascii (s.toList.flatMap escapeChar) := by
    intro c member
    obtain ⟨origin, -, inEscape⟩ := List.mem_flatMap.mp member
    exact ascii_escapeChar origin c inEscape
  simpa [printText] using escaped

@[simp]
theorem ascii_toDigits (n : Nat) : Ascii (Nat.toDigits 10 n) := by
  intro c member
  have digit : c.isDigit = true := Nat.isDigit_of_mem_toDigits (by decide) (by decide) member
  have bounds : '0'.toNat ≤ c.toNat ∧ c.toNat ≤ '9'.toNat := Char.isDigit_iff_toNat.mp digit
  have nine : '9'.toNat < 0x80 := by decide
  omega

@[simp]
theorem ascii_integer (n : Int) : Ascii n.repr.toList := by
  cases n with
  | ofNat m => simp [Int.repr]
  | negSucc m => simp [Int.repr]

@[simp]
theorem ascii_newLine (indent : Nat) : Ascii (newLine indent) := by
  have blanks : Ascii (List.replicate indent ' ') := by
    intro c member
    rw [List.eq_of_mem_replicate member]
    decide
  simpa [newLine] using blanks

mutual

@[simp]
theorem ascii_printLine : ∀ document : Json, Ascii (printLine document)
  | null => by simp [printLine]
  | bool true => by simp [printLine]
  | bool false => by simp [printLine]
  | integer n => by simp [printLine]
  | decimal negative coefficient exponent => by
    cases negative <;> simp [printLine, printDecimal]
  | text s => by simp [printLine]
  | list items => by simp [printLine, ascii_printItems items]
  | object members => by simp [printLine, ascii_printMembers members]

theorem ascii_printItems : ∀ items : List Json, Ascii (printItems items)
  | [] => by simp [printItems]
  | [item] => by simp [printItems, ascii_printLine item]
  | item :: next :: rest => by
    simp [printItems, ascii_printLine item, ascii_printItems (next :: rest)]

theorem ascii_printMembers : ∀ members : List (String × Json), Ascii (printMembers members)
  | [] => by simp [printMembers]
  | [(name, value)] => by simp [printMembers, ascii_printLine value]
  | (name, value) :: next :: rest => by
    simp [printMembers, ascii_printLine value, ascii_printMembers (next :: rest)]

end

mutual

theorem ascii_printIndented : ∀ (indent : Nat) (document : Json),
    Ascii (printIndented indent document)
  | _, null => ascii_printLine _
  | _, bool _ => ascii_printLine _
  | _, integer _ => ascii_printLine _
  | _, decimal _ _ _ => ascii_printLine _
  | _, text _ => ascii_printLine _
  | _, list [] => ascii_printLine _
  | indent, list (item :: rest) => by
    simp [printIndented, ascii_printIndentedItems (indent + 2) (item :: rest)]
  | _, object [] => ascii_printLine _
  | indent, object (member :: rest) => by
    simp [printIndented, ascii_printIndentedMembers (indent + 2) (member :: rest)]

theorem ascii_printIndentedItems : ∀ (indent : Nat) (items : List Json),
    Ascii (printIndentedItems indent items)
  | _, [] => ascii_nil
  | indent, [item] => by simp [printIndentedItems, ascii_printIndented indent item]
  | indent, item :: next :: rest => by
    simp [printIndentedItems, ascii_printIndented indent item,
      ascii_printIndentedItems indent (next :: rest)]

theorem ascii_printIndentedMembers : ∀ (indent : Nat) (members : List (String × Json)),
    Ascii (printIndentedMembers indent members)
  | _, [] => ascii_nil
  | indent, [(name, value)] => by simp [printIndentedMembers, ascii_printIndented indent value]
  | indent, (name, value) :: next :: rest => by
    simp [printIndentedMembers, ascii_printIndented indent value,
      ascii_printIndentedMembers indent (next :: rest)]

end

theorem compact_ascii (document : Json) : Ascii document.compact.toList := by
  rw [compact, String.toList_ofList]
  exact ascii_printLine document

theorem pretty_ascii (document : Json) : Ascii document.pretty.toList := by
  rw [pretty, String.toList_ofList]
  exact ascii_printIndented 0 document

end QueryTyping.Json
